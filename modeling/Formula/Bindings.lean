import Formula.Text.LowerCase
import Std.Data.TreeMap

namespace Formula

/-- The variables and functions bound in one layer, under their names in lower case. A variable is
bound to a handle of type `V` and a function to one of type `F`. -/
structure Bindings (V F : Type) where
  variableTable : Std.TreeMap String V := ∅
  functionTable : Std.TreeMap String F := ∅

/-- A change to one layer. Spellings of a name that differ only in case are the same name. -/
inductive Change (V F : Type) where
  | setVariable (name : String) (handle : V)
  | setFunction (name : String) (handle : F)
  | unsetVariable (name : String)
  | unsetFunction (name : String)
  | resetVariables
  | resetFunctions

namespace Bindings

def empty : Bindings V F := {}

def getVariable? (bindings : Bindings V F) (name : String) : Option V :=
  bindings.variableTable[Text.lower name]?

def getFunction? (bindings : Bindings V F) (name : String) : Option F :=
  bindings.functionTable[Text.lower name]?

def setVariable (bindings : Bindings V F) (name : String) (handle : V) : Bindings V F :=
  { bindings with variableTable := bindings.variableTable.insert (Text.lower name) handle }

def setFunction (bindings : Bindings V F) (name : String) (handle : F) : Bindings V F :=
  { bindings with functionTable := bindings.functionTable.insert (Text.lower name) handle }

def unsetVariable (bindings : Bindings V F) (name : String) : Bindings V F :=
  { bindings with variableTable := bindings.variableTable.erase (Text.lower name) }

def unsetFunction (bindings : Bindings V F) (name : String) : Bindings V F :=
  { bindings with functionTable := bindings.functionTable.erase (Text.lower name) }

def change (bindings : Bindings V F) : Change V F → Bindings V F
  | .setVariable name handle => bindings.setVariable name handle
  | .setFunction name handle => bindings.setFunction name handle
  | .unsetVariable name => bindings.unsetVariable name
  | .unsetFunction name => bindings.unsetFunction name
  | .resetVariables => { bindings with variableTable := ∅ }
  | .resetFunctions => { bindings with functionTable := ∅ }

/-- The bound names in lower case and in order. -/
def variableNames (bindings : Bindings V F) : List String :=
  bindings.variableTable.keys

def functionNames (bindings : Bindings V F) : List String :=
  bindings.functionTable.keys

end Bindings
end Formula
