import Formula.Builder
import Formula.Text.Quoted

namespace Formula

/-- The fields of a structure with their names, in braces behind the name of the structure. -/
def inspected (name : String) (fields : List (String × String)) : String :=
  let written := ", ".intercalate (fields.map (fun (field, text) => field ++ ": " ++ text))
  name ++ " \x7b " ++ written ++ " \x7d"

def quotedNames (names : List String) : String :=
  ", ".intercalate (names.map Text.quoted)

def Node.inspectStyle : Node.Style where
  before node :=
    "Node \x7b kind: " ++ node.kind.label ++ ", text: " ++ Text.quoted node.text ++ ", children: ["
  between := ", "
  after _ := "] \x7d"

/-- All fields of a tree. -/
def Node.inspect (node : Node) : String :=
  Node.inspectStyle.write node

def Bindings.inspect (bindings : Bindings V F) : String :=
  inspected "Bindings"
    [("variables", "[" ++ quotedNames bindings.variableNames ++ "]"),
     ("functions", "[" ++ quotedNames bindings.functionNames ++ "]")]

def Context.inspect (context : Context V F) : String :=
  inspected "Context"
    [("defaults", context.defaults.inspect), ("overrides", context.overrides.inspect)]

def Builder.inspect (builder : Builder V F) : String :=
  inspected "Builder"
    [("defaults", builder.defaults.inspect), ("max_depth", toString builder.limit)]

def Names.inspect (names : Names) : String :=
  "\x7b" ++ quotedNames names.toList ++ "\x7d"

def Expression.inspect (expression : Expression V F) : String :=
  inspected "Expression"
    [("root", expression.root.inspect), ("context", expression.context.inspect),
     ("func_names", Names.inspect expression.functionNames),
     ("var_names", Names.inspect expression.variableNames)]

end Formula
