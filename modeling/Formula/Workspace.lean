import Formula.Inspection

namespace Formula

/-- What a workspace holds under a name. -/
inductive Holding (V F : Type) where
  | builder (builder : Builder V F)
  | context (context : Context V F)
  | expression (expression : Expression V F)

namespace Holding

/-- The layer that changes apply to. -/
def layer : Holding V F → Bindings V F
  | .builder b => b.defaults
  | .context c => c.overrides
  | .expression e => e.context.overrides

def change (holding : Holding V F) (change : Change V F) : Holding V F :=
  match holding with
  | .builder b => .builder (b.change change)
  | .context c => .context (c.change change)
  | .expression e => .expression (e.change change)

/-- The names seen from here: those of a context of its own for a builder. -/
def scope : Holding V F → Context V F
  | .builder b => b.context
  | .context c => c
  | .expression e => e.context

def inspect : Holding V F → String
  | .builder b => b.inspect
  | .context c => c.inspect
  | .expression e => e.inspect

end Holding

/-- Builders, contexts and expressions under names of their own. They are values: a change to one
leaves all others as they are. -/
abbrev Workspace (V F : Type) := Std.TreeMap String (Holding V F)

/-- A step of work on a workspace that evaluates nothing. -/
inductive Command (V F : Type) where
  /-- Puts a builder under a name. -/
  | build (name : String) (builder : Builder V F)
  /-- Parses a text with a builder. If it is no expression, the name keeps what it held. -/
  | parse (builder : String) (text : String) (name : String)
  /-- Puts the context of something under a name. -/
  | context (source : String) (name : String)
  /-- Puts a copy of something under a name. -/
  | clone (source : String) (name : String)
  | change (name : String) (change : Change V F)

namespace Workspace

/-- Carries out a command. One that names nothing of the right sort does nothing. -/
def step (workspace : Workspace V F) : Command V F → Workspace V F
  | .build name builder => workspace.insert name (.builder builder)
  | .parse builder text name =>
    match workspace[builder]? with
    | some (.builder builder) =>
      match builder.parse text with
      | .ok expression => workspace.insert name (.expression expression)
      | .error _ => workspace
    | _ => workspace
  | .context source name =>
    match workspace[source]? with
    | some holding => workspace.insert name (.context holding.scope)
    | none => workspace
  | .clone source name =>
    match workspace[source]? with
    | some holding => workspace.insert name holding
    | none => workspace
  | .change name change =>
    match workspace[name]? with
    | some holding => workspace.insert name (holding.change change)
    | none => workspace

def run (workspace : Workspace V F) (commands : List (Command V F)) : Workspace V F :=
  commands.foldl step workspace

end Workspace
end Formula
