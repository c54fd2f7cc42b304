import Formula.Lexer
import Formula.Node

namespace Formula

/-- Why a text is no expression. -/
inductive SyntaxFault where
  | lexical (fault : LexicalFault)
  | unexpected (found : Token)
  | expected (wanted found : Token)
  | tooDeep (limit : Nat)
deriving DecidableEq

def SyntaxFault.message : SyntaxFault → String
  | .lexical fault => fault.message
  | .unexpected found => s!"unexpected {found.quoted}"
  | .expected wanted found => s!"expected '{wanted.text}', found {found.quoted}"
  | .tooDeep limit => s!"expression nested too deeply (limit is {limit})"

/-- A fault, where it was found, and the whole text. -/
structure SyntaxError where
  input : String
  fault : SyntaxFault
  position : Nat
deriving DecidableEq

def SyntaxError.message (e : SyntaxError) : String :=
  s!"invalid syntax: {e.input} ({e.fault.message} at position {e.position})"

/-- A lexer, the token it read last, and how deep expressions may be nested. -/
structure Parser where
  lexer : Lexer
  current : Token
  limit : Nat

/-- What can be nested: the levels of precedence that read the same level or the loosest one
again. -/
inductive Level where
  | conditional
  | or
  | and
  | equality
  | relation
  | power
  | signed

namespace Parser

abbrev Parse := EStateM SyntaxError Parser

def defaultLimit : Nat := 256

def lexicalError (lexer : Lexer) (e : LexError) : SyntaxError :=
  ⟨lexer.source, .lexical e.fault, e.position⟩

/-- A parser that starts at the next token of a lexer. -/
def start? (limit : Nat) (lexer : Lexer) : Except SyntaxError Parser :=
  match Lexer.next lexer with
  | .ok token lexer => .ok ⟨lexer, token, limit⟩
  | .error e lexer => .error (lexicalError lexer e)

def peek : Parse Token := do
  return (← get).current

/-- Reports a fault at the current token. -/
def fail (fault : SyntaxFault) : Parse α := fun parser =>
  .error ⟨parser.lexer.source, fault, parser.lexer.tokenStart⟩ parser

/-- Moves on to the next token. Where there is none the current token stays. -/
def advance : Parse Unit := fun parser =>
  match Lexer.next parser.lexer with
  | .ok token lexer => .ok () { parser with lexer, current := token }
  | .error e lexer => .error (lexicalError lexer e) { parser with lexer }

/-- Moves on from a token that starts an operand. Where there is no next token the text counts as
finished. -/
def consume : Parse Unit := do
  modify (fun parser => { parser with current := .finish })
  advance

def expect (wanted : Token) : Parse Unit := do
  let found ← peek
  if found = wanted then advance else fail (.expected wanted found)

def signOf? : Token → Option Sign
  | .plus => some .plus
  | .minus => some .minus
  | .exclamation => some .not
  | _ => none

def power? : Token → Option Operator
  | .caret => some .power
  | _ => none

def multiplicative? : Token → Option Operator
  | .star => some .multiply
  | .slash => some .divide
  | .backslash => some .quotient
  | _ => none

def additive? : Token → Option Operator
  | .plus => some .add
  | .minus => some .subtract
  | _ => none

def relation? : Token → Option Operator
  | .less => some .less
  | .lessEqual => some .lessEqual
  | .greater => some .greater
  | .greaterEqual => some .greaterEqual
  | _ => none

def equality? : Token → Option Operator
  | .equal => some .equal
  | .notEqual => some .notEqual
  | _ => none

def and? : Token → Option Operator
  | .and => some .and
  | _ => none

def or? : Token → Option Operator
  | .or => some .or
  | _ => none

/-- Arguments from right to left, paired up so that each stands before all later ones. -/
def pairUp (last : Node) (earlier : List Node) : Node :=
  earlier.foldl (fun later argument => .operator .arguments [argument, later]) last

section

/-! Each level reads nested expressions through `descend`. -/

variable (descend : Level → Parse Node)

/-- An expression up to a closing bracket. The opening one is the current token. -/
def group (closing : Token) : Parse Node := do
  consume
  let inner ← descend .conditional
  expect closing
  return .operator .group [inner]

/-- Further arguments, each behind a comma. Each takes at least one of the characters that are
`unread` behind the first comma. -/
def arguments (last : Node) (earlier : List Node) (unread : List Char) : Parse Node := do
  if (← peek) = .comma then
    advance
    let argument ← descend .conditional
    match unread with
    | [] => return pairUp argument (last :: earlier)
    | _ :: unread => arguments argument (last :: earlier) unread
  else
    return pairUp last earlier

/-- The arguments of a call, whose opening parenthesis is the current token. -/
def call (name : String) : Parse Node := do
  advance
  if (← peek) = .rightParen then
    advance
    return .leaf .call name
  else
    let first ← descend .conditional
    let all ← arguments descend first [] (← get).lexer.rest
    expect .rightParen
    return ⟨.call, name, [all]⟩

/-- A number, a name, a call or an expression in brackets. -/
def atom : Parse Node := do
  match ← peek with
  | .number text =>
    consume
    return .leaf .number text
  | .identifier name =>
    consume
    if (← peek) = .leftParen then call descend name else return .leaf .identifier name
  | .leftParen => group descend .rightParen
  | .leftBracket => group descend .rightBracket
  | .leftBrace => group descend .rightBrace
  | found => fail (.unexpected found)

/-- An operand with any number of signs in front. -/
def signed : Parse Node := do
  match signOf? (← peek) with
  | some s =>
    advance
    return .operator (.sign s) [← descend .signed]
  | none => atom descend

/-- An operand, and behind an operator the same level again: operators group to the right. -/
def rightward (operand : Parse Node) (again : Level) (operator? : Token → Option Operator) :
    Parse Node := do
  let left ← operand
  match operator? (← peek) with
  | some op =>
    advance
    return .operator (.operator op) [left, ← descend again]
  | none => return left

/-- Further operands, each behind an operator and joined to all before it. Each takes at least one
of the characters that are `unread` behind the first operator. -/
def joined (operand : Parse Node) (operator? : Token → Option Operator) (left : Node)
    (unread : List Char) : Parse Node := do
  match operator? (← peek) with
  | some op =>
    advance
    let left := .operator (.operator op) [left, ← operand]
    match unread with
    | [] => return left
    | _ :: unread => joined operand operator? left unread
  | none => return left

/-- Operands with operators between them that group to the left. -/
def leftward (operand : Parse Node) (operator? : Token → Option Operator) : Parse Node := do
  let left ← operand
  joined operand operator? left (← get).lexer.rest

def power : Parse Node := rightward descend (signed descend) .power power?
def multiplicative : Parse Node := leftward (power descend) multiplicative?
def additive : Parse Node := leftward (multiplicative descend) additive?
def relation : Parse Node := rightward descend (additive descend) .relation relation?
def equality : Parse Node := rightward descend (relation descend) .equality equality?
def and : Parse Node := rightward descend (equality descend) .and and?
def or : Parse Node := rightward descend (and descend) .or or?

/-- A condition, and behind a question mark the two choices. -/
def conditional : Parse Node := do
  let condition ← or descend
  if (← peek) = .question then
    advance
    let yes ← descend .conditional
    expect .colon
    let no ← descend .conditional
    return .operator .conditional [condition, yes, no]
  else
    return condition

def level : Level → Parse Node
  | .conditional => conditional descend
  | .or => or descend
  | .and => and descend
  | .equality => equality descend
  | .relation => relation descend
  | .power => power descend
  | .signed => signed descend

end

/-- Reads a level when there is room for so many more levels of nesting. -/
def nested : Nat → Level → Parse Node
  | 0, _ => do fail (.tooDeep (← get).limit)
  | room + 1, l => level (nested room) l

/-- The longest expression at the current token. -/
def expression : Parse Node := do
  nested (← get).limit .conditional

/-- An expression that reaches to the end of the text. -/
def parse : Parse Node := do
  let root ← expression
  match ← peek with
  | .finish => return root
  | found => fail (.unexpected found)

end Parser
end Formula
