import Formula.Token
import Formula.Text.Blank
import Formula.Text.Alphabetic
import Formula.Text.Numeric

namespace Formula

/-- Why no token starts at a place. -/
inductive LexicalFault where
  | lone (c : Char)
  | noFraction
  | noExponent
  | unexpected (c : Char)
deriving DecidableEq

def LexicalFault.message : LexicalFault → String
  | .lone c => s!"unexpected '{c}' (did you mean '{c}{c}'?)"
  | .noFraction => "expected digits after '.'"
  | .noExponent => "expected digits in exponent"
  | .unexpected c => s!"unexpected character '{c}'"

/-- What is found at the start of a text: a token and the number of characters it takes, or a fault
and the number of characters before it. -/
inductive Reading where
  | token (token : Token) (length : Nat)
  | fault (fault : LexicalFault) (length : Nat)

namespace Reading

def startsName (c : Char) : Bool :=
  Text.isAlphabetic c || c == '_' || c == '$'

def continuesName (c : Char) : Bool :=
  Text.isAlphabetic c || Text.isNumeric c || c == '_' || c == '$'

def startsWithDigit : List Char → Bool
  | c :: _ => c.isDigit
  | [] => false

/-- The fraction at the start of a text, empty where there is no point, or nothing where a point
has no digit behind it. -/
def fraction? : List Char → Option (List Char)
  | '.' :: rest => if startsWithDigit rest then some ('.' :: rest.takeWhile Char.isDigit) else none
  | _ => some []

/-- The exponent at the start of a text, empty where there is no mark, or nothing where a mark has
no digits behind it. -/
def exponent? : List Char → Option (List Char)
  | mark :: rest =>
    if mark == 'e' || mark == 'E' then
      let (sign, digits) := match rest with
        | '+' :: digits => (['+'], digits)
        | '-' :: digits => (['-'], digits)
        | digits => ([], digits)
      if startsWithDigit digits then some (mark :: sign ++ digits.takeWhile Char.isDigit) else none
    else
      some []
  | [] => some []

/-- Digits, a fraction and an exponent. The first two are not both missing where this is used. -/
def number (text : List Char) : Reading :=
  let whole := text.takeWhile Char.isDigit
  match fraction? (text.drop whole.length) with
  | none => .fault .noFraction whole.length
  | some fraction =>
    let significand := whole ++ fraction
    match exponent? (text.drop significand.length) with
    | none => .fault .noExponent significand.length
    | some exponent =>
      let numeral := significand ++ exponent
      .token (.number (.ofList numeral)) numeral.length

def name (text : List Char) : Reading :=
  let characters := text.takeWhile continuesName
  .token (.identifier (.ofList characters)) characters.length

/-- The token at the start of a text that does not start with a blank. -/
def ofText : List Char → Reading
  | [] => .token .finish 0
  | '+' :: _ => .token .plus 1
  | '-' :: _ => .token .minus 1
  | '*' :: _ => .token .star 1
  | '/' :: _ => .token .slash 1
  | '\\' :: _ => .token .backslash 1
  | '^' :: _ => .token .caret 1
  | '?' :: _ => .token .question 1
  | ':' :: _ => .token .colon 1
  | ',' :: _ => .token .comma 1
  | '(' :: _ => .token .leftParen 1
  | ')' :: _ => .token .rightParen 1
  | '[' :: _ => .token .leftBracket 1
  | ']' :: _ => .token .rightBracket 1
  | '\x7b' :: _ => .token .leftBrace 1
  | '\x7d' :: _ => .token .rightBrace 1
  | '>' :: '=' :: _ => .token .greaterEqual 2
  | '>' :: _ => .token .greater 1
  | '!' :: '=' :: _ => .token .notEqual 2
  | '!' :: _ => .token .exclamation 1
  | '<' :: '=' :: _ => .token .lessEqual 2
  | '<' :: '>' :: _ => .token .notEqual 2
  | '<' :: _ => .token .less 1
  | '=' :: '=' :: _ => .token .equal 2
  | '=' :: '<' :: _ => .token .lessEqual 2
  | '=' :: '>' :: _ => .token .greaterEqual 2
  | '=' :: _ => .fault (.lone '=') 0
  | '&' :: '&' :: _ => .token .and 2
  | '&' :: _ => .fault (.lone '&') 0
  | '|' :: '|' :: _ => .token .or 2
  | '|' :: _ => .fault (.lone '|') 0
  | text@(c :: _) =>
    if c == '.' || c.isDigit then number text
    else if startsName c then name text
    else .fault (.unexpected c) 0

end Reading

/-- A place where no token could be read. -/
structure LexError where
  fault : LexicalFault
  position : Nat
deriving DecidableEq

def LexError.message (e : LexError) : String :=
  s!"{e.fault.message} at position {e.position}"

/-- A text that is read token by token. -/
structure Lexer where
  /-- The whole text. -/
  source : String
  /-- The text not read yet. -/
  rest : List Char
  /-- How many characters have been read. -/
  position : Nat
  /-- Where the last reading started, blanks aside. -/
  tokenStart : Nat

namespace Lexer

def ofText (text : String) : Lexer :=
  ⟨text, text.toList, 0, 0⟩

def skipBlanks (lexer : Lexer) : Lexer :=
  let blanks := lexer.rest.takeWhile Text.isBlank
  let start := lexer.position + blanks.length
  ⟨lexer.source, lexer.rest.drop blanks.length, start, start⟩

def skip (lexer : Lexer) (length : Nat) : Lexer :=
  { lexer with rest := lexer.rest.drop length, position := lexer.position + length }

/-- Reads a token. After a fault the lexer stands in front of it, and reading can go on there. At
the end of the text every reading finds the end again. -/
def next : EStateM LexError Lexer Token := fun lexer =>
  let lexer := lexer.skipBlanks
  match Reading.ofText lexer.rest with
  | .token token length => .ok token (lexer.skip length)
  | .fault fault length => .error ⟨fault, lexer.position + length⟩ (lexer.skip length)

/-- Reads tokens up to the end of the text, of which `unread` holds at least one character for
each. -/
def tokensFrom (tokens : Array Token) : (unread : List Char) → EStateM LexError Lexer (List Token)
  | [] => do return (tokens.push (← next)).toList
  | _ :: unread => do
    let token ← next
    if token = .finish then return (tokens.push token).toList
    else tokensFrom (tokens.push token) unread

/-- All tokens that are left, the end of the text being the last. -/
def tokens : EStateM LexError Lexer (List Token) := do
  tokensFrom #[] (← get).rest

end Lexer
end Formula
