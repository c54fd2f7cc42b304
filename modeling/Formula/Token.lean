namespace Formula

/-- The words of the expression language. Literals and names keep their text. -/
inductive Token where
  | number (text : String)
  | identifier (name : String)
  | plus
  | minus
  | star
  | slash
  | backslash
  | caret
  | less
  | lessEqual
  | greater
  | greaterEqual
  | equal
  | notEqual
  | exclamation
  | and
  | or
  | question
  | colon
  | comma
  | leftParen
  | rightParen
  | leftBracket
  | rightBracket
  | leftBrace
  | rightBrace
  | finish
deriving DecidableEq

/-- How a token is displayed. Where it has two spellings this is the usual one. -/
def Token.text : Token → String
  | .number text => text
  | .identifier name => name
  | .plus => "+"
  | .minus => "-"
  | .star => "*"
  | .slash => "/"
  | .backslash => "\\"
  | .caret => "^"
  | .less => "<"
  | .lessEqual => "<="
  | .greater => ">"
  | .greaterEqual => ">="
  | .equal => "=="
  | .notEqual => "!="
  | .exclamation => "!"
  | .and => "&&"
  | .or => "||"
  | .question => "?"
  | .colon => ":"
  | .comma => ","
  | .leftParen => "("
  | .rightParen => ")"
  | .leftBracket => "["
  | .rightBracket => "]"
  | .leftBrace => "\x7b"
  | .rightBrace => "\x7d"
  | .finish => "end of input"

/-- A token as an error message names it. -/
def Token.quoted : Token → String
  | .finish => Token.finish.text
  | token => s!"'{token.text}'"

end Formula
