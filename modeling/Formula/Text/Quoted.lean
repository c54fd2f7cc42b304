import Formula.Text.Printable

namespace Formula.Text

/-- A character as it stands between quotes. One without a shape of its own is given by its code
point in hexadecimal. -/
def escaped (c : Char) : String :=
  match c with
  | '\x00' => "\\0"
  | '\t' => "\\t"
  | '\n' => "\\n"
  | '\r' => "\\r"
  | '"' => "\\\""
  | '\\' => "\\\\"
  | c =>
    if isPrintable c then c.toString
    else "\\u\x7b" ++ .ofList (Nat.toDigits 16 c.toNat) ++ "\x7d"

/-- A text between quotes, on one line and without characters that cannot be seen. -/
def quoted (text : String) : String :=
  text.foldl (fun written c => written ++ escaped c) "\"" ++ "\""

end Formula.Text
