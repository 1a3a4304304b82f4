import BuildWatch.Text.Graphic

/-!
Text in quotes, as messages show names that cannot be trusted: the quote, the backslash and the
usual controls have short escapes, and a character without a shape of its own is spelled by its
code point.
-/

namespace BuildWatch.Quoted

def hex (number : Nat) : String :=
  String.ofList (Nat.toDigits 16 number)

def escape (char : Char) : String :=
  match char with
  | '"' => "\\\""
  | '\\' => "\\\\"
  | '\n' => "\\n"
  | '\r' => "\\r"
  | '\t' => "\\t"
  | _ =>
    if char.toNat = 0 then "\\0"
    else if Graphic.isShown char then char.toString
    else "\\u\x7b" ++ hex char.toNat ++ "\x7d"

def quote (text : String) : String :=
  "\"" ++ String.join (text.toList.map escape) ++ "\""

end BuildWatch.Quoted
