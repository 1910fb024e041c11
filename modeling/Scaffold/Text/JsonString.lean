import Scaffold.Text.Quoted

/-! # Strings of JSON

  The written form of a text in JSON: between double quotes, with escapes for
  quotes, backslashes and control characters only.
-/

namespace Scaffold.Text

/-- One character of a JSON string. -/
def jsonChar (c : Char) : List Char :=
  match c with
  | '"' => ['\\', '"']
  | '\\' => ['\\', '\\']
  | '\x08' => ['\\', 'b']
  | '\x0c' => ['\\', 'f']
  | '\n' => ['\\', 'n']
  | '\r' => ['\\', 'r']
  | '\t' => ['\\', 't']
  | c =>
    if c.toNat < 16 then ['\\', 'u', '0', '0', '0'] ++ hexDigits c.toNat
    else if c.toNat < 32 then ['\\', 'u', '0', '0'] ++ hexDigits c.toNat
    else [c]

/-- The text as a JSON string. -/
def jsonString (s : String) : String :=
  String.ofList ('"' :: s.toList.flatMap jsonChar ++ ['"'])

end Scaffold.Text
