import Scaffold.Template.Json

/-! # Escaping

  How values are written under the escaping that is in force: as they are, safe
  for HTML, or as JSON.
-/

namespace Scaffold.Template

/-- The escaping in force. -/
inductive Escape where
  /-- Text is written as it is. -/
  | plain
  /-- Text is made safe for HTML. -/
  | html
  /-- Values are written as JSON. -/
  | json
  deriving DecidableEq, Repr

/-- One character of HTML text. -/
def htmlChar (c : Char) : List Char :=
  match c with
  | '<' => "&lt;".toList
  | '>' => "&gt;".toList
  | '&' => "&amp;".toList
  | '"' => "&quot;".toList
  | '\'' => "&#x27;".toList
  | '/' => "&#x2f;".toList
  | c => [c]

/-- A text that is safe in HTML. -/
def escapeHtml (s : String) : String := String.ofList (s.toList.flatMap htmlChar)

/-- The text of a value under an escaping. -/
def Escape.write (escape : Escape) (v : Value) : Outcome String :=
  match escape, v with
  | _, .text s true => .ok s
  | .plain, v => .ok v.render
  | .html, .text s false => .ok (escapeHtml s)
  | .html, v =>
    match v.kind with
    | .undefined | .none | .bool | .number => .ok v.render
    | _ => .ok (escapeHtml v.render)
  | .json, v => v.toJson none 0

/-- The text that an expression in the output becomes: truth values in small letters, and
nothing undefined. -/
def Escape.writeResult (escape : Escape) (v : Value) : Outcome String :=
  match v with
  | .undefined false => refuse .undefinedValue
  | .bool b => .ok (if b then "true" else "false")
  | v => escape.write v

/-- The text of output that was captured. -/
def Escape.captured (escape : Escape) (s : String) : Value := .text s (escape ≠ .plain)

end Scaffold.Template
