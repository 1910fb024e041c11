import Scaffold.Template.Failure
import Scaffold.Template.Value
import Scaffold.Text.JsonString

/-! # JSON form of values

  Values as JSON, in one line or indented. Characters that have a meaning in
  markup are written as escapes, so that the text is safe in a page.
-/

namespace Scaffold.Template

/-! ### Layout -/

/-- How JSON is laid out: in one line, or with a width per level. -/
abbrev JsonIndent := Option Nat

/-- A line end and the indent of a level, or nothing. -/
def jsonBreak (indent : JsonIndent) (level : Nat) : String :=
  match indent with
  | none => ""
  | some width => "\n" ++ String.ofList (List.replicate (width * level) ' ')

/-- Members between brackets. -/
def jsonBracket (indent : JsonIndent) (level : Nat) (openMark closeMark : String)
    (members : List String) : String :=
  match members with
  | [] => openMark ++ closeMark
  | _ =>
    openMark ++ jsonBreak indent (level + 1) ++
      String.intercalate ("," ++ jsonBreak indent (level + 1)) members ++
      jsonBreak indent level ++ closeMark

/-- What stands between a key and its value. -/
def jsonColon (indent : JsonIndent) : String := if indent.isSome then ": " else ":"

/-- The key of an object: a text, or a number or truth value written as one. -/
def jsonKey : Value → Outcome String
  | .text s _ => .ok (Text.jsonString s)
  | .int i => .ok ("\"" ++ toString i ++ "\"")
  | .wide n => .ok ("\"" ++ toString n ++ "\"")
  | .float f => .ok ("\"" ++ Decimal.json.write f ++ "\"")
  | .bool b => .ok (if b then "\"true\"" else "\"false\"")
  | _ => refuse .badSerialization

/-! ### Values -/

mutual

/-- The JSON form of a value. -/
def Value.toJson (indent : JsonIndent) (level : Nat) : Value → Outcome String
  | .undefined _ | .none => .ok "null"
  | .bool b => .ok (if b then "true" else "false")
  | .int i => .ok (toString i)
  | .wide n => .ok (toString n)
  | .float f => .ok (if f.isNaN || f.isInf then "null" else Decimal.json.write f)
  | .text s _ => .ok (Text.jsonString s)
  | .list items form _ =>
    if form = .failing then refuse .badSerialization
    else do return jsonBracket indent level "[" "]" (← jsonItems indent (level + 1) items)
  | .map entries _ _ => do
    return jsonBracket indent level "\x7b" "\x7d" (← jsonEntries indent (level + 1) entries)
  | .function f => .ok (Text.jsonString f.text)
  | .record _ | .loop _ => .ok "\x7b\x7d"

/-- The JSON forms of items. -/
def jsonItems (indent : JsonIndent) (level : Nat) : List Value → Outcome (List String)
  | [] => .ok []
  | v :: rest => do return (← v.toJson indent level) :: (← jsonItems indent level rest)

/-- The JSON forms of entries. -/
def jsonEntries (indent : JsonIndent) (level : Nat) :
    List (Value × Value) → Outcome (List String)
  | [] => .ok []
  | (k, v) :: rest => do
    let key ← jsonKey k
    let value ← v.toJson indent level
    return (key ++ jsonColon indent ++ value) :: (← jsonEntries indent level rest)

end

/-- One character of JSON text that is safe in markup. -/
def safeJsonChar (c : Char) : List Char :=
  match c with
  | '<' => "\\u003c".toList
  | '>' => "\\u003e".toList
  | '&' => "\\u0026".toList
  | '\'' => "\\u0027".toList
  | c => [c]

/-- The JSON form of a value, safe in markup. -/
def Value.toSafeJson (indent : JsonIndent) (v : Value) : Outcome String := do
  return String.ofList ((← v.toJson indent 0).toList.flatMap safeJsonChar)

end Scaffold.Template
