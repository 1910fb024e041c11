import Scaffold.Template.Value

/-! # Values over several lines

  The text of a value with every item and entry on a line of its own, further
  in by four blanks at every level.
-/

namespace Scaffold.Template

/-- The blanks of a level. -/
def prettyMargin (level : Nat) : String := String.ofList (List.replicate (4 * level) ' ')

mutual

/-- The text of a value over several lines, at a level. -/
def prettyText (level : Nat) : Value → String
  | .list [] form _ => if form.isCounted then "[]" else Value.uncountedText
  | .list items form _ =>
    if form.isCounted then "[\n" ++ prettyItems (level + 1) items ++ prettyMargin level ++ "]"
    else Value.uncountedText
  | .map entries role _ =>
    match role.text?, entries with
    | some own, _ => own
    | none, [] => "\x7b\x7d"
    | none, _ => "\x7b\n" ++ prettyEntries (level + 1) entries ++ prettyMargin level ++ "\x7d"
  | v => v.member

/-- Items on lines of their own. -/
def prettyItems (level : Nat) : List Value → String
  | [] => ""
  | v :: rest => prettyMargin level ++ prettyText level v ++ ",\n" ++ prettyItems level rest

/-- Entries on lines of their own. -/
def prettyEntries (level : Nat) : List (Value × Value) → String
  | [] => ""
  | (k, v) :: rest =>
    prettyMargin level ++ prettyText level k ++ ": " ++ prettyText level v ++ ",\n" ++
      prettyEntries level rest

end

end Scaffold.Template
