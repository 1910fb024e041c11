import Scaffold.Template.Failure
import Scaffold.Template.Value

/-! # Arguments of functions, filters and tests

  How the arguments of a call are read: in order, each in the form that the
  parameter asks for, and with a failure for what is missing or left over. An
  undefined value or `none` leaves an optional argument out.
-/

namespace Scaffold.Template

/-- A reader of arguments. -/
abbrev Reader := StateT (List Value) Outcome

namespace Reader

/-! ### Positions -/

/-- The next argument, if there is one. -/
def optional : Reader (Option Value) := do
  match ← get with
  | [] => return none
  | v :: rest =>
    set rest
    return some v

/-- The next argument. -/
def value : Reader Value := do
  match ← optional with
  | some v => return v
  | none => refuse .missingArgument

/-- The next argument, which may not be an unbound name. -/
def bound : Reader Value := do
  match ← value with
  | .undefined false => refuse .undefinedValue
  | v => return v

/-- The next argument, unless it is left out. -/
def given : Reader (Option Value) := do
  match ← optional with
  | none | some (.undefined _) | some .none => return none
  | some v => return some v

/-- There may be no further argument. -/
def done : Reader Unit := do
  match ← get with
  | [] => return ()
  | _ => refuse .tooManyArguments

/-! ### Forms -/

/-- The text of a value. -/
def asText : Value → Outcome String
  | .undefined _ => refuse .undefinedValue
  | .map _ .keywords _ => refuse .invalidOperation
  | v => .ok v.render

/-- The text of a textual value. -/
def asStrictText : Value → Outcome String
  | .text s _ => .ok s
  | _ => refuse .invalidOperation

/-- A value as whole number within bounds. -/
def asIntWithin (low high : Int) (v : Value) : Outcome Int :=
  match v.int? with
  | some i => if low ≤ i ∧ i < high then .ok i else refuse .invalidOperation
  | none => refuse .invalidOperation

/-- A value as whole number. -/
def asInt : Value → Outcome Int := asIntWithin Value.wordMin Value.wordEnd

/-- A value as a number of decimal places. -/
def asPlaces : Value → Outcome Int := asIntWithin (-2147483648) 2147483648

/-- A value as count. -/
def asNat (v : Value) : Outcome Nat := do
  return (← asIntWithin 0 18446744073709551616 v).toNat

/-- A value as truth value. -/
def asBool : Value → Outcome Bool
  | .bool b => .ok b
  | _ => refuse .invalidOperation

/-- The next argument in a form. -/
def formed {α : Type} (form : Value → Outcome α) : Reader α := do form (← value)

/-- The next argument in a form, unless it is left out. -/
def formed? {α : Type} (form : Value → Outcome α) : Reader (Option α) := do
  match ← given with
  | some v => return some (← form v)
  | none => return none

/-- All arguments that are left. -/
def rest : Reader (List Value) := do
  let found ← get
  set ([] : List Value)
  return found

/-! ### Names -/

/-- Removes the named arguments from the end. -/
def keywords : Reader (List (Value × Value)) := do
  let found ← get
  match found.getLast? with
  | some (.map entries .keywords _) =>
    set found.dropLast
    return entries
  | _ => return []

end Reader

/-- A named argument, unless it is left out. -/
def keyword? (entries : List (Value × Value)) (name : String) : Option Value :=
  match Value.getField entries name with
  | some (.undefined _) | some .none | none => none
  | some v => some v

/-- A named argument in a form, unless it is left out. -/
def keywordAs? {α : Type} (entries : List (Value × Value)) (name : String)
    (form : Value → Outcome α) : Outcome (Option α) :=
  match keyword? entries name with
  | some v => (form v).map some
  | none => .ok none

/-- A named truth value that is false unless given. -/
def keywordFlag (entries : List (Value × Value)) (name : String) : Outcome Bool := do
  return (← keywordAs? entries name Reader.asBool).getD false

/-- Refuses the first name that is not in the list, or is no text. -/
def onlyKeywords (entries : List (Value × Value)) (names : List String) : Outcome Unit :=
  entries.forM fun e =>
    match e.1 with
    | .text name _ => if names.contains name then .ok () else refuse .tooManyArguments
    | _ => refuse .invalidOperation

end Scaffold.Template
