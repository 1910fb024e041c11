import Scaffold.Template.Operation

/-! # Syntax of templates

  Expressions and statements, each with the line where it starts, and the
  constructors that evaluate what is already known.

  - `Expr.settled`: the line of the part of an expression that is worked out last;
    a failure of the whole is reported there.
  - `Expr.folded…`: constructors that fold constants.
-/

namespace Scaffold.Template

/-! ### Expressions -/

mutual

/-- An expression. -/
inductive Expr where
  /-- A known value. -/
  | const (value : Value) (line : Nat)
  /-- A name. -/
  | var (name : String) (line : Nat)
  /-- The text that the enclosing statement has captured. -/
  | captured (line : Nat)
  /-- The part of a text or list between two positions. -/
  | slice (e : Expr) (start stop step : Option Expr) (line : Nat)
  /-- Negation of a truth value. -/
  | not (e : Expr) (line : Nat)
  /-- The opposite of a number. -/
  | neg (e : Expr) (line : Nat)
  /-- An operator between two operands. -/
  | binary (op : Operator) (left right : Expr) (line : Nat)
  /-- The right operand if the left one is true. -/
  | and (left right : Expr) (line : Nat)
  /-- The left operand if it is true, else the right one. -/
  | or (left right : Expr) (line : Nat)
  /-- A chain of comparisons. -/
  | chain (first : Expr) (links : List Link) (line : Nat)
  /-- A choice. -/
  | choose (test yes : Expr) (no : Option Expr) (line : Nat)
  /-- A filter applied to a value. -/
  | filter (name : String) (e : Expr) (args : List Arg) (line : Nat)
  /-- A test applied to a value. -/
  | test (name : String) (e : Expr) (args : List Arg) (line : Nat)
  /-- A member by its name. -/
  | attr (e : Expr) (name : String) (line : Nat)
  /-- A member by a subscript. -/
  | item (e key : Expr) (line : Nat)
  /-- A call. -/
  | call (callee : Expr) (args : List Arg) (line : Nat)
  /-- A list. -/
  | list (items : List Expr) (line : Nat)
  /-- A map, by its keys and their values. -/
  | map (entries : List Pair) (line : Nat)

/-- A comparison with a further operand. -/
inductive Link where
  | mk (op : Comparison) (e : Expr)

/-- A key and its value. -/
inductive Pair where
  | mk (key value : Expr)

/-- An argument of a call. -/
inductive Arg where
  /-- By position. -/
  | positional (e : Expr)
  /-- By name. -/
  | keyword (name : String) (e : Expr)
  /-- The members of a list, by position. -/
  | spread (e : Expr)
  /-- The entries of a map, by name. -/
  | spreadKeywords (e : Expr)

end

instance : Inhabited Expr := ⟨.const .none 0⟩

/-! ### Lines -/

/-- Whether the named arguments are known before the call, so that nothing is left to work out. -/
def namedAreKnown : List Arg → Bool
  | [] => true
  | .keyword _ (.const _ _) :: rest | .positional _ :: rest | .spread _ :: rest =>
    namedAreKnown rest
  | _ => false

mutual

/-- The line of the part of an expression that is worked out last. -/
def Expr.settled : Expr → Nat
  | .const _ line | .var _ line | .captured line => line
  | .slice e start stop step _ =>
    settledOption step (settledOption stop (settledOption start e.settled))
  | .not e _ | .neg e _ => e.settled
  | .binary _ _ right _ | .and _ right _ | .or _ right _ => right.settled
  | .chain first links _ => settledLinks links first.settled
  | .choose _ yes no _ => settledOption no yes.settled
  | .filter _ e args _ | .test _ e args _ => settledArgs args e.settled
  | .attr e _ _ => e.settled
  | .item _ key _ => key.settled
  | .call callee args line =>
    match callee with
    | .var _ _ => settledArgs args line
    | .attr e _ _ => settledArgs args e.settled
    | callee => settledArgs args callee.settled
  | .list items line => settledItems items line
  | .map entries line => settledPairs entries line

/-- The line of an optional part, or the line before it. -/
def settledOption : Option Expr → Nat → Nat
  | none, line => line
  | some e, _ => e.settled

/-- The line of the last link. -/
def settledLinks : List Link → Nat → Nat
  | [], line => line
  | .mk _ e :: rest, _ => settledLinks rest e.settled

/-- The line of the last argument. Named ones are worked out behind all others. -/
def settledArgs (args : List Arg) (line : Nat) : Nat :=
  if namedAreKnown args then settledPositions args line
  else settledNames args (settledPositions args line)

/-- The line of the last argument by position. -/
def settledPositions : List Arg → Nat → Nat
  | [], line => line
  | .positional e :: rest, _ => settledPositions rest e.settled
  | .spread e :: rest, _ => settledPositions rest e.settled
  | .keyword _ _ :: rest, line => settledPositions rest line
  | .spreadKeywords _ :: rest, line => settledPositions rest line

/-- The line of the last argument by name. -/
def settledNames : List Arg → Nat → Nat
  | [], line => line
  | .keyword _ e :: rest, _ => settledNames rest e.settled
  | .spreadKeywords e :: rest, _ => settledNames rest e.settled
  | .positional _ :: rest, line => settledNames rest line
  | .spread _ :: rest, line => settledNames rest line

/-- The line of the last item. -/
def settledItems : List Expr → Nat → Nat
  | [], line => line
  | e :: rest, _ => settledItems rest e.settled

/-- The line of the last value. -/
def settledPairs : List Pair → Nat → Nat
  | [], line => line
  | .mk _ v :: rest, _ => settledPairs rest v.settled

end

/-! ### Constant folding -/

namespace Expr

/-- The value of an expression that is known. -/
def known? : Expr → Option Value
  | .const v _ => some v
  | _ => none

/-- The expression of a known value, or the other one. -/
def orElseKnown (e : Expr) (line : Nat) (value : Option Value) : Expr :=
  match value with
  | some v => .const v line
  | none => e

/-- Folds a negation. -/
def foldedNot (e : Expr) (line : Nat) : Expr :=
  orElseKnown (.not e line) line (e.known?.map fun v => .bool (!v.truth))

/-- Folds the opposite of a number. -/
def foldedNeg (e : Expr) (line : Nat) : Expr :=
  orElseKnown (.neg e line) line (e.known?.bind fun v => (negate v).toOption)

/-- Folds an operator. -/
def foldedBinary (op : Operator) (left right : Expr) (line : Nat) : Expr :=
  orElseKnown (.binary op left right line) line do
    (op.apply (← left.known?) (← right.known?)).toOption

/-- Folds a conjunction. A false one becomes `false`, whatever its operands are. -/
def foldedAnd (left right : Expr) (line : Nat) : Expr :=
  orElseKnown (.and left right line) line do
    let l ← left.known?
    let r ← right.known?
    return if l.truth && r.truth then r else .bool false

/-- Folds a disjunction. -/
def foldedOr (left right : Expr) (line : Nat) : Expr :=
  orElseKnown (.or left right line) line do
    let l ← left.known?
    let r ← right.known?
    return if l.truth then l else r

/-- The truth of a chain of comparisons between known values. -/
def knownChain (first : Value) : List Link → Option Bool
  | [] => some true
  | .mk op e :: rest => do
    let v ← e.known?
    let holds ← (op.apply first v).toOption
    let others ← knownChain v rest
    return holds && others

/-- Folds a chain of comparisons. -/
def foldedChain (first : Expr) (links : List Link) (line : Nat) : Expr :=
  orElseKnown (.chain first links line) line do
    return .bool (← knownChain (← first.known?) links)

/-- Folds a list. -/
def foldedList (items : List Expr) (line : Nat) : Expr :=
  orElseKnown (.list items line) line ((items.mapM known?).map Value.ofList)

/-- The values of a key and its value, if both are known. -/
def knownPair : Pair → Option (Value × Value)
  | .mk k v => do return (← k.known?, ← v.known?)

/-- Folds a map. -/
def foldedMap (entries : List Pair) (line : Nat) : Expr :=
  orElseKnown (.map entries line) line
    ((entries.mapM knownPair).map Value.ofEntries)

end Expr

/-! ### Statements -/

/-- What a value is assigned to. -/
inductive Target where
  /-- A name. -/
  | name (name : String) (line : Nat)
  /-- A member of a record. -/
  | member (e : Expr) (name : String) (line : Nat)
  /-- Several targets for the members of a list. -/
  | list (items : List Target) (line : Nat)

/-- A parameter of a macro. -/
structure Param where
  /-- The name. -/
  name : String
  /-- What it is without an argument. -/
  default? : Option Expr

/-- A statement. -/
inductive Stmt where
  /-- Copies text to the output. -/
  | raw (text : String) (line : Nat)
  /-- Writes the value of an expression. -/
  | emit (e : Expr)
  /-- Repeats its body for every member of a value. -/
  | forLoop (target : Target) (iter : Expr) (filter : Option Expr) (recursive : Bool)
      (body orElse : List Stmt)
  /-- Chooses between two bodies. -/
  | ifCond (test : Expr) (yes no : List Stmt)
  /-- Binds names for its body. -/
  | withBlock (bindings : List (Target × Expr)) (body : List Stmt)
  /-- Assigns a value. -/
  | set (target : Target) (e : Expr)
  /-- Assigns the output of its body. -/
  | setBlock (target : Target) (filter : Option Expr) (body : List Stmt)
  /-- Changes the escaping for its body. -/
  | autoEscape (e : Expr) (body : List Stmt)
  /-- Writes the filtered output of its body. -/
  | filterBlock (filter : Expr) (body : List Stmt)
  /-- A part that templates built on this one can replace, or have to. -/
  | block (name : String) (mandatory : Bool) (line : Nat)
  /-- Continues with another template. -/
  | extend (e : Expr) (line : Nat)
  /-- Renders another template in place. -/
  | inclusion (e : Expr) (ignoreMissing : Bool) (line : Nat)
  /-- Binds the names of another template as one value. -/
  | importAll (e : Expr) (target : Target) (line : Nat)
  /-- Binds names of another template. -/
  | importNames (e : Expr) (names : List (String × String)) (line : Nat)
  /-- Defines a macro. -/
  | define (name : String) (params : List Param) (body : List Stmt) (line : Nat)
  /-- Writes a call that is given its body as `caller`. -/
  | callBlock (call : Expr) (params : List Param) (body : List Stmt) (line : Nat)
  /-- Calls and drops the result. -/
  | perform (call : Expr)
  /-- Leaves the innermost loop. -/
  | break
  /-- Goes on with the next round of the innermost loop. -/
  | continue

instance : Inhabited Stmt := ⟨.break⟩

mutual

/-- The line of the part of a statement that is worked out last, or the line before it. -/
def Stmt.settled : Stmt → Nat → Nat
  | .raw _ line, _ | .block _ _ line, _ | .extend _ line, _ | .inclusion _ _ line, _
  | .importAll _ _ line, _ | .importNames _ _ line, _ => line
  | .emit e, _ | .set _ e, _ | .perform e, _ => e.settled
  | .forLoop _ iter filter _ body orElse, _ =>
    settledBody orElse (settledBody body (settledOption filter iter.settled))
  | .ifCond test yes no, _ => settledBody no (settledBody yes test.settled)
  | .withBlock bindings body, line =>
    settledBody body ((bindings.getLast?.map (·.2.settled)).getD line)
  | .setBlock _ filter body, line => settledOption filter (settledBody body line)
  | .autoEscape e body, _ => settledBody body e.settled
  | .filterBlock filter _, _ => filter.settled
  | .define _ _ body line, _ | .callBlock _ _ body line, _ => settledBody body line
  | .break, line | .continue, line => line

/-- The line of the last statement of a body, or the line before it. -/
def settledBody : List Stmt → Nat → Nat
  | [], line => line
  | stmt :: rest, line => settledBody rest (stmt.settled line)

end

/-- A template that has been read. -/
structure Source where
  /-- Its name. -/
  name : String
  /-- Its statements. -/
  body : List Stmt
  /-- The bodies of its blocks. -/
  blocks : List (String × List Stmt)

end Scaffold.Template
