import Scaffold.Template.Syntax

/-! # Free names of macros

  The names that the body of a macro uses without binding them itself. They are
  captured where the macro is defined. What a slice is taken from does not
  count as used, nor do the filters of a captured text and the value that
  chooses the escaping.
-/

namespace Scaffold.Template

/-! ### Tracking -/

/-- The names that are bound here, and the free ones found so far. -/
structure Tracker where
  /-- Names bound at this place. -/
  bound : List String
  /-- Free names, the last one first. -/
  found : List String

namespace Tracker

/-- Binds a name. -/
def bind (t : Tracker) (name : String) : Tracker := { t with bound := name :: t.bound }

/-- Uses a name. -/
def use (t : Tracker) (name : String) : Tracker :=
  if t.bound.contains name || t.found.contains name then t
  else { t with found := name :: t.found }

/-- Keeps what a part uses, but not what it binds. -/
def inside (t : Tracker) (part : Tracker → Tracker) : Tracker :=
  { t with found := (part t).found }

end Tracker

/-! ### Expressions -/

mutual

/-- The names that an expression uses. -/
def Expr.track : Expr → Tracker → Tracker
  | .const _ _, t | .captured _, t => t
  | .var name _, t => t.use name
  | .slice _ start stop step _, t => trackOption step (trackOption stop (trackOption start t))
  | .not e _, t | .neg e _, t | .attr e _ _, t => e.track t
  | .binary _ l r _, t | .and l r _, t | .or l r _, t => r.track (l.track t)
  | .chain first links _, t => trackLinks links (first.track t)
  | .choose test yes no _, t => trackOption no (yes.track (test.track t))
  | .filter _ e args _, t | .test _ e args _, t | .call e args _, t => trackArgs args (e.track t)
  | .item e key _, t => key.track (e.track t)
  | .list items _, t => trackItems items t
  | .map entries _, t => trackPairs entries t

/-- The names that an optional expression uses. -/
def trackOption : Option Expr → Tracker → Tracker
  | none, t => t
  | some e, t => e.track t

/-- The names that links use. -/
def trackLinks : List Link → Tracker → Tracker
  | [], t => t
  | .mk _ e :: rest, t => trackLinks rest (e.track t)

/-- The names that arguments use. -/
def trackArgs : List Arg → Tracker → Tracker
  | [], t => t
  | .positional e :: rest, t => trackArgs rest (e.track t)
  | .keyword _ e :: rest, t => trackArgs rest (e.track t)
  | .spread e :: rest, t => trackArgs rest (e.track t)
  | .spreadKeywords e :: rest, t => trackArgs rest (e.track t)

/-- The names that items use. -/
def trackItems : List Expr → Tracker → Tracker
  | [], t => t
  | e :: rest, t => trackItems rest (e.track t)

/-- The names that entries use. -/
def trackPairs : List Pair → Tracker → Tracker
  | [], t => t
  | .mk k v :: rest, t => trackPairs rest (v.track (k.track t))

end

/-! ### Statements -/

mutual

/-- What a target binds and uses. -/
def Target.track : Target → Tracker → Tracker
  | .name name _, t => t.bind name
  | .member e _ _, t => e.track t
  | .list items _, t => trackTargets items t

/-- What several targets bind and use. -/
def trackTargets : List Target → Tracker → Tracker
  | [], t => t
  | goal :: rest, t => trackTargets rest (goal.track t)

end

/-- What bindings bind and use. -/
def trackBindings : List (Target × Expr) → Tracker → Tracker
  | [], t => t
  | (goal, e) :: rest, t => trackBindings rest (e.track (goal.track t))

/-- What parameters bind and their defaults use. -/
def trackParams (params : List Param) (t : Tracker) : Tracker :=
  let t := params.foldl (fun t p => t.bind p.name) t
  params.foldl (fun t p => trackOption p.default? t) t

mutual

/-- What a statement binds and uses. -/
def Stmt.track : Stmt → Tracker → Tracker
  | .raw _ _, t | .break, t | .continue, t | .block _ _ _, t => t
  | .emit e, t | .perform e, t => e.track t
  | .forLoop goal iter filter _ body orElse, t =>
    let t := t.inside fun t =>
      trackBody body (trackOption filter (goal.track (iter.track (t.bind "loop"))))
    t.inside (trackBody orElse)
  | .ifCond test yes no, t =>
    ((test.track t).inside (trackBody yes)).inside (trackBody no)
  | .withBlock bound body, t => t.inside fun t => trackBody body (trackBindings bound t)
  | .set goal e, t => e.track (goal.track t)
  | .setBlock goal _ body, t => (goal.track t).inside (trackBody body)
  | .autoEscape _ body, t | .filterBlock _ body, t => t.inside (trackBody body)
  | .extend _ _, t | .inclusion _ _ _, t => t
  | .importAll _ goal _, t => goal.track t
  | .importNames _ names _, t => names.foldl (fun t n => t.bind n.2) t
  | .define name params body _, t =>
    (t.bind name).inside fun t => trackBody body (trackParams params (t.bind "caller"))
  | .callBlock call params body _, t =>
    (call.track t).inside fun t => trackBody body (trackParams params (t.bind "caller"))

/-- What statements bind and use. -/
def trackBody : List Stmt → Tracker → Tracker
  | [], t => t
  | stmt :: rest, t => trackBody rest (stmt.track t)

end

/-- The free names of a macro. -/
def freeNames (params : List Param) (body : List Stmt) : List String :=
  (trackBody body (trackParams params ⟨[], []⟩)).found.reverse

end Scaffold.Template
