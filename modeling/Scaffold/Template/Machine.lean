import Scaffold.Template.Filter
import Scaffold.Template.Scope

/-! # The state of a rendering

  What statements read and change: the frames with their names, the output, and
  everything that values refer to by number.

  - `Eval`: a computation on this state that can fail.
  - `Host`: what a rendering is given: names, and the templates it can load.
-/

namespace Scaffold.Template

/-! ### Frames -/

/-- A frame's loop. -/
structure LoopFrame where
  /-- The number of the loop's state. -/
  id : Nat
  /-- Whether `loop` names it. -/
  visible : Bool

/-- Where names are looked up behind those of a frame. -/
inductive Base where
  /-- Nowhere. -/
  | nothing
  /-- In the names that the rendering is given. -/
  | context
  /-- In what a macro has captured. -/
  | closure (id : Nat)

/-- A layer of names. -/
structure Frame where
  /-- The names. -/
  locals : List (String × Value) := []
  /-- The loop that made the frame. -/
  loop : Option LoopFrame := none
  /-- What macros defined here have captured. -/
  closure : Option Nat := none
  /-- Where names are looked up behind these. -/
  base : Base := .nothing

/-! ### Things with a number -/

/-- How a loop can be run again from its body. -/
structure Recursion where
  /-- What every item is assigned to. -/
  target : Target
  /-- The body. -/
  body : List Stmt
  /-- The line of the loop's value. -/
  line : Nat

/-- The state of a loop. -/
structure LoopState where
  /-- What it goes through. -/
  items : Array Value
  /-- Whether their number is known. -/
  counted : Bool
  /-- The position of the current item. -/
  index : Nat
  /-- How many recursions enclose it. -/
  depth : Nat
  /-- How it can be run again. -/
  recursion : Option Recursion
  /-- The values of the last question about a change. -/
  last : Option (List Value) := none

/-- A macro. -/
structure MacroBody where
  /-- The name. -/
  name : String
  /-- The parameters. -/
  params : List Param
  /-- The body. -/
  body : List Stmt
  /-- The template that defines it. -/
  template : String
  /-- What it has captured. -/
  closure : Nat
  /-- Whether it uses `caller`. -/
  usesCaller : Bool

/-- The bodies of a block, from the template that is rendered to the one it is built on. -/
structure BlockStack where
  /-- The bodies, each with the name of its template. -/
  bodies : List (String × List Stmt)
  /-- The position of the body in use. -/
  depth : Nat := 0

/-! ### The state -/

/-- The state of a rendering. -/
structure Machine where
  /-- The frames, innermost first. -/
  frames : List Frame
  /-- The depth that enclosing renderings add. -/
  outerDepth : Nat := 0
  /-- The members of records. -/
  records : Array (List (String × Value)) := #[]
  /-- What macros have captured. -/
  closures : Array (List (String × Value)) := #[]
  /-- The macros. -/
  macros : Array MacroBody := #[]
  /-- The loops. -/
  loops : Array LoopState := #[]
  /-- The next mark for a list or map. -/
  nextMark : Mark := 1
  /-- The output since the last capture began. -/
  output : String := ""
  /-- The text that a filter statement has captured. -/
  captured : Value := .none
  /-- The template whose statements run. -/
  template : String
  /-- The escaping in force. -/
  escape : Escape := .plain
  /-- The blocks. -/
  blocks : List (String × BlockStack)
  /-- The block whose body runs. -/
  currentBlock : Option String := none
  /-- The templates that this one is built on. -/
  ancestors : List String := []
  /-- The template that this one goes on with. -/
  parent : Option Source := none
  /-- Whether the output is dropped. -/
  discarding : Bool := false

/-- A computation on the state of a rendering. -/
abbrev Eval := StateT Machine Outcome

/-- What comes next after a statement. -/
inductive Flow where
  /-- The next statement. -/
  | next
  /-- The end of the loop. -/
  | leave
  /-- The next round of the loop. -/
  | again
  deriving DecidableEq

/-- A template that is loaded by name. -/
inductive Loaded where
  /-- Its text. -/
  | found (text : String)
  /-- There is none. -/
  | missing
  /-- It cannot be read. -/
  | unreadable

/-- What a rendering is given. -/
structure Host where
  /-- The names. -/
  context : List (String × Value)
  /-- The templates. -/
  load : String → Loaded

/-! ### Failures -/

/-- Runs a computation; a failure without a place gets this line. -/
def located {α : Type} (line : Nat) (act : Eval α) : Eval α := fun m =>
  match act m with
  | .ok result => .ok result
  | .error failure => .error (failure.locate m.template line)

/-- Fails. -/
def fail {α : Type} (kind : FailureKind) : Eval α := fun _ => refuse kind

/-! ### Depth -/

/-- The greatest depth of a rendering. -/
def depthLimit : Nat := 500

/-- How deep the rendering is. -/
def Machine.depth (m : Machine) : Nat := m.outerDepth + m.frames.length

/-- Adds a frame, unless the rendering is too deep already. -/
def pushFrame (frame : Frame) : Eval Unit := do
  let m ← get
  if depthLimit < m.depth then fail .invalidOperation
  else set { m with frames := frame :: m.frames }

/-- Removes the innermost frame. -/
def popFrame : Eval Unit := modify fun m => { m with frames := m.frames.drop 1 }

/-! ### Names -/

/-- The value of a name in a frame. -/
def Machine.inFrame (m : Machine) (host : Host) (name : String) (frame : Frame) : Option Value :=
  let own := frame.locals.lookup name
  let loop := frame.loop.bind fun l =>
    if l.visible && name == "loop" then some (Value.loop l.id) else none
  let captured := frame.closure.bind fun id => (m.closures[id]?.getD []).lookup name
  let base := match frame.base with
    | .nothing => none
    | .context => host.context.lookup name
    | .closure id => (m.closures[id]?.getD []).lookup name
  own <|> loop <|> captured <|> base

/-- The function of a name that every template knows. -/
def global? (name : String) : Option Value :=
  match name with
  | "range" => some (.function (.global .range))
  | "dict" => some (.function (.global .dict))
  | "namespace" => some (.function (.global .namespace))
  | "debug" => some (.function (.global .debug))
  | _ => none

/-- The value of a name. -/
def Machine.lookup (m : Machine) (host : Host) (name : String) : Option Value :=
  m.frames.findSome? (m.inFrame host name) <|> global? name

/-- Binds a name in a list of names. -/
def bindName (name : String) (v : Value) : List (String × Value) → List (String × Value)
  | [] => [(name, v)]
  | (n, w) :: rest => if n = name then (n, v) :: rest else (n, w) :: bindName name v rest

/-- Gives marks to a value that is kept. -/
def mark (v : Value) : Eval Value := fun m =>
  let (v, nextMark) := v.marked m.nextMark
  .ok (v, { m with nextMark })

/-- Binds a name in the innermost frame, and for the macros defined there. -/
def store (name : String) (v : Value) : Eval Unit := do
  let v ← mark v
  modify fun m =>
    match m.frames with
    | [] => m
    | frame :: rest =>
      let closures := match frame.closure with
        | some id => m.closures.modify id (bindName name v)
        | none => m.closures
      { m with
        closures
        frames := { frame with locals := bindName name v frame.locals } :: rest }

/-- Makes the innermost frame forget its names. -/
def forgetNames : Eval Unit := modify fun m =>
  match m.frames with
  | [] => m
  | frame :: rest => { m with frames := { frame with locals := [], closure := none } :: rest }

/-- Captures names for a macro that is defined in the innermost frame. -/
def capture (host : Host) (names : List String) : Eval Nat := do
  let m ← get
  match m.frames with
  | [] => return 0
  | frame :: rest =>
    let id := frame.closure.getD m.closures.size
    let old := m.closures[id]?.getD []
    let found := names.foldl (fun acc name =>
      if (acc.lookup name).isSome then acc
      else acc ++ [(name, (m.lookup host name).getD .missing)]) old
    let closures := if id < m.closures.size then m.closures.modify id (fun _ => found)
      else m.closures.push found
    set { m with closures, frames := { frame with closure := some id } :: rest }
    return id

/-! ### Output -/

/-- Writes text, unless the output is dropped. -/
def write (s : String) : Eval Unit := modify fun m =>
  if m.discarding then m else { m with output := m.output ++ s }

/-- Runs a computation and takes its output. -/
def captureOutput {α : Type} (act : Eval α) : Eval (α × String) := do
  let before ← get
  modify fun m => { m with output := "", discarding := false }
  let result ← act
  let m ← get
  set { m with output := before.output, discarding := before.discarding }
  return (result, m.output)

/-- Runs a computation and drops its output. -/
def dropOutput {α : Type} (act : Eval α) : Eval α := do
  let before ← get
  modify fun m => { m with discarding := true }
  let result ← act
  modify fun m => { m with discarding := before.discarding }
  return result

/-! ### Records and loops -/

/-- A member of a loop's state. -/
def LoopState.member? (l : LoopState) (name : String) : Option Value :=
  let n := l.items.size
  let count (i : Int) : Value := if l.counted then .int (max 0 i) else .missing
  match name with
  | "index0" => some (.int l.index)
  | "index" => some (.int (l.index + 1))
  | "length" => some (count n)
  | "revindex" => some (count ((n : Int) - l.index))
  | "revindex0" => some (count ((n : Int) - l.index - 1))
  | "first" => some (.bool (l.index == 0))
  | "last" => some (.bool (l.counted && n ≤ l.index + 1))
  | "depth" => some (.int (l.depth + 1))
  | "depth0" => some (.int l.depth)
  | "previtem" => some (if l.index = 0 then .missing else l.items[l.index - 1]?.getD .missing)
  | "nextitem" => some (l.items[l.index + 1]?.getD .missing)
  | _ => none

/-- The names of the members of a loop's state. -/
def loopMembers : List String :=
  ["index0", "index", "length", "revindex", "revindex0", "first", "last", "depth", "depth0",
   "previtem", "nextitem"]

/-- The members of a loop's state. -/
def LoopState.fields (l : LoopState) : List (String × Value) :=
  loopMembers.map fun name => (name, (l.member? name).getD .missing)

/-- The text of a loop's state. -/
def LoopState.text (l : LoopState) : String :=
  "<loop " ++ toString l.index ++ "/" ++ (if l.counted then toString l.items.size else "?") ++ ">"

/-- Records and loops, `fuel` levels deep, replaced by maps that show them as they are now, so that
the value can be read without the state. -/
def Machine.resolve (m : Machine) : Nat → Value → Value
  | 0, v => v
  | fuel + 1, v =>
    match v with
    | .record id =>
      let fields := (m.records[id]?.getD []).map fun f => (f.1, m.resolve fuel f.2)
      .map (Value.sortedEntries (Value.fieldEntries fields)) (.record id) 0
    | .loop id =>
      match m.loops[id]? with
      | some l =>
        let fields := l.fields.map fun f => (f.1, m.resolve fuel f.2)
        .map (Value.fieldEntries fields) (.loop id l.text) 0
      | none => v
    | .list items form mark => .list (items.map (m.resolve fuel)) form mark
    | .map entries role mark =>
      .map (entries.map fun e => (e.1, m.resolve fuel e.2)) role mark
    | v => v

/-- How deeply records are resolved. -/
def resolveDepth : Nat := 32

/-- A value that can be read without the state. -/
def resolved (v : Value) : Eval Value := do return (← get).resolve resolveDepth v

/-- A record or loop as a map; any other value as it is. -/
def opened (v : Value) : Eval Value := do return (← get).resolve 1 v

mutual

/-- A value with the records and loops that maps in it show. -/
def Value.released : Value → Value
  | .map _ (.record id) _ => .record id
  | .map _ (.loop id _) _ => .loop id
  | .map entries role mark => .map (releasedEntries entries) role mark
  | .list items form mark => .list (releasedItems items) form mark
  | v => v

/-- Items with the records and loops that maps in them show. -/
def releasedItems : List Value → List Value
  | [] => []
  | v :: rest => v.released :: releasedItems rest

/-- Entries with the records and loops that maps in them show. -/
def releasedEntries : List (Value × Value) → List (Value × Value)
  | [] => []
  | (k, v) :: rest => (k, v.released) :: releasedEntries rest

end

/-- Applies a function that needs no state to values that may hold records and loops. -/
def withoutState (f : List Value → Outcome Value) (args : List Value) : Eval Value := do
  return (← monadLift (f (← args.mapM resolved))).released

/-- The member of a value that a name or subscript stands for. -/
def memberOf (v key : Value) : Eval (Option Value) := do
  let m ← get
  match v, key with
  | .record id, .text name _ => return (m.records[id]?.getD []).lookup name
  | .loop id, .text name _ => return m.loops[id]?.bind (·.member? name)
  | v, key => return v.item? key

/-- What a macro tells about itself, by its number: its name, its parameters, and whether it uses
`caller`. -/
def MacroBody.value (m : MacroBody) (id : Nat) : Value :=
  .map (Value.fieldEntries [("name", .ofText m.name),
    ("arguments", .ofList (m.params.map fun p => .ofText p.name)),
    ("caller", .bool m.usesCaller)]) (.macroRef id m.name) 0

end Scaffold.Template
