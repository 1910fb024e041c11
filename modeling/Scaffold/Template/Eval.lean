import Scaffold.Template.Machine
import Scaffold.Template.Parser

/-! # Evaluation of templates

  Expressions and statements are evaluated by recursion on their syntax. What
  leads elsewhere (the body of a macro or block, another template, a loop run
  again) goes through `Calls`, which is built for one level from the level below.
  A rendering that nests too deeply is refused before the levels run out.
-/

namespace Scaffold.Template

open Value (ofText)

/-! ### Calls -/

/-- How bodies outside the current syntax are run. -/
structure Calls where
  /-- Runs statements. -/
  stmts : List Stmt → Eval Flow
  /-- Evaluates an expression. -/
  expr : Expr → Eval Value
  /-- Goes on with a template. -/
  source : Source → Eval Unit

/-- Refuses everything: there is no level left. -/
def Calls.none : Calls := ⟨fun _ => fail .invalidOperation, fun _ => fail .invalidOperation,
  fun _ => fail .invalidOperation⟩

/-! ### Truth and comparison -/

/-- Whether a value counts as true; an unbound name does not count at all. -/
def truth (v : Value) : Eval Bool := do
  match v with
  | .undefined false => fail .undefinedValue
  | v => return (← opened v).truth

/-- Refuses an unbound name as operand. -/
def bound (v : Value) : Eval Unit :=
  match v with
  | .undefined false => fail .undefinedValue
  | _ => return ()

/-- Compares two values. -/
def compareValues (op : Comparison) (a b : Value) : Eval Bool := do
  bound a
  bound b
  monadLift (op.apply (← resolved a) (← resolved b))

/-- Applies an operator. -/
def operate (op : Operator) (a b : Value) : Eval Value := do
  match op with
  | .concat =>
    bound a
    bound b
    monadLift (op.apply (← resolved a) (← resolved b))
  | op => monadLift (op.apply a b)

/-! ### Members -/

/-- The member of a value, or an undefined one. -/
def memberOrMissing (v key : Value) : Eval Value := do
  match ← memberOf v key with
  | some found => return found
  | none => if v.isUndefined then fail .undefinedValue else return .missing

/-! ### Functions -/

/-- The numbers from a start towards an end. -/
def countFrom (start step : Int) : Nat → List Value
  | 0 => []
  | n + 1 => .int start :: countFrom (start + step) step n

/-- The most numbers that can be counted. -/
def rangeLimit : Nat := 100000

/-- Counts. -/
def rangeFunction : Reader Value := do
  let first ← Reader.formed Reader.asInt
  let second ← Reader.formed? Reader.asInt
  let step := (← Reader.formed? Reader.asInt).getD 1
  Reader.done
  let (start, stop) := match second with
    | some stop => (first, stop)
    | none => (0, first)
  if step = 0 then refuse .invalidOperation
  else
    let distance := if 0 < step then stop - start else start - stop
    let size := ((distance + step.natAbs - 1) / step.natAbs).toNat
    if rangeLimit < size then refuse .invalidOperation
    else return .ofCounted (countFrom start step size)

/-- Builds a map. -/
def dictFunction : Reader Value := do
  let named ← Reader.keywords
  let first ← Reader.given
  Reader.done
  match first with
  | none => return .ofEntries named
  | some (.map entries _ _) => return .ofEntries (entries ++ named)
  | some _ => refuse .invalidOperation

/-- The members of a new record: the pairs of its argument whose keys are texts. -/
def recordMembers : Reader (List (String × Value)) := do
  let first ← Reader.given
  Reader.done
  match first with
  | none => return []
  | some v =>
    match v.pairs? with
    | some pairs => return pairs.filterMap fun e => e.1.text?.map fun name => (name, e.2)
    | none => refuse .invalidOperation

/-- The text of arguments over several lines. -/
def describeArguments : List Value → String
  | [] => ""
  | [v] => prettyText 0 v
  | args => prettyText 0 (.ofList args)

/-- Calls a built-in. -/
def builtinFunction (b : Builtin) : Reader Value := do
  let s ← Reader.formed Reader.asText
  Reader.done
  return ofText (b.call s)

/-! ### Macros -/

/-- The named arguments at the end of a call, and those before. -/
def splitKeywords (args : List Value) : List Value × List (Value × Value) :=
  match args.getLast? with
  | some (.map named .keywords _) => (args.dropLast, named)
  | _ => (args, [])

/-- The values of parameters: by position, else by name, else undefined. -/
def bindArgs (params : List Param) (positions : List Value) (named : List (Value × Value)) :
    Outcome (List Value) :=
  if params.length < positions.length then refuse .tooManyArguments
  else params.zipIdx.mapM fun (p, i) =>
    match positions[i]?, Value.getField named p.name with
    | some _, some _ => refuse .tooManyArguments
    | some v, none => .ok v
    | none, some v => .ok v
    | none, none => .ok .missing

/-- Binds parameters from the last to the first; one without value gets its default. -/
def assignParams (calls : Calls) : List (Param × Value) → Eval Unit
  | [] => return ()
  | (p, v) :: rest => do
    assignParams calls rest
    match p.default?, v.isUndefined with
    | some e, true => store p.name (← calls.expr e)
    | _, _ => store p.name v

/-- What a macro call adds to the depth. -/
def macroCost : Nat := 4

/-- Calls a macro: its body runs in frames of its own, and its output is the result. -/
def callMacro (calls : Calls) (id : Nat) (args : List Value) : Eval Value := do
  let m ← get
  match m.macros[id]? with
  | none => fail .invalidOperation
  | some body =>
    let (positions, named) := splitKeywords args
    let values ← monadLift (bindArgs body.params positions named)
    let known := fun name => body.params.any (·.name == name) ||
      (body.usesCaller && name == "caller")
    if named.any fun e => e.1.text?.any (!known ·) then fail .tooManyArguments
    else if depthLimit < m.depth + macroCost + 1 then fail .invalidOperation
    else
      let caller := if body.usesCaller then
        [("caller", (Value.getField named "caller").getD .missing)] else []
      set { m with
        frames := [{ locals := caller, base := .closure body.closure }]
        outerDepth := m.depth + macroCost
        template := body.template
        output := ""
        blocks := []
        currentBlock := none
        ancestors := []
        parent := none
        discarding := false }
      assignParams calls (body.params.zip values)
      let _ ← calls.stmts body.body
      let after ← get
      set { after with
        frames := m.frames
        outerDepth := m.outerDepth
        template := m.template
        output := m.output
        blocks := m.blocks
        currentBlock := m.currentBlock
        ancestors := m.ancestors
        parent := m.parent
        discarding := m.discarding }
      return m.escape.captured after.output

/-! ### Calls of values -/

/-- Calls a value. -/
def callValue (calls : Calls) (f : Value) (args : List Value) : Eval Value := do
  match f with
  | .function (.builtin _ b) => withoutState (builtinFunction b).run' args
  | .function (.global .range) => withoutState rangeFunction.run' args
  | .function (.global .dict) => withoutState dictFunction.run' args
  | .function (.global .namespace) =>
    let members ← monadLift (recordMembers.run' (← args.mapM opened))
    let members ← members.mapM fun f => do return (f.1, ← mark f.2)
    let m ← get
    set { m with records := m.records.push members }
    return .record m.records.size
  | .function (.global .debug) =>
    withoutState (fun args => .ok (ofText (describeArguments args))) args
  | .map _ (.macroRef id _) _ => callMacro calls id args
  | .loop _ => fail .unknownFunction
  | _ => fail .invalidOperation

/-- Calls a method of a value: one of a loop, or a member that can be called. -/
def callMethod (calls : Calls) (v : Value) (name : String) (args : List Value) : Eval Value := do
  let m ← get
  let state := match v with
    | .loop id => m.loops[id]?.map fun l => (id, l)
    | _ => none
  match state, name with
  | some (_, l), "cycle" => return args[l.index % args.length]?.getD .missing
  | some (id, l), "changed" =>
    let shown := args.map (m.resolve resolveDepth)
    let changed := match l.last with
      | some last => !Value.sameLists last shown
      | none => true
    if changed then
      set { m with loops := m.loops.modify id (fun l => { l with last := some shown }) }
    return .bool changed
  | _, _ =>
    match v with
    | .text _ _ => fail .unknownMethod
    | v =>
      match ← memberOf v (ofText name) with
      | some f => callValue calls f args
      | none => fail .unknownMethod

/-! ### Blocks -/

/-- Runs the body of a block that is in use. -/
def runBlockBody (calls : Calls) (stack : BlockStack) : Eval Unit := do
  match stack.bodies[stack.depth]? with
  | none => fail .unknownBlock
  | some (template, body) =>
    let m ← get
    pushFrame {}
    modify fun st => { st with template }
    let _ ← calls.stmts body
    popFrame
    modify fun after => { after with template := m.template }

/-- Runs a block; a mandatory one has to be replaced. Where the output is dropped, or a parent
template decides what becomes of the block, nothing happens. -/
def callBlock (calls : Calls) (name : String) (mandatory : Bool) : Eval Unit := do
  let m ← get
  if m.discarding || m.parent.isSome then return ()
  else match m.blocks.lookup name with
    | none => fail .unknownBlock
    | some stack =>
      if mandatory && stack.bodies.length ≤ 1 then fail .invalidOperation
      modify fun before => { before with currentBlock := some name }
      runBlockBody calls stack
      modify fun after => { after with currentBlock := m.currentBlock }

/-- Changes the depth of a block. -/
def setBlockDepth (name : String) (depth : Nat) : Eval Unit := modify fun m =>
  { m with blocks := m.blocks.map fun b => if b.1 = name then (b.1, { b.2 with depth }) else b }

/-- Runs the body that the current one replaces. -/
def callSuper (calls : Calls) : Eval Unit := do
  match (← get).currentBlock with
  | none => fail .invalidOperation
  | some name =>
    match (← get).blocks.lookup name with
    | none => fail .invalidOperation
    | some stack =>
      if stack.bodies.length ≤ stack.depth + 1 then fail .invalidOperation
      else
        setBlockDepth name (stack.depth + 1)
        fun m =>
          match runBlockBody calls { stack with depth := stack.depth + 1 } m with
          | .ok result => .ok result
          | .error failure => .error (.because .badBlock failure)
        setBlockDepth name stack.depth
        modify fun m => { m with currentBlock := some name }

/-! ### Expressions -/

/-- The innermost loop's frame. -/
def currentLoop (m : Machine) : Option LoopFrame := m.frames.findSome? (·.loop)

/-- Runs a loop again with other items. -/
def recurse (calls : Calls) (id : Nat) (args : List Value) : Eval Value := do
  match args with
  | [items] =>
    match ((← get).loops[id]?).bind (·.recursion) with
    | none => fail .invalidOperation
    | some r =>
      let (_, text) ← captureOutput
        (calls.stmts [.forLoop r.target (.const items r.line) none true r.body []])
      return (← get).escape.captured text
  | _ => fail .invalidOperation

/-- Calls a function by its name. A loop runs again. -/
def callName (host : Host) (calls : Calls) (name : String) (args : List Value) : Eval Value := do
  if name = "super" then
    if args.isEmpty then
      let (_, text) ← captureOutput (callSuper calls)
      return (← get).escape.captured text
    else fail .invalidOperation
  else match (← get).lookup host name with
    | some (.loop id) => recurse calls id args
    | some f => callValue calls f args
    | none => fail .unknownFunction

/-! ### Arguments -/

/-- Arguments whose values are known. -/
structure Arguments where
  /-- Those by position; the members of a spread one stand for themselves. -/
  positions : List (Value × Bool) := []
  /-- Those by name: entries, or a spread value. -/
  named : List (List (Value × Value) ⊕ Value) := []

/-- The entries that a spread value stands for. -/
def spreadEntries (v : Value) : Outcome (List (Value × Value)) :=
  match v with
  | .undefined false => refuse .undefinedValue
  | v =>
    match v.pairs? with
    | some pairs => .ok pairs
    | none => refuse .invalidOperation

/-- The values that a call is given, the named ones last. -/
def Arguments.gather (args : Arguments) : Eval (List Value) := do
  let named ← args.named.mapM fun
    | .inl entries => return entries
    | .inr v => do monadLift (spreadEntries (← opened v))
  let positions ← args.positions.mapM fun (v, spread) => do
    if spread then monadLift (walkAny (← opened v)) else return [v]
  if args.named.isEmpty then return positions.flatten
  else return positions.flatten ++ [.ofKeywords (Value.sortedEntries named.flatten)]

mutual

/-- The value of an expression. -/
def evalExpr (host : Host) (calls : Calls) : Expr → Eval Value
  | .const v _ => return v
  | .var name _ => do return ((← get).lookup host name).getD .missing
  | .captured _ => do return (← get).captured
  | .slice e start stop step line => do
    let v ← evalExpr host calls e
    let first ← evalOption host calls start
    let last ← evalOption host calls stop
    let width ← evalOption host calls step
    located (Expr.slice e start stop step line).settled
      (monadLift (slice v (first.getD .none) (last.getD .none) (width.getD .none)))
  | .not e _ => do
    let v ← evalExpr host calls e
    return .bool (!(← located e.settled (truth v)))
  | .neg e line => do
    let v ← evalExpr host calls e
    located line (monadLift (negate v))
  | .binary op left right _ => do
    let a ← evalExpr host calls left
    let b ← evalExpr host calls right
    located right.settled (operate op a b)
  | .and left right _ => do
    let a ← evalExpr host calls left
    if ← located left.settled (truth a) then evalExpr host calls right else return a
  | .or left right _ => do
    let a ← evalExpr host calls left
    if ← located left.settled (truth a) then return a else evalExpr host calls right
  | .chain first links _ => do
    let a ← evalExpr host calls first
    return .bool (← evalLinks host calls a links)
  | .choose test yes no _ => do
    let v ← evalExpr host calls test
    if ← located test.settled (truth v) then evalExpr host calls yes
    else return (← evalOption host calls no).getD (.undefined true)
  | .filter name e args line => do
    let v ← evalExpr host calls e
    let given ← evalArgs host calls args
    located (Expr.filter name e args line).settled do
      let found ← given.gather
      withoutState (applyFilter (← get).escape name) (v :: found)
  | .test name e args line => do
    let v ← evalExpr host calls e
    let given ← evalArgs host calls args
    located (Expr.test name e args line).settled do
      let found ← given.gather
      withoutState (fun args => (applyTest name args).map Value.bool) (v :: found)
  | .attr e name _ => do
    let v ← evalExpr host calls e
    located e.settled (memberOrMissing v (ofText name))
  | .item e key _ => do
    let v ← evalExpr host calls e
    let k ← evalExpr host calls key
    located key.settled (memberOrMissing v k)
  | .call callee args line =>
    let settled := (Expr.call callee args line).settled
    match callee with
    | .var name _ => do
      let given ← evalArgs host calls args
      located settled do callName host calls name (← given.gather)
    | .attr (.var "self" _) name _ => do
      let (_, text) ← captureOutput (located line (callBlock calls name false))
      return (← get).escape.captured text
    | .attr e name _ => do
      let v ← evalExpr host calls e
      let given ← evalArgs host calls args
      located settled do callMethod calls v name (← given.gather)
    | callee => do
      let f ← evalExpr host calls callee
      let given ← evalArgs host calls args
      located settled do callValue calls f (← given.gather)
  | .list items _ => do return .ofList (← evalItems host calls items)
  | .map entries _ => do return Value.ofEntries (← evalPairs host calls entries)

/-- The value of an optional expression. -/
def evalOption (host : Host) (calls : Calls) : Option Expr → Eval (Option Value)
  | none => return none
  | some e => do return some (← evalExpr host calls e)

/-- Whether every link of a chain holds. The first that does not ends the chain. -/
def evalLinks (host : Host) (calls : Calls) (left : Value) : List Link → Eval Bool
  | [] => return true
  | .mk op e :: rest => do
    let right ← evalExpr host calls e
    if ← located e.settled (compareValues op left right) then evalLinks host calls right rest
    else return false

/-- The values of arguments: those by name behind all others. -/
def evalArgs (host : Host) (calls : Calls) (args : List Arg) : Eval Arguments := do
  let positions ← evalPositions host calls args
  let named ← evalNamed host calls args
  return ⟨positions, named⟩

/-- The values of arguments by position. -/
def evalPositions (host : Host) (calls : Calls) : List Arg → Eval (List (Value × Bool))
  | [] => return []
  | .positional e :: rest => do
    let v ← evalExpr host calls e
    return (v, false) :: (← evalPositions host calls rest)
  | .spread e :: rest => do
    let v ← evalExpr host calls e
    return (v, true) :: (← evalPositions host calls rest)
  | .keyword _ _ :: rest => evalPositions host calls rest
  | .spreadKeywords _ :: rest => evalPositions host calls rest

/-- The values of arguments by name. -/
def evalNamed (host : Host) (calls : Calls) :
    List Arg → Eval (List (List (Value × Value) ⊕ Value))
  | [] => return []
  | .keyword name e :: rest => do
    let v ← evalExpr host calls e
    return .inl [(ofText name, v)] :: (← evalNamed host calls rest)
  | .spreadKeywords e :: rest => do
    let v ← evalExpr host calls e
    return .inr v :: (← evalNamed host calls rest)
  | .positional _ :: rest => evalNamed host calls rest
  | .spread _ :: rest => evalNamed host calls rest

/-- The values of items. -/
def evalItems (host : Host) (calls : Calls) : List Expr → Eval (List Value)
  | [] => return []
  | e :: rest => do
    let v ← evalExpr host calls e
    return v :: (← evalItems host calls rest)

/-- The values of entries. -/
def evalPairs (host : Host) (calls : Calls) : List Pair → Eval (List (Value × Value))
  | [] => return []
  | .mk k v :: rest => do
    let key ← evalExpr host calls k
    let value ← evalExpr host calls v
    return (key, value) :: (← evalPairs host calls rest)

end

/-! ### Targets -/

/-- The members that a value is taken apart into. -/
def unpack (v : Value) (n : Nat) : Outcome (List Value) :=
  match v with
  | .text _ _ | .undefined _ | .none => refuse .cannotUnpack
  | v =>
    match v.items? with
    | some items => if items.length = n then .ok items else refuse .cannotUnpack
    | none => refuse .cannotUnpack

/-- Sets a member of a record. -/
def setMember (v : Value) (name : String) (w : Value) : Eval Unit := do
  match v with
  | .record id =>
    let w ← mark w
    modify fun m => { m with records := m.records.modify id (bindName name w) }
  | _ => fail .invalidOperation

mutual

/-- Assigns a value. -/
def assign (host : Host) (calls : Calls) : Target → Value → Eval Unit
  | .name name _, v => store name v
  | .member e name _, v => do
    let owner ← evalExpr host calls e
    located e.settled (setMember owner name v)
  | .list items line, v => do
    let parts ← located line do monadLift (unpack (← opened v) items.length)
    assignAll host calls items parts

/-- Assigns values one by one. -/
def assignAll (host : Host) (calls : Calls) : List Target → List Value → Eval Unit
  | goal :: rest, v :: vs => do
    assign host calls goal v
    assignAll host calls rest vs
  | _, _ => return ()

end

/-! ### Templates by name -/

/-- Reads a template by name. -/
def loadSource (host : Host) (name : String) : Outcome Source :=
  match host.load name with
  | .missing => refuse .templateNotFound
  | .unreadable => refuse .invalidOperation
  | .found text => Source.parse name text

/-- The blocks of a template as stacks of one body. -/
def Source.stacks (source : Source) : List (String × BlockStack) :=
  source.blocks.map fun b => (b.1, { bodies := [(source.name, b.2)] })

/-- Puts the blocks of a parent template under those of its children. -/
def addParentBlocks (parent : Source) (blocks : List (String × BlockStack)) :
    List (String × BlockStack) :=
  parent.blocks.foldl (fun acc b =>
    let body := (parent.name, b.2)
    if (acc.lookup b.1).isSome then
      acc.map fun old =>
        if old.1 = b.1 then (old.1, { old.2 with bodies := old.2.bodies ++ [body] }) else old
    else acc ++ [(b.1, { bodies := [body] })]) blocks

/-- Makes the rest of the template go on with a parent template. -/
def extendWith (host : Host) (v : Value) : Eval Unit := do
  match v with
  | .text name _ =>
    let m ← get
    if m.parent.isSome || m.ancestors.contains name then fail .invalidOperation
    else
      let parent ← monadLift (loadSource host name)
      set { m with
        parent := some parent
        ancestors := name :: m.ancestors
        blocks := addParentBlocks parent m.blocks
        discarding := true }
  | _ => fail .invalidOperation

/-- Runs a template, and what it is built on. What follows the statement that names the parent
is dropped. -/
def runSource (calls : Calls) (source : Source) : Eval Unit := do
  let m ← get
  set { m with template := source.name, parent := none }
  let _ ← calls.stmts source.body
  let after ← get
  match after.parent with
  | none => set { after with template := m.template, parent := m.parent }
  | some parent =>
    set { after with parent := none, discarding := m.discarding }
    calls.source parent
    modify fun last => { last with template := m.template, parent := m.parent }

/-- What an included template adds to the depth. -/
def inclusionCost : Nat := 10

/-- Renders a template in place. -/
def includeSource (calls : Calls) (source : Source) : Eval Unit := do
  let m ← get
  if depthLimit < m.depth + inclusionCost then fail .invalidOperation
  else
    set { m with
      blocks := source.stacks
      outerDepth := m.outerDepth + inclusionCost
      escape := .plain }
    fun st =>
      match calls.source source st with
      | .ok result => .ok result
      | .error failure => .error (.because .badInclude failure)
    modify fun after => { after with
      blocks := m.blocks
      outerDepth := m.outerDepth
      escape := m.escape
      ancestors := m.ancestors }

/-- Renders the first template of a list that exists. -/
def includeFirst (host : Host) (calls : Calls) (ignoreMissing tried : Bool) :
    List Value → Eval Unit
  | [] => if tried && !ignoreMissing then fail .templateNotFound else return ()
  | .text name _ :: rest =>
    match loadSource host name with
    | .ok source => includeSource calls source
    | .error failure =>
      if failure.kind = .templateNotFound then
        includeFirst host calls ignoreMissing true rest
      else fun _ => .error failure
  | _ :: _ => fail .invalidOperation

/-- Renders the template, or the first of several, that a value names. -/
def includeValue (host : Host) (calls : Calls) (ignoreMissing : Bool) (v : Value) : Eval Unit :=
  match v with
  | .list names _ _ => includeFirst host calls ignoreMissing false names
  | v => includeFirst host calls ignoreMissing false [v]

/-! ### Statements -/

/-- The text of a value in the output. -/
def resultText (v : Value) : Eval String := do
  monadLift ((← get).escape.writeResult (← resolved v))

/-- Runs a computation in which a text stands for what was captured. -/
def withCaptured {α : Type} (v : Value) (act : Eval α) : Eval α := do
  let old := (← get).captured
  modify fun m => { m with captured := v }
  let result ← act
  modify fun m => { m with captured := old }
  return result

/-- The escaping that a value names. -/
def escapeOf (v : Value) : Outcome Escape :=
  match v with
  | .text "html" _ => .ok .html
  | .text "json" _ => .ok .json
  | .text "none" _ => .ok .plain
  | .bool true => .ok .html
  | .text _ _ => refuse .invalidOperation
  | v => if v.same (.bool true) then .ok .html else .ok .plain

/-- Puts a loop at a position. -/
def moveLoop (id i : Nat) : Eval Unit :=
  modify fun m => { m with loops := m.loops.modify id (fun l => { l with index := i }) }

/-- Runs a body for every item. Every round begins without names of its own. -/
def eachItem (id : Nat) (bind : Value → Eval Unit) (body : Eval Flow) :
    Nat → List Value → Eval Unit
  | i, [] => moveLoop id i
  | i, v :: rest => do
    moveLoop id i
    forgetNames
    bind v
    match ← body with
    | .leave => return ()
    | _ => eachItem id bind body (i + 1) rest

/-- The items that pass a condition. -/
def passing (bind : Value → Eval Unit) (condition : Eval Bool) : List Value → Eval (List Value)
  | [] => return []
  | v :: rest => do
    forgetNames
    bind v
    let passed ← condition
    let others ← passing bind condition rest
    return if passed then v :: others else others

/-- Starts a loop and gives its number. -/
def enterLoop (items : List Value) (counted visible : Bool) (recursion : Option Recursion) :
    Eval Nat := do
  let m ← get
  let outer := (currentLoop m).bind fun frame => m.loops[frame.id]?
  let depth := match outer with
    | some l => if l.recursion.isSome then l.depth + 1 else 0
    | none => 0
  let id := m.loops.size
  pushFrame { loop := some ⟨id, visible⟩ }
  modify fun m =>
    { m with loops := m.loops.push ⟨items.toArray, counted, 0, depth, recursion, none⟩ }
  return id

/-- Whether a body uses `caller`. -/
def usesCaller (names : List String) : Bool := names.contains "caller"

/-- Defines a macro where it stands. -/
def defineMacro (host : Host) (name : String) (params : List Param) (body : List Stmt) :
    Eval Value := do
  let names := freeNames params body
  let closure ← capture host (names.filter (· != "caller"))
  let m ← get
  let made : MacroBody :=
    { name, params, body, template := m.template, closure, usesCaller := usesCaller names }
  set { m with macros := m.macros.push made }
  return made.value m.macros.size

/-- Adds the body of a call statement to the arguments of its call. The body ends on `line`. -/
def withCaller (e : Expr) (caller : Value) (line : Nat) : Expr :=
  match e with
  | .call callee args start =>
    let named : Value := .ofEntries [(ofText "caller", caller)]
    .call callee (args ++ [.spreadKeywords (.const named line)]) start
  | e => e

/-- Whether the number of members of a value is known. -/
def isCounted (v : Value) : Bool :=
  match v with
  | .list _ form _ => form.isCounted
  | _ => true

mutual

/-- Runs a statement. -/
def evalStmt (host : Host) (calls : Calls) : Stmt → Eval Flow
  | .raw text _ => do
    write text
    return .next
  | .emit e => do
    let v ← evalExpr host calls e
    write (← located e.settled (resultText v))
    return .next
  | .forLoop goal iter filter recursive body orElse => do
    let v ← evalExpr host calls iter
    let v ← opened v
    let all ← located iter.settled (monadLift (walk v))
    let items ← match filter with
      | none => pure all
      | some condition => do
        let _ ← located iter.settled (enterLoop all (isCounted v) false none)
        let kept ← passing (assign host calls goal)
          (do located condition.settled (truth (← evalExpr host calls condition))) all
        popFrame
        pure kept
    let recursion := if recursive then some ⟨goal, body, iter.settled⟩ else none
    let counted := filter.isSome || isCounted v
    let id ← located iter.settled (enterLoop items counted true recursion)
    eachItem id (assign host calls goal) (evalBody host calls body) 0 items
    popFrame
    if items.isEmpty then evalBody host calls orElse else return .next
  | .ifCond test yes no => do
    let v ← evalExpr host calls test
    if ← located test.settled (truth v) then evalBody host calls yes
    else evalBody host calls no
  | .withBlock bindings body => do
    pushFrame {}
    bindings.forM fun (goal, e) => do assign host calls goal (← evalExpr host calls e)
    let flow ← evalBody host calls body
    popFrame
    return flow
  | .set goal e => do
    assign host calls goal (← evalExpr host calls e)
    return .next
  | .setBlock goal filter body => do
    let (flow, text) ← captureOutput (evalBody host calls body)
    let v := (← get).escape.captured text
    let v ← match filter with
      | none => pure v
      | some e => withCaptured v (evalExpr host calls e)
    assign host calls goal v
    return flow
  | .autoEscape e body => do
    let v ← evalExpr host calls e
    let old := (← get).escape
    let new ← located e.settled (monadLift (escapeOf v))
    modify fun m => { m with escape := new }
    let flow ← evalBody host calls body
    modify fun m => { m with escape := old }
    return flow
  | .filterBlock filter body => do
    let (flow, text) ← captureOutput (evalBody host calls body)
    let v ← withCaptured ((← get).escape.captured text) (evalExpr host calls filter)
    write (← located filter.settled (resultText v))
    return flow
  | .block name mandatory line => do
    located line (callBlock calls name mandatory)
    return .next
  | .extend e line => do
    let v ← evalExpr host calls e
    located line (extendWith host v)
    return .next
  | .inclusion e ignoreMissing line => do
    let v ← evalExpr host calls e
    located line (includeValue host calls ignoreMissing v)
    return .next
  | .importAll e goal line => do
    pushFrame {}
    let v ← evalExpr host calls e
    let (_, text) ← captureOutput (located line (includeValue host calls false v))
    let exports := (((← get).frames.head?).map (·.locals)).getD []
    popFrame
    assign host calls goal
      (.map (Value.sortedEntries (Value.fieldEntries exports)) (.module text) 0)
    return .next
  | .importNames e names line => do
    pushFrame {}
    let v ← evalExpr host calls e
    dropOutput (located line (includeValue host calls false v))
    let found ← names.mapM fun n => do return ((← get).lookup host n.1).getD .missing
    popFrame
    (names.zip found).forM fun (n, v) => store n.2 v
    return .next
  | .define name params body _ => do
    store name (← defineMacro host name params body)
    return .next
  | .callBlock e params body line => do
    let caller ← defineMacro host "caller" params body
    let called := withCaller e caller (settledBody body line)
    let v ← calls.expr called
    write (← located called.settled (resultText v))
    return .next
  | .perform e => do
    let _ ← evalExpr host calls e
    return .next
  | .break => return .leave
  | .continue => return .again

/-- Runs statements up to the first that leaves the body. -/
def evalBody (host : Host) (calls : Calls) : List Stmt → Eval Flow
  | [] => return .next
  | stmt :: rest => do
    match ← evalStmt host calls stmt with
    | .next => evalBody host calls rest
    | flow => return flow

end

/-! ### Levels -/

/-- The calls that a number of levels allows. -/
def callsOf (host : Host) : Nat → Calls
  | 0 => .none
  | n + 1 =>
    let below := callsOf host n
    ⟨evalBody host below, evalExpr host below, runSource below⟩

/-- More levels than the depth limit lets a rendering use. -/
def levels : Nat := 2 * (depthLimit + 2)

end Scaffold.Template
