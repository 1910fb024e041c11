import Scaffold.Builtin
import Scaffold.Decimal.Layout
import Scaffold.Text.Quoted

/-! # Values of the template language

  What expressions evaluate to, how values compare, and how they are written
  into the output.

  - `Value.compare`: a total order, first by kind.
  - `Value.same`: the equality of the language, under which `1`, `1.0` and `true` agree.
  - `Value.identical`: whether two values are one and the same thing.
  - `Value.render`: the text of a value; `Value.member`: its text inside a list or map.
-/

namespace Scaffold.Template

/-! ### Functions -/

/-- A function that every template knows. -/
inductive Global where
  /-- Counts from a start to an end. -/
  | range
  /-- Builds a map from named arguments. -/
  | dict
  /-- Builds a record with assignable members. -/
  | namespace
  /-- Describes its arguments. -/
  | debug
  deriving DecidableEq, Repr

/-- The name of a function that every template knows. -/
def Global.name : Global → String
  | .range => "range"
  | .dict => "dict"
  | .namespace => "namespace"
  | .debug => "debug"

/-- Something that can be called and has no members. -/
inductive Callable where
  /-- A built-in callable under the name of its variable. -/
  | builtin (name : String) (builtin : Builtin)
  /-- A function that every template knows. -/
  | global (function : Global)
  deriving DecidableEq, Repr

/-- The text of a callable. All built-ins share one. -/
def Callable.text : Callable → String
  | .builtin _ _ => "kiln::renderer::context::\x7b\x7bclosure\x7d\x7d::\x7b\x7bclosure\x7d\x7d"
  | .global g => "minijinja::functions::builtins::" ++ g.name

/-! ### Lists and maps -/

/-- How the items of a list come about. -/
inductive Form where
  /-- They are stored. -/
  | sequence
  /-- A key, and the items that have it in common. -/
  | group
  /-- They are worked out one by one, and their number is known. -/
  | counted
  /-- They are worked out one by one, and their number is not known. -/
  | uncounted
  /-- They cannot be worked out. -/
  | failing
  deriving DecidableEq, Repr

/-- Whether the number of items is known. -/
def Form.isCounted : Form → Bool
  | .sequence | .group | .counted => true
  | .uncounted | .failing => false

/-- What a map stands for. -/
inductive Role where
  /-- Nothing but itself. -/
  | plain
  /-- The named arguments of a call. -/
  | keywords
  /-- The names that an imported template binds, with its text. -/
  | module (body : String)
  /-- What a macro tells about itself, with its number and name. -/
  | macroRef (id : Nat) (name : String)
  /-- The members of a record, by its number, at one time. -/
  | record (id : Nat)
  /-- The state of a loop, by its number, at one time, with its text. -/
  | loop (id : Nat) (text : String)
  deriving DecidableEq, Repr

/-- The text of a map that has one of its own. -/
def Role.text? : Role → Option String
  | .macroRef _ name => some ("<macro " ++ name ++ ">")
  | .loop _ text => some text
  | _ => none

/-- What tells lists and maps of equal content apart. Two of them with the same mark are one and
the same; zero is no mark. -/
abbrev Mark := Nat

/-! ### Values -/

/-- A value. -/
inductive Value where
  /-- An unbound name or a missing member; a silent one may be written as nothing. -/
  | undefined (silent : Bool)
  /-- The value of `none`. -/
  | none
  /-- A truth value. -/
  | bool (b : Bool)
  /-- A whole number. -/
  | int (i : Int)
  /-- A whole number that was written with more than 64 bits. -/
  | wide (n : Nat)
  /-- A floating-point number. -/
  | float (f : Float)
  /-- A text; a safe one is never escaped. -/
  | text (s : String) (safe : Bool)
  /-- A list. -/
  | list (items : List Value) (form : Form) (mark : Mark)
  /-- A map; one that stands for itself is ordered by key. -/
  | map (entries : List (Value × Value)) (role : Role) (mark : Mark)
  /-- Something that can be called. -/
  | function (callable : Callable)
  /-- A record with assignable members, by its number. -/
  | record (id : Nat)
  /-- The state of a loop, by its number. -/
  | loop (id : Nat)
  deriving Inhabited

namespace Value

/-- A plain text. -/
def ofText (s : String) : Value := .text s false

/-- An unbound name. -/
def missing : Value := .undefined false

/-- A list of stored items. -/
def ofList (items : List Value) : Value := .list items .sequence 0

/-- Items that are worked out one by one, in a known number. -/
def ofCounted (items : List Value) : Value := .list items .counted 0

/-- The named arguments of a call. -/
def ofKeywords (entries : List (Value × Value)) : Value := .map entries .keywords 0

/-! ### Kinds -/

/-- What sort of thing a value is. -/
inductive Kind where
  | undefined | none | bool | number | string | sequence | map | iterable | plain
  deriving DecidableEq, Repr

/-- The kind of a value. -/
def kind : Value → Kind
  | .undefined _ => .undefined
  | .none => .none
  | .bool _ => .bool
  | .int _ | .wide _ | .float _ => .number
  | .text _ _ => .string
  | .list _ .sequence _ | .list _ .group _ => .sequence
  | .list _ _ _ => .iterable
  | .map _ _ _ | .record _ | .loop _ => .map
  | .function _ => .plain

/-- The place of a kind in the order of values. -/
def Kind.rank : Kind → Nat
  | .undefined => 0
  | .none => 1
  | .bool => 2
  | .number => 3
  | .string => 4
  | .sequence => 5
  | .map => 6
  | .iterable => 7
  | .plain => 8

/-- Whether a value is undefined. -/
def isUndefined : Value → Bool
  | .undefined _ => true
  | _ => false

/-- Whether a value is a text that is never escaped. -/
def isSafe : Value → Bool
  | .text _ safe => safe
  | _ => false

/-- The text of a textual value. -/
def text? : Value → Option String
  | .text s _ => some s
  | _ => Option.none

/-- Whether a value counts as true. A list of unknown length does. -/
def truth : Value → Bool
  | .undefined _ | .none => false
  | .bool b => b
  | .int i => i != 0
  | .wide n => n != 0
  | .float f => f != 0.0
  | .text s _ => s != ""
  | .list items form _ => !form.isCounted || !items.isEmpty
  | .map entries _ _ => !entries.isEmpty
  | .function _ | .record _ | .loop _ => true

/-! ### Numbers -/

/-- The least whole number that calculation can reach. -/
def intMin : Int := -170141183460469231731687303715884105728

/-- One more than the greatest whole number that calculation can reach. -/
def intEnd : Int := 170141183460469231731687303715884105728

/-- One more than the greatest whole number that can be written. -/
def wideEnd : Int := 340282366920938463463374607431768211456

/-- The least number of a position or count. -/
def wordMin : Int := -9223372036854775808

/-- One more than the greatest number of a position. -/
def wordEnd : Int := 9223372036854775808

/-- A whole number as floating-point number. -/
def floatOfInt (i : Int) : Float :=
  if i < 0 then -(Float.ofNat i.natAbs) else Float.ofNat i.natAbs

/-- The whole number next to a finite floating-point number, towards zero. -/
def wholePart (f : Float) : Int :=
  let b := Decimal.Binary.ofFloat f
  let size : Nat :=
    if 0 ≤ b.exponent then b.significand * Nat.pow 2 b.exponent.toNat
    else b.significand / Nat.pow 2 (-b.exponent).toNat
  if Decimal.isNegative f then -(size : Int) else size

/-- The whole number next to a floating-point number, towards zero and between two bounds. -/
def truncateWithin (low high : Int) (f : Float) : Int :=
  if f.isNaN then 0
  else if f.isInf then (if f < 0.0 then low else high - 1)
  else max low (min (high - 1) (wholePart f))

/-- The whole number next to a floating-point number, towards zero and within reach. -/
def truncate (f : Float) : Int := truncateWithin intMin intEnd f

/-- The whole number that a value stands for: numbers without fraction, and truth values. -/
def int? : Value → Option Int
  | .bool b => some (if b then 1 else 0)
  | .int i => some i
  | .wide n => if (n : Int) < intEnd then some n else Option.none
  | .float f =>
    let i := truncateWithin wordMin wordEnd f
    if floatOfInt i == f then some i else Option.none
  | _ => Option.none

/-- The position that a value stands for. -/
def word? (v : Value) : Option Int :=
  v.int?.filter fun i => wordMin ≤ i ∧ i < wordEnd

/-- The whole number that a number is, of any size. -/
def whole? : Value → Option Int
  | .int i => some i
  | .wide n => some n
  | _ => Option.none

/-- The floating-point number that a value stands for; unless `lossy`, only an exact one. -/
def float? (lossy : Bool) : Value → Option Float
  | .bool b => some (if b then 1.0 else 0.0)
  | .int i =>
    let f := floatOfInt i
    if lossy || wholePart f == i then some f else Option.none
  | .wide n =>
    let f := floatOfInt n
    if lossy || wholePart f == n then some f else Option.none
  | .float f => some f
  | _ => Option.none

/-- Two values brought to a common form. -/
inductive Pair where
  /-- Two whole numbers. -/
  | ints (a b : Int)
  /-- Two floating-point numbers. -/
  | floats (a b : Float)
  /-- Two texts. -/
  | texts (a b : String)

/-- The signed number with the same 128 bits. -/
def signed (n : Nat) : Int := if (n : Int) < intEnd then n else (n : Int) - wideEnd

/-- The common form of two values, if they have one. Two numbers that were written with more than
64 bits are taken as signed ones. -/
def pair? (lossy : Bool) (a b : Value) : Option Pair :=
  match a, b with
  | .text s _, .text t _ => some (.texts s t)
  | .wide m, .wide n => some (.ints (signed m) (signed n))
  | .float f, _ => (b.float? lossy).map (.floats f ·)
  | _, .float g => (a.float? lossy).map (.floats · g)
  | _, _ =>
    match a.int?, b.int? with
    | some i, some j => some (.ints i j)
    | _, _ => Option.none

/-! ### Order -/

/-- The bit that makes a floating-point number negative. -/
def signBit : Nat := 9223372036854775808

/-- The place of a floating-point number in a total order of all of them. -/
def floatRank (f : Float) : Int :=
  let bits := f.toBits.toNat
  if bits < signBit then bits else (signBit : Int) - bits - 1

/-- The order of a whole and a floating-point number: exact where the one has no exact
counterpart. -/
def compareMixed (i : Int) (g : Float) : Ordering :=
  if g.isNaN || g.isInf || wholePart (floatOfInt i) == i then
    Ord.compare (floatRank (floatOfInt i)) (floatRank g)
  else Ord.compare i (wholePart g)

/-- The order of two numbers. -/
def compareNumbers (a b : Value) : Ordering :=
  match a, b, a.whole?, b.whole? with
  | _, _, some i, some j => Ord.compare i j
  | _, .float g, some i, _ => compareMixed i g
  | .float f, _, _, some j => (compareMixed j f).swap
  | _, _, _, _ =>
    match pair? false a b with
    | some (.ints i j) => Ord.compare i j
    | some (.floats f g) => Ord.compare (floatRank f) (floatRank g)
    | _ => .eq

/-- Whether two marks say that two things are one and the same. -/
def sameMark (m n : Mark) : Bool := m != 0 && m == n

mutual

/-- The order of two values: by kind, then by content. -/
def compare : Value → Value → Ordering
  | .text s _, .text t _ => Ord.compare s t
  | .list xs form m, .list ys form' n =>
    match Ord.compare (kind (.list [] form 0)).rank (kind (.list [] form' 0)).rank with
    | .eq => if sameMark m n then .eq else compareLists xs ys
    | other => other
  | .map xs _ m, .map ys _ n => if sameMark m n then .eq else compareEntries xs ys
  | .function f, .function g => Ord.compare f.text g.text
  | a, b =>
    match Ord.compare a.kind.rank b.kind.rank with
    | .eq => compareNumbers a b
    | other => other

/-- The order of two lists: the first difference decides. -/
def compareLists : List Value → List Value → Ordering
  | [], [] => .eq
  | [], _ :: _ => .lt
  | _ :: _, [] => .gt
  | x :: xs, y :: ys =>
    match compare x y with
    | .eq => compareLists xs ys
    | other => other

/-- The order of the entries of two maps. -/
def compareEntries : List (Value × Value) → List (Value × Value) → Ordering
  | [], [] => .eq
  | [], _ :: _ => .lt
  | _ :: _, [] => .gt
  | (k, v) :: xs, (k', v') :: ys =>
    match compare k k' with
    | .eq =>
      match compare v v' with
      | .eq => compareEntries xs ys
      | other => other
    | other => other

end

/-! ### Maps -/

/-- The value of a key. -/
def getEntry (entries : List (Value × Value)) (key : Value) : Option Value :=
  (entries.find? fun e => compare e.1 key == .eq).map (·.2)

/-- Puts an entry in its place. A later value replaces an earlier one. -/
def insertEntry (key value : Value) : List (Value × Value) → List (Value × Value)
  | [] => [(key, value)]
  | (k, v) :: rest =>
    match compare key k with
    | .lt => (key, value) :: (k, v) :: rest
    | .eq => (k, value) :: rest
    | .gt => (k, v) :: insertEntry key value rest

/-- Entries in the order of their keys. -/
def sortedEntries (entries : List (Value × Value)) : List (Value × Value) :=
  entries.foldl (fun acc e => insertEntry e.1 e.2 acc) []

/-- A map of entries in any order. -/
def ofEntries (entries : List (Value × Value)) : Value := .map (sortedEntries entries) .plain 0

/-- Entries with textual keys. -/
def fieldEntries (fields : List (String × Value)) : List (Value × Value) :=
  fields.map fun f => (ofText f.1, f.2)

/-- The value of a textual key. -/
def getField (entries : List (Value × Value)) (name : String) : Option Value :=
  (entries.find? fun e => e.1.text? == some name).map (·.2)

/-! ### Equality -/

mutual

/-- The equality of the language. -/
def same : Value → Value → Bool
  | .undefined _, .undefined _ => true
  | .none, .none => true
  | .list xs _ m, .list ys _ n => sameMark m n || sameLists xs ys
  | .map xs _ m, .map ys _ n =>
    sameMark m n || (xs.length == ys.length && sameEntries xs ys)
  | .function f, .function g => f.text == g.text
  | .record m, .record n => m == n
  | .loop m, .loop n => m == n
  | a, b =>
    match pair? false a b with
    | some (.ints i j) => i == j
    | some (.floats f g) => f == g
    | some (.texts s t) => s == t
    | Option.none => false

/-- Equality of lists, member by member. -/
def sameLists : List Value → List Value → Bool
  | [], [] => true
  | x :: xs, y :: ys => same x y && sameLists xs ys
  | _, _ => false

/-- Whether every entry is also in the other map. -/
def sameEntries : List (Value × Value) → List (Value × Value) → Bool
  | [], _ => true
  | (k, v) :: xs, ys =>
    (match ys.find? fun e => compare e.1 k == .eq with
      | some (_, w) => same v w
      | Option.none => false) && sameEntries xs ys

end

/-! ### Identity -/

/-- Whether two values are one and the same: of lists and maps the same one, of other values equal
ones of one kind. -/
def identical (a b : Value) : Bool :=
  match a, b with
  | .list _ _ m, .list _ _ n => sameMark m n
  | .map _ (.macroRef i _) _, .map _ (.macroRef j _) _ => i == j
  | .map _ (.record i) _, .map _ (.record j) _ => i == j
  | .map _ (.loop i _) _, .map _ (.loop j _) _ => i == j
  | .map _ _ m, .map _ _ n => sameMark m n
  | .function f, .function g => f == g
  | _, _ => a.kind = b.kind && a.whole?.isSome == b.whole?.isSome && a.same b

mutual

/-- Gives a mark to every list and map in a value that has none, from `next` on. -/
def marked : Value → Mark → Value × Mark
  | .list items form 0, next =>
    let (items, after) := markedItems items (next + 1)
    (.list items form next, after)
  | .map entries role 0, next =>
    let (entries, after) := markedEntries entries (next + 1)
    (.map entries role next, after)
  | v, next => (v, next)

/-- Gives marks to the items of a list. -/
def markedItems : List Value → Mark → List Value × Mark
  | [], next => ([], next)
  | v :: rest, next =>
    let (v, next) := marked v next
    let (rest, next) := markedItems rest next
    (v :: rest, next)

/-- Gives marks to the values of entries. -/
def markedEntries : List (Value × Value) → Mark → List (Value × Value) × Mark
  | [], next => ([], next)
  | (k, v) :: rest, next =>
    let (v, next) := marked v next
    let (rest, next) := markedEntries rest next
    ((k, v) :: rest, next)

end

/-! ### Text -/

/-- Texts with a comma and a blank between neighbours. -/
def commaList (texts : List String) : String := ", ".intercalate texts

/-- What stands for items that are not counted. -/
def uncountedText : String := "<iterator>"

mutual

/-- The text of a value inside a list or a map. -/
def member : Value → String
  | .undefined _ => "undefined"
  | .none => "None"
  | .bool b => if b then "True" else "False"
  | .int i => toString i
  | .wide n => toString n
  | .float f => Decimal.member.write f
  | .text s _ => Text.quoted s
  | .list items form _ =>
    if form.isCounted then "[" ++ commaList (members items) ++ "]" else uncountedText
  | .map entries role _ =>
    match role.text? with
    | some own => own
    | Option.none => "\x7b" ++ commaList (entryTexts entries) ++ "\x7d"
  | .function f => f.text
  | .record _ | .loop _ => "\x7b\x7d"

/-- The texts of members. -/
def members : List Value → List String
  | [] => []
  | v :: rest => member v :: members rest

/-- The texts of the entries of a map. -/
def entryTexts : List (Value × Value) → List String
  | [] => []
  | (k, v) :: rest => (member k ++ ": " ++ member v) :: entryTexts rest

end

/-- The text of a value. -/
def render : Value → String
  | .undefined _ => ""
  | .float f => Decimal.rendered.write f
  | .text s _ => s
  | .map _ (.module body) _ => body
  | v => v.member

/-! ### Members -/

/-- The characters of a text. -/
def characters (s : String) : List Value := s.toList.map fun c => ofText c.toString

/-- The members of a value that can be walked through: characters, items or keys. -/
def items? : Value → Option (List Value)
  | .undefined _ | .none => some []
  | .text s _ => some (characters s)
  | .list _ .failing _ => Option.none
  | .list items _ _ => some items
  | .map entries _ _ => some (entries.map (·.1))
  | _ => Option.none

/-- Whether a value can be walked through; whether its members can be worked out shows later. -/
def isIterable : Value → Bool
  | .list _ _ _ => true
  | v => v.items?.isSome

/-- How many members a value has. -/
def length? : Value → Option Nat
  | .text s _ => some s.length
  | .list items form _ => if form.isCounted then some items.length else Option.none
  | .map entries _ _ => some entries.length
  | _ => Option.none

/-- The pairs of a key and a value that a list or map consists of; items go by their position. -/
def pairs? : Value → Option (List (Value × Value))
  | .map entries _ _ => some entries
  | .list _ .failing _ => Option.none
  | .list items _ _ => some (items.zipIdx.map fun e => (.int e.2, e.1))
  | _ => Option.none

/-- The item at a position; a negative one counts from the end. -/
def itemAt (items : List Value) (i : Int) : Option Value :=
  let i := if i < 0 then i + items.length else i
  if i < 0 then Option.none else items[i.toNat]?

/-- The item of a group under a name. -/
def groupItem (items : List Value) (name : String) : Option Value :=
  match name with
  | "grouper" => items[0]?
  | "list" => items[1]?
  | _ => Option.none

/-- The member that a subscript names. -/
def item? (v key : Value) : Option Value :=
  match v, key with
  | .map entries _ _, _ => getEntry entries key
  | .list items .group _, .text name _ => groupItem items name
  | .list items form _, _ =>
    key.word?.bind fun i => if i < 0 && !form.isCounted then Option.none else itemAt items i
  | .text s _, _ => key.word?.bind (itemAt (characters s) ·)
  | _, _ => Option.none

end Value

end Scaffold.Template
