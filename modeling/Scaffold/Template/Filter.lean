import Scaffold.Template.Argument
import Scaffold.Template.Directive
import Scaffold.Template.Escape
import Scaffold.Template.Operation
import Scaffold.Template.Pretty
import Scaffold.Template.Sorting
import Scaffold.Text.Case
import Scaffold.Text.Search

/-! # Filters and tests

  The filters that change a value and the tests that ask about one. Both read
  the value as their first argument.

  - `findFilter`, `findTest`: look-up by name.
-/

namespace Scaffold.Template

open Value (ofText)

/-! ### Members -/

/-- The members of a value that is walked through. -/
def walk (v : Value) : Outcome (List Value) :=
  match v with
  | .undefined false => refuse .undefinedValue
  | v =>
    match v.items? with
    | some items => .ok items
    | none => refuse .invalidOperation

/-- The members of a value; the failure is reported as one of the filter. -/
def walkWrapped (v : Value) : Outcome (List Value) :=
  match walk v with
  | .ok items => .ok items
  | .error failure => .error (.because .invalidOperation failure)

/-- The members of a value that is walked through; an undefined one has none. -/
def walkAny (v : Value) : Outcome (List Value) :=
  if v.isUndefined then .ok [] else walk v

/-- A list of texts. -/
def textList (parts : List (List Char)) : Value :=
  .ofList (parts.map fun p => ofText (String.ofList p))

/-- An argument by position or else by name. Where the position is taken, the name is not known. -/
def positionOr {α : Type} (position : Option α) (named : List (Value × Value)) (name : String)
    (form : Value → Outcome α) : Outcome (Option α × List String) :=
  match position with
  | some x => .ok (some x, [])
  | none => do return (← keywordAs? named name form, [name])

/-! ### Text filters -/

/-- Applies a function to the text of the value. -/
def onText (f : String → String) : Reader Value := do
  let s ← Reader.formed Reader.asText
  Reader.done
  return ofText (f s)

/-- Applies a function to the text of the value; a safe text stays one. -/
def onMarkup (f : String → String) : Reader Value := do
  let v ← Reader.value
  let s ← Reader.asText v
  Reader.done
  return .text (f s) v.isSafe

/-- Every word with a capital; words end at punctuation and white space. -/
def titleWords : Bool → List Char → List Char
  | _, [] => []
  | start, c :: rest =>
    let punctuation := 32 < c.toNat && c.toNat < 127 && !c.isAlphanum
    if punctuation || Text.isBlank c then c :: titleWords true rest
    else (if start then Text.upperChar c else Text.lowerChar c) ++ titleWords false rest

/-- The first letter as capital, the rest in small letters. -/
def capitalized (s : String) : String :=
  match s.toList with
  | [] => ""
  | c :: rest =>
    String.ofList (Text.upperChar c) ++ Text.lowercase (String.ofList rest)

/-- Replaces a part of the text. -/
def replaceFilter : Reader Value := do
  let s ← Reader.formed Reader.asText
  let part ← Reader.formed Reader.asText
  let other ← Reader.formed Reader.asText
  Reader.done
  return ofText (String.ofList (Text.replaceAll part.toList other.toList s.toList))

/-- Removes white space, or given characters, at both ends. A safe text stays one. -/
def trimFilter : Reader Value := do
  let v ← Reader.value
  let s ← Reader.asText v
  let chars ← Reader.formed? Reader.asText
  Reader.done
  let drop := match chars with
    | some cs => (cs.toList.contains ·)
    | none => Text.isBlank
  return .text (String.ofList (Text.dropAround drop s.toList)) v.isSafe

/-- Splits at a part, or at white space. -/
def splitFilter : Reader Value := do
  let s := (← Reader.formed Reader.asText).toList
  let part ← Reader.formed? Reader.asText
  let limit ← Reader.formed? Reader.asInt
  Reader.done
  let cuts := match limit with
    | some n => if 0 ≤ n then n.toNat else s.length + 1
    | none => s.length + 1
  return textList <| match part with
    | some p => Text.splitBy p.toList cuts s
    | none => (Text.blankPieces cuts s).filter fun p => !p.all Text.isBlank

/-- A text without a line end at its end. -/
def withoutLineEnd (cs : List Char) : List Char :=
  let cs := if cs.getLast? = some '\n' then cs.dropLast else cs
  if cs.getLast? = some '\r' then cs.dropLast else cs

/-- Puts blanks before lines: before the first one, and before empty ones, only if asked to. -/
def indentLines (width : Nat) (first blank : Bool) (cs : List Char) : List Char :=
  let margin := List.replicate width ' '
  let indented (l : List Char) : List Char :=
    if l.isEmpty then (if blank then margin else []) else margin ++ l
  let shifted := match Text.segments '\n' (withoutLineEnd cs) with
    | [] => []
    | l :: rest => (if first then indented l else l) :: rest.map indented
  withoutLineEnd (Text.joinWith '\n' shifted ++ ['\n'])

/-- Puts blanks before lines. A safe text stays one. -/
def indentFilter : Reader Value := do
  let named ← Reader.keywords
  let v ← Reader.value
  let s ← Reader.asText v
  let width ← Reader.formed? Reader.asNat
  let first ← Reader.formed? Reader.asBool
  let blank ← Reader.formed? Reader.asBool
  Reader.done
  let (width, known) ← positionOr width named "width" Reader.asNat
  let (first, known') ← positionOr first named "first" Reader.asBool
  let (blank, known'') ← positionOr blank named "blank" Reader.asBool
  onlyKeywords named (known ++ known' ++ known'')
  let lines := indentLines (width.getD 4) (first.getD false) (blank.getD false) s.toList
  return .text (String.ofList lines) v.isSafe

/-- Replaces the directives of a text. -/
def formatFilter : Reader Value := do
  let named ← Reader.keywords
  let s ← Reader.formed Reader.asText
  let positions ← Reader.rest
  let named := match positions with
    | [.map entries _ _] => entries ++ named
    | _ => named
  let positions := match positions with
    | [.map _ _ _] => []
    | _ => positions
  return ofText (← formatText s ⟨positions, named⟩)

/-- A byte as two digits in base sixteen, behind a percent sign. -/
def percentByte (b : UInt8) : List Char :=
  let digit (n : Nat) : Char := ((Nat.toDigits 16 n).headD '0').toUpper
  ['%', digit (b.toNat / 16), digit (b.toNat % 16)]

/-- A text for an address: letters, digits and a few marks stand for themselves. -/
def percentEncode (s : String) : String :=
  String.ofList (s.toUTF8.toList.flatMap fun b =>
    let c := Char.ofNat b.toNat
    if b < 128 && (c.isAlphanum || c == '/' || c == '.' || c == '-' || c == '_') then [c]
    else percentByte b)

/-- Encodes a text for an address; a map becomes a query. -/
def urlFilter : Reader Value := do
  let v ← Reader.value
  Reader.done
  match v with
  | .undefined _ | .none => return ofText ""
  | .map entries _ _ =>
    let parts := entries.filterMap fun (k, w) =>
      match w with
      | .undefined _ | .none => none
      | w => some (percentEncode k.render ++ "=" ++ percentEncode w.render)
    return ofText ("&".intercalate parts)
  | v => return ofText (percentEncode v.render)

/-! ### Number filters -/

/-- Rounds half away from zero at a decimal place. -/
def roundFilter : Reader Value := do
  let v ← Reader.value
  let places := (← Reader.formed? Reader.asPlaces).getD 0
  Reader.done
  match v with
  | .int _ | .wide _ => return v
  | .float f =>
    let factor := if 0 ≤ places then Float.pow 10.0 (Float.ofNat places.toNat)
      else 1.0 / Float.pow 10.0 (Float.ofNat places.natAbs)
    return .float ((factor * f).round / factor)
  | _ => refuse .invalidOperation

/-- The size of a number. -/
def absFilter : Reader Value := do
  let v ← Reader.value
  Reader.done
  match v with
  | .int i => checkedInt i.natAbs
  | .wide _ => return v
  | .float f => return .float f.abs
  | _ => refuse .invalidOperation

/-- A value as whole number. -/
def intFilter : Reader Value := do
  let v ← Reader.bound
  Reader.done
  match v with
  | .undefined _ | .none => return .int 0
  | .bool b => return .int (if b then 1 else 0)
  | .int _ | .wide _ => return v
  | .float f => return .int (Value.truncate f)
  | .text s _ =>
    match Decimal.integer? s.toList with
    | some i => return .int (max Value.intMin (min (Value.intEnd - 1) i))
    | none =>
      match Decimal.float? s.toList with
      | some f => return .int (Value.truncate f)
      | none => refuse .invalidOperation
  | _ => refuse .invalidOperation

/-- A value as floating-point number. -/
def floatFilter : Reader Value := do
  let v ← Reader.bound
  Reader.done
  match v with
  | .undefined _ | .none => return .float 0.0
  | .text s _ =>
    match Decimal.float? s.toList with
    | some f => return .float f
    | none => refuse .invalidOperation
  | v =>
    match v.float? true with
    | some f => return .float f
    | none => refuse .invalidOperation

/-! ### List filters -/

/-- Joins the members of a value. Where text is made safe for HTML and one of the parts is safe, so
is the result, and the other parts are made so. -/
def joinFilter (escape : Escape) : Reader Value := do
  let v ← Reader.value
  let joiner := (← Reader.given).getD (ofText "")
  Reader.done
  match v with
  | .undefined _ | .none => return ofText ""
  | v =>
    let between ← Reader.asText joiner
    let items ← walkWrapped v
    if escape = .html && (joiner.isSafe || items.any Value.isSafe) then
      let made (w : Value) : String := if w.isSafe then w.render else escapeHtml w.render
      return .text ((if joiner.isSafe then between else escapeHtml between).intercalate
        (items.map made)) true
    else return ofText (between.intercalate (items.map Value.render))

/-- The number of members. -/
def lengthFilter : Reader Value := do
  let v ← Reader.value
  Reader.done
  match v.length? with
  | some n => return .int n
  | none => refuse .invalidOperation

/-- Turns a text or list around. -/
def reverseFilter : Reader Value := do
  let v ← Reader.value
  Reader.done
  match v with
  | .undefined _ | .none => return v
  | .text s safe => return .text (String.ofList s.toList.reverse) safe
  | v =>
    match v.items? with
    | some items => return .ofCounted items.reverse
    | none => refuse .invalidOperation

/-- The first member. -/
def firstFilter : Reader Value := do
  let v ← Reader.value
  Reader.done
  match v with
  | .undefined _ | .none => refuse .invalidOperation
  | v =>
    match v.items? with
    | some items => return items.head?.getD .missing
    | none => refuse .invalidOperation

/-- The last member. That of a safe text is safe. -/
def lastFilter : Reader Value := do
  let v ← Reader.value
  Reader.done
  match v with
  | .text s safe => return (s.toList.getLast?.map fun c => .text c.toString safe).getD .missing
  | .list _ _ _ =>
    match v.items? with
    | some items => return items.getLast?.getD .missing
    | none => refuse .invalidOperation
  | _ => refuse .invalidOperation

/-- The least or greatest member. -/
def extremeFilter (greatest : Bool) : Reader Value := do
  let v ← Reader.value
  Reader.done
  let better (a b : Value) : Value :=
    if greatest then (if a.compare b == .gt then a else b)
    else (if b.compare a == .lt then b else a)
  match ← walkWrapped v with
  | [] => return .missing
  | first :: rest => return rest.foldl better first

/-- The sum of the members. -/
def sumFilter : Reader Value := do
  let v ← Reader.value
  Reader.done
  (← walk v).foldlM (fun acc item =>
    if item.isUndefined then pure acc
    else if item.kind = .number then monadLift (addValues acc item)
    else refuse .invalidOperation) (.int 0)

/-- Sorts members, by attributes with commas between them if there are some. -/
def sortFilter : Reader Value := do
  let named ← Reader.keywords
  let v ← Reader.value
  Reader.done
  let items ← walkWrapped v
  let caseSensitive ← keywordFlag named "case_sensitive"
  let reverse ← keywordFlag named "reverse"
  let attributes ← keywordAs? named "attribute" Reader.asStrictText
  onlyKeywords named ["case_sensitive", "reverse", "attribute"]
  let keyed := items.map fun item =>
    match attributes with
    | some paths =>
      (item, (Text.segments ',' paths.toList).map fun path =>
        (pathOf item (String.ofList (Text.dropAround Text.isBlank path))).toOption)
    | none => (item, [some item])
  return .ofList (sortByKeys caseSensitive reverse keyed)

/-- A list of a key and a value. -/
def pairList (e : Value × Value) : Value := .ofList [e.1, e.2]

/-- The entries of a map as sorted pairs. -/
def dictSortFilter : Reader Value := do
  let named ← Reader.keywords
  let v ← Reader.value
  Reader.done
  match v with
  | .map entries _ _ =>
    let byValue := (← keywordAs? named "by" Reader.asStrictText) = some "value"
    let caseSensitive ← keywordFlag named "case_sensitive"
    let reverse ← keywordFlag named "reverse"
    onlyKeywords named ["by", "case_sensitive", "reverse"]
    let keyed := entries.map fun e => (e, [some (if byValue then e.2 else e.1)])
    return .ofList ((sortByKeys caseSensitive reverse keyed).map pairList)
  | _ => refuse .invalidOperation

/-- The entries of a map as pairs. -/
def itemsFilter : Reader Value := do
  let v ← Reader.value
  Reader.done
  match v with
  | .map entries _ _ => return .ofCounted (entries.map pairList)
  | _ => refuse .invalidOperation

/-- The first of every run of neighbours with equal keys. -/
def firstOfRuns (keyed : List ((Value × Value) × Nat)) : List ((Value × Value) × Nat) :=
  (keyed.foldl (fun kept x =>
    match kept with
    | y :: _ => if y.1.2.compare x.1.2 == .eq then kept else x :: kept
    | [] => [x]) []).reverse

/-- Drops members whose key occurred before. In the order of the keys, equal ones are neighbours,
the first member in front. -/
def dropRepeated (keyed : List (Value × Value)) : List Value :=
  let sorted := keyed.zipIdx.mergeSort fun a b => a.1.2.compare b.1.2 != .gt
  ((firstOfRuns sorted).mergeSort fun a b => a.2 ≤ b.2).map (·.1.1)

/-- The members without repetitions. -/
def uniqueFilter : Reader Value := do
  let named ← Reader.keywords
  let v ← Reader.value
  Reader.done
  let caseSensitive ← keywordFlag named "case_sensitive"
  let field ← keywordAs? named "attribute" Reader.asStrictText
  onlyKeywords named ["case_sensitive", "attribute"]
  let keyed := (← walk v).map fun item =>
    let key := match field with
      | some path => pathOr item path .missing
      | none => item
    match key with
    | .text s _ => (item, if caseSensitive then key else ofText (Text.lowercase s))
    | _ => (item, key)
  return .ofList (dropRepeated keyed)

/-- Puts neighbours with the same key together. -/
def groupNeighbours (caseSensitive : Bool) : List (Value × Value) → List (Value × List Value)
  | [] => []
  | (item, key) :: rest =>
    match groupNeighbours caseSensitive rest with
    | (other, items) :: groups =>
      if sortOrder caseSensitive key other == .eq then (other, item :: items) :: groups
      else (key, [item]) :: (other, items) :: groups
    | [] => [(key, [item])]

/-- A key, and the items that have it in common. -/
def groupOf (g : Value × List Value) : Value := .list [g.1, .ofCounted g.2] .group 0

/-- Groups members by an attribute. -/
def groupByFilter : Reader Value := do
  let named ← Reader.keywords
  let v ← Reader.value
  let position ← Reader.formed? Reader.asStrictText
  Reader.done
  let other := (keyword? named "default").getD .missing
  let caseSensitive ← keywordFlag named "case_sensitive"
  let (field, known) ← positionOr position named "attribute" Reader.asStrictText
  match field with
  | none => refuse .missingArgument
  | some path =>
    let keyed := (← walkAny v).map fun item =>
      let key := pathOr item path other
      ((item, key), [some key])
    onlyKeywords named ("default" :: "case_sensitive" :: known)
    let sorted := sortByKeys caseSensitive false keyed
    return .ofList ((groupNeighbours caseSensitive sorted).map groupOf)

/-- Cuts a list into parts of a size, the last one filled up. -/
def batches (size : Nat) (filler : Option Value) : Nat → List Value → List Value
  | 0, _ => []
  | fuel + 1, items =>
    if items.isEmpty then []
    else
      let part := items.take size
      let part := match filler with
        | some f => part ++ List.replicate (size - part.length) f
        | none => part
      .ofList part :: batches size filler fuel (items.drop size)

/-- Cuts members into parts of a size. -/
def batchFilter : Reader Value := do
  let v ← Reader.value
  let size ← Reader.formed Reader.asNat
  let filler ← Reader.given
  Reader.done
  if size = 0 then refuse .invalidOperation
  else
    let items ← walk v
    return .ofList (batches size filler items.length items)

/-- Distributes members over a number of parts. -/
def sliceFilter : Reader Value := do
  let v ← Reader.value
  let count ← Reader.formed Reader.asNat
  let filler ← Reader.given
  Reader.done
  if count = 0 then refuse .invalidOperation
  else
    let items ← walk v
    let size := items.length / count
    let longer := items.length % count
    return .ofList ((List.range count).map fun i =>
      let start := i * size + min i longer
      let stop := (i + 1) * size + min (i + 1) longer
      let part := (items.take stop).drop start
      match filler with
      | some f => .ofList (if longer ≤ i then part ++ [f] else part)
      | none => .ofList part)

/-- Joins maps, whose later entries win, or lists. Other values are walked through one after the
other, which shows only then whether they can be. -/
def chainFilter : Reader Value := do
  let first ← Reader.value
  let others ← Reader.rest
  let all := first :: others
  if all.all (·.kind = .map) then
    return .ofEntries (all.flatMap fun v => (v.pairs?).getD [])
  else
    match (all.mapM walkAny : Outcome (List (List Value))) with
    | .ok lists =>
      if all.all (·.kind = .sequence) then return .ofList lists.flatten
      else return .list lists.flatten .uncounted 0
    | .error _ => return .list [] .failing 0

/-- The members at the same positions, as lists. -/
def zipFilter : Reader Value := do
  let first ← Reader.value
  let others ← Reader.rest
  let lists ← ((first :: others).mapM fun v =>
    match walkAny v with
    | .ok items => .ok items.toArray
    | .error failure => .error failure : Outcome (List (Array Value)))
  let shortest := (lists.map Array.size).min?.getD 0
  return .list ((List.range shortest).map fun i => .ofList (lists.filterMap (·[i]?))) .uncounted 0

/-! ### General filters -/

/-- A fallback for what is undefined, or for everything that is not true. -/
def defaultFilter : Reader Value := do
  let v ← Reader.value
  let other := (← Reader.optional).getD (ofText "")
  let lax ← match ← Reader.optional with
    | some (.undefined false) => refuse .undefinedValue
    | some w => pure w.truth
    | none => pure false
  Reader.done
  return if v.isUndefined || (lax && !v.truth) then other else v

/-- The width of a level of JSON: none for one line. -/
def jsonWidth (w : Value) : Outcome JsonIndent :=
  match w with
  | .bool b => .ok (if b then some 2 else none)
  | w => (Reader.asNat w).map some

/-- The JSON form, possibly indented. -/
def jsonFilter : Reader Value := do
  let named ← Reader.keywords
  let v ← Reader.value
  let position ← Reader.formed? jsonWidth
  Reader.done
  let (indent, known) ← positionOr position named "indent" jsonWidth
  onlyKeywords named known
  match v.toSafeJson (indent.getD none) with
  | .ok s => return .text s true
  | .error _ => refuse .invalidOperation

/-! ### Tests -/

/-- A test of the value alone. -/
def question (p : Value → Bool) : Reader Bool := do
  let v ← Reader.value
  Reader.done
  return p v

/-- A test of the value against another one. -/
def relation (p : Value → Value → Outcome Bool) : Reader Bool := do
  let v ← Reader.value
  let w ← Reader.value
  Reader.done
  monadLift (p v w)

/-- A test of two texts. -/
def textRelation (p : List Char → List Char → Bool) : Reader Bool := do
  let s ← Reader.formed Reader.asText
  let t ← Reader.formed Reader.asText
  Reader.done
  return p s.toList t.toList

/-- A test of one text; another value is refused. -/
def textQuestion (p : String → Bool) : Reader Bool := do
  let s ← Reader.formed Reader.asStrictText
  Reader.done
  return p s

/-- A comparison as test. -/
def comparing (op : Comparison) : Reader Bool := relation op.apply

/-- Whether a number divides another one. -/
def isDivisible (v w : Value) : Bool :=
  match Value.pair? false v w with
  | some (.ints i j) => j != 0 && i % j == 0
  | some (.floats f g) => remFloats f g == 0.0
  | _ => false

/-- The names of all filters. -/
def filterNames : List String :=
  ["safe", "escape", "e", "upper", "lower", "title", "capitalize", "replace", "length", "count",
   "dictsort", "items", "reverse", "trim", "join", "split", "lines", "default", "d", "list",
   "round", "abs", "int", "float", "attr", "first", "last", "min", "max", "sum", "sort", "slice",
   "batch", "indent", "select", "reject", "selectattr", "rejectattr", "map", "groupby", "unique",
   "chain", "zip", "pprint", "string", "bool", "tojson", "urlencode", "format"]

/-- The names of all tests. -/
def testNames : List String :=
  ["undefined", "defined", "none", "safe", "escaped", "boolean", "odd", "even", "divisibleby",
   "number", "integer", "int", "float", "string", "sequence", "mapping", "iterable",
   "startingwith", "endingwith", "lower", "upper", "sameas", "eq", "equalto", "==", "ne", "!=",
   "lt", "lessthan", "<", "le", "<=", "gt", "greaterthan", ">", "ge", ">=", "in", "true",
   "false", "filter", "test"]

/-- The test of a name. -/
def findTest (name : String) : Option (Reader Bool) :=
  match name with
  | "undefined" => some (question (·.isUndefined))
  | "defined" => some (question (!·.isUndefined))
  | "none" => some (question fun | .none => true | _ => false)
  | "safe" | "escaped" => some (question Value.isSafe)
  | "boolean" => some (question (·.kind = .bool))
  | "odd" => some (question fun v => v.int?.any (· % 2 != 0))
  | "even" => some (question fun v => v.int?.any (· % 2 == 0))
  | "divisibleby" => some (relation fun v w => .ok (isDivisible v w))
  | "number" => some (question (·.kind = .number))
  | "integer" | "int" => some (question (·.whole?.isSome))
  | "float" => some (question fun | .float _ => true | _ => false)
  | "string" => some (question (·.kind = .string))
  | "sequence" => some (question (·.kind = .sequence))
  | "mapping" => some (question (·.kind = .map))
  | "iterable" => some (question Value.isIterable)
  | "startingwith" => some (textRelation fun s t => t.isPrefixOf s)
  | "endingwith" => some (textRelation fun s t => t.isSuffixOf s)
  | "lower" => some (textQuestion fun s => s.toList.all Text.isLowercase)
  | "upper" => some (textQuestion fun s => s.toList.all Text.isUppercase)
  | "sameas" => some (relation fun v w => .ok (v.identical w))
  | "eq" | "equalto" | "==" => some (comparing .eq)
  | "ne" | "!=" => some (comparing .ne)
  | "lt" | "lessthan" | "<" => some (comparing .lt)
  | "le" | "<=" => some (comparing .le)
  | "gt" | "greaterthan" | ">" => some (comparing .gt)
  | "ge" | ">=" => some (comparing .ge)
  | "in" => some (relation fun v w =>
      if w.isUndefined then refuse .undefinedValue
      else match contains w v with
        | .ok b => .ok b
        | .error _ => .ok false)
  | "true" => some (question fun | .bool b => b | _ => false)
  | "false" => some (question fun | .bool b => !b | _ => false)
  | "filter" => some (textQuestion filterNames.contains)
  | "test" => some (textQuestion testNames.contains)
  | _ => none

/-- Applies a test to its arguments. -/
def applyTest (name : String) (args : List Value) : Outcome Bool :=
  match findTest name with
  | some test => test.run' args
  | none => refuse .unknownTest

/-! ### Filters with filters and tests -/

/-- Keeps the members, or those with an attribute, that pass a test. -/
def selectFilter (byAttribute keep : Bool) : Reader Value := do
  let v ← Reader.value
  let field ← if byAttribute then some <$> Reader.formed Reader.asText else pure none
  let name ← Reader.formed? Reader.asText
  let args ← Reader.rest
  if name.any fun n => (findTest n).isNone then refuse .unknownTest
  else
    let items ← walk v
    let kept ← items.filterM fun item => do
      let tested ← match field with
        | some path => pathOf item path
        | none => pure item
      let passed ← match name with
        | some n => applyTest n (tested :: args)
        | none => pure tested.truth
      return passed == keep
    return .ofList kept

/-- The member of an item under an attribute, or the default if there is none. -/
def memberOr (field other item : Value) : Outcome Value :=
  let found := match field with
    | .text path _ => pathOf item path
    | key => subscriptOf item key
  match found with
  | .ok w => .ok (if w.isUndefined then other else w)
  | .error failure => if other.isUndefined then .error failure else .ok other

/-- Applies a filter to every member, or takes an attribute of each. -/
def mapFilter (apply : String → List Value → Outcome Value) : Reader Value := do
  let v ← Reader.value
  let args ← get
  let named ← Reader.keywords
  let positions ← Reader.rest
  match keyword? named "attribute" with
  | some field =>
    if !positions.isEmpty then refuse .tooManyArguments
    else
      let other := (Value.getField named "default").getD .missing
      let taken ← ((← walk v).mapM (memberOr field other) : Outcome (List Value))
      onlyKeywords named ["attribute", "default"]
      return .ofList taken
  | none =>
    match positions.head? with
    | some (.text name _) =>
      if !filterNames.contains name then refuse .unknownFilter
      else return .ofList (← (← walk v).mapM fun item => apply name (item :: args.drop 1))
    | _ => refuse .invalidOperation

/-- The filter of a name. Filters that use other filters do so at most `fuel` levels deep. -/
def findFilter (escape : Escape) : Nat → String → Option (Reader Value)
  | fuel, name =>
    match name with
    | "safe" => some do
      let s ← Reader.formed Reader.asText
      Reader.done
      return .text s true
    | "escape" | "e" => some do
      let v ← Reader.value
      Reader.done
      match v with
      | .text s true => return .text s true
      | v => return .text (← (if escape = .plain then Escape.html else escape).write v) true
    | "upper" => some (onMarkup Text.uppercase)
    | "lower" => some (onMarkup Text.lowercase)
    | "title" => some (onText fun s => String.ofList (titleWords true s.toList))
    | "capitalize" => some (onMarkup capitalized)
    | "replace" => some replaceFilter
    | "length" | "count" => some lengthFilter
    | "dictsort" => some dictSortFilter
    | "items" => some itemsFilter
    | "reverse" => some reverseFilter
    | "trim" => some trimFilter
    | "join" => some (joinFilter escape)
    | "split" => some splitFilter
    | "lines" => some do
      let s ← Reader.formed Reader.asText
      Reader.done
      return textList (Text.lines s.toList)
    | "default" | "d" => some defaultFilter
    | "list" => some do
      let v ← Reader.value
      Reader.done
      return .ofList (← walkWrapped v)
    | "round" => some roundFilter
    | "abs" => some absFilter
    | "int" => some intFilter
    | "float" => some floatFilter
    | "attr" => some do
      let v ← Reader.value
      let key ← Reader.value
      Reader.done
      subscriptOf v key
    | "first" => some firstFilter
    | "last" => some lastFilter
    | "min" => some (extremeFilter false)
    | "max" => some (extremeFilter true)
    | "sum" => some sumFilter
    | "sort" => some sortFilter
    | "slice" => some sliceFilter
    | "batch" => some batchFilter
    | "indent" => some indentFilter
    | "select" => some (selectFilter false true)
    | "reject" => some (selectFilter false false)
    | "selectattr" => some (selectFilter true true)
    | "rejectattr" => some (selectFilter true false)
    | "map" => some (mapFilter fun inner args =>
        match fuel with
        | 0 => refuse .invalidOperation
        | fuel + 1 =>
          match findFilter escape fuel inner with
          | some filter => filter.run' args
          | none => refuse .unknownFilter)
    | "groupby" => some groupByFilter
    | "unique" => some uniqueFilter
    | "chain" => some chainFilter
    | "zip" => some zipFilter
    | "pprint" => some do
      let v ← Reader.value
      Reader.done
      return ofText (prettyText 0 v)
    | "string" => some do
      let v ← Reader.bound
      Reader.done
      match v with
      | .text _ _ => return v
      | v => return ofText v.render
    | "bool" => some do
      let v ← Reader.bound
      Reader.done
      return .bool v.truth
    | "tojson" => some jsonFilter
    | "urlencode" => some urlFilter
    | "format" => some formatFilter
    | _ => none

/-- Applies a filter to its arguments. Every use of a further filter takes an argument, so their
number bounds the depth. -/
def applyFilter (escape : Escape) (name : String) (args : List Value) : Outcome Value :=
  match findFilter escape args.length name with
  | some filter => filter.run' args
  | none => refuse .unknownFilter

end Scaffold.Template
