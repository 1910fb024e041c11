import Scaffold.Document.Plain

/-! # Nodes of documents

  A document as far as it could be read. Damage is part of the tree: it counts
  only when a reader comes to it, so that what stands before it is judged first.
  Some scalars wait for their reader, who may want the text as it was written or
  the value that it stands for.

  - `Node`: what a document is made of.
  - `Content`: a value whose scalars all have their kind.
  - `Node.text`, `Node.optionalText`, `Node.items`, `Node.content`: the readers.
-/

namespace Scaffold

/-! ### Values -/

/-- A value whose scalars all have their kind. -/
inductive Content where
  /-- A value without parts. -/
  | scalar (value : Scalar)
  /-- A list. -/
  | list (items : List Content)
  /-- A map in the order of its text; a key can occur twice. -/
  | map (entries : List (Content × Content))

/-- How reports name a value. -/
def Content.describe (format : Format) : Content → String
  | .scalar value => value.describe format
  | .list _ => "sequence"
  | .map _ => "map"

/-- The fault of a value that should have been something else. -/
def Content.mismatch (format : Format) (c : Content) (expected : String) : DocumentFault :=
  .invalidType (c.describe format) expected

/-! ### Nodes -/

/-- The mark that a document puts in front of a value. -/
inductive Tag where
  /-- No mark. -/
  | none
  /-- A truth value. -/
  | bool
  /-- A whole number. -/
  | int
  /-- A floating-point number. -/
  | float
  /-- No value. -/
  | null
  /-- A mark of the document's own. -/
  | own
  /-- Any other mark, such as that of texts. -/
  | other
  deriving DecidableEq, Repr

/-- A part of a document. -/
inductive Node where
  /-- A scalar whose kind shows. -/
  | scalar (value : Scalar)
  /-- A scalar whose kind depends on its mark and on whether it is plain. -/
  | written (tag : Tag) (plain : Bool) (text : String)
  /-- A list. -/
  | list (tag : Tag) (items : List Node)
  /-- A map. -/
  | map (tag : Tag) (entries : List (Node × Node))
  /-- A well-formed text that stands for no value. -/
  | unreadable
  /-- The place where the text breaks the rules of its format. -/
  | broken

namespace Node

/-! ### Kinds of written scalars -/

/-- The value of a scalar under a mark. -/
def settle (format : Format) (tag : Tag) (plain : Bool) (text : String) :
    Except DocumentFault Scalar :=
  let expect (expected : String) (value : Option Scalar) : Except DocumentFault Scalar :=
    match value with
    | some found => .ok found
    | none => .error (.invalidValue ((Scalar.text text).describe format) expected)
  match tag with
  | .bool => expect "a boolean" ((boolWord? text).map .bool)
  | .int => expect "an integer" (intScalar? text)
  | .float => expect "a float" ((floatWord? text).map .float)
  | .null => expect "null" (if text ∈ nullWords then some .null else none)
  | .none | .own => .ok (if plain then Scalar.ofPlain text else .text text)
  | .other => .ok (.text text)

/-- Whether a node is a scalar of which nothing is written. -/
def isVoid : Node → Bool
  | .written _ true "" => true
  | _ => false

/-- The fault of a node that should have been something else. -/
def mismatch (format : Format) (expected : String) : Node → DocumentFault
  | .scalar value => .invalidType (value.describe format) expected
  | .written tag plain text =>
    match settle format tag plain text with
    | .ok value => .invalidType (value.describe format) expected
    | .error fault => fault
  | .list .. => .invalidType "sequence" expected
  | .map .. => .invalidType "map" expected
  | .unreadable | .broken => .malformed

/-! ### Readers -/

/-- The text of a scalar, as it was written if that is possible. -/
def text (format : Format) (expected : String) : Node → Except DocumentFault String
  | .scalar (.text s) => .ok s
  | .written _ _ s => .ok s
  | node => .error (node.mismatch format expected)

/-- The text of a scalar, unless it is null. -/
def optionalText (format : Format) (node : Node) : Except DocumentFault (Option String) :=
  match node with
  | .scalar .null => .ok none
  | .written .null true s =>
    if s ∈ nullWords then .ok none
    else .error (.invalidValue ((Scalar.text s).describe format) "null")
  | .written .none true s => .ok (if s = "" ∨ s ∈ nullWords then none else some s)
  | node => (node.text format "a string").map some

/-- The items of a list. -/
def items (format : Format) (node : Node) : Except DocumentFault (List Node) :=
  match node with
  | .list _ nodes => .ok nodes
  | node => if node.isVoid then .ok [] else .error (node.mismatch format "a sequence")

/-- The entries of a map. -/
def entries (format : Format) (expected : String) (node : Node) :
    Except DocumentFault (List (Node × Node)) :=
  match node with
  | .map _ pairs => .ok pairs
  | node => if node.isVoid then .ok [] else .error (node.mismatch format expected)

mutual

/-- Whether the text of a node keeps the rules of its format. -/
def isSound : Node → Bool
  | .broken => false
  | .list _ nodes => allSound nodes
  | .map _ pairs => allPairsSound pairs
  | _ => true

/-- Whether nodes are sound. -/
def allSound : List Node → Bool
  | [] => true
  | node :: rest => node.isSound && allSound rest

/-- Whether keys and values are sound. -/
def allPairsSound : List (Node × Node) → Bool
  | [] => true
  | (key, value) :: rest => key.isSound && value.isSound && allPairsSound rest

end

/-- The value of a scalar that nobody wants as text. -/
def scalarContent (format : Format) (s : Scalar) : Except DocumentFault Content :=
  match s with
  | .wide i => .error (.invalidType ((Scalar.wide i).describe format) "any value")
  | found => .ok (.scalar found)

mutual

/-- The value of a node that has `depth` lists and maps around it. -/
def content (format : Format) (depth : Nat) : Node → Except DocumentFault Content
  | .scalar value => scalarContent format value
  | .written .own _ _ => .error .malformed
  | .written tag plain s => do scalarContent format (← settle format tag plain s)
  | .list tag nodes =>
    if tag = .own ∨ format.depthLimit ≤ depth then .error .malformed
    else do return .list (← itemContents format (depth + 1) nodes)
  | .map tag pairs =>
    if tag = .own ∨ format.depthLimit ≤ depth then .error .malformed
    else do return .map (← entryContents format (depth + 1) pairs)
  | .unreadable | .broken => .error .malformed

/-- The values of nodes. -/
def itemContents (format : Format) (depth : Nat) :
    List Node → Except DocumentFault (List Content)
  | [] => .ok []
  | node :: rest => do
    let first ← node.content format depth
    return first :: (← itemContents format depth rest)

/-- The values of keys and values. -/
def entryContents (format : Format) (depth : Nat) :
    List (Node × Node) → Except DocumentFault (List (Content × Content))
  | [] => .ok []
  | (key, value) :: rest => do
    let first ← key.content format depth
    let second ← value.content format depth
    return (first, second) :: (← entryContents format depth rest)

end

end Node

/-! ### Documents -/

/-- A document as far as it could be read. -/
structure Document where
  /-- The outermost node. -/
  root : Node
  /-- Whether nothing but blanks follows it. -/
  complete : Bool

end Scaffold
