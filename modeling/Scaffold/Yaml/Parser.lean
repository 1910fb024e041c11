import Scaffold.Document.Node
import Scaffold.Yaml.Scanner

/-! # From tokens to nodes

  Tokens are put together to nodes up to the first one that does not fit. A node
  with a name can occur again; one that would contain itself, or that repeats
  too much, stays unreadable.

  - `node`: one node; what follows it is missing if the text is broken.
  - `parse`: the only document of a text.
-/

namespace Scaffold.Yaml

/-! ### State -/

/-- The state while nodes are read. -/
structure Reader where
  /-- The tokens to come. -/
  tokens : List Token
  /-- What handles of tags stand for. -/
  prefixes : List (String × String) := []
  /-- Names and the number of the node they stand for, latest first. -/
  names : List (String × Nat) := []
  /-- Numbered nodes, latest first. -/
  nodes : List (Nat × Node) := []
  /-- How large a repeated node may be. -/
  limit : Nat := 0

/-- The reader behind some tokens. -/
def Reader.goTo (r : Reader) (tokens : List Token) : Reader := { r with tokens }

/-- Gives a node its name. -/
def Reader.declare (r : Reader) (name : Option String) (node : Node) : Reader :=
  match name with
  | none => r
  | some n =>
    { r with names := (n, r.names.length) :: r.names,
             nodes := (r.names.length, node) :: r.nodes }

/-- Replaces the node with a number, if its name was declared. -/
def Reader.complete (r : Reader) (name : Option String) (number : Nat) (node : Node) : Reader :=
  match name with
  | none => r
  | some _ => { r with nodes := (number, node) :: r.nodes }

/-! ### Tags -/

/-- The tags of the language itself. -/
def coreTags : List (String × Tag) := [
  ("tag:yaml.org,2002:null", .null), ("tag:yaml.org,2002:bool", .bool),
  ("tag:yaml.org,2002:int", .int), ("tag:yaml.org,2002:float", .float)]

/-- The kind of a tag. -/
def tagKind (name : String) : Tag :=
  match name.toList with
  | [] => .none
  | '!' :: _ => .own
  | _ => (coreTags.lookup name).getD .other

/-- The tag that does not say anything about a scalar. -/
def silentTag : String := "!"

/-- The full name of a tag. -/
def Reader.tagName? (r : Reader) (handle suffix : String) : Option String :=
  if handle = "" then some suffix else (r.prefixes.lookup handle).map (· ++ suffix)

/-! ### Properties of nodes -/

/-- What stands in front of a node. -/
structure Properties where
  /-- The name of the node. -/
  anchor : Option String := none
  /-- The handle and the suffix of its tag. -/
  tag : Option (String × String) := none

/-- A name and a tag in either order, and what follows them. -/
def properties : List Token → Properties × List Token
  | .anchor a :: .tag h s :: rest => (⟨some a, some (h, s)⟩, rest)
  | .tag h s :: .anchor a :: rest => (⟨some a, some (h, s)⟩, rest)
  | .anchor a :: rest => (⟨some a, none⟩, rest)
  | .tag h s :: rest => (⟨none, some (h, s)⟩, rest)
  | rest => ({}, rest)

/-- The scalar of which nothing is written. -/
def emptyScalar : Node := .written .none true ""

/-- A scalar under a tag. -/
def scalarNode (tag : String) (plain : Bool) (text : String) : Node :=
  if tag = "" ∨ tag = silentTag then
    if plain then .written .none true text else .scalar (.text text)
  else .written (tagKind tag) plain text

/-- A list that cannot be read. -/
def closedList (tag : Tag) : Node := .list tag [.unreadable]

/-- A map that cannot be read. -/
def closedMap (tag : Tag) : Node := .map tag [(.unreadable, .unreadable)]

/-! ### Repeated nodes -/

mutual

/-- The number of nodes in a node. -/
def size : Node → Nat
  | .list _ nodes => 1 + sizeOfItems nodes
  | .map _ pairs => 1 + sizeOfPairs pairs
  | _ => 1

/-- The number of nodes in a list of nodes. -/
def sizeOfItems : List Node → Nat
  | [] => 0
  | n :: rest => size n + sizeOfItems rest

/-- The number of nodes in keys and values. -/
def sizeOfPairs : List (Node × Node) → Nat
  | [] => 0
  | (k, v) :: rest => size k + size v + sizeOfPairs rest

end

/-- The node that a name stands for. -/
def Reader.repeated (r : Reader) (name : String) : Node :=
  match (r.names.lookup name).bind fun number => r.nodes.lookup number with
  | none => .broken
  | some n =>
    if size n ≤ r.limit then n
    else match n with
      | .list tag _ => closedList tag
      | .map tag _ => closedMap tag
      | other => other

/-! ### Nodes -/

/-- The tokens that end an entry of an indented map. -/
def endsBlockEntry : Token → Bool
  | .key | .value | .blockEnd => true
  | _ => false

/-- The tokens that end an item of an indented list. -/
def endsBlockItem : Token → Bool
  | .blockEntry | .blockEnd => true
  | _ => false

/-- The tokens that end an item of a list without an indent of its own. -/
def endsFlushItem (t : Token) : Bool := endsBlockItem t || endsBlockEntry t

/-- The tokens that end a value between braces. -/
def endsFlowValue : Token → Bool
  | .flowEntry | .flowMapEnd => true
  | _ => false

/-- The tokens that end a key between braces. -/
def endsFlowKey : Token → Bool
  | .value => true
  | t => endsFlowValue t

/-- The tokens that end a value between brackets. -/
def endsPairValue : Token → Bool
  | .flowEntry | .flowListEnd => true
  | _ => false

/-- The tokens that end a key between brackets. -/
def endsPairKey : Token → Bool
  | .value => true
  | t => endsPairValue t

/-- A node of which only a name or a tag is written. -/
def emptyNode (p : Properties) (tag : String) (r : Reader) : Node × Option Reader :=
  if p.anchor.isNone && p.tag.isNone then (.broken, none)
  else
    let n := Node.written (tagKind tag) true ""
    (n, some (r.declare p.anchor n))

mutual

/-- One node. In `block` context it may be indented, and `flush` lists may stand at the indent
of the map around them. -/
def node : Nat → Bool → Bool → Reader → Node × Option Reader
  | 0, _, _, _ => (.broken, none)
  | fuel + 1, block, flush, r =>
    match r.tokens with
    | .reference name :: rest =>
      match r.repeated name with
      | .broken => (.broken, none)
      | n => (n, some (r.goTo rest))
    | _ =>
      let (p, rest) := properties r.tokens
      let number := r.names.length
      match p.tag.elim (some "") fun (h, s) => r.tagName? h s with
      | none => (.broken, none)
      | some tag =>
        let kind := tagKind tag
        let inner := r.goTo (rest.drop 1)
        let finishList (found : List Node × Option Reader) : Node × Option Reader :=
          let n := Node.list kind found.1
          (n, found.2.map fun r => r.complete p.anchor number n)
        let finishMap (found : List (Node × Node) × Option Reader) : Node × Option Reader :=
          let n := Node.map kind found.1
          (n, found.2.map fun r => r.complete p.anchor number n)
        match rest with
        | [] => (.broken, none)
        | .blockEntry :: _ =>
          if flush then
            finishList (flushItems fuel ((r.goTo rest).declare p.anchor (closedList kind)))
          else emptyNode p tag (r.goTo rest)
        | .scalar plain text :: _ =>
          let n := scalarNode tag plain text
          (n, some (inner.declare p.anchor n))
        | .flowListStart :: _ =>
          finishList (flowItems fuel true (inner.declare p.anchor (closedList kind)))
        | .flowMapStart :: _ =>
          finishMap (flowEntries fuel true (inner.declare p.anchor (closedMap kind)))
        | .blockListStart :: _ =>
          if block then finishList (blockItems fuel (inner.declare p.anchor (closedList kind)))
          else emptyNode p tag (r.goTo rest)
        | .blockMapStart :: _ =>
          if block then finishMap (blockEntries fuel (inner.declare p.anchor (closedMap kind)))
          else emptyNode p tag (r.goTo rest)
        | _ => emptyNode p tag (r.goTo rest)

/-- A node, or the empty scalar if what comes next ends it. -/
def nodeUnless : Nat → (Token → Bool) → Bool → Bool → Reader → Node × Option Reader
  | 0, _, _, _, _ => (.broken, none)
  | fuel + 1, stop, block, flush, r =>
    match r.tokens with
    | [] => (.broken, none)
    | t :: _ => if stop t then (emptyScalar, some r) else node fuel block flush r

/-- The value behind a colon, or the empty scalar if there is no colon. -/
def valueUnless : Nat → (Token → Bool) → Bool → Bool → Reader → Node × Option Reader
  | 0, _, _, _, _ => (.broken, none)
  | fuel + 1, stop, block, flush, r =>
    match r.tokens with
    | [] => (.broken, none)
    | .value :: rest => nodeUnless fuel stop block flush (r.goTo rest)
    | _ => (emptyScalar, some r)

/-- The items of an indented list. -/
def blockItems : Nat → Reader → List Node × Option Reader
  | 0, _ => ([.broken], none)
  | fuel + 1, r =>
    match r.tokens with
    | .blockEntry :: rest =>
      match nodeUnless fuel endsBlockItem true false (r.goTo rest) with
      | (n, none) => ([n], none)
      | (n, some r) =>
        let (more, final) := blockItems fuel r
        (n :: more, final)
    | .blockEnd :: rest => ([], some (r.goTo rest))
    | _ => ([.broken], none)

/-- The items of a list at the indent of the map around it. -/
def flushItems : Nat → Reader → List Node × Option Reader
  | 0, _ => ([.broken], none)
  | fuel + 1, r =>
    match r.tokens with
    | [] => ([.broken], none)
    | .blockEntry :: rest =>
      match nodeUnless fuel endsFlushItem true false (r.goTo rest) with
      | (n, none) => ([n], none)
      | (n, some r) =>
        let (more, final) := flushItems fuel r
        (n :: more, final)
    | _ => ([], some r)

/-- The entries of an indented map. -/
def blockEntries : Nat → Reader → List (Node × Node) × Option Reader
  | 0, _ => ([(.broken, .broken)], none)
  | fuel + 1, r =>
    match r.tokens with
    | .key :: rest =>
      match nodeUnless fuel endsBlockEntry true true (r.goTo rest) with
      | (k, none) => ([(k, .broken)], none)
      | (k, some r) =>
        match valueUnless fuel endsBlockEntry true true r with
        | (v, none) => ([(k, v)], none)
        | (v, some r) =>
          let (more, final) := blockEntries fuel r
          ((k, v) :: more, final)
    | .blockEnd :: rest => ([], some (r.goTo rest))
    | _ => ([(.broken, .broken)], none)

/-- The items between square brackets. -/
def flowItems : Nat → Bool → Reader → List Node × Option Reader
  | 0, _, _ => ([.broken], none)
  | fuel + 1, first, r =>
    let next : Option (List Token) := match r.tokens with
      | [] => none
      | .flowListEnd :: _ => some r.tokens
      | .flowEntry :: rest => if first then some r.tokens else some rest
      | _ => if first then some r.tokens else none
    match next with
    | none | some [] => ([.broken], none)
    | some (.flowListEnd :: rest) => ([], some (r.goTo rest))
    | some (.key :: rest) =>
      match flowPair fuel (r.goTo rest) with
      | (pair, none) => ([.map .none [pair]], none)
      | (pair, some r) =>
        let (more, final) := flowItems fuel false r
        (.map .none [pair] :: more, final)
    | some tokens =>
      match node fuel false false (r.goTo tokens) with
      | (n, none) => ([n], none)
      | (n, some r) =>
        let (more, final) := flowItems fuel false r
        (n :: more, final)

/-- A single pair between square brackets. A key that is missing takes the next token along. -/
def flowPair : Nat → Reader → (Node × Node) × Option Reader
  | 0, _ => ((.broken, .broken), none)
  | fuel + 1, r =>
    let key := match r.tokens with
      | [] => (Node.broken, none)
      | t :: rest =>
        if endsPairKey t then (emptyScalar, some (r.goTo rest)) else node fuel false false r
    match key with
    | (k, none) => ((k, .broken), none)
    | (k, some r) =>
      let (v, final) := valueUnless fuel endsPairValue false false r
      ((k, v), final)

/-- The entries between braces. -/
def flowEntries : Nat → Bool → Reader → List (Node × Node) × Option Reader
  | 0, _, _ => ([(.broken, .broken)], none)
  | fuel + 1, first, r =>
    let next : Option (List Token) := match r.tokens with
      | [] => none
      | .flowMapEnd :: _ => some r.tokens
      | .flowEntry :: rest => if first then some r.tokens else some rest
      | _ => if first then some r.tokens else none
    let finish (k : Node) (value : Node × Option Reader) : List (Node × Node) × Option Reader :=
      match value with
      | (v, none) => ([(k, v)], none)
      | (v, some r) =>
        let (more, final) := flowEntries fuel false r
        ((k, v) :: more, final)
    match next with
    | none | some [] => ([(.broken, .broken)], none)
    | some (.flowMapEnd :: rest) => ([], some (r.goTo rest))
    | some (.key :: rest) =>
      match nodeUnless fuel endsFlowKey false false (r.goTo rest) with
      | (k, none) => ([(k, .broken)], none)
      | (k, some r) => finish k (valueUnless fuel endsFlowValue false false r)
    | some tokens =>
      match node fuel false false (r.goTo tokens) with
      | (k, none) => ([(k, .broken)], none)
      | (k, some r) =>
        finish k (if r.tokens.isEmpty then (.broken, none) else (emptyScalar, some r))

end

/-! ### Documents -/

/-- The prefixes of every document. -/
def defaultPrefixes : List (String × String) := [("!", "!"), ("!!", "tag:yaml.org,2002:")]

/-- Whether a version of the language is understood. -/
def isKnownVersion (major minor : Nat) : Bool := major == 1 && (minor == 1 || minor == 2)

/-- The directives before a document: at most one version, and no handle twice. -/
def directives : Bool → List (String × String) → List Token →
    Option (List (String × String) × List Token)
  | versioned, found, .version major minor :: rest =>
    if versioned || !isKnownVersion major minor then none else directives true found rest
  | versioned, found, .tagPrefix handle start :: rest =>
    if (found.lookup handle).isSome then none
    else directives versioned (found ++ [(handle, start)]) rest
  | _, found, tokens => some (found, tokens)

/-- The tokens in front of which an opened document is empty. -/
def endsDocument : Token → Bool
  | .version .. | .tagPrefix .. | .documentStart | .documentEnd | .streamEnd => true
  | _ => false

/-- Whether nothing but ends of documents is left of a text that kept the rules. -/
def isAtEnd (tokens : List Token) : Bool :=
  tokens.dropWhile (· == .documentEnd) == [.streamEnd]

/-- The document that a node and what follows it make up. -/
def documentOf : Node × Option Reader → Document
  | (root, none) => ⟨root, false⟩
  | (root, some r) => ⟨root, isAtEnd r.tokens⟩

/-- How much larger than the text a repeated node may make a document. -/
def repetitionFactor : Nat := 100

/-- The document of tokens. -/
def documentOfTokens (ts : List Token) : Document :=
  let fuel := 4 * ts.length + 4
  let limit := repetitionFactor * ts.length
  match directives false [] ts with
  | none => ⟨.broken, false⟩
  | some (found, rest) =>
    let r : Reader := { tokens := rest, prefixes := found ++ defaultPrefixes, limit }
    match rest with
    | [.streamEnd] => if ts.length = 1 then ⟨emptyScalar, true⟩ else ⟨.broken, false⟩
    | .documentStart :: body => documentOf (nodeUnless fuel endsDocument true false (r.goTo body))
    | _ =>
      if ts.length = rest.length then documentOf (node fuel true false r) else ⟨.broken, false⟩

/-- The text without the marks of its encoding. -/
def withoutMarks (s : String) : List Char :=
  match s.toList with
  | '\ufeff' :: '\ufeff' :: cs => cs
  | '\ufeff' :: cs => cs
  | cs => cs

/-- The only document of a text. -/
def parse (s : String) : Document :=
  let (ts, ok) := tokens (withoutMarks s)
  let d := documentOfTokens ts
  ⟨d.root, d.complete && ok⟩

end Scaffold.Yaml
