import Scaffold.Document.Plain
import Scaffold.Text.Case
import Scaffold.Text.Quoted
import Scaffold.Text.Split

/-! # Hosts of addresses

  What may stand between the slashes of a web address: a name, a number in one
  to four parts, or an address between square brackets. Which names there are
  depends on tables of Unicode, so the rules of hosts are a parameter of all
  that reads addresses. The rules that are spelled out here are those of the
  running program. They know a small part of the tables, and say of some names
  beyond ASCII what the tables do not say.

  - `HostRules`: which hosts there may be.
  - `isWebHost`: the hosts of web addresses, which stand for a name or a number.
  - `isOpaqueHost`: the hosts of other addresses, which are only looked at for
    forbidden characters.
  - `knownHosts`: the rules of the running program.
-/

namespace Scaffold.Source

/-- Which hosts an address may have. -/
structure HostRules where
  /-- Whether a web address may have this host. -/
  web : List Char → Bool
  /-- Whether an address of another kind may have it. -/
  plain : List Char → Bool

/-! ### Numbers with dots -/

/-- The number of one part: octal behind a zero, hexadecimal behind `0x`. -/
def dottedPart? (part : List Char) : Option Nat :=
  match part with
  | [] => none
  | ['0'] => some 0
  | '0' :: 'x' :: [] => some 0
  | '0' :: 'X' :: [] => some 0
  | '0' :: 'x' :: rest => inBase? 16 rest
  | '0' :: 'X' :: rest => inBase? 16 rest
  | '0' :: rest => inBase? 8 rest
  | digits => inBase? 10 digits

/-- The parts of a name, without an empty last one. -/
def nameParts (name : List Char) : List (List Char) :=
  let parts := Text.segments '.' name
  if 1 < parts.length && parts.getLast? == some [] then parts.dropLast else parts

/-- Whether the last part of a name makes it a number. -/
def endsInNumber (name : List Char) : Bool :=
  match (nameParts name).getLast? with
  | none => false
  | some last => (!last.isEmpty && last.all Char.isDigit) || (dottedPart? last).isSome

/-- Whether at most four parts make up a number of four bytes. -/
def isDottedNumber (name : List Char) : Bool :=
  let numbers := (nameParts name).map dottedPart?
  numbers.length ≤ 4 && numbers.all Option.isSome &&
    numbers.dropLast.all (·.any (· ≤ 255)) &&
    (numbers.getLast?.getD none).any (· < Nat.pow 256 (5 - numbers.length))

/-! ### Addresses between brackets -/

/-- A number of one byte, without leading zeros. -/
def isByte (digits : List Char) : Bool :=
  !digits.isEmpty && digits.all Char.isDigit &&
    (digits.length == 1 || digits.head? != some '0') && (inBase? 10 digits).any (· ≤ 255)

/-- Four numbers of one byte with dots between them. -/
def isFourBytes (cs : List Char) : Bool :=
  let parts := Text.segments '.' cs
  parts.length == 4 && parts.all isByte

/-- One to four hexadecimal digits. -/
def isGroup (cs : List Char) : Bool := cs.length ≤ 4 && (inBase? 16 cs).isSome

/-- The number of groups that a list of parts makes up; the last part may be four bytes. -/
def groupCount : List (List Char) → Option Nat
  | [] => some 0
  | [last] => if isGroup last then some 1 else if isFourBytes last then some 2 else none
  | part :: rest => if isGroup part then (groupCount rest).map (· + 1) else none

/-- The parts between colons; none for the empty text. -/
def colonParts (cs : List Char) : List (List Char) :=
  if cs.isEmpty then [] else Text.segments ':' cs

/-- The text before and behind the first double colon. -/
def cutAtGap : List Char → Option (List Char × List Char)
  | [] => none
  | ':' :: ':' :: rest => some ([], rest)
  | c :: rest => (cutAtGap rest).map fun (before, after) => (c :: before, after)

/-- Eight groups, or fewer around one double colon. -/
def isGroupAddress (cs : List Char) : Bool :=
  match cutAtGap cs with
  | none => groupCount (colonParts cs) == some 8
  | some (before, after) =>
    let first := colonParts before
    first.all isGroup && (groupCount (colonParts after)).any fun n => first.length + n ≤ 7

/-! ### Names -/

/-- The bytes of a text in which a percent sign with two digits stands for a byte. -/
def percentDecoded : List Char → List UInt8
  | [] => []
  | '%' :: a :: b :: rest =>
    match digit? 16 a, digit? 16 b with
    | some x, some y => (x * 16 + y).toUInt8 :: percentDecoded rest
    | _, _ => 37 :: percentDecoded (a :: b :: rest)
  | c :: rest => (String.ofList [c]).toUTF8.toList ++ percentDecoded rest

/-- The characters of ASCII, beside control characters, that no name may hold. -/
def deniedMarks : List Char :=
  ['%', '#', '/', ':', '<', '>', '?', '@', '[', '\\', ']', '^', '|']

/-- The characters that count for nothing in a name. -/
def isIgnored (c : Char) : Bool :=
  let n := c.toNat
  n == 0xAD || n == 0x200B || n == 0x2060 || n == 0x2064 || n == 0xFEFF ||
    (0xFE00 ≤ n && n ≤ 0xFE0F)

/-- The plain form of a character: wide forms of ASCII and other full stops are narrowed. -/
def narrowed (c : Char) : Char :=
  let n := c.toNat
  if 0xFF01 ≤ n && n ≤ 0xFF5E then Char.ofNat (n - 0xFEE0)
  else if n == 0x3002 || n == 0xFF61 then '.'
  else c

/-- Whether a name may hold a character. -/
def isNameChar (c : Char) : Bool :=
  let n := c.toNat
  if n < 128 then 32 < n && n != 127 && !deniedMarks.contains c
  else !Text.inRanges Text.unprintableRanges c

/-! ### Encoded labels -/

/-- The value of a digit of an encoded label. -/
def labelDigit? (c : Char) : Option Nat :=
  if 'a' ≤ c && c ≤ 'z' then some (c.toNat - 97)
  else if '0' ≤ c && c ≤ '9' then some (c.toNat - 22)
  else none

/-- Divides a distance until it is small and counts the steps. -/
def biasSteps (distance bias : Nat) : Nat :=
  if 455 < distance then biasSteps (distance / 35) (bias + 36)
  else bias + 36 * distance / (distance + 38)
termination_by distance

/-- Where the threshold of digits lies after a character. -/
def adaptBias (delta count : Nat) (first : Bool) : Nat :=
  let distance := if first then delta / 700 else delta / 2
  biasSteps (distance + distance / count) 0

/-- What the numbers of an encoded label stay below. -/
def labelLimit : Nat := 4294967296

/-- One number of an encoded label, and the digits behind it. -/
def labelNumber (bias : Nat) : Nat → Nat → Nat → List Char → Option (Nat × List Char)
  | _, _, _, [] => none
  | k, weight, sum, c :: rest =>
    match labelDigit? c with
    | none => none
    | some digit =>
      let threshold := if k ≤ bias then 1 else if bias + 26 ≤ k then 26 else k - bias
      let sum := sum + digit * weight
      if labelLimit ≤ sum then none
      else if digit < threshold then some (sum, rest)
      else labelNumber bias (k + 36) (weight * (36 - threshold)) sum rest

/-- The characters that the numbers of an encoded label put into its plain ones. -/
def decodeNumbers : Nat → Nat → Nat → Nat → List Char → List Char → Option (List Char)
  | 0, _, _, _, output, _ => some output
  | _ + 1, _, _, _, output, [] => some output
  | fuel + 1, n, i, bias, output, digits =>
    match labelNumber bias 36 1 0 digits with
    | none => none
    | some (delta, rest) =>
      let count := output.length + 1
      let place := i + delta
      let code := n + place / count
      if !code.isValidChar then none
      else
        let offset := place % count
        decodeNumbers fuel code (offset + 1) (adaptBias delta count (i == 0))
          (output.take offset ++ Char.ofNat code :: output.drop offset) rest

/-- The characters of an encoded label, without its mark. -/
def decodeLabel (label : List Char) : Option (List Char) :=
  match label.reverse.span (· != '-') with
  | (_, []) => decodeNumbers (label.length + 1) 128 0 72 [] label
  | (digits, _ :: plain) =>
    decodeNumbers (label.length + 1) 128 0 72 plain.reverse digits.reverse

/-- Whether a label keeps the rules: an encoded one stands for a label beyond ASCII in small
letters. -/
def isLabel (label : List Char) : Bool :=
  match label with
  | 'x' :: 'n' :: '-' :: '-' :: encoded =>
    match decodeLabel encoded with
    | none => false
    | some cs =>
      cs.any (128 ≤ ·.toNat) &&
        cs.all fun c => isNameChar c && !isIgnored c && narrowed c == c && Text.lowerChar c == [c]
  | _ => true

/-! ### Hosts -/

/-- The text of a name in its plain form. -/
def plainName (host : List Char) : Option (List Char) :=
  (String.fromUTF8? ⟨(percentDecoded host).toArray⟩).map fun s =>
    ((s.toList.filter (!isIgnored ·)).map narrowed).flatMap Text.lowerChar

/-- The text between the brackets around a host. -/
def bracketed? (host : List Char) : Option (List Char) :=
  match host with
  | '[' :: rest => some rest
  | _ => none

/-- Whether a text between an opening and maybe a closing bracket is an address. -/
def isBracketed (rest : List Char) : Bool :=
  rest.getLast? == some ']' && isGroupAddress rest.dropLast

/-- Whether a web address may have this host, as far as the names are known. -/
def isWebHost (host : List Char) : Bool :=
  match bracketed? host with
  | some rest => isBracketed rest
  | none =>
    match plainName host with
    | none => false
    | some name =>
      !name.isEmpty && name.all isNameChar && (Text.segments '.' name).all isLabel &&
        (!endsInNumber name || isDottedNumber name)

/-- The characters that no host may hold. -/
def forbiddenMarks : List Char :=
  ['\x00', '\t', '\n', '\r', ' ', '#', '/', ':', '<', '>', '?', '@', '[', '\\', ']', '^', '|']

/-- Whether an address of another kind may have this host. -/
def isOpaqueHost (host : List Char) : Bool :=
  match bracketed? host with
  | some rest => isBracketed rest
  | none => !host.any (forbiddenMarks.contains ·)

/-- The rules of the running program. -/
def knownHosts : HostRules := ⟨isWebHost, isOpaqueHost⟩

end Scaffold.Source
