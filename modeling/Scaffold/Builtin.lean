import Scaffold.Text.Blank
import Scaffold.Text.Case
import Scaffold.Text.Split
import Scaffold.Text.Title

/-! # Built-in callables

  The closed set of functions that scripts and templates can use by name.

  - *Validators* give the empty text for an acceptable value, else a reason.
  - *Converters* give the converted value.
-/

namespace Scaffold

/-! ### The set -/

/-- A built-in callable. -/
inductive Builtin where
  /-- Accepts text that is not blank. -/
  | isNotEmpty
  /-- Accepts a package name. -/
  | isPackage
  /-- Accepts a spelling of yes or no. -/
  | isYesNo
  /-- Turns a file name into a title. -/
  | fileToTitle
  /-- Turns a file name into a package segment. -/
  | fileToPackage
  /-- Turns a package name into a path. -/
  | packageToPath
  /-- Turns a spelling of yes or no into a truth value. -/
  | yesNoToBool
  deriving DecidableEq, Repr

/-- What a built-in is for. -/
inductive BuiltinKind where
  /-- Judges a value. -/
  | validator
  /-- Changes a value. -/
  | converter
  deriving DecidableEq, Repr

namespace Builtin

/-- Every built-in, in the order in which environments list them. -/
def all : List Builtin :=
  [.isNotEmpty, .isPackage, .isYesNo, .fileToTitle, .fileToPackage, .packageToPath, .yesNoToBool]

/-- The name scripts use. -/
def name : Builtin → String
  | .isNotEmpty => "isNotEmpty"
  | .isPackage => "isPackage"
  | .isYesNo => "isYesNo"
  | .fileToTitle => "fileToTitle"
  | .fileToPackage => "fileToPackage"
  | .packageToPath => "packageToPath"
  | .yesNoToBool => "yesNoToBool"

/-- Validator or converter. -/
def kind : Builtin → BuiltinKind
  | .isNotEmpty | .isPackage | .isYesNo => .validator
  | _ => .converter

/-- The built-in of a name. -/
def ofName? (name : String) : Option Builtin := all.find? (·.name == name)

/-! ### Yes and no -/

/-- Reads an answer to a yes/no question, in any letter case and with blanks around it. -/
def parseYesNo (value : String) : Option Bool :=
  let answer := Text.lowercase (Text.trim value)
  if answer = "yes" ∨ answer = "y" ∨ answer = "true" then some true
  else if answer = "no" ∨ answer = "n" ∨ answer = "false" then some false
  else none

/-! ### Package names -/

/-- Words that cannot be a package segment. -/
def reservedWords : List String :=
  ["as", "break", "class", "continue", "do", "else", "false", "for", "fun", "if", "in",
   "interface", "is", "null", "object", "package", "return", "super", "this", "throw",
   "true", "try", "typealias", "typeof", "val", "var", "when", "while"]

/-- A character that may begin a package segment. -/
def isSegmentStart (c : Char) : Bool := c.isAlpha || c == '_'

/-- A character that may continue a package segment. -/
def isSegmentPart (c : Char) : Bool := c.isAlphanum || c == '_'

/-- Whether a text has the form of a package segment. -/
def isSegment : List Char → Bool
  | [] => false
  | c :: rest => isSegmentStart c && rest.all isSegmentPart

/-- Why a package name is not acceptable. -/
inductive PackageFault where
  /-- The name is empty. -/
  | empty
  /-- A segment is empty. -/
  | emptySegment
  /-- A segment holds a character that is not allowed at its place. -/
  | badSegment (segment : String)
  /-- A segment is a reserved word. -/
  | reserved (segment : String)
  deriving DecidableEq, Repr

/-- What is wrong with one segment, if anything. -/
def segmentFault (segment : List Char) : Option PackageFault :=
  if segment = [] then some .emptySegment
  else if !isSegment segment then some (.badSegment (String.ofList segment))
  else if reservedWords.contains (String.ofList segment) then
    some (.reserved (String.ofList segment))
  else none

/-- The first thing that is wrong with a package name, if anything. -/
def packageFault (value : String) : Option PackageFault :=
  if value.toList = [] then some .empty
  else (Text.segments '.' value.toList).findSome? segmentFault

/-- The reason shown for a fault in the package name `value`. -/
def PackageFault.message (value : String) : PackageFault → String
  | .empty => "The package name must not be empty"
  | .emptySegment => "Package \"" ++ value ++ "\" contains an empty segment"
  | .badSegment segment =>
    "Package segment \"" ++ segment ++
      "\" must start with a letter or underscore and contain only letters, digits and underscores"
  | .reserved segment => "Package segment \"" ++ segment ++ "\" is a reserved word"

/-! ### The functions -/

/-- Rejects blank text. -/
def checkNotEmpty (value : String) : String :=
  if Text.trim value = "" then "The value must not be empty" else ""

/-- Rejects what is no package name. -/
def checkPackage (value : String) : String :=
  match packageFault value with
  | some fault => fault.message value
  | none => ""

/-- Rejects what is no answer to a yes/no question. -/
def checkYesNo (value : String) : String :=
  match parseYesNo value with
  | some _ => ""
  | none => "Please answer yes or no"

/-- A character that stays in a package segment. -/
def isPackageChar (c : Char) : Bool := c.isLower || c.isDigit || c == '_'

/-- The small letters, digits and underscores of the name in lower case; a leading digit
is put behind an underscore. -/
def toPackageSegment (value : String) : String :=
  let kept := (Text.lowercase value).toList.filter isPackageChar
  match kept with
  | c :: _ => if c.isDigit then String.ofList ('_' :: kept) else String.ofList kept
  | [] => ""

/-- Every dot becomes a slash. -/
def toPackagePath (value : String) : String :=
  String.ofList (value.toList.map fun c => if c = '.' then '/' else c)

/-- The truth value of an answer; what is no answer counts as no. -/
def toTruth (value : String) : String :=
  if (parseYesNo value).getD false then "true" else "false"

/-- Applies a built-in to a value. -/
def call : Builtin → String → String
  | .isNotEmpty => checkNotEmpty
  | .isPackage => checkPackage
  | .isYesNo => checkYesNo
  | .fileToTitle => Text.titleCase
  | .fileToPackage => toPackageSegment
  | .packageToPath => toPackagePath
  | .yesNoToBool => toTruth

end Builtin

end Scaffold
