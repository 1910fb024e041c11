import Scaffold.Decimal.Layout
import Scaffold.Document.Fault
import Scaffold.Text.Quoted

/-! # Formats and scalars

  The two formats of documents, and the values that have no parts. Reports name
  some of these values differently in the two formats.
-/

namespace Scaffold

/-! ### Formats -/

/-- The format of a document. -/
inductive Format where
  /-- JSON. -/
  | json
  /-- YAML. -/
  | yaml
  deriving DecidableEq, Repr

/-- The name of a format. -/
def Format.name : Format → String
  | .json => "JSON"
  | .yaml => "YAML"

/-- How deep lists and maps may nest. -/
def Format.depthLimit : Format → Nat
  | .json => 127
  | .yaml => 128

/-! ### Scalars -/

/-- A value without parts. -/
inductive Scalar where
  /-- No value. -/
  | null
  /-- A truth value. -/
  | bool (b : Bool)
  /-- A whole number that fits into a word, with or without a sign. -/
  | int (i : Int)
  /-- A whole number that fits into a double word only. -/
  | wide (i : Int)
  /-- A floating-point number. -/
  | float (f : Float)
  /-- A text. -/
  | text (s : String)

/-- A floating-point number in a report. -/
def Format.writeFloat : Format → Float → String
  | .json => Decimal.json.write
  | .yaml => Decimal.rendered.write

/-- How reports name a scalar. -/
def Scalar.describe (format : Format) : Scalar → String
  | .null => match format with
    | .json => "null"
    | .yaml => "unit value"
  | .bool b => "boolean " ++ backquoted (if b then "true" else "false")
  | .int i => "integer " ++ backquoted (toString i)
  | .wide i => "integer " ++ backquoted (toString i) ++ (if i < 0 then " as i128" else " as u128")
  | .float f => "floating point " ++ backquoted (format.writeFloat f)
  | .text s => "string " ++ Text.quoted s

end Scaffold
