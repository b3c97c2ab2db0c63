import Phrasebook.Number.Binary64

set_option autoImplicit false

/-! # Structured data

What a data file holds, whatever its format: scalars, lists, and tables with their entries in
order. -/

namespace Phrasebook.Data

/-- A piece of structured data. -/
inductive Datum where
  | null
  | boolean (b : Bool)
  | integer (n : Int)
  | float (x : Number.Binary64)
  | text (s : String)
  | list (items : List Datum)
  | table (entries : List (String × Datum))

namespace Datum

/-- What a datum is, with its article. -/
def kind : Datum → String
  | .null => "null"
  | .boolean _ => "a boolean"
  | .integer _ => "a number"
  | .float _ => "a number"
  | .text _ => "a string"
  | .list _ => "a list"
  | .table _ => "a map"

/-- The number is one of 64 bits, signed or unsigned. -/
def fits64 (n : Int) : Bool := -0x8000000000000000 ≤ n && n < 0x10000000000000000

end Datum

/-- Entries with the value of a key set: in the place the key has, or at the end. -/
def setEntry {α : Type} (key : String) (value : α) : List (String × α) → List (String × α)
  | [] => [(key, value)]
  | (k, v) :: rest => if k = key then (k, value) :: rest else (k, v) :: setEntry key value rest

/-- The formats of data files. -/
inductive Format where
  | yaml
  | json
  | toml
  deriving DecidableEq

namespace Format

/-- The format with a file extension. -/
def ofExtension? : String → Option Format
  | "yaml" => some .yaml
  | "yml" => some .yaml
  | "json" => some .json
  | "toml" => some .toml
  | _ => none

end Format

end Phrasebook.Data
