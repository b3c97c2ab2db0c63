set_option autoImplicit false

/-! # Settings of a compilation -/

namespace Phrasebook

/-- The integer type of the generated code. -/
inductive IntegerWidth where
  | signed
  | unsigned
  deriving DecidableEq

namespace IntegerWidth

def name : IntegerWidth → String
  | .signed => "i64"
  | .unsigned => "u64"

def isUnsigned : IntegerWidth → Bool
  | .signed => false
  | .unsigned => true

/-- Whether a number fits the type. -/
def contains (w : IntegerWidth) (n : Int) : Bool :=
  match w with
  | .signed => -0x8000000000000000 ≤ n && n < 0x8000000000000000
  | .unsigned => 0 ≤ n && n < 0x10000000000000000

def ofName? : String → Option IntegerWidth
  | "i64" => some .signed
  | "u64" => some .unsigned
  | _ => none

/-- What is said of a name that is no integer type. -/
def unsupported (name : String) : String :=
  s!"unsupported integer width '{name}'; expected i64 or u64"

end IntegerWidth

/-- What shapes the generated code: the module it is mounted as, its integer type, and the tool
named in the header of its files. -/
structure Settings where
  module : String := "l10n"
  integer : IntegerWidth := .signed
  generator : String := "cargo-l10n"
  deriving DecidableEq

namespace Settings

/-- The first line of every generated file. -/
def header (s : Settings) : String := s!"// Code generated by {s.generator}; DO NOT EDIT.\n"

end Settings

end Phrasebook
