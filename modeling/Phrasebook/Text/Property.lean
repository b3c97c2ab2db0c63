import Phrasebook.Text.Property.Age
import Phrasebook.Text.Property.Binary
import Phrasebook.Text.Property.Break
import Phrasebook.Text.Property.Script

set_option autoImplicit false

/-! # Properties of characters

Sets of characters by the names of their properties. A name alone is that of a binary property, a
general category or a script; a name with a value says which property is meant. -/

namespace Phrasebook.Text.Property

/-- What counts of a name: capitals, blanks, underscores and hyphens do not, nor does a leading
`is`, nor what is not ASCII. -/
def normalized (name : String) : String :=
  let cs := name.toList
  let isMarked := match cs with
    | i :: s :: _ => (i = 'i' || i = 'I') && (s = 's' || s = 'S')
    | _ => false
  let cs := if isMarked then cs.drop 2 else cs
  let cs := (cs.filter fun c => c.toNat < 0x80 && c ≠ ' ' && c ≠ '_' && c ≠ '-').map Char.toLower
  if isMarked && cs = ['c'] then "isc" else String.ofList cs

/-- The characters of a name that stands alone. -/
def ofName? (name : String) : Option RangeSet :=
  let name := normalized name
  (BinaryProperty.ofName? name).or ((Category.ofName? name).or (Script.ofName? name))

/-- The characters of a property that has a value. -/
def ofValue? (property value : String) : Option RangeSet :=
  let value := normalized value
  match normalized property with
  | "gc" | "generalcategory" => Category.ofName? value
  | "sc" | "script" => Script.ofName? value
  | "scx" | "scriptextensions" => Script.extended? value
  | "age" => Age.ofName? value
  | "gcb" | "graphemeclusterbreak" => Break.grapheme? value
  | "wb" | "wordbreak" => Break.word? value
  | "sb" | "sentencebreak" => Break.sentence? value
  | _ => none

end Phrasebook.Text.Property
