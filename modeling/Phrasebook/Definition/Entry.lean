import Phrasebook.Data.Datum

set_option autoImplicit false

/-! # Entries of a definition file

An entry defines a message or a variable: a template text, or a table with the arguments, the text
or the plural with its branches, and the variables. A table may also be given as the list of its
values, from which the last ones may be missing. -/

namespace Phrasebook.Definition

open Data

/-- The structured form of an entry. Variables are read when the message is built. -/
structure Table where
  args : List String := []
  text : Option String := none
  plural : Option String := none
  zero : Option String := none
  one : Option String := none
  many : Option String := none
  other : Option String := none
  vars : List (String × Datum) := []

namespace Table

/-- The plural branches in the order in which they are tried. -/
def branches (t : Table) : List (Option String) := [t.zero, t.one, t.many, t.other]

def hasBranches (t : Table) : Bool := t.branches.any Option.isSome

/-- The names of the values, in the order of the list form. -/
def keys : List String := ["args", "text", "plural", "zero", "one", "many", "other", "vars"]

end Table

/-- The definition of a message or a variable. -/
inductive Entry where
  | text (template : String)
  | table (table : Table)

/-! ## Reading data as entries -/

/-- A text, or nothing. -/
def optionalText? : Datum → Option (Option String)
  | .text s => some (some s)
  | .null => some none
  | _ => none

def text? : Datum → Option String
  | .text s => some s
  | _ => none

/-- A list of texts. -/
def texts? : Datum → Option (List String)
  | .list items => items.mapM text?
  | _ => none

/-- The entries of a table. -/
def members? : Datum → Option (List (String × Datum))
  | .table entries => some entries
  | _ => none

namespace Table

/-- Sets a value by its name. -/
def set? (t : Table) (key : String) (d : Datum) : Option Table :=
  match key with
  | "args" => (texts? d).map fun v => { t with args := v }
  | "text" => (optionalText? d).map fun v => { t with text := v }
  | "plural" => (optionalText? d).map fun v => { t with plural := v }
  | "zero" => (optionalText? d).map fun v => { t with zero := v }
  | "one" => (optionalText? d).map fun v => { t with one := v }
  | "many" => (optionalText? d).map fun v => { t with many := v }
  | "other" => (optionalText? d).map fun v => { t with other := v }
  | "vars" => (members? d).map fun v => { t with vars := v }
  | _ => none

/-- The table with the given values; names it does not know are refused. -/
def ofMembers? (members : List (String × Datum)) : Option Table :=
  members.foldlM (fun t (k, d) => t.set? k d) {}

end Table

namespace Entry

/-- Reads an entry. -/
def ofDatum? : Datum → Option Entry
  | .text s => some (.text s)
  | .table members => (Table.ofMembers? members).map .table
  | .list items =>
      if items.length ≤ Table.keys.length then
        (Table.ofMembers? (Table.keys.zip items)).map .table
      else none
  | _ => none

/-- Reads named entries; of those of the wrong shape the first is named. -/
def readAll (members : List (String × Datum)) : Except String (List (String × Entry)) :=
  members.mapM fun (name, d) =>
    match ofDatum? d with
    | some e => .ok (name, e)
    | none => .error name

end Entry

end Phrasebook.Definition
