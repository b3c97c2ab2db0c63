import Phrasebook.Data.Base64
import Phrasebook.Data.Datum
import Phrasebook.Data.Yaml.Node
import Phrasebook.Number.Reading
import Phrasebook.Text.Blank

set_option autoImplicit false

/-! # YAML

Reads YAML text. A plain scalar is a null, a boolean, a number or else a text; any other scalar is
a text. A tag may say otherwise. The keys of a table are scalars, and no key is repeated. The
entries of the tables given to the key `<<` are added to a table, unless it has their keys
already. -/

namespace Phrasebook.Data.Yaml

open Number

/-! ## Plain scalars -/

def lowercase (s : String) : String := s.map Char.toLower

def isNull (s : String) : Bool := s = "" || s = "~" || lowercase s = "null"

/-- Digits of a base, among which underscores mean nothing. -/
def spacedValue? (base : Nat) (cs : List Char) : Option Nat :=
  let ds := cs.filter (· ≠ '_')
  if ds.isEmpty then none else valueIn? base ds

/-- The size of an integer: hexadecimal, octal, binary or decimal. -/
def magnitude? : List Char → Option Nat
  | '0' :: 'x' :: cs => spacedValue? 16 cs
  | '0' :: 'X' :: cs => spacedValue? 16 cs
  | '0' :: 'o' :: cs => spacedValue? 8 cs
  | '0' :: 'O' :: cs => spacedValue? 8 cs
  | '0' :: 'b' :: cs => spacedValue? 2 cs
  | '0' :: 'B' :: cs => spacedValue? 2 cs
  | cs => spacedValue? 10 cs

/-- An integer of 64 bits. -/
def integer? (cs : List Char) : Option Int := do
  let (negative, cs) := readSign cs
  let n ← magnitude? cs
  let n : Int := if negative then -(n : Int) else n
  if Datum.fits64 n then some n else none

/-- A double. A point in front of `inf` and `nan` is allowed. -/
def float? (cs : List Char) : Option Binary64 :=
  let (negative, magnitude) := readSign cs
  match lowercase (String.ofList magnitude) with
  | ".inf" => some (.infinite negative)
  | ".nan" => some .nan
  | _ => readBinary64? cs

/-- A double as data: one that is not finite is a text. -/
def floatDatum : Binary64 → Datum
  | .finite negative m e => .float (.finite negative m e)
  | .infinite negative => .text (if negative then "-.inf" else ".inf")
  | .nan => .text ".nan"

/-- What a plain scalar stands for. Blanks of any script around a word or a number mean nothing. -/
def plainDatum (s : String) : Datum :=
  let word := Text.trimmed s
  if isNull s then .null
  else if lowercase word = "true" then .boolean true
  else if lowercase word = "false" then .boolean false
  else match integer? word.toList with
    | some n => .integer n
    | none =>
        match float? word.toList with
        | some x => floatDatum x
        | none => .text s

/-! ## Tags -/

/-- The text of a scalar, if its tag lets it be one. -/
def textOf? (s : String) : Option Tag → Option String
  | some .null | some .integer | some .float | some .boolean => none
  | some .list | some .table | some .angle => none
  | some .binary => Base64.text? s
  | some .text | some .unspecific | some .other | none => some s

/-- What a scalar stands for. -/
def scalarDatum? (style : Style) (tag : Option Tag) (s : String) : Option Datum :=
  match tag with
  | some .null => some .null
  | some .text | some .other | none =>
      some (if style = .plain then plainDatum s else .text s)
  | _ => (textOf? s tag).map .text

/-! ## Tables -/

/-- An entry of a table, by its key as it is written. What it stands for is missing if the key or
the value stands for nothing. -/
structure Entry where
  written : Option (String × Option Tag)
  content : Option (String × Datum)

/-- The key as it is written. -/
def written? : Node → Option (String × Option Tag)
  | .scalar _ tag s => some (s, tag)
  | _ => none

/-- The key that a node is. A null is no key, unless its tag says that it is a text. -/
def key? : Node → Option String
  | .scalar style tag s =>
      if style = .plain && isNull s && tag ≠ some .text then none else textOf? s tag
  | _ => none

/-- The node is the key whose value is merged into the table. -/
def isMergeKey : Node → Bool
  | .scalar .plain none "<<" => true
  | _ => false

/-- Entries with one more; it takes the place of one of the same key. -/
def setEntry (k : String) (v : Datum) : List (String × Datum) → List (String × Datum)
  | [] => [(k, v)]
  | (k', v') :: es => if k' = k then (k, v) :: es else (k', v') :: setEntry k v es

/-- A table of its own entries, no key of which is repeated, and of those merged entries that bring
a new key. -/
def tableOf? (own merged : List Entry) : Option Datum := do
  let add (t : List (Option (String × Option Tag)) × List (String × Datum)) (e : Entry) := do
    let (k, v) ← e.content
    return (e.written :: t.1, setEntry k v t.2)
  let t ← own.foldlM (fun t e => if e.written ∈ t.1 then none else add t e) ([], [])
  let t ← merged.foldlM (fun t e => if e.written ∈ t.1 then some t else add t e) t
  return .table t.2

mutual

/-- The data that a node stands for. -/
def datum? : Node → Option Datum
  | .scalar style tag s => scalarDatum? style tag s
  | .list items => (items? items).map .list
  | .table entries => do
      let (own, merged) ← entries? entries
      tableOf? own merged

def items? : List Node → Option (List Datum)
  | [] => some []
  | n :: ns => do return (← datum? n) :: (← items? ns)

/-- The entries of a table, and those that are merged into it. What is merged last comes first. -/
def entries? : List (Node × Node) → Option (List Entry × List Entry)
  | [] => some ([], [])
  | (k, v) :: rest => do
      if isMergeKey k then
        let more ← merged? v
        let (own, merged) ← entries? rest
        return (own, merged ++ more)
      else
        let content := do return (← key? k, ← datum? v)
        let (own, merged) ← entries? rest
        return (⟨written? k, content⟩ :: own, merged)

/-- The entries that a node gives to a table into which it is merged. -/
def merged? : Node → Option (List Entry)
  | .scalar style _ s => if style = .plain && isNull s then some [] else none
  | .list items => mergedAll? items
  | .table entries => (entries? entries).map fun (own, merged) => own ++ merged

def mergedAll? : List Node → Option (List Entry)
  | [] => some []
  | n :: ns => do
      let first ← merged? n
      return (← mergedAll? ns) ++ first

end

/-- Reads a text. -/
def read? (text : String) : Option Datum := do
  let (ts, complete) := tokens text
  datum? (← document? ts complete)

end Phrasebook.Data.Yaml
