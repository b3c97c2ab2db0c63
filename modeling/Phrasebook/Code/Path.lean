import Phrasebook.Code.Fragment

set_option autoImplicit false

/-! # Paths and types of Rust code

A path is a list of names separated by `::`, each with type arguments if need be. Among type
arguments, lifetimes are written first. In an expression `::` stands before type arguments. -/

namespace Phrasebook.Code

open Fragment (word)

/-- An argument of a type, and whether a comma follows it. -/
structure TypeArgument where
  code : Fragment
  isLifetime : Bool
  comma : Bool

namespace TypeArgument

/-- Tokens of arguments, given whether a comma is owed before the next one. -/
def tokens : Bool → List TypeArgument → List Token
  | _, [] => []
  | owed, a :: as =>
      (if owed then [.mark ',' false] else []) ++ a.code.tokens ++
        (if a.comma then [.mark ',' false] else []) ++ tokens (!a.comma) as

/-- Arguments in their brackets. Empty brackets are not shown. -/
def list (as : List TypeArgument) : Fragment :=
  let ordered := as.filter (·.isLifetime) ++ as.filter (!·.isLifetime)
  { tokens := .mark '<' false :: tokens false ordered ++ [.mark '>' false]
    doc := if as.isEmpty then [] else Doc.bracketed "<" ">" (ordered.map (·.code.doc)) }

end TypeArgument

/-- What stands after a name in a path. -/
inductive Arguments where
  | none
  /-- Type arguments, after `::` if `separated`. -/
  | angled (separated : Bool) (items : List TypeArgument)
  /-- The types that a function takes, and the type it gives. -/
  | called (code : Fragment)

/-- A name of a path. -/
structure Segment where
  name : String
  arguments : Arguments

namespace Segment

def code (inExpression : Bool) (s : Segment) : Fragment :=
  word s.name ++ match s.arguments with
    | .none => .empty
    | .angled separated items =>
        let mark := if items.isEmpty || !inExpression then .empty else Fragment.shown "::"
        (if separated then .hidden "::" else .empty) ++ mark ++ TypeArgument.list items
    | .called code => code

def isBare (s : Segment) : Bool :=
  match s.arguments with
  | .none => true
  | _ => false

end Segment

/-- Names separated by `::`. -/
structure Path where
  leading : Bool
  segments : List Segment

namespace Path

def code (inExpression : Bool) (p : Path) : Fragment :=
  let names := (p.segments.map (Segment.code inExpression)).intersperse (word "::")
  (if p.leading then word "::" else .empty) ++ .join names

/-- No name has arguments. -/
def isPlain (p : Path) : Bool := p.segments.all (·.isBare)

/-- The only name of a path. -/
def single? (p : Path) : Option Segment :=
  match p.leading, p.segments with
  | false, [s] => some s
  | _, _ => none

end Path

/-- A path, or one that starts from a type: `<type as trait>::name`. -/
structure QualifiedPath where
  /-- The type. -/
  self : Option Fragment
  /-- How many names of the path belong to the trait. -/
  position : Nat
  path : Path

namespace QualifiedPath

def code (inExpression : Bool) (q : QualifiedPath) : Fragment :=
  match q.self with
  | none => q.path.code inExpression
  | some type =>
      let trait : Path := { q.path with segments := q.path.segments.take q.position }
      let rest := q.path.segments.drop q.position
      word "<" ++ type ++ (if q.position = 0 then .empty else word " as " ++ trait.code false) ++
        word ">" ++ .join (rest.map fun s => word "::" ++ s.code inExpression)

end QualifiedPath

/-- What a type has to satisfy: a trait or a lifetime. -/
structure Bound where
  code : Fragment
  isTrait : Bool

/-- Bounds joined by `+`; one may stand at the end. -/
structure Bounds where
  items : List Bound
  trailing : Bool

namespace Bounds

def code (bs : Bounds) : Fragment :=
  .join ((bs.items.map (·.code)).intersperse (word " + ")) ++
    (if bs.trailing then .hidden "+" else .empty)

/-- The bounds of a name among type arguments, which may be broken over lines. -/
def constraint (bs : Bounds) : Fragment :=
  let item (i : Nat) (b : Bound) : Fragment :=
    (if i = 0 then word ": " else .spacing Doc.blank ++ word "+ ") ++ b.code
  let colon := if bs.items.isEmpty then Fragment.hidden ":" else .empty
  colon ++ (Fragment.join (bs.items.mapIdx item)).filled Doc.indentStep ++
    (if bs.trailing then .hidden "+" else .empty)

end Bounds

/-- What is known of a type that was read. -/
inductive TypeShape where
  | path (p : Path)
  /-- One bound without the word `dyn`. -/
  | bound (b : Bound)
  | other

/-- A type that was read. -/
structure TypeCode where
  code : Fragment
  shape : TypeShape

end Phrasebook.Code
