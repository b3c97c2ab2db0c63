set_option autoImplicit false

/-! # Messages

A localization holds the messages of one language. A message has typed arguments, a template and
variables: templates of its own that its template, or other variables, insert by name. A template
is one body, or a plural: one body for each of up to four cases of an integer argument. -/

namespace Phrasebook

/-- The type of an argument. `custom` names a type of the program the localizers are generated
for. -/
inductive ArgType where
  | text
  | integer
  | float
  | display
  | custom (path : String)
  deriving DecidableEq

namespace ArgType

/-- The type as written in diagnostics and signatures. -/
def name : ArgType → String
  | .text => "text"
  | .integer => "integer"
  | .float => "float"
  | .display => "display"
  | .custom path => s!"custom({path})"

end ArgType

/-- A declared argument. -/
structure Argument where
  name : String
  type : ArgType
  deriving DecidableEq

/-- One element of a body: literal text, the value of an argument, or a variable. -/
inductive Part where
  | literal (text : String)
  | argument (name : String) (directive : Option String)
  | var (name : String)
  deriving DecidableEq

/-- Parts in the order in which they are written out. -/
abbrev Body := List Part

namespace Part

/-- The argument a part refers to. -/
def argument? : Part → Option String
  | .argument name _ => some name
  | _ => none

/-- The variable a part refers to. -/
def var? : Part → Option String
  | .var name => some name
  | _ => none

/-- The text of a literal part. -/
def literal? : Part → Option String
  | .literal text => some text
  | _ => none

def isLiteral (p : Part) : Bool := p.literal?.isSome

end Part

namespace Body

/-- Every part is literal text. -/
def isConstant (b : Body) : Bool := b.all Part.isLiteral

/-- The concatenation of the literals of a body. -/
def literalText (b : Body) : String := String.join (b.filterMap Part.literal?)

/-- The text of a body that is literal throughout. -/
def constantText? (b : Body) : Option String :=
  if isConstant b then some (literalText b) else none

/-- Names of the arguments used, in order, with repeats. -/
def argumentRefs (b : Body) : List String := b.filterMap Part.argument?

/-- Names of the variables used, in order, with repeats. -/
def varRefs (b : Body) : List String := b.filterMap Part.var?

end Body

/-- The cases of a plural, in the order in which they are tried. -/
inductive Category where
  | zero
  | one
  | many
  | other
  deriving DecidableEq

namespace Category

def all : List Category := [.zero, .one, .many, .other]

def name : Category → String
  | .zero => "zero"
  | .one => "one"
  | .many => "many"
  | .other => "other"

end Category

/-- Bodies chosen by the value of an integer argument: 0, 1, more than 1, anything. -/
structure Plural where
  argument : String
  zero : Option Body := none
  one : Option Body := none
  many : Option Body := none
  other : Option Body := none
  deriving DecidableEq

namespace Plural

def branch? (p : Plural) : Category → Option Body
  | .zero => p.zero
  | .one => p.one
  | .many => p.many
  | .other => p.other

/-- The branches that are present, in the order in which they are tried. -/
def branches (p : Plural) : List (Category × Body) :=
  Category.all.filterMap fun c => (p.branch? c).map fun b => (c, b)

def isEmpty (p : Plural) : Bool := p.branches.isEmpty

def isConstant (p : Plural) : Bool := p.branches.all fun (_, b) => b.isConstant

/-- The branches for 0, 1 and more are all there, so that without negative numbers every value
has one. -/
def coversNaturals (p : Plural) : Bool := p.zero.isSome && p.one.isSome && p.many.isSome

end Plural

/-- What a message or a variable is written from. -/
inductive Template where
  | unset
  | plain (body : Body)
  | plural (plural : Plural)
  deriving DecidableEq

namespace Template

/-- All text is literal; a template that is not set has none. -/
def isConstant : Template → Bool
  | .unset => false
  | .plain b => b.isConstant
  | .plural p => p.isConstant

/-- All bodies, in the order in which they are tried. -/
def bodies : Template → List Body
  | .unset => []
  | .plain b => [b]
  | .plural p => p.branches.map (·.2)

/-- The argument a plural is driven by. -/
def driver? : Template → Option String
  | .plural p => some p.argument
  | _ => none

/-- Names of the arguments used, the driver first, with repeats. -/
def argumentRefs (t : Template) : List String :=
  t.driver?.toList ++ t.bodies.flatMap Body.argumentRefs

/-- Names of the variables used, with repeats. -/
def varRefs (t : Template) : List String := t.bodies.flatMap Body.varRefs

end Template

/-- A template that a message inserts by name, with the arguments it receives. -/
structure Variable where
  name : String
  arguments : List String := []
  template : Template := .unset
  deriving DecidableEq

/-- A message: arguments in the order of its signature, a template, and variables. -/
structure Message where
  name : String
  arguments : List Argument := []
  template : Template := .unset
  vars : List Variable := []
  deriving DecidableEq

namespace Message

/-- The first argument of that name. -/
def argumentNamed? (m : Message) (name : String) : Option Argument :=
  m.arguments.find? (·.name == name)

/-- The first variable of that name. -/
def variableNamed? (m : Message) (name : String) : Option Variable :=
  m.vars.find? (·.name == name)

end Message

/-- The messages of one language, in the order of their declaration. -/
structure Localization where
  language : String
  messages : List Message := []
  deriving DecidableEq

namespace Localization

/-- The first message of that name. -/
def messageNamed? (l : Localization) (name : String) : Option Message :=
  l.messages.find? (·.name == name)

end Localization

end Phrasebook
