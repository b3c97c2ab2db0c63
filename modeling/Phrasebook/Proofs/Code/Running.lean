import Mathlib.Data.List.Forall2
import Phrasebook.Code.Syntax
import Phrasebook.Plan.Evaluation

set_option autoImplicit false

/-! # What generated code does

A meaning for the forms of generated code, on their own and without plans. A method creates a
buffer, runs its statements and gives the buffer back, unless a statement leaves it with a text. A
function of a variable is given the buffer of its caller and appends to it. Parameters are bound by
position and known by their names in the code; the name of the buffer hides a parameter of the same
name.

Code that a compiler would refuse does nothing here: a function with two parameters of one name, an
argument of the wrong type, a buffer that is not the one statements write to, a text given back by a
function of a variable. What code does is determined (`Runs.unique`,
`LocalizerCode.Returns.unique`). -/

namespace Phrasebook.Code

open Format (Value)

/-! ## Values -/

/-- The directive that a form stands for. -/
def Form.directive : Form → Format.Spec
  | .plain => {}
  | .places count => { precision := some count }
  | .spec s => s

/-- A value shown in a form. -/
def Form.shown? (f : Form) (v : Value) : Option String := (f.directive.apply v).map String.ofList

/-- Whether a parameter of a type can be given a value. -/
def ParameterType.takes : ParameterType → Value → Bool
  | .text, .text _ => true
  | .integer width, .integer n => width.contains n
  | .float, .float _ => true
  | .display, _ => true
  | .custom _, _ => true
  | _, _ => false

/-! ## Statements -/

/-- Where statements run: the buffer is of the function itself or its caller's and has a name, and
parameters have values. -/
structure Frame where
  own : Bool
  buffer : String
  store : Values

namespace Frame

/-- The value of a parameter. -/
def value? (fr : Frame) (name : String) : Option Value :=
  if name = fr.buffer then none else fr.store.lookup name

/-- The statements of a procedure that are run: of a choice those of the first arm that takes the
number. -/
def chosen? (fr : Frame) : Procedure → Option (List Statement)
  | .statements ss => some ss
  | .choice driver arms =>
      match fr.value? driver with
      | some (.integer n) => (arms.find? fun arm => arm.1.accepts n).map (·.2)
      | _ => none

end Frame

/-- Values bound to parameters by position. -/
def bound (params : List Parameter) (vs : List Value) : Values :=
  (params.map (·.name)).zip vs

namespace AuxiliaryCode

/-- A function can be called with values. -/
def Takes (a : AuxiliaryCode) (vs : List Value) : Prop :=
  (a.buffer :: a.params.map (·.name)).Nodup ∧
    List.Forall₂ (fun q v => q.type.takes v) a.params vs

def frame (a : AuxiliaryCode) (vs : List Value) : Frame := ⟨false, a.buffer, bound a.params vs⟩

end AuxiliaryCode

/-- What statements do, next to the functions of `auxiliaries`. -/
inductive Runs (auxiliaries : List AuxiliaryCode) : Frame → List Statement → Outcome → Prop
  | nil {fr} : Runs auxiliaries fr [] ⟨"", none⟩
  | push {fr text ss o} (hbuffer : fr.buffer = bufferName) (hss : Runs auxiliaries fr ss o) :
      Runs auxiliaries fr (.push text :: ss) (o.after text)
  | pushParameter {fr x text ss o} (hbuffer : fr.buffer = bufferName)
      (hx : fr.value? x = some (.text text)) (hss : Runs auxiliaries fr ss o) :
      Runs auxiliaries fr (.pushParameter x :: ss) (o.after text)
  | pushNumber {fr x n ss o} (hbuffer : fr.buffer = bufferName)
      (hx : fr.value? x = some (.integer n)) (hss : Runs auxiliaries fr ss o) :
      Runs auxiliaries fr (.pushNumber x :: ss) (o.after (String.ofList (Number.decimalInt n)))
  | write {fr x form v text ss o} (hbuffer : fr.buffer = bufferName) (hx : fr.value? x = some v)
      (htext : form.shown? v = some text) (hss : Runs auxiliaries fr ss o) :
      Runs auxiliaries fr (.write x form :: ss) (o.after text)
  | call {fr function xs a vs body o' ss o} (hbuffer : fr.buffer = bufferName)
      (ha : auxiliaries.find? (·.name == function) = some a)
      (hvs : List.Forall₂ (fun x v => fr.value? x = some v) xs vs) (htakes : a.Takes vs)
      (hbody : (a.frame vs).chosen? a.body = some body)
      (hrun : Runs auxiliaries (a.frame vs) body o') (hss : Runs auxiliaries fr ss o) :
      Runs auxiliaries fr (.call function fr.own xs :: ss) (o.after o'.written)
  | giveBack {fr text ss} (hown : fr.own = true) :
      Runs auxiliaries fr (.giveBack text :: ss) ⟨"", some text⟩

theorem Runs.unique {auxiliaries : List AuxiliaryCode} {fr : Frame} {ss : List Statement}
    {o p : Outcome} (ho : Runs auxiliaries fr ss o) (hp : Runs auxiliaries fr ss p) : o = p := by
  induction ho generalizing p with
  | nil =>
      cases hp
      rfl
  | push _ _ ih =>
      cases hp with
      | push _ hss => rw [ih hss]
  | pushParameter _ hx _ ih =>
      cases hp with
      | pushParameter _ hx' hss =>
          rw [hx] at hx'
          cases hx'
          rw [ih hss]
  | pushNumber _ hx _ ih =>
      cases hp with
      | pushNumber _ hx' hss =>
          rw [hx] at hx'
          cases hx'
          rw [ih hss]
  | write _ hx htext _ ih =>
      cases hp with
      | write _ hx' htext' hss =>
          rw [hx] at hx'
          cases hx'
          rw [htext] at htext'
          cases htext'
          rw [ih hss]
  | call _ ha hvs _ hbody _ _ ihbody ih =>
      cases hp with
      | call _ ha' hvs' _ hbody' hrun' hss =>
          rw [ha] at ha'
          cases ha'
          have hsame := List.right_unique_forall₂' (fun _ _ _ h h' => by
            rw [h] at h'
            exact Option.some.inj h') hvs hvs'
          subst hsame
          rw [hbody] at hbody'
          cases hbody'
          rw [ihbody hrun', ih hss]
  | giveBack _ =>
      cases hp
      rfl

/-- A function of a variable gives no text back. -/
theorem Runs.returned_eq_none {auxiliaries : List AuxiliaryCode} {fr : Frame}
    {ss : List Statement} {o : Outcome} (h : Runs auxiliaries fr ss o) (hown : fr.own = false) :
    o.returned = none := by
  induction h with
  | nil => rfl
  | push _ _ ih => exact ih hown
  | pushParameter _ _ _ ih => exact ih hown
  | pushNumber _ _ _ ih => exact ih hown
  | write _ _ _ _ ih => exact ih hown
  | call _ _ _ _ _ _ _ _ ih => exact ih hown
  | giveBack hown' =>
      rw [hown] at hown'
      cases hown'

/-! ## Methods -/

namespace MethodCode

def frame (m : MethodCode) (vs : List Value) : Frame := ⟨true, bufferName, bound m.params vs⟩

/-- The text that the body of a method gives. A body that is all texts has no buffer. -/
def BodyReturns (auxiliaries : List AuxiliaryCode) (fr : Frame) : MethodBody → String → Prop
  | .text t, text => text = t
  | .texts driver arms, text =>
      ∃ n arm, fr.store.lookup driver = some (.integer n) ∧
        arms.find? (fun arm => arm.1.accepts n) = some arm ∧ text = arm.2.getD ""
  | .buffered p, text =>
      ∃ ss o, fr.chosen? p = some ss ∧ Runs auxiliaries fr ss o ∧ text = o.messageText

/-- What a method gives for values of its parameters. -/
def Returns (m : MethodCode) (auxiliaries : List AuxiliaryCode) (vs : List Value)
    (text : String) : Prop :=
  (m.params.map (·.name)).Nodup ∧ List.Forall₂ (fun q v => q.type.takes v) m.params vs ∧
    BodyReturns auxiliaries (m.frame vs) m.body text

theorem BodyReturns.unique {auxiliaries : List AuxiliaryCode} {fr : Frame} {b : MethodBody}
    {s t : String} (hs : BodyReturns auxiliaries fr b s) (ht : BodyReturns auxiliaries fr b t) :
    s = t := by
  cases b with
  | text _ => exact hs.trans ht.symm
  | texts driver arms =>
      obtain ⟨n, arm, hdriver, harm, rfl⟩ := hs
      obtain ⟨n', arm', hdriver', harm', rfl⟩ := ht
      rw [hdriver] at hdriver'
      cases hdriver'
      rw [harm] at harm'
      cases harm'
      rfl
  | buffered p =>
      obtain ⟨ss, o, hss, ho, rfl⟩ := hs
      obtain ⟨ss', o', hss', ho', rfl⟩ := ht
      rw [hss] at hss'
      cases hss'
      rw [ho.unique ho']

theorem Returns.unique {m : MethodCode} {auxiliaries : List AuxiliaryCode} {vs : List Value}
    {s t : String} (hs : m.Returns auxiliaries vs s) (ht : m.Returns auxiliaries vs t) : s = t :=
  hs.2.2.unique ht.2.2

end MethodCode

/-- What the code of a language gives when one of its methods is called. -/
def LocalizerCode.Returns (code : LocalizerCode) (name : String) (vs : List Value)
    (text : String) : Prop :=
  ∃ m, code.methods.find? (·.name == name) = some m ∧ m.Returns code.auxiliaries vs text

theorem LocalizerCode.Returns.unique {code : LocalizerCode} {name : String} {vs : List Value}
    {s t : String} (hs : code.Returns name vs s) (ht : code.Returns name vs t) : s = t := by
  obtain ⟨m, hm, hs⟩ := hs
  obtain ⟨m', hm', ht⟩ := ht
  rw [hm] at hm'
  cases hm'
  exact hs.unique ht

/-! ## Forms and renderings -/

theorem pad_of_no_width {s : Format.Spec} (h : s.width = none) (side : Format.Align)
    (body : List Char) : s.pad side body = some body := by
  unfold Format.Spec.pad
  rw [h]
  cases s.align.getD side <;> simp [Format.Spec.sides, Format.Spec.hasRoom]

theorem decimalInt_eq (n : Int) :
    Number.decimalInt n = (if n < 0 then ['-'] else []) ++ Number.decimal n.natAbs := by
  cases n with
  | ofNat n =>
      have hsign : ¬ Int.ofNat n < 0 := by simp
      rw [if_neg hsign]
      rfl
  | negSucc n =>
      have hsign : Int.negSucc n < 0 := Int.negSucc_lt_zero n
      rw [if_pos hsign]
      rfl

/-- Without a directive a value is shown plainly. -/
theorem shown_plain (v : Value) : Form.plain.shown? v = some v.plainText := by
  unfold Form.shown?
  cases v with
  | text t | display t =>
      simp [Form.directive, Format.Spec.apply, Format.Spec.cut, pad_of_no_width,
        Value.plainText]
  | integer n =>
      simp [Form.directive, Format.Spec.apply, Format.Spec.integerParts, Format.Spec.padNumber,
        Format.Spec.radixMark, Format.Spec.plusSign, pad_of_no_width, Value.plainText,
        decimalInt_eq]
  | float x =>
      by_cases hnan : x = .nan
      · subst hnan
        rfl
      · simp [Form.directive, Format.Spec.apply, Format.Spec.floatParts, Format.Spec.floatDigits,
          hnan, Format.Spec.padNumber, Format.Spec.plusSign, pad_of_no_width, Value.plainText,
          Format.minusOf]

/-- A number of decimal places gives the same as a rendering with that number. -/
theorem shown_places {count : Nat} {x : Number.Binary64} {text : String}
    (h : (Format.Rendering.fixedFloat count).render? (.float x) = some text) :
    (Form.places count).shown? (.float x) = some text := by
  obtain ⟨digits, hdigits, rfl⟩ := Option.map_eq_some_iff.1 h
  unfold Form.shown?
  by_cases hnan : x = .nan
  · -- What is no number is shown whatever the count is.
    subst hnan
    rw [Format.fixedFloat] at hdigits
    split at hdigits
    · cases hdigits
    · cases hdigits
      rfl
  · simp [Form.directive, Format.Spec.apply, Format.Spec.floatParts, Format.Spec.floatDigits, hnan,
      hdigits, Format.Spec.padNumber, Format.Spec.plusSign, pad_of_no_width, Format.minusOf]

end Phrasebook.Code
