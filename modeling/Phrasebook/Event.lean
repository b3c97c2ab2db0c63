import Phrasebook.Plan.Basic
import Phrasebook.Number.Numeral

set_option autoImplicit false

/-! # Events

What is written to the log: a level, the part of the program that speaks, a text, and named
fields. -/

namespace Phrasebook

/-- Something worth a line in the log. -/
inductive Event where
  | capabilityRegistered (capability : Capability)
  | pluralLowered (driver : String) (branches : Nat) (covered : Bool)
  | variableUnreferenced (language message var : String)
  | messageLowered (language message : String) (shape : Shape) (auxiliaries : Nat)
  | localizationLowered (language : String) (messages auxiliaries capabilities : Nat)
  | localizationsUnified (reference : String) (methods languages : Nat)
  | localizationCompiled (language : String) (messages auxiliaries dependencies : Nat)
  | fileRendered (file : String) (bytes : Nat)
  | localizationBuilt (language : String) (messages documents : Nat)
  | configurationResolved (path module : String)
  | fileSkipped (file pattern : String)
  | languageDiscovered (language : String) (files : Nat)
  | previewRendered (language message : String) (args : Nat)
  | fileWritten (path : String) (bytes : Nat)
  deriving DecidableEq

namespace Event

def level : Event → String
  | .variableUnreferenced _ _ _ => "WARN"
  | .localizationCompiled _ _ _ _ => "INFO"
  | .fileWritten _ _ => "INFO"
  | _ => "DEBUG"

/-- The part of the program that speaks. -/
def target : Event → String
  | .capabilityRegistered _ => "l10n_codegen::deps"
  | .pluralLowered _ _ _ => "l10n_codegen::lower::plural"
  | .variableUnreferenced _ _ _ => "l10n_codegen::lower"
  | .messageLowered _ _ _ _ => "l10n_codegen::lower"
  | .localizationLowered _ _ _ _ => "l10n_codegen::lower"
  | .localizationsUnified _ _ _ => "l10n_codegen::unify"
  | .localizationCompiled _ _ _ _ => "l10n_codegen::pipeline"
  | .fileRendered _ _ => "l10n_codegen::emit::rust"
  | .localizationBuilt _ _ _ => "cargo_l10n::source"
  | .configurationResolved _ _ => "cargo_l10n::config"
  | .fileSkipped _ _ => "cargo_l10n::discover"
  | .languageDiscovered _ _ => "cargo_l10n::discover"
  | .previewRendered _ _ _ => "cargo_l10n::preview"
  | .fileWritten _ _ => "cargo_l10n::output"

def text : Event → String
  | .capabilityRegistered _ => "registered capability"
  | .pluralLowered _ _ _ => "lowered plural"
  | .variableUnreferenced _ _ _ => "variable is never referenced"
  | .messageLowered _ _ _ _ => "lowered message"
  | .localizationLowered _ _ _ _ => "lowered localization"
  | .localizationsUnified _ _ _ => "unified localizations"
  | .localizationCompiled _ _ _ _ => "compiled localization"
  | .fileRendered _ _ => "rendered localization unit"
  | .localizationBuilt _ _ _ => "built localization"
  | .configurationResolved _ _ => "resolved configuration"
  | .fileSkipped _ _ => "skipping non-definition file"
  | .languageDiscovered _ _ => "discovered language"
  | .previewRendered _ _ _ => "rendering preview"
  | .fileWritten _ _ => "wrote generated file"

/-- A number as a field. -/
def count (n : Nat) : String := String.ofList (Number.decimal n)

/-- The fields in the order in which they are written. -/
def fields : Event → List (String × String)
  | .capabilityRegistered c => [("capability", c.name)]
  | .pluralLowered driver branches covered =>
      [("driver", driver), ("branches", count branches),
        ("explicit_cover", if covered then "true" else "false")]
  | .variableUnreferenced language message var =>
      [("language", language), ("message", message), ("variable", var)]
  | .messageLowered language message shape auxiliaries =>
      [("language", language), ("message", message), ("shape", shape.name),
        ("auxiliaries", count auxiliaries)]
  | .localizationLowered language messages auxiliaries capabilities =>
      [("language", language), ("messages", count messages), ("auxiliaries", count auxiliaries),
        ("capabilities", count capabilities)]
  | .localizationsUnified reference methods languages =>
      [("reference", reference), ("methods", count methods), ("languages", count languages)]
  | .localizationCompiled language messages auxiliaries dependencies =>
      [("language", language), ("messages", count messages), ("auxiliaries", count auxiliaries),
        ("dependencies", count dependencies)]
  | .fileRendered file bytes => [("file", file), ("bytes", count bytes)]
  | .localizationBuilt language messages documents =>
      [("language", language), ("messages", count messages), ("documents", count documents)]
  | .configurationResolved path module => [("path", path), ("module", module)]
  | .fileSkipped file pattern => [("file", file), ("pattern", pattern)]
  | .languageDiscovered language files => [("language", language), ("files", count files)]
  | .previewRendered language message args =>
      [("language", language), ("message", message), ("args", count args)]
  | .fileWritten path bytes => [("path", path), ("bytes", count bytes)]

/-- The line of the log. -/
def line (e : Event) : String :=
  String.intercalate " "
    (e.level :: e.target :: (("message", e.text) :: e.fields).map fun (k, v) => k ++ "=" ++ v)

end Event

end Phrasebook
