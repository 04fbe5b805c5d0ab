import Tween.Diagnostic
import Tween.Identifier

/-!
# The configuration of the pass

What the pass requires of a host, what it recognises, and how it names what it generates. The
standard configuration is that of `#[animatable]` without arguments.
-/

namespace Tween

open Code

/-- The settings of one run of the pass. -/
structure Config where
  /-- The trait a host has to derive. -/
  requiredTrait : String := "Shape"
  /-- The name of the attribute, on the host and on its fields. -/
  attributeName : String := "animatable"
  /-- The word that excludes a field, as in `#[animatable(ignore)]`. -/
  ignoreWord : String := "ignore"
  /-- The compact texts of the types a field may have. -/
  supportedTypes : List String := ["f32", "f64"]
  /-- The name of the method that reads the data of a host; `set_` before it gives the other one. -/
  accessorName : String := "animatable_data"
  /-- What follows the host's name in the name of the companion vector. -/
  companionSuffix : String := "AnimatableData"
  /-- The path to the traits that generated code implements. -/
  runtimePath : TokenStream := segments ["animatable"]

namespace Config

/-- The configuration of an attribute without arguments. -/
def standard : Config := {}

/-- The compact text of a type is one of the supported ones. -/
def supports (config : Config) (typeText : String) : Bool :=
  config.supportedTypes.contains typeText

theorem supports_iff {config : Config} {typeText : String} :
    config.supports typeText = true ↔ typeText ∈ config.supportedTypes := by
  simp [supports]

/-- The attribute as an author writes it on a host. -/
def attributeText (config : Config) : String :=
  s!"#[{config.attributeName}]"

/-- The attribute as an author writes it on a field to ignore. -/
def markerText (config : Config) : String :=
  s!"#[{config.attributeName}({config.ignoreWord})]"

/-- The method that reads the data of a host. -/
def getter (config : Config) : Except InvalidName Ident :=
  Ident.ofText config.accessorName .callSite

/-- The method that writes the data of a host. -/
def setter (config : Config) : Except InvalidName Ident :=
  Ident.ofText s!"set_{config.accessorName}" .callSite

/-- The companion vector of a host: the host's bare name with the suffix, at the same place. -/
def vectorName (config : Config) (host : Ident) : Except InvalidName Ident :=
  Ident.ofText s!"{host.bareText}{config.companionSuffix}" host.span

end Config

/-- The arguments of the attribute, on the host or on a field, are not understood. -/
def Diagnostic.invalidArguments (config : Config) (detail : String) (span : Span) : Diagnostic where
  kind := .invalidArguments
  message := s!"invalid {config.attributeText} arguments: {detail}"
  span

end Tween
