import Tween.Accessor
import Tween.Attribute.Removal
import Tween.Config.Arguments
import Tween.Host.Read
import Tween.Validation
import Tween.Vector.Companion

/-!
# Emission

What the attribute puts after its host. `Host.emission` answers with an accessor alone, with a
companion vector and its accessor, or with a diagnostic: never with code and a diagnostic, and never
with nothing. `attributeOutput` is the attribute from tokens to tokens. The host is emitted in any
case, without its markers, so that a refused host is reported once and its name stays known.

Names that are no identifiers stop it with `InvalidName`. The standard names are always
identifiers when the host's name is one.
-/

namespace Tween

/-- What is emitted after a host. -/
inductive Emission where
  | scalar (accessor : Accessor)
  | vector (declaration : CompanionVector) (accessor : Accessor)
  | report (diagnostic : Diagnostic)

namespace Emission

/-- The generated items, one stream for each group of them that belongs together. -/
def declarations : Emission → List TokenStream
  | scalar accessor => [accessor.tokens]
  | vector declaration accessor => [declaration.tokens, accessor.tokens]
  | report _ => []

/-- The diagnostic, if there is one. -/
def diagnostic? : Emission → Option Diagnostic
  | scalar _ | vector _ _ => none
  | report diagnostic => some diagnostic

/-- Everything that is emitted. -/
def tokens (emission : Emission) : TokenStream :=
  emission.declarations.flatten ++ (emission.diagnostic?.map Diagnostic.tokens).getD []

end Emission

namespace Host

/-- The code for a host with the given components. -/
def generate (config : Config) (components : List Component) (host : Host) :
    Except InvalidName Emission :=
  match Arity.of components with
  | .empty =>
    .ok (.report (.internal "validation passed without any animatable field" host.name.span))
  | .single component => (Accessor.ofConfig config host.name (.scalar component)).map .scalar
  | .multiple components =>
    match (Fragments.ofComponents components).aligned with
    | .error e => .ok (.report e.report)
    | .ok fragments =>
      match config.vectorName host.name with
      | .error e => .error e
      | .ok name =>
        (Accessor.ofConfig config host.name (.vector name components)).map
          (.vector ⟨name, host.visibility, fragments, config.runtimePath⟩)

/-- What is emitted after a host: code if it passes validation, the finding if it does not. -/
def emission (config : Config) (host : Host) : Except InvalidName Emission :=
  match host.verdict config with
  | .warning finding | .error finding => .ok (.report (finding.report config))
  | .proceed components => host.generate config components

end Host

/-- What the attribute puts after an item under a given configuration. -/
def itemOutput (config : Config) (item : TokenStream) : Except InvalidName TokenStream :=
  match Host.read config item with
  | .error e => .ok (e.report config).tokens
  | .ok host => (host.emission config).map Emission.tokens

/-- What the attribute with the given arguments makes of an item: the item without its markers, and
after it the generated code or a diagnostic. -/
def attributeOutput (arguments item : TokenStream) : Except InvalidName TokenStream :=
  match Config.ofArguments arguments with
  | .error e =>
    .ok (TokenStream.removeAttribute Config.standard.attributeName item ++ e.report.tokens)
  | .ok config =>
    (itemOutput config item).map (TokenStream.removeAttribute config.attributeName item ++ ·)

end Tween
