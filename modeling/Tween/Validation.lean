import Tween.Component

/-!
# Validation

The checks that run before anything is generated, each on its own and both in order.

* `Host.formFinding?`: the host is no struct, has generic parameters, does not derive the required
  trait, or has a component with the name of the accessor.
* `typeFinding?`: a component has a type that is not supported.
* `Host.verdict`: the verdict. Of several faults the first is found; a host without any fault may
  still have nothing to animate, which is worth a warning.
-/

namespace Tween

/-- What can be found wrong with a host, and where. -/
inductive Finding where
  | notAStruct (host : Ident)
  | unsupportedGenerics (host : Ident)
  | missingCapability (host : Ident)
  | reservedName (field : Ident)
  | unsupportedType (component : Component)
  | nothingToAnimate (host : Ident)

namespace Finding

/-- What the finding is reported as. -/
def kind : Finding → DiagnosticKind
  | notAStruct _ => .notAStruct
  | unsupportedGenerics _ => .unsupportedGenerics
  | missingCapability _ => .missingCapability
  | reservedName _ => .reservedNameCollision
  | unsupportedType _ => .unsupportedType
  | nothingToAnimate _ => .redundantUsage

/-- The name the finding is about. -/
def anchor : Finding → Ident
  | notAStruct host | unsupportedGenerics host | missingCapability host | nothingToAnimate host =>
    host
  | reservedName field => field
  | unsupportedType component => component.name

/-- What the author is told, with the way out where there is one. -/
def message (config : Config) : Finding → String
  | notAStruct _ => s!"{config.attributeText} can only be applied to a struct"
  | unsupportedGenerics _ =>
    s!"{config.attributeText} can only be applied to structs without generic parameters"
  | missingCapability _ =>
    s!"{config.attributeText} can only be applied to structs that derive the " ++
      s!"{config.requiredTrait} trait"
  | reservedName _ =>
    s!"{config.attributeText} synthesizes '{config.accessorName}', " ++
      s!"which collides with the field '{config.accessorName}'.\n" ++
      s!"Rename the field or annotate it with '{config.markerText}'"
  | unsupportedType component =>
    let supported := String.intercalate ", " (config.supportedTypes.map fun text => s!"'{text}'")
    s!"{config.markerText} is required to ignore unsupported fields.\n" ++
      s!"Currently supported types:\n{supported}\n" ++
      s!"Annotate '{component.name.text}' with '{config.markerText}':\n" ++
      s!"'{config.markerText} {component.name.text}: {component.typeText}'"
  | nothingToAnimate _ =>
    s!"{config.attributeText} has no effect here because no animatable fields have been found. " ++
      "Consider adding animatable fields to make the attribute meaningful"

/-- The finding as a diagnostic. -/
def report (config : Config) (finding : Finding) : Diagnostic where
  kind := finding.kind
  message := finding.message config
  span := finding.anchor.span

end Finding

/-- The outcome of validation. -/
inductive Verdict where
  | proceed (components : List Component)
  | warning (finding : Finding)
  | error (finding : Finding)

/-- What keeps a host from carrying the attribute, the types of its components aside: first what
it is, then what it derives, then what its components are called. -/
def Host.formFinding? (config : Config) (components : List Component) (host : Host) :
    Option Finding :=
  match host.kind with
  | .other _ => some (.notAStruct host.name)
  | .struct =>
    if host.isGeneric then some (.unsupportedGenerics host.name)
    else if host.traits.contains config.requiredTrait then
      (components.find? (·.name.text = config.accessorName)).map (.reservedName ·.name)
    else some (.missingCapability host.name)

/-- The first component whose type is not supported. -/
def typeFinding? (config : Config) (components : List Component) : Option Finding :=
  (components.find? (!config.supports ·.typeText)).map .unsupportedType

/-- The verdict on a host. -/
def Host.verdict (config : Config) (host : Host) : Verdict :=
  let components := host.components config
  match host.formFinding? config components <|> typeFinding? config components with
  | some finding => .error finding
  | none =>
    if components.isEmpty then .warning (.nothingToAnimate host.name) else .proceed components

end Tween
