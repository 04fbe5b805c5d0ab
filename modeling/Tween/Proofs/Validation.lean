import Tween.Validation

/-!
# What a verdict says

A host is let through with its components, and there is at least one of them
(`Host.verdict_eq_proceed_iff`); nothing is found if its form is right and its components have
supported types (`Host.formFinding?_eq_none_iff`, `typeFinding?_eq_none_iff`). Of the fields a
verdict looks at the components only (`Host.Alike.verdict_eq`).
-/

namespace Tween

/-- No finding is about a state that correct code never reaches. -/
theorem Finding.kind_ne_internalInvariant (finding : Finding) :
    finding.kind ≠ .internalInvariant := by
  cases finding <;> simp [Finding.kind]

variable {config : Config}

theorem typeFinding?_eq_none_iff {components : List Component} :
    typeFinding? config components = none ↔
      ∀ c ∈ components, c.typeText ∈ config.supportedTypes := by
  simp [typeFinding?, Config.supports_iff]

namespace Host

variable {host : Host}

/-- **A host is let through** if nothing is found and there is something to animate. -/
theorem verdict_eq_proceed_iff {components : List Component} :
    host.verdict config = .proceed components ↔
      components = host.components config ∧ components ≠ [] ∧
        host.formFinding? config components = none ∧ typeFinding? config components = none := by
  constructor
  · intro h
    unfold verdict at h
    simp only at h
    split at h
    · cases h
    · rename_i hnone
      split at h
      · cases h
      · rename_i hne
        cases h
        simp only [Option.orElse_eq_orElse, Option.orElse_eq_or, Option.or_eq_none_iff] at hnone
        exact ⟨rfl, by simpa using hne, hnone.1, hnone.2⟩
  · rintro ⟨rfl, hne, hform, htype⟩
    simp [verdict, hform, htype, hne]

/-- The form of a host is right if it is a struct without generic parameters that derives the
required trait, and no component has the name of the accessor. -/
theorem formFinding?_eq_none_iff {components : List Component} :
    host.formFinding? config components = none ↔
      host.kind = .struct ∧ host.isGeneric = false ∧ config.requiredTrait ∈ host.traits ∧
        ∀ c ∈ components, c.name.text ≠ config.accessorName := by
  unfold formFinding?
  cases hkind : host.kind with
  | other keyword => simp
  | struct =>
    cases hgeneric : host.isGeneric with
    | true => simp
    | false =>
      by_cases htrait : config.requiredTrait ∈ host.traits
      · simp [htrait]
      · simp [htrait]

/-- Two hosts that differ in fields that are not animated only. -/
structure Alike (config : Config) (host host' : Host) : Prop where
  kind : host'.kind = host.kind
  name : host'.name = host.name
  visibility : host'.visibility = host.visibility
  isGeneric : host'.isGeneric = host.isGeneric
  traits : host'.traits = host.traits
  components : host'.components config = host.components config

/-- Such hosts get one verdict. -/
theorem Alike.verdict_eq {host' : Host} (h : Alike config host host') :
    host'.verdict config = host.verdict config := by
  simp only [verdict, formFinding?, h.kind, h.name, h.isGeneric, h.traits, h.components]

end Host

end Tween
