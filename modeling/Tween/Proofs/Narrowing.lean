import Tween.Emission
import Tween.Proofs.Verdict

/-!
# Fewer supported types

Of two configurations that differ in the supported types only, let the narrower one support no type
that the other does not. Whatever is found before the types are looked at is found under both. Under
the narrower one more types are refused, so the first that is refused comes no later; and a host
that passes under it passes under the other, with the same code.

* `Host.PassesForm.exists_reportsType`: a type that is not supported is reported, or one in front
  of it is.
* `Host.Judged.supporting`: what is found apart from the types.
* `Host.outcome_supporting`: how the two outcomes go together.
-/

namespace Tween

/-- The configuration with these types as the supported ones. -/
def Config.supporting (config : Config) (types : List String) : Config :=
  { config with supportedTypes := types }

/-- What is reported, if anything is. -/
def Outcome.kind? : Outcome → Option DiagnosticKind
  | proceed _ => none
  | warning d | error d => some d.kind

/-- Only the verdict to proceed comes to that. -/
theorem Verdict.outcome_eq_proceed_iff {config : Config} {v : Verdict}
    {components : List Component} :
    v.outcome config = .proceed components ↔ v = .proceed components := by
  cases v <;> simp [Verdict.outcome]

namespace Host

variable {config : Config} {host : Host} {types : List String}

/-! ## The first type that is not supported -/

/-- The type of the component at this place is reported: it is not supported, and those in front
of it are. -/
structure ReportsType (config : Config) (host : Host) (i : Nat) (c : Component) : Prop where
  component : (host.components config)[i]? = some c
  supported : ∀ j < i, ∀ b, (host.components config)[j]? = some b →
    b.typeText ∈ config.supportedTypes
  unsupported : c.typeText ∉ config.supportedTypes
  outcome : (host.verdict config).outcome config = .error ((Finding.unsupportedType c).report config)

/-- Nothing is wrong with the host apart from the types of its components. -/
structure PassesForm (config : Config) (host : Host) : Prop where
  eligible : host.IsEligible config
  names : ∀ b ∈ host.components config, b.name.text ≠ config.accessorName

/-- The first type that is not supported is the one that is reported. -/
theorem PassesForm.reportsType (h : host.PassesForm config) {front back : List Component}
    {c : Component} (hcomponents : host.components config = front ++ c :: back)
    (hfront : ∀ b ∈ front, b.typeText ∈ config.supportedTypes)
    (htype : c.typeText ∉ config.supportedTypes) : host.ReportsType config front.length c where
  component := by simp [hcomponents]
  supported j hj b hb := by
    rw [hcomponents, List.getElem?_append_left hj] at hb
    exact hfront b (List.mem_of_getElem? hb)
  unsupported := htype
  outcome := outcome_eq_iff.2 (.unsupportedType h.eligible h.names hcomponents hfront htype)

/-- **A type that is not supported is reported**, or one in front of it is. -/
theorem PassesForm.exists_reportsType (h : host.PassesForm config) {i : Nat} {c : Component}
    (hc : (host.components config)[i]? = some c) (htype : c.typeText ∉ config.supportedTypes) :
    ∃ j ≤ i, ∃ c', host.ReportsType config j c' := by
  obtain hall | ⟨front, c', back, hcomponents, hfront, htype'⟩ :=
    forall_not_or_exists_first (fun c : Component => c.typeText ∉ config.supportedTypes)
      (host.components config)
  · exact absurd htype (hall c (List.mem_of_getElem? hc))
  · simp only [not_not] at hfront
    refine ⟨front.length, Nat.le_of_not_lt fun hi => ?_, c', h.reportsType hcomponents hfront htype'⟩
    rw [hcomponents, List.getElem?_append_left hi] at hc
    exact htype (hfront c (List.mem_of_getElem? hc))

/-- The types are looked at when nothing else is wrong. -/
theorem passesForm_of_kind?_eq
    (h : ((host.verdict config).outcome config).kind? = some .unsupportedType) :
    host.PassesForm config ∧ ∃ i c, host.ReportsType config i c := by
  obtain ⟨o, ho⟩ := exists_judged config host (host.components config)
  rw [ho.outcome_eq] at h
  cases ho with
  | unsupportedType hhost hnames hcomponents hfront htype =>
    have hform : host.PassesForm config := ⟨hhost, hnames⟩
    exact ⟨hform, _, _, hform.reportsType hcomponents hfront htype⟩
  | _ => cases h

theorem ReportsType.passesForm {i : Nat} {c : Component} (h : host.ReportsType config i c) :
    host.PassesForm config :=
  (passesForm_of_kind?_eq (by rw [h.outcome]; rfl)).1

/-- A host is let through if nothing is wrong, the types included. -/
theorem outcome_eq_proceed_iff {components : List Component} :
    (host.verdict config).outcome config = .proceed components ↔
      host.PassesForm config ∧ components = host.components config ∧ components ≠ [] ∧
        ∀ b ∈ components, b.typeText ∈ config.supportedTypes := by
  constructor
  · intro h
    cases outcome_eq_iff.1 h with
    | proceed hhost hne hnames htypes => exact ⟨⟨hhost, hnames⟩, rfl, hne, htypes⟩
  · rintro ⟨hform, rfl, hne, htypes⟩
    exact outcome_eq_iff.2 (.proceed hform.eligible hne hform.names htypes)

/-- Where nothing else is wrong and there is something to animate, the host is let through or a type
is reported. -/
theorem PassesForm.proceed_or_reportsType (h : host.PassesForm config)
    (hne : host.components config ≠ []) :
    (host.verdict config).outcome config = .proceed (host.components config) ∨
      ∃ i c, host.ReportsType config i c := by
  by_cases hall : ∀ b ∈ host.components config, b.typeText ∈ config.supportedTypes
  · exact .inl (outcome_eq_proceed_iff.2 ⟨h, rfl, hne, hall⟩)
  · push Not at hall
    obtain ⟨b, hb, htype⟩ := hall
    obtain ⟨i, hi⟩ := List.getElem?_of_mem hb
    obtain ⟨j, -, c, hreports⟩ := h.exists_reportsType hi htype
    exact .inr ⟨j, c, hreports⟩

/-! ## Other supported types -/

/-- What is right or wrong apart from the types has nothing to do with which are supported. -/
theorem isEligible_supporting_iff :
    host.IsEligible (config.supporting types) ↔ host.IsEligible config :=
  ⟨fun h => ⟨h.kind, h.not_generic, h.trait⟩, fun h => ⟨h.kind, h.not_generic, h.trait⟩⟩

theorem passesForm_supporting_iff :
    host.PassesForm (config.supporting types) ↔ host.PassesForm config :=
  ⟨fun h => ⟨isEligible_supporting_iff.1 h.eligible, h.names⟩,
    fun h => ⟨isEligible_supporting_iff.2 h.eligible, h.names⟩⟩

/-- Nor has what is reported then. -/
theorem Judged.supporting {included : List Component} {o : Outcome} {kind : DiagnosticKind}
    (h : Judged config host included o) (hkind : o.kind? = some kind)
    (hne : kind ≠ .unsupportedType) : Judged (config.supporting types) host included o := by
  cases h with
  | notAStruct hother => exact .notAStruct hother
  | unsupportedGenerics hstruct hgeneric => exact .unsupportedGenerics hstruct hgeneric
  | missingCapability hstruct hgeneric htrait => exact .missingCapability hstruct hgeneric htrait
  | reservedName hhost hincluded hfront hname =>
    have hhost' : host.IsEligible (config.supporting types) := isEligible_supporting_iff.2 hhost
    exact .reservedName hhost' hincluded hfront hname
  | unsupportedType =>
    cases hkind
    contradiction
  | redundantUsage hhost hincluded =>
    have hhost' : host.IsEligible (config.supporting types) := isEligible_supporting_iff.2 hhost
    exact .redundantUsage hhost' hincluded
  | proceed => cases hkind

/-- The code that is generated is told by the components. -/
theorem emission_supporting {components : List Component}
    (h : (host.verdict config).outcome config = .proceed components)
    (h' : (host.verdict (config.supporting types)).outcome (config.supporting types) =
      .proceed components) :
    host.emission (config.supporting types) = host.emission config := by
  rw [emission, emission, Verdict.outcome_eq_proceed_iff.1 h, Verdict.outcome_eq_proceed_iff.1 h']
  rfl

/-- **Narrowing the supported types is monotone**. What proceeds under fewer types proceeds under
more, with the same components and the same code. A type that is reported under more types is
reported under fewer, or one in front of it is. All else that is reported is the same under both.
And what proceeds under more types proceeds under fewer, or a type is reported. -/
theorem outcome_supporting (h : types ⊆ config.supportedTypes) (host : Host) :
    let wide := (host.verdict config).outcome config
    let narrow := (host.verdict (config.supporting types)).outcome (config.supporting types)
    (∀ components, narrow = .proceed components →
      wide = .proceed components ∧
        host.emission (config.supporting types) = host.emission config) ∧
    (wide.kind? = some .unsupportedType → ∃ i c, host.ReportsType config i c) ∧
    (∀ i c, host.ReportsType config i c →
      ∃ j ≤ i, ∃ c', host.ReportsType (config.supporting types) j c') ∧
    (∀ kind, wide.kind? = some kind → kind ≠ .unsupportedType → narrow = wide) ∧
    (∀ components, wide = .proceed components →
      narrow = .proceed components ∨ ∃ i c, host.ReportsType (config.supporting types) i c) := by
  refine ⟨?proceeds, fun hkind => (passesForm_of_kind?_eq hkind).2, ?type, ?other, ?narrows⟩
  case proceeds =>
    intro components hnarrow
    obtain ⟨hform, hcomponents, hne, htypes⟩ := outcome_eq_proceed_iff.1 hnarrow
    have hwide := outcome_eq_proceed_iff.2
      ⟨passesForm_supporting_iff.1 hform, hcomponents, hne, fun b hb => h (htypes b hb)⟩
    exact ⟨hwide, emission_supporting hwide hnarrow⟩
  case type =>
    intro i c hreports
    have hform : host.PassesForm (config.supporting types) :=
      passesForm_supporting_iff.2 hreports.passesForm
    exact hform.exists_reportsType hreports.component fun htype => hreports.unsupported (h htype)
  case other =>
    intro kind hkind hne
    -- both outcomes are what the host is judged to, and it is judged alike
    have hjudged : Judged config host (host.components config) _ := outcome_eq_iff.1 rfl
    exact outcome_eq_iff.2 (hjudged.supporting hkind hne)
  case narrows =>
    intro components hwide
    obtain ⟨hform, rfl, hne, -⟩ := outcome_eq_proceed_iff.1 hwide
    exact (passesForm_supporting_iff.2 hform).proceed_or_reportsType hne

end Host

/-! ### A type that is supported no longer -/

namespace Sketch

open Code

/-- `size: f32` -/
def size : Component := ⟨⟨"size", .token "size"⟩, [word "f32"]⟩

/-- `label: String` -/
def label : Component := ⟨⟨"label", .token "label"⟩, [word "String"]⟩

/-- A struct with these components. -/
def host (components : List Component) : Host where
  kind := .struct
  name := ⟨"Sketch", .callSite⟩
  visibility := []
  isGeneric := false
  traits := ["Shape"]
  fields := components.map fun c => ⟨some c.name, some c.ty, []⟩

end Sketch

/-- Without `f32` the size is reported, which is in front of the label. -/
theorem outcome_supporting_sketch :
    ["f64"] ⊆ Config.standard.supportedTypes ∧
    (Sketch.host [Sketch.size, Sketch.label]).ReportsType .standard 1 Sketch.label ∧
    (∃ j ≤ 1, ∃ c, (Sketch.host [Sketch.size, Sketch.label]).ReportsType
      (Config.standard.supporting ["f64"]) j c) ∧
    ((Sketch.host [Sketch.size]).verdict .standard).outcome .standard = .proceed [Sketch.size] ∧
    ∃ i c, (Sketch.host [Sketch.size]).ReportsType (Config.standard.supporting ["f64"]) i c := by
  have hsub : ["f64"] ⊆ Config.standard.supportedTypes := by decide
  have hlabel : (Sketch.host [Sketch.size, Sketch.label]).ReportsType .standard 1 Sketch.label :=
    ⟨rfl, by decide, by decide, rfl⟩
  have hproceeds : ((Sketch.host [Sketch.size]).verdict .standard).outcome .standard =
      .proceed [Sketch.size] := rfl
  obtain ⟨-, -, htype, -, -⟩ :=
    Host.outcome_supporting hsub (Sketch.host [Sketch.size, Sketch.label])
  obtain ⟨-, -, -, -, hnarrows⟩ := Host.outcome_supporting hsub (Sketch.host [Sketch.size])
  refine ⟨hsub, hlabel, htype 1 Sketch.label hlabel, hproceeds, ?_⟩
  refine (hnarrows _ hproceeds).resolve_left fun hnarrow => ?_
  obtain ⟨-, -, -, hall⟩ := Host.outcome_eq_proceed_iff.1 hnarrow
  exact absurd (hall Sketch.size (by simp)) (by decide)

end Tween
