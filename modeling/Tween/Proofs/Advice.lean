import Tween.Emission
import Tween.Proofs.Vector.Fragments
import Tween.Proofs.Verdict

/-!
# Following the advice

Two of the reports name a field and tell the author to ignore it: the field has the name of the
accessor, or a type that is not supported. `Host.Round` is one round of following this advice: the
field that is reported gets one more marker, and everything else stays. Each round takes exactly one
component away, and never one that is allowed, so there is an end to it: the components that are
allowed are what is left.

* `Host.Round.components`: what one round does to the components.
* `Host.exists_round`: as long as the host is reported for a field, there is a next round.
* `Host.advice_converges`: all runs of such rounds, and where they end.
-/

namespace Tween

/-- The component has a name and a type that generated code can do with. -/
def Component.IsAllowed (config : Config) (c : Component) : Prop :=
  c.name.text ≠ config.accessorName ∧ c.typeText ∈ config.supportedTypes

instance (config : Config) : DecidablePred (Component.IsAllowed config) :=
  fun c => inferInstanceAs (Decidable (c.name.text ≠ config.accessorName ∧
    c.typeText ∈ config.supportedTypes))

/-- What reports of this kind find wrong with a component. -/
inductive Component.HasFault (config : Config) (c : Component) : DiagnosticKind → Prop
  | reservedName (hname : c.name.text = config.accessorName) :
      HasFault config c .reservedNameCollision
  | unsupportedType (htype : c.typeText ∉ config.supportedTypes) :
      HasFault config c .unsupportedType

theorem Component.HasFault.not_isAllowed {config : Config} {c : Component} {kind : DiagnosticKind}
    (h : c.HasFault config kind) : ¬ c.IsAllowed config := by
  rintro ⟨hname, htype⟩
  cases h with
  | reservedName h => exact hname h
  | unsupportedType h => exact h htype

/-- The field with one more marker. -/
def Field.mark (marker : Ident) (field : Field) : Field :=
  { field with markers := field.markers ++ [marker] }

theorem Field.isIgnored_mark {config : Config} {marker : Ident} {field : Field} :
    (field.mark marker).isIgnored config = true ↔
      field.isIgnored config = true ∨ marker.text = config.ignoreWord := by
  simp [mark, isIgnored]

namespace Host

variable {config : Config} {marker : Ident} {host next last : Host} {i : Nat}
  {positions : List Nat}

/-- The components that are allowed. -/
def allowed (config : Config) (host : Host) : List Component :=
  (host.components config).filter (Component.IsAllowed config ·)

/-- The attribute reports the host for a field of it. -/
def IsReported (config : Config) (host : Host) : Prop :=
  ∃ d, host.emission config = .ok (.report d) ∧
    (d.kind = .reservedNameCollision ∨ d.kind = .unsupportedType)

/-- One round: the first field that has the fault that is reported, which the report is anchored at,
is marked. The position is that of this field. -/
inductive Round (config : Config) (marker : Ident) : Host → Nat → Host → Prop
  | mark {host : Host} {d : Diagnostic} {front back : List Field} {field : Field} {c : Component}
      (hreport : host.emission config = .ok (.report d))
      (hfields : host.fields = front ++ field :: back)
      (hfield : field.included? config = some c) (hfault : c.HasFault config d.kind)
      (hfront : ∀ other ∈ front, ∀ b, other.included? config = some b →
        ¬ b.HasFault config d.kind)
      (hanchor : d.span = c.name.span) :
      Round config marker host front.length
        { host with fields := front ++ field.mark marker :: back }

/-- Round after round, with the positions of the fields that are marked. -/
inductive Rounds (config : Config) (marker : Ident) : Host → List Nat → Host → Prop
  | nil (host : Host) : Rounds config marker host [] host
  | cons {host next last : Host} {i : Nat} {positions : List Nat}
      (hround : Round config marker host i next)
      (hrounds : Rounds config marker next positions last) :
      Rounds config marker host (i :: positions) last

/-! ## What is reported -/

/-- Nothing is reported once code is generated. -/
theorem generate_ne_report {components : List Component} (hne : components ≠ []) (d : Diagnostic) :
    host.generate config components ≠ .ok (.report d) := by
  intro h
  match components, hne with
  | [component], _ =>
    simp only [generate, Arity.of] at h
    cases haccessor : Accessor.ofConfig config host.name (.scalar component) <;>
      simp [haccessor, Except.map] at h
  | c :: c' :: cs, _ =>
    simp only [generate, Arity.of, Fragments.aligned_ofComponents] at h
    split at h
    · cases h
    · rename_i name _
      cases haccessor : Accessor.ofConfig config host.name (.vector name (c :: c' :: cs)) <;>
        simp [haccessor, Except.map] at h

/-- The attribute reports what validation finds, and nothing else. -/
theorem emission_eq_report_iff {d : Diagnostic} : host.emission config = .ok (.report d) ↔
    (host.verdict config).outcome config = .error d ∨
      (host.verdict config).outcome config = .warning d := by
  unfold emission
  cases hverdict : host.verdict config with
  | error finding => simp [Verdict.outcome]
  | warning finding => simp [Verdict.outcome]
  | proceed components =>
    obtain ⟨-, hne, -⟩ := verdict_eq_proceed_iff.1 hverdict
    simp [Verdict.outcome, generate_ne_report hne]

/-- A component of a host is what one of its fields contributes, and the components in front of it
are contributed by the fields in front of that one. -/
theorem exists_field_of_components {front back : List Component} {c : Component}
    (h : host.components config = front ++ c :: back) :
    ∃ before field after, host.fields = before ++ field :: after ∧
      field.included? config = some c ∧
      ∀ other ∈ before, ∀ b, other.included? config = some b → b ∈ front := by
  obtain ⟨before, rest, hfields, hbefore, hrest⟩ := List.filterMap_eq_append_iff.1 h
  obtain ⟨skipped, field, after, rfl, hskipped, hfield, -⟩ := List.filterMap_eq_cons_iff.1 hrest
  refine ⟨before ++ skipped, field, after, by simp [hfields], hfield, fun other hother b hb => ?_⟩
  obtain hother | hother := List.mem_append.1 hother
  · exact hbefore ▸ List.mem_filterMap.2 ⟨other, hother, hb⟩
  · rw [hskipped other hother] at hb
    cases hb

/-- The first component with the fault is contributed by the first field with the fault. -/
theorem exists_round_of_components {d : Diagnostic} {front back : List Component} {c : Component}
    (marker : Ident) (hreport : host.emission config = .ok (.report d))
    (hcomponents : host.components config = front ++ c :: back) (hfault : c.HasFault config d.kind)
    (hfront : ∀ b ∈ front, ¬ b.HasFault config d.kind) (hanchor : d.span = c.name.span) :
    ∃ i next, Round config marker host i next := by
  obtain ⟨before, field, after, hfields, hfield, hbefore⟩ := exists_field_of_components hcomponents
  exact ⟨_, _, .mark hreport hfields hfield hfault
    (fun other hother b hb => hfront b (hbefore other hother b hb)) hanchor⟩

/-- **There is a next round** as long as the host is reported for a field. -/
theorem exists_round (marker : Ident) (h : host.IsReported config) :
    ∃ i next, Round config marker host i next := by
  obtain ⟨d, hreport, hkind⟩ := h
  obtain herror | hwarning := emission_eq_report_iff.1 hreport
  · cases outcome_eq_iff.1 herror with
    | notAStruct => simp at hkind
    | unsupportedGenerics => simp at hkind
    | missingCapability => simp at hkind
    | reservedName _ hincluded hfront hname =>
      refine exists_round_of_components marker hreport hincluded (.reservedName hname)
        (fun b hb hfault => ?_) rfl
      cases hfault with
      | reservedName h => exact hfront b hb h
    | unsupportedType _ _ hincluded hfront htype =>
      refine exists_round_of_components marker hreport hincluded (.unsupportedType htype)
        (fun b hb hfault => ?_) rfl
      cases hfault with
      | unsupportedType h => exact h (hfront b hb)
  · cases outcome_eq_iff.1 hwarning with
    | redundantUsage => simp at hkind

/-- **What is left** where no field is reported: components that are all allowed, or none. -/
theorem IsEligible.outcome_of_not_isReported (hhost : host.IsEligible config)
    (h : ¬ host.IsReported config) :
    host.components config = host.allowed config ∧
      (host.allowed config ≠ [] ∧
          (host.verdict config).outcome config = .proceed (host.allowed config) ∨
        host.allowed config = [] ∧
          ∃ d, (host.verdict config).outcome config = .warning d ∧ d.kind = .redundantUsage) := by
  obtain ⟨o, ho⟩ := exists_judged config host (host.components config)
  have houtcome := ho.outcome_eq
  cases ho with
  | notAStruct hkind =>
    rw [hhost.kind] at hkind
    cases hkind
  | unsupportedGenerics _ hgeneric =>
    rw [hhost.not_generic] at hgeneric
    cases hgeneric
  | missingCapability _ _ htrait => exact absurd hhost.trait htrait
  | reservedName =>
    exact absurd ⟨_, emission_eq_report_iff.2 (.inl houtcome), .inl rfl⟩ h
  | unsupportedType =>
    exact absurd ⟨_, emission_eq_report_iff.2 (.inl houtcome), .inr rfl⟩ h
  | redundantUsage _ hnone =>
    have hallowed : host.allowed config = [] := by rw [allowed, hnone, List.filter_nil]
    exact ⟨by rw [hallowed, hnone], .inr ⟨hallowed, _, houtcome, rfl⟩⟩
  | proceed _ hne hnames htypes =>
    have hallowed : host.allowed config = host.components config :=
      List.filter_eq_self.2 fun c hc => decide_eq_true ⟨hnames c hc, htypes c hc⟩
    rw [hallowed]
    exact ⟨rfl, .inl ⟨hne, houtcome⟩⟩

/-! ## What a round does -/

/-- A round takes one component away, which is not allowed. -/
theorem Round.components (hmarker : marker.text = config.ignoreWord)
    (h : Round config marker host i next) :
    ∃ front c back, host.components config = front ++ c :: back ∧
      next.components config = front ++ back ∧ ¬ c.IsAllowed config := by
  cases h with
  | @mark d before back field c _ hfields hfield hfault =>
    refine ⟨before.filterMap (Field.included? config), c,
      back.filterMap (Field.included? config), ?_, ?_, hfault.not_isAllowed⟩
    · rw [Host.components, hfields, List.filterMap_append, List.filterMap_cons_some hfield]
    · have hmarked : (field.mark marker).included? config = none := by
        rw [Field.included?, if_pos (Field.isIgnored_mark.2 (.inr hmarker))]
      rw [Host.components, List.filterMap_append, List.filterMap_cons_none hmarked]

theorem Round.length_add_one (hmarker : marker.text = config.ignoreWord)
    (h : Round config marker host i next) :
    (next.components config).length + 1 = (host.components config).length := by
  obtain ⟨front, c, back, hhost, hnext, -⟩ := h.components hmarker
  rw [hhost, hnext]
  simp only [List.length_append, List.length_cons]
  omega

theorem Round.allowed_eq (hmarker : marker.text = config.ignoreWord)
    (h : Round config marker host i next) : next.allowed config = host.allowed config := by
  obtain ⟨front, c, back, hhost, hnext, hc⟩ := h.components hmarker
  simp [allowed, hhost, hnext, hc]

theorem Round.isEligible (h : Round config marker host i next) (hhost : host.IsEligible config) :
    next.IsEligible config := by
  cases h with
  | mark => exact ⟨hhost.kind, hhost.not_generic, hhost.trait⟩

/-- The field at this position is ignored. -/
def IgnoredAt (config : Config) (host : Host) (i : Nat) : Prop :=
  ∃ field, host.fields[i]? = some field ∧ field.isIgnored config = true

/-- The field that is marked is ignored from then on, and was not before. -/
theorem Round.ignoredAt (hmarker : marker.text = config.ignoreWord)
    (h : Round config marker host i next) :
    ¬ host.IgnoredAt config i ∧ next.IgnoredAt config i := by
  cases h with
  | @mark d front back field c _ hfields hfield =>
    constructor
    · rintro ⟨field', hfield', hignored⟩
      rw [hfields] at hfield'
      have hsame : field = field' := by simpa using hfield'
      subst hsame
      rw [Field.included?, if_pos hignored] at hfield
      cases hfield
    · exact ⟨field.mark marker, by simp, Field.isIgnored_mark.2 (.inr hmarker)⟩

/-- No field loses its markers. -/
theorem Round.ignoredAt_of_ignoredAt (h : Round config marker host i next) {j : Nat}
    (hj : host.IgnoredAt config j) : next.IgnoredAt config j := by
  cases h with
  | @mark d front back field c _ hfields =>
    obtain ⟨other, hother, hignored⟩ := hj
    rw [hfields] at hother
    have hset : front ++ field.mark marker :: back =
        (front ++ field :: back).set front.length (field.mark marker) := by simp
    by_cases hposition : front.length = j
    · subst hposition
      have hsame : field = other := by simpa using hother
      subst hsame
      exact ⟨field.mark marker, by simp, Field.isIgnored_mark.2 (.inl hignored)⟩
    · refine ⟨other, ?_, hignored⟩
      show (front ++ field.mark marker :: back)[j]? = some other
      rw [hset, List.getElem?_set_ne hposition, hother]

/-! ## Runs -/

namespace Rounds

theorem isEligible (h : Rounds config marker host positions last) (hhost : host.IsEligible config) :
    last.IsEligible config := by
  induction h with
  | nil => exact hhost
  | cons hround _ ih => exact ih (hround.isEligible hhost)

/-- The allowed components stay, in their order. -/
theorem allowed_eq (hmarker : marker.text = config.ignoreWord)
    (h : Rounds config marker host positions last) : last.allowed config = host.allowed config := by
  induction h with
  | nil => rfl
  | cons hround _ ih => rw [ih, hround.allowed_eq hmarker]

/-- Each round takes one component away. -/
theorem length_add (hmarker : marker.text = config.ignoreWord)
    (h : Rounds config marker host positions last) :
    positions.length + (last.components config).length = (host.components config).length := by
  induction h with
  | nil => simp
  | cons hround _ ih =>
    have := hround.length_add_one hmarker
    rw [List.length_cons]
    omega

/-- A field that is ignored is not reported. -/
theorem notMem (hmarker : marker.text = config.ignoreWord)
    (h : Rounds config marker host positions last) (hi : host.IgnoredAt config i) :
    i ∉ positions := by
  induction h with
  | nil => simp
  | @cons host next last j positions hround _ ih =>
    rw [List.mem_cons, not_or]
    refine ⟨?_, ih (hround.ignoredAt_of_ignoredAt hi)⟩
    rintro rfl
    exact (hround.ignoredAt hmarker).1 hi

/-- No field is reported twice. -/
theorem nodup (hmarker : marker.text = config.ignoreWord)
    (h : Rounds config marker host positions last) : positions.Nodup := by
  induction h with
  | nil => exact List.nodup_nil
  | cons hround hrounds ih =>
    exact List.nodup_cons.2 ⟨hrounds.notMem hmarker (hround.ignoredAt hmarker).2, ih⟩

end Rounds

/-- There is a run to a host that is not reported for a field: the number of components falls. -/
theorem exists_rounds (hmarker : marker.text = config.ignoreWord) (host : Host) :
    ∃ positions last, Rounds config marker host positions last ∧ ¬ last.IsReported config := by
  induction hcount : (host.components config).length using Nat.strongRecOn generalizing host with
  | ind count ih =>
    by_cases hreported : host.IsReported config
    · obtain ⟨i, next, hround⟩ := exists_round marker hreported
      have hfewer := hround.length_add_one hmarker
      obtain ⟨positions, last, hrounds, hend⟩ := ih _ (by omega) next rfl
      exact ⟨i :: positions, last, .cons hround hrounds, hend⟩
    · exact ⟨[], host, .nil host, hreported⟩

/-- **Following the advice converges.** A struct without generic parameters that derives the
required trait is reported for a field of it, the field is marked, and so on. In every such run no
field is reported twice, there are at most as many rounds as there are components, and while a field
is reported there is a next round. When none is reported any more, the components that are left are
those that were allowed in the first place, in their order; the host is let through with them, or
there is a warning if there are none. And there is such a run to an end. -/
theorem advice_converges {span : Span} (hmarker : Ident.ofText config.ignoreWord span = .ok marker)
    (hhost : host.IsEligible config) :
    (∀ positions last, Rounds config marker host positions last →
      positions.Nodup ∧ positions.length ≤ (host.components config).length ∧
      (last.IsReported config → ∃ i next, Round config marker last i next) ∧
      (¬ last.IsReported config → last.components config = host.allowed config ∧
        (host.allowed config ≠ [] ∧
            (last.verdict config).outcome config = .proceed (host.allowed config) ∨
          host.allowed config = [] ∧
            ∃ d, (last.verdict config).outcome config = .warning d ∧
              d.kind = .redundantUsage))) ∧
    ∃ positions last, Rounds config marker host positions last ∧ ¬ last.IsReported config := by
  have htext : marker.text = config.ignoreWord := by rw [(Ident.ofText_eq_ok.1 hmarker).2]
  refine ⟨fun positions last h => ⟨h.nodup htext, ?count, exists_round marker, ?ends⟩,
    exists_rounds htext host⟩
  case count =>
    have := h.length_add htext
    omega
  case ends =>
    intro hend
    rw [← h.allowed_eq htext]
    exact (h.isEligible hhost).outcome_of_not_isReported hend

end Host

/-! ### A struct with three fields to ignore -/

namespace Caption

open Code

/-- `x: f64` -/
def x : Component := ⟨⟨"x", .token "x"⟩, [word "f64"]⟩

/-- `animatable_data: f64` -/
def again : Component := { data with ty := [word "f64"] }

/-- `y: f32` -/
def y : Component := ⟨⟨"y", .token "y"⟩, [word "f32"]⟩

/-- Two fields with the name of the accessor, one of them with a type that is not supported either,
and a third field of such a type. -/
def crowded : Host :=
  { host [] with fields := [x, data, again, label, y].map field }

theorem allowed_crowded : crowded.allowed .standard = [x, y] := rfl

end Caption

/-- What is left in the end are the two fields that nothing is wrong with. -/
theorem advice_converges_caption :
    Ident.ofText Config.standard.ignoreWord .callSite = .ok ⟨"ignore", .callSite⟩ ∧
    Caption.crowded.IsEligible .standard ∧
    ∃ positions last,
      Host.Rounds .standard ⟨"ignore", .callSite⟩ Caption.crowded positions last ∧
      positions.length ≤ 5 ∧
      (last.verdict .standard).outcome .standard = .proceed [Caption.x, Caption.y] := by
  have hmarker : Ident.ofText Config.standard.ignoreWord .callSite =
      .ok ⟨"ignore", .callSite⟩ := rfl
  have hhost : Caption.crowded.IsEligible .standard := ⟨rfl, rfl, by decide⟩
  obtain ⟨hruns, positions, last, hrounds, hend⟩ := Host.advice_converges hmarker hhost
  obtain ⟨-, hcount, -, hends⟩ := hruns positions last hrounds
  obtain ⟨-, hends⟩ := hends hend
  rw [Caption.allowed_crowded] at hends
  obtain ⟨-, hproceed⟩ | ⟨hnone, -⟩ := hends
  · exact ⟨hmarker, hhost, positions, last, hrounds, hcount, hproceed⟩
  · cases hnone

end Tween
