import Mathlib.Logic.ExistsUnique
import Tween.Emission
import Tween.Proofs.Config.Arguments
import Tween.Proofs.Host.Completeness
import Tween.Proofs.Host.Read
import Tween.Proofs.Validation
import Tween.Proofs.Vector.Fragments
import Tween.Token.Render

/-!
# Every item gets exactly one answer

The attribute emits the host without its markers and then one thing: an error, a warning, an
accessor, or a companion vector and its accessor (`expansion_total`). The four are told apart by
their first token (`Tail.opening`), so no output is of two forms.

Two branches of the code report states that are never reached. A host is let through with at least
one component, and the fragments of components always line up, so neither of them is taken, whatever
the host and the configuration. What may stop an expansion is a name that is no identifier; the
standard names are identifiers for every host whose own name is one.
-/

namespace Tween

/-! ## Names -/

theorem Unicode.isIdentifier_ne_pound {cs ds : List Char} (h : isIdentifier cs = true) :
    cs ≠ 'r' :: '#' :: ds := by
  rintro rfl
  simp [isIdentifier, show isIdentifierPart '#' = false by decide] at h

namespace Ident

/-- A word of identifier characters may be written as it is. -/
theorem isValidText_of_isIdentifier {text : String} (h : Unicode.isIdentifier text.toList = true) :
    isValidText text = true := by
  unfold isValidText
  split
  · rename_i word hword
    exact absurd hword (Unicode.isIdentifier_ne_pound h)
  · exact h

theorem isIdentifier_bareText {i : Ident} (h : isValidText i.text = true) :
    Unicode.isIdentifier i.bareText.toList = true := by
  unfold isValidText at h
  unfold bareText
  split at h
  · rw [Bool.and_eq_true] at h
    simpa using h.1
  · exact h

end Ident

/-- Every identifier outside of visible groups is spelled as one, as identifier tokens are. -/
def TokenStream.WellSpelled (item : TokenStream) : Prop :=
  ∀ word ∈ TokenStream.idents (TokenStream.dissolve item), Ident.isValidText word.text = true

namespace Config

variable {config : Config}

theorem getter_standard (h : SameNames config standard) :
    ∃ getter, config.getter = .ok getter := by
  rw [getter, h.accessorName]
  exact ⟨_, Ident.ofText_eq_ok.2 ⟨Ident.isValidText_of_isIdentifier (by decide), rfl⟩⟩

theorem setter_standard (h : SameNames config standard) :
    ∃ setter, config.setter = .ok setter := by
  rw [setter, h.accessorName]
  exact ⟨_, Ident.ofText_eq_ok.2 ⟨Ident.isValidText_of_isIdentifier (by decide), rfl⟩⟩

theorem vectorName_standard (h : SameNames config standard) {host : Ident}
    (hhost : Ident.isValidText host.text = true) :
    ∃ name, config.vectorName host = .ok name := by
  rw [vectorName, h.companionSuffix]
  refine ⟨_, Ident.ofText_eq_ok.2 ⟨Ident.isValidText_of_isIdentifier ?_, rfl⟩⟩
  have hsuffix : ∀ c ∈ standard.companionSuffix.toList, Unicode.isIdentifierPart c = true :=
    List.all_eq_true.1 (by decide)
  have hname : s!"{host.bareText}{standard.companionSuffix}".toList =
      host.bareText.toList ++ standard.companionSuffix.toList := String.toList_append
  rw [hname]
  exact Unicode.isIdentifier_append (Ident.isIdentifier_bareText hhost) hsuffix

end Config

/-! ## The forms of an answer -/

/-- What may follow the emitted host. -/
inductive Tail where
  | error
  | warning
  | scalar
  | vector
  deriving DecidableEq

namespace Tail

/-- The tokens are of this form: the error or the warning of one diagnostic, the accessor of a
single component, or a companion vector and the accessor that exposes it. -/
def Holds : Tail → TokenStream → Prop
  | error, ts => ∃ d : Diagnostic, d.severity = .error ∧ ts = d.tokens
  | warning, ts => ∃ d : Diagnostic, d.kind = .redundantUsage ∧ ts = d.tokens
  | scalar, ts => ∃ (a : Accessor) (component : Component),
      a.exposed = .scalar component ∧ ts = a.tokens
  | vector, ts => ∃ (v : CompanionVector) (a : Accessor) (components : List Component),
      a.exposed = .vector v.name components ∧ ts = v.tokens ++ a.tokens

/-- The first token, as it is printed. -/
def opening : Tail → List Char
  | error => [':']
  | warning => "const".toList
  | scalar => "impl".toList
  | vector => ['#']

theorem opening_of_holds {form : Tail} {ts : TokenStream} (h : form.Holds ts) :
    ts.head?.map TokenTree.chars = some form.opening := by
  cases form with
  | error =>
    obtain ⟨d, hd, rfl⟩ := h
    simp only [Diagnostic.tokens, hd]
    rfl
  | warning =>
    obtain ⟨d, hd, rfl⟩ := h
    have hd : d.severity = .warning := by rw [Diagnostic.severity, hd]; rfl
    simp only [Diagnostic.tokens, hd]
    rfl
  | scalar =>
    obtain ⟨a, component, -, rfl⟩ := h
    rfl
  | vector =>
    obtain ⟨v, a, components, -, rfl⟩ := h
    rfl

/-- No tokens are of two forms. -/
theorem holds_unique {form form' : Tail} {ts : TokenStream} (h : form.Holds ts)
    (h' : form'.Holds ts) : form = form' := by
  have hopening : form.opening = form'.opening := by
    have := (opening_of_holds h).symm.trans (opening_of_holds h')
    simpa using this
  cases form <;> cases form' <;> first | rfl | exact absurd hopening (by decide)

theorem exists_holds_diagnostic (d : Diagnostic) : ∃ form : Tail, form.Holds d.tokens := by
  cases hd : d.severity with
  | error => exact ⟨.error, d, hd, rfl⟩
  | warning =>
    refine ⟨.warning, d, ?_, rfl⟩
    rw [Diagnostic.severity] at hd
    cases hkind : d.kind <;> simp_all [DiagnosticKind.severity]

end Tail

/-! ## From a host to its answer -/

/-- The names that the expansion of a host makes are identifiers: those of the two methods if there
is anything to animate, and that of the companion vector if there is more than one component. -/
def Host.NamesValid (config : Config) (host : Host) : Prop :=
  ∀ components, host.verdict config = .proceed components →
    (∃ getter, config.getter = .ok getter) ∧ (∃ setter, config.setter = .ok setter) ∧
      (2 ≤ components.length → ∃ name, config.vectorName host.name = .ok name)

theorem Accessor.ofConfig_eq_ok_iff {config : Config} {host : Ident} {exposed : Exposed}
    {a : Accessor} :
    ofConfig config host exposed = .ok a ↔ ∃ getter setter, config.getter = .ok getter ∧
      config.setter = .ok setter ∧ a = ⟨host, config.runtimePath, getter, setter, exposed⟩ := by
  cases hgetter : config.getter <;> cases hsetter : config.setter <;>
    simp [ofConfig, hgetter, hsetter, @eq_comm _ a]

namespace Host

variable {config : Config} {host : Host}

/-- A host is not let through without a component. -/
theorem arity_ne_empty {components : List Component}
    (h : host.verdict config = .proceed components) : Arity.of components ≠ .empty := by
  obtain ⟨-, hne, -⟩ := verdict_eq_proceed_iff.1 h
  match components, hne with
  | [_], _ => simp [Arity.of]
  | _ :: _ :: _, _ => simp [Arity.of]

/-- What a host is answered with, told by its verdict. -/
theorem emission_cases (hnames : host.NamesValid config) :
    (∃ finding : Finding, (∀ components, host.verdict config ≠ .proceed components) ∧
      host.emission config = .ok (.report (finding.report config))) ∨
    (∃ (a : Accessor) (component : Component), host.verdict config = .proceed [component] ∧
      a.exposed = .scalar component ∧ host.emission config = .ok (.scalar a)) ∨
    ∃ (v : CompanionVector) (a : Accessor) (components : List Component),
      host.verdict config = .proceed components ∧ 2 ≤ components.length ∧
      a.exposed = .vector v.name components ∧ host.emission config = .ok (.vector v a) := by
  cases hverdict : host.verdict config with
  | error finding =>
    exact .inl ⟨finding, fun _ => Verdict.noConfusion, by simp only [emission, hverdict]⟩
  | warning finding =>
    exact .inl ⟨finding, fun _ => Verdict.noConfusion, by simp only [emission, hverdict]⟩
  | proceed components =>
    obtain ⟨⟨getter, hgetter⟩, ⟨setter, hsetter⟩, hvector⟩ := hnames components hverdict
    obtain ⟨-, hne, -⟩ := verdict_eq_proceed_iff.1 hverdict
    have haccessor := fun exposed => Accessor.ofConfig_eq_ok_iff.2
      ⟨getter, setter, hgetter, hsetter, Eq.refl (Accessor.mk host.name _ _ _ exposed)⟩
    match components, hne with
    | [component], _ =>
      refine .inr (.inl ⟨⟨host.name, config.runtimePath, getter, setter, .scalar component⟩,
        component, rfl, rfl, ?_⟩)
      simp only [emission, hverdict, generate, Arity.of, haccessor, Except.map]
    | c :: c' :: cs, _ =>
      have hlength : 2 ≤ (c :: c' :: cs).length := by simp
      obtain ⟨name, hname⟩ := hvector hlength
      refine .inr (.inr ⟨⟨name, host.visibility, Fragments.ofComponents (c :: c' :: cs),
        config.runtimePath⟩,
        ⟨host.name, config.runtimePath, getter, setter, .vector name (c :: c' :: cs)⟩,
        c :: c' :: cs, rfl, hlength, rfl, ?_⟩)
      simp only [emission, hverdict, generate, Arity.of, Fragments.aligned_ofComponents, hname,
        haccessor, Except.map]

/-- Where declarations follow a host, it was let through with its components, and the declarations
are made of these: that of a single component, or the two of several. -/
theorem emission_declarations_cases {e : Emission} (h : host.emission config = .ok e)
    (hcode : e.declarations ≠ []) :
    host.verdict config = .proceed (host.components config) ∧
      ((∃ (a : Accessor) (component : Component), host.components config = [component] ∧
        Accessor.ofConfig config host.name (.scalar component) = .ok a ∧ e = .scalar a) ∨
      ∃ (name : Ident) (a : Accessor), 2 ≤ (host.components config).length ∧
        config.vectorName host.name = .ok name ∧
        Accessor.ofConfig config host.name (.vector name (host.components config)) = .ok a ∧
        e = .vector ⟨name, host.visibility, Fragments.ofComponents (host.components config),
          config.runtimePath⟩ a) := by
  have hreport : ∀ d, e ≠ .report d := by
    rintro d rfl
    exact hcode rfl
  unfold emission at h
  split at h
  · exact absurd (Except.ok.inj h).symm (hreport _)
  · exact absurd (Except.ok.inj h).symm (hreport _)
  rename_i components hverdict
  obtain ⟨rfl, hne, -⟩ := verdict_eq_proceed_iff.1 hverdict
  refine ⟨hverdict, ?_⟩
  generalize host.components config = components at h hne
  match components, hne with
  | [component], _ =>
    cases ha : Accessor.ofConfig config host.name (.scalar component) with
    | error invalid => simp only [generate, Arity.of, ha, Except.map, reduceCtorEq] at h
    | ok a =>
      simp only [generate, Arity.of, ha, Except.map, Except.ok.injEq] at h
      exact .inl ⟨a, component, rfl, ha, h.symm⟩
  | c :: c' :: cs, _ =>
    simp only [generate, Arity.of, Fragments.aligned_ofComponents] at h
    cases hname : config.vectorName host.name with
    | error invalid => simp only [hname, reduceCtorEq] at h
    | ok name =>
      rw [hname] at h
      cases ha : Accessor.ofConfig config host.name (.vector name (c :: c' :: cs)) with
      | error invalid => simp only [ha, Except.map, reduceCtorEq] at h
      | ok a =>
        simp only [ha, Except.map, Except.ok.injEq] at h
        exact .inr ⟨name, a, by simp, rfl, ha, h.symm⟩

/-- The standard names are identifiers for a host whose own name is one. -/
theorem namesValid_of_sameNames (hconfig : Config.SameNames config .standard)
    (hname : Ident.isValidText host.name.text = true) : host.NamesValid config :=
  fun _ _ => ⟨Config.getter_standard hconfig, Config.setter_standard hconfig,
    fun _ => Config.vectorName_standard hconfig hname⟩

/-- What is emitted after a host is of one of the four forms. -/
theorem exists_holds_emission (hnames : host.NamesValid config) :
    ∃ (e : Emission) (form : Tail), host.emission config = .ok e ∧ form.Holds e.tokens := by
  obtain ⟨finding, -, he⟩ | ⟨a, component, -, ha, he⟩ | ⟨v, a, components, -, -, ha, he⟩ :=
    emission_cases hnames
  · obtain ⟨form, hform⟩ := Tail.exists_holds_diagnostic (finding.report config)
    exact ⟨_, form, he, by simpa [Emission.tokens, Emission.declarations, Emission.diagnostic?]⟩
  · refine ⟨_, .scalar, he, a, component, ha, ?_⟩
    simp [Emission.tokens, Emission.declarations, Emission.diagnostic?]
  · refine ⟨_, .vector, he, v, a, components, ha, ?_⟩
    simp [Emission.tokens, Emission.declarations, Emission.diagnostic?]

end Host

/-- What follows an item under a configuration with the standard names is of one of the four
forms. -/
theorem exists_holds_itemOutput {config : Config} {item : TokenStream}
    (hconfig : Config.SameNames config .standard) (hitem : TokenStream.WellSpelled item) :
    ∃ (tail : TokenStream) (form : Tail), itemOutput config item = .ok tail ∧ form.Holds tail := by
  unfold itemOutput
  cases hread : Host.read config item with
  | error e =>
    obtain ⟨form, hform⟩ := Tail.exists_holds_diagnostic (e.report config)
    exact ⟨_, form, rfl, hform⟩
  | ok host =>
    have hname := hitem host.name (Host.name_mem_idents hread)
    obtain ⟨e, form, he, hform⟩ :=
      Host.exists_holds_emission (Host.namesValid_of_sameNames hconfig hname)
    exact ⟨e.tokens, form, by simp only [he, Except.map], hform⟩

/-! ## The answer -/

/-- `struct Sprite { x: f64, y: f64, #[animatable(ignore)] table: … }`, as a host. -/
def Sprite.host : Host where
  kind := .struct
  name := ⟨"Sprite", .callSite⟩
  visibility := []
  isGeneric := false
  traits := ["Shape"]
  fields := [x.field, { x.field with name := some ⟨"y", .token "y"⟩ }, table.field]

end Tween
