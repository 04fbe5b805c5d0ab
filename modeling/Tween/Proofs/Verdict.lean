import Tween.Proofs.Component
import Tween.Proofs.Validation

/-!
# Which verdict a host gets

The verdict on a host is told by what the host is, by the traits it derives, and by the list of its
fields that can be animated, in this order of precedence. `Host.Judged` lists the seven cases, each
with what is reported in it. The cases exclude each other and leave nothing out, so the verdict is
the one that the host is judged to (`Host.outcome_eq_iff_judged`).

* `Host.exists_judged`: one of the cases applies.
* `Host.Judged.outcome_eq`: the verdict in each of the cases.
* `Host.includes_iff`: which fields count.
-/

namespace Tween

/-- What a verdict comes to: components to generate code for, or something to report. -/
inductive Outcome where
  | proceed (components : List Component)
  | warning (d : Diagnostic)
  | error (d : Diagnostic)

/-- The verdict with its finding as it is reported. -/
def Verdict.outcome (config : Config) : Verdict → Outcome
  | .proceed components => .proceed components
  | .warning finding => .warning (finding.report config)
  | .error finding => .error (finding.report config)

/-- The supported types as they are listed for the author. -/
def Config.supportedText (config : Config) : String :=
  String.intercalate ", " (config.supportedTypes.map fun text => s!"'{text}'")

/-- Either no item has a property, or there is a first one that has it. -/
theorem forall_not_or_exists_first {α : Type} (p : α → Prop) [DecidablePred p] (xs : List α) :
    (∀ x ∈ xs, ¬ p x) ∨ ∃ front x back, xs = front ++ x :: back ∧ (∀ y ∈ front, ¬ p y) ∧ p x := by
  cases h : xs.find? (fun x => p x) with
  | none => exact .inl (by simpa using h)
  | some x =>
    obtain ⟨hx, front, back, rfl, hfront⟩ := List.find?_eq_some_iff_append.1 h
    exact .inr ⟨front, x, back, rfl, by simpa using hfront, by simpa using hx⟩

namespace Host

variable {config : Config} {host : Host} {included : List Component}

/-- The fields that can be animated, one by one: those with a name, a type and no ignore marker. -/
def Includes (config : Config) (host : Host) (included : List Component) : Prop :=
  List.Forall₂ (fun field component =>
      field.name = some component.name ∧ field.ty = some component.ty)
    (host.fields.filter (Field.isAnimated config)) included

/-- A struct without generic parameters that derives the required trait. -/
structure IsEligible (config : Config) (host : Host) : Prop where
  kind : host.kind = .struct
  not_generic : host.isGeneric = false
  trait : config.requiredTrait ∈ host.traits

/-- The cases in the order of their precedence. -/
inductive Judged (config : Config) (host : Host) (included : List Component) : Outcome → Prop
  /-- The item is no struct. -/
  | notAStruct {keyword : String} (hkind : host.kind = .other keyword) :
      Judged config host included (.error
        ⟨.notAStruct, s!"{config.attributeText} can only be applied to a struct", host.name.span⟩)
  /-- The struct has generic parameters. -/
  | unsupportedGenerics (hkind : host.kind = .struct) (hgeneric : host.isGeneric = true) :
      Judged config host included (.error
        ⟨.unsupportedGenerics,
          s!"{config.attributeText} can only be applied to structs without generic parameters",
          host.name.span⟩)
  /-- The struct does not derive the required trait. -/
  | missingCapability (hkind : host.kind = .struct) (hgeneric : host.isGeneric = false)
      (htrait : config.requiredTrait ∉ host.traits) :
      Judged config host included (.error
        ⟨.missingCapability,
          s!"{config.attributeText} can only be applied to structs that derive the " ++
            s!"{config.requiredTrait} trait", host.name.span⟩)
  /-- A field has the name of the accessor: the first of them, whatever its type. -/
  | reservedName (hhost : host.IsEligible config) {front back : List Component} {c : Component}
      (hincluded : included = front ++ c :: back)
      (hfront : ∀ b ∈ front, b.name.text ≠ config.accessorName)
      (hname : c.name.text = config.accessorName) :
      Judged config host included (.error
        ⟨.reservedNameCollision,
          s!"{config.attributeText} synthesizes '{config.accessorName}', " ++
            s!"which collides with the field '{config.accessorName}'.\n" ++
            s!"Rename the field or annotate it with '{config.markerText}'", c.name.span⟩)
  /-- A field has a type that is not supported: the first of them. -/
  | unsupportedType (hhost : host.IsEligible config)
      (hnames : ∀ b ∈ included, b.name.text ≠ config.accessorName)
      {front back : List Component} {c : Component} (hincluded : included = front ++ c :: back)
      (hfront : ∀ b ∈ front, TokenStream.compact b.ty ∈ config.supportedTypes)
      (htype : TokenStream.compact c.ty ∉ config.supportedTypes) :
      Judged config host included (.error
        ⟨.unsupportedType,
          s!"{config.markerText} is required to ignore unsupported fields.\n" ++
            s!"Currently supported types:\n{config.supportedText}\n" ++
            s!"Annotate '{c.name.text}' with '{config.markerText}':\n" ++
            s!"'{config.markerText} {c.name.text}: {TokenStream.compact c.ty}'", c.name.span⟩)
  /-- Nothing is wrong, and there is nothing to animate. -/
  | redundantUsage (hhost : host.IsEligible config) (hincluded : included = []) :
      Judged config host included (.warning
        ⟨.redundantUsage,
          s!"{config.attributeText} has no effect here because no animatable fields have been " ++
            "found. Consider adding animatable fields to make the attribute meaningful",
          host.name.span⟩)
  /-- Nothing is wrong. -/
  | proceed (hhost : host.IsEligible config) (hne : included ≠ [])
      (hnames : ∀ b ∈ included, b.name.text ≠ config.accessorName)
      (htypes : ∀ b ∈ included, TokenStream.compact b.ty ∈ config.supportedTypes) :
      Judged config host included (.proceed included)

/-- The components of a host are its included fields, and nothing else is. -/
theorem includes_iff : host.Includes config included ↔ included = host.components config := by
  constructor
  · intro h
    refine List.right_unique_forall₂' ?_ h (host.forall₂_components config)
    rintro field ⟨name, ty⟩ ⟨name', ty'⟩ ⟨hname, hty⟩ ⟨hname', hty'⟩
    simp_all
  · rintro rfl
    exact host.forall₂_components config

/-- **No host is left out**. -/
theorem exists_judged (config : Config) (host : Host) (included : List Component) :
    ∃ o, Judged config host included o := by
  cases hkind : host.kind with
  | other keyword => exact ⟨_, .notAStruct hkind⟩
  | struct =>
    cases hgeneric : host.isGeneric with
    | true => exact ⟨_, .unsupportedGenerics hkind hgeneric⟩
    | false =>
      by_cases htrait : config.requiredTrait ∈ host.traits
      · have hhost : host.IsEligible config := ⟨hkind, hgeneric, htrait⟩
        obtain hnames | ⟨front, c, back, hincluded, hfront, hname⟩ :=
          forall_not_or_exists_first (fun c : Component => c.name.text = config.accessorName)
            included
        · obtain htypes | ⟨front, c, back, hincluded, hfront, htype⟩ :=
            forall_not_or_exists_first
              (fun c : Component => TokenStream.compact c.ty ∉ config.supportedTypes) included
          · by_cases hne : included = []
            · exact ⟨_, .redundantUsage hhost hne⟩
            · exact ⟨_, .proceed hhost hne hnames (by simpa using htypes)⟩
          · exact ⟨_, .unsupportedType hhost hnames hincluded (by simpa using hfront) htype⟩
        · exact ⟨_, .reservedName hhost hincluded hfront hname⟩
      · exact ⟨_, .missingCapability hkind hgeneric htrait⟩

/-- The form of a host is looked at before the types. -/
theorem verdict_of_formFinding {finding : Finding}
    (h : host.formFinding? config (host.components config) = some finding) :
    host.verdict config = .error finding := by
  simp [verdict, h]

theorem verdict_of_typeFinding {finding : Finding}
    (hform : host.formFinding? config (host.components config) = none)
    (htype : typeFinding? config (host.components config) = some finding) :
    host.verdict config = .error finding := by
  simp [verdict, hform, htype]

/-- **The verdict in each of the cases**. -/
theorem Judged.outcome_eq {o : Outcome} (h : Judged config host (host.components config) o) :
    (host.verdict config).outcome config = o := by
  cases h with
  | notAStruct hkind =>
    have hform : host.formFinding? config (host.components config) =
        some (.notAStruct host.name) := by
      simp only [formFinding?, hkind]
    rw [verdict_of_formFinding hform]
    rfl
  | unsupportedGenerics hkind hgeneric =>
    have hform : host.formFinding? config (host.components config) =
        some (.unsupportedGenerics host.name) := by
      simp only [formFinding?, hkind, hgeneric, if_true]
    rw [verdict_of_formFinding hform]
    rfl
  | missingCapability hkind hgeneric htrait =>
    have hform : host.formFinding? config (host.components config) =
        some (.missingCapability host.name) := by
      simp [formFinding?, hkind, hgeneric, htrait]
    rw [verdict_of_formFinding hform]
    rfl
  | @reservedName hhost front back c hincluded hfront hname =>
    have hfind : (host.components config).find? (·.name.text = config.accessorName) = some c :=
      List.find?_eq_some_iff_append.2
        ⟨by simpa using hname, front, back, hincluded, by simpa using hfront⟩
    have hform : host.formFinding? config (host.components config) =
        some (.reservedName c.name) := by
      simp [formFinding?, hhost.kind, hhost.not_generic, hhost.trait, hfind]
    rw [verdict_of_formFinding hform]
    rfl
  | @unsupportedType hhost hnames front back c hincluded hfront htype =>
    have hform := formFinding?_eq_none_iff.2
      ⟨hhost.kind, hhost.not_generic, hhost.trait, hnames⟩
    have hfind : (host.components config).find?
        (fun b => !config.supports (TokenStream.compact b.ty)) = some c :=
      List.find?_eq_some_iff_append.2
        ⟨by simpa [Config.supports] using htype, front, back, hincluded,
          by simpa [Config.supports] using hfront⟩
    have htypes : typeFinding? config (host.components config) = some (.unsupportedType c) :=
      congrArg (Option.map Finding.unsupportedType) hfind
    rw [verdict_of_typeFinding hform htypes]
    rfl
  | redundantUsage hhost hincluded =>
    have hverdict : host.verdict config = .warning (.nothingToAnimate host.name) := by
      simp [verdict, formFinding?, typeFinding?, hhost.kind, hhost.not_generic, hhost.trait,
        hincluded]
    rw [hverdict]
    -- the text is cut elsewhere than in the message
    simp only [Verdict.outcome, Finding.report, Finding.message, Finding.kind, Finding.anchor,
      String.append_assoc]
    rfl
  | proceed hhost hne hnames htypes =>
    have hform := formFinding?_eq_none_iff.2
      ⟨hhost.kind, hhost.not_generic, hhost.trait, hnames⟩
    rw [verdict_eq_proceed_iff.2 ⟨rfl, hne, hform, typeFinding?_eq_none_iff.2 htypes⟩]
    rfl

/-- The verdict is told by the components. -/
theorem outcome_eq_iff {o : Outcome} : (host.verdict config).outcome config = o ↔
    Judged config host (host.components config) o := by
  constructor
  · rintro rfl
    obtain ⟨o, ho⟩ := exists_judged config host (host.components config)
    rwa [ho.outcome_eq]
  · exact Judged.outcome_eq

/-- **The verdict on a host** is the one it is judged to. There is exactly one for any host, and of
the fields it depends on the included ones only. -/
theorem outcome_eq_iff_judged (hincluded : host.Includes config included) :
    (∀ o, (host.verdict config).outcome config = o ↔ Judged config host included o) ∧
    (∃! o, Judged config host included o) ∧
    ∀ fields, Includes config { host with fields } included →
      ({ host with fields }).verdict config = host.verdict config := by
  obtain rfl := includes_iff.1 hincluded
  refine ⟨fun _ => outcome_eq_iff, ?unique, ?fields⟩
  case unique =>
    exact ⟨_, outcome_eq_iff.1 rfl, fun _ ho => ho.outcome_eq.symm⟩
  case fields =>
    intro fields hfields
    have halike : Alike config host { host with fields } :=
      ⟨rfl, rfl, rfl, rfl, rfl, (includes_iff.1 hfields).symm⟩
    exact halike.verdict_eq

end Host

/-! ### A struct in which the name of the accessor is taken, and one in which it is free -/

namespace Caption

open Code

/-- `label: String` -/
def label : Component := ⟨⟨"label", .token "label"⟩, [word "String"]⟩

/-- `animatable_data: u8` -/
def data : Component := ⟨⟨"animatable_data", .token "data"⟩, [word "u8"]⟩

/-- `size: f64` -/
def size : Component := ⟨⟨"size", .token "size"⟩, [word "f64"]⟩

/-- `text: Option < String >` -/
def text : Component :=
  ⟨⟨"text", .token "text"⟩, [word "Option", mark '<', word "String", mark '>']⟩

/-- The component as a field. -/
def field (c : Component) : Field := ⟨some c.name, some c.ty, []⟩

/-- A struct with these fields, behind one with the name of the accessor that is ignored and one
that has no name. -/
def host (components : List Component) : Host where
  kind := .struct
  name := ⟨"Caption", .callSite⟩
  visibility := []
  isGeneric := false
  traits := ["Shape"]
  fields := ⟨some ⟨"animatable_data", .callSite⟩, some [word "u8"], [⟨"ignore", .callSite⟩]⟩ ::
    ⟨none, some [word "u8"], []⟩ :: components.map field

end Caption

/-- The name of the accessor is found first, though a field in front of it has a type that is not
supported. Where the name is free, the first of two such types is found. -/
theorem outcome_eq_iff_judged_caption :
    (Host.Includes .standard (Caption.host [Caption.label, Caption.data])
        [Caption.label, Caption.data] ∧
      ((Caption.host [Caption.label, Caption.data]).verdict .standard).outcome .standard = .error
        ⟨.reservedNameCollision,
          "#[animatable] synthesizes 'animatable_data', which collides with the field " ++
            "'animatable_data'.\nRename the field or annotate it with '#[animatable(ignore)]'",
          .token "data"⟩) ∧
    Host.Includes .standard (Caption.host [Caption.size, Caption.text, Caption.label])
        [Caption.size, Caption.text, Caption.label] ∧
      ((Caption.host [Caption.size, Caption.text, Caption.label]).verdict .standard).outcome
          .standard = .error
        ⟨.unsupportedType,
          "#[animatable(ignore)] is required to ignore unsupported fields.\n" ++
            "Currently supported types:\n'f32', 'f64'\n" ++
            "Annotate 'text' with '#[animatable(ignore)]':\n" ++
            "'#[animatable(ignore)] text: Option<String>'",
          .token "text"⟩ := by
  have hlabel : Host.Includes .standard (Caption.host [Caption.label, Caption.data])
      [Caption.label, Caption.data] := .cons ⟨rfl, rfl⟩ (.cons ⟨rfl, rfl⟩ .nil)
  have hsize : Host.Includes .standard (Caption.host [Caption.size, Caption.text, Caption.label])
      [Caption.size, Caption.text, Caption.label] :=
    .cons ⟨rfl, rfl⟩ (.cons ⟨rfl, rfl⟩ (.cons ⟨rfl, rfl⟩ .nil))
  refine ⟨⟨hlabel, ((Host.outcome_eq_iff_judged hlabel).1 _).2 ?name⟩, hsize,
    ((Host.outcome_eq_iff_judged hsize).1 _).2 ?type⟩
  case name =>
    exact @Host.Judged.reservedName .standard (Caption.host _) _ ⟨rfl, rfl, by decide⟩
      [Caption.label] [] Caption.data rfl (by decide) rfl
  case type =>
    exact @Host.Judged.unsupportedType .standard (Caption.host _) _ ⟨rfl, rfl, by decide⟩
      (by decide) [Caption.size] [Caption.label] Caption.text rfl (by decide) (by decide)

end Tween
