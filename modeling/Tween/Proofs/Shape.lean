import Tween.Proofs.Config.Grammar
import Tween.Proofs.Host.Written
import Tween.Shape
import Tween.Token.Render

/-!
# What deriving `Shape` answers

The derive answers an item in one of five ways (`Shape.Answers`): it reports why the item is no
host, its generic parameters, the first attribute called `shape` that has no arguments, arguments
that are no list of `crate = path`, or it implements the trait, along the path that is named last.

* `Shape.derive_eq_iff_answers`: every item is answered in exactly one of these ways, with a single
  error if it is not the implementation.
* `Shape.rejects_generics_iff`: generic parameters are reported on a struct. On an enum and on a
  union they are not looked at.
-/

namespace Tween

open Code TokenStream

/-! ## Helper attributes and their arguments -/

namespace Attribute

/-- The body begins with this word. -/
def isCalled (name : String) (a : Attribute) : Bool :=
  match a.body with
  | .ident word :: _ => word.text = name
  | _ => false

/-- The body is a word and one parenthesis group that holds the arguments. -/
def HasArguments (a : Attribute) (arguments : TokenStream) : Prop :=
  ∃ word span, a.body = [.ident word, .group .parenthesis span arguments]

variable {a : Attribute} {name : String} {arguments : TokenStream}

theorem isCalled_iff : a.isCalled name = true ↔ ∃ word, a.nameIs? name = some word := by
  unfold isCalled
  constructor
  · intro h
    split at h
    · rename_i word rest hbody
      exact ⟨word, nameIs?_eq_some.2 ⟨by simpa using h, rest, hbody⟩⟩
    · cases h
  · rintro ⟨word, hword⟩
    obtain ⟨htext, rest, hbody⟩ := nameIs?_eq_some.1 hword
    simpa [hbody] using htext

theorem helperArguments_of_not_isCalled (ha : a.isCalled name = false) :
    a.helperArguments name = .ok [] := by
  have hnone : a.nameIs? name = none := by
    cases hword : a.nameIs? name with
    | none => rfl
    | some word =>
      rw [isCalled_iff.2 ⟨word, hword⟩] at ha
      cases ha
  rw [helperArguments, hnone]

theorem helperArguments_eq_ok_iff (ha : a.isCalled name = true) {found : List TokenStream} :
    a.helperArguments name = .ok found ↔ ∃ arguments, a.HasArguments arguments ∧
      found = [arguments] := by
  obtain ⟨word, hword⟩ := isCalled_iff.1 ha
  simp only [helperArguments, hword, HasArguments, ← arguments?_eq_some]
  cases a.arguments? <;> simp [eq_comm]

theorem helperArguments_eq_error_iff (ha : a.isCalled name = true) {e : HelperError} :
    a.helperArguments name = .error e ↔ (∀ arguments, ¬ a.HasArguments arguments) ∧
      ∃ word rest, a.body = .ident word :: rest ∧ e = .malformed word := by
  obtain ⟨word, hword⟩ := isCalled_iff.1 ha
  obtain ⟨-, rest, hbody⟩ := nameIs?_eq_some.1 hword
  simp only [helperArguments, hword, HasArguments, ← arguments?_eq_some]
  cases a.arguments? <;> simp [hbody, eq_comm]

end Attribute

/-- The configuration with the last of the given paths, or its own if there is none. -/
def Config.withLastPath (config : Config) (paths : List TokenStream) : Config :=
  { config with runtimePath := paths.getLast?.getD config.runtimePath }

theorem Config.withShapeArguments?_eq_some_iff {config config' : Config}
    {arguments : TokenStream} :
    config.withShapeArguments? arguments = some config' ↔
      ∃ paths, SetsPaths arguments paths ∧ config' = config.withLastPath paths := by
  simp only [withShapeArguments?, Option.map_eq_some_iff, commaList?_runtimePath?_eq_some_iff,
    withLastPath, @eq_comm _ config']

theorem Config.withLastPath_append (config : Config) (paths paths' : List TokenStream) :
    (config.withLastPath paths).withLastPath paths' = config.withLastPath (paths ++ paths') := by
  simp [withLastPath, List.getLast?_append, Option.getD_or]

namespace Shape

/-- **Of several helpers** the path named last counts. -/
theorem applyHelpers?_eq_some_iff {config config' : Config} {helpers : List TokenStream} :
    applyHelpers? config helpers = some config' ↔
      ∃ paths, List.Forall₂ SetsPaths helpers paths ∧
        config' = config.withLastPath paths.flatten := by
  induction helpers generalizing config with
  | nil =>
    constructor
    · intro h
      cases h
      exact ⟨[], .nil, rfl⟩
    · rintro ⟨paths, h, rfl⟩
      cases h
      rfl
  | cons arguments helpers ih =>
    have hstep : applyHelpers? config (arguments :: helpers) =
        (config.withShapeArguments? arguments).bind (applyHelpers? · helpers) := rfl
    simp only [hstep, Option.bind_eq_some_iff, Config.withShapeArguments?_eq_some_iff, ih]
    constructor
    · rintro ⟨_, ⟨first, hfirst, rfl⟩, paths, hpaths, rfl⟩
      exact ⟨first :: paths, .cons hfirst hpaths, Config.withLastPath_append _ _ _⟩
    · rintro ⟨_, h, rfl⟩
      cases h with
      | @cons _ first _ paths hfirst hpaths =>
        exact ⟨_, ⟨first, hfirst, rfl⟩, paths, hpaths, (Config.withLastPath_append _ _ _).symm⟩

theorem applyHelpers?_eq_none_iff {config : Config} {helpers : List TokenStream} :
    applyHelpers? config helpers = none ↔
      ∃ arguments ∈ helpers, ∀ paths, ¬ SetsPaths arguments paths := by
  have hnone : applyHelpers? config helpers = none ↔
      ¬ ∃ paths, List.Forall₂ SetsPaths helpers paths := by
    rw [Option.eq_none_iff_forall_ne_some]
    constructor
    · rintro h ⟨paths, hpaths⟩
      exact h _ (applyHelpers?_eq_some_iff.2 ⟨paths, hpaths, rfl⟩)
    · intro h config' hconfig
      obtain ⟨paths, hpaths, -⟩ := applyHelpers?_eq_some_iff.1 hconfig
      exact h ⟨paths, hpaths⟩
  rw [hnone, exists_forall₂_iff]
  push Not
  rfl

end Shape

/-! ## The helper attributes of an item -/

/-- The answers for the first item stand in front of those for the others. -/
theorem map_flatten_mapM_cons {α β ε : Type} {f : α → Except ε (List β)} {x : α} {ys : List β}
    (hx : f x = .ok ys) (xs : List α) :
    ((x :: xs).mapM f).map List.flatten = ((xs.mapM f).map List.flatten).map (ys ++ ·) := by
  rw [List.mapM_cons, hx]
  cases xs.mapM f <;> rfl

namespace Attribute

variable {name : String} {attributes : List Attribute}

/-- **The arguments of all helpers** are found if every attribute called by the name has some. -/
theorem mapM_helperArguments_eq_ok_iff {found : List TokenStream} :
    (attributes.mapM (helperArguments name)).map List.flatten = .ok found ↔
      List.Forall₂ HasArguments (attributes.filter (·.isCalled name)) found := by
  induction attributes generalizing found with
  | nil => cases found <;> simp [pure, Except.pure, Except.map]
  | cons a attributes ih =>
    cases ha : a.isCalled name with
    | false =>
      rw [List.filter_cons_of_neg (by simp [ha]), ← ih,
        map_flatten_mapM_cons (helperArguments_of_not_isCalled ha)]
      cases attributes.mapM (helperArguments name) <;> rfl
    | true =>
      rw [List.filter_cons_of_pos ha, List.forall₂_cons_left_iff]
      constructor
      · intro h
        cases hfirst : a.helperArguments name with
        | error e =>
          rw [List.mapM_cons, hfirst] at h
          cases h
        | ok first =>
          obtain ⟨arguments, harguments, rfl⟩ := (helperArguments_eq_ok_iff ha).1 hfirst
          rw [map_flatten_mapM_cons hfirst] at h
          cases hrest : (attributes.mapM (helperArguments name)).map List.flatten with
          | error e =>
            rw [hrest] at h
            cases h
          | ok rest =>
            rw [hrest] at h
            cases h
            exact ⟨arguments, rest, harguments, ih.1 hrest, rfl⟩
      · rintro ⟨arguments, rest, harguments, hrest, rfl⟩
        have hfirst := (helperArguments_eq_ok_iff ha).2 ⟨arguments, harguments, rfl⟩
        rw [map_flatten_mapM_cons hfirst, ih.2 hrest]
        rfl

/-- **The first helper without arguments** is the one refused. -/
theorem mapM_helperArguments_eq_error_iff {e : HelperError} :
    attributes.mapM (helperArguments name) = .error e ↔ ∃ front a back,
      attributes = front ++ a :: back ∧
      (∀ b ∈ front, b.isCalled name = true → ∃ arguments, b.HasArguments arguments) ∧
      a.isCalled name = true ∧ (∀ arguments, ¬ a.HasArguments arguments) ∧
      ∃ word rest, a.body = .ident word :: rest ∧ e = .malformed word := by
  have hfront : ∀ b : Attribute, (∃ found, b.helperArguments name = .ok found) ↔
      (b.isCalled name = true → ∃ arguments, b.HasArguments arguments) := by
    intro b
    cases hb : b.isCalled name with
    | false => simp [helperArguments_of_not_isCalled hb]
    | true => simp [helperArguments_eq_ok_iff hb]
  have hfirst : ∀ a : Attribute, a.helperArguments name = .error e ↔
      a.isCalled name = true ∧ (∀ arguments, ¬ a.HasArguments arguments) ∧
        ∃ word rest, a.body = .ident word :: rest ∧ e = .malformed word := by
    intro a
    cases ha : a.isCalled name with
    | false => simp [helperArguments_of_not_isCalled ha]
    | true => simp [helperArguments_eq_error_iff ha]
  simp only [mapM_eq_error_iff, hfront, hfirst]

end Attribute

namespace Shape

/-- The item declares this host, without generic parameters, behind these attributes. -/
structure Declares (item : TokenStream) (host : Host) (attributes : List Attribute) : Prop where
  read : Host.read .standard item = .ok host
  not_generic : host.isGeneric = false
  attributes : ∃ d : Declaration, TokenStream.dissolve item = d.tokens ∧ d.IsWritten ∧
    attributes = d.attributes

variable {item : TokenStream} {host : Host} {attributes : List Attribute}

theorem exists_declares (hread : Host.read .standard item = .ok host)
    (hgeneric : host.isGeneric = false) : ∃ attributes, Declares item host attributes := by
  obtain ⟨hitem, hwritten⟩ :=
    Declaration.read_eq_iff.1 (Eq.refl (Declaration.read (TokenStream.dissolve item)))
  exact ⟨_, hread, hgeneric, _, hitem, hwritten, rfl⟩

/-- What is derived for an item with a host, told by its attributes. -/
theorem Declares.derive_eq (h : Declares item host attributes) :
    derive item =
      match (attributes.mapM (Attribute.helperArguments "shape")).map List.flatten with
      | .error e => .error e.report
      | .ok helpers =>
        match applyHelpers? .standard helpers with
        | none => .error (.invalidShapeArguments host.name.span)
        | some config => .ok (impl config.runtimePath host.name) := by
  have hhelpers : helperArguments "shape" item =
      (attributes.mapM (Attribute.helperArguments "shape")).map List.flatten := by
    obtain ⟨d, hitem, hwritten, rfl⟩ := h.attributes
    have hd : Declaration.read (TokenStream.dissolve item) = d :=
      Declaration.read_eq_iff.2 ⟨hitem, hwritten⟩
    have hread := h.read
    rw [Host.read, hd, Host.ofDeclaration_eq_ok_iff] at hread
    -- an item that declares a host has a keyword, so the helpers are looked for
    obtain ⟨keyword, rest, hcontent, -⟩ | ⟨keyword, name, rest, _, _, hcontent, -⟩ := hread
    · simp only [helperArguments, hd, hcontent]
    · simp only [helperArguments, hd, hcontent]
  have hplain : ¬host.isGeneric = true := by rw [h.not_generic]; exact Bool.false_ne_true
  rw [← hhelpers, derive, h.read]
  exact if_neg hplain

/-! ## The five answers -/

/-- **What an item is answered with.** Each case presupposes that none of those before it applies.
The path of an implementation is the last that the attributes called `shape` name, whatever
attributes of other names say. -/
inductive Answers (item : TokenStream) : Except Diagnostic TokenStream → Prop
  /-- The item is no host. -/
  | unreadable {e : HostError} (hread : Host.read .standard item = .error e) :
      Answers item (.error (e.report .standard))
  /-- It has generic parameters. -/
  | generic {host : Host} (hread : Host.read .standard item = .ok host)
      (hgeneric : host.isGeneric = true) :
      Answers item (.error ⟨.unsupportedGenerics,
        "#[derive(Shape)] does not support generic parameters", host.name.span⟩)
  /-- An attribute called `shape`, the first of them, has no arguments. -/
  | malformed {host : Host} {front back : List Attribute} {a : Attribute} {word : Ident}
      {rest : TokenStream} (hitem : Declares item host (front ++ a :: back))
      (hfront : ∀ b ∈ front, b.isCalled "shape" = true → ∃ arguments, b.HasArguments arguments)
      (ha : a.isCalled "shape" = true) (hbody : a.body = .ident word :: rest)
      (harguments : ∀ arguments, ¬ a.HasArguments arguments) :
      Answers item (.error ⟨.invalidArguments, "expected `#[shape(...)]`", word.span⟩)
  /-- All of them have arguments, but some are no list of `crate = path`. -/
  | badArguments {host : Host} {attributes : List Attribute} {helpers : List TokenStream}
      (hitem : Declares item host attributes)
      (hhelpers : List.Forall₂ Attribute.HasArguments (attributes.filter (·.isCalled "shape"))
        helpers)
      (hbad : ∃ arguments ∈ helpers, ∀ paths, ¬ SetsPaths arguments paths) :
      Answers item (.error ⟨.invalidArguments,
        "invalid #[shape] arguments: expected `crate = path`", host.name.span⟩)
  /-- All of them name paths: `# [automatically_derived] impl path :: Shape for name { }`. -/
  | implemented {host : Host} {attributes : List Attribute} {helpers : List TokenStream}
      {paths : List (List TokenStream)} (hitem : Declares item host attributes)
      (hhelpers : List.Forall₂ Attribute.HasArguments (attributes.filter (·.isCalled "shape"))
        helpers)
      (hpaths : List.Forall₂ SetsPaths helpers paths) :
      Answers item (.ok (
        [mark '#', brackets [word "automatically_derived"], word "impl"] ++
        paths.flatten.getLast?.getD (operator ':' ':' ++ [word "animatable"]) ++
        operator ':' ':' ++ [word "Shape", word "for", .ident host.name, braces []]))

/-- An answer as it is emitted: the code, or `:: core :: compile_error ! ("message") ;` at the place
that the message is about. -/
def emitted : Except Diagnostic TokenStream → TokenStream
  | .ok code => code
  | .error d =>
    TokenStream.anchoredAt d.span (operator ':' ':' ++ [word "core"] ++ operator ':' ':' ++
      [word "compile_error", mark '!']) ++
    [.group .parenthesis d.span [literal (Text.Quoted.quote d.message)],
      .punct ⟨';', .alone, d.span⟩]

theorem output_eq_emitted (h : ∀ d, derive item = .error d → d.severity = .error) :
    output item = emitted (derive item) := by
  unfold output
  cases hderive : derive item with
  | ok code => rfl
  | error d =>
    simp only [Diagnostic.tokens, h d hderive]
    rfl

theorem report_malformed {a : Attribute} {word : Ident} {rest : TokenStream}
    (ha : a.isCalled "shape" = true) (hbody : a.body = .ident word :: rest) :
    (HelperError.malformed word).report =
      ⟨.invalidArguments, "expected `#[shape(...)]`", word.span⟩ := by
  have htext : word.text = "shape" := by simpa [Attribute.isCalled, hbody] using ha
  rw [HelperError.report, htext]
  rfl

/-- The implementation along the last of the paths, token by token. -/
theorem impl_withLastPath (paths : List TokenStream) (name : Ident) :
    impl (Config.standard.withLastPath paths).runtimePath name =
      [mark '#', brackets [word "automatically_derived"], word "impl"] ++
      paths.getLast?.getD (operator ':' ':' ++ [word "animatable"]) ++
      operator ':' ':' ++ [word "Shape", word "for", .ident name, braces []] := by
  have hpath : (Config.standard.withLastPath paths).runtimePath =
      paths.getLast?.getD (operator ':' ':' ++ [word "animatable"]) := rfl
  rw [hpath, impl]
  simp [pounded, segments]

/-- Every item gets one of the answers. -/
theorem answers_derive (item : TokenStream) : Answers item (derive item) := by
  cases hread : Host.read .standard item with
  | error e =>
    have hderive : derive item = .error (e.report .standard) := by simp only [derive, hread]
    rw [hderive]
    exact .unreadable hread
  | ok host =>
    cases hgeneric : host.isGeneric with
    | true =>
      have hderive : derive item = .error (genericsReport host.name) := by
        simp only [derive, hread, hgeneric, if_true]
      rw [hderive]
      exact .generic hread hgeneric
    | false =>
      obtain ⟨attributes, hitem⟩ := exists_declares hread hgeneric
      rw [hitem.derive_eq]
      cases hfound : attributes.mapM (Attribute.helperArguments "shape") with
      | error e =>
        obtain ⟨front, a, back, rfl, hfront, ha, harguments, word, rest, hbody, rfl⟩ :=
          Attribute.mapM_helperArguments_eq_error_iff.1 hfound
        simp only [Except.map, report_malformed ha hbody]
        exact .malformed hitem hfront ha hbody harguments
      | ok found =>
        have hhelpers := Attribute.mapM_helperArguments_eq_ok_iff.1 (congrArg _ hfound)
        simp only [Except.map]
        cases happly : applyHelpers? .standard found.flatten with
        | none => exact .badArguments hitem hhelpers (applyHelpers?_eq_none_iff.1 happly)
        | some config =>
          obtain ⟨paths, hpaths, rfl⟩ := applyHelpers?_eq_some_iff.1 happly
          simp only [impl_withLastPath]
          exact .implemented hitem hhelpers hpaths

/-- No item gets another answer than the one derived. -/
theorem Answers.derive_eq {answer : Except Diagnostic TokenStream} (h : Answers item answer) :
    derive item = answer := by
  cases h with
  | unreadable hread => simp only [derive, hread]
  | generic hread hgeneric =>
    simp only [derive, hread, hgeneric, if_true]
    rfl
  | @malformed host front back a word rest hitem hfront ha hbody harguments =>
    have hfound := Attribute.mapM_helperArguments_eq_error_iff.2
      ⟨front, a, back, rfl, hfront, ha, harguments, word, rest, hbody, rfl⟩
    simp only [hitem.derive_eq, hfound, Except.map, report_malformed ha hbody]
  | badArguments hitem hhelpers hbad =>
    have hfound := Attribute.mapM_helperArguments_eq_ok_iff.2 hhelpers
    simp only [hitem.derive_eq, hfound, applyHelpers?_eq_none_iff.2 hbad]
    rfl
  | implemented hitem hhelpers hpaths =>
    have hfound := Attribute.mapM_helperArguments_eq_ok_iff.2 hhelpers
    simp only [hitem.derive_eq, hfound, applyHelpers?_eq_some_iff.2 ⟨_, hpaths, rfl⟩,
      impl_withLastPath]

/-- No answer is a warning. -/
theorem Answers.severity_eq {d : Diagnostic} (h : Answers item (.error d)) :
    d.severity = .error := by
  cases h with
  | unreadable hread =>
    rename_i e
    cases e with
    | badMarker cause => cases cause <;> rfl
    | _ => rfl
  | _ => rfl

/-- **Every item is answered in exactly one way**, and what is emitted is that answer: the
implementation, or a single error. -/
theorem derive_eq_iff_answers (item : TokenStream) :
    (∀ answer, derive item = answer ↔ Answers item answer) ∧
      output item = emitted (derive item) := by
  have hanswers : ∀ answer, derive item = answer ↔ Answers item answer := by
    intro answer
    constructor
    · rintro rfl
      exact answers_derive item
    · exact Answers.derive_eq
  exact ⟨hanswers, output_eq_emitted fun d hderive => ((hanswers _).1 hderive).severity_eq⟩

/-- `struct Circle` behind the given attributes. -/
def circleHead (attributes : TokenStream) : TokenStream :=
  attributes ++ [word "struct", .ident ⟨"Circle", .token "Circle"⟩]

/-- `struct Circle { #[shape(crate = inner)] radius: f64 }` behind the given attributes. -/
def circle (attributes : TokenStream) : TokenStream :=
  circleHead attributes ++ [braces (
    pounded [word "shape", parens [word "crate", mark '=', word "inner"]] ++
    [word "radius", mark ':', word "f64"])]

/-- `#[shape(arguments)]`, the word at the place of that label. -/
def helper (label : String) (arguments : TokenStream) : TokenStream :=
  pounded [.ident ⟨"shape", .token label⟩, parens arguments]

/-- Of three paths in two helpers the last one counts, and neither an attribute of another name nor
one on a field is looked at. Without a helper the path is the standard one. A helper with bad
arguments is reported last: a field that is none, generic parameters and a helper without arguments
are each reported before it. -/
theorem derive_circle :
    output (circle (pounded [word "doc", parens [word "crate", mark '=', word "x"]] ++
        helper "first" [word "crate", mark '=', word "a", mark ',', word "crate", mark '=',
          word "b", mark ','] ++
        helper "second" ([word "crate", mark '=', word "crate"] ++ segments ["runtime"]))) =
      [.punct ⟨'#', .alone, .callSite⟩,
        .group .bracket .callSite [.ident ⟨"automatically_derived", .callSite⟩],
        .ident ⟨"impl", .callSite⟩, .ident ⟨"crate", .callSite⟩,
        .punct ⟨':', .joint, .callSite⟩, .punct ⟨':', .alone, .callSite⟩,
        .ident ⟨"runtime", .callSite⟩,
        .punct ⟨':', .joint, .callSite⟩, .punct ⟨':', .alone, .callSite⟩,
        .ident ⟨"Shape", .callSite⟩, .ident ⟨"for", .callSite⟩, .ident ⟨"Circle", .token "Circle"⟩,
        .group .brace .callSite []] ∧
    TokenStream.render (output (circle [])) =
      "# [automatically_derived] impl :: animatable :: Shape for Circle \x7b \x7d" ∧
    Answers (circleHead (helper "first" [word "types"]) ++ [braces [mark '+']])
      (.error ⟨.internalInvariant,
        "something went wrong: could not parse a field of `Circle`: <parse error>",
        .token "Circle"⟩) ∧
    Answers (circleHead (helper "first" [word "types"]) ++ [mark '<', word "T", mark '>', braces []])
      (.error ⟨.unsupportedGenerics, "#[derive(Shape)] does not support generic parameters",
        .token "Circle"⟩) ∧
    Answers (circle (helper "first" [word "types"] ++ pounded [.ident ⟨"shape", .token "second"⟩]))
      (.error ⟨.invalidArguments, "expected `#[shape(...)]`", .token "second"⟩) ∧
    output (circle (helper "first" [word "types"])) =
      [.punct ⟨':', .joint, .token "Circle"⟩, .punct ⟨':', .alone, .token "Circle"⟩,
        .ident ⟨"core", .token "Circle"⟩,
        .punct ⟨':', .joint, .token "Circle"⟩, .punct ⟨':', .alone, .token "Circle"⟩,
        .ident ⟨"compile_error", .token "Circle"⟩, .punct ⟨'!', .alone, .token "Circle"⟩,
        .group .parenthesis (.token "Circle") [.literal
          ⟨"\"invalid #[shape] arguments: expected `crate = path`\"", .callSite⟩],
        .punct ⟨';', .alone, .token "Circle"⟩] := by
  refine ⟨(derive_eq_iff_answers _).2.trans rfl, ?path, ((derive_eq_iff_answers _).1 _).1 rfl,
    ((derive_eq_iff_answers _).1 _).1 rfl, ((derive_eq_iff_answers _).1 _).1 rfl,
    (derive_eq_iff_answers _).2.trans rfl⟩
  case path =>
    rw [(derive_eq_iff_answers _).2]
    rfl

/-! ## Generic parameters -/

/-- What stands in front of the name of an item, and the name. -/
structure Head where
  attributes : List Attribute
  visibility : Visibility
  keyword : Ident
  name : Ident
  attributes_written : ∀ a ∈ attributes, a.IsWritten
  visibility_written : visibility.IsWritten
  keyword_mem : keyword.text ∈ ["struct", "enum", "union"]

namespace Head

variable (h : Head)

/-- The head as tokens. -/
def tokens : TokenStream :=
  h.attributes.flatMap Attribute.tokens ++ h.visibility.tokens ++ [.ident h.keyword, .ident h.name]

theorem read_append {rest : TokenStream} (hitem : TokenStream.dissolve item = h.tokens ++ rest) :
    Declaration.read (TokenStream.dissolve item) =
      ⟨h.attributes, h.visibility, .ident h.keyword :: .ident h.name :: rest⟩ := by
  have htokens : TokenStream.dissolve item = Declaration.tokens
      ⟨h.attributes, h.visibility, .ident h.keyword :: .ident h.name :: rest⟩ := by
    rw [hitem, tokens, Declaration.tokens]
    simp
  have hkeyword : h.keyword.text ≠ "pub" := by
    intro hpub
    have hmem := h.keyword_mem
    rw [hpub] at hmem
    exact absurd hmem (by decide)
  rw [htokens]
  exact Declaration.read_tokens h.attributes_written h.visibility_written rfl fun _ => hkeyword

/-- The parameters of a struct are found behind its name. -/
theorem read_struct_generic {mark : Punct} {rest : TokenStream}
    (hkeyword : h.keyword.text = "struct") (hmark : mark.char = '<')
    (hitem : TokenStream.dissolve item = h.tokens ++ .punct mark :: rest) :
    Host.read .standard item = .ok (Host.ofStruct
      ⟨h.attributes, h.visibility, .ident h.keyword :: .ident h.name :: .punct mark :: rest⟩
      h.name .generic []) := by
  rw [Host.read, h.read_append hitem, Host.ofDeclaration_eq_ok_iff]
  exact .inr ⟨h.keyword, h.name, .punct mark :: rest, .generic, [], rfl, hkeyword,
    .generic hmark rest, rfl, rfl⟩

/-- Nothing behind the name of an enum or a union is looked at. -/
theorem read_other {rest : TokenStream} (hkeyword : h.keyword.text ≠ "struct")
    (hitem : TokenStream.dissolve item = h.tokens ++ rest) :
    Host.read .standard item = .ok
      { kind := .other h.keyword.text
        name := h.name
        visibility := h.visibility.tokens
        isGeneric := false
        traits := h.attributes.flatMap Attribute.derivedTraits
        fields := [] } := by
  rw [Host.read, h.read_append hitem, Host.ofDeclaration_eq_ok_iff]
  exact .inl ⟨h.keyword, .ident h.name :: rest, rfl, hkeyword, rfl⟩

end Head

/-- Where the item declares a host without generic parameters, none are reported. -/
theorem Declares.derive_ne_generics (h : Declares item host attributes) {d : Diagnostic}
    (hderive : derive item = .error d) : d.kind ≠ .unsupportedGenerics := by
  rw [h.derive_eq] at hderive
  split at hderive
  · rename_i e _
    cases hderive
    cases e <;> exact DiagnosticKind.noConfusion
  · split at hderive
    · cases hderive
      exact DiagnosticKind.noConfusion
    · cases hderive

/-- **Generic parameters are reported on a struct**, with one error at its name, and on nothing
else. An enum or a union with parameters is answered as if nothing stood behind its name, so that an
implementation leaves them out. -/
theorem rejects_generics_iff (h : Head) {mark : Punct} {rest : TokenStream}
    (hmark : mark.char = '<')
    (hitem : TokenStream.dissolve item = h.tokens ++ .punct mark :: rest) :
    (derive item = .error ⟨.unsupportedGenerics,
        "#[derive(Shape)] does not support generic parameters", h.name.span⟩ ↔
      h.keyword.text = "struct") ∧
      (h.keyword.text = "struct" → output item = emitted (.error ⟨.unsupportedGenerics,
        "#[derive(Shape)] does not support generic parameters", h.name.span⟩)) ∧
      (h.keyword.text ≠ "struct" → ∀ plain, TokenStream.dissolve plain = h.tokens →
        derive item = derive plain) := by
  have hdeclares : h.keyword.text ≠ "struct" → ∀ {ts rest : TokenStream},
      TokenStream.dissolve ts = h.tokens ++ rest → Declares ts
        { kind := .other h.keyword.text
          name := h.name
          visibility := h.visibility.tokens
          isGeneric := false
          traits := h.attributes.flatMap Attribute.derivedTraits
          fields := [] } h.attributes := by
    intro hkeyword ts rest hts
    obtain ⟨htokens, hwritten⟩ := Declaration.read_eq_iff.1 (h.read_append hts)
    exact ⟨h.read_other hkeyword hts, rfl, _, htokens, hwritten, rfl⟩
  have hstruct : h.keyword.text = "struct" → derive item = .error ⟨.unsupportedGenerics,
      "#[derive(Shape)] does not support generic parameters", h.name.span⟩ := by
    intro hkeyword
    have hgeneric := Answers.generic (h.read_struct_generic hkeyword hmark hitem) rfl
    exact hgeneric.derive_eq
  refine ⟨⟨fun hgenerics => ?_, hstruct⟩, fun hkeyword => ?_, fun hkeyword plain hplain => ?_⟩
  · by_contra hkeyword
    exact (hdeclares hkeyword hitem).derive_ne_generics hgenerics rfl
  · simp only [output, hstruct hkeyword]
    rfl
  · have hplain : TokenStream.dissolve plain = h.tokens ++ [] := by rw [hplain, List.append_nil]
    rw [(hdeclares hkeyword hitem).derive_eq, (hdeclares hkeyword hplain).derive_eq]

/-- `keyword Choice` -/
def choice (keyword : String) (hkeyword : keyword ∈ ["struct", "enum", "union"]) : Head where
  attributes := []
  visibility := .inherited
  keyword := ⟨keyword, .callSite⟩
  name := ⟨"Choice", .token "Choice"⟩
  attributes_written := List.forall_mem_nil Attribute.IsWritten
  visibility_written := trivial
  keyword_mem := hkeyword

/-- `<T> { contents }` -/
def parameters (contents : TokenStream) : TokenStream :=
  [mark '<', word "T", mark '>', braces contents]

/-- The parameters of `struct Choice<T> { left: T }` are reported, those of the union with the same
body are not looked at. -/
theorem rejects_generics_choice :
    derive ((choice "struct" (by decide)).tokens ++
          parameters [word "left", mark ':', word "T"]) =
        .error ⟨.unsupportedGenerics, "#[derive(Shape)] does not support generic parameters",
          .token "Choice"⟩ ∧
      output ((choice "struct" (by decide)).tokens ++
          parameters [word "left", mark ':', word "T"]) =
        [.punct ⟨':', .joint, .token "Choice"⟩, .punct ⟨':', .alone, .token "Choice"⟩,
          .ident ⟨"core", .token "Choice"⟩,
          .punct ⟨':', .joint, .token "Choice"⟩, .punct ⟨':', .alone, .token "Choice"⟩,
          .ident ⟨"compile_error", .token "Choice"⟩, .punct ⟨'!', .alone, .token "Choice"⟩,
          .group .parenthesis (.token "Choice") [.literal
            ⟨"\"#[derive(Shape)] does not support generic parameters\"", .callSite⟩],
          .punct ⟨';', .alone, .token "Choice"⟩] ∧
      derive ((choice "union" (by decide)).tokens ++
          parameters [word "left", mark ':', word "T"]) =
        derive (choice "union" (by decide)).tokens := by
  have hdissolve : ∀ keyword hkeyword, TokenStream.dissolve ((choice keyword hkeyword).tokens ++
      parameters [word "left", mark ':', word "T"]) =
        (choice keyword hkeyword).tokens ++ parameters [word "left", mark ':', word "T"] :=
    fun _ _ => rfl
  have hstruct := rejects_generics_iff (choice "struct" (by decide)) (by rfl) (hdissolve _ _)
  have hunion := rejects_generics_iff (choice "union" (by decide)) (by rfl) (hdissolve _ _)
  exact ⟨hstruct.1.2 rfl, (hstruct.2.1 rfl).trans rfl, hunion.2.2 (by decide) _ rfl⟩

/-- The implementation for `enum Choice<T> { Left(T) }` leaves the parameter out. -/
theorem output_generic_enum :
    output ((choice "enum" (by decide)).tokens ++ parameters [word "Left", parens [word "T"]]) =
        [mark '#', brackets [word "automatically_derived"], word "impl"] ++
        operator ':' ':' ++ [word "animatable"] ++ operator ':' ':' ++
        [word "Shape", word "for", .ident ⟨"Choice", .token "Choice"⟩, braces []] ∧
      output ((choice "enum" (by decide)).tokens ++ parameters [word "Left", parens [word "T"]]) ≠
        emitted (.error ⟨.unsupportedGenerics,
          "#[derive(Shape)] does not support generic parameters", .token "Choice"⟩) := by
  have houtput : output ((choice "enum" (by decide)).tokens ++
      parameters [word "Left", parens [word "T"]]) =
        [mark '#', brackets [word "automatically_derived"], word "impl"] ++
        operator ':' ':' ++ [word "animatable"] ++ operator ':' ':' ++
        [word "Shape", word "for", .ident ⟨"Choice", .token "Choice"⟩, braces []] := rfl
  refine ⟨houtput, fun hreport => ?_⟩
  rw [houtput] at hreport
  have hfirst := congrArg (fun ts => (List.head? ts).map (TokenTree.isPunct '#')) hreport
  exact absurd hfirst (by decide)

end Shape

end Tween
