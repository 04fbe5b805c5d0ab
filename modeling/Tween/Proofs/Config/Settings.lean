import Tween.Host.Read
import Tween.Proofs.Config.Arguments
import Tween.Proofs.Config.Grammar

/-!
# What an argument list asks for

Of the arguments of each form the last one counts, and the forms do not interact
(`Config.foldlM_apply_eq`). So the answer to an argument list is told by what is set in each form
(`Settings`): the configuration with what is set last, or the first type list that is refused.

* `Config.Requested`: what an argument list asks for, or what is wrong with it.
* `Config.ofArguments_eq_iff_requested`: every stream is answered in exactly one of these ways, the
  order of arguments of different forms does not matter, and no argument matters to how a host is
  read.
-/

namespace Tween

open Code

/-! ## What is set in each form -/

namespace Argument

/-- The path that a `crate` argument sets. -/
def path? : Argument → Option TokenStream
  | crate path => some path
  | _ => none

/-- The trait that a `capability` argument sets. -/
def trait? : Argument → Option Ident
  | capability name => some name
  | _ => none

/-- The paths that a `types` argument lists. -/
def typePaths? : Argument → Option (List TokenStream)
  | types paths => some paths
  | _ => none

end Argument

/-- What arguments set, form by form, each in the order of the arguments. -/
structure Settings where
  paths : List TokenStream
  traits : List Ident
  typeLists : List (List TokenStream)

/-- What a list of arguments sets. -/
def Settings.of (arguments : List Argument) : Settings where
  paths := arguments.filterMap Argument.path?
  traits := arguments.filterMap Argument.trait?
  typeLists := arguments.filterMap Argument.typePaths?

theorem Settings.mem_typeLists_of {arguments : List Argument} {paths : List TokenStream} :
    paths ∈ (Settings.of arguments).typeLists ↔ .types paths ∈ arguments := by
  rw [of, List.mem_filterMap]
  constructor
  · rintro ⟨argument, hargument, hpaths⟩
    cases argument with
    | types _ =>
      cases hpaths
      exact hargument
    | _ => cases hpaths
  · exact fun h => ⟨_, h, rfl⟩

namespace Config

variable {config config' : Config} {s : Settings}

/-- The configuration with what is set last in each form, and as it is where nothing is set. The
texts are those of the type lists. -/
def withLast (config : Config) (s : Settings) (texts : List (List String)) : Config :=
  { config with
    runtimePath := s.paths.getLast?.getD config.runtimePath
    requiredTrait := (s.traits.getLast?.map (·.text)).getD config.requiredTrait
    supportedTypes := texts.getLast?.getD config.supportedTypes }

theorem withLast_path (path : TokenStream) :
    config.withLast { s with paths := path :: s.paths } =
      { config with runtimePath := path }.withLast s := by
  funext texts
  simp [withLast, List.getLast?_cons]

theorem withLast_trait (name : Ident) :
    config.withLast { s with traits := name :: s.traits } =
      { config with requiredTrait := name.text }.withLast s := by
  funext texts
  cases h : s.traits.getLast? <;> simp [withLast, List.getLast?_cons, h]

theorem withLast_types (types : List String) (texts : List (List String)) :
    config.withLast s (types :: texts) =
      { config with supportedTypes := types }.withLast s texts := by
  simp [withLast, List.getLast?_cons]

/-- **The forms do not interact.** To apply arguments is to look at all type lists, and then to set
what comes last in each form. -/
theorem foldlM_apply_eq (config : Config) (arguments : List Argument) :
    arguments.foldlM apply config = ((Settings.of arguments).typeLists.mapM typeList).map
      (config.withLast (Settings.of arguments)) := by
  induction arguments generalizing config with
  | nil => rfl
  | cons argument arguments ih =>
    rw [List.foldlM_cons]
    cases argument with
    | crate path =>
      have hof : Settings.of (.crate path :: arguments) =
          { Settings.of arguments with paths := path :: (Settings.of arguments).paths } := rfl
      rw [hof, withLast_path]
      exact ih _
    | capability name =>
      have hof : Settings.of (.capability name :: arguments) =
          { Settings.of arguments with traits := name :: (Settings.of arguments).traits } := rfl
      rw [hof, withLast_trait]
      exact ih _
    | types paths =>
      have hof : Settings.of (.types paths :: arguments) =
          { Settings.of arguments with
            typeLists := paths :: (Settings.of arguments).typeLists } := rfl
      rw [hof, List.mapM_cons]
      cases hlist : typeList paths with
      | error e => simp [apply, hlist, bind, Except.bind, Except.map]
      | ok types =>
        have hstep : config.apply (.types paths) =
            .ok { config with supportedTypes := types } := by rw [apply, hlist]; rfl
        rw [hstep]
        refine (ih _).trans ?_
        cases (Settings.of arguments).typeLists.mapM typeList with
        | error e => rfl
        | ok texts => exact congrArg Except.ok (withLast_types types texts).symm

theorem mapM_typeList_eq_ok_iff {lists : List (List TokenStream)} {texts : List (List String)} :
    lists.mapM typeList = .ok texts ↔
      (∀ paths ∈ lists, NamesFloats paths) ∧ texts = lists.map (·.map TokenStream.compact) := by
  simp only [mapM_eq_ok_iff, typeList_eq_ok_iff, List.forall₂_and_left, forall₂_map_eq_iff]

theorem mapM_typeList_eq_error_iff {lists : List (List TokenStream)} {e : ArgumentError} :
    lists.mapM typeList = .error e ↔ ∃ front paths back, lists = front ++ paths :: back ∧
      (∀ good ∈ front, NamesFloats good) ∧ typeList paths = .error e := by
  simp [mapM_eq_error_iff, typeList_eq_ok_iff]

/-! ## The answers -/

/-- **What an argument list asks for.** -/
inductive Requested (ts : TokenStream) : Except Diagnostic Config → Prop
  /-- All type lists name floating-point types: the standard configuration, with what the arguments
  set last. -/
  | configured {arguments : List Argument} {s : Settings}
      (harguments : TokenStream.ListsArguments ts arguments) (hs : s = Settings.of arguments)
      (hfloats : ∀ paths ∈ s.typeLists, NamesFloats paths) :
      Requested ts (.ok (standard.withLast s (s.typeLists.map (·.map TokenStream.compact))))
  /-- The first type list that is refused names another type, this one first. -/
  | notAFloat {arguments : List Argument} {front back : List (List TokenStream)}
      {good more : List TokenStream} {t : TokenTree} {path : TokenStream}
      (harguments : TokenStream.ListsArguments ts arguments)
      (hlists : (Settings.of arguments).typeLists = front ++ (good ++ (t :: path) :: more) :: back)
      (hfront : ∀ paths ∈ front, NamesFloats paths) (hgood : ∀ ty ∈ good, IsFloat ty)
      (hpath : ¬ IsFloat (t :: path)) :
      Requested ts (.error ⟨.invalidArguments, "invalid #[animatable] arguments: " ++
        (s!"`{TokenStream.compact (t :: path)}` is not a floating-point type, " ++
          "`types(...)` accepts `f32` and `f64`"), t.span⟩)
  /-- The first type list that is refused is empty. -/
  | noTypes {arguments : List Argument} {front back : List (List TokenStream)}
      (harguments : TokenStream.ListsArguments ts arguments)
      (hlists : (Settings.of arguments).typeLists = front ++ [] :: back)
      (hfront : ∀ paths ∈ front, NamesFloats paths) :
      Requested ts (.error ⟨.invalidArguments,
        "invalid #[animatable] arguments: `types(...)` needs at least one type", .callSite⟩)
  /-- The tokens are no list of arguments. -/
  | malformed (hnone : ∀ arguments, ¬ TokenStream.ListsArguments ts arguments) :
      Requested ts (.error ⟨.invalidArguments, "invalid #[animatable] arguments: " ++
        s!"expected `crate = path`, `capability = Trait` or `types(...)`: {Diagnostic.unreadable}",
        .callSite⟩)

variable {ts : TokenStream}

theorem ofArguments_of_listsArguments {arguments : List Argument}
    (h : TokenStream.ListsArguments ts arguments) :
    ofArguments ts = ((Settings.of arguments).typeLists.mapM typeList).map
      (standard.withLast (Settings.of arguments)) := by
  rw [ofArguments, TokenStream.commaList?_read?_eq_some_iff.2 h]
  exact foldlM_apply_eq standard arguments

/-- A list is accepted if all its type lists are. -/
theorem ofArguments_eq_ok_iff {arguments : List Argument}
    (h : TokenStream.ListsArguments ts arguments) :
    ofArguments ts = .ok config ↔
      (∀ paths ∈ (Settings.of arguments).typeLists, NamesFloats paths) ∧
        config = standard.withLast (Settings.of arguments)
          ((Settings.of arguments).typeLists.map (·.map TokenStream.compact)) := by
  rw [ofArguments_of_listsArguments h]
  constructor
  · intro hok
    cases hlists : (Settings.of arguments).typeLists.mapM typeList with
    | error e =>
      rw [hlists] at hok
      cases hok
    | ok texts =>
      obtain ⟨hfloats, rfl⟩ := mapM_typeList_eq_ok_iff.1 hlists
      rw [hlists] at hok
      cases hok
      exact ⟨hfloats, rfl⟩
  · rintro ⟨hfloats, rfl⟩
    rw [mapM_typeList_eq_ok_iff.2 ⟨hfloats, rfl⟩]
    rfl

theorem exists_ofArguments_eq_ok_iff {arguments : List Argument}
    (h : TokenStream.ListsArguments ts arguments) :
    (∃ config, ofArguments ts = .ok config) ↔
      ∀ paths, .types paths ∈ arguments → NamesFloats paths := by
  simp only [ofArguments_eq_ok_iff h, exists_and_left, exists_eq, and_true,
    Settings.mem_typeLists_of]

/-- A stream is malformed if it is no list of arguments. -/
theorem ofArguments_eq_malformed_iff :
    ofArguments ts = .error .malformed ↔
      ∀ arguments, ¬ TokenStream.ListsArguments ts arguments := by
  constructor
  · intro h arguments harguments
    rw [ofArguments_of_listsArguments harguments] at h
    cases hlists : (Settings.of arguments).typeLists.mapM typeList with
    | ok texts =>
      rw [hlists] at h
      cases h
    | error e =>
      obtain ⟨_, _, _, -, -, hbad⟩ := mapM_typeList_eq_error_iff.1 hlists
      rw [hlists] at h
      cases h
      obtain ⟨_, _, _, -, -, -, h⟩ | ⟨-, h⟩ := typeList_eq_error_iff.1 hbad <;> cases h
  · intro h
    rw [ofArguments, TokenStream.commaList?_read?_eq_none_iff.2 h]

/-- Every argument list asks for something. -/
theorem requested_ofArguments (ts : TokenStream) :
    Requested ts ((ofArguments ts).mapError ArgumentError.report) := by
  cases hread : TokenStream.commaList? Argument.read? ts with
  | none =>
    have hargs : ofArguments ts = .error .malformed := by rw [ofArguments, hread]
    rw [hargs]
    exact .malformed (TokenStream.commaList?_read?_eq_none_iff.1 hread)
  | some arguments =>
    have harguments := TokenStream.commaList?_read?_eq_some_iff.1 hread
    rw [ofArguments_of_listsArguments harguments]
    cases hlists : (Settings.of arguments).typeLists.mapM typeList with
    | ok texts =>
      obtain ⟨hfloats, rfl⟩ := mapM_typeList_eq_ok_iff.1 hlists
      exact .configured harguments rfl hfloats
    | error e =>
      obtain ⟨front, paths, back, hsplit, hfront, hbad⟩ := mapM_typeList_eq_error_iff.1 hlists
      obtain ⟨good, path, more, rfl, hgood, hpath, rfl⟩ | ⟨rfl, rfl⟩ :=
        typeList_eq_error_iff.1 hbad
      · have hmem : .types (good ++ path :: more) ∈ arguments :=
          Settings.mem_typeLists_of.1 (by simp [hsplit])
        have hcut : TokenStream.IsPath path := harguments.isPath hmem (by simp [Argument.paths])
        obtain ⟨t, path, rfl⟩ := List.exists_cons_of_ne_nil hcut.2
        exact .notAFloat harguments hsplit hfront hgood hpath
      · exact .noTypes harguments hsplit hfront

/-- No argument list is answered in another way. -/
theorem Requested.ofArguments_eq {answer : Except Diagnostic Config} (h : Requested ts answer) :
    (ofArguments ts).mapError ArgumentError.report = answer := by
  cases h with
  | configured harguments hs hfloats =>
    subst hs
    rw [ofArguments_of_listsArguments harguments, mapM_typeList_eq_ok_iff.2 ⟨hfloats, rfl⟩]
    rfl
  | @notAFloat _ _ _ good more t path harguments hlists hfront hgood hpath =>
    have hbad := typeList_eq_error_iff.2 (.inl ⟨good, t :: path, more, rfl, hgood, hpath, rfl⟩)
    rw [ofArguments_of_listsArguments harguments,
      mapM_typeList_eq_error_iff.2 ⟨_, _, _, hlists, hfront, hbad⟩]
    rfl
  | noTypes harguments hlists hfront =>
    have hbad := typeList_eq_error_iff.2 (.inr ⟨rfl, rfl⟩)
    rw [ofArguments_of_listsArguments harguments,
      mapM_typeList_eq_error_iff.2 ⟨_, _, _, hlists, hfront, hbad⟩]
    rfl
  | malformed hnone =>
    rw [ofArguments, TokenStream.commaList?_read?_eq_none_iff.2 hnone]
    rfl

end Config

/-! ## How hosts are read -/

section
variable {config config' : Config} (h : Config.SameNames config config')
include h

theorem Field.read_congr : Field.read config = Field.read config' := by
  have hmarkers : Attribute.markers config = Attribute.markers config' := by
    funext a
    simp only [Attribute.markers, h.attributeName, h.ignoreWord]
  funext host style entry
  simp only [Field.read, Attribute.allMarkers, hmarkers]

/-- A host is read the same under all configurations with the same names. -/
theorem Host.read_congr : Host.read config = Host.read config' := by
  funext item
  have hfields : StructBody.readFields config = StructBody.readFields config' := by
    funext host body
    cases body <;> simp only [StructBody.readFields, Field.read_congr h]
  simp only [Host.read, Host.ofDeclaration, hfields]

theorem HostError.report_congr : HostError.report config = HostError.report config' := by
  funext e
  cases e with
  | badMarker cause =>
    cases cause <;>
      simp only [HostError.report, MarkerError.report, Diagnostic.invalidArguments,
        Config.attributeText, Config.markerText, h.attributeName, h.ignoreWord]
  | _ => rfl

end

namespace Config

/-- **Every argument list asks for one thing.** The stream is answered in exactly one of the four
ways. Two lists that set the same in each form are answered alike, however their forms are mixed.
And no argument matters to how a host is read, or to why it is refused. -/
theorem ofArguments_eq_iff_requested (ts : TokenStream) :
    (∀ answer, (ofArguments ts).mapError ArgumentError.report = answer ↔ Requested ts answer) ∧
      (∀ arguments, TokenStream.ListsArguments ts arguments →
        ∀ us reordered, TokenStream.ListsArguments us reordered →
          Settings.of reordered = Settings.of arguments → ofArguments us = ofArguments ts) ∧
      ∀ config, ofArguments ts = .ok config → ∀ item,
        (Host.read config item).mapError (HostError.report config) =
          (Host.read .standard item).mapError (HostError.report .standard) := by
  refine ⟨fun answer => ⟨?requested, Requested.ofArguments_eq⟩, ?reordered, ?read⟩
  case requested =>
    rintro rfl
    exact requested_ofArguments ts
  case reordered =>
    intro arguments harguments us reordered hreordered hsettings
    rw [ofArguments_of_listsArguments harguments, ofArguments_of_listsArguments hreordered,
      hsettings]
  case read =>
    intro config hconfig item
    have hnames := sameNames_of_ofArguments hconfig
    rw [Host.read_congr hnames, HostError.report_congr hnames]

/-- `crate = a, types(f64,), crate = b,` -/
def mixed : TokenStream :=
  [word "crate", mark '=', word "a", mark ',', word "types", parens [word "f64", mark ','],
    mark ',', word "crate", mark '=', word "b", mark ',']

/-- The same arguments with the type list in front. -/
def typesFirst : TokenStream :=
  [word "types", parens [word "f64", mark ','], mark ',', word "crate", mark '=', word "a",
    mark ',', word "crate", mark '=', word "b"]

/-- `types(f32), types(f64, u8, bool), types()` -/
def unsupported : TokenStream :=
  [word "types", parens [word "f32"], mark ',', word "types", parens [word "f64", mark ',',
    .ident ⟨"u8", .token "u8"⟩, mark ',', word "bool"], mark ',', word "types", parens []]

/-- Two lists set the second path and the list of one type, and leave the trait as it is. Of three
type lists the second is refused for the second of its types. A type list may not be empty, and a
word alone is no argument. -/
theorem ofArguments_eq_iff_requested_mixed :
    Requested mixed (.ok { runtimePath := [word "b"], supportedTypes := ["f64"] }) ∧
      ofArguments typesFirst = ofArguments mixed ∧
      (∀ item, (Host.read { runtimePath := [word "b"], supportedTypes := ["f64"] } item).mapError
          (HostError.report { runtimePath := [word "b"], supportedTypes := ["f64"] }) =
        (Host.read .standard item).mapError (HostError.report .standard)) ∧
      (Requested unsupported (.error ⟨.invalidArguments,
          "invalid #[animatable] arguments: `u8` is not a floating-point type, " ++
            "`types(...)` accepts `f32` and `f64`", .token "u8"⟩) ∧
        (ofArguments unsupported).mapError ArgumentError.report = .error ⟨.invalidArguments,
          "invalid #[animatable] arguments: `u8` is not a floating-point type, " ++
            "`types(...)` accepts `f32` and `f64`", .token "u8"⟩) ∧
      Requested [word "types", parens []] (.error ⟨.invalidArguments,
        "invalid #[animatable] arguments: `types(...)` needs at least one type", .callSite⟩) ∧
      Requested [word "types"] (.error ⟨.invalidArguments,
        "invalid #[animatable] arguments: expected `crate = path`, `capability = Trait` or " ++
          "`types(...)`: <parse error>", .callSite⟩) := by
  have hmixed : ofArguments mixed =
      .ok { runtimePath := [word "b"], supportedTypes := ["f64"] } := rfl
  have harguments : TokenStream.ListsArguments mixed
      [.crate [word "a"], .types [[word "f64"]], .crate [word "b"]] :=
    TokenStream.commaList?_read?_eq_some_iff.1 rfl
  have htypesFirst : TokenStream.ListsArguments typesFirst
      [.types [[word "f64"]], .crate [word "a"], .crate [word "b"]] :=
    TokenStream.commaList?_read?_eq_some_iff.1 rfl
  have hunsupported : (ofArguments unsupported).mapError ArgumentError.report =
      .error ⟨.invalidArguments, "invalid #[animatable] arguments: `u8` is not a floating-point " ++
        "type, `types(...)` accepts `f32` and `f64`", .token "u8"⟩ := rfl
  obtain ⟨hrequested, hreordered, hread⟩ := ofArguments_eq_iff_requested mixed
  exact ⟨(hrequested _).1 (by rw [hmixed]; rfl), hreordered _ harguments _ _ htypesFirst rfl,
    hread _ hmixed, ⟨((ofArguments_eq_iff_requested _).1 _).1 hunsupported, hunsupported⟩,
    ((ofArguments_eq_iff_requested _).1 _).1 rfl, ((ofArguments_eq_iff_requested _).1 _).1 rfl⟩

end Config

end Tween
