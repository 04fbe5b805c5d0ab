import Tween.Config.Arguments
import Tween.Proofs.Pointwise
import Tween.Unicode.Identifier

/-!
# What arguments change

The arguments of the attribute set the path, the required trait and the supported types. What every
argument preserves holds of the configuration they lead to, if it holds of the standard one
(`Config.ofArguments_induction`):

* `Config.sameNames_of_ofArguments`: all names stay the standard ones, what the attribute and its
  marker are called, and what the generated items are.
* `Config.supportsFloats_of_ofArguments`: there is a supported type, and all of them are
  floating-point types.
-/

namespace Tween.Config

variable {config config' : Config}

/-- What every argument preserves is preserved by a list of them. -/
theorem foldlM_apply_induction {motive : Config → Prop}
    (hstep : ∀ {config config' : Config} {argument : Argument}, motive config →
      config.apply argument = .ok config' → motive config')
    {arguments : List Argument} (hconfig : motive config)
    (h : arguments.foldlM apply config = .ok config') : motive config' := by
  induction arguments generalizing config with
  | nil =>
    cases h
    exact hconfig
  | cons argument arguments ih =>
    rw [List.foldlM_cons] at h
    cases hnext : config.apply argument with
    | error e => rw [hnext] at h; cases h
    | ok next =>
      rw [hnext] at h
      exact ih (hstep hconfig hnext) h

theorem ofArguments_induction {motive : Config → Prop}
    (hstep : ∀ {config config' : Config} {argument : Argument}, motive config →
      config.apply argument = .ok config' → motive config')
    (hstandard : motive standard) {arguments : TokenStream}
    (h : ofArguments arguments = .ok config) : motive config := by
  unfold ofArguments at h
  split at h
  · cases h
  · exact foldlM_apply_induction hstep hstandard h

/-! ## Names -/

/-- Two configurations that recognise the same words and name what they generate alike. -/
structure SameNames (config config' : Config) : Prop where
  attributeName : config.attributeName = config'.attributeName
  ignoreWord : config.ignoreWord = config'.ignoreWord
  accessorName : config.accessorName = config'.accessorName
  companionSuffix : config.companionSuffix = config'.companionSuffix

theorem SameNames.trans {config'' : Config} (h : SameNames config config')
    (h' : SameNames config' config'') : SameNames config config'' :=
  ⟨h.1.trans h'.1, h.2.trans h'.2, h.3.trans h'.3, h.4.trans h'.4⟩

theorem sameNames_of_apply {argument : Argument} (h : config.apply argument = .ok config') :
    SameNames config' config := by
  cases argument with
  | crate path => cases h; exact ⟨rfl, rfl, rfl, rfl⟩
  | capability name => cases h; exact ⟨rfl, rfl, rfl, rfl⟩
  | types paths =>
    rw [apply] at h
    cases hlist : typeList paths with
    | error e => rw [hlist] at h; cases h
    | ok types => rw [hlist] at h; cases h; exact ⟨rfl, rfl, rfl, rfl⟩

/-- **No argument changes a name.** -/
theorem sameNames_of_ofArguments {arguments : TokenStream}
    (h : ofArguments arguments = .ok config) : SameNames config standard :=
  ofArguments_induction (motive := (SameNames · standard))
    (fun hconfig hstep => (sameNames_of_apply hstep).trans hconfig) ⟨rfl, rfl, rfl, rfl⟩ h

/-! ## Supported types -/

/-- The names of the floating-point types are words. -/
theorem isIdentifier_of_mem_floatTypes :
    ∀ text ∈ floatTypes, Unicode.isIdentifier text.toList = true := by
  decide

/-- The compact text is that of a floating-point type. -/
def IsFloat (ty : TokenStream) : Prop :=
  TokenStream.compact ty ∈ floatTypes

/-- The type list names floating-point types, and one at least. -/
structure NamesFloats (paths : List TokenStream) : Prop where
  ne_nil : paths ≠ []
  floats : ∀ path ∈ paths, IsFloat path

/-- There is a supported type, and all supported types are floating-point types. -/
structure SupportsFloats (config : Config) : Prop where
  ne_nil : config.supportedTypes ≠ []
  subset : config.supportedTypes ⊆ floatTypes

variable {ty : TokenStream} {paths : List TokenStream} {e : ArgumentError}

theorem floatType_eq_ok_iff {text : String} :
    floatType ty = .ok text ↔ IsFloat ty ∧ text = TokenStream.compact ty := by
  unfold floatType
  simp only
  split <;> rename_i hmem
  · have hfloat : IsFloat ty := List.contains_iff_mem.1 hmem
    simp [hfloat, @eq_comm _ text]
  · have hfloat : ¬ IsFloat ty := fun h => hmem (List.contains_iff_mem.2 h)
    simp [hfloat]

theorem floatType_eq_error_iff : floatType ty = .error e ↔ ¬ IsFloat ty ∧ e = .notAFloat ty := by
  unfold floatType
  simp only
  split <;> rename_i hmem
  · have hfloat : IsFloat ty := List.contains_iff_mem.1 hmem
    simp [hfloat]
  · have hfloat : ¬ IsFloat ty := fun h => hmem (List.contains_iff_mem.2 h)
    simp [hfloat, @eq_comm _ e]

theorem mapM_floatType_eq_ok_iff {types : List String} :
    paths.mapM floatType = .ok types ↔
      (∀ path ∈ paths, IsFloat path) ∧ types = paths.map TokenStream.compact := by
  simp only [mapM_eq_ok_iff, floatType_eq_ok_iff, List.forall₂_and_left, forall₂_map_eq_iff]

/-- **A type list is accepted** if it names floating-point types, one at least. -/
theorem typeList_eq_ok_iff {types : List String} :
    typeList paths = .ok types ↔ NamesFloats paths ∧ types = paths.map TokenStream.compact := by
  constructor
  · intro h
    unfold typeList at h
    split at h
    · cases h
    · cases h
    · rename_i hne hpaths
      cases h
      obtain ⟨hfloats, rfl⟩ := mapM_floatType_eq_ok_iff.1 hpaths
      exact ⟨⟨by simpa using hne, hfloats⟩, rfl⟩
  · rintro ⟨⟨hne, hfloats⟩, rfl⟩
    obtain ⟨path, rest, rfl⟩ := List.exists_cons_of_ne_nil hne
    rw [typeList, mapM_floatType_eq_ok_iff.2 ⟨hfloats, rfl⟩]
    rfl

/-- **A type list is refused** for the first type that is no floating-point type, or for naming no
type at all. -/
theorem typeList_eq_error_iff :
    typeList paths = .error e ↔
      (∃ good path rest, paths = good ++ path :: rest ∧ (∀ ty ∈ good, IsFloat ty) ∧
        ¬ IsFloat path ∧ e = .notAFloat path) ∨ paths = [] ∧ e = .noTypes := by
  have hfirst : paths.mapM floatType = .error e ↔ ∃ good path rest,
      paths = good ++ path :: rest ∧ (∀ ty ∈ good, IsFloat ty) ∧ ¬ IsFloat path ∧
        e = .notAFloat path := by
    simp [mapM_eq_error_iff, floatType_eq_ok_iff, floatType_eq_error_iff]
  rw [← hfirst]
  unfold typeList
  cases hpaths : paths.mapM floatType with
  | error e' =>
    have hne : paths ≠ [] := by
      rintro rfl
      cases hpaths
    simp [hne]
  | ok types =>
    obtain ⟨-, rfl⟩ := mapM_floatType_eq_ok_iff.1 hpaths
    cases paths with
    | nil => simp [eq_comm]
    | cons path rest => simp

theorem SupportsFloats.apply {argument : Argument} (hconfig : SupportsFloats config)
    (h : config.apply argument = .ok config') : SupportsFloats config' := by
  cases argument with
  | crate path => cases h; exact ⟨hconfig.ne_nil, hconfig.subset⟩
  | capability name => cases h; exact ⟨hconfig.ne_nil, hconfig.subset⟩
  | types paths =>
    rw [Config.apply] at h
    cases hlist : typeList paths with
    | error e => rw [hlist] at h; cases h
    | ok types =>
      rw [hlist] at h
      cases h
      obtain ⟨⟨hne, hfloats⟩, rfl⟩ := typeList_eq_ok_iff.1 hlist
      exact ⟨by simpa using hne, by simpa [List.subset_def, IsFloat] using hfloats⟩

/-- **No argument smuggles a type in** that is no floating-point type, or leaves none. -/
theorem supportsFloats_of_ofArguments {arguments : TokenStream}
    (h : ofArguments arguments = .ok config) : SupportsFloats config :=
  ofArguments_induction SupportsFloats.apply ⟨by decide, List.Subset.refl _⟩ h

end Tween.Config
