import Tween.Config.Arguments
import Tween.Proofs.Token.CommaList

/-!
# How arguments are written

The arguments of the attribute are a comma list of `crate = path`, `capability = Trait` and
`types(path, …)`, those of a `shape` helper of `crate = path` alone. A path is anything up to the
next comma, but not nothing.

* `Argument.read?_eq_some_iff`: the items that are read, and the arguments they are read as.
* `TokenStream.commaList?_read?_eq_some_iff`: the streams that are lists of arguments.
* `TokenStream.commaList?_runtimePath?_eq_some_iff`: the streams that are lists of paths to set.
-/

namespace Tween

/-! ## One argument -/

/-- The tokens are a path: there are some, and none of them is a comma. -/
def TokenStream.IsPath (ts : TokenStream) : Prop :=
  CommaFree ts ∧ ts ≠ []

namespace Argument

open TokenStream

variable {item path : TokenStream} {argument : Argument}

/-- The item of an argument list is `crate = path`. -/
def SetsPath (item path : TokenStream) : Prop :=
  ∃ word equals, item = .ident word :: .punct equals :: path ∧ word.text = "crate" ∧
    equals.char = '=' ∧ path ≠ []

theorem runtimePath?_eq_some_iff : runtimePath? item = some path ↔ SetsPath item path := by
  constructor
  · intro h
    unfold runtimePath? at h
    split at h
    · rename_i word equals rest
      split at h
      · rename_i hcrate
        obtain ⟨rfl, hne⟩ := path?_eq_some.1 h
        exact ⟨word, equals, rfl, hcrate.1, hcrate.2, hne⟩
      · cases h
    · cases h
  · rintro ⟨word, equals, rfl, hword, hequals, hne⟩
    rw [runtimePath?, if_pos ⟨hword, hequals⟩]
    exact path?_eq_some.2 ⟨rfl, hne⟩

/-- The item of an argument list is this argument: `crate = path`, `capability = name`, or `types`
with a comma list of paths. -/
inductive Written : TokenStream → Argument → Prop
  | crate {item path : TokenStream} (hitem : SetsPath item path) : Written item (.crate path)
  | capability {word name : Ident} {equals : Punct} (hword : word.text = "capability")
      (hequals : equals.char = '=') :
      Written [.ident word, .punct equals, .ident name] (.capability name)
  | types {word : Ident} {span : Span} {listed : TokenStream} {paths : List TokenStream}
      (hword : word.text = "types") (hlisted : CommaList paths listed)
      (hpaths : ∀ path ∈ paths, CommaFree path ∧ path ≠ []) :
      Written [.ident word, .group .parenthesis span listed] (.types paths)

/-- The paths of an argument. -/
def paths : Argument → List TokenStream
  | crate path => [path]
  | capability _ => []
  | types paths => paths

theorem Written.isPath (h : Written item argument) (hfree : CommaFree item)
    (hpath : path ∈ argument.paths) : IsPath path := by
  cases h with
  | crate hitem =>
    obtain ⟨word, equals, rfl, -, -, hne⟩ := hitem
    rw [paths, List.mem_singleton] at hpath
    subst hpath
    exact ⟨fun t ht => hfree t (List.mem_cons_of_mem _ (List.mem_cons_of_mem _ ht)), hne⟩
  | capability => cases hpath
  | types _ _ hpaths => exact hpaths path hpath

theorem written_capability {name : Ident} (h : capability? item = some name) :
    Written item (.capability name) := by
  unfold capability? at h
  split at h
  · split at h
    · rename_i hword
      cases h
      exact .capability hword.1 hword.2
    · cases h
  · cases h

theorem written_types {paths : List TokenStream} (h : types? item = some paths) :
    Written item (.types paths) := by
  unfold types? at h
  split at h
  · split at h
    · rename_i hword
      obtain ⟨hlisted, hpaths⟩ := commaList?_path?_eq_some_iff.1 h
      exact .types hword hlisted hpaths
    · cases h
  · cases h

/-- **The items that are read** as arguments. Their first words differ, so an item is written as one
argument only. -/
theorem read?_eq_some_iff : read? item = some argument ↔ Written item argument := by
  constructor
  · intro h
    simp only [read?, Option.orElse_eq_orElse, Option.orElse_eq_or, Option.or_eq_some_iff,
      Option.map_eq_some_iff] at h
    obtain ⟨path, hpath, rfl⟩ | ⟨-, ⟨name, hname, rfl⟩ | ⟨-, paths, hpaths, rfl⟩⟩ := h
    · exact .crate (runtimePath?_eq_some_iff.1 hpath)
    · exact written_capability hname
    · exact written_types hpaths
  · intro h
    cases h with
    | crate hitem => simp [read?, runtimePath?_eq_some_iff.2 hitem]
    | capability hword hequals => simp [read?, runtimePath?, capability?, hword, hequals]
    | types hword hlisted hpaths =>
      have hread := commaList?_path?_eq_some_iff.2 ⟨hlisted, hpaths⟩
      simp [read?, runtimePath?, capability?, types?, hword, hread]

end Argument

/-! ## Lists of arguments -/

namespace TokenStream

variable {ts : TokenStream}

/-- The tokens are a comma list of these arguments. -/
def ListsArguments (ts : TokenStream) (arguments : List Argument) : Prop :=
  ∃ items, CommaList items ts ∧ (∀ item ∈ items, CommaFree item) ∧
    List.Forall₂ Argument.Written items arguments

theorem commaList?_read?_eq_some_iff {arguments : List Argument} :
    commaList? Argument.read? ts = some arguments ↔ ListsArguments ts arguments := by
  rw [commaList?_eq_some_iff rfl]
  simp only [Argument.read?_eq_some_iff, ListsArguments]

theorem commaList?_read?_eq_none_iff :
    commaList? Argument.read? ts = none ↔ ∀ arguments, ¬ ListsArguments ts arguments := by
  simp only [Option.eq_none_iff_forall_ne_some, ne_eq, commaList?_read?_eq_some_iff]

/-- A path is cut at commas, and is not missing. -/
theorem ListsArguments.isPath {arguments : List Argument} (h : ListsArguments ts arguments)
    {argument : Argument} (hargument : argument ∈ arguments) {path : TokenStream}
    (hpath : path ∈ argument.paths) : IsPath path := by
  obtain ⟨items, -, hfree, hwritten⟩ := h
  obtain ⟨item, hitem, hargument⟩ := exists_of_forall₂_of_mem hwritten.flip hargument
  exact Argument.Written.isPath hargument (hfree item hitem) hpath

/-- The arguments are a comma list of `crate = path`, with these paths. -/
def SetsPaths (arguments : TokenStream) (paths : List TokenStream) : Prop :=
  ∃ items, CommaList items arguments ∧ (∀ item ∈ items, CommaFree item) ∧
    List.Forall₂ Argument.SetsPath items paths

theorem commaList?_runtimePath?_eq_some_iff {paths : List TokenStream} :
    commaList? Argument.runtimePath? ts = some paths ↔ SetsPaths ts paths := by
  rw [commaList?_eq_some_iff rfl]
  simp only [Argument.runtimePath?_eq_some_iff, SetsPaths]

end TokenStream

end Tween
