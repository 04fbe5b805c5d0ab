import Tween.Proofs.Config.Settings
import Tween.Proofs.Token.Dissolved

/-!
# Captured arguments

The arguments of the attribute are read as they are, with the invisible groups that a declarative
macro wraps around what it has captured. Such a group is no obstacle inside a path or a type, but
anywhere else there is no argument to be found: with one around `types(f32)`, around a keyword or
around a name the list is refused, although the same list is accepted once the groups are dissolved
(`Config.ofArguments_captured`).

* `Argument.IsVeiled`: an item with an invisible group outside of its path.
* `Config.ofArguments_dissolve`: when the groups matter, and how. A list with a veiled item is
  refused. Any other list means the same with and without the groups, unless a path hides a comma
  or holds nothing, or a type is a word only as long as the groups keep its parts together.
-/

namespace Tween

open TokenStream

/-! ## Items -/

namespace TokenTree

variable {t : TokenTree}

theorem opened_eq_ident {word : Ident} (h : t.opened = .ident word) : t = .ident word := by
  cases t with
  | ident => exact h
  | punct | literal | group => cases h

theorem opened_eq_punct {mark : Punct} (h : t.opened = .punct mark) : t = .punct mark := by
  cases t with
  | punct => exact h
  | ident | literal | group => cases h

theorem opened_eq_group {delimiter : Delimiter} {span : Span} {opened : List TokenTree}
    (h : t.opened = .group delimiter span opened) :
    ∃ inner, t = .group delimiter span inner ∧ TokenStream.dissolve inner = opened := by
  cases t with
  | group =>
    cases h
    exact ⟨_, rfl, rfl⟩
  | ident | punct | literal => cases h

end TokenTree

namespace Argument

variable {item path : TokenStream} {argument argument' : Argument}

/-- An invisible group stands in the item, but not in the path behind `crate =`. -/
def IsVeiled (item : TokenStream) : Prop :=
  (∃ span inner, .group .invisible span inner ∈ item) ∧ ∀ path, ¬ SetsPath item path

/-- The argument with the groups in its paths dissolved. -/
def dissolve : Argument → Argument
  | crate path => crate (TokenStream.dissolve path)
  | capability name => capability name
  | types paths => types (paths.map TokenStream.dissolve)

theorem paths_dissolve (argument : Argument) :
    argument.dissolve.paths = argument.paths.map TokenStream.dissolve := by
  cases argument <;> rfl

theorem Written.not_isVeiled (h : Written item argument) : ¬ IsVeiled item := by
  rintro ⟨⟨span, inner, hmem⟩, hnot⟩
  cases h with
  | crate hitem => exact hnot _ hitem
  | capability => simp at hmem
  | types => simp at hmem

/-- An item is still read with its groups dissolved, as the argument with its groups dissolved, if
its paths are still paths. -/
theorem Written.dissolve (h : Written item argument)
    (hpaths : ∀ path ∈ argument.paths, IsPath (TokenStream.dissolve path)) :
    Written (TokenStream.dissolve item) argument.dissolve ∧
      CommaFree (TokenStream.dissolve item) := by
  cases h with
  | crate hitem =>
    obtain ⟨word, equals, rfl, hword, hequals, -⟩ := hitem
    obtain ⟨hfree, hne⟩ := hpaths _ List.mem_cons_self
    refine ⟨.crate ⟨word, equals, rfl, hword, hequals, hne⟩, ?_⟩
    simpa [dissolve_cons, TokenTree.dissolve, CommaFree, TokenTree.isPunct, hequals] using hfree
  | capability hword hequals =>
    refine ⟨.capability hword hequals, ?_⟩
    simp [dissolve_cons, TokenTree.dissolve, CommaFree, TokenTree.isPunct, hequals]
  | types hword hlisted _ =>
    refine ⟨.types hword hlisted.dissolve (List.forall_mem_map.2 hpaths), ?_⟩
    simp [dissolve_cons, TokenTree.dissolve, CommaFree, TokenTree.isPunct]

/-- An item without groups of its own is read if it is read with the groups inside dissolved. -/
theorem exists_written_of_dissolve (hvisible : ∀ t ∈ item, t.IsVisible)
    (h : Written (TokenStream.dissolve item) argument') : ∃ argument, Written item argument := by
  rw [dissolve_eq_map hvisible] at h
  generalize hopened : item.map TokenTree.opened = opened at h
  cases h with
  | crate hitem =>
    obtain ⟨word, equals, rfl, hword, hequals, hne⟩ := hitem
    obtain ⟨t, rest, rfl, ht, hrest⟩ := List.map_eq_cons_iff.1 hopened
    obtain ⟨u, path, rfl, hu, hpath⟩ := List.map_eq_cons_iff.1 hrest
    rw [TokenTree.opened_eq_ident ht, TokenTree.opened_eq_punct hu]
    refine ⟨_, .crate ⟨word, equals, rfl, hword, hequals, ?_⟩⟩
    rintro rfl
    exact hne hpath.symm
  | capability hword hequals =>
    obtain ⟨t, rest, rfl, ht, hrest⟩ := List.map_eq_cons_iff.1 hopened
    obtain ⟨u, rest, rfl, hu, hrest⟩ := List.map_eq_cons_iff.1 hrest
    obtain ⟨v, rfl, hv⟩ := List.map_eq_singleton_iff.1 hrest
    rw [TokenTree.opened_eq_ident ht, TokenTree.opened_eq_punct hu, TokenTree.opened_eq_ident hv]
    exact ⟨_, .capability hword hequals⟩
  | types hword hlisted hpaths =>
    obtain ⟨t, rest, rfl, ht, hrest⟩ := List.map_eq_cons_iff.1 hopened
    obtain ⟨u, rfl, hu⟩ := List.map_eq_singleton_iff.1 hrest
    obtain ⟨listed, rfl, rfl⟩ := TokenTree.opened_eq_group hu
    rw [TokenTree.opened_eq_ident ht]
    refine ⟨_, .types hword (commaList_commaPieces listed) fun path hpath =>
      ⟨commaFree_of_mem_commaPieces hpath, ?_⟩⟩
    -- a path that is missing here would be missing from the dissolved list
    rintro rfl
    have hnil := nil_mem_commaPieces_dissolve hpath
    rw [commaPieces_of_commaList hlisted hpaths] at hnil
    exact (hpaths [] hnil).2 rfl

/-- An item that is not veiled has no groups of its own, or it sets a path. -/
theorem exists_written_of_not_isVeiled (hveiled : ¬ IsVeiled item)
    (h : (∀ t ∈ item, t.IsVisible) → ∃ argument, Written (TokenStream.dissolve item) argument) :
    ∃ argument, Written item argument := by
  by_cases hpath : ∃ path, SetsPath item path
  · obtain ⟨path, hpath⟩ := hpath
    exact ⟨_, .crate hpath⟩
  · have hvisible : ∀ t ∈ item, t.IsVisible := by
      rintro t ht span inner rfl
      exact hveiled ⟨⟨span, inner, ht⟩, not_exists.1 hpath⟩
    obtain ⟨argument, hargument⟩ := h hvisible
    exact exists_written_of_dissolve hvisible hargument

end Argument

/-! ## Lists -/

namespace TokenStream

open Argument

variable {ts : TokenStream} {arguments arguments' : List Argument}

/-- The items of an argument list are the pieces of the stream. -/
theorem listsArguments_iff :
    ListsArguments ts arguments ↔ List.Forall₂ Written (commaPieces ts) arguments := by
  rw [← commaList?_read?_eq_some_iff, commaList?, mapM_eq_some_iff]
  simp only [read?_eq_some_iff]

theorem exists_listsArguments_iff :
    (∃ arguments, ListsArguments ts arguments) ↔
      ∀ item ∈ commaPieces ts, ∃ argument, Written item argument := by
  simp only [listsArguments_iff, exists_forall₂_iff]

theorem ListsArguments.not_isVeiled (h : ListsArguments ts arguments) :
    ∀ item ∈ commaPieces ts, ¬ IsVeiled item := by
  intro item hitem
  obtain ⟨argument, -, hwritten⟩ := exists_of_forall₂_of_mem (listsArguments_iff.1 h) hitem
  exact hwritten.not_isVeiled

/-- A list is still read with its groups dissolved, if its paths are still paths. -/
theorem ListsArguments.dissolve (h : ListsArguments ts arguments)
    (hpaths : ∀ argument ∈ arguments, ∀ path ∈ argument.paths,
      IsPath (TokenStream.dissolve path)) :
    ListsArguments (TokenStream.dissolve ts) (arguments.map Argument.dissolve) := by
  obtain ⟨items, hlist, -, hwritten⟩ := h
  have hboth : List.Forall₂ (fun argument item =>
      Written (TokenStream.dissolve item) argument.dissolve ∧
        CommaFree (TokenStream.dissolve item)) arguments items :=
    ((List.forall₂_and_left _ _).2 ⟨hpaths, hwritten.flip⟩).imp fun _ _ h =>
      Written.dissolve h.2 h.1
  refine ⟨items.map TokenStream.dissolve, hlist.dissolve, List.forall_mem_map.2 ?free, ?written⟩
  case free =>
    intro item hitem
    obtain ⟨argument, -, h⟩ := exists_of_forall₂_of_mem hboth.flip hitem
    exact h.2
  case written =>
    rw [List.forall₂_map_left_iff, List.forall₂_map_right_iff]
    exact hboth.flip.imp fun _ _ h => h.1

theorem listsArguments_dissolve_iff (h : ListsArguments ts arguments) :
    ListsArguments (dissolve ts) (arguments.map Argument.dissolve) ↔
      ∀ argument ∈ arguments, ∀ path ∈ argument.paths, IsPath (dissolve path) := by
  refine ⟨fun hdissolve argument hargument path hpath => ?_, h.dissolve⟩
  refine hdissolve.isPath (List.mem_map_of_mem hargument) ?_
  rw [paths_dissolve]
  exact List.mem_map_of_mem hpath

/-- A list without veiled items is read if it is read with its groups dissolved. -/
theorem exists_listsArguments_of_dissolve (hveiled : ∀ item ∈ commaPieces ts, ¬ IsVeiled item)
    (h : ListsArguments (dissolve ts) arguments') : ∃ arguments, ListsArguments ts arguments := by
  have hread := exists_listsArguments_iff.1 ⟨_, h⟩
  rw [exists_listsArguments_iff]
  clear h
  induction ts using commaPieces_induction with
  | nil => simp [commaPieces]
  | last item hfree hne =>
    rw [commaPieces_of_commaFree hfree hne, List.forall_mem_singleton] at hveiled ⊢
    refine exists_written_of_not_isVeiled hveiled fun hvisible => hread _ ?_
    rw [commaPieces_of_commaFree (hfree.dissolve hvisible)]
    · exact List.mem_singleton_self _
    · simpa [dissolve_eq_map hvisible] using hne
  | cons item comma ts hfree hcomma ih =>
    rw [commaPieces_append_comma hfree hcomma, List.forall_mem_cons] at hveiled ⊢
    rw [dissolve_append_punct] at hread
    refine ⟨exists_written_of_not_isVeiled hveiled.1 fun hvisible => hread _ ?_, ih hveiled.2 ?_⟩
    · rw [commaPieces_append_comma (hfree.dissolve hvisible) hcomma]
      exact List.mem_cons_self
    · exact fun item hitem => hread item ((commaPieces_suffix hcomma _ _).subset hitem)

end TokenStream

/-! ## Configurations -/

/-- The settings with the groups in their paths dissolved. -/
def Settings.dissolve (s : Settings) : Settings where
  paths := s.paths.map TokenStream.dissolve
  traits := s.traits
  typeLists := s.typeLists.map (·.map TokenStream.dissolve)

theorem Settings.of_map_dissolve (arguments : List Argument) :
    Settings.of (arguments.map Argument.dissolve) = (Settings.of arguments).dissolve := by
  have hpath : ∀ argument : Argument,
      argument.dissolve.path? = argument.path?.map TokenStream.dissolve := by
    rintro (_ | _ | _) <;> rfl
  have htrait : ∀ argument : Argument, argument.dissolve.trait? = argument.trait? := by
    rintro (_ | _ | _) <;> rfl
  have htypes : ∀ argument : Argument, argument.dissolve.typePaths? =
      argument.typePaths?.map (·.map TokenStream.dissolve) := by
    rintro (_ | _ | _) <;> rfl
  simp only [of, dissolve, List.filterMap_map, List.map_filterMap, Function.comp_def, hpath,
    htrait, htypes]

namespace Config

open Argument

variable {config : Config} {s : Settings} {ts ty : TokenStream} {types : List TokenStream}
  {arguments : List Argument}

/-- The configuration with the groups in its path dissolved. -/
def dissolve (config : Config) : Config :=
  { config with runtimePath := TokenStream.dissolve config.runtimePath }

theorem dissolve_withLast_dissolve (texts : List (List String)) :
    (config.withLast s.dissolve texts).dissolve = (config.withLast s texts).dissolve := by
  have hpath : TokenStream.dissolve
        (((s.paths.map TokenStream.dissolve).getLast?).getD config.runtimePath) =
      TokenStream.dissolve (s.paths.getLast?.getD config.runtimePath) := by
    rw [List.getLast?_map]
    cases s.paths.getLast? with
    | none => rfl
    | some path => exact dissolve_dissolve path
  simp only [dissolve, withLast, Settings.dissolve, hpath]

theorem IsFloat.isWordText (h : IsFloat ty) : IsWordText (compactChars false ty) := by
  intro c hc
  have hword := isIdentifier_of_mem_floatTypes _ h
  rw [toList_compact] at hword
  exact Unicode.isIdentifierPart_of_mem hword hc

theorem IsFloat.compact_dissolve (h : IsFloat (TokenStream.dissolve ty)) :
    compact (TokenStream.dissolve ty) = compact ty :=
  congrArg String.ofList (compactChars_dissolve h.isWordText)

/-- A type is a floating-point type with its groups dissolved if it is one with them, and they do
not keep two words together that would be set off by a blank. -/
theorem isFloat_dissolve_iff :
    IsFloat (TokenStream.dissolve ty) ↔ IsFloat ty ∧ WordsApart (TokenStream.dissolve ty) := by
  refine ⟨fun h => ⟨?_, (isWordText_dissolve_iff.1 h.isWordText).2⟩, fun ⟨h, hapart⟩ => ?_⟩
  · rw [IsFloat, ← h.compact_dissolve]
    exact h
  · have hword := isWordText_dissolve_iff.2 ⟨h.isWordText, hapart⟩
    rw [IsFloat, compact, compactChars_dissolve hword]
    exact h

theorem namesFloats_map_dissolve_iff :
    NamesFloats (types.map TokenStream.dissolve) ↔
      NamesFloats types ∧ ∀ ty ∈ types, WordsApart (TokenStream.dissolve ty) := by
  refine ⟨fun ⟨hne, hfloats⟩ => ?_, fun ⟨⟨hne, hfloats⟩, hapart⟩ => ?_⟩
  · rw [List.forall_mem_map] at hfloats
    refine ⟨⟨by simpa using hne, fun ty hty => ?_⟩, fun ty hty => ?_⟩
    · exact (isFloat_dissolve_iff.1 (hfloats ty hty)).1
    · exact (isFloat_dissolve_iff.1 (hfloats ty hty)).2
  · refine ⟨by simpa using hne, List.forall_mem_map.2 fun ty hty => ?_⟩
    exact isFloat_dissolve_iff.2 ⟨hfloats ty hty, hapart ty hty⟩

theorem NamesFloats.map_compact_dissolve (h : NamesFloats (types.map TokenStream.dissolve)) :
    (types.map TokenStream.dissolve).map compact = types.map compact := by
  rw [List.map_map]
  exact List.map_congr_left fun ty hty => (h.floats _ (List.mem_map_of_mem hty)).compact_dissolve

/-- The dissolved list is accepted if the list is, and no group keeps two words of a type together.
Then they ask for the same, up to groups in the path. -/
theorem ofArguments_dissolve_of_listsArguments (h : ListsArguments ts arguments)
    (hdissolve : ListsArguments (TokenStream.dissolve ts) (arguments.map Argument.dissolve)) :
    ((∃ config, ofArguments (TokenStream.dissolve ts) = .ok config) ↔
      (∃ config, ofArguments ts = .ok config) ∧
        ∀ types, .types types ∈ arguments → ∀ ty ∈ types, WordsApart (TokenStream.dissolve ty)) ∧
      ∀ config config', ofArguments ts = .ok config →
        ofArguments (TokenStream.dissolve ts) = .ok config' →
          config'.dissolve = config.dissolve := by
  refine ⟨?accepted, fun config config' hconfig hconfig' => ?same⟩
  case accepted =>
    rw [exists_ofArguments_eq_ok_iff h, exists_ofArguments_eq_ok_iff hdissolve, ← forall₂_and]
    simp only [← namesFloats_map_dissolve_iff, ← Settings.mem_typeLists_of,
      Settings.of_map_dissolve, Settings.dissolve, List.forall_mem_map]
  case same =>
    rw [ofArguments_eq_ok_iff h] at hconfig
    rw [ofArguments_eq_ok_iff hdissolve, Settings.of_map_dissolve] at hconfig'
    obtain ⟨-, rfl⟩ := hconfig
    obtain ⟨hfloats, rfl⟩ := hconfig'
    have htexts : (Settings.of arguments).dissolve.typeLists.map (·.map compact) =
        (Settings.of arguments).typeLists.map (·.map compact) := by
      rw [Settings.dissolve, List.map_map]
      refine List.map_congr_left fun types htypes => ?_
      exact (hfloats _ (List.mem_map_of_mem htypes)).map_compact_dissolve
    rw [htexts]
    exact dissolve_withLast_dissolve _

/-- **Captured arguments.** A list with a veiled item is refused as malformed, and apart from these
no list is refused so which is accepted with its groups dissolved. A list of arguments is accepted
exactly if its type lists name floating-point types. With its groups dissolved it is a list of the
same arguments exactly if every path is still a path, and then it is accepted exactly if it is so
before, and no group keeps two words of a type together. If both are accepted, they ask for the
same, up to the groups in the path. -/
theorem ofArguments_dissolve (ts : TokenStream) :
    ((∃ item ∈ commaPieces ts, IsVeiled item) → ofArguments ts = .error .malformed) ∧
    (∀ config, ofArguments (TokenStream.dissolve ts) = .ok config →
      ofArguments ts = .error .malformed → ∃ item ∈ commaPieces ts, IsVeiled item) ∧
    ∀ arguments, ListsArguments ts arguments →
      ((∃ config, ofArguments ts = .ok config) ↔
        ∀ types, .types types ∈ arguments → NamesFloats types) ∧
      (ListsArguments (TokenStream.dissolve ts) (arguments.map Argument.dissolve) ↔
        ∀ argument ∈ arguments, ∀ path ∈ argument.paths, IsPath (TokenStream.dissolve path)) ∧
      (ListsArguments (TokenStream.dissolve ts) (arguments.map Argument.dissolve) →
        ((∃ config, ofArguments (TokenStream.dissolve ts) = .ok config) ↔
          (∃ config, ofArguments ts = .ok config) ∧
            ∀ types, .types types ∈ arguments →
              ∀ ty ∈ types, WordsApart (TokenStream.dissolve ty)) ∧
        ∀ config config', ofArguments ts = .ok config →
          ofArguments (TokenStream.dissolve ts) = .ok config' →
            config'.dissolve = config.dissolve) := by
  refine ⟨?veiled, ?refused, fun arguments harguments =>
    ⟨exists_ofArguments_eq_ok_iff harguments, listsArguments_dissolve_iff harguments,
      ofArguments_dissolve_of_listsArguments harguments⟩⟩
  case veiled =>
    rintro ⟨item, hitem, hveiled⟩
    rw [ofArguments_eq_malformed_iff]
    exact fun arguments harguments => harguments.not_isVeiled item hitem hveiled
  case refused =>
    intro config hconfig hmalformed
    by_contra hnone
    have hlisted : ∃ arguments, ListsArguments (TokenStream.dissolve ts) arguments := by
      by_contra hunlisted
      rw [ofArguments_eq_malformed_iff.2 (not_exists.1 hunlisted)] at hconfig
      cases hconfig
    obtain ⟨arguments', hlisted⟩ := hlisted
    obtain ⟨arguments, harguments⟩ :=
      exists_listsArguments_of_dissolve (by simpa using hnone) hlisted
    exact ofArguments_eq_malformed_iff.1 hmalformed arguments harguments

/-! ### Captures -/

open Code

/-- Tokens that a macro hands over as one capture. -/
def capture (ts : TokenStream) : TokenTree :=
  .group .invisible .callSite ts

/-- `$argument`, which is `types(f32)`. -/
def capturedArgument : TokenStream :=
  [capture [word "types", parens [word "f32"]]]

/-- `crate = $path, types($ty)`, which are `::motion` and `f32`. -/
def capturedPaths : TokenStream :=
  [word "crate", mark '=', capture (segments ["motion"]), mark ',', word "types",
    parens [capture [word "f32"]]]

/-- An argument is refused as it is captured, and accepted as it is typed. -/
theorem ofArguments_captured :
    ofArguments capturedArgument = .error .malformed ∧
      ofArguments (TokenStream.dissolve capturedArgument) =
        .ok { supportedTypes := ["f32"] } :=
  ⟨rfl, rfl⟩

/-- A captured argument is veiled. Captured paths and types are not, and the list they stand in
asks for the same with and without the groups. -/
theorem ofArguments_dissolve_captured :
    ((∃ item ∈ commaPieces capturedArgument, IsVeiled item) ∧
      ofArguments capturedArgument = .error .malformed) ∧
    (∃ arguments, ListsArguments capturedPaths arguments ∧
      ListsArguments (TokenStream.dissolve capturedPaths) (arguments.map Argument.dissolve)) ∧
    (∃ config, ofArguments (TokenStream.dissolve capturedPaths) = .ok config) ∧
    ∀ config config', ofArguments capturedPaths = .ok config →
      ofArguments (TokenStream.dissolve capturedPaths) = .ok config' →
        config'.dissolve = config.dissolve := by
  have hveiled : ∃ item ∈ commaPieces capturedArgument, IsVeiled item := by
    refine ⟨capturedArgument, List.mem_cons_self, ⟨_, _, List.mem_cons_self⟩, ?_⟩
    rintro path ⟨_, _, h, -⟩
    cases h
  have harguments : ListsArguments capturedPaths
      [.crate [capture (segments ["motion"])], .types [[capture [word "f32"]]]] :=
    commaList?_read?_eq_some_iff.1 rfl
  have hok : ofArguments capturedPaths = .ok
      { runtimePath := [capture (segments ["motion"])], supportedTypes := ["f32"] } := rfl
  obtain ⟨-, hlisted, hsame⟩ := (ofArguments_dissolve capturedPaths).2.2 _ harguments
  have hdissolve := hlisted.2 (by
    simp [paths, IsPath, CommaFree, capture, segments, operator, word, mark, dissolve_cons,
      TokenTree.dissolve, TokenTree.isPunct])
  have hapart : ∀ types, .types types ∈ [Argument.crate [capture (segments ["motion"])],
      .types [[capture [word "f32"]]]] → ∀ ty ∈ types, WordsApart (TokenStream.dissolve ty) := by
    simp [capture, word, dissolve_cons, TokenTree.dissolve, WordsApart]
  exact ⟨⟨hveiled, (ofArguments_dissolve _).1 hveiled⟩, ⟨_, harguments, hdissolve⟩,
    (hsame hdissolve).1.2 ⟨⟨_, hok⟩, hapart⟩, (hsame hdissolve).2⟩

end Config

end Tween
