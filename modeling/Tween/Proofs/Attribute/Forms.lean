import Tween.Declaration
import Tween.Host.Markers
import Tween.Proofs.Token.CommaList

/-!
# The written forms of attributes and declarations

What the readers of attributes, visibilities and declarations answer, told by the form of what they
read.

* `Attribute.leading_tokens`, `Visibility.leading_tokens`, `Declaration.read_tokens`: what is
  written is read back.
* `Attribute.markers_eq_ok_iff`: the words that an attribute marks its field with are those of a
  list of ignore words, and an attribute of another name has none.
* `Attribute.derives_iff`: the traits that an attribute derives are the last segments of the paths
  of a `derive` list, and an attribute of another form derives none.
-/

namespace Tween

/-! ## Attributes in front of something -/

namespace Attribute

variable {a : Attribute} {attributes : List Attribute} {ts rest : TokenStream}

/-- A pound sign stands in front of the brackets. -/
def IsWritten (a : Attribute) : Prop :=
  a.pound.char = '#'

/-- Attributes are read up to what does not begin with one. -/
theorem leading_tokens (hattributes : ∀ a ∈ attributes, a.IsWritten)
    (hrest : leading rest = ([], rest)) :
    leading (attributes.flatMap tokens ++ rest) = (attributes, rest) := by
  induction attributes with
  | nil => exact hrest
  | cons a attributes ih =>
    rw [List.forall_mem_cons] at hattributes
    have ha : a.pound.char = '#' := hattributes.1
    simp only [List.flatMap_cons, tokens, List.cons_append, List.nil_append, leading, ha, if_true,
      ih hattributes.2]

theorem isWritten_of_mem_leading (h : a ∈ (leading ts).1) : a.IsWritten := by
  fun_induction leading ts with
  | case1 pound span body rest hpound ih =>
    rcases List.mem_cons.1 h with rfl | h
    · exact hpound
    · exact ih h
  | case2 => simp at h
  | case3 => simp at h

/-- What follows the attributes does not begin with one. -/
theorem leading_leading (ts : TokenStream) :
    leading (leading ts).2 = ([], (leading ts).2) := by
  fun_induction leading ts with
  | case1 pound span body rest _ ih => exact ih
  | case2 pound span body rest hpound => simp [leading, hpound]
  | case3 ts h => exact leading.eq_2 ts h

end Attribute

namespace Visibility

/-- The word is `pub`, if there is one. -/
def IsWritten : Visibility → Prop
  | inherited => True
  | pub word | restricted word _ _ => word.text = "pub"

/-- A visibility is read back in front of a word. If there is none, the word must not be `pub`. -/
theorem leading_tokens {visibility : Visibility} {word : Ident} (hvisibility : visibility.IsWritten)
    (hword : visibility = .inherited → word.text ≠ "pub") (rest : TokenStream) :
    leading (visibility.tokens ++ .ident word :: rest) = (visibility, .ident word :: rest) := by
  cases visibility with
  | inherited =>
    rw [tokens, List.nil_append, leading.eq_def]
    split <;> simp_all
  | pub word => simp_all [IsWritten, tokens, leading]
  | restricted word span scope => simp_all [IsWritten, tokens, leading]

theorem isWritten_leading (ts : TokenStream) : (leading ts).1.IsWritten := by
  unfold leading
  split <;> (try split) <;> simp_all [IsWritten]

/-- Where no visibility is read, the first word is not `pub`. -/
theorem ne_pub_of_leading {ts rest : TokenStream} {word : Ident} (h : (leading ts).1 = inherited)
    (hts : (leading ts).2 = .ident word :: rest) : word.text ≠ "pub" := by
  unfold leading at h hts
  split at hts <;> (try split at hts) <;> simp_all

end Visibility

/-- **A declaration is read back** if its content begins with a word, other than `pub` where there
is no visibility. -/
theorem Declaration.read_tokens {d : Declaration} {word : Ident} {rest : TokenStream}
    (hattributes : ∀ a ∈ d.attributes, a.IsWritten) (hvisibility : d.visibility.IsWritten)
    (hcontent : d.content = .ident word :: rest)
    (hword : d.visibility = .inherited → word.text ≠ "pub") : read d.tokens = d := by
  obtain ⟨attributes, visibility, content⟩ := d
  subst hcontent
  have hfront : Attribute.leading (visibility.tokens ++ .ident word :: rest) =
      ([], visibility.tokens ++ .ident word :: rest) := by
    cases visibility <;> rfl
  simp only [read, tokens, List.append_assoc, Attribute.leading_tokens hattributes hfront,
    Visibility.leading_tokens hvisibility hword]

/-! ## What an attribute says -/

namespace Attribute

open TokenStream

variable {a : Attribute} {config : Config}

theorem nameIs?_eq_some {name : String} {word : Ident} :
    a.nameIs? name = some word ↔ word.text = name ∧ ∃ rest, a.body = .ident word :: rest := by
  obtain ⟨pound, span, body⟩ := a
  unfold nameIs? name? headIdent?
  split <;> simp_all [Option.filter, and_comm]

theorem nameIs?_eq_none {name : String} :
    a.nameIs? name = none ↔ ∀ word rest, a.body = .ident word :: rest → word.text ≠ name := by
  rw [Option.eq_none_iff_forall_ne_some]
  simp only [ne_eq, nameIs?_eq_some, not_and, not_exists]
  exact ⟨fun h word rest hbody hword => h word hword rest hbody,
    fun h word hword rest hbody => h word rest hbody hword⟩

/-- The attribute is `name(item, …)` with these items. -/
def IsList (name : String) (items : List TokenStream) (a : Attribute) : Prop :=
  ∃ word span arguments, a.body = [.ident word, .group .parenthesis span arguments] ∧
    word.text = name ∧ CommaList items arguments

/-- What the attribute marks its field with: the words of a list of ignore words under the name of
the pass, and nothing if it has another name. -/
inductive Marks (config : Config) (a : Attribute) : List Ident → Prop
  | other (hname : ∀ word rest, a.body = .ident word :: rest →
      word.text ≠ config.attributeName) : Marks config a []
  | list {words : List Ident}
      (hlist : a.IsList config.attributeName (words.map fun word => [.ident word]))
      (hwords : ∀ word ∈ words, word.text = config.ignoreWord) : Marks config a words

/-- A word that marks a field is the ignore word. -/
theorem Marks.text_eq {words : List Ident} (h : a.Marks config words) {word : Ident}
    (hword : word ∈ words) : word.text = config.ignoreWord := by
  cases h with
  | other => cases hword
  | list _ hwords => exact hwords word hword

theorem text_eq_of_mem_flatten {attributes : List Attribute} {marks : List (List Ident)}
    (h : List.Forall₂ (Marks config) attributes marks) {word : Ident}
    (hword : word ∈ marks.flatten) : word.text = config.ignoreWord := by
  obtain ⟨words, hwords, hword⟩ := List.mem_flatten.1 hword
  obtain ⟨a, -, hmarks⟩ := exists_of_forall₂_of_mem h.flip hwords
  exact hmarks.text_eq hword

/-- What a path names: the identifier that no other follows outside any group, or nothing if there
is none. -/
inductive LastSegment : TokenStream → Option String → Prop
  | word (front : TokenStream) (word : Ident) {back : TokenStream}
      (hback : ∀ other : Ident, .ident other ∉ back) :
      LastSegment (front ++ .ident word :: back) (some word.text)
  | nothing {path : TokenStream} (hpath : ∀ word : Ident, .ident word ∉ path) :
      LastSegment path none

/-- Which traits the attribute derives: the last segments of the paths of a `derive` list, and none
if it is no such list. -/
inductive Derives (a : Attribute) : List String → Prop
  | list {paths : List TokenStream} {names : List (Option String)}
      (hlist : a.IsList "derive" paths)
      (hpaths : ∀ path ∈ paths, CommaFree path ∧ path ≠ [])
      (hnames : List.Forall₂ LastSegment paths names) : Derives a (names.filterMap id)
  | other (hlist : ∀ paths, a.IsList "derive" paths →
      ¬ ∀ path ∈ paths, CommaFree path ∧ path ≠ []) : Derives a []

/-- The arguments of an attribute as `read?` reads them. -/
theorem arguments?_bind_eq_some {α : Type} {read? : TokenStream → Option α} {x : α} :
    a.arguments?.bind read? = some x ↔
      ∃ word span arguments, a.body = [.ident word, .group .parenthesis span arguments] ∧
        read? arguments = some x := by
  simp only [Option.bind_eq_some_iff, arguments?_eq_some]
  constructor
  · rintro ⟨arguments, ⟨word, span, hbody⟩, hread⟩
    exact ⟨word, span, arguments, hbody, hread⟩
  · rintro ⟨word, span, arguments, hbody, hread⟩
    exact ⟨arguments, ⟨word, span, hbody⟩, hread⟩

/-- An attribute of the given name lists what the reader of lists finds in its arguments. -/
theorem isList_iff {name : String} {word : Ident} (hname : a.nameIs? name = some word)
    {items : List TokenStream} :
    a.IsList name items ↔ ∃ word span arguments,
      a.body = [.ident word, .group .parenthesis span arguments] ∧ CommaList items arguments := by
  obtain ⟨hword, rest, hbody⟩ := nameIs?_eq_some.1 hname
  constructor
  · rintro ⟨word', span, arguments, hbody', -, hlist⟩
    exact ⟨word', span, arguments, hbody', hlist⟩
  · rintro ⟨word', span, arguments, hbody', hlist⟩
    have hsame : word' = word := by
      rw [hbody, List.cons.injEq, TokenTree.ident.injEq] at hbody'
      exact hbody'.1.symm
    exact ⟨word', span, arguments, hbody', hsame ▸ hword, hlist⟩

theorem IsList.exists_nameIs? {name : String} {items : List TokenStream}
    (h : a.IsList name items) : ∃ word, a.nameIs? name = some word := by
  obtain ⟨word, span, arguments, hbody, hword, -⟩ := h
  exact ⟨word, nameIs?_eq_some.2 ⟨hword, _, hbody⟩⟩

/-- A list of words is what the reader of such lists finds. -/
theorem isList_words_iff {name : String} {word : Ident} (hname : a.nameIs? name = some word)
    {words : List Ident} :
    a.IsList name (words.map fun word => [.ident word]) ↔
      a.arguments?.bind (commaList? ident?) = some words := by
  simp only [isList_iff hname, arguments?_bind_eq_some, commaList?_ident?_eq_some_iff]

/-- **The markers of one attribute**. -/
theorem markers_eq_ok_iff {words : List Ident} :
    a.markers config = .ok words ↔ a.Marks config words := by
  constructor
  · intro h
    unfold markers at h
    split at h
    · rename_i hname
      cases h
      exact .other (nameIs?_eq_none.1 hname)
    · rename_i name hname
      split at h
      · cases h
      · rename_i listed hlisted
        split at h
        · cases h
        · rename_i hfind
          cases h
          refine .list ((isList_words_iff hname).2 hlisted) ?_
          simpa using List.find?_eq_none.1 hfind
  · intro h
    cases h with
    | other hname => simp only [markers, nameIs?_eq_none.2 hname]
    | list hlist hwords =>
      obtain ⟨name, hname⟩ := hlist.exists_nameIs?
      have hread := (isList_words_iff hname).1 hlist
      have hfind : words.find? (fun word => word.text ≠ config.ignoreWord) = none := by
        simpa using hwords
      simp only [markers, hname, hread, hfind]

/-- **The markers of all attributes of a field**, in their order. -/
theorem allMarkers_eq_ok_iff {attributes : List Attribute} {words : List Ident} :
    allMarkers config attributes = .ok words ↔
      ∃ marks, List.Forall₂ (Marks config) attributes marks ∧ marks.flatten = words := by
  have hmarks : ∀ marks, attributes.mapM (markers config) = .ok marks ↔
      List.Forall₂ (Marks config) attributes marks := by
    intro marks
    rw [mapM_eq_ok_iff]
    simp only [markers_eq_ok_iff]
  unfold allMarkers
  cases h : attributes.mapM (markers config) with
  | error e =>
    simp only [Except.map, ← hmarks, h]
    simp
  | ok marks =>
    simp only [Except.map, ← hmarks, h]
    simp

theorem idents_eq_nil_iff : idents ts = [] ↔ ∀ word : Ident, .ident word ∉ ts := by
  rw [idents, List.filterMap_eq_nil_iff]
  constructor
  · intro h word hword
    cases h _ hword
  · intro h t ht
    cases t with
    | ident word => exact absurd ht (h word)
    | _ => rfl

/-- The identifier that no other follows is the last one that is found. -/
theorem lastSegment?_eq_iff {path : TokenStream} {name? : Option String} :
    lastSegment? path = name? ↔ LastSegment path name? := by
  constructor
  · rintro rfl
    unfold lastSegment?
    cases hlast : (idents path).getLast? with
    | none => exact .nothing (idents_eq_nil_iff.1 (List.getLast?_eq_none_iff.1 hlast))
    | some word =>
      obtain ⟨others, hothers⟩ := List.getLast?_eq_some_iff.1 hlast
      obtain ⟨front, rest, rfl, -, hrest⟩ := List.filterMap_eq_append_iff.1 hothers
      -- in front of the word and behind it the rest has no identifiers
      obtain ⟨middle, t, back, rfl, -, ht, hback⟩ := List.filterMap_eq_cons_iff.1 hrest
      obtain rfl := TokenTree.ident?_eq_some.1 ht
      rw [← List.append_assoc]
      exact .word (front ++ middle) word (idents_eq_nil_iff.1 hback)
  · intro h
    cases h with
    | word front word hback =>
      have hback := idents_eq_nil_iff.2 hback
      unfold idents at hback
      simp [lastSegment?, idents, TokenTree.ident?, hback]
    | nothing hpath => simp [lastSegment?, idents_eq_nil_iff.2 hpath]

theorem rightUnique_lastSegment : Relator.RightUnique LastSegment := by
  intro path name? name?' h h'
  rw [← lastSegment?_eq_iff.2 h, lastSegment?_eq_iff.2 h']

/-- **The traits one attribute derives**. -/
theorem derives_derivedTraits (a : Attribute) : a.Derives a.derivedTraits := by
  unfold derivedTraits
  split
  · rename_i hname
    refine .other fun paths hlist => ?_
    obtain ⟨word, hword⟩ := hlist.exists_nameIs?
    rw [hname] at hword
    cases hword
  · rename_i name hname
    split
    · rename_i hread
      refine .other fun paths hlist hpaths => ?_
      obtain ⟨word, span, arguments, hbody, hcomma⟩ := (isList_iff hname).1 hlist
      have : a.arguments?.bind (commaList? path?) = some paths :=
        arguments?_bind_eq_some.2
          ⟨word, span, arguments, hbody, commaList?_path?_eq_some_iff.2 ⟨hcomma, hpaths⟩⟩
      rw [hread] at this
      cases this
    · rename_i paths hread
      obtain ⟨word, span, arguments, hbody, hpaths⟩ := arguments?_bind_eq_some.1 hread
      obtain ⟨hcomma, hpaths⟩ := commaList?_path?_eq_some_iff.1 hpaths
      have hnames : List.Forall₂ LastSegment paths (paths.map lastSegment?) := by
        rw [List.forall₂_map_right_iff, List.forall₂_same]
        exact fun _ _ => lastSegment?_eq_iff.1 rfl
      have hflat : (paths.map lastSegment?).filterMap id = paths.filterMap lastSegment? := by
        rw [List.filterMap_map, Function.id_comp]
      rw [← hflat]
      exact .list ((isList_iff hname).2 ⟨word, span, arguments, hbody, hcomma⟩) hpaths hnames

/-- A list of paths is written in one way only. -/
theorem IsList.unique {name : String} {paths paths' : List TokenStream}
    (h : a.IsList name paths) (h' : a.IsList name paths')
    (hpaths : ∀ path ∈ paths, CommaFree path ∧ path ≠ [])
    (hpaths' : ∀ path ∈ paths', CommaFree path ∧ path ≠ []) : paths = paths' := by
  obtain ⟨word, span, arguments, hbody, -, hlist⟩ := h
  obtain ⟨word', span', arguments', hbody', -, hlist'⟩ := h'
  have hsame : arguments = arguments' := by simp_all
  subst hsame
  rw [← commaPieces_of_commaList hlist hpaths, commaPieces_of_commaList hlist' hpaths']

/-- What an attribute derives is what is read off it. -/
theorem derives_iff {traits : List String} : a.Derives traits ↔ traits = a.derivedTraits := by
  constructor
  · intro h
    have hread := a.derives_derivedTraits
    generalize a.derivedTraits = traits' at hread
    cases h with
    | list hlist hpaths hnames =>
      cases hread with
      | list hlist' hpaths' hnames' =>
        obtain rfl := hlist.unique hlist' hpaths hpaths'
        rw [List.right_unique_forall₂' rightUnique_lastSegment hnames hnames']
      | other hother => exact absurd hpaths (hother _ hlist)
    | other hother =>
      cases hread with
      | list hlist hpaths => exact absurd hpaths (hother _ hlist)
      | other => rfl
  · rintro rfl
    exact a.derives_derivedTraits

theorem forall₂_derives_iff {traits : List (List String)} :
    List.Forall₂ Derives attributes traits ↔ traits = attributes.map derivedTraits := by
  rw [← forall₂_eq_map_iff]
  constructor
  · exact fun h => (h.imp fun _ _ => derives_iff.1).flip
  · exact fun h => (h.imp fun _ _ => derives_iff.2).flip

end Attribute

end Tween
