import Tween.Proofs.Host.Written

/-!
# Why a field list is refused

A struct in braces is refused for one of its entries: the first that is no named field, or on which
an attribute with the name of the pass is anything but a list of ignore words. What is reported
depends on that entry alone, not on those behind it.

* `Attribute.markers_eq_error_iff`: what is reported about an attribute (`Attribute.Misuse`).
* `Field.exists_read_named_eq_error_iff`, `Field.report_read_named_iff`: the entries that are
  refused (`EntryRefused`), and what is reported about them (`EntryFault`).
* `Host.read_braces_eq_error_iff`: the structs that are refused, for which entry, and that the
  report points at a word of the item.
-/

namespace Tween

open AngleScan TokenStream

variable {config : Config}

/-! ## Attributes -/

namespace Attribute

variable {a : Attribute} {attributes : List Attribute}

/-- The attribute has the name of the pass, but is no list of ignore words under that name. -/
def IsMisused (config : Config) (a : Attribute) : Prop :=
  (∃ word rest, a.body = .ident word :: rest ∧ word.text = config.attributeName) ∧
    ∀ words : List Ident, (∀ word ∈ words, word.text = config.ignoreWord) →
      ¬ a.IsList config.attributeName (words.map fun word => [.ident word])

/-- What is reported about an attribute with the name of the pass, and the word the report is
anchored at. -/
inductive Misuse (config : Config) (a : Attribute) : Ident → Diagnostic → Prop
  /-- It is no list of words: its name. -/
  | malformed {name : Ident} {rest : TokenStream} (hbody : a.body = .ident name :: rest)
      (hname : name.text = config.attributeName)
      (hlist : ∀ words : List Ident,
        ¬ a.IsList config.attributeName (words.map fun word => [.ident word])) :
      Misuse config a name ⟨.invalidArguments, s!"invalid {config.attributeText} arguments: " ++
        s!"expected `{config.markerText}` on a field", name.span⟩
  /-- It lists a word that is not the ignore word: the first of them. -/
  | unknown {good more : List Ident} {word : Ident}
      (hlist : a.IsList config.attributeName
        ((good ++ word :: more).map fun word => [.ident word]))
      (hgood : ∀ word ∈ good, word.text = config.ignoreWord)
      (hword : word.text ≠ config.ignoreWord) :
      Misuse config a word ⟨.invalidArguments, s!"invalid {config.attributeText} arguments: " ++
        (s!"unknown field marker `{word.text}` in `{config.attributeName}" ++
          s!"`, expected `{config.ignoreWord}`"), word.span⟩

/-- The message about a word that is not the ignore word, where the name of the attribute is the
name of the pass. -/
theorem report_unknown {name : Ident} (hname : name.text = config.attributeName) (word : Ident) :
    (MarkerError.unknown name word).report config =
      ⟨.invalidArguments, s!"invalid {config.attributeText} arguments: " ++
        (s!"unknown field marker `{word.text}` in `{config.attributeName}" ++
          s!"`, expected `{config.ignoreWord}`"), word.span⟩ := by
  simp only [MarkerError.report, Diagnostic.invalidArguments, hname, String.append_assoc]
  rfl

theorem isMisused_iff : a.IsMisused config ↔ ∀ words, ¬ a.Marks config words := by
  constructor
  · rintro ⟨⟨name, rest, hbody, hname⟩, hlist⟩ words hmarks
    cases hmarks with
    | other hother => exact hother name rest hbody hname
    | list hwords hignore => exact hlist words hignore hwords
  · intro h
    have hcalled : ∃ word rest, a.body = .ident word :: rest ∧
        word.text = config.attributeName := by
      by_contra hother
      refine h [] (.other fun word rest hbody hname => hother ⟨word, rest, hbody, hname⟩)
    exact ⟨hcalled, fun words hignore hwords => h words (.list hwords hignore)⟩

/-- **What is reported about an attribute** that is refused. -/
theorem markers_eq_error_iff {d : Diagnostic} :
    (∃ e, a.markers config = .error e ∧ e.report config = d) ↔
      ∃ word, a.Misuse config word d := by
  constructor
  · rintro ⟨e, h, rfl⟩
    unfold markers at h
    split at h
    · cases h
    · rename_i name hname
      obtain ⟨htext, rest, hbody⟩ := nameIs?_eq_some.1 hname
      split at h
      · rename_i hnone
        cases h
        refine ⟨name, .malformed hbody htext fun words hlist => ?_⟩
        rw [isList_words_iff hname, hnone] at hlist
        cases hlist
      · rename_i words hwords
        split at h
        · rename_i word hfind
          cases h
          obtain ⟨hword, good, more, rfl, hgood⟩ := List.find?_eq_some_iff_append.1 hfind
          rw [report_unknown htext]
          exact ⟨word, .unknown ((isList_words_iff hname).2 hwords) (by simpa using hgood)
            (by simpa using hword)⟩
        · cases h
  · rintro ⟨word, h⟩
    cases h with
    | malformed hbody htext hlist =>
      have hname := nameIs?_eq_some.2 ⟨htext, _, hbody⟩
      have hnone : a.arguments?.bind (commaList? ident?) = none :=
        Option.eq_none_iff_forall_ne_some.2 fun words hwords =>
          hlist words ((isList_words_iff hname).2 hwords)
      exact ⟨.malformed word, by simp only [markers, hname, hnone], rfl⟩
    | @unknown good more _ hlist hgood hword =>
      obtain ⟨name, hname⟩ := hlist.exists_nameIs?
      have hread := (isList_words_iff hname).1 hlist
      have hfind : (good ++ word :: more).find? (fun word => word.text ≠ config.ignoreWord) =
          some word :=
        List.find?_eq_some_iff_append.2
          ⟨by simpa using hword, good, more, rfl, by simpa using hgood⟩
      exact ⟨.unknown name word, by simp only [markers, hname, hread, hfind],
        report_unknown (nameIs?_eq_some.1 hname).1 word⟩

theorem exists_markers_eq_error_iff :
    (∃ e, a.markers config = .error e) ↔ a.IsMisused config := by
  rw [isMisused_iff]
  simp only [← markers_eq_ok_iff]
  cases a.markers config <;> simp

theorem exists_markers_eq_ok_iff :
    (∃ words, a.markers config = .ok words) ↔ ¬ a.IsMisused config := by
  rw [exists_eq_ok_iff, exists_markers_eq_error_iff]

theorem allMarkers_eq_error {e : MarkerError} :
    allMarkers config attributes = .error e ↔ attributes.mapM (markers config) = .error e := by
  unfold allMarkers
  cases attributes.mapM (markers config) <;> simp [Except.map]

theorem exists_allMarkers_eq_error_iff :
    (∃ e, allMarkers config attributes = .error e) ↔ ∃ a ∈ attributes, a.IsMisused config := by
  simp only [allMarkers_eq_error, exists_mapM_eq_error_iff, exists_markers_eq_error_iff]

/-- The first attribute that is misused is the one that is reported. -/
theorem allMarkers_eq_error_iff {e : MarkerError} :
    allMarkers config attributes = .error e ↔ ∃ front a back, attributes = front ++ a :: back ∧
      (∀ b ∈ front, ¬ b.IsMisused config) ∧ a.markers config = .error e := by
  simp only [allMarkers_eq_error, mapM_eq_error_iff, exists_markers_eq_ok_iff]

end Attribute

/-! ## Entries -/

/-- The entry is a named field behind these attributes: a visibility or none, a name, a colon, and
any tokens. As `pub` in front is always a visibility, a name without one is not `pub`. -/
structure NamedEntry (entry : TokenStream) (attributes : List Attribute) : Prop where
  attributes_written : ∀ a ∈ attributes, a.IsWritten
  tokens : ∃ (visibility : Visibility) (name : Ident) (colon : Punct) (ty : TokenStream),
    entry = attributes.flatMap Attribute.tokens ++ visibility.tokens ++
      .ident name :: .punct colon :: ty ∧
    visibility.IsWritten ∧ (visibility = .inherited → name.text ≠ "pub") ∧ colon.char = ':'

/-- The entry is no named field, or misuses an attribute. -/
def EntryRefused (config : Config) (entry : TokenStream) : Prop :=
  (∀ attributes, ¬ NamedEntry entry attributes) ∨
    ∃ attributes, NamedEntry entry attributes ∧ ∃ a ∈ attributes, a.IsMisused config

/-- What is reported about an entry of the struct called `host`, and the word it is anchored at. -/
inductive EntryFault (config : Config) (host : Ident) (entry : TokenStream) :
    Ident → Diagnostic → Prop
  /-- It is no named field: the name of the struct. -/
  | noField (hentry : ∀ attributes, ¬ NamedEntry entry attributes) :
      EntryFault config host entry host ⟨.internalInvariant, "something went wrong: " ++
        s!"could not parse a field of `{host.text}`: {Diagnostic.unreadable}", host.span⟩
  /-- Attributes of it are misused: the first of them. -/
  | marker {front back : List Attribute} {a : Attribute} {word : Ident} {d : Diagnostic}
      (hentry : NamedEntry entry (front ++ a :: back))
      (hfront : ∀ b ∈ front, ¬ b.IsMisused config) (ha : a.Misuse config word d) :
      EntryFault config host entry word d

section

variable {host : Ident} {entry : TokenStream} {attributes : List Attribute}

/-- The reader of declarations finds the one way in which an entry is a named field. -/
theorem namedEntry_iff : NamedEntry entry attributes ↔
    (Declaration.read entry).attributes = attributes ∧
      ∃ r, FieldStyle.named.split? (Declaration.read entry).content = some r := by
  constructor
  · rintro ⟨hattributes, visibility, name, colon, ty, rfl, hvisibility, hname, hcolon⟩
    have hread : Declaration.read (Declaration.tokens
        ⟨attributes, visibility, .ident name :: .punct colon :: ty⟩) = _ :=
      Declaration.read_tokens hattributes hvisibility rfl hname
    rw [Declaration.tokens] at hread
    rw [hread]
    exact ⟨rfl, _, FieldStyle.split?_named_eq_some_iff.2 ⟨name, colon, rfl, hcolon, rfl⟩⟩
  · rintro ⟨rfl, ⟨name?, ty⟩, hsplit⟩
    obtain ⟨hentry, hwritten⟩ := Declaration.read_eq_iff.1 (Eq.refl (Declaration.read entry))
    obtain ⟨name, colon, hcontent, hcolon, -⟩ := FieldStyle.split?_named_eq_some_iff.1 hsplit
    refine ⟨hwritten.attributes, (Declaration.read entry).visibility, name, colon, ty, ?_,
      hwritten.visibility, fun hnone => hwritten.no_pub hnone _ _ hcontent, hcolon⟩
    rw [← hcontent]
    exact hentry

theorem forall_not_namedEntry_iff : (∀ attributes, ¬ NamedEntry entry attributes) ↔
    FieldStyle.named.split? (Declaration.read entry).content = none := by
  simp only [namedEntry_iff, not_and, not_exists, forall_eq', Option.eq_none_iff_forall_ne_some,
    ne_eq]

/-- The reader of fields: the form of the entry is looked at first, then its attributes. -/
theorem Field.read_named_eq_error_iff {e : HostError} :
    Field.read config host .named entry = .error e ↔
      ((∀ attributes, ¬ NamedEntry entry attributes) ∧ e = .badField host) ∨
      ∃ attributes cause, NamedEntry entry attributes ∧
        Attribute.allMarkers config attributes = .error cause ∧ e = .badMarker cause := by
  rw [forall_not_namedEntry_iff]
  cases hsplit : FieldStyle.named.split? (Declaration.read entry).content with
  | none =>
    simp only [Field.read, namedEntry_iff, hsplit]
    simp [eq_comm]
  | some r =>
    cases hmarkers : Attribute.allMarkers config (Declaration.read entry).attributes with
    | error cause =>
      simp only [Field.read, namedEntry_iff, hsplit, hmarkers]
      simp [hmarkers, eq_comm]
    | ok markers =>
      simp only [Field.read, namedEntry_iff, hsplit, hmarkers]
      simp [hmarkers]

/-- **The entries that are refused**. -/
theorem Field.exists_read_named_eq_error_iff :
    (∃ e, Field.read config host .named entry = .error e) ↔ EntryRefused config entry := by
  simp only [read_named_eq_error_iff, EntryRefused, ← Attribute.exists_allMarkers_eq_error_iff]
  constructor
  · rintro ⟨e, ⟨hentry, -⟩ | ⟨attributes, cause, hentry, hcause, -⟩⟩
    · exact .inl hentry
    · exact .inr ⟨attributes, hentry, cause, hcause⟩
  · rintro (hentry | ⟨attributes, hentry, cause, hcause⟩)
    · exact ⟨_, .inl ⟨hentry, rfl⟩⟩
    · exact ⟨_, .inr ⟨attributes, cause, hentry, hcause, rfl⟩⟩

/-- **What is reported about an entry** that is refused. -/
theorem Field.report_read_named_iff {d : Diagnostic} :
    (∃ e, Field.read config host .named entry = .error e ∧ e.report config = d) ↔
      ∃ word, EntryFault config host entry word d := by
  constructor
  · rintro ⟨e, he, rfl⟩
    obtain ⟨hentry, rfl⟩ | ⟨attributes, cause, hentry, hcause, rfl⟩ := read_named_eq_error_iff.1 he
    · exact ⟨host, .noField hentry⟩
    · obtain ⟨front, a, back, rfl, hfront, ha⟩ := Attribute.allMarkers_eq_error_iff.1 hcause
      obtain ⟨word, hword⟩ := Attribute.markers_eq_error_iff.1 ⟨cause, ha, rfl⟩
      exact ⟨word, .marker hentry hfront hword⟩
  · rintro ⟨word, h⟩
    cases h with
    | noField hentry => exact ⟨_, read_named_eq_error_iff.2 (.inl ⟨hentry, rfl⟩), rfl⟩
    | @marker front back a _ _ hentry hfront ha =>
      obtain ⟨cause, hcause, rfl⟩ := Attribute.markers_eq_error_iff.2 ⟨word, ha⟩
      have hall := Attribute.allMarkers_eq_error_iff.2 ⟨front, a, back, rfl, hfront, hcause⟩
      exact ⟨_, read_named_eq_error_iff.2 (.inr ⟨_, cause, hentry, hall, rfl⟩), rfl⟩

end

/-! ## Where reports point -/

/-- The word is one of the tokens of the stream, at any depth. -/
def TokenStream.HasWord (word : Ident) (ts : TokenStream) : Prop :=
  ¬ Everywhere (· ≠ .ident word) ts

section

variable {word : Ident} {ts : TokenStream}

/-- Invisible groups hold words of the stream like any other group. -/
theorem TokenStream.HasWord.of_dissolve (h : HasWord word (TokenStream.dissolve ts)) :
    HasWord word ts := by
  refine mt (Everywhere.dissolve ?_) h
  rintro _ _ _ _ - ⟨⟩

theorem TokenStream.CommaList.everywhere {p : TokenTree → Prop} {items : List TokenStream}
    (h : CommaList items ts) (hts : Everywhere p ts) : ∀ item ∈ items, Everywhere p item := by
  induction h with
  | nil => simp
  | last _ => simpa using hts
  | cons _ _ _ ih =>
    rw [everywhere_append, everywhere_cons] at hts
    exact List.forall_mem_cons.2 ⟨hts.1, ih hts.2.2⟩

/-- A report about an attribute points at a word of its body. -/
theorem Attribute.Misuse.anchor {a : Attribute} {d : Diagnostic} (h : a.Misuse config word d) :
    d.span = word.span ∧ HasWord word a.body := by
  cases h with
  | malformed hbody _ _ =>
    refine ⟨rfl, fun hts => ?_⟩
    rw [hbody] at hts
    exact hts.1 rfl
  | unknown hlist _ _ =>
    obtain ⟨_, _, arguments, hbody, -, hlist⟩ := hlist
    refine ⟨rfl, fun hts => ?_⟩
    rw [hbody] at hts
    have hword : Everywhere (· ≠ .ident word) [.ident word] :=
      hlist.everywhere hts.2.1.2 _ (by simp)
    exact hword.1 rfl

/-- A report about an entry points at the name of the struct, or at a word of the entry. -/
theorem EntryFault.anchor {host : Ident} {entry : TokenStream} {d : Diagnostic}
    (h : EntryFault config host entry word d) :
    d.span = word.span ∧ (word = host ∨ HasWord word entry) := by
  cases h with
  | noField => exact ⟨rfl, .inl rfl⟩
  | @marker front back a _ _ hentry hfront ha =>
    obtain ⟨hspan, hword⟩ := ha.anchor
    refine ⟨hspan, .inr fun hts => hword ?_⟩
    obtain ⟨_, _, _, _, rfl, -⟩ := hentry.tokens
    rw [List.append_assoc, everywhere_append, List.flatMap_append, List.flatMap_cons,
      everywhere_append, everywhere_append] at hts
    exact hts.1.2.1.2.1.2

end

/-! ## Structs -/

namespace Host

variable {item contents : TokenStream} {attributes : List Attribute} {visibility : Visibility}
  {keyword name : Ident} {span : Span} {pieces : List TokenStream}

theorem exists_read_named_eq_ok_iff {host : Ident} {entry : TokenStream} :
    (∃ field, Field.read config host .named entry = .ok field) ↔ ¬ EntryRefused config entry := by
  rw [exists_eq_ok_iff, Field.exists_read_named_eq_error_iff]

/-- What is reported about a field list is what is reported about the first entry that is
refused. -/
theorem report_readFields_iff {d : Diagnostic} :
    (∃ e, (StructBody.fields .named contents).readFields config name = .error e ∧
        e.report config = d) ↔
      ∃ front entry back word, TokenStream.entries contents = front ++ entry :: back ∧
        (∀ good ∈ front, ¬ EntryRefused config good) ∧ EntryFault config name entry word d := by
  simp only [StructBody.readFields, mapM_eq_error_iff, exists_read_named_eq_ok_iff]
  constructor
  · rintro ⟨e, ⟨front, entry, back, hentries, hfront, hentry⟩, hreport⟩
    obtain ⟨word, hword⟩ := Field.report_read_named_iff.1 ⟨e, hentry, hreport⟩
    exact ⟨front, entry, back, word, hentries, hfront, hword⟩
  · rintro ⟨front, entry, back, word, hentries, hfront, hfault⟩
    obtain ⟨e, hentry, hreport⟩ := Field.report_read_named_iff.2 ⟨word, hfault⟩
    exact ⟨e, ⟨front, entry, back, hentries, hfront, hentry⟩, hreport⟩

theorem exists_readFields_eq_error_iff :
    (∃ e, (StructBody.fields .named contents).readFields config name = .error e) ↔
      ∃ entry ∈ TokenStream.entries contents, EntryRefused config entry := by
  simp only [StructBody.readFields, exists_mapM_eq_error_iff, Field.exists_read_named_eq_error_iff]

/-- **Which structs in braces are refused, and why.** The field list is cut into pieces at the
commas outside angle brackets. A struct is refused if one of the pieces that are not empty is no
named field, or misuses an attribute with the name of the pass; what is reported is what is wrong
with the first of these, whatever follows it; and the report points at a word of the item. -/
theorem read_braces_eq_error_iff (hattributes : ∀ a ∈ attributes, a.IsWritten)
    (hvisibility : visibility.IsWritten) (hkeyword : keyword.text = "struct")
    (hitem : TokenStream.dissolve item = attributes.flatMap Attribute.tokens ++
      visibility.tokens ++ [.ident keyword, .ident name, .group .brace span contents])
    (hcuts : Cuts start pieces contents) :
    ((∃ d, (read config item).mapError (HostError.report config) = .error d) ↔
      ∃ entry ∈ pieces, entry ≠ [] ∧ EntryRefused config entry) ∧
    (∀ d, (read config item).mapError (HostError.report config) = .error d ↔
      ∃ front entry back word, pieces.filter (!·.isEmpty) = front ++ entry :: back ∧
        (∀ good ∈ front, ¬ EntryRefused config good) ∧ EntryFault config name entry word d) ∧
    ∀ entry ∈ pieces, ∀ word d, EntryFault config name entry word d →
      d.span = word.span ∧ HasWord word item := by
  have hentries : TokenStream.entries contents = pieces.filter (!·.isEmpty) := by
    rw [TokenStream.entries, pieces_eq_iff_cuts.2 hcuts]
  have hread : ∀ d, (read config item).mapError (HostError.report config) = .error d ↔
      ∃ e, (StructBody.fields .named contents).readFields config name = .error e ∧
        e.report config = d := by
    intro d
    rw [read_braces hattributes hvisibility hkeyword hitem]
    cases (StructBody.fields .named contents).readFields config name <;>
      simp [Except.map, Except.mapError]
  refine ⟨?refused, ?reported, ?anchored⟩
  case refused =>
    have hexists : (∃ d, (read config item).mapError (HostError.report config) = .error d) ↔
        ∃ e, (StructBody.fields .named contents).readFields config name = .error e := by
      simp only [hread]
      constructor
      · rintro ⟨_, e, he, -⟩
        exact ⟨e, he⟩
      · rintro ⟨e, he⟩
        exact ⟨_, e, he, rfl⟩
    rw [hexists, exists_readFields_eq_error_iff, hentries]
    simp [and_assoc]
  case reported =>
    intro d
    rw [hread, report_readFields_iff, hentries]
  case anchored =>
    intro entry hentry word d hfault
    obtain ⟨hspan, hword⟩ := hfault.anchor
    refine ⟨hspan, HasWord.of_dissolve fun hts => ?_⟩
    rw [hitem, everywhere_append] at hts
    obtain rfl | hword := hword
    · exact hts.2.2.1 rfl
    · exact hword (hcuts.everywhere hts.2.2.2.1.2 entry hentry)

end Host

/-! ### A struct with two entries that are refused -/

namespace Sprite

open Code

/-- `#[animatable(ignore, skip, drop)]` -/
def skip : Attribute :=
  ⟨⟨'#', .alone, .callSite⟩, .callSite, [word "animatable", parens [word "ignore", mark ',',
    .ident ⟨"skip", .token "skip"⟩, mark ',', word "drop"]]⟩

/-- `#[animatable(ignore,)] #[animatable(ignore, skip, drop)] y: f64` -/
def skipped : TokenStream :=
  [marker, skip].flatMap Attribute.tokens ++ Visibility.inherited.tokens ++
    .ident ⟨"y", .token "y"⟩ :: .punct ⟨':', .alone, .callSite⟩ :: [word "f64"]

/-- `#[…] pub table: Map<…>, #[…] #[…] y: f64, , z` -/
def faulty : TokenStream :=
  table.tokens ++ mark ',' :: (skipped ++ mark ',' :: ([] ++ mark ',' :: [word "z"]))

theorem cuts_faulty : Cuts start [table.tokens, skipped, [], [word "z"]] faulty :=
  .cons table.tokens_closed.uncut table.tokens_closed.depth rfl
    (.cons (by decide) (by decide) rfl (.cons trivial rfl rfl (.last (by decide))))

theorem namedEntry_skipped : NamedEntry skipped ([marker] ++ skip :: []) where
  attributes_written := by simp [Attribute.IsWritten, marker, skip]
  tokens := ⟨.inherited, _, _, _, rfl, trivial, fun _ => by decide, rfl⟩

theorem skip_misuse : skip.Misuse .standard ⟨"skip", .token "skip"⟩
    ⟨.invalidArguments, "invalid #[animatable] arguments: " ++
      "unknown field marker `skip` in `animatable`, expected `ignore`", .token "skip"⟩ :=
  @Attribute.Misuse.unknown _ _ [⟨"ignore", .callSite⟩] [⟨"drop", .callSite⟩] _
    ⟨_, _, _, rfl, rfl, .cons [word "ignore"] rfl (.cons [_] rfl (.last _))⟩ (by decide) (by decide)

theorem table_not_refused : ¬ EntryRefused .standard table.tokens :=
  Host.exists_read_named_eq_ok_iff.1 ⟨_, table.read_field ⟨"Sprite", .callSite⟩⟩

theorem marker_not_misused : ¬ marker.IsMisused .standard :=
  Attribute.exists_markers_eq_ok_iff.1 ⟨_, Attribute.markers_eq_ok_iff.2 marker_marks⟩

end Sprite

/-- The whole item comes in an invisible group. Its first entry is marked as it may be. The second
has a good attribute in front of a bad one, and is reported at the first word that is not the ignore
word. The last, which is no field at all, does not matter. -/
theorem read_braces_eq_error_iff_sprite :
    Cuts start [Sprite.table.tokens, Sprite.skipped, [], [Code.word "z"]] Sprite.faulty ∧
    (Host.read .standard [.group .invisible .callSite (Sprite.item Sprite.faulty)]).mapError
        (HostError.report .standard) =
      .error ⟨.invalidArguments, "invalid #[animatable] arguments: " ++
        "unknown field marker `skip` in `animatable`, expected `ignore`", .token "skip"⟩ ∧
    HasWord ⟨"skip", .token "skip"⟩
      [.group .invisible .callSite (Sprite.item Sprite.faulty)] := by
  have hattributes : ∀ a ∈ [Sprite.derive], a.IsWritten := by
    simp [Attribute.IsWritten, Sprite.derive]
  have hitem : TokenStream.dissolve [.group .invisible .callSite (Sprite.item Sprite.faulty)] =
      [Sprite.derive].flatMap Attribute.tokens ++ (Visibility.pub ⟨"pub", .callSite⟩).tokens ++
        [Code.word "struct", Code.word "Sprite", Code.braces Sprite.faulty] := rfl
  obtain ⟨-, hreported, hanchored⟩ := Host.read_braces_eq_error_iff hattributes
    Sprite.pub_isWritten rfl hitem Sprite.cuts_faulty
  have hfault : EntryFault .standard ⟨"Sprite", .callSite⟩ _ _ _ :=
    .marker Sprite.namedEntry_skipped (by simpa using Sprite.marker_not_misused)
      Sprite.skip_misuse
  refine ⟨Sprite.cuts_faulty, (hreported _).2 ⟨[Sprite.table.tokens], Sprite.skipped,
    [[Code.word "z"]], _, rfl, ?_, hfault⟩, (hanchored _ (by simp) _ _ hfault).2⟩
  rw [List.forall_mem_singleton]
  exact Sprite.table_not_refused

end Tween
