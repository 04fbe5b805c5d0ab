import Tween.Emission
import Tween.Proofs.Config.Arguments
import Tween.Proofs.Host.Completeness
import Tween.Proofs.Host.Read
import Tween.Proofs.Validation

/-!
# Ignored fields do not matter

A field with an ignore marker can be put anywhere into the field list of a struct, under any name
and with any type, and nothing else is emitted after the struct than without it
(`attributeEmission_insert_ignored`). That holds whether the struct is accepted or not.

Two hosts that differ in ignored fields only are `Host.Alike`, and what is emitted after a host is
the same for hosts that are alike (`Host.Alike.emission_eq`).
-/

namespace Tween

open TokenStream

variable {config config' : Config}

/-! ## What is emitted after a host -/

/-- Code that is generated looks at no field but the components. -/
theorem Host.Alike.emission_eq {host host' : Host} (h : Alike config host host') :
    host'.emission config = host.emission config := by
  simp only [emission, generate, h.verdict_eq, h.name, h.visibility]

/-- What the attribute with the given arguments emits after an item. -/
def attributeEmission (arguments item : TokenStream) : Except InvalidName Emission :=
  match Config.ofArguments arguments with
  | .error e => .ok (.report e.report)
  | .ok config =>
    match Host.read config item with
    | .error e => .ok (.report (e.report config))
    | .ok host => host.emission config

theorem Emission.tokens_report (d : Diagnostic) : (report d).tokens = d.tokens := by
  simp [tokens, declarations, diagnostic?]

/-- The output is the item without its markers, and what is emitted after it. -/
theorem attributeOutput_eq (arguments item : TokenStream) :
    attributeOutput arguments item = (attributeEmission arguments item).map fun emission =>
      TokenStream.removeAttribute "animatable" item ++ emission.tokens := by
  unfold attributeOutput attributeEmission
  cases harguments : Config.ofArguments arguments with
  | error e =>
    simp only [Except.map, Emission.tokens_report]
    rfl
  | ok config =>
    have hname : config.attributeName = "animatable" :=
      (Config.sameNames_of_ofArguments harguments).attributeName
    simp only [itemOutput, hname]
    cases Host.read config item with
    | error e => simp only [Except.map, Emission.tokens_report]
    | ok host =>
      simp only
      cases host.emission config with
      | error e => rfl
      | ok emission => rfl

/-- Where declarations are emitted, the arguments and the item have been read. -/
theorem attributeEmission_declarations {arguments item : TokenStream} {e : Emission}
    (h : attributeEmission arguments item = .ok e) (hcode : e.declarations ≠ []) :
    ∃ config host, Config.ofArguments arguments = .ok config ∧ Host.read config item = .ok host ∧
      host.emission config = .ok e := by
  unfold attributeEmission at h
  split at h
  · cases h; exact absurd rfl hcode
  rename_i config harguments
  split at h
  · cases h; exact absurd rfl hcode
  rename_i host hread
  exact ⟨config, host, harguments, hread, h⟩

/-! ## Ignored fields -/

/-- Markers are read the same under all configurations with the same names. -/
theorem Attribute.Marks.congr {a : Attribute} {words : List Ident}
    (hconfig : Config.SameNames config config') (h : a.Marks config' words) :
    a.Marks config words := by
  cases h with
  | other hname =>
    refine .other fun word rest hbody => ?_
    rw [hconfig.attributeName]
    exact hname word rest hbody
  | list hlist hwords =>
    refine .list ?_ fun word hword => ?_
    · rw [hconfig.attributeName]
      exact hlist
    · rw [hconfig.ignoreWord]
      exact hwords word hword

namespace WrittenField

/-- The field under another configuration with the same names. -/
def congr (hconfig : Config.SameNames config config') (f : WrittenField config') :
    WrittenField config where
  attributes := f.attributes
  visibility := f.visibility
  name := f.name
  colon := f.colon
  ty := f.ty
  marks := f.marks
  attributes_written := f.attributes_written
  visibility_written := f.visibility_written
  name_ne := f.name_ne
  colon_char := f.colon_char
  ty_closed := f.ty_closed
  attributes_mark := f.attributes_mark.imp fun _ _ h => h.congr hconfig

theorem text_of_mem_markers {f : WrittenField config} {word : Ident} (h : word ∈ f.markers) :
    word.text = config.ignoreWord :=
  Attribute.text_eq_of_mem_flatten f.attributes_mark h

/-- A field with a marker is no component. -/
theorem included?_eq_none {f : WrittenField config} (h : f.markers ≠ []) :
    f.field.included? config = none := by
  obtain ⟨word, hword⟩ := List.exists_mem_of_ne_nil _ h
  have hignored : f.field.isIgnored config = true :=
    List.any_eq_true.2 ⟨word, hword, by simp [text_of_mem_markers hword]⟩
  rw [Field.included?, if_pos hignored]

end WrittenField

/-! ## Structs -/

/-- A struct up to the braces of its body. Between its name and the braces may stand anything, as a
where clause. -/
structure StructHead where
  attributes : List Attribute
  visibility : Visibility
  keyword : Ident
  name : Ident
  clauses : TokenStream
  attributes_written : ∀ a ∈ attributes, a.IsWritten
  visibility_written : visibility.IsWritten
  keyword_text : keyword.text = "struct"

namespace StructHead

variable (head : StructHead)

/-- The struct with the given braces, as a declaration. -/
def declaration (span : Span) (contents : TokenStream) : Declaration where
  attributes := head.attributes
  visibility := head.visibility
  content := .ident head.keyword :: .ident head.name ::
    (head.clauses ++ [.group .brace span contents])

/-- The struct with the given braces, as tokens. -/
def tokens (span : Span) (contents : TokenStream) : TokenStream :=
  (head.declaration span contents).tokens

theorem read_tokens (span : Span) (contents : TokenStream) :
    Declaration.read (head.tokens span contents) = head.declaration span contents :=
  Declaration.read_tokens head.attributes_written head.visibility_written rfl
    fun _ => by rw [head.keyword_text]; decide

variable {head}

theorem ofDeclaration_of_read? {span : Span} {contents : TokenStream} {body : StructBody}
    (hbody : StructBody.read? (head.clauses ++ [.group .brace span contents]) = some body) :
    Host.ofDeclaration config (head.declaration span contents) =
      (body.readFields config head.name).map
        (Host.ofStruct (head.declaration span contents) head.name body) := by
  simp only [Host.ofDeclaration, declaration, head.keyword_text, if_true, hbody]

theorem ofDeclaration_of_read?_none {span : Span} {contents : TokenStream}
    (hbody : StructBody.read? (head.clauses ++ [.group .brace span contents]) = none) :
    Host.ofDeclaration config (head.declaration span contents) =
      .error (.badBody head.name) := by
  simp only [Host.ofDeclaration, declaration, head.keyword_text, if_true, hbody]

end StructHead

/-- With clauses in front of its braces a body is read without looking into them. -/
theorem StructBody.read?_clauses {clauses : TokenStream} (hclauses : clauses ≠ []) :
    ∃ body?, (body? = none ∨ body? = some generic) ∧ ∀ span contents,
      StructBody.read? (clauses ++ [.group .brace span contents]) = body? := by
  obtain ⟨t, clauses, rfl⟩ := List.exists_cons_of_ne_nil hclauses
  cases t with
  | punct mark =>
    by_cases hmark : mark.char = '<'
    · exact ⟨some generic, .inr rfl, fun span contents => by simp [read?, hmark]⟩
    · exact ⟨none, .inl rfl, fun span contents => by simp [read?, hmark]⟩
  | ident word => exact ⟨none, .inl rfl, fun span contents => rfl⟩
  | literal value => exact ⟨none, .inl rfl, fun span contents => rfl⟩
  | group delimiter span inner =>
    refine ⟨none, .inl rfl, fun span' contents =>
      Option.eq_none_iff_forall_ne_some.2 fun body hbody => ?_⟩
    have hwritten := read?_eq_some_iff.1 hbody
    generalize hts : (_ :: clauses ++ [.group .brace span' contents]) = ts at hwritten
    cases hwritten <;> simp [List.append_eq_singleton_iff] at hts

section
variable {f : WrittenField config} {front back : List TokenStream}
  {contents contents' : TokenStream}

theorem Host.components_insert (hignored : f.markers ≠ []) {d d' : Declaration} {name : Ident}
    {body body' : StructBody} (us vs : List Field) :
    (ofStruct d' name body' (us ++ f.field :: vs)).components config =
      (ofStruct d name body (us ++ vs)).components config := by
  simp only [components, ofStruct, List.filterMap_append,
    List.filterMap_cons_none (WrittenField.included?_eq_none hignored)]

/-- The entries of two field lists that differ in one ignored field are read alike: either the same
entry is refused, or there is one field more. -/
theorem StructBody.readFields_insert (host : Ident)
    (hclosed : ∀ entry ∈ front ++ back, Closed entry)
    (hcontents : FieldList (front ++ back) contents)
    (hcontents' : FieldList (front ++ f.tokens :: back) contents') :
    (∃ e, (fields .named contents).readFields config host = .error e ∧
      (fields .named contents').readFields config host = .error e) ∨
    ∃ us vs, (fields .named contents).readFields config host = .ok (us ++ vs) ∧
      (fields .named contents').readFields config host = .ok (us ++ f.field :: vs) := by
  have hentries : entries contents = front ++ back := entries_of_fieldList hcontents hclosed
  have hentries' : entries contents' = front ++ f.tokens :: back := by
    refine entries_of_fieldList hcontents' fun entry hentry => ?_
    rcases List.mem_append.1 hentry with hentry | hentry
    · exact hclosed entry (List.mem_append_left _ hentry)
    · rcases List.mem_cons.1 hentry with rfl | hentry
      · exact f.tokens_closed
      · exact hclosed entry (List.mem_append_right _ hentry)
  rw [readFields, readFields, hentries, hentries']
  exact mapM_insert (f.read_field host) front back

/-- **Two structs that differ in one ignored field are read alike**: both are refused for the same
reason, or both are read, and differ in that field only. -/
theorem StructHead.ofDeclaration_insert (head : StructHead) (span span' : Span)
    (hignored : f.markers ≠ [])
    (hclosed : ∀ entry ∈ front ++ back, Closed entry)
    (hcontents : FieldList (front ++ back) contents)
    (hcontents' : FieldList (front ++ f.tokens :: back) contents') :
    (∃ e, Host.ofDeclaration config (head.declaration span contents) = .error e ∧
      Host.ofDeclaration config (head.declaration span' contents') = .error e) ∨
    ∃ host host', Host.ofDeclaration config (head.declaration span contents) = .ok host ∧
      Host.ofDeclaration config (head.declaration span' contents') = .ok host' ∧
      Host.Alike config host host' := by
  by_cases hclauses : head.clauses = []
  · have hbody : ∀ span contents, StructBody.read? (head.clauses ++
        [.group .brace span contents]) = some (.fields .named contents) :=
      fun span contents => by rw [hclauses]; rfl
    rw [ofDeclaration_of_read? (hbody span contents),
      ofDeclaration_of_read? (hbody span' contents')]
    obtain ⟨e, he, he'⟩ | ⟨us, vs, hfields, hfields'⟩ :=
      StructBody.readFields_insert head.name hclosed hcontents hcontents'
    · exact .inl ⟨e, by rw [he]; rfl, by rw [he']; rfl⟩
    · rw [hfields, hfields']
      exact .inr ⟨_, _, rfl, rfl, rfl, rfl, rfl, rfl, rfl,
        Host.components_insert hignored us vs⟩
  · obtain ⟨body?, rfl | rfl, hbody⟩ := StructBody.read?_clauses hclauses
    · exact .inl ⟨.badBody head.name, ofDeclaration_of_read?_none (hbody span contents),
        ofDeclaration_of_read?_none (hbody span' contents')⟩
    · rw [ofDeclaration_of_read? (hbody span contents),
        ofDeclaration_of_read? (hbody span' contents')]
      exact .inr ⟨_, _, rfl, rfl, rfl, rfl, rfl, rfl, rfl, rfl⟩

/-- **An ignored field does not matter.** Whatever is emitted after a struct, code or a diagnostic,
is emitted after the struct with one more field as well, if the field has an ignore marker. The two
outputs differ in the struct itself only. -/
theorem attributeEmission_insert_ignored {arguments item item' : TokenStream} {head : StructHead}
    {span span' : Span} {f : WrittenField .standard} (hignored : f.markers ≠ [])
    (hclosed : ∀ entry ∈ front ++ back, Closed entry)
    (hcontents : FieldList (front ++ back) contents)
    (hcontents' : FieldList (front ++ f.tokens :: back) contents')
    (hitem : TokenStream.dissolve item = head.tokens span contents)
    (hitem' : TokenStream.dissolve item' = head.tokens span' contents') :
    attributeEmission arguments item' = attributeEmission arguments item ∧
      attributeOutput arguments item = (attributeEmission arguments item).map (fun emission =>
        TokenStream.removeAttribute "animatable" item ++ emission.tokens) ∧
      attributeOutput arguments item' = (attributeEmission arguments item).map fun emission =>
        TokenStream.removeAttribute "animatable" item' ++ emission.tokens := by
  have hemission : attributeEmission arguments item' = attributeEmission arguments item := by
    unfold attributeEmission
    cases harguments : Config.ofArguments arguments with
    | error e => rfl
    | ok config =>
      have hconfig := Config.sameNames_of_ofArguments harguments
      have hread : Host.read config item =
          Host.ofDeclaration config (head.declaration span contents) := by
        rw [Host.read, hitem, head.read_tokens]
      have hread' : Host.read config item' =
          Host.ofDeclaration config (head.declaration span' contents') := by
        rw [Host.read, hitem', head.read_tokens]
      -- the names are the standard ones, so the field is marked under `config` as well
      obtain ⟨e, he, he'⟩ | ⟨host, host', hhost, hhost', halike⟩ :=
        head.ofDeclaration_insert span span' (f := f.congr hconfig) hignored hclosed hcontents
          hcontents'
      · simp only [hread, hread', he, he']
      · simp only [hread, hread', hhost, hhost', halike.emission_eq]
  exact ⟨hemission, attributeOutput_eq arguments item,
    hemission ▸ attributeOutput_eq arguments item'⟩

end

/-- `#[derive(…)] pub struct Sprite` -/
def Sprite.head : StructHead where
  attributes := [derive]
  visibility := .pub ⟨"pub", .callSite⟩
  keyword := ⟨"struct", .callSite⟩
  name := ⟨"Sprite", .callSite⟩
  clauses := []
  attributes_written := List.forall_mem_singleton.2 rfl
  visibility_written := pub_isWritten
  keyword_text := rfl

/-- The ignored field is put after the only other one. -/
theorem attributeEmission_insert_table :
    Sprite.table.markers ≠ [] ∧
      attributeEmission [] (Sprite.item Sprite.contents) =
        attributeEmission [] (Sprite.item Sprite.x.tokens) := by
  have hignored : Sprite.table.markers ≠ [] := by
    simp [WrittenField.markers, Sprite.table]
  have hcontents : FieldList ([Sprite.x.tokens] ++ []) Sprite.x.tokens :=
    (CommaList.last Sprite.x.tokens).fieldList (by simpa using Sprite.x.tokens_ne_nil)
  have hcontents' : FieldList ([Sprite.x.tokens] ++ Sprite.table.tokens :: []) Sprite.contents :=
    Sprite.fieldList_contents
  have hclosed : ∀ entry ∈ [Sprite.x.tokens] ++ [], Closed entry := by
    rw [List.append_nil, List.forall_mem_singleton]
    exact Sprite.x.tokens_closed
  have hitem : TokenStream.dissolve (Sprite.item Sprite.x.tokens) =
      Sprite.head.tokens .callSite Sprite.x.tokens := rfl
  have hitem' : TokenStream.dissolve (Sprite.item Sprite.contents) =
      Sprite.head.tokens .callSite Sprite.contents := rfl
  exact ⟨hignored, (attributeEmission_insert_ignored hignored hclosed hcontents hcontents' hitem
    hitem').1⟩

end Tween
