import Tween.Proofs.Host.Completeness
import Tween.Proofs.Host.Read
import Tween.Proofs.Token.Everywhere

/-!
# A host without its markers

The item is emitted without the attributes of the pass. What is emitted declares the host that was
read, only that no field is marked any more (`Host.read_removeAttribute_eq_unmarked`).

The attributes are removed wherever they stand, while the reader looks for them in front of fields.
The two agree if a pound sign always begins an attribute of the item or one in front of an entry of
its field list (`Declaration.TidyItem`). Removing attributes then moves no entry, as the tokens of
an attribute do not count for angle brackets (`TokenStream.entries_removeAttribute`).
-/

namespace Tween

open AngleScan TokenStream

variable {name : String}

/-! ## Attributes -/

namespace Attribute

variable {a : Attribute} {attributes : List Attribute}

/-- The attributes that are not called `name`. -/
def without (name : String) (attributes : List Attribute) : List Attribute :=
  attributes.filter fun a => (a.nameIs? name).isNone

theorem mem_of_mem_without (h : a ∈ without name attributes) : a ∈ attributes :=
  (List.mem_filter.1 h).1

theorem nameIs?_of_mem_without (h : a ∈ without name attributes) : a.nameIs? name = none := by
  simpa using (List.mem_filter.1 h).2

theorem without_cons_of_none (ha : a.nameIs? name = none) (attributes : List Attribute) :
    without name (a :: attributes) = a :: without name attributes :=
  List.filter_cons_of_pos (by simp [ha])

theorem without_cons_of_some {word : Ident} (ha : a.nameIs? name = some word)
    (attributes : List Attribute) : without name (a :: attributes) = without name attributes :=
  List.filter_cons_of_neg (by simp [ha])

/-- The brackets of an attribute are removed if the attribute has the name. -/
theorem isBodyOf_body (name : String) (a : Attribute) :
    (TokenTree.group .bracket a.span a.body).isBodyOf name = (a.nameIs? name).isSome := by
  obtain ⟨pound, span, body⟩ := a
  unfold nameIs? name? headIdent? TokenTree.isBodyOf
  split <;> simp_all [Option.filter, apply_ite, beq_eq_decide]

/-- Of attributes in front of something those called `name` are removed. -/
theorem removeAttribute_tokens (hwritten : ∀ a ∈ attributes, a.IsWritten)
    (hbodies : ∀ a ∈ attributes, PoundFree a.body) (rest : TokenStream) :
    TokenStream.removeAttribute name (attributes.flatMap tokens ++ rest) =
      (without name attributes).flatMap tokens ++ TokenStream.removeAttribute name rest := by
  induction attributes with
  | nil => rfl
  | cons a attributes ih =>
    rw [List.forall_mem_cons] at hwritten hbodies
    have hrest := ih hwritten.2 hbodies.2
    have hpound : (TokenTree.punct a.pound).isPunct '#' = true := isPunct_of_char hwritten.1
    have hbody := isBodyOf_body name a
    simp only [List.flatMap_cons, tokens, List.cons_append, List.nil_append] at hrest ⊢
    cases hname : a.nameIs? name with
    | some word =>
      rw [removeAttribute_pair hpound (by rw [hbody, hname]; rfl), hrest,
        without_cons_of_some hname]
    | none =>
      have hkept : (TokenTree.group .bracket a.span a.body).removeAttribute name =
          .group .bracket a.span a.body :=
        TokenTree.removeAttribute_eq_self name _ ⟨rfl, hbodies.1⟩
      rw [removeAttribute_cons_of_body (by rw [hbody, hname]; rfl),
        removeAttribute_cons (TokenTree.isNoPound_group _ _ _), hkept, hrest,
        without_cons_of_none hname]
      rfl

/-- The attributes of another name mark nothing. -/
theorem allMarkers_without (config : Config) (attributes : List Attribute) :
    allMarkers config (without config.attributeName attributes) = .ok [] := by
  refine allMarkers_eq_ok_iff.2
    ⟨(without config.attributeName attributes).map fun _ => [], ?_, by simp⟩
  rw [List.forall₂_map_right_iff, List.forall₂_same]
  exact fun a ha => .other (nameIs?_eq_none.1 (nameIs?_of_mem_without ha))

/-- An attribute of another name than `derive` derives nothing, so it can be removed. -/
theorem derivedTraits_without (hname : name ≠ "derive") (attributes : List Attribute) :
    (without name attributes).flatMap derivedTraits = attributes.flatMap derivedTraits := by
  induction attributes with
  | nil => rfl
  | cons a attributes ih =>
    cases ha : a.nameIs? name with
    | none =>
      rw [without_cons_of_none ha, List.flatMap_cons, List.flatMap_cons, ih]
    | some word =>
      obtain ⟨hword, rest, hbody⟩ := nameIs?_eq_some.1 ha
      have hderive : a.nameIs? "derive" = none := by
        refine nameIs?_eq_none.2 fun word' rest' hbody' => ?_
        rw [hbody, List.cons.injEq, TokenTree.ident.injEq] at hbody'
        rw [← hbody'.1, hword]
        exact hname
      have htraits : a.derivedTraits = [] := by simp only [derivedTraits, hderive]
      rw [without_cons_of_some ha, ih, List.flatMap_cons, htraits, List.nil_append]

end Attribute

/-! ## Declarations -/

namespace Declaration

/-- The declaration without the attributes called `name`, in front and in the content. -/
def removeAttribute (name : String) (d : Declaration) : Declaration where
  attributes := Attribute.without name d.attributes
  visibility := d.visibility
  content := TokenStream.removeAttribute name d.content

/-- In front of the content a pound sign always begins an attribute. -/
structure TidyFront (d : Declaration) : Prop where
  bodies : ∀ a ∈ d.attributes, PoundFree a.body
  visibility : PoundFree d.visibility.tokens

/-- A pound sign always begins an attribute in front. -/
structure Tidy (d : Declaration) : Prop extends TidyFront d where
  content : PoundFree d.content

variable {ts us : TokenStream}

/-- What is left of a stream is what is left of its attributes, and of the rest. -/
theorem removeAttribute_leading (h : (read ts).TidyFront) :
    TokenStream.removeAttribute name ts =
      (Attribute.without name (Attribute.leading ts).1).flatMap Attribute.tokens ++
        TokenStream.removeAttribute name (Attribute.leading ts).2 := by
  conv_lhs => rw [← Attribute.tokens_leading ts]
  exact Attribute.removeAttribute_tokens (fun _ => Attribute.isWritten_of_mem_leading) h.bodies _

/-- A stream is read without the attributes that are removed, if what follows the attributes still
begins with its visibility. -/
theorem read_removeAttribute (h : (read ts).TidyFront)
    (hattributes : Attribute.leading (TokenStream.removeAttribute name (Attribute.leading ts).2) =
      ([], TokenStream.removeAttribute name (Attribute.leading ts).2))
    (hvisibility : Visibility.leading (TokenStream.removeAttribute name (Attribute.leading ts).2) =
      ((read ts).visibility, TokenStream.removeAttribute name (read ts).content)) :
    read (TokenStream.removeAttribute name ts) = (read ts).removeAttribute name := by
  have hwritten : ∀ a ∈ Attribute.without name (Attribute.leading ts).1, a.IsWritten :=
    fun _ ha => Attribute.isWritten_of_mem_leading (Attribute.mem_of_mem_without ha)
  rw [read, removeAttribute_leading h, Attribute.leading_tokens hwritten hattributes, hvisibility]
  rfl

/-- What follows the attributes is the visibility and the content. -/
theorem visibility_append_content (ts : TokenStream) :
    (read ts).visibility.tokens ++ (read ts).content = (Attribute.leading ts).2 :=
  Visibility.tokens_leading _

theorem poundFree_leading (h : (read ts).Tidy) : PoundFree (Attribute.leading ts).2 :=
  visibility_append_content ts ▸ everywhere_append.2 ⟨h.visibility, h.content⟩

theorem read_removeAttribute_of_tidy (h : (read ts).Tidy) :
    read (TokenStream.removeAttribute name ts) = (read ts).removeAttribute name := by
  have hrest : TokenStream.removeAttribute name (Attribute.leading ts).2 =
      (Attribute.leading ts).2 := removeAttribute_eq_self name _ (poundFree_leading h)
  refine read_removeAttribute h.toTidyFront ?_ ?_
  · rw [hrest, Attribute.leading_leading]
  · rw [hrest, removeAttribute_eq_self name _ h.content]
    rfl

theorem read_removeAttribute_of_ident {word : Ident} {rest : TokenStream}
    (h : (read ts).TidyFront) (hcontent : (read ts).content = .ident word :: rest) :
    read (TokenStream.removeAttribute name ts) = (read ts).removeAttribute name := by
  obtain ⟨visibility, hvisibility⟩ : ∃ visibility, visibility = (read ts).visibility := ⟨_, rfl⟩
  have hfree : PoundFree visibility.tokens := hvisibility ▸ h.visibility
  have hwritten : visibility.IsWritten := hvisibility ▸ Visibility.isWritten_leading _
  have hword : visibility = .inherited → word.text ≠ "pub" := fun hnone =>
    Visibility.ne_pub_of_leading (hvisibility.symm.trans hnone) hcontent
  have hkept : TokenStream.removeAttribute name (.ident word :: rest) =
      .ident word :: TokenStream.removeAttribute name rest := removeAttribute_cons rfl
  have hrest : TokenStream.removeAttribute name (Attribute.leading ts).2 =
      visibility.tokens ++ .ident word :: TokenStream.removeAttribute name rest := by
    rw [← visibility_append_content ts, ← hvisibility, hcontent,
      removeAttribute_append_of_poundFree hfree, hkept]
  refine read_removeAttribute h ?_ ?_
  · rw [hrest]
    cases visibility <;> rfl
  · rw [hrest, Visibility.leading_tokens hwritten hword, hcontent, hkept, hvisibility]

end Declaration

/-! ## Entries -/

namespace TokenStream

variable {piece ts : TokenStream} {pieces : List TokenStream}

theorem removeAttribute_of_tidy (h : (Declaration.read piece).Tidy) :
    removeAttribute name piece =
      (Attribute.without name (Attribute.leading piece).1).flatMap Attribute.tokens ++
        (Attribute.leading piece).2 := by
  rw [Declaration.removeAttribute_leading h.toTidyFront,
    removeAttribute_eq_self name _ (Declaration.poundFree_leading h)]

/-- What is removed from a tidy piece does not depend on what follows it. -/
theorem removeAttribute_append_of_tidy (h : (Declaration.read piece).Tidy) (us : TokenStream) :
    removeAttribute name (piece ++ us) = removeAttribute name piece ++ removeAttribute name us := by
  have hwritten : ∀ a ∈ (Attribute.leading piece).1, a.IsWritten :=
    fun _ => Attribute.isWritten_of_mem_leading
  rw [removeAttribute_of_tidy h]
  conv_lhs => rw [← Attribute.tokens_leading piece, List.append_assoc]
  rw [Attribute.removeAttribute_tokens hwritten h.bodies,
    removeAttribute_append_of_poundFree (Declaration.poundFree_leading h), List.append_assoc]

/-- The count of angle brackets is not changed by the attributes in front, removed or not. -/
theorem cut_removeAttribute (name : String) (h : (Declaration.read piece).Tidy) :
    (start.Uncut (removeAttribute name piece) ↔ start.Uncut piece) ∧
      start.after (removeAttribute name piece) = start.after piece := by
  have hfront : ∀ t ∈ (Attribute.leading piece).1.flatMap Attribute.tokens, Plain t :=
    fun t => Attribute.plain_of_mem_flatMap fun _ => Attribute.isWritten_of_mem_leading
  have hfront' : ∀ t ∈ (Attribute.without name (Attribute.leading piece).1).flatMap
      Attribute.tokens, Plain t :=
    fun t => Attribute.plain_of_mem_flatMap fun a ha =>
      Attribute.isWritten_of_mem_leading (Attribute.mem_of_mem_without ha)
  rw [removeAttribute_of_tidy h, uncut_plain_append hfront', after_plain_append hfront',
    ← uncut_plain_append hfront, ← after_plain_append hfront, Attribute.tokens_leading]
  exact ⟨Iff.rfl, rfl⟩

theorem tidy_nil : (Declaration.read []).Tidy where
  bodies := by simp [Declaration.read, Attribute.leading]
  visibility := trivial
  content := trivial

/-- A stream of tidy pieces is cut at the same commas. -/
theorem cuts_removeAttribute (name : String) (hcuts : Cuts start pieces ts)
    (htidy : ∀ piece ∈ pieces, (Declaration.read piece).Tidy) :
    Cuts start (pieces.map (removeAttribute name)) (removeAttribute name ts) := by
  generalize hscan : start = scan at hcuts
  induction hcuts with
  | last huncut =>
    subst hscan
    obtain ⟨huncut', -⟩ := cut_removeAttribute name (htidy _ List.mem_cons_self)
    exact .last (huncut'.2 huncut)
  | cons huncut hdepth hcomma _ ih =>
    subst hscan
    rw [List.forall_mem_cons] at htidy
    obtain ⟨huncut', hafter⟩ := cut_removeAttribute name htidy.1
    rw [removeAttribute_append_of_tidy htidy.1, removeAttribute_cons, List.map_cons]
    · exact .cons (huncut'.2 huncut) (hafter ▸ hdepth) hcomma (ih htidy.2 rfl)
    · simp [TokenTree.isPunct, hcomma]

/-- **The entries of what is left** are what is left of the entries, if nothing is left of none. -/
theorem entries_removeAttribute
    (hentries : ∀ entry ∈ entries ts,
      (Declaration.read entry).Tidy ∧ (Declaration.read entry).content ≠ []) :
    entries (removeAttribute name ts) = (entries ts).map (removeAttribute name) := by
  have hpieces : ∀ piece ∈ start.pieces ts, (Declaration.read piece).Tidy ∧
      (removeAttribute name piece).isEmpty = piece.isEmpty := by
    intro piece hpiece
    cases piece with
    | nil => exact ⟨tidy_nil, rfl⟩
    | cons t piece =>
      obtain ⟨htidy, hcontent⟩ := hentries _ (List.mem_filter.2 ⟨hpiece, rfl⟩)
      have hrest : (Attribute.leading (t :: piece)).2 ≠ [] := by
        rw [← Declaration.visibility_append_content]
        exact List.append_ne_nil_of_right_ne_nil _ hcontent
      refine ⟨htidy, ?_⟩
      rw [removeAttribute_of_tidy htidy, List.isEmpty_cons, List.isEmpty_eq_false_iff]
      exact List.append_ne_nil_of_right_ne_nil _ hrest
  have hcuts := cuts_removeAttribute name (cuts_pieces start ts)
    fun piece hpiece => (hpieces piece hpiece).1
  rw [entries, pieces_eq_iff_cuts.2 hcuts, List.filter_map, entries]
  congr 1
  refine List.filter_congr fun piece hpiece => ?_
  simp only [Function.comp_apply, (hpieces piece hpiece).2]

end TokenStream

/-! ## Hosts -/

/-- The field without its markers. -/
def Field.unmarked (field : Field) : Field :=
  { field with markers := [] }

/-- The host without the markers of its fields. -/
def Host.unmarked (host : Host) : Host :=
  { host with fields := host.fields.map Field.unmarked }

/-- The body without the attributes called `name` in its field list. -/
def StructBody.removeAttribute (name : String) : StructBody → StructBody
  | generic => generic
  | unit => unit
  | fields style contents => fields style (TokenStream.removeAttribute name contents)

theorem StructBody.Written.removeAttribute {body : StructBody} {rest : TokenStream}
    (h : body.Written rest) (name : String) :
    (body.removeAttribute name).Written (TokenStream.removeAttribute name rest) := by
  cases h with
  | @generic mark hmark rest =>
    rw [removeAttribute_cons (by simp [TokenTree.isPunct, hmark])]
    exact .generic hmark _
  | unit hmark => exact .unit hmark
  | named span contents => exact .named span _
  | positional span contents hmark =>
    rw [removeAttribute_cons rfl]
    exact .positional span _ hmark

theorem FieldStyle.content_ne_nil {style : FieldStyle} {content ty : TokenStream}
    {fieldName : Option Ident} (h : style.split? content = some (fieldName, ty)) (hty : ty ≠ []) :
    content ≠ [] := by
  rintro rfl
  cases style with
  | named => cases h
  | positional => cases h; exact hty rfl

variable {config : Config}

/-- The entry of a field is still one, with the same name and type, and is not marked. -/
theorem Field.read_removeAttribute {host : Ident} {style : FieldStyle} {entry : TokenStream}
    {field : Field} (htidy : (Declaration.read entry).Tidy)
    (hread : Field.read config host style entry = .ok field) :
    Field.read config host style (TokenStream.removeAttribute config.attributeName entry) =
      .ok field.unmarked := by
  obtain ⟨fieldName, ty, markers, hsplit, -, rfl⟩ := Field.read_eq_ok_iff.1 hread
  refine Field.read_eq_ok_iff.2 ⟨fieldName, ty, [], ?_, ?_, rfl⟩
  · rw [Declaration.read_removeAttribute_of_tidy htidy, Declaration.removeAttribute,
      removeAttribute_eq_self _ _ htidy.content, hsplit]
  · rw [Declaration.read_removeAttribute_of_tidy htidy]
    exact Attribute.allMarkers_without config _

/-- All fields are still read. -/
theorem StructBody.readFields_removeAttribute {host : Ident} {body : StructBody}
    {fields : List Field}
    (htidy : ∀ style contents, body = .fields style contents →
      ∀ entry ∈ entries contents, (Declaration.read entry).Tidy)
    (hread : body.readFields config host = .ok fields) (hty : ∀ f ∈ fields, f.ty ≠ some []) :
    (body.removeAttribute config.attributeName).readFields config host =
      .ok (fields.map Field.unmarked) := by
  cases body with
  | generic => cases hread; rfl
  | unit => cases hread; rfl
  | fields style contents =>
    have htidy := htidy style contents rfl
    have hfields := mapM_eq_ok_iff.1 hread
    have hentries : ∀ entry ∈ entries contents,
        (Declaration.read entry).Tidy ∧ (Declaration.read entry).content ≠ [] := by
      intro entry hentry
      obtain ⟨field, hfield, hread⟩ := exists_of_forall₂_of_mem hfields hentry
      obtain ⟨fieldName, ty, markers, hsplit, -, rfl⟩ := Field.read_eq_ok_iff.1 hread
      refine ⟨htidy entry hentry, FieldStyle.content_ne_nil hsplit ?_⟩
      rintro rfl
      exact hty _ hfield rfl
    rw [StructBody.removeAttribute, StructBody.readFields, entries_removeAttribute hentries,
      mapM_eq_ok_iff, List.forall₂_map_left_iff, List.forall₂_map_right_iff]
    have hboth := (List.forall₂_and_left _ _).2 ⟨htidy, hfields⟩
    exact hboth.imp fun entry field h => Field.read_removeAttribute h.1 h.2

/-- A pound sign of an item begins an attribute in front of it or, if it is a struct that can be
read, in front of an entry of its field list. Nothing is asked of the contents of other items. -/
structure Declaration.TidyItem (d : Declaration) : Prop extends TidyFront d where
  entries : ∀ keyword name rest style contents, d.content = .ident keyword :: .ident name :: rest →
    keyword.text = "struct" → (StructBody.fields style contents).Written rest →
    ∀ entry ∈ TokenStream.entries contents, (read entry).Tidy

namespace Host

variable {item : TokenStream} {host : Host}

theorem ofOther_removeAttribute {d : Declaration} (hname : name ≠ "derive") (keyword : Ident)
    (rest : TokenStream) :
    ofOther (d.removeAttribute name) keyword (TokenStream.removeAttribute name rest) =
      ofOther d keyword rest := by
  simp only [ofOther, Declaration.removeAttribute, idents_removeAttribute,
    Attribute.derivedTraits_without hname]

theorem ofStruct_removeAttribute {d : Declaration} (hname : name ≠ "derive") (word : Ident)
    (body : StructBody) (fields : List Field) :
    ofStruct (d.removeAttribute name) word (body.removeAttribute name)
      (fields.map Field.unmarked) = (ofStruct d word body fields).unmarked := by
  simp only [ofStruct, unmarked, Declaration.removeAttribute,
    Attribute.derivedTraits_without hname]
  cases body <;> rfl

/-- What is left of a tidy declaration declares the same host, without its markers. -/
theorem ofDeclaration_removeAttribute {d : Declaration} (hname : config.attributeName ≠ "derive")
    (htidy : d.TidyItem) (hread : ofDeclaration config d = .ok host)
    (hty : ∀ f ∈ host.fields, f.ty ≠ some []) :
    ofDeclaration config (d.removeAttribute config.attributeName) = .ok host.unmarked := by
  obtain ⟨keyword, rest, hcontent, hkeyword, rfl⟩ |
    ⟨keyword, word, rest, body, fields, hcontent, hkeyword, hbody, hfields, rfl⟩ :=
    ofDeclaration_eq_ok_iff.1 hread
  · refine ofDeclaration_eq_ok_iff.2 (.inl
      ⟨keyword, TokenStream.removeAttribute config.attributeName rest, ?_, hkeyword, ?_⟩)
    · rw [Declaration.removeAttribute, hcontent, removeAttribute_cons rfl]
      rfl
    · rw [ofOther_removeAttribute hname]
      rfl
  · refine ofDeclaration_eq_ok_iff.2 (.inr
      ⟨keyword, word, _, body.removeAttribute config.attributeName, fields.map Field.unmarked, ?_,
        hkeyword, hbody.removeAttribute config.attributeName, ?_, ?_⟩)
    · rw [Declaration.removeAttribute, hcontent, removeAttribute_cons rfl, removeAttribute_cons rfl]
      rfl
    · refine StructBody.readFields_removeAttribute ?_ hfields hty
      rintro style contents rfl
      exact htidy.entries keyword word rest style contents hcontent hkeyword hbody
    · rw [ofStruct_removeAttribute hname]

theorem exists_ident_of_ofDeclaration {d : Declaration} (h : ofDeclaration config d = .ok host) :
    ∃ keyword rest, d.content = .ident keyword :: rest := by
  obtain ⟨keyword, rest, hcontent, -⟩ | ⟨keyword, word, rest, _, _, hcontent, -⟩ :=
    ofDeclaration_eq_ok_iff.1 h
  · exact ⟨keyword, rest, hcontent⟩
  · exact ⟨keyword, _, hcontent⟩

/-- **What is emitted of a host declares it**: the item without the attributes of the pass is read
as the same host, and no field is marked any more. -/
theorem read_removeAttribute_eq_unmarked (hname : config.attributeName ≠ "derive")
    (hvisible : Visible item) (htidy : (Declaration.read item).TidyItem)
    (hread : read config item = .ok host) (hty : ∀ f ∈ host.fields, f.ty ≠ some []) :
    read config (TokenStream.removeAttribute config.attributeName item) = .ok host.unmarked := by
  have hvisible' : Visible (TokenStream.removeAttribute config.attributeName item) :=
    hvisible.removeAttribute TokenTree.shallow_isVisible _
  rw [read, dissolve_eq_self item hvisible] at hread
  obtain ⟨keyword, rest, hcontent⟩ := exists_ident_of_ofDeclaration hread
  rw [read, dissolve_eq_self _ hvisible',
    Declaration.read_removeAttribute_of_ident htidy.toTidyFront hcontent]
  exact ofDeclaration_removeAttribute hname htidy hread hty

end Host

/-- Without its markers the struct has the same two fields, none of them ignored. -/
theorem read_removeAttribute_sprite :
    Visible (Sprite.item Sprite.contents) ∧
      (Declaration.read (Sprite.item Sprite.contents)).TidyItem ∧
      Host.read .standard (Sprite.item Sprite.contents) = .ok
        { kind := .struct
          name := ⟨"Sprite", .callSite⟩
          visibility := [Code.word "pub"]
          isGeneric := false
          traits := ["Debug", "Shape"]
          fields := [Sprite.x.field, Sprite.table.field] } ∧
      Host.read .standard
          (TokenStream.removeAttribute "animatable" (Sprite.item Sprite.contents)) = .ok
        { kind := .struct
          name := ⟨"Sprite", .callSite⟩
          visibility := [Code.word "pub"]
          isGeneric := false
          traits := ["Debug", "Shape"]
          fields := [
            ⟨some ⟨"x", .token "x"⟩, some Sprite.x.ty, []⟩,
            ⟨some ⟨"table", .token "table"⟩, some Sprite.table.ty, []⟩] } := by
  have hvisible : Visible (Sprite.item Sprite.contents) := by decide
  have hentries : entries Sprite.contents = [Sprite.x.tokens, Sprite.table.tokens] := rfl
  have htidy : (Declaration.read (Sprite.item Sprite.contents)).TidyItem := by
    refine ⟨⟨by decide, by decide⟩, fun keyword word rest style contents hcontent _ hbody => ?_⟩
    cases hcontent
    cases hbody
    rw [hentries, List.forall_mem_cons, List.forall_mem_singleton, Sprite.x.read_tokens,
      Sprite.table.read_tokens]
    exact ⟨⟨⟨by decide, by decide⟩, by decide⟩, ⟨⟨by decide, by decide⟩, by decide⟩⟩
  have hread : Host.read .standard (Sprite.item Sprite.contents) = .ok
      { kind := .struct
        name := ⟨"Sprite", .callSite⟩
        visibility := [Code.word "pub"]
        isGeneric := false
        traits := ["Debug", "Shape"]
        fields := [Sprite.x.field, Sprite.table.field] } := rfl
  refine ⟨hvisible, htidy, hread, ?_⟩
  refine Host.read_removeAttribute_eq_unmarked (by decide) hvisible htidy hread ?_
  rw [List.forall_mem_cons, List.forall_mem_singleton]
  exact ⟨by simp [WrittenField.field, Sprite.x], by simp [WrittenField.field, Sprite.table]⟩

end Tween
