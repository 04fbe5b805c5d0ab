import Tween.Host.Read
import Tween.Proofs.Attribute.Forms
import Tween.Proofs.Host.Entries

/-!
# Every written struct is read

A struct with named fields, written the way the language has it, is read as the host it declares:
with its name, its visibility and the traits it derives, and with its fields in their order, each
with its name, its type and the words it is marked with (`Host.read_struct`). A type may be any
tokens, as long as it closes the angle brackets it opens and has its commas inside of them.
-/

namespace Tween

open AngleScan TokenStream

/-! ## What stands in front of a field's name -/

theorem Attribute.plain_of_mem_tokens {a : Attribute} (ha : a.IsWritten) {t : TokenTree}
    (ht : t ∈ a.tokens) : Plain t := by
  have hpound : a.pound.char = '#' := ha
  simp only [tokens, List.mem_cons, List.not_mem_nil, or_false] at ht
  rcases ht with rfl | rfl
  · exact plain_punct (by rw [hpound]; decide)
  · exact plain_group _ _ _

theorem Attribute.plain_of_mem_flatMap {attributes : List Attribute}
    (hattributes : ∀ a ∈ attributes, a.IsWritten) {t : TokenTree}
    (ht : t ∈ attributes.flatMap tokens) : Plain t := by
  obtain ⟨a, ha, ht⟩ := List.mem_flatMap.1 ht
  exact plain_of_mem_tokens (hattributes a ha) ht

theorem Visibility.plain_of_mem_tokens {visibility : Visibility} {t : TokenTree}
    (ht : t ∈ visibility.tokens) : Plain t := by
  cases visibility with
  | inherited => simp [tokens] at ht
  | pub word =>
    rw [tokens, List.mem_singleton] at ht
    exact ht ▸ plain_ident word
  | restricted word span scope =>
    simp only [tokens, List.mem_cons, List.not_mem_nil, or_false] at ht
    rcases ht with rfl | rfl
    · exact plain_ident word
    · exact plain_group _ _ _

/-! ## Fields -/

/-- A named field as it is written, with the words that each of its attributes marks it with. -/
structure WrittenField (config : Config) where
  attributes : List Attribute
  visibility : Visibility
  name : Ident
  colon : Punct
  ty : TokenStream
  marks : List (List Ident)
  attributes_written : ∀ a ∈ attributes, a.IsWritten
  visibility_written : visibility.IsWritten
  name_ne : name.text ≠ "pub"
  colon_char : colon.char = ':'
  ty_closed : Closed ty
  attributes_mark : List.Forall₂ (Attribute.Marks config) attributes marks

namespace WrittenField

variable {config : Config} (f : WrittenField config)

/-- The field as a declaration, whose content is `name : type`. -/
def declaration : Declaration where
  attributes := f.attributes
  visibility := f.visibility
  content := .ident f.name :: .punct f.colon :: f.ty

/-- The field as tokens. -/
def tokens : TokenStream :=
  f.declaration.tokens

/-- The words listed in the markers on the field. -/
def markers : List Ident :=
  f.marks.flatten

/-- The field that is declared. -/
def field : Field where
  name := some f.name
  ty := some f.ty
  markers := f.markers

theorem read_tokens : Declaration.read f.tokens = f.declaration :=
  Declaration.read_tokens f.attributes_written f.visibility_written rfl fun _ => f.name_ne

theorem tokens_ne_nil : f.tokens ≠ [] := by
  simp [tokens, declaration, Declaration.tokens]

/-- A field closes its angle brackets if its type does. -/
theorem tokens_closed : Closed f.tokens := by
  have hcolon : Plain (.punct f.colon) := plain_punct (by rw [f.colon_char]; decide)
  have hfront : ∀ t ∈ f.attributes.flatMap Attribute.tokens ++ f.visibility.tokens ++
      [.ident f.name, .punct f.colon], Plain t := by
    intro t ht
    simp only [List.mem_append, List.mem_cons, List.not_mem_nil, or_false] at ht
    rcases ht with (ht | ht) | rfl | rfl
    · exact Attribute.plain_of_mem_flatMap f.attributes_written ht
    · exact Visibility.plain_of_mem_tokens ht
    · exact plain_ident f.name
    · exact hcolon
  have h : Closed (_ ++ f.ty) := (closed_plain_append hfront).2 f.ty_closed
  simpa [tokens, declaration, Declaration.tokens] using h

theorem read_field (host : Ident) : Field.read config host .named f.tokens = .ok f.field := by
  have hsplit : FieldStyle.named.split? f.declaration.content = some (some f.name, f.ty) := by
    simp [FieldStyle.split?, declaration, f.colon_char]
  have hmarkers : Attribute.allMarkers config f.declaration.attributes = .ok f.markers :=
    Attribute.allMarkers_eq_ok_iff.2 ⟨f.marks, f.attributes_mark, rfl⟩
  simp only [Field.read, f.read_tokens, hsplit, hmarkers, field]

end WrittenField

/-- The fields of a list of written fields are read one by one. -/
theorem StructBody.readFields_written {config : Config} {contents : TokenStream}
    {fields : List (WrittenField config)}
    (hcontents : FieldList (fields.map (·.tokens)) contents) (host : Ident) :
    (StructBody.fields .named contents).readFields config host = .ok (fields.map (·.field)) := by
  have hentries : TokenStream.entries contents = fields.map (·.tokens) := by
    refine entries_of_fieldList hcontents fun entry hentry => ?_
    obtain ⟨f, -, rfl⟩ := List.mem_map.1 hentry
    exact f.tokens_closed
  rw [StructBody.readFields, hentries, mapM_eq_ok_iff, List.forall₂_map_left_iff,
    List.forall₂_map_right_iff, List.forall₂_same]
  exact fun f _ => f.read_field host

/-! ## Structs -/

/-- A struct is told by what follows its name. -/
theorem Host.read_tail {config : Config} {item : TokenStream} {attributes : List Attribute}
    {visibility : Visibility} {keyword name : Ident} {tail : TokenStream}
    (hattributes : ∀ a ∈ attributes, a.IsWritten) (hvisibility : visibility.IsWritten)
    (hkeyword : keyword.text = "struct")
    (hitem : TokenStream.dissolve item = attributes.flatMap Attribute.tokens ++
      visibility.tokens ++ .ident keyword :: .ident name :: tail) :
    Host.read config item = (StructBody.read? tail).elim (.error (.badBody name)) fun body =>
      (body.readFields config name).map
        (ofStruct ⟨attributes, visibility, .ident keyword :: .ident name :: tail⟩ name body) := by
  have hread : Declaration.read (TokenStream.dissolve item) =
      ⟨attributes, visibility, .ident keyword :: .ident name :: tail⟩ := by
    rw [hitem]
    exact Declaration.read_tokens (d := ⟨attributes, visibility, _⟩) hattributes hvisibility rfl
      (fun _ => by rw [hkeyword]; decide)
  cases hbody : StructBody.read? tail <;>
    simp only [Host.read, hread, ofDeclaration, hkeyword, if_true, hbody, Option.elim]

/-- A struct in braces is read field by field. -/
theorem Host.read_braces {config : Config} {item : TokenStream} {attributes : List Attribute}
    {visibility : Visibility} {keyword name : Ident} {span : Span} {contents : TokenStream}
    (hattributes : ∀ a ∈ attributes, a.IsWritten) (hvisibility : visibility.IsWritten)
    (hkeyword : keyword.text = "struct")
    (hitem : TokenStream.dissolve item = attributes.flatMap Attribute.tokens ++
      visibility.tokens ++ [.ident keyword, .ident name, .group .brace span contents]) :
    Host.read config item =
      ((StructBody.fields .named contents).readFields config name).map
        (ofStruct ⟨attributes, visibility, [.ident keyword, .ident name,
          .group .brace span contents]⟩ name (.fields .named contents)) :=
  read_tail hattributes hvisibility hkeyword hitem

/-- **A written struct is read** as the host it declares. -/
theorem Host.read_struct {config : Config} {item : TokenStream} {attributes : List Attribute}
    {visibility : Visibility} {keyword name : Ident} {span : Span} {contents : TokenStream}
    {fields : List (WrittenField config)}
    (hattributes : ∀ a ∈ attributes, a.IsWritten) (hvisibility : visibility.IsWritten)
    (hkeyword : keyword.text = "struct")
    (hitem : TokenStream.dissolve item = attributes.flatMap Attribute.tokens ++
      visibility.tokens ++ [.ident keyword, .ident name, .group .brace span contents])
    (hcontents : FieldList (fields.map (·.tokens)) contents) :
    ∃ traits, List.Forall₂ Attribute.Derives attributes traits ∧
      Host.read config item = .ok
        { kind := .struct
          name
          visibility := visibility.tokens
          isGeneric := false
          traits := traits.flatten
          fields := fields.map (·.field) } := by
  refine ⟨attributes.map Attribute.derivedTraits, Attribute.forall₂_derives_iff.2 rfl, ?_⟩
  rw [Host.read_braces hattributes hvisibility hkeyword hitem,
    StructBody.readFields_written hcontents]
  simp only [Except.map, ofStruct, List.flatMap_def]

/-! ### A struct with a plain and an ignored field -/

namespace Sprite

open Code

/-- `#[derive(Debug, animatable::Shape)]` -/
def derive : Attribute :=
  ⟨⟨'#', .alone, .callSite⟩, .callSite, [word "derive", parens ([word "Debug", mark ',',
    word "animatable"] ++ operator ':' ':' ++ [word "Shape"])]⟩

/-- `#[animatable(ignore,)]` -/
def marker : Attribute :=
  ⟨⟨'#', .alone, .callSite⟩, .callSite,
    [word "animatable", parens [word "ignore", mark ',']]⟩

theorem pub_isWritten : (Visibility.pub ⟨"pub", .callSite⟩).IsWritten := rfl

theorem marker_marks : marker.Marks .standard [⟨"ignore", .callSite⟩] := by
  refine .list ⟨⟨"animatable", .callSite⟩, .callSite, _, rfl, rfl, ?_⟩ (by decide)
  exact .cons [word "ignore"] rfl .nil

/-- `x: f64` -/
def x : WrittenField .standard where
  attributes := []
  visibility := .inherited
  name := ⟨"x", .token "x"⟩
  colon := ⟨':', .alone, .callSite⟩
  ty := [word "f64"]
  marks := []
  attributes_written := by simp
  visibility_written := trivial
  name_ne := by decide
  colon_char := rfl
  ty_closed := by decide
  attributes_mark := .nil

/-- `#[animatable(ignore,)] pub table: Map<Fn(u8) -> u8, u8>` -/
def table : WrittenField .standard where
  attributes := [marker]
  visibility := .pub ⟨"pub", .callSite⟩
  name := ⟨"table", .token "table"⟩
  colon := ⟨':', .alone, .callSite⟩
  ty := [word "Map", mark '<', word "Fn", parens [word "u8"]] ++ operator '-' '>' ++
    [word "u8", mark ',', word "u8", mark '>']
  marks := [[⟨"ignore", .callSite⟩]]
  attributes_written := by simp [Attribute.IsWritten, marker]
  visibility_written := pub_isWritten
  name_ne := by decide
  colon_char := rfl
  ty_closed := by decide
  attributes_mark := .cons marker_marks .nil

/-- The declaration of `Sprite` with the given contents of its braces. -/
def item (contents : TokenStream) : TokenStream :=
  derive.tokens ++ [word "pub", word "struct", word "Sprite", braces contents]

/-- Both fields, with a comma after each. -/
def contents : TokenStream :=
  x.tokens ++ mark ',' :: (table.tokens ++ [mark ','])

theorem fieldList_contents : FieldList [x.tokens, table.tokens] contents := by
  have hlist : CommaList [x.tokens, table.tokens] contents :=
    .cons x.tokens rfl (.cons table.tokens rfl .nil)
  refine hlist.fieldList ?_
  rw [List.forall_mem_cons, List.forall_mem_singleton]
  exact ⟨x.tokens_ne_nil, table.tokens_ne_nil⟩

end Sprite

/-- A struct whose declaration comes in an invisible group. Of the two paths that it derives, the
last segments are the traits. -/
theorem read_struct_sprite :
    TokenStream.dissolve [.group .invisible .callSite (Sprite.item Sprite.contents)] =
        [Sprite.derive].flatMap Attribute.tokens ++ (Visibility.pub ⟨"pub", .callSite⟩).tokens ++
          [Code.word "struct", Code.word "Sprite", Code.braces Sprite.contents] ∧
      List.Forall₂ Attribute.Derives [Sprite.derive] [["Debug", "Shape"]] ∧
      Host.read .standard [.group .invisible .callSite (Sprite.item Sprite.contents)] = .ok
        { kind := .struct
          name := ⟨"Sprite", .callSite⟩
          visibility := [Code.word "pub"]
          isGeneric := false
          traits := ["Debug", "Shape"]
          fields := [
            ⟨some ⟨"x", .token "x"⟩, some Sprite.x.ty, []⟩,
            ⟨some ⟨"table", .token "table"⟩, some Sprite.table.ty,
              [⟨"ignore", .callSite⟩]⟩] } := by
  have hattributes : ∀ a ∈ [Sprite.derive], a.IsWritten := by
    simp [Attribute.IsWritten, Sprite.derive]
  have hfields : FieldList ([Sprite.x, Sprite.table].map (·.tokens)) Sprite.contents :=
    Sprite.fieldList_contents
  have hitem : TokenStream.dissolve [.group .invisible .callSite (Sprite.item Sprite.contents)] =
      [Sprite.derive].flatMap Attribute.tokens ++ (Visibility.pub ⟨"pub", .callSite⟩).tokens ++
        [Code.word "struct", Code.word "Sprite", Code.braces Sprite.contents] := rfl
  obtain ⟨traits, htraits, hread⟩ :=
    Host.read_struct hattributes Sprite.pub_isWritten rfl hitem hfields
  obtain rfl : traits = [["Debug", "Shape"]] := Attribute.forall₂_derives_iff.1 htraits
  exact ⟨hitem, htraits, hread⟩

end Tween
