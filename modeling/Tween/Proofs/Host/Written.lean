import Tween.Component
import Tween.Proofs.Host.Completeness
import Tween.Proofs.Host.Read
import Tween.Proofs.Token.Everywhere

/-!
# What a struct that was read is written as

The reader of structs accepts nothing but structs, and keeps everything it accepts. An item that is
read as a struct without generic parameters is, token by token, that struct (`Host.Written`): its
attributes, its visibility, `struct`, its name and a body. The body is cut at its commas into as
many entries as the struct has fields, and each entry is a field (`Field.Written`): attributes, a
visibility, a name and a colon where fields have names, and a type.

* `Declaration.read_eq_iff`: what stands in front of the content, and how far it goes.
* `Field.read_eq_ok_iff_written`: the entries that are read, and the fields they are read as.
* `Host.read_eq_ok_iff_written`: the items that are read, and the structs they are read as.
* `Host.Written.exists_ty`: what holds of every token of an item holds of those of its types.
* `Host.written_of_read`: what the struct says is what the item says.
-/

namespace Tween

open AngleScan TokenStream

/-! ## Declarations -/

theorem Attribute.leading_eq_nil_iff {ts : TokenStream} :
    leading ts = ([], ts) ↔ ∀ pound span body rest,
      ts = .punct pound :: .group .bracket span body :: rest → pound.char ≠ '#' := by
  constructor
  · rintro h pound span body rest rfl hpound
    simp [leading, hpound] at h
  · intro h
    unfold leading
    split
    · rw [if_neg (h _ _ _ _ rfl)]
    · rfl

namespace Visibility

/-- Where `pub` is read on its own, no parenthesis group follows. -/
theorem ne_group_of_leading {ts rest scope : TokenStream} {word : Ident} {span : Span}
    (h : (leading ts).1 = pub word) : (leading ts).2 ≠ .group .parenthesis span scope :: rest := by
  intro hts
  unfold leading at h hts
  split at hts <;> (try split at hts) <;> simp_all

/-- A visibility is read back in front of anything it does not go on with. -/
theorem leading_append {visibility : Visibility} {rest : TokenStream}
    (hvisibility : visibility.IsWritten)
    (hword : visibility = .inherited → ∀ word ts, rest = .ident word :: ts → word.text ≠ "pub")
    (hscope : ∀ word, visibility = .pub word → ∀ span scope ts,
      rest ≠ .group .parenthesis span scope :: ts) :
    leading (visibility.tokens ++ rest) = (visibility, rest) := by
  cases visibility with
  | inherited =>
    rw [tokens, List.nil_append, leading.eq_def]
    split
    · rw [if_neg (hword rfl _ _ rfl)]
    · rw [if_neg (hword rfl _ _ rfl)]
    · rfl
  | pub word =>
    rw [tokens, List.singleton_append, leading.eq_def]
    have hpub : word.text = "pub" := hvisibility
    split
    · rename_i hrest
      rw [List.cons.injEq] at hrest
      exact absurd hrest.2 (hscope word rfl _ _ _)
    · rename_i hrest
      rw [List.cons.injEq, TokenTree.ident.injEq] at hrest
      rw [← hrest.1, ← hrest.2, if_pos hpub]
    · rename_i hrest
      exact (hrest word rest rfl).elim
  | restricted word span scope =>
    have hpub : word.text = "pub" := hvisibility
    simp [tokens, leading, hpub]

end Visibility

namespace Declaration

/-- What stands in front of the content is written as such, and goes on as far as it can: no further
attribute follows the attributes, no `pub` a missing visibility, and no scope a plain `pub`. -/
structure IsWritten (d : Declaration) : Prop where
  attributes : ∀ a ∈ d.attributes, a.IsWritten
  visibility : d.visibility.IsWritten
  no_attribute : ∀ pound span body rest, d.visibility.tokens ++ d.content =
    .punct pound :: .group .bracket span body :: rest → pound.char ≠ '#'
  no_pub : d.visibility = .inherited → ∀ word rest, d.content = .ident word :: rest →
    word.text ≠ "pub"
  no_scope : ∀ word, d.visibility = .pub word → ∀ span scope rest,
    d.content ≠ .group .parenthesis span scope :: rest

/-- **What a stream is read as**: the only declaration that is written that way. -/
theorem read_eq_iff {ts : TokenStream} {d : Declaration} :
    read ts = d ↔ ts = d.tokens ∧ d.IsWritten := by
  constructor
  · rintro rfl
    refine ⟨(tokens_read ts).symm, ?attributes, ?visibility, ?no_attribute, ?no_pub, ?no_scope⟩
    case attributes => exact fun _ => Attribute.isWritten_of_mem_leading
    case visibility => exact Visibility.isWritten_leading _
    case no_attribute =>
      have hrest : (read ts).visibility.tokens ++ (read ts).content = (Attribute.leading ts).2 :=
        Visibility.tokens_leading _
      rw [hrest]
      exact Attribute.leading_eq_nil_iff.1 (Attribute.leading_leading ts)
    case no_pub => exact fun hnone _ _ hcontent => Visibility.ne_pub_of_leading hnone hcontent
    case no_scope => exact fun _ hpub _ _ _ => Visibility.ne_group_of_leading hpub
  · rintro ⟨rfl, h⟩
    have hfront := Attribute.leading_tokens h.attributes
      (Attribute.leading_eq_nil_iff.2 h.no_attribute)
    have hvisibility := Visibility.leading_append h.visibility h.no_pub h.no_scope
    simp only [read, tokens, List.append_assoc, hfront, hvisibility]

end Declaration

/-! ## Fields -/

variable {config : Config}

/-- The entry of a field list is this field: attributes, a visibility, a name and a colon if fields
have names, and the type. The field is marked with what its attributes mark it with. -/
inductive Field.Written (config : Config) : FieldStyle → TokenStream → Field → Prop
  | named {d : Declaration} {name : Ident} {colon : Punct} {ty : TokenStream}
      {marks : List (List Ident)} (hwritten : d.IsWritten)
      (hcontent : d.content = .ident name :: .punct colon :: ty) (hcolon : colon.char = ':')
      (hmarks : List.Forall₂ (Attribute.Marks config) d.attributes marks) :
      Written config .named d.tokens ⟨some name, some ty, marks.flatten⟩
  | positional {d : Declaration} {marks : List (List Ident)} (hwritten : d.IsWritten)
      (hmarks : List.Forall₂ (Attribute.Marks config) d.attributes marks) :
      Written config .positional d.tokens ⟨none, some d.content, marks.flatten⟩

theorem FieldStyle.split?_named_eq_some_iff {content ty : TokenStream} {name? : Option Ident} :
    FieldStyle.named.split? content = some (name?, ty) ↔
      ∃ name colon, content = .ident name :: .punct colon :: ty ∧ colon.char = ':' ∧
        name? = some name := by
  constructor
  · intro h
    unfold FieldStyle.split? at h
    split at h
    · split at h
      · rename_i hcolon
        cases h
        exact ⟨_, _, rfl, hcolon, rfl⟩
      · cases h
    · cases h
    · rename_i hstyle
      cases hstyle
  · rintro ⟨name, colon, rfl, hcolon, rfl⟩
    simp [FieldStyle.split?, hcolon]

/-- **The entries that are read**, and the fields they are read as. -/
theorem Field.read_eq_ok_iff_written {host : Ident} {style : FieldStyle} {entry : TokenStream}
    {field : Field} :
    Field.read config host style entry = .ok field ↔ Written config style entry field := by
  rw [Field.read_eq_ok_iff]
  constructor
  · rintro ⟨name?, ty, markers, hsplit, hmarkers, rfl⟩
    obtain ⟨hentry, hwritten⟩ := Declaration.read_eq_iff.1 (Eq.refl (Declaration.read entry))
    obtain ⟨marks, hmarks, rfl⟩ := Attribute.allMarkers_eq_ok_iff.1 hmarkers
    generalize Declaration.read entry = d at hsplit hwritten hmarks hentry
    subst hentry
    cases style with
    | named =>
      obtain ⟨name, colon, hcontent, hcolon, rfl⟩ := FieldStyle.split?_named_eq_some_iff.1 hsplit
      exact .named hwritten hcontent hcolon hmarks
    | positional =>
      cases hsplit
      exact .positional hwritten hmarks
  · intro h
    cases h with
    | @named d name colon ty marks hwritten hcontent hcolon hmarks =>
      rw [Declaration.read_eq_iff.2 ⟨rfl, hwritten⟩]
      exact ⟨some name, ty, marks.flatten,
        FieldStyle.split?_named_eq_some_iff.2 ⟨name, colon, hcontent, hcolon, rfl⟩,
        Attribute.allMarkers_eq_ok_iff.2 ⟨marks, hmarks, rfl⟩, rfl⟩
    | @positional d marks hwritten hmarks =>
      rw [Declaration.read_eq_iff.2 ⟨rfl, hwritten⟩]
      exact ⟨none, d.content, marks.flatten, rfl,
        Attribute.allMarkers_eq_ok_iff.2 ⟨marks, hmarks, rfl⟩, rfl⟩

namespace Field

/-- The markers of a field are all the ignore word, so one is enough for the field to be ignored. -/
theorem Written.isIgnored_iff {style : FieldStyle} {entry : TokenStream} {field : Field}
    (h : field.Written config style entry) :
    field.isIgnored config = true ↔ field.markers ≠ [] := by
  have htext : ∀ word ∈ field.markers, word.text = config.ignoreWord := by
    cases h with
    | named _ _ _ hmarks => exact fun word => Attribute.text_eq_of_mem_flatten hmarks
    | positional _ hmarks => exact fun word => Attribute.text_eq_of_mem_flatten hmarks
  rw [isIgnored, List.any_eq_true]
  constructor
  · rintro ⟨word, hword, -⟩
    exact List.ne_nil_of_mem hword
  · intro hne
    obtain ⟨word, hword⟩ := List.exists_mem_of_ne_nil _ hne
    exact ⟨word, hword, by simpa using htext word hword⟩

theorem isSome_component? (field : Field) :
    field.component?.isSome ↔ field.name.isSome ∧ field.ty.isSome := by
  obtain ⟨name, ty, markers⟩ := field
  cases name <;> cases ty <;> simp [component?]

/-- Every field has a type, and what holds of all tokens of the entry holds of those of the type. -/
theorem Written.exists_ty {p : TokenTree → Prop} {style : FieldStyle} {entry : TokenStream}
    {field : Field} (h : field.Written config style entry) (hentry : Everywhere p entry) :
    ∃ ty, field.ty = some ty ∧ Everywhere p ty := by
  cases h with
  | named _ hcontent =>
    rw [Declaration.tokens, everywhere_append, hcontent] at hentry
    exact ⟨_, rfl, hentry.2.2.2⟩
  | positional =>
    rw [Declaration.tokens, everywhere_append] at hentry
    exact ⟨_, rfl, hentry.2⟩

end Field

/-! ## Structs -/

/-- What holds of all tokens of a field list holds of those of its entries. -/
theorem AngleScan.Cuts.everywhere {p : TokenTree → Prop} {scan : AngleScan}
    {pieces : List TokenStream} {ts : TokenStream} (h : Cuts scan pieces ts)
    (hts : Everywhere p ts) : ∀ piece ∈ pieces, Everywhere p piece := by
  induction h with
  | last _ => simpa using hts
  | cons _ _ _ _ ih =>
    rw [everywhere_append, everywhere_cons] at hts
    exact List.forall_mem_cons.2 ⟨hts.1, ih hts.2.2⟩

/-- What follows the name of a struct with these fields: `;`, or braces or parentheses whose
contents are cut into entries that are the fields one by one. -/
inductive Host.BodyWritten (config : Config) : TokenStream → List Field → Prop
  | unit {mark : Punct} (hmark : mark.char = ';') : BodyWritten config [.punct mark] []
  | named {span : Span} {contents : TokenStream} {pieces : List TokenStream} {fields : List Field}
      (hcuts : Cuts start pieces contents)
      (hfields : List.Forall₂ (Field.Written config .named) (pieces.filter (!·.isEmpty)) fields) :
      BodyWritten config [.group .brace span contents] fields
  | positional {span : Span} {contents : TokenStream} {pieces : List TokenStream}
      {fields : List Field} {mark : Punct} (hcuts : Cuts start pieces contents)
      (hfields : List.Forall₂ (Field.Written config .positional) (pieces.filter (!·.isEmpty))
        fields) (hmark : mark.char = ';') :
      BodyWritten config [.group .parenthesis span contents, .punct mark] fields

/-- The tokens of an item are this struct, and nothing else. The traits of the struct are those that
its attributes derive. -/
structure Host.Written (config : Config) (ts : TokenStream) (host : Host) : Prop where
  kind : host.kind = .struct
  not_generic : host.isGeneric = false
  tokens : ∃ (attributes : List Attribute) (visibility : Visibility) (keyword : Ident)
    (body : TokenStream) (traits : List (List String)),
    ts = attributes.flatMap Attribute.tokens ++ host.visibility ++
      [.ident keyword, .ident host.name] ++ body ∧
    (∀ a ∈ attributes, a.IsWritten) ∧ host.visibility = visibility.tokens ∧
    visibility.IsWritten ∧ keyword.text = "struct" ∧ BodyWritten config body host.fields ∧
    List.Forall₂ Attribute.Derives attributes traits ∧ host.traits = traits.flatten

namespace Host

theorem forall₂_written_iff {name : Ident} {style : FieldStyle} {contents : TokenStream}
    {fields : List Field} :
    (StructBody.fields style contents).readFields config name = .ok fields ↔
      List.Forall₂ (Field.Written config style) (TokenStream.entries contents) fields := by
  rw [StructBody.readFields, mapM_eq_ok_iff]
  simp only [Field.read_eq_ok_iff_written]

/-- The bodies that are read, generic parameters aside, and the fields they are read as. -/
theorem bodyWritten_iff (name : Ident) {ts : TokenStream} {fields : List Field} :
    BodyWritten config ts fields ↔ ∃ body : StructBody, body ≠ .generic ∧ body.Written ts ∧
      body.readFields config name = .ok fields := by
  constructor
  · intro h
    cases h with
    | unit hmark => exact ⟨.unit, by simp, .unit hmark, rfl⟩
    | named hcuts hfields =>
      refine ⟨.fields .named _, by simp, .named _ _, forall₂_written_iff.2 ?_⟩
      rwa [TokenStream.entries, pieces_eq_iff_cuts.2 hcuts]
    | positional hcuts hfields hmark =>
      refine ⟨.fields .positional _, by simp, .positional _ _ hmark, forall₂_written_iff.2 ?_⟩
      rwa [TokenStream.entries, pieces_eq_iff_cuts.2 hcuts]
  · rintro ⟨body, hbody, hwritten, hread⟩
    cases hwritten with
    | generic => exact absurd rfl hbody
    | unit hmark =>
      cases hread
      exact .unit hmark
    | named span contents =>
      exact .named (cuts_pieces start contents) (forall₂_written_iff.1 hread)
    | positional span contents hmark =>
      exact .positional (cuts_pieces start contents) (forall₂_written_iff.1 hread) hmark

variable {item : TokenStream} {host : Host}

/-- A field is written as one of the entries, whose tokens are tokens of the body. -/
theorem BodyWritten.exists_written {ts : TokenStream} {fields : List Field} {field : Field}
    (h : BodyWritten config ts fields) (hfield : field ∈ fields) :
    ∃ style entry, field.Written config style entry ∧
      ∀ p : TokenTree → Prop, Everywhere p ts → Everywhere p entry := by
  cases h with
  | unit => cases hfield
  | named hcuts hfields =>
    obtain ⟨entry, hentry, hwritten⟩ := exists_of_forall₂_of_mem hfields.flip hfield
    exact ⟨.named, entry, hwritten, fun p hts =>
      hcuts.everywhere hts.1.2 entry (List.mem_of_mem_filter hentry)⟩
  | positional hcuts hfields _ =>
    obtain ⟨entry, hentry, hwritten⟩ := exists_of_forall₂_of_mem hfields.flip hfield
    exact ⟨.positional, entry, hwritten, fun p hts =>
      hcuts.everywhere hts.1.2 entry (List.mem_of_mem_filter hentry)⟩

theorem isGeneric_ofStruct {d : Declaration} {name : Ident} {body : StructBody}
    {fields : List Field} :
    (ofStruct d name body fields).isGeneric = false ↔ body ≠ .generic := by
  cases body <;> simp [ofStruct]

theorem ofStruct_eq {d : Declaration} {body : StructBody} (hkind : host.kind = .struct)
    (hgeneric : host.isGeneric = false) (hbody : body ≠ .generic)
    (hvisibility : host.visibility = d.visibility.tokens)
    (htraits : host.traits = d.attributes.flatMap Attribute.derivedTraits) :
    ofStruct d host.name body host.fields = host := by
  cases host
  cases body <;> simp_all [ofStruct]

/-- **The items that are read** as structs without generic parameters, and what they are read as. -/
theorem read_eq_ok_iff_written :
    read config item = .ok host ∧ host.kind = .struct ∧ host.isGeneric = false ↔
      host.Written config (TokenStream.dissolve item) := by
  constructor
  · rintro ⟨hread, hkind, hgeneric⟩
    obtain ⟨keyword, rest, -, -, rfl⟩ |
      ⟨keyword, name, rest, body, fields, hcontent, hkeyword, hbody, hfields, rfl⟩ :=
      ofDeclaration_eq_ok_iff.1 hread
    · cases hkind
    obtain ⟨hitem, hwritten⟩ :=
      Declaration.read_eq_iff.1 (Eq.refl (Declaration.read (TokenStream.dissolve item)))
    generalize Declaration.read (TokenStream.dissolve item) = d
      at hcontent hwritten hitem hgeneric ⊢
    refine ⟨rfl, hgeneric, d.attributes, d.visibility, keyword, rest,
      d.attributes.map Attribute.derivedTraits, ?_, hwritten.attributes, rfl, hwritten.visibility,
      hkeyword, ?_, Attribute.forall₂_derives_iff.2 rfl, List.flatMap_def⟩
    · rw [hitem, Declaration.tokens, hcontent]
      simp [ofStruct]
    · exact (bodyWritten_iff name).2 ⟨body, isGeneric_ofStruct.1 hgeneric, hbody, hfields⟩
  · rintro ⟨hkind, hgeneric, attributes, visibility, keyword, rest, traits, hitem, hattributes,
      hvisibility, hpub, hkeyword, hbody, htraits, hderives⟩
    obtain ⟨body, hne, hwritten, hfields⟩ := (bodyWritten_iff host.name).1 hbody
    have htokens : TokenStream.dissolve item = Declaration.tokens
        ⟨attributes, visibility, .ident keyword :: .ident host.name :: rest⟩ := by
      rw [hitem, hvisibility, Declaration.tokens]
      simp
    have hread : Declaration.read (TokenStream.dissolve item) =
        ⟨attributes, visibility, .ident keyword :: .ident host.name :: rest⟩ := by
      rw [htokens]
      exact Declaration.read_tokens hattributes hpub rfl fun _ => by rw [hkeyword]; decide
    refine ⟨ofDeclaration_eq_ok_iff.2 (.inr ⟨keyword, host.name, rest, body, host.fields, ?_,
      hkeyword, hwritten, hfields, (ofStruct_eq hkind hgeneric hne ?_ ?_).symm⟩), hkind, hgeneric⟩
    · rw [hread]
    · rw [hread, hvisibility]
    · rw [hread, hderives, Attribute.forall₂_derives_iff.1 htraits, List.flatMap_def]

/-- **Types are made of tokens of the item**: every field has a type, and what holds of all tokens
of the item holds of those of the type. -/
theorem Written.exists_ty {p : TokenTree → Prop} {ts : TokenStream} (h : host.Written config ts)
    (hts : Everywhere p ts) :
    ∀ field ∈ host.fields, ∃ ty, field.ty = some ty ∧ Everywhere p ty := by
  intro field hfield
  obtain ⟨attributes, visibility, keyword, body, traits, rfl, -, -, -, -, hbody, -⟩ := h.tokens
  obtain ⟨style, entry, hwritten, heverywhere⟩ := hbody.exists_written hfield
  exact hwritten.exists_ty (heverywhere p (everywhere_append.1 hts).2)

/-- **A struct says what its item says.** An item that is read as a struct without generic
parameters is written as that struct, with nothing left out, made up or moved. As every marker that
is accepted is the ignore word, a field with a name and a type is ignored if it has any. -/
theorem written_of_read (hread : read config item = .ok host) (hkind : host.kind = .struct)
    (hgeneric : host.isGeneric = false) :
    host.Written config (TokenStream.dissolve item) ∧ ∀ field ∈ host.fields,
      (field.component?.isSome ∧ field.isIgnored config) ↔
        (field.name.isSome ∧ field.ty.isSome ∧ field.markers ≠ []) := by
  have hwritten := read_eq_ok_iff_written.1 ⟨hread, hkind, hgeneric⟩
  refine ⟨hwritten, fun field hfield => ?_⟩
  obtain ⟨attributes, visibility, keyword, body, traits, -, -, -, -, -, hbody, -⟩ := hwritten.tokens
  obtain ⟨style, entry, hfield, -⟩ := hbody.exists_written hfield
  rw [hfield.isIgnored_iff, Field.isSome_component?, and_assoc]

end Host

/-! ### A struct with positional fields -/

namespace Pair

open Code

/-- `#[animatable(ignore,)] pub(crate) Map<u8, u8>` -/
def ignored : TokenStream :=
  Sprite.marker.tokens ++ [word "pub", parens [word "crate"], word "Map", mark '<', word "u8",
    mark ',', word "u8", mark '>']

/-- `#[derive(…)] struct Pair(f64, , #[…] pub(crate) Map<u8, u8>);` -/
def item : TokenStream :=
  Sprite.derive.tokens ++ [word "struct", word "Pair",
    parens ([word "f64", mark ',', mark ','] ++ ignored), mark ';']

/-- What the item declares. -/
def host : Host where
  kind := .struct
  name := ⟨"Pair", .callSite⟩
  visibility := []
  isGeneric := false
  traits := ["Debug", "Shape"]
  fields := [
    ⟨none, some [word "f64"], []⟩,
    ⟨none, some [word "Map", mark '<', word "u8", mark ',', word "u8", mark '>'],
      [⟨"ignore", .callSite⟩]⟩]

end Pair

/-- There is an entry of the field list between two of its commas for every field, and for nothing
else. -/
theorem written_of_read_pair :
    (Host.read .standard Pair.item = .ok Pair.host ∧ Pair.host.kind = .struct ∧
      Pair.host.isGeneric = false) ∧
    Pair.host.Written .standard (TokenStream.dissolve Pair.item) ∧ ∀ field ∈ Pair.host.fields,
      (field.component?.isSome ∧ field.isIgnored .standard) ↔
        (field.name.isSome ∧ field.ty.isSome ∧ field.markers ≠ []) := by
  have hread : Host.read .standard Pair.item = .ok Pair.host := rfl
  exact ⟨⟨hread, rfl, rfl⟩, Host.written_of_read hread rfl rfl⟩

end Tween
