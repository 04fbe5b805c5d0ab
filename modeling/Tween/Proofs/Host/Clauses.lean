import Tween.Proofs.Host.Written

/-!
# Structs with a where clause

Of a struct that is not generic the body is all that is read behind the name. A where clause stands
in front of a body in braces, and behind one in parentheses. There is no reader for it: a struct
that has one is refused as a whole, whatever the clause and the fields say, and is reported as a
state that is never reached. The struct without the clause is read if its fields are.

* `FieldStyle.Places.read?_eq_none`: a body is not read with anything beside it.
* `Host.read_where`: the struct without the clause and the struct with it.
-/

namespace Tween

variable {config : Config}

/-- The tokens are a where clause: the word, and anything that is no body and does not end the
item. -/
structure IsWhereClause (clause : TokenStream) : Prop where
  word : ∃ word rest, clause = .ident word :: rest ∧ word.text = "where"
  no_braces : ∀ span contents, .group .brace span contents ∉ clause
  no_semicolon : ∀ mark, .punct mark ∈ clause → mark.char ≠ ';'

/-- What follows the name of a struct with these fields and this clause, each in its place: the
clause is in front of braces, and behind parentheses. -/
inductive FieldStyle.Places (clause contents : TokenStream) : FieldStyle → TokenStream → Prop
  | named (span : Span) : Places clause contents .named (clause ++ [.group .brace span contents])
  | positional (span : Span) {mark : Punct} (hmark : mark.char = ';') :
      Places clause contents .positional
        (.group .parenthesis span contents :: (clause ++ [.punct mark]))

namespace FieldStyle.Places

variable {style : FieldStyle} {clause contents ts : TokenStream}

/-- Without a clause the fields are the body. -/
theorem read?_eq (h : style.Places [] contents ts) :
    StructBody.read? ts = some (.fields style contents) := by
  cases h with
  | named span => rfl
  | positional span hmark => simp [StructBody.read?, hmark]

/-- **A body is not read with anything beside it**, unless that begins as generic parameters do. -/
theorem read?_eq_none (h : style.Places clause contents ts) (hne : clause ≠ [])
    (hgeneric : ∀ mark rest, clause = .punct mark :: rest → mark.char ≠ '<') :
    StructBody.read? ts = none := by
  refine Option.eq_none_iff_forall_ne_some.2 fun body hbody => ?_
  have hwritten := StructBody.read?_eq_some_iff.1 hbody
  -- a body without generic parameters has one token, or two of which the last is no group
  cases h with
  | named span =>
    generalize hts : clause ++ [.group .brace span contents] = ts at hwritten
    cases hwritten with
    | generic hmark rest =>
      obtain ⟨t, clause, rfl⟩ := List.exists_cons_of_ne_nil hne
      rw [List.cons_append, List.cons.injEq] at hts
      exact hgeneric _ clause (by rw [hts.1]) hmark
    | unit | named => exact hne (by simpa using congrArg List.length hts)
    | positional => simpa using congrArg List.getLast? hts
  | positional span hmark =>
    generalize hts : TokenTree.group .parenthesis span contents :: (clause ++ [_]) = ts at hwritten
    cases hwritten with
    | positional => exact hne (by simpa using congrArg List.length hts)
    | generic | unit | named => cases hts

end FieldStyle.Places

namespace Host

variable {style : FieldStyle} {clause contents plain tail item plainItem : TokenStream}
  {attributes : List Attribute} {visibility : Visibility} {keyword name : Ident}

/-- **No where clause is read.** A struct without one is read exactly if its fields are. The same
struct with a where clause is refused, whatever its fields are, and the report about it says that
something went wrong. -/
theorem read_where (hattributes : ∀ a ∈ attributes, a.IsWritten)
    (hvisibility : visibility.IsWritten) (hkeyword : keyword.text = "struct")
    (hclause : IsWhereClause clause) (hplain : style.Places [] contents plain)
    (htail : style.Places clause contents tail)
    (hplainItem : TokenStream.dissolve plainItem = attributes.flatMap Attribute.tokens ++
      visibility.tokens ++ .ident keyword :: .ident name :: plain)
    (hitem : TokenStream.dissolve item = attributes.flatMap Attribute.tokens ++
      visibility.tokens ++ .ident keyword :: .ident name :: tail) :
    (∀ host, read config plainItem = .ok host ↔
      ∃ fields, (StructBody.fields style contents).readFields config name = .ok fields ∧
        host = {
          kind := .struct
          name
          visibility := visibility.tokens
          isGeneric := false
          traits := attributes.flatMap Attribute.derivedTraits
          fields }) ∧
    (read config item).mapError (HostError.report config) = .error
      ⟨.internalInvariant, "something went wrong: " ++
        s!"could not parse the fields of `{name.text}`: {Diagnostic.unreadable}", name.span⟩ := by
  refine ⟨fun host => ?plain, ?clause⟩
  case plain =>
    rw [read_tail hattributes hvisibility hkeyword hplainItem, hplain.read?_eq]
    cases hfields : (StructBody.fields style contents).readFields config name with
    | error e => simp [hfields, Except.map]
    | ok fields => simp [hfields, Except.map, ofStruct, @eq_comm _ host]
  case clause =>
    obtain ⟨word, rest, rfl, -⟩ := hclause.word
    have hnone : StructBody.read? tail = none :=
      htail.read?_eq_none (List.cons_ne_nil _ _) (by rintro _ _ ⟨⟩)
    rw [read_tail hattributes hvisibility hkeyword hitem, hnone]
    rfl

end Host

/-! ### A struct with a bound on its types -/

namespace Sprite

open Code

/-- `where Map<u8, [u8]>: Copy, f64: Copy` -/
def bound : TokenStream :=
  [word "where", word "Map", mark '<', word "u8", mark ',',
    .group .bracket .callSite [word "u8"], mark '>', mark ':', word "Copy", mark ',',
    word "f64", mark ':', word "Copy"]

/-- The declaration of `Sprite` with the bound, in an invisible group. -/
def boundItem : TokenStream :=
  [.group .invisible .callSite
    (derive.tokens ++ [word "pub", word "struct", word "Sprite"] ++ bound ++ [braces contents])]

theorem isWhereClause_bound : IsWhereClause bound where
  word := ⟨⟨"where", .callSite⟩, _, rfl, rfl⟩
  no_braces := by simp [bound, word, mark]
  no_semicolon := by simp [bound, word, mark]

end Sprite

/-- The fields of `Sprite` are read, but not behind the bound. -/
theorem read_where_sprite :
    IsWhereClause Sprite.bound ∧
    (∃ host, Host.read .standard (Sprite.item Sprite.contents) = .ok host) ∧
    (Host.read .standard Sprite.boundItem).mapError (HostError.report .standard) = .error
      ⟨.internalInvariant,
        "something went wrong: could not parse the fields of `Sprite`: <parse error>",
        .callSite⟩ := by
  have hattributes : ∀ a ∈ [Sprite.derive], a.IsWritten := by
    simp [Attribute.IsWritten, Sprite.derive]
  have hplain : FieldStyle.named.Places [] Sprite.contents [Code.braces Sprite.contents] :=
    .named .callSite
  have htail : FieldStyle.named.Places Sprite.bound Sprite.contents
      (Sprite.bound ++ [Code.braces Sprite.contents]) := .named .callSite
  have hplainItem : TokenStream.dissolve (Sprite.item Sprite.contents) =
      [Sprite.derive].flatMap Attribute.tokens ++ (Visibility.pub ⟨"pub", .callSite⟩).tokens ++
        [Code.word "struct", Code.word "Sprite", Code.braces Sprite.contents] := rfl
  have hitem : TokenStream.dissolve Sprite.boundItem =
      [Sprite.derive].flatMap Attribute.tokens ++ (Visibility.pub ⟨"pub", .callSite⟩).tokens ++
        Code.word "struct" :: Code.word "Sprite" ::
          (Sprite.bound ++ [Code.braces Sprite.contents]) := rfl
  obtain ⟨hread, hrefused⟩ := Host.read_where hattributes Sprite.pub_isWritten rfl
    Sprite.isWhereClause_bound hplain htail hplainItem hitem
  have hlist : TokenStream.FieldList ([Sprite.x, Sprite.table].map (·.tokens)) Sprite.contents :=
    Sprite.fieldList_contents
  have hfields := StructBody.readFields_written hlist ⟨"Sprite", .callSite⟩
  exact ⟨Sprite.isWhereClause_bound, ⟨_, (hread _).2 ⟨_, hfields, rfl⟩⟩, hrefused⟩

/-- A struct with one field is read as it is, and reported with the bound `u8: Copy`. -/
theorem read_where_point :
    IsWhereClause [Code.word "where", Code.word "u8", Code.mark ':', Code.word "Copy"] ∧
    Host.read .standard [Code.word "struct", Code.word "Point",
        Code.braces [Code.word "x", Code.mark ':', Code.word "f64"]] =
      .ok ⟨.struct, ⟨"Point", .callSite⟩, [], false, [],
        [⟨some ⟨"x", .callSite⟩, some [Code.word "f64"], []⟩]⟩ ∧
    (Host.read .standard [Code.word "struct", Code.word "Point", Code.word "where",
        Code.word "u8", Code.mark ':', Code.word "Copy",
        Code.braces [Code.word "x", Code.mark ':', Code.word "f64"]]).mapError
        (HostError.report .standard) =
      .error ⟨.internalInvariant,
        "something went wrong: could not parse the fields of `Point`: <parse error>",
        .callSite⟩ := by
  refine ⟨⟨⟨⟨"where", .callSite⟩, _, rfl, rfl⟩, ?_, ?_⟩, rfl, rfl⟩
  · simp [Code.word, Code.mark]
  · simp [Code.word, Code.mark]

end Tween
