import Tween.Host.Read

/-!
# What an item has to be to be read

The readers of items, bodies and fields inverted: `Host.ofDeclaration_eq_ok_iff`,
`StructBody.read?_eq_some_iff` and `Field.read_eq_ok_iff` tell from an answer what was read, and
what is answered for what.
-/

namespace Tween

/-- How the body of a struct is written. -/
inductive StructBody.Written : StructBody → TokenStream → Prop
  | generic {mark : Punct} (hmark : mark.char = '<') (rest : TokenStream) :
      Written .generic (.punct mark :: rest)
  | unit {mark : Punct} (hmark : mark.char = ';') : Written .unit [.punct mark]
  | named (span : Span) (contents : TokenStream) :
      Written (.fields .named contents) [.group .brace span contents]
  | positional (span : Span) (contents : TokenStream) {mark : Punct} (hmark : mark.char = ';') :
      Written (.fields .positional contents) [.group .parenthesis span contents, .punct mark]

theorem StructBody.read?_eq_some_iff {body : StructBody} {ts : TokenStream} :
    StructBody.read? ts = some body ↔ body.Written ts := by
  constructor
  · intro h
    unfold StructBody.read? at h
    split at h
    · split at h
      · rename_i hmark
        cases h
        exact .generic hmark _
      · split at h
        · rename_i hunit
          cases h
          rw [hunit.2]
          exact .unit hunit.1
        · cases h
    · cases h
      exact .named _ _
    · split at h
      · rename_i hmark
        cases h
        exact .positional _ _ hmark
      · cases h
    · cases h
  · intro h
    cases h with
    | generic hmark rest => simp [StructBody.read?, hmark]
    | unit hmark => simp [StructBody.read?, hmark]
    | named span contents => rfl
    | positional span contents hmark => simp [StructBody.read?, hmark]

/-- **The fields that entries are read as**. -/
theorem Field.read_eq_ok_iff {config : Config} {host : Ident} {style : FieldStyle}
    {entry : TokenStream} {field : Field} :
    Field.read config host style entry = .ok field ↔
      ∃ name ty markers, style.split? (Declaration.read entry).content = some (name, ty) ∧
        Attribute.allMarkers config (Declaration.read entry).attributes = .ok markers ∧
        field = ⟨name, some ty, markers⟩ := by
  constructor
  · intro h
    unfold Field.read at h
    simp only at h
    split at h
    · cases h
    · rename_i name ty hsplit
      split at h
      · cases h
      · rename_i markers hmarkers
        cases h
        exact ⟨name, ty, markers, hsplit, hmarkers, rfl⟩
  · rintro ⟨name, ty, markers, hsplit, hmarkers, rfl⟩
    simp only [Field.read, hsplit, hmarkers]

namespace Host

variable {config : Config} {d : Declaration} {host : Host} {item : TokenStream}

/-- **The hosts that declarations are read as**: any item but a struct as it is, and a struct if its
body and all its fields can be read. -/
theorem ofDeclaration_eq_ok_iff :
    ofDeclaration config d = .ok host ↔
      (∃ keyword rest, d.content = .ident keyword :: rest ∧ keyword.text ≠ "struct" ∧
        host = ofOther d keyword rest) ∨
      ∃ keyword name rest body fields, d.content = .ident keyword :: .ident name :: rest ∧
        keyword.text = "struct" ∧ body.Written rest ∧
        body.readFields config name = .ok fields ∧ host = ofStruct d name body fields := by
  constructor
  · intro h
    unfold ofDeclaration at h
    split at h
    · rename_i keyword rest hcontent
      split at h
      · rename_i hkeyword
        split at h
        · rename_i name rest
          split at h
          · cases h
          · rename_i body hbody
            cases hfields : body.readFields config name with
            | error e => rw [hfields] at h; cases h
            | ok fields =>
              rw [hfields] at h
              cases h
              exact .inr ⟨keyword, name, rest, body, fields, hcontent, hkeyword,
                StructBody.read?_eq_some_iff.1 hbody, hfields, rfl⟩
        · cases h
      · rename_i hkeyword
        cases h
        exact .inl ⟨keyword, rest, hcontent, hkeyword, rfl⟩
    · cases h
  · rintro (⟨keyword, rest, hcontent, hkeyword, rfl⟩ |
      ⟨keyword, name, rest, body, fields, hcontent, hkeyword, hbody, hfields, rfl⟩)
    · simp only [ofDeclaration, hcontent, hkeyword, if_false]
    · simp only [ofDeclaration, hcontent, hkeyword, if_true,
        StructBody.read?_eq_some_iff.2 hbody, hfields, Except.map]

theorem mem_of_mem_content {ts : TokenStream} {t : TokenTree}
    (h : t ∈ (Declaration.read ts).content) : t ∈ ts := by
  rw [← Declaration.tokens_read ts, Declaration.tokens]
  exact List.mem_append_right _ h

/-- An item that is no struct is named by its keyword, or by an identifier after it. -/
theorem name_ofOther_mem (d : Declaration) (keyword : Ident) (rest : TokenStream) :
    .ident (ofOther d keyword rest).name ∈ TokenTree.ident keyword :: rest := by
  cases hname : (TokenStream.idents rest).head? with
  | none =>
    have hkeyword : (ofOther d keyword rest).name = keyword := by simp [ofOther, hname]
    rw [hkeyword]
    exact List.mem_cons_self
  | some name =>
    have hfirst : (ofOther d keyword rest).name = name := by simp [ofOther, hname]
    obtain ⟨t, ht, hword⟩ := List.mem_filterMap.1 (List.mem_of_head? hname)
    rw [TokenTree.ident?_eq_some] at hword
    rw [hfirst, ← hword]
    exact List.mem_cons_of_mem _ ht

/-- A host is named by an identifier of its item that stands outside of visible groups. -/
theorem name_mem_idents (h : Host.read config item = .ok host) :
    host.name ∈ TokenStream.idents (TokenStream.dissolve item) := by
  rw [TokenStream.idents, List.mem_filterMap]
  refine ⟨.ident host.name, mem_of_mem_content ?_, rfl⟩
  obtain ⟨keyword, rest, hcontent, -, rfl⟩ |
    ⟨keyword, name, rest, body, fields, hcontent, -, -, -, rfl⟩ := ofDeclaration_eq_ok_iff.1 h
  · rw [hcontent]
    exact name_ofOther_mem _ keyword rest
  · rw [hcontent]
    exact List.mem_cons_of_mem _ List.mem_cons_self

end Host

end Tween
