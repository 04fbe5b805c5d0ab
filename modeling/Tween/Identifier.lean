import Tween.Token.Basic
import Tween.Unicode.Identifier

/-!
# Identifiers made from text

Names for generated items are put together as text, and not every text is an identifier.
`Ident.ofText` accepts exactly the nonempty words of identifier characters, and, where the text
begins with `r#`, such a word that may be written raw. Keywords are identifiers here: whether one is
allowed at its place is up to whoever reads the generated code.
-/

namespace Tween

/-- The text is no identifier. -/
structure InvalidName where
  text : String
  deriving DecidableEq

namespace Ident

/-- The words that have no raw form: the placeholder and the segments that begin a path. -/
def neverRaw : List String :=
  ["_", "super", "self", "Self", "crate"]

/-- The text can be written as an identifier. -/
def isValidText (text : String) : Bool :=
  match text.toList with
  | 'r' :: '#' :: word => Unicode.isIdentifier word && !neverRaw.contains (String.ofList word)
  | word => Unicode.isIdentifier word

/-- The identifier with the given text, at `span`. -/
def ofText (text : String) (span : Span) : Except InvalidName Ident :=
  if isValidText text then .ok ⟨text, span⟩ else .error ⟨text⟩

theorem ofText_eq_ok {text : String} {span : Span} {i : Ident} :
    ofText text span = .ok i ↔ isValidText text = true ∧ i = ⟨text, span⟩ := by
  cases h : isValidText text <;> simp [ofText, h, @eq_comm _ i]

/-- The word itself, without the `r#` of a raw identifier. -/
def bareText (i : Ident) : String :=
  match i.text.toList with
  | 'r' :: '#' :: word => String.ofList word
  | _ => i.text

end Ident

end Tween
