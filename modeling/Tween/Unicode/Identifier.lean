import Tween.Unicode.Ranges
import Tween.Unicode.IdentifierRanges

/-!
# Identifier characters

Which characters an identifier may begin and go on with, by the standard identifier syntax: the
letters of all scripts begin one, and digits, marks and connectors may follow. The underscore, which
the standard leaves to each language, is of both classes here, as a word may begin with it.

* `isIdentifierPart_of_start`: whatever may begin an identifier may also follow.
-/

namespace Tween.Unicode

/-- The character may begin an identifier. -/
def isIdentifierStart (c : Char) : Bool :=
  if c.toNat < 0x80 then c.isAlpha || c == '_' else inRanges startRanges c.toNat

/-- The character may follow in an identifier. -/
def isIdentifierPart (c : Char) : Bool :=
  isIdentifierStart c ||
    if c.toNat < 0x80 then c.isDigit else inRanges continueRanges c.toNat

theorem isIdentifierPart_of_start {c : Char} (h : isIdentifierStart c = true) :
    isIdentifierPart c = true := by
  simp [isIdentifierPart, h]

/-- A nonempty word of identifier characters, the first of them one that may begin it. -/
def isIdentifier : List Char → Bool
  | [] => false
  | c :: cs => isIdentifierStart c && cs.all isIdentifierPart

theorem isIdentifier_append {cs ds : List Char} (hc : isIdentifier cs = true)
    (hd : ∀ d ∈ ds, isIdentifierPart d = true) : isIdentifier (cs ++ ds) = true := by
  cases cs with
  | nil => simp [isIdentifier] at hc
  | cons c cs =>
    simp only [isIdentifier, Bool.and_eq_true, List.all_eq_true] at hc
    simp only [List.cons_append, isIdentifier, Bool.and_eq_true, List.all_eq_true,
      List.mem_append]
    exact ⟨hc.1, fun x hx => hx.elim (hc.2 x) (hd x)⟩

end Tween.Unicode
