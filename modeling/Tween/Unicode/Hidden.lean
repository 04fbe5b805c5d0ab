import Tween.Unicode.Ranges
import Tween.Unicode.HiddenRanges

/-!
# Characters that do not show

A character is hidden if a reader of source text could not tell it from its neighbours: controls,
blanks other than the plain one, fillers and other characters that a display ignores, format
characters, combining marks, and code points that stand for no character.
-/

namespace Tween.Unicode

/-- The character is not visible on its own. The plain blank does not count as hidden. -/
def isHidden (c : Char) : Bool :=
  if c.toNat < 0x7f then c.toNat < 0x20 else inRanges hiddenRanges c.toNat

end Tween.Unicode
