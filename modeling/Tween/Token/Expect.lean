import Tween.Token.Render

/-!
# Expectations on generated tokens

Two checks on printed tokens: `expectEqual` holds when both streams print the same, `expectRun` when
the printed form of one occurs within that of the other. A failed check answers with the text that
explains it.
-/

namespace Tween.TokenStream

/-- The first text occurs somewhere in the second, as a run of characters. -/
def occursIn (needle haystack : List Char) : Bool :=
  match haystack with
  | [] => needle.isEmpty
  | _ :: rest => needle.isPrefixOf haystack || occursIn needle rest

theorem occursIn_iff {needle haystack : List Char} :
    occursIn needle haystack = true ↔ needle <:+: haystack := by
  induction haystack with
  | nil => simp [occursIn]
  | cons c rest ih => simp [occursIn, ih, List.infix_cons_iff]

/-- Both streams print the same. -/
def expectEqual (actual expected : TokenStream) : Except String Unit :=
  let actual := render actual
  let expected := render expected
  if actual = expected then
    .ok ()
  else
    .error s!"generated tokens differ\n  actual: {actual}\nexpected: {expected}"

/-- The printed `needle` occurs in the printed `haystack`. -/
def expectRun (haystack needle : TokenStream) : Except String Unit :=
  if occursIn (chars needle) (chars haystack) then
    .ok ()
  else
    let haystack := render haystack
    let needle := render needle
    .error s!"generated tokens do not contain `{needle}`\n{haystack}"

end Tween.TokenStream
