import Tween.Text.Quoted

/-!
# Reading quoted text

What a string literal says, by the rules of string literals: a quotation mark ends it, a backslash
begins an escape, a carriage return does not occur as it is, and all else stands for itself. An
escape is one character (`\n`), two digits (`\x7f`), a code point of up to six digits in braces
(`\u{ad}`, where digits may be set off by underscores), or a line end, which is skipped with the
blanks after it. Nothing may follow the closing quotation mark.

`Quoted.unquote?` takes a literal character by character. It knows more than `Quoted.quote` ever
writes, so that reading does not depend on how the text was written.

* `read?_escape`: what is written for a character is read as that character, whatever follows.
* `unquote?_quote`: every text is read as it was before it was quoted.
-/

namespace Tween.Text.Quoted

/-! ## The rules of literals -/

/-- The value of a hexadecimal digit, of either case. -/
def hexDigit? (c : Char) : Option Nat :=
  if '0' ≤ c ∧ c ≤ '9' then some (c.toNat - '0'.toNat)
  else if 'a' ≤ c ∧ c ≤ 'f' then some (c.toNat - 'a'.toNat + 10)
  else if 'A' ≤ c ∧ c ≤ 'F' then some (c.toNat - 'A'.toNat + 10)
  else none

/-- What an escape of one character stands for. -/
def escaped? (c : Char) : Option Char :=
  match c with
  | 'n' => some '\n'
  | 'r' => some '\r'
  | 't' => some '\t'
  | '0' => some '\x00'
  | '\\' | '"' | '\'' => some c
  | _ => none

/-- What the reader of a literal is in the middle of. -/
inductive Reading where
  /-- The text, outside of all escapes. -/
  | text
  /-- The blanks after an escaped line end. -/
  | blanks
  /-- An escape, behind its backslash. -/
  | backslash
  /-- The two digits after `\x`. -/
  | twoDigits
  /-- The second of these digits, behind the first. -/
  | oneDigit (first : Nat)
  /-- The code point after `\u`, in front of its brace. -/
  | brace
  /-- The code point in its braces, behind so many digits of that value. -/
  | point (count value : Nat)
  /-- The closing quotation mark was read. -/
  | closed

namespace Reading

/-- A character of the text that is no part of an escape. -/
def textNext? (c : Char) : Option (Reading × Option Char) :=
  if c = '"' then some (closed, none)
  else if c = '\\' then some (backslash, none)
  else if c = '\r' then none
  else some (text, some c)

/-- The character after a backslash. -/
def escapeNext? (c : Char) : Option (Reading × Option Char) :=
  if c = 'x' then some (twoDigits, none)
  else if c = 'u' then some (brace, none)
  else if c = '\n' then some (blanks, none)
  else (escaped? c).map fun d => (text, some d)

/-- A character in the braces of a code point, behind `count` digits of that `value`. -/
def pointNext? (count value : Nat) (c : Char) : Option (Reading × Option Char) :=
  if c = '}' then
    if 0 < count ∧ value.isValidChar then some (text, some (Char.ofNat value)) else none
  else if c = '_' then
    if 0 < count then some (point count value, none) else none
  else if count < 6 then
    (hexDigit? c).map fun d => (point (count + 1) (16 * value + d), none)
  else none

/-- What the reader is in the middle of after one more character, and the character of the text that
is found with it, if there is one. There is no answer where the character is out of place. -/
def next? : Reading → Char → Option (Reading × Option Char)
  | text, c => textNext? c
  | blanks, c => if c ∈ [' ', '\t', '\n', '\r'] then some (blanks, none) else textNext? c
  | backslash, c => escapeNext? c
  | twoDigits, c => (hexDigit? c).bind fun d => if d < 8 then some (oneDigit d, none) else none
  | oneDigit d, c => (hexDigit? c).map fun e => (text, some (Char.ofNat (16 * d + e)))
  | brace, c => if c = '{' then some (point 0 0, none) else none
  | point count value, c => pointNext? count value c
  | closed, _ => none

end Reading

/-- The text that is still found in the characters up to the end of the literal. -/
def read? (reading : Reading) : List Char → Option (List Char)
  | [] =>
    match reading with
    | .closed => some []
    | _ => none
  | c :: cs =>
    match reading.next? c with
    | none => none
    | some (reading, none) => read? reading cs
    | some (reading, some d) => (read? reading cs).map (d :: ·)

/-- The text of a literal, quotation marks included, if it is one. -/
def unquote? (literal : String) : Option String :=
  match literal.toList with
  | '"' :: cs => (read? .text cs).map String.ofList
  | _ => none

/-! ## Code points -/

open Reading

variable {reading reading' : Reading} {c : Char} {cs : List Char}

theorem read?_cons_of_none (h : reading.next? c = some (reading', none)) :
    read? reading (c :: cs) = read? reading' cs := by
  simp only [read?, h]

theorem read?_cons_of_some {d : Char} (h : reading.next? c = some (reading', some d)) :
    read? reading (c :: cs) = (read? reading' cs).map (d :: ·) := by
  simp only [read?, h]

/-- A digit that is written is a digit that is read. -/
theorem hexDigit?_digitChar {d : Nat} (hd : d < 16) :
    hexDigit? d.digitChar = some d ∧ d.digitChar ≠ '}' ∧ d.digitChar ≠ '_' := by
  have digits : ∀ d : Fin 16, hexDigit? d.val.digitChar = some d.val ∧
      d.val.digitChar ≠ '}' ∧ d.val.digitChar ≠ '_' := by decide
  exact digits ⟨d, hd⟩

theorem next?_point_digitChar {count value d : Nat} (hcount : count < 6) (hd : d < 16) :
    (point count value).next? d.digitChar = some (point (count + 1) (16 * value + d), none) := by
  obtain ⟨hdigit, hbrace, hunderscore⟩ := hexDigit?_digitChar hd
  simp [next?, pointNext?, hbrace, hunderscore, hcount, hdigit]

/-- The digits of a number are read as that number. -/
theorem read?_toDigits (n : Nat) (hlength : (Nat.toDigits 16 n).length ≤ 6) (cs : List Char) :
    read? (point 0 0) (Nat.toDigits 16 n ++ cs) =
      read? (point (Nat.toDigits 16 n).length n) cs := by
  induction n using Nat.strongRecOn generalizing cs with
  | ind n ih =>
    by_cases hn : n < 16
    · rw [Nat.toDigits_of_lt_base hn, List.singleton_append,
        read?_cons_of_none (next?_point_digitChar (by omega) hn)]
      simp
    · rw [Nat.toDigits_of_base_le (by omega) (by omega)] at hlength ⊢
      simp only [List.length_append, List.length_singleton] at hlength ⊢
      rw [List.append_assoc, List.singleton_append, ih (n / 16) (by omega) (by omega),
        read?_cons_of_none (next?_point_digitChar (by omega) (Nat.mod_lt n (by omega))),
        show 16 * (n / 16) + n % 16 = n by omega]

/-- A code point has at most six digits, and is the one of a character. -/
theorem read?_codePoint (c : Char) (cs : List Char) :
    read? text (codePoint c ++ cs) = (read? text cs).map (c :: ·) := by
  have hpoint : read? text (codePoint c ++ cs) =
      read? (point 0 0) (Nat.toDigits 16 c.toNat ++ '}' :: cs) := by
    simp [codePoint, read?, next?, textNext?, escapeNext?]
  have hvalid : c.toNat.isValidChar := c.valid
  have hlength : (Nat.toDigits 16 c.toNat).length ≤ 6 := by
    rw [Nat.length_toDigits_le_iff (by omega) (by omega)]
    unfold Nat.isValidChar at hvalid
    omega
  have hclose : (point (Nat.toDigits 16 c.toNat).length c.toNat).next? '}' =
      some (text, some c) := by
    simp [next?, pointNext?, Nat.length_toDigits_pos, hvalid, Char.ofNat_toNat]
  rw [hpoint, read?_toDigits _ hlength, read?_cons_of_some hclose]

/-! ## Texts -/

/-- NUL is read in both of its forms. -/
theorem read?_nul (rest cs : List Char) :
    read? text (nul rest ++ cs) = (read? text cs).map ('\x00' :: ·) := by
  unfold nul
  split
  · split <;> rfl
  · rfl

/-- **What is written for a character** is read as that character, whatever text was in view when it
was written, and whatever follows it now: a digit after `\0` is no part of the escape. -/
theorem read?_escape (c : Char) (rest cs : List Char) :
    read? text (escape c rest ++ cs) = (read? text cs).map (c :: ·) := by
  by_cases hnul : c = '\x00'
  · subst hnul
    exact read?_nul rest cs
  by_cases htab : c = '\t'
  · subst htab
    rfl
  by_cases hnewline : c = '\n'
  · subst hnewline
    rfl
  by_cases hreturn : c = '\r'
  · subst hreturn
    rfl
  by_cases hquote : c = '"'
  · subst hquote
    rfl
  by_cases hbackslash : c = '\\'
  · subst hbackslash
    rfl
  -- no character with an escape of its own
  simp only [escape, hnul, htab, hnewline, hreturn, hquote, hbackslash, if_false]
  split
  · exact read?_codePoint c cs
  · have hnext : text.next? c = some (text, some c) := by
      simp [next?, textNext?, hquote, hbackslash, hreturn]
    exact read?_cons_of_some hnext

theorem read?_encode (cs : List Char) : read? text (encode cs ++ ['"']) = some cs := by
  induction cs with
  | nil => rfl
  | cons c cs ih =>
    rw [encode, List.append_assoc, read?_escape, ih]
    rfl

theorem toList_quote (s : String) : (quote s).toList = '"' :: (encode s.toList ++ ['"']) := by
  simp [quote]

/-- **Every text is read as it was.** -/
theorem unquote?_quote (s : String) : unquote? (quote s) = some s := by
  simp only [unquote?, toList_quote, read?_encode, Option.map_some, String.ofList_toList]

/-- What is read need not be written that way. -/
example : unquote? "\"\\x41\\u\x7b00_e9\x7d\\\n  b\\'\"" = some "Aéb'" := by decide

/-- Two texts are never written the same. -/
theorem quote_inj {s s' : String} : quote s = quote s' ↔ s = s' := by
  constructor
  · intro h
    have hread := unquote?_quote s
    rw [h, unquote?_quote s'] at hread
    exact (Option.some.inj hread).symm
  · rintro rfl
    rfl

end Tween.Text.Quoted
