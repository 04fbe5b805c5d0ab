import Tween.Token.Code

/-!
# Reading generated code back

What is found at a place in generated code is told by the way to it and by the form of its entries.

* A `Gate` leads from a stream into the first group of a kind behind some header, as from
  `impl Add for V` into its braces, and a way is a list of gates: `BlockAt gates ts inner` says that
  it leads from `ts` to `inner`.
* A `Reader` takes tokens from the front of a stream; `Reader.read?` has it read all of an entry.
-/

namespace Tween

/-! ## Blocks -/

/-- An entrance to a group: what is written in front of it, and what kind of group it is. -/
structure Gate where
  header : TokenStream
  delimiter : Delimiter

/-- The token is a group of this kind. -/
def TokenTree.isGroup (delimiter : Delimiter) : TokenTree → Bool
  | .group d _ _ => d == delimiter
  | _ => false

/-- The header occurs in the stream, and the first group of that kind behind it holds `inner`. -/
def Gate.Opens (gate : Gate) (ts inner : TokenStream) : Prop :=
  ∃ (front middle : TokenStream) (span : Span) (back : TokenStream),
    ts = front ++ gate.header ++ middle ++ .group gate.delimiter span inner :: back ∧
      ∀ t ∈ middle, t.isGroup gate.delimiter = false

/-- The way through the gates leads to `inner`. -/
def BlockAt : List Gate → TokenStream → TokenStream → Prop
  | [], ts, inner => ts = inner
  | gate :: gates, ts, inner => ∃ us, gate.Opens ts us ∧ BlockAt gates us inner

namespace Gate

/-- Into the items of a trait for a type. -/
def implFor (traitPath : TokenStream) (type : Ident) : Gate where
  header := [Code.word "impl"] ++ traitPath ++ [Code.word "for", .ident type]
  delimiter := .brace

/-- Into the body of a method. -/
def body (method : Ident) : Gate where
  header := [Code.word "fn", .ident method]
  delimiter := .brace

end Gate

section
variable {gate : Gate} {gates : List Gate} {ts us inner : TokenStream}

theorem Gate.Opens.within (h : gate.Opens ts inner) (hpart : ts <:+: us) :
    gate.Opens us inner := by
  obtain ⟨front, middle, span, back, rfl, hmiddle⟩ := h
  obtain ⟨before, after, rfl⟩ := hpart
  exact ⟨before ++ front, middle, span, back ++ after, by simp, hmiddle⟩

/-- A method opens at its body, as there are no braces in its signature. -/
theorem Gate.opens_method (method : Ident) {signature : TokenStream}
    (hsignature : ∀ t ∈ signature, t.isGroup .brace = false) (contents : TokenStream) :
    (body method).Opens
      ([Code.word "fn", .ident method] ++ signature ++ [Code.braces contents]) contents :=
  ⟨[], signature, .callSite, [], by simp [body, Code.braces], hsignature⟩

theorem Gate.Opens.blockAt (h : gate.Opens ts inner) : BlockAt [gate] ts inner :=
  ⟨inner, h, rfl⟩

/-- A way that leads through a part of a stream leads through the stream. -/
theorem BlockAt.within (h : BlockAt (gate :: gates) ts inner) (hpart : ts <:+: us) :
    BlockAt (gate :: gates) us inner := by
  obtain ⟨vs, hvs, hinner⟩ := h
  exact ⟨vs, hvs.within hpart, hinner⟩

end

/-! ## Entries -/

/-- A reader takes what it knows from the front of a stream, and fails on anything else. -/
abbrev Reader := StateT TokenStream Option

namespace Reader

variable {α : Type}

/-- What is read off a stream, provided that all of it is read. -/
def read? (reader : Reader α) (ts : TokenStream) : Option α :=
  match reader.run ts with
  | some (a, []) => some a
  | _ => none

/-- The next token, if it is as expected. -/
def token (expected : TokenTree → Bool) : Reader Unit
  | t :: ts => if expected t then some ((), ts) else none
  | [] => none

/-- The given word. -/
def word (text : String) : Reader Unit :=
  token fun t => t.ident?.any (·.text == text)

/-- The given punctuation character. -/
def mark (c : Char) : Reader Unit :=
  token (·.isPunct c)

/-- A literal with the given text. -/
def literal (text : String) : Reader Unit
  | .literal value :: ts => if value.text = text then some ((), ts) else none
  | _ => none

/-- Any identifier. -/
def name : Reader Ident
  | .ident name :: ts => some (name, ts)
  | _ => none

/-- The field of the given owner. -/
def member (owner : String) : Reader Ident := do
  word owner
  mark '.'
  name

/-- What the reader reads, in parentheses. -/
def parenthesised (reader : Reader α) : Reader α
  | .group .parenthesis _ inner :: ts => (reader.read? inner).map (·, ts)
  | _ => none

/-- All that is left. -/
def rest : Reader TokenStream :=
  fun ts => some (ts, [])

/-- All that is left up to the given mark at the very end. -/
def restUpTo (c : Char) : Reader TokenStream :=
  fun ts => if ts.getLast?.any (·.isPunct c) then some (ts.dropLast, []) else none

theorem restUpTo_append (ts : TokenStream) (c : Char) :
    restUpTo c (ts ++ [Code.mark c]) = some (ts, []) := by
  simp [restUpTo, Code.mark, TokenTree.isPunct]

end Reader

end Tween
