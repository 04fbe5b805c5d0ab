import Tween.Diagnostic
import Tween.Proofs.Text.Quoted
import Tween.Proofs.Token.Expect

/-!
# What a diagnostic says

A diagnostic reaches its reader through the compiler, which shows the text of a literal: the argument
of `compile_error!` for an error, the note of a deprecation for a warning (`Severity.carrier`). The
message gets there unaltered, whatever characters it has.

* `Diagnostic.chars_eq_chars_iff`: two diagnostics are printed the same exactly if they are of one
  severity and say the same.
* `Diagnostic.tokens_say_message`: the only literal of a diagnostic stands where the compiler looks
  for it, and reads as the message.
-/

namespace Tween

mutual

/-- The literals of a token, at any depth. -/
def TokenTree.literals : TokenTree → List Literal
  | .literal value => [value]
  | .group _ _ inner => TokenStream.literals inner
  | .ident _ | .punct _ => []
termination_by structural t => t

/-- The literals of a stream, at any depth, in their order. -/
def TokenStream.literals : List TokenTree → List Literal
  | [] => []
  | t :: ts => t.literals ++ TokenStream.literals ts
termination_by structural ts => ts

end

open Code Text.Quoted

/-- The tokens by which a message of that severity is shown, at the given place:
`compile_error ! (message)` or `# [deprecated (note = message)]`. -/
def Severity.carrier (span : Span) (message : TokenTree) : Severity → TokenStream
  | error => [.ident ⟨"compile_error", span⟩, .punct ⟨'!', .alone, span⟩,
      .group .parenthesis span [message]]
  | warning => [.punct ⟨'#', .alone, span⟩, .group .bracket span [.ident ⟨"deprecated", span⟩,
      .group .parenthesis span [.ident ⟨"note", span⟩, .punct ⟨'=', .alone, span⟩, message]]]

namespace Diagnostic

variable {text text' : String}

/-! ## Messages in print -/

theorem chars_literal_quote_inj :
    (literal (quote text)).chars = (literal (quote text')).chars ↔ text = text' := by
  rw [← quote_inj, ← String.toList_inj]
  rfl

/-- Streams that differ in the places of their tokens print the same. -/
theorem chars_eq_of_anchoredAt {ts us : TokenStream}
    (h : TokenStream.anchoredAt .callSite ts = TokenStream.anchoredAt .callSite us) :
    TokenStream.chars ts = TokenStream.chars us := by
  rw [← TokenStream.chars_anchoredAt .callSite ts, h, TokenStream.chars_anchoredAt]

theorem chars_errorTokens_inj (span span' : Span) :
    TokenStream.chars (errorTokens span (literal (quote text))) =
      TokenStream.chars (errorTokens span' (literal (quote text'))) ↔ text = text' := by
  have hplace : TokenStream.chars (errorTokens span' (literal (quote text'))) =
      TokenStream.chars (errorTokens span (literal (quote text'))) := chars_eq_of_anchoredAt rfl
  have hshape : ∀ message, errorTokens span message =
      TokenStream.anchoredAt span (segments ["core", "compile_error"] ++ [mark '!']) ++
        .group .parenthesis span ([] ++ [message]) :: TokenStream.anchoredAt span [mark ';'] :=
    fun _ => rfl
  rw [hplace, hshape, hshape, TokenStream.chars_exchange, TokenTree.chars_exchange,
    chars_literal_quote_inj]
  all_goals rfl

theorem chars_warningTokens_inj (span span' : Span) :
    TokenStream.chars (warningTokens span (literal (quote text))) =
      TokenStream.chars (warningTokens span' (literal (quote text'))) ↔ text = text' := by
  have hplace : TokenStream.chars (warningTokens span' (literal (quote text'))) =
      TokenStream.chars (warningTokens span (literal (quote text'))) :=
    chars_eq_of_anchoredAt rfl
  -- the note is in the parentheses of an attribute, which is in front of all else in the scope
  obtain ⟨scope, hshape⟩ : ∃ scope, ∀ message, warningTokens span message =
      TokenStream.anchoredAt span (words ["const", "_"] ++ [mark ':', parens [], mark '=']) ++
        .group .brace span (TokenStream.anchoredAt span [mark '#'] ++
          .group .bracket span (TokenStream.anchoredAt span [word "deprecated"] ++
            [.group .parenthesis span (TokenStream.anchoredAt span [word "note", mark '='] ++
              [message])]) :: scope) :: TokenStream.anchoredAt span [mark ';'] :=
    ⟨_, fun _ => rfl⟩
  rw [hplace, hshape, hshape, TokenStream.chars_exchange, TokenTree.chars_exchange,
    TokenTree.chars_exchange, TokenTree.chars_exchange, chars_literal_quote_inj]
  all_goals rfl

/-- A warning begins with a word, and an error with a colon. -/
theorem chars_warningTokens_ne (span span' : Span) (t u : TokenTree) :
    TokenStream.chars (warningTokens span t) ≠ TokenStream.chars (errorTokens span' u) := by
  intro h
  obtain ⟨rest, hword⟩ : ∃ rest, warningTokens span t = .ident ⟨"const", span⟩ :: rest := ⟨_, rfl⟩
  have hwarning : (TokenStream.chars (warningTokens span t)).head? = some 'c' := by
    simp [hword, TokenStream.chars_cons, TokenTree.chars]
  have herror : (TokenStream.chars (errorTokens span' u)).head? = some ':' := rfl
  rw [h, herror] at hwarning
  cases hwarning

/-- **Two diagnostics are printed the same** exactly if they are of one severity and say the same. -/
theorem chars_eq_chars_iff (d e : Diagnostic) :
    TokenStream.chars d.tokens = TokenStream.chars e.tokens ↔
      d.severity = e.severity ∧ d.message = e.message := by
  unfold tokens
  cases d.severity <;> cases e.severity
  · simp only [chars_errorTokens_inj, true_and]
  · simp [(chars_warningTokens_ne _ _ _ _).symm]
  · simp [chars_warningTokens_ne]
  · simp only [chars_warningTokens_inj, true_and]

/-! ## Messages in place -/

/-- The literal that the message is written as. -/
def messageLiteral (d : Diagnostic) : Literal :=
  ⟨quote d.message, .callSite⟩

theorem literals_tokens (d : Diagnostic) : TokenStream.literals d.tokens = [d.messageLiteral] := by
  unfold tokens
  cases d.severity <;> rfl

/-- The literal stands where the compiler looks for it. -/
theorem runsIn_tokens (d : Diagnostic) :
    TokenStream.RunsIn (d.severity.carrier d.span (.literal d.messageLiteral)) d.tokens := by
  unfold tokens
  cases d.severity with
  | error =>
    -- behind the path to the macro, in front of the semicolon
    exact ⟨_, .self, TokenStream.anchoredAt d.span (segments ["core"] ++ operator ':' ':'),
      TokenStream.anchoredAt d.span [mark ';'], rfl⟩
  | warning =>
    -- the braces are the sixth token, and the attribute is the first thing in them
    exact ⟨_, .inside (.tail _ (.tail _ (.tail _ (.tail _ (.tail _ (.head _)))))) .self, [], _,
      rfl⟩

theorem unquote?_messageLiteral (d : Diagnostic) :
    unquote? (TokenStream.render [.literal d.messageLiteral]) = some d.message := by
  have hprinted : TokenStream.render [.literal d.messageLiteral] = quote d.message :=
    String.ofList_toList
  rw [hprinted, unquote?_quote]

/-- **The message is shown as it is.** A diagnostic of any kind has one literal, which stands where
the compiler looks for it, and which reads as the message. No two messages are printed the same. -/
theorem tokens_say_message (d : Diagnostic) :
    (∃ value : Literal, TokenStream.literals d.tokens = [value] ∧
      TokenStream.RunsIn (d.severity.carrier d.span (.literal value)) d.tokens ∧
      unquote? (TokenStream.render [.literal value]) = some d.message) ∧
    ∀ e : Diagnostic, TokenStream.render d.tokens = TokenStream.render e.tokens ↔
      d.severity = e.severity ∧ d.message = e.message := by
  refine ⟨⟨d.messageLiteral, literals_tokens d, runsIn_tokens d, unquote?_messageLiteral d⟩, ?_⟩
  intro e
  rw [TokenStream.render_inj, chars_eq_chars_iff]

end Diagnostic

end Tween
