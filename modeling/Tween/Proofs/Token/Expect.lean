import Tween.Proofs.Token.Render
import Tween.Token.Code
import Tween.Token.Expect

/-!
# What the expectations tell

The two checks look at printed text alone, and still are about tokens. Streams of legible tokens
print the same only if they are the same, but for spans and for the spacing of a mark that nothing
follows. And whatever tokens stand in a row anywhere in a stream, the check for a run finds them.

* `TokenStream.expectEqual_eq_ok_iff`: when the check for equality passes.
* `TokenStream.expectRun_complete`: the check for a run misses none.
-/

namespace Tween.TokenStream

open Code

variable {ts us : TokenStream}

/-! ## Equality -/

theorem expectEqual_eq_ok_iff_render : expectEqual ts us = .ok () ↔ render ts = render us := by
  unfold expectEqual
  simp only
  split <;> rename_i h <;> simp [h]

/-- **The check for equality passes** exactly if both streams are the same tokens in the same groups
and the same order, up to spans, and up to the spacing of a mark at the end of its level. -/
theorem expectEqual_eq_ok_iff (hts : Legible ts) (hus : Legible us) :
    expectEqual ts us = .ok () ↔ outline Spacing.between ts = outline Spacing.between us := by
  rw [expectEqual_eq_ok_iff_render, render_inj, chars_eq_chars_iff hts hus]

/-- `fn r#type(&'a self) -> u8 {}`, the marks spaced as given. -/
def method (name : String) (lifetime arrow last : Spacing) (span : Span) : TokenStream :=
  anchoredAt span [word "fn", word name,
    parens [mark '&', .punct ⟨'\'', lifetime, .callSite⟩, word "a", word "self",
      .punct ⟨',', last, .callSite⟩],
    .punct ⟨'-', arrow, .callSite⟩, mark '>', word "u8", braces []]

/-- Another place passes, and so does the comma in front of a bracket, however spaced. A raw
identifier, or an arrow that is not glued, does not. -/
theorem expectEqual_method :
    expectEqual (method "r#type" .joint .joint .alone .callSite)
        (method "r#type" .joint .joint .joint (.token "item:0")) = .ok () ∧
      expectEqual (method "r#type" .joint .joint .alone .callSite)
        (method "type" .joint .joint .alone .callSite) ≠ .ok () ∧
      expectEqual (method "r#type" .joint .joint .alone .callSite)
        (method "r#type" .joint .alone .alone .callSite) ≠ .ok () := by
  have hmethod : Legible (method "r#type" .joint .joint .alone .callSite) := by decide
  refine ⟨(expectEqual_eq_ok_iff hmethod (by decide)).2 rfl, fun h => ?_, fun h => ?_⟩
  · have houtline := (expectEqual_eq_ok_iff hmethod (by decide)).1 h
    simp [method, anchoredAt, TokenTree.anchoredAt, word, outline, TokenTree.outline] at houtline
  · have houtline := (expectEqual_eq_ok_iff hmethod (by decide)).1 h
    cases houtline

/-! ## Runs -/

theorem expectRun_eq_ok_iff : expectRun ts us = .ok () ↔ chars us <:+: chars ts := by
  rw [← occursIn_iff]
  unfold expectRun
  split <;> rename_i h <;> simp [h]

/-- The tokens stand in a row in the stream, or in what one of its groups holds, at any depth. -/
def RunsIn (run ts : TokenStream) : Prop :=
  ∃ level, IsLevel level ts ∧ run <:+: level

theorem RunsIn.expectRun_eq_ok (h : RunsIn us ts) : expectRun ts us = .ok () := by
  obtain ⟨level, hlevel, hrun⟩ := h
  exact expectRun_eq_ok_iff.2 ((infix_chars hrun).trans hlevel.infix_chars)

/-- **The check for a run misses none.** It passes for all tokens that stand in a row anywhere in
the stream, fails only for tokens that do not, and passes where the check for equality does. What it
passes for is printed as a part of the stream. -/
theorem expectRun_complete (ts us : TokenStream) :
    (RunsIn us ts → expectRun ts us = .ok ()) ∧
      (∀ message, expectRun ts us = .error message → ¬ RunsIn us ts) ∧
      (expectEqual ts us = .ok () → expectRun ts us = .ok ()) ∧
      (expectRun ts us = .ok () → chars us <:+: chars ts) := by
  refine ⟨RunsIn.expectRun_eq_ok, fun message hfails hrun => ?_, fun hequal => ?_,
    expectRun_eq_ok_iff.1⟩
  · rw [hrun.expectRun_eq_ok] at hfails
    cases hfails
  · rw [expectEqual_eq_ok_iff_render, render_inj] at hequal
    exact expectRun_eq_ok_iff.2 (hequal ▸ List.infix_rfl)

/-- What two captures of nothing leave behind, and a mark that is glued to the braces after it. -/
def glued : TokenStream :=
  [.group .invisible .callSite [], .group .invisible .callSite [], .punct ⟨'-', .joint, .callSite⟩]

/-- `f(& -{ 1.0; a })`, with what is `glued` in front of the braces. -/
def layered : TokenStream :=
  [word "f", parens (mark '&' :: glued ++ [braces [literal "1.0", mark ';', word "a"]])]

/-- A run is found among what encloses it, and a run is found in the braces. What is not found is no
run. -/
theorem expectRun_layered :
    (RunsIn glued layered ∧ expectRun layered glued = .ok ()) ∧
      (RunsIn [mark ';', word "a"] layered ∧ expectRun layered [mark ';', word "a"] = .ok ()) ∧
      ¬ RunsIn [mark ';', literal "1.0"] layered := by
  have hparens : ∀ {level : TokenStream},
      IsLevel level (mark '&' :: glued ++ [braces [literal "1.0", mark ';', word "a"]]) →
        IsLevel level layered :=
    .inside (List.mem_cons_of_mem _ List.mem_cons_self)
  have hglued : RunsIn glued layered :=
    ⟨_, hparens .self, [mark '&'], [braces [literal "1.0", mark ';', word "a"]], rfl⟩
  have hbraces : RunsIn [mark ';', word "a"] layered :=
    ⟨_, hparens (.inside (List.mem_append_right _ List.mem_cons_self) .self),
      [literal "1.0"], [], rfl⟩
  exact ⟨⟨hglued, (expectRun_complete layered glued).1 hglued⟩,
    ⟨hbraces, (expectRun_complete layered _).1 hbraces⟩, (expectRun_complete layered _).2.1 _ rfl⟩

end Tween.TokenStream
