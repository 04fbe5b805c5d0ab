import Tween.Proofs.Component
import Tween.Proofs.Emission.Ignored
import Tween.Proofs.Emission.Totality
import Tween.Proofs.Host.Written
import Tween.Proofs.Token.Compact

/-!
# Only floats are animated

Types are compared by their texts, and still nothing but a plain `f32` or `f64` passes for one
(`attributeEmission_floats`). A supported type is one of these two words, whatever the arguments
are, and a type whose text is a word is that word. So the code that takes a component for a float,
with a `0.0` or a cast, is generated for floats only.
-/

namespace Tween

open TokenStream

namespace Config

theorem mem_floatTypes {text : String} : text ∈ floatTypes ↔ text = "f32" ∨ text = "f64" := by
  simp [floatTypes]

end Config

namespace Host

variable {config : Config} {host : Host}

/-- A host that passes validation is a struct without generic parameters. -/
theorem written_of_verdict {item : TokenStream} {components : List Component}
    (hread : read config item = .ok host) (hverdict : host.verdict config = .proceed components) :
    host.Written config (dissolve item) := by
  obtain ⟨-, -, hform, -⟩ := verdict_eq_proceed_iff.1 hverdict
  obtain ⟨hkind, hgeneric, -, -⟩ := formFinding?_eq_none_iff.1 hform
  exact read_eq_ok_iff_written.1 ⟨hread, hkind, hgeneric⟩

/-- A component that passes validation has a supported type, and one that is a single word. -/
theorem exists_ident_of_verdict {item : TokenStream} {components : List Component}
    (hconfig : config.SupportsFloats) (hlexed : Everywhere TokenTree.IsLexed item)
    (hread : read config item = .ok host) (hverdict : host.verdict config = .proceed components) :
    ∀ c ∈ components, ∃ word : Ident, c.ty = [.ident word] ∧
      (word.text = "f32" ∨ word.text = "f64") ∧ word.text ∈ config.supportedTypes := by
  intro c hc
  have hwritten := written_of_verdict hread hverdict
  obtain ⟨rfl, -, -, htype⟩ := verdict_eq_proceed_iff.1 hverdict
  have hsupported : compact c.ty ∈ config.supportedTypes := typeFinding?_eq_none_iff.1 htype c hc
  have hfloat : compact c.ty ∈ Config.floatTypes := hconfig.subset hsupported
  -- the tokens of the type are tokens of the item, once its invisible groups are gone
  obtain ⟨field, hfield, -, -, hty⟩ := mem_components.1 hc
  obtain ⟨ty, hsome, hvisible⟩ := hwritten.exists_ty (visible_dissolve item) field hfield
  obtain ⟨ty', hsome', hlexed⟩ :=
    hwritten.exists_ty (hlexed.dissolve TokenTree.shallow_isLexed) field hfield
  obtain rfl : ty = c.ty := Option.some.inj (hsome.symm.trans hty)
  obtain rfl : ty' = c.ty := Option.some.inj (hsome'.symm.trans hty)
  obtain ⟨word, hword, htext⟩ := eq_ident_of_compact (fun _ => hvisible.of_mem)
    (fun _ => hlexed.of_mem) (Config.isIdentifier_of_mem_floatTypes _ hfloat)
  rw [← htext] at hsupported hfloat
  exact ⟨word, hword, Config.mem_floatTypes.1 hfloat, hsupported⟩

end Host

/-- **Only floats are animated.** The arguments of the attribute leave at least one supported type,
and none but `f32` and `f64`. Where the attribute puts declarations after an item, the item was read
as a host, and each of its fields with a name and without an ignore marker has one word for a type,
`f32` or `f64`, and that word is supported. Every piece of a companion vector belongs to such a
field. -/
theorem attributeEmission_floats :
    (∀ (arguments : TokenStream) (config : Config), Config.ofArguments arguments = .ok config →
      config.supportedTypes ≠ [] ∧
        ∀ text ∈ config.supportedTypes, text = "f32" ∨ text = "f64") ∧
    ∀ (arguments item : TokenStream) (e : Emission), Everywhere TokenTree.IsLexed item →
      attributeEmission arguments item = .ok e → e.declarations ≠ [] →
      attributeOutput arguments item =
        .ok (TokenStream.removeAttribute "animatable" item ++ e.tokens) ∧
      ∃ (config : Config) (host : Host), Config.ofArguments arguments = .ok config ∧
        Host.read config item = .ok host ∧ host.emission config = .ok e ∧
        (∀ field ∈ host.fields, field.name.isSome → field.isIgnored config = false →
          ∃ word : Ident, field.ty = some [.ident word] ∧
            (word.text = "f32" ∨ word.text = "f64") ∧ word.text ∈ config.supportedTypes) ∧
        ∀ v a, e = .vector v a → ∀ place,
          v.fragments.sequence place = (host.components config).map place.piece := by
  refine ⟨fun arguments config harguments => ?configs,
    fun arguments item e hlexed h hcode => ⟨?output, ?host⟩⟩
  case configs =>
    have hconfig := Config.supportsFloats_of_ofArguments harguments
    exact ⟨hconfig.ne_nil, fun text htext => Config.mem_floatTypes.1 (hconfig.subset htext)⟩
  case output =>
    rw [attributeOutput_eq, h]
    rfl
  case host =>
    obtain ⟨config, host, harguments, hread, hemission⟩ := attributeEmission_declarations h hcode
    have hconfig := Config.supportsFloats_of_ofArguments harguments
    obtain ⟨hverdict, hcases⟩ := Host.emission_declarations_cases hemission hcode
    refine ⟨config, host, harguments, hread, hemission, fun field hfield hname hignored => ?fields,
      fun v a he place => ?pieces⟩
    case fields =>
      obtain ⟨name, hname⟩ := Option.isSome_iff_exists.1 hname
      obtain ⟨ty, hty, -⟩ :=
        (Host.written_of_verdict hread hverdict).exists_ty (visible_dissolve item) field hfield
      have hmem : ⟨name, ty⟩ ∈ host.components config :=
        Host.mem_components.2 ⟨field, hfield, hignored, hname, hty⟩
      rw [hty]
      simpa using Host.exists_ident_of_verdict hconfig hlexed hread hverdict _ hmem
    case pieces =>
      subst he
      obtain ⟨_, _, -, -, he⟩ | ⟨_, _, -, -, -, he⟩ := hcases
      · cases he
      · cases he
        exact Fragments.sequence_ofComponents _ place

/-- What follows `Sprite` if the attribute allows `f64` only. -/
def Sprite.emission : Emission :=
  .scalar ⟨⟨"Sprite", .callSite⟩, Config.standard.runtimePath, ⟨"animatable_data", .callSite⟩,
    ⟨"set_animatable_data", .callSite⟩, .scalar ⟨⟨"x", .token "x"⟩, x.ty⟩⟩

/-- `#[animatable(types(f64))]` on a struct with a component and an ignored field. -/
theorem attributeEmission_floats_sprite :
    (Everywhere TokenTree.IsLexed (Sprite.item Sprite.contents) ∧
      attributeEmission [Code.word "types", Code.parens [Code.word "f64"]]
        (Sprite.item Sprite.contents) = .ok Sprite.emission ∧
      Sprite.emission.declarations ≠ []) ∧
    ∃ (config : Config) (host : Host),
      Config.ofArguments [Code.word "types", Code.parens [Code.word "f64"]] = .ok config ∧
        Host.read config (Sprite.item Sprite.contents) = .ok host ∧
        host.emission config = .ok Sprite.emission ∧
        ∀ field ∈ host.fields, field.name.isSome → field.isIgnored config = false →
          ∃ word : Ident, field.ty = some [.ident word] ∧
            (word.text = "f32" ∨ word.text = "f64") ∧ word.text ∈ config.supportedTypes := by
  have hlexed : Everywhere TokenTree.IsLexed (Sprite.item Sprite.contents) := by decide
  have hemission : attributeEmission [Code.word "types", Code.parens [Code.word "f64"]]
      (Sprite.item Sprite.contents) = .ok Sprite.emission := rfl
  have hcode : Sprite.emission.declarations ≠ [] := by simp [Sprite.emission, Emission.declarations]
  obtain ⟨-, config, host, harguments, hread, he, hfields, -⟩ :=
    attributeEmission_floats.2 _ _ _ hlexed hemission hcode
  exact ⟨⟨hlexed, hemission, hcode⟩, config, host, harguments, hread, he, hfields⟩

end Tween
