import Tween.Accessor
import Tween.Proofs.Component

/-!
# What an accessor says

`Exposes` tells the implementation of `Animatable` by its three parts: the type of the data, and the
bodies of the two methods. An accessor exposes what it is made of (`Accessor.exposes_tokens`), and
with a companion vector the entries of both bodies are about its components
(`Exposed.exists_getBody_eq`, `Exposed.exists_setBody_eq`).
-/

namespace Tween

open Code

/-- Into the items of `Animatable` for a host. -/
def Accessor.gate (runtimePath : TokenStream) (host : Ident) : Gate :=
  .implFor (runtimePath ++ segments ["Animatable"]) host

/-- The code implements `Animatable`: it gives the data this type, and has these bodies for the
methods that read the data off the host and write it back. -/
structure Exposes (gate : Gate) (getter setter : Ident) (code type getBody setBody : TokenStream) :
    Prop where
  type : ∃ items, gate.Opens code items ∧
    words ["type", "AnimatableData"] ++ [mark '='] ++ type ++ [mark ';'] <+: items
  getter : BlockAt [gate, .body getter] code getBody
  setter : BlockAt [gate, .body setter] code setBody

namespace Accessor

/-- The receiver and the result of the reading method. -/
def getSignature : TokenStream :=
  [parens [mark '&', word "self"]] ++ operator '-' '>' ++ dataType

/-- The receiver and the parameter of the writing method. -/
def setSignature : TokenStream :=
  [parens ([mark '&'] ++ words ["mut", "self"] ++ [mark ',', word "new_value", mark ':'] ++
    dataType)]

variable (a : Accessor)

/-- The type of the data, up to its semicolon. -/
def typeItem : TokenStream :=
  words ["type", "AnimatableData"] ++ [mark '='] ++ a.exposed.type ++ [mark ';']

/-- The reading method. -/
def getItem : TokenStream :=
  [word "fn", .ident a.getter] ++ getSignature ++ [braces a.exposed.getBody]

/-- The writing method. -/
def setItem : TokenStream :=
  [word "fn", .ident a.setter] ++ setSignature ++ [braces a.exposed.setBody]

theorem opens_tokens :
    (gate a.runtimePath a.host).Opens a.tokens (a.typeItem ++ a.getItem ++ a.setItem) := by
  refine ⟨[], [], .callSite, [], ?_, by simp⟩
  simp [tokens, gate, Gate.implFor, typeItem, getItem, setItem, getSignature, setSignature, braces]

/-- **An accessor exposes what it is made of.** -/
theorem exposes_tokens :
    Exposes (gate a.runtimePath a.host) a.getter a.setter a.tokens a.exposed.type
      a.exposed.getBody a.exposed.setBody where
  type := ⟨_, a.opens_tokens, a.getItem ++ a.setItem, by simp [typeItem]⟩
  getter := by
    have hitem : (Gate.body a.getter).Opens a.getItem a.exposed.getBody :=
      Gate.opens_method a.getter (by decide) _
    exact ⟨_, a.opens_tokens, (hitem.within (List.infix_append _ _ _)).blockAt⟩
  setter := by
    have hitem : (Gate.body a.setter).Opens a.setItem a.exposed.setBody :=
      Gate.opens_method a.setter (by decide) _
    exact ⟨_, a.opens_tokens, (hitem.within (List.suffix_append _ _).isInfix).blockAt⟩

end Accessor

namespace Exposed

/-- `n : self . a` -/
def getEntry : Reader Mention := do
  let n ← .name
  .mark ':'
  let a ← .member "self"
  return ⟨[n, a], none⟩

/-- `self . a = new_value . b ;` -/
def setStatement : Reader Mention := do
  let a ← .member "self"
  .mark '='
  let b ← .member "new_value"
  .mark ';'
  return ⟨[a, b], none⟩

/-- The vector is read off the host component by component. -/
theorem exists_getBody_eq (name : Ident) (components : List Component) :
    ∃ entries, (vector name components).getBody =
        [.ident name, braces (separatedBy (mark ',') entries)] ∧
      ReadsOff getEntry false entries components :=
  ⟨_, rfl, ReadsOff.of_map (fun _ => ⟨_, rfl, by simp, by simp, rfl⟩) components⟩

/-- The vector is written back component by component. -/
theorem exists_setBody_eq (name : Ident) (components : List Component) :
    ∃ statements, (vector name components).setBody = statements.flatten ∧
      ReadsOff setStatement false statements components :=
  ⟨_, List.flatMap_def, ReadsOff.of_map (fun _ => ⟨_, rfl, by simp, by simp, rfl⟩) components⟩

end Exposed

end Tween
