import Tween.Proofs.Component
import Tween.Vector.Companion

/-!
# Where the pieces of a companion vector stand

Every place has its way through the code of a companion vector, its way of putting entries next to
each other, and its form of an entry. They are told here without the code that generates them: the
components of the sum are what stands in the literal that `add` of `impl Add` answers with, each as
`n: lhs.a + rhs.b`.

* `CompanionVector.blockAt_tokens`: the pieces of a place stand where they are looked for.
* `Place.read?_piece`: the piece of a component mentions this component only.
-/

namespace Tween

open Code

namespace Place

/-! ## Entries -/

/-- `n : lhs . a op rhs . b` -/
def combination (op : Char) : Reader Mention := do
  let n ← .name
  .mark ':'
  let a ← .member "lhs"
  .mark op
  let b ← .member "rhs"
  return ⟨[n, a, b], none⟩

/-- `lhs . a op= rhs . b ;` -/
def assignment (op : Char) : Reader Mention := do
  let a ← .member "lhs"
  .mark op
  .mark '='
  let b ← .member "rhs"
  .mark ';'
  return ⟨[a, b], none⟩

/-- `( self . a as f64 )` -/
def factor : Reader Ident :=
  .parenthesised do
    let a ← .member "self"
    .word "as"
    .word "f64"
    return a

/-- What an entry of the place says, if it is one. -/
def entry : Place → Reader Mention
  | declaration => do
    .word "pub"
    let n ← .name
    .mark ':'
    return ⟨[n], ← .rest⟩
  | parameter => do
    let n ← .name
    .mark ':'
    return ⟨[n], ← .rest⟩
  | initialiser => return ⟨[← .name], none⟩
  | zero => do
    let n ← .name
    .mark ':'
    .literal "0.0"
    return ⟨[n], none⟩
  | sum => combination '+'
  | difference => combination '-'
  | addAssign => assignment '+'
  | subAssign => assignment '-'
  | scale => do
    let n ← .member "self"
    .mark '*'
    .mark '='
    .word "rhs"
    .word "as"
    return ⟨[n], ← .restUpTo ';'⟩
  | square => do
    let a ← factor
    .mark '*'
    let b ← factor
    return ⟨[a, b], none⟩

/-- The entries of the place give types. -/
def givesType : Place → Bool
  | declaration | parameter | scale => true
  | _ => false

/-- What the entry for a component says. -/
def mention (component : Component) : Place → Mention
  | declaration | parameter | scale => ⟨[component.name], some component.ty⟩
  | initialiser | zero => ⟨[component.name], none⟩
  | sum | difference => ⟨[component.name, component.name, component.name], none⟩
  | addAssign | subAssign | square => ⟨[component.name, component.name], none⟩

theorem read?_piece_eq_mention (component : Component) (place : Place) :
    place.entry.read? (place.piece component) = some (place.mention component) := by
  cases place
  -- the type of a scale statement ends at a mark, all other entries are read token by token
  case scale =>
    have hrun : (entry scale).run (scale.piece component) =
        (Reader.restUpTo ';' (component.ty ++ [mark ';'])).bind fun read =>
          some (⟨[component.name], some read.1⟩, read.2) := rfl
    rw [Reader.read?, hrun, Reader.restUpTo_append]
    rfl
  all_goals rfl

theorem isAbout_mention (component : Component) (place : Place) :
    (place.mention component).IsAbout place.givesType component := by
  cases place <;> exact ⟨by simp [mention], by simp [mention], rfl⟩

/-- **A piece says what it is about.** -/
theorem read?_piece (component : Component) (place : Place) :
    ∃ m, place.entry.read? (place.piece component) = some m ∧
      m.IsAbout place.givesType component :=
  ⟨_, place.read?_piece_eq_mention component, place.isAbout_mention component⟩

/-- A difference in the place of a sum is not read. -/
example (component : Component) : sum.entry.read? (difference.piece component) = none := rfl

/-! ## Contents -/

/-- The entries as they are put next to each other. -/
def contents (entries : List TokenStream) : Place → TokenStream
  | declaration | zero => eachEnded entries
  | parameter => separatedBy (mark ',') entries
  | initialiser => [word "Self", braces (eachEnded entries)]
  | sum | difference =>
    words ["let", "lhs"] ++ [mark '=', word "self", mark ';'] ++
      [word "Self", braces (eachEnded entries)]
  | addAssign | subAssign =>
    words ["let", "lhs"] ++ [mark '=', word "self", mark ';'] ++ entries.flatten
  | scale => entries.flatten
  | square => separatedBy (mark '+') entries

/-! ## Ways -/

/-- Into the fields of the vector. -/
def structGate (vector : Ident) : Gate where
  header := [word "struct", .ident vector]
  delimiter := .brace

/-- Into the items of the vector itself. -/
def ownGate (vector : Ident) : Gate where
  header := [word "impl", .ident vector]
  delimiter := .brace

/-- Into the items of one of the operator traits for the vector. -/
def operatorGate (operatorTrait : String) (vector : Ident) : Gate :=
  .implFor (segments ["core", "ops", operatorTrait]) vector

/-- Into the items of `VectorArithmetic` for the vector. -/
def arithmeticGate (runtimePath : TokenStream) (vector : Ident) : Gate :=
  .implFor (runtimePath ++ segments ["VectorArithmetic"]) vector

/-- Into the value of `ZERO`. -/
def zeroGate : Gate where
  header := words ["const", "ZERO"] ++ [mark ':', word "Self", mark '=', word "Self"]
  delimiter := .brace

/-- Into the parameters or the body of `new`. -/
def newGate (delimiter : Delimiter) : Gate where
  header := words ["const", "fn", "new"]
  delimiter

/-- The way to the place in the code of a vector with this name. -/
def way (vector : Ident) (runtimePath : TokenStream) : Place → List Gate
  | declaration => [structGate vector]
  | parameter => [ownGate vector, newGate .parenthesis]
  | initialiser => [ownGate vector, newGate .brace]
  | zero => [ownGate vector, zeroGate]
  | sum => [operatorGate "Add" vector, .body ⟨"add", .callSite⟩]
  | difference => [operatorGate "Sub" vector, .body ⟨"sub", .callSite⟩]
  | addAssign => [operatorGate "AddAssign" vector, .body ⟨"add_assign", .callSite⟩]
  | subAssign => [operatorGate "SubAssign" vector, .body ⟨"sub_assign", .callSite⟩]
  | scale => [arithmeticGate runtimePath vector, .body ⟨"scale", .callSite⟩]
  | square => [arithmeticGate runtimePath vector, .body ⟨"magnitude_squared", .callSite⟩]

end Place

namespace CompanionVector

variable (d : CompanionVector)

open Place

theorem opens_implFor (traitPath body : TokenStream) :
    (Gate.implFor traitPath d.name).Opens (d.implFor traitPath body) body :=
  ⟨[], [], .callSite, [], by simp [implFor, Gate.implFor, braces], by simp⟩

/-! ### The items of the vector itself -/

theorem opens_typeItem :
    (structGate d.name).Opens d.typeItem (eachEnded (d.fragments.sequence .declaration)) := by
  have hstruct : (structGate d.name).Opens
      [word "struct", .ident d.name, braces (eachEnded (d.fragments.sequence .declaration))]
      (eachEnded (d.fragments.sequence .declaration)) := ⟨[], [], .callSite, [], rfl, by simp⟩
  exact hstruct.within (List.suffix_append _ _).isInfix

theorem opens_ownImpl : (ownGate d.name).Opens d.ownImpl (d.zeroItem ++ d.newItem) :=
  ⟨pounded [word "allow", parens [word "dead_code"]], [], .callSite, [], rfl, by simp⟩

theorem opens_zero : zeroGate.Opens (d.zeroItem ++ d.newItem)
    (eachEnded (d.fragments.sequence .zero)) := by
  refine ⟨pounded [word "doc", mark '=', literal "r\" The additive identity.\""] ++ d.visibility,
    [], .callSite, mark ';' :: d.newItem, ?_, by simp⟩
  simp [zeroItem, selfLiteral, zeroGate, words, braces]

/-- What stands in front of `const fn new`. -/
def newFront : TokenStream :=
  d.zeroItem ++
    pounded [word "doc", mark '=', literal "r\" Creates a vector from its components.\""] ++
    pounded [word "allow", parens ([word "clippy"] ++ segments ["too_many_arguments"])] ++
    d.visibility

theorem opens_parameters : (newGate .parenthesis).Opens (d.zeroItem ++ d.newItem)
    (separatedBy (mark ',') (d.fragments.sequence .parameter)) := by
  refine ⟨d.newFront, [], .callSite, arrowSelf ++ [braces (d.selfLiteral .initialiser)], ?_,
    by simp⟩
  simp [newItem, newFront, newGate, words, parens]

theorem opens_new : (newGate .brace).Opens (d.zeroItem ++ d.newItem)
    (d.selfLiteral .initialiser) := by
  refine ⟨d.newFront,
    parens (separatedBy (mark ',') (d.fragments.sequence .parameter)) :: arrowSelf,
    .callSite, [], ?_, List.forall_mem_cons.2 ⟨rfl, by decide⟩⟩
  simp [newItem, newFront, newGate, words, braces]

/-! ### The items of traits -/

/-- The signature of an operator that makes a new vector. -/
def operatorSignature : TokenStream :=
  [parens [word "self", mark ',', word "rhs", mark ':', word "Self"]] ++ arrowSelf

/-- The signature of an operator that changes the vector on its left, or scales it. -/
def assignSignature (rhs : String) : TokenStream :=
  [parens (mutSelf ++ [mark ',', word "rhs", mark ':', word rhs])]

/-- The signature of `magnitude_squared`. -/
def squareSignature : TokenStream :=
  [parens [mark '&', word "self"]] ++ operator '-' '>' ++ [word "f64"]

theorem blockAt_operatorImpl (operatorTrait method : String) (place : Place) :
    BlockAt [operatorGate operatorTrait d.name, .body ⟨method, .callSite⟩]
      (d.operatorImpl operatorTrait method place) (letLhs ++ d.selfLiteral place) := by
  have hmethod := Gate.opens_method ⟨method, .callSite⟩
    (by decide : ∀ t ∈ operatorSignature, t.isGroup .brace = false) (letLhs ++ d.selfLiteral place)
  refine ⟨_, d.opens_implFor _ _, (hmethod.within ?_).blockAt⟩
  exact ⟨words ["type", "Output"] ++ [mark '=', word "Self", mark ';'], [],
    by simp [operatorSignature, words, word]⟩

theorem blockAt_assignImpl (operatorTrait method : String) (place : Place) :
    BlockAt [operatorGate operatorTrait d.name, .body ⟨method, .callSite⟩]
      (d.assignImpl operatorTrait method place)
      (letLhs ++ (d.fragments.sequence place).flatten) := by
  have hmethod := Gate.opens_method ⟨method, .callSite⟩
    (by decide : ∀ t ∈ assignSignature "Self", t.isGroup .brace = false)
    (letLhs ++ (d.fragments.sequence place).flatten)
  exact ⟨_, d.opens_implFor _ _, hmethod.blockAt⟩

/-- The method `zero`. -/
def zeroMethod : TokenStream :=
  words ["fn", "zero"] ++ [parens []] ++ arrowSelf ++
    [braces ([word "Self"] ++ segments ["ZERO"])]

/-- The method `scale`. -/
def scaleMethod : TokenStream :=
  words ["fn", "scale"] ++ assignSignature "f64" ++
    [braces (d.fragments.sequence .scale).flatten]

/-- The method `magnitude_squared`. -/
def squareMethod : TokenStream :=
  words ["fn", "magnitude_squared"] ++ squareSignature ++
    [braces (separatedBy (mark '+') (d.fragments.sequence .square))]

theorem opens_arithmeticImpl :
    (arithmeticGate d.runtimePath d.name).Opens d.arithmeticImpl
      (zeroMethod ++ d.scaleMethod ++ d.squareMethod) := by
  have himpl : d.arithmeticImpl = d.implFor (d.runtimePath ++ segments ["VectorArithmetic"])
      (zeroMethod ++ d.scaleMethod ++ d.squareMethod) := by
    simp [arithmeticImpl, zeroMethod, scaleMethod, assignSignature, squareMethod, squareSignature]
  rw [himpl]
  exact d.opens_implFor _ _

theorem blockAt_zeroMethod :
    BlockAt [arithmeticGate d.runtimePath d.name, .body ⟨"zero", .callSite⟩] d.arithmeticImpl
      ([word "Self"] ++ segments ["ZERO"]) := by
  have hmethod : (Gate.body ⟨"zero", .callSite⟩).Opens zeroMethod
      ([word "Self"] ++ segments ["ZERO"]) :=
    Gate.opens_method _ (by decide : ∀ t ∈ [parens []] ++ arrowSelf, t.isGroup .brace = false) _
  refine ⟨_, d.opens_arithmeticImpl, (hmethod.within ?_).blockAt⟩
  rw [List.append_assoc]
  exact (List.prefix_append _ _).isInfix

theorem blockAt_scale :
    BlockAt [arithmeticGate d.runtimePath d.name, .body ⟨"scale", .callSite⟩] d.arithmeticImpl
      (d.fragments.sequence .scale).flatten := by
  have hmethod : (Gate.body ⟨"scale", .callSite⟩).Opens d.scaleMethod
      (d.fragments.sequence .scale).flatten := Gate.opens_method _ (by decide) _
  exact ⟨_, d.opens_arithmeticImpl, (hmethod.within (List.infix_append _ _ _)).blockAt⟩

theorem blockAt_square :
    BlockAt [arithmeticGate d.runtimePath d.name, .body ⟨"magnitude_squared", .callSite⟩]
      d.arithmeticImpl (separatedBy (mark '+') (d.fragments.sequence .square)) := by
  have hmethod : (Gate.body ⟨"magnitude_squared", .callSite⟩).Opens d.squareMethod
      (separatedBy (mark '+') (d.fragments.sequence .square)) :=
    Gate.opens_method _ (by decide) _
  exact ⟨_, d.opens_arithmeticImpl, (hmethod.within (List.suffix_append _ _).isInfix).blockAt⟩

/-! ### All items -/

/-- The items of the vector, one by one. -/
def items : List TokenStream :=
  [d.typeItem, d.ownImpl, d.operatorImpl "Add" "add" .sum, d.operatorImpl "Sub" "sub" .difference,
    d.assignImpl "AddAssign" "add_assign" .addAssign,
    d.assignImpl "SubAssign" "sub_assign" .subAssign, d.arithmeticImpl]

theorem infix_tokens {item : TokenStream} (h : item ∈ d.items) : item <:+: d.tokens := by
  have htokens : d.tokens = d.items.flatten := by simp [tokens, items]
  rw [htokens]
  exact List.infix_of_mem_flatten h

/-- **The pieces of a place** stand where they are looked for. -/
theorem blockAt_tokens (place : Place) :
    BlockAt (place.way d.name d.runtimePath) d.tokens
      (place.contents (d.fragments.sequence place)) := by
  cases place with
  | declaration =>
    exact d.opens_typeItem.blockAt.within (d.infix_tokens (by simp [items]))
  | parameter =>
    exact BlockAt.within ⟨_, d.opens_ownImpl, d.opens_parameters.blockAt⟩
      (d.infix_tokens (by simp [items]))
  | initialiser =>
    exact BlockAt.within ⟨_, d.opens_ownImpl, d.opens_new.blockAt⟩
      (d.infix_tokens (by simp [items]))
  | zero =>
    exact BlockAt.within ⟨_, d.opens_ownImpl, d.opens_zero.blockAt⟩
      (d.infix_tokens (by simp [items]))
  | sum =>
    exact (d.blockAt_operatorImpl "Add" "add" .sum).within (d.infix_tokens (by simp [items]))
  | difference =>
    exact (d.blockAt_operatorImpl "Sub" "sub" .difference).within
      (d.infix_tokens (by simp [items]))
  | addAssign =>
    exact (d.blockAt_assignImpl "AddAssign" "add_assign" .addAssign).within
      (d.infix_tokens (by simp [items]))
  | subAssign =>
    exact (d.blockAt_assignImpl "SubAssign" "sub_assign" .subAssign).within
      (d.infix_tokens (by simp [items]))
  | scale => exact d.blockAt_scale.within (d.infix_tokens (by simp [items]))
  | square => exact d.blockAt_square.within (d.infix_tokens (by simp [items]))

/-- The method `zero` answers with the constant. -/
theorem blockAt_zero :
    BlockAt [arithmeticGate d.runtimePath d.name, .body ⟨"zero", .callSite⟩] d.tokens
      ([word "Self"] ++ segments ["ZERO"]) :=
  d.blockAt_zeroMethod.within (d.infix_tokens (by simp [items]))

end CompanionVector

end Tween
