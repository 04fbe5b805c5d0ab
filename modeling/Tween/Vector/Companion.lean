import Tween.Vector.Fragments

/-!
# The companion vector

The items generated for a host with several components: the vector type with one field per
component, its constant and constructor, the four operators, and the implementation of
`VectorArithmetic`. The pieces come from `Fragments`; what stands here is the code around them.
-/

namespace Tween

open Code

/-- What the declaration of a companion vector is made of. -/
structure CompanionVector where
  name : Ident
  visibility : TokenStream
  fragments : Fragments
  runtimePath : TokenStream

namespace CompanionVector

/-- `-> Self` -/
def arrowSelf : TokenStream :=
  operator '-' '>' ++ [word "Self"]

/-- `Self { piece , … , }` with the pieces of a place. -/
def selfLiteral (d : CompanionVector) (place : Place) : TokenStream :=
  [word "Self", braces (eachEnded (d.fragments.sequence place))]

/-- `let lhs = self ;` -/
def letLhs : TokenStream :=
  words ["let", "lhs"] ++ [mark '=', word "self", mark ';']

/-- `& mut self` -/
def mutSelf : TokenStream :=
  [mark '&'] ++ words ["mut", "self"]

/-- `impl trait for name { body }` -/
def implFor (d : CompanionVector) (traitPath body : TokenStream) : TokenStream :=
  [word "impl"] ++ traitPath ++ [word "for", .ident d.name, braces body]

/-- The vector type: one public field per component. -/
def typeItem (d : CompanionVector) : TokenStream :=
  pounded [word "derive", parens
    (separatedBy (mark ',') [[word "Debug"], [word "Clone"], [word "Copy"], [word "PartialEq"],
      [word "Default"]])] ++
  d.visibility ++
  [word "struct", .ident d.name, braces (eachEnded (d.fragments.sequence .declaration))]

/-- The constant `ZERO`. -/
def zeroItem (d : CompanionVector) : TokenStream :=
  pounded [word "doc", mark '=', literal "r\" The additive identity.\""] ++
  d.visibility ++
  words ["const", "ZERO"] ++ [mark ':', word "Self", mark '='] ++ d.selfLiteral .zero ++
  [mark ';']

/-- The constructor, with one parameter per component. -/
def newItem (d : CompanionVector) : TokenStream :=
  pounded [word "doc", mark '=', literal "r\" Creates a vector from its components.\""] ++
  pounded [word "allow", parens ([word "clippy"] ++ segments ["too_many_arguments"])] ++
  d.visibility ++
  words ["const", "fn", "new"] ++
  [parens (separatedBy (mark ',') (d.fragments.sequence .parameter))] ++ arrowSelf ++
  [braces (d.selfLiteral .initialiser)]

/-- The items that belong to the type itself. -/
def ownImpl (d : CompanionVector) : TokenStream :=
  pounded [word "allow", parens [word "dead_code"]] ++
  [word "impl", .ident d.name, braces (d.zeroItem ++ d.newItem)]

/-- An operator that makes a new vector of two. -/
def operatorImpl (d : CompanionVector) (operatorTrait method : String) (place : Place) :
    TokenStream :=
  d.implFor (segments ["core", "ops", operatorTrait]) <|
    words ["type", "Output"] ++ [mark '=', word "Self", mark ';'] ++
    words ["fn", method] ++
    [parens [word "self", mark ',', word "rhs", mark ':', word "Self"]] ++ arrowSelf ++
    [braces (letLhs ++ d.selfLiteral place)]

/-- An operator that changes the vector on its left. -/
def assignImpl (d : CompanionVector) (operatorTrait method : String) (place : Place) :
    TokenStream :=
  d.implFor (segments ["core", "ops", operatorTrait]) <|
    words ["fn", method] ++
    [parens (mutSelf ++ [mark ',', word "rhs", mark ':', word "Self"])] ++
    [braces (letLhs ++ (d.fragments.sequence place).flatten)]

/-- The implementation of `VectorArithmetic`. -/
def arithmeticImpl (d : CompanionVector) : TokenStream :=
  d.implFor (d.runtimePath ++ segments ["VectorArithmetic"]) <|
    words ["fn", "zero"] ++ [parens []] ++ arrowSelf ++
    [braces ([word "Self"] ++ segments ["ZERO"])] ++
    words ["fn", "scale"] ++
    [parens (mutSelf ++ [mark ',', word "rhs", mark ':', word "f64"])] ++
    [braces (d.fragments.sequence .scale).flatten] ++
    words ["fn", "magnitude_squared"] ++ [parens [mark '&', word "self"]] ++
    operator '-' '>' ++ [word "f64"] ++
    [braces (separatedBy (mark '+') (d.fragments.sequence .square))]

/-- All items of the companion vector. -/
def tokens (d : CompanionVector) : TokenStream :=
  d.typeItem ++ d.ownImpl ++
  d.operatorImpl "Add" "add" .sum ++
  d.operatorImpl "Sub" "sub" .difference ++
  d.assignImpl "AddAssign" "add_assign" .addAssign ++
  d.assignImpl "SubAssign" "sub_assign" .subAssign ++
  d.arithmeticImpl

end CompanionVector

end Tween
