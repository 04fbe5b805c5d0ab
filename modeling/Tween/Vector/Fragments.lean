import Tween.Component
import Tween.Token.Code

/-!
# Fragments of a companion vector

The code of a companion vector repeats ten things per component: the declaration of its field, the
parameter of the constructor, a component of the sum, and so on. `Fragments` are ten sequences of
such pieces, one per `Place`. A component adds one piece to each of them (`Fragments.add`), but a
piece may also be added to a single sequence (`Fragments.push`), so a check has to tell whether the
sequences line up (`Fragments.aligned`).

* `Fragments.sequence_push_self`, `Fragments.sequence_push_of_ne`: what a place holds when a piece is
  added to a sequence.
-/

namespace Tween

open Code

/-- The places in the code of a vector that hold one piece per component. -/
inductive Place where
  | declaration
  | parameter
  | initialiser
  | zero
  | sum
  | difference
  | addAssign
  | subAssign
  | scale
  | square
  deriving DecidableEq

namespace Place

/-- All places, in the order in which their sequences are counted. -/
def all : List Place :=
  [declaration, parameter, initialiser, zero, sum, difference,
    addAssign, subAssign, scale, square]

theorem mem_all (place : Place) : place ∈ all := by
  cases place <;> decide

/-- `( self . name as f64 )` -/
def widened (name : Ident) : TokenTree :=
  parens (member "self" name ++ words ["as", "f64"])

/-- The piece for a component: `n : t` stands for its name and type. -/
def piece (component : Component) : Place → TokenStream
  | declaration => [word "pub", .ident component.name, mark ':'] ++ component.ty
  | parameter => [.ident component.name, mark ':'] ++ component.ty
  | initialiser => [.ident component.name]
  | zero => [.ident component.name, mark ':', literal "0.0"]
  | sum =>
    [.ident component.name, mark ':'] ++ member "lhs" component.name ++ [mark '+'] ++
      member "rhs" component.name
  | difference =>
    [.ident component.name, mark ':'] ++ member "lhs" component.name ++ [mark '-'] ++
      member "rhs" component.name
  | addAssign =>
    member "lhs" component.name ++ operator '+' '=' ++ member "rhs" component.name ++ [mark ';']
  | subAssign =>
    member "lhs" component.name ++ operator '-' '=' ++ member "rhs" component.name ++ [mark ';']
  | scale =>
    member "self" component.name ++ operator '*' '=' ++ words ["rhs", "as"] ++ component.ty ++
      [mark ';']
  | square => [widened component.name, mark '*', widened component.name]

end Place

/-- A sequence of pieces for every place. -/
structure Fragments where
  sequence : Place → List TokenStream

/-- The sequences do not line up: how many pieces each place has. -/
structure OutOfStep where
  count : Place → Nat

namespace OutOfStep

/-- The message counts the fields first, then the pieces of the other places. -/
def report (e : OutOfStep) : Diagnostic :=
  let others := String.intercalate ", " (Place.all.tail.map fun place => toString (e.count place))
  .internal s!"fragment sequences out of step: {e.count .declaration} fields, [{others}]" .callSite

end OutOfStep

namespace Fragments

/-- No pieces at all. -/
def empty : Fragments := ⟨fun _ => []⟩

/-- One more piece for a single place. -/
def push (place : Place) (piece : TokenStream) (fragments : Fragments) : Fragments where
  sequence other :=
    if other = place then fragments.sequence other ++ [piece] else fragments.sequence other

/-- One more piece for every place. -/
def add (component : Component) (fragments : Fragments) : Fragments where
  sequence place := fragments.sequence place ++ [place.piece component]

/-- One step of collecting fragments: a whole component, or a piece for a single place. -/
inductive Step where
  | add (component : Component)
  | push (place : Place) (piece : TokenStream)

/-- The fragments after one more step. -/
def step (fragments : Fragments) : Step → Fragments
  | .add component => fragments.add component
  | .push place piece => fragments.push place piece

/-- The fragments after the given steps, from none at all. -/
def run (steps : List Step) : Fragments :=
  steps.foldl step empty

/-- The pieces of several components. -/
def ofComponents (components : List Component) : Fragments :=
  run (components.map .add)

theorem sequence_push_self (place : Place) (piece : TokenStream) (fragments : Fragments) :
    (fragments.push place piece).sequence place = fragments.sequence place ++ [piece] := by
  simp [push]

theorem sequence_push_of_ne {place other : Place} (h : other ≠ place) (piece : TokenStream)
    (fragments : Fragments) :
    (fragments.push place piece).sequence other = fragments.sequence other := by
  simp [push, h]

/-- How many pieces a place has. -/
def count (fragments : Fragments) (place : Place) : Nat :=
  (fragments.sequence place).length

/-- The fragments, provided that all places have equally many pieces. -/
def aligned (fragments : Fragments) : Except OutOfStep Fragments :=
  if ∀ place ∈ Place.all, fragments.count place = fragments.count .declaration then
    .ok fragments
  else
    .error ⟨fragments.count⟩

end Fragments

end Tween
