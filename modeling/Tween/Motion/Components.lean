import Tween.Motion.Scalar

/-!
# Companion vectors

The value of a companion vector is a tuple of numbers, one per component and each of its own
precision. Every operation works component by component; the squared magnitude adds up the squares
of the components from the first to the last.

* `Components`: the tuples, and their arithmetic.
* `HostData`: what a host exposes, the number itself where there is a single component.
-/

namespace Tween.Motion

/-- A number for each of the given precisions. -/
def Components : List Precision → Type
  | [] => Unit
  | p :: ps => p.Carrier × Components ps

namespace Components

open Arithmetic

/-- The same value in every component. -/
def fill (value : (p : Precision) → p.Carrier) : (ps : List Precision) → Components ps
  | [] => ()
  | p :: ps => (value p, fill value ps)

/-- One function applied to every component. -/
def map (f : (p : Precision) → p.Carrier → p.Carrier) :
    {ps : List Precision} → Components ps → Components ps
  | [], _ => ()
  | p :: _, (x, xs) => (f p x, map f xs)

/-- One function applied to every two components at the same position. -/
def zipWith (f : (p : Precision) → p.Carrier → p.Carrier → p.Carrier) :
    {ps : List Precision} → Components ps → Components ps → Components ps
  | [], _, _ => ()
  | p :: _, (x, xs), (y, ys) => (f p x y, zipWith f xs ys)

/-- All components are the same numbers. -/
def same : {ps : List Precision} → Components ps → Components ps → Bool
  | [], _, _ => true
  | _ :: _, (x, xs), (y, ys) => Arithmetic.same x y && same xs ys

/-- The squares of the components, in double precision. -/
def squares : {ps : List Precision} → Components ps → List Float
  | [], _ => []
  | _ :: _, (x, xs) => normSq x :: squares xs

/-- The sum of a list of numbers, taken from its first to its last. -/
def sum : List Float → Float
  | [] => 0.0
  | x :: xs => xs.foldl (· + ·) x

instance (ps : List Precision) : Arithmetic (Components ps) where
  zero := fill (fun _ => zero) ps
  add := zipWith fun _ => add
  sub := zipWith fun _ => sub
  addAssign := zipWith fun _ => addAssign
  subAssign := zipWith fun _ => subAssign
  scale v t := map (fun _ x => scale x t) v
  normSq v := sum (squares v)
  same := same

instance (ps : List Precision) : Inhabited (Components ps) :=
  ⟨fill (fun _ => default) ps⟩

end Components

/-- The data of a host with components of the given precisions. -/
def HostData : List Precision → Type
  | [] => Components []
  | [p] => p.Carrier
  | p :: q :: ps => Components (p :: q :: ps)

namespace HostData

instance instArithmetic : (ps : List Precision) → Arithmetic (HostData ps)
  | [] => inferInstanceAs (Arithmetic (Components []))
  | [p] => inferInstanceAs (Arithmetic p.Carrier)
  | p :: q :: ps => inferInstanceAs (Arithmetic (Components (p :: q :: ps)))

instance instInhabited : (ps : List Precision) → Inhabited (HostData ps)
  | [] => inferInstanceAs (Inhabited (Components []))
  | [p] => inferInstanceAs (Inhabited p.Carrier)
  | p :: q :: ps => inferInstanceAs (Inhabited (Components (p :: q :: ps)))

/-- The data with the given components. -/
def ofComponents : {ps : List Precision} → Components ps → HostData ps
  | [], v => v
  | [_], (x, _) => x
  | _ :: _ :: _, v => v

/-- The components of the data. -/
def components : {ps : List Precision} → HostData ps → Components ps
  | [], v => v
  | [_], x => (x, ())
  | _ :: _ :: _, v => v

@[simp] theorem components_ofComponents {ps : List Precision} (v : Components ps) :
    (ofComponents v).components = v :=
  match ps, v with
  | [], _ => rfl
  | [_], (_, ()) => rfl
  | _ :: _ :: _, _ => rfl

@[simp] theorem ofComponents_components {ps : List Precision} (d : HostData ps) :
    ofComponents d.components = d :=
  match ps, d with
  | [], _ => rfl
  | [_], _ => rfl
  | _ :: _ :: _, _ => rfl

end HostData

end Tween.Motion
