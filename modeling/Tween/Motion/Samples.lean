import Tween.Motion.Host

/-!
# Sample hosts

Six hosts to run motion on, with one to eight components of equal and of mixed precision. Each has
one ignored field besides.
-/

namespace Tween.Motion

/-- The sample hosts. -/
inductive Sample where
  | circle
  | sprite
  | pair
  | wide
  | gauge
  | dial
  deriving DecidableEq

namespace Sample

/-- The precisions of the components, in the order of the fields. -/
def precisions : Sample → List Precision
  | circle => [.double, .double]
  | sprite => [.single, .single, .double]
  | pair => [.single, .single]
  | wide => [.double, .single, .double, .single, .double, .single, .double, .single]
  | gauge => [.double]
  | dial => [.single]

/-- The slots: the components, and the ignored field after them. -/
def slots (sample : Sample) : List Slot :=
  sample.precisions.map .animated ++ [.ignored]

end Sample

end Tween.Motion
