import Tween.Motion.Components

/-!
# Values of animated hosts

A host is a record of slots, some of them animated and some ignored. Its data are the animated slots
in their order: reading picks them out, writing overwrites them, and an ignored slot keeps what it
holds.

* `HostValue.parts_setParts`, `HostValue.setParts_parts`, `HostValue.setParts_setParts`: reading and
  writing the animated slots.
* `HostValue.ignored_setParts`: writing them leaves the ignored slots alone.
-/

namespace Tween.Motion

/-- A field of a host: a number that is animated, or an ignored one, which is a word of 32 bits. -/
inductive Slot where
  | animated (p : Precision)
  | ignored
  deriving DecidableEq

/-- The precisions of the animated slots. -/
def Slot.precisions : List Slot → List Precision
  | [] => []
  | animated p :: slots => p :: precisions slots
  | ignored :: slots => precisions slots

/-- A value for every slot. -/
def HostValue : List Slot → Type
  | [] => Unit
  | .animated p :: slots => p.Carrier × HostValue slots
  | .ignored :: slots => UInt32 × HostValue slots

namespace HostValue

/-- The host with the given animated parts and ignored words; words that are missing are zero. -/
def make : (slots : List Slot) → Components (Slot.precisions slots) → List UInt32 →
    HostValue slots
  | [], _, _ => ()
  | .animated _ :: slots, (x, parts), words => (x, make slots parts words)
  | .ignored :: slots, parts, words => (words.headD 0, make slots parts words.tail)

/-- What the animated slots hold. -/
def parts : {slots : List Slot} → HostValue slots → Components (Slot.precisions slots)
  | [], _ => ()
  | .animated _ :: _, (x, host) => (x, parts host)
  | .ignored :: slots, (_, host) => @parts slots host

/-- What the ignored slots hold. -/
def ignored : {slots : List Slot} → HostValue slots → List UInt32
  | [], _ => []
  | .animated _ :: _, (_, host) => ignored host
  | .ignored :: _, (word, host) => word :: ignored host

/-- The host with other values in its animated slots. -/
def setParts : {slots : List Slot} → HostValue slots → Components (Slot.precisions slots) →
    HostValue slots
  | [], _, _ => ()
  | .animated _ :: _, (_, host), (x, parts) => (x, setParts host parts)
  | .ignored :: slots, (word, host), parts => (word, @setParts slots host parts)

@[simp] theorem parts_setParts : {slots : List Slot} → (host : HostValue slots) →
    (v : Components (Slot.precisions slots)) → (host.setParts v).parts = v
  | [], _, () => rfl
  | .animated _ :: _, (_, host), (x, v) => congrArg (Prod.mk x) (parts_setParts host v)
  | .ignored :: _, (_, host), v => parts_setParts host v

@[simp] theorem setParts_parts : {slots : List Slot} → (host : HostValue slots) →
    host.setParts host.parts = host
  | [], () => rfl
  | .animated _ :: _, (x, host) => congrArg (Prod.mk x) (setParts_parts host)
  | .ignored :: _, (word, host) => congrArg (Prod.mk word) (setParts_parts host)

@[simp] theorem setParts_setParts : {slots : List Slot} → (host : HostValue slots) →
    (v w : Components (Slot.precisions slots)) → (host.setParts v).setParts w = host.setParts w
  | [], _, _, _ => rfl
  | .animated _ :: _, (_, host), (_, v), (y, w) => congrArg (Prod.mk y) (setParts_setParts host v w)
  | .ignored :: _, (word, host), v, w => congrArg (Prod.mk word) (setParts_setParts host v w)

@[simp] theorem ignored_setParts : {slots : List Slot} → (host : HostValue slots) →
    (v : Components (Slot.precisions slots)) → (host.setParts v).ignored = host.ignored
  | [], _, _ => rfl
  | .animated _ :: _, (_, host), (_, v) => ignored_setParts host v
  | .ignored :: _, (word, host), v => congrArg (List.cons word) (ignored_setParts host v)

instance (slots : List Slot) : Animated (HostValue slots) where
  Data := HostData (Slot.precisions slots)
  arithmetic := inferInstance
  data host := HostData.ofComponents host.parts
  setData host d := host.setParts d.components

instance (slots : List Slot) : Inhabited (Animated.Data (HostValue slots)) :=
  inferInstanceAs (Inhabited (HostData (Slot.precisions slots)))

end HostValue

end Tween.Motion
