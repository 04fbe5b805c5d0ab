import Mathlib.Data.List.Nodup
import Mathlib.Logic.Function.Basic
import Tween.Proofs.Motion.Projection

/-!
# Records

Generated code knows the fields of a value by their names. A record is what stands under each name:
a number for a component, a word for an ignored field.

* `Table.foldlM_eq_patched`: steps that each write one entry, under names that differ, write all of
  them and nothing else.
* `Components.record`, `HostValue.record`: vectors and hosts as records, given the names of the
  fields in their order.
* `HostValue.record_setParts`: writing the animated parts of a host writes the fields with their
  names.
-/

namespace Tween.Motion

/-! ## Tables -/

/-- What stands under each name. -/
abbrev Table (α : Type) := String → Option α

namespace Table

variable {α β : Type}

/-- Nothing under any name. -/
def empty : Table α := fun _ => none

/-- One more entry, under a name that has none yet. -/
def add? (t : Table α) (name : String) (a : α) : Option (Table α) :=
  if (t name).isSome then none else some (Function.update t name (some a))

theorem add?_of_none {t : Table α} {name : String} (h : t name = none) (a : α) :
    t.add? name a = some (Function.update t name (some a)) := by
  simp [add?, h]

/-- The entries in their order under the names in theirs. -/
def ofLists : List String → List α → Table α
  | name :: names, a :: as => Function.update (ofLists names as) name (some a)
  | _, _ => empty

theorem ofLists_eq_none {names : List String} {name : String} (h : name ∉ names) (as : List α) :
    ofLists names as name = none := by
  induction names generalizing as with
  | nil => rfl
  | cons first names ih =>
    obtain ⟨hne, hmem⟩ := List.ne_and_not_mem_of_not_mem_cons h
    cases as with
    | nil => rfl
    | cons a as => rw [ofLists, Function.update_of_ne hne, ih hmem]

/-- Under a name stands the entry in its position. -/
theorem ofLists_eq_some_iff {names : List String} (hnames : names.Nodup) {as : List α}
    {name : String} {a : α} :
    ofLists names as name = some a ↔ ∃ i : Nat, names[i]? = some name ∧ as[i]? = some a := by
  induction names generalizing as with
  | nil => simp [ofLists, empty]
  | cons first names ih =>
    obtain ⟨hfirst, hnames⟩ := List.nodup_cons.1 hnames
    cases as with
    | nil => simp [ofLists, empty]
    | cons b as =>
      rw [ofLists]
      by_cases hname : name = first
      · rw [hname, Function.update_self]
        constructor
        · rintro ⟨⟩
          exact ⟨0, rfl, rfl⟩
        · rintro ⟨i, hi, ha⟩
          cases i with
          | zero => exact ha
          | succ i =>
            have hmem : names[i]? = some first := hname ▸ hi
            exact absurd (List.mem_of_getElem? hmem) hfirst
      · rw [Function.update_of_ne hname, ih hnames]
        constructor
        · rintro ⟨i, hi, ha⟩
          exact ⟨i + 1, hi, ha⟩
        · rintro ⟨i, hi, ha⟩
          cases i with
          | zero => exact absurd (Option.some.inj hi).symm hname
          | succ i => exact ⟨i, hi, ha⟩

/-- The entries of `r` under the given names, those of `t` under all others. -/
def patched (t r : Table α) (names : List String) : Table α :=
  fun name => if name ∈ names then r name else t name

theorem patched_of_mem {names : List String} {name : String} (h : name ∈ names) (t r : Table α) :
    t.patched r names name = r name := if_pos h

theorem patched_of_notMem {names : List String} {name : String} (h : name ∉ names)
    (t r : Table α) : t.patched r names name = t name := if_neg h

theorem empty_patched_ofLists (names : List String) (as : List α) :
    empty.patched (ofLists names as) names = ofLists names as := by
  funext name
  by_cases h : name ∈ names
  · exact patched_of_mem h _ _
  · rw [patched_of_notMem h, ofLists_eq_none h]
    rfl

theorem patched_cons {t r : Table α} {name : String} {names : List String}
    (h : name ∉ names) :
    patched (Function.update t name (r name)) r names = t.patched r (name :: names) := by
  funext other
  by_cases hother : other ∈ names
  · rw [patched_of_mem hother, patched_of_mem (List.mem_cons_of_mem _ hother)]
  · rw [patched_of_notMem hother]
    by_cases hname : other = name
    · subst hname
      rw [Function.update_self, patched_of_mem List.mem_cons_self]
    · rw [Function.update_of_ne hname,
        patched_of_notMem (List.not_mem_cons_of_ne_of_not_mem hname hother)]

/-- **One entry a step.** Steps that write the entries of `r`, each of them under its own name and
without a look at any entry that another one writes, write all these entries and leave everything
else alone. -/
theorem foldlM_eq_patched {xs : List β} {key : β → String} (hkeys : (xs.map key).Nodup)
    {step : Table α → β → Option (Table α)} {t r : Table α}
    (hstep : ∀ x ∈ xs, ∀ u : Table α, u (key x) = t (key x) →
      step u x = some (Function.update u (key x) (r (key x)))) :
    xs.foldlM step t = some (t.patched r (xs.map key)) := by
  induction xs generalizing t with
  | nil => rfl
  | cons x xs ih =>
    obtain ⟨hx, hkeys⟩ := List.nodup_cons.1 hkeys
    have hfirst := hstep x List.mem_cons_self t rfl
    -- the later steps find their entries as they were before the first one
    have hrest : ∀ y ∈ xs, ∀ u : Table α,
        u (key y) = Function.update t (key x) (r (key x)) (key y) →
        step u y = some (Function.update u (key y) (r (key y))) := by
      intro y hy u hu
      have hne : key y ≠ key x := fun h => hx (h ▸ List.mem_map_of_mem hy)
      rw [Function.update_of_ne hne] at hu
      exact hstep y (List.mem_cons_of_mem _ hy) u hu
    rw [List.foldlM_cons, hfirst, Option.bind_eq_bind, Option.bind_some, ih hkeys hrest,
      patched_cons hx, List.map_cons]

end Table

/-! ## Numbers and records -/

/-- A number together with its precision. -/
structure Number where
  precision : Precision
  value : precision.Carrier

/-- What a field holds. -/
inductive Leaf where
  | number (x : Number)
  | word (value : UInt32)

/-- The number a field holds, if it is a component. -/
def Leaf.number? : Leaf → Option Number
  | number x => some x
  | word _ => none

/-- What the fields of a value hold. -/
abbrev Record := Table Leaf

namespace Components

/-- The components as numbers. -/
def numbers : {ps : List Precision} → Components ps → List Number
  | [], _ => []
  | p :: _, (x, xs) => ⟨p, x⟩ :: numbers xs

theorem numbers_getElem? : ∀ {ps : List Precision} (v : Components ps) {i : Nat}
    (h : i < ps.length), v.numbers[i]? = some ⟨ps.get ⟨i, h⟩, v.get ⟨i, h⟩⟩
  | _ :: _, (_, _), 0, _ => rfl
  | _ :: _, (_, xs), _ + 1, h => numbers_getElem? xs (Nat.lt_of_succ_lt_succ h)

theorem length_numbers : ∀ {ps : List Precision} (v : Components ps),
    v.numbers.length = ps.length
  | [], _ => rfl
  | _ :: _, (_, xs) => congrArg (· + 1) (length_numbers xs)

/-- A vector as a record with these names of its fields. -/
def record {ps : List Precision} (v : Components ps) (names : List String) : Record :=
  Table.ofLists names (v.numbers.map .number)

/-- Under a name stands the component in its position. -/
theorem record_eq_some_iff {ps : List Precision} {v : Components ps} {names : List String}
    (hnames : names.Nodup) {name : String} {leaf : Leaf} :
    v.record names name = some leaf ↔
      ∃ i : Fin ps.length, names[i.val]? = some name ∧ leaf = .number ⟨ps.get i, v.get i⟩ := by
  rw [record, Table.ofLists_eq_some_iff hnames]
  constructor
  · rintro ⟨i, hname, hleaf⟩
    rw [List.getElem?_map, Option.map_eq_some_iff] at hleaf
    obtain ⟨x, hx, rfl⟩ := hleaf
    have hi : i < ps.length := by
      rw [← v.length_numbers]
      exact (List.getElem?_eq_some_iff.1 hx).1
    rw [v.numbers_getElem? hi] at hx
    cases hx
    exact ⟨⟨i, hi⟩, hname, rfl⟩
  · rintro ⟨i, hname, rfl⟩
    refine ⟨i, hname, ?_⟩
    rw [List.getElem?_map, v.numbers_getElem? i.isLt]
    rfl

/-- One vector written over another. -/
theorem record_patched_record {ps : List Precision} (v u : Components ps) (names : List String) :
    (v.record names).patched (u.record names) names = u.record names := by
  funext name
  by_cases h : name ∈ names
  · exact Table.patched_of_mem h _ _
  · rw [Table.patched_of_notMem h, record, record, Table.ofLists_eq_none h,
      Table.ofLists_eq_none h]

end Components

namespace HostValue

/-- The names of the animated slots among the names of all slots. -/
def animatedNames : List Slot → List String → List String
  | .animated _ :: slots, name :: names => name :: animatedNames slots names
  | .ignored :: slots, _ :: names => animatedNames slots names
  | _, _ => []

/-- What the slots hold, in their order. -/
def leaves : {slots : List Slot} → HostValue slots → List Leaf
  | [], _ => []
  | .animated p :: _, (x, host) => .number ⟨p, x⟩ :: leaves host
  | .ignored :: _, (word, host) => .word word :: leaves host

/-- A host as a record with these names of its fields. -/
def record {slots : List Slot} (host : HostValue slots) (names : List String) : Record :=
  Table.ofLists names host.leaves

theorem animatedNames_sublist : ∀ (slots : List Slot) (names : List String),
    (animatedNames slots names).Sublist names
  | [], _ => by simp [animatedNames]
  | .animated _ :: _, [] => by simp [animatedNames]
  | .ignored :: _, [] => by simp [animatedNames]
  | .animated _ :: slots, _ :: names => (animatedNames_sublist slots names).cons_cons _
  | .ignored :: slots, _ :: names => (animatedNames_sublist slots names).cons _

theorem nodup_animatedNames {names : List String} (h : names.Nodup) (slots : List Slot) :
    (animatedNames slots names).Nodup :=
  (animatedNames_sublist slots names).nodup h

section
variable (p : Precision) (slots : List Slot) (name : String) (names : List String)

theorem record_animated (x : p.Carrier) (host : HostValue slots) :
    @record (.animated p :: slots) (x, host) (name :: names) =
      Function.update (host.record names) name (some (.number ⟨p, x⟩)) := rfl

theorem record_ignored (word : UInt32) (host : HostValue slots) :
    @record (.ignored :: slots) (word, host) (name :: names) =
      Function.update (host.record names) name (some (.word word)) := rfl

end

/-- An animated slot holds the component of its name. -/
theorem record_of_mem {slots : List Slot} {names : List String} (hnames : names.Nodup)
    (host : HostValue slots) {name : String} (h : name ∈ animatedNames slots names) :
    host.record names name = host.parts.record (animatedNames slots names) name := by
  induction slots generalizing names with
  | nil => simp [animatedNames] at h
  | cons slot slots ih =>
    cases names with
    | nil => cases slot <;> simp [animatedNames] at h
    | cons first names =>
      obtain ⟨hfirst, hnames⟩ := List.nodup_cons.1 hnames
      cases slot with
      | animated p =>
        obtain ⟨x, host⟩ := host
        have hparts : @Components.record (p :: Slot.precisions slots) (x, host.parts)
            (first :: animatedNames slots names) = Function.update
              (host.parts.record (animatedNames slots names)) first (some (.number ⟨p, x⟩)) := rfl
        refine Eq.trans ?_ (congrFun hparts name).symm
        by_cases hname : name = first
        · rw [record_animated, hname, Function.update_self, Function.update_self]
        · have hmem := (List.mem_cons.1 h).resolve_left hname
          rw [record_animated, Function.update_of_ne hname, Function.update_of_ne hname,
            ih hnames host hmem]
      | ignored =>
        obtain ⟨word, host⟩ := host
        have hmem : name ∈ animatedNames slots names := h
        have hname : name ≠ first := by
          rintro rfl
          exact hfirst ((animatedNames_sublist slots names).subset hmem)
        rw [record_ignored, Function.update_of_ne hname]
        exact ih hnames host hmem

/-- Any other field is left alone by writing the animated parts. -/
theorem record_setParts_of_notMem {slots : List Slot} {names : List String}
    (host : HostValue slots) (v : Components (Slot.precisions slots)) {name : String}
    (h : name ∉ animatedNames slots names) :
    (host.setParts v).record names name = host.record names name := by
  induction slots generalizing names with
  | nil => rfl
  | cons slot slots ih =>
    cases names with
    | nil => rfl
    | cons first names =>
      cases slot with
      | animated p =>
        obtain ⟨x, host⟩ := host
        obtain ⟨y, v⟩ := v
        obtain ⟨hname, hmem⟩ := List.ne_and_not_mem_of_not_mem_cons h
        have hset : @setParts (.animated p :: slots) (x, host) (y, v) = (y, host.setParts v) := rfl
        rw [hset, record_animated, record_animated, Function.update_of_ne hname,
          Function.update_of_ne hname, ih host v hmem]
      | ignored =>
        obtain ⟨word, host⟩ := host
        have hset : @setParts (.ignored :: slots) (word, host) v =
            (word, @setParts slots host v) := rfl
        rw [hset, record_ignored, record_ignored]
        by_cases hname : name = first
        · rw [hname, Function.update_self, Function.update_self]
        · rw [Function.update_of_ne hname, Function.update_of_ne hname]
          exact ih host v h

/-- **Writing the animated parts** writes the fields with their names. -/
theorem record_setParts {slots : List Slot} {names : List String} (hnames : names.Nodup)
    (host : HostValue slots) (v : Components (Slot.precisions slots)) :
    (host.setParts v).record names = (host.record names).patched
      (v.record (animatedNames slots names)) (animatedNames slots names) := by
  funext name
  by_cases h : name ∈ animatedNames slots names
  · rw [Table.patched_of_mem h, record_of_mem hnames _ h, parts_setParts]
  · rw [Table.patched_of_notMem h, record_setParts_of_notMem host v h]

end HostValue

end Tween.Motion
