import Tween.Proofs.Motion.Record
import Tween.Proofs.Pointwise
import Tween.Proofs.Vector.Layout

/-!
# What generated code computes

The entries at the places of a companion vector give values to fields: as the entries of a literal,
or as statements that change the record they belong to. Values are numbers, computed by the
primitive operations of a single precision; operands of different precisions have no result, and
neither has a value of the wrong precision for its field.

* `literal?_eq`, `execute?_eq`: where every entry gives its field the component of a vector, all of
  them together give that vector.
* `Place.result?_zipWith` and its siblings: the entries of a place, when they are about the components
  of a vector, compute what the arithmetic of vectors says.
-/

namespace Tween.Motion

/-! ## Numbers -/

namespace Precision

/-- The precision a type stands for. -/
def ofType? : TokenStream → Option Precision
  | [.ident name] =>
    if name.text = "f32" then some single else if name.text = "f64" then some double else none
  | _ => none

/-- The number nearest to one of double precision. -/
def ofDouble : (p : Precision) → Float → p.Carrier
  | single => Float.toFloat32
  | double => id

/-- The literal `0.0`. -/
def zero : (p : Precision) → p.Carrier
  | single => (0.0 : Float32)
  | double => (0.0 : Float)

end Precision

/-- The primitive operations on two numbers. -/
inductive Operation where
  | add
  | sub
  | mul

namespace Operation

/-- The operation within a precision. -/
def apply : Operation → (p : Precision) → p.Carrier → p.Carrier → p.Carrier
  | add, .single => fun (x y : Float32) => x + y
  | sub, .single => fun (x y : Float32) => x - y
  | mul, .single => fun (x y : Float32) => x * y
  | add, .double => fun (x y : Float) => x + y
  | sub, .double => fun (x y : Float) => x - y
  | mul, .double => fun (x y : Float) => x * y

/-- The operation on numbers of the same precision. -/
def combine? (op : Operation) : Number → Number → Option Number
  | ⟨.single, x⟩, ⟨.single, y⟩ => some ⟨.single, op.apply .single x y⟩
  | ⟨.double, x⟩, ⟨.double, y⟩ => some ⟨.double, op.apply .double x y⟩
  | _, _ => none

theorem apply_add {p : Precision} (x y : p.Carrier) : add.apply p x y = Arithmetic.add x y := by
  cases p <;> rfl

theorem apply_sub {p : Precision} (x y : p.Carrier) : sub.apply p x y = Arithmetic.sub x y := by
  cases p <;> rfl

/-- A number is scaled by the factor in its own precision. -/
theorem apply_mul {p : Precision} (x : p.Carrier) (t : Float) :
    mul.apply p x (p.ofDouble t) = Arithmetic.scale x t := by
  cases p <;> rfl

theorem combine?_same (op : Operation) {p : Precision} (x y : p.Carrier) :
    op.combine? ⟨p, x⟩ ⟨p, y⟩ = some ⟨p, op.apply p x y⟩ := by
  cases p <;> rfl

end Operation

/-- A number of double precision. -/
def Number.double (x : Float) : Number := ⟨.double, x⟩

/-- The number in another precision. -/
def Number.cast : Precision → Number → Number
  | .single, ⟨.single, x⟩ => ⟨.single, x⟩
  | .double, ⟨.single, x⟩ => .double (Float32.toFloat x)
  | p, ⟨.double, x⟩ => ⟨p, p.ofDouble x⟩

/-! ## Expressions -/

/-- What an operation is given, and what it answers with: a number or a whole record. -/
inductive Content where
  | number (x : Number)
  | record (fields : Record)

namespace Content

def number? : Content → Option Number
  | number x => some x
  | record _ => none

/-- The number in a field. -/
def field? (name : String) : Content → Option Number
  | number _ => none
  | record fields => (fields name).bind Leaf.number?

end Content

/-- What the names in a body stand for. -/
structure Scope where
  /-- The value of `self`, and of `lhs` as another name for it. -/
  self : Record
  /-- What the body is given besides: `rhs`, `new_value`, or the parameters of `new`. -/
  operand : Content

/-- The expressions of generated code. -/
inductive Expr where
  /-- The literal `0.0`, in the precision that is asked for. -/
  | zero
  /-- The operand. -/
  | operand
  /-- A field of `self`. -/
  | own (name : String)
  /-- A field of the operand. -/
  | other (name : String)
  | binary (op : Operation) (e f : Expr)
  | cast (type : TokenStream) (e : Expr)

namespace Expr

/-- The number an expression stands for. -/
def number? (scope : Scope) : Expr → Option Number
  | zero => none
  | operand => scope.operand.number?
  | own name => (scope.self name).bind Leaf.number?
  | other name => scope.operand.field? name
  | binary op e f => do op.combine? (← e.number? scope) (← f.number? scope)
  | cast type e => do return (← e.number? scope).cast (← Precision.ofType? type)

/-- The number an expression stands for where one of precision `p` is asked for. -/
def numberAt? (scope : Scope) (p : Precision) : Expr → Option Number
  | zero => some ⟨p, p.zero⟩
  | e => do
    let x ← e.number? scope
    if x.precision = p then some x else none

theorem numberAt?_eq {scope : Scope} {e : Expr} {p : Precision} {x : p.Carrier}
    (h : e.number? scope = some ⟨p, x⟩) : e.numberAt? scope p = some ⟨p, x⟩ := by
  have hzero : e ≠ zero := by
    rintro rfl
    cases h
  cases e with
  | zero => exact absurd rfl hzero
  | _ => simp [numberAt?, h]

theorem number?_binary {scope : Scope} {op : Operation} {e f : Expr} {p : Precision}
    {x y : p.Carrier} (he : e.number? scope = some ⟨p, x⟩) (hf : f.number? scope = some ⟨p, y⟩) :
    (binary op e f).number? scope = some ⟨p, op.apply p x y⟩ := by
  simp only [number?, he, hf, Option.bind_eq_bind, Option.bind_some, op.combine?_same]

end Expr

section
variable {scope : Scope} {self : Record} {fields : Record} {operand : Content} {name : String}

theorem Expr.number?_own {x : Number} (h : self name = some (.number x)) :
    (own name).number? ⟨self, operand⟩ = some x := by
  have hown : (own name).number? ⟨self, operand⟩ = (self name).bind Leaf.number? := rfl
  rw [hown, h]
  rfl

theorem Expr.number?_other {x : Number} (h : fields name = some (.number x)) :
    (other name).number? ⟨self, .record fields⟩ = some x := by
  rw [number?, Content.field?, h]
  rfl

/-- The square of a field, in double precision. -/
def Expr.square (name : String) : Expr :=
  .binary .mul (.cast [Code.word "f64"] (.own name)) (.cast [Code.word "f64"] (.own name))

theorem Expr.number?_square {p : Precision} {x : p.Carrier}
    (h : self name = some (.number ⟨p, x⟩)) :
    (square name).number? ⟨self, operand⟩ = some (.double (Arithmetic.normSq x)) := by
  rw [square, number?, number?, number?_own h]
  cases p <;> rfl

/-- The factor in the precision of a component. -/
theorem Expr.number?_factor {type : TokenStream} {p : Precision}
    (h : Precision.ofType? type = some p) (self : Record) (t : Float) :
    (cast type Expr.operand).number? ⟨self, .number (.double t)⟩ = some ⟨p, p.ofDouble t⟩ := by
  have hoperand : Expr.operand.number? ⟨self, .number (.double t)⟩ = some (.double t) := rfl
  rw [number?, hoperand, h]
  cases p <;> rfl

end

/-- The sum so far and one more expression. -/
def addNext? (scope : Scope) (sum : Number) (e : Expr) : Option Number := do
  Operation.add.combine? sum (← e.number? scope)

/-- The sum of expressions, taken from the first to the last. -/
def total? (scope : Scope) : List Expr → Option Number
  | [] => none
  | e :: es => do es.foldlM (addNext? scope) (← e.number? scope)

theorem foldlM_addNext? {scope : Scope} {es : List Expr} {xs : List Float}
    (h : List.Forall₂ (fun e x => e.number? scope = some (.double x)) es xs) (sum : Float) :
    es.foldlM (addNext? scope) (.double sum) = some (.double (xs.foldl (· + ·) sum)) := by
  induction h generalizing sum with
  | nil => rfl
  | @cons e x es xs he _ ih =>
    have hnext : addNext? scope (.double sum) e = some (.double (sum + x)) := by
      rw [addNext?, he]
      rfl
    rw [List.foldlM_cons, hnext, List.foldl_cons]
    exact ih (sum + x)

theorem total?_eq {scope : Scope} {es : List Expr} {xs : List Float}
    (h : List.Forall₂ (fun e x => e.number? scope = some (.double x)) es xs) (hne : es ≠ []) :
    total? scope es = some (.double (Components.sum xs)) := by
  cases h with
  | nil => exact absurd rfl hne
  | cons he h =>
    rw [total?, he]
    exact foldlM_addNext? h _

/-! ## Entries and statements -/

/-- A field and the value it is given. -/
structure Assignment where
  target : String
  value : Expr

/-- The record made by a literal with these entries, each of them the first for its field and of
the precision that is declared for it. -/
def literal? (types : Table Precision) (scope : Scope) (entries : List Assignment) :
    Option Record :=
  entries.foldlM (fun made entry => do
    let x ← entry.value.numberAt? scope (← types entry.target)
    made.add? entry.target (.number x)) Table.empty

/-- The record that statements leave, each of them run on what the ones before it left. A field
keeps its precision. -/
def execute? (operand : Content) (self : Record) (statements : List Assignment) : Option Record :=
  statements.foldlM (fun self statement => do
    let old ← (self statement.target).bind Leaf.number?
    let x ← statement.value.numberAt? ⟨self, operand⟩ old.precision
    return Function.update self statement.target (some (.number x))) self

/-- The precisions that are declared for the fields of a vector, each field once. -/
def typesOf? : List Mention → Option (Table Precision)
  | [] => some Table.empty
  | ⟨[name], some type⟩ :: declarations => do
    let types ← typesOf? declarations
    types.add? name.text (← Precision.ofType? type)
  | _ => none

/-- The parameters of a function with the numbers that are passed for them, in their order. -/
def bind? : List Mention → List Number → Option Record
  | [], [] => some Table.empty
  | ⟨[name], some type⟩ :: parameters, x :: arguments => do
    let bound ← bind? parameters arguments
    let p ← Precision.ofType? type
    if x.precision = p then bound.add? name.text (.number x) else none
  | _, _ => none

/-- The names of components. -/
def namesOf (components : List Component) : List String :=
  components.map fun component => component.name.text

/-- The types of the components stand for these precisions. -/
def Typed (components : List Component) (ps : List Precision) : Prop :=
  List.Forall₂ (fun component p => Precision.ofType? component.ty = some p) components ps

/-- The component stands in this position, with its name and its precision. -/
structure StandsAt (names : List String) (ps : List Precision) (i : Fin ps.length)
    (component : Component) : Prop where
  name : names[i.val]? = some component.name.text
  type : Precision.ofType? component.ty = some (ps.get i)

section
variable {components : List Component} {ps : List Precision}

theorem Typed.standsAt (h : Typed components ps) {i : Nat} (hi : i < components.length)
    (hp : i < ps.length) :
    StandsAt (namesOf components) ps ⟨i, hp⟩ components[i] where
  name := by
    rw [namesOf, List.getElem?_map, List.getElem?_eq_getElem hi]
    rfl
  type := h.get hi hp

theorem Typed.exists_standsAt (h : Typed components ps) {component : Component}
    (hmem : component ∈ components) :
    ∃ i : Fin ps.length, StandsAt (namesOf components) ps i component := by
  obtain ⟨i, hi, rfl⟩ := List.mem_iff_getElem.1 hmem
  have hp : i < ps.length := h.length_eq ▸ hi
  exact ⟨⟨i, hp⟩, h.standsAt hi hp⟩

/-- A field of a vector holds the component in its position. -/
theorem StandsAt.record_eq {names : List String} (hnames : names.Nodup) {i : Fin ps.length}
    {component : Component} (h : StandsAt names ps i component) (v : Components ps) :
    v.record names component.name.text = some (.number ⟨ps.get i, v.get i⟩) :=
  (Components.record_eq_some_iff hnames).2 ⟨i, h.name, rfl⟩

/-- An operation on a field and the component of a vector in the position of the field. -/
theorem StandsAt.numberAt?_combination {names : List String} (hnames : names.Nodup)
    {i : Fin ps.length} {component : Component} (h : StandsAt names ps i component)
    {op : Operation} {r : Record} {x : (ps.get i).Carrier}
    (hr : r component.name.text = some (.number ⟨ps.get i, x⟩)) (w : Components ps) :
    (Expr.binary op (.own component.name.text) (.other component.name.text)).numberAt?
        ⟨r, .record (w.record names)⟩ (ps.get i) =
      some ⟨ps.get i, op.apply (ps.get i) x (w.get i)⟩ :=
  Expr.numberAt?_eq (Expr.number?_binary (Expr.number?_own hr)
    (Expr.number?_other (h.record_eq hnames w)))

variable (htyped : Typed components ps) (hnames : (namesOf components).Nodup)
  {value : Component → Expr} {u : Components ps}
include htyped hnames

/-- **A literal with an entry for every component** makes a vector, if every entry has the value of
the component in its position. -/
theorem literal?_eq {scope : Scope}
    (hvalue : ∀ component (i : Fin ps.length), StandsAt (namesOf components) ps i component →
      (value component).numberAt? scope (ps.get i) = some ⟨ps.get i, u.get i⟩) :
    literal? (Table.ofLists (namesOf components) ps) scope
        (components.map fun component => ⟨component.name.text, value component⟩) =
      some (u.record (namesOf components)) := by
  have hrecord : u.record (namesOf components) =
      Table.empty.patched (u.record (namesOf components)) (namesOf components) :=
    (Table.empty_patched_ofLists _ _).symm
  rw [literal?, List.foldlM_map, hrecord]
  refine Table.foldlM_eq_patched hnames fun component hmem made hmade => ?_
  obtain ⟨i, hi⟩ := htyped.exists_standsAt hmem
  have htype : Table.ofLists (namesOf components) ps component.name.text = some (ps.get i) :=
    (Table.ofLists_eq_some_iff hnames).2 ⟨i, hi.name, List.getElem?_eq_getElem i.isLt⟩
  simp only [htype, hvalue component i hi, Option.bind_eq_bind, Option.bind_some]
  rw [Table.add?_of_none hmade, hi.record_eq hnames]

/-- **A statement for every component** writes a vector into a record, if every statement gives its
field the value of the component in its position and looks at no other field of the record. -/
theorem execute?_eq {operand : Content} {self : Record}
    (hvalue : ∀ component (i : Fin ps.length), StandsAt (namesOf components) ps i component →
      (∃ x, self component.name.text = some (.number ⟨ps.get i, x⟩)) ∧
        ∀ r : Record, r component.name.text = self component.name.text →
          (value component).numberAt? ⟨r, operand⟩ (ps.get i) = some ⟨ps.get i, u.get i⟩) :
    execute? operand self
        (components.map fun component => ⟨component.name.text, value component⟩) =
      some (self.patched (u.record (namesOf components)) (namesOf components)) := by
  rw [execute?, List.foldlM_map]
  refine Table.foldlM_eq_patched hnames fun component hmem r hr => ?_
  obtain ⟨i, hi⟩ := htyped.exists_standsAt hmem
  obtain ⟨⟨x, hx⟩, hsame⟩ := hvalue component i hi
  have hvalue := hsame r hr
  simp only [hr, hx, Leaf.number?, hvalue, Option.bind_eq_bind, Option.bind_some,
    hi.record_eq hnames]
  rfl

end

end Tween.Motion

/-! ## Places -/

namespace Tween.Place

open Motion

/-- The field that an entry of the place gives a value to, and the value. -/
def assignment? : Place → Mention → Option Assignment
  | initialiser, ⟨[n], none⟩ => some ⟨n.text, .other n.text⟩
  | zero, ⟨[n], none⟩ => some ⟨n.text, .zero⟩
  | sum, ⟨[n, a, b], none⟩ => some ⟨n.text, .binary .add (.own a.text) (.other b.text)⟩
  | difference, ⟨[n, a, b], none⟩ => some ⟨n.text, .binary .sub (.own a.text) (.other b.text)⟩
  | addAssign, ⟨[a, b], none⟩ => some ⟨a.text, .binary .add (.own a.text) (.other b.text)⟩
  | subAssign, ⟨[a, b], none⟩ => some ⟨a.text, .binary .sub (.own a.text) (.other b.text)⟩
  | scale, ⟨[a], some ty⟩ => some ⟨a.text, .binary .mul (.own a.text) (.cast ty .operand)⟩
  | _, _ => none

/-- The term that an entry of the squared magnitude stands for. -/
def term? : Mention → Option Expr
  | ⟨[a, b], none⟩ =>
    some (.binary .mul (.cast [Code.word "f64"] (.own a.text))
      (.cast [Code.word "f64"] (.own b.text)))
  | _ => none

/-- What the entries of the place compute: a literal, the record that statements leave, or a sum. -/
def result? (types : Table Precision) (scope : Scope) (mentions : List Mention) :
    Place → Option Content
  | declaration | parameter => none
  | place@initialiser | place@zero | place@sum | place@difference => do
    return .record (← literal? types scope (← mentions.mapM place.assignment?))
  | place@addAssign | place@subAssign | place@scale => do
    return .record (← execute? scope.operand scope.self (← mentions.mapM place.assignment?))
  | square => do
    return .number (← total? scope (← mentions.mapM term?))

section
variable {components : List Component} {ps : List Precision}
  (htyped : Typed components ps) (hnames : (namesOf components).Nodup)
include htyped hnames

/-- The declarations of the fields give the precisions of the components. -/
theorem typesOf?_declarations :
    typesOf? (components.map fun c => declaration.mention c) =
      some (Table.ofLists (namesOf components) ps) := by
  induction htyped with
  | nil => rfl
  | @cons c p components ps htype htyped ih =>
    obtain ⟨hname, hnames⟩ := List.nodup_cons.1 hnames
    rw [List.map_cons, mention, typesOf?, ih hnames, htype]
    exact Table.add?_of_none (Table.ofLists_eq_none hname ps) p

/-- The parameters of the constructor take the components of a vector. -/
theorem bind?_parameters (v : Components ps) :
    bind? (components.map fun c => parameter.mention c) v.numbers =
      some (v.record (namesOf components)) := by
  induction htyped with
  | nil => rfl
  | @cons c p components ps htype htyped ih =>
    obtain ⟨hname, hnames⟩ := List.nodup_cons.1 hnames
    obtain ⟨x, v⟩ := v
    have hnumbers : @Components.numbers (p :: ps) (x, v) = ⟨p, x⟩ :: v.numbers := rfl
    have hnone : v.record (namesOf components) c.name.text = none :=
      Table.ofLists_eq_none hname _
    rw [List.map_cons, mention, hnumbers, bind?, ih hnames v, htype]
    simp only [Option.bind_eq_bind, Option.bind_some, if_pos]
    exact Table.add?_of_none hnone _

/-- A place of literals makes the vector whose components its entries have. -/
theorem result?_literal {place : Place} {scope : Scope} {value : Component → Expr}
    {u : Components ps}
    (hplace : place = initialiser ∨ place = zero ∨ place = sum ∨ place = difference)
    (hentry : ∀ c, place.assignment? (place.mention c) = some ⟨c.name.text, value c⟩)
    (hvalue : ∀ c (i : Fin ps.length), StandsAt (namesOf components) ps i c →
      (value c).numberAt? scope (ps.get i) = some ⟨ps.get i, u.get i⟩) :
    place.result? (Table.ofLists (namesOf components) ps) scope
        (components.map fun c => place.mention c) =
      some (.record (u.record (namesOf components))) := by
  have hentries := mapM_map_eq_some hentry components
  have hliteral := literal?_eq htyped hnames hvalue
  obtain rfl | rfl | rfl | rfl := hplace <;>
    simp only [result?, hentries, hliteral, Option.bind_eq_bind, Option.bind_some, Option.pure_def]

/-- A place of statements leaves the vector whose components its statements compute, each from the
component it replaces. -/
theorem result?_statements {place : Place} {operand : Content} {value : Component → Expr}
    {v u : Components ps} (hplace : place = addAssign ∨ place = subAssign ∨ place = scale)
    (hstatement : ∀ c, place.assignment? (place.mention c) = some ⟨c.name.text, value c⟩)
    (hvalue : ∀ c (i : Fin ps.length), StandsAt (namesOf components) ps i c → ∀ r : Record,
      r c.name.text = some (.number ⟨ps.get i, v.get i⟩) →
        (value c).numberAt? ⟨r, operand⟩ (ps.get i) = some ⟨ps.get i, u.get i⟩) :
    place.result? (Table.ofLists (namesOf components) ps) ⟨v.record (namesOf components), operand⟩
        (components.map fun c => place.mention c) =
      some (.record (u.record (namesOf components))) := by
  have hstatements := mapM_map_eq_some hstatement components
  have hexecute : execute? operand (v.record (namesOf components))
      (components.map fun c => ⟨c.name.text, value c⟩) = some (u.record (namesOf components)) := by
    rw [execute?_eq htyped hnames, Components.record_patched_record]
    intro c i hi
    have hself := hi.record_eq hnames v
    exact ⟨⟨_, hself⟩, fun r hr => hvalue c i hi r (hr.trans hself)⟩
  obtain rfl | rfl | rfl := hplace <;>
    simp only [result?, hstatements, hexecute, Option.bind_eq_bind, Option.bind_some,
      Option.pure_def]

theorem result?_initialiser (self : Record) (v : Components ps) :
    initialiser.result? (Table.ofLists (namesOf components) ps)
        ⟨self, .record (v.record (namesOf components))⟩
        (components.map fun c => initialiser.mention c) =
      some (.record (v.record (namesOf components))) := by
  refine result?_literal htyped hnames (.inl rfl) (fun _ => rfl) fun c i hi => ?_
  exact Expr.numberAt?_eq (Expr.number?_other (hi.record_eq hnames v))

theorem result?_zero (scope : Scope) :
    zero.result? (Table.ofLists (namesOf components) ps) scope
        (components.map fun c => zero.mention c) =
      some (.record ((Arithmetic.zero : Components ps).record (namesOf components))) := by
  refine result?_literal htyped hnames (.inr (.inl rfl)) (fun _ => rfl) fun c i _ => ?_
  rw [(Components.respects_get i).zero]
  cases ps.get i <;> rfl

/-- **One operation on every two components**: a literal or statements with an entry for each, where
the operation is `f` on numbers, give the components combined by `f`. -/
theorem result?_zipWith {place : Place} {op : Operation}
    {f : (p : Precision) → p.Carrier → p.Carrier → p.Carrier}
    (hplace : place = sum ∨ place = difference ∨ place = addAssign ∨ place = subAssign)
    (hentry : ∀ c, place.assignment? (place.mention c) =
      some ⟨c.name.text, .binary op (.own c.name.text) (.other c.name.text)⟩)
    (hop : ∀ (p : Precision) (x y : p.Carrier), op.apply p x y = f p x y) (v w : Components ps) :
    place.result? (Table.ofLists (namesOf components) ps)
        ⟨v.record (namesOf components), .record (w.record (namesOf components))⟩
        (components.map fun c => place.mention c) =
      some (.record ((Components.zipWith f v w).record (namesOf components))) := by
  have hvalue : ∀ (c : Component) (i : Fin ps.length), StandsAt (namesOf components) ps i c →
      ∀ r : Record, r c.name.text = some (.number ⟨ps.get i, v.get i⟩) →
        (Expr.binary op (.own c.name.text) (.other c.name.text)).numberAt?
            ⟨r, .record (w.record (namesOf components))⟩ (ps.get i) =
          some ⟨ps.get i, (Components.zipWith f v w).get i⟩ := by
    intro c i hi r hr
    rw [Components.get_zipWith, ← hop]
    exact hi.numberAt?_combination hnames hr w
  have hliteral := fun c i (hi : StandsAt (namesOf components) ps i c) =>
    hvalue c i hi _ (hi.record_eq hnames v)
  obtain rfl | rfl | rfl | rfl := hplace
  · exact result?_literal htyped hnames (.inr (.inr (.inl rfl))) hentry hliteral
  · exact result?_literal htyped hnames (.inr (.inr (.inr rfl))) hentry hliteral
  · exact result?_statements htyped hnames (.inl rfl) hentry hvalue
  · exact result?_statements htyped hnames (.inr (.inl rfl)) hentry hvalue

theorem result?_scale (v : Components ps) (t : Float) :
    scale.result? (Table.ofLists (namesOf components) ps)
        ⟨v.record (namesOf components), .number (.double t)⟩
        (components.map fun c => scale.mention c) =
      some (.record ((Arithmetic.scale v t).record (namesOf components))) := by
  refine result?_statements htyped hnames (.inr (.inr rfl)) (fun _ => rfl) fun c i hi r hr => ?_
  have hfactor := Expr.number?_factor hi.type r t
  rw [(Components.respects_get i).scale, ← Operation.apply_mul]
  exact Expr.numberAt?_eq (Expr.number?_binary (Expr.number?_own hr) hfactor)

theorem result?_square (hne : components ≠ []) (v : Components ps) (operand : Content) :
    square.result? (Table.ofLists (namesOf components) ps)
        ⟨v.record (namesOf components), operand⟩ (components.map fun c => square.mention c) =
      some (.number (.double (Arithmetic.normSq v))) := by
  have hterm : ∀ c, term? (square.mention c) = some (Expr.square c.name.text) := fun _ => rfl
  have hterms := mapM_map_eq_some hterm components
  have hsquares : List.Forall₂ (fun e x => e.number? ⟨v.record (namesOf components), operand⟩ =
      some (.double x)) (components.map fun c => Expr.square c.name.text) v.squares := by
    rw [List.forall₂_map_left_iff, Components.squares_eq_ofFn, List.forall₂_iff_get]
    refine ⟨by rw [List.length_ofFn, htyped.length_eq], fun i hi hp => ?_⟩
    rw [List.length_ofFn] at hp
    have hstands := htyped.standsAt hi hp
    rw [List.get_ofFn]
    exact Expr.number?_square (hstands.record_eq hnames v)
  have htotal := total?_eq hsquares (by simpa using hne)
  simp only [result?, hterms, htotal, Option.bind_eq_bind, Option.bind_some, Option.pure_def]
  rfl

end

end Tween.Place
