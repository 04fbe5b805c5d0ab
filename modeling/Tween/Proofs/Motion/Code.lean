import Tween.Proofs.Accessor
import Tween.Proofs.Motion.Meaning
import Tween.Proofs.Vector.Fragments

/-!
# Generated code implements motion

The items that are generated for a host, looked up in their code and executed, do what the
arithmetic of vectors and the access to data say.

* `CompanionVector.implements`: the code of a companion vector has the arithmetic of components.
* `Accessor.implements_vector`, `Accessor.implements_scalar`: the code of an accessor reads the data
  of a host and writes it back, and leaves the other fields of the host alone.
-/

namespace Tween

open Code

/-! ## Companion vectors -/

namespace Motion

/-- The code of a companion vector, with the names by which its parts are found. -/
structure VectorCode where
  code : TokenStream
  vector : Ident
  runtimePath : TokenStream

namespace VectorCode

variable (c : VectorCode)

/-- What the entries at a place say. -/
def Mentions (place : Place) (mentions : List Mention) : Prop :=
  ∃ entries, BlockAt (place.way c.vector c.runtimePath) c.code (place.contents entries) ∧
    entries.mapM place.entry.read? = some mentions

/-- The precisions of the fields. -/
def Declares (types : Table Precision) : Prop :=
  ∃ mentions, c.Mentions .declaration mentions ∧ typesOf? mentions = some types

/-- The entries at a place compute this, where names stand for what the scope says. -/
def Computes (place : Place) (scope : Scope) (result : Content) : Prop :=
  ∃ types mentions, c.Declares types ∧ c.Mentions place mentions ∧
    place.result? types scope mentions = some result

/-- The constructor makes this record of the numbers it is given. -/
def Constructs (arguments : List Number) (result : Record) : Prop :=
  ∃ mentions bound, c.Mentions .parameter mentions ∧ bind? mentions arguments = some bound ∧
    c.Computes .initialiser ⟨Table.empty, .record bound⟩ (.record result)

/-- The method `zero` answers with the constant `ZERO`. -/
def ZeroIsConstant : Prop :=
  BlockAt [Place.arithmeticGate c.runtimePath c.vector, .body ⟨"zero", .callSite⟩] c.code
    ([word "Self"] ++ segments ["ZERO"])

/-- The code has the arithmetic of components, which are fields with the given names. -/
structure Implements (names : List String) (ps : List Precision) : Prop where
  declares : c.Declares (Table.ofLists names ps)
  new : ∀ v : Components ps, c.Constructs v.numbers (v.record names)
  zero : c.Computes .zero ⟨Table.empty, .record Table.empty⟩
    (.record ((Arithmetic.zero : Components ps).record names))
  zeroMethod : c.ZeroIsConstant
  add : ∀ v w : Components ps, c.Computes .sum ⟨v.record names, .record (w.record names)⟩
    (.record ((Arithmetic.add v w).record names))
  sub : ∀ v w : Components ps, c.Computes .difference ⟨v.record names, .record (w.record names)⟩
    (.record ((Arithmetic.sub v w).record names))
  addAssign : ∀ v w : Components ps,
    c.Computes .addAssign ⟨v.record names, .record (w.record names)⟩
      (.record ((Arithmetic.addAssign v w).record names))
  subAssign : ∀ v w : Components ps,
    c.Computes .subAssign ⟨v.record names, .record (w.record names)⟩
      (.record ((Arithmetic.subAssign v w).record names))
  scale : ∀ (v : Components ps) (t : Float),
    c.Computes .scale ⟨v.record names, .number (.double t)⟩
      (.record ((Arithmetic.scale v t).record names))
  normSq : ∀ v : Components ps, c.Computes .square ⟨v.record names, .record Table.empty⟩
    (.number (.double (Arithmetic.normSq v)))

end VectorCode

end Motion

namespace CompanionVector

open Motion

/-- The code of a companion vector under its own names. -/
def vectorCode (d : CompanionVector) : VectorCode where
  code := d.tokens
  vector := d.name
  runtimePath := d.runtimePath

section
variable (name : Ident) (visibility runtimePath : TokenStream) (components : List Component)

/-- The entries at a place say what the components say there. -/
theorem mentions_components (place : Place) :
    (vectorCode ⟨name, visibility, .ofComponents components, runtimePath⟩).Mentions place
      (components.map fun component => place.mention component) := by
  refine ⟨_, blockAt_tokens ⟨name, visibility, .ofComponents components, runtimePath⟩ place, ?_⟩
  rw [Fragments.sequence_ofComponents]
  exact mapM_map_eq_some (fun component => place.read?_piece_eq_mention component) components

variable {components} {ps : List Precision}

theorem declares (htyped : Typed components ps) (hnames : (namesOf components).Nodup) :
    (vectorCode ⟨name, visibility, .ofComponents components, runtimePath⟩).Declares
      (Table.ofLists (namesOf components) ps) :=
  ⟨_, mentions_components name visibility runtimePath components .declaration,
    Place.typesOf?_declarations htyped hnames⟩

/-- **The code of a companion vector** has the arithmetic of its components. -/
theorem implements (htyped : Typed components ps) (hnames : (namesOf components).Nodup)
    (hne : components ≠ []) :
    (vectorCode ⟨name, visibility, .ofComponents components, runtimePath⟩).Implements
      (namesOf components) ps := by
  have hdeclares := declares name visibility runtimePath htyped hnames
  have hmentions := mentions_components name visibility runtimePath components
  have hadd : ∀ (p : Precision) (x y : p.Carrier),
      Operation.add.apply p x y = Arithmetic.add x y := fun _ => Operation.apply_add
  have hsub : ∀ (p : Precision) (x y : p.Carrier),
      Operation.sub.apply p x y = Arithmetic.sub x y := fun _ => Operation.apply_sub
  have haddAssign : ∀ (p : Precision) (x y : p.Carrier),
      Operation.add.apply p x y = Arithmetic.addAssign x y :=
    fun p x y => (hadd p x y).trans (p.inPlace.addAssign x y).symm
  have hsubAssign : ∀ (p : Precision) (x y : p.Carrier),
      Operation.sub.apply p x y = Arithmetic.subAssign x y :=
    fun p x y => (hsub p x y).trans (p.inPlace.subAssign x y).symm
  refine
    { declares := hdeclares
      new := fun v => ⟨_, _, hmentions .parameter, Place.bind?_parameters htyped hnames v,
        _, _, hdeclares, hmentions .initialiser, Place.result?_initialiser htyped hnames _ v⟩
      zero := ⟨_, _, hdeclares, hmentions .zero, Place.result?_zero htyped hnames _⟩
      zeroMethod := ?zeroMethod
      add := fun v w => ⟨_, _, hdeclares, hmentions .sum,
        Place.result?_zipWith htyped hnames (.inl rfl) (fun _ => rfl) hadd v w⟩
      sub := fun v w => ⟨_, _, hdeclares, hmentions .difference,
        Place.result?_zipWith htyped hnames (.inr (.inl rfl)) (fun _ => rfl) hsub v w⟩
      addAssign := fun v w => ⟨_, _, hdeclares, hmentions .addAssign,
        Place.result?_zipWith htyped hnames (.inr (.inr (.inl rfl))) (fun _ => rfl) haddAssign v w⟩
      subAssign := fun v w => ⟨_, _, hdeclares, hmentions .subAssign,
        Place.result?_zipWith htyped hnames (.inr (.inr (.inr rfl))) (fun _ => rfl) hsubAssign v w⟩
      scale := fun v t => ⟨_, _, hdeclares, hmentions .scale, Place.result?_scale htyped hnames v t⟩
      normSq := fun v =>
        ⟨_, _, hdeclares, hmentions .square, Place.result?_square htyped hnames hne v _⟩ }
  case zeroMethod =>
    exact blockAt_zero ⟨name, visibility, .ofComponents components, runtimePath⟩

end

end CompanionVector

/-! ## Accessors -/

namespace Motion

/-- The data of a host as the accessor passes it: a single component is passed as a number. -/
def Components.content {ps : List Precision} (v : Components ps) (names : List String) : Content :=
  match v.numbers with
  | [x] => .number x
  | _ => .record (v.record names)

theorem Components.content_of_two_le {ps : List Precision} (h : 2 ≤ ps.length) (v : Components ps)
    (names : List String) : v.content names = .record (v.record names) := by
  have hlength := v.length_numbers
  unfold content
  split
  · next x hx =>
    rw [hx, List.length_singleton] at hlength
    omega
  · rfl

theorem Components.content_of_singleton {component : Component} {ps : List Precision}
    (h : Typed [component] ps) (v : Components ps) (names : List String) (i : Fin ps.length) :
    v.content names = .number ⟨ps.get i, v.get i⟩ := by
  cases h with
  | cons hp h =>
    cases h
    obtain ⟨x, ⟨⟩⟩ := v
    obtain ⟨i, hi⟩ := i
    obtain rfl : i = 0 := Nat.lt_one_iff.1 hi
    rfl

/-- The component that an entry of the literal in the reading method gives a value to. -/
def getAssignment? : Mention → Option Assignment
  | ⟨[n, a], none⟩ => some ⟨n.text, .own a.text⟩
  | _ => none

/-- The field that a statement of the writing method gives a value to. -/
def setAssignment? : Mention → Option Assignment
  | ⟨[a, b], none⟩ => some ⟨a.text, .other b.text⟩
  | _ => none

/-- The body of the reading method answers with this, on a host with these fields. -/
inductive BodyReads (types : Table Precision) (self : Record) :
    (type body : TokenStream) → Content → Prop
  /-- The only component is read as it is. -/
  | field {name : Ident} {type : TokenStream} {x : Number}
    (hfield : self name.text = some (.number x))
    (htype : Precision.ofType? type = some x.precision) :
    BodyReads types self type (member "self" name) (.number x)
  /-- Several components are put into a literal of the vector. -/
  | literal {vector : Ident} {entries : List TokenStream} {mentions : List Mention}
    {assignments : List Assignment} {made : Record}
    (hread : entries.mapM Exposed.getEntry.read? = some mentions)
    (hassignments : mentions.mapM getAssignment? = some assignments)
    (hmade : literal? types ⟨self, .record Table.empty⟩ assignments = some made) :
    BodyReads types self [.ident vector]
      [.ident vector, braces (separatedBy (mark ',') entries)] (.record made)

/-- The body of the writing method leaves this of a host with these fields. -/
inductive BodyWrites (operand : Content) (self : Record) : (body : TokenStream) → Record → Prop
  /-- The only component is assigned the operand. -/
  | field {name : Ident} {left : Record}
    (hleft : execute? operand self [⟨name.text, .operand⟩] = some left) :
    BodyWrites operand self (member "self" name ++ [mark '=', word "new_value", mark ';']) left
  /-- Several components are assigned one by one. -/
  | statements {statements : List TokenStream} {mentions : List Mention}
    {assignments : List Assignment} {left : Record}
    (hread : statements.mapM Exposed.setStatement.read? = some mentions)
    (hassignments : mentions.mapM setAssignment? = some assignments)
    (hleft : execute? operand self assignments = some left) :
    BodyWrites operand self statements.flatten left

/-- The code of an accessor, with the names by which its parts are found. -/
structure AccessorCode where
  code : TokenStream
  host : Ident
  runtimePath : TokenStream
  getter : Ident
  setter : Ident

namespace AccessorCode

variable (c : AccessorCode)

/-- The parts of the accessor. -/
def HasParts (type getBody setBody : TokenStream) : Prop :=
  Exposes (Accessor.gate c.runtimePath c.host) c.getter c.setter c.code type getBody setBody

/-- The code reads the data of hosts as values of a type and writes them back, where the slots of a
host are fields with the given names and the fields of its vector have the given precisions. -/
def Implements (type : TokenStream) (types : Table Precision) (names : List String)
    (slots : List Slot) : Prop :=
  ∃ getBody setBody, c.HasParts type getBody setBody ∧
    (∀ host : HostValue slots, BodyReads types (host.record names) type getBody
      (host.parts.content (HostValue.animatedNames slots names))) ∧
    ∀ (host : HostValue slots) (v : Components (Slot.precisions slots)),
      BodyWrites (v.content (HostValue.animatedNames slots names)) (host.record names) setBody
        ((host.setParts v).record names)

end AccessorCode

end Motion

namespace Accessor

open Motion

/-- The code of an accessor under its own names. -/
def accessorCode (a : Accessor) : AccessorCode where
  code := a.tokens
  host := a.host
  runtimePath := a.runtimePath
  getter := a.getter
  setter := a.setter

end Accessor

namespace Exposed

open Motion

section
variable {components : List Component} {slots : List Slot} {names : List String}
  (htyped : Typed components (Slot.precisions slots)) (hnames : names.Nodup)
  (hanimated : HostValue.animatedNames slots names = namesOf components)

include hnames hanimated in
/-- An animated field of a host holds the part in its position. -/
theorem record_eq_part {component : Component} {i : Fin (Slot.precisions slots).length}
    (hi : StandsAt (namesOf components) (Slot.precisions slots) i component)
    (host : HostValue slots) :
    host.record names component.name.text =
      some (.number ⟨(Slot.precisions slots).get i, host.parts.get i⟩) := by
  have hmem : component.name.text ∈ HostValue.animatedNames slots names := by
    rw [hanimated]
    exact List.mem_of_getElem? hi.name
  have hnodup : (namesOf components).Nodup :=
    hanimated ▸ HostValue.nodup_animatedNames hnames slots
  rw [HostValue.record_of_mem hnames host hmem, hanimated]
  exact hi.record_eq hnodup host.parts

include htyped hnames hanimated

theorem bodyReads_vector (hlength : 2 ≤ components.length) (vector : Ident)
    (host : HostValue slots) :
    BodyReads (Table.ofLists (namesOf components) (Slot.precisions slots)) (host.record names)
      (Exposed.vector vector components).type (Exposed.vector vector components).getBody
      (host.parts.content (HostValue.animatedNames slots names)) := by
  have hnodup : (namesOf components).Nodup :=
    hanimated ▸ HostValue.nodup_animatedNames hnames slots
  have hentry : ∀ c : Component, getEntry.read? ([.ident c.name, mark ':'] ++
      member "self" c.name) = some ⟨[c.name, c.name], none⟩ := fun _ => rfl
  have hassignment : ∀ c : Component, getAssignment? ⟨[c.name, c.name], none⟩ =
      some ⟨c.name.text, .own c.name.text⟩ := fun _ => rfl
  rw [Components.content_of_two_le (htyped.length_eq ▸ hlength), hanimated]
  refine .literal (mapM_map_eq_some hentry components)
    (mapM_map_eq_some hassignment components) ?_
  refine literal?_eq htyped hnodup fun component i hi => ?_
  exact Expr.numberAt?_eq (Expr.number?_own (record_eq_part hnames hanimated hi host))

theorem bodyWrites_vector (hlength : 2 ≤ components.length) (vector : Ident)
    (host : HostValue slots) (v : Components (Slot.precisions slots)) :
    BodyWrites (v.content (HostValue.animatedNames slots names)) (host.record names)
      (Exposed.vector vector components).setBody ((host.setParts v).record names) := by
  have hnodup : (namesOf components).Nodup :=
    hanimated ▸ HostValue.nodup_animatedNames hnames slots
  have hstatement : ∀ c : Component, setStatement.read? (member "self" c.name ++ [mark '='] ++
      member "new_value" c.name ++ [mark ';']) = some ⟨[c.name, c.name], none⟩ := fun _ => rfl
  have hassignment : ∀ c : Component, setAssignment? ⟨[c.name, c.name], none⟩ =
      some ⟨c.name.text, .other c.name.text⟩ := fun _ => rfl
  rw [Components.content_of_two_le (htyped.length_eq ▸ hlength), hanimated,
    HostValue.record_setParts hnames, hanimated, setBody, List.flatMap_def]
  refine .statements (mapM_map_eq_some hstatement components)
    (mapM_map_eq_some hassignment components) ?_
  refine execute?_eq htyped hnodup fun component i hi =>
    ⟨⟨_, record_eq_part hnames hanimated hi host⟩, fun r _ => ?_⟩
  exact Expr.numberAt?_eq (Expr.number?_other (hi.record_eq hnodup v))

end

section
variable {component : Component} {slots : List Slot} {names : List String}
  (htyped : Typed [component] (Slot.precisions slots)) (hnames : names.Nodup)
  (hanimated : HostValue.animatedNames slots names = namesOf [component])
include htyped hnames hanimated

theorem bodyReads_scalar (host : HostValue slots) :
    BodyReads Table.empty (host.record names) (Exposed.scalar component).type
      (Exposed.scalar component).getBody
      (host.parts.content (HostValue.animatedNames slots names)) := by
  obtain ⟨i, hi⟩ := htyped.exists_standsAt List.mem_cons_self
  rw [Components.content_of_singleton htyped _ _ i]
  exact .field (record_eq_part hnames hanimated hi host) hi.type

theorem bodyWrites_scalar (host : HostValue slots) (v : Components (Slot.precisions slots)) :
    BodyWrites (v.content (HostValue.animatedNames slots names)) (host.record names)
      (Exposed.scalar component).setBody ((host.setParts v).record names) := by
  have hnodup : (namesOf [component]).Nodup := List.nodup_singleton _
  have hvalue : ∀ c (i : Fin (Slot.precisions slots).length),
      StandsAt (namesOf [component]) (Slot.precisions slots) i c →
      (∃ x, host.record names c.name.text = some (.number ⟨(Slot.precisions slots).get i, x⟩)) ∧
        ∀ r : Record, r c.name.text = host.record names c.name.text →
          Expr.operand.numberAt? ⟨r, v.content (namesOf [component])⟩
              ((Slot.precisions slots).get i) =
            some ⟨(Slot.precisions slots).get i, v.get i⟩ := by
    intro c i hi
    refine ⟨⟨_, record_eq_part hnames hanimated hi host⟩, fun r _ => Expr.numberAt?_eq ?_⟩
    rw [Components.content_of_singleton htyped v _ i]
    rfl
  rw [HostValue.record_setParts hnames, hanimated]
  exact .field (execute?_eq htyped hnodup hvalue)

end

end Exposed

namespace Accessor

open Motion

variable {slots : List Slot} {names : List String} (hnames : names.Nodup)
  (host getter setter : Ident) (runtimePath : TokenStream)
include hnames

/-- **The accessor of several components** reads them into the vector and writes them back. -/
theorem implements_vector {components : List Component}
    (htyped : Typed components (Slot.precisions slots))
    (hanimated : HostValue.animatedNames slots names = namesOf components)
    (hlength : 2 ≤ components.length) (vector : Ident) :
    (accessorCode ⟨host, runtimePath, getter, setter, .vector vector components⟩).Implements
      [.ident vector] (Table.ofLists (namesOf components) (Slot.precisions slots)) names slots :=
  ⟨_, _, exposes_tokens ⟨host, runtimePath, getter, setter, .vector vector components⟩,
    Exposed.bodyReads_vector htyped hnames hanimated hlength vector,
    Exposed.bodyWrites_vector htyped hnames hanimated hlength vector⟩

/-- **The accessor of a single component** reads it and writes it as a number. -/
theorem implements_scalar {component : Component}
    (htyped : Typed [component] (Slot.precisions slots))
    (hanimated : HostValue.animatedNames slots names = namesOf [component]) :
    (accessorCode ⟨host, runtimePath, getter, setter, .scalar component⟩).Implements
      component.ty Table.empty names slots :=
  ⟨_, _, exposes_tokens ⟨host, runtimePath, getter, setter, .scalar component⟩,
    Exposed.bodyReads_scalar htyped hnames hanimated,
    Exposed.bodyWrites_scalar htyped hnames hanimated⟩

end Accessor

namespace Motion

/-- What stands behind a host is code for the motion of values with these slots: an accessor for the
single component, or a companion vector and its accessor. -/
inductive Generated (names : List String) (slots : List Slot) : TokenStream → Prop where
  | scalar {accessor : AccessorCode} {type : TokenStream}
    (hlength : (Slot.precisions slots).length = 1)
    (haccessor : accessor.Implements type Table.empty names slots) :
    Generated names slots accessor.code
  | vector {vector : VectorCode} {accessor : AccessorCode}
    (hvector : vector.Implements (HostValue.animatedNames slots names) (Slot.precisions slots))
    (haccessor : accessor.Implements [.ident vector.vector]
      (Table.ofLists (HostValue.animatedNames slots names) (Slot.precisions slots)) names slots) :
    Generated names slots (vector.code ++ accessor.code)

end Motion

end Tween
