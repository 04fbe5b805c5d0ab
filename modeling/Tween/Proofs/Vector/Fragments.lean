import Tween.Vector.Fragments

/-!
# What a run of fragments holds

After any run, the sequence of a place is what the steps put there, in their order
(`Fragments.sequence_run`). The fragments of several components therefore hold one piece of each
component at every place (`Fragments.sequence_ofComponents`), and always line up
(`Fragments.aligned_ofComponents`).

Other fragments line up exactly if all places have received equally many pieces
(`Fragments.aligned_run`). A component adds one piece everywhere, so whether a run lines up is left
to its steps for single places (`Fragments.Inserted.length_received`).
-/

namespace Tween.Fragments

/-- The pieces that a step puts at a place. -/
def Step.pieces (place : Place) : Step → List TokenStream
  | .add component => [place.piece component]
  | .push other piece => if place = other then [piece] else []

theorem sequence_step (fragments : Fragments) (s : Step) (place : Place) :
    (fragments.step s).sequence place = fragments.sequence place ++ s.pieces place := by
  cases s with
  | add component => rfl
  | push other piece =>
    simp only [step, Step.pieces]
    by_cases h : place = other
    · subst h
      rw [sequence_push_self, if_pos rfl]
    · rw [sequence_push_of_ne h, if_neg h, List.append_nil]

/-- The pieces that steps put at a place, in the order of the steps. -/
def received (place : Place) (steps : List Step) : List TokenStream :=
  steps.flatMap (Step.pieces place)

theorem received_cons (place : Place) (s : Step) (steps : List Step) :
    received place (s :: steps) = s.pieces place ++ received place steps :=
  List.flatMap_cons

theorem received_append (place : Place) (steps steps' : List Step) :
    received place (steps ++ steps') = received place steps ++ received place steps' :=
  List.flatMap_append

theorem sequence_foldl (steps : List Step) (fragments : Fragments) (place : Place) :
    (steps.foldl step fragments).sequence place =
      fragments.sequence place ++ received place steps := by
  induction steps generalizing fragments with
  | nil => simp [received]
  | cons s steps ih =>
    rw [List.foldl_cons, ih, sequence_step, received_cons, List.append_assoc]

/-- **After a run** a place holds what the steps put there. -/
theorem sequence_run (steps : List Step) (place : Place) :
    (run steps).sequence place = received place steps := by
  rw [run, sequence_foldl]
  rfl

theorem sequence_ofComponents (components : List Component) (place : Place) :
    (ofComponents components).sequence place = components.map place.piece := by
  rw [ofComponents, sequence_run, received, List.flatMap_map]
  exact List.map_eq_flatMap.symm

/-- **The fragments of components line up.** -/
theorem aligned_ofComponents (components : List Component) :
    (ofComponents components).aligned = .ok (ofComponents components) := by
  have hcount : ∀ place, (ofComponents components).count place = components.length := by
    intro place
    rw [count, sequence_ofComponents, List.length_map]
  rw [aligned, if_pos]
  intro place _
  rw [hcount, hcount]

/-! ## Runs of any steps -/

/-- All places receive equally many pieces in a run. -/
def Balanced (steps : List Step) : Prop :=
  ∀ place other, (received place steps).length = (received other steps).length

theorem count_run (steps : List Step) (place : Place) :
    (run steps).count place = (received place steps).length := by
  rw [count, sequence_run]

theorem eq_iff_sequence {fragments other : Fragments} :
    fragments = other ↔ ∀ place, fragments.sequence place = other.sequence place := by
  obtain ⟨sequence⟩ := fragments
  obtain ⟨sequence'⟩ := other
  rw [mk.injEq, funext_iff]

/-- The places are counted against one of them, which compares any two. -/
theorem forall_count_run_iff {steps : List Step} :
    (∀ place ∈ Place.all, (run steps).count place = (run steps).count .declaration) ↔
      Balanced steps := by
  simp only [count_run]
  constructor
  · intro h place other
    rw [h place (Place.mem_all place), h other (Place.mem_all other)]
  · intro h place _
    exact h place .declaration

/-- A run is handed out if it is balanced, with what each place has received. -/
theorem aligned_run_eq_ok_iff {steps : List Step} {fragments : Fragments} :
    (run steps).aligned = .ok fragments ↔
      Balanced steps ∧ ∀ place, fragments.sequence place = received place steps := by
  have hsequence : run steps = fragments ↔
      ∀ place, fragments.sequence place = received place steps := by
    rw [eq_comm, eq_iff_sequence]
    simp only [sequence_run]
  rw [aligned, ← forall_count_run_iff, ← hsequence]
  split
  · rename_i h
    rw [Except.ok.injEq, and_iff_right h]
  · rename_i h
    simp only [h, false_and, reduceCtorEq]

theorem exists_aligned_run_iff {steps : List Step} :
    (∃ fragments, (run steps).aligned = .ok fragments) ↔ Balanced steps := by
  constructor
  · rintro ⟨fragments, h⟩
    exact (aligned_run_eq_ok_iff.1 h).1
  · intro h
    exact ⟨run steps, aligned_run_eq_ok_iff.2 ⟨h, sequence_run steps⟩⟩

/-- A run that is not balanced is refused with what each place has received. -/
theorem aligned_run_of_not_balanced {steps : List Step} (h : ¬ Balanced steps) :
    (run steps).aligned = .error ⟨(run steps).count⟩ := by
  rw [aligned, if_neg (mt forall_count_run_iff.1 h)]

/-- The second run is the first one with components added anywhere in between. -/
inductive Inserted : List Step → List Step → Prop
  | nil : Inserted [] []
  | component (c : Component) {steps steps' : List Step} :
      Inserted steps steps' → Inserted steps (.add c :: steps')
  | keep (s : Step) {steps steps' : List Step} :
      Inserted steps steps' → Inserted (s :: steps) (s :: steps')

/-- Components that are added in between add equally many pieces to every place. -/
theorem Inserted.length_received {steps steps' : List Step} (h : Inserted steps steps') :
    ∃ n, ∀ place, (received place steps').length = (received place steps).length + n := by
  induction h with
  | nil => exact ⟨0, fun _ => rfl⟩
  | component c _ ih =>
    obtain ⟨n, hn⟩ := ih
    refine ⟨n + 1, fun place => ?_⟩
    have hpiece : (Step.pieces place (.add c)).length = 1 := rfl
    rw [received_cons, List.length_append, hpiece, hn]
    omega
  | keep s _ ih =>
    obtain ⟨n, hn⟩ := ih
    refine ⟨n, fun place => ?_⟩
    rw [received_cons, received_cons, List.length_append, List.length_append, hn]
    omega

/-- They leave a run as balanced as it is. -/
theorem Inserted.balanced_iff {steps steps' : List Step} (h : Inserted steps steps') :
    Balanced steps' ↔ Balanced steps := by
  obtain ⟨n, hn⟩ := h.length_received
  simp only [Balanced, hn, Nat.add_right_cancel_iff]

/-- What a piece for a single place does to a run, wherever it is put: it stands between what comes
before and after it at its place, and nowhere else. -/
theorem sequence_run_push (front back : List Step) (place : Place) (piece : TokenStream) :
    (run (front ++ .push place piece :: back)).sequence place =
        received place front ++ piece :: received place back ∧
      ∀ other, other ≠ place →
        (run (front ++ .push place piece :: back)).sequence other =
          (run (front ++ back)).sequence other := by
  simp only [sequence_run, received_append, received_cons]
  constructor
  · simp [Step.pieces]
  · intro other hother
    simp [Step.pieces, hother]

/-- **What comes of any run.** It is handed out if all places have received equally many pieces,
each place then having what it has received, and refused as an internal error if not. A piece for a
single place changes that place only, and components that are added anywhere in between do not
change whether the run is handed out. -/
theorem aligned_run (steps : List Step) :
    (∀ fragments, (run steps).aligned = .ok fragments ↔
      Balanced steps ∧ ∀ place, fragments.sequence place = received place steps) ∧
    (¬ Balanced steps → ∃ e, (run steps).aligned = .error e ∧
      (∀ place, e.count place = (received place steps).length) ∧
      e.report.kind = .internalInvariant ∧ e.report.span = .callSite) ∧
    (∀ front back place piece, steps = front ++ back →
      (run (front ++ .push place piece :: back)).sequence place =
          received place front ++ piece :: received place back ∧
        ∀ other, other ≠ place →
          (run (front ++ .push place piece :: back)).sequence other = (run steps).sequence other) ∧
    ∀ steps', Inserted steps steps' →
      ((∃ fragments, (run steps').aligned = .ok fragments) ↔
        ∃ fragments, (run steps).aligned = .ok fragments) := by
  refine ⟨fun _ => aligned_run_eq_ok_iff, ?refused, ?push, ?inserted⟩
  case refused =>
    intro hsteps
    exact ⟨_, aligned_run_of_not_balanced hsteps, count_run steps, rfl, rfl⟩
  case push =>
    rintro front back place piece rfl
    exact sequence_run_push front back place piece
  case inserted =>
    intro steps' hsteps
    rw [exists_aligned_run_iff, exists_aligned_run_iff, hsteps.balanced_iff]

/-! ### Ten stray pieces -/

namespace Stray

/-- A piece of no component. -/
def piece : TokenStream :=
  [Code.word "stray"]

/-- `radius : f64` -/
def radius : Component :=
  ⟨⟨"radius", .callSite⟩, [Code.word "f64"]⟩

/-- A stray piece for every place, the last place first. -/
def steps : List Step :=
  Place.all.reverse.map (.push · piece)

/-- The same with a component in front, and one after the first four pieces. -/
def mixed : List Step :=
  .add radius :: (steps.take 4 ++ .add radius :: steps.drop 4)

theorem inserted_mixed : Inserted steps mixed :=
  .component _ <| .keep _ <| .keep _ <| .keep _ <| .keep _ <| .component _ <| .keep _ <| .keep _ <|
    .keep _ <| .keep _ <| .keep _ <| .keep _ .nil

theorem balanced_steps : Balanced steps := by
  have hlength : ∀ place, (received place steps).length = 1 := by
    intro place
    cases place <;> rfl
  intro place other
  rw [hlength, hlength]

end Stray

/-- Stray pieces are handed out with the components among them, and one more is refused. -/
theorem aligned_run_stray :
    (∃ fragments, (run Stray.mixed).aligned = .ok fragments ∧
      fragments.sequence .initialiser =
        [[.ident Stray.radius.name], [.ident Stray.radius.name], Stray.piece]) ∧
    (∃ e, (run (Stray.mixed ++ [.push .zero Stray.piece])).aligned = .error e ∧
      e.report.kind = .internalInvariant ∧ e.report.span = .callSite) ∧
    (run (Stray.mixed ++ [.push .zero Stray.piece])).sequence .sum =
      (run Stray.mixed).sequence .sum := by
  obtain ⟨-, -, -, hinserted⟩ := aligned_run Stray.steps
  obtain ⟨hok, -, hpush, -⟩ := aligned_run Stray.mixed
  obtain ⟨-, hrefused, -, -⟩ := aligned_run (Stray.mixed ++ [.push .zero Stray.piece])
  refine ⟨?handed, ?refused, ?kept⟩
  case handed =>
    obtain ⟨fragments, h⟩ := (hinserted _ Stray.inserted_mixed).2
      (exists_aligned_run_iff.2 Stray.balanced_steps)
    exact ⟨fragments, h, ((hok fragments).1 h).2 .initialiser⟩
  case refused =>
    have huneven : ¬ Balanced (Stray.mixed ++ [.push .zero Stray.piece]) :=
      fun h => absurd (h .zero .sum) (by decide)
    obtain ⟨e, he, -, hkind, hspan⟩ := hrefused huneven
    exact ⟨e, he, hkind, hspan⟩
  case kept =>
    exact (hpush Stray.mixed [] .zero Stray.piece (List.append_nil _).symm).2 .sum (by decide)

end Tween.Fragments
