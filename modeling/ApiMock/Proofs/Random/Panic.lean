import ApiMock.Proofs.Random.Draw
/-!
# Draws that may panic

A range that is drawn from must not be empty: the library that makes the draw panics then. A plain
draw does not show this, since it has some outcome for every range. A guarded draw has the panic as
an outcome of its own. It settles to a plain draw if it never panics and otherwise does the same;
this goes through sequencing, so a program of guarded draws settles as soon as each range in it is
known to hold something.
-/
namespace ApiMock.Random

/-- Why a draw panics. -/
inductive Panic where
  /-- The range to draw from is empty. -/
  | emptyRange
  deriving DecidableEq, Repr

/-- A draw that may panic. A panic leaves the state as it was when it came up. -/
abbrev Guarded (σ α : Type) := ExceptT Panic (StateM σ) α

variable {σ α β : Type}

/-- A draw from a range, with a panic where the range is empty. -/
def fromRange (inhabited : Prop) [Decidable inhabited] (draw : StateM σ α) : Guarded σ α :=
  if inhabited then ExceptT.lift draw else throw .emptyRange

/-- A guarded draw does not panic, whatever state it starts from, and ends with the value and the
state of the plain draw. -/
def Settles (guarded : Guarded σ α) (draw : StateM σ α) : Prop :=
  ∀ state, guarded.run.run state = (.ok (draw state).1, (draw state).2)

namespace Settles

/-- A value that is not drawn settles. -/
theorem pure (value : α) : Settles (Pure.pure value : Guarded σ α) (Pure.pure value) := fun _ => rfl

/-- A draw that cannot panic settles. -/
theorem lift (draw : StateM σ α) : Settles (ExceptT.lift draw) draw := fun _ => rfl

/-- A draw from a range that is not empty settles. -/
theorem fromRange {inhabited : Prop} [Decidable inhabited] (holds : inhabited)
    (draw : StateM σ α) : Settles (Random.fromRange inhabited draw) draw := by
  unfold Random.fromRange
  rw [if_pos holds]
  exact lift draw

/-- A draw that is followed by another settles if both do. -/
theorem bind {guarded : Guarded σ α} {draw : StateM σ α} {guardedNext : α → Guarded σ β}
    {next : α → StateM σ β} (before : Settles guarded draw)
    (after : ∀ value, Settles (guardedNext value) (next value)) :
    Settles (guarded >>= guardedNext) (draw >>= next) := by
  intro state
  have first := before state
  have second := after (draw state).1 (draw state).2
  have unfolded : (guarded >>= guardedNext).run.run state =
      (ExceptT.bindCont guardedNext (guarded.run.run state).1).run (guarded.run.run state).2 := rfl
  rw [unfolded, first]
  exact second

/-- A draw that is changed on its way out. -/
theorem map {guarded : Guarded σ α} {draw : StateM σ α} (settles : Settles guarded draw)
    (change : α → β) : Settles (do return change (← guarded)) (do return change (← draw)) :=
  settles.bind fun value => pure (change value)

/-- A repeated draw settles if the draw does. -/
theorem repeated {guarded : Guarded σ α} {draw : StateM σ α} (settles : Settles guarded draw)
    (times : Nat) :
    Settles ((List.replicate times ()).mapM fun _ => guarded) (Random.repeated draw times) := by
  induction times with
  | zero => exact pure []
  | succ times ih =>
    rw [List.replicate_succ, List.mapM_cons]
    exact settles.bind fun first => ih.map (first :: ·)

end Settles

end ApiMock.Random
