/-!
# Recursions

A program that calls itself is a step that is given the results of its calls. `Recursion` says which
calls a program makes, that they end, and that the step looks at the results of these calls and of
no others. A measure is not needed for stating it, so that it also speaks of programs that go on to
arguments which are no parts of the one that they were given. There is one program only for a step
with calls that end (`Recursion.eq_of_unfolds`).
-/
namespace ApiMock

variable {α β : Type}

/-- A program carries out a step over and over, and comes to an end: `Calls inner argument` says
that the step needs the result at `inner` for the one at `argument`. -/
structure Recursion (Calls : α → α → Prop) (step : (α → β) → α → β) (program : α → β) : Prop where
  /-- Nested calls end. -/
  ends : WellFounded Calls
  /-- The step looks at the results of its calls only. -/
  reads : ∀ (first second : α → β) (argument : α),
    (∀ inner, Calls inner argument → first inner = second inner) →
      step first argument = step second argument
  /-- The program is the step with the results of the program itself. -/
  unfolds : ∀ argument, program argument = step program argument

/-- Whatever carries out the step of a recursion gives the same results. -/
theorem Recursion.eq_of_unfolds {Calls : α → α → Prop} {step : (α → β) → α → β}
    {program other : α → β} (recursion : Recursion Calls step program)
    (unfolds : ∀ argument, other argument = step other argument) : other = program := by
  funext argument
  induction argument using recursion.ends.induction with
  | _ argument ih =>
    rw [unfolds, recursion.unfolds]
    exact recursion.reads other program argument ih

end ApiMock
