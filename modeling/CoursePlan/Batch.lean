/-!
# Batches

Several tasks run side by side and finish in any order.  Their results are put back into the order
of the tasks; if a task fails, the batch fails with the first failure that comes in.
-/

namespace CoursePlan.Batch

/-- Put the results that have come in into their slots, until one of them is a failure. -/
def fill {ε α : Type} (slots : List (Option α)) :
    List (Nat × Except ε α) → Except ε (List (Option α))
  | [] => .ok slots
  | (_, .error e) :: _ => .error e
  | (i, .ok a) :: finished => fill (slots.set i (some a)) finished

/-- The results of `count` tasks in the order of the tasks, given what came in, in the order in
which it came in, with the number of the task. -/
def gather {ε α : Type} (count : Nat) (finished : List (Nat × Except ε α)) :
    Except ε (List α) :=
  (fill (List.replicate count none) finished).map (·.filterMap id)

end CoursePlan.Batch
