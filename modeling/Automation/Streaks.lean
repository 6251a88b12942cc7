import Mathlib.Tactic.Common

/-!
Maximal runs of failures in a history, which is written with its last outcome first. One more
outcome ends the run that is under way or makes it longer, and the number of runs that reach a
length grows where a run reaches it (`reaching_false`).
-/
namespace Automation.Streaks

section
variable {length : Nat} {history : List Bool}

/-- The runs of `false` between the `true` outcomes, some of them empty. -/
def runs (history : List Bool) : List (List Bool) := history.splitOn true

/-- The failures since the last success. -/
def current (history : List Bool) : Nat := ((runs history).headD []).length

/-- The number of maximal runs of at least `length` failures. -/
def reaching (length : Nat) (history : List Bool) : Nat := (runs history).countP fun run => length ≤ run.length

theorem runs_true : runs (true :: history) = [] :: runs history := by
  rw [runs,List.splitOn_cons_eq_if_modifyHead,if_pos (by decide)]
  rfl

theorem runs_split (history : List Bool) : ∃ before, runs history = (runs history).headD [] :: before ∧
    runs (false :: history) = (false :: (runs history).headD []) :: before := by
  cases split : runs history with
  | nil => exact absurd split (List.splitOn_ne_nil true history)
  | cons run before =>
    refine ⟨before,rfl,?_⟩
    rw [runs,List.splitOn_cons_eq_if_modifyHead,if_neg (by decide)]
    rw [runs] at split
    rw [split]
    rfl

theorem current_true : current (true :: history) = 0 := by
  rw [current,runs_true]
  rfl

theorem current_false : current (false :: history) = current history + 1 := by
  obtain ⟨before,_,split⟩ := runs_split history
  rw [current,split]
  rfl

theorem reaching_true (positive : 0 < length) : reaching length (true :: history) = reaching length history := by
  rw [reaching,runs_true,List.countP_cons_of_neg (by simpa using Nat.ne_of_gt positive)]
  rfl

theorem reaching_false : reaching length (false :: history) =
    reaching length history + if current history + 1 = length then 1 else 0 := by
  obtain ⟨before,here,split⟩ := runs_split history
  have now : reaching length history = before.countP (fun run => length ≤ run.length) +
      if length ≤ current history then 1 else 0 := by
    rw [reaching,here,List.countP_cons]
    simp only [decide_eq_true_eq]
    rfl
  have later : reaching length (false :: history) = before.countP (fun run => length ≤ run.length) +
      if length ≤ current history + 1 then 1 else 0 := by
    rw [reaching,split,List.countP_cons]
    simp only [decide_eq_true_eq,List.length_cons]
    rfl
  rw [now,later]
  by_cases reached : length ≤ current history
  · rw [if_pos reached,if_pos (by omega),if_neg (by omega)]
  · by_cases exact : current history + 1 = length
    · rw [if_neg reached,if_pos (by omega),if_pos exact]
    · rw [if_neg reached,if_neg (by omega),if_neg exact]

end
end Automation.Streaks
