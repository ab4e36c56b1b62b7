import Mathlib.Data.List.Chain
import Mathlib.Order.Lattice

/-!
# Leases that are renewed on use

A lease has a due time. A use before it is granted and moves it on; a use at or after
it is refused and leaves it. Whether all uses before a horizon are granted then
depends on the spacing of the uses only: a refused use is followed by refused uses.
-/

namespace SecureDatabase.Foundation

variable {T : Type} [LinearOrder T] (extend : T → T)

/-- The due time after a use. -/
def renewedDue (due time : T) : T := if time < due then extend time else due

/-- Of the uses at these times those before the horizon are granted. -/
def AllGranted (horizon : T) : T → List T → Prop
  | _, [] => True
  | due, time :: rest =>
      (time < horizon → time < due) ∧ AllGranted horizon (renewedDue extend due time) rest

/-- Each use before the horizon comes before the renewal at the previous one runs out. -/
def Spaced (horizon : T) (times : List T) : Prop :=
  times.IsChain (fun previous next => next < horizon → next < extend previous)

variable {extend} {horizon : T}

/-- Uses from the horizon on are not looked at. -/
theorem allGranted_of_late {due : T} {times : List T} (late : ∀ time ∈ times, horizon ≤ time) :
    AllGranted extend horizon due times := by
  induction times generalizing due with
  | nil => trivial
  | cons time rest inductionHypothesis =>
    refine ⟨fun early => absurd early (not_lt.mpr (late time List.mem_cons_self)), ?_⟩
    exact inductionHypothesis (fun later inside => late later (List.mem_cons_of_mem _ inside))

/-- Uses from the horizon on need not be near one another, nor near the use before
them. -/
theorem spaced_of_late {previous : T} {times : List T} (late : ∀ time ∈ times, horizon ≤ time) :
    Spaced extend horizon (previous :: times) := by
  induction times generalizing previous with
  | nil => exact .singleton previous
  | cons time rest inductionHypothesis =>
    refine List.isChain_cons_cons.mpr ⟨fun early => ?_, ?_⟩
    · exact absurd early (not_lt.mpr (late time List.mem_cons_self))
    · exact inductionHypothesis (fun later inside => late later (List.mem_cons_of_mem _ inside))

/-- A lease that runs from its grant serves all uses in order of time exactly when
they are spaced. -/
theorem allGranted_iff_spaced {start : T} {times : List T}
    (ordered : (start :: times).IsChain (· ≤ ·)) :
    AllGranted extend horizon (extend start) times ↔ Spaced extend horizon (start :: times) := by
  induction times generalizing start with
  | nil => exact ⟨fun _ => .singleton start, fun _ => trivial⟩
  | cons time rest inductionHypothesis =>
    obtain ⟨-, later⟩ := List.isChain_cons_cons.mp ordered
    rw [AllGranted, Spaced, List.isChain_cons_cons]
    refine and_congr_right (fun granted => ?_)
    by_cases served : time < extend start
    · rw [renewedDue, if_pos served]
      exact inductionHypothesis later
    · have expired : horizon ≤ time := not_lt.mp (fun early => served (granted early))
      have late : ∀ next ∈ rest, horizon ≤ next := fun next inside =>
        expired.trans (later.rel_cons inside)
      exact ⟨fun _ => spaced_of_late late, fun _ => allGranted_of_late late⟩

end SecureDatabase.Foundation
