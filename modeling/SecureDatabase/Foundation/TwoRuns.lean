import Mathlib.Data.List.Forall2
import SecureDatabase.Foundation.Program
import SecureDatabase.Foundation.Table

/-!
# Two runs of one schedule

What a part of a store cannot influence is stated over two runs: the stores differ in that
part only, the calls and the schedule are the same. A relation on stores says where they may
differ, and one on replies says what a statement shows of the difference. When every
statement and every act of the environment respects both, calls that go on alike after
alike replies stay in step, end alike and issue the same statements in the same order.

Two tables are alike when their rows are, one by one. Conditions and changes that do not
look at the difference keep tables alike and count the same rows.
-/

namespace SecureDatabase.Foundation

variable {Stmt : Type} {Reply : Stmt → Type} {ε α S E : Type}

namespace Program

/-- Whatever replies arrive, a call issues only statements of some kind. -/
def Only (kind : Stmt → Prop) : Program Stmt Reply ε α → Prop
  | value _ => True
  | failure _ => True
  | issue stmt resume => kind stmt ∧ ∀ reply, (resume reply).Only kind

section Only

variable {β : Type} {kind : Stmt → Prop}

/-- A sequence issues only statements of a kind when both of its parts do, the second
whatever the first has returned. -/
theorem Only.bind {first : Program Stmt Reply ε α} {next : α → Program Stmt Reply ε β}
    (start : first.Only kind) (rest : ∀ found, (next found).Only kind) :
    (first >>= next).Only kind := by
  induction first with
  | value result => exact rest result
  | failure error => trivial
  | issue stmt resume inductionHypothesis =>
    exact ⟨start.1, fun reply => inductionHypothesis reply (start.2 reply)⟩

/-- What issues only statements of a kind issues only statements of a wider kind. -/
theorem Only.mono {wider : Stmt → Prop} {program : Program Stmt Reply ε α}
    (only : program.Only kind) (implies : ∀ stmt, kind stmt → wider stmt) :
    program.Only wider := by
  induction program with
  | value result => trivial
  | failure error => trivial
  | issue stmt resume inductionHypothesis =>
    exact ⟨implies stmt only.1, fun reply => inductionHypothesis reply (only.2 reply)⟩

/-- A single statement of the kind issues nothing else. -/
theorem only_ask {stmt : Stmt} (allowed : kind stmt) :
    (ask stmt : Program Stmt Reply ε (Reply stmt)).Only kind := ⟨allowed, fun _ => trivial⟩

/-- What is computed without a statement issues none. -/
theorem only_ofExcept (result : Except ε α) :
    (ofExcept result : Program Stmt Reply ε α).Only kind := by
  cases result <;> trivial

/-- A call of a kind keeps to it in every schedule. -/
theorem Only.follows {program : Program Stmt Reply ε α} (only : program.Only kind)
    (past : List (Exchange Reply)) :
    program.Follows (fun _ stmt => kind stmt) (fun _ _ => True) past := by
  induction program generalizing past with
  | value result => trivial
  | failure error => trivial
  | issue stmt resume inductionHypothesis =>
    exact ⟨only.1, fun reply => inductionHypothesis reply (only.2 reply) _⟩

end Only

/-- Two calls in step: both have ended alike, or both wait for the reply to the same
statement and are in step after any alike replies. -/
inductive InStep (alike : (stmt : Stmt) → Reply stmt → Reply stmt → Prop) :
    Program Stmt Reply ε α → Program Stmt Reply ε α → Prop where
  | value (result : α) : InStep alike (value result) (value result)
  | failure (error : ε) : InStep alike (failure error) (failure error)
  | issue (stmt : Stmt) {left right : Reply stmt → Program Stmt Reply ε α}
      (resumed : ∀ first second, alike stmt first second →
        InStep alike (left first) (right second)) :
      InStep alike (issue stmt left) (issue stmt right)

variable {alike : (stmt : Stmt) → Reply stmt → Reply stmt → Prop}

/-- Calls in step have the same outcome. -/
theorem InStep.outcome_eq {left right : Program Stmt Reply ε α} (inStep : InStep alike left right) :
    left.outcome = right.outcome := by
  cases inStep <;> rfl

/-- A call that only issues statements whose replies show no difference is in step with
itself. -/
theorem InStep.of_only {program : Program Stmt Reply ε α}
    (only : program.Only (fun stmt => ∀ first second, alike stmt first second → first = second)) :
    InStep alike program program := by
  induction program with
  | value result => exact .value result
  | failure error => exact .failure error
  | issue stmt resume inductionHypothesis =>
    refine .issue stmt ?_
    intro first second same
    rw [← only.1 first second same]
    exact inductionHypothesis first (only.2 first)

end Program

open Program

/-- Related stores answer alike and stay related, and so they do when the environment acts. -/
structure Machine.Respects (machine : Machine S E Stmt Reply)
    (alike : (stmt : Stmt) → Reply stmt → Reply stmt → Prop) (same : S → S → Prop) : Prop where
  replies : ∀ stmt left right, same left right →
    alike stmt (machine.exec stmt left).1 (machine.exec stmt right).1
  stores : ∀ stmt left right, same left right →
    same (machine.exec stmt left).2 (machine.exec stmt right).2
  drifts : ∀ act left right, same left right → same (machine.drift act left) (machine.drift act right)

namespace Run

/-- Who executed which statement, newest first. -/
def trace (run : Run S Stmt Reply ε α) : List (Nat × Stmt) :=
  run.log.map (fun event => (event.call, event.stmt))

/-- One statement in both runs: executed for the same call on related stores, and answered
by alike replies. -/
inductive AlikeEvents (alike : (stmt : Stmt) → Reply stmt → Reply stmt → Prop)
    (same : S → S → Prop) : Event S Reply → Event S Reply → Prop where
  | executed (stmt : Stmt) (call : Nat) {first second : Reply stmt} {left right : S}
      (replies : alike stmt first second) (stores : same left right) :
      AlikeEvents alike same ⟨⟨stmt, first⟩, call, left⟩ ⟨⟨stmt, second⟩, call, right⟩

/-- Related stores, calls in step, and the same statements with alike replies so far. -/
structure Alike (alike : (stmt : Stmt) → Reply stmt → Reply stmt → Prop) (same : S → S → Prop)
    (left right : Run S Stmt Reply ε α) : Prop where
  stores : same left.store right.store
  calls : ∀ index, InStep alike (left.calls index) (right.calls index)
  logs : List.Forall₂ (AlikeEvents alike same) left.log right.log

variable {alike : (stmt : Stmt) → Reply stmt → Reply stmt → Prop} {same : S → S → Prop}
  {machine : Machine S E Stmt Reply} {left right : Run S Stmt Reply ε α}

/-- Alike runs executed the same statements for the same calls in the same order. -/
theorem Alike.trace_eq (runs : Alike alike same left right) : left.trace = right.trace := by
  have logs := runs.logs
  unfold trace
  generalize left.log = first at logs ⊢
  generalize right.log = second at logs ⊢
  induction logs with
  | nil => rfl
  | cons event rest inductionHypothesis =>
    obtain ⟨stmt, call, -, -⟩ := event
    exact congrArg ((call, stmt) :: ·) inductionHypothesis

/-- A move keeps two runs alike. -/
theorem Alike.step (runs : Alike alike same left right) (respects : machine.Respects alike same)
    (move : Move E) : Alike alike same (left.step machine move) (right.step machine move) := by
  cases move with
  | drift act => exact ⟨respects.drifts act _ _ runs.stores, runs.calls, runs.logs⟩
  | call index =>
    have current := runs.calls index
    generalize leftCall : left.calls index = first at current
    generalize rightCall : right.calls index = second at current
    cases current with
    | value result => simpa only [Run.step, leftCall, rightCall] using runs
    | failure error => simpa only [Run.step, leftCall, rightCall] using runs
    | issue stmt resumed =>
      simp only [Run.step, leftCall, rightCall]
      refine ⟨respects.stores stmt _ _ runs.stores, ?_, ?_⟩
      · intro other
        by_cases own : other = index
        · subst other
          simpa using resumed _ _ (respects.replies stmt _ _ runs.stores)
        · simpa [own] using runs.calls other
      · have answered := respects.replies stmt _ _ runs.stores
        exact .cons (.executed stmt index answered runs.stores) runs.logs

/-- Runs that start alike stay alike along every schedule. -/
theorem Alike.play (runs : Alike alike same left right) (respects : machine.Respects alike same)
    (moves : List (Move E)) : Alike alike same (left.play machine moves) (right.play machine moves) := by
  induction moves generalizing left right with
  | nil => exact runs
  | cons move moves inductionHypothesis => exact inductionHypothesis (runs.step respects move)

end Run

namespace Table

variable {Row Key : Type} {key : Row → Key} {alike : Row → Row → Prop} {left right : Table key}

/-- The rows of two tables are alike, one by one. -/
def Alike (alike : Row → Row → Prop) (left right : Table key) : Prop :=
  List.Forall₂ alike left.rows right.rows

/-- DELETE by conditions that do not see the difference. -/
theorem Alike.deleteWhere (tables : Alike alike left right) {first second : Row → Bool}
    (blind : ∀ old new, alike old new → first old = second new) :
    Alike alike (left.deleteWhere first) (right.deleteWhere second) := by
  refine List.rel_filter ?_ tables
  intro old new same
  simp only [blind old new same]

/-- UPDATE by a condition that does not see the difference and changes that keep it. -/
theorem Alike.updateWhere (tables : Alike alike left right) {condition : Row → Bool}
    {change : Row → Row} (keeps : ∀ row, key (change row) = key row)
    (blind : ∀ old new, alike old new → condition old = condition new)
    (changes : ∀ old new, alike old new → alike (change old) (change new)) :
    Alike alike (left.updateWhere condition change keeps)
      (right.updateWhere condition change keeps) := by
  refine List.rel_map ?_ tables
  intro old new same
  simp only [blind old new same]
  split
  · exact changes old new same
  · exact same

/-- A condition that does not see the difference counts the same rows. -/
theorem Alike.countWhere (tables : Alike alike left right) {condition : Row → Bool}
    (blind : ∀ old new, alike old new → condition old = condition new) :
    left.countWhere condition = right.countWhere condition := by
  have remaining : Alike alike (left.deleteWhere (!condition ·)) (right.deleteWhere (!condition ·)) :=
    tables.deleteWhere fun old new same => by rw [blind old new same]
  have kept := remaining.length_eq
  simpa only [Table.deleteWhere, Table.countWhere, Bool.not_not, ← List.countP_eq_length_filter]
    using kept

/-- Whether some row satisfies a condition that does not see the difference. -/
theorem Alike.any (tables : Alike alike left right) {condition : Row → Bool}
    (blind : ∀ old new, alike old new → condition old = condition new) :
    left.rows.any condition = right.rows.any condition := by
  have counted := tables.countWhere blind
  rw [Bool.eq_iff_iff, List.any_eq_true, List.any_eq_true]
  unfold Table.countWhere at counted
  rw [← List.countP_pos_iff, ← List.countP_pos_iff, counted]

variable [DecidableEq Key]

/-- A key finds alike rows, which have it, when alike rows have the same key. -/
theorem Alike.find (tables : Alike alike left right)
    (keyed : ∀ old new, alike old new → key old = key new) (wanted : Key) :
    Option.Rel (fun old new => key old = wanted ∧ alike old new)
      (left.find wanted) (right.find wanted) := by
  obtain ⟨leftRows, leftDistinct⟩ := left
  obtain ⟨rightRows, rightDistinct⟩ := right
  change List.Forall₂ alike leftRows rightRows at tables
  change Option.Rel _ (leftRows.find? _) (rightRows.find? _)
  clear leftDistinct rightDistinct
  induction tables with
  | nil => exact .none
  | cons same rest inductionHypothesis =>
    rw [List.find?_cons, List.find?_cons, ← keyed _ _ same]
    split
    case h_1 selected => exact .some ⟨of_decide_eq_true selected, same⟩
    case h_2 _ => exact inductionHypothesis

/-- INSERT of alike rows is refused in both tables or leaves them alike. -/
theorem Alike.insert? (tables : Alike alike left right)
    (keyed : ∀ old new, alike old new → key old = key new) {old new : Row} (same : alike old new) :
    Option.Rel (Alike alike) (left.insert? old) (right.insert? new) := by
  have found := tables.find keyed (key old)
  unfold Table.insert?
  by_cases absent : left.find (key old) = none
  · rw [absent] at found
    have free : right.find (key new) = none := by
      rw [← keyed old new same]
      generalize right.find (key old) = other at found
      cases found
      rfl
    rw [dif_pos absent, dif_pos free]
    exact .some (List.rel_append tables (.cons same .nil))
  · have taken : right.find (key new) ≠ none := by
      rw [← keyed old new same]
      intro free
      rw [free] at found
      generalize left.find (key old) = other at found absent
      cases found
      exact absent rfl
    rw [dif_neg absent, dif_neg taken]
    exact .none

end Table

end SecureDatabase.Foundation
