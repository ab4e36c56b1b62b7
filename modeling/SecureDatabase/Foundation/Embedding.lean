import Mathlib.Data.List.Induction
import SecureDatabase.Foundation.Program

/-!
# Calls that end in other calls

A call may do something else first, and then be another call among the statements of a larger
store. If what it does first leaves a part of the larger store alone, then the larger store refines
the part: every schedule of the larger calls is, as far as the part is concerned, a schedule of the
inner ones. The inner calls that the larger ones have not reached yet are not scheduled.
-/

namespace SecureDatabase.Foundation

namespace Program

variable {Stmt Stmt' : Type} {Reply : Stmt → Type} {Reply' : Stmt' → Type} {ε ε' α β : Type}

/-- The same call with its result and its error in another form. -/
def recast (done : α → β) (failed : ε → ε') : Program Stmt Reply ε α → Program Stmt Reply ε' β
  | value result => value (done result)
  | failure error => failure (failed error)
  | issue stmt resume => issue stmt (fun reply => (resume reply).recast done failed)

section Rules

variable {allowed allowed' : List (Exchange Reply) → Stmt → Prop}
  {returns : List (Exchange Reply) → Except ε α → Prop}
  {program : Program Stmt Reply ε α} {past : List (Exchange Reply)}

/-- A rule that allows more is followed too. -/
theorem Follows.relax (follows : program.Follows allowed returns past)
    (allows : ∀ past stmt, allowed past stmt → allowed' past stmt) :
    program.Follows allowed' returns past := by
  induction program generalizing past with
  | value result => exact follows
  | failure error => exact follows
  | issue stmt resume inductionHypothesis =>
    exact ⟨allows past stmt follows.1, fun reply => inductionHypothesis reply (follows.2 reply)⟩

/-- A call in another form follows the same rule. -/
theorem Follows.recast {done : α → β} {failed : ε → ε'}
    {promised : List (Exchange Reply) → Except ε' β → Prop}
    (follows : program.Follows allowed returns past)
    (results : ∀ later result, returns later (.ok result) → promised later (.ok (done result)))
    (errors : ∀ later error, returns later (.error error) → promised later (.error (failed error))) :
    (program.recast done failed).Follows allowed promised past := by
  induction program generalizing past with
  | value result => exact results past result follows
  | failure error => exact errors past error follows
  | issue stmt resume inductionHypothesis =>
    exact ⟨follows.1, fun reply => inductionHypothesis reply (follows.2 reply)⟩

/-- An embedded call follows a rule that says of its own exchanges what its own rule says, after
whatever was exchanged before. -/
theorem Follows.embed_map {relabel : Stmt → Stmt'}
    {read : ∀ stmt, Reply' (relabel stmt) → Reply stmt} (lift : Exchange Reply → Exchange Reply')
    (lifts : ∀ stmt reply, lift ⟨stmt, read stmt reply⟩ = ⟨relabel stmt, reply⟩)
    {outer : List (Exchange Reply') → Stmt' → Prop}
    {promised : List (Exchange Reply') → Except ε α → Prop} {before : List (Exchange Reply')}
    (follows : program.Follows allowed returns past)
    (allows : ∀ own stmt, allowed own stmt → outer (own.map lift ++ before) (relabel stmt))
    (promises : ∀ own result, returns own result → promised (own.map lift ++ before) result) :
    (program.embed relabel read).Follows outer promised (past.map lift ++ before) := by
  induction program generalizing past with
  | value result => exact promises past _ follows
  | failure error => exact promises past _ follows
  | issue stmt resume inductionHypothesis =>
    refine ⟨allows past stmt follows.1, fun reply => ?_⟩
    have continued := inductionHypothesis (read stmt reply) (follows.2 (read stmt reply))
    rwa [List.map_cons, List.cons_append, lifts] at continued

end Rules

variable (relabel : Stmt → Stmt') (read : ∀ stmt, Reply' (relabel stmt) → Reply stmt)
  (done : α → β) (failed : ε → ε')

/-- A call that becomes another one: it fails, or makes a statement that is none of the other's
and goes on, or is the other one in its own form. -/
inductive Becomes (inner : Program Stmt Reply ε α) : Program Stmt' Reply' ε' β → Prop where
  | fails (error : ε') : Becomes inner (.failure error)
  | prepares (stmt : Stmt') (resume : Reply' stmt → Program Stmt' Reply' ε' β)
      (foreign : ∀ own, stmt ≠ relabel own) (goes : ∀ reply, Becomes inner (resume reply)) :
      Becomes inner (.issue stmt resume)
  | is : Becomes inner ((inner.embed relabel read).recast done failed)

variable {relabel read done failed}

/-- What becomes a call may be preceded by anything that is none of its statements. -/
theorem Becomes.bind {γ : Type} {inner : Program Stmt Reply ε α}
    {first : Program Stmt' Reply' ε' γ} {next : γ → Program Stmt' Reply' ε' β}
    {past : List (Exchange Reply')} {returns : List (Exchange Reply') → Except ε' γ → Prop}
    (foreign : first.Follows (fun _ stmt => ∀ own, stmt ≠ relabel own) returns past)
    (rest : ∀ found, Becomes relabel read done failed inner (next found)) :
    Becomes relabel read done failed inner (first >>= next) := by
  induction first generalizing past with
  | value found => exact rest found
  | failure error => exact .fails error
  | issue stmt resume inductionHypothesis =>
    exact .prepares stmt _ foreign.1 fun reply => inductionHypothesis reply (foreign.2 reply)

/-- The next statement of a call that becomes another one is none of the other's, or the next one
of the other. -/
theorem Becomes.issuing {inner : Program Stmt Reply ε α} {stmt : Stmt'}
    {resume : Reply' stmt → Program Stmt' Reply' ε' β}
    (becomes : Becomes relabel read done failed inner (.issue stmt resume)) :
    ((∀ own, stmt ≠ relabel own) ∧
      ∀ reply, Becomes relabel read done failed inner (resume reply)) ∨
    ∃ own next, inner = .issue own next ∧
      (.issue stmt resume : Program Stmt' Reply' ε' β) =
        .issue (relabel own) fun reply =>
          ((next (read own reply)).embed relabel read).recast done failed := by
  generalize current : (.issue stmt resume : Program Stmt' Reply' ε' β) = outer at becomes
  cases becomes with
  | fails error => cases current
  | prepares other next foreign goes =>
    cases current
    exact .inl ⟨foreign, goes⟩
  | is =>
    cases inner with
    | value result => cases current
    | failure error => cases current
    | issue own next => exact .inr ⟨own, next, rfl, rfl⟩

/-- A call that becomes another one has a result only if the other has. -/
theorem Becomes.of_value {inner : Program Stmt Reply ε α} {result : β}
    (becomes : Becomes relabel read done failed inner (.value result)) :
    ∃ found, inner = .value found := by
  generalize ended : (.value result : Program Stmt' Reply' ε' β) = outer at becomes
  cases becomes with
  | fails error => cases ended
  | prepares stmt resume foreign goes => cases ended
  | is =>
    cases inner with
    | value found => exact ⟨found, rfl⟩
    | failure error => cases ended
    | issue stmt resume => cases ended

end Program

namespace Run

open Program

variable {Stmt Stmt' : Type} {Reply : Stmt → Type} {Reply' : Stmt' → Type} {ε ε' α β : Type}
  {S S' E E' : Type} (relabel : Stmt → Stmt')
  (read : ∀ stmt, Reply' (relabel stmt) → Reply stmt) (part : S' → S) (passes : E' → Option E)

/-- A store is part of a larger one. Its statements do there what they do to it, the others leave
it alone, and so do those acts of the larger environment that are none of its own. -/
structure PartOf (inner : Machine S E Stmt Reply) (outer : Machine S' E' Stmt' Reply') : Prop where
  replies : ∀ stmt store,
    read stmt (outer.exec (relabel stmt) store).1 = (inner.exec stmt (part store)).1
  executes : ∀ stmt store,
    part (outer.exec (relabel stmt) store).2 = (inner.exec stmt (part store)).2
  leaves : ∀ stmt store, (∀ own, stmt ≠ relabel own) → part (outer.exec stmt store).2 = part store
  drifts : ∀ act own store, passes act = some own →
    part (outer.drift act store) = inner.drift own (part store)
  stays : ∀ act store, passes act = none → part (outer.drift act store) = part store

/-- How an event of the larger store appears in the part, if it does. -/
structure Views (view : Event S' Reply' → Option (Event S Reply)) : Prop where
  own : ∀ stmt reply call store, view ⟨⟨relabel stmt, reply⟩, call, store⟩ =
    some ⟨⟨stmt, read stmt reply⟩, call, part store⟩
  foreign : ∀ stmt reply call store, (∀ own, stmt ≠ relabel own) →
    view ⟨⟨stmt, reply⟩, call, store⟩ = none

variable (done : α → β) (failed : ε → ε') (view : Event S' Reply' → Option (Event S Reply))

/-- The part of a run of larger calls is a run of the calls that these become. -/
structure Refines (outer : Run S' Stmt' Reply' ε' β) (inner : Run S Stmt Reply ε α) : Prop where
  store : inner.store = part outer.store
  log : inner.log = outer.log.filterMap view
  calls : ∀ index, Becomes relabel read done failed (inner.calls index) (outer.calls index)

variable {relabel read part passes done failed view} {inner : Machine S E Stmt Reply}
  {outer : Machine S' E' Stmt' Reply'}

/-- A move of the larger calls is a move of the inner ones, or none. -/
theorem Refines.step (partOf : PartOf relabel read part passes inner outer)
    (views : Views relabel read part view) {larger : Run S' Stmt' Reply' ε' β}
    {run : Run S Stmt Reply ε α}
    (refines : Refines relabel read part done failed view larger run) (move : Move E') :
    ∃ moves, Refines relabel read part done failed view (larger.step outer move)
        (run.play inner moves) ∧
      ∀ own, .drift own ∈ moves → ∃ act, move = .drift act ∧ passes act = some own := by
  have nothing (own : E) (none : Move.drift own ∈ ([] : List (Move E))) :
      ∃ act, move = .drift act ∧ passes act = some own := absurd none List.not_mem_nil
  obtain same | ⟨act, rfl, moved⟩ | ⟨index, stmt, resume, rfl, current, moved⟩ :=
    step_cases outer larger move
  · rw [same]
    exact ⟨[], refines, nothing⟩
  · rw [moved]
    cases passed : passes act with
    | none =>
      refine ⟨[], ⟨?_, refines.log, refines.calls⟩, nothing⟩
      exact refines.store.trans (partOf.stays act _ passed).symm
    | some own =>
      refine ⟨[.drift own], ⟨?_, refines.log, refines.calls⟩, ?_⟩
      · exact (congrArg (inner.drift own) refines.store).trans
          (partOf.drifts act own _ passed).symm
      · intro other member
        cases List.mem_singleton.mp member
        exact ⟨act, rfl, passed⟩
  · rw [moved]
    have becomes := refines.calls index
    rw [current] at becomes
    obtain ⟨foreign, goes⟩ | ⟨own, next, started, same⟩ := becomes.issuing
    · refine ⟨[], ⟨?_, ?_, ?_⟩, nothing⟩
      · exact refines.store.trans (partOf.leaves stmt _ foreign).symm
      · rw [List.filterMap_cons, views.foreign _ _ _ _ foreign]
        exact refines.log
      · intro other
        by_cases equal : other = index
        · subst other
          simpa using goes _
        · simpa [Function.update_of_ne equal] using refines.calls other
    · cases same
      refine ⟨[.call index], ?_, ?_⟩
      · have stepped : run.play inner [.call index] =
            { store := (inner.exec own run.store).2
              calls := Function.update run.calls index (next (inner.exec own run.store).1)
              log := ⟨⟨own, (inner.exec own run.store).1⟩, index, run.store⟩ :: run.log } := by
          simp only [play_cons, play_nil, Run.step, started]
        rw [stepped]
        refine ⟨?_, ?_, ?_⟩
        · exact (congrArg (fun store => (inner.exec own store).2) refines.store).trans
            (partOf.executes own _).symm
        · rw [List.filterMap_cons, views.own, partOf.replies, ← refines.store, refines.log]
        · intro other
          dsimp only
          by_cases equal : other = index
          · subst other
            rw [Function.update_self, Function.update_self, refines.store, ← partOf.replies]
            exact .is
          · rw [Function.update_of_ne equal, Function.update_of_ne equal]
            exact refines.calls other
      · intro other member
        cases List.mem_singleton.mp member

/-- Every schedule of larger calls is, in the part, a schedule of the calls that they become, with
those acts of the environment that are of the part. -/
theorem refines_play (partOf : PartOf relabel read part passes inner outer)
    (views : Views relabel read part view) (store : S')
    {larger : Nat → Program Stmt' Reply' ε' β} {calls : Nat → Program Stmt Reply ε α}
    (becomes : ∀ index, Becomes relabel read done failed (calls index) (larger index))
    (moves : List (Move E')) :
    ∃ own, Refines relabel read part done failed view ((start store larger).play outer moves)
        ((start (part store) calls).play inner own) ∧
      ∀ act, .drift act ∈ own → ∃ passed, .drift passed ∈ moves ∧ passes passed = some act := by
  induction moves using List.reverseRecOn with
  | nil => exact ⟨[], ⟨rfl, rfl, becomes⟩, fun _ none => absurd none List.not_mem_nil⟩
  | append_singleton moves move inductionHypothesis =>
    obtain ⟨own, refines, known⟩ := inductionHypothesis
    obtain ⟨added, stepped, new⟩ := refines.step partOf views move
    rw [play_append, play_cons, play_nil]
    refine ⟨own ++ added, ?_, ?_⟩
    · rw [play_append]
      exact stepped
    · intro act member
      rcases List.mem_append.mp member with old | recent
      · obtain ⟨passed, there, same⟩ := known act old
        exact ⟨passed, List.mem_append_left _ there, same⟩
      · obtain ⟨passed, rfl, same⟩ := new act recent
        exact ⟨passed, List.mem_append_right _ (List.mem_singleton_self _), same⟩

end Run

end SecureDatabase.Foundation
