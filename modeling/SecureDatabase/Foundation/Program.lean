import Mathlib.Logic.Function.Basic

/-!
# Programs that issue atomic statements against a shared store

A client program is finished, has failed, or waits for the reply to one
statement. The store answers a statement atomically; what a client computes
between two statements is invisible to the others. Any number of calls share the
store, and a schedule says whose statement runs next and where the environment
moves the store by itself. Every interleaving at statement granularity is one
schedule.

Nothing here fixes the statements, the replies, the store or its environment.
A program's own exchanges determine what it may issue next, so what a call may
write is proved on its program alone (`Program.Follows`) and then holds in every
schedule (`Run.lawful_play`). Conditions on a run are conditions on the state
before each of its steps (`Along`).
-/

namespace SecureDatabase.Foundation

variable {Stmt : Type} {Reply : Stmt → Type} {ε α β S E M : Type}

/-- A client call: done with a value, failed, or waiting for one reply. -/
inductive Program (Stmt : Type) (Reply : Stmt → Type) (ε α : Type) where
  | value (result : α) : Program Stmt Reply ε α
  | failure (error : ε) : Program Stmt Reply ε α
  | issue (stmt : Stmt) (resume : Reply stmt → Program Stmt Reply ε α) : Program Stmt Reply ε α

namespace Program

/-- Sequencing; a failure skips the continuation, as the `?` operator does. -/
def bind : Program Stmt Reply ε α → (α → Program Stmt Reply ε β) → Program Stmt Reply ε β
  | value result, next => next result
  | failure error, _ => failure error
  | issue stmt resume, next => issue stmt (fun reply => (resume reply).bind next)

/-- Programs are sequenced by grafting the second onto the results of the first; an error
ends both. -/
instance : Monad (Program Stmt Reply ε) where
  pure := value
  bind := bind

/-- Issue one statement and return its reply. -/
def ask (stmt : Stmt) : Program Stmt Reply ε (Reply stmt) := issue stmt value

/-- Continue with a computed result or stop with its error. -/
def ofExcept : Except ε α → Program Stmt Reply ε α
  | .ok result => value result
  | .error error => failure error

/-- The result of a finished call, absent while a reply is outstanding. -/
def outcome : Program Stmt Reply ε α → Option (Except ε α)
  | value result => some (.ok result)
  | failure error => some (.error error)
  | issue _ _ => none

/-- A call has returned a result exactly when nothing but that result is left of it. -/
theorem outcome_eq_ok_iff (program : Program Stmt Reply ε α) (result : α) :
    program.outcome = some (.ok result) ↔ program = value result := by
  cases program <;> simp [outcome]

/-- A call has failed with an error exactly when nothing but that error is left of it. -/
theorem outcome_eq_error_iff (program : Program Stmt Reply ε α) (error : ε) :
    program.outcome = some (.error error) ↔ program = failure error := by
  cases program <;> simp [outcome]

/-- A finished first part hands its result to the next. -/
@[simp] theorem value_bind (result : α) (next : α → Program Stmt Reply ε β) :
    (value result >>= next) = next result := rfl

/-- A computed first part hands its result to the next. -/
@[simp] theorem pure_bind (result : α) (next : α → Program Stmt Reply ε β) :
    ((pure result : Program Stmt Reply ε α) >>= next) = next result := rfl

/-- A failed first part is all there is of a sequence. -/
@[simp] theorem failure_bind (error : ε) (next : α → Program Stmt Reply ε β) :
    (failure error >>= next) = failure error := rfl

/-- A statement of the first part is issued first; the next part waits for what follows
it. -/
@[simp] theorem issue_bind (stmt : Stmt) (resume : Reply stmt → Program Stmt Reply ε α)
    (next : α → Program Stmt Reply ε β) :
    (issue stmt resume >>= next) = issue stmt (fun reply => resume reply >>= next) := rfl

/-- A single statement hands its reply to the next part. -/
@[simp] theorem ask_bind (stmt : Stmt) (next : Reply stmt → Program Stmt Reply ε β) :
    (ask stmt >>= next) = issue stmt next := rfl

/-- There is one spelling of a finished call. -/
@[simp] theorem pure_eq_value (result : α) :
    (pure result : Program Stmt Reply ε α) = value result := rfl

/-- A computed result is a finished call. -/
@[simp] theorem ofExcept_ok (result : α) :
    (ofExcept (.ok result) : Program Stmt Reply ε α) = value result := rfl

/-- A computed error is a failed call. -/
@[simp] theorem ofExcept_error (error : ε) :
    (ofExcept (.error error) : Program Stmt Reply ε α) = failure error := rfl

/-- Sequencing is associative and neutral on both sides. -/
instance : LawfulMonad (Program Stmt Reply ε) := by
  refine LawfulMonad.mk' (Program Stmt Reply ε) ?_ (fun _ _ => rfl) ?_
  · intro α program
    induction program with
    | value result => rfl
    | failure error => rfl
    | issue stmt resume inductionHypothesis =>
      exact congrArg (issue stmt) (funext inductionHypothesis)
  · intro α β γ program first second
    induction program with
    | value result => rfl
    | failure error => rfl
    | issue stmt resume inductionHypothesis =>
      exact congrArg (issue stmt) (funext inductionHypothesis)

/-- Run a call alone to its end against a store. -/
def run (exec : (stmt : Stmt) → S → Reply stmt × S) :
    Program Stmt Reply ε α → S → Except ε α × S
  | value result, store => (.ok result, store)
  | failure error, store => (.error error, store)
  | issue stmt resume, store =>
      run exec (resume (exec stmt store).1) (exec stmt store).2

/-- The statements that a call issues when it runs alone, in order. -/
def issued (exec : (stmt : Stmt) → S → Reply stmt × S) :
    Program Stmt Reply ε α → S → List Stmt
  | value _, _ => []
  | failure _, _ => []
  | issue stmt resume, store =>
      stmt :: issued exec (resume (exec stmt store).1) (exec stmt store).2

/-- Run a call alone while the environment acts once before each statement, as
long as the supplied list of its actions lasts. -/
def paced (exec : (stmt : Stmt) → S → Reply stmt × S) (drift : E → S → S) :
    List E → Program Stmt Reply ε α → S → Except ε α × S
  | _, value result, store => (.ok result, store)
  | _, failure error, store => (.error error, store)
  | [], issue stmt resume, store =>
      paced exec drift [] (resume (exec stmt store).1) (exec stmt store).2
  | act :: acts, issue stmt resume, store =>
      paced exec drift acts (resume (exec stmt (drift act store)).1)
        (exec stmt (drift act store)).2

/-- A finished call returns its result and leaves the store. -/
@[simp] theorem run_value (exec : (stmt : Stmt) → S → Reply stmt × S) (result : α) (store : S) :
    (value result : Program Stmt Reply ε α).run exec store = (.ok result, store) := rfl

/-- A failed call returns its error and leaves the store. -/
@[simp] theorem run_failure (exec : (stmt : Stmt) → S → Reply stmt × S) (error : ε) (store : S) :
    (failure error : Program Stmt Reply ε α).run exec store = (.error error, store) := rfl

/-- A call that runs alone goes on with the reply of its statement, from the store that
the statement left. -/
@[simp] theorem run_issue (exec : (stmt : Stmt) → S → Reply stmt × S) (stmt : Stmt)
    (resume : Reply stmt → Program Stmt Reply ε α) (store : S) :
    (issue stmt resume).run exec store =
      (resume (exec stmt store).1).run exec (exec stmt store).2 := rfl

/-- What is computed without a statement leaves the store. -/
@[simp] theorem run_ofExcept (exec : (stmt : Stmt) → S → Reply stmt × S) (outcome : Except ε α)
    (store : S) :
    (ofExcept outcome : Program Stmt Reply ε α).run exec store = (outcome, store) := by
  cases outcome <;> rfl

/-- Computed steps may be combined before they enter a call. -/
theorem ofExcept_bind (first : Except ε α) (next : α → Except ε β) :
    (ofExcept first >>= fun found => (ofExcept (next found) : Program Stmt Reply ε β)) =
      ofExcept (first >>= next) := by
  cases first <;> rfl

/-- A sequenced call runs its first part and continues from the store it left;
a failed first part ends the call there. -/
theorem run_bind (exec : (stmt : Stmt) → S → Reply stmt × S)
    (first : Program Stmt Reply ε α) (next : α → Program Stmt Reply ε β) (store : S) :
    (first >>= next).run exec store =
      match first.run exec store with
      | (.ok result, after) => (next result).run exec after
      | (.error error, after) => (.error error, after) := by
  induction first generalizing store with
  | value result => rfl
  | failure error => rfl
  | issue stmt resume inductionHypothesis =>
    rw [issue_bind, run_issue, run_issue]
    exact inductionHypothesis (exec stmt store).1 (exec stmt store).2

/-- What is computed from the result of a call takes no statement of its own, so the environment
acts as often as before. -/
theorem paced_bind_value (exec : (stmt : Stmt) → S → Reply stmt × S) (drift : E → S → S)
    (acts : List E) (first : Program Stmt Reply ε α) (next : α → β) (store : S) :
    (first >>= fun result => (value (next result) : Program Stmt Reply ε β)).paced exec drift acts
        store =
      ((first.paced exec drift acts store).1.map next, (first.paced exec drift acts store).2) := by
  induction first generalizing acts store with
  | value result => simp only [value_bind, paced, Except.map]
  | failure error => simp only [failure_bind, paced, Except.map]
  | issue stmt resume inductionHypothesis =>
    rw [issue_bind]
    cases acts with
    | nil => exact inductionHypothesis _ [] _
    | cons act acts => exact inductionHypothesis _ acts _

/-- A sequenced call succeeds alone exactly when both parts do, one after the
other. -/
theorem run_bind_eq_ok_iff (exec : (stmt : Stmt) → S → Reply stmt × S)
    (first : Program Stmt Reply ε α) (next : α → Program Stmt Reply ε β) (store last : S)
    (result : β) :
    (first >>= next).run exec store = (.ok result, last) ↔
      ∃ found between, first.run exec store = (.ok found, between) ∧
        (next found).run exec between = (.ok result, last) := by
  rw [run_bind]
  rcases first.run exec store with ⟨error | found, between⟩
  · simp
  · constructor
    · exact fun rest => ⟨found, between, rfl, rest⟩
    · rintro ⟨_, _, same, rest⟩
      cases same
      exact rest

/-- A single statement returns its reply. -/
theorem run_ask_eq_ok_iff (exec : (stmt : Stmt) → S → Reply stmt × S) (stmt : Stmt)
    (reply : Reply stmt) (store after : S) :
    (ask stmt : Program Stmt Reply ε (Reply stmt)).run exec store = (.ok reply, after) ↔
      exec stmt store = (reply, after) := by
  simp [ask, Prod.ext_iff]

/-- A first part that fails ends the sequenced call where it failed. -/
theorem run_bind_of_error {exec : (stmt : Stmt) → S → Reply stmt × S}
    {first : Program Stmt Reply ε α} {store after : S} {error : ε}
    (failed : first.run exec store = (.error error, after))
    (next : α → Program Stmt Reply ε β) :
    (first >>= next).run exec store = (.error error, after) := by
  rw [run_bind, failed]

/-- A sequenced call issues the statements of both parts, one after the other. -/
theorem issued_bind_of_ok {exec : (stmt : Stmt) → S → Reply stmt × S}
    {first : Program Stmt Reply ε α} {store after : S} {result : α}
    (returned : first.run exec store = (.ok result, after))
    (next : α → Program Stmt Reply ε β) :
    (first >>= next).issued exec store =
      first.issued exec store ++ (next result).issued exec after := by
  induction first generalizing store with
  | value found =>
    cases returned
    rfl
  | failure error => cases returned
  | issue stmt resume inductionHypothesis =>
    exact congrArg (stmt :: ·) (inductionHypothesis (exec stmt store).1 returned)

/-- A sequenced call whose first part failed issues no more. -/
theorem issued_bind_of_error {exec : (stmt : Stmt) → S → Reply stmt × S}
    {first : Program Stmt Reply ε α} {store : S} {error : ε}
    (failed : (first.run exec store).1 = .error error)
    (next : α → Program Stmt Reply ε β) :
    (first >>= next).issued exec store = first.issued exec store := by
  induction first generalizing store with
  | value found => cases failed
  | failure error => rfl
  | issue stmt resume inductionHypothesis =>
    exact congrArg (stmt :: ·) (inductionHypothesis (exec stmt store).1 failed)

/-- One statement together with the reply it received. -/
structure Exchange (Reply : Stmt → Type) where
  stmt : Stmt
  reply : Reply stmt

/-- Whatever replies arrive, each issued statement satisfies `allowed` and the
result satisfies `returns`, both relative to the call's own exchanges, newest
first. This is a precondition and postcondition rule for programs: it constrains
neither the store nor the other calls. -/
def Follows (allowed : List (Exchange Reply) → Stmt → Prop)
    (returns : List (Exchange Reply) → Except ε α → Prop) :
    List (Exchange Reply) → Program Stmt Reply ε α → Prop
  | past, value result => returns past (.ok result)
  | past, failure error => returns past (.error error)
  | past, issue stmt resume =>
      allowed past stmt ∧ ∀ reply, Follows allowed returns (⟨stmt, reply⟩ :: past) (resume reply)

variable {allowed : List (Exchange Reply) → Stmt → Prop}

/-- A sequenced call follows its rule when the first part establishes an
intermediate fact from which the continuation follows it. Failures of the first
part are failures of the whole. -/
theorem Follows.bind {returns : List (Exchange Reply) → Except ε β → Prop}
    {first : Program Stmt Reply ε α} {next : α → Program Stmt Reply ε β}
    {past : List (Exchange Reply)} (between : List (Exchange Reply) → α → Prop)
    (start : first.Follows allowed
      (fun later result => match result with
        | .ok found => between later found
        | .error error => returns later (.error error)) past)
    (rest : ∀ later found, between later found → (next found).Follows allowed returns later) :
    (first >>= next).Follows allowed returns past := by
  induction first generalizing past with
  | value result => exact rest past result start
  | failure error => exact start
  | issue stmt resume inductionHypothesis =>
    exact ⟨start.1, fun reply => inductionHypothesis reply (start.2 reply)⟩

/-- A rule that allows and promises everything is followed. -/
theorem Follows.of_forall {returns : List (Exchange Reply) → Except ε α → Prop}
    (allows : ∀ past stmt, allowed past stmt) (promises : ∀ past result, returns past result)
    (program : Program Stmt Reply ε α) (past : List (Exchange Reply)) :
    program.Follows allowed returns past := by
  induction program generalizing past with
  | value result => exact promises past _
  | failure error => exact promises past _
  | issue stmt resume inductionHypothesis =>
    exact ⟨allows past stmt, fun reply => inductionHypothesis reply _⟩

/-- Look at how a call ends instead of failing with it. -/
def attempt : Program Stmt Reply ε α → Program Stmt Reply ε (Except ε α)
  | value result => value (.ok result)
  | failure error => value (.error error)
  | issue stmt resume => issue stmt (fun reply => (resume reply).attempt)

/-- Catching the error of a call changes nothing about what it may issue; its results
conclude as before. -/
theorem Follows.attempt {returns : List (Exchange Reply) → Except ε α → Prop}
    {program : Program Stmt Reply ε α} {past : List (Exchange Reply)}
    (follows : program.Follows allowed returns past) :
    program.attempt.Follows allowed
      (fun later outcome => ∀ result, outcome = .ok result → returns later result) past := by
  induction program generalizing past with
  | value result =>
    rintro _ ⟨⟩
    exact follows
  | failure error =>
    rintro _ ⟨⟩
    exact follows
  | issue stmt resume inductionHypothesis =>
    exact ⟨follows.1, fun reply => inductionHypothesis reply (follows.2 reply)⟩

/-- A weaker statement of what is returned still holds. -/
theorem Follows.weaken {returns weaker : List (Exchange Reply) → Except ε α → Prop}
    {program : Program Stmt Reply ε α} {past : List (Exchange Reply)}
    (follows : program.Follows allowed returns past)
    (implies : ∀ later result, returns later result → weaker later result) :
    program.Follows allowed weaker past := by
  induction program generalizing past with
  | value result => exact implies past _ follows
  | failure error => exact implies past _ follows
  | issue stmt resume inductionHypothesis =>
    exact ⟨follows.1, fun reply => inductionHypothesis reply (follows.2 reply)⟩

section Embedding

variable {Stmt' : Type} {Reply' : Stmt' → Type} {allowed : List (Exchange Reply') → Stmt' → Prop}
  (relabel : Stmt → Stmt') (read : ∀ stmt, Reply' (relabel stmt) → Reply stmt)

/-- The same call among other statements: each of its own becomes one of them, and the reply is
read as the reply to its own. -/
def embed : Program Stmt Reply ε α → Program Stmt' Reply' ε α
  | value result => value result
  | failure error => failure error
  | issue stmt resume => issue (relabel stmt) (fun reply => (resume (read stmt reply)).embed)

/-- An embedded call adds exchanges of statements that it is permitted to make, and nothing
else. -/
def Adds (permitted : Stmt → Prop) (past later : List (Exchange Reply')) : Prop :=
  ∃ added, later = added ++ past ∧
    ∀ exchange ∈ added, ∃ stmt reply, permitted stmt ∧ exchange = ⟨relabel stmt, reply⟩

/-- An embedded call follows a rule that allows what it is permitted, whatever it added before. -/
theorem Follows.embed {permitted : Stmt → Prop} {promised : Except ε α → Prop}
    {returns : List (Exchange Reply') → Except ε α → Prop} {program : Program Stmt Reply ε α}
    {own : List (Exchange Reply)} {past later : List (Exchange Reply')}
    (follows : program.Follows (fun _ => permitted) (fun _ => promised) own)
    (added : Adds relabel permitted past later)
    (allows : ∀ later stmt, Adds relabel permitted past later → permitted stmt →
      allowed later (relabel stmt))
    (promises : ∀ later result, Adds relabel permitted past later → promised result →
      returns later result) :
    (program.embed relabel read).Follows allowed returns later := by
  induction program generalizing own later with
  | value result => exact promises later _ added follows
  | failure error => exact promises later _ added follows
  | issue stmt resume inductionHypothesis =>
    refine ⟨allows later stmt added follows.1, fun reply => ?_⟩
    refine inductionHypothesis (read stmt reply) (follows.2 (read stmt reply)) ?_
    obtain ⟨exchanges, rfl, known⟩ := added
    refine ⟨⟨relabel stmt, reply⟩ :: exchanges, rfl, ?_⟩
    intro exchange member
    rcases List.mem_cons.mp member with rfl | old
    · exact ⟨stmt, reply, follows.1, rfl⟩
    · exact known exchange old

end Embedding

end Program

open Program

/-- What a store does with a statement, and what its environment may do to it. -/
structure Machine (S E Stmt : Type) (Reply : Stmt → Type) where
  exec : (stmt : Stmt) → S → Reply stmt × S
  drift : E → S → S

/-- An executed statement, the call that issued it and the store it met. -/
structure Event (S : Type) (Reply : Stmt → Type) extends Exchange Reply where
  call : Nat
  before : S

/-- The own exchanges of one call, newest first. -/
def exchanges (call : Nat) (log : List (Event S Reply)) : List (Exchange Reply) :=
  (log.filter (fun event => event.call = call)).map Event.toExchange

/-- Executing a statement adds an exchange to those of the call that issued it and to no
others. -/
theorem exchanges_cons (call : Nat) (event : Event S Reply) (log : List (Event S Reply)) :
    exchanges call (event :: log) =
      if event.call = call then event.toExchange :: exchanges call log
      else exchanges call log := by
  by_cases own : event.call = call <;> simp [exchanges, own]

/-- An own exchange of a call was one of its executed statements. -/
theorem mem_exchanges {call : Nat} {exchange : Exchange Reply} {log : List (Event S Reply)} :
    exchange ∈ exchanges call log ↔
      ∃ event ∈ log, event.call = call ∧ event.toExchange = exchange := by
  simp only [exchanges, List.mem_map, List.mem_filter, decide_eq_true_eq, and_assoc]

/-- A shared store, the calls in progress and the executed statements, newest
first. -/
structure Run (S : Type) (Stmt : Type) (Reply : Stmt → Type) (ε α : Type) where
  store : S
  calls : Nat → Program Stmt Reply ε α
  log : List (Event S Reply)

/-- The scheduler lets one call issue its next statement, or the environment acts. -/
inductive Move (E : Type) where
  | call (index : Nat)
  | drift (act : E)
deriving DecidableEq

namespace Run

/-- All calls unstarted over an initial store. -/
def start (store : S) (calls : Nat → Program Stmt Reply ε α) : Run S Stmt Reply ε α :=
  ⟨store, calls, []⟩

/-- One move. A finished call that is scheduled again does nothing. -/
def step (machine : Machine S E Stmt Reply) (run : Run S Stmt Reply ε α) :
    Move E → Run S Stmt Reply ε α
  | .drift act => { run with store := machine.drift act run.store }
  | .call index =>
      match run.calls index with
      | .value _ => run
      | .failure _ => run
      | .issue stmt resume =>
          { store := (machine.exec stmt run.store).2
            calls := Function.update run.calls index (resume (machine.exec stmt run.store).1)
            log := ⟨⟨stmt, (machine.exec stmt run.store).1⟩, index, run.store⟩ :: run.log }

/-- A whole schedule. -/
def play (machine : Machine S E Stmt Reply) (run : Run S Stmt Reply ε α)
    (moves : List (Move E)) : Run S Stmt Reply ε α :=
  moves.foldl (step machine) run

/-- A schedule continues from the state its first part reaches. -/
theorem play_append (machine : Machine S E Stmt Reply) (run : Run S Stmt Reply ε α)
    (first second : List (Move E)) :
    run.play machine (first ++ second) = (run.play machine first).play machine second :=
  List.foldl_append

/-- A schedule without moves leaves the run. -/
@[simp] theorem play_nil (machine : Machine S E Stmt Reply) (run : Run S Stmt Reply ε α) :
    run.play machine [] = run := rfl

/-- A schedule is played move by move. -/
@[simp] theorem play_cons (machine : Machine S E Stmt Reply) (run : Run S Stmt Reply ε α)
    (move : Move E) (moves : List (Move E)) :
    run.play machine (move :: moves) = (run.step machine move).play machine moves := rfl

/-- A move either leaves store, calls and log alone, drifts the store, or
executes exactly the next statement of one unfinished call. -/
theorem step_cases (machine : Machine S E Stmt Reply) (run : Run S Stmt Reply ε α)
    (move : Move E) :
    run.step machine move = run ∨
      (∃ act, move = .drift act ∧
        run.step machine move = { run with store := machine.drift act run.store }) ∨
      ∃ index stmt resume, move = .call index ∧ run.calls index = .issue stmt resume ∧
        run.step machine move =
          { store := (machine.exec stmt run.store).2
            calls := Function.update run.calls index (resume (machine.exec stmt run.store).1)
            log := ⟨⟨stmt, (machine.exec stmt run.store).1⟩, index, run.store⟩ :: run.log } := by
  cases move with
  | drift act => exact .inr (.inl ⟨act, rfl, rfl⟩)
  | call index =>
    cases current : run.calls index with
    | value result => exact .inl (by simp only [step, current])
    | failure error => exact .inl (by simp only [step, current])
    | issue stmt resume =>
      exact .inr (.inr ⟨index, stmt, resume, rfl, current, by simp only [step, current]⟩)

end Run

/-- Every step of a folded sequence meets a condition on the state before it. -/
def Along (step : S → M → S) (meets : S → M → Prop) : S → List M → Prop
  | _, [] => True
  | state, move :: moves => meets state move ∧ Along step meets (step state move) moves

/-- Whether a property of the steps holds along a schedule can be computed step by
step. -/
instance Along.decidable (step : S → M → S) (meets : S → M → Prop)
    [∀ state move, Decidable (meets state move)] (state : S) (moves : List M) :
    Decidable (Along step meets state moves) :=
  match moves with
  | [] => .isTrue trivial
  | move :: moves =>
      have := Along.decidable step meets (step state move) moves
      inferInstanceAs (Decidable (_ ∧ _))

namespace Along

variable {step : S → M → S} {meets : S → M → Prop}

/-- A condition on a concatenation is the condition on both parts. -/
theorem append_iff (state : S) (first second : List M) :
    Along step meets state (first ++ second) ↔
      Along step meets state first ∧ Along step meets (first.foldl step state) second := by
  induction first generalizing state with
  | nil => simp [Along]
  | cons move moves inductionHypothesis =>
    simp only [List.cons_append, Along, inductionHypothesis, List.foldl_cons, and_assoc]

/-- A condition along a sequence is the condition at each of its places. -/
theorem iff_splits (state : S) (moves : List M) :
    Along step meets state moves ↔
      ∀ first move last, moves = first ++ move :: last → meets (first.foldl step state) move := by
  constructor
  · rintro along first move last rfl
    exact ((append_iff state first (move :: last)).mp along).2.1
  · intro places
    induction moves generalizing state with
    | nil => trivial
    | cons move moves inductionHypothesis =>
      refine ⟨places [] move moves rfl, inductionHypothesis _ ?_⟩
      rintro first next last rfl
      exact places (move :: first) next last rfl

/-- What holds first and is kept by every step meeting the condition holds last. -/
theorem invariant {state : S} {moves : List M} (holds : S → Prop)
    (along : Along step meets state moves) (first : holds state)
    (kept : ∀ current move, holds current → meets current move → holds (step current move)) :
    holds (moves.foldl step state) := by
  induction moves generalizing state with
  | nil => exact first
  | cons move moves inductionHypothesis =>
    exact inductionHypothesis along.2 (kept state move first along.1)

/-- At each place of a sequence the condition holds, and so does what holds first
and is kept by every step meeting the condition. -/
theorem reaches {state : S} {first last : List M} {move : M} (holds : S → Prop)
    (along : Along step meets state (first ++ move :: last)) (start : holds state)
    (kept : ∀ current move, holds current → meets current move → holds (step current move)) :
    holds (first.foldl step state) ∧ meets (first.foldl step state) move := by
  obtain ⟨before, here, -⟩ := (append_iff state first (move :: last)).mp along
  exact ⟨before.invariant holds start kept, here⟩

/-- A condition that follows from what is kept along a sequence is met along it. -/
theorem derive {derived : S → M → Prop} {state : S} {moves : List M} (holds : S → Prop)
    (along : Along step meets state moves) (first : holds state)
    (kept : ∀ current move, holds current → meets current move → holds (step current move))
    (gives : ∀ current move, holds current → meets current move → derived current move) :
    Along step derived state moves := by
  induction moves generalizing state with
  | nil => trivial
  | cons move moves inductionHypothesis =>
    exact ⟨gives state move first along.1,
      inductionHypothesis along.2 (kept state move first along.1)⟩

/-- What holds before every step of a sequence holds after every step but the
last. -/
theorem shift {holds : S → Prop} {state : S} {moves : List M} {last : M}
    (along : Along step (fun current _ => holds current) state (moves ++ [last])) :
    Along step (fun current move => holds (step current move)) state moves := by
  induction moves generalizing state with
  | nil => trivial
  | cons move moves inductionHypothesis =>
    refine ⟨?_, inductionHypothesis along.2⟩
    cases moves with
    | nil => exact along.2.1
    | cons next moves => exact along.2.1

/-- The condition that every sequence meets. -/
theorem unconditional (state : S) (moves : List M) :
    Along step (fun _ _ => True) state moves := by
  induction moves generalizing state with
  | nil => trivial
  | cons move moves inductionHypothesis => exact ⟨trivial, inductionHypothesis _⟩

end Along

namespace Run

/-- What every move keeps holds after every schedule. -/
theorem play_invariant (machine : Machine S E Stmt Reply) {run : Run S Stmt Reply ε α}
    (holds : Run S Stmt Reply ε α → Prop) (first : holds run)
    (kept : ∀ current move, holds current → holds (current.step machine move))
    (moves : List (Move E)) : holds (run.play machine moves) :=
  (Along.unconditional run moves).invariant holds first (fun current move h _ => kept current move h)

/-- Each call's remaining program still follows its rule, and every executed
statement was allowed by the exchanges its call had made before it. -/
structure Lawful (allowed : Nat → List (Exchange Reply) → Stmt → Prop)
    (returns : Nat → List (Exchange Reply) → Except ε α → Prop)
    (run : Run S Stmt Reply ε α) : Prop where
  remaining : ∀ index,
    (run.calls index).Follows (allowed index) (returns index) (exchanges index run.log)
  executed : ∀ later event earlier, run.log = later ++ event :: earlier →
    allowed event.call (exchanges event.call earlier) event.stmt

/-- Rules proved of the programs alone are kept by every move. -/
theorem Lawful.step {allowed : Nat → List (Exchange Reply) → Stmt → Prop}
    {returns : Nat → List (Exchange Reply) → Except ε α → Prop}
    {run : Run S Stmt Reply ε α} (lawful : Lawful allowed returns run)
    (machine : Machine S E Stmt Reply) (move : Move E) :
    Lawful allowed returns (run.step machine move) := by
  obtain same | ⟨act, -, moved⟩ | ⟨index, stmt, resume, -, current, moved⟩ :=
    step_cases machine run move
  · rw [same]
    exact lawful
  · rw [moved]
    exact ⟨lawful.remaining, lawful.executed⟩
  · rw [moved]
    have follows := lawful.remaining index
    rw [current] at follows
    refine ⟨?_, ?_⟩
    · intro other
      by_cases same : other = index
      · subst other
        simpa [exchanges_cons] using follows.2 (machine.exec stmt run.store).1
      · have differs : ¬ index = other := fun equal => same equal.symm
        simpa [exchanges_cons, same, differs] using lawful.remaining other
    · intro later event earlier split
      cases later with
      | nil =>
        obtain ⟨rfl, rfl⟩ := List.cons.inj split
        exact follows.1
      | cons newest later =>
        exact lawful.executed later event earlier (List.cons.inj split).2

/-- A call that waits for a reply issues something its rule allows now, and with
the reply its remaining program follows the rule. -/
theorem Lawful.issuing {allowed : Nat → List (Exchange Reply) → Stmt → Prop}
    {returns : Nat → List (Exchange Reply) → Except ε α → Prop}
    {run : Run S Stmt Reply ε α} (lawful : Lawful allowed returns run) {index : Nat} {stmt : Stmt}
    {resume : Reply stmt → Program Stmt Reply ε α} (current : run.calls index = .issue stmt resume) :
    allowed index (exchanges index run.log) stmt ∧
      ∀ reply, (resume reply).Follows (allowed index) (returns index)
        (⟨stmt, reply⟩ :: exchanges index run.log) := by
  have follows := lawful.remaining index
  rw [current] at follows
  exact follows

/-- Programs that follow their rules from the start follow them in every
schedule. -/
theorem lawful_play (machine : Machine S E Stmt Reply) (store : S)
    (calls : Nat → Program Stmt Reply ε α)
    {allowed : Nat → List (Exchange Reply) → Stmt → Prop}
    {returns : Nat → List (Exchange Reply) → Except ε α → Prop}
    (follows : ∀ index, (calls index).Follows (allowed index) (returns index) [])
    (moves : List (Move E)) :
    Lawful allowed returns ((start store calls).play machine moves) := by
  have first : Lawful allowed returns (start store calls) := by
    refine ⟨follows, ?_⟩
    intro later event earlier split
    simp [start] at split
  exact play_invariant machine (Lawful allowed returns) first
    (fun current move lawful => lawful.step machine move) moves

/-- Every logged reply is what the store answered when it met the statement. -/
def Answered (machine : Machine S E Stmt Reply) (run : Run S Stmt Reply ε α) : Prop :=
  ∀ event ∈ run.log, event.toExchange = ⟨event.stmt, (machine.exec event.stmt event.before).1⟩

/-- A move keeps every logged reply the one that the store gave: a move either leaves the
log, or adds the reply that is given now. -/
theorem Answered.step {machine : Machine S E Stmt Reply} {run : Run S Stmt Reply ε α}
    (answered : Answered machine run) (move : Move E) : Answered machine (run.step machine move) := by
  intro event member
  obtain same | ⟨act, -, moved⟩ | ⟨index, stmt, resume, -, -, moved⟩ :=
    step_cases machine run move
  · rw [same] at member
    exact answered event member
  · rw [moved] at member
    exact answered event member
  · rw [moved] at member
    rcases List.mem_cons.mp member with rfl | old
    · rfl
    · exact answered event old

/-- Every schedule only logs true replies. -/
theorem answered_play (machine : Machine S E Stmt Reply) (store : S)
    (calls : Nat → Program Stmt Reply ε α) (moves : List (Move E)) :
    Answered machine ((start store calls).play machine moves) :=
  play_invariant machine (Answered machine) (fun _ member => absurd member List.not_mem_nil)
    (fun _ move answered => answered.step move) moves

end Run

end SecureDatabase.Foundation
