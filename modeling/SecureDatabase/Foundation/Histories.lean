import Mathlib.Data.List.Induction
import SecureDatabase.Foundation.Program

/-!
# What the log of a run says about its store

The executed statements of a run determine everything that its environment does not. Two
rules read a store off its log. A view of the store that statements change by a known amount,
and the environment does not, is the fold of the log. And what one kind of event establishes and
only another kind can end holds from the first to the second, in the final store and in every
store that a later statement met.
-/

namespace SecureDatabase.Foundation.Run

open Program

variable {Stmt : Type} {Reply : Stmt → Type} {ε α S E V : Type}
  {machine : Machine S E Stmt Reply}

/-- The event of a call that executes a statement on a store. -/
def event (machine : Machine S E Stmt Reply) (index : Nat) (stmt : Stmt) (store : S) :
    Event S Reply :=
  ⟨⟨stmt, (machine.exec stmt store).1⟩, index, store⟩

section Moments

/-- What every move of a kind keeps holds after every schedule of such moves. -/
theorem play_invariant_of {run : Run S Stmt Reply ε α} (holds : Run S Stmt Reply ε α → Prop)
    {meets : Move E → Prop} (first : holds run) {moves : List (Move E)}
    (met : ∀ move ∈ moves, meets move)
    (kept : ∀ current move, meets move → holds current → holds (current.step machine move)) :
    holds (run.play machine moves) := by
  induction moves generalizing run with
  | nil => exact first
  | cons move moves inductionHypothesis =>
    refine inductionHypothesis (kept run move (met move List.mem_cons_self) first) ?_
    exact fun later member => met later (List.mem_cons_of_mem _ member)

/-- The log grows with a schedule. -/
theorem play_log (machine : Machine S E Stmt Reply) (run : Run S Stmt Reply ε α) (moves : List (Move E)) :
    ∃ later, (run.play machine moves).log = later ++ run.log := by
  induction moves generalizing run with
  | nil => exact ⟨[], rfl⟩
  | cons move moves inductionHypothesis =>
    obtain ⟨later, grown⟩ := inductionHypothesis (run.step machine move)
    rw [play_cons, grown]
    obtain same | ⟨act, -, moved⟩ | ⟨index, stmt, resume, -, -, moved⟩ :=
      step_cases machine run move
    · rw [same]
      exact ⟨later, rfl⟩
    · rw [moved]
      exact ⟨later, rfl⟩
    · rw [moved]
      exact ⟨later ++ [event machine index stmt run.store], by simp [event]⟩

/-- Every logged event was executed at one move of the schedule, after what was logged before. -/
theorem exists_moment (machine : Machine S E Stmt Reply) (run : Run S Stmt Reply ε α)
    (fresh : run.log = []) (moves : List (Move E)) {logged : Event S Reply}
    (member : logged ∈ (run.play machine moves).log) :
    ∃ before after resume later, moves = before ++ .call logged.call :: after ∧
      (run.play machine before).calls logged.call = .issue logged.stmt resume ∧
      logged = event machine logged.call logged.stmt (run.play machine before).store ∧
      (run.play machine moves).log = later ++ logged :: (run.play machine before).log := by
  induction moves using List.reverseRecOn with
  | nil =>
    rw [play_nil, fresh] at member
    cases member
  | append_singleton moves move inductionHypothesis =>
    rw [play_append, play_cons, play_nil] at member ⊢
    obtain ⟨newer, grown⟩ := play_log machine (run.play machine moves) [move]
    rw [play_cons, play_nil] at grown
    have earlier (old : logged ∈ (run.play machine moves).log) :
        ∃ before after resume later, moves ++ [move] = before ++ .call logged.call :: after ∧
          (run.play machine before).calls logged.call = .issue logged.stmt resume ∧
          logged = event machine logged.call logged.stmt (run.play machine before).store ∧
          ((run.play machine moves).step machine move).log =
            later ++ logged :: (run.play machine before).log := by
      obtain ⟨before, after, resume, later, rfl, current, same, log⟩ := inductionHypothesis old
      refine ⟨before, after ++ [move], resume, newer ++ later, by simp, current, same, ?_⟩
      rw [grown, log, List.append_assoc]
    obtain same | ⟨act, -, moved⟩ | ⟨index, stmt, resume, rfl, current, moved⟩ :=
      step_cases machine (run.play machine moves) move
    · rw [same] at member
      exact earlier member
    · rw [moved] at member
      exact earlier member
    · have newest : ((run.play machine moves).step machine (.call index)).log =
          event machine index stmt (run.play machine moves).store ::
            (run.play machine moves).log := by
        rw [moved]
        rfl
      rw [newest] at member
      rcases List.mem_cons.mp member with rfl | old
      · exact ⟨moves, [], resume, [], rfl, current, rfl, newest⟩
      · exact earlier old

end Moments

section Folds

variable (view : S → V) (change : Event S Reply → V → V) (invariant : S → Prop)
  (meets : Event S Reply → Prop)

/-- Statements keep an invariant and change a view by what their event says, as long as the event
meets a condition; the environment keeps both. -/
structure Folds (machine : Machine S E Stmt Reply) : Prop where
  invariant_exec : ∀ index stmt store, invariant store → meets (event machine index stmt store) →
    invariant (machine.exec stmt store).2
  invariant_drift : ∀ act store, invariant store → invariant (machine.drift act store)
  executes : ∀ index stmt store, invariant store → meets (event machine index stmt store) →
    view (machine.exec stmt store).2 = change (event machine index stmt store) (view store)
  drifts : ∀ act store, view (machine.drift act store) = view store

variable {view change invariant meets}

/-- In every schedule whose events meet the condition, the view is the fold of the log. -/
theorem view_play (folds : Folds view change invariant meets machine) {store : S}
    (first : invariant store) (calls : Nat → Program Stmt Reply ε α) (moves : List (Move E))
    (met : ∀ event ∈ ((start store calls).play machine moves).log, meets event) :
    view ((start store calls).play machine moves).store =
      ((start store calls).play machine moves).log.foldr change (view store) := by
  suffices folded : (∀ event ∈ ((start store calls).play machine moves).log, meets event) →
      invariant ((start store calls).play machine moves).store ∧
        view ((start store calls).play machine moves).store =
          ((start store calls).play machine moves).log.foldr change (view store) from (folded met).2
  refine play_invariant machine (fun run => (∀ event ∈ run.log, meets event) →
    invariant run.store ∧ view run.store = run.log.foldr change (view store))
    (fun _ => ⟨first, rfl⟩) ?_ moves
  intro run move inductionHypothesis
  obtain same | ⟨act, -, moved⟩ | ⟨index, stmt, resume, -, -, moved⟩ := step_cases machine run move
  · rw [same]
    exact inductionHypothesis
  · rw [moved]
    intro met
    obtain ⟨kept, folded⟩ := inductionHypothesis met
    exact ⟨folds.invariant_drift act _ kept, (folds.drifts act _).trans folded⟩
  · rw [moved]
    intro met
    obtain ⟨kept, folded⟩ := inductionHypothesis
      fun event member => met event (List.mem_cons_of_mem _ member)
    have now : meets (event machine index stmt run.store) := met _ List.mem_cons_self
    exact ⟨folds.invariant_exec index stmt _ kept now,
      (folds.executes index stmt _ kept now).trans (congrArg _ folded)⟩

/-- A list to which events append is what it was at first and what they appended. -/
theorem foldr_append_filterMap (appended : Event S Reply → Option V) (log : List (Event S Reply))
    (first : List V) :
    log.foldr (fun event old => old ++ (appended event).toList) first =
      first ++ log.reverse.filterMap appended := by
  induction log with
  | nil => simp
  | cons newest log inductionHypothesis =>
    rw [List.foldr_cons, inductionHypothesis, List.reverse_cons, List.filterMap_append,
      List.append_assoc]
    cases kept : appended newest <;> simp [kept]

/-- In every schedule, a list to which statements append and that the environment keeps is what it
was at first and what the log appended. -/
theorem appended_play (rows : S → List V) {appended : Event S Reply → Option V}
    (executes : ∀ index stmt store, rows (machine.exec stmt store).2 =
      rows store ++ (appended (event machine index stmt store)).toList)
    (drifts : ∀ act store, rows (machine.drift act store) = rows store) (store : S)
    (calls : Nat → Program Stmt Reply ε α) (moves : List (Move E)) :
    rows ((start store calls).play machine moves).store =
      rows store ++ ((start store calls).play machine moves).log.reverse.filterMap appended := by
  have folds : Folds rows (fun event old => old ++ (appended event).toList) (fun _ => True)
      (fun _ => True) machine :=
    ⟨fun _ _ _ _ _ => trivial, fun _ _ _ => trivial,
      fun index stmt store _ _ => executes index stmt store, drifts⟩
  rw [← foldr_append_filterMap]
  exact view_play folds trivial calls moves fun _ _ => trivial

end Folds

section Registers

variable (writes : Event S Reply → Option V) (drops : Event S Reply → V → Bool)

/-- A value after an event that may write one, and may drop the old one. -/
def remember (event : Event S Reply) (old : Option V) : Option V :=
  (writes event).or (old.filter fun value => !drops event value)

/-- The event leaves a value where it is. -/
def Leaves (value : V) (event : Event S Reply) : Prop :=
  writes event = none ∧ drops event value = false

variable {writes drops}

/-- What a register holds after an event was written by it, or was held before and
survives it. This is the step that the fold over a log repeats. -/
theorem remember_eq_some_iff {event : Event S Reply} {old : Option V} {value : V} :
    remember writes drops event old = some value ↔
      writes event = some value ∨ (Leaves writes drops value event ∧ old = some value) := by
  unfold remember Leaves
  cases written : writes event with
  | some other => simp
  | none =>
    cases old with
    | none => simp
    | some other =>
      simp only [Option.none_or, Option.filter_eq_some_iff, Bool.not_eq_true']
      constructor
      · rintro ⟨same, kept⟩
        exact .inr ⟨⟨trivial, kept⟩, same⟩
      · rintro (new | ⟨⟨-, kept⟩, same⟩)
        · cases new
        · exact ⟨same, kept⟩

/-- An event that leaves every value changes nothing. -/
theorem remember_of_leaves {event : Event S Reply}
    (leaves : ∀ value, Leaves writes drops value event) (old : Option V) :
    remember writes drops event old = old := by
  cases old with
  | none =>
    rw [remember, Option.filter_none, Option.or_none]
    by_contra written
    obtain ⟨value, -⟩ := Option.ne_none_iff_exists'.mp written
    exact written (leaves value).1
  | some value => exact remember_eq_some_iff.mpr (.inr ⟨leaves value, rfl⟩)

/-- What a log leaves is the last value written, if nothing dropped it since, or the first one, if
nothing was written or dropped at all. -/
theorem foldr_remember_eq_some_iff {log : List (Event S Reply)} {first : Option V} {value : V} :
    log.foldr (remember writes drops) first = some value ↔
      (∃ later written earlier, log = later ++ written :: earlier ∧
        writes written = some value ∧ ∀ event ∈ later, Leaves writes drops value event) ∨
      (first = some value ∧ ∀ event ∈ log, Leaves writes drops value event) := by
  induction log with
  | nil => simp
  | cons newest log inductionHypothesis =>
    rw [List.foldr_cons, remember_eq_some_iff, inductionHypothesis]
    constructor
    · rintro (new | ⟨leaves, ⟨later, written, earlier, rfl, writing, kept⟩ | ⟨old, kept⟩⟩)
      · exact .inl ⟨[], newest, log, rfl, new, fun _ none => absurd none List.not_mem_nil⟩
      · exact .inl ⟨newest :: later, written, earlier, rfl, writing,
          List.forall_mem_cons.mpr ⟨leaves, kept⟩⟩
      · exact .inr ⟨old, List.forall_mem_cons.mpr ⟨leaves, kept⟩⟩
    · rintro (⟨later, written, earlier, split, writing, kept⟩ | ⟨old, kept⟩)
      · cases later with
        | nil =>
          obtain ⟨rfl, rfl⟩ := List.cons.inj split
          exact .inl writing
        | cons event later =>
          obtain ⟨rfl, rfl⟩ := List.cons.inj split
          obtain ⟨leaves, kept⟩ := List.forall_mem_cons.mp kept
          exact .inr ⟨leaves, .inl ⟨later, written, earlier, rfl, writing, kept⟩⟩
      · obtain ⟨leaves, kept⟩ := List.forall_mem_cons.mp kept
        exact .inr ⟨leaves, .inr ⟨old, kept⟩⟩

end Registers

section Since

variable (sets ends : Exchange Reply → Prop)

/-- The log has an event that sets something and none after it that ends it. -/
def Since : List (Event S Reply) → Prop
  | [] => False
  | newest :: earlier =>
      sets newest.toExchange ∨ Since earlier ∧ ¬ ends newest.toExchange

variable {sets ends}

/-- An event that sets something counts until one that ends it. -/
theorem since_append {later earlier : List (Event S Reply)} {setting : Event S Reply}
    (set : sets setting.toExchange) (unended : ∀ event ∈ later, ¬ ends event.toExchange) :
    Since sets ends (later ++ setting :: earlier) := by
  induction later with
  | nil => exact .inl set
  | cons newest later inductionHypothesis =>
    refine .inr ⟨inductionHypothesis ?_, unended newest List.mem_cons_self⟩
    intro event member
    exact unended event (List.mem_cons_of_mem newest member)

/-- What an event establishes, statements keep unless they end it, and the environment
keeps. Each may rest on an invariant. -/
structure Lasts (machine : Machine S E Stmt Reply) (sets ends : Exchange Reply → Prop)
    (invariant holds : S → Prop) : Prop where
  invariant_exec : ∀ stmt store, invariant store → invariant (machine.exec stmt store).2
  invariant_drift : ∀ act store, invariant store → invariant (machine.drift act store)
  established : ∀ stmt store, invariant store → sets ⟨stmt, (machine.exec stmt store).1⟩ →
    holds (machine.exec stmt store).2
  kept : ∀ stmt store, invariant store → holds store →
    ¬ ends ⟨stmt, (machine.exec stmt store).1⟩ → holds (machine.exec stmt store).2
  drifts : ∀ act store, holds store → holds (machine.drift act store)

variable {invariant holds : S → Prop}

/-- The invariant, and what is set holds now and held before each later statement. -/
structure Lasting (sets ends : Exchange Reply → Prop) (invariant holds : S → Prop)
    (run : Run S Stmt Reply ε α) : Prop where
  invariant : invariant run.store
  now : Since sets ends run.log → holds run.store
  before : ∀ later event earlier, run.log = later ++ event :: earlier →
    Since sets ends earlier → holds event.before

/-- A move keeps this: what it sets holds after it, and what was set before still holds
unless the move ends it. -/
theorem Lasting.step (lasts : Lasts machine sets ends invariant holds) {run : Run S Stmt Reply ε α}
    (lasting : Lasting sets ends invariant holds run) (move : Move E) :
    Lasting sets ends invariant holds (run.step machine move) := by
  obtain same | ⟨act, -, moved⟩ | ⟨index, stmt, resume, -, -, moved⟩ := step_cases machine run move
  · rw [same]
    exact lasting
  · rw [moved]
    exact ⟨lasts.invariant_drift act _ lasting.invariant,
      fun since => lasts.drifts act _ (lasting.now since), lasting.before⟩
  · rw [moved]
    refine ⟨lasts.invariant_exec stmt _ lasting.invariant, ?_, ?_⟩
    · rintro (set | ⟨since, unended⟩)
      · exact lasts.established stmt _ lasting.invariant set
      · exact lasts.kept stmt _ lasting.invariant (lasting.now since) unended
    · intro later event earlier split since
      cases later with
      | nil =>
        obtain ⟨rfl, rfl⟩ := List.cons.inj split
        exact lasting.now since
      | cons newest later =>
        exact lasting.before later event earlier (List.cons.inj split).2 since

/-- In every schedule, what is set holds from then on until it is ended. -/
theorem lasting_play (lasts : Lasts machine sets ends invariant holds) {store : S}
    (first : invariant store) (calls : Nat → Program Stmt Reply ε α) (moves : List (Move E)) :
    Lasting sets ends invariant holds ((start store calls).play machine moves) := by
  have launched : Lasting sets ends invariant holds (start store calls) := by
    refine ⟨first, fun since => since.elim, ?_⟩
    intro later event earlier split
    simp [start] at split
  exact play_invariant machine (Lasting sets ends invariant holds) launched
    (fun _ move lasting => lasting.step lasts move) moves

/-- After an event that sets something, and as long as none ends it, it holds now and held
before every statement since. -/
theorem Lasting.after {run : Run S Stmt Reply ε α}
    (lasting : Lasting sets ends invariant holds run) {later earlier : List (Event S Reply)}
    {setting : Event S Reply} (split : run.log = later ++ setting :: earlier)
    (set : sets setting.toExchange) (unended : ∀ event ∈ later, ¬ ends event.toExchange) :
    holds run.store ∧ ∀ event ∈ later, holds event.before := by
  refine ⟨lasting.now (by rw [split]; exact since_append set unended), ?_⟩
  intro event member
  obtain ⟨newer, older, rfl⟩ := List.append_of_mem member
  refine lasting.before newer event (older ++ setting :: earlier) (by simp [split]) ?_
  refine since_append set fun other old => unended other ?_
  exact List.mem_append_right newer (List.mem_cons_of_mem event old)

end Since

end SecureDatabase.Foundation.Run
