import Mathlib.Data.List.Nodup

/-!
# Keyed tables and the server that holds them

A table is a list of rows with pairwise distinct primary keys; the distinctness
is part of the table, so no operation can store two rows under one key. Rows
keep their insertion order, a query for a key is determined by it, and an update
may not move a row to another key.

A server executes one statement at a time at its current clock reading. A
statement that fails, whether by its own constraint or because the server cannot
be reached, leaves the tables as they were. The clock never runs backwards. Times
are integers: microseconds since the server's epoch, the resolution of the stored
timestamps. A computed time outside the range of timestamps makes its statement fail.
-/

namespace SecureDatabase.Foundation

/-- Microseconds in one second. -/
def second : Int := 1000000

/-- Microseconds in one day of 24 hours. -/
def day : Int := 86400 * second

/-- The earliest timestamp of the server. -/
def minTimestamp : Int := -211813488000000000

/-- The end of the server's timestamps; they are all before it. -/
def endTimestamp : Int := 9223371331200000000

/-- Whether a computed time is in the range of timestamps. -/
def isTimestamp (time : Int) : Bool := minTimestamp ≤ time && time < endTimestamp

/-- Rows with pairwise distinct keys. -/
structure Table {Row Key : Type} (key : Row → Key) where
  rows : List Row
  distinct : (rows.map key).Nodup

namespace Table

variable {Row Key : Type} {key : Row → Key}

/-- The table without rows. -/
def empty : Table key := ⟨[], List.nodup_nil⟩

/-- DELETE the rows satisfying a condition. -/
def deleteWhere (table : Table key) (condition : Row → Bool) : Table key where
  rows := table.rows.filter (fun row => !condition row)
  distinct := table.distinct.sublist (List.filter_sublist.map key)

/-- How many rows satisfy a condition. -/
def countWhere (table : Table key) (condition : Row → Bool) : Nat :=
  table.rows.countP condition

/-- UPDATE the rows satisfying a condition by a change that keeps their keys. -/
def updateWhere (table : Table key) (condition : Row → Bool) (change : Row → Row)
    (keeps : ∀ row, key (change row) = key row) : Table key where
  rows := table.rows.map (fun row => if condition row then change row else row)
  distinct := by
    have unmoved : key ∘ (fun row => if condition row then change row else row) = key := by
      funext row
      simp only [Function.comp_apply]
      split
      · exact keeps row
      · rfl
    rw [List.map_map, unmoved]
    exact table.distinct

/-- A deletion leaves the rows that do not meet its condition. -/
@[simp] theorem mem_deleteWhere (table : Table key) (condition : Row → Bool) (row : Row) :
    row ∈ (table.deleteWhere condition).rows ↔ row ∈ table.rows ∧ condition row = false := by
  simp [deleteWhere]

/-- The rows after an UPDATE are the changed ones and the unselected ones. -/
theorem mem_updateWhere (table : Table key) (condition : Row → Bool)
    (change : Row → Row) (keeps : ∀ row, key (change row) = key row) (row : Row) :
    row ∈ (table.updateWhere condition change keeps).rows ↔
      (∃ old ∈ table.rows, condition old = true ∧ row = change old) ∨
        row ∈ table.rows ∧ condition row = false := by
  simp only [updateWhere, List.mem_map]
  constructor
  · rintro ⟨old, stored, rfl⟩
    cases selected : condition old with
    | true => exact .inl ⟨old, stored, selected, by simp⟩
    | false => exact .inr (by simpa [selected] using stored)
  · rintro (⟨old, stored, selected, rfl⟩ | ⟨stored, unselected⟩)
    · exact ⟨old, stored, by simp [selected]⟩
    · exact ⟨row, stored, by simp [unselected]⟩

/-- An UPDATE that selects no row changes nothing. -/
theorem updateWhere_eq_self {table : Table key} {condition : Row → Bool} {change : Row → Row}
    {keeps : ∀ row, key (change row) = key row}
    (unselected : ∀ row ∈ table.rows, condition row = false) :
    table.updateWhere condition change keeps = table := by
  have same : table.rows.map (fun row => if condition row then change row else row) =
      table.rows := by
    rw [List.map_congr_left (g := id), List.map_id]
    intro row stored
    simp [unselected row stored]
  obtain ⟨rows, distinct⟩ := table
  simp only [updateWhere, mk.injEq]
  exact same

variable [DecidableEq Key]

/-- SELECT the row under a key. -/
def find (table : Table key) (wanted : Key) : Option Row :=
  table.rows.find? (fun row => decide (key row = wanted))

/-- What is found under a key has that key. -/
theorem key_of_find {table : Table key} {wanted : Key} {row : Row}
    (found : table.find wanted = some row) : key row = wanted := by
  simpa using List.find?_some found

/-- What is found is a row of the table. -/
theorem mem_of_find {table : Table key} {wanted : Key} {row : Row}
    (found : table.find wanted = some row) : row ∈ table.rows :=
  List.mem_of_find?_eq_some found

/-- Nothing is found under a key exactly when no row has it. -/
theorem find_eq_none_iff (table : Table key) (wanted : Key) :
    table.find wanted = none ↔ ∀ row ∈ table.rows, key row ≠ wanted := by
  simp [find]

/-- A stored row is the one its key selects: keys are distinct. -/
theorem find_of_mem {table : Table key} {row : Row} (stored : row ∈ table.rows) :
    table.find (key row) = some row := by
  cases found : table.find (key row) with
  | none => exact absurd rfl ((table.find_eq_none_iff _).mp found row stored)
  | some other =>
    have same : other = row :=
      List.inj_on_of_nodup_map table.distinct (mem_of_find found) stored (key_of_find found)
    rw [same]

/-- INSERT a row whose key is absent. -/
def insert (table : Table key) (row : Row) (absent : table.find (key row) = none) :
    Table key where
  rows := table.rows ++ [row]
  distinct := by
    rw [List.map_append, List.map_singleton, ← List.concat_eq_append]
    refine List.Nodup.concat ?_ table.distinct
    intro taken
    obtain ⟨other, stored, same⟩ := List.mem_map.mp taken
    exact (table.find_eq_none_iff _).mp absent other stored same

/-- INSERT, refused when the key is taken. -/
def insert? (table : Table key) (row : Row) : Option (Table key) :=
  if absent : table.find (key row) = none then some (table.insert row absent) else none

/-- An insertion adds its row and leaves the others. -/
@[simp] theorem mem_insert (table : Table key) (row other : Row)
    (absent : table.find (key row) = none) :
    other ∈ (table.insert row absent).rows ↔ other ∈ table.rows ∨ other = row := by
  simp [insert]

/-- After an INSERT the new key selects the new row and no other key changed. -/
theorem find_insert (table : Table key) (row : Row) (absent : table.find (key row) = none)
    (wanted : Key) :
    (table.insert row absent).find wanted =
      if key row = wanted then some row else table.find wanted := by
  by_cases same : key row = wanted
  · subst wanted
    have missing : table.rows.find? (fun other => decide (key other = key row)) = none := absent
    simp [find, insert, List.find?_append, missing]
  · simp [find, insert, List.find?_append, same]

/-- An insertion succeeds exactly when the key is free, and then it adds the row. -/
theorem insert?_eq_some_iff (table after : Table key) (row : Row) :
    table.insert? row = some after ↔
      ∃ absent : table.find (key row) = none, after = table.insert row absent := by
  unfold insert?
  split
  · rename_i absent
    exact ⟨fun same => ⟨absent, (Option.some.inj same).symm⟩, fun ⟨_, same⟩ => by rw [same]⟩
  · rename_i present
    simp [present]

/-- An UPDATE changes each selected row in place. -/
theorem find_updateWhere (table : Table key) (condition : Row → Bool) (change : Row → Row)
    (keeps : ∀ row, key (change row) = key row) (wanted : Key) :
    (table.updateWhere condition change keeps).find wanted =
      (table.find wanted).map (fun row => if condition row then change row else row) := by
  have unmoved : ∀ row, key (if condition row then change row else row) = key row := by
    intro row
    split
    · exact keeps row
    · rfl
  simp only [find, updateWhere, List.find?_map, Function.comp_def, unmoved]

/-- A DELETE removes exactly the selected rows. -/
theorem find_deleteWhere (table : Table key) (condition : Row → Bool) (wanted : Key) :
    (table.deleteWhere condition).find wanted =
      (table.find wanted).filter (fun row => !condition row) := by
  cases found : table.find wanted with
  | none =>
    rw [Option.filter_none, find_eq_none_iff]
    intro row stored
    exact (table.find_eq_none_iff wanted).mp found row
      ((mem_deleteWhere table condition row).mp stored).1
  | some row =>
    have stored := mem_of_find found
    have named := key_of_find found
    by_cases removed : condition row = true
    · simp only [Option.filter_some, removed, Bool.not_true, Bool.false_eq_true, ↓reduceIte]
      rw [find_eq_none_iff]
      intro other kept same
      obtain ⟨present, unselected⟩ := (mem_deleteWhere table condition other).mp kept
      have equal : other = row := by
        have selected := find_of_mem present
        rw [same, found] at selected
        exact (Option.some.inj selected).symm
      rw [equal, removed] at unselected
      exact Bool.noConfusion unselected
    · have kept : condition row = false := by simpa using removed
      have survives : row ∈ (table.deleteWhere condition).rows :=
        (mem_deleteWhere table condition row).mpr ⟨stored, kept⟩
      simp only [Option.filter_some, kept, Bool.not_false, ↓reduceIte]
      rw [← named]
      exact find_of_mem survives

section Counts

variable {Row Key : Type} {key : Row → Key} (table : Table key) {condition counts : Row → Bool}

/-- A deletion makes no count larger. -/
theorem countWhere_deleteWhere_le (condition counts : Row → Bool) :
    (table.deleteWhere condition).countWhere counts ≤ table.countWhere counts :=
  List.filter_sublist.countP_le

/-- Deleting rows that do not count leaves a count. -/
theorem countWhere_deleteWhere
    (disjoint : ∀ row ∈ table.rows, counts row = true → condition row = false) :
    (table.deleteWhere condition).countWhere counts = table.countWhere counts := by
  simp only [countWhere, deleteWhere, List.countP_filter]
  apply List.countP_congr
  intro row stored
  simp only [Bool.and_eq_true, Bool.not_eq_true', and_iff_left_iff_imp]
  exact disjoint row stored

/-- Deleting all rows that count leaves none. -/
theorem countWhere_deleteWhere_eq_zero
    (covered : ∀ row ∈ table.rows, counts row = true → condition row = true) :
    (table.deleteWhere condition).countWhere counts = 0 := by
  simp only [countWhere, List.countP_eq_zero]
  intro row stored counted
  obtain ⟨present, unselected⟩ := (mem_deleteWhere _ _ _).mp stored
  rw [covered row present counted] at unselected
  cases unselected

/-- A change after which the same rows count leaves a count. -/
theorem countWhere_updateWhere {change : Row → Row} (keeps : ∀ row, key (change row) = key row)
    (same : ∀ row, counts (change row) = counts row) :
    (table.updateWhere condition change keeps).countWhere counts = table.countWhere counts := by
  simp only [countWhere, updateWhere, List.countP_map]
  apply List.countP_congr
  intro row _
  simp only [Function.comp_apply]
  split
  · rw [same]
  · rfl

/-- A new row adds one to a count if it counts. -/
theorem countWhere_insert [DecidableEq Key] (row : Row) (absent : table.find (key row) = none)
    (counts : Row → Bool) :
    (table.insert row absent).countWhere counts = table.countWhere counts + (counts row).toNat := by
  simp only [countWhere, insert, List.countP_append, List.countP_singleton]
  cases counts row <;> rfl

end Counts

end Table

/-- Tables behind a clock, reachable unless an outage reports an error. -/
structure Server (Tables : Type) where
  now : Int
  outage : Option String
  tables : Tables

/-- What the server's surroundings may do between statements. -/
inductive ServerDrift where
  | tick (microseconds : Nat)
  | connectivity (outage : Option String)
deriving DecidableEq

namespace Server

variable {Tables Result : Type}

/-- Time passes or the connection changes; the tables stay. -/
def drift : ServerDrift → Server Tables → Server Tables
  | .tick microseconds, server => { server with now := server.now + microseconds }
  | .connectivity outage, server => { server with outage }

/-- Execute one atomic statement: its error, or the outage's, changes nothing. -/
def execute (body : Int → Tables → Except String (Result × Tables))
    (server : Server Tables) : Except String Result × Server Tables :=
  match server.outage with
  | some error => (.error error, server)
  | none =>
      match body server.now server.tables with
      | .error error => (.error error, server)
      | .ok (result, tables) => (.ok result, { server with tables })

/-- What a server does by itself leaves its tables. -/
@[simp] theorem drift_tables (act : ServerDrift) (server : Server Tables) :
    (drift act server).tables = server.tables := by
  cases act <;> rfl

/-- The clock of a server does not go back. -/
theorem drift_now (act : ServerDrift) (server : Server Tables) :
    server.now ≤ (drift act server).now := by
  cases act with
  | tick microseconds =>
    simp only [drift]
    omega
  | connectivity outage => exact Int.le_refl _

/-- A statement takes no time. -/
@[simp] theorem execute_now (body : Int → Tables → Except String (Result × Tables))
    (server : Server Tables) : (server.execute body).2.now = server.now := by
  unfold execute
  split
  · rfl
  · split <;> rfl

/-- A statement either failed and changed nothing, or the server was reachable
and the statement's own body produced both its reply and the new tables. -/
theorem execute_cases (body : Int → Tables → Except String (Result × Tables))
    (server : Server Tables) :
    (∃ error, server.execute body = (.error error, server)) ∨
      ∃ result tables, server.outage = none ∧
        body server.now server.tables = .ok (result, tables) ∧
        server.execute body = (.ok result, { server with tables }) := by
  unfold execute
  cases server.outage with
  | some error => exact .inl ⟨error, rfl⟩
  | none =>
    cases outcome : body server.now server.tables with
    | error error => exact .inl ⟨error, rfl⟩
    | ok answer => exact .inr ⟨answer.1, answer.2, rfl, rfl, rfl⟩

end Server

end SecureDatabase.Foundation
