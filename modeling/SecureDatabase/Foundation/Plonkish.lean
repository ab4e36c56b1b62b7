import Mathlib.Algebra.Ring.Basic
import Mathlib.Data.List.GetD

/-!
# Circuits over a table of rows

A circuit is configured as columns and gates, and synthesized as cells and copies between
them. A gate is a list of polynomials over the cells around a row and has to vanish on every
row of the table, since no polynomial here is switched off by a selector. Advice cells come
from the prover and instance cells from the public inputs.

The table of an honest prover has three parts: the rows that synthesis assigns, the rows
below them that stay zero, and last the rows that are filled with random values to hide the
others. A circuit that assigns one row only is judged on one row of each part.
-/

namespace SecureDatabase.Foundation.Plonkish

/-- A column of the table. -/
inductive Column where
  | advice (index : Nat)
  | instances (index : Nat)
deriving DecidableEq

/-- A place in the table. -/
abbrev Cell := Column × Nat

/-- A polynomial over the cells around a row. -/
inductive Expression (F : Type) where
  | constant (value : F)
  | query (column : Column) (rotation : Int)
  | negated (operand : Expression F)
  | sum (left right : Expression F)
  | product (left right : Expression F)

namespace Expression

variable {F : Type}

/-- A minus sign in a gate is the negation of an expression. -/
instance : Neg (Expression F) := ⟨negated⟩

/-- A sum in a gate is the sum of expressions. -/
instance : Add (Expression F) := ⟨sum⟩

/-- A difference is the sum with the negated right side, as the proof system builds it. -/
instance : Sub (Expression F) := ⟨fun left right => sum left (negated right)⟩

/-- A product in a gate is the product of expressions. -/
instance : Mul (Expression F) := ⟨product⟩

end Expression

/-- Polynomials that have to vanish together. -/
structure Gate (F : Type) where
  name : String
  polys : List (Expression F)

/-- What configuration determines. -/
structure ConstraintSystem (F : Type) where
  numAdviceColumns : Nat := 0
  numInstanceColumns : Nat := 0
  equalityColumns : List Column := []
  gates : List (Gate F) := []

/-- A configuration in progress. -/
abbrev Configure (F α : Type) := StateM (ConstraintSystem F) α

section Configuring

variable {F : Type}

/-- Add a column of private cells to the circuit. -/
def adviceColumn : Configure F Column := fun system =>
  (.advice system.numAdviceColumns, { system with numAdviceColumns := system.numAdviceColumns + 1 })

/-- Add a column of public cells to the circuit. -/
def instanceColumn : Configure F Column := fun system =>
  (.instances system.numInstanceColumns,
    { system with numInstanceColumns := system.numInstanceColumns + 1 })

/-- Let the cells of a column take part in copy constraints. -/
def enableEquality (column : Column) : Configure F Unit :=
  modify fun system => { system with equalityColumns := system.equalityColumns ++ [column] }

/-- Add a named gate: each of its polynomials has to vanish on every row. -/
def createGate (name : String) (polys : List (Expression F)) : Configure F Unit :=
  modify fun system => { system with gates := system.gates ++ [⟨name, polys⟩] }

/-- The cell of a column in the row at hand, `Rotation::cur`. -/
def queryCur (column : Column) : Expression F := .query column 0

end Configuring

/-- What synthesis lays out: the first free row of each column in use, the assigned cells,
the latest first, and the copies. -/
structure Layout (F : Type) where
  columns : List (Column × Nat) := []
  cells : List (Cell × F) := []
  copies : List (Cell × Cell) := []

/-- A synthesis in progress. -/
abbrev Synthesis (F α : Type) := StateM (Layout F) α

section Synthesizing

variable {F : Type}

/-- Lay out a region of columns, offsets and values at the first row that is free in all of
its columns, and return that row. -/
def assignRegion (region : List (Column × Nat × F)) : Synthesis F Nat := fun layout =>
  let start := (region.map fun assigned => (layout.columns.lookup assigned.1).getD 0).foldr max 0
  let rowCount := (region.map fun assigned => assigned.2.1 + 1).foldr max 0
  (start, { layout with
    columns := region.map (fun assigned => (assigned.1, start + rowCount)) ++ layout.columns
    cells := region.reverse.map (fun assigned =>
      ((assigned.1, start + assigned.2.1), assigned.2.2)) ++ layout.cells })

/-- Copy a cell from a row of an instance column. -/
def constrainInstance (cell : Cell) (column : Column) (row : Nat) : Synthesis F Unit :=
  modify fun layout => { layout with copies := layout.copies ++ [(cell, (column, row))] }

end Synthesizing

/-- The values of all cells. -/
abbrev Table (F : Type) := Column → Nat → F

section Satisfaction

variable {F : Type} [CommRing F]

/-- The value of a polynomial at a row; rotations wrap around the table. -/
def Expression.eval (rows : Nat) (table : Table F) (row : Nat) : Expression F → F
  | constant value => value
  | query column rotation => table column (((row : Int) + rotation) % (rows : Int)).toNat
  | negated operand => -operand.eval rows table row
  | sum left right => left.eval rows table row + right.eval rows table row
  | product left right => left.eval rows table row * right.eval rows table row

section Eval

variable (rows : Nat) (table : Table F) (row : Nat) (left right : Expression F)

/-- Evaluating commutes with negation. -/
@[simp] theorem Expression.eval_neg :
    (-left).eval rows table row = -left.eval rows table row := rfl

/-- Evaluating commutes with sums. -/
@[simp] theorem Expression.eval_add :
    (left + right).eval rows table row = left.eval rows table row + right.eval rows table row :=
  rfl

/-- Evaluating commutes with differences, although they are built from negations. -/
@[simp] theorem Expression.eval_sub :
    (left - right).eval rows table row = left.eval rows table row - right.eval rows table row :=
  (sub_eq_add_neg _ _).symm

/-- Evaluating commutes with products. -/
@[simp] theorem Expression.eval_mul :
    (left * right).eval rows table row = left.eval rows table row * right.eval rows table row :=
  rfl

/-- A query without a rotation is the cell of the row itself. -/
@[simp] theorem Expression.eval_queryCur (column : Column) (inside : row < rows) :
    (queryCur column).eval rows table row = table column row := by
  have wrapped : (((row : Int) + 0) % (rows : Int)).toNat = row := by
    rw [Int.add_zero, Int.emod_eq_of_lt (Int.natCast_nonneg row) (Int.ofNat_lt.mpr inside)]
    exact Int.toNat_natCast row
  exact congrArg (table column) wrapped

end Eval

/-- Every polynomial vanishes at a row. -/
def GatesHold (system : ConstraintSystem F) (rows : Nat) (table : Table F) (row : Nat) : Prop :=
  ∀ gate ∈ system.gates, ∀ poly ∈ gate.polys, poly.eval rows table row = 0

/-- A copy is between columns that it is enabled for, and their cells agree. -/
def CopyHolds (system : ConstraintSystem F) (table : Table F) (copied : Cell × Cell) : Prop :=
  copied.1.1 ∈ system.equalityColumns ∧ copied.2.1 ∈ system.equalityColumns ∧
    table copied.1.1 copied.1.2 = table copied.2.1 copied.2.2

/-- A table satisfies every gate on every row, and every copy. -/
structure Satisfies (system : ConstraintSystem F) (copies : List (Cell × Cell)) (rows : Nat)
    (table : Table F) : Prop where
  gates : ∀ row < rows, GatesHold system rows table row
  copies : ∀ copied ∈ copies, CopyHolds system table copied

/-- The table of an honest prover: the laid out cells, zero in the rest of the usable rows,
and blinding values from there on. Instance cells that are not given are zero. -/
def proverTable (usable : Nat) (layout : Layout F) (instances : List (List F))
    (blinding : Nat → Nat → F) : Table F
  | .advice index, row =>
      if row < usable then (layout.cells.lookup (.advice index, row)).getD 0
      else blinding index row
  | .instances index, row => (instances.getD index []).getD row 0

/-- The rows of a table by their part. -/
theorem forall_rows_iff {rows usable : Nat} (holds : Nat → Prop) (first : 0 < usable)
    (within : usable ≤ rows) :
    (∀ row < rows, holds row) ↔
      holds 0 ∧ (∀ row, 0 < row → row < usable → holds row) ∧
        ∀ row, usable ≤ row → row < rows → holds row := by
  constructor
  · intro all
    exact ⟨all 0 (by omega), fun row _ inside => all row (by omega), fun row _ => all row⟩
  · rintro ⟨assigned, padding, blinded⟩ row inside
    by_cases blind : usable ≤ row
    · exact blinded row blind inside
    · by_cases top : row = 0
      · exact top ▸ assigned
      · exact padding row (by omega) (by omega)

section Parts

variable {usable : Nat} {layout : Layout F} {instances : List (List F)}
  {blinding : Nat → Nat → F} {row : Nat}

/-- Only the top row is laid out or given. -/
structure TopRowOnly (layout : Layout F) (instances : List (List F)) : Prop where
  cells : ∀ assigned ∈ layout.cells, assigned.1.2 = 0
  instances : ∀ column ∈ instances, column.length ≤ 1

/-- The top row has the values that are laid out there. -/
theorem proverTable_top (first : 0 < usable) {index : Nat} {value : F}
    (assigned : layout.cells.lookup (.advice index, 0) = some value) :
    proverTable usable layout instances blinding (.advice index) 0 = value := by
  simp [proverTable, first, assigned]

/-- Below the top row, every instance cell is zero. -/
theorem proverTable_instances (top : TopRowOnly layout instances) (index : Nat)
    (below : 0 < row) :
    proverTable usable layout instances blinding (.instances index) row = 0 := by
  have short : (instances.getD index []).length ≤ 1 := by
    by_cases known : index < instances.length
    · rw [List.getD_eq_getElem _ _ known]
      exact top.instances _ (List.getElem_mem known)
    · rw [List.getD_eq_default _ _ (by omega)]
      exact Nat.zero_le 1
  exact List.getD_eq_default _ _ (by omega)

/-- Between the top row and the blinding rows, every advice cell is zero. -/
theorem proverTable_padding (top : TopRowOnly layout instances) (index : Nat) (below : 0 < row)
    (inside : row < usable) :
    proverTable usable layout instances blinding (.advice index) row = 0 := by
  have absent : layout.cells.lookup (.advice index, row) = none := by
    rw [List.lookup_eq_none_iff]
    intro assigned member
    have zero := top.cells assigned member
    rw [bne_iff_ne]
    rintro same
    rw [← same] at zero
    exact absurd zero (by omega)
  simp [proverTable, inside, absent]

/-- In the rows that are not usable an advice column holds its blinding values. -/
theorem proverTable_blinding (index : Nat) (blind : usable ≤ row) :
    proverTable usable layout instances blinding (.advice index) row = blinding index row :=
  if_neg (by omega)

end Parts

end Satisfaction

end SecureDatabase.Foundation.Plonkish
