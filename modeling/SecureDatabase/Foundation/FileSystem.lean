import Mathlib.Data.List.TakeWhile
import Mathlib.Logic.Function.Basic
import SecureDatabase.Foundation.Text

/-!
# Files, their names and the paths that lead to them

A name refers to a file, and a file that is open for writing keeps being written under
whatever name it has by then. No file has two names. Opening a name for writing empties its
file, or makes one; renaming takes the file of one name to another, whose own file is gone.

Paths are octets. What is the name in a path, its stem and its extension follows the Rust
standard library: separators and `.` components at the end do not count, and `..` is no name.
-/

namespace SecureDatabase.Foundation

/-- Permission bits: read, write and execute for owner, group and others. -/
abbrev Mode := BitVec 9

/-- What a file number stands for: its octets and its permissions. A name is an entry that
leads to a number. -/
structure File where
  content : Bytes
  mode : Mode
deriving DecidableEq

/-- Names with the files that they refer to. -/
structure FileSystem (Name : Type) where
  entries : Name → Option Nat
  files : Nat → File
  fresh : Nat
  used : ∀ name file, entries name = some file → file < fresh
  single : ∀ left right file, entries left = some file → entries right = some file → left = right

namespace FileSystem

variable {Name : Type}

/-- No name refers to anything. -/
def empty : FileSystem Name where
  entries _ := none
  files _ := ⟨[], 0⟩
  fresh := 0
  used _ _ absent := nomatch absent
  single _ _ _ absent := nomatch absent

/-- The file of a name. -/
def read (system : FileSystem Name) (name : Name) : Option File :=
  (system.entries name).map system.files

/-- Change one file. -/
def modify (system : FileSystem Name) (file : Nat) (change : File → File) : FileSystem Name :=
  { system with files := Function.update system.files file (change (system.files file)) }

/-- Octets written at an offset; a gap before it is filled with zeros. -/
def splice (content : Bytes) (offset : Nat) (octets : Bytes) : Bytes :=
  (content ++ List.replicate (offset - content.length) 0).take offset ++ octets ++
    content.drop (offset + octets.length)

/-- Write to an open file. -/
def write (system : FileSystem Name) (file offset : Nat) (octets : Bytes) : FileSystem Name :=
  system.modify file (fun old => { old with content := splice old.content offset octets })

/-- Set the mode of a name's file, if it has one. -/
def setMode (system : FileSystem Name) (name : Name) (mode : Mode) : Option (FileSystem Name) :=
  (system.entries name).map fun file => system.modify file (fun old => { old with mode })

/-- A name refers to the same file with the same content and mode. -/
def Same (system after : FileSystem Name) (name : Name) : Prop :=
  after.entries name = system.entries name ∧ after.read name = system.read name

variable {system after : FileSystem Name} {name other : Name} {file : Nat} {mode : Mode}

/-- Changing a file that a name does not lead to leaves what the name shows as it was. -/
theorem same_of_modify (change : File → File) (unnamed : system.entries name ≠ some file) :
    Same system (system.modify file change) name := by
  refine ⟨rfl, ?_⟩
  simp only [read, modify]
  cases found : system.entries name with
  | none => rfl
  | some current =>
    have differs : current ≠ file := fun same => unnamed (by rw [found, same])
    simp [Function.update_of_ne differs]

/-- Changing the file of one name leaves the other names alone. -/
theorem same_of_ne (change : File → File) (named : system.entries name = some file)
    (differs : other ≠ name) : Same system (system.modify file change) other :=
  same_of_modify change fun shared => differs (system.single other name file shared named)

/-- A name that leads to the changed file shows the changed file. -/
theorem read_modify (change : File → File) (named : system.entries name = some file) :
    (system.modify file change).read name = some (change (system.files file)) := by
  simp [read, modify, named]

/-- What a name shows is the file that its entry leads to. -/
theorem read_of_entry (named : system.entries name = some file) :
    system.read name = some (system.files file) := by
  simp [read, named]

/-- Writing at the end of a file appends. -/
theorem splice_length (content octets : Bytes) :
    splice content content.length octets = content ++ octets := by
  simp [splice]

/-- Permissions are set on the file that the name leads to, which has to exist; its
content stays. -/
theorem setMode_eq_some (changed : system.setMode name mode = some after) :
    ∃ file, system.entries name = some file ∧
      after = system.modify file (fun old => { old with mode }) := by
  obtain ⟨file, found, rfl⟩ := Option.map_eq_some_iff.mp changed
  exact ⟨file, found, rfl⟩

variable [DecidableEq Name]

/-- A new file under a name that has none. -/
def create (system : FileSystem Name) (name : Name) (mode : Mode)
    (absent : system.entries name = none) : FileSystem Name where
  entries := Function.update system.entries name (some system.fresh)
  files := Function.update system.files system.fresh ⟨[], mode⟩
  fresh := system.fresh + 1
  used other file found := by
    by_cases same : other = name
    · subst same
      simp only [Function.update_self, Option.some.injEq] at found
      omega
    · rw [Function.update_of_ne same] at found
      have := system.used other file found
      omega
  single left right file leftFound rightFound := by
    have old {other : Name} (differs : other ≠ name)
        (found : Function.update system.entries name (some system.fresh) other = some file) :
        system.entries other = some file := by
      rwa [Function.update_of_ne differs] at found
    by_cases leftSame : left = name <;> by_cases rightSame : right = name
    · rw [leftSame, rightSame]
    · have := system.used right file (old rightSame rightFound)
      rw [leftSame, Function.update_self, Option.some.injEq] at leftFound
      omega
    · have := system.used left file (old leftSame leftFound)
      rw [rightSame, Function.update_self, Option.some.injEq] at rightFound
      omega
    · exact system.single left right file (old leftSame leftFound) (old rightSame rightFound)

/-- Open for writing from the start: the file is emptied and keeps its mode, or made with a
given mode. -/
def openTruncate (system : FileSystem Name) (name : Name) (mode : Mode) :
    Nat × FileSystem Name :=
  match found : system.entries name with
  | some file => (file, system.modify file (fun old => { old with content := [] }))
  | none => (system.fresh, system.create name mode found)

/-- Take the file of a name, if it has one, to another name. -/
def rename (system : FileSystem Name) (source target : Name) : Option (FileSystem Name) :=
  match found : system.entries source with
  | none => none
  | some file =>
      if source = target then some system
      else some { system with
        entries := Function.update (Function.update system.entries target (some file)) source none
        used := by
          intro name other entry
          by_cases isSource : name = source
          · simp [isSource] at entry
          · rw [Function.update_of_ne isSource] at entry
            by_cases isTarget : name = target
            · rw [isTarget, Function.update_self] at entry
              cases entry
              exact system.used source file found
            · rw [Function.update_of_ne isTarget] at entry
              exact system.used name other entry
        single := by
          -- the file leaves its name before another can share it
          have origin {name : Name} {other : Nat}
              (entry : Function.update (Function.update system.entries target (some file)) source
                none name = some other) :
              name = target ∧ other = file ∨ name ≠ source ∧ system.entries name = some other := by
            by_cases isSource : name = source
            · simp [isSource] at entry
            · rw [Function.update_of_ne isSource] at entry
              by_cases isTarget : name = target
              · rw [isTarget, Function.update_self] at entry
                exact .inl ⟨isTarget, (Option.some.inj entry).symm⟩
              · rw [Function.update_of_ne isTarget] at entry
                exact .inr ⟨isSource, entry⟩
          intro left right other leftEntry rightEntry
          obtain ⟨leftTarget, leftFile⟩ | ⟨leftOther, leftOld⟩ := origin leftEntry
          · obtain ⟨rightTarget, -⟩ | ⟨rightOther, rightOld⟩ := origin rightEntry
            · rw [leftTarget, rightTarget]
            · rw [leftFile] at rightOld
              exact absurd (system.single right source file rightOld found) rightOther
          · obtain ⟨-, rightFile⟩ | ⟨-, rightOld⟩ := origin rightEntry
            · rw [rightFile] at leftOld
              exact absurd (system.single left source file leftOld found) leftOther
            · exact system.single left right other leftOld rightOld }

/-- An opened name refers to the opened file, which is empty and has the mode that it had, or the
given one if it is new. -/
theorem openTruncate_self (system : FileSystem Name) (name : Name) (mode : Mode) :
    (system.openTruncate name mode).2.entries name = some (system.openTruncate name mode).1 ∧
      (system.openTruncate name mode).2.read name =
        some ⟨[], ((system.read name).map File.mode).getD mode⟩ := by
  unfold openTruncate
  split
  · rename_i file found
    exact ⟨found, by rw [read_modify _ found, read_of_entry found]; rfl⟩
  · rename_i absent
    simp [create, read, absent]

/-- Opening a name leaves the others alone. -/
theorem openTruncate_same (system : FileSystem Name) (mode : Mode) (differs : other ≠ name) :
    Same system (system.openTruncate name mode).2 other := by
  unfold openTruncate
  split
  · rename_i file found
    exact same_of_ne _ found differs
  · rename_i absent
    have entry : (system.create name mode absent).entries other = system.entries other :=
      Function.update_of_ne differs _ _
    refine ⟨entry, ?_⟩
    rw [read, entry, read]
    cases found : system.entries other with
    | none => rfl
    | some current =>
      have old : current ≠ system.fresh := Nat.ne_of_lt (system.used other current found)
      simp [create, Function.update_of_ne old]

/-- A name with a file can be renamed. -/
theorem exists_rename (target : Name) (named : system.entries name = some file) :
    ∃ after, system.rename name target = some after := by
  unfold rename
  split
  · rename_i absent
    rw [named] at absent
    cases absent
  · split
    · exact ⟨_, rfl⟩
    · exact ⟨_, rfl⟩

/-- The file of a renamed name is found under the other name, and no longer under its own. -/
theorem rename_eq_some {source target : Name} (differs : source ≠ target)
    (renamed : system.rename source target = some after) :
    after.entries source = none ∧ after.entries target = system.entries source ∧
      after.read target = system.read source ∧
      ∀ name, name ≠ source → name ≠ target → Same system after name := by
  unfold rename at renamed
  split at renamed
  · cases renamed
  · rename_i file found
    rw [if_neg differs] at renamed
    cases renamed
    refine ⟨by simp, by simp [differs.symm, found], by simp [read, differs.symm, found], ?_⟩
    intro name notSource notTarget
    simp [Same, read, notSource, notTarget]

end FileSystem

namespace Path

/-- The separator `/`. -/
def separator : UInt8 := 47

/-- The octet `.`. -/
def dot : UInt8 := 46

/-- Without the separators and `.` components at the end of a path, which is given from its end
to its start. A `.` that begins the path stays. -/
def dropTrailing : Bytes → Bytes
  | [] => []
  | first :: rest =>
      if first = separator then dropTrailing rest
      else
        match rest with
        | [] => [first]
        | second :: more =>
            if first = dot ∧ second = separator then dropTrailing more else first :: second :: more

/-- What stands before the last name of a path, and the name; `Path::file_name`. -/
def splitName (path : Bytes) : Option (Bytes × Bytes) :=
  let kept := dropTrailing path.reverse
  let name := (kept.takeWhile (fun octet => octet ≠ separator)).reverse
  if name = [] ∨ name = [dot] ∨ name = [dot, dot] then none
  else some ((kept.dropWhile (fun octet => octet ≠ separator)).reverse, name)

/-- A name at its last dot, unless that is its first octet: stem and extension. -/
def splitDot (name : Bytes) : Bytes × Option Bytes :=
  let reversed := name.reverse
  let stem := ((reversed.dropWhile (fun octet => octet ≠ dot)).drop 1).reverse
  if stem = [] then (name, none)
  else (stem, some (reversed.takeWhile (fun octet => octet ≠ dot)).reverse)

/-- `PathBuf::set_extension` for an extension that is not empty. -/
def setExtension (path extension : Bytes) : Bytes :=
  match splitName path with
  | none => path
  | some (before, name) => before ++ (splitDot name).1 ++ dot :: extension

/-- `Path::with_extension`: the octets of the old extension are taken off the end of the path,
whatever follows it there, before the new one is set. -/
def withExtension (path extension : Bytes) : Bytes :=
  match (splitName path).bind (fun parts => (splitDot parts.2).2) with
  | none => setExtension path extension
  | some previous => setExtension (path.take (path.length - previous.length)) extension

/-- `Path::parent`. -/
def parent (path : Bytes) : Option Bytes :=
  let kept := dropTrailing path.reverse
  if kept = [] then none
  else
    let before := kept.dropWhile (fun octet => octet ≠ separator)
    if before = [] then some []
    else if dropTrailing before = [] then some [separator]
    else some (dropTrailing before).reverse

section Plain

variable {name extension old : Bytes}

/-- A path without separators has none to drop at its end. -/
theorem dropTrailing_of_not_mem {reversed : Bytes} (plain : separator ∉ reversed) :
    dropTrailing reversed = reversed := by
  unfold dropTrailing
  split
  · rfl
  · rename_i first rest
    rw [List.mem_cons, not_or] at plain
    rw [if_neg (Ne.symm plain.1)]
    split
    · rfl
    · rename_i second more
      have differs : second ≠ separator := fun same => plain.2 (by simp [same])
      rw [if_neg (fun both => differs both.2)]

/-- The part before an octet that does not occur is the whole. -/
theorem takeWhile_of_not_mem {octet : UInt8} {octets : Bytes} (absent : octet ∉ octets) :
    octets.takeWhile (fun other => other ≠ octet) = octets := by
  rw [List.takeWhile_eq_self_iff]
  intro other member
  have differs : other ≠ octet := fun same => absent (same ▸ member)
  simpa using differs

/-- Nothing is left after the part before an octet that does not occur. -/
theorem dropWhile_of_not_mem {octet : UInt8} {octets : Bytes} (absent : octet ∉ octets) :
    octets.dropWhile (fun other => other ≠ octet) = [] := by
  rw [List.dropWhile_eq_nil_iff]
  intro other member
  have differs : other ≠ octet := fun same => absent (same ▸ member)
  simpa using differs

/-- A path without separators is a name. -/
theorem splitName_of_not_mem (plain : separator ∉ name) (nonempty : name ≠ [])
    (notDot : name ≠ [dot]) (notDots : name ≠ [dot, dot]) : splitName name = some ([], name) := by
  have reversed : separator ∉ name.reverse := by simpa using plain
  simp only [splitName, dropTrailing_of_not_mem reversed, takeWhile_of_not_mem reversed,
    dropWhile_of_not_mem reversed, List.reverse_reverse, List.reverse_nil]
  rw [if_neg (by simp [nonempty, notDot, notDots])]

/-- A name without a dot has no extension. -/
theorem splitDot_of_not_mem (dotless : dot ∉ name) : splitDot name = (name, none) := by
  have reversed : dot ∉ name.reverse := by simpa using dotless
  simp only [splitDot, dropWhile_of_not_mem reversed, List.drop_nil, List.reverse_nil, if_pos]

/-- A name without separators and dots gets the extension appended. -/
theorem withExtension_of_not_mem (plain : separator ∉ name) (dotless : dot ∉ name)
    (nonempty : name ≠ []) : withExtension name extension = name ++ dot :: extension := by
  have named := splitName_of_not_mem plain nonempty (fun same => dotless (by simp [same]))
    (fun same => dotless (by simp [same]))
  simp [withExtension, setExtension, named, splitDot_of_not_mem dotless]

end Plain

end Path

end SecureDatabase.Foundation
