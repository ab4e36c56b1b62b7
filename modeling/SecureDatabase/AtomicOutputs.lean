import SecureDatabase.SealedConfig

/-!
# Outputs are replaced as a whole

What a process has done to its temporary file is read off its own system calls: the octets it
wrote and whether it has protected them. As long as no two processes have one temporary file and
none has another's output for it, the temporary file holds just that, in every schedule. An
output is therefore what it was, or the complete reply of one process, for its owner only.
-/

namespace SecureDatabase.SealedConfig

open Foundation Program

variable {Name σ : Type}

/-- What a successful system call did to the files. -/
inductive Act where
  | opened (path : Bytes) (mode : Mode) (file : Nat)
  | wrote (file offset : Nat) (octets : Bytes)
  | moded (path : Bytes) (mode : Mode)
  | renamed (source target : Bytes)
deriving DecidableEq

/-- What a statement with its reply shows to be done. -/
def act : Exchange Reply → Option Act
  | ⟨.openTruncate path mode, Except.ok file⟩ => some (.opened path mode file)
  | ⟨.write file offset octets, Except.ok count⟩ => some (.wrote file offset (octets.take count))
  | ⟨.setPermissions path mode, Except.ok _⟩ => some (.moded path mode)
  | ⟨.rename source target, Except.ok _⟩ => some (.renamed source target)
  | _ => none

/-- Each act comes from its own statement, answered without an error. -/
theorem act_eq_some {exchange : Exchange Reply} {done : Act}
    (shown : act exchange = some done) :
    match done with
    | .opened path mode file => exchange = ⟨.openTruncate path mode, Except.ok file⟩
    | .wrote file offset octets => ∃ submitted count,
        exchange = ⟨.write file offset submitted, Except.ok count⟩ ∧ octets = submitted.take count
    | .moded path mode => exchange = ⟨.setPermissions path mode, Except.ok ()⟩
    | .renamed source target => exchange = ⟨.rename source target, Except.ok ()⟩ := by
  unfold act at shown
  split at shown
  · cases shown
    rfl
  · cases shown
    exact ⟨_, _, rfl, rfl⟩
  · cases shown
    rfl
  · cases shown
    rfl
  · cases shown

/-- The temporary file that a process is writing. -/
structure Held where
  file : Nat
  written : Bytes
  isProtected : Bool

/-- What becomes of the temporary file with a system call. -/
def advance : Option Act → Option Held → Option Held
  | some (.opened _ _ file), _ => some ⟨file, [], false⟩
  | some (.wrote _ _ octets), held => held.map fun held =>
      { held with written := held.written ++ octets }
  | some (.moded _ _), held => held.map fun held => { held with isProtected := true }
  | some (.renamed _ _), _ => none
  | none, held => held

/-- The temporary file after the exchanges of a process. -/
def held (past : List (Exchange Reply)) : Option Held :=
  past.foldr (fun exchange => advance (act exchange)) none

/-- What a process holds after an exchange follows from what it held before and from what
the exchange did. -/
@[simp] theorem held_cons (exchange : Exchange Reply)
    (past : List (Exchange Reply)) :
    held (exchange :: past) = advance (act exchange) (held past) := rfl

/-- Whether a process has opened its temporary file. -/
def Opened (past : List (Exchange Reply)) : Prop :=
  ∃ exchange ∈ past, ∃ path mode file, act exchange = some (.opened path mode file)

/-- Whether a process has renamed its temporary file. -/
def Renamed (past : List (Exchange Reply)) : Prop :=
  ∃ exchange ∈ past, ∃ source target, act exchange = some (.renamed source target)

section Rules

variable (externals : Externals Name σ) (debug : DebugText) (process : Process)

/-- A content is what a process has to save: the document of the broker's reply to its request to
wrap its plaintext, serialised, with a line end. -/
def Saves (past : List (Exchange Reply)) (content : Bytes) : Prop :=
  ∃ plaintext lifecycle response text, process.plaintext debug = .ok plaintext ∧
    parseWrapLifecycle process.lifecycle = .ok lifecycle ∧
    (⟨.wrapSecretV2 (utf8 plaintext) (process.wrapParams lifecycle), Except.ok response⟩ :
      Exchange Reply) ∈ past ∧
    externals.toStringPretty (payload externals response) = .ok text ∧ content = utf8 (text ++ "\n")

/-- What a process may ask for: it opens its temporary file once, writes it from its start to
its end, protects it when it is complete and renames it when it is protected. -/
def Allowed (past : List (Exchange Reply)) : Statement → Prop
  | .openTruncate path mode =>
      path = process.tmpPath ∧ mode = process.creationMode ∧ ¬ Opened past ∧
        ∃ content, Saves externals debug process past content
  | .write file offset octets => ∃ written, held past = some ⟨file, written, false⟩ ∧
      offset = written.length ∧ Saves externals debug process past (written ++ octets)
  | .setPermissions path mode => path = process.tmpPath ∧ mode = protectedMode ∧
      ∃ file content, held past = some ⟨file, content, false⟩ ∧
        Saves externals debug process past content
  | .rename source target => source = process.tmpPath ∧ target = process.outputPath ∧
      ∃ file content, held past = some ⟨file, content, true⟩ ∧
        Saves externals debug process past content
  | _ => True

/-- A process that ends without an error has renamed its temporary file. -/
def Concludes (past : List (Exchange Reply)) (result : Except (List String) Unit) :
    Prop :=
  result = .ok () → Renamed past

end Rules

section Following

variable {externals : Externals Name σ} {debug : DebugText} {process : Process}
  {past : List (Exchange Reply)}

/-- What a process has to save it still has to save after any further exchange. -/
theorem Saves.cons {content : Bytes} (saves : Saves externals debug process past content)
    (exchange : Exchange Reply) :
    Saves externals debug process (exchange :: past) content := by
  obtain ⟨plaintext, lifecycle, response, text, found, parsed, wrapped, rest⟩ := saves
  exact ⟨plaintext, lifecycle, response, text, found, parsed, List.mem_cons_of_mem _ wrapped, rest⟩

/-- A reply with an error ends the process. -/
theorem follows_withContext {α β : Type} {context : String} {reply : Except String α}
    {next : α → Operation β}
    {returns : List (Exchange Reply) → Except (List String) β → Prop}
    (fails : ∀ errors, returns past (.error errors))
    (continues : ∀ answer, reply = .ok answer →
      (next answer).Follows (Allowed externals debug process) returns past) :
    (withContext context reply >>= next).Follows (Allowed externals debug process) returns past := by
  cases reply with
  | error error => exact fails _
  | ok answer => exact continues answer rfl

/-- A process that fails promises nothing about its output. -/
theorem concludes_error (errors : List String) : Concludes past (.error errors) :=
  fun impossible => nomatch impossible

/-- Written to its end, the temporary file holds the whole content. -/
theorem writeAll_follows (context : String) (file : Nat) (fuel offset : Nat) (octets written : Bytes)
    (enough : octets.length ≤ fuel) (position : octets ≠ [] → offset = written.length)
    (holding : held past = some ⟨file, written, false⟩)
    (saves : Saves externals debug process past (written ++ octets)) :
    (writeAll context file fuel offset octets).Follows (Allowed externals debug process)
      (fun later result => result = .ok () → ∃ content, held later = some ⟨file, content, false⟩ ∧
        Saves externals debug process later content) past := by
  induction fuel generalizing offset octets written past with
  | zero =>
    obtain rfl := List.eq_nil_of_length_eq_zero (Nat.le_zero.mp enough)
    rw [List.append_nil] at saves
    exact fun _ => ⟨written, holding, saves⟩
  | succ fuel inductionHypothesis =>
    cases octets with
    | nil =>
      rw [List.append_nil] at saves
      exact fun _ => ⟨written, holding, saves⟩
    | cons first rest =>
      refine ⟨⟨written, holding, position (List.cons_ne_nil _ _), saves⟩, fun reply => ?_⟩
      refine follows_withContext (fun errors impossible => nomatch impossible) ?_
      rintro count rfl
      split
      · exact fun impossible => nomatch impossible
      · rename_i some
        -- the octets that the write took now belong to the file
        apply inductionHypothesis (offset + count) _ (written ++ (first :: rest).take count)
        · simp only [List.length_drop, List.length_cons] at enough ⊢
          omega
        · intro remains
          have short : count < (first :: rest).length := by
            by_contra long
            exact remains (List.drop_eq_nil_of_le (Nat.le_of_not_lt long))
          rw [position (List.cons_ne_nil _ _), List.length_append,
            List.length_take_of_le (Nat.le_of_lt short)]
        · rw [held_cons, holding]
          rfl
        · rw [List.append_assoc, List.take_append_drop]
          exact saves.cons _

/-- Publishing follows the rule from where the content is known. -/
theorem publish_follows {content : Bytes} (unopened : ¬ Opened past)
    (saves : Saves externals debug process past content) :
    (publish externals process content).Follows (Allowed externals debug process) Concludes past := by
  refine ⟨⟨rfl, rfl, unopened, content, saves⟩, fun reply => ?_⟩
  refine follows_withContext concludes_error ?_
  rintro file rfl
  refine Follows.bind (fun later _ => ∃ content, held later = some ⟨file, content, false⟩ ∧
    Saves externals debug process later content) ?_ ?_
  · refine (writeAll_follows _ file content.length 0 content [] (Nat.le_refl _) (fun _ => rfl) rfl
      (saves.cons _)).weaken ?_
    rintro later (errors | result) written
    · exact concludes_error errors
    · exact written rfl
  · rintro later - ⟨written, holding, saved⟩
    refine ⟨⟨rfl, rfl, file, written, holding, saved⟩, fun reply => ?_⟩
    refine follows_withContext concludes_error ?_
    rintro answer rfl
    refine ⟨⟨rfl, rfl, file, written, by rw [held_cons, holding]; rfl, saved.cons _⟩, fun reply => ?_⟩
    cases reply with
    | error error => exact concludes_error _
    | ok answer => exact fun _ => ⟨_, List.mem_cons_self, _, _, rfl⟩

/-- Every process follows its rule, whatever replies it receives. -/
theorem wrapSecretV2ToFile_follows (externals : Externals Name σ) (debug : DebugText)
    (process : Process) :
    (wrapSecretV2ToFile externals process debug).Follows (Allowed externals debug process) Concludes
      [] := by
  unfold wrapSecretV2ToFile
  cases found : process.plaintext debug with
  | error errors => exact concludes_error errors
  | ok plaintext =>
    cases parsed : parseWrapLifecycle process.lifecycle with
    | error errors => exact concludes_error errors
    | ok lifecycle =>
      refine ⟨trivial, fun reply => follows_withContext concludes_error ?_⟩
      rintro connected rfl
      refine ⟨trivial, fun reply => follows_withContext concludes_error ?_⟩
      rintro wrapped rfl
      refine ⟨trivial, fun reply => follows_withContext concludes_error ?_⟩
      rintro made rfl
      refine follows_withContext concludes_error fun text serialized => ?_
      apply publish_follows
      · rintro ⟨exchange, member, path, mode, file, shown⟩
        simp only [List.mem_cons, List.not_mem_nil, or_false] at member
        obtain rfl | rfl | rfl := member <;> cases shown
      · exact ⟨plaintext, lifecycle, wrapped, text, found, parsed, by simp, serialized, rfl⟩

end Following

section Execution

variable [DecidableEq Name] (externals : Externals Name σ)

/-- What one system call can do to the files. -/
inductive FileChange (files : FileSystem Name) : Option Act → FileSystem Name → Prop where
  | kept : FileChange files none files
  | opened (path : Bytes) (mode : Mode) :
      FileChange files
        (some (.opened path mode (files.openTruncate (externals.locate path) mode).1))
        (files.openTruncate (externals.locate path) mode).2
  | wrote (file offset : Nat) (octets : Bytes) :
      FileChange files (some (.wrote file offset octets)) (files.write file offset octets)
  | moded (path : Bytes) (mode : Mode) (file : Nat)
      (named : files.entries (externals.locate path) = some file) :
      FileChange files (some (.moded path mode))
        (files.modify file (fun old => { old with mode }))
  | renamed (source target : Bytes) (after : FileSystem Name)
      (done : files.rename (externals.locate source) (externals.locate target) = some after) :
      FileChange files (some (.renamed source target)) after

/-- A system call that failed kept the files; one that is done left those of its body. -/
theorem World.system_change {Answer : Type}
    (body : FileSystem Name → Except String (Answer × FileSystem Name)) (world : World Name σ)
    (shown : Except String Answer → Option Act) (failed : ∀ error, shown (.error error) = none)
    (done : ∀ answer files, body world.files = .ok (answer, files) →
      FileChange externals world.files (shown (.ok answer)) files) :
    FileChange externals world.files (shown (world.system body).1) (world.system body).2.files := by
  unfold World.system
  split
  · rw [failed]
    exact .kept
  · split
    · rw [failed]
      exact .kept
    · rename_i answer files computed
      exact done answer files computed

/-- Every statement changes the files in one of these ways. -/
theorem exec_fileChange (stmt : Statement) (world : World Name σ) :
    FileChange externals world.files (act ⟨stmt, (exec externals stmt world).1⟩)
      (exec externals stmt world).2.files := by
  cases stmt with
  | fromEnv => exact .kept
  | wrapSecretV2 plaintext params => exact .kept
  | createDirAll path =>
    refine World.system_change externals _ world (fun _ => none) (fun _ => rfl) ?_
    rintro answer files ⟨⟩
    exact .kept
  | openTruncate path mode =>
    refine World.system_change externals _ world (fun reply => act ⟨.openTruncate path mode, reply⟩)
      (fun _ => rfl) fun file files opened => ?_
    obtain ⟨rfl, rfl⟩ := Prod.mk.inj (Except.ok.inj opened)
    exact .opened path mode
  | write file offset octets =>
    refine World.system_change externals _ world (fun reply => act ⟨.write file offset octets, reply⟩)
      (fun _ => rfl) ?_
    rintro count files ⟨⟩
    have taken : octets.take world.limit = octets.take (min world.limit octets.length) := by
      rw [List.take_eq_take_iff]
      omega
    rw [taken]
    exact .wrote file offset _
  | setPermissions path mode =>
    refine World.system_change externals _ world
      (fun reply => act ⟨.setPermissions path mode, reply⟩) (fun _ => rfl) fun answer files done => ?_
    cases changed : world.files.setMode (externals.locate path) mode with
    | none =>
      rw [changed] at done
      cases done
    | some after =>
      rw [changed] at done
      cases done
      obtain ⟨file, named, rfl⟩ := FileSystem.setMode_eq_some changed
      exact .moded path mode file named
  | rename source target =>
    refine World.system_change externals _ world (fun reply => act ⟨.rename source target, reply⟩)
      (fun _ => rfl) fun answer files done => ?_
    cases renamed : world.files.rename (externals.locate source) (externals.locate target) with
    | none =>
      rw [renamed] at done
      cases done
    | some after =>
      rw [renamed] at done
      cases done
      exact .renamed source target files renamed

end Execution

section Runs

variable (externals : Externals Name σ) (debug : DebugText) (processes : Nat → Process)

/-- The name of a process's temporary file. -/
def temporary (index : Nat) : Name := externals.locate (processes index).tmpPath

/-- The name of a process's output. -/
def output (index : Nat) : Name := externals.locate (processes index).outputPath

/-- No two processes have one temporary file, and none is an output. -/
structure Apart : Prop where
  temporaries : ∀ left right, left ≠ right →
    temporary externals processes left ≠ temporary externals processes right
  outputs : ∀ left right, temporary externals processes left ≠ output externals processes right

/-- The mode with which a temporary file is written: its own, if it was there before. -/
def writingMode (initial : FileSystem Name) (index : Nat) : Mode :=
  ((initial.read (temporary externals processes index)).map File.mode).getD
    (processes index).creationMode

/-- A run of processes. -/
abbrev WrapRun (Name σ : Type) :=
  Run (World Name σ) Statement Reply (List String) Unit

/-- What a temporary file holds after the exchanges of its process: what it held at first, what
the process has written so far, or nothing any more. -/
structure Temporary (initial files : FileSystem Name) (index : Nat)
    (past : List (Exchange Reply)) : Prop where
  untouched : ¬ Opened past →
    files.read (temporary externals processes index) =
      initial.read (temporary externals processes index)
  holding : ∀ current, held past = some current →
    files.entries (temporary externals processes index) = some current.file ∧
      files.read (temporary externals processes index) =
        some ⟨current.written, if current.isProtected then protectedMode
          else writingMode externals processes initial index⟩ ∧
      ∃ rest, Saves externals debug (processes index) past (current.written ++ rest)
  cleared : Opened past → held past = none →
    files.read (temporary externals processes index) = none

/-- Where the files stand in a run: temporary files hold what their processes have written, and
the other names what they held at first or the complete content of a process. -/
structure Publishing (initial : FileSystem Name) (run : WrapRun Name σ) : Prop where
  lawful : Run.Lawful (fun index => Allowed externals debug (processes index))
    (fun _ => Concludes) run
  temporaries : ∀ index, Temporary externals debug processes initial run.store.files index
    (exchanges index run.log)
  published : ∀ name, (∀ index, name ≠ temporary externals processes index) →
    run.store.files.read name = initial.read name ∨
      ∃ index content, output externals processes index = name ∧
        Saves externals debug (processes index) (exchanges index run.log) content ∧
        run.store.files.read name = some ⟨content, protectedMode⟩
  own : ∀ index, Renamed (exchanges index run.log) →
    (∀ other, other ≠ index → output externals processes other ≠ output externals processes index) →
    ∃ content, Saves externals debug (processes index) (exchanges index run.log) content ∧
      run.store.files.read (output externals processes index) = some ⟨content, protectedMode⟩

variable {externals debug processes} {initial : FileSystem Name} {run next : WrapRun Name σ}
  {index : Nat} {exchange : Exchange Reply}

/-- What a process knows of its temporary file is not changed through other names. -/
theorem Temporary.frame {files after : FileSystem Name} {past : List (Exchange Reply)}
    (known : Temporary externals debug processes initial files index past)
    (same : FileSystem.Same files after (temporary externals processes index)) :
    Temporary externals debug processes initial after index past := by
  refine ⟨?_, ?_, ?_⟩
  · rw [same.2]
    exact known.untouched
  · rw [same.1, same.2]
    exact known.holding
  · rw [same.2]
    exact known.cleared

/-- A temporary file that was opened stays opened in the books. -/
theorem Opened.cons {past : List (Exchange Reply)} (opened : Opened past) :
    Opened (exchange :: past) := by
  obtain ⟨found, member, shown⟩ := opened
  exact ⟨found, List.mem_cons_of_mem exchange member, shown⟩

/-- The exchanges of the calls after one of them has made another exchange. -/
structure Extends (run next : WrapRun Name σ) (index : Nat)
    (exchange : Exchange Reply) : Prop where
  self : exchanges index next.log = exchange :: exchanges index run.log
  others : ∀ other, other ≠ index → exchanges other next.log = exchanges other run.log

/-- No exchange takes back what any process has to save. -/
theorem Extends.saves (extended : Extends run next index exchange) {other : Nat} {content : Bytes}
    (saves : Saves externals debug (processes other) (exchanges other run.log) content) :
    Saves externals debug (processes other) (exchanges other next.log) content := by
  by_cases same : other = index
  · subst same
    rw [extended.self]
    exact saves.cons exchange
  · rw [extended.others other same]
    exact saves

/-- A step that leaves every name but the process's own temporary file alone keeps the
invariant, if it keeps what is said of that file. -/
theorem Publishing.of_local (publishing : Publishing externals debug processes initial run)
    (apart : Apart externals processes) (extended : Extends run next index exchange)
    (lawful : Run.Lawful (fun index => Allowed externals debug (processes index))
      (fun _ => Concludes) next)
    (frame : ∀ name, name ≠ temporary externals processes index →
      FileSystem.Same run.store.files next.store.files name)
    (stays : ∀ source target, act exchange ≠ some (.renamed source target))
    (known : Temporary externals debug processes initial next.store.files index
      (exchange :: exchanges index run.log)) :
    Publishing externals debug processes initial next := by
  refine ⟨lawful, ?_, ?_, ?_⟩
  · intro other
    by_cases same : other = index
    · subst same
      rw [extended.self]
      exact known
    · rw [extended.others other same]
      exact (publishing.temporaries other).frame (frame _ (apart.temporaries other index same))
  · intro name isOutput
    rw [(frame name (isOutput index)).2]
    obtain same | ⟨other, content, named, saves, stored⟩ := publishing.published name isOutput
    · exact .inl same
    · exact .inr ⟨other, content, named, extended.saves saves, stored⟩
  · intro other renamed alone
    have before : Renamed (exchanges other run.log) := by
      by_cases same : other = index
      · subst same
        obtain ⟨found, member, source, target, shown⟩ := renamed
        rw [extended.self, List.mem_cons] at member
        obtain rfl | old := member
        · exact absurd shown (stays source target)
        · exact ⟨found, old, source, target, shown⟩
      · rw [extended.others other same] at renamed
        exact renamed
    obtain ⟨content, saves, stored⟩ := publishing.own other before alone
    rw [(frame _ (apart.outputs index other).symm).2]
    exact ⟨content, extended.saves saves, stored⟩

/-- Only an opened file is held. -/
theorem opened_of_held {past : List (Exchange Reply)} {current : Held}
    (holding : held past = some current) : Opened past := by
  induction past generalizing current with
  | nil => cases holding
  | cons exchange past inductionHypothesis =>
    rw [held_cons] at holding
    cases shown : act exchange with
    | none =>
      rw [shown] at holding
      exact (inductionHypothesis holding).cons
    | some done =>
      rw [shown] at holding
      cases done with
      | opened path mode file => exact ⟨exchange, List.mem_cons_self, path, mode, file, shown⟩
      | wrote file offset octets =>
        obtain ⟨earlier, found, -⟩ := Option.map_eq_some_iff.mp holding
        exact (inductionHypothesis found).cons
      | moded path mode =>
        obtain ⟨earlier, found, -⟩ := Option.map_eq_some_iff.mp holding
        exact (inductionHypothesis found).cons
      | renamed source target => cases holding

/-- What is said of a temporary file that is held. -/
theorem Temporary.of_held {files : FileSystem Name} {past : List (Exchange Reply)}
    {current : Held} (holding : held past = some current)
    (entry : files.entries (temporary externals processes index) = some current.file)
    (content : files.read (temporary externals processes index) =
      some ⟨current.written, if current.isProtected then protectedMode
        else writingMode externals processes initial index⟩)
    (saves : ∃ rest, Saves externals debug (processes index) past (current.written ++ rest)) :
    Temporary externals debug processes initial files index past := by
  refine ⟨fun unopened => absurd (opened_of_held holding) unopened, ?_, ?_⟩
  · intro other found
    obtain rfl := Option.some.inj (holding.symm.trans found)
    exact ⟨entry, content, saves⟩
  · intro _ none
    rw [holding] at none
    cases none

variable [DecidableEq Name]

/-- Renaming a complete and protected temporary file keeps the invariant. -/
theorem Publishing.of_rename (publishing : Publishing externals debug processes initial run)
    (apart : Apart externals processes) (extended : Extends run next index exchange)
    (lawful : Run.Lawful (fun index => Allowed externals debug (processes index))
      (fun _ => Concludes) next)
    (shown : act exchange =
      some (.renamed (processes index).tmpPath (processes index).outputPath))
    {file : Nat} {content : Bytes}
    (complete : held (exchanges index run.log) = some ⟨file, content, true⟩)
    (saves : Saves externals debug (processes index) (exchanges index run.log) content)
    (renamed : run.store.files.rename (temporary externals processes index)
      (output externals processes index) = some next.store.files) :
    Publishing externals debug processes initial next := by
  obtain ⟨gone, -, moved, frame⟩ := FileSystem.rename_eq_some (apart.outputs index index) renamed
  have stored : next.store.files.read (output externals processes index) =
      some ⟨content, protectedMode⟩ := by
    rw [moved, ((publishing.temporaries index).holding _ complete).2.1]
    rfl
  refine ⟨lawful, ?_, ?_, ?_⟩
  · intro other
    by_cases same : other = index
    · subst same
      rw [extended.self]
      refine ⟨fun unopened => absurd (opened_of_held complete).cons unopened, ?_, ?_⟩
      · intro current found
        rw [held_cons, shown] at found
        cases found
      · intro _ _
        simp [FileSystem.read, gone]
    · rw [extended.others other same]
      exact (publishing.temporaries other).frame
        (frame _ (apart.temporaries other index same) (apart.outputs other index))
  · intro name isOutput
    by_cases same : name = output externals processes index
    · subst same
      exact .inr ⟨index, content, rfl, extended.saves saves, stored⟩
    · rw [(frame name (isOutput index) same).2]
      obtain same | ⟨other, earlier, named, earlierSaves, earlierStored⟩ :=
        publishing.published name isOutput
      · exact .inl same
      · exact .inr ⟨other, earlier, named, extended.saves earlierSaves, earlierStored⟩
  · intro other otherRenamed alone
    by_cases same : other = index
    · subst same
      exact ⟨content, extended.saves saves, stored⟩
    · rw [extended.others other same] at otherRenamed
      obtain ⟨earlier, earlierSaves, earlierStored⟩ := publishing.own other otherRenamed alone
      rw [(frame _ (apart.outputs index other).symm (alone index (Ne.symm same)).symm).2]
      exact ⟨earlier, extended.saves earlierSaves, earlierStored⟩

/-- A lawful exchange keeps the invariant, whatever it did to the files. -/
theorem Publishing.of_change (publishing : Publishing externals debug processes initial run)
    (apart : Apart externals processes) (extended : Extends run next index exchange)
    (lawful : Run.Lawful (fun index => Allowed externals debug (processes index))
      (fun _ => Concludes) next)
    (rule : Allowed externals debug (processes index) (exchanges index run.log) exchange.stmt)
    (change : FileChange externals run.store.files (act exchange) next.store.files) :
    Publishing externals debug processes initial next := by
  generalize shown : act exchange = done at change
  generalize after : next.store.files = files at change
  cases change with
  | kept =>
    refine publishing.of_local apart extended lawful ?_ (by simp [shown]) ?_
    · intro name _
      rw [after]
      exact ⟨rfl, rfl⟩
    · have known := publishing.temporaries index
      have unopened : ¬ Opened (exchange :: exchanges index run.log) →
          ¬ Opened (exchanges index run.log) := fun fresh opened => fresh opened.cons
      have same : held (exchange :: exchanges index run.log) = held (exchanges index run.log) := by
        rw [held_cons, shown]
        rfl
      rw [after]
      refine ⟨fun fresh => known.untouched (unopened fresh), ?_, ?_⟩
      · intro current found
        rw [same] at found
        obtain ⟨entry, content, rest, saves⟩ := known.holding current found
        exact ⟨entry, content, rest, saves.cons exchange⟩
      · rintro ⟨found, member, path, mode, file, act⟩ none
        rw [same] at none
        obtain rfl | old := List.mem_cons.mp member
        · rw [shown] at act
          cases act
        · exact known.cleared ⟨found, old, path, mode, file, act⟩ none
  | opened path mode =>
    have same : exchange = ⟨.openTruncate path mode, _⟩ := act_eq_some shown
    subst same
    obtain ⟨rfl, rfl, unopened, content, saves⟩ := rule
    obtain ⟨entry, stored⟩ := run.store.files.openTruncate_self
      (temporary externals processes index) (processes index).creationMode
    refine publishing.of_local apart extended lawful ?_ (by simp [shown]) ?_
    · intro name differs
      rw [after]
      exact run.store.files.openTruncate_same _ differs
    · rw [after]
      refine .of_held rfl entry (stored.trans ?_) ⟨content, saves.cons _⟩
      rw [(publishing.temporaries index).untouched unopened]
      rfl
  | wrote file offset octets =>
    obtain ⟨submitted, count, rfl, rfl⟩ := act_eq_some shown
    obtain ⟨written, holding, rfl, saves⟩ := rule
    obtain ⟨entry, stored, -⟩ := (publishing.temporaries index).holding _ holding
    rw [FileSystem.read_of_entry entry, Option.some.injEq] at stored
    refine publishing.of_local apart extended lawful ?_ (by simp [shown]) ?_
    · intro name differs
      rw [after]
      exact FileSystem.same_of_ne _ entry differs
    · have extendedHolding : held (⟨.write file written.length submitted, Except.ok count⟩ ::
          exchanges index run.log) = some ⟨file, written ++ submitted.take count, false⟩ := by
        rw [held_cons, shown, holding]
        rfl
      rw [after]
      refine .of_held extendedHolding entry ((FileSystem.read_modify _ entry).trans ?_)
        ⟨submitted.drop count, ?_⟩
      · rw [stored, FileSystem.splice_length]
      · rw [List.append_assoc, List.take_append_drop]
        exact saves.cons _
  | moded path mode file named =>
    have same : exchange = ⟨.setPermissions path mode, _⟩ := act_eq_some shown
    subst same
    obtain ⟨rfl, rfl, writing, content, holding, saves⟩ := rule
    obtain ⟨entry, stored, -⟩ := (publishing.temporaries index).holding _ holding
    rw [FileSystem.read_of_entry entry, Option.some.injEq] at stored
    obtain rfl : writing = file := Option.some.inj (entry.symm.trans named)
    refine publishing.of_local apart extended lawful ?_ (by simp [shown]) ?_
    · intro name differs
      rw [after]
      exact FileSystem.same_of_ne _ entry differs
    · have protectedHolding : held (⟨.setPermissions (processes index).tmpPath protectedMode,
          Except.ok ()⟩ :: exchanges index run.log) = some ⟨writing, content, true⟩ := by
        rw [held_cons, shown, holding]
        rfl
      rw [after]
      refine .of_held protectedHolding entry ((FileSystem.read_modify _ entry).trans ?_) ⟨[], ?_⟩
      · rw [stored]
        rfl
      · rw [List.append_nil]
        exact saves.cons _
  | renamed source target _ done =>
    have same : exchange = ⟨.rename source target, _⟩ := act_eq_some shown
    subst same
    obtain ⟨rfl, rfl, file, content, complete, saves⟩ := rule
    rw [← after] at done
    exact publishing.of_rename apart extended lawful shown complete saves done

/-- A move keeps the invariant. -/
theorem Publishing.step (publishing : Publishing externals debug processes initial run)
    (apart : Apart externals processes) (move : Move (Drift σ)) :
    Publishing externals debug processes initial (run.step (machine externals) move) := by
  have lawful := publishing.lawful.step (machine externals) move
  obtain same | ⟨act, -, moved⟩ | ⟨index, stmt, resume, -, current, moved⟩ :=
    Run.step_cases (machine externals) run move
  · rw [same]
    exact publishing
  · rw [moved] at lawful ⊢
    have files : ((machine externals).drift act run.store).files = run.store.files := by
      cases act <;> rfl
    refine ⟨lawful, ?_, ?_, ?_⟩
    all_goals simp only [files]
    · exact publishing.temporaries
    · exact publishing.published
    · exact publishing.own
  · have rule := (publishing.lawful.issuing current).1
    have change := exec_fileChange externals stmt run.store
    rw [moved] at lawful ⊢
    apply publishing.of_change apart ⟨?_, ?_⟩ lawful rule change
    · simp [exchanges_cons, machine]
    · intro other differs
      simp [exchanges_cons, Ne.symm differs]

variable (externals debug processes)

/-- Processes that have not started. -/
def launch (world : World Name σ) : WrapRun Name σ :=
  Run.start world (fun index => wrapSecretV2ToFile externals (processes index) debug)

/-- What a run leaves under each name: a name that is no temporary file holds what it held at
first, or all of what some process had to save, for its owner only; a process that succeeded, and
shares its output with none, left there what it had to save; and a temporary file holds what it
held at first, the first part of what its process has to save, or nothing. -/
structure Whole (initial : FileSystem Name) (run : WrapRun Name σ) : Prop where
  names : ∀ name, (∀ index, name ≠ temporary externals processes index) →
    run.store.files.read name = initial.read name ∨
      ∃ index content, output externals processes index = name ∧
        Saves externals debug (processes index) (exchanges index run.log) content ∧
        run.store.files.read name = some ⟨content, protectedMode⟩
  succeeded : ∀ index, (run.calls index).outcome = some (.ok ()) →
    (∀ other, other ≠ index → output externals processes other ≠ output externals processes index) →
    ∃ content, Saves externals debug (processes index) (exchanges index run.log) content ∧
      run.store.files.read (output externals processes index) = some ⟨content, protectedMode⟩
  temporaries : ∀ index file,
    run.store.files.read (temporary externals processes index) = some file →
    initial.read (temporary externals processes index) = some file ∨
      (∃ rest, Saves externals debug (processes index) (exchanges index run.log)
        (file.content ++ rest)) ∧
        (file.mode = writingMode externals processes initial index ∨ file.mode = protectedMode)

/-- As long as temporary files are apart, every schedule of processes, of system calls that
fail and of writes that take only a part leaves every output whole.

Proof: a temporary file belongs to one process and holds what this has written, which its own
log tells. An output changes by a rename only, and a process renames when it has written and
protected all of its content; so the standing of all files is an invariant of the move. -/
theorem outputs_whole (apart : Apart externals processes) (world : World Name σ)
    (moves : List (Move (Drift σ))) :
    Whole externals debug processes world.files
      ((launch externals debug processes world).play (machine externals) moves) := by
  have first : Publishing externals debug processes world.files
      (launch externals debug processes world) := by
    refine ⟨⟨fun index => wrapSecretV2ToFile_follows externals debug (processes index), ?_⟩,
      ?_, fun _ _ => .inl rfl, ?_⟩
    · intro later event earlier split
      simp [launch, Run.start] at split
    · intro index
      refine ⟨fun _ => rfl, ?_, ?_⟩
      · intro current found
        cases found
      · rintro ⟨exchange, member, -⟩
        cases member
    · rintro index ⟨exchange, member, -⟩
      cases member
  have reached := Run.play_invariant (machine externals)
    (Publishing externals debug processes world.files) first
    (fun _ move publishing => publishing.step apart move) moves
  refine ⟨reached.published, ?_, ?_⟩
  · intro index succeeded alone
    have concluded := reached.lawful.remaining index
    rw [(outcome_eq_ok_iff _ _).mp succeeded] at concluded
    exact reached.own index (concluded rfl) alone
  · intro index file found
    have known := reached.temporaries index
    by_cases opened : Opened (exchanges index
      ((launch externals debug processes world).play (machine externals) moves).log)
    · cases holding : held (exchanges index
        ((launch externals debug processes world).play (machine externals) moves).log) with
      | none =>
        rw [known.cleared opened holding] at found
        cases found
      | some current =>
        obtain ⟨-, content, saves⟩ := known.holding current holding
        obtain rfl := Option.some.inj (content.symm.trans found)
        refine .inr ⟨saves, ?_⟩
        cases current.isProtected with
        | false => exact .inl rfl
        | true => exact .inr rfl
    · rw [known.untouched opened] at found
      exact .inl found

end Runs

/-- A text or nothing, as it is written in a document. -/
def writtenText : Json → String
  | .string text => "\"" ++ text ++ "\""
  | _ => "null"

/-- How an object of texts is written, a line for each field. The texts need no escapes. -/
def prettyTexts : Json → Except String String
  | .object fields => .ok ("\x7b\n" ++ ",\n".intercalate (fields.map fun (name, content) =>
      "  \"" ++ name ++ "\": " ++ writtenText content) ++ "\n\x7d")
  | _ => .error "not an object"

/-- The reply of a broker that was asked at the epoch. -/
def plainResponse : WrapResponse := ⟨"h", some "t", ⟨0⟩⟩

/-- A broker that answers every request, and paths that are names themselves. -/
def plainExternals : Externals Bytes Unit where
  fromEnv outside := (.ok (), outside)
  wrapSecretV2 _ _ outside := (.ok plainResponse, outside)
  toRfc3339 _ := "2000-01-01T00:00:00+00:00"
  toStringPretty := prettyTexts
  display _ := "path"
  locate path := path

/-- Debug texts as they are; the sample processes meet none. -/
def plainDebug : DebugText := ⟨id, fun _ => ""⟩

/-- A process that wraps the secret `s` into an output file. -/
def plainProcess (outputFile : String) : Process where
  env _ := .text "s"
  umask := 0o022
  plaintextEnv := "SECRET"
  outputFile := outputFile
  lifecycle := "service_bootstrap"
  label := none
  unwrapPrincipalId := none

/-- Processes whose outputs are named `a`, `aa` and so on. -/
def severalProcesses (index : Nat) : Process :=
  plainProcess (String.ofList (List.replicate (index + 1) 'a'))

/-- The output of a process is as many letters as its number says, and one more. -/
theorem severalProcesses_outputPath (index : Nat) :
    (severalProcesses index).outputPath = List.replicate (index + 1) 97 := by
  rw [Process.outputPath, severalProcesses, plainProcess, utf8_ofList]
  generalize index + 1 = count
  induction count with
  | zero => rfl
  | succ count inductionHypothesis =>
    rw [List.replicate_succ, List.flatMap_cons, inductionHypothesis]
    rfl

/-- The outputs have different lengths and no extension, so neither do two temporary files
agree nor is one of them an output. -/
theorem severalProcesses_apart : Apart plainExternals severalProcesses := by
  have named (index : Nat) : temporary plainExternals severalProcesses index =
      List.replicate (index + 1) 97 ++ Path.dot :: utf8 "tmp" := by
    rw [temporary, plainExternals, Process.tmpPath, severalProcesses_outputPath]
    apply Path.withExtension_of_not_mem
    · simp [Path.separator]
    · simp [Path.dot]
    · simp
  refine ⟨?_, ?_⟩
  · intro left right differs same
    have lengths := congrArg List.length ((named left).symm.trans (same.trans (named right)))
    simp at lengths
    omega
  · intro left right same
    have dotted : Path.dot ∈ temporary plainExternals severalProcesses left := by
      rw [named]
      simp
    rw [same, output, plainExternals, severalProcesses_outputPath] at dotted
    simp [Path.dot] at dotted

/-- The first process ends, its content written in three parts, while the second has written a
part of its own. -/
def severalRun : WrapRun Bytes Unit :=
  (launch plainExternals plainDebug severalProcesses ⟨FileSystem.empty, none, 30, ()⟩).play
    (machine plainExternals)
    [.call 0, .call 0, .call 0, .call 0, .call 1, .call 1, .call 1, .call 1, .call 0, .call 1,
      .call 0, .call 0, .call 0, .call 0]

/-- Meanwhile and afterwards every output is whole. -/
theorem outputs_whole_severalRun :
    (severalRun.calls 0).outcome = some (.ok ()) ∧
      Whole plainExternals plainDebug severalProcesses FileSystem.empty severalRun :=
  ⟨rfl, outputs_whole plainExternals plainDebug severalProcesses severalProcesses_apart
    ⟨FileSystem.empty, none, 30, ()⟩ _⟩

end SecureDatabase.SealedConfig
