import SecureDatabase.AtomicOutputs

/-!
# Shared temporary files tear outputs

That temporary files are apart is needed. Two processes share one as soon as their outputs differ
in the extension only, and a process has its own output for a temporary file if that is named
`.tmp`. Whenever the processes have something to wrap and the broker answers, some schedule then
leaves an output with an empty file.
-/

namespace SecureDatabase.SealedConfig

open Foundation Program

variable {Name σ : Type} [DecidableEq Name]

/-- A broker that answers every request with something to serialise. -/
structure Answers (externals : Externals Name σ) : Prop where
  connects : ∀ outside, (externals.fromEnv outside).1 = .ok ()
  wraps : ∀ plaintext params outside, ∃ response text,
    (externals.wrapSecretV2 plaintext params outside).1 = .ok response ∧
      externals.toStringPretty (payload externals response) = .ok text

/-- A process with a secret to wrap and a lifecycle that exists. -/
structure Ready (debug : DebugText) (process : Process) : Prop where
  plaintext : ∃ plaintext, process.plaintext debug = .ok plaintext
  lifecycle : ∃ lifecycle, parseWrapLifecycle process.lifecycle = .ok lifecycle

/-- An output holds what it held at first or all of what some process had to save. -/
def OutputWhole (externals : Externals Name σ) (debug : DebugText)
    (processes : Nat → Process) (initial : FileSystem Name) (run : WrapRun Name σ)
    (index : Nat) : Prop :=
  run.store.files.read (output externals processes index) =
      initial.read (output externals processes index) ∨
    ∃ other content, output externals processes other = output externals processes index ∧
      Saves externals debug (processes other) (exchanges other run.log) content ∧
      run.store.files.read (output externals processes index) = some ⟨content, protectedMode⟩

section Steps

variable {externals : Externals Name σ} {debug : DebugText} {processes : Nat → Process}
  {run : WrapRun Name σ} {index : Nat}

/-- A waiting call makes its exchange and goes on with the reply. -/
theorem step_issue {stmt : Statement} {resume : Reply stmt → Operation Unit}
    (waiting : run.calls index = .issue stmt resume) {reply : Reply stmt}
    (answered : (exec externals stmt run.store).1 = reply) :
    (run.step (machine externals) (.call index)).store = (exec externals stmt run.store).2 ∧
      (run.step (machine externals) (.call index)).calls index = resume reply ∧
      ∀ other, other ≠ index →
        (run.step (machine externals) (.call index)).calls other = run.calls other := by
  simp only [Run.step, waiting, machine, ← answered, Function.update_self, true_and]
  exact fun other differs => Function.update_of_ne differs _ _

omit [DecidableEq Name] in
/-- Without a fault a system call does what its body does. -/
theorem World.system_of_healthy {Answer : Type}
    (body : FileSystem Name → Except String (Answer × FileSystem Name)) {world : World Name σ}
    (healthy : world.fault = none) :
    world.system body =
      match body world.files with
      | .error error => (.error error, world)
      | .ok (answer, files) => (.ok answer, { world with files }) := by
  unfold World.system
  split
  · rename_i error faulty
    rw [healthy] at faulty
    cases faulty
  · rfl

/-- What a process does once its temporary file is open. -/
def opened (externals : Externals Name σ) (process : Process) (file : Nat)
    (content : Bytes) : Operation Unit :=
  writeAll ("failed to write temporary output " ++ externals.display process.tmpPath) file
    content.length 0 content >>= fun _ => finish externals process

omit [DecidableEq Name] in
/-- A write that takes everything is the only one. -/
theorem opened_resumes (externals : Externals Name σ) (process : Process) (file : Nat)
    (first : UInt8) (rest : Bytes) :
    ∃ resume, opened externals process file (first :: rest) =
        .issue (.write file 0 (first :: rest)) resume ∧
      resume (.ok (first :: rest).length) = finish externals process := by
  generalize context : "failed to write temporary output " ++ externals.display process.tmpPath =
    writing
  refine ⟨fun reply => (withContext writing reply >>= fun count =>
    if count = 0 then .failure [writing, "failed to write whole buffer"]
    else writeAll writing file rest.length (0 + count) ((first :: rest).drop count)) >>=
      fun _ => finish externals process, by rw [opened, context]; rfl, ?_⟩
  simp [withContext, writeAll]

/-- A process that is ready opens its temporary file with its fourth request. -/
theorem play_to_opened (answers : Answers externals) (ready : Ready debug (processes index))
    (fresh : run.calls index = wrapSecretV2ToFile externals (processes index) debug)
    (healthy : run.store.fault = none) :
    ∃ text file mode next, run.play (machine externals)
        [.call index, .call index, .call index, .call index] = next ∧
      next.store.fault = none ∧
      next.store.files.entries (temporary externals processes index) = some file ∧
      next.store.files.read (temporary externals processes index) = some ⟨[], mode⟩ ∧
      next.calls index = opened externals (processes index) file (utf8 (text ++ "\n")) ∧
      ∀ other, other ≠ index → next.calls other = run.calls other := by
  obtain ⟨plaintext, found⟩ := ready.plaintext
  obtain ⟨lifecycle, parsed⟩ := ready.lifecycle
  simp only [wrapSecretV2ToFile, found, parsed, ofExcept_ok, value_bind, ask_bind] at fresh
  simp only [Run.play_cons, Run.play_nil]
  obtain ⟨store₁, calls₁, others₁⟩ := step_issue fresh (answers.connects run.store.outside)
  generalize run.step (machine externals) (.call index) = run₁ at store₁ calls₁ others₁
  obtain ⟨response, text, wrapped, serialized⟩ := answers.wraps (utf8 plaintext)
    ((processes index).wrapParams lifecycle) run₁.store.outside
  obtain ⟨store₂, calls₂, others₂⟩ := step_issue calls₁ wrapped
  generalize run₁.step (machine externals) (.call index) = run₂ at store₂ calls₂ others₂
  have kept : run₂.store.files = run.store.files ∧ run₂.store.fault = none := by
    rw [store₂, store₁]
    exact ⟨rfl, healthy⟩
  have made : exec externals (.createDirAll (processes index).parent) run₂.store =
      (.ok (), run₂.store) := World.system_of_healthy (fun files => .ok ((), files)) kept.2
  obtain ⟨store₃, calls₃, others₃⟩ := step_issue calls₂ (congrArg Prod.fst made)
  rw [made] at store₃
  generalize run₂.step (machine externals) (.call index) = run₃ at store₃ calls₃ others₃
  simp only [serialized] at calls₃
  have truncated : exec externals (.openTruncate (processes index).tmpPath
      (processes index).creationMode) run₃.store =
      (.ok (run.store.files.openTruncate (temporary externals processes index)
        (processes index).creationMode).1,
        { run₃.store with files := (run.store.files.openTruncate
          (temporary externals processes index) (processes index).creationMode).2 }) := by
    simp [exec, World.system, store₃, kept, temporary]
  obtain ⟨store₄, calls₄, others₄⟩ := step_issue calls₃ (congrArg Prod.fst truncated)
  rw [truncated] at store₄
  obtain ⟨entry, content⟩ := run.store.files.openTruncate_self
    (temporary externals processes index) (processes index).creationMode
  generalize Option.getD _ _ = mode at content
  refine ⟨text, _, mode, _, rfl, ?_, ?_, ?_, calls₄, ?_⟩
  · rw [store₄, store₃]
    exact kept.2
  · rw [store₄]
    exact entry
  · rw [store₄]
    exact content
  · intro other differs
    rw [others₄ other differs, others₃ other differs, others₂ other differs, others₁ other differs]

/-- A process whose temporary file is open writes and protects it with two requests, if a write
takes everything. -/
theorem play_to_protected {text : String} {file : Nat}
    (writing : run.calls index = opened externals (processes index) file (utf8 (text ++ "\n")))
    (healthy : run.store.fault = none) (enough : (utf8 (text ++ "\n")).length ≤ run.store.limit)
    (entry : run.store.files.entries (temporary externals processes index) = some file)
    {mode : Mode}
    (empty : run.store.files.read (temporary externals processes index) = some ⟨[], mode⟩) :
    ∃ next resume, run.play (machine externals) [.call index, .call index] = next ∧
      next.store.fault = none ∧
      next.store.files.entries (temporary externals processes index) = some file ∧
      next.store.files.read (temporary externals processes index) =
        some ⟨utf8 (text ++ "\n"), protectedMode⟩ ∧
      next.calls index =
        .issue (.rename (processes index).tmpPath (processes index).outputPath) resume ∧
      ∀ other, other ≠ index → next.calls other = run.calls other := by
  simp only [Run.play_cons, Run.play_nil]
  obtain ⟨first, rest, content⟩ : ∃ first rest, utf8 (text ++ "\n") = first :: rest :=
    List.exists_cons_of_ne_nil
      (by rw [utf8_append]; exact List.append_ne_nil_of_right_ne_nil _ (by decide))
  rw [content] at writing enough ⊢
  rw [FileSystem.read_of_entry entry, Option.some.injEq] at empty
  have wrote : exec externals (.write file 0 (first :: rest)) run.store =
      (.ok (first :: rest).length,
        { run.store with files := run.store.files.write file 0 (first :: rest) }) := by
    simp only [exec, World.system, healthy, List.take_of_length_le enough, Nat.min_eq_right enough]
  obtain ⟨resume, issues, resumed⟩ := opened_resumes externals (processes index) file first rest
  obtain ⟨store₁, calls₁, others₁⟩ := step_issue (writing.trans issues) (congrArg Prod.fst wrote)
  rw [wrote] at store₁
  generalize run.step (machine externals) (.call index) = run₁ at store₁ calls₁ others₁
  have protects : run₁.calls index = finish externals (processes index) := calls₁.trans resumed
  have entry₁ : run₁.store.files.entries (temporary externals processes index) = some file := by
    rw [store₁]
    exact entry
  have changed : run₁.store.files.setMode (temporary externals processes index) protectedMode =
      some (run₁.store.files.modify file (fun old => { old with mode := protectedMode })) := by
    rw [FileSystem.setMode, entry₁]
    rfl
  have moded : exec externals (.setPermissions (processes index).tmpPath protectedMode) run₁.store =
      (.ok (), { run₁.store with
        files := run₁.store.files.modify file (fun old => { old with mode := protectedMode }) }) := by
    have healthy₁ : run₁.store.fault = none := by
      rw [store₁]
      exact healthy
    refine (World.system_of_healthy (fun files => orNotFound (files.setMode
      (temporary externals processes index) protectedMode)) healthy₁).trans ?_
    rw [changed]
    rfl
  obtain ⟨store₂, calls₂, others₂⟩ := step_issue protects (congrArg Prod.fst moded)
  rw [moded] at store₂
  refine ⟨_, _, rfl, ?_, ?_, ?_, calls₂, ?_⟩
  · rw [store₂, store₁]
    exact healthy
  · rw [store₂]
    exact entry₁
  · rw [store₂, FileSystem.read_modify _ entry₁, store₁]
    simp [FileSystem.write, FileSystem.modify, empty, FileSystem.splice]
  · intro other differs
    rw [others₂ other differs, others₁ other differs]

end Steps

section Tearing

variable (externals : Externals Name σ) (debug : DebugText) (processes : Nat → Process)

omit [DecidableEq Name] in
/-- What a process has to save is not empty. -/
theorem Saves.ne_nil {externals : Externals Name σ} {debug : DebugText} {process : Process}
    {past : List (Exchange Reply)} {content : Bytes}
    (saves : Saves externals debug process past content) : content ≠ [] := by
  obtain ⟨-, -, -, text, -, -, -, -, rfl⟩ := saves
  rw [utf8_append]
  exact List.append_ne_nil_of_right_ne_nil _ (by decide)

omit [DecidableEq Name] in
/-- An output that was not there and has an empty file is torn. -/
theorem torn_of_empty {initial : FileSystem Name} {run : WrapRun Name σ} {index : Nat}
    (mode : Mode) (absent : initial.read (output externals processes index) = none)
    (empty : run.store.files.read (output externals processes index) = some ⟨[], mode⟩) :
    ¬ OutputWhole externals debug processes initial run index := by
  rintro (same | ⟨other, content, -, saves, stored⟩)
  · rw [empty, absent] at same
    cases same
  · rw [empty] at stored
    cases stored
    exact saves.ne_nil rfl

omit [DecidableEq Name] in
/-- A file system without files, where a write takes nothing yet. -/
def clean (outside : σ) : World Name σ := ⟨FileSystem.empty, none, 0, outside⟩

/-- An output that is a temporary file is torn as soon as this is open. -/
theorem torn_of_output (answers : Answers externals)
    (ready : ∀ index, Ready debug (processes index)) (outside : σ) {left right : Nat}
    (shared : temporary externals processes left = output externals processes right) :
    ∃ moves, ¬ OutputWhole externals debug processes FileSystem.empty
      ((launch externals debug processes (clean outside)).play (machine externals) moves) right := by
  have fresh : (launch externals debug processes (clean outside)).calls left =
      wrapSecretV2ToFile externals (processes left) debug := rfl
  obtain ⟨-, -, mode, next, reached, -, -, empty, -⟩ := play_to_opened answers (ready left) fresh rfl
  rw [shared] at empty
  refine ⟨[.call left, .call left, .call left, .call left], ?_⟩
  rw [reached]
  exact torn_of_empty externals debug processes mode rfl empty

/-- Of two processes with one temporary file, one empties it after the other has completed and
protected it, and this then publishes an empty file. -/
theorem torn_of_temporary (answers : Answers externals)
    (ready : ∀ index, Ready debug (processes index)) (outside : σ) {left right : Nat}
    (differ : left ≠ right)
    (shared : temporary externals processes left = temporary externals processes right)
    (outputs : temporary externals processes left ≠ output externals processes left) :
    ∃ moves, ¬ OutputWhole externals debug processes FileSystem.empty
      ((launch externals debug processes (clean outside)).play (machine externals) moves) left := by
  have fresh : (launch externals debug processes (clean outside)).calls left =
      wrapSecretV2ToFile externals (processes left) debug := rfl
  obtain ⟨text, file, mode, run₁, reached₁, healthy₁, entry₁, empty₁, calls₁, others₁⟩ :=
    play_to_opened answers (ready left) fresh rfl
  -- from here on a write takes everything
  generalize grown : run₁.step (machine externals)
    (.drift (.limit (utf8 (text ++ "\n")).length)) = run₂
  have calls₂ : run₂.calls left = opened externals (processes left) file (utf8 (text ++ "\n")) := by
    rw [← grown]
    exact calls₁
  have healthy₂ : run₂.store.fault = none := by
    rw [← grown]
    exact healthy₁
  have enough₂ : (utf8 (text ++ "\n")).length ≤ run₂.store.limit := by
    rw [← grown]
    exact Nat.le_refl _
  have entry₂ : run₂.store.files.entries (temporary externals processes left) = some file := by
    rw [← grown]
    exact entry₁
  have empty₂ : run₂.store.files.read (temporary externals processes left) = some ⟨[], mode⟩ := by
    rw [← grown]
    exact empty₁
  obtain ⟨run₃, resume, reached₃, healthy₃, -, -, calls₃, others₃⟩ :=
    play_to_protected calls₂ healthy₂ enough₂ entry₂ empty₂
  have fresh₃ : run₃.calls right = wrapSecretV2ToFile externals (processes right) debug := by
    rw [others₃ right differ.symm, ← grown]
    exact others₁ right differ.symm
  obtain ⟨-, other, newMode, run₄, reached₄, healthy₄, entry₄, empty₄, -, others₄⟩ :=
    play_to_opened answers (ready right) fresh₃ healthy₃
  rw [← shared] at entry₄ empty₄
  obtain ⟨after, renamed⟩ := FileSystem.exists_rename (output externals processes left) entry₄
  have published : exec externals (.rename (processes left).tmpPath (processes left).outputPath)
      run₄.store = (.ok (), { run₄.store with files := after }) := by
    refine (World.system_of_healthy (fun files => orNotFound (files.rename
      (temporary externals processes left) (output externals processes left))) healthy₄).trans ?_
    rw [renamed]
    rfl
  obtain ⟨store₅, -⟩ := step_issue ((others₄ left differ).trans calls₃)
    (congrArg Prod.fst published)
  rw [published] at store₅
  refine ⟨[.call left, .call left, .call left, .call left] ++
    .drift (.limit (utf8 (text ++ "\n")).length) :: ([.call left, .call left] ++
      ([.call right, .call right, .call right, .call right] ++ [.call left])), ?_⟩
  rw [Run.play_append, reached₁, Run.play_cons, grown, Run.play_append, reached₃, Run.play_append,
    reached₄]
  refine torn_of_empty externals debug processes newMode rfl ?_
  rw [Run.play_cons, Run.play_nil, store₅]
  exact (FileSystem.rename_eq_some outputs renamed).2.2.1.trans empty₄

/-- Unless the temporary files are apart, some schedule leaves an output torn.

Proof: files are together in two ways. Either two processes share a temporary file, and one
empties it when the other is about to publish it; or a temporary file is an output, which is
empty as soon as it is opened. -/
theorem torn_of_not_apart (answers : Answers externals)
    (ready : ∀ index, Ready debug (processes index)) (outside : σ)
    (together : ¬ Apart externals processes) :
    ∃ moves index, ¬ OutputWhole externals debug processes FileSystem.empty
      ((launch externals debug processes (clean outside)).play (machine externals) moves) index := by
  by_cases outputs : ∀ left right,
    temporary externals processes left ≠ output externals processes right
  · have shared : ∃ left right, left ≠ right ∧
        temporary externals processes left = temporary externals processes right := by
      by_contra apart
      exact together ⟨fun left right differ shared => apart ⟨left, right, differ, shared⟩, outputs⟩
    obtain ⟨left, right, differ, shared⟩ := shared
    obtain ⟨moves, torn⟩ := torn_of_temporary externals debug processes answers ready outside differ
      shared (outputs left left)
    exact ⟨moves, left, torn⟩
  · push Not at outputs
    obtain ⟨left, right, shared⟩ := outputs
    obtain ⟨moves, torn⟩ := torn_of_output externals debug processes answers ready outside shared
    exact ⟨moves, right, torn⟩

end Tearing

/-- Two outputs that differ in their extension only. -/
def twoFormats : Nat → Process
  | 0 => plainProcess "a.json"
  | _ => plainProcess "a.toml"

/-- The sample processes have a secret and a lifecycle that exists. -/
theorem ready_plainProcess (outputFile : String) : Ready plainDebug (plainProcess outputFile) := by
  have named : parseWrapLifecycle "service_bootstrap" = .ok .serviceBootstrap := by
    decide +kernel
  have solid : ¬ trim "s" = "" := by decide +kernel
  refine ⟨⟨"s", ?_⟩, .serviceBootstrap, named⟩
  simp [Process.plaintext, plainProcess, Environment.var, solid]

/-- Some schedule of these two processes publishes an empty file. -/
theorem torn_of_not_apart_twoFormats :
    temporary plainExternals twoFormats 0 = utf8 "a.tmp" ∧
      temporary plainExternals twoFormats 1 = utf8 "a.tmp" ∧
      ∃ moves index, ¬ OutputWhole plainExternals plainDebug twoFormats FileSystem.empty
        ((launch plainExternals plainDebug twoFormats (clean ())).play (machine plainExternals) moves)
        index := by
  have shared : temporary plainExternals twoFormats 0 = temporary plainExternals twoFormats 1 := by
    decide +kernel
  refine ⟨by decide +kernel, by decide +kernel, ?_⟩
  refine torn_of_not_apart plainExternals plainDebug twoFormats ⟨fun _ => rfl, ?_⟩ ?_ () ?_
  · exact fun _ _ _ => ⟨plainResponse, _, rfl, rfl⟩
  · rintro (_ | index)
    · exact ready_plainProcess "a.json"
    · exact ready_plainProcess "a.toml"
  · intro apart
    exact apart.temporaries 0 1 (by decide) shared

end SecureDatabase.SealedConfig
