import AirSonos.Lib.Text
import AirSonos.Lib.TransitionSystem
import Mathlib.Logic.Function.Basic

/-!
# Saving the config

The new content is written to a file of its own beside the old one, and a rename puts it in
place. Any step may fail, and several writers may save at the same time.
-/

namespace AirSonos

structure StoredFile where
  content : List UInt8
  mode : Nat
deriving DecidableEq

/-- The files of one directory. -/
abbrev Directory := List Char → Option StoredFile

def tempName (fileName : List Char) (process write : Nat) : List Char :=
  '.' :: (fileName ++ '.' :: (Nat.toDigits 10 process ++ '.' ::
    (Nat.toDigits 10 write ++ ".tmp".toList)))

/-- The steps of `write` that can fail. -/
inductive WriteStep
  | create
  | write
  | sync
  | setPermissions
  | rename
  | openDirectory
  | syncDirectory
deriving DecidableEq

/-- The directory is opened and synced once the new file is in place. -/
def WriteStep.afterRename : WriteStep → Bool
  | openDirectory => true
  | syncDirectory => true
  | _ => false

inductive WriteResult
  | ok
  | unserializable
  | failed (step : WriteStep)
deriving DecidableEq

inductive WritePhase
  | serializing
  | creating
  | writing (written : Nat)
  | syncing
  | readingPermissions
  | settingPermissions (mode : Nat)
  | replacing
  | openingDirectory
  | syncingDirectory
  | removing (failed : WriteStep)
  | finished (result : WriteResult)
deriving DecidableEq

/-- How a step ends. One call may write only a part of what is left. -/
inductive StepOutcome
  | ok
  | wrote (bytes : Nat)
  | failed
deriving DecidableEq

/-- A call of `write_to_path`: what it writes, the numbers in the name of its temporary file, and
whether it can read the permissions of the file it replaces. -/
structure ConfigWriter where
  contents : List UInt8
  process : Nat
  write : Nat
  readable : Bool

def PRIVATE_MODE : Nat := 0o600

namespace ConfigWriter

variable (path : List Char) (writer : ConfigWriter)

def temp : List Char :=
  tempName path writer.process writer.write

/-- The permissions that the new file takes over, if there are any to read. -/
def existing (dir : Directory) : Option Nat :=
  if writer.readable then (dir path).map StoredFile.mode else none

/-- What the file holds once it is replaced. -/
def saved (dir : Directory) : StoredFile :=
  ⟨writer.contents, (writer.existing path dir).getD PRIVATE_MODE⟩

def advance : Directory × WritePhase → StepOutcome → Option (Directory × WritePhase)
  | (dir, .serializing), .ok => some (dir, .creating)
  | (dir, .serializing), .failed => some (dir, .finished .unserializable)
  | (dir, .creating), .ok =>
    if dir (writer.temp path) = none then
      some (Function.update dir (writer.temp path) (some ⟨[], PRIVATE_MODE⟩), .writing 0)
    else none
  | (dir, .creating), .failed => some (dir, .removing .create)
  | (dir, .writing written), .wrote bytes =>
    if 0 < bytes ∧ written + bytes ≤ writer.contents.length then
      some (Function.update dir (writer.temp path) ((dir (writer.temp path)).map fun file =>
        { file with content := writer.contents.take (written + bytes) }),
        .writing (written + bytes))
    else none
  | (dir, .writing written), .ok =>
    if written = writer.contents.length then some (dir, .syncing) else none
  | (dir, .writing _), .failed => some (dir, .removing .write)
  | (dir, .syncing), .ok => some (dir, .readingPermissions)
  | (dir, .syncing), .failed => some (dir, .removing .sync)
  | (dir, .readingPermissions), .ok =>
    match writer.existing path dir with
    | some mode => some (dir, .settingPermissions mode)
    | none => some (dir, .replacing)
  | (dir, .settingPermissions mode), .ok =>
    some (Function.update dir (writer.temp path)
      ((dir (writer.temp path)).map fun file => { file with mode := mode }), .replacing)
  | (dir, .settingPermissions _), .failed => some (dir, .removing .setPermissions)
  | (dir, .replacing), .ok =>
    (dir (writer.temp path)).map fun file =>
      (Function.update (Function.update dir path (some file)) (writer.temp path) none,
        .openingDirectory)
  | (dir, .replacing), .failed => some (dir, .removing .rename)
  | (dir, .openingDirectory), .ok => some (dir, .syncingDirectory)
  | (dir, .openingDirectory), .failed => some (dir, .removing .openDirectory)
  | (dir, .syncingDirectory), .ok => some (dir, .finished .ok)
  | (dir, .syncingDirectory), .failed => some (dir, .removing .syncDirectory)
  | (dir, .removing step), .ok =>
    (dir (writer.temp path)).map fun _ =>
      (Function.update dir (writer.temp path) none, .finished (.failed step))
  | (dir, .removing step), .failed => some (dir, .finished (.failed step))
  | _, _ => none

/-- One call, alone in its directory. -/
def writeToPath (dir : Directory) : TransitionSystem (Directory × WritePhase) StepOutcome where
  init := (dir, .serializing)
  step := writer.advance path

/-- The step that fails when a call fails at this point. -/
def failing : WritePhase → Option WriteStep
  | .creating => some .create
  | .writing _ => some .write
  | .syncing => some .sync
  | .settingPermissions _ => some .setPermissions
  | .replacing => some .rename
  | .openingDirectory => some .openDirectory
  | .syncingDirectory => some .syncDirectory
  | _ => none

/-- What the steps of a call do. -/
inductive Advances (dir : Directory) : WritePhase → StepOutcome → Directory → WritePhase → Prop
  | serialized : Advances dir .serializing .ok dir .creating
  | notSerialized : Advances dir .serializing .failed dir (.finished .unserializable)
  | created (free : dir (writer.temp path) = none) :
      Advances dir .creating .ok
        (Function.update dir (writer.temp path) (some ⟨[], PRIVATE_MODE⟩)) (.writing 0)
  | wrote {written : Nat} (bytes : Nat) (fits : written + bytes ≤ writer.contents.length) :
      Advances dir (.writing written) (.wrote bytes)
        (Function.update dir (writer.temp path) ((dir (writer.temp path)).map fun file =>
          { file with content := writer.contents.take (written + bytes) }))
        (.writing (written + bytes))
  | wroteAll : Advances dir (.writing writer.contents.length) .ok dir .syncing
  | synced : Advances dir .syncing .ok dir .readingPermissions
  | permissionsRead {mode : Nat} (found : writer.existing path dir = some mode) :
      Advances dir .readingPermissions .ok dir (.settingPermissions mode)
  | permissionsUnread (absent : writer.existing path dir = none) :
      Advances dir .readingPermissions .ok dir .replacing
  | permissionsSet (mode : Nat) :
      Advances dir (.settingPermissions mode) .ok
        (Function.update dir (writer.temp path)
          ((dir (writer.temp path)).map fun file => { file with mode := mode })) .replacing
  | renamed {file : StoredFile} (found : dir (writer.temp path) = some file) :
      Advances dir .replacing .ok
        (Function.update (Function.update dir path (some file)) (writer.temp path) none)
        .openingDirectory
  | opened : Advances dir .openingDirectory .ok dir .syncingDirectory
  | directorySynced : Advances dir .syncingDirectory .ok dir (.finished .ok)
  | failed {phase : WritePhase} {step : WriteStep} (fails : failing phase = some step) :
      Advances dir phase .failed dir (.removing step)
  | removed {step : WriteStep} {file : StoredFile} (found : dir (writer.temp path) = some file) :
      Advances dir (.removing step) .ok (Function.update dir (writer.temp path) none)
        (.finished (.failed step))
  | kept (step : WriteStep) : Advances dir (.removing step) .failed dir (.finished (.failed step))

theorem advance_cases {before after : Directory × WritePhase} {outcome : StepOutcome}
    (taken : writer.advance path before outcome = some after) :
    Advances path writer before.1 before.2 outcome after.1 after.2 := by
  obtain ⟨dir, phase⟩ := before
  cases outcome with
  | ok =>
    cases phase with
    | serializing =>
      cases taken
      exact .serialized
    | creating =>
      simp only [advance] at taken
      split at taken
      · cases taken
        exact .created ‹_›
      · cases taken
    | writing written =>
      simp only [advance] at taken
      split at taken
      · next hall =>
        cases taken
        subst hall
        exact .wroteAll
      · cases taken
    | syncing =>
      cases taken
      exact .synced
    | readingPermissions =>
      simp only [advance] at taken
      split at taken
      · cases taken
        exact .permissionsRead ‹_›
      · cases taken
        exact .permissionsUnread ‹_›
    | settingPermissions mode =>
      cases taken
      exact .permissionsSet mode
    | replacing =>
      obtain ⟨file, hfile, rfl⟩ := Option.map_eq_some_iff.mp taken
      exact .renamed hfile
    | openingDirectory =>
      cases taken
      exact .opened
    | syncingDirectory =>
      cases taken
      exact .directorySynced
    | removing step =>
      obtain ⟨file, hfile, rfl⟩ := Option.map_eq_some_iff.mp taken
      exact .removed hfile
    | finished result => cases taken
  | wrote bytes =>
    cases phase with
    | writing written =>
      simp only [advance] at taken
      split at taken
      · next hfits =>
        cases taken
        exact .wrote bytes hfits.2
      · cases taken
    | _ => cases taken
  | failed =>
    cases phase with
    | serializing =>
      cases taken
      exact .notSerialized
    | removing step =>
      cases taken
      exact .kept step
    | readingPermissions => cases taken
    | finished result => cases taken
    | _ =>
      cases taken
      exact .failed rfl

end ConfigWriter

/-! ### The temporary name -/

theorem toDigits_injective : Function.Injective (Nat.toDigits 10) := by
  intro m n h
  have hvalue := congrArg (fun digits => Nat.ofDigitChars 10 digits 0) h
  simpa only [Nat.ofDigitChars_ten_toDigits] using hvalue

theorem tempName_ne (fileName : List Char) (process write : Nat) :
    tempName fileName process write ≠ fileName := by
  intro h
  have hlength := congrArg List.length h
  simp only [tempName, List.length_cons, List.length_append] at hlength
  omega

theorem splitOnce_toDigits (n : Nat) (rest : List Char) :
    Text.splitOnce '.' (Nat.toDigits 10 n ++ '.' :: rest) = some (Nat.toDigits 10 n, rest) :=
  Text.splitOnce_append '.' rest (Text.not_mem_toDigits (by decide))

theorem tempName_injective {fileName : List Char} {process process' write write' : Nat}
    (h : tempName fileName process write = tempName fileName process' write') :
    process = process' ∧ write = write' := by
  have hnumbers := List.append_cancel_left (List.cons.inj h).2
  have hsplit := congrArg (Text.splitOnce '.') (List.cons.inj hnumbers).2
  rw [splitOnce_toDigits, splitOnce_toDigits, Option.some.injEq, Prod.mk.injEq] at hsplit
  obtain ⟨hprocess, hrest⟩ := hsplit
  exact ⟨toDigits_injective hprocess, toDigits_injective (List.append_cancel_right hrest)⟩

namespace ConfigWriter

variable {path : List Char} {writer : ConfigWriter}

theorem temp_ne : writer.temp path ≠ path :=
  tempName_ne path writer.process writer.write

/-! ### One call -/

/-- The new file is in place, and the temporary one is gone. -/
def Replaced (path : List Char) (writer : ConfigWriter) (start dir : Directory) : Prop :=
  start (writer.temp path) = none ∧
    dir = Function.update start path (some (writer.saved path start))

/-- Nothing but the temporary file has changed. -/
def Aside (path : List Char) (writer : ConfigWriter) (start dir : Directory) : Prop :=
  ∃ left, dir = Function.update start (writer.temp path) left

/-- The temporary file is new and holds this much. -/
def Staged (path : List Char) (writer : ConfigWriter) (start : Directory) (file : StoredFile)
    (dir : Directory) : Prop :=
  start (writer.temp path) = none ∧ dir = Function.update start (writer.temp path) (some file)

/-- The directory after a failed step. -/
def After (path : List Char) (writer : ConfigWriter) (start : Directory) (step : WriteStep)
    (dir : Directory) : Prop :=
  if step.afterRename then writer.Replaced path start dir else writer.Aside path start dir

/-- The directory at each point of a call. -/
def Stage (path : List Char) (writer : ConfigWriter) (start : Directory) :
    Directory × WritePhase → Prop
  | (dir, .serializing) => dir = start
  | (dir, .creating) => dir = start
  | (dir, .writing written) =>
    writer.Staged path start ⟨writer.contents.take written, PRIVATE_MODE⟩ dir
  | (dir, .syncing) => writer.Staged path start ⟨writer.contents, PRIVATE_MODE⟩ dir
  | (dir, .readingPermissions) => writer.Staged path start ⟨writer.contents, PRIVATE_MODE⟩ dir
  | (dir, .settingPermissions mode) =>
    writer.existing path start = some mode ∧
      writer.Staged path start ⟨writer.contents, PRIVATE_MODE⟩ dir
  | (dir, .replacing) => writer.Staged path start (writer.saved path start) dir
  | (dir, .openingDirectory) => writer.Replaced path start dir
  | (dir, .syncingDirectory) => writer.Replaced path start dir
  | (dir, .removing step) => writer.After path start step dir
  | (dir, .finished .ok) => writer.Replaced path start dir
  | (dir, .finished .unserializable) => dir = start
  | (dir, .finished (.failed step)) => writer.After path start step dir

variable {start dir : Directory} {file : StoredFile}

theorem Staged.aside (h : writer.Staged path start file dir) : writer.Aside path start dir :=
  ⟨some file, h.2⟩

theorem Staged.temp_eq (h : writer.Staged path start file dir) :
    dir (writer.temp path) = some file := by
  rw [h.2, Function.update_self]

theorem Staged.path_eq (h : writer.Staged path start file dir) : dir path = start path := by
  rw [h.2, Function.update_of_ne temp_ne.symm]

theorem Staged.existing_eq (h : writer.Staged path start file dir) :
    writer.existing path dir = writer.existing path start := by
  rw [existing, existing, h.path_eq]

/-- The temporary file is changed in place. -/
theorem Staged.edit (h : writer.Staged path start file dir) (f : StoredFile → StoredFile) :
    writer.Staged path start (f file) (Function.update dir (writer.temp path)
      ((dir (writer.temp path)).map f)) := by
  refine ⟨h.1, ?_⟩
  rw [h.temp_eq, h.2, Function.update_idem]
  rfl

theorem Staged.rename (h : writer.Staged path start (writer.saved path start) dir) :
    writer.Replaced path start (Function.update (Function.update dir path
      (some (writer.saved path start))) (writer.temp path) none) := by
  refine ⟨h.1, ?_⟩
  rw [h.2]
  funext name
  by_cases htemp : name = writer.temp path
  · subst htemp
    rw [Function.update_self, Function.update_of_ne temp_ne, h.1]
  · by_cases hpath : name = path
    · subst hpath
      rw [Function.update_of_ne htemp, Function.update_self, Function.update_self]
    · rw [Function.update_of_ne htemp, Function.update_of_ne hpath, Function.update_of_ne htemp,
        Function.update_of_ne hpath]

theorem Aside.remove (h : writer.Aside path start dir) :
    writer.Aside path start (Function.update dir (writer.temp path) none) := by
  obtain ⟨left, rfl⟩ := h
  exact ⟨none, Function.update_idem _ _ _⟩

theorem Replaced.temp_eq (h : writer.Replaced path start dir) : dir (writer.temp path) = none := by
  rw [h.2, Function.update_of_ne temp_ne, h.1]

theorem saved_of_existing {mode : Nat} (h : writer.existing path start = some mode) :
    writer.saved path start = ⟨writer.contents, mode⟩ := by
  rw [saved, h]
  rfl

theorem saved_of_none (h : writer.existing path start = none) :
    writer.saved path start = ⟨writer.contents, PRIVATE_MODE⟩ := by
  rw [saved, h]
  rfl

/-- A step of a call leads from one stage to the next, or to the end of the call. -/
theorem Stage.step {before after : Directory × WritePhase} {outcome : StepOutcome}
    (h : writer.Stage path start before)
    (taken : writer.advance path before outcome = some after) :
    writer.Stage path start after := by
  obtain ⟨dir, phase⟩ := before
  obtain ⟨dir', phase'⟩ := after
  have hcases := advance_cases path writer taken
  simp only at hcases
  cases hcases with
  | serialized => exact h
  | notSerialized => exact h
  | created free =>
    cases h
    exact ⟨free, rfl⟩
  | wrote bytes fits =>
    exact h.edit fun file => { file with content := writer.contents.take _ }
  | wroteAll => simpa only [Stage, List.take_length] using h
  | synced => exact h
  | permissionsRead found =>
    rw [Staged.existing_eq h] at found
    exact ⟨found, h⟩
  | permissionsUnread absent =>
    rw [Staged.existing_eq h] at absent
    rw [Stage, saved_of_none absent]
    exact h
  | permissionsSet mode =>
    rw [Stage, saved_of_existing h.1]
    exact h.2.edit fun file => { file with mode := mode }
  | renamed found =>
    rw [Staged.temp_eq h] at found
    cases found
    exact h.rename
  | opened => exact h
  | directorySynced => exact h
  | failed fails =>
    cases phase with
    | creating =>
      cases fails
      cases h
      exact ⟨_, (Function.update_eq_self (writer.temp path) _).symm⟩
    | writing written =>
      cases fails
      exact h.aside
    | syncing =>
      cases fails
      exact h.aside
    | settingPermissions mode =>
      cases fails
      exact h.2.aside
    | replacing =>
      cases fails
      exact h.aside
    | openingDirectory =>
      cases fails
      exact h
    | syncingDirectory =>
      cases fails
      exact h
    | _ => cases fails
  | @removed step file found =>
    simp only [Stage, After] at h ⊢
    split at h
    · rw [h.temp_eq] at found
      cases found
    · next hbefore =>
      rw [if_neg hbefore]
      exact h.remove
  | kept step => exact h

theorem stage_of_run {state : Directory × WritePhase} {outcomes : List StepOutcome}
    (run : (writer.writeToPath path start).run (start, .serializing) outcomes = some state) :
    writer.Stage path start state := by
  have hreachable : (writer.writeToPath path start).Reachable state := .of_run .init run
  refine hreachable.invariant (I := writer.Stage path start) ?_ fun _ _ _ h taken => h.step taken
  rfl

/-- The temporary file is gone if removing it after a failure succeeds. -/
theorem temp_of_removed {before : Directory × WritePhase} {step : WriteStep}
    (taken : writer.advance path before .ok = some (dir, .finished (.failed step))) :
    dir (writer.temp path) = none := by
  obtain ⟨dir', phase⟩ := before
  have hcases := advance_cases path writer taken
  simp only at hcases
  cases hcases with
  | removed => exact Function.update_self _ _ _

/-! ### Several calls -/

/-- A step touches the temporary file of the call and, when it renames, the file itself. -/
theorem advance_frame {before after : Directory × WritePhase} {outcome : StepOutcome}
    (taken : writer.advance path before outcome = some after) {name : List Char}
    (other : name ≠ writer.temp path) :
    after.1 name = before.1 name ∨
      name = path ∧ before.2 = .replacing ∧ after.1 name = before.1 (writer.temp path) := by
  obtain ⟨dir, phase⟩ := before
  obtain ⟨dir', phase'⟩ := after
  have hcases := advance_cases path writer taken
  simp only at hcases ⊢
  cases hcases with
  | renamed found =>
    rw [Function.update_of_ne other]
    by_cases hpath : name = path
    · subst hpath
      rw [Function.update_self, found]
      exact .inr ⟨rfl, rfl, rfl⟩
    · exact .inl (Function.update_of_ne hpath _ _)
  | created => exact .inl (Function.update_of_ne other _ _)
  | wrote => exact .inl (Function.update_of_ne other _ _)
  | permissionsSet => exact .inl (Function.update_of_ne other _ _)
  | removed => exact .inl (Function.update_of_ne other _ _)
  | _ => exact .inl rfl

/-- How much of the new content the temporary file must hold, whatever its permissions. -/
def Keeps (writer : ConfigWriter) (file : Option StoredFile) : WritePhase → Prop
  | .writing written => ∃ mode, file = some ⟨writer.contents.take written, mode⟩
  | .syncing => ∃ mode, file = some ⟨writer.contents, mode⟩
  | .readingPermissions => ∃ mode, file = some ⟨writer.contents, mode⟩
  | .settingPermissions _ => ∃ mode, file = some ⟨writer.contents, mode⟩
  | .replacing => ∃ mode, file = some ⟨writer.contents, mode⟩
  | _ => True

theorem Keeps.step {before after : Directory × WritePhase} {outcome : StepOutcome}
    (h : writer.Keeps (before.1 (writer.temp path)) before.2)
    (taken : writer.advance path before outcome = some after) :
    writer.Keeps (after.1 (writer.temp path)) after.2 := by
  obtain ⟨dir, phase⟩ := before
  obtain ⟨dir', phase'⟩ := after
  have hcases := advance_cases path writer taken
  simp only at hcases h ⊢
  cases hcases with
  | created => exact ⟨PRIVATE_MODE, Function.update_self _ _ _⟩
  | wrote bytes fits =>
    obtain ⟨mode, hfile⟩ := h
    exact ⟨mode, by rw [Function.update_self, hfile]; rfl⟩
  | wroteAll => simpa only [Keeps, List.take_length] using h
  | permissionsSet mode =>
    obtain ⟨old, hfile⟩ := h
    exact ⟨mode, by rw [Function.update_self, hfile]; rfl⟩
  | synced => exact h
  | permissionsRead => exact h
  | permissionsUnread => exact h
  | _ => trivial

end ConfigWriter

/-- Calls for one path at the same time. No two share their numbers: those of a process count up,
and processes differ. -/
structure ConfigWriters where
  writer : Nat → ConfigWriter
  apart : ∀ i j, (writer i).process = (writer j).process → (writer i).write = (writer j).write →
    i = j

namespace ConfigWriters

/-- Any call may take its next step. -/
def system (writers : ConfigWriters) (path : List Char) (start : Directory) :
    TransitionSystem (Directory × (Nat → WritePhase)) (Nat × StepOutcome) where
  init := (start, fun _ => .serializing)
  step state label :=
    ((writers.writer label.1).advance path (state.1, state.2 label.1) label.2).map fun next =>
      (next.1, Function.update state.2 label.1 next.2)

/-- Every call has what it wrote in its own file, and the file itself is untouched or a whole
one. -/
structure Whole (writers : ConfigWriters) (path : List Char) (start : Directory)
    (state : Directory × (Nat → WritePhase)) : Prop where
  keeps : ∀ i, (writers.writer i).Keeps (state.1 ((writers.writer i).temp path)) (state.2 i)
  whole : state.1 path = start path ∨
    ∃ i mode, state.1 path = some ⟨(writers.writer i).contents, mode⟩

variable {writers : ConfigWriters} {path : List Char} {start : Directory}

theorem temp_injective {i j : Nat}
    (h : (writers.writer i).temp path = (writers.writer j).temp path) : i = j :=
  writers.apart i j (tempName_injective h).1 (tempName_injective h).2

theorem Whole.step {before after : Directory × (Nat → WritePhase)} {label : Nat × StepOutcome}
    (h : Whole writers path start before)
    (taken : (writers.system path start).step before label = some after) :
    Whole writers path start after := by
  obtain ⟨i, outcome⟩ := label
  obtain ⟨next, hnext, rfl⟩ := Option.map_eq_some_iff.mp taken
  constructor
  · intro j
    by_cases hij : j = i
    · subst hij
      simp only [Function.update_self]
      exact ConfigWriter.Keeps.step (h.keeps j) hnext
    · have hother : (writers.writer j).temp path ≠ (writers.writer i).temp path :=
        fun heq => hij (temp_injective heq)
      simp only [Function.update_of_ne hij]
      rcases ConfigWriter.advance_frame hnext hother with hsame | ⟨hpath, -, -⟩
      · rw [hsame]
        exact h.keeps j
      · exact absurd hpath ConfigWriter.temp_ne
  · rcases ConfigWriter.advance_frame hnext ConfigWriter.temp_ne.symm with
      hsame | ⟨-, hphase, hrenamed⟩
    · rw [hsame]
      exact h.whole
    · have hkeeps := h.keeps i
      simp only at hphase hrenamed
      rw [hphase] at hkeeps
      obtain ⟨mode, hfile⟩ := hkeeps
      exact .inr ⟨i, mode, hrenamed.trans hfile⟩

end ConfigWriters

/-- A call that reports success has replaced the file, with the permissions it could read; one
that reports a failure up to the rename has changed nothing; one that could not open or sync the
directory reports a failure although the new file is in place. No temporary file is left where
removing it succeeds. Of several calls, each file that is seen is the first one or a whole one. -/
theorem save_outcomes (path : List Char) (start : Directory) :
    (∀ (writer : ConfigWriter) (dir : Directory) (outcomes : List StepOutcome)
        (result : WriteResult),
      (writer.writeToPath path start).run (start, .serializing) outcomes =
        some (dir, .finished result) →
      (∀ name, name ≠ path → name ≠ writer.temp path → dir name = start name) ∧
      (result = .ok → dir path = some (writer.saved path start) ∧
        dir (writer.temp path) = none) ∧
      (result = .unserializable → dir = start) ∧
      ∀ step, result = .failed step →
        dir path = (if step.afterRename then some (writer.saved path start) else start path) ∧
        (step.afterRename = true ∨ outcomes.getLast? = some .ok →
          dir (writer.temp path) = none)) ∧
    ∀ (writers : ConfigWriters) (dir : Directory) (phases : Nat → WritePhase),
      (writers.system path start).Reachable (dir, phases) →
      dir path = start path ∨ ∃ i mode, dir path = some ⟨(writers.writer i).contents, mode⟩ := by
  constructor
  · intro writer dir outcomes result run
    have hstage := ConfigWriter.stage_of_run run
    have hreplaced (h : writer.Replaced path start dir) :
        (∀ name, name ≠ path → name ≠ writer.temp path → dir name = start name) ∧
          dir path = some (writer.saved path start) := by
      rw [h.2]
      exact ⟨fun name hpath _ => Function.update_of_ne hpath _ _, Function.update_self _ _ _⟩
    have haside (h : writer.Aside path start dir) :
        (∀ name, name ≠ path → name ≠ writer.temp path → dir name = start name) ∧
          dir path = start path := by
      obtain ⟨left, rfl⟩ := h
      exact ⟨fun name _ htemp => Function.update_of_ne htemp _ _,
        Function.update_of_ne ConfigWriter.temp_ne.symm _ _⟩
    cases result with
    | ok =>
      refine ⟨(hreplaced hstage).1, fun _ => ⟨(hreplaced hstage).2, hstage.temp_eq⟩, ?_, ?_⟩
      · rintro ⟨⟩
      · rintro step ⟨⟩
    | unserializable =>
      refine ⟨fun name _ _ => congrFun hstage name, ?_, fun _ => hstage, ?_⟩
      · rintro ⟨⟩
      · rintro step ⟨⟩
    | failed step =>
      have hremoved (hlast : outcomes.getLast? = some .ok) : dir (writer.temp path) = none := by
        obtain ⟨before, rfl⟩ := List.getLast?_eq_some_iff.mp hlast
        obtain ⟨state, -, htaken⟩ := TransitionSystem.run_snoc run
        exact ConfigWriter.temp_of_removed htaken
      simp only [ConfigWriter.Stage, ConfigWriter.After] at hstage
      split at hstage
      · next hafter =>
        refine ⟨(hreplaced hstage).1, ?_, ?_, ?_⟩
        · rintro ⟨⟩
        · rintro ⟨⟩
        · rintro other ⟨⟩
          rw [if_pos hafter]
          exact ⟨(hreplaced hstage).2, fun _ => hstage.temp_eq⟩
      · next hbefore =>
        refine ⟨(haside hstage).1, ?_, ?_, ?_⟩
        · rintro ⟨⟩
        · rintro ⟨⟩
        · rintro other ⟨⟩
          rw [if_neg hbefore]
          refine ⟨(haside hstage).2, ?_⟩
          rintro (hafter | hlast)
          · exact absurd hafter hbefore
          · exact hremoved hlast
  · intro writers dir phases reachable
    have hwhole : writers.Whole path start (dir, phases) := by
      refine reachable.invariant (I := writers.Whole path start) ?_ fun _ _ _ h taken =>
        h.step taken
      exact ⟨fun _ => trivial, .inl rfl⟩
    exact hwhole.whole

section Examples

def configPath : List Char := "config.toml".toList

def configDir : Directory := fun name => if name = configPath then some ⟨[1], 0o640⟩ else none

def guiWriter : ConfigWriter := ⟨[2, 3], 7, 0, true⟩

/-- The steps of a call up to the rename, as they go without a failure. -/
def upToRename : List StepOutcome := [.ok, .ok, .wrote 1, .wrote 1, .ok, .ok, .ok, .ok, .ok]

/-- The directory cannot be opened after the rename: the call fails, and the file is the new
one. -/
theorem fails_after_rename :
    (((guiWriter.writeToPath configPath configDir).run (configDir, .serializing)
      (upToRename ++ [.failed, .failed])).map fun state => (state.1 configPath, state.2)) =
        some (some ⟨[2, 3], 0o640⟩, .finished (.failed .openDirectory)) ∧
      configDir configPath = some ⟨[1], 0o640⟩ := by
  decide +kernel

def twoWriters : ConfigWriters where
  writer i := ⟨[UInt8.ofNat i], 7, i, true⟩
  apart := fun _ _ _ sameWrite => sameWrite

/-- Two calls that take turns. -/
def inTurn : List (Nat × StepOutcome) :=
  [.ok, .ok, .wrote 1, .ok, .ok, .ok, .ok, .ok].flatMap fun outcome => [(2, outcome), (3, outcome)]

theorem save_outcomes_in_config_dir :
    (∃ dir, (guiWriter.writeToPath configPath configDir).run (configDir, .serializing)
        (upToRename ++ [.ok, .ok]) = some (dir, .finished .ok) ∧
      dir configPath = some ⟨[2, 3], 0o640⟩ ∧ dir (guiWriter.temp configPath) = none) ∧
    ∃ dir phases, (twoWriters.system configPath configDir).Reachable (dir, phases) ∧
      phases 3 = .openingDirectory ∧ (dir configPath = configDir configPath ∨
        ∃ i mode, dir configPath = some ⟨(twoWriters.writer i).contents, mode⟩) := by
  have houtcomes := save_outcomes configPath configDir
  constructor
  · have hrun : ((guiWriter.writeToPath configPath configDir).run (configDir, .serializing)
        (upToRename ++ [.ok, .ok])).map Prod.snd = some (.finished .ok) := by
      decide +kernel
    obtain ⟨⟨dir, phase⟩, hdir, hphase⟩ := Option.map_eq_some_iff.mp hrun
    cases hphase
    have hsaved := (houtcomes.1 guiWriter dir _ .ok hdir).2.1 rfl
    exact ⟨dir, hdir, hsaved⟩
  · have hrun : ((twoWriters.system configPath configDir).run (configDir, fun _ => .serializing)
        inTurn).map (fun state => state.2 3) = some .openingDirectory := by
      decide +kernel
    obtain ⟨⟨dir, phases⟩, hdir, hphase⟩ := Option.map_eq_some_iff.mp hrun
    have hreachable : (twoWriters.system configPath configDir).Reachable (dir, phases) :=
      .of_run .init hdir
    exact ⟨dir, phases, hreachable, hphase, houtcomes.2 twoWriters dir phases hreachable⟩

end Examples

end AirSonos
