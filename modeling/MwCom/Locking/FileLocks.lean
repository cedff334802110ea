/-
Module: MwCom.Locking.FileLocks
Purpose: Advisory locks on files that are reached by names: a lock belongs to the opened
  file and its holder, not to the name, and goes with its holder.
Trusted boundary: locking, unlocking and unlinking a file are indivisible, a lock goes
  when its holder dies, and it stays on a file whose name is unlinked, as flock has it.
Main exports: LockedFiles, LockedFiles.Holds, FileOp, FileOp.outcomes, outcomes_others,
  wellLocked_of_outcome
-/
import Mathlib.Logic.Function.Basic

namespace Locking

open Function

/-- How a file is locked: shared locks exclude the exclusive one. -/
inductive Mode where
  | shared
  | exclusive
deriving DecidableEq, Repr

/-- The files that names lead to, and the locks on files. -/
structure LockedFiles (Path Holder : Type) where
  named : Path → Option Nat
  /-- Files are numbered as they are created. -/
  created : Nat
  owner : Nat → Option Holder
  sharers : Nat → List Holder

variable {Path Holder : Type}

namespace LockedFiles

/-- No file yet. -/
def empty : LockedFiles Path Holder where
  named _ := none
  created := 0
  owner _ := none
  sharers _ := []

variable (files : LockedFiles Path Holder)

/-- Whether the file may be locked now. -/
def mayLock (file : Nat) : Mode → Bool
  | .shared => (files.owner file).isNone
  | .exclusive => (files.owner file).isNone && (files.sharers file).isEmpty

/-- The holder has a lock on the file. -/
def Holds (file : Nat) (holder : Holder) : Mode → Prop
  | .shared => holder ∈ files.sharers file
  | .exclusive => files.owner file = some holder

/-- The holder locks the file. -/
def lock (file : Nat) (holder : Holder) : Mode → LockedFiles Path Holder
  | .shared =>
      { files with
        sharers := update files.sharers file (holder :: files.sharers file) }
  | .exclusive => { files with owner := update files.owner file (some holder) }

/-- Some holders give up their locks on the file. -/
def withdraw (file : Nat) (gone : Holder → Bool) : LockedFiles Path Holder :=
  { files with
    owner := update files.owner file
      ((files.owner file).filter fun holder => !gone holder)
    sharers := update files.sharers file
      ((files.sharers file).filter fun holder => !gone holder) }

/-- The holder gives up its locks on the file. -/
def unlock [DecidableEq Holder] (file : Nat) (holder : Holder) : LockedFiles Path Holder :=
  files.withdraw file fun other => other == holder

/-- Holders that are killed lose every lock. -/
def release (killed : Holder → Bool) : LockedFiles Path Holder :=
  { files with
    owner := fun file => (files.owner file).filter fun holder => !killed holder
    sharers := fun file => (files.sharers file).filter fun holder => !killed holder }

variable [DecidableEq Path]

/-- The file that the name leads to, or a new one. -/
def openOrCreate (path : Path) : Nat × LockedFiles Path Holder :=
  match files.named path with
  | some file => (file, files)
  | none =>
      (files.created, { files with
          named := update files.named path (some files.created)
          created := files.created + 1 })

/-- The name leads nowhere any more; the file stays as long as it is open. -/
def unlink (path : Path) : LockedFiles Path Holder :=
  { files with named := update files.named path none }

end LockedFiles

/-! ## Operations on files -/

/-- The operations of a process on files that it may lock. -/
inductive FileOp (Path : Type) where
  | open (path : Path)
  | openOrCreate (path : Path)
  | tryLock (file : Nat) (mode : Mode)
  | unlock (file : Nat)
  | unlink (path : Path)
deriving DecidableEq, Repr

/-- What the operations answer. -/
def FileOp.Ret : FileOp Path → Type
  | .open _ => Option Nat
  | .openOrCreate _ => Option Nat
  | .tryLock _ _ => Bool
  | .unlock _ => Unit
  | .unlink _ => Unit

/-- The outcomes of an operation; opening a file may always fail. -/
def FileOp.outcomes [DecidableEq Path] [DecidableEq Holder] (holder : Holder) :
    (op : FileOp Path) → LockedFiles Path Holder → List (op.Ret × LockedFiles Path Holder)
  | .open path, files => [(files.named path, files), (none, files)]
  | .openOrCreate path, files =>
      [(some (files.openOrCreate path).1, (files.openOrCreate path).2), (none, files)]
  | .tryLock file mode, files =>
      if files.mayLock file mode then
        [(true, files.lock file holder mode)]
      else
        [(false, files)]
  | .unlock file, files => [((), files.unlock file holder)]
  | .unlink path, files => [((), files.unlink path)]

namespace LockedFiles

variable {files after : LockedFiles Path Holder} {file other : Nat}
  {holder another : Holder} {mode : Mode}

/-- An exclusive lock needs a file that nobody has locked. -/
theorem mayLock_exclusive : files.mayLock file .exclusive = true ↔
      files.owner file = none ∧ files.sharers file = [] := by
  simp [mayLock]

/-- A shared lock needs a file that nobody has locked exclusively. -/
theorem mayLock_shared : files.mayLock file .shared = true ↔ files.owner file = none := by
  simp [mayLock]

/-- Whoever takes a lock holds it. -/
theorem holds_lock : (files.lock file holder mode).Holds file holder mode := by
  cases mode with
  | shared | exclusive => simp [lock, Holds]

/-- Taking a lock that may be taken leaves all other locks as they are. -/
theorem lock_others {taken : Mode} (free : files.mayLock file taken = true)
    (distinct : another ≠ holder) :
    (files.lock file holder taken).Holds other another mode ↔ files.Holds other another mode := by
  by_cases same : other = file
  · subst same
    cases taken with
    | shared => cases mode <;> simp [lock, Holds, distinct]
    | exclusive =>
        obtain ⟨noOwner, _⟩ := mayLock_exclusive.mp free
        cases mode with
        | shared => simp [lock, Holds]
        | exclusive => simp [lock, Holds, noOwner, distinct.symm]
  · cases taken <;> cases mode <;> simp [lock, Holds, same]

/-- Taking a lock that may be taken adds it to the own ones. -/
theorem lock_own {taken : Mode} (free : files.mayLock file taken = true) :
    (files.lock file holder taken).Holds other holder mode ↔
      files.Holds other holder mode ∨ (other = file ∧ mode = taken) := by
  by_cases same : other = file
  · subst same
    cases taken with
    | shared | exclusive => cases mode <;> simp [lock, Holds]
  · cases taken <;> cases mode <;> simp [lock, Holds, same]

/-- What is left after a withdrawal. -/
theorem holds_withdraw {gone : Holder → Bool} : (files.withdraw file gone).Holds other holder mode ↔
      files.Holds other holder mode ∧ (other = file → gone holder = false) := by
  by_cases same : other = file
  · subst same
    cases mode with
    | shared => simp [withdraw, Holds]
    | exclusive =>
        simp only [withdraw, Holds, update_self, Option.filter_eq_some_iff]
        simp
  · cases mode <;> simp [withdraw, Holds, same]

/-- Giving up a lock leaves the locks of others as they are. -/
theorem unlock_others [DecidableEq Holder] (distinct : another ≠ holder) :
    (files.unlock file holder).Holds other another mode ↔ files.Holds other another mode := by
  simp [unlock, holds_withdraw, distinct]

/-- Giving up the locks on a file leaves those on other files. -/
theorem unlock_own [DecidableEq Holder] : (files.unlock file holder).Holds other holder mode ↔
      files.Holds other holder mode ∧ other ≠ file := by
  simp [unlock, holds_withdraw]

/-- Who is not killed keeps its locks. -/
theorem holds_release {killed : Holder → Bool} : (files.release killed).Holds file holder mode ↔
      files.Holds file holder mode ∧ killed holder = false := by
  cases mode with
  | shared => simp [release, Holds]
  | exclusive =>
      simp only [release, Holds, Option.filter_eq_some_iff]
      simp

section Names

variable [DecidableEq Path] {path : Path}

@[simp] theorem openOrCreate_holds :
    (files.openOrCreate path).2.Holds file holder mode ↔ files.Holds file holder mode := by
  unfold openOrCreate
  split <;> cases mode <;> rfl

@[simp] theorem unlink_holds :
    (files.unlink path).Holds file holder mode ↔ files.Holds file holder mode := by
  cases mode <;> rfl

/-- The name leads to the file that was opened. -/
theorem openOrCreate_named :
    (files.openOrCreate path).2.named path = some (files.openOrCreate path).1 := by
  unfold openOrCreate
  split
  · assumption
  · simp

/-- A name that leads somewhere goes on leading there. -/
theorem openOrCreate_keeps {name : Path} (leads : files.named name = some file) :
    (files.openOrCreate path).2.named name = some file := by
  unfold openOrCreate
  split
  · exact leads
  · rename_i leadsNowhere
    by_cases same : name = path
    · subst same
      rw [leadsNowhere] at leads
      cases leads
    · simpa [same] using leads

end Names

/-- At most one kind of lock on each file. -/
def WellLocked (files : LockedFiles Path Holder) : Prop :=
  ∀ file, (files.owner file).isSome = true → files.sharers file = []

/-- The exclusive lock excludes shared ones. -/
theorem WellLocked.excludes (wellLocked : files.WellLocked)
    (exclusive : files.Holds file holder .exclusive) :
    ¬ files.Holds file another .shared := by
  have owned : files.owner file = some holder := exclusive
  have none := wellLocked file (by simp [owned])
  simp [Holds, none]

theorem WellLocked.lock (wellLocked : files.WellLocked)
    (free : files.mayLock file mode = true) : (files.lock file holder mode).WellLocked := by
  intro locked owned
  by_cases same : locked = file
  · subst same
    cases mode with
    | shared =>
        have unowned : files.owner locked = none := mayLock_shared.mp free
        simp [LockedFiles.lock, unowned] at owned
    | exclusive => exact (mayLock_exclusive.mp free).2
  · cases mode with
    | shared =>
        have none := wellLocked locked owned
        simpa [LockedFiles.lock, same] using none
    | exclusive =>
        simp only [LockedFiles.lock, update_of_ne same] at owned
        exact wellLocked locked owned

theorem WellLocked.withdraw {gone : Holder → Bool} (wellLocked : files.WellLocked) :
    (files.withdraw file gone).WellLocked := by
  intro locked owned
  by_cases same : locked = file
  · subst same
    simp only [LockedFiles.withdraw, update_self, Option.isSome_filter] at owned
    have none := wellLocked locked (Option.isSome_of_any owned)
    simp [LockedFiles.withdraw, none]
  · simp only [LockedFiles.withdraw, update_of_ne same] at owned ⊢
    exact wellLocked locked owned

theorem WellLocked.release {killed : Holder → Bool} (wellLocked : files.WellLocked) :
    (files.release killed).WellLocked := by
  intro locked owned
  simp only [LockedFiles.release, Option.isSome_filter] at owned
  have none := wellLocked locked (Option.isSome_of_any owned)
  simp [LockedFiles.release, none]

/-- There is one exclusive lock. -/
theorem holds_exclusive_unique (one : files.Holds file holder .exclusive)
    (two : files.Holds file another .exclusive) : holder = another := by
  have first : files.owner file = some holder := one
  have second : files.owner file = some another := two
  rw [first] at second
  exact Option.some.inj second

end LockedFiles

/-! ## What an operation keeps -/

section Outcomes

open LockedFiles

variable [DecidableEq Path] [DecidableEq Holder] {holder another : Holder}
  {op : FileOp Path} {answer : op.Ret} {before after : LockedFiles Path Holder}

/-- What an operation makes of the files. -/
theorem outcome_cases (outcome : (answer, after) ∈ op.outcomes holder before) : after = before ∨
      (∃ path, op = .openOrCreate path ∧ after = (before.openOrCreate path).2) ∨
      (∃ file mode, op = .tryLock file mode ∧ before.mayLock file mode = true ∧
        after = before.lock file holder mode) ∨
      (∃ file, op = .unlock file ∧ after = before.unlock file holder) ∨
      ∃ path, op = .unlink path ∧ after = before.unlink path := by
  cases op with
  | «open» path =>
      left
      rcases List.mem_cons.mp outcome with same | rest
      · exact congrArg Prod.snd same
      · exact congrArg Prod.snd (List.mem_singleton.mp rest)
  | openOrCreate path =>
      rcases List.mem_cons.mp outcome with same | rest
      · exact .inr (.inl ⟨path, rfl, congrArg Prod.snd same⟩)
      · exact .inl (congrArg Prod.snd (List.mem_singleton.mp rest))
  | tryLock file mode =>
      rw [FileOp.outcomes] at outcome
      split at outcome
      · rename_i free
        have locked := congrArg Prod.snd (List.mem_singleton.mp outcome)
        exact .inr (.inr (.inl ⟨file, mode, rfl, free, locked⟩))
      · exact .inl (congrArg Prod.snd (List.mem_singleton.mp outcome))
  | unlock file =>
      have unlocked := congrArg Prod.snd (List.mem_singleton.mp outcome)
      exact .inr (.inr (.inr (.inl ⟨file, rfl, unlocked⟩)))
  | unlink path =>
      have unlinked := congrArg Prod.snd (List.mem_singleton.mp outcome)
      exact .inr (.inr (.inr (.inr ⟨path, rfl, unlinked⟩)))

/-- An operation leaves the locks of other holders as they are. -/
theorem outcomes_others (outcome : (answer, after) ∈ op.outcomes holder before)
    (distinct : another ≠ holder) (file : Nat) (mode : Mode) :
    after.Holds file another mode ↔ before.Holds file another mode := by
  obtain rfl | ⟨path, -, rfl⟩ | ⟨locked, taken, -, free, rfl⟩ | ⟨locked, -, rfl⟩ |
    ⟨path, -, rfl⟩ := outcome_cases outcome
  · rfl
  · exact openOrCreate_holds
  · exact lock_others free distinct
  · exact unlock_others distinct
  · exact unlink_holds

/-- The two kinds of locks go on excluding each other. -/
theorem wellLocked_of_outcome (outcome : (answer, after) ∈ op.outcomes holder before)
    (wellLocked : before.WellLocked) : after.WellLocked := by
  obtain rfl | ⟨path, -, rfl⟩ | ⟨locked, taken, -, free, rfl⟩ | ⟨locked, -, rfl⟩ |
    ⟨path, -, rfl⟩ := outcome_cases outcome
  · exact wellLocked
  · intro file
    unfold openOrCreate
    split
    · exact wellLocked file
    · exact wellLocked file
  · exact wellLocked.lock free
  · exact wellLocked.withdraw
  · exact wellLocked

variable {file : Nat}

/-- Only an unlink takes a name away from a file. -/
theorem outcomes_keep_names (outcome : (answer, after) ∈ op.outcomes holder before)
    (noUnlink : ∀ path, op ≠ .unlink path) {path : Path} (leads : before.named path = some file) :
    after.named path = some file := by
  obtain rfl | ⟨opened, -, rfl⟩ | ⟨locked, taken, -, -, rfl⟩ | ⟨locked, -, rfl⟩ |
    ⟨unlinked, isUnlink, -⟩ := outcome_cases outcome
  · exact leads
  · exact openOrCreate_keeps leads
  · cases taken <;> exact leads
  · exact leads
  · exact absurd isUnlink (noUnlink unlinked)

/-- An opened file is the one that the name leads to. -/
theorem named_of_openOrCreate {path : Path}
    (outcome : (some file, after) ∈ (FileOp.openOrCreate path).outcomes holder before) :
    after.named path = some file := by
  rcases List.mem_cons.mp outcome with same | rest
  · cases same
    exact openOrCreate_named
  · cases List.mem_singleton.mp rest

theorem named_of_open {path : Path}
    (outcome : (some file, after) ∈ (FileOp.open path).outcomes holder before) :
    before.named path = some file ∧ after = before := by
  rcases List.mem_cons.mp outcome with same | rest
  · obtain ⟨leads, kept⟩ := Prod.mk.inj same
    exact ⟨leads.symm, kept⟩
  · cases List.mem_singleton.mp rest

/-- A successful attempt locks a file that was free. -/
theorem holds_of_tryLock {mode : Mode}
    (outcome : (true, after) ∈ (FileOp.tryLock file mode : FileOp Path).outcomes holder before) :
    before.mayLock file mode = true ∧ after.Holds file holder mode := by
  rw [FileOp.outcomes] at outcome
  split at outcome
  · rename_i free
    cases List.mem_singleton.mp outcome
    exact ⟨free, holds_lock⟩
  · cases List.mem_singleton.mp outcome

/-- A failed attempt changes nothing, and some lock is in its way. -/
theorem unchanged_of_tryLock {mode : Mode}
    (outcome : (false, after) ∈ (FileOp.tryLock file mode : FileOp Path).outcomes holder before) :
    before.mayLock file mode = false ∧ after = before := by
  rw [FileOp.outcomes] at outcome
  split at outcome
  · cases List.mem_singleton.mp outcome
  · rename_i taken
    cases List.mem_singleton.mp outcome
    exact ⟨by simpa using taken, rfl⟩

end Outcomes

end Locking
