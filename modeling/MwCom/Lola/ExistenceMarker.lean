/-
Module: MwCom.Lola.ExistenceMarker
Purpose: The existence marker file of a service instance: Skeletons are created under an
  exclusive lock on it and unlink it when they are destroyed, in any number of processes.
Trusted boundary: memory::shared::LockFile opens or creates the file and unlinks its path
  when it ends, if it owns it; its mutex is an exclusive flock on the opened file.
Main exports: Skeleton.create, Skeleton.destroy, SingleProvider,
  singleProvider_of_unshared, singleProvider_violated
-/
import Mathlib.Data.Fintype.Basic
import MwCom.Interleaving.Mortal
import MwCom.Locking.FileLocks

namespace MwCom.Lola

open Interleaving Locking Function

/-- The memory::shared::LockFile: an opened file, and whether its path goes with it. -/
structure LockFile where
  file : Nat
  isOwner : Bool
deriving DecidableEq, Repr

def LockFile.takeOwnership (lockFile : LockFile) : LockFile := { lockFile with isOwner := true }

/-- What processes do about the marker file of one service instance. -/
inductive MarkerOp where
  | createDirectories
  | onFile (op : FileOp Unit)

abbrev MarkerOp.Ret : MarkerOp → Type
  | .createDirectories => Bool
  | .onFile op => op.Ret

abbrev MarkerProgram := Program MarkerOp MarkerOp.Ret

namespace MarkerProgram

def openOrCreate : MarkerProgram (Option Nat) :=
  Program.perform (MarkerOp.onFile (.openOrCreate ()))

def tryLock (file : Nat) (mode : Mode) : MarkerProgram Bool :=
  Program.perform (MarkerOp.onFile (.tryLock file mode))

def unlock (file : Nat) : MarkerProgram Unit := Program.perform (MarkerOp.onFile (.unlock file))

def unlink : MarkerProgram Unit := Program.perform (MarkerOp.onFile (.unlink ()))

end MarkerProgram

/-- An owning LockFile unlinks its path; that it closes the file gives up a lock only
where one is left. -/
def LockFile.destroy (lockFile : LockFile) : MarkerProgram Unit :=
  if lockFile.isOwner then MarkerProgram.unlink else pure ()

/-- The members of a Skeleton that its existence rests on. -/
structure Skeleton where
  serviceInstanceExistenceMarkerFile : LockFile
  /-- The file that the FlockMutexAndLock of the Skeleton has locked. -/
  serviceInstanceExistenceFlockMutexAndLock : Nat
deriving DecidableEq, Repr

def createPartialRestartDirectory : MarkerProgram Bool := Program.perform MarkerOp.createDirectories

def createOrOpenServiceInstanceExistenceMarkerFile : MarkerProgram (Option LockFile) := do
  let takeOwnership := false
  let file ← MarkerProgram.openOrCreate
  pure (file.map fun file => ⟨file, takeOwnership⟩)

/-- Skeleton::Create. -/
def Skeleton.create : MarkerProgram (Option Skeleton) := do
  if ← createPartialRestartDirectory then
    match ← createOrOpenServiceInstanceExistenceMarkerFile with
    | none => pure none
    | some markerFile =>
        if ← MarkerProgram.tryLock markerFile.file .exclusive then
          pure (some ⟨markerFile.takeOwnership, markerFile.file⟩)
        else do
          markerFile.destroy
          pure none
  else
    pure none

/-- The members of a Skeleton are destroyed in the reverse order of their declaration:
first the lock, then the marker file. -/
def Skeleton.destroy (skeleton : Skeleton) : MarkerProgram Unit := do
  MarkerProgram.unlock skeleton.serviceInstanceExistenceFlockMutexAndLock
  skeleton.serviceInstanceExistenceMarkerFile.destroy

/-! ## Any number of providers -/

inductive ExistenceCall where
  | create
  | destroy
deriving DecidableEq, Repr

/-- One who creates Skeletons of the instance, one after the other. -/
structure SkeletonOwner where
  /-- The marker file that it has opened, until it knows that the file is locked by
  another or gives its own lock up. -/
  marker : Option Nat
  /-- Whether it has locked that file. -/
  isLocked : Bool
  /-- The Skeleton that was created and is not destroyed. -/
  skeleton : Option Skeleton
deriving DecidableEq, Repr

namespace SkeletonOwner

def fresh : SkeletonOwner := ⟨none, false, none⟩

def observe (provider : SkeletonOwner) : (op : MarkerOp) → op.Ret → SkeletonOwner
  | .onFile (.openOrCreate _), (file : Option Nat) =>
      { provider with marker := file, isLocked := false }
  | .onFile (.tryLock _ _), (success : Bool) =>
      if success then
        { provider with isLocked := true }
      else
        { provider with marker := none, isLocked := false }
  | .onFile (.unlock _), _ => { provider with marker := none, isLocked := false }
  | _, _ => provider

/-- The lifetime of a Skeleton ends where its destruction begins. -/
def onCall (provider : SkeletonOwner) : ExistenceCall → SkeletonOwner
  | .create => provider
  | .destroy => { provider with skeleton := none }

end SkeletonOwner

/-- Creating and destroying the Skeletons of one service instance. -/
def existenceRole (Thread : Type) [DecidableEq Thread] :
    Role Thread MarkerOp MarkerOp.Ret (LockedFiles Unit Thread) SkeletonOwner ExistenceCall
      (Option Skeleton) where
  outcomes thread op files :=
    match op with
    | .createDirectories => [(true, files), (false, files)]
    | .onFile op => op.outcomes thread files
  mayCall _ provider call :=
    match call with
    | .create => provider.skeleton = none
    | .destroy => provider.skeleton ≠ none
  code _ provider call :=
    match call, provider.skeleton with
    | .destroy, some skeleton => do
        skeleton.destroy
        pure none
    | _, _ => Skeleton.create
  onCall := SkeletonOwner.onCall
  observe := SkeletonOwner.observe
  onReturn provider _ reply := { provider with skeleton := reply }
  release killed files := files.release killed

instance (Thread : Type) [DecidableEq Thread] (thread : Thread) (provider : SkeletonOwner)
    (call : ExistenceCall) : Decidable ((existenceRole Thread).mayCall thread provider call) :=
  match call with
  | .create => inferInstanceAs (Decidable (provider.skeleton = none))
  | .destroy => inferInstanceAs (Decidable (provider.skeleton ≠ none))

variable {Thread : Type} [DecidableEq Thread]

/-- Nobody has created anything. -/
def existenceStart (Thread : Type) [DecidableEq Thread] : (existenceRole Thread).State where
  memory := ⟨.empty, fun _ => false⟩
  object _ := .fresh
  activity _ := .idle

/-- A Skeleton of the provider exists. -/
def HasSkeleton (config : (existenceRole Thread).State) (thread : Thread) : Prop :=
  config.memory.isDead thread = false ∧ (config.object thread).skeleton.isSome = true

instance (config : (existenceRole Thread).State) (thread : Thread) :
    Decidable (HasSkeleton config thread) :=
  inferInstanceAs (Decidable (_ ∧ _))

/-- At most one Skeleton of the service instance exists. -/
def SingleProvider (config : (existenceRole Thread).State) : Prop :=
  ∀ one two, HasSkeleton config one → HasSkeleton config two → one = two

def MarkerOp.isUnlink : MarkerOp → Bool
  | .onFile (.unlink _) => true
  | _ => false

/-- The marker file is unlinked only while nobody else has it open and may still lock
it or has locked it. -/
def UnlinksUnshared (config : (existenceRole Thread).State) : (existenceRole Thread).Move → Prop
  | .perform thread request _ =>
      request.op.isUnlink = true → ∀ other, other ≠ thread → config.memory.isDead other = false →
          (config.object other).marker.isSome = true →
            (config.object other).marker ≠ config.memory.memory.named ()
  | _ => True

instance [Fintype Thread] (config : (existenceRole Thread).State) :
    (move : (existenceRole Thread).Move) → Decidable (UnlinksUnshared config move)
  | .perform _ _ _ => inferInstanceAs (Decidable (_ → _))
  | .call _ _ => isTrue trivial
  | .finish _ _ _ => isTrue trivial
  | .crash _ => isTrue trivial
  | .environment => isTrue trivial

/-! ## What the providers keep -/

/-- Nobody does anything about the marker file that would harm its own Skeleton. -/
def providerManners (Thread : Type) [DecidableEq Thread] : (existenceRole Thread).Manners where
  may _ provider op :=
    match op with
    | .createDirectories => True
    | .onFile (.tryLock file mode) =>
        provider.skeleton = none ∧ provider.marker = some file ∧ mode = .exclusive
    | .onFile (.unlink _) => provider.marker = none
    | .onFile _ => provider.skeleton = none
  expects _ _ _ _ := True
  post _ _ reply provider := reply.isSome = true → provider.isLocked = true

/-- What a provider that lives relies on. -/
structure ProviderKeeps (files : LockedFiles Unit Thread) (thread : Thread)
    (provider : SkeletonOwner) : Prop where
  marker : ∀ file, provider.marker = some file → files.named () = some file
  locked : provider.isLocked = true →
    ∃ file, provider.marker = some file ∧ files.Holds file thread .exclusive
  skeleton : provider.skeleton.isSome = true → provider.isLocked = true

/-- Every open marker file is the one that the name leads to, and a Skeleton has it
locked. -/
def ExistenceInv (files : LockedFiles Unit Thread) (isDead : Thread → Bool)
    (provider : Thread → SkeletonOwner) : Prop :=
  ∀ thread, isDead thread = false → ProviderKeeps files thread (provider thread)

variable {files after : LockedFiles Unit Thread} {thread : Thread} {provider : SkeletonOwner}

omit [DecidableEq Thread] in
/-- A provider that did not move keeps what it relies on, where the name of its marker
file and its lock are left alone. -/
theorem ProviderKeeps.frame (keeps : ProviderKeeps files thread provider)
    (named : ∀ file, provider.marker = some file → files.named () = some file →
      after.named () = some file)
    (locks : ∀ file, files.Holds file thread .exclusive → after.Holds file thread .exclusive) :
    ProviderKeeps after thread provider where
  marker file opened := named file opened (keeps.marker file opened)
  locked isLocked := by
    obtain ⟨file, opened, holds⟩ := keeps.locked isLocked
    exact ⟨file, opened, locks file holds⟩
  skeleton := keeps.skeleton

/-- A provider has at most one Skeleton at a time, so a call begins without one. -/
theorem onCall_skeleton {call : ExistenceCall}
    (mayCall : (existenceRole Thread).mayCall thread provider call) :
    (provider.onCall call).skeleton = none := by
  cases call with
  | create => exact mayCall
  | destroy => rfl

/-- Skeleton::Create hands out a Skeleton only where the marker file is locked. -/
theorem create_respects (noSkeleton : provider.skeleton = none) (call : ExistenceCall) :
    Skeleton.create.Respects ((providerManners Thread).rules thread) provider
      ((providerManners Thread).post thread call) := by
  unfold Skeleton.create createPartialRestartDirectory
  apply Program.Respects.perform trivial
  intro isCreated _
  cases isCreated with
  | false => exact fun created => by cases created
  | true =>
      apply Program.Respects.perform noSkeleton
      intro opened _
      cases opened with
      | none => exact fun created => by cases created
      | some file =>
          apply Program.Respects.perform
          · exact ⟨noSkeleton, rfl, rfl⟩
          · intro isLocked _
            cases isLocked with
            | true => exact fun _ => rfl
            | false => exact fun created => by cases created

/-- The destructor unlocks before it unlinks. -/
theorem destroy_respects (skeleton : Skeleton) (noSkeleton : provider.skeleton = none)
    (call : ExistenceCall) :
    (do skeleton.destroy; pure none : MarkerProgram (Option Skeleton)).Respects
      ((providerManners Thread).rules thread) provider
      ((providerManners Thread).post thread call) := by
  unfold Skeleton.destroy
  apply Program.Respects.perform noSkeleton
  intro _ _
  unfold LockFile.destroy
  by_cases isOwner : skeleton.serviceInstanceExistenceMarkerFile.isOwner = true
  · rw [if_pos isOwner]
    apply Program.Respects.perform rfl
    intro _ _ created
    cases created
  · rw [if_neg isOwner]
    intro created
    cases created

/-- What an operation of one provider leaves of the others. -/
theorem existenceInv_update {isDead : Thread → Bool} {provider : Thread → SkeletonOwner}
    {moved : SkeletonOwner} (inv : ExistenceInv files isDead provider)
    (own : ProviderKeeps after thread moved)
    (others : ∀ other, other ≠ thread → isDead other = false →
      ProviderKeeps files other (provider other) → ProviderKeeps after other (provider other)) :
    ExistenceInv after isDead (update provider thread moved) := by
  intro other lives
  by_cases same : other = thread
  · subst same
    rw [update_self]
    exact own
  · rw [update_of_ne same]
    exact others other same lives (inv other lives)

/-- What an operation makes of the provider that performs it. -/
theorem providerKeeps_observe {before : LockedFiles Unit Thread} {op : FileOp Unit}
    {answer : op.Ret} (keeps : ProviderKeeps before thread provider)
    (may : (providerManners Thread).may thread provider (.onFile op))
    (outcome : (answer, after) ∈ op.outcomes thread before) :
    ProviderKeeps after thread (provider.observe (.onFile op) answer) := by
  cases op with
  | «open» path =>
      have kept : after = before := by
        rcases List.mem_cons.mp outcome with same | rest
        · exact congrArg Prod.snd same
        · exact congrArg Prod.snd (List.mem_singleton.mp rest)
      rw [kept]
      exact keeps
  | openOrCreate path =>
      have noSkeleton : provider.skeleton = none := may
      constructor
      · intro file opened
        have given : answer = some file := opened
        rw [given] at outcome
        exact named_of_openOrCreate outcome
      · intro isLocked
        cases isLocked
      · intro created
        have created : provider.skeleton.isSome = true := created
        rw [noSkeleton] at created
        cases created
  | tryLock file mode =>
      obtain ⟨noSkeleton, opened, rfl⟩ := may
      have named : after.named () = some file :=
        outcomes_keep_names outcome (by intro path same; cases same) (keeps.marker file opened)
      have noneCreated : ∀ moved : SkeletonOwner, moved.skeleton = provider.skeleton →
          moved.skeleton.isSome = true → moved.isLocked = true := by
        intro moved same created
        rw [same, noSkeleton] at created
        cases created
      obtain rfl | rfl := Bool.eq_false_or_eq_true answer
      · constructor
        · intro other openedOther
          have same : provider.marker = some other := openedOther
          rw [opened] at same
          cases same
          exact named
        · intro _
          exact ⟨file, opened, (holds_of_tryLock outcome).2⟩
        · exact noneCreated _ rfl
      · obtain ⟨taken, rfl⟩ := unchanged_of_tryLock outcome
        constructor
        · intro other openedOther
          cases openedOther
        · intro isLocked
          cases isLocked
        · exact noneCreated _ rfl
  | unlock file =>
      have noSkeleton : provider.skeleton = none := may
      constructor
      · intro other opened
        cases opened
      · intro isLocked
        cases isLocked
      · intro created
        have created : provider.skeleton.isSome = true := created
        rw [noSkeleton] at created
        cases created
  | unlink path =>
      have closed : provider.marker = none := may
      constructor
      · intro file opened
        have opened : provider.marker = some file := opened
        rw [closed] at opened
        cases opened
      · intro isLocked
        obtain ⟨file, opened, _⟩ := keeps.locked isLocked
        rw [closed] at opened
        cases opened
      · exact keeps.skeleton

/-- The invariant survives every operation but an unlink of a shared marker file. -/
theorem existenceInv_perform {config : (existenceRole Thread).State} {op : MarkerOp}
    {answer : op.Ret} (inv : ExistenceInv config.memory.memory config.memory.isDead config.object)
    (unshared : UnlinksUnshared config (.perform thread ⟨thread, op⟩ answer))
    (lives : config.memory.isDead thread = false)
    (may : (providerManners Thread).may thread (config.object thread) op)
    (outcome : (answer, files) ∈ (existenceRole Thread).outcomes thread op config.memory.memory) :
    ExistenceInv files config.memory.isDead
      (update config.object thread ((config.object thread).observe op answer)) := by
  have own := inv thread lives
  cases op with
  | createDirectories =>
      have same : files = config.memory.memory := by
        rcases List.mem_cons.mp outcome with same | rest
        · exact congrArg Prod.snd same
        · exact congrArg Prod.snd (List.mem_singleton.mp rest)
      subst same
      apply existenceInv_update inv
      · exact own
      · exact fun _ _ _ keeps => keeps
  | onFile op =>
      apply existenceInv_update inv (providerKeeps_observe own may outcome)
      intro other distinct otherLives keeps
      apply keeps.frame
      · intro file opened leads
        by_cases unlinks : op = .unlink ()
        · subst unlinks
          have other := unshared rfl other distinct otherLives (by simp [opened])
          exact absurd (opened.trans leads.symm) other
        · exact outcomes_keep_names outcome (fun path same => unlinks same) leads
      · exact fun file => (outcomes_others outcome distinct file .exclusive).mpr

/-- The obligations of the providers, where marker files are unlinked unshared. -/
theorem existence_obligations :
    (existenceRole Thread).Obligations ExistenceInv (providerManners Thread)
      UnlinksUnshared where
  call config thread call inv _ mayCall := by
    have noSkeleton := onCall_skeleton mayCall
    constructor
    · intro other lives
      by_cases same : other = thread
      · subst same
        rw [update_self]
        have keeps := inv other lives
        cases call with
        | create => exact keeps
        | destroy => exact ⟨keeps.marker, keeps.locked, fun created => by cases created⟩
      · rw [update_of_ne same]
        exact inv other lives
    · intro _
      cases call with
      | create => exact create_respects noSkeleton .create
      | destroy =>
          cases created : (config.object thread).skeleton with
          | none => exact absurd created mayCall
          | some skeleton =>
              have respects : (do skeleton.destroy; pure none :
                  MarkerProgram (Option Skeleton)).Respects
                    ((providerManners Thread).rules thread)
                    ((config.object thread).onCall .destroy)
                    ((providerManners Thread).post thread .destroy) :=
                destroy_respects skeleton noSkeleton .destroy
              simpa only [existenceRole, created] using respects
  perform config thread op answer memory inv unshared lives may outcome := by
    constructor
    · exact existenceInv_perform inv unshared lives may outcome
    · trivial
  finish config thread call reply inv _ post := by
    intro other lives
    by_cases same : other = thread
    · subst same
      rw [update_self]
      have keeps := inv other lives
      exact ⟨keeps.marker, keeps.locked, post lives⟩
    · rw [update_of_ne same]
      exact inv other lives
  killed config killed inv := by
    intro thread lives
    rw [Bool.or_eq_false_iff] at lives
    apply (inv thread lives.1).frame
    · exact fun _ _ leads => leads
    · exact fun file holds => LockedFiles.holds_release.mpr ⟨holds, lives.2⟩

/-- Two Skeletons of one service instance would have locked the same file. -/
theorem ExistenceInv.singleProvider {config : (existenceRole Thread).State}
    (inv : ExistenceInv config.memory.memory config.memory.isDead config.object) :
    SingleProvider config := by
  intro one two hasOne hasTwo
  have keepsOne := inv one hasOne.1
  have keepsTwo := inv two hasTwo.1
  obtain ⟨fileOne, openedOne, holdsOne⟩ := keepsOne.locked (keepsOne.skeleton hasOne.2)
  obtain ⟨fileTwo, openedTwo, holdsTwo⟩ := keepsTwo.locked (keepsTwo.skeleton hasTwo.2)
  have same : some fileOne = some fileTwo :=
    (keepsOne.marker fileOne openedOne).symm.trans (keepsTwo.marker fileTwo openedTwo)
  cases same
  exact LockedFiles.holds_exclusive_unique holdsOne holdsTwo

/-- In a run that unlinks the marker file only while nobody else has it open, at most
one Skeleton of the service instance exists at any time. -/
theorem singleProvider_of_unshared {config : (existenceRole Thread).State}
    (reached : Reaches (existenceRole Thread).system UnlinksUnshared (existenceStart Thread)
      config) : SingleProvider config := by
  have initially : ExistenceInv (existenceStart Thread).memory.memory
      (existenceStart Thread).memory.isDead (existenceStart Thread).object := by
    intro thread _
    constructor
    · intro file opened
      cases opened
    · intro isLocked
      cases isLocked
    · intro created
      cases created
  have holds := Role.run existence_obligations initially (fun _ => rfl) reached
  exact holds.inv.singleProvider

/-- A Skeleton is destroyed and its successor created in another process. -/
theorem singleProvider_of_successor : ∃ config : (existenceRole (Fin 2)).State,
      Reaches (existenceRole (Fin 2)).system UnlinksUnshared (existenceStart (Fin 2)) config ∧
        HasSkeleton config 1 ∧ SingleProvider config := by
  have reached := (existenceRole (Fin 2)).exists_reached UnlinksUnshared
    (existenceStart (Fin 2))
    [.move (.call 0 .create), .move (.perform 0 0), .move (.perform 0 0),
      .move (.perform 0 0), .move (.finish 0), .move (.call 0 .destroy),
      .move (.perform 0 0), .move (.perform 0 0), .move (.finish 0),
      .move (.call 1 .create), .move (.perform 1 0), .move (.perform 1 0),
      .move (.perform 1 0), .move (.finish 1)]
    (fun config => HasSkeleton config 1) (by decide +kernel)
  obtain ⟨config, reached, created⟩ := reached
  exact ⟨config, reached, created, singleProvider_of_unshared reached⟩

/-- A Skeleton unlocks the marker file, its successor, which had opened the file before,
locks it, and only then the first one unlinks it: a third process creates a new file
under the name and locks that one. -/
theorem singleProvider_violated : ∃ config : (existenceRole (Fin 3)).State,
      Reaches (existenceRole (Fin 3)).system (fun _ _ => True) (existenceStart (Fin 3))
        config ∧ ¬ SingleProvider config := by
  have reached := (existenceRole (Fin 3)).exists_reached (fun _ _ => True)
    (existenceStart (Fin 3))
    [.move (.call 0 .create), .move (.perform 0 0), .move (.perform 0 0),
      .move (.perform 0 0), .move (.finish 0), .move (.call 1 .create),
      .move (.perform 1 0), .move (.perform 1 0), .move (.call 0 .destroy),
      .move (.perform 0 0), .move (.perform 1 0), .move (.finish 1), .move (.perform 0 0),
      .move (.call 2 .create), .move (.perform 2 0), .move (.perform 2 0),
      .move (.perform 2 0), .move (.finish 2)]
    (fun config => HasSkeleton config 1 ∧ HasSkeleton config 2) (by decide +kernel)
  obtain ⟨config, reached, one, two⟩ := reached
  refine ⟨config, reached, fun single => ?_⟩
  have same : (1 : Fin 3) = 2 := single 1 2 one two
  cases same

end MwCom.Lola
