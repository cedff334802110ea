/-
Module: MwCom.Proxy.ReferenceConservation
Purpose: The guards and guard factories of a SampleReferenceTracker in any number of
  threads: no reference is lost and none is handed out twice.
Trusted boundary: guards and factories are used by one thread at a time; a thread passes
  one to another by moving it into a place that both can reach.
Main exports: SampleReferenceGuard, TrackerGuardFactory, trackerSystem, referencesConserved
-/
import Mathlib.Algebra.BigOperators.Group.List.Basic
import MwCom.Interleaving.Contract
import MwCom.Interleaving.Total
import MwCom.Proxy.SampleReferenceTracker

namespace MwCom.ReferenceConservation

open Interleaving Lola

variable {slots : Nat} {LogIndex : Type}

/-! ## Guards and factories -/

/-- A guard: whether its `tracker_` is set. -/
structure SampleReferenceGuard where
  tracker : Bool
deriving DecidableEq, Repr

/-- A factory of guards, with its number of reserved references. -/
structure TrackerGuardFactory where
  numAvailableGuards : Nat
deriving DecidableEq, Repr

namespace SampleReferenceGuard

/-- The references a guard manages. -/
def references (guard : SampleReferenceGuard) : Nat := if guard.tracker then 1 else 0

/-- The move constructor: the new guard, and what is left of the other one. -/
def moved (other : SampleReferenceGuard) : SampleReferenceGuard × SampleReferenceGuard :=
  (⟨other.tracker⟩, ⟨false⟩)

def deallocate (guard : SampleReferenceGuard) : ProxyProgram slots LogIndex SampleReferenceGuard :=
  if guard.tracker then do
    SampleReferenceTracker.deallocate 1
    pure ⟨false⟩
  else
    pure guard

/-- The move assignment from another guard: both guards afterwards. -/
def assign (guard other : SampleReferenceGuard) :
    ProxyProgram slots LogIndex (SampleReferenceGuard × SampleReferenceGuard) := do
  if guard.tracker then
    let _ ← guard.deallocate
  pure (⟨other.tracker⟩, ⟨false⟩)

end SampleReferenceGuard

namespace TrackerGuardFactory

/-- The move constructor: the new factory, and what is left of the other one. -/
def moved (other : TrackerGuardFactory) : TrackerGuardFactory × TrackerGuardFactory :=
  (⟨other.numAvailableGuards⟩, ⟨0⟩)

/-- The destructor. -/
def destroy (factory : TrackerGuardFactory) : ProxyProgram slots LogIndex Unit :=
  if factory.numAvailableGuards > 0 then
    SampleReferenceTracker.deallocate factory.numAvailableGuards
  else
    pure ()

/-- A guard if there is one, and the factory afterwards. -/
def takeGuard (factory : TrackerGuardFactory) : Option SampleReferenceGuard × TrackerGuardFactory :=
  if factory.numAvailableGuards > 0 then
    (some ⟨true⟩, ⟨factory.numAvailableGuards - 1⟩)
  else
    (none, factory)

end TrackerGuardFactory

/-! ## The system -/

/-- The memory the threads share: the tracker, and the objects moved to where another
thread can take them. -/
structure TrackerMemory (slots : Nat) (LogIndex : Type) where
  proxy : ProxyMemory slots LogIndex
  passedGuards : List SampleReferenceGuard
  passedFactories : List TrackerGuardFactory

inductive TrackerOp (slots : Nat) (LogIndex : Type) where
  | tracker (op : ProxyOp slots LogIndex)
  | passGuard (guard : SampleReferenceGuard)
  | acceptGuard (guard : SampleReferenceGuard)
  | passFactory (factory : TrackerGuardFactory)
  | acceptFactory (factory : TrackerGuardFactory)

namespace TrackerOp

abbrev Ret : TrackerOp slots LogIndex → Type
  | .tracker op => op.Ret
  | .passGuard _ => Unit
  | .acceptGuard _ => Unit
  | .passFactory _ => Unit
  | .acceptFactory _ => Unit

/-- What is not there is not accepted. -/
def outcomes [DecidableEq LogIndex] (ampChecked : Bool) :
    (op : TrackerOp slots LogIndex) → TrackerMemory slots LogIndex →
      List (op.Ret × TrackerMemory slots LogIndex)
  | .tracker op, memory =>
      (op.outcomes ampChecked memory.proxy).map fun outcome =>
        (outcome.1, { memory with proxy := outcome.2 })
  | .passGuard guard, memory =>
      [((), { memory with passedGuards := guard :: memory.passedGuards })]
  | .acceptGuard guard, memory =>
      if guard ∈ memory.passedGuards then
        [((), { memory with passedGuards := memory.passedGuards.erase guard })]
      else
        []
  | .passFactory factory, memory =>
      [((), { memory with passedFactories := factory :: memory.passedFactories })]
  | .acceptFactory factory, memory =>
      if factory ∈ memory.passedFactories then
        [((), { memory with passedFactories := memory.passedFactories.erase factory })]
      else
        []

end TrackerOp

/-- What a thread does to its guards and factories, and to the tracker. -/
inductive TrackerCall where
  | allocate (passes numSamples : Nat)
  | takeGuard (factory : TrackerGuardFactory)
  | moveFactory (factory : TrackerGuardFactory)
  | destroyFactory (factory : TrackerGuardFactory)
  | moveGuard (guard : SampleReferenceGuard)
  | assignGuard (guard other : SampleReferenceGuard)
  | assignGuardToItself (guard : SampleReferenceGuard)
  | destroyGuard (guard : SampleReferenceGuard)
  | passGuard (guard : SampleReferenceGuard)
  | acceptGuard (guard : SampleReferenceGuard)
  | passFactory (factory : TrackerGuardFactory)
  | acceptFactory (factory : TrackerGuardFactory)
deriving DecidableEq, Repr

/-- Guards and factories. -/
structure Objects where
  guards : List SampleReferenceGuard
  factories : List TrackerGuardFactory
deriving DecidableEq, Repr

/-- The references they manage and reserve. -/
def Objects.references (objects : Objects) : Nat :=
  (objects.guards.map SampleReferenceGuard.references).sum +
    (objects.factories.map TrackerGuardFactory.numAvailableGuards).sum

/-- The objects a call works on. -/
def TrackerCall.arguments : TrackerCall → Objects
  | .allocate _ _ => ⟨[], []⟩
  | .takeGuard factory => ⟨[], [factory]⟩
  | .moveFactory factory => ⟨[], [factory]⟩
  | .destroyFactory factory => ⟨[], [factory]⟩
  | .moveGuard guard => ⟨[guard], []⟩
  | .assignGuard guard other => ⟨[guard, other], []⟩
  | .assignGuardToItself guard => ⟨[guard], []⟩
  | .destroyGuard guard => ⟨[guard], []⟩
  | .passGuard guard => ⟨[guard], []⟩
  | .acceptGuard _ => ⟨[], []⟩
  | .passFactory factory => ⟨[], [factory]⟩
  | .acceptFactory _ => ⟨[], []⟩

abbrev TrackerProgram (slots : Nat) (LogIndex α : Type) :=
  Program (TrackerOp slots LogIndex) TrackerOp.Ret α

/-- A program on the tracker alone. -/
def onTracker {α : Type} (program : ProxyProgram slots LogIndex α) :
    TrackerProgram slots LogIndex α :=
  program.lift TrackerOp.tracker fun _ answer => answer

/-- The objects that are left of a call's arguments, and those it made. -/
def TrackerCall.code : TrackerCall → TrackerProgram slots LogIndex Objects
  | .allocate passes numSamples => do
      let numAllocatedSamples ←
        onTracker (SampleReferenceTracker.allocate passes numSamples)
      pure ⟨[], [⟨numAllocatedSamples⟩]⟩
  | .takeGuard factory =>
      let (guard, left) := factory.takeGuard
      pure ⟨guard.toList, [left]⟩
  | .moveFactory factory =>
      let (made, left) := factory.moved
      pure ⟨[], [made, left]⟩
  | .destroyFactory factory => do
      onTracker factory.destroy
      pure ⟨[], []⟩
  | .moveGuard guard =>
      let (made, left) := guard.moved
      pure ⟨[made, left], []⟩
  | .assignGuard guard other => do
      let (assigned, left) ← onTracker (guard.assign other)
      pure ⟨[assigned, left], []⟩
  | .assignGuardToItself guard => pure ⟨[guard], []⟩
  | .destroyGuard guard => do
      let _ ← onTracker guard.deallocate
      pure ⟨[], []⟩
  | .passGuard guard => do
      let (made, left) := guard.moved
      .perform (TrackerOp.passGuard made)
      pure ⟨[left], []⟩
  | .acceptGuard guard => do
      .perform (TrackerOp.acceptGuard guard)
      pure ⟨[guard], []⟩
  | .passFactory factory => do
      let (made, left) := factory.moved
      .perform (TrackerOp.passFactory made)
      pure ⟨[], [left]⟩
  | .acceptFactory factory => do
      .perform (TrackerOp.acceptFactory factory)
      pure ⟨[], [factory]⟩

/-- A thread: its objects, the references in the hands of the call under way, and the
values of the counter which that call came upon, latest first. -/
structure TrackerUser where
  objects : Objects
  pending : Nat
  found : List Nat
deriving DecidableEq, Repr

namespace TrackerUser

/-- Without any object. -/
def initial : TrackerUser := ⟨⟨[], []⟩, 0, []⟩

/-- The references of a thread. -/
def held (user : TrackerUser) : Nat := user.objects.references + user.pending

/-- What a call does not work on. -/
def without (objects arguments : Objects) : Objects where
  guards := objects.guards.diff arguments.guards
  factories := objects.factories.diff arguments.factories

/-- The call takes the objects it works on. -/
def called (user : TrackerUser) (call : TrackerCall) : TrackerUser where
  objects := without user.objects call.arguments
  pending := call.arguments.references
  found := []

/-- The call returns objects. -/
def returned (user : TrackerUser) (objects : Objects) : TrackerUser where
  objects := ⟨objects.guards ++ user.objects.guards, objects.factories ++ user.objects.factories⟩
  pending := 0
  found := user.found

/-- What an operation on the tracker does. -/
def observeTracker (user : TrackerUser) : (op : ProxyOp slots LogIndex) → op.Ret → TrackerUser
  | .loadAvailable, available => { user with found := available :: user.found }
  | .compareExchangeAvailable expected desired, (true, _) =>
      { user with
        pending := user.pending + (expected - desired)
        found := desired :: expected :: user.found }
  | .compareExchangeAvailable _ _, (false, available) =>
      { user with found := available :: user.found }
  | .fetchAddAvailable count, _ => { user with pending := user.pending - count }
  | _, _ => user

def observe (user : TrackerUser) : (op : TrackerOp slots LogIndex) → op.Ret → TrackerUser
  | .tracker op, answer => user.observeTracker op answer
  | .passGuard guard, _ => { user with pending := user.pending - guard.references }
  | .acceptGuard guard, _ => { user with pending := user.pending + guard.references }
  | .passFactory factory, _ =>
      { user with pending := user.pending - factory.numAvailableGuards }
  | .acceptFactory factory, _ =>
      { user with pending := user.pending + factory.numAvailableGuards }

end TrackerUser

/-- The objects are there, each of its own. -/
def Objects.Includes (objects arguments : Objects) : Prop :=
  arguments.guards.Subperm objects.guards ∧ arguments.factories.Subperm objects.factories

instance (objects arguments : Objects) : Decidable (objects.Includes arguments) :=
  inferInstanceAs (Decidable (_ ∧ _))

section System

variable {Thread : Type} [DecidableEq LogIndex] (ampChecked : Bool)

/-- Threads with guards and factories of one tracker.  What else happens in the process
does not touch the counters. -/
def trackerSystem :
    System Thread (TrackerOp slots LogIndex) TrackerOp.Ret (TrackerMemory slots LogIndex)
      TrackerUser TrackerCall Objects where
  outcomes := TrackerOp.outcomes ampChecked
  mayCall := fun _ user call => user.objects.Includes call.arguments
  code := fun _ _ call => call.code
  onCall := fun _ _ user call => user.called call
  observe := fun _ _ user op answer => user.observe op answer
  onReturn := fun _ _ user _ reply => user.returned reply
  onCrash := fun _ _ _ => none
  environment := fun before after =>
    after.proxy.availableSamples = before.proxy.availableSamples ∧
      after.proxy.maxNumSamples = before.proxy.maxNumSamples ∧
      after.passedGuards = before.passedGuards ∧
      after.passedFactories = before.passedFactories

abbrev TrackerConfig (slots : Nat) (LogIndex Thread : Type) :=
  Config Thread (TrackerOp slots LogIndex) TrackerOp.Ret (TrackerMemory slots LogIndex)
    TrackerUser TrackerCall Objects

/-- After the construction with `maxNumSamples`. -/
def constructed (proxy : ProxyMemory slots LogIndex) (maxNumSamples : Nat) :
    TrackerConfig slots LogIndex Thread where
  memory :=
    { proxy := { proxy with availableSamples := maxNumSamples, maxNumSamples := maxNumSamples }
      passedGuards := []
      passedFactories := [] }
  object := fun _ => .initial
  activity := fun _ => .idle

end System

/-! ## What a call does with references -/

theorem references_append (left right : Objects) :
    Objects.references ⟨left.guards ++ right.guards, left.factories ++ right.factories⟩ =
      left.references + right.references := by
  simp only [Objects.references, List.map_append, List.sum_append]
  omega

/-- The arguments of a call are taken from the objects of the thread. -/
theorem references_without {objects arguments : Objects} (includes : objects.Includes arguments) :
    (TrackerUser.without objects arguments).references + arguments.references =
      objects.references := by
  have guards := List.subperm_append_diff_self_of_count_le fun guard _ =>
    includes.1.count_le guard
  have factories := List.subperm_append_diff_self_of_count_le fun factory _ =>
    includes.2.count_le factory
  have guardSum := (guards.map SampleReferenceGuard.references).sum_eq
  have factorySum := (factories.map TrackerGuardFactory.numAvailableGuards).sum_eq
  rw [List.map_append, List.sum_append] at guardSum factorySum
  simp only [Objects.references, TrackerUser.without]
  omega

section Rules

variable (maxNumSamples : Nat)

/-- The counter is only lowered by what is then pending, and raised by what is pending;
it never exceeds the limit. -/
def counterRules : Rules (ProxyOp slots LogIndex) ProxyOp.Ret TrackerUser where
  may := fun user op =>
    match op with
    | .loadAvailable => True
    | .loadMaxNumSamples => True
    | .compareExchangeAvailable expected desired => desired ≤ expected
    | .fetchAddAvailable count => count ≤ user.pending
    | .control (.check .prd condition) => condition = true
    | .control .terminate => True
    | _ => False
  expects := fun _ op answer =>
    match op, answer with
    | .loadAvailable, (available : Nat) => available ≤ maxNumSamples
    | .loadMaxNumSamples, (limit : Nat) => limit = maxNumSamples
    | _, _ => True
  next := TrackerUser.observeTracker

def userRules : Rules (TrackerOp slots LogIndex) TrackerOp.Ret TrackerUser where
  may := fun user op =>
    match op with
    | .tracker op => (counterRules maxNumSamples).may user op
    | .passGuard guard => guard.references ≤ user.pending
    | .acceptGuard _ => True
    | .passFactory factory => factory.numAvailableGuards ≤ user.pending
    | .acceptFactory _ => True
  expects := fun user op answer =>
    match op, answer with
    | .tracker op, answer => (counterRules maxNumSamples).expects user op answer
    | _, _ => True
  next := TrackerUser.observe

variable {maxNumSamples}

variable {user : TrackerUser}

theorem onTracker_respects {α : Type} {program : ProxyProgram slots LogIndex α}
    {post : α → TrackerUser → Prop}
    (respects : program.Respects (counterRules maxNumSamples) user post) :
    (onTracker program).Respects (userRules maxNumSamples) user post := by
  apply Program.Respects.lift _ _ respects
  · intro view op may
    exact may
  · intro view op reply expects
    exact ⟨expects, rfl⟩

/-- Giving back references that are pending; the assertion holds. -/
theorem deallocate_respects {count : Nat} (held : count ≤ user.pending) :
    (SampleReferenceTracker.deallocate count : ProxyProgram slots LogIndex Unit).Respects
      (counterRules maxNumSamples) user fun _ after => after.pending = user.pending - count := by
  apply Program.Respects.perform
  · exact held
  · intro _ _
    apply Program.Respects.perform
    · trivial
    · intro available within
      apply Program.Respects.perform
      · trivial
      · intro limit isLimit
        refine ⟨?_, fun _ _ => rfl⟩
        have bounded : @LE.le Nat _ available limit := by
          rw [show limit = maxNumSamples from isLimit]
          exact within
        exact @decide_eq_true _ (Nat.decLe available limit) bounded

/-- How many references the loop reserves: all that were asked for, unless the counter was 0
at last. -/
theorem allocateRetries_respects {requested : Nat}
    (passes numSamples numSamplesAvailable numAllocatedSamples : Nat)
    (parts : numAllocatedSamples + numSamples = requested)
    (pending : user.pending = numAllocatedSamples)
    (last : numSamplesAvailable = 0 → user.found.head? = some 0) :
    (SampleReferenceTracker.allocateRetries passes numSamples numSamplesAvailable
        numAllocatedSamples : ProxyProgram slots LogIndex Nat).Respects
      (counterRules maxNumSamples) user fun result after =>
        after.pending = result ∧ result ≤ requested ∧
          (result < requested → after.found.head? = some 0) := by
  induction passes generalizing numSamples numSamplesAvailable numAllocatedSamples user with
  | zero =>
      cases numSamples with
      | zero =>
          rw [SampleReferenceTracker.allocateRetries, Program.pure_eq_done, Program.respects_done]
          exact ⟨pending, by omega, fun less => by omega⟩
      | succ numSamples => exact ⟨trivial, fun answer => nomatch answer⟩
  | succ passes ih =>
      cases numSamples with
      | zero =>
          rw [SampleReferenceTracker.allocateRetries, Program.pure_eq_done, Program.respects_done]
          exact ⟨pending, by omega, fun less => by omega⟩
      | succ numSamples =>
          rw [SampleReferenceTracker.allocateRetries]
          split
          · apply Program.Respects.perform
            · exact Nat.sub_le _ _
            · intro answer _
              obtain ⟨won, available⟩ := answer
              cases won with
              | false =>
                  apply ih
                  · exact parts
                  · exact pending
                  · intro none
                    exact congrArg some none
              | true =>
                  apply ih
                  · omega
                  · simp only [counterRules, TrackerUser.observeTracker, pending]
                    omega
                  · intro none
                    omega
          · rw [Program.pure_eq_done, Program.respects_done]
            refine ⟨pending, by omega, fun _ => last ?_⟩
            omega

theorem allocate_respects (passes numSamples : Nat) (nothing : user.pending = 0) :
    (SampleReferenceTracker.allocate passes numSamples :
        ProxyProgram slots LogIndex Nat).Respects (counterRules maxNumSamples) user
      fun result after => after.pending = result ∧ result ≤ numSamples ∧
        (result < numSamples → after.found.head? = some 0) := by
  apply Program.Respects.perform
  · trivial
  · intro available _
    apply allocateRetries_respects
    · exact Nat.zero_add _
    · exact nothing
    · intro none
      exact congrArg some none

theorem guard_deallocate_respects {guard : SampleReferenceGuard}
    (held : guard.references ≤ user.pending) :
    (guard.deallocate : ProxyProgram slots LogIndex SampleReferenceGuard).Respects
      (counterRules maxNumSamples) user fun _ after =>
        after.pending = user.pending - guard.references := by
  rw [SampleReferenceGuard.deallocate]
  rw [SampleReferenceGuard.references] at held ⊢
  by_cases set : guard.tracker = true
  · rw [if_pos set] at held ⊢
    rw [if_pos set]
    apply (deallocate_respects held).bind
    intro _ after less
    exact less
  · rw [if_neg set, if_neg set]
    rfl

theorem destroy_respects {factory : TrackerGuardFactory}
    (held : factory.numAvailableGuards ≤ user.pending) :
    (factory.destroy : ProxyProgram slots LogIndex Unit).Respects
      (counterRules maxNumSamples) user fun _ after =>
        after.pending = user.pending - factory.numAvailableGuards := by
  rw [TrackerGuardFactory.destroy]
  split
  · exact deallocate_respects held
  · rw [Program.pure_eq_done, Program.respects_done]
    omega

theorem assign_respects {guard other : SampleReferenceGuard}
    (held : guard.references ≤ user.pending) :
    (guard.assign other : ProxyProgram slots LogIndex
        (SampleReferenceGuard × SampleReferenceGuard)).Respects (counterRules maxNumSamples) user
      fun guards after => guards = other.moved ∧
        after.pending = user.pending - guard.references := by
  rw [SampleReferenceGuard.assign]
  split
  · apply (guard_deallocate_respects held).bind
    intro _ after less
    exact ⟨rfl, less⟩
  · rename_i unset
    rw [SampleReferenceGuard.references, if_neg unset]
    exact ⟨rfl, rfl⟩

/-- What a call has done when it returns: all that was in its hands is in the objects it
leaves, an allocation reserved what was asked for unless the counter was 0 at last, and a guard
was taken if and only if one was left. -/
structure Returned (call : TrackerCall) (reply : Objects) (user : TrackerUser) : Prop where
  references : reply.references = user.pending
  allocated : ∀ passes numSamples, call = .allocate passes numSamples →
    ∃ factory, reply = ⟨[], [factory]⟩ ∧ factory.numAvailableGuards ≤ numSamples ∧
      (factory.numAvailableGuards < numSamples → user.found.head? = some 0)
  taken : ∀ factory, call = .takeGuard factory →
    (reply.guards ≠ [] ↔ 0 < factory.numAvailableGuards)

theorem Returned.of_references {call : TrackerCall} {reply : Objects}
    (references : reply.references = user.pending)
    (other : ∀ passes numSamples, call ≠ .allocate passes numSamples)
    (another : ∀ factory, call ≠ .takeGuard factory) : Returned call reply user where
  references := references
  allocated := fun passes numSamples isAllocate => absurd isAllocate (other passes numSamples)
  taken := fun factory isTake => absurd isTake (another factory)

/-- A guard that is taken manages one of the reserved references. -/
theorem references_takeGuard (factory : TrackerGuardFactory) :
    Objects.references ⟨factory.takeGuard.1.toList, [factory.takeGuard.2]⟩ =
      factory.numAvailableGuards := by
  rw [TrackerGuardFactory.takeGuard]
  split
  · simp only [Objects.references, Option.toList_some, List.map_cons, List.map_nil,
      List.sum_cons, List.sum_nil, SampleReferenceGuard.references, if_true]
    omega
  · simp [Objects.references]

/-- There is one as long as one is reserved. -/
theorem takeGuard_succeeds (factory : TrackerGuardFactory) :
    factory.takeGuard.1.toList ≠ [] ↔ 0 < factory.numAvailableGuards := by
  rw [TrackerGuardFactory.takeGuard]
  split
  · rename_i left
    simpa using left
  · rename_i none
    simpa using none

/-- Every call accounts for what is in its hands. -/
theorem code_respects (call : TrackerCall) (pending : user.pending = call.arguments.references) :
    (call.code : TrackerProgram slots LogIndex Objects).Respects (userRules maxNumSamples) user
      (Returned call) := by
  cases call with
  | allocate passes numSamples =>
      apply (onTracker_respects (allocate_respects passes numSamples pending)).bind
      rintro result after ⟨reserved, within, short⟩
      refine ⟨?_, ?_, ?_⟩
      · simp [Objects.references, reserved]
      · intro _ _ same
        cases same
        exact ⟨⟨result⟩, rfl, within, short⟩
      · intro _ same
        cases same
  | takeGuard factory =>
      have left : Returned (.takeGuard factory)
          ⟨factory.takeGuard.1.toList, [factory.takeGuard.2]⟩ user := by
        constructor
        · rw [references_takeGuard, pending]
          simp [Objects.references, TrackerCall.arguments]
        · intro _ _ same
          cases same
        · intro _ same
          cases same
          exact takeGuard_succeeds factory
      exact left
  | moveFactory factory =>
      apply Returned.of_references
      · rw [pending]
        simp [Objects.references, TrackerCall.arguments]
      · simp
      · simp
  | destroyFactory factory =>
      have held : factory.numAvailableGuards ≤ user.pending := by
        simp [pending, Objects.references, TrackerCall.arguments]
      apply (onTracker_respects (destroy_respects held)).bind
      intro _ after left
      apply Returned.of_references
      · rw [left, pending]
        simp [Objects.references, TrackerCall.arguments]
      · simp
      · simp
  | moveGuard guard =>
      apply Returned.of_references
      · rw [pending]
        simp [Objects.references, TrackerCall.arguments, SampleReferenceGuard.references]
      · simp
      · simp
  | assignGuard guard other =>
      have held : guard.references ≤ user.pending := by
        simp [pending, Objects.references, TrackerCall.arguments]
      apply (onTracker_respects (assign_respects held)).bind
      rintro _ after ⟨rfl, left⟩
      apply Returned.of_references
      · rw [left, pending]
        simp [Objects.references, TrackerCall.arguments, SampleReferenceGuard.references]
      · simp
      · simp
  | assignGuardToItself guard =>
      apply Returned.of_references
      · rw [pending]
        rfl
      · simp
      · simp
  | destroyGuard guard =>
      have held : guard.references ≤ user.pending := by
        simp [pending, Objects.references, TrackerCall.arguments]
      apply (onTracker_respects (guard_deallocate_respects held)).bind
      intro _ after left
      apply Returned.of_references
      · rw [left, pending]
        simp [Objects.references, TrackerCall.arguments]
      · simp
      · simp
  | passGuard guard =>
      refine ⟨?_, fun _ _ => ?_⟩
      · simp [userRules, pending, Objects.references, TrackerCall.arguments,
          SampleReferenceGuard.references]
      · apply Returned.of_references
        · simp [userRules, TrackerUser.observe, pending, Objects.references,
            TrackerCall.arguments, SampleReferenceGuard.references]
        · simp
        · simp
  | acceptGuard guard =>
      refine ⟨trivial, fun _ _ => ?_⟩
      apply Returned.of_references
      · simp [userRules, TrackerUser.observe, pending, Objects.references, TrackerCall.arguments]
      · simp
      · simp
  | passFactory factory =>
      refine ⟨?_, fun _ _ => ?_⟩
      · simp [userRules, pending, Objects.references, TrackerCall.arguments]
      · apply Returned.of_references
        · simp [userRules, TrackerUser.observe, pending, Objects.references, TrackerCall.arguments]
        · simp
        · simp
  | acceptFactory factory =>
      refine ⟨trivial, fun _ _ => ?_⟩
      apply Returned.of_references
      · simp [userRules, TrackerUser.observe, pending, Objects.references, TrackerCall.arguments]
      · simp
      · simp

end Rules

/-! ## The invariant -/

/-- The references that are under way from one thread to another. -/
def TrackerMemory.passed (memory : TrackerMemory slots LogIndex) : Nat :=
  Objects.references ⟨memory.passedGuards, memory.passedFactories⟩

section Run

variable {Thread : Type} [Fintype Thread] (maxNumSamples : Nat)

/-- Every reference is available, or some thread has it, or it is under way; between two
calls a thread has references in its objects only. -/
structure Conserved (config : TrackerConfig slots LogIndex Thread) : Prop where
  limit : config.memory.proxy.maxNumSamples = maxNumSamples
  sum : config.memory.proxy.availableSamples + total TrackerUser.held config.object +
    config.memory.passed = maxNumSamples
  settled : ∀ thread, config.activity thread = .idle → (config.object thread).pending = 0

variable {maxNumSamples}

variable {ampChecked : Bool} {config : TrackerConfig slots LogIndex Thread} {user : TrackerUser}

/-- The counters answer as the rules expect. -/
theorem Conserved.expects [DecidableEq LogIndex] (conserved : Conserved maxNumSamples config)
    {op : TrackerOp slots LogIndex} {answer : op.Ret} {after : TrackerMemory slots LogIndex}
    (outcome : (answer, after) ∈ op.outcomes ampChecked config.memory) :
    (userRules maxNumSamples).expects user op answer := by
  cases op with
  | tracker op =>
      obtain ⟨⟨given, proxy⟩, possible, same⟩ := List.mem_map.mp outcome
      cases same
      cases op with
      | loadAvailable =>
          cases List.mem_singleton.mp possible
          have sum := conserved.sum
          have within : config.memory.proxy.availableSamples ≤ maxNumSamples := by omega
          exact within
      | loadMaxNumSamples =>
          cases List.mem_singleton.mp possible
          exact conserved.limit
      | _ => trivial
  | _ => trivial

variable [DecidableEq Thread]

variable (maxNumSamples) in
def contract (ampChecked : Bool) [DecidableEq LogIndex] : Contract (trackerSystem ampChecked :
      System Thread (TrackerOp slots LogIndex) TrackerOp.Ret (TrackerMemory slots LogIndex)
        TrackerUser TrackerCall Objects) TrackerUser where
  Inv := Conserved maxNumSamples
  view := fun config thread => config.object thread
  rules := fun _ => userRules maxNumSamples
  post := fun _ => Returned

/-- One thread moves, and nothing is lost. -/
theorem Conserved.update (conserved : Conserved maxNumSamples config)
    {memory : TrackerMemory slots LogIndex} {thread : Thread}
    {activity : Activity (TrackerOp slots LogIndex) TrackerOp.Ret TrackerCall Objects}
    (limit : memory.proxy.maxNumSamples = config.memory.proxy.maxNumSamples)
    (balanced : memory.proxy.availableSamples + user.held + memory.passed =
      config.memory.proxy.availableSamples + (config.object thread).held + config.memory.passed)
    (settled : activity = .idle → user.pending = 0) :
    Conserved maxNumSamples (config.update memory thread user activity) := by
  have moved := total_update TrackerUser.held config.object thread user
  have before := conserved.sum
  refine ⟨limit.trans conserved.limit, ?_, ?_⟩
  · rw [Config.update_object, Config.update_memory]
    omega
  · intro other idle
    by_cases self : other = thread
    · subst self
      rw [Config.update_activity_self] at idle
      rw [Config.update_object_self]
      exact settled idle
    · rw [Config.update_activity_of_ne self] at idle
      rw [Config.update_object_of_ne self]
      exact conserved.settled other idle

theorem contract_unseen [DecidableEq LogIndex] {thread : Thread}
    {memory : TrackerMemory slots LogIndex}
    {activity : Activity (TrackerOp slots LogIndex) TrackerOp.Ret TrackerCall Objects} :
    (contract maxNumSamples ampChecked).Unseen thread config
      (config.update memory thread user activity) := by
  intro other distinct
  simp only [contract]
  exact Config.update_object_of_ne distinct

theorem held_called {call : TrackerCall} (includes : user.objects.Includes call.arguments) :
    (user.called call).held = user.objects.references :=
  references_without includes

theorem held_returned {reply : Objects} (accounts : reply.references = user.pending) :
    (user.returned reply).held = user.held := by
  have joined := references_append reply user.objects
  simp only [TrackerUser.held, TrackerUser.returned]
  omega

/-- An operation on the counters keeps the sum. -/
theorem observeTracker_balanced [DecidableEq LogIndex] {op : ProxyOp slots LogIndex}
    {answer : op.Ret} {before after : ProxyMemory slots LogIndex}
    (may : (counterRules maxNumSamples).may user op)
    (outcome : (answer, after) ∈ op.outcomes ampChecked before) :
    after.maxNumSamples = before.maxNumSamples ∧
      after.availableSamples + (user.observeTracker op answer).held =
        before.availableSamples + user.held := by
  cases op with
  | loadAvailable | loadMaxNumSamples =>
      cases List.mem_singleton.mp outcome
      exact ⟨rfl, rfl⟩
  | compareExchangeAvailable expected desired =>
      obtain ⟨won, available⟩ := answer
      rcases ProxyOp.compareExchangeAvailable_outcome outcome with swapped | failed
      · obtain ⟨isTrue, found, rfl⟩ := swapped
        cases isTrue
        have lowered : desired ≤ expected := may
        refine ⟨rfl, ?_⟩
        simp only [TrackerUser.observeTracker, TrackerUser.held]
        omega
      · obtain ⟨isFalse, rfl⟩ := failed
        cases isFalse
        exact ⟨rfl, rfl⟩
  | fetchAddAvailable count =>
      cases List.mem_singleton.mp outcome
      have held : count ≤ user.pending := may
      refine ⟨rfl, ?_⟩
      simp only [TrackerUser.observeTracker, TrackerUser.held]
      omega
  | control op =>
      obtain ⟨⟨given, control⟩, _, same⟩ := List.mem_map.mp outcome
      cases same
      exact ⟨rfl, rfl⟩
  | _ => exact may.elim

/-- So does moving an object to where another thread takes it. -/
theorem observe_balanced [DecidableEq LogIndex] {op : TrackerOp slots LogIndex} {answer : op.Ret}
    {before after : TrackerMemory slots LogIndex} (may : (userRules maxNumSamples).may user op)
    (outcome : (answer, after) ∈ op.outcomes ampChecked before) :
    after.proxy.maxNumSamples = before.proxy.maxNumSamples ∧
      after.proxy.availableSamples + (user.observe op answer).held + after.passed =
        before.proxy.availableSamples + user.held + before.passed := by
  cases op with
  | tracker op =>
      obtain ⟨⟨given, proxy⟩, possible, same⟩ := List.mem_map.mp outcome
      cases same
      have mayTracker : (counterRules maxNumSamples).may user op := may
      obtain ⟨limit, balanced⟩ := observeTracker_balanced mayTracker possible
      refine ⟨limit, ?_⟩
      simp only [TrackerUser.observe, TrackerMemory.passed]
      omega
  | passGuard guard =>
      cases List.mem_singleton.mp outcome
      have held : guard.references ≤ user.pending := may
      refine ⟨rfl, ?_⟩
      simp only [TrackerUser.observe, TrackerUser.held, TrackerMemory.passed, Objects.references,
        List.map_cons, List.sum_cons]
      omega
  | passFactory factory =>
      cases List.mem_singleton.mp outcome
      have held : factory.numAvailableGuards ≤ user.pending := may
      refine ⟨rfl, ?_⟩
      simp only [TrackerUser.observe, TrackerUser.held, TrackerMemory.passed, Objects.references,
        List.map_cons, List.sum_cons]
      omega
  | acceptGuard guard =>
      simp only [TrackerOp.outcomes] at outcome
      split at outcome
      · rename_i there
        cases List.mem_singleton.mp outcome
        have rest := ((List.perm_cons_erase there).map SampleReferenceGuard.references).sum_eq
        rw [List.map_cons, List.sum_cons] at rest
        refine ⟨rfl, ?_⟩
        simp only [TrackerUser.observe, TrackerUser.held, TrackerMemory.passed, Objects.references]
        omega
      · cases outcome
  | acceptFactory factory =>
      simp only [TrackerOp.outcomes] at outcome
      split at outcome
      · rename_i there
        cases List.mem_singleton.mp outcome
        have rest :=
          ((List.perm_cons_erase there).map TrackerGuardFactory.numAvailableGuards).sum_eq
        rw [List.map_cons, List.sum_cons] at rest
        refine ⟨rfl, ?_⟩
        simp only [TrackerUser.observe, TrackerUser.held, TrackerMemory.passed, Objects.references]
        omega
      · cases outcome

theorem contract_obligations [DecidableEq LogIndex] :
    (contract maxNumSamples ampChecked : Contract (trackerSystem ampChecked :
        System Thread (TrackerOp slots LogIndex) TrackerOp.Ret (TrackerMemory slots LogIndex)
          TrackerUser TrackerCall Objects) TrackerUser).Obligations fun _ _ => True where
  call := by
    intro config thread call conserved _ idle includes after moved
    subst moved
    refine ⟨conserved.update rfl ?_ nofun, contract_unseen, ?_⟩
    · have called : ((config.object thread).called call).held =
          (config.object thread).objects.references := held_called includes
      have before : (config.object thread).held = (config.object thread).objects.references := by
        rw [TrackerUser.held, conserved.settled thread idle, Nat.add_zero]
      simp only [trackerSystem, called, before]
    · simp only [contract, Config.update_object_self]
      exact code_respects call rfl
  perform := by
    intro config thread call op next answer memory conserved _ _ may outcome after moved
    subst moved
    obtain ⟨limit, balanced⟩ := observe_balanced may outcome
    refine ⟨conserved.update limit balanced nofun, contract_unseen, conserved.expects outcome, ?_⟩
    simp only [contract, Config.update_object_self]
    rfl
  finish := by
    intro config thread call reply conserved _ _ accounts after moved
    subst moved
    refine ⟨conserved.update rfl ?_ fun _ => rfl, contract_unseen⟩
    have returned : ((config.object thread).returned reply).held = (config.object thread).held :=
      held_returned accounts.references
    simp only [trackerSystem, returned]
  crash := by
    intro config thread object _ _ killed
    cases killed
  environment := by
    intro config memory conserved _ untouched after moved
    subst moved
    obtain ⟨available, limit, guards, factories⟩ := untouched
    refine ⟨⟨limit.trans conserved.limit, ?_, conserved.settled⟩, fun _ => rfl⟩
    have sum := conserved.sum
    simp only [TrackerMemory.passed, guards, factories, available] at sum ⊢
    exact sum

variable (maxNumSamples) in
/-- The law of the tracker, in one state of the system. -/
structure Lawful [DecidableEq LogIndex] (config : TrackerConfig slots LogIndex Thread) : Prop where
  conserved : Conserved maxNumSamples config
  /-- An allocation reserves all that was asked for, or leaves nothing behind. -/
  allocated : ∀ thread passes numSamples reply,
    config.activity thread = .running (.allocate passes numSamples) (.done reply) →
    ∃ factory, reply = ⟨[], [factory]⟩ ∧ factory.numAvailableGuards ≤ numSamples ∧
      (factory.numAvailableGuards < numSamples → (config.object thread).found.head? = some 0)
  /-- A guard is taken exactly while the factory has one left. -/
  taken : ∀ thread factory reply,
    config.activity thread = .running (.takeGuard factory) (.done reply) →
    (reply.guards ≠ [] ↔ 0 < factory.numAvailableGuards)
  /-- No assertion fails. -/
  asserted : ∀ thread call kind condition next, config.activity thread =
      .running call (.step (.tracker (.control (.check kind condition))) next) →
    condition = true

omit [DecidableEq Thread] in
theorem lawful_of_holds [DecidableEq LogIndex]
    (holds : (contract maxNumSamples ampChecked).Holds config) : Lawful maxNumSamples config where
  conserved := holds.inv
  allocated := by
    intro thread passes numSamples reply running
    have returned : Returned _ reply (config.object thread) := holds.running thread _ _ running
    exact returned.allocated passes numSamples rfl
  taken := by
    intro thread factory reply running
    have returned : Returned _ reply (config.object thread) := holds.running thread _ _ running
    exact returned.taken factory rfl
  asserted := by
    intro thread call kind condition next running
    have may := (holds.running thread call _ running).1
    cases kind with
    | prd => exact may
    | amp => exact may.elim

end Run

/-! ## Allocating alone -/

variable {memory after : ProxyMemory slots LogIndex}

variable {ampChecked : Bool}

/-- A compare-exchange that fails answers with the value of the counter. -/
theorem found_of_failed [DecidableEq LogIndex] {expected desired found : Nat}
    (outcome : ((false, found), after) ∈ (ProxyOp.compareExchangeAvailable expected desired :
        ProxyOp slots LogIndex).outcomes ampChecked memory) :
    found = memory.availableSamples ∧ after = memory := by
  simp only [ProxyOp.outcomes] at outcome
  split at outcome
  · rename_i same
    rcases List.mem_cons.mp outcome with swapped | spurious
    · cases swapped
    · cases List.mem_singleton.mp spurious
      exact ⟨same.symm, rfl⟩
  · cases List.mem_singleton.mp outcome
    exact ⟨rfl, rfl⟩

/-- What is left to reserve is reserved as far as it is available; while something is left,
the loop works with the value of the counter, unless that is 0. -/
theorem allocateRetries_alone [DecidableEq LogIndex]
    (passes numSamples numSamplesAvailable numAllocatedSamples : Nat) {reserved : Nat}
    (current : numSamples = 0 ∨ numSamplesAvailable = memory.availableSamples ∨
      memory.availableSamples = 0)
    (ends : (SampleReferenceTracker.allocateRetries passes numSamples numSamplesAvailable
      numAllocatedSamples).Ends (ProxyOp.outcomes ampChecked) memory reserved after) :
    reserved = numAllocatedSamples + min numSamples memory.availableSamples ∧
      after = { memory with
        availableSamples :=
          memory.availableSamples - min numSamples memory.availableSamples } := by
  induction passes generalizing numSamples numSamplesAvailable numAllocatedSamples memory with
  | zero =>
      cases numSamples with
      | zero =>
          rw [SampleReferenceTracker.allocateRetries] at ends
          obtain ⟨rfl, rfl⟩ := ends
          simp
      | succ numSamples =>
          rw [SampleReferenceTracker.allocateRetries] at ends
          obtain ⟨answer, _⟩ := ends
          exact nomatch answer
  | succ passes ih =>
      cases numSamples with
      | zero =>
          rw [SampleReferenceTracker.allocateRetries] at ends
          obtain ⟨rfl, rfl⟩ := ends
          simp
      | succ numSamples =>
          rw [SampleReferenceTracker.allocateRetries] at ends
          split at ends
          · rename_i some
            obtain ⟨⟨won, available⟩, middle, outcome, continued⟩ := ends
            cases won with
            | false =>
                obtain ⟨rfl, rfl⟩ := found_of_failed outcome
                exact ih _ _ _ (.inr (.inl rfl)) continued
            | true =>
                rcases ProxyOp.compareExchangeAvailable_outcome outcome with swapped | failed
                · obtain ⟨_, found, rfl⟩ := swapped
                  subst found
                  obtain ⟨isReserved, isAfter⟩ := ih _ _ _ (by dsimp only; omega) continued
                  constructor
                  · rw [isReserved]
                    dsimp only
                    omega
                  · rw [isAfter]
                    congr 1
                    dsimp only
                    omega
                · cases failed.1
          · rename_i none
            obtain ⟨rfl, rfl⟩ := ends
            have least : min (numSamples + 1) after.availableSamples = 0 := by omega
            rw [least]
            exact ⟨rfl, rfl⟩

/-- An allocation that no other thread interferes with reserves what is available of what was
asked for. -/
theorem allocate_alone [DecidableEq LogIndex] {passes numSamples : Nat} {reserved : Nat}
    (ends : (SampleReferenceTracker.allocate passes numSamples).Ends
      (ProxyOp.outcomes ampChecked) memory reserved after) :
    reserved = min numSamples memory.availableSamples ∧
      after = { memory with
        availableSamples :=
          memory.availableSamples - min numSamples memory.availableSamples } := by
  obtain ⟨available, middle, outcome, continued⟩ := ends
  cases List.mem_singleton.mp outcome
  obtain ⟨isReserved, isAfter⟩ :=
    allocateRetries_alone passes numSamples _ 0 (.inr (.inl rfl)) continued
  rw [Nat.zero_add] at isReserved
  exact ⟨isReserved, isAfter⟩

/-! ## The law -/

section Law

variable {Thread : Type} [Fintype Thread] [DecidableEq Thread] [DecidableEq LogIndex]

/-- After the construction with `maxNumSamples` no reference is lost or handed out twice, in
any run of any number of threads; an allocation reserves all that was asked for or leaves
nothing behind, and without interference exactly what was available of it. -/
theorem referencesConserved (ampChecked : Bool) (maxNumSamples : Nat)
    (proxy : ProxyMemory slots LogIndex) {config : TrackerConfig slots LogIndex Thread}
    (reached : Reaches (trackerSystem ampChecked) (fun _ _ => True)
      (constructed proxy maxNumSamples) config) :
    Lawful maxNumSamples config ∧ ∀ passes numSamples reserved after,
        (SampleReferenceTracker.allocate passes numSamples).Ends (ProxyOp.outcomes ampChecked)
          config.memory.proxy reserved after →
        reserved = min numSamples config.memory.proxy.availableSamples ∧
          after = { config.memory.proxy with
            availableSamples := config.memory.proxy.availableSamples -
              min numSamples config.memory.proxy.availableSamples } := by
  constructor
  · apply lawful_of_holds
    apply Contract.run contract_obligations _ _ reached
    · have nothing : total TrackerUser.held
          (constructed proxy maxNumSamples : TrackerConfig slots LogIndex Thread).object = 0 :=
        total_eq_zero fun _ => rfl
      refine ⟨rfl, ?_, fun _ _ => rfl⟩
      rw [nothing]
      rfl
    · intro thread
      rfl
  · intro passes numSamples reserved after ends
    exact allocate_alone ends

end Law

/-! ## An allocation while a guard is destroyed -/

section Inputs

instance {Thread : Type} [DecidableEq LogIndex] (ampChecked : Bool) (thread : Thread)
    (user : TrackerUser) (call : TrackerCall) :
    Decidable ((trackerSystem ampChecked :
      System Thread (TrackerOp slots LogIndex) TrackerOp.Ret (TrackerMemory slots LogIndex)
        TrackerUser TrackerCall Objects).mayCall thread user call) :=
  inferInstanceAs (Decidable (user.objects.Includes call.arguments))

instance {Thread : Type} [DecidableEq LogIndex] (ampChecked : Bool)
    (before after : TrackerMemory slots LogIndex) :
    Decidable ((trackerSystem ampChecked :
      System Thread (TrackerOp slots LogIndex) TrackerOp.Ret (TrackerMemory slots LogIndex)
        TrackerUser TrackerCall Objects).environment before after) :=
  inferInstanceAs (Decidable (_ ∧ _))

/-- The call a thread is about to return from, with its reply. -/
def completed {Thread : Type} (config : TrackerConfig slots LogIndex Thread) (thread : Thread) :
    Option (TrackerCall × Objects) :=
  match config.activity thread with
  | .running call (.done reply) => some (call, reply)
  | _ => none

theorem running_of_completed {Thread : Type} {config : TrackerConfig slots LogIndex Thread}
    {thread : Thread} {call : TrackerCall} {reply : Objects}
    (completes : completed config thread = some (call, reply)) :
    config.activity thread = .running call (.done reply) := by
  rw [completed] at completes
  split at completes
  · rename_i running
    cases completes
    exact running
  · cases completes

/-- The process with the tracker; the event's memory plays no part. -/
def idleProxy : ProxyMemory 1 Unit where
  control := ⟨fun _ => 0, fun _ => ⟨false, false, .empty⟩, 0⟩
  transactionLogMutex := false
  registered := none
  availableSamples := 0
  maxNumSamples := 0
  samples := []

/-- The second thread has one guard of the four, and destroys it while the first one asks for
five references. -/
def guardDestroyedMeanwhile : List (Choice (Fin 2) (TrackerMemory 1 Unit) TrackerCall) :=
  List.flatten
    [[.call 1 (.allocate 2 1), .perform 1 0, .perform 1 0, .finish 1,
      .call 1 (.takeGuard ⟨1⟩), .finish 1], [.call 0 (.allocate 5 5), .perform 0 0, .perform 0 0],
     [.call 1 (.destroyGuard ⟨true⟩), .perform 1 0], [.perform 0 0, .perform 0 0, .perform 0 0]]

/-- The first thread gets four, and the counter was 3, 0 and 1, never more. -/
theorem guardDestroyedMeanwhile_reaches : ∃ config, Reaches (trackerSystem true) (fun _ _ => True)
        (constructed idleProxy 4 : TrackerConfig 1 Unit (Fin 2)) config ∧
      completed config 0 = some (.allocate 5 5, ⟨[], [⟨4⟩]⟩) ∧
      (config.object 0).found = [0, 0, 1, 1, 0, 3, 3] := by
  apply exists_reached (trackerSystem true) (fun _ _ => True) _ guardDestroyedMeanwhile
  decide +kernel

/-- An allocation does not always reserve what was available of what it asks for at some
moment. -/
theorem allocation_exceeds_available : ¬ ∀ config, Reaches (trackerSystem true) (fun _ _ => True)
        (constructed idleProxy 4 : TrackerConfig 1 Unit (Fin 2)) config →
      ∀ thread passes numSamples reply,
        config.activity thread = .running (.allocate passes numSamples) (.done reply) →
        ∃ available ∈ (config.object thread).found, reply = ⟨[], [⟨min numSamples available⟩]⟩ := by
  intro claim
  obtain ⟨config, reached, completes, found⟩ := guardDestroyedMeanwhile_reaches
  obtain ⟨available, member, reserved⟩ :=
    claim config reached 0 5 5 _ (running_of_completed completes)
  rw [found] at member
  have four : ∀ available ∈ [0, 0, 1, 1, 0, 3, 3],
      (⟨[], [⟨4⟩]⟩ : Objects) ≠ ⟨[], [⟨min 5 available⟩]⟩ := by decide
  exact four available member reserved

theorem referencesConserved_meanwhile : ∃ config : TrackerConfig 1 Unit (Fin 2),
      completed config 0 = some (.allocate 5 5, ⟨[], [⟨4⟩]⟩) ∧ Lawful 4 config := by
  obtain ⟨config, reached, completes, _⟩ := guardDestroyedMeanwhile_reaches
  exact ⟨config, completes, (referencesConserved true 4 idleProxy reached).1⟩

end Inputs

end MwCom.ReferenceConservation
