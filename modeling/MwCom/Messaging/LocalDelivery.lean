/-
Module: MwCom.Messaging.LocalDelivery
Purpose: A local notification that invokes the receive handlers of an event one by one, while
  other threads register and unregister handlers.
Trusted boundary: the shared mutex, as far as it excludes writers and readers; which
  registrations were there when a notification began (`before`) and what it invoked are
  bookkeeping of this module.
Main exports: deliverySystem, notifyEventLocally, DeliveryThread.Kept, handlersDelivered
-/
import MwCom.Interleaving.Contract
import MwCom.Interleaving.Total
import MwCom.Messaging.NotifyEventHandler

namespace MwCom.Messaging.LocalDelivery

open Interleaving
open Program (Respects)

variable {Handler NodeId : Type}

/-- A registered handler of the event. -/
abbrev Registered (Handler : Type) := RegisteredNotificationHandler Handler

/-! ## Calls -/

/-- The handlers of one event and quality, with their mutex and the number of registrations so
far. -/
structure DeliveryMemory (Handler NodeId : Type) where
  control : NotifyEventHandler Handler NodeId
  readers : Nat
  writer : Bool
  stopRequested : Bool
  registrations : Nat
deriving DecidableEq

/-- The indivisible operations.  A handler runs between `invoke` and `handlerReturned`. -/
inductive DeliveryOp (Handler : Type) where
  | lockShared
  | unlockShared
  | lock
  | unlock
  | addHandler (callback : Handler)
  | searchHandler (registrationNo : BitVec 32)
  | front
  | upperBound (registrationNo : BitVec 32)
  | invoke (registered : Registered Handler)
  | handlerReturned
  | stopRequested
  | stayInLoop

namespace DeliveryOp

@[reducible] def Ret : DeliveryOp Handler → Type
  | .addHandler _ => BitVec 32
  | .searchHandler _ => Bool
  | .front => Option (Registered Handler)
  | .upperBound _ => Option (Registered Handler)
  | .stopRequested => Bool
  | .stayInLoop => Empty
  | _ => Unit

/-- A thread waits for the mutex. -/
def outcomes : (op : DeliveryOp Handler) → DeliveryMemory Handler NodeId →
    List (op.Ret × DeliveryMemory Handler NodeId)
  | .lockShared, memory =>
      if memory.writer then [] else [((), { memory with readers := memory.readers + 1 })]
  | .unlockShared, memory => [((), { memory with readers := memory.readers - 1 })]
  | .lock, memory =>
      if memory.writer || memory.readers != 0 then [] else [((), { memory with writer := true })]
  | .unlock, memory => [((), { memory with writer := false })]
  | .addHandler callback, memory =>
      let (registrationNo, control) := memory.control.addHandler callback
      [(registrationNo, { memory with control, registrations := memory.registrations + 1 })]
  | .searchHandler registrationNo, memory =>
      let (found, control) := memory.control.searchHandlerForNotification registrationNo
      [(found, { memory with control })]
  | .front, memory => [(memory.control.handlers.head?, memory)]
  | .upperBound registrationNo, memory =>
      [(memory.control.handlers[Messaging.upperBound memory.control.handlers registrationNo]?,
        memory)]
  | .invoke _, memory => [((), memory)]
  | .handlerReturned, memory => [((), memory)]
  | .stopRequested, memory => [(memory.stopRequested, memory)]
  | .stayInLoop, _ => []

end DeliveryOp

abbrev DeliveryProgram (Handler α : Type) := Program (DeliveryOp Handler) DeliveryOp.Ret α

/-- The part of `RegisterEventNotification` under the mutex. -/
def registerEventNotification (callback : Handler) : DeliveryProgram Handler (BitVec 32) := do
  .perform DeliveryOp.lock
  let registrationNo ← .perform (DeliveryOp.addHandler callback)
  .perform DeliveryOp.unlock
  pure registrationNo

/-- The part of `UnregisterEventNotification` under the mutex. -/
def searchHandlerForNotification (registrationNo : BitVec 32) : DeliveryProgram Handler Bool := do
  .perform DeliveryOp.lock
  let found ← .perform (DeliveryOp.searchHandler registrationNo)
  .perform DeliveryOp.unlock
  pure found

/-- The loop behind the first handler.  Nothing bounds its passes in the source; a thread that
has used up `passes` is one that is still in the loop. -/
def notifyRemaining : (passes : Nat) → (regNoStart handlersCalled : BitVec 32) →
    DeliveryProgram Handler (BitVec 32)
  | 0, _, _ => .step DeliveryOp.stayInLoop fun answer => nomatch answer
  | passes + 1, regNoStart, handlersCalled => do
      .perform DeliveryOp.lockShared
      match ← .perform (DeliveryOp.upperBound regNoStart) with
      | some registered => do
          .perform (DeliveryOp.invoke registered)
          .perform DeliveryOp.handlerReturned
          .perform DeliveryOp.unlockShared
          let stopRequested ← .perform DeliveryOp.stopRequested
          if stopRequested then
            pure (handlersCalled + 1)
          else
            notifyRemaining passes registered.registerNo (handlersCalled + 1)
      | none => do
          .perform DeliveryOp.unlockShared
          pure handlersCalled

def notifyEventLocally (passes : Nat) : DeliveryProgram Handler (BitVec 32) := do
  .perform DeliveryOp.lockShared
  match ← .perform DeliveryOp.front with
  | some first => do
      .perform (DeliveryOp.invoke first)
      .perform DeliveryOp.handlerReturned
      .perform DeliveryOp.unlockShared
      notifyRemaining passes first.registerNo 1
  | none => do
      .perform DeliveryOp.unlockShared
      pure 0

inductive DeliveryCall (Handler : Type) where
  | register (callback : Handler)
  | unregister (registrationNo : BitVec 32)
  | notify (passes : Nat)

inductive DeliveryReply where
  | registered (registrationNo : BitVec 32)
  | unregistered (found : Bool)
  | notified (handlersCalled : BitVec 32)
deriving DecidableEq

def DeliveryCall.code : DeliveryCall Handler → DeliveryProgram Handler DeliveryReply
  | .register callback => do pure (.registered (← registerEventNotification callback))
  | .unregister registrationNo => do
      pure (.unregistered (← searchHandlerForNotification registrationNo))
  | .notify passes => do pure (.notified (← notifyEventLocally passes))

/-! ## The system -/

/-- What a thread holds and has done: its locks, the handler it has looked up and the one it
is in; of its last notification, the registrations that were there before it, the handlers it
invoked, in their order, and whether it found none left; the registration it is about to end,
and those that it has ended. -/
structure DeliveryThread (Handler : Type) where
  shares : Bool
  owns : Bool
  found : Option (Registered Handler)
  invoking : Option (Registered Handler)
  before : List (Registered Handler)
  invoked : List (Registered Handler)
  complete : Bool
  leaving : Option (BitVec 32)
  unregistered : List (BitVec 32)

namespace DeliveryThread

def initial : DeliveryThread Handler := ⟨false, false, none, none, [], [], false, none, []⟩

/-- The start of a call.  A registration can be ended once its number was given out. -/
def called (thread : DeliveryThread Handler) (memory : DeliveryMemory Handler NodeId) :
    DeliveryCall Handler → DeliveryThread Handler
  | .register _ => thread
  | .unregister registrationNo =>
      { thread with
        leaving :=
          if registrationNo.toNat < memory.registrations then some registrationNo else none }
  | .notify _ =>
      { thread with before := memory.control.handlers, invoked := [], complete := false }

def observe (thread : DeliveryThread Handler) :
    (op : DeliveryOp Handler) → op.Ret → DeliveryThread Handler
  | .lockShared, _ => { thread with shares := true }
  | .unlockShared, _ => { thread with shares := false }
  | .lock, _ => { thread with owns := true }
  | .unlock, _ => { thread with owns := false }
  | .searchHandler registrationNo, _ =>
      { thread with
        unregistered :=
          if thread.leaving = some registrationNo then registrationNo :: thread.unregistered
          else thread.unregistered }
  | .front, found => { thread with found, complete := found.isNone }
  | .upperBound _, found => { thread with found, complete := found.isNone }
  | .invoke registered, _ =>
      { thread with
        found := none
        invoking := some registered
        invoked := thread.invoked ++ [registered] }
  | .handlerReturned, _ => { thread with invoking := none }
  | _, _ => thread

end DeliveryThread

section System

variable {Thread : Type}

/-- Threads that notify, register and unregister.  Registrations for other events take
numbers, too. -/
def deliverySystem :
    System Thread (DeliveryOp Handler) DeliveryOp.Ret (DeliveryMemory Handler NodeId)
      (DeliveryThread Handler) (DeliveryCall Handler) DeliveryReply where
  outcomes := DeliveryOp.outcomes
  mayCall := fun _ _ _ => True
  code := fun _ _ call => call.code
  onCall := fun _ memory thread call => thread.called memory call
  observe := fun _ _ thread op answer => thread.observe op answer
  onReturn := fun _ _ thread _ _ => thread
  onCrash := fun _ _ _ => none
  environment := fun before after =>
    after = { before with
      control := { before.control with
        curRegistrationNo := before.control.curRegistrationNo + 1 }
      registrations := before.registrations + 1 }

abbrev DeliveryConfig (Handler NodeId Thread : Type) :=
  Config Thread (DeliveryOp Handler) DeliveryOp.Ret (DeliveryMemory Handler NodeId)
    (DeliveryThread Handler) (DeliveryCall Handler) DeliveryReply

abbrev DeliveryEvent (Handler Thread : Type) :=
  Event Thread (DeliveryOp Handler) DeliveryOp.Ret (DeliveryCall Handler) DeliveryReply

/-- No handler is registered yet, and no stop is requested. -/
def initialConfig : DeliveryConfig Handler NodeId Thread where
  memory :=
    { control := ⟨none, none, 0⟩
      readers := 0
      writer := false
      stopRequested := false
      registrations := 0 }
  object := fun _ => .initial
  activity := fun _ => .idle

/-- There are fewer than 2^32 registrations. -/
def fewRegistrations (config : DeliveryConfig Handler NodeId Thread) :
    DeliveryEvent Handler Thread → Prop
  | .perform _ (.addHandler _) _ => config.memory.registrations + 1 < 2 ^ 32
  | .environment => config.memory.registrations + 1 < 2 ^ 32
  | _ => True

end System

/-! ## Searching the next handler -/

section Search

variable {handlers : List (Registered Handler)} {start : BitVec 32}

/-- In a sorted list the search ends behind the numbers up to `start`. -/
theorem upperBound_spec (sorted : Sorted handlers) :
    (∀ position entry, position < upperBound handlers start →
        handlers[position]? = some entry → entry.registerNo ≤ start) ∧
      ∀ position entry, upperBound handlers start ≤ position →
        handlers[position]? = some entry → start < entry.registerNo := by
  have ordered := List.pairwise_iff_getElem.mp sorted
  have downward : ∀ earlier later : Nat, earlier ≤ later →
      handlers[later]?.any (fun entry : Registered Handler => entry.registerNo ≤ start) = true →
        handlers[earlier]?.any (fun entry : Registered Handler => entry.registerNo ≤ start) =
          true := by
    intro earlier later less accepted
    obtain ⟨other, atLater, smaller⟩ := (Option.any_eq_true _ _).mp accepted
    obtain ⟨laterInside, isOther⟩ := List.getElem?_eq_some_iff.mp atLater
    have earlierInside : earlier < handlers.length := Nat.lt_of_le_of_lt less laterInside
    rw [List.getElem?_eq_getElem earlierInside, Option.any_some]
    rcases Nat.eq_or_lt_of_le less with same | before
    · subst same
      rw [isOther]
      exact smaller
    · have step := ordered earlier later earlierInside laterInside before
      rw [isOther] at step
      exact decide_eq_true (BitVec.le_trans (BitVec.le_of_lt step) (of_decide_eq_true smaller))
  obtain ⟨_, _, accepts, refuses⟩ :=
    Search.partitionPoint_spec downward handlers.length 0 handlers.length (Nat.le_refl _)
  constructor
  · intro position entry below found
    have accepted := accepts position (Nat.zero_le _) below
    rw [found, Option.any_some] at accepted
    exact of_decide_eq_true accepted
  · intro position entry above found
    obtain ⟨inside, _⟩ := List.getElem?_eq_some_iff.mp found
    have refused := refuses position above (by omega)
    rw [found, Option.any_some] at refused
    exact BitVec.not_le.mp (of_decide_eq_false refused)

/-- The handler that is found is the next one. -/
theorem next_of_upperBound (sorted : Sorted handlers) {next : Registered Handler}
    (found : handlers[upperBound handlers start]? = some next) :
    start < next.registerNo ∧ ∀ entry ∈ handlers, entry.registerNo ≤ next.registerNo →
      entry = next ∨ entry.registerNo ≤ start := by
  obtain ⟨below, above⟩ := upperBound_spec sorted
  refine ⟨above _ _ (Nat.le_refl _) found, ?_⟩
  intro entry member within
  obtain ⟨position, atPosition⟩ := List.getElem?_of_mem member
  rcases Nat.lt_trichotomy position (upperBound handlers start) with earlier | same | later
  · exact .inr (below position entry earlier atPosition)
  · rw [same, found] at atPosition
    exact .inl (Option.some.inj atPosition).symm
  · obtain ⟨nextInside, isNext⟩ := List.getElem?_eq_some_iff.mp found
    obtain ⟨inside, isEntry⟩ := List.getElem?_eq_some_iff.mp atPosition
    have step := List.pairwise_iff_getElem.mp sorted _ _ nextInside inside later
    rw [isNext, isEntry] at step
    exact absurd within (BitVec.not_le.mpr step)

/-- Where none is found, none is left. -/
theorem none_left_of_upperBound (sorted : Sorted handlers)
    (none : handlers[upperBound handlers start]? = none) :
    ∀ entry ∈ handlers, entry.registerNo ≤ start := by
  intro entry member
  obtain ⟨position, atPosition⟩ := List.getElem?_of_mem member
  obtain ⟨inside, _⟩ := List.getElem?_eq_some_iff.mp atPosition
  have outside := List.getElem?_eq_none_iff.mp none
  exact (upperBound_spec sorted).1 position entry (by omega) atPosition

end Search

/-! ## What a thread may do -/

namespace DeliveryThread

/-- Without a lock and outside of handlers. -/
structure AtRest (thread : DeliveryThread Handler) : Prop where
  notShares : thread.shares = false
  notOwns : thread.owns = false
  notFound : thread.found = none
  notInvoking : thread.invoking = none

/-- The number is that of the last handler that was invoked. -/
def LastInvoked (thread : DeliveryThread Handler) (registrationNo : BitVec 32) : Prop :=
  (∃ entry ∈ thread.invoked, entry.registerNo = registrationNo) ∧
    ∀ entry ∈ thread.invoked, entry.registerNo ≤ registrationNo

end DeliveryThread

/-- Handlers are looked up, and run, under the shared lock, each as the next one; they are
registered and removed under the exclusive one. -/
def deliveryRules : Rules (DeliveryOp Handler) DeliveryOp.Ret (DeliveryThread Handler) where
  may := fun thread op =>
    match op with
    | .lockShared => thread.AtRest
    | .unlockShared => thread.shares = true ∧ thread.found = none ∧ thread.invoking = none
    | .lock => thread.AtRest
    | .unlock => thread.owns = true
    | .addHandler _ => thread.owns = true
    | .searchHandler _ => thread.owns = true
    | .front =>
        thread.shares = true ∧ thread.invoking = none ∧ thread.invoked = []
    | .upperBound registrationNo =>
        thread.shares = true ∧ thread.invoking = none ∧ thread.LastInvoked registrationNo
    | .invoke registered => thread.found = some registered ∧ thread.invoking = none
    | .handlerReturned => True
    | .stopRequested => True
    | .stayInLoop => True
  expects := fun _ op answer =>
    match op, answer with
    | .upperBound registrationNo, some (registered : Registered Handler) =>
        registrationNo < registered.registerNo
    | .stopRequested, stopRequested => stopRequested = false
    | _, _ => True
  next := DeliveryThread.observe

/-- What a call guarantees when it returns. -/
def Ended (call : DeliveryCall Handler) (thread : DeliveryThread Handler) : Prop := thread.AtRest ∧
    match call with
    | .register _ => True
    | .unregister registrationNo =>
        thread.leaving = some registrationNo → registrationNo ∈ thread.unregistered
    | .notify _ => thread.complete = true

section Respects

variable {thread : DeliveryThread Handler}

theorem notifyRemaining_respects (passes : Nat) (regNoStart handlersCalled : BitVec 32)
    (rests : thread.AtRest) (last : thread.LastInvoked regNoStart) :
    (notifyRemaining passes regNoStart handlersCalled :
        DeliveryProgram Handler (BitVec 32)).Respects deliveryRules thread
      fun _ after => after.AtRest ∧ after.complete = true := by
  induction passes generalizing regNoStart handlersCalled thread with
  | zero => exact ⟨trivial, fun answer => nomatch answer⟩
  | succ passes ih =>
      rw [notifyRemaining]
      obtain ⟨notShares, notOwns, notFound, notInvoking⟩ := rests
      refine Respects.perform ⟨notShares, notOwns, notFound, notInvoking⟩ fun _ _ => ?_
      refine Respects.perform ⟨rfl, notInvoking, last⟩ fun found isNext => ?_
      cases found with
      | none =>
          refine Respects.perform ⟨rfl, rfl, notInvoking⟩ fun _ _ => ?_
          exact ⟨⟨rfl, notOwns, rfl, notInvoking⟩, rfl⟩
      | some registered =>
          refine Respects.perform ⟨rfl, notInvoking⟩ fun _ _ => ?_
          refine Respects.perform trivial fun _ _ => ?_
          refine Respects.perform ⟨rfl, rfl, rfl⟩ fun _ _ => ?_
          refine Respects.perform trivial fun stopRequested notStopped => ?_
          have goesOn : stopRequested = false := notStopped
          rw [goesOn]
          apply ih
          · exact ⟨rfl, notOwns, rfl, rfl⟩
          · constructor
            · exact ⟨registered, List.mem_append_right _ List.mem_cons_self, rfl⟩
            · intro entry member
              rcases List.mem_append.mp member with earlier | isLast
              · have upTo := last.2 entry earlier
                have less : regNoStart < registered.registerNo := isNext
                rw [BitVec.le_def] at upTo ⊢
                rw [BitVec.lt_def] at less
                omega
              · obtain rfl := List.mem_singleton.mp isLast
                exact BitVec.le_refl _

theorem notifyEventLocally_respects (passes : Nat) (rests : thread.AtRest)
    (nothing : thread.invoked = []) :
    (notifyEventLocally passes : DeliveryProgram Handler (BitVec 32)).Respects deliveryRules
      thread fun _ after => after.AtRest ∧ after.complete = true := by
  obtain ⟨notShares, notOwns, notFound, notInvoking⟩ := rests
  refine Respects.perform ⟨notShares, notOwns, notFound, notInvoking⟩ fun _ _ => ?_
  refine Respects.perform ⟨rfl, notInvoking, nothing⟩ fun found _ => ?_
  cases found with
  | none =>
      refine Respects.perform ⟨rfl, rfl, notInvoking⟩ fun _ _ => ?_
      exact ⟨⟨rfl, notOwns, rfl, notInvoking⟩, rfl⟩
  | some first =>
      refine Respects.perform ⟨rfl, notInvoking⟩ fun _ _ => ?_
      refine Respects.perform trivial fun _ _ => ?_
      refine Respects.perform ⟨rfl, rfl, rfl⟩ fun _ _ => ?_
      apply notifyRemaining_respects
      · exact ⟨rfl, notOwns, rfl, rfl⟩
      · constructor
        · exact ⟨first, List.mem_append_right _ List.mem_cons_self, rfl⟩
        · intro entry member
          rcases List.mem_append.mp member with earlier | isFirst
          · have impossible : entry ∈ thread.invoked := earlier
            rw [nothing] at impossible
            cases impossible
          · obtain rfl := List.mem_singleton.mp isFirst
            exact BitVec.le_refl _

/-- Every call keeps the rules. -/
theorem code_respects {memory : DeliveryMemory Handler NodeId} (call : DeliveryCall Handler)
    (rests : thread.AtRest) :
    (call.code).Respects deliveryRules (thread.called memory call) fun _ => Ended call := by
  obtain ⟨notShares, notOwns, notFound, notInvoking⟩ := rests
  cases call with
  | register callback =>
      refine Respects.perform ⟨notShares, notOwns, notFound, notInvoking⟩ fun _ _ => ?_
      refine Respects.perform rfl fun _ _ => ?_
      refine Respects.perform rfl fun _ _ => ?_
      exact ⟨⟨notShares, rfl, notFound, notInvoking⟩, trivial⟩
  | unregister registrationNo =>
      refine Respects.perform ⟨notShares, notOwns, notFound, notInvoking⟩ fun _ _ => ?_
      refine Respects.perform rfl fun _ _ => ?_
      refine Respects.perform rfl fun _ _ => ?_
      refine ⟨⟨notShares, rfl, notFound, notInvoking⟩, ?_⟩
      intro isLeaving
      simp only [deliveryRules, DeliveryThread.observe] at isLeaving ⊢
      rw [if_pos isLeaving]
      exact List.mem_cons_self
  | notify passes =>
      have atStart : (thread.called memory (.notify passes)).AtRest :=
        ⟨notShares, notOwns, notFound, notInvoking⟩
      apply (notifyEventLocally_respects passes atStart rfl).bind
      rintro _ after ⟨atRest, complete⟩
      exact ⟨atRest, complete⟩

end Respects

/-! ## The invariant -/

/-- What holds of a thread when these handlers are registered, all with numbers below
`registrations`. -/
structure DeliveryThread.Kept (handlers : List (Registered Handler)) (registrations : Nat)
    (thread : DeliveryThread Handler) : Prop where
  /-- The handler that was looked up is the next one. -/
  found : ∀ next, thread.found = some next → thread.shares = true ∧ next ∈ handlers ∧
    (∀ entry ∈ thread.invoked, entry.registerNo < next.registerNo) ∧
    ∀ entry ∈ handlers, entry.registerNo ≤ next.registerNo →
      entry = next ∨ ∃ earlier ∈ thread.invoked, entry.registerNo ≤ earlier.registerNo
  /-- A handler that runs is registered. -/
  invoking : ∀ running, thread.invoking = some running → thread.shares = true ∧ running ∈ handlers
  known : ∀ entry ∈ thread.before, entry.registerNo.toNat < registrations
  /-- The handlers are invoked in the order of their registrations. -/
  ordered : thread.invoked.Pairwise fun one two => one.registerNo < two.registerNo
  /-- None is left out. -/
  progress : ∀ entry ∈ thread.before, entry ∈ handlers → ∀ later ∈ thread.invoked,
    entry.registerNo ≤ later.registerNo → entry ∈ thread.invoked
  finished : thread.complete = true →
    ∀ entry ∈ thread.before, entry ∈ handlers → entry ∈ thread.invoked
  left : ∀ registrationNo, thread.leaving = some registrationNo →
    registrationNo.toNat < registrations
  /-- A registration that was ended is not there. -/
  gone : ∀ registrationNo ∈ thread.unregistered, registrationNo.toNat < registrations ∧
    ∀ entry ∈ handlers, entry.registerNo ≠ registrationNo

namespace DeliveryThread.Kept

variable {handlers others : List (Registered Handler)} {registrations later : Nat}
  {thread : DeliveryThread Handler}

theorem initial : (DeliveryThread.initial : DeliveryThread Handler).Kept handlers registrations := by
  constructor <;> simp [DeliveryThread.initial]

/-- While others change the handlers: a thread that holds the shared lock sees the same ones,
and a handler that is new has a number of its own. -/
theorem changed (kept : thread.Kept handlers registrations) (more : registrations ≤ later)
    (locked : thread.shares = true → others = handlers)
    (old : ∀ entry ∈ others, entry ∈ handlers ∨ registrations ≤ entry.registerNo.toNat) :
    thread.Kept others later where
  found := by
    intro next isFound
    obtain ⟨shares, member, follows, isNext⟩ := kept.found next isFound
    rw [locked shares]
    exact ⟨shares, member, follows, isNext⟩
  invoking := by
    intro running isRunning
    obtain ⟨shares, member⟩ := kept.invoking running isRunning
    rw [locked shares]
    exact ⟨shares, member⟩
  known := by
    intro entry member
    exact Nat.lt_of_lt_of_le (kept.known entry member) more
  ordered := kept.ordered
  progress := by
    intro entry wasThere isThere
    rcases old entry isThere with stays | new
    · exact kept.progress entry wasThere stays
    · have number := kept.known entry wasThere
      omega
  finished := by
    intro complete entry wasThere isThere
    rcases old entry isThere with stays | new
    · exact kept.finished complete entry wasThere stays
    · have number := kept.known entry wasThere
      omega
  left := by
    intro registrationNo isLeaving
    exact Nat.lt_of_lt_of_le (kept.left registrationNo isLeaving) more
  gone := by
    intro registrationNo ended
    obtain ⟨given, absent⟩ := kept.gone registrationNo ended
    refine ⟨Nat.lt_of_lt_of_le given more, ?_⟩
    intro entry isThere
    rcases old entry isThere with stays | new
    · exact absent entry stays
    · rintro rfl
      omega

end DeliveryThread.Kept

def DeliveryThread.sharing (thread : DeliveryThread Handler) : Nat := thread.shares.toNat

def DeliveryThread.owning (thread : DeliveryThread Handler) : Nat := thread.owns.toNat

/-- Registrations are numbered in their order, and none has the next number. -/
structure Numbered (memory : DeliveryMemory Handler NodeId) : Prop where
  sorted : Sorted memory.control.handlers
  fresh : ∀ entry ∈ memory.control.handlers, entry.registerNo.toNat < memory.registrations
  few : memory.registrations < 2 ^ 32
  number : memory.control.curRegistrationNo.toNat = memory.registrations

section Invariant

variable {Thread : Type} [Fintype Thread]

/-- The mutex counts the threads that hold it. -/
structure Locked (memory : DeliveryMemory Handler NodeId)
    (object : Thread → DeliveryThread Handler) : Prop where
  readers : memory.readers = total DeliveryThread.sharing object
  writer : memory.writer.toNat = total DeliveryThread.owning object
  exclusive : memory.writer = true → memory.readers = 0

/-- The invariant of the run. -/
structure Orderly (config : DeliveryConfig Handler NodeId Thread) : Prop where
  numbered : Numbered config.memory
  goesOn : config.memory.stopRequested = false
  locked : Locked config.memory config.object
  threads : ∀ thread, (config.object thread).Kept config.memory.control.handlers
    config.memory.registrations
  resting : ∀ thread, config.activity thread = .idle → (config.object thread).AtRest

variable {memory : DeliveryMemory Handler NodeId} {thread : Thread}

/-- While a thread writes, nobody reads. -/
theorem Locked.not_shares {object : Thread → DeliveryThread Handler}
    (locked : Locked memory object) (owns : (object thread).owns = true) (other : Thread) :
    (object other).shares = false := by
  have part := (le_total thread : (object thread).owning ≤ total DeliveryThread.owning object)
  have one : (object thread).owning = 1 := by
    rw [DeliveryThread.owning, owns]
    rfl
  have writes : memory.writer = true := by
    have counted := locked.writer
    cases isWriter : memory.writer with
    | true => rfl
    | false =>
        rw [isWriter] at counted
        simp only [Bool.toNat_false] at counted
        omega
  have noReader := locked.exclusive writes
  have readers := locked.readers
  have share := (le_total other : (object other).sharing ≤ total DeliveryThread.sharing object)
  cases shares : (object other).shares with
  | false => rfl
  | true =>
      have counts : (object other).sharing = 1 := by
        rw [DeliveryThread.sharing, shares]
        rfl
      omega

variable [DecidableEq Thread]

variable {moved : DeliveryThread Handler}

/-- A step that leaves the locks alone. -/
theorem Locked.same {after : DeliveryMemory Handler NodeId}
    {object : Thread → DeliveryThread Handler} (locked : Locked memory object)
    (readers : after.readers = memory.readers) (writer : after.writer = memory.writer)
    (shares : moved.shares = (object thread).shares) (owns : moved.owns = (object thread).owns) :
    Locked after (Function.update object thread moved) := by
  have sharing := total_update DeliveryThread.sharing object thread moved
  have owning := total_update DeliveryThread.owning object thread moved
  have sameSharing : moved.sharing = (object thread).sharing := congrArg Bool.toNat shares
  have sameOwning : moved.owning = (object thread).owning := congrArg Bool.toNat owns
  have isReaders := locked.readers
  have isWriter := locked.writer
  constructor
  · omega
  · rw [writer]
    omega
  · rw [writer, readers]
    exact locked.exclusive

variable {config : DeliveryConfig Handler NodeId Thread}

/-- One thread moves. -/
theorem Orderly.update (orderly : Orderly config)
    {activity : Activity (DeliveryOp Handler) DeliveryOp.Ret (DeliveryCall Handler) DeliveryReply}
    (numbered : Numbered memory) (goesOn : memory.stopRequested = false)
    (locked : Locked memory (Function.update config.object thread moved))
    (own : moved.Kept memory.control.handlers memory.registrations)
    (others : ∀ other, (config.object other).Kept memory.control.handlers memory.registrations)
    (rests : activity = .idle → moved.AtRest) :
    Orderly (config.update memory thread moved activity) where
  numbered := numbered
  goesOn := goesOn
  locked := locked
  threads := by
    intro other
    by_cases self : other = thread
    · subst self
      rw [Config.update_object_self]
      exact own
    · rw [Config.update_object_of_ne self]
      exact others other
  resting := by
    intro other idle
    by_cases self : other = thread
    · subst self
      rw [Config.update_activity_self] at idle
      rw [Config.update_object_self]
      exact rests idle
    · rw [Config.update_activity_of_ne self] at idle
      rw [Config.update_object_of_ne self]
      exact orderly.resting other idle

/-! ## One operation -/

section Operations

variable {config : DeliveryConfig Handler NodeId Thread} {thread : Thread}
  {activity : Activity (DeliveryOp Handler) DeliveryOp.Ret (DeliveryCall Handler) DeliveryReply}

variable {memory : DeliveryMemory Handler NodeId}

/-- A thread takes or releases a lock, or looks: the handlers stay as they are. -/
theorem Orderly.looked (orderly : Orderly config) {moved : DeliveryThread Handler}
    (control : memory.control = config.memory.control)
    (registrations : memory.registrations = config.memory.registrations)
    (stopRequested : memory.stopRequested = config.memory.stopRequested)
    (locked : Locked memory (Function.update config.object thread moved))
    (own : moved.Kept config.memory.control.handlers config.memory.registrations)
    (running : activity ≠ .idle) :
    Orderly (config.update memory thread moved activity) := by
  have numbered := orderly.numbered
  apply orderly.update
  · constructor
    · rw [control]
      exact numbered.sorted
    · rw [control, registrations]
      exact numbered.fresh
    · rw [registrations]
      exact numbered.few
    · rw [control, registrations]
      exact numbered.number
  · rw [stopRequested]
    exact orderly.goesOn
  · exact locked
  · rw [control, registrations]
    exact own
  · rw [control, registrations]
    exact orderly.threads
  · intro idle
    exact absurd idle running

/-- A lock counts the threads that have it, so it follows the one that takes it or gives it
back. -/
theorem Locked.update {object : Thread → DeliveryThread Handler}
    {after : DeliveryMemory Handler NodeId} (locked : Locked memory object)
    {moved : DeliveryThread Handler}
    (readers : after.readers + (object thread).sharing = memory.readers + moved.sharing)
    (writer : after.writer.toNat + (object thread).owning = memory.writer.toNat + moved.owning)
    (exclusive : after.writer = true → after.readers = 0) :
    Locked after (Function.update object thread moved) := by
  have sharing := total_update DeliveryThread.sharing object thread moved
  have owning := total_update DeliveryThread.owning object thread moved
  have isReaders := locked.readers
  have isWriter := locked.writer
  exact ⟨by omega, by omega, exclusive⟩

theorem Locked.lockedShared {object : Thread → DeliveryThread Handler}
    (locked : Locked memory object) (free : memory.writer = false)
    (notShares : (object thread).shares = false) :
    Locked { memory with readers := memory.readers + 1 }
      (Function.update object thread { object thread with shares := true }) := by
  refine locked.update ?_ rfl fun writes => ?_
  · simp [DeliveryThread.sharing, notShares]
  · rw [free] at writes
    cases writes

theorem Locked.unlockedShared {object : Thread → DeliveryThread Handler}
    (locked : Locked memory object) (shares : (object thread).shares = true) :
    Locked { memory with readers := memory.readers - 1 }
      (Function.update object thread { object thread with shares := false }) := by
  have counted : (object thread).sharing ≤ memory.readers := locked.readers ▸ le_total thread
  refine locked.update ?_ rfl fun writes => ?_
  · simp only [DeliveryThread.sharing, shares, Bool.toNat_true, Bool.toNat_false] at counted ⊢
    omega
  · have nobody := locked.exclusive writes
    dsimp only
    omega

theorem Locked.lockedExclusive {object : Thread → DeliveryThread Handler}
    (locked : Locked memory object) (free : memory.writer = false) (unread : memory.readers = 0)
    (notOwns : (object thread).owns = false) :
    Locked { memory with writer := true }
      (Function.update object thread { object thread with owns := true }) := by
  refine locked.update rfl ?_ fun _ => unread
  simp [DeliveryThread.owning, notOwns, free]

theorem Locked.unlockedExclusive {object : Thread → DeliveryThread Handler}
    (locked : Locked memory object) (owns : (object thread).owns = true) :
    Locked { memory with writer := false }
      (Function.update object thread { object thread with owns := false }) := by
  have counted : (object thread).owning ≤ memory.writer.toNat := locked.writer ▸ le_total thread
  have atMost : memory.writer.toNat ≤ 1 := Bool.toNat_le _
  refine locked.update rfl ?_ fun writes => ?_
  · simp only [DeliveryThread.owning, owns, Bool.toNat_true, Bool.toNat_false] at counted ⊢
    omega
  · cases writes

variable {object : DeliveryThread Handler} {handlers : List (Registered Handler)}
  {registrations : Nat}

/-- What is invoked follows what was invoked before. -/
theorem DeliveryThread.Kept.invoked (kept : object.Kept handlers registrations)
    {next : Registered Handler} (found : object.found = some next) :
    (object.observe (.invoke next) ()).Kept handlers registrations := by
  obtain ⟨shares, member, follows, isNext⟩ := kept.found next found
  constructor
  · intro other impossible
    cases impossible
  · intro running isRunning
    cases isRunning
    exact ⟨shares, member⟩
  · exact kept.known
  · apply List.pairwise_append.mpr
    refine ⟨kept.ordered, List.pairwise_singleton _ _, ?_⟩
    intro entry isInvoked last isLast
    obtain rfl := List.mem_singleton.mp isLast
    exact follows entry isInvoked
  · intro entry wasThere isThere later isInvoked upTo
    rcases List.mem_append.mp isInvoked with earlier | isLast
    · exact List.mem_append_left _ (kept.progress entry wasThere isThere later earlier upTo)
    · obtain rfl := List.mem_singleton.mp isLast
      rcases isNext entry isThere upTo with rfl | ⟨earlier, isEarlier, upToEarlier⟩
      · exact List.mem_append_right _ List.mem_cons_self
      · exact List.mem_append_left _
          (kept.progress entry wasThere isThere earlier isEarlier upToEarlier)
  · intro complete entry wasThere isThere
    exact List.mem_append_left _ (kept.finished complete entry wasThere isThere)
  · exact kept.left
  · exact kept.gone

/-- Looking up the first handler, or the one behind the last that was invoked. -/
theorem DeliveryThread.Kept.lookedUp (kept : object.Kept handlers registrations)
    (shares : object.shares = true) {found : Option (Registered Handler)}
    (isNext : ∀ next, found = some next → next ∈ handlers ∧
      (∀ entry ∈ object.invoked, entry.registerNo < next.registerNo) ∧
      ∀ entry ∈ handlers, entry.registerNo ≤ next.registerNo →
        entry = next ∨ ∃ earlier ∈ object.invoked, entry.registerNo ≤ earlier.registerNo)
    (noneLeft : found = none → ∀ entry ∈ handlers, ∃ earlier ∈ object.invoked,
      entry.registerNo ≤ earlier.registerNo) :
    ({ object with found, complete := found.isNone }).Kept handlers registrations := by
  constructor
  · intro next isFound
    exact ⟨shares, isNext next isFound⟩
  · exact kept.invoking
  · exact kept.known
  · exact kept.ordered
  · exact kept.progress
  · intro complete entry wasThere isThere
    have none : found = none := Option.isNone_iff_eq_none.mp complete
    obtain ⟨earlier, isInvoked, upTo⟩ := noneLeft none entry isThere
    exact kept.progress entry wasThere isThere earlier isInvoked upTo
  · exact kept.left
  · exact kept.gone

/-- The first handler of a sorted list. -/
theorem DeliveryThread.Kept.front (kept : object.Kept handlers registrations)
    (sorted : Sorted handlers) (shares : object.shares = true) (nothing : object.invoked = []) :
    (object.observe .front handlers.head?).Kept handlers registrations := by
  apply kept.lookedUp shares
  · intro next isFirst
    cases handlers with
    | nil => cases isFirst
    | cons first rest =>
        cases isFirst
        refine ⟨List.mem_cons_self, ?_, ?_⟩
        · rw [nothing]
          intro entry impossible
          cases impossible
        · intro entry member upTo
          rcases List.mem_cons.mp member with isNext | later
          · exact .inl isNext
          · have less := (List.pairwise_cons.mp sorted).1 entry later
            exact absurd upTo (BitVec.not_le.mpr less)
  · intro none entry member
    rw [List.head?_eq_none_iff.mp none] at member
    cases member

/-- The handler behind the last one. -/
theorem DeliveryThread.Kept.upperBound (kept : object.Kept handlers registrations)
    (sorted : Sorted handlers) (shares : object.shares = true) {registrationNo : BitVec 32}
    (last : object.LastInvoked registrationNo) :
    (object.observe (.upperBound registrationNo)
      handlers[Messaging.upperBound handlers registrationNo]?).Kept handlers registrations := by
  obtain ⟨⟨latest, isInvoked, isLatest⟩, upToLast⟩ := last
  apply kept.lookedUp shares
  · intro next found
    obtain ⟨less, isNext⟩ := next_of_upperBound sorted found
    refine ⟨List.mem_of_getElem? found, ?_, ?_⟩
    · intro entry invoked
      have upTo := upToLast entry invoked
      rw [BitVec.le_def] at upTo
      rw [BitVec.lt_def] at less ⊢
      omega
    · intro entry member upTo
      rcases isNext entry member upTo with same | earlier
      · exact .inl same
      · exact .inr ⟨latest, isInvoked, isLatest ▸ earlier⟩
  · intro none entry member
    exact ⟨latest, isInvoked, isLatest ▸ none_left_of_upperBound sorted none entry member⟩

/-- A registration more: it has the next number. -/
theorem Orderly.registered (orderly : Orderly config) {callback : Handler}
    (owns : (config.object thread).owns = true)
    (few : config.memory.registrations + 1 < 2 ^ 32) (running : activity ≠ .idle) :
    Orderly (config.update { config.memory with
        control := (config.memory.control.addHandler callback).2
        registrations := config.memory.registrations + 1 }
      thread (config.object thread) activity) := by
  obtain ⟨sorted, fresh, _, number⟩ := orderly.numbered
  have old : ∀ entry ∈ (config.memory.control.addHandler callback).2.handlers,
      entry ∈ config.memory.control.handlers ∨
        config.memory.registrations ≤ entry.registerNo.toNat := by
    intro entry member
    rcases List.mem_append.mp member with stays | new
    · exact .inl stays
    · obtain rfl := List.mem_singleton.mp new
      right
      dsimp only
      rw [number]
  have kept : ∀ other, (config.object other).Kept
      (config.memory.control.addHandler callback).2.handlers
      (config.memory.registrations + 1) := by
    intro other
    apply (orderly.threads other).changed (Nat.le_succ _) _ old
    intro shares
    rw [orderly.locked.not_shares owns other] at shares
    cases shares
  apply orderly.update
  · refine ⟨?_, ?_, few, ?_⟩
    · apply List.pairwise_append.mpr
      refine ⟨sorted, List.pairwise_singleton _ _, ?_⟩
      intro entry member new isNew
      obtain rfl := List.mem_singleton.mp isNew
      rw [BitVec.lt_def, number]
      exact fresh entry member
    · intro entry member
      rcases List.mem_append.mp member with stays | new
      · exact Nat.lt_succ_of_lt (fresh entry stays)
      · obtain rfl := List.mem_singleton.mp new
        dsimp only
        omega
    · have one : (1 : BitVec 32).toNat = 1 := rfl
      dsimp only [NotifyEventHandler.addHandler]
      rw [BitVec.toNat_add, number, one]
      exact Nat.mod_eq_of_lt few
  · exact orderly.goesOn
  · exact orderly.locked.same rfl rfl rfl rfl
  · exact kept thread
  · exact kept
  · intro idle
    exact absurd idle running

/-- What a removal leaves, and that the registration is gone. -/
theorem handlers_searchHandler {control : NotifyEventHandler Handler NodeId}
    (sorted : Sorted control.handlers) (registrationNo : BitVec 32) :
    (control.searchHandlerForNotification registrationNo).2.handlers =
        control.handlers.filter (fun entry => entry.registerNo ≠ registrationNo) ∧
      (control.searchHandlerForNotification registrationNo).2.curRegistrationNo =
        control.curRegistrationNo := by
  by_cases present : ∃ entry ∈ control.handlers, entry.registerNo = registrationNo
  · obtain ⟨entry, member, rfl⟩ := present
    rw [NotifyEventHandler.searchHandlerForNotification_eq sorted member]
    exact ⟨rfl, rfl⟩
  · have absent : ∀ entry ∈ control.handlers, entry.registerNo ≠ registrationNo := by
      intro entry member same
      exact present ⟨entry, member, same⟩
    have unchanged : (control.searchHandlerForNotification registrationNo).2 = control := by
      dsimp only [NotifyEventHandler.searchHandlerForNotification]
      split
      · rename_i found
        obtain ⟨entry, atIndex, same⟩ := (Option.any_eq_true _ _).mp found
        exact absurd (of_decide_eq_true same) (absent entry (List.mem_of_getElem? atIndex))
      · rfl
    rw [unchanged]
    refine ⟨(List.filter_eq_self.mpr ?_).symm, rfl⟩
    intro entry member
    exact decide_eq_true (absent entry member)

/-- A registration less. -/
theorem Orderly.removed (orderly : Orderly config) {registrationNo : BitVec 32} {found : Bool}
    (owns : (config.object thread).owns = true) (running : activity ≠ .idle) :
    Orderly (config.update { config.memory with
        control := (config.memory.control.searchHandlerForNotification registrationNo).2 }
      thread ((config.object thread).observe (.searchHandler registrationNo) found)
      activity) := by
  obtain ⟨sorted, fresh, few, number⟩ := orderly.numbered
  obtain ⟨handlers, sameNumber⟩ := handlers_searchHandler sorted registrationNo
  have kept : ∀ other, (config.object other).Kept
      (config.memory.control.searchHandlerForNotification registrationNo).2.handlers
      config.memory.registrations := by
    intro other
    apply (orderly.threads other).changed (Nat.le_refl _)
    · intro shares
      rw [orderly.locked.not_shares owns other] at shares
      cases shares
    · intro entry member
      rw [handlers] at member
      exact .inl (List.mem_of_mem_filter member)
  apply orderly.update
  · refine ⟨?_, ?_, few, ?_⟩
    · dsimp only
      rw [handlers]
      exact sorted.filter _
    · dsimp only
      rw [handlers]
      intro entry member
      exact fresh entry (List.mem_of_mem_filter member)
    · dsimp only
      rw [sameNumber]
      exact number
  · exact orderly.goesOn
  · exact orderly.locked.same rfl rfl rfl rfl
  · obtain ⟨keptFound, invoking, known, ordered, progress, finished, left, gone⟩ := kept thread
    refine ⟨keptFound, invoking, known, ordered, progress, finished, left, ?_⟩
    intro ended isEnded
    simp only [DeliveryThread.observe] at isEnded
    split at isEnded
    · rename_i isLeaving
      rcases List.mem_cons.mp isEnded with rfl | earlier
      · refine ⟨left ended isLeaving, ?_⟩
        dsimp only
        rw [handlers]
        intro entry member
        exact of_decide_eq_true (List.mem_filter.mp member).2
      · exact gone ended earlier
    · exact gone ended isEnded
  · exact kept
  · intro idle
    exact absurd idle running

/-- A thread outside of handlers takes or releases a lock. -/
theorem DeliveryThread.Kept.lockMoved (kept : object.Kept handlers registrations)
    (notFound : object.found = none) (notInvoking : object.invoking = none) (shares owns : Bool) :
    ({ object with shares, owns }).Kept handlers registrations := by
  obtain ⟨_, _, known, ordered, progress, finished, left, gone⟩ := kept
  refine ⟨?_, ?_, known, ordered, progress, finished, left, gone⟩
  · intro next isFound
    dsimp only at isFound
    rw [notFound] at isFound
    cases isFound
  · intro handler isRunning
    dsimp only at isRunning
    rw [notInvoking] at isRunning
    cases isRunning

/-- A thread that does not read is outside of handlers. -/
theorem DeliveryThread.Kept.outside (kept : object.Kept handlers registrations)
    (notShares : object.shares = false) :
    object.found = none ∧ object.invoking = none := by
  constructor
  · cases isFound : object.found with
    | none => rfl
    | some next =>
        have shares := (kept.found next isFound).1
        rw [notShares] at shares
        cases shares
  · cases isRunning : object.invoking with
    | none => rfl
    | some handler =>
        have shares := (kept.invoking handler isRunning).1
        rw [notShares] at shares
        cases shares

/-- Every operation the rules allow keeps the invariant. -/
theorem Orderly.performed (orderly : Orderly config) {op : DeliveryOp Handler} {answer : op.Ret}
    (permitted : fewRegistrations config (.perform thread op answer))
    (may : deliveryRules.may (config.object thread) op)
    (outcome : (answer, memory) ∈ op.outcomes config.memory) (running : activity ≠ .idle) :
    Orderly
      (config.update memory thread ((config.object thread).observe op answer) activity) := by
  have kept := orderly.threads thread
  have sorted := orderly.numbered.sorted
  have locked := orderly.locked
  cases op with
  | lockShared =>
      obtain ⟨notShares, notOwns, notFound, notInvoking⟩ := may
      simp only [DeliveryOp.outcomes] at outcome
      split at outcome
      · cases outcome
      · rename_i free
        cases List.mem_singleton.mp outcome
        refine orderly.looked ?_ ?_ ?_ ?_ ?_ running
        · rfl
        · rfl
        · rfl
        · exact locked.lockedShared (Bool.eq_false_of_not_eq_true free) notShares
        · exact kept.lockMoved notFound notInvoking true _
  | unlockShared =>
      obtain ⟨shares, notFound, notInvoking⟩ := may
      cases List.mem_singleton.mp outcome
      refine orderly.looked ?_ ?_ ?_ ?_ ?_ running
      · rfl
      · rfl
      · rfl
      · exact locked.unlockedShared shares
      · exact kept.lockMoved notFound notInvoking false _
  | lock =>
      obtain ⟨notShares, notOwns, notFound, notInvoking⟩ := may
      simp only [DeliveryOp.outcomes] at outcome
      split at outcome
      · cases outcome
      · rename_i free
        cases List.mem_singleton.mp outcome
        rw [Bool.or_eq_true, not_or, bne_iff_ne, not_not] at free
        refine orderly.looked ?_ ?_ ?_ ?_ ?_ running
        · rfl
        · rfl
        · rfl
        · exact locked.lockedExclusive (Bool.eq_false_of_not_eq_true free.1) free.2 notOwns
        · exact kept.lockMoved notFound notInvoking _ true
  | unlock =>
      have owns : (config.object thread).owns = true := may
      obtain ⟨notFound, notInvoking⟩ := kept.outside (locked.not_shares owns thread)
      cases List.mem_singleton.mp outcome
      refine orderly.looked ?_ ?_ ?_ ?_ ?_ running
      · rfl
      · rfl
      · rfl
      · exact locked.unlockedExclusive owns
      · exact kept.lockMoved notFound notInvoking _ false
  | addHandler callback =>
      cases List.mem_singleton.mp outcome
      exact orderly.registered may permitted running
  | searchHandler registrationNo =>
      cases List.mem_singleton.mp outcome
      exact orderly.removed may running
  | front =>
      obtain ⟨shares, _, nothing⟩ := may
      cases List.mem_singleton.mp outcome
      refine orderly.looked rfl rfl rfl ?_ ?_ running
      · exact locked.same rfl rfl rfl rfl
      · exact kept.front sorted shares nothing
  | upperBound registrationNo =>
      obtain ⟨shares, _, last⟩ := may
      cases List.mem_singleton.mp outcome
      refine orderly.looked rfl rfl rfl ?_ ?_ running
      · exact locked.same rfl rfl rfl rfl
      · exact kept.upperBound sorted shares last
  | invoke registered =>
      cases List.mem_singleton.mp outcome
      refine orderly.looked rfl rfl rfl ?_ ?_ running
      · exact locked.same rfl rfl rfl rfl
      · exact kept.invoked may.1
  | handlerReturned =>
      cases List.mem_singleton.mp outcome
      refine orderly.looked rfl rfl rfl ?_ ?_ running
      · exact locked.same rfl rfl rfl rfl
      · refine ⟨kept.found, ?_, kept.known, kept.ordered, kept.progress, kept.finished,
          kept.left, kept.gone⟩
        intro handler impossible
        cases impossible
  | stopRequested =>
      cases List.mem_singleton.mp outcome
      refine orderly.looked rfl rfl rfl ?_ ?_ running
      · exact locked.same rfl rfl rfl rfl
      · exact kept
  | stayInLoop => cases outcome

omit [DecidableEq Thread] in
/-- Operations answer as the rules expect. -/
theorem Orderly.expects (orderly : Orderly config) {op : DeliveryOp Handler} {answer : op.Ret}
    (outcome : (answer, memory) ∈ op.outcomes config.memory) :
    deliveryRules.expects object op answer := by
  cases op with
  | upperBound registrationNo =>
      cases found : answer with
      | none => trivial
      | some registered =>
          rw [found] at outcome
          have isNext := (Prod.mk.inj (List.mem_singleton.mp outcome)).1
          exact (next_of_upperBound orderly.numbered.sorted isNext.symm).1
  | stopRequested =>
      cases List.mem_singleton.mp outcome
      exact orderly.goesOn
  | _ => trivial

end Operations

/-! ## The run -/

/-- A thread changes its own record only. -/
def contract : Contract (deliverySystem :
      System Thread (DeliveryOp Handler) DeliveryOp.Ret (DeliveryMemory Handler NodeId)
        (DeliveryThread Handler) (DeliveryCall Handler) DeliveryReply)
      (DeliveryThread Handler) where
  Inv := Orderly
  view := fun config thread => config.object thread
  rules := fun _ => deliveryRules
  post := fun _ call _ => Ended call

theorem contract_unseen
    {activity : Activity (DeliveryOp Handler) DeliveryOp.Ret (DeliveryCall Handler)
      DeliveryReply} :
    contract.Unseen thread config (config.update memory thread moved activity) := by
  intro other distinct
  simp only [contract]
  exact Config.update_object_of_ne distinct

omit [DecidableEq Thread] in
/-- The start of a call: what it records is true. -/
theorem Orderly.called (orderly : Orderly config) (rests : (config.object thread).AtRest)
    (call : DeliveryCall Handler) :
    ((config.object thread).called config.memory call).Kept config.memory.control.handlers
        config.memory.registrations ∧
      ((config.object thread).called config.memory call).shares = (config.object thread).shares ∧
      ((config.object thread).called config.memory call).owns = (config.object thread).owns := by
  have kept := orderly.threads thread
  cases call with
  | register callback => exact ⟨kept, rfl, rfl⟩
  | unregister registrationNo =>
      refine ⟨⟨kept.found, kept.invoking, kept.known, kept.ordered, kept.progress,
        kept.finished, ?_, kept.gone⟩, rfl, rfl⟩
      intro leaving isLeaving
      simp only [DeliveryThread.called] at isLeaving
      split at isLeaving
      · rename_i given
        cases isLeaving
        exact given
      · cases isLeaving
  | notify passes =>
      refine ⟨⟨?_, kept.invoking, orderly.numbered.fresh, List.Pairwise.nil, ?_, ?_, kept.left,
        kept.gone⟩, rfl, rfl⟩
      · intro next isFound
        have notFound := rests.notFound
        rw [show (config.object thread).found = some next from isFound] at notFound
        cases notFound
      · intro entry _ _ later impossible
        cases impossible
      · intro impossible
        cases impossible

theorem contract_obligations : (contract : Contract (deliverySystem :
      System Thread (DeliveryOp Handler) DeliveryOp.Ret (DeliveryMemory Handler NodeId)
        (DeliveryThread Handler) (DeliveryCall Handler) DeliveryReply)
      (DeliveryThread Handler)).Obligations fewRegistrations where
  call := by
    intro config thread call orderly _ idle _ after moved
    subst moved
    have rests := orderly.resting thread idle
    obtain ⟨kept, shares, owns⟩ := orderly.called rests call
    refine ⟨?_, contract_unseen, ?_⟩
    · refine orderly.looked ?_ ?_ ?_ ?_ kept nofun
      · rfl
      · rfl
      · rfl
      · exact orderly.locked.same rfl rfl shares owns
    · simp only [contract, Config.update_object_self]
      exact code_respects call rests
  perform := by
    intro config thread call op next answer memory orderly permitted _ may outcome after moved
    subst moved
    refine ⟨orderly.performed permitted may outcome nofun, contract_unseen,
      orderly.expects outcome, ?_⟩
    simp only [contract, Config.update_object_self]
    rfl
  finish := by
    intro config thread call reply orderly _ _ ended after moved
    subst moved
    refine ⟨?_, contract_unseen⟩
    exact orderly.update orderly.numbered orderly.goesOn (orderly.locked.same rfl rfl rfl rfl)
      (orderly.threads thread) orderly.threads fun _ => ended.1
  crash := by
    intro config thread object _ _ killed
    cases killed
  environment := by
    intro config memory orderly permitted elsewhere after moved
    subst moved
    have isAfter : memory = { config.memory with
      control := { config.memory.control with
        curRegistrationNo := config.memory.control.curRegistrationNo + 1 }
      registrations := config.memory.registrations + 1 } := elsewhere
    subst isAfter
    refine ⟨⟨?_, orderly.goesOn, ?_, ?_, orderly.resting⟩, fun _ => rfl⟩
    · obtain ⟨sorted, fresh, _, number⟩ := orderly.numbered
      refine ⟨sorted, ?_, permitted, ?_⟩
      · intro entry member
        exact Nat.lt_succ_of_lt (fresh entry member)
      · have few : config.memory.registrations + 1 < 2 ^ 32 := permitted
        have one : (1 : BitVec 32).toNat = 1 := rfl
        dsimp only
        rw [BitVec.toNat_add, number, one]
        exact Nat.mod_eq_of_lt few
    · exact ⟨orderly.locked.readers, orderly.locked.writer, orderly.locked.exclusive⟩
    · intro thread
      exact (orderly.threads thread).changed (Nat.le_succ _) (fun _ => rfl)
        fun entry member => .inl member

/-- The law of local notifications, in one state of the system. -/
structure Delivered (config : DeliveryConfig Handler NodeId Thread) : Prop where
  /-- What was registered before a notification, and is when it returns, was invoked by it. -/
  delivered : ∀ thread passes reply,
    config.activity thread = .running (.notify passes) (.done reply) →
    ∀ entry ∈ (config.object thread).before, entry ∈ config.memory.control.handlers →
      entry ∈ (config.object thread).invoked
  /-- Each is invoked once, and in the order of the registrations. -/
  inOrder : ∀ thread, (config.object thread).invoked.Pairwise
    fun one two => one.registerNo < two.registerNo
  /-- A call that has returned has ended the registration with its number. -/
  ended : ∀ thread registrationNo reply,
    config.activity thread = .running (.unregister registrationNo) (.done reply) →
    (config.object thread).leaving = some registrationNo →
    registrationNo ∈ (config.object thread).unregistered
  /-- The handler of a registration that was ended does not run. -/
  notGone : ∀ thread other running, (config.object thread).invoking = some running →
    running.registerNo ∉ (config.object other).unregistered

omit [DecidableEq Thread] in
theorem delivered_of_holds (holds : contract.Holds config) : Delivered config where
  delivered := by
    intro thread passes reply running
    have ended : Ended (.notify passes) (config.object thread) := holds.running thread _ _ running
    exact (holds.inv.threads thread).finished ended.2
  inOrder := fun thread => (holds.inv.threads thread).ordered
  ended := by
    intro thread registrationNo reply running
    have ended : Ended (.unregister registrationNo) (config.object thread) :=
      holds.running thread _ _ running
    exact ended.2
  notGone := by
    intro thread other running invoking isGone
    have registered := ((holds.inv.threads thread).invoking running invoking).2
    exact ((holds.inv.threads other).gone _ isGone).2 running registered rfl

/-- In every run with fewer than 2^32 registrations and without a request to stop, a
notification invokes each handler that is registered all the while exactly once, in the order of
the registrations, and no handler runs after its registration was ended. -/
theorem handlersDelivered {config : DeliveryConfig Handler NodeId Thread}
    (reached : Reaches deliverySystem fewRegistrations initialConfig config) :
    Delivered config := by
  apply delivered_of_holds
  apply Contract.run contract_obligations _ _ reached
  · refine ⟨⟨List.Pairwise.nil, ?_, ?_, rfl⟩, rfl, ⟨?_, ?_, ?_⟩, fun _ => .initial, ?_⟩
    · intro entry impossible
      cases impossible
    · exact Nat.two_pow_pos 32
    · exact (total_eq_zero fun _ => rfl).symm
    · exact (total_eq_zero fun _ => rfl).symm
    · intro impossible
      cases impossible
    · intro thread _
      exact ⟨rfl, rfl, rfl, rfl⟩
  · intro thread
    rfl

end Invariant

/-! ## A notification while handlers come and go -/

section Runs

instance [DecidableEq Handler] [DecidableEq NodeId] {Thread : Type}
    (config : DeliveryConfig Handler NodeId Thread) (event : DeliveryEvent Handler Thread) :
    Decidable (fewRegistrations config event) :=
  match event with
  | .call _ _ => inferInstanceAs (Decidable True)
  | .finish _ _ _ => inferInstanceAs (Decidable True)
  | .crash _ => inferInstanceAs (Decidable True)
  | .environment => inferInstanceAs (Decidable (_ < _))
  | .perform _ op _ =>
      match op with
      | .addHandler _ => inferInstanceAs (Decidable (_ < _))
      | .lockShared | .unlockShared | .lock | .unlock | .searchHandler _ | .front
      | .upperBound _ | .invoke _ | .handlerReturned | .stopRequested | .stayInLoop =>
          inferInstanceAs (Decidable True)

instance [DecidableEq Handler] [DecidableEq NodeId] {Thread : Type}
    (before after : DeliveryMemory Handler NodeId) :
    Decidable ((deliverySystem :
      System Thread (DeliveryOp Handler) DeliveryOp.Ret (DeliveryMemory Handler NodeId)
        (DeliveryThread Handler) (DeliveryCall Handler) DeliveryReply).environment before after) :=
  inferInstanceAs (Decidable (_ = _))

instance {Thread : Type} (thread : Thread) (object : DeliveryThread Handler)
    (call : DeliveryCall Handler) :
    Decidable ((deliverySystem :
      System Thread (DeliveryOp Handler) DeliveryOp.Ret (DeliveryMemory Handler NodeId)
        (DeliveryThread Handler) (DeliveryCall Handler) DeliveryReply).mayCall thread object
          call) :=
  inferInstanceAs (Decidable True)

/-- Two handlers are registered; the first one is in its call when a third one and the removal
of the second one wait for the mutex. -/
def handlersComeAndGo : List (Choice (Fin 2) (DeliveryMemory Nat Unit) (DeliveryCall Nat)) :=
  List.flatten
    [[.call 1 (.register 10), .perform 1 0, .perform 1 0, .perform 1 0, .finish 1],
     [.call 1 (.register 11), .perform 1 0, .perform 1 0, .perform 1 0, .finish 1],
     [.call 0 (.notify 3), .perform 0 0, .perform 0 0, .perform 0 0],
     [.call 1 (.unregister 1), .perform 0 0, .perform 0 0, .perform 1 0, .perform 1 0,
      .perform 1 0, .finish 1],
     [.call 1 (.register 12), .perform 1 0, .perform 1 0, .perform 1 0, .finish 1],
     [.perform 0 0, .perform 0 0, .perform 0 0, .perform 0 0, .perform 0 0, .perform 0 0],
     [.perform 0 0, .perform 0 0, .perform 0 0]]

theorem handlersDelivered_comeAndGo : ∃ config : DeliveryConfig Nat Unit (Fin 2),
      (config.object 0).invoked.map (·.handler) = [10, 12] ∧ Delivered config := by
  obtain ⟨config, reached, invoked⟩ := exists_reached deliverySystem fewRegistrations
    (initialConfig : DeliveryConfig Nat Unit (Fin 2)) handlersComeAndGo
    (fun config => (config.object 0).invoked.map (·.handler) = [10, 12]) (by decide +kernel)
  exact ⟨config, invoked, handlersDelivered reached⟩

end Runs

end MwCom.Messaging.LocalDelivery
