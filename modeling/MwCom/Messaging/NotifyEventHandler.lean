/-
Module: MwCom.Messaging.NotifyEventHandler
Purpose: Which receive handlers of an event a process has registered, how it
  counts them towards the node of the provider, and the messages that follow.
Trusted boundary: message passing, which delivers what is sent in its order.
Main exports: NotifyEventHandler, registerRemote_spec, unregisterRemote_spec,
  NotifyOp.outcomes, NotifyProgram.registerEventNotification and its siblings
-/
import Mathlib.Algebra.Group.Nat.Defs
import Mathlib.Data.Finset.Basic
import MwCom.Interleaving.Program
import MwCom.Search.PartitionPoint

namespace MwCom.Messaging

open Interleaving

/-- A receive handler with the number of its registration. -/
structure RegisteredNotificationHandler (Handler : Type) where
  handler : Handler
  registerNo : BitVec 32
deriving DecidableEq

/-- How many local proxy events have a handler registered at a node. -/
structure NodeCounter (NodeId : Type) where
  nodeId : NodeId
  counter : BitVec 16
deriving DecidableEq

/-- The two messages about the interest in an event. -/
inductive MessageType where
  | registerEventNotifier
  | unregisterEventNotifier
deriving DecidableEq

/-- A message to the node `target`. -/
structure Message (NodeId : Type) where
  type : MessageType
  target : NodeId
deriving DecidableEq

/-- The control data of one event and quality, as the consumer uses it.  Without
an entry in a map the value is `none`. -/
structure NotifyEventHandler (Handler NodeId : Type) where
  eventUpdateHandlers : Option (List (RegisteredNotificationHandler Handler))
  eventUpdateRemoteRegistrations : Option (NodeCounter NodeId)
  curRegistrationNo : BitVec 32
deriving DecidableEq

variable {Handler NodeId : Type}

/-! ## Receive handlers -/

/-- `std::lower_bound` for a registration number. -/
def lowerBound (handlers : List (RegisteredNotificationHandler Handler))
    (registrationNo : BitVec 32) : Nat :=
  Search.partitionPoint
    (fun position => handlers[position]?.any (·.registerNo < registrationNo))
    handlers.length 0 handlers.length

/-- `std::upper_bound` for a registration number. -/
def upperBound (handlers : List (RegisteredNotificationHandler Handler))
    (registrationNo : BitVec 32) : Nat :=
  Search.partitionPoint
    (fun position => handlers[position]?.any (·.registerNo ≤ registrationNo))
    handlers.length 0 handlers.length

namespace NotifyEventHandler

variable (control : NotifyEventHandler Handler NodeId)

/-- The handlers of the event, oldest registration first. -/
def handlers : List (RegisteredNotificationHandler Handler) := control.eventUpdateHandlers.getD []

/-- A new handler is put behind the others. -/
def addHandler (callback : Handler) : BitVec 32 × NotifyEventHandler Handler NodeId :=
  (control.curRegistrationNo, { control with
      eventUpdateHandlers := some (control.handlers ++
        [{ handler := callback, registerNo := control.curRegistrationNo }])
      curRegistrationNo := control.curRegistrationNo + 1 })

/-- Remove the handler with a number; whether there was one. -/
def searchHandlerForNotification (registrationNo : BitVec 32) :
    Bool × NotifyEventHandler Handler NodeId :=
  let index := lowerBound control.handlers registrationNo
  if control.handlers[index]?.any (·.registerNo = registrationNo) then
    (true, { control with
        eventUpdateHandlers := some (control.handlers.eraseIdx index) })
  else
    (false, control)

@[simp] theorem searchHandlerForNotification_remote (registrationNo : BitVec 32) :
    (control.searchHandlerForNotification registrationNo).2.eventUpdateRemoteRegistrations =
      control.eventUpdateRemoteRegistrations := by
  dsimp only [searchHandlerForNotification]
  split
  · rfl
  · rfl

/-- The handlers after the one with number `start`, each looked up anew. -/
def notifyRemaining : (remaining : Nat) → (start : BitVec 32) → List Handler
  | 0, _ => []
  | remaining + 1, start =>
      match control.handlers[upperBound control.handlers start]? with
      | some registered =>
          registered.handler :: notifyRemaining remaining registered.registerNo
      | none => []

/-- The handlers that an update of the event invokes, in their order. -/
def notifyEventLocally : List Handler :=
  match control.handlers with
  | [] => []
  | first :: _ =>
      first.handler :: control.notifyRemaining control.handlers.length first.registerNo

end NotifyEventHandler

/-! ## Searching -/

/-- Registration numbers go up. -/
def Sorted (handlers : List (RegisteredNotificationHandler Handler)) : Prop :=
  handlers.Pairwise fun one two => one.registerNo < two.registerNo

section Sorted

variable {handlers : List (RegisteredNotificationHandler Handler)}
  {entry : RegisteredNotificationHandler Handler} {index : Nat}

/-- In a sorted list the search ends at the registration. -/
theorem lowerBound_eq (sorted : Sorted handlers) (found : handlers[index]? = some entry) :
    lowerBound handlers entry.registerNo = index := by
  obtain ⟨inside, isEntry⟩ := List.getElem?_eq_some_iff.mp found
  have ordered := List.pairwise_iff_getElem.mp sorted
  apply Search.partitionPoint_eq
  · intro earlier later less accepted
    obtain ⟨other, atLater, smaller⟩ := (Option.any_eq_true _ _).mp accepted
    obtain ⟨laterInside, isOther⟩ := List.getElem?_eq_some_iff.mp atLater
    have earlierInside : earlier < handlers.length := Nat.lt_of_le_of_lt less laterInside
    rw [List.getElem?_eq_getElem earlierInside, Option.any_some]
    rcases Nat.eq_or_lt_of_le less with same | before
    · subst same
      rw [isOther]
      exact smaller
    · have step := ordered earlier later earlierInside laterInside before
      rw [isOther] at step
      exact decide_eq_true (BitVec.lt_trans step (of_decide_eq_true smaller))
  · exact inside
  · rw [found, Option.any_some]
    exact decide_eq_false (BitVec.lt_irrefl _)
  · intro earlier before
    have earlierInside : earlier < handlers.length := Nat.lt_trans before inside
    rw [List.getElem?_eq_getElem earlierInside, Option.any_some]
    have step := ordered earlier index earlierInside inside before
    rw [isEntry] at step
    exact decide_eq_true step

/-- Erasing a registration leaves those with other numbers. -/
theorem eraseIdx_eq_filter (sorted : Sorted handlers) (found : handlers[index]? = some entry) :
    handlers.eraseIdx index = handlers.filter fun other => other.registerNo ≠ entry.registerNo := by
  induction handlers generalizing index with
  | nil => cases found
  | cons first rest ih =>
      obtain ⟨firstLess, restSorted⟩ := List.pairwise_cons.mp sorted
      cases index with
      | zero =>
          cases found
          have kept : rest.filter (fun other => decide
              (other.registerNo ≠ entry.registerNo)) = rest := by
            apply List.filter_eq_self.mpr
            intro other member
            exact decide_eq_true (BitVec.ne_of_lt (firstLess other member)).symm
          rw [List.filter_cons_of_neg (by simp), kept]
          rfl
      | succ index =>
          have later : entry ∈ rest := List.mem_of_getElem? found
          have distinct := BitVec.ne_of_lt (firstLess entry later)
          rw [List.filter_cons_of_pos (by simpa using distinct), ← ih restSorted found]
          rfl

end Sorted

variable {control : NotifyEventHandler Handler NodeId}

/-- A registered handler is found and removed. -/
theorem NotifyEventHandler.searchHandlerForNotification_eq
    {entry : RegisteredNotificationHandler Handler} (sorted : Sorted control.handlers)
    (member : entry ∈ control.handlers) :
    control.searchHandlerForNotification entry.registerNo =
      (true, { control with
          eventUpdateHandlers := some (control.handlers.filter
            fun other => other.registerNo ≠ entry.registerNo) }) := by
  obtain ⟨index, found⟩ := List.getElem?_of_mem member
  dsimp only [searchHandlerForNotification]
  rw [lowerBound_eq sorted found, found, eraseIdx_eq_filter sorted found]
  simp

/-- Only registered handlers are invoked. -/
theorem NotifyEventHandler.mem_notifyRemaining {remaining : Nat} {start : BitVec 32}
    {invoked : Handler} (called : invoked ∈ control.notifyRemaining remaining start) :
    ∃ entry ∈ control.handlers, entry.handler = invoked := by
  induction remaining generalizing start with
  | zero => cases called
  | succ remaining ih =>
      rw [notifyRemaining] at called
      split at called
      · rename_i registered found
        rcases List.mem_cons.mp called with same | later
        · exact ⟨registered, List.mem_of_getElem? found, same.symm⟩
        · exact ih later
      · cases called

theorem NotifyEventHandler.mem_notifyEventLocally {invoked : Handler}
    (called : invoked ∈ control.notifyEventLocally) :
    ∃ entry ∈ control.handlers, entry.handler = invoked := by
  rw [notifyEventLocally] at called
  split at called
  · cases called
  · rename_i first rest isFirst
    rcases List.mem_cons.mp called with same | later
    · refine ⟨first, ?_, same.symm⟩
      rw [isFirst]
      exact List.mem_cons_self
    · exact mem_notifyRemaining later

/-! ## Remote registrations -/

section Remote

variable [DecidableEq NodeId]

/-- One registration more towards a node, and the counter after it. -/
def registerRemote (targetNodeId : NodeId) :
    Option (NodeCounter NodeId) → BitVec 16 × NodeCounter NodeId
  | none => (1, { nodeId := targetNodeId, counter := 1 })
  | some count =>
      if count.nodeId ≠ targetNodeId then
        (1, { nodeId := targetNodeId, counter := 1 })
      else
        (count.counter + 1, { count with counter := count.counter + 1 })

/-- One registration less, and whether the provider is told.  `none`: the
assertion that the counter is positive fails. -/
def unregisterRemote (targetNodeId : NodeId) :
    Option (NodeCounter NodeId) → Option (Bool × Option (NodeCounter NodeId))
  | none => some (false, none)
  | some count =>
      if count.counter = 0 then
        none
      else if count.nodeId ≠ targetNodeId then
        some (false, some count)
      else if count.counter - 1 = 0 then
        some (true, none)
      else
        some (false, some { count with counter := count.counter - 1 })

/-- The node of the event has changed, and whether it is told.  Only the first
proxy event that registers again resets the counter. -/
def reregisterRemote (targetNodeId : NodeId) :
    Option (NodeCounter NodeId) → Bool × Option (NodeCounter NodeId)
  | none => (false, none)
  | some count =>
      if count.nodeId = targetNodeId then
        (false, some { count with counter := count.counter + 1 })
      else
        (true, some { nodeId := targetNodeId, counter := 1 })

/-! ## Counting -/

/-- How many registrations are counted for a node. -/
def counterOf (node : NodeId) : Option (NodeCounter NodeId) → Nat
  | none => 0
  | some count => if count.nodeId = node then count.counter.toNat else 0

/-- A counter that exists is positive. -/
def Positive (remote : Option (NodeCounter NodeId)) : Prop :=
  ∀ count, remote = some count → 0 < count.counter.toNat

variable {remote : Option (NodeCounter NodeId)} {node targetNodeId : NodeId}

/-- Without wrapping, a counter goes up by one. -/
theorem toNat_counter_add_one {counter : BitVec 16} (fits : counter.toNat ≠ 2 ^ 16 - 1) :
    (counter + 1).toNat = counter.toNat + 1 := by
  have bound := counter.isLt
  have one : (1 : BitVec 16).toNat = 1 := rfl
  rw [BitVec.toNat_add, one]
  omega

/-- A registration counts for its node alone, and is told if it is the first. -/
theorem registerRemote_spec (positive : Positive remote)
    (fits : counterOf targetNodeId remote ≠ 2 ^ 16 - 1) :
    counterOf targetNodeId (some (registerRemote targetNodeId remote).2) =
        counterOf targetNodeId remote + 1 ∧
      ((registerRemote targetNodeId remote).1 = 1 ↔ counterOf targetNodeId remote = 0) ∧
      (∀ other, other ≠ targetNodeId →
        counterOf other (some (registerRemote targetNodeId remote).2) = 0) ∧
      Positive (some (registerRemote targetNodeId remote).2) := by
  cases remote with
  | none =>
      refine ⟨by simp [registerRemote, counterOf], by simp [registerRemote, counterOf], ?_, ?_⟩
      · intro other distinct
        simp [registerRemote, counterOf, Ne.symm distinct]
      · intro count same
        cases same
        exact Nat.one_pos
  | some entry =>
      by_cases moved : entry.nodeId ≠ targetNodeId
      · simp only [registerRemote, counterOf, moved, if_false, ne_eq, not_false_eq_true, if_true]
        refine ⟨rfl, by simp, ?_, ?_⟩
        · intro other distinct
          simp [Ne.symm distinct]
        · intro count same
          cases same
          exact Nat.one_pos
      · have here : entry.nodeId = targetNodeId := not_not.mp moved
        have counted := positive entry rfl
        simp only [counterOf, here, if_true] at fits
        have next := toNat_counter_add_one fits
        simp only [registerRemote, counterOf, here, if_true, ne_eq, not_true_eq_false, if_false]
        refine ⟨next, ?_, ?_, ?_⟩
        · constructor
          · intro isOne
            have value := congrArg BitVec.toNat isOne
            rw [next] at value
            change _ = 1 at value
            omega
          · intro isZero
            omega
        · intro other distinct
          simp [Ne.symm distinct]
        · intro count same
          cases same
          change 0 < (entry.counter + 1).toNat
          omega

/-- The end of a registration counts for its node alone, and is told if it was
the last. -/
theorem unregisterRemote_spec (positive : Positive remote) :
    ∃ told after, unregisterRemote targetNodeId remote = some (told, after) ∧
      counterOf targetNodeId after = counterOf targetNodeId remote - 1 ∧
      (told = true ↔ counterOf targetNodeId remote = 1) ∧
      (∀ other, other ≠ targetNodeId → counterOf other after = counterOf other remote) ∧
      Positive after := by
  cases remote with
  | none =>
      refine ⟨false, none, rfl, rfl, by simp [counterOf], fun _ _ => rfl, ?_⟩
      intro count impossible
      cases impossible
  | some entry =>
      have counted := positive entry rfl
      have notZero : entry.counter ≠ 0 := by
        intro isZero
        rw [isZero] at counted
        cases counted
      by_cases moved : entry.nodeId ≠ targetNodeId
      · refine ⟨false, some entry, ?_, ?_, ?_, fun _ _ => rfl, positive⟩
        · rw [unregisterRemote, if_neg notZero, if_pos moved]
        · simp [counterOf, moved]
        · simp [counterOf, moved]
      · have here : entry.nodeId = targetNodeId := not_not.mp moved
        have one : (1 : BitVec 16).toNat = 1 := rfl
        have previous : (entry.counter - 1).toNat = entry.counter.toNat - 1 := by
          apply BitVec.toNat_sub_of_le
          rw [BitVec.le_def, one]
          exact counted
        by_cases last : entry.counter - 1 = 0
        · have value := congrArg BitVec.toNat last
          rw [previous] at value
          change _ = 0 at value
          refine ⟨true, none, ?_, ?_, ?_, ?_, ?_⟩
          · rw [unregisterRemote, if_neg notZero, if_neg moved, if_pos last]
          · simp only [counterOf, here, if_true]
            omega
          · simp only [counterOf, here, if_true, true_iff]
            omega
          · intro other distinct
            have elsewhere : entry.nodeId ≠ other := by
              rw [here]
              exact Ne.symm distinct
            simp [counterOf, elsewhere]
          · intro count impossible
            cases impossible
        · have more : entry.counter.toNat - 1 ≠ 0 := by
            intro isZero
            apply last
            apply BitVec.eq_of_toNat_eq
            rw [previous, isZero]
            rfl
          refine ⟨false, some { entry with counter := entry.counter - 1 }, ?_, ?_, ?_, ?_, ?_⟩
          · rw [unregisterRemote, if_neg notZero, if_neg moved, if_neg last]
          · simp only [counterOf, here, if_true]
            exact previous
          · simp only [counterOf, here, if_true, Bool.false_eq_true, false_iff]
            omega
          · intro other distinct
            have elsewhere : entry.nodeId ≠ other := by
              rw [here]
              exact Ne.symm distinct
            simp [counterOf, elsewhere]
          · intro count same
            cases same
            change 0 < (entry.counter - 1).toNat
            omega

end Remote

/-! ## Provider -/

section Provider

variable [DecidableEq NodeId]

/-- The nodes a provider tells of updates of the event. -/
abbrev InterestedNodes (NodeId : Type) := Option (Finset NodeId)

def handleRegisterNotificationMsg (senderNodeId : NodeId)
    (interested : InterestedNodes NodeId) : InterestedNodes NodeId :=
  some (insert senderNodeId (interested.getD ∅))

def handleUnregisterNotificationMsg (senderNodeId : NodeId)
    (interested : InterestedNodes NodeId) : InterestedNodes NodeId :=
  interested.map fun nodes => nodes.erase senderNodeId

/-- The callback of a received message. -/
def handleMessage (senderNodeId : NodeId) (interested : InterestedNodes NodeId) :
    MessageType → InterestedNodes NodeId
  | .registerEventNotifier => handleRegisterNotificationMsg senderNodeId interested
  | .unregisterEventNotifier =>
      handleUnregisterNotificationMsg senderNodeId interested

end Provider

/-! ## Calls, one critical section at a time -/

/-- The consumer's process and what it has sent, oldest first, with what the
provider makes of the messages it got. -/
structure NotifyMemory (Handler NodeId : Type) where
  control : NotifyEventHandler Handler NodeId
  inFlight : List (Message NodeId)
  interestedNodes : InterestedNodes NodeId
deriving DecidableEq

/-- The critical sections of `NotifyEventHandler`, and sending a message. -/
inductive NotifyOp (Handler NodeId : Type) where
  | addHandler (callback : Handler)
  | searchHandler (registrationNo : BitVec 32)
  | findHandlers
  | registerRemote (targetNodeId : NodeId)
  | unregisterRemote (targetNodeId : NodeId)
  | reregisterRemote (targetNodeId : NodeId)
  | send (message : Message NodeId)
deriving DecidableEq

namespace NotifyOp

/-- What a critical section answers: a registration number, whether something
was found, or whether a message follows. -/
@[reducible] def Ret : NotifyOp Handler NodeId → Type
  | .addHandler _ => BitVec 32
  | .searchHandler _ => Bool
  | .findHandlers => Bool
  | .registerRemote _ => Bool
  | .unregisterRemote _ => Bool
  | .reregisterRemote _ => Bool
  | .send _ => Unit

instance (op : NotifyOp Handler NodeId) : DecidableEq op.Ret := by
  cases op <;> exact inferInstance

end NotifyOp

namespace NotifyMemory

variable (memory : NotifyMemory Handler NodeId)

/-- Other remote registrations. -/
def setRemote (count : Option (NodeCounter NodeId)) : NotifyMemory Handler NodeId :=
  { memory with
    control := { memory.control with eventUpdateRemoteRegistrations := count } }

/-- One message more on the way. -/
def sendMessage (message : Message NodeId) : NotifyMemory Handler NodeId :=
  { memory with inFlight := memory.inFlight ++ [message] }

end NotifyMemory

/-- The answers of a critical section with the memory after it. -/
def NotifyOp.outcomes [DecidableEq NodeId] :
    (op : NotifyOp Handler NodeId) → NotifyMemory Handler NodeId →
      List (op.Ret × NotifyMemory Handler NodeId)
  | .addHandler callback, memory =>
      let (registrationNo, control) := memory.control.addHandler callback
      [(registrationNo, { memory with control })]
  | .searchHandler registrationNo, memory =>
      let (found, control) := memory.control.searchHandlerForNotification registrationNo
      [(found, { memory with control })]
  | .findHandlers, memory => [(memory.control.eventUpdateHandlers.isSome, memory)]
  | .registerRemote targetNodeId, memory =>
      let (counter, count) := Messaging.registerRemote targetNodeId
        memory.control.eventUpdateRemoteRegistrations
      [(counter == 1, memory.setRemote (some count))]
  | .unregisterRemote targetNodeId, memory =>
      match Messaging.unregisterRemote targetNodeId
          memory.control.eventUpdateRemoteRegistrations with
      | some (told, count) => [(told, memory.setRemote count)]
      -- the process ends in `AMP_ASSERT_PRD`
      | none => []
  | .reregisterRemote targetNodeId, memory =>
      let (told, count) := Messaging.reregisterRemote targetNodeId
        memory.control.eventUpdateRemoteRegistrations
      [(told, memory.setRemote count)]
  | .send message, memory => [((), memory.sendMessage message)]

/-- A program over the critical sections. -/
abbrev NotifyProgram (Handler NodeId : Type) := Program (NotifyOp Handler NodeId) NotifyOp.Ret

namespace NotifyProgram

variable [DecidableEq NodeId] (nodeIdentifier : NodeId)

/-- Send the message if the counter of the node asks for it. -/
def sendIf (send : Bool) (type : MessageType) (target : NodeId) :
    NotifyProgram Handler NodeId Unit :=
  if send then .perform (NotifyOp.send { type, target }) else pure ()

def registerEventNotificationRemote (targetNodeId : NodeId) :
    NotifyProgram Handler NodeId Unit := do
  let send ← .perform (NotifyOp.registerRemote targetNodeId)
  sendIf send .registerEventNotifier targetNodeId

def registerEventNotification (callback : Handler) (targetNodeId : NodeId) :
    NotifyProgram Handler NodeId (BitVec 32) := do
  let registrationNo ← .perform (NotifyOp.addHandler callback)
  if targetNodeId ≠ nodeIdentifier then do
    registerEventNotificationRemote targetNodeId
    pure registrationNo
  else
    pure registrationNo

def reregisterEventNotification (targetNodeId : NodeId) : NotifyProgram Handler NodeId Unit := do
  let found ← .perform NotifyOp.findHandlers
  if found && decide (targetNodeId ≠ nodeIdentifier) then do
    let send ← .perform (NotifyOp.reregisterRemote targetNodeId)
    sendIf send .registerEventNotifier targetNodeId
  else
    pure ()

def unregisterEventNotificationRemote (targetNodeId : NodeId) :
    NotifyProgram Handler NodeId Unit := do
  let send ← .perform (NotifyOp.unregisterRemote targetNodeId)
  sendIf send .unregisterEventNotifier targetNodeId

def unregisterEventNotification (registrationNo : BitVec 32)
    (targetNodeId : NodeId) : NotifyProgram Handler NodeId Unit := do
  let found ← .perform (NotifyOp.searchHandler registrationNo)
  if found && decide (targetNodeId ≠ nodeIdentifier) then
    unregisterEventNotificationRemote targetNodeId
  else
    pure ()

end NotifyProgram

end MwCom.Messaging
