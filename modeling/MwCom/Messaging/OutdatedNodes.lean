/-
Module: MwCom.Messaging.OutdatedNodes
Purpose: Threads of a provider that notify other nodes of updates while the messages of these
  nodes are handled, and which senders are created again for a node that is outdated.
Trusted boundary: a sender that was created stays usable for those who got it.
Main exports: NodeSet, RemoteOp, RemoteProgram.notifyEventRemote, remoteSystem,
  NoneResurrected, removesUnused, noneResurrected_of_reached
-/
import Mathlib.Data.Finset.Basic
import Mathlib.Data.Fintype.Basic
import MwCom.Interleaving.Contract

namespace MwCom.Messaging

open Interleaving Function

/-! ## Node identifiers -/

/-- A `std::set<pid_t>`; the type is signed. -/
structure NodeSet where
  nodes : List ℤ
  sorted : nodes.Pairwise (· < ·)
deriving DecidableEq

namespace NodeSet

def empty : NodeSet where
  nodes := []
  sorted := List.Pairwise.nil

def insert (set : NodeSet) (node : ℤ) : NodeSet where
  nodes := set.nodes.filter (· < node) ++ node :: set.nodes.filter (node < ·)
  sorted := by
    rw [List.pairwise_append, List.pairwise_cons]
    refine ⟨set.sorted.filter _, ⟨?_, set.sorted.filter _⟩, ?_⟩
    · intro later member
      exact of_decide_eq_true (List.mem_filter.mp member).2
    · intro earlier member later isLater
      have before : earlier < node := of_decide_eq_true (List.mem_filter.mp member).2
      rcases List.mem_cons.mp isLater with same | member
      · rw [same]
        exact before
      · exact before.trans (of_decide_eq_true (List.mem_filter.mp member).2)

def erase (set : NodeSet) (node : ℤ) : NodeSet where
  nodes := set.nodes.filter (· ≠ node)
  sorted := set.sorted.filter _

/-- The identifiers from `std::set::lower_bound` on. -/
def lowerBound (set : NodeSet) (start : ℤ) : List ℤ := set.nodes.filter (start ≤ ·)

variable {set : NodeSet} {node other : ℤ}

theorem mem_insert : other ∈ (set.insert node).nodes ↔ other = node ∨ other ∈ set.nodes := by
  simp only [insert, List.mem_append, List.mem_cons, List.mem_filter, decide_eq_true_eq]
  by_cases same : other = node
  · simp [same]
  · rcases lt_or_gt_of_ne same with before | behind
    · simp [same, before, before.asymm]
    · simp [same, behind, behind.asymm]

theorem mem_erase : other ∈ (set.erase node).nodes ↔ other ∈ set.nodes ∧ other ≠ node := by
  simp [erase]

end NodeSet

/-! ## Critical sections -/

/-- The interested nodes and the senders of one quality. The nodes that are `retired` are
those whose sender an outdated node id has removed, until they register again. -/
structure RemoteMemory (EventId : Type) where
  eventUpdateInterestedNodes : EventId → Option NodeSet
  senders : Finset ℤ
  retired : Finset ℤ

/-- What is done under one lock, and the sending of a message. -/
inductive RemoteOp (EventId : Type) where
  | copyNodeIdentifiers (event : EventId) (start : ℤ)
  | getMessagePassingSender (node : ℤ)
  | send (node : ℤ)
  | insertNode (event : EventId) (node : ℤ)
  | eraseNode (event : EventId) (node : ℤ)
  | eraseOutdated (node : ℤ)
  | removeMessagePassingSender (node : ℤ)

variable {EventId Thread : Type}

namespace RemoteOp

/-- Whether something is left to copy, was there already, was found, or was sent. -/
@[reducible] def Ret : RemoteOp EventId → Type
  | .copyNodeIdentifiers _ _ => List ℤ × Bool
  | .getMessagePassingSender _ => Unit
  | .send _ => Bool
  | .insertNode _ _ => Bool
  | .eraseNode _ _ => Bool
  | .eraseOutdated _ => Unit
  | .removeMessagePassingSender _ => Unit

end RemoteOp

/-- The size of `NodeIdTmpBufferType`. -/
def bufferSize : ℕ := 20

namespace RemoteMemory

variable (memory : RemoteMemory EventId)

/-- The next identifiers of an event, and whether the buffer is too small for the rest. -/
def copyNodeIdentifiers (event : EventId) (start : ℤ) : List ℤ × Bool :=
  match memory.eventUpdateInterestedNodes event with
  | none => ([], false)
  | some set =>
      ((set.lowerBound start).take bufferSize, decide (bufferSize < (set.lowerBound start).length))

/-- A node is told of updates of an event. -/
def Interested (event : EventId) (node : ℤ) : Prop :=
  ∃ set, memory.eventUpdateInterestedNodes event = some set ∧ node ∈ set.nodes

variable [DecidableEq EventId]

def insertNode (event : EventId) (node : ℤ) : RemoteMemory EventId :=
  { memory with
    eventUpdateInterestedNodes := update memory.eventUpdateInterestedNodes event
      (some (((memory.eventUpdateInterestedNodes event).getD .empty).insert node))
    retired := memory.retired.erase node }

def eraseNode (event : EventId) (node : ℤ) : RemoteMemory EventId :=
  { memory with
    eventUpdateInterestedNodes := update memory.eventUpdateInterestedNodes event
      ((memory.eventUpdateInterestedNodes event).map (·.erase node)) }

def eraseOutdated (node : ℤ) : RemoteMemory EventId :=
  { memory with
    eventUpdateInterestedNodes := fun event =>
      (memory.eventUpdateInterestedNodes event).map (·.erase node) }

/-- A sender is created if there is none. -/
def getMessagePassingSender (node : ℤ) : RemoteMemory EventId :=
  { memory with senders := insert node memory.senders }

def removeMessagePassingSender (node : ℤ) : RemoteMemory EventId :=
  { memory with
    senders := memory.senders.erase node
    retired := insert node memory.retired }

end RemoteMemory

/-- The answer of each operation, and the memory after it. -/
def RemoteOp.outcomes [DecidableEq EventId] :
    (op : RemoteOp EventId) → RemoteMemory EventId → List (op.Ret × RemoteMemory EventId)
  | .copyNodeIdentifiers event start, memory =>
      [(memory.copyNodeIdentifiers event start, memory)]
  | .getMessagePassingSender node, memory => [((), memory.getMessagePassingSender node)]
  | .send _, memory => [(true, memory), (false, memory)]
  | .insertNode event node, memory =>
      [((memory.eventUpdateInterestedNodes event).any (node ∈ ·.nodes),
        memory.insertNode event node)]
  | .eraseNode event node, memory =>
      [((memory.eventUpdateInterestedNodes event).any (node ∈ ·.nodes),
        memory.eraseNode event node)]
  | .eraseOutdated node, memory => [((), memory.eraseOutdated node)]
  | .removeMessagePassingSender node, memory => [((), memory.removeMessagePassingSender node)]

/-! ## Programs -/

abbrev RemoteProgram (EventId : Type) := Program (RemoteOp EventId) RemoteOp.Ret

namespace RemoteProgram

/-- Send the message to the nodes in the buffer; an error is only logged. -/
def notifyNodes : List ℤ → RemoteProgram EventId Unit
  | [] => pure ()
  | node :: rest => do
      .perform (RemoteOp.getMessagePassingSender node)
      let _ ← .perform (RemoteOp.send node)
      notifyNodes rest

/-- The loop over the buffers, with what is left until the count overflows. -/
def notifyBuffers (event : EventId) : (remaining : ℕ) → (start : ℤ) → RemoteProgram EventId Unit
  | 0, _ => pure ()
  | remaining + 1, start => do
      let copied ← .perform (RemoteOp.copyNodeIdentifiers event start)
      notifyNodes copied.1
      if copied.2 then notifyBuffers event remaining (copied.1.getLastD 0 + 1) else pure ()

def notifyEventRemote (event : EventId) : RemoteProgram EventId Unit := notifyBuffers event 255 0

def handleRegisterNotificationMsg (event : EventId) (senderNodeId : ℤ) :
    RemoteProgram EventId Unit := do
  let _ ← .perform (RemoteOp.insertNode event senderNodeId)
  pure ()

def handleUnregisterNotificationMsg (event : EventId) (senderNodeId : ℤ) :
    RemoteProgram EventId Unit := do
  let _ ← .perform (RemoteOp.eraseNode event senderNodeId)
  pure ()

/-- The sets are cleaned under their lock, then the sender is removed under its own. -/
def handleOutdatedNodeIdMsg (pidToUnregister : ℤ) : RemoteProgram EventId Unit := do
  .perform (RemoteOp.eraseOutdated pidToUnregister)
  .perform (RemoteOp.removeMessagePassingSender pidToUnregister)

end RemoteProgram

/-! ## The system -/

/-- The identifiers in the buffer of a thread that it has not sent to yet. -/
structure NotifyingThread where
  buffer : List ℤ
deriving DecidableEq

namespace NotifyingThread

/-- The buffer after an operation. -/
def observe (thread : NotifyingThread) : (op : RemoteOp EventId) → op.Ret → NotifyingThread
  | .copyNodeIdentifiers _ _, copied => ⟨copied.1⟩
  | .getMessagePassingSender _, _ => ⟨thread.buffer.tail⟩
  | _, _ => thread

end NotifyingThread

/-- An update of an event, or a message that is handled. -/
inductive RemoteCall (EventId : Type) where
  | notifyEvent (event : EventId)
  | register (event : EventId) (senderNodeId : ℤ)
  | unregister (event : EventId) (senderNodeId : ℤ)
  | outdatedNodeId (pidToUnregister : ℤ)

def RemoteCall.code : RemoteCall EventId → RemoteProgram EventId Unit
  | .notifyEvent event => RemoteProgram.notifyEventRemote event
  | .register event senderNodeId =>
      RemoteProgram.handleRegisterNotificationMsg event senderNodeId
  | .unregister event senderNodeId =>
      RemoteProgram.handleUnregisterNotificationMsg event senderNodeId
  | .outdatedNodeId pidToUnregister => RemoteProgram.handleOutdatedNodeIdMsg pidToUnregister

section System

variable [DecidableEq EventId]

def remoteSystem (Thread EventId : Type) [DecidableEq EventId] :
    System Thread (RemoteOp EventId) RemoteOp.Ret (RemoteMemory EventId) NotifyingThread
      (RemoteCall EventId) Unit where
  outcomes := RemoteOp.outcomes
  mayCall _ _ _ := True
  code _ _ call := call.code
  onCall _ _ thread _ := thread
  observe _ _ thread op answer := thread.observe op answer
  onReturn _ _ thread _ _ := thread
  onCrash _ _ _ := none
  environment _ _ := False

instance (thread : Thread) (object : NotifyingThread) (call : RemoteCall EventId) :
    Decidable ((remoteSystem Thread EventId).mayCall thread object call) :=
  .isTrue trivial

instance (before after : RemoteMemory EventId) :
    Decidable ((remoteSystem Thread EventId).environment before after) :=
  .isFalse id

abbrev RemoteConfig (Thread EventId : Type) :=
  Config Thread (RemoteOp EventId) RemoteOp.Ret (RemoteMemory EventId) NotifyingThread
    (RemoteCall EventId) Unit

abbrev RemoteEvent (Thread EventId : Type) :=
  Event Thread (RemoteOp EventId) RemoteOp.Ret (RemoteCall EventId) Unit

/-- No node is outdated yet; some may be interested, and have senders. -/
def remoteStart (interested : EventId → Option NodeSet) (senders : Finset ℤ) :
    RemoteConfig Thread EventId where
  memory := { eventUpdateInterestedNodes := interested, senders, retired := ∅ }
  object := fun _ => ⟨[]⟩
  activity := fun _ => .idle

/-! ## The law -/

/-- An outdated node whose sender was removed has none until it registers again. -/
def NoneResurrected (config : RemoteConfig Thread EventId) : Prop :=
  ∀ node ∈ config.memory.retired, node ∉ config.memory.senders

/-- When the sender of an outdated node is removed, the node is in no buffer, and it has not
become interested again. -/
def removesUnused (config : RemoteConfig Thread EventId) : RemoteEvent Thread EventId → Prop
  | .perform _ (.removeMessagePassingSender node) _ =>
      (∀ thread, node ∉ (config.object thread).buffer) ∧
        ∀ event, ¬ config.memory.Interested event node
  | _ => True

/-! ## What the threads keep -/

/-- A thread gets senders for the nodes in its buffer, in their order. -/
def remoteRules : Rules (RemoteOp EventId) RemoteOp.Ret (List ℤ) where
  may buffer
    | .getMessagePassingSender node => buffer.head? = some node
    | _ => True
  expects _ _ _ := True
  next buffer op answer := (NotifyingThread.observe ⟨buffer⟩ op answer).buffer

omit [DecidableEq EventId] in
theorem notifyNodes_respects (nodes : List ℤ) :
    (RemoteProgram.notifyNodes nodes : RemoteProgram EventId Unit).Respects remoteRules nodes
      fun _ _ => True := by
  induction nodes with
  | nil => exact trivial
  | cons node rest ih =>
      apply Program.Respects.perform rfl
      intro _ _
      apply Program.Respects.perform trivial
      intro _ _
      exact ih

omit [DecidableEq EventId] in
theorem notifyBuffers_respects (event : EventId) (remaining : ℕ) (start : ℤ) (buffer : List ℤ) :
    (RemoteProgram.notifyBuffers event remaining start).Respects remoteRules buffer
      fun _ _ => True := by
  induction remaining generalizing start buffer with
  | zero => exact trivial
  | succ remaining ih =>
      apply Program.Respects.perform trivial
      intro copied _
      apply (notifyNodes_respects copied.1).bind
      intro _ left _
      split
      · exact ih _ left
      · exact trivial

omit [DecidableEq EventId] in
theorem RemoteCall.code_respects (call : RemoteCall EventId) (buffer : List ℤ) :
    call.code.Respects remoteRules buffer fun _ _ => True := by
  cases call with
  | notifyEvent event => exact notifyBuffers_respects event 255 0 buffer
  | register event senderNodeId | unregister event senderNodeId =>
      exact ⟨trivial, fun _ _ => trivial⟩
  | outdatedNodeId pidToUnregister =>
      exact ⟨trivial, fun _ _ => ⟨trivial, fun _ _ => trivial⟩⟩

/-- A retired node is known nowhere. -/
structure RetiredUnknown (config : RemoteConfig Thread EventId) (node : ℤ) : Prop where
  senders : node ∉ config.memory.senders
  interested : ∀ event, ¬ config.memory.Interested event node
  buffers : ∀ thread, node ∉ (config.object thread).buffer

section Memory

variable {memory : RemoteMemory EventId} {event other : EventId} {node start : ℤ}

omit [DecidableEq EventId] in
/-- What is copied is interested. -/
theorem RemoteMemory.interested_of_copied
    (copied : node ∈ (memory.copyNodeIdentifiers event start).1) :
    memory.Interested event node := by
  rw [copyNodeIdentifiers] at copied
  split at copied
  · cases copied
  · rename_i set isSet
    exact ⟨set, isSet, (List.mem_filter.mp (List.mem_of_mem_take copied)).1⟩

theorem RemoteMemory.interested_insertNode {added : ℤ}
    (interested : (memory.insertNode event added).Interested other node) :
    node = added ∨ memory.Interested other node := by
  obtain ⟨set, isSet, member⟩ := interested
  change update memory.eventUpdateInterestedNodes event _ other = some set at isSet
  by_cases same : other = event
  · subst same
    rw [update_self, Option.some.injEq] at isSet
    subst isSet
    rcases NodeSet.mem_insert.mp member with isAdded | before
    · exact .inl isAdded
    · right
      cases found : memory.eventUpdateInterestedNodes other with
      | none =>
          rw [found] at before
          cases before
      | some present =>
          rw [found] at before
          exact ⟨present, found, before⟩
  · rw [update_of_ne same] at isSet
    exact .inr ⟨set, isSet, member⟩

theorem RemoteMemory.interested_eraseNode {erased : ℤ}
    (interested : (memory.eraseNode event erased).Interested other node) :
    memory.Interested other node := by
  obtain ⟨set, isSet, member⟩ := interested
  change update memory.eventUpdateInterestedNodes event _ other = some set at isSet
  by_cases same : other = event
  · subst same
    rw [update_self] at isSet
    obtain ⟨present, found, rfl⟩ := Option.map_eq_some_iff.mp isSet
    exact ⟨present, found, (NodeSet.mem_erase.mp member).1⟩
  · rw [update_of_ne same] at isSet
    exact ⟨set, isSet, member⟩

omit [DecidableEq EventId] in
theorem RemoteMemory.interested_eraseOutdated {erased : ℤ}
    (interested : (memory.eraseOutdated erased).Interested other node) :
    memory.Interested other node := by
  obtain ⟨set, isSet, member⟩ := interested
  obtain ⟨present, found, rfl⟩ := Option.map_eq_some_iff.mp isSet
  exact ⟨present, found, (NodeSet.mem_erase.mp member).1⟩

end Memory

variable [DecidableEq Thread]

/-- The contract of the threads. -/
def remoteContract : Contract (remoteSystem Thread EventId) (List ℤ) where
  Inv config := ∀ node ∈ config.memory.retired, RetiredUnknown config node
  view config thread := (config.object thread).buffer
  rules _ := remoteRules
  post _ _ _ _ := True

theorem buffer_unseen (config : RemoteConfig Thread EventId) (memory : RemoteMemory EventId)
    (thread : Thread) (object : NotifyingThread)
    (activity : Activity (RemoteOp EventId) RemoteOp.Ret (RemoteCall EventId) Unit) :
    remoteContract.Unseen thread config (config.update memory thread object activity) := by
  intro other distinct
  change ((config.update _ _ _ _).object other).buffer = _
  rw [Config.update_object_of_ne distinct]
  rfl

namespace RetiredUnknown

variable {config : RemoteConfig Thread EventId} {node : ℤ} {thread : Thread}
  {memory : RemoteMemory EventId} {object : NotifyingThread}
  {activity : Activity (RemoteOp EventId) RemoteOp.Ret (RemoteCall EventId) Unit}

omit [DecidableEq EventId] in
/-- A step that makes the node known nowhere. -/
theorem moved (unknown : RetiredUnknown config node) (senders : node ∉ memory.senders)
    (interested : ∀ event, memory.Interested event node → config.memory.Interested event node)
    (buffer : node ∉ object.buffer) :
    RetiredUnknown (config.update memory thread object activity) node where
  senders := senders
  interested := by
    intro event isInterested
    exact unknown.interested event (interested event isInterested)
  buffers := by
    intro other
    by_cases same : other = thread
    · subst same
      rw [Config.update_object_self]
      exact buffer
    · rw [Config.update_object_of_ne same]
      exact unknown.buffers other

end RetiredUnknown

/-- Every operation keeps retired nodes unknown. -/
theorem remote_perform {config : RemoteConfig Thread EventId} {thread : Thread}
    {op : RemoteOp EventId} {answer : op.Ret} {memory : RemoteMemory EventId}
    {activity : Activity (RemoteOp EventId) RemoteOp.Ret (RemoteCall EventId) Unit}
    (inv : ∀ node ∈ config.memory.retired, RetiredUnknown config node)
    (unused : removesUnused config (.perform thread op answer))
    (may : remoteRules.may (config.object thread).buffer op)
    (outcome : (answer, memory) ∈ op.outcomes config.memory) :
    ∀ node ∈ memory.retired, RetiredUnknown
      (config.update memory thread ((config.object thread).observe op answer) activity)
        node := by
  intro node retired
  cases op with
  | copyNodeIdentifiers event start =>
      cases List.mem_singleton.mp outcome
      have unknown := inv node retired
      refine unknown.moved unknown.senders (fun _ same => same) ?_
      intro copied
      exact unknown.interested event (RemoteMemory.interested_of_copied copied)
  | getMessagePassingSender other =>
      cases List.mem_singleton.mp outcome
      have unknown := inv node retired
      have isBuffered : other ∈ (config.object thread).buffer := List.mem_of_head? may
      have distinct : node ≠ other := by
        intro same
        rw [← same] at isBuffered
        exact unknown.buffers thread isBuffered
      refine unknown.moved ?_ (fun _ same => same) ?_
      · change node ∉ insert other config.memory.senders
        rw [Finset.mem_insert, not_or]
        exact ⟨distinct, unknown.senders⟩
      · intro later
        exact unknown.buffers thread (List.mem_of_mem_tail later)
  | send other =>
      have sameMemory : memory = config.memory := by
        rcases List.mem_cons.mp outcome with same | member
        · exact (Prod.mk.inj same).2
        · exact (Prod.mk.inj (List.mem_singleton.mp member)).2
      subst sameMemory
      have unknown := inv node retired
      exact unknown.moved unknown.senders (fun _ same => same) (unknown.buffers thread)
  | insertNode event added =>
      cases List.mem_singleton.mp outcome
      obtain ⟨distinct, before⟩ := Finset.mem_erase.mp retired
      have unknown := inv node before
      refine unknown.moved unknown.senders ?_ (unknown.buffers thread)
      intro other interested
      rcases RemoteMemory.interested_insertNode interested with same | already
      · exact absurd same distinct
      · exact already
  | eraseNode event erased =>
      cases List.mem_singleton.mp outcome
      have unknown := inv node retired
      refine unknown.moved unknown.senders ?_ (unknown.buffers thread)
      intro other interested
      exact RemoteMemory.interested_eraseNode interested
  | eraseOutdated erased =>
      cases List.mem_singleton.mp outcome
      have unknown := inv node retired
      refine unknown.moved unknown.senders ?_ (unknown.buffers thread)
      intro other interested
      exact RemoteMemory.interested_eraseOutdated interested
  | removeMessagePassingSender removed =>
      cases List.mem_singleton.mp outcome
      rcases Finset.mem_insert.mp retired with rfl | before
      · constructor
        · exact Finset.notMem_erase _ _
        · exact unused.2
        · intro other
          by_cases same : other = thread
          · subst same
            rw [Config.update_object_self]
            exact unused.1 other
          · rw [Config.update_object_of_ne same]
            exact unused.1 other
      · have unknown := inv node before
        refine unknown.moved ?_ (fun _ same => same) (unknown.buffers thread)
        intro isSender
        exact unknown.senders (Finset.mem_of_mem_erase isSender)

theorem remote_obligations :
    (remoteContract : Contract (remoteSystem Thread EventId) (List ℤ)).Obligations
      removesUnused where
  call := by
    intro config thread call inv _ _ _ after rfl
    refine ⟨?_, buffer_unseen _ _ _ _ _, call.code_respects _⟩
    intro node retired
    have unknown := inv node retired
    exact unknown.moved unknown.senders (fun _ same => same) (unknown.buffers thread)
  perform := by
    intro config thread call op next answer memory inv unused running may outcome after rfl
    refine ⟨remote_perform inv unused may outcome, buffer_unseen _ _ _ _ _, trivial, ?_⟩
    change ((config.update _ _ _ _).object thread).buffer = _
    rw [Config.update_object_self]
    rfl
  finish := by
    intro config thread call reply inv _ _ _ after rfl
    refine ⟨?_, buffer_unseen _ _ _ _ _⟩
    intro node retired
    have unknown := inv node retired
    exact unknown.moved unknown.senders (fun _ same => same) (unknown.buffers thread)
  crash := by
    intro config thread object _ _ killed
    cases killed
  environment := by
    intro config memory _ _ moved
    cases moved

/-- In every run that removes senders only while they are not used, no sender of an outdated
node comes back. -/
theorem noneResurrected_of_reached {interested : EventId → Option NodeSet}
    {senders : Finset ℤ} {config : RemoteConfig Thread EventId}
    (reached : Reaches (remoteSystem Thread EventId) removesUnused
      (remoteStart interested senders) config) :
    NoneResurrected config := by
  have holds := Contract.run remote_obligations
    (fun _ retired => absurd retired (Finset.notMem_empty _)) (fun _ => rfl) reached
  intro node retired
  exact (holds.inv node retired).senders

end System

section TwoThreads

instance (memory : RemoteMemory EventId) (event : EventId) (node : ℤ) :
    Decidable (memory.Interested event node) :=
  match found : memory.eventUpdateInterestedNodes event with
  | none => .isFalse (by simp [RemoteMemory.Interested, found])
  | some set => decidable_of_iff (node ∈ set.nodes) (by simp [RemoteMemory.Interested, found])

instance [Fintype Thread] [Fintype EventId] (config : RemoteConfig Thread EventId)
    (event : RemoteEvent Thread EventId) : Decidable (removesUnused config event) := by
  cases event with
  | perform thread op answer =>
      cases op with
      | removeMessagePassingSender node => exact inferInstanceAs (Decidable (_ ∧ _))
      | _ => exact .isTrue trivial
  | _ => exact .isTrue trivial

/-- Node 7 is interested and gets an update. -/
def updated : List (Choice Bool (RemoteMemory Unit) (RemoteCall Unit)) :=
  [.call true (.register () 7), .perform true 0, .finish true,
    .call false (.notifyEvent ()), .perform false 0, .perform false 0, .perform false 0,
    .finish false]

/-- Then it is outdated. -/
def outdatedAfterUpdate : List (Choice Bool (RemoteMemory Unit) (RemoteCall Unit)) := List.flatten
    [updated, [.call true (.outdatedNodeId 7), .perform true 0, .perform true 0, .finish true,
      .call false (.notifyEvent ()), .perform false 0, .finish false]]

theorem noneResurrected_outdatedAfterUpdate : ∃ config : RemoteConfig Bool Unit,
      Reaches (remoteSystem Bool Unit) removesUnused (remoteStart (fun _ => none) ∅) config ∧
        7 ∈ config.memory.retired ∧ 7 ∉ config.memory.senders := by
  obtain ⟨config, reached, retired⟩ :=
    exists_reached (remoteSystem Bool Unit) removesUnused (remoteStart (fun _ => none) ∅)
      outdatedAfterUpdate (fun config => 7 ∈ config.memory.retired) (by decide +kernel)
  exact ⟨config, reached, retired, noneResurrected_of_reached reached 7 retired⟩

/-- It is outdated while a thread has its identifier in the buffer for the next update. -/
def outdatedWhileBuffered : List (Choice Bool (RemoteMemory Unit) (RemoteCall Unit)) := List.flatten
    [updated, [.call false (.notifyEvent ()), .perform false 0,
      .call true (.outdatedNodeId 7), .perform true 0, .perform true 0, .finish true,
      .perform false 0]]

/-- The sender of an outdated node is created again. -/
theorem noneResurrected_violated : ¬ ∀ config : RemoteConfig Bool Unit,
      Reaches (remoteSystem Bool Unit) (fun _ _ => True) (remoteStart (fun _ => none) ∅)
          config →
        NoneResurrected config := by
  intro law
  obtain ⟨config, reached, retired, isSender⟩ :=
    exists_reached (remoteSystem Bool Unit) (fun _ _ => True)
      (remoteStart (fun _ => none) ∅) outdatedWhileBuffered
      (fun config => 7 ∈ config.memory.retired ∧ 7 ∈ config.memory.senders)
      (by decide +kernel)
  exact law config reached 7 retired isSender

end TwoThreads

end MwCom.Messaging
