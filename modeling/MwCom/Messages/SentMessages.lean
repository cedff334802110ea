/-
Module: MwCom.Messages.SentMessages
Purpose: All messages a process hands to its senders, in any interleaving of its
  threads, and whether they carry its own node id.
Trusted boundary: a sender delivers what it is handed.
Main exports: notifySystem, notifyStart, CarriesOwnId, aimsAtItself,
  carriesOwnId_of_reached
-/
import Mathlib.Data.Finset.Sort
import MwCom.Interleaving.Contract
import MwCom.MessagePassing.ResmgrMessages
import MwCom.Messages.MessageHandlers

namespace MwCom.Messages

open Bytes Interleaving MessagePassing
open MwCom.Lola (QualityType)
open MwCom.Messaging (NotifyOp NotifyProgram NotifyMemory InterestedNodes)

variable {Thread Handler : Type}

/-! ## Memory and operations -/

/-- A message handed to the sender of a node. -/
structure SentMessage where
  asilLevel : QualityType
  targetNodeId : Pid
  message : ShortMessage
deriving DecidableEq

/-- A process with the messages it has sent and the local notifications posted
to its thread pools. -/
structure SendingProcess (Handler : Type) where
  process : NotifyProcess Handler
  sent : List SentMessage
  posted : List (QualityType × ElementFqId)

/-- What the threads of a process do in one piece. -/
inductive ProcessOp (Handler : Type) where
  /-- A critical section about one event, or a message about it. -/
  | critical (asilLevel : QualityType) (event : ElementFqId)
      (op : NotifyOp Handler Pid)
  | copyNodeIdentifiers (asilLevel : QualityType) (event : ElementFqId) (start : Pid)
  | findHandlers (asilLevel : QualityType) (event : ElementFqId)
  | post (asilLevel : QualityType) (event : ElementFqId)
  | notifyEventLocally (asilLevel : QualityType) (event : ElementFqId)
  | receive (type : MessageType) (payload : BitVec 64) (asilLevel : QualityType)
      (senderNodeId : Pid)
  | send (sent : SentMessage)
  | terminate

@[reducible] def ProcessOp.Ret : ProcessOp Handler → Type
  | .critical _ _ op => op.Ret
  | .copyNodeIdentifiers _ _ _ => List Pid × Bool
  | .findHandlers _ _ => Bool
  | _ => Unit

namespace SendingProcess

variable (memory : SendingProcess Handler)

/-- `Send` of the sender of a node, which is created if there is none. -/
def send (sent : SentMessage) : SendingProcess Handler :=
  { memory with
    process :=
      { memory.process with
        senders := fun level node =>
          memory.process.senders level node ||
            (level == sent.asilLevel && node == sent.targetNodeId) }
    sent := memory.sent ++ [sent] }

/-- Handlers and remote registrations of one event. -/
def setOnEvent (asilLevel : QualityType) (event : ElementFqId)
    (control : Messaging.NotifyEventHandler Handler Pid) : SendingProcess Handler :=
  let data := memory.process.controlData asilLevel
  { memory with
    process := memory.process.setControlData asilLevel
      { data with
        eventUpdateHandlers := Function.update data.eventUpdateHandlers event.key
          control.eventUpdateHandlers
        eventUpdateRemoteRegistrations :=
          Function.update data.eventUpdateRemoteRegistrations event.key
            control.eventUpdateRemoteRegistrations
        curRegistrationNo := control.curRegistrationNo } }

end SendingProcess

/-- The capacity of `NodeIdTmpBufferType`. -/
def nodeIdTmpBufferSize : Nat := 20

/-- The interested nodes from `start` on, as many as fit, and whether there are
more. -/
def copyNodeIdentifiers (interested : InterestedNodes Pid) (start : Pid) : List Pid × Bool :=
  let nodes := (((interested.getD ∅).image BitVec.toInt).filter
    (start.toInt ≤ ·)).sort (· ≤ ·)
  ((nodes.take nodeIdTmpBufferSize).map (BitVec.ofInt 32),
    decide (nodeIdTmpBufferSize < nodes.length))

section System

variable (order : ByteOrder) (asilBCapability : Bool) (nodeIdentifier : Pid)

/-- The message about the interest in an event, with the own node id. -/
def interestMessage (event : ElementFqId) : Messaging.MessageType → ShortMessage
  | .registerEventNotifier =>
      (⟨event, nodeIdentifier⟩ : RegisterEventNotificationMessage).serializeToShortMessage
  | .unregisterEventNotifier =>
      (⟨event, nodeIdentifier⟩ : UnregisterEventNotificationMessage).serializeToShortMessage

/-- The answers of an operation with the memory after it. -/
def ProcessOp.outcomes : (op : ProcessOp Handler) → SendingProcess Handler →
      List (op.Ret × SendingProcess Handler)
  | .critical asilLevel event (.send message), memory =>
      [((), memory.send
        { asilLevel
          targetNodeId := message.target
          message := interestMessage nodeIdentifier event message.type })]
  | .critical asilLevel event op, memory =>
      (op.outcomes
        { control := (memory.process.controlData asilLevel).onEvent event.key
          inFlight := []
          interestedNodes := none }).map fun ended =>
        (ended.1, memory.setOnEvent asilLevel event ended.2.control)
  | .copyNodeIdentifiers asilLevel event start, memory =>
      [(Messages.copyNodeIdentifiers
        ((memory.process.controlData asilLevel).eventUpdateInterestedNodes event.key)
        start, memory)]
  | .findHandlers asilLevel event, memory =>
      [(!((memory.process.controlData asilLevel).onEvent event.key).handlers.isEmpty, memory)]
  | .post asilLevel event, memory =>
      [((), { memory with posted := memory.posted ++ [(asilLevel, event)] })]
  | .notifyEventLocally asilLevel event, memory =>
      let control := (memory.process.controlData asilLevel).onEvent event.key
      [((),
        { memory with
          process :=
            { memory.process with
              invoked := memory.process.invoked ++ control.notifyEventLocally } })]
  | .receive type payload asilLevel senderNodeId, memory =>
      match messageHandler order asilBCapability type payload asilLevel senderNodeId
          memory.process with
      | some process => [((), { memory with process })]
      -- the process ends
      | none => []
  | .send sent, memory => [((), memory.send sent)]
  | .terminate, _ => []

/-! ## Calls -/

/-- A program of a thread of the process. -/
abbrev ProcessProgram (Handler : Type) := Program (ProcessOp Handler) ProcessOp.Ret

/-- The calls of `NotifyEventHandler`, the tasks of its thread pools and the
callbacks of its receivers. -/
inductive ProcessCall (Handler : Type) where
  | registerEventNotification (asilLevel : QualityType) (event : ElementFqId)
      (callback : Handler) (targetNodeId : Pid)
  | reregisterEventNotification (asilLevel : QualityType) (event : ElementFqId)
      (targetNodeId : Pid)
  | unregisterEventNotification (asilLevel : QualityType) (event : ElementFqId)
      (registrationNo : BitVec 32) (targetNodeId : Pid)
  | notifyEvent (asilLevel : QualityType) (event : ElementFqId)
  | notifyOutdatedNodeId (asilLevel : QualityType) (outdatedNodeId targetNodeId : Pid)
  | notifyEventLocally (asilLevel : QualityType) (event : ElementFqId)
  | receive (type : MessageType) (payload : BitVec 64) (asilLevel : QualityType)
      (senderNodeId : Pid)

namespace ProcessProgram

/-- A program about one event as part of the process. -/
def onEvent {α : Type} (asilLevel : QualityType) (event : ElementFqId)
    (program : NotifyProgram Handler Pid α) : ProcessProgram Handler α :=
  program.lift (ProcessOp.critical asilLevel event) fun _ answer => answer

/-- The assertion about the quality of a call, in front of it. -/
def withAsilLevel (asilLevel : QualityType) (program : ProcessProgram Handler Unit) :
    ProcessProgram Handler Unit :=
  match assertAsilLevel asilBCapability asilLevel with
  | some () => program
  | none => .perform ProcessOp.terminate

/-- The message to each of the copied nodes. -/
def sendAll (asilLevel : QualityType) (message : ShortMessage) :
    List Pid → ProcessProgram Handler Unit
  | [] => pure ()
  | node :: rest => do
      .perform (ProcessOp.send ⟨asilLevel, node, message⟩)
      sendAll asilLevel message rest

/-- The loop of `NotifyEventRemote`, at most `loops` more times. -/
def notifyEventRemote (asilLevel : QualityType) (event : ElementFqId) :
    (loops : Nat) → (start : Pid) → ProcessProgram Handler Unit
  | 0, _ => pure ()
  | loops + 1, start => do
      let (nodes, further) ← .perform
        (ProcessOp.copyNodeIdentifiers asilLevel event start)
      sendAll asilLevel
        (⟨event, nodeIdentifier⟩ : NotifyEventUpdateMessage).serializeToShortMessage
        nodes
      if further then
        notifyEventRemote asilLevel event loops (nodes.getLastD 0 + 1)
      else
        pure ()

def notifyEvent (asilLevel : QualityType) (event : ElementFqId) : ProcessProgram Handler Unit := do
  notifyEventRemote nodeIdentifier asilLevel event 255 0
  let found ← .perform (ProcessOp.findHandlers asilLevel event)
  if found then
    .perform (ProcessOp.post asilLevel event)
  else
    pure ()

/-- The message carries the target where the others carry the own node id. -/
def notifyOutdatedNodeId (asilLevel : QualityType)
    (outdatedNodeId targetNodeId : Pid) : ProcessProgram Handler Unit :=
  let message : OutdatedNodeIdMessage :=
    { pidToUnregister := outdatedNodeId, senderNodeId := targetNodeId }
  .perform (ProcessOp.send
    ⟨asilLevel, targetNodeId, message.serializeToShortMessage order⟩)

end ProcessProgram

open ProcessProgram

/-- The program of a call. -/
def ProcessCall.code : ProcessCall Handler → ProcessProgram Handler Unit
  | .registerEventNotification asilLevel event callback targetNodeId =>
      withAsilLevel asilBCapability asilLevel (do
        let _ ← onEvent asilLevel event (NotifyProgram.registerEventNotification
          nodeIdentifier callback targetNodeId)
        pure ())
  | .reregisterEventNotification asilLevel event targetNodeId =>
      withAsilLevel asilBCapability asilLevel
        (onEvent asilLevel event (NotifyProgram.reregisterEventNotification
          nodeIdentifier targetNodeId))
  | .unregisterEventNotification asilLevel event registrationNo targetNodeId =>
      withAsilLevel asilBCapability asilLevel
        (onEvent asilLevel event (NotifyProgram.unregisterEventNotification
          nodeIdentifier registrationNo targetNodeId))
  | .notifyEvent asilLevel event =>
      withAsilLevel asilBCapability asilLevel
        (ProcessProgram.notifyEvent nodeIdentifier asilLevel event)
  | .notifyOutdatedNodeId asilLevel outdatedNodeId targetNodeId =>
      withAsilLevel asilBCapability asilLevel
        (ProcessProgram.notifyOutdatedNodeId order asilLevel outdatedNodeId
          targetNodeId)
  | .notifyEventLocally asilLevel event =>
      .perform (ProcessOp.notifyEventLocally asilLevel event)
  | .receive type payload asilLevel senderNodeId =>
      .perform (ProcessOp.receive type payload asilLevel senderNodeId)

/-- The threads of one process. -/
def notifySystem (Thread Handler : Type) :
    System Thread (ProcessOp Handler) ProcessOp.Ret (SendingProcess Handler) Unit
      (ProcessCall Handler) Unit where
  outcomes := ProcessOp.outcomes order asilBCapability nodeIdentifier
  mayCall _ _ _ := True
  code _ _ call := call.code order asilBCapability nodeIdentifier
  onCall _ _ _ _ := ()
  observe _ _ _ _ _ := ()
  onReturn _ _ _ _ _ := ()
  onCrash _ _ _ := none
  environment _ _ := False

/-- A state of `notifySystem`. -/
abbrev NotifyConfig (Thread Handler : Type) :=
  Config Thread (ProcessOp Handler) ProcessOp.Ret (SendingProcess Handler) Unit
    (ProcessCall Handler) Unit

/-- An event of `notifySystem`. -/
abbrev NotifyProcessEvent (Thread Handler : Type) :=
  Event Thread (ProcessOp Handler) ProcessOp.Ret (ProcessCall Handler) Unit

/-- A process that has sent nothing. -/
def notifyStart (process : NotifyProcess Handler) : NotifyConfig Thread Handler where
  memory := { process, sent := [], posted := [] }
  object := fun _ => ()
  activity := fun _ => .idle

/-! ## The law -/

/-- Every message sent carries the own node id, so that the resource manager of
its receiver accepts it. -/
def CarriesOwnId (config : NotifyConfig Thread Handler) : Prop := ∀ sent ∈ config.memory.sent,
    sent.message.pid = nodeIdentifier ∧
      ResmgrReceiverTraits.getMessageData nodeIdentifier true (.short sent.message) =
        .ok (.inl sent.message)

/-- Nobody but the process itself is told about an outdated node. -/
def aimsAtItself (_ : NotifyConfig Thread Handler) : NotifyProcessEvent Thread Handler → Prop
  | .call _ (.notifyOutdatedNodeId _ _ targetNodeId) => targetNodeId = nodeIdentifier
  | _ => True

/-! ## The rules of a thread -/

/-- What is sent carries the own node id. -/
def ownIdRules : Rules (ProcessOp Handler) ProcessOp.Ret Unit where
  may _
    | .send sent => sent.message.pid = nodeIdentifier
    | _ => True
  expects _ _ _ := True
  next _ _ _ := ()

end System

section Programs

variable {order : ByteOrder} {asilBCapability : Bool} {nodeIdentifier : Pid}

theorem interestMessage_pid (event : ElementFqId) (type : Messaging.MessageType) :
    (interestMessage nodeIdentifier event type).pid = nodeIdentifier := by
  cases type with
  | registerEventNotifier => rfl
  | unregisterEventNotifier => rfl

variable {asilLevel : QualityType}

/-- A program about one event sends only messages that carry the own id. -/
theorem onEvent_respects {α : Type} {event : ElementFqId} (program : NotifyProgram Handler Pid α) :
    (ProcessProgram.onEvent asilLevel event program).Respects
      (ownIdRules nodeIdentifier) () fun _ _ => True := by
  induction program with
  | done result => exact trivial
  | step op next ih =>
      exact ⟨trivial, fun answer _ => ih answer⟩

theorem sendAll_respects {message : ShortMessage} (own : message.pid = nodeIdentifier)
    (nodes : List Pid) :
    (ProcessProgram.sendAll asilLevel message nodes :
      ProcessProgram Handler Unit).Respects (ownIdRules nodeIdentifier) ()
        fun _ _ => True := by
  induction nodes with
  | nil => exact trivial
  | cons node rest ih => exact ⟨own, fun _ _ => ih⟩

theorem notifyEventRemote_respects {event : ElementFqId} (loops : Nat) (start : Pid) :
    (ProcessProgram.notifyEventRemote nodeIdentifier asilLevel event loops start :
      ProcessProgram Handler Unit).Respects (ownIdRules nodeIdentifier) ()
        fun _ _ => True := by
  induction loops generalizing start with
  | zero => exact trivial
  | succ loops ih =>
      refine ⟨trivial, fun copied _ => ?_⟩
      obtain ⟨nodes, further⟩ := copied
      have toAll : (ProcessProgram.sendAll asilLevel
          (⟨event, nodeIdentifier⟩ : NotifyEventUpdateMessage).serializeToShortMessage nodes :
          ProcessProgram Handler Unit).Respects (ownIdRules nodeIdentifier) ()
            fun _ _ => True := by
        apply sendAll_respects
        rfl
      apply toAll.bind
      intro _ _ _
      cases further with
      | true => exact ih _
      | false => exact trivial

theorem withAsilLevel_respects {program : ProcessProgram Handler Unit}
    (respected : program.Respects (ownIdRules nodeIdentifier) () fun _ _ => True) :
    (ProcessProgram.withAsilLevel asilBCapability asilLevel program).Respects
      (ownIdRules nodeIdentifier) () fun _ _ => True := by
  rw [ProcessProgram.withAsilLevel]
  split
  · exact respected
  · exact ⟨trivial, fun _ _ => trivial⟩

/-- Every call sends the own id, if it does not tell another node about an
outdated one. -/
theorem ProcessCall.code_respects {call : ProcessCall Handler}
    (itself : ∀ asilLevel outdatedNodeId targetNodeId,
      call = .notifyOutdatedNodeId asilLevel outdatedNodeId targetNodeId →
        targetNodeId = nodeIdentifier) :
    (call.code order asilBCapability nodeIdentifier).Respects
      (ownIdRules nodeIdentifier) () fun _ _ => True := by
  cases call with
  | registerEventNotification asilLevel event callback targetNodeId =>
      apply withAsilLevel_respects
      apply (onEvent_respects _).bind
      intro _ _ _
      exact trivial
  | reregisterEventNotification asilLevel event targetNodeId
  | unregisterEventNotification asilLevel event registrationNo targetNodeId =>
      exact withAsilLevel_respects (onEvent_respects _)
  | notifyEvent asilLevel event =>
      apply withAsilLevel_respects
      apply (notifyEventRemote_respects 255 0).bind
      intro _ _ _
      refine ⟨trivial, fun found _ => ?_⟩
      cases found with
      | true => exact ⟨trivial, fun _ _ => trivial⟩
      | false => exact trivial
  | notifyOutdatedNodeId asilLevel outdatedNodeId targetNodeId =>
      apply withAsilLevel_respects
      exact ⟨itself asilLevel outdatedNodeId targetNodeId rfl, fun _ _ => trivial⟩
  | notifyEventLocally asilLevel event => exact ⟨trivial, fun _ _ => trivial⟩
  | receive type payload asilLevel senderNodeId =>
      exact ⟨trivial, fun _ _ => trivial⟩

/-! ## What the threads keep -/

/-- An operation sends nothing, or one message with the own id. -/
theorem outcomes_sent {op : ProcessOp Handler} {answer : op.Ret}
    {memory after : SendingProcess Handler} (may : (ownIdRules nodeIdentifier).may () op)
    (outcome : (answer, after) ∈ op.outcomes order asilBCapability nodeIdentifier memory) :
    after.sent = memory.sent ∨ ∃ sent, sent.message.pid = nodeIdentifier ∧
        after.sent = memory.sent ++ [sent] := by
  cases op with
  | critical asilLevel event op =>
      cases op with
      | send message =>
          cases List.mem_singleton.mp outcome
          exact .inr ⟨_, interestMessage_pid event message.type, rfl⟩
      | _ =>
          obtain ⟨ended, _, same⟩ := List.mem_map.mp outcome
          rw [← (Prod.mk.inj same).2]
          exact .inl rfl
  | copyNodeIdentifiers asilLevel event start | findHandlers asilLevel event
  | post asilLevel event | notifyEventLocally asilLevel event =>
      cases List.mem_singleton.mp outcome
      exact .inl rfl
  | receive type payload asilLevel senderNodeId =>
      rw [ProcessOp.outcomes] at outcome
      split at outcome
      · cases List.mem_singleton.mp outcome
        exact .inl rfl
      · cases outcome
  | send sent =>
      cases List.mem_singleton.mp outcome
      exact .inr ⟨sent, may, rfl⟩
  | terminate => cases outcome

variable [DecidableEq Thread]

/-- Everything sent carries the own id. -/
def sentContract : Contract
    (notifySystem order asilBCapability nodeIdentifier Thread Handler) Unit where
  Inv config := ∀ sent ∈ config.memory.sent, sent.message.pid = nodeIdentifier
  view _ _ := ()
  rules _ := ownIdRules nodeIdentifier
  post _ _ _ _ := True

theorem sent_obligations : (sentContract : Contract
      (notifySystem order asilBCapability nodeIdentifier Thread Handler)
        Unit).Obligations (aimsAtItself nodeIdentifier) where
  call := by
    intro config thread call inv aimed _ _ after same
    rw [same]
    refine ⟨inv, fun _ _ => rfl, ?_⟩
    apply ProcessCall.code_respects
    intro asilLevel outdatedNodeId targetNodeId isOutdated
    rw [isOutdated] at aimed
    exact aimed
  perform := by
    intro config thread call op next answer memory inv _ _ may outcome after same
    rw [same]
    refine ⟨?_, fun _ _ => rfl, trivial, rfl⟩
    rcases outcomes_sent may outcome with quiet | ⟨sent, own, more⟩
    · intro earlier member
      rw [Config.update_memory, quiet] at member
      exact inv earlier member
    · intro earlier member
      rw [Config.update_memory, more] at member
      rcases List.mem_append.mp member with before | last
      · exact inv earlier before
      · rw [List.mem_singleton.mp last]
        exact own
  finish := by
    intro config thread call reply inv _ _ _ after same
    rw [same]
    exact ⟨inv, fun _ _ => rfl⟩
  crash := by
    intro config thread object _ _ killed
    cases killed
  environment := by
    intro config memory _ _ impossible
    cases impossible

/-- In every run that tells no other node about an outdated one, every message
sent carries the own node id and is accepted. -/
theorem carriesOwnId_of_reached {process : NotifyProcess Handler}
    {config : NotifyConfig Thread Handler}
    (reached : Reaches (notifySystem order asilBCapability nodeIdentifier Thread Handler)
      (aimsAtItself nodeIdentifier) (notifyStart process) config) :
    CarriesOwnId nodeIdentifier config := by
  have initially : (sentContract : Contract
      (notifySystem order asilBCapability nodeIdentifier Thread Handler) Unit).Inv
        (notifyStart process) := by
    intro sent impossible
    cases impossible
  have holds := Contract.run sent_obligations initially (fun _ => rfl) reached
  intro sent member
  have own := holds.inv sent member
  exact ⟨own, getMessageData_short_eq_ok.mpr own⟩

end Programs

section Inputs

instance {order : ByteOrder} {asilBCapability : Bool} {nodeIdentifier : Pid}
    (thread : Thread) (object : Unit) (call : ProcessCall Handler) :
    Decidable ((notifySystem order asilBCapability nodeIdentifier Thread
      Handler).mayCall thread object call) :=
  .isTrue trivial

instance {order : ByteOrder} {asilBCapability : Bool} {nodeIdentifier : Pid}
    (before after : SendingProcess Handler) :
    Decidable ((notifySystem order asilBCapability nodeIdentifier Thread
      Handler).environment before after) :=
  .isFalse id

instance {nodeIdentifier : Pid} (config : NotifyConfig Thread Handler)
    (event : NotifyProcessEvent Thread Handler) :
    Decidable (aimsAtItself nodeIdentifier config event) := by
  cases event with
  | call thread call =>
      cases call with
      | notifyOutdatedNodeId asilLevel outdatedNodeId targetNodeId =>
          exact inferInstanceAs (Decidable (_ = _))
      | _ => exact .isTrue trivial
  | _ => exact .isTrue trivial

/-- The process with node id 5 registers a handler at node 7. -/
def registerAtSeven : List (Choice Unit (SendingProcess Unit) (ProcessCall Unit)) :=
  [.call () (.registerEventNotification .asilQm ⟨1, 2, 3, .event⟩ () 7),
    .perform () 0, .perform () 0, .perform () 0, .finish ()]

/-- A run in which something is sent. -/
theorem carriesOwnId_of_registered : ∃ config : NotifyConfig Unit Unit,
      Reaches (notifySystem .littleEndian false 5 Unit Unit) (aimsAtItself 5)
          (notifyStart emptyProcess) config ∧
        config.memory.sent ≠ [] ∧ CarriesOwnId 5 config := by
  obtain ⟨config, reached, sent⟩ :=
    exists_reached (notifySystem .littleEndian false 5 Unit Unit) (aimsAtItself 5)
      (notifyStart emptyProcess) registerAtSeven
      (fun config => config.memory.sent ≠ []) (by decide +kernel)
  exact ⟨config, reached, sent, carriesOwnId_of_reached reached⟩

/-- The process with node id 5 tells node 7 that node 9 is outdated. -/
def outdatedAtSeven : List (Choice Unit (SendingProcess Unit) (ProcessCall Unit)) :=
  [.call () (.notifyOutdatedNodeId .asilQm 9 7), .perform () 0, .finish ()]

/-- The message about the outdated node carries the id of its target. -/
theorem carriesOwnId_violated : ¬ ∀ config : NotifyConfig Unit Unit,
      Reaches (notifySystem .littleEndian false 5 Unit Unit) (fun _ _ => True)
          (notifyStart emptyProcess) config →
        CarriesOwnId 5 config := by
  intro law
  obtain ⟨config, reached, sent, member, foreign⟩ :=
    exists_reached (notifySystem .littleEndian false 5 Unit Unit) (fun _ _ => True)
      (notifyStart emptyProcess) outdatedAtSeven
      (fun config => ∃ sent ∈ config.memory.sent, sent.message.pid ≠ 5)
      (by decide +kernel)
  exact foreign (law config reached sent member).1

end Inputs

end MwCom.Messages
