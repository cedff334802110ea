/-
Module: MwCom.MessagePassing.ResmgrReceiver
Purpose: Receiver threads that dispatch the events of a resource manager, put the
  messages written to it into a queue, and process that queue.
Trusted boundary: the dispatch framework, a parameter, which calls one callback at most
  for an event; a critical section of the queue's mutex is indivisible; each pass of the
  processing loop is a call of its own.
Main exports: ReceiverState, ReceiverOp, ResmgrReceiverTraits.receiveNext,
  ResmgrReceiverTraits.processNext, receiverSystem
-/
import MwCom.Interleaving.Contract
import MwCom.MessagePassing.ResmgrMessages

namespace MwCom.MessagePassing

open Interleaving

/-! ## Events -/

/-- A write as the callback sees it. -/
structure IncomingWrite where
  /-- What verifying the write ended with, if it failed. -/
  verifyError : Option (BitVec 32)
  /-- No bits of an extended type are set. -/
  plainWrite : Bool
  /-- The message has as many bytes as it says. -/
  complete : Bool
  theirPid : Pid
  /-- The payload can be fetched. -/
  delivered : Bool
  written : Written
deriving DecidableEq

inductive TransportEvent where
  | write (write : IncomingWrite)
  | privateMessage (theirPid : Pid)
  | other
deriving DecidableEq

/-- The callbacks that look at the queue or stop a thread. -/
inductive Callback where
  | ioWrite (write : IncomingWrite)
  | privateMessageHandler (theirPid : Pid)

/-- How `dispatch_handler` ends, and which callback it has called. -/
structure Dispatched where
  callback : Option Callback
  hasValue : Bool

/-- An error says that there was no valid message to handle. -/
def QuietErrors (dispatchHandler : TransportEvent → Dispatched) : Prop :=
  ∀ event, (dispatchHandler event).hasValue = false → (dispatchHandler event).callback = none

inductive WriteError where
  | notVerified (error : BitVec 32)
  | enosys
  | refused (error : Errno)
deriving DecidableEq

/-! ## The queue -/

/-- What the threads share, with a record of the messages that were put into the queue
and of those that were processed. -/
structure ReceiverState where
  /-- Events that no thread has taken yet. -/
  transport : List TransportEvent
  messageQueue : List Message
  maxMessageQueueSize : Nat
  messageQueueOwned : Bool
  enqueued : List Message
  processed : List Message
deriving DecidableEq

namespace ReceiverState

def initial (maxMessageQueueSize : Nat) : ReceiverState where
  transport := []
  messageQueue := []
  maxMessageQueueSize := maxMessageQueueSize
  messageQueueOwned := false
  enqueued := []
  processed := []

variable (state : ReceiverState)

/-- The critical section of the write callback. -/
def tryEnqueue (message : Message) : Bool × ReceiverState :=
  if state.maxMessageQueueSize ≤ state.messageQueue.length then (false, state)
  else
    (true, { state with
        messageQueue := state.messageQueue ++ [message]
        enqueued := state.enqueued ++ [message] })

/-- The critical section after an event was dispatched: whether this thread is to
process the queue. -/
def takeOwnership : Bool × ReceiverState :=
  if state.messageQueue.isEmpty then (false, state)
  else if state.messageQueueOwned then (false, state)
  else (true, { state with messageQueueOwned := true })

/-- The critical section of the loop. -/
def popFront : Option Message × ReceiverState :=
  match state.messageQueue with
  | [] => (none, { state with messageQueueOwned := false })
  | message :: rest => (some message, { state with messageQueue := rest })

def process (message : Message) : ReceiverState :=
  { state with processed := state.processed ++ [message] }

end ReceiverState

/-! ## Operations -/

inductive ReceiverOp where
  | dispatchBlock
  | tryEnqueue (message : Message)
  | takeOwnership
  | popFront
  | process (message : Message)

namespace ReceiverOp

abbrev Ret : ReceiverOp → Type
  | .dispatchBlock => Option TransportEvent
  | .tryEnqueue _ => Bool
  | .takeOwnership => Bool
  | .popFront => Option Message
  | .process _ => Unit

/-- Waiting for an event fails or ends with one; without any it goes on. -/
def outcomes : (op : ReceiverOp) → ReceiverState → List (op.Ret × ReceiverState)
  | .dispatchBlock, state =>
      match state.transport with
      | [] => [(none, state)]
      | event :: rest => [(none, state), (some event, { state with transport := rest })]
  | .tryEnqueue message, state => [state.tryEnqueue message]
  | .takeOwnership, state => [state.takeOwnership]
  | .popFront, state => [state.popFront]
  | .process message, state => [((), state.process message)]

end ReceiverOp

/-! ## Receiving -/

abbrev ReceiverProgram := Program ReceiverOp ReceiverOp.Ret

/-- How a call ends: with `true`, with `false`, or in the loop that processes the
queue. -/
inductive ReceiveStep where
  | again
  | stop
  | process
deriving DecidableEq

namespace ResmgrReceiverTraits

open Program (perform)

def checkWritePreconditions (write : IncomingWrite) : Except WriteError Unit :=
  match write.verifyError with
  | some error => .error (.notVerified error)
  | none =>
      if write.plainWrite = false then .error .enosys
      else if write.complete = false then .error (.refused .ebadmsg)
      else .ok ()

/-- `io_write` -/
def ioWrite (write : IncomingWrite) : ReceiverProgram (Except WriteError Unit) :=
  match checkWritePreconditions write with
  | .error error => pure (.error error)
  | .ok () =>
      match getMessageData write.theirPid write.delivered write.written with
      | .error error => pure (.error (.refused error))
      | .ok message => do
          let fits ← perform (.tryEnqueue message)
          if fits then
            pure (.ok ())
          else
            -- buffer full; reject the message
            pure (.error (.refused .enomem))

/-- Whether the private message asks this process to terminate the thread. -/
def privateMessageHandler (ourPid theirPid : Pid) : Bool :=
  -- we only accept private requests from ourselves
  decide (theirPid = ourPid)

/-- Runs what the framework has called, and whether the thread is to terminate. -/
def runCallback (ourPid : Pid) : Option Callback → ReceiverProgram Bool
  | none => pure false
  | some (.ioWrite write) => do
      let _ ← ioWrite write
      pure false
  | some (.privateMessageHandler theirPid) => pure (privateMessageHandler ourPid theirPid)

/-- `receive_next` up to its loop. -/
def receiveNext (ourPid : Pid) (dispatchHandler : TransportEvent → Dispatched) :
    ReceiverProgram ReceiveStep := do
  let event ← perform ReceiverOp.dispatchBlock
  match event with
  | none => pure .again
  | some event => do
      let toTerminate ← runCallback ourPid (dispatchHandler event).callback
      if (dispatchHandler event).hasValue = false then pure .again
      else if toTerminate then pure .stop
      else do
        let owned ← perform .takeOwnership
        pure (if owned then .process else .again)

/-- One pass of the loop of `receive_next`. -/
def processNext : ReceiverProgram ReceiveStep := do
  let messageData ← perform ReceiverOp.popFront
  match messageData with
  | none => pure .again
  | some message => do
      let _ ← perform (.process message)
      pure .process

end ResmgrReceiverTraits

/-! ## The system -/

inductive ReceiverCall where
  | receiveNext
  | processNext
deriving DecidableEq

/-- What a thread has to do for the queue. -/
inductive QueueDuty where
  | none
  /-- It has put a message into the queue and not looked at the queue since. -/
  | enqueued
  | owner
  /-- It owns the queue and has taken a message from it. -/
  | holding (message : Message)
deriving DecidableEq

/-- What a thread keeps between calls. -/
structure ReceiverThread where
  /-- What the call before ended with. -/
  reached : ReceiveStep
  duty : QueueDuty
deriving DecidableEq

namespace ReceiverThread

def initial : ReceiverThread := ⟨.again, .none⟩

def observe (thread : ReceiverThread) : (op : ReceiverOp) → op.Ret → ReceiverThread
  | .dispatchBlock, _ => thread
  | .tryEnqueue _, fits => if fits then { thread with duty := .enqueued } else thread
  | .takeOwnership, owned => { thread with duty := if owned then .owner else .none }
  | .popFront, message =>
      { thread with
        duty :=
          match message with
          | some message => .holding message
          | none => .none }
  | .process _, _ => { thread with duty := .owner }

end ReceiverThread

/-- Any number of threads; events come at any time and in any order.  A thread that
was told to stop does not receive again. -/
def receiverSystem (Thread : Type) (ourPid : Pid)
    (dispatchHandler : TransportEvent → Dispatched) :
    System Thread ReceiverOp ReceiverOp.Ret ReceiverState ReceiverThread ReceiverCall
      ReceiveStep where
  outcomes := ReceiverOp.outcomes
  mayCall _ thread call :=
    match call with
    | .receiveNext => thread.reached = .again
    | .processNext => thread.reached = .process
  code _ _ call :=
    match call with
    | .receiveNext => ResmgrReceiverTraits.receiveNext ourPid dispatchHandler
    | .processNext => ResmgrReceiverTraits.processNext
  onCall _ _ thread _ := thread
  observe _ _ thread op answer := thread.observe op answer
  onReturn _ _ thread _ step := { thread with reached := step }
  onCrash _ _ _ := none
  environment before after := ∃ transport, after = { before with transport := transport }

abbrev ReceiverConfig (Thread : Type) :=
  Config Thread ReceiverOp ReceiverOp.Ret ReceiverState ReceiverThread ReceiverCall
    ReceiveStep

abbrev ReceiverEvent (Thread : Type) :=
  Event Thread ReceiverOp ReceiverOp.Ret ReceiverCall ReceiveStep

def receiverStart {Thread : Type} (maxMessageQueueSize : Nat) : ReceiverConfig Thread where
  memory := .initial maxMessageQueueSize
  object _ := .initial
  activity _ := .idle

end MwCom.MessagePassing
