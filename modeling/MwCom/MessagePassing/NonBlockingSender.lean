/-
Module: MwCom.MessagePassing.NonBlockingSender
Purpose: A sender that queues messages for a task of an executor, with any number
  of callers and of threads of the executor.
Trusted boundary: a critical section of the queue's mutex is indivisible, and so is
  a read of the front outside of it; each pass of the sending loop is a call of its
  own.
Main exports: SenderState, SenderOp, NonBlockingSender.sendInternal,
  NonBlockingSender.sendQueueElement, senderSystem
-/
import MwCom.Interleaving.Contract

namespace MwCom.MessagePassing

open Interleaving

variable {Short Medium : Type}

/-! ## The queue -/

/-- A short or a medium message. -/
abbrev QueuedMessage (Short Medium : Type) := Short ⊕ Medium

/-- What callers and tasks share, with a record of what was accepted and of what the
wrapped sender was handed. -/
structure SenderState (Short Medium : Type) where
  queue : List (QueuedMessage Short Medium)
  maxQueueSize : Nat
  /-- Tasks that were submitted and that no thread has taken yet. -/
  submitted : Nat
  shutdownRequested : Bool
  stopRequested : Bool
  accepted : List (QueuedMessage Short Medium)
  handed : List (QueuedMessage Short Medium)
deriving DecidableEq

namespace SenderState

def queueSizeUpperLimit : Nat := 100

/-- `none`: the size exceeds the limit, the process ends. -/
def create (maxQueueSize : Nat) : Option (SenderState Short Medium) :=
  if maxQueueSize > queueSizeUpperLimit then none
  else
    some
      { queue := []
        maxQueueSize := maxQueueSize
        submitted := 0
        shutdownRequested := false
        stopRequested := false
        accepted := []
        handed := [] }

variable (state : SenderState Short Medium)

def full : Bool := state.maxQueueSize ≤ state.queue.length

/-- The critical section of `SendInternal`. -/
def enqueue (message : QueuedMessage Short Medium) : Bool × SenderState Short Medium :=
  if state.full || state.shutdownRequested then (false, state)
  else
    let queue := state.queue ++ [message]
    (true, { state with
        queue := queue
        submitted := if queue.length = 1 then state.submitted + 1 else state.submitted
        accepted := state.accepted ++ [message] })

/-- The critical section of the task: whether the queue is empty then. -/
def popFront : Bool × SenderState Short Medium :=
  (state.queue.tail.isEmpty, { state with queue := state.queue.tail })

def hand (message : QueuedMessage Short Medium) : SenderState Short Medium :=
  { state with handed := state.handed ++ [message] }

end SenderState

/-! ## Operations -/

inductive SenderOp (Short Medium : Type) where
  | enqueue (message : QueuedMessage Short Medium)
  | takeTask
  | stopRequested
  | front
  | wrappedSend (message : QueuedMessage Short Medium)
  | popFront

namespace SenderOp

abbrev Ret : SenderOp Short Medium → Type
  | .enqueue _ => Bool
  | .takeTask => Unit
  | .stopRequested => Bool
  | .front => Option (QueuedMessage Short Medium)
  | .wrappedSend _ => Bool
  | .popFront => Bool

/-- The wrapped sender may succeed or fail.  Reading the front of an empty queue has
no value. -/
def outcomes : (op : SenderOp Short Medium) → SenderState Short Medium →
    List (op.Ret × SenderState Short Medium)
  | .enqueue message, state => [state.enqueue message]
  | .takeTask, state =>
      if state.submitted = 0 then []
      else [((), { state with submitted := state.submitted - 1 })]
  | .stopRequested, state => [(state.stopRequested, state)]
  | .front, state => [(state.queue.head?, state)]
  | .wrappedSend message, state =>
      [(true, state.hand message), (false, state.hand message)]
  | .popFront, state => [state.popFront]

end SenderOp

/-! ## Callers and tasks -/

inductive SenderCall (Short Medium : Type) where
  | send (message : QueuedMessage Short Medium)
  | beginTask
  | nextElement

namespace NonBlockingSender

abbrev SenderProgram (Short Medium : Type) := Program (SenderOp Short Medium) SenderOp.Ret

open Program (perform)

/-- Whether the message was accepted; the error is the same for a full queue and for
an executor that shuts down. -/
def sendInternal (message : QueuedMessage Short Medium) : SenderProgram Short Medium Bool :=
  perform (SenderOp.enqueue message)

/-- A thread of the executor takes a task, which enters its loop. -/
def beginTask : SenderProgram Short Medium Bool := do
  let _ ← perform (.takeTask : SenderOp Short Medium)
  pure true

/-- One pass of the loop of `SendQueueElements`, and whether there is another one. -/
def sendQueueElement : SenderProgram Short Medium Bool := do
  let stop ← perform (.stopRequested : SenderOp Short Medium)
  if stop then
    pure false
  else do
    let held ← perform (.front : SenderOp Short Medium)
    let message ← perform (.front : SenderOp Short Medium)
    -- the alternative that is held decides how the front is read again
    match held, message with
    | some (.inl _), some (.inl message) => do
        let _ ← perform (.wrappedSend (.inl message))
        let empty ← perform .popFront
        pure !empty
    | some (.inr _), some (.inr message) => do
        let _ ← perform (.wrappedSend (.inr message))
        let empty ← perform .popFront
        pure !empty
    | _, _ => pure false

end NonBlockingSender

/-! ## The system -/

inductive SenderThread (Caller Worker : Type) where
  | caller (caller : Caller)
  | worker (worker : Worker)
deriving DecidableEq

/-- What a task is doing. -/
inductive TaskPhase (Short Medium : Type) where
  | none
  | deciding
  | read (message : QueuedMessage Short Medium)
  | handed (message : QueuedMessage Short Medium)
deriving DecidableEq

/-- What a thread keeps between calls. -/
structure SenderParty (Short Medium : Type) where
  /-- The loop has another pass. -/
  continues : Bool
  phase : TaskPhase Short Medium
deriving DecidableEq

namespace SenderParty

def idle : SenderParty Short Medium := ⟨false, .none⟩

/-- A task is at work until it stops or has popped the last element. -/
def observe (party : SenderParty Short Medium) :
    (op : SenderOp Short Medium) → op.Ret → SenderParty Short Medium
  | .enqueue _, _ => party
  | .takeTask, _ => { party with phase := .deciding }
  | .stopRequested, stop => { party with phase := if stop then .none else party.phase }
  | .front, front =>
      { party with
        phase :=
          match front with
          | some message => .read message
          | none => party.phase }
  | .wrappedSend message, _ => { party with phase := .handed message }
  | .popFront, empty => { party with phase := if empty then .none else .deciding }

end SenderParty

variable {Caller Worker : Type}

/-- Requests to shut down or to stop come at any time and are never taken back. -/
def senderSystem (Short Medium Caller Worker : Type) :
    System (SenderThread Caller Worker) (SenderOp Short Medium) SenderOp.Ret
      (SenderState Short Medium) (SenderParty Short Medium) (SenderCall Short Medium)
      Bool where
  outcomes := SenderOp.outcomes
  mayCall thread party call :=
    match thread, call with
    | .caller _, .send _ => True
    | .worker _, .beginTask => party.continues = false
    | .worker _, .nextElement => party.continues = true
    | _, _ => False
  code _ _ call :=
    match call with
    | .send message => NonBlockingSender.sendInternal message
    | .beginTask => NonBlockingSender.beginTask
    | .nextElement => NonBlockingSender.sendQueueElement
  onCall _ _ party _ := party
  observe _ _ party op answer := party.observe op answer
  onReturn _ _ party call continues :=
    match call with
    | .send _ => party
    | _ => { party with continues := continues }
  onCrash _ _ _ := none
  environment before after := ∃ shutdown stop, after =
      { before with
        shutdownRequested := before.shutdownRequested || shutdown
        stopRequested := before.stopRequested || stop }

abbrev SenderConfig (Short Medium Caller Worker : Type) :=
  Config (SenderThread Caller Worker) (SenderOp Short Medium) SenderOp.Ret
    (SenderState Short Medium) (SenderParty Short Medium) (SenderCall Short Medium) Bool

abbrev SenderEvent (Short Medium Caller Worker : Type) :=
  Event (SenderThread Caller Worker) (SenderOp Short Medium) SenderOp.Ret
    (SenderCall Short Medium) Bool

def senderStart (state : SenderState Short Medium) : SenderConfig Short Medium Caller Worker where
  memory := state
  object _ := .idle
  activity _ := .idle

end MwCom.MessagePassing
