/-
Module: MwCom.MessagePassing.Receiver
Purpose: A receiver that dispatches messages to registered callbacks, and when a
  sequence of messages can end its process.
Trusted boundary: a callback is a function of the process; `none` is its end.
Main exports: Receiver, Receiver.register, executeMessageHandler, messageLoop,
  messageLoop_survives
-/
import MwCom.MessagePassing.Serializer

namespace MwCom.MessagePassing

open Bytes

/-- A callback registered for one kind of message.  `none`: it ends the
process. -/
inductive MessageReceivedCallback (Process : Type) where
  | short (callback : BitVec 64 → Pid → Process → Option Process)
  | medium (callback : Vector Byte 16 → Pid → Process → Option Process)

/-- The callbacks of a receiver by message id. -/
structure Receiver (Process : Type) where
  registeredCallbacks : MessageId → Option (MessageReceivedCallback Process)

/-- What becomes of a message. -/
inductive Disposition where
  | toShortCallback
  | toMediumCallback
  | ignored
deriving DecidableEq

/-- A message is ignored or goes to a callback of its own kind. -/
def Disposition.Fits : Received → Disposition → Prop
  | .short _, .toShortCallback => True
  | .medium _, .toMediumCallback => True
  | _, .ignored => True
  | _, _ => False

namespace Receiver

variable {Process : Type}

def empty : Receiver Process where
  registeredCallbacks _ := none

/-- A second callback for an id is not inserted. -/
def register (receiver : Receiver Process) (id : MessageId)
    (callback : MessageReceivedCallback Process) : Receiver Process where
  registeredCallbacks other :=
    if other = id then some ((receiver.registeredCallbacks id).getD callback)
    else receiver.registeredCallbacks other

variable (receiver : Receiver Process)

/-- `ExecuteMessageHandler` for a message of either kind. -/
def executeMessageHandler (received : Received) (process : Process) :
    Option (Disposition × Process) :=
  match received with
  | .short message =>
      match receiver.registeredCallbacks message.id with
      | some (.short callback) => do
          let process ← callback message.payload message.pid process
          pure (.toShortCallback, process)
      -- the other alternative of the variant throws inside `noexcept`
      | some (.medium _) => none
      | none => some (.ignored, process)
  | .medium message =>
      match receiver.registeredCallbacks message.id with
      | some (.medium callback) => do
          let process ← callback message.payload message.pid process
          pure (.toMediumCallback, process)
      | some (.short _) => none
      | none => some (.ignored, process)
  | .stop => some (.ignored, process)
  | .ignored => some (.ignored, process)

/-- What is received before the receiver is stopped. -/
def beforeStop (received : List Received) : List Received :=
  received.takeWhile fun message => message ≠ .stop

/-- `MessageLoop`, with what became of each message.  `none`: the process has
ended. -/
def messageLoop : List Received → Process → Option (List (Received × Disposition) × Process)
  | [], process => some ([], process)
  | received :: rest, process =>
      if received = .stop then
        some ([], process)
      else do
        let (disposition, process) ← receiver.executeMessageHandler received process
        let (handled, process) ← messageLoop rest process
        pure ((received, disposition) :: handled, process)

/-- The process goes on, and every message is ignored or goes to a callback of
its own kind. -/
def Survives (ended : Option (List (Received × Disposition) × Process)) : Prop :=
  ∃ handled process, ended = some (handled, process) ∧ ∀ entry ∈ handled, entry.2.Fits entry.1

/-! ## One message -/

/-- A handled message was ignored or went to a callback of its own kind. -/
theorem executeMessageHandler_fits {received : Received} {process after : Process}
    {disposition : Disposition} (handled : receiver.executeMessageHandler received process =
      some (disposition, after)) :
    disposition.Fits received := by
  cases received with
  | stop | ignored =>
      cases handled
      trivial
  | short message =>
      rw [executeMessageHandler] at handled
      cases registered : receiver.registeredCallbacks message.id with
      | none =>
          rw [registered] at handled
          cases handled
          trivial
      | some callback =>
          rw [registered] at handled
          cases callback with
          | medium callback => cases handled
          | short callback =>
              obtain ⟨_, _, returned⟩ := Option.bind_eq_some_iff.mp handled
              cases returned
              trivial
  | medium message =>
      rw [executeMessageHandler] at handled
      cases registered : receiver.registeredCallbacks message.id with
      | none =>
          rw [registered] at handled
          cases handled
          trivial
      | some callback =>
          rw [registered] at handled
          cases callback with
          | short callback => cases handled
          | medium callback =>
              obtain ⟨_, _, returned⟩ := Option.bind_eq_some_iff.mp handled
              cases returned
              trivial

/-! ## All messages -/

section Loop

variable {receiver} {harmful : Received → Prop} {usable : Process → Prop}

/-- If exactly the harmful messages end a usable process, the process survives
exactly the runs without one. -/
theorem messageLoop_survives (fatal : ∀ received process, usable process →
      (receiver.executeMessageHandler received process = none ↔ harmful received))
    (keeps : ∀ received process disposition after, usable process →
      receiver.executeMessageHandler received process = some (disposition, after) → usable after)
    (received : List Received) {process : Process} (alive : usable process) :
    Survives (receiver.messageLoop received process) ↔
      ∀ message ∈ beforeStop received, ¬ harmful message := by
  induction received generalizing process with
  | nil =>
      constructor
      · intro _ message impossible
        cases impossible
      · intro _
        refine ⟨[], process, rfl, ?_⟩
        intro entry impossible
        cases impossible
  | cons first rest ih =>
      rw [messageLoop]
      by_cases stopped : first = .stop
      · rw [if_pos stopped]
        constructor
        · intro _ message member
          rw [beforeStop, List.takeWhile_cons_of_neg (by simp [stopped])] at member
          cases member
        · intro _
          refine ⟨[], process, rfl, ?_⟩
          intro entry impossible
          cases impossible
      · have continues : beforeStop (first :: rest) = first :: beforeStop rest :=
          List.takeWhile_cons_of_pos (by simp [stopped])
        rw [if_neg stopped, continues, List.forall_mem_cons]
        cases handled : receiver.executeMessageHandler first process with
        | none =>
            constructor
            · rintro ⟨_, _, impossible, _⟩
              cases impossible
            · intro harmless
              exact absurd ((fatal first process alive).mp handled) harmless.1
        | some outcome =>
            obtain ⟨disposition, next⟩ := outcome
            have harmless : ¬ harmful first := by
              intro isHarmful
              rw [(fatal first process alive).mpr isHarmful] at handled
              cases handled
            have fits := receiver.executeMessageHandler_fits handled
            have later := ih (keeps first process disposition next alive handled)
            constructor
            · rintro ⟨entries, last, ended, allFit⟩
              cases tailEnded : receiver.messageLoop rest next with
              | none => simp [tailEnded] at ended
              | some result =>
                  obtain ⟨tail, final⟩ := result
                  simp only [tailEnded, Option.bind_eq_bind, Option.bind_some,
                    Option.pure_def, Option.some.injEq, Prod.mk.injEq] at ended
                  rw [← ended.1] at allFit
                  refine ⟨harmless, later.mp ⟨tail, final, tailEnded, ?_⟩⟩
                  intro entry member
                  exact allFit entry (List.mem_cons_of_mem _ member)
            · rintro ⟨_, restHarmless⟩
              obtain ⟨tail, final, tailEnded, tailFits⟩ := later.mpr restHarmless
              refine ⟨(first, disposition) :: tail, final, ?_, ?_⟩
              · rw [Option.bind_eq_bind, Option.bind_some]
                simp only [tailEnded, Option.bind_eq_bind, Option.bind_some, Option.pure_def]
              · intro entry member
                rcases List.mem_cons.mp member with same | behind
                · rw [same]
                  exact fits
                · exact tailFits entry behind

end Loop

end Receiver

end MwCom.MessagePassing
