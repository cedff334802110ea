/-
Module: MwCom.Proxy.SampleReferenceTracker
Purpose: The memory of a process with one proxy event (the shared memory of the
  event, the counters of the sample references, the samples handed out), the
  indivisible operations on it, and the counters' functions.
Trusted boundary: which log the proxy event registered (`registered`) is
  bookkeeping of this module; the mutex is that of the set of logs, as far as
  this process holds it.
Main exports: SamplePtr, ProxyMemory, ProxyOp, ProxyOp.outcomes, ProxyProgram,
  SampleReferenceTracker.allocate, SampleReferenceTracker.deallocate
-/
import MwCom.Lola.EventControl

namespace MwCom

open Interleaving Lola

variable {slots : Nat} {LogIndex : Type}

/-- A sample handed to the user: the slot with the log it is recorded in, and a
guard of the tracker. -/
structure SamplePtr (slots : Nat) (LogIndex : Type) where
  slotIndex : Fin slots
  transactionLogIdx : LogIndex
deriving DecidableEq

/-- The memory that the threads of one process share. -/
structure ProxyMemory (slots : Nat) (LogIndex : Type) where
  control : EventControl slots LogIndex
  transactionLogMutex : Bool
  registered : Option LogIndex
  availableSamples : Nat
  maxNumSamples : Nat
  samples : List (SamplePtr slots LogIndex)

/-- The indivisible operations of the process: those on the shared memory of
the event, those on the counters of the tracker, the mutex, and the user taking
a sample or starting to destroy one. -/
inductive ProxyOp (slots : Nat) (LogIndex : Type) where
  | control (op : ControlOp slots LogIndex)
  | lock
  | unlock
  | loadAvailable
  | compareExchangeAvailable (expected desired : Nat)
  | fetchAddAvailable (count : Nat)
  | storeAvailable (count : Nat)
  | loadMaxNumSamples
  | storeMaxNumSamples (count : Nat)
  | handOver (sample : SamplePtr slots LogIndex)
  | giveUp (sample : SamplePtr slots LogIndex)

namespace ProxyOp

/-- The answer of each operation.  A compare-exchange also answers with the
value it found. -/
def Ret : ProxyOp slots LogIndex → Type
  | .control op => op.Ret
  | .lock => Unit
  | .unlock => Unit
  | .loadAvailable => Nat
  | .compareExchangeAvailable _ _ => Bool × Nat
  | .fetchAddAvailable _ => Unit
  | .storeAvailable _ => Unit
  | .loadMaxNumSamples => Nat
  | .storeMaxNumSamples _ => Unit
  | .handOver _ => Unit
  | .giveUp _ => Unit

/-- The log that is registered after an operation on the shared memory. -/
def registers (registered : Option LogIndex) : ControlOp slots LogIndex → Option LogIndex
  | .markActive log true => some log
  | .markActive _ false => none
  | _ => registered

/-- What an operation can do.  A sample that is not there is never given up. -/
def outcomes [DecidableEq LogIndex] (ampChecked : Bool) :
    (op : ProxyOp slots LogIndex) → ProxyMemory slots LogIndex →
      List (op.Ret × ProxyMemory slots LogIndex)
  | .control op, memory =>
      (op.outcomes ampChecked memory.control).map fun outcome =>
        (outcome.1, { memory with
            control := outcome.2
            registered := registers memory.registered op })
  | .lock, memory =>
      if memory.transactionLogMutex then []
      else [((), { memory with transactionLogMutex := true })]
  | .unlock, memory => [((), { memory with transactionLogMutex := false })]
  | .loadAvailable, memory => [(memory.availableSamples, memory)]
  | .compareExchangeAvailable expected desired, memory =>
      if memory.availableSamples = expected then
        [((true, expected), { memory with availableSamples := desired }),
          ((false, expected), memory)]
      else
        [((false, memory.availableSamples), memory)]
  | .fetchAddAvailable count, memory =>
      [((), { memory with availableSamples := memory.availableSamples + count })]
  | .storeAvailable count, memory =>
      [((), { memory with availableSamples := count })]
  | .loadMaxNumSamples, memory => [(memory.maxNumSamples, memory)]
  | .storeMaxNumSamples count, memory =>
      [((), { memory with maxNumSamples := count })]
  | .handOver sample, memory =>
      [((), { memory with samples := sample :: memory.samples })]
  | .giveUp sample, memory =>
      if sample ∈ memory.samples then
        [((), { memory with samples := memory.samples.erase sample })]
      else
        []

/-- A compare-exchange on the counter swaps, or changes nothing. -/
theorem compareExchangeAvailable_outcome [DecidableEq LogIndex]
    {ampChecked : Bool} {expected desired : Nat} {answer : Bool × Nat}
    {memory after : ProxyMemory slots LogIndex} (outcome : (answer, after) ∈
      (compareExchangeAvailable expected desired :
        ProxyOp slots LogIndex).outcomes ampChecked memory) :
    (answer.1 = true ∧ memory.availableSamples = expected ∧
        after = { memory with availableSamples := desired }) ∨
      (answer.1 = false ∧ after = memory) := by
  simp only [outcomes] at outcome
  split at outcome
  · rename_i found
    rcases List.mem_cons.mp outcome with swapped | spurious
    · cases swapped
      exact .inl ⟨rfl, found, rfl⟩
    · cases List.mem_singleton.mp spurious
      exact .inr ⟨rfl, rfl⟩
  · cases List.mem_singleton.mp outcome
    exact .inr ⟨rfl, rfl⟩

end ProxyOp

/-- Programs of a thread of the process. -/
abbrev ProxyProgram (slots : Nat) (LogIndex : Type) (α : Type) :=
  Program (ProxyOp slots LogIndex) ProxyOp.Ret α

namespace ProxyProgram

/-- A program on the shared memory of the event alone. -/
def onControl {α : Type} (program : ControlProgram slots LogIndex α) :
    ProxyProgram slots LogIndex α :=
  program.lift ProxyOp.control fun _ answer => answer

/-- `std::terminate`. -/
def terminate {α : Type} : ProxyProgram slots LogIndex α :=
  .step (ProxyOp.control .terminate) (fun answer => nomatch answer)

/-- `AMP_ASSERT_PRD` and `AMP_PRECONDITION_PRD`. -/
def ampAssertPrd (condition : Bool) : ProxyProgram slots LogIndex Unit :=
  .perform (ProxyOp.control (.check .prd condition))

end ProxyProgram

namespace SampleReferenceTracker

open ProxyProgram

def getNumAvailableSamples : ProxyProgram slots LogIndex Nat := .perform ProxyOp.loadAvailable

def maxNumSamples : ProxyProgram slots LogIndex Nat := .perform ProxyOp.loadMaxNumSamples

def isUsed : ProxyProgram slots LogIndex Bool := do
  let numAvailableSamples ← getNumAvailableSamples
  pure (decide (numAvailableSamples < (← maxNumSamples)))

/-- The loop of `allocate`.  Nothing bounds its passes in the source; a thread
that has used up `passes` is one that is still in the loop. -/
def allocateRetries : (passes numSamples numSamplesAvailable
    numAllocatedSamples : Nat) → ProxyProgram slots LogIndex Nat
  | _, 0, _, numAllocatedSamples => pure numAllocatedSamples
  | 0, _ + 1, _, _ => terminate
  | passes + 1, numSamples + 1, numSamplesAvailable, numAllocatedSamples =>
      if numSamplesAvailable > 0 then do
        let numSamplesToAllocate := min numSamplesAvailable (numSamples + 1)
        let (won, found) ← .perform
          (ProxyOp.compareExchangeAvailable numSamplesAvailable
            (numSamplesAvailable - numSamplesToAllocate))
        if won then
          allocateRetries passes (numSamples + 1 - numSamplesToAllocate)
            numSamplesAvailable (numAllocatedSamples + numSamplesToAllocate)
        else
          allocateRetries passes (numSamples + 1) found numAllocatedSamples
      else
        pure numAllocatedSamples

/-- The number of guards of the factory that is returned. -/
def allocate (passes numSamples : Nat) : ProxyProgram slots LogIndex Nat := do
  let numSamplesAvailable ← getNumAvailableSamples
  allocateRetries passes numSamples numSamplesAvailable 0

def reset (maxNumSamples : Nat) : ProxyProgram slots LogIndex Unit := do
  .perform (ProxyOp.storeAvailable maxNumSamples)
  .perform (ProxyOp.storeMaxNumSamples maxNumSamples)

def deallocate (numDeallocations : Nat) : ProxyProgram slots LogIndex Unit := do
  .perform (ProxyOp.fetchAddAvailable numDeallocations)
  let availableSamples ← getNumAvailableSamples
  ampAssertPrd (decide (availableSamples ≤ (← maxNumSamples)))

end SampleReferenceTracker

end MwCom
