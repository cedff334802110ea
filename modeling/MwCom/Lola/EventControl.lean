/-
Module: MwCom.Lola.EventControl
Purpose: The shared memory of one event (status words, transaction logs,
  subscription state) and the indivisible operations on it.
Trusted boundary: the meaning of the atomic operations and of the assertion
  macros, which the sources take from elsewhere.
Main exports: TransactionLogSlot, TransactionLog, TransactionLogNode,
  EventControl, ControlOp, ControlOp.outcomes
-/
import MwCom.Interleaving.Program
import MwCom.Lola.EventSlotStatus

namespace MwCom.Lola

open Interleaving

/-- The two flags that bracket a transaction. -/
structure TransactionLogSlot where
  transactionBegin : Bool
  transactionEnd : Bool
deriving DecidableEq, Repr

/-- Which of the two flags is meant. -/
inductive LogFlag where
  | transactionBegin
  | transactionEnd
deriving DecidableEq, Repr

namespace TransactionLogSlot

/-- No transaction is recorded. -/
def empty : TransactionLogSlot := ⟨false, false⟩

/-- A finished transaction is recorded. -/
def recorded : TransactionLogSlot := ⟨true, true⟩

def get (slot : TransactionLogSlot) : LogFlag → Bool
  | .transactionBegin => slot.transactionBegin
  | .transactionEnd => slot.transactionEnd

def set (slot : TransactionLogSlot) (flag : LogFlag) (value : Bool) : TransactionLogSlot :=
  match flag with
  | .transactionBegin => { slot with transactionBegin := value }
  | .transactionEnd => { slot with transactionEnd := value }

end TransactionLogSlot

/-- The place of a transaction in a log: one for each event slot, and one for
the subscription. -/
inductive LogEntry (slots : Nat) where
  | slot (index : Fin slots)
  | subscribe
deriving DecidableEq, Repr

/-- The transactions of one proxy event, kept in shared memory. -/
structure TransactionLog (slots : Nat) where
  referenceCountSlots : Fin slots → TransactionLogSlot
  subscribeTransactions : TransactionLogSlot
  subscriptionMaxSampleCount : Option (BitVec 16)

namespace TransactionLog

variable {slots : Nat}

/-- A log without transactions. -/
def empty : TransactionLog slots where
  referenceCountSlots := fun _ => .empty
  subscribeTransactions := .empty
  subscriptionMaxSampleCount := none

def entry (log : TransactionLog slots) : LogEntry slots → TransactionLogSlot
  | .slot index => log.referenceCountSlots index
  | .subscribe => log.subscribeTransactions

def setFlag (log : TransactionLog slots) (entry : LogEntry slots)
    (flag : LogFlag) (value : Bool) : TransactionLog slots :=
  match entry with
  | .slot index =>
      { log with
        referenceCountSlots := Function.update log.referenceCountSlots index
            ((log.referenceCountSlots index).set flag value) }
  | .subscribe =>
      { log with
        subscribeTransactions := log.subscribeTransactions.set flag value }

theorem entry_setFlag_self (log : TransactionLog slots)
    (entry : LogEntry slots) (flag : LogFlag) (value : Bool) :
    (log.setFlag entry flag value).entry entry = (log.entry entry).set flag value := by
  cases entry <;> simp [setFlag, TransactionLog.entry]

theorem entry_setFlag_of_ne (log : TransactionLog slots)
    {entry other : LogEntry slots} (distinct : other ≠ entry) (flag : LogFlag) (value : Bool) :
    (log.setFlag entry flag value).entry other = log.entry other := by
  cases entry with
  | slot index =>
      cases other with
      | slot otherIndex =>
          have indexNe : otherIndex ≠ index := by
            intro same
            exact distinct (by rw [same])
          simp [setFlag, TransactionLog.entry, indexNe]
      | subscribe => rfl
  | subscribe =>
      cases other with
      | slot otherIndex => rfl
      | subscribe => exact absurd rfl distinct

@[simp] theorem subscriptionMaxSampleCount_setFlag
    (log : TransactionLog slots) (entry : LogEntry slots) (flag : LogFlag) (value : Bool) :
    (log.setFlag entry flag value).subscriptionMaxSampleCount = log.subscriptionMaxSampleCount := by
  cases entry <;> rfl

end TransactionLog

/-- A log with its place in the set of logs of the event. -/
structure TransactionLogNode (slots : Nat) where
  isActive : Bool
  needsRollback : Bool
  transactionLog : TransactionLog slots

/-- The shared memory of one event.  `LogIndex` ranges over the logs of the
set, one of which may be the one the skeleton traces with. -/
structure EventControl (slots : Nat) (LogIndex : Type) where
  stateSlots : Fin slots → StatusWord
  transactionLogs : LogIndex → TransactionLogNode slots
  currentSubscriptionState : BitVec 32

namespace EventControl

variable {slots : Nat} {LogIndex : Type}

def setSlot (control : EventControl slots LogIndex) (slot : Fin slots)
    (word : StatusWord) : EventControl slots LogIndex :=
  { control with stateSlots := Function.update control.stateSlots slot word }

def setNode [DecidableEq LogIndex] (control : EventControl slots LogIndex)
    (log : LogIndex) (node : TransactionLogNode slots) :
    EventControl slots LogIndex :=
  { control with
    transactionLogs := Function.update control.transactionLogs log node }

/-- Replace one log, leaving its place in the set as it is. -/
def setLog [DecidableEq LogIndex] (control : EventControl slots LogIndex)
    (log : LogIndex) (transactionLog : TransactionLog slots) :
    EventControl slots LogIndex :=
  control.setNode log
    { control.transactionLogs log with transactionLog := transactionLog }

/-- The log at an index. -/
def log (control : EventControl slots LogIndex) (index : LogIndex) : TransactionLog slots :=
  (control.transactionLogs index).transactionLog

variable (control : EventControl slots LogIndex)
  {slot other : Fin slots} {word : StatusWord}

@[simp] theorem stateSlots_setSlot_self : (control.setSlot slot word).stateSlots slot = word := by
  simp [setSlot]

theorem stateSlots_setSlot_of_ne (distinct : other ≠ slot) :
    (control.setSlot slot word).stateSlots other = control.stateSlots other := by
  simp [setSlot, distinct]

@[simp] theorem transactionLogs_setSlot :
    (control.setSlot slot word).transactionLogs = control.transactionLogs := rfl

@[simp] theorem log_setSlot : (control.setSlot slot word).log = control.log := rfl

@[simp] theorem currentSubscriptionState_setSlot :
    (control.setSlot slot word).currentSubscriptionState = control.currentSubscriptionState := rfl

variable [DecidableEq LogIndex] {index otherIndex : LogIndex}

@[simp] theorem stateSlots_setNode (node : TransactionLogNode slots) :
    (control.setNode index node).stateSlots = control.stateSlots := rfl

@[simp] theorem currentSubscriptionState_setNode
    (node : TransactionLogNode slots) :
    (control.setNode index node).currentSubscriptionState = control.currentSubscriptionState := rfl

/-- Marking a node leaves every log as it is. -/
theorem log_setNode {node : TransactionLogNode slots}
    (same : node.transactionLog = control.log index) :
    (control.setNode index node).log otherIndex = control.log otherIndex := by
  by_cases self : otherIndex = index
  · subst self
    simp [setNode, EventControl.log] at same ⊢
    exact same
  · simp [setNode, EventControl.log, self]

@[simp] theorem stateSlots_setLog (log : TransactionLog slots) :
    (control.setLog index log).stateSlots = control.stateSlots := rfl

@[simp] theorem currentSubscriptionState_setLog (log : TransactionLog slots) :
    (control.setLog index log).currentSubscriptionState = control.currentSubscriptionState := rfl

@[simp] theorem log_setLog_self (log : TransactionLog slots) :
    (control.setLog index log).log index = log := by
  simp [setLog, setNode, EventControl.log]

theorem log_setLog_of_ne (distinct : otherIndex ≠ index) (log : TransactionLog slots) :
    (control.setLog index log).log otherIndex = control.log otherIndex := by
  simp [setLog, setNode, EventControl.log, distinct]

@[simp] theorem transactionLogs_setNode_self (node : TransactionLogNode slots) :
    (control.setNode index node).transactionLogs index = node := by
  simp [setNode]

theorem transactionLogs_setNode_of_ne (distinct : otherIndex ≠ index)
    (node : TransactionLogNode slots) :
    (control.setNode index node).transactionLogs otherIndex =
      control.transactionLogs otherIndex := by
  simp [setNode, distinct]

/-- Writing a log does not move it in the set. -/
@[simp] theorem isActive_setLog (log : TransactionLog slots) :
    ((control.setLog index log).transactionLogs otherIndex).isActive =
      (control.transactionLogs otherIndex).isActive := by
  by_cases same : otherIndex = index
  · subst same
    simp [setLog]
  · simp [setLog, transactionLogs_setNode_of_ne _ same]

end EventControl

/-- Which builds check an assertion: `AMP_PRECONDITION` and `AMP_ASSERT` can
be switched off, their `_PRD` variants cannot. -/
inductive AssertKind where
  | amp
  | prd
deriving DecidableEq, Repr

/-- The indivisible operations on the shared memory of one event. -/
inductive ControlOp (slots : Nat) (LogIndex : Type) where
  | load (slot : Fin slots)
  | store (slot : Fin slots) (word : StatusWord)
  | compareExchangeWeak (slot : Fin slots) (expected desired : StatusWord)
  | compareExchangeStrong (slot : Fin slots) (expected desired : StatusWord)
  | fetchSub (slot : Fin slots)
  | isActive (log : LogIndex)
  | markActive (log : LogIndex) (value : Bool)
  | markNeedsRollback (log : LogIndex) (value : Bool)
  | getFlag (log : LogIndex) (entry : LogEntry slots) (flag : LogFlag)
  | setFlag (log : LogIndex) (entry : LogEntry slots) (flag : LogFlag)
      (value : Bool)
  | getMaxSampleCount (log : LogIndex)
  | setMaxSampleCount (log : LogIndex) (count : Option (BitVec 16))
  | loadSubscription
  | compareExchangeSubscription (expected desired : BitVec 32)
  | check (kind : AssertKind) (condition : Bool)
  | terminate

namespace ControlOp

variable {slots : Nat} {LogIndex : Type}

/-- The answer of each operation.  `terminate` has none. -/
def Ret : ControlOp slots LogIndex → Type
  | .load _ => StatusWord
  | .store _ _ => Unit
  | .compareExchangeWeak _ _ _ => Bool
  | .compareExchangeStrong _ _ _ => Bool
  | .fetchSub _ => Unit
  | .isActive _ => Bool
  | .markActive _ _ => Unit
  | .markNeedsRollback _ _ => Unit
  | .getFlag _ _ _ => Bool
  | .setFlag _ _ _ _ => Unit
  | .getMaxSampleCount _ => Option (BitVec 16)
  | .setMaxSampleCount _ _ => Unit
  | .loadSubscription => BitVec 32
  | .compareExchangeSubscription _ _ => Bool
  | .check _ _ => Unit
  | .terminate => Empty

/-- What an operation can do to the shared memory.  A weak compare-exchange
may fail although the expected word is there; a failed assertion that the
build checks ends the process, so that there is no answer. -/
def outcomes [DecidableEq LogIndex] (ampChecked : Bool) :
    (op : ControlOp slots LogIndex) → EventControl slots LogIndex →
      List (op.Ret × EventControl slots LogIndex)
  | .load slot, control => [(control.stateSlots slot, control)]
  | .store slot word, control => [((), control.setSlot slot word)]
  | .compareExchangeWeak slot expected desired, control =>
      if control.stateSlots slot = expected then
        [(true, control.setSlot slot desired), (false, control)]
      else
        [(false, control)]
  | .compareExchangeStrong slot expected desired, control =>
      if control.stateSlots slot = expected then
        [(true, control.setSlot slot desired)]
      else
        [(false, control)]
  | .fetchSub slot, control =>
      [((), control.setSlot slot (control.stateSlots slot - 1))]
  | .isActive log, control => [((control.transactionLogs log).isActive, control)]
  | .markActive log value, control =>
      [((), control.setNode log { control.transactionLogs log with isActive := value })]
  | .markNeedsRollback log value, control =>
      [((), control.setNode log { control.transactionLogs log with needsRollback := value })]
  | .getFlag log entry flag, control =>
      [(((control.log log).entry entry).get flag, control)]
  | .setFlag log entry flag value, control =>
      [((), control.setLog log ((control.log log).setFlag entry flag value))]
  | .getMaxSampleCount log, control =>
      [((control.log log).subscriptionMaxSampleCount, control)]
  | .setMaxSampleCount log count, control =>
      [((), control.setLog log { control.log log with subscriptionMaxSampleCount := count })]
  | .loadSubscription, control => [(control.currentSubscriptionState, control)]
  | .compareExchangeSubscription expected desired, control =>
      if control.currentSubscriptionState = expected then
        [(true, { control with currentSubscriptionState := desired }), (false, control)]
      else
        [(false, control)]
  | .check kind condition, control =>
      if condition || (kind == .amp && !ampChecked) then [((), control)] else []
  | .terminate, _ => []

/-! ### The operations with more than one outcome -/

section Outcomes

variable [DecidableEq LogIndex] {ampChecked : Bool}
  {control after : EventControl slots LogIndex}

/-- A weak compare-exchange swaps the expected word, or changes nothing. -/
theorem compareExchangeWeak_outcome {slot : Fin slots} {expected desired : StatusWord} {won : Bool}
    (outcome : (won, after) ∈
      (compareExchangeWeak slot expected desired : ControlOp slots LogIndex).outcomes
        ampChecked control) :
    (won = true ∧ control.stateSlots slot = expected ∧ after = control.setSlot slot desired) ∨
      (won = false ∧ after = control) := by
  simp only [outcomes] at outcome
  split at outcome
  · rename_i found
    rcases List.mem_cons.mp outcome with swapped | spurious
    · cases swapped
      exact .inl ⟨rfl, found, rfl⟩
    · cases List.mem_singleton.mp spurious
      exact .inr ⟨rfl, rfl⟩
  · cases List.mem_singleton.mp outcome
    exact .inr ⟨rfl, rfl⟩

/-- A strong compare-exchange fails only where it finds another word. -/
theorem compareExchangeStrong_outcome {slot : Fin slots}
    {expected desired : StatusWord} {won : Bool} (outcome : (won, after) ∈
      (compareExchangeStrong slot expected desired :
        ControlOp slots LogIndex).outcomes ampChecked control) :
    (won = true ∧ control.stateSlots slot = expected ∧ after = control.setSlot slot desired) ∨
      (won = false ∧ after = control) := by
  simp only [outcomes] at outcome
  split at outcome
  · rename_i found
    cases List.mem_singleton.mp outcome
    exact .inl ⟨rfl, found, rfl⟩
  · cases List.mem_singleton.mp outcome
    exact .inr ⟨rfl, rfl⟩

/-- The same for the subscription state. -/
theorem compareExchangeSubscription_outcome {expected desired : BitVec 32} {won : Bool}
    (outcome : (won, after) ∈ (compareExchangeSubscription expected desired :
        ControlOp slots LogIndex).outcomes ampChecked control) :
    (won = true ∧ control.currentSubscriptionState = expected ∧
        after = { control with currentSubscriptionState := desired }) ∨
      (won = false ∧ after = control) := by
  simp only [outcomes] at outcome
  split at outcome
  · rename_i found
    rcases List.mem_cons.mp outcome with swapped | spurious
    · cases swapped
      exact .inl ⟨rfl, found, rfl⟩
    · cases List.mem_singleton.mp spurious
      exact .inr ⟨rfl, rfl⟩
  · cases List.mem_singleton.mp outcome
    exact .inr ⟨rfl, rfl⟩

/-- An assertion the build checks is passed only if it holds. -/
theorem check_outcome {kind : AssertKind} {condition : Bool} {answer : Unit}
    (outcome : (answer, after) ∈
      (check kind condition : ControlOp slots LogIndex).outcomes ampChecked control) :
    after = control ∧ (condition = true ∨ (kind = .amp ∧ ampChecked = false)) := by
  simp only [outcomes] at outcome
  split at outcome
  · rename_i passed
    cases List.mem_singleton.mp outcome
    refine ⟨rfl, ?_⟩
    simpa using passed
  · cases outcome

end Outcomes

end ControlOp

/-- Programs over the shared memory of one event. -/
abbrev ControlProgram (slots : Nat) (LogIndex : Type) (α : Type) :=
  Program (ControlOp slots LogIndex) ControlOp.Ret α

namespace ControlProgram

variable {slots : Nat} {LogIndex α : Type}

def load (slot : Fin slots) : ControlProgram slots LogIndex StatusWord :=
  .perform (ControlOp.load slot)

def store (slot : Fin slots) (word : StatusWord) : ControlProgram slots LogIndex Unit :=
  .perform (ControlOp.store slot word)

def compareExchangeWeak (slot : Fin slots) (expected desired : StatusWord) :
    ControlProgram slots LogIndex Bool :=
  .perform (ControlOp.compareExchangeWeak slot expected desired)

def compareExchangeStrong (slot : Fin slots) (expected desired : StatusWord) :
    ControlProgram slots LogIndex Bool :=
  .perform (ControlOp.compareExchangeStrong slot expected desired)

/-- `fetch_sub(1)` on a status word. -/
def fetchSub (slot : Fin slots) : ControlProgram slots LogIndex Unit :=
  .perform (ControlOp.fetchSub slot)

def ampPrecondition (condition : Bool) : ControlProgram slots LogIndex Unit :=
  .perform (ControlOp.check .amp condition)

def ampAssertPrd (condition : Bool) : ControlProgram slots LogIndex Unit :=
  .perform (ControlOp.check .prd condition)

/-- `std::terminate`. -/
def terminate : ControlProgram slots LogIndex α :=
  .step ControlOp.terminate (fun answer => nomatch answer)

end ControlProgram

end MwCom.Lola
