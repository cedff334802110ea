/-
Module: MwCom.Lola.TransactionProtocol
Purpose: How a consumer keeps its transaction log in step with the references
  it holds: which pairs of flags and counts can occur between two operations,
  and that referencing and dereferencing lead from settled logs to settled
  logs.
Trusted boundary: none
Main exports: LogView, SlotPhase, LogView.Consistent, LogView.Settled, LogMode,
  logRules, EventDataControl.referenceNextEvent_settled,
  EventDataControl.dereferenceEvent_settled
-/
import MwCom.Lola.SlotSystem

namespace MwCom.Lola

open Interleaving EventDataControl

variable {slots : Nat} {LogIndex : Type}

/-- What a consumer alone changes: its references and its log. -/
structure LogView (slots : Nat) where
  party : SlotParty slots
  log : TransactionLog slots

/-- What the two flags of a slot say about the references to it.  Between the
flags of a transaction the count may or may not have been changed yet. -/
def SlotPhase (flags : TransactionLogSlot) (count : Nat) : Prop :=
  match flags.transactionBegin, flags.transactionEnd with
  | false, false => count = 0
  | true, true => count = 1
  | _, _ => count ≤ 1

/-- The effect of one operation on the log it is about. -/
def TransactionLog.observe (log : TransactionLog slots) :
    (op : ControlOp slots LogIndex) → op.Ret → TransactionLog slots
  | .setFlag _ entry flag value, _ => log.setFlag entry flag value
  | .setMaxSampleCount _ count, _ =>
      { log with subscriptionMaxSampleCount := count }
  | _, _ => log

/-- The log an operation writes to. -/
def ControlOp.writes : ControlOp slots LogIndex → Option LogIndex
  | .setFlag log _ _ _ => some log
  | .setMaxSampleCount log _ => some log
  | _ => none

section Outcomes

variable [DecidableEq LogIndex] {ampChecked : Bool}
  {control after : EventControl slots LogIndex} {index : LogIndex}
  {op : ControlOp slots LogIndex} {answer : op.Ret}

/-- An operation changes no log but the one it writes to. -/
theorem log_of_other (outcome : (answer, after) ∈ op.outcomes ampChecked control)
    (distinct : op.writes ≠ some index) : after.log index = control.log index := by
  cases op with
  | compareExchangeWeak slot expected desired =>
      rcases ControlOp.compareExchangeWeak_outcome outcome with won | failed
      · obtain ⟨_, _, rfl⟩ := won
        rfl
      · obtain ⟨_, rfl⟩ := failed
        rfl
  | compareExchangeSubscription expected desired =>
      rcases ControlOp.compareExchangeSubscription_outcome outcome with
        won | failed
      · obtain ⟨_, _, rfl⟩ := won
        rfl
      · obtain ⟨_, rfl⟩ := failed
        rfl
  | compareExchangeStrong slot expected desired =>
      simp only [ControlOp.outcomes] at outcome
      split at outcome
      · cases List.mem_singleton.mp outcome
        rfl
      · cases List.mem_singleton.mp outcome
        rfl
  | check kind condition =>
      obtain ⟨rfl, _⟩ := ControlOp.check_outcome outcome
      rfl
  | terminate => cases outcome
  | setFlag log entry flag value | setMaxSampleCount log count =>
      have other : index ≠ log := by
        intro same
        exact distinct (congrArg some same.symm)
      cases List.mem_singleton.mp outcome
      exact EventControl.log_setLog_of_ne _ other _
  | markActive log value | markNeedsRollback log value =>
      cases List.mem_singleton.mp outcome
      exact EventControl.log_setNode _ rfl
  | _ =>
      cases List.mem_singleton.mp outcome
      rfl

/-- The log an operation writes to moves as observed. -/
theorem log_of_own (outcome : (answer, after) ∈ op.outcomes ampChecked control)
    (own : op.writes = some index ∨ op.writes = none) :
    after.log index = (control.log index).observe op answer := by
  cases op with
  | setFlag log entry flag value | setMaxSampleCount log count =>
      have same : log = index := by
        simpa [ControlOp.writes] using own
      subst same
      cases List.mem_singleton.mp outcome
      exact EventControl.log_setLog_self _ _
  | _ => exact log_of_other outcome (by simp [ControlOp.writes])

end Outcomes

namespace LogView

/-- The view after an operation of its consumer. -/
def observe (view : LogView slots) (op : ControlOp slots LogIndex)
    (answer : op.Ret) : LogView slots where
  party := view.party.observeConsumer op answer
  log := view.log.observe op answer

/-- The view with other flags and references for one slot. -/
def withSlot (view : LogView slots) (slot : Fin slots)
    (flags : TransactionLogSlot) (references : List EventTimeStamp) :
    LogView slots where
  party :=
    { view.party with
      references := Function.update view.party.references slot references }
  log :=
    { view.log with
      referenceCountSlots :=
        Function.update view.log.referenceCountSlots slot flags }

/-- The log a killed consumer may leave: no flags contradict its references,
and slots are only touched between the flags of a subscription. -/
structure Consistent (view : LogView slots) : Prop where
  phase : ∀ slot, SlotPhase (view.log.referenceCountSlots slot)
    (view.party.references slot).length
  bracketed : view.log.subscribeTransactions = .empty →
    ∀ slot, view.log.referenceCountSlots slot = .empty

/-- A consistent log with something recorded for the subscription: slots may be
touched. -/
structure Open (view : LogView slots) : Prop where
  consistent : view.Consistent
  subscribed : view.log.subscribeTransactions ≠ .empty

/-- The log of a subscribed consumer between two calls: exactly the references
are recorded. -/
structure Settled (view : LogView slots) : Prop where
  slot : ∀ slot, (view.log.referenceCountSlots slot = .empty ∧ view.party.references slot = []) ∨
      (view.log.referenceCountSlots slot = .recorded ∧
        ∃ timeStamp, view.party.references slot = [timeStamp])
  subscribed : view.log.subscribeTransactions = .recorded

variable {view : LogView slots} {slot : Fin slots} {flags : TransactionLogSlot}
  {references : List EventTimeStamp}

@[simp] theorem withSlot_references : (view.withSlot slot flags references).party.references slot =
      references := by
  simp [withSlot]

@[simp] theorem withSlot_flags :
    (view.withSlot slot flags references).log.referenceCountSlots slot = flags := by
  simp [withSlot]

/-- A view is itself with its own flags and references. -/
theorem withSlot_self (sameFlags : view.log.referenceCountSlots slot = flags)
    (sameReferences : view.party.references slot = references) :
    view.withSlot slot flags references = view := by
  subst sameFlags sameReferences
  simp [withSlot]

/-- Setting a flag of the slot moves the flags only. -/
theorem withSlot_setFlag (own : LogIndex) (flag : LogFlag) (value : Bool) :
    (view.withSlot slot flags references).observe
        (ControlOp.setFlag own (.slot slot) flag value) () =
      view.withSlot slot (flags.set flag value) references := by
  simp [withSlot, observe, TransactionLog.observe, TransactionLog.setFlag,
    SlotParty.observeConsumer]

/-- Taking a reference moves the references only. -/
theorem withSlot_acquire (expected desired : StatusWord) :
    (view.withSlot slot flags references).observe
        (ControlOp.compareExchangeWeak slot expected desired : ControlOp slots LogIndex) true =
      view.withSlot slot flags
        ((EventSlotStatus.mk expected).getTimeStamp :: references) := by
  simp [withSlot, observe, TransactionLog.observe, SlotParty.observeConsumer, SlotParty.acquire]

/-- Giving a reference back moves the references only. -/
theorem withSlot_giveBack : (view.withSlot slot flags references).observe
        (ControlOp.fetchSub slot : ControlOp slots LogIndex) () =
      view.withSlot slot flags references.tail := by
  simp [withSlot, observe, TransactionLog.observe, SlotParty.observeConsumer, SlotParty.giveBack]

/-- A consumer never holds two references to one slot. -/
theorem Consistent.length_le_one (consistent : view.Consistent)
    (slot : Fin slots) : (view.party.references slot).length ≤ 1 := by
  have phase := consistent.phase slot
  unfold SlotPhase at phase
  split at phase <;> omega

/-- An open log stays open in the middle of a transaction on one slot. -/
theorem Open.withSlot (opened : view.Open) (slot : Fin slots)
    (phase : SlotPhase flags references.length) :
    (view.withSlot slot flags references).Open where
  consistent :=
    { phase := by
        intro index
        by_cases same : index = slot
        · subst same
          rw [withSlot_flags, withSlot_references]
          exact phase
        · simp only [LogView.withSlot, Function.update_of_ne same]
          exact opened.consistent.phase index
      bracketed := by
        intro unsubscribed
        exact absurd unsubscribed opened.subscribed }
  subscribed := opened.subscribed

namespace Settled

/-- Finishing a transaction on one slot settles the log again. -/
theorem withSlot (settled : view.Settled) (finished : (flags = .empty ∧ references = []) ∨
      (flags = .recorded ∧ ∃ timeStamp, references = [timeStamp])) :
    (view.withSlot slot flags references).Settled where
  slot := by
    intro index
    by_cases same : index = slot
    · subst same
      rw [withSlot_flags, withSlot_references]
      exact finished
    · simp only [LogView.withSlot, Function.update_of_ne same]
      exact settled.slot index
  subscribed := settled.subscribed

theorem consistent (settled : view.Settled) : view.Consistent where
  phase := by
    intro slot
    rcases settled.slot slot with unused | held
    · rw [unused.1, unused.2]
      rfl
    · obtain ⟨recorded, timeStamp, single⟩ := held
      rw [recorded, single]
      rfl
  bracketed := by
    intro unsubscribed
    rw [settled.subscribed] at unsubscribed
    cases unsubscribed

theorem opened (settled : view.Settled) : view.Open where
  consistent := settled.consistent
  subscribed := by
    rw [settled.subscribed]
    intro impossible
    cases impossible

/-- Without references nothing is recorded. -/
theorem flags_of_unused (settled : view.Settled) (unused : view.party.references slot = []) :
    view.log.referenceCountSlots slot = .empty := by
  rcases settled.slot slot with empty | held
  · exact empty.1
  · obtain ⟨_, timeStamp, single⟩ := held
    rw [unused] at single
    cases single

/-- An empty entry means no references. -/
theorem references_of_empty (settled : view.Settled)
    (empty : view.log.referenceCountSlots slot = .empty) :
    view.party.references slot = [] := by
  rcases settled.slot slot with unused | held
  · exact unused.2
  · rw [held.1] at empty
    cases empty

/-- A held slot is recorded, with its one reference. -/
theorem flags_of_held (settled : view.Settled) (held : view.party.references slot ≠ []) :
    view.log.referenceCountSlots slot = .recorded ∧
      ∃ timeStamp, view.party.references slot = [timeStamp] := by
  rcases settled.slot slot with unused | recorded
  · exact absurd unused.2 held
  · exact recorded

end Settled

end LogView

/-! ## The rules of a consumer on its log -/

/-- What a consumer can rely on, and what is asked of it. -/
structure LogMode where
  /-- Failed assertions end the process. -/
  ampChecked : Bool
  /-- A held slot keeps its timestamp. -/
  stampsKept : Bool
  /-- The log of a killed consumer is rolled back: no reference is taken and no
  assertion may fail. -/
  rollingBack : Bool

/-- A consumer works on its own log, touches flags of slots only, and keeps
the log consistent at every operation. -/
def logRules (mode : LogMode) (own : LogIndex) :
    Rules (ControlOp slots LogIndex) ControlOp.Ret (LogView slots) where
  may view
    | .load _ => True
    | .check _ condition => mode.rollingBack = true → condition = true
    | .isActive log => log = own
    | .getFlag log _ _ => log = own
    | .setFlag log (.slot slot) flag value =>
        log = own ∧ (view.observe (ControlOp.setFlag log (.slot slot) flag value) ()).Consistent
    | .compareExchangeWeak slot expected desired =>
        mode.rollingBack = false ∧
        (expected ≠ EventSlotStatus.invalid ∧
          expected ≠ EventSlotStatus.inWriting ∧ desired = expected + 1) ∧
        (view.observe (ControlOp.compareExchangeWeak slot expected desired :
          ControlOp slots LogIndex) true).Consistent
    | .fetchSub slot =>
        view.party.references slot ≠ [] ∧
          (view.observe (ControlOp.fetchSub slot : ControlOp slots LogIndex) ()).Consistent
    | _ => False
  expects view
    | .load slot, word => mode.stampsKept = true → ∀ timeStamp ∈ view.party.references slot,
          (EventSlotStatus.mk word).getTimeStamp = timeStamp
    | .check _ condition, _ => mode.ampChecked = true → condition = true
    | .getFlag _ entry flag, value => value = (view.log.entry entry).get flag
    | _, _ => True
  next := LogView.observe

section Rules

variable {mode : LogMode} {own : LogIndex} {view : LogView slots}
  {op : ControlOp slots LogIndex}

/-- Whoever keeps the rules of its log keeps those of the slots. -/
theorem consumer_of_logRules (may : (logRules mode own).may view op) :
    (consumerRules own).may view.party op := by
  cases op with
  | load slot => trivial
  | check kind condition => trivial
  | isActive log => exact may
  | getFlag log entry flag => exact may
  | setFlag log entry flag value =>
      cases entry with
      | slot slot => exact may.1
      | subscribe => exact may.elim
  | compareExchangeWeak slot expected desired => exact may.2.1
  | fetchSub slot => exact may.1
  | _ => exact may.elim

/-- A consumer writes to its own log only. -/
theorem writes_of_consumerRules {party : SlotParty slots} (may : (consumerRules own).may party op) :
    op.writes = some own ∨ op.writes = none := by
  cases op with
  | setFlag log entry flag value | setMaxSampleCount log count => exact .inl (congrArg some may)
  | _ => exact .inr rfl

/-- The sender writes to no log. -/
theorem writes_of_senderRules {party : SlotParty slots}
    (may : senderRules.may party op) : op.writes = none := by
  cases op with
  | setFlag log entry flag value => exact may.elim
  | setMaxSampleCount log count => exact may.elim
  | _ => rfl

/-- A party writes to no log but its own. -/
theorem writes_of_slotRules {Consumer : Type} {party : Party Consumer}
    {op : ControlOp slots Consumer} {slotParty : SlotParty slots}
    (may : (slotRules party).may slotParty op)
    {index : Consumer} (other : party ≠ .consumer index) :
    op.writes ≠ some index := by
  intro writes
  cases party with
  | sender =>
      rw [writes_of_senderRules may] at writes
      cases writes
  | consumer own =>
      rcases writes_of_consumerRules may with toOwn | nothing
      · rw [toOwn] at writes
        cases writes
        exact other rfl
      · rw [nothing] at writes
        cases writes

/-- The rules keep the log consistent at every operation. -/
theorem consistent_of_logRules {answer : op.Ret}
    (may : (logRules mode own).may view op) (consistent : view.Consistent) :
    (view.observe op answer).Consistent := by
  cases op with
  | setFlag log entry flag value =>
      cases entry with
      | slot slot => exact may.2
      | subscribe => exact may.elim
  | compareExchangeWeak slot expected desired =>
      cases answer with
      | true => exact may.2.2
      | false => exact consistent
  | fetchSub slot => exact may.2
  | load slot | check kind condition | isActive log | getFlag log entry flag => exact consistent
  | _ => exact may.elim

/-- The answers are those the owner of a log expects. -/
theorem logRules_expected [DecidableEq LogIndex]
    {control after : EventControl slots LogIndex} {answer : op.Ret}
    (may : (logRules mode own).may view op)
    (outcome : (answer, after) ∈ op.outcomes mode.ampChecked control)
    (sameLog : control.log own = view.log) (stamped : mode.stampsKept = true → ∀ slot,
      ∀ timeStamp ∈ view.party.references slot,
        (EventSlotStatus.mk (control.stateSlots slot)).getTimeStamp = timeStamp) :
    (logRules mode own).expects view op answer := by
  cases op with
  | load slot =>
      cases List.mem_singleton.mp outcome
      exact fun kept => stamped kept slot
  | check kind condition =>
      obtain ⟨_, passed⟩ := ControlOp.check_outcome outcome
      intro checked
      rcases passed with holds | unchecked
      · exact holds
      · rw [unchecked.2] at checked
        cases checked
  | getFlag log entry flag =>
      have same : log = own := may
      subst same
      cases List.mem_singleton.mp outcome
      exact congrArg (fun current => (current.entry entry).get flag) sameLog
  | _ => trivial

end Rules

namespace EventDataControl

variable {mode : LogMode} {own : LogIndex} {view : LogView slots}
  {slot : Fin slots} {flags : TransactionLogSlot}
  {references : List EventTimeStamp}

/-- The preconditions of a transaction, where they are known to hold. -/
theorem expectFlags_holds {entry : LogEntry slots} {one two : Bool}
    (known : view.log.entry entry = ⟨one, two⟩) :
    (TransactionLog.expectFlags own entry one two :
      ControlProgram slots LogIndex Unit).Respects (logRules mode own) view
        fun _ after => after = view := by
  refine .perform rfl fun first firstRead => ?_
  have firstKnown : first = one := by
    rw [firstRead, known]
    rfl
  refine .perform (fun _ => by simp [firstKnown]) fun _ _ => ?_
  refine .perform rfl fun second secondRead => ?_
  have secondKnown : second = two := by
    rw [secondRead]
    exact congrArg TransactionLogSlot.transactionEnd known
  exact ⟨fun _ => by simp [secondKnown], fun _ _ => rfl⟩

/-- The preconditions of a transaction, where a checking build lets only a
process pass that meets them. -/
theorem expectFlags_checked {entry : LogEntry slots} {one two : Bool}
    (lenient : mode.rollingBack = false) :
    (TransactionLog.expectFlags own entry one two :
      ControlProgram slots LogIndex Unit).Respects (logRules mode own) view
        fun _ after => after = view ∧
          (mode.ampChecked = true → view.log.entry entry = ⟨one, two⟩) := by
  have free : ∀ condition : Bool, mode.rollingBack = true → condition = true := by
    intro condition strict
    rw [lenient] at strict
    cases strict
  refine .perform rfl fun first firstRead => ?_
  refine .perform (free _) fun _ firstPassed => ?_
  refine .perform rfl fun second secondRead => ?_
  refine ⟨free _, fun _ secondPassed => ⟨rfl, fun checked => ?_⟩⟩
  have firstKnown := beq_iff_eq.mp (firstPassed checked)
  have secondKnown := beq_iff_eq.mp (secondPassed checked)
  subst firstKnown secondKnown
  rw [firstRead]
  exact congrArg (TransactionLogSlot.mk _) secondRead.symm

/-- One flag of a transaction on a slot. -/
theorem setFlag_respects (opened : view.Open) (slot : Fin slots)
    (flags : TransactionLogSlot) (references : List EventTimeStamp) (flag : LogFlag) (value : Bool)
    (phase : SlotPhase (flags.set flag value) references.length) :
    (.perform (ControlOp.setFlag own (.slot slot) flag value) :
      ControlProgram slots LogIndex Unit).Respects (logRules mode own)
        (view.withSlot slot flags references) fun _ after =>
          after = view.withSlot slot (flags.set flag value) references := by
  refine ⟨⟨rfl, ?_⟩, fun _ _ => LogView.withSlot_setFlag own flag value⟩
  rw [LogView.withSlot_setFlag]
  exact (opened.withSlot slot phase).consistent

/-- A step of a transaction whose precondition is known to hold. -/
theorem transaction_open (opened : view.Open) (slot : Fin slots)
    (one two : Bool) (references : List EventTimeStamp) (flag : LogFlag) (value : Bool)
    (phase : SlotPhase ((TransactionLogSlot.mk one two).set flag value) references.length) :
    (TransactionLog.expectFlags own (.slot slot) one two >>= fun _ =>
      .perform (ControlOp.setFlag own (.slot slot) flag value) :
        ControlProgram slots LogIndex Unit).Respects (logRules mode own)
          (view.withSlot slot ⟨one, two⟩ references) fun _ after =>
            after = view.withSlot slot
              ((TransactionLogSlot.mk one two).set flag value) references := by
  have known : (view.withSlot slot ⟨one, two⟩ references).log.entry
      (.slot slot) = ⟨one, two⟩ := LogView.withSlot_flags
  refine (expectFlags_holds known).bind ?_
  rintro _ after rfl
  exact setFlag_respects opened slot ⟨one, two⟩ references flag value phase

section

variable (settled : view.Settled) (lenient : mode.rollingBack = false)
  (unused : mode.ampChecked = true ∨ view.party.references slot = [])

include settled lenient unused

/-- Beginning to reference a slot that is known to be unused, or is found to
be unused by the check. -/
theorem referenceTransactionBegin_settled : (TransactionLog.referenceTransactionBegin own slot :
      ControlProgram slots LogIndex Unit).Respects (logRules mode own) view
        fun _ after => view.party.references slot = [] ∧
          after = view.withSlot slot ⟨true, false⟩ [] := by
  refine (expectFlags_checked lenient).bind ?_
  rintro _ after ⟨rfl, passed⟩
  have noReference : after.party.references slot = [] := by
    rcases unused with checked | known
    · exact settled.references_of_empty (passed checked)
    · exact known
  have noFlags := settled.flags_of_unused noReference
  have same := LogView.withSlot_self noFlags noReference
  have begun : (.perform
      (ControlOp.setFlag own (.slot slot) .transactionBegin true) :
        ControlProgram slots LogIndex Unit).Respects (logRules mode own)
          (after.withSlot slot .empty []) fun _ next =>
            next = after.withSlot slot ⟨true, false⟩ [] :=
    setFlag_respects settled.opened slot .empty [] .transactionBegin true (Nat.zero_le 1)
  rw [same] at begun
  exact begun.mono fun _ _ effect => ⟨noReference, effect⟩

/-- From the begin flag to the result of the compare-exchange: the slot ends
with a recorded reference, or as it was. -/
theorem referenceSlot_settled {α : Type} {expected : StatusWord}
    {won lost : ControlProgram slots LogIndex α} {post : α → LogView slots → Prop}
    (notInvalid : expected ≠ EventSlotStatus.invalid)
    (notInWriting : expected ≠ EventSlotStatus.inWriting)
    (continued : view.party.references slot = [] → won.Respects (logRules mode own)
        (view.withSlot slot .recorded [(EventSlotStatus.mk expected).getTimeStamp]) post)
    (retried : lost.Respects (logRules mode own) view post) :
    (do TransactionLog.referenceTransactionBegin own slot
        if ← ControlProgram.compareExchangeWeak slot expected (expected + 1) then do
          TransactionLog.referenceTransactionCommit own slot
          won
        else do
          TransactionLog.referenceTransactionAbort own slot
          lost : ControlProgram slots LogIndex α).Respects
      (logRules mode own) view post := by
  refine (referenceTransactionBegin_settled settled lenient unused).bind ?_
  rintro _ after ⟨noReference, rfl⟩
  have phase : SlotPhase ⟨true, false⟩
      [(EventSlotStatus.mk expected).getTimeStamp].length := Nat.le_refl 1
  have consistent := (settled.opened.withSlot slot phase).consistent
  have acquired : (logRules mode own).next (view.withSlot slot ⟨true, false⟩ [])
      (ControlOp.compareExchangeWeak slot expected (expected + 1)) true =
        view.withSlot slot ⟨true, false⟩
          [(EventSlotStatus.mk expected).getTimeStamp] :=
    LogView.withSlot_acquire expected (expected + 1)
  refine .perform ⟨lenient, ⟨notInvalid, notInWriting, rfl⟩, ?_⟩ fun swapped _ => ?_
  · rw [LogView.withSlot_acquire]
    exact consistent
  · cases swapped with
    | true =>
        rw [acquired]
        refine (transaction_open settled.opened slot true false
          [(EventSlotStatus.mk expected).getTimeStamp] .transactionEnd true rfl).bind ?_
        rintro _ after rfl
        exact continued noReference
    | false =>
        refine (transaction_open settled.opened slot true false [] .transactionBegin
          false rfl).bind ?_
        rintro _ after rfl
        have same := LogView.withSlot_self (settled.flags_of_unused noReference) noReference
        rw [show (TransactionLogSlot.mk true false).set .transactionBegin false =
          .empty from rfl, same]
        exact retried

/-- A call takes at most one reference, to a slot that had none, and settles
the log again. -/
theorem referenceSpecificEvent_settled :
    (referenceSpecificEvent slot own).Respects (logRules mode own) view
      fun result after =>
        if result then
          view.party.references slot = [] ∧
            ∃ timeStamp, after = view.withSlot slot .recorded [timeStamp]
        else after = view := by
  refine .perform rfl fun active _ => ?_
  refine .perform (fun strict => ?_) fun _ _ => ?_
  · rw [lenient] at strict
    cases strict
  · show Program.Respects (logRules mode own)
      (referenceSpecificRetries slot own maxReferenceRetries) view _
    induction maxReferenceRetries with
    | zero => rfl
    | succ remaining ih =>
        rw [referenceSpecificRetries]
        refine .perform trivial fun word _ => ?_
        dsimp only
        split
        · rfl
        · rename_i readable
          simp only [Bool.or_eq_true, EventSlotStatus.isInWriting_iff,
            EventSlotStatus.isInvalid_iff, not_or] at readable
          split
          · rfl
          · refine referenceSlot_settled settled lenient unused readable.2
              readable.1 (fun noReference => ?_) ih
            exact ⟨noReference, _, rfl⟩

end

/-- Where the assertions do not tell which slots are unused, the search limits
have to. -/
def Searchable (mode : LogMode) (view : LogView slots)
    (lastSearchTime upperLimit : EventTimeStamp) : Prop :=
  mode.ampChecked = true ∨
    (mode.stampsKept = true ∧ ∀ slot, ∀ timeStamp ∈ view.party.references slot,
        ¬ (lastSearchTime < timeStamp ∧ timeStamp < upperLimit))

/-- `referenceNextEvent` takes one reference to an unused slot with a timestamp
between the limits, or none, and settles the log again. -/
theorem referenceNextEvent_settled (settled : view.Settled) (lenient : mode.rollingBack = false)
    {lastSearchTime upperLimit : EventTimeStamp}
    (searchable : Searchable mode view lastSearchTime upperLimit) :
    (referenceNextEvent own lastSearchTime upperLimit :
      ControlProgram slots LogIndex (Option (Fin slots))).Respects
        (logRules mode own) view fun result after =>
          match result with
          | none => after = view
          | some slot => view.party.references slot = [] ∧ ∃ timeStamp, lastSearchTime < timeStamp ∧
                timeStamp < upperLimit ∧
                after = view.withSlot slot .recorded [timeStamp] := by
  refine .perform rfl fun active _ => ?_
  refine .perform (fun strict => ?_) fun _ _ => ?_
  · rw [lenient] at strict
    cases strict
  · show Program.Respects (logRules mode own)
      (referenceNextRetries own lastSearchTime upperLimit maxReferenceRetries)
      view _
    induction maxReferenceRetries with
    | zero => rfl
    | succ remaining ih =>
        rw [referenceNextRetries]
        refine (findCandidateAmong_respects (fun _ => trivial)
          (fun _ _ => rfl) _ _ (Found.start _ _ _)).bind ?_
        rintro ⟨candidate, possibleIndex⟩ after ⟨rfl, found⟩
        cases possibleIndex with
        | none => rfl
        | some possibleIndex =>
            obtain ⟨between, read⟩ := found.between possibleIndex rfl
            rw [EventSlotStatus.isTimeStampBetween_iff] at between
            obtain ⟨notInWriting, notInvalid, newer, below⟩ := between
            have unused : mode.ampChecked = true ∨ after.party.references possibleIndex = [] := by
              rcases searchable with checked | ⟨kept, excluded⟩
              · exact .inl checked
              · refine .inr (List.eq_nil_iff_forall_not_mem.mpr ?_)
                intro timeStamp held
                apply excluded possibleIndex timeStamp held
                rw [← read kept timeStamp held]
                exact ⟨newer, below⟩
            refine referenceSlot_settled settled lenient unused notInvalid
              notInWriting (fun noReference => ?_) ih
            exact ⟨noReference, _, newer, below, rfl⟩

/-- Giving a recorded reference back: no assertion fails, and the entry is
empty again. -/
theorem dereferenceSlot_open {α : Type} (opened : view.Open) {timeStamp : EventTimeStamp}
    (recorded : view.log.referenceCountSlots slot = .recorded)
    (single : view.party.references slot = [timeStamp])
    (rest : ControlProgram slots LogIndex α) {post : α → LogView slots → Prop}
    (continued : rest.Respects (logRules mode own) (view.withSlot slot .empty []) post) :
    (do TransactionLog.dereferenceTransactionBegin own slot
        dereferenceEventWithoutTransactionLogging slot
        TransactionLog.dereferenceTransactionCommit own slot
        rest : ControlProgram slots LogIndex α).Respects
      (logRules mode own) view post := by
  rw [← LogView.withSlot_self recorded single]
  refine (transaction_open opened slot true true [timeStamp]
    .transactionBegin false (Nat.le_refl 1)).bind ?_
  intro _ begun moved
  have halfway : begun = view.withSlot slot ⟨false, true⟩ [timeStamp] := moved
  subst halfway
  have given : ∀ answer : Unit, (logRules mode own).next
      (view.withSlot slot ⟨false, true⟩ [timeStamp]) (ControlOp.fetchSub slot)
        answer = view.withSlot slot ⟨false, true⟩ [] :=
    fun _ => LogView.withSlot_giveBack
  refine .perform ⟨?_, ?_⟩ fun answer _ => ?_
  · rw [LogView.withSlot_references]
    exact List.cons_ne_nil _ _
  · rw [LogView.withSlot_giveBack]
    have phase : SlotPhase ⟨false, true⟩ ([] : List EventTimeStamp).length := Nat.zero_le 1
    exact (opened.withSlot slot phase).consistent
  · rw [given answer]
    refine (transaction_open opened slot false true [] .transactionEnd false rfl).bind ?_
    rintro _ after rfl
    exact continued

/-- `dereferenceEvent` gives a held reference back and settles the log. -/
theorem dereferenceEvent_settled (settled : view.Settled) (lenient : mode.rollingBack = false)
    (held : view.party.references slot ≠ []) :
    (dereferenceEvent slot own).Respects (logRules mode own) view
      fun _ after => after = view.withSlot slot .empty [] := by
  refine .perform rfl fun active _ => ?_
  refine .perform (fun strict => ?_) fun _ _ => ?_
  · rw [lenient] at strict
    cases strict
  · obtain ⟨recorded, timeStamp, single⟩ := settled.flags_of_held held
    exact dereferenceSlot_open settled.opened recorded single (.done ()) rfl

end EventDataControl

namespace SlotCall

/-- A consumer gives back what it holds, and does not reach for a slot it holds
already where no assertion stops it. -/
def undoubled (ampChecked : Bool) (party : SlotParty slots) : SlotCall slots → Bool
  | .dereferenceEvent slotIndex => !(party.references slotIndex).isEmpty
  | .referenceSpecificEvent slotIndex =>
      ampChecked || (party.references slotIndex).isEmpty
  | .referenceNextEvent lastSearchTime upperLimit =>
      ampChecked || decide (∀ slot, ∀ timeStamp ∈ party.references slot,
        ¬ (lastSearchTime < timeStamp ∧ timeStamp < upperLimit))
  | _ => false

/-- Every such call of a consumer leads from a settled log to a settled log. -/
theorem code_settled {mode : LogMode} {index : LogIndex} {view : LogView slots}
    {call : SlotCall slots} (settled : view.Settled)
    (lenient : mode.rollingBack = false) (kept : mode.stampsKept = true)
    (undoubled : call.undoubled mode.ampChecked view.party = true) :
    (call.code (.consumer index)).Respects (logRules mode index) view
      fun _ after => after.Settled := by
  cases call with
  | dereferenceEvent slotIndex =>
      have held : view.party.references slotIndex ≠ [] := by
        intro nothing
        simp [SlotCall.undoubled, nothing] at undoubled
      refine (dereferenceEvent_settled settled lenient held).bind ?_
      rintro _ after rfl
      exact settled.withSlot (.inl ⟨rfl, rfl⟩)
  | referenceSpecificEvent slotIndex =>
      simp only [SlotCall.undoubled, Bool.or_eq_true, List.isEmpty_iff] at undoubled
      refine (referenceSpecificEvent_settled settled lenient undoubled).bind ?_
      intro success after moved
      cases success with
      | false =>
          have same : after = view := moved
          subst same
          exact settled
      | true =>
          obtain ⟨_, timeStamp, rfl⟩ := moved
          exact settled.withSlot (.inr ⟨rfl, _, rfl⟩)
  | referenceNextEvent lastSearchTime upperLimit =>
      simp only [SlotCall.undoubled, Bool.or_eq_true, decide_eq_true_eq] at undoubled
      have searchable : Searchable mode view lastSearchTime upperLimit := by
        rcases undoubled with checked | excluded
        · exact .inl checked
        · exact .inr ⟨kept, excluded⟩
      refine (referenceNextEvent_settled settled lenient searchable).bind ?_
      intro result after moved
      cases result with
      | none =>
          have same : after = view := moved
          subst same
          exact settled
      | some slot =>
          obtain ⟨_, timeStamp, _, _, rfl⟩ := moved
          exact settled.withSlot (.inr ⟨rfl, _, rfl⟩)
  | _ => cases undoubled

end SlotCall

end MwCom.Lola
