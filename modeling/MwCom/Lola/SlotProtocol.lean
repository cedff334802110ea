/-
Module: MwCom.Lola.SlotProtocol
Purpose: The rules that sender and consumers keep on the status words, that
  slot ownership survives every operation the rules allow, and that each
  function of the slot control keeps them.
Trusted boundary: none
Main exports: senderRules, consumerRules, SlotOwnership.perform,
  EventDataControl.allocateNextSlot_respects,
  EventDataControl.referenceNextEvent_respects
-/
import MwCom.Interleaving.Contract
import MwCom.Lola.SlotOwnership

namespace MwCom.Lola

open Interleaving EventDataControl EventSlotStatus

variable {slots : Nat} {Consumer LogIndex : Type}

/-- The sender turns unreferenced words into the in-writing sentinel, and
stores only into slots it holds. -/
def senderRules : Rules (ControlOp slots LogIndex) ControlOp.Ret (SlotParty slots) where
  may party
    | .load _ => True
    | .check _ _ => True
    | .compareExchangeWeak _ expected desired =>
        (EventSlotStatus.mk expected).getReferenceCount = 0 ∧ desired = inWriting
    | .store slot word =>
        party.writing slot = true ∧ (EventSlotStatus.mk word).getReferenceCount = 0
    | _ => False
  expects party
    | .load slot, word =>
        word = inWriting ↔ party.writing slot = true
    | _, _ => True
  next := SlotParty.observeSender

/-- A consumer adds one to a readable word, subtracts one only where it holds
a reference, and writes to no transaction log but its own. -/
def consumerRules (own : LogIndex) :
    Rules (ControlOp slots LogIndex) ControlOp.Ret (SlotParty slots) where
  may party
    | .load _ => True
    | .compareExchangeWeak _ expected desired =>
        expected ≠ invalid ∧ expected ≠ inWriting ∧ desired = expected + 1
    | .fetchSub slot => party.references slot ≠ []
    | .isActive log => log = own
    | .getFlag log _ _ => log = own
    | .setFlag log _ _ _ => log = own
    | .getMaxSampleCount log => log = own
    | .setMaxSampleCount log _ => log = own
    | .loadSubscription => True
    | .compareExchangeSubscription _ _ => True
    | .check _ _ => True
    | .terminate => True
    | _ => False
  expects _ _ _ := True
  next := SlotParty.observeConsumer

/-- The rules of a party. -/
def slotRules : Party Consumer → Rules (ControlOp slots Consumer) ControlOp.Ret (SlotParty slots)
  | .sender => senderRules
  | .consumer index => consumerRules index

/-- The record of a party after one of its operations. -/
def SlotParty.observe : Party Consumer → SlotParty slots →
    (op : ControlOp slots LogIndex) → op.Ret → SlotParty slots
  | .sender, party, op, answer => party.observeSender op answer
  | .consumer _, party, op, answer => party.observeConsumer op answer

/-! ## One operation -/

namespace SlotOwnership

variable [Fintype Consumer] [DecidableEq Consumer] [DecidableEq LogIndex]
  {ampChecked : Bool} {control after : EventControl slots LogIndex}
  {parties : Party Consumer → SlotParty slots}
  {op : ControlOp slots LogIndex} {answer : op.Ret}

theorem perform_sender (own : SlotOwnership control.stateSlots parties)
    (may : senderRules.may (parties .sender) op)
    (outcome : (answer, after) ∈ op.outcomes ampChecked control) :
    SlotOwnership after.stateSlots
      (Function.update parties .sender ((parties .sender).observeSender op answer)) := by
  cases op with
  | load slot =>
      cases List.mem_singleton.mp outcome
      simpa [SlotParty.observeSender] using own
  | check kind condition =>
      obtain ⟨rfl, _⟩ := ControlOp.check_outcome outcome
      simpa [SlotParty.observeSender] using own
  | compareExchangeWeak slot expected desired =>
      obtain ⟨unused, rfl⟩ := may
      rcases ControlOp.compareExchangeWeak_outcome outcome with won | failed
      · obtain ⟨rfl, rfl, rfl⟩ := won
        exact own.allocate unused
      · obtain ⟨rfl, rfl⟩ := failed
        simpa [SlotParty.observeSender] using own
  | store slot word =>
      cases List.mem_singleton.mp outcome
      exact own.release may.1 may.2
  | _ => exact may.elim

theorem perform_consumer (own : SlotOwnership control.stateSlots parties)
    {index : Consumer} {log : LogIndex} (few : ∀ slot, outstanding parties slot < 2 ^ 32 - 1)
    (may : (consumerRules log).may (parties (.consumer index)) op)
    (outcome : (answer, after) ∈ op.outcomes ampChecked control) :
    SlotOwnership after.stateSlots
      (Function.update parties (.consumer index)
        ((parties (.consumer index)).observeConsumer op answer)) := by
  cases op with
  | compareExchangeWeak slot expected desired =>
      obtain ⟨notInvalid, notInWriting, rfl⟩ := may
      rcases ControlOp.compareExchangeWeak_outcome outcome with won | failed
      · obtain ⟨rfl, rfl, rfl⟩ := won
        exact own.acquire (few slot) notInvalid notInWriting index
      · obtain ⟨rfl, rfl⟩ := failed
        simpa [SlotParty.observeConsumer] using own
  | fetchSub slot =>
      cases List.mem_singleton.mp outcome
      exact own.giveBack may
  | check kind condition =>
      obtain ⟨rfl, _⟩ := ControlOp.check_outcome outcome
      simpa [SlotParty.observeConsumer] using own
  | load slot | isActive log | getFlag log entry flag | setFlag log entry flag value
  | getMaxSampleCount log | setMaxSampleCount log count | loadSubscription =>
      cases List.mem_singleton.mp outcome
      simpa [SlotParty.observeConsumer] using own
  | compareExchangeSubscription expected desired =>
      rcases ControlOp.compareExchangeSubscription_outcome outcome with
        won | failed
      · obtain ⟨rfl, _, rfl⟩ := won
        simpa [SlotParty.observeConsumer] using own
      · obtain ⟨rfl, rfl⟩ := failed
        simpa [SlotParty.observeConsumer] using own
  | terminate => cases outcome
  | _ => exact may.elim

section Party

variable {control after : EventControl slots Consumer} {party : Party Consumer}
  {op : ControlOp slots Consumer} {answer : op.Ret}

/-- An operation that the rules of its party allow keeps slot ownership. -/
theorem perform (own : SlotOwnership control.stateSlots parties)
    (few : ∀ slot, outstanding parties slot < 2 ^ 32 - 1)
    (may : (slotRules party).may (parties party) op)
    (outcome : (answer, after) ∈ op.outcomes ampChecked control) :
    SlotOwnership after.stateSlots
      (Function.update parties party ((parties party).observe party op answer)) := by
  cases party with
  | sender => exact own.perform_sender may outcome
  | consumer index => exact own.perform_consumer few may outcome

/-- The answers are those a party expects. -/
theorem expected (own : SlotOwnership control.stateSlots parties)
    (outcome : (answer, after) ∈ op.outcomes ampChecked control) :
    (slotRules party).expects (parties party) op answer := by
  cases party with
  | sender =>
      cases op with
      | load slot =>
          cases List.mem_singleton.mp outcome
          exact own.written slot
      | _ => trivial
  | consumer index => trivial

end Party

end SlotOwnership

/-! ## The functions of the slot control -/

namespace EventDataControl

variable {party : SlotParty slots}

/-- The search of the sender only reads. -/
theorem findOldestUnusedSlotAmong_respects (among : List (Fin slots))
    (oldestTimeStamp : EventTimeStamp) (selectedIndex : Option (Fin slots)) :
    (findOldestUnusedSlotAmong among oldestTimeStamp selectedIndex :
      ControlProgram slots LogIndex (Option (Fin slots))).Respects senderRules party
        fun _ after => after = party := by
  induction among generalizing oldestTimeStamp selectedIndex with
  | nil => rfl
  | cons currentIndex rest ih =>
      rw [findOldestUnusedSlotAmong]
      refine .perform trivial fun word _ => ?_
      dsimp only
      split
      · rfl
      · split
        · exact ih _ _
        · exact ih _ _

/-- A selected slot was won for writing, unless the passes ran out. -/
theorem allocateRetries_respects (remaining : Nat) (selectedIndex : Option (Fin slots)) :
    (allocateRetries remaining selectedIndex :
      ControlProgram slots LogIndex (Nat × Option (Fin slots))).Respects
        senderRules party fun result after =>
          result.1 ≤ maxAllocateRetries → ∀ slot, result.2 = some slot →
            after.writing slot = true := by
  induction remaining generalizing selectedIndex with
  | zero =>
      intro within
      exact absurd within (Nat.not_succ_le_self _)
  | succ remaining ih =>
      rw [allocateRetries]
      refine (findOldestUnusedSlotAmong_respects _ _ _).bind ?_
      rintro found after rfl
      cases found with
      | none => exact ih none
      | some index =>
          refine .perform trivial fun word _ => ?_
          dsimp only
          split
          · exact ih (some index)
          · rename_i usable
            simp only [Bool.or_eq_true, bne_iff_ne, not_or, not_not] at usable
            refine .perform ⟨usable.1, rfl⟩ fun won _ => ?_
            cases won with
            | false => exact ih (some index)
            | true =>
                intro _ slot selected
                cases selected
                simp [senderRules, SlotParty.observeSender, SlotParty.allocate]

/-- `allocateNextSlot` returns a slot the sender holds. -/
theorem allocateNextSlot_respects :
    (allocateNextSlot : ControlProgram slots LogIndex (Option (Fin slots))).Respects
      senderRules party fun result after =>
        ∀ slot, result = some slot → after.writing slot = true := by
  refine (allocateRetries_respects _ _).bind ?_
  rintro ⟨retryCounter, selectedIndex⟩ after held
  dsimp only at held ⊢
  split
  · intro slot selected
    cases selected
  · rename_i within
    exact held (Nat.le_of_not_le within)

theorem eventReady_respects {slotIndex : Fin slots} (timeStamp : EventTimeStamp)
    (held : party.writing slotIndex = true) :
    (eventReady slotIndex timeStamp : ControlProgram slots LogIndex Unit).Respects
      senderRules party fun _ _ => True := by
  refine ⟨⟨held, ?_⟩, fun _ _ => trivial⟩
  exact getReferenceCount_ofTimeStamp timeStamp 0

/-- `discard` stores only if it finds a slot of its own. -/
theorem discard_respects (slotIndex : Fin slots) :
    (discard slotIndex : ControlProgram slots LogIndex Unit).Respects
      senderRules party fun _ _ => True := by
  rw [discard]
  refine .perform trivial fun word expected => ?_
  dsimp only
  split
  · rename_i inWriting
    rw [isInWriting_iff] at inWriting
    refine ⟨⟨expected.mp inWriting, ?_⟩, fun _ _ => trivial⟩
    exact getReferenceCount_invalid
  · trivial

/-! ### Consumers -/

/-- What a search between two timestamps has found so far: a status between
them, read from the slot it names. -/
structure Found (minimum upperLimit : EventTimeStamp)
    (readable : Fin slots → StatusWord → Prop)
    (candidate : EventSlotStatus × Option (Fin slots)) : Prop where
  above : minimum ≤ candidate.1.getTimeStamp
  between : ∀ slot, candidate.2 = some slot →
    candidate.1.isTimeStampBetween minimum upperLimit = true ∧ readable slot candidate.1.data

/-- The search of a consumer only reads, under any rules that let it. -/
theorem findCandidateAmong_respects {View : Type}
    {rules : Rules (ControlOp slots LogIndex) ControlOp.Ret View} {view : View}
    (reads : ∀ slot, rules.may view (.load slot))
    (unmoved : ∀ slot word, rules.next view (.load slot) word = view)
    {minimum upperLimit : EventTimeStamp} (among : List (Fin slots))
    (candidate : EventSlotStatus × Option (Fin slots)) (found : Found minimum upperLimit
      (fun slot word => rules.expects view (.load slot) word) candidate) :
    (findCandidateAmong upperLimit among candidate.1 candidate.2).Respects rules
      view fun result after => after = view ∧ Found minimum upperLimit
          (fun slot word => rules.expects view (.load slot) word) result := by
  induction among generalizing candidate with
  | nil => exact ⟨rfl, found⟩
  | cons currentIndex rest ih =>
      rw [findCandidateAmong]
      refine .perform (reads currentIndex) fun word expected => ?_
      rw [unmoved]
      dsimp only
      split
      · rename_i better
        rw [isTimeStampBetween_iff] at better
        obtain ⟨notInWriting, notInvalid, newer, below⟩ := better
        apply ih (_, some currentIndex)
        have above : minimum < (EventSlotStatus.mk word).getTimeStamp :=
          BitVec.lt_def.mpr (Nat.lt_of_le_of_lt (BitVec.le_def.mp found.above)
            (BitVec.lt_def.mp newer))
        refine ⟨BitVec.le_of_lt above, ?_⟩
        intro slot named
        cases named
        refine ⟨?_, expected⟩
        rw [isTimeStampBetween_iff]
        exact ⟨notInWriting, notInvalid, above, below⟩
      · exact ih candidate found

/-- A search starts with nothing found. -/
theorem Found.start (minimum upperLimit : EventTimeStamp)
    (readable : Fin slots → StatusWord → Prop) :
    Found minimum upperLimit readable
      (ofTimeStamp minimum 0, none) where
  above := by
    rw [getTimeStamp_ofTimeStamp]
    exact BitVec.le_refl minimum
  between := by
    intro slot named
    cases named

section Consumer

variable (slotIndex : Fin slots) (transactionLog : LogIndex)

/-- The steps of a transaction do not touch the slots. -/
theorem transaction_respects (entry : LogEntry slots) (one two : Bool)
    (flag : LogFlag) (value : Bool) :
    (TransactionLog.expectFlags transactionLog entry one two >>= fun _ =>
      .perform (ControlOp.setFlag transactionLog entry flag value) :
        ControlProgram slots LogIndex Unit).Respects (consumerRules transactionLog) party
          fun _ after => after = party :=
  ⟨rfl, fun _ _ => ⟨trivial, fun _ _ => ⟨rfl, fun _ _ =>
    ⟨trivial, fun _ _ => ⟨rfl, fun _ _ => rfl⟩⟩⟩⟩⟩

theorem getTransactionLog_respects : (TransactionLogSet.getTransactionLog transactionLog :
      ControlProgram slots LogIndex Unit).Respects (consumerRules transactionLog) party
        fun _ after => after = party :=
  ⟨rfl, fun _ _ => ⟨trivial, fun _ _ => rfl⟩⟩

theorem referenceSpecificRetries_respects (remaining : Nat) :
    (referenceSpecificRetries slotIndex transactionLog remaining).Respects
      (consumerRules transactionLog) party fun result after =>
        if result then ∃ timeStamp, after = party.acquire slotIndex timeStamp
        else after = party := by
  induction remaining with
  | zero => rfl
  | succ remaining ih =>
      rw [referenceSpecificRetries]
      refine .perform trivial fun word _ => ?_
      dsimp only
      split
      · rfl
      · rename_i readable
        simp only [Bool.or_eq_true, isInWriting_iff, isInvalid_iff, not_or] at readable
        split
        · rfl
        · refine (transaction_respects transactionLog (.slot slotIndex) false
            false .transactionBegin true).bind ?_
          rintro _ after rfl
          refine .perform ⟨readable.2, readable.1, rfl⟩ fun won _ => ?_
          cases won with
          | false =>
              refine (transaction_respects transactionLog (.slot slotIndex) true
                false .transactionBegin false).bind ?_
              rintro _ after rfl
              exact ih
          | true =>
              refine (transaction_respects transactionLog (.slot slotIndex) true
                false .transactionEnd true).bind ?_
              rintro _ after rfl
              exact ⟨_, rfl⟩

/-- `referenceSpecificEvent` takes one reference to the slot, or none. -/
theorem referenceSpecificEvent_respects : (referenceSpecificEvent slotIndex transactionLog).Respects
      (consumerRules transactionLog) party fun result after =>
        if result then ∃ timeStamp, after = party.acquire slotIndex timeStamp
        else after = party := by
  refine (getTransactionLog_respects transactionLog).bind ?_
  rintro _ after rfl
  exact referenceSpecificRetries_respects slotIndex transactionLog _

theorem referenceNextRetries_respects
    (lastSearchTime upperLimit : EventTimeStamp) (remaining : Nat) :
    (referenceNextRetries transactionLog lastSearchTime upperLimit remaining :
      ControlProgram slots LogIndex (Option (Fin slots))).Respects (consumerRules transactionLog)
        party fun result after =>
          match result with
          | none => after = party
          | some slot => ∃ timeStamp, lastSearchTime < timeStamp ∧
              timeStamp < upperLimit ∧ after = party.acquire slot timeStamp := by
  induction remaining with
  | zero => rfl
  | succ remaining ih =>
      rw [referenceNextRetries]
      refine (findCandidateAmong_respects (fun _ => trivial)
        (fun _ _ => rfl) _ _ (Found.start _ _ _)).bind ?_
      rintro ⟨candidate, possibleIndex⟩ after ⟨rfl, found⟩
      cases possibleIndex with
      | none => rfl
      | some possibleIndex =>
          have between := (found.between possibleIndex rfl).1
          rw [isTimeStampBetween_iff] at between
          obtain ⟨notInWriting, notInvalid, newer, below⟩ := between
          refine (transaction_respects transactionLog (.slot possibleIndex)
            false false .transactionBegin true).bind ?_
          rintro _ after rfl
          refine .perform ⟨notInvalid, notInWriting, rfl⟩ fun won _ => ?_
          cases won with
          | false =>
              refine (transaction_respects transactionLog (.slot possibleIndex)
                true false .transactionBegin false).bind ?_
              rintro _ after rfl
              exact ih
          | true =>
              refine (transaction_respects transactionLog (.slot possibleIndex)
                true false .transactionEnd true).bind ?_
              rintro _ after rfl
              exact ⟨_, newer, below, rfl⟩

/-- `referenceNextEvent` takes one reference to a slot whose timestamp lies
between the limits, or none. -/
theorem referenceNextEvent_respects (lastSearchTime upperLimit : EventTimeStamp) :
    (referenceNextEvent transactionLog lastSearchTime upperLimit :
      ControlProgram slots LogIndex (Option (Fin slots))).Respects (consumerRules transactionLog)
        party fun result after =>
          match result with
          | none => after = party
          | some slot => ∃ timeStamp, lastSearchTime < timeStamp ∧
              timeStamp < upperLimit ∧ after = party.acquire slot timeStamp := by
  refine (getTransactionLog_respects transactionLog).bind ?_
  rintro _ after rfl
  exact referenceNextRetries_respects transactionLog _ _ _

/-- `dereferenceEvent` gives a held reference back. -/
theorem dereferenceEvent_respects (held : party.references slotIndex ≠ []) :
    (dereferenceEvent slotIndex transactionLog).Respects (consumerRules transactionLog) party
      fun _ after => after = party.giveBack slotIndex := by
  refine (getTransactionLog_respects transactionLog).bind ?_
  rintro _ after rfl
  refine (transaction_respects transactionLog (.slot slotIndex) true true
    .transactionBegin false).bind ?_
  rintro _ after rfl
  refine .perform held fun _ _ => ?_
  exact transaction_respects transactionLog (.slot slotIndex) false true .transactionEnd false

end Consumer

end EventDataControl

end MwCom.Lola
