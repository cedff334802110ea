/-
Module: MwCom.Lola.UndisturbedCollection
Purpose: Which samples a consumer collects while nobody else moves.
Trusted boundary: none
Main exports: IsNew, Collectable, NewestSamples, CollectionLaw,
  getNewSamplesSlotIndices_collectionLaw
-/
import Mathlib.Data.Fintype.Card
import MwCom.Lola.SlotCollector
import MwCom.Lola.UndisturbedAllocation

namespace MwCom.Lola

namespace Undisturbed

open Interleaving Program EventDataControl EventSlotStatus

variable {slots : Nat} {LogIndex : Type}

/-! ## What is new to a consumer -/

section Slots

variable (control : EventControl slots LogIndex)

/-- The slot holds a sample. -/
def Valid (slot : Fin slots) : Prop :=
  (status control slot).isInvalid = false ∧ (status control slot).isInWriting = false

/-- The slot holds a sample that was sent after `lastTs`. -/
def IsNew (lastTs : EventTimeStamp) (slot : Fin slots) : Prop :=
  Valid control slot ∧ lastTs < (status control slot).getTimeStamp

instance (slot : Fin slots) : Decidable (Valid control slot) := inferInstanceAs (Decidable (_ ∧ _))

instance (lastTs : EventTimeStamp) (slot : Fin slots) : Decidable (IsNew control lastTs slot) :=
  inferInstanceAs (Decidable (_ ∧ _))

/-- The slots with samples sent after `lastTs`. -/
def newSlots (lastTs : EventTimeStamp) : Finset (Fin slots) :=
  Finset.univ.filter (IsNew control lastTs)

/-- The samples have distinct timestamps below the highest, and their counts can grow. -/
structure Collectable : Prop where
  distinct : ∀ slot other, Valid control slot → Valid control other →
    (status control slot).getTimeStamp = (status control other).getTimeStamp → slot = other
  below : ∀ slot, Valid control slot → (status control slot).getTimeStamp < timestampMax
  room : ∀ slot, Valid control slot → (status control slot).getReferenceCount.toNat < 2 ^ 32 - 1

/-- The log of a subscribed consumer, without a transaction on a sample it has not seen
yet. -/
structure Registered (log : LogIndex) (lastTs : EventTimeStamp) : Prop where
  isActive : (control.transactionLogs log).isActive = true
  unrecorded : ∀ slot, IsNew control lastTs slot → (control.log log).entry (.slot slot) = .empty

/-- The `count` newest of the slots with samples sent after `lastTs`, or all of them, with
timestamps that ascend. -/
structure NewestSamples (lastTs : EventTimeStamp) (count : Nat) (collected : List (Fin slots)) :
    Prop where
  length : collected.length = min count (newSlots control lastTs).card
  isNew : ∀ slot ∈ collected, IsNew control lastTs slot
  ascending : (collected.map fun slot => (status control slot).getTimeStamp).Pairwise (· < ·)
  newest : ∀ slot ∈ collected, ∀ other, IsNew control lastTs other → other ∉ collected →
    (status control other).getTimeStamp < (status control slot).getTimeStamp

/-- What a collection makes of the slots: it returns the newest samples and the timestamp
of the newest of them, and takes a reference to each. -/
structure CollectionLaw (lastTs : EventTimeStamp) (count : Nat)
    (result : List (Fin slots) × EventTimeStamp) (after : EventControl slots LogIndex) :
    Prop where
  collects : NewestSamples control lastTs count result.1
  remembers : result.2 =
    (result.1.getLast?.map fun slot => (status control slot).getTimeStamp).getD lastTs
  counted : ∀ slot ∈ result.1,
    (status after slot).getTimeStamp = (status control slot).getTimeStamp ∧
      (status after slot).getReferenceCount.toNat =
        (status control slot).getReferenceCount.toNat + 1
  untouched : ∀ slot, slot ∉ result.1 → after.stateSlots slot = control.stateSlots slot

end Slots

/-! ## The search for the newest sample -/

section Search

variable {control : EventControl slots LogIndex}

/-- A sample between two timestamps. -/
def between (control : EventControl slots LogIndex) (lower upper : EventTimeStamp)
    (slot : Fin slots) : Bool :=
  (status control slot).isTimeStampBetween lower upper

theorem between_iff {lower upper : EventTimeStamp} {slot : Fin slots} :
    between control lower upper slot = true ↔
      IsNew control lower slot ∧ (status control slot).getTimeStamp < upper := by
  simp [between, IsNew, Valid, isTimeStampBetween]
  tauto

/-- The newest of the samples between two timestamps. -/
structure Newest (control : EventControl slots LogIndex) (lower upper : EventTimeStamp)
    (among : List (Fin slots)) (slot : Fin slots) : Prop where
  member : slot ∈ among
  isBetween : between control lower upper slot = true
  newest : ∀ other ∈ among, between control lower upper other = true →
    (status control other).getTimeStamp ≤ (status control slot).getTimeStamp

variable {outcomes : (op : ControlOp slots LogIndex) → EventControl slots LogIndex →
    List (op.Ret × EventControl slots LogIndex)}

/-- The search ends with the newest sample between its bounds, or with what it started
with. -/
theorem findCandidateAmong_endsOnly (reads : ReadsWords outcomes) (upperLimit : EventTimeStamp) (among : List (Fin slots))
    (candidate : EventSlotStatus) (possibleIndex : Option (Fin slots)) :
    (EndsOnly outcomes (findCandidateAmong upperLimit among candidate
          possibleIndex) control (candidate, possibleIndex) control ∧
        ∀ slot ∈ among, between control candidate.getTimeStamp upperLimit slot = false) ∨
      ∃ slot, Newest control candidate.getTimeStamp upperLimit among slot ∧
        EndsOnly outcomes (findCandidateAmong upperLimit among candidate
          possibleIndex) control (status control slot, some slot) control := by
  induction among generalizing candidate possibleIndex with
  | nil => exact .inl ⟨.done _, by simp⟩
  | cons slot rest ih =>
      have onward : ∀ ended, EndsOnly outcomes
          (if between control candidate.getTimeStamp upperLimit slot = true then
            findCandidateAmong upperLimit rest (status control slot) (some slot)
          else
            findCandidateAmong upperLimit rest candidate possibleIndex) control ended control →
          EndsOnly outcomes
            (findCandidateAmong upperLimit (slot :: rest) candidate possibleIndex) control
            ended control := by
        intro ended ends
        rw [findCandidateAmong]
        exact endsOnly_load reads ends
      cases isBetween : between control candidate.getTimeStamp upperLimit slot with
      | true =>
          simp only [isBetween, if_true] at onward
          obtain ⟨isNew, below⟩ := between_iff.mp isBetween
          right
          rcases ih (status control slot) (some slot) with kept | later
          · obtain ⟨ends, none⟩ := kept
            refine ⟨slot, ⟨List.mem_cons_self, isBetween, ?_⟩, onward _ ends⟩
            intro other member otherBetween
            rcases List.mem_cons.mp member with isSlot | inRest
            · rw [isSlot]
              exact BitVec.le_refl _
            · have notLater := none other inRest
              obtain ⟨otherNew, otherBelow⟩ := between_iff.mp otherBetween
              apply BitVec.not_lt.mp
              intro newer
              have isLater : between control (status control slot).getTimeStamp upperLimit
                  other = true :=
                between_iff.mpr ⟨⟨otherNew.1, newer⟩, otherBelow⟩
              rw [notLater] at isLater
              cases isLater
          · obtain ⟨found, newest, ends⟩ := later
            obtain ⟨foundNew, foundBelow⟩ := between_iff.mp newest.isBetween
            have above : candidate.getTimeStamp < (status control found).getTimeStamp :=
              Nat.lt_trans isNew.2 foundNew.2
            refine ⟨found, ⟨List.mem_cons_of_mem _ newest.member,
              between_iff.mpr ⟨⟨foundNew.1, above⟩, foundBelow⟩, ?_⟩, onward _ ends⟩
            intro other member otherBetween
            obtain ⟨otherNew, otherBelow⟩ := between_iff.mp otherBetween
            rcases List.mem_cons.mp member with isSlot | inRest
            · rw [isSlot]
              exact BitVec.le_of_lt foundNew.2
            · by_cases newer : (status control slot).getTimeStamp <
                  (status control other).getTimeStamp
              · exact newest.newest other inRest (between_iff.mpr ⟨⟨otherNew.1, newer⟩, otherBelow⟩)
              · exact BitVec.le_trans (BitVec.not_lt.mp newer) (BitVec.le_of_lt foundNew.2)
      | false =>
          simp only [isBetween, Bool.false_eq_true, if_false] at onward
          rcases ih candidate possibleIndex with kept | later
          · obtain ⟨ends, none⟩ := kept
            left
            refine ⟨onward _ ends, ?_⟩
            intro other member
            rcases List.mem_cons.mp member with isSlot | inRest
            · rw [isSlot]
              exact isBetween
            · exact none other inRest
          · obtain ⟨found, newest, ends⟩ := later
            right
            refine ⟨found, ⟨List.mem_cons_of_mem _ newest.member, newest.isBetween, ?_⟩,
              onward _ ends⟩
            intro other member otherBetween
            rcases List.mem_cons.mp member with isSlot | inRest
            · rw [isSlot, isBetween] at otherBetween
              cases otherBetween
            · exact newest.newest other inRest otherBetween

end Search

/-! ## One reference -/

section Reference

variable {control : EventControl slots LogIndex}

/-- Two states hold the same samples, whatever the references to them. -/
def SameSamples (control after : EventControl slots LogIndex) : Prop :=
  ∀ slot, (Valid after slot ↔ Valid control slot) ∧
    (status after slot).getTimeStamp = (status control slot).getTimeStamp

namespace SameSamples

variable {after later : EventControl slots LogIndex} {lower upper : EventTimeStamp}
  {slot : Fin slots}

theorem refl (control : EventControl slots LogIndex) : SameSamples control control :=
  fun _ => ⟨Iff.rfl, rfl⟩

theorem trans (first : SameSamples control after) (second : SameSamples after later) :
    SameSamples control later :=
  fun slot => ⟨(second slot).1.trans (first slot).1, (second slot).2.trans (first slot).2⟩

theorem isNew_iff (same : SameSamples control after) :
    IsNew after lower slot ↔ IsNew control lower slot := by
  rw [IsNew, IsNew, (same slot).1, (same slot).2]

theorem between_eq (same : SameSamples control after) :
    between after lower upper slot = between control lower upper slot := by
  rw [Bool.eq_iff_iff, between_iff, between_iff, same.isNew_iff, (same slot).2]

end SameSamples

variable [DecidableEq LogIndex]

/-- The state after a reference to a slot was taken and recorded. -/
def referenced (control : EventControl slots LogIndex) (log : LogIndex) (slot : Fin slots) :
    EventControl slots LogIndex :=
  let begun := control.setLog log
    ((control.log log).setFlag (.slot slot) .transactionBegin true)
  let counted := begun.setSlot slot (control.stateSlots slot + 1)
  counted.setLog log ((counted.log log).setFlag (.slot slot) .transactionEnd true)

variable {log : LogIndex} {slot other : Fin slots}

theorem stateSlots_referenced : (referenced control log slot).stateSlots =
      Function.update control.stateSlots slot (control.stateSlots slot + 1) := rfl

theorem stateSlots_referenced_of_ne (distinct : other ≠ slot) :
    (referenced control log slot).stateSlots other = control.stateSlots other := by
  rw [stateSlots_referenced, Function.update_of_ne distinct]

theorem isActive_referenced : ((referenced control log slot).transactionLogs log).isActive =
      (control.transactionLogs log).isActive := by
  simp [referenced]

theorem entry_referenced_of_ne (distinct : other ≠ slot) :
    ((referenced control log slot).log log).entry (.slot other) =
      (control.log log).entry (.slot other) := by
  have different : LogEntry.slot other ≠ LogEntry.slot slot := by
    intro same
    cases same
    exact distinct rfl
  simp [referenced, TransactionLog.entry_setFlag_of_ne _ different]

variable {lastTs : EventTimeStamp}

/-- A reference to a sample whose count can grow. -/
theorem status_referenced (isNew : IsNew control lastTs slot)
    (room : (status control slot).getReferenceCount.toNat < 2 ^ 32 - 1) :
    Valid (referenced control log slot) slot ∧
      (status (referenced control log slot) slot).getTimeStamp =
        (status control slot).getTimeStamp ∧
      (status (referenced control log slot) slot).getReferenceCount.toNat =
        (status control slot).getReferenceCount.toNat + 1 := by
  have word : status (referenced control log slot) slot = ⟨control.stateSlots slot + 1⟩ := by
    rw [status, stateSlots_referenced, Function.update_self]
  obtain ⟨sameStamp, counted⟩ := increment room
  have stamped : (EventSlotStatus.mk (control.stateSlots slot + 1)).getTimeStamp ≠ 0 := by
    rw [sameStamp]
    intro isZero
    have later := isNew.2
    rw [status, isZero] at later
    exact absurd later BitVec.not_lt_zero
  obtain ⟨notInvalid, notInWriting⟩ := readable_of_timeStamp stamped
  refine ⟨⟨?_, ?_⟩, ?_, ?_⟩
  · rw [word]
    simpa [isInvalid] using notInvalid
  · rw [word]
    simpa [isInWriting] using notInWriting
  · rw [word]
    exact sameStamp
  · rw [word]
    exact counted

theorem sameSamples_referenced (isNew : IsNew control lastTs slot)
    (room : (status control slot).getReferenceCount.toNat < 2 ^ 32 - 1) :
    SameSamples control (referenced control log slot) := by
  intro position
  obtain ⟨valid, sameStamp, _⟩ := @status_referenced _ _ control _ log slot _ isNew room
  by_cases isSlot : position = slot
  · subst isSlot
    exact ⟨iff_of_true valid isNew.1, sameStamp⟩
  · have sameWord : status (referenced control log slot) position = status control position := by
      rw [status, stateSlots_referenced_of_ne isSlot, status]
    rw [Valid, Valid, sameWord]
    exact ⟨Iff.rfl, rfl⟩

variable {ampChecked : Bool} {α : Type} {result : α} {after : EventControl slots LogIndex}

/-- Flags that are as they have to be. -/
theorem endsOnly_expectFlags {entry : LogEntry slots} {transactionBegin transactionEnd : Bool}
    {next : Unit → ControlProgram slots LogIndex α}
    (flags : (control.log log).entry entry = ⟨transactionBegin, transactionEnd⟩)
    (continued : EndsOnly (steadyOutcomes ampChecked) (next ()) control result after) :
    EndsOnly (steadyOutcomes ampChecked)
      (TransactionLog.expectFlags log entry transactionBegin transactionEnd >>= next) control
      result after := by
  have read : ∀ flag, steadyOutcomes ampChecked (.getFlag log entry flag) control =
      [(TransactionLogSlot.get ⟨transactionBegin, transactionEnd⟩ flag, control)] := by
    intro flag
    rw [← flags]
    rfl
  have passes : ∀ value : Bool,
      steadyOutcomes ampChecked (.check .amp (value == value)) control = [((), control)] := by
    intro value
    cases value with
    | false => rfl
    | true => rfl
  exact .step (read .transactionBegin) (.step (passes transactionBegin)
    (.step (read .transactionEnd) (.step (passes transactionEnd) continued)))

/-- The flag that a reference begins. -/
theorem referenceTransactionBegin_endsOnly (flags : (control.log log).entry (.slot slot) = .empty) :
    EndsOnly (steadyOutcomes ampChecked) (TransactionLog.referenceTransactionBegin log slot)
      control ()
      (control.setLog log ((control.log log).setFlag (.slot slot) .transactionBegin true)) := by
  rw [TransactionLog.referenceTransactionBegin]
  apply endsOnly_expectFlags flags
  exact .step rfl (.done ())

/-- The flag that a reference was taken. -/
theorem referenceTransactionCommit_endsOnly
    (flags : (control.log log).entry (.slot slot) = ⟨true, false⟩) :
    EndsOnly (steadyOutcomes ampChecked) (TransactionLog.referenceTransactionCommit log slot)
      control ()
      (control.setLog log ((control.log log).setFlag (.slot slot) .transactionEnd true)) := by
  rw [TransactionLog.referenceTransactionCommit]
  apply endsOnly_expectFlags flags
  exact .step rfl (.done ())

/-- A log that is registered. -/
theorem endsOnly_getTransactionLog {next : Unit → ControlProgram slots LogIndex α}
    (isActive : (control.transactionLogs log).isActive = true)
    (continued : EndsOnly (steadyOutcomes ampChecked) (next ()) control result after) :
    EndsOnly (steadyOutcomes ampChecked) (TransactionLogSet.getTransactionLog log >>= next)
      control result after := by
  have read : steadyOutcomes ampChecked (.isActive log) control = [(true, control)] := by
    rw [← isActive]
    rfl
  exact .step read (.step rfl continued)

/-- The newest sample between the bounds is referenced in the first pass. -/
theorem referenceNextRetries_takes {upperLimit : EventTimeStamp} (remaining : Nat)
    (unrecorded : (control.log log).entry (.slot slot) = .empty)
    (searched : EndsOnly (steadyOutcomes ampChecked)
      (findCandidateAmong upperLimit (List.finRange slots) (ofTimeStamp lastTs 0) none) control
      (status control slot, some slot) control) :
    EndsOnly (steadyOutcomes ampChecked)
      (referenceNextRetries log lastTs upperLimit (remaining + 1)) control (some slot)
      (referenced control log slot) := by
  have flags : (((control.setLog log ((control.log log).setFlag (.slot slot) .transactionBegin
      true)).setSlot slot (control.stateSlots slot + 1)).log log).entry (.slot slot) =
        ⟨true, false⟩ := by
    rw [EventControl.log_setSlot, EventControl.log_setLog_self,
      TransactionLog.entry_setFlag_self, unrecorded]
    rfl
  rw [referenceNextRetries]
  refine .bind searched (.bind (referenceTransactionBegin_endsOnly unrecorded) ?_)
  refine endsOnly_compareExchangeWeak rfl ?_
  exact .bind (referenceTransactionCommit_endsOnly flags) (.done _)

/-- Without a sample between the bounds nothing is referenced. -/
theorem referenceNextRetries_refuses {upperLimit : EventTimeStamp} (remaining : Nat)
    {candidate : EventSlotStatus} (searched : EndsOnly (steadyOutcomes ampChecked)
      (findCandidateAmong upperLimit (List.finRange slots)
        (ofTimeStamp lastTs 0) none) control (candidate, none) control) :
    EndsOnly (steadyOutcomes ampChecked)
      (referenceNextRetries log lastTs upperLimit (remaining + 1)) control none control := by
  rw [referenceNextRetries]
  exact .bind searched (.done _)

end Reference

/-! ## The collection -/

section Collection

variable {control after : EventControl slots LogIndex} {log : LogIndex}
  {lastTs upper : EventTimeStamp} {slot : Fin slots}

/-- The samples between two timestamps can be collected. -/
structure Ready (control : EventControl slots LogIndex) (log : LogIndex)
    (lastTs upper : EventTimeStamp) : Prop where
  isActive : (control.transactionLogs log).isActive = true
  unrecorded : ∀ slot, between control lastTs upper slot = true →
    (control.log log).entry (.slot slot) = .empty
  room : ∀ slot, between control lastTs upper slot = true →
    (status control slot).getReferenceCount.toNat < 2 ^ 32 - 1
  distinct : ∀ slot other, between control lastTs upper slot = true →
    between control lastTs upper other = true →
      (status control slot).getTimeStamp = (status control other).getTimeStamp → slot = other

/-- The slots with a sample between two timestamps. -/
def slotsBetween (control : EventControl slots LogIndex) (lower upper : EventTimeStamp) :
    Finset (Fin slots) :=
  Finset.univ.filter fun slot => between control lower upper slot = true

theorem mem_slotsBetween :
    slot ∈ slotsBetween control lastTs upper ↔ between control lastTs upper slot = true := by
  simp [slotsBetween]

/-- The newest of the samples between two timestamps, at most `count` of them. -/
structure Chosen (control : EventControl slots LogIndex) (lower upper : EventTimeStamp)
    (count : Nat) (chosen : List (Fin slots)) : Prop where
  length : chosen.length = min count (slotsBetween control lower upper).card
  isBetween : ∀ slot ∈ chosen, between control lower upper slot = true
  ascending : (chosen.map fun slot => (status control slot).getTimeStamp).Pairwise (· < ·)
  newest : ∀ slot ∈ chosen, ∀ other, between control lower upper other = true →
    other ∉ chosen → (status control other).getTimeStamp < (status control slot).getTimeStamp

/-- References were taken to some of the slots. -/
structure Referenced (control after : EventControl slots LogIndex) (chosen : List (Fin slots)) :
    Prop where
  same : SameSamples control after
  counted : ∀ slot ∈ chosen, (status after slot).getReferenceCount.toNat =
    (status control slot).getReferenceCount.toNat + 1
  untouched : ∀ slot, slot ∉ chosen → after.stateSlots slot = control.stateSlots slot

/-- Below the newest sample are all the others. -/
theorem Newest.slotsBetween_eq (ready : Ready control log lastTs upper)
    (newest : Newest control lastTs upper (List.finRange slots) slot) :
    slotsBetween control lastTs upper =
      insert slot (slotsBetween control lastTs (status control slot).getTimeStamp) := by
  ext other
  rw [Finset.mem_insert, mem_slotsBetween, mem_slotsBetween]
  obtain ⟨isNew, below⟩ := between_iff.mp newest.isBetween
  constructor
  · intro otherBetween
    obtain ⟨otherNew, _⟩ := between_iff.mp otherBetween
    have notLater := newest.newest other (List.mem_finRange other) otherBetween
    by_cases isSlot : other = slot
    · exact .inl isSlot
    · right
      refine between_iff.mpr ⟨otherNew, ?_⟩
      apply BitVec.lt_of_le_ne notLater
      intro sameStamp
      exact isSlot (ready.distinct other slot otherBetween newest.isBetween sameStamp)
  · rintro (isSlot | older)
    · rw [isSlot]
      exact newest.isBetween
    · obtain ⟨otherNew, otherBelow⟩ := between_iff.mp older
      exact between_iff.mpr ⟨otherNew, Nat.lt_trans otherBelow below⟩

/-- A sample is not older than itself. -/
theorem not_between_self : between control lastTs (status control slot).getTimeStamp slot = false := by
  rw [Bool.eq_false_iff]
  intro isBetween
  exact absurd (between_iff.mp isBetween).2 (BitVec.lt_irrefl _)

theorem Chosen.nothing (none : ∀ slot, between control lastTs upper slot = false) (count : Nat) :
    Chosen control lastTs upper count [] where
  length := by
    have empty : slotsBetween control lastTs upper = ∅ := by
      ext slot
      simp [mem_slotsBetween, none slot]
    simp [empty]
  isBetween := by simp
  ascending := by simp
  newest := by simp

theorem Chosen.zero : Chosen control lastTs upper 0 [] where
  length := by simp
  isBetween := by simp
  ascending := by simp
  newest := by simp

variable {chosen : List (Fin slots)}

/-- The newest sample joins the newest of the older ones. -/
theorem Chosen.append {count : Nat} (ready : Ready control log lastTs upper)
    (newest : Newest control lastTs upper (List.finRange slots) slot)
    (older : Chosen control lastTs (status control slot).getTimeStamp count chosen) :
    Chosen control lastTs upper (count + 1) (chosen ++ [slot]) where
  length := by
    have fresh : slot ∉ slotsBetween control lastTs (status control slot).getTimeStamp := by
      rw [mem_slotsBetween, not_between_self]
      exact Bool.false_ne_true
    rw [newest.slotsBetween_eq ready, Finset.card_insert_of_notMem fresh, List.length_append,
      older.length, List.length_singleton]
    omega
  isBetween := by
    intro other member
    rcases List.mem_append.mp member with before | last
    · have inBetween := mem_slotsBetween.mpr (older.isBetween other before)
      apply mem_slotsBetween.mp
      rw [newest.slotsBetween_eq ready]
      exact Finset.mem_insert_of_mem inBetween
    · rw [List.mem_singleton.mp last]
      exact newest.isBetween
  ascending := by
    rw [List.map_append, List.pairwise_append]
    refine ⟨older.ascending, by simp, ?_⟩
    intro stamp member newestStamp isNewest
    obtain ⟨other, isOther, rfl⟩ := List.mem_map.mp member
    rw [List.map_singleton, List.mem_singleton] at isNewest
    rw [isNewest]
    exact (between_iff.mp (older.isBetween other isOther)).2
  newest := by
    intro taken member other otherBetween notTaken
    rw [List.mem_append, List.mem_singleton, not_or] at notTaken
    have inBetween := mem_slotsBetween.mpr otherBetween
    rw [newest.slotsBetween_eq ready, Finset.mem_insert] at inBetween
    have isOlder := mem_slotsBetween.mp (inBetween.resolve_left notTaken.2)
    rcases List.mem_append.mp member with before | last
    · exact older.newest taken before other isOlder notTaken.1
    · rw [List.mem_singleton.mp last]
      exact (between_iff.mp isOlder).2

/-- The samples of two states are the same, and so are the newest of them. -/
theorem Chosen.of_sameSamples {count : Nat} (same : SameSamples control after)
    (newest : Chosen after lastTs upper count chosen) :
    Chosen control lastTs upper count chosen where
  length := by
    have sameSlots : slotsBetween after lastTs upper = slotsBetween control lastTs upper := by
      ext slot
      rw [mem_slotsBetween, mem_slotsBetween, same.between_eq]
    rw [newest.length, sameSlots]
  isBetween := by
    intro slot member
    rw [← same.between_eq]
    exact newest.isBetween slot member
  ascending := by
    have sameStamps : (fun slot => (status after slot).getTimeStamp) =
        fun slot => (status control slot).getTimeStamp := funext fun slot => (same slot).2
    rw [← sameStamps]
    exact newest.ascending
  newest := by
    intro slot member other isBetween notTaken
    rw [← (same slot).2, ← (same other).2]
    rw [← same.between_eq] at isBetween
    exact newest.newest slot member other isBetween notTaken

variable [DecidableEq LogIndex] {ampChecked : Bool}

/-- After the newest sample was taken, the older ones are still to be had. -/
theorem Ready.referenced (ready : Ready control log lastTs upper)
    (newest : Newest control lastTs upper (List.finRange slots) slot) :
    Ready (referenced control log slot) log lastTs (status control slot).getTimeStamp := by
  obtain ⟨isNew, below⟩ := between_iff.mp newest.isBetween
  have same := @sameSamples_referenced _ _ control _ log slot _ isNew
    (ready.room slot newest.isBetween)
  have older : ∀ other,
      between (Undisturbed.referenced control log slot) lastTs (status control slot).getTimeStamp
        other = true →
        between control lastTs upper other = true ∧ other ≠ slot := by
    intro other isBetween
    rw [same.between_eq] at isBetween
    obtain ⟨otherNew, otherBelow⟩ := between_iff.mp isBetween
    refine ⟨between_iff.mpr ⟨otherNew, Nat.lt_trans otherBelow below⟩, ?_⟩
    intro isSlot
    rw [isSlot] at otherBelow
    exact absurd otherBelow (BitVec.lt_irrefl _)
  constructor
  · rw [isActive_referenced]
    exact ready.isActive
  · intro other isBetween
    obtain ⟨wasBetween, distinct⟩ := older other isBetween
    rw [entry_referenced_of_ne distinct]
    exact ready.unrecorded other wasBetween
  · intro other isBetween
    obtain ⟨wasBetween, distinct⟩ := older other isBetween
    rw [status, stateSlots_referenced_of_ne distinct]
    exact ready.room other wasBetween
  · intro one two oneBetween twoBetween sameStamp
    rw [(same one).2, (same two).2] at sameStamp
    exact ready.distinct one two (older one oneBetween).1 (older two twoBetween).1 sameStamp

/-- The samples of `chosen`, then the newest of all. -/
theorem Referenced.append (ready : Ready control log lastTs upper)
    (newest : Newest control lastTs upper (List.finRange slots) slot) (fresh : slot ∉ chosen)
    (later : Referenced (Undisturbed.referenced control log slot) after chosen) :
    Referenced control after (chosen ++ [slot]) := by
  have isNew := (between_iff.mp newest.isBetween).1
  have room := ready.room slot newest.isBetween
  have same := @sameSamples_referenced _ _ control _ log slot _ isNew room
  constructor
  · exact same.trans later.same
  · intro other member
    rcases List.mem_append.mp member with before | last
    · have distinct : other ≠ slot := by
        intro isSlot
        exact fresh (isSlot ▸ before)
      rw [later.counted other before, status, stateSlots_referenced_of_ne distinct, status]
    · rw [List.mem_singleton.mp last]
      have sameWord := later.untouched slot fresh
      rw [status, sameWord]
      exact (status_referenced isNew room).2.2
  · intro other notTaken
    rw [List.mem_append, List.mem_singleton, not_or] at notTaken
    rw [later.untouched other notTaken.1, stateSlots_referenced_of_ne notTaken.2]

/-- The loop takes the newest samples below its limit, the newest first. -/
theorem collectRemaining_endsOnly {collector : SlotCollector LogIndex} (remaining : Nat)
    (ready : Ready control collector.transactionLogIndex collector.lastTs upper)
    (collected : List (Fin slots)) :
    ∃ chosen after, EndsOnly (steadyOutcomes ampChecked)
          (collector.collectRemaining remaining upper collected) control (chosen ++ collected)
          after ∧
        Chosen control collector.lastTs upper remaining chosen ∧
        Referenced control after chosen := by
  induction remaining generalizing control upper collected with
  | zero =>
      refine ⟨[], control, .done _, .zero, ⟨.refl control, by simp, fun _ _ => rfl⟩⟩
  | succ remaining ih =>
      have searched := @findCandidateAmong_endsOnly _ _ control (steadyOutcomes ampChecked)
        readsWords_steadyOutcomes upper (List.finRange slots) (ofTimeStamp collector.lastTs 0) none
      rw [getTimeStamp_ofTimeStamp] at searched
      rcases searched with nothing | found
      · obtain ⟨ends, none⟩ := nothing
        refine ⟨[], control, ?_, ?_, ⟨.refl control, by simp, fun _ _ => rfl⟩⟩
        · rw [SlotCollector.collectRemaining]
          have refused : EndsOnly (steadyOutcomes ampChecked)
              (referenceNextEvent collector.transactionLogIndex collector.lastTs upper) control
              Option.none control :=
            endsOnly_getTransactionLog ready.isActive (referenceNextRetries_refuses 99 ends)
          exact .bind refused (.done _)
        · exact .nothing (fun slot => none slot (List.mem_finRange slot)) _
      · obtain ⟨slot, newest, ends⟩ := found
        have isNew := (between_iff.mp newest.isBetween).1
        have room := ready.room slot newest.isBetween
        have same := @sameSamples_referenced _ _ control _ collector.transactionLogIndex slot _
          isNew room
        have taken : EndsOnly (steadyOutcomes ampChecked)
            (referenceNextEvent collector.transactionLogIndex collector.lastTs upper) control
            (some slot) (referenced control collector.transactionLogIndex slot) :=
          endsOnly_getTransactionLog ready.isActive
            (referenceNextRetries_takes 99 (ready.unrecorded slot newest.isBetween) ends)
        obtain ⟨chosen, after, rest, isChosen, references⟩ :=
          ih (ready.referenced newest) (slot :: collected)
        have older := isChosen.of_sameSamples same
        have fresh : slot ∉ chosen := by
          intro member
          have isBetween := older.isBetween slot member
          rw [not_between_self] at isBetween
          cases isBetween
        refine ⟨chosen ++ [slot], after, ?_, .append ready newest older,
          .append ready newest fresh references⟩
        rw [SlotCollector.collectRemaining, List.append_assoc, List.singleton_append]
        refine .bind taken (endsOnly_load readsWords_steadyOutcomes ?_)
        have sameStamp : (EventSlotStatus.mk ((referenced control
            collector.transactionLogIndex slot).stateSlots slot)).getTimeStamp =
              (status control slot).getTimeStamp := (same slot).2
        dsimp only
        rw [sameStamp]
        exact rest

/-- The timestamp remembered is that of the last slot, if the slots ascend from the one
known so far. -/
theorem highestDelivered_endsOnly (collected : List (Fin slots)) (highest : EventTimeStamp)
    (above : ∀ slot ∈ collected, highest < (status control slot).getTimeStamp)
    (ascending : (collected.map fun slot => (status control slot).getTimeStamp).Pairwise (· < ·)) :
    EndsOnly (steadyOutcomes ampChecked) (SlotCollector.highestDelivered collected highest)
      control
      ((collected.getLast?.map fun slot => (status control slot).getTimeStamp).getD highest)
      control := by
  induction collected generalizing highest with
  | nil => exact .done _
  | cons slot rest ih =>
      rw [List.map_cons, List.pairwise_cons] at ascending
      have later : ∀ other ∈ rest,
          (status control slot).getTimeStamp < (status control other).getTimeStamp :=
        fun other member => ascending.1 _ (List.mem_map_of_mem member)
      rw [SlotCollector.highestDelivered]
      apply endsOnly_load readsWords_steadyOutcomes
      change EndsOnly _ (if highest < (status control slot).getTimeStamp then _ else _) _ _ _
      rw [if_pos (above slot List.mem_cons_self)]
      have delivered := ih _ later ascending.2
      cases rest with
      | nil => exact delivered
      | cons next others =>
          rw [List.getLast?_cons_cons]
          cases last : (next :: others).getLast? with
          | none =>
              rw [List.getLast?_eq_none_iff] at last
              cases last
          | some slot =>
              rw [last] at delivered
              exact delivered

omit [DecidableEq LogIndex] in
/-- The count of the samples between two timestamps. -/
theorem getNumNewEventsAmong_endsOnly {outcomes : (op : ControlOp slots LogIndex) →
      EventControl slots LogIndex → List (op.Ret × EventControl slots LogIndex)}
    (reads : ReadsWords outcomes) (among : List (Fin slots)) (count : Nat) :
    EndsOnly outcomes (getNumNewEventsAmong lastTs among count) control
      (count + among.countP (between control lastTs timestampMax)) control := by
  induction among generalizing count with
  | nil => exact .done _
  | cons slot rest ih =>
      rw [getNumNewEventsAmong]
      apply endsOnly_load reads
      change EndsOnly _ (if between control lastTs timestampMax slot = true then
        _ else _) _ _ _
      rw [List.countP_cons]
      split
      · rw [Nat.add_comm (List.countP _ _), ← Nat.add_assoc]
        exact ih _
      · exact ih _

/-! ## All samples -/

omit [DecidableEq LogIndex] in
/-- Where the timestamps are below the highest, all new samples are below it. -/
theorem Collectable.between_iff (collectable : Collectable control) :
    between control lastTs timestampMax slot = true ↔ IsNew control lastTs slot := by
  rw [Undisturbed.between_iff]
  constructor
  · exact And.left
  · intro isNew
    exact ⟨isNew, collectable.below slot isNew.1⟩

omit [DecidableEq LogIndex] in
theorem Collectable.slotsBetween_eq (collectable : Collectable control) :
    slotsBetween control lastTs timestampMax = newSlots control lastTs := by
  ext slot
  rw [mem_slotsBetween, collectable.between_iff, newSlots, Finset.mem_filter]
  simp

omit [DecidableEq LogIndex] in
theorem Collectable.ready (collectable : Collectable control)
    (registered : Registered control log lastTs) :
    Ready control log lastTs timestampMax where
  isActive := registered.isActive
  unrecorded := fun slot isBetween =>
    registered.unrecorded slot (collectable.between_iff.mp isBetween)
  room := fun slot isBetween => collectable.room slot (collectable.between_iff.mp isBetween).1
  distinct := fun slot other isBetween otherBetween =>
    collectable.distinct slot other (collectable.between_iff.mp isBetween).1
      (collectable.between_iff.mp otherBetween).1

omit [DecidableEq LogIndex] in
theorem Chosen.newestSamples {count : Nat} (collectable : Collectable control)
    (isChosen : Chosen control lastTs timestampMax count chosen) :
    NewestSamples control lastTs count chosen where
  length := by
    rw [isChosen.length, collectable.slotsBetween_eq]
  isNew := fun slot member => collectable.between_iff.mp (isChosen.isBetween slot member)
  ascending := isChosen.ascending
  newest := fun slot member other isNew =>
    isChosen.newest slot member other (collectable.between_iff.mpr isNew)

/-- While nobody else moves, a collection returns the newest samples, as many as fit, and
the number of new samples before it is exact. -/
theorem getNewSamplesSlotIndices_collectionLaw (ampChecked : Bool)
    (control : EventControl slots LogIndex) (collector : SlotCollector LogIndex)
    (maxCount : Nat) (collectable : Collectable control)
    (registered : Registered control collector.transactionLogIndex collector.lastTs) :
    EndsOnly (steadyOutcomes ampChecked) collector.getNumNewSamplesAvailable control
        (newSlots control collector.lastTs).card control ∧
      ∃ result after,
        EndsOnly (steadyOutcomes ampChecked) (collector.getNewSamplesSlotIndices maxCount)
            control result after ∧
          CollectionLaw control collector.lastTs (min maxCount collector.maxSlots) result
            after := by
  constructor
  · have counted := @getNumNewEventsAmong_endsOnly _ _ control collector.lastTs
      (steadyOutcomes ampChecked) readsWords_steadyOutcomes (List.finRange slots) 0
    have cards : 0 + (List.finRange slots).countP
        (between control collector.lastTs timestampMax) =
          (newSlots control collector.lastTs).card := by
      have distinct := (List.nodup_finRange slots).filter
        (between control collector.lastTs timestampMax)
      rw [← collectable.slotsBetween_eq, Nat.zero_add, List.countP_eq_length_filter,
        ← List.toFinset_card_of_nodup distinct]
      congr 1
      ext slot
      simp [slotsBetween]
    rw [cards] at counted
    exact counted
  · obtain ⟨chosen, after, collects, isChosen, references⟩ :=
      @collectRemaining_endsOnly _ _ control _ _ ampChecked collector
        (min maxCount collector.maxSlots) (collectable.ready registered) []
    rw [List.append_nil] at collects
    have newest := isChosen.newestSamples collectable
    have sameStamps : (fun slot => (status after slot).getTimeStamp) =
        fun slot => (status control slot).getTimeStamp :=
      funext fun slot => (references.same slot).2
    have delivers : EndsOnly (steadyOutcomes ampChecked)
        (SlotCollector.highestDelivered chosen collector.lastTs) after
        ((chosen.getLast?.map fun slot => (status control slot).getTimeStamp).getD
          collector.lastTs) after := by
      rw [← sameStamps]
      apply highestDelivered_endsOnly
      · intro slot member
        rw [(references.same slot).2]
        exact (newest.isNew slot member).2
      · rw [sameStamps]
        exact newest.ascending
    refine ⟨(chosen, _), after, .bind collects (.bind delivers (.done _)), newest, rfl, ?_,
      references.untouched⟩
    intro slot member
    exact ⟨(references.same slot).2, references.counted slot member⟩

end Collection

/-- Two samples, one of them referenced, and a slot in writing. -/
def twoSamples : EventControl 3 Unit where
  stateSlots := ![(ofTimeStamp 5 0).data, (ofTimeStamp 3 1).data, inWriting]
  transactionLogs := fun _ =>
    { isActive := true, needsRollback := false, transactionLog := .empty }
  currentSubscriptionState := 0

/-- A consumer that has seen the timestamp 2 and has room for two samples. -/
theorem collectionLaw_of_twoSamples :
    EndsOnly (steadyOutcomes true) (SlotCollector.getNumNewSamplesAvailable ⟨2, 2, ()⟩)
        twoSamples (newSlots twoSamples 2).card twoSamples ∧
      ∃ result after,
        EndsOnly (steadyOutcomes true) (SlotCollector.getNewSamplesSlotIndices ⟨2, 2, ()⟩ 7)
            twoSamples result after ∧
          CollectionLaw twoSamples 2 (min 7 2) result after := by
  apply getNewSamplesSlotIndices_collectionLaw true twoSamples ⟨2, 2, ()⟩ 7
  · constructor
    · decide
    · decide
    · decide
  · constructor
    · rfl
    · intro slot _
      rfl

end Undisturbed

end MwCom.Lola
