/-
Module: MwCom.Lola.SlotLock
Purpose: Locking one slot in both controls of an event while consumers of both qualities
  move.
Trusted boundary: none
Main exports: LockLaw, tryLockSlot_lockLaw
-/
import MwCom.Lola.AmidConsumers

namespace MwCom.Lola

namespace Amid

open Interleaving Program SkeletonProgram EventDataControlComposite EventSlotStatus
open Relation (ReflTransGen)

variable {slots : Nat} {LogIndex : Type}

/-! ## The lock -/

/-- What an attempt to lock a slot makes of the controls. -/
structure LockLaw (memory after : SkeletonMemory slots LogIndex) (slot : Fin slots)
    (locked : Bool) : Prop where
  /-- A locked slot is in writing in both controls, and nobody references it. -/
  locks : locked = true → ∀ quality,
    (after.status quality slot).isInWriting = true ∧ after.references quality slot = 0
  /-- Apart from that only the consumers have moved. -/
  moves : ∀ quality position, locked = false ∨ position ≠ slot →
    ConsumerMoves (slotState memory quality position) (slotState after quality position)
  /-- All references are counted. -/
  counts : AllCounted after
  stamps : locked = false → ∀ quality position,
    (after.status quality position).getTimeStamp = (memory.status quality position).getTimeStamp

section Lock

variable [DecidableEq LogIndex] {ampChecked : Bool}
  {memory after : SkeletonMemory slots LogIndex}

/-- A run of a program of the skeleton while consumers move. -/
abbrev SkeletonRuns {α : Type} (ampChecked : Bool) (program : SkeletonProgram slots LogIndex α)
    (memory : SkeletonMemory slots LogIndex)
    (performed : List (Performed (SkeletonOp slots LogIndex) SkeletonOp.Ret
      (SkeletonMemory slots LogIndex)))
    (ended : Option α) (after : SkeletonMemory slots LogIndex) : Prop :=
  program.EndsAmid (SkeletonOp.outcomes ampChecked) ConsumerStep memory performed ended after

variable {performed : List (Performed (SkeletonOp slots LogIndex) SkeletonOp.Ret
    (SkeletonMemory slots LogIndex))}

variable {quality : QualityType} {slot : Fin slots}

variable {α : Type}

/-- Reading a word. -/
theorem skeletonLoad_cases {next : StatusWord → SkeletonProgram slots LogIndex α} {ended : Option α}
    (ends : SkeletonRuns ampChecked (SkeletonProgram.load quality slot >>= next) memory performed
      ended after) :
    ∃ found later, ReflTransGen ConsumerStep memory found ∧
      SkeletonRuns ampChecked (next (found.status quality slot).data) found later ended after := by
  obtain ⟨found, moved, stopped | continued⟩ := ends.perform_cases
  · cases stopped.1
  · obtain ⟨word, middle, later, outcome, _, continued⟩ := continued
    cases List.mem_singleton.mp outcome
    refine ⟨found, later, moved, ?_⟩
    change SkeletonRuns ampChecked _ (found.setControl quality (found.control quality)) _ _ _
      at continued
    rw [SkeletonMemory.setControl_self] at continued
    exact continued

/-- A compare-exchange that does not fail without a reason: it swaps the word it expects,
or finds another one. -/
theorem compareExchangeStrong_cases {expected desired : StatusWord}
    {next : Bool → SkeletonProgram slots LogIndex α} {ended : Option α}
    (ends : SkeletonRuns ampChecked
      (SkeletonProgram.compareExchangeStrong quality slot expected desired >>= next) memory
      performed ended after) :
    ∃ found later, ReflTransGen ConsumerStep memory found ∧
      (((found.status quality slot).data = expected ∧ SkeletonRuns ampChecked (next true)
            (found.setControl quality ((found.control quality).setSlot slot desired)) later ended
            after) ∨
        SkeletonRuns ampChecked (next false) found later ended after) := by
  obtain ⟨found, moved, stopped | continued⟩ := ends.perform_cases
  · have answers := stopped.1
    rw [SkeletonOp.outcomes, List.map_eq_nil_iff, ControlOp.outcomes] at answers
    split at answers
    · cases answers
    · cases answers
  · obtain ⟨won, middle, later, outcome, _, continued⟩ := continued
    obtain ⟨⟨answer, control⟩, isOutcome, same⟩ := List.mem_map.mp outcome
    cases same
    refine ⟨found, later, moved, ?_⟩
    rcases ControlOp.compareExchangeStrong_outcome isOutcome with swapped | kept
    · obtain ⟨rfl, isExpected, rfl⟩ := swapped
      exact .inl ⟨isExpected, continued⟩
    · obtain ⟨rfl, rfl⟩ := kept
      change SkeletonRuns ampChecked _ (found.setControl quality (found.control quality)) _ _ _
        at continued
      rw [SkeletonMemory.setControl_self] at continued
      exact .inr continued

/-- A store. -/
theorem skeletonStore_cases {word : StatusWord} {next : Unit → SkeletonProgram slots LogIndex α}
    {ended : Option α}
    (ends : SkeletonRuns ampChecked (SkeletonProgram.store quality slot word >>= next) memory
      performed ended after) :
    ∃ found later, ReflTransGen ConsumerStep memory found ∧ SkeletonRuns ampChecked (next ())
        (found.setControl quality ((found.control quality).setSlot slot word)) later ended
        after := by
  obtain ⟨found, moved, stopped | continued⟩ := ends.perform_cases
  · cases stopped.1
  · obtain ⟨answer, middle, later, outcome, _, continued⟩ := continued
    cases List.mem_singleton.mp outcome
    exact ⟨found, later, moved, continued⟩

omit [DecidableEq LogIndex] in
/-- An attempt that fails, with moves of the consumers only. -/
theorem LockLaw.unlocked (counted : AllCounted memory) (moves : ∀ quality position,
      ConsumerMoves (slotState memory quality position) (slotState after quality position)) :
    LockLaw memory after slot false where
  locks := fun isLocked => nomatch isLocked
  moves := fun quality position _ => moves quality position
  counts := counted.of_moves moves
  stamps := fun _ quality position =>
    getTimeStamp_eq_of_stage ((moves quality position).counted (counted quality position)).2

omit [DecidableEq LogIndex] in
/-- An attempt that succeeds. -/
theorem LockLaw.locked (counted : AllCounted memory)
    (held : ∀ quality, slotState after quality slot = (inWriting, 0))
    (moves : ∀ quality position, position ≠ slot →
      ConsumerMoves (slotState memory quality position) (slotState after quality position)) :
    LockLaw memory after slot true where
  locks := fun _ quality =>
    ⟨isInWriting_iff.mpr (congrArg Prod.fst (held quality)), congrArg Prod.snd (held quality)⟩
  moves := fun quality position free =>
    moves quality position (free.resolve_left fun isUnlocked => nomatch isUnlocked)
  counts := by
    intro quality position
    by_cases isSlot : position = slot
    · rw [isSlot]
      exact .inr (.inl ⟨congrArg Prod.snd (held quality), congrArg Prod.fst (held quality)⟩)
    · exact ((moves quality position isSlot).counted (counted quality position)).1
  stamps := fun isUnlocked => nomatch isUnlocked

/-- Whatever the consumers do meanwhile, an attempt to lock a slot locks it in both
controls or has no effect. -/
theorem tryLockSlot_lockLaw {slot : Fin slots} {expectedTimeStamp : EventTimeStamp}
    {ended : Option Bool} (counted : AllCounted memory)
    (ends : SkeletonRuns ampChecked (tryLockSlot slot expectedTimeStamp) memory performed ended
      after) :
    ∃ locked, ended = some locked ∧ LockLaw memory after slot locked := by
  rw [tryLockSlot] at ends
  obtain ⟨readQm, _, movedQm, ends⟩ := skeletonLoad_cases ends
  obtain ⟨readB, _, movedB, ends⟩ := skeletonLoad_cases ends
  have untilRead := movedQm.trans movedB
  dsimp only at ends
  split at ends
  · obtain ⟨_, returned, moved⟩ := ends
    refine ⟨false, returned, .unlocked counted fun quality position => ?_⟩
    exact consumerMoves_of_steps (untilRead.trans moved) quality position
  · rename_i usable
    simp only [Bool.or_eq_true, not_or, Bool.not_eq_true] at usable
    obtain ⟨⟨unusedQm, _⟩, unusedB, _⟩ := usable
    obtain ⟨found, _, movedFound, ends⟩ := compareExchangeStrong_cases ends
    have untilFound := consumerMoves_of_steps (untilRead.trans movedFound)
    rcases ends with ⟨wordQm, ends⟩ | ends
    · rw [if_pos rfl] at ends
      have countedFound := counted.of_moves untilFound
      have noReferenceQm := countedFound.references_eq_zero wordQm unusedQm
      have stateQm : slotState found .asilQm slot =
          ((readQm.status .asilQm slot).data, 0) := Prod.ext wordQm noReferenceQm
      obtain ⟨foundB, _, movedB, ends⟩ := compareExchangeStrong_cases ends
      -- nobody can reference the slot while its QM word is in writing
      have heldQm : slotState foundB .asilQm slot = (inWriting, 0) := by
        have moves := consumerMoves_of_steps movedB .asilQm slot
        rw [slotState_setSlot_self, noReferenceQm] at moves
        exact moves.of_inWriting
      have elsewhere : ∀ quality position, quality ≠ .asilQm ∨ position ≠ slot →
          ConsumerMoves (slotState memory quality position)
            (slotState foundB quality position) := by
        intro quality position distinct
        have moves := consumerMoves_of_steps movedB quality position
        rw [slotState_setSlot_of_ne distinct] at moves
        exact (untilFound quality position).trans moves
      rcases ends with ⟨wordB, ends⟩ | ends
      · rw [if_pos rfl] at ends
        obtain ⟨_, returned, moved⟩ := ends
        have countedB : Counted (slotState foundB .asilB slot).1
            (slotState foundB .asilB slot).2 :=
          ((elsewhere .asilB slot (.inl (by decide))).counted (counted .asilB slot)).1
        have unused : (EventSlotStatus.mk (slotState foundB .asilB slot).1).getReferenceCount =
            0 := by
          change (EventSlotStatus.mk (foundB.status .asilB slot).data).getReferenceCount = 0
          rw [wordB]
          simpa [isUsed] using And.left (Bool.or_eq_false_iff.mp unusedB)
        have noReferenceB : foundB.references .asilB slot = 0 := countedB.unreferenced unused
        have held : ∀ quality, slotState after quality slot = (inWriting, 0) := by
          intro quality
          have moves := consumerMoves_of_steps moved quality slot
          cases quality with
          | asilQm =>
              rw [slotState_setSlot_of_ne (.inl (by decide)), heldQm] at moves
              exact moves.of_inWriting
          | asilB =>
              rw [slotState_setSlot_self, noReferenceB] at moves
              exact moves.of_inWriting
        have moves : ∀ quality position, position ≠ slot →
            ConsumerMoves (slotState memory quality position)
              (slotState after quality position) := by
          intro quality position distinct
          have last := consumerMoves_of_steps moved quality position
          rw [slotState_setSlot_of_ne (.inr distinct)] at last
          exact (elsewhere quality position (.inr distinct)).trans last
        refine ⟨true, returned, .locked counted held moves⟩
      · rw [if_neg Bool.false_ne_true] at ends
        obtain ⟨last, _, movedLast, ends⟩ := skeletonStore_cases ends
        obtain ⟨_, returned, moved⟩ := ends
        have heldLast : slotState last .asilQm slot = (inWriting, 0) := by
          have moves := consumerMoves_of_steps movedLast .asilQm slot
          rw [heldQm] at moves
          exact moves.of_inWriting
        refine ⟨false, returned, .unlocked counted fun quality position => ?_⟩
        have moves := consumerMoves_of_steps moved quality position
        by_cases isLocked : quality = .asilQm ∧ position = slot
        · obtain ⟨rfl, rfl⟩ := isLocked
          -- the store brings back what the compare-exchange found
          have noReference : last.references .asilQm position = 0 := congrArg Prod.snd heldLast
          rw [slotState_setSlot_self, noReference, ← stateQm] at moves
          exact (untilFound .asilQm position).trans moves
        · have distinct : quality ≠ .asilQm ∨ position ≠ slot := by
            by_contra same
            rw [not_or, not_not, not_not] at same
            exact isLocked same
          rw [slotState_setSlot_of_ne distinct] at moves
          exact (elsewhere quality position distinct).trans
            ((consumerMoves_of_steps movedLast quality position).trans moves)
    · rw [if_neg Bool.false_ne_true] at ends
      obtain ⟨_, returned, moved⟩ := ends
      refine ⟨false, returned, .unlocked counted fun quality position => ?_⟩
      exact (untilFound quality position).trans (consumerMoves_of_steps moved quality position)

/-! ## Attempts on one slot -/

/-- Reading a word while nobody moves. -/
theorem skeletonLoad_runs {next : StatusWord → SkeletonProgram slots LogIndex α} {ended : Option α}
    (continued : ∃ performed, SkeletonRuns ampChecked
      (next (memory.status quality slot).data) memory performed ended after) :
    ∃ performed, SkeletonRuns ampChecked (SkeletonProgram.load quality slot >>= next) memory
      performed ended after := by
  obtain ⟨performed, runs⟩ := continued
  refine ⟨_, memory, .refl, .inr ⟨_, memory, performed, ?_, rfl, runs⟩⟩
  change _ ∈ [(_, memory.setControl quality (memory.control quality))]
  rw [SkeletonMemory.setControl_self]
  exact List.mem_singleton_self _

/-- A compare-exchange that finds what it expects. -/
theorem compareExchangeStrong_runs {expected desired : StatusWord}
    {next : Bool → SkeletonProgram slots LogIndex α} {ended : Option α}
    (found : (memory.status quality slot).data = expected)
    (continued : ∃ performed, SkeletonRuns ampChecked (next true)
      (memory.setControl quality ((memory.control quality).setSlot slot desired)) performed ended
      after) :
    ∃ performed, SkeletonRuns ampChecked
      (SkeletonProgram.compareExchangeStrong quality slot expected desired >>= next) memory
      performed ended after := by
  obtain ⟨performed, runs⟩ := continued
  have single : (ControlOp.compareExchangeStrong slot expected desired).outcomes ampChecked
      (memory.control quality) = [(true, (memory.control quality).setSlot slot desired)] :=
    if_pos found
  refine ⟨_, memory, .refl, .inr ⟨true, _, performed, ?_, rfl, runs⟩⟩
  rw [SkeletonOp.outcomes, single]
  exact List.mem_singleton_self _

/-- A compare-exchange that comes after a consumer has moved. -/
theorem compareExchangeStrong_late {expected desired : StatusWord}
    {found : SkeletonMemory slots LogIndex} {next : Bool → SkeletonProgram slots LogIndex α}
    {ended : Option α} (moved : ConsumerStep memory found)
    (isOther : (found.status quality slot).data ≠ expected)
    (continued : ∃ performed, SkeletonRuns ampChecked (next false) found performed ended after) :
    ∃ performed, SkeletonRuns ampChecked
      (SkeletonProgram.compareExchangeStrong quality slot expected desired >>= next) memory
      performed ended after := by
  obtain ⟨performed, runs⟩ := continued
  have single : (ControlOp.compareExchangeStrong slot expected desired).outcomes ampChecked
      (found.control quality) = [(false, found.control quality)] := if_neg isOther
  refine ⟨_, found, .single moved, .inr ⟨false, found, performed, ?_, rfl, runs⟩⟩
  rw [SkeletonOp.outcomes, single]
  exact List.mem_singleton.mpr (congrArg _ (SkeletonMemory.setControl_self _ _).symm)

/-- A store while nobody moves. -/
theorem skeletonStore_runs {word : StatusWord} {next : Unit → SkeletonProgram slots LogIndex α}
    {ended : Option α}
    (continued : ∃ performed, SkeletonRuns ampChecked (next ())
      (memory.setControl quality ((memory.control quality).setSlot slot word)) performed ended
      after) :
    ∃ performed, SkeletonRuns ampChecked (SkeletonProgram.store quality slot word >>= next) memory
      performed ended after := by
  obtain ⟨performed, runs⟩ := continued
  exact ⟨_, memory, .refl, .inr ⟨(), _, performed, List.mem_singleton_self _, rfl, runs⟩⟩

end Lock

/-- The slot is locked. -/
theorem tryLockSlot_runs :
    ∃ after performed, SkeletonRuns true (tryLockSlot 0 0) (.new : SkeletonMemory 1 Empty)
      performed (some true) after := by
  let lockedQm := (SkeletonMemory.new : SkeletonMemory 1 Empty).setControl .asilQm
    (((SkeletonMemory.new : SkeletonMemory 1 Empty).control .asilQm).setSlot 0
      inWriting)
  refine ⟨lockedQm.setControl .asilB ((lockedQm.control .asilB).setSlot 0 inWriting), ?_⟩
  rw [tryLockSlot]
  apply skeletonLoad_runs
  apply skeletonLoad_runs
  dsimp only
  rw [if_neg (by decide)]
  apply compareExchangeStrong_runs rfl
  rw [if_pos rfl]
  apply compareExchangeStrong_runs rfl
  rw [if_pos rfl]
  exact ⟨[], rfl, rfl, .refl⟩

/-- A sample in both controls, and its references. -/
def sampleMemory (references : QualityType → Nat) : SkeletonMemory 1 Empty where
  control quality :=
    { stateSlots := fun _ =>
        (ofTimeStamp 2 (BitVec.ofNat 32 (references quality))).data
      transactionLogs := Empty.elim
      currentSubscriptionState := 0 }
  references quality _ := references quality

/-- Between the two exchanges an ASIL-B consumer references the sample, and the lock on
the QM control is rolled back. -/
theorem tryLockSlot_rollsBack :
    ∃ after performed, SkeletonRuns true (tryLockSlot 0 2) (sampleMemory fun _ => 0) performed
      (some false) after ∧ after.references .asilB 0 = 1 := by
  let memory := sampleMemory fun _ => 0
  let lockedQm := memory.setControl .asilQm
    ((memory.control .asilQm).setSlot 0 inWriting)
  let referenced : SkeletonMemory 1 Empty :=
    { lockedQm.setControl .asilB ((lockedQm.control .asilB).setSlot 0
        (ofTimeStamp 2 1).data) with
      references := fun quality _ => if quality = .asilB then 1 else 0 }
  have moved : ConsumerStep lockedQm referenced := by
    intro quality slot
    cases Subsingleton.elim slot 0
    cases quality with
    | asilQm => exact .inl ⟨rfl, rfl⟩
    | asilB => exact .inr (.inl (by decide))
  refine ⟨referenced.setControl .asilQm ((referenced.control .asilQm).setSlot 0
    (ofTimeStamp 2 0).data), ?_⟩
  rw [exists_and_right]
  refine ⟨?_, rfl⟩
  rw [tryLockSlot]
  apply skeletonLoad_runs
  apply skeletonLoad_runs
  dsimp only
  rw [if_neg (by decide)]
  apply compareExchangeStrong_runs rfl
  rw [if_pos rfl]
  apply compareExchangeStrong_late moved (by decide)
  rw [if_neg Bool.false_ne_true]
  apply skeletonStore_runs
  exact ⟨[], rfl, rfl, .refl⟩

theorem lockLaw_of_sample :
    ∃ after performed, SkeletonRuns true (tryLockSlot 0 2) (sampleMemory fun _ => 0) performed
        (some false) after ∧ after.references .asilB 0 = 1 ∧
      ∃ locked, some false = some locked ∧ LockLaw (sampleMemory fun _ => 0) after 0 locked := by
  obtain ⟨after, performed, runs, isReferenced⟩ := tryLockSlot_rollsBack
  have stamped : Counted (ofTimeStamp 2 0).data 0 := .inr (.inr ⟨by decide, by decide, by decide⟩)
  have counted : AllCounted (sampleMemory fun _ => 0) := fun _ _ => stamped
  exact ⟨after, performed, runs, isReferenced, tryLockSlot_lockLaw counted runs⟩

/-- The word of a locked slot is a sentinel, whose reference count is not zero but the
highest one. -/
theorem lockLaw_violated :
    ¬∀ (slots : Nat) (memory after : SkeletonMemory slots Empty) (slot : Fin slots)
      (expectedTimeStamp : EventTimeStamp) (ended : Option Bool)
      (performed : List (Performed (SkeletonOp slots Empty) SkeletonOp.Ret
        (SkeletonMemory slots Empty))),
      AllCounted memory →
        SkeletonRuns true (tryLockSlot slot expectedTimeStamp) memory performed ended after →
          ∃ locked, ended = some locked ∧ LockLaw memory after slot locked ∧
            (locked = true → ∀ quality, (after.status quality slot).getReferenceCount = 0) := by
  intro claimed
  obtain ⟨after, performed, runs⟩ := tryLockSlot_runs
  obtain ⟨locked, isLocked, law, unreferenced⟩ :=
    claimed 1 .new after 0 0 (some true) performed allCounted_new runs
  cases isLocked
  have word := isInWriting_iff.mp (law.locks rfl .asilQm).1
  have counted := unreferenced rfl .asilQm
  rw [getReferenceCount, word] at counted
  exact absurd counted (by decide)

end Amid

end MwCom.Lola
