/-
Module: MwCom.Lola.MultiSlotAllocation
Purpose: When an allocation without interference finds a slot that it can lock
  in both controls of an event.
Trusted boundary: none
Main exports: FirstOldest, Lockable, AllocatesInBoth,
  allocateNextSlot_allocatesInBoth_iff
-/
import Mathlib.Order.Fin.Basic
import MwCom.Lola.EventDataControlComposite

namespace MwCom.Lola

open Interleaving Program SkeletonProgram EventDataControlComposite EventSlotStatus

variable {slots : Nat} {LogIndex : Type}

section Memory

variable (memory : SkeletonMemory slots LogIndex)

/-- A slot nobody uses in either control. -/
def FreeInBoth (slot : Fin slots) : Prop := ∀ quality, (memory.status quality slot).isUsed = false

/-- The slots the search looks at: invalid for ASIL-B, or not used at all. -/
def Considered (slot : Fin slots) : Prop := (memory.status .asilB slot).isInvalid = true ∨
    ((memory.status .asilQm slot).isUsed = false ∧ (memory.status .asilB slot).isUsed = false)

/-- The first of the slots the search looks at that have the lowest ASIL-B
timestamp. -/
structure FirstOldest (slot : Fin slots) : Prop where
  considered : Considered memory slot
  stamped : (memory.status .asilB slot).getTimeStamp < timestampMax
  oldest : ∀ other, Considered memory other → (memory.status .asilB slot).getTimeStamp ≤
      (memory.status .asilB other).getTimeStamp
  first : ∀ other, other < slot → Considered memory other →
    (memory.status .asilB slot).getTimeStamp < (memory.status .asilB other).getTimeStamp

/-- The QM control lets the slot go. -/
def Lockable (slot : Fin slots) : Prop := (memory.status .asilQm slot).isUsed = false ∧
    (memory.status .asilQm slot).getTimeStamp ≤ (memory.status .asilB slot).getTimeStamp

instance (slot : Fin slots) : Decidable (FreeInBoth memory slot) := decidable_of_iff
    ((memory.status .asilQm slot).isUsed = false ∧ (memory.status .asilB slot).isUsed = false)
    ⟨fun both quality => by cases quality <;> simp [both], fun free => ⟨free .asilQm, free .asilB⟩⟩

instance (slot : Fin slots) : Decidable (Considered memory slot) :=
  inferInstanceAs (Decidable (_ ∨ _))

instance (slot : Fin slots) : Decidable (FirstOldest memory slot) := decidable_of_iff
    (Considered memory slot ∧ (memory.status .asilB slot).getTimeStamp < timestampMax ∧
      (∀ other, Considered memory other → (memory.status .asilB slot).getTimeStamp ≤
          (memory.status .asilB other).getTimeStamp) ∧
      ∀ other, other < slot → Considered memory other → (memory.status .asilB slot).getTimeStamp <
          (memory.status .asilB other).getTimeStamp)
    ⟨fun parts => ⟨parts.1, parts.2.1, parts.2.2.1, parts.2.2.2⟩,
      fun found => ⟨found.considered, found.stamped, found.oldest, found.first⟩⟩

instance (slot : Fin slots) : Decidable (Lockable memory slot) :=
  inferInstanceAs (Decidable (_ ∧ _))

end Memory

variable {memory : SkeletonMemory slots LogIndex}

/-- There is at most one such slot. -/
theorem FirstOldest.unique {slot other : Fin slots}
    (one : FirstOldest memory slot) (two : FirstOldest memory other) :
    slot = other := by
  have oneLow := one.oldest other two.considered
  have twoLow := two.oldest slot one.considered
  rcases lt_trichotomy slot other with before | same | behind
  · have strict := two.first slot before one.considered
    exact absurd oneLow (BitVec.not_le.mpr strict)
  · exact same
  · have strict := one.first other behind two.considered
    exact absurd twoLow (BitVec.not_le.mpr strict)

/-! ## The search -/

/-- What the search knows after the slots `passed`. -/
structure Passed (memory : SkeletonMemory slots LogIndex)
    (passed : List (Fin slots)) (oldestTimeStamp : EventTimeStamp)
    (possibleIndex : Option (Fin slots)) : Prop where
  lowest : ∀ other ∈ passed, Considered memory other →
    oldestTimeStamp ≤ (memory.status .asilB other).getTimeStamp
  nothing : possibleIndex = none → oldestTimeStamp = timestampMax
  found : ∀ slot, possibleIndex = some slot → slot ∈ passed ∧ Considered memory slot ∧
      oldestTimeStamp = (memory.status .asilB slot).getTimeStamp ∧
      oldestTimeStamp < timestampMax ∧
      ∀ other ∈ passed, other < slot → Considered memory other →
        oldestTimeStamp < (memory.status .asilB other).getTimeStamp

namespace Passed

/-- Nothing passed yet. -/
theorem nil : Passed memory [] timestampMax none where
  lowest := by simp
  nothing := fun _ => rfl
  found := by simp

variable {passed : List (Fin slots)} {slot : Fin slots}
  {oldestTimeStamp : EventTimeStamp} {possibleIndex : Option (Fin slots)}

/-- The bound never exceeds the highest timestamp. -/
theorem bounded (known : Passed memory passed oldestTimeStamp possibleIndex) :
    oldestTimeStamp ≤ timestampMax := by
  cases possibleIndex with
  | none => exact BitVec.le_of_eq (known.nothing rfl)
  | some slot =>
      obtain ⟨_, _, _, below, _⟩ := known.found slot rfl
      exact BitVec.le_of_lt below

/-- The next slot becomes the candidate. -/
theorem select (known : Passed memory passed oldestTimeStamp possibleIndex)
    (considered : Considered memory slot)
    (older : (memory.status .asilB slot).getTimeStamp < oldestTimeStamp) :
    Passed memory (passed ++ [slot])
      (memory.status .asilB slot).getTimeStamp (some slot) where
  lowest := by
    intro other member seen
    rcases List.mem_append.mp member with before | last
    · exact Nat.le_of_lt (Nat.lt_of_lt_of_le older (known.lowest other before seen))
    · cases List.mem_singleton.mp last
      exact BitVec.le_refl _
  nothing := by simp
  found := by
    intro selected isSlot
    cases isSlot
    have below := Nat.lt_of_lt_of_le older known.bounded
    refine ⟨by simp, considered, rfl, below, ?_⟩
    intro other member earlier seen
    rcases List.mem_append.mp member with before | last
    · exact Nat.lt_of_lt_of_le older (known.lowest other before seen)
    · cases List.mem_singleton.mp last
      exact absurd earlier (lt_irrefl _)

/-- The next slot changes nothing. -/
theorem skip (known : Passed memory passed oldestTimeStamp possibleIndex)
    (behind : ∀ other ∈ passed, other < slot) (kept : Considered memory slot →
      oldestTimeStamp ≤ (memory.status .asilB slot).getTimeStamp) :
    Passed memory (passed ++ [slot]) oldestTimeStamp possibleIndex where
  lowest := by
    intro other isMember seen
    rcases List.mem_append.mp isMember with before | last
    · exact known.lowest other before seen
    · cases List.mem_singleton.mp last
      exact kept seen
  nothing := known.nothing
  found := by
    intro selected isSelected
    obtain ⟨member, considered, stamp, below, first⟩ := known.found selected isSelected
    refine ⟨List.mem_append_left _ member, considered, stamp, below, ?_⟩
    intro other isMember earlier seen
    rcases List.mem_append.mp isMember with before | last
    · exact first other before earlier seen
    · cases List.mem_singleton.mp last
      exact absurd earlier (lt_asymm (behind selected member))

/-- What is known after all slots. -/
theorem firstOldest (known : Passed memory (List.finRange slots) oldestTimeStamp (some slot)) :
    FirstOldest memory slot ∧ oldestTimeStamp = (memory.status .asilB slot).getTimeStamp := by
  obtain ⟨_, considered, stamp, below, first⟩ := known.found slot rfl
  subst stamp
  refine ⟨⟨considered, below, ?_, ?_⟩, rfl⟩
  · intro other seen
    exact known.lowest other (List.mem_finRange other) seen
  · intro other earlier seen
    exact first other (List.mem_finRange other) earlier seen

theorem no_firstOldest (known : Passed memory (List.finRange slots) oldestTimeStamp none) :
    ¬ FirstOldest memory slot := by
  intro found
  have lowest := known.lowest slot (List.mem_finRange slot) found.considered
  rw [known.nothing rfl] at lowest
  exact absurd found.stamped (BitVec.not_lt.mpr lowest)

end Passed

section Allocation

variable [DecidableEq LogIndex] {ampChecked : Bool}

/-- Reading a status word. -/
theorem load_outcomes (quality : QualityType) (slot : Fin slots) :
    (SkeletonOp.control quality (.load slot) :
      SkeletonOp slots LogIndex).outcomes ampChecked memory =
      [((memory.status quality slot).data, memory)] := by
  change [(_, memory.setControl quality (memory.control quality))] = _
  rw [SkeletonMemory.setControl_self]
  rfl

/-- The search reads only, and ends with all slots passed. -/
theorem getNextFreeMultiSlotAmong_endsOnly (among : List (Fin slots)) :
    ∀ (passed : List (Fin slots)) (oldestTimeStamp : EventTimeStamp)
      (possibleIndex : Option (Fin slots)),
      passed ++ among = List.finRange slots →
      Passed memory passed oldestTimeStamp possibleIndex → ∃ lowest selected,
          Passed memory (List.finRange slots) lowest selected ∧
            EndsOnly (SkeletonOp.outcomes ampChecked)
              (getNextFreeMultiSlotAmong among oldestTimeStamp possibleIndex)
              memory (selected.map fun slot => (slot, lowest)) memory := by
  induction among with
  | nil =>
      intro passed oldestTimeStamp possibleIndex whole known
      rw [List.append_nil] at whole
      subst whole
      refine ⟨oldestTimeStamp, possibleIndex, known, ?_⟩
      cases possibleIndex with
      | none | some slot => exact .done _
  | cons slot rest ih =>
      intro passed oldestTimeStamp possibleIndex whole known
      have regrouped : (passed ++ [slot]) ++ rest = List.finRange slots := by
        rw [← whole, List.append_assoc, List.singleton_append]
      have behind : ∀ other ∈ passed, other < slot := by
        have sorted := List.pairwise_lt_finRange slots
        rw [← whole, List.pairwise_append] at sorted
        intro other member
        exact sorted.2.2 other member slot (List.mem_cons_self)
      have looks : (((memory.status .asilB slot).isInvalid ||
          (!(memory.status .asilQm slot).isUsed && !(memory.status .asilB slot).isUsed)) &&
          decide ((memory.status .asilB slot).getTimeStamp < oldestTimeStamp)) = true ↔
          Considered memory slot ∧ (memory.status .asilB slot).getTimeStamp < oldestTimeStamp := by
        simp [Considered]
      rw [getNextFreeMultiSlotAmong]
      by_cases taken : Considered memory slot ∧
          (memory.status .asilB slot).getTimeStamp < oldestTimeStamp
      · obtain ⟨lowest, selected, all, ended⟩ := ih _ _ _ regrouped (known.select taken.1 taken.2)
        refine ⟨lowest, selected, all, ?_⟩
        refine .step (load_outcomes .asilQm slot) (.step (load_outcomes .asilB slot) ?_)
        change EndsOnly _ (ite _ _ _) _ _ _
        rw [if_pos (looks.mpr taken)]
        exact ended
      · have kept : Considered memory slot →
            oldestTimeStamp ≤ (memory.status .asilB slot).getTimeStamp := by
          intro seen
          exact BitVec.not_lt.mp fun older => taken ⟨seen, older⟩
        obtain ⟨lowest, selected, all, ended⟩ := ih _ _ _ regrouped (known.skip behind kept)
        refine ⟨lowest, selected, all, ?_⟩
        refine .step (load_outcomes .asilQm slot) (.step (load_outcomes .asilB slot) ?_)
        change EndsOnly _ (ite _ _ _) _ _ _
        rw [if_neg (mt looks.mp taken)]
        exact ended

/-- The search finds the first of the oldest slots, if there is one. -/
theorem getNextFreeMultiSlot_endsOnly : ∃ found : Option (Fin slots),
      (∀ slot, found = some slot ↔ FirstOldest memory slot) ∧
        EndsOnly (SkeletonOp.outcomes ampChecked) getNextFreeMultiSlot memory
          (found.map fun slot =>
            (slot, (memory.status .asilB slot).getTimeStamp)) memory := by
  obtain ⟨lowest, selected, known, ended⟩ :=
    @getNextFreeMultiSlotAmong_endsOnly _ _ memory _ ampChecked
      (List.finRange slots) [] _ none rfl .nil
  refine ⟨selected, ?_, ?_⟩
  · intro slot
    constructor
    · intro isSlot
      subst isSlot
      exact known.firstOldest.1
    · intro found
      cases selected with
      | none => exact absurd found known.no_firstOldest
      | some other => rw [known.firstOldest.1.unique found]
  · cases selected with
    | none => exact ended
    | some slot =>
        rw [known.firstOldest.2] at ended
        exact ended

/-! ## The lock -/

/-- Both words of a slot are in writing. -/
def lockSlot (memory : SkeletonMemory slots LogIndex) (slot : Fin slots) :
    SkeletonMemory slots LogIndex :=
  (memory.setControl .asilQm ((memory.control .asilQm).setSlot slot inWriting)).setControl .asilB
    ((memory.control .asilB).setSlot slot inWriting)

omit [DecidableEq LogIndex] in
theorem status_lockSlot (slot : Fin slots) (quality : QualityType) :
    ((lockSlot memory slot).status quality slot).data = inWriting := by
  cases quality <;>
    simp [lockSlot, SkeletonMemory.status, SkeletonMemory.setControl]

/-- A strong compare-exchange that finds what it expects. -/
theorem compareExchangeStrong_outcomes (quality : QualityType) (slot : Fin slots)
    {expected desired : StatusWord} (found : (memory.status quality slot).data = expected) :
    (SkeletonOp.control quality (.compareExchangeStrong slot expected desired) :
      SkeletonOp slots LogIndex).outcomes ampChecked memory =
      [(true, memory.setControl quality ((memory.control quality).setSlot slot desired))] := by
  have single : (ControlOp.compareExchangeStrong slot expected desired).outcomes
      ampChecked (memory.control quality) =
        [(true, (memory.control quality).setSlot slot desired)] :=
    if_pos found
  rw [SkeletonOp.outcomes, single]
  rfl

variable {slot : Fin slots}

/-- The candidate is locked in both controls if the QM control lets it go. -/
theorem tryLockSlot_locks (unused : (memory.status .asilB slot).isUsed = false)
    (lockable : Lockable memory slot) :
    EndsOnly (SkeletonOp.outcomes ampChecked)
      (tryLockSlot slot (memory.status .asilB slot).getTimeStamp) memory true
      (lockSlot memory slot) := by
  obtain ⟨unusedQm, notLater⟩ := lockable
  have passes : ¬ (((memory.status .asilQm slot).isUsed ||
        decide ((memory.status .asilQm slot).getTimeStamp >
          (memory.status .asilB slot).getTimeStamp)) ||
      ((memory.status .asilB slot).isUsed || decide ((memory.status .asilB slot).getTimeStamp >
          (memory.status .asilB slot).getTimeStamp))) = true := by
    simpa [unused, unusedQm, BitVec.not_lt] using notLater
  rw [tryLockSlot]
  refine .step (load_outcomes .asilQm slot) (.step (load_outcomes .asilB slot) ?_)
  change EndsOnly _ (ite _ _ _) _ _ _
  rw [if_neg passes]
  refine .step (compareExchangeStrong_outcomes .asilQm slot rfl) ?_
  refine .step (compareExchangeStrong_outcomes .asilB slot ?_) (.done _)
  simp [SkeletonMemory.status, SkeletonMemory.setControl]

theorem tryLockSlot_refuses (notLockable : ¬ Lockable memory slot) :
    EndsOnly (SkeletonOp.outcomes ampChecked)
      (tryLockSlot slot (memory.status .asilB slot).getTimeStamp) memory false
      memory := by
  have refused : (((memory.status .asilQm slot).isUsed ||
        decide ((memory.status .asilQm slot).getTimeStamp >
          (memory.status .asilB slot).getTimeStamp)) ||
      ((memory.status .asilB slot).isUsed || decide ((memory.status .asilB slot).getTimeStamp >
          (memory.status .asilB slot).getTimeStamp))) = true := by
    cases used : (memory.status .asilQm slot).isUsed with
    | true => rfl
    | false =>
        have later : (memory.status .asilQm slot).getTimeStamp >
            (memory.status .asilB slot).getTimeStamp := by
          by_contra notLater
          exact notLockable ⟨used, BitVec.not_lt.mp notLater⟩
        simp [later]
  rw [tryLockSlot]
  refine .step (load_outcomes .asilQm slot) (.step (load_outcomes .asilB slot) ?_)
  change EndsOnly _ (ite _ _ _) _ _ _
  rw [if_pos refused]
  exact .done _

/-! ## The whole allocation -/

omit [DecidableEq LogIndex] in
/-- A slot the search looks at is not used for ASIL-B. -/
theorem Considered.unused (considered : Considered memory slot) :
    (memory.status .asilB slot).isUsed = false := by
  rcases considered with isInvalid | free
  · have word := isInvalid_iff.mp isInvalid
    simp [isUsed, isInWriting, getReferenceCount, word, invalid, inWriting]
  · exact free.2

/-- One pass locks the first of the oldest slots. -/
theorem allocateMultiRetries_locks (remaining : Nat) (found : FirstOldest memory slot)
    (lockable : Lockable memory slot) :
    EndsOnly (SkeletonOp.outcomes ampChecked) (allocateMultiRetries (remaining + 1))
      memory (some slot) (lockSlot memory slot) := by
  obtain ⟨candidate, isCandidate, searched⟩ :=
    @getNextFreeMultiSlot_endsOnly _ _ memory _ ampChecked
  cases (isCandidate slot).mpr found
  rw [allocateMultiRetries]
  refine .bind searched ?_
  refine .bind (tryLockSlot_locks found.considered.unused lockable) ?_
  exact .done _

/-- No pass helps where that slot cannot be locked. -/
theorem allocateMultiRetries_fails (remaining : Nat)
    (none : ∀ slot, FirstOldest memory slot → ¬ Lockable memory slot) :
    EndsOnly (SkeletonOp.outcomes ampChecked)
      (allocateMultiRetries remaining : SkeletonProgram slots LogIndex _) memory
      Option.none memory := by
  induction remaining with
  | zero => exact .done _
  | succ remaining ih =>
      obtain ⟨candidate, isCandidate, searched⟩ :=
        @getNextFreeMultiSlot_endsOnly _ _ memory _ ampChecked
      rw [allocateMultiRetries]
      refine .bind searched ?_
      cases candidate with
      | none => exact ih
      | some slot =>
          have found := (isCandidate slot).mp rfl
          refine .bind (tryLockSlot_refuses (none slot found)) ?_
          exact ih

/-- The allocation, when no consumer moves, comes back with a slot locked in both
controls and keeps the QM control. -/
def AllocatesInBoth (ampChecked : Bool) (composite : EventDataControlComposite)
    (memory : SkeletonMemory slots LogIndex) : Prop :=
  ∃ slot after, EndsOnly (SkeletonOp.outcomes ampChecked) composite.allocateNextSlot memory
        (composite, some slot, false) after ∧
      composite.ignoreQmControl = false ∧
      ∀ quality, (after.status quality slot).data = inWriting

/-- Exactly when it does: the QM control is not ignored yet, and the QM word of
the first of the oldest slots is unused and not later than its ASIL-B word. -/
theorem allocateNextSlot_allocatesInBoth_iff {composite : EventDataControlComposite}
    (asilB : composite.asilBControl = true) :
    AllocatesInBoth ampChecked composite memory ↔ composite.ignoreQmControl = false ∧
        ∃ slot, FirstOldest memory slot ∧ Lockable memory slot := by
  constructor
  · rintro ⟨slot, after, ended, kept, _⟩
    refine ⟨kept, ?_⟩
    by_contra none
    have stuck : ∀ slot, FirstOldest memory slot → ¬ Lockable memory slot :=
      fun slot found lockable => none ⟨slot, found, lockable⟩
    have ends := ended.ends
    rw [EventDataControlComposite.allocateNextSlot, if_pos asilB,
      if_pos (by simp [kept]), ends_bind] at ends
    obtain ⟨result, middle, multi, continued⟩ := ends
    obtain ⟨rfl, rfl⟩ := (allocateMultiRetries_fails _ stuck result middle).mp multi
    obtain ⟨fallback, reached, _, returned, _⟩ := ends_bind.mp continued
    have flags := congrArg (fun triple => triple.2.2) returned
    cases flags
  · rintro ⟨kept, slot, found, lockable⟩
    refine ⟨slot, lockSlot memory slot, ?_, kept, status_lockSlot slot⟩
    rw [EventDataControlComposite.allocateNextSlot, if_pos asilB, if_pos (by simp [kept])]
    refine .bind (allocateMultiRetries_locks 99 found lockable) ?_
    rw [kept]
    exact .done _

end Allocation

end MwCom.Lola
