/-
Module: MwCom.Lola.UndisturbedAllocation
Purpose: Which slot an allocation takes while nobody else moves.
Trusted boundary: none
Main exports: steadyOutcomes, Allocatable, Victim, VictimLaw,
  allocateNextSlot_victimLaw
-/
import Mathlib.Data.Fin.Tuple.Basic
import Mathlib.Order.Fin.Basic
import MwCom.Lola.EventDataControl
import MwCom.Search.FirstLeast

namespace MwCom.Lola

namespace Undisturbed

open Interleaving Program EventDataControl Search EventSlotStatus

variable {slots : Nat} {LogIndex : Type}

/-! ## Operations that do not fail without a reason -/

/-- What an operation does where a weak compare-exchange does not fail although it
finds what it expects. -/
def steadyOutcomes [DecidableEq LogIndex] (ampChecked : Bool) :
    (op : ControlOp slots LogIndex) → EventControl slots LogIndex →
      List (op.Ret × EventControl slots LogIndex)
  | .compareExchangeWeak slot expected desired, control =>
      if control.stateSlots slot = expected then
        [(true, control.setSlot slot desired)]
      else
        [(false, control)]
  | op, control => op.outcomes ampChecked control

section Steps

variable {outcomes : (op : ControlOp slots LogIndex) → EventControl slots LogIndex →
    List (op.Ret × EventControl slots LogIndex)}

/-- A status word is read in one way, and that changes nothing. -/
def ReadsWords (outcomes : (op : ControlOp slots LogIndex) → EventControl slots LogIndex →
    List (op.Ret × EventControl slots LogIndex)) : Prop :=
  ∀ slot control, outcomes (.load slot) control = [(control.stateSlots slot, control)]

variable {control after : EventControl slots LogIndex} {slot : Fin slots} {α : Type} {result : α}

/-- Reading a status word. -/
theorem endsOnly_load (reads : ReadsWords outcomes)
    {next : StatusWord → ControlProgram slots LogIndex α}
    (continued : EndsOnly outcomes (next (control.stateSlots slot)) control result after) :
    EndsOnly outcomes (ControlProgram.load slot >>= next) control result after :=
  .step (reads slot control) continued

variable [DecidableEq LogIndex] {ampChecked : Bool}

theorem readsWords_outcomes :
    ReadsWords (ControlOp.outcomes ampChecked : (op : ControlOp slots LogIndex) → _) :=
  fun _ _ => rfl

theorem readsWords_steadyOutcomes :
    ReadsWords (steadyOutcomes ampChecked : (op : ControlOp slots LogIndex) → _) :=
  fun _ _ => rfl

/-- A compare-exchange that finds what it expects. -/
theorem endsOnly_compareExchangeWeak {expected desired : StatusWord}
    {next : Bool → ControlProgram slots LogIndex α} (found : control.stateSlots slot = expected)
    (continued : EndsOnly (steadyOutcomes ampChecked) (next true) (control.setSlot slot desired)
      result after) :
    EndsOnly (steadyOutcomes ampChecked)
      (ControlProgram.compareExchangeWeak slot expected desired >>= next) control result after :=
  .step (if_pos found) continued

end Steps

/-! ## The slot to take -/

section Slots

variable (control : EventControl slots LogIndex)

/-- The status of a slot. -/
def status (slot : Fin slots) : EventSlotStatus := ⟨control.stateSlots slot⟩

/-- Nobody reads the slot or writes to it. -/
def Unreferenced (slot : Fin slots) : Prop :=
  (status control slot).getReferenceCount = 0 ∧ (status control slot).isInWriting = false

/-- An allocation can take the slot: it is invalid, or unreferenced with a timestamp
below the highest one. -/
def Allocatable (slot : Fin slots) : Prop := (status control slot).isInvalid = true ∨
    (Unreferenced control slot ∧ (status control slot).getTimeStamp < timestampMax)

/-- The first of the unreferenced slots that have the lowest timestamp. -/
structure FirstOldest (slot : Fin slots) : Prop where
  unreferenced : Unreferenced control slot
  below : (status control slot).getTimeStamp < timestampMax
  oldest : ∀ other, Unreferenced control other →
    (status control slot).getTimeStamp ≤ (status control other).getTimeStamp
  first : ∀ other, other < slot → Unreferenced control other →
    (status control slot).getTimeStamp < (status control other).getTimeStamp

/-- The slot an allocation has to take: the first invalid one, or, without an invalid one,
the first of the oldest. -/
def Victim (slot : Fin slots) : Prop := ((status control slot).isInvalid = true ∧
      ∀ other, other < slot → (status control other).isInvalid = false) ∨
    ((∀ other, (status control other).isInvalid = false) ∧ FirstOldest control slot)

/-- What an allocation makes of the slots. -/
structure VictimLaw (result : Option (Fin slots)) (after : EventControl slots LogIndex) : Prop where
  /-- It returns the slot to take. -/
  picks : ∀ slot, result = some slot ↔ Victim control slot
  /-- The word of that slot is in writing, nothing else has changed. -/
  marks : ∀ slot, result = some slot → after = control.setSlot slot inWriting
  /-- It returns nothing exactly where no slot can be taken. -/
  refuses : result = none ↔ ∀ slot, ¬Allocatable control slot
  keeps : result = none → after = control

end Slots

/-! ## The search -/

section Search

variable {control : EventControl slots LogIndex}

/-- The test of the search for a slot that is not invalid. -/
def searchable (control : EventControl slots LogIndex) (slot : Fin slots) : Bool :=
  (status control slot).getReferenceCount == 0 && !(status control slot).isInWriting

/-- The timestamp as a number. -/
def stamp (control : EventControl slots LogIndex) (slot : Fin slots) : Nat :=
  (status control slot).getTimeStamp.toNat

variable {slot : Fin slots}

theorem searchable_iff : searchable control slot = true ↔ Unreferenced control slot := by
  simp [searchable, Unreferenced]

/-- What the search returns: the first invalid slot, or what a scan of the timestamps
finds. -/
def found (control : EventControl slots LogIndex) (among : List (Fin slots)) (oldest : Nat)
    (selected : Option (Fin slots)) : Option (Fin slots) :=
  (among.find? fun slot => (status control slot).isInvalid).or
    (scan (searchable control) (stamp control) among oldest selected).2

theorem found_cons_invalid {rest : List (Fin slots)} {oldest : Nat}
    {selected : Option (Fin slots)} (invalid : (status control slot).isInvalid = true) :
    found control (slot :: rest) oldest selected = some slot := by
  simp [found, invalid]

theorem found_cons {rest : List (Fin slots)} {oldest : Nat} {selected : Option (Fin slots)}
    (valid : (status control slot).isInvalid = false) :
    found control (slot :: rest) oldest selected =
      if searchable control slot && decide (stamp control slot < oldest) then
        found control rest (stamp control slot) (some slot)
      else
        found control rest oldest selected := by
  simp only [found, List.find?_cons, valid, scan]
  split
  · rfl
  · rfl

theorem findOldestUnusedSlotAmong_endsOnly {outcomes : (op : ControlOp slots LogIndex) →
      EventControl slots LogIndex → List (op.Ret × EventControl slots LogIndex)}
    (reads : ReadsWords outcomes) (among : List (Fin slots)) (oldestTimeStamp : EventTimeStamp)
    (selectedIndex : Option (Fin slots)) :
    EndsOnly outcomes (findOldestUnusedSlotAmong among oldestTimeStamp selectedIndex) control
      (found control among oldestTimeStamp.toNat selectedIndex) control := by
  induction among generalizing oldestTimeStamp selectedIndex with
  | nil => exact .done _
  | cons slot rest ih =>
      rw [findOldestUnusedSlotAmong]
      apply endsOnly_load reads
      change EndsOnly _ (if (status control slot).isInvalid = true then _ else _) _ _ _
      cases invalid : (status control slot).isInvalid with
      | true =>
          rw [found_cons_invalid invalid]
          exact .done _
      | false =>
          rw [found_cons invalid]
          change EndsOnly _ (if (searchable control slot &&
            decide (stamp control slot < oldestTimeStamp.toNat)) = true then _ else _) _ _ _
          split
          · exact ih _ _
          · exact ih _ _

/-- The first of the oldest slots is what a scan of all timestamps finds. -/
theorem firstOldest_iff : FirstOldest control slot ↔
      FirstLeast (searchable control) (stamp control) (List.finRange slots) slot ∧
        stamp control slot < timestampMax.toNat := by
  rw [FirstLeast.iff_of_sorted (List.pairwise_lt_finRange slots)]
  simp only [List.mem_finRange, true_and, forall_true_left, searchable_iff]
  constructor
  · intro found
    exact ⟨⟨found.unreferenced, found.oldest, found.first⟩, found.below⟩
  · rintro ⟨⟨unreferenced, oldest, first⟩, below⟩
    exact ⟨unreferenced, below, oldest, first⟩

theorem FirstOldest.unique {other : Fin slots} (one : FirstOldest control slot)
    (two : FirstOldest control other) : slot = other :=
  (firstOldest_iff.mp one).1.unique (List.pairwise_lt_finRange slots)
    (firstOldest_iff.mp two).1

/-- Where no slot is invalid, the scan finds the first of the oldest. -/
theorem scan_eq_some_iff : (scan (searchable control) (stamp control) (List.finRange slots)
        timestampMax.toNat none).2 = some slot ↔
      FirstOldest control slot := by
  rcases scan_cases (searchable control) (stamp control) (List.finRange slots)
      timestampMax.toNat none with kept | found
  · obtain ⟨same, noneBelow⟩ := kept
    rw [same]
    constructor
    · intro other
      cases other
    · intro found
      have notBelow := noneBelow slot (List.mem_finRange slot)
        (searchable_iff.mpr found.unreferenced)
      exact absurd found.below (BitVec.not_lt.mpr notBelow)
  · obtain ⟨other, least, below, same⟩ := found
    have isOldest := firstOldest_iff.mpr ⟨least, below⟩
    rw [same, Option.some_inj]
    constructor
    · intro isSlot
      exact isSlot ▸ isOldest
    · exact isOldest.unique

/-- The search finds the slot to take. -/
theorem found_eq_some_iff :
    found control (List.finRange slots) timestampMax.toNat none = some slot ↔
      Victim control slot := by
  rw [found, ← Fin.find?_eq_find?_finRange]
  cases invalid : Fin.find? fun slot => (status control slot).isInvalid with
  | some first =>
      have isFirst := Fin.find?_eq_some_iff.mp invalid
      rw [Option.some_or, Option.some_inj]
      constructor
      · intro same
        subst same
        exact .inl isFirst
      · rintro (other | oldest)
        · have isOther : (Fin.find? fun slot => (status control slot).isInvalid) = some slot :=
            Fin.find?_eq_some_iff.mpr other
          rw [invalid] at isOther
          exact Option.some_inj.mp isOther
        · rw [oldest.1 first] at isFirst
          cases isFirst.1
  | none =>
      have valid := Fin.find?_eq_none_iff.mp invalid
      rw [Option.none_or, scan_eq_some_iff]
      constructor
      · intro oldest
        exact .inr ⟨valid, oldest⟩
      · rintro (first | oldest)
        · rw [valid slot] at first
          cases first.1
        · exact oldest.2

/-- A slot that can be taken means that there is one to take. -/
theorem Allocatable.exists_victim (allocatable : Allocatable control slot) :
    ∃ victim, Victim control victim := by
  by_contra missing
  have nothing : found control (List.finRange slots) timestampMax.toNat none = none := by
    apply Option.eq_none_iff_forall_ne_some.mpr
    intro other isFound
    exact missing ⟨other, found_eq_some_iff.mp isFound⟩
  rw [found, Option.or_eq_none_iff, List.find?_eq_none] at nothing
  rcases allocatable with invalid | ⟨unreferenced, below⟩
  · exact nothing.1 slot (List.mem_finRange slot) invalid
  · rcases scan_cases (searchable control) (stamp control) (List.finRange slots)
      timestampMax.toNat none with kept | least
    · have notBelow := kept.2 slot (List.mem_finRange slot) (searchable_iff.mpr unreferenced)
      exact absurd below (BitVec.not_lt.mpr notBelow)
    · obtain ⟨other, _, _, same⟩ := least
      rw [same] at nothing
      cases nothing.2

theorem Victim.allocatable (victim : Victim control slot) : Allocatable control slot := by
  rcases victim with invalid | oldest
  · exact .inl invalid.1
  · exact .inr ⟨oldest.2.unreferenced, oldest.2.below⟩

/-- The slot to take can be marked at once. -/
theorem Victim.usable (victim : Victim control slot) :
    ((status control slot).getReferenceCount != 0 || (status control slot).isInWriting) =
      false := by
  rcases victim with invalid | oldest
  · have word := isInvalid_iff.mp invalid.1
    simp [isInWriting, getReferenceCount, word, EventSlotStatus.invalid, inWriting]
  · simp [oldest.2.unreferenced.1, oldest.2.unreferenced.2]

end Search

/-! ## The allocation -/

section Allocation

variable [DecidableEq LogIndex] {ampChecked : Bool} {control : EventControl slots LogIndex}

theorem findOldestUnusedSlot_endsOnly :
    EndsOnly (steadyOutcomes ampChecked) findOldestUnusedSlot control
      (found control (List.finRange slots) timestampMax.toNat none) control :=
  findOldestUnusedSlotAmong_endsOnly readsWords_steadyOutcomes _ _ _

/-- The first pass takes the slot. -/
theorem allocateRetries_takes {slot : Fin slots} (victim : Victim control slot)
    (remaining : Nat) (selectedIndex : Option (Fin slots)) :
    EndsOnly (steadyOutcomes ampChecked) (allocateRetries (remaining + 1) selectedIndex) control
      (maxAllocateRetries - remaining, some slot)
      (control.setSlot slot inWriting) := by
  have searched := @findOldestUnusedSlot_endsOnly _ _ _ ampChecked control
  rw [found_eq_some_iff.mpr victim] at searched
  rw [allocateRetries]
  refine .bind searched (endsOnly_load readsWords_steadyOutcomes ?_)
  change EndsOnly _ (if ((status control slot).getReferenceCount != 0 ||
    (status control slot).isInWriting) = true then _ else _) _ _ _
  rw [victim.usable, if_neg Bool.false_ne_true]
  exact endsOnly_compareExchangeWeak rfl (.done _)

/-- Without a slot to take every pass finds nothing. -/
theorem allocateRetries_refuses (none : ∀ slot, ¬Victim control slot) (remaining : Nat) :
    EndsOnly (steadyOutcomes ampChecked) (allocateRetries remaining Option.none) control
      (maxAllocateRetries + 1, Option.none) control := by
  have nothing : found control (List.finRange slots) timestampMax.toNat
      Option.none = Option.none := by
    apply Option.eq_none_iff_forall_ne_some.mpr
    intro slot isFound
    exact none slot (found_eq_some_iff.mp isFound)
  induction remaining with
  | zero => exact .done _
  | succ remaining ih =>
      have searched := @findOldestUnusedSlot_endsOnly _ _ _ ampChecked control
      rw [nothing] at searched
      rw [allocateRetries]
      exact .bind searched ih

/-- While nobody else moves, an allocation takes the slot it has to take, and fails only
where there is none. -/
theorem allocateNextSlot_victimLaw (ampChecked : Bool) (control : EventControl slots LogIndex) :
    ∃ result after, EndsOnly (steadyOutcomes ampChecked) allocateNextSlot control result after ∧
      VictimLaw control result after := by
  by_cases exists_victim : ∃ slot, Victim control slot
  · obtain ⟨slot, victim⟩ := exists_victim
    refine ⟨some slot, control.setSlot slot inWriting, ?_, ?_⟩
    · exact .bind (allocateRetries_takes victim maxAllocateRetries none) (.done _)
    · constructor
      · intro other
        rw [← found_eq_some_iff, found_eq_some_iff.mpr victim]
      · intro other isOther
        cases isOther
        rfl
      · constructor
        · intro isNone
          cases isNone
        · intro none
          exact absurd victim.allocatable (none slot)
      · intro isNone
        cases isNone
  · have none : ∀ slot, ¬Victim control slot := fun slot victim => exists_victim ⟨slot, victim⟩
    refine ⟨Option.none, control, ?_, ?_⟩
    · exact .bind (allocateRetries_refuses none _) (.done _)
    · constructor
      · intro slot
        constructor
        · intro isSlot
          cases isSlot
        · intro victim
          exact absurd victim (none slot)
      · intro slot isSlot
        cases isSlot
      · constructor
        · intro _ slot allocatable
          exact exists_victim allocatable.exists_victim
        · intro _
          rfl
      · intro _
        rfl

end Allocation

/-- A slot that was never written is allocated: the word in writing is a sentinel, whose
reference count is not zero but the highest one. -/
theorem victimLaw_violated : ¬∀ (slots : Nat) (control : EventControl slots Empty), ∃ result after,
        EndsOnly (steadyOutcomes true) allocateNextSlot control result after ∧
          VictimLaw control result after ∧
          ∀ slot, result = some slot → (status after slot).isInWriting = true ∧
              (status after slot).getReferenceCount = 0 := by
  intro claimed
  let control : EventControl 1 Empty :=
    { stateSlots := fun _ => invalid
      transactionLogs := Empty.elim
      currentSubscriptionState := 0 }
  obtain ⟨result, after, _, law, unreferenced⟩ := claimed 1 control
  have victim : Victim control 0 := by
    refine .inl ⟨rfl, ?_⟩
    intro other earlier
    exact absurd earlier (Fin.not_lt_zero other)
  have taken := (law.picks 0).mpr victim
  have counted := (unreferenced 0 taken).2
  rw [law.marks 0 taken, status, EventControl.stateSlots_setSlot_self] at counted
  exact absurd counted (by decide)

end Undisturbed

end MwCom.Lola
