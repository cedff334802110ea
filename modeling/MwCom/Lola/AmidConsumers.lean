/-
Module: MwCom.Lola.AmidConsumers
Purpose: Calls of a provider on the slots of an event while consumers move: what the
  consumers make of one slot, and what each operation of a call finds.
Trusted boundary: consumers are parties of the environment.
Main exports: ConsumerMoves, slotState, AllCounted, consumerMoves_of_steps,
  controlOutcomes, Runs, load_cases, compareExchangeWeak_cases
-/
import MwCom.Interleaving.Interference
import MwCom.Lola.PublishedTimestamps

namespace MwCom.Lola

namespace Amid

open Interleaving Program EventSlotStatus
open Relation (ReflTransGen)

variable {slots : Nat} {LogIndex : Type}

/-! ## What consumers make of one slot -/

/-- Consumers take references to a slot and give them back: its word and the references
to it, before and after. -/
def ConsumerMoves : StatusWord × Nat → StatusWord × Nat → Prop :=
  ReflTransGen fun before after => ReferenceStep before.1 before.2 after.1 after.2

/-- A slot of one of the controls: its word, and the references that consumers hold. -/
def slotState (memory : SkeletonMemory slots LogIndex) (quality : QualityType)
    (slot : Fin slots) : StatusWord × Nat :=
  ((memory.status quality slot).data, memory.references quality slot)

/-- In both controls the references are counted in the words. -/
def AllCounted (memory : SkeletonMemory slots LogIndex) : Prop := ∀ quality slot,
    Counted (memory.status quality slot).data (memory.references quality slot)

namespace ConsumerMoves

variable {before after : StatusWord × Nat}

/-- References stay counted, and the timestamp stays. -/
theorem counted (moved : ConsumerMoves before after) (counted : Counted before.1 before.2) :
    Counted after.1 after.2 ∧
      (EventSlotStatus.mk after.1).stage = (EventSlotStatus.mk before.1).stage := by
  induction moved with
  | refl => exact ⟨counted, rfl⟩
  | tail _ step ih =>
      obtain ⟨countedThen, sameStage⟩ := ih
      obtain ⟨countedAfter, stage⟩ := countedThen.step step
      exact ⟨countedAfter, stage.trans sameStage⟩

/-- Nobody references a slot in writing. -/
theorem of_inWriting (moved : ConsumerMoves (inWriting, 0) after) : after = (inWriting, 0) := by
  induction moved with
  | refl => rfl
  | tail _ step ih =>
      rw [ih] at step
      rcases step with ⟨_, notInWriting, _⟩ | ⟨referenced, _⟩
      · exact absurd rfl notInWriting
      · cases referenced

/-- Nobody references an invalid slot. -/
theorem of_invalid (moved : ConsumerMoves (invalid, 0) after) : after = (invalid, 0) := by
  induction moved with
  | refl => rfl
  | tail _ step ih =>
      rw [ih] at step
      rcases step with ⟨notInvalid, _⟩ | ⟨referenced, _⟩
      · exact absurd rfl notInvalid
      · cases referenced

end ConsumerMoves

/-- The words of a stage carry one timestamp. -/
theorem getTimeStamp_eq_of_stage {one two : EventSlotStatus} (same : one.stage = two.stage) :
    one.getTimeStamp = two.getTimeStamp := by
  have stamp : ∀ status : EventSlotStatus, status.getTimeStamp =
      match status.stage with
      | .readable timeStamp => timeStamp
      | _ => 0 := by
    intro status
    by_cases isInvalid : status.data = invalid
    · have word : status = ⟨invalid⟩ := congrArg EventSlotStatus.mk isInvalid
      rw [word]
      decide
    · by_cases isInWriting : status.data = inWriting
      · have word : status = ⟨inWriting⟩ := congrArg EventSlotStatus.mk isInWriting
        rw [word]
        decide
      · rw [stage_eq_readable isInvalid isInWriting]
  rw [stamp one, stamp two, same]

/-- Whatever the consumers do, each slot moves on its own. -/
theorem consumerMoves_of_steps {before after : SkeletonMemory slots LogIndex}
    (moved : ReflTransGen ConsumerStep before after) (quality : QualityType) (slot : Fin slots) :
    ConsumerMoves (slotState before quality slot) (slotState after quality slot) := by
  induction moved with
  | refl => exact .refl
  | tail _ step ih =>
      rcases step quality slot with ⟨word, references⟩ | reference
      · have same : slotState _ quality slot = slotState _ quality slot :=
          Prod.ext (congrArg EventSlotStatus.data word) references
        rw [same]
        exact ih
      · exact ih.tail reference

section Memory

variable {memory after : SkeletonMemory slots LogIndex}

/-! ### One word is set -/

section SetSlot

variable {quality other : QualityType} {slot position : Fin slots} {word : StatusWord}

theorem slotState_setSlot_self :
    slotState (memory.setControl quality ((memory.control quality).setSlot slot word)) quality
      slot = (word, memory.references quality slot) := by
  rw [slotState, SkeletonMemory.status_setControl_self, EventControl.stateSlots_setSlot_self]
  rfl

theorem slotState_setSlot_of_ne (distinct : other ≠ quality ∨ position ≠ slot) :
    slotState (memory.setControl quality ((memory.control quality).setSlot slot word)) other
      position = slotState memory other position := by
  by_cases isQuality : other = quality
  · subst isQuality
    have elsewhere := distinct.resolve_left fun differs => differs rfl
    rw [slotState, SkeletonMemory.status_setControl_self,
      EventControl.stateSlots_setSlot_of_ne _ elsewhere]
    rfl
  · rw [slotState, SkeletonMemory.status_setControl_of_ne _ isQuality]
    rfl

end SetSlot

/-- Counted references stay counted while consumers move. -/
theorem AllCounted.of_moves (counted : AllCounted memory) (moves : ∀ quality position,
      ConsumerMoves (slotState memory quality position) (slotState after quality position)) :
    AllCounted after :=
  fun quality position => ((moves quality position).counted (counted quality position)).1

/-- A word without a count has no references. -/
theorem AllCounted.references_eq_zero {quality : QualityType} {slot : Fin slots}
    {word : StatusWord} (counted : AllCounted memory)
    (found : (memory.status quality slot).data = word)
    (unused : (EventSlotStatus.mk word).isUsed = false) : memory.references quality slot = 0 := by
  have isCounted := counted quality slot
  rw [found] at isCounted
  apply isCounted.unreferenced
  simpa [isUsed] using And.left (Bool.or_eq_false_iff.mp unused)

theorem allCounted_new : AllCounted (SkeletonMemory.new : SkeletonMemory slots LogIndex) :=
  fun _ _ => .inl ⟨rfl, rfl⟩

end Memory

/-! ## What a call does to one of the controls -/

/-- The outcomes of the operations on the control of one quality. -/
def controlOutcomes [DecidableEq LogIndex] (ampChecked : Bool) (quality : QualityType)
    (op : ControlOp slots LogIndex) (memory : SkeletonMemory slots LogIndex) :
    List (op.Ret × SkeletonMemory slots LogIndex) :=
  (op.outcomes ampChecked (memory.control quality)).map fun outcome =>
    (outcome.1, memory.setControl quality outcome.2)

/-- What a call on one control performed. -/
abbrev ControlSteps (slots : Nat) (LogIndex : Type) :=
  List (Performed (ControlOp slots LogIndex) ControlOp.Ret (SkeletonMemory slots LogIndex))

section Runs

variable [DecidableEq LogIndex] {ampChecked : Bool} {quality : QualityType}
  {memory after : SkeletonMemory slots LogIndex} {performed : ControlSteps slots LogIndex}

/-- A run of a call on one control while consumers move. -/
abbrev Runs {α : Type} (ampChecked : Bool) (quality : QualityType)
    (program : ControlProgram slots LogIndex α) (memory : SkeletonMemory slots LogIndex)
    (performed : ControlSteps slots LogIndex) (ended : Option α)
    (after : SkeletonMemory slots LogIndex) : Prop :=
  program.EndsAmid (controlOutcomes ampChecked quality) ConsumerStep memory performed ended after

variable {slot : Fin slots}

/-- Reading a word always answers. -/
theorem load_cases {α : Type} {next : StatusWord → ControlProgram slots LogIndex α}
    {ended : Option α}
    (ends : Runs ampChecked quality (ControlProgram.load slot >>= next) memory performed ended
      after) :
    ∃ found later, ReflTransGen ConsumerStep memory found ∧
      performed = ⟨.load slot, found, (found.status quality slot).data⟩ :: later ∧
      Runs ampChecked quality (next (found.status quality slot).data) found later ended after := by
  obtain ⟨found, moved, stopped | continued⟩ := ends.perform_cases
  · cases stopped.1
  · obtain ⟨word, middle, later, outcome, isPerformed, continued⟩ := continued
    cases List.mem_singleton.mp outcome
    refine ⟨found, later, moved, isPerformed, ?_⟩
    change Runs ampChecked quality _ (found.setControl quality (found.control quality)) _ _ _
      at continued
    rw [SkeletonMemory.setControl_self] at continued
    exact continued

variable {expected desired : StatusWord}

/-- A weak compare-exchange swaps the word it expects, or changes nothing. -/
theorem compareExchangeWeak_cases {α : Type} {next : Bool → ControlProgram slots LogIndex α}
    {ended : Option α} (ends : Runs ampChecked quality
      (ControlProgram.compareExchangeWeak slot expected desired >>= next) memory performed ended
      after) :
    ∃ found later, ReflTransGen ConsumerStep memory found ∧
      (((found.status quality slot).data = expected ∧
          performed = ⟨.compareExchangeWeak slot expected desired, found, true⟩ :: later ∧
          Runs ampChecked quality (next true)
            (found.setControl quality ((found.control quality).setSlot slot desired)) later ended
            after) ∨
        (performed = ⟨.compareExchangeWeak slot expected desired, found, false⟩ :: later ∧
          Runs ampChecked quality (next false) found later ended after)) := by
  obtain ⟨found, moved, stopped | continued⟩ := ends.perform_cases
  · have answers := stopped.1
    rw [controlOutcomes, List.map_eq_nil_iff, ControlOp.outcomes] at answers
    split at answers
    · cases answers
    · cases answers
  · obtain ⟨won, middle, later, outcome, isPerformed, continued⟩ := continued
    obtain ⟨⟨answer, control⟩, isOutcome, same⟩ := List.mem_map.mp outcome
    cases same
    refine ⟨found, later, moved, ?_⟩
    rcases ControlOp.compareExchangeWeak_outcome isOutcome with swapped | kept
    · obtain ⟨rfl, isExpected, rfl⟩ := swapped
      exact .inl ⟨isExpected, isPerformed, continued⟩
    · obtain ⟨rfl, rfl⟩ := kept
      change Runs ampChecked quality _ (found.setControl quality (found.control quality)) _ _ _
        at continued
      rw [SkeletonMemory.setControl_self] at continued
      exact .inr ⟨isPerformed, continued⟩

theorem controlOutcomes_load : controlOutcomes ampChecked quality (.load slot) memory =
      [((memory.status quality slot).data, memory)] := by
  change [(_, memory.setControl quality (memory.control quality))] = _
  rw [SkeletonMemory.setControl_self]
  rfl

/-- A compare-exchange that finds what it expects can win. -/
theorem compareExchangeWeak_wins (found : (memory.status quality slot).data = expected) :
    (true, memory.setControl quality ((memory.control quality).setSlot slot desired)) ∈
      controlOutcomes ampChecked quality (.compareExchangeWeak slot expected desired)
        memory := by
  have both : (ControlOp.compareExchangeWeak slot expected desired).outcomes ampChecked
      (memory.control quality) =
        [(true, (memory.control quality).setSlot slot desired), (false, memory.control quality)] :=
    if_pos found
  rw [controlOutcomes, both]
  exact List.mem_cons_self

/-- A weak compare-exchange can always fail. -/
theorem compareExchangeWeak_loses : (false, memory) ∈ controlOutcomes ampChecked quality
      (.compareExchangeWeak slot expected desired) memory := by
  have fails : (false, memory.control quality) ∈
      (ControlOp.compareExchangeWeak slot expected desired).outcomes ampChecked
        (memory.control quality) := by
    rw [ControlOp.outcomes]
    split
    · exact List.mem_cons_of_mem _ (List.mem_singleton_self _)
    · exact List.mem_singleton_self _
  have same := List.mem_map_of_mem (f := fun outcome =>
    (outcome.1, memory.setControl quality outcome.2)) fails
  rw [SkeletonMemory.setControl_self] at same
  exact same

/-- Reading a word while nobody moves. -/
theorem load_runs {α : Type} {next : StatusWord → ControlProgram slots LogIndex α}
    {ended : Option α}
    (continued : Runs ampChecked quality (next (memory.status quality slot).data) memory performed
      ended after) :
    Runs ampChecked quality (ControlProgram.load slot >>= next) memory
      (⟨.load slot, memory, (memory.status quality slot).data⟩ :: performed) ended after := by
  refine ⟨memory, .refl, .inr ⟨_, memory, performed, ?_, rfl, continued⟩⟩
  rw [controlOutcomes_load]
  exact List.mem_singleton_self _

end Runs

end Amid

end MwCom.Lola
