/-
Module: MwCom.Lola.CrashCleanUp
Purpose: What the clean-up after a crash of the provider makes of the slots it left, while
  consumers move.
Trusted boundary: none
Main exports: RemovalLaw, SpuriousFailure, removeAllocationsForWriting_removalLaw_iff
-/
import MwCom.Lola.AmidConsumers

namespace MwCom.Lola

namespace Amid

open Interleaving Program EventDataControl EventSlotStatus

variable {slots : Nat} {LogIndex : Type}

/-! ## Slots in writing -/

/-- The provider that left this slot was about to write it. -/
def LeftInWriting (memory : SkeletonMemory slots LogIndex) (quality : QualityType)
    (slot : Fin slots) : Prop :=
  (slotState memory quality slot).1 = inWriting

theorem stage_eq_inWriting_iff {word : StatusWord} :
    (EventSlotStatus.mk word).stage = .inWriting ↔ word = inWriting := by
  constructor
  · intro isInWriting
    by_contra other
    rw [stage] at isInWriting
    split at isInWriting
    · cases isInWriting
    · split at isInWriting
      · rename_i inWriting
        exact other (isInWriting_iff.mp inWriting)
      · cases isInWriting
  · intro isInWriting
    exact stage_eq_inWriting (isInWriting_iff.mpr isInWriting)

section Moves

variable {memory after : SkeletonMemory slots LogIndex} {quality : QualityType}
  {slot : Fin slots}

/-- Consumers neither begin nor end a writing. -/
theorem leftInWriting_of_moves (counted : AllCounted memory)
    (moved : ConsumerMoves (slotState memory quality slot) (slotState after quality slot)) :
    LeftInWriting after quality slot ↔ LeftInWriting memory quality slot := by
  have sameStage := (moved.counted (counted quality slot)).2
  rw [LeftInWriting, LeftInWriting, ← stage_eq_inWriting_iff, sameStage, stage_eq_inWriting_iff]

/-- Nobody references a slot in writing. -/
theorem slotState_of_leftInWriting (counted : AllCounted memory)
    (inWriting : LeftInWriting memory quality slot) :
    slotState memory quality slot = (EventSlotStatus.inWriting, 0) := by
  refine Prod.ext inWriting ?_
  rcases counted quality slot with ⟨unreferenced, _⟩ | ⟨unreferenced, _⟩ | ⟨_, _, stamped⟩
  · exact unreferenced
  · exact unreferenced
  · have word : (memory.status quality slot).data = EventSlotStatus.inWriting := inWriting
    rw [word] at stamped
    exact absurd getTimeStamp_inWriting stamped

end Moves

/-! ## The clean-up -/

/-- What the clean-up owes the consumers that are still there. -/
structure RemovalLaw (quality : QualityType) (memory after : SkeletonMemory slots LogIndex)
    (ended : Option Unit) : Prop where
  /-- The process is not ended. -/
  completes : ended = some ()
  none_left : ∀ slot, ¬LeftInWriting after quality slot
  invalidates : ∀ slot, LeftInWriting memory quality slot →
    slotState after quality slot = (invalid, 0)
  /-- On every other slot only the consumers have moved. -/
  moves : ∀ other slot, other ≠ quality ∨ ¬LeftInWriting memory quality slot →
    ConsumerMoves (slotState memory other slot) (slotState after other slot)

/-- A compare-exchange that failed although it found what it expected. -/
def SpuriousFailure (quality : QualityType) :
    Performed (ControlOp slots LogIndex) ControlOp.Ret (SkeletonMemory slots LogIndex) → Prop
  | ⟨.compareExchangeWeak slot expected _, found, false⟩ =>
      (found.status quality slot).data = expected
  | _ => False

section Runs

variable [DecidableEq LogIndex] {ampChecked : Bool} {quality : QualityType}
  {memory after : SkeletonMemory slots LogIndex} {performed : ControlSteps slots LogIndex}

/-- A process that terminates performs nothing more. -/
theorem terminate_cases {α : Type} {ended : Option α}
    (ends : Runs ampChecked quality (ControlProgram.terminate : ControlProgram slots LogIndex α)
      memory performed ended after) :
    ended = none ∧ performed = [] := by
  obtain ⟨found, _, stopped | continued⟩ := ends
  · exact ⟨stopped.2.2.1, stopped.2.1⟩
  · obtain ⟨answer, _⟩ := continued
    cases answer

/-- The clean-up of some of the slots ends the process after a spurious failure, or it
invalidates those of them that are in writing. -/
theorem removeAllocationsForWritingAmong_runs {among : List (Fin slots)}
    {ended : Option Unit} (counted : AllCounted memory)
    (ends : Runs ampChecked quality (removeAllocationsForWritingAmong among) memory performed
      ended after) :
    (ended = none ∧ ∃ step ∈ performed, SpuriousFailure quality step) ∨
      (ended = some () ∧ (∀ step ∈ performed, ¬SpuriousFailure quality step) ∧
        (∀ slot ∈ among, LeftInWriting memory quality slot →
          slotState after quality slot = (invalid, 0)) ∧
        ∀ other slot, other ≠ quality ∨ slot ∉ among ∨ ¬LeftInWriting memory quality slot →
          ConsumerMoves (slotState memory other slot) (slotState after other slot)) := by
  induction among generalizing memory performed with
  | nil =>
      obtain ⟨rfl, returned, moved⟩ := ends
      right
      refine ⟨returned, by simp, by simp, ?_⟩
      intro other slot _
      exact consumerMoves_of_steps moved other slot
  | cons first rest ih =>
      rw [removeAllocationsForWritingAmong] at ends
      obtain ⟨read, later, movedRead, rfl, checked⟩ := load_cases ends
      have untilRead := consumerMoves_of_steps movedRead
      have countedRead := counted.of_moves untilRead
      dsimp only at checked
      split at checked
      · rename_i isInWriting
        have inWriting : LeftInWriting read quality first := isInWriting_iff.mp isInWriting
        obtain ⟨found, tail, movedFound, won | lost⟩ := compareExchangeWeak_cases checked
        · obtain ⟨_, rfl, continued⟩ := won
          rw [if_pos rfl] at continued
          have afterRead := consumerMoves_of_steps movedFound
          have heldFound : slotState found quality first = (EventSlotStatus.inWriting, 0) := by
            have moves := afterRead quality first
            rw [slotState_of_leftInWriting countedRead inWriting] at moves
            exact moves.of_inWriting
          have unreferenced : found.references quality first = 0 := congrArg Prod.snd heldFound
          -- the word is invalid from now on, and the others have only seen consumers
          let cleared := found.setControl quality ((found.control quality).setSlot first 0)
          have clearedFirst : slotState cleared quality first = (invalid, 0) := by
            rw [slotState_setSlot_self, unreferenced]
            rfl
          have elsewhere : ∀ other slot, other ≠ quality ∨ slot ≠ first →
              ConsumerMoves (slotState memory other slot) (slotState cleared other slot) := by
            intro other slot distinct
            rw [slotState_setSlot_of_ne distinct]
            exact (untilRead other slot).trans (afterRead other slot)
          have countedCleared : AllCounted cleared := by
            intro other slot
            by_cases isFirst : other = quality ∧ slot = first
            · obtain ⟨rfl, rfl⟩ := isFirst
              exact .inl ⟨congrArg Prod.snd clearedFirst, congrArg Prod.fst clearedFirst⟩
            · have distinct : other ≠ quality ∨ slot ≠ first := by
                by_contra same
                rw [not_or, not_not, not_not] at same
                exact isFirst same
              exact ((elsewhere other slot distinct).counted (counted other slot)).1
          have notFirst : ¬LeftInWriting cleared quality first := by
            rw [LeftInWriting, clearedFirst]
            exact invalid_ne_inWriting
          rcases ih countedCleared continued with stopped | completed
          · obtain ⟨isNone, step, isStep, spurious⟩ := stopped
            left
            exact ⟨isNone, step, by simp [isStep], spurious⟩
          · obtain ⟨returned, faithful, invalidated, moves⟩ := completed
            right
            have firstAfter : slotState after quality first = (invalid, 0) := by
              have moved := moves quality first (.inr (.inr notFirst))
              rw [clearedFirst] at moved
              exact moved.of_invalid
            refine ⟨returned, ?_, ?_, ?_⟩
            · intro step isStep
              rcases List.mem_cons.mp isStep with rfl | isStep
              · exact id
              · rcases List.mem_cons.mp isStep with rfl | isStep
                · exact id
                · exact faithful step isStep
            · intro slot isAmong left
              by_cases isFirst : slot = first
              · rw [isFirst]
                exact firstAfter
              · have isRest := (List.mem_cons.mp isAmong).resolve_left isFirst
                apply invalidated slot isRest
                exact (leftInWriting_of_moves counted
                  (elsewhere quality slot (.inr isFirst))).mpr left
            · intro other slot apart
              have distinct : other ≠ quality ∨ slot ≠ first := by
                rcases apart with otherQuality | notAmong | notLeft
                · exact .inl otherQuality
                · right
                  rintro rfl
                  exact notAmong List.mem_cons_self
                · right
                  rintro rfl
                  exact notLeft ((leftInWriting_of_moves counted
                    (untilRead quality slot)).mp inWriting)
              apply (elsewhere other slot distinct).trans
              apply moves
              rcases apart with otherQuality | notAmong | notLeft
              · exact .inl otherQuality
              · exact .inr (.inl fun isRest => notAmong (List.mem_cons_of_mem _ isRest))
              · by_cases sameQuality : other = quality
                · rw [sameQuality] at distinct
                  right
                  right
                  intro stillLeft
                  exact notLeft ((leftInWriting_of_moves counted (elsewhere quality slot
                    distinct)).mp stillLeft)
                · exact .inl sameQuality
        · obtain ⟨rfl, continued⟩ := lost
          rw [if_neg Bool.false_ne_true] at continued
          obtain ⟨isNone, rfl⟩ := terminate_cases continued
          left
          refine ⟨isNone, _, List.mem_cons_of_mem _ List.mem_cons_self, ?_⟩
          have moves := consumerMoves_of_steps movedFound quality first
          have stateRead := slotState_of_leftInWriting countedRead inWriting
          have heldFound : slotState found quality first = slotState read quality first := by
            rw [stateRead] at moves
            rw [stateRead]
            exact moves.of_inWriting
          exact congrArg Prod.fst heldFound
      · rename_i notInWriting
        have firstRead : ¬LeftInWriting read quality first := by
          intro inWriting
          exact notInWriting (isInWriting_iff.mpr inWriting)
        have sameLeft : ∀ slot, LeftInWriting read quality slot ↔
            LeftInWriting memory quality slot :=
          fun slot => leftInWriting_of_moves counted (untilRead quality slot)
        rcases ih countedRead checked with stopped | completed
        · obtain ⟨isNone, step, isStep, spurious⟩ := stopped
          left
          exact ⟨isNone, step, List.mem_cons_of_mem _ isStep, spurious⟩
        · obtain ⟨returned, faithful, invalidated, moves⟩ := completed
          right
          refine ⟨returned, ?_, ?_, ?_⟩
          · intro step isStep
            rcases List.mem_cons.mp isStep with rfl | isStep
            · exact id
            · exact faithful step isStep
          · intro slot isAmong left
            have leftRead := (sameLeft slot).mpr left
            rcases List.mem_cons.mp isAmong with rfl | isRest
            · exact absurd leftRead firstRead
            · exact invalidated slot isRest leftRead
          · intro other slot apart
            apply (untilRead other slot).trans
            apply moves
            rw [sameLeft]
            rcases apart with otherQuality | notAmong | notLeft
            · exact .inl otherQuality
            · exact .inr (.inl fun isRest => notAmong (List.mem_cons_of_mem _ isRest))
            · exact .inr (.inr notLeft)

/-- The clean-up keeps the law exactly if none of its compare-exchanges fails
spuriously. -/
theorem removeAllocationsForWriting_removalLaw_iff {ended : Option Unit}
    (counted : AllCounted memory)
    (ends : Runs ampChecked quality removeAllocationsForWriting memory performed ended after) :
    RemovalLaw quality memory after ended ↔ ∀ step ∈ performed, ¬SpuriousFailure quality step := by
  rcases removeAllocationsForWritingAmong_runs counted ends with stopped | completed
  · obtain ⟨isNone, step, isStep, spurious⟩ := stopped
    constructor
    · intro law
      rw [isNone] at law
      cases law.completes
    · intro faithful
      exact absurd spurious (faithful step isStep)
  · obtain ⟨returned, faithful, invalidated, moves⟩ := completed
    constructor
    · intro _
      exact faithful
    · intro _
      refine ⟨returned, ?_, ?_, ?_⟩
      · intro slot left
        by_cases wasLeft : LeftInWriting memory quality slot
        · rw [LeftInWriting, invalidated slot (List.mem_finRange slot) wasLeft] at left
          exact invalid_ne_inWriting left
        · exact wasLeft ((leftInWriting_of_moves counted
            (moves quality slot (.inr (.inr wasLeft)))).mp left)
      · intro slot wasLeft
        exact invalidated slot (List.mem_finRange slot) wasLeft
      · intro other slot apart
        apply moves
        exact apart.imp_right .inr

end Runs

/-! ## One slot in writing -/

/-- A provider that crashed between an allocation and the sending. -/
def crashedWriter : SkeletonMemory 1 Empty where
  control := fun _ =>
    { stateSlots := fun _ => inWriting
      transactionLogs := fun log => nomatch log
      currentSubscriptionState := 0 }
  references := fun _ _ => 0

theorem allCounted_crashedWriter : AllCounted crashedWriter := fun _ _ => .inr (.inl ⟨rfl, rfl⟩)

/-- The clean-up reads the word and tries to swap it. -/
theorem removal_runs {won : Bool} {middle : SkeletonMemory 1 Empty} {ended : Option Unit}
    (outcome : (won, middle) ∈ controlOutcomes true .asilQm
      (.compareExchangeWeak 0 inWriting 0) crashedWriter)
    (continued : Runs true .asilQm
      (if won then removeAllocationsForWritingAmong [] else ControlProgram.terminate) middle []
      ended middle) :
    Runs true .asilQm removeAllocationsForWriting crashedWriter
      [⟨.load 0, crashedWriter, inWriting⟩,
        ⟨.compareExchangeWeak 0 inWriting 0, crashedWriter, won⟩] ended
      middle := by
  have onlySlot : List.finRange 1 = [0] := rfl
  rw [removeAllocationsForWriting, onlySlot, removeAllocationsForWritingAmong]
  apply load_runs
  rw [if_pos (by decide)]
  exact ⟨crashedWriter, .refl, .inr ⟨won, middle, [], outcome, rfl, continued⟩⟩

theorem removalLaw_of_crashedWriter :
    ∃ performed after, Runs true .asilQm removeAllocationsForWriting crashedWriter performed
        (some ()) after ∧
      (RemovalLaw .asilQm crashedWriter after (some ()) ↔
        ∀ step ∈ performed, ¬SpuriousFailure .asilQm step) := by
  have runs := removal_runs (compareExchangeWeak_wins rfl) ⟨rfl, rfl, .refl⟩
  exact ⟨_, _, runs, removeAllocationsForWriting_removalLaw_iff allCounted_crashedWriter runs⟩

/-- The exchange fails although nobody has touched the slot, and the process ends. -/
theorem removalLaw_violated : ¬∀ (slots : Nat) (memory after : SkeletonMemory slots Empty)
      (performed : ControlSteps slots Empty) (ended : Option Unit),
      AllCounted memory →
        Runs true .asilQm removeAllocationsForWriting memory performed ended after →
          RemovalLaw .asilQm memory after ended := by
  intro claimed
  have fails : (false, crashedWriter) ∈ controlOutcomes true .asilQm
      (.compareExchangeWeak 0 inWriting 0) crashedWriter :=
    compareExchangeWeak_loses
  have runs := removal_runs fails ⟨crashedWriter, .refl, .inl ⟨rfl, rfl, rfl, rfl⟩⟩
  have law := claimed 1 crashedWriter crashedWriter _ none allCounted_crashedWriter runs
  cases law.completes

end Amid

end MwCom.Lola
