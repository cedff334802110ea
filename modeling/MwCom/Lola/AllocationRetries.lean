/-
Module: MwCom.Lola.AllocationRetries
Purpose: Which slots one allocation moves into writing while consumers move, and what
  it returns.
Trusted boundary: none
Main exports: movedToWriting, LeakFree, WinsLastPass,
  allocateNextSlot_leakFree_iff
-/
import MwCom.Lola.AmidConsumers

namespace MwCom.Lola

namespace Amid

open Interleaving Program EventDataControl EventSlotStatus

variable {slots : Nat} {LogIndex : Type}

/-- The slot whose word an operation set to the in-writing sentinel. -/
def movedBy : Performed (ControlOp slots LogIndex) ControlOp.Ret (SkeletonMemory slots LogIndex) →
    Option (Fin slots)
  | ⟨.store slot word, _, _⟩ => if word = inWriting then some slot else none
  | ⟨.compareExchangeWeak slot _ desired, _, true⟩ =>
      if desired = inWriting then some slot else none
  | ⟨.compareExchangeStrong slot _ desired, _, true⟩ =>
      if desired = inWriting then some slot else none
  | _ => none

/-- The slots a call moved into writing. -/
def movedToWriting (performed : ControlSteps slots LogIndex) : List (Fin slots) :=
  performed.filterMap movedBy

theorem movedToWriting_append (earlier later : ControlSteps slots LogIndex) :
    movedToWriting (earlier ++ later) = movedToWriting earlier ++ movedToWriting later :=
  List.filterMap_append

theorem movedToWriting_load {slot : Fin slots} {found : SkeletonMemory slots LogIndex}
    {word : StatusWord} (later : ControlSteps slots LogIndex) :
    movedToWriting (⟨.load slot, found, word⟩ :: later) = movedToWriting later := rfl

/-- The call returned, and moved exactly the slot it returned into writing. -/
def LeakFree (performed : ControlSteps slots LogIndex) (ended : Option (Option (Fin slots))) :
    Prop :=
  ∃ result, ended = some result ∧ movedToWriting performed = result.toList

/-! ## The passes of an allocation -/

/-- One pass of the loop of `allocateNextSlot`: the slot it selected, and whether the
compare-exchange won it. -/
def allocatePass : ControlProgram slots LogIndex (Option (Fin slots) × Bool) := do
  match ← findOldestUnusedSlot with
  | none => pure (none, false)
  | some selectedIndex => do
      let status := EventSlotStatus.mk (← ControlProgram.load selectedIndex)
      if status.getReferenceCount != 0 || status.isInWriting then
        pure (some selectedIndex, false)
      else do
        let won ← ControlProgram.compareExchangeWeak selectedIndex status.data
          (EventSlotStatus.mk 0).markInWriting.data
        pure (some selectedIndex, won)

/-- Up to `count` passes: whether one of them wins a slot. -/
def winsWithin : (count : Nat) → ControlProgram slots LogIndex Bool
  | 0 => pure false
  | count + 1 => do
      if ← winsWithin count then
        pure true
      else
        pure (← allocatePass).2

theorem winsWithin_zero : (winsWithin 0 : ControlProgram slots LogIndex Bool) = pure false := rfl

theorem winsWithin_add_one (count : Nat) :
    (winsWithin (count + 1) : ControlProgram slots LogIndex Bool) = winsWithin count >>= fun won =>
        if won then pure true else allocatePass >>= fun pass => pure pass.2 := rfl

-- A hundred passes are never to be unfolded.
attribute [irreducible] winsWithin

/-- The loop goes through passes. -/
theorem allocateRetries_succ (remaining : Nat) (selectedIndex : Option (Fin slots)) :
    (allocateRetries (remaining + 1) selectedIndex : ControlProgram slots LogIndex _) =
      allocatePass >>= fun pass =>
        if pass.2 then pure (maxAllocateRetries - remaining, pass.1)
        else allocateRetries remaining pass.1 := by
  rw [allocateRetries, allocatePass, Program.bind_assoc]
  congr 1
  funext found
  cases found with
  | none => rfl
  | some slot =>
      dsimp only
      rw [Program.bind_assoc]
      congr 1
      funext word
      split
      · rfl
      · rfl

section Runs

variable [DecidableEq LogIndex] {ampChecked : Bool} {quality : QualityType}
  {memory after : SkeletonMemory slots LogIndex} {performed : ControlSteps slots LogIndex}

/-- The first hundred passes fail, and the last one wins a slot. -/
def WinsLastPass (ampChecked : Bool) (quality : QualityType)
    (memory : SkeletonMemory slots LogIndex) (performed : ControlSteps slots LogIndex) : Prop :=
  ∃ failed won middle selected after, performed = failed ++ won ∧
    Runs ampChecked quality (winsWithin maxAllocateRetries) memory failed (some false) middle ∧
    Runs ampChecked quality allocatePass middle won (some (selected, true)) after

/-- The search returns and moves nothing. -/
theorem findOldestUnusedSlotAmong_runs {among : List (Fin slots)} {oldest : EventTimeStamp}
    {selected : Option (Fin slots)} {ended : Option (Option (Fin slots))}
    (ends : Runs ampChecked quality (findOldestUnusedSlotAmong among oldest selected) memory
      performed ended after) :
    (∃ found, ended = some found) ∧ movedToWriting performed = [] := by
  induction among generalizing memory performed oldest selected with
  | nil =>
      obtain ⟨rfl, returned, _⟩ := ends
      exact ⟨⟨selected, returned⟩, rfl⟩
  | cons slot rest ih =>
      rw [findOldestUnusedSlotAmong] at ends
      obtain ⟨found, later, _, rfl, continued⟩ := load_cases ends
      rw [movedToWriting_load]
      dsimp only at continued
      split at continued
      · obtain ⟨rfl, returned, _⟩ := continued
        exact ⟨⟨some slot, returned⟩, rfl⟩
      · split at continued
        · exact ih continued
        · exact ih continued

/-- A pass returns, and moves the slot it won. -/
theorem allocatePass_runs {ended : Option (Option (Fin slots) × Bool)}
    (ends : Runs ampChecked quality allocatePass memory performed ended after) :
    ∃ selected won, ended = some (selected, won) ∧ (won = true → selected ≠ none) ∧
      movedToWriting performed = if won then selected.toList else [] := by
  rw [allocatePass] at ends
  rcases ends.bind_cases with stopped | composed
  · obtain ⟨found, isFound⟩ := (findOldestUnusedSlotAmong_runs stopped.2).1
    cases isFound
  · obtain ⟨earlier, later, found, middle, rfl, searched, continued⟩ := composed
    have nothing : movedToWriting earlier = [] := (findOldestUnusedSlotAmong_runs searched).2
    rw [movedToWriting_append, nothing, List.nil_append]
    cases found with
    | none =>
        obtain ⟨rfl, returned, _⟩ := continued
        exact ⟨none, false, returned, by simp, rfl⟩
    | some slot =>
        obtain ⟨read, rest, _, isLater, exchange⟩ := load_cases continued
        rw [isLater, movedToWriting_load]
        dsimp only at exchange
        split at exchange
        · obtain ⟨rfl, returned, _⟩ := exchange
          exact ⟨some slot, false, returned, by simp, rfl⟩
        · obtain ⟨found, tail, _, won | lost⟩ := compareExchangeWeak_cases exchange
          · obtain ⟨_, rfl, rfl, returned, _⟩ := won
            exact ⟨some slot, true, returned, by simp, rfl⟩
          · obtain ⟨rfl, rfl, returned, _⟩ := lost
            exact ⟨some slot, false, returned, by simp, rfl⟩

/-- Failed passes and one more. -/
theorem winsWithin_succ {count : Nat} {failed last : ControlSteps slots LogIndex}
    {middle : SkeletonMemory slots LogIndex} {selected : Option (Fin slots)} {won : Bool}
    (fails : Runs ampChecked quality (winsWithin count) memory failed (some false) middle)
    (pass : Runs ampChecked quality allocatePass middle last (some (selected, won)) after) :
    Runs ampChecked quality (winsWithin (count + 1)) memory (failed ++ last) (some won) after := by
  have returns : Runs ampChecked quality
      (allocatePass >>= fun pass => (pure pass.2 : ControlProgram slots LogIndex Bool)) middle
      (last ++ []) (some won) after := pass.bind ⟨rfl, rfl, .refl⟩
  rw [List.append_nil] at returns
  rw [winsWithin_add_one]
  exact fails.bind returns

/-- Once a pass has won, further passes change nothing. -/
theorem winsWithin_mono {count more : Nat} (atLeast : count ≤ more)
    (wins : Runs ampChecked quality (winsWithin count) memory performed (some true) after) :
    Runs ampChecked quality (winsWithin more) memory performed (some true) after := by
  induction atLeast with
  | refl => exact wins
  | step _ ih =>
      have returns : Runs ampChecked quality (pure true : ControlProgram slots LogIndex Bool) after
          [] (some true) after := ⟨rfl, rfl, .refl⟩
      rw [winsWithin_add_one, ← List.append_nil performed]
      exact ih.bind returns

/-- How the rest of the loop ends after `count` failed passes: it wins in one of the
passes that are left, or none of them wins. -/
theorem allocateRetries_runs (remaining count : Nat)
    (whole : count + remaining = maxAllocateRetries + 1)
    {selectedIndex : Option (Fin slots)} {failed later : ControlSteps slots LogIndex}
    {middle : SkeletonMemory slots LogIndex} {ended : Option (Nat × Option (Fin slots))}
    (fails : Runs ampChecked quality (winsWithin count) memory failed (some false) middle)
    (ends : Runs ampChecked quality (allocateRetries remaining selectedIndex) middle later ended
      after) :
    ∃ counter selected, ended = some (counter, selected) ∧
      ((counter = maxAllocateRetries + 1 ∧ movedToWriting later = [] ∧
          Runs ampChecked quality (winsWithin (maxAllocateRetries + 1)) memory (failed ++ later)
            (some false) after) ∨
        (counter ≤ maxAllocateRetries ∧ movedToWriting later = selected.toList ∧ selected ≠ none ∧
          ∃ unsuccessful won between, failed ++ later = unsuccessful ++ won ∧
            Runs ampChecked quality (winsWithin counter) memory unsuccessful (some false) between ∧
            Runs ampChecked quality allocatePass between won (some (selected, true)) after)) := by
  induction remaining generalizing count selectedIndex failed later middle with
  | zero =>
      obtain ⟨rfl, returned, moved⟩ := ends
      refine ⟨_, selectedIndex, returned, .inl ⟨rfl, rfl, ?_⟩⟩
      have all : count = maxAllocateRetries + 1 := by omega
      rw [← all, List.append_nil]
      exact fails.later moved
  | succ remaining ih =>
      rw [allocateRetries_succ] at ends
      rcases ends.bind_cases with stopped | composed
      · obtain ⟨_, _, isPass, _⟩ := allocatePass_runs stopped.2
        cases isPass
      · obtain ⟨first, rest, pass, between, rfl, passed, continued⟩ := composed
        obtain ⟨selected, won, isPass, isSlot, moves⟩ := allocatePass_runs passed
        cases isPass
        cases won with
        | false =>
            have failedAgain := winsWithin_succ fails passed
            obtain ⟨counter, chosen, isEnd, outcome⟩ :=
              ih (count + 1) (by omega) failedAgain continued
            refine ⟨counter, chosen, isEnd, ?_⟩
            have nothing : movedToWriting first = [] := moves
            rw [movedToWriting_append, nothing, List.nil_append, ← List.append_assoc]
            exact outcome
        | true =>
            obtain ⟨rfl, returned, moved⟩ := continued
            have counted : maxAllocateRetries - remaining = count := by omega
            refine ⟨_, selected, returned, .inr ⟨Nat.sub_le _ _, ?_, isSlot rfl, ?_⟩⟩
            · rw [List.append_nil]
              exact moves
            · rw [counted, List.append_nil]
              exact ⟨failed, first, middle, rfl, fails, passed.later moved⟩

/-- An allocation leaks no slot exactly if it does not win one in its last pass. -/
theorem allocateNextSlot_leakFree_iff {ended : Option (Option (Fin slots))}
    (ends : Runs ampChecked quality allocateNextSlot memory performed ended after) :
    LeakFree performed ended ↔ ¬WinsLastPass ampChecked quality memory performed := by
  have none : Runs ampChecked quality (winsWithin 0 : ControlProgram slots LogIndex Bool) memory []
      (some false) memory := by
    rw [winsWithin_zero]
    exact ⟨rfl, rfl, .refl⟩
  rw [allocateNextSlot] at ends
  rcases ends.bind_cases with stopped | composed
  · obtain ⟨_, _, isEnd, _⟩ := allocateRetries_runs _ 0 (Nat.zero_add _) none stopped.2
    cases isEnd
  · obtain ⟨earlier, later, pair, middle, rfl, retries, continued⟩ := composed
    obtain ⟨counter, selected, isEnd, outcome⟩ :=
      allocateRetries_runs _ 0 (Nat.zero_add _) none retries
    cases isEnd
    have isOver : later = [] ∧
        ended = some (if counter ≥ maxAllocateRetries then Option.none else selected) := by
      dsimp only at continued
      split
      · rename_i isOver
        rw [if_pos isOver] at continued
        exact ⟨continued.1, continued.2.1⟩
      · rename_i within
        rw [if_neg within] at continued
        exact ⟨continued.1, continued.2.1⟩
    obtain ⟨rfl, rfl⟩ := isOver
    rw [List.append_nil]
    rw [List.nil_append] at outcome
    rcases outcome with gaveUp | won
    · obtain ⟨rfl, nothing, fails⟩ := gaveUp
      rw [if_pos (Nat.le_succ _)]
      constructor
      · rintro _ ⟨failed, won, between, chosen, _, same, failing, wins⟩
        have winning := winsWithin_succ failing wins
        rw [← same, ← List.append_nil earlier] at winning
        cases (fails.determined winning).2
      · intro _
        exact ⟨Option.none, rfl, nothing⟩
    · obtain ⟨within, moves, isSlot, failed, won, between, same, failing, wins⟩ := won
      by_cases isLast : counter = maxAllocateRetries
      · rw [if_pos (Nat.le_of_eq isLast.symm)]
        rw [isLast] at failing
        constructor
        · rintro ⟨result, returned, leaks⟩
          cases returned
          obtain ⟨slot, chosen⟩ := Option.ne_none_iff_exists'.mp isSlot
          rw [moves, chosen] at leaks
          cases leaks
        · intro notLast
          exact absurd ⟨failed, won, between, selected, _, same, failing, wins⟩ notLast
      · rw [if_neg (by omega)]
        constructor
        · rintro _ ⟨failedAll, wonLast, point, chosen, _, sameToo, failingAll, _⟩
          have winning := winsWithin_mono (by omega : counter + 1 ≤ maxAllocateRetries)
            (winsWithin_succ failing wins)
          rw [← same, sameToo] at winning
          cases (failingAll.determined winning).2
        · intro _
          exact ⟨selected, rfl, moves⟩

end Runs

/-- One slot with a sample, and its consumers. -/
def oneSample (references : Nat) : SkeletonMemory 1 Empty where
  control := fun _ =>
    { stateSlots := fun _ => (ofTimeStamp 2 references).data
      transactionLogs := fun log => nomatch log
      currentSubscriptionState := 0 }
  references := fun _ _ => references

/-- The consumer gives its reference back. -/
theorem consumerStep_oneSample : ConsumerStep (oneSample 1) (oneSample 0) := by
  intro quality slot
  right
  right
  refine ⟨Nat.one_pos, ?_, rfl⟩
  change (ofTimeStamp 2 0).data = (ofTimeStamp 2 1).data - 1
  decide

/-- While the sample is referenced, a pass finds nothing. -/
theorem allocatePass_refuses :
    ∃ performed, Runs true .asilQm allocatePass (oneSample 1) performed (some (none, false))
        (oneSample 1) ∧ movedToWriting performed = [] := by
  have onlySlot : List.finRange 1 = [0] := rfl
  have searches : Runs true .asilQm findOldestUnusedSlot (oneSample 1)
      [⟨.load 0, oneSample 1, ((oneSample 1).status .asilQm 0).data⟩] (some none)
      (oneSample 1) := by
    rw [findOldestUnusedSlot, onlySlot, findOldestUnusedSlotAmong]
    apply load_runs
    rw [if_neg (by decide), if_neg (by decide)]
    exact ⟨rfl, rfl, .refl⟩
  refine ⟨_, searches.bind ⟨rfl, rfl, .refl⟩, rfl⟩

/-- Once it is not, a pass wins the slot. -/
theorem allocatePass_wins :
    ∃ performed after, Runs true .asilQm allocatePass (oneSample 0) performed
        (some (some 0, true)) after ∧ movedToWriting performed = [0] := by
  have onlySlot : List.finRange 1 = [0] := rfl
  have searches : Runs true .asilQm findOldestUnusedSlot (oneSample 0)
      [⟨.load 0, oneSample 0, ((oneSample 0).status .asilQm 0).data⟩] (some (some 0))
      (oneSample 0) := by
    rw [findOldestUnusedSlot, onlySlot, findOldestUnusedSlotAmong]
    apply load_runs
    rw [if_neg (by decide), if_pos (by decide)]
    exact ⟨rfl, rfl, .refl⟩
  let locked := (oneSample 0).setControl .asilQm
    (((oneSample 0).control .asilQm).setSlot 0 inWriting)
  let word := ((oneSample 0).status .asilQm 0).data
  have exchanges : Runs true .asilQm
      (ControlProgram.compareExchangeWeak 0 word inWriting >>= fun won =>
        (pure (some 0, won) : ControlProgram 1 Empty (Option (Fin 1) × Bool))) (oneSample 0)
      [⟨.compareExchangeWeak 0 word inWriting, oneSample 0, true⟩]
      (some (some 0, true)) locked := by
    exact ⟨oneSample 0, .refl,
      .inr ⟨true, locked, [], compareExchangeWeak_wins rfl, rfl, rfl, rfl, .refl⟩⟩
  have takes : Runs true .asilQm
      (ControlProgram.load 0 >>= fun read =>
        if ((EventSlotStatus.mk read).getReferenceCount != 0 ||
            (EventSlotStatus.mk read).isInWriting) = true then
          (pure (some 0, false) : ControlProgram 1 Empty (Option (Fin 1) × Bool))
        else
          ControlProgram.compareExchangeWeak 0 read inWriting >>= fun won =>
            pure (some 0, won)) (oneSample 0)
      [⟨.load 0, oneSample 0, word⟩, ⟨.compareExchangeWeak 0 word inWriting, oneSample 0, true⟩]
      (some (some 0, true)) locked := by
    apply load_runs
    rw [if_neg (by decide)]
    exact exchanges
  exact ⟨_, locked, searches.bind takes, rfl⟩

/-- Passes that find nothing may come first. -/
theorem allocateRetries_waits {remaining : Nat} {later : ControlSteps 1 Empty}
    {ended : Option (Nat × Option (Fin 1))} {after : SkeletonMemory 1 Empty} (count : Nat)
    (ends : Runs true .asilQm (allocateRetries remaining none) (oneSample 1) later ended after) :
    ∃ performed, Runs true .asilQm (allocateRetries (remaining + count) none) (oneSample 1)
        performed ended after ∧ movedToWriting performed = movedToWriting later := by
  induction count with
  | zero => exact ⟨later, ends, rfl⟩
  | succ count ih =>
      obtain ⟨performed, runs, same⟩ := ih
      obtain ⟨failed, refuses, nothing⟩ := allocatePass_refuses
      refine ⟨failed ++ performed, ?_, ?_⟩
      · rw [← Nat.add_assoc, allocateRetries_succ]
        exact refuses.bind runs
      · rw [movedToWriting_append, nothing, List.nil_append, same]

/-- A slot is free from the first pass on. -/
theorem leakFree_of_firstPass :
    ∃ performed after, Runs true .asilQm allocateNextSlot (oneSample 0) performed
        (some (some 0)) after ∧
      (LeakFree performed (some (some 0)) ↔
        ¬WinsLastPass true .asilQm (oneSample 0) performed) := by
  obtain ⟨performed, after, wins, _⟩ := allocatePass_wins
  have retries : Runs true .asilQm (allocateRetries (maxAllocateRetries + 1) none) (oneSample 0)
      (performed ++ []) (some (0, some 0)) after := by
    rw [allocateRetries_succ]
    exact wins.bind ⟨rfl, rfl, .refl⟩
  have returns : Runs true .asilQm allocateNextSlot (oneSample 0) ((performed ++ []) ++ [])
      (some (some 0)) after := retries.bind ⟨rfl, rfl, .refl⟩
  exact ⟨_, after, returns, allocateNextSlot_leakFree_iff returns⟩

/-- The consumer gives its reference back before the last pass: the allocation returns
nothing, but the slot is in writing. -/
theorem leakFree_violated : ¬∀ (slots : Nat) (memory after : SkeletonMemory slots Empty)
      (performed : ControlSteps slots Empty) (ended : Option (Option (Fin slots))),
      Runs true .asilQm allocateNextSlot memory performed ended after →
        LeakFree performed ended := by
  intro claimed
  obtain ⟨won, after, wins, moves⟩ := allocatePass_wins
  have last : Runs true .asilQm (allocateRetries 1 none) (oneSample 1) (won ++ [])
      (some (maxAllocateRetries, some 0)) after := by
    rw [allocateRetries_succ]
    exact (wins.before (.single consumerStep_oneSample)).bind ⟨rfl, rfl, .refl⟩
  obtain ⟨performed, retries, same⟩ := allocateRetries_waits maxAllocateRetries last
  have returns : Runs true .asilQm allocateNextSlot (oneSample 1) (performed ++ []) (some none)
      after := by
    rw [allocateNextSlot, Nat.add_comm maxAllocateRetries]
    exact retries.bind ⟨rfl, rfl, .refl⟩
  obtain ⟨result, isResult, leaks⟩ := claimed 1 (oneSample 1) after _ _ returns
  cases isResult
  rw [List.append_nil, same, List.append_nil, moves] at leaks
  cases leaks

end Amid

end MwCom.Lola
