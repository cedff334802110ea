/-
Module: MwCom.Lola.SlotCollector
Purpose: Collecting the samples that are new to a consumer, newest first, and
  what one collection does to the references and the log of its consumer.
Trusted boundary: none
Main exports: SlotCollector, SlotCollector.getNewSamplesSlotIndices, Collected,
  SlotCollector.getNewSamplesSlotIndices_respects
-/
import MwCom.Lola.TransactionProtocol

namespace MwCom.Lola

open Interleaving ControlProgram EventDataControl

variable {slots : Nat} {LogIndex : Type}

/-- The collector of one proxy event; the slots it collected last are part of
what a call returns. -/
structure SlotCollector (LogIndex : Type) where
  lastTs : EventTimeStamp
  maxSlots : Nat
  transactionLogIndex : LogIndex

namespace SlotCollector

variable (collector : SlotCollector LogIndex)

/-- The loop of `collectSlots` with `remaining` passes left.  The slot found
last stands first, as the caller iterates in reverse. -/
def collectRemaining : (remaining : Nat) → EventTimeStamp → List (Fin slots) →
      ControlProgram slots LogIndex (List (Fin slots))
  | 0, _, collectedSlots => pure collectedSlots
  | remaining + 1, currentHighest, collectedSlots => do
      match ← referenceNextEvent collector.transactionLogIndex collector.lastTs
          currentHighest with
      | some slot => do
          let eventStatus := EventSlotStatus.mk (← load slot)
          collectRemaining remaining eventStatus.getTimeStamp
            (slot :: collectedSlots)
      | none => pure collectedSlots

def collectSlots (maxCount : Nat) : ControlProgram slots LogIndex (List (Fin slots)) :=
  collector.collectRemaining (min maxCount collector.maxSlots)
    EventSlotStatus.timestampMax []

/-- `std::max` over the timestamps of the collected slots. -/
def highestDelivered :
    List (Fin slots) → EventTimeStamp → ControlProgram slots LogIndex EventTimeStamp
  | [], highest => pure highest
  | slot :: rest, highest => do
      let slotStatus := EventSlotStatus.mk (← load slot)
      if highest < slotStatus.getTimeStamp then
        highestDelivered rest slotStatus.getTimeStamp
      else
        highestDelivered rest highest

/-- The collected slots in the order of the caller, and the new `lastTs`. -/
def getNewSamplesSlotIndices (maxCount : Nat) :
    ControlProgram slots LogIndex (List (Fin slots) × EventTimeStamp) := do
  let collectedSlots ← collector.collectSlots maxCount
  let lastTs ← highestDelivered collectedSlots collector.lastTs
  pure (collectedSlots, lastTs)

def getNumNewSamplesAvailable : ControlProgram slots LogIndex Nat :=
  getNumNewEvents collector.lastTs

end SlotCollector

/-! ## One collection -/

/-- The view after references to some slots were taken, the last one first. -/
def LogView.withRecorded (view : LogView slots) : List (Fin slots × EventTimeStamp) → LogView slots
  | [] => view
  | (slot, timeStamp) :: rest =>
      (view.withRecorded rest).withSlot slot .recorded [timeStamp]

/-- One collection: new samples in slots that had no reference, with
timestamps that ascend in the order of the caller. -/
structure Collected (before : LogView slots) (lastTs : EventTimeStamp)
    (samples : List (Fin slots × EventTimeStamp)) : Prop where
  ascending : (samples.map Prod.snd).Pairwise (· < ·)
  newer : ∀ sample ∈ samples, lastTs < sample.2
  unused : ∀ sample ∈ samples, before.party.references sample.1 = []
  once : (samples.map Prod.fst).Nodup

/-- An older sample in another unused slot may join the collection. -/
theorem Collected.cons {before : LogView slots} {lastTs timeStamp : EventTimeStamp}
    {slot : Fin slots} {samples : List (Fin slots × EventTimeStamp)}
    (collected : Collected before lastTs samples) (newer : lastTs < timeStamp)
    (lowest : ∀ sample ∈ samples, timeStamp < sample.2) (unused : before.party.references slot = [])
    (fresh : slot ∉ samples.map Prod.fst) :
    Collected before lastTs ((slot, timeStamp) :: samples) where
  ascending := by
    rw [List.map_cons, List.pairwise_cons]
    refine ⟨?_, collected.ascending⟩
    intro stamp member
    obtain ⟨sample, taken, rfl⟩ := List.mem_map.mp member
    exact lowest sample taken
  newer := by
    intro sample member
    rcases List.mem_cons.mp member with first | later
    · subst first
      exact newer
    · exact collected.newer sample later
  unused := by
    intro sample member
    rcases List.mem_cons.mp member with first | later
    · subst first
      exact unused
    · exact collected.unused sample later
  once := by
    rw [List.map_cons, List.nodup_cons]
    exact ⟨fresh, collected.once⟩

namespace LogView

variable {view : LogView slots} {samples : List (Fin slots × EventTimeStamp)}
  {slot : Fin slots}

theorem withRecorded_of_notMem (absent : slot ∉ samples.map Prod.fst) :
    (view.withRecorded samples).party.references slot = view.party.references slot ∧
      (view.withRecorded samples).log.referenceCountSlots slot =
        view.log.referenceCountSlots slot := by
  induction samples with
  | nil => exact ⟨rfl, rfl⟩
  | cons sample rest ih =>
      simp only [List.map_cons, List.mem_cons, not_or] at absent
      obtain ⟨references, flags⟩ := ih absent.2
      constructor
      · simpa [withRecorded, LogView.withSlot, absent.1] using references
      · simpa [withRecorded, LogView.withSlot, absent.1] using flags

/-- A slot taken once holds the reference it was taken with. -/
theorem withRecorded_of_mem {timeStamp : EventTimeStamp} (once : (samples.map Prod.fst).Nodup)
    (taken : (slot, timeStamp) ∈ samples) :
    (view.withRecorded samples).party.references slot = [timeStamp] ∧
      (view.withRecorded samples).log.referenceCountSlots slot = .recorded := by
  induction samples with
  | nil => cases taken
  | cons sample rest ih =>
      simp only [List.map_cons, List.nodup_cons] at once
      rcases List.mem_cons.mp taken with first | later
      · subst first
        exact ⟨withSlot_references, withSlot_flags⟩
      · have other : slot ≠ sample.1 := by
          intro same
          subst same
          exact once.1 (List.mem_map.mpr ⟨_, later, rfl⟩)
        obtain ⟨references, flags⟩ := ih once.2 later
        constructor
        · simpa [withRecorded, LogView.withSlot, other] using references
        · simpa [withRecorded, LogView.withSlot, other] using flags

theorem Settled.withRecorded (settled : view.Settled) : (view.withRecorded samples).Settled := by
  induction samples with
  | nil => exact settled
  | cons sample rest ih =>
      exact ih.withSlot (.inr ⟨rfl, _, rfl⟩)

/-- A reference held after a collection was held before or was collected. -/
theorem mem_withRecorded {timeStamp : EventTimeStamp} (once : (samples.map Prod.fst).Nodup)
    (held : timeStamp ∈ (view.withRecorded samples).party.references slot) :
    timeStamp ∈ view.party.references slot ∨ (slot, timeStamp) ∈ samples := by
  by_cases collected : slot ∈ samples.map Prod.fst
  · obtain ⟨⟨index, stamp⟩, member, rfl⟩ := List.mem_map.mp collected
    rw [(withRecorded_of_mem once member).1] at held
    rw [List.mem_singleton.mp held]
    exact .inr member
  · rw [(withRecorded_of_notMem collected).1] at held
    exact .inl held

end LogView

namespace SlotCollector

variable {mode : LogMode} {collector : SlotCollector LogIndex}
  {before : LogView slots}

/-- Nothing that is held, or was collected above the limit, lies between
`lastTs` and the limit. -/
theorem searchable_withRecorded {samples : List (Fin slots × EventTimeStamp)}
    {currentHighest : EventTimeStamp} (kept : mode.stampsKept = true)
    (old : ∀ slot, ∀ timeStamp ∈ before.party.references slot, timeStamp ≤ collector.lastTs)
    (once : (samples.map Prod.fst).Nodup) (above : ∀ sample ∈ samples, currentHighest ≤ sample.2) :
    Searchable mode (before.withRecorded samples) collector.lastTs
      currentHighest := by
  refine .inr ⟨kept, ?_⟩
  intro slot timeStamp held
  rintro ⟨newer, below⟩
  rw [BitVec.lt_def] at newer below
  rcases LogView.mem_withRecorded once held with earlier | collected
  · have bound := BitVec.le_def.mp (old slot timeStamp earlier)
    omega
  · have bound : currentHighest.toNat ≤ timeStamp.toNat := BitVec.le_def.mp (above _ collected)
    omega

/-- The invariant of the search, newest first: everything collected lies above
the limit of the next search. -/
theorem collectRemaining_respects (kept : mode.stampsKept = true)
    (lenient : mode.rollingBack = false) (settled : before.Settled)
    (old : ∀ slot, ∀ timeStamp ∈ before.party.references slot, timeStamp ≤ collector.lastTs)
    (remaining : Nat) {currentHighest : EventTimeStamp}
    {samples : List (Fin slots × EventTimeStamp)}
    (collected : Collected before collector.lastTs samples)
    (above : ∀ sample ∈ samples, currentHighest ≤ sample.2) :
    (collector.collectRemaining remaining currentHighest (samples.map Prod.fst)).Respects
        (logRules mode collector.transactionLogIndex)
        (before.withRecorded samples) fun result after =>
          ∃ samples, result = samples.map Prod.fst ∧ after = before.withRecorded samples ∧
            Collected before collector.lastTs samples := by
  induction remaining generalizing currentHighest samples with
  | zero => exact ⟨samples, rfl, rfl, collected⟩
  | succ remaining ih =>
      rw [collectRemaining]
      refine (referenceNextEvent_settled settled.withRecorded lenient
        (searchable_withRecorded kept old collected.once above)).bind ?_
      intro result after effect
      cases result with
      | none =>
          subst effect
          exact ⟨samples, rfl, rfl, collected⟩
      | some slot =>
          obtain ⟨noReference, timeStamp, newer, below, rfl⟩ := effect
          have fresh : slot ∉ samples.map Prod.fst := by
            intro member
            obtain ⟨⟨index, stamp⟩, taken, rfl⟩ := List.mem_map.mp member
            rw [(LogView.withRecorded_of_mem collected.once taken).1] at noReference
            cases noReference
          refine .perform trivial fun word read => ?_
          have carried : (EventSlotStatus.mk word).getTimeStamp = timeStamp := by
            apply read kept
            rw [LogView.withSlot_references]
            exact List.mem_singleton.mpr rfl
          dsimp only
          rw [carried]
          have lowest : ∀ sample ∈ samples, timeStamp < sample.2 := by
            intro sample taken
            rw [BitVec.lt_def] at below ⊢
            exact Nat.lt_of_lt_of_le below (BitVec.le_def.mp (above _ taken))
          have unused : before.party.references slot = [] := by
            rw [← (LogView.withRecorded_of_notMem fresh).1]
            exact noReference
          have aboveNext : ∀ sample ∈ (slot, timeStamp) :: samples, timeStamp ≤ sample.2 := by
            intro sample member
            rcases List.mem_cons.mp member with first | later
            · subst first
              exact BitVec.le_refl _
            · exact BitVec.le_of_lt (lowest sample later)
          exact ih (collected.cons newer lowest unused fresh) aboveNext

/-- The maximum of the delivered timestamps and `highest`. -/
theorem highestDelivered_respects (kept : mode.stampsKept = true)
    {own : LogIndex} {view : LogView slots} (samples : List (Fin slots × EventTimeStamp))
    (held : ∀ sample ∈ samples, view.party.references sample.1 = [sample.2])
    (highest : EventTimeStamp) :
    (highestDelivered (samples.map Prod.fst) highest).Respects
      (logRules mode own) view fun result after =>
        after = view ∧ highest ≤ result ∧ ∀ sample ∈ samples, sample.2 ≤ result := by
  induction samples generalizing highest with
  | nil =>
      refine ⟨rfl, BitVec.le_refl _, ?_⟩
      intro sample member
      cases member
  | cons sample rest ih =>
      rw [List.map_cons, highestDelivered]
      refine .perform trivial fun word read => ?_
      have carried : (EventSlotStatus.mk word).getTimeStamp = sample.2 := by
        apply read kept
        rw [held sample List.mem_cons_self]
        exact List.mem_singleton.mpr rfl
      have heldRest : ∀ other ∈ rest, view.party.references other.1 = [other.2] :=
        fun other member => held other (List.mem_cons_of_mem _ member)
      dsimp only
      rw [carried]
      split
      · rename_i higher
        refine (ih heldRest sample.2).mono ?_
        rintro result after ⟨same, atLeast, all⟩
        refine ⟨same, ?_, ?_⟩
        · exact BitVec.le_trans (BitVec.le_of_lt higher) atLeast
        · intro other member
          rcases List.mem_cons.mp member with first | later
          · subst first
            exact atLeast
          · exact all other later
      · rename_i notHigher
        have lower : sample.2 ≤ highest := by
          rw [BitVec.lt_def] at notHigher
          exact BitVec.le_def.mpr (Nat.le_of_not_lt notHigher)
        refine (ih heldRest highest).mono ?_
        rintro result after ⟨same, atLeast, all⟩
        refine ⟨same, atLeast, ?_⟩
        intro other member
        rcases List.mem_cons.mp member with first | later
        · subst first
          exact BitVec.le_trans lower atLeast
        · exact all other later

/-- What one call of `getNewSamplesSlotIndices` does. -/
theorem getNewSamplesSlotIndices_respects (kept : mode.stampsKept = true)
    (lenient : mode.rollingBack = false) (settled : before.Settled)
    (old : ∀ slot, ∀ timeStamp ∈ before.party.references slot,
      timeStamp ≤ collector.lastTs) (maxCount : Nat) :
    (collector.getNewSamplesSlotIndices maxCount).Respects
      (logRules mode collector.transactionLogIndex) before fun result after =>
        ∃ samples, result.1 = samples.map Prod.fst ∧ after = before.withRecorded samples ∧
          Collected before collector.lastTs samples ∧
          collector.lastTs ≤ result.2 ∧
          ∀ sample ∈ samples, sample.2 ≤ result.2 := by
  have nothing : Collected before collector.lastTs [] := by
    constructor <;> simp
  have unlimited : ∀ sample ∈ ([] : List (Fin slots × EventTimeStamp)),
      EventSlotStatus.timestampMax ≤ sample.2 := by
    simp
  refine (collectRemaining_respects kept lenient settled old
    (min maxCount collector.maxSlots) nothing unlimited).bind ?_
  rintro indices middle ⟨samples, rfl, rfl, collected⟩
  have held : ∀ sample ∈ samples,
      (before.withRecorded samples).party.references sample.1 = [sample.2] :=
    fun sample member =>
      (LogView.withRecorded_of_mem collected.once member).1
  refine (highestDelivered_respects kept samples held _).bind ?_
  rintro lastTs after ⟨rfl, atLeast, all⟩
  exact ⟨samples, rfl, rfl, collected, atLeast, all⟩

end SlotCollector

end MwCom.Lola
