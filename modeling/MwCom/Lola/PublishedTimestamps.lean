/-
Module: MwCom.Lola.PublishedTimestamps
Purpose: The timestamps published on an event over all processes that offer it,
  and which histories keep them increasing.
Trusted boundary: none
Main exports: Countdown, SlotsAccounted, timestampContract, NewestSurvives,
  TimestampLaw, timestampLaw_of_reached
-/
import MwCom.Lola.SkeletonProtocol

namespace MwCom.Lola

open Interleaving SkeletonProgram Provider EventSlotStatus Function

variable {slots : Nat} {LogIndex : Type}

/-! ## The history counts up -/

/-- Every timestamp, newest first, is one more than the one before, and the first
one more than `latest`. -/
def Countdown (latest : EventTimeStamp) : List EventTimeStamp → Prop
  | [] => True
  | timeStamp :: earlier =>
      timeStamp = earlier.headD latest + 1 ∧ Countdown latest earlier

variable {latest : EventTimeStamp} {published : List EventTimeStamp}

/-- As a number modulo the width of a timestamp. -/
theorem Countdown.toNat_headD (counts : Countdown latest published) :
    (published.headD latest).toNat = (latest.toNat + published.length) % 2 ^ 32 := by
  induction published with
  | nil => exact (Nat.mod_eq_of_lt latest.isLt).symm
  | cons timeStamp earlier ih =>
      change timeStamp.toNat = _
      rw [counts.1, BitVec.toNat_add, ih counts.2, List.length_cons]
      change (_ % 2 ^ 32 + 1) % 2 ^ 32 = _
      omega

theorem Countdown.toNat_newest (counts : Countdown 1 published)
    (few : published.length < 2 ^ 32 - 1) :
    (newest published).toNat = published.length + 1 := by
  have value := counts.toNat_headD
  change (newest published).toNat = (1 + _) % _ at value
  omega

/-- As long as it does not wrap, every timestamp in the history is above the
initial one and not above the newest. -/
theorem Countdown.bounds (counts : Countdown 1 published) (few : published.length < 2 ^ 32 - 1)
    {timeStamp : EventTimeStamp} (member : timeStamp ∈ published) :
    1 < timeStamp ∧ timeStamp ≤ newest published := by
  induction published with
  | nil => cases member
  | cons latest earlier ih =>
      have fewer : earlier.length < 2 ^ 32 - 1 := by
        rw [List.length_cons] at few
        omega
      have latestNat : latest.toNat = earlier.length + 2 := counts.toNat_newest few
      have earlierNat := counts.2.toNat_newest fewer
      have stepUp : newest earlier < latest := by
        rw [BitVec.lt_def, earlierNat, latestNat]
        omega
      rcases List.mem_cons.mp member with isLatest | isEarlier
      · subst isLatest
        refine ⟨?_, BitVec.le_refl _⟩
        rw [BitVec.lt_def, latestNat]
        change 1 < _
        omega
      · obtain ⟨above, below⟩ := ih counts.2 fewer isEarlier
        refine ⟨above, BitVec.le_of_lt ?_⟩
        exact Nat.lt_of_le_of_lt below stepUp

/-- A consumer that saw `earlier` last takes a later sample for new, however
often it is referenced. -/
def NewAfter (later earlier : EventTimeStamp) : Prop := earlier < later ∧
    ∀ refCount, (ofTimeStamp later refCount).isTimeStampBetween
      earlier timestampMax = true

theorem newAfter_of_lt {later earlier : EventTimeStamp} (above : earlier < later)
    (below : later < timestampMax) : NewAfter later earlier := by
  refine ⟨above, fun refCount => ?_⟩
  have stamped : (ofTimeStamp later refCount).getTimeStamp ≠ 0 := by
    rw [getTimeStamp_ofTimeStamp]
    intro isZero
    subst isZero
    exact absurd above BitVec.not_lt_zero
  obtain ⟨notInvalid, notInWriting⟩ := readable_of_timeStamp stamped
  rw [isTimeStampBetween_iff, getTimeStamp_ofTimeStamp]
  exact ⟨notInWriting, notInvalid, above, below⟩

/-- A history without wrap-around increases, to its consumers too. -/
theorem Countdown.pairwise (counts : Countdown 1 published) (few : published.length < 2 ^ 32 - 2) :
    published.Pairwise NewAfter := by
  induction published with
  | nil => exact .nil
  | cons latest earlier ih =>
      rw [List.length_cons] at few
      have fewer : earlier.length < 2 ^ 32 - 2 := by omega
      have latestNat : latest.toNat = earlier.length + 2 :=
        counts.toNat_newest (by rw [List.length_cons]; omega)
      refine .cons ?_ (ih counts.2 fewer)
      intro timeStamp member
      have atMost := (counts.2.bounds (by omega) member).2
      have earlierNat := counts.2.toNat_newest (by omega)
      apply newAfter_of_lt
      · rw [BitVec.lt_def, latestNat]
        have bound : timeStamp.toNat ≤ (newest earlier).toNat := atMost
        omega
      · rw [BitVec.lt_def, latestNat]
        change _ < 2 ^ 32 - 1
        omega

/-! ## Consumers keep the timestamps -/

/-- The references of a word are counted in it, and only readable words have
any. -/
def Counted (word : StatusWord) (references : Nat) : Prop := references = 0 ∧ word = invalid ∨
    references = 0 ∧ word = inWriting ∨
    references < 2 ^ 32 - 1 ∧ (EventSlotStatus.mk word).getReferenceCount.toNat = references ∧
      (EventSlotStatus.mk word).getTimeStamp ≠ 0

variable {word : StatusWord} {references : Nat}

theorem Counted.unreferenced (counted : Counted word references)
    (unused : (EventSlotStatus.mk word).getReferenceCount = 0) :
    references = 0 := by
  rcases counted with ⟨none, _⟩ | ⟨none, _⟩ | ⟨_, count, _⟩
  · exact none
  · exact none
  · rw [← count, unused]
    rfl

theorem Counted.unreferenced_of_stage (counted : Counted word references)
    (inWriting : (EventSlotStatus.mk word).stage = .inWriting) :
    references = 0 := by
  rcases counted with ⟨none, _⟩ | ⟨none, _⟩ | ⟨_, _, stamped⟩
  · exact none
  · exact none
  · obtain ⟨notInvalid, notInWriting⟩ := readable_of_timeStamp stamped
    rw [stage_eq_readable notInvalid notInWriting] at inWriting
    cases inWriting

/-- A consumer moves the count, and neither the timestamp nor what is
readable. -/
theorem Counted.step {wordAfter : StatusWord} {referencesAfter : Nat}
    (counted : Counted word references)
    (step : ReferenceStep word references wordAfter referencesAfter) :
    Counted wordAfter referencesAfter ∧
      (EventSlotStatus.mk wordAfter).stage = (EventSlotStatus.mk word).stage := by
  have readable : references < 2 ^ 32 - 1 ∧
      (EventSlotStatus.mk word).getReferenceCount.toNat = references ∧
      (EventSlotStatus.mk word).getTimeStamp ≠ 0 := by
    rcases counted with ⟨none, isInvalid⟩ | ⟨none, isInWriting⟩ | readable
    · rcases step with ⟨notInvalid, _⟩ | ⟨some, _⟩
      · exact absurd isInvalid notInvalid
      · omega
    · rcases step with ⟨_, notInWriting, _⟩ | ⟨some, _⟩
      · exact absurd isInWriting notInWriting
      · omega
    · exact readable
  obtain ⟨bounded, count, stamped⟩ := readable
  have moved : (EventSlotStatus.mk wordAfter).getTimeStamp =
        (EventSlotStatus.mk word).getTimeStamp ∧
      (EventSlotStatus.mk wordAfter).getReferenceCount.toNat =
        referencesAfter ∧ referencesAfter < 2 ^ 32 - 1 := by
    rcases step with ⟨_, _, room, rfl, rfl⟩ | ⟨some, rfl, fewer⟩
    · have grows : (EventSlotStatus.mk word).getReferenceCount.toNat < 2 ^ 32 - 1 := by omega
      obtain ⟨stamp, counts⟩ := increment grows
      exact ⟨stamp, by omega, room⟩
    · have positive : 0 < (EventSlotStatus.mk word).getReferenceCount.toNat := by
        omega
      obtain ⟨stamp, counts⟩ := decrement positive
      exact ⟨stamp, by omega, by omega⟩
  obtain ⟨sameStamp, countAfter, boundAfter⟩ := moved
  have stampedAfter : (EventSlotStatus.mk wordAfter).getTimeStamp ≠ 0 := by
    rw [sameStamp]
    exact stamped
  refine ⟨.inr (.inr ⟨boundAfter, countAfter, stampedAfter⟩), ?_⟩
  obtain ⟨notInvalid, notInWriting⟩ := readable_of_timeStamp stamped
  obtain ⟨notInvalidAfter, notInWritingAfter⟩ := readable_of_timeStamp stampedAfter
  rw [stage_eq_readable notInvalid notInWriting,
    stage_eq_readable notInvalidAfter notInWritingAfter, sameStamp]

/-- The control the timestamps come from: its references are counted, and its
readable slots carry published timestamps. -/
structure SlotsAccounted (asilB : Bool) (memory : SkeletonMemory slots LogIndex)
    (published : List EventTimeStamp) : Prop where
  counted : ∀ slot, Counted (memory.status (publishedControl asilB) slot).data
      (memory.references (publishedControl asilB) slot)
  published : ∀ slot timeStamp,
    (memory.status (publishedControl asilB) slot).stage = .readable timeStamp →
      timeStamp ∈ published

/-- What the slots of the control say. -/
def stages (asilB : Bool) (memory : SkeletonMemory slots LogIndex)
    (slot : Fin slots) : SlotStage :=
  (memory.status (publishedControl asilB) slot).stage

namespace SlotsAccounted

variable {asilB : Bool} {memory after : SkeletonMemory slots LogIndex}
  {published : List EventTimeStamp}

/-- Nothing else counts. -/
theorem congr (accounted : SlotsAccounted asilB memory published)
    (words : ∀ slot, after.status (publishedControl asilB) slot =
      memory.status (publishedControl asilB) slot)
    (references : after.references = memory.references) :
    SlotsAccounted asilB after published where
  counted slot := by
    rw [words, references]
    exact accounted.counted slot
  published slot timeStamp readable := by
    rw [words] at readable
    exact accounted.published slot timeStamp readable

/-- The consumers move. -/
theorem consumerStep (accounted : SlotsAccounted asilB memory published)
    (moved : ConsumerStep memory after) :
    SlotsAccounted asilB after published ∧
      ∀ slot, (after.status (publishedControl asilB) slot).stage =
        (memory.status (publishedControl asilB) slot).stage := by
  have each : ∀ slot, Counted (after.status (publishedControl asilB) slot).data
          (after.references (publishedControl asilB) slot) ∧
        (after.status (publishedControl asilB) slot).stage =
          (memory.status (publishedControl asilB) slot).stage := by
    intro slot
    rcases moved (publishedControl asilB) slot with ⟨word, count⟩ | step
    · rw [word, count]
      exact ⟨accounted.counted slot, rfl⟩
    · exact (accounted.counted slot).step step
  refine ⟨⟨fun slot => (each slot).1, ?_⟩, fun slot => (each slot).2⟩
  intro slot timeStamp readable
  rw [(each slot).2] at readable
  exact accounted.published slot timeStamp readable

variable {slot : Fin slots} {word : StatusWord}

/-- A word is stored to a slot without references. -/
theorem store (accounted : SlotsAccounted asilB memory published)
    {publishedAfter : List EventTimeStamp}
    (unreferenced : memory.references (publishedControl asilB) slot = 0) (fresh : Counted word 0)
    (stamp : ∀ timeStamp, (EventSlotStatus.mk word).stage = .readable timeStamp →
      timeStamp ∈ publishedAfter)
    (grows : ∀ timeStamp ∈ published, timeStamp ∈ publishedAfter) :
    SlotsAccounted asilB (memory.setControl (publishedControl asilB)
      ((memory.control (publishedControl asilB)).setSlot slot word))
      publishedAfter where
  counted position := by
    rw [SkeletonMemory.status_setControl_self, SkeletonMemory.references_setControl]
    by_cases isSlot : position = slot
    · subst isSlot
      rw [EventControl.stateSlots_setSlot_self, unreferenced]
      exact fresh
    · rw [EventControl.stateSlots_setSlot_of_ne _ isSlot]
      exact accounted.counted position
  published position timeStamp readable := by
    rw [SkeletonMemory.status_setControl_self] at readable
    by_cases isSlot : position = slot
    · subst isSlot
      rw [EventControl.stateSlots_setSlot_self] at readable
      exact stamp timeStamp readable
    · rw [EventControl.stateSlots_setSlot_of_ne _ isSlot] at readable
      exact grows timeStamp (accounted.published position timeStamp readable)

theorem stages_store : stages asilB (memory.setControl (publishedControl asilB)
        ((memory.control (publishedControl asilB)).setSlot slot word)) =
      storedStage (stages asilB memory) (some (slot, word)) := by
  funext position
  by_cases isSlot : position = slot
  · subst isSlot
    simp [stages, storedStage]
  · simp [stages, storedStage, isSlot, SkeletonMemory.status,
      SkeletonMemory.setControl, EventControl.stateSlots_setSlot_of_ne _ isSlot]

/-- The other control does not count. -/
theorem storedWord_of_ne {quality : QualityType} {op : ControlOp slots LogIndex}
    {answer : op.Ret} (other : quality ≠ publishedControl asilB) :
    storedWord asilB (SkeletonOp.control quality op : SkeletonOp slots LogIndex)
      answer = none := by
  cases op with
  | store slot word => exact if_neg other
  | compareExchangeWeak slot expected desired | compareExchangeStrong slot expected desired =>
      cases answer with
      | true => exact if_neg other
      | false => rfl
  | _ => rfl

/-- A word nobody can read is stored to a slot without references. -/
theorem storeSentinel (accounted : SlotsAccounted asilB memory published)
    (unreferenced : memory.references (publishedControl asilB) slot = 0)
    (sentinel : word = invalid ∨ word = inWriting) :
    SlotsAccounted asilB (memory.setControl (publishedControl asilB)
      ((memory.control (publishedControl asilB)).setSlot slot word))
      published := by
  refine accounted.store unreferenced ?_ ?_ fun _ member => member
  · rcases sentinel with rfl | rfl
    · exact .inl ⟨rfl, rfl⟩
    · exact .inr (.inl ⟨rfl, rfl⟩)
  · intro timeStamp readable
    rcases sentinel with rfl | rfl
    · cases readable
    · cases readable

section Perform

variable [DecidableEq LogIndex] {ampChecked : Bool}

/-- An operation the rules allow on one of the controls. -/
theorem performControl (accounted : SlotsAccounted asilB memory published)
    {quality : QualityType} {op : ControlOp slots LogIndex} {answer : op.Ret}
    (may : quality = publishedControl asilB → mayControl (stages asilB memory) op)
    (outcome : (answer, after) ∈ (SkeletonOp.control quality op).outcomes ampChecked memory) :
    SlotsAccounted asilB after published ∧ stages asilB after = storedStage (stages asilB memory)
        (storedWord asilB (SkeletonOp.control quality op) answer) := by
  obtain ⟨⟨reply, control⟩, inner, same⟩ := List.mem_map.mp outcome
  cases same
  by_cases isMain : quality = publishedControl asilB
  · have allowed := may isMain
    subst isMain
    have unchanged : control = memory.control (publishedControl asilB) →
        SlotsAccounted asilB (memory.setControl (publishedControl asilB) control)
            published ∧
          stages asilB (memory.setControl (publishedControl asilB) control) =
            stages asilB memory := by
      intro sameControl
      rw [sameControl, SkeletonMemory.setControl_self]
      exact ⟨accounted, rfl⟩
    have writes : ∀ slot word, control =
        (memory.control (publishedControl asilB)).setSlot slot word →
        memory.references (publishedControl asilB) slot = 0 →
        word = invalid ∨ word = inWriting →
        SlotsAccounted asilB (memory.setControl (publishedControl asilB) control)
            published ∧
          stages asilB (memory.setControl (publishedControl asilB) control) =
            storedStage (stages asilB memory) (some (slot, word)) := by
      intro slot word isWritten unreferenced sentinel
      rw [isWritten]
      exact ⟨accounted.storeSentinel unreferenced sentinel, stages_store⟩
    cases op with
    | load slot =>
        cases List.mem_singleton.mp inner
        exact unchanged rfl
    | check kind condition =>
        exact unchanged (ControlOp.check_outcome inner).1
    | terminate => cases inner
    | compareExchangeWeak slot expected desired =>
        rcases ControlOp.compareExchangeWeak_outcome inner with won | failed
        · obtain ⟨rfl, found, written⟩ := won
          have counted := accounted.counted slot
          have stored : storedWord asilB (SkeletonOp.control
              (publishedControl asilB) (.compareExchangeWeak slot expected desired :
                ControlOp slots LogIndex)) true = some (slot, desired) := if_pos rfl
          rw [stored]
          rcases allowed with ⟨unused, rfl⟩ | ⟨rfl, rfl⟩
          · rw [← found] at unused
            exact writes slot _ written (counted.unreferenced unused) (.inr rfl)
          · refine writes slot _ written ?_ (.inl rfl)
            apply counted.unreferenced_of_stage
            change (EventSlotStatus.mk ((memory.control _).stateSlots slot)).stage = _
            rw [found]
            rfl
        · obtain ⟨rfl, same⟩ := failed
          exact unchanged same
    | compareExchangeStrong slot expected desired =>
        rcases ControlOp.compareExchangeStrong_outcome inner with won | failed
        · obtain ⟨rfl, found, written⟩ := won
          obtain ⟨unused, rfl⟩ := allowed
          have stored : storedWord asilB (SkeletonOp.control
              (publishedControl asilB) (.compareExchangeStrong slot expected
                inWriting : ControlOp slots LogIndex)) true =
                some (slot, inWriting) := if_pos rfl
          rw [stored]
          rw [← found] at unused
          exact writes slot _ written ((accounted.counted slot).unreferenced unused) (.inr rfl)
        · obtain ⟨rfl, same⟩ := failed
          exact unchanged same
    | store slot word =>
        cases List.mem_singleton.mp inner
        obtain ⟨rfl, wasInWriting⟩ := allowed
        have stored : storedWord asilB (SkeletonOp.control
            (publishedControl asilB) (.store slot invalid : ControlOp slots LogIndex)) () =
              some (slot, invalid) := if_pos rfl
        rw [stored]
        exact writes slot _ rfl
          ((accounted.counted slot).unreferenced_of_stage wasInWriting)
          (.inl rfl)
    | _ => exact allowed.elim
  · rw [storedWord_of_ne isMain]
    have words : ∀ slot, (memory.setControl quality control).status
        (publishedControl asilB) slot = memory.status (publishedControl asilB) slot :=
      fun slot => memory.status_setControl_of_ne (Ne.symm isMain) control slot
    refine ⟨accounted.congr words rfl, ?_⟩
    funext slot
    simp only [stages, storedStage, words]

/-- The publication of a sample. -/
theorem performEventReady (accounted : SlotsAccounted asilB memory published)
    {quality : QualityType} {slot : Fin slots} {timeStamp : EventTimeStamp}
    {provider : Provider slots} {answer : Unit} (isPublished : provider.published = published)
    (stamped : quality = publishedControl asilB → timeStamp ≠ 0)
    (unreferenced : quality = publishedControl asilB → memory.references quality slot = 0)
    (outcome : (answer, after) ∈ (SkeletonOp.eventReady quality slot timeStamp :
        SkeletonOp slots LogIndex).outcomes ampChecked memory) :
    SlotsAccounted asilB after
        (provider.observe asilB (SkeletonOp.eventReady quality slot timeStamp :
          SkeletonOp slots LogIndex) answer).published ∧
      stages asilB after = storedStage (stages asilB memory)
        (storedWord asilB (SkeletonOp.eventReady quality slot timeStamp :
          SkeletonOp slots LogIndex) answer) := by
  cases List.mem_singleton.mp outcome
  have stampOf : (EventSlotStatus.mk
      (ofTimeStamp timeStamp 0).data).getTimeStamp = timeStamp :=
    getTimeStamp_ofTimeStamp timeStamp 0
  by_cases isMain : quality = publishedControl asilB
  · subst isMain
    have readable : (ofTimeStamp timeStamp 0).getTimeStamp ≠ 0 := by
      rw [getTimeStamp_ofTimeStamp]
      exact stamped rfl
    have stored : storedWord asilB (SkeletonOp.eventReady
        (publishedControl asilB) slot timeStamp : SkeletonOp slots LogIndex) () =
          some (slot, (ofTimeStamp timeStamp 0).data) := if_pos rfl
    have grown : (provider.observe asilB (SkeletonOp.eventReady
        (publishedControl asilB) slot timeStamp :
          SkeletonOp slots LogIndex) ()).published = timeStamp :: published := by
      rw [← isPublished]
      exact if_pos rfl
    rw [stored, grown]
    refine ⟨accounted.store (unreferenced rfl) ?_ ?_ ?_, stages_store⟩
    · refine .inr (.inr ⟨by decide, ?_, readable⟩)
      rw [getReferenceCount_ofTimeStamp]
      rfl
    · intro other isReadable
      obtain ⟨_, same⟩ := stage_eq_readable_iff.mp isReadable
      rw [← same, stampOf]
      exact List.mem_cons_self
    · intro earlier member
      exact List.mem_cons_of_mem _ member
  · have stored : storedWord asilB (SkeletonOp.eventReady quality slot timeStamp :
        SkeletonOp slots LogIndex) () = none := if_neg isMain
    have same : (provider.observe asilB (SkeletonOp.eventReady quality slot
        timeStamp : SkeletonOp slots LogIndex) ()).published = published := by
      rw [← isPublished]
      exact if_neg isMain
    rw [stored, same]
    have words : ∀ position, (memory.setControl quality
        ((memory.control quality).setSlot slot
          (ofTimeStamp timeStamp 0).data)).status
        (publishedControl asilB) position = memory.status (publishedControl asilB) position :=
      fun position =>
        memory.status_setControl_of_ne (Ne.symm isMain) _ position
    refine ⟨accounted.congr words rfl, ?_⟩
    funext position
    simp only [stages, storedStage, words]

end Perform

end SlotsAccounted

/-! ## The contract of the provider -/

/-- The newest timestamp is still in a readable slot of the control that the next
offer reads, if anything was published at all. -/
def NewestSurvives (asilB : Bool) (memory : SkeletonMemory slots LogIndex)
    (published : List EventTimeStamp) : Prop :=
  published = [] ∨ ∃ slot, (memory.status (publishedControl asilB) slot).stage =
      .readable (newest published)

section Contract

variable [DecidableEq LogIndex] {ampChecked asilB : Bool}

/-- There is a next timestamp; an offer that opens the shared memory again finds the
newest timestamp, and no sample is published in a slot that consumers still
reference. -/
def survivingOffers (asilB : Bool) (config : SkeletonConfig slots LogIndex)
    (event : SkeletonSystemEvent slots LogIndex) : Prop :=
  (config.object ()).published.length < 2 ^ 32 - 2 ∧
    match event with
    | .perform _ .recreateUnused recreated =>
        recreated = false → NewestSurvives asilB config.memory (config.object ()).published
    | .perform _ (.eventReady quality slot _) _ =>
        quality = publishedControl asilB → config.memory.references quality slot = 0
    | _ => True

/-- What the provider sees: its record, and the slots. -/
def skeletonView (asilB : Bool) (memory : SkeletonMemory slots LogIndex)
    (provider : Provider slots) : SkeletonView slots where
  provider := provider
  stage := stages asilB memory

/-- The history counts up, and the slots agree with it. -/
structure Publishes (asilB : Bool) (memory : SkeletonMemory slots LogIndex)
    (published : List EventTimeStamp) : Prop where
  counts : Countdown 1 published
  accounted : SlotsAccounted asilB memory published

/-- Every call leaves an event that goes on from the newest timestamp. -/
def timestampContract (slots : Nat) (LogIndex : Type) [DecidableEq LogIndex]
    (ampChecked asilB : Bool) :
    Contract (skeletonSystem slots LogIndex ampChecked asilB)
      (SkeletonView slots) where
  Inv config := Publishes asilB config.memory (config.object ()).published ∧
      (config.activity () = .idle →
        (config.object ()).event.Current asilB (config.object ()).published)
  view config _ := skeletonView asilB config.memory (config.object ())
  rules _ := skeletonRules asilB
  post _ _ reply view := reply.event.Current asilB view.provider.published

variable {memory : SkeletonMemory slots LogIndex} {provider : Provider slots}

omit [DecidableEq LogIndex] in
/-- An offer goes on from the newest timestamp, or starts on new memory. -/
theorem prepareOfferCall_respects {event : SkeletonEvent}
    (publishes : Publishes asilB memory provider.published)
    (few : provider.published.length < 2 ^ 32 - 2) :
    (SkeletonCall.prepareOffer.code asilB event :
      SkeletonProgram slots LogIndex _).Respects (skeletonRules asilB)
      (skeletonView asilB memory provider) fun reply after =>
        reply.event.Current asilB after.provider.published := by
  refine .perform trivial fun recreated survives => ?_
  cases recreated with
  | true =>
      refine (SkeletonEvent.prepareOfferOnNewMemory_respects rfl fun _ => rfl).bind ?_
      intro result after currentAfter
      exact currentAfter
  | false =>
      have bounds : ∀ timeStamp ∈ provider.published,
          1 < timeStamp ∧ timeStamp ≤ newest provider.published :=
        fun _ member => publishes.counts.bounds (by omega) member
      have starts : 1 ≤ newest provider.published := by
        cases history : provider.published with
        | nil => exact BitVec.le_refl _
        | cons timeStamp earlier =>
            have member : timeStamp ∈ provider.published := by
              rw [history]
              exact List.mem_cons_self
            exact BitVec.le_of_lt (bounds timeStamp member).1
      have offers : (event.prepareOffer asilB :
          SkeletonProgram slots LogIndex SkeletonEvent).Respects (skeletonRules asilB)
          (skeletonView asilB memory provider) fun result after =>
            result.Current asilB after.provider.published := by
        refine SkeletonEvent.prepareOffer_respects starts ?_ (survives rfl)
        intro slot timeStamp readable
        exact (bounds timeStamp (publishes.accounted.published slot timeStamp readable)).2
      refine offers.bind ?_
      intro result after currentAfter
      exact currentAfter

omit [DecidableEq LogIndex] in
/-- Every call keeps the rules. -/
theorem SkeletonCall.code_respects {call : SkeletonCall slots} {event : SkeletonEvent}
    (publishes : Publishes asilB memory provider.published)
    (few : provider.published.length < 2 ^ 32 - 2)
    (current : event.Current asilB provider.published) :
    (call.code asilB event : SkeletonProgram slots LogIndex _).Respects
      (skeletonRules asilB) (skeletonView asilB memory provider) fun reply after =>
        reply.event.Current asilB after.provider.published := by
  cases call with
  | prepareOffer => exact prepareOfferCall_respects publishes few
  | prepareStopOffer => exact current
  | allocate =>
      refine (SkeletonEvent.allocate_respects current).bind ?_
      intro result after currentAfter
      exact currentAfter
  | send sample =>
      refine (SkeletonEvent.send_respects current).bind ?_
      intro result after currentAfter
      exact currentAfter
  | discard sample =>
      refine (EventDataControlComposite.discard_follows _ _).bind ?_
      intro _ after same
      change event.Current asilB after.provider.published
      rw [same]
      exact current

omit [DecidableEq LogIndex] in
/-- The record of the provider when a call starts. -/
theorem onCall_event (provider : Provider slots) (call : SkeletonCall slots) :
    (provider.onCall call).event = provider.event ∧
      (provider.onCall call).published = provider.published := by
  cases call <;> exact ⟨rfl, rfl⟩

omit [DecidableEq LogIndex] in
/-- Nothing is published on a new shared memory. -/
theorem Publishes.initial :
    Publishes asilB (SkeletonMemory.new : SkeletonMemory slots LogIndex) [] where
  counts := trivial
  accounted :=
    { counted := fun _ => .inl ⟨rfl, rfl⟩
      published := by
        intro slot timeStamp readable
        cases readable }

variable {after : SkeletonMemory slots LogIndex} {op : SkeletonOp slots LogIndex}

/-- The effect of one operation on history and slots. -/
theorem Publishes.effect {answer : op.Ret}
    (publishes : Publishes asilB memory provider.published)
    (few : provider.published.length < 2 ^ 32 - 2)
    (unreferenced : ∀ quality slot timeStamp, op = .eventReady quality slot timeStamp →
      quality = publishedControl asilB → memory.references quality slot = 0)
    (may : (skeletonRules asilB).may (skeletonView asilB memory provider) op)
    (outcome : (answer, after) ∈ op.outcomes ampChecked memory) :
    Publishes asilB after (provider.observe asilB op answer).published ∧
      stages asilB after = stageAfter asilB (stages asilB memory) op answer := by
  cases op with
  | recreateUnused =>
      rcases List.mem_cons.mp outcome with opened | created
      · cases opened
        exact ⟨publishes, rfl⟩
      · cases List.mem_singleton.mp created
        exact ⟨.initial, rfl⟩
  | control quality op =>
      obtain ⟨accounted, stage⟩ := publishes.accounted.performControl may outcome
      exact ⟨⟨publishes.counts, accounted⟩, stage⟩
  | eventReady quality slot timeStamp =>
      have stamped : quality = publishedControl asilB → timeStamp ≠ 0 := by
        intro isMain isZero
        have next : Countdown 1 (timeStamp :: provider.published) := ⟨may isMain, publishes.counts⟩
        have value := next.toNat_newest (by rw [List.length_cons]; omega)
        rw [isZero] at value
        cases value
      obtain ⟨accounted, stage⟩ := publishes.accounted.performEventReady rfl stamped
        (unreferenced quality slot timeStamp rfl) outcome
      refine ⟨⟨?_, accounted⟩, stage⟩
      by_cases isMain : quality = publishedControl asilB
      · have grown : (provider.observe asilB (SkeletonOp.eventReady quality slot
            timeStamp : SkeletonOp slots LogIndex) answer).published =
              timeStamp :: provider.published := if_pos isMain
        rw [grown]
        exact ⟨may isMain, publishes.counts⟩
      · have same : (provider.observe asilB (SkeletonOp.eventReady quality slot
            timeStamp : SkeletonOp slots LogIndex) answer).published =
              provider.published := if_neg isMain
        rw [same]
        exact publishes.counts
  | notifyEvent quality | disconnectQmConsumers =>
      cases List.mem_singleton.mp outcome
      exact ⟨publishes, rfl⟩

/-- Reads answer with the words that are there, and memory is opened again where the
newest timestamp survives. -/
theorem skeletonView_expects {answer : op.Ret}
    (survives : ∀ recreated : Bool, op = .recreateUnused → HEq answer recreated →
      recreated = false → NewestSurvives asilB memory provider.published)
    (outcome : (answer, after) ∈ op.outcomes ampChecked memory) :
    (skeletonRules asilB).expects (skeletonView asilB memory provider) op answer := by
  cases op with
  | recreateUnused => exact survives answer rfl .rfl
  | control quality op =>
      cases op with
      | load slot =>
          obtain ⟨_, inner, same⟩ := List.mem_map.mp outcome
          cases List.mem_singleton.mp inner
          cases same
          intro isMain
          subst isMain
          rfl
      | _ => trivial
  | _ => trivial

theorem timestampContract_obligations :
    (timestampContract slots LogIndex ampChecked asilB).Obligations
      (survivingOffers asilB) where
  call := by
    intro config thread call inv permitted idle allowed after moved
    subst moved
    obtain ⟨publishes, current⟩ := inv
    obtain ⟨sameEvent, samePublished⟩ := onCall_event (config.object ()) call
    refine ⟨⟨?_, ?_⟩, fun other distinct => absurd rfl distinct, ?_⟩
    · change Publishes _ _ (update config.object () _ ()).published
      rw [update_self]
      exact samePublished ▸ publishes
    · intro isIdle
      rw [Config.update_activity_self] at isIdle
      cases isIdle
    · change Program.Respects _ (call.code asilB (config.object ()).event)
        (skeletonView _ _ (update config.object () _ ())) _
      rw [update_self]
      apply SkeletonCall.code_respects
      · exact samePublished ▸ publishes
      · exact samePublished ▸ permitted.1
      · exact samePublished ▸ current idle
  perform := by
    intro config thread call op next answer memory inv permitted running may outcome after moved
    subst moved
    obtain ⟨publishes, stage⟩ := Publishes.effect inv.1 permitted.1
      (fun quality slot timeStamp isReady isMain => by
        subst isReady
        exact permitted.2 isMain) may outcome
    refine ⟨⟨?_, fun isIdle => ?_⟩, fun other distinct => absurd rfl distinct, ?_, ?_⟩
    · change Publishes _ memory (update config.object () _ ()).published
      rw [update_self]
      exact publishes
    · rw [Config.update_activity_self] at isIdle
      cases isIdle
    · refine skeletonView_expects ?_ outcome
      rintro recreated rfl same isFalse
      cases same
      exact permitted.2 isFalse
    · change skeletonView _ memory (update config.object () _ ()) = _
      rw [update_self]
      exact congrArg (SkeletonView.mk _) stage
  finish := by
    intro config thread call reply inv _ _ post after moved
    subst moved
    refine ⟨⟨?_, fun _ => ?_⟩, fun other distinct => absurd rfl distinct⟩
    · change Publishes _ _ (update config.object () _ ()).published
      rw [update_self]
      exact inv.1
    · change SkeletonEvent.Current _ (update config.object () _ ()).event
        (update config.object () _ ()).published
      rw [update_self]
      exact post
  crash := by
    intro config thread object inv _ killed after moved
    subst moved
    cases killed
    refine ⟨⟨?_, fun _ => ?_⟩, fun other distinct => absurd rfl distinct⟩
    · change Publishes _ _ (update config.object () _ ()).published
      rw [update_self]
      exact inv.1
    · change SkeletonEvent.Current _ (update config.object () _ ()).event _
      rw [update_self]
      intro composite isComposite
      cases isComposite
  environment := by
    intro config memory inv _ moved after same
    subst same
    obtain ⟨accounted, stage⟩ := inv.1.accounted.consumerStep moved
    refine ⟨⟨⟨inv.1.counts, accounted⟩, inv.2⟩, fun thread => ?_⟩
    exact congrArg (SkeletonView.mk _) (funext stage)

/-! ## The law of the timestamps -/

/-- Every timestamp is new to consumers that saw an earlier one, or none. -/
structure TimestampLaw (config : SkeletonConfig slots LogIndex) : Prop where
  increases : (config.object ()).published.length < 2 ^ 32 - 2 →
    (config.object ()).published.Pairwise NewAfter
  first : (config.object ()).published.length < 2 ^ 32 - 2 →
    ∀ timeStamp ∈ (config.object ()).published, NewAfter timeStamp 0

/-- The law holds in every state of every such run, over any number of offers,
crashes and processes. -/
theorem timestampLaw_of_reached {config : SkeletonConfig slots LogIndex}
    (reached : Reaches (skeletonSystem slots LogIndex ampChecked asilB)
      (survivingOffers asilB) skeletonStart config) :
    TimestampLaw config := by
  have initially : (timestampContract slots LogIndex ampChecked asilB).Inv
      skeletonStart := by
    refine ⟨.initial, fun _ composite isComposite => ?_⟩
    cases isComposite
  have holds := Contract.run timestampContract_obligations initially (fun _ => rfl) reached
  have counts := holds.inv.1.counts
  refine ⟨counts.pairwise, fun few timeStamp member => ?_⟩
  obtain ⟨above, atMost⟩ := counts.bounds (by omega) member
  have newestNat := counts.toNat_newest (by omega)
  apply newAfter_of_lt
  · exact Nat.lt_trans Nat.zero_lt_one above
  · have bound : timeStamp.toNat ≤ (newest (config.object ()).published).toNat := atMost
    rw [BitVec.lt_def]
    change _ < 2 ^ 32 - 1
    omega

instance (memory : SkeletonMemory slots LogIndex)
    (published : List EventTimeStamp) :
    Decidable (NewestSurvives asilB memory published) :=
  inferInstanceAs (Decidable (_ ∨ _))

instance (config : SkeletonConfig slots LogIndex)
    (event : SkeletonSystemEvent slots LogIndex) :
    Decidable (survivingOffers asilB config event) :=
  match event with
  | .call _ _ => inferInstanceAs (Decidable (_ ∧ True))
  | .perform _ .recreateUnused true =>
      inferInstanceAs (Decidable (_ ∧ (true = false → NewestSurvives _ _ _)))
  | .perform _ .recreateUnused false =>
      inferInstanceAs (Decidable (_ ∧ (false = false → NewestSurvives _ _ _)))
  | .perform _ (.control _ _) _ => inferInstanceAs (Decidable (_ ∧ True))
  | .perform _ (.eventReady _ _ _) _ =>
      inferInstanceAs (Decidable (_ ∧ (_ → _)))
  | .perform _ (.notifyEvent _) _ => inferInstanceAs (Decidable (_ ∧ True))
  | .perform _ .disconnectQmConsumers _ =>
      inferInstanceAs (Decidable (_ ∧ True))
  | .finish _ _ _ => inferInstanceAs (Decidable (_ ∧ True))
  | .crash _ => inferInstanceAs (Decidable (_ ∧ True))
  | .environment => inferInstanceAs (Decidable (_ ∧ True))

end Contract

/-! ## Runs on one slot -/

/-- The only slot, allocated without an ASIL-B control. -/
def onlyQmSample : SampleAllocateePtr 1 := { eventSlotIndex := 0, eventDataControl := .new false }

/-- The event is offered and one sample is sent. -/
def offerAndSend : List (Choice Unit (SkeletonMemory 1 Empty) (SkeletonCall 1)) := List.flatten
    [providerCall .prepareOffer 3, providerCall .allocate 3, providerCall (.send onlyQmSample) 3]

theorem timestampLaw_of_restarted : ∃ config : SkeletonConfig 1 Empty,
      (config.object ()).published = [3, 2] ∧ TimestampLaw config := by
  obtain ⟨config, reached, published⟩ :=
    exists_reached (skeletonSystem 1 Empty true false) (survivingOffers false)
      skeletonStart (offerAndSend ++ [.crash ()] ++ offerAndSend)
      (fun config => (config.object ()).published = [3, 2])
      (by decide +kernel)
  exact ⟨config, published, timestampLaw_of_reached reached⟩

/-- The provider crashes while it holds the only slot, so that the next process
finds no timestamp. -/
theorem timestampLaw_violated : ¬ ∀ config : SkeletonConfig 1 Empty,
      Reaches (skeletonSystem 1 Empty true false)
          (fun config _ => (config.object ()).published.length < 2 ^ 32 - 2)
          skeletonStart config →
        TimestampLaw config := by
  intro law
  obtain ⟨config, reached, published⟩ := exists_reached (skeletonSystem 1 Empty true false)
      (fun config _ => (config.object ()).published.length < 2 ^ 32 - 2)
      skeletonStart
      (offerAndSend ++ providerCall .allocate 3 ++ [.crash ()] ++
        providerCall .prepareOffer 4 ++ providerCall .allocate 3 ++
        providerCall (.send onlyQmSample) 3)
      (fun config => (config.object ()).published = [2, 2])
      (by decide +kernel)
  have increases := (law config reached).increases
  rw [published] at increases
  have newer : NewAfter 2 2 := by
    have pairs := increases (by decide)
    rw [List.pairwise_cons] at pairs
    exact pairs.1 2 (List.mem_singleton_self 2)
  exact absurd newer.1 (BitVec.lt_irrefl _)

end MwCom.Lola
