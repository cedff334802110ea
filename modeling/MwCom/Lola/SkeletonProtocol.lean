/-
Module: MwCom.Lola.SkeletonProtocol
Purpose: The rules a skeleton event keeps on the control its timestamps come
  from, and what each of its functions does under them.
Trusted boundary: none
Main exports: SlotStage, SkeletonView, skeletonRules, SkeletonEvent.Current,
  SkeletonEvent.prepareOffer_respects, SkeletonEvent.allocate_respects,
  SkeletonEvent.send_respects
-/
import MwCom.Interleaving.Contract
import MwCom.Lola.SkeletonEvent

namespace MwCom.Lola

open Interleaving SkeletonProgram EventDataControl Provider EventSlotStatus

variable {slots : Nat} {LogIndex : Type}

/-- What a status word says apart from its references. -/
inductive SlotStage where
  | invalid
  | inWriting
  | readable (timeStamp : EventTimeStamp)
deriving DecidableEq, Repr

def EventSlotStatus.stage (status : EventSlotStatus) : SlotStage :=
  if status.isInvalid then .invalid
  else if status.isInWriting then .inWriting
  else .readable status.getTimeStamp

variable {status : EventSlotStatus}

theorem EventSlotStatus.stage_eq_inWriting (isInWriting : status.isInWriting = true) :
    status.stage = .inWriting := by
  have word := isInWriting_iff.mp isInWriting
  simp [stage, isInvalid, word, isInWriting, invalid_ne_inWriting.symm]

theorem EventSlotStatus.stage_eq_readable_iff {timeStamp : EventTimeStamp} :
    status.stage = .readable timeStamp ↔ (!status.isInvalid && !status.isInWriting) = true ∧
        status.getTimeStamp = timeStamp := by
  rw [stage]
  split
  · simp [*]
  · split
    · simp [*]
    · simp [*]

theorem EventSlotStatus.stage_eq_readable (notInvalid : status.data ≠ invalid)
    (notInWriting : status.data ≠ inWriting) :
    status.stage = .readable status.getTimeStamp := by
  simp [stage, isInvalid, isInWriting, notInvalid, notInWriting]

/-- The timestamp published last, or where an event starts. -/
def newest (published : List EventTimeStamp) : EventTimeStamp := published.headD 1

/-- The provider with the slots of its control. -/
structure SkeletonView (slots : Nat) where
  provider : Provider slots
  stage : Fin slots → SlotStage

section Rules

/-- The word an operation stores in the control of the timestamps. -/
def storedWord (asilB : Bool) :
    (op : SkeletonOp slots LogIndex) → op.Ret → Option (Fin slots × StatusWord)
  | .control quality (.store slot word), _ =>
      if quality = publishedControl asilB then some (slot, word) else none
  | .control quality (.compareExchangeWeak slot _ desired), true =>
      if quality = publishedControl asilB then some (slot, desired) else none
  | .control quality (.compareExchangeStrong slot _ desired), true =>
      if quality = publishedControl asilB then some (slot, desired) else none
  | .eventReady quality slot timeStamp, _ =>
      if quality = publishedControl asilB then
        some (slot, (ofTimeStamp timeStamp 0).data)
      else
        none
  | _, _ => none

/-- The slots after a word was stored somewhere. -/
def storedStage (stage : Fin slots → SlotStage) :
    Option (Fin slots × StatusWord) → Fin slots → SlotStage
  | none => stage
  | some (slot, word) => Function.update stage slot (EventSlotStatus.mk word).stage

/-- The slots after an operation. -/
def stageAfter (asilB : Bool) (stage : Fin slots → SlotStage) :
    (op : SkeletonOp slots LogIndex) → op.Ret → Fin slots → SlotStage
  | .recreateUnused, true => fun _ => .invalid
  | op, answer => storedStage stage (storedWord asilB op answer)

/-- Operations on the control of the timestamps: unused words become the
in-writing sentinel, and that becomes invalid again. -/
def mayControl (stage : Fin slots → SlotStage) : ControlOp slots LogIndex → Prop
  | .load _ => True
  | .check _ _ => True
  | .terminate => True
  | .compareExchangeWeak _ expected desired =>
      ((EventSlotStatus.mk expected).getReferenceCount = 0 ∧ desired = inWriting) ∨
        (expected = inWriting ∧ desired = invalid)
  | .compareExchangeStrong _ expected desired =>
      (EventSlotStatus.mk expected).getReferenceCount = 0 ∧ desired = inWriting
  | .store slot word => word = invalid ∧ stage slot = .inWriting
  | _ => False

variable (asilB : Bool)

/-- A sample is published with the timestamp after the newest, which is still in a
readable slot of memory that is opened again, if anything was published at
all. -/
def skeletonRules : Rules (SkeletonOp slots LogIndex) SkeletonOp.Ret (SkeletonView slots) where
  may view
    | .control quality op =>
        quality = publishedControl asilB → mayControl view.stage op
    | .eventReady quality _ timeStamp =>
        quality = publishedControl asilB → timeStamp = newest view.provider.published + 1
    | _ => True
  expects view
    | .recreateUnused, recreated =>
        recreated = false → view.provider.published = [] ∨
          ∃ slot, view.stage slot = .readable (newest view.provider.published)
    | .control quality (.load slot), word =>
        quality = publishedControl asilB → (EventSlotStatus.mk word).stage = view.stage slot
    | _, _ => True
  next view op answer :=
    { provider := view.provider.observe asilB op answer
      stage := stageAfter asilB view.stage op answer }

/-- The same for programs on one control. -/
def controlRules (quality : QualityType) :
    Rules (ControlOp slots LogIndex) ControlOp.Ret (SkeletonView slots) where
  may view op := (skeletonRules asilB).may view
    (SkeletonOp.control quality op)
  expects view op answer := (skeletonRules asilB).expects view
    (SkeletonOp.control quality op) answer
  next view op answer := (skeletonRules asilB).next view
    (SkeletonOp.control quality op) answer

end Rules

section Programs

variable {α : Type} {asilB : Bool}
  {view : SkeletonView slots} {quality : QualityType}

theorem onControl_respects {program : ControlProgram slots LogIndex α}
    {post : α → SkeletonView slots → Prop}
    (respected : program.Respects (controlRules asilB quality) view post) :
    (onControl quality program).Respects (skeletonRules asilB) view
      post := by
  have allowed : ∀ current op, (controlRules asilB quality).may current op →
        (skeletonRules asilB).may current
          (SkeletonOp.control quality op : SkeletonOp slots LogIndex) :=
    fun _ _ may => may
  exact Program.Respects.lift allowed (fun _ _ _ expects => ⟨expects, rfl⟩) respected

/-! ## Allocation

No program on a control changes the record of the provider. -/

/-- The search of the sender only reads. -/
theorem findOldestUnusedSlotAmong_follows (among : List (Fin slots))
    (oldestTimeStamp : EventTimeStamp) (selectedIndex : Option (Fin slots)) :
    (findOldestUnusedSlotAmong among oldestTimeStamp selectedIndex :
      ControlProgram slots LogIndex _).Respects
      (controlRules asilB quality) view
      fun _ after => after.provider = view.provider := by
  induction among generalizing view oldestTimeStamp selectedIndex with
  | nil => rfl
  | cons currentIndex rest ih =>
      rw [findOldestUnusedSlotAmong]
      refine .perform (fun _ => trivial) fun word _ => ?_
      dsimp only
      split
      · rfl
      · split
        · exact ih _ _
        · exact ih _ _

theorem allocateRetries_follows (remaining : Nat) (selectedIndex : Option (Fin slots)) :
    (allocateRetries remaining selectedIndex : ControlProgram slots LogIndex _).Respects
      (controlRules asilB quality) view
      fun _ after => after.provider = view.provider := by
  induction remaining generalizing view selectedIndex with
  | zero => rfl
  | succ remaining ih =>
      rw [allocateRetries]
      refine (findOldestUnusedSlotAmong_follows _ _ _).bind ?_
      intro found after same
      rw [← same]
      cases found with
      | none => exact ih none
      | some index =>
          refine .perform (fun _ => trivial) fun word _ => ?_
          dsimp only
          split
          · exact ih (some index)
          · rename_i usable
            simp only [Bool.or_eq_true, bne_iff_ne, not_or, not_not] at usable
            refine .perform (fun _ => .inl ⟨usable.1, rfl⟩) fun won _ => ?_
            cases won with
            | false => exact ih (some index)
            | true => rfl

theorem allocateNextSlot_follows : (onControl quality EventDataControl.allocateNextSlot :
      SkeletonProgram slots LogIndex _).Respects (skeletonRules asilB) view
      fun _ after => after.provider = view.provider := by
  refine onControl_respects ((allocateRetries_follows _ _).bind ?_)
  rintro ⟨retryCounter, selectedIndex⟩ after same
  dsimp only
  split
  · exact same
  · exact same

namespace EventDataControlComposite

theorem getNextFreeMultiSlotAmong_follows (among : List (Fin slots))
    (oldestTimeStamp : EventTimeStamp) (possibleIndex : Option (Fin slots)) :
    (getNextFreeMultiSlotAmong among oldestTimeStamp possibleIndex :
      SkeletonProgram slots LogIndex _).Respects (skeletonRules asilB) view
      fun _ after => after.provider = view.provider := by
  induction among generalizing view oldestTimeStamp possibleIndex with
  | nil =>
      cases possibleIndex with
      | none => rfl
      | some slot => rfl
  | cons slotIndex rest ih =>
      rw [getNextFreeMultiSlotAmong]
      refine .perform (fun _ => trivial) fun wordQm _ => ?_
      refine .perform (fun _ => trivial) fun wordB _ => ?_
      dsimp only
      split
      · exact ih _ _
      · exact ih _ _

/-- With two controls the timestamps come from the ASIL-B control, whose word
is unused when it is locked. -/
theorem tryLockSlot_follows (slot : Fin slots) (expectedTimeStamp : EventTimeStamp) :
    (tryLockSlot slot expectedTimeStamp :
      SkeletonProgram slots LogIndex _).Respects (skeletonRules true) view
      fun _ after => after.provider = view.provider := by
  rw [tryLockSlot]
  refine .perform (fun _ => trivial) fun wordQm _ => ?_
  refine .perform (fun _ => trivial) fun wordB _ => ?_
  dsimp only
  split
  · rfl
  · rename_i usable
    simp only [Bool.or_eq_true, isUsed, bne_iff_ne, not_or, not_not] at usable
    refine .perform (fun other => nomatch other) fun wonQm _ => ?_
    cases wonQm with
    | false => rfl
    | true =>
        refine .perform (fun _ => ⟨usable.2.1.1, rfl⟩) fun wonB _ => ?_
        cases wonB with
        | false => exact .perform (fun other => nomatch other) fun _ _ => rfl
        | true => rfl

theorem allocateMultiRetries_follows (remaining : Nat) : (allocateMultiRetries remaining :
      SkeletonProgram slots LogIndex _).Respects (skeletonRules true) view
      fun _ after => after.provider = view.provider := by
  induction remaining generalizing view with
  | zero => rfl
  | succ remaining ih =>
      rw [allocateMultiRetries]
      refine (getNextFreeMultiSlotAmong_follows _ _ _).bind ?_
      intro possibleSlot after same
      rw [← same]
      cases possibleSlot with
      | none => exact ih
      | some candidate =>
          refine (tryLockSlot_follows _ _).bind ?_
          intro locked reached sameAgain
          rw [← sameAgain]
          cases locked with
          | true => rfl
          | false => exact ih

/-- An allocation keeps which controls there are; without an ASIL-B control it
keeps the whole composite. -/
theorem allocateNextSlot_follows {composite : EventDataControlComposite}
    (quality : composite.asilBControl = asilB) :
    (composite.allocateNextSlot : SkeletonProgram slots LogIndex _).Respects
      (skeletonRules asilB) view fun result after =>
        after.provider = view.provider ∧ result.1.asilBControl = asilB ∧
          (asilB = false → result.1 = composite) := by
  subst quality
  rw [EventDataControlComposite.allocateNextSlot]
  cases both : composite.asilBControl with
  | false =>
      refine (Lola.allocateNextSlot_follows).bind ?_
      intro slot after same
      exact ⟨same, both, fun _ => rfl⟩
  | true =>
      rw [if_pos rfl]
      split
      · refine (allocateMultiRetries_follows _).bind ?_
        intro slot after same
        cases slot with
        | some slot => exact ⟨same, both, fun other => nomatch other⟩
        | none =>
            refine (Lola.allocateNextSlot_follows).bind ?_
            intro fallback reached sameAgain
            exact ⟨sameAgain.trans same, rfl, fun other => nomatch other⟩
      · refine (Lola.allocateNextSlot_follows).bind ?_
        intro slot after same
        exact ⟨same, both, fun other => nomatch other⟩

/-! ## Publication -/

/-- The sample is published with the next timestamp. -/
theorem eventReady_follows {composite : EventDataControlComposite}
    {timeStamp : EventTimeStamp} (slot : Fin slots) (quality : composite.asilBControl = asilB)
    (used : asilB = false → composite.ignoreQmControl = false)
    (isNext : timeStamp = newest view.provider.published + 1) :
    (composite.eventReady slot timeStamp :
      SkeletonProgram slots LogIndex Unit).Respects (skeletonRules asilB)
      view fun _ after =>
        after.provider.published = timeStamp :: view.provider.published := by
  subst quality
  rw [EventDataControlComposite.eventReady]
  cases both : composite.asilBControl with
  | false =>
      rw [used both]
      exact .perform (fun _ => isNext) fun _ _ => rfl
  | true =>
      refine .perform (fun _ => isNext) fun _ _ => ?_
      cases composite.ignoreQmControl with
      | true => rfl
      | false => exact .perform (fun other => nomatch other) fun _ _ => rfl

end EventDataControlComposite

/-- A slot is marked invalid only if it is found in writing. -/
theorem discard_follows (slot : Fin slots) : (onControl quality (EventDataControl.discard slot) :
      SkeletonProgram slots LogIndex Unit).Respects (skeletonRules asilB)
      view fun _ after => after.provider = view.provider := by
  refine onControl_respects ?_
  refine .perform (fun _ => trivial) fun word found => ?_
  dsimp only
  split
  · rename_i isInWriting
    refine ⟨fun isMain => ⟨rfl, ?_⟩, fun _ _ => rfl⟩
    change view.stage slot = .inWriting
    rw [← found isMain]
    exact stage_eq_inWriting isInWriting
  · rfl

/-- A step that publishes nothing, taken under a condition. -/
theorem onlyIf_follows {condition : Bool} {program : SkeletonProgram slots LogIndex Unit}
    (taken : program.Respects (skeletonRules asilB) view
      fun _ after => after.provider.published = view.provider.published) :
    (onlyIf condition program).Respects (skeletonRules asilB) view
      fun _ after => after.provider.published = view.provider.published := by
  cases condition with
  | true => exact taken
  | false => rfl

theorem EventDataControlComposite.discard_follows
    (composite : EventDataControlComposite) (slot : Fin slots) :
    (composite.discard slot : SkeletonProgram slots LogIndex Unit).Respects
      (skeletonRules asilB) view
      fun _ after => after.provider.published = view.provider.published := by
  have discards : ∀ quality (current : SkeletonView slots),
      (onControl quality (EventDataControl.discard slot) :
        SkeletonProgram slots LogIndex Unit).Respects
        (skeletonRules asilB) current fun _ after =>
          after.provider.published = current.provider.published := by
    intro quality current
    refine (Lola.discard_follows slot).mono ?_
    intro _ after same
    rw [same]
  rw [EventDataControlComposite.discard]
  refine (onlyIf_follows (discards .asilB view)).bind ?_
  intro _ after same
  rw [← same]
  exact onlyIf_follows (discards .asilQm after)

/-! ## Opening the shared memory again -/

/-- The readable slots are those from before, with their timestamps. -/
structure SameReadable (view after : SkeletonView slots) : Prop where
  provider : after.provider = view.provider
  readable : ∀ slot timeStamp, after.stage slot = .readable timeStamp ↔
    view.stage slot = .readable timeStamp

theorem SameReadable.refl (view : SkeletonView slots) : SameReadable view view :=
  ⟨rfl, fun _ _ => Iff.rfl⟩

theorem SameReadable.trans {middle after : SkeletonView slots}
    (first : SameReadable view middle) (second : SameReadable middle after) :
    SameReadable view after where
  provider := second.provider.trans first.provider
  readable slot timeStamp := (second.readable slot timeStamp).trans (first.readable slot timeStamp)

/-- The slot in writing becomes invalid, the readable ones stay. -/
theorem sameReadable_clear {slot : Fin slots} (expected : StatusWord)
    (inWriting : quality = publishedControl asilB → view.stage slot = .inWriting) :
    SameReadable view
      ((skeletonRules asilB).next view
        (SkeletonOp.control quality (.compareExchangeWeak slot expected
          invalid) : SkeletonOp slots LogIndex) true) := by
  have cleared : (EventSlotStatus.mk invalid).stage = .invalid := rfl
  refine ⟨rfl, fun position timeStamp => ?_⟩
  change storedStage view.stage (if quality = publishedControl asilB then
    some (slot, invalid) else none) position = _ ↔ _
  by_cases isMain : quality = publishedControl asilB
  · rw [if_pos isMain]
    by_cases isSlot : position = slot
    · subst isSlot
      simp [storedStage, cleared, inWriting isMain]
    · simp [storedStage, isSlot]
  · rw [if_neg isMain]
    rfl

theorem removeAllocationsForWritingAmong_follows (among : List (Fin slots)) :
    (removeAllocationsForWritingAmong among : ControlProgram slots LogIndex Unit).Respects
      (controlRules asilB quality) view
      fun _ after => SameReadable view after := by
  induction among generalizing view with
  | nil => exact .refl view
  | cons slot rest ih =>
      rw [removeAllocationsForWritingAmong]
      refine .perform (fun _ => trivial) fun word found => ?_
      have loaded : (controlRules asilB quality).next view
          (ControlOp.load slot : ControlOp slots LogIndex) word = view := rfl
      rw [loaded]
      dsimp only
      split
      · rename_i isInWriting
        have isSentinel := isInWriting_iff.mp isInWriting
        have inWriting : quality = publishedControl asilB → view.stage slot = .inWriting := by
          intro isMain
          rw [← found isMain]
          exact stage_eq_inWriting isInWriting
        refine .perform (fun _ => .inr ⟨isSentinel, rfl⟩) fun cleared _ => ?_
        cases cleared with
        | false => exact ⟨fun _ => trivial, fun answer => nomatch answer⟩
        | true =>
            have readable : SameReadable view
                ((controlRules asilB quality).next view (.compareExchangeWeak slot word invalid :
                    ControlOp slots LogIndex) true) :=
              sameReadable_clear word inWriting
            change Program.Respects _ (removeAllocationsForWritingAmong rest) _ _
            refine Program.Respects.mono ih ?_
            intro _ after sameReadable
            exact readable.trans sameReadable
      · exact ih

/-- The clean-up leaves the readable slots as they are. -/
theorem cleanupSharedMemoryAfterCrash_follows : (SkeletonEvent.cleanupSharedMemoryAfterCrash asilB :
      SkeletonProgram slots LogIndex Unit).Respects (skeletonRules asilB)
      view fun _ after => SameReadable view after := by
  have cleans : ∀ quality (before : SkeletonView slots),
      (onControl quality removeAllocationsForWriting : SkeletonProgram slots LogIndex Unit).Respects
        (skeletonRules asilB) before
          fun _ after => SameReadable before after :=
    fun _ _ => onControl_respects (removeAllocationsForWritingAmong_follows _)
  rw [SkeletonEvent.cleanupSharedMemoryAfterCrash]
  refine (cleans .asilQm view).bind ?_
  intro _ cleaned sameReadable
  cases asilB with
  | false => exact sameReadable
  | true =>
      refine (cleans .asilB cleaned).mono ?_
      intro _ after sameAgain
      exact sameReadable.trans sameAgain

namespace EventDataControlComposite

/-- The search comes to `top` if no readable slot is above it, and if it starts
there or some slot that remains is there. -/
theorem getLatestTimestampAmong_follows {composite : EventDataControlComposite}
    {top : EventTimeStamp} (quality : composite.asilBControl = asilB)
    (below : ∀ slot timeStamp, view.stage slot = .readable timeStamp → timeStamp ≤ top)
    (among : List (Fin slots)) {latestTimeStamp : EventTimeStamp} (notAbove : latestTimeStamp ≤ top)
    (found : latestTimeStamp = top ∨ ∃ slot ∈ among, view.stage slot = .readable top) :
    (composite.getLatestTimestampAmong among latestTimeStamp :
      SkeletonProgram slots LogIndex _).Respects (skeletonRules asilB) view
      fun result after => after.provider = view.provider ∧ result = top := by
  induction among generalizing latestTimeStamp with
  | nil =>
      rcases found with same | ⟨slot, member, _⟩
      · exact ⟨rfl, same⟩
      · cases member
  | cons slotIndex rest ih =>
      have isMain : composite.latestControl = publishedControl asilB := by
        rw [latestControl, publishedControl, quality]
      rw [getLatestTimestampAmong]
      refine .perform (fun _ => trivial) fun word read => ?_
      have loaded : (skeletonRules asilB).next view
          (SkeletonOp.control composite.latestControl (.load slotIndex) :
            SkeletonOp slots LogIndex) word = view := rfl
      rw [loaded]
      have wordStage := read isMain
      dsimp only
      split
      · rename_i later
        obtain ⟨readable, later⟩ := Bool.and_eq_true_iff.mp later
        have above := of_decide_eq_true later
        have isReadable : view.stage slotIndex =
            .readable (EventSlotStatus.mk word).getTimeStamp := by
          rw [← wordStage]
          exact stage_eq_readable_iff.mpr ⟨readable, rfl⟩
        have notAboveTop := below slotIndex _ isReadable
        refine ih notAboveTop ?_
        rcases found with same | ⟨slot, member, atTop⟩
        · subst same
          exact absurd above (BitVec.not_lt.mpr notAboveTop)
        · rcases List.mem_cons.mp member with isFirst | later
          · subst isFirst
            rw [isReadable] at atTop
            cases atTop
            exact .inl rfl
          · exact .inr ⟨slot, later, atTop⟩
      · rename_i notLater
        refine ih notAbove ?_
        rcases found with same | ⟨slot, member, atTop⟩
        · exact .inl same
        · rcases List.mem_cons.mp member with isFirst | later
          · subst isFirst
            rw [atTop] at wordStage
            obtain ⟨readable, stamp⟩ := stage_eq_readable_iff.mp wordStage
            refine .inl (BitVec.le_antisymm notAbove ?_)
            rw [readable, Bool.true_and, decide_eq_true_eq, stamp] at notLater
            exact BitVec.not_lt.mp notLater
          · exact .inr ⟨slot, later, atTop⟩

end EventDataControlComposite

namespace SkeletonEvent

/-- The event goes on from the newest timestamp, on the controls of its
instance. -/
def Current (asilB : Bool) (event : SkeletonEvent)
    (published : List EventTimeStamp) : Prop :=
  ∀ composite, event.eventDataControlComposite = some composite → composite.asilBControl = asilB ∧
      (asilB = false → composite.ignoreQmControl = false) ∧
      event.currentTimestamp = newest published

variable {event : SkeletonEvent}

theorem allocate_respects (current : event.Current asilB view.provider.published) :
    (event.allocate : SkeletonProgram slots LogIndex _).Respects
      (skeletonRules asilB) view fun result after =>
        result.1.Current asilB after.provider.published := by
  rw [allocate]
  split
  · exact current
  · rename_i composite found
    obtain ⟨quality, used, stamp⟩ := current composite found
    refine (EventDataControlComposite.allocateNextSlot_follows quality).bind ?_
    rintro ⟨changed, slot, ignored⟩ after ⟨same, sameQuality, kept⟩
    have connects : (onlyIf (!event.qmDisconnect && ignored)
        disconnectQmConsumers : SkeletonProgram slots LogIndex Unit).Respects
        (skeletonRules asilB) after
          fun _ reached =>
            reached.provider.published = after.provider.published :=
      onlyIf_follows ⟨trivial, fun _ _ => rfl⟩
    refine connects.bind ?_
    intro _ reached sameAgain other isOther
    cases isOther
    refine ⟨sameQuality, ?_, ?_⟩
    · intro qmOnly
      have unchanged : changed = composite := kept qmOnly
      rw [unchanged]
      exact used qmOnly
    · rw [sameAgain, same]
      exact stamp

/-- The event continues where the history ended, if the newest timestamp is still
readable. -/
theorem prepareOffer_respects (starts : 1 ≤ newest view.provider.published)
    (below : ∀ slot timeStamp, view.stage slot = .readable timeStamp →
      timeStamp ≤ newest view.provider.published)
    (survives : view.provider.published = [] ∨ ∃ slot,
      view.stage slot = .readable (newest view.provider.published)) :
    (event.prepareOffer asilB : SkeletonProgram slots LogIndex SkeletonEvent).Respects
      (skeletonRules asilB) view fun result after =>
        result.Current asilB after.provider.published := by
  rw [prepareOffer]
  refine cleanupSharedMemoryAfterCrash_follows.bind ?_
  intro _ cleaned sameReadable
  have published := congrArg Provider.published sameReadable.provider
  have found : (1 : EventTimeStamp) = newest view.provider.published ∨
      ∃ slot ∈ List.finRange slots, cleaned.stage slot =
        .readable (newest view.provider.published) := by
    rcases survives with nothing | ⟨slot, readable⟩
    · rw [nothing]
      exact .inl rfl
    · exact .inr ⟨slot, List.mem_finRange slot, (sameReadable.readable slot _).mpr readable⟩
  have quality : (EventDataControlComposite.new asilB).asilBControl = asilB := rfl
  have latest : ((EventDataControlComposite.new asilB).getLatestTimestamp :
      SkeletonProgram slots LogIndex EventTimeStamp).Respects
      (skeletonRules asilB) cleaned fun result after =>
        after.provider = cleaned.provider ∧ result = newest view.provider.published :=
    EventDataControlComposite.getLatestTimestampAmong_follows quality
      (fun slot timeStamp readable => below slot timeStamp
        ((sameReadable.readable slot timeStamp).mp readable))
      (List.finRange slots) starts found
  refine latest.bind ?_
  rintro currentTimestamp after ⟨same, isNewest⟩ composite isComposite
  cases isComposite
  refine ⟨rfl, fun _ => rfl, ?_⟩
  rw [same, published]
  exact isNewest

/-- On memory created anew it starts again. -/
theorem prepareOfferOnNewMemory_respects (nothing : view.provider.published = [])
    (unwritten : ∀ slot, view.stage slot = .invalid) :
    (event.prepareOfferOnNewMemory asilB :
      SkeletonProgram slots LogIndex SkeletonEvent).Respects (skeletonRules asilB) view
      fun result after => result.Current asilB after.provider.published := by
  rw [prepareOfferOnNewMemory]
  have quality : (EventDataControlComposite.new asilB).asilBControl = asilB := rfl
  have latest : ((EventDataControlComposite.new asilB).getLatestTimestamp :
      SkeletonProgram slots LogIndex EventTimeStamp).Respects (skeletonRules asilB) view
      fun result after => after.provider = view.provider ∧ result = 1 := by
    apply EventDataControlComposite.getLatestTimestampAmong_follows quality _
      (List.finRange slots) (BitVec.le_refl 1) (.inl rfl)
    intro slot timeStamp readable
    rw [unwritten slot] at readable
    cases readable
  refine latest.bind ?_
  rintro currentTimestamp after ⟨same, isFirst⟩ composite isComposite
  cases isComposite
  refine ⟨rfl, fun _ => rfl, ?_⟩
  rw [same, nothing]
  exact isFirst

theorem send_respects {sample : SampleAllocateePtr slots}
    (current : event.Current asilB view.provider.published) :
    (event.send asilB sample : SkeletonProgram slots LogIndex SkeletonEvent).Respects
      (skeletonRules asilB) view fun result after =>
        result.Current asilB after.provider.published := by
  rw [send]
  split
  · exact ⟨fun _ => trivial, fun answer => nomatch answer⟩
  · rename_i composite found
    obtain ⟨quality, used, stamp⟩ := current composite found
    refine (EventDataControlComposite.eventReady_follows _ quality used (by rw [stamp])).bind ?_
    intro _ stored published
    have notifies : ∀ condition quality (before : SkeletonView slots),
        (onlyIf condition (notifyEvent quality) : SkeletonProgram slots LogIndex Unit).Respects
          (skeletonRules asilB) before fun _ after =>
            after.provider.published = before.provider.published :=
      fun _ _ _ => onlyIf_follows ⟨trivial, fun _ _ => rfl⟩
    refine (notifies _ .asilQm stored).bind ?_
    intro _ notifiedQm sameQm
    refine (notifies _ .asilB notifiedQm).bind ?_
    intro _ notifiedB sameB
    refine (EventDataControlComposite.discard_follows _ _).bind ?_
    intro _ after sameAfter other isOther
    have isComposite : composite = other := Option.some.inj (found.symm.trans isOther)
    subst isComposite
    refine ⟨quality, used, ?_⟩
    rw [sameAfter, sameB, sameQm, published]
    rfl

end SkeletonEvent

end Programs

end MwCom.Lola
