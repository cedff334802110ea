/-
Module: MwCom.Lola.SendNumber
Purpose: The timestamp of the n-th sample that is sent after an offer, and for
  which n it is one that consumers and the allocation can work with.
Trusted boundary: none
Main exports: ValidSend, SendableNumber, sendContract, validSend_iff_of_reached,
  exists_sent
-/
import MwCom.Lola.PublishedTimestamps
import MwCom.Lola.UndisturbedCollection

namespace MwCom.Lola

open Interleaving Program SkeletonProgram EventDataControl Provider EventSlotStatus Function

variable {slots : Nat} {LogIndex : Type}

/-! ## Timestamps that work -/

/-- The timestamp `timeStamp`, sent after `previous`: its word is no sentinel, it
is below the bound of every search and above the one before; its slot is found
by a consumer that saw `previous` last, and by the allocation once it is not
referenced. -/
structure ValidSend (timeStamp previous : EventTimeStamp) : Prop where
  notInvalid : (ofTimeStamp timeStamp 0).data ≠ invalid
  notInWriting : (ofTimeStamp timeStamp 0).data ≠ inWriting
  below : timeStamp < timestampMax
  later : previous < timeStamp
  found : ∀ (slots : Nat) (control after : EventControl slots Empty)
      (slot : Fin slots) (refCount : SubscriberCount)
      (result : EventSlotStatus × Option (Fin slots)),
    control.stateSlots slot = (ofTimeStamp timeStamp refCount).data → Ends (ControlOp.outcomes true)
          (findCandidateAmong timestampMax (List.finRange slots) (ofTimeStamp previous 0) none)
          control result after →
        result.2 ≠ none
  counted : ∀ (slots : Nat) (control after : EventControl slots Empty)
      (slot : Fin slots) (refCount : SubscriberCount) (result : Nat),
    control.stateSlots slot = (ofTimeStamp timeStamp refCount).data →
      Ends (ControlOp.outcomes true) (getNumNewEvents previous) control result
          after →
        0 < result
  allocated : ∀ (slots : Nat) (control after : EventControl slots Empty)
      (slot : Fin slots) (result : Option (Fin slots)),
    control.stateSlots slot = (ofTimeStamp timeStamp 0).data →
      Ends (ControlOp.outcomes true) findOldestUnusedSlot control result after → result ≠ none

/-- Between the timestamp before and the highest timestamp everything works. -/
theorem validSend_of_between {timeStamp previous : EventTimeStamp} (later : previous < timeStamp)
    (below : timeStamp < timestampMax) :
    ValidSend timeStamp previous := by
  have newer := newAfter_of_lt later below
  have stamped : (ofTimeStamp timeStamp 0).getTimeStamp ≠ 0 := by
    rw [getTimeStamp_ofTimeStamp]
    intro isZero
    subst isZero
    exact absurd later BitVec.not_lt_zero
  obtain ⟨notInvalid, notInWriting⟩ := readable_of_timeStamp stamped
  have isBetween : ∀ {slots : Nat} {control : EventControl slots Empty} {slot : Fin slots}
      {refCount : SubscriberCount}, control.stateSlots slot = (ofTimeStamp timeStamp refCount).data →
        Undisturbed.between control previous timestampMax slot = true := by
    intro slots control slot refCount word
    rw [Undisturbed.between, Undisturbed.status, word]
    exact newer.2 refCount
  refine ⟨notInvalid, notInWriting, below, later, ?_, ?_, ?_⟩
  · intro slots control after slot refCount result word ends
    have searched := @Undisturbed.findCandidateAmong_endsOnly _ _ control _
      (@Undisturbed.readsWords_outcomes _ _ _ true) timestampMax (List.finRange slots)
      (ofTimeStamp previous 0) none
    rw [getTimeStamp_ofTimeStamp] at searched
    rcases searched with ⟨-, nowhere⟩ | ⟨other, -, only⟩
    · have notHere := nowhere slot (List.mem_finRange slot)
      rw [isBetween word] at notHere
      cases notHere
    · obtain ⟨rfl, -⟩ := (only _ _).mp ends
      exact Option.some_ne_none _
  · intro slots control after slot refCount result word ends
    obtain ⟨rfl, -⟩ := (Undisturbed.getNumNewEventsAmong_endsOnly
      Undisturbed.readsWords_outcomes (List.finRange slots) 0 _ _).mp ends
    rw [Nat.zero_add]
    exact List.countP_pos_iff.mpr ⟨slot, List.mem_finRange slot, isBetween word⟩
  · intro slots control after slot result word ends
    obtain ⟨rfl, -⟩ := (Undisturbed.findOldestUnusedSlotAmong_endsOnly
      Undisturbed.readsWords_outcomes (List.finRange slots) timestampMax none _ _).mp ends
    have allocatable : Undisturbed.Allocatable control slot := by
      refine .inr ⟨⟨?_, ?_⟩, ?_⟩
      · rw [Undisturbed.status, word]
        exact getReferenceCount_ofTimeStamp _ _
      · rw [Undisturbed.status, word]
        simpa [isInWriting] using notInWriting
      · rw [Undisturbed.status, word]
        change (ofTimeStamp timeStamp 0).getTimeStamp < _
        rw [getTimeStamp_ofTimeStamp]
        exact below
    obtain ⟨victim, isVictim⟩ := allocatable.exists_victim
    rw [Undisturbed.found_eq_some_iff.mpr isVictim]
    exact Option.some_ne_none _

/-- The number of the Send, counted from one, that neither wraps its timestamp
to zero nor gives it the highest value; the event was offered when `latest` was
the latest timestamp. -/
def SendableNumber (latest : EventTimeStamp) (number : Nat) : Prop :=
  (latest.toNat + number) % 2 ^ 32 ≠ 0 ∧ (latest.toNat + number) % 2 ^ 32 ≠ 2 ^ 32 - 1

instance (latest : EventTimeStamp) (number : Nat) : Decidable (SendableNumber latest number) :=
  inferInstanceAs (Decidable (_ ∧ _))

/-- A history that counts up from `latest` has a valid newest timestamp exactly at
these numbers; the first is also compared with what was published before. -/
theorem Countdown.validSend_iff {latest timeStamp : EventTimeStamp}
    {others old : List EventTimeStamp} (counts : Countdown latest (timeStamp :: others)) :
    ValidSend timeStamp ((others ++ old).headD 0) ↔ SendableNumber latest (others.length + 1) ∧
        (others = [] → old.headD 0 ≤ latest) := by
  have value : timeStamp.toNat = (latest.toNat + (others.length + 1)) % 2 ^ 32 := counts.toNat_headD
  have previous : timeStamp.toNat ≠ 0 → (((others ++ old).headD 0).toNat < timeStamp.toNat ↔
        (others = [] → old.headD 0 ≤ latest)) := by
    intro notZero
    cases others with
    | nil =>
        have range := latest.isLt
        simp only [List.length_nil] at value
        have next : timeStamp.toNat = latest.toNat + 1 := by omega
        rw [next, Nat.lt_succ_iff]
        exact ⟨fun atMost _ => atMost, fun atMost => atMost rfl⟩
    | cons last rest =>
        have lastValue : last.toNat = (latest.toNat + (rest.length + 1)) % 2 ^ 32 :=
          counts.2.toNat_headD
        rw [List.length_cons] at value
        have less : last.toNat < timeStamp.toNat := by omega
        exact iff_of_true less fun isEmpty => nomatch isEmpty
  rw [SendableNumber]
  constructor
  · intro valid
    have above : ((others ++ old).headD 0).toNat < timeStamp.toNat := valid.later
    have bounded : timeStamp.toNat < 2 ^ 32 - 1 := valid.below
    have notZero : timeStamp.toNat ≠ 0 := by omega
    exact ⟨by omega, (previous notZero).mp above⟩
  · rintro ⟨⟨notZero, notMax⟩, notAbove⟩
    apply validSend_of_between
    · exact (previous (by omega)).mpr notAbove
    · have range := timeStamp.isLt
      change timeStamp.toNat < 2 ^ 32 - 1
      omega

/-! ## From one offer to the next -/

/-- The composite of an event is on the controls of its instance. -/
def SkeletonEvent.OnItsControls (asilB : Bool) (event : SkeletonEvent) : Prop :=
  ∀ composite, event.eventDataControlComposite = some composite → composite.asilBControl = asilB ∧
      (asilB = false → composite.ignoreQmControl = false)

/-- The operation leaves what was published alone. -/
def SkeletonOp.IsQuiet : SkeletonOp slots LogIndex → Prop
  | .recreateUnused => False
  | .eventReady _ _ _ => False
  | _ => True

/-- What was published stays one of the `good` histories. -/
def historyRules (asilB : Bool) (good : List EventTimeStamp → Prop) :
    Rules (SkeletonOp slots LogIndex) SkeletonOp.Ret (Provider slots) where
  may provider
    | .recreateUnused => good []
    | .eventReady quality _ timeStamp =>
        quality = publishedControl asilB → good (timeStamp :: provider.published)
    | _ => True
  expects _ _ _ := True
  next := Provider.observe asilB

section Programs

variable {α : Type} {asilB : Bool} {good : List EventTimeStamp → Prop}
  {provider : Provider slots}

theorem respects_of_quiet {program : SkeletonProgram slots LogIndex α}
    (quiet : program.Performs SkeletonOp.IsQuiet) :
    program.Respects (historyRules asilB good) provider
      fun _ after => after.published = provider.published := by
  induction program generalizing provider with
  | done result => rfl
  | step op next ih =>
      obtain ⟨isQuiet, continued⟩ := quiet
      cases op with
      | recreateUnused | eventReady quality slot timeStamp => exact isQuiet.elim
      | control quality op => exact ⟨trivial, fun answer _ => ih answer (continued answer)⟩
      | notifyEvent quality | disconnectQmConsumers =>
          exact ⟨trivial, fun answer _ => ih answer (continued answer)⟩

/-- Programs on the controls are quiet. -/
theorem onControl_quiet (quality : QualityType)
    (program : ControlProgram slots LogIndex α) :
    (onControl quality program).Performs SkeletonOp.IsQuiet := by
  induction program with
  | done result => exact .done _
  | step op next ih => exact .perform trivial ih

theorem onlyIf_quiet {condition : Bool} {program : SkeletonProgram slots LogIndex Unit}
    (quiet : program.Performs SkeletonOp.IsQuiet) :
    (onlyIf condition program).Performs SkeletonOp.IsQuiet := by
  cases condition with
  | true => exact quiet
  | false => exact .done _

namespace EventDataControlComposite

theorem getNextFreeMultiSlotAmong_quiet (among : List (Fin slots))
    (oldestTimeStamp : EventTimeStamp) (possibleIndex : Option (Fin slots)) :
    (getNextFreeMultiSlotAmong among oldestTimeStamp possibleIndex :
      SkeletonProgram slots LogIndex _).Performs SkeletonOp.IsQuiet := by
  induction among generalizing oldestTimeStamp possibleIndex with
  | nil =>
      cases possibleIndex with
      | none => exact .done _
      | some slot => exact .done _
  | cons slotIndex rest ih =>
      refine .perform trivial fun wordQm => ?_
      refine .perform trivial fun wordB => ?_
      exact .ite (fun _ => ih _ _) fun _ => ih _ _

theorem tryLockSlot_quiet (slot : Fin slots) (expectedTimeStamp : EventTimeStamp) :
    (tryLockSlot slot expectedTimeStamp :
      SkeletonProgram slots LogIndex _).Performs SkeletonOp.IsQuiet := by
  refine .perform trivial fun wordQm => ?_
  refine .perform trivial fun wordB => ?_
  refine .ite (fun _ => .done _) fun _ => ?_
  refine .perform trivial fun wonQm => ?_
  cases wonQm with
  | false => exact .done _
  | true =>
      refine .perform trivial fun wonB => ?_
      cases wonB with
      | false => exact .perform trivial fun _ => .done _
      | true => exact .done _

theorem allocateMultiRetries_quiet (remaining : Nat) : (allocateMultiRetries remaining :
      SkeletonProgram slots LogIndex _).Performs SkeletonOp.IsQuiet := by
  induction remaining with
  | zero => exact .done _
  | succ remaining ih =>
      refine (getNextFreeMultiSlotAmong_quiet _ _ _).bind ?_
      intro possibleSlot
      cases possibleSlot with
      | none => exact ih
      | some candidate =>
          refine (tryLockSlot_quiet _ _).bind ?_
          intro locked
          cases locked with
          | false => exact ih
          | true => exact .done _

theorem getLatestTimestampAmong_quiet (composite : EventDataControlComposite)
    (among : List (Fin slots)) (latestTimeStamp : EventTimeStamp) :
    (composite.getLatestTimestampAmong among latestTimeStamp :
      SkeletonProgram slots LogIndex _).Performs SkeletonOp.IsQuiet := by
  induction among generalizing latestTimeStamp with
  | nil => exact .done _
  | cons slotIndex rest ih =>
      refine .perform trivial fun word => ?_
      exact .ite (fun _ => ih _) fun _ => ih _

theorem discard_quiet (composite : EventDataControlComposite) (slot : Fin slots) :
    (composite.discard slot : SkeletonProgram slots LogIndex Unit).Performs
      SkeletonOp.IsQuiet :=
  (onlyIf_quiet (onControl_quiet _ _)).bind fun _ => onlyIf_quiet (onControl_quiet _ _)

/-- An allocation publishes nothing, and keeps which controls there are. -/
theorem allocateNextSlot_history (composite : EventDataControlComposite) :
    (composite.allocateNextSlot : SkeletonProgram slots LogIndex _).Respects
      (historyRules asilB good) provider fun result after =>
        after.published = provider.published ∧ result.1.asilBControl = composite.asilBControl ∧
          (composite.asilBControl = false → result.1 = composite) := by
  rw [allocateNextSlot]
  split
  · rename_i both
    split
    · refine (respects_of_quiet (allocateMultiRetries_quiet _)).bind ?_
      intro slot after same
      cases slot with
      | some slot => exact ⟨same, rfl, fun _ => rfl⟩
      | none =>
          refine (respects_of_quiet (onControl_quiet _ _)).bind ?_
          intro fallback reached sameAgain
          refine ⟨sameAgain.trans same, rfl, fun other => ?_⟩
          rw [both] at other
          cases other
    · refine (respects_of_quiet (onControl_quiet _ _)).bind ?_
      intro slot after same
      exact ⟨same, rfl, fun _ => rfl⟩
  · refine (respects_of_quiet (onControl_quiet _ _)).bind ?_
    intro slot after same
    exact ⟨same, rfl, fun _ => rfl⟩

/-- The sample is published once. -/
theorem eventReady_history {composite : EventDataControlComposite} (slot : Fin slots)
    {timeStamp : EventTimeStamp} (quality : composite.asilBControl = asilB)
    (used : asilB = false → composite.ignoreQmControl = false)
    (isGood : good (timeStamp :: provider.published)) :
    (composite.eventReady slot timeStamp :
      SkeletonProgram slots LogIndex Unit).Respects (historyRules asilB good) provider
      fun _ after => after.published = timeStamp :: provider.published := by
  subst quality
  rw [EventDataControlComposite.eventReady]
  cases both : composite.asilBControl with
  | false =>
      rw [used both]
      exact .perform (fun _ => isGood) fun _ _ => rfl
  | true =>
      refine .perform (fun _ => isGood) fun _ _ => ?_
      cases composite.ignoreQmControl with
      | true => rfl
      | false => exact .perform (fun other => by cases other) fun _ _ => rfl

end EventDataControlComposite

namespace SkeletonEvent

variable {event : SkeletonEvent}

theorem prepareOfferOnNewMemory_history : (event.prepareOfferOnNewMemory asilB :
      SkeletonProgram slots LogIndex SkeletonEvent).Respects (historyRules asilB good)
      provider fun result _ => result.OnItsControls asilB := by
  rw [prepareOfferOnNewMemory]
  refine (respects_of_quiet (EventDataControlComposite.getLatestTimestampAmong_quiet _ _ _)).bind ?_
  intro currentTimestamp after _ composite isComposite
  cases isComposite
  exact ⟨rfl, fun _ => rfl⟩

theorem prepareOffer_history : (event.prepareOffer asilB :
      SkeletonProgram slots LogIndex SkeletonEvent).Respects (historyRules asilB good)
      provider fun result _ => result.OnItsControls asilB := by
  rw [prepareOffer]
  have cleans : (cleanupSharedMemoryAfterCrash asilB :
      SkeletonProgram slots LogIndex Unit).Performs SkeletonOp.IsQuiet :=
    (onControl_quiet _ _).bind fun _ => onlyIf_quiet (onControl_quiet _ _)
  refine (respects_of_quiet cleans).bind ?_
  intro _ cleaned _
  exact prepareOfferOnNewMemory_history

theorem allocate_history (controls : event.OnItsControls asilB) :
    (event.allocate : SkeletonProgram slots LogIndex _).Respects
      (historyRules asilB good) provider fun result after =>
        after.published = provider.published ∧ result.1.currentTimestamp = event.currentTimestamp ∧
          result.1.OnItsControls asilB := by
  rw [allocate]
  split
  · exact ⟨rfl, rfl, controls⟩
  · rename_i composite found
    obtain ⟨quality, used⟩ := controls composite found
    refine (EventDataControlComposite.allocateNextSlot_history composite).bind ?_
    rintro ⟨changed, slot, ignored⟩ after ⟨same, sameQuality, kept⟩
    have connects : (onlyIf (!event.qmDisconnect && ignored) disconnectQmConsumers :
        SkeletonProgram slots LogIndex Unit).Performs SkeletonOp.IsQuiet :=
      onlyIf_quiet (.last trivial)
    refine (respects_of_quiet connects).bind ?_
    intro _ reached sameAgain
    refine ⟨sameAgain.trans same, rfl, ?_⟩
    intro other isOther
    cases isOther
    refine ⟨sameQuality.trans quality, fun qmOnly => ?_⟩
    have unchanged : changed = composite := kept (quality.trans qmOnly)
    rw [unchanged]
    exact used qmOnly

/-- A Send publishes the timestamp after the one that the event remembers. -/
theorem send_history {sample : SampleAllocateePtr slots}
    (controls : event.OnItsControls asilB)
    (isGood : good ((event.currentTimestamp + 1) :: provider.published)) :
    (event.send asilB sample :
      SkeletonProgram slots LogIndex SkeletonEvent).Respects (historyRules asilB good)
      provider fun result after =>
        after.published = (event.currentTimestamp + 1) :: provider.published ∧
          result.currentTimestamp = event.currentTimestamp + 1 ∧
          result.OnItsControls asilB := by
  rw [send]
  split
  · exact ⟨trivial, fun answer => answer.elim⟩
  · rename_i composite found
    obtain ⟨quality, used⟩ := controls composite found
    refine (EventDataControlComposite.eventReady_history _ quality used isGood).bind ?_
    intro _ stored published
    have notifies : ∀ condition quality, (onlyIf condition (notifyEvent quality) :
        SkeletonProgram slots LogIndex Unit).Performs SkeletonOp.IsQuiet :=
      fun _ _ => onlyIf_quiet (.last trivial)
    refine (respects_of_quiet (notifies _ _)).bind ?_
    intro _ notifiedQm sameQm
    refine (respects_of_quiet (notifies _ _)).bind ?_
    intro _ notifiedB sameB
    refine (respects_of_quiet (EventDataControlComposite.discard_quiet _ _)).bind ?_
    intro _ after same
    refine ⟨?_, rfl, controls⟩
    rw [same, sameB, sameQm, published]

end SkeletonEvent

end Programs

section Runs

variable [DecidableEq LogIndex] {ampChecked asilB : Bool}

/-- No offer is prepared, and the process lives on. -/
def keepsOffer : SkeletonSystemEvent slots LogIndex → Prop
  | .call _ .prepareOffer => False
  | .crash _ => False
  | _ => True

instance (event : SkeletonSystemEvent slots LogIndex) : Decidable (keepsOffer event) :=
  match event with
  | .call _ .prepareOffer => .isFalse id
  | .call _ .prepareStopOffer => .isTrue trivial
  | .call _ .allocate => .isTrue trivial
  | .call _ (.send _) => .isTrue trivial
  | .call _ (.discard _) => .isTrue trivial
  | .perform _ _ _ => .isTrue trivial
  | .finish _ _ _ => .isTrue trivial
  | .crash _ => .isFalse id
  | .environment => .isTrue trivial

/-- Between two calls the timestamp of the event and the history are as `goesOn`
says, and during a call the history goes on with some timestamp. -/
def sendContract (slots : Nat) (LogIndex : Type) [DecidableEq LogIndex]
    (ampChecked asilB : Bool) (goesOn : EventTimeStamp → List EventTimeStamp → Prop) :
    Contract (skeletonSystem slots LogIndex ampChecked asilB) (Provider slots) where
  Inv config := (config.object ()).event.OnItsControls asilB ∧
    (∃ timeStamp, goesOn timeStamp (config.object ()).published) ∧ (config.activity () = .idle →
        goesOn (config.object ()).event.currentTimestamp (config.object ()).published)
  view config _ := config.object ()
  rules _ := historyRules asilB fun published => ∃ timeStamp, goesOn timeStamp published
  post _ _ reply view := reply.event.OnItsControls asilB ∧
    goesOn reply.event.currentTimestamp view.published

variable {goesOn : EventTimeStamp → List EventTimeStamp → Prop}

omit [DecidableEq LogIndex] in
/-- Every call but an offer goes on. -/
theorem SkeletonCall.code_history {call : SkeletonCall slots} {event : SkeletonEvent}
    {provider : Provider slots} (controls : event.OnItsControls asilB)
    (isOn : goesOn event.currentTimestamp provider.published)
    (sends : ∀ timeStamp published, goesOn timeStamp published →
      goesOn (timeStamp + 1) ((timeStamp + 1) :: published))
    (offers : call = .prepareOffer → ∀ timeStamp published, goesOn timeStamp published) :
    (call.code asilB event : SkeletonProgram slots LogIndex _).Respects
      (historyRules asilB fun published => ∃ timeStamp, goesOn timeStamp published)
      provider fun reply after => reply.event.OnItsControls asilB ∧
        goesOn reply.event.currentTimestamp after.published := by
  cases call with
  | prepareOffer =>
      have anyOn := offers rfl
      refine .perform ⟨1, anyOn _ _⟩ fun recreated _ => ?_
      cases recreated with
      | true =>
          refine SkeletonEvent.prepareOfferOnNewMemory_history.bind ?_
          intro result after controlsAfter
          exact ⟨controlsAfter, anyOn _ _⟩
      | false =>
          refine SkeletonEvent.prepareOffer_history.bind ?_
          intro result after controlsAfter
          exact ⟨controlsAfter, anyOn _ _⟩
  | prepareStopOffer => exact ⟨controls, isOn⟩
  | allocate =>
      refine (SkeletonEvent.allocate_history controls).bind ?_
      rintro result after ⟨samePublished, sameTimestamp, controlsAfter⟩
      refine ⟨controlsAfter, ?_⟩
      change goesOn result.1.currentTimestamp after.published
      rw [samePublished, sameTimestamp]
      exact isOn
  | send sample =>
      have next := sends _ _ isOn
      refine (SkeletonEvent.send_history controls ⟨_, next⟩).bind ?_
      rintro result after ⟨published, timestamp, controlsAfter⟩
      refine ⟨controlsAfter, ?_⟩
      change goesOn result.currentTimestamp after.published
      rw [published, timestamp]
      exact next
  | discard sample =>
      refine (respects_of_quiet (EventDataControlComposite.discard_quiet _ _)).bind ?_
      intro _ after same
      refine ⟨controls, ?_⟩
      change goesOn event.currentTimestamp after.published
      rw [same]
      exact isOn

theorem sendContract_obligations
    (sends : ∀ timeStamp published, goesOn timeStamp published →
      goesOn (timeStamp + 1) ((timeStamp + 1) :: published)) :
    (sendContract slots LogIndex ampChecked asilB goesOn).Obligations fun _ event =>
      keepsOffer event ∨ ∀ timeStamp published, goesOn timeStamp published where
  call := by
    intro config thread call inv permitted idle allowed after moved
    subst moved
    obtain ⟨controls, someOn, isOn⟩ := inv
    obtain ⟨sameEvent, samePublished⟩ := onCall_event (config.object ()) call
    refine ⟨⟨?_, ?_, ?_⟩, fun other distinct => absurd rfl distinct, ?_⟩
    · change (update config.object () _ ()).event.OnItsControls _
      rw [update_self]
      exact sameEvent ▸ controls
    · change ∃ _, goesOn _ (update config.object () _ ()).published
      rw [update_self]
      exact samePublished ▸ someOn
    · intro isIdle
      rw [Config.update_activity_self] at isIdle
      cases isIdle
    · change Program.Respects _ (call.code asilB (config.object ()).event)
        (update config.object () _ ()) _
      rw [update_self]
      refine SkeletonCall.code_history controls ?_ sends ?_
      · exact samePublished ▸ isOn idle
      · rintro rfl
        exact permitted.resolve_left id
  perform := by
    intro config thread call op next answer memory inv _ _ may _ after moved
    subst moved
    obtain ⟨controls, someOn, _⟩ := inv
    refine ⟨⟨?_, ?_, fun isIdle => ?_⟩, fun other distinct => absurd rfl distinct, trivial, ?_⟩
    · change (update config.object () _ ()).event.OnItsControls _
      rw [update_self]
      cases op with
      | recreateUnused => cases answer <;> exact controls
      | _ => exact controls
    · change ∃ _, goesOn _ (update config.object () _ ()).published
      rw [update_self]
      cases op with
      | recreateUnused =>
          cases answer with
          | true => exact may
          | false => exact someOn
      | eventReady quality slot timeStamp =>
          change ∃ _, goesOn _ (ite _ _ _)
          split
          · rename_i isMain
            exact may isMain
          · exact someOn
      | _ => exact someOn
    · rw [Config.update_activity_self] at isIdle
      cases isIdle
    · change update config.object () _ () = _
      rw [update_self]
      rfl
  finish := by
    intro config thread call reply inv _ _ post after moved
    subst moved
    refine ⟨⟨?_, ?_, fun _ => ?_⟩, fun other distinct => absurd rfl distinct⟩
    · change (update config.object () _ ()).event.OnItsControls _
      rw [update_self]
      exact post.1
    · change ∃ _, goesOn _ (update config.object () _ ()).published
      rw [update_self]
      exact inv.2.1
    · change goesOn (update config.object () _ ()).event.currentTimestamp
        (update config.object () _ ()).published
      rw [update_self]
      exact post.2
  crash := by
    intro config thread object _ permitted killed after moved
    subst moved
    cases killed
    have anyOn := permitted.resolve_left id
    refine ⟨⟨?_, ⟨1, anyOn _ _⟩, fun _ => anyOn _ _⟩, fun other distinct => absurd rfl distinct⟩
    change (update config.object () _ ()).event.OnItsControls _
    rw [update_self]
    intro composite isComposite
    cases isComposite
  environment := by
    intro config memory inv _ _ after moved
    subst moved
    exact ⟨inv, fun _ => rfl⟩

/-- What was published after `old`, when the event went on from `latest`. -/
def GoesOn (latest : EventTimeStamp) (old : List EventTimeStamp)
    (current : EventTimeStamp) (published : List EventTimeStamp) : Prop :=
  ∃ sent, published = sent ++ old ∧ current = sent.headD latest ∧ Countdown latest sent

variable {offered config : SkeletonConfig slots LogIndex}

/-- While the offer is kept, the history counts up from where it was. -/
theorem goesOn_of_reached
    (reached : Reaches (skeletonSystem slots LogIndex ampChecked asilB)
      (fun _ _ => True) skeletonStart offered)
    (idle : offered.activity () = .idle)
    (keeps : Reaches (skeletonSystem slots LogIndex ampChecked asilB)
      (fun _ event => keepsOffer event) offered config) :
    ∃ current, GoesOn (offered.object ()).event.currentTimestamp
      (offered.object ()).published current (config.object ()).published := by
  have initially : (sendContract slots LogIndex ampChecked asilB
      fun _ _ => True).Inv skeletonStart := by
    refine ⟨fun composite isComposite => ?_, ⟨1, trivial⟩, fun _ => trivial⟩
    cases isComposite
  have before := Contract.run (sendContract_obligations fun _ _ _ => trivial) initially
    (fun _ => rfl) (reached.weaken fun _ _ _ => .inr fun _ _ => trivial)
  have starts : GoesOn (offered.object ()).event.currentTimestamp
      (offered.object ()).published (offered.object ()).event.currentTimestamp
      (offered.object ()).published := ⟨[], rfl, rfl, trivial⟩
  have sends : ∀ timeStamp published, GoesOn (offered.object ()).event.currentTimestamp
      (offered.object ()).published timeStamp published →
        GoesOn (offered.object ()).event.currentTimestamp (offered.object ()).published
          (timeStamp + 1) ((timeStamp + 1) :: published) := by
    rintro timeStamp published ⟨sent, rfl, rfl, counts⟩
    exact ⟨_ :: sent, rfl, rfl, rfl, counts⟩
  have holds := Contract.run (sendContract_obligations sends)
    ⟨before.inv.1, ⟨_, starts⟩, fun _ => starts⟩ (fun _ => idle)
    (keeps.weaken fun _ _ isKept => .inl isKept)
  exact holds.inv.2.1

/-- `offered` is a state between two calls of any run; after an offer, the timestamp
of its event is the latest in the slots.  While the process goes on without another
offer, its samples are valid exactly if their numbers from there are sendable, and
the first of them if nothing later was published before. -/
theorem validSend_iff_of_reached {timeStamp : EventTimeStamp}
    {others : List EventTimeStamp}
    (reached : Reaches (skeletonSystem slots LogIndex ampChecked asilB)
      (fun _ _ => True) skeletonStart offered)
    (idle : offered.activity () = .idle)
    (keeps : Reaches (skeletonSystem slots LogIndex ampChecked asilB)
      (fun _ event => keepsOffer event) offered config)
    (sent : (config.object ()).published = timeStamp :: (others ++ (offered.object ()).published)) :
    ValidSend timeStamp ((others ++ (offered.object ()).published).headD 0) ↔
      SendableNumber (offered.object ()).event.currentTimestamp (others.length + 1) ∧
        (others = [] → (offered.object ()).published.headD 0 ≤
          (offered.object ()).event.currentTimestamp) := by
  obtain ⟨_, counted, same, _, counts⟩ := goesOn_of_reached reached idle keeps
  have isCounted : counted = timeStamp :: others := List.append_cancel_right (same.symm.trans sent)
  rw [isCounted] at counts
  exact counts.validSend_iff

/-! ## One process sends on and on -/

/-- A program on one control, alone. -/
theorem onControl_endsAlone {α : Type} {quality : QualityType}
    {program : ControlProgram slots LogIndex α} {result : α}
    {memory : SkeletonMemory slots LogIndex}
    {control : EventControl slots LogIndex} {provider : Provider slots}
    (ends : program.Ends (ControlOp.outcomes ampChecked) (memory.control quality) result control) :
    (SkeletonProgram.onControl quality program).Ends
      ((skeletonSystem slots LogIndex ampChecked asilB).alone ())
      (memory, provider) result (memory.setControl quality control, provider) := by
  induction program generalizing memory with
  | done returned =>
      obtain ⟨rfl, rfl⟩ := ends
      rw [SkeletonMemory.setControl_self]
      exact ⟨rfl, rfl⟩
  | step op next ih =>
      obtain ⟨answer, middle, outcome, continued⟩ := ends
      have rest := @ih answer (memory.setControl quality middle) (by simpa using continued)
      rw [SkeletonMemory.setControl_setControl] at rest
      refine ⟨answer, (memory.setControl quality middle, provider), ?_, rest⟩
      refine List.mem_map.mpr ⟨(answer, memory.setControl quality middle), ?_, rfl⟩
      exact List.mem_map.mpr ⟨(answer, middle), outcome, rfl⟩

end Runs

section OneSlot

variable {ampChecked : Bool} {control : EventControl 1 Empty}

/-- Reading the status word changes nothing. -/
theorem ends_load {α : Type} {next : StatusWord → ControlProgram 1 Empty α} {result : α}
    {after : EventControl 1 Empty}
    (ends : Ends (ControlOp.outcomes ampChecked) (next (control.stateSlots 0)) control result after) :
    Ends (ControlOp.outcomes ampChecked) (ControlProgram.load 0 >>= next) control result after :=
  ⟨_, _, List.mem_singleton_self _, ends⟩

/-- The only slot can be allocated. -/
def Allocatable (control : EventControl 1 Empty) : Prop :=
  (EventSlotStatus.mk (control.stateSlots 0)).isUsed = false ∧
    (EventSlotStatus.mk (control.stateSlots 0)).getTimeStamp < timestampMax

theorem findOldestUnusedSlot_ends (allocatable : Allocatable control) :
    (findOldestUnusedSlot : ControlProgram 1 Empty _).Ends
      (ControlOp.outcomes ampChecked) control (some 0) control := by
  obtain ⟨unused, below⟩ := allocatable
  have eligible : ((EventSlotStatus.mk (control.stateSlots 0)).getReferenceCount == 0 &&
      !(EventSlotStatus.mk (control.stateSlots 0)).isInWriting &&
      decide ((EventSlotStatus.mk (control.stateSlots 0)).getTimeStamp < timestampMax)) = true := by
    simpa [isUsed, below] using unused
  have onlySlot : List.finRange 1 = [0] := rfl
  rw [findOldestUnusedSlot, onlySlot, findOldestUnusedSlotAmong]
  refine ends_load ?_
  dsimp only
  rw [if_pos eligible]
  split
  · exact ⟨rfl, rfl⟩
  · exact ⟨rfl, rfl⟩

/-- It is allocated in the first pass. -/
theorem allocateNextSlot_ends (allocatable : Allocatable control) :
    (EventDataControl.allocateNextSlot : ControlProgram 1 Empty _).Ends
      (ControlOp.outcomes ampChecked) control (some 0)
      (control.setSlot 0 inWriting) := by
  have usable : ¬ ((EventSlotStatus.mk (control.stateSlots 0)).getReferenceCount != 0 ||
      (EventSlotStatus.mk (control.stateSlots 0)).isInWriting) = true := by
    rw [Bool.not_eq_true]
    exact allocatable.1
  have firstPass : (allocateRetries (maxAllocateRetries + 1) none :
      ControlProgram 1 Empty _).Ends (ControlOp.outcomes ampChecked) control
      (0, some 0) (control.setSlot 0 inWriting) := by
    rw [allocateRetries]
    refine ends_bind.mpr ⟨some 0, control, findOldestUnusedSlot_ends allocatable, ?_⟩
    refine ends_load ?_
    dsimp only
    rw [if_neg usable]
    refine ⟨true, control.setSlot 0 inWriting, ?_, rfl, rfl⟩
    change _ ∈ ite _ _ _
    rw [if_pos rfl]
    exact List.mem_cons_self
  exact ends_bind.mpr ⟨_, _, firstPass, rfl, rfl⟩

/-! ### One sample more -/

/-- The event after it was offered, with the timestamp used last. -/
def eventAt (currentTimestamp : EventTimeStamp) : SkeletonEvent where
  eventDataControlComposite := some (.new false)
  currentTimestamp := currentTimestamp
  qmDisconnect := false

theorem allocate_ends {memory : SkeletonMemory 1 Empty} {provider : Provider 1}
    (timeStamp : EventTimeStamp) (allocatable : Allocatable (memory.control .asilQm)) :
    (SkeletonCall.allocate.code false (eventAt timeStamp) :
      SkeletonProgram 1 Empty (SkeletonReply 1)).Ends
      ((skeletonSystem 1 Empty ampChecked false).alone ()) (memory, provider)
      ⟨eventAt timeStamp, some onlyQmSample⟩
      (memory.setControl .asilQm ((memory.control .asilQm).setSlot 0 inWriting), provider) := by
  have allocated := @onControl_endsAlone 1 Empty _ ampChecked false _ .asilQm _ _
    memory _ provider (allocateNextSlot_ends allocatable)
  have composite : ((EventDataControlComposite.new false).allocateNextSlot :
      SkeletonProgram 1 Empty _).Ends
      ((skeletonSystem 1 Empty ampChecked false).alone ()) (memory, provider)
      (.new false, some 0, false)
      (memory.setControl .asilQm ((memory.control .asilQm).setSlot 0 inWriting), provider) :=
    ends_bind.mpr ⟨some 0, _, allocated, rfl, rfl⟩
  have event : ((eventAt timeStamp).allocate : SkeletonProgram 1 Empty _).Ends
      ((skeletonSystem 1 Empty ampChecked false).alone ()) (memory, provider)
      (eventAt timeStamp, some onlyQmSample)
      (memory.setControl .asilQm ((memory.control .asilQm).setSlot 0 inWriting), provider) :=
    ends_bind.mpr ⟨_, _, composite, ends_bind.mpr ⟨(), _, ⟨rfl, rfl⟩, rfl, rfl⟩⟩
  exact ends_bind.mpr ⟨_, _, event, rfl, rfl⟩

/-- The word of a sample just sent is not the in-writing sentinel. -/
theorem ofTimeStamp_not_inWriting (timeStamp : EventTimeStamp) :
    (ofTimeStamp timeStamp 0).isInWriting = false := by
  have unreferenced := getReferenceCount_ofTimeStamp timeStamp 0
  cases inWriting : (ofTimeStamp timeStamp 0).isInWriting with
  | false => rfl
  | true =>
      have word := isInWriting_iff.mp inWriting
      rw [getReferenceCount, word] at unreferenced
      cases unreferenced

theorem send_ends {memory : SkeletonMemory 1 Empty} {provider : Provider 1}
    (timeStamp : EventTimeStamp) :
    ∃ after : Provider 1, after.published = (timeStamp + 1) :: provider.published ∧
        after.allocatees = provider.allocatees ∧
        ((SkeletonCall.send onlyQmSample).code false (eventAt timeStamp) :
          SkeletonProgram 1 Empty (SkeletonReply 1)).Ends
          ((skeletonSystem 1 Empty ampChecked false).alone ()) (memory, provider)
          ⟨eventAt (timeStamp + 1), none⟩
          (memory.setControl .asilQm ((memory.control .asilQm).setSlot 0
            (ofTimeStamp (timeStamp + 1) 0).data), after) := by
  let control := (memory.control .asilQm).setSlot 0
    (ofTimeStamp (timeStamp + 1) 0).data
  let stored := provider.observe false
    (SkeletonOp.eventReady .asilQm 0 (timeStamp + 1) : SkeletonOp 1 Empty) ()
  let notified := stored.observe false
    (SkeletonOp.notifyEvent .asilQm : SkeletonOp 1 Empty) ()
  refine ⟨notified, rfl, rfl, ?_⟩
  have ready : ((EventDataControlComposite.new false).eventReady 0 (timeStamp + 1) :
      SkeletonProgram 1 Empty Unit).Ends
      ((skeletonSystem 1 Empty ampChecked false).alone ()) (memory, provider) ()
      (memory.setControl .asilQm control, stored) :=
    ends_bind.mpr ⟨(), _, ⟨rfl, rfl⟩, (), _, List.mem_singleton_self _, rfl, rfl⟩
  have notifies : (SkeletonProgram.onlyIf true (SkeletonProgram.notifyEvent .asilQm) :
      SkeletonProgram 1 Empty Unit).Ends
      ((skeletonSystem 1 Empty ampChecked false).alone ())
      (memory.setControl .asilQm control, stored) ()
      (memory.setControl .asilQm control, notified) :=
    ⟨(), _, List.mem_singleton_self _, rfl, rfl⟩
  have discarded : (EventDataControl.discard 0 : ControlProgram 1 Empty Unit).Ends
      (ControlOp.outcomes ampChecked) control () control := by
    rw [EventDataControl.discard]
    refine ends_load ?_
    rw [EventControl.stateSlots_setSlot_self]
    dsimp only
    rw [ofTimeStamp_not_inWriting]
    exact ⟨rfl, rfl⟩
  have onQm := @onControl_endsAlone 1 Empty _ ampChecked false _ .asilQm _ _
    (memory.setControl .asilQm control) _ notified
    (by rw [SkeletonMemory.control_setControl_self]; exact discarded)
  rw [SkeletonMemory.setControl_setControl] at onQm
  have destroyed : ((EventDataControlComposite.new false).discard 0 :
      SkeletonProgram 1 Empty Unit).Ends
      ((skeletonSystem 1 Empty ampChecked false).alone ())
      (memory.setControl .asilQm control, notified) ()
      (memory.setControl .asilQm control, notified) :=
    ends_bind.mpr ⟨(), _, ⟨rfl, rfl⟩, onQm⟩
  have event : ((eventAt timeStamp).send false onlyQmSample :
      SkeletonProgram 1 Empty SkeletonEvent).Ends
      ((skeletonSystem 1 Empty ampChecked false).alone ()) (memory, provider)
      (eventAt (timeStamp + 1)) (memory.setControl .asilQm control, notified) :=
    ends_bind.mpr ⟨(), _, ready, ends_bind.mpr ⟨(), _, notifies,
      ends_bind.mpr ⟨(), _, ⟨rfl, rfl⟩, ends_bind.mpr ⟨(), _, destroyed, rfl, rfl⟩⟩⟩⟩
  exact ends_bind.mpr ⟨_, _, event, rfl, rfl⟩

/-- The provider between two calls: its event is offered and current, and its
user holds `samples`. -/
structure Offers (config : SkeletonConfig 1 Empty)
    (samples : List (SampleAllocateePtr 1)) (published : List EventTimeStamp) :
    Prop where
  reached : Reaches (skeletonSystem 1 Empty true false) (fun _ _ => True)
    skeletonStart config
  idle : config.activity () = .idle
  event : (config.object ()).event = eventAt (newest published)
  samples : (config.object ()).allocatees = samples
  published : (config.object ()).published = published

namespace Offers

variable {config : SkeletonConfig 1 Empty} {published : List EventTimeStamp}

theorem allocate (offers : Offers config [] published)
    (allocatable : Allocatable (config.memory.control .asilQm)) :
    ∃ after, Offers after [onlyQmSample] published := by
  have ends : ((skeletonSystem 1 Empty true false).code ()
      (config.object ()) .allocate).Ends
      ((skeletonSystem 1 Empty true false).alone ())
      (config.memory, config.object ())
      ⟨eventAt (newest published), some onlyQmSample⟩
      (config.memory.setControl .asilQm ((config.memory.control .asilQm).setSlot 0 inWriting),
        config.object ()) := by
    change (SkeletonCall.allocate.code false (config.object ()).event).Ends _ _ _ _
    rw [offers.event]
    exact allocate_ends _ allocatable
  have mayCall : (skeletonSystem 1 Empty true false).mayCall () (config.object ()) .allocate := rfl
  have reached := offers.reached.callAlone (fun _ _ _ => trivial)
    (fun _ _ => trivial) offers.idle trivial mayCall ends
  refine ⟨_, reached, Config.update_activity_self, ?_, ?_, ?_⟩
  · rw [Config.update_object_self]
    rfl
  · rw [Config.update_object_self]
    change [onlyQmSample] ++ (config.object ()).allocatees = _
    rw [offers.samples]
    rfl
  · rw [Config.update_object_self]
    exact offers.published

theorem send (offers : Offers config [onlyQmSample] published) :
    ∃ after, Offers after [] ((newest published + 1) :: published) ∧
      (after.memory.control .asilQm).stateSlots 0 =
        (ofTimeStamp (newest published + 1) 0).data := by
  obtain ⟨provider, grown, kept, sends⟩ := @send_ends true config.memory
      ((config.object ()).onCall (.send onlyQmSample)) (newest published)
  have ends : ((skeletonSystem 1 Empty true false).code ()
      (config.object ()) (.send onlyQmSample)).Ends
      ((skeletonSystem 1 Empty true false).alone ())
      (config.memory, (config.object ()).onCall (.send onlyQmSample))
      ⟨eventAt (newest published + 1), none⟩
      (config.memory.setControl .asilQm ((config.memory.control .asilQm).setSlot 0
        (ofTimeStamp (newest published + 1) 0).data), provider) := by
    change ((SkeletonCall.send onlyQmSample).code false (config.object ()).event).Ends _ _ _ _
    rw [offers.event]
    exact sends
  have mayCall : (skeletonSystem 1 Empty true false).mayCall () (config.object ())
      (.send onlyQmSample) := by
    change (config.object ()).allocatees.contains onlyQmSample = true
    rw [offers.samples]
    rfl
  have reached := offers.reached.callAlone (fun _ _ _ => trivial)
    (fun _ _ => trivial) offers.idle trivial mayCall ends
  refine ⟨_, ⟨reached, Config.update_activity_self, ?_, ?_, ?_⟩, ?_⟩
  · rw [Config.update_object_self]
    rfl
  · rw [Config.update_object_self]
    change provider.allocatees = []
    rw [kept]
    change (config.object ()).allocatees.erase onlyQmSample = []
    rw [offers.samples]
    rfl
  · rw [Config.update_object_self]
    change provider.published = _
    rw [grown]
    exact congrArg _ offers.published
  · rw [Config.update_memory, SkeletonMemory.control_setControl_self,
      EventControl.stateSlots_setSlot_self]

/-- The first offer. -/
theorem initial : ∃ config, Offers config [] [] ∧
      (config.memory.control .asilQm).stateSlots 0 = invalid := by
  obtain ⟨config, reached, idle, event, samples, published, word⟩ :=
    exists_reached (skeletonSystem 1 Empty true false) (fun _ _ => True)
      skeletonStart (providerCall .prepareOffer 3)
      (fun config => config.activity () = .idle ∧ (config.object ()).event = eventAt 1 ∧
        (config.object ()).allocatees = [] ∧ (config.object ()).published = [] ∧
        (config.memory.control .asilQm).stateSlots 0 = invalid)
      (by decide +kernel)
  exact ⟨config, ⟨reached, idle, event, samples, published⟩, word⟩

end Offers

/-- A process can send any number of samples up to the one with the highest
timestamp. -/
theorem exists_sent (number : Nat) (few : number ≤ 2 ^ 32 - 2) :
    ∃ config published, Offers config [] published ∧
      published.length = number ∧ Countdown 1 published ∧
      (number < 2 ^ 32 - 2 → Allocatable (config.memory.control .asilQm)) := by
  induction number with
  | zero =>
      obtain ⟨config, offers, word⟩ := Offers.initial
      refine ⟨config, [], offers, rfl, trivial, fun _ => ?_⟩
      rw [Allocatable, word]
      decide
  | succ number ih =>
      obtain ⟨config, published, offers, length, counts, allocatable⟩ := ih (by omega)
      obtain ⟨holding, offersSample⟩ := offers.allocate (allocatable (by omega))
      obtain ⟨after, offersAfter, word⟩ := offersSample.send
      refine ⟨after, _, offersAfter, ?_, ⟨rfl, counts⟩, fun fewer => ?_⟩
      · rw [List.length_cons, length]
      · have next : Countdown 1 ((newest published + 1) :: published) := ⟨rfl, counts⟩
        have value := next.toNat_newest (by rw [List.length_cons]; omega)
        rw [List.length_cons, length] at value
        change (newest published + 1).toNat = _ at value
        rw [Allocatable, word]
        refine ⟨?_, ?_⟩
        · change (ofTimeStamp _ 0).isUsed = false
          simpa [isUsed] using ofTimeStamp_not_inWriting _
        · change (ofTimeStamp _ 0).getTimeStamp < _
          rw [getTimeStamp_ofTimeStamp, BitVec.lt_def, value]
          change _ < 2 ^ 32 - 1
          omega

end OneSlot

/-- A process crashes after its first sample; the next one opens the shared memory
again and goes on. -/
theorem validSend_of_restarted : ValidSend 3 2 := by
  obtain ⟨offered, config, reached, keeps, idle, current, old, sent⟩ :=
    exists_reached_then (skeletonSystem 1 Empty true false) (fun _ _ => True)
      (fun _ event => keepsOffer event) skeletonStart
      (offerAndSend ++ [.crash ()] ++ providerCall .prepareOffer 3)
      (providerCall .allocate 3 ++ providerCall (.send onlyQmSample) 3)
      (fun offered config => offered.activity () = .idle ∧
        (offered.object ()).event.currentTimestamp = 2 ∧
        (offered.object ()).published = [2] ∧ (config.object ()).published = [3, 2])
      (by decide +kernel)
  have isNext : (config.object ()).published =
      3 :: ([] ++ (offered.object ()).published) := by rw [sent, old]; rfl
  have valid := validSend_iff_of_reached reached idle keeps isNext
  rw [current, old] at valid
  exact valid.mpr ⟨by decide, fun _ => by decide⟩

/-- The sample number 2^32 - 2 gets the highest timestamp, which no search takes
for a timestamp. -/
theorem validSend_violated : ¬ ∀ config : SkeletonConfig 1 Empty,
      Reaches (skeletonSystem 1 Empty true false) (fun _ _ => True) skeletonStart
          config →
        ∀ timeStamp earlier, (config.object ()).published = timeStamp :: earlier →
            ValidSend timeStamp (earlier.headD 0) := by
  intro law
  obtain ⟨config, published, offers, length, counts, _⟩ := exists_sent (2 ^ 32 - 2) (Nat.le_refl _)
  cases published with
  | nil => cases length
  | cons timeStamp earlier =>
      have valid := law config offers.reached timeStamp earlier offers.published
      have value := counts.toNat_newest (by rw [length]; decide)
      rw [length] at value
      have bounded : timeStamp.toNat < 2 ^ 32 - 1 := valid.below
      change timeStamp.toNat = _ at value
      omega

end MwCom.Lola
