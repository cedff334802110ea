/-
Module: MwCom.Lola.QmDisconnect
Purpose: When a skeleton event disconnects its QM consumers, and whether what it
  remembers of that agrees with the composite it writes through.
Trusted boundary: none
Main exports: KeepsQmConsumers, keepsQmConsumers_iff, QmDisconnectLaw,
  qmDisconnectLaw_of_reached
-/
import Mathlib.Data.Fin.VecNotation
import MwCom.Interleaving.Contract
import MwCom.Lola.MultiSlotAllocation
import MwCom.Lola.SkeletonEvent

namespace MwCom.Lola

open Interleaving Program SkeletonProgram EventSlotStatus Function

variable {slots : Nat} {LogIndex : Type}

/-! ## Agreement of event and composite -/

/-- The event remembers the disconnect exactly while its composite ignores the
QM control. -/
def SkeletonEvent.Agrees (event : SkeletonEvent) : Prop :=
  ∀ composite, event.eventDataControlComposite = some composite →
    event.qmDisconnect = composite.ignoreQmControl

instance (event : SkeletonEvent) : Decidable event.Agrees :=
  match found : event.eventDataControlComposite with
  | none => .isTrue fun _ isComposite => by
      rw [found] at isComposite
      cases isComposite
  | some composite =>
      decidable_of_iff (event.qmDisconnect = composite.ignoreQmControl) <| by
        simp [SkeletonEvent.Agrees, found]

/-- Nothing is asked of the operations; the view is the record of the
provider. -/
def recordRules (asilB : Bool) :
    Rules (SkeletonOp slots LogIndex) SkeletonOp.Ret (Provider slots) where
  may _ _ := True
  expects _ _ _ := True
  next := Provider.observe asilB

section Programs

variable {α : Type} {asilB : Bool} {provider : Provider slots}

/-- Operations on the controls are not recorded. -/
theorem onControl_keeps (quality : QualityType) (program : ControlProgram slots LogIndex α) :
    (onControl quality program).Respects (recordRules asilB) provider
      fun _ after => after = provider := by
  induction program with
  | done result => rfl
  | step op next ih =>
      exact ⟨trivial, fun answer _ => ih answer⟩

theorem any_respects (program : SkeletonProgram slots LogIndex α) :
    program.Respects (recordRules asilB) provider fun _ _ => True := by
  induction program generalizing provider with
  | done result => trivial
  | step op next ih =>
      exact ⟨trivial, fun answer _ => ih answer⟩

/-- The composite ignores the QM control if it did before or if the call says
so. -/
theorem allocateNextSlot_keeps (composite : EventDataControlComposite) :
    (composite.allocateNextSlot :
      SkeletonProgram slots LogIndex _).Respects (recordRules asilB) provider
      fun result _ => result.1.ignoreQmControl = (composite.ignoreQmControl || result.2.2) := by
  rw [EventDataControlComposite.allocateNextSlot]
  split
  · split
    · refine (any_respects _).bind ?_
      intro slot after _
      cases slot with
      | none =>
          refine (any_respects _).bind ?_
          intro fallback reached _
          simp
      | some slot => simp
    · rename_i ignored
      refine (any_respects _).bind ?_
      intro slot after _
      simpa using ignored
  · refine (any_respects _).bind ?_
    intro slot after _
    simp

variable {event : SkeletonEvent}

/-- A new offer starts with a composite that uses the QM control. -/
theorem prepareOffer_keeps (connected : event.qmDisconnect = false) : (event.prepareOffer asilB :
      SkeletonProgram slots LogIndex SkeletonEvent).Respects (recordRules asilB)
      provider fun result _ => result.Agrees := by
  rw [SkeletonEvent.prepareOffer]
  refine (any_respects _).bind ?_
  intro _ cleaned _
  refine (any_respects _).bind ?_
  intro currentTimestamp after _ composite isComposite
  cases isComposite
  exact connected

theorem allocate_keeps (agrees : event.Agrees) :
    (event.allocate : SkeletonProgram slots LogIndex _).Respects
      (recordRules asilB) provider fun result _ => result.1.Agrees := by
  rw [SkeletonEvent.allocate]
  split
  · exact agrees
  · rename_i composite found
    refine (allocateNextSlot_keeps composite).bind ?_
    rintro ⟨changed, slot, ignored⟩ after kept
    have agreesAfter : SkeletonEvent.Agrees
        { event with
          eventDataControlComposite := some changed
          qmDisconnect := event.qmDisconnect || ignored } := by
      intro current isCurrent
      cases isCurrent
      dsimp only at kept ⊢
      rw [kept, agrees composite found]
    refine (any_respects _).bind ?_
    intro _ reached _
    exact agreesAfter

theorem eventReady_observed (quality : QualityType) (slot : Fin slots)
    (timeStamp : EventTimeStamp) :
    (SkeletonProgram.eventReady quality slot timeStamp :
      SkeletonProgram slots LogIndex Unit).Respects (recordRules asilB) provider
      fun _ after =>
        after.sentInQm = (provider.sentInQm || quality == .asilQm) ∧
          after.notifiedQm = provider.notifiedQm :=
  ⟨trivial, fun _ _ => ⟨rfl, rfl⟩⟩

theorem notifyEvent_observed (quality : QualityType) :
    (notifyEvent quality : SkeletonProgram slots LogIndex Unit).Respects
      (recordRules asilB) provider fun _ after =>
        after.sentInQm = provider.sentInQm ∧
          after.notifiedQm = (provider.notifiedQm || quality == .asilQm) :=
  ⟨trivial, fun _ _ => ⟨rfl, rfl⟩⟩

/-- Created anew, the shared memory comes with such a composite as well. -/
theorem prepareOfferOnNewMemory_keeps (connected : event.qmDisconnect = false) :
    (event.prepareOfferOnNewMemory asilB :
      SkeletonProgram slots LogIndex SkeletonEvent).Respects (recordRules asilB)
      provider fun result _ => result.Agrees := by
  rw [SkeletonEvent.prepareOfferOnNewMemory]
  refine (any_respects _).bind ?_
  intro currentTimestamp after _ composite isComposite
  cases isComposite
  exact connected

/-- A step that is taken under a condition. -/
theorem onlyIf_respects {condition : Bool}
    {program : SkeletonProgram slots LogIndex Unit} {post : Provider slots → Prop}
    (taken : condition = true →
      program.Respects (recordRules asilB) provider fun _ after => post after)
    (skipped : condition = false → post provider) :
    (onlyIf condition program).Respects (recordRules asilB) provider
      fun _ after => post after := by
  cases condition with
  | true => exact taken rfl
  | false => exact skipped rfl

theorem eventReady_keeps (composite : EventDataControlComposite)
    (slot : Fin slots) (timeStamp : EventTimeStamp) :
    (composite.eventReady slot timeStamp :
      SkeletonProgram slots LogIndex Unit).Respects (recordRules asilB) provider
      fun _ after =>
        after.sentInQm = (provider.sentInQm || !composite.ignoreQmControl) ∧
          after.notifiedQm = provider.notifiedQm := by
  have inB : (onlyIf composite.asilBControl
      (SkeletonProgram.eventReady .asilB slot timeStamp) :
      SkeletonProgram slots LogIndex Unit).Respects (recordRules asilB) provider
        fun _ after => after.sentInQm = provider.sentInQm ∧
          after.notifiedQm = provider.notifiedQm := by
    refine onlyIf_respects (fun _ => ?_) fun _ => ⟨rfl, rfl⟩
    refine (eventReady_observed _ _ _).mono ?_
    rintro _ after ⟨sent, notified⟩
    exact ⟨sent.trans (Bool.or_false _), notified⟩
  refine inB.bind ?_
  rintro _ stored ⟨sentSame, notifiedSame⟩
  refine onlyIf_respects (fun uses => ?_) fun ignores => ?_
  · refine (eventReady_observed _ _ _).mono ?_
    rintro _ after ⟨sent, notified⟩
    exact ⟨sent.trans (by rw [sentSame, uses]; rfl), notified.trans notifiedSame⟩
  · rw [ignores, Bool.or_false]
    exact ⟨sentSame, notifiedSame⟩

theorem discard_keeps (composite : EventDataControlComposite) (slot : Fin slots) :
    (composite.discard slot : SkeletonProgram slots LogIndex Unit).Respects
      (recordRules asilB) provider fun _ after => after = provider := by
  have inB : (onlyIf composite.asilBControl
      (onControl .asilB (EventDataControl.discard slot)) :
      SkeletonProgram slots LogIndex Unit).Respects (recordRules asilB) provider
        fun _ after => after = provider :=
    onlyIf_respects (fun _ => onControl_keeps _ _) fun _ => rfl
  refine inB.bind ?_
  rintro _ after rfl
  exact onlyIf_respects (fun _ => onControl_keeps _ _) fun _ => rfl

/-- A sample is stored in the QM control exactly if QM consumers are notified. -/
theorem send_keeps {sample : SampleAllocateePtr slots} (agrees : event.Agrees)
    (notSent : provider.sentInQm = false) (notNotified : provider.notifiedQm = false) :
    (event.send asilB sample :
      SkeletonProgram slots LogIndex SkeletonEvent).Respects (recordRules asilB)
      provider fun result after =>
        result.Agrees ∧ after.sentInQm = after.notifiedQm := by
  rw [SkeletonEvent.send]
  split
  · exact ⟨trivial, fun answer => nomatch answer⟩
  · rename_i composite found
    have same := agrees composite found
    refine (eventReady_keeps composite _ _).bind ?_
    rintro _ stored ⟨sent, notified⟩
    rw [notSent, Bool.false_or] at sent
    rw [notNotified] at notified
    have balanced : (onlyIf (!event.qmDisconnect) (notifyEvent .asilQm) :
        SkeletonProgram slots LogIndex Unit).Respects (recordRules asilB) stored
          fun _ after => after.sentInQm = after.notifiedQm := by
      refine onlyIf_respects (fun connected => ?_) fun disconnected => ?_
      · refine (notifyEvent_observed _).mono ?_
        rintro _ after ⟨sentSame, notifiedQm⟩
        rw [sentSame, notifiedQm, sent, ← same, connected]
        exact (Bool.or_true _).symm
      · rw [sent, notified, ← same, disconnected]
    refine balanced.bind ?_
    intro _ notifiedQm balancedQm
    have stays : (onlyIf asilB (notifyEvent .asilB) :
        SkeletonProgram slots LogIndex Unit).Respects (recordRules asilB)
          notifiedQm fun _ after => after.sentInQm = after.notifiedQm := by
      refine onlyIf_respects (fun _ => ?_) fun _ => balancedQm
      refine (notifyEvent_observed _).mono ?_
      rintro _ after ⟨sentSame, notifiedSame⟩
      rw [sentSame, notifiedSame, balancedQm]
      exact (Bool.or_false _).symm
    refine stays.bind ?_
    intro _ notifiedB balancedB
    refine (discard_keeps _ _).bind ?_
    rintro _ after rfl
    exact ⟨agrees, balancedB⟩

end Programs

/-! ## All runs of a provider -/

section Law

variable [DecidableEq LogIndex] {ampChecked asilB : Bool}

/-- What holds in a state, and of the Sends that end in it. -/
structure QmDisconnectLaw (ampChecked asilB : Bool)
    (config : SkeletonConfig slots LogIndex) : Prop where
  agrees : (config.object ()).offered = true → (config.object ()).event.Agrees
  /-- A Send notifies QM consumers exactly if it stored the sample for them. -/
  notifies : ∀ sample reply after, Step (skeletonSystem slots LogIndex ampChecked asilB) config
        (.finish () (.send sample) reply) after →
      ((config.object ()).sentInQm = true ↔ (config.object ()).notifiedQm = true)

/-- No offer is prepared while the event remembers a disconnect. -/
def offersConnected (config : SkeletonConfig slots LogIndex) :
    SkeletonSystemEvent slots LogIndex → Prop
  | .call _ .prepareOffer => (config.object ()).event.qmDisconnect = false
  | _ => True

/-- Every call leaves an event that agrees with its composite. -/
def qmDisconnectContract (slots : Nat) (LogIndex : Type) [DecidableEq LogIndex]
    (ampChecked asilB : Bool) :
    Contract (skeletonSystem slots LogIndex ampChecked asilB)
      (Provider slots) where
  Inv config := (config.object ()).event.Agrees
  view config _ := config.object ()
  rules _ := recordRules asilB
  post _ call reply view := reply.event.Agrees ∧
    ∀ sample, call = .send sample → view.sentInQm = view.notifiedQm

theorem qmDisconnectContract_obligations :
    (qmDisconnectContract slots LogIndex ampChecked asilB).Obligations
      offersConnected where
  call := by
    intro config thread call agrees connected _ allowed after moved
    subst moved
    refine ⟨?_, fun other distinct => absurd rfl distinct, ?_⟩
    · change (update config.object () _ ()).event.Agrees
      rw [update_self]
      cases call <;> exact agrees
    · change Program.Respects _ (SkeletonCall.code _ _ _) (update config.object () _ ()) _
      rw [update_self]
      cases call with
      | prepareOffer =>
          refine .perform trivial fun recreated _ => ?_
          cases recreated with
          | true =>
              refine (prepareOfferOnNewMemory_keeps connected).bind ?_
              intro event reached agreesAfter
              exact ⟨agreesAfter, fun _ other => nomatch other⟩
          | false =>
              refine (prepareOffer_keeps connected).bind ?_
              intro event reached agreesAfter
              exact ⟨agreesAfter, fun _ other => nomatch other⟩
      | prepareStopOffer => exact ⟨agrees, fun _ other => nomatch other⟩
      | allocate =>
          refine (allocate_keeps agrees).bind ?_
          intro result reached agreesAfter
          exact ⟨agreesAfter, fun _ other => nomatch other⟩
      | send sample =>
          refine (send_keeps agrees rfl rfl).bind ?_
          intro event reached kept
          exact ⟨kept.1, fun _ _ => kept.2⟩
      | discard sample =>
          refine (any_respects _).bind ?_
          intro _ reached _
          exact ⟨agrees, fun _ other => nomatch other⟩
  perform := by
    intro config thread call op next answer memory agrees _ _ _ _ after moved
    subst moved
    refine ⟨?_, fun other distinct => absurd rfl distinct, trivial, ?_⟩
    · change (update config.object () _ ()).event.Agrees
      rw [update_self]
      cases op with
      | recreateUnused => cases answer <;> exact agrees
      | _ => exact agrees
    · change update config.object () _ () = _
      rw [update_self]
      rfl
  finish := by
    intro config thread call reply _ _ _ post after moved
    subst moved
    refine ⟨?_, fun other distinct => absurd rfl distinct⟩
    change (update config.object () _ ()).event.Agrees
    rw [update_self]
    exact post.1
  crash := by
    intro config thread object _ _ killed after moved
    subst moved
    refine ⟨?_, fun other distinct => absurd rfl distinct⟩
    change (update config.object () _ ()).event.Agrees
    rw [update_self]
    cases killed
    intro composite isComposite
    cases isComposite
  environment := by
    intro config memory agrees _ _ after moved
    subst moved
    exact ⟨agrees, fun _ => rfl⟩

/-- The law follows from the contract. -/
theorem qmDisconnectLaw_of_holds {config : SkeletonConfig slots LogIndex}
    (holds : (qmDisconnectContract slots LogIndex ampChecked asilB).Holds config) :
    QmDisconnectLaw ampChecked asilB config where
  agrees := fun _ => holds.inv
  notifies := by
    intro sample reply after step
    cases step with
    | finish running =>
        have post := holds.running () _ _ running
        have same := post.2 sample rfl
        change (config.object ()).sentInQm = (config.object ()).notifiedQm at same
        rw [same]

/-- The law holds in every state of every run in which no offer is prepared while
a disconnect is remembered. -/
theorem qmDisconnectLaw_of_reached {config : SkeletonConfig slots LogIndex}
    (reached : Reaches (skeletonSystem slots LogIndex ampChecked asilB)
      offersConnected skeletonStart config) :
    QmDisconnectLaw ampChecked asilB config := by
  have initially : (qmDisconnectContract slots LogIndex ampChecked asilB).Inv
      skeletonStart := by
    intro composite isComposite
    cases isComposite
  exact qmDisconnectLaw_of_holds
    (Contract.run qmDisconnectContract_obligations initially (fun _ => rfl) reached)

instance (config : SkeletonConfig slots LogIndex)
    (event : SkeletonSystemEvent slots LogIndex) :
    Decidable (offersConnected config event) :=
  match event with
  | .call _ .prepareOffer =>
      inferInstanceAs (Decidable ((config.object ()).event.qmDisconnect = false))
  | .call _ .prepareStopOffer => .isTrue trivial
  | .call _ .allocate => .isTrue trivial
  | .call _ (.send _) => .isTrue trivial
  | .call _ (.discard _) => .isTrue trivial
  | .perform _ _ _ => .isTrue trivial
  | .finish _ _ _ => .isTrue trivial
  | .crash _ => .isTrue trivial
  | .environment => .isTrue trivial

end Law

/-! ## Runs on small events -/

/-- A shared memory with the given words, and references in the QM control. -/
def memoryOf (qm asilB : Fin slots → StatusWord) (references : Fin slots → Nat) :
    SkeletonMemory slots Empty where
  control quality :=
    { stateSlots := match quality with
        | .asilQm => qm
        | .asilB => asilB
      transactionLogs := fun log => nomatch log
      currentSubscriptionState := 0 }
  references
    | .asilQm => references
    | .asilB => fun _ => 0

/-- The only slot, allocated while the QM control is used. -/
def onlySample : SampleAllocateePtr 1 := { eventSlotIndex := 0, eventDataControl := .new true }

/-- The first sample is sent. -/
def sendOnce : List (Choice Unit (SkeletonMemory 1 Empty) (SkeletonCall 1)) := List.flatten
    [providerCall .prepareOffer 4, providerCall .allocate 6, providerCall (.send onlySample) 6]

theorem qmDisconnectLaw_of_sent : ∃ config : SkeletonConfig 1 Empty,
      (config.object ()).published = [2] ∧ QmDisconnectLaw true true config := by
  obtain ⟨config, reached, published⟩ :=
    exists_reached (skeletonSystem 1 Empty true true) offersConnected
      skeletonStart sendOnce (fun config => (config.object ()).published = [2])
      (by decide +kernel)
  exact ⟨config, published, qmDisconnectLaw_of_reached reached⟩

/-- A QM consumer keeps the sample, the next allocation disconnects QM consumers,
and the service is offered again. -/
def disconnectAndReOffer : List (Choice Unit (SkeletonMemory 1 Empty) (SkeletonCall 1)) :=
  List.flatten
    [sendOnce, [.environment (memoryOf (fun _ => (ofTimeStamp 2 1).data)
      (fun _ => (ofTimeStamp 2 0).data) fun _ => 1)], providerCall .allocate 204,
     providerCall .prepareStopOffer 0, providerCall .prepareOffer 5]

theorem qmDisconnectLaw_violated : ¬ ∀ config : SkeletonConfig 1 Empty,
      Reaches (skeletonSystem 1 Empty true true) (fun _ _ => True) skeletonStart
          config →
        QmDisconnectLaw true true config := by
  intro law
  obtain ⟨config, reached, offered, differs⟩ :=
    exists_reached (skeletonSystem 1 Empty true true) (fun _ _ => True)
      skeletonStart disconnectAndReOffer
      (fun config => (config.object ()).offered = true ∧ ¬ (config.object ()).event.Agrees)
      (by decide +kernel)
  exact differs ((law config reached).agrees offered)

/-! ## Disconnecting for the consumers' misbehaviour only -/

section KeepsQmConsumers

variable [DecidableEq LogIndex] (ampChecked : Bool)
  (composite : EventDataControlComposite) (memory : SkeletonMemory slots LogIndex)

/-- Where a slot is free in both controls, an allocation without interference
locks one in both and goes on using the QM control. -/
def KeepsQmConsumers : Prop :=
  (∃ slot, FreeInBoth memory slot) → AllocatesInBoth ampChecked composite memory

/-- The QM control is in use, and lets the first of the oldest ASIL-B slots go. -/
def OldestLockable : Prop := composite.ignoreQmControl = false ∧
    ∃ slot, FirstOldest memory slot ∧ Lockable memory slot

instance : Decidable (OldestLockable composite memory) := inferInstanceAs (Decidable (_ ∧ _))

/-- On any two slot arrays that is exactly when. -/
theorem keepsQmConsumers_iff (asilB : composite.asilBControl = true) :
    KeepsQmConsumers ampChecked composite memory ↔
      ((∃ slot, FreeInBoth memory slot) → OldestLockable composite memory) := by
  have allocates : AllocatesInBoth ampChecked composite memory ↔ OldestLockable composite memory :=
    allocateNextSlot_allocatesInBoth_iff asilB
  constructor
  · intro keeps free
    exact allocates.mp (keeps free)
  · intro lockable free
    exact allocates.mpr (lockable free)

end KeepsQmConsumers

/-- Two samples were sent, and a QM consumer keeps the later one. -/
theorem keepsQmConsumers_sent : KeepsQmConsumers true (.new true)
      (memoryOf ![(ofTimeStamp 2 0).data, (ofTimeStamp 3 1).data]
        ![(ofTimeStamp 2 0).data, (ofTimeStamp 3 0).data] ![0, 1]) :=
  (keepsQmConsumers_iff true (.new true) _ rfl).mpr (by decide)

/-- The samples of an event with two slots, by the control they are allocated
in. -/
def sampleAt (slot : Fin 2) (ignoreQmControl : Bool) : SampleAllocateePtr 2 where
  eventSlotIndex := slot
  eventDataControl := { asilBControl := true, ignoreQmControl := ignoreQmControl }

/-- Two samples are sent and kept by QM consumers.  The next allocation
disconnects them and takes a slot for ASIL-B only, which is then discarded.  The
QM consumers give everything back, and the service is offered again. -/
def discardWhileDisconnected : List (Choice Unit (SkeletonMemory 2 Empty) (SkeletonCall 2)) :=
  List.flatten
    [providerCall .prepareOffer 7, providerCall .allocate 8,
     providerCall (.send (sampleAt 0 false)) 6, providerCall .allocate 8,
     providerCall (.send (sampleAt 1 false)) 6, [.environment (memoryOf ![(ofTimeStamp 2 1).data,
      (ofTimeStamp 3 1).data] ![(ofTimeStamp 2 0).data, (ofTimeStamp 3 0).data] fun _ => 1)],
     providerCall .allocate 405, providerCall (.discard (sampleAt 0 true)) 2,
     [.environment (memoryOf ![(ofTimeStamp 2 0).data, (ofTimeStamp 3 0).data]
      ![invalid, (ofTimeStamp 3 0).data] fun _ => 0)], providerCall .prepareStopOffer 0,
     providerCall .prepareOffer 7]

/-- Then every slot is free in both controls, and still no allocation locks
one. -/
theorem keepsQmConsumers_violated : ¬ ∀ config : SkeletonConfig 2 Empty,
      Reaches (skeletonSystem 2 Empty true true) (fun _ _ => True) skeletonStart
          config →
        ∀ composite, (config.object ()).event.eventDataControlComposite = some composite →
          composite.ignoreQmControl = false →
          KeepsQmConsumers true composite config.memory := by
  intro law
  obtain ⟨config, reached, offered, free, oldest, locked⟩ :=
    exists_reached (skeletonSystem 2 Empty true true) (fun _ _ => True)
      skeletonStart discardWhileDisconnected
      (fun config =>
        (config.object ()).event.eventDataControlComposite = some (.new true) ∧
          (∀ slot, FreeInBoth config.memory slot) ∧
          FirstOldest config.memory 0 ∧ ¬ Lockable config.memory 0)
      (by decide +kernel)
  have keeps := law config reached _ offered rfl ⟨0, free 0⟩
  obtain ⟨_, slot, found, lockable⟩ := (allocateNextSlot_allocatesInBoth_iff rfl).mp keeps
  rw [oldest.unique found] at locked
  exact locked lockable

end MwCom.Lola
