/-
Module: MwCom.Lola.SlotSystem
Purpose: One sender and any number of consumers calling the slot control of one
  event, interleaved at every atomic operation, and the law their status words
  keep.
Trusted boundary: none
Main exports: slotSystem, SlotLaw, slotLaw_of_reached
-/
import MwCom.Lola.SlotProtocol

namespace MwCom.Lola

open Interleaving EventDataControl

variable {slots : Nat} {Consumer : Type}

/-- The calls on the slot control of an event. -/
inductive SlotCall (slots : Nat) where
  | allocateNextSlot
  | eventReady (slotIndex : Fin slots) (timeStamp : EventTimeStamp)
  | discard (slotIndex : Fin slots)
  | referenceSpecificEvent (slotIndex : Fin slots)
  | referenceNextEvent (lastSearchTime upperLimit : EventTimeStamp)
  | dereferenceEvent (slotIndex : Fin slots)
deriving DecidableEq, Repr

/-- What a call returns. -/
inductive SlotReply (slots : Nat) where
  | nothing
  | slot (slotIndex : Option (Fin slots))
  | referenced (success : Bool)
deriving DecidableEq, Repr

namespace SlotCall

/-- The slot a reference call hands out. -/
def handsOut : SlotCall slots → SlotReply slots → Option (Fin slots)
  | .referenceSpecificEvent slotIndex, .referenced true => some slotIndex
  | .referenceNextEvent _ _, .slot slotIndex => slotIndex
  | _, _ => none

/-- The sender publishes slots it holds, a consumer dereferences slots it
holds; nothing else is asked of the callers. -/
def allowed : Party Consumer → SlotParty slots → SlotCall slots → Bool
  | .sender, _, .allocateNextSlot => true
  | .sender, party, .eventReady slotIndex _ => party.writing slotIndex
  | .sender, _, .discard _ => true
  | .consumer _, _, .referenceSpecificEvent _ => true
  | .consumer _, _, .referenceNextEvent _ _ => true
  | .consumer _, party, .dereferenceEvent slotIndex =>
      !(party.references slotIndex).isEmpty
  | _, _, _ => false

/-- The program behind a call; every consumer has a log of its own. -/
def code : Party Consumer → SlotCall slots → ControlProgram slots Consumer (SlotReply slots)
  | .sender, .allocateNextSlot => do
      pure (.slot (← EventDataControl.allocateNextSlot))
  | .sender, .eventReady slotIndex timeStamp => do
      EventDataControl.eventReady slotIndex timeStamp
      pure .nothing
  | .sender, .discard slotIndex => do
      EventDataControl.discard slotIndex
      pure .nothing
  | .consumer index, .referenceSpecificEvent slotIndex => do
      pure (.referenced (← EventDataControl.referenceSpecificEvent slotIndex index))
  | .consumer index, .referenceNextEvent lastSearchTime upperLimit => do
      pure (.slot (← EventDataControl.referenceNextEvent index lastSearchTime upperLimit))
  | .consumer index, .dereferenceEvent slotIndex => do
      EventDataControl.dereferenceEvent slotIndex index
      pure .nothing
  | _, _ => pure .nothing

end SlotCall

/-- Sender and consumers on the slots of one event. -/
def slotSystem (slots : Nat) (Consumer : Type) [DecidableEq Consumer]
    (ampChecked : Bool) :
    System (Party Consumer) (ControlOp slots Consumer) ControlOp.Ret
      (EventControl slots Consumer) (SlotParty slots) (SlotCall slots)
      (SlotReply slots) where
  outcomes := ControlOp.outcomes ampChecked
  mayCall party object call := SlotCall.allowed party object call = true
  code party _ call := call.code party
  onCall _ _ object _ := object
  observe party _ object op answer := object.observe party op answer
  onReturn _ _ object _ _ := object
  onCrash _ _ _ := none
  environment _ _ := False

theorem slotSystem_outcomes [DecidableEq Consumer] (ampChecked : Bool) :
    (slotSystem slots Consumer ampChecked).outcomes = ControlOp.outcomes ampChecked := rfl

/-- A state of `slotSystem`. -/
abbrev SlotConfig (slots : Nat) (Consumer : Type) :=
  Config (Party Consumer) (ControlOp slots Consumer) ControlOp.Ret
    (EventControl slots Consumer) (SlotParty slots) (SlotCall slots)
    (SlotReply slots)

/-- An event of `slotSystem`. -/
abbrev SlotEvent (slots : Nat) (Consumer : Type) :=
  Event (Party Consumer) (ControlOp slots Consumer) ControlOp.Ret
    (SlotCall slots) (SlotReply slots)

/-- The shared memory of a new event: no slot written, every log registered
and empty. -/
def EventControl.new {LogIndex : Type} : EventControl slots LogIndex where
  stateSlots := fun _ => EventSlotStatus.invalid
  transactionLogs := fun _ =>
    { isActive := true, needsRollback := false, transactionLog := .empty }
  currentSubscriptionState := 0

/-- Nobody has called anything yet. -/
def slotStart : SlotConfig slots Consumer where
  memory := .new
  object := fun _ => .empty
  activity := fun _ => .idle

/-- Fewer references are held than the count can tell from a slot in
writing. -/
def fewReferences [Fintype Consumer] (config : SlotConfig slots Consumer)
    (_ : SlotEvent slots Consumer) : Prop :=
  ∀ slot, outstanding config.object slot < 2 ^ 32 - 1

section Instances

variable [DecidableEq Consumer] {ampChecked : Bool}

instance (party : Party Consumer) (object : SlotParty slots)
    (call : SlotCall slots) :
    Decidable ((slotSystem slots Consumer ampChecked).mayCall party object call) :=
  inferInstanceAs (Decidable (_ = true))

instance (before after : EventControl slots Consumer) :
    Decidable ((slotSystem slots Consumer ampChecked).environment before after) :=
  inferInstanceAs (Decidable False)

instance [Fintype Consumer] (config : SlotConfig slots Consumer)
    (event : SlotEvent slots Consumer) :
    Decidable (fewReferences config event) :=
  inferInstanceAs (Decidable (∀ _, _))

end Instances

/-! ## The contract of the parties -/

section Contract

variable [Fintype Consumer] [DecidableEq Consumer] {ampChecked : Bool}

/-- Slot ownership, kept by sender and consumers together. -/
def slotContract (slots : Nat) (Consumer : Type) [Fintype Consumer]
    [DecidableEq Consumer] (ampChecked : Bool) :
    Contract (slotSystem slots Consumer ampChecked)
      (SlotParty slots) where
  Inv config := SlotOwnership config.memory.stateSlots config.object
  view config party := config.object party
  rules := slotRules
  post _ call reply view := ∀ slot, call.handsOut reply = some slot → view.references slot ≠ []

omit [Fintype Consumer] [DecidableEq Consumer] in
/-- Every call keeps the rules of its party, and hands out only slots its
caller references then. -/
theorem SlotCall.code_respects {party : Party Consumer}
    {object : SlotParty slots} {call : SlotCall slots}
    (allowed : call.allowed party object = true) :
    (call.code party).Respects (slotRules party) object fun reply view =>
      ∀ slot, call.handsOut reply = some slot → view.references slot ≠ [] := by
  cases party with
  | sender =>
      cases call with
      | allocateNextSlot =>
          refine allocateNextSlot_respects.bind ?_
          intro result after _ slot handed
          cases handed
      | eventReady slotIndex timeStamp =>
          refine (eventReady_respects timeStamp allowed).bind ?_
          intro _ after _ slot handed
          cases handed
      | discard slotIndex =>
          refine (discard_respects slotIndex).bind ?_
          intro _ after _ slot handed
          cases handed
      | _ => cases allowed
  | consumer index =>
      cases call with
      | referenceSpecificEvent slotIndex =>
          refine (referenceSpecificEvent_respects slotIndex index).bind ?_
          intro success after effect slot handed
          cases success with
          | false => cases handed
          | true =>
              cases handed
              obtain ⟨timeStamp, rfl⟩ := effect
              simp [SlotParty.acquire]
      | referenceNextEvent lastSearchTime upperLimit =>
          refine (referenceNextEvent_respects index lastSearchTime upperLimit).bind ?_
          intro result after effect slot handed
          cases handed
          obtain ⟨timeStamp, _, _, rfl⟩ := effect
          simp [SlotParty.acquire]
      | dereferenceEvent slotIndex =>
          have held : object.references slotIndex ≠ [] := by
            intro nothing
            simp [SlotCall.allowed, nothing] at allowed
          refine (dereferenceEvent_respects slotIndex index held).bind ?_
          intro _ after _ slot handed
          cases handed
      | _ => cases allowed

/-- The obligations of the contract, one for each kind of step. -/
theorem slotContract_obligations : (slotContract slots Consumer ampChecked).Obligations
      fewReferences where
  call := by
    intro config party call own _ _ allowed after moved
    subst moved
    have same : Function.update config.object party (config.object party) =
        config.object := Function.update_eq_self _ _
    refine ⟨?_, ?_, ?_⟩
    · simpa [slotContract, slotSystem, Config.update_object, same] using own
    · intro other distinct
      exact Function.update_of_ne distinct _ _
    · simpa [slotContract, slotSystem] using SlotCall.code_respects allowed
  perform := by
    intro config party call op next answer memory own few _ may outcome after moved
    subst moved
    refine ⟨?_, ?_, ?_, ?_⟩
    · exact own.perform few may outcome
    · intro other distinct
      exact Function.update_of_ne distinct _ _
    · exact own.expected outcome
    · change (config.update memory party _ (.running call (next answer))).object party = _
      rw [Config.update_object_self]
      cases party with
      | sender => rfl
      | consumer index => rfl
  finish := by
    intro config party call reply own _ _ _ after moved
    subst moved
    refine ⟨?_, ?_⟩
    · simpa [slotContract, slotSystem, Config.update_object] using own
    · intro other distinct
      exact Function.update_of_ne distinct _ _
  crash := by
    intro config party object _ _ killed
    cases killed
  environment := by
    intro config memory _ _ moved
    exact moved.elim

/-! ## The law of the status words -/

/-- What holds of the slots in a state, and of the steps out of it. -/
structure SlotLaw (ampChecked : Bool) (config : SlotConfig slots Consumer) : Prop where
  /-- Outside of the in-writing sentinel the reference-count field is the
  number of references taken and not given back. -/
  counted : ∀ slot, config.memory.stateSlots slot ≠ EventSlotStatus.inWriting →
      (EventSlotStatus.mk (config.memory.stateSlots slot)).getReferenceCount.toNat =
        outstanding config.object slot
  /-- A slot in writing has no references. -/
  writing : ∀ slot, config.memory.stateSlots slot = EventSlotStatus.inWriting →
      outstanding config.object slot = 0
  /-- A referenced slot is readable and carries the timestamp of then. -/
  referenced : ∀ index slot timeStamp,
    timeStamp ∈ (config.object (.consumer index)).references slot →
      config.memory.stateSlots slot ≠ EventSlotStatus.inWriting ∧
        config.memory.stateSlots slot ≠ EventSlotStatus.invalid ∧
        (EventSlotStatus.mk (config.memory.stateSlots slot)).getTimeStamp = timeStamp
  /-- No `fetch_sub` borrows from the timestamp. -/
  subtracts : ∀ party slot answer after, Step (slotSystem slots Consumer ampChecked) config
        (.perform party (.fetchSub slot) answer) after →
      (EventSlotStatus.mk (after.memory.stateSlots slot)).getTimeStamp =
          (EventSlotStatus.mk (config.memory.stateSlots slot)).getTimeStamp ∧
        (EventSlotStatus.mk (after.memory.stateSlots slot)).getReferenceCount.toNat + 1 =
          (EventSlotStatus.mk (config.memory.stateSlots slot)).getReferenceCount.toNat
  /-- No compare-exchange of a consumer carries into the timestamp. -/
  adds : ∀ index slot expected desired after,
    (∀ slot, outstanding config.object slot < 2 ^ 32 - 1) →
    Step (slotSystem slots Consumer ampChecked) config
        (.perform (.consumer index) (.compareExchangeWeak slot expected desired) true) after →
      (EventSlotStatus.mk (after.memory.stateSlots slot)).getTimeStamp =
          (EventSlotStatus.mk (config.memory.stateSlots slot)).getTimeStamp ∧
        (EventSlotStatus.mk (after.memory.stateSlots slot)).getReferenceCount.toNat =
          (EventSlotStatus.mk (config.memory.stateSlots slot)).getReferenceCount.toNat + 1
  /-- A slot held for writing is not what a reference call returns. -/
  handedOut : ∀ index call reply after slot, Step (slotSystem slots Consumer ampChecked) config
        (.finish (.consumer index) call reply) after →
      call.handsOut reply = some slot → (config.object .sender).writing slot = false

/-- The law follows from the contract. -/
theorem slotLaw_of_holds {config : SlotConfig slots Consumer}
    (holds : (slotContract slots Consumer ampChecked).Holds config) :
    SlotLaw ampChecked config where
  counted := holds.inv.counted
  writing := fun _ inWriting => holds.inv.outstanding_of_inWriting inWriting
  referenced := by
    intro index slot timeStamp held
    obtain ⟨notInvalid, notInWriting⟩ := holds.inv.readable held
    exact ⟨notInWriting, notInvalid, (holds.inv.stamped index slot timeStamp held).1⟩
  subtracts := by
    intro party slot answer after step
    cases step with
    | perform running outcome =>
        have may := (holds.running party _ _ running).1
        cases party with
        | sender => exact may.elim
        | consumer index =>
            cases List.mem_singleton.mp outcome
            rw [Config.update_memory, EventControl.stateSlots_setSlot_self]
            exact EventSlotStatus.decrement (holds.inv.referenced may)
  adds := by
    intro index slot expected desired after few step
    cases step with
    | perform running outcome =>
        have may := (holds.running (.consumer index) _ _ running).1
        obtain ⟨notInvalid, notInWriting, rfl⟩ := may
        rw [slotSystem_outcomes] at outcome
        rcases ControlOp.compareExchangeWeak_outcome outcome with won | failed
        · obtain ⟨_, rfl, rfl⟩ := won
          rw [Config.update_memory, EventControl.stateSlots_setSlot_self]
          exact EventSlotStatus.increment (holds.inv.room (few slot) notInWriting)
        · cases failed.1
  handedOut := by
    intro index call reply after slot step handed
    cases step with
    | finish running =>
        have held := holds.running (.consumer index) _ _ running slot handed
        exact holds.inv.not_writing held

/-- The law holds in every state of every interleaving. -/
theorem slotLaw_of_reached {config : SlotConfig slots Consumer}
    (reached : Reaches (slotSystem slots Consumer ampChecked) fewReferences slotStart config) :
    SlotLaw ampChecked config := by
  have initially : (slotContract slots Consumer ampChecked).Inv slotStart := SlotOwnership.initial
  exact slotLaw_of_holds (Contract.run slotContract_obligations initially (fun _ => rfl) reached)

end Contract

/-- The only slot is published with timestamp 2 and referenced. -/
def publishAndReference : List (Choice (Party (Fin 1)) (EventControl 1 (Fin 1)) (SlotCall 1)) :=
  List.flatten
    [[.call .sender .allocateNextSlot], List.replicate 3 (.perform .sender 0),
     [.finish .sender, .call .sender (.eventReady 0 2), .perform .sender 0,
      .finish .sender, .call (.consumer 0) (.referenceNextEvent 1 5)],
     List.replicate 10 (.perform (.consumer 0) 0)]

theorem slotLaw_of_referenced : ∃ config : SlotConfig 1 (Fin 1),
      outstanding config.object 0 = 1 ∧ SlotLaw true config := by
  obtain ⟨config, reached, held⟩ :=
    exists_reached (slotSystem 1 (Fin 1) true) fewReferences slotStart
      publishAndReference (fun config => outstanding config.object 0 = 1)
      (by decide +kernel)
  exact ⟨config, held, slotLaw_of_reached reached⟩

/-! ## The sentinel of a slot in writing

Its reference-count field is the highest count, although nobody holds a
reference: this is how the sender keeps the consumers away. -/

/-- The sender wins the only slot. -/
def allocateOnce : List (Choice (Party (Fin 1)) (EventControl 1 (Fin 1)) (SlotCall 1)) :=
  [.call .sender .allocateNextSlot, .perform .sender 0, .perform .sender 0, .perform .sender 0]

theorem referenceCount_ne_outstanding : ¬ ∀ config : SlotConfig 1 (Fin 1),
      Reaches (slotSystem 1 (Fin 1) true) fewReferences slotStart config → ∀ slot,
          (EventSlotStatus.mk (config.memory.stateSlots slot)).getReferenceCount.toNat =
            outstanding config.object slot := by
  intro law
  obtain ⟨config, reached, differs⟩ :=
    exists_reached (slotSystem 1 (Fin 1) true) fewReferences slotStart
      allocateOnce
      (fun config =>
        (EventSlotStatus.mk
            (config.memory.stateSlots 0)).getReferenceCount.toNat ≠
          outstanding config.object 0)
      (by decide +kernel)
  exact differs (law config reached 0)

end MwCom.Lola
