/-
Module: MwCom.Lola.SampleDelivery
Purpose: Consumers that collect samples again and again while the sender and
  the other consumers go on; what each is handed over all its calls.
Trusted boundary: the record of the deliveries (`Delivery`) is bookkeeping of
  this module.
Main exports: Delivery, DeliveryLaw, deliverySystem, deliveryLaw_of_reached
-/
import MwCom.Lola.SlotCollector
import MwCom.Lola.SlotSystem

namespace MwCom.Lola

open Interleaving EventDataControl

variable {slots : Nat} {Consumer : Type}

/-- One call of `getNewSamplesSlotIndices`, as its caller sees it, with the log
of the caller before and after. -/
structure Delivery (slots : Nat) where
  lastBefore : EventTimeStamp
  lastAfter : EventTimeStamp
  slotIndices : List (Fin slots)
  timeStamps : List EventTimeStamp
  logBefore : Fin slots → TransactionLogSlot
  logAfter : Fin slots → TransactionLogSlot

namespace Delivery

/-- What one call guarantees. -/
structure Lawful (delivery : Delivery slots) : Prop where
  ascending : delivery.timeStamps.Pairwise (· < ·)
  newer : ∀ timeStamp ∈ delivery.timeStamps, delivery.lastBefore < timeStamp
  monotone : delivery.lastBefore ≤ delivery.lastAfter
  covered : ∀ timeStamp ∈ delivery.timeStamps, timeStamp ≤ delivery.lastAfter
  once : delivery.slotIndices.Nodup
  recorded : ∀ slot ∈ delivery.slotIndices,
    delivery.logBefore slot = .empty ∧ delivery.logAfter slot = .recorded
  untouched : ∀ slot, slot ∉ delivery.slotIndices → delivery.logAfter slot = delivery.logBefore slot

/-- Each delivery starts from the timestamp the one before it ended with. -/
def Linked : EventTimeStamp → List (Delivery slots) → EventTimeStamp → Prop
  | first, [], last => first = last
  | first, delivery :: rest, last =>
      delivery.lastBefore = first ∧ Linked delivery.lastAfter rest last

theorem Linked.snoc {first last : EventTimeStamp}
    {deliveries : List (Delivery slots)} (linked : Linked first deliveries last)
    {delivery : Delivery slots} (next : delivery.lastBefore = last) :
    Linked first (deliveries ++ [delivery]) delivery.lastAfter := by
  induction deliveries generalizing first with
  | nil =>
      have same : first = last := linked
      subst same
      exact ⟨next, rfl⟩
  | cons earlier rest ih =>
      exact ⟨linked.1, ih linked.2⟩

end Delivery

/-- What all calls together guarantee: every one is lawful, the last timestamp
passes from one to the next, and over all of them no timestamp comes back. -/
structure DeliveryLaw (lastTs : EventTimeStamp)
    (deliveries : List (Delivery slots)) : Prop where
  lawful : ∀ delivery ∈ deliveries, delivery.Lawful
  linked : Delivery.Linked 0 deliveries lastTs
  ascending : (deliveries.flatMap Delivery.timeStamps).Pairwise (· < ·)
  covered : ∀ timeStamp ∈ deliveries.flatMap Delivery.timeStamps, timeStamp ≤ lastTs

namespace DeliveryLaw

theorem initial : DeliveryLaw 0 ([] : List (Delivery slots)) where
  lawful := by
    intro delivery member
    cases member
  linked := rfl
  ascending := List.Pairwise.nil
  covered := by
    intro timeStamp member
    cases member

/-- One more lawful delivery keeps the law. -/
theorem snoc {deliveries : List (Delivery slots)} {delivery : Delivery slots}
    (law : DeliveryLaw delivery.lastBefore deliveries) (lawful : delivery.Lawful) :
    DeliveryLaw delivery.lastAfter (deliveries ++ [delivery]) where
  lawful := by
    intro other member
    rcases List.mem_append.mp member with earlier | last
    · exact law.lawful other earlier
    · rw [List.mem_singleton.mp last]
      exact lawful
  linked := law.linked.snoc rfl
  ascending := by
    rw [List.flatMap_append, List.pairwise_append]
    simp only [List.flatMap_cons, List.flatMap_nil, List.append_nil]
    refine ⟨law.ascending, lawful.ascending, ?_⟩
    intro earlier before later after
    have bound := BitVec.le_def.mp (law.covered earlier before)
    have newer := BitVec.lt_def.mp (lawful.newer later after)
    exact BitVec.lt_def.mpr (Nat.lt_of_le_of_lt bound newer)
  covered := by
    intro timeStamp member
    rw [List.flatMap_append, List.mem_append] at member
    rcases member with earlier | last
    · exact BitVec.le_trans (law.covered timeStamp earlier) lawful.monotone
    · simp only [List.flatMap_cons, List.flatMap_nil, List.append_nil] at last
      exact lawful.covered timeStamp last

end DeliveryLaw

/-! ## The system -/

/-- A party of the system; all but the slots is about a collecting consumer. -/
structure DeliveryParty (slots : Nat) where
  party : SlotParty slots
  lastTs : EventTimeStamp
  atCall : LogView slots
  deliveries : List (Delivery slots)

/-- The calls of the parties. -/
inductive DeliveryCall (slots : Nat) where
  | onSlots (call : SlotCall slots)
  | getNewSamplesSlotIndices (maxCount : Nat)

/-- What they return. -/
inductive DeliveryReply (slots : Nat) where
  | onSlots (reply : SlotReply slots)
  | collected (slotIndices : List (Fin slots)) (lastTs : EventTimeStamp)

namespace DeliveryCall

/-- Some consumers collect, the others reference slots on their own.  Where no
assertion stops them, these do not reach for a slot they hold already. -/
def allowed (collects : Consumer → Bool) (ampChecked : Bool)
    (object : DeliveryParty slots) : Party Consumer → DeliveryCall slots → Bool
  | .sender, .onSlots call =>
      call.allowed (.sender : Party Consumer) object.party
  | .consumer _, .onSlots (.dereferenceEvent slotIndex) =>
      (SlotCall.dereferenceEvent slotIndex).undoubled ampChecked object.party
  | .consumer index, .onSlots call =>
      !collects index && call.undoubled ampChecked object.party
  | .consumer index, .getNewSamplesSlotIndices _ => collects index
  | _, _ => false

def code (maxSlots : Nat) (object : DeliveryParty slots) : Party Consumer → DeliveryCall slots →
      ControlProgram slots Consumer (DeliveryReply slots)
  | party, .onSlots call => do
      pure (.onSlots (← call.code party))
  | .consumer index, .getNewSamplesSlotIndices maxCount => do
      let collector : SlotCollector Consumer :=
        { lastTs := object.lastTs, maxSlots, transactionLogIndex := index }
      let (slotIndices, lastTs) ← collector.getNewSamplesSlotIndices maxCount
      pure (.collected slotIndices lastTs)
  | .sender, .getNewSamplesSlotIndices _ => pure (.collected [] 0)

end DeliveryCall

namespace DeliveryParty

/-- A party that has done nothing. -/
def new : DeliveryParty slots where
  party := .empty
  lastTs := 0
  atCall := ⟨.empty, .empty⟩
  deliveries := []

/-- A call starts: a consumer's log is kept for its record. -/
def calling (object : DeliveryParty slots)
    (control : EventControl slots Consumer) :
    Party Consumer → DeliveryParty slots
  | .sender => object
  | .consumer index =>
      { object with atCall := ⟨object.party, control.log index⟩ }

/-- A call returns: a collection is recorded, and ends with a new `lastTs`. -/
def returned (object : DeliveryParty slots)
    (control : EventControl slots Consumer) :
    Party Consumer → DeliveryReply slots → DeliveryParty slots
  | .consumer index, .collected slotIndices lastTs =>
      { object with
        lastTs
        deliveries := object.deliveries ++
          [{ lastBefore := object.lastTs
             lastAfter := lastTs
             slotIndices
             timeStamps := slotIndices.map fun slot =>
               (EventSlotStatus.mk (control.stateSlots slot)).getTimeStamp
             logBefore := object.atCall.log.referenceCountSlots
             logAfter := (control.log index).referenceCountSlots }] }
  | _, _ => object

@[simp] theorem calling_party (object : DeliveryParty slots)
    (control : EventControl slots Consumer) (party : Party Consumer) :
    (object.calling control party).party = object.party := by
  cases party <;> rfl

@[simp] theorem calling_lastTs (object : DeliveryParty slots)
    (control : EventControl slots Consumer) (party : Party Consumer) :
    (object.calling control party).lastTs = object.lastTs := by
  cases party <;> rfl

@[simp] theorem calling_deliveries (object : DeliveryParty slots)
    (control : EventControl slots Consumer) (party : Party Consumer) :
    (object.calling control party).deliveries = object.deliveries := by
  cases party <;> rfl

@[simp] theorem returned_party (object : DeliveryParty slots)
    (control : EventControl slots Consumer) (party : Party Consumer) (reply : DeliveryReply slots) :
    (object.returned control party reply).party = object.party := by
  cases party <;> cases reply <;> rfl

end DeliveryParty

/-- One sender and any number of consumers, some of which collect samples. -/
def deliverySystem (slots : Nat) [DecidableEq Consumer]
    (collects : Consumer → Bool) (maxSlots : Nat) (ampChecked : Bool) :
    System (Party Consumer) (ControlOp slots Consumer) ControlOp.Ret
      (EventControl slots Consumer) (DeliveryParty slots) (DeliveryCall slots)
      (DeliveryReply slots) where
  outcomes := ControlOp.outcomes ampChecked
  mayCall party object call := DeliveryCall.allowed collects ampChecked object party call = true
  code party object call := DeliveryCall.code maxSlots object party call
  onCall party control object _ := object.calling control party
  observe party _ object op answer := { object with party := object.party.observe party op answer }
  onReturn party control object _ reply := object.returned control party reply
  onCrash _ _ _ := none
  environment _ _ := False

/-- A state of `deliverySystem`. -/
abbrev DeliveryConfig (slots : Nat) (Consumer : Type) :=
  Config (Party Consumer) (ControlOp slots Consumer) ControlOp.Ret
    (EventControl slots Consumer) (DeliveryParty slots) (DeliveryCall slots)
    (DeliveryReply slots)

/-- An event of `deliverySystem`. -/
abbrev DeliveryEvent (slots : Nat) (Consumer : Type) :=
  Event (Party Consumer) (ControlOp slots Consumer) ControlOp.Ret
    (DeliveryCall slots) (DeliveryReply slots)

/-- The log of a consumer that is subscribed and holds no sample. -/
def TransactionLog.subscribed (maxSampleCount : BitVec 16) : TransactionLog slots :=
  { TransactionLog.empty with
    subscribeTransactions := .recorded
    subscriptionMaxSampleCount := some maxSampleCount }

/-- Every consumer is subscribed, nothing else has happened. -/
def deliveryStart (maxSampleCount : Consumer → BitVec 16) : DeliveryConfig slots Consumer where
  memory :=
    { (EventControl.new : EventControl slots Consumer) with
      transactionLogs := fun index =>
        { isActive := true
          needsRollback := false
          transactionLog := .subscribed (maxSampleCount index) } }
  object := fun _ => .new
  activity := fun _ => .idle

/-- The slot records of all parties. -/
def slotParties (objects : Party Consumer → DeliveryParty slots) :
    Party Consumer → SlotParty slots :=
  DeliveryParty.party ∘ objects

theorem slotParties_update [DecidableEq Consumer]
    (objects : Party Consumer → DeliveryParty slots) (party : Party Consumer)
    (object : DeliveryParty slots) :
    slotParties (Function.update objects party object) =
      Function.update (slotParties objects) party object.party :=
  Function.comp_update _ _ _ _

/-- What does not touch the slots leaves the slot records alone. -/
theorem slotParties_update_of_same [DecidableEq Consumer]
    {objects : Party Consumer → DeliveryParty slots} {party : Party Consumer}
    {object : DeliveryParty slots} (same : object.party = (objects party).party) :
    slotParties (Function.update objects party object) = slotParties objects := by
  rw [slotParties_update, same]
  exact Function.update_eq_self party (slotParties objects)

/-! ## The contract -/

/-- The view of a party. -/
structure DeliveryView (slots : Nat) where
  now : LogView slots
  atCall : LogView slots
  lastTs : EventTimeStamp

/-- A consumer relies on the timestamps of the slots it holds. -/
def readerMode (ampChecked : Bool) : LogMode where
  ampChecked := ampChecked
  stampsKept := true
  rollingBack := false

/-- The rules of a consumer are those of its log. -/
def deliveryRules (ampChecked : Bool) : Party Consumer →
    Rules (ControlOp slots Consumer) ControlOp.Ret (DeliveryView slots)
  | .sender =>
      { may := fun view op => senderRules.may view.now.party op
        expects := fun view op answer =>
          senderRules.expects view.now.party op answer
        next := fun view op answer =>
          { view with
            now := { view.now with
              party := view.now.party.observeSender op answer } } }
  | .consumer index =>
      { may := fun view op =>
          (logRules (readerMode ampChecked) index).may view.now op
        expects := fun view op answer =>
          (logRules (readerMode ampChecked) index).expects view.now op answer
        next := fun view op answer =>
          { view with now := view.now.observe op answer } }

def deliveryView (config : DeliveryConfig slots Consumer) : Party Consumer → DeliveryView slots
  | .sender =>
      { now := ⟨(config.object .sender).party, .empty⟩
        atCall := (config.object .sender).atCall
        lastTs := (config.object .sender).lastTs }
  | .consumer index =>
      { now :=
          ⟨(config.object (.consumer index)).party, config.memory.log index⟩
        atCall := (config.object (.consumer index)).atCall
        lastTs := (config.object (.consumer index)).lastTs }

/-- Every held sample is older than what the next call looks for. -/
def Old (view : LogView slots) (lastTs : EventTimeStamp) : Prop :=
  ∀ slot, ∀ timeStamp ∈ view.party.references slot, timeStamp ≤ lastTs

/-- What a consumer relies on between two calls. -/
structure Ready (collecting : Bool) (view : LogView slots)
    (lastTs : EventTimeStamp) : Prop where
  settled : view.Settled
  old : collecting = true → Old view lastTs

/-- What a call of a consumer guarantees. -/
def consumerPost (collecting : Bool) (view : DeliveryView slots) : DeliveryReply slots → Prop
  | .collected slotIndices lastTs =>
      Ready collecting view.now lastTs ∧ view.atCall.Settled ∧
        ∃ samples, slotIndices = samples.map Prod.fst ∧
          view.now = view.atCall.withRecorded samples ∧
          Collected view.atCall view.lastTs samples ∧ view.lastTs ≤ lastTs ∧
          ∀ sample ∈ samples, sample.2 ≤ lastTs
  | .onSlots _ => Ready collecting view.now view.lastTs

/-- What holds in every state. -/
structure DeliveryInv [Fintype Consumer] (collects : Consumer → Bool)
    (config : DeliveryConfig slots Consumer) : Prop where
  own : SlotOwnership config.memory.stateSlots (slotParties config.object)
  consistent : ∀ index, (deliveryView config (.consumer index)).now.Consistent
  law : ∀ index, DeliveryLaw (config.object (.consumer index)).lastTs
    (config.object (.consumer index)).deliveries
  idle : ∀ index, config.activity (.consumer index) = .idle →
    Ready (collects index) (deliveryView config (.consumer index)).now
      (config.object (.consumer index)).lastTs

def deliveryContract (slots : Nat) [Fintype Consumer] [DecidableEq Consumer]
    (collects : Consumer → Bool) (maxSlots : Nat) (ampChecked : Bool) :
    Contract (deliverySystem slots collects maxSlots ampChecked)
      (DeliveryView slots) where
  Inv := DeliveryInv collects
  view := deliveryView
  rules := deliveryRules ampChecked
  post party _ reply view :=
    match party with
    | .sender => True
    | .consumer index => consumerPost (collects index) view reply

/-! ## Every call keeps the rules -/

section Calls

variable {maxSlots : Nat} {ampChecked : Bool}

/-- A program that keeps the rules of a log keeps those of its consumer. -/
theorem consumer_respects {α : Type} {index : Consumer} {program : ControlProgram slots Consumer α}
    {post : α → LogView slots → Prop} {view : DeliveryView slots}
    (respected : program.Respects (logRules (readerMode ampChecked) index) view.now post) :
    program.Respects (deliveryRules ampChecked (.consumer index)) view
      fun result after => post result after.now ∧
        after.atCall = view.atCall ∧ after.lastTs = view.lastTs := by
  refine Program.Respects.transfer _ DeliveryView.now
    (fun after => after.atCall = view.atCall ∧ after.lastTs = view.lastTs)
    ?_ ?_ ⟨rfl, rfl⟩ respected
  · intro current op _ may
    exact may
  · intro current op answer kept may expects
    exact ⟨expects, rfl, kept⟩

/-- A program that keeps the rules of the sender keeps them here. -/
theorem sender_respects {α : Type} {program : ControlProgram slots Consumer α}
    {post : α → SlotParty slots → Prop} {view : DeliveryView slots}
    (respected : program.Respects senderRules view.now.party post) :
    program.Respects (deliveryRules ampChecked .sender) view
      fun _ _ => True := by
  refine (Program.Respects.transfer _ (fun after => after.now.party)
    (fun _ => True) ?_ ?_ trivial respected).mono fun _ _ _ => trivial
  · intro current op _ may
    exact may
  · intro current op answer _ may expects
    exact ⟨expects, rfl, trivial⟩

/-- After a collection everything held is older than the new limit. -/
theorem old_withRecorded {view : LogView slots} {lastTs next : EventTimeStamp}
    {samples : List (Fin slots × EventTimeStamp)} (old : Old view lastTs)
    (collected : Collected view lastTs samples) (atLeast : lastTs ≤ next)
    (all : ∀ sample ∈ samples, sample.2 ≤ next) :
    Old (view.withRecorded samples) next := by
  intro slot timeStamp held
  rcases LogView.mem_withRecorded collected.once held with earlier | taken
  · exact BitVec.le_trans (old slot timeStamp earlier) atLeast
  · exact all _ taken

/-- Giving a slot back leaves only older references. -/
theorem old_withSlot_empty {view : LogView slots} {lastTs : EventTimeStamp}
    {slot : Fin slots} {flags : TransactionLogSlot} (old : Old view lastTs) :
    Old (view.withSlot slot flags []) lastTs := by
  intro other timeStamp held
  by_cases same : other = slot
  · subst same
    rw [LogView.withSlot_references] at held
    cases held
  · simp only [LogView.withSlot, Function.update_of_ne same] at held
    exact old other timeStamp held

variable {collects : Consumer → Bool} {index : Consumer}
  {object : DeliveryParty slots} {view : DeliveryView slots}

/-- A collection, from a log that is ready for it. -/
theorem getNewSamples_respects (maxCount : Nat)
    (sameLast : view.lastTs = object.lastTs) (snapshot : view.atCall = view.now)
    (collecting : collects index = true) (ready : Ready (collects index) view.now view.lastTs) :
    (DeliveryCall.code maxSlots object (.consumer index)
      (.getNewSamplesSlotIndices maxCount)).Respects
        (deliveryRules ampChecked (.consumer index)) view fun reply after =>
          consumerPost (collects index) after reply := by
  have old := ready.old collecting
  rw [sameLast] at old
  have collects := SlotCollector.getNewSamplesSlotIndices_respects
    (show (readerMode ampChecked).stampsKept = true from rfl) rfl ready.settled
    (show ∀ slot, ∀ timeStamp ∈ view.now.party.references slot,
      timeStamp ≤ (SlotCollector.mk object.lastTs maxSlots index).lastTs from old) maxCount
  refine (consumer_respects collects).bind ?_
  rintro ⟨slotIndices, lastTs⟩ after ⟨effect, sameCall, kept⟩
  obtain ⟨samples, indices, moved, collected, atLeast, all⟩ := effect
  have before : after.atCall = view.now := by
    rw [sameCall, snapshot]
  have last : after.lastTs = object.lastTs := by
    rw [kept, sameLast]
  refine ⟨⟨?_, fun _ => ?_⟩, ?_, samples, indices, ?_, ?_, ?_, all⟩
  · rw [moved]
    exact ready.settled.withRecorded
  · rw [moved]
    exact old_withRecorded old collected atLeast all
  · rw [before]
    exact ready.settled
  · rw [moved, before]
  · rw [before, last]
    exact collected
  · rw [last]
    exact atLeast

/-- A call on the slots, from a log that is ready for it. -/
theorem onSlots_respects {call : SlotCall slots}
    (allowed : DeliveryCall.allowed collects ampChecked object (.consumer index)
      (.onSlots call) = true)
    (sameParty : view.now.party = object.party)
    (ready : Ready (collects index) view.now view.lastTs) :
    (DeliveryCall.code maxSlots object (.consumer index)
      (.onSlots call)).Respects (deliveryRules ampChecked (.consumer index)) view
        fun reply after => consumerPost (collects index) after reply := by
  obtain ⟨settled, old⟩ := ready
  by_cases collecting : collects index = true
  · cases call with
    | dereferenceEvent slotIndex =>
        have held : view.now.party.references slotIndex ≠ [] := by
          intro nothing
          rw [sameParty] at nothing
          simp [DeliveryCall.allowed, SlotCall.undoubled, nothing] at allowed
        have gives : (EventDataControl.dereferenceEvent slotIndex index).Respects
            (logRules (readerMode ampChecked) index) view.now
            fun _ after => after = view.now.withSlot slotIndex .empty [] :=
          dereferenceEvent_settled settled rfl held
        refine (consumer_respects gives).bind fun _ after effect => ?_
        obtain ⟨moved, _, kept⟩ := effect
        refine ⟨?_, fun _ => ?_⟩
        · rw [moved]
          exact settled.withSlot (.inl ⟨rfl, rfl⟩)
        · rw [moved, kept]
          exact old_withSlot_empty (old collecting)
    | _ => simp [DeliveryCall.allowed, collecting] at allowed
  · have undoubled : call.undoubled ampChecked view.now.party = true := by
      rw [sameParty]
      cases call with
      | dereferenceEvent slotIndex => exact allowed
      | _ =>
          simp only [DeliveryCall.allowed, Bool.and_eq_true] at allowed
          exact allowed.2
    have settles : (call.code (.consumer index)).Respects
        (logRules (readerMode ampChecked) index) view.now
        fun _ after => after.Settled :=
      SlotCall.code_settled settled rfl rfl undoubled
    refine (consumer_respects settles).bind fun _ after effect => ?_
    exact ⟨effect.1, fun collects => absurd collects collecting⟩

/-- A call of the sender. -/
theorem senderCall_respects {call : DeliveryCall slots}
    (allowed : DeliveryCall.allowed collects ampChecked object .sender call = true)
    (sameParty : view.now.party = object.party) :
    (DeliveryCall.code maxSlots object (.sender : Party Consumer) call).Respects
      (deliveryRules ampChecked .sender) view fun _ _ => True := by
  cases call with
  | onSlots slotCall =>
      have slotAllowed : slotCall.allowed (.sender : Party Consumer)
          view.now.party = true := by
        rw [sameParty]
        exact allowed
      exact (sender_respects (SlotCall.code_respects slotAllowed)).bind fun _ _ _ => trivial
  | getNewSamplesSlotIndices maxCount => cases allowed

end Calls

/-! ## Every kind of step -/

section Steps

variable [DecidableEq Consumer] {collects : Consumer → Bool} {maxSlots : Nat}
  {ampChecked : Bool} {config : DeliveryConfig slots Consumer}
  {party : Party Consumer}

variable {op : ControlOp slots Consumer}

omit [DecidableEq Consumer] in
/-- The rules of a log are those of its slots. -/
theorem slotRules_of_deliveryRules
    (may : (deliveryRules ampChecked party).may (deliveryView config party) op) :
    (slotRules party).may (config.object party).party op := by
  cases party with
  | sender => exact may
  | consumer index => exact consumer_of_logRules may

variable {memory : EventControl slots Consumer}

/-- Nobody's view changes but that of the party that moves. -/
theorem deliveryView_of_ne {other : Party Consumer} {object : DeliveryParty slots}
    {activity : Activity (ControlOp slots Consumer) ControlOp.Ret
      (DeliveryCall slots) (DeliveryReply slots)}
    (distinct : other ≠ party) (sameLog : ∀ index, other = .consumer index →
      memory.log index = config.memory.log index) :
    deliveryView (config.update memory party object activity) other =
      deliveryView config other := by
  cases other with
  | sender => simp only [deliveryView, Config.update_object_of_ne distinct]
  | consumer index =>
      simp only [deliveryView, Config.update_object_of_ne distinct,
        Config.update_memory, sameLog index rfl]

/-- An operation moves the view of its party as the rules say. -/
theorem deliveryView_perform {answer : op.Ret}
    {activity : Activity (ControlOp slots Consumer) ControlOp.Ret
      (DeliveryCall slots) (DeliveryReply slots)}
    (may : (slotRules party).may (config.object party).party op)
    (outcome : (answer, memory) ∈ op.outcomes ampChecked config.memory) :
    deliveryView
        (config.update memory party { config.object party with
            party := (config.object party).party.observe party op answer }
          activity) party =
      (deliveryRules ampChecked party).next (deliveryView config party) op
        answer := by
  cases party with
  | sender =>
      simp only [deliveryView, Config.update_object_self]
      rfl
  | consumer index =>
      have moved := log_of_own outcome (writes_of_consumerRules may)
      simp only [deliveryView, Config.update_object_self, Config.update_memory, moved]
      rfl

variable [Fintype Consumer]

omit [DecidableEq Consumer] in
/-- No consumer holds two references to a slot, so that there are at most as
many as there are consumers. -/
theorem DeliveryInv.few (inv : DeliveryInv collects config)
    (fits : Fintype.card Consumer < 2 ^ 32 - 1) (slot : Fin slots) :
    outstanding (slotParties config.object) slot < 2 ^ 32 - 1 := by
  have bound : outstanding (slotParties config.object) slot ≤ Finset.univ.card • 1 :=
    Finset.sum_le_card_nsmul _ _ _ fun index _ =>
      (inv.consistent index).length_le_one slot
  rw [smul_eq_mul, mul_one, Finset.card_univ] at bound
  omega

/-- An operation keeps the invariant. -/
theorem DeliveryInv.perform (inv : DeliveryInv collects config)
    (fits : Fintype.card Consumer < 2 ^ 32 - 1) {call : DeliveryCall slots} {answer : op.Ret}
    {next : op.Ret → ControlProgram slots Consumer (DeliveryReply slots)}
    (may : (deliveryRules ampChecked party).may (deliveryView config party) op)
    (outcome : (answer, memory) ∈ op.outcomes ampChecked config.memory) :
    DeliveryInv collects
      (config.update memory party { config.object party with
          party := (config.object party).party.observe party op answer }
        (.running call (next answer))) := by
  have slotMay := slotRules_of_deliveryRules may
  have elsewhere : ∀ index, Party.consumer index ≠ party →
      memory.log index = config.memory.log index :=
    fun index distinct =>
      log_of_other outcome (writes_of_slotRules slotMay (Ne.symm distinct))
  constructor
  · rw [Config.update_object, slotParties_update]
    exact inv.own.perform (inv.few fits) slotMay outcome
  · intro index
    by_cases self : Party.consumer index = party
    · subst self
      rw [deliveryView_perform slotMay outcome]
      exact consistent_of_logRules may (inv.consistent index)
    · rw [deliveryView_of_ne self]
      · exact inv.consistent index
      · intro other same
        cases same
        exact elsewhere index self
  · intro index
    by_cases self : Party.consumer index = party
    · subst self
      rw [Config.update_object_self]
      exact inv.law index
    · rw [Config.update_object_of_ne self]
      exact inv.law index
  · intro index idle
    by_cases self : Party.consumer index = party
    · subst self
      rw [Config.update_activity_self] at idle
      cases idle
    · rw [Config.update_activity_of_ne self] at idle
      rw [Config.update_object_of_ne self, deliveryView_of_ne self]
      · exact inv.idle index idle
      · intro other same
        cases same
        exact elsewhere index self

/-- A call keeps the invariant. -/
theorem DeliveryInv.call (inv : DeliveryInv collects config) {call : DeliveryCall slots}
    {rest : ControlProgram slots Consumer (DeliveryReply slots)} :
    DeliveryInv collects
      (config.update config.memory party ((config.object party).calling config.memory party)
        (.running call rest)) := by
  constructor
  · rw [Config.update_object, slotParties_update_of_same (by simp)]
    exact inv.own
  · intro index
    by_cases self : Party.consumer index = party
    · subst self
      simpa [deliveryView] using inv.consistent index
    · rw [deliveryView_of_ne self fun _ _ => rfl]
      exact inv.consistent index
  · intro index
    by_cases self : Party.consumer index = party
    · subst self
      simpa using inv.law index
    · rw [Config.update_object_of_ne self]
      exact inv.law index
  · intro index idle
    by_cases self : Party.consumer index = party
    · subst self
      rw [Config.update_activity_self] at idle
      cases idle
    · rw [Config.update_activity_of_ne self] at idle
      rw [Config.update_object_of_ne self, deliveryView_of_ne self fun _ _ => rfl]
      exact inv.idle index idle

omit [DecidableEq Consumer] in
/-- The timestamps of collected slots are those they were collected with. -/
theorem timeStamps_of_held {index : Consumer} {stateSlots : Fin slots → StatusWord}
    {parties : Party Consumer → SlotParty slots} (own : SlotOwnership stateSlots parties)
    {samples : List (Fin slots × EventTimeStamp)} (held : ∀ sample ∈ samples,
      (parties (.consumer index)).references sample.1 = [sample.2]) :
    ((samples.map Prod.fst).map fun slot =>
        (EventSlotStatus.mk (stateSlots slot)).getTimeStamp) =
      samples.map Prod.snd := by
  rw [List.map_map]
  apply List.map_congr_left
  intro sample member
  refine (own.stamped index sample.1 sample.2 ?_).1
  rw [held sample member]
  exact List.mem_singleton.mpr rfl

omit [DecidableEq Consumer] [Fintype Consumer] in
/-- A finished collection is a lawful delivery. -/
theorem Collected.lawful {before : LogView slots} {lastTs next : EventTimeStamp}
    {samples : List (Fin slots × EventTimeStamp)}
    (collected : Collected before lastTs samples) (settled : before.Settled)
    (atLeast : lastTs ≤ next) (all : ∀ sample ∈ samples, sample.2 ≤ next) :
    Delivery.Lawful
      { lastBefore := lastTs
        lastAfter := next
        slotIndices := samples.map Prod.fst
        timeStamps := samples.map Prod.snd
        logBefore := before.log.referenceCountSlots
        logAfter := (before.withRecorded samples).log.referenceCountSlots } where
  ascending := collected.ascending
  newer := by
    intro timeStamp member
    obtain ⟨sample, taken, rfl⟩ := List.mem_map.mp member
    exact collected.newer sample taken
  monotone := atLeast
  covered := by
    intro timeStamp member
    obtain ⟨sample, taken, rfl⟩ := List.mem_map.mp member
    exact all sample taken
  once := collected.once
  recorded := by
    intro slot member
    obtain ⟨sample, taken, rfl⟩ := List.mem_map.mp member
    constructor
    · exact settled.flags_of_unused (collected.unused sample taken)
    · exact (LogView.withRecorded_of_mem collected.once taken).2
  untouched := by
    intro slot absent
    exact (LogView.withRecorded_of_notMem absent).2

omit [DecidableEq Consumer] in
/-- A consumer returns: a collection lawfully continues its record. -/
theorem DeliveryInv.returned (inv : DeliveryInv collects config)
    {index : Consumer} {reply : DeliveryReply slots} (post : consumerPost (collects index)
      (deliveryView config (.consumer index)) reply) :
    DeliveryLaw
        ((config.object (.consumer index)).returned config.memory (.consumer index) reply).lastTs
        ((config.object (.consumer index)).returned config.memory
          (.consumer index) reply).deliveries ∧
      Ready (collects index) (deliveryView config (.consumer index)).now
        ((config.object (.consumer index)).returned config.memory
          (.consumer index) reply).lastTs := by
  cases reply with
  | onSlots slotReply => exact ⟨inv.law index, post⟩
  | collected slotIndices lastTs =>
      obtain ⟨ready, settledBefore, samples, rfl, moved, collected, atLeast, all⟩ := post
      have references := congrArg LogView.party moved
      have logs := congrArg LogView.log moved
      simp only [deliveryView] at references logs
      have held : ∀ sample ∈ samples, ((slotParties config.object) (.consumer index)).references
            sample.1 = [sample.2] := by
        intro sample member
        show (config.object (.consumer index)).party.references sample.1 = _
        rw [references]
        exact (LogView.withRecorded_of_mem collected.once member).1
      refine ⟨?_, ready⟩
      simp only [DeliveryParty.returned]
      rw [timeStamps_of_held inv.own held, logs]
      exact (inv.law index).snoc (collected.lawful settledBefore atLeast all)

/-- A return keeps the invariant. -/
theorem DeliveryInv.finish (inv : DeliveryInv collects config) {reply : DeliveryReply slots}
    (post : ∀ index, party = .consumer index →
      consumerPost (collects index) (deliveryView config (.consumer index)) reply) :
    DeliveryInv collects
      (config.update config.memory party
        ((config.object party).returned config.memory party reply) .idle) := by
  constructor
  · rw [Config.update_object, slotParties_update_of_same (by simp)]
    exact inv.own
  · intro index
    by_cases self : Party.consumer index = party
    · subst self
      simpa [deliveryView] using inv.consistent index
    · rw [deliveryView_of_ne self fun _ _ => rfl]
      exact inv.consistent index
  · intro index
    by_cases self : Party.consumer index = party
    · subst self
      rw [Config.update_object_self]
      exact (inv.returned (post index rfl)).1
    · rw [Config.update_object_of_ne self]
      exact inv.law index
  · intro index idle
    by_cases self : Party.consumer index = party
    · subst self
      rw [Config.update_object_self]
      simpa [deliveryView] using (inv.returned (post index rfl)).2
    · rw [Config.update_activity_of_ne self] at idle
      rw [Config.update_object_of_ne self, deliveryView_of_ne self fun _ _ => rfl]
      exact inv.idle index idle

/-- The obligations of the contract, for any run of fewer consumers than the
reference count can tell from a slot in writing. -/
theorem deliveryContract_obligations (fits : Fintype.card Consumer < 2 ^ 32 - 1) :
    (deliveryContract slots collects maxSlots ampChecked).Obligations
      fun _ _ => True where
  call := by
    intro config party call inv _ idle allowed after moved
    subst moved
    refine ⟨inv.call, ?_, ?_⟩
    · intro other distinct
      exact deliveryView_of_ne distinct fun _ _ => rfl
    · cases party with
      | sender =>
          refine senderCall_respects allowed ?_
          simp [deliveryContract, deliveryView, deliverySystem]
      | consumer index =>
          have ready := inv.idle index idle
          have sameView : (deliveryContract slots collects maxSlots
              ampChecked).view
              (config.update config.memory (.consumer index)
                ((config.object (.consumer index)).calling config.memory (.consumer index))
                (.running call (DeliveryCall.code maxSlots
                  (config.object (.consumer index)) (.consumer index) call)))
              (.consumer index) =
              { now := (deliveryView config (.consumer index)).now
                atCall := (deliveryView config (.consumer index)).now
                lastTs := (config.object (.consumer index)).lastTs } := by
            simp [deliveryContract, deliveryView, DeliveryParty.calling]
          refine Eq.subst (motive := fun view =>
            (DeliveryCall.code maxSlots (config.object (.consumer index))
              (.consumer index) call).Respects
                (deliveryRules ampChecked (.consumer index)) view _)
            sameView.symm ?_
          cases call with
          | onSlots slotCall => exact onSlots_respects allowed rfl ready
          | getNewSamplesSlotIndices maxCount =>
              exact getNewSamples_respects maxCount rfl rfl allowed ready
  perform := by
    intro config party call op next answer memory inv _ _ may outcome after moved
    subst moved
    have slotMay := slotRules_of_deliveryRules may
    refine ⟨inv.perform fits may outcome, ?_, ?_, ?_⟩
    · intro other distinct
      refine deliveryView_of_ne distinct fun index self => ?_
      subst self
      exact log_of_other outcome (writes_of_slotRules slotMay (Ne.symm distinct))
    · cases party with
      | sender =>
          have expected : (slotRules (.sender : Party Consumer)).expects
              (slotParties config.object .sender) op answer :=
            inv.own.expected outcome
          exact expected
      | consumer index =>
          refine logRules_expected may outcome rfl ?_
          intro _ slot timeStamp held
          exact (inv.own.stamped index slot timeStamp held).1
    · exact deliveryView_perform slotMay outcome
  finish := by
    intro config party call reply inv _ _ post after moved
    subst moved
    refine ⟨inv.finish ?_, ?_⟩
    · intro index self
      subst self
      exact post
    · intro other distinct
      exact deliveryView_of_ne distinct fun _ _ => rfl
  crash := by
    intro config party object _ _ killed
    cases killed
  environment := by
    intro config memory _ _ moved
    exact moved.elim

omit [DecidableEq Consumer] in
/-- Subscribed consumers start with nothing collected. -/
theorem deliveryInv_start (maxSampleCount : Consumer → BitVec 16) : DeliveryInv collects
      (deliveryStart maxSampleCount : DeliveryConfig slots Consumer) := by
  have settled : ∀ index, (deliveryView
      (deliveryStart maxSampleCount : DeliveryConfig slots Consumer)
        (.consumer index)).now.Settled :=
    fun index => ⟨fun slot => .inl ⟨rfl, rfl⟩, rfl⟩
  constructor
  · exact SlotOwnership.initial
  · exact fun index => (settled index).consistent
  · exact fun index => DeliveryLaw.initial
  · intro index _
    refine ⟨settled index, fun _ slot timeStamp held => ?_⟩
    cases held

/-- The law of delivery, for every consumer over every interleaving and any
number of calls. -/
theorem deliveryLaw_of_reached {maxSampleCount : Consumer → BitVec 16}
    (fits : Fintype.card Consumer < 2 ^ 32 - 1)
    (reached : Reaches (deliverySystem slots collects maxSlots ampChecked)
      (fun _ _ => True) (deliveryStart maxSampleCount) config)
    (index : Consumer) :
    DeliveryLaw (config.object (.consumer index)).lastTs
      (config.object (.consumer index)).deliveries := by
  have initially : (deliveryContract slots collects maxSlots ampChecked).Inv
      (deliveryStart maxSampleCount) := deliveryInv_start maxSampleCount
  exact (Contract.run (deliveryContract_obligations fits) initially
    (fun _ => rfl) reached).inv.law index

end Steps

section Instances

variable [DecidableEq Consumer] {collects : Consumer → Bool} {maxSlots : Nat}
  {ampChecked : Bool}

instance (party : Party Consumer) (object : DeliveryParty slots)
    (call : DeliveryCall slots) :
    Decidable ((deliverySystem slots collects maxSlots ampChecked).mayCall party object call) :=
  inferInstanceAs (Decidable (_ = true))

instance (before after : EventControl slots Consumer) :
    Decidable ((deliverySystem slots collects maxSlots ampChecked).environment before after) :=
  inferInstanceAs (Decidable False)

end Instances

/-- One sample is published and collected. -/
def publishAndCollect : List (Choice (Party (Fin 1)) (EventControl 1 (Fin 1)) (DeliveryCall 1)) :=
  List.flatten
    [[.call .sender (.onSlots .allocateNextSlot)], List.replicate 3 (.perform .sender 0),
     [.finish .sender, .call .sender (.onSlots (.eventReady 0 2)),
      .perform .sender 0, .finish .sender, .call (.consumer 0) (.getNewSamplesSlotIndices 1)],
     List.replicate 16 (.perform (.consumer 0) 0), [.finish (.consumer 0)]]

theorem deliveryLaw_of_collected : ∃ config : DeliveryConfig 1 (Fin 1),
      (config.object (.consumer 0)).deliveries.map Delivery.timeStamps = [[2]] ∧
        DeliveryLaw (config.object (.consumer 0)).lastTs
          (config.object (.consumer 0)).deliveries := by
  obtain ⟨config, reached, delivered⟩ :=
    exists_reached (deliverySystem 1 (fun _ : Fin 1 => true) 1 true)
      (fun _ _ => True) (deliveryStart fun _ => 1) publishAndCollect
      (fun config => (config.object (.consumer 0)).deliveries.map Delivery.timeStamps = [[2]])
      (by decide +kernel)
  exact ⟨config, delivered, deliveryLaw_of_reached (by decide) reached 0⟩

end MwCom.Lola
