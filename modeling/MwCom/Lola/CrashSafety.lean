/-
Module: MwCom.Lola.CrashSafety
Purpose: Consumers that subscribe, reference, are killed at any operation and
  have their log rolled back, while sender and other consumers go on: what the
  rollback gives back, and that nothing is given back twice.
Trusted boundary: the record of a party (`CrashParty`) is bookkeeping of this
  module.
Main exports: CrashParty, crashSystem, CrashLaw, crashLaw_of_reached
-/
import MwCom.Lola.CrashRecovery

namespace MwCom.Lola

open Interleaving EventDataControl EventSubscriptionControl Function

variable {slots : Nat} {Consumer : Type}

/-- A party of the system.  All but the slots is about a consumer: its part of
the subscription counters, whether it was killed, and since then what it left
and what was given back for it. -/
structure CrashParty (slots : Nat) where
  party : SlotParty slots
  subscription : Option (BitVec 16)
  requested : BitVec 16
  dead : Bool
  attempts : Nat
  leftReferences : Fin slots → Nat
  leftSubscription : Option (BitVec 16)
  rolledBack : Fin slots → Nat
  unsubscribed : Nat

/-- The calls of the parties. -/
inductive CrashCall (slots : Nat) where
  | onSlots (call : SlotCall slots)
  | subscribeEvent (maxSampleCount : BitVec 16)
  | unsubscribeEvent
  | rollbackProxyElementLog

/-- What they return. -/
inductive CrashReply (slots : Nat) where
  | onSlots (reply : SlotReply slots)
  | subscribed (result : Except ComErrc Unit)
  | unsubscribed
  | rolledBack (result : Except ComErrc Unit)

/-- How many subscribers a consumer is. -/
def subscriberShare : Option (BitVec 16) → Nat
  | none => 0
  | some _ => 1

/-- How many slots a consumer booked. -/
def slotShare : Option (BitVec 16) → Nat
  | none => 0
  | some count => count.toNat

namespace CrashParty

/-- A party that has done nothing. -/
def new : CrashParty slots where
  party := .empty
  subscription := none
  requested := 0
  dead := false
  attempts := 0
  leftReferences := fun _ => 0
  leftSubscription := none
  rolledBack := fun _ => 0
  unsubscribed := 0

/-- A call starts. -/
def calling (object : CrashParty slots) : CrashCall slots → CrashParty slots
  | .subscribeEvent maxSampleCount =>
      { object with requested := maxSampleCount, attempts := 0 }
  | _ => { object with attempts := 0 }

/-- After the kill every reference given back counts. -/
def countRolledBack (dead : Bool) (rolledBack : Fin slots → Nat) :
    (op : ControlOp slots Consumer) → op.Ret → Fin slots → Nat
  | .fetchSub slot, _ =>
      if dead then update rolledBack slot (rolledBack slot + 1)
      else rolledBack
  | _, _ => rolledBack

/-- After the kill every update of the subscription counters counts. -/
def countUnsubscribed (dead : Bool) (unsubscribed : Nat) :
    (op : ControlOp slots Consumer) → op.Ret → Nat
  | .compareExchangeSubscription _ _, true =>
      if dead then unsubscribed + 1 else unsubscribed
  | _, _ => unsubscribed

/-- A consumer after one of its operations. -/
def observeConsumer (object : CrashParty slots) (op : ControlOp slots Consumer)
    (answer : op.Ret) : CrashParty slots :=
  { object with
    party := object.party.observeConsumer op answer
    subscription := CrashView.observeSubscription object.subscription
      object.requested op answer
    attempts := CrashView.observeAttempts object.attempts op answer
    rolledBack := countRolledBack object.dead object.rolledBack op answer
    unsubscribed := countUnsubscribed object.dead object.unsubscribed op answer }

section Won

variable (Consumer)

/-- A won update of the counters subscribes who was not subscribed. -/
theorem subscription_won_of_none {object : CrashParty slots}
    (before : object.subscription = none) (expected desired : BitVec 32) :
    (object.observeConsumer (ControlOp.compareExchangeSubscription expected
      desired : ControlOp slots Consumer) true).subscription = some object.requested := by
  simp [observeConsumer, CrashView.observeSubscription, before]

/-- It unsubscribes who was. -/
theorem subscription_won_of_some {object : CrashParty slots} {count : BitVec 16}
    (before : object.subscription = some count) (expected desired : BitVec 32) :
    (object.observeConsumer (ControlOp.compareExchangeSubscription expected
      desired : ControlOp slots Consumer) true).subscription = none := by
  simp [observeConsumer, CrashView.observeSubscription, before]

end Won

def observe (object : CrashParty slots) :
    Party Consumer → (op : ControlOp slots Consumer) → op.Ret → CrashParty slots
  | .sender, op, answer =>
      { object with party := object.party.observeSender op answer }
  | .consumer _, op, answer => object.observeConsumer op answer

/-- A consumer is killed, or the process that rolls back for it. -/
def killed (object : CrashParty slots) : Party Consumer → Option (CrashParty slots)
  | .sender => none
  | .consumer _ =>
      if object.dead then
        some object
      else
        some
          { object with
            dead := true
            leftReferences := fun slot => (object.party.references slot).length
            leftSubscription := object.subscription
            rolledBack := fun _ => 0
            unsubscribed := 0 }

/-- The part of a consumer that the rules are about. -/
def view (object : CrashParty slots) (log : TransactionLog slots) : CrashView slots where
  now := ⟨object.party, log⟩
  subscription := object.subscription
  requested := object.requested
  dead := object.dead
  attempts := object.attempts

end CrashParty

namespace CrashCall

/-- References are only taken while subscribed, and all given back before the
consumer unsubscribes.  After the kill there is only the rollback. -/
def allowed (ampChecked : Bool) (object : CrashParty slots) :
    Party Consumer → CrashCall slots → Bool
  | .sender, .onSlots call =>
      call.allowed (.sender : Party Consumer) object.party
  | .consumer _, .onSlots call =>
      !object.dead && object.subscription.isSome && call.undoubled ampChecked object.party
  | .consumer _, .subscribeEvent maxSampleCount =>
      !object.dead && object.subscription.isNone && decide (maxSampleCount.toNat ≤ 255)
  | .consumer _, .unsubscribeEvent =>
      !object.dead && object.subscription.isSome &&
        decide (∀ slot, object.party.references slot = [])
  | .consumer _, .rollbackProxyElementLog => object.dead
  | _, _ => false

def code (limits : EventSubscriptionControl) (object : CrashParty slots) :
    Party Consumer → CrashCall slots → ControlProgram slots Consumer (CrashReply slots)
  | party, .onSlots call => do
      pure (.onSlots (← call.code party))
  | .consumer index, .subscribeEvent maxSampleCount => do
      pure (.subscribed (← NotSubscribedState.subscribeEvent index limits maxSampleCount))
  | .consumer index, .unsubscribeEvent =>
      match object.subscription with
      | some maxSampleCount => do
          NotSubscribedState.onEntry index limits maxSampleCount
          pure .unsubscribed
      | none => pure .unsubscribed
  | .consumer index, .rollbackProxyElementLog => do
      pure (.rolledBack (← TransactionLog.rollbackProxyElementLog index
          dereferenceEventWithoutTransactionLogging limits.unsubscribe))
  | .sender, _ => pure .unsubscribed

end CrashCall

/-- One sender, and consumers of which any may be killed at any time. -/
def crashSystem (slots : Nat) [DecidableEq Consumer] (mode : CrashMode) :
    System (Party Consumer) (ControlOp slots Consumer) ControlOp.Ret
      (EventControl slots Consumer) (CrashParty slots) (CrashCall slots)
      (CrashReply slots) where
  outcomes := ControlOp.outcomes mode.ampChecked
  mayCall party object call := CrashCall.allowed mode.ampChecked object party call = true
  code party object call := CrashCall.code mode.limits object party call
  onCall _ _ object call := object.calling call
  observe party _ object op answer := object.observe party op answer
  onReturn _ _ object _ _ := object
  onCrash party _ object := object.killed party
  environment _ _ := False

/-- A state of `crashSystem`. -/
abbrev CrashConfig (slots : Nat) (Consumer : Type) :=
  Config (Party Consumer) (ControlOp slots Consumer) ControlOp.Ret
    (EventControl slots Consumer) (CrashParty slots) (CrashCall slots)
    (CrashReply slots)

/-- Nobody is subscribed, and nothing has happened. -/
def crashStart : CrashConfig slots Consumer where
  memory := .new
  object := fun _ => .new
  activity := fun _ => .idle

/-! ## The law -/

/-- The subscribers among all parties. -/
def subscribers [Fintype Consumer]
    (objects : Party Consumer → CrashParty slots) : Nat :=
  consumerTotal (fun object => subscriberShare object.subscription) objects

/-- The slots they booked together. -/
def bookedSlots [Fintype Consumer]
    (objects : Party Consumer → CrashParty slots) : Nat :=
  consumerTotal (fun object => slotShare object.subscription) objects

/-- The subscription counters are the totals, and keep the limit. -/
structure Accounted [Fintype Consumer] (limits : EventSubscriptionControl)
    (word : BitVec 32) (objects : Party Consumer → CrashParty slots) : Prop where
  counts : Counts word (subscribers objects) (bookedSlots objects)
  within : subscribers objects ≤ limits.maxSubscribers.toNat

/-- What was given back since the kill, and what is still to be given back, is
what the consumer left. -/
structure Ledger (object : CrashParty slots) : Prop where
  references : ∀ slot, object.rolledBack slot + (object.party.references slot).length =
      object.leftReferences slot
  single : ∀ slot, object.leftReferences slot ≤ 1
  subscription : object.unsubscribed + subscriberShare object.subscription =
      subscriberShare object.leftSubscription
  kept : ∀ count, object.subscription = some count → object.leftSubscription = some count

/-- All that a killed consumer left was given back, each exactly once, and the
shared counters are those of the other consumers. -/
structure GivenBack [Fintype Consumer] [DecidableEq Consumer]
    (memory : EventControl slots Consumer)
    (objects : Party Consumer → CrashParty slots) (index : Consumer) :
    Prop where
  references : ∀ slot, (objects (.consumer index)).rolledBack slot =
    (objects (.consumer index)).leftReferences slot
  subscription : (objects (.consumer index)).unsubscribed =
    subscriberShare (objects (.consumer index)).leftSubscription
  counted : ∀ slot, memory.stateSlots slot ≠ EventSlotStatus.inWriting →
      (EventSlotStatus.mk (memory.stateSlots slot)).getReferenceCount.toNat =
        ∑ other ∈ Finset.univ.erase index,
          ((objects (.consumer other)).party.references slot).length
  writing : ∀ slot, memory.stateSlots slot = EventSlotStatus.inWriting →
      ∀ other, (objects (.consumer other)).party.references slot = []
  subscribed : (getSubscribersFromState memory.currentSubscriptionState).toNat =
    ∑ other ∈ Finset.univ.erase index, subscriberShare (objects (.consumer other)).subscription
  booked : (getSubscribedSamplesFromState memory.currentSubscriptionState).toNat =
    ∑ other ∈ Finset.univ.erase index, slotShare (objects (.consumer other)).subscription

/-- What holds in every state, and of the rollbacks in it. -/
structure CrashLaw [Fintype Consumer] [DecidableEq Consumer] (mode : CrashMode)
    (config : CrashConfig slots Consumer) : Prop where
  /-- Nothing is given back twice, over any number of rollbacks. -/
  ledger : ∀ index, (config.object (.consumer index)).dead = true →
    Ledger (config.object (.consumer index))
  /-- A rollback refuses with one error only. -/
  refused : ∀ index call error after, Step (crashSystem slots mode) config
        (.finish (.consumer index) call (.rolledBack (.error error))) after →
      error = .couldNotRestartProxy
  /-- A rollback that succeeds leaves nothing behind. -/
  finished : ∀ index call after, Step (crashSystem slots mode) config
        (.finish (.consumer index) call (.rolledBack (.ok ()))) after →
      GivenBack after.memory after.object index
  /-- A rollback, whose program is finite along every path, can always go on to
  its end, unless it lost as many updates of the subscription counters as are
  tried. -/
  continues : ∀ index rest,
    config.activity (.consumer index) = .running .rollbackProxyElementLog rest →
      (∃ reply, rest = .done reply) ∨ (∃ op answer after, Step (crashSystem slots mode) config
          (.perform (.consumer index) op answer) after) ∨
        ((∃ next, rest = .step .terminate next) ∧ (config.object (.consumer index)).attempts =
            3 * mode.limits.maxSubscribers.toNat)

/-! ## The contract -/

/-- The rules of a party. -/
def crashPartyRules (mode : CrashMode) : Party Consumer →
    Rules (ControlOp slots Consumer) ControlOp.Ret (CrashView slots)
  | .sender =>
      { may := fun view op => senderRules.may view.now.party op
        expects := fun view op answer =>
          senderRules.expects view.now.party op answer
        next := fun view op answer =>
          { view with
            now := { view.now with
              party := view.now.party.observeSender op answer } } }
  | .consumer index => crashRules mode index

def crashView (config : CrashConfig slots Consumer) : Party Consumer → CrashView slots
  | .sender => (config.object .sender).view .empty
  | .consumer index =>
      (config.object (.consumer index)).view (config.memory.log index)

/-- A living consumer between two calls. -/
structure Rested (view : CrashView slots) : Prop where
  settled : ∀ count, view.subscription = some count → view.now.Settled
  unsubscribed : view.subscription = none → view.now.log.subscribeTransactions = .empty

/-- What a call of a consumer guarantees. -/
def crashPost (view : CrashView slots) : CrashReply slots → Prop
  | .rolledBack result => view.dead = true ∧ RollbackPost result view
  | _ => Rested view

/-- What holds in every state. -/
structure CrashInv [Fintype Consumer] (mode : CrashMode)
    (config : CrashConfig slots Consumer) : Prop where
  own : SlotOwnership config.memory.stateSlots
    (CrashParty.party ∘ config.object)
  consistent : ∀ index, (crashView config (.consumer index)).Consistent
  accounted : Accounted mode.limits config.memory.currentSubscriptionState
    config.object
  ledger : ∀ index, (config.object (.consumer index)).dead = true →
    Ledger (config.object (.consumer index))
  rested : ∀ index, config.activity (.consumer index) = .idle →
    (config.object (.consumer index)).dead = false → Rested (crashView config (.consumer index))
  rollingBack : ∀ index rest, config.activity (.consumer index) =
    .running .rollbackProxyElementLog rest → (config.object (.consumer index)).dead = true

def crashContract (slots : Nat) [Fintype Consumer] [DecidableEq Consumer]
    (mode : CrashMode) :
    Contract (crashSystem slots mode : System (Party Consumer) _ _ _ _ _ _)
      (CrashView slots) where
  Inv := CrashInv mode
  view := crashView
  rules := crashPartyRules mode
  post party _ reply view :=
    match party with
    | .sender => True
    | .consumer _ => crashPost view reply

/-! ## What the rules say about one operation -/

section Rules

variable {mode : CrashMode} {index : Consumer} {view : CrashView slots}
  {op : ControlOp slots Consumer} {answer : op.Ret}

/-- Whoever keeps these rules keeps those of the slots. -/
theorem consumer_of_crashRules (may : (crashRules mode index).may view op) :
    (consumerRules index).may view.now.party op := by
  cases op with
  | load slot | loadSubscription | check kind condition => trivial
  | isActive log | getFlag log entry flag | getMaxSampleCount log => exact may
  | setFlag log entry flag value => exact may.1
  | setMaxSampleCount log count => exact may.1
  | compareExchangeWeak slot expected desired => exact may.2.1
  | fetchSub slot => exact may.1
  | compareExchangeSubscription expected desired => trivial
  | terminate => trivial
  | _ => exact may.elim

/-- The rules keep the log, the references and the subscription in step. -/
theorem consistent_of_crashRules (may : (crashRules mode index).may view op)
    (consistent : view.Consistent) : (view.observe op answer).Consistent := by
  cases op with
  | setFlag log entry flag value => exact may.2
  | setMaxSampleCount log count => exact may.2
  | compareExchangeWeak slot expected desired =>
      cases answer with
      | true => exact may.2.2
      | false => exact consistent
  | fetchSub slot => exact may.2
  | compareExchangeSubscription expected desired =>
      cases answer with
      | true => exact may.1
      | false =>
          exact ⟨consistent.log, consistent.subscribed, consistent.unsubscribed, consistent.small⟩
  | load slot | loadSubscription | check kind condition | isActive log
  | getFlag log entry flag | getMaxSampleCount log => exact consistent
  | terminate => exact answer.elim
  | _ => exact may.elim

/-- Only a compare-exchange on the subscription counters changes them, or a
consumer's part of them. -/
theorem subscription_of_other [DecidableEq Consumer] {ampChecked : Bool}
    {control after : EventControl slots Consumer}
    (outcome : (answer, after) ∈ op.outcomes ampChecked control)
    (other : ∀ expected desired, op ≠ .compareExchangeSubscription expected desired)
    (subscription : Option (BitVec 16)) (requested : BitVec 16) :
    after.currentSubscriptionState = control.currentSubscriptionState ∧
      CrashView.observeSubscription subscription requested op answer = subscription := by
  cases op with
  | compareExchangeSubscription expected desired =>
      exact absurd rfl (other expected desired)
  | compareExchangeWeak slot expected desired =>
      rcases ControlOp.compareExchangeWeak_outcome outcome with won | failed
      · obtain ⟨_, _, rfl⟩ := won
        exact ⟨rfl, rfl⟩
      · obtain ⟨_, rfl⟩ := failed
        exact ⟨rfl, rfl⟩
  | compareExchangeStrong slot expected desired =>
      simp only [ControlOp.outcomes] at outcome
      split at outcome
      · cases List.mem_singleton.mp outcome
        exact ⟨rfl, rfl⟩
      · cases List.mem_singleton.mp outcome
        exact ⟨rfl, rfl⟩
  | check kind condition =>
      obtain ⟨rfl, _⟩ := ControlOp.check_outcome outcome
      exact ⟨rfl, rfl⟩
  | terminate => cases outcome
  | _ =>
      cases List.mem_singleton.mp outcome
      exact ⟨rfl, rfl⟩

/-- What was given back and what is left add up as before. -/
theorem Ledger.observeConsumer {object : CrashParty slots}
    {log : TransactionLog slots} (ledger : Ledger object) (dead : object.dead = true)
    (may : (crashRules mode index).may (object.view log) op) :
    Ledger (object.observeConsumer op answer) := by
  cases op with
  | compareExchangeWeak slot expected desired =>
      have alive : object.dead = false := may.1
      rw [dead] at alive
      cases alive
  | fetchSub slot =>
      have held : object.party.references slot ≠ [] := may.1
      refine ⟨fun other => ?_, ledger.single, ledger.subscription, ledger.kept⟩
      have total := ledger.references other
      simp only [CrashParty.observeConsumer, CrashParty.countRolledBack, dead,
        if_true, SlotParty.observeConsumer, SlotParty.giveBack]
      by_cases same : other = slot
      · subst same
        have positive := List.length_pos_of_ne_nil held
        rw [update_self, update_self, List.length_tail]
        omega
      · rw [update_of_ne same, update_of_ne same]
        exact total
  | compareExchangeSubscription expected desired =>
      cases answer with
      | false =>
          exact ⟨ledger.references, ledger.single, ledger.subscription, ledger.kept⟩
      | true =>
          obtain ⟨_, moved⟩ := may
          have total := ledger.subscription
          cases counted : object.subscription with
          | none =>
              simp only [CrashParty.view, counted] at moved
              rw [dead] at moved
              cases moved.1
          | some count =>
              refine ⟨ledger.references, ledger.single, ?_, ?_⟩
              · rw [counted] at total
                simp only [CrashParty.observeConsumer, dead, if_true,
                  CrashView.observeSubscription, counted, CrashParty.countUnsubscribed]
                exact total
              · intro other impossible
                simp [CrashParty.observeConsumer, counted,
                  CrashView.observeSubscription] at impossible
  | load slot | loadSubscription | check kind condition | isActive log
  | getFlag log entry flag | getMaxSampleCount log | setFlag log entry flag value
  | setMaxSampleCount log count => exact ledger
  | terminate => exact answer.elim
  | _ => exact may.elim

/-- The answers are those the rules expect. -/
theorem crashRules_expected [DecidableEq Consumer] {control after : EventControl slots Consumer}
    (may : (crashRules mode index).may view op)
    (outcome : (answer, after) ∈ op.outcomes mode.ampChecked control)
    (sameLog : control.log index = view.now.log)
    (stamped : ∀ slot, ∀ timeStamp ∈ view.now.party.references slot,
      (EventSlotStatus.mk (control.stateSlots slot)).getTimeStamp = timeStamp)
    (counted : ∀ count, view.subscription = some count →
      getSubscribersFromState control.currentSubscriptionState ≠ 0 ∧
        count ≤ getSubscribedSamplesFromState control.currentSubscriptionState) :
    (crashRules mode index).expects view op answer := by
  cases op with
  | load slot =>
      cases List.mem_singleton.mp outcome
      exact stamped slot
  | check kind condition =>
      obtain ⟨_, passed⟩ := ControlOp.check_outcome outcome
      intro checked
      rcases passed with holds | unchecked
      · exact holds
      · rw [unchecked.2] at checked
        cases checked
  | getFlag log entry flag =>
      have same : log = index := may
      subst same
      cases List.mem_singleton.mp outcome
      exact congrArg (fun current => (current.entry entry).get flag) sameLog
  | getMaxSampleCount log =>
      have same : log = index := may
      subst same
      cases List.mem_singleton.mp outcome
      exact congrArg TransactionLog.subscriptionMaxSampleCount sameLog
  | loadSubscription =>
      cases List.mem_singleton.mp outcome
      exact counted
  | _ => trivial

end Rules

/-! ## Every call keeps the rules -/

section Calls

variable {mode : CrashMode} {index : Consumer} {view : CrashView slots}
  {attempts : Nat} {count : BitVec 16}

/-- No operation of a consumer revives it. -/
theorem respects_dead {α : Type} {program : ControlProgram slots Consumer α}
    {post : α → CrashView slots → Prop}
    (respected : program.Respects (crashRules mode index) view post) :
    program.Respects (crashRules mode index) view fun result after =>
      post result after ∧ after.dead = view.dead := by
  refine Program.Respects.transfer _ id (fun after => after.dead = view.dead) ?_ ?_ rfl respected
  · intro current op _ may
    exact may
  · intro current op answer kept may expects
    exact ⟨expects, rfl, kept⟩

/-- A quiet consumer that has just subscribed is at rest. -/
theorem CrashView.Quiet.rested_subscribed (quiet : view.Quiet)
    {maxSampleCount : Option (BitVec 16)} :
    Rested (view.subscribing .recorded maxSampleCount (some count) attempts) where
  settled := by
    intro other _
    exact ⟨fun slot => .inl (quiet slot), rfl⟩
  unsubscribed := by
    intro impossible
    cases impossible

/-- So is one without a subscription. -/
theorem rested_unsubscribed {maxSampleCount : Option (BitVec 16)} :
    Rested (view.subscribing .empty maxSampleCount none attempts) where
  settled := by
    intro other impossible
    cases impossible
  unsubscribed := fun _ => rfl

/-- A call on the slots. -/
theorem slotCall_respects {call : SlotCall slots} (consistent : view.Consistent)
    (rested : Rested view) (alive : view.dead = false) (counted : view.subscription = some count)
    (undoubled : call.undoubled mode.ampChecked view.now.party = true) :
    (call.code (.consumer index)).Respects (crashRules mode index) view
      fun _ after => Rested after := by
  have settles : (call.code (.consumer index)).Respects
      (logRules (mode.logMode view.dead) index) view.now
      fun _ after => after.Settled :=
    SlotCall.code_settled (rested.settled count counted) alive rfl undoubled
  refine (crash_respects consistent settles).mono ?_
  rintro _ after ⟨settled, same⟩
  refine ⟨fun _ _ => settled, fun uncounted => ?_⟩
  rw [same.subscription, counted] at uncounted
  cases uncounted

/-- A call of a consumer that the system allows. -/
theorem consumerCall_respects {object : CrashParty slots} {call : CrashCall slots}
    {log : TransactionLog slots}
    (allowed : CrashCall.allowed mode.ampChecked object (.consumer index) call = true)
    (consistent : ((object.calling call).view log).Consistent)
    (rested : object.dead = false → Rested ((object.calling call).view log)) :
    (CrashCall.code mode.limits object (.consumer index) call).Respects
      (crashRules mode index) ((object.calling call).view log)
      fun reply after => crashPost after reply := by
  cases call with
  | onSlots call =>
      simp only [CrashCall.allowed, Bool.and_eq_true, Bool.not_eq_true'] at allowed
      obtain ⟨⟨alive, subscribed⟩, undoubled⟩ := allowed
      obtain ⟨count, counted⟩ := Option.isSome_iff_exists.mp subscribed
      exact (slotCall_respects consistent (rested alive) alive counted
        undoubled).bind fun _ _ settled => settled
  | subscribeEvent maxSampleCount =>
      simp only [CrashCall.allowed, Bool.and_eq_true, Bool.not_eq_true',
        decide_eq_true_eq, Option.isNone_iff_eq_none] at allowed
      obtain ⟨⟨alive, uncounted⟩, small⟩ := allowed
      have unsubscribed := (rested alive).unsubscribed uncounted
      refine (subscribeEvent_respects consistent alive small unsubscribed).bind ?_
      rintro result after ⟨attempts, moved⟩
      cases result with
      | ok _ =>
          dsimp only at moved
          subst moved
          exact (consistent.quiet unsubscribed).rested_subscribed
      | error error =>
          dsimp only at moved
          subst moved
          exact rested_unsubscribed
  | unsubscribeEvent =>
      simp only [CrashCall.allowed, Bool.and_eq_true, Bool.not_eq_true',
        decide_eq_true_eq] at allowed
      obtain ⟨⟨alive, subscribed⟩, nothing⟩ := allowed
      obtain ⟨count, counted⟩ := Option.isSome_iff_exists.mp subscribed
      have settled := (rested alive).settled count counted
      have quiet : ((object.calling (.unsubscribeEvent)).view log).Quiet :=
        fun slot => ⟨settled.flags_of_unused (nothing slot), nothing slot⟩
      simp only [CrashCall.code, counted]
      refine (onEntry_respects consistent quiet alive settled.subscribed counted).bind ?_
      rintro _ after ⟨attempts, rfl⟩
      exact rested_unsubscribed
  | rollbackProxyElementLog =>
      have rollsBack : (TransactionLog.rollbackProxyElementLog index
          dereferenceEventWithoutTransactionLogging
          mode.limits.unsubscribe).Respects (crashRules mode index)
            ((object.calling .rollbackProxyElementLog).view log) RollbackPost :=
        rollbackProxyElementLog_respects consistent rfl
      refine (respects_dead rollsBack).bind ?_
      rintro result after ⟨post, dead⟩
      exact ⟨dead.trans allowed, post⟩

/-- A call of the sender. -/
theorem crashSenderCall_respects {object : CrashParty slots} {call : CrashCall slots}
    (allowed : CrashCall.allowed mode.ampChecked object (.sender : Party Consumer) call = true)
    (sameParty : view.now.party = object.party) :
    (CrashCall.code mode.limits object (.sender : Party Consumer) call).Respects
      (crashPartyRules mode .sender) view fun _ _ => True := by
  cases call with
  | onSlots slotCall =>
      have slotAllowed : slotCall.allowed (.sender : Party Consumer)
          view.now.party = true := by
        rw [sameParty]
        exact allowed
      have respected := SlotCall.code_respects slotAllowed
      refine Program.Respects.bind
        (Program.Respects.transfer _ (fun after => after.now.party)
          (fun _ => True) ?_ ?_ trivial respected) fun _ _ _ => trivial
      · intro current op _ may
        exact may
      · intro current op answer _ may expects
        exact ⟨expects, rfl, trivial⟩
  | _ => cases allowed

end Calls

/-! ## The subscription counters -/

section Counters

variable [Fintype Consumer] {objects : Party Consumer → CrashParty slots}
  {index : Consumer}

/-- A subscriber books at most as many slots as a proxy may ask for. -/
theorem bookedSlots_le (small : ∀ index count,
      (objects (.consumer index)).subscription = some count → count.toNat ≤ 255) :
    bookedSlots objects ≤ 255 * subscribers objects := by
  rw [bookedSlots, subscribers, consumerTotal, consumerTotal, Finset.mul_sum]
  apply Finset.sum_le_sum
  intro index _
  cases counted : (objects (.consumer index)).subscription with
  | none => exact Nat.zero_le _
  | some count => exact small index count counted

/-- A subscribed consumer is counted. -/
theorem subscribed_counted {count : BitVec 16}
    (counted : (objects (.consumer index)).subscription = some count) :
    0 < subscribers objects ∧ count.toNat ≤ bookedSlots objects := by
  have one := le_consumerTotal
    (fun object : CrashParty slots => subscriberShare object.subscription)
    objects index
  have all := le_consumerTotal
    (fun object : CrashParty slots => slotShare object.subscription)
    objects index
  simp only [counted, subscriberShare, slotShare] at one all
  exact ⟨one, all⟩

variable [DecidableEq Consumer] {object : CrashParty slots}

theorem subscribers_update : subscribers (update objects (.consumer index) object) +
        subscriberShare (objects (.consumer index)).subscription =
      subscribers objects + subscriberShare object.subscription :=
  consumerTotal_update_consumer
    (fun object : CrashParty slots => subscriberShare object.subscription)
    objects index object

theorem bookedSlots_update : bookedSlots (update objects (.consumer index) object) +
        slotShare (objects (.consumer index)).subscription =
      bookedSlots objects + slotShare object.subscription :=
  consumerTotal_update_consumer
    (fun object : CrashParty slots => slotShare object.subscription)
    objects index object

/-- What does not change a subscription leaves the totals alone. -/
theorem totals_update_of_same {party : Party Consumer}
    (same : object.subscription = (objects party).subscription) :
    subscribers (update objects party object) = subscribers objects ∧
      bookedSlots (update objects party object) = bookedSlots objects := by
  cases party with
  | sender =>
      exact ⟨consumerTotal_update_sender _ object, consumerTotal_update_sender _ object⟩
  | consumer index =>
      have one : subscribers (update objects (.consumer index) object) + _ = _ := subscribers_update
      have all : bookedSlots (update objects (.consumer index) object) + _ = _ := bookedSlots_update
      rw [same] at one all
      exact ⟨Nat.add_right_cancel one, Nat.add_right_cancel all⟩

variable {limits : EventSubscriptionControl} {word : BitVec 32}
  {count : BitVec 16}

/-- The totals after a consumer has subscribed. -/
theorem Accounted.subscribed (accounted : Accounted limits word objects) (small : ∀ index count,
      (objects (.consumer index)).subscription = some count → count.toNat ≤ 255)
    (before : (objects (.consumer index)).subscription = none)
    (now : object.subscription = some count) (smallCount : count.toNat ≤ 255)
    (below : getSubscribersFromState word < limits.maxSubscribers) :
    Accounted limits
      (createState (getSubscribersFromState word + 1) (getSubscribedSamplesFromState word + count))
      (update objects (.consumer index) object) := by
  have one : subscribers (update objects (.consumer index) object) + _ = _ := subscribers_update
  have all : bookedSlots (update objects (.consumer index) object) + _ = _ := bookedSlots_update
  simp only [before, now, subscriberShare, slotShare, Nat.add_zero] at one all
  rw [BitVec.lt_def, accounted.counts.toNat_subscribers] at below
  have limit := limits.maxSubscribers.isLt
  have booked := bookedSlots_le small
  constructor
  · rw [one, all]
    exact accounted.counts.subscribed (by omega) (by omega)
  · rw [one]
    exact below

/-- The totals after a subscription was given back. -/
theorem Accounted.unsubscribed (accounted : Accounted limits word objects)
    (before : (objects (.consumer index)).subscription = some count)
    (now : object.subscription = none) :
    Accounted limits
      (createState (getSubscribersFromState word - 1) (getSubscribedSamplesFromState word - count))
      (update objects (.consumer index) object) := by
  have one : subscribers (update objects (.consumer index) object) + _ = _ := subscribers_update
  have all : bookedSlots (update objects (.consumer index) object) + _ = _ := bookedSlots_update
  simp only [before, now, subscriberShare, slotShare, Nat.add_zero] at one all
  obtain ⟨someone, enough⟩ := subscribed_counted before
  have oneLess : subscribers (update objects (.consumer index) object) =
      subscribers objects - 1 := by omega
  have less : bookedSlots (update objects (.consumer index) object) =
      bookedSlots objects - count.toNat := by omega
  constructor
  · rw [oneLess, less]
    exact accounted.counts.unsubscribed someone enough
  · rw [oneLess]
    exact Nat.le_trans (Nat.sub_le _ _) accounted.within

/-- What changes no subscription leaves the totals alone. -/
theorem Accounted.unchanged {party : Party Consumer} (accounted : Accounted limits word objects)
    (same : object.subscription = (objects party).subscription) :
    Accounted limits word (update objects party object) := by
  obtain ⟨one, all⟩ := totals_update_of_same same
  constructor
  · rw [one, all]
    exact accounted.counts
  · rw [one]
    exact accounted.within

variable {mode : CrashMode} {control after : EventControl slots Consumer}
  {log : TransactionLog slots} {op : ControlOp slots Consumer} {answer : op.Ret}

/-- The counters stay the totals over all consumers. -/
theorem Accounted.observe
    (accounted : Accounted mode.limits control.currentSubscriptionState objects)
    (small : ∀ index count, (objects (.consumer index)).subscription = some count →
        count.toNat ≤ 255)
    (may : (crashRules mode index).may ((objects (.consumer index)).view log) op)
    (outcome : (answer, after) ∈ op.outcomes mode.ampChecked control) :
    Accounted mode.limits after.currentSubscriptionState
      (update objects (.consumer index)
        ((objects (.consumer index)).observeConsumer op answer)) := by
  cases op with
  | compareExchangeSubscription expected desired =>
      rcases ControlOp.compareExchangeSubscription_outcome outcome with
        won | failed
      · obtain ⟨rfl, rfl, rfl⟩ := won
        obtain ⟨consistent, moved⟩ := may
        cases before : (objects (.consumer index)).subscription with
        | none =>
            simp only [CrashParty.view, before] at moved
            obtain ⟨_, below, rfl⟩ := moved
            have now := CrashParty.subscription_won_of_none Consumer before 0 0
            exact accounted.subscribed small before now (consistent.small _ now) below
        | some count =>
            simp only [CrashParty.view, before] at moved
            subst moved
            have now := CrashParty.subscription_won_of_some Consumer before 0 0
            exact accounted.unsubscribed before now
      · obtain ⟨rfl, rfl⟩ := failed
        exact accounted.unchanged rfl
  | _ =>
      obtain ⟨sameWord, same⟩ := subscription_of_other outcome (by simp)
        (objects (.consumer index)).subscription
        (objects (.consumer index)).requested
      rw [sameWord]
      exact accounted.unchanged same

end Counters

/-! ## Every kind of step -/

section Steps

variable {mode : CrashMode} {config : CrashConfig slots Consumer}
  {party : Party Consumer}

variable {op : ControlOp slots Consumer}

/-- The rules of a party are those of its slots. -/
theorem slotRules_of_crashPartyRules
    (may : (crashPartyRules mode party).may (crashView config party) op) :
    (slotRules party).may (config.object party).party op := by
  cases party with
  | sender => exact may
  | consumer index => exact consumer_of_crashRules may

variable [DecidableEq Consumer]

variable {memory : EventControl slots Consumer} {object : CrashParty slots}

/-- Nobody's view changes but that of the party that moves. -/
theorem crashView_of_ne {other : Party Consumer}
    {activity : Activity (ControlOp slots Consumer) ControlOp.Ret
      (CrashCall slots) (CrashReply slots)}
    (distinct : other ≠ party) (sameLog : ∀ index, other = .consumer index →
      memory.log index = config.memory.log index) :
    crashView (config.update memory party object activity) other = crashView config other := by
  cases other with
  | sender => simp only [crashView, Config.update_object_of_ne distinct]
  | consumer index =>
      simp only [crashView, Config.update_object_of_ne distinct,
        Config.update_memory, sameLog index rfl]

/-- An operation moves the view of its party as the rules say. -/
theorem crashView_perform {answer : op.Ret}
    {activity : Activity (ControlOp slots Consumer) ControlOp.Ret
      (CrashCall slots) (CrashReply slots)}
    (may : (slotRules party).may (config.object party).party op)
    (outcome : (answer, memory) ∈ op.outcomes mode.ampChecked config.memory) :
    crashView
        (config.update memory party
          ((config.object party).observe party op answer) activity) party =
      (crashPartyRules mode party).next (crashView config party) op answer := by
  cases party with
  | sender =>
      simp only [crashView, Config.update_object_self]
      rfl
  | consumer index =>
      have moved := log_of_own outcome (writes_of_consumerRules may)
      simp only [crashView, Config.update_object_self, Config.update_memory, moved]
      rfl

/-- The slot records after one party has moved. -/
theorem parties_update (objects : Party Consumer → CrashParty slots) (object : CrashParty slots) :
    CrashParty.party ∘ update objects party object =
      update (CrashParty.party ∘ objects) party object.party :=
  comp_update _ _ _ _

variable [Fintype Consumer]

section

variable (inv : CrashInv mode config)

include inv

omit [DecidableEq Consumer] in
/-- No consumer holds two references to a slot, so that there are at most as
many as there are consumers. -/
theorem CrashInv.few (fits : Fintype.card Consumer < 2 ^ 32 - 1) (slot : Fin slots) :
    outstanding (CrashParty.party ∘ config.object) slot < 2 ^ 32 - 1 := by
  have bound : outstanding (CrashParty.party ∘ config.object) slot ≤ Finset.univ.card • 1 :=
    Finset.sum_le_card_nsmul _ _ _ fun index _ =>
      (inv.consistent index).log.length_le_one slot
  rw [smul_eq_mul, mul_one, Finset.card_univ] at bound
  omega

omit [DecidableEq Consumer] in
/-- No subscription is larger than a proxy may ask for. -/
theorem CrashInv.small (index : Consumer) (count : BitVec 16)
    (counted : (config.object (.consumer index)).subscription = some count) :
    count.toNat ≤ 255 :=
  (inv.consistent index).small count counted

/-- What does not touch the slots keeps their ownership. -/
theorem CrashInv.own_of_same (same : object.party = (config.object party).party) :
    SlotOwnership config.memory.stateSlots
      (update (CrashParty.party ∘ config.object) party object.party) := by
  have unchanged : update (CrashParty.party ∘ config.object) party
      (config.object party).party = CrashParty.party ∘ config.object :=
    update_eq_self party (CrashParty.party ∘ config.object)
  rw [same, unchanged]
  exact inv.own

/-- The invariant after the move of one party, from what it says about that
party and the shared memory. -/
theorem CrashInv.moved {activity : Activity (ControlOp slots Consumer) ControlOp.Ret
      (CrashCall slots) (CrashReply slots)}
    (own : SlotOwnership memory.stateSlots
      (update (CrashParty.party ∘ config.object) party object.party))
    (accounted : Accounted mode.limits memory.currentSubscriptionState
      (update config.object party object))
    (elsewhere : ∀ index, Party.consumer index ≠ party → memory.log index = config.memory.log index)
    (consistent : ∀ index, party = .consumer index → (object.view (memory.log index)).Consistent)
    (ledger : ∀ index, party = .consumer index → object.dead = true → Ledger object)
    (rested : ∀ index, party = .consumer index → activity = .idle →
      object.dead = false → Rested (object.view (memory.log index)))
    (rollingBack : ∀ index rest, party = .consumer index →
      activity = .running .rollbackProxyElementLog rest → object.dead = true) :
    CrashInv mode (config.update memory party object activity) where
  own := by
    rw [Config.update_object, parties_update]
    exact own
  consistent := by
    intro index
    by_cases self : Party.consumer index = party
    · subst self
      simpa [crashView] using consistent index rfl
    · rw [crashView_of_ne self]
      · exact inv.consistent index
      · intro other same
        cases same
        exact elsewhere index self
  accounted := accounted
  ledger := by
    intro index
    by_cases self : Party.consumer index = party
    · subst self
      rw [Config.update_object_self]
      exact ledger index rfl
    · rw [Config.update_object_of_ne self]
      exact inv.ledger index
  rested := by
    intro index
    by_cases self : Party.consumer index = party
    · subst self
      simpa [crashView] using rested index rfl
    · rw [Config.update_activity_of_ne self, Config.update_object_of_ne self, crashView_of_ne self]
      · exact inv.rested index
      · intro other same
        cases same
        exact elsewhere index self
  rollingBack := by
    intro index rest
    by_cases self : Party.consumer index = party
    · subst self
      simpa using rollingBack index rest rfl
    · rw [Config.update_activity_of_ne self, Config.update_object_of_ne self]
      exact inv.rollingBack index rest

/-- An operation keeps the invariant. -/
theorem CrashInv.perform (fits : Fintype.card Consumer < 2 ^ 32 - 1) {call : CrashCall slots}
    {answer : op.Ret} {next : op.Ret → ControlProgram slots Consumer (CrashReply slots)}
    (running : config.activity party = .running call (.step op next))
    (may : (crashPartyRules mode party).may (crashView config party) op)
    (outcome : (answer, memory) ∈ op.outcomes mode.ampChecked config.memory) :
    CrashInv mode
      (config.update memory party ((config.object party).observe party op answer)
        (.running call (next answer))) := by
  have slotMay := slotRules_of_crashPartyRules may
  have own : SlotOwnership memory.stateSlots
      (update (CrashParty.party ∘ config.object) party
        ((config.object party).party.observe party op answer)) :=
    inv.own.perform (inv.few fits) slotMay outcome
  have elsewhere : ∀ index, Party.consumer index ≠ party →
      memory.log index = config.memory.log index :=
    fun index distinct =>
      log_of_other outcome (writes_of_slotRules slotMay (Ne.symm distinct))
  cases party with
  | sender =>
      have other : ∀ expected desired, op ≠ .compareExchangeSubscription expected desired := by
        intro expected desired same
        subst same
        exact slotMay.elim
      refine inv.moved own ?_ elsewhere ?_ ?_ ?_ ?_
      · rw [(subscription_of_other outcome other none 0).1]
        exact inv.accounted.unchanged rfl
      · intro index impossible
        cases impossible
      · intro index impossible
        cases impossible
      · intro index impossible
        cases impossible
      · intro index rest impossible
        cases impossible
  | consumer index =>
      have moved := log_of_own outcome (writes_of_consumerRules slotMay)
      refine inv.moved own ?_ elsewhere ?_ ?_ ?_ ?_
      · exact inv.accounted.observe inv.small may outcome
      · intro own same
        cases same
        rw [moved]
        exact consistent_of_crashRules may (inv.consistent index)
      · intro own same dead
        exact (inv.ledger index dead).observeConsumer dead may
      · intro own same impossible
        cases impossible
      · intro own rest same rolling
        cases same
        cases rolling
        exact inv.rollingBack index _ running

/-- A call keeps the invariant. -/
theorem CrashInv.call {call : CrashCall slots}
    {rest : ControlProgram slots Consumer (CrashReply slots)}
    (allowed : CrashCall.allowed mode.ampChecked (config.object party) party call = true) :
    CrashInv mode
      (config.update config.memory party ((config.object party).calling call)
        (.running call rest)) := by
  have sameParty : ((config.object party).calling call).party =
      (config.object party).party := by cases call <;> rfl
  have sameSubscription : ((config.object party).calling call).subscription =
      (config.object party).subscription := by cases call <;> rfl
  have sameDead : ((config.object party).calling call).dead =
      (config.object party).dead := by cases call <;> rfl
  refine inv.moved (inv.own_of_same sameParty)
    (inv.accounted.unchanged sameSubscription) (fun _ _ => rfl) ?_ ?_ ?_ ?_
  · intro index same
    subst same
    have consistent := inv.consistent index
    cases call with
    | _ => exact ⟨consistent.log, consistent.subscribed, consistent.unsubscribed, consistent.small⟩
  · intro index same dead
    subst same
    rw [sameDead] at dead
    have ledger := inv.ledger index dead
    cases call with
    | _ => exact ⟨ledger.references, ledger.single, ledger.subscription, ledger.kept⟩
  · intro index same impossible
    cases impossible
  · intro index rest same rolling
    subst same
    cases rolling
    exact allowed

/-- A party comes to rest. -/
theorem CrashInv.idle (rested : ∀ index, party = .consumer index →
      (config.object (.consumer index)).dead = false →
        Rested (crashView config (.consumer index))) :
    CrashInv mode
      (config.update config.memory party (config.object party) .idle) := by
  refine inv.moved (inv.own_of_same rfl) (inv.accounted.unchanged rfl) (fun _ _ => rfl) ?_ ?_ ?_ ?_
  · intro index same
    subst same
    exact inv.consistent index
  · intro index same
    subst same
    exact inv.ledger index
  · intro index same _
    subst same
    exact rested index rfl
  · intro index rest same impossible
    cases impossible

/-- A return keeps the invariant. -/
theorem CrashInv.finish {reply : CrashReply slots} (post : ∀ index, party = .consumer index →
      crashPost (crashView config (.consumer index)) reply) :
    CrashInv mode
      (config.update config.memory party (config.object party) .idle) := by
  apply inv.idle
  intro index same alive
  have guaranteed := post index same
  cases reply with
  | rolledBack result =>
      have dead : (config.object (.consumer index)).dead = true := guaranteed.1
      rw [alive] at dead
      cases dead
  | _ => exact guaranteed

/-- A kill keeps the invariant: what is left is still to be given back. -/
theorem CrashInv.crash (killed : (config.object party).killed party = some object) :
    CrashInv mode (config.update config.memory party object .idle) := by
  cases party with
  | sender => cases killed
  | consumer index =>
      have consistent := inv.consistent index
      simp only [CrashParty.killed] at killed
      split at killed
      · rename_i dead
        cases killed
        apply inv.idle
        intro own same alive
        cases same
        rw [dead] at alive
        cases alive
      · cases killed
        refine inv.moved (inv.own_of_same rfl) (inv.accounted.unchanged rfl)
          (fun _ _ => rfl) ?_ ?_ ?_ ?_
        · intro own same
          cases same
          exact ⟨consistent.log, consistent.subscribed, consistent.unsubscribed, consistent.small⟩
        · intro own same _
          exact ⟨fun slot => Nat.zero_add _, consistent.log.length_le_one,
            Nat.zero_add _, fun count counted => counted⟩
        · intro own same _ impossible
          cases impossible
        · intro own rest same impossible
          cases impossible

omit [DecidableEq Consumer] in
/-- A subscribed consumer finds its part in the counters. -/
theorem CrashInv.counted {index : Consumer} (count : BitVec 16)
    (counted : (config.object (.consumer index)).subscription = some count) :
    getSubscribersFromState config.memory.currentSubscriptionState ≠ 0 ∧ count ≤
        getSubscribedSamplesFromState config.memory.currentSubscriptionState := by
  obtain ⟨someone, enough⟩ := subscribed_counted counted
  have counts := inv.accounted.counts
  constructor
  · intro nobody
    have zero := congrArg BitVec.toNat nobody
    rw [counts.toNat_subscribers] at zero
    rw [zero] at someone
    exact absurd someone (by decide)
  · rw [BitVec.le_def, counts.toNat_slotSum]
    exact enough

end

/-- The obligations of the contract, for any run of fewer consumers than the
reference count can tell from a slot in writing. -/
theorem crashContract_obligations (fits : Fintype.card Consumer < 2 ^ 32 - 1) :
    (crashContract slots mode : Contract (crashSystem slots mode :
      System (Party Consumer) _ _ _ _ _ _) _).Obligations fun _ _ => True where
  call := by
    intro config party call inv _ idle allowed after moved
    subst moved
    refine ⟨inv.call allowed, ?_, ?_⟩
    · intro other distinct
      exact crashView_of_ne distinct fun _ _ => rfl
    · cases party with
      | sender =>
          refine crashSenderCall_respects allowed ?_
          simp only [crashContract, crashView, crashSystem, Config.update_object_self]
          cases call <;> rfl
      | consumer index =>
          have consistent := inv.consistent index
          have rested := inv.rested index idle
          have sameView : (crashContract slots mode).view
              (config.update config.memory (.consumer index)
                ((config.object (.consumer index)).calling call)
                (.running call (CrashCall.code mode.limits
                  (config.object (.consumer index)) (.consumer index) call)))
              (.consumer index) =
              ((config.object (.consumer index)).calling call).view
                (config.memory.log index) := by
            simp [crashContract, crashView]
          refine Eq.subst (motive := fun view =>
            (CrashCall.code mode.limits (config.object (.consumer index))
              (.consumer index) call).Respects
                (crashRules mode index) view _) sameView.symm ?_
          apply consumerCall_respects allowed
          · cases call <;> exact ⟨consistent.log, consistent.subscribed,
              consistent.unsubscribed, consistent.small⟩
          · intro alive
            have rests := rested alive
            cases call <;> exact ⟨rests.settled, rests.unsubscribed⟩
  perform := by
    intro config party call op next answer memory inv _ running may outcome after moved
    subst moved
    have slotMay := slotRules_of_crashPartyRules may
    refine ⟨inv.perform fits running may outcome, ?_, ?_, ?_⟩
    · intro other distinct
      refine crashView_of_ne distinct fun index self => ?_
      subst self
      exact log_of_other outcome (writes_of_slotRules slotMay (Ne.symm distinct))
    · cases party with
      | sender =>
          have expected : (slotRules (.sender : Party Consumer)).expects
              ((CrashParty.party ∘ config.object) .sender) op answer :=
            inv.own.expected outcome
          exact expected
      | consumer index =>
          refine crashRules_expected may outcome rfl ?_ inv.counted
          intro slot timeStamp held
          exact (inv.own.stamped index slot timeStamp held).1
    · exact crashView_perform slotMay outcome
  finish := by
    intro config party call reply inv _ _ post after moved
    subst moved
    have guaranteed : ∀ index, party = .consumer index →
        crashPost (crashView config (.consumer index)) reply := by
      intro index self
      subst self
      exact post
    refine ⟨inv.finish guaranteed, ?_⟩
    intro other distinct
    exact crashView_of_ne distinct fun _ _ => rfl
  crash := by
    intro config party object inv _ killed after moved
    subst moved
    refine ⟨inv.crash killed, ?_⟩
    intro other distinct
    exact crashView_of_ne distinct fun _ _ => rfl
  environment := by
    intro config memory _ _ moved
    exact moved.elim

omit [DecidableEq Consumer] in
/-- Nobody has subscribed at the start. -/
theorem crashInv_start : CrashInv mode (crashStart : CrashConfig slots Consumer) := by
  have quiet : ∀ index, (crashView (crashStart : CrashConfig slots Consumer)
      (.consumer index)).Quiet := fun index slot => ⟨rfl, rfl⟩
  have nobody : subscribers (crashStart : CrashConfig slots Consumer).object =
      0 := Finset.sum_eq_zero fun _ _ => rfl
  have nothing : bookedSlots (crashStart : CrashConfig slots Consumer).object =
      0 := Finset.sum_eq_zero fun _ _ => rfl
  constructor
  · exact SlotOwnership.initial
  · intro index
    exact (quiet index).consistent CrashView.Phase.empty
  · constructor
    · rw [nobody, nothing]
      exact ⟨rfl, by decide, by decide⟩
    · rw [nobody]
      exact Nat.zero_le _
  · intro index impossible
    cases impossible
  · intro index _ _
    refine ⟨fun count impossible => ?_, fun _ => rfl⟩
    cases impossible
  · intro index rest impossible
    cases impossible

/-- After a rollback that succeeds nothing of the consumer is left. -/
theorem CrashInv.givenBack (inv : CrashInv mode config) {index : Consumer}
    (dead : (config.object (.consumer index)).dead = true)
    (quiet : (crashView config (.consumer index)).Quiet)
    (unsubscribed : (config.object (.consumer index)).subscription = none) :
    GivenBack config.memory config.object index := by
  have ledger := inv.ledger index dead
  have nothing : ∀ slot, (config.object (.consumer index)).party.references slot = [] :=
    fun slot => (quiet slot).2
  have counts := inv.accounted.counts
  constructor
  · intro slot
    have total := ledger.references slot
    rw [nothing slot] at total
    exact total
  · have total := ledger.subscription
    rw [unsubscribed] at total
    exact total
  · intro slot notInWriting
    rw [inv.own.counted slot notInWriting, outstanding, consumerTotal_eq_add_erase _ _ index]
    simp [nothing slot]
  · intro slot inWriting other
    exact SlotOwnership.references_eq_nil (inv.own.outstanding_of_inWriting inWriting) other
  · rw [counts.toNat_subscribers, subscribers, consumerTotal_eq_add_erase _ _ index]
    simp [unsubscribed, subscriberShare]
  · rw [counts.toNat_slotSum, bookedSlots, consumerTotal_eq_add_erase _ _ index]
    simp [unsubscribed, slotShare]

omit [Fintype Consumer] in
/-- What a dead consumer's rollback may do next can be done, except for the end
after too many lost updates. -/
theorem continues_of_may {index : Consumer} (dead : (config.object (.consumer index)).dead = true)
    (may : (crashRules mode index).may (crashView config (.consumer index)) op) :
    (∃ outcome, outcome ∈ op.outcomes mode.ampChecked config.memory) ∨
      (op = .terminate ∧ (config.object (.consumer index)).attempts =
        3 * mode.limits.maxSubscribers.toNat) := by
  cases op with
  | terminate => exact .inr ⟨rfl, may dead⟩
  | check kind condition =>
      have holds : condition = true := may dead
      subst holds
      exact .inl ⟨((), config.memory), List.mem_singleton.mpr rfl⟩
  | compareExchangeWeak slot expected desired =>
      have alive : (config.object (.consumer index)).dead = false := may.1
      rw [dead] at alive
      cases alive
  | compareExchangeSubscription expected desired =>
      refine .inl ⟨(false, config.memory), ?_⟩
      simp only [ControlOp.outcomes]
      split
      · exact List.mem_cons_of_mem _ (List.mem_singleton.mpr rfl)
      · exact List.mem_singleton.mpr rfl
  | compareExchangeStrong slot expected desired => exact may.elim
  | _ => exact .inl ⟨_, List.mem_singleton.mpr rfl⟩

/-- The law follows from the contract. -/
theorem crashLaw_of_holds
    (holds : (crashContract slots mode).Holds config) : CrashLaw mode config where
  ledger := holds.inv.ledger
  refused := by
    intro index call error after step
    cases step with
    | finish running =>
        exact (holds.running (.consumer index) _ _ running).2
  finished := by
    intro index call after step
    cases step with
    | finish running =>
        obtain ⟨dead, quiet, unsubscribed⟩ := holds.running (.consumer index) _ _ running
        have back := holds.inv.givenBack dead quiet unsubscribed
        have same : update config.object (.consumer index)
            (config.object (.consumer index)) = config.object :=
          update_eq_self _ _
        have unchanged : GivenBack config.memory
            (update config.object (.consumer index) (config.object (.consumer index))) index := by
          rw [same]
          exact back
        exact unchanged
  continues := by
    intro index rest running
    have dead := holds.inv.rollingBack index rest running
    have respects := holds.running (.consumer index) _ _ running
    cases rest with
    | done reply => exact .inl ⟨reply, rfl⟩
    | step op next =>
        right
        rcases continues_of_may dead respects.1 with goes | ends
        · obtain ⟨⟨answer, memory⟩, outcome⟩ := goes
          exact .inl ⟨op, answer, _, .perform running outcome⟩
        · obtain ⟨rfl, lost⟩ := ends
          exact .inr ⟨⟨next, rfl⟩, lost⟩

/-- The law holds in every state of every interleaving. -/
theorem crashLaw_of_reached (fits : Fintype.card Consumer < 2 ^ 32 - 1)
    (reached : Reaches (crashSystem slots mode) (fun _ _ => True) crashStart config) :
    CrashLaw mode config := by
  have initially : (crashContract slots mode).Inv
      (crashStart : CrashConfig slots Consumer) := crashInv_start
  exact crashLaw_of_holds
    (Contract.run (crashContract_obligations fits) initially (fun _ => rfl) reached)

end Steps

section Instances

variable [DecidableEq Consumer] {mode : CrashMode}

instance (party : Party Consumer) (object : CrashParty slots)
    (call : CrashCall slots) :
    Decidable ((crashSystem slots mode).mayCall party object call) :=
  inferInstanceAs (Decidable (_ = true))

instance (before after : EventControl slots Consumer) :
    Decidable ((crashSystem slots mode).environment before after) :=
  inferInstanceAs (Decidable False)

end Instances

/-- An event with room for one subscriber. -/
def oneSubscriber : CrashMode where
  ampChecked := true
  limits := { maxSubscribableSlots := 1, maxSubscribers := 1, enforceMaxSamples := true }

/-- The consumer subscribes, references the published sample, and is killed. -/
def referenceAndDie : List (Choice (Party (Fin 1)) (EventControl 1 (Fin 1)) (CrashCall 1)) :=
  List.flatten
    [[.call .sender (.onSlots .allocateNextSlot)], List.replicate 3 (.perform .sender 0),
     [.finish .sender, .call .sender (.onSlots (.eventReady 0 2)),
      .perform .sender 0, .finish .sender, .call (.consumer 0) (.subscribeEvent 1)],
     List.replicate 13 (.perform (.consumer 0) 0), [.finish (.consumer 0),
      .call (.consumer 0) (.onSlots (.referenceNextEvent 1 5))],
     List.replicate 14 (.perform (.consumer 0) 0), [.crash (.consumer 0)]]

/-- Its log is rolled back. -/
def rollBack : List (Choice (Party (Fin 1)) (EventControl 1 (Fin 1)) (CrashCall 1)) := List.flatten
    [[.call (.consumer 0) .rollbackProxyElementLog], List.replicate 31 (.perform (.consumer 0) 0)]

theorem crashLaw_of_rolledBack : ∃ config : CrashConfig 1 (Fin 1),
      (config.object (.consumer 0)).rolledBack 0 = 1 ∧
        (config.object (.consumer 0)).unsubscribed = 1 ∧ CrashLaw oneSubscriber config := by
  obtain ⟨config, reached, slot, subscription⟩ :=
    exists_reached (crashSystem 1 oneSubscriber) (fun _ _ => True) crashStart
      (referenceAndDie ++ rollBack)
      (fun config =>
        (config.object (.consumer (0 : Fin 1))).rolledBack 0 = 1 ∧
          (config.object (.consumer (0 : Fin 1))).unsubscribed = 1)
      (by decide +kernel)
  exact ⟨config, slot, subscription, crashLaw_of_reached (by decide) reached⟩

/-! ## The end of a rollback that loses too many updates

A weak compare-exchange may fail although nobody else moves. -/

/-- The consumer subscribes and is killed; its rollback loses three updates. -/
def loseUpdates : List (Choice (Party (Fin 1)) (EventControl 1 (Fin 1)) (CrashCall 1)) :=
  List.flatten
    [[.call (.consumer 0) (.subscribeEvent 1)], List.replicate 13 (.perform (.consumer 0) 0),
     [.finish (.consumer 0), .crash (.consumer 0), .call (.consumer 0) .rollbackProxyElementLog],
     List.replicate 12 (.perform (.consumer 0) 0), (List.replicate 3
      [.perform (.consumer 0) 0, .perform (.consumer 0) 1]).flatten]

/-- The rollback stands before `std::terminate`. -/
def terminating : Activity (ControlOp slots Consumer) ControlOp.Ret
    (CrashCall slots) (CrashReply slots) → Bool
  | .running .rollbackProxyElementLog (.step .terminate _) => true
  | _ => false

theorem rollback_not_finished : ¬ ∀ config : CrashConfig 1 (Fin 1),
      Reaches (crashSystem 1 oneSubscriber) (fun _ _ => True) crashStart config →
        ∀ rest, config.activity (.consumer 0) = .running .rollbackProxyElementLog rest →
          (∃ reply, rest = .done reply) ∨
            ∃ op answer after, Step (crashSystem 1 oneSubscriber) config
              (.perform (.consumer 0) op answer) after := by
  intro finishes
  obtain ⟨config, reached, ends⟩ :=
    exists_reached (crashSystem 1 oneSubscriber) (fun _ _ => True) crashStart
      loseUpdates
      (fun config => terminating (config.activity (.consumer (0 : Fin 1))) = true)
      (by decide +kernel)
  unfold terminating at ends
  split at ends
  · rename_i next running
    rcases finishes config reached _ running with done | goes
    · obtain ⟨reply, impossible⟩ := done
      cases impossible
    · obtain ⟨op, answer, after, step⟩ := goes
      cases step with
      | perform other outcome =>
          rw [running] at other
          cases other
          exact answer.elim
  · cases ends

end MwCom.Lola
