/-
Module: MwCom.Lola.SubscriptionAccounting
Purpose: The subscription state of an event while any number of subscribers
  subscribe to it and unsubscribe from it.
Trusted boundary: a subscriber is a proxy event, whose state machine lets one of its calls
  run at a time; it takes back only slots it was granted.
Main exports: Subscriber, subscriptionSystem, subscription_accounted
-/
import Mathlib.Algebra.BigOperators.Ring.Finset
import MwCom.Interleaving.Contract
import MwCom.Interleaving.Total
import MwCom.Lola.EventSubscriptionControl

namespace MwCom.Lola.SubscriptionAccounting

open Interleaving EventSubscriptionControl Function

/-- The calls on the subscription control. -/
inductive SubscriptionCall where
  | subscribe (slotCount : BitVec 16)
  | unsubscribe (slotCount : BitVec 16)
deriving DecidableEq, Repr

/-- What they return. -/
inductive SubscriptionReply where
  | subscribed (result : SubscribeResult)
  | unsubscribed
deriving DecidableEq, Repr

/-- The reply of a call that did what it was called for. -/
def SubscriptionCall.granted : SubscriptionCall → SubscriptionReply
  | .subscribe _ => .subscribed .success
  | .unsubscribe _ => .unsubscribed

/-- What is known of one subscriber: the slots of each subscription it was granted and did
not take back, the call under way that has had no effect yet, and whether that call has
loaded the state since it last tried to replace it. -/
structure Subscriber where
  subscriptions : List (BitVec 16)
  pending : Option SubscriptionCall
  hasLoaded : Bool
deriving DecidableEq, Repr

namespace Subscriber

/-- Not subscribed. -/
def initial : Subscriber := ⟨[], none, false⟩

/-- The effect of the call under way. -/
def effect (subscriber : Subscriber) : List (BitVec 16) :=
  match subscriber.pending with
  | some (.subscribe slotCount) => slotCount :: subscriber.subscriptions
  | some (.unsubscribe slotCount) => subscriber.subscriptions.erase slotCount
  | none => subscriber.subscriptions

/-- The sum of the slots. -/
def slotSum (subscriber : Subscriber) : Nat := (subscriber.subscriptions.map BitVec.toNat).sum

/-- The number of the subscriptions. -/
def count (subscriber : Subscriber) : Nat := subscriber.subscriptions.length

/-- The effect has come. -/
def taken (subscriber : Subscriber) : Subscriber :=
  { subscriber with subscriptions := subscriber.effect, pending := none }

/-- What an operation of the call under way does to it. -/
def observe {slots : Nat} {LogIndex : Type} (subscriber : Subscriber) :
    (op : ControlOp slots LogIndex) → op.Ret → Subscriber
  | .loadSubscription, _ => { subscriber with hasLoaded := true }
  | .compareExchangeSubscription _ _, true => subscriber.taken
  | .compareExchangeSubscription _ _, false => { subscriber with hasLoaded := false }
  | _, _ => subscriber

variable {subscriber : Subscriber}

@[simp] theorem pending_taken : subscriber.taken.pending = none := rfl

theorem taken_of_subscribe {slotCount : BitVec 16}
    (pending : subscriber.pending = some (.subscribe slotCount)) :
    subscriber.taken.count = subscriber.count + 1 ∧
      subscriber.taken.slotSum = subscriber.slotSum + slotCount.toNat := by
  simp [taken, effect, pending, count, slotSum, Nat.add_comm]

theorem taken_of_unsubscribe {slotCount : BitVec 16}
    (pending : subscriber.pending = some (.unsubscribe slotCount))
    (held : slotCount ∈ subscriber.subscriptions) :
    subscriber.taken.count + 1 = subscriber.count ∧
      subscriber.taken.slotSum + slotCount.toNat = subscriber.slotSum := by
  have permuted := List.perm_cons_erase held
  have counts := permuted.length_eq
  have sums := (permuted.map BitVec.toNat).sum_eq
  simp only [List.map_cons, List.sum_cons, List.length_cons] at counts sums
  simp only [taken, effect, pending, count, slotSum]
  omega

end Subscriber

section System

variable {Thread LogIndex : Type} {slots : Nat} [DecidableEq LogIndex]
  (control : EventSubscriptionControl) (ampChecked : Bool)

/-- Subscribers of one event.  Others write its status words and logs. -/
def subscriptionSystem :
    System Thread (ControlOp slots LogIndex) ControlOp.Ret (EventControl slots LogIndex)
      Subscriber SubscriptionCall SubscriptionReply where
  outcomes := ControlOp.outcomes ampChecked
  mayCall := fun _ subscriber call =>
    match call with
    -- asserted by the proxy event
    | .subscribe slotCount => slotCount.toNat ≤ 255
    | .unsubscribe slotCount => slotCount ∈ subscriber.subscriptions
  code := fun _ _ call =>
    match call with
    | .subscribe slotCount => do
        let result ← control.subscribe slotCount
        pure (.subscribed result)
    | .unsubscribe slotCount => do
        control.unsubscribe slotCount
        pure .unsubscribed
  onCall := fun _ _ subscriber call => { subscriber with pending := some call, hasLoaded := false }
  observe := fun _ _ subscriber op answer => subscriber.observe op answer
  onReturn := fun _ _ subscriber _ _ => { subscriber with pending := none }
  onCrash := fun _ _ _ => none
  environment := fun before after =>
    after.currentSubscriptionState = before.currentSubscriptionState

abbrev SubscriptionConfig (Thread LogIndex : Type) (slots : Nat) :=
  Config Thread (ControlOp slots LogIndex) ControlOp.Ret (EventControl slots LogIndex)
    Subscriber SubscriptionCall SubscriptionReply

/-- Nobody has subscribed yet. -/
def initialConfig (memory : EventControl slots LogIndex) :
    SubscriptionConfig Thread LogIndex slots where
  memory := { memory with currentSubscriptionState := 0 }
  object := fun _ => .initial
  activity := fun _ => .idle

end System

/-! ## What a subscriber may do -/

section Rules

variable {LogIndex : Type} {slots : Nat} (control : EventSubscriptionControl)

/-- The replacements of the state that a call asks for. -/
def Replaces : Option SubscriptionCall → (expected desired : BitVec 32) → Prop
  | some (.subscribe slotCount), expected, desired =>
      getSubscribersFromState expected < control.maxSubscribers ∧
      (control.enforceMaxSamples = true →
        (getSubscribedSamplesFromState expected).toNat + slotCount.toNat ≤
          control.maxSubscribableSlots.toNat) ∧
      desired = createState (getSubscribersFromState expected + 1)
        (getSubscribedSamplesFromState expected + slotCount)
  | some (.unsubscribe slotCount), expected, desired =>
      desired = createState (getSubscribersFromState expected - 1)
        (getSubscribedSamplesFromState expected - slotCount)
  | none, _, _ => False

/-- The state counts what the call takes back. -/
def Covers : Option SubscriptionCall → BitVec 32 → Prop
  | some (.unsubscribe slotCount), state =>
      getSubscribersFromState state ≠ 0 ∧ slotCount ≤ getSubscribedSamplesFromState state
  | _, _ => True

/-- Nothing is done after the effect, and the process is not ended on a state just
loaded. -/
def subscriberRules : Rules (ControlOp slots LogIndex) ControlOp.Ret Subscriber where
  may := fun subscriber op =>
    match op with
    | .loadSubscription => subscriber.pending ≠ none
    | .compareExchangeSubscription expected desired =>
        Replaces control subscriber.pending expected desired
    | .terminate => subscriber.pending ≠ none ∧ subscriber.hasLoaded = false
    | _ => False
  expects := fun subscriber op answer =>
    match op, answer with
    | .loadSubscription, state => Covers subscriber.pending state
    | _, _ => True
  next := Subscriber.observe

/-- A call had its effect if and only if it says so. -/
def Ended (call : SubscriptionCall) (reply : SubscriptionReply) (subscriber : Subscriber) : Prop :=
  reply = call.granted ↔ subscriber.pending = none

variable {subscriber : Subscriber}

theorem subscribeRetries_respects (slotCount : BitVec 16) (remaining : Nat)
    (pending : subscriber.pending = some (.subscribe slotCount)) :
    (control.subscribeRetries slotCount remaining :
        ControlProgram slots LogIndex SubscribeResult).Respects (subscriberRules control)
      subscriber fun result after => result = .success ↔ after.pending = none := by
  induction remaining generalizing subscriber with
  | zero =>
      rw [subscribeRetries, Program.pure_eq_done, Program.respects_done, pending]
      simp
  | succ remaining ih =>
      rw [subscribeRetries]
      apply Program.Respects.perform
      · simp [subscriberRules, pending]
      · intro state _
        by_cases full : getSubscribersFromState state ≥ control.maxSubscribers
        · rw [if_pos full, Program.pure_eq_done, Program.respects_done]
          simp [subscriberRules, Subscriber.observe, pending]
        · rw [if_neg full]
          dsimp only
          split
          · rw [Program.pure_eq_done, Program.respects_done]
            simp [subscriberRules, Subscriber.observe, pending]
          · rename_i fits
            apply Program.Respects.perform
            · simp only [subscriberRules, Subscriber.observe, pending, Replaces, and_true]
              constructor
              · exact BitVec.not_le.mp full
              · intro enforced
                simpa [enforced] using fits
            · intro won _
              cases won with
              | true => simp [subscriberRules, Subscriber.observe]
              | false =>
                  apply ih
                  exact pending

theorem unsubscribeRetries_respects (slotCount : BitVec 16) (remaining : Nat)
    (pending : subscriber.pending = some (.unsubscribe slotCount))
    (tried : subscriber.hasLoaded = false) :
    (unsubscribeRetries slotCount remaining : ControlProgram slots LogIndex Unit).Respects
      (subscriberRules control) subscriber fun _ after => after.pending = none := by
  induction remaining generalizing subscriber with
  | zero =>
      rw [unsubscribeRetries]
      refine ⟨?_, fun answer => nomatch answer⟩
      simp [subscriberRules, pending, tried]
  | succ remaining ih =>
      rw [unsubscribeRetries]
      apply Program.Respects.perform
      · simp [subscriberRules, pending]
      · intro state covers
        simp only [subscriberRules, pending, Covers] at covers
        rw [if_neg covers.1]
        dsimp only
        rw [if_neg (BitVec.not_lt.mpr covers.2)]
        apply Program.Respects.perform
        · simp [subscriberRules, Subscriber.observe, pending, Replaces]
        · intro won _
          cases won with
          | true => simp [subscriberRules, Subscriber.observe]
          | false => exact ih pending rfl

/-- A call keeps the rules and says whether it had its effect. -/
theorem code_respects {Thread : Type} [DecidableEq LogIndex] {ampChecked : Bool} {thread : Thread}
    {object : Subscriber} {call : SubscriptionCall} (pending : subscriber.pending = some call)
    (tried : subscriber.hasLoaded = false) :
    ((subscriptionSystem control ampChecked).code thread object call :
        ControlProgram slots LogIndex SubscriptionReply).Respects (subscriberRules control)
      subscriber (Ended call) := by
  cases call with
  | subscribe slotCount =>
      apply (subscribeRetries_respects control slotCount _ pending).bind
      intro result after ended
      rw [Program.pure_eq_done, Program.respects_done]
      simpa [Ended, SubscriptionCall.granted] using ended
  | unsubscribe slotCount =>
      apply (unsubscribeRetries_respects control slotCount _ pending tried).bind
      intro _ after ended
      rw [Program.pure_eq_done, Program.respects_done]
      simpa [Ended, SubscriptionCall.granted] using ended

end Rules

/-! ## The state counts the subscriptions -/

/-- Subscriptions of at most 255 slots each, and a call that takes back one of them or asks
for another such. -/
structure Subscriber.Sound (subscriber : Subscriber) : Prop where
  small : ∀ slotCount ∈ subscriber.subscriptions, slotCount.toNat ≤ 255
  asked : ∀ slotCount, subscriber.pending = some (.subscribe slotCount) → slotCount.toNat ≤ 255
  held : ∀ slotCount, subscriber.pending = some (.unsubscribe slotCount) →
    slotCount ∈ subscriber.subscriptions

namespace Subscriber.Sound

variable {subscriber : Subscriber}

theorem initial : Subscriber.initial.Sound where
  small := by simp [Subscriber.initial]
  asked := by simp [Subscriber.initial]
  held := by simp [Subscriber.initial]

/-- Only what it has subscribed and what it asks for matters. -/
theorem congr {other : Subscriber} (sound : subscriber.Sound)
    (subscriptions : other.subscriptions = subscriber.subscriptions)
    (pending : other.pending = subscriber.pending) : other.Sound where
  small := by
    rw [subscriptions]
    exact sound.small
  asked := by
    rw [pending]
    exact sound.asked
  held := by
    rw [subscriptions, pending]
    exact sound.held

/-- Without a call under way. -/
theorem settled (sound : subscriber.Sound) : ({ subscriber with pending := none }).Sound where
  small := sound.small
  asked := by simp
  held := by simp

/-- After the effect of the call under way. -/
theorem taken (sound : subscriber.Sound) : subscriber.taken.Sound where
  small := by
    intro slotCount member
    simp only [Subscriber.taken, Subscriber.effect] at member
    split at member
    · rename_i asked pending
      rcases List.mem_cons.mp member with rfl | earlier
      · exact sound.asked slotCount pending
      · exact sound.small slotCount earlier
    · exact sound.small slotCount (List.mem_of_mem_erase member)
    · exact sound.small slotCount member
  asked := by simp [Subscriber.taken]
  held := by simp [Subscriber.taken]

theorem slotSum_le (sound : subscriber.Sound) : subscriber.slotSum ≤ 255 * subscriber.count := by
  have each : ∀ slotCount ∈ subscriber.subscriptions.map BitVec.toNat, slotCount ≤ 255 := by
    intro slotCount member
    obtain ⟨word, subscribed, rfl⟩ := List.mem_map.mp member
    exact sound.small word subscribed
  have bound := List.sum_le_card_nsmul _ _ each
  simpa [Subscriber.slotSum, Subscriber.count, Nat.mul_comm] using bound

end Subscriber.Sound

section Run

variable {Thread LogIndex : Type} {slots : Nat} [Fintype Thread]
  (control : EventSubscriptionControl)

/-- Numbers of subscriptions and slots the limits of the event allow. -/
structure WithinLimits (count slotSum : Nat) : Prop where
  subscribers : count ≤ control.maxSubscribers.toNat
  slots : control.enforceMaxSamples = true → slotSum ≤ control.maxSubscribableSlots.toNat

/-- The state is the number of the subscriptions and the sum of their slots. -/
structure Accounted (config : SubscriptionConfig Thread LogIndex slots) : Prop where
  counts : Counts config.memory.currentSubscriptionState
    (total Subscriber.count config.object) (total Subscriber.slotSum config.object)
  limits : WithinLimits control (total Subscriber.count config.object)
    (total Subscriber.slotSum config.object)

/-- The invariant of the run. -/
structure Kept (config : SubscriptionConfig Thread LogIndex slots) : Prop where
  accounted : Accounted control config
  sound : ∀ thread, (config.object thread).Sound

variable {control}

theorem total_slotSum_le {object : Thread → Subscriber} (sound : ∀ thread, (object thread).Sound) :
    total Subscriber.slotSum object ≤ 255 * total Subscriber.count object := by
  rw [total, total, Finset.mul_sum]
  apply Finset.sum_le_sum
  intro thread _
  exact (sound thread).slotSum_le

variable {config : SubscriptionConfig Thread LogIndex slots}

/-- What a call wants to take back is counted. -/
theorem Kept.covers (kept : Kept control config) (thread : Thread) :
    Covers (config.object thread).pending config.memory.currentSubscriptionState := by
  have counts := kept.accounted.counts
  cases pending : (config.object thread).pending with
  | none => trivial
  | some call =>
      cases call with
      | subscribe slotCount => trivial
      | unsubscribe slotCount =>
          have member := (kept.sound thread).held slotCount pending
          have some : 0 < (config.object thread).count := List.length_pos_of_mem member
          have countLe : (config.object thread).count ≤ total Subscriber.count config.object :=
            le_total thread
          have part : slotCount.toNat ≤ (config.object thread).slotSum :=
            List.single_le_sum (by simp) _ (List.mem_map_of_mem member)
          have sumLe : (config.object thread).slotSum ≤ total Subscriber.slotSum config.object :=
            le_total thread
          constructor
          · intro zero
            have none := counts.toNat_subscribers
            rw [zero] at none
            have zeroCount : (0 : BitVec 8).toNat = 0 := rfl
            omega
          · rw [BitVec.le_def, counts.toNat_slotSum]
            omega

variable [DecidableEq Thread]

variable {subscriber : Subscriber}

/-- A step of one subscriber that keeps its subscriptions and the state. -/
theorem Kept.unchanged (kept : Kept control config) {memory : EventControl slots LogIndex}
    {thread : Thread} {activity : Activity (ControlOp slots LogIndex) ControlOp.Ret SubscriptionCall
      SubscriptionReply}
    (sameState : memory.currentSubscriptionState = config.memory.currentSubscriptionState)
    (same : subscriber.subscriptions = (config.object thread).subscriptions)
    (sound : subscriber.Sound) :
    Kept control (config.update memory thread subscriber activity) := by
  have counts := total_update Subscriber.count config.object thread subscriber
  have sums := total_update Subscriber.slotSum config.object thread subscriber
  have sameCount : subscriber.count = (config.object thread).count := by
    rw [Subscriber.count, same, Subscriber.count]
  have sameSum : subscriber.slotSum = (config.object thread).slotSum := by
    rw [Subscriber.slotSum, same, Subscriber.slotSum]
  have countEq : total Subscriber.count
      (update config.object thread subscriber) = total Subscriber.count config.object := by omega
  have sumEq : total Subscriber.slotSum
      (update config.object thread subscriber) = total Subscriber.slotSum config.object := by omega
  refine ⟨⟨?_, ?_⟩, ?_⟩
  · rw [Config.update_memory, sameState, Config.update_object, countEq, sumEq]
    exact kept.accounted.counts
  · rw [Config.update_object, countEq, sumEq]
    exact kept.accounted.limits
  · intro other
    by_cases self : other = thread
    · subst self
      rw [Config.update_object_self]
      exact sound
    · rw [Config.update_object_of_ne self]
      exact kept.sound other

/-- The effect of a call on the subscriptions and on the state is the same. -/
theorem Kept.replaced (kept : Kept control config) {thread : Thread} {desired : BitVec 32}
    {activity : Activity (ControlOp slots LogIndex) ControlOp.Ret SubscriptionCall
      SubscriptionReply}
    (replaces : Replaces control (config.object thread).pending
      config.memory.currentSubscriptionState desired) :
    Kept control (config.update { config.memory with currentSubscriptionState := desired } thread
      (config.object thread).taken activity) := by
  have soundAfter : ∀ other,
      (update config.object thread (config.object thread).taken other).Sound := by
    intro other
    by_cases self : other = thread
    · subst self
      rw [update_self]
      exact (kept.sound other).taken
    · rw [update_of_ne self]
      exact kept.sound other
  have accounted : Counts desired
        (total Subscriber.count (update config.object thread (config.object thread).taken))
        (total Subscriber.slotSum (update config.object thread (config.object thread).taken)) ∧
      WithinLimits control
        (total Subscriber.count (update config.object thread (config.object thread).taken))
        (total Subscriber.slotSum (update config.object thread (config.object thread).taken)) := by
    have counts := kept.accounted.counts
    have limits := kept.accounted.limits
    have covers := kept.covers thread
    have countMoved := total_update Subscriber.count config.object thread
      (config.object thread).taken
    have sumMoved := total_update Subscriber.slotSum config.object thread
      (config.object thread).taken
    have sumLe := total_slotSum_le soundAfter
    have most := control.maxSubscribers.isLt
    cases pending : (config.object thread).pending with
    | none =>
        rw [pending] at replaces
        exact replaces.elim
    | some call =>
        rw [pending] at replaces covers
        cases call with
        | subscribe slotCount =>
            obtain ⟨room, fits, rfl⟩ := replaces
            rw [BitVec.lt_def, counts.toNat_subscribers] at room
            rw [counts.toNat_slotSum] at fits
            obtain ⟨moreCount, moreSum⟩ := Subscriber.taken_of_subscribe pending
            have countEq : total Subscriber.count
                (update config.object thread (config.object thread).taken) =
                  total Subscriber.count config.object + 1 := by omega
            have sumEq : total Subscriber.slotSum
                (update config.object thread (config.object thread).taken) =
                  total Subscriber.slotSum config.object + slotCount.toNat := by omega
            rw [countEq, sumEq] at sumLe ⊢
            constructor
            · exact counts.subscribed (by omega) (by omega)
            · exact ⟨room, fits⟩
        | unsubscribe slotCount =>
            obtain ⟨lessCount, lessSum⟩ := Subscriber.taken_of_unsubscribe pending
              ((kept.sound thread).held slotCount pending)
            have countEq : total Subscriber.count
                (update config.object thread (config.object thread).taken) =
                  total Subscriber.count config.object - 1 := by omega
            have sumEq : total Subscriber.slotSum
                (update config.object thread (config.object thread).taken) =
                  total Subscriber.slotSum config.object - slotCount.toNat := by omega
            have some : 0 < total Subscriber.count config.object := by omega
            have enough : slotCount.toNat ≤ total Subscriber.slotSum config.object := by
              have part := BitVec.le_def.mp covers.2
              rw [counts.toNat_slotSum] at part
              exact part
            rw [countEq, sumEq, replaces]
            constructor
            · exact counts.unsubscribed some enough
            · constructor
              · have within := limits.subscribers
                omega
              · intro enforced
                have within := limits.slots enforced
                omega
  refine ⟨⟨?_, ?_⟩, soundAfter⟩
  · rw [Config.update_object]
    exact accounted.1
  · rw [Config.update_object]
    exact accounted.2

/-! ## The run -/

/-- A subscriber changes its own subscriptions only. -/
def contract (control : EventSubscriptionControl) (ampChecked : Bool) [DecidableEq LogIndex] :
    Contract (subscriptionSystem control ampChecked :
      System Thread (ControlOp slots LogIndex) ControlOp.Ret (EventControl slots LogIndex)
        Subscriber SubscriptionCall SubscriptionReply) Subscriber where
  Inv := Kept control
  view := fun config thread => config.object thread
  rules := fun _ => subscriberRules control
  post := fun _ => Ended

variable {ampChecked : Bool}

theorem contract_unseen [DecidableEq LogIndex] {thread : Thread}
    {memory : EventControl slots LogIndex}
    {activity : Activity (ControlOp slots LogIndex) ControlOp.Ret SubscriptionCall
      SubscriptionReply} :
    (contract control ampChecked).Unseen thread config
      (config.update memory thread subscriber activity) := by
  intro other distinct
  simp only [contract]
  exact Config.update_object_of_ne distinct

theorem contract_obligations [DecidableEq LogIndex] :
    (contract control ampChecked : Contract (subscriptionSystem control ampChecked :
        System Thread (ControlOp slots LogIndex) ControlOp.Ret (EventControl slots LogIndex)
          Subscriber SubscriptionCall SubscriptionReply) Subscriber).Obligations
        fun _ _ => True where
  call := by
    intro config thread call kept _ _ allowed after moved
    subst moved
    have sound := kept.sound thread
    refine ⟨kept.unchanged rfl rfl ?_, contract_unseen, ?_⟩
    · constructor
      · exact sound.small
      · intro slotCount pending
        cases pending
        exact allowed
      · intro slotCount pending
        cases pending
        exact allowed
    · simp only [contract, Config.update_object_self]
      apply code_respects control
      · rfl
      · rfl
  perform := by
    intro config thread call op next answer memory kept _ _ may outcome after moved
    subst moved
    refine ⟨?_, contract_unseen, ?_, ?_⟩
    · cases op with
      | loadSubscription =>
          cases List.mem_singleton.mp outcome
          exact kept.unchanged rfl rfl ((kept.sound thread).congr rfl rfl)
      | compareExchangeSubscription expected desired =>
          have possible : (answer, memory) ∈
              (ControlOp.compareExchangeSubscription expected desired).outcomes ampChecked
                config.memory := outcome
          rcases ControlOp.compareExchangeSubscription_outcome possible with won | failed
          · obtain ⟨rfl, found, rfl⟩ := won
            apply kept.replaced
            rw [found]
            exact may
          · obtain ⟨rfl, rfl⟩ := failed
            exact kept.unchanged rfl rfl ((kept.sound thread).congr rfl rfl)
      | terminate => cases outcome
      | _ => exact may.elim
    · cases op with
      | loadSubscription =>
          cases List.mem_singleton.mp outcome
          exact kept.covers thread
      | _ => trivial
    · simp only [contract, Config.update_object_self]
      rfl
  finish := by
    intro config thread call reply kept _ _ _ after moved
    subst moved
    exact ⟨kept.unchanged rfl rfl (kept.sound thread).settled, contract_unseen⟩
  crash := by
    intro config thread object _ _ killed
    cases killed
  environment := by
    intro config memory kept _ sameState after moved
    subst moved
    refine ⟨⟨⟨?_, kept.accounted.limits⟩, kept.sound⟩, fun _ => rfl⟩
    rw [sameState]
    exact kept.accounted.counts

variable (control) in
/-- The law of the subscription state, in one state of the system. -/
structure Lawful [DecidableEq LogIndex] (ampChecked : Bool)
    (config : SubscriptionConfig Thread LogIndex slots) : Prop where
  accounted : Accounted control config
  /-- Only the last step of a granted call changes the state. -/
  granted : ∀ event after, Step (subscriptionSystem control ampChecked) config event after →
    after.memory.currentSubscriptionState ≠ config.memory.currentSubscriptionState →
    ∃ thread op answer call, event = .perform thread op answer ∧
      after.activity thread = .running call (.done call.granted)
  /-- A granted call, and no other, has changed the subscriptions. -/
  ended : ∀ thread call reply, config.activity thread = .running call (.done reply) →
    Ended call reply (config.object thread)
  /-- What was loaded never ends the process. -/
  noUnderflow : ∀ thread state after, Step (subscriptionSystem control ampChecked) config
      (.perform thread .loadSubscription state) after →
    ∀ call next, after.activity thread ≠ .running call (.step .terminate next)

/-- Once a call had its effect it returns, as granted. -/
theorem done_of_taken {call : SubscriptionCall}
    {rest : ControlProgram slots LogIndex SubscriptionReply} (taken : subscriber.pending = none)
    (respects : rest.Respects (subscriberRules control) subscriber (Ended call)) :
    rest = .done call.granted := by
  cases rest with
  | done reply =>
      congr 1
      exact (Program.respects_done.mp respects).mpr taken
  | step op next =>
      have may := respects.1
      cases op with
      | loadSubscription => exact absurd taken may
      | compareExchangeSubscription expected desired =>
          simp only [subscriberRules, taken, Replaces] at may
      | terminate => exact absurd taken may.1
      | _ => exact may.elim

/-- A state whose contract holds is lawful. -/
theorem lawful_of_holds [DecidableEq LogIndex]
    (holds : (contract control ampChecked).Holds config) : Lawful control ampChecked config where
  accounted := holds.inv.accounted
  granted := by
    intro event after step changed
    have holdsAfter := holds.step contract_obligations trivial step
    cases step with
    | @perform thread call op next answer memory running outcome =>
        have respected := holds.running thread call _ running
        have may := respected.1
        refine ⟨thread, op, answer, call, rfl, ?_⟩
        cases op with
        | loadSubscription =>
            cases List.mem_singleton.mp outcome
            exact absurd rfl changed
        | compareExchangeSubscription expected desired =>
            have possible : (answer, memory) ∈
                (ControlOp.compareExchangeSubscription expected desired).outcomes ampChecked
                  config.memory := outcome
            rcases ControlOp.compareExchangeSubscription_outcome possible with won | failed
            · obtain ⟨rfl, _, rfl⟩ := won
              have rest := holdsAfter.running thread call _ Config.update_activity_self
              rw [Config.update_activity_self]
              congr 1
              apply done_of_taken _ rest
              simp only [contract, Config.update_object_self]
              rfl
            · obtain ⟨_, rfl⟩ := failed
              exact absurd rfl changed
        | terminate => cases outcome
        | _ => exact may.elim
    | environment sameState => exact absurd sameState changed
    | crash killed => cases killed
    | call | finish => exact absurd rfl changed
  ended := by
    intro thread call reply running
    exact holds.running thread call _ running
  noUnderflow := by
    intro thread state after step call next running
    have holdsAfter := holds.step contract_obligations trivial step
    have may := (holdsAfter.running thread call _ running).1
    cases step with
    | perform started outcome =>
        have tried := may.2
        simp only [contract, Config.update_object_self] at tried
        cases tried

/-- In every run of subscribers the state is the number of the subscriptions and the sum
of their slots, within the limits of the event; a call that is not granted leaves it as it
is, and no call takes back more than is counted. -/
theorem subscription_accounted [DecidableEq LogIndex] (control : EventSubscriptionControl)
    (ampChecked : Bool) (memory : EventControl slots LogIndex)
    {config : SubscriptionConfig Thread LogIndex slots}
    (reached : Reaches (subscriptionSystem control ampChecked) (fun _ _ => True)
      (initialConfig memory) config) :
    Lawful control ampChecked config := by
  apply lawful_of_holds
  apply Contract.run contract_obligations _ _ reached
  · have noCount : total Subscriber.count
        (initialConfig memory : SubscriptionConfig Thread LogIndex slots).object = 0 :=
      total_eq_zero fun _ => rfl
    have noSlots : total Subscriber.slotSum
        (initialConfig memory : SubscriptionConfig Thread LogIndex slots).object = 0 :=
      total_eq_zero fun _ => rfl
    refine ⟨⟨?_, ?_⟩, fun _ => .initial⟩
    · rw [noCount, noSlots]
      exact ⟨rfl, by decide, by decide⟩
    · rw [noCount, noSlots]
      exact ⟨Nat.zero_le _, fun _ => Nat.zero_le _⟩
  · intro thread
    rfl

end Run

section Runs

variable {Thread LogIndex : Type} {slots : Nat} [DecidableEq LogIndex]

instance (control : EventSubscriptionControl) (ampChecked : Bool) (thread : Thread)
    (subscriber : Subscriber) (call : SubscriptionCall) :
    Decidable ((subscriptionSystem control ampChecked :
      System Thread (ControlOp slots LogIndex) ControlOp.Ret (EventControl slots LogIndex)
        Subscriber SubscriptionCall SubscriptionReply).mayCall thread subscriber call) :=
  match call with
  | .subscribe slotCount => inferInstanceAs (Decidable (slotCount.toNat ≤ 255))
  | .unsubscribe slotCount =>
      inferInstanceAs (Decidable (slotCount ∈ subscriber.subscriptions))

instance (control : EventSubscriptionControl) (ampChecked : Bool)
    (before after : EventControl slots LogIndex) :
    Decidable ((subscriptionSystem control ampChecked :
      System Thread (ControlOp slots LogIndex) ControlOp.Ret (EventControl slots LogIndex)
        Subscriber SubscriptionCall SubscriptionReply).environment before after) :=
  inferInstanceAs (Decidable (after.currentSubscriptionState = before.currentSubscriptionState))

/-- Two subscribers load the same state; the second one to replace it tries again. -/
theorem subscription_accounted_contended : ∃ config : SubscriptionConfig (Fin 2) Unit 1,
      config.memory.currentSubscriptionState = 0x00020007#32 ∧
      Lawful ⟨8, 2, true⟩ true config := by
  obtain ⟨config, reached, state⟩ := exists_reached
    (subscriptionSystem ⟨8, 2, true⟩ true) (fun _ _ => True)
    (initialConfig ⟨fun _ => 0, fun _ => ⟨false, false, .empty⟩, 0⟩ :
      SubscriptionConfig (Fin 2) Unit 1)
    [.call 0 (.subscribe 3), .perform 0 0, .call 1 (.subscribe 4), .perform 1 0,
      .perform 1 0, .perform 0 0, .perform 0 0, .perform 0 0, .finish 0, .finish 1]
    (fun config => config.memory.currentSubscriptionState = 0x00020007#32) (by decide +kernel)
  exact ⟨config, state, subscription_accounted ⟨8, 2, true⟩ true _ reached⟩

end Runs

end MwCom.Lola.SubscriptionAccounting
