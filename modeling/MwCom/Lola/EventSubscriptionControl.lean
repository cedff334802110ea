/-
Module: MwCom.Lola.EventSubscriptionControl
Purpose: Number of subscribers of an event and sum of the slots they booked,
  kept together in one atomic word.
Trusted boundary: none
Main exports: EventSubscriptionControl, EventSubscriptionControl.subscribe,
  EventSubscriptionControl.unsubscribe
-/
import MwCom.Lola.EventControl

namespace MwCom.Lola

open Interleaving ControlProgram

/-- Outcome of a subscription. -/
inductive SubscribeResult where
  | success
  | maxSubscribersOverflow
  | slotOverflow
  | updateRetryFailure
deriving DecidableEq, Repr

/-- The limits of one event; its state word lives in `EventControl`. -/
structure EventSubscriptionControl where
  maxSubscribableSlots : BitVec 16
  maxSubscribers : BitVec 8
  enforceMaxSamples : Bool
deriving DecidableEq, Repr

namespace EventSubscriptionControl

def getSubscribersFromState (subscriptionState : BitVec 32) : BitVec 8 :=
  (subscriptionState >>> 16).setWidth 8

def getSubscribedSamplesFromState (subscriptionState : BitVec 32) : BitVec 16 :=
  (subscriptionState &&& 0x0000FFFF#32).setWidth 16

def createState (subscriberCount : BitVec 8) (subscribedSlots : BitVec 16) : BitVec 32 :=
  (subscriberCount.setWidth 32 <<< 16) + subscribedSlots.setWidth 32

variable {slots : Nat} {LogIndex : Type} (control : EventSubscriptionControl)
  (slotCount : BitVec 16)

def loadState : ControlProgram slots LogIndex (BitVec 32) := .perform ControlOp.loadSubscription

def compareExchangeState (expected desired : BitVec 32) : ControlProgram slots LogIndex Bool :=
  .perform (ControlOp.compareExchangeSubscription expected desired)

/-- Attempts left to enter the subscription. -/
def subscribeRetries : Nat → ControlProgram slots LogIndex SubscribeResult
  | 0 => pure .updateRetryFailure
  | remaining + 1 => do
      let currentState ← loadState
      let currentSubscribers := getSubscribersFromState currentState
      if currentSubscribers ≥ control.maxSubscribers then
        pure .maxSubscribersOverflow
      else
        let currentSubscribedSlots := getSubscribedSamplesFromState currentState
        -- the sum is formed in `int`, it does not wrap
        if control.enforceMaxSamples &&
            decide (currentSubscribedSlots.toNat + slotCount.toNat >
              control.maxSubscribableSlots.toNat) then
          pure .slotOverflow
        else if ← compareExchangeState currentState
            (createState (currentSubscribers + 1) (currentSubscribedSlots + slotCount)) then
          pure .success
        else
          subscribeRetries remaining

def subscribe : ControlProgram slots LogIndex SubscribeResult :=
  control.subscribeRetries slotCount (2 * control.maxSubscribers.toNat)

/-- Attempts left to leave the subscription; without any the process ends. -/
def unsubscribeRetries : Nat → ControlProgram slots LogIndex Unit
  | 0 => terminate
  | remaining + 1 => do
      let currentState ← loadState
      let currentSubscribers := getSubscribersFromState currentState
      if currentSubscribers = 0 then
        terminate
      else
        let currentSubscribedSlots := getSubscribedSamplesFromState currentState
        if currentSubscribedSlots < slotCount then
          terminate
        else if ← compareExchangeState currentState
            (createState (currentSubscribers - 1) (currentSubscribedSlots - slotCount)) then
          pure ()
        else
          unsubscribeRetries remaining

def unsubscribe : ControlProgram slots LogIndex Unit :=
  unsubscribeRetries slotCount (3 * control.maxSubscribers.toNat)

/-! ## The two counters in one word -/

theorem toNat_getSubscribersFromState (subscriptionState : BitVec 32) :
    (getSubscribersFromState subscriptionState).toNat =
      subscriptionState.toNat / 2 ^ 16 % 2 ^ 8 := by
  rw [getSubscribersFromState, BitVec.toNat_setWidth, BitVec.toNat_ushiftRight,
    Nat.shiftRight_eq_div_pow]

theorem toNat_getSubscribedSamplesFromState (subscriptionState : BitVec 32) :
    (getSubscribedSamplesFromState subscriptionState).toNat = subscriptionState.toNat % 2 ^ 16 := by
  have mask : (0x0000FFFF#32).toNat = 2 ^ 16 - 1 := rfl
  rw [getSubscribedSamplesFromState, BitVec.toNat_setWidth, BitVec.toNat_and,
    mask, Nat.and_two_pow_sub_one_eq_mod, Nat.mod_mod]

theorem toNat_createState (subscriberCount : BitVec 8) (subscribedSlots : BitVec 16) :
    (createState subscriberCount subscribedSlots).toNat =
      subscriberCount.toNat * 2 ^ 16 + subscribedSlots.toNat := by
  have countBound := subscriberCount.isLt
  have slotBound := subscribedSlots.isLt
  have shifted : (subscriberCount.setWidth 32 <<< 16).toNat = subscriberCount.toNat * 2 ^ 16 := by
    rw [BitVec.toNat_shiftLeft, BitVec.toNat_setWidth_of_le (by decide), Nat.shiftLeft_eq]
    exact Nat.mod_eq_of_lt (by omega)
  rw [createState, BitVec.toNat_add, shifted, BitVec.toNat_setWidth_of_le (by decide)]
  exact Nat.mod_eq_of_lt (by omega)

/-- The word holds these two counts. -/
structure Counts (subscriptionState : BitVec 32) (subscribers slotSum : Nat) : Prop where
  word : subscriptionState.toNat = subscribers * 2 ^ 16 + slotSum
  subscribersFit : subscribers < 2 ^ 8
  slotsFit : slotSum < 2 ^ 16

namespace Counts

variable {subscriptionState : BitVec 32} {subscribers slotSum : Nat}

section

variable (counts : Counts subscriptionState subscribers slotSum)

include counts

theorem toNat_subscribers : (getSubscribersFromState subscriptionState).toNat = subscribers := by
  have fits := counts.subscribersFit
  have slotsFit := counts.slotsFit
  rw [toNat_getSubscribersFromState, counts.word]
  omega

theorem toNat_slotSum : (getSubscribedSamplesFromState subscriptionState).toNat = slotSum := by
  have slotsFit := counts.slotsFit
  rw [toNat_getSubscribedSamplesFromState, counts.word]
  omega

/-- One subscriber more. -/
theorem subscribed {slotCount : BitVec 16} (subscribersFit : subscribers + 1 < 2 ^ 8)
    (slotsFit : slotSum + slotCount.toNat < 2 ^ 16) :
    Counts
      (createState (getSubscribersFromState subscriptionState + 1)
        (getSubscribedSamplesFromState subscriptionState + slotCount))
      (subscribers + 1) (slotSum + slotCount.toNat) where
  word := by
    have one : (1 : BitVec 8).toNat = 1 := rfl
    rw [toNat_createState, BitVec.toNat_add, BitVec.toNat_add,
      counts.toNat_subscribers, counts.toNat_slotSum, one,
      Nat.mod_eq_of_lt subscribersFit, Nat.mod_eq_of_lt slotsFit]
  subscribersFit := subscribersFit
  slotsFit := slotsFit

/-- One subscriber less. -/
theorem unsubscribed {slotCount : BitVec 16} (some : 0 < subscribers)
    (enough : slotCount.toNat ≤ slotSum) :
    Counts
      (createState (getSubscribersFromState subscriptionState - 1)
        (getSubscribedSamplesFromState subscriptionState - slotCount))
      (subscribers - 1) (slotSum - slotCount.toNat) where
  word := by
    have fits := counts.subscribersFit
    have slotsFit := counts.slotsFit
    have one : (1 : BitVec 8) ≤ getSubscribersFromState subscriptionState := by
      rw [BitVec.le_def, counts.toNat_subscribers]
      exact some
    have booked : slotCount ≤ getSubscribedSamplesFromState subscriptionState := by
      rw [BitVec.le_def, counts.toNat_slotSum]
      exact enough
    rw [toNat_createState, BitVec.toNat_sub_of_le one,
      BitVec.toNat_sub_of_le booked, counts.toNat_subscribers, counts.toNat_slotSum]
    rfl
  subscribersFit := Nat.lt_of_le_of_lt (Nat.sub_le _ _) counts.subscribersFit
  slotsFit := Nat.lt_of_le_of_lt (Nat.sub_le _ _) counts.slotsFit

end

end Counts

end EventSubscriptionControl

end MwCom.Lola
