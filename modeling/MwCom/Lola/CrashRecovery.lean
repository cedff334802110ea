/-
Module: MwCom.Lola.CrashRecovery
Purpose: What a killed consumer leaves behind, and that each call of a consumer
  and the rollback of its log keep log, references and subscription in step at
  every operation.
Trusted boundary: none
Main exports: CrashView, CrashView.Consistent, crashRules,
  subscribeEvent_respects, onEntry_respects, rollbackProxyElementLog_respects
-/
import MwCom.Lola.SubscriptionStates
import MwCom.Lola.TransactionProtocol

namespace MwCom.Lola

open Interleaving EventDataControl EventSubscriptionControl

variable {slots : Nat} {LogIndex : Type}

/-- What a consumer alone changes: its references, its log, and its part of the
subscription counters.  `attempts` counts the lost updates of these counters
since the call began. -/
structure CrashView (slots : Nat) where
  now : LogView slots
  subscription : Option (BitVec 16)
  requested : BitVec 16
  dead : Bool
  attempts : Nat

namespace CrashView

/-- The consumer's part of the subscription counters after an operation. -/
def observeSubscription (subscription : Option (BitVec 16))
    (requested : BitVec 16) :
    (op : ControlOp slots LogIndex) → op.Ret → Option (BitVec 16)
  | .compareExchangeSubscription _ _, true =>
      match subscription with
      | none => some requested
      | some _ => none
  | _, _ => subscription

/-- The lost updates after an operation. -/
def observeAttempts (attempts : Nat) : (op : ControlOp slots LogIndex) → op.Ret → Nat
  | .compareExchangeSubscription _ _, false => attempts + 1
  | _, _ => attempts

def observe (view : CrashView slots) (op : ControlOp slots LogIndex)
    (answer : op.Ret) : CrashView slots where
  now := view.now.observe op answer
  subscription := observeSubscription view.subscription view.requested op answer
  requested := view.requested
  dead := view.dead
  attempts := observeAttempts view.attempts op answer

/-- What a consumer may leave when it is killed: a log that contradicts neither
its references nor its subscription. -/
structure Consistent (view : CrashView slots) : Prop where
  log : view.now.Consistent
  subscribed : view.now.log.subscribeTransactions = .recorded →
    ∃ count, view.subscription = some count ∧ view.now.log.subscriptionMaxSampleCount = some count
  unsubscribed : view.now.log.subscribeTransactions = .empty → view.subscription = none
  small : ∀ count, view.subscription = some count → count.toNat ≤ 255

/-- No slot is referenced, and none is recorded. -/
def Quiet (view : CrashView slots) : Prop :=
  ∀ slot, view.now.log.referenceCountSlots slot = .empty ∧ view.now.party.references slot = []

/-- The view with another state of the subscription. -/
def subscribing (view : CrashView slots) (flags : TransactionLogSlot)
    (maxSampleCount subscription : Option (BitVec 16)) (attempts : Nat) :
    CrashView slots :=
  { view with
    now :=
      { view.now with
        log :=
          { view.now.log with
            subscribeTransactions := flags
            subscriptionMaxSampleCount := maxSampleCount } }
    subscription
    attempts }

variable {view : CrashView slots} {flags : TransactionLogSlot}
  {maxSampleCount subscription : Option (BitVec 16)} {attempts : Nat}

/-- A view is itself with its own subscription. -/
theorem eq_subscribing (sameFlags : view.now.log.subscribeTransactions = flags)
    (sameCount : view.now.log.subscriptionMaxSampleCount = maxSampleCount)
    (sameSubscription : view.subscription = subscription) :
    view = view.subscribing flags maxSampleCount subscription view.attempts := by
  subst sameFlags sameCount sameSubscription
  rfl

/-- What the flags of a subscription, the count stored with them and the part
of the counters may be at once. -/
structure Phase (flags : TransactionLogSlot)
    (maxSampleCount subscription : Option (BitVec 16)) : Prop where
  subscribed : flags = .recorded → ∃ count, subscription = some count ∧ maxSampleCount = some count
  unsubscribed : flags = .empty → subscription = none
  small : ∀ count, subscription = some count → count.toNat ≤ 255

/-- Between its flags a transaction may have counted or not. -/
theorem Phase.between {one : Bool}
    (small : ∀ count, subscription = some count → count.toNat ≤ 255) :
    Phase ⟨one, !one⟩ maxSampleCount subscription where
  subscribed := by
    intro recorded
    cases one <;> cases recorded
  unsubscribed := by
    intro empty
    cases one <;> cases empty
  small := small

theorem Phase.uncounted {one : Bool} : Phase ⟨one, !one⟩ maxSampleCount none :=
  Phase.between fun _ impossible => nomatch impossible

theorem Phase.counted {one : Bool} {count : BitVec 16} (small : count.toNat ≤ 255) :
    Phase ⟨one, !one⟩ maxSampleCount (some count) := by
  refine Phase.between ?_
  intro other same
  cases same
  exact small

theorem Phase.recorded {count : BitVec 16} (small : count.toNat ≤ 255) :
    Phase .recorded (some count) (some count) where
  subscribed := fun _ => ⟨count, rfl, rfl⟩
  unsubscribed := by
    intro impossible
    cases impossible
  small := by
    intro other same
    cases same
    exact small

theorem Phase.empty : Phase .empty maxSampleCount none where
  subscribed := by
    intro impossible
    cases impossible
  unsubscribed := fun _ => rfl
  small := by
    intro count impossible
    cases impossible

/-- While no slot is recorded the subscription may be in any phase. -/
theorem Quiet.consistent (quiet : view.Quiet) (phase : Phase flags maxSampleCount subscription) :
    (view.subscribing flags maxSampleCount subscription attempts).Consistent where
  log :=
    { phase := by
        intro slot
        obtain ⟨empty, nothing⟩ := quiet slot
        simp only [subscribing]
        rw [empty, nothing]
        rfl
      bracketed := by
        intro _ slot
        exact (quiet slot).1 }
  subscribed := phase.subscribed
  unsubscribed := phase.unsubscribed
  small := phase.small

/-- An unsubscribed consumer is quiet. -/
theorem Consistent.quiet (consistent : view.Consistent)
    (empty : view.now.log.subscribeTransactions = .empty) : view.Quiet := by
  intro slot
  have noFlags := consistent.log.bracketed empty slot
  have phase := consistent.log.phase slot
  rw [noFlags] at phase
  exact ⟨noFlags, List.length_eq_zero_iff.mp phase⟩

end CrashView

/-! ## The rules -/

/-- What is fixed for all consumers of an event: the build and the limits. -/
structure CrashMode where
  ampChecked : Bool
  limits : EventSubscriptionControl

/-- As `logRules`, with the subscription: nothing but the retry limit may end a
rollback early. -/
def crashRules (mode : CrashMode) (own : LogIndex) :
    Rules (ControlOp slots LogIndex) ControlOp.Ret (CrashView slots) where
  may view
    | .load _ => True
    | .loadSubscription => True
    | .check _ condition => view.dead = true → condition = true
    | .isActive log => log = own
    | .getFlag log _ _ => log = own
    | .getMaxSampleCount log => log = own
    | .setFlag log entry flag value =>
        log = own ∧ (view.observe (ControlOp.setFlag log entry flag value) ()).Consistent
    | .setMaxSampleCount log count =>
        log = own ∧ (view.observe (ControlOp.setMaxSampleCount log count :
            ControlOp slots LogIndex) ()).Consistent
    | .compareExchangeWeak slot expected desired =>
        view.dead = false ∧
        (expected ≠ EventSlotStatus.invalid ∧
          expected ≠ EventSlotStatus.inWriting ∧ desired = expected + 1) ∧
        (view.observe (ControlOp.compareExchangeWeak slot expected desired :
          ControlOp slots LogIndex) true).Consistent
    | .fetchSub slot =>
        view.now.party.references slot ≠ [] ∧
          (view.observe (ControlOp.fetchSub slot : ControlOp slots LogIndex) ()).Consistent
    | .compareExchangeSubscription expected desired =>
        (view.observe (ControlOp.compareExchangeSubscription expected desired :
          ControlOp slots LogIndex) true).Consistent ∧
        match view.subscription with
        | none =>
            view.dead = false ∧
            getSubscribersFromState expected < mode.limits.maxSubscribers ∧
            desired = createState (getSubscribersFromState expected + 1)
              (getSubscribedSamplesFromState expected + view.requested)
        | some count =>
            desired = createState (getSubscribersFromState expected - 1)
              (getSubscribedSamplesFromState expected - count)
    | .terminate => view.dead = true → view.attempts = 3 * mode.limits.maxSubscribers.toNat
    | _ => False
  expects view
    | .load slot, word =>
        ∀ timeStamp ∈ view.now.party.references slot,
          (EventSlotStatus.mk word).getTimeStamp = timeStamp
    | .check _ condition, _ => mode.ampChecked = true → condition = true
    | .getFlag _ entry flag, value =>
        value = (view.now.log.entry entry).get flag
    | .getMaxSampleCount _, count =>
        count = view.now.log.subscriptionMaxSampleCount
    | .loadSubscription, word => ∀ count, view.subscription = some count →
        getSubscribersFromState word ≠ 0 ∧ count ≤ getSubscribedSamplesFromState word
    | _, _ => True
  next := CrashView.observe

/-- Two views with the same subscription. -/
structure SameSubscription (before after : CrashView slots) : Prop where
  subscription : after.subscription = before.subscription
  requested : after.requested = before.requested
  dead : after.dead = before.dead
  attempts : after.attempts = before.attempts
  flags : after.now.log.subscribeTransactions = before.now.log.subscribeTransactions
  count : after.now.log.subscriptionMaxSampleCount = before.now.log.subscriptionMaxSampleCount

theorem SameSubscription.refl (view : CrashView slots) : SameSubscription view view :=
  ⟨rfl, rfl, rfl, rfl, rfl, rfl⟩

variable {before : CrashView slots}

/-- The subscription is as before, so that only the slots decide. -/
theorem SameSubscription.consistent {after : CrashView slots}
    (same : SameSubscription before after) (consistent : before.Consistent)
    (log : after.now.Consistent) : after.Consistent where
  log := log
  subscribed := by
    intro recorded
    rw [same.flags] at recorded
    rw [same.subscription, same.count]
    exact consistent.subscribed recorded
  unsubscribed := by
    intro empty
    rw [same.flags] at empty
    rw [same.subscription]
    exact consistent.unsubscribed empty
  small := by
    rw [same.subscription]
    exact consistent.small

/-- The mode of the slot transactions of a consumer. -/
def CrashMode.logMode (mode : CrashMode) (dead : Bool) : LogMode where
  ampChecked := mode.ampChecked
  stampsKept := true
  rollingBack := dead

/-- An operation on slots leaves the subscription alone. -/
theorem sameSubscription_of_logRules {mode : LogMode} {own : LogIndex} {view : CrashView slots}
    {op : ControlOp slots LogIndex} {answer : op.Ret} (same : SameSubscription before view)
    (may : (logRules mode own).may view.now op) :
    SameSubscription before (view.observe op answer) := by
  obtain ⟨subscription, requested, dead, attempts, flags, count⟩ := same
  cases op with
  | setFlag log entry flag value =>
      cases entry with
      | slot slot => exact ⟨subscription, requested, dead, attempts, flags, count⟩
      | subscribe => exact may.elim
  | compareExchangeSubscription expected desired => exact may.elim
  | setMaxSampleCount log maxSampleCount => exact may.elim
  | _ => exact ⟨subscription, requested, dead, attempts, flags, count⟩

/-- A program that keeps the rules of the log keeps those with the
subscription, which it leaves alone. -/
theorem crash_respects {α : Type} {mode : CrashMode} {own : LogIndex}
    {program : ControlProgram slots LogIndex α} {view : CrashView slots}
    {post : α → LogView slots → Prop} (consistent : view.Consistent)
    (respected : program.Respects (logRules (mode.logMode view.dead) own) view.now post) :
    program.Respects (crashRules mode own) view fun result after =>
      post result after.now ∧ SameSubscription view after := by
  refine Program.Respects.transfer _ CrashView.now (SameSubscription view)
    ?_ ?_ (SameSubscription.refl view) respected
  · intro current op same may
    have moved : ∀ answer, SameSubscription view (current.observe op answer) :=
      fun answer => sameSubscription_of_logRules same may
    cases op with
    | load slot => trivial
    | check kind condition =>
        intro dead
        rw [same.dead] at dead
        exact may dead
    | isActive log => exact may
    | getFlag log entry flag => exact may
    | setFlag log entry flag value =>
        cases entry with
        | slot slot =>
            exact ⟨may.1, (moved ()).consistent consistent may.2⟩
        | subscribe => exact may.elim
    | compareExchangeWeak slot expected desired =>
        refine ⟨?_, may.2.1, (moved true).consistent consistent may.2.2⟩
        rw [same.dead]
        exact may.1
    | fetchSub slot =>
        exact ⟨may.1, (moved ()).consistent consistent may.2⟩
    | _ => exact may.elim
  · intro current op answer same may expects
    refine ⟨?_, rfl, sameSubscription_of_logRules same may⟩
    cases op with
    | load slot => exact fun _ => expects
    | check kind condition | getFlag log entry flag => exact expects
    | _ => trivial

theorem SameSubscription.eq {after : CrashView slots} (same : SameSubscription before after)
    (sameNow : after.now = before.now) :
    after = before := by
  obtain ⟨subscription, requested, dead, attempts, _, _⟩ := same
  cases before
  cases after
  simp_all

/-! ## The subscription -/

section Subscription

variable {mode : CrashMode} {own : LogIndex} {view : CrashView slots}
  {maxSampleCount subscription : Option (BitVec 16)} {attempts : Nat}

/-- A step of a subscription transaction whose precondition holds. -/
theorem subscribeTransaction_respects {current : CrashView slots}
    (quiet : view.Quiet) (one two : Bool) (flag : LogFlag) (value : Bool) (reached : current =
      view.subscribing ⟨one, two⟩ maxSampleCount subscription attempts)
    (before : CrashView.Phase ⟨one, two⟩ maxSampleCount subscription)
    (next : CrashView.Phase ((TransactionLogSlot.mk one two).set flag value)
      maxSampleCount subscription) :
    (TransactionLog.expectFlags own .subscribe one two >>= fun _ =>
      .perform (ControlOp.setFlag own .subscribe flag value) :
        ControlProgram slots LogIndex Unit).Respects (crashRules mode own)
          current fun _ after => after =
            view.subscribing ((TransactionLogSlot.mk one two).set flag value)
              maxSampleCount subscription attempts := by
  subst reached
  have consistent : (view.subscribing ⟨one, two⟩ maxSampleCount subscription
      attempts).Consistent := quiet.consistent before
  refine (crash_respects consistent (expectFlags_holds rfl)).bind ?_
  rintro _ after ⟨sameNow, same⟩
  rw [same.eq sameNow]
  exact ⟨⟨rfl, quiet.consistent next⟩, fun _ _ => rfl⟩

/-- The attempts to enter the subscription. -/
theorem subscribeRetries_respects (quiet : view.Quiet)
    (alive : view.dead = false) (small : view.requested.toNat ≤ 255) (remaining attempts : Nat) :
    (mode.limits.subscribeRetries view.requested remaining :
      ControlProgram slots LogIndex SubscribeResult).Respects
        (crashRules mode own)
        (view.subscribing ⟨true, false⟩ (some view.requested) none attempts)
        fun result after => ∃ attempts, after = view.subscribing ⟨true, false⟩ (some view.requested)
            (if result = .success then some view.requested else none)
            attempts := by
  induction remaining generalizing attempts with
  | zero => exact ⟨attempts, rfl⟩
  | succ remaining ih =>
      rw [subscribeRetries]
      refine .perform trivial fun currentState _ => ?_
      dsimp only
      split
      · exact ⟨attempts, rfl⟩
      · rename_i notFull
        split
        · exact ⟨attempts, rfl⟩
        · have phase : CrashView.Phase ⟨true, false⟩ (some view.requested)
              (some view.requested) := CrashView.Phase.counted small
          have below : getSubscribersFromState currentState < mode.limits.maxSubscribers := by
            rw [BitVec.lt_def]
            rw [ge_iff_le, BitVec.le_def] at notFull
            omega
          refine .perform ⟨quiet.consistent phase, alive, below, rfl⟩ fun won _ => ?_
          cases won with
          | true => exact ⟨attempts, rfl⟩
          | false => exact ih (attempts + 1)

/-- The subscription begins with its count stored. -/
theorem subscribeTransactionBegin_respects (consistent : view.Consistent)
    (unsubscribed : view.now.log.subscribeTransactions = .empty) :
    (TransactionLog.subscribeTransactionBegin own view.requested :
      ControlProgram slots LogIndex Unit).Respects (crashRules mode own) view
        fun _ after => after = view.subscribing ⟨true, false⟩
          (some view.requested) none view.attempts := by
  have quiet := consistent.quiet unsubscribed
  have uncounted := consistent.unsubscribed unsubscribed
  have same := CrashView.eq_subscribing unsubscribed rfl uncounted
  have known : view.now.log.entry .subscribe = ⟨false, false⟩ := unsubscribed
  refine (crash_respects consistent (expectFlags_holds known)).bind ?_
  rintro _ after ⟨sameNow, sameRest⟩
  rw [sameRest.eq sameNow, same]
  refine .perform ⟨rfl, quiet.consistent CrashView.Phase.uncounted⟩ fun _ _ => ?_
  exact ⟨⟨rfl, quiet.consistent CrashView.Phase.uncounted⟩, fun _ _ => rfl⟩

/-- Subscribing ends with the subscription recorded and counted, or with
neither. -/
theorem subscribeEvent_respects (consistent : view.Consistent)
    (alive : view.dead = false) (small : view.requested.toNat ≤ 255)
    (unsubscribed : view.now.log.subscribeTransactions = .empty) :
    (NotSubscribedState.subscribeEvent own mode.limits view.requested :
      ControlProgram slots LogIndex (Except ComErrc Unit)).Respects
        (crashRules mode own) view fun result after => ∃ attempts,
          match result with
          | .ok () => after = view.subscribing .recorded (some view.requested)
              (some view.requested) attempts
          | .error _ => after = view.subscribing .empty (some view.requested)
              none attempts := by
  have quiet := consistent.quiet unsubscribed
  have uncounted := consistent.unsubscribed unsubscribed
  have between : ∀ stored, CrashView.Phase ⟨true, false⟩ stored none :=
    fun _ => CrashView.Phase.uncounted
  refine (subscribeTransactionBegin_respects consistent unsubscribed).bind ?_
  rintro _ after rfl
  refine (subscribeRetries_respects quiet alive small _ view.attempts).bind ?_
  rintro result after ⟨attempts, rfl⟩
  cases result with
  | success =>
      refine .bind (subscribeTransaction_respects quiet true false
        .transactionEnd true rfl (CrashView.Phase.counted small)
        (CrashView.Phase.recorded small)) ?_
      rintro _ after rfl
      exact ⟨attempts, rfl⟩
  | _ =>
      refine .perform (fun dead => ?_) fun _ _ => ?_
      · have contradiction : view.dead = true := dead
        rw [alive] at contradiction
        cases contradiction
      · refine .bind (subscribeTransaction_respects quiet true false
          .transactionBegin false rfl (between _) CrashView.Phase.empty) ?_
        rintro _ after rfl
        exact ⟨attempts, rfl⟩

variable {count : BitVec 16}

/-- The attempts to leave the subscription.  Only after the last one the
process ends. -/
theorem unsubscribeRetries_respects (quiet : view.Quiet) (remaining attempts : Nat)
    (budget : view.dead = true → attempts + remaining = 3 * mode.limits.maxSubscribers.toNat) :
    (unsubscribeRetries count remaining :
      ControlProgram slots LogIndex Unit).Respects (crashRules mode own)
        (view.subscribing ⟨true, false⟩ (some count) (some count) attempts)
        fun _ after => ∃ attempts, after =
          view.subscribing ⟨true, false⟩ (some count) none attempts := by
  induction remaining generalizing attempts with
  | zero =>
      refine ⟨fun dead => ?_, fun answer => nomatch answer⟩
      exact budget dead
  | succ remaining ih =>
      rw [unsubscribeRetries]
      refine .perform trivial fun currentState expects => ?_
      obtain ⟨someone, enough⟩ := expects count rfl
      dsimp only
      rw [if_neg someone, if_neg (by rw [BitVec.not_lt]; exact enough)]
      have phase : CrashView.Phase ⟨true, false⟩ (some count) none := CrashView.Phase.uncounted
      refine .perform ⟨quiet.consistent phase, rfl⟩ fun won _ => ?_
      cases won with
      | true => exact ⟨attempts, rfl⟩
      | false =>
          apply ih (attempts + 1)
          intro dead
          have total := budget dead
          omega

/-- The end of an unsubscription, after the counters were updated. -/
theorem unsubscribeTransactionCommit_respects (quiet : view.Quiet) :
    (TransactionLog.unsubscribeTransactionCommit own :
      ControlProgram slots LogIndex Unit).Respects (crashRules mode own)
        (view.subscribing ⟨true, false⟩ maxSampleCount none attempts)
        fun _ after => after = view.subscribing .empty none none attempts := by
  have between : ∀ stored, (view.subscribing ⟨true, false⟩ stored none
      attempts).Consistent :=
    fun _ => quiet.consistent CrashView.Phase.uncounted
  have known : (view.subscribing ⟨true, false⟩ maxSampleCount none
      attempts).now.log.entry .subscribe = ⟨true, false⟩ := rfl
  have left : (view.subscribing .empty none none attempts).Consistent :=
    quiet.consistent CrashView.Phase.empty
  refine (crash_respects (between _) (expectFlags_holds known)).bind ?_
  rintro _ checked ⟨sameNow, same⟩
  rw [same.eq sameNow]
  refine .perform ⟨rfl, between none⟩ fun _ _ => ?_
  exact ⟨⟨rfl, left⟩, fun _ _ => rfl⟩

/-- From the recorded subscription to none. -/
theorem leave_respects {α : Type} (quiet : view.Quiet) (rest : ControlProgram slots LogIndex α)
    {post : α → CrashView slots → Prop} (budget : view.dead = true → attempts = 0)
    (continued : ∀ attempts, rest.Respects (crashRules mode own)
      (view.subscribing .empty none none attempts) post) :
    (do mode.limits.unsubscribe count
        TransactionLog.unsubscribeTransactionCommit own
        rest : ControlProgram slots LogIndex α).Respects (crashRules mode own)
      (view.subscribing ⟨true, false⟩ (some count) (some count) attempts)
      post := by
  refine (unsubscribeRetries_respects quiet _ attempts ?_).bind ?_
  · intro dead
    rw [budget dead]
    exact Nat.zero_add _
  · rintro _ after ⟨lost, rfl⟩
    refine (unsubscribeTransactionCommit_respects quiet).bind ?_
    rintro _ after rfl
    exact continued lost

/-- Entering the unsubscribed state gives the subscription back. -/
theorem onEntry_respects (consistent : view.Consistent) (quiet : view.Quiet)
    (alive : view.dead = false) (recorded : view.now.log.subscribeTransactions = .recorded)
    (counted : view.subscription = some count) :
    (NotSubscribedState.onEntry own mode.limits count :
      ControlProgram slots LogIndex Unit).Respects (crashRules mode own) view
        fun _ after => ∃ attempts, after = view.subscribing .empty none none attempts := by
  have small := consistent.small count counted
  obtain ⟨stored, sameCount, sameStored⟩ := consistent.subscribed recorded
  rw [counted] at sameCount
  cases sameCount
  refine .bind (subscribeTransaction_respects quiet true true .transactionEnd
    false (CrashView.eq_subscribing recorded sameStored counted)
    (CrashView.Phase.recorded small) (CrashView.Phase.counted small)) ?_
  rintro _ after rfl
  refine leave_respects quiet (.done ()) ?_ ?_
  · intro dead
    rw [alive] at dead
    cases dead
  · intro attempts
    exact ⟨attempts, rfl⟩

end Subscription

/-! ## The rollback -/

section Rollback

variable {own : LogIndex}

/-- What the rollback of the slots has done: emptied entries stay empty, and a
rollback that succeeds empties all it went through. -/
structure RolledBack (among : List (Fin slots)) (before after : LogView slots)
    (result : Except ComErrc Unit) : Prop where
  consistent : after.Consistent
  kept : ∀ slot, before.log.referenceCountSlots slot = .empty →
    after.log.referenceCountSlots slot = .empty
  error : ∀ error, result = .error error → error = .couldNotRestartProxy
  emptied : result = .ok () → ∀ slot ∈ among, after.log.referenceCountSlots slot = .empty

/-- The references of the log are given back slot by slot, without a failed
assertion, until an entry has only one of its flags. -/
theorem rollbackIncrementTransactions_respects {mode : LogMode}
    {view : LogView slots} (consistent : view.Consistent) (among : List (Fin slots)) :
    (TransactionLog.rollbackIncrementTransactions own
      dereferenceEventWithoutTransactionLogging among).Respects
        (logRules mode own) view fun result after =>
          RolledBack among view after result := by
  induction among generalizing view with
  | nil =>
      refine ⟨consistent, fun _ empty => empty, ?_, ?_⟩
      · intro error impossible
        cases impossible
      · intro _ slot member
        cases member
  | cons slotIdx rest ih =>
      rw [TransactionLog.rollbackIncrementTransactions]
      refine .perform rfl fun transactionBegin readBegin => ?_
      refine .perform rfl fun transactionEnd readEnd => ?_
      have flags : view.log.referenceCountSlots slotIdx = ⟨transactionBegin, transactionEnd⟩ := by
        rw [readBegin, readEnd]
        rfl
      have failed : RolledBack (slotIdx :: rest) view view
          (.error .couldNotRestartProxy) := by
        refine ⟨consistent, fun _ empty => empty, ?_, ?_⟩
        · intro error same
          cases same
          rfl
        · intro impossible
          cases impossible
      cases transactionBegin with
      | false =>
          cases transactionEnd with
          | true => exact failed
          | false =>
              refine (ih consistent).mono ?_
              rintro result after ⟨consistent, kept, error, emptied⟩
              refine ⟨consistent, kept, error, ?_⟩
              intro succeeded slot member
              rcases List.mem_cons.mp member with first | later
              · subst first
                exact kept slot flags
              · exact emptied succeeded slot later
      | true =>
          cases transactionEnd with
          | false => exact failed
          | true =>
              have phase := consistent.phase slotIdx
              rw [flags] at phase
              obtain ⟨timeStamp, single⟩ := List.length_eq_one_iff.mp phase
              have opened : view.Open := by
                refine ⟨consistent, fun unsubscribed => ?_⟩
                have empty := consistent.bracketed unsubscribed slotIdx
                rw [flags] at empty
                cases empty
              have unused : SlotPhase .empty ([] : List EventTimeStamp).length := rfl
              refine dereferenceSlot_open opened flags single _ ?_
              refine (ih (opened.withSlot slotIdx unused).consistent).mono ?_
              rintro result after ⟨consistent, kept, error, emptied⟩
              have keptHere : after.log.referenceCountSlots slotIdx = .empty :=
                kept slotIdx LogView.withSlot_flags
              refine ⟨consistent, ?_, error, ?_⟩
              · intro slot empty
                by_cases same : slot = slotIdx
                · subst same
                  exact keptHere
                · apply kept
                  simpa [LogView.withSlot, same] using empty
              · intro succeeded slot member
                rcases List.mem_cons.mp member with first | later
                · subst first
                  exact keptHere
                · exact emptied succeeded slot later

/-- A log without recorded slots contains no transaction on slots. -/
theorem doesLogContain_respects {mode : LogMode} {view : LogView slots} (among : List (Fin slots))
    (empty : ∀ slot, view.log.referenceCountSlots slot = .empty) :
    (TransactionLog.doesLogContainIncrementOrDecrementTransactions own among :
      ControlProgram slots LogIndex Bool).Respects (logRules mode own) view
        fun result after => result = false ∧ after = view := by
  induction among with
  | nil => exact ⟨rfl, rfl⟩
  | cons slotIdx rest ih =>
      rw [TransactionLog.doesLogContainIncrementOrDecrementTransactions]
      refine .perform rfl fun transactionBegin readBegin => ?_
      refine .perform rfl fun transactionEnd readEnd => ?_
      have noBegin : transactionBegin = false := by
        rw [readBegin]
        exact congrArg TransactionLogSlot.transactionBegin (empty slotIdx)
      have noEnd : transactionEnd = false := by
        rw [readEnd]
        exact congrArg TransactionLogSlot.transactionEnd (empty slotIdx)
      subst noBegin noEnd
      exact ih

variable {mode : CrashMode} {view : CrashView slots}

/-- The end of a rollback call: it refuses, or nothing is left. -/
def RollbackPost (result : Except ComErrc Unit) (after : CrashView slots) : Prop :=
  match result with
  | .ok () => after.Quiet ∧ after.subscription = none
  | .error error => error = .couldNotRestartProxy

/-- The subscription is given back after all slots. -/
theorem rollbackSubscribeTransactions_respects (consistent : view.Consistent)
    (quiet : view.Quiet) (fresh : view.attempts = 0) :
    (TransactionLog.rollbackSubscribeTransactions own mode.limits.unsubscribe :
      ControlProgram slots LogIndex (Except ComErrc Unit)).Respects
        (crashRules mode own) view RollbackPost := by
  refine .perform rfl fun transactionBegin readBegin => ?_
  refine .perform rfl fun transactionEnd readEnd => ?_
  have flags : view.now.log.subscribeTransactions = ⟨transactionBegin, transactionEnd⟩ := by
    rw [readBegin, readEnd]
    rfl
  cases transactionBegin with
  | false =>
      cases transactionEnd with
      | true => exact rfl
      | false => exact ⟨quiet, consistent.unsubscribed flags⟩
  | true =>
      cases transactionEnd with
      | false => exact rfl
      | true =>
          obtain ⟨count, counted, stored⟩ := consistent.subscribed flags
          have small := consistent.small count counted
          refine .bind (subscribeTransaction_respects quiet true true
            .transactionEnd false (CrashView.eq_subscribing flags stored counted)
            (CrashView.Phase.recorded small) (CrashView.Phase.counted small)) ?_
          rintro _ after rfl
          refine .perform rfl fun answer read => ?_
          have found : answer = some count := read
          subst found
          refine leave_respects quiet (.done (Except.ok ())) (fun _ => fresh) ?_
          intro attempts
          exact ⟨quiet, rfl⟩

/-- One rollback call on the log of a killed consumer. -/
theorem rollbackProxyElementLog_respects (consistent : view.Consistent)
    (fresh : view.attempts = 0) :
    (TransactionLog.rollbackProxyElementLog own
      dereferenceEventWithoutTransactionLogging mode.limits.unsubscribe :
      ControlProgram slots LogIndex (Except ComErrc Unit)).Respects
        (crashRules mode own) view RollbackPost := by
  have recorded : (TransactionLog.rollbackProxyElementLog.rollbackRecorded own
      dereferenceEventWithoutTransactionLogging mode.limits.unsubscribe :
      ControlProgram slots LogIndex (Except ComErrc Unit)).Respects
        (crashRules mode own) view RollbackPost := by
    refine (crash_respects consistent (rollbackIncrementTransactions_respects
      consistent.log (List.finRange slots))).bind ?_
    rintro result after ⟨⟨logConsistent, _, error, emptied⟩, same⟩
    cases result with
    | error reason => exact error reason rfl
    | ok _ =>
        have stillConsistent := same.consistent consistent logConsistent
        apply rollbackSubscribeTransactions_respects stillConsistent
        · intro slot
          have empty := emptied rfl slot (List.mem_finRange slot)
          have phase := logConsistent.phase slot
          rw [empty] at phase
          exact ⟨empty, List.length_eq_zero_iff.mp phase⟩
        · rw [same.attempts]
          exact fresh
  refine .perform rfl fun transactionBegin readBegin => ?_
  refine .perform rfl fun transactionEnd readEnd => ?_
  have flags : view.now.log.subscribeTransactions = ⟨transactionBegin, transactionEnd⟩ := by
    rw [readBegin, readEnd]
    rfl
  cases transactionBegin with
  | true => exact recorded
  | false =>
      cases transactionEnd with
      | true => exact recorded
      | false =>
          refine (crash_respects consistent (doesLogContain_respects _
            (consistent.log.bracketed flags))).bind ?_
          rintro contains after ⟨⟨rfl, sameNow⟩, same⟩
          rw [same.eq sameNow]
          exact .perform (fun _ => rfl) fun _ _ => recorded

end Rollback

end MwCom.Lola
