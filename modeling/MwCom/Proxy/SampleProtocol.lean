/-
Module: MwCom.Proxy.SampleProtocol
Purpose: The rules that the threads of a process keep on the log of their proxy
  event and on the guards of its tracker, and that every call of the proxy
  event keeps them.
Trusted boundary: none
Main exports: ProxyView, proxyRules, ProxyParty.AtRest, Matches,
  ProxyCall.user_respects, ProxyCall.destroy_respects
-/
import MwCom.Lola.SlotProtocol
import MwCom.Proxy.ProxyEvent

namespace MwCom

open Interleaving Lola ProxyParty

variable {slots : Nat} {LogIndex : Type}

/-- What a thread alone changes: its record and, for the user, which log is
registered and the flags of the subscription in it. -/
structure ProxyView (slots : Nat) (LogIndex : Type) where
  object : ProxyParty slots LogIndex
  registered : Option LogIndex
  flags : TransactionLogSlot

/-- When a flag of a slot may be written: the begin flag of a collected slot
for one of the guards, and the others for a slot the thread works on. -/
def ProxyView.MayFlag (view : ProxyView slots LogIndex)
    (sample : SamplePtr slots LogIndex) : LogFlag → Bool → Prop
  | .transactionBegin, true =>
      view.registered = some sample.transactionLogIdx ∧ view.flags ≠ .empty ∧
        view.object.quiet = false ∧ view.object.opening = none ∧
        0 < view.object.budget
  | .transactionEnd, true => view.object.opening = some sample
  | .transactionBegin, false => view.object.opening = some sample ∨
      (view.object.opening = none ∧ view.object.ending = none ∧ sample ∈ view.object.recorded)
  | .transactionEnd, false => view.object.ending = some sample

/-- The flags of the subscription after an operation. -/
def observeSubscription (flags : TransactionLogSlot) : ProxyOp slots LogIndex → TransactionLogSlot
  | .control (.setFlag _ .subscribe flag value) => flags.set flag value
  | .control (.markActive _ _) => .empty
  | _ => flags

/-- The registered log after an operation. -/
def observeRegistered (registered : Option LogIndex) : ProxyOp slots LogIndex → Option LogIndex
  | .control op => ProxyOp.registers registered op
  | _ => registered

variable [DecidableEq LogIndex]

/-- The view after an operation of its thread. -/
def ProxyView.observe (view : ProxyView slots LogIndex)
    (op : ProxyOp slots LogIndex) (answer : op.Ret) :
    ProxyView slots LogIndex where
  object := view.object.observe op answer
  registered := observeRegistered view.registered op
  flags := observeSubscription view.flags op

/-- The rules of a thread.  Only the `user` registers logs and writes the flags
of the subscription, both only while nothing is recorded.  With `mayReset` the
tracker may be reset. -/
def proxyRules (user mayReset : Bool) :
    Rules (ProxyOp slots LogIndex) ProxyOp.Ret (ProxyView slots LogIndex) where
  may view
    | .control (.store _ _) => False
    | .control (.compareExchangeStrong _ _ _) => False
    | .control (.setMaxSampleCount log _) => view.registered = some log
    | .control (.setFlag log (.slot slot) flag value) =>
        view.MayFlag { slotIndex := slot, transactionLogIdx := log } flag value
    | .control (.setFlag log .subscribe _ _) =>
        view.registered = some log ∧ view.object.quiet = true
    | .control (.markActive log true) =>
        user = true ∧ view.registered = none ∧ view.object.quiet = true ∧
          view.object.found = some log
    | .control (.markActive log false) =>
        user = true ∧ view.registered = some log ∧ view.object.quiet = true ∧ view.flags = .empty
    | .control _ => True
    | .lock => user = true
    | .unlock => user = true
    | .loadAvailable => True
    | .compareExchangeAvailable expected desired => desired ≤ expected
    | .fetchAddAvailable count => count ≤ view.object.guards
    | .storeAvailable _ => mayReset = true
    | .loadMaxNumSamples => True
    | .storeMaxNumSamples _ => mayReset = true
    | .handOver sample =>
        sample ∈ view.object.recorded ∧ 0 < view.object.guards
    | .giveUp _ => True
  expects _ _ _ := True
  next := ProxyView.observe

/-- The same rules, on the shared memory of the event. -/
def proxyControlRules (user mayReset : Bool) :
    Rules (ControlOp slots LogIndex) ControlOp.Ret (ProxyView slots LogIndex) where
  may view op := (proxyRules user mayReset).may view (.control op)
  expects _ _ _ := True
  next view op answer := view.observe (.control op) answer

section Calls

variable {user mayReset : Bool} {view : ProxyView slots LogIndex}
  {log : LogIndex} {slot : Fin slots}

/-- A program on the shared memory alone keeps the rules as one of the
process. -/
theorem onControl_respects {α : Type} {program : ControlProgram slots LogIndex α}
    {post : α → ProxyView slots LogIndex → Prop}
    (respected : program.Respects (proxyControlRules user mayReset) view post) :
    (ProxyProgram.onControl program).Respects (proxyRules user mayReset) view
      post := by
  unfold ProxyProgram.onControl
  apply Program.Respects.lift _ _ respected
  · intro current op may
    exact may
  · intro current op reply _
    exact ⟨trivial, rfl⟩

/-! ## Transactions -/

/-- Reading the flags of an entry changes nothing. -/
theorem expectFlags_respects (entry : LogEntry slots) (one two : Bool) :
    (TransactionLog.expectFlags log entry one two : ControlProgram slots LogIndex Unit).Respects
        (proxyControlRules user mayReset) view fun _ after => after = view :=
  ⟨trivial, fun _ _ => ⟨trivial, fun _ _ => ⟨trivial, fun _ _ =>
    ⟨trivial, fun _ _ => rfl⟩⟩⟩⟩

/-- One step of a transaction on a slot. -/
theorem slotFlag_respects (one two : Bool) (flag : LogFlag) (value : Bool)
    (may : view.MayFlag { slotIndex := slot, transactionLogIdx := log } flag value) :
    (TransactionLog.expectFlags log (.slot slot) one two >>= fun _ =>
      .perform (ControlOp.setFlag log (.slot slot) flag value) :
        ControlProgram slots LogIndex Unit).Respects
          (proxyControlRules user mayReset) view fun _ after =>
            after = { view with
              object := view.object.observeFlag
                { slotIndex := slot, transactionLogIdx := log } flag value } := by
  refine (expectFlags_respects _ one two).bind ?_
  rintro _ after rfl
  exact ⟨may, fun _ _ => rfl⟩

/-- One step of a transaction on the subscription. -/
theorem subscribeFlag_respects (one two : Bool) (flag : LogFlag)
    (value : Bool) (registered : view.registered = some log) (quiet : view.object.quiet = true) :
    (TransactionLog.expectFlags log .subscribe one two >>= fun _ =>
      .perform (ControlOp.setFlag log .subscribe flag value) :
        ControlProgram slots LogIndex Unit).Respects
          (proxyControlRules user mayReset) view fun _ after =>
            after = { view with flags := view.flags.set flag value } := by
  refine (expectFlags_respects _ one two).bind ?_
  rintro _ after rfl
  exact ⟨⟨registered, quiet⟩, fun _ _ => rfl⟩

/-- Looking up a log changes nothing while the mutex is not held. -/
theorem getTransactionLog_respects (unlocked : view.object.locked = false) :
    (TransactionLogSet.getTransactionLog log : ControlProgram slots LogIndex Unit).Respects
        (proxyControlRules user mayReset) view fun _ after => after = view := by
  refine .perform trivial fun active _ => ?_
  have unmoved : (proxyControlRules user mayReset).next view
      (ControlOp.isActive log : ControlOp slots LogIndex) active = view := by
    cases active with
    | true => rfl
    | false =>
        simp [proxyControlRules, ProxyView.observe, observe, unlocked,
          observeRegistered, observeSubscription, ProxyOp.registers]
  rw [unmoved]
  exact ⟨trivial, fun _ _ => rfl⟩

/-! ## Collecting -/

omit [DecidableEq LogIndex] in
/-- The record after some slots were collected. -/
def ProxyParty.collected (party : ProxyParty slots LogIndex)
    (samples : List (SamplePtr slots LogIndex)) : ProxyParty slots LogIndex :=
  { party with
    recorded := samples ++ party.recorded
    budget := party.budget - samples.length }

variable {party : ProxyParty slots LogIndex}

/-- A collection that is given up leaves no trace. -/
theorem ProxyParty.observeFlag_abort {sample : SamplePtr slots LogIndex}
    (closed : party.opening = none) (guarded : 0 < party.budget) :
    (party.observeFlag sample .transactionBegin true).observeFlag sample
      .transactionBegin false = party := by
  cases party with
  | mk machine opening recorded ending guards budget =>
      simp only at closed guarded
      subst closed
      simp [observeFlag, Nat.sub_add_cancel guarded]

/-- A view from which slots may be collected. -/
structure ProxyView.Collecting (view : ProxyView slots LogIndex)
    (log : LogIndex) : Prop where
  registered : view.registered = some log
  subscribed : view.flags ≠ .empty
  busy : view.object.quiet = false
  closed : view.object.opening = none
  unlocked : view.object.locked = false

omit [DecidableEq LogIndex] in
theorem ProxyView.Collecting.collected (collecting : view.Collecting log)
    (samples : List (SamplePtr slots LogIndex)) :
    ProxyView.Collecting
      { view with object := view.object.collected samples } log :=
  ⟨collecting.registered, collecting.subscribed, collecting.busy,
    collecting.closed, collecting.unlocked⟩

/-- The attempts of `referenceNextEvent`: a guard is used up only with a slot
that is recorded. -/
theorem referenceNextRetries_respects (collecting : view.Collecting log)
    (guarded : 0 < view.object.budget)
    (lastSearchTime upperLimit : EventTimeStamp) (remaining : Nat) :
    (EventDataControl.referenceNextRetries log lastSearchTime upperLimit
      remaining : ControlProgram slots LogIndex (Option (Fin slots))).Respects
        (proxyControlRules user mayReset) view fun result after =>
          match result with
          | none => after = view
          | some slot => after =
              { view with
                object := view.object.collected
                  [{ slotIndex := slot, transactionLogIdx := log }] } := by
  induction remaining with
  | zero => rfl
  | succ remaining ih =>
      rw [EventDataControl.referenceNextRetries]
      refine (EventDataControl.findCandidateAmong_respects (fun _ => trivial)
        (fun _ _ => rfl) _ _ (EventDataControl.Found.start _ _ _)).bind ?_
      rintro ⟨candidate, possibleIndex⟩ before ⟨rfl, _⟩
      cases possibleIndex with
      | none => rfl
      | some slot =>
          refine (slotFlag_respects false false .transactionBegin true
            ⟨collecting.registered, collecting.subscribed, collecting.busy,
              collecting.closed, guarded⟩).bind ?_
          rintro _ begun beginning
          have opened : begun.object.opening =
              some { slotIndex := slot, transactionLogIdx := log } := by
            rw [beginning]
            rfl
          refine .perform trivial fun won _ => ?_
          cases won with
          | true =>
              change Program.Respects _ _ begun _
              refine (slotFlag_respects true false .transactionEnd true opened).bind ?_
              rintro _ recorded rfl
              subst beginning
              simp [observeFlag, collected, collecting.closed]
          | false =>
              change Program.Respects _ _ begun _
              refine (slotFlag_respects true false .transactionBegin false (.inl opened)).bind ?_
              rintro _ closed rfl
              subst beginning
              dsimp only
              rw [observeFlag_abort collecting.closed guarded]
              exact ih

theorem referenceNextEvent_respects (collecting : view.Collecting log)
    (guarded : 0 < view.object.budget) (lastSearchTime upperLimit : EventTimeStamp) :
    (EventDataControl.referenceNextEvent log lastSearchTime upperLimit :
      ControlProgram slots LogIndex (Option (Fin slots))).Respects
        (proxyControlRules user mayReset) view fun result after =>
          match result with
          | none => after = view
          | some slot => after =
              { view with
                object := view.object.collected
                  [{ slotIndex := slot, transactionLogIdx := log }] } := by
  refine (getTransactionLog_respects collecting.unlocked).bind ?_
  rintro _ after rfl
  exact referenceNextRetries_respects collecting guarded _ _ _

/-- The samples of collected slots. -/
def samplesOf (log : LogIndex) (slotIndices : List (Fin slots)) : List (SamplePtr slots LogIndex) :=
  slotIndices.map fun slot => { slotIndex := slot, transactionLogIdx := log }

omit [DecidableEq LogIndex] in
theorem ProxyParty.collected_collected (party : ProxyParty slots LogIndex)
    (sample : SamplePtr slots LogIndex) (samples : List (SamplePtr slots LogIndex)) :
    (party.collected [sample]).collected samples = party.collected (samples ++ [sample]) := by
  simp [collected, Nat.sub_sub, Nat.add_comm]

/-- At most as many slots are collected as there are guards. -/
theorem collectRemaining_respects {collector : SlotCollector LogIndex}
    (same : collector.transactionLogIndex = log)
    (collecting : view.Collecting log) (remaining : Nat)
    (guarded : remaining ≤ view.object.budget) (currentHighest : EventTimeStamp)
    (collectedSlots : List (Fin slots)) :
    (collector.collectRemaining remaining currentHighest collectedSlots).Respects
      (proxyControlRules user mayReset) view fun result after =>
        ∃ slotIndices, result = slotIndices ++ collectedSlots ∧ slotIndices.length ≤ remaining ∧
          after = { view with
            object := view.object.collected (samplesOf log slotIndices) } := by
  subst same
  induction remaining generalizing view currentHighest collectedSlots with
  | zero => exact ⟨[], rfl, Nat.le_refl 0, rfl⟩
  | succ remaining ih =>
      rw [SlotCollector.collectRemaining]
      refine (referenceNextEvent_respects collecting
        (Nat.lt_of_lt_of_le (Nat.succ_pos _) guarded) _ _).bind ?_
      intro result after moved
      cases result with
      | none =>
          have same : after = view := moved
          exact ⟨[], rfl, Nat.zero_le _, same⟩
      | some slot =>
          dsimp only at moved
          subst moved
          refine .perform trivial fun word _ => ?_
          have room : remaining ≤ (view.object.collected
              [{ slotIndex := slot,
                 transactionLogIdx :=
                   collector.transactionLogIndex }]).budget := by
            simp only [collected, List.length_singleton]
            omega
          refine (ih room _ _ (collecting.collected _)).mono ?_
          rintro result after ⟨slotIndices, rfl, fewer, rfl⟩
          refine ⟨slotIndices ++ [slot], by simp, ?_, ?_⟩
          · simp only [List.length_append, List.length_singleton]
            omega
          · simp [collected_collected, samplesOf]

/-- Looking for the newest collected sample only reads. -/
theorem highestDelivered_respects (slotIndices : List (Fin slots)) (highest : EventTimeStamp) :
    (SlotCollector.highestDelivered slotIndices highest :
      ControlProgram slots LogIndex EventTimeStamp).Respects
        (proxyControlRules user mayReset) view fun _ after => after = view := by
  induction slotIndices generalizing highest with
  | nil => rfl
  | cons slot rest ih =>
      rw [SlotCollector.highestDelivered]
      refine .perform trivial fun word _ => ?_
      change Program.Respects _ _ view _
      dsimp only
      split
      · exact ih _
      · exact ih _

theorem getNewSamplesSlotIndices_respects {collector : SlotCollector LogIndex}
    (same : collector.transactionLogIndex = log) (collecting : view.Collecting log) (maxCount : Nat)
    (guarded : maxCount ≤ view.object.budget) :
    (collector.getNewSamplesSlotIndices maxCount :
      ControlProgram slots LogIndex (List (Fin slots) × EventTimeStamp)).Respects
        (proxyControlRules user mayReset) view fun result after =>
          result.1.length ≤ maxCount ∧
            after = { view with
              object := view.object.collected (samplesOf log result.1) } := by
  refine (collectRemaining_respects same collecting _
    (Nat.le_trans (Nat.min_le_left _ _) guarded) _ _).bind ?_
  rintro result after ⟨slotIndices, rfl, fewer, rfl⟩
  refine (highestDelivered_respects _ _).bind ?_
  rintro lastTs after rfl
  rw [List.append_nil]
  exact ⟨Nat.le_trans fewer (Nat.min_le_left _ _), rfl⟩

/-! ## Guards -/

omit [DecidableEq LogIndex] in
/-- The record of a thread with guards that wait for slots. -/
def ProxyParty.guarded (party : ProxyParty slots LogIndex) (numGuards : Nat) :
    ProxyParty slots LogIndex :=
  { party with guards := numGuards, budget := numGuards }

/-- As many guards are held as were allocated. -/
theorem allocateRetries_respects (passes numSamples numSamplesAvailable numAllocatedSamples : Nat) :
    (SampleReferenceTracker.allocateRetries passes numSamples
      numSamplesAvailable numAllocatedSamples :
        ProxyProgram slots LogIndex Nat).Respects (proxyRules user mayReset)
          { view with object := view.object.guarded numAllocatedSamples }
          fun result after =>
            after = { view with object := view.object.guarded result } := by
  induction passes generalizing numSamples numSamplesAvailable
      numAllocatedSamples with
  | zero =>
      cases numSamples with
      | zero =>
          rw [SampleReferenceTracker.allocateRetries]
          rfl
      | succ numSamples => exact ⟨trivial, fun answer => nomatch answer⟩
  | succ passes ih =>
      cases numSamples with
      | zero =>
          rw [SampleReferenceTracker.allocateRetries]
          rfl
      | succ numSamples =>
          rw [SampleReferenceTracker.allocateRetries]
          split
          · refine .perform (Nat.sub_le _ _) fun answer _ => ?_
            obtain ⟨won, found⟩ := answer
            cases won with
            | false => exact ih _ _ _
            | true =>
                have more : numSamplesAvailable -
                    (numSamplesAvailable - min numSamplesAvailable (numSamples + 1)) =
                    min numSamplesAvailable (numSamples + 1) :=
                  Nat.sub_sub_self (Nat.min_le_left _ _)
                have moved : (proxyRules user mayReset).next
                    { view with
                      object := view.object.guarded numAllocatedSamples }
                    (ProxyOp.compareExchangeAvailable numSamplesAvailable
                      (numSamplesAvailable - min numSamplesAvailable
                        (numSamples + 1))) (true, found) =
                    { view with
                      object := view.object.guarded (numAllocatedSamples +
                        min numSamplesAvailable (numSamples + 1)) } := by
                  simp only [proxyRules, ProxyView.observe, observe,
                    guarded, more, observeRegistered, observeSubscription]
                rw [moved]
                exact ih _ _ _
          · rfl

theorem allocate_respects (rest : view.object.guarded 0 = view.object) (passes numSamples : Nat) :
    (SampleReferenceTracker.allocate passes numSamples :
      ProxyProgram slots LogIndex Nat).Respects (proxyRules user mayReset) view
        fun result after =>
          after = { view with object := view.object.guarded result } := by
  refine .perform trivial fun numSamplesAvailable _ => ?_
  have allocates : (SampleReferenceTracker.allocateRetries passes numSamples
      numSamplesAvailable 0 : ProxyProgram slots LogIndex Nat).Respects
        (proxyRules user mayReset) { view with object := view.object.guarded 0 }
          fun result after =>
            after = { view with object := view.object.guarded result } :=
    allocateRetries_respects passes numSamples numSamplesAvailable 0
  rw [rest] at allocates
  exact allocates

/-- Giving guards back. -/
theorem deallocate_respects {numDeallocations : Nat}
    (held : numDeallocations ≤ view.object.guards) :
    (SampleReferenceTracker.deallocate numDeallocations :
      ProxyProgram slots LogIndex Unit).Respects (proxyRules user mayReset) view
        fun _ after => after = { view with
          object := view.object.observe
            (ProxyOp.fetchAddAvailable numDeallocations) () } := by
  refine .perform held fun _ _ => ?_
  exact ⟨trivial, fun _ _ => ⟨trivial, fun _ _ => ⟨trivial, fun _ _ => rfl⟩⟩⟩

/-- Every collected slot leaves with one guard. -/
theorem handOverSamples_respects (slotIndices : List (Fin slots))
    (numGuards : Nat) (enough : slotIndices.length ≤ numGuards)
    (party : ProxyParty slots LogIndex) :
    (Lola.ProxyEvent.handOverSamples log slotIndices numGuards).Respects
      (proxyRules user mayReset)
      { view with
        object :=
          { party with
            recorded := samplesOf log slotIndices
            guards := numGuards
            budget := numGuards - slotIndices.length } }
      fun left after => after =
        { view with
          object :=
            { party with recorded := [], guards := left, budget := left } } := by
  induction slotIndices generalizing numGuards with
  | nil => rfl
  | cons slot rest ih =>
      cases numGuards with
      | zero => exact absurd enough (Nat.not_succ_le_zero _)
      | succ numGuards =>
          have fewer : rest.length ≤ numGuards := Nat.le_of_succ_le_succ enough
          refine .perform ⟨List.mem_cons_self, Nat.succ_pos _⟩ fun _ _ => ?_
          have continued := ih numGuards fewer
          simpa [proxyRules, ProxyView.observe, observe, samplesOf,
            observeRegistered, observeSubscription] using continued

/-! ## The calls -/

omit [DecidableEq LogIndex] in
/-- The record of a thread between two calls. -/
structure ProxyParty.AtRest (party : ProxyParty slots LogIndex) : Prop where
  closed : party.opening = none
  nothing : party.recorded = []
  ended : party.ending = none
  noGuards : party.guards = 0
  noBudget : party.budget = 0
  allReleased : party.released = 0
  unlocked : party.locked = false
  notFound : party.found = none

/-- How the state machine fits to the log between two calls. -/
inductive Matches : SubscriptionStateMachine LogIndex → ProxyView slots LogIndex → Prop where
  | notSubscribed {machine : SubscriptionStateMachine LogIndex}
      {view : ProxyView slots LogIndex}
      (state : machine.currentState = .notSubscribedState)
      (unregistered : view.registered = none) (noFlags : view.flags = .empty) :
      Matches machine view
  | subscribed {machine : SubscriptionStateMachine LogIndex}
      {view : ProxyView slots LogIndex} {log : LogIndex}
      {collector : SlotCollector LogIndex} {maxSampleCount : BitVec 16}
      (state : machine.currentState ≠ .notSubscribedState)
      (guard : machine.transactionLogRegistrationGuard = some log)
      (collects : machine.slotCollector = some collector)
      (sameLog : collector.transactionLogIndex = log)
      (count : machine.maxSampleCount = some maxSampleCount)
      (registered : view.registered = some log)
      (flags : view.flags = .recorded) : Matches machine view

/-- What a call guarantees. -/
structure AfterCall (machine : SubscriptionStateMachine LogIndex)
    (view : ProxyView slots LogIndex) : Prop where
  rest : view.object.AtRest
  fits : Matches machine view

omit [DecidableEq LogIndex] in
theorem ProxyParty.AtRest.guarded (rest : party.AtRest) : party.guarded 0 = party := by
  have noGuards := rest.noGuards
  have noBudget := rest.noBudget
  cases party with
  | mk machine opening recorded ending guards budget =>
      simp only at noGuards noBudget
      subst noGuards noBudget
      rfl

/-- A slot whose guard was given back is given back as well. -/
theorem dereferenceEvent_respects {sample : SamplePtr slots LogIndex} (rest : party.AtRest) :
    (EventDataControl.dereferenceEvent sample.slotIndex
      sample.transactionLogIdx : ControlProgram slots LogIndex Unit).Respects
        (proxyControlRules user mayReset)
        { view with
          object := { party with recorded := [sample], released := 1 } }
        fun _ after => after = { view with object := party } := by
  obtain ⟨closed, nothing, ended, noGuards, noBudget, allReleased, unlocked, notFound⟩ := rest
  refine (getTransactionLog_respects unlocked).bind ?_
  rintro _ after rfl
  refine (slotFlag_respects true true .transactionBegin false
    (.inr ⟨closed, ended, List.mem_singleton.mpr rfl⟩)).bind ?_
  intro _ begun beginning
  have ending : begun.object.ending = some sample := by
    rw [beginning]
    simp [observeFlag, closed]
  refine .perform trivial fun _ _ => ?_
  change Program.Respects _ _ begun _
  refine (slotFlag_respects false true .transactionEnd false ending).mono ?_
  rintro _ after rfl
  subst beginning
  cases party with
  | mk machine opening recorded ended guards budget released =>
      simp only at closed nothing ended allReleased
      subst closed nothing ended allReleased
      simp [observeFlag]

/-- A sample is destroyed: guard first, then slot. -/
theorem destroy_respects (rest : view.object.AtRest) (sample : SamplePtr slots LogIndex) :
    (sample.destroy : ProxyProgram slots LogIndex Unit).Respects
      (proxyRules user mayReset) view fun _ after => after = view := by
  refine .perform trivial fun _ _ => ?_
  have one : 1 ≤ ((proxyRules user mayReset).next view (ProxyOp.giveUp sample)
      ()).object.guards := Nat.le_add_left 1 _
  refine (deallocate_respects one).bind ?_
  intro _ after moved
  have released : after = { view with
      object := { view.object with recorded := [sample], released := 1 } } := by
    subst moved
    simp [proxyRules, ProxyView.observe, observe, rest.nothing,
      rest.noBudget, rest.allReleased, observeRegistered, observeSubscription]
  subst released
  exact onControl_respects (dereferenceEvent_respects rest)

/-- The guards that are left are given back. -/
theorem destroyGuardFactory_respects (numGuards : Nat) (rest : party.AtRest) :
    (ProxyEvent.destroyGuardFactory numGuards :
      ProxyProgram slots LogIndex Unit).Respects (proxyRules user mayReset)
        { view with object := party.guarded numGuards } fun _ after =>
          after = { view with object := party } := by
  have returned : (party.guarded numGuards).observe
      (ProxyOp.fetchAddAvailable numGuards) () = party := by
    rw [← rest.guarded]
    simp [observe, guarded]
  unfold ProxyEvent.destroyGuardFactory
  split
  · refine (deallocate_respects (Nat.le_refl numGuards)).mono ?_
    rintro _ after rfl
    dsimp only
    rw [returned]
  · rename_i none
    have zero : numGuards = 0 := Nat.eq_zero_of_not_pos none
    subst zero
    rw [rest.guarded]
    rfl

variable {machine : SubscriptionStateMachine LogIndex}

omit [DecidableEq LogIndex] in
/-- The state machine is about the log alone. -/
theorem Matches.withObject (fits : Matches machine view) (party : ProxyParty slots LogIndex) :
    Matches machine { view with object := party } := by
  cases fits with
  | notSubscribed state unregistered noFlags =>
      exact .notSubscribed state unregistered noFlags
  | subscribed state guard collects sameLog count registered flags =>
      exact .subscribed state guard collects sameLog count registered flags

/-- The binding turns guards into samples of the user. -/
theorem bindingGetNewSamples_respects (rest : party.AtRest) (fits : Matches machine view)
    (busy : machine.currentState = .subscribedState → party.quiet = false) (numGuards : Nat) :
    (Lola.ProxyEvent.getNewSamples machine numGuards :
      ProxyProgram slots LogIndex _).Respects (proxyRules user mayReset)
        { view with object := party.guarded numGuards } fun result after =>
          after = { view with object := party.guarded result.2.2 } ∧ Matches result.1 view := by
  unfold Lola.ProxyEvent.getNewSamples
  split
  · rename_i subscribed
    cases fits with
    | notSubscribed state _ _ =>
        rw [subscribed] at state
        cases state
    | @subscribed log collector count state guard collects sameLog counted
        registered flags =>
        rw [guard, collects]
        dsimp only
        have collecting : ProxyView.Collecting
            { view with object := party.guarded numGuards } log := by
          refine ⟨registered, ?_, busy subscribed, rest.closed, rest.unlocked⟩
          rw [flags]
          intro impossible
          cases impossible
        refine (onControl_respects (getNewSamplesSlotIndices_respects sameLog
          collecting numGuards (Nat.le_refl _))).bind ?_
        rintro ⟨slotIndices, lastTs⟩ after ⟨fewer, rfl⟩
        have taken : (party.guarded numGuards).collected
            (samplesOf log slotIndices) =
              { party with
                recorded := samplesOf log slotIndices
                guards := numGuards
                budget := numGuards - slotIndices.length } := by
          simp [collected, guarded, rest.nothing, samplesOf]
        dsimp only
        rw [taken]
        refine (handOverSamples_respects slotIndices numGuards fewer party).bind ?_
        rintro left after rfl
        constructor
        · simp [guarded, ← rest.nothing]
        · exact .subscribed state rfl rfl sameLog counted registered flags
  · exact ⟨rfl, fits⟩

/-- `getNewSamples` ends with all guards given back or handed over. -/
theorem getNewSamples_respects (rest : view.object.AtRest) (fits : Matches machine view)
    (busy : machine.currentState = .subscribedState → view.object.quiet = false)
    (passes maxNumSamples : Nat) :
    (ProxyEvent.getNewSamples machine passes maxNumSamples :
      ProxyProgram slots LogIndex _).Respects (proxyRules user mayReset) view
        fun result after => after = view ∧ Matches result.1 view := by
  refine (allocate_respects rest.guarded passes maxNumSamples).bind ?_
  rintro numGuards after rfl
  split
  · rename_i none
    subst none
    rw [rest.guarded]
    exact ⟨rfl, fits⟩
  · refine (bindingGetNewSamples_respects rest fits busy numGuards).bind ?_
    rintro ⟨next, result, left⟩ after ⟨rfl, stillFits⟩
    refine (destroyGuardFactory_respects left rest).bind ?_
    rintro _ after rfl
    cases result with
    | ok numSamples => exact ⟨rfl, stillFits⟩
    | error error => cases error <;> exact ⟨rfl, stillFits⟩

/-! ## Registering a log -/

/-- Looking for transactions only reads. -/
theorem doesLogContain_respects (among : List (Fin slots)) :
    (TransactionLog.doesLogContainIncrementOrDecrementTransactions log among :
      ControlProgram slots LogIndex Bool).Respects
        (proxyControlRules user mayReset) view fun _ after => after = view := by
  induction among with
  | nil => rfl
  | cons slot rest ih =>
      rw [TransactionLog.doesLogContainIncrementOrDecrementTransactions]
      refine .perform trivial fun transactionBegin _ => ?_
      refine .perform trivial fun transactionEnd _ => ?_
      change Program.Respects _ _ view _
      split
      · rfl
      · exact ih

theorem containsTransactions_respects :
    (TransactionLog.containsTransactions log : ControlProgram slots LogIndex Bool).Respects
        (proxyControlRules user mayReset) view fun _ after => after = view := by
  refine .perform trivial fun transactionBegin _ => ?_
  refine .perform trivial fun transactionEnd _ => ?_
  change Program.Respects _ _ view _
  split
  · rfl
  · exact doesLogContain_respects _

/-- The view while the mutex is held, from when the log that will be registered
was found. -/
def ProxyView.searching (view : ProxyView slots LogIndex)
    (found : Option LogIndex) : ProxyView slots LogIndex :=
  { view with object := { view.object with locked := true, found } }

omit [DecidableEq LogIndex] in
/-- Unlocking ends the search. -/
theorem ProxyView.unlock_searching (rest : view.object.AtRest) (found : Option LogIndex) :
    { view with
      object :=
        { (view.searching found).object with locked := false, found := none } } =
      view := by
  have unlocked : { view.object with locked := false, found := none } = view.object := by
    rw [← rest.unlocked, ← rest.notFound]
  simp only [searching, unlocked]

/-- The search for a log that is not active. -/
theorem findNextAvailable_respects (view : ProxyView slots LogIndex)
    (transactionLogs : List LogIndex) (before : Option LogIndex) :
    (TransactionLogSet.findNextAvailableSlotIndex transactionLogs :
      ProxyProgram slots LogIndex (Option LogIndex)).Respects
        (proxyRules user mayReset) (view.searching before) fun result after =>
          after = view.searching (result.or before) := by
  induction transactionLogs with
  | nil => rfl
  | cons log rest ih =>
      rw [TransactionLogSet.findNextAvailableSlotIndex]
      refine .perform trivial fun active _ => ?_
      cases active with
      | true => exact ih
      | false => rfl

/-- Registering a log: one that was not active, if there is one. -/
theorem registerProxyElement_respects (byUser : user = true)
    (rest : view.object.AtRest) (unregistered : view.registered = none)
    (noFlags : view.flags = .empty) (quiet : view.object.quiet = true)
    (transactionLogs : List LogIndex) :
    (TransactionLogSet.registerProxyElement transactionLogs :
      ProxyProgram slots LogIndex (Except ComErrc LogIndex)).Respects
        (proxyRules user mayReset) view fun result after =>
          match result with
          | .ok log => after = { view with registered := some log }
          | .error _ => after = view := by
  refine .perform byUser fun _ _ => ?_
  refine (findNextAvailable_respects view transactionLogs view.object.found).bind ?_
  rintro result after rfl
  cases result with
  | none =>
      exact .perform byUser fun _ _ => ProxyView.unlock_searching rest _
  | some log =>
      refine .perform ⟨byUser, unregistered, quiet, rfl⟩ fun _ _ => ?_
      refine .perform trivial fun _ _ => ?_
      refine (onControl_respects containsTransactions_respects).bind ?_
      rintro contained after rfl
      refine .perform trivial fun _ _ => ?_
      have unlocks := ProxyView.unlock_searching rest (some log)
      have registered := congrArg (fun unlocked : ProxyView slots LogIndex =>
        { unlocked with registered := some log, flags := .empty }) unlocks
      have sameFlags : { view with registered := some log, flags := .empty } =
          { view with registered := some log } := by
        rw [← noFlags]
      exact .perform byUser fun _ _ => registered.trans sameFlags

/-- Unregistering the log, in which nothing is recorded. -/
theorem unregisterLocked_respects (byUser : user = true)
    (rest : view.object.AtRest) (registered : view.registered = some log)
    (noFlags : view.flags = .empty) (quiet : view.object.quiet = true) :
    (TransactionLogSet.unregisterLocked log :
      ProxyProgram slots LogIndex Unit).Respects (proxyRules user mayReset) view
        fun _ after => after = { view with registered := none } := by
  refine .perform byUser fun _ _ => ?_
  have resets : (TransactionLogSet.unregister log : ControlProgram slots LogIndex Unit).Respects
        (proxyControlRules user mayReset)
        { view with object := { view.object with locked := true } }
        fun _ after =>
          after = { view.searching none with registered := none } := by
    refine containsTransactions_respects.bind ?_
    rintro contained after rfl
    refine .perform trivial fun _ _ => ?_
    refine .perform ⟨byUser, registered, quiet, noFlags⟩ fun _ _ => ?_
    have cleared : { view with
        object := { view.object with locked := true, found := none }
        registered := none
        flags := .empty } = { view.searching none with registered := none } := by
      rw [ProxyView.searching, ← noFlags]
    exact ⟨trivial, fun _ _ => cleared⟩
  refine (onControl_respects resets).bind ?_
  rintro _ after rfl
  have unlocks := congrArg (fun unlocked : ProxyView slots LogIndex =>
    { unlocked with registered := none }) (ProxyView.unlock_searching rest none)
  exact ⟨byUser, fun _ _ => unlocks⟩

/-! ## Subscribing -/

/-- Entering the subscription touches its counters only. -/
theorem subscribeRetries_respects (limits : EventSubscriptionControl)
    (slotCount : BitVec 16) (remaining : Nat) :
    (limits.subscribeRetries slotCount remaining :
      ControlProgram slots LogIndex SubscribeResult).Respects
        (proxyControlRules user mayReset) view fun _ after => after = view := by
  induction remaining with
  | zero => rfl
  | succ remaining ih =>
      rw [EventSubscriptionControl.subscribeRetries]
      refine .perform trivial fun currentState _ => ?_
      change Program.Respects _ _ view _
      dsimp only
      split
      · rfl
      · split
        · rfl
        · refine .perform trivial fun won _ => ?_
          cases won with
          | true => rfl
          | false => exact ih

/-- So does leaving it. -/
theorem unsubscribeRetries_respects (slotCount : BitVec 16) (remaining : Nat) :
    (EventSubscriptionControl.unsubscribeRetries slotCount remaining :
      ControlProgram slots LogIndex Unit).Respects
        (proxyControlRules user mayReset) view fun _ after => after = view := by
  induction remaining with
  | zero => exact ⟨trivial, fun answer => nomatch answer⟩
  | succ remaining ih =>
      rw [EventSubscriptionControl.unsubscribeRetries]
      refine .perform trivial fun currentState _ => ?_
      change Program.Respects _ _ view _
      dsimp only
      split
      · exact ⟨trivial, fun answer => nomatch answer⟩
      · split
        · exact ⟨trivial, fun answer => nomatch answer⟩
        · refine .perform trivial fun won _ => ?_
          cases won with
          | true => rfl
          | false => exact ih

/-- A subscription is recorded, or leaves no flags. -/
theorem subscribeEvent_respects (registered : view.registered = some log)
    (noFlags : view.flags = .empty) (quiet : view.object.quiet = true)
    (limits : EventSubscriptionControl) (maxSampleCount : BitVec 16) :
    (NotSubscribedState.subscribeEvent log limits maxSampleCount :
      ControlProgram slots LogIndex (Except ComErrc Unit)).Respects
        (proxyControlRules user mayReset) view fun result after =>
          match result with
          | .ok () => after = { view with flags := .recorded }
          | .error _ => after = view := by
  have begins : (TransactionLog.subscribeTransactionBegin log maxSampleCount :
      ControlProgram slots LogIndex Unit).Respects
        (proxyControlRules user mayReset) view fun _ after =>
          after = { view with flags := ⟨true, false⟩ } := by
    refine (expectFlags_respects _ false false).bind ?_
    rintro _ after rfl
    refine .perform ⟨registered, quiet⟩ fun _ _ => ?_
    have begun : { after with flags := after.flags.set .transactionBegin true } =
        { after with flags := ⟨true, false⟩ } := by
      rw [noFlags]
      rfl
    exact ⟨registered, fun _ _ => begun⟩
  refine begins.bind ?_
  rintro _ after rfl
  refine (subscribeRetries_respects limits maxSampleCount _).bind ?_
  rintro result after rfl
  cases result with
  | success =>
      refine .bind (subscribeFlag_respects true false .transactionEnd true registered quiet) ?_
      rintro _ after rfl
      rfl
  | _ =>
      refine .perform trivial fun _ _ => ?_
      refine .bind (subscribeFlag_respects true false .transactionBegin false registered quiet) ?_
      rintro _ after rfl
      have cleared : { view with flags := .empty } = view := by
        rw [← noFlags]
      exact cleared

/-- The subscription is given back with its flags. -/
theorem onEntry_respects (registered : view.registered = some log)
    (flags : view.flags = .recorded) (quiet : view.object.quiet = true)
    (limits : EventSubscriptionControl) (maxSampleCount : BitVec 16) :
    (NotSubscribedState.onEntry log limits maxSampleCount :
      ControlProgram slots LogIndex Unit).Respects
        (proxyControlRules user mayReset) view fun _ after =>
          after = { view with flags := .empty } := by
  refine (subscribeFlag_respects true true .transactionEnd false registered quiet).bind ?_
  rintro _ after rfl
  rw [flags]
  refine (unsubscribeRetries_respects maxSampleCount _).bind ?_
  rintro _ after rfl
  refine (expectFlags_respects _ true false).bind ?_
  rintro _ after rfl
  refine .perform registered fun _ _ => ?_
  exact ⟨⟨registered, quiet⟩, fun _ _ => rfl⟩

/-- The state machine subscribes: it ends with a log that is registered and a
subscription recorded in it, or with neither. -/
theorem subscribeNotSubscribed_respects (byUser : user = true) (rest : view.object.AtRest)
    (state : machine.currentState = .notSubscribedState) (unregistered : view.registered = none)
    (noFlags : view.flags = .empty) (quiet : view.object.quiet = true)
    (limits : EventSubscriptionControl) (transactionLogs : List LogIndex) (maxSampleCount : Nat) :
    (machine.subscribeNotSubscribed limits transactionLogs maxSampleCount :
      ProxyProgram slots LogIndex _).Respects (proxyRules user mayReset) view
        fun result after => AfterCall result.1 after := by
  refine (registerProxyElement_respects byUser rest unregistered noFlags quiet
    transactionLogs).bind ?_
  intro registration after registered
  cases registration with
  | error error =>
      dsimp only at registered
      subst registered
      exact ⟨rest, .notSubscribed state unregistered noFlags⟩
  | ok log =>
      dsimp only at registered
      subst registered
      refine .bind (onControl_respects (getTransactionLog_respects rest.unlocked)) ?_
      rintro _ after rfl
      have subscribes : (NotSubscribedState.subscribeEvent log limits
          (BitVec.ofNat 16 maxSampleCount) : ControlProgram slots LogIndex _).Respects
              (proxyControlRules user mayReset)
              { view with registered := some log } _ :=
        subscribeEvent_respects rfl (by exact noFlags) (by exact quiet) limits _
      refine .bind (onControl_respects subscribes) ?_
      intro result after subscribed
      cases result with
      | error error =>
          dsimp only at subscribed
          subst subscribed
          refine .bind (unregisterLocked_respects byUser rest rfl noFlags quiet) ?_
          rintro _ after rfl
          exact ⟨rest, .notSubscribed state rfl noFlags⟩
      | ok _ =>
          dsimp only at subscribed
          subst subscribed
          refine ⟨rest, .subscribed ?_ rfl rfl rfl rfl rfl rfl⟩
          dsimp only
          split
          · intro impossible
            cases impossible
          · intro impossible
            cases impossible

/-- The state machine unsubscribes: no log stays registered. -/
theorem unsubscribeEvent_respects (byUser : user = true) (rest : view.object.AtRest)
    (fits : Matches machine view) (quiet : view.object.quiet = true)
    (limits : EventSubscriptionControl) :
    (machine.unsubscribeEvent limits :
      ProxyProgram slots LogIndex _).Respects (proxyRules user mayReset) view
        fun result after => AfterCall result after := by
  cases fits with
  | notSubscribed state unregistered noFlags =>
      rw [SubscriptionStateMachine.unsubscribeEvent, state]
      exact ⟨rest, .notSubscribed state unregistered noFlags⟩
  | @subscribed log collector count state guard collects sameLog counted
      registered flags =>
      have leaves : (machine.onEntryNotSubscribed limits :
          ProxyProgram slots LogIndex _).Respects (proxyRules user mayReset) view
            fun result after => AfterCall result after := by
        rw [SubscriptionStateMachine.onEntryNotSubscribed, guard, counted]
        refine (onControl_respects (getTransactionLog_respects rest.unlocked)).bind ?_
        rintro _ after rfl
        refine (onControl_respects (onEntry_respects registered flags quiet limits count)).bind ?_
        rintro _ cleared rfl
        refine .bind (unregisterLocked_respects byUser rest registered rfl quiet) ?_
        rintro _ last rfl
        exact ⟨rest, .notSubscribed rfl rfl rfl⟩
      rw [SubscriptionStateMachine.unsubscribeEvent]
      cases current : machine.currentState with
      | notSubscribedState => exact absurd current state
      | subscribedState | subscriptionPendingState => exact leaves

/-! ## The calls of the user -/

/-- A subscription of the proxy event. -/
theorem subscribe_respects (byUser : user = true) (resets : mayReset = true)
    (rest : view.object.AtRest) (fits : Matches machine view)
    (quiet : machine.currentState = .notSubscribedState → view.object.quiet = true)
    (limits : EventSubscriptionControl) (transactionLogs : List LogIndex) (maxSampleCount : Nat) :
    (ProxyEventBase.subscribe limits machine transactionLogs maxSampleCount :
      ProxyProgram slots LogIndex _).Respects (proxyRules user mayReset) view
        fun result after => AfterCall result.1 after := by
  rw [ProxyEventBase.subscribe]
  cases current : machine.currentState with
  | notSubscribedState =>
      cases fits with
      | subscribed state _ _ _ _ _ _ => exact absurd current state
      | notSubscribed state unregistered noFlags =>
          have subscribes : (machine.subscribeEvent limits transactionLogs
              maxSampleCount : ProxyProgram slots LogIndex _).Respects
                (proxyRules user mayReset) view
                fun result after => AfterCall result.1 after := by
            rw [SubscriptionStateMachine.subscribeEvent, current]
            exact subscribeNotSubscribed_respects byUser rest state unregistered
              noFlags (quiet current) limits transactionLogs maxSampleCount
          refine .perform resets fun _ _ => ?_
          refine .perform resets fun _ _ => ?_
          refine .perform trivial fun _ _ => ?_
          refine subscribes.bind ?_
          rintro ⟨next, result⟩ after finished
          cases result with
          | ok _ => exact finished
          | error _ => exact finished
  | _ =>
      dsimp only
      split
      · split
        · exact ⟨rest, fits⟩
        · exact ⟨rest, fits⟩
      · exact ⟨trivial, fun answer => nomatch answer⟩

/-- The end of a subscription, after which the tracker is asked. -/
theorem unsubscribe_respects (byUser : user = true) (rest : view.object.AtRest)
    (fits : Matches machine view) (quiet : view.object.quiet = true)
    (limits : EventSubscriptionControl) :
    (ProxyEventBase.unsubscribe limits machine :
      ProxyProgram slots LogIndex _).Respects (proxyRules user mayReset) view
        fun result after => AfterCall result after := by
  have leaves : (machine.unsubscribeEvent limits >>= fun machine => do
      if ← SampleReferenceTracker.isUsed then
        ProxyProgram.terminate
      else
        pure machine : ProxyProgram slots LogIndex (SubscriptionStateMachine LogIndex)).Respects
        (proxyRules user mayReset) view
        fun result after => AfterCall result after := by
    refine (unsubscribeEvent_respects byUser rest fits quiet limits).bind ?_
    intro next after finished
    refine .perform trivial fun numAvailableSamples _ => ?_
    refine .perform trivial fun maxNumSamples _ => ?_
    change Program.Respects _ _ after _
    dsimp only [Program.pure_eq_done, Program.done_bind]
    split
    · exact ⟨trivial, fun answer => nomatch answer⟩
    · exact finished
  rw [ProxyEventBase.unsubscribe]
  cases machine.currentState with
  | notSubscribedState => exact ⟨rest, fits⟩
  | subscribedState => exact leaves
  | subscriptionPendingState => exact leaves

omit [DecidableEq LogIndex] in
/-- Whether the provider is there changes neither log nor registration. -/
theorem Matches.reOfferEvent (fits : Matches machine view) : Matches machine.reOfferEvent view := by
  rw [SubscriptionStateMachine.reOfferEvent]
  cases fits with
  | notSubscribed state unregistered noFlags =>
      simp only [state]
      exact .notSubscribed rfl unregistered noFlags
  | subscribed state guard collects sameLog count registered flags =>
      split
      · rename_i notSubscribed
        exact absurd notSubscribed state
      · exact .subscribed state guard collects sameLog count registered flags
      · refine .subscribed ?_ guard collects sameLog count registered flags
        intro impossible
        cases impossible

theorem stopOfferEvent_respects (rest : view.object.AtRest) (fits : Matches machine view) :
    (machine.stopOfferEvent : ProxyProgram slots LogIndex _).Respects
      (proxyRules user mayReset) view fun result after =>
        AfterCall result after := by
  rw [SubscriptionStateMachine.stopOfferEvent]
  split
  · rename_i current
    cases fits with
    | notSubscribed _ unregistered noFlags =>
        exact ⟨rest, .notSubscribed current unregistered noFlags⟩
    | subscribed state _ _ _ _ _ _ => exact absurd current state
  · rename_i current
    cases fits with
    | notSubscribed state _ _ =>
        rw [current] at state
        cases state
    | subscribed state guard collects sameLog count registered flags =>
        refine ⟨rest, .subscribed ?_ guard collects sameLog count registered flags⟩
        intro impossible
        cases impossible
  · exact ⟨trivial, fun answer => nomatch answer⟩

/-- Whether a call may start from a record. -/
structure ProxyCall.Ready (machine : SubscriptionStateMachine LogIndex)
    (party : ProxyParty slots LogIndex) (call : ProxyCall slots LogIndex) :
    Prop where
  resets : ∀ maxSampleCount, call = .subscribe maxSampleCount →
    machine.currentState = .notSubscribedState → party.quiet = true
  leaves : call = .unsubscribe → party.quiet = true
  collects : ∀ passes maxNumSamples, call = .getNewSamples passes maxNumSamples →
    machine.currentState = .subscribedState → party.quiet = false

/-- Every call of the user keeps the rules. -/
theorem ProxyCall.user_respects (byUser : user = true) (call : ProxyCall slots LogIndex)
    (resets : ∀ maxSampleCount, call = .subscribe maxSampleCount → mayReset = true)
    (rest : view.object.AtRest) (fits : Matches machine view)
    (ready : call.Ready machine view.object) (limits : EventSubscriptionControl)
    (transactionLogs : List LogIndex) :
    (call.code limits transactionLogs machine).Respects
      (proxyRules user mayReset) view fun reply after =>
        AfterCall reply.machine after := by
  cases call with
  | subscribe maxSampleCount =>
      refine (subscribe_respects byUser (resets _ rfl) rest fits
        (ready.resets _ rfl) limits transactionLogs maxSampleCount).bind ?_
      rintro ⟨next, result⟩ after finished
      exact finished
  | unsubscribe =>
      refine (unsubscribe_respects byUser rest fits (ready.leaves rfl) limits).bind ?_
      intro next after finished
      exact finished
  | getNewSamples passes maxNumSamples =>
      refine (getNewSamples_respects rest fits (ready.collects _ _ rfl) passes
        maxNumSamples).bind ?_
      rintro ⟨next, result⟩ after ⟨rfl, stillFits⟩
      exact ⟨rest, stillFits⟩
  | destroy sample =>
      refine (destroy_respects rest sample).bind ?_
      rintro _ after rfl
      exact ⟨rest, fits⟩
  | notifyServiceInstanceChangedAvailability isAvailable =>
      cases isAvailable with
      | true => exact ⟨rest, fits.reOfferEvent⟩
      | false =>
          refine (stopOfferEvent_respects rest fits).bind ?_
          intro next after finished
          exact finished

/-- So does the destruction of a sample on another thread. -/
theorem ProxyCall.destroy_respects (rest : view.object.AtRest) (sample : SamplePtr slots LogIndex)
    (limits : EventSubscriptionControl) (transactionLogs : List LogIndex) :
    ((ProxyCall.destroy sample).code limits transactionLogs machine).Respects
      (proxyRules user mayReset) view fun _ after => after = view := by
  refine (MwCom.destroy_respects rest sample).bind ?_
  rintro _ after rfl
  rfl

end Calls

end MwCom
