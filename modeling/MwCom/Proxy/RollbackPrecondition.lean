/-
Module: MwCom.Proxy.RollbackPrecondition
Purpose: What a process leaves in the log of its proxy event, wherever it ends,
  and whether the rollback of that log passes its assertions.
Trusted boundary: none
Main exports: TransactionLog.RollbackPrecondition,
  rollbackProxyElementLog_respects_iff, RollbackLaw, rollbackLaw_of_reached,
  rollbackLaw_violated
-/
import MwCom.Proxy.SampleClaims

namespace MwCom

open Interleaving Lola EventDataControl

variable {slots : Nat} {LogIndex Worker : Type}

namespace Lola.TransactionLog

/-- What `rollbackProxyElementLog` asserts: without a subscription no slot is
recorded. -/
def RollbackPrecondition (log : TransactionLog slots) : Prop := log.subscribeTransactions = .empty →
    ∀ slot, log.referenceCountSlots slot = .empty

/-- A rollback is alone with its log: it reads the flags that are there, and no
assertion may fail. -/
def rollbackRules [DecidableEq LogIndex] (own : LogIndex) :
    Rules (ControlOp slots LogIndex) ControlOp.Ret (TransactionLog slots) where
  may _
    | .check _ condition => condition = true
    | _ => True
  expects log
    | .getFlag other entry flag, answer =>
        other = own → answer = (log.entry entry).get flag
    | _, _ => True
  next log
    | .setFlag other entry flag value, _ =>
        if other = own then log.setFlag entry flag value else log
    | _, _ => log

section Rollback

variable [DecidableEq LogIndex] {own : LogIndex} {log : TransactionLog slots}

variable {entry : LogEntry slots} {one two : Bool}

/-- A step of a transaction passes its assertions where the flags are as it
expects. -/
theorem expectFlags_passes (flags : log.entry entry = ⟨one, two⟩) :
    (expectFlags own entry one two : ControlProgram slots LogIndex Unit).Respects
      (rollbackRules own) log fun _ after => after = log := by
  have one_eq : (log.entry entry).get .transactionBegin = one := by
    rw [flags]
    rfl
  have two_eq : (log.entry entry).get .transactionEnd = two := by
    rw [flags]
    rfl
  refine .perform trivial fun transactionBegin begins => ?_
  have sameBegin : transactionBegin = one := (begins rfl).trans one_eq
  cases sameBegin
  refine .perform (beq_self_eq_true _) fun _ _ => ?_
  refine .perform trivial fun transactionEnd ends => ?_
  have sameEnd : transactionEnd = two := (ends rfl).trans two_eq
  cases sameEnd
  exact ⟨beq_self_eq_true _, fun _ _ => rfl⟩

/-- One step of a transaction. -/
theorem flag_passes (flags : log.entry entry = ⟨one, two⟩) (flag : LogFlag) (value : Bool) :
    (expectFlags own entry one two >>= fun _ =>
      .perform (ControlOp.setFlag own entry flag value) :
        ControlProgram slots LogIndex Unit).Respects (rollbackRules own) log
          fun _ after => after = log.setFlag entry flag value := by
  refine (expectFlags_passes flags).bind ?_
  rintro _ after rfl
  refine ⟨trivial, fun _ _ => ?_⟩
  exact if_pos rfl

/-- What the search for recorded slots finds. -/
def Recorded (log : TransactionLog slots) (among : List (Fin slots)) : Prop :=
  ∃ slot ∈ among, log.referenceCountSlots slot ≠ .empty

theorem recorded_nil : false = true ↔ log.Recorded [] := by
  simp [Recorded]

theorem recorded_cons {slot : Fin slots} {rest : List (Fin slots)}
    (flags : log.entry (.slot slot) = ⟨one, two⟩) :
    log.Recorded (slot :: rest) ↔ (one || two) = true ∨ log.Recorded rest := by
  have slotFlags : log.referenceCountSlots slot = ⟨one, two⟩ := flags
  have recorded : log.referenceCountSlots slot ≠ .empty ↔ (one || two) = true := by
    rw [slotFlags]
    cases one <;> cases two <;> simp [TransactionLogSlot.empty]
  simp [Recorded, recorded]

theorem flags_of_reads (begins : one = (log.entry entry).get .transactionBegin)
    (ends : two = (log.entry entry).get .transactionEnd) :
    log.entry entry = ⟨one, two⟩ := by
  rw [begins, ends]
  rfl

theorem doesLogContain_passes (among : List (Fin slots)) :
    (doesLogContainIncrementOrDecrementTransactions own among :
      ControlProgram slots LogIndex Bool).Respects (rollbackRules own) log
        fun result after => after = log ∧ (result = true ↔ log.Recorded among) := by
  induction among with
  | nil => exact ⟨rfl, recorded_nil⟩
  | cons slot rest ih =>
      rw [doesLogContainIncrementOrDecrementTransactions]
      refine .perform trivial fun transactionBegin begins => ?_
      refine .perform trivial fun transactionEnd ends => ?_
      have flags := flags_of_reads (begins rfl) (ends rfl)
      change Program.Respects _ _ log _
      have either : log.Recorded (slot :: rest) ↔ _ := recorded_cons flags
      cases transactionBegin with
      | true => exact ⟨rfl, iff_of_true rfl (either.mpr (.inl rfl))⟩
      | false =>
          cases transactionEnd with
          | true => exact ⟨rfl, iff_of_true rfl (either.mpr (.inl rfl))⟩
          | false =>
              refine ih.mono ?_
              rintro result after ⟨same, found⟩
              refine ⟨same, found.trans ?_⟩
              simpa using either.symm

/-- The other way round: with the flags that are there the search comes to its
result. -/
theorem doesLogContain_reaches {among : List (Fin slots)}
    {rest : Bool → ControlProgram slots LogIndex (Except ComErrc Unit)}
    {post : Except ComErrc Unit → TransactionLog slots → Prop}
    (respected : (doesLogContainIncrementOrDecrementTransactions own among >>=
      rest).Respects (rollbackRules own) log post) :
    ∃ result, (result = true ↔ log.Recorded among) ∧
      (rest result).Respects (rollbackRules own) log post := by
  induction among with
  | nil => exact ⟨false, recorded_nil, respected⟩
  | cons slot others ih =>
      rw [doesLogContainIncrementOrDecrementTransactions] at respected
      have flags : log.entry (.slot slot) = _ := flags_of_reads rfl rfl
      have either : log.Recorded (slot :: others) ↔ _ := recorded_cons flags
      have both := (respected.2 ((log.entry (.slot slot)).get .transactionBegin)
        fun _ => rfl).2 ((log.entry (.slot slot)).get .transactionEnd) fun _ => rfl
      change Program.Respects _ (Program.bind (if ((log.entry (.slot slot)).get .transactionBegin ||
            (log.entry (.slot slot)).get .transactionEnd) = true then .done true
          else doesLogContainIncrementOrDecrementTransactions own others) rest)
        log post at both
      split at both
      · rename_i set
        exact ⟨true, iff_of_true rfl (either.mpr (.inl set)), both⟩
      · rename_i unset
        obtain ⟨result, found, continued⟩ := ih both
        refine ⟨result, found.trans ?_, continued⟩
        rw [either]
        exact (or_iff_right unset).symm

/-- Giving back the recorded slots. -/
theorem rollbackIncrementTransactions_passes (among : List (Fin slots)) :
    (rollbackIncrementTransactions own dereferenceEventWithoutTransactionLogging
      among : ControlProgram slots LogIndex _).Respects (rollbackRules own) log
        fun _ _ => True := by
  induction among generalizing log with
  | nil => trivial
  | cons slot rest ih =>
      rw [rollbackIncrementTransactions]
      refine .perform trivial fun transactionBegin begins => ?_
      refine .perform trivial fun transactionEnd ends => ?_
      have flags := flags_of_reads (begins rfl) (ends rfl)
      change Program.Respects _ _ log _
      cases transactionBegin with
      | false =>
          cases transactionEnd with
          | false => exact ih
          | true => trivial
      | true =>
          cases transactionEnd with
          | false => trivial
          | true =>
              refine (flag_passes flags .transactionBegin false).bind ?_
              rintro _ begun rfl
              have half : (log.setFlag (.slot slot) .transactionBegin false).entry
                  (.slot slot) = ⟨false, true⟩ := by
                rw [entry_setFlag_self, flags]
                rfl
              refine .perform trivial fun _ _ => ?_
              refine .bind (flag_passes half .transactionEnd false) ?_
              intro _ after _
              exact ih

theorem unsubscribeRetries_passes (slotCount : BitVec 16) (remaining : Nat) :
    (EventSubscriptionControl.unsubscribeRetries slotCount remaining :
      ControlProgram slots LogIndex Unit).Respects (rollbackRules own) log
        fun _ after => after = log := by
  induction remaining with
  | zero => exact ⟨trivial, fun answer => nomatch answer⟩
  | succ remaining ih =>
      rw [EventSubscriptionControl.unsubscribeRetries]
      refine .perform trivial fun currentState _ => ?_
      change Program.Respects _ _ log _
      dsimp only
      split
      · exact ⟨trivial, fun answer => nomatch answer⟩
      · split
        · exact ⟨trivial, fun answer => nomatch answer⟩
        · refine .perform trivial fun won _ => ?_
          cases won with
          | true => rfl
          | false => exact ih

/-- Giving back a subscription that is recorded. -/
theorem unsubscribe_passes (flags : log.entry .subscribe = ⟨true, true⟩)
    (limits : EventSubscriptionControl) :
    (do
      unsubscribeTransactionBegin own
      match ← .perform (ControlOp.getMaxSampleCount own) with
      | some subscriptionMaxSampleCount => do
          limits.unsubscribe subscriptionMaxSampleCount
          unsubscribeTransactionCommit own
          pure (.ok ())
      | none => ControlProgram.terminate :
        ControlProgram slots LogIndex (Except ComErrc Unit)).Respects
          (rollbackRules own) log fun _ _ => True := by
  have half : (log.setFlag .subscribe .transactionEnd false).entry .subscribe = ⟨true, false⟩ := by
    rw [entry_setFlag_self, flags]
    rfl
  refine (flag_passes flags .transactionEnd false).bind ?_
  intro _ begun beginning
  rw [← beginning] at half
  refine .perform trivial fun answer _ => ?_
  cases answer with
  | none => exact ⟨trivial, fun answer => nomatch answer⟩
  | some slotCount =>
      have leaves : (limits.unsubscribe slotCount :
          ControlProgram slots LogIndex Unit).Respects (rollbackRules own) begun
            fun _ after => after = begun :=
        unsubscribeRetries_passes slotCount _
      refine leaves.bind ?_
      intro _ left same
      rw [← same] at half
      have commits : (unsubscribeTransactionCommit own :
          ControlProgram slots LogIndex Unit).Respects (rollbackRules own) left
            fun _ _ => True := by
        refine (expectFlags_passes half).bind ?_
        intro _ last _
        exact ⟨trivial, fun _ _ => ⟨trivial, fun _ _ => trivial⟩⟩
      refine commits.bind ?_
      intro _ last _
      trivial

/-- Giving back the subscription. -/
theorem rollbackSubscribeTransactions_passes (limits : EventSubscriptionControl) :
    (rollbackSubscribeTransactions own limits.unsubscribe :
      ControlProgram slots LogIndex _).Respects (rollbackRules own) log
        fun _ _ => True := by
  refine .perform trivial fun transactionBegin begins => ?_
  refine .perform trivial fun transactionEnd ends => ?_
  have flags := flags_of_reads (begins rfl) (ends rfl)
  change Program.Respects _ _ log _
  cases transactionBegin with
  | false => cases transactionEnd <;> trivial
  | true =>
      cases transactionEnd with
      | false => trivial
      | true => exact unsubscribe_passes flags limits

/-- The rollback passes all assertions exactly from the logs that meet its
precondition. -/
theorem rollbackProxyElementLog_respects_iff (limits : EventSubscriptionControl) :
    (rollbackProxyElementLog own dereferenceEventWithoutTransactionLogging
      limits.unsubscribe : ControlProgram slots LogIndex _).Respects
        (rollbackRules own) log (fun _ _ => True) ↔ log.RollbackPrecondition := by
  have recorded : (rollbackProxyElementLog.rollbackRecorded own
      dereferenceEventWithoutTransactionLogging limits.unsubscribe :
        ControlProgram slots LogIndex _).Respects (rollbackRules own) log
          fun _ _ => True := by
    refine (rollbackIncrementTransactions_passes _).bind ?_
    intro result after _
    cases result with
    | error error => trivial
    | ok _ => exact rollbackSubscribeTransactions_passes limits
  constructor
  · intro respected noFlags slot
    have unset : ∀ flag, (log.entry .subscribe).get flag = false := by
      intro flag
      change log.subscribeTransactions.get flag = false
      rw [noFlags]
      cases flag <;> rfl
    have both := (respected.2 false fun _ => (unset .transactionBegin).symm).2
      false fun _ => (unset .transactionEnd).symm
    change Program.Respects _
      (doesLogContainIncrementOrDecrementTransactions own (List.finRange slots) >>=
        fun contains => ControlProgram.ampPrecondition (!contains) >>= fun _ =>
          rollbackProxyElementLog.rollbackRecorded own
            dereferenceEventWithoutTransactionLogging limits.unsubscribe) log _
        at both
    obtain ⟨contains, found, checked⟩ := doesLogContain_reaches both
    have nothing : (!contains) = true := checked.1
    by_contra nonempty
    rw [found.mpr ⟨slot, List.mem_finRange slot, nonempty⟩] at nothing
    cases nothing
  · intro precondition
    refine .perform trivial fun transactionBegin begins => ?_
    refine .perform trivial fun transactionEnd ends => ?_
    have flags : log.entry .subscribe = ⟨transactionBegin, transactionEnd⟩ :=
      flags_of_reads (begins rfl) (ends rfl)
    change Program.Respects _ _ log _
    cases transactionBegin with
    | true => exact recorded
    | false =>
        cases transactionEnd with
        | true => exact recorded
        | false =>
            refine (doesLogContain_passes _).bind ?_
            rintro contains after ⟨rfl, found⟩
            have nothing : contains = false := by
              apply Bool.eq_false_iff.mpr
              intro contained
              obtain ⟨slot, _, nonempty⟩ := found.mp contained
              exact nonempty (precondition flags slot)
            refine .perform ?_ fun _ _ => recorded
            rw [nothing]
            rfl

end Rollback

end Lola.TransactionLog

/-! ## What a process leaves -/

/-- Wherever the process ends, the rollback of its log passes its assertions,
and so it does for logs that nobody registered. -/
structure RollbackLaw [DecidableEq LogIndex] (limits : EventSubscriptionControl)
    (config : ProxyConfig slots LogIndex Worker) : Prop where
  precondition : ∀ log, config.memory.registered = some log ∨
    (config.memory.control.transactionLogs log).isActive = false →
      (config.memory.control.log log).RollbackPrecondition
  rollback : ∀ log, config.memory.registered = some log →
    (TransactionLog.rollbackProxyElementLog log
      dereferenceEventWithoutTransactionLogging limits.unsubscribe :
        ControlProgram slots LogIndex _).Respects
          (TransactionLog.rollbackRules log) (config.memory.control.log log)
          fun _ _ => True

/-- No sample is left: the user has none, and no thread still destroys one. -/
def Samplefree (config : ProxyConfig slots LogIndex Worker) : Prop := config.memory.samples = [] ∧
    ∀ thread, (config.object thread).opening = none ∧
      (config.object thread).recorded = [] ∧ (config.object thread).ending = none

/-- The user unsubscribes with no sample left. -/
def UnsubscribesSamplefree (config : ProxyConfig slots LogIndex Worker) :
    ProxySystemEvent slots LogIndex Worker → Prop
  | .call _ .unsubscribe => Samplefree config
  | _ => True

/-- A process that has just created its proxy event. -/
def proxyStart (control : EventControl slots LogIndex) : ProxyConfig slots LogIndex Worker where
  memory :=
    { control
      transactionLogMutex := false
      registered := none
      availableSamples := 0
      maxNumSamples := 0
      samples := [] }
  object := fun _ => .new
  activity := fun _ => .idle

section Law

variable [DecidableEq LogIndex] [DecidableEq Worker]
  {ampChecked : Bool} {limits : EventSubscriptionControl}
  {transactionLogs : List LogIndex}

/-- The invariant with the rules of the threads. -/
def proxyContract (mayReset : Bool)
    (system : System (ProxyThread Worker) (ProxyOp slots LogIndex) ProxyOp.Ret
      (ProxyMemory slots LogIndex) (ProxyParty slots LogIndex)
      (ProxyCall slots LogIndex) (ProxyReply LogIndex)) :
    Contract system (ProxyView slots LogIndex) where
  Inv := Covered
  view := proxyView
  rules thread := proxyRules thread.isUser mayReset
  post thread _ := threadPost thread

theorem proxyContract_obligations : (proxyContract true (proxySystem slots Worker ampChecked limits
      transactionLogs)).Obligations UnsubscribesSamplefree where
  call := by
    intro config thread call covered permitted idle allowed after started
    subst started
    have unclaimed : call = .unsubscribe → ∀ flag sample,
        ¬ Claimed config.memory.samples config.object flag sample := by
      intro unsubscribes flag sample claimed
      subst unsubscribes
      obtain ⟨noSamples, noClaims⟩ : Samplefree config := permitted
      rcases claimed with pooled | ⟨owner, held⟩
      · rw [noSamples] at pooled
        cases pooled
      · obtain ⟨closed, nothing, ended⟩ := noClaims owner
        cases flag <;> simp [ProxyParty.claims, closed, nothing, ended] at held
    obtain ⟨next, moved, respects⟩ := covered.calling idle allowed unclaimed
      (fun _ _ => rfl) limits transactionLogs
    rw [← moved.view] at respects
    exact ⟨moved.covered, moved.unseen, respects⟩
  perform := by
    intro config thread call op next answer memory covered _ _ may outcome after performed
    subst performed
    have moved : Moved config (config.update memory thread _ (.running call (next answer)))
        thread _ := covered.perform may outcome rfl
    exact ⟨moved.covered, moved.unseen, trivial, moved.view⟩
  finish := by
    intro config thread call reply covered _ _ post after finished
    exact covered.finish post finished
  crash := by
    intro config thread object _ _ killed
    cases killed
  environment := by
    intro config memory covered _ moved after environment
    subst environment
    exact covered.environment moved

omit [DecidableEq LogIndex] [DecidableEq Worker] in
theorem covered_proxyStart {control : EventControl slots LogIndex}
    (inactive : ∀ log, (control.transactionLogs log).isActive = false →
      (control.log log).Untouched) :
    Covered (proxyStart control : ProxyConfig slots LogIndex Worker) where
  recorded := by
    intro log slot flag impossible
    cases impossible
  registered := by
    intro flag sample claimed
    rcases claimed with pooled | ⟨owner, held⟩
    · cases pooled
    · cases flag <;> cases held
  quiet := by
    intro _ flag sample claimed
    rcases claimed with pooled | ⟨owner, held⟩
    · cases pooled
    · cases flag <;> cases held
  subscribed := fun _ => rfl
  active := by
    intro log impossible
    cases impossible
  inactive := inactive
  found := by
    intro log impossible
    cases impossible
  locked := by
    intro impossible
    cases impossible
  resting := fun _ _ => ⟨rfl, rfl, rfl, rfl, rfl, rfl, rfl, rfl⟩
  fits := fun _ => .notSubscribed rfl rfl rfl

omit [DecidableEq Worker] in
theorem Covered.rollbackLaw {config : ProxyConfig slots LogIndex Worker}
    (covered : Covered config) : RollbackLaw limits config := by
  have precondition : ∀ log, config.memory.registered = some log ∨
      (config.memory.control.transactionLogs log).isActive = false →
        (config.memory.control.log log).RollbackPrecondition := by
    intro log either
    rcases either with registered | isInactive
    · intro noFlags
      apply covered.unrecorded _ registered
      apply covered.subscribed
      rw [subscriptionFlags, registered]
      exact noFlags
    · intro _
      exact (covered.inactive log isInactive).slot
  refine ⟨precondition, fun log registered => ?_⟩
  exact (TransactionLog.rollbackProxyElementLog_respects_iff limits).mpr
    (precondition log (.inl registered))

/-- A process that unsubscribes with no sample left leaves, wherever it ends, a
log whose rollback passes its assertions. -/
theorem rollbackLaw_of_reached {control : EventControl slots LogIndex}
    {config : ProxyConfig slots LogIndex Worker}
    (inactive : ∀ log, (control.transactionLogs log).isActive = false → (control.log log).Untouched)
    (reached : Reaches (proxySystem slots Worker ampChecked limits transactionLogs)
      UnsubscribesSamplefree (proxyStart control) config) :
    RollbackLaw limits config :=
  ((proxyContract true _).run proxyContract_obligations
    (covered_proxyStart inactive) (fun _ => rfl) reached).inv.rollbackLaw

end Law

/-! ## Unsubscribing with a sample left -/

section Instances

variable [DecidableEq LogIndex]

instance [Fintype Worker] (config : ProxyConfig slots LogIndex Worker) :
    Decidable (Samplefree config) :=
  let resting (party : ProxyParty slots LogIndex) : Bool :=
    decide (party.opening = none ∧ party.recorded = [] ∧ party.ending = none)
  decidable_of_iff
    (config.memory.samples = [] ∧ resting (config.object .user) = true ∧
      ∀ index, resting (config.object (.worker index)) = true) <| by
    constructor
    · rintro ⟨noSamples, user, workers⟩
      refine ⟨noSamples, fun thread => ?_⟩
      cases thread with
      | user => exact of_decide_eq_true user
      | worker index => exact of_decide_eq_true (workers index)
    · rintro ⟨noSamples, threads⟩
      exact ⟨noSamples, decide_eq_true (threads .user),
        fun index => decide_eq_true (threads (.worker index))⟩

instance [Fintype Worker] (config : ProxyConfig slots LogIndex Worker) :
    ∀ event, Decidable (UnsubscribesSamplefree config event)
  | .call _ .unsubscribe => inferInstanceAs (Decidable (Samplefree config))
  | .call _ (.subscribe _) => isTrue trivial
  | .call _ (.getNewSamples _ _) => isTrue trivial
  | .call _ (.destroy _) => isTrue trivial
  | .call _ (.notifyServiceInstanceChangedAvailability _) => isTrue trivial
  | .perform _ _ _ => isTrue trivial
  | .finish _ _ _ => isTrue trivial
  | .crash _ => isTrue trivial
  | .environment => isTrue trivial

instance [DecidableEq Worker] (ampChecked : Bool)
    (limits : EventSubscriptionControl) (transactionLogs : List LogIndex)
    (thread : ProxyThread Worker) (object : ProxyParty slots LogIndex)
    (call : ProxyCall slots LogIndex) :
    Decidable ((proxySystem slots Worker ampChecked limits
      transactionLogs).mayCall thread object call) :=
  inferInstanceAs (Decidable (call.allowed thread = true))

instance [DecidableEq Worker] [Fintype LogIndex] (ampChecked : Bool)
    (limits : EventSubscriptionControl) (transactionLogs : List LogIndex)
    (before after : ProxyMemory slots LogIndex) :
    Decidable ((proxySystem slots Worker ampChecked limits
      transactionLogs).environment before after) :=
  inferInstanceAs (Decidable (OtherProcesses before after))

end Instances

/-- An event with one slot and room for one subscriber. -/
def oneSlot : EventSubscriptionControl where
  maxSubscribableSlots := 1
  maxSubscribers := 1
  enforceMaxSamples := true

/-- Its shared memory after one sample was sent. -/
def oneSample : EventControl 1 (Fin 1) where
  stateSlots := fun _ => (EventSlotStatus.ofTimeStamp 2 0).data
  transactionLogs := fun _ =>
    { isActive := false, needsRollback := false, transactionLog := .empty }
  currentSubscriptionState := 0

/-- The user subscribes and takes the sample. -/
def subscribeAndTake :
    List (Choice (ProxyThread Empty) (ProxyMemory 1 (Fin 1)) (ProxyCall 1 (Fin 1))) :=
  List.flatten
    [[.call .user (.subscribe 1)], List.replicate 28 (.perform .user 0),
     [.finish .user, .call .user (.getNewSamples 5 1)], List.replicate 19 (.perform .user 0),
     [.finish .user]]

/-- It destroys the sample before it unsubscribes. -/
def destroyAndUnsubscribe :
    List (Choice (ProxyThread Empty) (ProxyMemory 1 (Fin 1)) (ProxyCall 1 (Fin 1))) :=
  List.flatten
    [[.call .user (.destroy { slotIndex := 0, transactionLogIdx := 0 })],
     List.replicate 18 (.perform .user 0), [.finish .user, .call .user .unsubscribe],
     List.replicate 18 (.perform .user 0)]

theorem rollbackLaw_of_destroyed : ∃ config : ProxyConfig 1 (Fin 1) Empty,
      config.memory.registered = some 0 ∧ RollbackLaw oneSlot config := by
  obtain ⟨config, reached, registered⟩ :=
    exists_reached (proxySystem 1 Empty true oneSlot [0]) UnsubscribesSamplefree
      (proxyStart oneSample) (subscribeAndTake ++ destroyAndUnsubscribe)
      (fun config => config.memory.registered = some 0) (by decide +kernel)
  refine ⟨config, registered, rollbackLaw_of_reached ?_ reached⟩
  intro log _
  exact ⟨rfl, fun _ => rfl⟩

/-- The user unsubscribes with the sample still there: the process ends at the
assertion of `TransactionLogSet::TransactionLogNode::Reset`. -/
theorem rollbackLaw_violated : ¬ ∀ config : ProxyConfig 1 (Fin 1) Empty,
      Reaches (proxySystem 1 Empty true oneSlot [0]) (fun _ _ => True)
        (proxyStart oneSample) config → RollbackLaw oneSlot config := by
  intro law
  obtain ⟨config, reached, registered, noFlags, recorded⟩ :=
    exists_reached (proxySystem 1 Empty true oneSlot [0]) (fun _ _ => True)
      (proxyStart oneSample)
      (subscribeAndTake ++ [.call .user .unsubscribe] ++ .replicate 20 (.perform .user 0))
      (fun config => config.memory.registered = some 0 ∧
        (config.memory.control.log 0).subscribeTransactions = .empty ∧
          (config.memory.control.log 0).referenceCountSlots 0 = .recorded)
      (by decide +kernel)
  have empty := (law config reached).precondition 0 (.inl registered) noFlags 0
  rw [recorded] at empty
  cases empty

end MwCom
