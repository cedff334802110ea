/-
Module: MwCom.Proxy.SampleClaims
Purpose: Every reference that the log of a proxy event records belongs to a
  sample of the user or to a thread that works on it, as long as the user
  unsubscribes with no sample left.
Trusted boundary: none
Main exports: Claimed, Covered, proxyView, Covered.perform, Covered.finish,
  Covered.environment
-/
import MwCom.Proxy.SampleProtocol

namespace MwCom

open Interleaving Lola ProxyParty Function
open Config (update_activity_of_ne update_activity_self update_memory
  update_object update_object_of_ne update_object_self)

variable {slots : Nat} {LogIndex Worker : Type}

/-- The entries of the log a thread answers for, by the flag that may be set. -/
def ProxyParty.claims (party : ProxyParty slots LogIndex) :
    LogFlag → List (SamplePtr slots LogIndex)
  | .transactionBegin => party.opening.toList ++ party.recorded
  | .transactionEnd => party.ending.toList ++ party.recorded

/-- A sample is the user's, or some thread answers for it. -/
def Claimed (samples : List (SamplePtr slots LogIndex))
    (object : ProxyThread Worker → ProxyParty slots LogIndex) (flag : LogFlag)
    (sample : SamplePtr slots LogIndex) : Prop :=
  sample ∈ samples ∨ ∃ thread, sample ∈ (object thread).claims flag

/-- The flags of the subscription in the registered log. -/
def subscriptionFlags (memory : ProxyMemory slots LogIndex) : TransactionLogSlot :=
  match memory.registered with
  | some log => (memory.control.log log).subscribeTransactions
  | none => .empty

/-- The part of a state that one thread alone changes. -/
def proxyView (config : ProxyConfig slots LogIndex Worker)
    (thread : ProxyThread Worker) : ProxyView slots LogIndex where
  object := config.object thread
  registered :=
    match thread with
    | .user => config.memory.registered
    | .worker _ => none
  flags :=
    match thread with
    | .user => subscriptionFlags config.memory
    | .worker _ => .empty

/-- What the process and its log have in common in every state. -/
structure Covered (config : ProxyConfig slots LogIndex Worker) : Prop where
  recorded : ∀ log slot flag, config.memory.registered = some log →
    ((config.memory.control.log log).referenceCountSlots slot).get flag = true →
      Claimed config.memory.samples config.object flag
        { slotIndex := slot, transactionLogIdx := log }
  registered : ∀ flag sample, Claimed config.memory.samples config.object flag sample →
      config.memory.registered = some sample.transactionLogIdx
  quiet : (config.object .user).quiet = true → ∀ flag sample,
    ¬ Claimed config.memory.samples config.object flag sample
  subscribed : subscriptionFlags config.memory = .empty → (config.object .user).quiet = true
  active : ∀ log, config.memory.registered = some log →
    (config.memory.control.transactionLogs log).isActive = true
  inactive : ∀ log, (config.memory.control.transactionLogs log).isActive = false →
    (config.memory.control.log log).Untouched
  found : ∀ log, (config.object .user).found = some log → (config.object .user).locked = true ∧
      (config.memory.control.transactionLogs log).isActive = false
  locked : (config.object .user).locked = true → config.memory.transactionLogMutex = true
  resting : ∀ thread, config.activity thread = .idle → (config.object thread).AtRest
  fits : config.activity .user = .idle →
    Matches (config.object .user).machine (proxyView config .user)

def ProxyThread.isUser : ProxyThread Worker → Bool
  | .user => true
  | .worker _ => false

theorem ProxyThread.isUser_iff {thread : ProxyThread Worker} :
    thread.isUser = true ↔ thread = .user := by
  cases thread <;> simp [isUser]

/-- What a call of a thread guarantees. -/
def threadPost (thread : ProxyThread Worker) (reply : ProxyReply LogIndex)
    (view : ProxyView slots LogIndex) : Prop :=
  match thread with
  | .user => AfterCall reply.machine view
  | .worker _ => view.object.AtRest

/-! ## One flag of a slot -/

section Flags

variable [DecidableEq LogIndex] {view : ProxyView slots LogIndex}
  {sample other : SamplePtr slots LogIndex} {flag otherFlag : LogFlag}
  {value : Bool}

theorem ProxyParty.observeFlag_frame (party : ProxyParty slots LogIndex)
    (sample : SamplePtr slots LogIndex) (flag : LogFlag) (value : Bool) :
    (party.observeFlag sample flag value).quiet = party.quiet ∧
      (party.observeFlag sample flag value).found = party.found ∧
      (party.observeFlag sample flag value).locked = party.locked := by
  cases flag with
  | transactionBegin =>
      cases value with
      | true => exact ⟨rfl, rfl, rfl⟩
      | false =>
          rw [observeFlag]
          split
          · exact ⟨rfl, rfl, rfl⟩
          · exact ⟨rfl, rfl, rfl⟩
  | transactionEnd => cases value <;> exact ⟨rfl, rfl, rfl⟩

/-- A thread keeps answering for every flag it does not write. -/
theorem ProxyView.MayFlag.kept (may : view.MayFlag sample flag value)
    (distinct : other ≠ sample ∨ otherFlag ≠ flag)
    (claimed : other ∈ view.object.claims otherFlag) :
    other ∈ (view.object.observeFlag sample flag value).claims otherFlag := by
  cases flag with
  | transactionBegin =>
      cases value with
      | true =>
          obtain ⟨_, _, _, closed, _⟩ := may
          cases otherFlag with
          | transactionBegin =>
              simp only [claims, closed, Option.toList_none, List.nil_append] at claimed
              exact List.mem_append_right _ claimed
          | transactionEnd => exact claimed
      | false =>
          rw [observeFlag]
          split
          · rename_i opened
            cases otherFlag with
            | transactionBegin =>
                simp only [claims, opened, Option.toList_some,
                  List.singleton_append, List.mem_cons] at claimed
                have other_ne : other ≠ sample := by simpa using distinct
                simpa [claims, other_ne] using claimed
            | transactionEnd => exact claimed
          · rename_i opened
            rcases may with impossible | ⟨closed, ended, _⟩
            · exact absurd impossible opened
            · cases otherFlag with
              | transactionBegin =>
                  have other_ne : other ≠ sample := by simpa using distinct
                  simp only [claims, closed, Option.toList_none, List.nil_append] at claimed ⊢
                  exact (List.mem_erase_of_ne other_ne).mpr claimed
              | transactionEnd =>
                  simp only [claims, ended, Option.toList_none,
                    List.nil_append, Option.toList_some, List.singleton_append,
                    List.mem_cons] at claimed ⊢
                  by_cases same : other = sample
                  · exact .inl same
                  · exact .inr ((List.mem_erase_of_ne same).mpr claimed)
  | transactionEnd =>
      cases value with
      | true =>
          have opened : view.object.opening = some sample := may
          cases otherFlag with
          | transactionBegin =>
              simpa [claims, observeFlag, opened] using
                claimed
          | transactionEnd =>
              rcases List.mem_append.mp claimed with ending | recorded
              · exact List.mem_append_left _ ending
              · exact List.mem_append_right _ (List.mem_cons_of_mem _ recorded)
      | false =>
          have ending : view.object.ending = some sample := may
          cases otherFlag with
          | transactionBegin => exact claimed
          | transactionEnd =>
              have other_ne : other ≠ sample := by simpa using distinct
              simpa [claims, observeFlag, ending, other_ne] using claimed

/-- It answers for the flag it sets. -/
theorem ProxyView.MayFlag.gained (may : view.MayFlag sample flag true) :
    sample ∈ (view.object.observeFlag sample flag true).claims flag := by
  cases flag with
  | transactionBegin => exact List.mem_append_left _ (List.mem_singleton.mpr rfl)
  | transactionEnd => exact List.mem_append_right _ List.mem_cons_self

/-- Only with the begin flag it answers for something new. -/
theorem ProxyView.MayFlag.origin (may : view.MayFlag sample flag value) (claimed : other ∈
      (view.object.observeFlag sample flag value).claims otherFlag) :
    (∃ earlier, other ∈ view.object.claims earlier) ∨
      (other = sample ∧ view.registered = some sample.transactionLogIdx ∧
        view.object.quiet = false) := by
  have fromOpening : view.object.opening = some other →
      ∃ earlier, other ∈ view.object.claims earlier := by
    intro opened
    refine ⟨.transactionBegin, List.mem_append_left _ ?_⟩
    simp [opened]
  have fromEnding : view.object.ending = some other →
      ∃ earlier, other ∈ view.object.claims earlier := by
    intro ended
    refine ⟨.transactionEnd, List.mem_append_left _ ?_⟩
    simp [ended]
  have fromRecorded : other ∈ view.object.recorded →
      ∃ earlier, other ∈ view.object.claims earlier := fun recorded =>
    ⟨.transactionBegin, List.mem_append_right _ recorded⟩
  cases flag with
  | transactionBegin =>
      cases value with
      | true =>
          obtain ⟨registered, _, busy, closed, _⟩ := may
          cases otherFlag with
          | transactionBegin =>
              rcases List.mem_cons.mp claimed with same | recorded
              · exact .inr ⟨same, registered, busy⟩
              · exact .inl (fromRecorded recorded)
          | transactionEnd => exact .inl ⟨.transactionEnd, claimed⟩
      | false =>
          rw [observeFlag] at claimed
          split at claimed
          · cases otherFlag with
            | transactionBegin => exact .inl (fromRecorded claimed)
            | transactionEnd => exact .inl ⟨.transactionEnd, claimed⟩
          · rename_i opened
            rcases may with impossible | ⟨_, _, held⟩
            · exact absurd impossible opened
            · cases otherFlag with
              | transactionBegin =>
                  rcases List.mem_append.mp claimed with opening | recorded
                  · exact .inl (fromOpening (Option.mem_toList.mp opening))
                  · exact .inl (fromRecorded (List.mem_of_mem_erase recorded))
              | transactionEnd =>
                  rcases List.mem_cons.mp claimed with same | recorded
                  · subst same
                    exact .inl (fromRecorded held)
                  · exact .inl (fromRecorded (List.mem_of_mem_erase recorded))
  | transactionEnd =>
      cases value with
      | true =>
          have opened : view.object.opening = some sample := may
          have fromBoth : other ∈ sample :: view.object.recorded →
              ∃ earlier, other ∈ view.object.claims earlier := by
            intro either
            rcases List.mem_cons.mp either with same | recorded
            · subst same
              exact fromOpening opened
            · exact fromRecorded recorded
          cases otherFlag with
          | transactionBegin => exact .inl (fromBoth claimed)
          | transactionEnd =>
              rcases List.mem_append.mp claimed with ending | recorded
              · exact .inl (fromEnding (Option.mem_toList.mp ending))
              · exact .inl (fromBoth recorded)
      | false =>
          cases otherFlag with
          | transactionBegin => exact .inl ⟨.transactionBegin, claimed⟩
          | transactionEnd => exact .inl (fromRecorded claimed)

end Flags

/-! ## One operation -/

section Operations

variable {config : ProxyConfig slots LogIndex Worker}
  {thread : ProxyThread Worker}
  {memory : ProxyMemory slots LogIndex} {object : ProxyParty slots LogIndex}
  {call : ProxyCall slots LogIndex}
  {rest : ProxyProgram slots LogIndex (ProxyReply LogIndex)}

/-- What an operation of a thread keeps: the invariant, the views of the other
threads, and the view of the thread as `next` says. -/
structure Moved (config after : ProxyConfig slots LogIndex Worker)
    (thread : ProxyThread Worker) (next : ProxyView slots LogIndex) : Prop where
  covered : Covered after
  unseen : ∀ other, other ≠ thread → proxyView after other = proxyView config other
  view : proxyView after thread = next

/-- The logs say the same of slots and subscriptions. -/
def SameLogs (before after : EventControl slots LogIndex) : Prop :=
  ∀ log, (after.transactionLogs log).isActive = (before.transactionLogs log).isActive ∧
    (after.log log).referenceCountSlots = (before.log log).referenceCountSlots ∧
    (after.log log).subscribeTransactions = (before.log log).subscribeTransactions

theorem SameLogs.subscriptionFlags (logs : SameLogs config.memory.control memory.control)
    (registered : memory.registered = config.memory.registered) :
    subscriptionFlags memory = subscriptionFlags config.memory := by
  simp only [MwCom.subscriptionFlags, registered]
  cases config.memory.registered with
  | none => rfl
  | some log => exact (logs log).2.2

variable [DecidableEq Worker]

/-- The views after a thread moved alone. -/
theorem proxyView_update_of_ne {other : ProxyThread Worker} (distinct : other ≠ thread)
    (registered : other = .user → memory.registered = config.memory.registered)
    (flags : other = .user → subscriptionFlags memory = subscriptionFlags config.memory)
    (activity : Activity (ProxyOp slots LogIndex) ProxyOp.Ret
      (ProxyCall slots LogIndex) (ProxyReply LogIndex)) :
    proxyView (config.update memory thread object activity) other = proxyView config other := by
  cases other with
  | user =>
      simp only [proxyView, update_object_of_ne distinct,
        update_memory, registered rfl, flags rfl]
  | worker index => simp only [proxyView, update_object_of_ne distinct]

theorem proxyView_update_self (registered : memory.registered = config.memory.registered)
    (flags : subscriptionFlags memory = subscriptionFlags config.memory)
    (activity : Activity (ProxyOp slots LogIndex) ProxyOp.Ret
      (ProxyCall slots LogIndex) (ProxyReply LogIndex)) :
    proxyView (config.update memory thread object activity) thread =
      { proxyView config thread with object := object } := by
  cases thread <;>
    simp only [proxyView, update_object_self, update_memory, registered, flags]

/-- Threads that are idle did not move. -/
theorem idle_of_update {other : ProxyThread Worker}
    (idle : (config.update memory thread object (.running call rest)).activity other = .idle) :
    other ≠ thread ∧ config.activity other = .idle := by
  by_cases same : other = thread
  · subst same
    rw [update_activity_self] at idle
    cases idle
  · rw [update_activity_of_ne same] at idle
    exact ⟨same, idle⟩

/-- A thread that exchanges entries with the samples of the user alone. -/
theorem claimed_update {samples : List (SamplePtr slots LogIndex)}
    {flag : LogFlag} {sample : SamplePtr slots LogIndex}
    (exchanged : sample ∈ samples ∨ sample ∈ object.claims flag ↔ sample ∈ config.memory.samples ∨
        sample ∈ (config.object thread).claims flag) :
    Claimed samples (update config.object thread object) flag sample ↔
      Claimed config.memory.samples config.object flag sample := by
  constructor
  · intro claimed
    rcases claimed with pooled | ⟨owner, held⟩
    · rcases exchanged.mp (.inl pooled) with earlier | earlier
      · exact .inl earlier
      · exact .inr ⟨thread, earlier⟩
    · by_cases same : owner = thread
      · subst same
        rw [update_self] at held
        rcases exchanged.mp (.inr held) with earlier | earlier
        · exact .inl earlier
        · exact .inr ⟨owner, earlier⟩
      · rw [update_of_ne same] at held
        exact .inr ⟨owner, held⟩
  · intro claimed
    have later : sample ∈ samples ∨ sample ∈ object.claims flag →
        Claimed samples (update config.object thread object) flag
          sample := by
      intro either
      rcases either with pooled | held
      · exact .inl pooled
      · refine .inr ⟨thread, ?_⟩
        rw [update_self]
        exact held
    rcases claimed with pooled | ⟨owner, held⟩
    · exact later (exchanged.mpr (.inl pooled))
    · by_cases same : owner = thread
      · subst same
        exact later (exchanged.mpr (.inr held))
      · refine .inr ⟨owner, ?_⟩
        rw [update_of_ne same]
        exact held

/-- What every operation but a registration has to show. -/
theorem Covered.move (covered : Covered config)
    (registered : memory.registered = config.memory.registered)
    (flags : subscriptionFlags memory = subscriptionFlags config.memory)
    (active : ∀ log, (memory.control.transactionLogs log).isActive =
      (config.memory.control.transactionLogs log).isActive)
    (recorded : ∀ log slot flag, config.memory.registered = some log →
      ((memory.control.log log).referenceCountSlots slot).get flag = true →
        Claimed memory.samples (update config.object thread object) flag
          { slotIndex := slot, transactionLogIdx := log })
    (origin : ∀ flag sample, Claimed memory.samples (update config.object thread object) flag
          sample → (∃ earlier, Claimed config.memory.samples config.object earlier sample) ∨
          (config.memory.registered = some sample.transactionLogIdx ∧
            (config.object .user).quiet = false))
    (untouched : ∀ log, (config.memory.control.transactionLogs log).isActive = false →
        (memory.control.log log).Untouched)
    (quiet : object.quiet = (config.object thread).quiet)
    (found : thread = .user → ∀ log, object.found = some log → object.locked = true ∧
        (config.memory.control.transactionLogs log).isActive = false)
    (locked : (update config.object thread object .user).locked = true →
      memory.transactionLogMutex = true) :
    Moved config (config.update memory thread object (.running call rest)) thread
      { proxyView config thread with object := object } := by
  have sameQuiet : (update config.object thread object .user).quiet =
      (config.object .user).quiet := by
    by_cases user : (.user : ProxyThread Worker) = thread
    · subst user
      rw [update_self]
      exact quiet
    · rw [update_of_ne user]
  refine ⟨⟨?_, ?_, ?_, ?_, ?_, ?_, ?_, locked, ?_, ?_⟩, ?_, ?_⟩
  · intro log slot flag isRegistered set
    rw [update_memory, registered] at isRegistered
    exact recorded log slot flag isRegistered set
  · intro flag sample claimed
    rw [update_memory, registered]
    rcases origin flag sample claimed with ⟨earlier, before⟩ | ⟨own, _⟩
    · exact covered.registered earlier sample before
    · exact own
  · intro isQuiet flag sample claimed
    rw [update_object, sameQuiet] at isQuiet
    rcases origin flag sample claimed with ⟨earlier, before⟩ | ⟨_, busy⟩
    · exact covered.quiet isQuiet earlier sample before
    · rw [isQuiet] at busy
      cases busy
  · intro none
    rw [update_memory, flags] at none
    rw [update_object, sameQuiet]
    exact covered.subscribed none
  · intro log isRegistered
    rw [update_memory, registered] at isRegistered
    rw [update_memory, active]
    exact covered.active log isRegistered
  · intro log isInactive
    rw [update_memory, active] at isInactive
    exact untouched log isInactive
  · intro log isFound
    rw [update_memory, active]
    rw [update_object] at isFound ⊢
    by_cases user : (.user : ProxyThread Worker) = thread
    · subst user
      rw [update_self] at isFound ⊢
      exact found rfl log isFound
    · rw [update_of_ne user] at isFound ⊢
      exact covered.found log isFound
  · intro other idle
    obtain ⟨distinct, idle⟩ := idle_of_update idle
    rw [update_object_of_ne distinct]
    exact covered.resting other idle
  · intro idle
    obtain ⟨distinct, idle⟩ := idle_of_update idle
    rw [proxyView_update_of_ne distinct (fun _ => registered) (fun _ => flags),
      update_object_of_ne distinct]
    exact covered.fits idle
  · intro other distinct
    exact proxyView_update_of_ne distinct (fun _ => registered) (fun _ => flags) _
  · exact proxyView_update_self registered flags _

section

variable (covered : Covered config) (logs : SameLogs config.memory.control memory.control)
  (registered : memory.registered = config.memory.registered)

include covered logs registered

/-- An operation that leaves alone what logs and registration say. -/
theorem Covered.frame (claims : ∀ flag sample,
      Claimed memory.samples (update config.object thread object) flag
        sample ↔ Claimed config.memory.samples config.object flag sample)
    (quiet : object.quiet = (config.object thread).quiet)
    (found : thread = .user → ∀ log, object.found = some log → object.locked = true ∧
        (config.memory.control.transactionLogs log).isActive = false)
    (locked : (update config.object thread object .user).locked = true →
      memory.transactionLogMutex = true) :
    Moved config (config.update memory thread object (.running call rest)) thread
      { proxyView config thread with object := object } := by
  refine covered.move registered (logs.subscriptionFlags registered)
    (fun log => (logs log).1) ?_ ?_ ?_ quiet found locked
  · intro log slot flag isRegistered set
    rw [(logs log).2.1] at set
    exact (claims _ _).mpr (covered.recorded log slot flag isRegistered set)
  · intro flag sample claimed
    exact .inl ⟨flag, (claims _ _).mp claimed⟩
  · intro log isInactive
    obtain ⟨subscribe, slot⟩ := covered.inactive log isInactive
    refine ⟨?_, fun index => ?_⟩
    · rw [(logs log).2.2]
      exact subscribe
    · rw [(logs log).2.1]
      exact slot index

/-- An operation that has nothing to do with the mutex. -/
theorem Covered.exchange (mutex : memory.transactionLogMutex = config.memory.transactionLogMutex)
    (exchanged : ∀ flag sample, sample ∈ memory.samples ∨ sample ∈ object.claims flag ↔
        sample ∈ config.memory.samples ∨ sample ∈ (config.object thread).claims flag)
    (quiet : object.quiet = (config.object thread).quiet)
    (found : object.found = (config.object thread).found)
    (locked : object.locked = (config.object thread).locked) :
    Moved config (config.update memory thread object (.running call rest)) thread
      { proxyView config thread with object := object } := by
  refine covered.frame logs registered
    (fun flag sample => claimed_update (exchanged flag sample)) quiet ?_ ?_
  · intro user log isFound
    subst user
    rw [locked]
    rw [found] at isFound
    exact covered.found log isFound
  · intro isLocked
    rw [mutex]
    apply covered.locked
    by_cases user : (.user : ProxyThread Worker) = thread
    · subst user
      rw [update_self, locked] at isLocked
      exact isLocked
    · rw [update_of_ne user] at isLocked
      exact isLocked

/-- An operation that moves no slot and no sample. -/
theorem Covered.unmoved (mutex : memory.transactionLogMutex = config.memory.transactionLogMutex)
    (samples : memory.samples = config.memory.samples)
    (claims : ∀ flag, object.claims flag = (config.object thread).claims flag)
    (quiet : object.quiet = (config.object thread).quiet)
    (found : object.found = (config.object thread).found)
    (locked : object.locked = (config.object thread).locked) :
    Moved config (config.update memory thread object (.running call rest)) thread
      { proxyView config thread with object := object } := by
  refine covered.exchange logs registered mutex ?_ quiet found locked
  intro flag sample
  rw [samples, claims]

end

variable [DecidableEq LogIndex]

/-- A flag that is set was written, or was set before. -/
theorem get_setFlag {log : TransactionLog slots} {slot other : Fin slots}
    {flag otherFlag : LogFlag} {value : Bool}
    (set : ((log.setFlag (.slot slot) flag value).referenceCountSlots other).get otherFlag = true) :
    (other = slot ∧ otherFlag = flag ∧ value = true) ∨ ((other ≠ slot ∨ otherFlag ≠ flag) ∧
        (log.referenceCountSlots other).get otherFlag = true) := by
  by_cases same : other = slot
  · subst same
    simp only [TransactionLog.setFlag, update_self] at set
    cases flag <;> cases otherFlag <;>
      simp_all [TransactionLogSlot.get, TransactionLogSlot.set]
  · simp only [TransactionLog.setFlag, update_of_ne same] at set
    exact .inr ⟨.inl same, set⟩

omit [DecidableEq Worker] [DecidableEq LogIndex] in
/-- Flags are set in logs that are registered. -/
theorem Covered.active_of_mayFlag (covered : Covered config)
    {sample : SamplePtr slots LogIndex} {flag : LogFlag}
    (may : (proxyView config thread).MayFlag sample flag true) :
    (config.memory.control.transactionLogs sample.transactionLogIdx).isActive = true := by
  apply covered.active
  cases flag with
  | transactionBegin =>
      cases thread with
      | user => exact may.1
      | worker index => cases may.1
  | transactionEnd =>
      have opened : (config.object thread).opening = some sample := may
      apply covered.registered .transactionBegin
      refine .inr ⟨thread, List.mem_append_left _ ?_⟩
      simp [opened]

/-- One flag of a slot is written. -/
theorem Covered.setSlotFlag (covered : Covered config)
    {log : LogIndex} {slot : Fin slots} {flag : LogFlag} {value : Bool}
    (may : (proxyView config thread).MayFlag
      { slotIndex := slot, transactionLogIdx := log } flag value)
    (written : memory = { config.memory with
      control := config.memory.control.setLog log
        ((config.memory.control.log log).setFlag (.slot slot) flag value) })
    (moved : object = (config.object thread).observeFlag
      { slotIndex := slot, transactionLogIdx := log } flag value) :
    Moved config (config.update memory thread object (.running call rest)) thread
      { proxyView config thread with object := object } := by
  have kept : ∀ otherFlag other,
      other ≠ { slotIndex := slot, transactionLogIdx := log } ∨ otherFlag ≠ flag →
        Claimed config.memory.samples config.object otherFlag other →
          Claimed memory.samples (update config.object thread object)
            otherFlag other := by
    intro otherFlag other distinct claimed
    rcases claimed with pooled | ⟨owner, held⟩
    · rw [written]
      exact .inl pooled
    · refine .inr ⟨owner, ?_⟩
      by_cases same : owner = thread
      · subst same
        rw [update_self, moved]
        exact ProxyView.MayFlag.kept may distinct held
      · rw [update_of_ne same]
        exact held
  have origin : ∀ otherFlag other, Claimed memory.samples (update config.object thread object)
          otherFlag other →
        (∃ earlier, Claimed config.memory.samples config.object earlier other) ∨
          (config.memory.registered = some other.transactionLogIdx ∧
            (config.object .user).quiet = false) := by
    intro otherFlag other claimed
    rcases claimed with pooled | ⟨owner, held⟩
    · rw [written] at pooled
      exact .inl ⟨otherFlag, .inl pooled⟩
    · by_cases same : owner = thread
      · subst same
        rw [update_self, moved] at held
        rcases ProxyView.MayFlag.origin may held with
          ⟨earlier, before⟩ | ⟨rfl, registered, busy⟩
        · exact .inl ⟨earlier, .inr ⟨owner, before⟩⟩
        · cases owner with
          | user => exact .inr ⟨registered, busy⟩
          | worker index => cases registered
      · rw [update_of_ne same] at held
        exact .inl ⟨otherFlag, .inr ⟨owner, held⟩⟩
  have otherLog : ∀ other, other ≠ log →
      memory.control.log other = config.memory.control.log other := by
    intro other distinct
    rw [written]
    exact EventControl.log_setLog_of_ne _ distinct _
  have thisLog : memory.control.log log =
      (config.memory.control.log log).setFlag (.slot slot) flag value := by
    rw [written]
    exact EventControl.log_setLog_self _ _
  have subscribes : ∀ other, (memory.control.log other).subscribeTransactions =
      (config.memory.control.log other).subscribeTransactions := by
    intro other
    by_cases same : other = log
    · subst same
      rw [thisLog]
      rfl
    · rw [otherLog other same]
  have registered : memory.registered = config.memory.registered := by
    rw [written]
  have flags : subscriptionFlags memory = subscriptionFlags config.memory := by
    simp only [subscriptionFlags, registered]
    cases config.memory.registered with
    | none => rfl
    | some other => exact subscribes other
  obtain ⟨sameQuiet, sameFound, sameLocked⟩ := (config.object thread).observeFlag_frame
      { slotIndex := slot, transactionLogIdx := log } flag value
  refine covered.move registered flags ?_ ?_ origin ?_ ?_ ?_ ?_
  · intro other
    rw [written]
    exact EventControl.isActive_setLog _ _
  · intro other otherSlot otherFlag isRegistered set
    by_cases same : other = log
    · subst same
      rw [thisLog] at set
      rcases get_setFlag set with ⟨rfl, rfl, rfl⟩ | ⟨distinct, before⟩
      · refine .inr ⟨thread, ?_⟩
        rw [update_self, moved]
        exact ProxyView.MayFlag.gained may
      · apply kept
        · simpa using distinct
        · exact covered.recorded _ _ _ isRegistered before
    · rw [otherLog other same] at set
      apply kept
      · simp [same]
      · exact covered.recorded _ _ _ isRegistered set
  · intro other isInactive
    obtain ⟨subscribe, untouched⟩ := covered.inactive other isInactive
    refine ⟨(subscribes other).trans subscribe, fun index => ?_⟩
    by_cases same : other = log
    · subst same
      rw [thisLog]
      cases value with
      | true =>
          have isActive := covered.active_of_mayFlag may
          rw [isInactive] at isActive
          cases isActive
      | false =>
          by_cases sameSlot : index = slot
          · subst sameSlot
            simp only [TransactionLog.setFlag, update_self, untouched]
            cases flag <;> rfl
          · simp only [TransactionLog.setFlag, update_of_ne sameSlot, untouched]
    · rw [otherLog other same]
      exact untouched index
  · rw [moved]
    exact sameQuiet
  · intro user other isFound
    subst user
    rw [moved, sameFound] at isFound
    rw [moved, sameLocked]
    exact covered.found other isFound
  · intro isLocked
    rw [written]
    apply covered.locked
    by_cases user : (.user : ProxyThread Worker) = thread
    · subst user
      rw [update_self, moved, sameLocked] at isLocked
      exact isLocked
    · rw [update_of_ne user] at isLocked
      exact isLocked

omit [DecidableEq LogIndex] in
/-- The user registers, unregisters, or writes the flags of the subscription,
while nothing is recorded. -/
theorem Covered.whileQuiet (covered : Covered config) (isQuiet : (config.object .user).quiet = true)
    {next : ProxyView slots LogIndex} (quiet : object.quiet = true)
    (claims : ∀ flag, object.claims flag = (config.object .user).claims flag)
    (found : ∀ log, object.found = some log → object.locked = true ∧
      (memory.control.transactionLogs log).isActive = false)
    (locked : object.locked = (config.object .user).locked)
    (mutex : memory.transactionLogMutex = config.memory.transactionLogMutex)
    (samples : memory.samples = config.memory.samples)
    (active : ∀ log, memory.registered = some log →
      (memory.control.transactionLogs log).isActive = true ∧
        ∀ slot, (memory.control.log log).referenceCountSlots slot = .empty)
    (inactive : ∀ log, (memory.control.transactionLogs log).isActive = false →
      (memory.control.log log).Untouched)
    (moved : next = ⟨object, memory.registered, subscriptionFlags memory⟩) :
    Moved config (config.update memory .user object (.running call rest)) .user
      next := by
  have unclaimed : ∀ flag sample, ¬ Claimed memory.samples
      (update config.object .user object) flag sample := by
    intro flag sample claimed
    apply covered.quiet isQuiet flag sample
    rw [samples] at claimed
    rcases claimed with pooled | ⟨owner, held⟩
    · exact .inl pooled
    · refine .inr ⟨owner, ?_⟩
      by_cases user : owner = .user
      · subst user
        rw [update_self, claims] at held
        exact held
      · rw [update_of_ne user] at held
        exact held
  refine ⟨⟨?_, ?_, ?_, ?_, ?_, inactive, ?_, ?_, ?_, ?_⟩, ?_, ?_⟩
  · intro log slot flag isRegistered set
    rw [update_memory] at set
    rw [(active log isRegistered).2 slot] at set
    cases flag <;> cases set
  · intro flag sample claimed
    exact absurd claimed (unclaimed flag sample)
  · intro _ flag sample claimed
    exact unclaimed flag sample claimed
  · intro _
    rw [update_object_self]
    exact quiet
  · intro log isRegistered
    exact (active log isRegistered).1
  · intro log isFound
    rw [update_object_self] at isFound ⊢
    exact found log isFound
  · intro isLocked
    rw [update_object_self, locked] at isLocked
    rw [update_memory, mutex]
    exact covered.locked isLocked
  · intro other idle
    obtain ⟨distinct, idle⟩ := idle_of_update idle
    rw [update_object_of_ne distinct]
    exact covered.resting other idle
  · intro idle
    exact absurd rfl (idle_of_update idle).1
  · intro other distinct
    cases other with
    | user => exact absurd rfl distinct
    | worker index =>
        simp only [proxyView, update_object_of_ne distinct]
  · rw [moved]
    simp only [proxyView, update_object_self, update_memory]

omit [DecidableEq Worker] [DecidableEq LogIndex] in
/-- While nothing is claimed, no slot is recorded. -/
theorem Covered.unrecorded (covered : Covered config)
    (quiet : (config.object .user).quiet = true) {log : LogIndex}
    (registered : config.memory.registered = some log) (slot : Fin slots) :
    (config.memory.control.log log).referenceCountSlots slot = .empty := by
  have unset : ∀ flag, ((config.memory.control.log log).referenceCountSlots slot).get flag =
        false := by
    intro flag
    apply Bool.eq_false_iff.mpr
    intro set
    exact covered.quiet quiet _ _ (covered.recorded log slot flag registered set)
  have begins := unset .transactionBegin
  have ends := unset .transactionEnd
  cases entry : (config.memory.control.log log).referenceCountSlots slot with
  | mk one two =>
      rw [entry] at begins ends
      cases begins
      cases ends
      rfl

/-- The user writes a flag of the subscription. -/
theorem Covered.setSubscribeFlag (covered : Covered config) {log : LogIndex}
    {flag : LogFlag} {value : Bool} (registered : config.memory.registered = some log)
    (quiet : (config.object .user).quiet = true) (written : memory = { config.memory with
      control := config.memory.control.setLog log
        ((config.memory.control.log log).setFlag .subscribe flag value) }) :
    Moved config (config.update memory .user (config.object .user) (.running call rest)) .user
      { proxyView config .user with
        flags := (subscriptionFlags config.memory).set flag value } := by
  subst written
  have slotsSame : ∀ other, ((config.memory.control.setLog log
        ((config.memory.control.log log).setFlag .subscribe flag value)).log
          other).referenceCountSlots =
        (config.memory.control.log other).referenceCountSlots := by
    intro other
    by_cases same : other = log
    · subst same
      rw [EventControl.log_setLog_self]
      rfl
    · rw [EventControl.log_setLog_of_ne _ same]
  refine covered.whileQuiet quiet quiet (fun _ => rfl) ?_ rfl rfl rfl ?_ ?_ ?_
  · intro other isFound
    obtain ⟨locked, isInactive⟩ := covered.found other isFound
    exact ⟨locked, (EventControl.isActive_setLog _ _).trans isInactive⟩
  · intro other isRegistered
    refine ⟨(EventControl.isActive_setLog _ _).trans
      (covered.active other isRegistered), fun slot => ?_⟩
    dsimp only
    rw [slotsSame]
    exact covered.unrecorded quiet isRegistered slot
  · intro other isInactive
    dsimp only at isInactive ⊢
    rw [EventControl.isActive_setLog] at isInactive
    by_cases same : other = log
    · subst same
      rw [covered.active other registered] at isInactive
      cases isInactive
    · rw [EventControl.log_setLog_of_ne _ same]
      exact covered.inactive other isInactive
  · simp only [proxyView, subscriptionFlags, registered, EventControl.log_setLog_self]
    rfl

/-- The user registers a log that it found inactive. -/
theorem Covered.register (covered : Covered config) {log : LogIndex}
    (quiet : (config.object .user).quiet = true) (isFound : (config.object .user).found = some log)
    (written : memory = { config.memory with
      control := config.memory.control.setNode log
        { config.memory.control.transactionLogs log with isActive := true }
      registered := some log }) :
    Moved config (config.update memory .user
      { config.object .user with found := none } (.running call rest)) .user
      ⟨{ config.object .user with found := none }, some log, .empty⟩ := by
  subst written
  obtain ⟨subscribe, slot⟩ := covered.inactive log (covered.found log isFound).2
  have sameLog : ∀ other, (config.memory.control.setNode log
      { config.memory.control.transactionLogs log with isActive := true }).log
        other = config.memory.control.log other := fun other =>
    EventControl.log_setNode _ rfl
  refine covered.whileQuiet quiet quiet ?_ ?_ rfl rfl rfl ?_ ?_ ?_
  · intro flag
    cases flag <;> rfl
  · intro other impossible
    cases impossible
  · intro other isRegistered
    cases isRegistered
    constructor
    · simp only [EventControl.transactionLogs_setNode_self]
    · intro index
      dsimp only
      rw [sameLog]
      exact slot index
  · intro other isInactive
    dsimp only at isInactive ⊢
    rw [sameLog]
    by_cases same : other = log
    · subst same
      rw [EventControl.transactionLogs_setNode_self] at isInactive
      cases isInactive
    · rw [EventControl.transactionLogs_setNode_of_ne _ same] at isInactive
      exact covered.inactive other isInactive
  · simp only [subscriptionFlags, sameLog, subscribe]

/-- The user unregisters a log in which nothing is recorded. -/
theorem Covered.unregister (covered : Covered config) {log : LogIndex}
    (registered : config.memory.registered = some log) (quiet : (config.object .user).quiet = true)
    (noFlags : subscriptionFlags config.memory = .empty) (written : memory = { config.memory with
      control := config.memory.control.setNode log
        { config.memory.control.transactionLogs log with isActive := false }
      registered := none }) :
    Moved config (config.update memory .user
      { config.object .user with found := none } (.running call rest)) .user
      ⟨{ config.object .user with found := none }, none, .empty⟩ := by
  subst written
  have sameLog : ∀ other, (config.memory.control.setNode log
      { config.memory.control.transactionLogs log with isActive := false }).log
        other = config.memory.control.log other := fun other =>
    EventControl.log_setNode _ rfl
  refine covered.whileQuiet quiet quiet ?_ ?_ rfl rfl rfl ?_ ?_ rfl
  · intro flag
    cases flag <;> rfl
  · intro other impossible
    cases impossible
  · intro other impossible
    cases impossible
  · intro other isInactive
    dsimp only at isInactive ⊢
    rw [sameLog]
    by_cases same : other = log
    · subst same
      refine ⟨?_, covered.unrecorded quiet registered⟩
      simp only [subscriptionFlags, registered] at noFlags
      exact noFlags
    · rw [EventControl.transactionLogs_setNode_of_ne _ same] at isInactive
      exact covered.inactive other isInactive

variable {ampChecked : Bool}

/-- What the operations on the shared memory do to the logs, but for those that
register a log or write a flag. -/
theorem sameLogs_of_outcome {op : ControlOp slots LogIndex} {answer : op.Ret}
    {before after : EventControl slots LogIndex}
    (outcome : (answer, after) ∈ op.outcomes ampChecked before)
    (noMark : ∀ log value, op ≠ .markActive log value)
    (noFlag : ∀ log entry flag value, op ≠ .setFlag log entry flag value) :
    SameLogs before after := by
  cases op with
  | compareExchangeWeak slot expected desired =>
      rcases ControlOp.compareExchangeWeak_outcome outcome with
        ⟨_, _, rfl⟩ | ⟨_, rfl⟩
      · exact fun _ => ⟨rfl, rfl, rfl⟩
      · exact fun _ => ⟨rfl, rfl, rfl⟩
  | compareExchangeStrong slot expected desired =>
      simp only [ControlOp.outcomes] at outcome
      split at outcome
      · cases List.mem_singleton.mp outcome
        exact fun _ => ⟨rfl, rfl, rfl⟩
      · cases List.mem_singleton.mp outcome
        exact fun _ => ⟨rfl, rfl, rfl⟩
  | compareExchangeSubscription expected desired =>
      rcases ControlOp.compareExchangeSubscription_outcome outcome with
        ⟨_, _, rfl⟩ | ⟨_, rfl⟩
      · exact fun _ => ⟨rfl, rfl, rfl⟩
      · exact fun _ => ⟨rfl, rfl, rfl⟩
  | check kind condition =>
      rw [(ControlOp.check_outcome outcome).1]
      exact fun _ => ⟨rfl, rfl, rfl⟩
  | terminate => cases outcome
  | markActive log value => exact absurd rfl (noMark log value)
  | setFlag log entry flag value => exact absurd rfl (noFlag log entry flag value)
  | markNeedsRollback log value =>
      cases List.mem_singleton.mp outcome
      intro other
      by_cases same : other = log
      · subst same
        simp [EventControl.setNode, EventControl.log]
      · simp [EventControl.setNode, EventControl.log, same]
  | setMaxSampleCount log count =>
      cases List.mem_singleton.mp outcome
      intro other
      refine ⟨EventControl.isActive_setLog _ _, ?_⟩
      by_cases same : other = log
      · subst same
        simp
      · simp [EventControl.log_setLog_of_ne _ same]
  | _ =>
      cases List.mem_singleton.mp outcome
      exact fun _ => ⟨rfl, rfl, rfl⟩

/-- An operation on the shared memory. -/
theorem Covered.perform_control (covered : Covered config) {mayReset : Bool}
    {op : ControlOp slots LogIndex} {answer : op.Ret}
    (may : (proxyRules thread.isUser mayReset).may (proxyView config thread) (.control op))
    (outcome : (answer, memory) ∈ (ProxyOp.control op).outcomes ampChecked config.memory)
    (moved : object = (config.object thread).observe (.control op) answer) :
    Moved config (config.update memory thread object (.running call rest)) thread
      ((proxyView config thread).observe (.control op) answer) := by
  subst moved
  obtain ⟨⟨reply, control⟩, inside, same⟩ := List.mem_map.mp outcome
  cases same
  cases op with
  | setFlag log entry flag value =>
      cases entry with
      | slot slot =>
          cases List.mem_singleton.mp inside
          exact covered.setSlotFlag may rfl rfl
      | subscribe =>
          cases List.mem_singleton.mp inside
          cases thread with
          | user => exact covered.setSubscribeFlag may.1 may.2 rfl
          | worker index => cases may.1
  | markActive log value =>
      cases List.mem_singleton.mp inside
      cases thread with
      | user =>
          cases value with
          | true => exact covered.register may.2.2.1 may.2.2.2 rfl
          | false => exact covered.unregister may.2.1 may.2.2.1 may.2.2.2 rfl
      | worker index => cases value <;> cases may.1
  | isActive log =>
      cases reply with
      | true =>
          obtain ⟨_, rfl⟩ := Prod.mk.inj (List.mem_singleton.mp inside)
          exact covered.unmoved (fun _ => ⟨rfl, rfl, rfl⟩) rfl rfl rfl (fun _ => rfl) rfl rfl rfl
      | false =>
          obtain ⟨answered, rfl⟩ := Prod.mk.inj (List.mem_singleton.mp inside)
          change Moved config
            (config.update config.memory thread (if (config.object thread).locked = true then
                { config.object thread with found := some log }
              else config.object thread) (.running call rest)) thread
            { proxyView config thread with
              object := if (config.object thread).locked = true then
                { config.object thread with found := some log }
              else config.object thread }
          split
          · rename_i locked
            refine covered.frame (fun _ => ⟨rfl, rfl, rfl⟩) rfl ?_ rfl ?_ ?_
            · intro flag sample
              apply claimed_update
              cases flag <;> rfl
            · intro _ other isFound
              cases isFound
              exact ⟨locked, answered.symm⟩
            · intro isLocked
              apply covered.locked
              by_cases user : (.user : ProxyThread Worker) = thread
              · subst user
                exact locked
              · rw [update_of_ne user] at isLocked
                exact isLocked
          · exact covered.unmoved (fun _ => ⟨rfl, rfl, rfl⟩) rfl rfl rfl (fun _ => rfl) rfl rfl rfl
  | _ =>
      exact covered.unmoved (sameLogs_of_outcome inside (by simp) (by simp)) rfl
        rfl rfl (fun _ => rfl) rfl rfl rfl

/-- Every operation of a thread that keeps its rules keeps the invariant. -/
theorem Covered.perform (covered : Covered config) {mayReset : Bool} {op : ProxyOp slots LogIndex}
    {answer : op.Ret} (may : (proxyRules thread.isUser mayReset).may (proxyView config thread) op)
    (outcome : (answer, memory) ∈ op.outcomes ampChecked config.memory)
    (moved : object = (config.object thread).observe op answer) :
    Moved config (config.update memory thread object (.running call rest)) thread
      ((proxyView config thread).observe op answer) := by
  subst moved
  cases op with
  | control op => exact covered.perform_control may outcome rfl
  | lock =>
      have byUser : thread = .user := ProxyThread.isUser_iff.mp may
      simp only [ProxyOp.outcomes] at outcome
      split at outcome
      · cases outcome
      · cases List.mem_singleton.mp outcome
        subst byUser
        refine covered.frame (fun _ => ⟨rfl, rfl, rfl⟩) rfl ?_ rfl ?_ fun _ => rfl
        · intro flag sample
          apply claimed_update
          cases flag <;> rfl
        · intro _ log isFound
          exact ⟨rfl, (covered.found log isFound).2⟩
  | unlock =>
      have byUser : thread = .user := ProxyThread.isUser_iff.mp may
      cases List.mem_singleton.mp outcome
      subst byUser
      refine covered.frame (fun _ => ⟨rfl, rfl, rfl⟩) rfl ?_ rfl ?_ ?_
      · intro flag sample
        apply claimed_update
        cases flag <;> rfl
      · intro _ log impossible
        cases impossible
      · intro impossible
        rw [update_self] at impossible
        cases impossible
  | handOver sample =>
      cases List.mem_singleton.mp outcome
      have held : sample ∈ (config.object thread).recorded := may.1
      refine covered.exchange (fun _ => ⟨rfl, rfl, rfl⟩) rfl rfl ?_ rfl rfl rfl
      intro flag other
      by_cases same : other = sample
      · subst same
        cases flag <;> simp [claims, observe, held]
      · cases flag <;>
          simp [claims, observe, same, List.mem_erase_of_ne same]
  | giveUp sample =>
      simp only [ProxyOp.outcomes] at outcome
      split at outcome
      · rename_i pooled
        cases List.mem_singleton.mp outcome
        refine covered.exchange (fun _ => ⟨rfl, rfl, rfl⟩) rfl rfl ?_ rfl rfl rfl
        intro flag other
        by_cases same : other = sample
        · subst same
          cases flag <;> simp [claims, observe, pooled]
        · cases flag <;>
            simp [claims, observe, same, List.mem_erase_of_ne same]
      · cases outcome
  | compareExchangeAvailable expected desired =>
      rcases answer with ⟨won, found⟩
      rcases ProxyOp.compareExchangeAvailable_outcome outcome with
        ⟨rfl, _, rfl⟩ | ⟨rfl, rfl⟩
      · exact covered.unmoved (fun _ => ⟨rfl, rfl, rfl⟩) rfl rfl rfl
          (fun flag => by cases flag <;> rfl) rfl rfl rfl
      · exact covered.unmoved (fun _ => ⟨rfl, rfl, rfl⟩) rfl rfl rfl
          (fun flag => by cases flag <;> rfl) rfl rfl rfl
  | fetchAddAvailable count =>
      cases List.mem_singleton.mp outcome
      have parted : ∀ party : ProxyParty slots LogIndex,
          (∀ flag, (party.observe (.fetchAddAvailable count) ()).claims flag = party.claims flag) ∧
          (party.observe (.fetchAddAvailable count) ()).quiet = party.quiet ∧
          (party.observe (.fetchAddAvailable count) ()).found = party.found ∧
          (party.observe (.fetchAddAvailable count) ()).locked = party.locked := by
        intro party
        simp only [observe]
        split
        · exact ⟨fun flag => by cases flag <;> rfl, rfl, rfl, rfl⟩
        · exact ⟨fun flag => by cases flag <;> rfl, rfl, rfl, rfl⟩
      obtain ⟨claims, quiet, found, locked⟩ := parted (config.object thread)
      exact covered.unmoved (fun _ => ⟨rfl, rfl, rfl⟩) rfl rfl rfl claims quiet found locked
  | _ =>
      cases List.mem_singleton.mp outcome
      exact covered.unmoved (fun _ => ⟨rfl, rfl, rfl⟩) rfl rfl rfl (fun _ => rfl) rfl rfl rfl

/-! ## Calls, returns, and other processes -/

omit [DecidableEq LogIndex] in
/-- Whether anything is collected is decided when a call starts. -/
theorem Covered.setQuiet (covered : Covered config) {quiet : Bool}
    (unclaimed : quiet = true → ∀ flag sample,
      ¬ Claimed config.memory.samples config.object flag sample)
    (subscribed : subscriptionFlags config.memory = .empty → quiet = true) :
    Moved config (config.update config.memory .user
      { config.object .user with quiet } (.running call rest)) .user
      { proxyView config .user with
        object := { config.object .user with quiet } } := by
  have claims : ∀ flag sample, Claimed config.memory.samples
      (update config.object .user { config.object .user with quiet })
        flag sample ↔
      Claimed config.memory.samples config.object flag sample := by
    intro flag sample
    apply claimed_update
    cases flag <;> rfl
  refine ⟨⟨?_, ?_, ?_, ?_, covered.active, covered.inactive, ?_, ?_, ?_, ?_⟩,
    ?_, proxyView_update_self rfl rfl _⟩
  · intro log slot flag registered set
    exact (claims _ _).mpr (covered.recorded log slot flag registered set)
  · intro flag sample claimed
    exact covered.registered flag sample ((claims _ _).mp claimed)
  · intro isQuiet flag sample claimed
    rw [update_object_self] at isQuiet
    exact unclaimed isQuiet flag sample ((claims _ _).mp claimed)
  · intro none
    rw [update_object_self]
    exact subscribed none
  · intro log isFound
    rw [update_object_self] at isFound ⊢
    exact covered.found log isFound
  · intro isLocked
    rw [update_object_self] at isLocked
    exact covered.locked isLocked
  · intro other idle
    obtain ⟨distinct, idle⟩ := idle_of_update idle
    rw [update_object_of_ne distinct]
    exact covered.resting other idle
  · intro idle
    exact absurd rfl (idle_of_update idle).1
  · intro other distinct
    exact proxyView_update_of_ne distinct (fun _ => rfl) (fun _ => rfl) _

/-- When a call starts. -/
theorem Covered.calling (covered : Covered config) {mayReset : Bool}
    (idle : config.activity thread = .idle) (allowed : call.allowed thread = true)
    (unclaimed : call = .unsubscribe → ∀ flag sample,
      ¬ Claimed config.memory.samples config.object flag sample)
    (resets : ∀ maxSampleCount, call = .subscribe maxSampleCount → mayReset = true)
    (limits : EventSubscriptionControl) (transactionLogs : List LogIndex) :
    ∃ next, Moved config (config.update config.memory thread
        ((config.object thread).calling call) (.running call rest)) thread next ∧
      (call.code limits transactionLogs (config.object thread).machine).Respects
        (proxyRules thread.isUser mayReset) next (threadPost thread) := by
  have resting := covered.resting thread idle
  cases thread with
  | worker index =>
      cases call with
      | destroy sample =>
          refine ⟨_, covered.unmoved (fun _ => ⟨rfl, rfl, rfl⟩) rfl rfl rfl
            (fun _ => rfl) rfl rfl rfl, ?_⟩
          refine (ProxyCall.destroy_respects resting sample limits transactionLogs).mono ?_
          rintro _ after rfl
          exact resting
      | _ => cases allowed
  | user =>
      have fits := covered.fits idle
      have unsubscribed : (config.object .user).machine.currentState =
          .notSubscribedState → (config.object .user).quiet = true := by
        intro state
        cases fits with
        | notSubscribed _ _ noFlags => exact covered.subscribed noFlags
        | subscribed other _ _ _ _ _ _ => exact absurd state other
      have keepsRules : ∀ quiet : Bool, call.Ready (config.object .user).machine
            { config.object .user with quiet } →
          (call.code limits transactionLogs
            (config.object .user).machine).Respects (proxyRules true mayReset)
              { proxyView config .user with
                object := { config.object .user with quiet } }
              (threadPost (.user : ProxyThread Worker)) := by
        intro quiet ready
        obtain ⟨closed, nothing, ended, noGuards, noBudget, allReleased, unlocked,
          notFound⟩ := resting
        exact ProxyCall.user_respects rfl call resets
          ⟨closed, nothing, ended, noGuards, noBudget, allReleased, unlocked, notFound⟩
          (fits.withObject _) ready limits transactionLogs
      cases call with
      | unsubscribe =>
          refine ⟨_, covered.setQuiet (fun _ => unclaimed rfl) fun _ => rfl,
            keepsRules true ⟨?_, fun _ => rfl, ?_⟩⟩
          · intro maxSampleCount impossible
            cases impossible
          · intro passes maxNumSamples impossible
            cases impossible
      | getNewSamples passes maxNumSamples =>
          simp only [calling]
          split
          · rename_i state
            refine ⟨_, covered.setQuiet ?_ ?_, keepsRules false ⟨?_, ?_, fun _ _ _ _ => rfl⟩⟩
            · intro impossible
              cases impossible
            · intro noFlags
              cases fits with
              | notSubscribed other _ _ =>
                  rw [state] at other
                  cases other
              | subscribed _ _ _ _ _ _ flags =>
                  have empty : (proxyView config .user).flags = .empty := noFlags
                  rw [flags] at empty
                  cases empty
            · intro maxSampleCount impossible
              cases impossible
            · intro impossible
              cases impossible
          · rename_i state
            refine ⟨_, covered.unmoved (fun _ => ⟨rfl, rfl, rfl⟩) rfl rfl rfl
              (fun _ => rfl) rfl rfl rfl, keepsRules _ ⟨?_, ?_, ?_⟩⟩
            · intro maxSampleCount impossible
              cases impossible
            · intro impossible
              cases impossible
            · intro _ _ _ subscribed
              exact absurd subscribed state
      | _ =>
          refine ⟨_, covered.unmoved (fun _ => ⟨rfl, rfl, rfl⟩) rfl rfl rfl
            (fun _ => rfl) rfl rfl rfl, keepsRules _ ⟨?_, ?_, ?_⟩⟩
          · intro _ _
            exact unsubscribed
          · intro impossible
            cases impossible
          · intro passes maxNumSamples impossible
            cases impossible

omit [DecidableEq LogIndex] in
/-- When a call returns. -/
theorem Covered.finish (covered : Covered config) {reply : ProxyReply LogIndex}
    (post : threadPost thread reply (proxyView config thread))
    {after : ProxyConfig slots LogIndex Worker}
    (finished : after = config.update config.memory thread
      { config.object thread with machine := reply.machine } .idle) :
    Covered after ∧ ∀ other, other ≠ thread → proxyView after other = proxyView config other := by
  subst finished
  have sameUser : ∀ {α : Type} (part : ProxyParty slots LogIndex → α),
      part { config.object thread with machine := reply.machine } = part (config.object thread) →
        part (update config.object thread
          { config.object thread with machine := reply.machine } .user) =
            part (config.object .user) := by
    intro α part same
    by_cases user : (.user : ProxyThread Worker) = thread
    · subst user
      rw [update_self]
      exact same
    · rw [update_of_ne user]
  have claims : ∀ flag sample, Claimed config.memory.samples
      (update config.object thread
        { config.object thread with machine := reply.machine }) flag sample ↔
      Claimed config.memory.samples config.object flag sample := by
    intro flag sample
    apply claimed_update
    cases flag <;> rfl
  have rests : (config.object thread).AtRest := by
    cases thread with
    | user => exact post.rest
    | worker index => exact post
  refine ⟨⟨?_, ?_, ?_, ?_, covered.active, covered.inactive, ?_, ?_, ?_, ?_⟩, ?_⟩
  · intro log slot flag registered set
    exact (claims _ _).mpr (covered.recorded log slot flag registered set)
  · intro flag sample claimed
    exact covered.registered flag sample ((claims _ _).mp claimed)
  · intro isQuiet flag sample claimed
    rw [update_object, sameUser ProxyParty.quiet rfl] at isQuiet
    exact covered.quiet isQuiet flag sample ((claims _ _).mp claimed)
  · intro none
    rw [update_object, sameUser ProxyParty.quiet rfl]
    exact covered.subscribed none
  · intro log isFound
    rw [update_object, sameUser ProxyParty.found rfl] at isFound
    rw [update_object, sameUser ProxyParty.locked rfl]
    exact covered.found log isFound
  · intro isLocked
    rw [update_object, sameUser ProxyParty.locked rfl] at isLocked
    exact covered.locked isLocked
  · intro other idle
    by_cases same : other = thread
    · subst same
      rw [update_object_self]
      obtain ⟨closed, nothing, ended, noGuards, noBudget, allReleased, unlocked, notFound⟩ := rests
      exact ⟨closed, nothing, ended, noGuards, noBudget, allReleased, unlocked, notFound⟩
    · rw [update_activity_of_ne same] at idle
      rw [update_object_of_ne same]
      exact covered.resting other idle
  · intro idle
    by_cases same : (.user : ProxyThread Worker) = thread
    · subst same
      rw [proxyView_update_self rfl rfl, update_object_self]
      exact post.fits.withObject _
    · rw [update_activity_of_ne same] at idle
      rw [proxyView_update_of_ne same (fun _ => rfl) (fun _ => rfl),
        update_object_of_ne same]
      exact covered.fits idle
  · intro other distinct
    exact proxyView_update_of_ne distinct (fun _ => rfl) (fun _ => rfl) _

omit [DecidableEq Worker] [DecidableEq LogIndex] in
/-- When other processes move. -/
theorem Covered.environment (covered : Covered config)
    (moved : OtherProcesses config.memory memory) :
    Covered { config with memory := memory } ∧
      ∀ thread, proxyView { config with memory := memory } thread = proxyView config thread := by
  obtain ⟨process, registered, mutex, inactive⟩ := moved
  have sameRegistered : memory.registered = config.memory.registered := by
    rw [process]
  have sameSamples : memory.samples = config.memory.samples := by
    rw [process]
  have flags : subscriptionFlags memory = subscriptionFlags config.memory := by
    simp only [subscriptionFlags, sameRegistered]
    cases isRegistered : config.memory.registered with
    | none => rfl
    | some log =>
        dsimp only
        rw [(registered log isRegistered).2]
  have views : ∀ thread, proxyView { config with memory := memory } thread =
      proxyView config thread := by
    intro thread
    cases thread with
    | user => simp only [proxyView, sameRegistered, flags]
    | worker index => rfl
  refine ⟨⟨?_, ?_, ?_, ?_, ?_, inactive, ?_, ?_, covered.resting, ?_⟩, views⟩
  · intro log slot flag isRegistered set
    dsimp only at isRegistered set ⊢
    rw [sameRegistered] at isRegistered
    rw [(registered log isRegistered).2] at set
    rw [sameSamples]
    exact covered.recorded log slot flag isRegistered set
  · intro flag sample claimed
    dsimp only at claimed ⊢
    rw [sameSamples] at claimed
    rw [sameRegistered]
    exact covered.registered flag sample claimed
  · intro isQuiet flag sample claimed
    dsimp only at claimed
    rw [sameSamples] at claimed
    exact covered.quiet isQuiet flag sample claimed
  · intro none
    dsimp only at none
    rw [flags] at none
    exact covered.subscribed none
  · intro log isRegistered
    dsimp only at isRegistered ⊢
    rw [sameRegistered] at isRegistered
    rw [(registered log isRegistered).1]
    exact covered.active log isRegistered
  · intro log isFound
    obtain ⟨locked, isInactive⟩ := covered.found log isFound
    exact ⟨locked, (mutex (covered.locked locked) log).trans isInactive⟩
  · intro isLocked
    dsimp only
    rw [process]
    exact covered.locked isLocked
  · intro idle
    rw [views]
    exact covered.fits idle

end Operations

end MwCom
