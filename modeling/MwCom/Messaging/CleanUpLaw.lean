/-
Module: MwCom.Messaging.CleanUpLaw
Purpose: When the provider has forgotten all earlier processes of an application that has
  created a proxy again.
Trusted boundary: none
Main exports: Forgotten, keepsRecord, CleanUpInv, forgotten_of_reached
-/
import Mathlib.Data.Fintype.Basic
import Mathlib.Data.List.FinRange
import MwCom.Messaging.InterestCleanUp

namespace MwCom.InterestCleanUp

open Interleaving Function
open MwCom.Lola (Uid Pid MappingEntryStatus MappingKey MappingEntries MappingOp MappingProgram
  registerPid tryUpdatePidForExistingUid takeUnusedEntry retryTakeUnusedEntry kMaxRetries)
open Program (perform)

variable {size : Nat} {EventId : Type} [DecidableEq EventId]

/-! ## The law -/

/-- Once the living process has created a proxy and all messages have been handled, the provider
has no interested node of an earlier process. -/
def Forgotten (config : InterestConfig size EventId) : Prop :=
  ∀ pid number, config.memory.process = some pid →
    (config.object (.consumer pid number)).hasSucceeded = true → config.memory.channel = [] →
      ∀ event, ∀ earlier ∈ config.memory.earlier, earlier ∉ config.memory.interested event

namespace InterestWorld

variable (world : InterestWorld size EventId)

/-- Every process that the provider is told of is the one that a registration would find. -/
def IsRecorded (uid : Uid) : Prop :=
  ∀ event, ∀ pid ∈ world.settled event, world.recorded uid = some pid

/-- The provider is told of no process but the living one. -/
def NoneStale : Prop := ∀ event, ∀ pid ∈ world.settled event, world.process = some pid

end InterestWorld

/-- No other thread of the process has found an earlier process that the provider is told of and
not yet reported it. -/
def NoneUnreported (config : InterestConfig size EventId) (pid : Pid) (number : Nat) : Prop :=
  ∀ other ∈ config.memory.openedBy, other ≠ number →
    ∀ previous ∈ (config.object (.consumer pid other)).previous, previous ≠ pid →
      ∀ event, previous ∉ config.memory.settled event

/-- A process ends while the memory has the record of what the provider is told of; the memory is
removed while the provider is told of no earlier process; a proxy is created while no other
thread has a process to report. -/
def keepsRecord (uid : Uid) (config : InterestConfig size EventId) :
    InterestEvent size EventId → Prop
  | .perform _ (.surroundings .endProcess) _ => config.memory.IsRecorded uid
  | .perform _ (.consumer _ _ .terminate) _ => config.memory.IsRecorded uid
  | .perform _ (.surroundings .removeMemory) _ => config.memory.NoneStale
  | .finish (.consumer pid number) .executePartialRestartLogic true =>
      config.memory.process = some pid → NoneUnreported config pid number
  | _ => True

/-! ## What a registration does -/

namespace Visitor

/-- The thread has no earlier process to report. -/
def Reported (pid : Pid) (visitor : Visitor size) : Prop :=
  ∀ previous, visitor.previous = some previous → previous = pid

/-- What a registration of the process leaves. -/
structure Registered (pid : Pid) (record : Option (Fin size)) (reply : Option Pid)
    (visitor : Visitor size) : Prop where
  isReady : visitor.isReady = true
  sameRecord : visitor.record = record
  previous : ∀ previous, visitor.previous = some previous → previous = pid ∨ reply = some previous
  stored : ∀ entry, record = some entry → visitor.stored = true ∧ reply ≠ none

end Visitor

section Registering

/-- A thread finds the record of an earlier process before anything else, and then takes no
entry. -/
def registrationRules (uid : Uid) (pid : Pid) :
    Rules (MappingOp size) MappingOp.Ret (Visitor size) where
  may visitor op := visitor.isReady = true ∧
      match op with
      | .loadKey _ => True
      | .loadPid entry =>
          visitor.Reported pid ∧ ∀ record, visitor.record = some record → entry = record
      | .storePid entry stored =>
          stored = pid ∧
            ∀ record, visitor.record = some record → entry = record ∧ visitor.previous ≠ none
      | .storeKey _ _ => visitor.record = none
      | .compareExchangeWeak _ _ _ => visitor.record = none
  expects visitor op answer :=
    match op with
    | .loadKey entry =>
        ∀ record, visitor.record = some record → (entry < record → isOwn uid answer = false) ∧
            (entry = record → MappingKey.statusAndUid answer = (.used, uid))
    | _ => True
  next visitor op answer := visitor.observe (.onMapping op : ConsumerOp size Unit) answer

variable (uid : Uid) (pid : Pid) {visitor : Visitor size}

/-- The record of an earlier process is found. -/
theorem tryUpdate_finds_record {record : Fin size} (rest : List (Fin size))
    (sorted : rest.Pairwise (· < ·)) (inRest : record ∈ rest) (isReady : visitor.isReady = true)
    (reported : visitor.Reported pid) (isRecord : visitor.record = some record) :
    (tryUpdatePidForExistingUid uid pid rest).Respects (registrationRules uid pid) visitor
      fun reply after => reply ≠ none ∧ after.Registered pid (some record) reply := by
  induction rest with
  | nil => cases inRest
  | cons entry rest ih =>
      rw [tryUpdatePidForExistingUid, Program.perform_bind]
      refine ⟨⟨isReady, trivial⟩, fun key expected => ?_⟩
      obtain ⟨before, there⟩ := expected record isRecord
      change Program.Respects _ _ visitor _
      rcases List.mem_cons.mp inRest with same | later
      · -- the entry is used, and its process is loaded before the own one is stored
        obtain ⟨isUsed, isUid⟩ := Prod.mk.inj (there same.symm)
        dsimp only
        rw [if_pos ⟨isUsed, isUid⟩]
        have onlyEntry : ∀ other, visitor.record = some other → entry = other := by
          intro other isOther
          rw [isRecord] at isOther
          rw [← same, Option.some.inj isOther]
        refine ⟨⟨isReady, reported, onlyEntry⟩, fun oldPid _ => ⟨⟨isReady, rfl, ?_⟩, ?_⟩⟩
        · intro other isOther
          refine ⟨onlyEntry other isOther, ?_⟩
          intro impossible
          cases impossible
        · intro _ _
          refine ⟨(fun impossible => nomatch impossible), isReady, isRecord, ?_, ?_⟩
          · intro previous isPrevious
            exact .inr isPrevious
          · intro other _
            refine ⟨?_, (fun impossible => nomatch impossible)⟩
            change (visitor.stored || visitor.record == some entry) = true
            rw [isRecord, same, beq_self_eq_true, Bool.or_true]
      · have isBefore : entry < record := List.rel_of_pairwise_cons sorted later
        have notOwn := before isBefore
        rw [isOwn] at notOwn
        have notUsed : ¬((MappingKey.statusAndUid key).1 = .used ∧
            (MappingKey.statusAndUid key).2 = uid) := by
          rintro ⟨isUsed, isUid⟩
          simp [isUsed, isUid] at notOwn
        have notUpdating : ¬((MappingKey.statusAndUid key).1 = .updating ∧
            (MappingKey.statusAndUid key).2 = uid) := by
          rintro ⟨isUpdating, isUid⟩
          simp [isUpdating, isUid] at notOwn
        dsimp only
        rw [if_neg notUsed, if_neg notUpdating]
        exact ih (List.pairwise_cons.mp sorted).2 later

/-- Nothing to report is left where no earlier process was found. -/
theorem Visitor.Reported.registered {reply : Option Pid} (reported : visitor.Reported pid)
    (isReady : visitor.isReady = true) (noRecord : visitor.record = none) :
    visitor.Registered pid none reply where
  isReady := isReady
  sameRecord := noRecord
  previous previous isPrevious := .inl (reported previous isPrevious)
  stored entry impossible := by cases impossible

/-- Without a record any entry may be found. -/
theorem tryUpdate_without_record (rest : List (Fin size)) (isReady : visitor.isReady = true)
    (reported : visitor.Reported pid) (noRecord : visitor.record = none) :
    (tryUpdatePidForExistingUid uid pid rest).Respects (registrationRules uid pid) visitor
      fun reply after => after.Registered pid none reply ∧ (reply = none → after.Reported pid) := by
  have noEntry : ∀ (later : Visitor size) entry, later.record = visitor.record →
      ∀ record, later.record = some record → entry = record ∧ later.previous ≠ none := by
    intro later entry same record isRecord
    rw [same, noRecord] at isRecord
    cases isRecord
  induction rest with
  | nil => exact ⟨reported.registered pid isReady noRecord, fun _ => reported⟩
  | cons entry rest ih =>
      rw [tryUpdatePidForExistingUid, Program.perform_bind]
      refine ⟨⟨isReady, trivial⟩, fun key _ => ?_⟩
      change Program.Respects _ _ visitor _
      dsimp only
      split
      · refine ⟨⟨isReady, reported, fun record isRecord => (noEntry visitor entry rfl record
          isRecord).1⟩, fun oldPid _ => ⟨⟨isReady, rfl, noEntry _ entry rfl⟩, fun _ _ => ?_⟩⟩
        refine ⟨⟨isReady, noRecord, ?_, ?_⟩, (fun impossible => nomatch impossible)⟩
        · intro previous isPrevious
          exact .inr isPrevious
        · intro _ impossible
          cases impossible
      · split
        · refine ⟨⟨isReady, rfl, noEntry visitor entry rfl⟩, fun _ _ =>
            ⟨⟨isReady, noRecord⟩, fun _ _ => ?_⟩⟩
          refine ⟨⟨isReady, noRecord, ?_, ?_⟩, (fun impossible => nomatch impossible)⟩
          · intro previous isPrevious
            exact .inl (reported previous isPrevious)
          · intro _ impossible
            cases impossible
        · exact ih

theorem takeUnusedEntry_without_record (rest : List (Fin size))
    (isReady : visitor.isReady = true) (reported : visitor.Reported pid)
    (noRecord : visitor.record = none) :
    (takeUnusedEntry uid pid rest).Respects (registrationRules uid pid) visitor
      fun reply after => after.Registered pid none reply ∧ (reply = none → after = visitor) := by
  induction rest with
  | nil => exact ⟨reported.registered pid isReady noRecord, fun _ => rfl⟩
  | cons entry rest ih =>
      rw [takeUnusedEntry, Program.perform_bind]
      refine ⟨⟨isReady, trivial⟩, fun key _ => ?_⟩
      change Program.Respects _ _ visitor _
      dsimp only
      split
      · refine ⟨⟨isReady, noRecord⟩, fun taken _ => ?_⟩
        cases taken with
        | true =>
            refine ⟨⟨isReady, rfl, ?_⟩, fun _ _ => ⟨⟨isReady, noRecord⟩, fun _ _ => ?_⟩⟩
            · intro record isRecord
              change visitor.record = some record at isRecord
              rw [noRecord] at isRecord
              cases isRecord
            · refine ⟨⟨isReady, noRecord, ?_, ?_⟩, (fun impossible => nomatch impossible)⟩
              · intro previous isPrevious
                exact .inl (reported previous isPrevious)
              · intro _ impossible
                cases impossible
        | false => exact ih
      · exact ih

theorem retryTakeUnusedEntry_without_record (retries : Nat) (isReady : visitor.isReady = true)
    (reported : visitor.Reported pid) (noRecord : visitor.record = none) :
    (retryTakeUnusedEntry uid pid retries).Respects (registrationRules uid pid) visitor
      fun reply after => after.Registered pid none reply := by
  induction retries with
  | zero => exact reported.registered pid isReady noRecord
  | succ retries ih =>
      apply (takeUnusedEntry_without_record uid pid (List.finRange size) isReady reported
        noRecord).bind
      intro reply after registered
      cases reply with
      | some found => exact registered.1
      | none =>
          rw [registered.2 rfl]
          exact ih

/-- A registration finds the record of an earlier process and replaces it. -/
theorem registerPid_registers (isReady : visitor.isReady = true) (reported : visitor.Reported pid) :
    (registerPid uid pid : MappingProgram size (Option Pid)).Respects (registrationRules uid pid)
      visitor fun reply after => after.Registered pid visitor.record reply := by
  cases isRecord : visitor.record with
  | some record =>
      apply (tryUpdate_finds_record uid pid (List.finRange size)
        (List.pairwise_lt_finRange size) (List.mem_finRange record) isReady reported isRecord).bind
      intro reply after registered
      cases reply with
      | some found => exact registered.2
      | none => exact absurd rfl registered.1
  | none =>
      apply (tryUpdate_without_record uid pid (List.finRange size) isReady reported isRecord).bind
      intro reply after registered
      cases reply with
      | some found => exact registered.1
      | none =>
          exact retryTakeUnusedEntry_without_record uid pid kMaxRetries registered.1.isReady
            (registered.2 rfl) registered.1.sameRecord

end Registering

/-! ## What the threads keep -/

section Threads

/-- Nothing that is found remains unreported when the thread leaves the memory. -/
def consumerRules (uid : Uid) (pid : Pid) :
    Rules (ConsumerOp size EventId) ConsumerOp.Ret (Visitor size) where
  may visitor op :=
    match op with
    | .openMemory _ => visitor.isReady = false
    | .onMapping op => (registrationRules uid pid).may visitor op
    | .notifyOutdatedNodeId outdatedNodeId =>
        ∀ previous, visitor.previous = some previous → previous = pid ∨ previous = outdatedNodeId
    | .close => visitor.Reported pid
    | _ => True
  expects visitor op answer :=
    match op with
    | .onMapping op => (registrationRules uid pid).expects visitor op answer
    | _ => True
  next visitor op answer := visitor.observe op answer

variable (uid : Uid) (pid : Pid) {visitor : Visitor size}

/-- What registering and notifying leaves. -/
structure Visitor.Informed (pid : Pid) (record : Option (Fin size)) (visitor : Visitor size) :
    Prop where
  isReady : visitor.isReady = true
  sameRecord : visitor.record = record
  reported : visitor.Reported pid
  stored : ∀ entry, record = some entry → visitor.stored = true

omit [DecidableEq EventId] in
theorem registerAndNotify_informs (isReady : visitor.isReady = true)
    (reported : visitor.Reported pid) :
    (ConsumerProgram.registerAndNotify uid pid : ConsumerProgram size EventId Unit).Respects
      (consumerRules uid pid) visitor fun _ after => after.Informed pid visitor.record := by
  have registers : ((registerPid uid pid : MappingProgram size (Option Pid)).lift
      (ConsumerOp.onMapping : _ → ConsumerOp size EventId) fun _ answer => answer).Respects
        (consumerRules uid pid) visitor
        fun reply after => after.Registered pid visitor.record reply := by
    refine Program.Respects.lift ?_ ?_ (registerPid_registers uid pid isReady reported)
    · intro _ _ may
      exact may
    · intro _ op _ expected
      exact ⟨expected, by cases op <;> rfl⟩
  apply registers.bind
  intro reply after registered
  have nothing : ∀ visitor : Visitor size, visitor.previous = none → visitor.Reported pid := by
    intro other isNone previous isPrevious
    rw [isNone] at isPrevious
    cases isPrevious
  cases reply with
  | none =>
      refine ⟨trivial, fun _ _ => ⟨registered.isReady, registered.sameRecord, ?_, ?_⟩⟩
      · exact nothing _ rfl
      · intro entry isRecord
        exact absurd rfl (registered.stored entry isRecord).2
  | some previousPid =>
      dsimp only
      split
      · refine ⟨?_, fun _ _ => ⟨registered.isReady, registered.sameRecord, ?_, ?_⟩⟩
        · intro previous isPrevious
          rcases registered.previous previous isPrevious with isOwn | isReply
          · exact .inl isOwn
          · exact .inr (Option.some.inj isReply).symm
        · exact nothing _ rfl
        · intro entry isRecord
          exact (registered.stored entry isRecord).1
      · rename_i isOwn
        refine ⟨registered.isReady, registered.sameRecord, ?_, ?_⟩
        · intro previous isPrevious
          rcases registered.previous previous isPrevious with same | isReply
          · exact same
          · rw [← Option.some.inj isReply]
            exact not_not.mp isOwn
        · intro entry isRecord
          exact (registered.stored entry isRecord).1

omit [DecidableEq EventId] in
theorem prepareRollback_reports (isReady : visitor.isReady = true)
    (reported : visitor.Reported pid) :
    (ConsumerProgram.prepareRollback uid pid : ConsumerProgram size EventId Unit).Respects
      (consumerRules uid pid) visitor fun _ after =>
        after.isReady = true ∧ after.record = visitor.record ∧ after.Reported pid := by
  refine ⟨trivial, fun _ _ => ⟨trivial, fun isMarked _ => ?_⟩⟩
  change Program.Respects _ _ visitor _
  cases isMarked with
  | true => exact ⟨trivial, fun _ _ => ⟨isReady, rfl, reported⟩⟩
  | false =>
      apply (registerAndNotify_informs uid pid isReady reported).bind
      intro _ after informed
      exact ⟨trivial, fun _ _ => ⟨trivial, fun _ _ =>
        ⟨informed.isReady, informed.sameRecord, informed.reported⟩⟩⟩

/-- What a call leaves. -/
structure InterestCall.Post (pid : Pid) (call : InterestCall size EventId) (reply : Bool)
    (visitor : Visitor size) : Prop where
  reported : visitor.Reported pid
  opened : ∀ address, call = .createSharedMemory address →
    visitor.isOpen = reply ∧ visitor.isReady = false
  informed : call = .executePartialRestartLogic → reply = true → visitor.Informed pid visitor.record

omit [DecidableEq EventId] in
theorem executePartialRestartLogic_informs (isReady : visitor.isReady = true)
    (reported : visitor.Reported pid) :
    (ConsumerProgram.executePartialRestartLogic uid pid :
      ConsumerProgram size EventId Bool).Respects (consumerRules uid pid) visitor
        fun reply after => after.Reported pid ∧
          (reply = true → after.Informed pid after.record) := by
  apply (prepareRollback_reports uid pid isReady reported).bind
  rintro _ after ⟨stillReady, sameRecord, stillReported⟩
  refine ⟨trivial, fun rollbackResult _ => ?_⟩
  change Program.Respects _ _ after _
  cases rollbackResult with
  | true =>
      apply (registerAndNotify_informs uid pid stillReady stillReported).bind
      intro _ last informed
      refine ⟨informed.reported, fun _ => ?_⟩
      rw [informed.sameRecord]
      exact informed
  | false =>
      refine ⟨stillReported, fun _ _ => ⟨?_, (fun impossible => nomatch impossible)⟩⟩
      intro previous impossible
      cases impossible

omit [DecidableEq EventId] in
/-- Calls leave nothing unreported. -/
theorem InterestCall.code_respects (call : InterestCall size EventId)
    (mayCall : visitor.mayCall call = true) (reported : visitor.Reported pid) :
    (call.code uid pid : ConsumerProgram size EventId Bool).Respects (consumerRules uid pid)
      visitor (call.Post pid) := by
  cases call with
  | createSharedMemory address =>
      have notReady : visitor.isReady = false := by
        simpa [Visitor.mayCall] using mayCall
      refine ⟨notReady, fun success _ => ⟨reported, ?_, ?_⟩⟩
      · intro _ _
        exact ⟨rfl, notReady⟩
      · intro impossible
        cases impossible
  | executePartialRestartLogic =>
      have isReady : visitor.isReady = true := by
        rw [Visitor.mayCall, Bool.and_eq_true] at mayCall
        exact mayCall.1
      apply (executePartialRestartLogic_informs uid pid isReady reported).mono
      rintro reply after ⟨stillReported, informed⟩
      refine ⟨stillReported, ?_, fun _ => informed⟩
      intro _ impossible
      cases impossible
  | registerEventNotification event | unregisterEventNotification event =>
      refine ⟨trivial, fun _ _ => ⟨reported, ?_, ?_⟩⟩
      · intro _ impossible
        cases impossible
      · intro impossible
        cases impossible
  | destroyProxy =>
      refine ⟨reported, fun _ _ => ⟨?_, ?_, ?_⟩⟩
      · intro previous impossible
        cases impossible
      · intro _ impossible
        cases impossible
      · intro impossible
        cases impossible
  | surroundings op => cases mayCall

end Threads

/-! ## The record of an earlier process -/

section Records

variable {entries later : MappingEntries size} {uid : Uid} {entry : Fin size}

/-- The first of the own entries is a used one. -/
structure RecordAt (entries : MappingEntries size) (uid : Uid) (entry : Fin size) : Prop where
  used : MappingKey.statusAndUid (entries.key entry) = (.used, uid)
  first : ∀ earlier, earlier < entry → isOwn uid (entries.key earlier) = false

theorem RecordAt.isOwn (isRecord : RecordAt entries uid entry) :
    isOwn uid (entries.key entry) = true := by
  simp [InterestCleanUp.isOwn, isRecord.used]

theorem recordAt_of_recordOf (found : recordOf entries uid = some entry) :
    RecordAt entries uid entry := by
  rw [recordOf, Option.filter_eq_some_iff] at found
  obtain ⟨isFirst, isUsed⟩ := found
  have own := List.find?_some isFirst
  obtain ⟨_, before, behind, split, notOwn⟩ := List.find?_eq_some_iff_append.mp isFirst
  constructor
  · have isUid : (MappingKey.statusAndUid (entries.key entry)).2 = uid := by
      simp only [isOwn, Bool.and_eq_true, beq_iff_eq] at own
      exact own.2
    exact Prod.ext (eq_of_beq isUsed) isUid
  · intro earlier isEarlier
    have sorted := List.pairwise_lt_finRange size
    have inRange := List.mem_finRange earlier
    rw [split] at sorted inRange
    rcases List.mem_append.mp inRange with isBefore | notBefore
    · simpa using notOwn earlier isBefore
    · exfalso
      rcases List.mem_cons.mp notBefore with same | isBehind
      · rw [same] at isEarlier
        exact lt_irrefl _ isEarlier
      · have ordered := (List.pairwise_append.mp sorted).2.1
        exact lt_asymm isEarlier (List.rel_of_pairwise_cons ordered isBehind)

/-- Other users have written: the entries of this one are the same. -/
structure OthersRegister (uid : Uid) (before after : MappingEntries size) : Prop where
  own : ∀ entry, isOwn uid (after.key entry) = isOwn uid (before.key entry)
  key : ∀ entry, isOwn uid (before.key entry) = true →
    after.key entry = before.key entry ∧ after.pid entry = before.pid entry

/-- Registrations of other users change no record. -/
theorem RecordAt.others (isRecord : RecordAt entries uid entry)
    (register : OthersRegister uid entries later) :
    RecordAt later uid entry ∧ later.pid entry = entries.pid entry := by
  obtain ⟨sameKey, samePid⟩ := register.key entry isRecord.isOwn
  refine ⟨⟨?_, ?_⟩, samePid⟩
  · rw [sameKey]
    exact isRecord.used
  · intro earlier isEarlier
    rw [register.own]
    exact isRecord.first earlier isEarlier

/-- Another user writes an entry that is not the own one. -/
theorem othersRegister_of_write {key : MappingKey} {pid : Pid}
    (before : isOwn uid (entries.key entry) = false) (now : isOwn uid key = false) :
    OthersRegister uid entries ((entries.setKey entry key).setPid entry pid) := by
  constructor
  · intro other
    change isOwn uid (update entries.key entry key other) = _
    by_cases same : other = entry
    · rw [same, update_self, before, now]
    · rw [update_of_ne same]
  · intro other own
    have different : other ≠ entry := by
      intro same
      rw [same, before] at own
      cases own
    exact ⟨update_of_ne different .., update_of_ne different ..⟩

theorem recordOf_others (register : OthersRegister uid entries later) :
    (recordOf later uid).map later.pid = (recordOf entries uid).map entries.pid := by
  have sameFind : ((List.finRange size).find? fun entry => isOwn uid (later.key entry)) =
      (List.finRange size).find? fun entry => isOwn uid (entries.key entry) := by
    congr 1
    funext entry
    exact register.own entry
  rw [recordOf, recordOf, sameFind]
  cases found : (List.finRange size).find? fun entry => isOwn uid (entries.key entry) with
  | none => rfl
  | some first =>
      have own := List.find?_some found
      obtain ⟨sameKey, samePid⟩ := register.key first own
      rw [Option.filter_some, Option.filter_some, sameKey]
      split
      · rw [Option.map_some, Option.map_some, samePid]
      · rfl

end Records

/-! ## What the provider is told -/

section Told

variable {world : InterestWorld size EventId} {event : EventId} {pid : Pid}

theorem settled_send (message : InterestMessage EventId) :
    (world.send message).settled = message.handle world.settled := by
  rw [InterestWorld.settled, InterestWorld.send, List.foldl_append]
  rfl

/-- A process is told of when it registers, or has been told of before. -/
theorem mem_handle {interested : EventId → Finset Pid} {message : InterestMessage EventId}
    (told : pid ∈ message.handle interested event) :
    pid ∈ interested event ∧ message ≠ .outdatedNodeId pid ∨
      message = .registerEventNotification event pid := by
  cases message with
  | registerEventNotification other node =>
      rw [InterestMessage.handle] at told
      by_cases same : event = other
      · rw [same, update_self, Finset.mem_insert] at told
        rcases told with isNode | before
        · right
          rw [same, isNode]
        · left
          rw [same]
          exact ⟨before, fun impossible => nomatch impossible⟩
      · rw [update_of_ne same] at told
        exact .inl ⟨told, fun impossible => nomatch impossible⟩
  | unregisterEventNotification other node =>
      rw [InterestMessage.handle] at told
      refine .inl ⟨?_, fun impossible => nomatch impossible⟩
      by_cases same : event = other
      · rw [same, update_self] at told
        rw [same]
        exact Finset.mem_of_mem_erase told
      · rwa [update_of_ne same] at told
  | outdatedNodeId node =>
      rw [InterestMessage.handle, Finset.mem_erase] at told
      refine .inl ⟨told.2, ?_⟩
      intro same
      cases same
      exact told.1 rfl

end Told

/-! ## What holds in every state -/

section Invariant

/-- What holds of a thread of the living process. -/
structure ThreadInv (world : InterestWorld size EventId) (pid : Pid) (number : Nat)
    (visitor : Visitor size) : Prop where
  opened : visitor.isOpen = true → number ∈ world.openedBy
  ready : visitor.isReady = true → visitor.isOpen = true ∧ visitor.record = world.record
  loaded : visitor.isReady = true → visitor.stored = false → ∀ entries record previous,
    world.mapping = some entries → world.record = some record → visitor.previous = some previous →
        entries.pid record = previous ∨ entries.pid record = pid
  stored : visitor.isReady = true → visitor.stored = true → ∀ entries record,
    world.mapping = some entries → world.record = some record → entries.pid record = pid
  succeeded : visitor.hasSucceeded = true → ∀ event, ∀ told ∈ world.settled event, told = pid

/-- An earlier process that the provider is told of is recorded, or a thread of the living
process is about to report it. -/
def StaleAreKnown (world : InterestWorld size EventId) (object : Agent → Visitor size)
    (pid : Pid) : Prop :=
  ∀ event, ∀ told ∈ world.settled event, told ≠ pid →
    (∃ entries record, world.mapping = some entries ∧ world.record = some record ∧
        entries.pid record = told) ∨
      ∃ number, (object (.consumer pid number)).isReady = true ∧
        (object (.consumer pid number)).previous = some told

structure CleanUpInv (uid : Uid) (world : InterestWorld size EventId)
    (object : Agent → Visitor size) : Prop where
  recordAt : ∀ record, world.record = some record →
    ∃ entries, world.mapping = some entries ∧ RecordAt entries uid record
  present : ∀ number ∈ world.openedBy, world.mapping ≠ none
  isNew : ∀ pid, world.process = some pid → pid ∉ world.earlier
  ended : world.process = none → world.IsRecorded uid
  thread : ∀ pid number, world.process = some pid →
    ThreadInv world pid number (object (.consumer pid number))
  stale : ∀ pid, world.process = some pid → StaleAreKnown world object pid
  unborn : ∀ pid number, world.process ≠ some pid → pid ∉ world.earlier →
    object (.consumer pid number) = .away false

variable {uid : Uid} {world after : InterestWorld size EventId} {object : Agent → Visitor size}
  {pid : Pid} {number : Nat} {visitor : Visitor size}

/-- A thread of the living process moves. -/
theorem CleanUpInv.moved (inv : CleanUpInv uid world object)
    (isProcess : world.process = some pid) (process : after.process = some pid)
    (earlier : after.earlier = world.earlier) (recordAt : ∀ record, after.record = some record →
      ∃ entries, after.mapping = some entries ∧ RecordAt entries uid record)
    (present : ∀ number ∈ after.openedBy, after.mapping ≠ none)
    (own : ThreadInv after pid number visitor) (others : ∀ other, other ≠ number →
      ThreadInv after pid other (object (.consumer pid other)))
    (stale : StaleAreKnown after (update object (.consumer pid number) visitor) pid) :
    CleanUpInv uid after (update object (.consumer pid number) visitor) := by
  constructor
  · exact recordAt
  · exact present
  · intro other isOther
    rw [process] at isOther
    rw [earlier, ← Option.some.inj isOther]
    exact inv.isNew pid isProcess
  · intro impossible
    rw [process] at impossible
    cases impossible
  · intro other otherNumber isOther
    rw [process] at isOther
    cases isOther
    by_cases same : otherNumber = number
    · rw [same, update_self]
      exact own
    · rw [update_of_ne]
      · exact others otherNumber same
      · intro isSame
        cases isSame
        exact same rfl
  · intro other isOther
    rw [process] at isOther
    cases isOther
    exact stale
  · intro other otherNumber notProcess isNew
    rw [process] at notProcess
    rw [earlier] at isNew
    rw [update_of_ne]
    · apply inv.unborn other otherNumber _ isNew
      rw [isProcess]
      exact notProcess
    · intro isSame
      cases isSame
      exact notProcess rfl

/-- What is known of earlier processes stays known where a thread changes that had none to
report, or still has it. -/
theorem StaleAreKnown.moved (stale : StaleAreKnown world object pid)
    (told : ∀ event, ∀ told ∈ after.settled event, told ≠ pid → told ∈ world.settled event)
    (recorded : ∀ event, ∀ told ∈ after.settled event, told ≠ pid → ∀ entries record,
      world.mapping = some entries → world.record = some record → entries.pid record = told →
        (∃ entries record, after.mapping = some entries ∧ after.record = some record ∧
          entries.pid record = told) ∨ (visitor.isReady = true ∧ visitor.previous = some told))
    (reports : ∀ event, ∀ told ∈ after.settled event, told ≠ pid →
      (object (.consumer pid number)).isReady = true →
        (object (.consumer pid number)).previous = some told →
          visitor.isReady = true ∧ visitor.previous = some told) :
    StaleAreKnown after (update object (.consumer pid number) visitor) pid := by
  intro event stranger isTold isOther
  rcases stale event stranger (told event stranger isTold isOther) isOther with
    ⟨entries, record, isMapping, isRecord, isPid⟩ | ⟨other, isReady, hasPrevious⟩
  · rcases recorded event stranger isTold isOther entries record isMapping isRecord isPid with
      isRecorded | isReporting
    · exact .inl isRecorded
    · right
      refine ⟨number, ?_⟩
      rw [update_self]
      exact isReporting
  · right
    by_cases same : other = number
    · rw [same] at isReady hasPrevious
      refine ⟨number, ?_⟩
      rw [update_self]
      exact reports event stranger isTold isOther isReady hasPrevious
    · refine ⟨other, ?_⟩
      rw [update_of_ne]
      · exact ⟨isReady, hasPrevious⟩
      · intro isSame
        cases isSame
        exact same rfl

theorem ThreadInv.moved (thread : ThreadInv world pid number visitor)
    (openedBy : number ∈ world.openedBy → number ∈ after.openedBy)
    (record : after.record = world.record)
    (mapping : ∀ entries record, after.mapping = some entries → world.record = some record →
      entries.pid record = pid ∨
        ∃ before, world.mapping = some before ∧ before.pid record = entries.pid record)
    (told : ∀ event, ∀ told ∈ after.settled event, told ≠ pid → told ∈ world.settled event) :
    ThreadInv after pid number visitor := by
  constructor
  · intro isOpen
    exact openedBy (thread.opened isOpen)
  · rw [record]
    exact thread.ready
  · intro isReady notStored entries entry previous isMapping isRecord hasPrevious
    rw [record] at isRecord
    rcases mapping entries entry isMapping isRecord with isOwn | ⟨before, wasMapping, same⟩
    · exact .inr isOwn
    · rw [← same]
      exact thread.loaded isReady notStored before entry previous wasMapping isRecord hasPrevious
  · intro isReady isStored entries entry isMapping isRecord
    rw [record] at isRecord
    rcases mapping entries entry isMapping isRecord with isOwn | ⟨before, wasMapping, same⟩
    · exact isOwn
    · rw [← same]
      exact thread.stored isReady isStored before entry wasMapping isRecord
  · intro hasSucceeded event stranger isTold
    by_contra isOther
    exact isOther (thread.succeeded hasSucceeded event stranger (told event stranger isTold
      isOther))

/-- Other processes of the provider's world tell it of outdated ones. -/
theorem CleanUpInv.told_less (inv : CleanUpInv uid world object)
    (process : after.process = world.process) (earlier : after.earlier = world.earlier)
    (openedBy : after.openedBy = world.openedBy) (mapping : after.mapping = world.mapping)
    (record : after.record = world.record)
    (told : ∀ event, ∀ told ∈ after.settled event, told ∈ world.settled event) :
    CleanUpInv uid after object := by
  constructor
  · rw [record, mapping]
    exact inv.recordAt
  · rw [openedBy, mapping]
    exact inv.present
  · rw [process, earlier]
    exact inv.isNew
  · rw [process]
    intro noProcess event stranger isTold
    rw [InterestWorld.recorded, mapping]
    exact inv.ended noProcess event stranger (told event stranger isTold)
  · intro pid number isProcess
    rw [process] at isProcess
    apply (inv.thread pid number isProcess).moved
    · rw [openedBy]
      exact fun isOpened => isOpened
    · exact record
    · intro entries entry isMapping _
      rw [mapping] at isMapping
      exact .inr ⟨entries, isMapping, rfl⟩
    · intro event stranger isTold _
      exact told event stranger isTold
  · intro pid isProcess event stranger isTold isOther
    rw [process] at isProcess
    rw [mapping, record]
    exact inv.stale pid isProcess event stranger (told event stranger isTold) isOther
  · rw [process, earlier]
    exact inv.unborn

/-- The world changes where no thread and no record is concerned. -/
theorem CleanUpInv.quiet (inv : CleanUpInv uid world object)
    (process : after.process = world.process) (earlier : after.earlier = world.earlier)
    (openedBy : after.openedBy = world.openedBy) (mapping : after.mapping = world.mapping)
    (record : after.record = world.record) (settled : after.settled = world.settled) :
    CleanUpInv uid after object := by
  apply inv.told_less process earlier openedBy mapping record
  intro event told isTold
  rwa [settled] at isTold

/-- The threads of the process see the same world but for what it is told of the process
itself. -/
theorem CleanUpInv.sends {message : InterestMessage EventId} (inv : CleanUpInv uid world object)
    (isProcess : world.process = some pid)
    (registers : ∀ event node, message = .registerEventNotification event node → node = pid)
    (ready : visitor.isReady = (object (.consumer pid number)).isReady)
    (isOpen : visitor.isOpen = (object (.consumer pid number)).isOpen)
    (record : visitor.record = (object (.consumer pid number)).record)
    (stored : visitor.stored = (object (.consumer pid number)).stored)
    (succeeded : visitor.hasSucceeded = (object (.consumer pid number)).hasSucceeded)
    (previous : ∀ previous, visitor.previous = some previous →
      (object (.consumer pid number)).previous = some previous)
    (reports : ∀ told, told ≠ pid → message ≠ .outdatedNodeId told →
      (object (.consumer pid number)).previous = some told → visitor.previous = some told) :
    CleanUpInv uid (world.send message)
      (update object (.consumer pid number) visitor) := by
  have told : ∀ event, ∀ told ∈ (world.send message).settled event, told ≠ pid →
      told ∈ world.settled event ∧ message ≠ .outdatedNodeId told := by
    intro event stranger isTold isOther
    rw [settled_send] at isTold
    rcases mem_handle isTold with before | isRegister
    · exact before
    · exact absurd (registers event stranger isRegister) isOther
  have threads : ∀ other, ThreadInv (world.send message) pid other (object (.consumer pid other)) := by
    intro other
    apply (inv.thread pid other isProcess).moved
    · exact fun isOpened => isOpened
    · rfl
    · intro entries record isMapping _
      exact .inr ⟨entries, isMapping, rfl⟩
    · intro event stranger isTold isOther
      exact (told event stranger isTold isOther).1
  have sameProcess : (world.send message).process = some pid := isProcess
  apply inv.moved isProcess sameProcess
  · rfl
  · exact inv.recordAt
  · exact inv.present
  · obtain ⟨wasOpened, wasReady, wasLoaded, wasStored, hadSucceeded⟩ := threads number
    constructor
    · rw [isOpen]
      exact wasOpened
    · rw [ready, isOpen, record]
      exact wasReady
    · rw [ready, stored]
      intro isReady notStored entries entry found isMapping isRecord hasPrevious
      exact wasLoaded isReady notStored entries entry found isMapping isRecord
        (previous found hasPrevious)
    · rw [ready, stored]
      exact wasStored
    · rw [succeeded]
      exact hadSucceeded
  · intro other _
    exact threads other
  · apply (inv.stale pid isProcess).moved
    · intro event stranger isTold isOther
      exact (told event stranger isTold isOther).1
    · intro event stranger isTold isOther entries entry isMapping isRecord isPid
      exact .inl ⟨entries, entry, isMapping, isRecord, isPid⟩
    · intro event stranger isTold isOther isReady hasPrevious
      rw [ready]
      exact ⟨isReady, reports stranger isOther (told event stranger isTold isOther).2 hasPrevious⟩

/-- A process ends where all that the provider is told of is recorded. -/
theorem CleanUpInv.ends (inv : CleanUpInv uid world object) (isProcess : world.process = some pid)
    (isRecorded : world.IsRecorded uid) {changed : Agent → Visitor size}
    (unchanged : ∀ other number, other ≠ pid →
      changed (.consumer other number) = object (.consumer other number)) :
    CleanUpInv uid (world.endProcess pid) changed := by
  constructor
  · exact inv.recordAt
  · intro number isOpened
    cases isOpened
  · intro other impossible
    cases impossible
  · exact fun _ => isRecorded
  · intro other number impossible
    cases impossible
  · intro other impossible
    cases impossible
  · intro other number _ isNew
    change other ∉ insert pid world.earlier at isNew
    rw [Finset.mem_insert, not_or] at isNew
    rw [unchanged other number isNew.1]
    apply inv.unborn other number _ isNew.2
    intro isOther
    rw [isProcess] at isOther
    exact isNew.1 (Option.some.inj isOther).symm

/-- The entries change, but the record only to the living process. -/
theorem CleanUpInv.maps {entries later : MappingEntries size} (inv : CleanUpInv uid world object)
    (isProcess : world.process = some pid) (isMapping : world.mapping = some entries)
    (recordAt : ∀ record, world.record = some record → RecordAt later uid record)
    (pids : ∀ record, world.record = some record →
      later.pid record = pid ∨ entries.pid record = later.pid record)
    (own : ThreadInv { world with mapping := some later } pid number visitor)
    (recorded : ∀ record, world.record = some record → entries.pid record ≠ pid →
      later.pid record = entries.pid record ∨
        (visitor.isReady = true ∧ visitor.previous = some (entries.pid record)))
    (reports : ∀ told, told ≠ pid → (object (.consumer pid number)).isReady = true →
      (object (.consumer pid number)).previous = some told →
        visitor.isReady = true ∧ visitor.previous = some told) :
    CleanUpInv uid { world with mapping := some later }
      (update object (.consumer pid number) visitor) := by
  have sameProcess : ({ world with mapping := some later } :
      InterestWorld size EventId).process = some pid := isProcess
  apply inv.moved isProcess sameProcess
  · rfl
  · intro record isRecord
    exact ⟨later, rfl, recordAt record isRecord⟩
  · intro other _ impossible
    cases impossible
  · exact own
  · intro other _
    apply (inv.thread pid other isProcess).moved
    · exact fun isOpened => isOpened
    · rfl
    · intro others record isLater isRecord
      cases isLater
      rcases pids record isRecord with isOwn | same
      · exact .inl isOwn
      · exact .inr ⟨entries, isMapping, same⟩
    · intro event stranger isTold _
      exact isTold
  · apply (inv.stale pid isProcess).moved
    · intro event stranger isTold _
      exact isTold
    · intro event stranger isTold isOther before record wasMapping isRecord isPid
      rw [isMapping] at wasMapping
      cases wasMapping
      rw [← isPid] at isOther ⊢
      rcases recorded record isRecord isOther with same | isReporting
      · exact .inl ⟨later, record, rfl, isRecord, same⟩
      · exact .inr isReporting
    · intro event stranger _ isOther isReady hasPrevious
      exact reports stranger isOther isReady hasPrevious

variable {entries : MappingEntries size}

section

variable (inv : CleanUpInv uid world object)

include inv

/-- Without a record the entries may change in any way. -/
theorem CleanUpInv.without_record {later : MappingEntries size}
    (isProcess : world.process = some pid) (isMapping : world.mapping = some entries)
    (isReady : (object (.consumer pid number)).isReady = true) (noRecord : world.record = none) :
    CleanUpInv uid { world with mapping := some later }
      (update object (.consumer pid number) (object (.consumer pid number))) := by
  have thread := inv.thread pid number isProcess
  have never : ∀ {record}, world.record ≠ some record := by
    intro record isRecord
    rw [noRecord] at isRecord
    cases isRecord
  apply inv.maps isProcess isMapping
  · intro record isRecord
    exact absurd isRecord never
  · intro record isRecord
    exact absurd isRecord never
  · constructor
    · exact thread.opened
    · exact thread.ready
    · intro _ _ _ record _ _ isRecord
      exact absurd isRecord never
    · intro _ _ _ record _ isRecord
      exact absurd isRecord never
    · exact thread.succeeded
  · intro record isRecord
    exact absurd isRecord never
  · intro told _ _ hasPrevious
    exact ⟨isReady, hasPrevious⟩

/-- A step of a registration. -/
theorem CleanUpInv.onMapping {later : MappingEntries size} {op : MappingOp size} {answer : op.Ret}
    (isProcess : world.process = some pid) (isMapping : world.mapping = some entries)
    (may : (registrationRules uid pid).may (object (.consumer pid number)) op)
    (outcome : (answer, later) ∈ op.outcomes entries) :
    CleanUpInv uid { world with mapping := some later }
        (update object (.consumer pid number)
          ((object (.consumer pid number)).observe (.onMapping op : ConsumerOp size EventId)
            answer)) ∧
      (registrationRules uid pid).expects (object (.consumer pid number)) op answer := by
  obtain ⟨isReady, may⟩ := may
  have thread := inv.thread pid number isProcess
  have sameRecord := (thread.ready isReady).2
  have recordAt : ∀ record, world.record = some record → RecordAt entries uid record := by
    intro record isRecord
    obtain ⟨others, isOthers, isAt⟩ := inv.recordAt record isRecord
    rw [isMapping] at isOthers
    rw [Option.some.inj isOthers]
    exact isAt
  have unchanged : ({ world with mapping := some entries } : InterestWorld size EventId) =
      world := by
    rw [← isMapping]
  cases op with
  | loadKey entry =>
      cases List.mem_singleton.mp outcome
      constructor
      · rw [unchanged]
        change CleanUpInv uid world (update object _ (object _))
        rw [update_eq_self]
        exact inv
      · intro record isRecord
        rw [sameRecord] at isRecord
        have isAt := recordAt record isRecord
        constructor
        · exact isAt.first entry
        · intro same
          rw [same]
          exact isAt.used
  | loadPid entry =>
      cases List.mem_singleton.mp outcome
      obtain ⟨reported, isRecordEntry⟩ := may
      refine ⟨?_, trivial⟩
      apply inv.maps isProcess isMapping recordAt
      · intro record _
        exact .inr rfl
      · rw [unchanged]
        constructor
        · exact thread.opened
        · exact thread.ready
        · intro _ _ others record previous isOthers isRecord hasPrevious
          rw [isMapping] at isOthers
          cases isOthers
          have same := isRecordEntry record (sameRecord.trans isRecord)
          rw [← same]
          exact .inl (Option.some.inj hasPrevious)
        · exact thread.stored
        · exact thread.succeeded
      · intro record _ _
        exact .inl rfl
      · intro told isOther _ hasPrevious
        exact absurd (reported told hasPrevious) isOther
  | storePid entry stored =>
      cases List.mem_singleton.mp outcome
      obtain ⟨rfl, isRecordEntry⟩ := may
      refine ⟨?_, trivial⟩
      have now : ∀ record, world.record = some record →
          (entries.setPid entry stored).pid record = stored := by
        intro record isRecord
        rw [(isRecordEntry record (sameRecord.trans isRecord)).1]
        exact update_self ..
      apply inv.maps isProcess isMapping
      · intro record isRecord
        have isAt := recordAt record isRecord
        exact ⟨isAt.used, isAt.first⟩
      · intro record isRecord
        exact .inl (now record isRecord)
      · constructor
        · exact thread.opened
        · exact thread.ready
        · intro _ notStored others record previous _ isRecord _
          exfalso
          have same := (isRecordEntry record (sameRecord.trans isRecord)).1
          change ((object (.consumer stored number)).stored ||
            (object (.consumer stored number)).record == some entry) = false at notStored
          rw [sameRecord, isRecord, same, beq_self_eq_true, Bool.or_true] at notStored
          cases notStored
        · intro _ _ others record isOthers isRecord
          cases isOthers
          exact now record isRecord
        · exact thread.succeeded
      · intro record isRecord isOther
        right
        refine ⟨isReady, ?_⟩
        have hasPrevious := (isRecordEntry record (sameRecord.trans isRecord)).2
        obtain ⟨previous, isPrevious⟩ := Option.ne_none_iff_exists'.mp hasPrevious
        have notStored : (object (.consumer stored number)).stored = false := by
          apply Bool.eq_false_iff.mpr
          intro isStored
          exact isOther (thread.stored isReady isStored entries record isMapping isRecord)
        rcases thread.loaded isReady notStored entries record previous isMapping isRecord
          isPrevious with isPid | isOwn
        · rw [isPid]
          exact isPrevious
        · exact absurd isOwn isOther
      · intro told _ _ hasPrevious
        exact ⟨isReady, hasPrevious⟩
  | storeKey entry key =>
      cases List.mem_singleton.mp outcome
      refine ⟨?_, trivial⟩
      exact inv.without_record isProcess isMapping isReady (sameRecord.symm.trans may)
  | compareExchangeWeak entry expected desired =>
      refine ⟨?_, trivial⟩
      exact inv.without_record isProcess isMapping isReady (sameRecord.symm.trans may)

/-- A thread that has not opened the memory tries to. -/
theorem CleanUpInv.opens (isProcess : world.process = some pid)
    (notReady : (object (.consumer pid number)).isReady = false) (address : Nat) (success : Bool)
    (isThere : success = true → world.mapping ≠ none) :
    CleanUpInv uid (if success then world.openMemory number address else world)
      (update object (.consumer pid number)
        { object (.consumer pid number) with isOpen := success }) := by
  have thread := inv.thread pid number isProcess
  have never : (object (.consumer pid number)).isReady ≠ true := Bool.eq_false_iff.mp notReady
  have stale : ∀ after : InterestWorld size EventId, after.settled = world.settled →
      after.mapping = world.mapping → after.record = world.record →
        StaleAreKnown after (update object (.consumer pid number)
          { object (.consumer pid number) with isOpen := success }) pid := by
    intro after settled mapping record
    apply (inv.stale pid isProcess).moved
    · intro event stranger isTold _
      rwa [settled] at isTold
    · intro event stranger _ _ entries entry isMapping isRecord isPid
      rw [mapping, record]
      exact .inl ⟨entries, entry, isMapping, isRecord, isPid⟩
    · intro event stranger _ _ isReady _
      exact absurd isReady never
  cases success with
  | true =>
      have sameProcess : (world.openMemory number address).process = some pid := isProcess
      rw [if_pos rfl]
      apply inv.moved isProcess sameProcess
      · rfl
      · exact inv.recordAt
      · intro _ _
        exact isThere rfl
      · constructor
        · intro _
          exact Finset.mem_insert_self _ _
        · intro isReady
          exact absurd isReady never
        · intro isReady
          exact absurd isReady never
        · intro isReady
          exact absurd isReady never
        · exact thread.succeeded
      · intro other _
        apply (inv.thread pid other isProcess).moved
        · exact Finset.mem_insert_of_mem
        · rfl
        · intro entries record isMapping _
          exact .inr ⟨entries, isMapping, rfl⟩
        · intro event stranger isTold _
          exact isTold
      · exact stale _ rfl rfl rfl
  | false =>
      rw [if_neg Bool.noConfusion]
      apply inv.moved isProcess isProcess rfl inv.recordAt inv.present
      · constructor
        · intro impossible
          cases impossible
        · intro isReady
          exact absurd isReady never
        · intro isReady
          exact absurd isReady never
        · intro isReady
          exact absurd isReady never
        · exact thread.succeeded
      · intro other _
        exact inv.thread pid other isProcess
      · exact stale world rfl rfl rfl

/-- A thread without anything to report leaves the memory. -/
theorem CleanUpInv.closes (isProcess : world.process = some pid)
    (reported : (object (.consumer pid number)).Reported pid) :
    CleanUpInv uid (world.close number)
      (update object (.consumer pid number)
        (.away (object (.consumer pid number)).hasSucceeded)) := by
  have sameProcess : (world.close number).process = some pid := isProcess
  have thread := inv.thread pid number isProcess
  apply inv.moved isProcess sameProcess
  · rfl
  · exact inv.recordAt
  · intro other isOpened
    exact inv.present other (Finset.mem_of_mem_erase isOpened)
  · constructor
    · intro impossible
      cases impossible
    · intro impossible
      cases impossible
    · intro impossible
      cases impossible
    · intro impossible
      cases impossible
    · exact thread.succeeded
  · intro other isOther
    apply (inv.thread pid other isProcess).moved
    · intro isOpened
      exact Finset.mem_erase_of_ne_of_mem isOther isOpened
    · rfl
    · intro entries record isMapping _
      exact .inr ⟨entries, isMapping, rfl⟩
    · intro event stranger isTold _
      exact isTold
  · apply (inv.stale pid isProcess).moved
    · intro event stranger isTold _
      exact isTold
    · intro event stranger _ _ entries entry isMapping isRecord isPid
      exact .inl ⟨entries, entry, isMapping, isRecord, isPid⟩
    · intro event stranger _ isOther _ hasPrevious
      exact absurd (reported stranger hasPrevious) isOther

/-- What a thread of the living process does. -/
theorem CleanUpInv.performs {op : ConsumerOp size EventId} {answer : op.Ret}
    (isProcess : world.process = some pid)
    (may : (consumerRules uid pid).may (object (.consumer pid number)) op)
    (outcome : (answer, after) ∈ op.outcomes pid number world)
    (recorded : op = .terminate → world.IsRecorded uid) :
    CleanUpInv uid after
        (update object (.consumer pid number) ((object (.consumer pid number)).observe op answer)) ∧
      (consumerRules uid pid).expects (object (.consumer pid number)) op answer := by
  have same : update object (.consumer pid number) (object (.consumer pid number)) = object :=
    update_eq_self _ _
  cases op with
  | openMemory address =>
      refine ⟨?_, trivial⟩
      rcases List.mem_cons.mp outcome with failed | opened
      · cases failed
        exact inv.opens isProcess may address false (fun impossible => nomatch impossible)
      · split at opened
        · rename_i isThere
          cases List.mem_singleton.mp opened
          apply inv.opens isProcess may address true
          intro _ isNone
          rw [isNone] at isThere
          cases isThere
        · cases opened
  | lockSet =>
      rw [ConsumerOp.outcomes] at outcome
      split at outcome
      · cases List.mem_singleton.mp outcome
        refine ⟨?_, trivial⟩
        change CleanUpInv uid _ (update object _ (object _))
        rw [same]
        exact inv.quiet rfl rfl rfl rfl rfl rfl
      · cases outcome
  | isMarked =>
      cases List.mem_singleton.mp outcome
      refine ⟨?_, trivial⟩
      change CleanUpInv uid _ (update object _ (object _))
      rw [same]
      exact inv
  | onMapping op =>
      rw [ConsumerOp.outcomes] at outcome
      split at outcome
      · rename_i entries isMapping
        obtain ⟨⟨given, later⟩, possible, isSame⟩ := List.mem_map.mp outcome
        cases isSame
        exact inv.onMapping isProcess isMapping may possible
      · cases outcome
  | notifyOutdatedNodeId outdatedNodeId =>
      cases List.mem_singleton.mp outcome
      refine ⟨?_, trivial⟩
      apply inv.sends isProcess
      · intro event node impossible
        cases impossible
      all_goals first | rfl | skip
      · intro previous impossible
        cases impossible
      · intro told isOther notSent hasPrevious
        rcases may told hasPrevious with isOwn | isSent
        · exact absurd isOwn isOther
        · rw [isSent] at notSent
          exact absurd rfl notSent
  | markTransactionLogsNeedRollback =>
      cases List.mem_singleton.mp outcome
      refine ⟨?_, trivial⟩
      change CleanUpInv uid _ (update object _ (object _))
      rw [same, InterestWorld.mark]
      split
      · exact inv.quiet rfl rfl rfl rfl rfl rfl
      · exact inv
  | unlockSet =>
      cases List.mem_singleton.mp outcome
      refine ⟨?_, trivial⟩
      change CleanUpInv uid _ (update object _ (object _))
      rw [same]
      exact inv.quiet rfl rfl rfl rfl rfl rfl
  | rollbackProxyTransactions =>
      have sameWorld : after = world := by
        rcases List.mem_cons.mp outcome with succeeded | failed
        · exact (Prod.mk.inj succeeded).2
        · exact (Prod.mk.inj (List.mem_singleton.mp failed)).2
      refine ⟨?_, trivial⟩
      change CleanUpInv uid _ (update object _ (object _))
      rw [same, sameWorld]
      exact inv
  | close =>
      cases List.mem_singleton.mp outcome
      exact ⟨inv.closes isProcess may, trivial⟩
  | terminate =>
      cases List.mem_singleton.mp outcome
      refine ⟨inv.ends isProcess (recorded rfl) ?_, trivial⟩
      intro other otherNumber isOther
      rw [update_of_ne]
      intro isSame
      cases isSame
      exact isOther rfl
  | registerEventNotification event =>
      cases List.mem_singleton.mp outcome
      refine ⟨?_, trivial⟩
      apply inv.sends isProcess
      · intro other node isMessage
        cases isMessage
        rfl
      all_goals first | rfl | skip
      · exact fun _ hasPrevious => hasPrevious
      · exact fun _ _ _ hasPrevious => hasPrevious
  | unregisterEventNotification event =>
      cases List.mem_singleton.mp outcome
      refine ⟨?_, trivial⟩
      apply inv.sends isProcess
      · intro other node impossible
        cases impossible
      all_goals first | rfl | skip
      · exact fun _ hasPrevious => hasPrevious
      · exact fun _ _ _ hasPrevious => hasPrevious

/-- A new process finds what the ones before have left. -/
theorem CleanUpInv.begins (noProcess : world.process = none) (isNew : pid ∉ world.earlier) :
    CleanUpInv uid (world.beginProcess uid pid) object := by
  have recorded := inv.ended noProcess
  have fresh : ∀ number, object (.consumer pid number) = .away false := by
    intro number
    apply inv.unborn pid number _ isNew
    rw [noProcess]
    exact fun impossible => nomatch impossible
  constructor
  · intro record isRecord
    obtain ⟨entries, isMapping, found⟩ := Option.bind_eq_some_iff.mp isRecord
    exact ⟨entries, isMapping, recordAt_of_recordOf found⟩
  · exact inv.present
  · intro other isOther
    cases isOther
    exact isNew
  · intro impossible
    cases impossible
  · intro other number isOther
    cases isOther
    rw [fresh]
    constructor
    all_goals
      intro impossible
      cases impossible
  · intro other isOther event told isTold _
    left
    obtain ⟨entries, isMapping, found⟩ := Option.bind_eq_some_iff.mp (recorded event told isTold)
    obtain ⟨record, isRecord, isPid⟩ := Option.map_eq_some_iff.mp found
    refine ⟨entries, record, isMapping, ?_, isPid⟩
    change (world.mapping.bind fun entries => recordOf entries uid) = some record
    rw [isMapping]
    exact isRecord
  · intro other number notProcess isUnborn
    apply inv.unborn other number _ isUnborn
    rw [noProcess]
    exact fun impossible => nomatch impossible

/-- The memory is replaced while no thread has it open and nothing is told of earlier
processes. -/
theorem CleanUpInv.replaces (unused : world.openedBy = ∅) (noneStale : world.NoneStale)
    (mapping : Option (MappingEntries size)) :
    CleanUpInv uid { world with mapping := mapping, record := none } object := by
  constructor
  · intro record impossible
    cases impossible
  · intro number isOpened
    change number ∈ world.openedBy at isOpened
    rw [unused] at isOpened
    cases isOpened
  · exact inv.isNew
  · intro noProcess event told isTold
    have isProcess := noneStale event told isTold
    change world.process = none at noProcess
    rw [noProcess] at isProcess
    cases isProcess
  · intro pid number isProcess
    obtain ⟨opened, ready, _, _, succeeded⟩ := inv.thread pid number isProcess
    have never : (object (.consumer pid number)).isReady ≠ true := by
      intro isReady
      have isOpened := opened (ready isReady).1
      rw [unused] at isOpened
      cases isOpened
    constructor
    · exact opened
    · intro isReady
      exact absurd isReady never
    · intro isReady
      exact absurd isReady never
    · intro isReady
      exact absurd isReady never
    · exact succeeded
  · intro pid isProcess event told isTold isOther
    have isLiving := noneStale event told isTold
    change world.process = some pid at isProcess
    rw [isProcess] at isLiving
    exact absurd (Option.some.inj isLiving).symm isOther
  · exact inv.unborn

/-- Without memory nothing is told of earlier processes. -/
theorem CleanUpInv.noneStale_of_missing (missing : world.mapping = none) :
    world.openedBy = ∅ ∧ world.NoneStale := by
  have unused : world.openedBy = ∅ := by
    apply Finset.eq_empty_iff_forall_notMem.mpr
    intro number isOpened
    exact inv.present number isOpened missing
  refine ⟨unused, ?_⟩
  intro event told isTold
  cases isProcess : world.process with
  | none =>
      have recorded := inv.ended isProcess event told isTold
      rw [InterestWorld.recorded, missing] at recorded
      cases recorded
  | some pid =>
      by_contra isOther
      have different : told ≠ pid := by
        intro same
        exact isOther (congrArg some same.symm)
      rcases inv.stale pid isProcess event told isTold different with
        ⟨entries, _, isMapping, _⟩ | ⟨number, isReady, _⟩
      · rw [missing] at isMapping
        cases isMapping
      · have thread := inv.thread pid number isProcess
        have isOpened := thread.opened (thread.ready isReady).1
        rw [unused] at isOpened
        cases isOpened

/-- Other users register. -/
theorem CleanUpInv.others_register {later : MappingEntries size}
    (isMapping : world.mapping = some entries) (register : OthersRegister uid entries later) :
    CleanUpInv uid { world with mapping := some later } object := by
  have samePid : ∀ record, world.record = some record →
      RecordAt later uid record ∧ later.pid record = entries.pid record := by
    intro record isRecord
    obtain ⟨others, isOthers, isAt⟩ := inv.recordAt record isRecord
    rw [isMapping] at isOthers
    cases isOthers
    exact isAt.others register
  constructor
  · intro record isRecord
    exact ⟨later, rfl, (samePid record isRecord).1⟩
  · intro number _ impossible
    cases impossible
  · exact inv.isNew
  · intro noProcess event told isTold
    have recorded := inv.ended noProcess event told isTold
    rw [InterestWorld.recorded, isMapping] at recorded
    exact (recordOf_others register).trans recorded
  · intro pid number isProcess
    apply (inv.thread pid number isProcess).moved
    · exact fun isOpened => isOpened
    · rfl
    · intro others record isLater isRecord
      cases isLater
      exact .inr ⟨entries, isMapping, (samePid record isRecord).2.symm⟩
    · intro event stranger isTold _
      exact isTold
  · intro pid isProcess event told isTold isOther
    rcases inv.stale pid isProcess event told isTold isOther with
      ⟨others, record, isOthers, isRecord, isPid⟩ | isReporting
    · rw [isMapping] at isOthers
      cases isOthers
      exact .inl ⟨later, record, rfl, isRecord, (samePid record isRecord).2.trans isPid⟩
    · exact .inr isReporting
  · exact inv.unborn

/-- What happens otherwise. -/
theorem CleanUpInv.surrounded {op : SurroundingsOp size} (outcome : after ∈ op.outcomes uid world)
    (ends : op = .endProcess → world.IsRecorded uid)
    (removes : op = .removeMemory → world.NoneStale) : CleanUpInv uid after object := by
  cases op with
  | beginProcess pid =>
      rw [SurroundingsOp.outcomes] at outcome
      split at outcome
      · rename_i begins
        cases List.mem_singleton.mp outcome
        exact inv.begins begins.1 begins.2
      · cases outcome
  | endProcess =>
      rw [SurroundingsOp.outcomes] at outcome
      split at outcome
      · rename_i pid isProcess
        cases List.mem_singleton.mp outcome
        exact inv.ends isProcess (ends rfl) fun _ _ _ => rfl
      · cases outcome
  | markElsewhere address =>
      rw [SurroundingsOp.outcomes] at outcome
      split at outcome
      · cases outcome
      · cases List.mem_singleton.mp outcome
        exact inv.quiet rfl rfl rfl rfl rfl rfl
  | notifyElsewhere outdatedNodeId =>
      rw [SurroundingsOp.outcomes] at outcome
      split at outcome
      · cases List.mem_singleton.mp outcome
        have told : ∀ event, ∀ told ∈ (world.send (.outdatedNodeId outdatedNodeId)).settled event,
            told ∈ world.settled event := by
          intro event told isTold
          rw [settled_send] at isTold
          rcases mem_handle isTold with before | impossible
          · exact before.1
          · cases impossible
        exact inv.told_less rfl rfl rfl rfl rfl told
      · cases outcome
  | otherUser entry key pid =>
      rw [SurroundingsOp.outcomes] at outcome
      split at outcome
      · rename_i entries isMapping
        split at outcome
        · cases outcome
        · rename_i notOwn
          rw [Bool.or_eq_true, not_or, Bool.not_eq_true, Bool.not_eq_true] at notOwn
          cases List.mem_singleton.mp outcome
          exact inv.others_register isMapping (othersRegister_of_write notOwn.1 notOwn.2)
      · cases outcome
  | removeMemory =>
      rw [SurroundingsOp.outcomes] at outcome
      split at outcome
      · rename_i unused
        cases List.mem_singleton.mp outcome
        exact inv.replaces unused (removes rfl) none
      · cases outcome
  | createMemory =>
      rw [SurroundingsOp.outcomes] at outcome
      split at outcome
      · rename_i missing
        cases List.mem_singleton.mp outcome
        obtain ⟨unused, noneStale⟩ := inv.noneStale_of_missing (Option.isNone_iff_eq_none.mp missing)
        exact inv.replaces unused noneStale (some (.initial size))
      · cases outcome
  | handleMessage =>
      rw [SurroundingsOp.outcomes] at outcome
      split at outcome
      · rename_i message rest isChannel
        cases List.mem_singleton.mp outcome
        have settled : ({ world with
            channel := rest
            interested := message.handle world.interested } :
              InterestWorld size EventId).settled = world.settled := by
          rw [InterestWorld.settled, InterestWorld.settled, isChannel]
          rfl
        exact inv.quiet rfl rfl rfl rfl rfl settled
      · cases outcome

/-- A thread of the living process has opened the memory. -/
theorem CleanUpInv.ready (isProcess : world.process = some pid)
    (isOpen : (object (.consumer pid number)).isOpen = true)
    (notReady : (object (.consumer pid number)).isReady = false) :
    CleanUpInv uid world
      (update object (.consumer pid number) { object (.consumer pid number) with
          isReady := true
          previous := none
          stored := false
          record := world.record }) := by
  have thread := inv.thread pid number isProcess
  apply inv.moved isProcess isProcess rfl inv.recordAt inv.present
  · constructor
    · exact thread.opened
    · exact fun _ => ⟨isOpen, rfl⟩
    · intro _ _ _ _ _ _ _ impossible
      cases impossible
    · intro _ impossible
      cases impossible
    · exact thread.succeeded
  · intro other _
    exact inv.thread pid other isProcess
  · apply (inv.stale pid isProcess).moved
    · exact fun _ _ isTold _ => isTold
    · intro event stranger _ _ entries entry isMapping isRecord isPid
      exact .inl ⟨entries, entry, isMapping, isRecord, isPid⟩
    · intro event stranger _ _ isReady _
      rw [notReady] at isReady
      cases isReady

/-- A thread that has replaced the record has created a proxy, and no other thread has anything
to report: nothing is told of earlier processes. -/
theorem CleanUpInv.succeeds (isProcess : world.process = some pid)
    (informed : (object (.consumer pid number)).Informed pid (object (.consumer pid number)).record)
    (unreported : ∀ other ∈ world.openedBy, other ≠ number →
      ∀ previous ∈ (object (.consumer pid other)).previous, previous ≠ pid →
        ∀ event, previous ∉ world.settled event) :
    CleanUpInv uid world
      (update object (.consumer pid number)
        { object (.consumer pid number) with hasProxy := true, hasSucceeded := true }) := by
  have thread := inv.thread pid number isProcess
  have sameRecord := (thread.ready informed.isReady).2
  have onlyLiving : ∀ event, ∀ told ∈ world.settled event, told = pid := by
    intro event told isTold
    by_contra isOther
    rcases inv.stale pid isProcess event told isTold isOther with
      ⟨entries, record, isMapping, isRecord, isPid⟩ | ⟨other, isReady, hasPrevious⟩
    · have isStored := informed.stored record (sameRecord.trans isRecord)
      have isOwn := thread.stored informed.isReady isStored entries record isMapping isRecord
      exact isOther (isPid.symm.trans isOwn)
    · by_cases same : other = number
      · rw [same] at hasPrevious
        exact isOther (informed.reported told hasPrevious)
      · have otherThread := inv.thread pid other isProcess
        have isOpened := otherThread.opened (otherThread.ready isReady).1
        exact unreported other isOpened same told hasPrevious isOther event isTold
  apply inv.moved isProcess isProcess rfl inv.recordAt inv.present
  · constructor
    · exact thread.opened
    · exact thread.ready
    · exact thread.loaded
    · exact thread.stored
    · exact fun _ => onlyLiving
  · intro other _
    exact inv.thread pid other isProcess
  · apply (inv.stale pid isProcess).moved
    · exact fun _ _ isTold _ => isTold
    · intro event stranger _ _ entries entry isMapping isRecord isPid
      exact .inl ⟨entries, entry, isMapping, isRecord, isPid⟩
    · exact fun _ _ _ _ isReady hasPrevious => ⟨isReady, hasPrevious⟩

/-- A thread of a process that has ended or has not begun changes nothing that matters. -/
theorem CleanUpInv.elsewhere (notProcess : world.process ≠ some pid)
    (fresh : pid ∉ world.earlier → visitor = .away false) :
    CleanUpInv uid world (update object (.consumer pid number) visitor) := by
  have others : ∀ other otherNumber, world.process = some other →
      update object (.consumer pid number) visitor (.consumer other otherNumber) =
        object (.consumer other otherNumber) := by
    intro other otherNumber isProcess
    rw [update_of_ne]
    intro same
    cases same
    exact notProcess isProcess
  constructor
  · exact inv.recordAt
  · exact inv.present
  · exact inv.isNew
  · exact inv.ended
  · intro other otherNumber isProcess
    rw [others other otherNumber isProcess]
    exact inv.thread other otherNumber isProcess
  · intro other isProcess event told isTold isOther
    rcases inv.stale other isProcess event told isTold isOther with
      isRecorded | ⟨otherNumber, isReporting⟩
    · exact .inl isRecorded
    · right
      refine ⟨otherNumber, ?_⟩
      rw [others other otherNumber isProcess]
      exact isReporting
  · intro other otherNumber isUnborn isNew
    by_cases same : (Agent.consumer other otherNumber) = .consumer pid number
    · cases same
      rw [update_self]
      exact fresh isNew
    · rw [update_of_ne same]
      exact inv.unborn other otherNumber isUnborn isNew

end

end Invariant

/-! ## Runs -/

section Runs

/-- Agents act under their own names. -/
def agentRules (uid : Uid) (agent : Agent) :
    Rules (InterestOp size EventId) InterestOp.Ret (Visitor size) where
  may visitor op :=
    match agent, op with
    | .consumer pid number, .consumer actor actorNumber consumerOp =>
        actor = pid ∧ actorNumber = number ∧ (consumerRules uid pid).may visitor consumerOp
    | .surroundings, .surroundings _ => True
    | _, _ => False
  expects visitor op answer :=
    match op with
    | .consumer pid _ consumerOp => (consumerRules uid pid).expects visitor consumerOp answer
    | .surroundings _ => True
  next visitor op answer :=
    match op with
    | .consumer _ _ consumerOp => visitor.observe consumerOp answer
    | .surroundings _ => visitor

def cleanUpContract (uid : Uid) : Contract (interestSystem size EventId uid) (Visitor size) where
  Inv config := CleanUpInv uid config.memory config.object ∧
    ∀ pid number, config.activity (.consumer pid number) = .idle →
      (config.object (.consumer pid number)).Reported pid
  view config agent := config.object agent
  rules agent := agentRules uid agent
  post agent call reply visitor :=
    match agent with
    | .consumer pid _ => call.Post pid reply visitor
    | .surroundings => True

variable {uid : Uid} {config : InterestConfig size EventId} {agent : Agent}
  {memory : InterestWorld size EventId} {visitor : Visitor size}
  {activity : Activity (InterestOp size EventId) InterestOp.Ret (InterestCall size EventId) Bool}

theorem cleanUp_unseen :
    (cleanUpContract uid).Unseen agent config (config.update memory agent visitor activity) := by
  intro other distinct
  change (config.update memory agent visitor activity).object other = config.object other
  rw [Config.update_object_of_ne distinct]

omit [DecidableEq EventId] in
/-- Idle threads have nothing to report. -/
theorem reported_update (idle : ∀ pid number, config.activity (.consumer pid number) = .idle →
      (config.object (.consumer pid number)).Reported pid)
    (own : ∀ pid number, agent = .consumer pid number → activity = .idle →
      visitor.Reported pid) (pid : Pid) (number : Nat)
    (isIdle : (config.update memory agent visitor activity).activity (.consumer pid number) =
      .idle) :
    ((config.update memory agent visitor activity).object (.consumer pid number)).Reported pid := by
  by_cases same : Agent.consumer pid number = agent
  · subst same
    rw [Config.update_activity_self] at isIdle
    rw [Config.update_object_self]
    exact own pid number rfl isIdle
  · rw [Config.update_activity_of_ne same] at isIdle
    rw [Config.update_object_of_ne same]
    exact idle pid number isIdle

theorem cleanUp_perform {op : InterestOp size EventId} {answer : op.Ret}
    (inv : CleanUpInv uid config.memory config.object)
    (permitted : keepsRecord uid config (.perform agent op answer))
    (may : (agentRules uid agent).may (config.object agent) op)
    (outcome : (answer, memory) ∈ op.outcomes uid config.memory) :
    CleanUpInv uid memory
        (update config.object agent ((agentRules uid agent).next (config.object agent) op answer)) ∧
      (agentRules uid agent).expects (config.object agent) op answer := by
  cases agent with
  | consumer pid number =>
      cases op with
      | consumer actor actorNumber consumerOp =>
          obtain ⟨rfl, rfl, may⟩ := may
          rw [InterestOp.outcomes] at outcome
          split at outcome
          · rename_i isProcess
            apply inv.performs isProcess may outcome
            intro isTerminate
            subst isTerminate
            exact permitted
          · cases outcome
      | surroundings op => cases may
  | surroundings =>
      cases op with
      | consumer actor actorNumber consumerOp => cases may
      | surroundings op =>
          obtain ⟨after, possible, same⟩ := List.mem_map.mp outcome
          cases same
          refine ⟨?_, trivial⟩
          change CleanUpInv uid memory (update config.object _ (config.object _))
          rw [update_eq_self]
          apply inv.surrounded possible
          · intro isEnd
            subst isEnd
            exact permitted
          · intro isRemoval
            subst isRemoval
            exact permitted

theorem cleanUp_finish {call : InterestCall size EventId} {reply : Bool} {pid : Pid} {number : Nat}
    (inv : CleanUpInv uid config.memory config.object)
    (permitted : keepsRecord uid config (.finish (.consumer pid number) call reply))
    (post : call.Post pid reply (config.object (.consumer pid number))) :
    CleanUpInv uid config.memory
      (update config.object (.consumer pid number)
        ((config.object (.consumer pid number)).onReturn config.memory.record call reply)) := by
  have unchanged : CleanUpInv uid config.memory
      (update config.object (.consumer pid number) (config.object (.consumer pid number))) := by
    rw [update_eq_self]
    exact inv
  have fresh : config.memory.process ≠ some pid → pid ∉ config.memory.earlier →
      config.object (.consumer pid number) = .away false :=
    inv.unborn pid number
  cases reply with
  | false => cases call <;> exact unchanged
  | true =>
      cases call with
      | createSharedMemory address =>
          obtain ⟨isOpen, notReady⟩ := post.opened address rfl
          by_cases isProcess : config.memory.process = some pid
          · exact inv.ready isProcess isOpen notReady
          · apply inv.elsewhere isProcess
            intro isNew
            rw [fresh isProcess isNew] at isOpen
            cases isOpen
      | executePartialRestartLogic =>
          have informed := post.informed rfl rfl
          by_cases isProcess : config.memory.process = some pid
          · exact inv.succeeds isProcess informed (permitted isProcess)
          · apply inv.elsewhere isProcess
            intro isNew
            have isReady := informed.isReady
            rw [fresh isProcess isNew] at isReady
            cases isReady
      | registerEventNotification event | unregisterEventNotification event | destroyProxy
      | surroundings op => exact unchanged

theorem cleanUp_obligations (uid : Uid) :
    (cleanUpContract uid : Contract (interestSystem size EventId uid) (Visitor size)).Obligations
      (keepsRecord uid) where
  call := by
    rintro config agent call ⟨inv, idle⟩ _ isIdle mayCall after rfl
    refine ⟨⟨?_, ?_⟩, cleanUp_unseen, ?_⟩
    · rw [Config.update_object]
      change CleanUpInv uid config.memory (update config.object agent (config.object agent))
      rw [update_eq_self]
      exact inv
    · apply reported_update idle
      intro pid number _ impossible
      cases impossible
    · have unchanged : (cleanUpContract uid).view (config.update config.memory agent
          (config.object agent) (.running call (agent.code size EventId uid call))) agent =
            config.object agent :=
        update_self ..
      change Program.Respects _ _ ((cleanUpContract uid).view (config.update config.memory agent
        (config.object agent) (.running call (agent.code size EventId uid call))) agent) _
      rw [unchanged]
      cases agent with
      | consumer pid number =>
          apply (call.code_respects uid pid mayCall (idle pid number isIdle)).lift
          · intro visitor op may
            exact ⟨rfl, rfl, may⟩
          · intro visitor op answer expected
            exact ⟨expected, rfl⟩
      | surroundings =>
          cases call with
          | surroundings op => exact ⟨trivial, fun _ _ => trivial⟩
          | _ => exact trivial
  perform := by
    rintro config agent call op next answer memory ⟨inv, idle⟩ permitted running may outcome
      after rfl
    obtain ⟨invAfter, expected⟩ := cleanUp_perform inv permitted may outcome
    refine ⟨⟨?_, ?_⟩, cleanUp_unseen, expected, ?_⟩
    · rw [Config.update_object]
      exact invAfter
    · apply reported_update idle
      intro pid number _ impossible
      cases impossible
    · exact update_self agent _ config.object
  finish := by
    rintro config agent call reply ⟨inv, idle⟩ permitted running post after rfl
    refine ⟨⟨?_, ?_⟩, cleanUp_unseen⟩
    · rw [Config.update_object]
      cases agent with
      | consumer pid number => exact cleanUp_finish inv permitted post
      | surroundings =>
          change CleanUpInv uid config.memory (update config.object _ (config.object _))
          rw [update_eq_self]
          exact inv
    · apply reported_update idle
      intro pid number isAgent _
      subst isAgent
      have reported := post.reported
      cases reply with
      | false => cases call <;> exact reported
      | true =>
          cases call with
          | createSharedMemory address =>
              intro previous impossible
              cases impossible
          | _ => exact reported
  crash := by
    intro config agent visitor _ _ killed
    cases killed
  environment := by
    intro config memory _ _ moved
    cases moved

theorem cleanUpInv_start (uid : Uid) :
    CleanUpInv uid (interestStart size EventId).memory (interestStart size EventId).object where
  recordAt record impossible := by cases impossible
  present number impossible := by cases impossible
  isNew pid impossible := by cases impossible
  ended _ event pid impossible := by cases impossible
  thread pid number impossible := by cases impossible
  stale pid impossible := by cases impossible
  unborn _ _ _ _ := rfl

/-- In every run in which the record of the interested process is not lost, and is reported
before any proxy is created, the provider has forgotten the earlier processes once a proxy has
been created. -/
theorem forgotten_of_reached {uid : Uid} {config : InterestConfig size EventId}
    (reached : Reaches (interestSystem size EventId uid) (keepsRecord uid)
      (interestStart size EventId) config) : Forgotten config := by
  have reports : ∀ pid number,
      ((interestStart size EventId).object (.consumer pid number)).Reported pid := by
    intro pid number previous impossible
    cases impossible
  have holds := Contract.run (cleanUp_obligations uid)
    ⟨cleanUpInv_start uid, fun pid number _ => reports pid number⟩ (fun _ => rfl) reached
  intro pid number isProcess hasSucceeded isEmpty event earlier isEarlier isInterested
  have inv := holds.inv.1
  have onlyLiving := (inv.thread pid number isProcess).succeeded hasSucceeded
  have settled : config.memory.settled = config.memory.interested := by
    rw [InterestWorld.settled, isEmpty]
    rfl
  rw [← settled] at isInterested
  rw [onlyLiving event earlier isInterested] at isEarlier
  exact inv.isNew pid isProcess isEarlier

end Runs

/-! ## Runs of one application -/

section Schedules

/-- What holds of all processes that the provider is told of is decided for these only. -/
instance decidableTold [Fintype EventId] (told : EventId → Finset Pid) (property : Pid → Prop)
    [DecidablePred property] : Decidable (∀ event, ∀ pid ∈ told event, property pid) :=
  @Fintype.decidableForallFintype _ _ (fun _ => Finset.decidableDforallFinset) _

instance [Fintype EventId] (uid : Uid) (world : InterestWorld size EventId) :
    Decidable (world.IsRecorded uid) :=
  decidableTold world.settled fun pid => world.recorded uid = some pid

instance [Fintype EventId] (world : InterestWorld size EventId) : Decidable world.NoneStale :=
  decidableTold world.settled fun pid => world.process = some pid

instance [Fintype EventId] (config : InterestConfig size EventId) (pid : Pid) (number : Nat) :
    Decidable (NoneUnreported config pid number) :=
  @Finset.decidableDforallFinset _ _ _ fun _ _ =>
    @instDecidableForall _ _ _ (Option.decidableForallMem _)

instance [Fintype EventId] (uid : Uid) (config : InterestConfig size EventId)
    (event : InterestEvent size EventId) : Decidable (keepsRecord uid config event) := by
  cases event with
  | perform agent op answer =>
      cases op with
      | consumer pid number op =>
          cases op with
          | terminate => exact inferInstanceAs (Decidable (config.memory.IsRecorded uid))
          | _ => exact .isTrue trivial
      | surroundings op =>
          cases op with
          | endProcess => exact inferInstanceAs (Decidable (config.memory.IsRecorded uid))
          | removeMemory => exact inferInstanceAs (Decidable config.memory.NoneStale)
          | _ => exact .isTrue trivial
  | finish agent call reply =>
      cases agent with
      | consumer pid number =>
          cases call with
          | executePartialRestartLogic =>
              cases reply with
              | true =>
                  exact inferInstanceAs (Decidable (config.memory.process = some pid →
                    NoneUnreported config pid number))
              | false => exact .isTrue trivial
          | _ => exact .isTrue trivial
      | surroundings => exact .isTrue trivial
  | _ => exact .isTrue trivial

instance (uid : Uid) (agent : Agent) (visitor : Visitor size) (call : InterestCall size EventId) :
    Decidable ((interestSystem size EventId uid).mayCall agent visitor call) :=
  match agent with
  | .consumer _ _ => inferInstanceAs (Decidable (visitor.mayCall call = true))
  | .surroundings => .isTrue trivial

instance (uid : Uid) (before after : InterestWorld size EventId) :
    Decidable ((interestSystem size EventId uid).environment before after) :=
  .isFalse id

/-- Decisions about an application with one event, in a memory with one entry. -/
abbrev Decision := Choice Agent (InterestWorld 1 Unit) (InterestCall 1 Unit)

def surrounding (op : SurroundingsOp 1) : List Decision :=
  [.call .surroundings (.surroundings op), .perform .surroundings 0, .finish .surroundings]

/-- A thread of a process opens the memory and performs some operations of the restart logic. -/
def restarting (pid : Pid) (operations : Nat) : List Decision := List.flatten
    [[.call (.consumer pid 0) (.createSharedMemory 5), .perform (.consumer pid 0) 1,
      .finish (.consumer pid 0), .call (.consumer pid 0) .executePartialRestartLogic],
     List.replicate operations (.perform (.consumer pid 0) 0)]

/-- Process 1 creates a proxy, is interested in the event and ends. -/
def interestedAndEnded : List Decision := List.flatten
    [surrounding .createMemory, surrounding (.beginProcess 1), restarting 1 13,
     [.finish (.consumer 1 0), .call (.consumer 1 0) (.registerEventNotification ()),
      .perform (.consumer 1 0) 0], surrounding .endProcess]

/-- The next process creates a proxy. -/
def restarted : List Decision := List.flatten
    [interestedAndEnded, surrounding (.beginProcess 2), restarting 2 12, [.finish (.consumer 2 0)],
     surrounding .handleMessage, surrounding .handleMessage]

theorem forgotten_restarted : ∃ config : InterestConfig 1 Unit,
      Reaches (interestSystem 1 Unit 0) (keepsRecord 0) (interestStart 1 Unit) config ∧
        1 ∈ config.memory.earlier ∧ 1 ∉ config.memory.interested () := by
  obtain ⟨config, reached, isProcess, hasSucceeded, isEmpty, isEarlier⟩ :=
    exists_reached (interestSystem 1 Unit 0) (keepsRecord 0) (interestStart 1 Unit) restarted
      (fun config => config.memory.process = some 2 ∧
        (config.object (.consumer 2 0)).hasSucceeded = true ∧ config.memory.channel = [] ∧
          1 ∈ config.memory.earlier) (by decide +kernel)
  exact ⟨config, reached, isEarlier,
    forgotten_of_reached reached 2 0 isProcess hasSucceeded isEmpty () 1 isEarlier⟩

/-- Process 2 ends when it has stored its id, and process 3 creates a proxy. -/
def endedWhileRegistering : List Decision := List.flatten
    [interestedAndEnded, surrounding (.beginProcess 2), restarting 2 5, surrounding .endProcess,
     surrounding (.beginProcess 3), restarting 3 12, [.finish (.consumer 3 0)],
     surrounding .handleMessage, surrounding .handleMessage]

/-- The memory is removed and created again before process 3 creates a proxy. -/
def memoryRecreated : List Decision := List.flatten
    [interestedAndEnded, surrounding .removeMemory, surrounding .createMemory,
     surrounding (.beginProcess 3), restarting 3 13, [.finish (.consumer 3 0)],
     surrounding .handleMessage]

/-- Process 3 has created a proxy, and the provider is told of process 1. -/
def IsRemembered (config : InterestConfig 1 Unit) : Prop :=
  config.memory.process = some 3 ∧ (config.object (.consumer 3 0)).hasSucceeded = true ∧
    config.memory.channel = [] ∧ 1 ∈ config.memory.earlier ∧ 1 ∈ config.memory.interested ()

instance : DecidablePred IsRemembered := fun _ => instDecidableAnd

theorem IsRemembered.not_forgotten {config : InterestConfig 1 Unit}
    (remembered : IsRemembered config) : ¬Forgotten config := by
  obtain ⟨isProcess, hasSucceeded, isEmpty, isEarlier, isInterested⟩ := remembered
  intro forgotten
  exact forgotten 3 0 isProcess hasSucceeded isEmpty () 1 isEarlier isInterested

/-- The provider remains told of process 1, in either of the two runs. -/
theorem forgotten_violated : ∃ ended recreated : InterestConfig 1 Unit,
      Reaches (interestSystem 1 Unit 0) (fun _ _ => True) (interestStart 1 Unit) ended ∧
        Reaches (interestSystem 1 Unit 0) (fun _ _ => True) (interestStart 1 Unit) recreated ∧
          ¬Forgotten ended ∧ ¬Forgotten recreated := by
  obtain ⟨ended, reached, remembered⟩ :=
    exists_reached (interestSystem 1 Unit 0) (fun _ _ => True) (interestStart 1 Unit)
      endedWhileRegistering IsRemembered (by decide +kernel)
  obtain ⟨recreated, alsoReached, alsoRemembered⟩ :=
    exists_reached (interestSystem 1 Unit 0) (fun _ _ => True) (interestStart 1 Unit)
      memoryRecreated IsRemembered (by decide +kernel)
  exact ⟨ended, recreated, reached, alsoReached, remembered.not_forgotten,
    alsoRemembered.not_forgotten⟩

end Schedules

end MwCom.InterestCleanUp
