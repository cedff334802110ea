/-
Module: MwCom.Lola.UidPidRegistration
Purpose: Every user has at most one entry, and registering finds the process that
  was there before, wherever earlier processes were killed.
Trusted boundary: none
Main exports: MappingEntries.Lawful, mappingContract, registrations_of_reached
-/
import Mathlib.Data.Fintype.Card
import Mathlib.Data.Fintype.EquivFin
import MwCom.Lola.UidPidMapping

namespace MwCom.Lola

open Interleaving MappingKey Function
open Config (update_activity_of_ne update_activity_self update_memory
  update_object update_object_of_ne update_object_self)
open Program (perform)

variable {size : Nat}

/-! ## The entry of a user -/

namespace MappingEntries

/-- Status and process of an entry, if it is one of the user. -/
def ownedBy (entries : MappingEntries size) (uid : Uid) (entry : Fin size) :
    Option (MappingEntryStatus × Pid) :=
  (entries.statusOf uid entry).map fun status => (status, entries.pid entry)

/-- No user has two entries, and an entry that nobody has taken is blank. -/
structure Lawful (entries : MappingEntries size) : Prop where
  single : ∀ uid one two owned other, entries.ownedBy uid one = some owned →
    entries.ownedBy uid two = some other → one = two
  valid : ∀ uid entry owned, entries.ownedBy uid entry = some owned →
    owned.1 = .used ∨ owned.1 = .updating
  blank : ∀ entry, (statusAndUid (entries.key entry)).1 = .unused →
    entries.key entry = 0 ∧ entries.pid entry = 0

variable {entries : MappingEntries size} {uid other : Uid} {entry index : Fin size}

theorem ownedBy_eq_some_iff {status : MappingEntryStatus} {pid : Pid} :
    entries.ownedBy uid entry = some (status, pid) ↔
      statusAndUid (entries.key entry) = (status, uid) ∧ status ≠ .unused ∧
        entries.pid entry = pid := by
  cases parts : statusAndUid (entries.key entry) with
  | mk entryStatus entryUid =>
      simp only [ownedBy, statusOf, parts]
      by_cases own : entryStatus ≠ .unused ∧ entryUid = uid
      · rw [if_pos own]
        obtain ⟨taken, isUid⟩ := own
        simp only [Option.map_some, Option.some.injEq, Prod.mk.injEq]
        constructor
        · rintro ⟨rfl, rfl⟩
          exact ⟨⟨rfl, isUid⟩, taken, rfl⟩
        · rintro ⟨⟨isStatus, _⟩, _, isPid⟩
          exact ⟨isStatus, isPid⟩
      · rw [if_neg own]
        simp only [Option.map_none, reduceCtorEq, Prod.mk.injEq, false_iff]
        rintro ⟨⟨isStatus, isUid⟩, taken, _⟩
        exact own ⟨isStatus ▸ taken, isUid⟩

/-- What another user has is not of this one. -/
theorem ownedBy_eq_none_of_ne {status : MappingEntryStatus}
    (parts : statusAndUid (entries.key entry) = (status, other))
    (differs : other ≠ uid) : entries.ownedBy uid entry = none := by
  apply Option.eq_none_iff_forall_ne_some.mpr
  rintro ⟨ownStatus, pid⟩ owned
  have own := (ownedBy_eq_some_iff.mp owned).1
  rw [parts, Prod.mk.injEq] at own
  exact differs own.2

theorem ownedBy_eq_none_of_unused
    (unused : (statusAndUid (entries.key entry)).1 = .unused) :
    entries.ownedBy uid entry = none := by
  apply Option.eq_none_iff_forall_ne_some.mpr
  rintro ⟨ownStatus, pid⟩ owned
  obtain ⟨parts, taken, _⟩ := ownedBy_eq_some_iff.mp owned
  rw [parts] at unused
  exact taken unused

/-- The process in the used entry is found. -/
theorem mappedPid_eq_some_iff (lawful : entries.Lawful) {pid : Pid} :
    entries.mappedPid uid = some pid ↔ ∃ entry, entries.ownedBy uid entry = some (.used, pid) := by
  have isUsed (entry : Fin size) : entries.statusOf uid entry = some .used ↔
      entries.ownedBy uid entry = some (.used, entries.pid entry) := by
    rw [ownedBy, Option.map_eq_some_iff]
    simp
  rw [mappedPid, Option.map_eq_some_iff]
  constructor
  · rintro ⟨entry, found, isPid⟩
    have used : entries.statusOf uid entry = some .used := by
      simpa using List.find?_some found
    rw [← isPid]
    exact ⟨entry, (isUsed entry).mp used⟩
  · rintro ⟨entry, owned⟩
    have isPid := (ownedBy_eq_some_iff.mp owned).2.2
    have present : ((List.finRange size).find? fun entry =>
        decide (entries.statusOf uid entry = some .used)).isSome = true := by
      rw [List.find?_isSome]
      refine ⟨entry, List.mem_finRange entry, decide_eq_true ((isUsed entry).mpr ?_)⟩
      rw [owned, isPid]
    obtain ⟨first, found⟩ := Option.isSome_iff_exists.mp present
    have used : entries.statusOf uid first = some .used := by
      simpa using List.find?_some found
    have same := lawful.single uid first entry _ _ ((isUsed first).mp used) owned
    exact ⟨first, found, by rw [same, isPid]⟩

end MappingEntries

/-! ## What a process may do -/

/-- What only the processes of one user change. -/
structure MappingView (size : Nat) where
  owned : Fin size → Option (MappingEntryStatus × Pid)
  record : UserRecord size

namespace MappingView

/-- The view after an operation. -/
def observe (view : MappingView size) (op : MappingOp size) (answer : op.Ret) :
    MappingView size where
  owned :=
    match op, answer with
    | .storeKey entry _, _ =>
        update view.owned entry
          ((view.owned entry).map fun owned => (.used, owned.2))
    | .compareExchangeWeak entry _ _, true =>
        update view.owned entry (some (.updating, 0))
    | .storePid entry pid, _ =>
        update view.owned entry
          ((view.owned entry).map fun owned => (owned.1, pid))
    | _, _ => view.owned
  record := view.record.observe op answer

section Observe

variable (view : MappingView size) (entry : Fin size)

@[simp] theorem owned_observe_loadKey (key : MappingKey) :
    (view.observe (.loadKey entry) key).owned = view.owned := rfl

@[simp] theorem owned_observe_loadPid (pid : Pid) :
    (view.observe (.loadPid entry) pid).owned = view.owned := rfl

@[simp] theorem owned_observe_storePid (pid : Pid) (answer : Unit) :
    (view.observe (.storePid entry pid) answer).owned = update view.owned entry
      ((view.owned entry).map fun owned => (owned.1, pid)) := rfl

@[simp] theorem owned_observe_storeKey (key : MappingKey) (answer : Unit) :
    (view.observe (.storeKey entry key) answer).owned = update view.owned entry
      ((view.owned entry).map fun owned => (.used, owned.2)) := rfl

@[simp] theorem owned_observe_taken (expected desired : MappingKey) :
    (view.observe (.compareExchangeWeak entry expected desired) true).owned =
      update view.owned entry (some (.updating, 0)) := rfl

@[simp] theorem owned_observe_refused (expected desired : MappingKey) :
    (view.observe (.compareExchangeWeak entry expected desired) false).owned = view.owned := rfl

theorem refused_observe_unused {key : MappingKey}
    (unused : (statusAndUid key).1 = .unused) :
    (view.observe (.loadKey entry) key).record.refused = view.record.refused := by
  simp [observe, UserRecord.observe, unused]

theorem refused_observe_taken {key : MappingKey}
    (taken : (statusAndUid key).1 ≠ .unused) :
    (view.observe (.loadKey entry) key).record.refused = update view.record.refused entry true := by
  simp [observe, UserRecord.observe, taken]

theorem refused_observe_refused (expected desired : MappingKey) :
    (view.observe (.compareExchangeWeak entry expected desired) false).record.refused =
      update view.record.refused entry true := rfl

end Observe

@[simp] theorem mapped_observe (view : MappingView size) (op : MappingOp size)
    (answer : op.Ret) : (view.observe op answer).record.mapped = view.record.mapped := by
  cases op with
  | loadKey entry =>
      simp only [observe, UserRecord.observe]
      split <;> rfl
  | compareExchangeWeak entry expected desired => cases answer <;> rfl
  | _ => rfl

/-- A call begins with one entry at most, and knows what it holds. -/
structure Begins (view : MappingView size) : Prop where
  single : ∀ one two owned other, view.owned one = some owned →
    view.owned two = some other → one = two
  valid : ∀ entry owned, view.owned entry = some owned → owned.1 = .used ∨ owned.1 = .updating
  mapped : ∀ pid, view.record.mapped = some pid ↔ ∃ entry, view.owned entry = some (.used, pid)

end MappingView

/-- A process writes to its own entry only, and takes one only if it has none. -/
def mappingRules (uid : Uid) : Rules (MappingOp size) MappingOp.Ret (MappingView size) where
  may view op :=
    match op with
    | .loadKey _ => True
    | .storeKey entry key =>
        (∃ pid, view.owned entry = some (.updating, pid)) ∧ key = createKey .used uid
    | .compareExchangeWeak _ expected desired =>
        expected = 0 ∧ desired = createKey .updating uid ∧ ∀ entry, view.owned entry = none
    | .loadPid entry => view.owned entry ≠ none
    | .storePid entry _ => view.owned entry ≠ none
  expects view op answer :=
    match op with
    | .loadKey entry =>
        (∀ status, (statusAndUid answer = (status, uid) ∧ status ≠ .unused) ↔
          ∃ pid, view.owned entry = some (status, pid)) ∧
          ((statusAndUid answer).1 = .unused → answer = 0)
    | .loadPid entry => ∀ owned, view.owned entry = some owned → owned.2 = answer
    | _ => True
  next := MappingView.observe

@[simp] theorem mappingRules_next (uid : Uid) (view : MappingView size)
    (op : MappingOp size) (answer : op.Ret) :
    (mappingRules uid).next view op answer = view.observe op answer := rfl

/-- What a call leaves: the entry of its process, or no entry and nothing to take. -/
def RegistrationPost (pid : Pid) (reply : Option Pid) (view : MappingView size) : Prop :=
  match reply with
  | some value =>
      value = view.record.mapped.getD pid ∧ ∃ entry, view.owned entry = some (.used, pid)
  | none => ∀ entry, view.owned entry = none ∧ view.record.refused entry = true

section Registering

variable (uid : Uid) (pid : Pid)

variable {view : MappingView size}

/-- The entry of the user is updated if there is one. -/
theorem tryUpdatePidForExistingUid_respects (rest : List (Fin size)) (begins : view.Begins)
    (missed : ∀ entry, entry ∉ rest → view.owned entry = none) :
    (tryUpdatePidForExistingUid uid pid rest).Respects (mappingRules uid) view
      fun reply after =>
        (∀ value, reply = some value → RegistrationPost pid (some value) after) ∧
          (reply = none → after.record.mapped = none ∧ ∀ entry, after.owned entry = none) := by
  induction rest generalizing view with
  | nil =>
      have noEntry : ∀ entry, view.owned entry = none := fun entry => missed entry List.not_mem_nil
      have unmapped : view.record.mapped = none := by
        apply Option.eq_none_iff_forall_ne_some.mpr
        intro mapped isMapped
        obtain ⟨entry, owned⟩ := (begins.mapped mapped).mp isMapped
        rw [noEntry] at owned
        cases owned
      exact ⟨(fun _ impossible => nomatch impossible), fun _ => ⟨unmapped, noEntry⟩⟩
  | cons entry rest ih =>
      rw [tryUpdatePidForExistingUid, Program.perform_bind]
      refine ⟨trivial, fun key expected => ?_⟩
      cases parts : statusAndUid key with
      | mk entryStatus entryUid =>
          simp only [parts]
          have owns : ∀ status, (entryStatus = status ∧ entryUid = uid ∧ status ≠ .unused) ↔
              ∃ pid, view.owned entry = some (status, pid) := by
            intro status
            rw [← expected.1 status, parts, Prod.mk.injEq, and_assoc]
          by_cases used : entryStatus = .used ∧ entryUid = uid
          · obtain ⟨oldPid, owned⟩ := (owns .used).mp ⟨used.1, used.2, by decide⟩
            rw [if_pos used]
            have present : view.owned entry ≠ none := by simp [owned]
            refine ⟨present, fun answer isOld => ⟨present, fun _ _ => ?_⟩⟩
            have isMapped : view.record.mapped = some answer := by
              rw [← isOld _ owned]
              exact (begins.mapped oldPid).mpr ⟨entry, owned⟩
            have ends : RegistrationPost pid (some answer)
                (((view.observe (.loadKey entry) key).observe (.loadPid entry) answer).observe
                  (.storePid entry pid) ()) := by
              refine ⟨?_, entry, ?_⟩
              · simp [isMapped]
              · simp [owned]
            refine ⟨fun value isValue => ?_, (fun impossible => nomatch impossible)⟩
            cases isValue
            exact ends
          · rw [if_neg used]
            by_cases updating : entryStatus = .updating ∧ entryUid = uid
            · obtain ⟨oldPid, owned⟩ := (owns .updating).mp ⟨updating.1, updating.2, by decide⟩
              rw [if_pos updating]
              have present : view.owned entry ≠ none := by simp [owned]
              have unmapped : view.record.mapped = none := by
                apply Option.eq_none_iff_forall_ne_some.mpr
                intro mapped isMapped
                obtain ⟨other, isUsed⟩ := (begins.mapped mapped).mp isMapped
                rw [begins.single other entry _ _ isUsed owned, owned] at isUsed
                cases isUsed
              have ends : RegistrationPost pid (some pid)
                  (((view.observe (.loadKey entry) key).observe (.storePid entry pid)
                    ()).observe (.storeKey entry (createKey .used uid)) ()) := by
                refine ⟨?_, entry, ?_⟩
                · simp [unmapped]
                · simp [owned]
              refine ⟨present, fun _ _ => ⟨⟨⟨pid, ?_⟩, rfl⟩, fun _ _ => ?_⟩⟩
              · simp [owned]
              · refine ⟨fun value isValue => ?_, (fun impossible => nomatch impossible)⟩
                cases isValue
                exact ends
            · rw [if_neg updating]
              apply ih
              · exact
                  { single := begins.single
                    valid := begins.valid
                    mapped := by simpa using begins.mapped }
              · intro other absent
                by_cases same : other = entry
                · rw [same]
                  apply Option.eq_none_iff_forall_ne_some.mpr
                  rintro ⟨status, old⟩ owned
                  obtain ⟨isStatus, isUid, _⟩ := (owns status).mpr ⟨old, owned⟩
                  rcases begins.valid entry _ owned with isUsed | isUpdating
                  · exact used ⟨isStatus.trans isUsed, isUid⟩
                  · exact updating ⟨isStatus.trans isUpdating, isUid⟩
                · apply missed other
                  rw [List.mem_cons]
                  rintro (isEntry | later)
                  · exact same isEntry
                  · exact absent later

theorem takeUnusedEntry_cons (entry : Fin size) (rest : List (Fin size)) :
    takeUnusedEntry uid pid (entry :: rest) = .step (.loadKey entry) fun key =>
        if (statusAndUid key).1 = .unused then
          .step
            (.compareExchangeWeak entry (createKey (statusAndUid key).1 (statusAndUid key).2)
              (createKey .updating uid))
            fun taken =>
              if taken = true then
                .step (.storePid entry pid) fun _ =>
                  .step (.storeKey entry (createKey .used uid)) fun _ =>
                    .done (some pid)
              else
                takeUnusedEntry uid pid rest
        else
          takeUnusedEntry uid pid rest :=
  rfl

/-- An entry is taken, or every entry of the pass was refused. -/
theorem takeUnusedEntry_respects (rest : List (Fin size))
    (noEntry : ∀ entry, view.owned entry = none) (unmapped : view.record.mapped = none)
    (refused : ∀ entry, entry ∉ rest → view.record.refused entry = true) :
    (takeUnusedEntry uid pid rest).Respects (mappingRules uid) view
      fun reply after =>
        (∀ value, reply = some value → RegistrationPost pid (some value) after) ∧
          (reply = none → after.record.mapped = none ∧
            ∀ entry, after.owned entry = none ∧ after.record.refused entry = true) := by
  induction rest generalizing view with
  | nil =>
      exact ⟨(fun _ impossible => nomatch impossible), fun _ =>
        ⟨unmapped, fun entry => ⟨noEntry entry, refused entry List.not_mem_nil⟩⟩⟩
  | cons entry rest ih =>
      rw [takeUnusedEntry_cons]
      refine ⟨trivial, fun key expected => ?_⟩
      -- what is refused stays so, and this entry may be refused besides
      have goesOn {after : MappingView size} (owned : after.owned = view.owned)
          (mapped : after.record.mapped = view.record.mapped)
          (nowRefused : after.record.refused = update view.record.refused entry true) :
          (takeUnusedEntry uid pid rest).Respects (mappingRules uid) after
            fun reply after =>
              (∀ value, reply = some value → RegistrationPost pid (some value) after) ∧
                (reply = none → after.record.mapped = none ∧ ∀ entry, after.owned entry = none ∧
                    after.record.refused entry = true) := by
        apply ih
        · intro other
          rw [owned]
          exact noEntry other
        · rw [mapped]
          exact unmapped
        · intro other absent
          rw [nowRefused]
          by_cases same : other = entry
          · rw [same, update_self]
          · rw [update_of_ne same]
            apply refused other
            rw [List.mem_cons]
            rintro (isEntry | later)
            · exact same isEntry
            · exact absent later
      beta_reduce
      by_cases unused : (statusAndUid key).1 = .unused
      · rw [if_pos unused]
        refine ⟨⟨?_, rfl, noEntry⟩, fun (taken : Bool) _ => ?_⟩
        · rw [expected.2 unused]
          exact createKey_zero
        · beta_reduce
          cases taken with
          | false =>
              rw [if_neg Bool.false_ne_true]
              apply goesOn
              · rfl
              · simp only [mappingRules_next, MappingView.mapped_observe]
              · simp only [mappingRules_next, MappingView.refused_observe_refused,
                  MappingView.refused_observe_unused _ _ unused]
          | true =>
              rw [if_pos rfl]
              refine ⟨?_, fun _ _ => ⟨⟨⟨pid, ?_⟩, rfl⟩, fun _ _ => ?_⟩⟩
              · simp [mappingRules]
              · simp
              · refine ⟨fun value isValue => ?_, (fun impossible => nomatch impossible)⟩
                cases isValue
                refine ⟨?_, entry, ?_⟩
                · simp [unmapped]
                · simp
      · rw [if_neg unused]
        apply goesOn
        · rfl
        · simp only [mappingRules_next, MappingView.mapped_observe]
        · simp only [mappingRules_next, MappingView.refused_observe_taken _ _ unused]

/-- Every retry passes over all entries again. -/
theorem retryTakeUnusedEntry_respects (retries : Nat) (noEntry : ∀ entry, view.owned entry = none)
    (unmapped : view.record.mapped = none)
    (refused : retries = 0 → ∀ entry, view.record.refused entry = true) :
    (retryTakeUnusedEntry uid pid retries).Respects (mappingRules uid) view
      (RegistrationPost pid) := by
  induction retries generalizing view with
  | zero => exact fun entry => ⟨noEntry entry, refused rfl entry⟩
  | succ retries ih =>
      have passed := takeUnusedEntry_respects uid pid (List.finRange size) noEntry unmapped
        (fun entry absent => absurd (List.mem_finRange entry) absent)
      apply passed.bind
      rintro reply after ⟨taken, allRefused⟩
      cases reply with
      | some value => exact taken value rfl
      | none =>
          obtain ⟨stillUnmapped, entries⟩ := allRefused rfl
          exact ih (fun entry => (entries entry).1) stillUnmapped (fun _ entry => (entries entry).2)

theorem registerPid_respects (begins : view.Begins) :
    (registerPid uid pid).Respects (mappingRules uid) view (RegistrationPost pid) := by
  have tried := tryUpdatePidForExistingUid_respects uid pid (List.finRange size) begins
    (fun entry absent => absurd (List.mem_finRange entry) absent)
  apply tried.bind
  rintro reply after ⟨updated, missing⟩
  cases reply with
  | some value => exact updated value rfl
  | none =>
      obtain ⟨unmapped, noEntry⟩ := missing rfl
      exact retryTakeUnusedEntry_respects uid pid kMaxRetries noEntry unmapped
        (fun impossible => absurd impossible (by decide))

end Registering

/-! ## What an operation does to the entries -/

namespace MappingEntries

variable {entries after : MappingEntries size} {uid other : Uid} {entry : Fin size}

theorem ownedBy_setPid (entries : MappingEntries size) (uid : Uid) (entry : Fin size)
    (pid : Pid) : (entries.setPid entry pid).ownedBy uid = update (entries.ownedBy uid) entry
        ((entries.ownedBy uid entry).map fun owned => (owned.1, pid)) := by
  funext index
  by_cases same : index = entry
  · rw [same, update_self, ownedBy, ownedBy, Option.map_map]
    simp only [setPid, update_self]
    rfl
  · rw [update_of_ne same, ownedBy, ownedBy]
    simp only [setPid, update_of_ne same]
    rfl

variable {status : MappingEntryStatus}

/-- Storing a key gives the entry to the user in it. -/
theorem ownedBy_setKey (entries : MappingEntries size) (uid owner : Uid) (entry : Fin size)
    (taken : status ≠ .unused) :
    (entries.setKey entry (createKey status owner)).ownedBy uid = update (entries.ownedBy uid) entry
        (if owner = uid then some (status, entries.pid entry) else none) := by
  funext index
  by_cases same : index = entry
  · rw [same, update_self, ownedBy, statusOf]
    simp only [setKey, update_self, statusAndUid_createKey]
    by_cases isOwner : owner = uid
    · simp [isOwner, taken]
    · simp [isOwner]
  · rw [update_of_ne same, ownedBy, ownedBy, statusOf, statusOf]
    simp only [setKey, update_of_ne same]

/-- Another user sees nothing of a key stored in an entry that is not its own. -/
theorem ownedBy_setKey_of_ne {owner : Uid} (taken : status ≠ .unused) (differs : uid ≠ owner)
    (notOwned : entries.ownedBy uid entry = none) :
    (entries.setKey entry (createKey status owner)).ownedBy uid = entries.ownedBy uid := by
  rw [ownedBy_setKey entries uid owner entry taken, if_neg (Ne.symm differs), ← notOwned,
    update_eq_self]

theorem blank_setKey (lawful : entries.Lawful) {owner : Uid} (taken : status ≠ .unused)
    (index : Fin size) (unused : (statusAndUid
      ((entries.setKey entry (createKey status owner)).key index)).1 = .unused) :
    (entries.setKey entry (createKey status owner)).key index = 0 ∧ entries.pid index = 0 := by
  by_cases same : index = entry
  · simp only [setKey, same, update_self, statusAndUid_createKey] at unused
    exact absurd unused taken
  · simp only [setKey, update_of_ne same] at unused ⊢
    exact lawful.blank index unused

/-- The process in an entry of the user is replaced. -/
theorem Lawful.setPid (lawful : entries.Lawful) (pid : Pid)
    (isOwned : entries.ownedBy uid entry ≠ none) :
    (entries.setPid entry pid).Lawful ∧
      ∀ other, other ≠ uid → (entries.setPid entry pid).ownedBy other = entries.ownedBy other := by
  obtain ⟨⟨status, oldPid⟩, isOwner⟩ := Option.ne_none_iff_exists'.mp isOwned
  obtain ⟨parts, taken, _⟩ := ownedBy_eq_some_iff.mp isOwner
  -- every entry is still one of the same user, with the same status
  have before (owner : Uid) (index : Fin size) (owned : MappingEntryStatus × Pid)
      (nowOwned : (entries.setPid entry pid).ownedBy owner index = some owned) :
      ∃ earlier, entries.ownedBy owner index = some (owned.1, earlier) := by
    rw [ownedBy_setPid] at nowOwned
    by_cases same : index = entry
    · rw [same, update_self, Option.map_eq_some_iff] at nowOwned
      obtain ⟨earlier, wasOwned, isNow⟩ := nowOwned
      rw [same, wasOwned, ← isNow]
      exact ⟨earlier.2, rfl⟩
    · rw [update_of_ne same] at nowOwned
      exact ⟨owned.2, nowOwned⟩
  constructor
  · exact
      { single := by
          intro owner one two oneOwned twoOwned isOne isTwo
          obtain ⟨_, wasOne⟩ := before owner one oneOwned isOne
          obtain ⟨_, wasTwo⟩ := before owner two twoOwned isTwo
          exact lawful.single owner one two _ _ wasOne wasTwo
        valid := by
          intro owner index owned nowOwned
          obtain ⟨_, wasOwned⟩ := before owner index owned nowOwned
          have wasValid := lawful.valid owner index _ wasOwned
          exact wasValid
        blank := by
          intro index unused
          change (statusAndUid (entries.key index)).1 = .unused at unused
          have differs : index ≠ entry := by
            intro same
            rw [same, parts] at unused
            exact taken unused
          simp only [MappingEntries.setPid, update_of_ne differs]
          exact lawful.blank index unused }
  · intro other differs
    have notOwned := ownedBy_eq_none_of_ne parts (Ne.symm differs)
    rw [ownedBy_setPid, notOwned, Option.map_none, ← notOwned, update_eq_self]

/-- The entry of the user is finished. -/
theorem Lawful.setUsed (lawful : entries.Lawful) {pid : Pid}
    (isOwned : entries.ownedBy uid entry = some (.updating, pid)) :
    (entries.setKey entry (createKey .used uid)).Lawful ∧ ∀ other, other ≠ uid →
        (entries.setKey entry (createKey .used uid)).ownedBy other = entries.ownedBy other := by
  obtain ⟨parts, _, _⟩ := ownedBy_eq_some_iff.mp isOwned
  have before (owner : Uid) (index : Fin size) (owned : MappingEntryStatus × Pid)
      (nowOwned : (entries.setKey entry (createKey .used uid)).ownedBy owner index = some owned) :
      ∃ earlier, entries.ownedBy owner index = some earlier ∧
        (owned.1 = .used ∨ owned.1 = .updating) := by
    rw [ownedBy_setKey entries owner uid entry (by decide)] at nowOwned
    by_cases same : index = entry
    · rw [same, update_self] at nowOwned
      by_cases isOwner : uid = owner
      · rw [if_pos isOwner, Option.some.injEq] at nowOwned
        rw [same, ← isOwner, isOwned, ← nowOwned]
        exact ⟨_, rfl, .inl rfl⟩
      · rw [if_neg isOwner] at nowOwned
        cases nowOwned
    · rw [update_of_ne same] at nowOwned
      exact ⟨owned, nowOwned, lawful.valid owner index owned nowOwned⟩
  constructor
  · exact
      { single := by
          intro owner one two oneOwned twoOwned isOne isTwo
          obtain ⟨_, wasOne, _⟩ := before owner one oneOwned isOne
          obtain ⟨_, wasTwo, _⟩ := before owner two twoOwned isTwo
          exact lawful.single owner one two _ _ wasOne wasTwo
        valid := by
          intro owner index owned nowOwned
          obtain ⟨_, _, isValid⟩ := before owner index owned nowOwned
          exact isValid
        blank := blank_setKey lawful (by decide) }
  · intro other differs
    exact ownedBy_setKey_of_ne (by decide) differs (ownedBy_eq_none_of_ne parts (Ne.symm differs))

/-- A user without an entry takes an unused one. -/
theorem Lawful.setUpdating (lawful : entries.Lawful)
    (unused : (statusAndUid (entries.key entry)).1 = .unused)
    (noEntry : ∀ index, entries.ownedBy uid index = none) :
    (entries.setKey entry (createKey .updating uid)).Lawful ∧
      (∀ other, other ≠ uid → (entries.setKey entry (createKey .updating uid)).ownedBy other =
          entries.ownedBy other) ∧
      (entries.setKey entry (createKey .updating uid)).ownedBy uid =
        update (entries.ownedBy uid) entry (some (.updating, 0)) := by
  have others (other : Uid) (differs : other ≠ uid) :
      (entries.setKey entry (createKey .updating uid)).ownedBy other = entries.ownedBy other :=
    ownedBy_setKey_of_ne (by decide) differs (ownedBy_eq_none_of_unused unused)
  have own : (entries.setKey entry (createKey .updating uid)).ownedBy uid =
      update (entries.ownedBy uid) entry (some (.updating, 0)) := by
    rw [ownedBy_setKey entries uid uid entry (by decide), if_pos rfl, (lawful.blank entry unused).2]
  have taken (index : Fin size) (owned : MappingEntryStatus × Pid)
      (nowOwned : (entries.setKey entry (createKey .updating uid)).ownedBy uid
        index = some owned) : index = entry ∧ owned.1 = .updating := by
    rw [own] at nowOwned
    by_cases same : index = entry
    · rw [same, update_self, Option.some.injEq] at nowOwned
      rw [← nowOwned]
      exact ⟨same, rfl⟩
    · rw [update_of_ne same, noEntry index] at nowOwned
      cases nowOwned
  refine ⟨?_, others, own⟩
  exact
    { single := by
        intro owner one two oneOwned twoOwned isOne isTwo
        by_cases same : owner = uid
        · rw [same] at isOne isTwo
          rw [(taken one _ isOne).1, (taken two _ isTwo).1]
        · rw [others owner same] at isOne isTwo
          exact lawful.single owner one two _ _ isOne isTwo
      valid := by
        intro owner index owned nowOwned
        by_cases same : owner = uid
        · rw [same] at nowOwned
          exact .inr (taken index _ nowOwned).2
        · rw [others owner same] at nowOwned
          exact lawful.valid owner index _ nowOwned
      blank := blank_setKey lawful (by decide) }

/-- What a process may do keeps the entries lawful, is not seen by other users, and is
what its own view expects. -/
theorem Lawful.perform (lawful : entries.Lawful) {op : MappingOp size} {answer : op.Ret}
    (record : UserRecord size) (may : (mappingRules uid).may ⟨entries.ownedBy uid, record⟩ op)
    (outcome : (answer, after) ∈ op.outcomes entries) :
    after.Lawful ∧ (∀ other, other ≠ uid → after.ownedBy other = entries.ownedBy other) ∧
      (mappingRules uid).expects ⟨entries.ownedBy uid, record⟩ op answer ∧
      after.ownedBy uid = (MappingView.observe ⟨entries.ownedBy uid, record⟩ op answer).owned := by
  cases op with
  | loadKey entry =>
      obtain ⟨rfl, rfl⟩ := Prod.mk.inj (List.mem_singleton.mp outcome)
      refine ⟨lawful, fun _ _ => rfl, ⟨?_, fun unused => (lawful.blank entry unused).1⟩, rfl⟩
      intro status
      constructor
      · rintro ⟨parts, taken⟩
        exact ⟨_, ownedBy_eq_some_iff.mpr ⟨parts, taken, rfl⟩⟩
      · rintro ⟨pid, owned⟩
        obtain ⟨parts, taken, _⟩ := ownedBy_eq_some_iff.mp owned
        exact ⟨parts, taken⟩
  | loadPid entry =>
      obtain ⟨rfl, rfl⟩ := Prod.mk.inj (List.mem_singleton.mp outcome)
      refine ⟨lawful, fun _ _ => rfl, ?_, rfl⟩
      rintro ⟨status, pid⟩ owned
      exact (ownedBy_eq_some_iff.mp owned).2.2.symm
  | storePid entry pid =>
      obtain ⟨_, rfl⟩ := Prod.mk.inj (List.mem_singleton.mp outcome)
      obtain ⟨stillLawful, others⟩ := lawful.setPid pid may
      exact ⟨stillLawful, others, trivial, ownedBy_setPid entries uid entry pid⟩
  | storeKey entry key =>
      obtain ⟨_, rfl⟩ := Prod.mk.inj (List.mem_singleton.mp outcome)
      obtain ⟨⟨oldPid, isOwned⟩, rfl⟩ := may
      change entries.ownedBy uid entry = _ at isOwned
      obtain ⟨stillLawful, others⟩ := lawful.setUsed isOwned
      refine ⟨stillLawful, others, trivial, ?_⟩
      have isPid := (ownedBy_eq_some_iff.mp isOwned).2.2
      rw [ownedBy_setKey entries uid uid entry (by decide), if_pos rfl,
        MappingView.owned_observe_storeKey]
      simp only
      rw [isOwned, isPid, Option.map_some]
  | compareExchangeWeak entry expected desired =>
      obtain ⟨rfl, rfl, noEntry⟩ := may
      rw [MappingOp.outcomes] at outcome
      split at outcome
      · rename_i isExpected
        rcases List.mem_cons.mp outcome with exchanged | failed
        · obtain ⟨rfl, rfl⟩ := Prod.mk.inj exchanged
          have unused : (statusAndUid (entries.key entry)).1 = .unused := by
            rw [isExpected]
            decide
          obtain ⟨stillLawful, others, own⟩ := lawful.setUpdating unused noEntry
          exact ⟨stillLawful, others, trivial, own⟩
        · obtain ⟨rfl, rfl⟩ := Prod.mk.inj (List.mem_singleton.mp failed)
          exact ⟨lawful, fun _ _ => rfl, trivial, rfl⟩
      · obtain ⟨rfl, rfl⟩ := Prod.mk.inj (List.mem_singleton.mp outcome)
        exact ⟨lawful, fun _ _ => rfl, trivial, rfl⟩

end MappingEntries

/-! ## The contract of the processes -/

/-- At most as many users as there are entries. -/
structure Participants (size : Nat) where
  uids : Finset Uid
  fit : uids.card ≤ size

/-- Only participants register, and an exchange fails only if the key is not the
expected one. -/
def Participants.Permits (participants : Participants size) (config : MappingConfig size) :
    MappingEvent size → Prop
  | .call uid _ => uid ∈ participants.uids
  | .perform _ (.compareExchangeWeak entry expected _) taken =>
      taken = false → config.memory.key entry ≠ expected
  | _ => True

/-- What a run keeps if nobody but the participants registers in it. -/
structure Participants.Inv (participants : Participants size) (config : MappingConfig size) :
    Prop where
  owners : ∀ uid entry, config.memory.ownedBy uid entry ≠ none → uid ∈ participants.uids
  running : ∀ uid, config.activity uid ≠ .idle → uid ∈ participants.uids
  refused : ∀ uid entry, (config.object uid).refused entry = true →
    (statusAndUid (config.memory.key entry)).1 ≠ .unused
  replies : ∀ uid, ∀ registration ∈ (config.object uid).returned, registration.reply ≠ none

/-- What every run keeps. -/
structure MappingInv (config : MappingConfig size) : Prop where
  lawful : config.memory.Lawful
  running : ∀ uid, config.activity uid ≠ .idle → (config.object uid).registered = none
  registered : ∀ uid pid, (config.object uid).registered = some pid →
    ∃ entry, config.memory.ownedBy uid entry = some (.used, pid)
  returned : ∀ uid, ∀ registration ∈ (config.object uid).returned, ∀ value,
    registration.reply = some value → value = registration.mapped.getD registration.pid

/-- The contract, for any run or for one of participants. -/
def mappingContract (size : Nat) (participants : Option (Participants size)) :
    Contract (mappingSystem size) (MappingView size) where
  Inv config := MappingInv config ∧ ∀ limit, participants = some limit → limit.Inv config
  view config uid := ⟨config.memory.ownedBy uid, config.object uid⟩
  rules := mappingRules
  post _ pid reply view := RegistrationPost pid reply view

/-- Permission for any run, or for one of participants. -/
def permittedFor (participants : Option (Participants size)) (config : MappingConfig size)
    (event : MappingEvent size) : Prop :=
  ∀ limit, participants = some limit → limit.Permits config event

section Records

variable (record : UserRecord size) (op : MappingOp size) (answer : op.Ret)

@[simp] theorem UserRecord.registered_observe :
    (record.observe op answer).registered = record.registered := by
  cases op with
  | loadKey entry =>
      rw [observe]
      split <;> rfl
  | compareExchangeWeak entry expected desired => cases answer <;> rfl
  | _ => rfl

@[simp] theorem UserRecord.returned_observe :
    (record.observe op answer).returned = record.returned := by
  cases op with
  | loadKey entry =>
      rw [observe]
      split <;> rfl
  | compareExchangeWeak entry expected desired => cases answer <;> rfl
  | _ => rfl

end Records

/-- An entry that is taken stays so. -/
theorem MappingEntries.taken_of_outcome {entries after : MappingEntries size} {uid : Uid}
    {op : MappingOp size} {answer : op.Ret} {view : MappingView size}
    (may : (mappingRules uid).may view op) (outcome : (answer, after) ∈ op.outcomes entries)
    {entry : Fin size} (taken : (statusAndUid (entries.key entry)).1 ≠ .unused) :
    (statusAndUid (after.key entry)).1 ≠ .unused := by
  have stored (index : Fin size) {status : MappingEntryStatus} (used : status ≠ .unused) :
      (statusAndUid ((entries.setKey index (createKey status uid)).key entry)).1 ≠ .unused := by
    by_cases same : entry = index
    · simp only [setKey, same, update_self, statusAndUid_createKey]
      exact used
    · simp only [setKey, update_of_ne same]
      exact taken
  cases op with
  | loadKey index | loadPid index | storePid index pid =>
      obtain ⟨_, rfl⟩ := Prod.mk.inj (List.mem_singleton.mp outcome)
      exact taken
  | storeKey index key =>
      obtain ⟨_, rfl⟩ := Prod.mk.inj (List.mem_singleton.mp outcome)
      obtain ⟨_, rfl⟩ := may
      exact stored index (by decide)
  | compareExchangeWeak index expected desired =>
      obtain ⟨_, rfl, _⟩ := may
      rw [MappingOp.outcomes] at outcome
      split at outcome
      · rcases List.mem_cons.mp outcome with exchanged | failed
        · obtain ⟨_, rfl⟩ := Prod.mk.inj exchanged
          exact stored index (by decide)
        · obtain ⟨_, rfl⟩ := Prod.mk.inj (List.mem_singleton.mp failed)
          exact taken
      · obtain ⟨_, rfl⟩ := Prod.mk.inj (List.mem_singleton.mp outcome)
        exact taken

/-- What a process notes as refused is taken, if exchanges fail for this reason only. -/
theorem taken_of_refused {participants : Participants size} {config : MappingConfig size}
    (lawful : config.memory.Lawful) {uid : Uid} {op : MappingOp size} {answer : op.Ret}
    {entries : MappingEntries size} (allowed : participants.Permits config (.perform uid op answer))
    {view : MappingView size} (may : (mappingRules uid).may view op)
    (outcome : (answer, entries) ∈ op.outcomes config.memory)
    {record : UserRecord size} {entry : Fin size} (before : record.refused entry = true →
      (statusAndUid (config.memory.key entry)).1 ≠ .unused)
    (refused : (record.observe op answer).refused entry = true) :
    (statusAndUid (config.memory.key entry)).1 ≠ .unused := by
  cases op with
  | loadKey index =>
      obtain ⟨rfl, _⟩ := Prod.mk.inj (List.mem_singleton.mp outcome)
      rw [UserRecord.observe] at refused
      split at refused
      · exact before refused
      · rename_i taken
        by_cases same : entry = index
        · rw [same]
          exact taken
        · simp only [update_of_ne same] at refused
          exact before refused
  | compareExchangeWeak index expected desired =>
      cases answer with
      | true => exact before refused
      | false =>
          by_cases same : entry = index
          · obtain ⟨rfl, _⟩ := may
            intro unused
            rw [same] at unused
            exact allowed rfl (lawful.blank index unused).1
          · simp only [UserRecord.observe, Bool.false_eq_true, if_false,
              update_of_ne same] at refused
            exact before refused
  | storeKey index key | loadPid index | storePid index pid => exact before refused

/-- With as many entries as participants, not all are taken by others. -/
theorem Participants.not_all_taken {participants : Participants size}
    {config : MappingConfig size} (inv : MappingInv config)
    (limited : participants.Inv config) {uid : Uid} (member : uid ∈ participants.uids)
    (noEntry : ∀ entry, config.memory.ownedBy uid entry = none)
    (taken : ∀ entry, (statusAndUid (config.memory.key entry)).1 ≠ .unused) :
    False := by
  have owned (entry : Fin size) : config.memory.ownedBy
      (statusAndUid (config.memory.key entry)).2 entry =
        some ((statusAndUid (config.memory.key entry)).1, config.memory.pid entry) :=
    MappingEntries.ownedBy_eq_some_iff.mpr ⟨rfl, taken entry, rfl⟩
  have others : Set.MapsTo
      (fun entry => (statusAndUid (config.memory.key entry)).2)
      (Finset.univ : Finset (Fin size)) (participants.uids.erase uid) := by
    intro entry _
    rw [Finset.mem_coe, Finset.mem_erase]
    constructor
    · intro same
      change (statusAndUid (config.memory.key entry)).2 = uid at same
      have isOwned := owned entry
      rw [same, noEntry entry] at isOwned
      cases isOwned
    · exact limited.owners _ entry (by rw [owned entry]; exact Option.some_ne_none _)
  have injective : Set.InjOn
      (fun entry => (statusAndUid (config.memory.key entry)).2)
      (Finset.univ : Finset (Fin size)) := by
    intro one _ two _ same
    have isTwo := owned two
    rw [← show _ = (statusAndUid (config.memory.key two)).2 from same] at isTwo
    exact inv.lawful.single _ one two _ _ (owned one) isTwo
  have counted := Finset.card_le_card_of_injOn _ others injective
  rw [Finset.card_univ, Fintype.card_fin, Finset.card_erase_of_mem member] at counted
  have present := Finset.card_pos.mpr ⟨uid, member⟩
  have fit := participants.fit
  omega

/-! ## Every run keeps the contract -/

section Obligations

variable {participants : Option (Participants size)} {config after : MappingConfig size}
  {uid : Uid} {pid : Pid}

section

variable (inv : (mappingContract size participants).Inv config)

include inv

theorem mapping_call (allowed : permittedFor participants config (.call uid pid))
    (isAfter : after = config.update config.memory uid
      ((mappingSystem size).onCall uid config.memory (config.object uid) pid)
      (.running pid (registerPid uid pid))) :
    (mappingContract size participants).Inv after ∧
      (mappingContract size participants).Unseen uid config after ∧
      (registerPid uid pid).Respects (mappingRules uid)
        ((mappingContract size participants).view after uid) (RegistrationPost pid) := by
  obtain ⟨inv, limited⟩ := inv
  subst isAfter
  refine ⟨⟨?_, ?_⟩, ?_, ?_⟩
  · exact
      { lawful := inv.lawful
        running := by
          intro other active
          by_cases same : other = uid
          · rw [same, update_object_self]
            rfl
          · rw [update_object_of_ne same]
            rw [update_activity_of_ne same] at active
            exact inv.running other active
        registered := by
          intro other registeredPid registered
          by_cases same : other = uid
          · rw [same, update_object_self] at registered
            cases registered
          · rw [update_object_of_ne same] at registered
            exact inv.registered other registeredPid registered
        returned := by
          intro other
          by_cases same : other = uid
          · rw [same, update_object_self]
            exact inv.returned uid
          · rw [update_object_of_ne same]
            exact inv.returned other }
  · intro limit isLimit
    have members := allowed limit isLimit
    exact
      { owners := (limited limit isLimit).owners
        running := by
          intro other active
          by_cases same : other = uid
          · rw [same]
            exact members
          · rw [update_activity_of_ne same] at active
            exact (limited limit isLimit).running other active
        refused := by
          intro other entry refused
          by_cases same : other = uid
          · rw [same, update_object_self] at refused
            cases refused
          · rw [update_object_of_ne same] at refused
            exact (limited limit isLimit).refused other entry refused
        replies := by
          intro other
          by_cases same : other = uid
          · rw [same, update_object_self]
            exact (limited limit isLimit).replies uid
          · rw [update_object_of_ne same]
            exact (limited limit isLimit).replies other }
  · intro other differs
    simp only [mappingContract, update_memory, update_object_of_ne differs]
  · apply registerPid_respects
    simp only [mappingContract, update_memory, update_object_self]
    exact
      { single := inv.lawful.single uid
        valid := inv.lawful.valid uid
        mapped := fun _ => MappingEntries.mappedPid_eq_some_iff inv.lawful }

theorem mapping_perform {op : MappingOp size} {answer : op.Ret}
    {rest : MappingProgram size (Option Pid)} {entries : MappingEntries size}
    (allowed : permittedFor participants config (.perform uid op answer))
    (active : config.activity uid ≠ .idle)
    (may : (mappingRules uid).may ((mappingContract size participants).view config uid) op)
    (outcome : (answer, entries) ∈ op.outcomes config.memory)
    (isAfter : after = config.update entries uid
      ((config.object uid).observe op answer) (.running pid rest)) :
    (mappingContract size participants).Inv after ∧
      (mappingContract size participants).Unseen uid config after ∧
      (mappingRules uid).expects ((mappingContract size participants).view config uid) op
        answer ∧
      (mappingContract size participants).view after uid =
        (mappingRules uid).next ((mappingContract size participants).view config uid) op
          answer := by
  obtain ⟨inv, limited⟩ := inv
  obtain ⟨lawful, others, expected, own⟩ := inv.lawful.perform (config.object uid) may outcome
  subst isAfter
  have unregistered := inv.running uid active
  refine ⟨⟨?_, ?_⟩, ?_, expected, ?_⟩
  · exact
      { lawful := lawful
        running := by
          intro other otherActive
          by_cases same : other = uid
          · rw [same, update_object_self, UserRecord.registered_observe]
            exact unregistered
          · rw [update_object_of_ne same]
            rw [update_activity_of_ne same] at otherActive
            exact inv.running other otherActive
        registered := by
          intro other registeredPid registered
          by_cases same : other = uid
          · rw [same, update_object_self, UserRecord.registered_observe,
              unregistered] at registered
            cases registered
          · rw [update_object_of_ne same] at registered
            rw [update_memory, others other same]
            exact inv.registered other registeredPid registered
        returned := by
          intro other
          by_cases same : other = uid
          · rw [same, update_object_self, UserRecord.returned_observe]
            exact inv.returned uid
          · rw [update_object_of_ne same]
            exact inv.returned other }
  · intro limit isLimit
    have members := (limited limit isLimit).running uid active
    exact
      { owners := by
          intro other entry owned
          by_cases same : other = uid
          · rw [same]
            exact members
          · rw [update_memory, others other same] at owned
            exact (limited limit isLimit).owners other entry owned
        running := by
          intro other otherActive
          by_cases same : other = uid
          · rw [same]
            exact members
          · rw [update_activity_of_ne same] at otherActive
            exact (limited limit isLimit).running other otherActive
        refused := by
          intro other entry refused
          rw [update_memory]
          apply MappingEntries.taken_of_outcome may outcome
          by_cases same : other = uid
          · rw [same, update_object_self] at refused
            exact taken_of_refused inv.lawful (allowed limit isLimit) may outcome
              ((limited limit isLimit).refused uid entry) refused
          · rw [update_object_of_ne same] at refused
            exact (limited limit isLimit).refused other entry refused
        replies := by
          intro other
          by_cases same : other = uid
          · rw [same, update_object_self, UserRecord.returned_observe]
            exact (limited limit isLimit).replies uid
          · rw [update_object_of_ne same]
            exact (limited limit isLimit).replies other }
  · intro other differs
    simp only [mappingContract, update_memory, update_object_of_ne differs,
      others other differs]
  · simp only [mappingContract, update_memory, update_object_self, own]
    rfl

theorem mapping_finish {reply : Option Pid} (active : config.activity uid ≠ .idle)
    (post : RegistrationPost pid reply ((mappingContract size participants).view config uid))
    (isAfter : after = config.update config.memory uid
      ((mappingSystem size).onReturn uid config.memory (config.object uid) pid reply) .idle) :
    (mappingContract size participants).Inv after ∧
      (mappingContract size participants).Unseen uid config after := by
  obtain ⟨inv, limited⟩ := inv
  subst isAfter
  refine ⟨⟨?_, ?_⟩, ?_⟩
  · exact
      { lawful := inv.lawful
        running := by
          intro other otherActive
          by_cases same : other = uid
          · rw [same, update_activity_self] at otherActive
            exact absurd rfl otherActive
          · rw [update_object_of_ne same]
            rw [update_activity_of_ne same] at otherActive
            exact inv.running other otherActive
        registered := by
          intro other registeredPid registered
          by_cases same : other = uid
          · rw [same, update_object_self] at registered
            cases reply with
            | none => cases registered
            | some value =>
                cases registered
                rw [same]
                exact post.2
          · rw [update_object_of_ne same] at registered
            exact inv.registered other registeredPid registered
        returned := by
          intro other
          by_cases same : other = uid
          · rw [same, update_object_self]
            intro registration member value isReply
            rcases List.mem_cons.mp member with isNew | earlier
            · rw [isNew] at isReply ⊢
              change reply = some value at isReply
              rw [isReply] at post
              exact post.1
            · exact inv.returned uid registration earlier value isReply
          · rw [update_object_of_ne same]
            exact inv.returned other }
  · intro limit isLimit
    have members := (limited limit isLimit).running uid active
    exact
      { owners := (limited limit isLimit).owners
        running := by
          intro other otherActive
          by_cases same : other = uid
          · rw [same]
            exact members
          · rw [update_activity_of_ne same] at otherActive
            exact (limited limit isLimit).running other otherActive
        refused := by
          intro other entry refused
          by_cases same : other = uid
          · rw [same, update_object_self] at refused
            exact (limited limit isLimit).refused uid entry refused
          · rw [update_object_of_ne same] at refused
            exact (limited limit isLimit).refused other entry refused
        replies := by
          intro other
          by_cases same : other = uid
          · rw [same, update_object_self]
            intro registration member
            rcases List.mem_cons.mp member with isNew | earlier
            · rw [isNew]
              intro isNone
              change reply = none at isNone
              rw [isNone] at post
              exact Participants.not_all_taken inv (limited limit isLimit) members
                (fun entry => (post entry).1)
                (fun entry => (limited limit isLimit).refused uid entry (post entry).2)
            · exact (limited limit isLimit).replies uid registration earlier
          · rw [update_object_of_ne same]
            exact (limited limit isLimit).replies other }
  · intro other differs
    simp only [mappingContract, update_memory, update_object_of_ne differs]

/-- A killed process leaves its entry as it is. -/
theorem mapping_crash
    (isAfter : after = config.update config.memory uid (config.object uid) .idle) :
    (mappingContract size participants).Inv after ∧
      (mappingContract size participants).Unseen uid config after := by
  obtain ⟨inv, limited⟩ := inv
  have objects : after.object = config.object := by
    rw [isAfter, update_object, update_eq_self]
  have memories : after.memory = config.memory := by
    rw [isAfter, update_memory]
  have activeBefore (other : Uid) (otherActive : after.activity other ≠ .idle) :
      config.activity other ≠ .idle := by
    rw [isAfter] at otherActive
    by_cases same : other = uid
    · rw [same, update_activity_self] at otherActive
      exact absurd rfl otherActive
    · rw [update_activity_of_ne same] at otherActive
      exact otherActive
  refine ⟨⟨?_, ?_⟩, ?_⟩
  · constructor
    · rw [memories]
      exact inv.lawful
    · intro other otherActive
      rw [objects]
      exact inv.running other (activeBefore other otherActive)
    · rw [objects, memories]
      exact inv.registered
    · rw [objects]
      exact inv.returned
  · intro limit isLimit
    constructor
    · rw [memories]
      exact (limited limit isLimit).owners
    · intro other otherActive
      exact (limited limit isLimit).running other (activeBefore other otherActive)
    · rw [objects, memories]
      exact (limited limit isLimit).refused
    · rw [objects]
      exact (limited limit isLimit).replies
  · intro other _
    simp only [mappingContract, objects, memories]

end

theorem mapping_obligations (participants : Option (Participants size)) :
    (mappingContract size participants).Obligations (permittedFor participants) where
  call inv allowed _ _ _ isAfter := mapping_call inv allowed isAfter
  perform inv allowed active may outcome _ isAfter := by
    apply mapping_perform inv allowed _ may outcome isAfter
    rw [active]
    exact nofun
  finish inv _ active post _ isAfter := by
    apply mapping_finish inv _ post isAfter
    rw [active]
    exact nofun
  crash inv _ killed _ isAfter := by
    cases killed
    exact mapping_crash inv isAfter
  environment _ _ moved := moved.elim

end Obligations

theorem mapping_initially (participants : Option (Participants size)) :
    (mappingContract size participants).Inv (mappingStart size) := by
  have unused (entry : Fin size) :
      (statusAndUid ((mappingStart size).memory.key entry)).1 = .unused := by
    change (statusAndUid 0).1 = .unused
    decide
  have noEntry (uid : Uid) (entry : Fin size) :
      (mappingStart size).memory.ownedBy uid entry = none :=
    MappingEntries.ownedBy_eq_none_of_unused (unused entry)
  constructor
  · constructor
    · constructor
      · intro uid one two oneOwned twoOwned isOne
        rw [noEntry] at isOne
        cases isOne
      · intro uid entry owned isOwned
        rw [noEntry] at isOwned
        cases isOwned
      · intro entry _
        exact ⟨rfl, rfl⟩
    · intro uid active
      exact absurd rfl active
    · intro uid pid registered
      cases registered
    · intro uid registration member
      cases member
  · intro limit _
    constructor
    · intro uid entry owned
      exact absurd (noEntry uid entry) owned
    · intro uid active
      exact absurd rfl active
    · intro uid entry refused
      cases refused
    · intro uid registration member
      cases member

/-! ## The law -/

/-- What holds of the entries and of the calls that returned. -/
structure RegistrationLaw
    (permitted : MappingConfig size → MappingEvent size → Prop)
    (config : MappingConfig size) : Prop where
  unique : ∀ uid one two, config.memory.statusOf uid one = some .used →
    config.memory.statusOf uid two = some .used → one = two
  registered : ∀ uid pid, (config.object uid).registered = some pid →
    ∃ entry, config.memory.statusOf uid entry = some .used ∧ config.memory.pid entry = pid
  returned : ∀ uid, ∀ registration ∈ (config.object uid).returned, ∀ value,
    registration.reply = some value → value = registration.mapped.getD registration.pid
  served : ∀ participants : Participants size,
    (∀ before event, permitted before event → participants.Permits before event) →
      ∀ uid, ∀ registration ∈ (config.object uid).returned, registration.reply ≠ none

/-- Whatever processes are killed and restarted, a user has one used entry, which
holds the process that registered last; a call returns what the used entry held
before; and no call fails where there are entries for all. -/
theorem registrations_of_reached
    {permitted : MappingConfig size → MappingEvent size → Prop} {config : MappingConfig size}
    (reached : Reaches (mappingSystem size) permitted (mappingStart size) config) :
    RegistrationLaw permitted config := by
  have kept : (mappingContract size none).Holds config := by
    apply Contract.run (mapping_obligations none) (mapping_initially none) (fun _ => rfl)
    apply reached.weaken
    intro _ _ _ limit isLimit
    cases isLimit
  have inv := kept.inv.1
  have owned {uid : Uid} {entry : Fin size}
      (used : config.memory.statusOf uid entry = some .used) :
      config.memory.ownedBy uid entry = some (.used, config.memory.pid entry) := by
    rw [MappingEntries.ownedBy, used]
    rfl
  exact
    { unique := by
        intro uid one two isOne isTwo
        exact inv.lawful.single uid one two _ _ (owned isOne) (owned isTwo)
      registered := by
        intro uid pid registered
        obtain ⟨entry, isOwned⟩ := inv.registered uid pid registered
        rw [MappingEntries.ownedBy, Option.map_eq_some_iff] at isOwned
        obtain ⟨status, isStatus, parts⟩ := isOwned
        obtain ⟨rfl, isPid⟩ := Prod.mk.inj parts
        exact ⟨entry, isStatus, isPid⟩
      returned := inv.returned
      served := by
        intro participants stronger
        have limited : (mappingContract size (some participants)).Holds config := by
          apply Contract.run (mapping_obligations (some participants))
            (mapping_initially (some participants)) (fun _ => rfl)
          apply reached.weaken
          intro before event allowed limit isLimit
          cases isLimit
          exact stronger before event allowed
        exact (limited.inv.2 participants rfl).replies }

section Inputs

instance (uid : Uid) (record : UserRecord size) (pid : Pid) :
    Decidable ((mappingSystem size).mayCall uid record pid) :=
  inferInstanceAs (Decidable True)

instance (before after : MappingEntries size) :
    Decidable ((mappingSystem size).environment before after) :=
  inferInstanceAs (Decidable False)

instance (participants : Participants size) (config : MappingConfig size)
    (event : MappingEvent size) : Decidable (participants.Permits config event) :=
  match event with
  | .call uid _ => inferInstanceAs (Decidable (uid ∈ participants.uids))
  | .perform _ (.compareExchangeWeak entry expected _) true =>
      inferInstanceAs (Decidable (true = false → config.memory.key entry ≠ expected))
  | .perform _ (.compareExchangeWeak entry expected _) false =>
      inferInstanceAs (Decidable (false = false → config.memory.key entry ≠ expected))
  | .perform _ (.loadKey _) _ => .isTrue trivial
  | .perform _ (.loadPid _) _ => .isTrue trivial
  | .perform _ (.storePid _ _) _ => .isTrue trivial
  | .perform _ (.storeKey _ _) _ => .isTrue trivial
  | .finish _ _ _ => .isTrue trivial
  | .crash _ => .isTrue trivial
  | .environment => .isTrue trivial

/-- One user and one entry. -/
def onlyUser : Participants 1 := ⟨{7}, by decide⟩

/-- A process is killed when it has stored its id but not finished its entry; the
next one registers. -/
def killedWhileRegistering : List (Choice Uid (MappingEntries 1) Pid) :=
  [.call 7 100, .perform 7 0, .perform 7 0, .perform 7 0, .perform 7 0, .crash 7,
    .call 7 200, .perform 7 0, .perform 7 0, .perform 7 0, .finish 7]

theorem exists_killedWhileRegistering : ∃ config : MappingConfig 1,
      Reaches (mappingSystem 1) onlyUser.Permits (mappingStart 1) config ∧
        (config.object 7).returned =
          [{ pid := 200, mapped := none, stored := some 100, reply := some 200 }] :=
  exists_reached _ onlyUser.Permits (mappingStart 1) killedWhileRegistering _
    (by decide +kernel)

/-- The law in that run, in which there is an entry for everyone who registers. -/
theorem registrations_of_killed : ∃ config : MappingConfig 1,
      Reaches (mappingSystem 1) onlyUser.Permits (mappingStart 1) config ∧
        (config.object 7).returned ≠ [] ∧ RegistrationLaw onlyUser.Permits config ∧
          ∀ registration ∈ (config.object 7).returned, registration.reply ≠ none := by
  obtain ⟨config, reached, returned⟩ := exists_killedWhileRegistering
  have law := registrations_of_reached reached
  refine ⟨config, reached, ?_, law, law.served onlyUser (fun _ _ isPermitted => isPermitted) 7⟩
  rw [returned]
  exact List.cons_ne_nil _ _

/-- What a killed process had stored in an unfinished entry is not returned. -/
theorem registrations_violated :
    ¬ ∀ (size : Nat) (permitted : MappingConfig size → MappingEvent size → Prop)
        (config : MappingConfig size),
      Reaches (mappingSystem size) permitted (mappingStart size) config →
        RegistrationLaw permitted config ∧
          ∀ uid, ∀ registration ∈ (config.object uid).returned, ∀ value,
            registration.reply = some value →
              value = registration.stored.getD registration.pid := by
  intro always
  obtain ⟨config, reached, returned⟩ := exists_killedWhileRegistering
  have same := (always 1 _ config reached).2 7
    { pid := 200, mapped := none, stored := some 100, reply := some 200 }
    (by rw [returned]; exact List.mem_singleton_self _) 200 rfl
  exact absurd same (by decide)

end Inputs

end MwCom.Lola
