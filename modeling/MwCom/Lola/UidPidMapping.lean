/-
Module: MwCom.Lola.UidPidMapping
Purpose: The entries that map the users of a service to their processes, and how
  a process registers in them.
Trusted boundary: every access to an entry is indivisible; a process is addressed
  by its user id.
Main exports: UidPidMappingEntry keys, MappingOp, registerPid, mappingSystem
-/
import MwCom.Interleaving.Contract

namespace MwCom.Lola

open Interleaving

abbrev Uid := BitVec 32

abbrev Pid := BitVec 32

/-! ## Entries -/

inductive MappingEntryStatus where
  | unused
  | used
  | updating
  | invalid
deriving DecidableEq

namespace MappingEntryStatus

def toBits : MappingEntryStatus → BitVec 16
  | .unused => 0
  | .used => 1
  | .updating => 2
  | .invalid => 3

/-- The cast to the type of a status keeps the low bits.  A number that is no status
compares unequal to all of them, as `invalid` does to those that an entry can have. -/
def ofBits (bits : BitVec 32) : MappingEntryStatus :=
  if bits.setWidth 16 = 0 then .unused
  else if bits.setWidth 16 = 1 then .used
  else if bits.setWidth 16 = 2 then .updating
  else .invalid

end MappingEntryStatus

/-- A status and the user id, in one word. -/
abbrev MappingKey := BitVec 64

namespace MappingKey

/-- `CreateKey` -/
def createKey (status : MappingEntryStatus) (uid : Uid) : MappingKey :=
  (status.toBits.setWidth 64 <<< 32) ||| uid.setWidth 64

/-- The parts that `GetStatusAndUidAtomic` takes of the word. -/
def statusAndUid (key : MappingKey) : MappingEntryStatus × Uid :=
  (.ofBits ((key >>> 32).setWidth 32), (key &&& 0x00000000FFFFFFFF#64).setWidth 32)

/-- Both parts come back out of the word. -/
@[simp] theorem statusAndUid_createKey (status : MappingEntryStatus) (uid : Uid) :
    statusAndUid (createKey status uid) = (status, uid) := by
  have uidBound := uid.isLt
  have number : (createKey status uid).toNat = status.toBits.toNat * 2 ^ 32 + uid.toNat := by
    have shifted : (status.toBits.setWidth 64 <<< 32).toNat = status.toBits.toNat <<< 32 := by
      have bound := status.toBits.isLt
      rw [BitVec.toNat_shiftLeft, BitVec.toNat_setWidth_of_le (by decide), Nat.shiftLeft_eq]
      exact Nat.mod_eq_of_lt (by omega)
    rw [createKey, BitVec.toNat_or, shifted, BitVec.toNat_setWidth_of_le (by decide),
      ← Nat.shiftLeft_add_eq_or_of_lt uidBound, Nat.shiftLeft_eq]
  have upper : ((createKey status uid >>> 32).setWidth 32).toNat = status.toBits.toNat := by
    have bound := status.toBits.isLt
    rw [BitVec.toNat_setWidth, BitVec.toNat_ushiftRight, number, Nat.shiftRight_eq_div_pow]
    omega
  have lower : ((createKey status uid &&& 0x00000000FFFFFFFF#64).setWidth 32).toNat =
      uid.toNat := by
    have mask : (0x00000000FFFFFFFF#64).toNat = 2 ^ 32 - 1 := rfl
    rw [BitVec.toNat_setWidth, BitVec.toNat_and, mask, Nat.and_two_pow_sub_one_eq_mod, number]
    omega
  have sameUid := BitVec.eq_of_toNat_eq lower
  have sameStatus : (createKey status uid >>> 32).setWidth 32 = status.toBits.setWidth 32 := by
    apply BitVec.eq_of_toNat_eq
    rw [upper, BitVec.toNat_setWidth_of_le (by decide)]
  rw [statusAndUid, sameStatus, sameUid]
  cases status <;> rfl

/-- The key of an entry that nobody has taken is put together as it was. -/
theorem createKey_zero : createKey (statusAndUid 0).1 (statusAndUid 0).2 = 0 := by
  decide

end MappingKey

/-! ## Operations on the entries -/

/-- The entries in shared memory: the key and the process of each. -/
structure MappingEntries (size : Nat) where
  key : Fin size → MappingKey
  pid : Fin size → Pid

namespace MappingEntries

variable {size : Nat} (entries : MappingEntries size) (entry : Fin size)

def setKey (key : MappingKey) : MappingEntries size :=
  { entries with key := Function.update entries.key entry key }

def setPid (pid : Pid) : MappingEntries size :=
  { entries with pid := Function.update entries.pid entry pid }

end MappingEntries

inductive MappingOp (size : Nat) where
  | loadKey (entry : Fin size)
  | storeKey (entry : Fin size) (key : MappingKey)
  | compareExchangeWeak (entry : Fin size) (expected desired : MappingKey)
  | loadPid (entry : Fin size)
  | storePid (entry : Fin size) (pid : Pid)

namespace MappingOp

variable {size : Nat}

abbrev Ret : MappingOp size → Type
  | .loadKey _ => MappingKey
  | .storeKey _ _ => Unit
  | .compareExchangeWeak _ _ _ => Bool
  | .loadPid _ => Pid
  | .storePid _ _ => Unit

/-- A weak exchange may fail although the key is the expected one. -/
def outcomes : (op : MappingOp size) → MappingEntries size → List (op.Ret × MappingEntries size)
  | .loadKey entry, entries => [(entries.key entry, entries)]
  | .storeKey entry key, entries => [((), entries.setKey entry key)]
  | .compareExchangeWeak entry expected desired, entries =>
      if entries.key entry = expected then
        [(true, entries.setKey entry desired), (false, entries)]
      else
        [(false, entries)]
  | .loadPid entry, entries => [(entries.pid entry, entries)]
  | .storePid entry pid, entries => [((), entries.setPid entry pid)]

end MappingOp

/-! ## Registering -/

section Registering

variable {size : Nat}

abbrev MappingProgram (size : Nat) := Program (MappingOp size) MappingOp.Ret

open Program (perform)

def tryUpdatePidForExistingUid (uid : Uid) (pid : Pid) :
    List (Fin size) → MappingProgram size (Option Pid)
  | [] => pure none
  | entry :: rest => do
      let key ← perform (.loadKey entry)
      let (entryStatus, entryUid) := MappingKey.statusAndUid key
      if entryStatus = .used ∧ entryUid = uid then do
        let oldPid ← perform (.loadPid entry)
        let _ ← perform (.storePid entry pid)
        pure (some oldPid)
      else if entryStatus = .updating ∧ entryUid = uid then do
        -- a process of this user was killed while it registered
        let _ ← perform (.storePid entry pid)
        let _ ← perform (.storeKey entry (MappingKey.createKey .used uid))
        pure (some pid)
      else
        tryUpdatePidForExistingUid uid pid rest

/-- One pass over the entries in search of an unused one. -/
def takeUnusedEntry (uid : Uid) (pid : Pid) : List (Fin size) → MappingProgram size (Option Pid)
  | [] => pure none
  | entry :: rest => do
      let key ← perform (.loadKey entry)
      let (entryStatus, entryUid) := MappingKey.statusAndUid key
      if entryStatus = .unused then do
        let taken ← perform (.compareExchangeWeak entry
          (MappingKey.createKey entryStatus entryUid) (MappingKey.createKey .updating uid))
        if taken then do
          let _ ← perform (.storePid entry pid)
          let _ ← perform (.storeKey entry (MappingKey.createKey .used uid))
          pure (some pid)
        else
          takeUnusedEntry uid pid rest
      else
        takeUnusedEntry uid pid rest

def retryTakeUnusedEntry (uid : Uid) (pid : Pid) :
    (retries : Nat) → MappingProgram size (Option Pid)
  | 0 => pure none
  | retries + 1 => do
      let taken ← takeUnusedEntry uid pid (List.finRange size)
      match taken with
      | some pid => pure (some pid)
      | none => retryTakeUnusedEntry uid pid retries

def kMaxRetries : Nat := 50

def registerPid (uid : Uid) (pid : Pid) : MappingProgram size (Option Pid) := do
  let resultPid ← tryUpdatePidForExistingUid uid pid (List.finRange size)
  match resultPid with
  | some pid => pure (some pid)
  | none => retryTakeUnusedEntry uid pid kMaxRetries

end Registering

/-! ## Processes that register -/

/-- A call that returned. -/
structure Registration where
  pid : Pid
  /-- What the used entry of the user held when the call began. -/
  mapped : Option Pid
  /-- What the processes of the user had last stored when the call began. -/
  stored : Option Pid
  reply : Option Pid
deriving DecidableEq

/-- What is known of the processes of one user. -/
structure UserRecord (size : Nat) where
  mapped : Option Pid
  stored : Option Pid
  lastStored : Option Pid
  /-- The entries that this call found taken or failed to take. -/
  refused : Fin size → Bool
  /-- The process whose call returned a value, until there is a later call. -/
  registered : Option Pid
  returned : List Registration

namespace UserRecord

variable {size : Nat}

def initial : UserRecord size where
  mapped := none
  stored := none
  lastStored := none
  refused _ := false
  registered := none
  returned := []

def observe (record : UserRecord size) : (op : MappingOp size) → op.Ret → UserRecord size
  | .loadKey entry, key =>
      if (MappingKey.statusAndUid key).1 = .unused then record
      else { record with refused := Function.update record.refused entry true }
  | .storeKey _ _, _ => record
  | .compareExchangeWeak entry _ _, taken =>
      if taken then record
      else { record with refused := Function.update record.refused entry true }
  | .loadPid _, _ => record
  | .storePid _ pid, _ => { record with lastStored := some pid }

end UserRecord

namespace MappingEntries

variable {size : Nat} (entries : MappingEntries size)

/-- The status of an entry, if it is one of the user. -/
def statusOf (uid : Uid) (entry : Fin size) : Option MappingEntryStatus :=
  let (entryStatus, entryUid) := MappingKey.statusAndUid (entries.key entry)
  if entryStatus ≠ .unused ∧ entryUid = uid then some entryStatus else none

/-- The process in the used entry of a user. -/
def mappedPid (uid : Uid) : Option Pid := ((List.finRange size).find? fun entry =>
    decide (entries.statusOf uid entry = some .used)).map entries.pid

def initial (size : Nat) : MappingEntries size where
  key _ := 0
  pid _ := 0

end MappingEntries

/-- Of each user there is one process at a time; it may be killed at any point, and
the next one has a process id of its own. -/
def mappingSystem (size : Nat) :
    System Uid (MappingOp size) MappingOp.Ret (MappingEntries size) (UserRecord size) Pid
      (Option Pid) where
  outcomes := MappingOp.outcomes
  mayCall _ _ _ := True
  code uid _ pid := registerPid uid pid
  onCall uid entries record _ :=
    { record with
      mapped := entries.mappedPid uid
      stored := record.lastStored
      refused := fun _ => false
      registered := none }
  observe _ _ record op answer := record.observe op answer
  onReturn _ _ record pid reply :=
    { record with
      registered := reply.map fun _ => pid
      returned := { pid, mapped := record.mapped, stored := record.stored, reply } ::
          record.returned }
  onCrash _ _ record := some record
  environment _ _ := False

abbrev MappingConfig (size : Nat) :=
  Config Uid (MappingOp size) MappingOp.Ret (MappingEntries size) (UserRecord size) Pid
    (Option Pid)

abbrev MappingEvent (size : Nat) := Event Uid (MappingOp size) MappingOp.Ret Pid (Option Pid)

def mappingStart (size : Nat) : MappingConfig size where
  memory := .initial size
  object _ := .initial
  activity _ := .idle

end MwCom.Lola
