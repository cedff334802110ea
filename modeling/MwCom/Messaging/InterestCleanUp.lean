/-
Module: MwCom.Messaging.InterestCleanUp
Purpose: A consumer application that ends and restarts, the memory in which it registers its
  process for a service instance, and a provider that is told which processes are interested
  and which are outdated.
Trusted boundary: every access to shared memory, every sent and every handled message is
  indivisible.  Memory is removed only while no proxy has it open.  Messages arrive in the order
  in which they were sent.
Main exports: InterestWorld, ConsumerOp, ConsumerProgram.executePartialRestartLogic,
  SurroundingsOp, interestSystem
-/
import Mathlib.Data.Finset.Basic
import MwCom.Interleaving.Contract
import MwCom.Lola.UidPidMapping

namespace MwCom.InterestCleanUp

open Interleaving
open MwCom.Lola (Uid Pid MappingEntryStatus MappingKey MappingEntries MappingOp MappingProgram
  registerPid)

/-! ## Entries -/

section Entries

variable {size : Nat}

/-- A key at which a registration of the user stops. -/
def isOwn (uid : Uid) (key : MappingKey) : Bool :=
  let (entryStatus, entryUid) := MappingKey.statusAndUid key
  (entryStatus == .used || entryStatus == .updating) && entryUid == uid

/-- The entry in which the next registration of the user finds an earlier process. -/
def recordOf (entries : MappingEntries size) (uid : Uid) : Option (Fin size) :=
  ((List.finRange size).find? fun entry => isOwn uid (entries.key entry)).filter fun entry =>
    (MappingKey.statusAndUid (entries.key entry)).1 == .used

end Entries

/-! ## The world -/

/-- Messages of a process to the provider, with the process. -/
inductive InterestMessage (EventId : Type) where
  | registerEventNotification (event : EventId) (node : Pid)
  | unregisterEventNotification (event : EventId) (node : Pid)
  | outdatedNodeId (pidToUnregister : Pid)
deriving DecidableEq

/-- The interested nodes after a message was handled. -/
def InterestMessage.handle {EventId : Type} [DecidableEq EventId]
    (interested : EventId → Finset Pid) : InterestMessage EventId → EventId → Finset Pid
  | .registerEventNotification event node =>
      Function.update interested event (insert node (interested event))
  | .unregisterEventNotification event node =>
      Function.update interested event ((interested event).erase node)
  | .outdatedNodeId pidToUnregister => fun event => (interested event).erase pidToUnregister

/-- The living process of the application with its rollback data and the memory it has open,
the processes before it, the entries of the memory if there is one, and the provider.  `record`
is the entry in which registrations of the living process find an earlier one. -/
structure InterestWorld (size : Nat) (EventId : Type) where
  process : Option Pid
  earlier : Finset Pid
  openedBy : Finset Nat
  address : Option Nat
  synchronisationDataSet : Finset Nat
  setMutex : Option Nat
  mapping : Option (MappingEntries size)
  record : Option (Fin size)
  channel : List (InterestMessage EventId)
  interested : EventId → Finset Pid

namespace InterestWorld

variable {size : Nat} {EventId : Type} (world : InterestWorld size EventId)

/-- The interested nodes when all messages sent so far have been handled. -/
def settled [DecidableEq EventId] : EventId → Finset Pid :=
  world.channel.foldl InterestMessage.handle world.interested

def send (message : InterestMessage EventId) : InterestWorld size EventId :=
  { world with channel := world.channel ++ [message] }

/-- A process ends, and its locks and mappings with it. -/
def endProcess (pid : Pid) : InterestWorld size EventId :=
  { world with
    process := none
    earlier := insert pid world.earlier
    openedBy := ∅
    address := none
    synchronisationDataSet := ∅
    setMutex := none }

/-- The process that the next registration of the user finds. -/
def recorded (uid : Uid) : Option Pid :=
  world.mapping.bind fun entries => (recordOf entries uid).map entries.pid

/-- A process starts, with a process id that no earlier one had. -/
def beginProcess (uid : Uid) (pid : Pid) : InterestWorld size EventId :=
  { world with
    process := some pid
    record := world.mapping.bind fun entries => recordOf entries uid }

/-- The marked address of the memory that is open. -/
def isMarked : Bool :=
  match world.address with
  | some address => decide (address ∈ world.synchronisationDataSet)
  | none => false

def mark : InterestWorld size EventId :=
  match world.address with
  | some address =>
      { world with synchronisationDataSet := insert address world.synchronisationDataSet }
  | none => world

/-- The memory is mapped once for all proxies of a process. -/
def openMemory (number address : Nat) : InterestWorld size EventId :=
  { world with
    openedBy := insert number world.openedBy
    address := some (world.address.getD address) }

def close (number : Nat) : InterestWorld size EventId :=
  { world with
    openedBy := world.openedBy.erase number
    address := if world.openedBy.erase number = ∅ then none else world.address }

def removeMemory : InterestWorld size EventId := { world with mapping := none, record := none }

def createMemory : InterestWorld size EventId :=
  { world with mapping := some (.initial size), record := none }

end InterestWorld

/-! ## Operations -/

/-- What a thread of the application does. -/
inductive ConsumerOp (size : Nat) (EventId : Type) where
  | openMemory (address : Nat)
  | lockSet
  | isMarked
  | onMapping (op : MappingOp size)
  | notifyOutdatedNodeId (outdatedNodeId : Pid)
  | markTransactionLogsNeedRollback
  | unlockSet
  | rollbackProxyTransactions
  | close
  | terminate
  | registerEventNotification (event : EventId)
  | unregisterEventNotification (event : EventId)

namespace ConsumerOp

variable {size : Nat} {EventId : Type}

@[reducible] def Ret : ConsumerOp size EventId → Type
  | .openMemory _ => Bool
  | .isMarked => Bool
  | .onMapping op => op.Ret
  | .rollbackProxyTransactions => Bool
  | _ => Unit

/-- The answers to a thread of the living process. -/
def outcomes (pid : Pid) (number : Nat) :
    (op : ConsumerOp size EventId) → InterestWorld size EventId →
      List (op.Ret × InterestWorld size EventId)
  | .openMemory address, world =>
      -- there may be no memory, or its usage marker cannot be locked
      (false, world) ::
        if world.mapping.isSome then [(true, world.openMemory number address)] else []
  | .lockSet, world =>
      if world.setMutex = none then [((), { world with setMutex := some number })] else []
  | .isMarked, world => [(world.isMarked, world)]
  | .onMapping op, world =>
      match world.mapping with
      | some entries =>
          (op.outcomes entries).map fun outcome =>
            (outcome.1, { world with mapping := some outcome.2 })
      | none => []
  | .notifyOutdatedNodeId outdatedNodeId, world =>
      [((), world.send (.outdatedNodeId outdatedNodeId))]
  | .markTransactionLogsNeedRollback, world => [((), world.mark)]
  | .unlockSet, world => [((), { world with setMutex := none })]
  | .rollbackProxyTransactions, world => [(true, world), (false, world)]
  | .close, world => [((), world.close number)]
  | .terminate, world => [((), world.endProcess pid)]
  | .registerEventNotification event, world =>
      [((), world.send (.registerEventNotification event pid))]
  | .unregisterEventNotification event, world =>
      [((), world.send (.unregisterEventNotification event pid))]

end ConsumerOp

/-- What else happens: processes start and end, other sections are mapped and marked or other
instances tell the provider of outdated processes, other users write their entries, the provider
removes and creates the memory and handles messages. -/
inductive SurroundingsOp (size : Nat) where
  | beginProcess (pid : Pid)
  | endProcess
  | markElsewhere (address : Nat)
  | notifyElsewhere (outdatedNodeId : Pid)
  | otherUser (entry : Fin size) (key : MappingKey) (pid : Pid)
  | removeMemory
  | createMemory
  | handleMessage
deriving DecidableEq

namespace SurroundingsOp

variable {size : Nat} {EventId : Type} [DecidableEq EventId]

def outcomes (uid : Uid) (world : InterestWorld size EventId) :
    SurroundingsOp size → List (InterestWorld size EventId)
  | .beginProcess pid =>
      if world.process = none ∧ pid ∉ world.earlier then [world.beginProcess uid pid] else []
  | .endProcess =>
      match world.process with
      | some pid => [world.endProcess pid]
      | none => []
  | .markElsewhere address =>
      if world.process = none then []
      else
        [{ world with
          synchronisationDataSet := insert address world.synchronisationDataSet }]
  | .notifyElsewhere outdatedNodeId =>
      if outdatedNodeId ∈ world.earlier ∧ world.process ≠ none then
        [world.send (.outdatedNodeId outdatedNodeId)]
      else []
  | .otherUser entry key pid =>
      match world.mapping with
      | some entries =>
          if isOwn uid (entries.key entry) || isOwn uid key then []
          else
            [{ world with mapping := some ((entries.setKey entry key).setPid entry pid) }]
      | none => []
  | .removeMemory => if world.openedBy = ∅ then [world.removeMemory] else []
  | .createMemory => if world.mapping.isNone then [world.createMemory] else []
  | .handleMessage =>
      match world.channel with
      | message :: rest =>
          [{ world with
            channel := rest
            interested := message.handle world.interested }]
      | [] => []

end SurroundingsOp

/-! ## Programs of the application -/

abbrev ConsumerProgram (size : Nat) (EventId : Type) :=
  Program (ConsumerOp size EventId) ConsumerOp.Ret

namespace ConsumerProgram

variable {size : Nat} {EventId : Type}

open Program (perform)

/-- Register the process, and tell the provider if there was an earlier one. -/
def registerAndNotify (uid : Uid) (pid : Pid) : ConsumerProgram size EventId Unit := do
  let previousPid ← (registerPid uid pid : MappingProgram size (Option Pid)).lift
    ConsumerOp.onMapping fun _ answer => answer
  match previousPid with
  | none => perform ConsumerOp.terminate
  | some previousPid =>
      if previousPid ≠ pid then perform (ConsumerOp.notifyOutdatedNodeId previousPid) else pure ()

def prepareRollback (uid : Uid) (pid : Pid) : ConsumerProgram size EventId Unit := do
  perform ConsumerOp.lockSet
  let isMarked ← perform ConsumerOp.isMarked
  if isMarked then perform ConsumerOp.unlockSet
  else do
    registerAndNotify uid pid
    perform ConsumerOp.markTransactionLogsNeedRollback
    perform ConsumerOp.unlockSet

/-- What is done with the memory that was opened. -/
def executePartialRestartLogic (uid : Uid) (pid : Pid) : ConsumerProgram size EventId Bool := do
  prepareRollback uid pid
  let rollbackResult ← perform ConsumerOp.rollbackProxyTransactions
  if rollbackResult then do
    registerAndNotify uid pid
    pure true
  else do
    perform ConsumerOp.close
    pure false

end ConsumerProgram

/-! ## The system -/

/-- Threads of the processes of the application, each for one proxy, and the rest of the
world. -/
inductive Agent where
  | consumer (pid : Pid) (number : Nat)
  | surroundings
deriving DecidableEq

inductive InterestOp (size : Nat) (EventId : Type) where
  | consumer (pid : Pid) (number : Nat) (op : ConsumerOp size EventId)
  | surroundings (op : SurroundingsOp size)

namespace InterestOp

variable {size : Nat} {EventId : Type}

@[reducible] def Ret : InterestOp size EventId → Type
  | .consumer _ _ op => op.Ret
  | .surroundings _ => Unit

/-- Only the living process does anything. -/
def outcomes [DecidableEq EventId] (uid : Uid) :
    (op : InterestOp size EventId) → InterestWorld size EventId →
      List (op.Ret × InterestWorld size EventId)
  | .consumer pid number op, world =>
      if world.process = some pid then op.outcomes pid number world else []
  | .surroundings op, world => (op.outcomes uid world).map fun after => ((), after)

end InterestOp

/-- The parts of `Proxy::Create`, what a proxy does, and what happens otherwise. -/
inductive InterestCall (size : Nat) (EventId : Type) where
  | createSharedMemory (address : Nat)
  | executePartialRestartLogic
  | registerEventNotification (event : EventId)
  | unregisterEventNotification (event : EventId)
  | destroyProxy
  | surroundings (op : SurroundingsOp size)
deriving DecidableEq

/-- A thread: whether it has opened the memory, is done with opening it, has a proxy, has ever
created one, the process that its registration has found and not yet reported, and whether it
has stored its own in the entry of the earlier process, which is `record`. -/
structure Visitor (size : Nat) where
  isOpen : Bool
  isReady : Bool
  hasProxy : Bool
  hasSucceeded : Bool
  previous : Option Pid
  stored : Bool
  record : Option (Fin size)
deriving DecidableEq

namespace Visitor

variable {size : Nat} {EventId : Type} (visitor : Visitor size)

/-- A thread without the memory. -/
def away (hasSucceeded : Bool) : Visitor size where
  isOpen := false
  isReady := false
  hasProxy := false
  hasSucceeded := hasSucceeded
  previous := none
  stored := false
  record := none

def observe : (op : ConsumerOp size EventId) → op.Ret → Visitor size
  | .openMemory _, (success : Bool) => { visitor with isOpen := success }
  | .onMapping (.loadPid _), (pid : Pid) => { visitor with previous := some pid }
  | .onMapping (.storePid entry _), _ =>
      { visitor with stored := visitor.stored || visitor.record == some entry }
  | .notifyOutdatedNodeId _, _ => { visitor with previous := none }
  | .terminate, _ => { visitor with previous := none }
  | .close, _ => away visitor.hasSucceeded
  | _, _ => visitor

def mayCall : InterestCall size EventId → Bool
  | .createSharedMemory _ => !visitor.isReady
  | .executePartialRestartLogic => visitor.isReady && !visitor.hasProxy
  | .surroundings _ => false
  | _ => visitor.hasProxy

/-- A thread whose call has returned. -/
def onReturn (record : Option (Fin size)) : InterestCall size EventId → Bool → Visitor size
  | .createSharedMemory _, true =>
      { visitor with isReady := true, previous := none, stored := false, record := record }
  | .executePartialRestartLogic, true => { visitor with hasProxy := true, hasSucceeded := true }
  | _, _ => visitor

end Visitor

/-- The code of a call; it returns whether something was opened or created. -/
def InterestCall.code {size : Nat} {EventId : Type} (uid : Uid) (pid : Pid) :
    InterestCall size EventId → ConsumerProgram size EventId Bool
  | .createSharedMemory address => Program.perform (ConsumerOp.openMemory address)
  | .executePartialRestartLogic => ConsumerProgram.executePartialRestartLogic uid pid
  | .registerEventNotification event => do
      Program.perform (ConsumerOp.registerEventNotification event)
      pure true
  | .unregisterEventNotification event => do
      Program.perform (ConsumerOp.unregisterEventNotification event)
      pure true
  | .destroyProxy => do
      Program.perform ConsumerOp.close
      pure true
  | .surroundings _ => pure true

section System

variable (size : Nat) (EventId : Type) [DecidableEq EventId]

abbrev InterestProgram := Program (InterestOp size EventId) InterestOp.Ret

/-- What an agent does in a call. -/
def Agent.code (uid : Uid) (call : InterestCall size EventId) :
    Agent → InterestProgram size EventId Bool
  | .consumer pid number =>
      (call.code uid pid : ConsumerProgram size EventId Bool).lift
        (fun op => .consumer pid number op) fun _ answer => answer
  | .surroundings =>
      match call with
      | .surroundings op => do
          Program.perform (InterestOp.surroundings op)
          pure true
      | _ => pure false

/-- The application of one user, and the rest of the world. -/
def interestSystem (uid : Uid) :
    System Agent (InterestOp size EventId) InterestOp.Ret (InterestWorld size EventId)
      (Visitor size) (InterestCall size EventId) Bool where
  outcomes := InterestOp.outcomes uid
  mayCall agent visitor call :=
    match agent with
    | .consumer _ _ => visitor.mayCall call = true
    | .surroundings => True
  code agent _ call := agent.code size EventId uid call
  onCall _ _ visitor _ := visitor
  observe _ _ visitor op answer :=
    match op with
    | .consumer _ _ consumerOp => visitor.observe consumerOp answer
    | .surroundings _ => visitor
  onReturn agent world visitor call reply :=
    match agent with
    | .consumer _ _ => visitor.onReturn world.record call reply
    | .surroundings => visitor
  onCrash _ _ _ := none
  environment _ _ := False

abbrev InterestConfig :=
  Config Agent (InterestOp size EventId) InterestOp.Ret (InterestWorld size EventId)
    (Visitor size) (InterestCall size EventId) Bool

abbrev InterestEvent :=
  Event Agent (InterestOp size EventId) InterestOp.Ret (InterestCall size EventId) Bool

/-- Nothing has happened yet. -/
def interestStart : InterestConfig size EventId where
  memory :=
    { process := none
      earlier := ∅
      openedBy := ∅
      address := none
      synchronisationDataSet := ∅
      setMutex := none
      mapping := none
      record := none
      channel := []
      interested := fun _ => ∅ }
  object _ := .away false
  activity _ := .idle

end System

end MwCom.InterestCleanUp
