/-
Module: MwCom.MessagePassing.ResmgrMessages
Purpose: What the resource manager of a receiver accepts of the messages that
  other processes write to it.
Trusted boundary: the operating system, which knows the pid of a writer.
Main exports: ResmgrReceiverTraits.getMessageData, getMessageData_short_eq_ok
-/
import MwCom.MessagePassing.Serializer

namespace MwCom.MessagePassing

/-- The errors a write is answered with. -/
inductive Errno where
  | ebadmsg
  | enomem
deriving DecidableEq

/-- What a process writes: a message of one of the two sizes, or something of
another size. -/
inductive Written where
  | short (message : ShortMessage)
  | medium (message : MediumMessage)
  | other
deriving DecidableEq

/-- The message of a write by `theirPid`; `delivered` says whether its bytes
could be fetched. -/
def ResmgrReceiverTraits.getMessageData (theirPid : Pid) (delivered : Bool)
    (written : Written) : Except Errno Message :=
  match written with
  | .other => .error .ebadmsg
  | .short message =>
      if delivered = false then .error .ebadmsg
      -- check that the sender is what it claims to be
      else if theirPid ≠ message.pid then .error .ebadmsg
      else .ok (.inl message)
  | .medium message =>
      if delivered = false then .error .ebadmsg
      else if theirPid ≠ message.pid then .error .ebadmsg
      else .ok (.inr message)

/-- A short message is accepted exactly if it carries the pid of its writer. -/
theorem getMessageData_short_eq_ok {theirPid : Pid} {message : ShortMessage} :
    ResmgrReceiverTraits.getMessageData theirPid true (.short message) = .ok (.inl message) ↔
      message.pid = theirPid := by
  by_cases same : theirPid = message.pid
  · simp [ResmgrReceiverTraits.getMessageData, same]
  · simp [ResmgrReceiverTraits.getMessageData, same, Ne.symm same]

end MwCom.MessagePassing
