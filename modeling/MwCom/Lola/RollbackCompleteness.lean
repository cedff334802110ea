/-
Module: MwCom.Lola.RollbackCompleteness
Purpose: Which of the logs a crashed process left behind are rolled back when the proxies of
  its successor roll back one after the other.
Trusted boundary: nobody else moves during one rollback of an event; how often a log was
  rolled back is bookkeeping of this module.
Main exports: RollsBackProxyTransactions, State, Step, Accounted, accounted_of_reached
-/
import Mathlib.Data.Finset.Card
import Mathlib.Data.Fintype.Basic
import MwCom.Lola.EventSubscriptionControl
import MwCom.Lola.EventDataControl

namespace MwCom.Lola.RollbackCompleteness

open Interleaving EventDataControl
open Function (update update_of_ne update_self)

/-- A log with the id of the application that registered it. -/
structure LogNode (slots : Nat) (Id : Type) extends TransactionLogNode slots where
  transactionLogId : Id

variable {slots size : Nat} {Id : Type} [DecidableEq Id]

/-- No transaction is recorded in the log. -/
def IsEmpty (log : TransactionLog slots) : Prop := ∀ entry, log.entry entry = .empty

/-- The node is to be rolled back. -/
def LogNode.IsPending (transactionLogId : Id) (node : LogNode slots Id) : Prop :=
  node.isActive = true ∧ node.transactionLogId = transactionLogId ∧ node.needsRollback = true

instance (transactionLogId : Id) (node : LogNode slots Id) :
    Decidable (node.IsPending transactionLogId) :=
  inferInstanceAs (Decidable (_ ∧ _ ∧ _))

/-! ## The logs of one event -/

/-- How the rollback of a log ends, with any slots and any subscriptions of the event. -/
def RollsBack (log : TransactionLog slots) (result : Except ComErrc Unit)
    (after : TransactionLog slots) : Prop :=
  ∃ (limits : EventSubscriptionControl) (stateSlots : Fin slots → StatusWord)
    (subscriptions : BitVec 32) (later : EventControl slots Unit),
    (TransactionLog.rollbackProxyElementLog () dereferenceEventWithoutTransactionLogging
      limits.unsubscribe).Ends (ControlOp.outcomes true)
        ⟨stateSlots, fun _ => ⟨true, true, log⟩, subscriptions⟩ result later ∧
    later.log () = after

/-- The logs are tried in order, and the first that is rolled back is reset. -/
inductive RollsBackFirst : (Fin size → LogNode slots Id) → Except ComErrc Unit →
    List (Fin size) → Except ComErrc Unit → (Fin size → LogNode slots Id) → Prop
  | none {logs result} : RollsBackFirst logs result [] result logs
  | reset {logs start index rest log}
      (rolled : RollsBack (logs index).transactionLog (.ok ()) log) (isEmpty : IsEmpty log) :
      RollsBackFirst logs start (index :: rest) (.ok ())
        (update logs index
          { logs index with transactionLog := log, isActive := false, needsRollback := false })
  | next {logs start index rest error log result after}
      (failed : RollsBack (logs index).transactionLog (.error error) log)
      (others : RollsBackFirst (update logs index { logs index with transactionLog := log })
        (.error error) rest result after) :
      RollsBackFirst logs start (index :: rest) result after

variable (transactionLogId : Id) (logs : Fin size → LogNode slots Id)

def findTransactionLogIndicesToBeRolledBack : List (Fin size) :=
  (List.finRange size).filter fun index => (logs index).IsPending transactionLogId

def RollsBackProxyTransactions : Except ComErrc Unit → (Fin size → LogNode slots Id) → Prop :=
  RollsBackFirst logs (.ok ()) (findTransactionLogIndicesToBeRolledBack transactionLogId logs)

def markTransactionLogsNeedRollback : Fin size → LogNode slots Id := fun index =>
  if (logs index).isActive = true ∧ (logs index).transactionLogId = transactionLogId then
    { logs index with needsRollback := true }
  else logs index

/-- What everybody else does to the logs of an event while an id is rolled back. -/
inductive OtherStep : (Fin size → LogNode slots Id) → (Fin size → LogNode slots Id) → Prop
  | register {before} (index : Fin size) (other : Id)
      (isFree : (before index).isActive = false) :
      OtherStep before (update before index
        { before index with transactionLogId := other, isActive := true, needsRollback := false })
  /-- A proxy records its transactions, or it gives its log back. -/
  | write {before} (index : Fin size) (log : TransactionLog slots) (isActive : Bool)
      (live : (before index).needsRollback = false) :
      OtherStep before
        (update before index { before index with transactionLog := log, isActive := isActive })
  | mark {before} (other : Id) (distinct : other ≠ transactionLogId) :
      OtherStep before (markTransactionLogsNeedRollback other before)
  | rollback {before result after} (other : Id) (distinct : other ≠ transactionLogId)
      (rolled : RollsBackProxyTransactions other before result after) : OtherStep before after

/-- The logs that are still to be rolled back. -/
def pending : Finset (Fin size) :=
  Finset.univ.filter fun index => (logs index).IsPending transactionLogId

/-! ## The proxies of the new process -/

/-- The logs of one service element, and how far the calls of `RollbackTransactionLogs` are
with it; `isPrepared` says that its control is in `synchronisation_data_set`. -/
structure State (slots size : Nat) (Id : Type) where
  logs : Fin size → LogNode slots Id
  isPrepared : Bool
  calls : Nat
  allSucceeded : Bool
  marked : Finset (Fin size)
  rolledBack : Fin size → Nat

namespace State

variable (state : State slots size Id)

def prepareRollback : State slots size Id :=
  if state.isPrepared = true then state
  else
    { state with
      logs := markTransactionLogsNeedRollback transactionLogId state.logs
      isPrepared := true
      marked := Finset.univ.filter fun index => (state.logs index).isActive = true ∧
        (state.logs index).transactionLogId = transactionLogId }

/-- A call was through with the element. -/
def rolled (result : Except ComErrc Unit) (after : Fin size → LogNode slots Id) :
    State slots size Id :=
  { state with
    logs := after
    calls := state.calls + 1
    allSucceeded := state.allSucceeded && result.isOk
    rolledBack := fun index => state.rolledBack index +
      if index ∈ pending transactionLogId state.logs \ pending transactionLogId after then 1
      else 0 }

/-- Every marked log was rolled back once, and none is left with transactions. -/
def Complete : Prop := ∀ index ∈ state.marked, state.rolledBack index = 1 ∧
    ((state.logs index).IsPending transactionLogId → IsEmpty (state.logs index).transactionLog)

/-- The log has another id, was not marked, or was registered after its index was rolled back. -/
def Spared (index : Fin size) : Prop :=
  (state.logs index).transactionLogId ≠ transactionLogId ∨ index ∉ state.marked ∨
    state.rolledBack index = 1

end State

/-- A call prepares the rollback before it rolls back the elements. -/
inductive Step (state : State slots size Id) : State slots size Id → Prop
  | prepare : Step state (state.prepareRollback transactionLogId)
  | rollback {result after} (isPrepared : state.isPrepared = true)
      (rolls : RollsBackProxyTransactions transactionLogId state.logs result after) :
      Step state (state.rolled transactionLogId result after)
  | other {after} (moves : OtherStep transactionLogId state.logs after) :
      Step state { state with logs := after }

/-- The states of the runs of a process that starts with whatever logs are there. -/
inductive Reached : State slots size Id → Prop
  | start (logs : Fin size → LogNode slots Id) : Reached ⟨logs, false, 0, true, ∅, fun _ => 0⟩
  | step {state after} (reached : Reached state) (stepped : Step transactionLogId state after) :
      Reached after

/-! ## What a rollback does to the logs -/

section Set

variable {logs} {after : Fin size → LogNode slots Id} {result : Except ComErrc Unit}

theorem mem_pending {index : Fin size} :
    index ∈ pending transactionLogId logs ↔ (logs index).IsPending transactionLogId := by
  simp [pending]

/-- A log that stays what it was. -/
theorem pending_update {index : Fin size} {node : LogNode slots Id}
    (same : node.IsPending transactionLogId ↔ (logs index).IsPending transactionLogId) :
    pending transactionLogId (update logs index node) = pending transactionLogId logs := by
  ext other
  rw [mem_pending, mem_pending]
  by_cases isIndex : other = index
  · rw [isIndex, update_self, same]
  · rw [update_of_ne isIndex]

/-- At most one log is reset, and only those to be rolled back are touched. -/
structure Rolled (logs : Fin size → LogNode slots Id) (start : Except ComErrc Unit)
    (todo : List (Fin size)) (result : Except ComErrc Unit)
    (after : Fin size → LogNode slots Id) : Prop where
  untouched : ∀ index ∉ pending transactionLogId logs, after index = logs index
  sameId : ∀ index, (after index).transactionLogId = (logs index).transactionLogId
  subset : pending transactionLogId after ⊆ pending transactionLogId logs
  card : result = .ok () → start = .ok () ∧ todo = [] ∨
    (pending transactionLogId after).card + 1 = (pending transactionLogId logs).card

theorem RollsBackFirst.rolled {start : Except ComErrc Unit} {todo : List (Fin size)}
    (rolls : RollsBackFirst logs start todo result after)
    (arePending : ∀ index ∈ todo, index ∈ pending transactionLogId logs) :
    Rolled transactionLogId logs start todo result after := by
  induction rolls with
  | none => exact ⟨fun _ _ => rfl, fun _ => rfl, subset_rfl, fun isOk => .inl ⟨isOk, rfl⟩⟩
  | @reset logs start first rest log rolled isEmpty =>
      have isPending := arePending first List.mem_cons_self
      have isErased : pending transactionLogId (update logs first
          { logs first with transactionLog := log, isActive := false, needsRollback := false }) =
            (pending transactionLogId logs).erase first := by
        ext index
        rw [Finset.mem_erase, mem_pending, mem_pending]
        by_cases isFirst : index = first
        · simp [isFirst, LogNode.IsPending]
        · simp [isFirst]
      constructor
      · intro index notPending
        rw [update_of_ne (ne_of_mem_of_not_mem isPending notPending).symm]
      · intro index
        by_cases isFirst : index = first
        · rw [isFirst, update_self]
        · rw [update_of_ne isFirst]
      · exact isErased ▸ Finset.erase_subset _ _
      · intro _
        rw [isErased]
        exact .inr (Finset.card_erase_add_one isPending)
  | @next logs start first rest error log result after failed others inductionHypothesis =>
      have same : pending transactionLogId
          (update logs first { logs first with transactionLog := log }) =
            pending transactionLogId logs := pending_update _ Iff.rfl
      have isPending := arePending first List.mem_cons_self
      have later := inductionHypothesis fun index member =>
        same ▸ arePending index (List.mem_cons_of_mem _ member)
      constructor
      · intro index notPending
        rw [later.untouched index (same ▸ notPending),
          update_of_ne (ne_of_mem_of_not_mem isPending notPending).symm]
      · intro index
        rw [later.sameId]
        by_cases isFirst : index = first
        · rw [isFirst, update_self]
        · rw [update_of_ne isFirst]
      · exact same ▸ later.subset
      · intro isOk
        rcases later.card isOk with ⟨impossible, _⟩ | fewer
        · cases impossible
        · exact .inr (same ▸ fewer)

variable {transactionLogId}

theorem RollsBackProxyTransactions.rolled
    (rolls : RollsBackProxyTransactions transactionLogId logs result after) :
    Rolled transactionLogId logs (.ok ())
      (findTransactionLogIndicesToBeRolledBack transactionLogId logs) result after := by
  apply RollsBackFirst.rolled transactionLogId rolls
  intro index member
  exact (mem_pending _).mpr (of_decide_eq_true (List.mem_filter.mp member).2)

/-- A call that succeeds takes one log off the list, if there is one. -/
theorem RollsBackProxyTransactions.card
    (rolls : RollsBackProxyTransactions transactionLogId logs (.ok ()) after) :
    (pending transactionLogId after).card = (pending transactionLogId logs).card - 1 := by
  rcases rolls.rolled.card rfl with ⟨_, noneLeft⟩ | fewer
  · have isEmpty : pending transactionLogId logs = ∅ := by
      rw [Finset.eq_empty_iff_forall_notMem]
      intro index member
      have found : index ∈ findTransactionLogIndicesToBeRolledBack transactionLogId logs :=
        List.mem_filter.mpr
          ⟨List.mem_finRange index, decide_eq_true ((mem_pending _).mp member)⟩
      exact List.ne_nil_of_mem found noneLeft
    have stillEmpty := Finset.subset_empty.mp (isEmpty ▸ rolls.rolled.subset)
    rw [isEmpty, stillEmpty]
    rfl
  · omega

/-- Nobody else makes a log that is to be rolled back, or changes one. -/
theorem OtherStep.pending_eq (moves : OtherStep transactionLogId logs after) :
    pending transactionLogId after = pending transactionLogId logs := by
  cases moves with
  | register index other isFree =>
      apply pending_update
      simp [LogNode.IsPending, isFree]
  | write index log isActive live =>
      apply pending_update
      simp [LogNode.IsPending, live]
  | mark other distinct =>
      ext index
      rw [mem_pending, mem_pending, markTransactionLogsNeedRollback]
      split
      · rename_i isOther
        simp [LogNode.IsPending, isOther.2, distinct]
      · rfl
  | rollback other distinct rolls =>
      ext index
      rw [mem_pending, mem_pending]
      by_cases isOther : index ∈ pending other logs
      · have isId := ((mem_pending _).mp isOther).2.1
        simp [LogNode.IsPending, rolls.rolled.sameId, isId, distinct]
      · rw [rolls.rolled.untouched index isOther]

end Set

/-! ## The account of a run -/

variable {state after : State slots size Id}

/-- Every rollback that succeeds takes one of the marked logs. -/
structure Accounted (state : State slots size Id) : Prop where
  unprepared : state.isPrepared = false → state.calls = 0 ∧ state.marked = ∅
  isMarked : state.isPrepared = true → pending transactionLogId state.logs ⊆ state.marked
  counted : ∀ index, state.rolledBack index =
    if index ∈ state.marked \ pending transactionLogId state.logs then 1 else 0
  left : state.isPrepared = true → state.allSucceeded = true →
    (pending transactionLogId state.logs).card = state.marked.card - state.calls

variable {transactionLogId}

theorem Accounted.prepare (accounted : Accounted transactionLogId state) :
    Accounted transactionLogId (state.prepareRollback transactionLogId) := by
  rw [State.prepareRollback]
  split
  · exact accounted
  · rename_i notPrepared
    obtain ⟨noCalls, noneMarked⟩ := accounted.unprepared (Bool.eq_false_iff.mpr notPrepared)
    have marks : pending transactionLogId
        (markTransactionLogsNeedRollback transactionLogId state.logs) =
          Finset.univ.filter fun index => (state.logs index).isActive = true ∧
            (state.logs index).transactionLogId = transactionLogId := by
      ext index
      rw [mem_pending, Finset.mem_filter, markTransactionLogsNeedRollback]
      split
      · rename_i isOwn
        simp [LogNode.IsPending, isOwn]
      · rename_i notOwn
        exact iff_of_false (fun isPending => notOwn ⟨isPending.1, isPending.2.1⟩)
          fun both => notOwn both.2
    refine ⟨nofun, fun _ => marks.subset, fun index => ?_, fun _ _ => ?_⟩
    · have notYet := accounted.counted index
      rw [noneMarked] at notYet
      simpa [marks] using notYet
    · change (pending _ _).card = _ - state.calls
      rw [marks, noCalls, Nat.sub_zero]

theorem Accounted.other {logs : Fin size → LogNode slots Id}
    (accounted : Accounted transactionLogId state)
    (moves : OtherStep transactionLogId state.logs logs) :
    Accounted transactionLogId { state with logs := logs } := by
  have same := moves.pending_eq
  refine ⟨accounted.unprepared, ?_, ?_, ?_⟩
  · exact same ▸ accounted.isMarked
  · exact same ▸ accounted.counted
  · exact same ▸ accounted.left

theorem Accounted.rollback {result : Except ComErrc Unit} {logs : Fin size → LogNode slots Id}
    (accounted : Accounted transactionLogId state) (isPrepared : state.isPrepared = true)
    (rolls : RollsBackProxyTransactions transactionLogId state.logs result logs) :
    Accounted transactionLogId (state.rolled transactionLogId result logs) := by
  have isMarked := accounted.isMarked isPrepared
  have fewer := rolls.rolled.subset
  constructor
  · exact fun isNot => Bool.noConfusion (isNot.symm.trans isPrepared)
  · exact fun _ => fewer.trans isMarked
  · intro index
    change state.rolledBack index + _ = _
    rw [accounted.counted]
    by_cases still : index ∈ pending transactionLogId logs
    · simp [State.rolled, still, fewer still]
    · by_cases was : index ∈ pending transactionLogId state.logs
      · simp [State.rolled, still, was, isMarked was]
      · simp [State.rolled, still, was]
  · intro _ allSucceeded
    obtain ⟨before, isOk⟩ := Bool.and_eq_true_iff.mp allSucceeded
    cases result with
    | error error => cases isOk
    | ok =>
        have left := accounted.left isPrepared before
        have taken := rolls.card
        change (pending transactionLogId logs).card = state.marked.card - (state.calls + 1)
        omega

theorem accounted_of_reached (reached : Reached transactionLogId state) :
    Accounted transactionLogId state := by
  induction reached with
  | start logs => exact ⟨fun _ => ⟨rfl, rfl⟩, nofun, fun _ => by simp, nofun⟩
  | step reached stepped accounted =>
      cases stepped with
      | prepare => exact accounted.prepare
      | rollback isPrepared rolls => exact accounted.rollback isPrepared rolls
      | other moves => exact accounted.other moves

/-! ## What the calls leave -/

/-- A rollback leaves the other logs alone; where every call so far has rolled the element
back, the rollback is complete exactly if there were no more marked logs than calls. -/
theorem complete_iff_of_reached (reached : Reached transactionLogId state) :
    (state.isPrepared = true → ∀ result logs,
      RollsBackProxyTransactions transactionLogId state.logs result logs →
        ∀ index, state.Spared transactionLogId index → logs index = state.logs index) ∧
    (state.allSucceeded = true →
      (state.Complete transactionLogId ↔ state.marked.card ≤ state.calls)) := by
  have accounted := accounted_of_reached reached
  have unfinished : ∀ index ∈ pending transactionLogId state.logs, state.rolledBack index = 0 := by
    intro index isPending
    rw [accounted.counted, if_neg fun both => (Finset.mem_sdiff.mp both).2 isPending]
  constructor
  · intro isPrepared result logs rolls index spared
    apply rolls.rolled.untouched
    intro isPending
    rcases spared with otherId | notMarked | again
    · exact otherId ((mem_pending _).mp isPending).2.1
    · exact notMarked (accounted.isMarked isPrepared isPending)
    · rw [unfinished index isPending] at again
      cases again
  · intro allSucceeded
    cases isPrepared : state.isPrepared with
    | false =>
        rw [State.Complete, (accounted.unprepared isPrepared).2]
        simp
    | true =>
        have isComplete : state.Complete transactionLogId ↔
            pending transactionLogId state.logs = ∅ := by
          constructor
          · intro complete
            rw [Finset.eq_empty_iff_forall_notMem]
            intro index isPending
            have isOne := (complete index (accounted.isMarked isPrepared isPending)).1
            rw [unfinished index isPending] at isOne
            cases isOne
          · intro noneLeft index isMarked
            constructor
            · rw [accounted.counted, noneLeft, Finset.sdiff_empty, if_pos isMarked]
            · intro isPending
              rw [← mem_pending, noneLeft] at isPending
              cases isPending
        rw [isComplete, ← Finset.card_eq_zero, accounted.left isPrepared allSucceeded]
        omega

/-- The log of a subscribed proxy. -/
def crashedLog : TransactionLog 1 := ⟨fun _ => .empty, .recorded, some 1⟩

/-- The logs of an application that crashed with subscribed proxies. -/
def crashed (needsRollback : Bool) : Fin size → LogNode 1 Nat :=
  fun _ => ⟨⟨true, needsRollback, crashedLog⟩, 7⟩

theorem rollsBack_crashedLog : RollsBack crashedLog (.ok ()) .empty := by
  have ends := Program.ends_of_runAlone (Option.some_get
    (x := (TransactionLog.rollbackProxyElementLog () dereferenceEventWithoutTransactionLogging
      (EventSubscriptionControl.unsubscribe ⟨1, 1, true⟩)).runAlone (ControlOp.outcomes true)
        ⟨fun _ => 0, fun _ => ⟨true, true, crashedLog⟩,
          EventSubscriptionControl.createState 1 1⟩) (by decide)).symm
  exact ⟨_, _, _, _, ends, rfl⟩

/-- One proxy of the new process is created, whatever number of logs was left. -/
theorem exists_created (others : Nat) : ∃ state : State 1 (others + 1) Nat,
    Reached 7 state ∧ state.allSucceeded = true ∧ state.calls = 1 ∧ state.marked = Finset.univ := by
  have found : findTransactionLogIndicesToBeRolledBack 7
      (crashed true : Fin (others + 1) → LogNode 1 Nat) =
        0 :: (List.finRange others).map Fin.succ := by
    rw [← List.finRange_succ]
    exact List.filter_true _
  have marks : markTransactionLogsNeedRollback 7 (crashed false) =
      (crashed true : Fin (others + 1) → LogNode 1 Nat) :=
    funext fun _ => if_pos ⟨rfl, rfl⟩
  have reached : Reached 7 (⟨crashed true, true, 0, true, Finset.univ, fun _ => 0⟩ :
      State 1 (others + 1) Nat) := by
    have prepared : Reached 7 (State.prepareRollback 7
        (⟨crashed false, false, 0, true, ∅, fun _ => 0⟩ : State 1 (others + 1) Nat)) :=
      .step (.start _) .prepare
    simpa [State.prepareRollback, marks, crashed] using prepared
  have rolls : RollsBackProxyTransactions 7 (crashed true : Fin (others + 1) → _) (.ok ()) _ :=
    found ▸ RollsBackFirst.reset rollsBack_crashedLog fun entry => by cases entry <;> rfl
  exact ⟨_, reached.step (.rollback rfl rolls), rfl, rfl, rfl⟩

/-- One call is enough for one log, and not for two. -/
theorem logs_rolledBack : (∃ state : State 1 1 Nat, Reached 7 state ∧ state.Complete 7) ∧
      ∃ state : State 1 2 Nat, Reached 7 state ∧ ¬state.Complete 7 := by
  constructor
  · obtain ⟨state, reached, succeeded, calls, marked⟩ := exists_created 0
    refine ⟨state, reached, ((complete_iff_of_reached reached).2 succeeded).mpr ?_⟩
    rw [calls, marked]
    decide
  · obtain ⟨state, reached, succeeded, calls, marked⟩ := exists_created 1
    refine ⟨state, reached, fun isComplete => ?_⟩
    have enough := ((complete_iff_of_reached reached).2 succeeded).mp isComplete
    rw [calls, marked] at enough
    exact absurd enough (by decide)

end MwCom.Lola.RollbackCompleteness
