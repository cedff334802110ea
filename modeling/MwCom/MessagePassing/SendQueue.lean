/-
Module: MwCom.MessagePassing.SendQueue
Purpose: What holds between callers that enqueue messages and the tasks that send
  them, in every state of a run.
Trusted boundary: none
Main exports: SendQueueInv, SendQueueLaw, sendQueue_of_reached,
  sendQueue_of_sent, sendQueue_violated
-/
import Mathlib.Data.List.Basic
import MwCom.MessagePassing.NonBlockingSender

namespace MwCom.MessagePassing

open Interleaving Function

variable {Short Medium Caller Worker : Type}

/-! ## The invariant -/

/-- The queue, the tasks submitted and the phases of the threads of the executor. -/
structure SendQueueInv (state : SenderState Short Medium)
    (phase : Worker → TaskPhase Short Medium) : Prop where
  bounded : state.queue.length ≤ state.maxQueueSize
  submitted : state.submitted ≤ 1
  single : ∀ one two, phase one ≠ .none → phase two ≠ .none → one = two
  exclusive : state.submitted = 1 → ∀ worker, phase worker = .none
  nonempty : (state.submitted = 1 ∨ ∃ worker, phase worker ≠ .none) → state.queue ≠ []
  awake : state.stopRequested = false → state.queue ≠ [] →
    state.submitted = 1 ∨ ∃ worker, phase worker ≠ .none
  front : ∀ worker message, phase worker = .read message ∨ phase worker = .handed message →
      state.queue.head? = some message
  settled : (∀ worker message, phase worker ≠ .handed message) →
    state.handed ++ state.queue = state.accepted
  sending : ∀ worker message, phase worker = .handed message →
    state.handed ++ state.queue.tail = state.accepted

namespace SendQueueInv

variable {state : SenderState Short Medium} {phase : Worker → TaskPhase Short Medium}
  {worker : Worker} {message : QueuedMessage Short Medium}

/-- No thread of the executor is at work. -/
theorem of_resting (bounded : state.queue.length ≤ state.maxQueueSize)
    (submitted : state.submitted ≤ 1) (resting : ∀ worker, phase worker = .none)
    (nonempty : state.submitted = 1 → state.queue ≠ [])
    (awake : state.stopRequested = false → state.queue ≠ [] → state.submitted = 1)
    (settled : state.handed ++ state.queue = state.accepted) :
    SendQueueInv state phase where
  bounded := bounded
  submitted := submitted
  single := fun one _ working => absurd (resting one) working
  exclusive := fun _ => resting
  nonempty := by
    rintro (isOne | ⟨worker, working⟩)
    · exact nonempty isOne
    · exact absurd (resting worker) working
  awake := fun running waiting => .inl (awake running waiting)
  front := by
    intro worker message busy
    rw [resting worker] at busy
    rcases busy with isRead | isHanded
    · cases isRead
    · cases isHanded
  settled := fun _ => settled
  sending := by
    intro worker message isHanded
    rw [resting worker] at isHanded
    cases isHanded

section

variable (inv : SendQueueInv state phase)

include inv

/-- While a task is submitted nobody works, and what was handed over has left the
queue. -/
theorem settled_of_resting (resting : ∀ worker, phase worker = .none) :
    state.handed ++ state.queue = state.accepted := by
  apply inv.settled
  intro worker message
  rw [resting worker]
  exact nofun

/-- A request to stop or to shut down moves no message. -/
theorem request (shutdown stop : Bool) : SendQueueInv
      { state with
        shutdownRequested := state.shutdownRequested || shutdown
        stopRequested := state.stopRequested || stop } phase where
  bounded := inv.bounded
  submitted := inv.submitted
  single := inv.single
  exclusive := inv.exclusive
  nonempty := inv.nonempty
  awake := by
    intro running
    exact inv.awake (Bool.or_eq_false_iff.mp running).1
  front := inv.front
  settled := inv.settled
  sending := inv.sending

/-- The first message in an empty queue submits a task, and only that one. -/
theorem enqueue (message : QueuedMessage Short Medium) :
    SendQueueInv (state.enqueue message).2 phase := by
  rw [SenderState.enqueue]
  split
  · exact inv
  · rename_i room
    have short : state.queue.length < state.maxQueueSize := by
      simp only [SenderState.full, Bool.or_eq_true, decide_eq_true_eq, not_or] at room
      omega
    have bounded : (state.queue ++ [message]).length ≤ state.maxQueueSize := by
      rw [List.length_append]
      exact short
    have first : (state.queue ++ [message]).length = 1 ↔ state.queue = [] := by
      rw [List.length_append, List.length_singleton, Nat.add_eq_right, List.length_eq_zero_iff]
    by_cases empty : state.queue = []
    · have idle : ¬(state.submitted = 1 ∨ ∃ worker, phase worker ≠ .none) := by
        intro busy
        exact inv.nonempty busy empty
      have noTask : state.submitted = 0 := by
        have atMostOne := inv.submitted
        have notOne : state.submitted ≠ 1 := fun isOne => idle (.inl isOne)
        omega
      have resting (worker : Worker) : phase worker = .none := by
        by_contra working
        exact idle (.inr ⟨worker, working⟩)
      simp only [if_pos (first.mpr empty), noTask]
      apply of_resting bounded (Nat.le_refl _) resting
      · intro _
        exact List.append_ne_nil_of_right_ne_nil _ (List.cons_ne_nil _ _)
      · intro _ _
        rfl
      · change state.handed ++ (state.queue ++ [message]) = state.accepted ++ [message]
        rw [← List.append_assoc, inv.settled_of_resting resting]
    · simp only [if_neg (fun isFirst => empty (first.mp isFirst))]
      exact
        { bounded := bounded
          submitted := inv.submitted
          single := inv.single
          exclusive := inv.exclusive
          nonempty := fun _ => List.append_ne_nil_of_left_ne_nil empty _
          awake := fun running _ => inv.awake running empty
          front := by
            intro worker other busy
            have isHead := inv.front worker other busy
            change (state.queue ++ [message]).head? = some other
            rw [List.head?_append, isHead, Option.some_or]
          settled := by
            intro unsent
            change state.handed ++ (state.queue ++ [message]) = state.accepted ++ [message]
            rw [← List.append_assoc, inv.settled unsent]
          sending := by
            intro worker other isHanded
            change state.handed ++ (state.queue ++ [message]).tail = state.accepted ++ [message]
            rw [List.tail_append_of_ne_nil empty, ← List.append_assoc,
              inv.sending worker other isHanded] }

/-- The other threads are at rest while this one works. -/
theorem resting (working : phase worker ≠ .none) (other : Worker) (distinct : other ≠ worker) :
    phase other = .none := by
  by_contra alsoWorking
  exact distinct (inv.single other worker alsoWorking working)

/-- There is no second task while a thread works. -/
theorem noTask (working : phase worker ≠ .none) : state.submitted = 0 := by
  have atMostOne := inv.submitted
  have notOne : state.submitted ≠ 1 := fun isOne => working (inv.exclusive isOne worker)
  omega

/-- What was handed over has left the queue while the thread at work holds nothing. -/
theorem settled_of_working (working : phase worker ≠ .none)
    (unsent : ∀ message, phase worker ≠ .handed message) :
    state.handed ++ state.queue = state.accepted := by
  apply inv.settled
  intro other message
  by_cases same : other = worker
  · rw [same]
    exact unsent message
  · rw [inv.resting working other same]
    exact nofun

end

section Moves

variable [DecidableEq Worker]

/-- One thread of the executor is at work. -/
theorem of_working {current : TaskPhase Short Medium}
    (bounded : state.queue.length ≤ state.maxQueueSize) (noTask : state.submitted = 0)
    (resting : ∀ other, other ≠ worker → phase other = .none) (working : current ≠ .none)
    (nonempty : state.queue ≠ [])
    (front : ∀ message, current = .read message ∨ current = .handed message →
      state.queue.head? = some message)
    (settled : (∀ message, current ≠ .handed message) →
      state.handed ++ state.queue = state.accepted)
    (sending : ∀ message, current = .handed message →
      state.handed ++ state.queue.tail = state.accepted) :
    SendQueueInv state (update phase worker current) := by
  have own : update phase worker current worker = current := update_self ..
  have others (other : Worker) (distinct : other ≠ worker) :
      update phase worker current other = .none := by
    rw [update_of_ne distinct, resting other distinct]
  have isWorker (other : Worker)
      (busy : update phase worker current other ≠ .none) : other = worker := by
    by_contra distinct
    exact busy (others other distinct)
  exact
    { bounded := bounded
      submitted := by
        rw [noTask]
        exact Nat.zero_le 1
      single := by
        intro one two oneWorks twoWorks
        rw [isWorker one oneWorks, isWorker two twoWorks]
      exclusive := by
        intro isOne
        rw [noTask] at isOne
        cases isOne
      nonempty := fun _ => nonempty
      awake := by
        intro _ _
        right
        exact ⟨worker, by rw [own]; exact working⟩
      front := by
        intro other message busy
        have same : other = worker := by
          apply isWorker other
          rcases busy with isRead | isHanded
          · rw [isRead]
            exact nofun
          · rw [isHanded]
            exact nofun
        rw [same, own] at busy
        exact front message busy
      settled := by
        intro unsent
        apply settled
        intro message
        have notHanded := unsent worker message
        rw [own] at notHanded
        exact notHanded
      sending := by
        intro other message isHanded
        have same : other = worker := by
          apply isWorker other
          rw [isHanded]
          exact nofun
        rw [same, own] at isHanded
        exact sending message isHanded }

/-- A thread takes the task that was submitted. -/
theorem takeTask (inv : SendQueueInv state phase) (waiting : state.submitted ≠ 0) :
    SendQueueInv { state with submitted := state.submitted - 1 }
      (update phase worker .deciding) := by
  have atMostOne := inv.submitted
  have isOne : state.submitted = 1 := by omega
  have resting := inv.exclusive isOne
  apply of_working
  · exact inv.bounded
  · simp only [isOne, Nat.sub_self]
  · intro other _
    exact resting other
  · exact nofun
  · exact inv.nonempty (.inl isOne)
  · rintro message (isRead | isHanded)
    · cases isRead
    · cases isHanded
  · intro _
    exact inv.settled_of_resting resting
  · exact nofun

/-- The task ends because it is to stop. -/
theorem stop (inv : SendQueueInv state phase) (deciding : phase worker = .deciding)
    (stopped : state.stopRequested = true) :
    SendQueueInv state (update phase worker .none) := by
  have working : phase worker ≠ .none := by
    rw [deciding]
    exact nofun
  apply of_resting inv.bounded inv.submitted
  · intro other
    by_cases same : other = worker
    · rw [same, update_self]
    · rw [update_of_ne same, inv.resting working other same]
  · intro isOne
    exact inv.nonempty (.inl isOne)
  · intro running
    rw [stopped] at running
    cases running
  · apply inv.settled_of_working working
    rw [deciding]
    exact nofun

/-- The thread reads the front. -/
theorem read (inv : SendQueueInv state phase) (working : phase worker ≠ .none)
    (unsent : ∀ message, phase worker ≠ .handed message)
    (isHead : state.queue.head? = some message) :
    SendQueueInv state (update phase worker (.read message)) := by
  apply of_working inv.bounded (inv.noTask working) (inv.resting working)
  · exact nofun
  · exact inv.nonempty (.inr ⟨worker, working⟩)
  · rintro other (isRead | isHanded)
    · cases isRead
      exact isHead
    · cases isHanded
  · intro _
    exact inv.settled_of_working working unsent
  · exact nofun

/-- The message that was read goes to the wrapped sender and stays at the front. -/
theorem hand (inv : SendQueueInv state phase) (isRead : phase worker = .read message) :
    SendQueueInv (state.hand message) (update phase worker (.handed message)) := by
  have working : phase worker ≠ .none := by
    rw [isRead]
    exact nofun
  have isHead := inv.front worker message (.inl isRead)
  apply of_working
  · exact inv.bounded
  · exact inv.noTask working
  · exact inv.resting working
  · exact nofun
  · exact inv.nonempty (.inr ⟨worker, working⟩)
  · rintro other (notRead | isHanded)
    · cases notRead
    · cases isHanded
      exact isHead
  · intro unsent
    exact absurd rfl (unsent message)
  · intro _ _
    have settled := inv.settled_of_working working fun other => by
      rw [isRead]
      exact nofun
    rw [← List.cons_head?_tail isHead] at settled
    change state.handed ++ [message] ++ state.queue.tail = state.accepted
    rw [List.append_assoc, List.singleton_append]
    exact settled

/-- The message leaves the queue; the task ends with the last one. -/
theorem popFront (inv : SendQueueInv state phase) (isHanded : phase worker = .handed message) :
    SendQueueInv state.popFront.2
      (update phase worker (if state.popFront.1 then .none else .deciding)) := by
  have working : phase worker ≠ .none := by
    rw [isHanded]
    exact nofun
  have settled := inv.sending worker message isHanded
  have bounded : state.queue.tail.length ≤ state.maxQueueSize := by
    rw [List.length_tail]
    exact Nat.le_trans (Nat.sub_le _ _) inv.bounded
  by_cases last : state.queue.tail = []
  · have isLast : state.popFront.1 = true := List.isEmpty_iff.mpr last
    rw [if_pos isLast]
    have noTask := inv.noTask working
    apply of_resting
    · exact bounded
    · exact inv.submitted
    · intro other
      by_cases same : other = worker
      · rw [same, update_self]
      · rw [update_of_ne same, inv.resting working other same]
    · intro isOne
      change state.submitted = 1 at isOne
      rw [noTask] at isOne
      cases isOne
    · intro _ waiting
      exact absurd last waiting
    · exact settled
  · have more : ¬ state.popFront.1 = true := fun isLast =>
      last (List.isEmpty_iff.mp isLast)
    rw [if_neg more]
    apply of_working
    · exact bounded
    · exact inv.noTask working
    · exact inv.resting working
    · exact nofun
    · exact last
    · rintro other (isRead | notHanded)
      · cases isRead
      · cases notHanded
    · intro _
      exact settled
    · exact nofun

end Moves

end SendQueueInv

/-! ## Rules of the threads -/

namespace SenderParty

/-- Between two calls a thread is at work exactly when its loop goes on. -/
def Rested (party : SenderParty Short Medium) : Prop :=
  party.phase = if party.continues then .deciding else .none

/-- A task reads the front before it sends it, and pops what it sent. -/
def MayAsWorker (party : SenderParty Short Medium) : SenderOp Short Medium → Prop
  | .enqueue _ => False
  | .takeTask => party.phase = .none
  | .stopRequested => party.phase = .deciding
  | .front => party.phase = .deciding ∨ ∃ message, party.phase = .read message
  | .wrappedSend message => party.phase = .read message
  | .popFront => ∃ message, party.phase = .handed message

def MayAsCaller : SenderOp Short Medium → Prop
  | .enqueue _ => True
  | _ => False

/-- There is a front, and it is the same when it is read again. -/
def Expects (party : SenderParty Short Medium) : (op : SenderOp Short Medium) → op.Ret → Prop
  | .front, front => ∃ message, front = some message ∧
      ∀ earlier, party.phase = .read earlier → message = earlier
  | _, _ => True

end SenderParty

namespace SendQueueInv

variable {state after : SenderState Short Medium} {phase : Worker → TaskPhase Short Medium}
  {worker : Worker} {party : SenderParty Short Medium} {op : SenderOp Short Medium}
  {answer : op.Ret}

/-- What a caller does to the queue. -/
theorem perform_caller (inv : SendQueueInv state phase) (may : SenderParty.MayAsCaller op)
    (outcome : (answer, after) ∈ op.outcomes state) :
    SendQueueInv after phase ∧ after.maxQueueSize = state.maxQueueSize := by
  cases op with
  | enqueue message =>
      have isAfter := List.mem_singleton.mp outcome
      have isState : after = (state.enqueue message).2 := congrArg Prod.snd isAfter
      rw [isState]
      constructor
      · exact inv.enqueue message
      · rw [SenderState.enqueue]
        split
        · rfl
        · rfl
  | takeTask | stopRequested | front | wrappedSend message | popFront => exact may.elim

/-- What a thread of the executor does to the queue. -/
theorem perform_worker [DecidableEq Worker] (inv : SendQueueInv state phase)
    (own : phase worker = party.phase) (may : party.MayAsWorker op)
    (outcome : (answer, after) ∈ op.outcomes state) :
    (SendQueueInv after (update phase worker (party.observe op answer).phase) ∧
      after.maxQueueSize = state.maxQueueSize) ∧ party.Expects op answer := by
  cases op with
  | enqueue message => exact may.elim
  | takeTask =>
      by_cases noTask : state.submitted = 0
      · simp only [SenderOp.outcomes, if_pos noTask, List.not_mem_nil] at outcome
      · simp only [SenderOp.outcomes, if_neg noTask, List.mem_singleton] at outcome
        cases outcome
        exact ⟨⟨inv.takeTask noTask, rfl⟩, trivial⟩
  | stopRequested =>
      cases List.mem_singleton.mp outcome
      constructor
      · constructor
        · simp only [SenderParty.observe]
          by_cases stopped : state.stopRequested = true
          · rw [if_pos stopped]
            exact inv.stop (own.trans may) stopped
          · rw [if_neg stopped, ← own, update_eq_self]
            exact inv
        · rfl
      · trivial
  | front =>
      cases List.mem_singleton.mp outcome
      have working : phase worker ≠ .none := by
        rw [own]
        rcases may with deciding | ⟨message, isRead⟩
        · rw [deciding]
          exact nofun
        · rw [isRead]
          exact nofun
      have unsent (message : QueuedMessage Short Medium) : phase worker ≠ .handed message := by
        rw [own]
        rcases may with deciding | ⟨other, isRead⟩
        · rw [deciding]
          exact nofun
        · rw [isRead]
          exact nofun
      have waiting := inv.nonempty (.inr ⟨worker, working⟩)
      rcases List.exists_cons_of_ne_nil waiting with ⟨message, rest, isQueue⟩
      have isHead : state.queue.head? = some message := by
        rw [isQueue]
        rfl
      constructor
      · constructor
        · simp only [SenderParty.observe, isHead]
          exact inv.read working unsent isHead
        · rfl
      · refine ⟨message, isHead, ?_⟩
        intro earlier isRead
        have isEarlier := inv.front worker earlier (.inl (own.trans isRead))
        rw [isHead] at isEarlier
        exact Option.some.inj isEarlier
  | wrappedSend message =>
      have isState : after = state.hand message := by
        rcases List.mem_cons.mp outcome with isSent | isFailed
        · exact congrArg Prod.snd isSent
        · exact congrArg Prod.snd (List.mem_singleton.mp isFailed)
      rw [isState]
      exact ⟨⟨inv.hand (own.trans may), rfl⟩, trivial⟩
  | popFront =>
      cases List.mem_singleton.mp outcome
      rcases may with ⟨message, isHanded⟩
      exact ⟨⟨inv.popFront (own.trans isHanded), rfl⟩, trivial⟩

end SendQueueInv

def senderRules : SenderThread Caller Worker → Rules (SenderOp Short Medium) SenderOp.Ret
      (SenderParty Short Medium)
  | .caller _ =>
      { may := fun _ op => SenderParty.MayAsCaller op
        expects := SenderParty.Expects
        next := SenderParty.observe }
  | .worker _ =>
      { may := SenderParty.MayAsWorker
        expects := SenderParty.Expects
        next := SenderParty.observe }

def SenderPost (party : SenderParty Short Medium) (continues : Bool) : Prop :=
  party.phase = if continues then .deciding else .none

/-- What the threads of the executor are doing. -/
def phases (config : SenderConfig Short Medium Caller Worker) (worker : Worker) :
    TaskPhase Short Medium :=
  (config.object (.worker worker)).phase

structure SenderInv (maxQueueSize : Nat)
    (config : SenderConfig Short Medium Caller Worker) : Prop where
  capacity : config.memory.maxQueueSize = maxQueueSize
  queue : SendQueueInv config.memory (phases config)
  rested : ∀ worker, config.activity (.worker worker) = .idle →
    (config.object (.worker worker)).Rested

def senderContract (maxQueueSize : Nat) :
    Contract (senderSystem Short Medium Caller Worker) (SenderParty Short Medium) where
  Inv := SenderInv maxQueueSize
  view config thread := config.object thread
  rules := senderRules
  post thread call continues party :=
    match thread, call with
    | .caller _, _ => True
    | .worker _, .send _ => False
    | .worker _, _ => SenderPost party continues

/-! ## The programs -/

namespace NonBlockingSender

variable {worker : Worker} {party : SenderParty Short Medium}

theorem beginTask_respects (idle : party.phase = .none) :
    (beginTask : SenderProgram Short Medium Bool).Respects
      (senderRules (.worker worker : SenderThread Caller Worker)) party
      fun continues after => SenderPost after continues := by
  apply Program.Respects.perform
  · exact idle
  · intro _ _
    rfl

/-- The message that was read twice is handed over and popped. -/
theorem sendFront_respects {message : QueuedMessage Short Medium}
    (isRead : party.phase = .read message) :
    (do
      let _ ← Program.perform (.wrappedSend message)
      let empty ← Program.perform (.popFront : SenderOp Short Medium)
      pure !empty : SenderProgram Short Medium Bool).Respects
      (senderRules (.worker worker : SenderThread Caller Worker)) party
      fun continues after => SenderPost after continues := by
  apply Program.Respects.perform
  · exact isRead
  · intro _ _
    apply Program.Respects.perform
    · exact ⟨message, rfl⟩
    · intro empty _
      cases empty with
      | false => rfl
      | true => rfl

theorem sendQueueElement_respects (deciding : party.phase = .deciding) :
    (sendQueueElement : SenderProgram Short Medium Bool).Respects
      (senderRules (.worker worker : SenderThread Caller Worker)) party
      fun continues after => SenderPost after continues := by
  apply Program.Respects.perform
  · exact deciding
  · intro stop _
    cases stop with
    | true => rfl
    | false =>
        apply Program.Respects.perform
        · exact .inl deciding
        · intro held expected
          rcases expected with ⟨first, isFirst, _⟩
          subst isFirst
          apply Program.Respects.perform
          · exact .inr ⟨first, rfl⟩
          · intro again expectedAgain
            rcases expectedAgain with ⟨second, isSecond, same⟩
            subst isSecond
            have isSame := same first rfl
            subst isSame
            cases second with
            | inl message | inr message => exact sendFront_respects rfl

end NonBlockingSender

/-! ## The steps -/

section Steps

variable [DecidableEq Caller] [DecidableEq Worker]
  {config after : SenderConfig Short Medium Caller Worker}
  {memory : SenderState Short Medium} {party : SenderParty Short Medium}
  {activity : Activity (SenderOp Short Medium) SenderOp.Ret (SenderCall Short Medium) Bool}
  {maxQueueSize : Nat}
  {permitted : SenderConfig Short Medium Caller Worker → SenderEvent Short Medium Caller Worker →
    Prop}

theorem phases_update_worker (worker : Worker) :
    phases (config.update memory (.worker worker) party activity) =
      update (phases config) worker party.phase := by
  funext other
  by_cases same : other = worker
  · rw [same, update_self, phases, Config.update_object_self]
  · rw [update_of_ne same, phases, Config.update_object_of_ne]
    · rfl
    · intro isWorker
      exact same (SenderThread.worker.inj isWorker)

theorem phases_update_caller (caller : Caller) :
    phases (config.update memory (.caller caller) party activity) = phases config := by
  funext worker
  have distinct : (.worker worker : SenderThread Caller Worker) ≠ .caller caller := nofun
  rw [phases, Config.update_object_of_ne distinct]
  rfl

/-- No step of one thread changes what another one keeps. -/
theorem sender_unseen (thread : SenderThread Caller Worker) :
    (senderContract maxQueueSize).Unseen thread config
      (config.update memory thread party activity) := by
  intro other distinct
  simp only [senderContract, Config.update_object_of_ne distinct]

variable {thread : SenderThread Caller Worker}

/-- The threads that do not move are between calls where they were. -/
theorem rested_update (inv : SenderInv maxQueueSize config)
    (rested : activity = .idle → party.Rested) (worker : Worker)
    (idle : (config.update memory thread party activity).activity (.worker worker) = .idle) :
    ((config.update memory thread party activity).object (.worker worker)).Rested := by
  by_cases same : .worker worker = thread
  · rw [same, Config.update_activity_self] at idle
    rw [same, Config.update_object_self]
    exact rested idle
  · rw [Config.update_activity_of_ne same] at idle
    rw [Config.update_object_of_ne same]
    exact inv.rested worker idle

variable {call : SenderCall Short Medium}

theorem sender_call (inv : SenderInv maxQueueSize config) (idle : config.activity thread = .idle)
    (allowed : (senderSystem Short Medium Caller Worker).mayCall thread (config.object thread) call)
    (isAfter : after = config.update config.memory thread (config.object thread)
      (.running call ((senderSystem Short Medium Caller Worker).code thread
        (config.object thread) call))) :
    SenderInv maxQueueSize after ∧ (senderContract maxQueueSize).Unseen thread config after ∧
      ((senderSystem Short Medium Caller Worker).code thread (config.object thread)
        call).Respects (senderRules thread) (after.object thread)
        ((senderContract maxQueueSize).post thread call) := by
  have samePhases : phases after = phases config := by
    rw [isAfter]
    funext worker
    simp only [phases, Config.update_object, update_eq_self]
  have sameMemory : after.memory = config.memory := by
    rw [isAfter]
    rfl
  have sameObject : after.object thread = config.object thread := by
    rw [isAfter, Config.update_object_self]
  constructor
  · exact
      { capacity := by
          rw [sameMemory]
          exact inv.capacity
        queue := by
          rw [sameMemory, samePhases]
          exact inv.queue
        rested := by
          rw [isAfter]
          exact rested_update inv nofun }
  · constructor
    · rw [isAfter]
      exact sender_unseen thread
    · rw [sameObject]
      cases thread with
      | caller caller =>
          cases call with
          | send message => exact ⟨trivial, fun _ _ => trivial⟩
          | beginTask | nextElement => exact allowed.elim
      | worker worker =>
          have rested := inv.rested worker idle
          cases call with
          | send message => exact allowed.elim
          | beginTask =>
              apply NonBlockingSender.beginTask_respects
              rw [rested]
              exact if_neg (by rw [allowed]; exact Bool.false_ne_true)
          | nextElement =>
              apply NonBlockingSender.sendQueueElement_respects
              rw [rested]
              exact if_pos allowed

theorem sender_perform {op : SenderOp Short Medium} {answer : op.Ret}
    {next : op.Ret → Program (SenderOp Short Medium) SenderOp.Ret Bool}
    (inv : SenderInv maxQueueSize config) (may : (senderRules thread).may (config.object thread) op)
    (outcome : (answer, memory) ∈ op.outcomes config.memory)
    (isAfter : after = config.update memory thread
      ((senderSystem Short Medium Caller Worker).observe thread config.memory
        (config.object thread) op answer) (.running call (next answer))) :
    SenderInv maxQueueSize after ∧ (senderContract maxQueueSize).Unseen thread config after ∧
      (senderRules thread).expects (config.object thread) op answer ∧
      after.object thread = (senderRules thread).next (config.object thread) op answer := by
  have sameMemory : after.memory = memory := by
    rw [isAfter]
    rfl
  have rested (worker : Worker) (idle : after.activity (.worker worker) = .idle) :
      (after.object (.worker worker)).Rested := by
    subst isAfter
    apply rested_update inv _ worker idle
    intro running
    cases running
  have unseen : (senderContract maxQueueSize).Unseen thread config after := by
    rw [isAfter]
    exact sender_unseen thread
  have moved : after.object thread = (config.object thread).observe op answer := by
    rw [isAfter, Config.update_object_self]
    rfl
  cases thread with
  | caller caller =>
      have samePhases : phases after = phases config := by
        rw [isAfter, phases_update_caller]
      rcases inv.queue.perform_caller may outcome with ⟨queue, capacity⟩
      have expected : (config.object (.caller caller)).Expects op answer := by
        cases op with
        | front => exact may.elim
        | _ => trivial
      refine ⟨⟨?_, ?_, rested⟩, unseen, expected, moved⟩
      · rw [sameMemory, capacity]
        exact inv.capacity
      · rw [sameMemory, samePhases]
        exact queue
  | worker worker =>
      have movedPhases : phases after = update (phases config) worker
          ((config.object (.worker worker)).observe op answer).phase := by
        rw [isAfter, phases_update_worker]
        rfl
      rcases inv.queue.perform_worker rfl may outcome with ⟨⟨queue, capacity⟩, expected⟩
      refine ⟨⟨?_, ?_, rested⟩, unseen, expected, moved⟩
      · rw [sameMemory, capacity]
        exact inv.capacity
      · rw [sameMemory, movedPhases]
        exact queue

theorem sender_finish {continues : Bool} (inv : SenderInv maxQueueSize config)
    (post : (senderContract maxQueueSize).post thread call continues (config.object thread))
    (isAfter : after = config.update config.memory thread
      ((senderSystem Short Medium Caller Worker).onReturn thread config.memory
        (config.object thread) call continues) .idle) :
    SenderInv maxQueueSize after ∧ (senderContract maxQueueSize).Unseen thread config after := by
  have sameMemory : after.memory = config.memory := by
    rw [isAfter]
    rfl
  have samePhase : ((senderSystem Short Medium Caller Worker).onReturn thread config.memory
      (config.object thread) call continues).phase = (config.object thread).phase := by
    cases call <;> rfl
  have samePhases : phases after = phases config := by
    rw [isAfter]
    cases thread with
    | caller caller => exact phases_update_caller caller
    | worker worker =>
        rw [phases_update_worker, samePhase]
        exact update_eq_self worker (phases config)
  constructor
  · exact
      { capacity := by
          rw [sameMemory]
          exact inv.capacity
        queue := by
          rw [sameMemory, samePhases]
          exact inv.queue
        rested := by
          intro worker idle
          subst isAfter
          by_cases same : .worker worker = thread
          · subst same
            rw [Config.update_object_self]
            cases call with
            | send message => exact post.elim
            | beginTask | nextElement => exact post
          · rw [Config.update_activity_of_ne same] at idle
            rw [Config.update_object_of_ne same]
            exact inv.rested worker idle }
  · rw [isAfter]
    exact sender_unseen thread

theorem sender_obligations (maxQueueSize : Nat) : (senderContract maxQueueSize :
      Contract (senderSystem Short Medium Caller Worker) _).Obligations permitted where
  call inv _ idle allowed _ isAfter := sender_call inv idle allowed isAfter
  perform inv _ _ may outcome _ isAfter := sender_perform inv may outcome isAfter
  finish inv _ _ post _ isAfter := sender_finish inv post isAfter
  crash _ _ killed := nomatch killed
  environment {config} _ inv _ moved after isAfter := by
    rcases moved with ⟨shutdown, stop, isMemory⟩
    subst isMemory
    constructor
    · exact
        { capacity := by
            rw [isAfter]
            exact inv.capacity
          queue := by
            rw [isAfter]
            exact inv.queue.request shutdown stop
          rested := by
            rw [isAfter]
            exact inv.rested }
    · intro thread
      rw [isAfter]
      rfl

end Steps

theorem sender_initially {maxQueueSize : Nat} {state : SenderState Short Medium}
    (created : SenderState.create maxQueueSize = some state) :
    SenderInv maxQueueSize (senderStart state : SenderConfig Short Medium Caller Worker) := by
  rw [SenderState.create] at created
  split at created
  · cases created
  · cases created
    exact
      { capacity := rfl
        queue := by
          apply SendQueueInv.of_resting
          · exact Nat.zero_le maxQueueSize
          · exact Nat.zero_le 1
          · intro worker
            rfl
          · intro submitted
            cases submitted
          · intro _ waiting
            exact absurd rfl waiting
          · rfl
        rested := fun _ _ => rfl }

/-! ## The law -/

section Law

variable [DecidableEq Caller] [DecidableEq Worker]

/-- What holds of the queue and its task.  A task is submitted, or it is in a thread
that has taken it and has neither stopped nor popped the last message. -/
structure SendQueueLaw (maxQueueSize : Nat)
    (config : SenderConfig Short Medium Caller Worker) : Prop where
  bounded : config.memory.queue.length ≤ maxQueueSize
  submitted : config.memory.submitted ≤ 1
  exclusive : config.memory.submitted = 1 → ∀ worker, phases config worker = .none
  single : ∀ one two, phases config one ≠ .none → phases config two ≠ .none → one = two
  awake : config.memory.stopRequested = false → (config.memory.queue ≠ [] ↔
      config.memory.submitted = 1 ∨ ∃ worker, phases config worker ≠ .none)
  settled : (∀ worker message, phases config worker ≠ .handed message) →
    config.memory.handed ++ config.memory.queue = config.memory.accepted
  /-- The message that was handed over stays at the front until it is popped. -/
  sending : ∀ worker message, phases config worker = .handed message →
    config.memory.queue.head? = some message ∧
      config.memory.handed ++ config.memory.queue.tail = config.memory.accepted
  front : ∀ worker call next, config.activity (.worker worker) = .running call (.step .front next) →
      config.memory.queue ≠ []
  /-- A `Send` that has not returned will put its message at the end of the queue, or
  return an error and leave everything as it is. -/
  refused : ∀ caller message rest,
    config.activity (.caller caller) = .running (.send message) rest →
      (∃ accepted, rest = .done accepted) ∨ ∃ next, rest = .step (.enqueue message) next ∧
          ∀ answer memory, (answer, memory) ∈ SenderOp.outcomes (.enqueue message) config.memory →
              next answer = .done answer ∧
                (answer = true → memory.queue = config.memory.queue ++ [message]) ∧
                (answer = false → memory = config.memory)

/-- What is left of a `Send` is all of it or nothing. -/
def SendsAtOnce (config : SenderConfig Short Medium Caller Worker) : Prop :=
  ∀ thread message rest, config.activity thread = .running (.send message) rest →
    (∃ accepted, rest = .done accepted) ∨ rest = NonBlockingSender.sendInternal message

theorem sendsAtOnce_of_reached {permitted : SenderConfig Short Medium Caller Worker →
      SenderEvent Short Medium Caller Worker → Prop}
    {state : SenderState Short Medium} {config : SenderConfig Short Medium Caller Worker}
    (reached : Reaches (senderSystem Short Medium Caller Worker) permitted
      (senderStart state) config) :
    SendsAtOnce config := by
  apply reached.invariant
  · intro thread message rest running
    cases running
  · intro before event after _ atOnce _ step thread message rest running
    cases step with
    | @call other call idle allowed =>
        by_cases same : thread = other
        · rw [same, Config.update_activity_self] at running
          cases running
          right
          rfl
        · rw [Config.update_activity_of_ne same] at running
          exact atOnce thread message rest running
    | @perform other call op next answer memory active outcome =>
        by_cases same : thread = other
        · rw [same, Config.update_activity_self] at running
          cases running
          rcases atOnce other message _ active with ⟨accepted, isDone⟩ | isWhole
          · cases isDone
          · cases isWhole
            left
            exact ⟨answer, rfl⟩
        · rw [Config.update_activity_of_ne same] at running
          exact atOnce thread message rest running
    | @finish other call reply active =>
        by_cases same : thread = other
        · rw [same, Config.update_activity_self] at running
          cases running
        · rw [Config.update_activity_of_ne same] at running
          exact atOnce thread message rest running
    | @crash other object killed => cases killed
    | environment moved => exact atOnce thread message rest running

/-- Whatever callers, tasks and requests to stop do, there is at most one task, it
lives as long as there are messages unless it is to stop, and the messages are handed
over in the order in which they were accepted, each once. -/
theorem sendQueue_of_reached {maxQueueSize : Nat} {state : SenderState Short Medium}
    {permitted : SenderConfig Short Medium Caller Worker →
      SenderEvent Short Medium Caller Worker → Prop}
    {config : SenderConfig Short Medium Caller Worker}
    (created : SenderState.create maxQueueSize = some state)
    (reached : Reaches (senderSystem Short Medium Caller Worker) permitted
      (senderStart state) config) :
    SendQueueLaw maxQueueSize config := by
  have kept : (senderContract maxQueueSize).Holds config :=
    Contract.run (sender_obligations maxQueueSize) (sender_initially created)
      (fun _ => rfl) reached
  have queue := kept.inv.queue
  exact
    { bounded := by
        rw [← kept.inv.capacity]
        exact queue.bounded
      submitted := queue.submitted
      exclusive := queue.exclusive
      single := queue.single
      awake := fun running => ⟨queue.awake running, queue.nonempty⟩
      settled := queue.settled
      sending := by
        intro worker message isHanded
        exact ⟨queue.front worker message (.inr isHanded), queue.sending worker message isHanded⟩
      front := by
        intro worker call next running
        have respected := (kept.running (.worker worker) call _ running).1
        apply queue.nonempty
        right
        use worker
        rcases respected with deciding | ⟨message, isRead⟩
        · intro isNone
          exact nomatch deciding.symm.trans isNone
        · intro isNone
          exact nomatch isRead.symm.trans isNone
      refused := by
        intro caller message rest running
        rcases sendsAtOnce_of_reached reached _ message rest running with isDone | isWhole
        · exact .inl isDone
        · right
          refine ⟨_, isWhole, ?_⟩
          intro answer memory outcome
          have isAfter := List.mem_singleton.mp outcome
          rw [SenderState.enqueue] at isAfter
          split at isAfter
          · cases isAfter
            exact ⟨rfl, nofun, fun _ => rfl⟩
          · cases isAfter
            exact ⟨rfl, fun _ => rfl, nofun⟩ }

end Law

/-! ## Two inputs -/

section Inputs

abbrev OneOfEach := SenderConfig Nat Nat Unit Unit

instance (thread : SenderThread Unit Unit) (party : SenderParty Nat Nat)
    (call : SenderCall Nat Nat) :
    Decidable ((senderSystem Nat Nat Unit Unit).mayCall thread party call) :=
  match thread, call with
  | .caller _, .send _ => inferInstanceAs (Decidable True)
  | .caller _, .beginTask => inferInstanceAs (Decidable False)
  | .caller _, .nextElement => inferInstanceAs (Decidable False)
  | .worker _, .send _ => inferInstanceAs (Decidable False)
  | .worker _, .beginTask => inferInstanceAs (Decidable (party.continues = false))
  | .worker _, .nextElement => inferInstanceAs (Decidable (party.continues = true))

instance (before after : SenderState Nat Nat) :
    Decidable ((senderSystem Nat Nat Unit Unit).environment before after) :=
  inferInstanceAs (Decidable (∃ shutdown stop, after = { before with
      shutdownRequested := before.shutdownRequested || shutdown
      stopRequested := before.stopRequested || stop }))

def roomForTwo : SenderState Nat Nat where
  queue := []
  maxQueueSize := 2
  submitted := 0
  shutdownRequested := false
  stopRequested := false
  accepted := []
  handed := []

/-- A short message is accepted, taken by a task and handed to the wrapped sender. -/
def handedButNotPopped : List (Choice (SenderThread Unit Unit) (SenderState Nat Nat)
    (SenderCall Nat Nat)) :=
  [.call (.caller ()) (.send (.inl 5)), .perform (.caller ()) 0, .finish (.caller ()),
    .call (.worker ()) .beginTask, .perform (.worker ()) 0, .finish (.worker ()),
    .call (.worker ()) .nextElement, .perform (.worker ()) 0, .perform (.worker ()) 0,
    .perform (.worker ()) 0, .perform (.worker ()) 0]

theorem exists_handedButNotPopped : ∃ config : OneOfEach,
      Reaches (senderSystem Nat Nat Unit Unit) (fun _ _ => True) (senderStart roomForTwo)
          config ∧
        config.memory.handed = [.inl 5] ∧ config.memory.queue = [.inl 5] ∧
        config.memory.accepted = [.inl 5] ∧
        config.memory.shutdownRequested = false ∧ config.memory.stopRequested = false :=
  exists_reached _ (fun _ _ => True) (senderStart roomForTwo) handedButNotPopped _
    (by decide +kernel)

/-- The law in that run. -/
theorem sendQueue_of_sent : ∃ config : OneOfEach,
      Reaches (senderSystem Nat Nat Unit Unit) (fun _ _ => True) (senderStart roomForTwo)
          config ∧
        config.memory.accepted ≠ [] ∧ SendQueueLaw 2 config := by
  rcases exists_handedButNotPopped with ⟨config, reached, _, _, isAccepted, _⟩
  refine ⟨config, reached, ?_, sendQueue_of_reached rfl reached⟩
  rw [isAccepted]
  exact List.cons_ne_nil _ _

/-- A message is still in the queue when the wrapped sender has it. -/
theorem sendQueue_violated :
    ¬ ∀ (maxQueueSize : Nat) (state : SenderState Nat Nat) (config : OneOfEach),
      SenderState.create maxQueueSize = some state →
        Reaches (senderSystem Nat Nat Unit Unit) (fun _ _ => True) (senderStart state)
            config →
          config.memory.shutdownRequested = false → config.memory.stopRequested = false →
            SendQueueLaw maxQueueSize config ∧
              config.memory.handed ++ config.memory.queue = config.memory.accepted := by
  intro always
  rcases exists_handedButNotPopped with
    ⟨config, reached, isHanded, isQueue, isAccepted, running, unstopped⟩
  have once := (always 2 roomForTwo config rfl reached running unstopped).2
  rw [isHanded, isQueue, isAccepted] at once
  cases once

end Inputs

end MwCom.MessagePassing
