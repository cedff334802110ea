/-
Module: MwCom.MessagePassing.QueueOwnership
Purpose: The messages written to a receiver are processed in order by one thread at a
  time, and no message is left while all threads wait.
Trusted boundary: none
Main exports: ReceiveQueueInv, ReceiveQueueLaw, receiveQueue_of_reached,
  receiveQueue_of_handedOver
-/
import Mathlib.Data.List.Basic
import MwCom.MessagePassing.ResmgrReceiver

namespace MwCom.MessagePassing

open Interleaving Function

variable {Thread : Type}

/-! ## The invariant -/

namespace QueueDuty

/-- The thread has set the flag of the queue and not reset it. -/
def Owns : QueueDuty → Prop
  | .owner => True
  | .holding _ => True
  | _ => False

theorem not_none_of_owns {duty : QueueDuty} (owns : duty.Owns) : duty ≠ .none := by
  intro isNone
  rw [isNone] at owns
  exact owns

end QueueDuty

/-- The queue, its flag and the duties of the threads. -/
structure ReceiveQueueInv (state : ReceiverState) (duty : Thread → QueueDuty) : Prop where
  bounded : state.messageQueue.length ≤ state.maxMessageQueueSize
  single : ∀ one two, (duty one).Owns → (duty two).Owns → one = two
  owned : state.messageQueueOwned = true ↔ ∃ thread, (duty thread).Owns
  awake : state.messageQueue ≠ [] → ∃ thread, duty thread ≠ .none
  settled : (∀ thread message, duty thread ≠ .holding message) →
    state.processed ++ state.messageQueue = state.enqueued
  holding : ∀ thread message, duty thread = .holding message →
    state.processed ++ message :: state.messageQueue = state.enqueued

namespace ReceiveQueueInv

variable {state : ReceiverState} {duty : Thread → QueueDuty} {thread : Thread}
  {message : Message}

theorem initially (maxMessageQueueSize : Nat) :
    ReceiveQueueInv (.initial maxMessageQueueSize) (fun _ : Thread => .none) where
  bounded := Nat.zero_le maxMessageQueueSize
  single := fun _ _ owns => owns.elim
  owned := by
    constructor
    · intro owned
      cases owned
    · rintro ⟨thread, owns⟩
      exact owns.elim
  awake := fun waiting => absurd rfl waiting
  settled := fun _ => rfl
  holding := fun _ _ isHolding => nomatch isHolding

/-- Events that come or are taken do not concern the queue. -/
theorem transport (inv : ReceiveQueueInv state duty) (events : List TransportEvent) :
    ReceiveQueueInv { state with transport := events } duty where
  bounded := inv.bounded
  single := inv.single
  owned := inv.owned
  awake := inv.awake
  settled := inv.settled
  holding := inv.holding

/-- There is one owner at most. -/
theorem others_of_owns (inv : ReceiveQueueInv state duty) (owns : (duty thread).Owns)
    (other : Thread) (distinct : other ≠ thread) : ¬(duty other).Owns := by
  intro ownsToo
  exact distinct (inv.single other thread ownsToo owns)

/-- While the owner holds no message, nobody does. -/
theorem settled_of_owner (inv : ReceiveQueueInv state duty) (isOwner : duty thread = .owner) :
    state.processed ++ state.messageQueue = state.enqueued := by
  apply inv.settled
  intro other held isHolding
  have owns : (duty thread).Owns := by
    rw [isOwner]
    trivial
  have ownsToo : (duty other).Owns := by
    rw [isHolding]
    trivial
  rw [inv.single other thread ownsToo owns, isOwner] at isHolding
  cases isHolding

section Moves

variable [DecidableEq Thread]

variable {next : QueueDuty}

/-- Where a thread gives up nothing but an obligation to look, the owner is who it
was. -/
theorem owns_update (notOwner : ¬(duty thread).Owns) (staysOut : ¬ next.Owns) (other : Thread) :
    (update duty thread next other).Owns ↔ (duty other).Owns := by
  by_cases same : other = thread
  · rw [same, update_self]
    exact iff_of_false staysOut notOwner
  · rw [update_of_ne same]

theorem holding_update (notOwner : ¬(duty thread).Owns) (staysOut : ¬ next.Owns) (other : Thread)
    (held : Message) :
    update duty thread next other = .holding held ↔ duty other = .holding held := by
  by_cases same : other = thread
  · rw [same, update_self]
    constructor
    · intro isHolding
      rw [isHolding] at staysOut
      exact absurd trivial staysOut
    · intro isHolding
      rw [isHolding] at notOwner
      exact absurd trivial notOwner
  · rw [update_of_ne same]

/-- A thread that has put a message into the queue will look at the queue. -/
theorem enqueue (inv : ReceiveQueueInv state duty) (notOwner : ¬(duty thread).Owns)
    (room : state.messageQueue.length < state.maxMessageQueueSize) :
    ReceiveQueueInv
      { state with
        messageQueue := state.messageQueue ++ [message]
        enqueued := state.enqueued ++ [message] }
      (update duty thread .enqueued) := by
  have staysOut : ¬ QueueDuty.enqueued.Owns := id
  have owners := owns_update notOwner staysOut
  have holders := holding_update notOwner staysOut
  exact
    { bounded := by
        rw [List.length_append]
        exact room
      single := by
        intro one two oneOwns twoOwns
        exact inv.single one two ((owners one).mp oneOwns) ((owners two).mp twoOwns)
      owned := by
        rw [inv.owned]
        exact exists_congr fun other => (owners other).symm
      awake := by
        intro _
        use thread
        rw [update_self]
        exact nofun
      settled := by
        intro nobody
        rw [← inv.settled, List.append_assoc]
        intro other held isHolding
        exact nobody other held ((holders other held).mpr isHolding)
      holding := by
        intro other held isHolding
        rw [← inv.holding other held ((holders other held).mp isHolding), List.append_assoc]
        rfl }

/-- A thread that finds the queue empty, or owned by another one, need not care. -/
theorem decline (inv : ReceiveQueueInv state duty) (notOwner : ¬(duty thread).Owns)
    (reason : state.messageQueue = [] ∨ state.messageQueueOwned = true) :
    ReceiveQueueInv state (update duty thread .none) := by
  have staysOut : ¬ QueueDuty.none.Owns := id
  have owners := owns_update notOwner staysOut
  have holders := holding_update notOwner staysOut
  exact
    { bounded := inv.bounded
      single := by
        intro one two oneOwns twoOwns
        exact inv.single one two ((owners one).mp oneOwns) ((owners two).mp twoOwns)
      owned := by
        rw [inv.owned]
        exact exists_congr fun other => (owners other).symm
      awake := by
        intro waiting
        rcases reason with isEmpty | isOwned
        · exact absurd isEmpty waiting
        · rcases inv.owned.mp isOwned with ⟨owner, owns⟩
          use owner
          exact QueueDuty.not_none_of_owns ((owners owner).mpr owns)
      settled := by
        intro nobody
        apply inv.settled
        intro other held isHolding
        exact nobody other held ((holders other held).mpr isHolding)
      holding := by
        intro other held isHolding
        exact inv.holding other held ((holders other held).mp isHolding) }

/-- One thread owns the queue. -/
theorem of_owner (bounded : state.messageQueue.length ≤ state.maxMessageQueueSize)
    (others : ∀ other, other ≠ thread → ¬(duty other).Owns)
    (owned : state.messageQueueOwned = true) (owns : next.Owns)
    (settled : (∀ message, next ≠ .holding message) →
      state.processed ++ state.messageQueue = state.enqueued)
    (holding : ∀ message, next = .holding message →
      state.processed ++ message :: state.messageQueue = state.enqueued) :
    ReceiveQueueInv state (update duty thread next) := by
  have isNext : update duty thread next thread = next := update_self ..
  have isThread (other : Thread) (ownsToo : (update duty thread next other).Owns) :
      other = thread := by
    by_contra distinct
    rw [update_of_ne distinct] at ownsToo
    exact others other distinct ownsToo
  exact
    { bounded := bounded
      single := by
        intro one two oneOwns twoOwns
        rw [isThread one oneOwns, isThread two twoOwns]
      owned := by
        apply iff_of_true owned
        use thread
        rw [isNext]
        exact owns
      awake := by
        intro _
        use thread
        rw [isNext]
        exact QueueDuty.not_none_of_owns owns
      settled := by
        intro nobody
        apply settled
        intro message
        have notHolding := nobody thread message
        rw [isNext] at notHolding
        exact notHolding
      holding := by
        intro other message isHolding
        have same : other = thread := by
          apply isThread other
          rw [isHolding]
          trivial
        rw [same, isNext] at isHolding
        exact holding message isHolding }

/-- The thread becomes the owner of a queue that has none. -/
theorem own (inv : ReceiveQueueInv state duty) (free : state.messageQueueOwned = false) :
    ReceiveQueueInv { state with messageQueueOwned := true }
      (update duty thread .owner) := by
  have nobody (other : Thread) : ¬(duty other).Owns := by
    intro owns
    have isOwned := inv.owned.mpr ⟨other, owns⟩
    rw [free] at isOwned
    cases isOwned
  apply of_owner
  · exact inv.bounded
  · intro other _
    exact nobody other
  · rfl
  · trivial
  · intro _
    apply inv.settled
    intro other held isHolding
    apply nobody other
    rw [isHolding]
    trivial
  · exact nofun

/-- The owner takes the first message, or gives up an empty queue. -/
theorem popFront (inv : ReceiveQueueInv state duty) (isOwner : duty thread = .owner) :
    ReceiveQueueInv state.popFront.2
      (update duty thread (match state.popFront.1 with
          | some message => .holding message
          | none => .none)) := by
  have owns : (duty thread).Owns := by
    rw [isOwner]
    trivial
  have others := inv.others_of_owns owns
  have settled := inv.settled_of_owner isOwner
  cases isQueue : state.messageQueue with
  | nil =>
      have isPopped : state.popFront = (none, { state with messageQueueOwned := false }) := by
        rw [ReceiverState.popFront, isQueue]
      rw [isPopped]
      have nobody (other : Thread) : ¬(update duty thread .none other).Owns := by
        by_cases same : other = thread
        · rw [same, update_self]
          exact id
        · rw [update_of_ne same]
          exact others other same
      exact
        { bounded := inv.bounded
          single := fun one _ ownsOne => absurd ownsOne (nobody one)
          owned := by
            constructor
            · intro owned
              cases owned
            · rintro ⟨other, ownsToo⟩
              exact absurd ownsToo (nobody other)
          awake := fun waiting => absurd isQueue waiting
          settled := fun _ => settled
          holding := by
            intro other held isHolding
            apply absurd _ (nobody other)
            rw [isHolding]
            trivial }
  | cons message rest =>
      have isPopped : state.popFront = (some message, { state with messageQueue := rest }) := by
        rw [ReceiverState.popFront, isQueue]
      rw [isPopped]
      apply of_owner
      · have bounded := inv.bounded
        rw [isQueue, List.length_cons] at bounded
        exact Nat.le_of_succ_le bounded
      · exact others
      · exact inv.owned.mpr ⟨thread, owns⟩
      · trivial
      · intro notHolding
        exact absurd rfl (notHolding message)
      · intro held isHeld
        cases isHeld
        rw [isQueue] at settled
        exact settled

/-- The owner processes the message it holds. -/
theorem process (inv : ReceiveQueueInv state duty) (isHolding : duty thread = .holding message) :
    ReceiveQueueInv (state.process message) (update duty thread .owner) := by
  have owns : (duty thread).Owns := by
    rw [isHolding]
    trivial
  apply of_owner
  · exact inv.bounded
  · exact inv.others_of_owns owns
  · exact inv.owned.mpr ⟨thread, owns⟩
  · trivial
  · intro _
    have settled := inv.holding thread message isHolding
    change state.processed ++ [message] ++ state.messageQueue = state.enqueued
    rw [List.append_assoc, List.singleton_append]
    exact settled
  · exact nofun

end Moves

end ReceiveQueueInv

/-! ## Rules of the threads -/

namespace ReceiverThread

/-- What an answer of a call says of the duty of the thread. -/
def Rested (thread : ReceiverThread) (step : ReceiveStep) : Prop :=
  thread.duty = if step = .process then .owner else .none

def May (thread : ReceiverThread) : ReceiverOp → Prop
  | .dispatchBlock => thread.duty = .none
  | .tryEnqueue _ => thread.duty = .none
  | .takeOwnership => thread.duty = .none ∨ thread.duty = .enqueued
  | .popFront => thread.duty = .owner
  | .process message => thread.duty = .holding message

end ReceiverThread

def receiverRules : Rules ReceiverOp ReceiverOp.Ret ReceiverThread where
  may := ReceiverThread.May
  expects _ _ _ := True
  next := ReceiverThread.observe

/-- What the threads have to do. -/
def duties (config : ReceiverConfig Thread) (thread : Thread) : QueueDuty :=
  (config.object thread).duty

structure ReceiverInv (maxMessageQueueSize : Nat) (config : ReceiverConfig Thread) : Prop where
  capacity : config.memory.maxMessageQueueSize = maxMessageQueueSize
  queue : ReceiveQueueInv config.memory (duties config)
  rested : ∀ thread, config.activity thread = .idle →
    (config.object thread).Rested (config.object thread).reached

variable {dispatchHandler : TransportEvent → Dispatched}

def receiverContract (Thread : Type) (ourPid : Pid)
    (dispatchHandler : TransportEvent → Dispatched) (maxMessageQueueSize : Nat) :
    Contract (receiverSystem Thread ourPid dispatchHandler) ReceiverThread where
  Inv := ReceiverInv maxMessageQueueSize
  view config thread := config.object thread
  rules _ := receiverRules
  post _ _ step thread := thread.Rested step

/-! ## The programs -/

namespace ResmgrReceiverTraits

variable {thread : ReceiverThread}

theorem ioWrite_respects (free : thread.duty = .none) (write : IncomingWrite) :
    (ioWrite write).Respects receiverRules thread fun _ after =>
      after.duty = .none ∨ after.duty = .enqueued := by
  rw [ioWrite]
  cases checkWritePreconditions write with
  | error error => exact .inl free
  | ok checked =>
      cases getMessageData write.theirPid write.delivered write.written with
      | error error => exact .inl free
      | ok message =>
          apply Program.Respects.perform
          · exact free
          · intro fits _
            cases fits with
            | true => exact .inr rfl
            | false => exact .inl free

theorem runCallback_respects (free : thread.duty = .none) (ourPid : Pid)
    (callback : Option Callback) :
    (runCallback ourPid callback).Respects receiverRules thread fun toTerminate after =>
      after.duty = .none ∨ (callback ≠ none ∧ toTerminate = false ∧ after.duty = .enqueued) := by
  cases callback with
  | none => exact .inl free
  | some callback =>
      cases callback with
      | privateMessageHandler theirPid => exact .inl free
      | ioWrite write =>
          apply (ioWrite_respects free write).bind
          rintro result after (stillFree | isEnqueued)
          · exact .inl stillFree
          · exact .inr ⟨Option.some_ne_none _, rfl, isEnqueued⟩

/-- A thread that has put a message into the queue looks at the queue before it
returns. -/
theorem receiveNext_respects (quiet : QuietErrors dispatchHandler)
    (free : thread.duty = .none) (ourPid : Pid) :
    (receiveNext ourPid dispatchHandler).Respects receiverRules thread fun step after =>
      after.Rested step := by
  apply Program.Respects.perform
  · exact free
  · intro event _
    cases event with
    | none => exact free
    | some event =>
        apply (runCallback_respects free ourPid _).bind
        intro toTerminate after done
        split
        · rename_i failed
          rcases done with stillFree | ⟨called, _, _⟩
          · exact stillFree
          · exact absurd (quiet event failed) called
        · cases toTerminate with
          | true =>
              rcases done with stillFree | ⟨_, impossible, _⟩
              · exact stillFree
              · cases impossible
          | false =>
              apply Program.Respects.perform
              · rcases done with stillFree | ⟨_, _, isEnqueued⟩
                · exact .inl stillFree
                · exact .inr isEnqueued
              · intro owned _
                cases owned with
                | true | false => rfl

theorem processNext_respects (isOwner : thread.duty = .owner) :
    processNext.Respects receiverRules thread fun step after => after.Rested step := by
  apply Program.Respects.perform
  · exact isOwner
  · intro messageData _
    cases messageData with
    | none => rfl
    | some message =>
        apply Program.Respects.perform
        · rfl
        · intro _ _
          rfl

end ResmgrReceiverTraits

/-! ## The steps -/

/-- What a thread does to the queue. -/
theorem ReceiveQueueInv.perform [DecidableEq Thread] {state after : ReceiverState}
    {duty : Thread → QueueDuty} {thread : Thread} {party : ReceiverThread} {op : ReceiverOp}
    {answer : op.Ret} (inv : ReceiveQueueInv state duty) (own : duty thread = party.duty)
    (may : party.May op) (outcome : (answer, after) ∈ op.outcomes state) :
    ReceiveQueueInv after (update duty thread (party.observe op answer).duty) ∧
      after.maxMessageQueueSize = state.maxMessageQueueSize := by
  cases op with
  | dispatchBlock =>
      have unmoved : update duty thread party.duty = duty := by
        rw [← own, update_eq_self]
      rw [ReceiverThread.observe, unmoved]
      rw [ReceiverOp.outcomes] at outcome
      split at outcome
      · cases List.mem_singleton.mp outcome
        exact ⟨inv, rfl⟩
      · rcases List.mem_cons.mp outcome with isFailed | isTaken
        · cases isFailed
          exact ⟨inv, rfl⟩
        · cases List.mem_singleton.mp isTaken
          exact ⟨inv.transport _, rfl⟩
  | tryEnqueue message =>
      have isOutcome := List.mem_singleton.mp outcome
      have notOwner : ¬(duty thread).Owns := by
        rw [own, may]
        exact id
      rw [ReceiverState.tryEnqueue] at isOutcome
      split at isOutcome
      · cases isOutcome
        have unmoved : update duty thread party.duty = duty := by
          rw [← own, update_eq_self]
        simp only [ReceiverThread.observe, Bool.false_eq_true, if_false, unmoved]
        exact ⟨inv, trivial⟩
      · rename_i room
        cases isOutcome
        exact ⟨inv.enqueue notOwner (Nat.lt_of_not_le room), rfl⟩
  | takeOwnership =>
      have isOutcome := List.mem_singleton.mp outcome
      have notOwner : ¬(duty thread).Owns := by
        rw [own]
        rcases may with isNone | isEnqueued
        · rw [isNone]
          exact id
        · rw [isEnqueued]
          exact id
      rw [ReceiverState.takeOwnership] at isOutcome
      split at isOutcome
      · rename_i isEmpty
        cases isOutcome
        exact ⟨inv.decline notOwner (.inl (List.isEmpty_iff.mp isEmpty)), rfl⟩
      · split at isOutcome
        · rename_i isOwned
          cases isOutcome
          exact ⟨inv.decline notOwner (.inr isOwned), rfl⟩
        · rename_i free
          cases isOutcome
          exact ⟨inv.own (Bool.eq_false_iff.mpr free), rfl⟩
  | popFront =>
      have isOutcome := List.mem_singleton.mp outcome
      have isAnswer : answer = state.popFront.1 := congrArg Prod.fst isOutcome
      have isAfter : after = state.popFront.2 := congrArg Prod.snd isOutcome
      rw [isAnswer, isAfter]
      refine ⟨inv.popFront (own.trans may), ?_⟩
      rw [ReceiverState.popFront]
      split
      · rfl
      · rfl
  | process message =>
      cases List.mem_singleton.mp outcome
      exact ⟨inv.process (own.trans may), rfl⟩

section Steps

variable [DecidableEq Thread] {ourPid : Pid} {maxMessageQueueSize : Nat}
  {config after : ReceiverConfig Thread} {thread : Thread} {memory : ReceiverState}
  {party : ReceiverThread} {activity : Activity ReceiverOp ReceiverOp.Ret ReceiverCall ReceiveStep}
  {permitted : ReceiverConfig Thread → ReceiverEvent Thread → Prop}

theorem duties_update : duties (config.update memory thread party activity) =
      update (duties config) thread party.duty := by
  funext other
  by_cases same : other = thread
  · rw [same, update_self, duties, Config.update_object_self]
  · rw [update_of_ne same, duties, Config.update_object_of_ne same]
    rfl

theorem receiver_unseen :
    (receiverContract Thread ourPid dispatchHandler maxMessageQueueSize).Unseen thread config
      (config.update memory thread party activity) := by
  intro other distinct
  simp only [receiverContract, Config.update_object_of_ne distinct]

/-- The invariant after a step of one thread. -/
theorem ReceiverInv.update (inv : ReceiverInv maxMessageQueueSize config)
    (capacity : memory.maxMessageQueueSize = config.memory.maxMessageQueueSize)
    (queue : ReceiveQueueInv memory (update (duties config) thread party.duty))
    (rested : activity = .idle → party.Rested party.reached) :
    ReceiverInv maxMessageQueueSize (config.update memory thread party activity) where
  capacity := capacity.trans inv.capacity
  queue := by
    rw [duties_update]
    exact queue
  rested := by
    intro other idle
    by_cases same : other = thread
    · rw [same, Config.update_activity_self] at idle
      rw [same, Config.update_object_self]
      exact rested idle
    · rw [Config.update_activity_of_ne same] at idle
      rw [Config.update_object_of_ne same]
      exact inv.rested other idle

theorem receiver_obligations (quiet : QuietErrors dispatchHandler) :
    (receiverContract Thread ourPid dispatchHandler maxMessageQueueSize).Obligations
      permitted where
  call {config thread call} inv _ idle allowed after isAfter := by
    subst isAfter
    have rested := inv.rested thread idle
    refine ⟨?_, receiver_unseen, ?_⟩
    · apply inv.update rfl
      · change ReceiveQueueInv config.memory (update (duties config) thread (duties config thread))
        rw [update_eq_self]
        exact inv.queue
      · exact nofun
    · simp only [receiverContract, Config.update_object_self]
      cases call with
      | receiveNext =>
          apply ResmgrReceiverTraits.receiveNext_respects quiet
          change (config.object thread).reached = .again at allowed
          rw [ReceiverThread.Rested, allowed] at rested
          exact rested
      | processNext =>
          apply ResmgrReceiverTraits.processNext_respects
          change (config.object thread).reached = .process at allowed
          rw [ReceiverThread.Rested, allowed] at rested
          exact rested
  perform {config thread call op next answer memory} inv _ _ may outcome after isAfter := by
    subst isAfter
    rcases inv.queue.perform rfl may outcome with ⟨queue, capacity⟩
    refine ⟨inv.update capacity queue nofun, receiver_unseen, trivial, ?_⟩
    simp only [receiverContract, Config.update_object_self]
    rfl
  finish {config thread call reply} inv _ _ post after isAfter := by
    subst isAfter
    refine ⟨?_, receiver_unseen⟩
    apply inv.update rfl
    · change ReceiveQueueInv config.memory (update (duties config) thread (duties config thread))
      rw [update_eq_self]
      exact inv.queue
    · intro _
      exact post
  crash _ _ killed := nomatch killed
  environment {config memory} inv _ moved after isAfter := by
    rcases moved with ⟨events, isMemory⟩
    subst isMemory
    subst isAfter
    constructor
    · exact ⟨inv.capacity, inv.queue.transport events, inv.rested⟩
    · intro thread
      rfl

end Steps

/-! ## The law -/

section Law

variable [DecidableEq Thread] {ourPid : Pid} {maxMessageQueueSize : Nat}
  {config : ReceiverConfig Thread}

/-- The thread waits for an event, is about to, or was told to stop. -/
def Waits (config : ReceiverConfig Thread) (thread : Thread) : Prop :=
  (∃ call next, config.activity thread = .running call (.step .dispatchBlock next)) ∨
    (config.activity thread = .idle ∧ (config.object thread).reached ≠ .process)

structure ReceiveQueueLaw (maxMessageQueueSize : Nat) (config : ReceiverConfig Thread) : Prop where
  bounded : config.memory.messageQueue.length ≤ maxMessageQueueSize
  single : ∀ one two, (duties config one).Owns → (duties config two).Owns → one = two
  owned : config.memory.messageQueueOwned = true ↔ ∃ thread, (duties config thread).Owns
  /-- What was put into the queue was processed in that order up to what is in it. -/
  settled : (∀ thread message, duties config thread ≠ .holding message) →
    config.memory.processed ++ config.memory.messageQueue = config.memory.enqueued
  /-- In between there is the message that the owner has taken. -/
  holding : ∀ thread message, duties config thread = .holding message →
    config.memory.processed ++ message :: config.memory.messageQueue = config.memory.enqueued
  /-- Only an owner takes messages and processes them. -/
  popping : ∀ thread call next, config.activity thread = .running call (.step .popFront next) →
      duties config thread = .owner
  processing : ∀ thread call message next,
    config.activity thread = .running call (.step (.process message) next) →
      duties config thread = .holding message
  notStuck : config.memory.messageQueue ≠ [] → ∃ thread, ¬ Waits config thread

/-- However threads receive, process and stop, messages are processed one by one in
the order in which they were put into the queue, by one thread at a time, and while
there is a message some thread is not waiting. -/
theorem receiveQueue_of_reached
    {permitted : ReceiverConfig Thread → ReceiverEvent Thread → Prop}
    (quiet : QuietErrors dispatchHandler)
    (reached : Reaches (receiverSystem Thread ourPid dispatchHandler) permitted
      (receiverStart maxMessageQueueSize) config) :
    ReceiveQueueLaw maxMessageQueueSize config := by
  have initially : ReceiverInv maxMessageQueueSize
      (receiverStart maxMessageQueueSize : ReceiverConfig Thread) :=
    ⟨rfl, .initially maxMessageQueueSize, fun _ _ => rfl⟩
  have kept : (receiverContract Thread ourPid dispatchHandler maxMessageQueueSize).Holds config :=
    Contract.run (receiver_obligations quiet) initially (fun _ => rfl) reached
  have queue := kept.inv.queue
  exact
    { bounded := by
        rw [← kept.inv.capacity]
        exact queue.bounded
      single := queue.single
      owned := queue.owned
      settled := queue.settled
      holding := queue.holding
      popping := by
        intro thread call next running
        exact (kept.running thread call _ running).1
      processing := by
        intro thread call message next running
        exact (kept.running thread call _ running).1
      notStuck := by
        intro waiting
        rcases queue.awake waiting with ⟨thread, busy⟩
        use thread
        rintro (⟨call, next, running⟩ | ⟨idle, notProcessing⟩)
        · exact busy (kept.running thread call _ running).1
        · have rested := kept.inv.rested thread idle
          rw [ReceiverThread.Rested, if_neg notProcessing] at rested
          exact busy rested }

end Law

section Inputs

/-- A framework that calls back for messages; other events are not valid. -/
def dispatchMessages : TransportEvent → Dispatched
  | .write write => ⟨some (.ioWrite write), true⟩
  | .privateMessage theirPid => ⟨some (.privateMessageHandler theirPid), true⟩
  | .other => ⟨none, false⟩

theorem quietErrors_dispatchMessages : QuietErrors dispatchMessages := by
  intro event failed
  cases event with
  | other => rfl
  | _ => cases failed

instance (thread : Fin 2) (party : ReceiverThread) (call : ReceiverCall) :
    Decidable ((receiverSystem (Fin 2) 7 dispatchMessages).mayCall thread party call) :=
  match call with
  | .receiveNext => inferInstanceAs (Decidable (party.reached = .again))
  | .processNext => inferInstanceAs (Decidable (party.reached = .process))

instance (before after : ReceiverState) :
    Decidable ((receiverSystem (Fin 2) 7 dispatchMessages).environment before after) :=
  decidable_of_iff (after = { before with transport := after.transport }) <| by
    constructor
    · intro same
      exact ⟨after.transport, same⟩
    · rintro ⟨transport, same⟩
      rw [same]

def shortWrite (payload : BitVec 64) : TransportEvent := .write
    { verifyError := none
      plainWrite := true
      complete := true
      theirPid := 9
      delivered := true
      written := .short ⟨1, 9, payload⟩ }

def twoWritten : ReceiverState :=
  { ReceiverState.initial 3 with transport := [shortWrite 5, .other, shortWrite 6] }

/-- After an event that is not valid the second message comes in while the first thread owns
the queue. -/
def handedOver : List (Choice (Fin 2) ReceiverState ReceiverCall) := [.environment twoWritten,
    .call 0 .receiveNext, .perform 0 1, .perform 0 0, .perform 0 0, .finish 0,
    .call 1 .receiveNext, .perform 1 1, .finish 1,
    .call 1 .receiveNext, .perform 1 1, .perform 1 0, .perform 1 0, .finish 1,
    .call 0 .processNext, .perform 0 0, .perform 0 0, .finish 0, .call 0 .processNext, .perform 0 0]

/-- The law in that run, which ends with the second message in the hands of the first
thread. -/
theorem receiveQueue_of_handedOver : ∃ config : ReceiverConfig (Fin 2),
      Reaches (receiverSystem (Fin 2) 7 dispatchMessages) (fun _ _ => True) (receiverStart 3)
        config ∧
        (config.memory.processed = [.inl ⟨1, 9, 5⟩] ∧ duties config 0 = .holding (.inl ⟨1, 9, 6⟩)) ∧
        ReceiveQueueLaw 3 config := by
  have played : ∃ config : ReceiverConfig (Fin 2),
      Reaches (receiverSystem (Fin 2) 7 dispatchMessages) (fun _ _ => True) (receiverStart 3)
        config ∧
        (config.memory.processed = [.inl ⟨1, 9, 5⟩] ∧
          duties config 0 = .holding (.inl ⟨1, 9, 6⟩)) :=
    exists_reached _ (fun _ _ => True) (receiverStart 3) handedOver _ (by decide +kernel)
  rcases played with ⟨config, reached, inHand⟩
  exact ⟨config, reached, inHand, receiveQueue_of_reached quietErrors_dispatchMessages reached⟩

end Inputs
end MwCom.MessagePassing
