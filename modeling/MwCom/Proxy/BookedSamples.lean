/-
Module: MwCom.Proxy.BookedSamples
Purpose: How many slots a subscription holds at once: never more than it booked,
  as long as nobody takes a guard whose slot is still being given back.
Trusted boundary: none
Main exports: SubscribedWith, BooksReturned, BookedLaw, bookedLaw_of_reached,
  bookedLaw_violated
-/
import MwCom.Interleaving.Total
import MwCom.Proxy.RollbackPrecondition

namespace MwCom

open Interleaving Lola

variable {slots : Nat} {LogIndex Worker : Type}

instance [Fintype Worker] : Fintype (ProxyThread Worker) := Fintype.ofEquiv (Option Worker)
    { toFun := fun
        | none => .user
        | some index => .worker index
      invFun := fun
        | .user => none
        | .worker index => some index
      left_inv := fun index => by cases index <;> rfl
      right_inv := fun thread => by cases thread <;> rfl }

/-- The entries of the log a thread answers for. -/
def ProxyParty.held (party : ProxyParty slots LogIndex) : List (SamplePtr slots LogIndex) :=
  party.opening.toList ++ party.ending.toList ++ party.recorded

/-- The slots a thread holds, and those it may still collect. -/
def ProxyParty.share (party : ProxyParty slots LogIndex) : Nat := party.held.length + party.budget

/-- A thread that took some guards. -/
def ProxyParty.allocating (party : ProxyParty slots LogIndex) (count : Nat) :
    ProxyParty slots LogIndex :=
  { party with guards := party.guards + count, budget := party.budget + count }

theorem ProxyParty.share_allocating (party : ProxyParty slots LogIndex)
    (count : Nat) : (party.allocating count).share = party.share + count :=
  (Nat.add_assoc _ _ _).symm

/-- What the threads hold is paid for with guards. -/
structure Booked [Fintype Worker] (maxSampleCount : Nat)
    (config : ProxyConfig slots LogIndex Worker) : Prop where
  covered : Covered config
  guarded : config.memory.availableSamples +
    total ProxyParty.guards config.object + config.memory.samples.length = maxSampleCount
  paid : ∀ thread, (config.object thread).share ≤
    (config.object thread).guards + (config.object thread).released
  bounded : total ProxyParty.share config.object + config.memory.samples.length ≤ maxSampleCount

/-! ## One operation -/

/-- What one operation moves between a thread, the tracker and the user. -/
structure Traded (party after : ProxyParty slots LogIndex)
    (memory later : ProxyMemory slots LogIndex) : Prop where
  guarded : later.availableSamples + after.guards + later.samples.length =
    memory.availableSamples + party.guards + memory.samples.length
  paid : party.share ≤ party.guards + party.released → after.share ≤ after.guards + after.released
  bounded : after.share + later.samples.length ≤ party.share + memory.samples.length

section Operations

variable [DecidableEq LogIndex] {view : ProxyView slots LogIndex}
  {party : ProxyParty slots LogIndex} {memory later : ProxyMemory slots LogIndex}

omit [DecidableEq LogIndex] in
/-- An operation that moves neither guard nor slot. -/
theorem Traded.same {after : ProxyParty slots LogIndex}
    (guards : after.guards = party.guards) (share : after.share = party.share)
    (released : after.released = party.released)
    (available : later.availableSamples = memory.availableSamples)
    (samples : later.samples = memory.samples) :
    Traded party after memory later := by
  refine ⟨?_, ?_, ?_⟩
  · rw [guards, available, samples]
  · intro paid
    rw [guards, share, released]
    exact paid
  · rw [share, samples]

/-- Writing a flag of a slot. -/
theorem traded_of_flag {sample : SamplePtr slots LogIndex} {flag : LogFlag}
    {value : Bool} (may : view.MayFlag sample flag value)
    (available : later.availableSamples = memory.availableSamples)
    (samples : later.samples = memory.samples) :
    Traded view.object (view.object.observeFlag sample flag value) memory
      later := by
  have guards : (view.object.observeFlag sample flag value).guards = view.object.guards := by
    cases flag with
    | transactionBegin =>
        cases value with
        | true => rfl
        | false =>
            rw [ProxyParty.observeFlag]
            split
            · rfl
            · rfl
    | transactionEnd => cases value <;> rfl
  have moves : ((view.object.observeFlag sample flag value).share = view.object.share ∧
      (view.object.observeFlag sample flag value).released = view.object.released) ∨
      ((view.object.observeFlag sample flag value).share + 1 = view.object.share ∧
        (view.object.observeFlag sample flag value).released = view.object.released - 1) := by
    cases flag with
    | transactionBegin =>
        cases value with
        | true =>
            obtain ⟨_, _, _, closed, budget⟩ := may
            refine .inl ⟨?_, rfl⟩
            simp only [ProxyParty.observeFlag, ProxyParty.share,
              ProxyParty.held, closed, Option.toList_none, Option.toList_some,
              List.length_append, List.length_singleton, List.length_nil]
            omega
        | false =>
            rw [ProxyParty.observeFlag]
            split
            · rename_i opened
              refine .inl ⟨?_, rfl⟩
              simp only [ProxyParty.share, ProxyParty.held, opened,
                Option.toList_none, Option.toList_some, List.length_append,
                List.length_singleton, List.length_nil]
              omega
            · rename_i opened
              rcases may with impossible | ⟨_, ended, recorded⟩
              · exact absurd impossible opened
              · have shorter := List.length_erase_of_mem recorded
                have some := List.length_pos_of_mem recorded
                refine .inl ⟨?_, rfl⟩
                simp only [ProxyParty.share, ProxyParty.held, ended,
                  Option.toList_none, Option.toList_some, List.length_append,
                  List.length_singleton, List.length_nil, shorter]
                omega
    | transactionEnd =>
        cases value with
        | true =>
            have opened : view.object.opening = some sample := may
            refine .inl ⟨?_, rfl⟩
            simp only [ProxyParty.observeFlag, ProxyParty.share,
              ProxyParty.held, opened, Option.toList_none, Option.toList_some,
              List.length_append, List.length_nil, List.length_cons]
            omega
        | false =>
            have ended : view.object.ending = some sample := may
            refine .inr ⟨?_, rfl⟩
            simp only [ProxyParty.observeFlag, ProxyParty.share,
              ProxyParty.held, ended, Option.toList_none, Option.toList_some,
              List.length_append, List.length_singleton, List.length_nil]
            omega
  refine ⟨?_, ?_, ?_⟩
  · rw [guards, available, samples]
  · intro paid
    rw [guards]
    omega
  · rw [samples]
    omega

/-- Every operation but those of an allocation. -/
theorem traded_of_perform {user ampChecked : Bool} {op : ProxyOp slots LogIndex} {answer : op.Ret}
    (may : (proxyRules user false).may view op)
    (outcome : (answer, later) ∈ op.outcomes ampChecked memory) (noAllocation : ∀ expected desired,
      op ≠ .compareExchangeAvailable expected desired) :
    Traded view.object (view.object.observe op answer) memory later := by
  cases op with
  | control op =>
      obtain ⟨⟨reply, control⟩, inside, same⟩ := List.mem_map.mp outcome
      cases same
      cases op with
      | setFlag log entry flag value =>
          cases entry with
          | slot slot => exact traded_of_flag may rfl rfl
          | subscribe => exact .same rfl rfl rfl rfl rfl
      | isActive log =>
          cases reply with
          | true => exact .same rfl rfl rfl rfl rfl
          | false =>
              simp only [ProxyParty.observe]
              split
              · exact .same rfl rfl rfl rfl rfl
              · exact .same rfl rfl rfl rfl rfl
      | _ => exact .same rfl rfl rfl rfl rfl
  | lock =>
      simp only [ProxyOp.outcomes] at outcome
      split at outcome
      · cases outcome
      · cases List.mem_singleton.mp outcome
        exact .same rfl rfl rfl rfl rfl
  | compareExchangeAvailable expected desired =>
      exact absurd rfl (noAllocation expected desired)
  | fetchAddAvailable count =>
      have held : count ≤ view.object.guards := may
      cases List.mem_singleton.mp outcome
      simp only [ProxyParty.observe]
      split
      · constructor
        · dsimp only
          omega
        · simp only [ProxyParty.share, ProxyParty.held]
          omega
        · simp only [ProxyParty.share, ProxyParty.held]
          omega
      · constructor
        · dsimp only
          omega
        · simp only [ProxyParty.share, ProxyParty.held]
          omega
        · exact Nat.le_refl _
  | handOver sample =>
      obtain ⟨recorded, guards⟩ := may
      cases List.mem_singleton.mp outcome
      have shorter := List.length_erase_of_mem recorded
      have some := List.length_pos_of_mem recorded
      constructor
      · simp only [ProxyParty.observe, List.length_cons]
        omega
      · simp only [ProxyParty.observe, ProxyParty.share, ProxyParty.held,
          List.length_append, shorter]
        omega
      · simp only [ProxyParty.observe, ProxyParty.share, ProxyParty.held,
          List.length_append, List.length_cons, shorter]
        omega
  | giveUp sample =>
      simp only [ProxyOp.outcomes] at outcome
      split at outcome
      · rename_i pooled
        cases List.mem_singleton.mp outcome
        have shorter := List.length_erase_of_mem pooled
        have some := List.length_pos_of_mem pooled
        constructor
        · simp only [ProxyParty.observe, shorter]
          omega
        · simp only [ProxyParty.observe, ProxyParty.share, ProxyParty.held,
            List.length_append, List.length_cons]
          omega
        · simp only [ProxyParty.observe, ProxyParty.share, ProxyParty.held,
            List.length_append, List.length_cons, shorter]
          omega
      · cases outcome
  | storeAvailable count => cases may
  | storeMaxNumSamples count => cases may
  | _ =>
      cases List.mem_singleton.mp outcome
      exact .same rfl rfl rfl rfl rfl

end Operations

/-! ## The subscription -/

/-- A process right after its proxy event was subscribed. -/
structure SubscribedWith (maxSampleCount : Nat)
    (config : ProxyConfig slots LogIndex Worker) : Prop where
  idle : ∀ thread, config.activity thread = .idle
  resting : ∀ thread, (config.object thread).AtRest
  state : (config.object .user).machine.currentState = .subscribedState
  fits : Matches (config.object .user).machine (proxyView config .user)
  available : config.memory.availableSamples = maxSampleCount
  noSamples : config.memory.samples = []
  unrecorded : ∀ log slot, config.memory.registered = some log →
    (config.memory.control.log log).referenceCountSlots slot = .empty
  active : ∀ log, config.memory.registered = some log →
    (config.memory.control.transactionLogs log).isActive = true
  inactive : ∀ log, (config.memory.control.transactionLogs log).isActive = false →
    (config.memory.control.log log).Untouched

/-- While subscribed, samples are collected and destroyed. -/
def UsesSamples : ProxySystemEvent slots LogIndex Worker → Prop
  | .call _ (.subscribe _) => False
  | .call _ .unsubscribe => False
  | _ => True

/-- No guard is allocated while a thread has given one back and not yet the
slot that goes with it. -/
def BooksReturned (config : ProxyConfig slots LogIndex Worker) :
    ProxySystemEvent slots LogIndex Worker → Prop
  | .call _ (.subscribe _) => False
  | .call _ .unsubscribe => False
  | .perform _ (.compareExchangeAvailable _ _) (true, _) =>
      ∀ thread, (config.object thread).released = 0
  | _ => True

/-- At most as many slots are recorded as were booked. -/
def BookedLaw (maxSampleCount : Nat)
    (config : ProxyConfig slots LogIndex Worker) : Prop :=
  ∀ log, config.memory.registered = some log → (Finset.univ.filter fun slot =>
      (config.memory.control.log log).referenceCountSlots slot ≠ .empty).card ≤ maxSampleCount

section Law

variable {config : ProxyConfig slots LogIndex Worker}
  {maxSampleCount : Nat}

theorem Covered.of_subscribedWith
    (subscribed : SubscribedWith maxSampleCount config) : Covered config := by
  have unclaimed : ∀ flag sample, ¬ Claimed config.memory.samples config.object flag sample := by
    intro flag sample claimed
    rcases claimed with pooled | ⟨thread, held⟩
    · rw [subscribed.noSamples] at pooled
      cases pooled
    · have rest := subscribed.resting thread
      cases flag <;>
        simp [ProxyParty.claims, rest.closed, rest.nothing, rest.ended] at held
  constructor
  · intro log slot flag registered set
    rw [subscribed.unrecorded log slot registered] at set
    cases flag <;> cases set
  · intro flag sample claimed
    exact absurd claimed (unclaimed flag sample)
  · intro _ flag sample
    exact unclaimed flag sample
  · intro noFlags
    cases subscribed.fits with
    | notSubscribed state _ _ =>
        rw [subscribed.state] at state
        cases state
    | subscribed _ _ _ _ _ _ flags =>
        have recorded : subscriptionFlags config.memory = .recorded := flags
        rw [noFlags] at recorded
        cases recorded
  · exact subscribed.active
  · exact subscribed.inactive
  · intro log isFound
    rw [(subscribed.resting .user).notFound] at isFound
    cases isFound
  · intro isLocked
    rw [(subscribed.resting .user).unlocked] at isLocked
    cases isLocked
  · intro thread _
    exact subscribed.resting thread
  · intro _
    exact subscribed.fits

variable [Fintype Worker]

theorem Booked.of_subscribedWith (subscribed : SubscribedWith maxSampleCount config) :
    Booked maxSampleCount config := by
  have noShare : ∀ thread, (config.object thread).share = 0 := by
    intro thread
    have rest := subscribed.resting thread
    simp [ProxyParty.share, ProxyParty.held, rest.closed, rest.nothing, rest.ended, rest.noBudget]
  refine ⟨.of_subscribedWith subscribed, ?_, ?_, ?_⟩
  · rw [total_eq_zero fun thread => (subscribed.resting thread).noGuards,
      subscribed.available, subscribed.noSamples]
    rfl
  · intro thread
    rw [noShare]
    exact Nat.zero_le _
  · rw [total_eq_zero noShare, subscribed.noSamples]
    exact Nat.zero_le _

/-- What is paid for is not more than what was booked. -/
theorem Booked.law (booked : Booked maxSampleCount config) : BookedLaw maxSampleCount config := by
  intro log registered
  have claimed : ∀ slot, (config.memory.control.log log).referenceCountSlots slot ≠ .empty →
        ∃ flag, Claimed config.memory.samples config.object flag
          { slotIndex := slot, transactionLogIdx := log } := by
    intro slot nonempty
    cases entry : (config.memory.control.log log).referenceCountSlots slot with
    | mk one two =>
        cases one with
        | true =>
            refine ⟨.transactionBegin, booked.covered.recorded log slot _ registered ?_⟩
            rw [entry]
            rfl
        | false =>
            cases two with
            | true =>
                refine ⟨.transactionEnd, booked.covered.recorded log slot _ registered ?_⟩
                rw [entry]
                rfl
            | false => exact absurd entry nonempty
  have few := card_le_of_covered
    (Finset.univ.filter fun slot =>
      (config.memory.control.log log).referenceCountSlots slot ≠ .empty)
    (config.memory.samples.map SamplePtr.slotIndex)
    (fun party : ProxyParty slots LogIndex => party.held.map SamplePtr.slotIndex) (by
      intro slot recorded
      obtain ⟨flag, pooled | ⟨thread, held⟩⟩ := claimed slot (Finset.mem_filter.mp recorded).2
      · exact .inl (List.mem_map.mpr ⟨⟨slot, log⟩, pooled, rfl⟩)
      · refine .inr ⟨thread, List.mem_map.mpr ⟨⟨slot, log⟩, ?_, rfl⟩⟩
        cases flag <;>
          simp only [ProxyParty.claims, ProxyParty.held, List.mem_append] at *
        · tauto
        · tauto)
  have shares : total (fun party : ProxyParty slots LogIndex =>
      (party.held.map SamplePtr.slotIndex).length) config.object ≤
        total ProxyParty.share config.object := by
    apply total_le_total
    intro thread
    rw [List.length_map]
    exact Nat.le_add_right _ _
  have bounded := booked.bounded
  rw [List.length_map] at few
  omega

variable [DecidableEq Worker] {thread : ProxyThread Worker}
  {object : ProxyParty slots LogIndex} {memory : ProxyMemory slots LogIndex}
  {activity : Activity (ProxyOp slots LogIndex) ProxyOp.Ret
    (ProxyCall slots LogIndex) (ProxyReply LogIndex)}

/-- A step of one thread that takes no new guard. -/
theorem Booked.trade (booked : Booked maxSampleCount config)
    (covered : Covered (config.update memory thread object activity))
    (traded : Traded (config.object thread) object config.memory memory) :
    Booked maxSampleCount (config.update memory thread object activity) := by
  have guards := total_update ProxyParty.guards config.object thread object
  have shares := total_update ProxyParty.share config.object thread object
  have guarded := booked.guarded
  have bounded := booked.bounded
  have tradedGuards := traded.guarded
  have tradedShares := traded.bounded
  refine ⟨covered, ?_, ?_, ?_⟩
  · rw [Config.update_memory, Config.update_object]
    omega
  · intro other
    by_cases same : other = thread
    · subst same
      rw [Config.update_object_self]
      exact traded.paid (booked.paid other)
    · rw [Config.update_object_of_ne same]
      exact booked.paid other
  · rw [Config.update_memory, Config.update_object]
    omega

/-- An allocation, where nobody still gives a slot back. -/
theorem Booked.allocate (booked : Booked maxSampleCount config) {expected desired : Nat}
    (returned : ∀ other, (config.object other).released = 0) (enough : desired ≤ expected)
    (found : config.memory.availableSamples = expected) (covered : Covered (config.update
      { config.memory with availableSamples := desired } thread
      ((config.object thread).allocating (expected - desired)) activity)) :
    Booked maxSampleCount (config.update { config.memory with availableSamples := desired } thread
      ((config.object thread).allocating (expected - desired)) activity) := by
  have guards := total_update ProxyParty.guards config.object thread
    ((config.object thread).allocating (expected - desired))
  have shares := total_update ProxyParty.share config.object thread
    ((config.object thread).allocating (expected - desired))
  have taken : ((config.object thread).allocating (expected - desired)).guards =
      (config.object thread).guards + (expected - desired) := rfl
  have share := (config.object thread).share_allocating (expected - desired)
  have guarded := booked.guarded
  -- all guards that were given back are those of slots that were given back
  have paid : total ProxyParty.share config.object ≤ total ProxyParty.guards config.object := by
    apply total_le_total
    intro other
    have paidHere := booked.paid other
    rw [returned other] at paidHere
    exact paidHere
  refine ⟨covered, ?_, ?_, ?_⟩
  · rw [Config.update_memory, Config.update_object]
    dsimp only
    omega
  · intro other
    by_cases same : other = thread
    · subst same
      rw [Config.update_object_self, share, taken]
      have paidHere := booked.paid other
      have released : ((config.object other).allocating
          (expected - desired)).released = (config.object other).released := rfl
      omega
    · rw [Config.update_object_of_ne same]
      exact booked.paid other
  · rw [Config.update_memory, Config.update_object]
    dsimp only
    omega

variable [DecidableEq LogIndex] {ampChecked : Bool}
  {limits : EventSubscriptionControl} {transactionLogs : List LogIndex}

/-- Every operation of a thread that keeps its rules. -/
theorem Booked.perform (booked : Booked maxSampleCount config)
    {op : ProxyOp slots LogIndex} {answer : op.Ret}
    (permitted : BooksReturned config (.perform thread op answer))
    (may : (proxyRules thread.isUser false).may (proxyView config thread) op)
    (outcome : (answer, memory) ∈ op.outcomes ampChecked config.memory)
    (moved : object = (config.object thread).observe op answer)
    (covered : Covered (config.update memory thread object activity)) :
    Booked maxSampleCount (config.update memory thread object activity) := by
  subst moved
  cases op with
  | compareExchangeAvailable expected desired =>
      rcases answer with ⟨won, value⟩
      rcases ProxyOp.compareExchangeAvailable_outcome outcome with
        ⟨rfl, found, rfl⟩ | ⟨rfl, rfl⟩
      · exact booked.allocate permitted may found covered
      · exact booked.trade covered (.same rfl rfl rfl rfl rfl)
  | _ =>
      refine booked.trade covered (traded_of_perform may outcome ?_)
      intro expected desired impossible
      cases impossible

/-- The invariant with the rules of the threads, of which none resets the
tracker. -/
def bookedContract (maxSampleCount : Nat)
    (system : System (ProxyThread Worker) (ProxyOp slots LogIndex) ProxyOp.Ret
      (ProxyMemory slots LogIndex) (ProxyParty slots LogIndex)
      (ProxyCall slots LogIndex) (ProxyReply LogIndex)) :
    Contract system (ProxyView slots LogIndex) where
  Inv := Booked maxSampleCount
  view := proxyView
  rules thread := proxyRules thread.isUser false
  post thread _ := threadPost thread

theorem bookedContract_obligations :
    (bookedContract maxSampleCount (proxySystem slots Worker ampChecked limits
      transactionLogs)).Obligations BooksReturned where
  call := by
    intro config thread call booked permitted idle allowed after started
    subst started
    have unclaimed : call = .unsubscribe → ∀ flag sample,
        ¬ Claimed config.memory.samples config.object flag sample := by
      intro unsubscribes
      subst unsubscribes
      exact permitted.elim
    have resets : ∀ maxSampleCount, call = .subscribe maxSampleCount → false = true := by
      intro maxSampleCount subscribes
      subst subscribes
      exact permitted.elim
    obtain ⟨next, moved, respects⟩ := booked.covered.calling idle allowed unclaimed
      resets limits transactionLogs
    rw [← moved.view] at respects
    refine ⟨booked.trade moved.covered ?_, moved.unseen, respects⟩
    cases call with
    | getNewSamples passes maxNumSamples =>
        change Traded (config.object thread)
          ((config.object thread).calling (.getNewSamples passes maxNumSamples))
          config.memory config.memory
        simp only [ProxyParty.calling]
        split
        · exact .same rfl rfl rfl rfl rfl
        · exact .same rfl rfl rfl rfl rfl
    | _ => exact .same rfl rfl rfl rfl rfl
  perform := by
    intro config thread call op next answer memory booked permitted _ may outcome after performed
    subst performed
    have moved : Moved config (config.update memory thread _ (.running call (next answer)))
        thread _ := booked.covered.perform may outcome rfl
    exact ⟨booked.perform permitted may outcome rfl moved.covered, moved.unseen,
      trivial, moved.view⟩
  finish := by
    intro config thread call reply booked _ _ post after finished
    obtain ⟨covered, unseen⟩ := booked.covered.finish post finished
    subst finished
    exact ⟨booked.trade covered (.same rfl rfl rfl rfl rfl), unseen⟩
  crash := by
    intro config thread object _ _ killed
    cases killed
  environment := by
    intro config memory booked _ moved after environment
    subst environment
    obtain ⟨covered, unseen⟩ := booked.covered.environment moved
    have process := moved.process
    refine ⟨⟨covered, ?_, booked.paid, ?_⟩, unseen⟩
    · dsimp only
      rw [process]
      exact booked.guarded
    · dsimp only
      rw [process]
      exact booked.bounded

/-- As long as no guard is taken while the slot of a returned one is still being
given back, never more slots are recorded than were booked. -/
theorem bookedLaw_of_reached {start : ProxyConfig slots LogIndex Worker}
    (subscribed : SubscribedWith maxSampleCount start)
    (reached : Reaches (proxySystem slots Worker ampChecked limits transactionLogs) BooksReturned
      start config) : BookedLaw maxSampleCount config :=
  ((bookedContract maxSampleCount _).run bookedContract_obligations
    (.of_subscribedWith subscribed) subscribed.idle reached).inv.law

end Law

/-! ## A guard that returns before its slot -/

instance (event : ProxySystemEvent slots LogIndex Worker) : Decidable (UsesSamples event) := by
  unfold UsesSamples
  split <;> infer_instance

instance [Fintype Worker] (config : ProxyConfig slots LogIndex Worker)
    (event : ProxySystemEvent slots LogIndex Worker) :
    Decidable (BooksReturned config event) := by
  unfold BooksReturned
  split <;> infer_instance

/-- The shared memory of an event with two slots and one subscription that
booked one of them. -/
def twoSlots (stateSlots : Fin 2 → StatusWord)
    (referenceCountSlots : Fin 2 → TransactionLogSlot) :
    EventControl 2 (Fin 1) where
  stateSlots
  transactionLogs := fun _ =>
    { isActive := true
      needsRollback := false
      transactionLog :=
        { referenceCountSlots
          subscribeTransactions := .recorded
          subscriptionMaxSampleCount := some 1 } }
  currentSubscriptionState := EventSubscriptionControl.createState 1 1

/-- The state machine of that subscription. -/
def bookedOne : SubscriptionStateMachine (Fin 1) where
  currentState := .subscribedState
  providerServiceInstanceIsAvailable := true
  maxSampleCount := some 1
  slotCollector := some { lastTs := 0, maxSlots := 1, transactionLogIndex := 0 }
  transactionLogRegistrationGuard := some 0

/-- The process of that subscription, with one sample sent. -/
def subscribedOne : ProxyConfig 2 (Fin 1) (Fin 1) where
  memory :=
    { control := twoSlots
        ![EventSlotStatus.invalid, (EventSlotStatus.ofTimeStamp 2 0).data]
        fun _ => .empty
      transactionLogMutex := false
      registered := some 0
      availableSamples := 1
      maxNumSamples := 1
      samples := [] }
  object := fun _ => { ProxyParty.new with machine := bookedOne }
  activity := fun _ => .idle

theorem subscribedWith_subscribedOne : SubscribedWith 1 subscribedOne where
  idle := fun _ => rfl
  resting := fun _ => ⟨rfl, rfl, rfl, rfl, rfl, rfl, rfl, rfl⟩
  state := rfl
  fits := by
    refine .subscribed ?_ rfl rfl rfl rfl rfl rfl
    intro impossible
    cases impossible
  available := rfl
  noSamples := rfl
  unrecorded := fun _ _ _ => rfl
  active := fun _ _ => rfl
  inactive := by
    intro log impossible
    cases impossible

/-- The user takes the sample, and another thread starts to destroy it. -/
def takeAndRelease :
    List (Choice (ProxyThread (Fin 1)) (ProxyMemory 2 (Fin 1)) (ProxyCall 2 (Fin 1))) :=
  List.flatten
    [[.call .user (.getNewSamples 5 1)], List.replicate 20 (.perform .user 0), [.finish .user,
      .call (.worker 0) (.destroy { slotIndex := 1, transactionLogIdx := 0 }),
      .perform (.worker 0) 0, .perform (.worker 0) 0]]

/-- The sender sends another sample. -/
def sendAnother : ProxyMemory 2 (Fin 1) where
  control := twoSlots
    ![(EventSlotStatus.ofTimeStamp 3 0).data, (EventSlotStatus.ofTimeStamp 2 1).data]
    ![.empty, .recorded]
  transactionLogMutex := false
  registered := some 0
  availableSamples := 1
  maxNumSamples := 1
  samples := []

theorem bookedLaw_of_returned : ∃ config : ProxyConfig 2 (Fin 1) (Fin 1),
      (config.memory.control.log 0).referenceCountSlots 1 = .empty ∧
        config.memory.availableSamples = 0 ∧ BookedLaw 1 config := by
  obtain ⟨config, reached, returned, taken⟩ :=
    exists_reached (proxySystem 2 (Fin 1) true oneSlot [0]) BooksReturned
      subscribedOne
      (takeAndRelease ++ .replicate 16 (.perform (.worker 0) 0) ++
        [.call .user (.getNewSamples 5 1), .perform .user 0, .perform .user 0])
      (fun config =>
        (config.memory.control.log 0).referenceCountSlots 1 = .empty ∧
          config.memory.availableSamples = 0)
      (by decide +kernel)
  exact ⟨config, returned, taken, bookedLaw_of_reached subscribedWith_subscribedOne reached⟩

/-- The user takes the other sample with the guard of the first, whose slot is
still recorded. -/
theorem bookedLaw_violated : ¬ ∀ config : ProxyConfig 2 (Fin 1) (Fin 1),
      Reaches (proxySystem 2 (Fin 1) true oneSlot [0])
          (fun _ event => UsesSamples event) subscribedOne config →
        BookedLaw 1 config := by
  intro law
  obtain ⟨config, reached, registered, recorded⟩ :=
    exists_reached (proxySystem 2 (Fin 1) true oneSlot [0])
      (fun _ event => UsesSamples event) subscribedOne
      (takeAndRelease ++ [.environment sendAnother, .call .user (.getNewSamples 5 1)] ++
        .replicate 20 (.perform .user 0))
      (fun config => config.memory.registered = some 0 ∧
        ∀ slot, (config.memory.control.log 0).referenceCountSlots slot = .recorded)
      (by decide +kernel)
  have few := law config reached 0 registered
  simp [recorded, TransactionLogSlot.recorded, TransactionLogSlot.empty] at few

end MwCom
