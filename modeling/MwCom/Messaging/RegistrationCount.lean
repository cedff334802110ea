/-
Module: MwCom.Messaging.RegistrationCount
Purpose: The counter of the registrations at the node of the provider, and what
  the node is told, while proxy events register and the provider moves.
Trusted boundary: none
Main exports: registeredAt, lastMessage, CountInv, CountLaw, countedInStep,
  countLaw_of_reached
-/
import MwCom.Interleaving.Total
import MwCom.Messaging.HandlerLaw

namespace MwCom.Messaging

open Interleaving
open MwCom.Lola (SubscriptionStateMachineState)

variable {Proxy Handler NodeId : Type} [DecidableEq NodeId]

/-! ## What a node was told last -/

/-- The type of the last message to a node. -/
def lastMessage (node : NodeId) (messages : List (Message NodeId)) : Option MessageType :=
  (messages.filter fun message => message.target = node).getLast?.map (·.type)

theorem lastMessage_append_self (messages : List (Message NodeId))
    (type : MessageType) (target : NodeId) :
    lastMessage target (messages ++ [⟨type, target⟩]) = some type := by
  simp [lastMessage, List.filter_append]

theorem lastMessage_append_other {messages : List (Message NodeId)}
    {type : MessageType} {target node : NodeId} (distinct : node ≠ target) :
    lastMessage node (messages ++ [⟨type, target⟩]) = lastMessage node messages := by
  simp [lastMessage, List.filter_append, Ne.symm distinct]

namespace NotifyMemory

variable (memory : NotifyMemory Handler NodeId)

omit [DecidableEq NodeId] in
theorem inFlight_tellIf (told : Bool) (type : MessageType) (target : NodeId) :
    (memory.tellIf told type target).inFlight =
      if told then memory.inFlight ++ [⟨type, target⟩] else memory.inFlight := by
  cases told <;> rfl

end NotifyMemory

/-! ## A handler is registered again -/

section Reregister

variable {remote : Option (NodeCounter NodeId)} {targetNodeId : NodeId}

/-- A re-registration counts for its node alone, and is told if it is the first
there; without an entry nothing happens. -/
theorem reregisterRemote_spec (positive : Positive remote) (isSome : remote ≠ none)
    (fits : counterOf targetNodeId remote ≠ 2 ^ 16 - 1) :
    counterOf targetNodeId (reregisterRemote targetNodeId remote).2 =
        counterOf targetNodeId remote + 1 ∧
      ((reregisterRemote targetNodeId remote).1 = true ↔ counterOf targetNodeId remote = 0) ∧
      (∀ other, other ≠ targetNodeId →
        counterOf other (reregisterRemote targetNodeId remote).2 = 0) ∧
      Positive (reregisterRemote targetNodeId remote).2 := by
  cases remote with
  | none => exact absurd rfl isSome
  | some entry =>
      by_cases here : entry.nodeId = targetNodeId
      · have counted := positive entry rfl
        simp only [counterOf, here, if_true] at fits
        have next := toNat_counter_add_one fits
        simp only [reregisterRemote, counterOf, here, if_true]
        refine ⟨next, ?_, ?_, ?_⟩
        · constructor
          · intro impossible
            cases impossible
          · intro isZero
            omega
        · intro other distinct
          simp [Ne.symm distinct]
        · intro count same
          cases same
          change 0 < (entry.counter + 1).toNat
          omega
      · simp only [reregisterRemote, counterOf, here, if_false, if_true]
        refine ⟨rfl, by simp, ?_, ?_⟩
        · intro other distinct
          simp [Ne.symm distinct]
        · intro count same
          cases same
          exact Nat.one_pos

end Reregister

/-! ## The counter and the registrations -/

/-- Counter and messages agree with how many are `registered` at each node. -/
structure CountInv (nodeIdentifier : NodeId) (provider : NodeId)
    (messaging : NotifyMemory Handler NodeId) (registered : NodeId → Nat) : Prop where
  positive : Positive messaging.remote
  counted : provider ≠ nodeIdentifier → counterOf provider messaging.remote = registered provider
  covers : ∀ node, node ≠ nodeIdentifier → 0 < counterOf node messaging.remote →
    registered node ≤ counterOf node messaging.remote
  told : ∀ node, node ≠ nodeIdentifier → 0 < registered node ∨ 0 < counterOf node messaging.remote →
      lastMessage node messaging.inFlight = some .registerEventNotifier

namespace CountInv

variable {nodeIdentifier provider target : NodeId}
  {messaging after : NotifyMemory Handler NodeId} {registered moved : NodeId → Nat}
  {told : Bool}

/-- Nothing is counted and nothing is told. -/
theorem quiet (inv : CountInv nodeIdentifier provider messaging registered)
    (positive : Positive after.remote) (sameCounter : ∀ node, counterOf node after.remote =
      counterOf node messaging.remote)
    (sameMessages : after.inFlight = messaging.inFlight)
    (fewer : ∀ node, node ≠ nodeIdentifier → moved node ≤ registered node)
    (sameProvider : provider ≠ nodeIdentifier → moved provider = registered provider) :
    CountInv nodeIdentifier provider after moved where
  positive := positive
  counted := by
    intro isRemote
    rw [sameCounter, sameProvider isRemote]
    exact inv.counted isRemote
  covers := by
    intro node isRemote counted
    rw [sameCounter] at counted ⊢
    exact Nat.le_trans (fewer node isRemote) (inv.covers node isRemote counted)
  told := by
    intro node isRemote some
    rw [sameMessages]
    apply inv.told node isRemote
    rcases some with registeredThere | counted
    · exact .inl (Nat.lt_of_lt_of_le registeredThere (fewer node isRemote))
    · rw [sameCounter] at counted
      exact .inr counted

/-- A registration at `target` more, counted there and told if it is the first. -/
theorem joined (inv : CountInv nodeIdentifier provider messaging registered)
    (isRemote : target ≠ nodeIdentifier)
    (atProvider : provider ≠ nodeIdentifier → target = provider ∨ registered provider = 0)
    (entry : 0 < counterOf target messaging.remote ∨ registered target = 0)
    (positive : Positive after.remote) (counter : counterOf target after.remote =
      counterOf target messaging.remote + 1)
    (isTold : told = true ↔ counterOf target messaging.remote = 0)
    (otherCounters : ∀ other, other ≠ target → counterOf other after.remote = 0)
    (messages : after.inFlight =
      if told then messaging.inFlight ++ [⟨.registerEventNotifier, target⟩]
      else messaging.inFlight)
    (joins : moved target = registered target + 1)
    (others : ∀ node, node ≠ nodeIdentifier → node ≠ target → moved node ≤ registered node)
    (sameProvider : provider ≠ nodeIdentifier → provider ≠ target →
      moved provider = registered provider) :
    CountInv nodeIdentifier provider after moved where
  positive := positive
  counted := by
    intro remoteProvider
    by_cases same : provider = target
    · subst same
      rw [counter, joins, inv.counted remoteProvider]
    · rw [otherCounters provider same, sameProvider remoteProvider same]
      rcases atProvider remoteProvider with equal | nobody
      · exact absurd equal.symm same
      · exact nobody.symm
  covers := by
    intro node remoteNode counted
    by_cases same : node = target
    · subst same
      rw [joins, counter]
      apply Nat.succ_le_succ
      rcases entry with counts | nobody
      · exact inv.covers _ isRemote counts
      · exact nobody ▸ Nat.zero_le _
    · rw [otherCounters node same] at counted
      cases counted
  told := by
    intro node remoteNode some
    rw [messages]
    by_cases same : node = target
    · subst same
      cases isFirst : told with
      | true =>
          rw [if_pos rfl]
          exact lastMessage_append_self _ _ _
      | false =>
          rw [if_neg Bool.false_ne_true]
          apply inv.told node remoteNode
          right
          apply Nat.pos_of_ne_zero
          intro isZero
          rw [isTold.mpr isZero] at isFirst
          cases isFirst
    · have unchanged : lastMessage node
          (if told then messaging.inFlight ++ [⟨.registerEventNotifier, target⟩]
            else messaging.inFlight) = lastMessage node messaging.inFlight := by
        split
        · exact lastMessage_append_other same
        · rfl
      rw [unchanged]
      apply inv.told node remoteNode
      rcases some with registeredThere | counted
      · exact .inl (Nat.lt_of_lt_of_le registeredThere (others node remoteNode same))
      · rw [otherCounters node same] at counted
        cases counted

/-- A registration at `target` less, and the node is told if it was the last. -/
theorem left (inv : CountInv nodeIdentifier provider messaging registered)
    (isRemote : target ≠ nodeIdentifier) (positive : Positive after.remote)
    (counter : counterOf target after.remote = counterOf target messaging.remote - 1)
    (isTold : told = true ↔ counterOf target messaging.remote = 1)
    (otherCounters : ∀ other, other ≠ target →
      counterOf other after.remote = counterOf other messaging.remote)
    (messages : after.inFlight =
      if told then messaging.inFlight ++ [⟨.unregisterEventNotifier, target⟩]
      else messaging.inFlight)
    (leaves : moved target + 1 = registered target)
    (others : ∀ node, node ≠ target → moved node = registered node) :
    CountInv nodeIdentifier provider after moved where
  positive := positive
  counted := by
    intro remoteProvider
    have counted := inv.counted remoteProvider
    by_cases same : provider = target
    · subst same
      omega
    · rw [otherCounters provider same, others provider same]
      exact counted
  covers := by
    intro node remoteNode counted
    by_cases same : node = target
    · subst same
      have before := inv.covers node remoteNode (by omega)
      omega
    · rw [otherCounters node same] at counted ⊢
      rw [others node same]
      exact inv.covers node remoteNode counted
  told := by
    intro node remoteNode some
    rw [messages]
    by_cases same : node = target
    · subst same
      cases isLast : told with
      | true =>
          have one := isTold.mp isLast
          have before := inv.covers node remoteNode (by omega)
          omega
      | false =>
          rw [if_neg Bool.false_ne_true]
          apply inv.told node remoteNode
          omega
    · have unchanged : lastMessage node
          (if told then messaging.inFlight ++ [⟨.unregisterEventNotifier, target⟩]
            else messaging.inFlight) = lastMessage node messaging.inFlight := by
        split
        · exact lastMessage_append_other same
        · rfl
      rw [unchanged]
      apply inv.told node remoteNode
      rw [others node same, otherCounters node same] at some
      exact some

end CountInv

/-! ## Every step -/

section Counting

variable [Fintype Proxy]

/-- A registration counts where it is. -/
def share (node : NodeId) (party : HandlerParty Proxy Handler NodeId) : Nat :=
  if party.towards = some node then 1 else 0

/-- How many proxy events have a handler registered at a node. -/
def registeredAt (config : HandlerConfig Proxy Handler NodeId) (node : NodeId) : Nat :=
  total (share node) fun proxy => config.object (.proxyEvent proxy)

variable [DecidableEq Proxy] {nodeIdentifier : NodeId}
  {config : HandlerConfig Proxy Handler NodeId}
  {memory : MessagingMemory (ProxyHandler Proxy Handler) NodeId}
  {party : HandlerParty Proxy Handler NodeId}
  {activity : Activity (MessagingOp (ProxyHandler Proxy Handler) NodeId)
    MessagingOp.Ret (HandlerCall Handler NodeId)
    (HandlerStates (ProxyHandler Proxy Handler) NodeId)}

variable {proxy : Proxy}

/-- One proxy event moves. -/
theorem registeredAt_update (node : NodeId) :
    registeredAt (config.update memory (.proxyEvent proxy) party activity) node +
        share node (config.object (.proxyEvent proxy)) =
      registeredAt config node + share node party := by
  have injective : Function.Injective (HandlerActor.proxyEvent : Proxy → _) := by
    intro one two same
    cases same
    rfl
  have updated := Function.update_comp_eq_of_injective config.object injective proxy party
  have moved := total_update (share node)
    (fun other => config.object (.proxyEvent other)) proxy party
  rw [registeredAt, registeredAt]
  change total (share node)
    (Function.update config.object (.proxyEvent proxy) party ∘ .proxyEvent) + _ = _
  rw [updated]
  exact moved

/-- A move that leaves the registration of the actor leaves all of them. -/
theorem registeredAt_same {actor : HandlerActor Proxy}
    (same : party.towards = (config.object actor).towards) :
    registeredAt (config.update memory actor party activity) = registeredAt config := by
  funext node
  cases actor with
  | provider =>
      have foreign : ∀ proxy, (config.update memory .provider party activity).object
          (.proxyEvent proxy) = config.object (.proxyEvent proxy) := by
        intro proxy
        apply Config.update_object_of_ne
        intro impossible
        cases impossible
      rw [registeredAt]
      simp only [foreign]
      rfl
  | proxyEvent proxy =>
      have moved := @registeredAt_update _ _ _ _ _ _ config memory party activity proxy node
      rw [share, share, same] at moved
      omega

/-- A registration at `target` can be counted: it is at the provider, or nobody
is registered there; and the entry is that of `target`, or nobody is registered
at it. -/
def Countable (nodeIdentifier target : NodeId)
    (config : HandlerConfig Proxy Handler NodeId) : Prop :=
  (config.memory.provider ≠ nodeIdentifier → target = config.memory.provider ∨
        registeredAt config config.memory.provider = 0) ∧
    (0 < counterOf target config.memory.messaging.remote ∨ registeredAt config target = 0) ∧
    counterOf target config.memory.messaging.remote ≠ 2 ^ 16 - 1

/-- The counter can follow the step. -/
def countedInStep (nodeIdentifier : NodeId)
    (config : HandlerConfig Proxy Handler NodeId) :
    HandlerEvent Proxy Handler NodeId → Prop
  | .perform _ (.registerEventNotification _ target) _ =>
      config.memory.registrations < 2 ^ 32 ∧
        (target ≠ nodeIdentifier → Countable nodeIdentifier target config)
  | .perform actor (.reregisterEventNotification target) _ =>
      (config.memory.provider ≠ nodeIdentifier →
          (config.object actor).towards ≠ some config.memory.provider) ∧
        (target ≠ nodeIdentifier → (config.object actor).towards ≠ some target ∧
            config.memory.messaging.remote.isSome = true ∧ Countable nodeIdentifier target config)
  | .perform actor (.unregisterEventNotification _ target) _ =>
      (config.object actor).towards = some target ∨
        (counterOf target config.memory.messaging.remote = 0 ∧
          (config.memory.provider ≠ nodeIdentifier →
            (config.object actor).towards ≠ some config.memory.provider))
  | .perform _ (.provide node) _ =>
      node ≠ nodeIdentifier → node = config.memory.provider ∨
        (counterOf node config.memory.messaging.remote = 0 ∧ registeredAt config node = 0)
  | .environment => config.memory.registrations < 2 ^ 32
  | _ => True

/-- A registration is counted. -/
theorem count_register {callback : ProxyHandler Proxy Handler} {target : NodeId}
    (inv : CountInv nodeIdentifier config.memory.provider config.memory.messaging
      (registeredAt config))
    (countable : target ≠ nodeIdentifier → Countable nodeIdentifier target config)
    (nowhere : (config.object (.proxyEvent proxy)).towards = none)
    (isTowards : party.towards = some target) :
    CountInv nodeIdentifier config.memory.provider
      (config.memory.messaging.registered nodeIdentifier callback target)
      (registeredAt (config.update memory (.proxyEvent proxy) party activity)) := by
  have moved := fun node => @registeredAt_update _ _ _ _ _ _ config memory party activity proxy node
  simp only [share, nowhere, isTowards, reduceCtorEq, if_false, Option.some.injEq,
    Nat.add_zero] at moved
  rw [NotifyMemory.registered]
  by_cases here : target = nodeIdentifier
  · rw [if_pos here]
    refine inv.quiet inv.positive (fun _ => rfl) rfl ?_ ?_
    · intro node isRemote
      rw [moved, if_neg (by rw [here]; exact Ne.symm isRemote), Nat.add_zero]
    · intro isRemote
      rw [moved, if_neg (by rw [here]; exact Ne.symm isRemote), Nat.add_zero]
  · rw [if_neg here]
    obtain ⟨atProvider, entry, fits⟩ := countable here
    obtain ⟨counter, isTold, otherCounters, positive⟩ := registerRemote_spec inv.positive fits
    refine inv.joined here atProvider entry ?_ ?_ ?_ ?_
      (NotifyMemory.inFlight_tellIf _ _ _ _) ?_ ?_ ?_
    · rw [NotifyMemory.remote, NotifyMemory.control_tellIf]
      exact positive
    · rw [NotifyMemory.remote, NotifyMemory.control_tellIf]
      exact counter
    · rw [beq_iff_eq]
      exact isTold
    · rw [NotifyMemory.remote, NotifyMemory.control_tellIf]
      exact otherCounters
    · rw [moved, if_pos rfl]
    · intro node _ distinct
      rw [moved, if_neg (Ne.symm distinct), Nat.add_zero]
    · intro _ distinct
      rw [moved, if_neg (Ne.symm distinct), Nat.add_zero]

/-- A re-registration moves to where it is counted. -/
theorem count_reregister {target origin : NodeId}
    (inv : CountInv nodeIdentifier config.memory.provider config.memory.messaging
      (registeredAt config))
    (somewhere : (config.object (.proxyEvent proxy)).towards = some origin)
    (foreign : config.memory.provider ≠ nodeIdentifier → origin ≠ config.memory.provider)
    (countable : target ≠ nodeIdentifier → origin ≠ target ∧ config.memory.messaging.remote ≠ none ∧
        Countable nodeIdentifier target config)
    (isTowards : party.towards = some target) :
    CountInv nodeIdentifier config.memory.provider
      (config.memory.messaging.reregistered nodeIdentifier target)
      (registeredAt (config.update memory (.proxyEvent proxy) party activity)) := by
  have moved := fun node => @registeredAt_update _ _ _ _ _ _ config memory party activity proxy node
  simp only [share, somewhere, isTowards, Option.some.injEq] at moved
  have fewer : ∀ node, node ≠ target →
      registeredAt (config.update memory (.proxyEvent proxy) party activity) node ≤
        registeredAt config node := by
    intro node distinct
    have atNode := moved node
    rw [if_neg (Ne.symm distinct)] at atNode
    omega
  have sameProvider : config.memory.provider ≠ nodeIdentifier → config.memory.provider ≠ target →
        registeredAt (config.update memory (.proxyEvent proxy) party activity)
            config.memory.provider =
          registeredAt config config.memory.provider := by
    intro isRemote distinct
    have atProvider := moved config.memory.provider
    rw [if_neg (foreign isRemote), if_neg (Ne.symm distinct)] at atProvider
    exact atProvider
  rw [NotifyMemory.reregistered]
  by_cases here : target = nodeIdentifier
  · rw [if_pos here]
    refine inv.quiet inv.positive (fun _ => rfl) rfl ?_ ?_
    · intro node isRemote
      apply fewer
      rw [here]
      exact isRemote
    · intro isRemote
      apply sameProvider isRemote
      rw [here]
      exact isRemote
  · rw [if_neg here]
    obtain ⟨distinct, isSome, atProvider, entry, fits⟩ := countable here
    obtain ⟨counter, isTold, otherCounters, positive⟩ :=
      reregisterRemote_spec inv.positive isSome fits
    refine inv.joined here atProvider entry ?_ ?_ isTold ?_
      (NotifyMemory.inFlight_tellIf _ _ _ _) ?_ (fun node _ => fewer node)
      sameProvider
    · rw [NotifyMemory.remote, NotifyMemory.control_tellIf]
      exact positive
    · rw [NotifyMemory.remote, NotifyMemory.control_tellIf]
      exact counter
    · rw [NotifyMemory.remote, NotifyMemory.control_tellIf]
      exact otherCounters
    · have atTarget := moved target
      rw [if_neg distinct, if_pos rfl] at atTarget
      exact atTarget

/-- The end of a registration is counted. -/
theorem count_unregister {target origin : NodeId} {registrationNo : BitVec 32}
    {messaging : NotifyMemory
      (ProxyHandler Proxy Handler) NodeId}
    (inv : CountInv nodeIdentifier config.memory.provider config.memory.messaging
      (registeredAt config))
    (somewhere : (config.object (.proxyEvent proxy)).towards = some origin)
    (counted : origin = target ∨ (counterOf target config.memory.messaging.remote = 0 ∧
        (config.memory.provider ≠ nodeIdentifier → origin ≠ config.memory.provider)))
    (nowhere : party.towards = none) (ends : (target = nodeIdentifier ∧
        messaging = config.memory.messaging.removed registrationNo) ∨
      (target ≠ nodeIdentifier ∧ ∃ told remote,
        unregisterRemote target config.memory.messaging.remote = some (told, remote) ∧ messaging =
            ((config.memory.messaging.removed registrationNo).setRemote
              remote).tellIf told .unregisterEventNotifier target)) :
    CountInv nodeIdentifier config.memory.provider messaging
      (registeredAt (config.update memory (.proxyEvent proxy) party activity)) := by
  have moved := fun node => @registeredAt_update _ _ _ _ _ _ config memory party activity proxy node
  simp only [share, somewhere, nowhere, reduceCtorEq, if_false, Option.some.injEq,
    Nat.add_zero] at moved
  have fewer : ∀ node, registeredAt (config.update memory (.proxyEvent proxy) party activity) node ≤
        registeredAt config node := by
    intro node
    have atNode := moved node
    omega
  have elsewhere : ∀ node, node ≠ origin →
      registeredAt (config.update memory (.proxyEvent proxy) party activity) node =
        registeredAt config node := by
    intro node distinct
    have atNode := moved node
    rw [if_neg (Ne.symm distinct)] at atNode
    exact atNode
  rcases ends with ⟨here, rfl⟩ | ⟨isRemote, told, remote, found, rfl⟩
  · refine inv.quiet inv.positive (fun _ => rfl) rfl (fun node _ => fewer node) ?_
    intro remoteProvider
    apply elsewhere
    rcases counted with same | ⟨_, foreign⟩
    · rw [same, here]
      exact remoteProvider
    · exact (foreign remoteProvider).symm
  · obtain ⟨isTold, left, isFound, counter, last, otherCounters, positive⟩ :=
      @unregisterRemote_spec NodeId _ _ target inv.positive
    rw [found] at isFound
    obtain ⟨rfl, rfl⟩ := Prod.mk.inj (Option.some.inj isFound)
    rcases counted with same | ⟨uncounted, foreign⟩
    · subst same
      refine inv.left isRemote ?_ ?_ last ?_ (NotifyMemory.inFlight_tellIf _ _ _ _) ?_ elsewhere
      · rw [NotifyMemory.remote, NotifyMemory.control_tellIf]
        exact positive
      · rw [NotifyMemory.remote, NotifyMemory.control_tellIf]
        exact counter
      · rw [NotifyMemory.remote, NotifyMemory.control_tellIf]
        exact otherCounters
      · have atOrigin := moved origin
        rw [if_pos rfl] at atOrigin
        exact atOrigin
    · refine inv.quiet ?_ ?_ ?_ (fun node _ => fewer node) ?_
      · rw [NotifyMemory.remote, NotifyMemory.control_tellIf]
        exact positive
      · intro node
        rw [NotifyMemory.remote, NotifyMemory.control_tellIf]
        change counterOf node remote = _
        by_cases same : node = target
        · subst same
          omega
        · exact otherCounters node same
      · rw [NotifyMemory.inFlight_tellIf, if_neg]
        · rfl
        · intro isLast
          have one := last.mp isLast
          omega
      · intro remoteProvider
        exact elsewhere _ (foreign remoteProvider).symm

/-- One call of the messaging keeps the counter right. -/
theorem count_perform {actor : HandlerActor Proxy}
    {op : MessagingOp (ProxyHandler Proxy Handler) NodeId} {answer : op.Ret}
    (numbered : Numbered config.memory)
    (inv : CountInv nodeIdentifier config.memory.provider config.memory.messaging
      (registeredAt config))
    (countable : countedInStep nodeIdentifier config (.perform actor op answer))
    (may : (handlerRules false actor).may (handlerView config actor) op)
    (outcome : (answer, memory) ∈ op.outcomes nodeIdentifier config.memory) :
    CountInv nodeIdentifier memory.provider memory.messaging
      (registeredAt (config.update memory actor ((config.object actor).observe op) activity)) := by
  cases actor with
  | provider =>
      cases op with
      | provide node =>
          cases List.mem_singleton.mp outcome
          have same : registeredAt (config.update
              { config.memory with provider := node } .provider
              ((config.object .provider).observe (.provide node)) activity) =
                registeredAt config := registeredAt_same rfl
          rw [same]
          refine ⟨inv.positive, fun isRemote => ?_, inv.covers, inv.told⟩
          rcases countable isRemote with stays | ⟨uncounted, nobody⟩
          · rw [stays] at isRemote ⊢
            exact inv.counted isRemote
          · exact uncounted.trans nobody.symm
      | _ => exact absurd may id
  | proxyEvent proxy =>
      cases op with
      | registerEventNotification callback target =>
          obtain ⟨_, _, nowhere, _⟩ := may
          obtain ⟨_, rfl⟩ := register_outcome outcome
          exact count_register inv countable.2 nowhere rfl
      | reregisterEventNotification target =>
          obtain ⟨live, somewhere⟩ := may
          have registered : config.memory.messaging.control.handlers ≠ [] := by
            intro nothing
            apply live
            rw [handlerView, nothing]
            rfl
          have same := reregister_outcome registered outcome
          subst same
          obtain ⟨origin, isOrigin⟩ := Option.ne_none_iff_exists'.mp somewhere
          replace isOrigin : (config.object (.proxyEvent proxy)).towards = some origin := isOrigin
          obtain ⟨foreign, remotely⟩ := countable
          rw [isOrigin] at foreign remotely
          refine count_reregister inv isOrigin ?_ ?_ rfl
          · intro isRemote same
            exact foreign isRemote (congrArg some same)
          · intro isRemote
            obtain ⟨distinct, isSome, fits⟩ := remotely isRemote
            refine ⟨?_, Option.isSome_iff_ne_none.mp isSome, fits⟩
            intro same
            exact distinct (congrArg some same)
      | unregisterEventNotification registrationNo target =>
          obtain ⟨⟨handler, only⟩, somewhere⟩ := may
          have isIn : ⟨handler, registrationNo⟩ ∈ liveOf proxy
              config.memory.messaging.control.handlers := by
            change liveOf proxy config.memory.messaging.control.handlers = _ at only
            rw [only]
            exact List.mem_singleton_self _
          have ended := @unregister_outcome _ _ _ nodeIdentifier config.memory memory
            target ⟨handler, registrationNo⟩ answer numbered.sorted
            (mem_liveOf.mp isIn).1 outcome
          obtain ⟨messaging, rfl, ends⟩ := ended
          obtain ⟨origin, isOrigin⟩ := Option.ne_none_iff_exists'.mp somewhere
          replace isOrigin : (config.object (.proxyEvent proxy)).towards = some origin := isOrigin
          refine count_unregister inv isOrigin ?_ rfl ends
          rcases countable with same | ⟨uncounted, foreign⟩
          · rw [isOrigin] at same
            exact .inl (Option.some.inj same)
          · right
            refine ⟨uncounted, fun isRemote same => foreign isRemote ?_⟩
            rw [isOrigin, same]
      | terminate | provide node => exact absurd may id

/-- The contract of the proxy events, with the counter. -/
def countContract (nodeIdentifier : NodeId) : Contract (handlerSystem nodeIdentifier Proxy Handler)
      (HandlerView Proxy Handler NodeId) :=
  { handlerContract nodeIdentifier false with
    Inv := fun config => HandlerInv false config ∧
      CountInv nodeIdentifier config.memory.provider config.memory.messaging
        (registeredAt config) }

theorem count_obligations : (countContract nodeIdentifier : Contract
      (handlerSystem nodeIdentifier Proxy Handler) _).Obligations
        (countedInStep nodeIdentifier) := by
  have base : (handlerContract nodeIdentifier false : Contract
      (handlerSystem nodeIdentifier Proxy Handler) _).Obligations
        (countedInStep nodeIdentifier) := by
    apply handler_obligations
    · intro config actor callback target answer allowed
      exact allowed.1
    · exact fun config allowed => allowed
    · intro impossible
      cases impossible
  constructor
  · intro config actor call inv allowed idle mayCall after isAfter
    obtain ⟨kept, unseen, respects⟩ := base.call inv.1 allowed idle mayCall after isAfter
    refine ⟨⟨kept, ?_⟩, unseen, respects⟩
    have same : registeredAt after = registeredAt config := by
      rw [isAfter]
      apply registeredAt_same
      cases call with
      | unsubscribeEvent =>
          change ((config.object actor).calling .unsubscribeEvent).towards = _
          rw [HandlerParty.calling]
          split
          · rfl
          · rfl
      | _ => rfl
    rw [same, isAfter]
    exact inv.2
  · intro config actor call op next answer memory inv allowed running may outcome after isAfter
    obtain ⟨kept, unseen, expected, seen⟩ :=
      base.perform inv.1 allowed running may outcome after isAfter
    refine ⟨⟨kept, ?_⟩, unseen, expected, seen⟩
    rw [isAfter]
    exact count_perform inv.1.numbered inv.2 allowed may outcome
  · intro config actor call states inv allowed running post after isAfter
    obtain ⟨kept, unseen⟩ := base.finish inv.1 allowed running post after isAfter
    refine ⟨⟨kept, ?_⟩, unseen⟩
    have same : registeredAt after = registeredAt config := by
      rw [isAfter]
      exact registeredAt_same rfl
    rw [same, isAfter]
    exact inv.2
  · intro config actor object _ _ killed
    cases killed
  · intro config memory inv allowed moved after isAfter
    obtain ⟨kept, unseen⟩ := base.environment inv.1 allowed moved after isAfter
    cases moved
    subst isAfter
    exact ⟨⟨kept, inv.2.positive, inv.2.counted, inv.2.covers, inv.2.told⟩, unseen⟩

/-! ## The law of every run -/

/-- The counting law: the counter of the provider's node is the number of proxy
events registered there; a node at which one is registered was told so after it
was last told otherwise; and none is left when a node is told otherwise. -/
structure CountLaw (nodeIdentifier : NodeId)
    (config : HandlerConfig Proxy Handler NodeId) : Prop where
  counted : config.memory.provider ≠ nodeIdentifier →
    counterOf config.memory.provider config.memory.messaging.remote =
      registeredAt config config.memory.provider
  told : ∀ node, node ≠ nodeIdentifier → 0 < registeredAt config node →
    lastMessage node config.memory.messaging.inFlight = some .registerEventNotifier
  untold : ∀ node, node ≠ nodeIdentifier → lastMessage node config.memory.messaging.inFlight =
        some .unregisterEventNotifier →
      registeredAt config node = 0

/-- In every run whose steps the counter can follow, the counting law holds. -/
theorem countLaw_of_reached {provider : NodeId}
    {config : HandlerConfig Proxy Handler NodeId}
    (reached : Reaches (handlerSystem nodeIdentifier Proxy Handler)
      (countedInStep nodeIdentifier) (handlerStart provider) config) :
    CountLaw nodeIdentifier config := by
  have nowhere : ∀ node, registeredAt
      (handlerStart provider : HandlerConfig Proxy Handler NodeId) node = 0 := by
    intro node
    apply total_eq_zero
    intro proxy
    rfl
  have initially : CountInv nodeIdentifier provider
      (handlerStart provider : HandlerConfig Proxy Handler NodeId).memory.messaging
      (registeredAt (handlerStart provider : HandlerConfig Proxy Handler NodeId)) := by
    refine ⟨?_, ?_, ?_, ?_⟩
    · intro count impossible
      cases impossible
    · intro _
      exact (nowhere provider).symm
    · intro node _ impossible
      cases impossible
    · intro node _ some
      rw [nowhere] at some
      rcases some with impossible | impossible
      · cases impossible
      · cases impossible
  have holds := Contract.run count_obligations ⟨handlerInv_start provider, initially⟩
    (fun _ => rfl) reached
  have inv := holds.inv.2
  refine ⟨inv.counted, fun node isRemote some => inv.told node isRemote (.inl some), ?_⟩
  intro node isRemote unregistered
  apply Nat.eq_zero_of_not_pos
  intro some
  rw [inv.told node isRemote (.inl some)] at unregistered
  cases unregistered

end Counting

section TwoProxyEvents

instance [Fintype Proxy] [DecidableEq Proxy] (nodeIdentifier target : NodeId)
    (config : HandlerConfig Proxy Handler NodeId) :
    Decidable (Countable nodeIdentifier target config) :=
  inferInstanceAs (Decidable (_ ∧ _ ∧ _))

instance [Fintype Proxy] [DecidableEq Proxy] (nodeIdentifier : NodeId)
    (config : HandlerConfig Proxy Handler NodeId)
    (event : HandlerEvent Proxy Handler NodeId) :
    Decidable (countedInStep nodeIdentifier config event) :=
  match event with
  | .perform _ (.registerEventNotification _ _) _ => inferInstanceAs (Decidable (_ ∧ (_ → _)))
  | .perform _ (.reregisterEventNotification _) _ =>
      inferInstanceAs (Decidable ((_ → _) ∧ (_ → _)))
  | .perform _ (.unregisterEventNotification _ _) _ => inferInstanceAs (Decidable (_ ∨ _))
  | .perform _ (.provide _) _ => inferInstanceAs (Decidable (_ → _ ∨ _ ∧ _))
  | .perform _ .terminate _ => .isTrue trivial
  | .call _ _ => .isTrue trivial
  | .finish _ _ _ => .isTrue trivial
  | .crash _ => .isTrue trivial
  | .environment => inferInstanceAs (Decidable (_ < _))

/-- Both proxy events register a handler at node 1. -/
def bothRegister : List (Choice (HandlerActor Bool)
    (MessagingMemory (ProxyHandler Bool Unit) Nat) (HandlerCall Unit Nat)) :=
  [.call (.proxyEvent false) (.setReceiveHandler ()), .finish (.proxyEvent false),
    .call (.proxyEvent false) (.subscribeEvent true), .perform (.proxyEvent false) 0,
    .finish (.proxyEvent false),
    .call (.proxyEvent true) (.setReceiveHandler ()), .finish (.proxyEvent true),
    .call (.proxyEvent true) (.subscribeEvent true), .perform (.proxyEvent true) 0,
    .finish (.proxyEvent true)]

/-- One of two proxy events ends its subscription. -/
theorem countLaw_of_unsubscribed : ∃ config : HandlerConfig Bool Unit Nat,
      Reaches (handlerSystem 0 Bool Unit) (countedInStep 0) (handlerStart 1) config ∧
        registeredAt config 1 = 1 ∧
        counterOf 1 config.memory.messaging.remote = 1 ∧
        lastMessage 1 config.memory.messaging.inFlight = some .registerEventNotifier := by
  obtain ⟨config, reached, provided, registered⟩ := exists_reached (handlerSystem 0 Bool Unit)
      (fun config event => countedInStep 0 config event) (handlerStart 1)
      (bothRegister ++ [.call (.proxyEvent false) .unsubscribeEvent, .perform (.proxyEvent false) 0,
          .finish (.proxyEvent false)])
      (fun config => config.memory.provider = 1 ∧ registeredAt config 1 = 1)
      (by decide +kernel)
  have law : CountLaw 0 config := countLaw_of_reached reached
  have counted := law.counted (by rw [provided]; decide)
  rw [provided, registered] at counted
  exact ⟨config, reached, registered, counted, law.told 1 (by decide) (by rw [registered]; decide)⟩

/-- The provider comes back as node 2, and the proxy event that gets a new
handler meanwhile is the second to be told. -/
def newHandlerWhilePending : List (Choice (HandlerActor Bool)
    (MessagingMemory (ProxyHandler Bool Unit) Nat) (HandlerCall Unit Nat)) :=
  List.flatten
    [bothRegister, [.call (.proxyEvent false) .stopOfferEvent, .finish (.proxyEvent false),
      .call (.proxyEvent true) .stopOfferEvent, .finish (.proxyEvent true),
      .call (.proxyEvent true) (.setReceiveHandler ()), .finish (.proxyEvent true),
      .call .provider (.provide 2), .perform .provider 0, .finish .provider,
      .call (.proxyEvent false) (.reOfferEvent 2), .perform (.proxyEvent false) 0,
      .finish (.proxyEvent false),
      .call (.proxyEvent true) (.reOfferEvent 2), .perform (.proxyEvent true) 0,
      .perform (.proxyEvent true) 0, .finish (.proxyEvent true),
      .call (.proxyEvent false) .unsubscribeEvent, .perform (.proxyEvent false) 0,
      .finish (.proxyEvent false)]]

/-- The new provider is told that nobody listens, and one proxy event does. -/
theorem countLaw_violated : ¬ ∀ config : HandlerConfig Bool Unit Nat,
      Reaches (handlerSystem 0 Bool Unit) (fun _ _ => True) (handlerStart 1) config →
        CountLaw 0 config := by
  intro law
  obtain ⟨config, reached, provided, registered, uncounted, unregistered⟩ :=
    exists_reached (handlerSystem 0 Bool Unit) (fun _ _ => True) (handlerStart 1)
      newHandlerWhilePending
      (fun config => config.memory.provider = 2 ∧ registeredAt config 2 = 1 ∧
        counterOf 2 config.memory.messaging.remote = 0 ∧
        lastMessage 2 config.memory.messaging.inFlight = some .unregisterEventNotifier)
      (by decide +kernel)
  have none := (law config reached).untold 2 (by decide) unregistered
  rw [registered] at none
  cases none

end TwoProxyEvents

end MwCom.Messaging
