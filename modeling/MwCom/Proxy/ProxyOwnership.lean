/-
Module: MwCom.Proxy.ProxyOwnership
Purpose: Who owns the objects of generated proxies between two calls, and that constructors,
  destructors and the calls of events keep it so.
Trusted boundary: none
Main exports: ProxyState.Safe, ProxyState.Sound, ProxyState.Idle, Sound.construct, Sound.destroy
-/
import MwCom.Proxy.ProxyMoves

namespace MwCom.ProxyMoves

open Interleaving Function

variable {Place Name : Type}

/-! ## What holds in every state -/

namespace ProxyState

/-- The events of a proxy own nothing: it was moved from, or none of them was created. -/
def Eventless (state : ProxyState Place Name) (place : Place) : Prop :=
  ∀ name, state.member place name = .empty

/-- A variable that owns nothing. -/
def Vacant (state : ProxyState Place Name) (place : Place) : Prop :=
  state.proxyBinding place = none ∧ state.Eventless place

/-- No event of the proxy has a receive handler whose calls are traced. -/
def NotTraced (state : ProxyState Place Name) (place : Place) : Prop :=
  ∀ name binding, (state.member place name).bindingBase = some binding →
    ∀ tracingData, state.handler binding ≠ some (some tracingData)

/-- Whatever happens now does no harm. -/
structure Safe (state : ProxyState Place Name) : Prop where
  faults : state.faults = []
  registered : ∀ proxyBinding entry, state.proxyAlive proxyBinding = true →
    entry ∈ state.eventBindings proxyBinding → state.eventAlive entry.2 = true
  traced : ∀ binding tracingData, state.eventAlive binding = true →
    state.handler binding = some (some tracingData) → state.ownsHandler binding tracingData = true

/-- The event has all its objects, and is registered at the proxy binding of its variable. -/
structure WholeMember (names : List Name) (home : Place → Place)
    (state : ProxyState Place Name) (place : Place) (name : Name) (binding : Nat) : Prop where
  member : state.member place name =
    ⟨some binding, some binding, some ⟨state.parent binding, binding, name⟩, some binding⟩
  declared : name ∈ names
  parent : state.proxyBinding (home place) = some (state.parent binding)
  alive : state.eventAlive binding = true
  old : binding < state.nextEvent
  registered : (name, binding) ∈ state.eventBindings (state.parent binding)

/-- Who owns what between two calls.  While a proxy is moved, `home` is where the proxy binding
of a variable is. -/
structure Sound (names : List Name) (home : Place → Place) (state : ProxyState Place Name) :
    Prop where
  safe : state.Safe
  whole : ∀ place name, state.member place name = .empty ∨
    ∃ binding, WholeMember names home state place name binding
  distinct : ∀ place name other otherName binding,
    (state.member place name).bindingBase = some binding →
      (state.member other otherName).bindingBase = some binding → place = other ∧ name = otherName
  proxy : ∀ place proxyBinding, state.proxyBinding place = some proxyBinding →
    state.proxyAlive proxyBinding = true ∧ proxyBinding < state.nextProxy
  unique : ∀ place other proxyBinding, state.proxyBinding place = some proxyBinding →
    state.proxyBinding other = some proxyBinding → place = other
  registered : ∀ proxyBinding entry, state.proxyAlive proxyBinding = true →
    entry ∈ state.eventBindings proxyBinding →
      (∃ place, (state.member place entry.1).bindingBase = some entry.2) ∧
        state.parent entry.2 = proxyBinding
  owned : ∀ binding, binding < state.nextEvent → state.eventAlive binding = true →
    ∃ place name, (state.member place name).bindingBase = some binding
  unborn : ∀ place, state.constructed place = false → state.Vacant place
  samples : ∀ tracker, state.held tracker + state.availableSamples tracker =
      state.maxNumSamples tracker ∧ (state.subscribed tracker = false → state.held tracker = 0)

/-- Between two calls, where the process has not ended. -/
def Idle (names : List Name) (state : ProxyState Place Name) : Prop :=
  state.Safe ∧ (state.ended = false → Sound names id state)

variable {names : List Name} {home : Place → Place} {state later : ProxyState Place Name}
  {place source : Place} {name : Name}

/-! ### What happens meanwhile -/

theorem Safe.quiet (safe : state.Safe) (happens : Happens state later) : later = state := by
  cases happens with
  | @availability proxyBinding _ =>
      rw [changeAvailability, fault, if_neg]
      intro harms
      simp only [Bool.and_eq_true, List.any_eq_true, Bool.not_eq_true'] at harms
      obtain ⟨alive, entry, isEntry, ended⟩ := harms
      rw [safe.registered proxyBinding entry alive isEntry] at ended
      cases ended
  | @notification binding _ =>
      rw [notify]
      split
      · rename_i tracingData isHandler
        rw [fault, if_neg]
        intro harms
        simp only [Bool.and_eq_true, Bool.not_eq_true'] at harms
        rw [safe.traced binding tracingData harms.1 isHandler] at harms
        cases harms.2
      · rfl

theorem Idle.terminate (safe : state.Safe) : Idle names state.terminate := by
  constructor
  · exact ⟨safe.faults, safe.registered, safe.traced⟩
  · intro running
    cases running

/-- A command is executed while the process runs. -/
theorem Idle.guarded [DecidableEq Place] [DecidableEq Name] {command : Command Place Name}
    (idle : Idle names state) (executed : Idle names (state.execute command)) :
    Guarded (fun command state => ProxyState.execute state command) Safe (Idle names) [command]
      state :=
  ⟨idle.1, executed⟩

/-! ### Calls of an event -/

/-- The samples of events are counted otherwise. -/
theorem Sound.samplesAre {subscribed : Nat → Bool} {availableSamples maxNumSamples held : Nat → Nat}
    (sound : Sound names home state)
    (samples : ∀ tracker, held tracker + availableSamples tracker = maxNumSamples tracker ∧
      (subscribed tracker = false → held tracker = 0)) :
    Sound names home
      { state with
        subscribed := subscribed
        availableSamples := availableSamples
        maxNumSamples := maxNumSamples
        held := held } where
  safe := ⟨sound.safe.faults, sound.safe.registered, sound.safe.traced⟩
  whole place name := by
    rcases sound.whole place name with isEmpty | ⟨binding, whole⟩
    · exact .inl isEmpty
    · exact .inr ⟨binding, whole.member, whole.declared, whole.parent, whole.alive, whole.old,
        whole.registered⟩
  distinct := sound.distinct
  proxy := sound.proxy
  unique := sound.unique
  registered := sound.registered
  owned := sound.owned
  unborn := sound.unborn
  samples := samples

/-- Receive handlers are others. -/
theorem Sound.handlersAre {handler : Nat → Option (Option (Place × Name))}
    (sound : Sound names home state)
    (traced : ∀ binding tracingData, state.eventAlive binding = true →
      handler binding = some (some tracingData) → state.ownsHandler binding tracingData = true) :
    Sound names home { state with handler := handler } where
  safe := ⟨sound.safe.faults, sound.safe.registered, traced⟩
  whole place name := by
    rcases sound.whole place name with isEmpty | ⟨binding, whole⟩
    · exact .inl isEmpty
    · exact .inr ⟨binding, whole.member, whole.declared, whole.parent, whole.alive, whole.old,
        whole.registered⟩
  distinct := sound.distinct
  proxy := sound.proxy
  unique := sound.unique
  registered := sound.registered
  owned := sound.owned
  unborn := sound.unborn
  samples := sound.samples

/-- The binding and the tracker of an event are there, or nothing is. -/
theorem Sound.event (sound : Sound names home state) (place : Place) (name : Name) :
    state.member place name = .empty ∨ ∃ binding,
      (state.member place name).bindingBase = some binding ∧
        (state.member place name).tracker = some binding ∧
        (state.member place name).receiveHandlerScope = some binding := by
  rcases sound.whole place name with isEmpty | ⟨binding, whole⟩
  · exact .inl isEmpty
  · right
    rw [whole.member]
    exact ⟨binding, rfl, rfl, rfl⟩

theorem Sound.idle (sound : Sound names id state) : Idle names state := ⟨sound.safe, fun _ => sound⟩

theorem Sound.subscribe (sound : Sound names id state) (maxSampleCount : Nat) (granted : Bool) :
    Idle names (state.subscribe place name maxSampleCount granted) := by
  rw [ProxyState.subscribe]
  rcases sound.event place name with isEmpty | ⟨binding, isBinding, isTracker, _⟩
  · rw [isEmpty]
    exact .terminate sound.safe
  · rw [isBinding, isTracker]
    dsimp only
    split
    · exact sound.idle
    · rename_i notSubscribed
      apply Sound.idle
      apply sound.samplesAre
      intro tracker
      by_cases same : tracker = binding
      · have none := (sound.samples binding).2 (Bool.eq_false_iff.mpr notSubscribed)
        rw [same]
        simp [none]
      · simp only [update_of_ne same]
        exact sound.samples tracker

theorem Sound.unsubscribe (sound : Sound names id state) :
    Idle names (state.unsubscribe place name) := by
  rw [ProxyState.unsubscribe]
  rcases sound.event place name with isEmpty | ⟨binding, isBinding, isTracker, _⟩
  · rw [isEmpty]
    exact .terminate sound.safe
  · rw [isBinding, isTracker]
    dsimp only
    split
    · split
      · exact .terminate ⟨sound.safe.faults, sound.safe.registered, sound.safe.traced⟩
      · rename_i unused
        apply Sound.idle
        apply sound.samplesAre
        intro tracker
        refine ⟨(sound.samples tracker).1, ?_⟩
        by_cases same : tracker = binding
        · have counted := (sound.samples binding).1
          rw [same]
          omega
        · rw [update_of_ne same]
          exact (sound.samples tracker).2
    · exact sound.idle

theorem Sound.getNewSamples (sound : Sound names id state) (maxNumSamples : Nat) :
    Idle names (state.getNewSamples place name maxNumSamples) := by
  rw [ProxyState.getNewSamples]
  rcases sound.event place name with isEmpty | ⟨binding, isBinding, isTracker, _⟩
  · rw [isEmpty]
    exact .terminate sound.safe
  · rw [isBinding, isTracker]
    dsimp only
    split
    · rename_i isSubscribed
      apply Sound.idle
      apply sound.samplesAre
      intro tracker
      by_cases same : tracker = binding
      · have counted := (sound.samples binding).1
        rw [same]
        simp only [update_self, isSubscribed]
        constructor
        · omega
        · intro impossible
          cases impossible
      · simp only [update_of_ne same]
        exact sound.samples tracker
    · exact sound.idle

theorem Sound.destroySample (sound : Sound names id state) (tracker : Nat) :
    Idle names (state.destroySample tracker) := by
  rw [ProxyState.destroySample]
  split
  · rename_i isHeld
    apply Sound.idle
    apply sound.samplesAre
    intro other
    by_cases same : other = tracker
    · have counted := sound.samples tracker
      rw [same]
      simp only [update_self]
      constructor
      · omega
      · intro notSubscribed
        have none := counted.2 notSubscribed
        omega
    · simp only [update_of_ne same]
      exact sound.samples other
  · exact sound.idle

section Handlers

variable [DecidableEq Place] [DecidableEq Name]

omit [DecidableEq Place] [DecidableEq Name] in
/-- A receive handler has been expired. -/
theorem Sound.expire (sound : Sound names home state) (scope : Nat) :
    Sound names home (state.expire scope) := by
  apply sound.handlersAre
  intro binding tracingData alive isHandler
  by_cases same : binding = scope
  · rw [same, update_self] at isHandler
    cases isHandler
  · rw [update_of_ne same] at isHandler
    exact sound.safe.traced binding tracingData alive isHandler

@[simp] theorem setMember_self : state.setMember place name (state.member place name) = state := by
  simp [setMember]

theorem Sound.setReceiveHandler (sound : Sound names id state)
    (lives : state.constructed place = true) (traced : Bool) :
    Idle names (state.setReceiveHandler place name traced) := by
  rw [ProxyState.setReceiveHandler]
  rcases sound.event place name with isEmpty | ⟨binding, isBinding, _, isScope⟩
  · rw [isEmpty]
    exact .terminate sound.safe
  · have same : setScope (state.member place name) (some binding) = state.member place name := by
      rw [setScope, ← isScope]
    rw [isBinding, isScope]
    dsimp only [endOwned]
    rw [same]
    have expired := sound.expire binding
    have unchanged : (state.expire binding).setMember place name (state.member place name) =
        state.expire binding := setMember_self
    rw [unchanged]
    apply Sound.idle
    apply expired.handlersAre
    intro other tracingData alive isHandler
    by_cases isOther : other = binding
    · rw [isOther, update_self] at isHandler
      rw [isOther]
      split at isHandler
      · cases isHandler
        simp [ownsHandler, ProxyState.expire, lives, isBinding]
      · cases isHandler
    · rw [update_of_ne isOther] at isHandler
      exact expired.safe.traced other tracingData alive isHandler

omit [DecidableEq Place] [DecidableEq Name] in
theorem Sound.unsetReceiveHandler (sound : Sound names id state) :
    Idle names (state.unsetReceiveHandler place name) := by
  rw [ProxyState.unsetReceiveHandler]
  rcases sound.event place name with isEmpty | ⟨binding, isBinding, _, isScope⟩
  · rw [isEmpty]
    exact .terminate sound.safe
  · rw [isBinding, isScope]
    exact ((sound.expire binding).expire binding).idle

end Handlers

/-! ### The end of an event -/

/-- What is known to be safe remains so where less is registered and handled. -/
theorem Safe.weaken (safe : state.Safe) (faults : later.faults = [])
    (constructed : later.constructed = state.constructed)
    (proxyAlive : later.proxyAlive = state.proxyAlive)
    (eventAlive : later.eventAlive = state.eventAlive)
    (registered : ∀ proxyBinding, later.eventBindings proxyBinding ⊆
      state.eventBindings proxyBinding)
    (handlers : ∀ binding tracingData, later.handler binding = some (some tracingData) →
      state.handler binding = some (some tracingData))
    (bases : ∀ place name,
      (later.member place name).bindingBase = (state.member place name).bindingBase) :
    later.Safe := by
  constructor
  · exact faults
  · intro proxyBinding entry alive isEntry
    rw [eventAlive]
    rw [proxyAlive] at alive
    exact safe.registered proxyBinding entry alive (registered proxyBinding isEntry)
  · intro binding tracingData alive isHandler
    rw [eventAlive] at alive
    have owns := safe.traced binding tracingData alive (handlers binding tracingData isHandler)
    rw [ownsHandler] at owns ⊢
    rw [constructed, bases]
    exact owns

theorem fault_of_false {found : Fault} {condition : Bool} (harmless : condition = false) :
    state.fault found condition = state := by
  rw [harmless, fault, if_neg]
  intro impossible
  cases impossible

/-- Either the process has ended, or `Holds`. -/
def EndedOr (Holds : ProxyState Place Name → Prop) (state : ProxyState Place Name) : Prop :=
  state.Safe ∧ (state.ended = false → Holds state)

theorem Safe.endedOr {Holds : ProxyState Place Name → Prop} (safe : state.Safe)
    (isEnded : state.ended = true) : EndedOr Holds state := by
  constructor
  · exact safe
  · intro running
    rw [isEnded] at running
    cases running

section Destroyed

variable [DecidableEq Place] [DecidableEq Name]

theorem member_setMember (member : EventMember Name) (other : Place) (otherName : Name) :
    (state.setMember place name member).member other otherName =
      if other = place ∧ otherName = name then member else state.member other otherName := by
  by_cases samePlace : other = place
  · by_cases sameName : otherName = name
    · simp [setMember, samePlace, sameName]
    · simp [setMember, samePlace, sameName]
  · simp [setMember, samePlace]

@[simp] theorem member_setMember_self (member : EventMember Name) :
    (state.setMember place name member).member place name = member := by
  simp [setMember]

@[simp] theorem setMember_setMember (one two : EventMember Name) :
    (state.setMember place name one).setMember place name two = state.setMember place name two := by
  simp [setMember]

/-- The state without an event. -/
def withoutEvent (state : ProxyState Place Name) (place : Place) (name : Name) (binding : Nat) :
    ProxyState Place Name :=
  { state.setMember place name .empty with
    handler := update state.handler binding none
    eventBindings := update state.eventBindings (state.parent binding)
      ((state.eventBindings (state.parent binding)).filter fun entry => entry.1 != name)
    eventAlive := update state.eventAlive binding false }

@[simp] theorem eventBindings_withoutEvent (binding : Nat) :
    (state.withoutEvent place name binding).eventBindings =
      update state.eventBindings (state.parent binding)
        ((state.eventBindings (state.parent binding)).filter fun entry => entry.1 != name) := rfl

@[simp] theorem parent_withoutEvent (binding : Nat) :
    (state.withoutEvent place name binding).parent = state.parent := rfl

@[simp] theorem eventAlive_withoutEvent (binding : Nat) :
    (state.withoutEvent place name binding).eventAlive =
      update state.eventAlive binding false := rfl

@[simp] theorem handler_withoutEvent (binding : Nat) :
    (state.withoutEvent place name binding).handler = update state.handler binding none := rfl

theorem Sound.withoutEvent {binding : Nat} (sound : Sound names id state)
    (whole : WholeMember names id state place name binding) :
    Sound names id (state.withoutEvent place name binding) := by
  have isBase : (state.member place name).bindingBase = some binding := by
    rw [whole.member]
  have memberOf : ∀ other otherName, (state.withoutEvent place name binding).member other
      otherName = if other = place ∧ otherName = name then .empty
        else state.member other otherName :=
    member_setMember .empty
  -- an event with another binding is another event
  have others : ∀ other otherName otherBinding,
      ((state.withoutEvent place name binding).member other otherName).bindingBase =
          some otherBinding →
        (state.member other otherName).bindingBase = some otherBinding ∧
          ¬(other = place ∧ otherName = name) ∧ otherBinding ≠ binding := by
    intro other otherName otherBinding hasBase
    rw [memberOf] at hasBase
    split at hasBase
    · cases hasBase
    · rename_i isOther
      refine ⟨hasBase, isOther, ?_⟩
      intro same
      rw [same] at hasBase
      exact isOther (sound.distinct other otherName place name binding hasBase isBase)
  have entries : ∀ proxyBinding entry,
      entry ∈ (state.withoutEvent place name binding).eventBindings proxyBinding →
        entry ∈ state.eventBindings proxyBinding ∧
          (proxyBinding = state.parent binding → entry.1 ≠ name) := by
    intro proxyBinding entry isEntry
    by_cases same : proxyBinding = state.parent binding
    · rw [same] at isEntry ⊢
      rw [eventBindings_withoutEvent, update_self, List.mem_filter] at isEntry
      exact ⟨isEntry.1, fun _ => by simpa using isEntry.2⟩
    · rw [eventBindings_withoutEvent, update_of_ne same] at isEntry
      exact ⟨isEntry, fun isSame => absurd isSame same⟩
  have notEntry : ∀ proxyBinding entry, state.proxyAlive proxyBinding = true →
      entry ∈ (state.withoutEvent place name binding).eventBindings proxyBinding →
        entry.2 ≠ binding := by
    intro proxyBinding entry alive isEntry same
    obtain ⟨wasEntry, different⟩ := entries proxyBinding entry isEntry
    obtain ⟨⟨other, hasBase⟩, isParent⟩ := sound.registered proxyBinding entry alive wasEntry
    rw [same] at hasBase isParent
    exact different isParent.symm (sound.distinct other entry.1 place name binding hasBase isBase).2
  constructor
  · constructor
    · exact sound.safe.faults
    · intro proxyBinding entry alive isEntry
      have different := notEntry proxyBinding entry alive isEntry
      rw [eventAlive_withoutEvent, update_of_ne different]
      exact sound.safe.registered proxyBinding entry alive (entries proxyBinding entry isEntry).1
    · intro other tracingData alive isHandler
      by_cases same : other = binding
      · rw [handler_withoutEvent, same, update_self] at isHandler
        cases isHandler
      · rw [handler_withoutEvent, update_of_ne same] at isHandler
        rw [eventAlive_withoutEvent, update_of_ne same] at alive
        have owns := sound.safe.traced other tracingData alive isHandler
        rw [ownsHandler, Bool.and_eq_true] at owns ⊢
        refine ⟨owns.1, ?_⟩
        rw [memberOf, if_neg]
        · exact owns.2
        · rintro ⟨isPlace, isName⟩
          have hasBase := eq_of_beq owns.2
          rw [isPlace, isName, isBase] at hasBase
          exact same (Option.some.inj hasBase).symm
  · intro other otherName
    rcases sound.whole other otherName with isEmpty | ⟨otherBinding, otherWhole⟩
    · left
      rw [memberOf, isEmpty, ite_self]
    · by_cases isOther : other = place ∧ otherName = name
      · left
        rw [memberOf, if_pos isOther]
      · right
        have hasBase : (state.member other otherName).bindingBase = some otherBinding := by
          rw [otherWhole.member]
        have different : otherBinding ≠ binding := by
          intro same
          rw [same] at hasBase
          exact isOther (sound.distinct other otherName place name binding hasBase isBase)
        refine ⟨otherBinding, ?_, otherWhole.declared, otherWhole.parent, ?_, otherWhole.old, ?_⟩
        · rw [memberOf, if_neg isOther]
          exact otherWhole.member
        · rw [eventAlive_withoutEvent, update_of_ne different]
          exact otherWhole.alive
        · by_cases sameParent : state.parent otherBinding = state.parent binding
          · have sameName : otherName ≠ name := by
              intro isName
              apply isOther
              refine ⟨?_, isName⟩
              apply sound.unique other place _ otherWhole.parent
              rw [sameParent]
              exact whole.parent
            have isEntry := otherWhole.registered
            rw [eventBindings_withoutEvent, parent_withoutEvent, sameParent,
              update_self, List.mem_filter]
            rw [sameParent] at isEntry
            exact ⟨isEntry, by simpa using sameName⟩
          · rw [eventBindings_withoutEvent, parent_withoutEvent, update_of_ne sameParent]
            exact otherWhole.registered
  · intro one oneName two twoName otherBinding hasOne hasTwo
    exact sound.distinct one oneName two twoName otherBinding (others _ _ _ hasOne).1
      (others _ _ _ hasTwo).1
  · exact sound.proxy
  · exact sound.unique
  · intro proxyBinding entry alive isEntry
    have different := notEntry proxyBinding entry alive isEntry
    obtain ⟨⟨other, hasBase⟩, isParent⟩ := sound.registered proxyBinding entry alive
      (entries proxyBinding entry isEntry).1
    refine ⟨⟨other, ?_⟩, isParent⟩
    rw [memberOf, if_neg]
    · exact hasBase
    · rintro ⟨isPlace, isName⟩
      rw [isPlace, isName, isBase] at hasBase
      exact different (Option.some.inj hasBase).symm
  · intro other old alive
    by_cases same : other = binding
    · rw [eventAlive_withoutEvent, same, update_self] at alive
      cases alive
    · rw [eventAlive_withoutEvent, update_of_ne same] at alive
      obtain ⟨owner, ownerName, hasBase⟩ := sound.owned other old alive
      refine ⟨owner, ownerName, ?_⟩
      rw [memberOf, if_neg]
      · exact hasBase
      · rintro ⟨isPlace, isName⟩
        rw [isPlace, isName, isBase] at hasBase
        exact same (Option.some.inj hasBase).symm
  · intro other isUnborn
    obtain ⟨noProxy, noMember⟩ := sound.unborn other isUnborn
    refine ⟨noProxy, ?_⟩
    intro otherName
    rw [memberOf, noMember, ite_self]
  · exact sound.samples

/-- A process that has ended executes nothing. -/
theorem execute_ended (isEnded : state.ended = true) (command : Command Place Name) :
    state.execute command = state := by
  simp [execute, isEnded]

/-- Commands of a call, as far as they are guarded. -/
abbrev Keeps (Post : ProxyState Place Name → Prop) (commands : List (Command Place Name))
    (state : ProxyState Place Name) : Prop :=
  Guarded (fun command state => ProxyState.execute state command) Safe Post commands state

theorem Safe.keeps_ended {Post : ProxyState Place Name → Prop} (safe : state.Safe)
    (isEnded : state.ended = true) (holds : Post state) (commands : List (Command Place Name)) :
    Keeps Post commands state :=
  .of_fixed safe holds fun command _ => execute_ended isEnded command

/-- A member of an event that owns nothing ends. -/
theorem endMember_none {Owned : Type} {get : EventMember Name → Option Owned}
    {set : EventMember Name → Option Owned → EventMember Name}
    {endObject : ProxyState Place Name → Owned → ProxyState Place Name}
    (isNone : get (state.member place name) = none)
    (unchanged : set (state.member place name) none = state.member place name) :
    state.endMember get set endObject place name = state := by
  rw [endMember, unchanged, isNone, setMember_self]
  rfl

/-- The destructor of an event that owns nothing does nothing. -/
theorem destroyEvent_empty (isEmpty : state.member place name = .empty)
    (command : Command Place Name) (isCommand : command ∈ ProxyCall.destroyEvent place name) :
    state.execute command = state := by
  cases isEnded : state.ended with
  | true => exact execute_ended isEnded command
  | false =>
      simp only [ProxyCall.destroyEvent, List.mem_cons, List.not_mem_nil, or_false] at isCommand
      rcases isCommand with rfl | rfl | rfl | rfl | rfl
      · simp [execute, isEnded, isEmpty, EventMember.empty]
      all_goals
        simp only [execute, isEnded]
        apply endMember_none
        · rw [isEmpty]
          rfl
        · rw [isEmpty]
          rfl

/-- An event of which some objects have ended, the binding not yet. -/
def leavingEvent (state : ProxyState Place Name) (place : Place) (name : Name) (binding : Nat)
    (tracker : Option Nat) (guard : Option (RegistrationGuard Name))
    (entries : List (Name × Nat)) : ProxyState Place Name :=
  { state.setMember place name ⟨some binding, tracker, guard, none⟩ with
    handler := update state.handler binding none
    eventBindings := update state.eventBindings (state.parent binding) entries }

theorem Safe.leavingEvent {binding : Nat} {tracker : Option Nat}
    {guard : Option (RegistrationGuard Name)} {entries : List (Name × Nat)} (safe : state.Safe)
    (isBase : (state.member place name).bindingBase = some binding)
    (fewer : entries ⊆ state.eventBindings (state.parent binding)) :
    (state.leavingEvent place name binding tracker guard entries).Safe := by
  apply safe.weaken
  · exact safe.faults
  · rfl
  · rfl
  · rfl
  · intro proxyBinding entry isEntry
    by_cases same : proxyBinding = state.parent binding
    · simp only [ProxyState.leavingEvent, same, update_self] at isEntry
      rw [same]
      exact fewer isEntry
    · simpa only [ProxyState.leavingEvent, update_of_ne same] using isEntry
  · intro other tracingData isHandler
    by_cases same : other = binding
    · simp [ProxyState.leavingEvent, same] at isHandler
    · simpa only [ProxyState.leavingEvent, update_of_ne same] using isHandler
  · intro other otherName
    have memberOf : (state.leavingEvent place name binding tracker guard entries).member other
        otherName = if other = place ∧ otherName = name then ⟨some binding, tracker, guard, none⟩
          else state.member other otherName :=
      member_setMember _ other otherName
    rw [memberOf]
    split
    · rename_i same
      rw [same.1, same.2, isBase]
    · rfl

/-- The destructor of an event: the process is terminated, or the event is gone. -/
theorem Sound.destroyEvent_whole {binding : Nat} (sound : Sound names id state)
    (running : state.ended = false) (whole : WholeMember names id state place name binding) :
    Keeps (EndedOr fun later => later = state.withoutEvent place name binding)
      (ProxyCall.destroyEvent place name) state := by
  have isBase : (state.member place name).bindingBase = some binding := by
    rw [whole.member]
  have proxyAlive : state.proxyAlive (state.parent binding) = true :=
    (sound.proxy place _ whole.parent).1
  have counted := sound.samples binding
  by_cases isUsed : state.availableSamples binding < state.maxNumSamples binding
  · constructor
    · exact sound.safe
    · have checked : state.execute (.checkTracker place name) = state.terminate := by
        simp [execute, running, whole.member, isUsed]
      have terminated : state.terminate.Safe :=
        ⟨sound.safe.faults, sound.safe.registered, sound.safe.traced⟩
      change Keeps _ _ (state.execute _)
      rw [checked]
      exact terminated.keeps_ended rfl (terminated.endedOr rfl) _
  · have notHeld : state.held binding = 0 := by
      omega
    let entries := (state.eventBindings (state.parent binding)).filter fun entry =>
      entry.1 != name
    let guard : RegistrationGuard Name := ⟨state.parent binding, binding, name⟩
    let expired := state.leavingEvent place name binding (some binding) (some guard)
      (state.eventBindings (state.parent binding))
    let unguarded := state.leavingEvent place name binding (some binding) none entries
    let untracked := state.leavingEvent place name binding none none entries
    have checked : state.execute (.checkTracker place name) = state := by
      simp [execute, running, whole.member, isUsed]
    have scopeEnds : state.execute (.endScope place name) = expired := by
      simp [expired, execute, running, endMember, endOwned, whole.member, setScope,
        ProxyState.expire, leavingEvent, guard, setMember]
    have guardEnds : expired.execute (.endGuard place name) = unguarded := by
      simp [expired, unguarded, execute, running, endMember, endOwned, setGuard, unregister,
        fault, proxyAlive, leavingEvent, guard, setMember, entries]
    have trackerEnds : unguarded.execute (.endTracker place name) = untracked := by
      simp [unguarded, untracked, execute, running, endMember, endOwned, setTracker,
        endSampleTracker, fault, notHeld, leavingEvent, setMember]
    -- what the map of the proxy binding has kept are other events
    have notRegistered : (entries.any fun entry => entry.2 == binding) = false := by
      rw [List.any_eq_false]
      intro entry isEntry isSame
      rw [List.mem_filter] at isEntry
      obtain ⟨other, hasBase⟩ := (sound.registered _ entry proxyAlive isEntry.1).1
      rw [eq_of_beq isSame] at hasBase
      have sameName := (sound.distinct other entry.1 place name binding hasBase isBase).2
      simp [sameName] at isEntry
    have baseEnds : untracked.execute (.endBindingBase place name) =
        state.withoutEvent place name binding := by
      simp [untracked, execute, running, endMember, endOwned, setBindingBase, endEventBinding,
        fault, proxyAlive, notRegistered, leavingEvent, setMember, entries,
        ProxyState.withoutEvent, EventMember.empty]
    have fewer : entries ⊆ state.eventBindings (state.parent binding) := List.filter_subset_self _
    refine ⟨sound.safe, ?_⟩
    change Keeps _ _ (state.execute _)
    rw [checked]
    refine ⟨sound.safe, ?_⟩
    change Keeps _ _ (state.execute _)
    rw [scopeEnds]
    refine ⟨sound.safe.leavingEvent isBase fun _ isEntry => isEntry, ?_⟩
    change Keeps _ _ (expired.execute _)
    rw [guardEnds]
    refine ⟨sound.safe.leavingEvent isBase fewer, ?_⟩
    change Keeps _ _ (unguarded.execute _)
    rw [trackerEnds]
    refine ⟨sound.safe.leavingEvent isBase fewer, ?_⟩
    change EndedOr _ (untracked.execute _)
    rw [baseEnds]
    exact ⟨(sound.withoutEvent whole).safe, fun _ => rfl⟩

/-- While the events of a proxy end. -/
structure Leaving (names : List Name) (place : Place) (remaining : List Name)
    (state : ProxyState Place Name) : Prop where
  running : state.ended = false
  sound : Sound names id state
  lives : state.constructed place = true
  gone : ∀ name, name ∉ remaining → state.member place name = .empty

theorem Leaving.destroyEvent {rest : List Name} (leaving : Leaving names place (name :: rest) state) :
    Keeps (EndedOr (Leaving names place rest)) (ProxyCall.destroyEvent place name) state := by
  have otherGone : ∀ other, other ∉ rest → other ≠ name → state.member place other = .empty := by
    intro other isGone different
    apply leaving.gone other
    rw [List.mem_cons, not_or]
    exact ⟨different, isGone⟩
  rcases leaving.sound.whole place name with isEmpty | ⟨binding, whole⟩
  · apply Guarded.of_fixed leaving.sound.safe
    · refine ⟨leaving.sound.safe, fun _ => ⟨leaving.running, leaving.sound, leaving.lives, ?_⟩⟩
      intro other isGone
      by_cases same : other = name
      · rw [same]
        exact isEmpty
      · exact otherGone other isGone same
    · exact destroyEvent_empty isEmpty
  · apply (leaving.sound.destroyEvent_whole leaving.running whole).mono
    rintro later ⟨safe, running⟩
    refine ⟨safe, fun isRunning => ?_⟩
    rw [running isRunning]
    refine ⟨leaving.running, leaving.sound.withoutEvent whole, leaving.lives, ?_⟩
    intro other isGone
    have memberOf : (state.withoutEvent place name binding).member place other =
        if place = place ∧ other = name then .empty else state.member place other :=
      member_setMember .empty place other
    rw [memberOf]
    split
    · rfl
    · rename_i different
      exact otherGone other isGone fun same => different ⟨rfl, same⟩

/-- The state without a proxy binding. -/
def withoutProxy (state : ProxyState Place Name) (place : Place) (proxyBinding : Nat) :
    ProxyState Place Name :=
  { state with
    proxyBinding := update state.proxyBinding place none
    proxyAlive := update state.proxyAlive proxyBinding false }

omit [DecidableEq Name] in
@[simp] theorem proxyBinding_withoutProxy (proxyBinding : Nat) :
    (state.withoutProxy place proxyBinding).proxyBinding =
      update state.proxyBinding place none := rfl

omit [DecidableEq Name] in
@[simp] theorem proxyAlive_withoutProxy (proxyBinding : Nat) :
    (state.withoutProxy place proxyBinding).proxyAlive =
      update state.proxyAlive proxyBinding false := rfl

omit [DecidableEq Name] in
theorem Sound.withoutProxy {proxyBinding : Nat} (sound : Sound names id state)
    (eventless : state.Eventless place) (isProxy : state.proxyBinding place = some proxyBinding) :
    Sound names id (state.withoutProxy place proxyBinding) := by
  -- proxy bindings that live now belong to other variables
  have others : ∀ other otherProxy,
      (state.withoutProxy place proxyBinding).proxyBinding other = some otherProxy →
        state.proxyBinding other = some otherProxy ∧ otherProxy ≠ proxyBinding := by
    intro other otherProxy isOther
    by_cases same : other = place
    · rw [proxyBinding_withoutProxy, same, update_self] at isOther
      cases isOther
    · rw [proxyBinding_withoutProxy, update_of_ne same] at isOther
      refine ⟨isOther, ?_⟩
      intro sameProxy
      rw [sameProxy] at isOther
      exact same (sound.unique other place proxyBinding isOther isProxy)
  have stillAlive : ∀ otherProxy,
      (state.withoutProxy place proxyBinding).proxyAlive otherProxy = true →
        state.proxyAlive otherProxy = true := by
    intro otherProxy alive
    by_cases same : otherProxy = proxyBinding
    · rw [proxyAlive_withoutProxy, same, update_self] at alive
      cases alive
    · rwa [proxyAlive_withoutProxy, update_of_ne same] at alive
  constructor
  · constructor
    · exact sound.safe.faults
    · intro otherProxy entry alive isEntry
      exact sound.safe.registered otherProxy entry (stillAlive otherProxy alive) isEntry
    · exact sound.safe.traced
  · intro other name
    rcases sound.whole other name with isEmpty | ⟨binding, whole⟩
    · exact .inl isEmpty
    · right
      refine ⟨binding, whole.member, whole.declared, ?_, whole.alive, whole.old, whole.registered⟩
      have different : other ≠ place := by
        intro same
        have hasMember := whole.member
        rw [same, eventless name] at hasMember
        cases hasMember
      rw [proxyBinding_withoutProxy, id, update_of_ne different]
      exact whole.parent
  · exact sound.distinct
  · intro other otherProxy isOther
    obtain ⟨wasOther, different⟩ := others other otherProxy isOther
    obtain ⟨alive, old⟩ := sound.proxy other otherProxy wasOther
    refine ⟨?_, old⟩
    rw [proxyAlive_withoutProxy, update_of_ne different]
    exact alive
  · intro one two otherProxy isOne isTwo
    exact sound.unique one two otherProxy (others one otherProxy isOne).1
      (others two otherProxy isTwo).1
  · intro otherProxy entry alive isEntry
    exact sound.registered otherProxy entry (stillAlive otherProxy alive) isEntry
  · exact sound.owned
  · intro other isUnborn
    obtain ⟨noProxy, noEvents⟩ := sound.unborn other isUnborn
    refine ⟨?_, noEvents⟩
    by_cases same : other = place
    · rw [same, proxyBinding_withoutProxy, update_self]
    · rw [proxyBinding_withoutProxy, update_of_ne same]
      exact noProxy
  · exact sound.samples

omit [DecidableEq Place] [DecidableEq Name] in
/-- The proxy binding of a variable without events has no event bindings. -/
theorem Sound.childless {proxyBinding : Nat} (sound : Sound names id state)
    (eventless : state.Eventless place) (isProxy : state.proxyBinding place = some proxyBinding) :
    ((List.range state.nextEvent).any fun binding =>
      state.eventAlive binding && state.parent binding == proxyBinding) = false := by
  rw [List.any_eq_false]
  intro binding isOld isChild
  rw [List.mem_range] at isOld
  rw [Bool.and_eq_true, beq_iff_eq] at isChild
  obtain ⟨other, name, hasBase⟩ := sound.owned binding isOld isChild.1
  rcases sound.whole other name with isEmpty | ⟨otherBinding, whole⟩
  · rw [isEmpty] at hasBase
    cases hasBase
  · have hasMember := whole.member
    rw [whole.member] at hasBase
    cases hasBase
    have isParent := whole.parent
    rw [isChild.2] at isParent
    have isPlace : other = place := sound.unique other place proxyBinding isParent isProxy
    rw [isPlace, eventless name] at hasMember
    cases hasMember

omit [DecidableEq Name] in
/-- The proxy binding of a variable without events ends. -/
theorem Sound.endProxyBinding (sound : Sound names id state) (eventless : state.Eventless place) :
    (state.proxyBinding place = none ∧ state.endProxyBinding place = state) ∨
      ∃ proxyBinding, state.proxyBinding place = some proxyBinding ∧
        state.endProxyBinding place = state.withoutProxy place proxyBinding := by
  cases isProxy : state.proxyBinding place with
  | none =>
      left
      refine ⟨rfl, ?_⟩
      rw [ProxyState.endProxyBinding, isProxy, ← isProxy, update_eq_self, isProxy]
      rfl
  | some proxyBinding =>
      right
      refine ⟨proxyBinding, rfl, ?_⟩
      rw [ProxyState.endProxyBinding, isProxy, endOwned, endProxy, fault_of_false]
      · rfl
      · exact sound.childless eventless isProxy

omit [DecidableEq Name] in
/-- The life of a variable begins, or ends once it owns nothing. -/
theorem Sound.setLife (sound : Sound names home state) (life : Bool)
    (vacant : life = false → state.Vacant place) :
    Sound names home { state with constructed := update state.constructed place life } := by
  constructor
  · constructor
    · exact sound.safe.faults
    · exact sound.safe.registered
    · intro binding tracingData alive isHandler
      have owns := sound.safe.traced binding tracingData alive isHandler
      rw [ownsHandler, Bool.and_eq_true] at owns ⊢
      refine ⟨?_, owns.2⟩
      dsimp only
      by_cases same : tracingData.1 = place
      · rw [same, update_self]
        cases life with
        | true => rfl
        | false =>
            rw [same, (vacant rfl).2 tracingData.2] at owns
            cases owns.2
      · rw [update_of_ne same]
        exact owns.1
  · intro other name
    rcases sound.whole other name with isEmpty | ⟨binding, whole⟩
    · exact .inl isEmpty
    · exact .inr ⟨binding, whole.member, whole.declared, whole.parent, whole.alive, whole.old,
        whole.registered⟩
  · exact sound.distinct
  · exact sound.proxy
  · exact sound.unique
  · exact sound.registered
  · exact sound.owned
  · intro other isUnborn
    dsimp only at isUnborn
    by_cases same : other = place
    · rw [same, update_self] at isUnborn
      rw [same]
      exact vacant isUnborn
    · rw [update_of_ne same] at isUnborn
      exact sound.unborn other isUnborn
  · exact sound.samples

/-- The destructor of a proxy. -/
theorem Sound.destroy (sound : Sound names id state) (running : state.ended = false)
    (lives : state.constructed place = true) :
    Keeps (Idle names) ((ProxyCall.destroy place).code names) state := by
  rw [ProxyCall.code]
  apply Guarded.append
  have leaving : EndedOr (Leaving names place names.reverse) state := by
    refine ⟨sound.safe, fun _ => ⟨running, sound, lives, ?_⟩⟩
    intro name undeclared
    rcases sound.whole place name with isEmpty | ⟨binding, whole⟩
    · exact isEmpty
    · exact absurd (List.mem_reverse.mpr whole.declared) undeclared
  have loop := Guarded.flatMap (fun command state => ProxyState.execute state command) Safe
    (ProxyCall.destroyEvent place)
    (fun remaining => EndedOr (Leaving names place remaining)) ?_ leaving
  · apply loop.mono
    rintro later ⟨safe, isLeaving⟩
    cases isEnded : later.ended with
    | true =>
        apply safe.keeps_ended isEnded
        exact safe.endedOr isEnded
    | false =>
        have left := isLeaving isEnded
        have eventless : later.Eventless place := fun name =>
          left.gone name List.not_mem_nil
        have executed : later.execute (.endProxyBinding place) = later.endProxyBinding place := by
          simp [execute, isEnded]
        refine ⟨safe, ?_⟩
        change Keeps _ _ (later.execute _)
        rw [executed]
        have lifeEnds : ∀ last : ProxyState Place Name, last.ended = false →
            Sound names id last → last.Vacant place → Keeps (Idle names) [.endLife place] last := by
          intro last isRunning lastSound vacant
          refine ⟨lastSound.safe, ?_⟩
          change Idle names (last.execute _)
          rw [execute, if_neg (Bool.eq_false_iff.mp isRunning)]
          exact (lastSound.setLife false fun _ => vacant).idle
        rcases left.sound.endProxyBinding eventless with
          ⟨noProxy, unchanged⟩ | ⟨proxyBinding, isProxy, ended⟩
        · rw [unchanged]
          exact lifeEnds later isEnded left.sound ⟨noProxy, eventless⟩
        · rw [ended]
          apply lifeEnds (later.withoutProxy place proxyBinding) isEnded
            (left.sound.withoutProxy eventless isProxy)
          refine ⟨?_, eventless⟩
          rw [proxyBinding_withoutProxy, update_self]
  · rintro name rest last ⟨safe, isLeaving⟩
    cases isEnded : last.ended with
    | true =>
        apply safe.keeps_ended isEnded
        exact safe.endedOr isEnded
    | false => exact (isLeaving isEnded).destroyEvent

end Destroyed

/-! ### Construction -/

section Constructed

variable [DecidableEq Place] [DecidableEq Name]

omit [DecidableEq Name] in
@[simp] theorem proxyBinding_createProxyBinding : (state.createProxyBinding place).proxyBinding =
      update state.proxyBinding place (some state.nextProxy) := rfl

omit [DecidableEq Name] in
@[simp] theorem proxyAlive_createProxyBinding : (state.createProxyBinding place).proxyAlive =
      update state.proxyAlive state.nextProxy true := rfl

omit [DecidableEq Name] in
@[simp] theorem eventBindings_createProxyBinding : (state.createProxyBinding place).eventBindings =
      update state.eventBindings state.nextProxy [] := rfl

omit [DecidableEq Name] in
theorem Sound.createProxyBinding (sound : Sound names id state)
    (lives : state.constructed place = true) (vacant : state.Vacant place) :
    Sound names id (state.createProxyBinding place) := by
  have entries : ∀ proxyBinding entry,
      (state.createProxyBinding place).proxyAlive proxyBinding = true →
        entry ∈ (state.createProxyBinding place).eventBindings proxyBinding →
          state.proxyAlive proxyBinding = true ∧ entry ∈ state.eventBindings proxyBinding := by
    intro proxyBinding entry alive isEntry
    by_cases same : proxyBinding = state.nextProxy
    · rw [eventBindings_createProxyBinding, same, update_self] at isEntry
      cases isEntry
    · rw [proxyAlive_createProxyBinding, update_of_ne same] at alive
      rw [eventBindings_createProxyBinding, update_of_ne same] at isEntry
      exact ⟨alive, isEntry⟩
  have proxies : ∀ other proxyBinding,
      (state.createProxyBinding place).proxyBinding other = some proxyBinding →
        (other = place ∧ proxyBinding = state.nextProxy) ∨
          (other ≠ place ∧ proxyBinding ≠ state.nextProxy ∧
            state.proxyBinding other = some proxyBinding) := by
    intro other proxyBinding isProxy
    by_cases same : other = place
    · rw [proxyBinding_createProxyBinding, same, update_self] at isProxy
      exact .inl ⟨same, (Option.some.inj isProxy).symm⟩
    · rw [proxyBinding_createProxyBinding, update_of_ne same] at isProxy
      exact .inr ⟨same, Nat.ne_of_lt (sound.proxy other proxyBinding isProxy).2, isProxy⟩
  constructor
  · constructor
    · exact sound.safe.faults
    · intro proxyBinding entry alive isEntry
      obtain ⟨wasAlive, wasEntry⟩ := entries proxyBinding entry alive isEntry
      exact sound.safe.registered proxyBinding entry wasAlive wasEntry
    · exact sound.safe.traced
  · intro other name
    rcases sound.whole other name with isEmpty | ⟨binding, whole⟩
    · exact .inl isEmpty
    · have different : other ≠ place := by
        intro same
        have hasMember := whole.member
        rw [same, vacant.2 name] at hasMember
        cases hasMember
      have isOld : state.parent binding ≠ state.nextProxy :=
        Nat.ne_of_lt (sound.proxy other _ whole.parent).2
      refine .inr ⟨binding, whole.member, whole.declared, ?_, whole.alive, whole.old, ?_⟩
      · rw [proxyBinding_createProxyBinding, id, update_of_ne different]
        exact whole.parent
      · rw [eventBindings_createProxyBinding]
        change _ ∈ update state.eventBindings state.nextProxy [] (state.parent binding)
        rw [update_of_ne isOld]
        exact whole.registered
  · exact sound.distinct
  · intro other proxyBinding isProxy
    rcases proxies other proxyBinding isProxy with ⟨_, isNew⟩ | ⟨_, isOld, wasProxy⟩
    · rw [isNew, proxyAlive_createProxyBinding, update_self]
      exact ⟨rfl, Nat.lt_succ_self _⟩
    · rw [proxyAlive_createProxyBinding, update_of_ne isOld]
      obtain ⟨alive, old⟩ := sound.proxy other proxyBinding wasProxy
      exact ⟨alive, Nat.lt_succ_of_lt old⟩
  · intro one two proxyBinding isOne isTwo
    rcases proxies one proxyBinding isOne with ⟨onePlace, oneNew⟩ | ⟨_, oneOld, wasOne⟩
    · rcases proxies two proxyBinding isTwo with ⟨twoPlace, _⟩ | ⟨_, twoOld, _⟩
      · rw [onePlace, twoPlace]
      · exact absurd oneNew twoOld
    · rcases proxies two proxyBinding isTwo with ⟨_, twoNew⟩ | ⟨_, _, wasTwo⟩
      · exact absurd twoNew oneOld
      · exact sound.unique one two proxyBinding wasOne wasTwo
  · intro proxyBinding entry alive isEntry
    obtain ⟨wasAlive, wasEntry⟩ := entries proxyBinding entry alive isEntry
    exact sound.registered proxyBinding entry wasAlive wasEntry
  · exact sound.owned
  · intro other isUnborn
    have different : other ≠ place := by
      intro same
      rw [same] at isUnborn
      exact absurd (lives.symm.trans isUnborn) Bool.noConfusion
    obtain ⟨noProxy, noEvents⟩ := sound.unborn other isUnborn
    refine ⟨?_, noEvents⟩
    rw [proxyBinding_createProxyBinding, update_of_ne different]
    exact noProxy
  · exact sound.samples

/-- The state with a new event. -/
def withEvent (state : ProxyState Place Name) (place : Place) (name : Name)
    (proxyBinding : Nat) : ProxyState Place Name :=
  { (state.createEventBinding place name).setMember place name
      ⟨some state.nextEvent, some state.nextEvent,
        some ⟨proxyBinding, state.nextEvent, name⟩, some state.nextEvent⟩ with
    eventBindings := update state.eventBindings proxyBinding
      ((name, state.nextEvent) :: state.eventBindings proxyBinding) }

section

variable {proxyBinding : Nat}

/-- What is created with an event binding. -/
theorem createEventBinding_eq (isProxy : state.proxyBinding place = some proxyBinding) :
    state.createEventBinding place name =
      { state.setMember place name
          ⟨some state.nextEvent, some state.nextEvent, none, some state.nextEvent⟩ with
        eventAlive := update state.eventAlive state.nextEvent true
        parent := update state.parent state.nextEvent proxyBinding
        subscribed := update state.subscribed state.nextEvent false
        availableSamples := update state.availableSamples state.nextEvent 0
        maxNumSamples := update state.maxNumSamples state.nextEvent 0
        held := update state.held state.nextEvent 0
        handler := update state.handler state.nextEvent none
        nextEvent := state.nextEvent + 1 } := by
  rw [createEventBinding, isProxy]

theorem withEvent_eq (isProxy : state.proxyBinding place = some proxyBinding) :
    state.withEvent place name proxyBinding =
      { state.setMember place name
          ⟨some state.nextEvent, some state.nextEvent,
            some ⟨proxyBinding, state.nextEvent, name⟩, some state.nextEvent⟩ with
        eventBindings := update state.eventBindings proxyBinding
          ((name, state.nextEvent) :: state.eventBindings proxyBinding)
        eventAlive := update state.eventAlive state.nextEvent true
        parent := update state.parent state.nextEvent proxyBinding
        subscribed := update state.subscribed state.nextEvent false
        availableSamples := update state.availableSamples state.nextEvent 0
        maxNumSamples := update state.maxNumSamples state.nextEvent 0
        held := update state.held state.nextEvent 0
        handler := update state.handler state.nextEvent none
        nextEvent := state.nextEvent + 1 } := by
  rw [withEvent, createEventBinding_eq isProxy]
  simp [setMember]

/-- The guard of a new event is registered, or the process is terminated. -/
theorem registerEventBinding_eq (isProxy : state.proxyBinding place = some proxyBinding) :
    (state.createEventBinding place name).registerEventBinding place name =
        (state.createEventBinding place name).terminate ∨
      (state.createEventBinding place name).registerEventBinding place name =
        state.withEvent place name proxyBinding := by
  have isThere : (state.createEventBinding place name).proxyBinding place = some proxyBinding := by
    rw [createEventBinding_eq isProxy]
    exact isProxy
  have hasMember : (state.createEventBinding place name).member place name =
      ⟨some state.nextEvent, some state.nextEvent, none, some state.nextEvent⟩ := by
    rw [createEventBinding_eq isProxy]
    exact member_setMember_self _
  have sameEntries : (state.createEventBinding place name).eventBindings = state.eventBindings := by
    rw [createEventBinding_eq isProxy]
    rfl
  rw [registerEventBinding, isThere, hasMember]
  dsimp only
  split
  · exact .inl rfl
  · right
    rw [withEvent, sameEntries]
    rfl

theorem Safe.createEventBinding (safe : state.Safe) (isEmpty : state.member place name = .empty) :
    (state.createEventBinding place name).Safe := by
  cases isProxy : state.proxyBinding place with
  | none =>
      rw [ProxyState.createEventBinding, isProxy]
      exact safe
  | some proxyBinding =>
      rw [createEventBinding_eq isProxy]
      constructor
      · exact safe.faults
      · intro otherProxy entry alive isEntry
        dsimp only
        by_cases same : entry.2 = state.nextEvent
        · rw [same, update_self]
        · rw [update_of_ne same]
          exact safe.registered otherProxy entry alive isEntry
      · intro binding tracingData alive isHandler
        dsimp only at alive isHandler
        by_cases same : binding = state.nextEvent
        · rw [same, update_self] at isHandler
          cases isHandler
        · rw [update_of_ne same] at alive isHandler
          have owns := safe.traced binding tracingData alive isHandler
          rw [ownsHandler, Bool.and_eq_true] at owns ⊢
          refine ⟨owns.1, ?_⟩
          dsimp only
          rw [member_setMember, if_neg]
          · exact owns.2
          · rintro ⟨isPlace, isName⟩
            rw [isPlace, isName, isEmpty] at owns
            cases owns.2

theorem Sound.withEvent (sound : Sound names id state) (lives : state.constructed place = true)
    (declared : name ∈ names) (isEmpty : state.member place name = .empty)
    (isProxy : state.proxyBinding place = some proxyBinding) :
    Sound names id (state.withEvent place name proxyBinding) := by
  have memberOf : ∀ other otherName, (state.withEvent place name proxyBinding).member other
      otherName = if other = place ∧ otherName = name then
          ⟨some state.nextEvent, some state.nextEvent,
            some ⟨proxyBinding, state.nextEvent, name⟩, some state.nextEvent⟩
        else state.member other otherName := by
    rw [withEvent_eq isProxy]
    exact member_setMember _
  have parentOf : (state.withEvent place name proxyBinding).parent =
      update state.parent state.nextEvent proxyBinding := by
    rw [withEvent_eq isProxy]
  have aliveOf : (state.withEvent place name proxyBinding).eventAlive =
      update state.eventAlive state.nextEvent true := by
    rw [withEvent_eq isProxy]
  have entriesOf : (state.withEvent place name proxyBinding).eventBindings =
      update state.eventBindings proxyBinding
        ((name, state.nextEvent) :: state.eventBindings proxyBinding) := by
    rw [withEvent_eq isProxy]
  have handlerOf : (state.withEvent place name proxyBinding).handler =
      update state.handler state.nextEvent none := by
    rw [withEvent_eq isProxy]
  have nextOf : (state.withEvent place name proxyBinding).nextEvent = state.nextEvent + 1 := by
    rw [withEvent_eq isProxy]
  have constructedOf : (state.withEvent place name proxyBinding).constructed =
      state.constructed := by
    rw [withEvent_eq isProxy]
    rfl
  have proxiesOf : (state.withEvent place name proxyBinding).proxyBinding = state.proxyBinding := by
    rw [withEvent_eq isProxy]
    rfl
  have proxyAliveOf : (state.withEvent place name proxyBinding).proxyAlive = state.proxyAlive := by
    rw [withEvent_eq isProxy]
    rfl
  -- event bindings that there were are older than the new one
  have old : ∀ other otherName binding, (state.member other otherName).bindingBase = some binding →
        binding ≠ state.nextEvent ∧ ¬(other = place ∧ otherName = name) := by
    intro other otherName binding hasBase
    constructor
    · rcases sound.whole other otherName with noMember | ⟨otherBinding, whole⟩
      · rw [noMember] at hasBase
        cases hasBase
      · rw [whole.member] at hasBase
        cases hasBase
        exact Nat.ne_of_lt whole.old
    · rintro ⟨samePlace, sameName⟩
      rw [samePlace, sameName, isEmpty] at hasBase
      cases hasBase
  have bases : ∀ other otherName binding,
      ((state.withEvent place name proxyBinding).member other otherName).bindingBase =
          some binding →
        (other = place ∧ otherName = name ∧ binding = state.nextEvent) ∨
          (state.member other otherName).bindingBase = some binding := by
    intro other otherName binding hasBase
    rw [memberOf] at hasBase
    split at hasBase
    · rename_i same
      exact .inl ⟨same.1, same.2, (Option.some.inj hasBase).symm⟩
    · exact .inr hasBase
  have keepsBase : ∀ other otherName binding,
      (state.member other otherName).bindingBase = some binding →
        ((state.withEvent place name proxyBinding).member other otherName).bindingBase =
          some binding := by
    intro other otherName binding hasBase
    rw [memberOf, if_neg (old other otherName binding hasBase).2]
    exact hasBase
  have newBase : ((state.withEvent place name proxyBinding).member place name).bindingBase =
      some state.nextEvent := by
    rw [memberOf, if_pos ⟨rfl, rfl⟩]
  have entries : ∀ otherProxy entry,
      entry ∈ (state.withEvent place name proxyBinding).eventBindings otherProxy →
        (otherProxy = proxyBinding ∧ entry = (name, state.nextEvent)) ∨
          entry ∈ state.eventBindings otherProxy := by
    intro otherProxy entry isEntry
    rw [entriesOf] at isEntry
    by_cases same : otherProxy = proxyBinding
    · rw [same, update_self, List.mem_cons] at isEntry
      rw [same]
      rcases isEntry with isNew | wasEntry
      · exact .inl ⟨rfl, isNew⟩
      · exact .inr wasEntry
    · rw [update_of_ne same] at isEntry
      exact .inr isEntry
  constructor
  · have created := sound.safe.createEventBinding isEmpty
    rw [createEventBinding_eq isProxy] at created
    constructor
    · rw [withEvent_eq isProxy]
      exact sound.safe.faults
    · intro otherProxy entry alive isEntry
      rw [aliveOf]
      rw [proxyAliveOf] at alive
      rcases entries otherProxy entry isEntry with ⟨_, isNew⟩ | wasEntry
      · rw [isNew, update_self]
      · exact created.registered otherProxy entry alive wasEntry
    · intro binding tracingData alive isHandler
      rw [aliveOf] at alive
      rw [handlerOf] at isHandler
      have owns := created.traced binding tracingData alive isHandler
      rw [ownsHandler, Bool.and_eq_true] at owns ⊢
      rw [constructedOf, memberOf]
      have sameBase := owns.2
      dsimp only at sameBase
      rw [member_setMember] at sameBase
      refine ⟨owns.1, ?_⟩
      split
      · rename_i same
        rwa [if_pos same] at sameBase
      · rename_i different
        rwa [if_neg different] at sameBase
  · intro other otherName
    rcases sound.whole other otherName with noMember | ⟨binding, whole⟩
    · by_cases same : other = place ∧ otherName = name
      · right
        refine ⟨state.nextEvent, ?_, ?_, ?_, ?_, ?_, ?_⟩
        · rw [memberOf, if_pos same, parentOf, update_self, same.2]
        · rw [same.2]
          exact declared
        · rw [proxiesOf, parentOf, update_self, same.1]
          exact isProxy
        · rw [aliveOf, update_self]
        · rw [nextOf]
          exact Nat.lt_succ_self _
        · rw [parentOf, update_self, entriesOf, update_self, same.2]
          exact List.mem_cons_self
      · left
        rw [memberOf, if_neg same]
        exact noMember
    · right
      have hasBase : (state.member other otherName).bindingBase = some binding := by
        rw [whole.member]
      obtain ⟨isOld, different⟩ := old other otherName binding hasBase
      have sameParent : (state.withEvent place name proxyBinding).parent binding =
          state.parent binding := by
        rw [parentOf, update_of_ne isOld]
      refine ⟨binding, ?_, whole.declared, ?_, ?_, ?_, ?_⟩
      · rw [memberOf, if_neg different, sameParent]
        exact whole.member
      · rw [proxiesOf, sameParent]
        exact whole.parent
      · rw [aliveOf, update_of_ne isOld]
        exact whole.alive
      · rw [nextOf]
        exact Nat.lt_succ_of_lt whole.old
      · rw [sameParent, entriesOf]
        by_cases isSame : state.parent binding = proxyBinding
        · have isEntry := whole.registered
          rw [isSame] at isEntry ⊢
          rw [update_self]
          exact List.mem_cons_of_mem _ isEntry
        · rw [update_of_ne isSame]
          exact whole.registered
  · intro one oneName two twoName binding hasOne hasTwo
    rcases bases one oneName binding hasOne with ⟨onePlace, isOneName, oneNew⟩ | wasOne
    · rcases bases two twoName binding hasTwo with ⟨twoPlace, isTwoName, _⟩ | wasTwo
      · rw [onePlace, isOneName, twoPlace, isTwoName]
        exact ⟨rfl, rfl⟩
      · exact absurd oneNew (old two twoName binding wasTwo).1
    · rcases bases two twoName binding hasTwo with ⟨_, _, twoNew⟩ | wasTwo
      · exact absurd twoNew (old one oneName binding wasOne).1
      · exact sound.distinct one oneName two twoName binding wasOne wasTwo
  · rw [proxiesOf, proxyAliveOf]
    rw [show (state.withEvent place name proxyBinding).nextProxy = state.nextProxy by
      rw [withEvent_eq isProxy]; rfl]
    exact sound.proxy
  · rw [proxiesOf]
    exact sound.unique
  · intro otherProxy entry alive isEntry
    rw [proxyAliveOf] at alive
    rcases entries otherProxy entry isEntry with ⟨sameProxy, isNew⟩ | wasEntry
    · rw [isNew, sameProxy, parentOf, update_self]
      exact ⟨⟨place, newBase⟩, rfl⟩
    · obtain ⟨⟨other, hasBase⟩, isParent⟩ := sound.registered otherProxy entry alive wasEntry
      refine ⟨⟨other, keepsBase other entry.1 entry.2 hasBase⟩, ?_⟩
      rw [parentOf, update_of_ne (old other entry.1 entry.2 hasBase).1]
      exact isParent
  · intro binding isOld alive
    rw [nextOf] at isOld
    rw [aliveOf] at alive
    by_cases same : binding = state.nextEvent
    · rw [same]
      exact ⟨place, name, newBase⟩
    · rw [update_of_ne same] at alive
      obtain ⟨other, otherName, hasBase⟩ := sound.owned binding (by omega) alive
      exact ⟨other, otherName, keepsBase other otherName binding hasBase⟩
  · intro other isUnborn
    rw [constructedOf] at isUnborn
    obtain ⟨noProxy, noEvents⟩ := sound.unborn other isUnborn
    rw [Vacant, proxiesOf]
    refine ⟨noProxy, ?_⟩
    intro otherName
    rw [memberOf, if_neg]
    · exact noEvents otherName
    · rintro ⟨samePlace, _⟩
      rw [samePlace, lives] at isUnborn
      cases isUnborn
  · intro tracker
    rw [withEvent_eq isProxy]
    dsimp only
    by_cases same : tracker = state.nextEvent
    · rw [same]
      simp
    · simp only [update_of_ne same]
      exact sound.samples tracker

end

/-- While the events of a proxy are created. -/
structure Arriving (names : List Name) (place : Place) (remaining : List Name)
    (state : ProxyState Place Name) : Prop where
  running : state.ended = false
  sound : Sound names id state
  lives : state.constructed place = true
  hasProxy : ∃ proxyBinding, state.proxyBinding place = some proxyBinding
  absent : ∀ name ∈ remaining, state.member place name = .empty
  nodup : remaining.Nodup
  declared : remaining ⊆ names

theorem Arriving.constructEvent {rest : List Name} (missing : Name → Bool)
    (arriving : Arriving names place (name :: rest) state) :
    Keeps (EndedOr (Arriving names place rest)) (ProxyCall.constructEvent place missing name)
      state := by
  have isEmpty := arriving.absent name List.mem_cons_self
  have declared := arriving.declared List.mem_cons_self
  have restAbsent : ∀ other ∈ rest, other ≠ name ∧ state.member place other = .empty := by
    intro other isRest
    refine ⟨?_, arriving.absent other (List.mem_cons_of_mem _ isRest)⟩
    intro same
    rw [same] at isRest
    exact (List.nodup_cons.mp arriving.nodup).1 isRest
  have restNodup := (List.nodup_cons.mp arriving.nodup).2
  have restDeclared : rest ⊆ names := fun _ isRest =>
    arriving.declared (List.mem_cons_of_mem _ isRest)
  obtain ⟨proxyBinding, isProxy⟩ := arriving.hasProxy
  rw [ProxyCall.constructEvent]
  split
  · exact ⟨arriving.sound.safe, fun _ => ⟨arriving.running, arriving.sound, arriving.lives,
      ⟨proxyBinding, isProxy⟩, fun other isRest => (restAbsent other isRest).2, restNodup,
      restDeclared⟩⟩
  · have isRunning : (state.createEventBinding place name).ended = false := by
      rw [createEventBinding_eq isProxy]
      exact arriving.running
    have created : state.execute (.createEventBinding place name) =
        state.createEventBinding place name := by
      rw [execute, if_neg (Bool.eq_false_iff.mp arriving.running)]
    have registered : (state.createEventBinding place name).execute
        (.registerEventBinding place name) =
          (state.createEventBinding place name).registerEventBinding place name := by
      rw [execute, if_neg (Bool.eq_false_iff.mp isRunning)]
    have createdSafe := arriving.sound.safe.createEventBinding isEmpty
    refine ⟨arriving.sound.safe, ?_⟩
    change Keeps _ _ (state.execute _)
    rw [created]
    refine ⟨createdSafe, ?_⟩
    change EndedOr _ ((state.createEventBinding place name).execute _)
    rw [registered]
    rcases registerEventBinding_eq isProxy with isTerminated | isRegistered
    · rw [isTerminated]
      exact Safe.endedOr ⟨createdSafe.faults, createdSafe.registered, createdSafe.traced⟩ rfl
    · rw [isRegistered]
      have sound := arriving.sound.withEvent arriving.lives declared isEmpty isProxy
      refine ⟨sound.safe, fun _ => ?_⟩
      constructor
      · rw [withEvent_eq isProxy]
        exact arriving.running
      · exact sound
      · rw [withEvent_eq isProxy]
        exact arriving.lives
      · refine ⟨proxyBinding, ?_⟩
        rw [withEvent_eq isProxy]
        exact isProxy
      · intro other isRest
        obtain ⟨different, noMember⟩ := restAbsent other isRest
        rw [withEvent_eq isProxy]
        dsimp only
        rw [member_setMember, if_neg]
        · exact noMember
        · exact fun same => different same.2
      · exact restNodup
      · exact restDeclared

/-- The constructor of a proxy. -/
theorem Sound.construct (nodup : names.Nodup) (missing : Name → Bool)
    (sound : Sound names id state) (running : state.ended = false)
    (isUnborn : state.constructed place = false) :
    Keeps (Idle names) ((ProxyCall.construct place missing).code names) state := by
  have vacant := sound.unborn place isUnborn
  let born : ProxyState Place Name :=
    { state with constructed := update state.constructed place true }
  have bornSound : Sound names id born := sound.setLife true (by simp)
  have lives : born.constructed place = true := update_self ..
  have begins : state.execute (.beginLife place) = born := by
    rw [execute, if_neg (Bool.eq_false_iff.mp running)]
  have creates : born.execute (.createProxyBinding place) = born.createProxyBinding place := by
    rw [execute, if_neg (Bool.eq_false_iff.mp running)]
  have arriving : EndedOr (Arriving names place names) (born.createProxyBinding place) := by
    have createdSound := bornSound.createProxyBinding lives vacant
    refine ⟨createdSound.safe, fun _ => ⟨running, createdSound, lives, ⟨born.nextProxy, ?_⟩, ?_,
      nodup, fun _ isName => isName⟩⟩
    · rw [proxyBinding_createProxyBinding, update_self]
    · intro name _
      exact vacant.2 name
  rw [ProxyCall.code]
  refine ⟨sound.safe, ?_⟩
  change Keeps _ _ (state.execute _)
  rw [begins]
  refine ⟨bornSound.safe, ?_⟩
  change Keeps _ _ (born.execute _)
  rw [creates]
  have loop := Guarded.flatMap (fun command state => ProxyState.execute state command) Safe
    (ProxyCall.constructEvent place missing)
    (fun remaining => EndedOr (Arriving names place remaining)) ?_ arriving
  · apply loop.mono
    rintro later ⟨safe, isArriving⟩
    exact ⟨safe, fun isRunning => (isArriving isRunning).sound⟩
  · rintro name rest last ⟨safe, isArriving⟩
    cases isEnded : last.ended with
    | true =>
        apply safe.keeps_ended isEnded
        exact safe.endedOr isEnded
    | false => exact (isArriving isEnded).constructEvent missing

end Constructed

end ProxyState

end MwCom.ProxyMoves
