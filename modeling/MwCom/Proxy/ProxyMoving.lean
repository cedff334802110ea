/-
Module: MwCom.Proxy.ProxyMoving
Purpose: Moves of proxies member by member, to themselves and to variables whose events own
  nothing.
Trusted boundary: none
Main exports: Sound.moveProxy, moveProxy_self
-/
import MwCom.Proxy.ProxyOwnership

namespace MwCom.ProxyMoves.ProxyState

open Interleaving
open Function (update_of_ne update_self)

variable {Place Name : Type} [DecidableEq Place] [DecidableEq Name] {names : List Name}
  {state : ProxyState Place Name} {place source : Place} {name : Name}

/-- A member is moved to where it is. -/
theorem takeMember_self {Owned : Type} {get : EventMember Name → Option Owned}
    {set : EventMember Name → Option Owned → EventMember Name}
    {endObject : ProxyState Place Name → Owned → ProxyState Place Name}
    (getSet : ∀ member owned, get (set member owned) = owned)
    (setSet : ∀ member one two, set (set member one) two = set member two)
    (setGet : ∀ member, set member (get member) = member) :
    state.takeMember get set endObject place place name = state := by
  rw [takeMember]
  simp only [member_setMember_self, getSet, setSet, setGet, setMember_setMember, setMember_self]
  rfl

/-- A member that owns nothing is moved to one that owns nothing. -/
theorem takeMember_none {Owned : Type} {get : EventMember Name → Option Owned}
    {set : EventMember Name → Option Owned → EventMember Name}
    {endObject : ProxyState Place Name → Owned → ProxyState Place Name}
    (sourceNone : get (state.member source name) = none)
    (sourceSet : set (state.member source name) none = state.member source name)
    (targetNone : get (state.member place name) = none)
    (targetSet : set (state.member place name) none = state.member place name) :
    state.takeMember get set endObject place source name = state := by
  rw [takeMember]
  simp only [sourceSet, setMember_self, sourceNone, targetSet, targetNone]
  rfl

omit [DecidableEq Name] in
theorem takeProxyBinding_self : state.takeProxyBinding place place = state := by
  simp [takeProxyBinding, endOwned]

/-- A proxy that is assigned to itself stays as it is. -/
theorem moveProxy_self (command : Command Place Name)
    (isCommand : command ∈ ProxyCall.moveProxy names place place) :
    state.execute command = state := by
  cases isEnded : state.ended with
  | true => exact execute_ended isEnded command
  | false =>
      simp only [ProxyCall.moveProxy, ProxyCall.moveEvent, List.mem_cons, List.mem_flatMap,
        List.not_mem_nil, or_false] at isCommand
      rcases isCommand with rfl | ⟨name, _, rfl | rfl | rfl | rfl⟩
      all_goals rw [execute, if_neg (Bool.eq_false_iff.mp isEnded)]
      · exact takeProxyBinding_self
      all_goals
        apply takeMember_self
        · intro member owned
          rfl
        · intro member one two
          rfl
        · intro member
          rfl

/-- An event that owns nothing is moved to one that owns nothing. -/
theorem moveEvent_empty (sourceEmpty : state.member source name = .empty)
    (targetEmpty : state.member place name = .empty) (command : Command Place Name)
    (isCommand : command ∈ ProxyCall.moveEvent place source name) :
    state.execute command = state := by
  cases isEnded : state.ended with
  | true => exact execute_ended isEnded command
  | false =>
      simp only [ProxyCall.moveEvent, List.mem_cons, List.not_mem_nil, or_false] at isCommand
      rcases isCommand with rfl | rfl | rfl | rfl
      all_goals rw [execute, if_neg (Bool.eq_false_iff.mp isEnded)]
      all_goals
        apply takeMember_none
        · rw [sourceEmpty]
          rfl
        · rw [sourceEmpty]
          rfl
        · rw [targetEmpty]
          rfl
        · rw [targetEmpty]
          rfl

/-- While an event is moved: what is left at the source, and what the target has got. -/
def movingEvent (state : ProxyState Place Name) (place source : Place) (name : Name)
    (left got : EventMember Name) : ProxyState Place Name :=
  (state.setMember source name left).setMember place name got

theorem member_movingEvent (left got : EventMember Name) (other : Place) (otherName : Name) :
    (state.movingEvent place source name left got).member other otherName =
      if other = place ∧ otherName = name then got
      else if other = source ∧ otherName = name then left
      else state.member other otherName := by
  rw [movingEvent, member_setMember, member_setMember]

/-- Members that are given twice. -/
theorem setMember_movingEvent (different : place ≠ source)
    (left got newLeft newGot : EventMember Name) :
    ((state.movingEvent place source name left got).setMember source name newLeft).setMember place
        name newGot =
      state.movingEvent place source name newLeft newGot := by
  simp only [movingEvent, setMember, mk.injEq, and_true, true_and]
  funext other otherName
  by_cases isPlace : other = place
  · simp [isPlace, different, Function.update]
  · by_cases isSource : other = source
    · simp [isSource, Ne.symm different, Function.update]
    · simp [isPlace, isSource, Function.update]

/-- One member of an event is moved, and the target has had none. -/
theorem takeMember_movingEvent {Owned : Type} {get : EventMember Name → Option Owned}
    {set : EventMember Name → Option Owned → EventMember Name}
    {endObject : ProxyState Place Name → Owned → ProxyState Place Name} (different : place ≠ source)
    {left got : EventMember Name} (none : get got = none) :
    (state.movingEvent place source name left got).takeMember get set endObject place source name =
      state.movingEvent place source name (set left .none) (set got (get left)) := by
  have isSource : (state.movingEvent place source name left got).member source name = left := by
    rw [member_movingEvent, if_neg fun same => different same.1.symm, if_pos ⟨rfl, rfl⟩]
  have isTarget : ((state.movingEvent place source name left got).setMember source name
      (set left .none)).member place name = got := by
    rw [member_setMember, if_neg fun same => different same.1, member_movingEvent,
      if_pos ⟨rfl, rfl⟩]
  rw [takeMember, isSource, isTarget, none]
  exact setMember_movingEvent different left got _ _

/-- While an event is moved whose receive handler is not traced, nothing can do harm. -/
theorem Safe.movingEvent {binding : Nat} (safe : state.Safe)
    (isBase : (state.member source name).bindingBase = some binding)
    (targetNone : (state.member place name).bindingBase = none)
    (notTraced : ∀ tracingData, state.handler binding ≠ some (some tracingData))
    (left got : EventMember Name) : (state.movingEvent place source name left got).Safe := by
  constructor
  · exact safe.faults
  · exact safe.registered
  · intro other tracingData alive isHandler
    have owns := safe.traced other tracingData alive isHandler
    rw [ownsHandler, Bool.and_eq_true] at owns ⊢
    refine ⟨owns.1, ?_⟩
    rw [member_movingEvent, if_neg, if_neg]
    · exact owns.2
    · rintro ⟨isSource, isName⟩
      have hasBase := eq_of_beq owns.2
      rw [isSource, isName, isBase] at hasBase
      cases hasBase
      exact notTraced tracingData isHandler
    · rintro ⟨isPlace, isName⟩
      rw [isPlace, isName, targetNone] at owns
      cases owns.2

/-- Where the proxy binding of a variable is while a proxy is moved. -/
def movedHome (place source : Place) : Place → Place := Function.update id source place

omit [DecidableEq Name] in
theorem movedHome_source : movedHome place source source = place := update_self ..

omit [DecidableEq Name] in
theorem movedHome_of_ne {other : Place} (different : other ≠ source) :
    movedHome place source other = other :=
  update_of_ne different ..

theorem Sound.movedEvent {binding : Nat} (different : place ≠ source)
    (sound : Sound names (movedHome place source) state) (lives : state.constructed place = true)
    (whole : WholeMember names (movedHome place source) state source name binding)
    (targetEmpty : state.member place name = .empty)
    (notTraced : ∀ tracingData, state.handler binding ≠ some (some tracingData)) :
    Sound names (movedHome place source)
      (state.movingEvent place source name .empty (state.member source name)) := by
  have isBase : (state.member source name).bindingBase = some binding := by
    rw [whole.member]
  have targetNone : (state.member place name).bindingBase = none := by
    rw [targetEmpty]
    rfl
  have isParent : state.proxyBinding place = some (state.parent binding) := by
    have hasParent := whole.parent
    rwa [movedHome_source] at hasParent
  -- where an event binding is now, and where it has been
  have bases : ∀ other otherName otherBinding,
      ((state.movingEvent place source name .empty (state.member source name)).member other
        otherName).bindingBase = some otherBinding →
          (other = place ∧ otherName = name ∧ otherBinding = binding) ∨
            (¬(other = source ∧ otherName = name) ∧
              (state.member other otherName).bindingBase = some otherBinding) := by
    intro other otherName otherBinding hasBase
    rw [member_movingEvent] at hasBase
    split at hasBase
    · rename_i same
      rw [isBase] at hasBase
      exact .inl ⟨same.1, same.2, (Option.some.inj hasBase).symm⟩
    · split at hasBase
      · cases hasBase
      · rename_i isOther
        exact .inr ⟨isOther, hasBase⟩
  have keepsBase : ∀ other otherName otherBinding,
      (state.member other otherName).bindingBase = some otherBinding → ∃ later,
        ((state.movingEvent place source name .empty (state.member source name)).member later
          otherName).bindingBase = some otherBinding := by
    intro other otherName otherBinding hasBase
    by_cases isSource : other = source ∧ otherName = name
    · refine ⟨place, ?_⟩
      rw [member_movingEvent, if_pos ⟨rfl, isSource.2⟩, ← isSource.1, ← isSource.2]
      exact hasBase
    · refine ⟨other, ?_⟩
      rw [member_movingEvent, if_neg, if_neg isSource]
      · exact hasBase
      · rintro ⟨isPlace, isName⟩
        rw [isPlace, isName, targetNone] at hasBase
        cases hasBase
  constructor
  · exact sound.safe.movingEvent isBase targetNone notTraced _ _
  · intro other otherName
    by_cases isPlace : other = place ∧ otherName = name
    · right
      refine ⟨binding, ?_, ?_, ?_, whole.alive, whole.old, ?_⟩
      · rw [member_movingEvent, if_pos isPlace, isPlace.2]
        exact whole.member
      · rw [isPlace.2]
        exact whole.declared
      · rw [isPlace.1, movedHome_of_ne different]
        exact isParent
      · rw [isPlace.2]
        exact whole.registered
    · rcases sound.whole other otherName with isEmpty | ⟨otherBinding, otherWhole⟩
      · left
        rw [member_movingEvent, if_neg isPlace, isEmpty, ite_self]
      · by_cases isSource : other = source ∧ otherName = name
        · left
          rw [member_movingEvent, if_neg isPlace, if_pos isSource]
        · right
          refine ⟨otherBinding, ?_, otherWhole.declared, otherWhole.parent, otherWhole.alive,
            otherWhole.old, otherWhole.registered⟩
          rw [member_movingEvent, if_neg isPlace, if_neg isSource]
          exact otherWhole.member
  · intro one oneName two twoName otherBinding hasOne hasTwo
    rcases bases one oneName otherBinding hasOne with ⟨onePlace, isOneName, isOne⟩ | ⟨notOne, wasOne⟩
    · rcases bases two twoName otherBinding hasTwo with
        ⟨twoPlace, isTwoName, _⟩ | ⟨notTwo, wasTwo⟩
      · rw [onePlace, isOneName, twoPlace, isTwoName]
        exact ⟨rfl, rfl⟩
      · rw [isOne] at wasTwo
        exact absurd (sound.distinct two twoName source name binding wasTwo isBase) notTwo
    · rcases bases two twoName otherBinding hasTwo with ⟨_, _, isTwo⟩ | ⟨_, wasTwo⟩
      · rw [isTwo] at wasOne
        exact absurd (sound.distinct one oneName source name binding wasOne isBase) notOne
      · exact sound.distinct one oneName two twoName otherBinding wasOne wasTwo
  · exact sound.proxy
  · exact sound.unique
  · intro proxyBinding entry alive isEntry
    obtain ⟨⟨other, hasBase⟩, isChild⟩ := sound.registered proxyBinding entry alive isEntry
    exact ⟨keepsBase other entry.1 entry.2 hasBase, isChild⟩
  · intro otherBinding isOld alive
    obtain ⟨other, otherName, hasBase⟩ := sound.owned otherBinding isOld alive
    obtain ⟨later, isLater⟩ := keepsBase other otherName otherBinding hasBase
    exact ⟨later, otherName, isLater⟩
  · intro other isUnborn
    obtain ⟨noProxy, noEvents⟩ := sound.unborn other isUnborn
    refine ⟨noProxy, ?_⟩
    intro otherName
    rw [member_movingEvent, noEvents otherName, if_neg, ite_self]
    rintro ⟨isPlace, _⟩
    change state.constructed other = false at isUnborn
    rw [isPlace, lives] at isUnborn
    cases isUnborn
  · exact sound.samples

/-- While the events of a proxy are moved. -/
structure Moving (names : List Name) (place source : Place) (remaining : List Name)
    (state : ProxyState Place Name) : Prop where
  running : state.ended = false
  sound : Sound names (movedHome place source) state
  lives : state.constructed place = true
  notTraced : state.NotTraced source
  absent : ∀ name ∈ remaining, state.member place name = .empty
  moved : ∀ name, name ∉ remaining → state.member source name = .empty
  nodup : remaining.Nodup

theorem Moving.moveEvent {rest : List Name} (different : place ≠ source)
    (moving : Moving names place source (name :: rest) state) :
    Keeps (Moving names place source rest) (ProxyCall.moveEvent place source name) state := by
  have targetEmpty := moving.absent name List.mem_cons_self
  have targetNone : (state.member place name).bindingBase = none := by
    rw [targetEmpty]
    rfl
  have restNodup := (List.nodup_cons.mp moving.nodup).2
  have restAbsent : ∀ other ∈ rest, other ≠ name ∧ state.member place other = .empty := by
    intro other isRest
    refine ⟨?_, moving.absent other (List.mem_cons_of_mem _ isRest)⟩
    intro same
    rw [same] at isRest
    exact (List.nodup_cons.mp moving.nodup).1 isRest
  have otherMoved : ∀ other, other ∉ rest → other ≠ name → state.member source other = .empty := by
    intro other isMoved isOther
    apply moving.moved other
    rw [List.mem_cons, not_or]
    exact ⟨isOther, isMoved⟩
  rcases moving.sound.whole source name with isEmpty | ⟨binding, whole⟩
  · apply Guarded.of_fixed moving.sound.safe
    · refine ⟨moving.running, moving.sound, moving.lives, moving.notTraced,
        fun other isRest => (restAbsent other isRest).2, ?_, restNodup⟩
      intro other isMoved
      by_cases same : other = name
      · rw [same]
        exact isEmpty
      · exact otherMoved other isMoved same
    · exact moveEvent_empty isEmpty targetEmpty
  · have isBase : (state.member source name).bindingBase = some binding := by
      rw [whole.member]
    have notTraced := moving.notTraced name binding isBase
    have safe := moving.sound.safe.movingEvent isBase targetNone notTraced
    let guard : RegistrationGuard Name := ⟨state.parent binding, binding, name⟩
    let moved (left got : EventMember Name) : ProxyState Place Name :=
      state.movingEvent place source name left got
    have running : ∀ left got, ¬(moved left got).ended = true := fun _ _ =>
      Bool.eq_false_iff.mp moving.running
    have unmoved : state = moved ⟨some binding, some binding, some guard, some binding⟩ .empty := by
      change state = state.movingEvent place source name _ _
      rw [← whole.member, movingEvent, setMember_self, ← targetEmpty, setMember_self]
    have base : (moved ⟨some binding, some binding, some guard, some binding⟩ .empty).execute
        (.takeBindingBase place source name) = moved ⟨none, some binding, some guard, some binding⟩
            ⟨some binding, none, none, none⟩ := by
      rw [execute, if_neg (running _ _)]
      exact takeMember_movingEvent different rfl
    have tracker : (moved ⟨none, some binding, some guard, some binding⟩
        ⟨some binding, none, none, none⟩).execute (.takeTracker place source name) =
          moved ⟨none, none, some guard, some binding⟩
            ⟨some binding, some binding, none, none⟩ := by
      rw [execute, if_neg (running _ _)]
      exact takeMember_movingEvent different rfl
    have registration : (moved ⟨none, none, some guard, some binding⟩
        ⟨some binding, some binding, none, none⟩).execute (.takeGuard place source name) =
          moved ⟨none, none, none, some binding⟩
            ⟨some binding, some binding, some guard, none⟩ := by
      rw [execute, if_neg (running _ _)]
      exact takeMember_movingEvent different rfl
    have scope : (moved ⟨none, none, none, some binding⟩
        ⟨some binding, some binding, some guard, none⟩).execute (.takeScope place source name) =
          moved .empty ⟨some binding, some binding, some guard, some binding⟩ := by
      rw [execute, if_neg (running _ _)]
      exact takeMember_movingEvent different rfl
    refine ⟨moving.sound.safe, ?_⟩
    change Keeps _ _ (state.execute _)
    rw [unmoved, base]
    refine ⟨safe _ _, ?_⟩
    change Keeps _ _ ((moved _ _).execute _)
    rw [tracker]
    refine ⟨safe _ _, ?_⟩
    change Keeps _ _ ((moved _ _).execute _)
    rw [registration]
    refine ⟨safe _ _, ?_⟩
    change Moving _ _ _ _ ((moved _ _).execute _)
    rw [scope]
    have sound := moving.sound.movedEvent different moving.lives whole targetEmpty notTraced
    rw [whole.member] at sound
    refine ⟨moving.running, sound, moving.lives, ?_, ?_, ?_, restNodup⟩
    · intro otherName otherBinding hasBase
      change ((state.movingEvent place source name _ _).member source otherName).bindingBase =
        some otherBinding at hasBase
      rw [member_movingEvent, if_neg fun same => different same.1.symm] at hasBase
      split at hasBase
      · cases hasBase
      · exact moving.notTraced otherName otherBinding hasBase
    · intro other isRest
      obtain ⟨isOther, noMember⟩ := restAbsent other isRest
      change (state.movingEvent place source name _ _).member place other = .empty
      rw [member_movingEvent, if_neg fun same => isOther same.2, if_neg fun same => isOther same.2]
      exact noMember
    · intro other isMoved
      change (state.movingEvent place source name _ _).member source other = .empty
      rw [member_movingEvent, if_neg fun same => different same.1.symm]
      split
      · rfl
      · rename_i isOther
        exact otherMoved other isMoved fun same => isOther ⟨rfl, same⟩

/-- The state after a proxy binding has been moved to a variable without one. -/
def withMovedProxy (state : ProxyState Place Name) (place source : Place) : ProxyState Place Name :=
  { state with
    proxyBinding := Function.update (Function.update state.proxyBinding source none) place
      (state.proxyBinding source) }

omit [DecidableEq Name] in
theorem Sound.withMovedProxy (different : place ≠ source) (sound : Sound names id state)
    (vacant : state.Vacant place) (lives : state.constructed place = true) :
    Sound names (movedHome place source) (state.withMovedProxy place source) := by
  have placeProxy : (state.withMovedProxy place source).proxyBinding place =
      state.proxyBinding source :=
    update_self ..
  have sourceProxy : (state.withMovedProxy place source).proxyBinding source = none := by
    rw [ProxyState.withMovedProxy]
    dsimp only
    rw [update_of_ne different.symm, update_self]
  have otherProxy : ∀ other, other ≠ place → other ≠ source →
      (state.withMovedProxy place source).proxyBinding other = state.proxyBinding other := by
    intro other notPlace notSource
    rw [ProxyState.withMovedProxy]
    dsimp only
    rw [update_of_ne notPlace, update_of_ne notSource]
  -- every proxy binding has been somewhere
  have proxies : ∀ other proxyBinding,
      (state.withMovedProxy place source).proxyBinding other = some proxyBinding →
        (other = place ∧ state.proxyBinding source = some proxyBinding) ∨
          (other ≠ source ∧ state.proxyBinding other = some proxyBinding) := by
    intro other proxyBinding isProxy
    by_cases isPlace : other = place
    · rw [isPlace, placeProxy] at isProxy
      exact .inl ⟨isPlace, isProxy⟩
    · by_cases isSource : other = source
      · rw [isSource, sourceProxy] at isProxy
        cases isProxy
      · rw [otherProxy other isPlace isSource] at isProxy
        exact .inr ⟨isSource, isProxy⟩
  constructor
  · exact ⟨sound.safe.faults, sound.safe.registered, sound.safe.traced⟩
  · intro other name
    rcases sound.whole other name with isEmpty | ⟨binding, whole⟩
    · exact .inl isEmpty
    · right
      refine ⟨binding, whole.member, whole.declared, ?_, whole.alive, whole.old, whole.registered⟩
      have notPlace : other ≠ place := by
        intro same
        have hasMember := whole.member
        rw [same, vacant.2 name] at hasMember
        cases hasMember
      by_cases isSource : other = source
      · rw [isSource, movedHome_source, placeProxy]
        have isParent := whole.parent
        rw [isSource] at isParent
        exact isParent
      · rw [movedHome_of_ne isSource, otherProxy other notPlace isSource]
        exact whole.parent
  · exact sound.distinct
  · intro other proxyBinding isProxy
    rcases proxies other proxyBinding isProxy with ⟨_, wasProxy⟩ | ⟨_, wasProxy⟩
    · exact sound.proxy source proxyBinding wasProxy
    · exact sound.proxy other proxyBinding wasProxy
  · intro one two proxyBinding isOne isTwo
    rcases proxies one proxyBinding isOne with ⟨onePlace, wasOne⟩ | ⟨oneOther, wasOne⟩
    · rcases proxies two proxyBinding isTwo with ⟨twoPlace, _⟩ | ⟨twoOther, wasTwo⟩
      · rw [onePlace, twoPlace]
      · exact absurd (sound.unique two source proxyBinding wasTwo wasOne) twoOther
    · rcases proxies two proxyBinding isTwo with ⟨_, wasTwo⟩ | ⟨_, wasTwo⟩
      · exact absurd (sound.unique one source proxyBinding wasOne wasTwo) oneOther
      · exact sound.unique one two proxyBinding wasOne wasTwo
  · exact sound.registered
  · exact sound.owned
  · intro other isUnborn
    obtain ⟨noProxy, noEvents⟩ := sound.unborn other isUnborn
    refine ⟨?_, noEvents⟩
    have notPlace : other ≠ place := by
      intro same
      change state.constructed other = false at isUnborn
      rw [same, lives] at isUnborn
      cases isUnborn
    by_cases isSource : other = source
    · rw [isSource, sourceProxy]
    · rw [otherProxy other notPlace isSource]
      exact noProxy
  · exact sound.samples

omit [DecidableEq Name] in
/-- The base of a proxy is moved to a variable without events, whose proxy binding ends. -/
theorem Sound.takeProxyBinding (different : place ≠ source) (sound : Sound names id state)
    (eventless : state.Eventless place) :
    state.takeProxyBinding place source =
      (state.endProxyBinding place).withMovedProxy place source := by
  cases isProxy : state.proxyBinding place with
  | none =>
      have unchanged : state.endProxyBinding place = state := by
        rcases sound.endProxyBinding eventless with ⟨_, unchanged⟩ | ⟨other, isOther, _⟩
        · exact unchanged
        · rw [isProxy] at isOther
          cases isOther
      rw [unchanged, ProxyState.takeProxyBinding]
      dsimp only
      rw [update_of_ne different, isProxy]
      rfl
  | some proxyBinding =>
      have ended : state.endProxyBinding place = state.withoutProxy place proxyBinding := by
        rcases sound.endProxyBinding eventless with ⟨none, _⟩ | ⟨other, isOther, ended⟩
        · rw [isProxy] at none
          cases none
        · rw [isProxy] at isOther
          cases isOther
          exact ended
      rw [ended, ProxyState.takeProxyBinding]
      dsimp only
      rw [update_of_ne different, isProxy, endOwned, endProxy, fault_of_false]
      · simp only [ProxyState.withMovedProxy, ProxyState.withoutProxy, mk.injEq, and_true, true_and]
        funext other
        by_cases isPlace : other = place
        · simp [isPlace, update_of_ne different.symm]
        · simp [isPlace, Function.update]
      · exact sound.childless eventless isProxy

/-- A proxy is moved to a variable without events. -/
theorem Sound.moveProxy (nodup : names.Nodup) (different : place ≠ source)
    (sound : Sound names id state) (running : state.ended = false)
    (lives : state.constructed place = true) (eventless : state.Eventless place)
    (notTraced : state.NotTraced source) :
    Keeps (Idle names) (ProxyCall.moveProxy names place source) state := by
  have executed : state.execute (.takeProxyBinding place source) =
      (state.endProxyBinding place).withMovedProxy place source := by
    rw [execute, if_neg (Bool.eq_false_iff.mp running)]
    exact sound.takeProxyBinding different eventless
  have moving : Moving names place source names
      ((state.endProxyBinding place).withMovedProxy place source) := by
    have moved : ∀ ended : ProxyState Place Name, Sound names id ended →
        ended.proxyBinding place = none → ended.member = state.member →
          ended.constructed = state.constructed → ended.handler = state.handler →
            ended.ended = false → Moving names place source names
              (ended.withMovedProxy place source) := by
      intro ended endedSound noProxy sameMember sameConstructed sameHandler isRunning
      have vacant : ended.Vacant place := by
        refine ⟨noProxy, ?_⟩
        rw [Eventless, sameMember]
        exact eventless
      have endedLives : ended.constructed place = true := by
        rw [sameConstructed]
        exact lives
      refine ⟨isRunning, endedSound.withMovedProxy different vacant endedLives, endedLives, ?_,
        fun name _ => vacant.2 name, ?_, nodup⟩
      · change ended.NotTraced source
        rw [NotTraced, sameMember, sameHandler]
        exact notTraced
      · intro name undeclared
        rcases endedSound.whole source name with isEmpty | ⟨binding, whole⟩
        · exact isEmpty
        · exact absurd whole.declared undeclared
    rcases sound.endProxyBinding eventless with ⟨noProxy, unchanged⟩ | ⟨proxyBinding, isProxy, ended⟩
    · rw [unchanged]
      exact moved state sound noProxy rfl rfl rfl running
    · rw [ended]
      apply moved (state.withoutProxy place proxyBinding) (sound.withoutProxy eventless isProxy) _
        rfl rfl rfl running
      rw [proxyBinding_withoutProxy, update_self]
  refine ⟨sound.safe, ?_⟩
  change Keeps _ _ (state.execute _)
  rw [executed]
  have loop := Guarded.flatMap (fun command state => ProxyState.execute state command) Safe
    (ProxyCall.moveEvent place source)
    (Moving names place source)
    (fun name rest last isMoving => isMoving.moveEvent different) moving
  apply loop.mono
  intro later left
  apply Sound.idle
  -- nothing is left at the source, so that every event is at home again
  have soundLater := left.sound
  constructor
  · exact soundLater.safe
  · intro other name
    rcases soundLater.whole other name with isEmpty | ⟨binding, whole⟩
    · exact .inl isEmpty
    · right
      refine ⟨binding, whole.member, whole.declared, ?_, whole.alive, whole.old, whole.registered⟩
      have notSource : other ≠ source := by
        intro same
        have hasMember := whole.member
        rw [same, left.moved name List.not_mem_nil] at hasMember
        cases hasMember
      have isParent := whole.parent
      rwa [movedHome_of_ne notSource] at isParent
  · exact soundLater.distinct
  · exact soundLater.proxy
  · exact soundLater.unique
  · exact soundLater.registered
  · exact soundLater.owned
  · exact soundLater.unborn
  · exact soundLater.samples

end MwCom.ProxyMoves.ProxyState
