/-
Module: MwCom.Proxy.MoveLaw
Purpose: Which moves of proxies keep the objects of a proxy in their order, and receive
  handlers to the tracing data of their own event.
Trusted boundary: none
Main exports: ProxyClass, ProxyState.MoveLaw, ProxyState.Orderly, moveLaw_of_reached
-/
import MwCom.Proxy.ProxyMoving

namespace MwCom.ProxyMoves

open Interleaving

/-- The events of a generated proxy class, in the order of their declaration. -/
structure ProxyClass (Name : Type) where
  names : List Name
  nodup : names.Nodup

variable {Place Name : Type}

/-! ## The law -/

namespace ProxyState

/-- Nothing has happened that must not happen. -/
def MoveLaw (state : ProxyState Place Name) : Prop := state.faults = []

/-- Proxies are moved without traced receive handlers, and assigned to variables whose events own
nothing. -/
def Orderly (state : ProxyState Place Name) : ProxyCall Place Name → Prop
  | .moveConstruct _ source => state.NotTraced source
  | .moveAssign place source =>
      place = source ∨ (state.Eventless place ∧ state.NotTraced source)
  | _ => True

end ProxyState

namespace ProxyClass

variable [DecidableEq Place] [DecidableEq Name] (proxyClass : ProxyClass Name)

/-- A call of the user. -/
def Permitted (state : ProxyState Place Name) (call : ProxyCall Place Name) : Prop :=
  state.ended = false ∧ call.allowed proxyClass.names state = true

/-- A step of a process with any calls. -/
abbrev AnyStep : Course (Command Place Name) (ProxyState Place Name) →
      Course (Command Place Name) (ProxyState Place Name) → Prop :=
  CourseStep (fun command state => state.execute command)
    (fun _ call => call.code proxyClass.names) proxyClass.Permitted ProxyState.Happens

/-- A step of a process whose moves are orderly. -/
abbrev OrderlyStep : Course (Command Place Name) (ProxyState Place Name) →
      Course (Command Place Name) (ProxyState Place Name) → Prop :=
  CourseStep (fun command state => state.execute command)
    (fun _ call => call.code proxyClass.names)
    (fun state call => proxyClass.Permitted state call ∧ state.Orderly call)
    ProxyState.Happens

end ProxyClass

/-! ## Runs -/

variable [DecidableEq Place] [DecidableEq Name] {proxyClass : ProxyClass Name}

open ProxyState

theorem guarded_orderly {state : ProxyState Place Name} {call : ProxyCall Place Name}
    (idle : Idle proxyClass.names state) (permitted : proxyClass.Permitted state call)
    (orderly : state.Orderly call) :
    Keeps (Idle proxyClass.names) (call.code proxyClass.names) state := by
  obtain ⟨running, isAllowed⟩ := permitted
  have sound := idle.2 running
  have notEnded := Bool.eq_false_iff.mp running
  cases call with
  | construct place missing =>
      rw [ProxyCall.allowed, Bool.not_eq_true'] at isAllowed
      exact sound.construct proxyClass.nodup missing running isAllowed
  | moveConstruct place source =>
      rw [ProxyCall.allowed, Bool.and_eq_true, Bool.not_eq_true'] at isAllowed
      have different : place ≠ source := by
        intro same
        rw [same, isAllowed.2] at isAllowed
        cases isAllowed.1
      have begins : state.execute (.beginLife place) =
          { state with constructed := Function.update state.constructed place true } := by
        rw [execute, if_neg notEnded]
      have begun : Sound proxyClass.names _
          { state with constructed := Function.update state.constructed place true } :=
        sound.setLife true (by simp)
      have born := begun.moveProxy proxyClass.nodup different running (Function.update_self ..)
        (sound.unborn place isAllowed.1).2 orderly
      refine ⟨sound.safe, ?_⟩
      change Keeps _ _ (state.execute _)
      rw [begins]
      exact born
  | moveAssign place source =>
      rw [ProxyCall.allowed, Bool.and_eq_true] at isAllowed
      by_cases same : place = source
      · apply Guarded.of_fixed sound.safe idle
        rw [← same]
        exact moveProxy_self
      · rcases orderly with isSame | ⟨eventless, notTraced⟩
        · exact absurd isSame same
        · exact sound.moveProxy proxyClass.nodup same running isAllowed.1 eventless notTraced
  | destroy place => exact sound.destroy running isAllowed
  | subscribe place name maxSampleCount granted =>
      apply idle.guarded
      rw [execute, if_neg notEnded]
      exact sound.subscribe maxSampleCount granted
  | unsubscribe place name =>
      apply idle.guarded
      rw [execute, if_neg notEnded]
      exact sound.unsubscribe
  | getNewSamples place name maxNumSamples =>
      apply idle.guarded
      rw [execute, if_neg notEnded]
      exact sound.getNewSamples maxNumSamples
  | setReceiveHandler place name traced =>
      rw [ProxyCall.allowed, Bool.and_eq_true] at isAllowed
      apply idle.guarded
      rw [execute, if_neg notEnded]
      exact sound.setReceiveHandler isAllowed.1 traced
  | unsetReceiveHandler place name =>
      apply idle.guarded
      rw [execute, if_neg notEnded]
      exact sound.unsetReceiveHandler
  | destroySample tracker =>
      apply idle.guarded
      rw [execute, if_neg notEnded]
      exact sound.destroySample tracker

omit [DecidableEq Place] [DecidableEq Name] in
theorem sound_initial : Sound proxyClass.names id (ProxyState.initial Place Name) where
  safe := by
    constructor
    · rfl
    · intro proxyBinding entry alive
      cases alive
    · intro binding tracingData alive
      cases alive
  whole place name := .inl rfl
  distinct place name other otherName binding hasBase := by cases hasBase
  proxy place proxyBinding isProxy := by cases isProxy
  unique place other proxyBinding isProxy := by cases isProxy
  registered proxyBinding entry alive := by cases alive
  owned binding isOld alive := by cases alive
  unborn place _ := ⟨rfl, fun _ => rfl⟩
  samples tracker := ⟨rfl, fun _ => rfl⟩

/-- Where proxies are moved without traced receive handlers, and assigned to variables whose
events own nothing, no object is reached after its end, every receive handler uses the tracing
data of its own event, and no event ends whose samples are held. -/
theorem moveLaw_of_reached (proxyClass : ProxyClass Name)
    (course : Course (Command Place Name) (ProxyState Place Name))
    (reached : Relation.ReflTransGen proxyClass.OrderlyStep ⟨.initial Place Name, []⟩ course) :
    course.state.MoveLaw := by
  have initially : Keeps (Idle proxyClass.names) [] (.initial Place Name) := sound_initial.idle
  have guarded := guarded_of_reached Safe (Idle proxyClass.names) (fun state idle => idle.1)
    (fun state call idle permitted => guarded_orderly idle permitted.1 permitted.2)
    (fun state later safe happens => safe.quiet happens) initially reached
  exact (guarded.safe fun state idle => idle.1).faults

/-- A proxy class with one event. -/
def oneEvent : ProxyClass Unit := ⟨[()], by simp⟩

/-- The state after calls that nothing interrupts. -/
def afterCallsOn (calls : List (ProxyCall Bool Unit)) : ProxyState Bool Unit :=
  afterCalls (fun command state => ProxyState.execute state command)
    (fun _ call => call.code oneEvent.names) calls (.initial Bool Unit)

instance (state : ProxyState Bool Unit) (call : ProxyCall Bool Unit) :
    Decidable (oneEvent.Permitted state call) :=
  inferInstanceAs (Decidable (_ ∧ _))

/-- A proxy is constructed, its event gets a receive handler, and the proxy is moved. -/
def handledAndMoved (traced : Bool) : List (ProxyCall Bool Unit) :=
  [.construct false fun _ => false, .setReceiveHandler false () traced, .moveConstruct true false]

theorem moveLaw_of_moved : (afterCallsOn (handledAndMoved false)).MoveLaw := by
  apply moveLaw_of_reached oneEvent ⟨afterCallsOn (handledAndMoved false), []⟩
  apply afterCalls_of_permitted
  refine ⟨⟨by decide +kernel, trivial⟩, ⟨by decide +kernel, trivial⟩, ⟨by decide +kernel, ?_⟩,
    trivial⟩
  intro name binding hasBase tracingData isTraced
  cases hasBase
  cases isTraced

/-- A proxy is assigned to another one whose event is subscribed, and a moved receive handler is
called whose calls are traced. -/
theorem moveLaw_violated : ∃ assigned notified : Course (Command Bool Unit) (ProxyState Bool Unit),
      Relation.ReflTransGen oneEvent.AnyStep ⟨.initial Bool Unit, []⟩ assigned ∧
        Relation.ReflTransGen oneEvent.AnyStep ⟨.initial Bool Unit, []⟩ notified ∧
          ¬assigned.state.MoveLaw ∧ ¬notified.state.MoveLaw := by
  let assigned : List (ProxyCall Bool Unit) :=
    [.construct false fun _ => false, .construct true fun _ => false, .subscribe true () 1 true,
      .moveAssign true false]
  refine ⟨⟨afterCallsOn assigned, []⟩,
    ⟨(afterCallsOn (handledAndMoved true)).notify 0, []⟩, ?_, ?_, ?_, ?_⟩
  · apply afterCalls_of_permitted
    exact ⟨by decide +kernel, by decide +kernel, by decide +kernel, by decide +kernel, trivial⟩
  · have running : (afterCallsOn (handledAndMoved true)).ended = false := by
      decide +kernel
    refine .tail ?_ (.happening (.notification running))
    apply afterCalls_of_permitted
    exact ⟨by decide +kernel, by decide +kernel, by decide +kernel, trivial⟩
  · change (afterCallsOn assigned).faults ≠ []
    decide +kernel
  · change ((afterCallsOn (handledAndMoved true)).notify 0).faults ≠ []
    decide +kernel

end MwCom.ProxyMoves
