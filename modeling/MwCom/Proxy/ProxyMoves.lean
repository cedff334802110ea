/-
Module: MwCom.Proxy.ProxyMoves
Purpose: Generated proxies with their event members: what constructors, destructors and the
  moves that the compiler generates do to the objects they own, one member after another.
Trusted boundary: a search is silent once the guard of its proxy binding is gone, and a receive
  handler once its scope has ended.  What has reached an object that it must not reach
  (`faults`), and how many samples of an event are held (`held`), is bookkeeping of this module.
Main exports: ProxyState, Command, ProxyState.execute, ProxyCall, ProxyCall.code,
  ProxyState.changeAvailability, ProxyState.notify
-/
import Mathlib.Data.List.Basic
import MwCom.Interleaving.StraightLine

namespace MwCom.ProxyMoves

open Interleaving Function

/-! ## Objects -/

/-- `EventBindingRegistrationGuard`, of an event binding that was created. -/
structure RegistrationGuard (Name : Type) where
  proxyBinding : Nat
  eventBinding : Nat
  eventName : Name
deriving DecidableEq

/-- The members of a proxy event that own something.  A tracker and a scope go by the event
binding that was created with them. -/
structure EventMember (Name : Type) where
  bindingBase : Option Nat
  tracker : Option Nat
  eventBindingRegistrationGuard : Option (RegistrationGuard Name)
  receiveHandlerScope : Option Nat
deriving DecidableEq

/-- What a moved-from event has left. -/
def EventMember.empty {Name : Type} : EventMember Name := ⟨none, none, none, none⟩

/-- What must not happen: an event binding ends that its proxy binding still has in its map;
an object that has ended is unsubscribed at, unregistered at or told of an availability change;
a proxy binding ends before its event bindings; a receive handler uses the tracing data of a
variable that does not own its event; an event ends whose samples are held. -/
inductive Fault where
  | stillRegistered
  | unsubscribedAtEnded
  | unregisteredAtEnded
  | notifiedEnded
  | outlivedProxy
  | strangeTracingData
  | samplesHeld
deriving DecidableEq

/-- Variables of a generated proxy class, and the objects on the heap.  `handler`: the receive
handler of an event binding, with the event whose tracing data it refers to if it is traced. -/
structure ProxyState (Place Name : Type) where
  constructed : Place → Bool
  proxyBinding : Place → Option Nat
  member : Place → Name → EventMember Name
  proxyAlive : Nat → Bool
  eventBindings : Nat → List (Name × Nat)
  eventAlive : Nat → Bool
  parent : Nat → Nat
  subscribed : Nat → Bool
  availableSamples : Nat → Nat
  maxNumSamples : Nat → Nat
  held : Nat → Nat
  handler : Nat → Option (Option (Place × Name))
  nextProxy : Nat
  nextEvent : Nat
  faults : List Fault
  ended : Bool

/-- The commands that calls consist of. -/
inductive Command (Place Name : Type) where
  | beginLife (place : Place)
  | createProxyBinding (place : Place)
  | createEventBinding (place : Place) (name : Name)
  | registerEventBinding (place : Place) (name : Name)
  | takeProxyBinding (place source : Place)
  | takeBindingBase (place source : Place) (name : Name)
  | takeTracker (place source : Place) (name : Name)
  | takeGuard (place source : Place) (name : Name)
  | takeScope (place source : Place) (name : Name)
  | checkTracker (place : Place) (name : Name)
  | endScope (place : Place) (name : Name)
  | endGuard (place : Place) (name : Name)
  | endTracker (place : Place) (name : Name)
  | endBindingBase (place : Place) (name : Name)
  | endProxyBinding (place : Place)
  | endLife (place : Place)
  | subscribe (place : Place) (name : Name) (maxSampleCount : Nat) (granted : Bool)
  | unsubscribe (place : Place) (name : Name)
  | getNewSamples (place : Place) (name : Name) (maxNumSamples : Nat)
  | setReceiveHandler (place : Place) (name : Name) (traced : Bool)
  | unsetReceiveHandler (place : Place) (name : Name)
  | destroySample (tracker : Nat)

namespace ProxyState

variable {Place Name : Type} [DecidableEq Place] [DecidableEq Name]
  (state : ProxyState Place Name)

def fault (found : Fault) (condition : Bool) : ProxyState Place Name :=
  if condition then { state with faults := found :: state.faults } else state

/-- The process is terminated, or accesses a null pointer. -/
def terminate : ProxyState Place Name := { state with ended := true }

def setMember (place : Place) (name : Name) (member : EventMember Name) : ProxyState Place Name :=
  { state with
    member := update state.member place
      (update (state.member place) name member) }

/-! ### Ends of objects -/

/-- An event binding unsubscribes when it ends, in the memory of its proxy binding. -/
def endEventBinding (eventBinding : Nat) : ProxyState Place Name :=
  let proxyBinding := state.parent eventBinding
  let registered := state.proxyAlive proxyBinding &&
    (state.eventBindings proxyBinding).any fun entry => entry.2 == eventBinding
  { (state.fault .stillRegistered registered).fault .unsubscribedAtEnded
      (!state.proxyAlive proxyBinding) with
    eventAlive := update state.eventAlive eventBinding false }

/-- A guard unregisters its event binding at the proxy binding. -/
def unregister (guard : RegistrationGuard Name) : ProxyState Place Name :=
  { state.fault .unregisteredAtEnded (!state.proxyAlive guard.proxyBinding) with
    eventBindings := update state.eventBindings guard.proxyBinding
      ((state.eventBindings guard.proxyBinding).filter fun entry =>
        entry.1 != guard.eventName) }

def endSampleTracker (tracker : Nat) : ProxyState Place Name :=
  state.fault .samplesHeld (0 < state.held tracker)

/-- The receive handler of a scope is not called again. -/
def expire (scope : Nat) : ProxyState Place Name :=
  { state with handler := update state.handler scope none }

def endProxy (proxyBinding : Nat) : ProxyState Place Name :=
  { state.fault .outlivedProxy ((List.range state.nextEvent).any fun eventBinding =>
      state.eventAlive eventBinding && state.parent eventBinding == proxyBinding) with
    proxyAlive := update state.proxyAlive proxyBinding false }

/-- What happens to an object that a pointer may own. -/
def endOwned {Owned : Type} (endObject : ProxyState Place Name → Owned → ProxyState Place Name)
    (owned : Option Owned) : ProxyState Place Name :=
  match owned with
  | none => state
  | some object => endObject state object

/-! ### Moves of a member -/

/-- A member of an event is moved: the target gets what the source owns, the source is left
with nothing, and what the target has owned ends. -/
def takeMember {Owned : Type} (get : EventMember Name → Option Owned)
    (set : EventMember Name → Option Owned → EventMember Name)
    (endObject : ProxyState Place Name → Owned → ProxyState Place Name)
    (place source : Place) (name : Name) : ProxyState Place Name :=
  let released := state.setMember source name (set (state.member source name) none)
  let taken := released.setMember place name
    (set (released.member place name) (get (state.member source name)))
  taken.endOwned endObject (get (released.member place name))

/-- A member of an event ends with the event. -/
def endMember {Owned : Type} (get : EventMember Name → Option Owned)
    (set : EventMember Name → Option Owned → EventMember Name)
    (endObject : ProxyState Place Name → Owned → ProxyState Place Name)
    (place : Place) (name : Name) : ProxyState Place Name :=
  (state.setMember place name (set (state.member place name) none)).endOwned endObject
    (get (state.member place name))

def setBindingBase (member : EventMember Name) (owned : Option Nat) : EventMember Name :=
  { member with bindingBase := owned }

def setTracker (member : EventMember Name) (owned : Option Nat) : EventMember Name :=
  { member with tracker := owned }

def setGuard (member : EventMember Name) (owned : Option (RegistrationGuard Name)) :
    EventMember Name :=
  { member with eventBindingRegistrationGuard := owned }

def setScope (member : EventMember Name) (owned : Option Nat) : EventMember Name :=
  { member with receiveHandlerScope := owned }

/-! ### Calls of an event -/

/-- `Subscribe`; `granted`: the binding has subscribed. -/
def subscribe (place : Place) (name : Name) (maxSampleCount : Nat) (granted : Bool) :
    ProxyState Place Name :=
  match (state.member place name).bindingBase, (state.member place name).tracker with
  | some binding, some tracker =>
      if state.subscribed binding then
        state
      else
        { state with
          availableSamples := update state.availableSamples tracker maxSampleCount
          maxNumSamples := update state.maxNumSamples tracker maxSampleCount
          subscribed := update state.subscribed binding granted }
  | _, _ => state.terminate

def unsubscribe (place : Place) (name : Name) : ProxyState Place Name :=
  match (state.member place name).bindingBase, (state.member place name).tracker with
  | some binding, some tracker =>
      if state.subscribed binding then
        let left := { state with subscribed := update state.subscribed binding false }
        if state.availableSamples tracker < state.maxNumSamples tracker then
          left.terminate
        else
          left
      else
        state
  | _, _ => state.terminate

/-- As many samples are handed over as there are guards for, or fewer. -/
def getNewSamples (place : Place) (name : Name) (maxNumSamples : Nat) : ProxyState Place Name :=
  match (state.member place name).bindingBase, (state.member place name).tracker with
  | some binding, some tracker =>
      if state.subscribed binding then
        let received := min maxNumSamples (state.availableSamples tracker)
        { state with
          availableSamples := update state.availableSamples tracker
            (state.availableSamples tracker - received)
          held := update state.held tracker (state.held tracker + received) }
      else
        state
  | _, _ => state.terminate

/-- `SetReceiveHandler`; `traced`: the tracing data says that its calls are traced. -/
def setReceiveHandler (place : Place) (name : Name) (traced : Bool) : ProxyState Place Name :=
  match (state.member place name).bindingBase with
  | some binding =>
      let expired := state.endOwned expire (state.member place name).receiveHandlerScope
      { expired.setMember place name (setScope (state.member place name) (some binding)) with
        handler := update expired.handler binding
          (some (if traced then some (place, name) else none)) }
  | none => state.terminate

def unsetReceiveHandler (place : Place) (name : Name) : ProxyState Place Name :=
  match (state.member place name).bindingBase with
  | some binding =>
      (state.endOwned expire (state.member place name).receiveHandlerScope).expire binding
  | none => state.terminate

/-- A sample that the user holds ends. -/
def destroySample (tracker : Nat) : ProxyState Place Name :=
  if 0 < state.held tracker then
    { state with
      held := update state.held tracker (state.held tracker - 1)
      availableSamples := update state.availableSamples tracker
        (state.availableSamples tracker + 1) }
  else
    state

/-! ### Commands -/

/-- A proxy binding is created without event bindings. -/
def createProxyBinding (place : Place) : ProxyState Place Name :=
  { state with
    proxyBinding := update state.proxyBinding place (some state.nextProxy)
    proxyAlive := update state.proxyAlive state.nextProxy true
    eventBindings := update state.eventBindings state.nextProxy []
    nextProxy := state.nextProxy + 1 }

/-- An event binding is created with a tracker and a scope. -/
def createEventBinding (place : Place) (name : Name) : ProxyState Place Name :=
  match state.proxyBinding place with
  | none => state
  | some proxyBinding =>
      let binding := state.nextEvent
      { state.setMember place name ⟨some binding, some binding, none, some binding⟩ with
        eventAlive := update state.eventAlive binding true
        parent := update state.parent binding proxyBinding
        subscribed := update state.subscribed binding false
        availableSamples := update state.availableSamples binding 0
        maxNumSamples := update state.maxNumSamples binding 0
        held := update state.held binding 0
        handler := update state.handler binding none
        nextEvent := state.nextEvent + 1 }

def registerEventBinding (place : Place) (name : Name) : ProxyState Place Name :=
  match state.proxyBinding place, (state.member place name).bindingBase with
  | some proxyBinding, some binding =>
      if (state.eventBindings proxyBinding).any fun entry => entry.1 == name then
        state.terminate
      else
        { state.setMember place name
            (setGuard (state.member place name) (some ⟨proxyBinding, binding, name⟩)) with
          eventBindings := update state.eventBindings proxyBinding
            ((name, binding) :: state.eventBindings proxyBinding) }
  | _, _ => state

/-- `ProxyBase` is moved. -/
def takeProxyBinding (place source : Place) : ProxyState Place Name :=
  let released := { state with proxyBinding := update state.proxyBinding source none }
  let taken :=
    { released with
      proxyBinding :=
        update released.proxyBinding place (state.proxyBinding source) }
  taken.endOwned endProxy (released.proxyBinding place)

def endProxyBinding (place : Place) : ProxyState Place Name :=
  { state with proxyBinding := update state.proxyBinding place none }.endOwned endProxy
    (state.proxyBinding place)

/-- A process that has ended executes nothing. -/
def execute : Command Place Name → ProxyState Place Name
  | command =>
    if state.ended then
      state
    else
      match command with
      | .beginLife place =>
          { state with constructed := update state.constructed place true }
      | .createProxyBinding place => state.createProxyBinding place
      | .createEventBinding place name => state.createEventBinding place name
      | .registerEventBinding place name => state.registerEventBinding place name
      | .takeProxyBinding place source => state.takeProxyBinding place source
      | .takeBindingBase place source name =>
          state.takeMember EventMember.bindingBase setBindingBase endEventBinding place source
            name
      | .takeTracker place source name =>
          state.takeMember EventMember.tracker setTracker endSampleTracker place source name
      | .takeGuard place source name =>
          state.takeMember EventMember.eventBindingRegistrationGuard setGuard unregister place
            source name
      | .takeScope place source name =>
          state.takeMember EventMember.receiveHandlerScope setScope expire place source name
      | .checkTracker place name =>
          match (state.member place name).tracker with
          | none => state
          | some tracker =>
              if state.availableSamples tracker < state.maxNumSamples tracker then
                state.terminate
              else
                state
      | .endScope place name =>
          state.endMember EventMember.receiveHandlerScope setScope expire place name
      | .endGuard place name =>
          state.endMember EventMember.eventBindingRegistrationGuard setGuard unregister place
            name
      | .endTracker place name =>
          state.endMember EventMember.tracker setTracker endSampleTracker place name
      | .endBindingBase place name =>
          state.endMember EventMember.bindingBase setBindingBase endEventBinding place name
      | .endProxyBinding place => state.endProxyBinding place
      | .endLife place =>
          { state with constructed := update state.constructed place false }
      | .subscribe place name maxSampleCount granted =>
          state.subscribe place name maxSampleCount granted
      | .unsubscribe place name => state.unsubscribe place name
      | .getNewSamples place name maxNumSamples =>
          state.getNewSamples place name maxNumSamples
      | .setReceiveHandler place name traced => state.setReceiveHandler place name traced
      | .unsetReceiveHandler place name => state.unsetReceiveHandler place name
      | .destroySample tracker => state.destroySample tracker

/-! ### What happens meanwhile -/

/-- The availability of a service instance changes: its proxy binding tells all event bindings
of its map. -/
def changeAvailability (proxyBinding : Nat) : ProxyState Place Name :=
  state.fault .notifiedEnded (state.proxyAlive proxyBinding &&
    (state.eventBindings proxyBinding).any fun entry => !state.eventAlive entry.2)

/-- The receive handler uses the tracing data of an event that has this event binding. -/
def ownsHandler (eventBinding : Nat) (tracingData : Place × Name) : Bool :=
  state.constructed tracingData.1 &&
    (state.member tracingData.1 tracingData.2).bindingBase == some eventBinding

/-- An event notification arrives. -/
def notify (eventBinding : Nat) : ProxyState Place Name :=
  match state.handler eventBinding with
  | some (some tracingData) =>
      state.fault .strangeTracingData
        (state.eventAlive eventBinding && !state.ownsHandler eventBinding tracingData)
  | _ => state

/-- Whatever happens while the process runs. -/
inductive Happens : ProxyState Place Name → ProxyState Place Name → Prop where
  | availability {state proxyBinding} (running : state.ended = false) :
      Happens state (state.changeAvailability proxyBinding)
  | notification {state eventBinding} (running : state.ended = false) :
      Happens state (state.notify eventBinding)

end ProxyState

/-! ## Calls -/

/-- What the user does with variables of the proxy class.  `missing`: events whose bindings
could not be created. -/
inductive ProxyCall (Place Name : Type) where
  | construct (place : Place) (missing : Name → Bool)
  | moveConstruct (place source : Place)
  | moveAssign (place source : Place)
  | destroy (place : Place)
  | subscribe (place : Place) (name : Name) (maxSampleCount : Nat) (granted : Bool)
  | unsubscribe (place : Place) (name : Name)
  | getNewSamples (place : Place) (name : Name) (maxNumSamples : Nat)
  | setReceiveHandler (place : Place) (name : Name) (traced : Bool)
  | unsetReceiveHandler (place : Place) (name : Name)
  | destroySample (tracker : Nat)

namespace ProxyCall

variable {Place Name : Type} [DecidableEq Place] [DecidableEq Name] (names : List Name)

/-- The members of an event are moved in the order of their declaration.  The tracing data,
which owns nothing, is copied. -/
def moveEvent (place source : Place) (name : Name) : List (Command Place Name) :=
  [.takeBindingBase place source name, .takeTracker place source name,
    .takeGuard place source name, .takeScope place source name]

/-- The base comes first, then the events in the order of their declaration. -/
def moveProxy (place source : Place) : List (Command Place Name) :=
  .takeProxyBinding place source :: names.flatMap (moveEvent place source)

/-- The destructor of an event, then those of its members, the last one first. -/
def destroyEvent (place : Place) (name : Name) : List (Command Place Name) :=
  [.checkTracker place name, .endScope place name, .endGuard place name,
    .endTracker place name, .endBindingBase place name]

def constructEvent (place : Place) (missing : Name → Bool) (name : Name) :
    List (Command Place Name) :=
  if missing name then [] else [.createEventBinding place name, .registerEventBinding place name]

/-- `names`: the events of the proxy class in the order of their declaration. -/
def code : ProxyCall Place Name → List (Command Place Name)
  | .construct place missing =>
      [.beginLife place, .createProxyBinding place] ++ names.flatMap (constructEvent place missing)
  | .moveConstruct place source => .beginLife place :: moveProxy names place source
  | .moveAssign place source => moveProxy names place source
  | .destroy place =>
      names.reverse.flatMap (destroyEvent place) ++ [.endProxyBinding place, .endLife place]
  | .subscribe place name maxSampleCount granted =>
      [.subscribe place name maxSampleCount granted]
  | .unsubscribe place name => [.unsubscribe place name]
  | .getNewSamples place name maxNumSamples => [.getNewSamples place name maxNumSamples]
  | .setReceiveHandler place name traced => [.setReceiveHandler place name traced]
  | .unsetReceiveHandler place name => [.unsetReceiveHandler place name]
  | .destroySample tracker => [.destroySample tracker]

/-- Calls are made on variables that live, and constructors run for those that do not. -/
def allowed (state : ProxyState Place Name) : ProxyCall Place Name → Bool
  | .construct place _ => !state.constructed place
  | .moveConstruct place source => !state.constructed place && state.constructed source
  | .moveAssign place source => state.constructed place && state.constructed source
  | .destroy place => state.constructed place
  | .subscribe place name _ _ => state.constructed place && names.contains name
  | .unsubscribe place name => state.constructed place && names.contains name
  | .getNewSamples place name _ => state.constructed place && names.contains name
  | .setReceiveHandler place name _ => state.constructed place && names.contains name
  | .unsetReceiveHandler place name => state.constructed place && names.contains name
  | .destroySample _ => true

end ProxyCall

/-- Nothing has been constructed yet. -/
def ProxyState.initial (Place Name : Type) : ProxyState Place Name where
  constructed _ := false
  proxyBinding _ := none
  member _ _ := .empty
  proxyAlive _ := false
  eventBindings _ := []
  eventAlive _ := false
  parent _ := 0
  subscribed _ := false
  availableSamples _ := 0
  maxNumSamples _ := 0
  held _ := 0
  handler _ := none
  nextProxy := 0
  nextEvent := 0
  faults := []
  ended := false

end MwCom.ProxyMoves
