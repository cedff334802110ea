/-
Module: MwCom.Tracing.TracingFilterConfig
Purpose: Which trace points are enabled for which service instances, and how many
  service elements need a trace context for that.
Trusted boundary: an unordered map is the list of its entries in the order in which it is
  gone through; a look-up with names too long for the hash of the key, which ends the process,
  finds nothing.
Main exports: TracingFilterConfig, getNumberOfServiceElementsWithTraceDoneCb
-/
import Mathlib.Algebra.Group.Nat.Defs
import MwCom.Tracing.TracingRuntime

namespace MwCom.Tracing

/-! ## Trace points -/

inductive SkeletonEventTracePointType where
  | send
  | sendWithAllocate
deriving DecidableEq

inductive SkeletonFieldTracePointType where
  | update
  | updateWithAllocate
  | getCall
  | getCallResult
  | setCall
  | setCallResult
deriving DecidableEq

inductive ProxyEventTracePointType where
  | subscribe
  | unsubscribe
  | subscribeStateChange
  | setSubscriptionStateChangeHandler
  | unsetSubscriptionStateChangeHandler
  | subscriptionStateChangeHandlerCallback
  | setReceiveHandler
  | unsetReceiveHandler
  | receiveHandlerCallback
  | getNewSamples
  | getNewSamplesCallback
deriving DecidableEq

inductive ProxyFieldTracePointType where
  | subscribe
  | unsubscribe
  | subscribeStateChange
  | setSubscriptionStateChangeHandler
  | unsetSubscriptionStateChangeHandler
  | subscriptionStateChangeHandlerCallback
  | setReceiveHandler
  | unsetReceiveHandler
  | receiveHandlerCallback
  | getNewSamples
  | getNewSamplesCallback
  | get
  | getResult
  | set
  | setResult
deriving DecidableEq

namespace SkeletonEventTracePointType

def needsTraceDoneCb : SkeletonEventTracePointType → Bool
  | .send => true
  | .sendWithAllocate => true

end SkeletonEventTracePointType

namespace SkeletonFieldTracePointType

def needsTraceDoneCb : SkeletonFieldTracePointType → Bool
  | .update => true
  | .updateWithAllocate => true
  | _ => false

end SkeletonFieldTracePointType

def ProxyEventTracePointType.needsTraceDoneCb (_ : ProxyEventTracePointType) : Bool := false

def ProxyFieldTracePointType.needsTraceDoneCb (_ : ProxyFieldTracePointType) : Bool := false

/-! ## The configuration -/

abbrev InstanceSpecifierView := String

structure TracePointKey (TracePoint : Type) where
  serviceElement : ServiceElementIdentifierView
  tracePointType : TracePoint
deriving DecidableEq

/-- The instances for which each trace point is enabled. -/
abbrev TracePointMap (TracePoint : Type) :=
  List (TracePointKey TracePoint × List InstanceSpecifierView)

structure TracingFilterConfig where
  skeletonEventTracePoints : TracePointMap SkeletonEventTracePointType
  skeletonFieldTracePoints : TracePointMap SkeletonFieldTracePointType
  proxyEventTracePoints : TracePointMap ProxyEventTracePointType
  proxyFieldTracePoints : TracePointMap ProxyFieldTracePointType

section Map

variable {TracePoint : Type}

def isTracePointEnabledInMap [DecidableEq TracePoint]
    (serviceElement : ServiceElementIdentifierView) (instanceSpecifier : InstanceSpecifierView)
    (tracePointType : TracePoint) (tracePointMap : TracePointMap TracePoint) : Bool :=
  match tracePointMap.find? fun entry => entry.1 = ⟨serviceElement, tracePointType⟩ with
  | none => false
  | some entry => entry.2.contains instanceSpecifier

/-- How many instances the trace points need, counting each service element where it comes
first, and the service elements counted so far. -/
def findNumberOfTracePointsNeedingTraceDoneCb (needsTraceDoneCb : TracePoint → Bool) :
    TracePointMap TracePoint → List ServiceElementIdentifierView → Nat →
      Nat × List ServiceElementIdentifierView
  | [], counted, tracePointsCount => (tracePointsCount, counted)
  | (key, instanceSpecifiers) :: rest, counted, tracePointsCount =>
      if needsTraceDoneCb key.tracePointType && !counted.contains key.serviceElement then
        findNumberOfTracePointsNeedingTraceDoneCb needsTraceDoneCb rest
          (key.serviceElement :: counted) (tracePointsCount + instanceSpecifiers.length)
      else
        findNumberOfTracePointsNeedingTraceDoneCb needsTraceDoneCb rest counted
          tracePointsCount

end Map

namespace TracingFilterConfig

variable (config : TracingFilterConfig)

def isSkeletonEventTracePointEnabled (serviceType eventName : String)
    (instanceSpecifier : InstanceSpecifierView)
    (tracePointType : SkeletonEventTracePointType) : Bool :=
  isTracePointEnabledInMap ⟨serviceType, eventName, .event⟩ instanceSpecifier tracePointType
    config.skeletonEventTracePoints

def isSkeletonFieldTracePointEnabled (serviceType fieldName : String)
    (instanceSpecifier : InstanceSpecifierView)
    (tracePointType : SkeletonFieldTracePointType) : Bool :=
  isTracePointEnabledInMap ⟨serviceType, fieldName, .field⟩ instanceSpecifier tracePointType
    config.skeletonFieldTracePoints

/-- `none`: the number is not below the largest number of 16 bits, which is asserted. -/
def getNumberOfServiceElementsWithTraceDoneCb : Option Nat :=
  let (events, counted) := findNumberOfTracePointsNeedingTraceDoneCb
    SkeletonEventTracePointType.needsTraceDoneCb config.skeletonEventTracePoints [] 0
  let (fields, counted) := findNumberOfTracePointsNeedingTraceDoneCb
    SkeletonFieldTracePointType.needsTraceDoneCb config.skeletonFieldTracePoints counted 0
  let (proxyEvents, counted) := findNumberOfTracePointsNeedingTraceDoneCb
    ProxyEventTracePointType.needsTraceDoneCb config.proxyEventTracePoints counted 0
  let (proxyFields, _) := findNumberOfTracePointsNeedingTraceDoneCb
    ProxyFieldTracePointType.needsTraceDoneCb config.proxyFieldTracePoints counted 0
  let numberTracePoints := events + fields + proxyEvents + proxyFields
  if numberTracePoints < 2 ^ 16 - 1 then some numberTracePoints else none

end TracingFilterConfig

end MwCom.Tracing
