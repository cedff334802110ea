/-
Module: MwCom.Proxy.SampleHandOver
Purpose: Getting new samples with receivers that take, drop and get samples themselves, over
  the one buffer of the slot collector.
Trusted boundary: the numbers of the references and the records of the calls are bookkeeping
  of this module.
Main exports: UserCode, Reception, UserCode.code, GetNewSamplesRecord.Lawful,
  handOverSystem
-/
import MwCom.Proxy.ProxyEvent

namespace MwCom

open Interleaving Lola ProxyProgram

variable {slots : Nat} {LogIndex : Type}

/-! ## The buffer of the collector -/

/-- A reference to a slot, with the number of references acquired before it. -/
structure Reference (slots : Nat) where
  slot : Fin slots
  number : Nat
deriving DecidableEq

/-- One call of `GetNewSamples` that has returned: the references its collection acquired and
those its receiver got, in their order, and whether a call of the receiver has acquired
references while samples were left. -/
structure GetNewSamplesRecord (slots : Nat) where
  collected : List (Reference slots)
  handed : List (Reference slots)
  interrupted : Bool
  returned : Nat
deriving DecidableEq

/-- The slot collector with its `collected_slots_`, the number of references it has acquired,
and the calls that have returned. -/
structure Reception (slots : Nat) (LogIndex : Type) where
  collector : SlotCollector LogIndex
  collectedSlots : Nat → Reference slots
  references : Nat
  calls : List (GetNewSamplesRecord slots)

namespace Reception

variable (state : Reception slots LogIndex)

def initial (collector : SlotCollector LogIndex) (collectedSlots : Nat → Reference slots) :
    Reception slots LogIndex where
  collector := collector
  collectedSlots := collectedSlots
  references := 0
  calls := []

/-- The first `count` entries of the buffer, the last one first, as the caller iterates. -/
def collected : Nat → List (Reference slots)
  | 0 => []
  | count + 1 => state.collectedSlots count :: collected count

/-- A collection is written to the buffer, the newest slot first. -/
def collect (slotIndices : List (Fin slots)) (lastTs : EventTimeStamp) : Reception slots LogIndex :=
  { state with
    collector := { state.collector with lastTs }
    collectedSlots := fun position =>
      match slotIndices.reverse[position]? with
      | some slot => { slot, number := state.references + position }
      | none => state.collectedSlots position
    references := state.references + slotIndices.length }

def record (call : GetNewSamplesRecord slots) : Reception slots LogIndex :=
  { state with calls := state.calls ++ [call] }

end Reception

/-! ## Operations -/

/-- The operations of the process, and `operator*` of what `TakeGuard` returned. -/
inductive HandOverOp (slots : Nat) (LogIndex : Type) where
  | proxy (op : ProxyOp slots LogIndex)
  | dereferenceGuard (holdsGuard : Bool)

namespace HandOverOp

@[reducible] def Ret : HandOverOp slots LogIndex → Type
  | .proxy op => op.Ret
  | .dereferenceGuard _ => Unit

def outcomes [DecidableEq LogIndex] (ampChecked : Bool) :
    (op : HandOverOp slots LogIndex) → ProxyMemory slots LogIndex →
      List (op.Ret × ProxyMemory slots LogIndex)
  | .proxy op, memory => op.outcomes ampChecked memory
  | .dereferenceGuard _, memory => [((), memory)]

end HandOverOp

abbrev HandOverProgram (slots : Nat) (LogIndex : Type) (α : Type) :=
  Program (HandOverOp slots LogIndex) HandOverOp.Ret α

/-- A program that dereferences no guard. -/
def onProxy {α : Type} (program : ProxyProgram slots LogIndex α) :
    HandOverProgram slots LogIndex α :=
  program.lift HandOverOp.proxy fun _ answer => answer

/-! ## `GetNewSamples` -/

/-- What the user does with a sample. -/
abbrev Invocation (slots : Nat) (LogIndex : Type) :=
  MwCom.SamplePtr slots LogIndex → Reception slots LogIndex →
    HandOverProgram slots LogIndex (Reception slots LogIndex)

/-- What the loop over the slots leaves. -/
structure HandedOver (slots : Nat) (LogIndex : Type) where
  state : Reception slots LogIndex
  numAvailableGuards : Nat
  handed : List (Reference slots)
  interrupted : Bool

namespace Lola.ProxyEvent

variable (receiver : Invocation slots LogIndex)

/-- The loop from the last entry of the buffer to the first.  The slot is read from the
buffer when its turn comes. -/
def forEachSlot : (position numAvailableGuards : Nat) → Reception slots LogIndex →
    HandOverProgram slots LogIndex (HandedOver slots LogIndex)
  | 0, numAvailableGuards, state =>
      pure { state, numAvailableGuards, handed := [], interrupted := false }
  | position + 1, numAvailableGuards, state => do
      let reference := state.collectedSlots position
      let _ ← onProxy (onControl (ControlProgram.load reference.slot))
      .perform (HandOverOp.dereferenceGuard (decide (0 < numAvailableGuards)))
      let sample : MwCom.SamplePtr slots LogIndex :=
        { slotIndex := reference.slot
          transactionLogIdx := state.collector.transactionLogIndex }
      onProxy (.perform (ProxyOp.handOver sample))
      let after ← receiver sample state
      let rest ← forEachSlot position (numAvailableGuards - 1) after
      pure
        { rest with
          handed := reference :: rest.handed
          interrupted := rest.interrupted ||
            decide (0 < position ∧ state.references < after.references) }

/-- `GetNewSamplesImpl` of `ProxyEvent` and of `GenericProxyEvent`, which differ in where
they find the data of a slot.  Returned are the guards that are left, too. -/
def getNewSamplesImpl (numAvailableGuards : Nat) (state : Reception slots LogIndex) :
    HandOverProgram slots LogIndex (Nat × Nat × Reception slots LogIndex) := do
  let (slotIndices, lastTs) ← onProxy (onControl
    (state.collector.getNewSamplesSlotIndices numAvailableGuards))
  let state := state.collect slotIndices lastTs
  let handedOver ← forEachSlot receiver slotIndices.length numAvailableGuards state
  pure (slotIndices.length, handedOver.numAvailableGuards, handedOver.state.record
    { collected := state.collected slotIndices.length
      handed := handedOver.handed
      interrupted := handedOver.interrupted
      returned := slotIndices.length })

end Lola.ProxyEvent

/-- `GetNewSamples` of the proxy event, `subscribed` as its binding finds it. -/
def ProxyEvent.getNewSamplesWith (receiver : Invocation slots LogIndex) (subscribed : Bool)
    (passes maxNumSamples : Nat) (state : Reception slots LogIndex) :
    HandOverProgram slots LogIndex (Except ComErrc Nat × Reception slots LogIndex) := do
  let numGuards ← onProxy (SampleReferenceTracker.allocate passes maxNumSamples)
  if numGuards = 0 then
    pure (.error .maxSamplesReached, state)
  else if subscribed then do
    let (numSamples, left, state) ← Lola.ProxyEvent.getNewSamplesImpl receiver numGuards state
    onProxy (destroyGuardFactory left)
    pure (.ok numSamples, state)
  else do
    onProxy (destroyGuardFactory numGuards)
    pure (.error .notSubscribed, state)

/-- The code of a user, a receiver included: it destroys samples and gets new ones, as what
it was given tells it to. -/
inductive UserCode (slots : Nat) (LogIndex : Type) where
  | returns
  | destroy (sample : MwCom.SamplePtr slots LogIndex) (next : UserCode slots LogIndex)
  | getNewSamples (subscribed : Bool) (passes maxNumSamples : Nat)
      (receiver : MwCom.SamplePtr slots LogIndex → UserCode slots LogIndex)
      (next : Except ComErrc Nat → UserCode slots LogIndex)

def UserCode.code : UserCode slots LogIndex → Reception slots LogIndex →
    HandOverProgram slots LogIndex (Reception slots LogIndex)
  | .returns, state => pure state
  | .destroy sample next, state => do
      onProxy sample.destroy
      next.code state
  | .getNewSamples subscribed passes maxNumSamples receiver next, state => do
      let (result, state) ← ProxyEvent.getNewSamplesWith
        (fun sample state => (receiver sample).code state) subscribed passes maxNumSamples state
      (next result).code state

/-! ## The law -/

/-- Every reference that was collected is handed over once, in its place, and the call returns
how often it has invoked its receiver. -/
def GetNewSamplesRecord.Lawful (call : GetNewSamplesRecord slots) : Prop :=
  call.handed = call.collected ∧ call.returned = call.handed.length

/-- The references of all calls are different. -/
def Distinct (calls : List (GetNewSamplesRecord slots)) : Prop :=
  (calls.flatMap fun call => call.collected.map Reference.number).Nodup

/-- No guard is dereferenced that is not there. -/
def guardRules {View : Type} : Rules (HandOverOp slots LogIndex) HandOverOp.Ret View where
  may _ op := op ≠ .dereferenceGuard false
  expects _ _ _ := True
  next view _ _ := view

/-! ## What collections return -/

theorem collectRemaining_returns (collector : SlotCollector LogIndex) (remaining : Nat)
    (currentHighest : EventTimeStamp) (collectedSlots : List (Fin slots)) :
    (collector.collectRemaining remaining currentHighest collectedSlots).Returns
      fun result => result.length ≤ remaining + collectedSlots.length := by
  induction remaining generalizing currentHighest collectedSlots with
  | zero => exact Nat.le_of_eq (Nat.zero_add _).symm
  | succ remaining ih =>
      rw [SlotCollector.collectRemaining]
      apply (Program.Returns.any _).bind
      intro found _
      cases found with
      | none => exact Nat.le_add_left _ _
      | some slot =>
          intro word
          apply (ih _ _).mono
          intro result short
          rw [List.length_cons] at short
          omega

theorem getNewSamplesSlotIndices_returns (collector : SlotCollector LogIndex) (maxCount : Nat) :
    (collector.getNewSamplesSlotIndices maxCount :
      ControlProgram slots LogIndex _).Returns fun result => result.1.length ≤ maxCount := by
  apply (collectRemaining_returns collector (min maxCount collector.maxSlots) _ []).bind
  intro collectedSlots short
  apply (Program.Returns.any _).bind
  intro lastTs _
  exact short.trans (Nat.min_le_left _ _)

/-- A program that is read over a larger signature returns the same. -/
theorem returns_lift {Op Op' : Type} {Ret : Op → Type} {Ret' : Op' → Type} {α : Type}
    (inject : Op → Op') (answer : ∀ op, Ret' (inject op) → Ret op) {post : α → Prop}
    {program : Program Op Ret α} (returns : program.Returns post) :
    (program.lift inject answer).Returns post := by
  induction program with
  | done result => exact returns
  | step op next ih =>
      intro reply
      exact ih (answer op reply) (returns (answer op reply))

/-- Programs of the proxy dereference no guard. -/
theorem onProxy_respects {α : Type} {post : α → Prop} {program : ProxyProgram slots LogIndex α}
    (returns : program.Returns post) :
    (onProxy program).Respects guardRules () fun result _ => post result := by
  induction program with
  | done result => exact returns
  | step op next ih =>
      constructor
      · intro same
        cases same
      · intro answer _
        exact ih answer (returns answer)

theorem onProxy_respects_any {α : Type} (program : ProxyProgram slots LogIndex α) :
    (onProxy program).Respects guardRules () fun _ _ => True :=
  onProxy_respects (Program.Returns.any program)

/-! ## What a piece of user code does -/

/-- From one state to another: references are acquired or the buffer is as before; once
references were acquired its first entry is one of them; and the calls that have returned in
between are lawful exactly if they were not interrupted. -/
structure Reception.Passes (before after : Reception slots LogIndex) : Prop where
  grows : before.references ≤ after.references
  unchanged : after.references = before.references → after.collectedSlots = before.collectedSlots
  renewed : before.references < after.references →
    before.references ≤ (after.collectedSlots 0).number
  returned : ∃ calls, after.calls = before.calls ++ calls ∧
    (∀ call ∈ calls, call.Lawful ↔ call.interrupted = false) ∧ Distinct calls ∧
      ∀ call ∈ calls, ∀ reference ∈ call.collected,
        before.references ≤ reference.number ∧ reference.number < after.references

namespace Reception

theorem Passes.refl (state : Reception slots LogIndex) : state.Passes state where
  grows := Nat.le_refl _
  unchanged _ := rfl
  renewed impossible := absurd impossible (Nat.lt_irrefl _)
  returned := by
    refine ⟨[], (List.append_nil _).symm, ?_, List.nodup_nil, ?_⟩
    · intro call member
      cases member
    · intro call member
      cases member

theorem distinct_append {one two : List (GetNewSamplesRecord slots)}
    (oneDistinct : Distinct one) (twoDistinct : Distinct two)
    (apart : ∀ call ∈ one, ∀ reference ∈ call.collected, ∀ otherCall ∈ two,
      ∀ other ∈ otherCall.collected, reference.number ≠ other.number) :
    Distinct (one ++ two) := by
  rw [Distinct, List.flatMap_append, List.nodup_append]
  refine ⟨oneDistinct, twoDistinct, ?_⟩
  intro number inOne otherNumber inTwo
  obtain ⟨call, isCall, member⟩ := List.mem_flatMap.mp inOne
  obtain ⟨reference, collected, rfl⟩ := List.mem_map.mp member
  obtain ⟨otherCall, isOther, otherMember⟩ := List.mem_flatMap.mp inTwo
  obtain ⟨other, otherCollected, rfl⟩ := List.mem_map.mp otherMember
  exact apart call isCall reference collected otherCall isOther other otherCollected

theorem Passes.trans {before middle after : Reception slots LogIndex}
    (first : before.Passes middle) (second : middle.Passes after) : before.Passes after where
  grows := first.grows.trans second.grows
  unchanged same := by
    have low := first.grows
    have high := second.grows
    rw [second.unchanged (by omega), first.unchanged (by omega)]
  renewed acquired := by
    by_cases later : middle.references < after.references
    · exact first.grows.trans (second.renewed later)
    · have same : after.references = middle.references :=
        Nat.le_antisymm (Nat.le_of_not_lt later) second.grows
      rw [second.unchanged same]
      apply first.renewed
      rw [← same]
      exact acquired
  returned := by
    obtain ⟨one, isOne, oneLawful, oneDistinct, oneBounds⟩ := first.returned
    obtain ⟨two, isTwo, twoLawful, twoDistinct, twoBounds⟩ := second.returned
    refine ⟨one ++ two, ?_, ?_, ?_, ?_⟩
    · rw [isTwo, isOne, List.append_assoc]
    · intro call member
      rcases List.mem_append.mp member with inOne | inTwo
      · exact oneLawful call inOne
      · exact twoLawful call inTwo
    · apply distinct_append oneDistinct twoDistinct
      intro call isCall reference collected otherCall isOther other otherCollected
      have below := (oneBounds call isCall reference collected).2
      have above := (twoBounds otherCall isOther other otherCollected).1
      omega
    · intro call member reference collected
      rcases List.mem_append.mp member with inOne | inTwo
      · obtain ⟨low, high⟩ := oneBounds call inOne reference collected
        exact ⟨low, high.trans_le second.grows⟩
      · obtain ⟨low, high⟩ := twoBounds call inTwo reference collected
        exact ⟨first.grows.trans low, high⟩

theorem collected_congr {one two : Reception slots LogIndex}
    (same : one.collectedSlots = two.collectedSlots) (count : Nat) :
    one.collected count = two.collected count := by
  induction count with
  | zero => rfl
  | succ count ih => rw [collected, collected, same, ih]

/-- The last entry that is handed over is the first one of the buffer. -/
theorem getLast?_collected (state : Reception slots LogIndex) (count : Nat) :
    (state.collected (count + 1)).getLast? = some (state.collectedSlots 0) := by
  induction count with
  | zero => rfl
  | succ count ih =>
      rw [collected, List.getLast?_cons_of_ne_nil, ih]
      simp [collected]

theorem collect_position (state : Reception slots LogIndex) {slotIndices : List (Fin slots)}
    (lastTs : EventTimeStamp) {position : Nat} (inside : position < slotIndices.length) :
    ((state.collect slotIndices lastTs).collectedSlots position).number =
      state.references + position := by
  have isInside : position < slotIndices.reverse.length := by simpa using inside
  have found : slotIndices.reverse[position]? = some slotIndices.reverse[position] :=
    List.getElem?_eq_getElem isInside
  simp only [collect, found]

/-- A collection acquires new references. -/
theorem collect_passes (state : Reception slots LogIndex) (slotIndices : List (Fin slots))
    (lastTs : EventTimeStamp) : state.Passes (state.collect slotIndices lastTs) where
  grows := Nat.le_add_right _ _
  unchanged same := by
    have nothing : slotIndices = [] := by
      apply List.eq_nil_of_length_eq_zero
      change state.references + slotIndices.length = state.references at same
      omega
    subst nothing
    rfl
  renewed acquired := by
    have some : 0 < slotIndices.length := by
      change state.references < state.references + slotIndices.length at acquired
      omega
    rw [collect_position state _ some]
    exact Nat.le_add_right _ _
  returned := (Passes.refl state).returned.imp fun calls facts => by
    obtain ⟨isCalls, lawful, distinct, bounds⟩ := facts
    refine ⟨isCalls, lawful, distinct, ?_⟩
    intro call member reference collected
    obtain ⟨low, high⟩ := bounds call member reference collected
    exact ⟨low, high.trans_le (Nat.le_add_right _ _)⟩

/-- The numbers of what a collection has acquired. -/
theorem numbers_collected (state : Reception slots LogIndex) {slotIndices : List (Fin slots)}
    (lastTs : EventTimeStamp) {count : Nat} (inside : count ≤ slotIndices.length) :
    (((state.collect slotIndices lastTs).collected count).map Reference.number).Nodup ∧
      ∀ reference ∈ (state.collect slotIndices lastTs).collected count,
        state.references ≤ reference.number ∧ reference.number < state.references + count := by
  induction count with
  | zero =>
      refine ⟨List.nodup_nil, ?_⟩
      intro reference member
      cases member
  | succ count ih =>
      obtain ⟨distinct, bounds⟩ := ih (Nat.le_of_succ_le inside)
      have number := state.collect_position lastTs (Nat.lt_of_succ_le inside)
      rw [collected, List.map_cons, List.nodup_cons]
      refine ⟨⟨?_, distinct⟩, ?_⟩
      · intro member
        obtain ⟨reference, isCollected, same⟩ := List.mem_map.mp member
        have below := (bounds reference isCollected).2
        omega
      · intro reference member
        rcases List.mem_cons.mp member with rfl | later
        · omega
        · have between := bounds reference later
          omega

end Reception

namespace Reception

/-- A call returns: it has acquired its references before those of the calls in between. -/
theorem Passes.record {before middle after : Reception slots LogIndex}
    {call : GetNewSamplesRecord slots} (first : before.Passes middle)
    (second : middle.Passes after) (sameCalls : middle.calls = before.calls)
    (lawful : call.Lawful ↔ call.interrupted = false)
    (distinct : (call.collected.map Reference.number).Nodup) (bounds : ∀ reference ∈ call.collected,
      before.references ≤ reference.number ∧ reference.number < middle.references) :
    before.Passes (after.record call) where
  grows := (first.trans second).grows
  unchanged := (first.trans second).unchanged
  renewed := (first.trans second).renewed
  returned := by
    obtain ⟨calls, isCalls, callsLawful, callsDistinct, callsBounds⟩ := second.returned
    refine ⟨calls ++ [call], ?_, ?_, ?_, ?_⟩
    · change after.calls ++ [call] = _
      rw [isCalls, sameCalls, List.append_assoc]
    · intro other member
      rcases List.mem_append.mp member with nested | own
      · exact callsLawful other nested
      · rw [List.mem_singleton.mp own]
        exact lawful
    · apply distinct_append callsDistinct
      · rw [Distinct, List.flatMap_singleton]
        exact distinct
      · intro nested isNested reference collected other isOwn otherReference otherCollected
        rw [List.mem_singleton.mp isOwn] at otherCollected
        have above := (callsBounds nested isNested reference collected).1
        have below := (bounds otherReference otherCollected).2
        omega
    · intro other member reference collected
      rcases List.mem_append.mp member with nested | own
      · obtain ⟨low, high⟩ := callsBounds other nested reference collected
        exact ⟨first.grows.trans low, high⟩
      · rw [List.mem_singleton.mp own] at collected
        obtain ⟨low, high⟩ := bounds reference collected
        exact ⟨low, high.trans_le second.grows⟩

end Reception

/-! ## The loop -/

/-- What the loop over `count` entries makes of a state: it hands over what is in the buffer
at its start, or it was interrupted, and its last sample is another one. -/
structure HandedOver.Follows (result : HandedOver slots LogIndex)
    (state : Reception slots LogIndex) (count : Nat) : Prop where
  passes : state.Passes result.state
  length : result.handed.length = count
  whole : result.interrupted = false → result.handed = state.collected count
  broken : result.interrupted = true →
    ∃ last, result.handed.getLast? = some last ∧ state.references ≤ last.number

/-- Everything that user code may be relied on for. -/
def Invocation.Keeps (receiver : Invocation slots LogIndex) : Prop :=
  ∀ sample state, (receiver sample state).Respects guardRules () fun after _ =>
    state.Passes after

section Loop

variable {receiver : Invocation slots LogIndex}

/-- One more sample in front of the others. -/
theorem HandedOver.Follows.cons {rest : HandedOver slots LogIndex}
    {state after : Reception slots LogIndex} {position : Nat} (passes : state.Passes after)
    (follows : rest.Follows after position) :
    HandedOver.Follows
      { rest with
        handed := state.collectedSlots position :: rest.handed
        interrupted := rest.interrupted ||
          decide (0 < position ∧ state.references < after.references) }
      state (position + 1) where
  passes := passes.trans follows.passes
  length := by
    change rest.handed.length + 1 = position + 1
    rw [follows.length]
  whole quiet := by
    obtain ⟨restQuiet, notNow⟩ := Bool.or_eq_false_iff.mp quiet
    have kept := not_and.mp (of_decide_eq_false notNow)
    change state.collectedSlots position :: rest.handed = state.collected (position + 1)
    rw [Reception.collected, follows.whole restQuiet]
    cases position with
    | zero => rfl
    | succ position =>
        have same : after.references = state.references :=
          Nat.le_antisymm (Nat.le_of_not_lt (kept (Nat.succ_pos _))) passes.grows
        rw [Reception.collected_congr (passes.unchanged same)]
  broken interrupted := by
    -- the last sample of the rest is the last one of all
    have last_of_rest {last : Reference slots} (isLast : rest.handed.getLast? = some last) :
        (state.collectedSlots position :: rest.handed).getLast? = some last := by
      rw [List.getLast?_cons_of_ne_nil, isLast]
      intro nothing
      rw [nothing] at isLast
      cases isLast
    cases restInterrupted : rest.interrupted with
    | true =>
        obtain ⟨last, isLast, newer⟩ := follows.broken restInterrupted
        exact ⟨last, last_of_rest isLast, passes.grows.trans newer⟩
    | false =>
        change (rest.interrupted || _) = true at interrupted
        rw [restInterrupted, Bool.false_or] at interrupted
        obtain ⟨remaining, acquired⟩ := of_decide_eq_true interrupted
        obtain ⟨before, rfl⟩ := Nat.exists_eq_succ_of_ne_zero remaining.ne'
        refine ⟨after.collectedSlots 0, last_of_rest ?_, passes.renewed acquired⟩
        rw [follows.whole restInterrupted]
        exact after.getLast?_collected before

/-- The samples are those that were collected, unless the loop was interrupted. -/
theorem HandedOver.Follows.handed_iff {result : HandedOver slots LogIndex}
    {state : Reception slots LogIndex} {count : Nat} (follows : result.Follows state count)
    (older : ∀ reference ∈ state.collected count, reference.number < state.references) :
    result.handed = state.collected count ↔ result.interrupted = false := by
  constructor
  · intro whole
    by_contra interrupted
    obtain ⟨last, isLast, newer⟩ := follows.broken (Bool.eq_true_of_not_eq_false interrupted)
    rw [whole] at isLast
    exact absurd newer (Nat.not_le_of_lt (older last (List.mem_of_getLast? isLast)))
  · exact follows.whole

theorem forEachSlot_respects (keeps : receiver.Keeps) {count numAvailableGuards : Nat}
    (enough : count ≤ numAvailableGuards) (state : Reception slots LogIndex) :
    (Lola.ProxyEvent.forEachSlot receiver count numAvailableGuards state).Respects guardRules ()
      fun result _ => result.Follows state count := by
  induction count generalizing numAvailableGuards state with
  | zero =>
      constructor
      · exact Reception.Passes.refl state
      · rfl
      · intro _
        rfl
      · intro impossible
        cases impossible
  | succ position ih =>
      rw [Lola.ProxyEvent.forEachSlot]
      apply (onProxy_respects_any _).bind
      intro _ _ _
      have holdsGuard : decide (0 < numAvailableGuards) = true :=
        decide_eq_true (Nat.lt_of_lt_of_le (Nat.succ_pos _) enough)
      refine Program.Respects.perform ?_ fun _ _ => ?_
      · intro same
        rw [holdsGuard] at same
        cases same
      · apply (onProxy_respects_any _).bind
        intro _ _ _
        apply (keeps _ state).bind
        intro after _ passes
        apply (ih (Nat.le_sub_one_of_lt enough) after).bind
        intro rest _ follows
        exact follows.cons passes

end Loop

/-! ## A whole call -/

section Call

variable {receiver : Invocation slots LogIndex}

theorem getNewSamplesImpl_respects (keeps : receiver.Keeps) (numAvailableGuards : Nat)
    (state : Reception slots LogIndex) :
    (Lola.ProxyEvent.getNewSamplesImpl receiver numAvailableGuards state).Respects guardRules ()
      fun result _ => state.Passes result.2.2 := by
  have few := onProxy_respects (returns_lift ProxyOp.control (fun _ answer => answer)
    (@getNewSamplesSlotIndices_returns slots _ state.collector numAvailableGuards))
  apply few.bind
  intro indices _ enough
  obtain ⟨slotIndices, lastTs⟩ := indices
  apply (forEachSlot_respects keeps enough (state.collect slotIndices lastTs)).bind
  intro handedOver _ follows
  obtain ⟨distinct, bounds⟩ := state.numbers_collected lastTs (Nat.le_refl slotIndices.length)
  apply (state.collect_passes slotIndices lastTs).record follows.passes rfl _ distinct bounds
  have handed := follows.handed_iff fun reference member => (bounds reference member).2
  constructor
  · intro lawful
    exact handed.mp lawful.1
  · intro quiet
    exact ⟨handed.mpr quiet, follows.length.symm⟩

theorem getNewSamplesWith_respects (keeps : receiver.Keeps) (subscribed : Bool)
    (passes maxNumSamples : Nat) (state : Reception slots LogIndex) :
    (ProxyEvent.getNewSamplesWith receiver subscribed passes maxNumSamples state).Respects
      guardRules () fun result _ => state.Passes result.2 := by
  apply (onProxy_respects_any _).bind
  intro numGuards _ _
  split
  · exact Reception.Passes.refl state
  · split
    · apply (getNewSamplesImpl_respects keeps numGuards state).bind
      intro result _ passed
      apply (onProxy_respects_any _).bind
      intro _ _ _
      exact passed
    · apply (onProxy_respects_any _).bind
      intro _ _ _
      exact Reception.Passes.refl state

end Call

/-- Whatever the code of the user does. -/
theorem UserCode.code_respects (user : UserCode slots LogIndex) (state : Reception slots LogIndex) :
    (user.code state).Respects guardRules () fun after _ => state.Passes after := by
  induction user generalizing state with
  | returns => exact Reception.Passes.refl state
  | destroy sample next ih =>
      rw [UserCode.code]
      apply (onProxy_respects_any _).bind
      intro _ _ _
      exact ih state
  | getNewSamples subscribed passes maxNumSamples receiver next receives continues =>
      rw [UserCode.code]
      apply (getNewSamplesWith_respects _ subscribed passes maxNumSamples state).bind
      · intro result _ passed
        apply (continues result.1 result.2).mono
        intro after _ rest
        exact passed.trans rest
      · intro sample between
        exact receives sample between

/-! ## The system -/

/-- What a thread has received, and whether it has dereferenced a guard that was not there. -/
structure ReceivingThread (slots : Nat) (LogIndex : Type) where
  state : Reception slots LogIndex
  emptyGuard : Bool

namespace ReceivingThread

def observe (thread : ReceivingThread slots LogIndex) :
    (op : HandOverOp slots LogIndex) → op.Ret → ReceivingThread slots LogIndex
  | .dereferenceGuard false, _ => { thread with emptyGuard := true }
  | _, _ => thread

end ReceivingThread

/-- Only the user gets samples; other threads destroy some. -/
def UserCode.allowed {Worker : Type} : ProxyThread Worker → UserCode slots LogIndex → Bool
  | .user, _ => true
  | .worker _, .destroy _ .returns => true
  | .worker _, _ => false

section System

variable {Worker : Type} [DecidableEq LogIndex] [DecidableEq Worker]

def handOverSystem (slots : Nat) (LogIndex Worker : Type) [DecidableEq LogIndex]
    [DecidableEq Worker] (ampChecked : Bool) :
    System (ProxyThread Worker) (HandOverOp slots LogIndex) HandOverOp.Ret
      (ProxyMemory slots LogIndex) (ReceivingThread slots LogIndex) (UserCode slots LogIndex)
      (Reception slots LogIndex) where
  outcomes := HandOverOp.outcomes ampChecked
  mayCall thread _ call := call.allowed thread = true
  code _ object call := call.code object.state
  onCall _ _ object _ := object
  observe _ _ object op answer := object.observe op answer
  onReturn _ _ object _ reply := { object with state := reply }
  onCrash _ _ _ := none
  environment := OtherProcesses

instance (ampChecked : Bool) (thread : ProxyThread Worker)
    (object : ReceivingThread slots LogIndex) (call : UserCode slots LogIndex) :
    Decidable ((handOverSystem slots LogIndex Worker ampChecked).mayCall thread object call) :=
  inferInstanceAs (Decidable (_ = true))

instance [Fintype LogIndex] (ampChecked : Bool) (before after : ProxyMemory slots LogIndex) :
    Decidable ((handOverSystem slots LogIndex Worker ampChecked).environment before after) :=
  inferInstanceAs (Decidable (OtherProcesses before after))

abbrev HandOverConfig (slots : Nat) (LogIndex Worker : Type) :=
  Config (ProxyThread Worker) (HandOverOp slots LogIndex) HandOverOp.Ret
    (ProxyMemory slots LogIndex) (ReceivingThread slots LogIndex) (UserCode slots LogIndex)
    (Reception slots LogIndex)

/-- A subscribed event from which nothing was received, over any memory. -/
def handOverStart (collector : SlotCollector LogIndex)
    (collectedSlots : Nat → Reference slots) (memory : ProxyMemory slots LogIndex) :
    HandOverConfig slots LogIndex Worker where
  memory := memory
  object := fun _ => { state := .initial collector collectedSlots, emptyGuard := false }
  activity := fun _ => .idle

/-- The law of all calls that have returned. -/
structure HandOverLaw (config : HandOverConfig slots LogIndex Worker) : Prop where
  guards : (config.object .user).emptyGuard = false
  distinct : Distinct (config.object .user).state.calls
  lawful : ∀ call ∈ (config.object .user).state.calls, call.Lawful

/-- Every thread has received something lawful, if it was not interrupted. -/
def handOverContract (start : Reception slots LogIndex) (ampChecked : Bool) :
    Contract (handOverSystem slots LogIndex Worker ampChecked) (Reception slots LogIndex) where
  Inv config := ∀ thread,
    (config.object thread).emptyGuard = false ∧ start.Passes (config.object thread).state
  view config thread := (config.object thread).state
  rules _ := guardRules
  post _ _ reply view := view.Passes reply

theorem state_unseen {start : Reception slots LogIndex} {ampChecked : Bool}
    (config : HandOverConfig slots LogIndex Worker) (memory : ProxyMemory slots LogIndex)
    (thread : ProxyThread Worker) (object : ReceivingThread slots LogIndex)
    (activity : Activity (HandOverOp slots LogIndex) HandOverOp.Ret (UserCode slots LogIndex)
      (Reception slots LogIndex)) :
    (handOverContract start ampChecked).Unseen thread config
      (config.update memory thread object activity) := by
  intro other distinct
  change ((config.update _ _ _ _).object other).state = _
  rw [Config.update_object_of_ne distinct]
  rfl

omit [DecidableEq LogIndex] in
/-- A step after which its thread still has what it needs. -/
theorem inv_update {start : Reception slots LogIndex}
    {config : HandOverConfig slots LogIndex Worker} {memory : ProxyMemory slots LogIndex}
    {thread : ProxyThread Worker} {object : ReceivingThread slots LogIndex}
    {activity : Activity (HandOverOp slots LogIndex) HandOverOp.Ret (UserCode slots LogIndex)
      (Reception slots LogIndex)}
    (inv : ∀ thread,
      (config.object thread).emptyGuard = false ∧ start.Passes (config.object thread).state)
    (own : object.emptyGuard = false ∧ start.Passes object.state) :
    ∀ other, ((config.update memory thread object activity).object other).emptyGuard = false ∧
      start.Passes ((config.update memory thread object activity).object other).state := by
  intro other
  by_cases same : other = thread
  · subst same
    rw [Config.update_object_self]
    exact own
  · rw [Config.update_object_of_ne same]
    exact inv other

theorem handOver_obligations (start : Reception slots LogIndex) (ampChecked : Bool) :
    (handOverContract start ampChecked :
      Contract (handOverSystem slots LogIndex Worker ampChecked) _).Obligations
        fun _ _ => True where
  call := by
    intro config thread call inv _ _ _ after rfl
    refine ⟨inv_update inv (inv thread), state_unseen _ _ _ _ _, ?_⟩
    change Program.Respects _ _ ((config.update _ _ _ _).object thread).state _
    rw [Config.update_object_self]
    apply (Program.Respects.transfer guardRules (fun _ => ())
      (fun view => view = (config.object thread).state) (fun _ _ _ may => may)
      (fun _ _ _ kept _ _ => ⟨trivial, rfl, kept⟩) rfl
      (call.code_respects (config.object thread).state)).mono
    intro reply view passed
    obtain ⟨passes, rfl⟩ := passed
    exact passes
  perform := by
    intro config thread call op next answer memory inv _ _ may _ after rfl
    have observed : ((config.object thread).observe op answer) = config.object thread := by
      cases op with
      | proxy op => rfl
      | dereferenceGuard holdsGuard =>
          cases holdsGuard with
          | true => rfl
          | false => exact absurd rfl may
    change (∀ _, _) ∧ _
    refine ⟨inv_update inv ?_, state_unseen _ _ _ _ _, trivial, ?_⟩
    · change ((config.object thread).observe op answer).emptyGuard = false ∧
        start.Passes ((config.object thread).observe op answer).state
      rw [observed]
      exact inv thread
    · change ((config.update _ _ _ _).object thread).state = (config.object thread).state
      rw [Config.update_object_self]
      change ((config.object thread).observe op answer).state = _
      rw [observed]
  finish := by
    intro config thread call reply inv _ _ passed after rfl
    refine ⟨inv_update inv ?_, state_unseen _ _ _ _ _⟩
    exact ⟨(inv thread).1, (inv thread).2.trans passed⟩
  crash := by
    intro config thread object _ _ killed
    cases killed
  environment := by
    intro config memory inv _ _ after rfl
    exact ⟨inv, fun _ => rfl⟩

/-- In every run, the law holds exactly if no call was interrupted. -/
theorem handOverLaw_iff_of_reached {ampChecked : Bool} {collector : SlotCollector LogIndex}
    {collectedSlots : Nat → Reference slots} {memory : ProxyMemory slots LogIndex}
    {config : HandOverConfig slots LogIndex Worker}
    (reached : Reaches (handOverSystem slots LogIndex Worker ampChecked) (fun _ _ => True)
      (handOverStart collector collectedSlots memory) config) :
    HandOverLaw config ↔ ∀ call ∈ (config.object .user).state.calls, call.interrupted = false := by
  have holds := Contract.run
    (handOver_obligations (.initial collector collectedSlots) ampChecked)
    (fun _ => ⟨rfl, Reception.Passes.refl _⟩) (fun _ => rfl) reached
  obtain ⟨guards, passes⟩ := holds.inv .user
  obtain ⟨calls, isCalls, lawful, distinct, -⟩ := passes.returned
  have all : (config.object .user).state.calls = calls := isCalls
  rw [← all] at lawful distinct
  constructor
  · intro law call member
    exact (lawful call member).mp (law.lawful call member)
  · intro quiet
    exact ⟨guards, distinct, fun call member => (lawful call member).mpr (quiet call member)⟩

end System

section TwoSamples

instance (call : GetNewSamplesRecord slots) : Decidable call.Lawful :=
  inferInstanceAs (Decidable (_ ∧ _))

/-- The shared memory of an event with three slots and one subscription of all of them. -/
def threeSlots (stateSlots : Fin 3 → StatusWord)
    (referenceCountSlots : Fin 3 → TransactionLogSlot) : EventControl 3 (Fin 1) where
  stateSlots
  transactionLogs := fun _ =>
    { isActive := true
      needsRollback := false
      transactionLog :=
        { referenceCountSlots
          subscribeTransactions := .recorded
          subscriptionMaxSampleCount := some 3 } }
  currentSubscriptionState := EventSubscriptionControl.createState 3 1

/-- The process of that subscription, with two samples sent. -/
def twoSent : HandOverConfig 3 (Fin 1) (Fin 1) :=
  handOverStart { lastTs := 0, maxSlots := 3, transactionLogIndex := 0 }
    (fun _ => { slot := 0, number := 0 })
    { control := threeSlots
        ![(EventSlotStatus.ofTimeStamp 1 0).data, (EventSlotStatus.ofTimeStamp 2 0).data,
          EventSlotStatus.invalid] fun _ => .empty
      transactionLogMutex := false
      registered := some 0
      availableSamples := 3
      maxNumSamples := 3
      samples := [] }

/-- The receiver of two samples looks for another one each time it is invoked. -/
def lookAgain : UserCode 3 (Fin 1) := .getNewSamples true 5 2
    (fun _ => .getNewSamples true 5 1 (fun _ => .returns) fun _ => .returns) fun _ => .returns

theorem handOverLaw_of_nothingNew : ∃ config : HandOverConfig 3 (Fin 1) (Fin 1),
      (∃ call ∈ (config.object .user).state.calls, call.returned = 2) ∧ HandOverLaw config := by
  obtain ⟨config, reached, returned, quiet⟩ :=
    exists_reached (handOverSystem 3 (Fin 1) (Fin 1) true) (fun _ _ => True) twoSent
      (List.flatten [[.call .user lookAgain], .replicate 66 (.perform .user 0), [.finish .user]])
      (fun config => (∃ call ∈ (config.object .user).state.calls, call.returned = 2) ∧
        ∀ call ∈ (config.object .user).state.calls, call.interrupted = false)
      (by decide +kernel)
  exact ⟨config, returned, (handOverLaw_iff_of_reached reached).mpr quiet⟩

/-- A third sample is sent while the receiver has the first. -/
def sendThird : ProxyMemory 3 (Fin 1) where
  control := threeSlots
    ![(EventSlotStatus.ofTimeStamp 1 1).data, (EventSlotStatus.ofTimeStamp 2 1).data,
      (EventSlotStatus.ofTimeStamp 3 0).data] ![.recorded, .recorded, .empty]
  transactionLogMutex := false
  registered := some 0
  availableSamples := 1
  maxNumSamples := 3
  samples := [{ slotIndex := 0, transactionLogIdx := 0 }]

/-- The third sample is handed over twice, and the second one never. -/
theorem handOverLaw_violated : ¬ ∀ config : HandOverConfig 3 (Fin 1) (Fin 1),
      Reaches (handOverSystem 3 (Fin 1) (Fin 1) true) (fun _ _ => True) twoSent config →
        HandOverLaw config := by
  intro law
  obtain ⟨config, reached, call, member, unlawful⟩ :=
    exists_reached (handOverSystem 3 (Fin 1) (Fin 1) true) (fun _ _ => True) twoSent
      (List.flatten [[.call .user lookAgain], .replicate 41 (.perform .user 0),
         [.environment sendThird], .replicate 27 (.perform .user 0), [.finish .user]])
      (fun config => ∃ call ∈ (config.object .user).state.calls, ¬ call.Lawful)
      (by decide +kernel)
  exact unlawful ((law config reached).lawful call member)

end TwoSamples

end MwCom
