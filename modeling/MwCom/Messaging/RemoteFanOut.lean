/-
Module: MwCom.Messaging.RemoteFanOut
Purpose: Which nodes one update of an event is sent to, while other threads register,
  unregister and remove nodes between the steps of the call.
Trusted boundary: none
Main exports: OthersMove, notifiedNodes, notifiedNodes_increasing, notifyEventRemote_fanOut
-/
import Mathlib.Data.Finset.Card
import MwCom.Interleaving.Interference
import MwCom.Messaging.OutdatedNodes

namespace MwCom.Messaging.RemoteFanOut

open Interleaving
open Relation (ReflTransGen)

variable {EventId : Type} [DecidableEq EventId]

/-- Any step of a thread that handles a message or notifies nodes itself. -/
def OthersMove (before after : RemoteMemory EventId) : Prop :=
  ∃ op answer, (answer, after) ∈ RemoteOp.outcomes op before

/-- What a call has performed, with the memory that each of its steps found. -/
abbrev Steps (EventId : Type) :=
  List (Performed (RemoteOp EventId) RemoteOp.Ret (RemoteMemory EventId))

/-- The program ends in this way while others move. -/
def EndsAmidOthers {α : Type} (program : RemoteProgram EventId α)
    (start : RemoteMemory EventId) (performed : Steps EventId) (result : α)
    (after : RemoteMemory EventId) : Prop :=
  program.EndsAmid RemoteOp.outcomes OthersMove start performed (some result) after

/-- The nodes that the call sent its message to. -/
def notifiedNodes (performed : Steps EventId) : List ℤ := performed.filterMap fun step =>
    match step.op with
    | .send node => some node
    | _ => none

omit [DecidableEq EventId] in
@[simp] theorem notifiedNodes_append (earlier later : Steps EventId) :
    notifiedNodes (earlier ++ later) = notifiedNodes earlier ++ notifiedNodes later :=
  List.filterMap_append

/-! ## One buffer -/

variable {start after : RemoteMemory EventId} {performed : Steps EventId}

/-- The message is sent to each node in the buffer, in their order. -/
theorem notifiedNodes_notifyNodes {nodes : List ℤ}
    (ends : EndsAmidOthers (RemoteProgram.notifyNodes nodes) start performed () after) :
    notifiedNodes performed = nodes := by
  induction nodes generalizing start performed with
  | nil =>
      rcases ends with ⟨rfl, _, _⟩
      rfl
  | cons node rest ih =>
      rcases Program.EndsAmid.perform_cases ends with ⟨found, _, stopped | continued⟩
      · cases stopped.2.2.1
      · rcases continued with ⟨_, middle, later, _, rfl, sends⟩
        rcases Program.EndsAmid.perform_cases sends with ⟨foundToo, _, stopped | continued⟩
        · cases stopped.2.2.1
        · rcases continued with ⟨sent, between, latest, _, rfl, continues⟩
          have ofRest := ih continues
          simpa [notifiedNodes] using ofRest

variable {event : EventId} {remaining : ℕ} {begin : ℤ}

/-- One pass of the loop: the buffer is copied and sent, then the loop is over or the next
pass starts behind it. -/
theorem notifyBuffers_cases
    (ends : EndsAmidOthers (RemoteProgram.notifyBuffers event (remaining + 1) begin) start
      performed () after) :
    ∃ found earlier later middle, performed = ⟨.copyNodeIdentifiers event begin, found,
        found.copyNodeIdentifiers event begin⟩ :: (earlier ++ later) ∧
      notifiedNodes earlier = (found.copyNodeIdentifiers event begin).1 ∧
      (((found.copyNodeIdentifiers event begin).2 = false ∧ later = []) ∨
        ((found.copyNodeIdentifiers event begin).2 = true ∧
          EndsAmidOthers (RemoteProgram.notifyBuffers event remaining
            ((found.copyNodeIdentifiers event begin).1.getLastD 0 + 1)) middle later () after)) := by
  rcases Program.EndsAmid.perform_cases ends with ⟨found, _, stopped | continued⟩
  · cases stopped.2.2.1
  · rcases continued with ⟨copied, between, performedLater, outcome, rfl, goesOn⟩
    cases List.mem_singleton.mp outcome
    rcases Program.EndsAmid.bind_cases goesOn with ⟨isNone, _⟩ | composed
    · cases isNone
    · rcases composed with ⟨earlier, later, _, middle, rfl, sends, loops⟩
      exists found, earlier, later, middle
      cases further : (found.copyNodeIdentifiers event begin).2 with
      | false =>
          rw [further] at loops
          rcases loops with ⟨nothing, _, _⟩
          exact ⟨rfl, notifiedNodes_notifyNodes sends, .inl ⟨rfl, nothing⟩⟩
      | true =>
          rw [further] at loops
          exact ⟨rfl, notifiedNodes_notifyNodes sends, .inr ⟨rfl, loops⟩⟩

omit [DecidableEq EventId] in
@[simp] theorem notifiedNodes_copying {found : RemoteMemory EventId} {copied : List ℤ × Bool}
    {later : Steps EventId} :
    notifiedNodes (⟨.copyNodeIdentifiers event begin, found, copied⟩ :: later) =
      notifiedNodes later :=
  rfl

/-! ## What is copied -/

section Copying

variable {memory : RemoteMemory EventId} {event : EventId} {begin node : ℤ}

omit [DecidableEq EventId] in
/-- Identifiers are copied in their order, from the first that is wanted on. -/
theorem copied_increasing (memory : RemoteMemory EventId) (event : EventId) (begin : ℤ) :
    (memory.copyNodeIdentifiers event begin).1.Pairwise (· < ·) ∧
      ∀ copied ∈ (memory.copyNodeIdentifiers event begin).1, begin ≤ copied := by
  rw [RemoteMemory.copyNodeIdentifiers]
  cases memory.eventUpdateInterestedNodes event with
  | none => simp
  | some set =>
      constructor
      · exact (set.sorted.filter _).sublist (List.take_sublist _ _)
      · intro copied member
        exact of_decide_eq_true (List.mem_filter.mp (List.mem_of_mem_take member)).2

omit [DecidableEq EventId] in
/-- Where more could have been copied, the buffer is full. -/
theorem length_copied (further : (memory.copyNodeIdentifiers event begin).2 = true) :
    (memory.copyNodeIdentifiers event begin).1.length = bufferSize := by
  rw [RemoteMemory.copyNodeIdentifiers] at further ⊢
  cases isSet : memory.eventUpdateInterestedNodes event with
  | none => simp [isSet] at further
  | some set =>
      simp only [isSet, decide_eq_true_eq] at further
      exact List.length_take_of_le further.le

/-- None of a list that increases is above its last. -/
theorem le_getLastD {nodes : List ℤ} (increasing : nodes.Pairwise (· < ·))
    (member : node ∈ nodes) : node ≤ nodes.getLastD 0 := by
  rcases List.eq_nil_or_concat nodes with rfl | ⟨front, last, rfl⟩
  · cases member
  · rw [List.concat_eq_append] at increasing member ⊢
    rw [List.pairwise_append] at increasing
    rw [List.getLastD_concat]
    rcases List.mem_append.mp member with before | isLast
    · exact (increasing.2.2 node before last (List.mem_singleton_self last)).le
    · exact (List.mem_singleton.mp isLast).le

omit [DecidableEq EventId] in
/-- A full buffer does not end before what was wanted. -/
theorem begin_le_getLastD (further : (memory.copyNodeIdentifiers event begin).2 = true) :
    begin ≤ (memory.copyNodeIdentifiers event begin).1.getLastD 0 := by
  have copied := copied_increasing memory event begin
  have full := length_copied further
  rcases List.exists_mem_of_length_pos (by rw [full]; decide) with ⟨first, isFirst⟩
  exact (copied.2 first isFirst).trans (le_getLastD copied.1 isFirst)

omit [DecidableEq EventId] in
/-- A node that is interested is copied, or it is behind a full buffer. -/
theorem copied_or_behind (interested : memory.Interested event node) (wanted : begin ≤ node) :
    node ∈ (memory.copyNodeIdentifiers event begin).1 ∨
      ((memory.copyNodeIdentifiers event begin).2 = true ∧
        (memory.copyNodeIdentifiers event begin).1.getLastD 0 < node) := by
  rcases interested with ⟨set, isSet, member⟩
  have inBound : node ∈ set.lowerBound begin := by simp [NodeSet.lowerBound, member, wanted]
  have increasing : (set.lowerBound begin).Pairwise (· < ·) := set.sorted.filter _
  simp only [RemoteMemory.copyNodeIdentifiers, isSet, decide_eq_true_eq]
  rw [← List.take_append_drop bufferSize (set.lowerBound begin)] at inBound increasing
  rw [List.pairwise_append] at increasing
  rcases List.mem_append.mp inBound with taken | behind
  · exact .inl taken
  · right
    constructor
    · by_contra fits
      rw [List.drop_eq_nil_of_le (by omega)] at behind
      cases behind
    · have notEmpty : (set.lowerBound begin).take bufferSize ≠ [] := by
        intro nothing
        rcases List.take_eq_nil_iff.mp nothing with none | empty
        · cases none
        · rw [empty, List.drop_nil] at behind
          cases behind
      rw [List.getLastD_eq_getLast?, List.getLast?_eq_some_getLast notEmpty]
      exact increasing.2.2 _ (List.getLast_mem notEmpty) _ behind

end Copying

/-! ## At most one message -/

/-- The message goes to nodes in the order of their identifiers, from the first that is
wanted on. -/
theorem notifiedNodes_increasing
    (ends : EndsAmidOthers (RemoteProgram.notifyBuffers event remaining begin) start performed ()
      after) :
    (notifiedNodes performed).Pairwise (· < ·) ∧
      ∀ node ∈ notifiedNodes performed, begin ≤ node := by
  induction remaining generalizing begin start performed with
  | zero =>
      rcases ends with ⟨rfl, _, _⟩
      simp [notifiedNodes]
  | succ remaining ih =>
      rcases notifyBuffers_cases ends with ⟨found, earlier, later, middle, rfl, sent, rest⟩
      have copied := copied_increasing found event begin
      rw [notifiedNodes_copying, notifiedNodes_append, sent]
      rcases rest with ⟨_, rfl⟩ | ⟨further, loops⟩
      · simpa [notifiedNodes] using copied
      · rcases ih loops with ⟨increasing, above⟩
        -- everything that is sent later is above the last in this buffer
        have behind : ∀ first ∈ (found.copyNodeIdentifiers event begin).1,
            ∀ second ∈ notifiedNodes later, first < second := by
          intro first isFirst second isSecond
          have upToLast := le_getLastD copied.1 isFirst
          have fromLast := above second isSecond
          omega
        constructor
        · exact List.pairwise_append.mpr ⟨copied.1, increasing, behind⟩
        · intro node member
          rcases List.mem_append.mp member with isCopied | isLater
          · exact copied.2 node isCopied
          · have upToLast := begin_le_getLastD further
            have fromLast := above node isLater
            omega

/-! ## At least one message -/

/-- The node is in the set whenever the call looks. -/
def StaysInterested (event : EventId) (performed : Steps EventId) (node : ℤ) : Prop :=
  ∀ step ∈ performed, step.found.Interested event node

/-- Of the nodes that are looked for, only these are in the set when the call looks. -/
def InterestedAmong (event : EventId) (performed : Steps EventId) (nodes : Finset ℤ) : Prop :=
  ∀ step ∈ performed, ∀ node, 0 ≤ node → step.found.Interested event node → node ∈ nodes

omit [DecidableEq EventId] in
/-- A full buffer takes as many of the nodes that may come as it holds. -/
theorem card_behind {memory : RemoteMemory EventId} {limit : ℕ} {nodes : Finset ℤ}
    (among : ∀ node, 0 ≤ node → memory.Interested event node → node ∈ nodes) (positive : 0 ≤ begin)
    (further : (memory.copyNodeIdentifiers event begin).2 = true)
    (few : (nodes.filter (begin ≤ ·)).card ≤ limit + bufferSize) :
    (nodes.filter ((memory.copyNodeIdentifiers event begin).1.getLastD 0 + 1 ≤ ·)).card ≤
      limit := by
  have copied := copied_increasing memory event begin
  have full := length_copied further
  have distinct : (memory.copyNodeIdentifiers event begin).1.Nodup :=
    copied.1.imp fun before => before.ne
  have disjoint : Disjoint (memory.copyNodeIdentifiers event begin).1.toFinset
      (nodes.filter ((memory.copyNodeIdentifiers event begin).1.getLastD 0 + 1 ≤ ·)) := by
    rw [Finset.disjoint_left]
    intro node isCopied isBehind
    have upToLast := le_getLastD copied.1 (List.mem_toFinset.mp isCopied)
    have above := (Finset.mem_filter.mp isBehind).2
    omega
  have inside : (memory.copyNodeIdentifiers event begin).1.toFinset ∪
      nodes.filter ((memory.copyNodeIdentifiers event begin).1.getLastD 0 + 1 ≤ ·) ⊆
        nodes.filter (begin ≤ ·) := by
    intro node member
    rw [Finset.mem_filter]
    rcases Finset.mem_union.mp member with isCopied | isBehind
    · have isCopied := List.mem_toFinset.mp isCopied
      have wanted := copied.2 node isCopied
      exact ⟨among node (positive.trans wanted) (RemoteMemory.interested_of_copied isCopied), wanted⟩
    · rcases Finset.mem_filter.mp isBehind with ⟨isNode, above⟩
      have upToLast := begin_le_getLastD further
      exact ⟨isNode, by omega⟩
  have counted := Finset.card_le_card inside
  rw [Finset.card_union_of_disjoint disjoint, List.toFinset_card_of_nodup distinct, full] at counted
  omega

/-- While the passes that are left suffice for the nodes that may come, every node that
stays in the set is sent the message. -/
theorem notified_of_stays {node : ℤ} {nodes : Finset ℤ}
    (ends : EndsAmidOthers (RemoteProgram.notifyBuffers event remaining begin) start performed ()
      after)
    (among : InterestedAmong event performed nodes)
    (few : (nodes.filter (begin ≤ ·)).card ≤ remaining * bufferSize)
    (stays : StaysInterested event performed node) (isNode : node ∈ nodes) (positive : 0 ≤ begin)
    (wanted : begin ≤ node) :
    node ∈ notifiedNodes performed := by
  induction remaining generalizing begin start performed with
  | zero =>
      have none : nodes.filter (begin ≤ ·) = ∅ := by
        apply Finset.card_eq_zero.mp
        omega
      have member : node ∈ nodes.filter (begin ≤ ·) := Finset.mem_filter.mpr ⟨isNode, wanted⟩
      rw [none] at member
      exact absurd member (Finset.notMem_empty _)
  | succ remaining ih =>
      rcases notifyBuffers_cases ends with ⟨found, earlier, later, middle, rfl, sent, rest⟩
      have interested : found.Interested event node := stays _ List.mem_cons_self
      rw [notifiedNodes_copying, notifiedNodes_append, sent]
      apply List.mem_append.mpr
      rcases copied_or_behind interested wanted with isCopied | ⟨further, behind⟩
      · exact .inl isCopied
      · right
        rcases rest with ⟨nothing, _⟩ | ⟨_, loops⟩
        · rw [further] at nothing
          cases nothing
        · apply ih loops
          · intro step isLater
            exact among step (by simp [isLater])
          · apply card_behind (among _ List.mem_cons_self) positive further
            rw [Nat.succ_mul] at few
            exact few
          · intro step isLater
            exact stays step (by simp [isLater])
          · have upToLast := begin_le_getLastD further
            omega
          · omega

/-- No node is sent more than one message, and each that stays in the set is sent one, if
the nodes that come into the set during the call are no more than the passes of the loop
take.  The search starts at 0: a negative identifier is stored as it arrives, but not found. -/
theorem notifyEventRemote_fanOut {event : EventId} {start after : RemoteMemory EventId}
    {performed : Steps EventId}
    (ends : EndsAmidOthers (RemoteProgram.notifyEventRemote event) start performed () after) :
    (∀ node, (notifiedNodes performed).count node ≤ 1) ∧
      ∀ nodes : Finset ℤ, nodes.card ≤ 255 * bufferSize → InterestedAmong event performed nodes →
        ∀ node, 0 ≤ node → StaysInterested event performed node →
          (notifiedNodes performed).count node = 1 := by
  have distinct : (notifiedNodes performed).Nodup :=
    (notifiedNodes_increasing ends).1.imp fun before => before.ne
  constructor
  · exact List.nodup_iff_count_le_one.mp distinct
  · intro nodes few among node wanted stays
    rcases notifyBuffers_cases ends with ⟨found, earlier, later, middle, isPerformed, _, _⟩
    have isNode : node ∈ nodes := by
      rw [isPerformed] at among stays
      exact among _ List.mem_cons_self node wanted (stays _ List.mem_cons_self)
    apply List.count_eq_one_of_mem distinct
    apply notified_of_stays ends among _ stays isNode (le_refl 0) wanted
    exact (Finset.card_filter_le _ _).trans few

/-- The memory in which one event has these interested nodes, and nothing was sent. -/
def interestedOnly (set : NodeSet) : RemoteMemory Unit where
  eventUpdateInterestedNodes _ := some set
  senders := ∅
  retired := ∅

/-- Node 5 registers before the buffer is filled; sending to it fails. -/
theorem fanOut_registered : ∃ performed after,
      EndsAmidOthers (RemoteProgram.notifyEventRemote ()) (interestedOnly ⟨[3], by simp⟩)
        performed () after ∧
      (notifiedNodes performed).count 3 = 1 ∧ (notifiedNodes performed).count 5 ≤ 1 := by
  let found : RemoteMemory Unit := (interestedOnly ⟨[3], by simp⟩).insertNode () 5
  let third := found.getMessagePassingSender 3
  let fifth := third.getMessagePassingSender 5
  have registers : OthersMove (interestedOnly ⟨[3], by simp⟩) found :=
    ⟨.insertNode () 5, _, List.mem_singleton_self _⟩
  have ends : EndsAmidOthers (RemoteProgram.notifyEventRemote ()) (interestedOnly ⟨[3], by simp⟩)
      [⟨.copyNodeIdentifiers () 0, found, ([3, 5], false)⟩,
        ⟨.getMessagePassingSender 3, found, ()⟩, ⟨.send 3, third, true⟩,
        ⟨.getMessagePassingSender 5, third, ()⟩, ⟨.send 5, fifth, false⟩] () fifth :=
    ⟨found, .single registers, .inr ⟨_, found, _, List.mem_singleton_self _, rfl,
      found, .refl, .inr ⟨_, third, _, List.mem_singleton_self _, rfl,
      third, .refl, .inr ⟨true, third, _, by simp [RemoteOp.outcomes], rfl,
      third, .refl, .inr ⟨_, fifth, _, List.mem_singleton_self _, rfl,
      fifth, .refl, .inr ⟨false, fifth, _, by simp [RemoteOp.outcomes], rfl,
      rfl, rfl, .refl⟩⟩⟩⟩⟩⟩
  have sameNodes : ∀ memory ∈ [found, third, fifth],
      memory.eventUpdateInterestedNodes () = some ⟨[3, 5], by simp⟩ := by
    intro memory member
    simp only [List.mem_cons, List.not_mem_nil, or_false] at member
    rcases member with rfl | rfl | rfl <;> rfl
  have law := notifyEventRemote_fanOut ends
  refine ⟨_, _, ends, law.2 {3, 5} (by decide) ?_ 3 (by decide) ?_, law.1 5⟩
  · intro step member node _ interested
    rcases interested with ⟨set, isSet, isNode⟩
    have isFound : step.found ∈ [found, third, fifth] := by
      simp only [List.mem_cons, List.not_mem_nil, or_false] at member ⊢
      rcases member with rfl | rfl | rfl | rfl | rfl <;> simp
    rw [sameNodes _ isFound] at isSet
    cases isSet
    simpa using isNode
  · intro step member
    have isFound : step.found ∈ [found, third, fifth] := by
      simp only [List.mem_cons, List.not_mem_nil, or_false] at member ⊢
      rcases member with rfl | rfl | rfl | rfl | rfl <;> simp
    exact ⟨_, sameNodes _ isFound, by simp⟩

/-! ## When the nodes are more than the passes take -/

omit [DecidableEq EventId] in
theorem length_copied_le (memory : RemoteMemory EventId) (event : EventId) (begin : ℤ) :
    (memory.copyNodeIdentifiers event begin).1.length ≤ bufferSize := by
  rw [RemoteMemory.copyNodeIdentifiers]
  cases memory.eventUpdateInterestedNodes event with
  | none => simp
  | some set => exact List.length_take_le _ _

theorem length_notifiedNodes_le
    (ends : EndsAmidOthers (RemoteProgram.notifyBuffers event remaining begin) start performed ()
      after) :
    (notifiedNodes performed).length ≤ remaining * bufferSize := by
  induction remaining generalizing begin start performed with
  | zero =>
      rcases ends with ⟨rfl, _, _⟩
      simp [notifiedNodes]
  | succ remaining ih =>
      rcases notifyBuffers_cases ends with ⟨found, earlier, later, middle, rfl, sent, rest⟩
      have copied := length_copied_le found event begin
      rw [notifiedNodes_copying, notifiedNodes_append, sent, List.length_append, Nat.succ_mul]
      rcases rest with ⟨_, rfl⟩ | ⟨_, loops⟩
      · simp only [notifiedNodes, List.filterMap_nil, List.length_nil]
        omega
      · have ofRest := ih loops
        omega

/-- The first node that is wanted is sent the message. -/
theorem notified_begin
    (ends : EndsAmidOthers (RemoteProgram.notifyBuffers event (remaining + 1) begin) start
      performed () after)
    (stays : StaysInterested event performed begin) : begin ∈ notifiedNodes performed := by
  rcases notifyBuffers_cases ends with ⟨found, earlier, later, middle, rfl, sent, _⟩
  have interested : found.Interested event begin := stays _ List.mem_cons_self
  rw [notifiedNodes_copying, notifiedNodes_append, sent]
  rcases copied_or_behind interested le_rfl with isCopied | ⟨further, behind⟩
  · exact List.mem_append_left _ isCopied
  · exact absurd (begin_le_getLastD further) (not_le_of_gt behind)

/-- Without others a call comes to its end. -/
theorem notifyNodes_ends (nodes : List ℤ) (start : RemoteMemory EventId) : ∃ performed after,
      EndsAmidOthers (RemoteProgram.notifyNodes nodes) start performed () after ∧
      (∀ step ∈ performed,
        step.found.eventUpdateInterestedNodes = start.eventUpdateInterestedNodes) ∧
      after.eventUpdateInterestedNodes = start.eventUpdateInterestedNodes := by
  induction nodes generalizing start with
  | nil => exact ⟨[], start, ⟨rfl, rfl, .refl⟩, by simp, rfl⟩
  | cons node rest ih =>
      rcases ih (start.getMessagePassingSender node) with ⟨performed, after, ends, same, sameAfter⟩
      exists ⟨.getMessagePassingSender node, start, ()⟩ ::
        ⟨.send node, start.getMessagePassingSender node, true⟩ :: performed, after
      refine ⟨⟨start, .refl, .inr ⟨_, _, _, List.mem_singleton_self _, rfl, _, .refl,
        .inr ⟨true, _, _, by simp [RemoteOp.outcomes], rfl, ends⟩⟩⟩, ?_, sameAfter⟩
      intro step member
      rcases List.mem_cons.mp member with rfl | member
      · rfl
      · rcases List.mem_cons.mp member with rfl | member
        · rfl
        · exact same step member

/-- A pass after which the others move, and the passes that follow. -/
theorem notifyBuffers_pass {middle moved : RemoteMemory EventId} {earlier later : Steps EventId}
    (sends : EndsAmidOthers (RemoteProgram.notifyNodes
      (start.copyNodeIdentifiers event begin).1) start earlier () middle)
    (move : ReflTransGen OthersMove middle moved)
    (further : (start.copyNodeIdentifiers event begin).2 = true)
    (loops : EndsAmidOthers (RemoteProgram.notifyBuffers event remaining
      ((start.copyNodeIdentifiers event begin).1.getLastD 0 + 1)) moved later () after) :
    EndsAmidOthers (RemoteProgram.notifyBuffers event (remaining + 1) begin) start
      (⟨.copyNodeIdentifiers event begin, start, start.copyNodeIdentifiers event begin⟩ ::
        (earlier ++ later)) () after := by
  refine ⟨start, .refl, .inr ⟨_, start, _, List.mem_singleton_self _, rfl, ?_⟩⟩
  apply Program.EndsAmid.bind sends
  rw [further]
  exact loops.before move

theorem notifyBuffers_ends (event : EventId) (remaining : ℕ) (begin : ℤ) (start : RemoteMemory EventId) :
    ∃ performed after,
      EndsAmidOthers (RemoteProgram.notifyBuffers event remaining begin) start performed ()
        after ∧
      ∀ step ∈ performed,
        step.found.eventUpdateInterestedNodes = start.eventUpdateInterestedNodes := by
  induction remaining generalizing begin start with
  | zero => exact ⟨[], start, ⟨rfl, rfl, .refl⟩, by simp⟩
  | succ remaining ih =>
      rcases notifyNodes_ends (start.copyNodeIdentifiers event begin).1 start with
        ⟨earlier, middle, sends, sameEarlier, sameMiddle⟩
      cases further : (start.copyNodeIdentifiers event begin).2 with
      | false =>
          exists ⟨.copyNodeIdentifiers event begin, start, start.copyNodeIdentifiers event begin⟩ ::
            (earlier ++ []), middle
          constructor
          · refine ⟨start, .refl, .inr ⟨_, start, _, List.mem_singleton_self _, rfl, ?_⟩⟩
            apply Program.EndsAmid.bind sends
            rw [further]
            exact ⟨rfl, rfl, .refl⟩
          · intro step member
            rw [List.append_nil] at member
            rcases List.mem_cons.mp member with rfl | isEarlier
            · rfl
            · exact sameEarlier step isEarlier
      | true =>
          rcases ih ((start.copyNodeIdentifiers event begin).1.getLastD 0 + 1) middle with
            ⟨later, after, loops, sameLater⟩
          exists _, after, notifyBuffers_pass sends .refl further loops
          intro step member
          rcases List.mem_cons.mp member with rfl | member
          · rfl
          · rcases List.mem_append.mp member with isEarlier | isLater
            · exact sameEarlier step isEarlier
            · exact (sameLater step isLater).trans sameMiddle

/-- Identifiers in a row. -/
def identifiers (first : ℤ) (count : ℕ) : List ℤ :=
  (List.range count).map (fun offset : ℕ => first + offset)

theorem mem_identifiers {first node : ℤ} {count : ℕ} :
    node ∈ identifiers first count ↔ first ≤ node ∧ node < first + count := by
  rw [identifiers, List.mem_map]
  constructor
  · rintro ⟨offset, inRange, rfl⟩
    have below := List.mem_range.mp inRange
    omega
  · rintro ⟨_, below⟩
    exact ⟨(node - first).toNat, List.mem_range.mpr (by omega), by omega⟩

theorem identifiers_increasing (first : ℤ) (count : ℕ) :
    (identifiers first count).Pairwise (· < ·) := by
  rw [identifiers, List.pairwise_map]
  exact List.pairwise_lt_range.imp fun before => by simpa using before

@[simp] theorem length_identifiers (first : ℤ) (count : ℕ) :
    (identifiers first count).length = count := by
  simp [identifiers]

/-- As many nodes as the passes take; 21 is not among them. -/
def fullSet : NodeSet where
  nodes := identifiers 1 20 ++ identifiers 22 5080
  sorted := by
    rw [List.pairwise_append]
    refine ⟨identifiers_increasing _ _, identifiers_increasing _ _, ?_⟩
    intro first isFirst second isSecond
    have below := mem_identifiers.mp isFirst
    have above := mem_identifiers.mp isSecond
    omega

/-- Node 1 has been erased and node 21 inserted. -/
theorem nodes_exchanged :
    ((fullSet.erase 1).insert 21).nodes = identifiers 2 19 ++ 21 :: identifiers 22 5080 := by
  have erased : (fullSet.erase 1).nodes = identifiers 2 19 ++ identifiers 22 5080 := by
    change (identifiers 1 20 ++ identifiers 22 5080).filter (fun node => decide (node ≠ 1)) = _
    have without : (identifiers 1 20).filter (fun node => decide (node ≠ 1)) =
        identifiers 2 19 := by
      decide
    have unchanged : (identifiers 22 5080).filter (fun node => decide (node ≠ 1)) =
        identifiers 22 5080 := by
      apply List.filter_eq_self.mpr
      intro node member
      have above := mem_identifiers.mp member
      simp only [ne_eq, decide_eq_true_eq]
      omega
    rw [List.filter_append, without, unchanged]
  change (fullSet.erase 1).nodes.filter (· < 21) ++
    21 :: (fullSet.erase 1).nodes.filter (21 < ·) = _
  rw [erased, List.filter_append, List.filter_append]
  have noneBelow : (identifiers 22 5080).filter (· < 21) = [] := by
    apply List.filter_eq_nil_iff.mpr
    intro node member
    have above := mem_identifiers.mp member
    simp only [decide_eq_true_eq]
    omega
  have allAbove : (identifiers 22 5080).filter (21 < ·) = identifiers 22 5080 := by
    apply List.filter_eq_self.mpr
    intro node member
    have above := mem_identifiers.mp member
    simp only [decide_eq_true_eq]
    omega
  have below : (identifiers 2 19).filter (· < 21) = identifiers 2 19 := by decide
  have noneAbove : (identifiers 2 19).filter (21 < ·) = [] := by decide
  rw [noneBelow, allAbove, below, noneAbove, List.append_nil, List.nil_append]

theorem copied_fullSet :
    (interestedOnly fullSet).copyNodeIdentifiers () 0 = (identifiers 1 20, true) := by
  have all : fullSet.lowerBound 0 = identifiers 1 20 ++ identifiers 22 5080 := by
    rw [NodeSet.lowerBound]
    apply List.filter_eq_self.mpr
    intro node member
    rcases List.mem_append.mp member with isNode | isNode
    all_goals
      have above := mem_identifiers.mp isNode
      exact decide_eq_true (by omega)
  change ((fullSet.lowerBound 0).take bufferSize,
    decide (bufferSize < (fullSet.lowerBound 0).length)) = _
  rw [all, List.take_left' (by simp [bufferSize])]
  simp [bufferSize]

/-- The set is never larger than all passes take, and all the same a node that stays in it
is left out: node 21 takes its place while the first nodes are notified. -/
theorem fanOut_limited : ¬ ∀ (start after : RemoteMemory Unit) (performed : Steps Unit),
      EndsAmidOthers (RemoteProgram.notifyEventRemote ()) start performed () after →
        (∀ step ∈ performed, ∀ set, step.found.eventUpdateInterestedNodes () = some set →
          set.nodes.length ≤ 255 * bufferSize) →
          ∀ node, 0 ≤ node → StaysInterested () performed node →
            (notifiedNodes performed).count node = 1 := by
  intro claimed
  let start := interestedOnly fullSet
  rcases notifyNodes_ends (start.copyNodeIdentifiers () 0).1 start with
    ⟨earlier, middle, sends, sameEarlier, sameMiddle⟩
  let moved := (middle.eraseNode () 1).insertNode () 21
  have move : ReflTransGen OthersMove middle moved :=
    .tail (.single ⟨.eraseNode () 1, _, List.mem_singleton_self _⟩)
      ⟨.insertNode () 21, _, List.mem_singleton_self _⟩
  have atFirst : start.copyNodeIdentifiers () 0 = (identifiers 1 20, true) := copied_fullSet
  rcases notifyBuffers_ends () 254 ((start.copyNodeIdentifiers () 0).1.getLastD 0 + 1) moved with
    ⟨later, after, loops, sameLater⟩
  have ends := notifyBuffers_pass sends move (by rw [atFirst]) loops
  have setThen : moved.eventUpdateInterestedNodes () = some ((fullSet.erase 1).insert 21) := by
    have setMiddle : middle.eventUpdateInterestedNodes () = some fullSet := by
      rw [sameMiddle]
      rfl
    simp [moved, RemoteMemory.insertNode, RemoteMemory.eraseNode, setMiddle]
  -- the set at each step of the call is one of the two
  have setAt : ∀ step ∈ (⟨.copyNodeIdentifiers () 0, start, start.copyNodeIdentifiers () 0⟩ ::
      (earlier ++ later) : Steps Unit),
      step.found.eventUpdateInterestedNodes () = some fullSet ∨
        step.found.eventUpdateInterestedNodes () = some ((fullSet.erase 1).insert 21) := by
    intro step member
    rcases List.mem_cons.mp member with rfl | member
    · exact .inl rfl
    · rcases List.mem_append.mp member with isEarlier | isLater
      · left
        rw [sameEarlier step isEarlier]
        rfl
      · right
        rw [sameLater step isLater]
        exact setThen
  have small : ∀ step ∈ (⟨.copyNodeIdentifiers () 0, start, start.copyNodeIdentifiers () 0⟩ ::
      (earlier ++ later) : Steps Unit), ∀ set,
      step.found.eventUpdateInterestedNodes () = some set →
        set.nodes.length ≤ 255 * bufferSize := by
    intro step member set isSet
    rcases setAt step member with isFull | isExchanged
    · rw [isFull] at isSet
      cases isSet
      simp [fullSet, bufferSize]
    · rw [isExchanged] at isSet
      cases isSet
      rw [nodes_exchanged]
      simp [bufferSize]
  -- the nodes above the gap stay, so that the other passes would have to take one too many
  have stays : ∀ node ∈ identifiers 22 5080, StaysInterested ()
      (⟨.copyNodeIdentifiers () 0, start, start.copyNodeIdentifiers () 0⟩ ::
        (earlier ++ later) : Steps Unit) node := by
    intro node isNode step member
    rcases setAt step member with isFull | isExchanged
    · exact ⟨_, isFull, List.mem_append_right _ isNode⟩
    · refine ⟨_, isExchanged, ?_⟩
      rw [nodes_exchanged]
      exact List.mem_append_right _ (List.mem_cons_of_mem _ isNode)
  have notified : ∀ node ∈ identifiers 22 5080, node ∈ notifiedNodes later := by
    intro node isNode
    have once := claimed start after _ ends small node (by have above := mem_identifiers.mp isNode; omega)
      (stays node isNode)
    rw [notifiedNodes_copying, notifiedNodes_append, notifiedNodes_notifyNodes sends,
      atFirst] at once
    have isNotified := List.count_pos_iff.mp (by rw [once]; exact Nat.one_pos)
    rcases List.mem_append.mp isNotified with isFirst | isLater
    · have below := mem_identifiers.mp isFirst
      have above := mem_identifiers.mp isNode
      omega
    · exact isLater
  have gap : 21 ∈ notifiedNodes later := by
    have resumed : (start.copyNodeIdentifiers () 0).1.getLastD 0 + 1 = 21 := by
      rw [atFirst]
      rfl
    rw [resumed] at loops
    apply notified_begin loops
    intro step isLater
    refine ⟨_, (congrFun (sameLater step isLater) ()).trans setThen, ?_⟩
    rw [nodes_exchanged]
    simp
  have distinct : (21 :: identifiers 22 5080).Nodup := by
    refine List.nodup_cons.mpr ⟨fun isNode => ?_, (identifiers_increasing _ _).imp ne_of_lt⟩
    have above := mem_identifiers.mp isNode
    omega
  have inside : 21 :: identifiers 22 5080 ⊆ notifiedNodes later := by
    intro node member
    rcases List.mem_cons.mp member with rfl | isNode
    · exact gap
    · exact notified node isNode
  have many := (List.subperm_of_subset distinct inside).length_le
  have few := length_notifiedNodes_le loops
  rw [List.length_cons, length_identifiers] at many
  rw [bufferSize] at few
  omega

end MwCom.Messaging.RemoteFanOut
