/-
Module: MwCom.Lola.SamplePtr
Purpose: The owning pointer of the binding with its special members, programs
  over variables of it, and who gives back which slot reference.
Trusted boundary: the special members of `std::optional` and `std::swap`, which
  the sources take from the standard library; a pointer to a sample is modelled
  by the slot reference it was constructed with.
Main exports: SlotDecrementer, SamplePtr, SamplePtrOp.execute, OwnershipLaw,
  ownershipLaw_iff, ownershipLaw_violated
-/
import MwCom.Interleaving.Total
import MwCom.Lola.EventControl

namespace MwCom.Lola

open Interleaving Function

variable {Control LogIndex Variable : Type}

/-- One reference to a slot: what a call of `DereferenceEvent` gives back. -/
structure SlotReference (Control LogIndex : Type) where
  eventDataControl : Control
  eventSlotIndex : BitVec 16
  transactionLogIdx : LogIndex
deriving DecidableEq

/-- A moved-from decrementer has no control. -/
structure SlotDecrementer (Control LogIndex : Type) where
  eventDataControl : Option Control
  eventSlotIndex : BitVec 16
  transactionLogIdx : LogIndex
deriving DecidableEq

namespace SlotDecrementer

/-- A new decrementer. -/
def new (reference : SlotReference Control LogIndex) : SlotDecrementer Control LogIndex where
  eventDataControl := some reference.eventDataControl
  eventSlotIndex := reference.eventSlotIndex
  transactionLogIdx := reference.transactionLogIdx

/-- `internal_delete`, which the destructor calls, with its calls of
`DereferenceEvent`. -/
def internalDelete (decrementer : SlotDecrementer Control LogIndex) :
    List (SlotReference Control LogIndex) :=
  match decrementer.eventDataControl with
  | some eventDataControl =>
      [{ eventDataControl
         eventSlotIndex := decrementer.eventSlotIndex
         transactionLogIdx := decrementer.transactionLogIdx }]
  | none => []

/-- What is left of `other` after a move. -/
def movedFrom (other : SlotDecrementer Control LogIndex) : SlotDecrementer Control LogIndex :=
  { other with eventDataControl := none }

/-- The move constructor: the new decrementer, and what is left. -/
def moveConstruct (other : SlotDecrementer Control LogIndex) :
    SlotDecrementer Control LogIndex × SlotDecrementer Control LogIndex :=
  (other, other.movedFrom)

/-- The move assignment from another decrementer: target, source, and the
references given back. -/
def moveAssign (this other : SlotDecrementer Control LogIndex) :
    SlotDecrementer Control LogIndex × SlotDecrementer Control LogIndex ×
      List (SlotReference Control LogIndex) :=
  (other, other.movedFrom, this.internalDelete)

end SlotDecrementer

/-! ## An optional decrementer

A moved-from optional stays engaged. -/

namespace OptionalDecrementer

def destroy : Option (SlotDecrementer Control LogIndex) → List (SlotReference Control LogIndex)
  | some decrementer => decrementer.internalDelete
  | none => []

def moveConstruct : Option (SlotDecrementer Control LogIndex) →
      Option (SlotDecrementer Control LogIndex) ×
        Option (SlotDecrementer Control LogIndex)
  | some other =>
      let (new, left) := other.moveConstruct
      (some new, some left)
  | none => (none, none)

def moveAssign : (this other : Option (SlotDecrementer Control LogIndex)) →
      Option (SlotDecrementer Control LogIndex) ×
        Option (SlotDecrementer Control LogIndex) ×
          List (SlotReference Control LogIndex)
  | some this, some other =>
      let (this, other, givenBack) := this.moveAssign other
      (some this, some other, givenBack)
  | some this, none => (none, none, this.internalDelete)
  | none, some other =>
      let (new, left) := other.moveConstruct
      (some new, some left, [])
  | none, none => (none, none, [])

end OptionalDecrementer

structure SamplePtr (Control LogIndex : Type) where
  managedObject : Option (SlotReference Control LogIndex)
  slotDecrementer : Option (SlotDecrementer Control LogIndex)
deriving DecidableEq

namespace SamplePtr

/-- `SamplePtr{nullptr}`. -/
def null : SamplePtr Control LogIndex where
  managedObject := none
  slotDecrementer := none

/-- The constructor from a referenced slot. -/
def new (reference : SlotReference Control LogIndex) : SamplePtr Control LogIndex where
  managedObject := some reference
  slotDecrementer := some (.new reference)

/-- The destructor with its calls of `DereferenceEvent`. -/
def destroy (pointer : SamplePtr Control LogIndex) : List (SlotReference Control LogIndex) :=
  OptionalDecrementer.destroy pointer.slotDecrementer

/-- The defaulted move constructor, member by member: the source keeps its
`managed_object_`. -/
def moveConstruct (other : SamplePtr Control LogIndex) :
    SamplePtr Control LogIndex × SamplePtr Control LogIndex :=
  let (new, left) := OptionalDecrementer.moveConstruct other.slotDecrementer
  ({ managedObject := other.managedObject, slotDecrementer := new },
    { other with slotDecrementer := left })

/-- The defaulted move assignment from another variable, member by member. -/
def moveAssign (this other : SamplePtr Control LogIndex) :
    SamplePtr Control LogIndex × SamplePtr Control LogIndex ×
      List (SlotReference Control LogIndex) :=
  let (new, left, givenBack) :=
    OptionalDecrementer.moveAssign this.slotDecrementer other.slotDecrementer
  ({ managedObject := other.managedObject, slotDecrementer := new },
    { other with slotDecrementer := left }, givenBack)

/-- `operator=(nullptr)`. -/
def assignNull (this : SamplePtr Control LogIndex) :
    SamplePtr Control LogIndex × List (SlotReference Control LogIndex) :=
  (null, this.destroy)

/-- `std::swap` of two variables, by way of a temporary. -/
def swap (one other : SamplePtr Control LogIndex) :
    SamplePtr Control LogIndex × SamplePtr Control LogIndex ×
      List (SlotReference Control LogIndex) :=
  let (temporary, one) := one.moveConstruct
  let (one, other, first) := one.moveAssign other
  let (other, temporary, second) := other.moveAssign temporary
  (one, other, first ++ second ++ temporary.destroy)

/-- `std::swap` of a variable with itself: the assignment in the middle is one
of the variable to itself. -/
def swapSelf (one : SamplePtr Control LogIndex) :
    SamplePtr Control LogIndex × List (SlotReference Control LogIndex) :=
  let (temporary, one) := one.moveConstruct
  let (one, temporary, first) := one.moveAssign temporary
  (one, first ++ temporary.destroy)

/-- What is left of a pointer after a move. -/
def movedFrom (other : SamplePtr Control LogIndex) : SamplePtr Control LogIndex :=
  { other with
    slotDecrementer := other.slotDecrementer.map SlotDecrementer.movedFrom }

theorem destroy_new (reference : SlotReference Control LogIndex) :
    (new reference).destroy = [reference] := rfl

theorem destroy_null : (null : SamplePtr Control LogIndex).destroy = [] := rfl

@[simp] theorem managedObject_movedFrom (other : SamplePtr Control LogIndex) :
    other.movedFrom.managedObject = other.managedObject := rfl

@[simp] theorem destroy_movedFrom (other : SamplePtr Control LogIndex) :
    other.movedFrom.destroy = [] := by
  cases other with
  | mk managedObject slotDecrementer => cases slotDecrementer <;> rfl

/-- A move takes all of the source. -/
@[simp] theorem moveConstruct_eq (other : SamplePtr Control LogIndex) :
    other.moveConstruct = (other, other.movedFrom) := by
  cases other with
  | mk managedObject slotDecrementer => cases slotDecrementer <;> rfl

/-- So does an assignment, which gives back what the target had. -/
@[simp] theorem moveAssign_eq (this other : SamplePtr Control LogIndex) :
    this.moveAssign other = (other, other.movedFrom, this.destroy) := by
  cases this with
  | mk _ decrementer =>
      cases other with
      | mk _ otherDecrementer =>
          cases decrementer <;> cases otherDecrementer <;> rfl

/-- A swap gives nothing back. -/
theorem swap_eq (one other : SamplePtr Control LogIndex) : one.swap other = (other, one, []) := by
  simp [swap]

theorem swapSelf_eq (one : SamplePtr Control LogIndex) : one.swapSelf = (one, []) := by
  simp [swapSelf]

/-- The pointer owns the reference it points to. -/
def Owns (pointer : SamplePtr Control LogIndex) : Prop :=
  ∀ reference, pointer.managedObject = some reference →
    pointer.slotDecrementer = some (.new reference)

theorem owns_null : (null : SamplePtr Control LogIndex).Owns := by
  intro reference impossible
  cases impossible

theorem owns_new (reference : SlotReference Control LogIndex) : (new reference).Owns := by
  intro other same
  cases same
  rfl

/-- What is left of a pointer owns what it points to only if that is nothing. -/
theorem owns_movedFrom_iff {other : SamplePtr Control LogIndex} :
    other.movedFrom.Owns ↔ other.managedObject = none := by
  constructor
  · intro owns
    cases managed : other.managedObject with
    | none => rfl
    | some reference =>
        have owned := owns reference managed
        rw [movedFrom] at owned
        cases decrementer : other.slotDecrementer with
        | none => simp [decrementer] at owned
        | some left =>
            simp [decrementer, SlotDecrementer.movedFrom, SlotDecrementer.new] at owned
  · intro none reference managed
    rw [managedObject_movedFrom, none] at managed
    cases managed

end SamplePtr

/-! ## Programs over pointer variables -/

/-- The variables, the references handed to constructors, and those given back. -/
structure SampleVariables (Variable Control LogIndex : Type) where
  pointers : Variable → Option (SamplePtr Control LogIndex)
  referenced : List (SlotReference Control LogIndex)
  dereferenced : List (SlotReference Control LogIndex)

inductive SamplePtrOp (Variable Control LogIndex : Type) where
  | construct (target : Variable) (reference : SlotReference Control LogIndex)
  | constructNull (target : Variable)
  | moveConstruct (target source : Variable)
  | moveAssign (target source : Variable)
  | swap (one other : Variable)
  | assignNull (target : Variable)
  | destroy (target : Variable)

namespace SampleVariables

/-- No target is alive. -/
def start : SampleVariables Variable Control LogIndex where
  pointers := fun _ => none
  referenced := []
  dereferenced := []

variable [DecidableEq Variable]

/-- Write one variable, and note what was given back. -/
def set (state : SampleVariables Variable Control LogIndex) (target : Variable)
    (pointer : Option (SamplePtr Control LogIndex))
    (givenBack : List (SlotReference Control LogIndex)) :
    SampleVariables Variable Control LogIndex :=
  { state with
    pointers := update state.pointers target pointer
    dereferenced := givenBack ++ state.dereferenced }

end SampleVariables

/-- One operation.  A variable is constructed only while it is not alive, and
used only while it is. -/
def SamplePtrOp.execute [DecidableEq Variable]
    (state : SampleVariables Variable Control LogIndex) :
    SamplePtrOp Variable Control LogIndex → Option (SampleVariables Variable Control LogIndex)
  | .construct target reference =>
      match state.pointers target with
      | none =>
          some
            { state.set target (some (.new reference)) [] with
              referenced := reference :: state.referenced }
      | some _ => none
  | .constructNull target =>
      match state.pointers target with
      | none => some (state.set target (some .null) [])
      | some _ => none
  | .moveConstruct target source =>
      match state.pointers target, state.pointers source with
      | none, some other =>
          let (new, left) := other.moveConstruct
          some ((state.set source (some left) []).set target (some new) [])
      | _, _ => none
  | .moveAssign target source =>
      match state.pointers target, state.pointers source with
      | some this, some other =>
          -- the optional and its decrementer leave a self-assignment as it is
          if target = source then
            some state
          else
            let (this, other, givenBack) := this.moveAssign other
            some
              ((state.set source (some other) []).set target (some this) givenBack)
      | _, _ => none
  | .swap one other =>
      match state.pointers one, state.pointers other with
      | some first, some second =>
          if one = other then
            let (first, givenBack) := first.swapSelf
            some (state.set one (some first) givenBack)
          else
            let (first, second, givenBack) := first.swap second
            some
              ((state.set one (some first) []).set other (some second) givenBack)
      | _, _ => none
  | .assignNull target =>
      match state.pointers target with
      | some this =>
          let (this, givenBack) := this.assignNull
          some (state.set target (some this) givenBack)
      | none => none
  | .destroy target =>
      match state.pointers target with
      | some this => some (state.set target none this.destroy)
      | none => none

/-- A program; `none` if it uses a variable that is not alive, or constructs one
that is. -/
def executeAll [DecidableEq Variable]
    (program : List (SamplePtrOp Variable Control LogIndex))
    (state : SampleVariables Variable Control LogIndex) :
    Option (SampleVariables Variable Control LogIndex) :=
  program.foldlM SamplePtrOp.execute state

/-! ## Ownership -/

/-- The references that the destructor of a variable gives back. -/
def ownedBy (pointer : Option (SamplePtr Control LogIndex)) :
    List (SlotReference Control LogIndex) :=
  match pointer with
  | some pointer => pointer.destroy
  | none => []

section Balance

variable [DecidableEq Control] [DecidableEq LogIndex] [Fintype Variable]

/-- What all variables own of one reference. -/
def ownedCount (reference : SlotReference Control LogIndex)
    (pointers : Variable → Option (SamplePtr Control LogIndex)) : Nat :=
  total (fun pointer => (ownedBy pointer).count reference) pointers

/-- Every reference that was handed to a constructor was given back once, or is
owned by a variable. -/
def Balanced (state : SampleVariables Variable Control LogIndex) : Prop :=
  ∀ reference, state.referenced.count reference =
    state.dereferenced.count reference + ownedCount reference state.pointers

variable [DecidableEq Variable]
  {state after : SampleVariables Variable Control LogIndex}

/-- A variable is written: what it owned is given back, or owned elsewhere. -/
theorem ownedCount_update (reference : SlotReference Control LogIndex)
    (pointers : Variable → Option (SamplePtr Control LogIndex))
    (target : Variable) (pointer : Option (SamplePtr Control LogIndex)) :
    ownedCount reference (update pointers target pointer) +
        (ownedBy (pointers target)).count reference =
      ownedCount reference pointers + (ownedBy pointer).count reference :=
  total_update _ _ _ _

/-- No operation loses a reference, or gives one back twice. -/
theorem Balanced.execute (balanced : Balanced state) {op : SamplePtrOp Variable Control LogIndex}
    (executed : op.execute state = some after) : Balanced after := by
  intro reference
  have before := balanced reference
  cases op with
  | construct target constructed =>
      simp only [SamplePtrOp.execute] at executed
      split at executed
      · rename_i dead
        cases executed
        have moved := ownedCount_update reference state.pointers target (some (.new constructed))
        simp only [dead, ownedBy, SamplePtr.destroy_new, List.count_nil] at moved
        simp only [SampleVariables.set, List.nil_append, List.count_cons, List.count_nil] at moved ⊢
        omega
      · cases executed
  | constructNull target =>
      simp only [SamplePtrOp.execute] at executed
      split at executed
      · rename_i dead
        cases executed
        have moved := ownedCount_update reference state.pointers target (some .null)
        simp only [dead, ownedBy, SamplePtr.destroy_null, List.count_nil] at moved
        simp only [SampleVariables.set, List.nil_append]
        omega
      · cases executed
  | moveConstruct target source =>
      simp only [SamplePtrOp.execute] at executed
      split at executed
      · rename_i other dead alive
        have distinct : target ≠ source := by
          intro same
          rw [same, alive] at dead
          cases dead
        simp only [SamplePtr.moveConstruct_eq] at executed
        cases executed
        have left := ownedCount_update reference state.pointers source (some other.movedFrom)
        have moved := ownedCount_update reference
          (update state.pointers source (some other.movedFrom)) target
          (some other)
        rw [update_of_ne distinct] at moved
        simp only [dead, alive, ownedBy, SamplePtr.destroy_movedFrom, List.count_nil] at left moved
        simp only [SampleVariables.set, List.nil_append]
        omega
      · cases executed
  | moveAssign target source =>
      simp only [SamplePtrOp.execute] at executed
      split at executed
      · rename_i this other aliveTarget aliveSource
        split at executed
        · cases executed
          exact before
        · rename_i distinct
          simp only [SamplePtr.moveAssign_eq] at executed
          cases executed
          have left := ownedCount_update reference state.pointers source (some other.movedFrom)
          have moved := ownedCount_update reference
            (update state.pointers source (some other.movedFrom)) target
            (some other)
          rw [update_of_ne distinct] at moved
          simp only [aliveTarget, aliveSource, ownedBy,
            SamplePtr.destroy_movedFrom, List.count_nil] at left moved
          simp only [SampleVariables.set, List.nil_append, List.count_append]
          omega
      · cases executed
  | swap one other =>
      simp only [SamplePtrOp.execute] at executed
      split at executed
      · rename_i first second aliveOne aliveOther
        split at executed
        · rw [SamplePtr.swapSelf_eq] at executed
          cases executed
          have same := ownedCount_update reference state.pointers one (some first)
          rw [aliveOne] at same
          simp only [SampleVariables.set, List.nil_append]
          omega
        · rename_i distinct
          rw [SamplePtr.swap_eq] at executed
          cases executed
          have left := ownedCount_update reference state.pointers one (some second)
          have moved := ownedCount_update reference
            (update state.pointers one (some second)) other (some first)
          rw [update_of_ne (Ne.symm distinct)] at moved
          rw [aliveOne] at left
          rw [aliveOther] at moved
          simp only [SampleVariables.set, List.nil_append]
          omega
      · cases executed
  | assignNull target =>
      simp only [SamplePtrOp.execute] at executed
      split at executed
      · rename_i this alive
        cases executed
        have moved := ownedCount_update reference state.pointers target (some .null)
        simp only [alive, ownedBy, SamplePtr.destroy_null, List.count_nil] at moved
        simp only [SampleVariables.set, SamplePtr.assignNull, List.count_append]
        omega
      · cases executed
  | destroy target =>
      simp only [SamplePtrOp.execute] at executed
      split at executed
      · rename_i this alive
        cases executed
        have moved := ownedCount_update reference state.pointers target none
        simp only [alive, ownedBy, List.count_nil] at moved
        simp only [SampleVariables.set, List.count_append]
        omega
      · cases executed

omit [DecidableEq Variable] in
theorem balanced_start : Balanced (.start : SampleVariables Variable Control LogIndex) := by
  intro reference
  have nothing : ownedCount reference
      (SampleVariables.start : SampleVariables Variable Control LogIndex).pointers =
        0 := total_eq_zero fun _ => rfl
  rw [nothing]
  rfl

/-- What holds of a state of a program, apart from what is in the middle of one
operation: nothing is given back twice, everything once all variables are
destroyed, and a pointer that is not null owns its reference, which has not been
given back. -/
structure OwnershipLaw (state : SampleVariables Variable Control LogIndex) : Prop where
  notTwice : ∀ reference, state.dereferenced.count reference ≤ state.referenced.count reference
  returned : (∀ target, state.pointers target = none) → ∀ reference,
    state.dereferenced.count reference = state.referenced.count reference
  owned : ∀ target pointer reference, state.pointers target = some pointer →
    pointer.managedObject = some reference → pointer.slotDecrementer = some (.new reference) ∧
        state.dereferenced.count reference < state.referenced.count reference

/-- Every variable that is alive owns what it points to. -/
def AllOwn (state : SampleVariables Variable Control LogIndex) : Prop :=
  ∀ target pointer, state.pointers target = some pointer → pointer.Owns

omit [DecidableEq Variable] in
theorem ownedBy_le_ownedCount (reference : SlotReference Control LogIndex)
    (pointers : Variable → Option (SamplePtr Control LogIndex)) (target : Variable) :
    (ownedBy (pointers target)).count reference ≤ ownedCount reference pointers :=
  @le_total _ _ _ (fun pointer => (ownedBy pointer).count reference) pointers
    target

omit [DecidableEq Variable] in
theorem ownershipLaw_iff_allOwn (balanced : Balanced state) :
    OwnershipLaw state ↔ AllOwn state := by
  constructor
  · intro law target pointer alive reference managed
    exact (law.owned target pointer reference alive managed).1
  · intro owns
    refine ⟨?_, ?_, ?_⟩
    · intro reference
      have counted := balanced reference
      omega
    · intro dead reference
      have counted := balanced reference
      have nothing : ownedCount reference state.pointers = 0 := by
        apply total_eq_zero
        intro target
        rw [dead target]
        rfl
      omega
    · intro target pointer reference alive managed
      have owned := owns target pointer alive reference managed
      refine ⟨owned, ?_⟩
      have counted := balanced reference
      have share := ownedBy_le_ownedCount reference state.pointers target
      have one : (ownedBy (state.pointers target)).count reference = 1 := by
        rw [alive, ownedBy, SamplePtr.destroy, owned]
        exact List.count_singleton_self
      omega

end Balance

/-! ## Which programs keep the law -/

section Moves

variable [DecidableEq Variable]
  {state after : SampleVariables Variable Control LogIndex}

/-- The operation moves nothing that points to a sample, unless a variable to
itself. -/
def SamplePtrOp.MovesNull
    (state : SampleVariables Variable Control LogIndex) :
    SamplePtrOp Variable Control LogIndex → Prop
  | .moveConstruct _ source => ∀ pointer, state.pointers source = some pointer →
      pointer.managedObject = none
  | .moveAssign target source => target = source ∨ ∀ pointer, state.pointers source = some pointer →
        pointer.managedObject = none
  | _ => True

/-- Writing one variable. -/
theorem AllOwn.set (owns : AllOwn state) {target : Variable}
    {pointer : Option (SamplePtr Control LogIndex)}
    {givenBack : List (SlotReference Control LogIndex)}
    (written : ∀ new, pointer = some new → new.Owns) :
    AllOwn (state.set target pointer givenBack) := by
  intro other held alive
  by_cases same : other = target
  · subst same
    simp only [SampleVariables.set, update_self] at alive
    exact written held alive
  · simp only [SampleVariables.set, update_of_ne same] at alive
    exact owns other held alive

/-- An operation keeps ownership exactly when it moves nothing that points to a
sample. -/
theorem AllOwn.execute_iff (owns : AllOwn state) {op : SamplePtrOp Variable Control LogIndex}
    (executed : op.execute state = some after) :
    AllOwn after ↔ op.MovesNull state := by
  cases op with
  | construct target reference =>
      simp only [SamplePtrOp.execute] at executed
      split at executed
      · cases executed
        refine iff_of_true ?_ trivial
        have written : AllOwn (state.set target (some (.new reference)) []) := by
          apply owns.set
          intro new same
          cases same
          exact SamplePtr.owns_new reference
        exact written
      · cases executed
  | constructNull target =>
      simp only [SamplePtrOp.execute] at executed
      split at executed
      · cases executed
        refine iff_of_true (owns.set ?_) trivial
        intro new same
        cases same
        exact SamplePtr.owns_null
      · cases executed
  | moveConstruct target source =>
      simp only [SamplePtrOp.execute] at executed
      split at executed
      · rename_i other dead alive
        have distinct : source ≠ target := by
          intro same
          rw [same, dead] at alive
          cases alive
        simp only [SamplePtr.moveConstruct_eq] at executed
        cases executed
        have owned := owns source other alive
        constructor
        · intro stillOwn pointer same
          rw [alive] at same
          cases same
          apply SamplePtr.owns_movedFrom_iff.mp
          apply stillOwn source
          simp [SampleVariables.set, distinct]
        · intro null
          apply AllOwn.set
          · apply owns.set
            intro new same
            cases same
            exact SamplePtr.owns_movedFrom_iff.mpr (null other alive)
          · intro new same
            cases same
            exact owned
      · cases executed
  | moveAssign target source =>
      simp only [SamplePtrOp.execute] at executed
      split at executed
      · rename_i this other aliveTarget aliveSource
        split at executed
        · rename_i same
          cases executed
          exact iff_of_true owns (.inl same)
        · rename_i distinct
          simp only [SamplePtr.moveAssign_eq] at executed
          cases executed
          have owned := owns source other aliveSource
          constructor
          · intro stillOwn
            refine .inr fun pointer same => ?_
            rw [aliveSource] at same
            cases same
            apply SamplePtr.owns_movedFrom_iff.mp
            apply stillOwn source
            simp [SampleVariables.set, Ne.symm distinct]
          · intro null
            apply AllOwn.set
            · apply owns.set
              intro new same
              cases same
              apply SamplePtr.owns_movedFrom_iff.mpr
              rcases null with same | null
              · exact absurd same distinct
              · exact null other aliveSource
            · intro new same
              cases same
              exact owned
      · cases executed
  | swap one other =>
      simp only [SamplePtrOp.execute] at executed
      split at executed
      · rename_i first second aliveOne aliveOther
        have firstOwned := owns one first aliveOne
        have secondOwned := owns other second aliveOther
        refine iff_of_true ?_ trivial
        split at executed
        · rw [SamplePtr.swapSelf_eq] at executed
          cases executed
          apply owns.set
          intro new same
          cases same
          exact firstOwned
        · rw [SamplePtr.swap_eq] at executed
          cases executed
          apply AllOwn.set
          · apply owns.set
            intro new same
            cases same
            exact secondOwned
          · intro new same
            cases same
            exact firstOwned
      · cases executed
  | assignNull target =>
      simp only [SamplePtrOp.execute] at executed
      split at executed
      · cases executed
        refine iff_of_true (owns.set ?_) trivial
        intro new same
        cases same
        exact SamplePtr.owns_null
      · cases executed
  | destroy target =>
      simp only [SamplePtrOp.execute] at executed
      split at executed
      · cases executed
        refine iff_of_true (owns.set ?_) trivial
        intro new impossible
        cases impossible
      · cases executed

/-- The states that a program goes through, before every operation and at its
end. -/
def Passes (program : List (SamplePtrOp Variable Control LogIndex))
    (state : SampleVariables Variable Control LogIndex) : Prop :=
  ∃ done rest, program = done ++ rest ∧ executeAll done .start = some state

/-- Every operation of a program, in the state it meets, moves nothing that
points to a sample. -/
def OnlyMovesNull (program : List (SamplePtrOp Variable Control LogIndex)) : Prop :=
  ∀ done op rest state after, program = done ++ op :: rest →
    executeAll done .start = some state → op.execute state = some after → op.MovesNull state

theorem executeAll_snoc (program : List (SamplePtrOp Variable Control LogIndex))
    (op : SamplePtrOp Variable Control LogIndex)
    (state : SampleVariables Variable Control LogIndex) :
    executeAll (program ++ [op]) state = (executeAll program state).bind op.execute := by
  simp [executeAll, List.foldlM_append]

/-- What every operation that is executed keeps holds at the end. -/
theorem executeAll_invariant {Holds : SampleVariables Variable Control LogIndex → Prop}
    (initially : Holds .start) {program : List (SamplePtrOp Variable Control LogIndex)}
    (preserved : ∀ done op rest state after, program = done ++ op :: rest →
      Holds state → executeAll done .start = some state →
        op.execute state = some after → Holds after)
    (executed : executeAll program .start = some state) : Holds state := by
  induction program using List.reverseRecOn generalizing state with
  | nil =>
      cases executed
      exact initially
  | append_singleton program op ih =>
      rw [executeAll_snoc] at executed
      obtain ⟨middle, before, step⟩ := Option.bind_eq_some_iff.mp executed
      have holds : Holds middle := by
        refine ih ?_ before
        intro done other rest current after split
        refine preserved done other (rest ++ [op]) current after ?_
        simp [split]
      exact preserved program op [] middle state rfl holds before step

variable [DecidableEq Control] [DecidableEq LogIndex] [Fintype Variable]

theorem balanced_of_executed {program : List (SamplePtrOp Variable Control LogIndex)}
    (executed : executeAll program .start = some state) : Balanced state := by
  refine executeAll_invariant balanced_start ?_ executed
  intro done op rest middle after _ balanced _ step
  exact balanced.execute step

/-- The law holds all through a program exactly when the program moves nothing
that points to a sample. -/
theorem ownershipLaw_iff
    (program : List (SamplePtrOp Variable Control LogIndex)) :
    (∀ state, Passes program state → OwnershipLaw state) ↔ OnlyMovesNull program := by
  constructor
  · intro law done op rest state after split executed step
    have owns : AllOwn state := (ownershipLaw_iff_allOwn (balanced_of_executed executed)).mp
        (law state ⟨done, op :: rest, split, executed⟩)
    have executedAfter : executeAll (done ++ [op]) .start = some after := by
      rw [executeAll_snoc, executed]
      exact step
    have ownsAfter : AllOwn after :=
      (ownershipLaw_iff_allOwn (balanced_of_executed executedAfter)).mp
        (law after ⟨done ++ [op], rest, by simp [split], executedAfter⟩)
    exact (owns.execute_iff step).mp ownsAfter
  · rintro only state ⟨done, rest, split, executed⟩
    apply (ownershipLaw_iff_allOwn (balanced_of_executed executed)).mpr
    have start : AllOwn
        (.start : SampleVariables Variable Control LogIndex) := by
      intro target pointer impossible
      cases impossible
    refine executeAll_invariant start ?_ executed
    intro earlier op later middle after parted owns before step
    apply (owns.execute_iff step).mpr
    refine only earlier op (later ++ rest) middle after ?_ before step
    simp [split, parted]

end Moves

/-- A pointer is moved out of a variable that then still compares unequal to
`nullptr`. -/
def moveOut : List (SamplePtrOp (Fin 2) Unit Unit) := [.construct 0 ⟨(), 0, ()⟩, .moveConstruct 1 0]

theorem ownershipLaw_violated : ¬ ∀ (program : List (SamplePtrOp (Fin 2) Unit Unit)) state,
      Passes program state → OwnershipLaw state := by
  intro law
  have owned := ((law moveOut _ ⟨moveOut, [], rfl, rfl⟩).owned 0
    (SamplePtr.new ⟨(), 0, ()⟩).movedFrom ⟨(), 0, ()⟩ rfl rfl).1
  cases owned

end MwCom.Lola
