/-
Module: MwCom.Configuration.IdentifierOrder
Purpose: Which instance identifiers and handles can be used together as keys of
  an ordered container.
Trusted boundary: none
Main exports: InstanceIdentifier.Comparable, HandleType.Comparable, keyOrder_iff
-/
import MwCom.Configuration.Deployments
import MwCom.Containers.KeyOrder

namespace MwCom.Configuration

open Containers

/-! ## Services are ordered -/

namespace ServiceIdentifierType

/-- Name, major and minor version, compared in this order. -/
def rank (service : ServiceIdentifierType) : String ×ₗ ℕ ×ₗ ℕ :=
  toLex (service.serviceTypeName, toLex (service.version.major.toNat, service.version.minor.toNat))

theorem less_iff {lhs rhs : ServiceIdentifierType} : lhs.Less rhs ↔ lhs.rank < rhs.rank := by
  rw [Less, rank, rank, Prod.Lex.toLex_lt_toLex, Prod.Lex.toLex_lt_toLex, ServiceVersionType.Less]
  by_cases sameName : lhs.serviceTypeName = rhs.serviceTypeName
  · by_cases sameMajor : lhs.version.major = rhs.version.major
    · simp [sameName, sameMajor, BitVec.lt_def]
    · have majors : lhs.version.major.toNat ≠ rhs.version.major.toNat := by
        intro same
        exact sameMajor (BitVec.eq_of_toNat_eq same)
      simp [sameName, sameMajor, majors, BitVec.lt_def]
  · simp [sameName]

theorem rank_eq_iff {lhs rhs : ServiceIdentifierType} : lhs.rank = rhs.rank ↔ lhs = rhs := by
  constructor
  · intro same
    have parts := congrArg ofLex same
    simp only [rank, ofLex_toLex, Prod.mk.injEq] at parts
    obtain ⟨name, versions⟩ := parts
    have numbers := congrArg ofLex versions
    simp only [ofLex_toLex, Prod.mk.injEq] at numbers
    obtain ⟨one, two⟩ := lhs
    obtain ⟨other, next⟩ := rhs
    obtain ⟨major, minor⟩ := two
    obtain ⟨otherMajor, otherMinor⟩ := next
    simp only at name numbers
    rw [name, BitVec.eq_of_toNat_eq numbers.1, BitVec.eq_of_toNat_eq numbers.2]
  · intro same
    rw [same]

end ServiceIdentifierType

/-! ## Bindings and instance ids -/

inductive Binding where
  | lola
  | someIp
  | blank

namespace BindingInformation

def binding : BindingInformation → Binding
  | .lola _ => .lola
  | .someIp _ => .someIp
  | .blank => .blank

/-- One more than the instance id; 0 where there is none. -/
def number : BindingInformation → ℕ
  | .lola deployment => deployment.instanceId.elim 0 (·.id.toNat + 1)
  | .someIp deployment => deployment.instanceId.elim 0 (·.id.toNat + 1)
  | .blank => 0

theorem equal_iff {a b : BindingInformation} :
    a.Equal b ↔ a.binding = b.binding ∧ a.number = b.number := by
  cases a with
  | blank => cases b <;> simp [Equal, binding, number]
  | lola one =>
      cases b with
      | lola two =>
          obtain ⟨_ | ⟨⟨_⟩⟩⟩ := one
          all_goals obtain ⟨_ | ⟨⟨_⟩⟩⟩ := two
          all_goals simp [Equal, binding, number, ← BitVec.toNat_inj]
      | _ => simp [Equal, binding]
  | someIp one =>
      cases b with
      | someIp two =>
          obtain ⟨_ | ⟨⟨_⟩⟩⟩ := one
          all_goals obtain ⟨_ | ⟨⟨_⟩⟩⟩ := two
          all_goals simp [Equal, binding, number, ← BitVec.toNat_inj]
      | _ => simp [Equal, binding]

theorem less_iff {a b : BindingInformation} : a.Less b ↔ a.binding = b.binding ∧
      ((a.binding = .lola ∧ a.number < b.number) ∨
        (a.binding = .someIp ∧ a.number = b.number)) := by
  cases a with
  | blank => cases b <;> simp [Less, binding]
  | lola one =>
      cases b with
      | lola two =>
          obtain ⟨_ | ⟨⟨_⟩⟩⟩ := one
          all_goals obtain ⟨_ | ⟨⟨_⟩⟩⟩ := two
          all_goals simp [Less, optionalLess, binding, number, BitVec.lt_def]
      | _ => simp [Less, binding]
  | someIp one =>
      have same := @equal_iff (.someIp one) b
      cases b with
      | someIp two => simpa [Less, Equal, binding] using same
      | _ => simp [Less, binding]

theorem optionalLess_trans {a b c : Option LolaServiceInstanceId}
    (ab : optionalLess a b) (bc : optionalLess b c) : optionalLess a c := by
  cases c with
  | none => cases b <;> cases bc
  | some three =>
      cases a with
      | none => trivial
      | some one =>
          cases b with
          | none => cases ab
          | some two => exact BitVec.lt_trans ab bc

variable {a b : BindingInformation}

variable {c : BindingInformation}

theorem Less.trans (ab : a.Less b) (bc : b.Less c) : a.Less c := by
  cases a with
  | blank => cases ab
  | lola one =>
      cases b with
      | someIp _ => cases ab
      | blank => cases ab
      | lola two =>
          cases c with
          | someIp _ => cases bc
          | blank => cases bc
          | lola three => exact optionalLess_trans ab bc
  | someIp one =>
      cases b with
      | lola _ => cases ab
      | blank => cases ab
      | someIp two =>
          cases c with
          | lola _ => cases bc
          | blank => cases bc
          | someIp three => exact Eq.trans ab bc

theorem Equal.symm (same : a.Equal b) : b.Equal a := by
  cases a <;> cases b <;> first | exact Eq.symm same | exact same

theorem Equal.trans (ab : a.Equal b) (bc : b.Equal c) : a.Equal c := by
  cases a <;> cases b <;> first | cases ab | skip
  · cases c <;> first | exact Eq.trans ab bc | cases bc
  · cases c <;> first | exact Eq.trans ab bc | cases bc
  · exact bc

/-- Equal bindings compare alike. -/
theorem Less.congr (same : a.Equal c) (bc : b.Less c) : b.Less a := by
  cases a <;> cases c <;> first | cases same | skip
  · cases b <;> first | cases bc | skip
    rename_i one three two
    change optionalLess two.instanceId one.instanceId
    rw [show one.instanceId = three.instanceId from same]
    exact bc
  · cases b <;> first | cases bc | skip
    exact Eq.trans bc (Eq.symm same)
  · exact bc

end BindingInformation

namespace ServiceInstanceId

def binding : ServiceInstanceId → Binding
  | .lola _ => .lola
  | .someIp _ => .someIp
  | .blank => .blank

def number : ServiceInstanceId → ℕ
  | .lola id => id.id.toNat
  | .someIp id => id.id.toNat
  | .blank => 0

/-- Two ids of one binding, the first of which is lower. -/
def Lower (a b : ServiceInstanceId) : Prop := a.binding = b.binding ∧ a.number < b.number

theorem Less.trans {a b c : ServiceInstanceId} (ab : a.Less b) (bc : b.Less c) : a.Less c := by
  cases a <;> cases b <;> first | cases ab | skip
  · cases c <;> first | exact BitVec.lt_trans ab bc | cases bc
  · cases c <;> first | exact BitVec.lt_trans ab bc | cases bc
  · trivial
  · trivial
  · trivial

variable {a b : ServiceInstanceId}

theorem less_iff (present : a ≠ .blank) : a.Less b ↔ a.Lower b := by
  cases a with
  | blank => exact absurd rfl present
  | _ => cases b <;> simp [Less, Lower, binding, number, BitVec.lt_def]

theorem Less.asymm (present : a ≠ .blank) (ab : a.Less b) : ¬ b.Less a := by
  cases a with
  | blank => exact absurd rfl present
  | lola one =>
      cases b with
      | lola two => exact BitVec.lt_asymm ab
      | _ => cases ab
  | someIp one =>
      cases b with
      | someIp two => exact BitVec.lt_asymm ab
      | _ => cases ab

/-- Ids that are present are equal as their values are. -/
theorem equal_iff (present : a ≠ .blank) : a.Equal b ↔ a = b := by
  cases a with
  | blank => exact absurd rfl present
  | lola one | someIp one => cases b <;> simp [Equal]

/-- Two ids of one binding compare in exactly one way, and no others do. -/
theorem exactlyOne_iff (aPresent : a ≠ .blank) (bPresent : b ≠ .blank) :
    ExactlyOne (a.Less b) (b.Less a) (a.Equal b) ↔ a.binding = b.binding := by
  have numbers (one two : BitVec 16) : ExactlyOne (one < two) (two < one) (one = two) := by
    simp only [ExactlyOne, BitVec.lt_def, ← BitVec.toNat_inj]
    omega
  cases a with
  | blank => exact absurd rfl aPresent
  | lola one =>
      obtain ⟨one⟩ := one
      cases b with
      | blank => exact absurd rfl bPresent
      | someIp two => simp [ExactlyOne, Less, Equal, binding]
      | lola two =>
          obtain ⟨two⟩ := two
          simpa [Less, Equal, binding] using numbers one two
  | someIp one =>
      obtain ⟨one⟩ := one
      cases b with
      | blank => exact absurd rfl bPresent
      | lola two => simp [ExactlyOne, Less, Equal, binding]
      | someIp two =>
          obtain ⟨two⟩ := two
          simpa [Less, Equal, binding] using numbers one two

end ServiceInstanceId

namespace ServiceInstanceDeployment

variable {a b c : ServiceInstanceDeployment}

/-- Two deployments of one level, one binding and one instance id. -/
def SameInstance (a b : ServiceInstanceDeployment) : Prop :=
  a.asilLevel = b.asilLevel ∧ a.bindingInfo.binding = b.bindingInfo.binding ∧
    a.bindingInfo.number = b.bindingInfo.number

/-- The first has a lower level, and a lower LoLa id or the same SOME/IP id. -/
def Lower (a b : ServiceInstanceDeployment) : Prop :=
  a.asilLevel.toNat < b.asilLevel.toNat ∧ a.bindingInfo.binding = b.bindingInfo.binding ∧
    ((a.bindingInfo.binding = .lola ∧ a.bindingInfo.number < b.bindingInfo.number) ∨
      (a.bindingInfo.binding = .someIp ∧ a.bindingInfo.number = b.bindingInfo.number))

theorem equal_iff : a.Equal b ↔ a.SameInstance b := and_congr_right' BindingInformation.equal_iff

theorem less_iff : a.Less b ↔ a.Lower b := and_congr_right' BindingInformation.less_iff

theorem Less.trans (ab : a.Less b) (bc : b.Less c) : a.Less c :=
  ⟨Nat.lt_trans ab.1 bc.1, ab.2.trans bc.2⟩

theorem Less.asymm (ab : a.Less b) : ¬ b.Less a := fun ba => Nat.lt_asymm ab.1 ba.1

theorem Less.not_equal (ab : a.Less b) : ¬ a.Equal b := by
  intro same
  have levels := ab.1
  rw [same.1] at levels
  exact Nat.lt_irrefl _ levels

theorem Equal.symm (same : a.Equal b) : b.Equal a := ⟨same.1.symm, same.2.symm⟩

theorem Equal.trans (ab : a.Equal b) (bc : b.Equal c) : a.Equal c :=
  ⟨ab.1.trans bc.1, ab.2.trans bc.2⟩

theorem Less.congr (same : a.Equal c) (bc : b.Less c) : b.Less a := by
  refine ⟨?_, bc.2.congr same.2⟩
  rw [same.1]
  exact bc.1

end ServiceInstanceDeployment

/-! ## Identifiers -/

namespace InstanceIdentifier

/-- Name, major and minor version of the service, compared in this order. -/
def rank (identifier : InstanceIdentifier) : String ×ₗ ℕ ×ₗ ℕ :=
  identifier.instanceDeployment.service.rank

/-- Two identifiers of one service have the same instance, or one has the lower; of two
services, the greater does not have the lower. -/
def Comparable (a b : InstanceIdentifier) : Prop :=
  (a.rank = b.rank → a.instanceDeployment.SameInstance b.instanceDeployment ∨
    a.instanceDeployment.Lower b.instanceDeployment ∨
    b.instanceDeployment.Lower a.instanceDeployment) ∧
  (a.rank < b.rank → ¬ b.instanceDeployment.Lower a.instanceDeployment)

variable {a b : InstanceIdentifier}

theorem less_iff : a.Less b ↔ a.rank < b.rank ∨ a.instanceDeployment.Less b.instanceDeployment := by
  rw [Less, ServiceIdentifierType.less_iff, rank, rank]

theorem equal_iff :
    a.Equal b ↔ a.rank = b.rank ∧ a.instanceDeployment.Equal b.instanceDeployment := by
  rw [Equal, rank, rank, ServiceIdentifierType.rank_eq_iff]

theorem comparable_iff : a.Comparable b ↔
      (a.rank = b.rank → a.instanceDeployment.Equal b.instanceDeployment ∨
        a.instanceDeployment.Less b.instanceDeployment ∨
        b.instanceDeployment.Less a.instanceDeployment) ∧
      (a.rank < b.rank → ¬ b.instanceDeployment.Less a.instanceDeployment) := by
  simp only [Comparable, ServiceInstanceDeployment.equal_iff, ServiceInstanceDeployment.less_iff]

variable {c : InstanceIdentifier}

theorem Equal.trans (ab : a.Equal b) (bc : b.Equal c) : a.Equal c :=
  ⟨ab.1.trans bc.1, ab.2.trans bc.2⟩

/-- Equal identifiers compare alike. -/
theorem Less.congr (same : a.Equal c) (bc : b.Less c) : b.Less a := by
  rcases bc with service | deployment
  · left
    rw [same.1]
    exact service
  · exact .inr (deployment.congr same.2)

/-- Two identifiers compare in exactly one way if they are comparable in either
order. -/
theorem exactlyOne_iff :
    ExactlyOne (a.Less b) (b.Less a) (a.Equal b) ↔ a.Comparable b ∧ b.Comparable a := by
  rw [less_iff, less_iff, equal_iff, comparable_iff, comparable_iff, ExactlyOne]
  rcases lt_trichotomy a.rank b.rank with before | same | after
  · simp [before, before.ne, before.ne', before.asymm]
  · have symmetric : b.instanceDeployment.Equal a.instanceDeployment ↔
        a.instanceDeployment.Equal b.instanceDeployment :=
      ⟨.symm, .symm⟩
    by_cases less : a.instanceDeployment.Less b.instanceDeployment
    · simp [same, less, less.asymm, less.not_equal]
    · by_cases greater : b.instanceDeployment.Less a.instanceDeployment
      · have notEqual : ¬ a.instanceDeployment.Equal b.instanceDeployment :=
          fun equal => greater.not_equal equal.symm
        simp [same, less, greater, notEqual]
      · simp [same, less, greater, symmetric]
  · simp [after, after.ne, after.ne', after.asymm]

/-- On identifiers that compare in exactly one way there is no cycle of three. -/
theorem not_cycle (ab : a.Less b) (notBa : ¬ b.Less a) (bc : b.Less c) (notCb : ¬ c.Less b)
    (ca : c.Less a) (notAc : ¬ a.Less c) :
    False := by
  have asUnion (one two : InstanceIdentifier) : one.Less two ↔
      UnionLess rank (fun one two => one.instanceDeployment.Less two.instanceDeployment)
        (fun _ _ => False) one two := by
    rw [less_iff, UnionLess, or_false]
  rw [asUnion] at ab notBa bc notCb ca notAc
  exact not_cycle_of_union (fun one two => one.trans two)
    (fun impossible _ => impossible) ab notBa bc notCb ca notAc

/-- Identifiers are fit to be keys together exactly if any two are comparable. -/
theorem keyOrderOn_iff (keys : Set InstanceIdentifier) :
    KeyOrderOn keys Less Equal ↔ ∀ a ∈ keys, ∀ b ∈ keys, a.Comparable b := by
  constructor
  · intro order a aUsed b bUsed
    exact (exactlyOne_iff.mp (order.trichotomous a aUsed b bUsed)).1
  · intro comparable
    have trichotomous : ∀ a ∈ keys, ∀ b ∈ keys, ExactlyOne (a.Less b) (b.Less a) (a.Equal b) := by
      intro a aUsed b bUsed
      exact exactlyOne_iff.mpr ⟨comparable a aUsed b bUsed, comparable b bUsed a aUsed⟩
    have asymmetric : ∀ a ∈ keys, ∀ b ∈ keys, a.Less b → ¬ b.Less a := by
      intro a aUsed b bUsed less
      exact (trichotomous a aUsed b bUsed).not_two less
    apply keyOrderOn_of_exactlyOne trichotomous
    · intro a aUsed b bUsed c cUsed ab bc ca
      exact not_cycle ab (asymmetric a aUsed b bUsed ab) bc
        (asymmetric b bUsed c cUsed bc) ca (asymmetric c cUsed a aUsed ca)
    · intro a _ b _ c _ same less
      exact less.congr same
    · intro a _ b _ c _ ab bc
      exact ab.trans bc

end InstanceIdentifier

/-! ## Handles -/

namespace HandleType

/-- The place of a handle among the services. -/
def rank (handle : HandleType) : String ×ₗ ℕ ×ₗ ℕ := handle.identifier.rank

/-- Two handles of one service and the same instance have ids of one binding; where one
instance is lower, its id is not greater; otherwise one of the ids is lower.  Of two
services, neither instance nor id of the greater is lower. -/
def Comparable (a b : HandleType) : Prop := a.instanceId ≠ .blank ∧ b.instanceId ≠ .blank ∧
    (a.rank = b.rank →
      (a.identifier.instanceDeployment.SameInstance b.identifier.instanceDeployment ∧
          a.instanceId.binding = b.instanceId.binding) ∨
        (a.identifier.instanceDeployment.Lower b.identifier.instanceDeployment ∧
          ¬ b.instanceId.Lower a.instanceId) ∨
        (b.identifier.instanceDeployment.Lower a.identifier.instanceDeployment ∧
          ¬ a.instanceId.Lower b.instanceId) ∨
        (¬ a.identifier.instanceDeployment.SameInstance b.identifier.instanceDeployment ∧
          ¬ a.identifier.instanceDeployment.Lower b.identifier.instanceDeployment ∧
          ¬ b.identifier.instanceDeployment.Lower a.identifier.instanceDeployment ∧
          (a.instanceId.Lower b.instanceId ∨ b.instanceId.Lower a.instanceId))) ∧
    (a.rank < b.rank → ¬ b.identifier.instanceDeployment.Lower a.identifier.instanceDeployment ∧
        ¬ b.instanceId.Lower a.instanceId)

variable {a b c : HandleType}

theorem less_iff : a.Less b ↔ UnionLess rank
    (fun one two => one.identifier.instanceDeployment.Less two.identifier.instanceDeployment)
    (fun one two => one.instanceId.Less two.instanceId) a b := by
  rw [Less, InstanceIdentifier.less_iff, UnionLess, rank, rank, or_assoc]

theorem equal_iff : a.Equal b ↔ a.rank = b.rank ∧
    a.identifier.instanceDeployment.Equal b.identifier.instanceDeployment ∧
    a.instanceId.Equal b.instanceId := by
  rw [Equal, InstanceIdentifier.equal_iff, rank, rank, and_assoc]

/-- Two handles with present ids compare in exactly one way if they are
comparable in either order. -/
theorem exactlyOne_iff (aPresent : a.instanceId ≠ .blank) (bPresent : b.instanceId ≠ .blank) :
    ExactlyOne (a.Less b) (b.Less a) (a.Equal b) ↔ a.Comparable b ∧ b.Comparable a := by
  have ids := ServiceInstanceId.exactlyOne_iff aPresent bPresent
  simp only [less_iff, equal_iff, UnionLess, Comparable,
    ← ServiceInstanceDeployment.equal_iff, ← ServiceInstanceDeployment.less_iff,
    ← ServiceInstanceId.less_iff aPresent, ← ServiceInstanceId.less_iff bPresent]
  rcases lt_trichotomy a.rank b.rank with before | same | after
  · simp [ExactlyOne, aPresent, bPresent, before, before.ne, before.ne', before.asymm]
  · by_cases less : a.identifier.instanceDeployment.Less b.identifier.instanceDeployment
    · have notEqual := less.not_equal
      have notSymm : ¬ b.identifier.instanceDeployment.Equal
          a.identifier.instanceDeployment := fun equal => notEqual equal.symm
      simp [ExactlyOne, aPresent, bPresent, same, less, less.asymm, notEqual, notSymm]
    · by_cases greater : b.identifier.instanceDeployment.Less a.identifier.instanceDeployment
      · have notSymm := greater.not_equal
        have notEqual : ¬ a.identifier.instanceDeployment.Equal
            b.identifier.instanceDeployment := fun equal => notSymm equal.symm
        simp [ExactlyOne, aPresent, bPresent, same, less, greater, notEqual, notSymm]
      · by_cases equal : a.identifier.instanceDeployment.Equal b.identifier.instanceDeployment
        · have binding : b.instanceId.binding = a.instanceId.binding ↔
              a.instanceId.binding = b.instanceId.binding := eq_comm
          simp [aPresent, bPresent, same, less, greater, equal, equal.symm, binding, ids]
        · have notSymm : ¬ b.identifier.instanceDeployment.Equal
              a.identifier.instanceDeployment := fun other => equal other.symm
          by_cases idLess : a.instanceId.Less b.instanceId
          · simp [ExactlyOne, aPresent, bPresent, same, less, greater, equal, notSymm,
              idLess, idLess.asymm aPresent]
          · simp [ExactlyOne, aPresent, bPresent, same, less, greater, equal, notSymm, idLess]
  · simp [ExactlyOne, aPresent, bPresent, after, after.ne, after.ne', after.asymm]

/-- Handles are fit to be keys together exactly if any two are comparable. -/
theorem keyOrderOn_iff (keys : Set HandleType) :
    KeyOrderOn keys Less Equal ↔ ∀ a ∈ keys, ∀ b ∈ keys, a.Comparable b := by
  constructor
  · intro order
    have present : ∀ a ∈ keys, a.instanceId ≠ .blank := by
      intro a used blank
      apply order.irreflexive a used
      right
      rw [blank]
      trivial
    intro a aUsed b bUsed
    exact ((exactlyOne_iff (present a aUsed) (present b bUsed)).mp
      (order.trichotomous a aUsed b bUsed)).1
  · intro comparable
    have present : ∀ a ∈ keys, a.instanceId ≠ .blank := fun a used => (comparable a used a used).1
    have trichotomous : ∀ a ∈ keys, ∀ b ∈ keys, ExactlyOne (a.Less b) (b.Less a) (a.Equal b) := by
      intro a aUsed b bUsed
      exact (exactlyOne_iff (present a aUsed) (present b bUsed)).mpr
        ⟨comparable a aUsed b bUsed, comparable b bUsed a aUsed⟩
    have asymmetric : ∀ a ∈ keys, ∀ b ∈ keys, a.Less b → ¬ b.Less a := by
      intro a aUsed b bUsed less
      exact (trichotomous a aUsed b bUsed).not_two less
    apply keyOrderOn_of_exactlyOne trichotomous
    · intro a aUsed b bUsed c cUsed ab bc ca
      have notBa := asymmetric a aUsed b bUsed ab
      have notCb := asymmetric b bUsed c cUsed bc
      have notAc := asymmetric c cUsed a aUsed ca
      rw [less_iff] at ab notBa bc notCb ca notAc
      exact not_cycle_of_union (fun one two => one.trans two)
        (fun one two => one.trans two) ab notBa bc notCb ca notAc
    · intro a aUsed b _ c _ same less
      rcases less with identifiers | ids
      · exact .inl (identifiers.congr same.1)
      · right
        rw [(ServiceInstanceId.equal_iff (present a aUsed)).mp same.2]
        exact ids
    · intro a aUsed b bUsed c _ ab bc
      refine ⟨ab.1.trans bc.1, ?_⟩
      rw [(ServiceInstanceId.equal_iff (present a aUsed)).mp ab.2]
      exact bc.2

end HandleType

/-! ## The law -/

/-- Which identifiers and which handles can be keys together. -/
theorem keyOrder_iff (identifiers : Set InstanceIdentifier) (handles : Set HandleType) :
    (KeyOrderOn identifiers InstanceIdentifier.Less InstanceIdentifier.Equal ↔
        ∀ a ∈ identifiers, ∀ b ∈ identifiers, a.Comparable b) ∧
      (KeyOrderOn handles HandleType.Less HandleType.Equal ↔
        ∀ a ∈ handles, ∀ b ∈ handles, a.Comparable b) :=
  ⟨InstanceIdentifier.keyOrderOn_iff identifiers, HandleType.keyOrderOn_iff handles⟩

section Inputs

/-- The instance with LoLa id `id` of a service. -/
def lolaIdentifier (id : BitVec 16) : InstanceIdentifier where
  instanceDeployment :=
    { service := ⟨"/bmw/service", ⟨1, 0⟩⟩
      bindingInfo := .lola
        { instanceId := some ⟨id⟩
          sharedMemorySize := none
          events := .empty
          fields := .empty
          strictPermissions := false
          allowedConsumer := .empty
          allowedProvider := .empty }
      asilLevel := .asilQm
      instanceSpecifier := ⟨"abc/port", isShortNameValid_port⟩ }
  typeDeployment := .blank

/-- Two instances of one service with different ids are neither less nor equal. -/
theorem keyOrder_violated :
    ¬ (KeyOrderOn Set.univ InstanceIdentifier.Less InstanceIdentifier.Equal ∧
      KeyOrderOn Set.univ HandleType.Less HandleType.Equal) := by
  rintro ⟨order, _⟩
  rcases order.trichotomous (lolaIdentifier 1) trivial (lolaIdentifier 2) trivial with
    ⟨less, _, _⟩ | ⟨_, greater, _⟩ | ⟨_, _, equal⟩
  · rcases less with service | deployment
    · exact absurd service (by simp [ServiceIdentifierType.less_iff, lolaIdentifier])
    · exact absurd deployment.1 (by decide)
  · rcases greater with service | deployment
    · exact absurd service (by simp [ServiceIdentifierType.less_iff, lolaIdentifier])
    · exact absurd deployment.1 (by decide)
  · have ids : (some ⟨1⟩ : Option LolaServiceInstanceId) = some ⟨2⟩ := equal.2.2
    exact absurd ids (by decide)

end Inputs

end MwCom.Configuration
