/-
Module: MwCom.Configuration.HashCoherence
Purpose: Which equal identifiers and handles have equal hash values.
Trusted boundary: the JSON library returns the values put into it, and the text of
  an object is that of its members.
Main exports: HandleType.hashText, InstanceIdentifier.SameConfiguration,
  hashCoherent_iff
-/
import MwCom.Configuration.RoundTrip

namespace MwCom.Configuration

open Containers Json

/-! ## Hash texts -/

/-- A number in hexadecimal, filled up with zeros on the left. -/
def toHex (width number : ℕ) : List Char := (Nat.toDigits 16 number).leftpad width '0'

def LolaServiceInstanceId.toHashString (id : LolaServiceInstanceId) : List Char :=
  toHex 4 id.id.toNat

def SomeIpServiceInstanceId.toHashString (id : SomeIpServiceInstanceId) : List Char :=
  toHex 4 id.id.toNat

def LolaServiceTypeDeployment.toHashString (deployment : LolaServiceTypeDeployment) : List Char :=
  toHex 4 deployment.serviceId.toNat

namespace ServiceInstanceId

def index : ServiceInstanceId → ℕ
  | .lola _ => 0
  | .someIp _ => 1
  | .blank => 2

def toHashString (id : ServiceInstanceId) : List Char := toHex 0 id.index ++
    match id with
    | .lola id => id.toHashString
    | .someIp id => id.toHashString
    | .blank => []

end ServiceInstanceId

def ServiceTypeDeployment.toHashString (deployment : ServiceTypeDeployment) : List Char :=
  toHex 0 deployment.index.toNat ++
    match deployment with
    | .lola deployment => deployment.toHashString
    | .blank => []

namespace HandleType

/-- The characters that the hash of a handle is taken of; `none`: they do not fit
into the buffer, which is asserted not to happen. -/
def hashText (handle : HandleType) : Option String := do
  let instanceId := handle.instanceId.toHashString
  let typeDeployment := handle.identifier.typeDeployment.toHashString
  guard (instanceId.length + typeDeployment.length ≤ 5 + 5)
  pure (String.ofList (instanceId ++ typeDeployment))

end HandleType

/-! ## Numbers in hexadecimal -/

def digitOfHex (digit : Char) : ℕ :=
  if digit.isDigit then digit.toNat - '0'.toNat else digit.toNat - 'a'.toNat + 10

def ofHex (digits : List Char) : ℕ :=
  digits.foldl (fun number digit => 16 * number + digitOfHex digit) 0

theorem digitOfHex_digitChar {digit : ℕ} (small : digit < 16) :
    digitOfHex digit.digitChar = digit := by
  have all : ∀ digit < 16, digitOfHex digit.digitChar = digit := by decide
  exact all digit small

theorem ofHex_toDigits (number : ℕ) : ofHex (Nat.toDigits 16 number) = number := by
  induction number using Nat.strong_induction_on with
  | h number ih =>
      by_cases small : number < 16
      · rw [Nat.toDigits_of_lt_base small, ofHex, List.foldl_cons, List.foldl_nil,
          digitOfHex_digitChar small]
        omega
      · have earlier := ih (number / 16) (by omega)
        rw [ofHex] at earlier
        rw [Nat.toDigits_of_base_le (by decide) (by omega), ofHex, List.foldl_append,
          earlier, List.foldl_cons, List.foldl_nil, digitOfHex_digitChar (by omega)]
        omega

/-- Leading zeros do not count. -/
theorem ofHex_toHex (width number : ℕ) : ofHex (toHex width number) = number := by
  have zeros (count : ℕ) (digits : List Char) :
      ofHex (List.replicate count '0' ++ digits) = ofHex digits := by
    induction count with
    | zero => rfl
    | succ count ih =>
        rw [List.replicate_succ, List.cons_append, ofHex, List.foldl_cons]
        exact ih
  rw [toHex, List.leftpad, zeros, ofHex_toDigits]

theorem toHex_injective (width : ℕ) : Function.Injective (toHex width) :=
  Function.LeftInverse.injective (ofHex_toHex width)

/-- Sixteen bits are four digits. -/
theorem length_toHex (number : BitVec 16) : (toHex 4 number.toNat).length = 4 := by
  have short : (Nat.toDigits 16 number.toNat).length ≤ 4 := by
    rw [Nat.length_toDigits_le_iff (by decide) (by decide)]
    exact number.isLt
  rw [toHex, List.length_leftpad]
  omega

theorem toHex_of_lt {digit : ℕ} (small : digit < 16) : toHex 0 digit = [digit.digitChar] := by
  rw [toHex, Nat.toDigits_of_lt_base small]
  rfl

/-! ## What a handle's text says -/

theorem ServiceInstanceId.toHashString_lola (id : LolaServiceInstanceId) :
    (lola id).toHashString = '0' :: toHex 4 id.id.toNat := by
  rw [toHashString, index, toHex_of_lt (by decide)]
  rfl

theorem ServiceInstanceId.toHashString_someIp (id : SomeIpServiceInstanceId) :
    (someIp id).toHashString = '1' :: toHex 4 id.id.toNat := by
  rw [toHashString, index, toHex_of_lt (by decide)]
  rfl

theorem ServiceInstanceId.toHashString_blank : blank.toHashString = ['2'] := rfl

theorem ServiceTypeDeployment.toHashString_lola (deployment : LolaServiceTypeDeployment) :
    (lola deployment).toHashString = '0' :: toHex 4 deployment.serviceId.toNat := by
  rw [toHashString, index, toHex_of_lt (by decide)]
  rfl

theorem ServiceTypeDeployment.toHashString_blank : blank.toHashString = ['1'] := rfl

/-- Four digits at the start of a text are those of one number. -/
theorem toHex_append_inj {one two : BitVec 16} {rest next : List Char}
    (same : toHex 4 one.toNat ++ rest = toHex 4 two.toNat ++ next) :
    one = two ∧ rest = next := by
  have lengths : (toHex 4 one.toNat).length = (toHex 4 two.toNat).length := by
    rw [length_toHex, length_toHex]
  obtain ⟨digits, rests⟩ := List.append_inj same lengths
  exact ⟨BitVec.eq_of_toNat_eq (toHex_injective 4 digits), rests⟩

/-- The id in front of a text is determined. -/
theorem ServiceInstanceId.toHashString_append_inj {one two : ServiceInstanceId}
    {rest next : List Char} (same : one.toHashString ++ rest = two.toHashString ++ next) :
    one = two ∧ rest = next := by
  cases one with
  | lola one =>
      cases two with
      | lola two =>
          rw [toHashString_lola, toHashString_lola, List.cons_append, List.cons_append,
            List.cons.injEq] at same
          obtain ⟨ids, rests⟩ := toHex_append_inj same.2
          obtain ⟨one⟩ := one
          obtain ⟨two⟩ := two
          exact ⟨by rw [show one = two from ids], rests⟩
      | someIp two => simp [toHashString_lola, toHashString_someIp] at same
      | blank => simp [toHashString_lola, toHashString_blank] at same
  | someIp one =>
      cases two with
      | lola two => simp [toHashString_lola, toHashString_someIp] at same
      | someIp two =>
          rw [toHashString_someIp, toHashString_someIp, List.cons_append, List.cons_append,
            List.cons.injEq] at same
          obtain ⟨ids, rests⟩ := toHex_append_inj same.2
          obtain ⟨one⟩ := one
          obtain ⟨two⟩ := two
          exact ⟨by rw [show one = two from ids], rests⟩
      | blank => simp [toHashString_someIp, toHashString_blank] at same
  | blank =>
      cases two with
      | lola two => simp [toHashString_lola, toHashString_blank] at same
      | someIp two => simp [toHashString_someIp, toHashString_blank] at same
      | blank =>
          rw [toHashString_blank] at same
          exact ⟨rfl, List.append_cancel_left same⟩

/-- Types of one binding with one service id. -/
def ServiceTypeDeployment.SameService : (lhs rhs : ServiceTypeDeployment) → Prop
  | .lola lhs, .lola rhs => lhs.serviceId = rhs.serviceId
  | .blank, .blank => True
  | _, _ => False

theorem ServiceTypeDeployment.toHashString_eq_iff {one two : ServiceTypeDeployment} :
    one.toHashString = two.toHashString ↔ one.SameService two := by
  cases one with
  | lola one =>
      cases two with
      | lola two =>
          rw [toHashString_lola, toHashString_lola, List.cons.injEq, SameService]
          constructor
          · intro same
            exact BitVec.eq_of_toNat_eq (toHex_injective 4 same.2)
          · intro same
            rw [same]
            exact ⟨rfl, rfl⟩
      | blank => simp [toHashString_lola, toHashString_blank, SameService]
  | blank =>
      cases two with
      | lola two => simp [toHashString_lola, toHashString_blank, SameService]
      | blank => simp [SameService]

namespace HandleType

/-- The characters always fit. -/
theorem hashText_eq (handle : HandleType) : handle.hashText = some (String.ofList
    (handle.instanceId.toHashString ++ handle.identifier.typeDeployment.toHashString)) := by
  have idFits : handle.instanceId.toHashString.length ≤ 5 := by
    cases handle.instanceId with
    | lola id => rw [ServiceInstanceId.toHashString_lola, List.length_cons, length_toHex]
    | someIp id => rw [ServiceInstanceId.toHashString_someIp, List.length_cons, length_toHex]
    | blank => decide
  have typeFits : handle.identifier.typeDeployment.toHashString.length ≤ 5 := by
    cases handle.identifier.typeDeployment with
    | lola deployment =>
        rw [ServiceTypeDeployment.toHashString_lola, List.length_cons, length_toHex]
    | blank => decide
  simp only [hashText, guard, Option.pure_def, Option.bind_eq_bind]
  rw [if_pos (Nat.add_le_add idFits typeFits)]
  rfl

/-- Two handles have one text exactly if they have one instance id and types of one
service. -/
theorem hashText_eq_iff {one two : HandleType} :
    one.hashText = two.hashText ↔ one.instanceId = two.instanceId ∧
      one.identifier.typeDeployment.SameService two.identifier.typeDeployment := by
  rw [hashText_eq, hashText_eq, Option.some.injEq, String.ofList_inj,
    ← ServiceTypeDeployment.toHashString_eq_iff]
  constructor
  · exact ServiceInstanceId.toHashString_append_inj
  · rintro ⟨ids, types⟩
    rw [ids, types]

end HandleType

/-! ## What an identifier's text says -/

variable {Any Object : Type} {json : JsonLibrary Any Object}

namespace LolaServiceInstanceDeployment

variable {one two three : LolaServiceInstanceDeployment}
  {view : LolaEventInstanceDeployment → LolaEventInstanceDeployment}

theorem Agree.symm (same : one.Agree view two) : two.Agree view one where
  instanceId := same.instanceId.symm
  sharedMemorySize := same.sharedMemorySize.symm
  events name := (same.events name).symm
  fields name := (same.fields name).symm
  strictPermissions := same.strictPermissions.symm
  allowedConsumer quality := (same.allowedConsumer quality).symm
  allowedProvider quality := (same.allowedProvider quality).symm

theorem Agree.trans (same : one.Agree view two) (next : two.Agree view three) :
    one.Agree view three where
  instanceId := same.instanceId.trans next.instanceId
  sharedMemorySize := same.sharedMemorySize.trans next.sharedMemorySize
  events name := (same.events name).trans (next.events name)
  fields name := (same.fields name).trans (next.fields name)
  strictPermissions := same.strictPermissions.trans next.strictPermissions
  allowedConsumer quality := (same.allowedConsumer quality).trans (next.allowedConsumer quality)
  allowedProvider quality := (same.allowedProvider quality).trans (next.allowedProvider quality)

end LolaServiceInstanceDeployment

namespace BindingInformation

variable {one two three : BindingInformation}
  {view : LolaEventInstanceDeployment → LolaEventInstanceDeployment}

theorem Agree.symm (same : one.Agree view two) : two.Agree view one := by
  cases one with
  | lola one =>
      cases two with
      | lola two => exact LolaServiceInstanceDeployment.Agree.symm same
      | _ => exact same.elim
  | someIp one =>
      cases two with
      | someIp two =>
          exact ⟨same.instanceId.symm, fun name => (same.events name).symm,
            fun name => (same.fields name).symm⟩
      | _ => exact same.elim
  | blank =>
      cases two with
      | blank => trivial
      | _ => exact same.elim

theorem Agree.trans (same : one.Agree view two) (next : two.Agree view three) :
    one.Agree view three := by
  cases two with
  | lola two =>
      cases one with
      | lola one =>
          cases three with
          | lola three => exact LolaServiceInstanceDeployment.Agree.trans same next
          | _ => exact next.elim
      | _ => exact same.elim
  | someIp two =>
      cases one with
      | someIp one =>
          cases three with
          | someIp three =>
              exact ⟨same.instanceId.trans next.instanceId,
                fun name => (same.events name).trans (next.events name),
                fun name => (same.fields name).trans (next.fields name)⟩
          | _ => exact next.elim
      | _ => exact same.elim
  | blank =>
      cases one with
      | blank => exact next
      | _ => exact same.elim

end BindingInformation

namespace ServiceTypeDeployment

variable {one two three : ServiceTypeDeployment}

theorem Agree.symm (same : one.Agree two) : two.Agree one := by
  cases one with
  | lola one =>
      cases two with
      | lola two =>
          exact ⟨same.serviceId.symm, fun name => (same.events name).symm,
            fun name => (same.fields name).symm⟩
      | blank => exact same.elim
  | blank =>
      cases two with
      | lola two => exact same.elim
      | blank => trivial

theorem Agree.trans (same : one.Agree two) (next : two.Agree three) : one.Agree three := by
  cases two with
  | lola two =>
      cases one with
      | lola one =>
          cases three with
          | lola three =>
              exact ⟨same.serviceId.trans next.serviceId,
                fun name => (same.events name).trans (next.events name),
                fun name => (same.fields name).trans (next.fields name)⟩
          | blank => exact next.elim
      | blank => exact same.elim
  | blank =>
      cases one with
      | lola one => exact same.elim
      | blank => exact next

end ServiceTypeDeployment

/-- Elements that show the same are written alike. -/
theorem convertServiceElementMapToJson_congr (lawful : json.Lawful)
    (canonical : json.Canonical) {Element Shown : Type} {serialize : Element → Object}
    (view : Element → Shown)
    (shown : ∀ one two, view one = view two → serialize one = serialize two)
    {one two : UnorderedMap String Element}
    (same : ∀ name, (one.find name).map view = (two.find name).map view) :
    convertServiceElementMapToJson json serialize one =
      convertServiceElementMapToJson json serialize two := by
  apply lawful.writeMap_congr canonical Function.injective_id view
  · intro first second shows
    rw [shown first second shows]
  · exact same

theorem QualityType.toText_injective : Function.Injective QualityType.toText := by
  intro one two same
  have isOne := (QualityType.fromString_eq_some_iff two.toText one).mpr same.symm
  rw [(QualityType.fromString_eq_some_iff two.toText two).mpr rfl] at isOne
  exact (Option.some.inj isOne).symm

theorem convertUidMapToJson_congr (lawful : json.Lawful) (canonical : json.Canonical)
    {one two : UnorderedMap QualityType (List (BitVec 32))}
    (same : ∀ quality, one.find quality = two.find quality) :
    convertUidMapToJson json one = convertUidMapToJson json two := by
  apply lawful.writeMap_congr canonical QualityType.toText_injective id
  · intro first second shows
    rw [show first = second from shows]
  · intro quality
    rw [same]

theorem convertServiceElementIdMapToJson_congr (lawful : json.Lawful)
    (canonical : json.Canonical) {one two : UnorderedMap String (BitVec 8)}
    (same : ∀ name, one.find name = two.find name) :
    convertServiceElementIdMapToJson json one = convertServiceElementIdMapToJson json two := by
  apply lawful.writeMap_congr canonical Function.injective_id id
  · intro first second shows
    rw [show first = second from shows]
  · intro name
    rw [same]

/-- The tracing flag is not written. -/
theorem LolaEventInstanceDeployment.serialize_congr (json : JsonLibrary Any Object)
    (one two : LolaEventInstanceDeployment) (same : one.withoutTracing = two.withoutTracing) :
    one.serialize json = two.serialize json := by
  have written (event : LolaEventInstanceDeployment) :
      event.serialize json = event.withoutTracing.serialize json :=
    rfl
  rw [written, same, ← written]

/-- Bindings that agree are written alike. -/
theorem BindingInformation.serializeInto_congr (lawful : json.Lawful)
    (canonical : json.Canonical) {one two : BindingInformation}
    (same : one.Agree LolaEventInstanceDeployment.withoutTracing two) :
    one.index = two.index ∧
      ∀ object, one.serializeInto json object = two.serializeInto json object := by
  cases one with
  | lola one =>
      cases two with
      | lola two =>
          have events := convertServiceElementMapToJson_congr lawful canonical _
            (LolaEventInstanceDeployment.serialize_congr json) same.events
          have fields := convertServiceElementMapToJson_congr lawful canonical _
            (LolaEventInstanceDeployment.serialize_congr json) same.fields
          have consumers := convertUidMapToJson_congr lawful canonical same.allowedConsumer
          have providers := convertUidMapToJson_congr lawful canonical same.allowedProvider
          refine ⟨rfl, fun object => ?_⟩
          simp only [serializeInto, LolaServiceInstanceDeployment.serialize,
            same.instanceId, same.sharedMemorySize, same.strictPermissions, events, fields,
            consumers, providers]
      | someIp two | blank => exact same.elim
  | someIp one =>
      cases two with
      | lola two => exact same.elim
      | someIp two =>
          have alike (first second : SomeIpEventInstanceDeployment)
              (_ : id first = id second) :
              first.serialize json = second.serialize json :=
            rfl
          have events := convertServiceElementMapToJson_congr lawful canonical id alike
            (fun name => congrArg (Option.map id) (same.events name))
          have fields := convertServiceElementMapToJson_congr lawful canonical id alike
            (fun name => congrArg (Option.map id) (same.fields name))
          refine ⟨rfl, fun object => ?_⟩
          simp only [serializeInto, SomeIpServiceInstanceDeployment.serialize,
            same.instanceId, events, fields]
      | blank => exact same.elim
  | blank =>
      cases two with
      | lola two | someIp two => exact same.elim
      | blank => exact ⟨rfl, fun _ => rfl⟩

/-- Types that agree are written alike. -/
theorem ServiceTypeDeployment.serialize_congr (lawful : json.Lawful)
    (canonical : json.Canonical) {one two : ServiceTypeDeployment} (same : one.Agree two) :
    one.serialize json = two.serialize json := by
  cases one with
  | lola one =>
      cases two with
      | lola two =>
          have events := convertServiceElementIdMapToJson_congr lawful canonical same.events
          have fields := convertServiceElementIdMapToJson_congr lawful canonical same.fields
          simp only [serialize, index, LolaServiceTypeDeployment.serialize, same.serviceId,
            events, fields]
      | blank => exact same.elim
  | blank =>
      cases two with
      | lola two => exact same.elim
      | blank => rfl

namespace InstanceIdentifier

/-- All that is configured is the same, up to which events are traced. -/
structure SameConfiguration (lhs rhs : InstanceIdentifier) : Prop where
  bindingInfo : lhs.instanceDeployment.bindingInfo.Agree
    LolaEventInstanceDeployment.withoutTracing rhs.instanceDeployment.bindingInfo
  instanceSpecifier :
    lhs.instanceDeployment.instanceSpecifier = rhs.instanceDeployment.instanceSpecifier
  typeDeployment : lhs.typeDeployment.Agree rhs.typeDeployment

theorem exists_serialize (lawful : json.Lawful) (identifier : InstanceIdentifier) :
    ∃ instanceObject typeObject object, identifier.serialize json = some object ∧
      identifier.instanceDeployment.serialize json = some instanceObject ∧
      identifier.typeDeployment.serialize json = some typeObject ∧
      json.find object "serviceInstanceDeployment" = some (json.object instanceObject) ∧
      json.find object "serviceTypeDeployment" = some (json.object typeObject) := by
  obtain ⟨_, instanceReads, _⟩ := identifier.instanceDeployment.exists_ofJson lawful
  obtain ⟨_, typeReads, _⟩ := identifier.typeDeployment.exists_ofJson lawful
  obtain ⟨instanceObject, instanceWritten, _⟩ := Option.bind_eq_some_iff.mp instanceReads
  obtain ⟨typeObject, typeWritten, _⟩ := Option.bind_eq_some_iff.mp typeReads
  have written : identifier.serialize json = some
      (json.set (json.set
          (json.set json.empty "serializationVersion" (json.unsigned 32 serializationVersion))
          "serviceInstanceDeployment" (json.object instanceObject))
        "serviceTypeDeployment" (json.object typeObject)) := by
    rw [serialize, instanceWritten, typeWritten]
    rfl
  refine ⟨instanceObject, typeObject, _, written, instanceWritten, typeWritten, ?_, ?_⟩
  · simp [lawful.find_set]
  · simp [lawful.find_set]

/-- Two equal identifiers have one text exactly if they are configured alike. -/
theorem toText_eq_iff (lawful : json.Lawful) (canonical : json.Canonical)
    {one two : InstanceIdentifier} (equal : one.Equal two) :
    one.toText json = two.toText json ↔ one.SameConfiguration two := by
  constructor
  · intro same
    obtain ⟨oneInstance, oneType, oneObject, oneWritten, oneInstanceWritten, oneTypeWritten,
      oneInstanceFound, oneTypeFound⟩ := one.exists_serialize lawful
    obtain ⟨twoInstance, twoType, twoObject, twoWritten, twoInstanceWritten, twoTypeWritten,
      twoInstanceFound, twoTypeFound⟩ := two.exists_serialize lawful
    rw [toText, toText, oneWritten, twoWritten, Option.map_some, Option.map_some,
      Option.some.injEq] at same
    have objects : oneObject = twoObject := canonical.toBuffer_injective same
    rw [objects, twoInstanceFound, Option.some.injEq] at oneInstanceFound
    rw [objects, twoTypeFound, Option.some.injEq] at oneTypeFound
    have instances : twoInstance = oneInstance := lawful.object_inj oneInstanceFound
    have types : twoType = oneType := lawful.object_inj oneTypeFound
    -- what is read of one object agrees with both that were written as it
    obtain ⟨oneRead, oneReads, _, oneAgrees, _, _, oneSpecifier⟩ :=
      one.instanceDeployment.exists_ofJson lawful
    obtain ⟨twoRead, twoReads, _, twoAgrees, _, _, twoSpecifier⟩ :=
      two.instanceDeployment.exists_ofJson lawful
    rw [oneInstanceWritten] at oneReads
    rw [twoInstanceWritten, instances, oneReads, Option.some.injEq] at twoReads
    obtain ⟨oneTypeRead, oneTypeReads, oneTypeAgrees⟩ := one.typeDeployment.exists_ofJson lawful
    obtain ⟨twoTypeRead, twoTypeReads, twoTypeAgrees⟩ := two.typeDeployment.exists_ofJson lawful
    rw [oneTypeWritten] at oneTypeReads
    rw [twoTypeWritten, types, oneTypeReads, Option.some.injEq] at twoTypeReads
    rw [← twoReads] at twoAgrees twoSpecifier
    rw [← twoTypeReads] at twoTypeAgrees
    exact
      { bindingInfo := oneAgrees.symm.trans twoAgrees
        instanceSpecifier := oneSpecifier.symm.trans twoSpecifier
        typeDeployment := oneTypeAgrees.symm.trans twoTypeAgrees }
  · intro same
    obtain ⟨index, binding⟩ :=
      BindingInformation.serializeInto_congr lawful canonical same.bindingInfo
    have types := ServiceTypeDeployment.serialize_congr lawful canonical same.typeDeployment
    simp only [toText, serialize, ServiceInstanceDeployment.serialize, index, binding,
      equal.1, equal.2.1, same.instanceSpecifier, types]

end InstanceIdentifier

/-! ## The law -/

/-- Any two values are told apart by some hash. -/
theorem forall_hash_iff {one two : Option String} :
    (∀ hash : String → BitVec 64, one.map hash = two.map hash) ↔ one = two := by
  constructor
  · intro same
    cases one with
    | none =>
        cases two with
        | none => rfl
        | some second => exact absurd (same fun _ => 0) (by simp)
    | some first =>
        cases two with
        | none => exact absurd (same fun _ => 0) (by simp)
        | some second =>
            have told := same fun text => if text = first then 1 else 0
            by_cases equal : second = first
            · rw [equal]
            · simp [equal] at told
  · intro same hash
    rw [same]

/-- Equal identifiers have equal hashes exactly if they are configured alike, and
equal handles exactly if they have one instance id and types of one service. -/
theorem hashCoherent_iff (lawful : json.Lawful) (canonical : json.Canonical) :
    (∀ one two : InstanceIdentifier, (one.Equal two → ∀ hash : String → BitVec 64,
        (one.toText json).map hash = (two.toText json).map hash) ↔
      (one.Equal two → one.SameConfiguration two)) ∧
    ∀ one two : HandleType,
      (one.Equal two → ∀ hash : String → BitVec 64, one.hashText.map hash = two.hashText.map hash) ↔
      (one.Equal two → one.instanceId = two.instanceId ∧
        one.identifier.typeDeployment.SameService two.identifier.typeDeployment) := by
  constructor
  · intro one two
    apply imp_congr_right
    intro equal
    rw [forall_hash_iff, InstanceIdentifier.toText_eq_iff lawful canonical equal]
  · intro one two
    apply imp_congr_right
    intro _
    rw [forall_hash_iff, HandleType.hashText_eq_iff]

section Inputs

theorem hashCoherent_sorted :
    (∀ one two : InstanceIdentifier, (one.Equal two → ∀ hash : String → BitVec 64,
        (one.toText sortedJson).map hash = (two.toText sortedJson).map hash) ↔
      (one.Equal two → one.SameConfiguration two)) ∧
    ∀ one two : HandleType,
      (one.Equal two → ∀ hash : String → BitVec 64, one.hashText.map hash = two.hashText.map hash) ↔
      (one.Equal two → one.instanceId = two.instanceId ∧
        one.identifier.typeDeployment.SameService two.identifier.typeDeployment) :=
  hashCoherent_iff sortedJson_lawful sortedJson_canonical

/-- One instance, found through a port. -/
def identifierOf (instanceSpecifier : InstanceSpecifier) : InstanceIdentifier where
  instanceDeployment := { instanceWith false with instanceSpecifier }
  typeDeployment := .blank

/-- Two ports of one instance have equal identifiers with different hashes. -/
theorem hashCoherent_violated :
    ¬ ∀ (Any Object : Type) (json : JsonLibrary Any Object), json.Lawful → json.Canonical →
      (∀ one two : InstanceIdentifier, one.Equal two → ∀ hash : String → BitVec 64,
        (one.toText json).map hash = (two.toText json).map hash) ∧
      ∀ one two : HandleType, one.Equal two → ∀ hash : String → BitVec 64,
        one.hashText.map hash = two.hashText.map hash := by
  intro always
  have coherent := (always JsonValue JsonObject sortedJson sortedJson_lawful sortedJson_canonical).1
  let first := identifierOf ⟨"abc/port", isShortNameValid_port⟩
  let second := identifierOf ⟨"xyz/port", by decide +kernel⟩
  have equal : first.Equal second := ⟨rfl, rfl, rfl⟩
  have texts := forall_hash_iff.mp (coherent first second equal)
  have same := (InstanceIdentifier.toText_eq_iff sortedJson_lawful sortedJson_canonical
    equal).mp texts
  have specifiers := congrArg InstanceSpecifier.instanceSpecifierString same.instanceSpecifier
  exact absurd specifiers (by decide)

end Inputs

end MwCom.Configuration
