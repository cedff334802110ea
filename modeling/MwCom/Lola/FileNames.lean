/-
Module: MwCom.Lola.FileNames
Purpose: The paths of the shared-memory objects and of the marker files of an instance, and
  that a path tells the file, the service and the instance it is for.
Trusted boundary: the directories of the builds that are not for QNX.
Main exports: InstanceFile.path, path_eq_iff
-/
import MwCom.Lola.UsageMarker
import MwCom.Text.Decimal

namespace MwCom.Lola.FileNames

def appendService (serviceId : BitVec 16) : List Char := Decimal.padded 16 serviceId.toNat ++ ['-']

def appendInstanceId (instanceId : BitVec 16) : List Char := Decimal.padded 5 instanceId.toNat

def appendServiceAndInstance (serviceId instanceId : BitVec 16) : List Char :=
  appendService serviceId ++ appendInstanceId instanceId

section Paths

variable (serviceId instanceId : BitVec 16)

def emitControlFileName (channelType : QualityType) : List Char :=
  "lola-ctl-".toList ++ appendServiceAndInstance serviceId instanceId ++
    match channelType with
    | .asilQm => []
    | .asilB => "-b".toList

def emitDataFileName : List Char :=
  "lola-data-".toList ++ appendServiceAndInstance serviceId instanceId

def getControlChannelPath (channelType : QualityType) : List Char :=
  "/dev/shm/".toList ++ emitControlFileName serviceId instanceId channelType

def getDataChannelPath : List Char := "/dev/shm/".toList ++ emitDataFileName serviceId instanceId

def getLolaPartialRestartDirectoryPath : List Char := "/tmp/mw_com_lola/partial_restart/".toList

def getServiceInstanceExistenceMarkerFilePath : List Char :=
  getLolaPartialRestartDirectoryPath ++ "existence-".toList ++
    appendServiceAndInstance serviceId instanceId

def getServiceInstanceUsageMarkerFilePath : List Char :=
  getLolaPartialRestartDirectoryPath ++ "usage-".toList ++
    appendServiceAndInstance serviceId instanceId

end Paths

/-- The files of an instance. -/
inductive InstanceFile where
  | shm (path : ShmPath)
  | existenceMarker
  | usageMarker

namespace InstanceFile

def path (serviceId instanceId : BitVec 16) : InstanceFile → List Char
  | shm (.control channelType) => getControlChannelPath serviceId instanceId channelType
  | shm .data => getDataChannelPath serviceId instanceId
  | existenceMarker => getServiceInstanceExistenceMarkerFilePath serviceId instanceId
  | usageMarker => getServiceInstanceUsageMarkerFilePath serviceId instanceId

/-- What stands before the service, and what stands behind the instance. -/
def around : InstanceFile → List Char × List Char
  | shm (.control .asilQm) => ("/dev/shm/".toList ++ "lola-ctl-".toList, [])
  | shm (.control .asilB) => ("/dev/shm/".toList ++ "lola-ctl-".toList, "-b".toList)
  | shm .data => ("/dev/shm/".toList ++ "lola-data-".toList, [])
  | existenceMarker => (getLolaPartialRestartDirectoryPath ++ "existence-".toList, [])
  | usageMarker => (getLolaPartialRestartDirectoryPath ++ "usage-".toList, [])

theorem path_eq (file : InstanceFile) (serviceId instanceId : BitVec 16) :
    file.path serviceId instanceId =
      file.around.1 ++ (appendServiceAndInstance serviceId instanceId ++ file.around.2) := by
  unfold path around getControlChannelPath getDataChannelPath emitControlFileName
    emitDataFileName getServiceInstanceExistenceMarkerFilePath
    getServiceInstanceUsageMarkerFilePath
  generalize appendServiceAndInstance serviceId instanceId = name
  rcases file with ((_ | _) | _) | _ | _ <;> simp only [List.append_assoc, List.append_nil]

/-- The paths of the files of one instance differ in their lengths. -/
theorem eq_of_length {file other : InstanceFile}
    (same : file.around.1.length + file.around.2.length =
      other.around.1.length + other.around.2.length) : file = other := by
  rcases file with ((_ | _) | _) | _ | _ <;> rcases other with ((_ | _) | _) | _ | _ <;>
    first | rfl | exact absurd same (by decide +kernel)

end InstanceFile

theorem length_appendService (serviceId : BitVec 16) : (appendService serviceId).length = 17 := by
  rw [appendService, List.length_append,
    Decimal.length_padded (by omega) (Nat.lt_trans serviceId.isLt (by decide))]
  rfl

theorem length_appendServiceAndInstance (serviceId instanceId : BitVec 16) :
    (appendServiceAndInstance serviceId instanceId).length = 22 := by
  rw [appendServiceAndInstance, List.length_append, length_appendService, appendInstanceId,
    Decimal.length_padded (by omega) (Nat.lt_trans instanceId.isLt (by decide))]

variable {serviceId otherService instanceId otherInstance : BitVec 16}

theorem appendServiceAndInstance_injective (same : appendServiceAndInstance serviceId instanceId =
      appendServiceAndInstance otherService otherInstance) :
    serviceId = otherService ∧ instanceId = otherInstance := by
  obtain ⟨sameService, sameInstance⟩ := List.append_inj same
    ((length_appendService serviceId).trans (length_appendService otherService).symm)
  constructor
  · exact BitVec.eq_of_toNat_eq (Decimal.padded_injective (List.append_cancel_right sameService))
  · exact BitVec.eq_of_toNat_eq (Decimal.padded_injective sameInstance)

/-- No two files of any instances have the same path. -/
theorem path_eq_iff {file other : InstanceFile} :
    file.path serviceId instanceId = other.path otherService otherInstance ↔
      file = other ∧ serviceId = otherService ∧ instanceId = otherInstance := by
  constructor
  · intro same
    rw [InstanceFile.path_eq, InstanceFile.path_eq] at same
    have lengths := congrArg List.length same
    simp only [List.length_append, length_appendServiceAndInstance] at lengths
    have sameFile : file = other := InstanceFile.eq_of_length (by omega)
    cases sameFile
    exact ⟨rfl, appendServiceAndInstance_injective
      (List.append_cancel_right (List.append_cancel_left same))⟩
  · rintro ⟨rfl, rfl, rfl⟩
    rfl

end MwCom.Lola.FileNames
