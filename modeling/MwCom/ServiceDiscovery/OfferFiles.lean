/-
Module: MwCom.ServiceDiscovery.OfferFiles
Purpose: The flag files that an offer creates and those that are there already, for every
  combination of file system operations that fail, and when an offer that fails leaves
  none behind.
Trusted boundary: nobody else changes the search path meanwhile; what has the name of a
  flag file and is not a regular file cannot be opened.
Main exports: SearchPath, FlagFile.make, offerService, OfferAtomic, Granted,
  offerAtomic_iff
-/
import MwCom.ServiceDiscovery.DirectoryNames

namespace MwCom.ServiceDiscovery.OfferFiles

open MwCom.Configuration (QualityType)
open MwCom.ServiceDiscovery.DirectoryNames (Name FileType getQualityTypeString)

/-! ## Below the search path -/

/-- What is at the search path of an instance: nothing, or a directory with entries. -/
inductive SearchPath where
  | missing
  | directory (allPermissions : Bool) (entries : List (Name × FileType))
deriving DecidableEq

namespace SearchPath

def entries : SearchPath → List (Name × FileType)
  | missing => []
  | directory _ entries => entries

def keep (path : SearchPath) (kept : Name → Bool) : SearchPath :=
  match path with
  | missing => missing
  | directory allPermissions entries =>
      directory allPermissions (entries.filter fun entry => kept entry.1)

/-- A directory that is created has all permissions. -/
def createDirectories : SearchPath → SearchPath
  | missing => directory true []
  | directory allPermissions entries => directory allPermissions entries

/-- A file that is there stays. -/
def create (path : SearchPath) (name : Name) : SearchPath :=
  match path with
  | missing => missing
  | directory allPermissions entries =>
      if (name, FileType.regular) ∈ entries then directory allPermissions entries
      else directory allPermissions ((name, FileType.regular) :: entries)

/-- There is a directory, and nothing in it that has the name and is not a file. -/
def Opens (path : SearchPath) (name : Name) : Prop :=
  path ≠ missing ∧ ∀ entry ∈ path.entries, entry.1 = name → entry.2 = .regular

instance (path : SearchPath) (name : Name) : Decidable (path.Opens name) := by
  unfold Opens
  infer_instance

/-- A regular file. -/
def HasFile (path : SearchPath) (name : Name) : Prop := (name, FileType.regular) ∈ path.entries

instance (path : SearchPath) (name : Name) : Decidable (path.HasFile name) := by
  unfold HasFile
  infer_instance

/-- What is created when the file is opened. -/
def created (path : SearchPath) (name : Name) : List Name :=
  if path.HasFile name then [] else [name]

variable {path : SearchPath} {name other : Name} {kept : Name → Bool}

@[simp] theorem hasFile_keep :
    (path.keep kept).HasFile name ↔ path.HasFile name ∧ kept name = true := by
  cases path with
  | missing => simp [keep, HasFile, entries]
  | directory allPermissions entries => simp [keep, HasFile, SearchPath.entries]

@[simp] theorem hasFile_createDirectories :
    path.createDirectories.HasFile name ↔ path.HasFile name := by
  cases path with
  | missing => simp [createDirectories, HasFile, entries]
  | directory allPermissions entries => rfl

theorem mem_created : other ∈ path.created name ↔ other = name ∧ ¬ path.HasFile name := by
  rw [created]
  split
  · simp [*]
  · simp [*]

theorem hasFile_create (opens : path.Opens name) :
    (path.create name).HasFile other ↔ other = name ∨ path.HasFile other := by
  cases path with
  | missing => exact absurd rfl opens.1
  | directory allPermissions entries =>
      rw [create]
      by_cases there : (name, FileType.regular) ∈ entries
      · rw [if_pos there]
        constructor
        · exact .inr
        · rintro (rfl | before)
          · exact there
          · exact before
      · simp [there, HasFile, SearchPath.entries]

end SearchPath

/-- The operations that fail while the flag file of one quality is made, each for the entry
or the try that it is for. -/
structure Failures where
  status : Name → Bool
  remove : Name → Bool
  createDirectories : Nat → Bool
  searchPathStatus : Nat → Bool
  openFile : Bool
  permissions : Bool

/-! ## Flag files -/

/-- The process that offers, and the number of the offer. -/
structure Offerer where
  pid : Nat
  offerDisambiguator : Nat

/-- The file name in `CreateFlagFilePath`. -/
def createFlagFilePath (offerer : Offerer) (quality : QualityType) : Name :=
  DirectoryNames.toString offerer.pid ++ '_' :: getQualityTypeString quality ++
    '_' :: DirectoryNames.toString offerer.offerDisambiguator

/-- The name contains the text of the quality. -/
def Matches (quality : QualityType) (name : Name) : Prop := getQualityTypeString quality <:+: name

instance (quality : QualityType) (name : Name) : Decidable (Matches quality name) := by
  unfold Matches
  infer_instance

section Making

variable (offerer : Offerer) (quality : QualityType) (failures : Failures)

/-- An entry is found if its status can be read. -/
def isFound (name : Name) : Bool := !failures.status name && decide (Matches quality name)

def getMatchingFlagFilePaths (path : SearchPath) : List Name := (path.entries.filter fun entry =>
    decide (entry.2 = FileType.regular) && isFound quality failures entry.1).map Prod.fst

/-- All that are found are tried; one that cannot be removed is an error in the end. -/
def removeMatchingFlagFiles (path : SearchPath) : Except String Unit × SearchPath :=
  let matching := getMatchingFlagFilePaths quality failures path
  (if matching.any failures.remove then .error "Could not clear directory for flag file"
    else .ok (),
    path.keep fun name => !(decide (name ∈ matching) && !failures.remove name))

/-- The loop over the tries that are left. -/
def createSearchPathWith (path : SearchPath) : List Nat → Except String SearchPath
  | [] => .error "Could not create search path"
  | try_ :: rest =>
      if !failures.createDirectories try_ then .ok path.createDirectories
      else
        match failures.searchPathStatus try_, path with
        | false, .directory true entries => .ok (.directory true entries)
        | _, _ => createSearchPathWith path rest

def createSearchPath (path : SearchPath) : Except String SearchPath :=
  createSearchPathWith failures path [0, 1, 2]

end Making

/-- A flag file that is removed with its owner. -/
structure FlagFile where
  offerer : Offerer
  qualityType : QualityType

namespace FlagFile

def name (file : FlagFile) : Name := createFlagFilePath file.offerer file.qualityType

/-- The result, the search path then and the files that were created.  The owner is
constructed last. -/
def make (offerer : Offerer) (quality : QualityType) (failures : Failures)
    (path : SearchPath) : Except String FlagFile × SearchPath × List Name :=
  match removeMatchingFlagFiles quality failures path with
  | (.error message, path) => (.error message, path, [])
  | (.ok _, path) =>
      match createSearchPath failures path with
      | .error _ => (.error "Could not create directories for flag file", path, [])
      | .ok path =>
          let flagFilePath := createFlagFilePath offerer quality
          if path.Opens flagFilePath ∧ failures.openFile = false then
            let created := path.created flagFilePath
            let path := path.create flagFilePath
            if failures.permissions then
              (.error "Could not set permissions on flag file", path, created)
            else (.ok ⟨offerer, quality⟩, path, created)
          else (.error "Could not create flag file", path, [])

end FlagFile

/-! ## Offering -/

/-- One flag file for each quality that is offered. -/
abbrev FlagFiles := QualityAwareContainer (Option FlagFile)

/-- What fails for each quality, and whether a flag file that was made can be removed. -/
structure OfferFailures where
  asilB : Failures
  asilQm : Failures
  removeOwned : Bool

structure ServiceDiscoveryClient where
  flagFiles : InstanceIdentifier → Option FlagFiles

/-- What a call returns, the client and the search path then, and the flag files that the
call has created. -/
structure Offered where
  result : Except String Unit
  client : ServiceDiscoveryClient
  path : SearchPath
  created : List Name

/-- `none`: there is no instance id, or a flag file could not be removed with its owner, both
of which end the process. -/
def offerService (client : ServiceDiscoveryClient) (offerer : Offerer)
    (identifier : InstanceIdentifier) (failures : OfferFailures) (path : SearchPath) :
    Option Offered :=
  let emplace (files : FlagFiles) : ServiceDiscoveryClient :=
    ⟨Function.update client.flagFiles identifier (some files)⟩
  if identifier.serviceInstanceId.isNone then none
  else if (client.flagFiles identifier).isSome then
    some ⟨.error "Service is already offered", client, path, []⟩
  else
    match identifier.asilLevel with
    | .asilB =>
        match FlagFile.make offerer .asilB failures.asilB path with
        | (.error _, path, created) =>
            some ⟨.error "Failed to create flag file for ASIL-B", client, path, created⟩
        | (.ok asilBFlagFile, path, asilB) =>
            match FlagFile.make offerer .asilQm failures.asilQm path with
            | (.error _, path, asilQm) =>
                if failures.removeOwned then none
                else some ⟨.error "Failed to create flag file for ASIL-QM", client,
                  path.keep fun name => decide (name ≠ asilBFlagFile.name), asilB ++ asilQm⟩
            | (.ok asilQmFlagFile, path, asilQm) =>
                some ⟨.ok (), emplace ⟨some asilBFlagFile, some asilQmFlagFile⟩, path,
                  asilB ++ asilQm⟩
    | .asilQm =>
        match FlagFile.make offerer .asilQm failures.asilQm path with
        | (.error _, path, created) =>
            some ⟨.error "Failed to create flag file for ASIL-QM", client, path, created⟩
        | (.ok asilQmFlagFile, path, created) =>
            some ⟨.ok (), emplace ⟨none, some asilQmFlagFile⟩, path, created⟩
    | .invalid => some ⟨.error "Unknown quality type of service", client, path, []⟩

/-! ## The law -/

def Offers (identifier : InstanceIdentifier) (quality : QualityType) : Prop :=
  match identifier.asilLevel with
  | .asilB => quality ≠ .invalid
  | .asilQm => quality = .asilQm
  | .invalid => False

/-- A regular file with the text of a quality in its name. -/
def IsFlagFile (path : SearchPath) (name : Name) : Prop :=
  path.HasFile name ∧ (Matches .asilB name ∨ Matches .asilQm name)

/-- After an error no flag file is there that the call has created, and the client is as it
was. After success the flag files that are there are those of the offered qualities, and the
client owns them. -/
def OfferAtomic (client : ServiceDiscoveryClient) (offerer : Offerer)
    (identifier : InstanceIdentifier) (offered : Offered) : Prop :=
  match offered.result with
  | .error _ =>
      (∀ name ∈ offered.created, ¬ offered.path.HasFile name) ∧
        offered.client.flagFiles = client.flagFiles
  | .ok _ =>
      (∀ name, IsFlagFile offered.path name ↔
        ∃ quality, Offers identifier quality ∧ name = createFlagFilePath offerer quality) ∧
      ∃ files : FlagFiles,
        offered.client.flagFiles = Function.update client.flagFiles identifier (some files) ∧
          ∀ quality, (∃ file, files.get quality = some (some file)) ↔ Offers identifier quality

/-- Up to the flag file of a quality everything has succeeded: this is the search path when
its permissions are set. -/
def opened (offerer : Offerer) (quality : QualityType) (failures : Failures)
    (path : SearchPath) : Option SearchPath :=
  if (getMatchingFlagFilePaths quality failures path).any failures.remove then none
  else
    match createSearchPath failures (removeMatchingFlagFiles quality failures path).2 with
    | .error _ => none
    | .ok path =>
        if path.Opens (createFlagFilePath offerer quality) ∧ failures.openFile = false then
          some (path.create (createFlagFilePath offerer quality))
        else none

/-- Each flag file of a quality that is there at the start is found when those of an offered
quality are cleared, or has the name of one that is made. -/
def AllCleared (offerer : Offerer) (identifier : InstanceIdentifier)
    (failures : OfferFailures) (path : SearchPath) : Prop :=
  ∀ name, IsFlagFile path name →
    (∃ quality, Offers identifier quality ∧ name = createFlagFilePath offerer quality) ∨
      (Offers identifier .asilB ∧ isFound .asilB failures.asilB name = true) ∨
      (Offers identifier .asilQm ∧ isFound .asilQm failures.asilQm name = true)

/-- The file was there at the start, and stays because its status cannot be read when those
of its quality are cleared. -/
def Stays (offerer : Offerer) (quality : QualityType) (failures : Failures)
    (path : SearchPath) : Prop :=
  path.HasFile (createFlagFilePath offerer quality) ∧
    failures.status (createFlagFilePath offerer quality) = true

/-- Wherever the permissions of a flag file are set, this succeeds, or the file has stayed
there; and where all are set, all flag files that were there are cleared. -/
def Granted (offerer : Offerer) (identifier : InstanceIdentifier) (failures : OfferFailures)
    (path : SearchPath) : Prop :=
  match identifier.asilLevel with
  | .asilB => ∀ withAsilB, opened offerer .asilB failures.asilB path = some withAsilB →
      (failures.asilB.permissions = true → Stays offerer .asilB failures.asilB path) ∧
      (failures.asilB.permissions = false → ∀ withAsilQm,
        opened offerer .asilQm failures.asilQm withAsilB = some withAsilQm →
          (failures.asilQm.permissions = true → failures.removeOwned = true ∨
            Stays offerer .asilQm failures.asilQm path) ∧ (failures.asilQm.permissions = false →
            AllCleared offerer identifier failures path))
  | .asilQm => ∀ withAsilQm, opened offerer .asilQm failures.asilQm path = some withAsilQm →
      (failures.asilQm.permissions = true → Stays offerer .asilQm failures.asilQm path) ∧
      (failures.asilQm.permissions = false → AllCleared offerer identifier failures path)
  | .invalid => True

/-! ## Names -/

section Names

variable (offerer : Offerer)

theorem matches_own (quality : QualityType) :
    Matches quality (createFlagFilePath offerer quality) := by
  exists DirectoryNames.toString offerer.pid ++ ['_'],
    '_' :: DirectoryNames.toString offerer.offerDisambiguator
  simp [createFlagFilePath]

/-- A character that is not a digit is in the name because it is in the text of the
quality, or because it separates. -/
theorem mem_createFlagFilePath {quality : QualityType} {character : Char}
    (member : character ∈ createFlagFilePath offerer quality)
    (noDigit : character.isDigit = false) :
    character = '_' ∨ character ∈ getQualityTypeString quality := by
  have notPrinted (number : Nat) : character ∉ DirectoryNames.toString number := by
    intro printed
    have digit := Nat.isDigit_of_mem_toDigits (by omega) (by omega) printed
    rw [noDigit] at digit
    cases digit
  simp only [createFlagFilePath, List.mem_append, List.mem_cons] at member
  rcases member with ((printed | separates | ofQuality) | separates | printed)
  · exact absurd printed (notPrinted _)
  · exact .inl separates
  · exact .inr ofQuality
  · exact .inl separates
  · exact absurd printed (notPrinted _)

/-- The name of one flag file does not contain the text of the other quality. -/
theorem not_matches_asilQm : ¬ Matches .asilQm (createFlagFilePath offerer .asilB) := by
  intro contained
  have member : 'q' ∈ createFlagFilePath offerer .asilB := contained.subset (by decide)
  rcases mem_createFlagFilePath offerer member (by decide) with separates | ofQuality
  · revert separates
    decide
  · revert ofQuality
    decide

theorem not_matches_asilB : ¬ Matches .asilB (createFlagFilePath offerer .asilQm) := by
  intro contained
  have member : 'b' ∈ createFlagFilePath offerer .asilQm := contained.subset (by decide)
  rcases mem_createFlagFilePath offerer member (by decide) with separates | ofQuality
  · revert separates
    decide
  · revert ofQuality
    decide

end Names

/-! ## Making a flag file -/

section Made

variable {offerer : Offerer} {quality : QualityType} {failures : Failures}
  {path after : SearchPath} {name : Name}

theorem mem_getMatchingFlagFilePaths : name ∈ getMatchingFlagFilePaths quality failures path ↔
      path.HasFile name ∧ isFound quality failures name = true := by
  simp only [getMatchingFlagFilePaths, List.mem_map, List.mem_filter, Bool.and_eq_true,
    decide_eq_true_eq]
  constructor
  · rintro ⟨⟨_, type⟩, ⟨member, rfl, found⟩, rfl⟩
    exact ⟨member, found⟩
  · rintro ⟨member, found⟩
    exact ⟨(name, .regular), ⟨member, rfl, found⟩, rfl⟩

theorem hasFile_createSearchPathWith {tries : List Nat}
    (created : createSearchPathWith failures path tries = .ok after) :
    after.HasFile name ↔ path.HasFile name := by
  induction tries with
  | nil => cases created
  | cons first rest ih =>
      unfold createSearchPathWith at created
      split at created
      · cases created
        exact SearchPath.hasFile_createDirectories
      · split at created
        · cases created
          rfl
        · exact ih created

theorem hasFile_removeMatchingFlagFiles :
    (removeMatchingFlagFiles quality failures path).2.HasFile name ↔ path.HasFile name ∧
        (isFound quality failures name = false ∨ failures.remove name = true) := by
  rw [removeMatchingFlagFiles]
  simp only [SearchPath.hasFile_keep, mem_getMatchingFlagFilePaths, Bool.not_eq_true',
    Bool.and_eq_false_iff, decide_eq_false_iff_not, Bool.not_eq_false']
  constructor
  · rintro ⟨there, notFound | kept⟩
    · exact ⟨there, .inl (by simpa [there] using notFound)⟩
    · exact ⟨there, .inr kept⟩
  · rintro ⟨there, notFound | kept⟩
    · exact ⟨there, .inl (by simp [notFound])⟩
    · exact ⟨there, .inr kept⟩

/-- When all that were found could be removed, those are gone. -/
theorem hasFile_cleared (removed : ¬ (getMatchingFlagFilePaths quality failures path).any
      failures.remove = true) (isCreated : createSearchPath failures
        (removeMatchingFlagFiles quality failures path).2 = .ok after) :
    after.HasFile name ↔ path.HasFile name ∧ isFound quality failures name = false := by
  rw [hasFile_createSearchPathWith isCreated, hasFile_removeMatchingFlagFiles]
  apply and_congr_right
  intro there
  apply or_iff_left_of_imp
  intro kept
  by_contra found
  apply removed
  rw [List.any_eq_true]
  exact ⟨name, mem_getMatchingFlagFilePaths.mpr ⟨there, by simpa using found⟩, kept⟩

/-- When the permissions are set, the new file is there and those that were found are
gone. -/
theorem hasFile_opened (isOpened : opened offerer quality failures path = some after) :
    after.HasFile name ↔ name = createFlagFilePath offerer quality ∨
      (path.HasFile name ∧ isFound quality failures name = false) := by
  rw [opened] at isOpened
  split at isOpened
  · cases isOpened
  · rename_i removed
    split at isOpened
    · cases isOpened
    · rename_i created isCreated
      split at isOpened
      · rename_i opens
        cases isOpened
        rw [SearchPath.hasFile_create opens.1, hasFile_cleared removed isCreated]
      · cases isOpened

theorem isFound_own : isFound quality failures (createFlagFilePath offerer quality) = false ↔
      failures.status (createFlagFilePath offerer quality) = true := by
  simp [isFound, matches_own]

/-- Before the permissions are set only files go and none is created; whether they can be set
decides the rest. -/
theorem make_cases (offerer : Offerer) (quality : QualityType) (failures : Failures)
    (path : SearchPath) :
    (opened offerer quality failures path = none ∧ ∃ message after,
      FlagFile.make offerer quality failures path = (.error message, after, [])) ∨
    ∃ after created, opened offerer quality failures path = some after ∧
      (∀ name, name ∈ created ↔ name = createFlagFilePath offerer quality ∧
        ¬ Stays offerer quality failures path) ∧
      FlagFile.make offerer quality failures path =
        if failures.permissions then
          (.error "Could not set permissions on flag file", after, created)
        else (.ok ⟨offerer, quality⟩, after, created) := by
  have ofOpened := @hasFile_cleared quality failures path
  rw [FlagFile.make, opened]
  cases isRemoved : removeMatchingFlagFiles quality failures path with
  | mk removed cleared =>
      by_cases kept : (getMatchingFlagFilePaths quality failures path).any failures.remove = true
      · have refused : removed = .error "Could not clear directory for flag file" := by
          simpa [removeMatchingFlagFiles, kept] using (congrArg Prod.fst isRemoved).symm
        rw [if_pos kept, refused]
        exact .inl ⟨rfl, _, _, rfl⟩
      · have allRemoved : removed = .ok () := by
          simpa [removeMatchingFlagFiles, kept] using (congrArg Prod.fst isRemoved).symm
        rw [if_neg kept, allRemoved]
        rw [isRemoved] at ofOpened
        cases isCreated : createSearchPath failures cleared with
        | error message =>
            simp only [isCreated]
            exact .inl ⟨trivial, _, _, rfl⟩
        | ok created =>
            simp only [isCreated]
            by_cases opens : created.Opens (createFlagFilePath offerer quality) ∧
                failures.openFile = false
            · rw [if_pos opens, if_pos opens]
              refine .inr ⟨_, _, rfl, ?_, rfl⟩
              intro name
              rw [SearchPath.mem_created, ofOpened kept isCreated, isFound_own, Stays]
            · rw [if_neg opens, if_neg opens]
              exact .inl ⟨rfl, _, _, rfl⟩

end Made

/-! ## Offering -/

section Offering

variable {client : ServiceDiscoveryClient} {offerer : Offerer} {identifier : InstanceIdentifier}
  {failures : OfferFailures} {path withAsilB withAsilQm : SearchPath}

theorem isFlagFile_own (offerer : Offerer) (quality : QualityType) (set : quality ≠ .invalid)
    (there : path.HasFile (createFlagFilePath offerer quality)) :
    IsFlagFile path (createFlagFilePath offerer quality) := by
  cases quality with
  | asilB => exact ⟨there, .inl (matches_own offerer .asilB)⟩
  | asilQm => exact ⟨there, .inr (matches_own offerer .asilQm)⟩
  | invalid => exact absurd rfl set

/-- An error when the permissions of a file are set: it is there, whether it was created or
not. -/
theorem error_iff {quality : QualityType} {ofQuality : Failures} {created : List Name}
    (isOpened : opened offerer quality ofQuality path = some withAsilB)
    (areCreated : ∀ name, name ∈ created ↔ name = createFlagFilePath offerer quality ∧
      ¬ Stays offerer quality ofQuality path) :
    (∀ name ∈ created, ¬ withAsilB.HasFile name) ↔ Stays offerer quality ofQuality path := by
  constructor
  · intro noneLeft
    by_contra isNew
    exact noneLeft _ ((areCreated _).mpr ⟨rfl, isNew⟩) ((hasFile_opened isOpened).mpr (.inl rfl))
  · intro stays name member
    exact absurd stays ((areCreated name).mp member).2

theorem set_of_offers {quality : QualityType} (offers : Offers identifier quality) :
    quality ≠ .invalid := by
  rintro rfl
  unfold Offers at offers
  split at offers
  · exact offers rfl
  · cases offers
  · exact offers

/-- Where the new files are there and what was found is gone, the flag files are those that
are made if and only if all others were found. -/
theorem exact_iff {after : SearchPath} (hasFile : ∀ name, after.HasFile name ↔
      (∃ quality, Offers identifier quality ∧ name = createFlagFilePath offerer quality) ∨
        (path.HasFile name ∧
          ¬ ((Offers identifier .asilB ∧ isFound .asilB failures.asilB name = true) ∨
            (Offers identifier .asilQm ∧ isFound .asilQm failures.asilQm name = true)))) :
    (∀ name, IsFlagFile after name ↔
        ∃ quality, Offers identifier quality ∧ name = createFlagFilePath offerer quality) ↔
      AllCleared offerer identifier failures path := by
  constructor
  · rintro isExact name ⟨there, flagFile⟩
    by_cases cleared : (Offers identifier .asilB ∧ isFound .asilB failures.asilB name = true) ∨
        (Offers identifier .asilQm ∧ isFound .asilQm failures.asilQm name = true)
    · exact .inr cleared
    · exact .inl ((isExact name).mp ⟨(hasFile name).mpr (.inr ⟨there, cleared⟩), flagFile⟩)
  · intro allCleared name
    constructor
    · rintro ⟨there, flagFile⟩
      rcases (hasFile name).mp there with own | ⟨before, notCleared⟩
      · exact own
      · rcases allCleared name ⟨before, flagFile⟩ with own | cleared
        · exact own
        · exact absurd cleared notCleared
    · rintro ⟨quality, offers, rfl⟩
      apply isFlagFile_own offerer quality (set_of_offers offers)
      exact (hasFile _).mpr (.inl ⟨quality, offers, rfl⟩)

theorem hasFile_asilQm (level : identifier.asilLevel = .asilQm)
    (isOpened : opened offerer .asilQm failures.asilQm path = some withAsilQm) (name : Name) :
    withAsilQm.HasFile name ↔
      (∃ quality, Offers identifier quality ∧ name = createFlagFilePath offerer quality) ∨
        (path.HasFile name ∧
          ¬ ((Offers identifier .asilB ∧ isFound .asilB failures.asilB name = true) ∨
            (Offers identifier .asilQm ∧ isFound .asilQm failures.asilQm name = true))) := by
  rw [hasFile_opened isOpened]
  simp [Offers, level]

theorem hasFile_asilB (level : identifier.asilLevel = .asilB)
    (openedB : opened offerer .asilB failures.asilB path = some withAsilB)
    (openedQm : opened offerer .asilQm failures.asilQm withAsilB = some withAsilQm) (name : Name) :
    withAsilQm.HasFile name ↔
      (∃ quality, Offers identifier quality ∧ name = createFlagFilePath offerer quality) ∨
        (path.HasFile name ∧
          ¬ ((Offers identifier .asilB ∧ isFound .asilB failures.asilB name = true) ∨
            (Offers identifier .asilQm ∧ isFound .asilQm failures.asilQm name = true))) := by
  have ownNotFound : isFound .asilQm failures.asilQm (createFlagFilePath offerer .asilB) =
      false := by
    simp [isFound, not_matches_asilQm offerer]
  have offersB : Offers identifier .asilB := by simp [Offers, level]
  have offersQm : Offers identifier .asilQm := by simp [Offers, level]
  rw [hasFile_opened openedQm, hasFile_opened openedB]
  constructor
  · rintro (own | ⟨own | ⟨there, notFoundB⟩, notFoundQm⟩)
    · exact .inl ⟨.asilQm, offersQm, own⟩
    · exact .inl ⟨.asilB, offersB, own⟩
    · exact .inr ⟨there, by simp [notFoundB, notFoundQm]⟩
  · rintro (⟨quality, offers, own⟩ | ⟨there, notFound⟩)
    · cases quality with
      | asilB =>
          rw [own]
          exact .inr ⟨.inl rfl, ownNotFound⟩
      | asilQm => exact .inl own
      | invalid => exact absurd rfl (set_of_offers offers)
    · simp only [offersB, offersQm, true_and, not_or, Bool.not_eq_true] at notFound
      exact .inr ⟨.inr ⟨there, notFound.1⟩, notFound.2⟩

theorem name_ne : createFlagFilePath offerer .asilQm ≠ createFlagFilePath offerer .asilB := by
  intro same
  have matchesB := matches_own offerer .asilB
  rw [← same] at matchesB
  exact not_matches_asilB offerer matchesB

/-- What stays when the flag files for QM are cleared is not touched for ASIL-B. -/
theorem stays_withAsilB (openedB : opened offerer .asilB failures.asilB path = some withAsilB) :
    Stays offerer .asilQm failures.asilQm withAsilB ↔
      Stays offerer .asilQm failures.asilQm path := by
  have notFound : isFound .asilB failures.asilB (createFlagFilePath offerer .asilQm) = false := by
    simp [isFound, not_matches_asilB offerer]
  rw [Stays, Stays, hasFile_opened openedB]
  simp [notFound, name_ne]

/-- The flag file for ASIL-B is removed with its owner. -/
theorem not_hasFile_keep {last : SearchPath} {created : List Name} {isNew : Prop}
    (areCreated : ∀ name, name ∈ created ↔ name = createFlagFilePath offerer .asilB ∧ isNew)
    {name : Name} (member : name ∈ created) :
    ¬ (last.keep fun name => decide (name ≠ createFlagFilePath offerer .asilB)).HasFile name := by
  intro there
  exact of_decide_eq_true (SearchPath.hasFile_keep.mp there).2 ((areCreated name).mp member).1

theorem error_asilQm_iff {asilB asilQm : List Name} {isNew : Prop}
    (openedB : opened offerer .asilB failures.asilB path = some withAsilB)
    (openedQm : opened offerer .asilQm failures.asilQm withAsilB = some withAsilQm)
    (createdB : ∀ name, name ∈ asilB ↔ name = createFlagFilePath offerer .asilB ∧ isNew)
    (createdQm : ∀ name, name ∈ asilQm ↔ name = createFlagFilePath offerer .asilQm ∧
      ¬ Stays offerer .asilQm failures.asilQm withAsilB) :
    (∀ name ∈ asilB ++ asilQm, ¬ (withAsilQm.keep fun name =>
        decide (name ≠ createFlagFilePath offerer .asilB)).HasFile name) ↔
      Stays offerer .asilQm failures.asilQm path := by
  rw [← stays_withAsilB openedB]
  constructor
  · intro noneLeft
    by_contra isNew
    have member := List.mem_append_right asilB ((createdQm _).mpr ⟨rfl, isNew⟩)
    exact noneLeft _ member (SearchPath.hasFile_keep.mpr
      ⟨(hasFile_opened openedQm).mpr (.inl rfl), decide_eq_true name_ne⟩)
  · intro stays name member
    rcases List.mem_append.mp member with ofB | ofQm
    · exact not_hasFile_keep createdB ofB
    · exact absurd stays ((createdQm name).mp ofQm).2

section Cases

variable (named : identifier.serviceInstanceId.isNone = false)
  (absent : (client.flagFiles identifier).isSome = false)

include named absent

theorem atomic_asilQm (level : identifier.asilLevel = .asilQm) :
    (∀ offered, offerService client offerer identifier failures path = some offered →
        OfferAtomic client offerer identifier offered) ↔
      Granted offerer identifier failures path := by
  simp only [offerService, named, absent, level, Granted, Bool.false_eq_true, if_false]
  rcases make_cases offerer .asilQm failures.asilQm path with
    ⟨notOpened, message, after, made⟩ | ⟨after, created, isOpened, areCreated, made⟩
  · simp [made, notOpened, OfferAtomic]
  · cases permissions : failures.asilQm.permissions with
    | true =>
        simp only [made, isOpened, permissions, if_true, Option.some.injEq, forall_eq',
          OfferAtomic, and_true, true_implies, Bool.true_eq_false, false_implies]
        exact error_iff isOpened areCreated
    | false =>
        simp only [made, isOpened, permissions, if_false, Option.some.injEq, forall_eq',
          OfferAtomic, true_implies, Bool.false_eq_true, false_implies, true_and]
        rw [exact_iff (hasFile_asilQm level isOpened)]
        apply and_iff_left
        refine ⟨_, rfl, ?_⟩
        intro quality
        cases quality <;> simp [QualityAwareContainer.get, Offers, level]

theorem atomic_asilB (level : identifier.asilLevel = .asilB) :
    (∀ offered, offerService client offerer identifier failures path = some offered →
        OfferAtomic client offerer identifier offered) ↔
      Granted offerer identifier failures path := by
  simp only [offerService, named, absent, level, Granted, Bool.false_eq_true, if_false]
  rcases make_cases offerer .asilB failures.asilB path with
    ⟨notOpened, message, after, made⟩ | ⟨after, created, isOpened, areCreated, made⟩
  · simp [made, notOpened, OfferAtomic]
  · cases permissions : failures.asilB.permissions with
    | true =>
        simp only [made, isOpened, permissions, if_true, Option.some.injEq, forall_eq',
          OfferAtomic, and_true, true_implies, Bool.true_eq_false, false_implies]
        exact error_iff isOpened areCreated
    | false =>
        simp only [made, isOpened, permissions, if_false, Option.some.injEq, forall_eq',
          true_implies, Bool.false_eq_true, false_implies, true_and]
        rcases make_cases offerer .asilQm failures.asilQm after with
          ⟨notOpened, message, last, madeQm⟩ | ⟨last, createdQm, openedQm, areCreatedQm, madeQm⟩
        · simp only [madeQm, notOpened, reduceCtorEq, false_implies, implies_true, iff_true]
          cases failures.removeOwned with
          | true => simp
          | false =>
              simp only [Bool.false_eq_true, if_false, Option.some.injEq, forall_eq',
                OfferAtomic, and_true, List.append_nil]
              exact fun name => not_hasFile_keep areCreated
        · cases permissionsQm : failures.asilQm.permissions with
          | true =>
              simp only [madeQm, openedQm, permissionsQm, if_true, Option.some.injEq,
                forall_eq', true_implies, Bool.true_eq_false, false_implies, and_true]
              cases failures.removeOwned with
              | true => simp
              | false =>
                  simp only [Bool.false_eq_true, if_false, Option.some.injEq, forall_eq',
                    OfferAtomic, and_true, false_or]
                  exact error_asilQm_iff isOpened openedQm areCreated areCreatedQm
          | false =>
              simp only [madeQm, openedQm, permissionsQm, if_false, Option.some.injEq,
                forall_eq', OfferAtomic, true_implies, Bool.false_eq_true, false_implies, true_and]
              rw [exact_iff (hasFile_asilB level isOpened openedQm)]
              apply and_iff_left
              refine ⟨_, rfl, ?_⟩
              intro quality
              cases quality <;> simp [QualityAwareContainer.get, Offers, level]

end Cases

/-- An offer is atomic exactly where the process ends for want of an instance id, the service
is offered already, or the permissions can be set and what was there is cleared. -/
theorem offerAtomic_iff (client : ServiceDiscoveryClient) (offerer : Offerer)
    (identifier : InstanceIdentifier) (failures : OfferFailures) (path : SearchPath) :
    (∀ offered, offerService client offerer identifier failures path = some offered →
        OfferAtomic client offerer identifier offered) ↔
      identifier.serviceInstanceId.isNone = true ∨ (client.flagFiles identifier).isSome = true ∨
        Granted offerer identifier failures path := by
  cases named : identifier.serviceInstanceId.isNone with
  | true => simp [offerService, named]
  | false =>
      cases absent : (client.flagFiles identifier).isSome with
      | true => simp [offerService, named, absent, OfferAtomic]
      | false =>
          simp only [Bool.false_eq_true, false_or]
          cases level : identifier.asilLevel with
          | asilB => exact atomic_asilB named absent level
          | asilQm => exact atomic_asilQm named absent level
          | invalid => simp [offerService, named, absent, level, Granted, OfferAtomic]

end Offering

/-- The permissions of the flag file for QM cannot be set: the offer fails, and the file
stays. -/
theorem flagFile_left : ¬ ∀ offered, offerService ⟨fun _ => none⟩ ⟨7, 1⟩ ⟨1, some 1, .asilQm⟩
        { asilB := ⟨fun _ => false, fun _ => false, fun _ => false, fun _ => false, false, false⟩
          asilQm := ⟨fun _ => false, fun _ => false, fun _ => false, fun _ => false, false, true⟩
          removeOwned := false } .missing = some offered →
      OfferAtomic ⟨fun _ => none⟩ ⟨7, 1⟩ ⟨1, some 1, .asilQm⟩ offered := by
  intro claimed
  have noneLeft := (claimed _ rfl).1 "7_asil-qm_1".toList (by decide)
  exact noneLeft (List.mem_singleton_self _)

end MwCom.ServiceDiscovery.OfferFiles
