/-
Module: MwCom.ServiceDiscovery.DirectoryNames
Purpose: How the directories of instances are named, how crawling reads an instance id
  from a name, and for which directories it reads the ids that were written.
Trusted boundary: a name is a text of bytes, given as characters; different directories
  below a search path have different names.
Main exports: getSearchPathForIdentifier, convertFromStringToInstanceId,
  gatherExistingInstanceDirectories, crawlAndWatch, WellNamed, directoryNames_exact
-/
import Mathlib.Data.List.TakeWhile
import MwCom.ServiceDiscovery.FlagFileCrawler
import MwCom.Text.Decimal

namespace MwCom.ServiceDiscovery.DirectoryNames

open Interleaving
open MwCom.Configuration (QualityType)

abbrev Name := List Char

/-! ## Writing names -/

/-- `std::to_string` for an unsigned number. -/
def toString (number : Nat) : Name := Nat.toDigits 10 number

def tmpPath : List Name := ["tmp".toList, "mw_com_lola".toList, "service_discovery".toList]

def directoryName (instanceId : InstanceId) : Name := toString instanceId.toNat

/-- The search path, as the names of the directories on the way. -/
def getSearchPathForIdentifier (identifier : EnrichedInstanceIdentifier) : List Name :=
  tmpPath ++ toString identifier.serviceId.toNat :: (identifier.instanceId.map directoryName).toList

def getQualityTypeString : QualityType → Name
  | .asilB => "asil-b".toList
  | .asilQm => "asil-qm".toList
  | .invalid => "invalid".toList

/-! ## Reading names -/

inductive Errc where
  | invalidArgument
  | resultOutOfRange
deriving DecidableEq

/-- The number that a text begins with. -/
def leadingNumber (view : Name) : Nat := Nat.ofDigitChars 10 (view.takeWhile Char.isDigit) 0

/-- `std::from_chars` for a number of 16 bits: as many digits as there are are read, and
what is behind them is left. -/
def fromChars (view : Name) : Except Errc (InstanceId × Name) :=
  if view.takeWhile Char.isDigit = [] then .error .invalidArgument
  else if leadingNumber view < 2 ^ 16 then
    .ok (BitVec.ofNat 16 (leadingNumber view), view.dropWhile Char.isDigit)
  else .error .resultOutOfRange

/-- The end of the number is not compared with the end of the name. -/
def convertFromStringToInstanceId (view : Name) : Except String InstanceId :=
  match fromChars view with
  | .error _ => .error "Could not parse instance id from string"
  | .ok (actualInstanceId, _) => .ok actualInstanceId

def parseQualityTypeFromString (filename : Name) : QualityType :=
  if getQualityTypeString .asilB <:+: filename then .asilB
  else if getQualityTypeString .asilQm <:+: filename then .asilQm
  else .invalid

/-! ## Crawling -/

inductive FileType where
  | regular
  | directory
  | other
deriving DecidableEq

/-- `none`: the status could not be read. -/
structure DirectoryEntry where
  filename : Name
  status : Option FileType
deriving DecidableEq

/-- What iterating over a search path gives. -/
structure Directory where
  entries : List DirectoryEntry
  differentNames : (entries.map DirectoryEntry.filename).Nodup

/-- The identifiers of the entries that are directories with a name that is read. -/
def gatherExistingInstanceDirectories (identifier : EnrichedInstanceIdentifier)
    (unset : identifier.instanceId = none) :
    List DirectoryEntry → Except String (List EnrichedInstanceIdentifier)
  | [] => .ok []
  | entry :: rest =>
      match entry.status with
      | none => .error "Could not add watch to search subdirectory"
      | some .directory =>
          match convertFromStringToInstanceId entry.filename with
          | .error _ => gatherExistingInstanceDirectories identifier unset rest
          | .ok instanceId => do
              let found ← gatherExistingInstanceDirectories identifier unset rest
              let withInstanceId := EnrichedInstanceIdentifier.withInstanceId
                identifier.instanceIdentifier instanceId
                (EnrichedInstanceIdentifier.unset_of_none unset)
              .ok (withInstanceId.withQualityType
                (parseQualityTypeFromString entry.filename) :: found)
      | some _ => gatherExistingInstanceDirectories identifier unset rest

/-- The watches for an identifier and for the instances in its directory, and which of
these are offered. -/
def crawlAndWatch (directory : Directory) (identifier : EnrichedInstanceIdentifier) :
    DiscoveryProgram (Option (WatchDescriptors × KnownInstances)) :=
  FlagFileCrawler.crawlAndWatchWith
    (fun identifier unset =>
      pure (gatherExistingInstanceDirectories identifier unset directory.entries).toOption)
    identifier

/-! ## Which names are read as they were written -/

/-- The name does not begin with a number, or with one that is too large, or it is a
number without a leading zero and nothing else. -/
def WellNamed (name : Name) : Prop :=
  name.takeWhile Char.isDigit = [] ∨ 2 ^ 16 ≤ leadingNumber name ∨ Decimal.Canonical name

/-- A name is read as the instance for which it is written, and as no other. -/
def ReadExactly (name : Name) : Prop :=
  ∀ instanceId, convertFromStringToInstanceId name = .ok instanceId ↔
    name = directoryName instanceId

theorem convert_eq_ok {name : Name} {instanceId : InstanceId} :
    convertFromStringToInstanceId name = .ok instanceId ↔
      name.takeWhile Char.isDigit ≠ [] ∧ leadingNumber name = instanceId.toNat := by
  have bound := instanceId.isLt
  rw [convertFromStringToInstanceId, fromChars]
  by_cases noDigits : name.takeWhile Char.isDigit = []
  · simp [noDigits]
  · by_cases inRange : leadingNumber name < 2 ^ 16
    · simp only [noDigits, inRange, if_false, if_true, Except.ok.injEq, ne_eq, not_false_eq_true,
        true_and]
      constructor
      · rintro rfl
        rw [BitVec.toNat_ofNat, Nat.mod_eq_of_lt inRange]
      · intro same
        rw [same, BitVec.ofNat_toNat, BitVec.setWidth_eq]
    · simp only [noDigits, inRange, if_false, reduceCtorEq, false_iff, not_and]
      omega

theorem takeWhile_of_canonical {name : Name} (canonical : Decimal.Canonical name) :
    name.takeWhile Char.isDigit = name :=
  List.takeWhile_eq_self_iff.mpr canonical.digitsOnly

@[simp] theorem takeWhile_directoryName (instanceId : InstanceId) :
    (directoryName instanceId).takeWhile Char.isDigit = directoryName instanceId :=
  takeWhile_of_canonical (Decimal.canonical_toDigits _)

@[simp] theorem leadingNumber_directoryName (instanceId : InstanceId) :
    leadingNumber (directoryName instanceId) = instanceId.toNat := by
  rw [leadingNumber, takeWhile_directoryName, directoryName, toString,
    Nat.ofDigitChars_ten_toDigits]

theorem directoryName_ne_nil (instanceId : InstanceId) : directoryName instanceId ≠ [] :=
  Nat.toDigits_ne_nil

/-- What is written for an instance is read as that instance. -/
theorem convert_directoryName (instanceId : InstanceId) :
    convertFromStringToInstanceId (directoryName instanceId) = .ok instanceId := by
  rw [convert_eq_ok, takeWhile_directoryName, leadingNumber_directoryName]
  exact ⟨directoryName_ne_nil instanceId, rfl⟩

theorem directoryName_injective {first second : InstanceId}
    (same : directoryName first = directoryName second) : first = second :=
  BitVec.eq_of_toNat_eq (Decimal.toDigits_injective same)

/-- Search paths are the same for the same service and instance only. -/
theorem getSearchPathForIdentifier_eq_iff {first second : EnrichedInstanceIdentifier} :
    getSearchPathForIdentifier first = getSearchPathForIdentifier second ↔
      first.lolaServiceInstanceIdentifier = second.lolaServiceInstanceIdentifier := by
  rw [getSearchPathForIdentifier, getSearchPathForIdentifier, List.append_cancel_left_eq,
    List.cons.injEq, EnrichedInstanceIdentifier.lolaServiceInstanceIdentifier,
    EnrichedInstanceIdentifier.lolaServiceInstanceIdentifier,
    LolaServiceInstanceIdentifier.mk.injEq]
  constructor
  · rintro ⟨sameService, sameInstance⟩
    constructor
    · exact BitVec.eq_of_toNat_eq (Decimal.toDigits_injective sameService)
    · cases isFirst : first.instanceId with
      | none =>
          cases isSecond : second.instanceId with
          | none => rfl
          | some other => simp [isFirst, isSecond] at sameInstance
      | some instanceId =>
          cases isSecond : second.instanceId with
          | none => simp [isFirst, isSecond] at sameInstance
          | some other =>
              simp only [isFirst, isSecond, Option.map_some, Option.toList_some,
                List.cons.injEq, and_true] at sameInstance
              rw [directoryName_injective sameInstance]
  · rintro ⟨sameService, sameInstance⟩
    rw [sameService, sameInstance]
    exact ⟨rfl, rfl⟩

theorem readExactly_iff {name : Name} : ReadExactly name ↔ WellNamed name := by
  constructor
  · intro readExactly
    by_cases noDigits : name.takeWhile Char.isDigit = []
    · exact .inl noDigits
    · by_cases inRange : leadingNumber name < 2 ^ 16
      · have read : convertFromStringToInstanceId name =
            .ok (BitVec.ofNat 16 (leadingNumber name)) := by
          rw [convert_eq_ok, BitVec.toNat_ofNat, Nat.mod_eq_of_lt inRange]
          exact ⟨noDigits, rfl⟩
        rw [(readExactly _).mp read]
        exact .inr (.inr (Decimal.canonical_toDigits _))
      · exact .inr (.inl (by omega))
  · intro wellNamed instanceId
    constructor
    · intro read
      rcases convert_eq_ok.mp read with ⟨digits, same⟩
      have bound := instanceId.isLt
      rcases wellNamed with noDigits | tooLarge | canonical
      · exact absurd noDigits digits
      · omega
      · rw [leadingNumber, takeWhile_of_canonical canonical] at same
        rw [directoryName, toString, ← same, Decimal.toDigits_ofDigitChars canonical]
    · rintro rfl
      exact convert_directoryName instanceId

/-! ## Which directories are -/

/-- Entries are read exactly, no two are read as one instance, and every watch that
crawling adds is for an identifier of its own. -/
structure Exact (directory : Directory) : Prop where
  accepted : ∀ entry ∈ directory.entries, ReadExactly entry.filename
  distinct : ∀ entry ∈ directory.entries, ∀ other ∈ directory.entries,
    entry.filename ≠ other.filename → ∀ instanceId,
      convertFromStringToInstanceId entry.filename = .ok instanceId →
        convertFromStringToInstanceId other.filename ≠ .ok instanceId
  watched : ∀ identifier, (crawlAndWatch directory identifier).Returns fun result =>
    ∀ watches known, result = some (watches, known) →
      (watches.map Prod.fst).Nodup ∧ (watches.map Prod.snd).Nodup

/-- Names that are read exactly are not read as one instance. -/
theorem ReadExactly.eq {first second : Name} (readFirst : ReadExactly first)
    (readSecond : ReadExactly second) {instanceId : InstanceId}
    (acceptsFirst : convertFromStringToInstanceId first = .ok instanceId)
    (acceptsSecond : convertFromStringToInstanceId second = .ok instanceId) :
    first = second := by
  rw [(readFirst instanceId).mp acceptsFirst, (readSecond instanceId).mp acceptsSecond]

section Gathering

/-- The instances of the entries that are directories with a name that is read. -/
def instancesOf (entries : List DirectoryEntry) : List InstanceId := entries.filterMap fun entry =>
    if entry.status = some .directory then
      (convertFromStringToInstanceId entry.filename).toOption
    else none

/-- A directory name says nothing of a quality. -/
theorem parseQualityTypeFromString_directoryName (instanceId : InstanceId) :
    parseQualityTypeFromString (directoryName instanceId) = .invalid := by
  have noLetter : 'a' ∉ directoryName instanceId := by
    intro member
    have isDigit := (Decimal.canonical_toDigits instanceId.toNat).digitsOnly _ member
    cases isDigit
  have notNamed : ∀ quality : QualityType, quality ≠ .invalid →
      ¬ getQualityTypeString quality <:+: directoryName instanceId := by
    intro quality isSet isInfix
    apply noLetter
    apply isInfix.subset
    cases quality with
    | asilB | asilQm => exact List.mem_cons_self
    | invalid => exact absurd rfl isSet
  rw [parseQualityTypeFromString, if_neg (notNamed .asilB (by decide)),
    if_neg (notNamed .asilQm (by decide))]

variable {identifier : EnrichedInstanceIdentifier} {unset : identifier.instanceId = none}
  {entries : List DirectoryEntry} {found : List EnrichedInstanceIdentifier}

/-- Where names are read exactly, the entries of a directory are gathered as the
listing of its instances is. -/
theorem gathered_eq (accepted : ∀ entry ∈ entries, ReadExactly entry.filename)
    (readable : ∀ entry ∈ entries, entry.status ≠ none) :
    gatherExistingInstanceDirectories identifier unset entries =
      .ok ((instancesOf entries).map (FlagFileCrawler.identifierOf identifier unset)) := by
  induction entries with
  | nil => rfl
  | cons entry rest ih =>
      have later := ih (fun other isOther => accepted other (List.mem_cons_of_mem _ isOther))
        fun other isOther => readable other (List.mem_cons_of_mem _ isOther)
      unfold gatherExistingInstanceDirectories
      cases status : entry.status with
      | none => exact absurd status (readable entry List.mem_cons_self)
      | some type =>
          cases type with
          | regular | other => simp [instancesOf, status, later]
          | directory =>
              cases read : convertFromStringToInstanceId entry.filename with
              | error message =>
                  simp [instancesOf, status, read, later, Except.toOption]
              | ok instanceId =>
                  have named := (accepted entry List.mem_cons_self instanceId).mp read
                  have noQuality : parseQualityTypeFromString entry.filename = .invalid := by
                    rw [named]
                    exact parseQualityTypeFromString_directoryName instanceId
                  simp [instancesOf, status, read, later, noQuality, Except.toOption,
                    FlagFileCrawler.identifierOf]
                  rfl

/-- An entry is skipped or read as the first that is found. -/
theorem gathered_cons {entry : DirectoryEntry}
    (gathered : gatherExistingInstanceDirectories identifier unset (entry :: entries) = .ok found) :
    gatherExistingInstanceDirectories identifier unset entries = .ok found ∨
      ∃ instanceId first later, convertFromStringToInstanceId entry.filename = .ok instanceId ∧
        gatherExistingInstanceDirectories identifier unset entries = .ok later ∧
        first.instanceId = some instanceId ∧ found = first :: later := by
  unfold gatherExistingInstanceDirectories at gathered
  cases status : entry.status with
  | none => simp [status] at gathered
  | some type =>
      cases type with
      | regular | other => exact .inl (by simpa [status] using gathered)
      | directory =>
          cases read : convertFromStringToInstanceId entry.filename with
          | error message => exact .inl (by simpa [status, read] using gathered)
          | ok instanceId =>
              simp only [status, read] at gathered
              cases isLater : gatherExistingInstanceDirectories identifier unset entries with
              | error message =>
                  rw [isLater] at gathered
                  cases gathered
              | ok later =>
                  rw [isLater] at gathered
                  cases gathered
                  exact .inr ⟨instanceId, _, later, rfl, rfl, rfl, rfl⟩

/-- What is found was read from the name of an entry. -/
theorem instanceId_of_gathered
    (gathered : gatherExistingInstanceDirectories identifier unset entries = .ok found) :
    ∀ one ∈ found, ∃ entry ∈ entries, ∃ instanceId,
      convertFromStringToInstanceId entry.filename = .ok instanceId ∧
        one.instanceId = some instanceId := by
  induction entries generalizing found with
  | nil =>
      cases gathered
      simp
  | cons entry rest ih =>
      intro one member
      rcases gathered_cons gathered with
        skipped | ⟨instanceId, first, later, read, isLater, isId, rfl⟩
      · rcases ih skipped one member with ⟨other, isOther, readOther⟩
        exact ⟨other, List.mem_cons_of_mem _ isOther, readOther⟩
      · rcases List.mem_cons.mp member with rfl | member
        · exact ⟨entry, List.mem_cons_self, instanceId, read, isId⟩
        · rcases ih isLater one member with ⟨other, isOther, readOther⟩
          exact ⟨other, List.mem_cons_of_mem _ isOther, readOther⟩

/-- Where names are read exactly, each instance is found once. -/
theorem nodup_of_gathered (differentNames : (entries.map DirectoryEntry.filename).Nodup)
    (accepted : ∀ entry ∈ entries, ReadExactly entry.filename)
    (gathered : gatherExistingInstanceDirectories identifier unset entries = .ok found) :
    found.Nodup := by
  induction entries generalizing found with
  | nil =>
      cases gathered
      simp
  | cons entry rest ih =>
      rw [List.map_cons, List.nodup_cons] at differentNames
      have acceptedLater : ∀ other ∈ rest, ReadExactly other.filename := by
        intro other isOther
        exact accepted other (List.mem_cons_of_mem _ isOther)
      rcases gathered_cons gathered with
        skipped | ⟨instanceId, first, later, read, isLater, isId, rfl⟩
      · exact ih differentNames.2 acceptedLater skipped
      · rw [List.nodup_cons]
        constructor
        · intro member
          rcases instanceId_of_gathered isLater first member with
            ⟨other, isOther, otherId, readOther, same⟩
          cases isId.symm.trans same
          have sameName := (accepted entry List.mem_cons_self).eq
            (acceptedLater other isOther) read readOther
          apply differentNames.1
          rw [sameName]
          exact List.mem_map_of_mem isOther
        · exact ih differentNames.2 acceptedLater isLater

end Gathering

/-- Watches of different identifiers stay so when those of others are added. -/
theorem addInstanceWatches_distinct {found : List EnrichedInstanceIdentifier}
    {watches : WatchDescriptors} (differentWatches : (watches.map Prod.fst).Nodup)
    (different : (watches.map Prod.snd ++ found).Nodup) :
    (FlagFileCrawler.addInstanceWatches found watches).Returns fun result =>
      ∀ after, result = some after → (after.map Prod.fst).Nodup ∧ (after.map Prod.snd).Nodup := by
  induction found generalizing watches with
  | nil =>
      rintro after isAfter
      cases isAfter
      rw [List.append_nil] at different
      exact ⟨differentWatches, different⟩
  | cons identifier rest ih =>
      apply (Program.Returns.any _).bind
      intro watch _
      cases watch with
      | none => exact nofun
      | some watch =>
          by_cases known : watch ∈ watches.map Prod.fst
          · simp only [FlagFileCrawler.emplaceWatch, known, if_true]
            apply ih differentWatches
            rw [List.nodup_append] at different ⊢
            exact ⟨different.1, (List.nodup_cons.mp different.2.1).2,
              fun one isOne other isOther => different.2.2 one isOne other (by simp [isOther])⟩
          · simp only [FlagFileCrawler.emplaceWatch, known, if_false]
            apply ih
            · rw [List.map_append, List.nodup_append]
              simp only [List.map_cons, List.map_nil, List.nodup_cons, List.not_mem_nil,
                not_false_eq_true, List.nodup_nil, true_and, List.mem_singleton]
              exact ⟨differentWatches, fun one isOne other isOther same =>
                known (isOther ▸ same ▸ isOne)⟩
            · simpa using different

theorem crawlAndWatch_distinct {directory : Directory}
    (accepted : ∀ entry ∈ directory.entries, ReadExactly entry.filename)
    (identifier : EnrichedInstanceIdentifier) :
    (crawlAndWatch directory identifier).Returns fun result =>
      ∀ watches known, result = some (watches, known) →
        (watches.map Prod.fst).Nodup ∧ (watches.map Prod.snd).Nodup := by
  apply (Program.Returns.any _).bind
  intro watch _
  cases watch with
  | none =>
      intro watches known same
      cases same
  | some watch =>
      by_cases unset : identifier.instanceId = none
      · simp only [unset, dite_true]
        cases gathered : gatherExistingInstanceDirectories (identifier.withQualityType .invalid)
            unset directory.entries with
        | error message =>
            intro watches known same
            cases same
        | ok found =>
            -- what is found has an instance id, the identifier that was looked for has none
            have others : identifier.withQualityType .invalid ∉ found := by
              intro member
              rcases instanceId_of_gathered gathered _ member with ⟨_, _, instanceId, _, isSome⟩
              cases unset.symm.trans isSome
            have distinct := nodup_of_gathered directory.differentNames accepted gathered
            apply (addInstanceWatches_distinct (by simp) (by simp [others, distinct])).bind
            intro added keepsDistinct
            cases added with
            | none => exact nofun
            | some added =>
                apply (Program.Returns.any _).bind
                intro known _ watches _ same
                cases same
                exact keepsDistinct added rfl
      · simp only [unset, dite_false]
        apply (Program.Returns.any _).bind
        intro known _ watches _ same
        cases same
        simp

/-- Directory names and instances correspond exactly where every name in the directory
is well formed or is not read at all. -/
theorem directoryNames_exact (directory : Directory) :
    Exact directory ↔ ∀ entry ∈ directory.entries, WellNamed entry.filename := by
  constructor
  · intro isExact entry member
    exact readExactly_iff.mp (isExact.accepted entry member)
  · intro wellNamed
    have accepted : ∀ entry ∈ directory.entries, ReadExactly entry.filename := by
      intro entry member
      exact readExactly_iff.mpr (wellNamed entry member)
    constructor
    · exact accepted
    · intro entry isEntry other isOther different instanceId read readOther
      exact different ((accepted entry isEntry).eq (accepted other isOther) read readOther)
    · exact crawlAndWatch_distinct accepted

/-- A name that only begins with the number of an instance is read as that instance. -/
theorem suffix_accepted :
    ¬ Exact ⟨[⟨"1".toList, some .directory⟩, ⟨"1-old".toList, some .directory⟩], by decide⟩ := by
  intro isExact
  apply isExact.distinct ⟨"1".toList, some .directory⟩ (by simp)
    ⟨"1-old".toList, some .directory⟩ (by simp) (by decide) 1
  · rfl
  · rfl

end MwCom.ServiceDiscovery.DirectoryNames
