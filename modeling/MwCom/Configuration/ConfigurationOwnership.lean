/-
Module: MwCom.Configuration.ConfigurationOwnership
Purpose: Where the configuration of a process lives while it is initialized, moved into the
  runtime, and added to, what the identifiers that were handed out refer to, and what becomes
  of a string that one of them was written as.
Trusted boundary: what a file reads as is an argument of the call that reads it.
Main exports: RuntimeState, Call, step, Holds, Orderly, holds_iff_orderly, Reached,
  RoundTrips, not_roundTrips
-/
import MwCom.Configuration.IdentifierCreation

namespace MwCom.Configuration

open Containers Json

/-! ## The state of the process -/

/-- The objects that a configuration is kept in. -/
inductive Place where
  | initializationConfig
  | runtime
deriving DecidableEq

/-- A configuration with the number of the parsing it comes from. A move keeps the entries
where they are, and so the number. -/
structure OwnedConfiguration where
  generation : ℕ
  contents : Configuration

/-- An identifier, and the configuration whose entries it points to. -/
structure HandedOut where
  generation : ℕ
  identifier : HeldIdentifier

/-- The static members of `Runtime` and `InstanceIdentifier`. -/
structure RuntimeState where
  initializationConfig : Option OwnedConfiguration
  runtimeInitializationLocked : Bool
  runtime : Option OwnedConfiguration
  configurationPointer : Option Place
  nextGeneration : ℕ
  handedOut : List HandedOut

namespace RuntimeState

def initial : RuntimeState where
  initializationConfig := none
  runtimeInitializationLocked := false
  runtime := none
  configurationPointer := none
  nextGeneration := 0
  handedOut := []

def owner (state : RuntimeState) : Place → Option OwnedConfiguration
  | .initializationConfig => state.initializationConfig
  | .runtime => state.runtime

def setOwner (state : RuntimeState) (owned : OwnedConfiguration) : Place → RuntimeState
  | .initializationConfig => { state with initializationConfig := some owned }
  | .runtime => { state with runtime := some owned }

/-- `Runtime::StoreConfiguration`: what was stored before is destroyed. -/
def storeConfiguration (state : RuntimeState) (configuration : Configuration) : RuntimeState :=
  { state with
    initializationConfig := some { generation := state.nextGeneration, contents := configuration }
    configurationPointer := some .initializationConfig
    nextGeneration := state.nextGeneration + 1 }

end RuntimeState

/-! ## Calls -/

def defaultManifestPath : String := "./etc/mw_com_config.json"

def serviceInstanceManifestOption : String := "-service_instance_manifest"

/-- The argument behind the first option. -/
def manifestFilePath : List String → String
  | [] => defaultManifestPath
  | argument :: rest =>
      if argument = serviceInstanceManifestOption then rest.head?.getD defaultManifestPath
      else manifestFilePath rest

/-- The overloads of `Runtime::Initialize`. -/
inductive Initialization where
  | defaultPath
  | buffer (text : String)
  | arguments (given : List String)

/-- With the files as they are read during the call. -/
inductive Call (Any : Type) where
  | initializeWith (files : String → Option Any) (overload : Initialization)
  | getInstance (files : String → Option Any)
  | resolve (files : String → Option Any) (specifier : InstanceSpecifier)
  | create (text : String)

/-- How a call ends. -/
inductive Outcome where
  | terminates
  /-- An object is used that does not exist any more. -/
  | undefined
  | continues (state : RuntimeState)

section Calls

variable {Any Object : Type} (json : TextLibrary Any Object)

/-- `configuration::Parse` of a path. -/
def parseFile (files : String → Option Any) (path : String) : Option Configuration := do
  let document ← files path
  ConfigParser.parse json.toConfigLibrary document

/-- What an overload parses; `none`: the process ends. -/
def Initialization.parse (files : String → Option Any) : Initialization → Option Configuration
  | .defaultPath => parseFile json files defaultManifestPath
  | .buffer text => do
      let document ← json.fromBuffer text
      ConfigParser.parse json.toConfigLibrary document
  | .arguments given => parseFile json files (manifestFilePath given)

namespace RuntimeState

def initializeWith (state : RuntimeState) (files : String → Option Any)
    (overload : Initialization) : Outcome :=
  if state.runtimeInitializationLocked then
    .continues state
  else
    match overload.parse json files with
    | none => .terminates
    | some configuration => .continues (state.storeConfiguration configuration)

/-- The configuration is moved into the runtime when that is made. -/
def getInstance (state : RuntimeState) (files : String → Option Any) : Option RuntimeState :=
  match state.runtime with
  | some _ => some state
  | none =>
      match state.initializationConfig with
      | some owned =>
          some
            { state with
              runtimeInitializationLocked := true
              runtime := some owned
              initializationConfig := none }
      | none => do
          let configuration ← parseFile json files defaultManifestPath
          pure
            { state with
              runtimeInitializationLocked := true
              runtime := some { generation := state.nextGeneration, contents := configuration }
              nextGeneration := state.nextGeneration + 1 }

/-- `Runtime::resolve` of the instance. -/
def resolve (state : RuntimeState) (files : String → Option Any)
    (specifier : InstanceSpecifier) : Option RuntimeState := do
  let state ← state.getInstance json files
  let owned ← state.runtime
  let found ← Configuration.resolve json owned.contents specifier
  pure
    { state with
      handedOut := state.handedOut ++
        found.map fun identifier => { generation := owned.generation, identifier } }

/-- `InstanceIdentifier::Create`: a null pointer is found, one to what is gone is used. -/
def create (state : RuntimeState) (text : String) : Outcome :=
  match state.configurationPointer with
  | none => .continues state
  | some place =>
      match state.owner place with
      | none =>
          match json.fromBuffer (String.ofList (cString text)) with
          | none => .continues state
          | some document =>
              match
                (json.asObject document).bind (InstanceIdentifier.ofJson json.toJsonLibrary)
              with
              | none => .terminates
              | some _ => .undefined
      | some owned =>
          match Configuration.create json owned.contents text with
          | .terminates => .terminates
          | .fails _ => .continues state
          | .returns contents identifier =>
              let state := state.setOwner { owned with contents } place
              .continues
                { state with
                  handedOut := state.handedOut ++
                    [{ generation := owned.generation, identifier }] }

end RuntimeState

def Outcome.ofOption : Option RuntimeState → Outcome
  | none => .terminates
  | some state => .continues state

theorem Outcome.ofOption_eq_continues {found : Option RuntimeState} {after : RuntimeState} :
    Outcome.ofOption found = .continues after ↔ found = some after := by
  cases found <;> simp [Outcome.ofOption]

def step (state : RuntimeState) : Call Any → Outcome
  | .initializeWith files overload => state.initializeWith json files overload
  | .getInstance files => .ofOption (state.getInstance json files)
  | .resolve files specifier => .ofOption (state.resolve json files specifier)
  | .create text => state.create json text

end Calls

/-! ## The law -/

/-- The entries that an identifier points to are in a configuration that exists. -/
def HandedOut.Alive (handed : HandedOut) (state : RuntimeState) : Prop :=
  ∃ place owned, state.owner place = some owned ∧ owned.generation = handed.generation ∧
    handed.identifier.deployments owned.contents ≠ none

variable {Any Object : Type}

/-- A creation that comes after the runtime adds to the configuration of the runtime. -/
def DesignatesRuntime (state : RuntimeState) : Call Any → Prop
  | .create _ => state.runtime ≠ none → state.configurationPointer = some .runtime
  | _ => True

variable (json : TextLibrary Any Object)

/-- The law for a sequence of calls. -/
def Holds (state : RuntimeState) : List (Call Any) → Prop
  | [] => ∀ handed ∈ state.handedOut, handed.Alive state
  | call :: rest =>
      (∀ handed ∈ state.handedOut, handed.Alive state) ∧ DesignatesRuntime state call ∧
        ∀ after, step json state call = .continues after → Holds after rest

/-- A call that goes well: no creation once there is the runtime, and no configuration is
replaced that identifiers were made from. -/
def InOrder (state : RuntimeState) : Call Any → Prop
  | .initializeWith files overload =>
      state.runtimeInitializationLocked = true ∨ state.handedOut = [] ∨
        overload.parse json files = none
  | .create _ => state.runtime = none
  | _ => True

def Orderly (state : RuntimeState) : List (Call Any) → Prop
  | [] => True
  | call :: rest =>
      InOrder json state call ∧
        ∀ after, step json state call = .continues after → Orderly after rest

/-! ## What all calls keep -/

/-- What holds whatever is called: the string of an identifier that was made from the stored
configuration is one of a service that is known there. -/
structure RuntimeState.Sound (json : TextLibrary Any Object) (state : RuntimeState) : Prop where
  pointer : state.configurationPointer ≠ some .runtime
  moved : state.runtime ≠ none →
    state.initializationConfig = none ∧ state.runtimeInitializationLocked = true
  fresh : ∀ place owned, state.owner place = some owned → owned.generation < state.nextGeneration
  older : ∀ handed ∈ state.handedOut, handed.generation < state.nextGeneration
  recognized : ∀ owned, state.initializationConfig = some owned → ∀ handed ∈ state.handedOut,
    handed.generation = owned.generation →
      Recognized json owned.contents handed.identifier.serializedString

variable {json} {state after : RuntimeState}

theorem RuntimeState.sound_initial : RuntimeState.initial.Sound json where
  pointer := by simp [RuntimeState.initial]
  moved made := absurd rfl made
  fresh place _ isOwner := by
    cases place <;> cases isOwner
  older _ member := by cases member
  recognized _ stored := by cases stored

namespace RuntimeState.Sound

variable {files : String → Option Any}

theorem getInstance (sound : state.Sound json) (made : state.getInstance json files = some after) :
    after.Sound json := by
  rw [RuntimeState.getInstance] at made
  split at made
  · cases made
    exact sound
  · split at made
    · rename_i owned stored
      cases made
      constructor
      · exact sound.pointer
      · exact fun _ => ⟨rfl, rfl⟩
      · intro place other isOwner
        cases place with
        | initializationConfig => cases isOwner
        | runtime =>
            cases isOwner
            exact sound.fresh .initializationConfig owned stored
      · exact sound.older
      · intro other isStored
        cases isStored
    · rename_i nothing
      obtain ⟨configuration, -, made⟩ := Option.bind_eq_some_iff.mp made
      cases made
      constructor
      · exact sound.pointer
      · exact fun _ => ⟨nothing, rfl⟩
      · intro place other isOwner
        cases place with
        | initializationConfig =>
            exact Nat.lt_succ_of_lt (sound.fresh .initializationConfig other isOwner)
        | runtime =>
            cases isOwner
            exact Nat.lt_succ_self _
      · exact fun handed member => Nat.lt_succ_of_lt (sound.older handed member)
      · exact sound.recognized

theorem resolve (sound : state.Sound json) {specifier : InstanceSpecifier}
    (resolved : state.resolve json files specifier = some after) : after.Sound json := by
  obtain ⟨between, made, resolved⟩ := Option.bind_eq_some_iff.mp resolved
  obtain ⟨owned, isRuntime, resolved⟩ := Option.bind_eq_some_iff.mp resolved
  obtain ⟨found, -, resolved⟩ := Option.bind_eq_some_iff.mp resolved
  cases resolved
  have soundBetween := sound.getInstance made
  refine ⟨soundBetween.pointer, soundBetween.moved, soundBetween.fresh, ?_, ?_⟩
  · intro handed member
    rcases List.mem_append.mp member with before | isNew
    · exact soundBetween.older handed before
    · obtain ⟨identifier, -, rfl⟩ := List.mem_map.mp isNew
      exact soundBetween.fresh .runtime owned isRuntime
  · intro other stored
    -- there is the runtime, so nothing is stored any more
    have nothing := (soundBetween.moved (by simp [isRuntime])).1
    cases nothing.symm.trans stored

theorem initializeWith (sound : state.Sound json) {overload : Initialization}
    (initialized : state.initializeWith json files overload = .continues after) :
    after.Sound json := by
  rw [RuntimeState.initializeWith] at initialized
  split at initialized
  · cases initialized
    exact sound
  · rename_i unlocked
    split at initialized
    · cases initialized
    · rename_i configuration parsed
      cases initialized
      constructor
      · simp [storeConfiguration]
      · exact fun made => absurd (sound.moved made).2 unlocked
      · intro place owned isOwner
        cases place with
        | initializationConfig =>
            cases isOwner
            exact Nat.lt_succ_self _
        | runtime => exact Nat.lt_succ_of_lt (sound.fresh .runtime owned isOwner)
      · exact fun handed member => Nat.lt_succ_of_lt (sound.older handed member)
      · intro owned stored handed member same
        cases stored
        exact absurd same (sound.older handed member).ne

theorem create (sound : state.Sound json) {text : String}
    (created : state.create json text = .continues after) : after.Sound json := by
  rw [RuntimeState.create] at created
  split at created
  · cases created
    exact sound
  · rename_i place isPlace
    split at created
    · split at created
      · cases created
        exact sound
      · split at created
        · cases created
        · cases created
    · rename_i owned isOwner
      cases place with
      | runtime => exact absurd isPlace sound.pointer
      | initializationConfig =>
          split at created
          · cases created
          · cases created
            exact sound
          · rename_i contents identifier returned
            cases created
            obtain ⟨sameText, isKnown, keeps⟩ := create_returns returned
            have older := sound.fresh .initializationConfig owned isOwner
            constructor
            · exact sound.pointer
            · intro made
              cases (sound.moved made).1.symm.trans isOwner
            · intro place other otherOwner
              cases place with
              | initializationConfig =>
                  cases otherOwner
                  exact older
              | runtime => exact sound.fresh .runtime other otherOwner
            · intro handed member
              rcases List.mem_append.mp member with before | isNew
              · exact sound.older handed before
              · obtain rfl := List.mem_singleton.mp isNew
                exact older
            · intro other stored handed member same
              cases stored
              rcases List.mem_append.mp member with before | isNew
              · exact (sound.recognized owned isOwner handed before same).mono keeps
              · obtain rfl := List.mem_singleton.mp isNew
                rw [sameText]
                exact isKnown

theorem step (sound : state.Sound json) {call : Call Any}
    (stepped : step json state call = .continues after) : after.Sound json := by
  cases call with
  | initializeWith files overload => exact sound.initializeWith stepped
  | getInstance files => exact sound.getInstance (Outcome.ofOption_eq_continues.mp stepped)
  | resolve files specifier => exact sound.resolve (Outcome.ofOption_eq_continues.mp stepped)
  | create text => exact sound.create stepped

end RuntimeState.Sound

/-! ## What orderly calls keep -/

/-- What holds as long as the calls are orderly. -/
structure RuntimeState.Kept (json : TextLibrary Any Object) (state : RuntimeState) : Prop where
  sound : state.Sound json
  alive : ∀ handed ∈ state.handedOut, handed.Alive state

theorem RuntimeState.kept_initial : RuntimeState.initial.Kept json where
  sound := sound_initial
  alive _ member := by cases member

/-- What was handed out is gone once its configuration is replaced. -/
theorem HandedOut.not_alive_storeConfiguration {handed : HandedOut}
    (older : handed.generation < state.nextGeneration) (noRuntime : state.runtime = none)
    {configuration : Configuration} :
    ¬ handed.Alive (state.storeConfiguration configuration) := by
  intro alive
  obtain ⟨place, owned, isOwner, same, -⟩ := alive
  cases place with
  | initializationConfig =>
      cases isOwner
      exact absurd same older.ne'
  | runtime =>
      change state.runtime = some owned at isOwner
      rw [noRuntime] at isOwner
      cases isOwner

namespace RuntimeState.Kept

variable {files : String → Option Any}

theorem getInstance (kept : state.Kept json) (made : state.getInstance json files = some after) :
    after.Kept json := by
  refine ⟨kept.sound.getInstance made, ?_⟩
  rw [RuntimeState.getInstance] at made
  split at made
  · cases made
    exact kept.alive
  · rename_i noRuntime
    split at made
    · rename_i owned stored
      cases made
      intro handed member
      obtain ⟨place, other, isOwner, same, present⟩ := kept.alive handed member
      -- it was not in the runtime, so it moves with the configuration
      cases place with
      | initializationConfig =>
          refine ⟨.runtime, other, ?_, same, present⟩
          rw [← stored]
          exact isOwner
      | runtime =>
          change state.runtime = some other at isOwner
          rw [noRuntime] at isOwner
          cases isOwner
    · rename_i nothing
      obtain ⟨configuration, -, made⟩ := Option.bind_eq_some_iff.mp made
      cases made
      intro handed member
      obtain ⟨place, other, isOwner, -⟩ := kept.alive handed member
      cases place with
      | initializationConfig =>
          change state.initializationConfig = some other at isOwner
          rw [nothing] at isOwner
          cases isOwner
      | runtime =>
          change state.runtime = some other at isOwner
          rw [noRuntime] at isOwner
          cases isOwner

theorem resolve (kept : state.Kept json) {specifier : InstanceSpecifier}
    (resolved : state.resolve json files specifier = some after) : after.Kept json := by
  refine ⟨kept.sound.resolve resolved, ?_⟩
  obtain ⟨between, made, resolved⟩ := Option.bind_eq_some_iff.mp resolved
  obtain ⟨owned, isRuntime, resolved⟩ := Option.bind_eq_some_iff.mp resolved
  obtain ⟨found, isFound, resolved⟩ := Option.bind_eq_some_iff.mp resolved
  cases resolved
  intro handed member
  rcases List.mem_append.mp member with before | isNew
  · exact (kept.getInstance made).alive handed before
  · obtain ⟨identifier, isIdentifier, rfl⟩ := List.mem_map.mp isNew
    exact ⟨.runtime, owned, isRuntime, rfl, resolve_keeps isFound identifier isIdentifier⟩

theorem initializeWith (kept : state.Kept json) {overload : Initialization}
    (inOrder : InOrder json state (.initializeWith files overload))
    (initialized : state.initializeWith json files overload = .continues after) :
    after.Kept json := by
  refine ⟨kept.sound.initializeWith initialized, ?_⟩
  rw [RuntimeState.initializeWith] at initialized
  split at initialized
  · cases initialized
    exact kept.alive
  · rename_i unlocked
    split at initialized
    · cases initialized
    · rename_i configuration parsed
      cases initialized
      rcases inOrder with isLocked | nothing | fails
      · exact absurd isLocked unlocked
      · intro handed member
        change handed ∈ state.handedOut at member
        rw [nothing] at member
        cases member
      · rw [fails] at parsed
        cases parsed

theorem create (kept : state.Kept json) {text : String} (noRuntime : state.runtime = none)
    (created : state.create json text = .continues after) : after.Kept json := by
  refine ⟨kept.sound.create created, ?_⟩
  rw [RuntimeState.create] at created
  split at created
  · cases created
    exact kept.alive
  · rename_i place isPlace
    split at created
    · split at created
      · cases created
        exact kept.alive
      · split at created
        · cases created
        · cases created
    · rename_i owned isOwner
      -- without the runtime the pointer is to the stored configuration
      cases place with
      | runtime => exact absurd isPlace kept.sound.pointer
      | initializationConfig =>
          split at created
          · cases created
          · cases created
            exact kept.alive
          · rename_i contents identifier returned
            cases created
            obtain ⟨isThere, keeps⟩ := create_keeps returned
            intro handed member
            refine ⟨.initializationConfig, { owned with contents }, rfl, ?_⟩
            rcases List.mem_append.mp member with before | isNew
            · obtain ⟨place, other, otherOwner, same, present⟩ := kept.alive handed before
              cases place with
              | initializationConfig =>
                  obtain rfl := Option.some.inj (isOwner.symm.trans otherOwner)
                  exact ⟨same, keeps _ present⟩
              | runtime =>
                  change state.runtime = some other at otherOwner
                  rw [noRuntime] at otherOwner
                  cases otherOwner
            · obtain rfl := List.mem_singleton.mp isNew
              exact ⟨rfl, isThere⟩

/-- A call that is in order keeps it all. -/
theorem step (kept : state.Kept json) {call : Call Any} (inOrder : InOrder json state call)
    (stepped : step json state call = .continues after) : after.Kept json := by
  cases call with
  | initializeWith files overload => exact kept.initializeWith inOrder stepped
  | getInstance files => exact kept.getInstance (Outcome.ofOption_eq_continues.mp stepped)
  | resolve files specifier => exact kept.resolve (Outcome.ofOption_eq_continues.mp stepped)
  | create text => exact kept.create inOrder stepped

/-- A call that is in order, and one after which everything is still alive. -/
theorem inOrder_iff (kept : state.Kept json) {call : Call Any} : InOrder json state call ↔
      DesignatesRuntime state call ∧
        ∀ after, Configuration.step json state call = .continues after →
          ∀ handed ∈ after.handedOut, handed.Alive after := by
  constructor
  · intro inOrder
    refine ⟨?_, fun after stepped => (kept.step inOrder stepped).alive⟩
    cases call with
    | create text =>
        intro made
        exact absurd inOrder made
    | _ => trivial
  · intro goesWell
    obtain ⟨designates, alive⟩ := goesWell
    cases call with
    | getInstance files => trivial
    | resolve files specifier => trivial
    | create text =>
        by_contra made
        exact kept.sound.pointer (designates made)
    | initializeWith files overload =>
        by_contra replaced
        obtain ⟨unlocked, handed, accepted⟩ := not_or.mp replaced |>.imp_right not_or.mp
        obtain ⟨configuration, parsed⟩ := Option.ne_none_iff_exists'.mp accepted
        obtain ⟨first, isFirst⟩ := List.exists_mem_of_ne_nil _ handed
        have noRuntime : state.runtime = none := by
          by_contra made
          exact unlocked (kept.sound.moved made).2
        have initialized : Configuration.step json state (.initializeWith files overload) =
            .continues (state.storeConfiguration configuration) := by
          rw [Configuration.step, RuntimeState.initializeWith, if_neg unlocked, parsed]
        exact HandedOut.not_alive_storeConfiguration (kept.sound.older first isFirst) noRuntime
          (alive _ initialized first isFirst)

theorem holds_iff (kept : state.Kept json) (calls : List (Call Any)) :
    Holds json state calls ↔ Orderly json state calls := by
  induction calls generalizing state with
  | nil => exact ⟨fun _ => trivial, fun _ => kept.alive⟩
  | cons call rest ih =>
      have alive_of_holds {state : RuntimeState} {calls : List (Call Any)}
          (holds : Holds json state calls) :
          ∀ handed ∈ state.handedOut, handed.Alive state := by
        cases calls with
        | nil => exact holds
        | cons call rest => exact holds.1
      rw [Holds, Orderly]
      constructor
      · intro holds
        obtain ⟨-, designates, later⟩ := holds
        have inOrder : InOrder json state call := kept.inOrder_iff.mpr
          ⟨designates, fun after stepped => alive_of_holds (later after stepped)⟩
        refine ⟨inOrder, fun after stepped => ?_⟩
        exact (ih (kept.step inOrder stepped)).mp (later after stepped)
      · intro orderly
        obtain ⟨inOrder, later⟩ := orderly
        refine ⟨kept.alive, (kept.inOrder_iff.mp inOrder).1, fun after stepped => ?_⟩
        exact (ih (kept.step inOrder stepped)).mpr (later after stepped)

end RuntimeState.Kept

/-- The law holds of the calls of a process, however long, exactly if they are orderly. -/
theorem holds_iff_orderly (json : TextLibrary Any Object) (calls : List (Call Any)) :
    Holds json .initial calls ↔ Orderly json .initial calls :=
  RuntimeState.kept_initial.holds_iff calls

theorem step_initializeWith {document : JsonValue} {configuration : Configuration}
    (parsed : ConfigParser.parse cleanJson.toConfigLibrary document = some configuration) :
    step cleanJson .initial (.initializeWith (fun _ => some document) .defaultPath) =
      .continues (RuntimeState.initial.storeConfiguration configuration) := by
  simp [step, RuntimeState.initializeWith, RuntimeState.initial, Initialization.parse,
    parseFile, parsed]

/-- A string is made an identifier when the runtime has taken the configuration. -/
theorem holds_violated : ¬ ∀ calls : List (Call JsonValue), Holds cleanJson .initial calls := by
  intro law
  obtain ⟨configuration, object, read, parsed, -, -⟩ := exists_configuredIdentifier
  have holds := law
    [.initializeWith (fun _ => some (documentWith false)) .defaultPath,
      .getInstance (fun _ => some (documentWith false)), .create (cleanText object)]
  have designates := (((holds.2.2 _ (step_initializeWith parsed)).2.2 _ rfl).2.1) (by simp)
  cases designates

/-! ## Strings of identifiers -/

variable (json) in
/-- What any calls lead to from the start of the process. -/
inductive Reached : RuntimeState → Prop where
  | initial : Reached .initial
  | step {state after : RuntimeState} {call : Call Any} (reached : Reached state)
      (stepped : step json state call = .continues after) : Reached after

/-- The deployments that an identifier refers to. -/
def HandedOut.Refers (handed : HandedOut) (state : RuntimeState) (found : InstanceIdentifier) :
    Prop :=
  ∃ place owned, state.owner place = some owned ∧ owned.generation = handed.generation ∧
    handed.identifier.deployments owned.contents = some found

variable (json) in
/-- The string of an identifier makes an identifier that equals it, with the same string and
so the same hash, and what was there before stays as it is. -/
def RoundTrips (state : RuntimeState) (handed : HandedOut) : Prop := ∃ after again,
    state.create json handed.identifier.serializedString = .continues after ∧
      after.handedOut = state.handedOut ++ [again] ∧
      again.identifier.serializedString = handed.identifier.serializedString ∧
      (∃ original copy, handed.Refers after original ∧ again.Refers after copy ∧
        copy.Equal original) ∧
      (∀ held ∈ state.handedOut, ∀ found, held.Refers state found → held.Refers after found) ∧
      ∀ place owned, state.owner place = some owned → ∃ later, after.owner place = some later ∧
        (∀ service deployment, owned.contents.serviceTypes.find service = some deployment →
          later.contents.serviceTypes.find service = some deployment) ∧
        ∀ specifier deployment, owned.contents.serviceInstances.find specifier = some deployment →
            later.contents.serviceInstances.find specifier = some deployment

theorem sound_of_reached (reached : Reached json state) : state.Sound json := by
  induction reached with
  | initial => exact RuntimeState.sound_initial
  | step _ stepped ih => exact ih.step stepped

/-- Where the configuration of an identifier is stored, its string ends the process. -/
theorem RuntimeState.Sound.create_of_stored (sound : state.Sound json)
    {owned : OwnedConfiguration} {handed : HandedOut}
    (stored : state.initializationConfig = some owned)
    (isPlace : state.configurationPointer = some .initializationConfig)
    (member : handed ∈ state.handedOut) (same : handed.generation = owned.generation) :
    state.create json handed.identifier.serializedString = .terminates := by
  have refused := create_of_recognized (sound.recognized owned stored handed member same)
  simp only [RuntimeState.create, isPlace, RuntimeState.owner, stored, refused]

/-- The string of an identifier never makes that identifier again: without a stored
configuration none is made, and in the one that it was made from the service is known. -/
theorem not_roundTrips {handed : HandedOut} (reached : Reached json state)
    (member : handed ∈ state.handedOut) : ¬ RoundTrips json state handed := by
  have sound := sound_of_reached reached
  rintro ⟨after, again, created, isNew, -, ⟨original, -, ⟨place, owned, isOwner, same, -⟩, -⟩, -⟩
  have returned := created
  rw [RuntimeState.create] at created
  split at created
  · cases created
    simp at isNew
  · rename_i pointed isPlace
    split at created
    · split at created
      · cases created
        simp at isNew
      · split at created
        · cases created
        · cases created
    · rename_i stored isStored
      cases pointed with
      | runtime => exact sound.pointer isPlace
      | initializationConfig =>
          split at created
          · cases created
          · cases created
            simp at isNew
          · cases created
            cases place with
            | initializationConfig =>
                cases isOwner
                rw [sound.create_of_stored isStored isPlace member same.symm] at returned
                cases returned
            | runtime =>
                have made : state.runtime ≠ none := by
                  intro noRuntime
                  cases noRuntime.symm.trans isOwner
                cases (sound.moved made).1.symm.trans isStored

/-- A string that was made an identifier of a configuration without services ends the
process when it is used again. -/
theorem exists_reached_of_text :
    ∃ state handed, Reached cleanJson state ∧ handed ∈ state.handedOut ∧
      state.create cleanJson handed.identifier.serializedString = .terminates := by
  obtain ⟨-, object, read, -, isRead, -⟩ := exists_configuredIdentifier
  obtain ⟨configuration, parsed, noTypes, noInstances⟩ := exists_emptyConfiguration
  obtain ⟨contents, identifier, returned⟩ := create_of_empty isRead noTypes noInstances
  let before := RuntimeState.initial.storeConfiguration configuration
  let handed : HandedOut := { generation := 0, identifier }
  let state : RuntimeState :=
    { before.setOwner { generation := 0, contents } .initializationConfig with
      handedOut := [handed] }
  have created : step cleanJson before (.create (cleanText object)) = .continues state := by
    simp only [step, RuntimeState.create, before, RuntimeState.storeConfiguration,
      RuntimeState.owner, returned]
    rfl
  have reached : Reached cleanJson state :=
    .step (.step .initial (step_initializeWith parsed)) created
  have member : handed ∈ state.handedOut := List.mem_singleton_self handed
  exact ⟨state, handed, reached, member,
    (sound_of_reached reached).create_of_stored rfl rfl member rfl⟩

/-- The identifier that was made of a string is not made again. -/
theorem not_roundTrips_created :
    ∃ state handed, Reached cleanJson state ∧ handed ∈ state.handedOut ∧
      state.create cleanJson handed.identifier.serializedString = .terminates ∧
      ¬ RoundTrips cleanJson state handed := by
  obtain ⟨state, handed, reached, member, ends⟩ := exists_reached_of_text
  exact ⟨state, handed, reached, member, ends, not_roundTrips reached member⟩

theorem roundTrips_violated : ¬ ∀ (state : RuntimeState) (handed : HandedOut),
      Reached cleanJson state → handed ∈ state.handedOut → RoundTrips cleanJson state handed := by
  intro law
  obtain ⟨state, handed, reached, member, ends⟩ := exists_reached_of_text
  obtain ⟨after, again, created, -⟩ := law state handed reached member
  rw [ends] at created
  cases created

end MwCom.Configuration
