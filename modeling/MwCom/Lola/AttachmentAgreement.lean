/-
Module: MwCom.Lola.AttachmentAgreement
Purpose: Providers and consumers attach to the same incarnation of the shared-memory
  objects of a service instance, in every interleaving and across all crashes.
Trusted boundary: none
Main exports: peers_obligations, attachmentAgreement_of_reached
-/
import MwCom.Lola.PeerSteps

namespace MwCom.Lola

open Interleaving Locking Function
open Program (Respects)

variable {Provider Consumer Element : Type} [DecidableEq Provider] [DecidableEq Consumer]
  [DecidableEq Element] {deployment : ServiceDeployment Element} {guarded : Prop}

/-! ## The programs of a provider -/

section Skeletons

variable {provider : Provider} {peer : Peer Provider}

/-- The rules of a provider. -/
abbrev providerRules (Consumer : Type) [DecidableEq Consumer]
    (deployment : ServiceDeployment Element) (guarded : Prop) (provider : Provider) :
    Rules (ServiceOp Provider Element) ServiceOp.Ret (Peer Provider) :=
  (peerManners deployment guarded : (serviceRole Provider Consumer deployment).Manners).rules
    (.inl provider)

/-- What one attached object adds. -/
def Attaches (Inv : AttachedSkeleton Provider → Peer Provider → Prop) (sure : Prop)
    (path : ShmPath) (peer : Peer Provider) (reply : Bool × AttachedSkeleton Provider)
    (after : Peer Provider) : Prop :=
  Inv reply.2 after ∧ (reply.1 = true → (after.mapped path).isSome = true) ∧
    (∀ other, (peer.mapped other).isSome = true → (after.mapped other).isSome = true) ∧
    (sure → reply.1 = true)

variable {skeleton : AttachedSkeleton Provider}

/-- The control objects of the instance are attached where that for ASIL-B is. -/
theorem forAsilB_respects (Inv : AttachedSkeleton Provider → Peer Provider → Prop) (sure : Prop)
    {attach : ShmPath → AttachedSkeleton Provider →
      ServiceProgram Provider Element (Bool × AttachedSkeleton Provider)}
    (each : ∀ path skeleton peer, deployment.has path = true → Inv skeleton peer →
      (attach path skeleton).Respects (providerRules Consumer deployment guarded provider) peer
        (Attaches Inv sure path peer))
    (holds : Inv skeleton peer) (qm : (peer.mapped (.control .asilQm)).isSome = true) :
    (forAsilB deployment.hasAsilBSupport attach skeleton).Respects
      (providerRules Consumer deployment guarded provider) peer fun reply after =>
        Inv reply.2 after ∧ (reply.1 = true → ∀ quality, deployment.has (.control quality) = true →
            (after.mapped (.control quality)).isSome = true) ∧
          (sure → reply.1 = true) := by
  unfold forAsilB
  by_cases hasAsilB : deployment.hasAsilBSupport = true
  · rw [if_pos hasAsilB]
    apply (each (.control .asilB) skeleton peer hasAsilB holds).mono
    rintro reply after ⟨holdsB, doneB, keptB, sureB⟩
    refine ⟨holdsB, ?_, sureB⟩
    intro done quality _
    cases quality with
    | asilQm => exact keptB _ qm
    | asilB => exact doneB done
  · rw [if_neg hasAsilB]
    refine ⟨holds, ?_, fun _ => rfl⟩
    intro _ quality has
    cases quality with
    | asilQm => exact qm
    | asilB => exact absurd has hasAsilB

/-- All objects of the instance are attached where each of them is. -/
theorem forObjects_respects (Inv : AttachedSkeleton Provider → Peer Provider → Prop) (sure : Prop)
    {attach : ShmPath → AttachedSkeleton Provider →
      ServiceProgram Provider Element (Bool × AttachedSkeleton Provider)}
    (each : ∀ path skeleton peer, deployment.has path = true → Inv skeleton peer →
      (attach path skeleton).Respects (providerRules Consumer deployment guarded provider) peer
        (Attaches Inv sure path peer))
    (holds : Inv skeleton peer) :
    (forObjects deployment.hasAsilBSupport attach skeleton).Respects
      (providerRules Consumer deployment guarded provider) peer fun reply after =>
        Inv reply.2 after ∧ (reply.1 = true → ∀ path, deployment.has path = true →
            (after.mapped path).isSome = true) ∧
          (sure → reply.1 = true) := by
  unfold forObjects
  apply Respects.bind (each (.control .asilQm) skeleton peer rfl holds)
  rintro ⟨isQmDone, withQm⟩ afterQm ⟨holdsQm, doneQm, _, sureQm⟩
  cases isQmDone with
  | false =>
      refine ⟨holdsQm, ?_, sureQm⟩
      intro done
      cases done
  | true =>
      apply Respects.bind (forAsilB_respects Inv sure each holdsQm (doneQm rfl))
      rintro ⟨isAsilBDone, withB⟩ afterB ⟨holdsB, doneB, sureB⟩
      cases isAsilBDone with
      | false =>
          refine ⟨holdsB, ?_, sureB⟩
          intro done
          cases done
      | true =>
          apply (each .data withB afterB rfl holdsB).mono
          rintro reply after ⟨holdsData, doneData, keptData, sureData⟩
          refine ⟨holdsData, ?_, sureData⟩
          intro done path has
          cases path with
          | control quality => exact keptData _ (doneB rfl quality has)
          | data => exact doneData done

/-- In the middle of a PrepareOffer that has opened the usage marker file. -/
structure Preparing (file : Nat) (skeleton : AttachedSkeleton Provider)
    (peer : Peer Provider) : Prop where
  noSkeleton : peer.skeleton = none
  isLive : peer.isLive = true
  refers : skeleton.pointer = peer.mapped
  opened : skeleton.serviceInstanceUsageMarkerFile = some ⟨file, false⟩
  marker : peer.marker = some file
  reopened : skeleton.wasOldShmRegionReopened = peer.foundLocked

/-- Under the exclusive lock, after the stale objects were removed. -/
structure Creating (provider : Provider) (file : Nat) (incarnation : Incarnation Provider)
    (skeleton : AttachedSkeleton Provider) (peer : Peer Provider) : Prop
    extends Preparing file skeleton peer where
  locked : peer.lock = some (file, .exclusive)
  unlocked : peer.foundLocked = false
  cleared : ∀ path, peer.cleared path = true
  own : incarnation = (provider, peer.offers)

/-- Where the usage marker was found locked. -/
structure Reopening (file : Nat) (skeleton : AttachedSkeleton Provider)
    (peer : Peer Provider) : Prop extends Preparing file skeleton peer where
  noLock : peer.lock = none
  found : peer.foundLocked = true

variable {file : Nat}

omit [DecidableEq Provider] in
theorem Preparing.attach (preparing : Preparing file skeleton peer) (path : ShmPath)
    (incarnation : Incarnation Provider) :
    Preparing file (skeleton.attach path incarnation) (peer.attach path incarnation) where
  noSkeleton := preparing.noSkeleton
  isLive := preparing.isLive
  refers := by
    simp only [AttachedSkeleton.attach, Peer.attach, preparing.refers]
  opened := preparing.opened
  marker := preparing.marker
  reopened := preparing.reopened

omit [DecidableEq Provider] in
theorem attach_mapped (peer : Peer Provider) (path : ShmPath)
    (incarnation : Incarnation Provider) (other : ShmPath)
    (attached : (peer.mapped other).isSome = true) :
    ((peer.attach path incarnation).mapped other).isSome = true := by
  by_cases same : other = path
  · subst same
    simp [Peer.attach_self]
  · rw [Peer.attach_of_ne peer incarnation same]
    exact attached

variable {incarnation : Incarnation Provider}

theorem createSharedMemoryFor_respects {path : ShmPath} (has : deployment.has path = true)
    (creating : Creating provider file incarnation skeleton peer) :
    (createSharedMemoryFor path incarnation skeleton).Respects
      (providerRules Consumer deployment guarded provider) peer
      (Attaches (Creating provider file incarnation) False path peer) := by
  unfold createSharedMemoryFor
  apply Respects.perform
  · exact ⟨creating.noSkeleton, ⟨file, creating.locked⟩, creating.unlocked, creating.cleared,
      has, creating.own⟩
  · intro created _
    cases created with
    | true =>
        refine ⟨⟨creating.toPreparing.attach path incarnation, creating.locked,
          creating.unlocked, creating.cleared, creating.own⟩, ?_, ?_, fun sure => sure.elim⟩
        · intro _
          change ((peer.attach path incarnation).mapped path).isSome = true
          simp [Peer.attach_self]
        · exact attach_mapped peer path incarnation
    | false =>
        refine ⟨creating, ?_, fun _ attached => attached, fun sure => sure.elim⟩
        intro done
        cases done

theorem openSharedMemoryFor_respects {path : ShmPath} (has : deployment.has path = true)
    (reopening : Reopening file skeleton peer) :
    (openSharedMemoryFor path skeleton).Respects
      (providerRules Consumer deployment guarded provider) peer
      (Attaches (Reopening file) guarded path peer) := by
  unfold openSharedMemoryFor
  apply Respects.perform
  · exact ⟨reopening.noSkeleton, trivial⟩
  · intro found expected
    cases found with
    | some incarnation =>
        refine ⟨⟨reopening.toPreparing.attach path incarnation, reopening.noLock,
          reopening.found⟩, ?_, ?_, fun _ => rfl⟩
        · intro _
          change ((peer.attach path incarnation).mapped path).isSome = true
          simp [Peer.attach_self]
        · exact attach_mapped peer path incarnation
    | none =>
        refine ⟨reopening, ?_, fun _ attached => attached, ?_⟩
        · intro done
          cases done
        · intro safe
          have found := expected safe ⟨reopening.isLive, reopening.found⟩ has
          cases found

/-- The stale objects are removed under the exclusive lock. -/
theorem removeStale_respects {post : Unit → Peer Provider → Prop}
    (noSkeleton : peer.skeleton = none) (locked : peer.lock = some (file, .exclusive))
    (unlocked : peer.foundLocked = false)
    (continued : ∀ cleared : ShmPath → Bool, (∀ path, cleared path = true) →
      post () { peer with cleared := cleared }) :
    (removeStaleSharedMemoryArtefacts : ServiceProgram Provider Element Unit).Respects
      (providerRules Consumer deployment guarded provider) peer post := by
  have all : ∀ path, update (update (update peer.cleared
      (.control .asilQm) true) (.control .asilB) true) .data true path = true := by
    intro path
    cases path with
    | control quality => cases quality <;> simp
    | data => simp
  unfold removeStaleSharedMemoryArtefacts
  apply Respects.perform
  · exact ⟨noSkeleton, ⟨file, locked⟩, unlocked⟩
  · intro _ _
    apply Respects.perform
    · exact ⟨noSkeleton, ⟨file, locked⟩, unlocked⟩
    · intro _ _
      constructor
      · exact ⟨noSkeleton, ⟨file, locked⟩, unlocked⟩
      · intro _ _
        exact continued _ all

omit [DecidableEq Provider] in
/-- What a PrepareOffer past its locks hands back. -/
theorem Preparing.handsBack (preparing : Preparing file skeleton peer) (noLock : peer.lock = none) :
    HandsBack skeleton peer where
  isLive := preparing.isLive
  lock := noLock
  refers path incarnation pointed := by
    rw [← preparing.refers]
    exact pointed
  offered _ := preparing.refers
  marker markerFile opened := by
    rw [preparing.opened] at opened
    cases opened
    exact preparing.marker

/-- Where the usage marker could be locked, everything is removed and created anew. -/
theorem recreate_respects (preparing : Preparing file skeleton peer)
    (locked : peer.lock = some (file, .exclusive)) (unlocked : peer.foundLocked = false)
    (own : incarnation = (provider, peer.offers)) :
    (do
      removeStaleSharedMemoryArtefacts
      let result ← createSharedMemory deployment.hasAsilBSupport incarnation skeleton
      ServiceProgram.unlock file
      pure result : ServiceProgram Provider Element (Bool × AttachedSkeleton Provider)).Respects
      (providerRules Consumer deployment guarded provider) peer fun reply after =>
        skeletonPost deployment guarded (.offered reply.1 reply.2) after := by
  have removed : ∀ cleared : ShmPath → Bool, (∀ path, cleared path = true) →
      Creating provider file incarnation skeleton { peer with cleared := cleared } := by
    intro cleared all
    exact ⟨⟨preparing.noSkeleton, preparing.isLive, preparing.refers, preparing.opened,
      preparing.marker, preparing.reopened⟩, locked, unlocked, all, own⟩
  have stale : (removeStaleSharedMemoryArtefacts : ServiceProgram Provider Element Unit).Respects
      (providerRules Consumer deployment guarded provider) peer
      fun _ => Creating provider file incarnation skeleton :=
    removeStale_respects preparing.noSkeleton locked unlocked removed
  apply Respects.bind stale
  intro _ cleared creating
  apply Respects.bind
    (forObjects_respects (Creating provider file incarnation) False
      (fun path skeleton peer has creating => createSharedMemoryFor_respects has creating) creating)
  rintro ⟨result, created⟩ after ⟨creating, done, _⟩
  apply Respects.perform
  · exact ⟨creating.noSkeleton, creating.locked⟩
  · intro _ _
    have moved : after.observe (.onFile (.unlock file) : ServiceOp Provider Element) () =
        { after with lock := none } := by
      simp only [Peer.observe, Peer.unlocked, creating.locked]
    change skeletonPost deployment guarded (.offered result created)
      (after.observe (.onFile (.unlock file) : ServiceOp Provider Element) ())
    rw [moved]
    have prepared : Preparing file created { after with lock := none } :=
      ⟨creating.noSkeleton, creating.isLive, creating.refers, creating.opened,
        creating.marker, creating.reopened⟩
    refine ⟨prepared.handsBack rfl, creating.refers, ?_, ?_⟩
    · intro isDone
      exact ⟨creating.reopened, done isDone⟩
    · intro _ found
      have found : after.foundLocked = true := found
      rw [creating.unlocked] at found
      cases found

/-- Where the usage marker was locked, the objects are re-opened. -/
theorem reopen_respects (reopening : Reopening file skeleton peer) :
    (openExistingSharedMemory deployment.hasAsilBSupport skeleton :
        ServiceProgram Provider Element (Bool × AttachedSkeleton Provider)).Respects
      (providerRules Consumer deployment guarded provider) peer
      fun reply after => skeletonPost deployment guarded (.offered reply.1 reply.2) after := by
  apply Respects.mono
    (forObjects_respects (Reopening file) guarded
      (fun path skeleton peer has reopening => openSharedMemoryFor_respects has reopening)
      reopening)
  rintro ⟨result, opened⟩ after ⟨reopening, done, sure⟩
  refine ⟨reopening.toPreparing.handsBack reopening.noLock, reopening.refers, ?_, ?_⟩
  · intro isDone
    exact ⟨reopening.reopened, done isDone⟩
  · exact fun safe _ => sure safe

/-- Skeleton::PrepareOffer creates or re-opens all objects of the instance, or fails. -/
theorem prepareOffer_respects (noSkeleton : peer.skeleton = none) (isLive : peer.isLive = true)
    (noLock : peer.lock = none) (refers : skeleton.pointer = peer.mapped)
    (unlocked : peer.foundLocked = false) (own : incarnation = (provider, peer.offers)) :
    (prepareOffer deployment.hasAsilBSupport incarnation skeleton :
        ServiceProgram Provider Element (Bool × AttachedSkeleton Provider)).Respects
      (providerRules Consumer deployment guarded provider) peer
      fun reply after => skeletonPost deployment guarded (.offered reply.1 reply.2) after := by
  unfold prepareOffer
  apply Respects.perform
  · exact ⟨noSkeleton, trivial⟩
  · intro file _
    cases file with
    | none =>
        refine ⟨⟨isLive, noLock, ?_, fun _ => refers, ?_⟩, refers, ?_, ?_⟩
        · intro path found pointed
          rw [← pointed]
          exact congrFun refers.symm path
        · intro markerFile opened
          cases opened
        · intro done
          cases done
        · intro _ found
          have found : peer.foundLocked = true := found
          rw [unlocked] at found
          cases found
    | some file =>
        apply Respects.perform
        · exact ⟨noSkeleton, rfl, rfl, noLock, isLive⟩
        · intro unused _
          cases unused with
          | true =>
              have preparing : Preparing file
                  { skeleton with
                    serviceInstanceUsageMarkerFile := some ⟨file, false⟩
                    wasOldShmRegionReopened := false }
                  { peer with marker := some file, lock := some (file, .exclusive) } :=
                ⟨noSkeleton, isLive, refers, rfl, rfl, unlocked.symm⟩
              exact recreate_respects preparing rfl unlocked own
          | false =>
              have reopening : Reopening file
                  { skeleton with
                    serviceInstanceUsageMarkerFile := some ⟨file, false⟩
                    wasOldShmRegionReopened := true }
                  { peer with marker := some file, foundLocked := true } :=
                ⟨⟨noSkeleton, isLive, refers, rfl, rfl, rfl⟩, noLock, rfl⟩
              exact reopen_respects reopening

/-- RemoveSharedMemory runs under the exclusive lock. -/
theorem removeMemoryIfExists_respects {path : ShmPath} (noSkeleton : peer.skeleton = none)
    (locked : peer.lock = some (file, .exclusive)) (unlocked : peer.foundLocked = false) :
    (removeMemoryIfExists skeleton path : ServiceProgram Provider Element Unit).Respects
      (providerRules Consumer deployment guarded provider) peer
      fun _ after => ∃ cleared, after = { peer with cleared := cleared } := by
  unfold removeMemoryIfExists
  by_cases known : skeleton.hasPath path = true
  · rw [if_pos known]
    constructor
    · exact ⟨noSkeleton, ⟨file, locked⟩, unlocked⟩
    · intro _ _
      exact ⟨_, rfl⟩
  · rw [if_neg known]
    exact ⟨peer.cleared, rfl⟩

theorem removeSharedMemory_respects (noSkeleton : peer.skeleton = none)
    (locked : peer.lock = some (file, .exclusive)) (unlocked : peer.foundLocked = false) :
    (removeSharedMemory skeleton : ServiceProgram Provider Element Unit).Respects
      (providerRules Consumer deployment guarded provider) peer
      fun _ after => ∃ cleared, after = { peer with cleared := cleared } := by
  unfold removeSharedMemory
  apply Respects.bind (removeMemoryIfExists_respects noSkeleton locked unlocked)
  rintro _ _ ⟨afterQm, rfl⟩
  have asilB : (removeMemoryIfExists skeleton (.control .asilB) :
      ServiceProgram Provider Element Unit).Respects
        (providerRules Consumer deployment guarded provider) { peer with cleared := afterQm }
        fun _ after => ∃ cleared, after = { peer with cleared := cleared } :=
    removeMemoryIfExists_respects noSkeleton locked unlocked
  apply Respects.bind asilB
  rintro _ _ ⟨afterB, rfl⟩
  have data : (removeMemoryIfExists skeleton .data : ServiceProgram Provider Element Unit).Respects
        (providerRules Consumer deployment guarded provider) { peer with cleared := afterB }
        fun _ after => ∃ cleared, after = { peer with cleared := cleared } :=
    removeMemoryIfExists_respects noSkeleton locked unlocked
  exact data

/-- Skeleton::PrepareStopOffer removes the objects if it can lock the usage marker. -/
theorem prepareStopOffer_respects (noSkeleton : peer.skeleton = none)
    (isLive : peer.isLive = true) (noLock : peer.lock = none)
    (refers : skeleton.pointer = peer.mapped) (unlocked : peer.foundLocked = false)
    (stopped : peer.isOffered = false) (unprepared : peer.isPrepared = false)
    (marker : ∀ markerFile, skeleton.serviceInstanceUsageMarkerFile = some markerFile →
      peer.marker = some markerFile.file) :
    (prepareStopOffer skeleton :
        ServiceProgram Provider Element (AttachedSkeleton Provider)).Respects
      (providerRules Consumer deployment guarded provider) peer
      fun after => skeletonPost deployment guarded (.skeleton (some after)) := by
  have kept : ∀ foundLocked, skeletonPost deployment guarded (.skeleton (some skeleton))
      { peer with foundLocked := foundLocked } := by
    intro foundLocked
    refine ⟨⟨isLive, noLock, ?_, ?_, marker⟩, ?_⟩
    · intro path incarnation pointed
      rw [refers] at pointed
      exact pointed
    · exact fun _ => refers
    · intro prepared
      have prepared : peer.isPrepared = true := prepared
      rw [unprepared] at prepared
      cases prepared
  unfold prepareStopOffer
  cases opened : skeleton.serviceInstanceUsageMarkerFile with
  | none =>
      apply Respects.perform
      · exact ⟨noSkeleton, fun _ => unlocked⟩
      · intro _ _
        exact kept peer.foundLocked
  | some markerFile =>
      apply Respects.perform
      · exact ⟨noSkeleton, marker markerFile opened, rfl, noLock, isLive⟩
      · intro isUnused _
        cases isUnused with
        | true =>
            have removed : (removeSharedMemory skeleton :
                ServiceProgram Provider Element Unit).Respects
                  (providerRules Consumer deployment guarded provider)
                  { peer with lock := some (markerFile.file, .exclusive) }
                  fun _ after => ∃ cleared, after =
                    { peer with
                      lock := some (markerFile.file, .exclusive), cleared := cleared } :=
              removeSharedMemory_respects noSkeleton rfl unlocked
            apply Respects.bind removed
            rintro _ _ ⟨cleared, rfl⟩
            apply Respects.perform
            · exact ⟨noSkeleton, rfl⟩
            · intro _ _
              refine ⟨⟨isLive, rfl, ?_, ?_, ?_⟩, ?_⟩
              · intro path incarnation pointed
                cases pointed
              · intro offered
                have offered : peer.isOffered = true := offered
                rw [stopped] at offered
                cases offered
              · intro other none
                cases none
              · intro prepared
                have prepared : peer.isPrepared = true := prepared
                rw [unprepared] at prepared
                cases prepared
        | false => exact kept true

/-- What terminates a provider is not in its way where it found the usage marker locked. -/
theorem assert_respects {condition : Bool} (noSkeleton : peer.skeleton = none)
    (safe : condition = true ∨ (guarded → peer.foundLocked = false)) :
    (ServiceProgram.assert condition : ServiceProgram Provider Element Unit).Respects
      (providerRules Consumer deployment guarded provider) peer fun _ after => after = peer := by
  unfold ServiceProgram.assert
  by_cases holds : condition = true
  · rw [if_pos holds]
    rfl
  · rw [if_neg holds]
    constructor
    · exact ⟨noSkeleton, safe.resolve_left holds⟩
    · intro _ _
      rfl

variable {element : Element}

/-- The find_element of a re-opened element succeeds. -/
theorem findElement_respects {table : ElementTable} (noSkeleton : peer.skeleton = none)
    (isLive : peer.isLive = true) (refers : skeleton.pointer = peer.mapped)
    (found : peer.foundLocked = true) (attached : (peer.mapped table.path).isSome = true)
    (isElement : element ∈ deployment.elements) :
    (skeleton.findElement table element).Respects
      (providerRules Consumer deployment guarded provider) peer fun _ after => after = peer := by
  obtain ⟨incarnation, mapped⟩ := Option.isSome_iff_exists.mp attached
  have pointed : skeleton.pointer table.path = some incarnation := by
    rw [refers]
    exact mapped
  unfold AttachedSkeleton.findElement AttachedSkeleton.deref
  simp only [pointed]
  apply Respects.perform
  · exact ⟨noSkeleton, trivial⟩
  · intro isThere expected
    apply assert_respects noSkeleton
    by_cases safe : guarded
    · exact .inl (expected safe ⟨isLive, found⟩ mapped isElement)
    · exact .inr fun isGuarded => absurd isGuarded safe

/-- The emplace of a new element may fail its assertion. -/
theorem emplaceElement_respects {table : ElementTable} {isAsserted : Bool}
    (noSkeleton : peer.skeleton = none) (unlocked : peer.foundLocked = false) :
    (skeleton.emplaceElement table element isAsserted).Respects
      (providerRules Consumer deployment guarded provider) peer fun _ after => after = peer := by
  unfold AttachedSkeleton.emplaceElement AttachedSkeleton.deref
  cases skeleton.pointer table.path with
  | none =>
      constructor
      · exact ⟨noSkeleton, fun _ => unlocked⟩
      · intro _ _
        rfl
  | some incarnation =>
      apply Respects.perform
      · exact ⟨noSkeleton, trivial⟩
      · intro inserted _
        exact assert_respects noSkeleton (.inr fun _ => unlocked)

/-- Skeleton::Register leaves the Skeleton as it is. -/
theorem register_respects (noSkeleton : peer.skeleton = none) (isLive : peer.isLive = true)
    (refers : skeleton.pointer = peer.mapped)
    (reopened : skeleton.wasOldShmRegionReopened = peer.foundLocked)
    (attached : ∀ path, deployment.has path = true → (peer.mapped path).isSome = true)
    (isElement : element ∈ deployment.elements) :
    (register deployment.hasAsilBSupport skeleton element).Respects
      (providerRules Consumer deployment guarded provider) peer fun _ after => after = peer := by
  unfold register
  cases found : skeleton.wasOldShmRegionReopened with
  | true =>
      rw [found] at reopened
      have each : ∀ table, deployment.has table.path = true →
          (skeleton.findElement table element).Respects
            (providerRules Consumer deployment guarded provider) peer
            fun _ after => after = peer := by
        intro table has
        exact findElement_respects noSkeleton isLive refers reopened.symm
          (attached table.path has) isElement
      rw [if_pos rfl]
      unfold openEventDataFromOpenedSharedMemory
      apply Respects.bind (each .eventsMetainfo rfl)
      rintro _ _ rfl
      apply Respects.bind (each .events rfl)
      rintro _ _ rfl
      apply Respects.bind (each (.eventControls .asilQm) rfl)
      rintro _ _ rfl
      by_cases hasAsilB : deployment.hasAsilBSupport = true
      · rw [if_pos hasAsilB]
        exact each (.eventControls .asilB) hasAsilB
      · rw [if_neg hasAsilB]
        rfl
  | false =>
      rw [found] at reopened
      have each : ∀ table isAsserted, (skeleton.emplaceElement table element isAsserted).Respects
          (providerRules Consumer deployment guarded provider) peer
          fun _ after => after = peer := by
        intro table isAsserted
        exact emplaceElement_respects noSkeleton reopened.symm
      rw [if_neg (by simp)]
      unfold createEventDataFromOpenedSharedMemory
      apply Respects.bind (each .events true)
      rintro _ _ rfl
      apply Respects.bind (each .eventsMetainfo true)
      rintro _ _ rfl
      apply Respects.bind (each (.eventControls .asilQm) true)
      rintro _ _ rfl
      by_cases hasAsilB : (skeleton.pointer (.control .asilB)).isSome = true
      · rw [if_pos hasAsilB]
        exact each (.eventControls .asilB) false
      · rw [if_neg hasAsilB]
        rfl

end Skeletons

/-! ## The programs of a consumer -/

section Proxies

variable {consumer : Consumer} {peer : Peer Provider}

/-- The rules of a consumer. -/
abbrev proxyRules (Provider : Type) [DecidableEq Provider]
    (deployment : ServiceDeployment Element) (guarded : Prop) (consumer : Consumer) :
    Rules (ServiceOp Provider Element) ServiceOp.Ret (Peer Provider) :=
  (peerManners deployment guarded : (serviceRole Provider Consumer deployment).Manners).rules
    (.inr consumer)

/-- Where Proxy::Create gives its lock up again, nothing is left. -/
theorem giveUp_respects {file : Nat} (noProxy : peer.proxy = none)
    (locked : peer.lock = some (file, .shared)) :
    (do
      ServiceProgram.unlock file
      pure none : ServiceProgram Provider Element (Option (AttachedProxy Provider))).Respects
      (proxyRules Provider deployment guarded consumer) peer ProxyBacks := by
  apply Respects.perform
  · exact ⟨noProxy, locked⟩
  · intro _ _
    exact unlocked_lock peer

omit [DecidableEq Provider] in
/-- The Proxy that was created refers to both objects under its lock. -/
theorem attached_proxyBacks {file : Nat} (quality : QualityType)
    (control data : Incarnation Provider) :
    ProxyBacks (some ⟨quality, control, data, ⟨file, false⟩⟩)
      (({ peer with marker := some file, lock := some (file, .shared) } : Peer Provider).attach
        (.control quality) control |>.attach .data data) := by
  refine ⟨rfl, ?_, ?_⟩
  · rw [Peer.attach_of_ne _ data (by intro same; cases same), Peer.attach_self]
  · exact Peer.attach_self _ _ _

/-- Proxy::Create ends with a lock and both objects, or with nothing. -/
theorem createProxy_respects {quality : QualityType} (noProxy : peer.proxy = none)
    (noLock : peer.lock = none) :
    (createProxy quality :
        ServiceProgram Provider Element (Option (AttachedProxy Provider))).Respects
      (proxyRules Provider deployment guarded consumer) peer ProxyBacks := by
  unfold createProxy
  apply Respects.perform
  · exact ⟨noProxy, trivial⟩
  · intro file _
    cases file with
    | none => exact noLock
    | some file =>
        apply Respects.perform
        · exact ⟨noProxy, rfl, rfl, noLock⟩
        · intro isLocked _
          cases isLocked with
          | false => exact noLock
          | true =>
              apply Respects.perform
              · exact ⟨noProxy, rfl⟩
              · intro control _
                cases control with
                | none =>
                    apply Respects.perform
                    · exact ⟨noProxy, rfl⟩
                    · intro data _
                      cases data with
                      | none | some data => exact giveUp_respects noProxy rfl
                | some control =>
                    apply Respects.perform
                    · exact ⟨noProxy, rfl⟩
                    · intro data _
                      cases data with
                      | none => exact giveUp_respects noProxy rfl
                      | some data =>
                          apply Respects.perform
                          · exact ⟨noProxy, trivial⟩
                          · intro restarted _
                            cases restarted with
                            | false => exact giveUp_respects noProxy rfl
                            | true => exact attached_proxyBacks quality control data

/-- Finding an element terminates the consumer at most where nobody guards the locks. -/
theorem findEntry_respects {table : ElementTable} {incarnation : Incarnation Provider}
    {element : Element} (noProxy : peer.proxy = none) (shares : peer.lock.isSome = true)
    (mapped : peer.mapped table.path = some incarnation)
    (isElement : element ∈ deployment.elements) :
    (do ServiceProgram.assert (← ServiceProgram.find table incarnation element) :
        ServiceProgram Provider Element Unit).Respects
      (proxyRules Provider deployment guarded consumer) peer fun _ after => after = peer := by
  apply Respects.perform
  · exact ⟨noProxy, trivial⟩
  · intro isThere expected
    unfold ServiceProgram.assert
    by_cases found : isThere = true
    · rw [if_pos found]
      rfl
    · rw [if_neg found]
      constructor
      · exact ⟨noProxy, fun safe => found (expected safe shares mapped isElement)⟩
      · intro _ _
        rfl

end Proxies

/-! ## All calls -/

section Calls

variable {memory : ServiceMemory Provider Consumer Element}
  {isDead : Provider ⊕ Consumer → Bool} {peer : Provider ⊕ Consumer → Peer Provider}
  {party : Provider ⊕ Consumer}

variable {provider : Provider}

omit [DecidableEq Provider] [DecidableEq Consumer] [DecidableEq Element] in
/-- A call that starts keeps what a provider that gave its Skeleton away relies on. -/
theorem SkeletonKeeps.handedOver {peer : Peer Provider}
    (keeps : SkeletonKeeps deployment guarded memory provider peer) (cleared : ShmPath → Bool)
    (offers : Nat) (stillOwn : offers ≠ peer.offers → ∀ path, cleared path = false)
    (fewer : ∀ path, cleared path = true → peer.cleared path = true)
    (isOffered isPrepared foundLocked : Bool) (offered : isOffered = true → peer.isOffered = true)
    (found : foundLocked = true → peer.foundLocked = true) :
    SkeletonKeeps deployment guarded memory provider
      { peer with
        skeleton := none, cleared := cleared, offers := offers, isOffered := isOffered
        isPrepared := isPrepared, foundLocked := foundLocked } where
  marker := keeps.marker
  lock := keeps.lock
  has := keeps.has
  agrees := keeps.agrees
  cleared isLive path incarnation isCleared named := by
    by_cases same : offers = peer.offers
    · rw [same]
      exact keeps.cleared isLive path incarnation (fewer path isCleared) named
    · have isCleared : cleared path = true := isCleared
      rw [stillOwn same path] at isCleared
      cases isCleared
  offered isNow := keeps.offered (offered isNow)
  found safe isLive isNow := keeps.found safe isLive (found isNow)
  rest skeleton atRest := by cases atRest

omit [DecidableEq Provider] [DecidableEq Consumer] [DecidableEq Element] in
/-- A provider without a Skeleton, or with a new one. -/
theorem skeletonKeeps_fresh (provider : Provider) (offers : Nat) (isLive : Bool) :
    SkeletonKeeps deployment guarded memory provider
      { (Peer.fresh : Peer Provider) with offers := offers, isLive := isLive } where
  marker file opened := by cases opened
  lock file mode locked := by cases locked
  has path incarnation mapped := by cases mapped
  agrees _ path first second mapped := by cases mapped
  cleared _ path incarnation isCleared := by cases isCleared
  offered isOffered := by cases isOffered
  found _ _ isFound := by cases isFound
  rest skeleton atRest := by cases atRest

omit [DecidableEq Provider] [DecidableEq Consumer] [DecidableEq Element] in
/-- A provider that gets its Skeleton back. -/
theorem SkeletonKeeps.handedBack {peer : Peer Provider} {skeleton : AttachedSkeleton Provider}
    (keeps : SkeletonKeeps deployment guarded memory provider peer)
    (handsBack : HandsBack skeleton peer) (isOffered isPrepared : Bool)
    (offered : isOffered = true → ∀ path, deployment.has path = true →
      (skeleton.pointer path).isSome = true)
    (prepared : isPrepared = true → isOffered = true ∧
      skeleton.wasOldShmRegionReopened = peer.foundLocked) :
    SkeletonKeeps deployment guarded memory provider
      { peer with
        skeleton := some skeleton, mapped := skeleton.pointer, isOffered := isOffered
        isPrepared := isPrepared } where
  marker := keeps.marker
  lock := keeps.lock
  has path incarnation pointed := keeps.has path incarnation
    (handsBack.refers path incarnation pointed)
  agrees isLive path first second pointed := keeps.agrees isLive path first second
    (handsBack.refers path first pointed)
  cleared := keeps.cleared
  offered isNow := ⟨handsBack.isLive, offered isNow⟩
  found := keeps.found
  rest other atRest := by
    cases atRest
    exact ⟨⟨handsBack.isLive, handsBack.lock, fun _ _ pointed => pointed, fun _ => rfl,
      handsBack.marker⟩, rfl, prepared⟩

variable {call : ServiceCall Element}

omit [DecidableEq Provider] [DecidableEq Consumer] in
/-- A call that starts keeps what its party relies on. -/
theorem partyKeeps_onCall {peer : Peer Provider}
    (keeps : PartyKeeps deployment guarded memory party peer)
    (mayStart : call.mayStart Provider Consumer deployment party peer = true) :
    PartyKeeps deployment guarded memory party (peer.onCall call) := by
  cases party with
  | inl provider =>
      have keeps : SkeletonKeeps deployment guarded memory provider peer := keeps
      cases call with
      | createSkeleton => exact skeletonKeeps_fresh provider peer.offers true
      | destroySkeleton => exact skeletonKeeps_fresh provider peer.offers false
      | prepareOffer =>
          exact keeps.handedOver (fun _ => false) (peer.offers + 1) (fun _ _ => rfl)
            (fun _ isCleared => by cases isCleared) peer.isOffered false false
            (fun isOffered => isOffered) (fun isFound => by cases isFound)
      | register element =>
          exact keeps.handedOver peer.cleared peer.offers (fun other => absurd rfl other)
            (fun _ isCleared => isCleared) peer.isOffered peer.isPrepared peer.foundLocked
            (fun isOffered => isOffered) (fun isFound => isFound)
      | prepareStopOffer =>
          exact keeps.handedOver peer.cleared peer.offers (fun other => absurd rfl other)
            (fun _ isCleared => isCleared) false false false
            (fun isOffered => by cases isOffered) (fun isFound => by cases isFound)
      | createProxy quality | destroyProxy | getEventControl element
      | getRawDataStorage element => cases mayStart
  | inr consumer =>
      have keeps : ProxyKeeps deployment guarded memory peer := keeps
      have handedOver : ProxyKeeps deployment guarded memory { peer with proxy := none } :=
        ⟨keeps.marker, keeps.lock, keeps.unlocked, keeps.kept, keeps.complete,
          fun held atRest => by cases atRest⟩
      cases call with
      | createProxy quality | destroyProxy | getEventControl element
      | getRawDataStorage element => exact handedOver
      | createSkeleton | destroySkeleton | prepareOffer | register element | prepareStopOffer =>
          cases mayStart

/-- What a call hands back keeps what its party relies on. -/
theorem partyKeeps_onReturn {peer : Peer Provider} {reply : ServiceReply Provider}
    (keeps : PartyKeeps deployment guarded memory party peer)
    (post : (peerManners deployment guarded :
      (serviceRole Provider Consumer deployment).Manners).post party call reply peer) :
    PartyKeeps deployment guarded memory party (peer.onReturn reply) := by
  cases party with
  | inl provider =>
      have keeps : SkeletonKeeps deployment guarded memory provider peer := keeps
      have post : skeletonPost deployment guarded reply peer := post
      cases reply with
      | offered result skeleton =>
          obtain ⟨handsBack, refers, done, _⟩ := post
          apply keeps.handedBack handsBack (peer.isOffered || result) result
          · intro isOffered path has
            rw [refers]
            rcases (Bool.or_eq_true _ _).mp isOffered with before | now
            · exact (keeps.offered before).2 path has
            · exact (done now).2 path has
          · intro isDone
            exact ⟨by rw [isDone, Bool.or_true], (done isDone).1⟩
      | skeleton skeleton =>
          cases skeleton with
          | none => exact keeps
          | some skeleton =>
              obtain ⟨handsBack, prepared⟩ := post
              apply keeps.handedBack handsBack peer.isOffered peer.isPrepared
              · intro isOffered path has
                rw [handsBack.offered isOffered]
                exact (keeps.offered isOffered).2 path has
              · exact prepared
      | proxy held => cases post
  | inr consumer =>
      have keeps : ProxyKeeps deployment guarded memory peer := keeps
      obtain ⟨held, rfl, backs⟩ := post
      refine ⟨keeps.marker, keeps.lock, keeps.unlocked, keeps.kept, keeps.complete, ?_⟩
      intro other atRest
      cases atRest
      cases held with
      | none | some proxy => exact backs

/-- The program behind a call of a provider keeps its rules. -/
theorem skeletonCode_respects {peer : Peer Provider} {skeleton : AttachedSkeleton Provider}
    (keeps : SkeletonKeeps deployment guarded memory provider peer)
    (atRest : peer.skeleton = some skeleton)
    (mayStart : call.mayStart Provider Consumer deployment (.inl provider) peer = true)
    (notCreated : call ≠ .createSkeleton) :
    (skeleton.code deployment (provider, peer.offers + 1) call).Respects
      (providerRules Consumer deployment guarded provider) (peer.onCall call)
      (skeletonPost deployment guarded) := by
  obtain ⟨handsBack, refers, prepared⟩ := keeps.rest skeleton atRest
  cases call with
  | createSkeleton => exact absurd rfl notCreated
  | destroySkeleton => trivial
  | prepareOffer =>
      have offered : (prepareOffer deployment.hasAsilBSupport (provider, peer.offers + 1)
          skeleton : ServiceProgram Provider Element (Bool × AttachedSkeleton Provider)).Respects
          (providerRules Consumer deployment guarded provider)
          (peer.onCall (.prepareOffer : ServiceCall Element))
          fun reply after => skeletonPost deployment guarded (.offered reply.1 reply.2) after :=
        prepareOffer_respects rfl handsBack.isLive handsBack.lock refers rfl rfl
      apply Respects.bind offered
      rintro ⟨result, skeleton⟩ after post
      exact post
  | register element =>
      have start : (peer.skeleton.isSome && peer.isPrepared &&
        decide (element ∈ deployment.elements)) = true := mayStart
      simp only [Bool.and_eq_true, decide_eq_true_eq] at start
      obtain ⟨⟨_, isPrepared⟩, isElement⟩ := start
      obtain ⟨isOffered, reopened⟩ := prepared isPrepared
      have registered : (register deployment.hasAsilBSupport skeleton element :
          ServiceProgram Provider Element Unit).Respects
          (providerRules Consumer deployment guarded provider)
          (peer.onCall (.register element : ServiceCall Element))
          fun _ after => after = peer.onCall (.register element : ServiceCall Element) :=
        register_respects rfl handsBack.isLive refers reopened
          (keeps.offered isOffered).2 isElement
      apply Respects.bind registered
      rintro _ _ rfl
      exact ⟨⟨handsBack.isLive, handsBack.lock, handsBack.refers, handsBack.offered,
        handsBack.marker⟩, prepared⟩
  | prepareStopOffer =>
      have stopped : (prepareStopOffer skeleton :
          ServiceProgram Provider Element (AttachedSkeleton Provider)).Respects
          (providerRules Consumer deployment guarded provider)
          (peer.onCall (.prepareStopOffer : ServiceCall Element))
          fun after => skeletonPost deployment guarded (.skeleton (some after)) :=
        prepareStopOffer_respects rfl handsBack.isLive handsBack.lock refers rfl rfl rfl
          handsBack.marker
      apply Respects.bind stopped
      intro after view post
      exact post
  | createProxy quality | destroyProxy | getEventControl element | getRawDataStorage element =>
      cases mayStart

/-- The program behind a call on a Proxy keeps the rules of its consumer. -/
theorem proxyCode_respects {consumer : Consumer} {peer : Peer Provider}
    {proxy : AttachedProxy Provider} (backs : ProxyBacks (some proxy) peer)
    (mayStart : call.mayStart Provider Consumer deployment (.inr consumer) peer = true)
    (isThere : peer.proxy = some (some proxy)) :
    (proxy.code call).Respects (proxyRules Provider deployment guarded consumer)
      (peer.onCall call) fun reply after => ∃ held, reply = .proxy held ∧
        ProxyBacks held after := by
  obtain ⟨locked, control, data⟩ := backs
  have shares : peer.lock.isSome = true := by simp [locked]
  cases call with
  | destroyProxy =>
      apply Respects.perform
      · exact ⟨rfl, locked⟩
      · intro _ _
        exact ⟨none, rfl, unlocked_lock _⟩
  | getEventControl element =>
      have start : (peer.proxy.any Option.isSome &&
        decide (element ∈ deployment.elements)) = true := mayStart
      simp only [Bool.and_eq_true, decide_eq_true_eq] at start
      have found : (getEventControl proxy element : ServiceProgram Provider Element Unit).Respects
          (proxyRules Provider deployment guarded consumer) { peer with proxy := none }
          fun _ after => after = { peer with proxy := none } :=
        findEntry_respects rfl shares control start.2
      apply Respects.bind found
      rintro _ _ rfl
      exact ⟨some proxy, rfl, locked, control, data⟩
  | getRawDataStorage element =>
      have start : (peer.proxy.any Option.isSome &&
        decide (element ∈ deployment.elements)) = true := mayStart
      simp only [Bool.and_eq_true, decide_eq_true_eq] at start
      have found : (getRawDataStorage proxy element : ServiceProgram Provider Element Unit).Respects
          (proxyRules Provider deployment guarded consumer) { peer with proxy := none }
          fun _ after => after = { peer with proxy := none } :=
        findEntry_respects rfl shares data start.2
      apply Respects.bind found
      rintro _ _ rfl
      exact ⟨some proxy, rfl, locked, control, data⟩
  | createProxy quality =>
      have start : peer.proxy.any Option.isNone = true := mayStart
      rw [isThere] at start
      cases start
  | createSkeleton | destroySkeleton | prepareOffer | register element | prepareStopOffer =>
      cases mayStart

/-- The program behind a call keeps the rules of its party. -/
theorem code_respects {peer : Peer Provider}
    (keeps : PartyKeeps deployment guarded memory party peer)
    (mayStart : call.mayStart Provider Consumer deployment party peer = true) :
    ((serviceRole Provider Consumer deployment).code party peer call).Respects
      ((peerManners deployment guarded :
        (serviceRole Provider Consumer deployment).Manners).rules party) (peer.onCall call)
      ((peerManners deployment guarded :
        (serviceRole Provider Consumer deployment).Manners).post party call) := by
  cases party with
  | inl provider =>
      have keeps : SkeletonKeeps deployment guarded memory provider peer := keeps
      by_cases creates : call = .createSkeleton
      · subst creates
        refine ⟨⟨rfl, rfl, fun _ _ none => none, fun _ => rfl, fun _ none => ?_⟩, ?_⟩
        · cases none
        · intro isPrepared
          cases isPrepared
      · cases atRest : peer.skeleton with
        | none =>
            cases call <;> first
              | exact absurd rfl creates
              | simp [ServiceCall.mayStart, atRest] at mayStart
        | some skeleton =>
            have respects : (skeleton.code deployment (provider, peer.offers + 1) call).Respects
                (providerRules Consumer deployment guarded provider) (peer.onCall call)
                (skeletonPost deployment guarded) :=
              skeletonCode_respects keeps atRest mayStart creates
            have code : (serviceRole Provider Consumer deployment).code (.inl provider) peer
                call = skeleton.code deployment (provider, peer.offers + 1) call := by
              cases call with
              | createSkeleton => exact absurd rfl creates
              | _ => simp only [serviceRole, atRest]
            rw [code]
            exact respects
  | inr consumer =>
      have keeps : ProxyKeeps deployment guarded memory peer := keeps
      cases isThere : peer.proxy.join with
      | none =>
          cases call with
          | createProxy quality =>
              have start : peer.proxy.any Option.isNone = true := mayStart
              obtain ⟨held, atRest, isNone⟩ := (Option.any_eq_true _ _).mp start
              rw [Option.isNone_iff_eq_none] at isNone
              subst isNone
              have noLock : peer.lock = none := keeps.rest none atRest
              have created : (createProxy quality : ServiceProgram Provider Element
                  (Option (AttachedProxy Provider))).Respects
                    (proxyRules Provider deployment guarded consumer)
                    { peer with proxy := none } ProxyBacks :=
                createProxy_respects rfl noLock
              apply Respects.bind created
              intro held after backs
              exact ⟨held, rfl, backs⟩
          | _ =>
              rcases Option.join_eq_none_iff.mp isThere with none | none
              · simp [ServiceCall.mayStart, none] at mayStart
              · simp [ServiceCall.mayStart, none] at mayStart
      | some proxy =>
          have atRest : peer.proxy = some (some proxy) := Option.join_eq_some_iff.mp isThere
          have respects : (proxy.code call).Respects
              (proxyRules Provider deployment guarded consumer) (peer.onCall call)
              fun reply after => ∃ held, reply = .proxy held ∧ ProxyBacks held after :=
            proxyCode_respects (keeps.rest (some proxy) atRest) mayStart atRest
          have code : (serviceRole Provider Consumer deployment).code (.inr consumer) peer
              call = proxy.code call := by
            cases call with
            | createProxy quality =>
                have start : peer.proxy.any Option.isNone = true := mayStart
                rw [atRest] at start
                cases start
            | _ => simp only [serviceRole, isThere]
          rw [code]
          exact respects

omit [DecidableEq Element] in
/-- A party changes without touching memory. -/
theorem PeersInv.replace (inv : PeersInv deployment guarded memory isDead peer)
    {moved : Peer Provider} (lock : isDead party = false → moved.lock = (peer party).lock)
    (alone : ∀ provider, party = .inl provider → isDead party = false → moved.isLive = true →
      (peer party).isLive = true ∨ ∀ other, other ≠ provider → isDead (.inl other) = false →
        (peer (.inl other)).isLive = false)
    (own : isDead party = false → PartyKeeps deployment guarded memory party moved) :
    PeersInv deployment guarded memory isDead (update peer party moved) where
  wellLocked := inv.wellLocked
  holds other file mode := by
    rw [inv.holds other file mode]
    by_cases same : other = party
    · subst same
      rw [update_self]
      constructor
      · rintro ⟨lives, locked⟩
        exact ⟨lives, (lock lives).trans locked⟩
      · rintro ⟨lives, locked⟩
        exact ⟨lives, (lock lives).symm.trans locked⟩
    · rw [update_of_ne same]
  oneLive := by
    have alone : ∀ one two, isDead (.inl one) = false → isDead (.inl two) = false →
        party = .inl one → moved.isLive = true → (peer (.inl two)).isLive = true → one = two := by
      intro one two livesOne livesTwo same isLive otherLive
      subst same
      rcases alone one rfl livesOne isLive with before | others
      · exact inv.oneLive one two livesOne livesTwo before otherLive
      · by_contra distinct
        rw [others two (fun same => distinct same.symm) livesTwo] at otherLive
        cases otherLive
    intro one two livesOne livesTwo liveOne liveTwo
    by_cases sameOne : .inl one = party
    · by_cases sameTwo : .inl two = party
      · exact Sum.inl.inj (sameOne.trans sameTwo.symm)
      · rw [sameOne, update_self] at liveOne
        rw [update_of_ne sameTwo] at liveTwo
        exact alone one two livesOne livesTwo sameOne.symm liveOne liveTwo
    · rw [update_of_ne sameOne] at liveOne
      by_cases sameTwo : .inl two = party
      · rw [sameTwo, update_self] at liveTwo
        exact (alone two one livesTwo livesOne sameTwo.symm liveTwo liveOne).symm
      · rw [update_of_ne sameTwo] at liveTwo
        exact inv.oneLive one two livesOne livesTwo liveOne liveTwo
  same := inv.same
  has := inv.has
  keeps other lives := by
    by_cases same : other = party
    · subst same
      rw [update_self]
      exact own lives
    · rw [update_of_ne same]
      exact inv.keeps other lives

omit [DecidableEq Provider] [DecidableEq Consumer] in
/-- No call begins with another lock than it ends the one before with. -/
theorem onCall_lock {peer : Peer Provider} (keeps : PartyKeeps deployment guarded memory party peer)
    (mayStart : call.mayStart Provider Consumer deployment party peer = true) :
    (peer.onCall call).lock = peer.lock := by
  cases party with
  | inl provider =>
      have keeps : SkeletonKeeps deployment guarded memory provider peer := keeps
      cases call with
      | createSkeleton =>
          cases locked : peer.lock with
          | none => rfl
          | some lock =>
              have isLive := (keeps.lock lock.1 lock.2 locked).2.1
              simp [ServiceCall.mayStart, isLive] at mayStart
      | destroySkeleton =>
          obtain ⟨skeleton, atRest⟩ := Option.isSome_iff_exists.mp
            (show peer.skeleton.isSome = true from mayStart)
          exact (keeps.rest skeleton atRest).1.lock.symm
      | _ => rfl
  | inr consumer =>
      cases call with
      | createSkeleton | destroySkeleton => cases mayStart
      | _ => rfl

omit [DecidableEq Provider] [DecidableEq Consumer] in
/-- What is found in a complete memory. -/
theorem peerExpects_of_complete {relies : Prop} {peer : Peer Provider}
    (complete : guarded → relies → CompleteMemory deployment memory)
    (mapped : ∀ path incarnation found, relies → peer.mapped path = some incarnation →
      memory.named path = some found → found = incarnation)
    (has : ∀ path incarnation, relies → peer.mapped path = some incarnation →
      deployment.has path = true) (op : ServiceOp Provider Element) (answer : op.Ret)
    (opened : ∀ path, op = .open path → HEq answer (memory.named path))
    (found : ∀ table incarnation element, op = .find table incarnation element →
      HEq answer (decide (element ∈ memory.entries table incarnation))) :
    peerExpects deployment guarded relies peer op answer := by
  cases op with
  | «open» path =>
      intro safe relied isOwn
      obtain ⟨incarnation, named, _⟩ := complete safe relied path isOwn
      rw [eq_of_heq (opened path rfl), named]
      rfl
  | find table incarnation element =>
      intro safe relied refers isElement
      obtain ⟨other, named, contains⟩ :=
        complete safe relied table.path (has table.path incarnation relied refers)
      have same := mapped table.path incarnation other relied refers named
      subst same
      rw [eq_of_heq (found table other element rfl)]
      simpa using contains table rfl element isElement
  | _ => trivial

/-- The obligations of the providers and consumers of a service instance. -/
theorem peers_obligations : (serviceRole Provider Consumer deployment).Obligations
      (PeersInv deployment guarded) (peerManners deployment guarded)
      fun config move => OneLiveSkeleton deployment config move ∧
        (guarded → LocksComplete deployment config move)
    where
  call config party call inv permits mayStart := by
    constructor
    · apply inv.replace
      · intro lives
        exact onCall_lock (inv.keeps party lives) mayStart
      · intro provider same lives isLive
        subst same
        cases call with
        | createSkeleton => exact .inr permits.1
        | destroySkeleton => cases isLive
        | _ => exact .inl isLive
      · intro lives
        exact partyKeeps_onCall (inv.keeps party lives) mayStart
    · intro lives
      exact code_respects (inv.keeps party lives) mayStart
  perform config party op answer memory inv permits lives may outcome := by
    constructor
    · exact peersInv_perform inv lives may outcome permits.2
    · have keeps := inv.keeps party lives
      have opened : ∀ path, op = .open path → HEq answer (config.memory.memory.named path) := by
        intro path same
        subst same
        cases List.mem_singleton.mp outcome
        rfl
      have found : ∀ table incarnation element, op = .find table incarnation element →
          HEq answer (decide (element ∈ config.memory.memory.entries table incarnation)) := by
        intro table incarnation element same
        subst same
        cases List.mem_singleton.mp outcome
        rfl
      cases party with
      | inl provider =>
          have keeps : SkeletonKeeps deployment guarded config.memory.memory provider
              (config.object (.inl provider)) := keeps
          apply peerExpects_of_complete
          · exact fun safe relied => keeps.found safe relied.1 relied.2
          · intro path incarnation other relied refers named
            exact (keeps.agrees relied.1 path incarnation other refers named).symm
          · exact fun path incarnation _ refers => keeps.has path incarnation refers
          · exact opened
          · exact found
      | inr consumer =>
          have keeps : ProxyKeeps deployment guarded config.memory.memory
              (config.object (.inr consumer)) := keeps
          apply peerExpects_of_complete
          · exact keeps.complete
          · intro path incarnation other _ refers named
            rw [keeps.kept path incarnation refers] at named
            exact (Option.some.inj named).symm
          · intro path incarnation _ refers
            exact inv.has path incarnation (keeps.kept path incarnation refers)
          · exact opened
          · exact found
  finish config party call reply inv _ post := by
    have lock : ∀ peer : Peer Provider, (peer.onReturn reply).lock = peer.lock := by
      intro peer
      cases reply with
      | offered result skeleton => rfl
      | skeleton skeleton => cases skeleton <;> rfl
      | proxy held => rfl
    have isLive : ∀ peer : Peer Provider, (peer.onReturn reply).isLive = peer.isLive := by
      intro peer
      cases reply with
      | offered result skeleton => rfl
      | skeleton skeleton => cases skeleton <;> rfl
      | proxy held => rfl
    apply inv.replace
    · exact fun _ => lock _
    · intro provider _ _ live
      left
      rw [← isLive]
      exact live
    · intro lives
      exact partyKeeps_onReturn (inv.keeps party lives) (post lives)
  killed config killed inv := by
    have extends_ : Extends config.memory.memory
        { config.memory.memory with files := config.memory.memory.files.release killed } :=
      ⟨fun _ leads => leads, rfl, fun _ _ _ entered => entered⟩
    constructor
    · exact inv.wellLocked.release
    · intro party file mode
      have before := inv.holds party file mode
      have released : (config.memory.memory.files.release killed).Holds file party mode ↔ _ :=
        LockedFiles.holds_release
      rw [Bool.or_eq_false_iff]
      exact released.trans (by rw [before]; tauto)
    · intro one two livesOne livesTwo
      rw [Bool.or_eq_false_iff] at livesOne livesTwo
      exact inv.oneLive one two livesOne.1 livesTwo.1
    · exact inv.same
    · exact inv.has
    · intro party lives
      rw [Bool.or_eq_false_iff] at lives
      have keeps := inv.keeps party lives.1
      cases party with
      | inl provider => exact SkeletonKeeps.extend keeps extends_
      | inr consumer => exact ProxyKeeps.extend keeps extends_

end Calls

/-! ## Runs -/

theorem peersInv_initially :
    PeersInv deployment guarded (serviceStart Provider Consumer deployment).memory.memory
      (serviceStart Provider Consumer deployment).memory.isDead
      (serviceStart Provider Consumer deployment).object where
  wellLocked file owned := by cases owned
  holds party file mode := by
    cases mode with
    | shared | exclusive =>
        constructor
        · intro none
          cases none
        · rintro ⟨_, none⟩
          cases none
  oneLive one two _ _ isLive := by cases isLive
  same one two first second named := by cases named
  has path incarnation named := by cases named
  keeps party _ := by
    cases party with
    | inl provider => exact skeletonKeeps_fresh provider 0 false
    | inr consumer =>
        constructor
        · intro file opened
          cases opened
        · intro file mode locked
          cases locked
        · exact fun _ _ => rfl
        · intro path incarnation mapped
          cases mapped
        · intro _ shares
          cases shares
        · intro held atRest
          cases atRest
          rfl

/-- In a run with one live Skeleton at a time, provider and consumers with their locks
attach to the same objects, of one incarnation, and nothing happens to these. -/
theorem attachmentAgreement_of_reached
    {config : (serviceRole Provider Consumer deployment).State}
    (reached : Reaches (serviceRole Provider Consumer deployment).system
      (OneLiveSkeleton deployment) (serviceStart Provider Consumer deployment) config) :
    AttachmentAgreement config := by
  have unguarded : Reaches (serviceRole Provider Consumer deployment).system
      (fun config move => OneLiveSkeleton deployment config move ∧
        (False → LocksComplete deployment config move))
      (serviceStart Provider Consumer deployment) config := by
    apply reached.weaken
    intro before move allowed
    exact ⟨allowed, False.elim⟩
  have holds := Role.run peers_obligations peersInv_initially (fun _ => rfl) unguarded
  exact holds.inv.agreement

/-- A consumer attaches to an instance that is offered for the second time: it removed
its objects in between. -/
theorem attachmentAgreement_of_attached :
    ∃ config : (serviceRole (Fin 1) (Fin 1) ⟨true, [()]⟩).State,
      Reaches (serviceRole (Fin 1) (Fin 1) ⟨true, [()]⟩).system (OneLiveSkeleton ⟨true, [()]⟩)
        (serviceStart (Fin 1) (Fin 1) ⟨true, [()]⟩) config ∧
      IsOffering config 0 ∧ IsSharing config 0 ∧
        (config.object (.inr 0)).mapped .data = some (0, 2) ∧ AttachmentAgreement config := by
  have reached := (serviceRole (Fin 1) (Fin 1) ⟨true, [()]⟩).exists_reached
    (OneLiveSkeleton ⟨true, [()]⟩) (serviceStart (Fin 1) (Fin 1) ⟨true, [()]⟩)
    (List.flatten [[.move (.call (.inl 0) .createSkeleton), .move (.finish (.inl 0))],
       [.move (.call (.inl 0) .prepareOffer)], List.replicate 9 (.move (.perform (.inl 0) 0)),
       [.move (.finish (.inl 0))], [.move (.call (.inl 0) .prepareStopOffer)],
       List.replicate 5 (.move (.perform (.inl 0) 0)), [.move (.finish (.inl 0))],
       [.move (.call (.inl 0) .prepareOffer)], List.replicate 9 (.move (.perform (.inl 0) 0)),
       [.move (.finish (.inl 0))], [.move (.call (.inr 0) (.createProxy .asilB))],
       List.replicate 5 (.move (.perform (.inr 0) 0)), [.move (.finish (.inr 0))]])
    (fun config => IsOffering config 0 ∧ IsSharing config 0 ∧
      (config.object (.inr 0)).mapped .data = some (0, 2)) (by decide +kernel)
  obtain ⟨config, reached, offers, shares, mapped⟩ := reached
  exact ⟨config, reached, offers, shares, mapped, attachmentAgreement_of_reached reached⟩

end MwCom.Lola
