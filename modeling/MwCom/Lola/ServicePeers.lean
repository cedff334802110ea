/-
Module: MwCom.Lola.ServicePeers
Purpose: The providers and consumers of one service instance, with crashes and restarts:
  the law of their shared-memory objects and the invariant behind it.
Trusted boundary: none
Main exports: Peer, serviceRole, OneLiveSkeleton, AttachmentAgreement, PeersInv,
  PeersInv.agreement, peerManners
-/
import MwCom.Lola.UsageMarker

namespace MwCom.Lola

open Interleaving Locking

/-- The calls of a provider's Skeleton and of a consumer's Proxy.  OfferService calls
PrepareOffer and then Register for each element. -/
inductive ServiceCall (Element : Type) where
  | createSkeleton
  | destroySkeleton
  | prepareOffer
  | register (element : Element)
  | prepareStopOffer
  | createProxy (quality : QualityType)
  | destroyProxy
  | getEventControl (element : Element)
  | getRawDataStorage (element : Element)
deriving DecidableEq, Repr

/-- What the calls hand back: the members of the Skeleton or of the Proxy. -/
inductive ServiceReply (Provider : Type) where
  | offered (result : Bool) (skeleton : AttachedSkeleton Provider)
  | skeleton (skeleton : Option (AttachedSkeleton Provider))
  | proxy (proxy : Option (AttachedProxy Provider))

/-- A provider or a consumer, with what happened to it so far. -/
structure Peer (Provider : Type) where
  /-- The usage marker file that it opened last. -/
  marker : Option Nat
  /-- The lock that it has. -/
  lock : Option (Nat × Mode)
  /-- The objects that it refers to. -/
  mapped : ShmPath → Option (Incarnation Provider)
  /-- The paths that it removed since its last PrepareOffer began. -/
  cleared : ShmPath → Bool
  /-- How often it called PrepareOffer. -/
  offers : Nat
  /-- Its Skeleton exists. -/
  isLive : Bool
  /-- A PrepareOffer succeeded, and no PrepareStopOffer began since. -/
  isOffered : Bool
  /-- Its last PrepareOffer succeeded. -/
  isPrepared : Bool
  /-- It found the usage marker locked in its last PrepareOffer or PrepareStopOffer. -/
  foundLocked : Bool
  /-- The Skeleton between two calls. -/
  skeleton : Option (AttachedSkeleton Provider)
  /-- The Proxy between two calls, if it has one then. -/
  proxy : Option (Option (AttachedProxy Provider))

namespace Peer

variable {Provider Element : Type}

def fresh : Peer Provider where
  marker := none
  lock := none
  mapped _ := none
  cleared _ := false
  offers := 0
  isLive := false
  isOffered := false
  isPrepared := false
  foundLocked := false
  skeleton := none
  proxy := some none

/-- Where a shared lock ends, the Proxy is gone. -/
def unlocked (peer : Peer Provider) : Peer Provider :=
  match peer.lock with
  | some (_, .shared) => { peer with lock := none, mapped := fun _ => none }
  | _ => { peer with lock := none }

def attach (peer : Peer Provider) (path : ShmPath) (incarnation : Incarnation Provider) :
    Peer Provider :=
  { peer with mapped := Function.update peer.mapped path (some incarnation) }

theorem attach_self (peer : Peer Provider) (path : ShmPath) (incarnation : Incarnation Provider) :
    (peer.attach path incarnation).mapped path = some incarnation := by
  simp [attach]

theorem attach_of_ne (peer : Peer Provider) {path other : ShmPath}
    (incarnation : Incarnation Provider) (distinct : other ≠ path) :
    (peer.attach path incarnation).mapped other = peer.mapped other := by
  simp [attach, distinct]

def observe (peer : Peer Provider) : (op : ServiceOp Provider Element) → op.Ret → Peer Provider
  | .onFile (.open _), (file : Option Nat) => { peer with marker := file }
  | .onFile (.openOrCreate _), (file : Option Nat) => { peer with marker := file }
  | .onFile (.tryLock file mode), (success : Bool) =>
      if success then
        { peer with lock := some (file, mode) }
      else
        { peer with foundLocked := true }
  | .onFile (.unlock _), _ => peer.unlocked
  | .remove path, _ => { peer with cleared := Function.update peer.cleared path true }
  | .create path incarnation, (success : Bool) =>
      if success then peer.attach path incarnation else peer
  | .open path, (found : Option (Incarnation Provider)) =>
      match found with
      | some incarnation => peer.attach path incarnation
      | none => peer
  | _, _ => peer

/-- A call takes the Skeleton or the Proxy over. -/
def onCall (peer : Peer Provider) : ServiceCall Element → Peer Provider
  | .createSkeleton =>
      { (fresh : Peer Provider) with offers := peer.offers, isLive := true }
  | .destroySkeleton => { (fresh : Peer Provider) with offers := peer.offers }
  | .prepareOffer =>
      { peer with
        skeleton := none
        cleared := fun _ => false
        offers := peer.offers + 1
        isPrepared := false
        foundLocked := false }
  | .register _ => { peer with skeleton := none }
  | .prepareStopOffer =>
      { peer with
        skeleton := none, isOffered := false, isPrepared := false, foundLocked := false }
  | .createProxy _ => { peer with proxy := none }
  | .destroyProxy => { peer with proxy := none }
  | .getEventControl _ => { peer with proxy := none }
  | .getRawDataStorage _ => { peer with proxy := none }

/-- A call hands the Skeleton or the Proxy back. -/
def onReturn (peer : Peer Provider) : ServiceReply Provider → Peer Provider
  | .offered result skeleton =>
      { peer with
        skeleton := some skeleton
        mapped := skeleton.pointer
        isOffered := peer.isOffered || result
        isPrepared := result }
  | .skeleton (some skeleton) =>
      { peer with skeleton := some skeleton, mapped := skeleton.pointer }
  | .skeleton none => peer
  | .proxy proxy => { peer with proxy := some proxy }

end Peer

section Role

variable (Provider Consumer : Type) {Element : Type} [DecidableEq Provider]
  [DecidableEq Consumer] [DecidableEq Element]

/-- A provider calls its Skeleton, a consumer its Proxy. -/
def ServiceCall.mayStart (deployment : ServiceDeployment Element) :
    Provider ⊕ Consumer → Peer Provider → ServiceCall Element → Bool
  | .inl _, peer, .createSkeleton => !peer.isLive
  | .inl _, peer, .destroySkeleton => peer.skeleton.isSome
  | .inl _, peer, .prepareOffer => peer.skeleton.isSome
  | .inl _, peer, .register element =>
      peer.skeleton.isSome && peer.isPrepared && decide (element ∈ deployment.elements)
  | .inl _, peer, .prepareStopOffer => peer.skeleton.isSome && peer.isOffered
  | .inr _, peer, .createProxy _ => peer.proxy.any Option.isNone
  | .inr _, peer, .destroyProxy => peer.proxy.any Option.isSome
  | .inr _, peer, .getEventControl element =>
      peer.proxy.any Option.isSome && decide (element ∈ deployment.elements)
  | .inr _, peer, .getRawDataStorage element =>
      peer.proxy.any Option.isSome && decide (element ∈ deployment.elements)
  | _, _, _ => false

/-- The program behind a call on a Skeleton. -/
def AttachedSkeleton.code {Provider : Type} (deployment : ServiceDeployment Element)
    (incarnation : Incarnation Provider) (skeleton : AttachedSkeleton Provider) :
    ServiceCall Element → ServiceProgram Provider Element (ServiceReply Provider)
  | .prepareOffer => do
      let (result, skeleton) ← Lola.prepareOffer deployment.hasAsilBSupport incarnation skeleton
      pure (.offered result skeleton)
  | .register element => do
      Lola.register deployment.hasAsilBSupport skeleton element
      pure (.skeleton (some skeleton))
  | .prepareStopOffer => do
      let skeleton ← Lola.prepareStopOffer skeleton
      pure (.skeleton (some skeleton))
  | _ => pure (.skeleton none)

/-- The program behind a call on a Proxy. -/
def AttachedProxy.code {Provider : Type} (proxy : AttachedProxy Provider) :
    ServiceCall Element → ServiceProgram Provider Element (ServiceReply Provider)
  | .getEventControl element => do
      Lola.getEventControl proxy element
      pure (.proxy (some proxy))
  | .getRawDataStorage element => do
      Lola.getRawDataStorage proxy element
      pure (.proxy (some proxy))
  | _ => do
      proxy.destroy
      pure (.proxy none)

/-- The providers and the consumers of a service instance. -/
def serviceRole (deployment : ServiceDeployment Element) :
    Role (Provider ⊕ Consumer) (ServiceOp Provider Element) ServiceOp.Ret
      (ServiceMemory Provider Consumer Element) (Peer Provider) (ServiceCall Element)
      (ServiceReply Provider) where
  outcomes party op memory := op.outcomes party memory
  mayCall party peer call := call.mayStart Provider Consumer deployment party peer = true
  code party peer call :=
    match party, call with
    | .inl _, .createSkeleton => pure (.skeleton (some .fresh))
    | .inl provider, call =>
        match peer.skeleton with
        | some skeleton => skeleton.code deployment (provider, peer.offers + 1) call
        | none => pure (.skeleton none)
    | .inr _, .createProxy quality => do pure (.proxy (← Lola.createProxy quality))
    | .inr _, call =>
        match peer.proxy.join with
        | some proxy => proxy.code call
        | none => pure (.proxy none)
  onCall := Peer.onCall
  observe := Peer.observe
  onReturn peer _ reply := peer.onReturn reply
  release killed memory := { memory with files := memory.files.release killed }

instance (deployment : ServiceDeployment Element) (party : Provider ⊕ Consumer)
    (peer : Peer Provider) (call : ServiceCall Element) :
    Decidable ((serviceRole Provider Consumer deployment).mayCall party peer call) :=
  inferInstanceAs (Decidable (_ = true))

/-- Nothing was offered yet. -/
def serviceStart (deployment : ServiceDeployment Element) :
    (serviceRole Provider Consumer deployment).State where
  memory := ⟨⟨.empty, fun _ => none, fun _ _ => []⟩, fun _ => false⟩
  object _ := .fresh
  activity _ := .idle

end Role

variable {Provider Consumer Element : Type} [DecidableEq Provider] [DecidableEq Consumer]
  [DecidableEq Element] {deployment : ServiceDeployment Element}

/-- A Skeleton is created only while no other one of the instance is live. -/
def OneLiveSkeleton (deployment : ServiceDeployment Element)
    (config : (serviceRole Provider Consumer deployment).State) :
    (serviceRole Provider Consumer deployment).Move → Prop
  | .call (.inl provider) .createSkeleton =>
      ∀ other, other ≠ provider → config.memory.isDead (.inl other) = false →
        (config.object (.inl other)).isLive = false
  | _ => True

instance [Fintype Provider] (config : (serviceRole Provider Consumer deployment).State) :
    (move : (serviceRole Provider Consumer deployment).Move) →
      Decidable (OneLiveSkeleton deployment config move)
  | .call (.inl _) .createSkeleton => inferInstanceAs (Decidable (∀ _, _))
  | .call (.inl _) .destroySkeleton => isTrue trivial
  | .call (.inl _) .prepareOffer => isTrue trivial
  | .call (.inl _) (.register _) => isTrue trivial
  | .call (.inl _) .prepareStopOffer => isTrue trivial
  | .call (.inl _) (.createProxy _) => isTrue trivial
  | .call (.inl _) .destroyProxy => isTrue trivial
  | .call (.inl _) (.getEventControl _) => isTrue trivial
  | .call (.inl _) (.getRawDataStorage _) => isTrue trivial
  | .call (.inr _) _ => isTrue trivial
  | .perform _ _ _ => isTrue trivial
  | .finish _ _ _ => isTrue trivial
  | .crash _ => isTrue trivial
  | .environment => isTrue trivial

/-- The consumer lives and has its lock on the usage marker file. -/
def IsSharing (config : (serviceRole Provider Consumer deployment).State) (consumer : Consumer) :
    Prop :=
  config.memory.isDead (.inr consumer) = false ∧ (config.object (.inr consumer)).lock.isSome = true

/-- The provider lives, is past a PrepareOffer and not yet in its PrepareStopOffer. -/
def IsOffering (config : (serviceRole Provider Consumer deployment).State) (provider : Provider) :
    Prop :=
  config.memory.isDead (.inl provider) = false ∧ (config.object (.inl provider)).isOffered = true

instance (config : (serviceRole Provider Consumer deployment).State) (consumer : Consumer) :
    Decidable (IsSharing config consumer) :=
  inferInstanceAs (Decidable (_ ∧ _))

instance (config : (serviceRole Provider Consumer deployment).State) (provider : Provider) :
    Decidable (IsOffering config provider) :=
  inferInstanceAs (Decidable (_ ∧ _))

/-- The law: what a consumer with its lock has opened stays under its path and belongs to
one incarnation, and an offering provider uses the same objects. -/
structure AttachmentAgreement (config : (serviceRole Provider Consumer deployment).State) :
    Prop where
  kept : ∀ consumer path incarnation, IsSharing config consumer →
    (config.object (.inr consumer)).mapped path = some incarnation →
      config.memory.memory.named path = some incarnation
  same : ∀ consumer one two first second, IsSharing config consumer →
    (config.object (.inr consumer)).mapped one = some first →
      (config.object (.inr consumer)).mapped two = some second → first = second
  provider : ∀ provider consumer path incarnation, IsOffering config provider →
    IsSharing config consumer → (config.object (.inr consumer)).mapped path = some incarnation →
        (config.object (.inl provider)).mapped path = some incarnation

/-- The objects that an offer creates are there and contain every element. -/
def CompleteMemory (deployment : ServiceDeployment Element)
    (memory : ServiceMemory Provider Consumer Element) : Prop :=
  ∀ path, deployment.has path = true → ∃ incarnation, memory.named path = some incarnation ∧
    ∀ table, table.path = path → ∀ element ∈ deployment.elements,
      element ∈ memory.entries table incarnation

omit [DecidableEq Provider] [DecidableEq Consumer] in
/-- Going through all objects, tables and elements. -/
theorem completeMemory_iff {memory : ServiceMemory Provider Consumer Element} :
    CompleteMemory deployment memory ↔
      ∀ path ∈ [ShmPath.control .asilQm, .control .asilB, .data], deployment.has path = true →
        (memory.named path).any (fun incarnation =>
          [ElementTable.eventControls .asilQm, .eventControls .asilB, .events,
            .eventsMetainfo].all fun table =>
              decide (table.path = path → ∀ element ∈ deployment.elements,
                element ∈ memory.entries table incarnation)) = true := by
  have allTables : ∀ table : ElementTable, table ∈ [ElementTable.eventControls .asilQm,
      .eventControls .asilB, .events, .eventsMetainfo] := by
    intro table
    cases table with
    | eventControls quality => cases quality <;> simp
    | events => simp
    | eventsMetainfo => simp
  have allPaths : ∀ path : ShmPath, path ∈ [ShmPath.control .asilQm, .control .asilB, .data] := by
    intro path
    cases path with
    | control quality => cases quality <;> simp
    | data => simp
  constructor
  · intro complete path _ has
    obtain ⟨incarnation, named, contains⟩ := complete path has
    rw [named]
    simp only [Option.any_some, List.all_eq_true, decide_eq_true_eq]
    exact fun table _ => contains table
  · intro complete path has
    obtain ⟨incarnation, named, contains⟩ :=
      (Option.any_eq_true _ _).mp (complete path (allPaths path) has)
    simp only [List.all_eq_true, decide_eq_true_eq] at contains
    exact ⟨incarnation, named, fun table => contains table (allTables table)⟩

instance (memory : ServiceMemory Provider Consumer Element) :
    Decidable (CompleteMemory deployment memory) :=
  decidable_of_iff _ completeMemory_iff.symm

/-! ## What each of them keeps

With `guarded`, consumers take their locks only where the memory is complete. -/

/-- What the members of a Skeleton between two calls have to do with its past. -/
structure HandsBack (skeleton : AttachedSkeleton Provider) (peer : Peer Provider) : Prop where
  isLive : peer.isLive = true
  lock : peer.lock = none
  refers : ∀ path incarnation, skeleton.pointer path = some incarnation →
    peer.mapped path = some incarnation
  offered : peer.isOffered = true → skeleton.pointer = peer.mapped
  marker : ∀ markerFile, skeleton.serviceInstanceUsageMarkerFile = some markerFile →
    peer.marker = some markerFile.file

/-- What a provider that lives relies on. -/
structure SkeletonKeeps (deployment : ServiceDeployment Element) (guarded : Prop)
    (memory : ServiceMemory Provider Consumer Element) (provider : Provider)
    (peer : Peer Provider) : Prop where
  marker : ∀ file, peer.marker = some file → memory.files.named () = some file
  lock : ∀ file mode, peer.lock = some (file, mode) → mode = .exclusive ∧ peer.isLive = true ∧
    memory.files.named () = some file
  has : ∀ path incarnation, peer.mapped path = some incarnation → deployment.has path = true
  agrees : peer.isLive = true → ∀ path first second, peer.mapped path = some first →
    memory.named path = some second → first = second
  cleared : peer.isLive = true → ∀ path incarnation, peer.cleared path = true →
    memory.named path = some incarnation → incarnation = (provider, peer.offers)
  offered : peer.isOffered = true → peer.isLive = true ∧
    ∀ path, deployment.has path = true → (peer.mapped path).isSome = true
  found : guarded → peer.isLive = true → peer.foundLocked = true → CompleteMemory deployment memory
  rest : ∀ skeleton, peer.skeleton = some skeleton → HandsBack skeleton peer ∧
    skeleton.pointer = peer.mapped ∧
    (peer.isPrepared = true → peer.isOffered = true ∧
      skeleton.wasOldShmRegionReopened = peer.foundLocked)

/-- What a consumer has between two calls: nothing, or a Proxy and its lock. -/
def ProxyBacks : Option (AttachedProxy Provider) → Peer Provider → Prop
  | none, peer => peer.lock = none
  | some proxy, peer =>
      peer.lock = some (proxy.serviceInstanceUsageMarkerFile.file, .shared) ∧
        peer.mapped (.control proxy.quality) = some proxy.control ∧
        peer.mapped .data = some proxy.data

/-- What a consumer that lives relies on. -/
structure ProxyKeeps (deployment : ServiceDeployment Element) (guarded : Prop)
    (memory : ServiceMemory Provider Consumer Element) (peer : Peer Provider) : Prop where
  marker : ∀ file, peer.marker = some file → memory.files.named () = some file
  lock : ∀ file mode, peer.lock = some (file, mode) → mode = .shared ∧
    memory.files.named () = some file
  unlocked : peer.lock = none → ∀ path, peer.mapped path = none
  kept : ∀ path incarnation, peer.mapped path = some incarnation →
    memory.named path = some incarnation
  complete : guarded → peer.lock.isSome = true → CompleteMemory deployment memory
  rest : ∀ held, peer.proxy = some held → ProxyBacks held peer

/-- What a party that lives relies on. -/
abbrev PartyKeeps (deployment : ServiceDeployment Element) (guarded : Prop)
    (memory : ServiceMemory Provider Consumer Element) :
    Provider ⊕ Consumer → Peer Provider → Prop
  | .inl provider, peer => SkeletonKeeps deployment guarded memory provider peer
  | .inr _, peer => ProxyKeeps deployment guarded memory peer

/-- The invariant: the locks are those of the parties that live, there is one Skeleton,
and all objects under the paths belong to one incarnation. -/
structure PeersInv (deployment : ServiceDeployment Element) (guarded : Prop)
    (memory : ServiceMemory Provider Consumer Element) (isDead : Provider ⊕ Consumer → Bool)
    (peer : Provider ⊕ Consumer → Peer Provider) : Prop where
  wellLocked : memory.files.WellLocked
  holds : ∀ party file mode, memory.files.Holds file party mode ↔
    isDead party = false ∧ (peer party).lock = some (file, mode)
  oneLive : ∀ one two, isDead (.inl one) = false → isDead (.inl two) = false →
    (peer (.inl one)).isLive = true → (peer (.inl two)).isLive = true → one = two
  same : ∀ one two first second, memory.named one = some first →
    memory.named two = some second → first = second
  has : ∀ path incarnation, memory.named path = some incarnation → deployment.has path = true
  keeps : ∀ party, isDead party = false → PartyKeeps deployment guarded memory party (peer party)

/-- The law follows from the invariant. -/
theorem PeersInv.agreement {config : (serviceRole Provider Consumer deployment).State}
    {guarded : Prop} (inv : PeersInv deployment guarded config.memory.memory config.memory.isDead
      config.object) : AttachmentAgreement config where
  kept consumer path incarnation shares mapped :=
    (inv.keeps (.inr consumer) shares.1).kept path incarnation mapped
  same consumer one two first second shares mappedOne mappedTwo := by
    have keeps := inv.keeps (.inr consumer) shares.1
    exact inv.same one two first second (keeps.kept one first mappedOne)
      (keeps.kept two second mappedTwo)
  provider provider consumer path incarnation offers shares mapped := by
    have named := (inv.keeps (.inr consumer) shares.1).kept path incarnation mapped
    have keeps := inv.keeps (.inl provider) offers.1
    obtain ⟨isLive, attached⟩ := keeps.offered offers.2
    obtain ⟨other, refers⟩ := Option.isSome_iff_exists.mp
      (attached path (inv.has path incarnation named))
    rw [refers, keeps.agrees isLive path other incarnation refers named]

/-- The rules of a provider on its operations. -/
def skeletonMay (deployment : ServiceDeployment Element) (guarded : Prop) (provider : Provider)
    (peer : Peer Provider) : ServiceOp Provider Element → Prop
  | .onFile (.tryLock file mode) =>
      peer.marker = some file ∧ mode = .exclusive ∧ peer.lock = none ∧ peer.isLive = true
  | .onFile (.unlock file) => peer.lock = some (file, .exclusive)
  | .onFile (.unlink _) => False
  | .remove _ =>
      (∃ file, peer.lock = some (file, .exclusive)) ∧ peer.foundLocked = false
  | .create path incarnation =>
      (∃ file, peer.lock = some (file, .exclusive)) ∧ peer.foundLocked = false ∧
        (∀ other, peer.cleared other = true) ∧ deployment.has path = true ∧
        incarnation = (provider, peer.offers)
  | .terminate => guarded → peer.foundLocked = false
  | _ => True

/-- The rules of a consumer on its operations. -/
def proxyMay (guarded : Prop) (peer : Peer Provider) : ServiceOp Provider Element → Prop
  | .onFile (.open _) => True
  | .onFile (.tryLock file mode) =>
      peer.marker = some file ∧ mode = .shared ∧ peer.lock = none
  | .onFile (.unlock file) => peer.lock = some (file, .shared)
  | .open _ => peer.lock.isSome = true
  | .find _ _ _ => True
  | .partialRestart => True
  | .terminate => ¬ guarded
  | _ => False

/-- What a party that found or has the usage marker locked finds in the memory. -/
def peerExpects (deployment : ServiceDeployment Element) (guarded : Prop) (relies : Prop)
    (peer : Peer Provider) : (op : ServiceOp Provider Element) → op.Ret → Prop
  | .open path, (found : Option (Incarnation Provider)) =>
      guarded → relies → deployment.has path = true → found.isSome = true
  | .find table incarnation element, (found : Bool) =>
      guarded → relies → peer.mapped table.path = some incarnation →
        element ∈ deployment.elements → found = true
  | _, _ => True

/-- What a provider hands back. -/
def skeletonPost (deployment : ServiceDeployment Element) (guarded : Prop) :
    ServiceReply Provider → Peer Provider → Prop
  | .offered result skeleton, peer =>
      HandsBack skeleton peer ∧ skeleton.pointer = peer.mapped ∧
        (result = true → skeleton.wasOldShmRegionReopened = peer.foundLocked ∧
          ∀ path, deployment.has path = true → (peer.mapped path).isSome = true) ∧
        (guarded → peer.foundLocked = true → result = true)
  | .skeleton (some skeleton), peer =>
      HandsBack skeleton peer ∧ (peer.isPrepared = true → peer.isOffered = true ∧
        skeleton.wasOldShmRegionReopened = peer.foundLocked)
  | .skeleton none, _ => True
  | .proxy _, _ => False

/-- The rules of the parties. -/
def peerManners (deployment : ServiceDeployment Element) (guarded : Prop) :
    (serviceRole Provider Consumer deployment).Manners where
  may party peer op :=
    match party with
    | .inl provider => peer.skeleton = none ∧ skeletonMay deployment guarded provider peer op
    | .inr _ => peer.proxy = none ∧ proxyMay guarded peer op
  expects party peer op answer :=
    match party with
    | .inl _ =>
        peerExpects deployment guarded (peer.isLive = true ∧ peer.foundLocked = true) peer op
          answer
    | .inr _ => peerExpects deployment guarded (peer.lock.isSome = true) peer op answer
  post party _ reply peer :=
    match party with
    | .inl _ => skeletonPost deployment guarded reply peer
    | .inr _ => ∃ held, reply = .proxy held ∧ ProxyBacks held peer

end MwCom.Lola
