/-
Module: MwCom.Lola.PeerSteps
Purpose: What one operation of a provider or a consumer makes of the invariant of a
  service instance.
Trusted boundary: none
Main exports: Extends, skeletonKeeps_observe, proxyKeeps_observe, LocksComplete,
  peersInv_perform
-/
import MwCom.Lola.ServicePeers

namespace MwCom.Lola

open Interleaving Locking Function

variable {Provider Consumer Element : Type} [DecidableEq Provider] [DecidableEq Consumer]
  [DecidableEq Element] {deployment : ServiceDeployment Element}

/-! ## Steps that leave the objects under their paths -/

/-- Names stay, and tables only grow. -/
structure Extends (before after : ServiceMemory Provider Consumer Element) : Prop where
  marker : ∀ file, before.files.named () = some file → after.files.named () = some file
  named : after.named = before.named
  entries : ∀ table incarnation element, element ∈ before.entries table incarnation →
    element ∈ after.entries table incarnation

section Extends

variable {before after memory : ServiceMemory Provider Consumer Element} {guarded : Prop}

omit [DecidableEq Provider] [DecidableEq Consumer] [DecidableEq Element]

theorem Extends.complete (extends_ : Extends before after)
    (complete : CompleteMemory deployment before) : CompleteMemory deployment after := by
  intro path has
  obtain ⟨incarnation, named, contains⟩ := complete path has
  refine ⟨incarnation, ?_, ?_⟩
  · rw [extends_.named]
    exact named
  · intro table isTable element isElement
    exact extends_.entries table incarnation element (contains table isTable element isElement)

theorem SkeletonKeeps.extend {provider : Provider} {peer : Peer Provider}
    (keeps : SkeletonKeeps deployment guarded before provider peer)
    (extends_ : Extends before after) :
    SkeletonKeeps deployment guarded after provider peer where
  marker file opened := extends_.marker file (keeps.marker file opened)
  lock file mode locked := by
    obtain ⟨isExclusive, isLive, named⟩ := keeps.lock file mode locked
    exact ⟨isExclusive, isLive, extends_.marker file named⟩
  has := keeps.has
  agrees := by
    rw [extends_.named]
    exact keeps.agrees
  cleared := by
    rw [extends_.named]
    exact keeps.cleared
  offered := keeps.offered
  found safe isLive locked := extends_.complete (keeps.found safe isLive locked)
  rest := keeps.rest

theorem ProxyKeeps.extend {peer : Peer Provider}
    (keeps : ProxyKeeps deployment guarded before peer) (extends_ : Extends before after) :
    ProxyKeeps deployment guarded after peer where
  marker file opened := extends_.marker file (keeps.marker file opened)
  lock file mode locked := by
    obtain ⟨isShared, named⟩ := keeps.lock file mode locked
    exact ⟨isShared, extends_.marker file named⟩
  unlocked := keeps.unlocked
  kept := by
    rw [extends_.named]
    exact keeps.kept
  complete safe shares := extends_.complete (keeps.complete safe shares)
  rest := keeps.rest

end Extends

/-- The operations that change what is under a path. -/
def ServiceOp.isRenaming : ServiceOp Provider Element → Bool
  | .onFile (.unlink _) => true
  | .remove _ => true
  | .create _ _ => true
  | _ => false

section Operations

variable {party : Provider ⊕ Consumer} {before after : ServiceMemory Provider Consumer Element}

/-- What an operation on the marker file makes of memory. -/
theorem onFile_outcome {op : FileOp Unit} {answer : op.Ret}
    (outcome : (answer, after) ∈ (ServiceOp.onFile op : ServiceOp Provider Element).outcomes
      party before) :
    ∃ files, (answer, files) ∈ op.outcomes party before.files ∧
      after = { before with files := files } := by
  obtain ⟨⟨given, files⟩, possible, same⟩ := List.mem_map.mp outcome
  cases same
  exact ⟨files, possible, rfl⟩

theorem extends_of_outcome {op : ServiceOp Provider Element} {answer : op.Ret}
    (outcome : (answer, after) ∈ op.outcomes party before) (keepsNames : op.isRenaming = false) :
    Extends before after := by
  have unchanged : Extends before before :=
    ⟨fun _ leads => leads, rfl, fun _ _ _ entered => entered⟩
  cases op with
  | onFile op =>
      obtain ⟨files, possible, rfl⟩ := onFile_outcome outcome
      constructor
      · intro file leads
        apply outcomes_keep_names possible ?_ leads
        intro path same
        subst same
        cases keepsNames
      · rfl
      · exact fun _ _ _ entered => entered
  | remove path | create path incarnation => cases keepsNames
  | «open» path =>
      cases List.mem_singleton.mp outcome
      exact unchanged
  | emplace table incarnation element =>
      rw [ServiceOp.outcomes] at outcome
      split at outcome
      · cases List.mem_singleton.mp outcome
        exact unchanged
      · cases List.mem_singleton.mp outcome
        constructor
        · exact fun _ leads => leads
        · rfl
        · intro at_ other entry entered
          simp only [ServiceMemory.emplace]
          split
          · exact List.mem_cons_of_mem element entered
          · exact entered
  | find table incarnation element =>
      cases List.mem_singleton.mp outcome
      exact unchanged
  | partialRestart =>
      rcases List.mem_cons.mp outcome with same | rest
      · cases same
        exact unchanged
      · cases List.mem_singleton.mp rest
        exact unchanged
  | terminate => cases outcome

end Operations

/-! ## Locks -/

omit [DecidableEq Provider] [DecidableEq Consumer] [DecidableEq Element] in
theorem unlocked_lock (peer : Peer Provider) : peer.unlocked.lock = none := by
  unfold Peer.unlocked
  split <;> rfl

omit [DecidableEq Element] in
/-- The locks remain those of the parties that live. -/
theorem holds_of_onFile {party : Provider ⊕ Consumer}
    {before after : LockedFiles Unit (Provider ⊕ Consumer)}
    {isDead : Provider ⊕ Consumer → Bool} {peer : Provider ⊕ Consumer → Peer Provider}
    {op : FileOp Unit} {answer : op.Ret} (holds : ∀ other file mode, before.Holds file other mode ↔
      isDead other = false ∧ (peer other).lock = some (file, mode))
    (lives : isDead party = false) (outcome : (answer, after) ∈ op.outcomes party before)
    (attempts : ∀ file mode, op = .tryLock file mode → (peer party).lock = none)
    (gives : ∀ file, op = .unlock file → ∃ mode, (peer party).lock = some (file, mode)) :
    ∀ other file mode, after.Holds file other mode ↔ isDead other = false ∧ (update peer party
          ((peer party).observe (.onFile op : ServiceOp Provider Element) answer) other).lock =
            some (file, mode) := by
  intro other file mode
  by_cases same : other = party
  · subst same
    rw [update_self]
    have own := holds other
    cases op with
    | «open» path =>
        have kept : after = before := by
          rcases List.mem_cons.mp outcome with same | rest
          · exact congrArg Prod.snd same
          · exact congrArg Prod.snd (List.mem_singleton.mp rest)
        rw [kept]
        exact own file mode
    | openOrCreate path =>
        rcases List.mem_cons.mp outcome with same | rest
        · cases same
          rw [LockedFiles.openOrCreate_holds]
          exact own file mode
        · cases List.mem_singleton.mp rest
          exact own file mode
    | tryLock tried kind =>
        have noLock := attempts tried kind rfl
        obtain rfl | rfl := Bool.eq_false_or_eq_true answer
        · rw [FileOp.outcomes] at outcome
          split at outcome
          · rename_i free
            cases List.mem_singleton.mp outcome
            rw [LockedFiles.lock_own free, own file mode, noLock]
            simp [Peer.observe, lives, eq_comm]
          · cases List.mem_singleton.mp outcome
        · obtain ⟨_, rfl⟩ := unchanged_of_tryLock outcome
          exact own file mode
    | unlock given =>
        obtain ⟨kind, locked⟩ := gives given rfl
        cases List.mem_singleton.mp outcome
        rw [LockedFiles.unlock_own, own file mode, locked]
        simp only [Peer.observe, unlocked_lock]
        constructor
        · rintro ⟨⟨_, same⟩, distinct⟩
          cases same
          exact absurd rfl distinct
        · rintro ⟨_, none⟩
          cases none
    | unlink path =>
        cases List.mem_singleton.mp outcome
        rw [LockedFiles.unlink_holds]
        exact own file mode
  · rw [update_of_ne same, outcomes_others outcome same]
    exact holds other file mode

/-! ## What an operation makes of its party -/

section Own

variable {before after : ServiceMemory Provider Consumer Element} {guarded : Prop}
  {peer : Peer Provider}

omit [DecidableEq Provider] [DecidableEq Consumer] [DecidableEq Element] in
/-- A provider that gets hold of another object under a path. -/
theorem SkeletonKeeps.attach {provider : Provider} {path : ShmPath}
    {incarnation : Incarnation Provider}
    (keeps : SkeletonKeeps deployment guarded before provider peer)
    (noSkeleton : peer.skeleton = none) (has : deployment.has path = true)
    (named : before.named path = some incarnation) :
    SkeletonKeeps deployment guarded before provider (peer.attach path incarnation) where
  marker := keeps.marker
  lock := keeps.lock
  has other found mapped := by
    by_cases same : other = path
    · rw [same]
      exact has
    · rw [Peer.attach_of_ne peer incarnation same] at mapped
      exact keeps.has other found mapped
  agrees isLive other first second mapped := by
    by_cases same : other = path
    · subst same
      rw [Peer.attach_self] at mapped
      intro leads
      rw [named, mapped] at leads
      exact Option.some.inj leads
    · rw [Peer.attach_of_ne peer incarnation same] at mapped
      exact keeps.agrees isLive other first second mapped
  cleared := keeps.cleared
  offered isOffered := by
    obtain ⟨isLive, attached⟩ := keeps.offered isOffered
    refine ⟨isLive, ?_⟩
    intro other isOwn
    by_cases same : other = path
    · subst same
      simp [Peer.attach_self]
    · rw [Peer.attach_of_ne peer incarnation same]
      exact attached other isOwn
  found := keeps.found
  rest skeleton atRest := by
    have none : peer.skeleton = some skeleton := atRest
    rw [noSkeleton] at none
    cases none

/-- What an operation that leaves the paths alone makes of the provider. -/
theorem skeletonKeeps_observe {provider : Provider} {op : ServiceOp Provider Element}
    {answer : op.Ret} (keeps : SkeletonKeeps deployment guarded before provider peer)
    (known : ∀ path incarnation, before.named path = some incarnation → deployment.has path = true)
    (noSkeleton : peer.skeleton = none) (may : skeletonMay deployment guarded provider peer op)
    (outcome : (answer, after) ∈ op.outcomes (.inl provider) before)
    (keepsNames : op.isRenaming = false)
    (found : guarded → peer.isLive = true → (peer.observe op answer).foundLocked = true →
      CompleteMemory deployment after) :
    SkeletonKeeps deployment guarded after provider (peer.observe op answer) := by
  have extended := keeps.extend (extends_of_outcome outcome keepsNames)
  have noRest : ∀ moved : Peer Provider, moved.skeleton = peer.skeleton → ∀ skeleton,
      moved.skeleton = some skeleton → False := by
    intro moved same skeleton atRest
    rw [same, noSkeleton] at atRest
    cases atRest
  cases op with
  | onFile op =>
      obtain ⟨files, possible, rfl⟩ := onFile_outcome outcome
      cases op with
      | «open» path =>
          have marked : ∀ file, answer = some file → files.named () = some file := by
            intro file opened
            rw [opened] at possible
            obtain ⟨leads, kept⟩ := named_of_open possible
            rw [kept]
            exact leads
          exact ⟨marked, extended.lock, extended.has, extended.agrees, extended.cleared,
            extended.offered, extended.found,
            fun skeleton atRest => (noRest _ rfl skeleton atRest).elim⟩
      | openOrCreate path =>
          have marked : ∀ file, answer = some file → files.named () = some file := by
            intro file opened
            rw [opened] at possible
            exact named_of_openOrCreate possible
          exact ⟨marked, extended.lock, extended.has, extended.agrees, extended.cleared,
            extended.offered, extended.found,
            fun skeleton atRest => (noRest _ rfl skeleton atRest).elim⟩
      | tryLock file mode =>
          obtain ⟨opened, rfl, noLock, isLive⟩ := may
          obtain rfl | rfl := Bool.eq_false_or_eq_true answer
          · have locks : ∀ other mode, some (file, Mode.exclusive) = some (other, mode) →
                mode = .exclusive ∧ peer.isLive = true ∧ files.named () = some other := by
              intro other mode same
              cases same
              exact ⟨rfl, isLive, extended.marker file opened⟩
            exact ⟨extended.marker, locks, extended.has, extended.agrees, extended.cleared,
              extended.offered, extended.found,
              fun skeleton atRest => (noRest _ rfl skeleton atRest).elim⟩
          · exact ⟨extended.marker, extended.lock, extended.has, extended.agrees,
              extended.cleared, extended.offered, fun safe isLive _ => found safe isLive rfl,
              fun skeleton atRest => (noRest _ rfl skeleton atRest).elim⟩
      | unlock file =>
          have locked : peer.lock = some (file, .exclusive) := may
          have same : peer.observe (.onFile (.unlock file) : ServiceOp Provider Element) answer =
              { peer with lock := none } := by
            simp only [Peer.observe, Peer.unlocked, locked]
          have noLock : ∀ other mode, (none : Option (Nat × Mode)) = some (other, mode) →
              mode = .exclusive ∧ peer.isLive = true ∧ files.named () = some other := by
            intro other mode none
            cases none
          rw [same]
          exact ⟨extended.marker, noLock, extended.has, extended.agrees,
            extended.cleared, extended.offered, extended.found,
            fun skeleton atRest => (noRest _ rfl skeleton atRest).elim⟩
      | unlink path => cases keepsNames
  | remove path | create path incarnation => cases keepsNames
  | «open» path =>
      cases List.mem_singleton.mp outcome
      cases named : before.named path with
      | none => exact extended
      | some incarnation =>
          exact extended.attach noSkeleton (known path incarnation named) named
  | emplace table incarnation element | find table incarnation element | partialRestart =>
      exact extended
  | terminate => cases outcome

end Own

/-! ## Steps that change what is under a path -/

section Renaming

variable {before after : ServiceMemory Provider Consumer Element} {guarded : Prop}
  {peer : Peer Provider} {provider : Provider} {path : ShmPath}

omit [DecidableEq Provider] [DecidableEq Consumer] [DecidableEq Element]

/-- A provider whose Skeleton is gone does not rely on what is under the paths. -/
theorem SkeletonKeeps.notLive (keeps : SkeletonKeeps deployment guarded before provider peer)
    (notLive : peer.isLive = false) (files : after.files = before.files) :
    SkeletonKeeps deployment guarded after provider peer where
  marker := by
    rw [files]
    exact keeps.marker
  lock := by
    rw [files]
    exact keeps.lock
  has := keeps.has
  agrees isLive := by
    rw [notLive] at isLive
    cases isLive
  cleared isLive := by
    rw [notLive] at isLive
    cases isLive
  offered := keeps.offered
  found _ isLive := by
    rw [notLive] at isLive
    cases isLive
  rest := keeps.rest

/-- Nor does a consumer without a lock. -/
theorem ProxyKeeps.notSharing (keeps : ProxyKeeps deployment guarded before peer)
    (noLock : peer.lock = none) (files : after.files = before.files) :
    ProxyKeeps deployment guarded after peer where
  marker := by
    rw [files]
    exact keeps.marker
  lock := by
    rw [files]
    exact keeps.lock
  unlocked := keeps.unlocked
  kept other incarnation mapped := by
    rw [keeps.unlocked noLock other] at mapped
    cases mapped
  complete _ shares := by
    rw [noLock] at shares
    cases shares
  rest := keeps.rest

/-- The provider removes an object. -/
theorem SkeletonKeeps.remove (keeps : SkeletonKeeps deployment guarded before provider peer)
    (noSkeleton : peer.skeleton = none) (unlocked : peer.foundLocked = false) :
    SkeletonKeeps deployment guarded (before.remove path) provider
      { peer with cleared := update peer.cleared path true } where
  marker := keeps.marker
  lock := keeps.lock
  has := keeps.has
  agrees isLive other first second mapped named := by
    by_cases same : other = path
    · subst same
      simp [ServiceMemory.remove] at named
    · simp only [ServiceMemory.remove, update_of_ne same] at named
      exact keeps.agrees isLive other first second mapped named
  cleared isLive other incarnation cleared named := by
    by_cases same : other = path
    · subst same
      simp [ServiceMemory.remove] at named
    · simp only [ServiceMemory.remove, update_of_ne same] at named cleared
      exact keeps.cleared isLive other incarnation cleared named
  offered := keeps.offered
  found _ _ isFound := by
    rw [unlocked] at isFound
    cases isFound
  rest skeleton atRest := by
    rw [noSkeleton] at atRest
    cases atRest

/-- The provider creates an object of its own incarnation. -/
theorem SkeletonKeeps.create [DecidableEq Provider]
    (keeps : SkeletonKeeps deployment guarded before provider peer)
    (noSkeleton : peer.skeleton = none) (unlocked : peer.foundLocked = false)
    (has : deployment.has path = true) :
    SkeletonKeeps deployment guarded (before.create path (provider, peer.offers)) provider
      (peer.attach path (provider, peer.offers)) where
  marker := keeps.marker
  lock := keeps.lock
  has other found mapped := by
    by_cases same : other = path
    · rw [same]
      exact has
    · rw [Peer.attach_of_ne peer _ same] at mapped
      exact keeps.has other found mapped
  agrees isLive other first second mapped named := by
    by_cases same : other = path
    · subst same
      rw [Peer.attach_self] at mapped
      simp only [ServiceMemory.create, update_self] at named
      rw [mapped] at named
      exact Option.some.inj named
    · rw [Peer.attach_of_ne peer _ same] at mapped
      simp only [ServiceMemory.create, update_of_ne same] at named
      exact keeps.agrees isLive other first second mapped named
  cleared isLive other incarnation cleared named := by
    by_cases same : other = path
    · subst same
      simp only [ServiceMemory.create, update_self] at named
      exact (Option.some.inj named).symm
    · simp only [ServiceMemory.create, update_of_ne same] at named
      exact keeps.cleared isLive other incarnation cleared named
  offered isOffered := by
    obtain ⟨isLive, attached⟩ := keeps.offered isOffered
    refine ⟨isLive, ?_⟩
    intro other isOwn
    by_cases same : other = path
    · subst same
      simp [Peer.attach_self]
    · rw [Peer.attach_of_ne peer _ same]
      exact attached other isOwn
  found _ _ isFound := by
    have isFound : peer.foundLocked = true := isFound
    rw [unlocked] at isFound
    cases isFound
  rest skeleton atRest := by
    have none : peer.skeleton = some skeleton := atRest
    rw [noSkeleton] at none
    cases none

end Renaming

/-! ## What an operation makes of a consumer -/

section Consumers

variable {before after : ServiceMemory Provider Consumer Element} {guarded : Prop}
  {peer : Peer Provider}

/-- What an operation of a consumer makes of it; `complete` is where it gets its lock. -/
theorem proxyKeeps_observe {consumer : Consumer} {op : ServiceOp Provider Element}
    {answer : op.Ret} (keeps : ProxyKeeps deployment guarded before peer)
    (noProxy : peer.proxy = none) (may : proxyMay guarded peer op)
    (outcome : (answer, after) ∈ op.outcomes (.inr consumer) before)
    (complete : guarded → (peer.observe op answer).lock.isSome = true →
      CompleteMemory deployment after) :
    ProxyKeeps deployment guarded after (peer.observe op answer) := by
  have keepsNames : op.isRenaming = false := by
    cases op with
    | onFile op => cases op <;> first | rfl | cases may
    | remove path => cases may
    | create path incarnation => cases may
    | «open» path | emplace table incarnation element | find table incarnation element
    | partialRestart | terminate => rfl
  have extended := keeps.extend (extends_of_outcome outcome keepsNames)
  have noRest : ∀ moved : Peer Provider, moved.proxy = peer.proxy → ∀ held,
      moved.proxy = some held → False := by
    intro moved same held atRest
    rw [same, noProxy] at atRest
    cases atRest
  cases op with
  | onFile op =>
      obtain ⟨files, possible, rfl⟩ := onFile_outcome outcome
      cases op with
      | «open» path =>
          have marked : ∀ file, answer = some file → files.named () = some file := by
            intro file opened
            rw [opened] at possible
            obtain ⟨leads, kept⟩ := named_of_open possible
            rw [kept]
            exact leads
          exact ⟨marked, extended.lock, extended.unlocked, extended.kept, extended.complete,
            fun held atRest => (noRest _ rfl held atRest).elim⟩
      | openOrCreate path => cases may
      | tryLock file mode =>
          obtain ⟨opened, rfl, noLock⟩ := may
          obtain rfl | rfl := Bool.eq_false_or_eq_true answer
          · constructor
            · exact extended.marker
            · intro other mode same
              cases same
              exact ⟨rfl, extended.marker file opened⟩
            · intro none
              cases none
            · exact extended.kept
            · exact complete
            · exact fun held atRest => (noRest _ rfl held atRest).elim
          · exact ⟨extended.marker, extended.lock, extended.unlocked, extended.kept,
              extended.complete, fun held atRest => (noRest _ rfl held atRest).elim⟩
      | unlock file =>
          have locked : peer.lock = some (file, .shared) := may
          have same : peer.observe (.onFile (.unlock file) : ServiceOp Provider Element) answer =
              { peer with lock := none, mapped := fun _ => none } := by
            simp only [Peer.observe, Peer.unlocked, locked]
          rw [same]
          constructor
          · exact extended.marker
          · intro other mode none
            cases none
          · exact fun _ _ => rfl
          · intro path incarnation none
            cases none
          · intro _ none
            cases none
          · exact fun held atRest => (noRest _ rfl held atRest).elim
      | unlink path => cases may
  | «open» path =>
      cases List.mem_singleton.mp outcome
      have shares : peer.lock.isSome = true := may
      cases named : before.named path with
      | none => exact extended
      | some incarnation =>
          constructor
          · exact extended.marker
          · exact extended.lock
          · intro unlocked
            have unlocked : peer.lock = none := unlocked
            rw [unlocked] at shares
            cases shares
          · intro other found mapped
            by_cases same : other = path
            · subst same
              have mapped : (peer.attach other incarnation).mapped other = some found := mapped
              rw [Peer.attach_self] at mapped
              rw [named, mapped]
            · have mapped : (peer.attach path incarnation).mapped other = some found := mapped
              rw [Peer.attach_of_ne peer incarnation same] at mapped
              exact extended.kept other found mapped
          · exact extended.complete
          · exact fun held atRest => (noRest _ rfl held atRest).elim
  | find table incarnation element => exact extended
  | partialRestart => exact extended
  | remove path | create path incarnation | emplace table incarnation element => cases may
  | terminate => cases outcome

end Consumers

/-! ## The steps of the parties -/

omit [DecidableEq Provider] [DecidableEq Consumer] [DecidableEq Element] in
/-- The operation gets a lock on the usage marker file if it asks for a shared one. -/
def ServiceOp.getsShared (files : LockedFiles Unit (Provider ⊕ Consumer)) :
    ServiceOp Provider Element → Bool
  | .onFile (.tryLock file _) => files.mayLock file .shared
  | _ => false

/-- A consumer takes its lock only where every object of the instance is there and
contains every element. -/
def LocksComplete (deployment : ServiceDeployment Element)
    (config : (serviceRole Provider Consumer deployment).State) :
    (serviceRole Provider Consumer deployment).Move → Prop
  | .perform (.inr _) request _ =>
      request.op.getsShared config.memory.memory.files = true →
        CompleteMemory deployment config.memory.memory
  | _ => True

instance (config : (serviceRole Provider Consumer deployment).State) :
    (move : (serviceRole Provider Consumer deployment).Move) →
      Decidable (LocksComplete deployment config move)
  | .perform (.inl _) _ _ => isTrue trivial
  | .perform (.inr _) _ _ => inferInstanceAs (Decidable (_ → _))
  | .call _ _ => isTrue trivial
  | .finish _ _ _ => isTrue trivial
  | .crash _ => isTrue trivial
  | .environment => isTrue trivial

section Steps

variable {memory after : ServiceMemory Provider Consumer Element} {guarded : Prop}
  {isDead : Provider ⊕ Consumer → Bool} {peer : Provider ⊕ Consumer → Peer Provider}
  {party : Provider ⊕ Consumer}

omit [DecidableEq Element] in
/-- A step that leaves everything under its path. -/
theorem PeersInv.keep (inv : PeersInv deployment guarded memory isDead peer)
    {moved : Peer Provider} (extends_ : Extends memory after) (wellLocked : after.files.WellLocked)
    (holds : ∀ other file mode, after.files.Holds file other mode ↔ isDead other = false ∧
        (update peer party moved other).lock = some (file, mode))
    (isLive : moved.isLive = (peer party).isLive)
    (own : isDead party = false → PartyKeeps deployment guarded after party moved) :
    PeersInv deployment guarded after isDead (update peer party moved) where
  wellLocked := wellLocked
  holds := holds
  oneLive one two livesOne livesTwo := by
    have sameLive : ∀ other, (update peer party moved other).isLive = (peer other).isLive := by
      intro other
      by_cases same : other = party
      · subst same
        rw [update_self, isLive]
      · rw [update_of_ne same]
    rw [sameLive, sameLive]
    exact inv.oneLive one two livesOne livesTwo
  same := by
    rw [extends_.named]
    exact inv.same
  has := by
    rw [extends_.named]
    exact inv.has
  keeps other lives := by
    by_cases same : other = party
    · subst same
      rw [update_self]
      exact own lives
    · rw [update_of_ne same]
      have keeps := inv.keeps other lives
      cases other with
      | inl provider => exact SkeletonKeeps.extend keeps extends_
      | inr consumer => exact ProxyKeeps.extend keeps extends_

variable {provider : Provider}

omit [DecidableEq Element] in
/-- A step of the provider that has the usage marker locked exclusively. -/
theorem PeersInv.rename (inv : PeersInv deployment guarded memory isDead peer)
    {moved : Peer Provider} {file : Nat} (lives : isDead (.inl provider) = false)
    (locked : (peer (.inl provider)).lock = some (file, .exclusive))
    (files : after.files = memory.files) (lock : moved.lock = (peer (.inl provider)).lock)
    (isLive : moved.isLive = (peer (.inl provider)).isLive)
    (same : ∀ one two first second, after.named one = some first →
      after.named two = some second → first = second)
    (has : ∀ path incarnation, after.named path = some incarnation → deployment.has path = true)
    (own : SkeletonKeeps deployment guarded after provider moved) :
    PeersInv deployment guarded after isDead
      (update peer (.inl provider) moved) where
  wellLocked := by
    rw [files]
    exact inv.wellLocked
  holds other otherFile mode := by
    have sameLock : (update peer (.inl provider) moved other).lock = (peer other).lock := by
      by_cases same : other = .inl provider
      · subst same
        rw [update_self, lock]
      · rw [update_of_ne same]
    rw [files, sameLock]
    exact inv.holds other otherFile mode
  oneLive one two livesOne livesTwo := by
    have sameLive : ∀ other, (update peer (.inl provider) moved other).isLive =
        (peer other).isLive := by
      intro other
      by_cases same : other = .inl provider
      · subst same
        rw [update_self, isLive]
      · rw [update_of_ne same]
    rw [sameLive, sameLive]
    exact inv.oneLive one two livesOne livesTwo
  same := same
  has := has
  keeps other livesOther := by
    by_cases same : other = .inl provider
    · subst same
      rw [update_self]
      exact own
    · rw [update_of_ne same]
      have ownKeeps : SkeletonKeeps deployment guarded memory provider (peer (.inl provider)) :=
        inv.keeps (.inl provider) lives
      obtain ⟨_, ownLive, ownNamed⟩ := ownKeeps.lock file .exclusive locked
      have holds := (inv.holds (.inl provider) file .exclusive).mpr ⟨lives, locked⟩
      have keeps := inv.keeps other livesOther
      cases other with
      | inl another =>
          apply SkeletonKeeps.notLive keeps ?_ files
          rw [Bool.eq_false_iff]
          intro anotherLive
          have one := inv.oneLive another provider livesOther lives anotherLive ownLive
          exact same (congrArg Sum.inl one)
      | inr consumer =>
          apply ProxyKeeps.notSharing keeps ?_ files
          cases shared : (peer (.inr consumer)).lock with
          | none => rfl
          | some lock =>
              obtain ⟨otherFile, mode⟩ := lock
              have keeps : ProxyKeeps deployment guarded memory (peer (.inr consumer)) := keeps
              obtain ⟨rfl, named⟩ := keeps.lock otherFile mode shared
              rw [ownNamed] at named
              cases named
              have sharedHolds := (inv.holds (.inr consumer) file .shared).mpr ⟨livesOther, shared⟩
              exact absurd sharedHolds (inv.wellLocked.excludes holds)

omit [DecidableEq Provider] [DecidableEq Element] in
/-- No operation creates or destroys a Skeleton. -/
theorem observe_isLive (peer : Peer Provider) (op : ServiceOp Provider Element)
    (answer : op.Ret) : (peer.observe op answer).isLive = peer.isLive := by
  cases op with
  | onFile op =>
      cases op with
      | tryLock file mode =>
          cases answer with
          | true => rfl
          | false => rfl
      | unlock file =>
          change peer.unlocked.isLive = peer.isLive
          unfold Peer.unlocked
          split <;> rfl
      | _ => rfl
  | create path incarnation =>
      cases answer with
      | true => rfl
      | false => rfl
  | «open» path =>
      cases answer with
      | none => rfl
      | some incarnation => rfl
  | _ => rfl

variable {op : ServiceOp Provider Element}

omit [DecidableEq Provider] [DecidableEq Element] in
/-- Operations on other than files leave locks alone. -/
theorem observe_quiet (peer : Peer Provider) (answer : op.Ret)
    (quiet : ∀ fileOp, op ≠ .onFile fileOp) :
    (peer.observe op answer).lock = peer.lock ∧
      (peer.observe op answer).foundLocked = peer.foundLocked := by
  cases op with
  | onFile op => exact absurd rfl (quiet op)
  | create path incarnation =>
      cases answer with
      | true | false => exact ⟨rfl, rfl⟩
  | «open» path =>
      cases answer with
      | none | some incarnation => exact ⟨rfl, rfl⟩
  | _ => exact ⟨rfl, rfl⟩

theorem files_quiet {answer : op.Ret} (outcome : (answer, after) ∈ op.outcomes party memory)
    (quiet : ∀ fileOp, op ≠ .onFile fileOp) : after.files = memory.files := by
  cases op with
  | onFile op => exact absurd rfl (quiet op)
  | remove path =>
      cases List.mem_singleton.mp outcome
      rfl
  | create path incarnation =>
      rcases List.mem_cons.mp outcome with same | rest
      · cases same
        rfl
      · cases List.mem_singleton.mp rest
        rfl
  | «open» path =>
      cases List.mem_singleton.mp outcome
      rfl
  | emplace table incarnation element =>
      rw [ServiceOp.outcomes] at outcome
      split at outcome
      · cases List.mem_singleton.mp outcome
        rfl
      · cases List.mem_singleton.mp outcome
        rfl
  | find table incarnation element =>
      cases List.mem_singleton.mp outcome
      rfl
  | partialRestart =>
      rcases List.mem_cons.mp outcome with same | rest
      · cases same
        rfl
      · cases List.mem_singleton.mp rest
        rfl
  | terminate => cases outcome

omit [DecidableEq Provider] [DecidableEq Consumer] [DecidableEq Element] in
/-- Whoever finds the usage marker locked, though no other Skeleton is live, finds the
lock of a consumer. -/
theorem PeersInv.complete_of_locked (inv : PeersInv deployment guarded memory isDead peer)
    {file : Nat} (safe : guarded) (lives : isDead (.inl provider) = false)
    (isLive : (peer (.inl provider)).isLive = true) (noLock : (peer (.inl provider)).lock = none)
    (taken : memory.files.mayLock file .exclusive = false) :
    CompleteMemory deployment memory := by
  by_cases free : memory.files.owner file = none
  · have someSharer : memory.files.sharers file ≠ [] := by
      intro none
      rw [LockedFiles.mayLock_exclusive.mpr ⟨free, none⟩] at taken
      cases taken
    obtain ⟨sharer, isSharer⟩ := List.exists_mem_of_ne_nil _ someSharer
    obtain ⟨livesSharer, locked⟩ := (inv.holds sharer file .shared).mp isSharer
    have keeps := inv.keeps sharer livesSharer
    cases sharer with
    | inl another =>
        have keeps : SkeletonKeeps deployment guarded memory another (peer (.inl another)) := keeps
        cases (keeps.lock file .shared locked).1
    | inr consumer =>
        exact ProxyKeeps.complete keeps safe (by simp [locked])
  · obtain ⟨owner, owned⟩ := Option.ne_none_iff_exists'.mp free
    obtain ⟨livesOwner, locked⟩ := (inv.holds owner file .exclusive).mp owned
    have keeps := inv.keeps owner livesOwner
    cases owner with
    | inl another =>
        have keeps : SkeletonKeeps deployment guarded memory another (peer (.inl another)) := keeps
        have one := inv.oneLive another provider livesOwner lives
          (keeps.lock file .exclusive locked).2.1 isLive
        rw [one, noLock] at locked
        cases locked
    | inr consumer =>
        have keeps : ProxyKeeps deployment guarded memory (peer (.inr consumer)) := keeps
        cases (keeps.lock file .exclusive locked).1

variable {config : (serviceRole Provider Consumer deployment).State}

/-- An operation on the usage marker file. -/
theorem PeersInv.onFile
    (inv : PeersInv deployment guarded config.memory.memory config.memory.isDead config.object)
    {op : FileOp Unit} {answer : op.Ret} (lives : config.memory.isDead party = false)
    (may : (peerManners deployment guarded).may party (config.object party) (.onFile op))
    (outcome : (answer, after) ∈ (ServiceOp.onFile op : ServiceOp Provider Element).outcomes
      party config.memory.memory)
    (locks : guarded →
      LocksComplete deployment config (.perform party ⟨party, .onFile op⟩ answer)) :
    PeersInv deployment guarded after config.memory.isDead
      (update config.object party
        ((config.object party).observe (.onFile op : ServiceOp Provider Element) answer)) := by
  have keepsNames : (ServiceOp.onFile op : ServiceOp Provider Element).isRenaming = false := by
    cases party <;> cases op <;> first | rfl | cases may.2
  have extends_ := extends_of_outcome outcome keepsNames
  obtain ⟨files, possible, rfl⟩ := onFile_outcome outcome
  have keeps := inv.keeps party lives
  apply inv.keep extends_
  · exact wellLocked_of_outcome possible inv.wellLocked
  · apply holds_of_onFile inv.holds lives possible
    · intro file mode same
      subst same
      cases party with
      | inl provider => exact may.2.2.2.1
      | inr consumer => exact may.2.2.2
    · intro file same
      subst same
      cases party with
      | inl provider | inr consumer => exact ⟨_, may.2⟩
  · exact observe_isLive _ (.onFile op) answer
  · intro _
    cases party with
    | inl provider =>
        apply skeletonKeeps_observe keeps inv.has may.1 may.2 outcome keepsNames
        intro safe isLive isFound
        have keeps : SkeletonKeeps deployment guarded config.memory.memory provider
            (config.object (.inl provider)) := keeps
        cases op with
        | tryLock file mode =>
            obtain ⟨_, _, rfl, noLock, _⟩ := may
            cases answer with
            | true => exact extends_.complete (keeps.found safe isLive isFound)
            | false =>
                obtain ⟨taken, rfl⟩ := unchanged_of_tryLock possible
                exact inv.complete_of_locked safe lives isLive noLock taken
        | unlock file =>
            have same : ((config.object (.inl provider)).unlocked).foundLocked =
                (config.object (.inl provider)).foundLocked := by
              unfold Peer.unlocked
              split <;> rfl
            exact extends_.complete (keeps.found safe isLive (same.symm.trans isFound))
        | «open» path | openOrCreate path | unlink path =>
            exact extends_.complete (keeps.found safe isLive isFound)
    | inr consumer =>
        apply proxyKeeps_observe keeps may.1 may.2 outcome
        intro safe shares
        have keeps : ProxyKeeps deployment guarded config.memory.memory
            (config.object (.inr consumer)) := keeps
        cases op with
        | tryLock file mode =>
            obtain ⟨_, _, rfl, _⟩ := may
            cases answer with
            | true =>
                have free := (holds_of_tryLock possible).1
                exact extends_.complete (locks safe free)
            | false => exact extends_.complete (keeps.complete safe shares)
        | unlock file =>
            have none : ((config.object (.inr consumer)).unlocked).lock.isSome = true := shares
            rw [unlocked_lock] at none
            cases none
        | «open» path => exact extends_.complete (keeps.complete safe shares)
        | openOrCreate path | unlink path => cases may.2

/-- An operation that leaves the usage marker file and the paths alone. -/
theorem PeersInv.quiet
    (inv : PeersInv deployment guarded config.memory.memory config.memory.isDead config.object)
    {answer : op.Ret} (lives : config.memory.isDead party = false)
    (may : (peerManners deployment guarded).may party (config.object party) op)
    (outcome : (answer, after) ∈ op.outcomes party config.memory.memory)
    (keepsNames : op.isRenaming = false) (quiet : ∀ fileOp, op ≠ .onFile fileOp) :
    PeersInv deployment guarded after config.memory.isDead
      (update config.object party ((config.object party).observe op answer)) := by
  have extends_ := extends_of_outcome outcome keepsNames
  have keeps := inv.keeps party lives
  obtain ⟨sameLock, sameFound⟩ := observe_quiet (config.object party) answer quiet
  have files := files_quiet outcome quiet
  apply inv.keep extends_
  · rw [files]
    exact inv.wellLocked
  · intro other file mode
    rw [files, inv.holds other file mode]
    by_cases same : other = party
    · subst same
      rw [update_self, sameLock]
    · rw [update_of_ne same]
  · exact observe_isLive _ _ answer
  · intro _
    cases party with
    | inl provider =>
        apply skeletonKeeps_observe keeps inv.has may.1 may.2 outcome keepsNames
        intro safe isLive isFound
        rw [sameFound] at isFound
        exact extends_.complete (SkeletonKeeps.found keeps safe isLive isFound)
    | inr consumer =>
        apply proxyKeeps_observe keeps may.1 may.2 outcome
        intro safe shares
        rw [sameLock] at shares
        exact extends_.complete (ProxyKeeps.complete keeps safe shares)

omit [DecidableEq Element] in
/-- A provider removes an object. -/
theorem PeersInv.remove {path : ShmPath} (inv : PeersInv deployment guarded memory isDead peer)
    (lives : isDead (.inl provider) = false) (noSkeleton : (peer (.inl provider)).skeleton = none)
    (may : skeletonMay deployment guarded provider (peer (.inl provider))
      (.remove path : ServiceOp Provider Element)) :
    PeersInv deployment guarded (memory.remove path) isDead
      (update peer (.inl provider)
        ((peer (.inl provider)).observe (.remove path : ServiceOp Provider Element) ())) := by
  obtain ⟨⟨file, locked⟩, unlocked⟩ := may
  have named : ∀ other incarnation, (memory.remove path).named other = some incarnation →
      memory.named other = some incarnation := by
    intro other incarnation leads
    by_cases same : other = path
    · subst same
      simp [ServiceMemory.remove] at leads
    · simpa [ServiceMemory.remove, same] using leads
  have files : (memory.remove path).files = memory.files := rfl
  apply inv.rename lives locked files
  · rfl
  · rfl
  · intro one two first second leadsOne leadsTwo
    exact inv.same one two first second (named one first leadsOne) (named two second leadsTwo)
  · intro other incarnation leads
    exact inv.has other incarnation (named other incarnation leads)
  · exact SkeletonKeeps.remove (inv.keeps (.inl provider) lives) noSkeleton unlocked

omit [DecidableEq Element] in
/-- A provider creates an object. -/
theorem PeersInv.create {path : ShmPath} {incarnation : Incarnation Provider}
    (inv : PeersInv deployment guarded memory isDead peer)
    (lives : isDead (.inl provider) = false) (noSkeleton : (peer (.inl provider)).skeleton = none)
    (may : skeletonMay deployment guarded provider (peer (.inl provider))
      (.create path incarnation : ServiceOp Provider Element)) :
    PeersInv deployment guarded (memory.create path incarnation) isDead
      (update peer (.inl provider) ((peer (.inl provider)).attach path incarnation)) := by
  obtain ⟨⟨file, locked⟩, unlocked, cleared, has, rfl⟩ := may
  have keeps : SkeletonKeeps deployment guarded memory provider (peer (.inl provider)) :=
    inv.keeps (.inl provider) lives
  have isLive := (keeps.lock file .exclusive locked).2.1
  have named : ∀ other found, (memory.create path
      (provider, (peer (.inl provider)).offers)).named other = some found →
        found = (provider, (peer (.inl provider)).offers) := by
    intro other found leads
    by_cases same : other = path
    · subst same
      simp only [ServiceMemory.create, update_self] at leads
      exact (Option.some.inj leads).symm
    · simp only [ServiceMemory.create, update_of_ne same] at leads
      exact keeps.cleared isLive other found (cleared other) leads
  have files : (memory.create path (provider, (peer (.inl provider)).offers)).files =
      memory.files := rfl
  apply inv.rename lives locked files
  · rfl
  · rfl
  · intro one two first second leadsOne leadsTwo
    rw [named one first leadsOne, named two second leadsTwo]
  · intro other found leads
    by_cases same : other = path
    · rw [same]
      exact has
    · simp only [ServiceMemory.create, update_of_ne same] at leads
      exact inv.has other found leads
  · exact keeps.create noSkeleton unlocked has

/-- The invariant survives every operation. -/
theorem peersInv_perform
    (inv : PeersInv deployment guarded config.memory.memory config.memory.isDead config.object)
    {answer : op.Ret} (lives : config.memory.isDead party = false)
    (may : (peerManners deployment guarded).may party (config.object party) op)
    (outcome : (answer, after) ∈ op.outcomes party config.memory.memory)
    (locks : guarded → LocksComplete deployment config (.perform party ⟨party, op⟩ answer)) :
    PeersInv deployment guarded after config.memory.isDead
      (update config.object party ((config.object party).observe op answer)) := by
  have noFile : (∀ fileOp, op ≠ .onFile fileOp) ∨ ∃ fileOp, op = .onFile fileOp := by
    cases op with
    | onFile op => exact .inr ⟨op, rfl⟩
    | _ =>
        left
        intro fileOp same
        cases same
  rcases noFile with quiet | ⟨fileOp, rfl⟩
  · cases op with
    | onFile fileOp => exact absurd rfl (quiet fileOp)
    | remove path =>
        cases party with
        | inl provider =>
            cases List.mem_singleton.mp outcome
            exact inv.remove lives may.1 may.2
        | inr consumer => cases may.2
    | create path incarnation =>
        cases party with
        | inl provider =>
            rcases List.mem_cons.mp outcome with same | rest
            · cases same
              exact inv.create lives may.1 may.2
            · cases List.mem_singleton.mp rest
              have unchanged : update config.object (.inl provider)
                  (config.object (.inl provider)) = config.object :=
                update_eq_self _ _
              change PeersInv deployment guarded config.memory.memory config.memory.isDead
                (update config.object (.inl provider) (config.object (.inl provider)))
              rw [unchanged]
              exact inv
        | inr consumer => cases may.2
    | «open» path | emplace table incarnation element | find table incarnation element
    | partialRestart => exact inv.quiet lives may outcome rfl quiet
    | terminate => cases outcome
  · exact inv.onFile lives may outcome locks

end Steps

end MwCom.Lola
