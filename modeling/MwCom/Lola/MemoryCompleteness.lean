/-
Module: MwCom.Lola.MemoryCompleteness
Purpose: Whether the memory that a provider re-opens and a consumer attaches to contains
  every element of the service instance.
Trusted boundary: none
Main exports: CompleteAttachment, completeAttachment_of_guarded,
  completeAttachment_violated
-/
import MwCom.Lola.AttachmentAgreement

namespace MwCom.Lola

open Interleaving Locking

variable {Provider Consumer Element : Type} [DecidableEq Provider] [DecidableEq Consumer]
  [DecidableEq Element] {deployment : ServiceDeployment Element}

/-- The next thing that the party does is to terminate. -/
def isTerminating (config : (serviceRole Provider Consumer deployment).State)
    (party : Provider ⊕ Consumer) : Bool :=
  match config.activity party with
  | .running _ (.step request _) =>
      match request.op with
      | .terminate => true
      | _ => false
  | _ => false

/-- The law: who finds the usage marker locked re-opens a complete memory without failing,
and a Proxy that was created has every entry it may ask for. -/
structure CompleteAttachment (config : (serviceRole Provider Consumer deployment).State) :
    Prop where
  reopens : ∀ provider, config.memory.isDead (.inl provider) = false →
    (config.object (.inl provider)).isLive = true →
      (config.object (.inl provider)).foundLocked = true →
        CompleteMemory deployment config.memory.memory
  succeeds : ∀ provider call result skeleton, config.memory.isDead (.inl provider) = false →
    (config.object (.inl provider)).foundLocked = true →
      config.activity (.inl provider) = .running call (.done (.offered result skeleton)) →
        result = true
  registers : ∀ provider, config.memory.isDead (.inl provider) = false →
    (config.object (.inl provider)).foundLocked = true →
      isTerminating config (.inl provider) = false
  finds : ∀ consumer, config.memory.isDead (.inr consumer) = false →
    isTerminating config (.inr consumer) = false
  entries : ∀ consumer proxy element, config.memory.isDead (.inr consumer) = false →
    (config.object (.inr consumer)).proxy = some (some proxy) → element ∈ deployment.elements →
      element ∈ config.memory.memory.entries (.eventControls proxy.quality) proxy.control ∧
        element ∈ config.memory.memory.entries .events proxy.data

/-- Who is about to terminate has not kept to its rules, or was allowed to. -/
theorem may_of_isTerminating {config : (serviceRole Provider Consumer deployment).State}
    {guarded : Prop} {party : Provider ⊕ Consumer}
    (holds : (serviceRole Provider Consumer deployment).Holds (PeersInv deployment guarded)
      (peerManners deployment guarded) config)
    (lives : config.memory.isDead party = false) (terminates : isTerminating config party = true) :
    (peerManners deployment guarded : (serviceRole Provider Consumer deployment).Manners).may
      party (config.object party) .terminate := by
  unfold isTerminating at terminates
  split at terminates
  · rename_i call request next running
    have may := (holds.may lives running).2
    split at terminates
    · rename_i isTerminate
      rw [isTerminate] at may
      exact may
    · cases terminates
  · cases terminates

/-- In a run where consumers take their locks only while the memory is complete, providers
re-open complete memory and no entry is missing. -/
theorem completeAttachment_of_guarded
    {config : (serviceRole Provider Consumer deployment).State}
    (reached : Reaches (serviceRole Provider Consumer deployment).system
      (fun config move => OneLiveSkeleton deployment config move ∧
        LocksComplete deployment config move) (serviceStart Provider Consumer deployment) config) :
    CompleteAttachment config := by
  have guarded : Reaches (serviceRole Provider Consumer deployment).system
      (fun config move => OneLiveSkeleton deployment config move ∧
        (True → LocksComplete deployment config move))
      (serviceStart Provider Consumer deployment) config := by
    apply reached.weaken
    intro before move allowed
    exact ⟨allowed.1, fun _ => allowed.2⟩
  have holds := Role.run peers_obligations peersInv_initially (fun _ => rfl) guarded
  constructor
  · intro provider lives isLive found
    have keeps : SkeletonKeeps deployment True config.memory.memory provider
        (config.object (.inl provider)) := holds.inv.keeps (.inl provider) lives
    exact keeps.found trivial isLive found
  · intro provider call result skeleton lives found running
    have post : skeletonPost deployment True (.offered result skeleton)
        (config.object (.inl provider)) := holds.running (.inl provider) call _ lives running
    exact post.2.2.2 trivial found
  · intro provider lives found
    rw [Bool.eq_false_iff]
    intro terminates
    have may := (may_of_isTerminating holds lives terminates).2 trivial
    rw [found] at may
    cases may
  · intro consumer lives
    rw [Bool.eq_false_iff]
    intro terminates
    exact (may_of_isTerminating holds lives terminates).2 trivial
  · intro consumer proxy element lives atRest isElement
    have keeps : ProxyKeeps deployment True config.memory.memory
        (config.object (.inr consumer)) := holds.inv.keeps (.inr consumer) lives
    obtain ⟨locked, control, data⟩ := keeps.rest (some proxy) atRest
    have complete := keeps.complete trivial (by simp [locked])
    have entered : ∀ table incarnation,
        (config.object (.inr consumer)).mapped table.path = some incarnation →
          element ∈ config.memory.memory.entries table incarnation := by
      intro table incarnation mapped
      have named := keeps.kept table.path incarnation mapped
      obtain ⟨other, leads, contains⟩ :=
        complete table.path (holds.inv.has table.path incarnation named)
      rw [named] at leads
      cases leads
      exact contains table rfl element isElement
    exact ⟨entered (.eventControls proxy.quality) proxy.control control,
      entered .events proxy.data data⟩

/-- A provider registered its element and crashed, and its successor re-opens the memory
that a consumer still uses. -/
theorem completeAttachment_of_reopened :
    ∃ config : (serviceRole (Fin 2) (Fin 1) ⟨true, [()]⟩).State,
      Reaches (serviceRole (Fin 2) (Fin 1) ⟨true, [()]⟩).system
        (fun config move => OneLiveSkeleton ⟨true, [()]⟩ config move ∧
          LocksComplete ⟨true, [()]⟩ config move)
        (serviceStart (Fin 2) (Fin 1) ⟨true, [()]⟩) config ∧
      IsOffering config 1 ∧ (config.object (.inl 1)).foundLocked = true ∧
        CompleteAttachment config := by
  have reached := (serviceRole (Fin 2) (Fin 1) ⟨true, [()]⟩).exists_reached
    (fun config move => OneLiveSkeleton ⟨true, [()]⟩ config move ∧
      LocksComplete ⟨true, [()]⟩ config move)
    (serviceStart (Fin 2) (Fin 1) ⟨true, [()]⟩)
    (List.flatten [[.move (.call (.inl 0) .createSkeleton), .move (.finish (.inl 0))],
       [.move (.call (.inl 0) .prepareOffer)], List.replicate 9 (.move (.perform (.inl 0) 0)),
       [.move (.finish (.inl 0))], [.move (.call (.inl 0) (.register ()))],
       List.replicate 4 (.move (.perform (.inl 0) 0)), [.move (.finish (.inl 0))],
       [.move (.call (.inr 0) (.createProxy .asilB))],
       List.replicate 5 (.move (.perform (.inr 0) 0)), [.move (.finish (.inr 0))], [.kill [.inl 0]],
       [.move (.call (.inl 1) .createSkeleton), .move (.finish (.inl 1))],
       [.move (.call (.inl 1) .prepareOffer)], List.replicate 5 (.move (.perform (.inl 1) 0)),
       [.move (.finish (.inl 1))], [.move (.call (.inl 1) (.register ()))],
       List.replicate 4 (.move (.perform (.inl 1) 0)), [.move (.finish (.inl 1))]])
    (fun config => IsOffering config 1 ∧ (config.object (.inl 1)).foundLocked = true)
    (by decide +kernel)
  obtain ⟨config, reached, offers, found⟩ := reached
  exact ⟨config, reached, offers, found, completeAttachment_of_guarded reached⟩

/-- A provider crashes after PrepareOffer and before it registers its element.  A consumer
with a handle of an earlier offer attaches to the memory, which is there but empty; the
restarted provider finds the usage marker locked, re-opens that memory and terminates in
Register. -/
theorem completeAttachment_violated : ∃ config : (serviceRole (Fin 2) (Fin 1) ⟨true, [()]⟩).State,
      Reaches (serviceRole (Fin 2) (Fin 1) ⟨true, [()]⟩).system
        (OneLiveSkeleton ⟨true, [()]⟩) (serviceStart (Fin 2) (Fin 1) ⟨true, [()]⟩) config ∧
      ¬ CompleteAttachment config := by
  have reached := (serviceRole (Fin 2) (Fin 1) ⟨true, [()]⟩).exists_reached
    (OneLiveSkeleton ⟨true, [()]⟩) (serviceStart (Fin 2) (Fin 1) ⟨true, [()]⟩)
    (List.flatten [[.move (.call (.inl 0) .createSkeleton), .move (.finish (.inl 0))],
       [.move (.call (.inl 0) .prepareOffer)], List.replicate 9 (.move (.perform (.inl 0) 0)),
       [.move (.finish (.inl 0))], [.kill [.inl 0]], [.move (.call (.inr 0) (.createProxy .asilB))],
       List.replicate 5 (.move (.perform (.inr 0) 0)), [.move (.finish (.inr 0))],
       [.move (.call (.inl 1) .createSkeleton), .move (.finish (.inl 1))],
       [.move (.call (.inl 1) .prepareOffer)], List.replicate 5 (.move (.perform (.inl 1) 0)),
       [.move (.finish (.inl 1))],
       [.move (.call (.inl 1) (.register ())), .move (.perform (.inl 1) 0)]])
    (fun config => config.memory.isDead (.inl 1) = false ∧
      (config.object (.inl 1)).foundLocked = true ∧ isTerminating config (.inl 1) = true)
    (by decide +kernel)
  obtain ⟨config, reached, lives, found, terminates⟩ := reached
  refine ⟨config, reached, fun law => ?_⟩
  have never := law.registers 1 lives found
  rw [terminates] at never
  cases never

end MwCom.Lola
