/-
Module: MwCom.Interleaving.Contract
Purpose: Invariants of interleaved threads from facts about one thread at a
  time: a step lemma for each kind of step, and the run lemma.
Trusted boundary: none
Main exports: Reaches.invariant, Contract, Contract.Holds, Contract.run
-/
import MwCom.Interleaving.System

namespace Interleaving

variable {Thread Op : Type} {Ret : Op → Type}
  {Memory Object Call Reply View : Type}
  {system : System Thread Op Ret Memory Object Call Reply}

namespace Reaches

variable [DecidableEq Thread]
  {permitted stronger : Config Thread Op Ret Memory Object Call Reply →
    Event Thread Op Ret Call Reply → Prop}
  {start config middle after : Config Thread Op Ret Memory Object Call Reply}

/-- What holds at the start and survives every permitted step holds in every
state a run reaches. -/
theorem invariant {Holds : Config Thread Op Ret Memory Object Call Reply → Prop}
    (initially : Holds start)
    (preserved : ∀ {before event after}, Reaches system permitted start before →
      Holds before → permitted before event → Step system before event after → Holds after)
    (reached : Reaches system permitted start config) : Holds config := by
  induction reached with
  | refl => exact initially
  | step reached allowed step ih =>
      exact preserved reached ih allowed step

/-- A run of permitted steps is a run under any weaker permission. -/
theorem weaken (reached : Reaches system stronger start config)
    (implied : ∀ before event, stronger before event → permitted before event) :
    Reaches system permitted start config := by
  induction reached with
  | refl => exact .refl
  | step _ allowed step ih =>
      exact ih.step (implied _ _ allowed) step

end Reaches

/-- A contract between the threads: what they all keep (`Inv`), the part of a
state only thread `t` changes (`view`), the rules `t` follows on it, and what a
call of `t` guarantees when it returns. -/
structure Contract (system : System Thread Op Ret Memory Object Call Reply)
    (View : Type) where
  Inv : Config Thread Op Ret Memory Object Call Reply → Prop
  view : Config Thread Op Ret Memory Object Call Reply → Thread → View
  rules : Thread → Rules Op Ret View
  post : Thread → Call → Reply → View → Prop

namespace Contract

variable (contract : Contract system View)

/-- The invariant holds, and what is left of every running call respects the
rules of its thread. -/
structure Holds
    (config : Config Thread Op Ret Memory Object Call Reply) : Prop where
  inv : contract.Inv config
  running : ∀ thread call rest, config.activity thread = .running call rest →
    rest.Respects (contract.rules thread) (contract.view config thread)
      (contract.post thread call)

/-- No thread but `thread` sees a difference between two states. -/
def Unseen (thread : Thread)
    (before after : Config Thread Op Ret Memory Object Call Reply) : Prop :=
  ∀ other, other ≠ thread → contract.view after other = contract.view before other

variable {config : Config Thread Op Ret Memory Object Call Reply}

/-- Threads that do not move keep respecting their rules. -/
theorem Holds.others {contract : Contract system View}
    {after : Config Thread Op Ret Memory Object Call Reply} {thread other : Thread} {call : Call}
    {rest : Program Op Ret Reply} (holds : contract.Holds config)
    (unseen : contract.Unseen thread config after) (distinct : other ≠ thread)
    (running : config.activity other = .running call rest) :
    rest.Respects (contract.rules other) (contract.view after other)
      (contract.post other call) := by
  rw [unseen other distinct]
  exact holds.running other call rest running

variable [DecidableEq Thread]

/-- One obligation for each kind of step. -/
structure Obligations
    (permitted : Config Thread Op Ret Memory Object Call Reply →
      Event Thread Op Ret Call Reply → Prop) : Prop where
  call : ∀ {config thread call}, contract.Inv config → permitted config (.call thread call) →
    config.activity thread = .idle →
    system.mayCall thread (config.object thread) call →
    ∀ after, after = config.update config.memory thread
        (system.onCall thread config.memory (config.object thread) call)
        (.running call (system.code thread (config.object thread) call)) →
      contract.Inv after ∧ contract.Unseen thread config after ∧
        (system.code thread (config.object thread) call).Respects
          (contract.rules thread) (contract.view after thread)
          (contract.post thread call)
  perform : ∀ {config thread call op}
      {next : Ret op → Program Op Ret Reply} {answer memory},
    contract.Inv config →
    permitted config (.perform thread op answer) →
    config.activity thread = .running call (.step op next) →
    (contract.rules thread).may (contract.view config thread) op →
    (answer, memory) ∈ system.outcomes op config.memory →
    ∀ after, after = config.update memory thread
        (system.observe thread config.memory (config.object thread) op answer)
        (.running call (next answer)) →
      contract.Inv after ∧ contract.Unseen thread config after ∧
        (contract.rules thread).expects (contract.view config thread) op
          answer ∧
        contract.view after thread =
          (contract.rules thread).next (contract.view config thread) op answer
  finish : ∀ {config thread call reply}, contract.Inv config →
    permitted config (.finish thread call reply) →
    config.activity thread = .running call (.done reply) →
    contract.post thread call reply (contract.view config thread) →
    ∀ after, after = config.update config.memory thread
        (system.onReturn thread config.memory (config.object thread) call reply) .idle →
      contract.Inv after ∧ contract.Unseen thread config after
  crash : ∀ {config thread object}, contract.Inv config → permitted config (.crash thread) →
    system.onCrash thread config.memory (config.object thread) = some object →
    ∀ after, after = config.update config.memory thread object .idle →
      contract.Inv after ∧ contract.Unseen thread config after
  environment : ∀ {config memory}, contract.Inv config → permitted config .environment →
    system.environment config.memory memory →
    ∀ after, after = { config with memory := memory } → contract.Inv after ∧
        ∀ thread, contract.view after thread = contract.view config thread

variable {contract}

/-- A move that the other threads do not see leaves the call of the moving thread to check. -/
theorem Holds.update {memory : Memory} {thread : Thread} {object : Object}
    {activity : Activity Op Ret Call Reply} (holds : contract.Holds config)
    (inv : contract.Inv (config.update memory thread object activity))
    (unseen : contract.Unseen thread config (config.update memory thread object activity))
    (own : ∀ call rest, activity = .running call rest → rest.Respects (contract.rules thread)
        (contract.view (config.update memory thread object activity) thread)
        (contract.post thread call)) :
    contract.Holds (config.update memory thread object activity) := by
  refine ⟨inv, fun other otherCall rest running => ?_⟩
  by_cases same : other = thread
  · subst same
    rw [Config.update_activity_self] at running
    exact own otherCall rest running
  · rw [Config.update_activity_of_ne same] at running
    exact holds.others unseen same running

/-- The contract survives one step. -/
theorem Holds.step {permitted : Config Thread Op Ret Memory Object Call Reply →
      Event Thread Op Ret Call Reply → Prop}
    (obligations : contract.Obligations permitted)
    {after : Config Thread Op Ret Memory Object Call Reply}
    {event : Event Thread Op Ret Call Reply} (holds : contract.Holds config)
    (allowed : permitted config event) (step : Step system config event after) :
    contract.Holds after := by
  cases step with
  | @call thread call idle mayCall =>
      obtain ⟨inv, unseen, respects⟩ := obligations.call holds.inv allowed idle mayCall _ rfl
      refine holds.update inv unseen fun _ _ running => ?_
      cases running
      exact respects
  | @perform thread call op next answer memory active outcome =>
      have respected := holds.running thread call _ active
      obtain ⟨inv, unseen, expected, viewEq⟩ :=
        obligations.perform holds.inv allowed active respected.1 outcome _ rfl
      refine holds.update inv unseen fun _ _ running => ?_
      cases running
      rw [viewEq]
      exact respected.2 answer expected
  | @finish thread call reply active =>
      obtain ⟨inv, unseen⟩ := obligations.finish holds.inv allowed active
          (holds.running thread call _ active) _ rfl
      refine holds.update inv unseen fun _ _ running => ?_
      cases running
  | @crash thread object killed =>
      obtain ⟨inv, unseen⟩ := obligations.crash holds.inv allowed killed _ rfl
      refine holds.update inv unseen fun _ _ running => ?_
      cases running
  | @environment memory moved =>
      obtain ⟨inv, unseen⟩ := obligations.environment holds.inv allowed moved _ rfl
      refine ⟨inv, fun other otherCall rest running => ?_⟩
      rw [unseen other]
      exact holds.running other otherCall rest running

/-- The contract holds in every state a permitted run reaches. -/
theorem run {permitted : Config Thread Op Ret Memory Object Call Reply →
      Event Thread Op Ret Call Reply → Prop}
    (obligations : contract.Obligations permitted)
    {start : Config Thread Op Ret Memory Object Call Reply} (initially : contract.Inv start)
    (idle : ∀ thread, start.activity thread = .idle)
    (reached : Reaches system permitted start config) :
    contract.Holds config := by
  refine reached.invariant ?_ fun _ holds allowed step =>
    holds.step obligations allowed step
  refine ⟨initially, fun thread call rest running => ?_⟩
  rw [idle thread] at running
  cases running

end Contract

end Interleaving
