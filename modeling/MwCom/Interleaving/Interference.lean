/-
Module: MwCom.Interleaving.Interference
Purpose: How a program ends while others change the state between its operations, and
  what it performed until then.
Trusted boundary: none
Main exports: Performed, Program.EndsAmid, Program.EndsAmid.bind_cases,
  Program.EndsAmid.perform_cases, Program.EndsAmid.determined
-/
import Mathlib.Logic.Relation
import MwCom.Interleaving.Program

namespace Interleaving

open Relation (ReflTransGen)

/-- An operation a program has performed, the state it found and the answer it got. -/
structure Performed (Op : Type) (Ret : Op → Type) (State : Type) where
  op : Op
  found : State
  answer : Ret op

namespace Program

variable {Op : Type} {Ret : Op → Type} {State α β : Type}

/-- One way a program ends while others may move before and after each of its operations:
what it performed, its result and the state then.  There is no result if an operation
without an outcome ended the process. -/
def EndsAmid (outcomes : (op : Op) → State → List (Ret op × State))
    (others : State → State → Prop) :
    Program Op Ret α → State → List (Performed Op Ret State) → Option α → State → Prop
  | .done result, state, performed, ended, after =>
      performed = [] ∧ ended = some result ∧ ReflTransGen others state after
  | .step op next, state, performed, ended, after =>
      ∃ found, ReflTransGen others state found ∧
        ((outcomes op found = [] ∧ performed = [] ∧ ended = none ∧ after = found) ∨
          ∃ answer middle rest, (answer, middle) ∈ outcomes op found ∧
            performed = ⟨op, found, answer⟩ :: rest ∧
            (next answer).EndsAmid outcomes others middle rest ended after)

/-- Sequential composition is associative. -/
theorem bind_assoc {γ : Type} (first : Program Op Ret α) (second : α → Program Op Ret β)
    (third : β → Program Op Ret γ) :
    (first >>= second) >>= third = first >>= fun result => second result >>= third := by
  induction first with
  | done result => rfl
  | step op next ih =>
      rw [step_bind, step_bind, step_bind]
      congr 1
      funext answer
      exact ih answer

namespace EndsAmid

variable {outcomes : (op : Op) → State → List (Ret op × State)}
  {others : State → State → Prop} {state after : State}
  {performed : List (Performed Op Ret State)}

variable {program : Program Op Ret α}

/-- Others may move before the program starts. -/
theorem before {ended : Option α} {earlier : State} (moved : ReflTransGen others earlier state)
    (ends : program.EndsAmid outcomes others state performed ended after) :
    program.EndsAmid outcomes others earlier performed ended after := by
  cases program with
  | done result =>
      obtain ⟨nothing, returned, later⟩ := ends
      exact ⟨nothing, returned, moved.trans later⟩
  | step op next =>
      obtain ⟨found, later, step⟩ := ends
      exact ⟨found, moved.trans later, step⟩

/-- Others may move after the program has returned. -/
theorem later {result : α} {final : State}
    (ends : program.EndsAmid outcomes others state performed (some result) after)
    (moved : ReflTransGen others after final) :
    program.EndsAmid outcomes others state performed (some result) final := by
  induction program generalizing state performed with
  | done given =>
      obtain ⟨nothing, returned, before⟩ := ends
      exact ⟨nothing, returned, before.trans moved⟩
  | step op next ih =>
      obtain ⟨found, before, stopped | continued⟩ := ends
      · cases stopped.2.2.1
      · obtain ⟨answer, between, rest, outcome, isPerformed, continued⟩ := continued
        exact ⟨found, before, .inr ⟨answer, between, rest, outcome, isPerformed,
          ih answer continued⟩⟩

/-- An operation in front of a program. -/
theorem perform_cases {op : Op} {rest : Ret op → Program Op Ret α} {ended : Option α}
    (ends : (Program.perform op >>= rest).EndsAmid outcomes others state performed ended after) :
    ∃ found, ReflTransGen others state found ∧
      ((outcomes op found = [] ∧ performed = [] ∧ ended = none ∧ after = found) ∨
        ∃ answer middle later, (answer, middle) ∈ outcomes op found ∧
          performed = ⟨op, found, answer⟩ :: later ∧
          (rest answer).EndsAmid outcomes others middle later ended after) :=
  ends

/-- Sequential composition: the first program ends the process, or the second one starts
where the first one ended. -/
theorem bind_cases {first : Program Op Ret α} {rest : α → Program Op Ret β} {ended : Option β}
    (ends : (first >>= rest).EndsAmid outcomes others state performed ended after) :
    (ended = none ∧ first.EndsAmid outcomes others state performed none after) ∨
      ∃ earlier later result middle, performed = earlier ++ later ∧
        first.EndsAmid outcomes others state earlier (some result) middle ∧
        (rest result).EndsAmid outcomes others middle later ended after := by
  induction first generalizing state performed with
  | done result => exact .inr ⟨[], performed, result, state, rfl, ⟨rfl, rfl, .refl⟩, ends⟩
  | step op next ih =>
      obtain ⟨found, moved, stopped | continued⟩ := ends
      · obtain ⟨noOutcome, nothing, isNone, sameState⟩ := stopped
        exact .inl ⟨isNone, found, moved, .inl ⟨noOutcome, nothing, rfl, sameState⟩⟩
      · obtain ⟨answer, between, tail, outcome, rfl, continued⟩ := continued
        rcases ih answer continued with stopped | composed
        · obtain ⟨isNone, stops⟩ := stopped
          exact .inl ⟨isNone, found, moved, .inr ⟨answer, between, tail, outcome, rfl, stops⟩⟩
        · obtain ⟨earlier, later, result, middle, rfl, firstEnds, restEnds⟩ := composed
          exact .inr ⟨_ :: earlier, later, result, middle, rfl,
            ⟨found, moved, .inr ⟨answer, between, earlier, outcome, rfl, firstEnds⟩⟩, restEnds⟩

/-- The first program ended, then the second one. -/
theorem bind {first : Program Op Ret α} {rest : α → Program Op Ret β} {ended : Option β}
    {earlier later : List (Performed Op Ret State)} {result : α} {middle : State}
    (firstEnds : first.EndsAmid outcomes others state earlier (some result) middle)
    (restEnds : (rest result).EndsAmid outcomes others middle later ended after) :
    (first >>= rest).EndsAmid outcomes others state (earlier ++ later) ended after := by
  induction first generalizing state earlier with
  | done given =>
      obtain ⟨rfl, returned, moved⟩ := firstEnds
      cases returned
      exact restEnds.before moved
  | step op next ih =>
      obtain ⟨found, moved, stopped | continued⟩ := firstEnds
      · cases stopped.2.2.1
      · obtain ⟨answer, between, tail, outcome, rfl, continued⟩ := continued
        exact ⟨found, moved, .inr ⟨answer, between, tail ++ later, outcome, rfl,
          ih answer continued⟩⟩

/-- What a program performs until it returns decides what it returns, and that it is
over. -/
theorem determined {result other : α} {start otherAfter : State}
    {later : List (Performed Op Ret State)}
    (ends : program.EndsAmid outcomes others state performed (some result) after)
    (longer : program.EndsAmid outcomes others start (performed ++ later) (some other) otherAfter) :
    later = [] ∧ other = result := by
  induction program generalizing state start performed with
  | done given =>
      obtain ⟨rfl, returned, _⟩ := ends
      obtain ⟨nothing, returnedToo, _⟩ := longer
      cases returned
      cases returnedToo
      exact ⟨nothing, rfl⟩
  | step op next ih =>
      obtain ⟨found, _, stopped | continued⟩ := ends
      · cases stopped.2.2.1
      · obtain ⟨answer, between, rest, _, rfl, continued⟩ := continued
        obtain ⟨foundToo, _, stopped | continuedToo⟩ := longer
        · cases stopped.2.2.1
        · obtain ⟨answerToo, betweenToo, restToo, _, same, continuedToo⟩ := continuedToo
          rw [List.cons_append] at same
          cases same
          exact ih answer continued continuedToo

end EndsAmid

end Program

end Interleaving
