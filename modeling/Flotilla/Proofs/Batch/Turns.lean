import Flotilla.Batch
import Flotilla.Proofs.Turns

/-!
# A Batch Attempts Its Matches in Turn

The attempts of a batch only make calls, and a batch that is not refused is the loop over them.
-/

namespace Flotilla.Batch

open Remote

/-- What a batch does for a match, with the entry that tells of it. -/
def attempt (job : Job) (_ : Nat) (item : Match) : Remote Entry := do
  let outcome ← perform job item
  return outcome.entry item.key item.nodeName item.container

theorem yields_attempt {job : Job} {index : Nat} {item : Match} {events : List Event}
    {entry : Entry} (h : Yields (attempt job index item) events entry) :
    ∃ outcome, Yields (perform job item) events outcome ∧
      entry = outcome.entry item.key item.nodeName item.container := by
  unfold attempt at h
  obtain ⟨block, outcome, rest, rfl, hitem, hentry⟩ := yields_bind h
  obtain ⟨rfl, rfl⟩ := yields_pure.mp hentry
  exact ⟨outcome, by rwa [List.append_nil], rfl⟩

theorem process_eq_inTurn (job : Job) (index : Nat) (items : List Match) (ledger : Ledger) :
    process job items ledger = inTurn (attempt job) index items ledger := by
  -- The loop does not read the index, so any index does, and the next match has the next one.
  induction items generalizing index ledger with
  | nil => rfl
  | cons item rest ih => simp [process, inTurn, attempt, Program.bind_assoc, ih (index + 1)]

theorem onlyCalls_redeploy (item : Match) (changes : Changes) :
    (redeploy item changes).OnlyCalls := by
  unfold redeploy
  -- The plan takes one call, and what follows depends on whether there is one.
  refine OnlyCalls.bind ?_ fun planned => ?_
  · unfold planChanges
    refine onlyCalls_call fun inspected => ?_
    cases inspected with
    | error fault => exact onlyCalls_pure _
    | ok snapshot => exact onlyCalls_pure _
  · cases planned with
    | error refusal => exact onlyCalls_pure _
    | ok plan =>
      -- Whatever came of the stop, the deletion follows; one that fails ends the attempt.
      refine onlyCalls_call fun stopped => ?_
      refine onlyCalls_call fun deleted => ?_
      cases deleted with
      | error fault => exact onlyCalls_pure _
      | ok _ =>
        refine onlyCalls_call fun created => ?_
        cases created with
        | error fault => exact onlyCalls_pure _
        | ok _ => exact onlyCalls_pure _

theorem onlyCalls_attempt (job : Job) (index : Nat) (item : Match) :
    (attempt job index item).OnlyCalls := by
  unfold attempt perform
  refine OnlyCalls.bind ?_ fun outcome => onlyCalls_pure _
  -- A redeployment has its own sequence of calls, the other jobs have one call each.
  cases job with
  | redeploy changes => exact onlyCalls_redeploy item changes
  | start | stop | delete => exact onlyCalls_call fun reply => onlyCalls_pure _

theorem key_attempt {σ : Type} (w : World σ) (job : Job) (index : Nat) (item : Match)
    (r : Run σ) : ((attempt job index item).run w.answer r).1.key = item.key := by
  simp [attempt, Program.run_bind, Outcome.entry, Entry.of]

theorem ok_attempt {σ : Type} (w : World σ) (job : Job) (index : Nat) (item : Match) (r : Run σ) :
    ((attempt job index item).run w.answer r).1.ok =
      decide (((attempt job index item).run w.answer r).1.stage = .completed) := by
  simp [attempt, Program.run_bind, Outcome.entry, Entry.of]

/-- A batch that is not refused attempts its matches in turn. -/
theorem run_eq_attemptAll {b : Batch} {job : Job} (hjob : b.job = .ok job) :
    b.run = attemptAll (attempt job) b.items := by
  unfold run attemptAll
  simp only [hjob, process_eq_inTurn job 1]

theorem job_of_run_ok {σ : Type} {w : World σ} {b : Batch} {s : σ} {ledger : Ledger}
    (h : (w.run b.run s).1 = .ok ledger) : ∃ job, b.job = .ok job := by
  cases hjob : b.job with
  | error refusal =>
    simp only [run, hjob] at h
    cases h
  | ok job => exact ⟨job, rfl⟩

end Flotilla.Batch
