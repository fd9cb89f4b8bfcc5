import Flotilla.Migration
import Flotilla.Proofs.Turns

/-!
# A Migration Attempts Its Containers in Turn

The attempts of a migration only make calls, and a migration that is not refused is the loop over
them, from where the registry and the listing of the source have been read.
-/

namespace Flotilla.Migration

open Remote

/-- What a migration does for the container at a position, with the entry that tells of it. -/
def attempt (keepSource : Bool) (source target : Node) (index : Nat) (container : Container) :
    Remote Entry := do
  let outcome ← migrateItem keepSource source target container index
  return outcome.entry ⟨source.id, container.id⟩ source.displayName container

theorem yields_attempt {keepSource : Bool} {source target : Node} {index : Nat}
    {container : Container} {events : List Event} {entry : Entry}
    (h : Yields (attempt keepSource source target index container) events entry) :
    ∃ outcome, Yields (migrateItem keepSource source target container index) events outcome ∧
      entry = outcome.entry ⟨source.id, container.id⟩ source.displayName container := by
  unfold attempt at h
  obtain ⟨block, outcome, rest, rfl, hitem, hentry⟩ := yields_bind h
  obtain ⟨rfl, rfl⟩ := yields_pure.mp hentry
  exact ⟨outcome, by rwa [List.append_nil], rfl⟩

theorem process_eq_inTurn (keepSource : Bool) (source target : Node) (index : Nat)
    (containers : List Container) (ledger : Ledger) :
    process keepSource source target index containers ledger =
      inTurn (attempt keepSource source target) index containers ledger := by
  -- The loop over the rest has the next position.
  induction containers generalizing index ledger with
  | nil => rfl
  | cons container rest ih => simp [process, inTurn, attempt, Program.bind_assoc, ih (index + 1)]

theorem onlyCalls_createOnTarget (target : String) (plan : Plan) (index : Nat) :
    (createOnTarget target plan index).OnlyCalls := by
  unfold createOnTarget
  refine onlyCalls_call fun created => ?_
  cases created with
  | ok _ => exact onlyCalls_pure _
  | error fault =>
    -- Only a conflict about a name that the plan has leads to a second call.
    by_cases hagain : (fault.isNameConflict && decide (plan.name ≠ "")) = true
    · simp only [hagain, if_true]
      refine onlyCalls_call fun retried => ?_
      cases retried with
      | ok _ => exact onlyCalls_pure _
      | error fault => exact onlyCalls_pure _
    · simp only [hagain]
      exact onlyCalls_pure _

theorem onlyCalls_attempt (keepSource : Bool) (source target : Node) (index : Nat)
    (container : Container) : (attempt keepSource source target index container).OnlyCalls := by
  unfold attempt migrateItem
  refine OnlyCalls.bind ?_ fun outcome => onlyCalls_pure _
  refine onlyCalls_call fun inspected => ?_
  cases inspected with
  | error fault => exact onlyCalls_pure _
  | ok snapshot =>
    -- The attempt is over without a plan, without a creation, or where the source is kept.
    cases hplan : migrationPlan container snapshot with
    | error refusal =>
      simp only [hplan]
      exact onlyCalls_pure _
    | ok plan =>
      simp only [hplan]
      refine (onlyCalls_createOnTarget target.id plan index).bind fun created => ?_
      cases created with
      | error fault => exact onlyCalls_pure _
      | ok created =>
        cases keepSource with
        | true => exact onlyCalls_pure _
        | false =>
          refine onlyCalls_call fun removed => ?_
          cases removed with
          | ok _ => exact onlyCalls_pure _
          | error fault => exact onlyCalls_pure _

theorem key_attempt {σ : Type} (w : World σ) (keepSource : Bool) (source target : Node)
    (index : Nat) (container : Container) (r : Run σ) :
    ((attempt keepSource source target index container).run w.answer r).1.key =
      ⟨source.id, container.id⟩ := by
  simp [attempt, Program.run_bind, Outcome.entry, Entry.of]

theorem ok_attempt {σ : Type} (w : World σ) (keepSource : Bool) (source target : Node)
    (index : Nat) (container : Container) (r : Run σ) :
    ((attempt keepSource source target index container).run w.answer r).1.ok =
      decide (((attempt keepSource source target index container).run w.answer r).1.stage =
        .completed) := by
  simp [attempt, Program.run_bind, Outcome.entry, Entry.of]

/-! ## What comes before the first container -/

variable {σ : Type}

/-- What a migration that is not refused has found before it attempts its first container: both
ends, the containers of the source, and the run after the two calls that told it of them. -/
structure Begins (m : Migration) (w : World σ) (s : σ) (source target : Node)
    (containers : List Container) (start : Run σ) : Prop where
  checked : m.precheck = .ok ()
  registry : ∃ nodes, (w.reply .nodes s).1 = .ok nodes ∧
    endpoints nodes (Text.trim m.source) (Text.trim m.target) = .ok (source, target) ∧
    start.events = [.exchange .nodes (.ok nodes), .exchange (.list source.id) (.ok containers)]
  listed : (w.reply (.list source.id) (w.reply .nodes s).2).1 = .ok containers
  some : containers ≠ []
  state : start.state = (w.reply (.list source.id) (w.reply .nodes s).2).2

variable {m : Migration} {w : World σ} {s : σ}

/-- What a migration finds before its first container has nothing to do with the token. -/
theorem Begins.undisturbed {source target : Node} {containers : List Container} {start : Run σ}
    (h : m.Begins w.undisturbed s source target containers start) :
    m.Begins w s source target containers start :=
  ⟨h.checked, h.registry, h.listed, h.some, h.state⟩

/-- From there on a migration is the loop over the containers. -/
theorem Begins.run_eq {source target : Node} {containers : List Container} {start : Run σ}
    (h : m.Begins w s source target containers start) :
    w.run m.run s =
      (attemptAll (attempt m.keepSource source target) containers).run w.answer start := by
  obtain ⟨nodes, hnodes, hends, hevents⟩ := h.registry
  -- The registry and the listing answer as they did, so the migration gets to the loop.
  have hstart : start = ⟨(w.reply (.list source.id) (w.reply .nodes s).2).2,
      [.exchange .nodes (.ok nodes), .exchange (.list source.id) (.ok containers)]⟩ := by
    rw [← h.state, ← hevents]
  unfold World.run run findEndpoints listNodes Remote.call Program.request attemptAll
  simp [World.answer, h.checked, hnodes, hends, h.listed, h.some, hstart, process_eq_inTurn]

end Flotilla.Migration
