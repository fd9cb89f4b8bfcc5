import Flotilla.Proofs.Batch.Turns
import Flotilla.Proofs.Distinct
import Flotilla.Proofs.Planning

/-!
# Which Batches Are Refused

A batch is refused for what it is, before anything is asked of the control plane.

- `Batch.RefusedFor`: the reasons, in the order in which they are looked for.
- `Batch.job_eq_error`: a batch has no job exactly if there is such a reason.
- `Batch.run_eq_error`: it ends with a refusal exactly if there is one, and nothing happens then.
-/

namespace Flotilla.Batch

/-- Why a batch is refused: it has no matches; or a match has the key of an earlier one, where the
first such match is told; or the text of the ports for a redeployment is wrong. -/
inductive RefusedFor (b : Batch) : Refusal → Prop where
  | noMatches (hitems : b.items = []) : RefusedFor b (.unmet .noMatches)
  | duplicate {before after : List Match} {item : Match}
      (hitems : b.items = before ++ item :: after) (hbefore : (before.map Match.key).Nodup)
      (hitem : item.key ∈ before.map Match.key) :
      RefusedFor b (.invalid (.duplicateMatch item.key))
  | ports {overrides : Overrides} {text : String} {line : String} (hitems : b.items ≠ [])
      (hkeys : (b.items.map Match.key).Nodup) (haction : b.action = .redeploy)
      (hoverrides : b.overrides = some overrides)
      (htext : overrides.portsText.bind Text.nonBlank? = some text)
      (hread : readPorts text = .error (.portMapping line)) :
      RefusedFor b (.invalid (.portMapping line))

/-- A batch has no job exactly if there is a reason to refuse it. -/
theorem job_eq_error {b : Batch} {refusal : Refusal} :
    b.job = .error refusal ↔ b.RefusedFor refusal := by
  constructor
  · intro h
    unfold job at h
    -- The checks are made in this order: no matches, a repeated key, the overrides.
    cases hitems : b.items with
    | nil =>
      rw [hitems] at h
      cases h
      exact .noMatches hitems
    | cons first rest =>
      have hsome : b.items ≠ [] := by simp [hitems]
      cases hrepeated : firstRepeated? Match.key b.items with
      | some item =>
        simp only [hrepeated, List.isEmpty_iff, hsome, if_false] at h
        cases h
        obtain ⟨before, after, hsplit, hbefore, hitem⟩ := firstRepeated?_eq_some.mp hrepeated
        exact .duplicate hsplit hbefore hitem
      | none =>
        have hkeys := firstRepeated?_eq_none.mp hrepeated
        simp only [hrepeated, List.isEmpty_iff, hsome, if_false] at h
        -- Only a redeployment reads overrides.
        cases haction : b.action with
        | start | stop | delete =>
          rw [haction] at h
          cases h
        | redeploy =>
          rw [haction] at h
          cases hread : (b.overrides.getD .keep).read with
          | ok changes =>
            rw [hread] at h
            cases h
          | error cause =>
            rw [hread] at h
            cases h
            -- Of the overrides only the ports can be wrong, and there are no ports without
            -- overrides.
            obtain ⟨text, line, htext, hports, rfl⟩ := Overrides.read_eq_error.mp hread
            cases hoverrides : b.overrides with
            | none =>
              rw [hoverrides] at htext
              cases htext
            | some overrides =>
              rw [hoverrides] at htext
              exact .ports hsome hkeys haction hoverrides htext hports
  · intro h
    unfold job
    cases h with
    | noMatches hitems => simp [hitems]
    | duplicate hitems hbefore hitem =>
      -- A reason carries what the earlier checks must have found, so that they are passed.
      have hrepeated := firstRepeated?_eq_some.mpr ⟨_, _, hitems, hbefore, hitem⟩
      have hsome : b.items ≠ [] := by simp [hitems]
      simp [hrepeated, hsome]
    | ports hitems hkeys haction hoverrides htext hread =>
      have hnone := firstRepeated?_eq_none.mpr hkeys
      have hwrong := Overrides.read_eq_error.mpr ⟨_, _, htext, hread, rfl⟩
      simp [hitems, hnone, haction, hoverrides, hwrong, Except.map]

/-- Only a redeployment has changes, and they are what its overrides come to. -/
theorem read_of_job {b : Batch} {changes : Changes} (h : b.job = .ok (.redeploy changes)) :
    b.action = .redeploy ∧ (b.overrides.getD .keep).read = .ok changes := by
  unfold job at h
  split at h
  · cases h
  · split at h
    · cases h
    · cases haction : b.action with
      | start | stop | delete =>
        rw [haction] at h
        cases h
      | redeploy =>
        rw [haction] at h
        cases hread : (b.overrides.getD .keep).read with
        | error cause =>
          rw [hread] at h
          cases h
        | ok found =>
          rw [hread] at h
          cases h
          exact ⟨rfl, rfl⟩

/-- The job of a redeployment is the one with the changes that its overrides come to. -/
theorem job_eq_redeploy {b : Batch} {job : Job} (haction : b.action = .redeploy)
    (hjob : b.job = .ok job) :
    ∃ changes, job = .redeploy changes ∧ (b.overrides.getD .keep).read = .ok changes := by
  unfold Batch.job at hjob
  rw [haction] at hjob
  split at hjob
  · cases hjob
  · split at hjob
    · cases hjob
    · cases hread : (b.overrides.getD .keep).read with
      | error cause =>
        rw [hread] at hjob
        cases hjob
      | ok changes =>
        rw [hread] at hjob
        cases hjob
        exact ⟨changes, rfl, rfl⟩

/-- Matches with different keys leave it to the action what is done to them. -/
theorem job_of_distinct {items : List Match} (hsome : items ≠ [])
    (hkeys : (items.map Match.key).Nodup) (action : Action) (overrides : Option Overrides) :
    (Batch.mk items action overrides).job =
      match action with
      | .start => .ok .start
      | .stop => .ok .stop
      | .delete => .ok .delete
      | .redeploy => (overrides.getD .keep).read.map .redeploy := by
  have hnone := firstRepeated?_eq_none.mpr hkeys
  cases action <;> simp [job, hsome, hnone]

/-- Matches with different keys are no reason to call one of them repeated. -/
theorem not_refusedFor_duplicate {b : Batch} (hkeys : (b.items.map Match.key).Nodup)
    (key : MatchKey) : ¬ b.RefusedFor (.invalid (.duplicateMatch key)) := by
  intro hrefused
  cases hrefused with
  | duplicate hitems hbefore hitem =>
    rw [hitems, List.map_append, List.nodup_append] at hkeys
    exact hkeys.2.2 _ hitem _ (List.mem_cons_self ..) rfl

/-- There is a reason to refuse a batch exactly if it has no matches, or a key occurs twice, or it
is a redeployment and the text of the ports is wrong; which one is told depends on their order. -/
theorem exists_refusedFor_iff {b : Batch} :
    (∃ refusal, b.RefusedFor refusal) ↔
      b.items = [] ∨ ¬ (b.items.map Match.key).Nodup ∨
        b.action = .redeploy ∧ ∃ overrides text cause, b.overrides = some overrides ∧
          overrides.portsText.bind Text.nonBlank? = some text ∧ readPorts text = .error cause := by
  constructor
  · rintro ⟨refusal, hrefused⟩
    cases hrefused with
    | noMatches hitems => exact .inl hitems
    | duplicate hitems hbefore hitem =>
      have hrepeated := firstRepeated?_eq_some.mpr ⟨_, _, hitems, hbefore, hitem⟩
      refine .inr (.inl fun hkeys => ?_)
      rw [firstRepeated?_eq_none.mpr hkeys] at hrepeated
      cases hrepeated
    | ports hitems hkeys haction hoverrides htext hread =>
      exact .inr (.inr ⟨haction, _, _, _, hoverrides, htext, hread⟩)
  · intro hwrong
    -- Which of them is told is decided as the checks are made, so the cases are split in their
    -- order.
    by_cases hitems : b.items = []
    · exact ⟨_, .noMatches hitems⟩
    · by_cases hkeys : (b.items.map Match.key).Nodup
      · rcases hwrong with hnone | hrepeated | ⟨haction, _, _, _, hoverrides, htext, hread⟩
        · exact absurd hnone hitems
        · exact absurd hkeys hrepeated
        · -- Ports are only ever refused for a line.
          obtain ⟨line, -, rfl⟩ := readPortLines_error hread
          exact ⟨_, .ports hitems hkeys haction hoverrides htext hread⟩
      · cases hrepeated : firstRepeated? Match.key b.items with
        | none => exact absurd (firstRepeated?_eq_none.mp hrepeated) hkeys
        | some item =>
          obtain ⟨before, after, hsplit, hbefore, hitem⟩ := firstRepeated?_eq_some.mp hrepeated
          exact ⟨_, .duplicate hsplit hbefore hitem⟩

/-- A batch that there is a reason to refuse makes no call and tells nobody to refresh. -/
theorem run_of_refusedFor {σ : Type} (w : World σ) {b : Batch} {refusal : Refusal}
    (h : b.RefusedFor refusal) (s : σ) : w.run b.run s = (.error refusal, ⟨s, []⟩) := by
  unfold run
  rw [job_eq_error.mpr h]
  rfl

/-- In every world a batch ends with a refusal exactly if there is a reason for it, and then it has
made no call and told nobody to refresh. -/
theorem run_eq_error {σ : Type} (w : World σ) (b : Batch) (s : σ) (refusal : Refusal) :
    (w.run b.run s).1 = .error refusal ↔
      b.RefusedFor refusal ∧ w.run b.run s = (.error refusal, ⟨s, []⟩) := by
  constructor
  · intro hrun
    cases hjob : b.job with
    | error cause =>
      have hrefused := run_of_refusedFor w (job_eq_error.mp hjob) s
      rw [hrefused] at hrun
      cases hrun
      exact ⟨job_eq_error.mp hjob, hrefused⟩
    | ok job =>
      -- A batch with a job gives a ledger.
      obtain ⟨_, ledger, last, -, hledger, -⟩ := w.run_attemptAll (attempt job) b.items ⟨s, []⟩
      rw [World.run, run_eq_attemptAll hjob, hledger] at hrun
      cases hrun
  · rintro ⟨-, hrun⟩
    rw [hrun]

end Flotilla.Batch
