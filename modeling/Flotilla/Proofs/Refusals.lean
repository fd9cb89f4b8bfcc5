import Flotilla.Proofs.Batch.Protocol
import Flotilla.Proofs.Batch.Refused
import Flotilla.Proofs.Cluster.Calls
import Flotilla.Proofs.Migration.Protocol
import Flotilla.Proofs.Scan

/-!
# Refused Operations Change Nothing

A batch or a migration that is refused has done nothing to any container, and a scan never does. The
refusals are those of the gates, and what has been asked until then is what the gates need.

This collects what `Batch.run_eq_error`, `Migration.refusedFor_of_run` and `Scan.only_lists` say.
-/

namespace Flotilla

variable {σ : Type}

/-- **Refused operations change nothing**, in every world and from every state.

A batch is refused exactly if it has no matches, or two of them have the same key, or it is a
redeployment with a wrong text of ports; it has the refusal of the first such gate, and nothing has
happened. A migration is refused exactly if it lacks something; it has failed at the first gate for
which this is so, with the events of that gate, and it has at most asked for the nodes and for the
containers of the source. A scan, plain or best-effort, only ever lists. -/
theorem refused_operations_change_nothing (w : World σ) (s : σ) :
    (∀ b : Batch,
      ((∃ refusal, (w.run b.run s).1 = .error refusal) ↔
        b.items = [] ∨ ¬ (b.items.map Match.key).Nodup ∨
          b.action = .redeploy ∧ ∃ overrides text cause, b.overrides = some overrides ∧
            overrides.portsText.bind Text.nonBlank? = some text ∧ readPorts text = .error cause) ∧
      ∀ refusal, (w.run b.run s).1 = .error refusal →
        b.RefusedFor refusal ∧ w.run b.run s = (.error refusal, ⟨s, []⟩)) ∧
    (∀ m : Migration,
      ((∃ refusal, (w.run m.run s).1 = .error refusal) ↔ m.Lacks w s) ∧
      ∀ refusal, (w.run m.run s).1 = .error refusal →
        m.RefusedFor w s refusal (w.run m.run s).2.events ∧
        callsOf (w.run m.run s).2.events <+: [.nodes, .list (Text.trim m.source)] ∧
        ∀ e ∈ (w.run m.run s).2.events, e.isRefresh = false) ∧
    ∀ nodes filter,
      (∀ e ∈ (w.run (scan nodes filter) s).2.events, e.IsListing) ∧
      ∀ e ∈ (w.run (scanBestEffort nodes filter) s).2.events, e.IsListing := by
  refine ⟨fun b => ⟨?_, fun refusal hrefused => ?_⟩, fun m => ⟨?_, fun refusal hrefused => ?_⟩,
    fun nodes filter => ⟨?_, ?_⟩⟩
  · -- A batch is refused exactly with the reasons that there are, and the rest follows from each of
    -- them.
    rw [← Batch.exists_refusedFor_iff]
    refine exists_congr fun refusal => ?_
    rw [Batch.run_eq_error]
    exact and_iff_left_of_imp fun hrefused => Batch.run_of_refusedFor w hrefused s
  · exact (Batch.run_eq_error w b s refusal).mp hrefused
  · exact Migration.run_eq_error m w s
  · -- The gate at which a migration has failed says which calls came before it.
    have hgate := Migration.refusedFor_of_run hrefused
    exact ⟨hgate, hgate.calls⟩
  · exact Scan.only_lists (w.run_yields (scan nodes filter) s)
  · exact Scan.bestEffort_only_lists (w.run_yields (scanBestEffort nodes filter) s)

/-- The sample batch with its matches once more, in the other order. -/
def Batch.repeating : Batch :=
  { Batch.sample with items := Batch.sample.items ++ Batch.sample.items.reverse }

/-- A migration to a node that is not in the sample registry. -/
def Migration.astray : Migration :=
  { Migration.sample with target := "z" }

/-- The first match that is repeated is the second one, and the second node is looked for in the
registry before the first one is listed. -/
theorem sample_refused_operations_change_nothing :
    ((Cluster.world fun _ => false).run Batch.repeating.run Cluster.sample).1 =
      .error (.invalid (.duplicateMatch ⟨"a", "2"⟩)) ∧
    Batch.repeating.RefusedFor (.invalid (.duplicateMatch ⟨"a", "2"⟩)) ∧
    ((Cluster.world fun _ => false).run Migration.astray.run Cluster.sample).1 =
      .error (.unmet (.nodeNotFound "z")) ∧
    Migration.astray.Lacks (Cluster.world fun _ => false) Cluster.sample ∧
    Migration.astray.RefusedFor (Cluster.world fun _ => false) Cluster.sample
      (.unmet (.nodeNotFound "z"))
      ((Cluster.world fun _ => false).run Migration.astray.run Cluster.sample).2.events ∧
    ∀ e ∈ ((Cluster.world fun _ => false).run (scan Cluster.sample.nodes "web")
      Cluster.sample).2.events, e.IsListing := by
  have hbatch : ((Cluster.world fun _ => false).run Batch.repeating.run Cluster.sample).1 =
      .error (.invalid (.duplicateMatch ⟨"a", "2"⟩)) := rfl
  have hmigration : ((Cluster.world fun _ => false).run Migration.astray.run Cluster.sample).1 =
      .error (.unmet (.nodeNotFound "z")) := rfl
  obtain ⟨hbatches, hmigrations, hscans⟩ :=
    refused_operations_change_nothing (Cluster.world fun _ => false) Cluster.sample
  obtain ⟨hlacks, hgates⟩ := hmigrations Migration.astray
  exact ⟨hbatch, ((hbatches Batch.repeating).2 _ hbatch).1, hmigration,
    hlacks.mp ⟨_, hmigration⟩, (hgates _ hmigration).1, (hscans _ _).1⟩

end Flotilla
