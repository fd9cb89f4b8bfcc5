import Flotilla.Cluster.Session
import Flotilla.Proofs.Batch.Protocol
import Flotilla.Proofs.Migration.Protocol

/-!
# Cancellation Cuts Between Items

A token that is cancelled at some moment, perhaps in the middle of an item, ends a batch or a
migration before the next item and does nothing else. The run that it ends is compared with the
run that nobody cancels, in the same world and from the same state.

- `CutShort`: a cancelled run is what the undisturbed one is after its first items. Their number is
  that of the items before which the token was not cancelled yet.
- `cancellation_cuts_between_items`: the main result, for every batch and every migration that is
  accepted.
-/

namespace Flotilla

variable {ι σ : Type}

/-! ## §1 Attempts at the first items -/

namespace World

variable (w : World σ) (attempt : Nat → ι → Remote Entry)

/-- The attempts at some items are those at the first ones and then, from where they end, those at
the others. -/
theorem attempted_take_drop (index : Nat) (items : List ι) (r : Run σ) (n : Nat) :
    w.attempted attempt index items r =
      ((w.attempted attempt index (items.take n) r).1 ++
          (w.attempted attempt (index + n) (items.drop n)
            (w.attempted attempt index (items.take n) r).2).1,
        (w.attempted attempt (index + n) (items.drop n)
          (w.attempted attempt index (items.take n) r).2).2) := by
  -- By induction on the items; an item more at the front is an index more behind it.
  induction items generalizing index r n with
  | nil => simp
  | cons item rest ih =>
    cases n with
    | zero => simp
    | succ n =>
      have hindex : index + (n + 1) = index + 1 + n := by omega
      rw [List.take_succ_cons, List.drop_succ_cons, attempted_cons, attempted_cons, ih, hindex]
      rfl

end World

/-! ## §2 A run that is cut short -/

/-- The token stops a run after `done` of its items. The undisturbed run ends with a ledger after
all items, this one after the first `done` items of the undisturbed run: it has the same entries,
the same events but for the last refresh, and the same state as that run has there. From there
the undisturbed run goes on with the other items. -/
structure CutShort (w : World σ) (attempt : Nat → ι → Remote Entry) (items : List ι)
    (start : Run σ) (done : Nat) (whole cut : Ledger × Run σ) : Prop where
  stops : StopsAfter w.cancelled
    (fun i => (w.undisturbed.attempted attempt 1 (items.take i) start).2.events) items.length done
  whole_ends : EndedAfter (w.undisturbed.attempted attempt 1 items start) items.length
    whole.1 whole.2
  cut_ends : EndedAfter (w.undisturbed.attempted attempt 1 (items.take done) start) items.length
    cut.1 cut.2
  goes_on : w.undisturbed.attempted attempt 1 items start =
    (cut.1.entries ++ (w.undisturbed.attempted attempt (1 + done) (items.drop done)
        (w.undisturbed.attempted attempt 1 (items.take done) start).2).1,
      (w.undisturbed.attempted attempt (1 + done) (items.drop done)
        (w.undisturbed.attempted attempt 1 (items.take done) start).2).2)

/-- A loop whose attempts only make calls is cut short by the token. -/
theorem cutShort_attemptAll (w : World σ) {attempt : Nat → ι → Remote Entry}
    (hcalls : ∀ index item, (attempt index item).OnlyCalls) (items : List ι) (start : Run σ) :
    ∃ done whole cut,
      (attemptAll attempt items).run w.undisturbed.answer start = (.ok whole.1, whole.2) ∧
      (attemptAll attempt items).run w.answer start = (.ok cut.1, cut.2) ∧
      CutShort w attempt items start done whole cut := by
  obtain ⟨done, cut, cutLast, hstops, hcut, hcutEnds⟩ := w.run_attemptAll attempt items start
  obtain ⟨all, whole, wholeLast, hgoesOn, hwhole, hwholeEnds⟩ :=
    w.undisturbed.run_attemptAll attempt items start
  -- Nothing stops the undisturbed run before its last item.
  have hall : all = items.length := hgoesOn.eq_total
  rw [hall, List.take_length] at hwholeEnds
  -- The token does not show in what the attempts do.
  have hsame : ∀ i, w.attempted attempt 1 (items.take i) start =
      w.undisturbed.attempted attempt 1 (items.take i) start :=
    fun i => (w.attempted_undisturbed hcalls 1 _ start).symm
  simp only [hsame] at hstops hcutEnds
  refine ⟨done, (whole, wholeLast), (cut, cutLast), hwhole, hcut, hstops, hwholeEnds, hcutEnds, ?_⟩
  simp only [hcutEnds.entries]
  exact w.undisturbed.attempted_take_drop attempt 1 items start done

/-! ## §3 Batches and migrations -/

/-- **Cancellation cuts a run between two items and is otherwise invisible**, in every world and
from every state, whenever the token is cancelled. A batch with a job is cut short after some of
its matches. A migration that is accepted where nobody cancels is accepted with this token as
well; it begins in the same way and is cut short after some of the listed containers. -/
theorem cancellation_cuts_between_items (w : World σ) (s : σ) :
    (∀ (b : Batch) (job : Batch.Job), b.job = .ok job →
      ∃ done whole cut,
        w.undisturbed.run b.run s = (.ok whole.1, whole.2) ∧
        w.run b.run s = (.ok cut.1, cut.2) ∧
        CutShort w (Batch.attempt job) b.items ⟨s, []⟩ done whole cut) ∧
    (∀ (m : Migration) (ledger : Ledger), (w.undisturbed.run m.run s).1 = .ok ledger →
      ∃ source target containers start, m.Begins w s source target containers start ∧
        ∃ done whole cut,
          w.undisturbed.run m.run s = (.ok whole.1, whole.2) ∧
          w.run m.run s = (.ok cut.1, cut.2) ∧
          CutShort w (Migration.attempt m.keepSource source target) containers start done whole
            cut) := by
  constructor
  · -- A batch is the loop from the beginning.
    intro b job hjob
    rw [World.run, World.run, Batch.run_eq_attemptAll hjob]
    exact cutShort_attemptAll w (Batch.onlyCalls_attempt job) b.items ⟨s, []⟩
  · intro m ledger hledger
    -- What comes before the loop of a migration does not look at the token, so it is the same for
    -- both.
    obtain ⟨source, target, containers, start, hbegins⟩ := Migration.begins_of_run_ok hledger
    refine ⟨source, target, containers, start, hbegins.undisturbed, ?_⟩
    rw [hbegins.run_eq, hbegins.undisturbed.run_eq]
    exact cutShort_attemptAll w (Migration.onlyCalls_attempt m.keepSource source target)
      containers start

/-- The sample cluster with a token that is cancelled after three calls. -/
def interrupted : World Cluster :=
  Cluster.world (Session.tokenAfter (some 3))

set_option maxRecDepth 4000 in
/-- In the sample batch, this token is cancelled between a deletion and the creation that follows
it. The batch and the sample migration both end after one item. -/
theorem sample_runs_cut_between_items :
    Batch.sample.job = .ok (.redeploy ⟨none, none, none, none, true⟩) ∧
    (interrupted.undisturbed.run Migration.sample.run Cluster.sample).1 =
      .ok Migration.sampleLedger ∧
    (interrupted.run Batch.sample.run Cluster.sample).1.map (·.entries.length) = .ok 1 ∧
    (interrupted.run Migration.sample.run Cluster.sample).1.map (·.entries.length) = .ok 1 ∧
    (∃ done whole cut,
      interrupted.undisturbed.run Batch.sample.run Cluster.sample = (.ok whole.1, whole.2) ∧
      interrupted.run Batch.sample.run Cluster.sample = (.ok cut.1, cut.2) ∧
      CutShort interrupted (Batch.attempt (.redeploy ⟨none, none, none, none, true⟩))
        Batch.sample.items ⟨Cluster.sample, []⟩ done whole cut) ∧
    ∃ source target containers start,
      Migration.sample.Begins interrupted Cluster.sample source target containers start ∧
      ∃ done whole cut,
        interrupted.undisturbed.run Migration.sample.run Cluster.sample =
          (.ok whole.1, whole.2) ∧
        interrupted.run Migration.sample.run Cluster.sample = (.ok cut.1, cut.2) ∧
        CutShort interrupted (Migration.attempt Migration.sample.keepSource source target)
          containers start done whole cut := by
  have hjob : Batch.sample.job = .ok (.redeploy ⟨none, none, none, none, true⟩) := rfl
  have hledger : (interrupted.undisturbed.run Migration.sample.run Cluster.sample).1 =
      .ok Migration.sampleLedger := rfl
  have hcut := cancellation_cuts_between_items interrupted Cluster.sample
  exact ⟨hjob, hledger, rfl, rfl, hcut.1 _ _ hjob, hcut.2 _ _ hledger⟩

end Flotilla
