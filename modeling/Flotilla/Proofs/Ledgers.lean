import Flotilla.Cluster.Session
import Flotilla.Proofs.Batch.Protocol
import Flotilla.Proofs.Migration.Protocol
import Mathlib.Data.List.Perm.Subperm

/-!
# Ledgers Account for Every Item

A ledger tells of the first items of its batch, of each of them once and in their order, and it is
marked as cancelled exactly if some items are missing. The views are told to refresh once, at the
very end.

- `AccountsFor`: what a ledger has to do with the keys of the items and with what happened.
- `Ledger.Covers`: a ledger tells of a success for every one of some keys.
- `ledgers_account_for_items`: the main result, for batches and migrations in every world.
-/

namespace Flotilla

variable {ι σ : Type}

/-- The ledger tells of the items with these keys, as far as they were attempted, and the events
are those of a run that ends with it. -/
structure AccountsFor (keys : List MatchKey) (events : List Event) (ledger : Ledger) : Prop where
  attempted : ledger.entries.map (·.key) = keys.take ledger.entries.length
  cancelled : ledger.cancelled = true ↔ ledger.entries.length < keys.length
  finished : ledger.finishedAt.isSome = true
  counted : ledger.failed + ledger.succeeded = ledger.entries.length
  refreshed : ∃ calls, events = calls ++ [.refreshed] ∧ ∀ e ∈ calls, e.isRefresh = false

/-- Every entry is a failure or a success. -/
theorem Ledger.failed_add_succeeded (l : Ledger) :
    l.failed + l.succeeded = l.entries.length := by
  unfold failed succeeded
  rw [Nat.add_comm, List.length_eq_countP_add_countP (·.ok)]
  congr 2
  funext e
  simp

/-- The ledger has an entry that is a success for every one of the keys; a key that is there twice
takes two entries. -/
def Ledger.Covers (l : Ledger) (keys : List MatchKey) : Prop :=
  keys.Subperm ((l.entries.filter (·.ok)).map (·.key))

/-- A ledger that accounts for its items covers them exactly if nothing failed and nothing was
left. -/
theorem AccountsFor.covers_iff {keys : List MatchKey} {events : List Event} {l : Ledger}
    (h : AccountsFor keys events l) :
    l.Covers keys ↔ l.hasFailures = false ∧ l.cancelled = false := by
  -- There are no more entries than keys, as the entries are for the first of them.
  have hattempted : l.entries.length ≤ keys.length := by
    have hlength := congrArg List.length h.attempted
    rw [List.length_map, List.length_take] at hlength
    omega
  constructor
  · intro hcovers
    -- There are as many successes as keys, so no entry is anything else and no key is left.
    have hsucceeded := hcovers.length_le
    rw [List.length_map] at hsucceeded
    have hfilter := List.length_filter_le (·.ok) l.entries
    constructor
    · have hall := List.length_filter_eq_length_iff.mp (by omega :
        (l.entries.filter (·.ok)).length = l.entries.length)
      simpa [Ledger.hasFailures] using hall
    · rw [Bool.eq_false_iff]
      intro hcancelled
      have := h.cancelled.mp hcancelled
      omega
  · rintro ⟨hfailures, hcancelled⟩
    -- All entries are successes, and they stand for all keys, not only for the first ones.
    have hall : l.entries.filter (·.ok) = l.entries := by
      rw [List.filter_eq_self]
      simpa [Ledger.hasFailures] using hfailures
    have hlength : ¬l.entries.length < keys.length := by
      rw [← h.cancelled, hcancelled]
      simp
    unfold Ledger.Covers
    rw [hall, h.attempted, List.take_of_length_le (by omega)]

/-- The ledger of a loop whose attempts only make calls accounts for the items. -/
theorem accountsFor_attemptAll {w : World σ} {attempt : Nat → ι → Remote Entry} {key : ι → MatchKey}
    (hcalls : ∀ index item, (attempt index item).OnlyCalls)
    (hkey : ∀ index item r, ((attempt index item).run w.answer r).1.key = key item)
    {items : List ι} {start : Run σ} {ledger : Ledger}
    (hstart : ∀ e ∈ start.events, e.isRefresh = false)
    (hledger : ((attemptAll attempt items).run w.answer start).1 = .ok ledger) :
    ∃ calls,
      ((attemptAll attempt items).run w.answer start).2.events =
        start.events ++ calls ++ [.refreshed] ∧
      AccountsFor (items.map key) ((attemptAll attempt items).run w.answer start).2.events
        ledger := by
  obtain ⟨done, found, last, hstops, hrun, hends⟩ := w.run_attemptAll attempt items start
  rw [hrun] at hledger ⊢
  cases hledger
  have hlength := w.length_attempted_take attempt 1 start hstops.le
  -- The attempts leave no refresh, so the one at the end is the only one.
  obtain ⟨calls, happ, hnone⟩ := w.events_attempted hcalls 1 (items.take done) start
  have hlast : last.events = start.events ++ calls ++ [.refreshed] := by rw [hends.events, happ]
  refine ⟨calls, hlast, ?_, ?_, hends.finished, ledger.failed_add_succeeded, _, hlast, ?_⟩
  · rw [hends.entries, w.keys_attempted attempt hkey, hlength, List.map_take]
  · rw [hends.cancelled, hends.entries, List.length_map, decide_eq_true_iff]
  · intro e he
    rcases List.mem_append.mp he with he | he
    · exact hstart e he
    · exact hnone e he

theorem Batch.accountsFor {w : World σ} {b : Batch} {s : σ} {ledger : Ledger}
    (hledger : (w.run b.run s).1 = .ok ledger) :
    AccountsFor (b.items.map (·.key)) (w.run b.run s).2.events ledger := by
  obtain ⟨job, hjob⟩ := Batch.job_of_run_ok hledger
  rw [World.run, Batch.run_eq_attemptAll hjob] at hledger ⊢
  obtain ⟨calls, -, haccounts⟩ := accountsFor_attemptAll (Batch.onlyCalls_attempt job)
    (Batch.key_attempt w job) (by simp) hledger
  exact haccounts

/-- The items of a migration are the containers that the source listed to it. -/
theorem Migration.accountsFor {w : World σ} {m : Migration} {s : σ} {ledger : Ledger}
    (hledger : (w.run m.run s).1 = .ok ledger) :
    ∃ nodes containers rest,
      (w.run m.run s).2.events = .exchange .nodes (.ok nodes) ::
        .exchange (.list (Text.trim m.source)) (.ok containers) :: rest ∧
      AccountsFor (containers.map fun container => ⟨Text.trim m.source, container.id⟩)
        (w.run m.run s).2.events ledger := by
  -- A migration with a ledger has begun: the registry and the listing come before its loop.
  obtain ⟨source, target, containers, start, hbegins⟩ := Migration.begins_of_run_ok hledger
  obtain ⟨nodes, -, hends, hevents⟩ := hbegins.registry
  have hsource : source.id = Text.trim m.source := (Migration.ids_of_endpoints hends).1
  rw [hbegins.run_eq] at hledger ⊢
  obtain ⟨calls, hlast, haccounts⟩ :=
    accountsFor_attemptAll (Migration.onlyCalls_attempt m.keepSource source target)
      (Migration.key_attempt w m.keepSource source target)
      (by simp [hevents, Event.isRefresh]) hledger
  rw [← hsource]
  exact ⟨nodes, containers, _, by rw [hlast, hevents]; rfl, haccounts⟩

/-- **A ledger accounts for every item**, in every world and from every state: the ledger of a
batch for its matches, that of a migration for the containers that the source listed. -/
theorem ledgers_account_for_items (w : World σ) (s : σ) :
    (∀ (b : Batch) (ledger : Ledger), (w.run b.run s).1 = .ok ledger →
      AccountsFor (b.items.map (·.key)) (w.run b.run s).2.events ledger) ∧
    (∀ (m : Migration) (ledger : Ledger), (w.run m.run s).1 = .ok ledger →
      ∃ nodes containers rest,
        (w.run m.run s).2.events = .exchange .nodes (.ok nodes) ::
          .exchange (.list (Text.trim m.source)) (.ok containers) :: rest ∧
        AccountsFor (containers.map fun container => ⟨Text.trim m.source, container.id⟩)
          (w.run m.run s).2.events ledger) :=
  ⟨fun _ _ hledger => Batch.accountsFor hledger, fun _ _ hledger => Migration.accountsFor hledger⟩

set_option maxRecDepth 4000 in
/-- Both tokens are cancelled during the last item, and neither ledger is marked. -/
theorem sample_ledgers_account_for_items :
    ((Cluster.world (Session.tokenAfter (some 6))).run Batch.sample.run Cluster.sample).1 =
      .ok Batch.sampleLedger ∧
    AccountsFor [⟨"a", "1"⟩, ⟨"a", "2"⟩]
      ((Cluster.world (Session.tokenAfter (some 6))).run Batch.sample.run Cluster.sample).2.events
      Batch.sampleLedger ∧
    ((Cluster.world (Session.tokenAfter (some 8))).run Migration.sample.run Cluster.sample).1 =
      .ok Migration.sampleLedger ∧
    ∃ nodes containers rest,
      ((Cluster.world (Session.tokenAfter (some 8))).run Migration.sample.run
        Cluster.sample).2.events = .exchange .nodes (.ok nodes) ::
          .exchange (.list (Text.trim Migration.sample.source)) (.ok containers) :: rest ∧
      AccountsFor (containers.map fun container =>
          ⟨Text.trim Migration.sample.source, container.id⟩)
        ((Cluster.world (Session.tokenAfter (some 8))).run Migration.sample.run
          Cluster.sample).2.events Migration.sampleLedger := by
  have hbatch : ((Cluster.world (Session.tokenAfter (some 6))).run Batch.sample.run
      Cluster.sample).1 = .ok Batch.sampleLedger := rfl
  have hmigration : ((Cluster.world (Session.tokenAfter (some 8))).run Migration.sample.run
      Cluster.sample).1 = .ok Migration.sampleLedger := rfl
  exact ⟨hbatch,
    (ledgers_account_for_items (Cluster.world (Session.tokenAfter (some 6))) Cluster.sample).1 _ _
      hbatch,
    hmigration,
    (ledgers_account_for_items (Cluster.world (Session.tokenAfter (some 8))) Cluster.sample).2 _ _
      hmigration⟩

end Flotilla
