import Flotilla.Cluster.Session
import Flotilla.Proofs.Batch.Census
import Flotilla.Proofs.Batch.Refused
import Flotilla.Proofs.Cluster.Quiet
import Flotilla.Proofs.Scan.Cluster
import Flotilla.Proofs.Sorting

/-!
# Scanning Again After a Deletion

A batch that deletes what a scan has found takes away exactly the containers of its successful
entries. A second scan of the same nodes then finds the first matches without those, as they were
and in the same order: dropping containers commutes with each step from the listings to the matches.

- `Scan.collect_filter`: containers of certain keys can be dropped before or after everything that a
  scan does with listings.
- `Batch.Deleted`: what a deletion did, with the entry that tells of it; `Batch.held_of_deletions`:
  what all deletions of a batch did.
- `rescan_after_deletion`: the main result.
-/

namespace Flotilla

open Cluster

/-! ## §1 Dropping before and after a scan -/

namespace Scan

/-- Containers of certain keys can be dropped from the listings or from the matches. -/
theorem flatMap_matchesIn_filter (p : MatchKey → Bool) (query : String) (nodes : List Node)
    (listing : String → List Container) :
    (listings nodes fun id => (listing id).filter fun c => p ⟨id, c.id⟩).flatMap (matchesIn query) =
      ((listings nodes listing).flatMap (matchesIn query)).filter fun m => p m.key := by
  -- By induction on the nodes: on each of them the key of a match is made of the node and of the
  -- id.
  induction nodes with
  | nil => rfl
  | cons node rest ih =>
    have hnode : matchesIn query (node, (listing node.id).filter fun c => p ⟨node.id, c.id⟩) =
        (matchesIn query (node, listing node.id)).filter fun m => p m.key := by
      unfold matchesIn
      rw [List.filter_map, List.filter_comm]
      rfl
    simp only [listings, List.map_cons, List.flatMap_cons, List.filter_append] at ih ⊢
    rw [hnode, ih]

theorem collect_filter (p : MatchKey → Bool) (filter : String) (nodes : List Node)
    (listing : String → List Container) :
    collect filter (listings nodes fun id => (listing id).filter fun c => p ⟨id, c.id⟩) =
      (collect filter (listings nodes listing)).filter fun m => p m.key := by
  -- Sorting and dropping commute because the order is total and transitive.
  have hsort := @filter_mergeSort _ le (fun _ _ _ => le_trans) le_total
  unfold collect
  rw [flatMap_matchesIn_filter, distinctBy_filter p, hsort]

end Scan

/-! ## §2 What deletions did -/

namespace Batch

open Remote

/-- What a deletion did, with the entry that tells of it: a success removed the container that the
match means, a failure did nothing. -/
structure Deleted (_ : Nat) (item : Match) (entry : Entry) (held last : Holdings) : Prop where
  key : entry.key = item.key
  removed : entry.ok = true → last =
    Function.update held item.nodeId (removeFirst item.container.id (held item.nodeId))
  kept : entry.ok = false → last = held

theorem deleted_of_yields {index : Nat} {item : Match} {entry : Entry} {events : List Event}
    {nodes : List Node} {held last : Holdings}
    (hyields : Yields (attempt .delete index item) events entry)
    (heffects : Effects nodes events held last) : Deleted index item entry held last := by
  obtain ⟨outcome, hperform, rfl⟩ := yields_attempt hyields
  have hlog : SingleLog (.exchange (.delete item.nodeId item.container.id)) "deleted" events
      outcome := yields_perform hperform
  -- The log has one exchange, whose answer decides what the cluster did.
  cases hlog with
  | done =>
    cases effects_single heffects with
    | delete hthere =>
      refine ⟨rfl, fun _ => rfl, ?_⟩
      intro hfailed
      cases hfailed
  | failed fault =>
    cases effects_single heffects
    refine ⟨rfl, ?_, fun _ => rfl⟩
    intro hok
    cases hok

variable {index : Nat} {items : List Match} {entries : List Entry} {held last : Holdings}

theorem Deleted.at_node {item : Match} {entry : Entry} (h : Deleted index item entry held last)
    (node : String) : last node = removeFirsts (goneFrom node .delete [entry]) (held node) := by
  have hnode : entry.key.nodeId = item.nodeId := congrArg MatchKey.nodeId h.key
  have hid : entry.key.containerId = item.container.id := congrArg MatchKey.containerId h.key
  -- A failure names nothing that is gone, a success names its container on its own node.
  cases hok : entry.ok with
  | false =>
    rw [h.kept hok]
    simp [goneFrom, Job.loses, Job.replaces, hok, removeFirsts]
  | true =>
    rw [h.removed hok]
    by_cases hsame : node = item.nodeId
    · subst hsame
      rw [Function.update_self]
      simp [goneFrom, Job.loses, hok, hnode, hid, removeFirsts]
    · rw [Function.update_of_ne hsame]
      simp [goneFrom, hnode, Ne.symm hsame, removeFirsts]

/-- All deletions removed from a node the containers of its successful entries. -/
theorem held_of_deletions (h : OneByOne Deleted index items entries held last) (node : String) :
    last node = removeFirsts (goneFrom node .delete entries) (held node) := by
  -- By induction on the items: what the first one removed is removed before the rest.
  induction h with
  | nil index held => rfl
  | @cons index item entry rest entries held mid last first others ih =>
    have hsplit : goneFrom node .delete (entry :: entries) =
        goneFrom node .delete [entry] ++ goneFrom node .delete entries :=
      goneFrom_append .delete node [entry] entries
    rw [ih, first.at_node node, hsplit, removeFirsts_append]

/-- Whether some entry says that the container with a key was deleted. -/
def isDeleted (entries : List Entry) (key : MatchKey) : Bool :=
  entries.any fun e => e.ok && e.key = key

theorem mem_goneFrom_delete {node id : String} :
    id ∈ goneFrom node .delete entries ↔ isDeleted entries ⟨node, id⟩ = true := by
  unfold goneFrom isDeleted
  rw [List.mem_map, List.any_eq_true]
  -- The two sides name the same entries, with the node and the id apart or as one key.
  refine exists_congr fun e => ?_
  cases hkey : e.key
  simp [Job.loses, Job.replaces, hkey, and_assoc, and_left_comm]

/-- Where ids are different, the containers of the successful entries are gone, and no others. -/
theorem shown_of_deletions {before after : Cluster}
    (h : OneByOne Deleted index items entries before.held after.held)
    (hids : ∀ node, ((before.held node).map (·.summary.id)).Nodup) (node : String) :
    after.shown node = (before.shown node).filter fun c => !isDeleted entries ⟨node, c.id⟩ := by
  unfold Cluster.shown
  rw [held_of_deletions h, removeFirsts_eq_filter _ (hids node), List.filter_map]
  congr 2
  funext held
  simp [mem_goneFrom_delete]

end Batch

/-! ## §3 Scan, deletion, scan -/

/-- **A scan after a deletion finds what was not deleted**, in a cluster where the containers of
every node have different ids, with any rules that let calls fail and wherever the batch is
cancelled. A scan has found some matches, and a batch deletes them. It gives a ledger, and if no
listing fails when the same scan is made again, this one finds exactly the matches whose keys have
no successful entry in the ledger, as they were and in the same order. -/
theorem rescan_after_deletion {k : Cluster}
    (hids : ∀ node, ((k.held node).map (·.summary.id)).Nodup) {nodes : List Node} {filter : String}
    {found : List Match} {scanning : List Event → Bool} {first : Run Cluster}
    (hfirst : (world scanning).run (scan nodes filter) k = (.ok found, first)) (hsome : found ≠ [])
    (overrides : Option Overrides) (deleting : List Event → Bool) :
    ∃ ledger last,
      (world deleting).run (Batch.mk found .delete overrides).run first.state = (.ok ledger, last) ∧
      ∀ rescanning result again,
        (world rescanning).run (scan nodes filter) last.state = (result, again) →
        (∀ id fault, Event.exchange (.list id) (.error fault) ∉ again.events) →
        result = .ok (found.filter fun m =>
          !ledger.entries.any fun e => e.ok && e.key = m.key) := by
  -- The first scan has collected from what was held, and it has changed nothing.
  obtain ⟨hnodes, hfound, hheld⟩ := Scan.collected_of_run hfirst
  have hkeys : (found.map Match.key).Nodup := by
    rw [hfound]
    exact Scan.nodup_key_collect _
  obtain ⟨ledger, last, done, hrun, hsteps⟩ := Batch.run_oneByOne Batch.Deleted
    (fun _ _ _ _ _ _ _ hyields heffects => Batch.deleted_of_yields hyields heffects)
    first.state deleting (Batch.job_of_distinct hsome hkeys .delete overrides)
  refine ⟨ledger, last, hrun, ?_⟩
  intro rescanning result again hagain hnone
  -- The second one collects from what is held after the batch, as no listing fails.
  have hrescan : ((world rescanning).run (scan nodes filter) last.state).1 =
      .ok (Scan.collect filter (Scan.listings (distinctBy Node.id nodes) last.state.shown)) := by
    apply Scan.run_scan_world hnodes
    rw [hagain]
    exact hnone
  rw [hagain] at hrescan
  have hfirstIds : ∀ node, ((first.state.held node).map (·.summary.id)).Nodup := by
    intro node
    rw [hheld]
    exact hids node
  -- What is left is what was there before the batch, without what was deleted.
  have hshown : last.state.shown = fun node =>
      (k.shown node).filter fun c => !Batch.isDeleted ledger.entries ⟨node, c.id⟩ := by
    funext node
    rw [Batch.shown_of_deletions hsteps hfirstIds]
    unfold Cluster.shown
    rw [hheld]
  calc result
      = .ok (Scan.collect filter (Scan.listings (distinctBy Node.id nodes) last.state.shown)) :=
        hrescan
    _ = .ok (found.filter fun m => !Batch.isDeleted ledger.entries m.key) := by
        rw [hshown, Scan.collect_filter fun key => !Batch.isDeleted ledger.entries key, ← hfound]

/-- The matches of the sample cluster. -/
def Batch.sampleFound : List Match :=
  [⟨"a", "a...", "a", (sampleHeld "1" "web").summary⟩,
    ⟨"a", "a...", "a", (sampleHeld "2" "db").summary⟩,
    ⟨"b", "b...", "b", (sampleHeld "9" "web").summary⟩]

set_option maxRecDepth 4000 in
/-- One container is deleted, one cannot be deleted, and one is not attempted. -/
theorem sample_rescan_after_deletion :
    (∀ node, ((Cluster.sample.held node).map (·.summary.id)).Nodup) ∧
    ∃ first ledger last again,
      (world fun _ => false).run (scan Cluster.sample.nodes " ") Cluster.sample =
        (.ok Batch.sampleFound, first) ∧
      Batch.sampleFound ≠ [] ∧
      (world (Session.tokenAfter (some 2))).run (Batch.mk Batch.sampleFound .delete none).run
        first.state = (.ok ledger, last) ∧
      ledger.entries.map (fun e => (e.key, e.ok)) = [(⟨"a", "1"⟩, true), (⟨"a", "2"⟩, false)] ∧
      (∀ id fault, Event.exchange (.list id) (.error fault) ∉ again.events) ∧
      (world fun _ => false).run (scan Cluster.sample.nodes " ") last.state =
        (.ok (Batch.sampleFound.filter fun m =>
          !ledger.entries.any fun e => e.ok && e.key = m.key), again) := by
  have hids : ∀ node, ((Cluster.sample.held node).map (·.summary.id)).Nodup :=
    of_hosts (P := fun list => (list.map (·.summary.id)).Nodup) .nil (by decide)
  have hscan : (world fun _ => false).run (scan Cluster.sample.nodes " ") Cluster.sample =
      (.ok Batch.sampleFound, ⟨Cluster.sample,
        [.exchange (.list "a") (.ok (Cluster.sample.shown "a")),
          .exchange (.list "b") (.ok (Cluster.sample.shown "b"))]⟩) := by
    -- The matches are in order already.
    have hsorted : Batch.sampleFound.mergeSort Scan.le = Batch.sampleFound :=
      List.mergeSort_of_pairwise (by decide)
    rw [← hsorted]
    rfl
  have hsome : Batch.sampleFound ≠ [] := by decide
  obtain ⟨ledger, last, hrun, hrescan⟩ :=
    rescan_after_deletion hids hscan hsome none (Session.tokenAfter (some 2))
  have hentries : (Except.ok ledger : Except Refusal Ledger).map
      (fun l => l.entries.map fun e => (e.key, e.ok)) =
        .ok [(⟨"a", "1"⟩, true), (⟨"a", "2"⟩, false)] := by
    show ((Except.ok ledger, last) : Except Refusal Ledger × Run Cluster).1.map _ = _
    rw [← hrun]
    rfl
  have hlast : last.state = { Cluster.sample with
      hosts := [("a", [sampleHeld "2" "db"]), ("b", [sampleHeld "9" "web"])] } := by
    show ((Except.ok ledger, last) : Except Refusal Ledger × Run Cluster).2.state = _
    rw [← hrun]
    rfl
  -- The events of the second scan are two answered listings.
  have hnone : ∀ id fault, Event.exchange (.list id) (.error fault) ∉
      ((world fun _ => false).run (scan Cluster.sample.nodes " ") last.state).2.events := by
    intro id fault
    rw [hlast]
    show _ ∉ [Event.exchange (.list "a") (.ok [(sampleHeld "2" "db").summary]),
      .exchange (.list "b") (.ok [(sampleHeld "9" "web").summary])]
    simp
  refine ⟨hids, _, ledger, last, _, hscan, hsome, hrun, Except.ok.inj hentries, hnone, ?_⟩
  exact Prod.ext (hrescan _ _ _ rfl hnone) rfl

end Flotilla
