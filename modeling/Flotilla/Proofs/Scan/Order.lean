import Flotilla.Proofs.Scan.Agreement
import Mathlib.Data.List.Nodup

/-!
# The Order of the Nodes Does Not Matter

A scan sorts its matches by the shown name of the node and by the id of the container, and keeps
each key once, which is the id of the node and the id of the container. Two nodes may show the same
name, by their aliases or by the beginnings of their ids. As long as no two of these have a
container id in common, no two matches are sorted alike, and the result is the same in whatever
order the nodes are given.

- `Scan.Apart`: nodes with the same shown name have no container id in common.
- `Scan.eq_of_le_of_le`: then no two matches are sorted alike.
- `Scan.collect_perm`: what is collected does not depend on the order of the listings.
- `node_order_does_not_matter`: the main result.
-/

namespace Flotilla

namespace Scan

/-! ## §1 Matches that are sorted alike -/

/-- Two different nodes that show the same name have no container id in common. -/
def Apart (nodes : List Node) (listing : String → List Container) : Prop :=
  ∀ a ∈ nodes, ∀ b ∈ nodes, a ≠ b → a.displayName = b.displayName →
    ∀ c ∈ listing a.id, ∀ d ∈ listing b.id, c.id ≠ d.id

instance (nodes : List Node) (listing : String → List Container) :
    Decidable (Apart nodes listing) :=
  inferInstanceAs (Decidable (∀ a ∈ nodes, ∀ b ∈ nodes, a ≠ b → a.displayName = b.displayName →
    ∀ c ∈ listing a.id, ∀ d ∈ listing b.id, c.id ≠ d.id))

section Collect

variable {nodes others : List Node} {listing : String → List Container} {filter : String}
  {m n : Match}

theorem Apart.mono (h : Apart nodes listing) (hsub : others ⊆ nodes) : Apart others listing :=
  fun a ha b hb => h a (hsub ha) b (hsub hb)

/-- A match that is collected is of a node, and of a container that this node listed. -/
theorem exists_node_of_mem_collect (hm : m ∈ collect filter (listings nodes listing)) :
    ∃ node ∈ nodes, m = matchOf node m.container ∧ m.container ∈ listing node.id := by
  -- The listings are made of the nodes, so that the listing of a match has its node.
  obtain ⟨l, hl, hmatch, hcontainer⟩ := exists_listing_of_mem_collect hm
  obtain ⟨node, hnode, rfl⟩ := List.mem_map.mp hl
  exact ⟨node, hnode, hmatch, hcontainer⟩

/-- Matches with the same key are the same. -/
theorem eq_of_key_eq {all : List (Node × List Container)} (hm : m ∈ collect filter all)
    (hn : n ∈ collect filter all) (hkey : m.key = n.key) : m = n := by
  have hfound := mem_collect.mp hm
  rw [hkey, mem_collect.mp hn] at hfound
  exact (Option.some.inj hfound).symm

/-- No two matches are sorted alike. -/
theorem eq_of_le_of_le (hapart : Apart nodes listing)
    (hm : m ∈ collect filter (listings nodes listing))
    (hn : n ∈ collect filter (listings nodes listing)) (hmn : le m n = true)
    (hnm : le n m = true) : m = n := by
  rw [le_iff] at hmn hnm
  -- Neither name is before the other one, so both are the same, and so are the ids.
  have hname : m.nodeName = n.nodeName := by
    rcases hmn with hlt | ⟨hname, -⟩
    · rcases hnm with hgt | ⟨hname, -⟩
      · exact absurd (String.lt_trans hlt hgt) (String.lt_irrefl _)
      · exact hname.symm
    · exact hname
  have hid : m.container.id = n.container.id := by
    apply String.le_antisymm
    · exact (hmn.resolve_left (hname ▸ String.lt_irrefl _)).2
    · exact (hnm.resolve_left (hname ▸ String.lt_irrefl _)).2
  obtain ⟨a, ha, hma, hmc⟩ := exists_node_of_mem_collect hm
  obtain ⟨b, hb, hnb, hnc⟩ := exists_node_of_mem_collect hn
  -- On the same node the id of the container makes the key; on two nodes it would be shared.
  by_cases hab : a = b
  · apply eq_of_key_eq hm hn
    rw [hma, hnb, hab]
    show (⟨b.id, m.container.id⟩ : MatchKey) = ⟨b.id, n.container.id⟩
    rw [hid]
  · have hshown : a.displayName = b.displayName := by
      rw [hma, hnb] at hname
      exact hname
    exact absurd hid (hapart a ha b hb hab hshown _ hmc _ hnc)

/-! ## §2 What is collected -/

/-- Nodes with different ids have the same matches in any order. -/
theorem mem_collect_perm (hperm : nodes.Perm others) (hids : (nodes.map (·.id)).Nodup) :
    m ∈ collect filter (listings nodes listing) ↔ m ∈ collect filter (listings others listing) := by
  -- A match is the first one with its key, which is looked up by the id of its node.
  rw [mem_collect, mem_collect, find?_matches, find?_matches, find?_perm hperm hids]

theorem collect_perm (hperm : nodes.Perm others) (hids : (nodes.map (·.id)).Nodup)
    (hapart : Apart nodes listing) :
    collect filter (listings nodes listing) = collect filter (listings others listing) := by
  -- Different keys make different matches, so the same members make a permutation.
  have hnodup : ∀ all, (collect filter all).Nodup :=
    fun all => List.Nodup.of_map _ (nodup_key_collect all)
  have hsorted : ∀ all, (collect filter all).Pairwise fun a b => le a b = true :=
    fun all => (pairwise_collect all).imp le_iff.mpr
  have hsame : (collect filter (listings nodes listing)).Perm
      (collect filter (listings others listing)) :=
    (List.perm_ext_iff_of_nodup (hnodup _) (hnodup _)).mpr fun m => mem_collect_perm hperm hids
  -- Both are sorted, and sorting leaves no choice.
  apply hsame.eq_of_pairwise _ (hsorted _) (hsorted _)
  intro a b ha hb hab hba
  exact eq_of_le_of_le hapart ha ((mem_collect_perm hperm hids).mpr hb) hab hba

end Collect

/-! ## §3 Both scans -/

section Scans

variable {σ : Type} {w : World σ} {s : σ} {listing : String → Except Fault (List Container)}
  {nodes others : List Node}

/-- A scan of nodes with different ids is refused exactly if some node fails. -/
theorem refused_iff (h : w.ListsAs listing s) (hids : (nodes.map (·.id)).Nodup)
    (hnodes : nodes ≠ []) (filter : String) :
    (∃ refusal, (w.run (scan nodes filter) s).1 = .error refusal) ↔ failing listing nodes ≠ [] := by
  have hscan := run_scan h hnodes filter
  rw [distinctBy_eq_self hids] at hscan
  rw [hscan]
  cases failing listing nodes with
  | nil => simp
  | cons failure rest => simp

theorem failing_eq_nil_perm (hperm : nodes.Perm others) :
    failing listing nodes = [] ↔ failing listing others = [] := by
  rw [failing_eq_nil, failing_eq_nil]
  exact forall_congr' fun node => imp_congr_left hperm.mem_iff

/-- Where all nodes can be listed, scans of them find the same in any order. -/
theorem run_scan_perm (h : w.ListsAs listing s) (hperm : nodes.Perm others)
    (hids : (nodes.map (·.id)).Nodup) (hapart : Apart nodes (listedOn listing))
    (hnodes : nodes ≠ []) (hnone : failing listing nodes = []) (filter : String) :
    ∃ found, (w.run (scan nodes filter) s).1 = .ok found ∧
      (w.run (scan others filter) s).1 = .ok found := by
  have hothers : others ≠ [] := fun hnil => hnodes (List.perm_nil.mp (hnil ▸ hperm))
  have hotherIds : (others.map (·.id)).Nodup := (hperm.map _).nodup_iff.mp hids
  have hscan := run_scan h hnodes filter
  have hother := run_scan h hothers filter
  rw [distinctBy_eq_self hids, hnone] at hscan
  rw [distinctBy_eq_self hotherIds, (failing_eq_nil_perm hperm).mp hnone] at hother
  refine ⟨_, hscan, ?_⟩
  rw [collect_perm hperm hids hapart]
  exact hother

/-- Best-effort scans of the nodes in both orders find the same and report the same failures, each
in the place of its node. -/
theorem run_scanBestEffort_perm (h : w.ListsAs listing s) (hperm : nodes.Perm others)
    (hids : (nodes.map (·.id)).Nodup) (hapart : Apart nodes (listedOn listing))
    (hnodes : nodes ≠ []) (filter : String) :
    ∃ found failures moved,
      (w.run (scanBestEffort nodes filter) s).1 = .ok ⟨found, failures⟩ ∧
      (w.run (scanBestEffort others filter) s).1 = .ok ⟨found, moved⟩ ∧
      failures.Perm moved ∧ Reports nodes listing failures ∧ Reports others listing moved := by
  have hothers : others ≠ [] := fun hnil => hnodes (List.perm_nil.mp (hnil ▸ hperm))
  have hotherIds : (others.map (·.id)).Nodup := (hperm.map _).nodup_iff.mp hids
  have hsub : (nodes.filter (canList listing)).Sublist nodes := List.filter_sublist
  -- The nodes that can be listed are the same ones as well.
  have hfound : collect filter (listings (nodes.filter (canList listing)) (listedOn listing)) =
      collect filter (listings (others.filter (canList listing)) (listedOn listing)) :=
    collect_perm (hperm.filter _) (hids.sublist (hsub.map _)) (hapart.mono hsub.subset)
  refine ⟨_, _, _, run_scanBestEffort h hnodes filter, ?_, ?_, reports_failing nodes listing,
    reports_failing others listing⟩
  · rw [run_scanBestEffort h hothers, distinctBy_eq_self hids, distinctBy_eq_self hotherIds, hfound]
  · -- Each failure has gone where its node has gone.
    rw [distinctBy_eq_self hids, distinctBy_eq_self hotherIds]
    exact (hperm.filterMap _).map reported

end Scans

end Scan

/-- **The order in which nodes are given does not matter to a scan.** The nodes have different ids,
and two of them that show the same name have no container id in common. Then a scan of the nodes in
another order is refused exactly if this one is. If all nodes can be listed, both find the same
matches in the same order. Best-effort scans find the same matches in the same order in any case,
and report the same failures, each in the place of its node. -/
theorem node_order_does_not_matter {σ : Type} (w : World σ) (s : σ)
    {listing : String → Except Fault (List Container)} (hlists : w.ListsAs listing s)
    {nodes others : List Node} (hperm : nodes.Perm others) (hids : (nodes.map (·.id)).Nodup)
    (hapart : Scan.Apart nodes (Scan.listedOn listing)) (filter : String) :
    ((∃ refusal, (w.run (scan nodes filter) s).1 = .error refusal) ↔
      ∃ refusal, (w.run (scan others filter) s).1 = .error refusal) ∧
    (nodes ≠ [] → (∀ node ∈ nodes, ∃ containers, listing node.id = .ok containers) →
      ∃ found, (w.run (scan nodes filter) s).1 = .ok found ∧
        (w.run (scan others filter) s).1 = .ok found) ∧
    (nodes ≠ [] → ∃ found failures moved,
      (w.run (scanBestEffort nodes filter) s).1 = .ok ⟨found, failures⟩ ∧
      (w.run (scanBestEffort others filter) s).1 = .ok ⟨found, moved⟩ ∧
      failures.Perm moved ∧
      Scan.Reports nodes listing failures ∧ Scan.Reports others listing moved) := by
  have hotherIds : (others.map (·.id)).Nodup := (hperm.map _).nodup_iff.mp hids
  refine ⟨?_, fun hnodes hall => ?_, fun hnodes => ?_⟩
  · by_cases hnodes : nodes = []
    · -- No nodes in one order are no nodes in the other one.
      subst hnodes
      rw [List.nil_perm.mp hperm]
    · have hothers : others ≠ [] := fun hnil => hnodes (List.perm_nil.mp (hnil ▸ hperm))
      rw [Scan.refused_iff hlists hids hnodes, Scan.refused_iff hlists hotherIds hothers]
      exact not_congr (Scan.failing_eq_nil_perm hperm)
  · apply Scan.run_scan_perm hlists hperm hids hapart hnodes
    rw [Scan.failing_eq_nil]
    intro node hnode
    obtain ⟨containers, hlisted⟩ := hall node hnode
    simp [Scan.canList, hlisted, isFault]
  · exact Scan.run_scanBestEffort_perm hlists hperm hids hapart hnodes filter

/-- Two nodes that show the same name, and two that cannot be reached. -/
def Scan.namesakes : List Node :=
  [⟨"b", some "x", .connected, "", none⟩, Node.new "z" .disconnected,
    ⟨"a", some "x", .connected, "", none⟩, Node.new "y" .disconnected]

set_option maxRecDepth 4000 in
/-- The failures change places, the matches do not. -/
theorem namesakes_in_both_orders :
    (Cluster.world fun _ => false).ListsAs
      (fun id => (Cluster.reply (.list id) Scan.sampleCluster).1) Scan.sampleCluster ∧
    (Scan.namesakes.map (·.id)).Nodup ∧
    Scan.Apart Scan.namesakes
      (Scan.listedOn fun id => (Cluster.reply (.list id) Scan.sampleCluster).1) ∧
    ((Cluster.world fun _ => false).run (scanBestEffort Scan.namesakes "web")
        Scan.sampleCluster).1.map (fun report => report.failures.map (·.nodeId)) =
      .ok ["z", "y"] ∧
    ∃ found failures moved,
      ((Cluster.world fun _ => false).run (scanBestEffort Scan.namesakes "web")
        Scan.sampleCluster).1 = .ok ⟨found, failures⟩ ∧
      ((Cluster.world fun _ => false).run (scanBestEffort Scan.namesakes.reverse "web")
        Scan.sampleCluster).1 = .ok ⟨found, moved⟩ ∧
      failures.Perm moved ∧
      Scan.Reports Scan.namesakes
        (fun id => (Cluster.reply (.list id) Scan.sampleCluster).1) failures ∧
      Scan.Reports Scan.namesakes.reverse
        (fun id => (Cluster.reply (.list id) Scan.sampleCluster).1) moved := by
  have hlasting : Scan.sampleCluster.Lasting := by decide
  have hlists := hlasting.listsAs fun _ => false
  have hids : (Scan.namesakes.map (·.id)).Nodup := by decide
  have hapart : Scan.Apart Scan.namesakes
      (Scan.listedOn fun id => (Cluster.reply (.list id) Scan.sampleCluster).1) := by decide
  have hperm : Scan.namesakes.Perm Scan.namesakes.reverse :=
    (List.reverse_perm Scan.namesakes).symm
  exact ⟨hlists, hids, hapart, rfl,
    (node_order_does_not_matter _ _ hlists hperm hids hapart "web").2.2 (by decide)⟩

end Flotilla
