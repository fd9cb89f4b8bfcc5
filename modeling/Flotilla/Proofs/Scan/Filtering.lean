import Flotilla.Proofs.Scan.Agreement
import Flotilla.Proofs.Sorting
import Flotilla.Proofs.Text.Search
import Mathlib.Data.List.Nodup
import Mathlib.Data.List.Perm.Basic

/-!
# Filtering Before or After

A scan looks at the filter first, and drops repeated keys and sorts after that. Where no node lists
an id twice there is nothing to be dropped, and sorting is stable, so the filter can as well be
applied to the result of a scan for everything. It follows that a narrower filter finds nothing new.

- `Container.satisfies_of_contains`: who satisfies a query satisfies every part of it.
- `Scan.nodup_key_matches`: no key is there twice among such listings.
- `Scan.collect_eq_filter`: what is collected for a filter, from what is collected for none.
- `Scan.perm_collect_blank`: without a filter everything that was listed is collected.
- `filter_before_or_after`: the main result.
-/

namespace Flotilla

/-- A query is satisfied where it occurs, also if it is empty. -/
theorem Container.satisfies_iff {c : Container} {query : String} :
    c.satisfies query = true ↔ Text.contains (Text.lowercase c.searchText) query = true := by
  unfold satisfies
  rw [Bool.or_eq_true, decide_eq_true_eq, or_iff_right_iff_imp]
  -- An empty query occurs everywhere, so the first test adds nothing.
  rintro rfl
  rw [Text.contains_iff_isInfix]
  exact List.nil_infix

/-- An entry that satisfies a query satisfies every query that occurs in it. -/
theorem Container.satisfies_of_contains {c : Container} {narrow wide : String}
    (hpart : Text.contains narrow wide = true) (h : c.satisfies narrow = true) :
    c.satisfies wide = true := by
  rw [satisfies_iff] at h ⊢
  exact Text.contains_trans h hpart

namespace Scan

/-! ## §1 Matches with different keys -/

section Collect

variable {nodes : List Node} {listing : String → List Container}

/-- The matches for a query are those matches for no query that satisfy it. -/
theorem flatMap_matchesIn_query (query : String) (all : List (Node × List Container)) :
    all.flatMap (matchesIn query) =
      (all.flatMap (matchesIn "")).filter (·.container.satisfies query) := by
  rw [List.filter_flatMap]
  congr 1
  funext listing
  unfold matchesIn
  -- No query leaves all containers of a listing.
  have hall : listing.2.filter (·.satisfies "") = listing.2 :=
    List.filter_eq_self.mpr fun c _ => by simp [Container.satisfies]
  rw [hall, List.filter_map]
  rfl

/-- Where there is no query, the matches stand for all containers, node by node. -/
theorem map_matches_blank {α : Type} (f : String → Container → α) (nodes : List Node)
    (listing : String → List Container) :
    ((listings nodes listing).flatMap (matchesIn "")).map (fun m => f m.nodeId m.container) =
      (nodes.map (·.id)).flatMap fun id => (listing id).map (f id) := by
  unfold listings
  rw [List.flatMap_map, List.map_flatMap, List.flatMap_map]
  congr 1
  funext node
  have hall : (listing node.id).filter (·.satisfies "") = listing node.id :=
    List.filter_eq_self.mpr fun c _ => by simp [Container.satisfies]
  show (((listing node.id).filter (·.satisfies "")).map (matchOf node)).map _ = _
  rw [hall, List.map_map]
  rfl

/-- Different nodes and different containers have different keys. -/
theorem nodup_key_matches (hnodes : (nodes.map (·.id)).Nodup)
    (hlisted : ∀ node ∈ nodes, ((listing node.id).map (·.id)).Nodup) (query : String) :
    (((listings nodes listing).flatMap (matchesIn query)).map Match.key).Nodup := by
  -- Without a query the keys are those of all containers, node by node.
  have hkeys : ((listings nodes listing).flatMap (matchesIn "")).map Match.key =
      (nodes.map (·.id)).flatMap fun id => (listing id).map fun c => ⟨id, c.id⟩ :=
    map_matches_blank (fun id c => MatchKey.mk id c.id) nodes listing
  have hall : (((listings nodes listing).flatMap (matchesIn "")).map Match.key).Nodup := by
    rw [hkeys, List.nodup_flatMap]
    constructor
    · intro id hid
      obtain ⟨node, hnode, rfl⟩ := List.mem_map.mp hid
      -- On one node the ids of the containers tell the keys apart.
      apply List.Nodup.of_map MatchKey.containerId
      rw [List.map_map]
      exact hlisted node hnode
    · refine hnodes.imp fun {a b} hab => ?_
      intro key ha hb
      obtain ⟨c, -, rfl⟩ := List.mem_map.mp ha
      obtain ⟨d, -, hkey⟩ := List.mem_map.mp hb
      exact hab (congrArg MatchKey.nodeId hkey).symm
  -- A query only leaves out some of them.
  rw [flatMap_matchesIn_query]
  exact hall.sublist (List.filter_sublist.map _)

/-! ## §2 What is collected -/

theorem collect_of_nodup (hnodes : (nodes.map (·.id)).Nodup)
    (hlisted : ∀ node ∈ nodes, ((listing node.id).map (·.id)).Nodup) (filter : String) :
    collect filter (listings nodes listing) =
      ((listings nodes listing).flatMap (matchesIn (query filter))).mergeSort le := by
  unfold collect
  rw [distinctBy_eq_self (nodup_key_matches hnodes hlisted _)]

/-- A filter can be applied to what is collected for none. -/
theorem collect_eq_filter (hnodes : (nodes.map (·.id)).Nodup)
    (hlisted : ∀ node ∈ nodes, ((listing node.id).map (·.id)).Nodup) (filter : String) :
    collect filter (listings nodes listing) =
      (collect "" (listings nodes listing)).filter (·.container.satisfies (query filter)) := by
  -- The sort is stable for an order that is total and transitive.
  have hsort := @filter_mergeSort _ le (fun _ _ _ => le_trans) le_total
  have hblank : query "" = "" := rfl
  rw [collect_of_nodup hnodes hlisted, collect_of_nodup hnodes hlisted, hsort, hblank,
    ← flatMap_matchesIn_query]

/-- What is collected for no filter is everything that was listed. -/
theorem perm_collect_blank (hnodes : (nodes.map (·.id)).Nodup)
    (hlisted : ∀ node ∈ nodes, ((listing node.id).map (·.id)).Nodup) :
    ((collect "" (listings nodes listing)).map fun m => (m.nodeId, m.container)).Perm
      ((nodes.map (·.id)).flatMap fun id => (listing id).map (id, ·)) := by
  have hblank : query "" = "" := rfl
  rw [collect_of_nodup hnodes hlisted, hblank, ← map_matches_blank Prod.mk]
  exact (List.mergeSort_perm _ le).map _

end Collect

/-! ## §3 Scans -/

/-- Every given node can be listed, and none lists an id twice. -/
def AllListed (nodes : List Node) (listing : String → Except Fault (List Container)) : Prop :=
  ∀ node ∈ nodes, ∃ containers, listing node.id = .ok containers ∧ (containers.map (·.id)).Nodup

section Scans

variable {nodes : List Node} {listing : String → Except Fault (List Container)}

theorem AllListed.distinct (h : AllListed nodes listing) :
    AllListed (distinctBy Node.id nodes) listing :=
  fun node hnode => h node (List.mem_of_find?_eq_some (mem_distinctBy.mp hnode))

theorem AllListed.nodup (h : AllListed nodes listing) :
    ∀ node ∈ nodes, ((listedOn listing node.id).map (·.id)).Nodup := by
  intro node hnode
  obtain ⟨containers, hcontainers, hnodup⟩ := h node hnode
  simpa [listedOn, hcontainers, Except.toOption] using hnodup

/-- A scan of nodes that can all be listed collects from all of them. -/
theorem run_scan_of_allListed {σ : Type} {w : World σ} {s : σ} (h : w.ListsAs listing s)
    (hlisted : AllListed nodes listing) (hnodes : nodes ≠ []) (filter : String) :
    (w.run (scan nodes filter) s).1 =
      .ok (collect filter (listings (distinctBy Node.id nodes) (listedOn listing))) := by
  -- Each node brings a listing, so that none fails.
  have hnone : failing listing (distinctBy Node.id nodes) = [] := by
    rw [failing_eq_nil]
    intro node hnode
    obtain ⟨containers, hcontainers, -⟩ := hlisted.distinct node hnode
    simp [canList, hcontainers, isFault]
  rw [run_scan h hnodes, hnone]

end Scans

end Scan

/-- **A filter can be applied before or after a scan**, wherever nodes are listed in one way only,
every given node can be listed, and none lists an id twice. A scan for a filter finds what a scan
for everything finds, without the matches that do not satisfy the filter and in the same order. A
filter in which another one occurs finds a part of what that one finds. A blank filter finds
everything that is listed. The scans that are compared may be of different worlds, as long as their
nodes list the same. -/
theorem filter_before_or_after {nodes : List Node}
    {listing : String → Except Fault (List Container)} (hlisted : Scan.AllListed nodes listing)
    {σ τ : Type} {w : World σ} {v : World τ} {s : σ} {t : τ} (hw : w.ListsAs listing s)
    (hv : v.ListsAs listing t) :
    (∀ filter, (w.run (scan nodes filter) s).1 = (v.run (scan nodes "") t).1.map fun found =>
      found.filter fun m => m.container.satisfies (Text.lowercase (Text.trim filter))) ∧
    (∀ wide narrow, Text.contains (Text.lowercase (Text.trim narrow))
        (Text.lowercase (Text.trim wide)) = true →
      ∀ found, (w.run (scan nodes wide) s).1 = .ok found →
        ∃ fewer, (v.run (scan nodes narrow) t).1 = .ok fewer ∧ fewer.Sublist found) ∧
    (∀ filter, Text.trim filter = "" → nodes ≠ [] →
      ∃ found, (w.run (scan nodes filter) s).1 = .ok found ∧
        (found.map fun m => (m.nodeId, m.container)).Perm
          ((nodes.map (·.id)).eraseDups.flatMap fun id =>
            (Scan.listedOn listing id).map (id, ·))) := by
  by_cases hnodes : nodes = []
  · -- A scan of no nodes is refused, whatever the filter.
    subst hnodes
    refine ⟨fun _ => rfl, ?_, fun _ _ hsome => absurd rfl hsome⟩
    intro wide narrow _ found hfound
    cases hfound
  -- After the repeated nodes are dropped, ids are different, and so are the keys of all matches.
  have hids : ((distinctBy Node.id nodes).map (·.id)).Nodup := nodup_map_distinctBy nodes
  have hcontainers := hlisted.distinct.nodup
  have hrunw := Scan.run_scan_of_allListed hw hlisted hnodes
  have hrunv := Scan.run_scan_of_allListed hv hlisted hnodes
  refine ⟨?_, ?_, ?_⟩
  · intro filter
    rw [hrunw, hrunv, Scan.collect_eq_filter hids hcontainers]
    rfl
  · intro wide narrow hpart found hfound
    rw [hrunw] at hfound
    cases hfound
    refine ⟨_, hrunv narrow, ?_⟩
    -- Both are parts of what is found without a filter, and the tests imply each other.
    rw [Scan.collect_eq_filter hids hcontainers narrow,
      Scan.collect_eq_filter hids hcontainers wide]
    exact List.monotone_filter_right _ fun m hm => Container.satisfies_of_contains hpart hm
  · intro filter hblank _
    -- A blank filter and none make the same query.
    have hquery : Scan.query filter = Scan.query "" := by
      rw [Scan.query, hblank]
      rfl
    refine ⟨_, hrunw filter, ?_⟩
    rw [Scan.collect, hquery, ← map_distinctBy]
    exact Scan.perm_collect_blank hids hcontainers

/-- The nodes of the sample cluster, all of them given twice. -/
def Scan.repeatedNodes : List Node :=
  Cluster.sample.nodes ++ Cluster.sample.nodes

/-- What the nodes of the sample cluster list. -/
def Scan.sampleListing (id : String) : Except Fault (List Container) :=
  (Cluster.reply (.list id) Cluster.sample).1

/-- All containers of the sample cluster, as matches. -/
def Scan.allFound : List Match :=
  [⟨"a", "a...", "a", (Cluster.sampleHeld "1" "web").summary⟩,
    ⟨"a", "a...", "a", (Cluster.sampleHeld "2" "db").summary⟩,
    ⟨"b", "b...", "b", (Cluster.sampleHeld "9" "web").summary⟩]

set_option maxRecDepth 4000 in
/-- All containers have the letter of the wider filter, and two of them both letters of the narrower
one. Each node is listed once. -/
theorem sample_filter_before_or_after :
    Scan.AllListed Scan.repeatedNodes Scan.sampleListing ∧
    (Cluster.world fun _ => false).ListsAs Scan.sampleListing Cluster.sample ∧
    Text.contains (Text.lowercase (Text.trim " EB ")) (Text.lowercase (Text.trim "b")) = true ∧
    ((Cluster.world fun _ => false).run (scan Scan.repeatedNodes "b") Cluster.sample).1 =
      .ok Scan.allFound ∧
    ((Cluster.world fun _ => false).run (scan Scan.repeatedNodes " EB ") Cluster.sample).1 =
      ((Cluster.world fun _ => false).run (scan Scan.repeatedNodes "") Cluster.sample).1.map
        (fun found => found.filter fun m =>
          m.container.satisfies (Text.lowercase (Text.trim " EB "))) ∧
    ((Cluster.world fun _ => false).run (scan Scan.repeatedNodes " EB ") Cluster.sample).1 =
      .ok [⟨"a", "a...", "a", (Cluster.sampleHeld "1" "web").summary⟩,
        ⟨"b", "b...", "b", (Cluster.sampleHeld "9" "web").summary⟩] ∧
    (∃ fewer, ((Cluster.world fun _ => false).run (scan Scan.repeatedNodes " EB ")
      Cluster.sample).1 = .ok fewer ∧ fewer.Sublist Scan.allFound) ∧
    ∃ found, ((Cluster.world fun _ => false).run (scan Scan.repeatedNodes " ")
        Cluster.sample).1 = .ok found ∧
      (found.map fun m => (m.nodeId, m.container)).Perm
        ((Scan.repeatedNodes.map (·.id)).eraseDups.flatMap fun id =>
          (Scan.listedOn Scan.sampleListing id).map (id, ·)) := by
  have hlisted : Scan.AllListed Scan.repeatedNodes Scan.sampleListing := by
    have hall : ∀ node ∈ Cluster.sample.nodes, ∃ containers,
        Scan.sampleListing node.id = .ok containers ∧ (containers.map (·.id)).Nodup := by
      refine List.forall_mem_cons.mpr ⟨⟨_, rfl, by decide⟩, ?_⟩
      exact List.forall_mem_singleton.mpr ⟨_, rfl, by decide⟩
    intro node hnode
    exact hall node ((List.mem_append.mp hnode).elim id id)
  have hlasting : Cluster.sample.Lasting := by decide
  have hlists : (Cluster.world fun _ => false).ListsAs Scan.sampleListing Cluster.sample :=
    hlasting.listsAs fun _ => false
  obtain ⟨hfilter, hnarrow, hblank⟩ := filter_before_or_after hlisted hlists hlists
  have hpart : Text.contains (Text.lowercase (Text.trim " EB "))
      (Text.lowercase (Text.trim "b")) = true := by decide
  -- The matches are in order already.
  have hsorted : Scan.allFound.mergeSort Scan.le = Scan.allFound :=
    List.mergeSort_of_pairwise (by decide)
  have hwide : ((Cluster.world fun _ => false).run (scan Scan.repeatedNodes "b")
      Cluster.sample).1 = .ok Scan.allFound := by
    rw [← hsorted]
    rfl
  have hall : ((Cluster.world fun _ => false).run (scan Scan.repeatedNodes "")
      Cluster.sample).1 = .ok Scan.allFound := by
    rw [← hsorted]
    rfl
  refine ⟨hlisted, hlists, hpart, hwide, hfilter " EB ", ?_, hnarrow "b" " EB " hpart _ hwide,
    hblank " " (by decide) (by decide)⟩
  rw [hfilter, hall]
  rfl

end Flotilla
