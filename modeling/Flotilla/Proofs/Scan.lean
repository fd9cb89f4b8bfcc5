import Flotilla.Proofs.Batch.Refused
import Flotilla.Proofs.Cluster.Calls
import Flotilla.Proofs.Distinct
import Flotilla.Proofs.Remote
import Flotilla.Scan

/-!
# What a Scan Finds

A scan goes through the listings of the nodes and drops repetitions twice: nodes with the same id
before anything is listed, and matches with the same key after the filter. What is left are the
containers that satisfy the filter, each key once.

- `Scan.find?_matches`: the first match with a key among all listings, read off the nodes and the
  listings themselves. `Scan.mem_collect` says that these are the matches that a scan collects.
- `Scan.yields_listAll`, `Scan.yields_listEach`: a listing of nodes makes one call for each of them,
  in their order. `Scan.only_lists`: a scan does nothing else.
- `Scan.Finds`: what is found is what there is to find: ordered, every key once, and every match
  with the texts of the first node and of the first container that it can mean.
- `scan_finds_exactly`: the main result, for every scan whose calls all succeed.
-/

namespace Flotilla

/-- A node was asked for its containers. -/
def Event.IsListing (e : Event) : Prop :=
  ∃ node reply, e = .exchange (.list node) reply

namespace Scan

open Remote

/-! ## §1 Matches among listings -/

/-- The nodes with their listings. -/
def listings (nodes : List Node) (listing : String → List Container) :
    List (Node × List Container) :=
  nodes.map fun node => (node, listing node.id)

/-- The first match with a key in one listing. -/
theorem find?_matchesIn (query : String) (node : Node) (containers : List Container)
    (key : MatchKey) :
    (matchesIn query (node, containers)).find? (·.key = key) =
      if node.id = key.nodeId then
        (containers.find? fun c => c.id = key.containerId && c.satisfies query).map (matchOf node)
      else none := by
  have hkey : ∀ c, (matchOf node c).key = key ↔ node.id = key.nodeId ∧ c.id = key.containerId := by
    intro c
    cases key
    simp [matchOf, Match.key]
  unfold matchesIn
  rw [List.find?_map, List.find?_filter]
  by_cases hnode : node.id = key.nodeId
  · -- The node is the one of the key, so the id of the container decides.
    simp [hkey, hnode, Bool.and_comm]
  · simp [hkey, hnode]

/-- The first match with a key among all listings: the node is the first one with its id, and the
container is the first one in its listing that has the id and satisfies the query. -/
theorem find?_matches (query : String) (nodes : List Node) (listing : String → List Container)
    (key : MatchKey) :
    ((listings nodes listing).flatMap (matchesIn query)).find? (·.key = key) =
      (nodes.find? (·.id = key.nodeId)).bind fun node =>
        ((listing key.nodeId).find? fun c => c.id = key.containerId && c.satisfies query).map
          (matchOf node) := by
  -- By induction on the nodes: the first one with the id decides, also where it has no match.
  rw [List.find?_flatMap, listings, List.findSome?_map]
  induction nodes with
  | nil => rfl
  | cons node rest ih =>
    rw [List.findSome?_cons, Function.comp_apply, find?_matchesIn]
    by_cases hnode : node.id = key.nodeId
    · -- If the first node has no such container, then no other node with its id has one.
      simp only [hnode, if_true, List.find?_cons, decide_true, Option.bind_some]
      cases hfound : (listing key.nodeId).find? fun c =>
          c.id = key.containerId && c.satisfies query with
      | some container => rfl
      | none =>
        rw [hfound] at ih
        rw [Option.map_none, ih]
        simp
    · simp only [hnode, if_false, List.find?_cons, decide_false]
      exact ih

/-- A scan collects the matches that are the first ones with their key. -/
theorem mem_collect {filter : String} {all : List (Node × List Container)} {m : Match} :
    m ∈ collect filter all ↔
      (all.flatMap (matchesIn (query filter))).find? (·.key = m.key) = some m := by
  unfold collect
  rw [List.mem_mergeSort, mem_distinctBy]

/-- A match that is collected was made from a listing. -/
theorem exists_listing_of_mem_collect {filter : String} {all : List (Node × List Container)}
    {m : Match} (hm : m ∈ collect filter all) :
    ∃ l ∈ all, m = matchOf l.1 m.container ∧ m.container ∈ l.2 := by
  have hmem := List.mem_of_find?_eq_some (mem_collect.mp hm)
  obtain ⟨l, hl, hmatch⟩ := List.mem_flatMap.mp hmem
  obtain ⟨container, hcontainer, rfl⟩ := List.mem_map.mp hmatch
  exact ⟨l, hl, rfl, (List.mem_filter.mp hcontainer).1⟩

/-! ## §2 The order -/

/-- The order of the matches, as a statement. -/
theorem le_iff {a b : Match} :
    le a b = true ↔
      a.nodeName < b.nodeName ∨ a.nodeName = b.nodeName ∧ a.container.id ≤ b.container.id := by
  simp [le]

theorem le_trans {a b c : Match} (hab : le a b = true) (hbc : le b c = true) :
    le a c = true := by
  rw [le_iff] at *
  -- One strict step is enough; two steps between the same names are compared by the ids.
  rcases hab with hab | ⟨hab, hid⟩
  · left
    rcases hbc with hbc | ⟨hbc, -⟩
    · exact String.lt_trans hab hbc
    · exact hbc ▸ hab
  · rcases hbc with hbc | ⟨hbc, hid'⟩
    · exact .inl (hab ▸ hbc)
    · exact .inr ⟨hab.trans hbc, String.le_trans hid hid'⟩

theorem le_total (a b : Match) : (le a b || le b a) = true := by
  rw [Bool.or_eq_true, le_iff, le_iff]
  by_cases hlt : a.nodeName < b.nodeName
  · exact .inl (.inl hlt)
  · by_cases hgt : b.nodeName < a.nodeName
    · exact .inr (.inl hgt)
    · -- Neither name is before the other one, so the ids decide.
      have hsame : a.nodeName = b.nodeName :=
        String.le_antisymm (String.not_lt.mp hgt) (String.not_lt.mp hlt)
      rcases String.le_total a.container.id b.container.id with hid | hid
      · exact .inl (.inr ⟨hsame, hid⟩)
      · exact .inr (.inr ⟨hsame.symm, hid⟩)

/-! ## §3 Listing the nodes -/

/-- Listing nodes succeeds for some of them, one after the other, and ends with the first one that
fails, if there is one. -/
inductive Listed : List Node → List Event → Except (Node × Fault) (List (Node × List Container)) →
    Prop where
  | all (done : List (Node × List Container)) :
      Listed (done.map (·.1)) (done.map fun l => .exchange (.list l.1.id) (.ok l.2)) (.ok done)
  | failed (done : List (Node × List Container)) (node : Node) (rest : List Node) (fault : Fault) :
      Listed (done.map (·.1) ++ node :: rest)
        (done.map (fun l => .exchange (.list l.1.id) (.ok l.2)) ++
          [.exchange (.list node.id) (.error fault)])
        (.error (node, fault))

theorem yields_listAll {nodes : List Node} {events : List Event}
    {result : Except (Node × Fault) (List (Node × List Container))}
    (h : Yields (listAll nodes) events result) : Listed nodes events result := by
  -- By induction on the nodes: the first one is listed before the others.
  induction nodes generalizing events result with
  | nil =>
    obtain ⟨rfl, rfl⟩ := yields_pure.mp h
    exact .all []
  | cons node rest ih =>
    unfold listAll at h
    obtain ⟨reply, others, rfl, hreply⟩ := yields_call h
    cases reply with
    | error fault =>
      obtain ⟨rfl, rfl⟩ := yields_pure.mp hreply
      exact .failed [] node rest fault
    | ok containers =>
      obtain ⟨events, found, last, rfl, hrest, hlast⟩ := yields_bind hreply
      have hlisted := ih hrest
      cases hlisted with
      | all done =>
        obtain ⟨rfl, rfl⟩ := yields_pure.mp hlast
        rw [List.append_nil]
        exact .all ((node, containers) :: done)
      | failed done other rest fault =>
        obtain ⟨rfl, rfl⟩ := yields_pure.mp hlast
        rw [List.append_nil]
        exact .failed ((node, containers) :: done) other rest fault

theorem distinctNodes_of_ne_nil {nodes : List Node} (h : nodes ≠ []) :
    distinctNodes nodes = .ok (distinctBy Node.id nodes) := by
  simp [distinctNodes, h]

/-- A scan of some nodes lists them once for each id, and collects what it finds if all listings
succeed. -/
theorem yields_scan {nodes : List Node} {filter : String} {events : List Event}
    {result : Except Refusal (List Match)} (hnodes : nodes ≠ [])
    (h : Yields (scan nodes filter) events result) :
    ∃ listed, Listed (distinctBy Node.id nodes) events listed ∧
      result = match listed with
        | .ok done => .ok (collect filter done)
        | .error (node, fault) => .error (.unreachable node.displayName fault) := by
  unfold scan at h
  simp only [distinctNodes_of_ne_nil hnodes] at h
  obtain ⟨first, listed, rest, rfl, hlisted, hrest⟩ := yields_bind h
  -- After the listings the scan only computes, so all events are theirs.
  refine ⟨listed, ?_, ?_⟩
  · cases listed with
    | ok done =>
      obtain ⟨rfl, -⟩ := yields_pure.mp hrest
      rw [List.append_nil]
      exact yields_listAll hlisted
    | error failure =>
      obtain ⟨rfl, -⟩ := yields_pure.mp hrest
      rw [List.append_nil]
      exact yields_listAll hlisted
  · cases listed with
    | ok done => exact (yields_pure.mp hrest).2
    | error failure => exact (yields_pure.mp hrest).2

/-- Where every listing that is made succeeds and is the one of its node, all nodes are listed. -/
theorem Listed.eq_listings {nodes : List Node} {events : List Event}
    {result : Except (Node × Fault) (List (Node × List Container))}
    {listing : String → List Container} (h : Listed nodes events result)
    (hlisting : ∀ id reply, Event.exchange (.list id) reply ∈ events → reply = .ok (listing id)) :
    result = .ok (listings nodes listing) ∧
      callsOf events = (nodes.map (·.id)).map Call.list := by
  cases h with
  | all done =>
    -- Each listing that was made is the assigned one.
    have hdone : ∀ l ∈ done, l = (l.1, listing l.1.id) := by
      intro l hl
      have hreply := hlisting l.1.id (.ok l.2) (List.mem_map.mpr ⟨l, hl, rfl⟩)
      exact Prod.ext rfl (Except.ok.inj hreply)
    constructor
    · rw [listings, List.map_map]
      exact congrArg Except.ok ((List.map_id done).symm.trans (List.map_congr_left hdone))
    · simp [callsOf, List.filterMap_map, Function.comp_def, Event.call?]
  | failed done node rest fault =>
    -- The listing that failed was made as well.
    have hreply := hlisting node.id (.error fault) (by simp)
    cases hreply

/-- Listing each of some nodes gives the listings that succeeded and the nodes that failed. -/
inductive ListedEach : List Node → List Event →
    List (Node × List Container) × List ScanFailure → Prop where
  | none : ListedEach [] [] ([], [])
  | listed {node : Node} {containers : List Container} {rest : List Node} {events : List Event}
      {listings : List (Node × List Container)} {failures : List ScanFailure}
      (others : ListedEach rest events (listings, failures)) :
      ListedEach (node :: rest) (.exchange (.list node.id) (.ok containers) :: events)
        ((node, containers) :: listings, failures)
  | failed {node : Node} {fault : Fault} {rest : List Node} {events : List Event}
      {listings : List (Node × List Container)} {failures : List ScanFailure}
      (others : ListedEach rest events (listings, failures)) :
      ListedEach (node :: rest) (.exchange (.list node.id) (.error fault) :: events)
        (listings, ⟨node.id, node.displayName, fault⟩ :: failures)

theorem yields_listEach {nodes : List Node} {events : List Event}
    {result : List (Node × List Container) × List ScanFailure}
    (h : Yields (listEach nodes) events result) : ListedEach nodes events result := by
  induction nodes generalizing events result with
  | nil =>
    obtain ⟨rfl, rfl⟩ := yields_pure.mp h
    exact .none
  | cons node rest ih =>
    unfold listEach at h
    obtain ⟨reply, others, rfl, hreply⟩ := yields_call h
    -- Whatever the reply is, the other nodes are listed next and nothing happens after that.
    cases reply with
    | error fault =>
      obtain ⟨first, listed, last, rfl, hrest, hlast⟩ := yields_bind hreply
      obtain ⟨rfl, rfl⟩ := yields_pure.mp hlast
      rw [List.append_nil]
      exact .failed (ih hrest)
    | ok containers =>
      obtain ⟨first, listed, last, rfl, hrest, hlast⟩ := yields_bind hreply
      obtain ⟨rfl, rfl⟩ := yields_pure.mp hlast
      rw [List.append_nil]
      exact .listed (ih hrest)

theorem yields_scanBestEffort {nodes : List Node} {filter : String} {events : List Event}
    {result : Except Refusal ScanReport} (hnodes : nodes ≠ [])
    (h : Yields (scanBestEffort nodes filter) events result) :
    ∃ listed, ListedEach (distinctBy Node.id nodes) events listed ∧
      result = .ok ⟨collect filter listed.1, listed.2⟩ := by
  unfold scanBestEffort at h
  simp only [distinctNodes_of_ne_nil hnodes] at h
  obtain ⟨first, listed, rest, rfl, hlisted, hrest⟩ := yields_bind h
  obtain ⟨rfl, rfl⟩ := yields_pure.mp hrest
  rw [List.append_nil]
  exact ⟨listed, yields_listEach hlisted, rfl⟩

/-! ## §4 Scans only list -/

theorem Listed.only_lists {nodes : List Node} {events : List Event}
    {result : Except (Node × Fault) (List (Node × List Container))}
    (h : Listed nodes events result) : ∀ e ∈ events, e.IsListing := by
  intro e he
  cases h with
  | all done =>
    obtain ⟨l, -, rfl⟩ := List.mem_map.mp he
    exact ⟨_, _, rfl⟩
  | failed done node rest fault =>
    rcases List.mem_append.mp he with he | he
    · obtain ⟨l, -, rfl⟩ := List.mem_map.mp he
      exact ⟨_, _, rfl⟩
    · rw [List.mem_singleton.mp he]
      exact ⟨_, _, rfl⟩

theorem ListedEach.only_lists {nodes : List Node} {events : List Event}
    {result : List (Node × List Container) × List ScanFailure}
    (h : ListedEach nodes events result) : ∀ e ∈ events, e.IsListing := by
  intro e he
  induction h with
  | none => cases he
  -- Whether the first listing succeeded or failed, it was one.
  | listed others ih | failed others ih =>
    rcases List.mem_cons.mp he with rfl | he
    · exact ⟨_, _, rfl⟩
    · exact ih he

/-- All that happens during a scan are listings. -/
theorem only_lists {nodes : List Node} {filter : String} {events : List Event}
    {result : Except Refusal (List Match)} (h : Yields (scan nodes filter) events result) :
    ∀ e ∈ events, e.IsListing := by
  by_cases hnodes : nodes = []
  · -- A scan of no nodes is refused at once.
    subst hnodes
    obtain ⟨rfl, -⟩ := yields_pure.mp h
    simp
  · obtain ⟨listed, hlisted, -⟩ := yields_scan hnodes h
    exact hlisted.only_lists

theorem bestEffort_only_lists {nodes : List Node} {filter : String} {events : List Event}
    {result : Except Refusal ScanReport} (h : Yields (scanBestEffort nodes filter) events result) :
    ∀ e ∈ events, e.IsListing := by
  by_cases hnodes : nodes = []
  · -- This one as well is refused at once where there are no nodes.
    subst hnodes
    obtain ⟨rfl, -⟩ := yields_pure.mp h
    simp
  · obtain ⟨listed, hlisted, -⟩ := yields_scanBestEffort hnodes h
    exact hlisted.only_lists

/-! ## §5 What is found -/

/-- What is found among the listings of some nodes for a query: it is in the order of the shown
names, and of the ids where these are the same; every key is there once; a key is there exactly if
it has the id of a node and the id of a container in the listing of that node that satisfies the
query; and the match for it shows the first such node and the first such container. -/
structure Finds (nodes : List Node) (listing : String → List Container) (query : String)
    (found : List Match) : Prop where
  ordered : found.Pairwise fun a b =>
    a.nodeName < b.nodeName ∨ a.nodeName = b.nodeName ∧ a.container.id ≤ b.container.id
  distinct : (found.map Match.key).Nodup
  keys : ∀ n c, ⟨n, c⟩ ∈ found.map Match.key ↔
    (∃ node ∈ nodes, node.id = n) ∧
      ∃ container ∈ listing n, container.id = c ∧ container.satisfies query = true
  firsts : ∀ m ∈ found,
    (∃ node, nodes.find? (·.id = m.nodeId) = some node ∧ m.nodeName = node.displayName ∧
      m.nodeToken = node.nameToken) ∧
    (listing m.nodeId).find? (fun c => c.id = m.container.id && c.satisfies query) =
      some m.container

variable {nodes : List Node} {listing : String → List Container} {filter : String}

/-- What a scan collects, match by match: the node is the first one with its id, and the container
the first one in the listing of that node that has its id and satisfies the query. -/
theorem mem_collect_listings {m : Match} :
    m ∈ collect filter (listings (distinctBy Node.id nodes) listing) ↔
      ∃ node, nodes.find? (·.id = m.nodeId) = some node ∧
        (listing m.nodeId).find? (fun c => c.id = m.container.id && c.satisfies (query filter)) =
          some m.container ∧ m = matchOf node m.container := by
  rw [mem_collect, find?_matches, find?_distinctBy, Option.bind_eq_some_iff]
  refine exists_congr fun node => and_congr_right fun hnode => ?_
  rw [Option.map_eq_some_iff]
  constructor
  · rintro ⟨container, hfound, hmatch⟩
    have hcontainer : container = m.container := congrArg Match.container hmatch
    subst hcontainer
    exact ⟨hfound, hmatch.symm⟩
  · rintro ⟨hfound, hmatch⟩
    exact ⟨m.container, hfound, hmatch.symm⟩

theorem nodup_key_collect (all : List (Node × List Container)) :
    ((collect filter all).map Match.key).Nodup := by
  unfold collect
  generalize all.flatMap (matchesIn (query filter)) = items
  -- Sorting changes no key, and the keys were different before.
  have hperm := (List.mergeSort_perm (distinctBy Match.key items) le).map Match.key
  exact hperm.nodup_iff.mpr (nodup_map_distinctBy items)

theorem pairwise_collect (all : List (Node × List Container)) :
    (collect filter all).Pairwise fun a b =>
      a.nodeName < b.nodeName ∨ a.nodeName = b.nodeName ∧ a.container.id ≤ b.container.id := by
  unfold collect
  generalize distinctBy Match.key (all.flatMap (matchesIn (query filter))) = items
  -- The order is total and transitive, so the sorted list is in order.
  have hsorted := @List.pairwise_mergeSort _ le (fun _ _ _ => le_trans) le_total items
  exact hsorted.imp le_iff.mp

/-- Collecting among the listings of the nodes finds what is there to find. -/
theorem finds_collect (nodes : List Node) (listing : String → List Container) (filter : String) :
    Finds nodes listing (query filter)
      (collect filter (listings (distinctBy Node.id nodes) listing)) where
  ordered := pairwise_collect _
  distinct := nodup_key_collect _
  keys := by
    intro n c
    constructor
    · intro hkey
      obtain ⟨m, hm, hmkey⟩ := List.mem_map.mp hkey
      cases hmkey
      -- A match has the key of a node that is given and of a container that it lists.
      obtain ⟨node, hnode, hfound, -⟩ := mem_collect_listings.mp hm
      have hid : node.id = m.nodeId := by simpa using List.find?_some hnode
      have hsatisfies : m.container.satisfies (query filter) = true := by
        simpa using List.find?_some hfound
      exact ⟨⟨node, List.mem_of_find?_eq_some hnode, hid⟩, m.container,
        List.mem_of_find?_eq_some hfound, rfl, hsatisfies⟩
    · rintro ⟨⟨node, hnode, hid⟩, container, hcontainer, hcid, hsatisfies⟩
      -- There is a first node with the id, and a first such container in its listing.
      obtain ⟨first, hfirst⟩ : ∃ first, nodes.find? (·.id = n) = some first := by
        rw [← Option.isSome_iff_exists, List.find?_isSome]
        exact ⟨node, hnode, by simpa using hid⟩
      obtain ⟨found, hfound⟩ : ∃ found,
          (listing n).find? (fun d => d.id = c && d.satisfies (query filter)) = some found := by
        rw [← Option.isSome_iff_exists, List.find?_isSome]
        exact ⟨container, hcontainer, by simp [hcid, hsatisfies]⟩
      have hfirstId : first.id = n := by simpa using List.find?_some hfirst
      have hfoundId : found.id = c := by
        have hboth := List.find?_some hfound
        rw [Bool.and_eq_true, decide_eq_true_eq] at hboth
        exact hboth.1
      -- The match of these two has the key.
      refine List.mem_map.mpr ⟨matchOf first found, mem_collect_listings.mpr ?_, ?_⟩
      · refine ⟨first, ?_, ?_, rfl⟩
        · simpa [matchOf, hfirstId] using hfirst
        · simpa [matchOf, hfirstId, hfoundId] using hfound
      · simp [Match.key, matchOf, hfirstId, hfoundId]
  firsts := by
    intro m hm
    obtain ⟨node, hnode, hfound, hmatch⟩ := mem_collect_listings.mp hm
    exact ⟨⟨node, hnode, congrArg Match.nodeName hmatch, congrArg Match.nodeToken hmatch⟩, hfound⟩

end Scan

/-- **A scan finds exactly the containers that satisfy the filter**, in every world and from every
state: if every listing that it makes succeeds, where `listing` gives what each node listed, then it
lists every node once, in the order in which the ids occur first, and finds what is there to find.
No batch over what it found is refused for a match that is repeated. -/
theorem scan_finds_exactly {σ : Type} (w : World σ) (s : σ) {nodes : List Node} (filter : String)
    {listing : String → List Container} (hnodes : nodes ≠ [])
    (hlisted : ∀ id reply,
      Event.exchange (.list id) reply ∈ (w.run (scan nodes filter) s).2.events →
        reply = .ok (listing id)) :
    callsOf (w.run (scan nodes filter) s).2.events =
      ((nodes.map (·.id)).eraseDups).map Call.list ∧
    ∃ found, (w.run (scan nodes filter) s).1 = .ok found ∧
      Scan.Finds nodes listing (Text.lowercase (Text.trim filter)) found ∧
      ∀ {τ : Type} (v : World τ) (t : τ) (action : Action) (overrides : Option Overrides)
        (key : MatchKey), (v.run (Batch.mk found action overrides).run t).1 ≠
          .error (.invalid (.duplicateMatch key)) := by
  -- The run is one of the histories, and in this one every listing succeeds.
  obtain ⟨listed, hhistory, hresult⟩ := Scan.yields_scan hnodes (w.run_yields (scan nodes filter) s)
  obtain ⟨rfl, hcalls⟩ := hhistory.eq_listings hlisted
  rw [map_distinctBy] at hcalls
  have hfinds := Scan.finds_collect nodes listing filter
  refine ⟨hcalls, _, hresult, hfinds, ?_⟩
  intro τ v t action overrides key hrun
  exact Batch.not_refusedFor_duplicate hfinds.distinct key ((Batch.run_eq_error v _ t _).mp hrun).1

/-- Three records of two nodes, which show the same name. -/
def Scan.sampleNodes : List Node :=
  [⟨"b", some "x", .connected, "", none⟩, ⟨"a", some "x", .connected, "", none⟩,
    ⟨"b", some "y", .connected, "", none⟩]

/-- One node has two containers with the same id. -/
def Scan.sampleCluster : Cluster :=
  { Cluster.sample with
    hosts := [("a", [Cluster.sampleHeld "1" "db", Cluster.sampleHeld "1" "web"]),
      ("b", [Cluster.sampleHeld "9" "web"])] }

set_option maxRecDepth 4000 in
/-- The record of the first node that is repeated counts for nothing, and of the containers with the
same id it is the second one that satisfies the filter. -/
theorem sample_scan_finds_exactly :
    Scan.sampleNodes ≠ [] ∧
    (∀ id reply,
      Event.exchange (.list id) reply ∈
          ((Cluster.world fun _ => false).run (scan Scan.sampleNodes " WEB ")
            Scan.sampleCluster).2.events →
        reply = .ok ((Scan.sampleCluster.held id).map (·.summary))) ∧
    ((Cluster.world fun _ => false).run (scan Scan.sampleNodes " WEB ") Scan.sampleCluster).1 =
      .ok [⟨"a", "x", "x", (Cluster.sampleHeld "1" "web").summary⟩,
        ⟨"b", "x", "x", (Cluster.sampleHeld "9" "web").summary⟩] ∧
    callsOf ((Cluster.world fun _ => false).run (scan Scan.sampleNodes " WEB ")
        Scan.sampleCluster).2.events =
      ((Scan.sampleNodes.map (·.id)).eraseDups).map Call.list ∧
    ∃ found,
      ((Cluster.world fun _ => false).run (scan Scan.sampleNodes " WEB ") Scan.sampleCluster).1 =
        .ok found ∧
      Scan.Finds Scan.sampleNodes (fun id => (Scan.sampleCluster.held id).map (·.summary))
        (Text.lowercase (Text.trim " WEB ")) found ∧
      ∀ {τ : Type} (v : World τ) (t : τ) (action : Action) (overrides : Option Overrides)
        (key : MatchKey), (v.run (Batch.mk found action overrides).run t).1 ≠
          .error (.invalid (.duplicateMatch key)) := by
  have hnodes : Scan.sampleNodes ≠ [] := by decide
  have hevents : ((Cluster.world fun _ => false).run (scan Scan.sampleNodes " WEB ")
      Scan.sampleCluster).2.events =
        ["b", "a"].map fun id =>
          .exchange (.list id) (.ok ((Scan.sampleCluster.held id).map (·.summary))) := rfl
  have hlisted : ∀ id reply,
      Event.exchange (.list id) reply ∈
          ((Cluster.world fun _ => false).run (scan Scan.sampleNodes " WEB ")
            Scan.sampleCluster).2.events →
        reply = .ok ((Scan.sampleCluster.held id).map (·.summary)) := by
    intro id reply hmem
    rw [hevents] at hmem
    obtain ⟨id, -, heq⟩ := List.mem_map.mp hmem
    cases heq
    rfl
  -- The matches come in the order of the nodes, and both show the same name, so that sorting
  -- changes their places by the ids.
  have horder : Scan.le ⟨"b", "x", "x", (Cluster.sampleHeld "9" "web").summary⟩
      ⟨"a", "x", "x", (Cluster.sampleHeld "1" "web").summary⟩ = false := by decide
  have hsorted : List.mergeSort
      [⟨"b", "x", "x", (Cluster.sampleHeld "9" "web").summary⟩,
        ⟨"a", "x", "x", (Cluster.sampleHeld "1" "web").summary⟩] Scan.le =
      [⟨"a", "x", "x", (Cluster.sampleHeld "1" "web").summary⟩,
        ⟨"b", "x", "x", (Cluster.sampleHeld "9" "web").summary⟩] := by
    simp [List.mergeSort, horder]
  have hfound : ((Cluster.world fun _ => false).run (scan Scan.sampleNodes " WEB ")
      Scan.sampleCluster).1 =
        .ok [⟨"a", "x", "x", (Cluster.sampleHeld "1" "web").summary⟩,
          ⟨"b", "x", "x", (Cluster.sampleHeld "9" "web").summary⟩] := by
    rw [← hsorted]
    rfl
  exact ⟨hnodes, hlisted, hfound, scan_finds_exactly _ _ " WEB " hnodes hlisted⟩

end Flotilla
