import Flotilla.Proofs.Cluster.Lasting
import Flotilla.Proofs.Scan

/-!
# Plain and Best-Effort Scans Agree

A plain scan stops at the first node that cannot be listed, a best-effort scan goes on and reports
it. Where every node is listed in one way only, whoever asks and however often, the report tells
what a plain scan of the same nodes comes to.

- `World.ListsAs`: listings are answered as assigned.
- `Scan.run_listAll`, `Scan.run_listEach`: both ways to list nodes, as functions of the assignment.
- `Scan.Reports`: the failures of a report, told without the scan.
- `scans_agree`: the main result.
-/

namespace Flotilla

variable {σ : Type}

/-! ## §1 Assigned listings -/

namespace World

/-- The state after some nodes were listed. -/
def afterListing (w : World σ) (ids : List String) (s : σ) : σ :=
  ids.foldl (fun t id => (w.reply (.list id) t).2) s

/-- From a state on nodes are listed as assigned, however many have been listed before. -/
def ListsAs (w : World σ) (listing : String → Except Fault (List Container)) (s : σ) : Prop :=
  ∀ before id, (w.reply (.list id) (w.afterListing before s)).1 = listing id

variable {w : World σ} {listing : String → Except Fault (List Container)} {s : σ}

theorem ListsAs.reply (h : w.ListsAs listing s) (id : String) :
    (w.reply (.list id) s).1 = listing id :=
  h [] id

theorem ListsAs.next (h : w.ListsAs listing s) (id : String) :
    w.ListsAs listing (w.reply (.list id) s).2 :=
  fun before => h (id :: before)

end World

/-- Where no rule is used up, the cluster answers a listing in the same way each time. -/
theorem Cluster.Lasting.listsAs {k : Cluster} (hk : k.Lasting) (cancelled : List Event → Bool) :
    (Cluster.world cancelled).ListsAs (fun id => (Cluster.reply (.list id) k).1) k := by
  -- A listing leaves such a cluster as it is, so no number of them changes the next answer.
  have hsame : ∀ before, (Cluster.world cancelled).afterListing before k = k := by
    intro before
    induction before with
    | nil => rfl
    | cons id rest ih =>
      show (Cluster.world cancelled).afterListing rest (Cluster.reply (.list id) k).2 = k
      rw [hk.reply_list, ih]
  intro before id
  rw [hsame, Cluster.world_reply]

namespace Scan

/-! ## §2 Both ways to list nodes -/

section Listing

variable (listing : String → Except Fault (List Container))

/-- The containers that a node lists, none where it cannot be listed. -/
def listedOn (id : String) : List Container :=
  (listing id).toOption.getD []

def canList (node : Node) : Bool :=
  !isFault (listing node.id)

/-- The nodes that cannot be listed, with their faults. -/
def failing (nodes : List Node) : List (Node × Fault) :=
  nodes.filterMap fun node =>
    match listing node.id with
    | .ok _ => none
    | .error fault => some (node, fault)

/-- The failure that a report has for a node that could not be listed. -/
def reported (failure : Node × Fault) : ScanFailure :=
  ⟨failure.1.id, failure.1.displayName, failure.2⟩

variable {listing} {w : World σ} {node : Node} {nodes rest : List Node} {fault : Fault}
  {containers : List Container}

theorem failing_cons_ok (h : listing node.id = .ok containers) :
    failing listing (node :: rest) = failing listing rest := by
  simp [failing, h]

theorem failing_cons_error (h : listing node.id = .error fault) :
    failing listing (node :: rest) = (node, fault) :: failing listing rest := by
  simp [failing, h]

/-- A plain listing brings the listings of all nodes, or else the first failure. -/
theorem run_listAll {r : Run σ} (h : w.ListsAs listing r.state) :
    ((listAll nodes).run w.answer r).1 =
      match failing listing nodes with
      | [] => .ok (listings nodes (listedOn listing))
      | failure :: _ => .error failure := by
  -- By induction on the nodes: the first one is listed, and the others from where this leads to.
  induction nodes generalizing r with
  | nil => rfl
  | cons node rest ih =>
    have hothers := ih (r := ⟨_, r.events ++ [.exchange (.list node.id) (listing node.id)]⟩)
      (h.next node.id)
    unfold listAll
    rw [World.run_call, h.reply node.id]
    cases hnode : listing node.id with
    | error fault =>
      rw [failing_cons_error hnode]
      rfl
    | ok containers =>
      rw [hnode] at hothers
      rw [failing_cons_ok hnode]
      simp only [Program.bind_eq, Program.run_bind, hothers]
      cases failing listing rest with
      | nil => simp [listings, listedOn, hnode, Except.toOption]
      | cons failure others => rfl

/-- A best-effort listing brings the listings of the nodes that can be listed, and all failures. -/
theorem run_listEach {r : Run σ} (h : w.ListsAs listing r.state) :
    ((listEach nodes).run w.answer r).1 =
      (listings (nodes.filter (canList listing)) (listedOn listing),
        (failing listing nodes).map reported) := by
  -- The same induction. A failure is put aside here, and the others are listed all the same.
  induction nodes generalizing r with
  | nil => rfl
  | cons node rest ih =>
    have hothers := ih (r := ⟨_, r.events ++ [.exchange (.list node.id) (listing node.id)]⟩)
      (h.next node.id)
    unfold listEach
    rw [World.run_call, h.reply node.id]
    cases hnode : listing node.id with
    | error fault =>
      rw [hnode] at hothers
      have hcannot : ¬ canList listing node = true := by simp [canList, hnode, isFault]
      -- A node that fails is not among those that can be listed, and its failure comes first.
      rw [failing_cons_error hnode, List.filter_cons_of_neg hcannot]
      simp only [Program.bind_eq, Program.run_bind, hothers]
      rfl
    | ok containers =>
      rw [hnode] at hothers
      have hcan : canList listing node = true := by simp [canList, hnode, isFault]
      rw [failing_cons_ok hnode, List.filter_cons_of_pos hcan]
      simp only [Program.bind_eq, Program.run_bind, hothers]
      simp [listings, listedOn, hnode, Except.toOption]

theorem mem_failing : (node, fault) ∈ failing listing nodes ↔
    node ∈ nodes ∧ listing node.id = .error fault := by
  unfold failing
  rw [List.mem_filterMap]
  constructor
  · -- Only a node with a fault is kept, and it is kept with this fault.
    rintro ⟨first, hmem, hsome⟩
    cases hfirst : listing first.id with
    | ok containers =>
      rw [hfirst] at hsome
      cases hsome
    | error other =>
      rw [hfirst] at hsome
      cases hsome
      exact ⟨hmem, hfirst⟩
  · rintro ⟨hmem, hfault⟩
    refine ⟨node, hmem, ?_⟩
    rw [hfault]

/-- Nothing fails exactly where all nodes can be listed. -/
theorem failing_eq_nil :
    failing listing nodes = [] ↔ ∀ node ∈ nodes, canList listing node = true := by
  unfold failing
  rw [List.filterMap_eq_nil_iff]
  refine forall₂_congr fun node _ => ?_
  cases hnode : listing node.id <;> simp [canList, hnode, isFault]

/-- The ids of the nodes that fail, in the order of the nodes. -/
theorem ids_failing : (failing listing nodes).map (·.1.id) =
    (nodes.map (·.id)).filter fun id => isFault (listing id) := by
  -- Node by node: an id is kept on one side exactly if its node is kept on the other one.
  induction nodes with
  | nil => rfl
  | cons node rest ih =>
    cases hnode : listing node.id with
    | ok containers =>
      rw [failing_cons_ok hnode, ih]
      simp [hnode, isFault]
    | error fault =>
      rw [failing_cons_error hnode, List.map_cons, ih]
      simp [hnode, isFault]

end Listing

/-! ## §3 Both scans -/

section Scans

variable {listing : String → Except Fault (List Container)} {w : World σ} {s : σ}
  {nodes : List Node}

/-- A scan of some nodes collects from all of them, or is refused for the first one that fails. -/
theorem run_scan (h : w.ListsAs listing s) (hnodes : nodes ≠ []) (filter : String) :
    (w.run (scan nodes filter) s).1 =
      match failing listing (distinctBy Node.id nodes) with
      | [] => .ok (collect filter (listings (distinctBy Node.id nodes) (listedOn listing)))
      | (node, fault) :: _ => .error (.unreachable node.displayName fault) := by
  have hlisted : ((listAll (distinctBy Node.id nodes)).run w.answer ⟨s, []⟩).1 = _ :=
    run_listAll h
  unfold World.run scan
  simp only [distinctNodes_of_ne_nil hnodes, Program.bind_eq, Program.run_bind, hlisted]
  -- The scan goes on after the listings as their result says.
  cases failing listing (distinctBy Node.id nodes) with
  | nil => rfl
  | cons failure others => rfl

/-- A best-effort scan collects from the nodes that can be listed, and reports the other ones. -/
theorem run_scanBestEffort (h : w.ListsAs listing s) (hnodes : nodes ≠ []) (filter : String) :
    (w.run (scanBestEffort nodes filter) s).1 = .ok
      ⟨collect filter
          (listings ((distinctBy Node.id nodes).filter (canList listing)) (listedOn listing)),
        (failing listing (distinctBy Node.id nodes)).map reported⟩ := by
  have hlisted : ((listEach (distinctBy Node.id nodes)).run w.answer ⟨s, []⟩).1 = _ :=
    run_listEach h
  unfold World.run scanBestEffort
  simp only [distinctNodes_of_ne_nil hnodes, Program.bind_eq, Program.run_bind, hlisted]
  rfl

end Scans

/-! ## §4 What a report tells -/

/-- The failures are those of the nodes that cannot be listed: each id once and in the order in
which the ids occur first, with the name of the first node that has it and with its fault. -/
structure Reports (nodes : List Node) (listing : String → Except Fault (List Container))
    (failures : List ScanFailure) : Prop where
  ids : failures.map (·.nodeId) =
    ((nodes.map (·.id)).eraseDups).filter fun id => isFault (listing id)
  told : ∀ f ∈ failures, listing f.nodeId = .error f.fault ∧
    ∃ node, nodes.find? (·.id = f.nodeId) = some node ∧ f.nodeName = node.displayName

theorem reports_failing (nodes : List Node) (listing : String → Except Fault (List Container)) :
    Reports nodes listing ((failing listing (distinctBy Node.id nodes)).map reported) where
  ids := by
    rw [← map_distinctBy, ← ids_failing, List.map_map]
    rfl
  told := by
    -- Behind each failure there is the first node with its id, and the fault of this node.
    intro f hf
    obtain ⟨⟨node, fault⟩, hmem, rfl⟩ := List.mem_map.mp hf
    obtain ⟨hnode, hfault⟩ := mem_failing.mp hmem
    exact ⟨hfault, node, mem_distinctBy.mp hnode, rfl⟩

/-- What the report of a best-effort scan tells of plain scans from the same state. Its matches are
those of a scan of the nodes that can be listed. A scan of all nodes succeeds exactly if nothing
failed, and then with the same matches; otherwise it is refused for the first failure. -/
structure Tells (w : World σ) (s : σ) (nodes : List Node) (filter : String)
    (listing : String → Except Fault (List Container)) (report : ScanReport) : Prop where
  failures : Reports nodes listing report.failures
  healthy : nodes.filter (canList listing) ≠ [] →
    (w.run (scan (nodes.filter (canList listing)) filter) s).1 = .ok report.found
  none_healthy : nodes.filter (canList listing) = [] → report.found = []
  succeeds : (∃ found, (w.run (scan nodes filter) s).1 = .ok found) ↔ report.isComplete = true
  complete : report.isComplete = true → (w.run (scan nodes filter) s).1 = .ok report.found
  incomplete : ∀ first rest, report.failures = first :: rest →
    (w.run (scan nodes filter) s).1 = .error (.unreachable first.nodeName first.fault)

variable {listing : String → Except Fault (List Container)} {w : World σ} {s : σ}
  {nodes : List Node}

/-- The first node of every id among those that can be listed. -/
theorem distinctBy_filter_canList (listing : String → Except Fault (List Container))
    (nodes : List Node) :
    distinctBy Node.id (nodes.filter (canList listing)) =
      (distinctBy Node.id nodes).filter (canList listing) :=
  distinctBy_filter (fun id => !isFault (listing id)) nodes

theorem failing_filter_canList (nodes : List Node) :
    failing listing (nodes.filter (canList listing)) = [] :=
  failing_eq_nil.mpr fun _ hnode => (List.mem_filter.mp hnode).2

/-- Where nothing fails, a plain scan finds what a best-effort scan finds. -/
theorem run_scan_of_complete (h : w.ListsAs listing s) (hnodes : nodes ≠ []) (filter : String)
    (hnone : failing listing (distinctBy Node.id nodes) = []) :
    (w.run (scan nodes filter) s).1 = .ok (collect filter
      (listings ((distinctBy Node.id nodes).filter (canList listing)) (listedOn listing))) := by
  have hscan := run_scan h hnodes filter
  rw [hnone] at hscan
  rw [hscan, List.filter_eq_self.mpr (failing_eq_nil.mp hnone)]

theorem run_scan_of_failing (h : w.ListsAs listing s) (hnodes : nodes ≠ []) (filter : String)
    {first : ScanFailure} {rest : List ScanFailure}
    (hfirst : (failing listing (distinctBy Node.id nodes)).map reported = first :: rest) :
    (w.run (scan nodes filter) s).1 = .error (.unreachable first.nodeName first.fault) := by
  have hscan := run_scan h hnodes filter
  cases hfailing : failing listing (distinctBy Node.id nodes) with
  | nil =>
    rw [hfailing] at hfirst
    cases hfirst
  | cons failure others =>
    rw [hfailing] at hfirst hscan
    cases hfirst
    exact hscan

theorem tells_of_run (h : w.ListsAs listing s) (hnodes : nodes ≠ []) (filter : String) :
    ∃ report, (w.run (scanBestEffort nodes filter) s).1 = .ok report ∧
      Tells w s nodes filter listing report := by
  refine ⟨_, run_scanBestEffort h hnodes filter, ?_⟩
  -- A report is complete exactly if nothing failed.
  have hcomplete : ∀ found, ScanReport.isComplete
      ⟨found, (failing listing (distinctBy Node.id nodes)).map reported⟩ = true →
        failing listing (distinctBy Node.id nodes) = [] := by
    intro found hempty
    rwa [ScanReport.isComplete, List.isEmpty_iff, List.map_eq_nil_iff] at hempty
  constructor
  case failures => exact reports_failing nodes listing
  case healthy =>
    intro hsome
    -- Among the nodes that can be listed there are no failures, so a plain scan goes through.
    have hnone : failing listing (distinctBy Node.id (nodes.filter (canList listing))) = [] := by
      rw [distinctBy_filter_canList]
      exact failing_filter_canList _
    have hscan := run_scan h hsome filter
    rwa [hnone, distinctBy_filter_canList] at hscan
  case none_healthy =>
    intro hnone
    rw [← distinctBy_filter_canList, hnone]
    -- Without nodes there is nothing to be collected.
    show List.mergeSort [] le = []
    exact List.mergeSort_nil
  -- Both answers of a scan of all nodes are known from the failures.
  case complete => exact fun hempty => run_scan_of_complete h hnodes filter (hcomplete _ hempty)
  case incomplete => exact fun first rest hfirst => run_scan_of_failing h hnodes filter hfirst
  case succeeds =>
    constructor
    · rintro ⟨found, hfound⟩
      -- A failure would have been the answer.
      cases hfailures : (failing listing (distinctBy Node.id nodes)).map reported with
      | nil => rfl
      | cons first rest =>
        rw [run_scan_of_failing h hnodes filter hfailures] at hfound
        cases hfound
    · intro hempty
      exact ⟨_, run_scan_of_complete h hnodes filter (hcomplete _ hempty)⟩

end Scan

/-- **Plain and best-effort scans agree**, wherever nodes are listed in one way only: both refuse
an empty selection, and nothing else, for what is not given; of all other selections a best-effort
scan brings a report, and this tells what plain scans come to. -/
theorem scans_agree (w : World σ) (s : σ) {listing : String → Except Fault (List Container)}
    (hlists : w.ListsAs listing s) (nodes : List Node) (filter : String) :
    ((∃ cause, (w.run (scan nodes filter) s).1 = .error (.unmet cause)) ↔ nodes = []) ∧
    ((∃ refusal, (w.run (scanBestEffort nodes filter) s).1 = .error refusal) ↔ nodes = []) ∧
    (nodes = [] → (w.run (scan nodes filter) s).1 = .error (.unmet .noNodes) ∧
      (w.run (scanBestEffort nodes filter) s).1 = .error (.unmet .noNodes)) ∧
    (nodes ≠ [] → ∃ report, (w.run (scanBestEffort nodes filter) s).1 = .ok report ∧
      Scan.Tells w s nodes filter listing report) := by
  by_cases hnodes : nodes = []
  · -- No nodes: both scans compute to the refusal.
    subst hnodes
    exact ⟨⟨fun _ => rfl, fun _ => ⟨_, rfl⟩⟩, ⟨fun _ => rfl, fun _ => ⟨_, rfl⟩⟩,
      fun _ => ⟨rfl, rfl⟩, fun hsome => absurd rfl hsome⟩
  · obtain ⟨report, hreport, htells⟩ := Scan.tells_of_run hlists hnodes filter
    refine ⟨⟨?_, fun hnone => absurd hnone hnodes⟩, ⟨?_, fun hnone => absurd hnone hnodes⟩,
      fun hnone => absurd hnone hnodes, fun _ => ⟨report, hreport, htells⟩⟩
    · rintro ⟨cause, hrefused⟩
      -- Either scan of other selections has another answer.
      cases hfailures : report.failures with
      | nil =>
        have hcomplete : report.isComplete = true := by simp [ScanReport.isComplete, hfailures]
        rw [htells.complete hcomplete] at hrefused
        cases hrefused
      | cons first rest =>
        rw [htells.incomplete first rest hfailures] at hrefused
        cases hrefused
    · rintro ⟨refusal, hrefused⟩
      rw [hreport] at hrefused
      cases hrefused

/-- The sample nodes and one that cannot be reached. -/
def Scan.moreNodes : List Node :=
  Scan.sampleNodes ++ [Node.new "z" .disconnected]

/-- The sample cluster, where one of the nodes cannot be listed. -/
def Scan.partlyListed : Cluster :=
  { Scan.sampleCluster with rules := [⟨"list", some "b", none, none, ⟨.unknown, none, "timeout"⟩⟩] }

set_option maxRecDepth 4000 in
/-- The node that fails by a rule is given twice and reported once, under its first name. -/
theorem sample_scans_agree :
    (Cluster.world fun _ => false).ListsAs
      (fun id => (Cluster.reply (.list id) Scan.partlyListed).1) Scan.partlyListed ∧
    Scan.moreNodes ≠ [] ∧
    ((Cluster.world fun _ => false).run (scanBestEffort Scan.moreNodes "web")
        Scan.partlyListed).1 =
      .ok ⟨[⟨"a", "x", "x", (Cluster.sampleHeld "1" "web").summary⟩],
        [⟨"b", "x", ⟨.unknown, none, "timeout"⟩⟩, ⟨"z", "z...", Cluster.notConnected⟩]⟩ ∧
    ∃ report,
      ((Cluster.world fun _ => false).run (scanBestEffort Scan.moreNodes "web")
        Scan.partlyListed).1 = .ok report ∧
      Scan.Tells (Cluster.world fun _ => false) Scan.partlyListed Scan.moreNodes "web"
        (fun id => (Cluster.reply (.list id) Scan.partlyListed).1) report := by
  have hlasting : Scan.partlyListed.Lasting := by decide
  have hlists := hlasting.listsAs fun _ => false
  have hnodes : Scan.moreNodes ≠ [] := by decide
  have hreport : ((Cluster.world fun _ => false).run (scanBestEffort Scan.moreNodes "web")
      Scan.partlyListed).1 =
        .ok ⟨[⟨"a", "x", "x", (Cluster.sampleHeld "1" "web").summary⟩],
          [⟨"b", "x", ⟨.unknown, none, "timeout"⟩⟩, ⟨"z", "z...", Cluster.notConnected⟩]⟩ := by
    -- One match is in order, so that the rest computes.
    rw [← List.mergeSort_singleton (r := Scan.le)]
    rfl
  exact ⟨hlists, hnodes, hreport, (scans_agree _ _ hlists Scan.moreNodes "web").2.2.2 hnodes⟩

end Flotilla
