import Flotilla.Proofs.Cluster.Quiet
import Flotilla.Proofs.Migration.Protocol

/-!
# The Count Before a Migration

An operator is told how many containers a migration will process before it is carried out. The count
lists the node under the id that was given, as it is. The migration itself looks for the node by the
trimmed id. So the count can be relied on for the trimmed id, and for the given one only where there
is nothing to trim.

- `World.ListsApart`: asking the registry has nothing to do with what the nodes list.
- `Cluster.listsApart`: the in-memory cluster is such a world, whatever its rules are.
- `Foretells`: the count for an id is what a migration processes, whoever answers.
- `Migration.Begins.length_entries`: without a cancellation there is an entry for every container.
- `count_foretells_iff`: the main result.
-/

namespace Flotilla

/-- In this state the nodes list what they list after the registry was asked as well. -/
def World.ListsApart {σ : Type} (w : World σ) (s : σ) : Prop :=
  ∀ id, (w.reply (.list id) (w.reply .nodes s).2).1 = (w.reply (.list id) s).1

/-- The count for an id tells how many containers a migration from the source processes: wherever
one that starts in the same state comes to a ledger and is not cancelled, the count is the number of
its entries. -/
def Foretells (id source : String) : Prop :=
  ∀ (σ : Type) (w : World σ) (s : σ) (m : Migration) (ledger : Ledger), w.ListsApart s →
    m.source = source → (w.run m.run s).1 = .ok ledger → ledger.cancelled = false →
    (w.run (countContainers id) s).1 = .ok ledger.entries.length

/-! ## §1 What is counted -/

section Counting

variable {σ : Type} {w : World σ} {s : σ} {containers : List Container}

theorem run_countContainers_ok {id : String} (h : (w.reply (.list id) s).1 = .ok containers) :
    (w.run (countContainers id) s).1 = .ok containers.length := by
  unfold World.run countContainers
  rw [World.run_call, h]
  rfl

theorem run_countContainers_error {id : String} {fault : Fault}
    (h : (w.reply (.list id) s).1 = .error fault) :
    (w.run (countContainers id) s).1 = .error (.unreachable id fault) := by
  unfold World.run countContainers
  rw [World.run_call, h]
  rfl

namespace Migration

variable {m : Migration} {source target : Node} {start : Run σ}

/-- A ledger that is not cancelled has an entry for every container that was listed. -/
theorem Begins.length_entries (h : m.Begins w s source target containers start) {ledger : Ledger}
    (hledger : (w.run m.run s).1 = .ok ledger) (hwhole : ledger.cancelled = false) :
    ledger.entries.length = containers.length := by
  obtain ⟨done, found, last, hstops, hrun, hends⟩ :=
    w.run_attemptAll (attempt m.keepSource source target) containers start
  rw [h.run_eq, hrun] at hledger
  cases hledger
  -- A ledger that is not marked has not fewer entries than containers.
  have hcut := hends.cancelled
  rw [hwhole, w.length_attempted_take _ 1 start hstops.le] at hcut
  rw [hends.entries, w.length_attempted_take _ 1 start hstops.le]
  exact Nat.le_antisymm hstops.le (Nat.le_of_not_lt (of_decide_eq_false hcut.symm))

/-- Where nobody cancels, a migration that begins comes to its end. -/
theorem Begins.exists_ledger (h : m.Begins w s source target containers start)
    (hnever : w.cancelled = fun _ => false) :
    ∃ ledger, (w.run m.run s).1 = .ok ledger ∧ ledger.cancelled = false := by
  obtain ⟨done, ledger, last, hstops, hrun, hends⟩ :=
    w.run_attemptAll (attempt m.keepSource source target) containers start
  rw [hnever] at hstops
  refine ⟨ledger, by rw [h.run_eq, hrun], ?_⟩
  rw [hends.cancelled, w.length_attempted_take _ 1 start hstops.le, hstops.eq_total]
  exact decide_eq_false (Nat.lt_irrefl _)

end Migration

/-- For the trimmed id of its source the count is what a migration processes. -/
theorem foretells_trim (source : String) : Foretells (Text.trim source) source := by
  intro σ w s m ledger hlists hsource hledger hwhole
  obtain ⟨first, second, containers, start, hbegins⟩ := Migration.begins_of_run_ok hledger
  have hid : first.id = Text.trim source := hbegins.ids.1.trans (congrArg Text.trim hsource)
  -- The migration lists the node after it has asked the registry, the count without that.
  have hlisted := hbegins.listed
  rw [hid, hlists] at hlisted
  rw [run_countContainers_ok hlisted, hbegins.length_entries hledger hwhole]

end Counting

/-! ## §2 Listings in a cluster -/

/-- The first live rule about a call decides with what fault it fails. -/
theorem FailRule.fault_fire?_cons (c : Call) (r : FailRule) (rest : List FailRule) :
    (fire? c (r :: rest)).map Prod.fst =
      if r.covers c && r.isLive then some r.fault else (fire? c rest).map Prod.fst := by
  rw [fire?]
  -- Either this rule fires, or the search goes on and keeps this rule before the others.
  split
  · rfl
  · rw [Option.map_map]
    rfl

/-- A rule that is used up by asking the registry is not about listings. -/
theorem FailRule.fault_list_of_fire?_nodes {rules left : List FailRule} {fault : Fault}
    (h : fire? .nodes rules = some (fault, left)) (id : String) :
    (fire? (.list id) left).map Prod.fst = (fire? (.list id) rules).map Prod.fst := by
  -- By induction on the rules up to the one that fires: this one is about the registry, and the
  -- ones before it stay as they are.
  induction rules generalizing left with
  | nil => cases h
  | cons r rest ih =>
    unfold fire? at h
    split at h
    · next hfires =>
      cases h
      have hword : r.word = "nodes" := by
        simp only [covers, Call.word, Bool.and_eq_true] at hfires
        exact of_decide_eq_true hfires.1.1.1
      rw [fault_fire?_cons, fault_fire?_cons]
      simp [covers, spend, Call.word, hword]
    · obtain ⟨⟨first, others⟩, hrest, heq⟩ := Option.map_eq_some_iff.mp h
      cases heq
      rw [fault_fire?_cons, fault_fire?_cons, ih hrest]

/-- In the cluster the registry has nothing to do with what the nodes list. -/
theorem Cluster.listsApart (cancelled : List Event → Bool) (k : Cluster) :
    (Cluster.world cancelled).ListsApart k := by
  intro id
  show (reply (.list id) (reply .nodes k).2).1 = (reply (.list id) k).1
  cases hfire : FailRule.fire? .nodes k.rules with
  | none =>
    -- Without a rule that fires the cluster is the same after the question.
    have hsame : (reply .nodes k).2 = k := by
      unfold reply
      rw [hfire]
      rfl
    rw [hsame]
  | some fired =>
    obtain ⟨fault, left⟩ := fired
    have hspent : (reply .nodes k).2 = { k with rules := left } := by
      unfold reply
      rw [hfire]
    rw [hspent]
    -- The rules about listings are what they were, and so are the containers.
    have hrules := FailRule.fault_list_of_fire?_nodes hfire id
    unfold reply
    cases hleft : FailRule.fire? (.list id) left with
    | none =>
      rw [hleft] at hrules
      rw [Option.map_eq_none_iff.mp hrules.symm]
      rfl
    | some other =>
      rw [hleft] at hrules
      obtain ⟨same, hsame, heq⟩ := Option.map_eq_some_iff.mp hrules.symm
      rw [hsame]
      exact congrArg Except.error heq.symm

/-! ## §3 Ids with blanks around them -/

/-- Two nodes, of which the first one has a container. -/
def Cluster.pair (first second : String) : Cluster where
  nodes := [Node.new first .connected, Node.new second .connected]
  registryFault := none
  hosts := [(first, [Cluster.sampleHeld "1" "web"]), (second, [])]
  rules := []
  created := 0

/-- Some id needs no trimming and is another one than a given one. -/
theorem exists_other_id (id : String) :
    ∃ other, Text.trim other = other ∧ other ≠ "" ∧ other ≠ id := by
  by_cases h : "a" = id
  · exact ⟨"b", by decide, by decide, h ▸ by decide⟩
  · exact ⟨"a", by decide, by decide, h⟩

/-- A migration from the first node to the second one finds its container. -/
theorem begins_pair {source other : String} (hsome : Text.trim source ≠ "")
    (htrimmed : Text.trim other = other) (hother : other ≠ "") (hne : other ≠ Text.trim source) :
    ∃ first second containers start, (Migration.mk source other false true).Begins
      (Cluster.world fun _ => false) (Cluster.pair (Text.trim source) other) first second containers
        start := by
  have hnodes : Cluster.reply .nodes (Cluster.pair (Text.trim source) other) =
      (.ok (Cluster.pair (Text.trim source) other).nodes, Cluster.pair (Text.trim source) other) :=
    Cluster.reply_nodes_ok rfl rfl
  have hhost : (Cluster.pair (Text.trim source) other).host? (Text.trim source) =
      some [Cluster.sampleHeld "1" "web"] := by
    simp [Cluster.pair, Cluster.host?]
  have hcomplete : (Migration.mk source other false true).Complete :=
    ⟨hsome, by rwa [htrimmed], by rw [htrimmed]; exact hne.symm, rfl⟩
  -- Both nodes are connected, and their ids are different.
  have hends : Migration.endpoints (Cluster.pair (Text.trim source) other).nodes (Text.trim source)
      other = .ok (Node.new (Text.trim source) .connected, Node.new other .connected) := by
    rw [Migration.endpoints_eq_ok, Migration.endpoint_eq_ok, Migration.endpoint_eq_ok]
    simp [Cluster.pair, Node.new, hne.symm]
  refine ⟨Node.new (Text.trim source) .connected, Node.new other .connected,
    [(Cluster.sampleHeld "1" "web").summary],
    ⟨(Cluster.reply (.list (Text.trim source))
        (Cluster.reply .nodes (Cluster.pair (Text.trim source) other)).2).2,
      [.exchange .nodes (.ok (Cluster.pair (Text.trim source) other).nodes),
        .exchange (.list (Text.trim source)) (.ok [(Cluster.sampleHeld "1" "web").summary])]⟩, ?_⟩
  constructor
  case checked => exact Migration.precheck_eq_ok.mpr hcomplete
  case registry =>
    refine ⟨_, congrArg Prod.fst hnodes, ?_, rfl⟩
    rw [htrimmed]
    exact hends
  case listed =>
    rw [Cluster.world_reply, Cluster.world_reply, hnodes]
    exact congrArg Prod.fst (Cluster.reply_list_ok rfl hhost)
  case some => exact List.cons_ne_nil _ _
  case state => rfl

/-- For an id with blanks around it the count fails where a migration goes on. -/
theorem not_foretells {source : String} (hblanks : Text.trim source ≠ source)
    (hsome : Text.trim source ≠ "") : ¬Foretells source source := by
  intro h
  -- A second node is needed for the migration to go to.
  obtain ⟨other, htrimmed, hother, hne⟩ := exists_other_id (Text.trim source)
  obtain ⟨_, _, _, _, hbegins⟩ := begins_pair hsome htrimmed hother hne
  obtain ⟨ledger, hledger, hwhole⟩ := hbegins.exists_ledger rfl
  have hcount := h _ _ _ _ ledger (Cluster.listsApart _ _) rfl hledger hwhole
  -- No node has the id with its blanks.
  have hnowhere : (Cluster.pair (Text.trim source) other).host? source = none := by
    have hsecond : other ≠ source := fun heq => hblanks (heq ▸ htrimmed)
    simp [Cluster.pair, Cluster.host?, hblanks, hsecond]
  have hlist : ((Cluster.world fun _ => false).reply (.list source)
      (Cluster.pair (Text.trim source) other)).1 = .error Cluster.notConnected := by
    rw [Cluster.world_reply, Cluster.reply_of_rules_nil rfl]
    simp only [Cluster.perform, hnowhere]
  rw [run_countContainers_error hlist] at hcount
  cases hcount

/-- **The count before a migration is what it processes**, for the trimmed id of the source, in
every world where asking the registry has nothing to do with what the nodes list, from every state
and for every migration that comes to a ledger and is not cancelled. For the id as it was given this
is so exactly if the id has no blanks around it, or nothing but blanks, which no migration accepts:
for any other id there is a cluster in which a migration processes a container and the count
fails. -/
theorem count_foretells_iff (source : String) :
    Foretells (Text.trim source) source ∧
      (Foretells source source ↔ Text.trim source = source ∨ Text.trim source = "") := by
  refine ⟨foretells_trim source, ?_, ?_⟩
  · intro h
    -- An id with blanks around it and something in between is refuted by such a cluster.
    by_contra hneither
    obtain ⟨hblanks, hsome⟩ := not_or.mp hneither
    exact not_foretells hblanks hsome h
  · rintro (htrimmed | hblank)
    · have h := foretells_trim source
      rwa [htrimmed] at h
    · -- A migration without a source is refused.
      intro σ w s m ledger _ hsource hledger _
      obtain ⟨_, _, _, _, hbegins⟩ := Migration.begins_of_run_ok hledger
      have hcomplete := Migration.precheck_eq_ok.mp hbegins.checked
      exact absurd (hsource ▸ hblank) hcomplete.source

/-- The source of the sample migration is given with a blank before its id. -/
theorem spaced_count_foretells :
    ((Cluster.world fun _ => false).run Migration.sample.run Cluster.sample).1 =
      .ok Migration.sampleLedger ∧
    ((Cluster.world fun _ => false).run (countContainers "a") Cluster.sample).1 = .ok 2 ∧
    ((Cluster.world fun _ => false).run (countContainers " a") Cluster.sample).1 =
      .error (.unreachable " a" Cluster.notConnected) ∧
    ¬Foretells " a" " a" := by
  have hledger : ((Cluster.world fun _ => false).run Migration.sample.run Cluster.sample).1 =
      .ok Migration.sampleLedger := rfl
  obtain ⟨hcount, hgiven⟩ := count_foretells_iff " a"
  refine ⟨hledger, hcount _ _ _ _ _ (Cluster.listsApart _ _) rfl hledger rfl, rfl, ?_⟩
  rw [hgiven]
  decide

end Flotilla
