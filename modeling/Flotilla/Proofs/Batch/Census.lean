import Flotilla.Proofs.Batch.Protocol
import Flotilla.Proofs.Cluster.Effects
import Flotilla.Proofs.Cluster.Removal
import Flotilla.Proofs.Distinct
import Mathlib.Data.List.Forall2

/-!
# A Batch Accounts for Every Container

On the in-memory cluster no container disappears without an entry that says so, whatever the items
of a batch do to each other.

- `Batch.Change`: what an item did to the containers of its node.
- `Batch.Renewed`: the containers of a node and those that stand in the place of some of them.
- `Batch.Census`: a node has lost as many containers as its entries say; a container that no match
  can mean is still there; and where every match means a container, the new containers are those
  of the items that were redeployed.
- `Batch.census_of_run`: the main result.
-/

namespace Flotilla.Batch

open Cluster Remote

/-! ## §1 What entries say -/

/-- Whether an entry says that its container is gone and that nothing stands in its place. -/
def Job.loses : Job → Entry → Bool
  | .start, _ | .stop, _ => false
  | .delete, entry => entry.ok
  | .redeploy _, entry => entry.stage = .sourceRemoved

/-- Whether an entry says that another container stands in the place of its container. -/
def Job.replaces : Job → Entry → Bool
  | .start, _ | .stop, _ | .delete, _ => false
  | .redeploy _, entry => entry.stage = .completed

/-- The ids of the containers of a node that are gone, as the entries say. -/
def goneFrom (node : String) (job : Job) (entries : List Entry) : List String :=
  (entries.filter fun e => e.key.nodeId = node && (job.loses e || job.replaces e)).map
    (·.key.containerId)

/-- The ids of the containers that matches mean on a node. -/
def idsOn (node : String) (items : List Match) : List String :=
  (items.filter (·.nodeId = node)).map (·.container.id)

/-! ## §2 One item -/

section Item

variable {job : Job} {item : Match} {entry : Entry}

/-- What a job did to the containers of the node of its match, with the entry that tells of it. -/
inductive Change (job : Job) (item : Match) (entry : Entry) (list : List Held) :
    List Held → Prop where
  | kept {now : List Held} (htouched : Touched item.container.id list now)
      (hloses : job.loses entry = false) (hreplaces : job.replaces entry = false) :
      Change job item entry list now
  | lost (hthere : ∃ h ∈ list, h.summary.id = item.container.id)
      (hloses : job.loses entry = true) (hreplaces : job.replaces entry = false) :
      Change job item entry list (removeFirst item.container.id list)
  | replaced {changes : Changes} {h : Held} {plan : Plan} (number : Nat)
      (hjob : job = .redeploy changes)
      (hfound : list.find? (·.summary.id = item.container.id) = some h)
      (hplan : redeployPlan item h.snapshot changes = .ok plan)
      (hmessage : entry.message = recreated plan)
      (hloses : job.loses entry = false) (hreplaces : job.replaces entry = true) :
      Change job item entry list (removeFirst item.container.id list ++ [build plan number])

/-- What an item did to the containers of all nodes. -/
def ItemDone (job : Job) (_ : Nat) (item : Match) (entry : Entry) (held last : Holdings) : Prop :=
  entry.key = item.key ∧
    ∃ now, last = Function.update held item.nodeId now ∧
      Change job item entry (held item.nodeId) now

variable {nodes : List Node} {held last : Holdings} {block : List Event} {outcome : Outcome}

/-- Starting a container touches it at most. -/
theorem touched_of_start {node id : String} {reply : Except Fault Unit}
    (h : Effect nodes (.start node id) reply held last) :
    ∃ now, last = Function.update held node now ∧ Touched id (held node) now := by
  cases h with
  | failed fault => exact ⟨held node, (Function.update_eq_self node held).symm, .same⟩
  | start hthere => exact ⟨_, rfl, .state "running"⟩

/-- Stopping a container touches it at most. -/
theorem touched_of_stop {node id : String} {reply : Except Fault Unit}
    (h : Effect nodes (.stop node id) reply held last) :
    ∃ now, last = Function.update held node now ∧ Touched id (held node) now := by
  cases h with
  | failed fault => exact ⟨held node, (Function.update_eq_self node held).symm, .same⟩
  | stop hthere => exact ⟨_, rfl, .state "exited"⟩

/-- A deletion removes the same container whether it was stopped before or not. -/
theorem removed_after_stop {node id : String} {mid : Holdings} {stopped : Except Fault Unit}
    (hstop : Effect nodes (.stop node id) stopped held mid)
    (hdelete : Effect nodes (.delete node id) (.ok ()) mid last) :
    last = Function.update held node (removeFirst id (held node)) := by
  obtain ⟨now, rfl, htouched⟩ := touched_of_stop hstop
  cases hdelete with
  | delete hthere =>
    rw [Function.update_self, Function.update_idem, htouched.removeFirst_eq]

/-- A match was redeployed: the container that it means was found and planned, the name of the plan
was free without that container, and behind all others stands what was built from the plan. -/
structure Recreated (changes : Changes) (item : Match) (plan : Plan) (number : Nat)
    (held last : Holdings) : Prop where
  planned : ∃ h, (held item.nodeId).find? (·.summary.id = item.container.id) = some h ∧
    redeployPlan item h.snapshot changes = .ok plan
  free : isTaken plan.name (removeFirst item.container.id (held item.nodeId)) = false
  last : last = Function.update held item.nodeId
    (removeFirst item.container.id (held item.nodeId) ++ [build plan number])

/-- A redeployment that was completed has made the container anew. -/
theorem RedeployLog.replaced {changes : Changes} (h : RedeployLog item changes block outcome)
    (he : Effects nodes block held last) (hstage : outcome.stage = .completed) :
    ∃ plan number, outcome.message = Batch.recreated plan ∧
      Recreated changes item plan number held last := by
  -- Only one history ends as completed; its four exchanges are taken one after the other.
  cases h with
  | notInspected fault => cases hstage
  | notPlanned hplan => cases hstage
  | notDeleted hplan stopped fault => cases stopped <;> cases hstage
  | notRecreated hplan stopped fault => cases hstage
  | @redeployed snapshot plan hplan stopped =>
    obtain ⟨mid, hinspect, hrest⟩ := effects_exchange he
    obtain ⟨mid, hstop, hrest⟩ := effects_exchange hrest
    obtain ⟨mid, hdelete, hrest⟩ := effects_exchange hrest
    have hcreate := effects_single hrest
    cases hinspect with
    | inspect hfound =>
      -- The deletion succeeded, so the creation finds the node without the container.
      cases removed_after_stop hstop hdelete
      cases hcreate with
      | create number hfree =>
        rw [Function.update_self] at hfree
        refine ⟨plan, number, rfl, ⟨_, hfound, hplan⟩, hfree, ?_⟩
        rw [Function.update_self, Function.update_idem]

/-- The exchanges of a redeployment had the effect that their outcome tells. -/
theorem RedeployLog.change {changes : Changes} (h : RedeployLog item changes block outcome)
    (he : Effects nodes block held last) :
    ∃ now, last = Function.update held item.nodeId now ∧
      Change (.redeploy changes) item (outcome.entry item.key item.nodeName item.container)
        (held item.nodeId) now := by
  -- A block without a deletion that succeeded leaves the node as it was, or touched.
  have hsame := (Function.update_eq_self item.nodeId held).symm
  cases h with
  | notInspected fault =>
    cases effects_single he
    exact ⟨_, hsame, .kept .same rfl rfl⟩
  | notPlanned hplan =>
    cases effects_single he
    exact ⟨_, hsame, .kept .same rfl rfl⟩
  | notDeleted hplan stopped fault =>
    obtain ⟨mid, hinspect, hrest⟩ := effects_exchange he
    cases hinspect
    obtain ⟨mid, hstop, hrest⟩ := effects_exchange hrest
    cases effects_single hrest
    obtain ⟨now, hmid, htouched⟩ := touched_of_stop hstop
    refine ⟨now, hmid, .kept htouched ?_ ?_⟩
    · cases stopped <;> rfl
    · cases stopped <;> rfl
  | notRecreated hplan stopped fault =>
    obtain ⟨mid, hinspect, hrest⟩ := effects_exchange he
    obtain ⟨mid, hstop, hrest⟩ := effects_exchange hrest
    obtain ⟨mid, hdelete, hrest⟩ := effects_exchange hrest
    cases effects_single hrest
    -- The container was there when it was inspected, so it is the one that was removed.
    cases hinspect with
    | inspect hfound =>
      exact ⟨_, removed_after_stop hstop hdelete, .lost (exists_find?_iff.mp ⟨_, hfound⟩) rfl rfl⟩
  | redeployed hplan stopped =>
    obtain ⟨plan, number, hmessage, hmade⟩ :=
      RedeployLog.replaced (.redeployed hplan stopped) he rfl
    obtain ⟨h, hfound, hplanned⟩ := hmade.planned
    exact ⟨_, hmade.last, .replaced number rfl hfound hplanned hmessage rfl rfl⟩

theorem SingleLog.block_eq {exchange : Except Fault Unit → Event} {message : String}
    (h : SingleLog exchange message block outcome) : ∃ reply, block = [exchange reply] := by
  cases h with
  | done => exact ⟨.ok (), rfl⟩
  | failed fault => exact ⟨.error fault, rfl⟩

/-- The exchanges of a job had the effect that their outcome tells. -/
theorem JobLog.change (h : JobLog item job block outcome) (he : Effects nodes block held last) :
    ∃ now, last = Function.update held item.nodeId now ∧
      Change job item (outcome.entry item.key item.nodeName item.container)
        (held item.nodeId) now := by
  have hsame := (Function.update_eq_self item.nodeId held).symm
  cases job with
  | redeploy changes => exact RedeployLog.change h he
  | start =>
    obtain ⟨reply, rfl⟩ := SingleLog.block_eq h
    obtain ⟨now, hlast, htouched⟩ := touched_of_start (effects_single he)
    exact ⟨now, hlast, .kept htouched rfl rfl⟩
  | stop =>
    obtain ⟨reply, rfl⟩ := SingleLog.block_eq h
    obtain ⟨now, hlast, htouched⟩ := touched_of_stop (effects_single he)
    exact ⟨now, hlast, .kept htouched rfl rfl⟩
  | delete =>
    cases h with
    | done =>
      cases effects_single he with
      | delete hthere => exact ⟨_, rfl, .lost hthere rfl rfl⟩
    | failed fault =>
      cases effects_single he
      exact ⟨_, hsame, .kept .same rfl rfl⟩

theorem itemDone_of_yields {index : Nat} {events : List Event}
    (hyields : Yields (attempt job index item) events entry)
    (he : Effects nodes events held last) : ItemDone job index item entry held last := by
  obtain ⟨outcome, hitem, rfl⟩ := yields_attempt hyields
  exact ⟨rfl, (yields_perform hitem).change he⟩

/-- An item changes its own node, and no other one. -/
theorem ItemDone.at_node {index : Nat} (h : ItemDone job index item entry held last)
    (node : String) :
    item.nodeId = node ∧ Change job item entry (held node) (last node) ∨
      item.nodeId ≠ node ∧ last node = held node := by
  obtain ⟨-, now, rfl, hchange⟩ := h
  -- An update at one node is not seen at another one.
  by_cases hnode : item.nodeId = node
  · subst hnode
    rw [Function.update_self]
    exact .inl ⟨rfl, hchange⟩
  · exact .inr ⟨hnode, Function.update_of_ne (Ne.symm hnode) ..⟩

end Item

/-! ## §3 All items -/

section Items

variable {job : Job} {node : String} {index : Nat} {items : List Match} {entries : List Entry}
  {held last : Holdings}

theorem Change.length_eq {item : Match} {entry : Entry} {list now : List Held}
    (h : Change job item entry list now) :
    now.length + (if job.loses entry then 1 else 0) = list.length := by
  -- A container that is replaced is one less and one more.
  cases h with
  | kept htouched hloses hreplaces => simp [hloses, htouched.length_eq]
  | lost hthere hloses hreplaces => simp [hloses, length_removeFirst hthere]
  | replaced number hjob hfound hplan hmessage hloses hreplaces =>
    simp [hloses, length_removeFirst (exists_find?_iff.mp ⟨_, hfound⟩)]

/-- A node has lost as many containers as its entries say. -/
theorem length_of_oneByOne (h : OneByOne (ItemDone job) index items entries held last) :
    (last node).length + entries.countP (fun e => e.key.nodeId = node && job.loses e) =
      (held node).length := by
  -- By induction on the items. Those of other nodes change nothing here and do not count.
  induction h with
  | nil index held => simp
  | @cons index item entry rest entries held mid last first others ih =>
    have hkey : entry.key.nodeId = item.nodeId := congrArg MatchKey.nodeId first.1
    rcases first.at_node node with ⟨hnode, hchange⟩ | ⟨hnode, hmid⟩
    · have hlength := hchange.length_eq
      simp only [List.countP_cons, hkey, hnode, decide_true, Bool.true_and]
      omega
    · simpa [List.countP_cons, hkey, hnode, hmid] using ih

theorem Change.bystanders {item : Match} {entry : Entry} {list now : List Held}
    (h : Change job item entry list now) : (removeFirst item.container.id list).Sublist now := by
  cases h with
  | kept htouched hloses hreplaces =>
    -- Without the container that may have been touched, nothing has changed.
    rw [← htouched.removeFirst_eq]
    exact removeFirst_sublist _ now
  | lost hthere hloses hreplaces => exact List.Sublist.refl _
  | replaced number hjob hfound hplan hmessage hloses hreplaces =>
    exact List.sublist_append_left ..

/-- The containers that no item can mean are still there, unchanged and in their order. -/
theorem bystanders_of_oneByOne (h : OneByOne (ItemDone job) index items entries held last) :
    (removeFirsts (idsOn node items) (held node)).Sublist (last node) := by
  -- By induction on the items. An item can take away or change one container only, and that one
  -- is no bystander.
  induction h with
  | nil index held => exact List.Sublist.refl _
  | @cons index item entry rest entries held mid last first others ih =>
    rcases first.at_node node with ⟨hnode, hchange⟩ | ⟨hnode, hmid⟩
    · have hids : idsOn node (item :: rest) = item.container.id :: idsOn node rest := by
        simp [idsOn, hnode]
      rw [hids]
      exact (removeFirsts_sublist_removeFirsts _ hchange.bystanders).trans ih
    · have hids : idsOn node (item :: rest) = idsOn node rest := by simp [idsOn, hnode]
      rw [hids, ← hmid]
      exact ih

/-! ## §4 What stands in the place of a container -/

/-- The new container of an entry: it was built by the plan for the container that a match meant
among those of its node. -/
def StandsFor (job : Job) (items : List Match) (node : String) (list : List Held) (entry : Entry)
    (new : Held) : Prop :=
  ∃ item ∈ items, ∃ changes h plan number,
    item.nodeId = node ∧ entry.key = item.key ∧ job = .redeploy changes ∧
    list.find? (·.summary.id = item.container.id) = some h ∧
    redeployPlan item h.snapshot changes = .ok plan ∧
    entry.message = recreated plan ∧ new = build plan number

/-- Of the containers of a node, those that the entries do not call gone were kept, and perhaps
changed their state. In the place of some of the others stands a new one each, in the order of the
entries. -/
structure Renewed (job : Job) (items : List Match) (node : String) (entries : List Entry)
    (list kept made : List Held) : Prop where
  kept : kept.map stateless = removeFirsts (goneFrom node job entries) (list.map stateless)
  made : List.Forall₂ (StandsFor job items node list)
    (entries.filter fun e => e.key.nodeId = node && job.replaces e) made

variable {item : Match} {entry : Entry} {list kept made mid more : List Held} {rest : List Match}

theorem goneFrom_append (job : Job) (node : String) (entries more : List Entry) :
    goneFrom node job (entries ++ more) = goneFrom node job entries ++ goneFrom node job more := by
  simp [goneFrom]

theorem StandsFor.mono {new : Held} (h : StandsFor job items node list entry new)
    (hsub : items ⊆ rest) : StandsFor job rest node list entry new := by
  obtain ⟨item, hitem, hnew⟩ := h
  exact ⟨item, hsub hitem, hnew⟩

/-- What an item did to its node, where it finds its container among those in front. -/
theorem Change.renewed {now : List Held} (h : Change job item entry (list ++ more) now)
    (hkey : entry.key = item.key) (hnode : item.nodeId = node)
    (hthere : ∃ h, list.find? (·.summary.id = item.container.id) = some h) :
    ∃ kept made, now = kept ++ (more ++ made) ∧ Renewed job [item] node [entry] list kept made ∧
      ∀ other ≠ item.container.id,
        kept.find? (·.summary.id = other) = list.find? (·.summary.id = other) := by
  obtain ⟨found, hlist⟩ := hthere
  have hmem := exists_find?_iff.mp ⟨_, hlist⟩
  have hkeynode : entry.key.nodeId = node := by rw [hkey]; exact hnode
  have hkeyid : entry.key.containerId = item.container.id := by rw [hkey]; rfl
  -- What happens in front of the new containers leaves these alone.
  cases h with
  | kept htouched hloses hreplaces =>
    obtain ⟨kept, rfl, hkept⟩ := htouched.append hmem
    refine ⟨kept, [], by simp, ⟨?_, ?_⟩, fun other hother => hkept.find?_eq hother⟩
    · simp [goneFrom, hloses, hreplaces, removeFirsts, hkept.map_stateless]
    · simp [hreplaces]
  | lost hthere hloses hreplaces =>
    refine ⟨removeFirst item.container.id list, [], ?_, ⟨?_, ?_⟩,
      fun other hother => find?_removeFirst hother⟩
    · rw [removeFirst_append hmem, List.append_nil]
    · simp [goneFrom, hloses, hkeynode, hkeyid, removeFirsts, map_stateless_removeFirst]
    · simp [hreplaces]
  | @replaced changes h plan number hjob hfound hplan hmessage hloses hreplaces =>
    refine ⟨removeFirst item.container.id list, [build plan number], ?_, ⟨?_, ?_⟩,
      fun other hother => find?_removeFirst hother⟩
    · rw [removeFirst_append hmem, List.append_assoc]
    · simp [goneFrom, hreplaces, hkeynode, hkeyid, removeFirsts, map_stateless_removeFirst]
    · -- What the inspection found is the container in front.
      rw [List.find?_append, hlist, Option.some_or] at hfound
      cases hfound
      simp only [List.filter_cons, hkeynode, hreplaces, decide_true, Bool.and_true, if_true]
      exact .cons ⟨item, List.mem_singleton_self item, changes, _, plan, number, hnode, hkey, hjob,
        hlist, hplan, hmessage, rfl⟩ .nil

/-- Another match on the same node means a container with another id. -/
theorem id_ne_of_key_new {other : Match} (hnew : item.key ∉ rest.map Match.key)
    (hother : other ∈ rest) (hnode : other.nodeId = item.nodeId) :
    other.container.id ≠ item.container.id := by
  intro hsame
  have hkey : other.key = item.key := by simp [Match.key, hsame, hnode]
  exact hnew (hkey ▸ List.mem_map_of_mem hother)

/-- What one item did and then the others, each to a container of its own. -/
theorem Renewed.cons (hfirst : Renewed job [item] node [entry] list mid made)
    (hrest : Renewed job rest node entries mid kept more) (hnode : item.nodeId = node)
    (hnew : item.key ∉ rest.map Match.key)
    (hfind : ∀ other ≠ item.container.id,
      mid.find? (·.summary.id = other) = list.find? (·.summary.id = other)) :
    Renewed job (item :: rest) node (entry :: entries) list kept (made ++ more) where
  kept := by
    have hentries : entry :: entries = [entry] ++ entries := rfl
    rw [hentries, goneFrom_append, removeFirsts_append, hrest.kept, hfirst.kept]
  made := by
    have hentries : entry :: entries = [entry] ++ entries := rfl
    rw [hentries, List.filter_append]
    refine List.rel_append (hfirst.made.imp fun _ _ h => h.mono (by simp)) (hrest.made.imp ?_)
    rintro e new ⟨other, hother, changes, h, plan, number, hon, hkey, hjob, hfound, hplan⟩
    -- The container that a later match means is the one that was there from the beginning.
    rw [hfind _ (id_ne_of_key_new hnew hother (hon.trans hnode.symm))] at hfound
    exact ⟨other, List.mem_cons_of_mem _ hother, changes, h, plan, number, hon, hkey, hjob, hfound,
      hplan⟩

/-- An item of another node does nothing here. -/
theorem Renewed.cons_elsewhere (hrest : Renewed job rest node entries list kept made)
    (hnode : entry.key.nodeId ≠ node) :
    Renewed job (item :: rest) node (entry :: entries) list kept made where
  kept := by simpa [goneFrom, hnode] using hrest.kept
  made := by
    rw [List.filter_cons_of_neg (by simp [hnode])]
    exact hrest.made.imp fun _ _ h => h.mono (List.subset_cons_self item rest)

/-- **Where every match means a container**, the containers of a node are kept or renewed as the
entries say. -/
theorem renewed_of_oneByOne (h : OneByOne (ItemDone job) index items entries held last)
    (hheld : held node = list ++ more) (hkeys : (items.map Match.key).Nodup)
    (hthere : ∀ item ∈ items, item.nodeId = node →
      ∃ h, list.find? (·.summary.id = item.container.id) = some h) :
    ∃ kept made, last node = kept ++ (more ++ made) ∧
      Renewed job items node entries list kept made := by
  -- By induction on the items. Those that are left still find their containers in front of the
  -- new ones, since each item changes only the container that it means.
  induction h generalizing list more with
  | nil index held => exact ⟨list, [], by simpa using hheld, ⟨rfl, .nil⟩⟩
  | @cons index item entry rest entries held midHeld last first others ih =>
    rw [List.map_cons, List.nodup_cons] at hkeys
    have hrest : ∀ other ∈ rest, other.nodeId = node →
        ∃ h, list.find? (·.summary.id = other.container.id) = some h :=
      fun other hother => hthere other (List.mem_cons_of_mem item hother)
    rcases first.at_node node with ⟨hnode, hchange⟩ | ⟨hnode, hmid⟩
    · rw [hheld] at hchange
      obtain ⟨mid, made, hmid, hfirst, hfind⟩ :=
        hchange.renewed first.1 hnode (hthere item (List.mem_cons_self ..) hnode)
      have hstill : ∀ other ∈ rest, other.nodeId = node →
          ∃ h, mid.find? (·.summary.id = other.container.id) = some h := by
        intro other hother hon
        rw [hfind _ (id_ne_of_key_new hkeys.1 hother (hon.trans hnode.symm))]
        exact hrest other hother hon
      obtain ⟨kept, added, hlast, hothers⟩ := ih hmid hkeys.2 hstill
      refine ⟨kept, made ++ added, ?_, hfirst.cons hothers hnode hkeys.1 hfind⟩
      rw [hlast, List.append_assoc]
    · obtain ⟨kept, made, hlast, hothers⟩ := ih (hmid.trans hheld) hkeys.2 hrest
      have hkeynode : entry.key.nodeId ≠ node := by
        rw [first.1]
        exact hnode
      exact ⟨kept, made, hlast, hothers.cons_elsewhere hkeynode⟩

end Items

/-! ## §5 The whole batch -/

/-- The matches of a batch that is not refused have different keys. -/
theorem keys_nodup_of_job {b : Batch} {job : Job} (hjob : b.job = .ok job) :
    (b.items.map Match.key).Nodup := by
  rw [← firstRepeated?_eq_none]
  unfold Batch.job at hjob
  -- A batch with a repeated key has no job.
  cases hrepeated : firstRepeated? Match.key b.items with
  | none => rfl
  | some item =>
    rw [hrepeated] at hjob
    split at hjob <;> cases hjob

/-- What follows for each match from one of its histories and from the effects of its events holds
of the first matches in turn, and the batch changes nothing else. -/
theorem run_oneByOne {b : Batch} {job : Job}
    (item : Nat → Match → Entry → Holdings → Holdings → Prop)
    (hitem : ∀ index a entry events nodes held last, Yields (attempt job index a) events entry →
      Effects nodes events held last → item index a entry held last)
    (before : Cluster) (cancelled : List Event → Bool) (hjob : b.job = .ok job) :
    ∃ ledger last done, (world cancelled).run b.run before = (.ok ledger, last) ∧
      OneByOne item 1 (b.items.take done) ledger.entries before.held last.state.held := by
  -- The run is the attempts at the first matches, and changes nothing after them.
  obtain ⟨done, ledger, last, -, hrun, hended⟩ :=
    (world cancelled).run_attemptAll (attempt job) b.items ⟨before, []⟩
  have hsteps := oneByOne_attempted (f := id) item cancelled hitem 1 (b.items.take done)
    ⟨before, []⟩
  rw [List.map_id, ← hended.entries, ← hended.state] at hsteps
  refine ⟨ledger, last, done, ?_, hsteps⟩
  rw [World.run, run_eq_attemptAll hjob]
  exact hrun

/-- A batch that is not refused gives a ledger, and did what its entries say for its first matches,
and nothing else. -/
theorem oneByOne_of_run {b : Batch} {job : Job} (before : Cluster)
    (cancelled : List Event → Bool) (hjob : b.job = .ok job) :
    ∃ ledger done, ((world cancelled).run b.run before).1 = .ok ledger ∧
      OneByOne (ItemDone job) 1 (b.items.take done) ledger.entries before.held
        ((world cancelled).run b.run before).2.state.held := by
  obtain ⟨ledger, last, done, hrun, hsteps⟩ := run_oneByOne (ItemDone job)
    (fun _ _ _ _ _ _ _ hyields heffects => itemDone_of_yields hyields heffects) before cancelled
    hjob
  rw [hrun]
  exact ⟨ledger, done, rfl, hsteps⟩

/-- The containers of a node after a batch, from those before it and the entries: there are fewer
by as many as the entries call lost; those that are not the first one with the id of some match
are still there, unchanged and in their order; and if every match means a container that was there,
then what is new was built for the entries that say so, in their order, behind all others. -/
structure Census (b : Batch) (job : Job) (node : String) (before now : List Held)
    (entries : List Entry) : Prop where
  number : now.length + entries.countP (fun e => e.key.nodeId = node && job.loses e) =
    before.length
  bystanders : (removeFirsts (idsOn node b.items) before).Sublist now
  renewed : (∀ item ∈ b.items, item.nodeId = node →
      ∃ h ∈ before, h.summary.id = item.container.id) →
    ∃ kept made, now = kept ++ made ∧ Renewed job b.items node entries before kept made

/-- **A batch accounts for every container**, whatever the cluster holds, which calls fail and
when it is cancelled: a batch that is not refused gives a ledger, and the containers of every node
are those before it, changed as its entries say. -/
theorem census_of_run (b : Batch) (before : Cluster) (cancelled : List Event → Bool) {job : Job}
    (hjob : b.job = .ok job) :
    ∃ ledger, ((world cancelled).run b.run before).1 = .ok ledger ∧
      ∀ node, Census b job node (before.held node)
        (((world cancelled).run b.run before).2.state.held node) ledger.entries := by
  obtain ⟨ledger, done, hledger, hsteps⟩ := oneByOne_of_run before cancelled hjob
  refine ⟨ledger, hledger, fun node => ⟨length_of_oneByOne hsteps, ?_, fun hthere => ?_⟩⟩
  · -- Matches that were left out may mean containers, too: these are no bystanders, but still
    -- there.
    have hids : idsOn node b.items =
        idsOn node (b.items.take done) ++ idsOn node (b.items.drop done) := by
      unfold idsOn
      rw [← List.map_append, ← List.filter_append, List.take_append_drop]
    rw [hids, removeFirsts_append]
    exact (removeFirsts_sublist _ _).trans (bystanders_of_oneByOne hsteps)
  · -- The attempted matches are among those of the batch, so each of them means a container.
    have hkeys : ((b.items.take done).map Match.key).Nodup :=
      (keys_nodup_of_job hjob).sublist ((List.take_sublist done b.items).map _)
    have hstart : before.held node = before.held node ++ [] := (List.append_nil _).symm
    have hfound : ∀ item ∈ b.items.take done, item.nodeId = node →
        ∃ h, (before.held node).find? (·.summary.id = item.container.id) = some h :=
      fun item hitem hnode =>
        exists_find?_iff.mpr (hthere item (List.take_subset done b.items hitem) hnode)
    obtain ⟨kept, made, hlast, hrenewed⟩ := renewed_of_oneByOne hsteps hstart hkeys hfound
    exact ⟨kept, made, hlast, hrenewed.kept,
      hrenewed.made.imp fun _ _ h => h.mono (List.take_subset done b.items)⟩

/-- The sample batch, with one name for both containers. -/
def clashing : Batch :=
  { sample with overrides := some { Overrides.keep with nameTemplate := some "svc" } }

/-- The sample cluster, where no rule lets calls fail. -/
def obliging : Cluster :=
  { Cluster.sample with rules := [] }

set_option maxRecDepth 4000 in
/-- The first container is created again under the name, so the second one is removed and cannot
be. -/
theorem clashing_census_of_run :
    clashing.job = .ok (.redeploy ⟨none, some "svc", none, none, true⟩) ∧
    (∀ item ∈ clashing.items, item.nodeId = "a" →
      ∃ h ∈ obliging.held "a", h.summary.id = item.container.id) ∧
    ((world fun _ => false).run clashing.run obliging).1.map (·.entries.map (·.stage)) =
      .ok [.completed, .sourceRemoved] ∧
    ∃ ledger, ((world fun _ => false).run clashing.run obliging).1 = .ok ledger ∧
      ∀ node, Census clashing (.redeploy ⟨none, some "svc", none, none, true⟩) node
        (obliging.held node)
        (((world fun _ => false).run clashing.run obliging).2.state.held node)
        ledger.entries := by
  have hjob : clashing.job = .ok (.redeploy ⟨none, some "svc", none, none, true⟩) := rfl
  exact ⟨hjob, by decide, rfl, census_of_run clashing obliging (fun _ => false) hjob⟩

end Flotilla.Batch
