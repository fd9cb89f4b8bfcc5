import Flotilla.Cluster.Session
import Flotilla.Proofs.Batch.Refused
import Flotilla.Proofs.Cluster.Quiet
import Flotilla.Proofs.Migration.Copies
import Flotilla.Proofs.Scan.Cluster

/-!
# Redeployments Keep Every Container

A redeployment deletes a container before it creates its replacement, and nothing brings back what
could not be created. Where no call fails, creation can only fail because the name is taken. If the
containers of every node have different names, then the name of a container is free as soon as the
container is gone, and its replacement takes it again.

- `WellNamed`: different names on a node, told alike by listings and configurations.
- `Replaceable`: what the matches that are still to be redeployed need; one redeployment after the
  other keeps it (`run_attempt_redeploy`, `attempted_redeploy`).
- `redeployment_keeps_names`: the main result.
-/

namespace Flotilla

open Cluster

/-! ## §1 Names on a node -/

/-- The containers of a node that have a name have different ones, and the configuration of every
container says the same name as its entry. -/
structure WellNamed (list : List Held) : Prop where
  distinct : ((list.map (·.summary.primaryName)).filter (· ≠ "")).Nodup
  alike : ∀ h ∈ list, h.snapshot.canonicalName?.getD "" = h.summary.primaryName

section Names

variable {list : List Held} {h : Held} {id : String}

theorem WellNamed.name_eq (hlist : WellNamed list) (hmem : h ∈ list) :
    h.name = h.summary.primaryName :=
  Held.name_eq_primaryName (hlist.alike h hmem)

/-- A container that is found and the others are all containers. -/
theorem perm_cons_removeFirst (hfound : list.find? (·.summary.id = id) = some h) :
    (h :: removeFirst id list).Perm list := by
  induction list with
  | nil => cases hfound
  | cons first rest ih =>
    by_cases hid : first.summary.id = id
    · simp only [List.find?_cons, hid, decide_true] at hfound
      cases hfound
      simp [removeFirst, hid]
    · simp only [List.find?_cons, hid, decide_false] at hfound
      simp only [removeFirst, hid, if_false]
      exact (List.Perm.swap first h _).trans ((ih hfound).cons first)

/-- Once a container is gone its name is free. -/
theorem WellNamed.isTaken_removeFirst (hlist : WellNamed list)
    (hfound : list.find? (·.summary.id = id) = some h) :
    isTaken h.summary.primaryName (removeFirst id list) = false := by
  rw [isTaken_eq_false]
  -- A container without a name takes none; one with a name has it alone.
  by_cases hname : h.summary.primaryName = ""
  · exact .inl hname
  · right
    have hperm := ((perm_cons_removeFirst hfound).map (·.summary.primaryName)).filter (· ≠ "")
    have hnodup := hperm.nodup_iff.mpr hlist.distinct
    simp only [List.map_cons, List.filter_cons, hname, ne_eq, not_false_eq_true, decide_true,
      if_true, List.nodup_cons] at hnodup
    intro hmem
    exact hnodup.1 (List.mem_filter.mpr ⟨hmem, by simpa using hname⟩)

/-- A replacement under the same name is one more container and one less. -/
theorem perm_names_replaced {new : Held} (hfound : list.find? (·.summary.id = id) = some h)
    (hname : new.summary.primaryName = h.summary.primaryName) :
    ((removeFirst id list ++ [new]).map (·.summary.primaryName)).Perm
      (list.map (·.summary.primaryName)) := by
  -- The one that went has the name of the one that came, so the two lists have the same names.
  have hperm := (perm_cons_removeFirst hfound).map (·.summary.primaryName)
  rw [List.map_cons, ← hname] at hperm
  rw [List.map_append, List.map_singleton]
  exact (List.perm_append_singleton _ _).trans hperm

theorem WellNamed.replaced {new : Held} (hlist : WellNamed list)
    (hfound : list.find? (·.summary.id = id) = some h)
    (hname : new.summary.primaryName = h.summary.primaryName)
    (hnew : new.snapshot.canonicalName?.getD "" = new.summary.primaryName) :
    WellNamed (removeFirst id list ++ [new]) where
  distinct := by
    have hperm := (perm_names_replaced hfound hname).filter (· ≠ "")
    exact hperm.nodup_iff.mpr hlist.distinct
  alike := by
    intro other hother
    -- What was kept is told alike as before, and the new one was built to be.
    rcases List.mem_append.mp hother with hkept | hmade
    · exact hlist.alike other ((removeFirst_sublist id list).subset hkept)
    · rw [List.mem_singleton.mp hmade]
      exact hnew

end Names

/-! ## §2 One redeployment -/

namespace Batch

/-- The changes leave the name of a container alone, and they give no blank image. -/
structure KeepName (changes : Changes) : Prop where
  template : changes.nameTemplate = none
  image : ∀ image, changes.image = some image → Text.trim image ≠ ""

/-- Overrides without a template for names give such changes. -/
theorem keepName_of_read {o : Overrides} {changes : Changes} (hread : o.read = .ok changes)
    (htemplate : o.nameTemplate.bind Text.nonBlank? = none) : KeepName changes where
  template := by rw [(Overrides.read_eq_ok hread).2.1, htemplate]
  image := by
    intro image himage
    rw [(Overrides.read_eq_ok hread).1] at himage
    -- A blank image is no image, so one that is read has been trimmed to something.
    obtain ⟨given, -, hgiven⟩ := Option.bind_eq_some_iff.mp himage
    obtain ⟨rfl, hsome⟩ := Text.nonBlank?_eq_some.mp hgiven
    rwa [Text.trim_trim]

section Item

variable {k : Cluster} {item : Match} {h : Held} {list : List Held} {changes : Changes}
  {plan : Plan}

/-- A container with an image can be replaced, under the name that it has. -/
theorem redeployPlan_keepName (hchanges : KeepName changes) (hsame : h.summary = item.container)
    (himage : h.effectiveImage ≠ "") :
    ∃ plan, redeployPlan item h.snapshot changes = .ok plan ∧ plan.name = h.name := by
  have hgiven : Text.trim ((changes.image <|> currentImage? item.container h.snapshot).getD "") ≠
      "" := by
    -- The image is the one that is asked for or the one that the container runs.
    cases hchanged : changes.image with
    | some image => exact hchanges.image image hchanged
    | none =>
      rw [← hsame]
      show Text.trim ((currentImage? h.summary h.snapshot).getD "") ≠ ""
      rwa [currentImage?_eq, h.trim_effectiveImage]
  unfold redeployPlan
  refine ⟨_, Plan.validated_eq_ok.mpr ⟨rfl, hgiven⟩, ?_⟩
  show resolveName changes.nameTemplate _ _ _ = h.name
  rw [hchanges.template, ← hsame]
  rfl

theorem run_planChanges {answer : Snapshot}
    (hinspect : reply (.inspect item.nodeId item.container.id) k = (.ok answer, k))
    (changes : Changes) (cancelled : List Event → Bool) (events : List Event) :
    ∃ after, (planChanges item changes).run (world cancelled).answer ⟨k, events⟩ =
      (redeployPlan item answer changes, ⟨k, after⟩) := by
  unfold planChanges
  rw [world_run_call hinspect]
  exact ⟨_, rfl⟩

/-- Where the name of the plan is free once the container is gone, the container is replaced. -/
theorem run_redeploy (hk : k.rules = []) (hhost : k.host? item.nodeId = some list)
    (hfound : list.find? (·.summary.id = item.container.id) = some h)
    (hplan : redeployPlan item h.snapshot changes = .ok plan)
    (hfree : isTaken plan.name (removeFirst item.container.id list) = false)
    (cancelled : List Event → Bool) (events : List Event) :
    ∃ number last after,
      (redeploy item changes).run (world cancelled).answer ⟨k, events⟩ =
        (⟨.completed, recreated plan⟩, ⟨last, after⟩) ∧
      last.rules = [] ∧
      last.held = Function.update k.held item.nodeId
        (removeFirst item.container.id list ++ [build plan number]) := by
  -- The four calls one after the other, each answered in the state that the one before left behind.
  have hinspect := reply_inspect_ok hk hhost hfound
  obtain ⟨stopped, hstop, hstopped⟩ := reply_stop_ok hk hhost hfound
  have hstoppedRules := hstopped.rules.trans hk
  -- The stop has changed the state of the container, which is deleted all the same.
  obtain ⟨deleted, hdelete, hdeleted⟩ := reply_delete_ok hstoppedRules hstopped.here
    (find?_modifyFirst_self "exited" hfound)
  rw [removeFirst_modifyFirst] at hdeleted
  have hdeletedRules := hdeleted.rules.trans hstoppedRules
  obtain ⟨number, created, hcreate, hcreated⟩ :=
    reply_create_ok plan hdeletedRules hdeleted.here hfree
  obtain ⟨between, hplanned⟩ := run_planChanges hinspect changes cancelled events
  have hrun : ∃ after, (redeploy item changes).run (world cancelled).answer ⟨k, events⟩ =
      (⟨.completed, recreated plan⟩, ⟨created, after⟩) := by
    unfold redeploy
    rw [Program.bind_eq, Program.run_bind, hplanned, hplan]
    dsimp only
    rw [world_run_call hstop]
    dsimp only
    rw [world_run_call hdelete]
    dsimp only
    rw [world_run_call hcreate]
    exact ⟨_, rfl⟩
  obtain ⟨after, hrun⟩ := hrun
  refine ⟨number, created, after, hrun, hcreated.rules.trans hdeletedRules, ?_⟩
  -- The stop, the deletion and the creation all change the same node, so the last change counts.
  rw [hcreated.held, hdeleted.held, hstopped.held, Function.update_idem, Function.update_idem]

end Item

/-! ## §3 One redeployment after the other -/

/-- What holds between two redeployments: no rule lets a call fail; on every node the names are
those that were there before, and in order; and every match that is still to be redeployed shows the
container that is found by its id, which has an image. -/
structure Replaceable (before : Holdings) (items : List Match) (k : Cluster) : Prop where
  rules : k.rules = []
  names : ∀ node, ((k.held node).map (·.summary.primaryName)).Perm
    ((before node).map (·.summary.primaryName))
  wellNamed : ∀ node, WellNamed (k.held node)
  there : ∀ item ∈ items, ∃ h,
    (k.held item.nodeId).find? (·.summary.id = item.container.id) = some h ∧
      h.summary = item.container ∧ h.effectiveImage ≠ ""

section Items

variable {before : Holdings} {k last : Cluster} {item : Match} {rest : List Match} {h : Held}
  {changes : Changes}

/-- A container whose replacement has its name leaves the other matches as they were. -/
theorem Replaceable.replaced {new : Held} (hk : Replaceable before (item :: rest) k)
    (hkey : item.key ∉ rest.map Match.key)
    (hfound : (k.held item.nodeId).find? (·.summary.id = item.container.id) = some h)
    (hshown : new.summary.primaryName = h.summary.primaryName)
    (halike : new.snapshot.canonicalName?.getD "" = new.summary.primaryName)
    (hrules : last.rules = [])
    (hheld : last.held = Function.update k.held item.nodeId
      (removeFirst item.container.id (k.held item.nodeId) ++ [new])) :
    Replaceable before rest last where
  rules := hrules
  -- Only the node of the first match has changed.
  names := by
    intro node
    by_cases hnode : node = item.nodeId
    · subst hnode
      rw [hheld, Function.update_self]
      exact (perm_names_replaced hfound hshown).trans (hk.names item.nodeId)
    · rw [hheld, Function.update_of_ne hnode]
      exact hk.names node
  wellNamed := by
    intro node
    by_cases hnode : node = item.nodeId
    · subst hnode
      rw [hheld, Function.update_self]
      exact (hk.wellNamed item.nodeId).replaced hfound hshown halike
    · rw [hheld, Function.update_of_ne hnode]
      exact hk.wellNamed node
  there := by
    intro other hother
    obtain ⟨found, hthere, hsummary, himage⟩ := hk.there other (List.mem_cons_of_mem item hother)
    refine ⟨found, ?_, hsummary, himage⟩
    by_cases hnode : other.nodeId = item.nodeId
    · -- On the same node it has another id, and what is new there comes last.
      have hid : other.container.id ≠ item.container.id := by
        intro hsame
        refine hkey (List.mem_map.mpr ⟨other, hother, ?_⟩)
        rw [Match.key, Match.key, hnode, hsame]
      rw [hheld, hnode, Function.update_self, List.find?_append, find?_removeFirst hid, ← hnode,
        hthere]
      rfl
    · rw [hheld, Function.update_of_ne hnode]
      exact hthere

/-- Redeploying the first match succeeds. -/
theorem run_attempt_redeploy (hchanges : KeepName changes)
    (hk : Replaceable before (item :: rest) k) (hkey : item.key ∉ rest.map Match.key)
    (cancelled : List Event → Bool) (index : Nat) (events : List Event) :
    ∃ entry last after,
      (attempt (.redeploy changes) index item).run (world cancelled).answer ⟨k, events⟩ =
        (entry, ⟨last, after⟩) ∧
      entry.stage = .completed ∧ Replaceable before rest last := by
  obtain ⟨h, hfound, hsummary, himage⟩ := hk.there item (List.mem_cons_self ..)
  have hmem := List.mem_of_find?_eq_some hfound
  have hhost := host?_of_mem_held hmem
  have hname : h.name = h.summary.primaryName := (hk.wellNamed item.nodeId).name_eq hmem
  obtain ⟨plan, hplan, hplanName⟩ := redeployPlan_keepName hchanges hsummary himage
  have hplain : Text.dropLeading '/' plan.name = plan.name := by
    rw [hplanName, h.dropLeading_name]
  -- The name of the plan is that of the container, which is gone when the plan is created.
  have hfree : isTaken plan.name (removeFirst item.container.id (k.held item.nodeId)) = false := by
    rw [hplanName, hname]
    exact (hk.wellNamed item.nodeId).isTaken_removeFirst hfound
  obtain ⟨number, last, after, hrun, hrules, hheld⟩ :=
    run_redeploy hk.rules hhost hfound hplan hfree cancelled events
  -- A plan without slashes at its beginning is listed and configured under its own name.
  have hshown : (build plan number).summary.primaryName = plan.name :=
    (primaryName_build plan number).trans hplain
  have halike := (canonicalName?_build number hplain).trans hshown.symm
  have hreplaced : Replaceable before rest last :=
    hk.replaced hkey hfound (hshown.trans (hplanName.trans hname)) halike hrules hheld
  unfold attempt perform
  rw [Program.bind_eq, Program.run_bind, hrun]
  exact ⟨_, last, after, rfl, rfl, hreplaced⟩

/-- Redeploying the first matches succeeds, and the other ones can be redeployed after them. -/
theorem attempted_redeploy {todo : List Match} (hchanges : KeepName changes)
    (hk : Replaceable before (todo ++ rest) k)
    (hkeys : ((todo ++ rest).map Match.key).Nodup) (cancelled : List Event → Bool) (index : Nat)
    (events : List Event) :
    ∃ entries last after,
      (world cancelled).attempted (attempt (.redeploy changes)) index todo ⟨k, events⟩ =
        (entries, ⟨last, after⟩) ∧
      (∀ entry ∈ entries, entry.stage = .completed) ∧ Replaceable before rest last := by
  -- By induction on the matches that are attempted; the state and the events are those after the
  -- ones before.
  induction todo generalizing k index events with
  | nil => exact ⟨[], k, events, rfl, by simp, hk⟩
  | cons item todo ih =>
    rw [List.cons_append, List.map_cons, List.nodup_cons] at hkeys
    obtain ⟨entry, mid, between, hrun, hstage, hmid⟩ :=
      run_attempt_redeploy hchanges hk hkeys.1 cancelled index events
    obtain ⟨entries, last, after, hothers, hstages, hlast⟩ := ih hmid hkeys.2 (index + 1) between
    refine ⟨entry :: entries, last, after, ?_, ?_, hlast⟩
    · rw [World.attempted_cons, hrun, hothers]
    · intro other hother
      rcases List.mem_cons.mp hother with rfl | hother
      · exact hstage
      · exact hstages other hother

end Items

end Batch

/-! ## §4 The whole batch -/

namespace Batch

section Whole

variable {k : Cluster} {found : List Match} {overrides : Option Overrides} {changes : Changes}

/-- What a scan found can be redeployed, where ids are different and all containers have images. -/
theorem replaceable_of_there (hrules : k.rules = [])
    (hids : ∀ node, ((k.held node).map (·.summary.id)).Nodup)
    (hnames : ∀ node, WellNamed (k.held node))
    (himages : ∀ node, ∀ h ∈ k.held node, h.effectiveImage ≠ "")
    (hthere : ∀ m ∈ found, ∃ held ∈ k.held m.nodeId, held.summary = m.container) :
    Replaceable k.held found k where
  rules := hrules
  names := fun _ => List.Perm.refl _
  wellNamed := hnames
  there := by
    intro item hitem
    -- The scan shows a container of the node, and ids are different, so the id finds that one.
    obtain ⟨h, hmem, hsummary⟩ := hthere item hitem
    refine ⟨h, ?_, hsummary, himages item.nodeId h hmem⟩
    rw [← hsummary]
    exact find?_of_mem (hids item.nodeId) hmem

/-- Different matches and overrides that can be read make the job. -/
theorem job_redeploy (hsome : found ≠ []) (hkeys : (found.map Match.key).Nodup)
    (hread : (overrides.getD .keep).read = .ok changes) :
    (Batch.mk found .redeploy overrides).job = .ok (.redeploy changes) := by
  simp [job_of_distinct hsome hkeys, hread, Except.map]

/-- Redeploying matches that can be replaced gives a ledger of completed entries, at any point at
which it is cancelled. -/
theorem run_replaceable (cancelled : List Event → Bool) (hk : Replaceable k.held found k)
    (hsome : found ≠ []) (hkeys : (found.map Match.key).Nodup)
    (hread : (overrides.getD .keep).read = .ok changes) (hchanges : KeepName changes) :
    ∃ ledger last, (world cancelled).run (Batch.mk found .redeploy overrides).run k =
        (.ok ledger, last) ∧
      (∀ entry ∈ ledger.entries, entry.stage = .completed) ∧
      ∃ rest, Replaceable k.held rest last.state := by
  obtain ⟨done, ledger, last, -, hrun, hended⟩ :=
    (world cancelled).run_attemptAll (attempt (.redeploy changes)) found ⟨k, []⟩
  -- Some matches have been redeployed, and the others could be.
  have hsplit : found = found.take done ++ found.drop done :=
    (List.take_append_drop done found).symm
  have hready : Replaceable k.held (found.take done ++ found.drop done) k := hsplit ▸ hk
  obtain ⟨entries, now, events, hattempted, hstages, hrest⟩ :=
    attempted_redeploy hchanges hready (hsplit ▸ hkeys) cancelled 1 []
  rw [hattempted] at hended
  refine ⟨ledger, last, ?_, ?_, found.drop done, ?_⟩
  · rw [World.run, run_eq_attemptAll (job_redeploy hsome hkeys hread)]
    exact hrun
  · rw [hended.entries]
    exact hstages
  · rw [hended.state]
    exact hrest

end Whole

/-- **Redeploying without renaming loses no container.** No rule lets a call fail, and on every node
ids are different, names are in order and all containers have images. Then whatever a scan has found
is redeployed, with overrides that can be read and have no template for names: at any point at which
the batch is cancelled, every entry of its ledger is completed, and every node has the names that it
had before, each as often as before and in order again. -/
theorem redeployment_keeps_names {k : Cluster} (hrules : k.rules = [])
    (hids : ∀ node, ((k.held node).map (·.summary.id)).Nodup)
    (hnames : ∀ node, WellNamed (k.held node))
    (himages : ∀ node, ∀ h ∈ k.held node, h.effectiveImage ≠ "")
    {scanning : List Event → Bool} {nodes : List Node} {filter : String} {found : List Match}
    (hfound : Scan.Found scanning k nodes filter found) {overrides : Option Overrides}
    {changes : Changes} (hread : (overrides.getD .keep).read = .ok changes)
    (htemplate : (overrides.getD .keep).nameTemplate.bind Text.nonBlank? = none)
    (cancelled : List Event → Bool) :
    ∃ result last,
      (world cancelled).run (Batch.mk found .redeploy overrides).run k = (result, last) ∧
      (found ≠ [] → ∃ ledger, result = .ok ledger) ∧
      (∀ ledger, result = .ok ledger → ∀ entry ∈ ledger.entries, entry.stage = .completed) ∧
      ∀ node,
        ((last.state.held node).map (·.summary.primaryName)).Perm
          ((k.held node).map (·.summary.primaryName)) ∧
        WellNamed (last.state.held node) := by
  obtain ⟨hkeys, hthere⟩ := hfound.there
  have hready := replaceable_of_there hrules hids hnames himages hthere
  by_cases hsome : found = []
  · -- Without matches the batch is refused, and nothing happens.
    have hrefused := run_of_refusedFor (world cancelled)
      (RefusedFor.noMatches (b := Batch.mk found .redeploy overrides) hsome) k
    refine ⟨_, _, hrefused, fun hne => absurd hsome hne, ?_, fun node => ⟨.refl _, hnames node⟩⟩
    intro ledger hledger
    cases hledger
  · have hchanges := keepName_of_read hread htemplate
    obtain ⟨ledger, last, hrun, hstages, rest, hlast⟩ :=
      run_replaceable cancelled hready hsome hkeys hread hchanges
    refine ⟨.ok ledger, last, hrun, fun _ => ⟨ledger, rfl⟩, ?_, fun node => ?_⟩
    · intro other hother
      cases hother
      exact hstages
    · exact ⟨hlast.names node, hlast.wellNamed node⟩

/-- Two nodes without rules. The id of one container is that of the first replacement. -/
def renewable : Cluster :=
  { Cluster.sample with
    hosts := [("a", [sampleHeld "1" "web", unnamed, sampleHeld "new-1" "db"]),
      ("b", [sampleHeld "9" "web"])]
    rules := [] }

/-- The matches of these nodes. -/
def renewableFound : List Match :=
  [⟨"a", "a...", "a", (sampleHeld "1" "web").summary⟩, ⟨"a", "a...", "a", unnamed.summary⟩,
    ⟨"a", "a...", "a", (sampleHeld "new-1" "db").summary⟩,
    ⟨"b", "b...", "b", (sampleHeld "9" "web").summary⟩]

/-- Overrides with a blank template for names. -/
def otherImage : Overrides :=
  { Overrides.keep with image := some " nginx:2", nameTemplate := some " " }

set_option maxRecDepth 4000 in
/-- A batch over all containers, which is cancelled in the middle of the third one. -/
theorem renewable_redeployment_keeps_names :
    (∀ node, ((renewable.held node).map (·.summary.id)).Nodup) ∧
    (∀ node, WellNamed (renewable.held node)) ∧
    (∀ node, ∀ h ∈ renewable.held node, h.effectiveImage ≠ "") ∧
    ∃ found changes result last,
      Scan.Found (fun _ => false) renewable renewable.nodes " " found ∧
      otherImage.read = .ok changes ∧
      otherImage.nameTemplate.bind Text.nonBlank? = none ∧
      (world (Session.tokenAfter (some 10))).run (Batch.mk found .redeploy (some otherImage)).run
        renewable = (result, last) ∧
      result.map (·.entries.length) = .ok 3 ∧
      (found ≠ [] → ∃ ledger, result = .ok ledger) ∧
      (∀ ledger, result = .ok ledger → ∀ entry ∈ ledger.entries, entry.stage = .completed) ∧
      ∀ node,
        ((last.state.held node).map (·.summary.primaryName)).Perm
          ((renewable.held node).map (·.summary.primaryName)) ∧
        WellNamed (last.state.held node) := by
  -- What holds of every listed host and of an empty list holds of every node.
  have hids : ∀ node, ((renewable.held node).map (·.summary.id)).Nodup :=
    of_hosts (P := fun list => (list.map (·.summary.id)).Nodup) .nil (by decide)
  have hnames : ∀ node, WellNamed (renewable.held node) := by
    refine of_hosts ⟨by decide, by simp⟩ fun host hhost => ?_
    simp only [renewable, List.mem_cons, List.not_mem_nil, or_false] at hhost
    rcases hhost with rfl | rfl <;> exact ⟨by decide, by decide⟩
  have himages : ∀ node, ∀ h ∈ renewable.held node, h.effectiveImage ≠ "" :=
    of_hosts (P := fun list => ∀ h ∈ list, h.effectiveImage ≠ "") (by simp) (by decide)
  have hfound : Scan.Found (fun _ => false) renewable renewable.nodes " " renewableFound := by
    -- The matches are in order already.
    have hsorted : renewableFound.mergeSort Scan.le = renewableFound :=
      List.mergeSort_of_pairwise (by decide)
    rw [← hsorted]
    exact .inl rfl
  have hread : (Option.getD (some otherImage) .keep).read =
      .ok ⟨some "nginx:2", none, none, none, true⟩ := by decide
  obtain ⟨result, last, hrun, hledger, hstages, hheld⟩ := redeployment_keeps_names
    (k := renewable) rfl hids hnames himages hfound hread rfl (Session.tokenAfter (some 10))
  have hlength : result.map (·.entries.length) = .ok 3 := by
    show (result, last).1.map (·.entries.length) = .ok 3
    rw [← hrun]
    rfl
  exact ⟨hids, hnames, himages, _, _, result, last, hfound, hread, rfl, hrun, hlength, hledger,
    hstages, hheld⟩

end Batch

end Flotilla
