import Flotilla.Proofs.Cluster.Quiet
import Flotilla.Proofs.Migration.Copies
import Flotilla.Proofs.Migration.Protocol

/-!
# There and Back Again

Where no call fails, moving all containers of a node to an empty one and back restores the node: its
containers are there again in their order, with the configuration that they had, but for the forms
of the name and of the image.

- `Twin`: a container with the configuration of another one under its current name. Moving a
  container makes a twin, and moving the twin writes the same again (`Twin.copySnapshot_eq`).
- `Sides`: what is left on the source and what has been made on the target, which is all that the
  containers still to be moved depend on.
- `attempted_move`: one container after the other goes from the one side to the other.
- `round_trip_restores`: the main result.
-/

namespace Flotilla

open Cluster

/-! ## §1 Twins -/

/-- A container with the configuration of another one under its current name. Its entry shows the
name as well, and it runs the same image. -/
structure Twin (original copy : Held) : Prop where
  snapshot : copy.snapshot = copySnapshot original original.name
  shown : copy.summary.primaryName = original.name
  image : copy.effectiveImage = original.effectiveImage

namespace Twin

variable {original copy : Held}

theorem name (h : Twin original copy) : copy.name = original.name := by
  show copy.snapshot.canonicalName?.getD copy.summary.primaryName = original.name
  rw [h.snapshot, h.shown]
  -- A name is written as it is and read back without slashes, of which it has none.
  by_cases hname : original.name = ""
  · simp [Snapshot.canonicalName?, copySnapshot, writtenName, hname]
  · simp [Snapshot.canonicalName?, copySnapshot, writtenName, hname, original.dropLeading_name,
      Option.filter_some]

/-- What has been written once is written in the same way again. -/
theorem copySnapshot_eq (h : Twin original copy) :
    copySnapshot copy copy.name = copySnapshot original original.name := by
  rw [h.name]
  unfold copySnapshot
  rw [h.image, h.snapshot]
  rfl

/-- What is the same of twins is the same of lists of twins. -/
theorem map_eq {α : Type} {f g : Held → α} {originals twins : List Held}
    (h : List.Forall₂ Twin originals twins)
    (hsame : ∀ original copy, Twin original copy → f copy = g original) :
    twins.map f = originals.map g := by
  induction h with
  | nil => rfl
  | cons first others ih => rw [List.map_cons, List.map_cons, hsame _ _ first, ih]

end Twin

/-- Carrying out the plan makes a twin: its image has been trimmed, and its name has no slash at its
beginning, so that both are read again as they were written. -/
theorem twin_build {h : Held} (himage : h.effectiveImage ≠ "") (number : Nat) :
    Twin h (build h.plan number) := by
  -- The plan has the current name, so it is built as it would be under that name.
  have hsnapshot : (build h.plan number).snapshot = copySnapshot h h.name := by
    have hsame : h.plan.renamed h.name = h.plan := by simp only [Plan.renamed, Held.plan]
    have hbuilt := snapshot_build_renamed h.name number (migrationPlan_eq himage)
    rwa [hsame] at hbuilt
  have hplan : h.plan.image = h.effectiveImage := by rw [Held.plan]
  have hbuilt := @effectiveImage_build h.plan number
  rw [hplan] at hbuilt
  exact ⟨hsnapshot, (primaryName_build h.plan number).trans h.dropLeading_name,
    hbuilt himage h.trim_effectiveImage⟩

/-! ## §2 One container after the other -/

namespace Migration

/-- Two nodes of a cluster in which no call fails: what the one has left of its containers, and what
has been made on the other one. -/
structure Sides (nodes : List Node) (source target : String) (left made : List Held)
    (k : Cluster) : Prop where
  rules : k.rules = []
  registryFault : k.registryFault = none
  nodes : k.nodes = nodes
  source : k.host? source = some left
  target : k.host? target = some made

section Move

variable {nodes : List Node} {source target : Node} {left made rest : List Held} {h : Held}
  {k : Cluster}

theorem Sides.symm {source target : String} (hk : Sides nodes source target left made k) :
    Sides nodes target source made left k :=
  ⟨hk.rules, hk.registryFault, hk.nodes, hk.target, hk.source⟩

/-- A container that is added to the one side and removed from the other has been moved. -/
theorem Sides.moved {source target : String} {copied moved : Cluster} {new : List Held}
    (hk : Sides nodes source target left made k) (hne : source ≠ target)
    (hcopied : k.Replaced target new copied) (hmoved : copied.Replaced source rest moved) :
    Sides nodes source target rest new moved where
  rules := (hmoved.rules.trans hcopied.rules).trans hk.rules
  registryFault := (hmoved.registryFault.trans hcopied.registryFault).trans hk.registryFault
  nodes := (hmoved.nodes.trans hcopied.nodes).trans hk.nodes
  source := hmoved.here
  target := (hmoved.elsewhere target hne.symm).trans hcopied.here

theorem run_createOnTarget {target : String} {plan : Plan} {after : Cluster}
    (hcreate : reply (.create target plan) k = (.ok (), after)) (cancelled : List Event → Bool)
    (index : Nat) (events : List Event) :
    ∃ last, (createOnTarget target plan index).run (world cancelled).answer ⟨k, events⟩ =
      (.ok plan, ⟨after, last⟩) := by
  unfold createOnTarget
  rw [world_run_call hcreate]
  exact ⟨_, rfl⟩

/-- Moving the first container that is left succeeds if its name is free on the other side. -/
theorem run_attempt_move (hk : Sides nodes source.id target.id (h :: rest) made k)
    (hne : source.id ≠ target.id) (himage : h.effectiveImage ≠ "")
    (hfree : isTaken h.name made = false) (cancelled : List Event → Bool) (index : Nat)
    (events : List Event) :
    ∃ entry number last after,
      (attempt false source target index h.summary).run (world cancelled).answer ⟨k, events⟩ =
        (entry, ⟨last, after⟩) ∧
      entry.stage = .completed ∧
      Sides nodes source.id target.id rest (made ++ [build h.plan number]) last := by
  have hfound : (h :: rest).find? (·.summary.id = h.summary.id) = some h := by simp
  have hremoved : removeFirst h.summary.id (h :: rest) = rest := if_pos rfl
  -- Three calls: the inspection finds the first container, the creation is possible, the deletion
  -- finds the container again.
  have hinspect := reply_inspect_ok hk.rules hk.source hfound
  have hplan := migrationPlan_eq himage
  obtain ⟨number, copied, hcreate, hcopied⟩ :=
    reply_create_ok h.plan hk.rules hk.target hfree
  -- The creation has left the source as it was, so the container is still there to be deleted.
  have hleft : copied.host? source.id = some (h :: rest) :=
    (hcopied.elsewhere source.id hne).trans hk.source
  obtain ⟨moved, hdelete, hmoved⟩ := reply_delete_ok (hcopied.rules.trans hk.rules) hleft hfound
  rw [hremoved] at hmoved
  obtain ⟨between, hcreated⟩ := run_createOnTarget hcreate cancelled index
    (events ++ [.exchange (.inspect source.id h.summary.id) (.ok h.snapshot)])
  have hrun : ∃ message after,
      (migrateItem false source target h.summary index).run (world cancelled).answer ⟨k, events⟩ =
        (⟨.completed, message⟩, ⟨moved, after⟩) := by
    unfold migrateItem
    rw [world_run_call hinspect]
    simp only [hplan]
    rw [Program.bind_eq, Program.run_bind, hcreated]
    exact ⟨_, _, world_run_call hdelete _ _⟩
  obtain ⟨message, after, hrun⟩ := hrun
  unfold attempt
  rw [Program.bind_eq, Program.run_bind, hrun]
  exact ⟨_, number, moved, after, rfl, rfl, hk.moved hne hcopied hmoved⟩

/-- Different names of what has been made and of what is left: the first container that is left can
be created, and its twin takes its place among the names. -/
theorem isTaken_of_nodup
    (hnames : ((made.map (·.summary.primaryName) ++ (h :: rest).map Held.name).filter
      (· ≠ "")).Nodup) : isTaken h.name made = false := by
  rw [isTaken_eq_false]
  -- Without a name there is nothing to be taken.
  by_cases hname : h.name = ""
  · exact .inl hname
  · right
    intro hmem
    rw [List.filter_append, List.nodup_append] at hnames
    refine hnames.2.2 h.name ?_ h.name ?_ rfl
    · exact List.mem_filter.mpr ⟨hmem, by simpa using hname⟩
    · simp [hname]

/-- Moving all containers that are left succeeds and makes a twin of each, if the names that have
been made and the names that are left are different. -/
theorem attempted_move (hk : Sides nodes source.id target.id left made k)
    (hne : source.id ≠ target.id) (himages : ∀ h ∈ left, h.effectiveImage ≠ "")
    (hnames : ((made.map (·.summary.primaryName) ++ left.map Held.name).filter (· ≠ "")).Nodup)
    (cancelled : List Event → Bool) (index : Nat) (events : List Event) :
    ∃ entries twins last after,
      (world cancelled).attempted (attempt false source target) index (left.map (·.summary))
        ⟨k, events⟩ = (entries, ⟨last, after⟩) ∧
      entries.map (·.stage) = left.map (fun _ => .completed) ∧
      Sides nodes source.id target.id [] (made ++ twins) last ∧ List.Forall₂ Twin left twins := by
  -- By induction on what is left: the twin of the first container has its name, so the names that
  -- have been made and those that are left stay the same together.
  induction left generalizing made k index events with
  | nil => exact ⟨[], [], k, events, rfl, rfl, by rwa [List.append_nil], .nil⟩
  | cons h rest ih =>
    have himage := himages h (List.mem_cons_self ..)
    obtain ⟨entry, number, mid, between, hrun, hstage, hmid⟩ :=
      run_attempt_move hk hne himage (isTaken_of_nodup hnames) cancelled index events
    have htwin := twin_build himage number
    have hothers : (((made ++ [build h.plan number]).map (·.summary.primaryName) ++
        rest.map Held.name).filter (· ≠ "")).Nodup := by
      rw [List.map_append, List.map_singleton, htwin.shown, List.append_assoc]
      exact hnames
    obtain ⟨entries, twins, last, after, hrest, hstages, hsides, htwins⟩ := ih hmid
      (fun other hother => himages other (List.mem_cons_of_mem h hother)) hothers (index + 1)
      between
    refine ⟨entry :: entries, build h.plan number :: twins, last, after, ?_, ?_, ?_, ?_⟩
    · rw [List.map_cons, World.attempted_cons, hrun, hrest]
    · rw [List.map_cons, List.map_cons, hstage, hstages]
    · rwa [List.append_assoc] at hsides
    · exact .cons htwin htwins

/-! ## §3 A whole migration -/

/-- The request is complete and moves the containers of one node to another one: these are the nodes
that it names, and it keeps nothing on the source. -/
structure Moves (m : Migration) (source target : Node) : Prop where
  complete : m.Complete
  source_id : Text.trim m.source = source.id
  target_id : Text.trim m.target = target.id
  removes : m.keepSource = false

theorem Moves.id_ne {m : Migration} (hm : m.Moves source target) : source.id ≠ target.id := by
  have hdiffer := hm.complete.differ
  rwa [hm.source_id, hm.target_id] at hdiffer

/-- Moving all containers to an empty node, where no call fails and nobody cancels. -/
theorem run_move {m : Migration} {a b : Node} {originals : List Held} (hm : m.Moves a b)
    (hk : Sides nodes a.id b.id originals [] k)
    (ha : endpoint nodes a.id = .ok a) (hb : endpoint nodes b.id = .ok b) (hsome : originals ≠ [])
    (himages : ∀ h ∈ originals, h.effectiveImage ≠ "")
    (hnames : ((originals.map Held.name).filter (· ≠ "")).Nodup) :
    ∃ ledger twins last after,
      (world fun _ => false).run m.run k = (.ok ledger, ⟨last, after⟩) ∧
      ledger.entries.map (·.stage) = originals.map (fun _ => .completed) ∧
      Sides nodes a.id b.id [] twins last ∧ List.Forall₂ Twin originals twins := by
  have hregistry := reply_nodes_ok hk.rules hk.registryFault
  have hlist := reply_list_ok hk.rules hk.source
  -- Both nodes are in the registry and connected, and the listing is not empty, so the migration
  -- begins.
  have hends : endpoints nodes (Text.trim m.source) (Text.trim m.target) = .ok (a, b) := by
    rw [hm.source_id, hm.target_id]
    exact endpoints_eq_ok.mpr ⟨ha, hb⟩
  obtain ⟨⟨_, events⟩, rfl, hbegins⟩ : ∃ start : Run Cluster, k = start.state ∧
      m.Begins (world fun _ => false) k a b (originals.map (·.summary)) start := by
    refine ⟨⟨k, _⟩, rfl, precheck_eq_ok.mpr hm.complete, ⟨nodes, ?_, hends, rfl⟩, ?_, ?_, ?_⟩
    · rw [world_reply, hregistry, hk.nodes]
    · rw [world_reply, world_reply, hregistry, hlist]
    · simpa using hsome
    · rw [world_reply, world_reply, hregistry, hlist]
  -- Nobody cancels, so all containers are attempted.
  obtain ⟨done, ledger, last, hstops, hrun, hended⟩ := (world fun _ => false).run_attemptAll
    (attempt m.keepSource a b) (originals.map (·.summary)) ⟨k, events⟩
  have hdone : done = (originals.map (·.summary)).length := hstops.eq_total
  rw [hdone, List.take_length, hm.removes] at hended
  obtain ⟨entries, twins, moved, after, hmoved, hstages, hsides, htwins⟩ :=
    attempted_move hk hm.id_ne himages (by simpa using hnames) (fun _ => false) 1 events
  rw [hmoved] at hended
  refine ⟨ledger, twins, last.state, last.events, hbegins.run_eq.trans hrun, ?_, ?_, htwins⟩
  · rw [hended.entries, hstages]
  · rw [hended.state]
    exact hsides

end Move

/-- **Moving a node away and back restores it.** Node `a` has some containers and node `b` has none;
both are connected and in the registry, no rule lets a call fail, and nobody cancels. Every
container has an image, and those that have a name have different ones. Then a move to `b` and a
move back complete every container, `b` is empty again, and `a` has its containers in the same
order, with the configuration that they had, the current name and the effective image in the place
of those that were written there. -/
theorem round_trip_restores {k : Cluster} {a b : Node} {originals : List Held}
    {there back : Migration} (hrules : k.rules = []) (hregistry : k.registryFault = none)
    (ha : k.nodes.find? (·.id = a.id) = some a) (haUp : a.status = .connected)
    (hb : k.nodes.find? (·.id = b.id) = some b) (hbUp : b.status = .connected)
    (hfull : k.host? a.id = some originals) (hsome : originals ≠ [])
    (hempty : k.host? b.id = some []) (himages : ∀ h ∈ originals, h.effectiveImage ≠ "")
    (hnames : ((originals.map Held.name).filter (· ≠ "")).Nodup) (hthere : there.Moves a b)
    (hback : back.Moves b a) :
    ∃ first second mid last restored,
      (world fun _ => false).run there.run k = (.ok first, mid) ∧
      (world fun _ => false).run back.run mid.state = (.ok second, last) ∧
      first.entries.map (·.stage) = originals.map (fun _ => .completed) ∧
      second.entries.map (·.stage) = originals.map (fun _ => .completed) ∧
      last.state.host? b.id = some [] ∧
      last.state.host? a.id = some restored ∧
      restored.map (·.snapshot) = originals.map fun h =>
        { h.snapshot with name := writtenName h.name, image := some h.effectiveImage } := by
  have hsides : Sides k.nodes a.id b.id originals [] k := ⟨hrules, hregistry, rfl, hfull, hempty⟩
  have haEnd := endpoint_eq_ok.mpr ⟨ha, haUp⟩
  have hbEnd := endpoint_eq_ok.mpr ⟨hb, hbUp⟩
  obtain ⟨first, twins, mid, midEvents, hfirst, hfirstStages, hmid, htwins⟩ :=
    run_move hthere hsides haEnd hbEnd hsome himages hnames
  -- The twins have the names and the images of the originals, so they can be moved as well.
  have hnamesBack : twins.map Held.name = originals.map Held.name :=
    Twin.map_eq htwins fun _ _ htwin => htwin.name
  have himagesBack : ∀ copy ∈ twins, copy.effectiveImage ≠ "" := by
    have himagesEq : twins.map Held.effectiveImage = originals.map Held.effectiveImage :=
      Twin.map_eq htwins fun _ _ htwin => htwin.image
    intro copy hcopy
    have hmem : copy.effectiveImage ∈ originals.map Held.effectiveImage := by
      rw [← himagesEq]
      exact List.mem_map_of_mem hcopy
    obtain ⟨original, horiginal, hsame⟩ := List.mem_map.mp hmem
    exact hsame ▸ himages original horiginal
  -- There is a twin for each original, so there is something to be moved back.
  have hsomeBack : twins ≠ [] := by
    rintro rfl
    cases htwins
    exact hsome rfl
  obtain ⟨second, restored, last, lastEvents, hsecond, hsecondStages, hlast, hrestored⟩ :=
    run_move hback hmid.symm hbEnd haEnd hsomeBack himagesBack (hnamesBack ▸ hnames)
  refine ⟨first, second, ⟨mid, midEvents⟩, ⟨last, lastEvents⟩, restored, hfirst, hsecond,
    hfirstStages, ?_, hlast.source, hlast.target, ?_⟩
  · rw [hsecondStages]
    exact Twin.map_eq htwins fun _ _ _ => rfl
  · calc
      -- What comes back are twins of twins, which are written as the first ones were.
      restored.map (·.snapshot) = twins.map fun copy => copySnapshot copy copy.name :=
        Twin.map_eq hrestored fun _ _ htwin => htwin.snapshot
      _ = originals.map fun h => copySnapshot h h.name :=
        Twin.map_eq htwins fun _ _ htwin => htwin.copySnapshot_eq

/-- The sample cluster without its rules, and with an empty second node. -/
def evacuated : Cluster :=
  { Cluster.sample with
    hosts := [("a", [sampleHeld "1" "/web", unnamed]), ("b", [])]
    rules := [] }

def returning : Migration :=
  ⟨"b ", "a", false, true⟩

set_option maxRecDepth 4000 in
/-- The slash is gone from the first name, and the image of the second container has moved from its
entry to its configuration. -/
theorem evacuated_round_trip_restores :
    (∀ h ∈ [sampleHeld "1" "/web", unnamed], h.effectiveImage ≠ "") ∧
    ((([sampleHeld "1" "/web", unnamed]).map Held.name).filter (· ≠ "")).Nodup ∧
    sample.Moves (Node.new "a" .connected) (Node.new "b" .connected) ∧
    returning.Moves (Node.new "b" .connected) (Node.new "a" .connected) ∧
    ∃ first second mid last restored,
      (world fun _ => false).run sample.run evacuated = (.ok first, mid) ∧
      (world fun _ => false).run returning.run mid.state = (.ok second, last) ∧
      first.entries.map (·.stage) = [.completed, .completed] ∧
      second.entries.map (·.stage) = [.completed, .completed] ∧
      last.state.host? "b" = some [] ∧
      last.state.host? "a" = some restored ∧
      restored.map (·.snapshot) =
        [⟨some "web", some "nginx:1", ["MODE=test"], [⟨8080, 80⟩], "always"⟩,
          ⟨none, some "redis", [], [], noRestart⟩] := by
  have himages : ∀ h ∈ [sampleHeld "1" "/web", unnamed], h.effectiveImage ≠ "" := by decide
  have hnames : ((([sampleHeld "1" "/web", unnamed]).map Held.name).filter (· ≠ "")).Nodup := by
    decide
  have hthere : sample.Moves (Node.new "a" .connected) (Node.new "b" .connected) :=
    ⟨precheck_eq_ok.mp rfl, rfl, rfl, rfl⟩
  have hback : returning.Moves (Node.new "b" .connected) (Node.new "a" .connected) :=
    ⟨precheck_eq_ok.mp rfl, rfl, rfl, rfl⟩
  exact ⟨himages, hnames, hthere, hback,
    round_trip_restores (k := evacuated) rfl rfl rfl rfl rfl rfl rfl (List.cons_ne_nil _ _) rfl
      himages hnames hthere hback⟩

end Migration

end Flotilla
