import Flotilla.Proofs.Cluster.Calls
import Flotilla.Proofs.Migration.Copies
import Flotilla.Proofs.Migration.Protocol
import Mathlib.Data.List.Basic

/-!
# A Migration Loses Nothing

On the in-memory cluster, with different ids on the source, no container is lost at any moment of
a migration: not while it runs, not where a call fails, and not if the process dies between two
calls.

- `NothingLost`: every container of the source is still there, or the target has a copy of its own
  for it among the containers that were not there before.
- `Transfer`: the invariant. It pairs the new containers of the target with the positions of the
  containers that they are copies of; only paired containers may be gone from the source.
- `Migration.nothing_lost_at_any_moment`: the main result, for every number of calls after which
  the migration is given up.
-/

namespace Flotilla

/-- Every container of the source is still there, or one of the containers that are new on the
target is a copy of it; different containers that are gone have different copies. -/
def NothingLost (source target : String) (before now : Cluster) : Prop :=
  ∃ (added : List Held) (place : Nat → Nat),
    now.held target = before.held target ++ added ∧
    (∀ i h, (before.held source)[i]? = some h →
      h ∈ now.held source ∨ ∃ copy, added[place i]? = some copy ∧ CopyOf h (i + 1) copy) ∧
    ∀ i j h h', (before.held source)[i]? = some h → (before.held source)[j]? = some h' →
      h ∉ now.held source → h' ∉ now.held source → place i = place j → i = j

/-- The state of a migration after some positions of the listing: `pairs` holds a position and a
copy for every container that is new on the target. -/
structure Transfer (source target : String) (before now : Cluster) (done : Nat)
    (pairs : List (Nat × Held)) : Prop where
  rest : (now.held source).Sublist (before.held source)
  added : now.held target = before.held target ++ pairs.map (·.2)
  copies : ∀ p ∈ pairs, ∃ h, (before.held source)[p.1]? = some h ∧ CopyOf h (p.1 + 1) p.2
  distinct : (pairs.map (·.1)).Nodup
  bounded : ∀ p ∈ pairs, p.1 < done
  kept : ∀ i h, (before.held source)[i]? = some h →
    h ∈ now.held source ∨ i ∈ pairs.map (·.1)

/-- Where ids are different, a position is known by its id. -/
theorem position_unique {list : List Held} (hids : (list.map (·.summary.id)).Nodup) {i j : Nat}
    {h h' : Held} (hi : list[i]? = some h) (hj : list[j]? = some h')
    (hid : h.summary.id = h'.summary.id) : i = j := by
  obtain ⟨hilt, higet⟩ := List.getElem?_eq_some_iff.mp hi
  -- Both positions hold the same id in the list of all ids.
  have hmap : (list.map (·.summary.id))[i]? = (list.map (·.summary.id))[j]? := by
    simp [hi, hj, hid]
  exact (List.getElem?_inj (by simpa using hilt) hids).mp hmap

namespace Transfer

open Cluster

variable {source target : String} {before now now' : Cluster} {done : Nat}
  {pairs : List (Nat × Held)}

/-! ## §1 The invariant suffices -/

/-- The place of a copy is where its position stands among the pairs. -/
theorem nothingLost (t : Transfer source target before now done pairs) :
    NothingLost source target before now := by
  refine ⟨pairs.map (·.2), fun i => (pairs.map (·.1)).idxOf i, t.added, ?_, ?_⟩
  · intro i h hi
    rcases t.kept i h hi with hthere | hpaired
    · exact .inl hthere
    · right
      -- The pair at this place has the position as its first part, so its copy is of `h`.
      have hlt := List.idxOf_lt_length_iff.mpr hpaired
      have hpos : (pairs.map (·.1)).idxOf i < pairs.length := by simpa using hlt
      have hfst := List.getElem_idxOf hlt
      rw [List.getElem_map] at hfst
      obtain ⟨h', hh', hcopy⟩ := t.copies _ (List.getElem_mem hpos)
      rw [hfst, hi, Option.some.injEq] at hh'
      rw [hfst, ← hh'] at hcopy
      exact ⟨_, by simp [hpos], hcopy⟩
  · intro i j h h' hi hj hgone hgone' hplace
    -- Two that are gone are both paired, and each position stands at one place among the pairs.
    have hpi := (t.kept i h hi).resolve_left hgone
    have hpj := (t.kept j h' hj).resolve_left hgone'
    exact (List.idxOf_inj hpi).mp hplace

/-! ## §2 The invariant is kept -/

theorem start : Transfer source target before before 0 [] where
  rest := List.Sublist.refl _
  added := by simp
  copies := by simp
  distinct := by simp
  bounded := by simp
  kept i h hi := .inl (List.mem_of_getElem? hi)

/-- Calls that change no container keep the invariant. -/
theorem of_held_eq (t : Transfer source target before now done pairs)
    (hheld : now'.held = now.held) : Transfer source target before now' done pairs where
  rest := by rw [hheld]; exact t.rest
  added := by rw [hheld]; exact t.added
  copies := t.copies
  distinct := t.distinct
  bounded := t.bounded
  kept := by rw [hheld]; exact t.kept

theorem skip (t : Transfer source target before now done pairs) :
    Transfer source target before now (done + 1) pairs where
  rest := t.rest
  added := t.added
  copies := t.copies
  distinct := t.distinct
  bounded p hp := Nat.lt_succ_of_lt (t.bounded p hp)
  kept := t.kept

/-- A copy of the next container is added on the target. -/
theorem create (t : Transfer source target before now done pairs) (hne : source ≠ target)
    {h copy : Held} (hh : (before.held source)[done]? = some h) (hcopy : CopyOf h (done + 1) copy)
    (hheld : now'.held = Function.update now.held target (now.held target ++ [copy])) :
    Transfer source target before now' (done + 1) (pairs ++ [(done, copy)]) where
  rest := by
    rw [hheld, Function.update_of_ne hne]
    exact t.rest
  added := by
    rw [hheld, Function.update_self, t.added]
    simp
  copies := by
    intro p hp
    rcases List.mem_append.mp hp with hold | hnew
    · exact t.copies p hold
    · rw [List.mem_singleton.mp hnew]
      exact ⟨h, hh, hcopy⟩
  distinct := by
    rw [List.map_append, List.nodup_append]
    refine ⟨t.distinct, by simp, ?_⟩
    intro i hi j hj hij
    -- The positions so far are below the one that is added.
    obtain ⟨p, hp, rfl⟩ := List.mem_map.mp hi
    have hlt := t.bounded p hp
    simp only [List.map_cons, List.map_nil, List.mem_singleton] at hj
    omega
  bounded := by
    intro p hp
    rcases List.mem_append.mp hp with hold | hnew
    · exact Nat.lt_succ_of_lt (t.bounded p hold)
    · rw [List.mem_singleton.mp hnew]
      exact Nat.lt_succ_self done
  kept := by
    intro i h' hi
    rw [hheld, Function.update_of_ne hne, List.map_append]
    exact (t.kept i h' hi).imp_right (List.mem_append_left _)

/-- A container of the source that has its copy is removed. -/
theorem delete (t : Transfer source target before now done pairs) (hne : source ≠ target)
    (hids : ((before.held source).map (·.summary.id)).Nodup) {i : Nat} {h : Held}
    (hi : (before.held source)[i]? = some h) (hpaired : i ∈ pairs.map (·.1))
    (hheld : now'.held =
      Function.update now.held source (removeFirst h.summary.id (now.held source))) :
    Transfer source target before now' done pairs where
  rest := by
    rw [hheld, Function.update_self]
    exact (removeFirst_sublist h.summary.id (now.held source)).trans t.rest
  added := by
    rw [hheld, Function.update_of_ne hne.symm]
    exact t.added
  copies := t.copies
  distinct := t.distinct
  bounded := t.bounded
  kept := by
    intro j h' hj
    rw [hheld, Function.update_self]
    rcases t.kept j h' hj with hthere | hother
    · have hremoved : h' ∈ removeFirst h.summary.id (now.held source) ∨
          h'.summary.id = h.summary.id := mem_removeFirst_or hthere
      rcases hremoved with hstays | hid
      · exact .inl hstays
      · -- Only one position has the id of the container that is removed.
        right
        have hij : j = i := position_unique hids hj hi hid
        rw [hij]
        exact hpaired
    · exact .inr hother

end Transfer

/-! ## §3 A migration keeps the invariant -/

namespace Migration

open Cluster Program

/-- The invariant, after some position of the listing and with some pairs. -/
def Safe (source target : String) (before now : Cluster) : Prop :=
  ∃ done pairs, Transfer source target before now done pairs

/-- The invariant, with the container at a position among those that have a copy. -/
def Copied (source target : String) (before : Cluster) (done : Nat) (now : Cluster) : Prop :=
  ∃ pairs, Transfer source target before now (done + 1) pairs ∧ done ∈ pairs.map (·.1)

/-- The invariant, before the container at a position was attempted. -/
def Upto (source target : String) (before : Cluster) (done : Nat) (now : Cluster) : Prop :=
  ∃ pairs, Transfer source target before now done pairs

section Items

variable {source target : String} {before now : Cluster} {done : Nat} {r : Run Cluster}
  {h : Held} {plan : Plan}

/-! Every call of an item keeps one of the two conditions, and each of them is safe. -/

theorem Upto.safe (hnow : Upto source target before done now) : Safe source target before now :=
  ⟨done, hnow⟩

theorem Upto.skip (hnow : Upto source target before done now) :
    Upto source target before (done + 1) now :=
  hnow.imp fun _ t => t.skip

theorem Copied.upto (hnow : Copied source target before done now) :
    Upto source target before (done + 1) now :=
  hnow.imp fun _ t => t.1

/-- A creation of the next container fails and keeps the invariant, or makes its copy. -/
theorem create_cases (hne : source ≠ target) (hh : (before.held source)[done]? = some h)
    (hcopy : ∀ number, CopyOf h (done + 1) (build plan number))
    (hnow : Upto source target before done now) :
    (∃ fault, (reply (.create target plan) now).1 = .error fault ∧
        Upto source target before done (reply (.create target plan) now).2) ∨
      ((reply (.create target plan) now).1 = .ok () ∧
        Copied source target before done (reply (.create target plan) now).2) := by
  obtain ⟨pairs, t⟩ := hnow
  rcases reply_create now target plan with ⟨fault, hreply, hheld⟩ | ⟨hreply, -, number, hheld⟩
  · exact .inl ⟨fault, hreply, pairs, t.of_held_eq hheld⟩
  · refine .inr ⟨hreply, _, t.create hne hh (hcopy _) hheld, ?_⟩
    simp

variable {cancelled : List Event → Bool}

/-- Creating the plan of the next container keeps the invariant, and makes a copy if it
succeeds. -/
theorem throughout_createOnTarget (hne : source ≠ target)
    (hh : (before.held source)[done]? = some h)
    (hplan : migrationPlan h.summary h.snapshot = .ok plan)
    (hr : Upto source target before done r.state) :
    (createOnTarget target plan (done + 1)).Throughout (world cancelled).answer
      (fun r => Safe source target before r.state)
      (fun result r => Upto source target before (done + 1) r.state ∧
        (isFault result = false → Copied source target before done r.state)) r := by
  unfold createOnTarget
  apply (world cancelled).throughout_call hr.safe
  intro events
  rw [world_reply]
  -- The first attempt: a failure leaves the invariant as it was, a success makes the copy.
  rcases create_cases hne hh (fun number => copyOf_build _ number hplan) hr with
    ⟨fault, hreply, hsafe⟩ | ⟨hreply, hcopied⟩
  · rw [hreply]
    by_cases hagain : (fault.isNameConflict && decide (plan.name ≠ "")) = true
    · -- The second attempt starts from what the first one left, which is what was there before.
      simp only [hagain, if_true]
      apply (world cancelled).throughout_call hsafe.safe
      intro events
      rw [world_reply]
      rcases create_cases hne hh (fun number => copyOf_build_renamed _ number hplan) hsafe with
        ⟨fault, hretried, hagain⟩ | ⟨hretried, hcopied⟩
      · rw [hretried]
        exact throughout_pure hagain.safe ⟨hagain.skip, fun hok => by cases hok⟩
      · rw [hretried]
        exact throughout_pure hcopied.upto.safe ⟨hcopied.upto, fun _ => hcopied⟩
    · simp only [hagain]
      exact throughout_pure hsafe.safe ⟨hsafe.skip, fun hok => by cases hok⟩
  · rw [hreply]
    exact throughout_pure hcopied.upto.safe ⟨hcopied.upto, fun _ => hcopied⟩

/-- What an inspection of a container finds on the source is the container itself. -/
theorem inspected_eq (hids : ((before.held source).map (·.summary.id)).Nodup)
    (hh : (before.held source)[done]? = some h) (hnow : Upto source target before done now)
    {snapshot : Snapshot}
    (hreply : (reply (.inspect source h.summary.id) now).1 = .ok snapshot) :
    snapshot = h.snapshot := by
  obtain ⟨pairs, t⟩ := hnow
  -- What is inspected is on the source now.
  obtain ⟨found, hfound, rfl⟩ := (reply_inspect now source h.summary.id).2 snapshot hreply
  -- It was there before, and only one container had the id.
  have hid : found.summary.id = h.summary.id := by simpa using List.find?_some hfound
  have hbefore : found ∈ before.held source := t.rest.subset (List.mem_of_find?_eq_some hfound)
  obtain ⟨i, hi⟩ := List.mem_iff_getElem?.mp hbefore
  have hidone : i = done := position_unique hids hi hh hid
  rw [hidone, hh] at hi
  rw [Option.some.inj hi]

/-- Removing a container that has its copy keeps the invariant. -/
theorem Copied.delete (hne : source ≠ target)
    (hids : ((before.held source).map (·.summary.id)).Nodup)
    (hh : (before.held source)[done]? = some h) (hnow : Copied source target before done now) :
    Upto source target before (done + 1) (reply (.delete source h.summary.id) now).2 := by
  obtain ⟨pairs, t, hpaired⟩ := hnow
  rcases reply_delete now source h.summary.id with ⟨fault, -, hheld⟩ | ⟨-, hheld⟩
  · exact ⟨pairs, t.of_held_eq hheld⟩
  · exact ⟨pairs, t.delete hne hids hh hpaired hheld⟩

/-- Migrating the next container keeps the invariant. -/
theorem throughout_migrateItem {keepSource : Bool} {sourceNode targetNode : Node}
    (hne : sourceNode.id ≠ targetNode.id)
    (hids : ((before.held sourceNode.id).map (·.summary.id)).Nodup)
    (hh : (before.held sourceNode.id)[done]? = some h)
    (hr : Upto sourceNode.id targetNode.id before done r.state) :
    (migrateItem keepSource sourceNode targetNode h.summary (done + 1)).Throughout
      (world cancelled).answer (fun r => Safe sourceNode.id targetNode.id before r.state)
      (fun _ r => Upto sourceNode.id targetNode.id before (done + 1) r.state) r := by
  unfold migrateItem
  apply (world cancelled).throughout_call hr.safe
  intro events
  rw [world_reply]
  have hinspect := reply_inspect r.state sourceNode.id h.summary.id
  -- An inspection changes no container.
  have hafter : Upto sourceNode.id targetNode.id before done
      (reply (.inspect sourceNode.id h.summary.id) r.state).2 :=
    hr.imp fun _ t => t.of_held_eq hinspect.1
  cases hreply : (reply (.inspect sourceNode.id h.summary.id) r.state).1 with
  | error fault => exact throughout_pure hafter.safe hafter.skip
  | ok snapshot =>
    -- So the plan is made from the configuration of the container itself, and what it makes is a
    -- copy.
    have hsnapshot := inspected_eq hids hh hr hreply
    subst hsnapshot
    cases hplan : migrationPlan h.summary h.snapshot with
    | error refusal =>
      simp only [hplan]
      exact throughout_pure hafter.safe hafter.skip
    | ok plan =>
      simp only [hplan]
      apply throughout_bind
      apply (throughout_createOnTarget hne hh hplan hafter).weaken
      rintro result created ⟨hcreated, hcopied⟩
      cases result with
      | error fault => exact throughout_pure hcreated.safe hcreated
      | ok plan =>
        cases keepSource with
        | true => exact throughout_pure hcreated.safe hcreated
        | false =>
          apply (world cancelled).throughout_call hcreated.safe
          intro events
          -- The source is removed only after its copy was made.
          have hdeleted := (hcopied rfl).delete hne hids hh
          rw [world_reply]
          cases (reply (.delete sourceNode.id h.summary.id) created.state).1 with
          | ok _ => exact throughout_pure hdeleted.safe hdeleted
          | error fault => exact throughout_pure hdeleted.safe hdeleted

/-- Migrating the containers from a position on keeps the invariant. -/
theorem throughout_process {keepSource : Bool} {sourceNode targetNode : Node}
    (hne : sourceNode.id ≠ targetNode.id)
    (hids : ((before.held sourceNode.id).map (·.summary.id)).Nodup) {rest : List Held}
    (hrest : (before.held sourceNode.id).drop done = rest) (ledger : Ledger)
    (hr : Upto sourceNode.id targetNode.id before done r.state) :
    (process keepSource sourceNode targetNode (done + 1) (rest.map (·.summary)) ledger).Throughout
      (world cancelled).answer (fun r => Safe sourceNode.id targetNode.id before r.state)
      (fun _ r => Safe sourceNode.id targetNode.id before r.state) r := by
  -- By induction on what is left of the listing.
  induction rest generalizing done ledger r with
  | nil => exact throughout_pure hr.safe hr.safe
  | cons h rest ih =>
    -- The first one of what is left stands at the position in the whole listing.
    have hh : (before.held sourceNode.id)[done]? = some h := by
      rw [← List.head?_drop, hrest]
      rfl
    have hnext : (before.held sourceNode.id).drop (done + 1) = rest := by
      rw [← List.tail_drop, hrest]
      rfl
    rw [List.map_cons]
    unfold process
    apply (world cancelled).throughout_cancelled hr.safe
    intro answer
    -- The look at the token may end the migration here, and the invariant holds already.
    cases answer with
    | true => exact throughout_pure hr.safe hr.safe
    | false =>
      apply throughout_bind
      apply (throughout_migrateItem hne hids hh hr).weaken
      intro outcome now hnow
      exact ih hnext _ hnow

end Items

/-! ## §4 The whole migration -/

section Whole

variable {before : Cluster} {cancelled : List Event → Bool} {r : Run Cluster}

theorem upto_of_held_eq (source target : String) {now : Cluster} (hheld : now.held = before.held) :
    Upto source target before 0 now :=
  ⟨[], Transfer.start.of_held_eq hheld⟩

/-- Asking for the nodes changes nothing. -/
theorem throughout_listNodes {source target : String} (hr : r.state.held = before.held) :
    listNodes.Throughout (world cancelled).answer
      (fun r => Safe source target before r.state)
      (fun _ r => r.state.held = before.held) r := by
  unfold listNodes
  apply (world cancelled).throughout_call (upto_of_held_eq source target hr).safe
  intro events
  have hnodes : (reply .nodes r.state).2.held = before.held := (held_reply_nodes r.state).trans hr
  have hsafe := (upto_of_held_eq source target hnodes).safe
  rw [world_reply]
  cases (reply .nodes r.state).1 with
  | error fault => exact throughout_pure hsafe hnodes
  | ok nodes => exact throughout_pure hsafe hnodes

/-- Finding both ends of a migration changes nothing. -/
theorem throughout_findEndpoints (m : Migration) (hr : r.state.held = before.held) :
    m.findEndpoints.Throughout (world cancelled).answer
      (fun r => Safe (Text.trim m.source) (Text.trim m.target) before r.state)
      (fun found r => r.state.held = before.held ∧ ∀ ends, found = .ok ends →
        ends.1.id = Text.trim m.source ∧ ends.2.id = Text.trim m.target ∧
          Text.trim m.source ≠ Text.trim m.target) r := by
  unfold findEndpoints
  cases hcheck : m.precheck with
  | error refusal =>
    exact throughout_pure (upto_of_held_eq _ _ hr).safe ⟨hr, fun ends hends => by cases hends⟩
  | ok _ =>
    apply throughout_bind
    apply (throughout_listNodes hr).weaken
    intro listed now hnow
    have hsafe := (upto_of_held_eq (Text.trim m.source) (Text.trim m.target) hnow).safe
    cases listed with
    | error refusal => exact throughout_pure hsafe ⟨hnow, fun ends hends => by cases hends⟩
    | ok nodes =>
      refine throughout_pure hsafe ⟨hnow, fun ends hends => ?_⟩
      -- Both nodes have the ids that were asked for, and a request with the same id twice was
      -- refused before.
      obtain ⟨hsource, htarget⟩ := ids_of_endpoints hends
      exact ⟨hsource, htarget, (precheck_eq_ok.mp hcheck).differ⟩

/-- The invariant holds throughout a migration. -/
theorem throughout_run (m : Migration)
    (hids : ((before.held (Text.trim m.source)).map (·.summary.id)).Nodup)
    (hr : r.state.held = before.held) :
    m.run.Throughout (world cancelled).answer
      (fun r => Safe (Text.trim m.source) (Text.trim m.target) before r.state)
      (fun _ _ => True) r := by
  unfold run
  apply throughout_bind
  apply (throughout_findEndpoints m hr).weaken
  rintro found now ⟨hnow, hends⟩
  cases found with
  | error refusal => exact throughout_pure (upto_of_held_eq _ _ hnow).safe trivial
  | ok ends =>
    obtain ⟨sourceNode, targetNode⟩ := ends
    obtain ⟨hsource, htarget, hne⟩ := hends _ rfl
    simp only at hsource htarget
    rw [← hsource, ← htarget] at hne ⊢
    rw [← hsource] at hids
    apply (world cancelled).throughout_call (upto_of_held_eq _ _ hnow).safe
    intro events
    obtain ⟨hlist, hlisted⟩ := reply_list now.state sourceNode.id
    have hafter := upto_of_held_eq sourceNode.id targetNode.id (hlist.trans hnow)
    rw [world_reply]
    cases hreply : (reply (.list sourceNode.id) now.state).1 with
    | error fault => exact throughout_pure hafter.safe trivial
    | ok containers =>
      -- The listing shows the containers that were there before.
      have hcontainers : containers = (before.held sourceNode.id).map (·.summary) := by
        rw [hlisted containers hreply, hnow]
      -- An empty listing is refused; otherwise the loop runs between two readings of the clock.
      cases hempty : containers.isEmpty with
      | true =>
        simp only [hempty, if_true]
        exact throughout_pure hafter.safe trivial
      | false =>
        simp only [hempty, Bool.false_eq_true, if_false]
        apply (world cancelled).throughout_clock hafter.safe
        intro started
        rw [hcontainers]
        apply throughout_bind
        apply (throughout_process hne hids rfl _ hafter).weaken
        intro ledger last hlast
        apply (world cancelled).throughout_clock hlast
        intro finished
        apply (world cancelled).throughout_refresh hlast
        intro events
        exact throughout_pure hlast trivial

end Whole

/-- **A migration loses nothing**, whatever it is asked for, whatever the cluster holds, which
calls fail and when it is cancelled: if the containers of the source have different ids, then
after any number of calls each of them is still on the source, or a container that is new on the
target is a copy of it, and different containers that are gone have different copies. -/
theorem nothing_lost_at_any_moment (m : Migration) (before : Cluster)
    (cancelled : List Event → Bool) (calls : Nat)
    (hids : ((before.held (Text.trim m.source)).map (·.summary.id)).Nodup) :
    NothingLost (Text.trim m.source) (Text.trim m.target) before
      ((world cancelled).run (m.run.breakOff calls) before).2.state := by
  have hthroughout : m.run.Throughout (world cancelled).answer
      (fun r => Safe (Text.trim m.source) (Text.trim m.target) before r.state)
      (fun _ _ => True) ⟨before, []⟩ := throughout_run m hids rfl
  -- What holds throughout a run holds wherever it is broken off.
  obtain ⟨done, pairs, t⟩ := (world cancelled).breakOff_of_throughout hthroughout calls
  unfold World.run
  exact t.nothingLost

set_option maxRecDepth 4000 in
/-- Six calls into the sample migration the first container is gone from the source. -/
theorem nothing_lost_after_six_calls :
    ((Cluster.sample.held (Text.trim sample.source)).map (·.summary.id)).Nodup ∧
      (((world fun _ => false).run (sample.run.breakOff 6) Cluster.sample).2.state.held "a").map
        (·.summary.id) = ["2"] ∧
      NothingLost (Text.trim sample.source) (Text.trim sample.target) Cluster.sample
        ((world fun _ => false).run (sample.run.breakOff 6) Cluster.sample).2.state := by
  have hids : ((Cluster.sample.held (Text.trim sample.source)).map (·.summary.id)).Nodup := by
    decide
  exact ⟨hids, rfl,
    nothing_lost_at_any_moment sample Cluster.sample (fun _ => false) 6 hids⟩

end Migration

end Flotilla
