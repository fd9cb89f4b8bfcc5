import Flotilla.Proofs.Batch.Refused
import Flotilla.Proofs.Cluster.Calls
import Flotilla.Proofs.Cluster.Edits
import Flotilla.Proofs.Commuting

/-!
# The Order of Starts, Stops and Deletions

A batch that starts, stops or deletes does one edit for each of its matches. Matches mean different
containers, so their edits commute, and where no rule is ever used up the order of the matches
changes neither the cluster at the end nor any entry.

- `run_attempt_edit`: an attempt answers and leaves behind what its edit does.
- `commuting_attempts`: attempts at different containers commute.
- `order_of_matches_does_not_matter`: the main result.
-/

namespace Flotilla

open Cluster

namespace Batch

/-! ## §1 Attempts at one container -/

/-- The job of a batch that does an edit for each match. -/
def editing : Edit → Job
  | .start => .start
  | .stop => .stop
  | .delete => .delete

/-- The message of an edit that succeeds. -/
def editedMessage : Edit → String
  | .start => "started"
  | .stop => "stopped"
  | .delete => "deleted"

/-- The entry for a match. -/
def entryOf (e : Edit) (k : Cluster) (item : Match) : Entry :=
  (simpleOutcome (editedMessage e) (k.verdict e item.key)).entry item.key item.nodeName
    item.container

theorem run_attempt_edit {k : Cluster} (hk : k.Lasting) (cancelled : List Event → Bool) (e : Edit)
    (index : Nat) (item : Match) :
    ((world cancelled).run (attempt (editing e) index item) k).1 = entryOf e k item ∧
      (world cancelled).after (attempt (editing e) index item) k = k.edited e item.key := by
  have hrun : ((world cancelled).run (attempt (editing e) index item) k).1 =
      (simpleOutcome (editedMessage e) (e.reply item.key k).1).entry item.key item.nodeName
        item.container ∧
      (world cancelled).after (attempt (editing e) index item) k = (e.reply item.key k).2 := by
    -- Each job makes one call, and the entry tells what came back.
    cases e <;> exact ⟨rfl, rfl⟩
  rwa [Edit.reply_eq hk] at hrun

/-- An attempt comes to the same after an attempt at another container. -/
theorem result_after_attempt {k : Cluster} (hk : k.Lasting) (cancelled : List Event → Bool)
    (e : Edit) (index : Nat) {item other : Match} (hne : item.key ≠ other.key) :
    ((world cancelled).run (attempt (editing e) index item)
        ((world cancelled).after (attempt (editing e) index other) k)).1 =
      ((world cancelled).run (attempt (editing e) index item) k).1 := by
  -- Rules that are never used up are the same after the other edit, and so is the verdict on this
  -- container.
  rw [(run_attempt_edit hk cancelled e index other).2,
    (run_attempt_edit (hk.edited e other.key) cancelled e index item).1,
    (run_attempt_edit hk cancelled e index item).1]
  unfold entryOf
  rw [verdict_edited hne]

/-- Attempts at different containers commute. -/
theorem commuting_attempts (cancelled : List Event → Bool) (e : Edit) (index : Nat)
    {item other : Match} (hne : item.key ≠ other.key) :
    (world cancelled).Commuting Cluster.Lasting (attempt (editing e) index item)
      (attempt (editing e) index other) where
  first := fun _ hk => result_after_attempt hk cancelled e index hne
  second := fun _ hk => result_after_attempt hk cancelled e index hne.symm
  -- Four runs are turned into the edits that they do, and edits at different keys commute.
  after := by
    intro k hk
    rw [(run_attempt_edit hk cancelled e index item).2,
      (run_attempt_edit hk cancelled e index other).2,
      (run_attempt_edit (hk.edited e item.key) cancelled e index other).2,
      (run_attempt_edit (hk.edited e other.key) cancelled e index item).2]
    exact edited_comm hne k e e

theorem lasting_after (cancelled : List Event → Bool) (e : Edit) (index : Nat) (item : Match)
    (k : Cluster) (hk : k.Lasting) :
    ((world cancelled).after (attempt (editing e) index item) k).Lasting := by
  rw [(run_attempt_edit hk cancelled e index item).2]
  exact hk.edited e item.key

theorem pairwise_commuting (cancelled : List Event → Bool) (e : Edit) (index : Nat)
    {items : List Match} (hkeys : (items.map Match.key).Nodup) :
    items.Pairwise fun a b => (world cancelled).Commuting Cluster.Lasting
      (attempt (editing e) index a) (attempt (editing e) index b) :=
  (List.pairwise_map.mp hkeys).imp fun hne => commuting_attempts cancelled e index hne

/-! ## §2 Whole batches -/

/-- A bulk action over some matches that nobody cancels. -/
def carryOut (action : Action) (overrides : Option Overrides) (items : List Match) (k : Cluster) :
    Except Refusal Ledger × Run Cluster :=
  (world fun _ => false).run (Batch.mk items action overrides).run k

variable {k : Cluster} {action : Action} {items : List Match}

/-- What is not a redeployment does an edit for each match. -/
theorem exists_edit (haction : action ≠ .redeploy) (overrides : Option Overrides) :
    ∃ e, ∀ items : List Match, items ≠ [] → (items.map Match.key).Nodup →
      (Batch.mk items action overrides).job = .ok (editing e) := by
  cases action with
  | start => exact ⟨.start, fun _ hsome hkeys => job_of_distinct hsome hkeys .start overrides⟩
  | stop => exact ⟨.stop, fun _ hsome hkeys => job_of_distinct hsome hkeys .stop overrides⟩
  | delete => exact ⟨.delete, fun _ hsome hkeys => job_of_distinct hsome hkeys .delete overrides⟩
  | redeploy => exact absurd rfl haction

/-- Matches with different keys are edited as each of them would be alone, one after the other. -/
theorem carryOut_edits (hk : k.Lasting) {e : Edit} {overrides : Option Overrides}
    (hjob : (Batch.mk items action overrides).job = .ok (editing e))
    (hkeys : (items.map Match.key).Nodup) :
    ∃ ledger, (carryOut action overrides items k).1 = .ok ledger ∧
      ledger.entries = items.map (entryOf e k) ∧
      (carryOut action overrides items k).2.state =
        (world fun _ => false).afterAll (attempt (editing e) 1) items k := by
  have hcalls : ∀ item, (attempt (editing e) 1 item).OnlyCalls := onlyCalls_attempt (editing e) 1
  obtain ⟨done, ledger, last, hstops, hrun, hended⟩ :=
    (world fun _ => false).run_attemptAll (attempt (editing e)) items ⟨k, []⟩
  -- Nobody cancels, so all matches are attempted.
  rw [hstops.eq_total, List.take_length] at hended
  have hbatch : carryOut action overrides items k = (.ok ledger, last) := by
    unfold carryOut World.run
    rw [run_eq_attemptAll hjob]
    exact hrun
  rw [hbatch]
  refine ⟨ledger, rfl, ?_, ?_⟩
  · have hentries := World.entries_attempted hcalls (lasting_after (fun _ => false) e 1)
      (pairwise_commuting _ e 1 hkeys) 1 ⟨k, []⟩ hk
    -- The entry that a match has in the run is the one that it has when it is attempted first.
    have halone : ∀ item ∈ items, ((world fun _ => false).run (attempt (editing e) 1 item) k).1 =
        entryOf e k item := fun item _ => (run_attempt_edit hk _ e 1 item).1
    rw [← List.map_congr_left halone, hended.entries]
    exact hentries
  · rw [hended.state]
    exact World.state_attempted hcalls 1 items ⟨k, []⟩

/-- No matches, or two with the same key, are refused, and nothing happens. -/
theorem carryOut_refused (hwrong : ¬ (items ≠ [] ∧ (items.map Match.key).Nodup))
    (overrides : Option Overrides) :
    ∃ refusal, carryOut action overrides items k = (.error refusal, ⟨k, []⟩) := by
  -- There need not be one reason for both orders; that there is some reason is the same for both.
  have hreason : items = [] ∨ ¬ (items.map Match.key).Nodup := by
    by_cases hsome : items = []
    · exact .inl hsome
    · exact .inr fun hkeys => hwrong ⟨hsome, hkeys⟩
  have hrefused : ∃ refusal, (Batch.mk items action overrides).RefusedFor refusal := by
    apply exists_refusedFor_iff.mpr
    exact hreason.imp_right .inl
  obtain ⟨refusal, hrefused⟩ := hrefused
  exact ⟨refusal, run_of_refusedFor _ hrefused k⟩

end Batch

/-- **The order of the matches does not matter** to a batch that starts, stops or deletes and that
nobody cancels, in any cluster where no rule is ever used up. In another order the batch leaves
the same cluster behind. Different matches give a ledger, and wherever there is one, there is one
in the other order too, with the same entry for every key. The entry for a match is the one that
a batch for this match alone would have. -/
theorem order_of_matches_does_not_matter {k : Cluster} (hk : k.Lasting) {action : Action}
    (haction : action ≠ .redeploy) {items others : List Match} (hperm : items.Perm others)
    (overrides : Option Overrides) :
    (Batch.carryOut action overrides items k).2.state =
      (Batch.carryOut action overrides others k).2.state ∧
    (items ≠ [] → (items.map Match.key).Nodup →
      ∃ ledger, (Batch.carryOut action overrides items k).1 = .ok ledger) ∧
    ∀ ledger, (Batch.carryOut action overrides items k).1 = .ok ledger →
      ∃ moved, (Batch.carryOut action overrides others k).1 = .ok moved ∧
        (∀ key, ledger.entries.find? (·.key = key) = moved.entries.find? (·.key = key)) ∧
        ∀ item ∈ items, ∃ alone entry,
          (Batch.carryOut action overrides [item] k).1 = .ok alone ∧ alone.entries = [entry] ∧
            ledger.entries.find? (·.key = item.key) = some entry := by
  by_cases hready : items ≠ [] ∧ (items.map Match.key).Nodup
  · obtain ⟨hsome, hkeys⟩ := hready
    -- Being empty and having a key twice do not depend on the order.
    have hothers : others ≠ [] := fun hnone => hsome (List.perm_nil.mp (hnone ▸ hperm))
    have hotherKeys : (others.map Match.key).Nodup := (hperm.map _).nodup_iff.mp hkeys
    obtain ⟨e, hjob⟩ := Batch.exists_edit haction overrides
    obtain ⟨ledger, hrun, hentries, hstate⟩ :=
      Batch.carryOut_edits hk (hjob items hsome hkeys) hkeys
    obtain ⟨moved, hmoved, hmovedEntries, hmovedState⟩ :=
      Batch.carryOut_edits hk (hjob others hothers hotherKeys) hotherKeys
    refine ⟨?_, fun _ _ => ⟨ledger, hrun⟩, fun ledger' hledger => ?_⟩
    · rw [hstate, hmovedState]
      apply World.afterAll_perm (Batch.lasting_after _ e 1) hperm _ k hk
      exact Batch.pairwise_commuting _ e 1 hkeys
    · rw [hrun] at hledger
      cases hledger
      -- Entries are looked up by key, and the keys are those of the matches.
      have hledgerKeys : (ledger.entries.map (·.key)).Nodup := by
        rw [hentries, List.map_map]
        exact hkeys
      refine ⟨moved, hmoved, ?_, ?_⟩
      · apply find?_perm _ hledgerKeys
        rw [hentries, hmovedEntries]
        exact hperm.map _
      · intro item hitem
        -- A batch for one match is a batch in its own right, with the entry that the edit gives.
        have hsingle : ([item].map Match.key).Nodup := by simp
        obtain ⟨alone, halone, haloneEntries, -⟩ :=
          Batch.carryOut_edits hk (hjob [item] (List.cons_ne_nil item []) hsingle) hsingle
        refine ⟨alone, _, halone, haloneEntries, ?_⟩
        rw [find?_eq_some_iff_mem hledgerKeys, hentries]
        exact ⟨List.mem_map_of_mem hitem, rfl⟩
  · -- What is refused in one order is refused in the other one.
    have hwrong : ¬ (others ≠ [] ∧ (others.map Match.key).Nodup) := by
      rintro ⟨hsome, hkeys⟩
      apply hready
      exact ⟨fun hnone => hsome (List.nil_perm.mp (hnone ▸ hperm)),
        (hperm.map _).nodup_iff.mpr hkeys⟩
    obtain ⟨refusal, hrefused⟩ := Batch.carryOut_refused hready overrides
    obtain ⟨other, hother⟩ := Batch.carryOut_refused hwrong overrides
    rw [hrefused, hother]
    refine ⟨rfl, fun hsome hkeys => absurd ⟨hsome, hkeys⟩ hready, ?_⟩
    intro ledger hledger
    cases hledger

/-- Matches of the sample cluster, one that is not there and one whose node cannot be reached. -/
def Batch.scattered : List Match :=
  [⟨"a", "a...", "a", (sampleHeld "1" "web").summary⟩,
    ⟨"b", "b...", "b", (sampleHeld "1" "web").summary⟩,
    ⟨"a", "a...", "a", (sampleHeld "2" "db").summary⟩,
    ⟨"z", "z...", "z", (sampleHeld "1" "web").summary⟩]

/-- One deletion succeeds, and three fail for different reasons. -/
theorem scattered_in_both_orders :
    Cluster.sample.Lasting ∧ Action.delete ≠ .redeploy ∧
    Batch.scattered.Perm Batch.scattered.reverse ∧
    (Batch.carryOut .delete none Batch.scattered Cluster.sample).2.state =
      (Batch.carryOut .delete none Batch.scattered.reverse Cluster.sample).2.state ∧
    ∃ ledger moved,
      (Batch.carryOut .delete none Batch.scattered Cluster.sample).1 = .ok ledger ∧
      ledger.entries.map (·.ok) = [true, false, false, false] ∧
      (Batch.carryOut .delete none Batch.scattered.reverse Cluster.sample).1 = .ok moved ∧
      (∀ key, ledger.entries.find? (·.key = key) = moved.entries.find? (·.key = key)) ∧
      ∀ item ∈ Batch.scattered, ∃ alone entry,
        (Batch.carryOut .delete none [item] Cluster.sample).1 = .ok alone ∧
          alone.entries = [entry] ∧ ledger.entries.find? (·.key = item.key) = some entry := by
  have hlasting : Cluster.sample.Lasting := by decide
  have hdelete : Action.delete ≠ .redeploy := by decide
  have hperm : Batch.scattered.Perm Batch.scattered.reverse :=
    (List.reverse_perm Batch.scattered).symm
  obtain ⟨hstate, hgives, hledgers⟩ :=
    order_of_matches_does_not_matter hlasting hdelete hperm none
  obtain ⟨ledger, hrun⟩ := hgives (by decide) (by decide)
  obtain ⟨moved, hmoved, hentries, halone⟩ := hledgers ledger hrun
  -- The ledger is known only through the equation for the run, which is evaluated.
  have hoks : (Except.ok ledger : Except Refusal Ledger).map (·.entries.map (·.ok)) =
      .ok [true, false, false, false] := by
    rw [← hrun]
    rfl
  exact ⟨hlasting, hdelete, hperm, hstate, ledger, moved, hrun, Except.ok.inj hoks, hmoved,
    hentries, halone⟩

end Flotilla
