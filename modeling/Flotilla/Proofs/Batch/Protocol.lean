import Flotilla.Batch
import Flotilla.Proofs.Attempts
import Flotilla.Proofs.Batch.Turns
import Flotilla.Proofs.Cluster.Calls
import Flotilla.Proofs.Planning
import Flotilla.Proofs.Remote

/-!
# The Protocol of a Batch

Which calls a batch makes for a match, and how far its entry says that it came, against whoever
answers the calls.

- `Batch.RedeployLog`: a container is inspected, stopped, deleted and created anew. A stop that
  failed is remembered in the stage only; a creation that failed means that the container is gone.
- `Batch.JobLog`: the same for every job, where a job that is no redeployment is a single call.
- `Batch.run_stages_tell_the_truth`: every ledger tells of such items, one after the other.
-/

namespace Flotilla.Batch

open Remote

/-! ## §1 What may happen to one match -/

/-- A single call, and the outcome that it gives. -/
inductive SingleLog (exchange : Except Fault Unit → Event) (message : String) :
    List Event → Outcome → Prop where
  | done : SingleLog exchange message [exchange (.ok ())] ⟨.completed, message⟩
  | failed (fault : Fault) :
      SingleLog exchange message [exchange (.error fault)] ⟨.pending, fault.message⟩

/-- The exchanges of a redeployment, and the outcome that they give. -/
inductive RedeployLog (item : Match) (changes : Changes) : List Event → Outcome → Prop where
  | notInspected (fault : Fault) :
      RedeployLog item changes
        [.exchange (.inspect item.nodeId item.container.id) (.error fault)]
        ⟨.pending, fault.message⟩
  | notPlanned {snapshot : Snapshot} {refusal : Refusal}
      (hplan : redeployPlan item snapshot changes = .error refusal) :
      RedeployLog item changes
        [.exchange (.inspect item.nodeId item.container.id) (.ok snapshot)]
        ⟨.pending, refusal.message⟩
  | notDeleted {snapshot : Snapshot} {plan : Plan}
      (hplan : redeployPlan item snapshot changes = .ok plan)
      (stopped : Except Fault Unit) (fault : Fault) :
      RedeployLog item changes
        [.exchange (.inspect item.nodeId item.container.id) (.ok snapshot),
          .exchange (.stop item.nodeId item.container.id) stopped,
          .exchange (.delete item.nodeId item.container.id) (.error fault)]
        ⟨if isFault stopped then .planned else .sourceStopped, fault.message⟩
  | notRecreated {snapshot : Snapshot} {plan : Plan}
      (hplan : redeployPlan item snapshot changes = .ok plan)
      (stopped : Except Fault Unit) (fault : Fault) :
      RedeployLog item changes
        [.exchange (.inspect item.nodeId item.container.id) (.ok snapshot),
          .exchange (.stop item.nodeId item.container.id) stopped,
          .exchange (.delete item.nodeId item.container.id) (.ok ()),
          .exchange (.create item.nodeId plan) (.error fault)]
        ⟨.sourceRemoved, "removed but not recreated: " ++ fault.message⟩
  | redeployed {snapshot : Snapshot} {plan : Plan}
      (hplan : redeployPlan item snapshot changes = .ok plan)
      (stopped : Except Fault Unit) :
      RedeployLog item changes
        [.exchange (.inspect item.nodeId item.container.id) (.ok snapshot),
          .exchange (.stop item.nodeId item.container.id) stopped,
          .exchange (.delete item.nodeId item.container.id) (.ok ()),
          .exchange (.create item.nodeId plan) (.ok ())]
        ⟨.completed, recreated plan⟩

/-- The exchanges of a job about one match, and the outcome that they give. -/
def JobLog (item : Match) : Job → List Event → Outcome → Prop
  | .start => SingleLog (.exchange (.start item.nodeId item.container.id)) "started"
  | .stop => SingleLog (.exchange (.stop item.nodeId item.container.id)) "stopped"
  | .delete => SingleLog (.exchange (.delete item.nodeId item.container.id)) "deleted"
  | .redeploy changes => RedeployLog item changes

/-- A call about the container of a match, or a creation on its node. -/
def Addresses (item : Match) : Call → Prop
  | .nodes | .list _ => False
  | .inspect node id | .start node id | .stop node id | .delete node id =>
    node = item.nodeId ∧ id = item.container.id
  | .create node _ => node = item.nodeId

/-- What a batch does for one match, and the entry that tells of it. -/
structure Attempted (job : Job) (item : Match) (block : List Event) (entry : Entry) : Prop where
  log : JobLog item job block ⟨entry.stage, entry.message⟩
  addressed : ∀ call ∈ callsOf block, Addresses item call
  key : entry.key = item.key
  ok : entry.ok = true ↔ entry.stage = .completed

theorem JobLog.addressed {item : Match} {job : Job} {block : List Event} {outcome : Outcome}
    (h : JobLog item job block outcome) : ∀ call ∈ callsOf block, Addresses item call := by
  -- Every exchange of a history is about the container of the match or creates on its node.
  cases job with
  | redeploy changes => cases h <;> simp [Addresses]
  | start | stop | delete => cases h <;> simp [Addresses]

/-! ## §2 One item -/

/-- A redeployment makes its calls one after the other, up to the first one that matters and
fails. -/
theorem yields_redeploy {item : Match} {changes : Changes} {events : List Event}
    {outcome : Outcome} (h : Yields (redeploy item changes) events outcome) :
    RedeployLog item changes events outcome := by
  unfold redeploy planChanges at h
  -- The first part inspects and plans; the second one goes on only with a plan.
  obtain ⟨first, planned, rest, rfl, hplanned, hrest⟩ := yields_bind h
  obtain ⟨inspected, more, rfl, hinspected⟩ := yields_call hplanned
  cases inspected with
  | error fault =>
    obtain ⟨rfl, rfl⟩ := yields_pure.mp hinspected
    obtain ⟨rfl, rfl⟩ := yields_pure.mp hrest
    exact .notInspected fault
  | ok snapshot =>
    obtain ⟨rfl, rfl⟩ := yields_pure.mp hinspected
    cases hplan : redeployPlan item snapshot changes with
    | error refusal =>
      simp only [hplan] at hrest
      obtain ⟨rfl, rfl⟩ := yields_pure.mp hrest
      -- The only refusal of a planner is that of a missing image, which has its message.
      have hrefusal := redeployPlan_error hplan
      subst hrefusal
      exact .notPlanned hplan
    | ok plan =>
      simp only [hplan] at hrest
      obtain ⟨stopped, rest, rfl, hstopped⟩ := yields_call hrest
      -- Whatever came of the stop, the deletion follows.
      obtain ⟨deleted, rest, rfl, hdeleted⟩ := yields_call hstopped
      cases deleted with
      | error fault =>
        obtain ⟨rfl, rfl⟩ := yields_pure.mp hdeleted
        cases stopped with
        | ok _ => exact .notDeleted hplan (.ok ()) fault
        | error ignored => exact .notDeleted hplan (.error ignored) fault
      | ok _ =>
        -- From here on the container is gone unless the creation succeeds.
        obtain ⟨created, rest, rfl, hcreated⟩ := yields_call hdeleted
        cases created with
        | error fault =>
          obtain ⟨rfl, rfl⟩ := yields_pure.mp hcreated
          exact .notRecreated hplan stopped fault
        | ok _ =>
          obtain ⟨rfl, rfl⟩ := yields_pure.mp hcreated
          exact .redeployed hplan stopped

theorem singleLog_reply (exchange : Except Fault Unit → Event) (message : String)
    (reply : Except Fault Unit) :
    SingleLog exchange message [exchange reply] (simpleOutcome message reply) := by
  cases reply with
  | ok _ => exact .done
  | error fault => exact .failed fault

theorem yields_perform {job : Job} {item : Match} {events : List Event} {outcome : Outcome}
    (h : Yields (perform job item) events outcome) : JobLog item job events outcome := by
  unfold perform at h
  cases job with
  | redeploy changes => exact yields_redeploy h
  | start | stop | delete =>
    -- The other jobs make one call and tell what came back.
    obtain ⟨reply, rest, rfl, hreply⟩ := yields_call h
    obtain ⟨rfl, rfl⟩ := yields_pure.mp hreply
    exact singleLog_reply _ _ reply

theorem attempted_of_yields {job : Job} {item : Match} {index : Nat} {block : List Event}
    {entry : Entry} (h : Yields (attempt job index item) block entry) :
    Attempted job item block entry := by
  obtain ⟨outcome, hitem, rfl⟩ := yields_attempt h
  have hlog := yields_perform hitem
  exact ⟨hlog, hlog.addressed, rfl, by simp [Outcome.entry, Entry.of]⟩

/-! ## §3 The whole batch -/

/-- A batch with a job gives a ledger: it attempts its matches, all of them unless it is cancelled,
and at the end tells the views to refresh. -/
theorem run_attempts {σ : Type} (w : World σ) {b : Batch} {job : Job} (s : σ)
    (hjob : b.job = .ok job) {item : Nat → Match → List Event → Entry → Prop}
    (hitem : ∀ index a block entry, Yields (attempt job index a) block entry →
      item index a block entry) :
    ∃ (ledger : Ledger) (attempts : List Event), (w.run b.run s).1 = .ok ledger ∧
      (w.run b.run s).2.events = attempts ++ [.refreshed] ∧
      Attempts item 1 b.items attempts ledger.entries ∧
      CutOnlyByToken w.cancelled attempts b.items.length ledger := by
  rw [run_eq_attemptAll hjob]
  exact w.run_attempts (attempt job) hitem b.items ⟨s, []⟩

/-- **The stages of a batch tell the truth**, in every world and from every state: a batch that is
not refused gives a ledger, and it did to its matches, up to some match and in their order, what
`JobLog` allows for the stage and the message of the entry, addressed nothing but the match, and
did nothing else. An entry is a success exactly if it says that the item was completed. A match was
left out only if the token was cancelled after the attempts, and then the ledger is marked. -/
theorem run_stages_tell_the_truth {σ : Type} (w : World σ) (b : Batch) (s : σ) {job : Job}
    (hjob : b.job = .ok job) :
    ∃ (ledger : Ledger) (attempts : List Event), (w.run b.run s).1 = .ok ledger ∧
      (w.run b.run s).2.events = attempts ++ [.refreshed] ∧
      Attempts (fun _ => Attempted job) 1 b.items attempts ledger.entries ∧
      CutOnlyByToken w.cancelled attempts b.items.length ledger :=
  run_attempts w s hjob fun _ _ _ _ hattempt => attempted_of_yields hattempt

def sample : Batch where
  items :=
    [⟨"a", "a...", "a", (Cluster.sampleHeld "1" "web").summary⟩,
      ⟨"a", "a...", "a", (Cluster.sampleHeld "2" "db").summary⟩]
  action := .redeploy
  overrides := none

/-- Its ledger: the second container cannot be deleted. -/
def sampleLedger : Ledger where
  entries :=
    [⟨⟨"a", "1"⟩, true, "a...", "1", "web", "recreated as web", .completed⟩,
      ⟨⟨"a", "2"⟩, false, "a...", "2", "db", "busy", .sourceStopped⟩]
  startedAt := ⟨0, 0⟩
  finishedAt := some ⟨0, 0⟩
  cancelled := false

/-- What happens about the two containers. -/
def sampleAttempts : List Event :=
  [.exchange (.inspect "a" "1") (.ok (Cluster.sampleHeld "1" "web").snapshot),
    .exchange (.stop "a" "1") (.ok ()),
    .exchange (.delete "a" "1") (.ok ()),
    .exchange (.create "a" ⟨"nginx:1", "web", [⟨8080, 80⟩], ["MODE=test"], true, none⟩) (.ok ()),
    .exchange (.inspect "a" "2") (.ok (Cluster.sampleHeld "2" "db").snapshot),
    .exchange (.stop "a" "2") (.ok ()),
    .exchange (.delete "a" "2") (.error ⟨.unknown, none, "busy"⟩)]

set_option maxRecDepth 4000 in
/-- Both matches of the sample are attempted, the second one up to its deletion. -/
theorem sample_stages_tell_the_truth :
    sample.job = .ok (.redeploy ⟨none, none, none, none, true⟩) ∧
    ((Cluster.world fun _ => false).run sample.run Cluster.sample).1 = .ok sampleLedger ∧
    ((Cluster.world fun _ => false).run sample.run Cluster.sample).2.events =
      sampleAttempts ++ [.refreshed] ∧
    Attempts (fun _ => Attempted (.redeploy ⟨none, none, none, none, true⟩)) 1 sample.items
      sampleAttempts sampleLedger.entries ∧
    CutOnlyByToken (fun _ => false) sampleAttempts sample.items.length sampleLedger := by
  have hjob : sample.job = .ok (.redeploy ⟨none, none, none, none, true⟩) := rfl
  have hledger : ((Cluster.world fun _ => false).run sample.run Cluster.sample).1 =
      .ok sampleLedger := rfl
  have hevents : ((Cluster.world fun _ => false).run sample.run Cluster.sample).2.events =
      sampleAttempts ++ [.refreshed] := rfl
  obtain ⟨ledger, attempts, hfound, hattempted, hattempts, hcut⟩ :=
    run_stages_tell_the_truth (Cluster.world fun _ => false) sample Cluster.sample hjob
  -- The ledger and the attempts that the theorem finds are those of the run.
  cases hledger.symm.trans hfound
  cases List.append_cancel_right (hevents.symm.trans hattempted)
  exact ⟨hjob, hledger, hevents, hattempts, hcut⟩

end Flotilla.Batch
