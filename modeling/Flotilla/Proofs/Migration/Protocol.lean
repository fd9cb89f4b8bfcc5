import Flotilla.Migration
import Flotilla.Proofs.Attempts
import Flotilla.Proofs.Cluster.Calls
import Flotilla.Proofs.Migration.Refused
import Flotilla.Proofs.Remote

/-!
# The Protocol of a Migration

Which calls a migration makes for a container, and how far its entry says that it came, against
whoever answers the calls.

- `Migration.Creation`: a plan is created on the target, a second time under another name exactly
  if the first attempt failed because its name was taken.
- `Migration.ItemLog`: a container is inspected, created and removed, each step only after the one
  before it succeeded.
- `Migration.ItemTale`: the same with the outcome, its stage and its message.
- `Migration.stageOf`: the stage of an item, read off what happened.
- `Migration.run_follows_protocol`: every ledger tells of such items, one after the other.
-/

namespace Flotilla.Migration

open Remote

/-! ## §1 What may happen to one container -/

/-- The exchanges that create a plan on a node, and the plan that was carried out or the fault of
the last attempt. -/
inductive Creation (target : String) (plan : Plan) (index : Nat) :
    List Event → Except Fault Plan → Prop where
  | created : Creation target plan index [.exchange (.create target plan) (.ok ())] (.ok plan)
  | refused (fault : Fault) (hfinal : ¬(fault.kind = .conflict ∧ plan.name ≠ "")) :
      Creation target plan index [.exchange (.create target plan) (.error fault)] (.error fault)
  | retried (fault : Fault) (reply : Except Fault Unit) (hkind : fault.kind = .conflict)
      (hname : plan.name ≠ "") :
      Creation target plan index
        [.exchange (.create target plan) (.error fault),
          .exchange (.create target
            (plan.renamed (plan.name ++ "-migrated-" ++ Text.decimal index))) reply]
        (reply.map fun _ => plan.renamed (plan.name ++ "-migrated-" ++ Text.decimal index))

/-- The exchanges about one container of the source, at a position of the listing. -/
inductive ItemLog (keepSource : Bool) (source target : String) (container : Container)
    (index : Nat) : List Event → Prop where
  | notInspected (fault : Fault) :
      ItemLog keepSource source target container index
        [.exchange (.inspect source container.id) (.error fault)]
  | notPlanned {snapshot : Snapshot} {refusal : Refusal}
      (hplan : migrationPlan container snapshot = .error refusal) :
      ItemLog keepSource source target container index
        [.exchange (.inspect source container.id) (.ok snapshot)]
  | notCreated {snapshot : Snapshot} {plan : Plan} {creation : List Event} {fault : Fault}
      (hplan : migrationPlan container snapshot = .ok plan)
      (hcreation : Creation target plan index creation (.error fault)) :
      ItemLog keepSource source target container index
        (.exchange (.inspect source container.id) (.ok snapshot) :: creation)
  | kept {snapshot : Snapshot} {plan created : Plan} {creation : List Event}
      (hplan : migrationPlan container snapshot = .ok plan)
      (hcreation : Creation target plan index creation (.ok created))
      (hkeep : keepSource = true) :
      ItemLog keepSource source target container index
        (.exchange (.inspect source container.id) (.ok snapshot) :: creation)
  | removed {snapshot : Snapshot} {plan created : Plan} {creation : List Event}
      (hplan : migrationPlan container snapshot = .ok plan)
      (hcreation : Creation target plan index creation (.ok created))
      (hmove : keepSource = false) (reply : Except Fault Unit) :
      ItemLog keepSource source target container index
        (.exchange (.inspect source container.id) (.ok snapshot) :: creation ++
          [.exchange (.delete source container.id) reply])

/-- The exchanges about one container of the source, with the outcome that they give. -/
inductive ItemTale (keepSource : Bool) (source target : Node) (container : Container)
    (index : Nat) : List Event → Outcome → Prop where
  | notInspected (fault : Fault) :
      ItemTale keepSource source target container index
        [.exchange (.inspect source.id container.id) (.error fault)]
        ⟨.pending, fault.message⟩
  | notPlanned {snapshot : Snapshot} {refusal : Refusal}
      (hplan : migrationPlan container snapshot = .error refusal) :
      ItemTale keepSource source target container index
        [.exchange (.inspect source.id container.id) (.ok snapshot)]
        ⟨.pending, refusal.message⟩
  | notCreated {snapshot : Snapshot} {plan : Plan} {creation : List Event} {fault : Fault}
      (hplan : migrationPlan container snapshot = .ok plan)
      (hcreation : Creation target.id plan index creation (.error fault)) :
      ItemTale keepSource source target container index
        (.exchange (.inspect source.id container.id) (.ok snapshot) :: creation)
        ⟨.planned, fault.message⟩
  | kept {snapshot : Snapshot} {plan created : Plan} {creation : List Event}
      (hplan : migrationPlan container snapshot = .ok plan)
      (hcreation : Creation target.id plan index creation (.ok created))
      (hkeep : keepSource = true) :
      ItemTale keepSource source target container index
        (.exchange (.inspect source.id container.id) (.ok snapshot) :: creation)
        ⟨.completed, createdMessage target.displayName created.name ++ "; source kept"⟩
  | removed {snapshot : Snapshot} {plan created : Plan} {creation : List Event}
      (hplan : migrationPlan container snapshot = .ok plan)
      (hcreation : Creation target.id plan index creation (.ok created))
      (hmove : keepSource = false) :
      ItemTale keepSource source target container index
        (.exchange (.inspect source.id container.id) (.ok snapshot) :: creation ++
          [.exchange (.delete source.id container.id) (.ok ())])
        ⟨.completed, createdMessage target.displayName created.name ++ "; removed from source"⟩
  | notRemoved {snapshot : Snapshot} {plan created : Plan} {creation : List Event}
      (hplan : migrationPlan container snapshot = .ok plan)
      (hcreation : Creation target.id plan index creation (.ok created))
      (hmove : keepSource = false) (fault : Fault) :
      ItemTale keepSource source target container index
        (.exchange (.inspect source.id container.id) (.ok snapshot) :: creation ++
          [.exchange (.delete source.id container.id) (.error fault)])
        ⟨.targetCreated, createdMessage target.displayName created.name ++
          "; failed to remove from source: " ++ fault.message⟩

/-! ## §2 Stages -/

def creationReply? : Event → Option (Except Fault Unit)
  | .exchange (.create _ _) reply => some reply
  | _ => none

def removalReply? : Event → Option (Except Fault Unit)
  | .exchange (.delete _ _) reply => some reply
  | _ => none

/-- The stage of an item, read off its exchanges: nothing was created, or the last creation
failed, or what was created could not be removed from the source, or all went well. -/
def stageOf (block : List Event) : Stage :=
  match (block.filterMap creationReply?).getLast? with
  | none => .pending
  | some (.error _) => .planned
  | some (.ok _) =>
    if (block.filterMap removalReply?).any isFault then .targetCreated else .completed

/-- What a migration does for one container, and the entry that tells of it. -/
structure Attempted (keepSource : Bool) (source target : String) (index : Nat)
    (container : Container) (block : List Event) (entry : Entry) : Prop where
  log : ItemLog keepSource source target container index block
  key : entry.key = ⟨source, container.id⟩
  stage : entry.stage = stageOf block
  ok : entry.ok = true ↔ entry.stage = .completed

/-! ## §3 One item -/

section Creation

variable {target : String} {plan : Plan} {index : Nat} {creation : List Event}

private theorem Creation.no_removal {result : Except Fault Plan}
    (h : Creation target plan index creation result) :
    creation.filterMap removalReply? = [] := by
  cases h <;> rfl

/-- The last creation decides how creating a plan ends. -/
private theorem Creation.last_reply {result : Except Fault Plan}
    (h : Creation target plan index creation result) :
    (creation.filterMap creationReply?).getLast? = some (result.map fun _ => ()) := by
  cases h with
  | created => rfl
  | refused fault hfinal => rfl
  | retried fault reply hkind hname => cases reply <;> rfl

/-- The stage of an item whose plan was tried: creating it failed, or the removal decides. -/
private theorem Creation.stageOf_block {result : Except Fault Plan}
    (h : Creation target plan index creation result) (source id : String)
    (inspected : (Call.inspect source id).Reply) (removal : List Event)
    (hremoval : removal.filterMap creationReply? = []) :
    stageOf (.exchange (.inspect source id) inspected :: (creation ++ removal)) =
      if isFault result then .planned
      else if (removal.filterMap removalReply?).any isFault then .targetCreated
      else .completed := by
  -- The creations of the block are those of the creation, its removals those of the removal.
  have hcreations : (Event.exchange (.inspect source id) inspected ::
      (creation ++ removal)).filterMap creationReply? = creation.filterMap creationReply? := by
    rw [List.filterMap_cons_none rfl, List.filterMap_append, hremoval, List.append_nil]
  have hremovals : (Event.exchange (.inspect source id) inspected ::
      (creation ++ removal)).filterMap removalReply? = removal.filterMap removalReply? := by
    rw [List.filterMap_cons_none rfl, List.filterMap_append, h.no_removal, List.nil_append]
  unfold stageOf
  rw [hcreations, hremovals, h.last_reply]
  cases result <;> rfl

end Creation

theorem yields_createOnTarget {target : String} {plan : Plan} {index : Nat} {events : List Event}
    {result : Except Fault Plan} (h : Yields (createOnTarget target plan index) events result) :
    Creation target plan index events result := by
  unfold createOnTarget at h
  obtain ⟨reply, rest, rfl, hreply⟩ := yields_call h
  cases reply with
  | ok _ =>
    obtain ⟨rfl, rfl⟩ := yields_pure.mp hreply
    exact .created
  | error fault =>
    by_cases hagain : fault.kind = .conflict ∧ plan.name ≠ ""
    · -- The name was taken: there is one more attempt, and it is the last one.
      have hcond : (fault.isNameConflict && decide (plan.name ≠ "")) = true := by
        simpa [Fault.isNameConflict] using hagain
      simp only [hcond, if_true] at hreply
      obtain ⟨again, rest, rfl, hlast⟩ := yields_call hreply
      cases again with
      | ok _ =>
        obtain ⟨rfl, rfl⟩ := yields_pure.mp hlast
        exact .retried fault (.ok ()) hagain.1 hagain.2
      | error last =>
        obtain ⟨rfl, rfl⟩ := yields_pure.mp hlast
        exact .retried fault (.error last) hagain.1 hagain.2
    · -- Any other fault is final, and so is a conflict about a container without a name.
      have hcond : (fault.isNameConflict && decide (plan.name ≠ "")) = false := by
        simpa [Fault.isNameConflict] using hagain
      simp only [hcond, Bool.false_eq_true, if_false] at hreply
      obtain ⟨rfl, rfl⟩ := yields_pure.mp hreply
      exact .refused fault hagain

/-- Migrating a container makes its calls one after the other, up to the first one that fails. -/
theorem yields_migrateItem_tale {keepSource : Bool} {source target : Node} {container : Container}
    {index : Nat} {events : List Event} {outcome : Outcome}
    (h : Yields (migrateItem keepSource source target container index) events outcome) :
    ItemTale keepSource source target container index events outcome := by
  unfold migrateItem at h
  obtain ⟨inspected, rest, rfl, hinspected⟩ := yields_call h
  cases inspected with
  | error fault =>
    obtain ⟨rfl, rfl⟩ := yields_pure.mp hinspected
    exact .notInspected fault
  | ok snapshot =>
    cases hplan : migrationPlan container snapshot with
    | error refusal =>
      simp only [hplan] at hinspected
      obtain ⟨rfl, rfl⟩ := yields_pure.mp hinspected
      exact .notPlanned hplan
    | ok plan =>
      simp only [hplan] at hinspected
      -- The creation is a part of its own, with one call or two.
      obtain ⟨creation, result, rest, rfl, hcreate, hcreated⟩ := yields_bind hinspected
      have hcreation := yields_createOnTarget hcreate
      cases result with
      | error fault =>
        obtain ⟨rfl, rfl⟩ := yields_pure.mp hcreated
        rw [List.append_nil]
        exact .notCreated hplan hcreation
      | ok created =>
        -- The copy exists; only now the source may be touched.
        cases keepSource with
        | true =>
          obtain ⟨rfl, rfl⟩ := yields_pure.mp hcreated
          rw [List.append_nil]
          exact .kept hplan hcreation rfl
        | false =>
          obtain ⟨removed, rest, rfl, hremoved⟩ := yields_call hcreated
          cases removed with
          | ok _ =>
            obtain ⟨rfl, rfl⟩ := yields_pure.mp hremoved
            exact .removed hplan hcreation rfl
          | error fault =>
            obtain ⟨rfl, rfl⟩ := yields_pure.mp hremoved
            exact .notRemoved hplan hcreation rfl fault

/-- Migrating a container follows the protocol, and the stage can be read off its exchanges. -/
theorem yields_migrateItem {keepSource : Bool} {source target : Node} {container : Container}
    {index : Nat} {events : List Event} {outcome : Outcome}
    (h : Yields (migrateItem keepSource source target container index) events outcome) :
    ItemLog keepSource source.id target.id container index events ∧
      outcome.stage = stageOf events := by
  cases yields_migrateItem_tale h with
  | notInspected fault => exact ⟨.notInspected fault, rfl⟩
  | notPlanned hplan => exact ⟨.notPlanned hplan, rfl⟩
  -- Where there is no removal the block is the inspection and the creation, which decides the
  -- stage.
  | @notCreated snapshot _ _ _ hplan hcreation =>
    have hstage := hcreation.stageOf_block source.id container.id (.ok snapshot) [] rfl
    rw [List.append_nil] at hstage
    exact ⟨.notCreated hplan hcreation, hstage.symm⟩
  | @kept snapshot _ _ _ hplan hcreation hkeep =>
    have hstage := hcreation.stageOf_block source.id container.id (.ok snapshot) [] rfl
    rw [List.append_nil] at hstage
    exact ⟨.kept hplan hcreation hkeep, hstage.symm⟩
  -- With a removal its reply decides, since the creation has succeeded.
  | @removed snapshot _ _ _ hplan hcreation hmove =>
    have hstage := hcreation.stageOf_block source.id container.id (.ok snapshot)
      [.exchange (.delete source.id container.id) (.ok ())] rfl
    exact ⟨.removed hplan hcreation hmove (.ok ()), hstage.symm⟩
  | @notRemoved snapshot _ _ _ hplan hcreation hmove fault =>
    have hstage := hcreation.stageOf_block source.id container.id (.ok snapshot)
      [.exchange (.delete source.id container.id) (.error fault)] rfl
    exact ⟨.removed hplan hcreation hmove (.error fault), hstage.symm⟩

theorem attempted_of_yields {keepSource : Bool} {source target : Node} {index : Nat}
    {container : Container} {block : List Event} {entry : Entry}
    (h : Yields (attempt keepSource source target index container) block entry) :
    Attempted keepSource source.id target.id index container block entry := by
  obtain ⟨outcome, hitem, rfl⟩ := yields_attempt h
  obtain ⟨hlog, hstage⟩ := yields_migrateItem hitem
  exact ⟨hlog, rfl, hstage, by simp [Outcome.entry, Entry.of]⟩

/-! ## §4 The whole migration -/

/-- A migration that attempts its containers has asked for the registry and for the listing of the
source before them. It gives a ledger, it attempts all containers unless it is cancelled, and at the
end it tells the views to refresh. -/
theorem Begins.run_attempts {σ : Type} {w : World σ} {m : Migration} {s : σ} {source target : Node}
    {containers : List Container} {start : Run σ}
    (h : m.Begins w s source target containers start)
    {item : Nat → Container → List Event → Entry → Prop}
    (hitem : ∀ index container block entry,
      Yields (attempt m.keepSource source target index container) block entry →
        item index container block entry) :
    ∃ (ledger : Ledger) (nodes : List Node) (attempts : List Event),
      (w.run m.run s).1 = .ok ledger ∧
      (w.run m.run s).2.events = .exchange .nodes (.ok nodes) ::
        .exchange (.list (Text.trim m.source)) (.ok containers) :: (attempts ++ [.refreshed]) ∧
      Attempts item 1 containers attempts ledger.entries ∧
      CutOnlyByToken w.cancelled (.exchange .nodes (.ok nodes) ::
        .exchange (.list (Text.trim m.source)) (.ok containers) :: attempts) containers.length
        ledger := by
  obtain ⟨nodes, -, -, hstart⟩ := h.registry
  -- The loop goes on behind the two calls that the migration began with.
  obtain ⟨ledger, attempts, hledger, hevents, hattempts, hcut⟩ :=
    w.run_attempts (attempt m.keepSource source target) hitem containers start
  rw [hstart, h.ids.1] at hevents hcut
  rw [h.run_eq]
  exact ⟨ledger, nodes, attempts, hledger, hevents, hattempts, hcut⟩

/-- **The protocol of a migration**, in every world and from every state: whenever a migration
gives a ledger, it asked for the registry and for the listing of the source, and then did to the
containers of the listing, up to some container and in their order, what `ItemLog` allows, one
entry each, and nothing else. An entry's stage is read off what happened to its container, and it
is a success exactly if it says that the item was completed. A container was left out only if the
token was cancelled after the attempts, and then the ledger is marked. -/
theorem run_follows_protocol {σ : Type} (w : World σ) (m : Migration) (s : σ) {ledger : Ledger}
    (h : (w.run m.run s).1 = .ok ledger) :
    ∃ (nodes : List Node) (containers : List Container) (attempts : List Event),
      (w.run m.run s).2.events = .exchange .nodes (.ok nodes) ::
        .exchange (.list (Text.trim m.source)) (.ok containers) :: (attempts ++ [.refreshed]) ∧
      Attempts (Attempted m.keepSource (Text.trim m.source) (Text.trim m.target)) 1 containers
        attempts ledger.entries ∧
      CutOnlyByToken w.cancelled (.exchange .nodes (.ok nodes) ::
        .exchange (.list (Text.trim m.source)) (.ok containers) :: attempts) containers.length
        ledger := by
  obtain ⟨source, target, containers, start, hbegins⟩ := begins_of_run_ok h
  obtain ⟨found, nodes, attempts, hfound, hevents, hattempts, hcut⟩ :=
    hbegins.run_attempts fun _ _ _ _ hattempt => attempted_of_yields hattempt
  rw [h] at hfound
  cases hfound
  -- The nodes are told by the trimmed ids of the request.
  rw [hbegins.ids.1, hbegins.ids.2] at hattempts
  exact ⟨nodes, containers, attempts, hevents, hattempts, hcut⟩

def sample : Migration :=
  ⟨" a", "b", false, true⟩

/-- Its ledger: the name of the first container was taken on the target, and the second one could
not be removed from the source. -/
def sampleLedger : Ledger where
  entries :=
    [⟨⟨"a", "1"⟩, true, "a...", "1", "web",
        "created on b... as web-migrated-1; removed from source", .completed⟩,
      ⟨⟨"a", "2"⟩, false, "a...", "2", "db",
        "created on b... as db; failed to remove from source: busy", .targetCreated⟩]
  startedAt := ⟨0, 0⟩
  finishedAt := some ⟨0, 0⟩
  cancelled := false

set_option maxRecDepth 4000 in
theorem sample_follows_protocol :
    ((Cluster.world fun _ => false).run sample.run Cluster.sample).1 = .ok sampleLedger ∧
    ∃ (nodes : List Node) (containers : List Container) (attempts : List Event),
      ((Cluster.world fun _ => false).run sample.run Cluster.sample).2.events =
        .exchange .nodes (.ok nodes) ::
          .exchange (.list (Text.trim sample.source)) (.ok containers) ::
            (attempts ++ [.refreshed]) ∧
      Attempts (Attempted sample.keepSource (Text.trim sample.source) (Text.trim sample.target)) 1
        containers attempts sampleLedger.entries ∧
      CutOnlyByToken (fun _ => false) (.exchange .nodes (.ok nodes) ::
        .exchange (.list (Text.trim sample.source)) (.ok containers) :: attempts) containers.length
        sampleLedger := by
  have hledger : ((Cluster.world fun _ => false).run sample.run Cluster.sample).1 =
      .ok sampleLedger := rfl
  exact ⟨hledger, run_follows_protocol _ sample Cluster.sample hledger⟩

end Flotilla.Migration
