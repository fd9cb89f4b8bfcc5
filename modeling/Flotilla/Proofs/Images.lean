import Flotilla.Proofs.Batch.Protocol
import Flotilla.Proofs.Batch.Refused
import Flotilla.Proofs.Migration.Protocol
import Flotilla.Proofs.Text.Blank

/-!
# No Container Is Created Without an Image

The image of a plan has three sources: what the operator asks for, what the inspection says and what
the listing says, each of them in any shape. The plan is checked before anything is done, so no
creation is ever asked for with an image that cannot be used, and a container whose sources are all
blank is inspected and otherwise left alone.

- `Plan.HasImage`: the image of a plan can be used.
- `NoImage`: all three sources are blank.
- `ChecksImage`: a planner refuses exactly the containers without an image. Both planners do
  (`checksImage_redeployPlan`, `checksImage_migrationPlan`).
- `ImageChecked`: what that comes to for the events about one container and for its entry.
- `creations_name_images`: the main result, for batches and migrations in every world.
-/

namespace Flotilla

open Text Remote

/-! ## §1 The sources of an image -/

/-- The image of the plan is there, and no blanks are around it. -/
def Plan.HasImage (p : Plan) : Prop :=
  p.image ≠ "" ∧ trim p.image = p.image

/-- A text that is missing or blank. -/
def Missing (image : Option String) : Prop :=
  ∀ text, image = some text → trim text = ""

/-- Neither the override nor the snapshot nor the listing names an image for a container. -/
structure NoImage (override : Option String) (container : Container) (snapshot : Snapshot) :
    Prop where
  override : Missing override
  snapshot : Missing snapshot.image
  listed : trim container.image = ""

/-- The first source that is not blank, trimmed; empty if there is none. -/
def sourcedImage (override : Option String) (container : Container) (snapshot : Snapshot) :
    String :=
  (override.bind nonBlank? <|> currentImage? container snapshot).getD ""

section Sources

variable {override image : Option String} {container : Container} {snapshot : Snapshot}

theorem missing_iff : Missing image ↔ image.bind nonBlank? = none := by
  simp [Missing, Option.bind_eq_none_iff, nonBlank?_eq_none]

/-- What is left of a source has been trimmed. -/
theorem trim_of_nonBlank {source : Option String} {text : String}
    (h : source.bind nonBlank? = some text) : trim text = text := by
  obtain ⟨given, -, hgiven⟩ := Option.bind_eq_some_iff.mp h
  rw [(nonBlank?_eq_some.mp hgiven).1, trim_trim]

/-- What is left of a source is something. -/
theorem ne_empty_of_nonBlank {source : Option String} {text : String}
    (h : source.bind nonBlank? = some text) : text ≠ "" := by
  obtain ⟨given, -, hgiven⟩ := Option.bind_eq_some_iff.mp h
  obtain ⟨rfl, hsome⟩ := nonBlank?_eq_some.mp hgiven
  exact hsome

/-- All sources are blank, or the image is what is left of one of them. -/
theorem sourcedImage_cases (override : Option String) (container : Container)
    (snapshot : Snapshot) :
    NoImage override container snapshot ∧ sourcedImage override container snapshot = "" ∨
      ∃ source : Option String,
        source.bind nonBlank? = some (sourcedImage override container snapshot) := by
  unfold sourcedImage currentImage? Snapshot.image?
  -- The sources are looked at one after the other.
  cases hoverride : override.bind nonBlank? with
  | some image => exact .inr ⟨override, hoverride⟩
  | none =>
    cases hsnapshot : snapshot.image.bind nonBlank? with
    | some image => exact .inr ⟨snapshot.image, hsnapshot⟩
    | none =>
      cases hlisted : nonBlank? container.image with
      | some image => exact .inr ⟨some container.image, by rw [Option.bind_some, hlisted]; rfl⟩
      | none =>
        refine .inl ⟨⟨missing_iff.mpr hoverride, missing_iff.mpr hsnapshot, ?_⟩, rfl⟩
        exact nonBlank?_eq_none.mp hlisted

theorem trim_sourcedImage :
    trim (sourcedImage override container snapshot) =
      sourcedImage override container snapshot := by
  -- An empty text has no blanks around it, and what is left of a source has none.
  rcases sourcedImage_cases override container snapshot with ⟨-, hnone⟩ | ⟨source, hsource⟩
  · rw [hnone]
    rfl
  · exact trim_of_nonBlank hsource

/-- Without an image all sources are blank. -/
theorem noImage_of_sourcedImage (h : sourcedImage override container snapshot = "") :
    NoImage override container snapshot := by
  rcases sourcedImage_cases override container snapshot with ⟨hnone, -⟩ | ⟨source, hsource⟩
  · exact hnone
  · exact absurd h (ne_empty_of_nonBlank hsource)

theorem NoImage.sourcedImage_eq (h : NoImage override container snapshot) :
    sourcedImage override container snapshot = "" := by
  unfold sourcedImage currentImage? Snapshot.image?
  rw [missing_iff.mp h.override, missing_iff.mp h.snapshot, nonBlank?_eq_none.mpr h.listed]
  rfl

end Sources

/-! ## §2 Planning -/

/-- What planning the creation of a container comes to: a plan that is made has an image, and where
no source has one the plan is refused for that. -/
structure ChecksImage (override : Option String) (container : Container) (snapshot : Snapshot)
    (planned : Except Refusal Plan) : Prop where
  made : ∀ plan, planned = .ok plan → plan.HasImage
  refused : NoImage override container snapshot → planned = .error (.invalid .imageRequired)

section Planning

variable {override : Option String} {container : Container} {snapshot : Snapshot}

/-- A plan with the first image that is not blank is validated. -/
theorem Plan.checksImage_validated {p : Plan}
    (himage : p.image = sourcedImage override container snapshot) :
    ChecksImage override container snapshot p.validated where
  made := by
    intro plan hplan
    obtain ⟨rfl, hsome⟩ := validated_eq_ok.mp hplan
    -- The image is that of a source, so the check of the trimmed one is the check of itself.
    have htrim : trim plan.image = plan.image := by rw [himage, trim_sourcedImage]
    exact ⟨htrim ▸ hsome, htrim⟩
  refused := by
    intro hnone
    refine validated_eq_error.mpr ⟨rfl, ?_⟩
    rw [himage, hnone.sourcedImage_eq]
    rfl

theorem checksImage_redeployPlan {o : Overrides} {changes : Changes} {item : Match}
    (hread : o.read = .ok changes) :
    ChecksImage o.image item.container snapshot (redeployPlan item snapshot changes) := by
  unfold redeployPlan
  refine Plan.checksImage_validated ?_
  simp only [sourcedImage, (Overrides.read_eq_ok hread).1]

/-- A migration overrides nothing. -/
theorem checksImage_migrationPlan :
    ChecksImage none container snapshot (migrationPlan container snapshot) := by
  unfold migrationPlan
  exact Plan.checksImage_validated rfl

end Planning

/-! ## §3 One container -/

/-- The call creates nothing without an image. -/
def Call.NamesImage : Call → Prop
  | .create _ plan => plan.HasImage
  | .nodes | .list _ | .inspect _ _ | .start _ _ | .stop _ _ | .delete _ _ => True

/-- What happens about a container begins with its inspection, and creates nothing without an image.
If all sources of an image are blank it ends there, and the entry says so. -/
structure ImageChecked (override : Option String) (node : String) (container : Container)
    (block : List Event) (entry : Entry) : Prop where
  key : entry.key = ⟨node, container.id⟩
  calls : ∀ call ∈ callsOf block, call.NamesImage
  inspected : ∃ reply rest, block = .exchange (.inspect node container.id) reply :: rest ∧
    ∀ snapshot, reply = .ok snapshot → NoImage override container snapshot →
      rest = [] ∧ entry.ok = false ∧ entry.stage = .pending ∧
        entry.message = "Validation failed: image required"

section Item

variable {override : Option String} {node : String} {container : Container} {snapshot : Snapshot}
  {entry : Entry}

/-- A container that could not be inspected is left alone, whatever images its sources name. -/
theorem ImageChecked.notInspected (fault : Fault) (hkey : entry.key = ⟨node, container.id⟩) :
    ImageChecked override node container
      [.exchange (.inspect node container.id) (.error fault)] entry where
  key := hkey
  calls := by simp [Call.NamesImage]
  inspected := ⟨.error fault, [], rfl, nofun⟩

/-- A container without a plan is left alone. -/
theorem ImageChecked.notPlanned {refusal : Refusal} {planned : Except Refusal Plan}
    (hchecks : ChecksImage override container snapshot planned)
    (hplanned : planned = .error refusal) (nodeName : String) :
    ImageChecked override node container
      [.exchange (.inspect node container.id) (.ok snapshot)]
      (Outcome.entry ⟨.pending, refusal.message⟩ ⟨node, container.id⟩ nodeName container) where
  key := rfl
  calls := by simp [Call.NamesImage]
  inspected := by
    refine ⟨.ok snapshot, [], rfl, ?_⟩
    rintro _ ⟨⟩ hnone
    -- There is one reason only to refuse a container without an image.
    rw [hplanned] at hchecks
    cases hchecks.refused hnone
    exact ⟨rfl, rfl, rfl, rfl⟩

/-- Where a plan was made there is an image, so whatever follows may create with it. -/
theorem ImageChecked.planned {plan : Plan} {planned : Except Refusal Plan} {rest : List Event}
    (hchecks : ChecksImage override container snapshot planned) (hplanned : planned = .ok plan)
    (hkey : entry.key = ⟨node, container.id⟩)
    (hcalls : plan.HasImage → ∀ call ∈ callsOf rest, call.NamesImage) :
    ImageChecked override node container
      (.exchange (.inspect node container.id) (.ok snapshot) :: rest) entry where
  key := hkey
  calls := by
    rw [callsOf_exchange, List.forall_mem_cons]
    exact ⟨trivial, hcalls (hchecks.made plan hplanned)⟩
  inspected := by
    refine ⟨.ok snapshot, rest, rfl, ?_⟩
    rintro _ ⟨⟩ hnone
    -- A plan was made, so some source names an image.
    rw [hplanned] at hchecks
    cases hchecks.refused hnone

end Item

/-- A redeployment creates with the plan that was made, or not at all. -/
theorem Batch.RedeployLog.imageChecked {o : Overrides} {changes : Changes} {item : Match}
    {block : List Event} {outcome : Outcome} (hread : o.read = .ok changes)
    (h : RedeployLog item changes block outcome) :
    ImageChecked o.image item.nodeId item.container block
      (outcome.entry item.key item.nodeName item.container) := by
  cases h with
  | notInspected fault => exact .notInspected fault rfl
  | notPlanned hplan => exact .notPlanned (checksImage_redeployPlan hread) hplan item.nodeName
  -- The calls about the source name no image; only a creation does, and it is that of the plan.
  | notDeleted hplan stopped fault =>
    exact .planned (checksImage_redeployPlan hread) hplan rfl fun _ => by simp [Call.NamesImage]
  | notRecreated hplan stopped fault =>
    refine .planned (checksImage_redeployPlan hread) hplan rfl fun himage => ?_
    simpa [Call.NamesImage] using himage
  | redeployed hplan stopped =>
    refine .planned (checksImage_redeployPlan hread) hplan rfl fun himage => ?_
    simpa [Call.NamesImage] using himage

/-- The second attempt to create a plan changes the name, and the image is the same. -/
theorem Migration.Creation.namesImage {target : String} {plan : Plan} {index : Nat}
    {creation : List Event} {result : Except Fault Plan}
    (h : Creation target plan index creation result) (himage : plan.HasImage) :
    ∀ call ∈ callsOf creation, call.NamesImage := by
  -- A plan under another name is the same plan in everything else.
  have hrenamed : ∀ name, (plan.renamed name).HasImage := fun _ => himage
  cases h with
  | created => simpa [Call.NamesImage] using himage
  | refused fault hfinal => simpa [Call.NamesImage] using himage
  | retried fault reply hkind hname =>
    simpa [Call.NamesImage] using ⟨himage, hrenamed _⟩

theorem Migration.ItemTale.imageChecked {keepSource : Bool} {source target : Node}
    {container : Container} {index : Nat} {block : List Event} {outcome : Outcome}
    (h : ItemTale keepSource source target container index block outcome) :
    ImageChecked none source.id container block
      (outcome.entry ⟨source.id, container.id⟩ source.displayName container) := by
  cases h with
  | notInspected fault => exact .notInspected fault rfl
  | notPlanned hplan => exact .notPlanned checksImage_migrationPlan hplan source.displayName
  -- With a plan a container is created up to twice, and at most deleted after that.
  | notCreated hplan hcreation =>
    exact .planned checksImage_migrationPlan hplan rfl hcreation.namesImage
  | kept hplan hcreation _ =>
    exact .planned checksImage_migrationPlan hplan rfl hcreation.namesImage
  | removed hplan hcreation _ =>
    refine .planned checksImage_migrationPlan hplan rfl fun himage => ?_
    simpa [callsOf_append, or_imp, forall_and, Call.NamesImage] using hcreation.namesImage himage
  | notRemoved hplan hcreation _ fault =>
    refine .planned checksImage_migrationPlan hplan rfl fun himage => ?_
    simpa [callsOf_append, or_imp, forall_and, Call.NamesImage] using hcreation.namesImage himage

/-! ## §4 Whole runs -/

variable {σ : Type}

/-- No job creates without an image: a single call creates nothing. -/
theorem Batch.JobLog.namesImage {job : Job} {item : Match} {block : List Event} {outcome : Outcome}
    (hread : ∀ changes, job = .redeploy changes → ∃ o : Overrides, o.read = .ok changes)
    (h : JobLog item job block outcome) : ∀ call ∈ callsOf block, call.NamesImage := by
  cases job with
  | start | stop | delete => cases h <;> simp [Call.NamesImage]
  | redeploy changes =>
    -- A redeployment has changes that were read from some overrides.
    obtain ⟨o, ho⟩ := hread changes rfl
    exact (RedeployLog.imageChecked ho h).calls

/-- No batch creates without an image, whether it is refused or not. -/
theorem Batch.run_namesImage (w : World σ) (b : Batch) (s : σ) :
    ∀ call ∈ callsOf (w.run b.run s).2.events, call.NamesImage := by
  cases hjob : b.job with
  | error refusal =>
    -- A batch without a job makes no call at all.
    rw [run_of_refusedFor w (job_eq_error.mp hjob)]
    simp
  | ok job =>
    have hread : ∀ changes, job = .redeploy changes → ∃ o : Overrides, o.read = .ok changes := by
      rintro changes rfl
      exact ⟨_, (read_of_job hjob).2⟩
    obtain ⟨ledger, attempts, -, hevents, hattempts, -⟩ := run_stages_tell_the_truth w b s hjob
    rw [hevents, callsOf_append, callsOf_refreshed, callsOf_nil, List.append_nil]
    exact hattempts.forall_mem_callsOf fun _ _ _ _ hattempted => hattempted.log.namesImage hread

/-- What every history of one redeployment gives holds of all attempts of a batch that is not
refused; only the token keeps it from attempting all its matches. -/
theorem Batch.run_redeployments {w : World σ} {b : Batch} {s : σ} {ledger : Ledger}
    {P : Match → List Event → Entry → Prop} (haction : b.action = .redeploy)
    (hledger : (w.run b.run s).1 = .ok ledger)
    (hlog : ∀ changes, (b.overrides.getD .keep).read = .ok changes →
      ∀ item block outcome, RedeployLog item changes block outcome →
        P item block (outcome.entry item.key item.nodeName item.container)) :
    ∃ attempts, (w.run b.run s).2.events = attempts ++ [.refreshed] ∧
      Attempts (fun _ => P) 1 b.items attempts ledger.entries ∧
      CutOnlyByToken w.cancelled attempts b.items.length ledger := by
  -- A batch with a ledger has a job, and the job of a redeployment has read the overrides.
  obtain ⟨job, hjob⟩ := job_of_run_ok hledger
  obtain ⟨changes, rfl, hread⟩ := job_eq_redeploy haction hjob
  have hitem : ∀ index item block entry,
      Yields (attempt (.redeploy changes) index item) block entry → P item block entry := by
    intro index item block entry hattempt
    obtain ⟨outcome, hredeploy, rfl⟩ := yields_attempt hattempt
    exact hlog changes hread item block outcome (yields_redeploy hredeploy)
  obtain ⟨found, attempts, hfound, hended⟩ := run_attempts w s hjob hitem
  rw [hledger] at hfound
  cases hfound
  exact ⟨attempts, hended⟩

/-- A redeployment that is not refused checks the image of every container that it attempts. -/
theorem Batch.run_imageChecked {w : World σ} {b : Batch} {s : σ} {ledger : Ledger}
    (haction : b.action = .redeploy) (hledger : (w.run b.run s).1 = .ok ledger) :
    ∃ attempts, (w.run b.run s).2.events = attempts ++ [.refreshed] ∧
      Attempts (fun _ item => ImageChecked (b.overrides.getD .keep).image item.nodeId
        item.container) 1 b.items attempts ledger.entries ∧
      CutOnlyByToken w.cancelled attempts b.items.length ledger :=
  run_redeployments haction hledger fun _ hread _ _ _ hlog => RedeployLog.imageChecked hread hlog

/-- A migration that attempts its containers has asked for the registry and for the listing before
them, and checks the image of every container that it attempts. -/
theorem Migration.Begins.imageChecked {m : Migration} {w : World σ} {s : σ} {source target : Node}
    {containers : List Container} {start : Run σ}
    (h : m.Begins w s source target containers start) :
    ∃ ledger nodes attempts, (w.run m.run s).1 = .ok ledger ∧
      (w.run m.run s).2.events = .exchange .nodes (.ok nodes) ::
        .exchange (.list (trim m.source)) (.ok containers) :: (attempts ++ [.refreshed]) ∧
      Attempts (fun _ => ImageChecked none (trim m.source)) 1 containers attempts
        ledger.entries ∧
      CutOnlyByToken w.cancelled (.exchange .nodes (.ok nodes) ::
        .exchange (.list (trim m.source)) (.ok containers) :: attempts) containers.length
        ledger := by
  refine h.run_attempts fun index container block entry hattempt => ?_
  obtain ⟨outcome, hmigrate, rfl⟩ := yields_attempt hattempt
  -- The source that was found has the id that was asked for.
  rw [← h.ids.1]
  exact (yields_migrateItem_tale hmigrate).imageChecked

/-- No migration creates without an image, whether it is refused or not. -/
theorem Migration.run_namesImage (w : World σ) (m : Migration) (s : σ) :
    ∀ call ∈ callsOf (w.run m.run s).2.events, call.NamesImage := by
  rcases refused_or_begins m w s with ⟨refusal, -, hrefused⟩ | ⟨_, _, _, _, hbegins⟩
  · -- At the gates there are no calls but those about the registry and the listing.
    generalize (w.run m.run s).2.events = events at hrefused
    cases hrefused <;> simp [Call.NamesImage]
  · obtain ⟨ledger, nodes, attempts, -, hevents, hattempts, -⟩ := hbegins.imageChecked
    have hcalls := hattempts.forall_mem_callsOf fun _ _ _ _ hchecked => hchecked.calls
    rw [hevents]
    simpa [callsOf_append, Call.NamesImage] using hcalls

/-- **No container is created without an image**, in every world and from every state. Whether a
batch or a migration is refused or not, every plan that a node is asked to create has an image that
is not blank and has been trimmed, at the first attempt and at the second. If a redeployment or a
migration is not refused, the image of every container that it attempts was checked, and it leaves
out a container only if the token is cancelled. -/
theorem creations_name_images (w : World σ) (s : σ) :
    (∀ b : Batch,
      (∀ node plan, Call.create node plan ∈ callsOf (w.run b.run s).2.events →
        plan.image ≠ "" ∧ trim plan.image = plan.image) ∧
      (b.action = .redeploy → ∀ ledger, (w.run b.run s).1 = .ok ledger →
        ∃ attempts, (w.run b.run s).2.events = attempts ++ [.refreshed] ∧
          Attempts (fun _ item => ImageChecked (b.overrides.getD .keep).image item.nodeId
            item.container) 1 b.items attempts ledger.entries ∧
          CutOnlyByToken w.cancelled attempts b.items.length ledger)) ∧
    (∀ m : Migration,
      (∀ node plan, Call.create node plan ∈ callsOf (w.run m.run s).2.events →
        plan.image ≠ "" ∧ trim plan.image = plan.image) ∧
      (∀ ledger, (w.run m.run s).1 = .ok ledger →
        ∃ nodes containers attempts,
          (w.run m.run s).2.events = .exchange .nodes (.ok nodes) ::
            .exchange (.list (trim m.source)) (.ok containers) :: (attempts ++ [.refreshed]) ∧
          Attempts (fun _ => ImageChecked none (trim m.source)) 1 containers attempts
            ledger.entries ∧
          CutOnlyByToken w.cancelled (.exchange .nodes (.ok nodes) ::
            .exchange (.list (trim m.source)) (.ok containers) :: attempts) containers.length
            ledger)) := by
  refine ⟨fun b => ⟨?_, ?_⟩, fun m => ⟨?_, ?_⟩⟩
  · exact fun node plan hcall => Batch.run_namesImage w b s (.create node plan) hcall
  · exact fun haction ledger hledger => Batch.run_imageChecked haction hledger
  · exact fun node plan hcall => Migration.run_namesImage w m s (.create node plan) hcall
  · intro ledger hledger
    -- With a ledger the migration has begun, and it has that ledger.
    obtain ⟨source, target, containers, start, hbegins⟩ := Migration.begins_of_run_ok hledger
    obtain ⟨found, nodes, attempts, hfound, hended⟩ := hbegins.imageChecked
    rw [hledger] at hfound
    cases hfound
    exact ⟨nodes, containers, attempts, hended⟩

/-- A container whose configuration has no image and whose entry in the listing has a blank one. -/
def imageless : Held where
  summary := ⟨"1", " ", ["/web"], "Up", "running"⟩
  snapshot := ⟨some "web", none, [], [], "no"⟩

/-- Two nodes without rules; the container with an image has a namesake on the other node. -/
def halfImageless : Cluster :=
  { Cluster.sample with
    hosts := [("a", [imageless, Cluster.sampleHeld "2" "db"]), ("b", [Cluster.sampleHeld "9" "db"])]
    rules := [] }

/-- A redeployment that asks for a blank image. -/
def Batch.blankImage : Batch :=
  { Batch.sample with
    items := [⟨"a", "a...", "a", imageless.summary⟩,
      ⟨"a", "a...", "a", (Cluster.sampleHeld "2" "db").summary⟩]
    overrides := some { Overrides.keep with image := some "\t" } }

/-- The ledger of these two containers, where a message tells what came of the second one. -/
def imagelessLedger (message : String) : Ledger where
  entries :=
    [⟨⟨"a", "1"⟩, false, "a...", "1", "web", "Validation failed: image required", .pending⟩,
      ⟨⟨"a", "2"⟩, true, "a...", "2", "db", message, .completed⟩]
  startedAt := ⟨0, 0⟩
  finishedAt := some ⟨0, 0⟩
  cancelled := false

set_option maxRecDepth 4000 in
/-- The migration creates the second container twice, under the second name with success. -/
theorem halfImageless_creations_name_images :
    NoImage (some "\t") imageless.summary imageless.snapshot ∧
    ((Cluster.world fun _ => false).run Batch.blankImage.run halfImageless).1 =
      .ok (imagelessLedger "recreated as db") ∧
    (∃ attempts,
      ((Cluster.world fun _ => false).run Batch.blankImage.run halfImageless).2.events =
        attempts ++ [.refreshed] ∧
      Attempts (fun _ item => ImageChecked (some "\t") item.nodeId item.container) 1
        Batch.blankImage.items attempts (imagelessLedger "recreated as db").entries ∧
      CutOnlyByToken (fun _ => false) attempts Batch.blankImage.items.length
        (imagelessLedger "recreated as db")) ∧
    ((Cluster.world fun _ => false).run Migration.sample.run halfImageless).1 =
      .ok (imagelessLedger "created on b... as db-migrated-2; removed from source") ∧
    ∀ node plan,
      Call.create node plan ∈ callsOf
        ((Cluster.world fun _ => false).run Migration.sample.run halfImageless).2.events →
      plan.image ≠ "" ∧ trim plan.image = plan.image := by
  -- Two of the three sources are blank, and one is missing.
  have hnone : NoImage (some "\t") imageless.summary imageless.snapshot :=
    { override := by rintro _ ⟨⟩; decide
      snapshot := nofun
      listed := by decide }
  have hbatch : ((Cluster.world fun _ => false).run Batch.blankImage.run halfImageless).1 =
      .ok (imagelessLedger "recreated as db") := rfl
  have hmigration : ((Cluster.world fun _ => false).run Migration.sample.run halfImageless).1 =
      .ok (imagelessLedger "created on b... as db-migrated-2; removed from source") := rfl
  have hboth := creations_name_images (Cluster.world fun _ => false) halfImageless
  exact ⟨hnone, hbatch, (hboth.1 Batch.blankImage).2 rfl _ hbatch, hmigration,
    (hboth.2 Migration.sample).1⟩

end Flotilla
