import Flotilla.Proofs.Images
import Flotilla.Proofs.Migration.Copies
import Flotilla.Proofs.TextLines

/-!
# Every Field of a Plan Has Its Own Sources

A replacement is planned from what the operator wants changed and from what the container is. Every
field of the plan has an override of its own: where that one is given and not blank it decides, and
otherwise the container does. No field looks at the override of another one.

- `Settles`: what a field comes to.
- `Resolves`: what all fields of a plan come to. A container with an image gets the one plan of this
  kind (`redeployPlan_eq_ok_iff`).
- `PlansFor`: the result and the events of planning, refusals included.
- `AgreesWhereSame`: two plans have the same in every field whose override is the same.
- `fields_resolve_apart`: the main result, in every world.
-/

namespace Flotilla

open Text Remote

/-! ## §1 One field -/

/-- What a field comes to, where `means` says what its override means: that, if the override is
given and not blank, and otherwise the current value. -/
inductive Settles {α : Type} (means : String → α → Prop) (own : Option String) (current : α) :
    α → Prop where
  | overridden {text : String} {value : α} (hgiven : own = some text) (hsome : trim text ≠ "")
      (hmeans : means text value) : Settles means own current value
  | kept (hmissing : Missing own) : Settles means own current current

section Settles

variable {α : Type} {means : String → α → Prop} {own : Option String} {current value : α}

/-- An override that means one thing settles the field. -/
theorem Settles.unique {other : α} (h : Settles means own current value)
    (hother : Settles means own current other)
    (hone : ∀ text v v', means text v → means text v' → v = v') : value = other := by
  -- Whether the override decides is settled by its text, so both are of the same case.
  cases h with
  | overridden hgiven hsome hmeans =>
    cases hother with
    | overridden hgiven' hsome' hmeans' =>
      cases hgiven.symm.trans hgiven'
      exact hone _ _ _ hmeans hmeans'
    | kept hmissing => exact absurd (hmissing _ hgiven) hsome
  | kept hmissing =>
    cases hother with
    | overridden hgiven hsome hmeans => exact absurd (hmissing _ hgiven) hsome
    | kept _ => rfl

/-- An override that is read by a function settles the field, whatever its text is. The function
reads what is left of the text without blanks at its ends. -/
theorem settles_getD {f read : String → α} (hread : ∀ text, read (trim text) = f text) :
    Settles (fun text value => value = f text) own current
      (((own.bind nonBlank?).map read).getD current) := by
  -- What the function reads is the trimmed text, and that is what the override means.
  cases hown : own.bind nonBlank? with
  | none => exact .kept (missing_iff.mpr hown)
  | some kept =>
    obtain ⟨text, hgiven, hkept⟩ := Option.bind_eq_some_iff.mp hown
    obtain ⟨rfl, hsome⟩ := nonBlank?_eq_some.mp hkept
    exact .overridden hgiven hsome (hread text)

end Settles

/-! ## §2 All fields -/

/-- The first text, or the second one where the first is empty. -/
def firstOf (first second : String) : String :=
  if first = "" then second else first

/-- The plan has what the overrides say for its fields and what the container is otherwise. The
image and the name of the container are those of the snapshot, or those of the listing where the
snapshot has none. -/
structure Resolves (o : Overrides) (item : Match) (snapshot : Snapshot) (plan : Plan) : Prop where
  image : Settles (fun text image => image = trim text) o.image
    (firstOf (trim (snapshot.image.getD "")) (trim item.container.image)) plan.image
  name : Settles
    (fun text name => name = resolveName (some text) item.nodeToken item.container
      (currentName item.container snapshot)) o.nameTemplate
    (firstOf (dropLeading '/' (snapshot.name.getD "")) item.container.primaryName) plan.name
  env : Settles (fun text env => env = textLines text) o.envText snapshot.env plan.env
  ports : Settles (fun text ports => readPorts text = .ok ports) o.portsText snapshot.ports
    plan.ports
  autoRestart : plan.autoRestart = o.autoRestart
  restartPolicy : plan.restartPolicy = none

theorem currentName_eq (container : Container) (snapshot : Snapshot) :
    currentName container snapshot =
      firstOf (dropLeading '/' (snapshot.name.getD "")) container.primaryName := by
  unfold currentName Snapshot.canonicalName? firstOf
  cases snapshot.name with
  | none => rfl
  | some name =>
    -- A name that is nothing but slashes counts as none.
    by_cases hname : dropLeading '/' name = "" <;> simp [hname, Option.filter_some]

theorem resolveName_eq_getD (template : Option String) (nodeToken : String)
    (container : Container) (fallback : String) :
    resolveName (template.bind nonBlank?) nodeToken container fallback =
      ((template.bind nonBlank?).map
        fun text => resolveName (some text) nodeToken container fallback).getD fallback := by
  cases template.bind nonBlank? <;> rfl

theorem resolveName_trim (text nodeToken : String) (container : Container) (fallback : String) :
    resolveName (some (trim text)) nodeToken container fallback =
      resolveName (some text) nodeToken container fallback := by
  have hsame : nonBlank? (trim text) = nonBlank? text := by
    unfold nonBlank?
    rw [trim_trim]
  unfold resolveName
  rw [Option.bind_some, Option.bind_some, hsame]

theorem readPorts_trim (text : String) : readPorts (trim text) = readPorts text := by
  unfold readPorts
  rw [textLines_trim]

/-- A blank text of ports is read as no ports. -/
theorem readPorts_of_blank {text : String} (h : trim text = "") : readPorts text = .ok [] := by
  unfold readPorts
  rw [textLines_eq_nil.mpr h]
  rfl

section Overrides

variable {o o' : Overrides} {item : Match} {snapshot : Snapshot} {plan plan' : Plan}
  {changes : Changes}

/-- The text of the ports is rejected. -/
def Overrides.RejectsPorts (o : Overrides) (cause : Invalid) : Prop :=
  ∃ text, o.portsText = some text ∧ readPorts text = .error cause

/-- Overrides are refused exactly for their ports. -/
theorem Overrides.read_eq_invalid {refusal : Refusal} :
    o.read = .error refusal ↔ ∃ cause, refusal = .invalid cause ∧ o.RejectsPorts cause := by
  rw [read_eq_error]
  constructor
  · rintro ⟨kept, line, hkept, hwrong, rfl⟩
    obtain ⟨text, hgiven, hnonBlank⟩ := Option.bind_eq_some_iff.mp hkept
    obtain ⟨rfl, -⟩ := nonBlank?_eq_some.mp hnonBlank
    rw [readPorts_trim] at hwrong
    exact ⟨_, rfl, text, hgiven, hwrong⟩
  · rintro ⟨cause, rfl, text, hgiven, hwrong⟩
    obtain ⟨line, -, rfl⟩ := readPortLines_error hwrong
    -- A blank text is never read, but it would come to no ports and not to a wrong line.
    have hsome : trim text ≠ "" := by
      intro hblank
      rw [readPorts_of_blank hblank] at hwrong
      cases hwrong
    refine ⟨trim text, line, ?_, by rwa [readPorts_trim], rfl⟩
    rw [hgiven, Option.bind_some, nonBlank?_eq_some]
    exact ⟨rfl, hsome⟩

/-- The ports are changed by a text that is given and not blank, to what that text names. -/
theorem Overrides.ports_eq_some (hread : o.read = .ok changes) {ports : List Port} :
    changes.ports = some ports ↔
      ∃ text, o.portsText = some text ∧ trim text ≠ "" ∧ readPorts text = .ok ports := by
  unfold read at hread
  -- The text is read trimmed, where it is not blank, and otherwise nothing is changed.
  cases hkept : o.portsText.bind nonBlank? with
  | none =>
    simp only [hkept] at hread
    cases hread
    refine ⟨nofun, ?_⟩
    rintro ⟨text, hgiven, hsome, -⟩
    exact absurd (missing_iff.mpr hkept text hgiven) hsome
  | some kept =>
    obtain ⟨text, hgiven, hnonBlank⟩ := Option.bind_eq_some_iff.mp hkept
    obtain ⟨rfl, hsome⟩ := nonBlank?_eq_some.mp hnonBlank
    cases hports : readPorts (trim text) with
    | error cause => simp [hkept, hports] at hread
    | ok named =>
      simp only [hkept, hports] at hread
      cases hread
      rw [readPorts_trim] at hports
      simp [hgiven, hsome, hports]

/-- The ports are kept where their text is missing. -/
theorem Overrides.ports_eq_none (hread : o.read = .ok changes) :
    changes.ports = none ↔ Missing o.portsText := by
  constructor
  · intro hnone text hgiven
    by_contra hsome
    -- The text was accepted, so there are ports to change to.
    cases hports : readPorts text with
    | error cause =>
      have hrefused : o.read = .error (.invalid cause) :=
        read_eq_invalid.mpr ⟨cause, rfl, text, hgiven, hports⟩
      rw [hread] at hrefused
      cases hrefused
    | ok ports =>
      rw [(ports_eq_some hread).mpr ⟨text, hgiven, hsome, hports⟩] at hnone
      cases hnone
  · intro hmissing
    cases hports : changes.ports with
    | none => rfl
    | some ports =>
      obtain ⟨text, hgiven, hsome, -⟩ := (ports_eq_some hread).mp hports
      exact absurd (hmissing text hgiven) hsome

/-- The ports that overrides come to. -/
theorem Overrides.settles_ports (hread : o.read = .ok changes) (current : List Port) :
    Settles (fun text ports => readPorts text = .ok ports) o.portsText current
      (changes.ports.getD current) := by
  cases hports : changes.ports with
  | none => exact .kept ((ports_eq_none hread).mp hports)
  | some ports =>
    obtain ⟨text, hgiven, hsome, hnamed⟩ := (ports_eq_some hread).mp hports
    exact .overridden hgiven hsome hnamed

/-- The plan that is validated has its fields from their sources. -/
theorem resolves_of_redeployPlan (hread : o.read = .ok changes)
    (hplan : redeployPlan item snapshot changes = .ok plan) : Resolves o item snapshot plan := by
  obtain ⟨himage, htemplate, henv, hrestart⟩ := Overrides.read_eq_ok hread
  unfold redeployPlan at hplan
  -- The plan is the one that was validated; what is left are its fields, one by one.
  rw [(Plan.validated_eq_ok.mp hplan).1]
  refine ⟨?_, ?_, ?_, Overrides.settles_ports hread snapshot.ports, hrestart, rfl⟩
  · -- The sources of the image are chained in another order: first among both current ones.
    have hcurrent := currentImage?_eq ⟨item.container, snapshot⟩
    have hsource : (changes.image <|> currentImage? item.container snapshot).getD "" =
        ((o.image.bind nonBlank?).map id).getD
          ((currentImage? item.container snapshot).getD "") := by
      rw [himage]
      cases o.image.bind nonBlank? <;> rfl
    simp only [hsource]
    rw [hcurrent]
    exact settles_getD fun _ => rfl
  · simp only [htemplate]
    rw [resolveName_eq_getD, ← currentName_eq]
    exact settles_getD fun text => resolveName_trim text _ _ _
  · simp only [henv]
    exact settles_getD textLines_trim

/-- The fields that two overrides have in common are the same in both plans. -/
structure AgreesWhereSame (o o' : Overrides) (plan plan' : Plan) : Prop where
  image : o.image = o'.image → plan.image = plan'.image
  name : o.nameTemplate = o'.nameTemplate → plan.name = plan'.name
  env : o.envText = o'.envText → plan.env = plan'.env
  ports : o.portsText = o'.portsText → plan.ports = plan'.ports
  autoRestart : o.autoRestart = o'.autoRestart → plan.autoRestart = plan'.autoRestart
  restartPolicy : plan.restartPolicy = plan'.restartPolicy

theorem Resolves.agrees (h : Resolves o item snapshot plan) (h' : Resolves o' item snapshot plan') :
    AgreesWhereSame o o' plan plan' where
  image := by
    intro hsame
    exact h.image.unique (hsame ▸ h'.image) fun _ _ _ hv hv' => hv.trans hv'.symm
  name := by
    intro hsame
    exact h.name.unique (hsame ▸ h'.name) fun _ _ _ hv hv' => hv.trans hv'.symm
  env := by
    intro hsame
    exact h.env.unique (hsame ▸ h'.env) fun _ _ _ hv hv' => hv.trans hv'.symm
  ports := by
    intro hsame
    exact h.ports.unique (hsame ▸ h'.ports) fun _ _ _ hv hv' =>
      Except.ok.inj (hv.symm.trans hv')
  autoRestart := by
    intro hsame
    rw [h.autoRestart, h'.autoRestart, hsame]
  restartPolicy := h.restartPolicy.trans h'.restartPolicy.symm

theorem Resolves.unique (h : Resolves o item snapshot plan) (h' : Resolves o item snapshot plan') :
    plan = plan' := by
  -- Overrides agree with themselves in every field.
  have hsame := h.agrees h'
  cases plan
  cases plan'
  simp only [Plan.mk.injEq]
  exact ⟨hsame.image rfl, hsame.name rfl, hsame.ports rfl, hsame.env rfl, hsame.autoRestart rfl,
    hsame.restartPolicy⟩

/-- Planning refuses exactly the containers without an image. -/
theorem redeployPlan_eq_error (hread : o.read = .ok changes) {refusal : Refusal} :
    redeployPlan item snapshot changes = .error refusal ↔
      refusal = .invalid .imageRequired ∧ NoImage o.image item.container snapshot := by
  constructor
  · intro h
    unfold redeployPlan at h
    obtain ⟨rfl, hblank⟩ := Plan.validated_eq_error.mp h
    have hsource : trim (sourcedImage o.image item.container snapshot) = "" := by
      rw [sourcedImage, ← (Overrides.read_eq_ok hread).1]
      exact hblank
    rw [trim_sourcedImage] at hsource
    exact ⟨rfl, noImage_of_sourcedImage hsource⟩
  · rintro ⟨rfl, hnone⟩
    exact (checksImage_redeployPlan hread).refused hnone

/-- A container with an image gets the plan that has its fields from their sources. -/
theorem redeployPlan_eq_ok_iff (hread : o.read = .ok changes) :
    redeployPlan item snapshot changes = .ok plan ↔
      ¬NoImage o.image item.container snapshot ∧ Resolves o item snapshot plan := by
  constructor
  · intro hplan
    refine ⟨fun hnone => ?_, resolves_of_redeployPlan hread hplan⟩
    rw [(redeployPlan_eq_error hread).mpr ⟨rfl, hnone⟩] at hplan
    cases hplan
  · rintro ⟨himage, hresolves⟩
    -- Planning has one plan of this kind, and every other one with these fields is the same.
    cases hplanned : redeployPlan item snapshot changes with
    | error refusal => exact absurd ((redeployPlan_eq_error hread).mp hplanned).2 himage
    | ok planned => rw [hresolves.unique (resolves_of_redeployPlan hread hplanned)]

end Overrides

/-! ## §3 Planning in a world -/

section Worlds

variable {σ : Type} {w : World σ} {o : Overrides} {item : Match} {s : σ} {changes : Changes}

theorem run_planRedeploy_refused {refusal : Refusal} (hread : o.read = .error refusal) :
    w.run (planRedeploy item o) s = (.error refusal, ⟨s, []⟩) := by
  unfold planRedeploy World.run
  rw [hread]
  rfl

/-- The plan from what comes back for the inspection. -/
def planFrom (item : Match) (changes : Changes) : Except Fault Snapshot → Except Refusal Plan
  | .error fault => .error (.unreachable item.nodeName fault)
  | .ok snapshot => redeployPlan item snapshot changes

/-- Where the overrides are read there is one call, and its reply decides. -/
theorem run_planRedeploy (w : World σ) (item : Match) (s : σ) {reply : Except Fault Snapshot}
    (hread : o.read = .ok changes)
    (hreply : (w.reply (.inspect item.nodeId item.container.id) s).1 = reply) :
    (w.run (planRedeploy item o) s).1 = planFrom item changes reply ∧
      (w.run (planRedeploy item o) s).2.events =
        [.exchange (.inspect item.nodeId item.container.id) reply] := by
  unfold planRedeploy planChanges World.run
  simp only [hread]
  rw [World.run_call]
  simp only [hreply]
  cases reply with
  | error fault => simp [planFrom]
  | ok snapshot => simp [planFrom]

/-- What planning a replacement comes to, where `reply` is what the world replies to the inspection:
wrong ports are refused before any call; otherwise the container is inspected and nothing else
happens. Where the inspection fails the node is unreachable, where no source names an image the
image is missed, and in all other cases every field of the plan has its own source. -/
structure PlansFor (item : Match) (o : Overrides) (reply : Except Fault Snapshot)
    (result : Except Refusal Plan) (events : List Event) : Prop where
  refused : ∀ cause, result = .error (.invalid cause) ∧ events = [] ↔ o.RejectsPorts cause
  asked : (∀ cause, ¬o.RejectsPorts cause) →
    events = [.exchange (.inspect item.nodeId item.container.id) reply]
  unreachable : ∀ fault, result = .error (.unreachable item.nodeName fault) ↔
    events = [.exchange (.inspect item.nodeId item.container.id) (.error fault)]
  imageless : result = .error (.invalid .imageRequired) ↔
    ∃ snapshot, events = [.exchange (.inspect item.nodeId item.container.id) (.ok snapshot)] ∧
      NoImage o.image item.container snapshot
  planned : ∀ plan, result = .ok plan ↔
    ∃ snapshot, events = [.exchange (.inspect item.nodeId item.container.id) (.ok snapshot)] ∧
      ¬NoImage o.image item.container snapshot ∧ Resolves o item snapshot plan

theorem plansFor_refused {cause : Invalid} (hrejects : o.RejectsPorts cause)
    (reply : Except Fault Snapshot) : PlansFor item o reply (.error (.invalid cause)) [] where
  refused := by
    intro other
    constructor
    · rintro ⟨⟨⟩, -⟩
      exact hrejects
    · -- There is one text, and it is rejected for one cause.
      rintro ⟨text, hgiven, hwrong⟩
      obtain ⟨text', hgiven', hwrong'⟩ := hrejects
      cases hgiven.symm.trans hgiven'
      cases hwrong.symm.trans hwrong'
      exact ⟨rfl, rfl⟩
  asked := fun hnone => absurd hrejects (hnone cause)
  unreachable := by simp
  imageless := by
    obtain ⟨text, -, hwrong⟩ := hrejects
    obtain ⟨line, -, rfl⟩ := readPortLines_error hwrong
    simp
  planned := by simp

theorem plansFor_asked (hread : o.read = .ok changes) (reply : Except Fault Snapshot) :
    PlansFor item o reply (planFrom item changes reply)
      [.exchange (.inspect item.nodeId item.container.id) reply] where
  refused := by
    intro cause
    -- The overrides were read, so no text of theirs is rejected.
    refine ⟨by simp, fun hrejects => ?_⟩
    have hrefused := Overrides.read_eq_invalid.mpr ⟨cause, rfl, hrejects⟩
    rw [hread] at hrefused
    cases hrefused
  asked := fun _ => rfl
  unreachable := by
    intro fault
    cases reply with
    | error other => simp [planFrom]
    | ok snapshot =>
      -- Planning itself is refused for a missing image and for nothing else.
      have hmade : redeployPlan item snapshot changes ≠ .error (.unreachable item.nodeName fault) :=
        fun h => nomatch redeployPlan_error h
      simp [planFrom, hmade]
  imageless := by
    cases reply with
    | error other => simp [planFrom]
    | ok snapshot => simp [planFrom, redeployPlan_eq_error hread]
  planned := by
    intro plan
    cases reply with
    | error other => simp [planFrom]
    | ok snapshot => simp [planFrom, redeployPlan_eq_ok_iff hread]

/-- A plan is made from the snapshot that the world replies with. -/
theorem PlansFor.source {reply : Except Fault Snapshot} {result : Except Refusal Plan}
    {events : List Event} {plan : Plan} (h : PlansFor item o reply result events)
    (hplan : result = .ok plan) :
    ∃ snapshot, reply = .ok snapshot ∧ Resolves o item snapshot plan := by
  obtain ⟨snapshot, hevents, -, hresolves⟩ := (h.planned plan).mp hplan
  have hasked := h.asked ?_
  · rw [hasked] at hevents
    simp only [List.cons.injEq, Event.exchange.injEq, heq_eq_eq, true_and, and_true] at hevents
    exact ⟨snapshot, hevents, hresolves⟩
  -- Wrong ports are refused without a call.
  · intro cause hrejects
    have hrefused := ((h.refused cause).mpr hrejects).1
    rw [hplan] at hrefused
    cases hrefused

/-- **Every field of a plan has its own sources**: in every world and from every state, planning a
replacement comes to what `PlansFor` says, whatever the overrides are. So the plans from two
overrides, each made from that state, have the same in every field whose override is the same. -/
theorem fields_resolve_apart (w : World σ) (item : Match) (s : σ) :
    (∀ o, PlansFor item o (w.reply (.inspect item.nodeId item.container.id) s).1
      (w.run (planRedeploy item o) s).1 (w.run (planRedeploy item o) s).2.events) ∧
    ∀ o o' plan plan', (w.run (planRedeploy item o) s).1 = .ok plan →
      (w.run (planRedeploy item o') s).1 = .ok plan' → AgreesWhereSame o o' plan plan' := by
  -- Whether there is a call at all is decided by the overrides.
  have hplans : ∀ o, PlansFor item o (w.reply (.inspect item.nodeId item.container.id) s).1
      (w.run (planRedeploy item o) s).1 (w.run (planRedeploy item o) s).2.events := by
    intro o
    cases hread : o.read with
    | error refusal =>
      obtain ⟨cause, rfl, hrejects⟩ := Overrides.read_eq_invalid.mp hread
      rw [run_planRedeploy_refused hread]
      exact plansFor_refused hrejects _
    | ok changes =>
      obtain ⟨hresult, hevents⟩ := run_planRedeploy w item s hread rfl
      rw [hresult, hevents]
      exact plansFor_asked hread _
  refine ⟨hplans, fun o o' plan plan' hplan hplan' => ?_⟩
  obtain ⟨snapshot, hsnapshot, hresolves⟩ := (hplans o).source hplan
  obtain ⟨snapshot', hsnapshot', hresolves'⟩ := (hplans o').source hplan'
  -- Both plans are made from the reply to the same call.
  cases hsnapshot.symm.trans hsnapshot'
  exact hresolves.agrees hresolves'

end Worlds

/-- The first container of the sample cluster. -/
def Match.sample : Match :=
  ⟨"a", "a...", "a", (Cluster.sampleHeld "1" "web").summary⟩

/-- A new image and new ports, in texts with blanks at their ends. -/
def Overrides.sample : Overrides :=
  { Overrides.keep with image := some " redis\t", portsText := some "\n9000 : 80\n" }

/-- The same without the image. -/
def Overrides.sampleImageless : Overrides :=
  { Overrides.sample with image := some " " }

/-- What these overrides come to for that container, with some image. -/
def Plan.sample (image : String) : Plan :=
  ⟨image, "web", [⟨9000, 80⟩], ["MODE=test"], true, none⟩

/-- Without the image among the overrides it is that of the container, and nothing else changes. -/
theorem sample_fields_resolve_apart :
    ((Cluster.world fun _ => false).run (planRedeploy .sample .sample) Cluster.sample).1 =
      .ok (Plan.sample "redis") ∧
    ((Cluster.world fun _ => false).run (planRedeploy .sample .sampleImageless)
      Cluster.sample).1 = .ok (Plan.sample "nginx:1") ∧
    AgreesWhereSame .sample .sampleImageless (Plan.sample "redis") (Plan.sample "nginx:1") := by
  have hsample : ((Cluster.world fun _ => false).run (planRedeploy .sample .sample)
      Cluster.sample).1 = .ok (Plan.sample "redis") := rfl
  have hother : ((Cluster.world fun _ => false).run (planRedeploy .sample .sampleImageless)
      Cluster.sample).1 = .ok (Plan.sample "nginx:1") := rfl
  exact ⟨hsample, hother, (fields_resolve_apart _ .sample _).2 _ _ _ _ hsample hother⟩

end Flotilla
