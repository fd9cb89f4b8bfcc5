import Flotilla.Proofs.Batch.Census
import Flotilla.Proofs.Batch.Redeployment
import Flotilla.Proofs.Images

/-!
# Redeploying Again Changes Nothing

A redeployment reads what a container is, and what it creates is read by the next one. On the way
the name gets a slash in the listing and none in the configuration, or it is missing in both; the
image stands in both; the restart policy is made from a flag. What comes back is the plan: a name
without slashes at its beginning and a trimmed image are what they are the second time.

- `redeployPlan_build`: the plan for what was built from a plan is that plan.
- `recreated_of_run`: what a completed redeployment of one match has done.
- `redeploying_again_changes_nothing`: the main result, for plans and for runs.
-/

namespace Flotilla.Batch

open Cluster Text

/-! ## §1 The plan for what was built -/

section Plans

variable {item : Match} {snapshot : Snapshot} {changes : Changes} {plan : Plan}

/-- Without a template a plan has the current name, which no slash leads. -/
theorem dropLeading_name_of_redeployPlan (htemplate : Missing changes.nameTemplate)
    (hplan : redeployPlan item snapshot changes = .ok plan) :
    dropLeading '/' plan.name = plan.name := by
  unfold redeployPlan at hplan
  have hname : plan.name = (Held.mk item.container snapshot).name := by
    rw [(Plan.validated_eq_ok.mp hplan).1]
    unfold resolveName
    rw [missing_iff.mp htemplate]
    rfl
  rw [hname, Held.dropLeading_name]

/-- Where no image is asked for, a plan has the current one, which has been trimmed. -/
theorem trim_image_of_redeployPlan (himage : changes.image = none)
    (hplan : redeployPlan item snapshot changes = .ok plan) : trim plan.image = plan.image := by
  unfold redeployPlan at hplan
  have hcurrent : plan.image = (Held.mk item.container snapshot).effectiveImage := by
    rw [(Plan.validated_eq_ok.mp hplan).1, himage]
    exact currentImage?_eq ⟨item.container, snapshot⟩
  rw [hcurrent, Held.trim_effectiveImage]

/-- The current name of what was built is that of the plan. -/
theorem currentName_build (number : Nat) (hplain : dropLeading '/' plan.name = plan.name) :
    currentName (build plan number).summary (build plan number).snapshot = plan.name := by
  have hlisted := (primaryName_build plan number).trans hplain
  have hown := canonicalName?_build number hplain
  exact (Held.name_eq_primaryName (hown.trans hlisted.symm)).trans hlisted

/-- What was changed to once is what it is changed to again. -/
theorem getD_getD {α : Type} (given : Option α) (current : α) :
    given.getD (given.getD current) = given.getD current := by
  cases given <;> rfl

/-- The plan for what was built from a plan is that plan, with the same changes. -/
theorem redeployPlan_build (htemplate : Missing changes.nameTemplate)
    (hplan : redeployPlan item snapshot changes = .ok plan) (number : Nat) :
    redeployPlan { item with container := (build plan number).summary }
      (build plan number).snapshot changes = .ok plan := by
  obtain ⟨hmade, hblank⟩ := Plan.validated_eq_ok.mp hplan
  -- A plan is only given with an image that is not blank, so this one can be given again.
  have hsome : trim plan.image ≠ "" := by
    rw [hmade]
    exact hblank
  -- An image that is asked for is asked for again; another one is read off the configuration, which
  -- holds the image of the plan.
  have himage : (changes.image <|> currentImage? (build plan number).summary
      (build plan number).snapshot).getD "" = plan.image := by
    cases hchanged : changes.image with
    | some image => simp [hmade, hchanged]
    | none =>
      rw [Option.orElse_eq_orElse, Option.orElse_eq_or, Option.none_or]
      have htrim := trim_image_of_redeployPlan hchanged hplan
      exact (currentImage?_eq _).trans (effectiveImage_build number (htrim ▸ hsome) htrim)
  have hname : resolveName changes.nameTemplate item.nodeToken (build plan number).summary
      (currentName (build plan number).summary (build plan number).snapshot) = plan.name := by
    unfold resolveName
    rw [missing_iff.mp htemplate]
    exact currentName_build number (dropLeading_name_of_redeployPlan htemplate hplan)
  -- Environment and ports are those of the plan whether they are changed or kept.
  have henv : changes.env.getD (build plan number).snapshot.env = plan.env := by
    show changes.env.getD plan.env = plan.env
    rw [congrArg Plan.env hmade, getD_getD]
  have hports : changes.ports.getD (build plan number).snapshot.ports = plan.ports := by
    show changes.ports.getD plan.ports = plan.ports
    rw [congrArg Plan.ports hmade, getD_getD]
  have hrestart : plan.autoRestart = changes.autoRestart := congrArg Plan.autoRestart hmade
  have hpolicy : plan.restartPolicy = none := congrArg Plan.restartPolicy hmade
  unfold redeployPlan
  dsimp only
  rw [himage, hname, henv, hports, ← hrestart, ← hpolicy, Plan.validated_eq_ok]
  exact ⟨rfl, hsome⟩

end Plans

/-! ## §2 A run over one match -/

section Runs

variable {item : Match} {overrides : Option Overrides} {changes : Changes} {plan : Plan}
  {k : Cluster} {ledger : Ledger} {last : Run Cluster}

/-- A batch over one match whose entry is completed has made the container of that match anew. -/
theorem recreated_of_run {cancelled : List Event → Bool}
    (hrun : (world cancelled).run (Batch.mk [item] .redeploy overrides).run k = (.ok ledger, last))
    (hstages : ledger.entries.map (·.stage) = [.completed]) :
    ∃ changes plan number, (overrides.getD .keep).read = .ok changes ∧
      Recreated changes item plan number k.held last.state.held := by
  obtain ⟨job, hjob⟩ := job_of_run_ok (congrArg Prod.fst hrun)
  obtain ⟨changes, rfl, hread⟩ := job_eq_redeploy rfl hjob
  -- What is followed through the run is only what a completed entry has done; the other entries are
  -- never looked at, since there is one.
  obtain ⟨found, after, done, hfound, hsteps⟩ := run_oneByOne
    (fun _ item entry held last => entry.stage = .completed →
      ∃ plan number, Recreated changes item plan number held last)
    (fun index item entry events nodes held last hyields heffects hstage => by
      obtain ⟨outcome, hperform, rfl⟩ := yields_attempt hyields
      obtain ⟨plan, number, -, hmade⟩ :=
        RedeployLog.replaced (yields_perform hperform) heffects hstage
      exact ⟨plan, number, hmade⟩)
    k cancelled hjob
  rw [hrun] at hfound
  cases hfound
  -- There is one entry, so the match was attempted and nothing else was.
  obtain ⟨entry, hentries, hstage⟩ := List.map_eq_singleton_iff.mp hstages
  rw [hentries] at hsteps
  cases done with
  | zero => cases hsteps
  | succ done =>
    rw [List.take_succ_cons, List.take_nil] at hsteps
    cases hsteps with
    | cons first others =>
      cases others
      obtain ⟨plan, number, hmade⟩ := first hstage
      exact ⟨changes, plan, number, hread, hmade⟩

/-- Where no rule lets a call fail and nobody cancels, the container of a match that has a plan is
made anew if the name of the plan is free without it. -/
theorem run_completed {list : List Held} {h : Held} (hk : k.rules = [])
    (hhost : k.host? item.nodeId = some list)
    (hfound : list.find? (·.summary.id = item.container.id) = some h)
    (hplan : redeployPlan item h.snapshot changes = .ok plan)
    (hfree : isTaken plan.name (removeFirst item.container.id list) = false)
    (hread : (overrides.getD .keep).read = .ok changes) :
    ∃ ledger last,
      (world fun _ => false).run (Batch.mk [item] .redeploy overrides).run k =
        (.ok ledger, last) ∧
      ledger.entries.map (·.stage) = [.completed] := by
  have hjob : (Batch.mk [item] .redeploy overrides).job = .ok (.redeploy changes) :=
    job_redeploy (by simp) (by simp) hread
  obtain ⟨done, ledger, last, hstops, hrun, hended⟩ :=
    (world fun _ => false).run_attemptAll (attempt (.redeploy changes)) [item] ⟨k, []⟩
  -- The token never fires, so the loop has gone to its end.
  cases hstops.eq_total
  obtain ⟨number, after, events, hredeploy, -, -⟩ :=
    run_redeploy hk hhost hfound hplan hfree (fun _ => false) []
  refine ⟨ledger, last, by rw [World.run, run_eq_attemptAll hjob]; exact hrun, ?_⟩
  -- The entry is that of the redeployment, which `run_redeploy` follows call by call.
  have hentry : ((attempt (.redeploy changes) 1 item).run (world fun _ => false).answer
      ⟨k, []⟩).1.stage = .completed := by
    unfold attempt perform
    rw [Program.bind_eq, Program.run_bind, hredeploy]
    rfl
  rw [hended.entries, List.take_length, World.attempted_cons, World.attempted_nil, List.map_cons,
    hentry, List.map_nil]

end Runs

/-! ## §3 Twice -/

/-- The container with another id. -/
def withId (id : String) (h : Held) : Held :=
  { h with summary := { h.summary with id := id } }

/-- What stands behind the others on the node of a match, and is what the match means, stays as it
is but for its id when it is redeployed: whenever that completes, and where no rule lets a call fail
and nobody cancels it does. -/
structure Settled (overrides : Option Overrides) (item : Match) (kept : List Held) (new : Held)
    (k : Cluster) : Prop where
  same : ∀ cancelled ledger last,
    (world cancelled).run (Batch.mk [item] .redeploy overrides).run k = (.ok ledger, last) →
      ledger.entries.map (·.stage) = [.completed] →
        ∃ id, last.state.held = Function.update k.held item.nodeId (kept ++ [withId id new])
  completes : k.rules = [] → ∃ ledger last,
    (world fun _ => false).run (Batch.mk [item] .redeploy overrides).run k = (.ok ledger, last) ∧
      ledger.entries.map (·.stage) = [.completed]

section Twice

variable {item : Match} {overrides : Option Overrides} {changes : Changes} {plan : Plan}
  {before : Holdings} {k : Cluster} {number : Nat}

theorem Recreated.settled (hmade : Recreated changes item plan number before k.held)
    (hread : (overrides.getD .keep).read = .ok changes) (htemplate : Missing changes.nameTemplate)
    (hnew : ∀ h ∈ removeFirst item.container.id (before item.nodeId),
      h.summary.id ≠ (build plan number).summary.id) :
    Settled overrides { item with container := (build plan number).summary }
      (removeFirst item.container.id (before item.nodeId)) (build plan number) k := by
  obtain ⟨h, -, hplan⟩ := hmade.planned
  have hagain := redeployPlan_build htemplate hplan number
  -- The new container comes last on the node, so it is found by its id exactly if no other one has
  -- that id, and taking it away leaves the others as they were.
  have hhere : k.held item.nodeId =
      removeFirst item.container.id (before item.nodeId) ++ [build plan number] := by
    rw [hmade.last, Function.update_self]
  have hfound := find?_append_new hnew
  have hkept := removeFirst_append_new hnew
  constructor
  · intro cancelled ledger last hrun hstages
    obtain ⟨_, planAgain, numberAgain, hreadAgain, hmadeAgain⟩ := recreated_of_run hrun hstages
    cases hread.symm.trans hreadAgain
    -- The match means what was made, and that has the same plan.
    obtain ⟨found, hthere, hplanAgain⟩ := hmadeAgain.planned
    dsimp only at hthere
    rw [hhere, hfound] at hthere
    cases hthere
    cases hagain.symm.trans hplanAgain
    -- Built from the same plan, the two containers differ in the number that their id is made of.
    refine ⟨(build plan numberAgain).summary.id, ?_⟩
    rw [hmadeAgain.last]
    dsimp only
    rw [hhere, hkept]
    rfl
  · intro hrules
    -- For the second part the node has to be known to the cluster: it holds the new container.
    have hhost : k.host? item.nodeId =
        some (removeFirst item.container.id (before item.nodeId) ++ [build plan number]) := by
      rw [← hhere]
      exact host?_of_mem_held (show build plan number ∈ k.held item.nodeId by simp [hhere])
    exact run_completed hrules hhost hfound hagain (by rw [hkept]; exact hmade.free) hread

end Twice

/-- **Redeploying again changes nothing** where no name is asked for. A container that the cluster
creates from a plan, for any match, snapshot and changes, has that plan again with the same changes.
So where the redeployment of a match was completed, whatever calls fail before, there is one new
container behind the others that were kept; and if its id is new among them, redeploying that one
with the same overrides leaves the same containers but for an id. -/
theorem redeploying_again_changes_nothing :
    (∀ item snapshot changes plan, Missing changes.nameTemplate →
      redeployPlan item snapshot changes = .ok plan →
        ∀ k k', reply (.create item.nodeId plan) k = (.ok (), k') →
          ∃ new, k'.held = Function.update k.held item.nodeId (k.held item.nodeId ++ [new]) ∧
            redeployPlan { item with container := new.summary } new.snapshot changes =
              .ok plan) ∧
    ∀ item overrides, Missing (Option.getD overrides Overrides.keep).nameTemplate →
      ∀ cancelled k ledger last,
        (world cancelled).run (Batch.mk [item] .redeploy overrides).run k = (.ok ledger, last) →
        ledger.entries.map (·.stage) = [.completed] →
          ∃ kept new, kept = removeFirst item.container.id (k.held item.nodeId) ∧
            last.state.held = Function.update k.held item.nodeId (kept ++ [new]) ∧
            ((∀ h ∈ kept, h.summary.id ≠ new.summary.id) →
              Settled overrides { item with container := new.summary } kept new last.state) := by
  refine ⟨?_, ?_⟩
  · intro item snapshot changes plan htemplate hplan k k' hreply
    rcases reply_create k item.nodeId plan with ⟨fault, hfault, -⟩ | ⟨-, -, number, hheld⟩
    · rw [hreply] at hfault
      cases hfault
    · rw [hreply] at hheld
      exact ⟨build plan number, hheld, redeployPlan_build htemplate hplan number⟩
  · intro item overrides htemplate cancelled k ledger last hrun hstages
    obtain ⟨changes, plan, number, hread, hmade⟩ := recreated_of_run hrun hstages
    -- Overrides without a template are read as changes without one.
    have hnone : changes.nameTemplate = none := by
      rw [(Overrides.read_eq_ok hread).2.1]
      exact missing_iff.mp htemplate
    have hmissing : Missing changes.nameTemplate := by
      rw [hnone]
      exact nofun
    exact ⟨_, _, rfl, hmade.last, hmade.settled hread hmissing⟩

/-- A container whose names begin with slashes, with blanks around its image. -/
def slashed : Held where
  summary := ⟨"1", "nginx", ["//web"], "Up", "running"⟩
  snapshot := ⟨some "//web", some " nginx:1\n", ["MODE=test"], [⟨8080, 80⟩], "always"⟩

/-- One node without rules, where this container comes first. -/
def slashedCluster : Cluster :=
  { Cluster.sample with hosts := [("a", [slashed, sampleHeld "2" "db"])], rules := [] }

def slashedMatch : Match :=
  ⟨"a", "a...", "a", slashed.summary⟩

/-- The plan for this container, where nothing is changed. -/
def slashedPlan : Plan :=
  ⟨"nginx:1", "web", [⟨8080, 80⟩], ["MODE=test"], true, none⟩

/-- The container that is created from the plan has the plan again, and redeploying it again leaves
it behind the other one. -/
theorem slashed_redeploying_again_changes_nothing :
    Missing Overrides.keep.nameTemplate ∧
    redeployPlan slashedMatch slashed.snapshot ⟨none, none, none, none, true⟩ = .ok slashedPlan ∧
    (∃ k' new, reply (.create "a" slashedPlan) { slashedCluster with hosts := [("a", [])] } =
        (.ok (), k') ∧ k'.held "a" = [new] ∧
      redeployPlan { slashedMatch with container := new.summary } new.snapshot
        ⟨none, none, none, none, true⟩ = .ok slashedPlan) ∧
    ∃ ledger last,
      (world fun _ => false).run (Batch.mk [slashedMatch] .redeploy none).run slashedCluster =
        (.ok ledger, last) ∧
      ledger.entries.map (·.stage) = [.completed] ∧
      last.state.held "a" = [sampleHeld "2" "db", build slashedPlan 1] ∧
      Settled none { slashedMatch with container := (build slashedPlan 1).summary }
        [sampleHeld "2" "db"] (build slashedPlan 1) last.state := by
  have hmissing : Missing Overrides.keep.nameTemplate := nofun
  have hplan : redeployPlan slashedMatch slashed.snapshot ⟨none, none, none, none, true⟩ =
      .ok slashedPlan := rfl
  obtain ⟨hplans, hruns⟩ := redeploying_again_changes_nothing
  obtain ⟨new, hheld, hagain⟩ := hplans slashedMatch slashed.snapshot
    ⟨none, none, none, none, true⟩ slashedPlan nofun hplan
    { slashedCluster with hosts := [("a", [])] } _ rfl
  obtain ⟨ledger, last, hrun, hstages, hlast⟩ : ∃ ledger last,
      (world fun _ => false).run (Batch.mk [slashedMatch] .redeploy none).run slashedCluster =
        (.ok ledger, last) ∧
      ledger.entries.map (·.stage) = [.completed] ∧
      last.state.held "a" = [sampleHeld "2" "db", build slashedPlan 1] :=
    ⟨_, _, rfl, rfl, rfl⟩
  obtain ⟨kept, made, hkept, hmade, hsettled⟩ :=
    hruns slashedMatch none hmissing _ _ _ _ hrun hstages
  have hbefore : kept = [sampleHeld "2" "db"] := hkept
  subst hbefore
  -- What stands behind the other container is the new one.
  have hnew : made = build slashedPlan 1 := by
    have hsame := congrFun hmade "a"
    rw [hlast] at hsame
    simpa [slashedMatch] using hsame.symm
  subst hnew
  exact ⟨hmissing, hplan, ⟨_, new, rfl, congrFun hheld "a", hagain⟩, ledger, last, hrun, hstages,
    hlast, hsettled (by decide)⟩

end Flotilla.Batch
