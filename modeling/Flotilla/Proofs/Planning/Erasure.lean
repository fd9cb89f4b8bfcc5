import Flotilla.Proofs.Planning.Fields
import Flotilla.Proofs.Ports

/-!
# Which Overrides Erase

An override replaces the environment or the ports of a container as a whole, so one that comes to
nothing would take all of them away. A text of the environment that is not blank has a line, and
every line is an entry. A text of ports that is not blank has a line as well, but a line that lacks
one side names no ports and is dropped: a text of nothing but such lines is accepted, and it
publishes nothing.

- `Overrides.ErasesPorts`: the text of the ports is such a text.
- `Erases`: what an empty environment and empty ports of a plan come from.
- `overrides_erase_iff`: the main result, for plans and for the batches of every world.
-/

namespace Flotilla

open Text Remote

/-! ## §1 Texts that come to nothing -/

/-- No line of the text has something on both sides of its first colon, up to the second one. -/
def NamesNoPorts (text : String) : Prop :=
  ∀ line ∈ textLines text, LacksSide (withoutSurplus line)

theorem portLine_none {line : String} : PortLine line none ↔ LacksSide line := by
  constructor
  · rintro (hlacks | _)
    exact hlacks
  · exact .incomplete

/-- Lines come to no ports exactly if each of them names none. -/
theorem readPortLines_eq_nil {lines : List String} :
    readPortLines lines = .ok [] ↔ ∀ line ∈ lines, readPortLine line = .ok none := by
  -- By induction on the lines: one that names ports adds to the list, and a wrong one leaves no
  -- list at all.
  induction lines with
  | nil => simp [readPortLines]
  | cons line rest ih =>
    rw [List.forall_mem_cons, ← ih, readPortLines]
    cases readPortLine line with
    | error cause => simp
    | ok port =>
      cases readPortLines rest with
      | error cause => simp
      | ok ports => cases port <;> simp

theorem readPorts_eq_nil {text : String} : readPorts text = .ok [] ↔ NamesNoPorts text := by
  unfold readPorts NamesNoPorts
  simp only [readPortLines_eq_nil, readPortLine_eq_ok, ReadAs, portLine_none]

/-- Such a text may well have lines. -/
example : readPorts ":80\n8080:\nhttp" = .ok [] := by decide

/-- The text of the ports is not blank and names no ports. -/
def Overrides.ErasesPorts (o : Overrides) : Prop :=
  ∃ text, o.portsText = some text ∧ trim text ≠ "" ∧ NamesNoPorts text

section Changes

variable {o : Overrides} {changes : Changes}

/-- Overrides are accepted with ports that are none exactly if their text erases the ports. -/
theorem Overrides.ports_eq_nil (hread : o.read = .ok changes) :
    changes.ports = some [] ↔ o.ErasesPorts := by
  rw [ports_eq_some hread]
  simp only [ErasesPorts, readPorts_eq_nil]

theorem Overrides.ErasesPorts.accepted (h : o.ErasesPorts) :
    ∃ changes, o.read = .ok changes ∧ changes.ports = some [] := by
  obtain ⟨text, hgiven, hsome, hnone⟩ := h
  -- Overrides are refused for a wrong line only, and such a text has none.
  cases hread : o.read with
  | error refusal =>
    obtain ⟨cause, -, other, hother, hwrong⟩ := read_eq_invalid.mp hread
    cases hgiven.symm.trans hother
    rw [readPorts_eq_nil.mpr hnone] at hwrong
    cases hwrong
  | ok changes => exact ⟨changes, rfl, (ports_eq_nil hread).mpr ⟨text, hgiven, hsome, hnone⟩⟩

/-- An environment that is changed has entries. -/
theorem Overrides.env_ne_nil (hread : o.read = .ok changes) : changes.env ≠ some [] := by
  rw [(read_eq_ok hread).2.2.1]
  intro hnone
  obtain ⟨text, hkept, hentries⟩ := Option.map_eq_some_iff.mp hnone
  -- A text without lines is blank, and blank texts change nothing.
  have hblank : trim text = "" := textLines_eq_nil.mp hentries
  rw [trim_of_nonBlank hkept] at hblank
  exact ne_empty_of_nonBlank hkept hblank

theorem Overrides.env_eq_none (hread : o.read = .ok changes) :
    changes.env = none ↔ Missing o.envText := by
  rw [(read_eq_ok hread).2.2.1, Option.map_eq_none_iff, missing_iff]

/-- What is changed to is there, so only what is kept may be empty. -/
theorem getD_eq_nil {α : Type} {given : Option (List α)} {current : List α}
    (h : given ≠ some []) : given.getD current = [] ↔ current = [] ∧ given = none := by
  cases given with
  | none => simp
  | some value => simpa using h

end Changes

/-! ## §2 Plans -/

/-- The environment of the plan is empty only where it was. Its ports are where they were, or where
the text of the ports erases them. -/
structure Erases (o : Overrides) (snapshot : Snapshot) (plan : Plan) : Prop where
  env : plan.env = [] ↔ snapshot.env = [] ∧ Missing o.envText
  ports : plan.ports = [] ↔ snapshot.ports = [] ∧ Missing o.portsText ∨ o.ErasesPorts

theorem erases_of_redeployPlan {o : Overrides} {changes : Changes} {item : Match}
    {snapshot : Snapshot} {plan : Plan} (hread : o.read = .ok changes)
    (hplan : redeployPlan item snapshot changes = .ok plan) : Erases o snapshot plan := by
  unfold redeployPlan at hplan
  -- The plan is the one that was validated, so both fields are those of the changes, if there are
  -- any.
  rw [(Plan.validated_eq_ok.mp hplan).1]
  constructor
  · rw [← Overrides.env_eq_none hread]
    exact getD_eq_nil (Overrides.env_ne_nil hread)
  · rw [← Overrides.ports_eq_none hread, ← Overrides.ports_eq_nil hread]
    cases changes.ports with
    | none => simp
    | some ports => simp

/-! ## §3 Batches -/

/-- What is created for a match was planned from the inspection that comes before it, and its
environment and ports are empty only as `Erases` says. -/
def CreationsErase (o : Overrides) (item : Match) (block : List Event) : Prop :=
  ∀ node plan, Call.create node plan ∈ callsOf block →
    ∃ snapshot rest, block =
        .exchange (.inspect item.nodeId item.container.id) (.ok snapshot) :: rest ∧
      Erases o snapshot plan

theorem Batch.RedeployLog.creationsErase {o : Overrides} {changes : Changes} {item : Match}
    {block : List Event} {outcome : Outcome} (hread : o.read = .ok changes)
    (h : RedeployLog item changes block outcome) : CreationsErase o item block := by
  intro node plan hcall
  -- Only the last two histories have a creation, and in both the plan is from the inspection.
  cases h with
  | notInspected fault => simp at hcall
  | notPlanned hrefused => simp at hcall
  | notDeleted hplan stopped fault => simp at hcall
  | notRecreated hplan stopped fault =>
    obtain ⟨-, rfl⟩ : node = item.nodeId ∧ plan = _ := by simpa using hcall
    exact ⟨_, _, rfl, erases_of_redeployPlan hread hplan⟩
  | redeployed hplan stopped =>
    obtain ⟨-, rfl⟩ : node = item.nodeId ∧ plan = _ := by simpa using hcall
    exact ⟨_, _, rfl, erases_of_redeployPlan hread hplan⟩

/-- **Which overrides erase.** They are accepted with an empty list of ports exactly if the text of
the ports is not blank and names no ports, and never with an empty environment. So in the plans that
are made from accepted overrides the environment is empty only where the snapshot has none, and the
ports are empty only where the snapshot has none or where that text erases them. In every world and
from every state, the same holds of every container that a batch asks a node to create, and only the
token keeps the batch from attempting all its matches. -/
theorem overrides_erase_iff (o : Overrides) :
    ((∃ changes, o.read = .ok changes ∧ changes.ports = some []) ↔ o.ErasesPorts) ∧
    (∀ changes, o.read = .ok changes → changes.env ≠ some [] ∧
      ∀ item snapshot plan, redeployPlan item snapshot changes = .ok plan →
        Erases o snapshot plan) ∧
    ∀ (σ : Type) (w : World σ) (s : σ) (items : List Match) (ledger : Ledger),
      (w.run (Batch.mk items .redeploy (some o)).run s).1 = .ok ledger →
        ∃ attempts,
          (w.run (Batch.mk items .redeploy (some o)).run s).2.events = attempts ++ [.refreshed] ∧
          Attempts (fun _ item block _ => CreationsErase o item block) 1 items attempts
            ledger.entries ∧
          CutOnlyByToken w.cancelled attempts items.length ledger := by
  -- First what the overrides come to, then the plans, and last the batches of all worlds.
  refine ⟨⟨?_, Overrides.ErasesPorts.accepted⟩, fun changes hread => ⟨?_, ?_⟩, ?_⟩
  · rintro ⟨changes, hread, hports⟩
    exact (Overrides.ports_eq_nil hread).mp hports
  · exact Overrides.env_ne_nil hread
  · exact fun item snapshot plan hplan => erases_of_redeployPlan hread hplan
  · intro σ w s items ledger hledger
    -- A redeployment of a batch is one of its histories, whoever answers the calls.
    exact Batch.run_redeployments rfl hledger fun _ hread _ _ _ hlog =>
      Batch.RedeployLog.creationsErase hread hlog

/-- Two lines that lack a side, as the whole text of the ports. -/
def Overrides.sampleErasing : Overrides :=
  { Overrides.keep with envText := some "B=2", portsText := some ":80\n8080:" }

/-- The ledger of a batch that redeploys the sample with them. -/
def Overrides.erasingLedger : Ledger where
  entries := [⟨⟨"a", "1"⟩, true, "a...", "1", "web", "recreated as web", .completed⟩]
  startedAt := ⟨0, 0⟩
  finishedAt := some ⟨0, 0⟩
  cancelled := false

/-- The container that published a port is created anew without it. -/
theorem sample_overrides_erase :
    Overrides.sampleErasing.ErasesPorts ∧
    (∃ changes, Overrides.sampleErasing.read = .ok changes ∧ changes.ports = some []) ∧
    redeployPlan .sample (Cluster.sampleHeld "1" "web").snapshot
        ⟨none, none, some ["B=2"], some [], true⟩ =
      .ok ⟨"nginx:1", "web", [], ["B=2"], true, none⟩ ∧
    Erases .sampleErasing (Cluster.sampleHeld "1" "web").snapshot
      ⟨"nginx:1", "web", [], ["B=2"], true, none⟩ ∧
    ((Cluster.world fun _ => false).run
      (Batch.mk [.sample] .redeploy (some .sampleErasing)).run Cluster.sample).1 =
        .ok Overrides.erasingLedger ∧
    ∃ attempts,
      ((Cluster.world fun _ => false).run
        (Batch.mk [.sample] .redeploy (some .sampleErasing)).run Cluster.sample).2.events =
          attempts ++ [.refreshed] ∧
      Attempts (fun _ item block _ => CreationsErase .sampleErasing item block) 1 [.sample] attempts
        Overrides.erasingLedger.entries ∧
      CutOnlyByToken (fun _ => false) attempts 1 Overrides.erasingLedger := by
  have hread : Overrides.sampleErasing.read = .ok ⟨none, none, some ["B=2"], some [], true⟩ := rfl
  -- The plan loses the port and has the new environment.
  have hplan : redeployPlan .sample (Cluster.sampleHeld "1" "web").snapshot
      ⟨none, none, some ["B=2"], some [], true⟩ =
        .ok ⟨"nginx:1", "web", [], ["B=2"], true, none⟩ := rfl
  have haccepted : ∃ changes, Overrides.sampleErasing.read = .ok changes ∧
      changes.ports = some [] := ⟨_, hread, rfl⟩
  obtain ⟨herases, hplans, hruns⟩ := overrides_erase_iff .sampleErasing
  have hledger : ((Cluster.world fun _ => false).run
      (Batch.mk [.sample] .redeploy (some .sampleErasing)).run Cluster.sample).1 =
        .ok Overrides.erasingLedger := rfl
  exact ⟨herases.mp haccepted, haccepted, hplan, (hplans _ hread).2 _ _ _ hplan,
    hledger, hruns _ _ _ _ _ hledger⟩

end Flotilla
