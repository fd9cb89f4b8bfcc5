import Flotilla.CommandLine.Command
import Flotilla.Proofs.Batch.Refused
import Flotilla.Proofs.Cluster.Calls
import Flotilla.Proofs.TextLines

/-!
# Environment Values of a Redeployment

An operator gives the environment of new containers value by value. The values are written into one
text, a line for each, and this text is read line by line again. So it is the lines of the values
that become the entries, and a value is one entry exactly if it is one line: a line feed inside of a
value makes several entries of it.

- `BulkOrder.nonBlank?_textOf`: values that are not blank are a text that is not blank.
- `BulkOrder.env_of_redeployment`: the main result.
-/

namespace Flotilla

theorem redeployPlan_eq_ok {item : Match} {snapshot : Snapshot} {changes : Changes} {plan : Plan}
    (h : redeployPlan item snapshot changes = .ok plan) :
    plan.env = changes.env.getD snapshot.env := by
  unfold redeployPlan at h
  rw [(Plan.validated_eq_ok.mp h).1]

namespace BulkOrder

/-- Values that are not blank are written into a text that has their lines. -/
theorem nonBlank?_textOf {values : List String} (hsome : values ≠ [])
    (hblank : ∀ v ∈ values, Text.trim v ≠ "") :
    (textOf values).bind Text.nonBlank? = some (Text.trim (Text.join "\n" values)) := by
  have htext : textOf values = some (Text.join "\n" values) := by
    simp [textOf, hsome]
  rw [htext, Option.bind_some, Text.nonBlank?_eq_some]
  refine ⟨rfl, fun hnone => ?_⟩
  -- A blank text has no lines, but every value has some.
  rw [← textLines_eq_nil, textLines_join, List.flatMap_eq_nil_iff] at hnone
  obtain ⟨v, hv⟩ := List.exists_mem_of_ne_nil values hsome
  exact hblank v hv (textLines_eq_nil.mp (hnone v hv))

/-- The values of an order, after its overrides were read. -/
theorem env_of_read {o : BulkOrder} {overrides : Overrides} {changes : Changes}
    (hoverrides : o.overrides = some overrides) (hread : overrides.read = .ok changes)
    (hsome : o.env ≠ []) (hblank : ∀ v ∈ o.env, Text.trim v ≠ "") :
    changes.env = some (o.env.flatMap textLines) := by
  -- Only an order to redeploy has overrides, and their text is made of the values.
  have htext : overrides.envText = textOf o.env := by
    unfold BulkOrder.overrides at hoverrides
    split at hoverrides
    · cases hoverrides
      rfl
    · cases hoverrides
  rw [(Overrides.read_eq_ok hread).2.2.1, htext, nonBlank?_textOf hsome hblank, Option.map_some,
    readEnv, textLines_trim, textLines_join]

/-- **The entries of a new container's environment are the lines of the values**, for every order to
redeploy whose values are not blank, and for every container that it is planned to replace: value by
value, in the order of the values, trimmed and without blank lines. They are the values themselves,
blanks at the ends aside, exactly if no value has a line feed between characters that are not
blank. -/
theorem env_of_redeployment {o : BulkOrder} {items : List Match} {changes : Changes}
    (hjob : (Batch.mk items o.action o.overrides).job = .ok (.redeploy changes))
    (hsome : o.env ≠ []) (hblank : ∀ v ∈ o.env, Text.trim v ≠ "") {item : Match}
    {snapshot : Snapshot} {plan : Plan} (hplan : redeployPlan item snapshot changes = .ok plan) :
    plan.env = o.env.flatMap textLines ∧
    (plan.env.map Text.trim = o.env.map Text.trim ↔
      ∀ v ∈ o.env, '\n' ∉ (Text.trim v).toList) := by
  obtain ⟨haction, hread⟩ := Batch.read_of_job hjob
  obtain ⟨overrides, hoverrides⟩ : ∃ overrides, o.overrides = some overrides := by
    simp [BulkOrder.overrides, show o.action = .redeploy from haction]
  have henv : plan.env = o.env.flatMap textLines := by
    rw [hoverrides, Option.getD_some] at hread
    rw [redeployPlan_eq_ok hplan, env_of_read hoverrides hread hsome hblank, Option.getD_some]
  -- Lines have been trimmed, so trimming the entries changes nothing.
  have htrimmed : plan.env.map Text.trim = plan.env := by
    have hlines : ∀ line ∈ plan.env, Text.trim line = id line := by
      intro line hline
      rw [henv] at hline
      obtain ⟨v, -, hmem⟩ := List.mem_flatMap.mp hline
      exact trim_of_mem_textLines hmem
    rw [List.map_congr_left hlines, List.map_id]
  refine ⟨henv, ?_⟩
  rw [htrimmed, henv]
  constructor
  · intro hsame v hv hfeed
    -- The value would be a line itself.
    have hmem : Text.trim v ∈ o.env.flatMap textLines := hsame ▸ List.mem_map_of_mem hv
    obtain ⟨_, -, hline⟩ := List.mem_flatMap.mp hmem
    exact not_mem_of_mem_textLines hline hfeed
  · intro hnone
    rw [List.map_eq_flatMap]
    exact List.flatMap_congr fun v hv => (textLines_eq_singleton (hblank v hv)).mpr (hnone v hv)

/-- An order to redeploy with three values, one of which has two lines. -/
def sample : BulkOrder where
  target := ⟨[], false, ""⟩
  action := .redeploy
  image := none
  nameTemplate := none
  env := [" MODE=test", "KEY=begin\r\n end\n", "HTTP_PROXY"]
  ports := []
  autoRestart := true
  agreed := true

/-- What the overrides of the sample order come to. -/
def sampleChanges : Changes :=
  ⟨none, none, some ["MODE=test", "KEY=begin", "end", "HTTP_PROXY"], none, true⟩

/-- A match of the sample cluster. -/
def sampleItem : Match :=
  ⟨"a", "a...", "a", (Cluster.sampleHeld "1" "web").summary⟩

/-- The plan for this match. -/
def samplePlan : Plan :=
  ⟨"nginx:1", "web", [⟨8080, 80⟩], ["MODE=test", "KEY=begin", "end", "HTTP_PROXY"], true, none⟩

/-- The value that has two lines becomes two entries. -/
theorem sample_env_of_redeployment :
    (Batch.mk [sampleItem] sample.action sample.overrides).job = .ok (.redeploy sampleChanges) ∧
    sample.env ≠ [] ∧ (∀ v ∈ sample.env, Text.trim v ≠ "") ∧
    redeployPlan sampleItem (Cluster.sampleHeld "1" "web").snapshot sampleChanges =
      .ok samplePlan ∧
    samplePlan.env = sample.env.flatMap textLines ∧
    (samplePlan.env.map Text.trim = sample.env.map Text.trim ↔
      ∀ v ∈ sample.env, '\n' ∉ (Text.trim v).toList) ∧
    samplePlan.env.map Text.trim ≠ sample.env.map Text.trim := by
  have hjob : (Batch.mk [sampleItem] sample.action sample.overrides).job =
      .ok (.redeploy sampleChanges) := rfl
  have hsome : sample.env ≠ [] := by decide
  have hblank : ∀ v ∈ sample.env, Text.trim v ≠ "" := by decide
  have hplan : redeployPlan sampleItem (Cluster.sampleHeld "1" "web").snapshot sampleChanges =
      .ok samplePlan := rfl
  obtain ⟨hlines, hvalues⟩ := env_of_redeployment hjob hsome hblank hplan
  exact ⟨hjob, hsome, hblank, hplan, hlines, hvalues, by decide⟩

end BulkOrder

end Flotilla
