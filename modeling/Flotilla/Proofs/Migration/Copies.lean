import Flotilla.Cluster.Basic
import Flotilla.Migration
import Flotilla.Proofs.Planning
import Flotilla.Proofs.Text.Blank
import Flotilla.Proofs.Text.Search

/-!
# Copies of Containers

What it means that a container is a copy of another one, and that the plan of a migration makes
one when the cluster carries it out. The restart policy goes through a plan in two parts, a flag
and an optional policy, and comes out as it was, whatever its text is.
-/

namespace Flotilla

/-- The image that a container runs: the trimmed one of its configuration, or the trimmed one of
its entry in the listing where the former is blank. -/
def Held.effectiveImage (h : Held) : String :=
  if Text.trim (h.snapshot.image.getD "") = "" then Text.trim h.summary.image
  else Text.trim (h.snapshot.image.getD "")

def Held.name (h : Held) : String :=
  currentName h.summary h.snapshot

/-- The effective image has been trimmed. -/
theorem Held.trim_effectiveImage (h : Held) : Text.trim h.effectiveImage = h.effectiveImage := by
  unfold Held.effectiveImage
  split <;> exact Text.trim_trim _

/-- The name of a container has no slash at its beginning. -/
theorem Held.dropLeading_name (h : Held) : Text.dropLeading '/' h.name = h.name := by
  -- The name in the listing loses its slashes when it is shown, the one in the configuration when
  -- it is read.
  have hshown : Text.dropLeading '/' h.summary.primaryName = h.summary.primaryName := by
    unfold Container.primaryName
    cases h.summary.names.head? with
    | none => rfl
    | some name => simp
  unfold Held.name currentName
  cases hname : h.snapshot.canonicalName? with
  | none => exact hshown
  | some name =>
    unfold Snapshot.canonicalName? at hname
    obtain ⟨written, -, rfl⟩ := Option.map_eq_some_iff.mp (Option.filter_eq_some_iff.mp hname).1
    simp

/-- A configuration that says the same name as the entry says the current one. -/
theorem Held.name_eq_primaryName {h : Held}
    (halike : h.snapshot.canonicalName?.getD "" = h.summary.primaryName) :
    h.name = h.summary.primaryName := by
  unfold Held.name currentName
  cases hname : h.snapshot.canonicalName? with
  | none => rfl
  | some name =>
    rw [hname] at halike
    exact halike

/-- What is built from a plan runs the image of the plan, if that has been trimmed and is there. -/
theorem effectiveImage_build {plan : Plan} (number : Nat) (hsome : plan.image ≠ "")
    (htrim : Text.trim plan.image = plan.image) :
    (Cluster.build plan number).effectiveImage = plan.image := by
  have hblank : Text.trim plan.image ≠ "" := by rwa [htrim]
  exact (if_neg hblank).trans htrim

/-- A name as a configuration holds it. -/
def writtenName (name : String) : Option String :=
  if name = "" then none else some name

/-- The configuration of a copy under some name. -/
def copySnapshot (original : Held) (name : String) : Snapshot where
  name := writtenName name
  image := some original.effectiveImage
  env := original.snapshot.env
  ports := original.snapshot.ports
  restartPolicy := original.snapshot.restartPolicy

/-- A copy of the container at a position of the listing: it has the same environment, ports and
restart policy, the effective image, and the current name, perhaps with a suffix that holds the
position. -/
structure CopyOf (original : Held) (index : Nat) (copy : Held) : Prop where
  env : copy.snapshot.env = original.snapshot.env
  ports : copy.snapshot.ports = original.snapshot.ports
  restartPolicy : copy.snapshot.restartPolicy = original.snapshot.restartPolicy
  image : copy.snapshot.image = some original.effectiveImage
  name : copy.snapshot.name = writtenName original.name ∨
    copy.snapshot.name = some (original.name ++ "-migrated-" ++ Text.decimal index)

/-! ## Plans of copies -/

theorem trim_empty : Text.trim "" = "" := rfl

theorem currentImage?_eq (h : Held) :
    (currentImage? h.summary h.snapshot).getD "" = h.effectiveImage := by
  unfold currentImage? Snapshot.image? Held.effectiveImage
  -- An image that is missing counts as a blank one.
  cases himage : h.snapshot.image with
  | none =>
    rw [Option.getD_none, trim_empty, if_pos rfl]
    by_cases hlisted : Text.trim h.summary.image = "" <;> simp [Text.nonBlank?, hlisted]
  | some image =>
    rw [Option.getD_some]
    -- The image of the configuration counts unless it is blank; then that of the listing does.
    by_cases hown : Text.trim image = ""
    · rw [if_pos hown]
      by_cases hlisted : Text.trim h.summary.image = "" <;>
        simp [Text.nonBlank?, hown, hlisted]
    · simp [Text.nonBlank?, hown]

/-- The plan that makes the container again. -/
def Held.plan (h : Held) : Plan where
  image := h.effectiveImage
  name := h.name
  ports := h.snapshot.ports
  env := h.snapshot.env
  autoRestart := h.snapshot.restarts
  restartPolicy := if h.snapshot.restarts then some h.snapshot.restartPolicy else none

theorem migrationPlan_eq_ok {h : Held} {plan : Plan}
    (hplan : migrationPlan h.summary h.snapshot = .ok plan) : plan = h.plan := by
  unfold migrationPlan at hplan
  have heq := (Plan.validated_eq_ok.mp hplan).1
  rw [currentImage?_eq] at heq
  exact heq

/-- A container with an image can be planned again. -/
theorem migrationPlan_eq {h : Held} (himage : h.effectiveImage ≠ "") :
    migrationPlan h.summary h.snapshot = .ok h.plan := by
  unfold migrationPlan
  rw [currentImage?_eq, Plan.validated_eq_ok]
  exact ⟨rfl, by rwa [h.trim_effectiveImage]⟩

/-- A policy survives the flag and the optional text of a plan. -/
theorem policyOf_migrationPlan {h : Held} {plan : Plan}
    (hplan : migrationPlan h.summary h.snapshot = .ok plan) :
    Cluster.policyOf plan = h.snapshot.restartPolicy := by
  rw [migrationPlan_eq_ok hplan]
  unfold Cluster.policyOf Held.plan Snapshot.restarts
  -- Without a policy the flag decides, and it is not set exactly where the policy is `no`.
  by_cases hpolicy : h.snapshot.restartPolicy = noRestart
  · simp [hpolicy]
  · simp [hpolicy]

/-- Carrying out the plan, under any name, gives the configuration of a copy. -/
theorem snapshot_build_renamed {h : Held} {plan : Plan} (name : String) (number : Nat)
    (hplan : migrationPlan h.summary h.snapshot = .ok plan) :
    (Cluster.build (plan.renamed name) number).snapshot = copySnapshot h name := by
  -- Another name changes nothing about the policy.
  have hpolicy : Cluster.policyOf (plan.renamed name) = Cluster.policyOf plan := rfl
  rw [policyOf_migrationPlan hplan] at hpolicy
  simp only [Cluster.build, hpolicy]
  rw [migrationPlan_eq_ok hplan]
  rfl

theorem copyOf_of_snapshot {h copy : Held} {index : Nat} {name : String}
    (hcopy : copy.snapshot = copySnapshot h name)
    (hname : writtenName name = writtenName h.name ∨
      writtenName name = some (h.name ++ "-migrated-" ++ Text.decimal index)) :
    CopyOf h index copy where
  env := by rw [hcopy]; rfl
  ports := by rw [hcopy]; rfl
  restartPolicy := by rw [hcopy]; rfl
  image := by rw [hcopy]; rfl
  name := by rw [hcopy]; exact hname

theorem name_migrationPlan {h : Held} {plan : Plan}
    (hplan : migrationPlan h.summary h.snapshot = .ok plan) : plan.name = h.name := by
  rw [migrationPlan_eq_ok hplan, Held.plan]

/-- Carrying out the plan makes a copy under the current name. -/
theorem copyOf_build {h : Held} {plan : Plan} (index number : Nat)
    (hplan : migrationPlan h.summary h.snapshot = .ok plan) :
    CopyOf h index (Cluster.build plan number) :=
  copyOf_of_snapshot (snapshot_build_renamed plan.name number hplan)
    (.inl (congrArg writtenName (name_migrationPlan hplan)))

theorem retryName_ne_empty (name : String) (index : Nat) :
    Migration.retryName name index ≠ "" := by
  intro hempty
  -- The suffix alone has a length.
  have hlength := congrArg String.length hempty
  simp [Migration.retryName] at hlength

/-- Carrying out the plan under the other name makes a copy as well. -/
theorem copyOf_build_renamed {h : Held} {plan : Plan} (index number : Nat)
    (hplan : migrationPlan h.summary h.snapshot = .ok plan) :
    CopyOf h index
      (Cluster.build (plan.renamed (Migration.retryName plan.name index)) number) := by
  refine copyOf_of_snapshot (snapshot_build_renamed _ number hplan) (.inr ?_)
  rw [name_migrationPlan hplan]
  exact if_neg (retryName_ne_empty h.name index)

end Flotilla
