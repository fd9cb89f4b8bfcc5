import Flotilla.Inspection
import Flotilla.Proofs.Ports
import Flotilla.Proofs.Text.Search

/-!
# Snapshots Are Canonical

The snapshot that is taken of an inspection has one form, whatever the order is in which the
bindings of ports come: sorting makes equal ports neighbours, so that dropping repeated neighbours
leaves no port twice.

- `Inspection.Before`: the strict order of published ports.
- `Inspection.Canonical`: what a snapshot has to do with the inspection that it is taken of.
- `Inspection.canonical_snapshot`: the main result.
-/

namespace Flotilla.Inspection

open Text

/-! ## §1 Sorting and dropping repetitions -/

section Repeats

variable {α : Type} [DecidableEq α] {le : α → α → Prop} {a : α} {l : List α}

@[simp] theorem mem_dropRepeats : a ∈ dropRepeats l ↔ a ∈ l := by
  fun_induction dropRepeats l with
  | case1 => rfl
  | case2 => rfl
  | case3 b rest ih => simp [ih]
  | case4 b c rest hne ih => simp [ih]

/-- In a sorted list equal elements are neighbours, so dropping repetitions leaves none of them. -/
theorem pairwise_dropRepeats (hanti : ∀ a b, le a b → le b a → a = b) (h : l.Pairwise le) :
    (dropRepeats l).Pairwise fun a b => le a b ∧ a ≠ b := by
  -- By induction along `dropRepeats`, which looks at the first two elements at a time.
  fun_induction dropRepeats l with
  | case1 => exact .nil
  | case2 => exact List.pairwise_singleton ..
  | case3 b rest ih => exact ih h.tail
  | case4 b c rest hne ih =>
    obtain ⟨hfirst, hrest⟩ := List.pairwise_cons.mp h
    refine List.pairwise_cons.mpr ⟨fun d hd => ⟨hfirst d (mem_dropRepeats.mp hd), ?_⟩, ih hrest⟩
    rintro rfl
    -- An equal element further on would be at both sides of the one in between.
    rcases List.mem_cons.mp (mem_dropRepeats.mp hd) with rfl | hmem
    · exact hne rfl
    · exact hne (hanti _ _ (hfirst c (List.mem_cons_self ..))
        ((List.pairwise_cons.mp hrest).1 _ hmem))

end Repeats

/-! ## §2 The order of ports -/

/-- A port comes before another one by its container port, or by its host port where these are the
same. -/
def Before (p q : Port) : Prop :=
  p.container < q.container ∨ p.container = q.container ∧ p.host < q.host

theorem portLe_iff {p q : Port} : portLe p q = true ↔ Before p q ∨ p = q := by
  obtain ⟨host, container⟩ := p
  obtain ⟨host', container'⟩ := q
  -- As numbers this is a matter of linear arithmetic.
  simp only [portLe, Before, Bool.or_eq_true, Bool.and_eq_true, decide_eq_true_eq, Port.mk.injEq,
    UInt16.lt_iff_toNat_lt, UInt16.le_iff_toNat_le, ← UInt16.toNat_inj]
  omega

theorem Before.trans {p q r : Port} (hpq : Before p q) (hqr : Before q r) : Before p r := by
  unfold Before at *
  simp only [UInt16.lt_iff_toNat_lt, ← UInt16.toNat_inj] at *
  omega

theorem Before.asymm {p q : Port} (h : Before p q) : ¬Before q p := by
  unfold Before at *
  simp only [UInt16.lt_iff_toNat_lt, ← UInt16.toNat_inj] at *
  omega

theorem before_or_eq_or_before (p q : Port) : Before p q ∨ p = q ∨ Before q p := by
  obtain ⟨host, container⟩ := p
  obtain ⟨host', container'⟩ := q
  simp only [Before, Port.mk.injEq, UInt16.lt_iff_toNat_lt, ← UInt16.toNat_inj]
  omega

theorem portLe_trans (p q r : Port) (hpq : portLe p q = true) (hqr : portLe q r = true) :
    portLe p r = true := by
  -- Ports that are the same are replaced by one another; what is left is the strict order.
  rw [portLe_iff] at *
  rcases hpq with hpq | rfl
  · rcases hqr with hqr | rfl
    · exact .inl (hpq.trans hqr)
    · exact .inl hpq
  · exact hqr

theorem portLe_total (p q : Port) : (portLe p q || portLe q p) = true := by
  rw [Bool.or_eq_true, portLe_iff, portLe_iff]
  rcases before_or_eq_or_before p q with h | rfl | h
  · exact .inl (.inl h)
  · exact .inl (.inr rfl)
  · exact .inr (.inl h)

theorem portLe_antisymm (p q : Port) (hpq : portLe p q = true) (hqp : portLe q p = true) :
    p = q := by
  rw [portLe_iff] at *
  rcases hpq with hpq | rfl
  · rcases hqp with hqp | rfl
    · exact absurd hqp hpq.asymm
    · rfl
  · rfl

/-! ## §3 The published ports -/

theorem containerPort?_eq_some {key : String} {n : UInt16} :
    containerPort? key = some n ↔
      WritesNumber (trim (String.ofList (key.toList.takeWhile (· ≠ '/')))) n.toNat := by
  -- The first part of a key is what comes before its first slash.
  simp [containerPort?, split, head?_cells, Port.number?_eq_some]

theorem hostPort?_eq_some {bound : Option String} {n : UInt16} :
    hostPort? bound = some n ↔
      ∃ text, bound = some text ∧ trim text ≠ "" ∧ WritesNumber (trim text) n.toNat := by
  simp only [hostPort?, Option.bind_eq_some_iff, nonBlank?_eq_some, Port.number?_eq_some]
  constructor
  · rintro ⟨_, ⟨text, rfl, rfl, hsome⟩, hnumber⟩
    exact ⟨text, rfl, hsome, hnumber⟩
  · rintro ⟨text, rfl, hsome, hnumber⟩
    exact ⟨_, ⟨text, rfl, rfl, hsome⟩, hnumber⟩

theorem mem_portsOf {key : String} {bound : List (Option String)} {p : Port} :
    p ∈ portsOf (key, bound) ↔
      containerPort? key = some p.container ∧ ∃ text ∈ bound, hostPort? text = some p.host := by
  unfold portsOf
  -- A key without a number publishes nothing, and every other key has one number.
  cases containerPort? key with
  | none => simp
  | some container =>
    simp only [List.mem_map, List.mem_filterMap, Option.some.injEq]
    constructor
    · rintro ⟨host, hhost, rfl⟩
      exact ⟨rfl, hhost⟩
    · rintro ⟨rfl, hhost⟩
      exact ⟨p.host, hhost, rfl⟩

/-- The ports are published in strictly increasing order. -/
theorem pairwise_publishedPorts (i : Inspection) : i.publishedPorts.Pairwise Before := by
  -- Sorting leaves only neighbours equal, and these are dropped.
  have hsorted : ((i.bindings.flatMap portsOf).mergeSort portLe).Pairwise
      fun p q => portLe p q = true :=
    List.pairwise_mergeSort portLe_trans portLe_total _
  refine (pairwise_dropRepeats portLe_antisymm hsorted).imp ?_
  rintro p q ⟨hle, hne⟩
  exact (portLe_iff.mp hle).resolve_right hne

/-- The order of the bindings does not show in the published ports. -/
theorem publishedPorts_perm {i j : Inspection} (h : j.bindings.Perm i.bindings) :
    j.publishedPorts = i.publishedPorts := by
  -- The ports of all bindings are the same up to their order, before and after sorting.
  have hperm : ((j.bindings.flatMap portsOf).mergeSort portLe).Perm
      ((i.bindings.flatMap portsOf).mergeSort portLe) :=
    (List.mergeSort_perm _ _).trans ((h.flatMap_right portsOf).trans (List.mergeSort_perm _ _).symm)
  unfold publishedPorts
  -- Both lists are sorted, and no two ports are in the same place of the order.
  rw [hperm.eq_of_pairwise (fun p q _ _ => portLe_antisymm p q)
    (List.pairwise_mergeSort portLe_trans portLe_total _)
    (List.pairwise_mergeSort portLe_trans portLe_total _)]

/-! ## §4 The restart policy -/

/-- The word of a policy is its own usual form, and a policy that is not set counts as `no`. -/
theorem policyWord_eq (i : Inspection) :
    i.policyWord = match i.policy with
      | none | some .unset => "no"
      | some policy => policy.word := by
  unfold policyWord
  -- One case for each policy, as there are finitely many of them.
  cases i.policy with
  | none => rfl
  | some policy => cases policy <;> rfl

theorem policyWord_mem (i : Inspection) :
    i.policyWord ∈ ["no", "always", "on-failure", "unless-stopped"] := by
  rw [policyWord_eq]
  cases i.policy with
  | none => decide
  | some policy => cases policy <;> decide

theorem policyWord_eq_no_iff (i : Inspection) :
    i.policyWord = "no" ↔ i.policy = none ∨ i.policy = some .unset ∨ i.policy = some .no := by
  rw [policyWord_eq]
  cases i.policy with
  | none => decide
  | some policy => cases policy <;> decide

/-! ## §5 The snapshot -/

/-- A snapshot in its only form: the ports in strictly increasing order, with the number before the
first slash of a key and a number that is bound to this key; the name without leading slashes and
the image, unless nothing is left of them; and one of four words as restart policy. -/
structure Canonical (i : Inspection) (s : Snapshot) : Prop where
  increasing : s.ports.Pairwise Before
  published : ∀ p, p ∈ s.ports ↔ ∃ key bound, (key, bound) ∈ i.bindings ∧
    WritesNumber (trim (String.ofList (key.toList.takeWhile (· ≠ '/')))) p.container.toNat ∧
    ∃ text, some text ∈ bound ∧ trim text ≠ "" ∧ WritesNumber (trim text) p.host.toNat
  name : ∀ name, s.name = some name ↔ name ≠ "" ∧ name.toList.head? ≠ some '/' ∧
    ∃ slashes, i.name = some (repeated slashes '/' ++ name)
  image : ∀ image, s.image = some image ↔ i.image = some image ∧ trim image ≠ ""
  policy : s.restartPolicy ∈ ["no", "always", "on-failure", "unless-stopped"]
  restarts : s.restartPolicy = "no" ↔
    i.policy = none ∨ i.policy = some .unset ∨ i.policy = some .no

theorem published_snapshot (i : Inspection) (p : Port) :
    p ∈ i.snapshot.ports ↔ ∃ key bound, (key, bound) ∈ i.bindings ∧
      WritesNumber (trim (String.ofList (key.toList.takeWhile (· ≠ '/')))) p.container.toNat ∧
      ∃ text, some text ∈ bound ∧ trim text ≠ "" ∧ WritesNumber (trim text) p.host.toNat := by
  simp only [snapshot, publishedPorts, mem_dropRepeats, List.mem_mergeSort, List.mem_flatMap,
    Prod.exists, mem_portsOf, containerPort?_eq_some, hostPort?_eq_some]
  -- A binding may be missing its text, and then it has no number either.
  constructor
  · rintro ⟨key, bound, hmem, hcontainer, _, hbound, text, rfl, hsome, hhost⟩
    exact ⟨key, bound, hmem, hcontainer, text, hbound, hsome, hhost⟩
  · rintro ⟨key, bound, hmem, hcontainer, text, hbound, hsome, hhost⟩
    exact ⟨key, bound, hmem, hcontainer, some text, hbound, text, rfl, hsome, hhost⟩

theorem name_snapshot (i : Inspection) (name : String) :
    i.snapshot.name = some name ↔ name ≠ "" ∧ name.toList.head? ≠ some '/' ∧
      ∃ slashes, i.name = some (repeated slashes '/' ++ name) := by
  simp only [snapshot, Option.filter_eq_some_iff, Option.map_eq_some_iff, dropLeading_eq_iff,
    decide_eq_true_eq]
  -- Both sides say the same about the name without its leading slashes, in another order.
  constructor
  · rintro ⟨⟨written, hwritten, hhead, slashes, rfl⟩, hsome⟩
    exact ⟨hsome, hhead, slashes, hwritten⟩
  · rintro ⟨hsome, hhead, slashes, hwritten⟩
    exact ⟨⟨_, hwritten, hhead, slashes, rfl⟩, hsome⟩

theorem image_snapshot (i : Inspection) (image : String) :
    i.snapshot.image = some image ↔ i.image = some image ∧ trim image ≠ "" := by
  simp [snapshot, Option.filter_eq_some_iff]

theorem policy_snapshot (i : Inspection) :
    i.snapshot.restartPolicy ∈ ["no", "always", "on-failure", "unless-stopped"] ∧
      (i.snapshot.restartPolicy = "no" ↔
        i.policy = none ∨ i.policy = some .unset ∨ i.policy = some .no) := by
  have hword : i.snapshot.restartPolicy = i.policyWord := by simp only [snapshot]
  rw [hword]
  exact ⟨policyWord_mem i, policyWord_eq_no_iff i⟩

/-- Main result: a snapshot is canonical, and another order of the bindings leads to the same
one. -/
theorem canonical_snapshot (i : Inspection)
    {bindings : List (String × List (Option String))} (h : bindings.Perm i.bindings) :
    Canonical i i.snapshot ∧ { i with bindings := bindings }.snapshot = i.snapshot := by
  have hports : { i with bindings := bindings }.publishedPorts = i.publishedPorts :=
    publishedPorts_perm h
  refine ⟨?_, ?_⟩
  · exact
      { increasing := pairwise_publishedPorts i
        published := published_snapshot i
        name := name_snapshot i
        image := image_snapshot i
        policy := (policy_snapshot i).1
        restarts := (policy_snapshot i).2 }
  · -- The bindings show in the published ports only.
    simp only [snapshot, hports]
    rfl

/-- An inspection whose keys name one port of the container in three ways, and whose bindings name
one port of the node twice. -/
def sample : Inspection where
  name := some "//web"
  image := some " "
  env := none
  bindings :=
    [("80/udp", [some "80", none]), ("080/tcp", [some "8080", some "x"]),
      ("80", [some " +8080 ", some ""]), ("443", [some "8443"]), ("x/tcp", [some "1"])]
  policy := some .onFailure

theorem snapshot_sample :
    sample.snapshot =
      ⟨some "web", none, [], [⟨80, 80⟩, ⟨8080, 80⟩, ⟨8443, 443⟩], "on-failure"⟩ := by
  -- The bindings name the ports in order already, so that sorting does nothing.
  have hsorted : (sample.bindings.flatMap portsOf).mergeSort portLe =
      sample.bindings.flatMap portsOf := List.mergeSort_of_pairwise (by decide)
  unfold snapshot publishedPorts
  rw [hsorted]
  decide

theorem sample_canonical :
    sample.bindings.reverse.Perm sample.bindings ∧
    Canonical sample ⟨some "web", none, [], [⟨80, 80⟩, ⟨8080, 80⟩, ⟨8443, 443⟩], "on-failure"⟩ ∧
    { sample with bindings := sample.bindings.reverse }.snapshot =
      ⟨some "web", none, [], [⟨80, 80⟩, ⟨8080, 80⟩, ⟨8443, 443⟩], "on-failure"⟩ := by
  have hperm : sample.bindings.reverse.Perm sample.bindings := List.reverse_perm _
  obtain ⟨hcanonical, hsame⟩ := canonical_snapshot sample hperm
  rw [snapshot_sample] at hcanonical
  exact ⟨hperm, hcanonical, hsame.trans snapshot_sample⟩

end Flotilla.Inspection
