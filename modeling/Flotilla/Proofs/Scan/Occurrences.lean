import Flotilla.Proofs.Scan.Filtering
import Flotilla.Proofs.Text.Blank
import Flotilla.Proofs.Text.Sigma

/-!
# Filters That Occur in a Container

An operator types a part of a text that a container shows, and expects to find the container. The
filter and the texts are lowered apart from each other, the filter on its own and the texts as one.
So what is found depends on the filter alone: a capital sigma whose form it does not decide itself
can have the other form inside of a text. Every other filter finds each container that holds it.

- `Container.Holds`: a text occurs in one of the texts of the container, as it is.
- `Container.forall_satisfies_iff`: the texts that every container with them satisfies.
- `FindsHolders`: a filter finds each container that holds it.
- `finds_holders_iff`: the main result.
-/

namespace Flotilla

theorem Text.contains_join {sep s : String} {texts : List String} (h : s ∈ texts) :
    contains (join sep texts) s = true := by
  rw [contains_iff_isInfix]
  -- By the cases of the definition: no text, one text, and a text before others.
  induction texts using join.induct with
  | case1 => cases h
  | case2 only =>
    rw [List.mem_singleton.mp h]
    exact List.infix_refl _
  | case3 first second rest ih =>
    rw [join, String.toList_append, String.toList_append]
    rcases List.mem_cons.mp h with rfl | hlater
    · exact ((List.prefix_append ..).trans (List.prefix_append ..)).isInfix
    · exact (ih hlater).trans (List.suffix_append ..).isInfix

namespace Container

variable {c : Container} {text : String}

/-- The text occurs, as it is, in the id, the image, the status, the state or a name. -/
def Holds (c : Container) (text : String) : Prop :=
  ∃ shown ∈ c.id :: c.image :: c.status :: c.state :: c.names, Text.contains shown text = true

instance (c : Container) (text : String) : Decidable (c.Holds text) :=
  inferInstanceAs (Decidable (∃ shown ∈ _, _))

/-- What a container holds occurs in the text that filters are compared with. -/
theorem Holds.contains_searchText (h : c.Holds text) :
    Text.contains c.searchText text = true := by
  obtain ⟨shown, hshown, hocc⟩ := h
  by_cases hblank : text = ""
  · rw [hblank, Text.contains_iff_isInfix]
    exact List.nil_infix
  -- A name is a part of the joined names; the other texts are parts themselves.
  obtain ⟨part, hpart, hinside⟩ : ∃ part ∈
      [c.id, c.image, c.status, c.state, Text.join " " c.names],
      Text.contains part text = true := by
    by_cases hname : shown ∈ c.names
    · exact ⟨Text.join " " c.names, by simp, Text.contains_trans (Text.contains_join hname) hocc⟩
    · refine ⟨shown, ?_, hocc⟩
      simp only [List.mem_cons, hname, or_false] at hshown
      simp only [List.mem_cons, List.not_mem_nil, or_false]
      tauto
  -- A part in which something occurs is not empty, so it is not left out.
  have hsome : part ≠ "" := by
    rintro rfl
    rw [Text.contains_iff_isInfix] at hinside
    exact hblank (String.toList_injective (List.eq_nil_of_infix_nil hinside))
  have hkept : part ∈ [c.id, c.image, c.status, c.state, Text.join " " c.names].filter (· ≠ "") :=
    List.mem_filter.mpr ⟨hpart, decide_eq_true hsome⟩
  exact Text.contains_trans (Text.contains_join hkept) hinside

/-- A container that has nothing but an id is searched for in this id. -/
theorem searchText_of_id (id : String) : (Container.mk id "" [] "" "").searchText = id := by
  unfold searchText
  by_cases hid : id = "" <;> simp [hid, Text.join]

/-- Each container that holds a text satisfies its lowercase form exactly if the text decides about
its sigmas. -/
theorem forall_satisfies_iff (text : String) :
    (∀ c : Container, c.Holds text → c.satisfies (Text.lowercase text) = true) ↔
      Text.SigmasSettled text := by
  constructor
  · intro hall
    -- For one direction it is enough to look at containers that have nothing but an id.
    rw [Text.sigmasSettled_iff]
    intro hay hocc
    have hfound := hall ⟨hay, "", [], "", ""⟩ ⟨hay, List.mem_cons_self .., hocc⟩
    rwa [satisfies_iff, searchText_of_id] at hfound
  · intro hsettled c hholds
    exact satisfies_iff.mpr (hsettled.contains_lowercase hholds.contains_searchText)

end Container

/-- A filter finds each container that holds it without the blanks around it. The container
satisfies the query for the filter, so that a scan whose listings all succeed, where the listing of
each node is given, has a match for it; this match shows the container itself, unless the node lists
another one with its id. -/
structure FindsHolders (filter : String) : Prop where
  satisfies : ∀ c : Container, c.Holds (Text.trim filter) →
    c.satisfies (Text.lowercase (Text.trim filter)) = true
  scanned : ∀ {σ : Type} (w : World σ) (s : σ) (nodes : List Node)
    (listing : String → List Container),
    (∀ id reply, Event.exchange (.list id) reply ∈ (w.run (scan nodes filter) s).2.events →
      reply = .ok (listing id)) →
    ∀ node ∈ nodes, ∀ c ∈ listing node.id, c.Holds (Text.trim filter) →
      ∃ found, (w.run (scan nodes filter) s).1 = .ok found ∧
        ∃ m ∈ found, m.key = ⟨node.id, c.id⟩ ∧
          ((∀ d ∈ listing node.id, d.id = c.id → d = c) → m.container = c)

/-- What satisfies the query for a filter is among the matches of a scan. -/
theorem Scan.exists_match {σ : Type} {w : World σ} {s : σ} {nodes : List Node} {filter : String}
    {listing : String → List Container}
    (hlisted : ∀ id reply,
      Event.exchange (.list id) reply ∈ (w.run (scan nodes filter) s).2.events →
        reply = .ok (listing id))
    {node : Node} (hnode : node ∈ nodes) {c : Container} (hc : c ∈ listing node.id)
    (hsatisfies : c.satisfies (query filter) = true) :
    ∃ found, (w.run (scan nodes filter) s).1 = .ok found ∧
      ∃ m ∈ found, m.key = ⟨node.id, c.id⟩ ∧
        ((∀ d ∈ listing node.id, d.id = c.id → d = c) → m.container = c) := by
  obtain ⟨listed, hhistory, hresult⟩ :=
    yields_scan (List.ne_nil_of_mem hnode) (w.run_yields (scan nodes filter) s)
  obtain ⟨rfl, -⟩ := hhistory.eq_listings hlisted
  have hfinds := finds_collect nodes listing filter
  refine ⟨_, hresult, ?_⟩
  -- What is found has a match with the key of the container, as it satisfies the query.
  obtain ⟨m, hm, hkey⟩ := List.mem_map.mp
    ((hfinds.keys node.id c.id).mpr ⟨⟨node, hnode, rfl⟩, c, hc, rfl, hsatisfies⟩)
  refine ⟨m, hm, hkey, fun honly => ?_⟩
  -- The match shows a container of the node that has the id, and there is no other one.
  have hshown := List.mem_of_find?_eq_some (hfinds.firsts m hm).2
  obtain ⟨hnodeId, hid⟩ : m.nodeId = node.id ∧ m.container.id = c.id := by
    simpa [Match.key] using hkey
  rw [hnodeId] at hshown
  exact honly _ hshown hid

/-- **A filter finds each container that holds it** exactly if it decides itself about the form of
each capital sigma in it: characters that are not ignorable stand on both sides of the sigma, or an
uncased one before it, or a cased one after it, in the filter without the blanks around it. So a
filter without capital sigmas finds all of them, and any filter that leaves a form open misses
some. -/
theorem finds_holders_iff (filter : String) :
    (FindsHolders filter ↔ Text.SigmasSettled (Text.trim filter)) ∧
      ('Σ' ∉ filter.toList → FindsHolders filter) := by
  have hiff : FindsHolders filter ↔ Text.SigmasSettled (Text.trim filter) := by
    rw [← Container.forall_satisfies_iff]
    constructor
    · exact FindsHolders.satisfies
    · intro hall
      -- What satisfies the query is found by scans, so the first part carries the second one.
      refine ⟨hall, fun w s nodes listing hlisted node hnode c hc hholds => ?_⟩
      exact Scan.exists_match hlisted hnode hc (hall c hholds)
  refine ⟨hiff, fun hnone => ?_⟩
  -- Trimming adds no characters.
  have htrimmed : 'Σ' ∉ (Text.trim filter).toList := by
    rw [Text.toList_trim]
    exact fun hmem => hnone (Text.mem_of_mem_trimChars hmem)
  exact hiff.mpr (Text.sigmasSettled_of_not_mem htrimmed)

/-- A container whose image begins like a filter with a sigma at its end, and goes on. -/
def Scan.sigmaContainer : Container where
  id := "1"
  image := "ΟΔΟΣtail"
  names := ["/web"]
  status := "Up 3 hours"
  state := "running"

/-- The container holds the filter, which does not find it. Without the sigma it would, and so would
a filter with characters that decide behind the sigma. -/
theorem sigma_not_finds_holders :
    Scan.sigmaContainer.Holds (Text.trim " ΟΔΟΣ") ∧
    Scan.sigmaContainer.satisfies (Scan.query " ΟΔΟΣ") = false ∧
    ¬FindsHolders " ΟΔΟΣ" ∧
    FindsHolders "ΟΔΟ" ∧ FindsHolders "Σtail" ∧ FindsHolders "ΔΟΣ t" := by
  have hholds : Scan.sigmaContainer.Holds (Text.trim " ΟΔΟΣ") :=
    ⟨"ΟΔΟΣtail", by decide, by decide +kernel⟩
  refine ⟨hholds, by decide +kernel, ?_, ?_, ?_, ?_⟩
  · rw [(finds_holders_iff _).1]
    decide +kernel
  · exact (finds_holders_iff _).2 (by decide)
  · exact (finds_holders_iff _).1.mpr (by decide +kernel)
  · exact (finds_holders_iff _).1.mpr (by decide +kernel)

end Flotilla
