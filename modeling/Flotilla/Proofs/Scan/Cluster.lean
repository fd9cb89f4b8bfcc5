import Flotilla.Proofs.Cluster.Effects
import Flotilla.Proofs.Scan

/-!
# What a Scan of a Cluster Finds

Listings show what is there and change nothing, so what a scan finds in the in-memory cluster is
there, and is there still when the scan is over.

- `Scan.Found.there`: what a scan has found is there, and no key is there twice.
- `Scan.run_scan_world`: a scan without a failing listing collects from the containers of the
  cluster. `Scan.collected_of_run`: every scan that succeeds is one.
-/

namespace Flotilla

open Cluster

/-- The entries that a listing of a node shows. -/
def Cluster.shown (k : Cluster) (node : String) : List Container :=
  (k.held node).map (·.summary)

namespace Scan

/-! ## §1 Listings -/

/-- A listing changes nothing. -/
theorem held_eq_of_effect {nodes : List Node} {id : String} {reply : Call.Reply (.list id)}
    {held last : Holdings} (he : Effect nodes (.list id) reply held last) : last = held := by
  cases he with
  | failed fault => rfl
  | list => rfl

theorem held_eq_of_effects {nodes : List Node} {events : List Event} {held last : Holdings}
    (he : Effects nodes events held last) (hlists : ∀ e ∈ events, e.IsListing) : last = held := by
  -- By induction on the events; all of them are listings.
  induction he with
  | nil held => rfl
  | exchange first others ih =>
    obtain ⟨node, answer, heq⟩ := hlists _ (List.mem_cons_self ..)
    cases heq
    rw [ih fun e he => hlists e (List.mem_cons_of_mem _ he), held_eq_of_effect first]
  | refreshed others ih =>
    obtain ⟨_, _, heq⟩ := hlists _ (List.mem_cons_self ..)
    cases heq

/-- Listings show the containers of their nodes. -/
theorem eq_held_of_effects {nodes : List Node} {events : List Event} {held last : Holdings}
    (he : Effects nodes events held last) (hlists : ∀ e ∈ events, e.IsListing) {id : String}
    {containers : List Container}
    (hlisted : Event.exchange (.list id) (.ok containers) ∈ events) :
    containers = (held id).map (·.summary) := by
  induction he with
  | nil held => cases hlisted
  | @exchange c reply events held mid last first others ih =>
    -- The first event has changed nothing, so what is listed later is what was there.
    have hsame : mid = held := by
      obtain ⟨node, answer, heq⟩ := hlists _ (List.mem_cons_self ..)
      cases heq
      exact held_eq_of_effect first
    rcases List.mem_cons.mp hlisted with heq | hrest
    · cases heq
      cases first
      rfl
    · rw [ih (fun e he => hlists e (List.mem_cons_of_mem _ he)) hrest, hsame]
  | refreshed others ih =>
    obtain ⟨_, _, heq⟩ := hlists _ (List.mem_cons_self ..)
    cases heq

/-! ## §2 What is found is there -/

theorem Listed.exchange_mem {nodes : List Node} {events : List Event}
    {done : List (Node × List Container)} (h : Listed nodes events (.ok done)) :
    ∀ l ∈ done, Event.exchange (.list l.1.id) (.ok l.2) ∈ events := by
  intro l hl
  cases h with
  | all done => exact List.mem_map.mpr ⟨l, hl, rfl⟩

theorem ListedEach.exchange_mem {nodes : List Node} {events : List Event}
    {result : List (Node × List Container) × List ScanFailure}
    (h : ListedEach nodes events result) :
    ∀ l ∈ result.1, Event.exchange (.list l.1.id) (.ok l.2) ∈ events := by
  intro l hl
  -- By induction on the history: a listing that failed brings nothing to look for.
  induction h with
  | none => cases hl
  | listed others ih =>
    rcases List.mem_cons.mp hl with rfl | hl
    · exact List.mem_cons_self ..
    · exact List.mem_cons_of_mem _ (ih hl)
  | failed others ih => exact List.mem_cons_of_mem _ (ih hl)

/-- The scan found these matches in a cluster: a plain scan that listed all nodes, or a best-effort
scan on those that it could list. -/
def Found (cancelled : List Event → Bool) (k : Cluster) (nodes : List Node) (filter : String)
    (found : List Match) : Prop :=
  ((world cancelled).run (scan nodes filter) k).1 = .ok found ∨
    ∃ failures, ((world cancelled).run (scanBestEffort nodes filter) k).1 = .ok ⟨found, failures⟩

variable {cancelled : List Event → Bool} {k : Cluster} {nodes : List Node} {filter : String}
  {found : List Match}

/-- The matches were collected from listings that the scan made. -/
theorem Found.collected (h : Found cancelled k nodes filter found) :
    ∃ events listings last, found = collect filter listings ∧ (∀ e ∈ events, e.IsListing) ∧
      (∀ l ∈ listings, Event.exchange (.list l.1.id) (.ok l.2) ∈ events) ∧
      Effects k.nodes events k.held last := by
  -- With no nodes neither scan has found anything.
  have hnodes : nodes ≠ [] := by
    rintro rfl
    rcases h with h | ⟨failures, h⟩ <;> cases h
  rcases h with h | ⟨failures, h⟩
  · -- The events of the run say which listings were made and what the cluster did.
    obtain ⟨events, -, hyields, heffects, -⟩ := run_effects cancelled (scan nodes filter) ⟨k, []⟩
    rw [World.run] at h
    rw [h] at hyields
    obtain ⟨listed, hlisted, hresult⟩ := yields_scan hnodes hyields
    cases listed with
    | error failure => cases hresult
    | ok done =>
      cases hresult
      exact ⟨events, done, _, rfl, hlisted.only_lists, hlisted.exchange_mem, heffects⟩
  · obtain ⟨events, -, hyields, heffects, -⟩ :=
      run_effects cancelled (scanBestEffort nodes filter) ⟨k, []⟩
    rw [World.run] at h
    rw [h] at hyields
    obtain ⟨listed, hlisted, hresult⟩ := yields_scanBestEffort hnodes hyields
    cases hresult
    exact ⟨events, listed.1, _, rfl, hlisted.only_lists, hlisted.exchange_mem, heffects⟩

/-- What a scan finds is there, and no key is there twice. -/
theorem Found.there (h : Found cancelled k nodes filter found) :
    (found.map Match.key).Nodup ∧
      ∀ m ∈ found, ∃ held ∈ k.held m.nodeId, held.summary = m.container := by
  obtain ⟨events, listings, last, rfl, hlists, hmade, heffects⟩ := h.collected
  refine ⟨nodup_key_collect listings, ?_⟩
  intro m hm
  obtain ⟨l, hl, hmatch, hcontainer⟩ := exists_listing_of_mem_collect hm
  have hid : m.nodeId = l.1.id := congrArg Match.nodeId hmatch
  -- The container was in a listing of its node, and the listing shows what is there.
  rw [eq_held_of_effects heffects hlists (hmade l hl), ← hid] at hcontainer
  exact List.mem_map.mp hcontainer

/-! ## §3 From the cluster to the matches -/

theorem Listed.no_failure {nodes : List Node} {events : List Event}
    {done : List (Node × List Container)} (h : Listed nodes events (.ok done)) (id : String)
    (fault : Fault) : Event.exchange (.list id) (.error fault) ∉ events := by
  intro hmem
  cases h with
  | all done =>
    obtain ⟨l, -, heq⟩ := List.mem_map.mp hmem
    cases heq

/-- Where no listing fails, a scan collects from what the cluster holds. -/
theorem run_scan_world (hnodes : nodes ≠ [])
    (hnone : ∀ id fault, Event.exchange (.list id) (.error fault) ∉
      ((world cancelled).run (scan nodes filter) k).2.events) :
    ((world cancelled).run (scan nodes filter) k).1 =
      .ok (collect filter (listings (distinctBy Node.id nodes) k.shown)) := by
  -- The run is one of the histories of the program, and its events have effects in the cluster.
  obtain ⟨events, happ, hyields, heffects, -⟩ := run_effects cancelled (scan nodes filter) ⟨k, []⟩
  rw [World.run, happ, List.nil_append] at hnone
  obtain ⟨listed, hlisted, hresult⟩ := yields_scan hnodes hyields
  -- Every listing was answered, and with what its node holds.
  have hshown : ∀ id reply, Event.exchange (.list id) reply ∈ events →
      reply = .ok (k.shown id) := by
    intro id reply hmem
    cases reply with
    | error fault => exact absurd hmem (hnone id fault)
    | ok containers =>
      rw [eq_held_of_effects heffects hlisted.only_lists hmem]
      rfl
  obtain ⟨rfl, -⟩ := hlisted.eq_listings hshown
  exact hresult

/-- A scan that succeeds has collected from what the cluster holds, and has changed nothing. -/
theorem collected_of_run {last : Run Cluster}
    (h : (world cancelled).run (scan nodes filter) k = (.ok found, last)) :
    nodes ≠ [] ∧ found = collect filter (listings (distinctBy Node.id nodes) k.shown) ∧
      last.state.held = k.held := by
  have hnodes : nodes ≠ [] := by
    rintro rfl
    cases h
  obtain ⟨events, happ, hyields, heffects, -⟩ := run_effects cancelled (scan nodes filter) ⟨k, []⟩
  have hresult : ((scan nodes filter).run (world cancelled).answer ⟨k, []⟩) = (.ok found, last) := h
  rw [hresult] at hyields happ heffects
  obtain ⟨listed, hlisted, heq⟩ := yields_scan hnodes hyields
  cases listed with
  | error failure => cases heq
  | ok done =>
    -- A scan that succeeds has no failing listing, which is what the lemma before asks for.
    have hnone : ∀ id fault, Event.exchange (.list id) (.error fault) ∉
        ((world cancelled).run (scan nodes filter) k).2.events := by
      rw [h, happ, List.nil_append]
      exact hlisted.no_failure
    have hcollected := run_scan_world hnodes hnone
    rw [h] at hcollected
    exact ⟨hnodes, Except.ok.inj hcollected, held_eq_of_effects heffects hlisted.only_lists⟩

end Scan

end Flotilla
