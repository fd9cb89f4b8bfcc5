import Flotilla.Proofs.Migration.Turns

/-!
# Which Migrations Are Refused

A migration passes four gates before its first container: the request is complete, the registry
answers, both nodes can be used, and the source lists something to migrate. It has asked for no more
than the gates that it came to need.

- `Migration.Complete`: the first gate, which needs no call.
- `Migration.RefusedFor`: the gates that a migration fails at, in the order in which it comes to
  them, each with the refusal and with all that has happened until then.
- `Migration.refused_or_begins`: every migration fails at a gate or attempts its containers.
-/

namespace Flotilla.Migration

open Text

/-! ## §1 The request -/

/-- The request of a migration is complete: it names two nodes, blanks around the ids apart, and the
operator has agreed. -/
structure Complete (m : Migration) : Prop where
  source : trim m.source ≠ ""
  target : trim m.target ≠ ""
  differ : trim m.source ≠ trim m.target
  confirmed : m.confirmed = true

theorem precheck_eq_ok {m : Migration} : m.precheck = .ok () ↔ m.Complete := by
  constructor
  · intro h
    unfold precheck at h
    -- The checks in their order: both ids, that they differ, the consent.
    by_cases hnamed : trim m.source = "" ∨ trim m.target = ""
    · simp [hnamed] at h
    · obtain ⟨hsource, htarget⟩ := not_or.mp hnamed
      by_cases hsame : trim m.source = trim m.target
      · simp [hsame, htarget] at h
      · cases hconfirmed : m.confirmed with
        | false => simp [hnamed, hsame, hconfirmed] at h
        | true => exact ⟨hsource, htarget, hsame, hconfirmed⟩
  · rintro ⟨hsource, htarget, hdiffer, hconfirmed⟩
    simp [precheck, hsource, htarget, hdiffer, hconfirmed]

/-! ## §2 The nodes -/

/-- Why the node with an id cannot be used: no node has the id, or the first one that has it is not
connected. -/
inductive Unusable (nodes : List Node) (id : String) : Refusal → Prop where
  | missing (hnone : nodes.find? (·.id = id) = none) :
      Unusable nodes id (.unmet (.nodeNotFound id))
  | notConnected {node : Node} (hfirst : nodes.find? (·.id = id) = some node)
      (hstatus : node.status ≠ .connected) :
      Unusable nodes id (.unmet (.nodeNotConnected node.displayName))

theorem endpoint_eq_ok {nodes : List Node} {id : String} {node : Node} :
    endpoint nodes id = .ok node ↔
      nodes.find? (·.id = id) = some node ∧ node.status = .connected := by
  unfold endpoint
  -- The first node with the id decides; another one with the same id is not looked at.
  cases nodes.find? (·.id = id) with
  | none => simp
  | some first =>
    by_cases hstatus : first.status = .connected
    · simp only [Node.isConnected, hstatus, decide_true, if_true, Except.ok.injEq,
        Option.some.injEq]
      exact ⟨fun h => ⟨h, h ▸ hstatus⟩, And.left⟩
    · simp only [Node.isConnected, hstatus, decide_false, Option.some.injEq]
      refine ⟨nofun, ?_⟩
      rintro ⟨rfl, hconnected⟩
      exact absurd hconnected hstatus

theorem endpoint_eq_error {nodes : List Node} {id : String} {refusal : Refusal} :
    endpoint nodes id = .error refusal ↔ Unusable nodes id refusal := by
  constructor
  · intro h
    unfold endpoint at h
    cases hfirst : nodes.find? (·.id = id) with
    | none =>
      rw [hfirst] at h
      cases h
      exact .missing hfirst
    | some node =>
      rw [hfirst] at h
      by_cases hstatus : node.status = .connected
      · simp [Node.isConnected, hstatus] at h
      · simp only [Node.isConnected, hstatus, decide_false] at h
        cases h
        exact .notConnected hfirst hstatus
  · intro h
    cases h with
    | missing hnone => simp [endpoint, hnone]
    | notConnected hfirst hstatus => simp [endpoint, hfirst, Node.isConnected, hstatus]

theorem endpoints_eq_ok {nodes : List Node} {source target : String} {first second : Node} :
    endpoints nodes source target = .ok (first, second) ↔
      endpoint nodes source = .ok first ∧ endpoint nodes target = .ok second := by
  unfold endpoints
  cases endpoint nodes source with
  | error refusal => simp
  | ok sourceNode => cases endpoint nodes target <;> simp

theorem id_of_endpoint {nodes : List Node} {id : String} {node : Node}
    (h : endpoint nodes id = .ok node) : node.id = id := by
  simpa using List.find?_some (endpoint_eq_ok.mp h).1

theorem ids_of_endpoints {nodes : List Node} {source target : String} {ends : Node × Node}
    (h : endpoints nodes source target = .ok ends) :
    ends.1.id = source ∧ ends.2.id = target := by
  obtain ⟨hsource, htarget⟩ := endpoints_eq_ok.mp h
  exact ⟨id_of_endpoint hsource, id_of_endpoint htarget⟩

/-- The target is looked for where the source can be used. -/
theorem endpoints_eq_error {nodes : List Node} {source target : String} {refusal : Refusal} :
    endpoints nodes source target = .error refusal ↔
      Unusable nodes source refusal ∨
        (∃ first, endpoint nodes source = .ok first) ∧ Unusable nodes target refusal := by
  rw [← endpoint_eq_error, ← endpoint_eq_error]
  unfold endpoints
  cases endpoint nodes source with
  | error other => simp
  | ok sourceNode => cases endpoint nodes target <;> simp

/-! ## §3 The gates -/

variable {σ : Type}

/-- The gate at which a migration fails in a world, with the refusal and the events until then. -/
inductive RefusedFor (m : Migration) (w : World σ) (s : σ) : Refusal → List Event → Prop where
  | unnamed (hids : trim m.source = "" ∨ trim m.target = "") :
      RefusedFor m w s (.unmet .endpointsMissing) []
  | same (hnamed : trim m.source ≠ "") (hsame : trim m.source = trim m.target) :
      RefusedFor m w s (.unmet .endpointsEqual) []
  | unconfirmed (hsource : trim m.source ≠ "") (htarget : trim m.target ≠ "")
      (hdiffer : trim m.source ≠ trim m.target) (hconfirmed : m.confirmed = false) :
      RefusedFor m w s (.unmet .notConfirmed) []
  | registry (hcomplete : m.Complete) {fault : Fault}
      (hnodes : (w.reply .nodes s).1 = .error fault) :
      RefusedFor m w s (.unreachable "registry" fault) [.exchange .nodes (.error fault)]
  | source (hcomplete : m.Complete) {nodes : List Node} {refusal : Refusal}
      (hnodes : (w.reply .nodes s).1 = .ok nodes)
      (hsource : Unusable nodes (trim m.source) refusal) :
      RefusedFor m w s refusal [.exchange .nodes (.ok nodes)]
  | target (hcomplete : m.Complete) {nodes : List Node} {source : Node} {refusal : Refusal}
      (hnodes : (w.reply .nodes s).1 = .ok nodes)
      (hsource : endpoint nodes (trim m.source) = .ok source)
      (htarget : Unusable nodes (trim m.target) refusal) :
      RefusedFor m w s refusal [.exchange .nodes (.ok nodes)]
  | listing (hcomplete : m.Complete) {nodes : List Node} {source target : Node} {fault : Fault}
      (hnodes : (w.reply .nodes s).1 = .ok nodes)
      (hsource : endpoint nodes (trim m.source) = .ok source)
      (htarget : endpoint nodes (trim m.target) = .ok target)
      (hlist : (w.reply (.list source.id) (w.reply .nodes s).2).1 = .error fault) :
      RefusedFor m w s (.unreachable source.displayName fault)
        [.exchange .nodes (.ok nodes), .exchange (.list source.id) (.error fault)]
  | empty (hcomplete : m.Complete) {nodes : List Node} {source target : Node}
      (hnodes : (w.reply .nodes s).1 = .ok nodes)
      (hsource : endpoint nodes (trim m.source) = .ok source)
      (htarget : endpoint nodes (trim m.target) = .ok target)
      (hlist : (w.reply (.list source.id) (w.reply .nodes s).2).1 = .ok []) :
      RefusedFor m w s (.unmet .noContainers)
        [.exchange .nodes (.ok nodes), .exchange (.list source.id) (.ok [])]

variable {m : Migration} {w : World σ} {s : σ}

/-- A request that is not complete is refused before any call. -/
theorem refusedFor_of_precheck {refusal : Refusal} (h : m.precheck = .error refusal) :
    m.RefusedFor w s refusal [] := by
  unfold precheck at h
  by_cases hnamed : trim m.source = "" ∨ trim m.target = ""
  · rw [if_pos hnamed] at h
    cases h
    exact .unnamed hnamed
  · rw [if_neg hnamed] at h
    obtain ⟨hsource, htarget⟩ := not_or.mp hnamed
    by_cases hsame : trim m.source = trim m.target
    · rw [if_pos hsame] at h
      cases h
      exact .same hsource hsame
    · rw [if_neg hsame] at h
      cases hconfirmed : m.confirmed with
      | false =>
        rw [hconfirmed] at h
        cases h
        exact .unconfirmed hsource htarget hsame hconfirmed
      | true =>
        rw [hconfirmed] at h
        cases h

/-- Every migration fails at a gate or attempts its containers. -/
theorem refused_or_begins (m : Migration) (w : World σ) (s : σ) :
    (∃ refusal, (w.run m.run s).1 = .error refusal ∧
      m.RefusedFor w s refusal (w.run m.run s).2.events) ∨
    ∃ source target containers start, m.Begins w s source target containers start := by
  unfold World.run run findEndpoints listNodes Remote.call Program.request
  -- The gates, in the order in which the migration comes to them.
  cases hcheck : m.precheck with
  | error refusal =>
    left
    exact ⟨refusal, by simp, by simpa using refusedFor_of_precheck hcheck⟩
  | ok _ =>
    -- From here on the request is complete, which each of the later gates tells as well.
    have hcomplete := precheck_eq_ok.mp hcheck
    cases hnodes : (w.reply .nodes s).1 with
    | error fault =>
      left
      refine ⟨.unreachable "registry" fault, by simp [World.answer, hnodes], ?_⟩
      simpa [World.answer, hnodes] using .registry hcomplete hnodes
    | ok nodes =>
      cases hends : endpoints nodes (trim m.source) (trim m.target) with
      | error refusal =>
        left
        refine ⟨refusal, by simp [World.answer, hnodes, hends], ?_⟩
        -- The source is looked for first, so a target that cannot be used is told only behind a
        -- source that can.
        rcases endpoints_eq_error.mp hends with hsource | ⟨⟨source, hsource⟩, htarget⟩
        · simpa [World.answer, hnodes, hends] using .source hcomplete hnodes hsource
        · simpa [World.answer, hnodes, hends] using .target hcomplete hnodes hsource htarget
      | ok ends =>
        obtain ⟨source, target⟩ := ends
        obtain ⟨hsource, htarget⟩ := endpoints_eq_ok.mp hends
        cases hlist : (w.reply (.list source.id) (w.reply .nodes s).2).1 with
        | error fault =>
          left
          refine ⟨.unreachable source.displayName fault,
            by simp [World.answer, hnodes, hends, hlist], ?_⟩
          simpa [World.answer, hnodes, hends, hlist] using
            .listing hcomplete hnodes hsource htarget hlist
        | ok containers =>
          cases containers with
          | nil =>
            left
            refine ⟨.unmet .noContainers, by simp [World.answer, hnodes, hends, hlist], ?_⟩
            simpa [World.answer, hnodes, hends, hlist] using
              .empty hcomplete hnodes hsource htarget hlist
          | cons container rest =>
            -- A listing that is not empty is what the loop starts from.
            right
            exact ⟨source, target, container :: rest, ⟨_, _⟩, hcheck,
              ⟨nodes, hnodes, hends, rfl⟩, hlist, List.cons_ne_nil _ _, rfl⟩

/-- The nodes that a migration goes between are the ones that it names, blanks apart. -/
theorem Begins.ids {source target : Node} {containers : List Container} {start : Run σ}
    (h : m.Begins w s source target containers start) :
    source.id = trim m.source ∧ target.id = trim m.target := by
  obtain ⟨nodes, -, hends, -⟩ := h.registry
  exact ids_of_endpoints hends

theorem begins_of_run_ok {ledger : Ledger} (h : (w.run m.run s).1 = .ok ledger) :
    ∃ source target containers start, m.Begins w s source target containers start := by
  refine (refused_or_begins m w s).resolve_left ?_
  rintro ⟨refusal, hrefused, -⟩
  rw [h] at hrefused
  cases hrefused

/-! ## §4 What is lacking -/

/-- Something that a migration needs is not there, whatever else is. -/
inductive Lacks (m : Migration) (w : World σ) (s : σ) : Prop where
  | id (hids : trim m.source = "" ∨ trim m.target = "")
  | difference (hsame : trim m.source = trim m.target)
  | consent (hconfirmed : m.confirmed = false)
  | registry {fault : Fault} (hnodes : (w.reply .nodes s).1 = .error fault)
  | node {nodes : List Node} {id : String} {refusal : Refusal}
      (hnodes : (w.reply .nodes s).1 = .ok nodes) (hid : id = trim m.source ∨ id = trim m.target)
      (hunusable : Unusable nodes id refusal)
  | listing {fault : Fault}
      (hlist : (w.reply (.list (trim m.source)) (w.reply .nodes s).2).1 = .error fault)
  | containers (hlist : (w.reply (.list (trim m.source)) (w.reply .nodes s).2).1 = .ok [])

theorem RefusedFor.lacks {refusal : Refusal} {events : List Event}
    (h : m.RefusedFor w s refusal events) : m.Lacks w s := by
  cases h with
  | unnamed hids => exact .id hids
  | same _ hsame => exact .difference hsame
  | unconfirmed _ _ _ hconfirmed => exact .consent hconfirmed
  | registry _ hnodes => exact .registry hnodes
  | source _ hnodes hunusable => exact .node hnodes (.inl rfl) hunusable
  | target _ hnodes _ hunusable => exact .node hnodes (.inr rfl) hunusable
  -- The node that was found has the id that was asked for, so the listing is that of the source.
  | listing _ _ hsource _ hlist => exact .listing (id_of_endpoint hsource ▸ hlist)
  | empty _ _ hsource _ hlist => exact .containers (id_of_endpoint hsource ▸ hlist)

/-- A migration that attempts its containers lacks nothing. -/
theorem Begins.not_lacks {source target : Node} {containers : List Container} {start : Run σ}
    (h : m.Begins w s source target containers start) : ¬ m.Lacks w s := by
  -- What a migration that begins has found is the contrary of each thing that could lack.
  have hcomplete := precheck_eq_ok.mp h.checked
  obtain ⟨found, hfound, hends, -⟩ := h.registry
  have hlisted := h.listed
  rw [h.ids.1] at hlisted
  intro hlacks
  cases hlacks with
  | id hids => exact hids.elim hcomplete.source hcomplete.target
  | difference hsame => exact hcomplete.differ hsame
  | consent hconfirmed =>
    rw [hcomplete.confirmed] at hconfirmed
    cases hconfirmed
  | registry hnodes =>
    rw [hfound] at hnodes
    cases hnodes
  | node hnodes hid hunusable =>
    -- Both ends were found among the nodes, so neither of them is unusable.
    rw [hfound] at hnodes
    cases hnodes
    obtain ⟨hsource, htarget⟩ := endpoints_eq_ok.mp hends
    have hrefused := endpoint_eq_error.mpr hunusable
    rcases hid with rfl | rfl
    · rw [hsource] at hrefused
      cases hrefused
    · rw [htarget] at hrefused
      cases hrefused
  | listing hlist =>
    rw [hlisted] at hlist
    cases hlist
  | containers hlist =>
    rw [hlisted] at hlist
    cases hlist
    exact h.some rfl

/-- A migration that is refused has failed at a gate. -/
theorem refusedFor_of_run {refusal : Refusal} (h : (w.run m.run s).1 = .error refusal) :
    m.RefusedFor w s refusal (w.run m.run s).2.events := by
  rcases refused_or_begins m w s with ⟨first, hfirst, hgate⟩ | ⟨_, _, _, _, hbegins⟩
  · rw [hfirst] at h
    cases h
    exact hgate
  · -- One that attempts its containers has a ledger.
    obtain ⟨_, ledger, last, -, hledger, -⟩ := w.run_attemptAll _ _ _
    rw [hbegins.run_eq, hledger] at h
    cases h

/-- A migration is refused exactly if it lacks something. -/
theorem run_eq_error (m : Migration) (w : World σ) (s : σ) :
    (∃ refusal, (w.run m.run s).1 = .error refusal) ↔ m.Lacks w s := by
  constructor
  · rintro ⟨refusal, hrefused⟩
    exact (refusedFor_of_run hrefused).lacks
  · intro hlacks
    rcases refused_or_begins m w s with ⟨refusal, hrefused, -⟩ | ⟨_, _, _, _, hbegins⟩
    · exact ⟨refusal, hrefused⟩
    · exact absurd hlacks hbegins.not_lacks

/-- A refused migration has at most asked for the nodes and then for the containers of the source,
and has told nobody to refresh. -/
theorem RefusedFor.calls {refusal : Refusal} {events : List Event}
    (h : m.RefusedFor w s refusal events) :
    callsOf events <+: [.nodes, .list (trim m.source)] ∧ ∀ e ∈ events, e.isRefresh = false := by
  cases h with
  -- The gates by the number of calls before them: none, the registry, the listing after it.
  | unnamed | same | unconfirmed => simp
  | registry | source | target => simp [Event.isRefresh]
  | listing _ _ hsource | empty _ _ hsource => simp [id_of_endpoint hsource, Event.isRefresh]

end Flotilla.Migration
