import Flotilla.Cluster.Basic
import Mathlib.Logic.Function.Basic

/-!
# Calls to the In-Memory Cluster

What each call does to the containers of a cluster.

- `Cluster.held` views a cluster as the containers of every node.
- `Effect`: a call leaves this view alone or changes it at one node. A call that fails, by a rule
  or on its own, changes nothing.
- `effect_reply`: carrying out a call has its effect. What each kind of call does follows from
  this.
-/

namespace Flotilla.Cluster

/-- The containers of a node, none if it cannot be reached. -/
def held (k : Cluster) (node : String) : List Held :=
  (k.host? node).getD []

/-! ## The view of a changed cluster -/

theorem host?_setHost (k : Cluster) (node other : String) (new : List Held) :
    (k.setHost node new).host? other =
      if other = node then (k.host? other).map fun _ => new else k.host? other := by
  unfold setHost host?
  simp only [List.find?_map]
  -- The replacement keeps the names of the hosts, so the same one is found.
  have hsame : ((fun host : String × List Held => decide (host.1 = other)) ∘
      fun host : String × List Held => (host.1, if host.1 = node then new else host.2)) =
      fun host : String × List Held => decide (host.1 = other) := rfl
  rw [hsame]
  cases hfound : k.hosts.find? (fun host => decide (host.1 = other)) with
  | none => simp
  | some host =>
    have hname : host.1 = other := by simpa using List.find?_some hfound
    by_cases hnode : other = node
    · simp [hname, hnode]
    · simp [hname, hnode]

/-- Replacing the containers of a node that can be reached updates the view there. -/
theorem held_setHost {k : Cluster} {node : String} {old : List Held}
    (hold : k.host? node = some old) (new : List Held) :
    (k.setHost node new).held = Function.update k.held node new := by
  funext other
  unfold held
  rw [host?_setHost]
  by_cases hnode : other = node
  · subst hnode
    simp [hold]
  · simp [hnode]

theorem held_of_host? {k : Cluster} {node : String} {old : List Held}
    (h : k.host? node = some old) : k.held node = old := by
  simp [held, h]

/-! ## Removing one container -/

theorem removeFirst_sublist (id : String) (list : List Held) :
    (removeFirst id list).Sublist list := by
  induction list with
  | nil => exact .slnil
  | cons h rest ih =>
    unfold removeFirst
    -- Either the first container is left out, or it stays in front of what is left of the others.
    split
    · exact List.sublist_cons_self h rest
    · exact ih.cons_cons h

theorem mem_removeFirst_or {id : String} {list : List Held} {h : Held} (hmem : h ∈ list) :
    h ∈ removeFirst id list ∨ h.summary.id = id := by
  induction list with
  | nil => cases hmem
  | cons first rest ih =>
    unfold removeFirst
    split
    · -- Here the first one with the id is removed, and the rest stays.
      rename_i hid
      rcases List.mem_cons.mp hmem with rfl | hrest
      · exact .inr hid
      · exact .inl hrest
    · rcases List.mem_cons.mp hmem with rfl | hrest
      · exact .inl (List.mem_cons_self ..)
      · exact (ih hrest).imp_left (List.mem_cons_of_mem first)

/-! ## The effect of a call -/

@[simp] theorem world_reply (cancelled : List Event → Bool) (c : Call) (k : Cluster) :
    (world cancelled).reply c k = reply c k := rfl

/-- The containers of every node. -/
abbrev Holdings : Type :=
  String → List Held

/-! ## §1 The effect of a call -/

/-- What a call did to the containers where it got this reply. The nodes of the registry are
`nodes`. -/
inductive Effect (nodes : List Node) : (c : Call) → c.Reply → Holdings → Holdings → Prop where
  | failed {c : Call} (fault : Fault) {held : Holdings} : Effect nodes c (.error fault) held held
  | nodes {held : Holdings} : Effect nodes .nodes (.ok nodes) held held
  | list {node : String} {held : Holdings} :
      Effect nodes (.list node) (.ok ((held node).map (·.summary))) held held
  | inspect {node id : String} {held : Holdings} {h : Held}
      (hfound : (held node).find? (·.summary.id = id) = some h) :
      Effect nodes (.inspect node id) (.ok h.snapshot) held held
  | start {node id : String} {held : Holdings} (hthere : ∃ h ∈ held node, h.summary.id = id) :
      Effect nodes (.start node id) (.ok ()) held
        (Function.update held node (modifyFirst id (withState "running") (held node)))
  | stop {node id : String} {held : Holdings} (hthere : ∃ h ∈ held node, h.summary.id = id) :
      Effect nodes (.stop node id) (.ok ()) held
        (Function.update held node (modifyFirst id (withState "exited") (held node)))
  | delete {node id : String} {held : Holdings} (hthere : ∃ h ∈ held node, h.summary.id = id) :
      Effect nodes (.delete node id) (.ok ()) held
        (Function.update held node (removeFirst id (held node)))
  | create {node : String} {plan : Plan} {held : Holdings} (number : Nat)
      (hfree : isTaken plan.name (held node) = false) :
      Effect nodes (.create node plan) (.ok ()) held
        (Function.update held node (held node ++ [build plan number]))

/-- A change of the first container with an id fails where no container has it, and otherwise is
made. -/
theorem change_cases (k : Cluster) (node id : String) (f : List Held → List Held) :
    (∃ fault, k.change node id f = (.error fault, k)) ∨
      ((∃ h ∈ k.held node, h.summary.id = id) ∧ (k.change node id f).1 = .ok () ∧
        (k.change node id f).2.held = Function.update k.held node (f (k.held node))) := by
  unfold change
  -- Two things may be missing: the node cannot be reached, or no container on it has the id.
  cases hhost : k.host? node with
  | none => exact .inl ⟨_, rfl⟩
  | some list =>
    rw [held_of_host? hhost]
    cases hpresent : list.any (fun h => decide (h.summary.id = id)) with
    | true =>
      obtain ⟨h, hmem, hid⟩ := List.any_eq_true.mp hpresent
      simp only [hpresent, if_true]
      exact .inr ⟨⟨h, hmem, of_decide_eq_true hid⟩, trivial, held_setHost hhost _⟩
    | false =>
      simp only [hpresent, Bool.false_eq_true, if_false]
      exact .inl ⟨_, rfl⟩

/-- What follows from both ends of a change holds of the change. -/
theorem change_elim (P : Except Fault Unit → Holdings → Prop) (k : Cluster) (node id : String)
    (f : List Held → List Held) (hfailed : ∀ fault, P (.error fault) k.held)
    (hdone : (∃ h ∈ k.held node, h.summary.id = id) →
      P (.ok ()) (Function.update k.held node (f (k.held node)))) :
    P (k.change node id f).1 (k.change node id f).2.held := by
  rcases change_cases k node id f with ⟨fault, hchange⟩ | ⟨hthere, hok, hheld⟩
  · rw [hchange]
    exact hfailed fault
  · rw [hok, hheld]
    exact hdone hthere

/-- Carrying out a call has its effect. -/
theorem effect_perform (c : Call) (k : Cluster) :
    Effect k.nodes c (k.perform c).1 k.held (k.perform c).2.held := by
  -- One case for each kind of call, and in it one for each thing that may be missing.
  cases c with
  | nodes =>
    cases hfault : k.registryFault with
    | none =>
      simp only [perform, hfault]
      exact .nodes
    | some fault =>
      simp only [perform, hfault]
      exact .failed fault
  | list node =>
    cases hhost : k.host? node with
    | none =>
      simp only [perform, hhost]
      exact .failed _
    | some list =>
      simp only [perform, hhost]
      rw [← held_of_host? hhost]
      exact .list
  | inspect node id =>
    cases hhost : k.host? node with
    | none =>
      simp only [perform, hhost]
      exact .failed _
    | some list =>
      cases hfound : list.find? (fun h => decide (h.summary.id = id)) with
      | none =>
        simp only [perform, hhost, hfound]
        exact .failed _
      | some h =>
        simp only [perform, hhost, hfound]
        rw [← held_of_host? hhost] at hfound
        exact .inspect hfound
  | start node id =>
    exact change_elim (fun reply => Effect k.nodes (.start node id) reply k.held) k node id _
      (fun fault => .failed fault) .start
  | stop node id =>
    exact change_elim (fun reply => Effect k.nodes (.stop node id) reply k.held) k node id _
      (fun fault => .failed fault) .stop
  | delete node id =>
    exact change_elim (fun reply => Effect k.nodes (.delete node id) reply k.held) k node id _
      (fun fault => .failed fault) .delete
  | create node plan =>
    cases hhost : k.host? node with
    | none =>
      simp only [perform, hhost]
      exact .failed _
    | some list =>
      cases htaken : isTaken plan.name list with
      | true =>
        simp only [perform, hhost, htaken, if_true]
        exact .failed _
      | false =>
        simp only [perform, hhost, htaken, Bool.false_eq_true, if_false]
        -- The number of containers created so far is no part of the view.
        change Effect k.nodes (.create node plan) (.ok ()) k.held
          (k.setHost node (list ++ [build plan (k.created + 1)])).held
        rw [← held_of_host? hhost] at htaken
        rw [held_setHost hhost, ← held_of_host? hhost]
        exact .create (k.created + 1) htaken

/-- A call that a rule lets fail changes no container; any other call is carried out. -/
theorem reply_cases (c : Call) (k : Cluster) :
    (∃ fault rules, reply c k = (.error fault, { k with rules := rules })) ∨
      reply c k = k.perform c := by
  unfold reply
  -- A rule that fires is spent, whether or not the call would have been possible.
  cases FailRule.fire? c k.rules with
  | none => exact .inr rfl
  | some fired => exact .inl ⟨fired.1, fired.2, rfl⟩

/-- A call that a rule lets fail has no effect, and any other call has its own. -/
theorem effect_reply (c : Call) (k : Cluster) :
    Effect k.nodes c (reply c k).1 k.held (reply c k).2.held := by
  rcases reply_cases c k with ⟨fault, rules, h⟩ | h
  · rw [h]
    exact .failed fault
  · rw [h]
    exact effect_perform c k

/-! ## What follows for each call -/

theorem held_reply_nodes (k : Cluster) : (reply .nodes k).2.held = k.held := by
  have heffect := effect_reply .nodes k
  -- The reply and the containers after it are generalized: the cases of `Effect` need them as
  -- variables.
  generalize (reply .nodes k).1 = result at heffect
  generalize (reply .nodes k).2.held = last at heffect ⊢
  cases heffect with
  | failed fault => rfl
  | nodes => rfl

/-- The registry shows the nodes of the cluster. -/
theorem reply_nodes {k : Cluster} {nodes : List Node} (h : (reply .nodes k).1 = .ok nodes) :
    nodes = k.nodes := by
  have heffect := effect_reply .nodes k
  rw [h] at heffect
  generalize (reply .nodes k).2.held = last at heffect
  -- The reply is no fault, which leaves one case.
  cases heffect
  rfl

/-- A listing changes nothing and shows the containers of the node. -/
theorem reply_list (k : Cluster) (node : String) :
    (reply (.list node) k).2.held = k.held ∧
      ∀ containers, (reply (.list node) k).1 = .ok containers →
        containers = (k.held node).map (·.summary) := by
  have heffect := effect_reply (.list node) k
  generalize (reply (.list node) k).1 = result at heffect ⊢
  generalize (reply (.list node) k).2.held = last at heffect ⊢
  cases heffect with
  | failed fault => exact ⟨rfl, fun containers hok => by cases hok⟩
  | list => exact ⟨rfl, fun containers hok => by cases hok; rfl⟩

/-- An inspection changes nothing and shows the first container with the id. -/
theorem reply_inspect (k : Cluster) (node id : String) :
    (reply (.inspect node id) k).2.held = k.held ∧
      ∀ snapshot, (reply (.inspect node id) k).1 = .ok snapshot →
        ∃ h, (k.held node).find? (·.summary.id = id) = some h ∧ snapshot = h.snapshot := by
  have heffect := effect_reply (.inspect node id) k
  generalize (reply (.inspect node id) k).1 = result at heffect ⊢
  generalize (reply (.inspect node id) k).2.held = last at heffect ⊢
  cases heffect with
  | failed fault => exact ⟨rfl, fun snapshot hok => by cases hok⟩
  | inspect hfound => exact ⟨rfl, fun snapshot hok => by cases hok; exact ⟨_, hfound, rfl⟩⟩

/-- A deletion fails and changes nothing, or removes the first container with the id. -/
theorem reply_delete (k : Cluster) (node id : String) :
    (∃ fault, (reply (.delete node id) k).1 = .error fault ∧
        (reply (.delete node id) k).2.held = k.held) ∨
      ((reply (.delete node id) k).1 = .ok () ∧
        (reply (.delete node id) k).2.held =
          Function.update k.held node (removeFirst id (k.held node))) := by
  have heffect := effect_reply (.delete node id) k
  generalize (reply (.delete node id) k).1 = result at heffect ⊢
  generalize (reply (.delete node id) k).2.held = last at heffect ⊢
  cases heffect with
  | failed fault => exact .inl ⟨fault, rfl, rfl⟩
  | delete hthere => exact .inr ⟨rfl, rfl⟩

/-- A creation fails and changes nothing, or adds a container that the plan describes, under a
name that no container of the node has. -/
theorem reply_create (k : Cluster) (node : String) (plan : Plan) :
    (∃ fault, (reply (.create node plan) k).1 = .error fault ∧
        (reply (.create node plan) k).2.held = k.held) ∨
      ((reply (.create node plan) k).1 = .ok () ∧ isTaken plan.name (k.held node) = false ∧
        ∃ number, (reply (.create node plan) k).2.held =
          Function.update k.held node (k.held node ++ [build plan number])) := by
  have heffect := effect_reply (.create node plan) k
  generalize (reply (.create node plan) k).1 = result at heffect ⊢
  generalize (reply (.create node plan) k).2.held = last at heffect ⊢
  cases heffect with
  | failed fault => exact .inl ⟨fault, rfl, rfl⟩
  | create number hfree => exact .inr ⟨rfl, hfree, number, rfl⟩

/-! ## An example -/

def sampleHeld (id name : String) : Held where
  summary := ⟨id, "nginx", ["/" ++ name], "Up", "running"⟩
  snapshot := ⟨some name, some "nginx:1", ["MODE=test"], [⟨8080, 80⟩], "always"⟩

/-- Two nodes that both have a container of the same name. One container cannot be deleted. -/
def sample : Cluster where
  nodes := [Node.new "a" .connected, Node.new "b" .connected]
  registryFault := none
  hosts := [("a", [sampleHeld "1" "web", sampleHeld "2" "db"]), ("b", [sampleHeld "9" "web"])]
  rules := [⟨"delete", none, some "2", none, ⟨.unknown, none, "busy"⟩⟩]
  created := 0

end Flotilla.Cluster
