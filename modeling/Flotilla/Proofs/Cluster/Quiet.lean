import Flotilla.Proofs.Cluster.Removal
import Flotilla.Proofs.Text.Search

/-!
# Clusters Without Rules

Where no rule lets calls fail, a call does what it is there for whenever the node can be reached and
the container is there.

- `reply_of_rules_nil`: every call is carried out. What this comes to on a node whose containers are
  known is said for each call after it.
- `Replaced`: what a call that changes a node leaves behind.
- `world_run_call`: a program that makes such a call goes on with the answer.
- `primaryName_build`, `canonicalName?_build`: both names of a container that was created are the
  name of its plan.
-/

namespace Flotilla.Cluster

variable {k : Cluster} {node id : String} {list : List Held} {h : Held}

/-! ## §1 Calls -/

theorem reply_of_rules_nil (hk : k.rules = []) (c : Call) : reply c k = k.perform c := by
  unfold reply
  rw [hk]
  rfl

theorem reply_nodes_ok (hk : k.rules = []) (hfault : k.registryFault = none) :
    reply .nodes k = (.ok k.nodes, k) := by
  rw [reply_of_rules_nil hk]
  simp only [perform, hfault]

theorem reply_list_ok (hk : k.rules = []) (hhost : k.host? node = some list) :
    reply (.list node) k = (.ok (list.map (·.summary)), k) := by
  rw [reply_of_rules_nil hk]
  simp only [perform, hhost]

theorem reply_inspect_ok (hk : k.rules = []) (hhost : k.host? node = some list)
    (hfound : list.find? (·.summary.id = id) = some h) :
    reply (.inspect node id) k = (.ok h.snapshot, k) := by
  rw [reply_of_rules_nil hk]
  simp only [perform, hhost, hfound]

/-- A program that makes a call goes on with the answer, from the state after the call. -/
theorem world_run_call {α : Type} {cancelled : List Event → Bool} {c : Call} {answer : c.Reply}
    {k k' : Cluster} (hreply : reply c k = (answer, k')) (f : c.Reply → Remote α)
    (events : List Event) :
    (Remote.call c >>= f).run (world cancelled).answer ⟨k, events⟩ =
      (f answer).run (world cancelled).answer ⟨k', events ++ [.exchange c answer]⟩ := by
  simp [Remote.call, Program.request, World.answer, hreply]

/-! ## §2 Calls that change a node -/

/-- The second cluster is the first one with other containers on one node. -/
structure Replaced (k : Cluster) (node : String) (new : List Held) (k' : Cluster) : Prop where
  rules : k'.rules = k.rules
  registryFault : k'.registryFault = k.registryFault
  nodes : k'.nodes = k.nodes
  here : k'.host? node = some new
  elsewhere : ∀ other, other ≠ node → k'.host? other = k.host? other

theorem Replaced.held {new : List Held} {k' : Cluster} (h : Replaced k node new k') :
    k'.held = Function.update k.held node new := by
  funext other
  -- On the node itself the view shows the new containers, elsewhere the same hosts are found.
  by_cases hother : other = node
  · subst hother
    rw [Function.update_self, held_of_host? h.here]
  · rw [Function.update_of_ne hother]
    unfold Cluster.held
    rw [h.elsewhere other hother]

/-- A node that holds a container can be reached. -/
theorem host?_of_mem_held (hmem : h ∈ k.held node) : k.host? node = some (k.held node) := by
  unfold held at hmem ⊢
  cases hhost : k.host? node with
  | none =>
    rw [hhost] at hmem
    cases hmem
  | some list => rfl

/-- What holds of the containers of every host, and of no containers, holds on any node. -/
theorem of_hosts {P : List Held → Prop} (hnone : P []) (hhosts : ∀ host ∈ k.hosts, P host.2)
    (node : String) : P (k.held node) := by
  unfold Cluster.held host?
  cases hfound : k.hosts.find? (·.1 = node) with
  | none => exact hnone
  | some host => exact hhosts host (List.mem_of_find?_eq_some hfound)

theorem replaced_setHost (hhost : k.host? node = some list) (new : List Held) :
    Replaced k node new (k.setHost node new) where
  rules := rfl
  registryFault := rfl
  nodes := rfl
  here := by simp [host?_setHost, hhost]
  elsewhere := by
    intro other hother
    simp [host?_setHost, hother]

theorem change_ok (f : List Held → List Held) (hhost : k.host? node = some list)
    (hfound : list.find? (·.summary.id = id) = some h) :
    ∃ k', k.change node id f = (.ok (), k') ∧ Replaced k node (f list) k' := by
  -- What is found is there, which is all that a change asks for.
  have hthere : list.any (·.summary.id = id) = true := by
    rw [← List.isSome_find?, hfound]
    rfl
  refine ⟨k.setHost node (f list), ?_, replaced_setHost hhost _⟩
  simp only [change, hhost, hthere, if_true]

theorem reply_stop_ok (hk : k.rules = []) (hhost : k.host? node = some list)
    (hfound : list.find? (·.summary.id = id) = some h) :
    ∃ k', reply (.stop node id) k = (.ok (), k') ∧
      Replaced k node (modifyFirst id (withState "exited") list) k' := by
  rw [reply_of_rules_nil hk]
  exact change_ok _ hhost hfound

theorem reply_delete_ok (hk : k.rules = []) (hhost : k.host? node = some list)
    (hfound : list.find? (·.summary.id = id) = some h) :
    ∃ k', reply (.delete node id) k = (.ok (), k') ∧ Replaced k node (removeFirst id list) k' := by
  rw [reply_of_rules_nil hk]
  exact change_ok _ hhost hfound

theorem reply_create_ok (plan : Plan) (hk : k.rules = []) (hhost : k.host? node = some list)
    (hfree : isTaken plan.name list = false) :
    ∃ number k', reply (.create node plan) k = (.ok (), k') ∧
      Replaced k node (list ++ [build plan number]) k' := by
  rw [reply_of_rules_nil hk]
  simp only [perform, hhost, hfree, Bool.false_eq_true, if_false]
  -- The number of containers created so far concerns no node.
  have hset := replaced_setHost hhost (list ++ [build plan (k.created + 1)])
  exact ⟨k.created + 1, _, rfl, hset.rules, hset.registryFault, hset.nodes, hset.here,
    hset.elsewhere⟩

/-! ## §3 Created containers -/

theorem isTaken_eq_false {name : String} :
    isTaken name list = false ↔ name = "" ∨ name ∉ list.map (·.summary.primaryName) := by
  unfold isTaken
  rw [Bool.and_eq_false_iff, List.any_eq_false, List.mem_map]
  simp

/-- The entry of a container that was created shows the name of its plan. -/
theorem primaryName_build (plan : Plan) (number : Nat) :
    (build plan number).summary.primaryName = Text.dropLeading '/' plan.name := by
  unfold Container.primaryName build
  -- A plan without a name gives the container no name at all, and the entry shows none.
  by_cases hname : plan.name = ""
  · simp [hname]
  · simpa [hname] using Text.dropLeading_singleton_append '/' plan.name

/-- Its configuration says the same, unless slashes lead the name of the plan. -/
theorem canonicalName?_build {plan : Plan} (number : Nat)
    (hplain : Text.dropLeading '/' plan.name = plan.name) :
    (build plan number).snapshot.canonicalName?.getD "" = plan.name := by
  unfold Snapshot.canonicalName? build
  -- Here an empty name is left out, so nothing is shown for it either.
  by_cases hname : plan.name = ""
  · simp [hname]
  · simp [hname, hplain, Option.filter_some]

/-- A container without a name, and with a blank image in its configuration. -/
def unnamed : Held where
  summary := ⟨"2", " redis ", [], "Up", "running"⟩
  snapshot := ⟨none, some " ", [], [], noRestart⟩

end Flotilla.Cluster
