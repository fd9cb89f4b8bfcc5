import Flotilla.Migration
import Flotilla.Proofs.Http.Sent
import Flotilla.Proofs.Scan

/-!
# Programs That Only Read

Nodes are listed and selected, and containers are listed, counted and scanned, by calls that change
nothing. A program only reads if all of its calls do, whatever the replies are, so it can be judged
part by part.
-/

namespace Flotilla

/-- All calls of a run so far have only read. -/
def Run.HasRead {σ : Type} (r : Run σ) : Prop :=
  ∀ c ∈ callsOf r.events, c.isRead

namespace Remote

variable {α : Type}

/-- Whatever the replies are, all calls of the program only read. -/
def OnlyReads (p : Remote α) : Prop :=
  ∀ events a, Yields p events a → ∀ c ∈ callsOf events, c.isRead

theorem OnlyReads.run {σ : Type} {p : Remote α} (hp : p.OnlyReads) (w : World σ) {r : Run σ}
    (hr : r.HasRead) : (p.run w.answer r).2.HasRead := by
  unfold Run.HasRead
  -- What the run adds is what the program asks for and hears, and that is judged alone.
  obtain ⟨events, happ, hyields⟩ := w.run_yields_from p r
  rw [happ, callsOf_append]
  intro c hc
  rcases List.mem_append.mp hc with hc | hc
  · exact hr c hc
  · exact hp events _ hyields c hc

theorem onlyReads_pure (a : α) : (pure a : Remote α).OnlyReads := by
  intro events b h
  obtain ⟨rfl, -⟩ := yields_pure.mp h
  simp

theorem onlyReads_call {c : Call} {f : c.Reply → Remote α} (hc : c.isRead)
    (hf : ∀ reply, (f reply).OnlyReads) : (call c >>= f).OnlyReads := by
  intro events a h
  obtain ⟨reply, rest, rfl, hrest⟩ := yields_call h
  -- The call itself, and then those of what follows.
  rw [callsOf_exchange]
  exact List.forall_mem_cons.mpr ⟨hc, hf reply rest a hrest⟩

theorem onlyReads_listNodes : listNodes.OnlyReads := by
  unfold listNodes
  refine onlyReads_call rfl fun reply => ?_
  cases reply with
  | error fault => exact onlyReads_pure _
  | ok nodes => exact onlyReads_pure _

theorem onlyReads_selectNodes (s : Selection) : (selectNodes s).OnlyReads := by
  intro events a h
  obtain ⟨first, nodes, rest, rfl, hnodes, hrest⟩ := yields_bind h
  -- Nodes are selected from the listing without asking for more.
  have hdone : rest = [] := by
    cases nodes with
    | error refusal => exact (yields_pure.mp hrest).1
    | ok nodes => exact (yields_pure.mp hrest).1
  rw [hdone, List.append_nil]
  exact onlyReads_listNodes first nodes hnodes

/-- A program during which only listings happen only reads. -/
theorem onlyReads_of_only_lists {p : Remote α}
    (hp : ∀ events a, Yields p events a → ∀ e ∈ events, e.IsListing) : p.OnlyReads := by
  intro events a h c hc
  -- A call among the events belongs to an event, which is a listing.
  obtain ⟨e, he, hcall⟩ := List.mem_filterMap.mp hc
  obtain ⟨node, reply, rfl⟩ := hp events a h e he
  cases hcall
  rfl

theorem onlyReads_scan (nodes : List Node) (filter : String) : (scan nodes filter).OnlyReads :=
  onlyReads_of_only_lists fun _ _ => Scan.only_lists

theorem onlyReads_scanBestEffort (nodes : List Node) (filter : String) :
    (scanBestEffort nodes filter).OnlyReads :=
  onlyReads_of_only_lists fun _ _ => Scan.bestEffort_only_lists

theorem onlyReads_countContainers (node : String) : (countContainers node).OnlyReads := by
  unfold countContainers
  refine onlyReads_call rfl fun reply => ?_
  cases reply with
  | error fault => exact onlyReads_pure _
  | ok containers => exact onlyReads_pure _

end Remote

end Flotilla
