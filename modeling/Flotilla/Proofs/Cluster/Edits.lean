import Flotilla.Proofs.Cluster.Lasting
import Flotilla.Proofs.Cluster.Removal
import Flotilla.Proofs.Remote

/-!
# Starting, Stopping and Deleting

Three calls change one container where it stands. Where no rule is ever used up, edits of different
containers do not get in each other's way, not even on one node.

- `Edit.on_comm`: on a list of containers, edits of different containers commute.
- `Edit.reply_eq`: what such a call answers (`verdict`) and leaves behind (`edited`).
- `verdict_edited`, `edited_comm`: an edit changes no answer about another container, and both
  orders of two edits lead to the same cluster.
-/

namespace Flotilla.Cluster

/-- A change of one container. -/
inductive Edit where
  | start
  | stop
  | delete

namespace Edit

def call (e : Edit) (key : MatchKey) : Call :=
  match e with
  | start => .start key.nodeId key.containerId
  | stop => .stop key.nodeId key.containerId
  | delete => .delete key.nodeId key.containerId

/-- What the cluster answers to the call, and how it is then. All three calls have answers of one
type, which their common form as calls does not show. -/
def reply (e : Edit) (key : MatchKey) (k : Cluster) : Except Fault Unit × Cluster :=
  match e with
  | start => Cluster.reply (.start key.nodeId key.containerId) k
  | stop => Cluster.reply (.stop key.nodeId key.containerId) k
  | delete => Cluster.reply (.delete key.nodeId key.containerId) k

/-! ## §1 Lists of containers -/

/-- What stands in the place of the container afterwards. -/
def instead (e : Edit) (h : Held) : List Held :=
  match e with
  | start => [withState "running" h]
  | stop => [withState "exited" h]
  | delete => []

/-- The containers of the node afterwards. -/
def on (e : Edit) (id : String) (list : List Held) : List Held :=
  match e with
  | start => modifyFirst id (withState "running") list
  | stop => modifyFirst id (withState "exited") list
  | delete => removeFirst id list

variable {e : Edit} {id other : String} {h : Held} {list rest : List Held}

@[simp] theorem on_nil : e.on id [] = [] := by
  cases e <;> rfl

theorem on_cons_self (hid : h.summary.id = id) : e.on id (h :: rest) = e.instead h ++ rest := by
  cases e <;> simp [on, instead, modifyFirst, removeFirst, hid]

theorem on_cons_of_ne (hne : h.summary.id ≠ id) : e.on id (h :: rest) = h :: e.on id rest := by
  cases e <;> simp [on, modifyFirst, removeFirst, hne]

theorem id_of_mem_instead {now : Held} (hnow : now ∈ e.instead h) :
    now.summary.id = h.summary.id := by
  cases e with
  | start | stop =>
    rw [List.mem_singleton.mp hnow]
    exact id_withState _ h
  | delete => cases hnow

/-- An edit passes over what stands in the place of another container. -/
theorem on_instead_append (hne : h.summary.id ≠ other) (e d : Edit) (rest : List Held) :
    e.on other (d.instead h ++ rest) = d.instead h ++ e.on other rest := by
  cases d with
  | start | stop => exact on_cons_of_ne hne
  | delete => rfl

/-- On one node, edits of different containers commute. -/
theorem on_comm (e d : Edit) (hne : id ≠ other) (list : List Held) :
    e.on id (d.on other list) = d.on other (e.on id list) := by
  -- By induction on the list: its first container is the one of one edit, or of the other one, or
  -- of neither.
  induction list with
  | nil => simp
  | cons h rest ih =>
    by_cases hid : h.summary.id = id
    · have hother : h.summary.id ≠ other := hid ▸ hne
      rw [on_cons_of_ne hother, on_cons_self hid, on_cons_self hid, on_instead_append hother]
    · by_cases hother : h.summary.id = other
      · rw [on_cons_of_ne hid, on_cons_self hother, on_cons_self hother, on_instead_append hid]
      · rw [on_cons_of_ne hother, on_cons_of_ne hid, on_cons_of_ne hid, on_cons_of_ne hother, ih]

/-- An edit leaves all other ids as they are. -/
theorem any_on (e : Edit) (hne : id ≠ other) (list : List Held) :
    (e.on id list).any (·.summary.id = other) = list.any (·.summary.id = other) := by
  induction list with
  | nil => simp
  | cons h rest ih =>
    by_cases hid : h.summary.id = id
    · -- What stands in the place of the container has its id, so it does not count.
      have hnone : (e.instead h).any (·.summary.id = other) = false := by
        rw [List.any_eq_false]
        intro now hnow
        simpa [id_of_mem_instead hnow, hid] using hne
      rw [on_cons_self hid, List.any_append, List.any_cons, hnone]
      simp [hid, hne]
    · rw [on_cons_of_ne hid, List.any_cons, List.any_cons, ih]

end Edit

/-! ## §2 Answers -/

/-- Whether the container with a key is there, if its node can be reached. -/
def standing (k : Cluster) (key : MatchKey) : Option Bool :=
  (k.host? key.nodeId).map fun list => list.any (·.summary.id = key.containerId)

/-- The answer to an edit: by the first rule about the call, or by what is there. -/
def verdict (k : Cluster) (e : Edit) (key : MatchKey) : Except Fault Unit :=
  match k.rules.find? (·.covers (e.call key)) with
  | some r => .error r.fault
  | none =>
    match k.standing key with
    | none => .error notConnected
    | some false => .error (noSuchContainer key.containerId)
    | some true => .ok ()

/-- The cluster after an edit: changed if the edit succeeded, and otherwise as it was. -/
def edited (k : Cluster) (e : Edit) (key : MatchKey) : Cluster :=
  if isFault (k.verdict e key) then k
  else k.setHost key.nodeId (e.on key.containerId (k.held key.nodeId))

variable {k : Cluster} {e d : Edit} {key other : MatchKey}

/-- Where no rule applies, what is there decides. -/
theorem change_eq (k : Cluster) (key : MatchKey) (f : List Held → List Held) :
    k.change key.nodeId key.containerId f =
      match k.standing key with
      | none => (.error notConnected, k)
      | some false => (.error (noSuchContainer key.containerId), k)
      | some true => (.ok (), k.setHost key.nodeId (f (k.held key.nodeId))) := by
  unfold change standing
  cases hhost : k.host? key.nodeId with
  | none => rfl
  | some list =>
    rw [held_of_host? hhost]
    cases hthere : list.any (·.summary.id = key.containerId) <;> simp [hthere]

/-- Where no rule is ever used up, a call answers and leaves behind what its edit says. -/
theorem Edit.reply_eq (hk : k.Lasting) (e : Edit) (key : MatchKey) :
    e.reply key k = (k.verdict e key, k.edited e key) := by
  -- The three calls are one change of the cluster with different functions on lists.
  have hreply : e.reply key k =
      match k.rules.find? (·.covers (e.call key)) with
      | some r => (.error r.fault, k)
      | none => k.change key.nodeId key.containerId (e.on key.containerId) := by
    cases e <;> exact hk.reply_eq _
  rw [hreply, change_eq]
  unfold Cluster.edited verdict
  cases k.rules.find? (·.covers (e.call key)) with
  | some r => rfl
  | none =>
    cases k.standing key with
    | none => rfl
    | some there => cases there <;> rfl

theorem rules_edited (k : Cluster) (e : Edit) (key : MatchKey) :
    (k.edited e key).rules = k.rules := by
  unfold edited
  split
  · rfl
  · rfl

theorem Lasting.edited (hk : k.Lasting) (e : Edit) (key : MatchKey) :
    (k.edited e key).Lasting := by
  intro r hr
  rw [rules_edited] at hr
  exact hk r hr

/-! ## §3 Edits of different containers -/

theorem setHost_setHost (k : Cluster) (node : String) (old new : List Held) :
    (k.setHost node old).setHost node new = k.setHost node new := by
  -- Host by host: the later containers replace the earlier ones.
  unfold setHost
  rw [List.map_map]
  congr 2
  funext host
  by_cases hnode : host.1 = node <;> simp [hnode]

theorem setHost_comm {node other : String} (hne : node ≠ other) (k : Cluster)
    (here there : List Held) :
    (k.setHost node here).setHost other there = (k.setHost other there).setHost node here := by
  -- Host by host: no host has both names, so at most one of the two changes concerns it.
  unfold setHost
  rw [List.map_map, List.map_map]
  congr 2
  funext host
  by_cases hnode : host.1 = node
  · simp [hnode, hne]
  · simp [hnode]

/-- Different containers of one node have different ids. -/
theorem containerId_ne (hne : key ≠ other) (hnode : key.nodeId = other.nodeId) :
    key.containerId ≠ other.containerId := by
  intro hid
  apply hne
  show MatchKey.mk key.nodeId key.containerId = other
  rw [hnode, hid]

/-- An edit takes no other container away, and brings none. -/
theorem standing_edited (hne : key ≠ other) (k : Cluster) (d : Edit) :
    (k.edited d other).standing key = k.standing key := by
  unfold edited
  split
  · rfl
  · unfold standing
    rw [host?_setHost]
    -- Only an edit on the same node changes the list where the container is looked for.
    by_cases hnode : key.nodeId = other.nodeId
    · have hid : other.containerId ≠ key.containerId := (containerId_ne hne hnode).symm
      cases hhost : k.host? key.nodeId with
      | none => simp
      | some list =>
        rw [← hnode, held_of_host? hhost]
        simp [Edit.any_on d hid]
    · rw [if_neg hnode]

/-- The answer to an edit does not depend on whether another container was edited before. -/
theorem verdict_edited (hne : key ≠ other) (k : Cluster) (e d : Edit) :
    (k.edited d other).verdict e key = k.verdict e key := by
  unfold verdict
  rw [rules_edited, standing_edited hne]

theorem edited_of_fault (h : isFault (k.verdict e key) = true) : k.edited e key = k :=
  if_pos h

theorem edited_of_ok (h : isFault (k.verdict e key) = false) :
    k.edited e key = k.setHost key.nodeId (e.on key.containerId (k.held key.nodeId)) := by
  unfold edited
  rw [h]
  rfl

/-- The node of an edit that succeeds can be reached. -/
theorem host?_of_verdict (h : isFault (k.verdict e key) = false) :
    k.host? key.nodeId = some (k.held key.nodeId) := by
  unfold verdict standing at h
  -- Without the node the answer is a fault, whether a rule applies or not.
  cases hhost : k.host? key.nodeId with
  | some list => rw [held_of_host? hhost]
  | none =>
    rw [hhost] at h
    cases hrule : k.rules.find? (·.covers (e.call key)) with
    | none => simp [hrule, isFault] at h
    | some r => simp [hrule, isFault] at h

/-- Two edits that succeed change their nodes one after the other. -/
theorem edited_twice (hne : key ≠ other) (hfirst : isFault (k.verdict e key) = false)
    (hsecond : isFault (k.verdict d other) = false) :
    (k.edited e key).edited d other =
      (k.setHost key.nodeId (e.on key.containerId (k.held key.nodeId))).setHost other.nodeId
        (d.on other.containerId (Function.update k.held key.nodeId
          (e.on key.containerId (k.held key.nodeId)) other.nodeId)) := by
  -- The second edit succeeds after the first one, too, and finds what that one has left.
  have hstill : isFault ((k.edited e key).verdict d other) = false := by
    rw [verdict_edited hne.symm]
    exact hsecond
  rw [edited_of_ok hstill, edited_of_ok hfirst, held_setHost (host?_of_verdict hfirst)]

/-- The order of two edits does not matter. -/
theorem edited_comm (hne : key ≠ other) (k : Cluster) (e d : Edit) :
    (k.edited e key).edited d other = (k.edited d other).edited e key := by
  -- An edit that fails here or there fails on both sides, and does nothing.
  cases hfirst : isFault (k.verdict e key) with
  | true =>
    have hstill : isFault ((k.edited d other).verdict e key) = true := by
      rw [verdict_edited hne]
      exact hfirst
    rw [edited_of_fault hfirst, edited_of_fault hstill]
  | false =>
    cases hsecond : isFault (k.verdict d other) with
    | true =>
      have hstill : isFault ((k.edited e key).verdict d other) = true := by
        rw [verdict_edited hne.symm]
        exact hsecond
      rw [edited_of_fault hsecond, edited_of_fault hstill]
    | false =>
      -- Both succeed: on one node its list is edited twice, on two nodes each list once.
      rw [edited_twice hne hfirst hsecond, edited_twice hne.symm hsecond hfirst]
      by_cases hnode : key.nodeId = other.nodeId
      · have hid := containerId_ne hne hnode
        rw [← hnode, Function.update_self, Function.update_self, setHost_setHost, setHost_setHost,
          Edit.on_comm e d hid]
      · rw [Function.update_of_ne (Ne.symm hnode), Function.update_of_ne hnode,
          setHost_comm hnode]

end Flotilla.Cluster
