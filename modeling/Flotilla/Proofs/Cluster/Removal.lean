import Flotilla.Proofs.Cluster.Calls
import Mathlib.Data.List.Basic

/-!
# The First Container With an Id

How lists of containers look where the first container with an id is found, removed or changed.

- `Touched`: nothing has changed but, perhaps, the state of the first container with an id.
- `removeFirsts`: one container less for each of some ids. Where all ids are different, this is the
  list without the containers that have one of them (`removeFirsts_eq_filter`).
-/

namespace Flotilla.Cluster

/-! ## §1 One container -/

/-- Removing the first container with an id is an operation on lists that has laws already. -/
theorem removeFirst_eq_eraseP (id : String) (list : List Held) :
    removeFirst id list = list.eraseP fun h => h.summary.id = id := by
  -- By induction on the list; both walk it up to the first container with the id.
  induction list with
  | nil => rfl
  | cons h rest ih => by_cases hid : h.summary.id = id <;> simp [removeFirst, hid, ih]

/-- A container that is in the first part is changed there. -/
theorem modifyFirst_append {id : String} {f : Held → Held} {list more : List Held}
    (hthere : ∃ h ∈ list, h.summary.id = id) :
    modifyFirst id f (list ++ more) = modifyFirst id f list ++ more := by
  induction list with
  | nil => simp at hthere
  | cons h rest ih =>
    -- Either the first container is the one, and the rest is not looked at, or the one is in the
    -- rest.
    by_cases hid : h.summary.id = id
    · simp [modifyFirst, hid]
    · have hrest : ∃ h ∈ rest, h.summary.id = id := by simpa [hid] using hthere
      simp [modifyFirst, hid, ih hrest]

section First

variable {id : String} {list more : List Held}

/-- A container that is in the first part is removed there. -/
theorem removeFirst_append (hthere : ∃ h ∈ list, h.summary.id = id) :
    removeFirst id (list ++ more) = removeFirst id list ++ more := by
  obtain ⟨h, hmem, hid⟩ := hthere
  rw [removeFirst_eq_eraseP, removeFirst_eq_eraseP]
  -- Some element satisfies the condition in the first part, so the second one is not reached.
  exact List.eraseP_append_left (a := h) (by simpa using hid) more hmem

theorem exists_find?_iff :
    (∃ h, list.find? (·.summary.id = id) = some h) ↔ ∃ h ∈ list, h.summary.id = id := by
  rw [← Option.isSome_iff_exists, List.find?_isSome]
  simp

/-- A container that is there is one less when it is removed. -/
theorem length_removeFirst (hthere : ∃ h ∈ list, h.summary.id = id) :
    (removeFirst id list).length + 1 = list.length := by
  obtain ⟨h, hmem, hid⟩ := hthere
  have hpos := List.length_pos_of_mem hmem
  rw [removeFirst_eq_eraseP, List.length_eraseP_of_mem hmem (decide_eq_true hid)]
  omega

/-- Where there are fewer containers to begin with, there are fewer left. -/
theorem removeFirst_sublist_removeFirst (h : list.Sublist more) :
    (removeFirst id list).Sublist (removeFirst id more) := by
  rw [removeFirst_eq_eraseP, removeFirst_eq_eraseP]
  exact h.eraseP

/-- The container that is found under another id is still found. -/
theorem find?_removeFirst {other : String} (hne : other ≠ id) :
    (removeFirst id list).find? (·.summary.id = other) =
      list.find? (·.summary.id = other) := by
  -- The law of `eraseP` speaks of membership, not of what is found first, so this is by induction.
  induction list with
  | nil => rfl
  | cons h rest ih =>
    by_cases hid : h.summary.id = id
    · -- The container that is removed has the wrong id to be found.
      simp [removeFirst, hid, hne.symm]
    · by_cases hother : h.summary.id = other <;> simp [removeFirst, hid, hother, hne, ih]

/-- A new container with an id that no other one has is found behind them. -/
theorem find?_append_new {new : Held} (hnew : ∀ h ∈ list, h.summary.id ≠ new.summary.id) :
    (list ++ [new]).find? (·.summary.id = new.summary.id) = some new := by
  -- Nothing before it is found.
  rw [List.find?_append, List.find?_eq_none.mpr (by simpa using hnew)]
  simp

/-- Without it the others are what they were. -/
theorem removeFirst_append_new {new : Held} (hnew : ∀ h ∈ list, h.summary.id ≠ new.summary.id) :
    removeFirst new.summary.id (list ++ [new]) = list := by
  rw [removeFirst_eq_eraseP, List.eraseP_append_right _ (by simpa using hnew)]
  simp

end First

/-! ## §2 Containers up to their state -/

@[simp] theorem id_withState (state : String) (h : Held) :
    (withState state h).summary.id = h.summary.id := rfl

/-- A container but for its state. -/
def stateless (h : Held) : Held :=
  withState "" h

/-- The first container with an id may have changed its state, and nothing else has changed. -/
inductive Touched (id : String) (list : List Held) : List Held → Prop where
  | same : Touched id list list
  | state (state : String) : Touched id list (modifyFirst id (withState state) list)

section Touched

variable {id : String} {list now : List Held}

/-- Removing a container does not look at states. -/
theorem map_stateless_removeFirst (id : String) (list : List Held) :
    (removeFirst id list).map stateless = removeFirst id (list.map stateless) := by
  induction list with
  | nil => rfl
  | cons h rest ih =>
    by_cases hid : h.summary.id = id <;> simp [removeFirst, hid, ih, stateless]

/-- A change of state does not show where states are left out. -/
theorem map_stateless_modifyFirst (id state : String) (list : List Held) :
    (modifyFirst id (withState state) list).map stateless = list.map stateless := by
  induction list with
  | nil => rfl
  | cons h rest ih =>
    by_cases hid : h.summary.id = id <;> simp [modifyFirst, hid, ih, stateless, withState]

/-- A container that is removed takes its new state with it. -/
theorem removeFirst_modifyFirst (id state : String) (list : List Held) :
    removeFirst id (modifyFirst id (withState state) list) = removeFirst id list := by
  induction list with
  | nil => rfl
  | cons h rest ih =>
    by_cases hid : h.summary.id = id <;> simp [modifyFirst, removeFirst, hid, ih]

theorem find?_modifyFirst {other : String} (state : String) (hne : other ≠ id) :
    (modifyFirst id (withState state) list).find? (·.summary.id = other) =
      list.find? (·.summary.id = other) := by
  induction list with
  | nil => rfl
  | cons h rest ih =>
    -- The container that is changed keeps its id, which is not the one that is looked for.
    by_cases hid : h.summary.id = id
    · simp [modifyFirst, hid, hne.symm]
    · by_cases hother : h.summary.id = other <;> simp [modifyFirst, hid, hother, hne, ih]

/-- The container that has changed its state is found with the new one. -/
theorem find?_modifyFirst_self {h : Held} (state : String)
    (hfound : list.find? (·.summary.id = id) = some h) :
    (modifyFirst id (withState state) list).find? (·.summary.id = id) =
      some (withState state h) := by
  induction list with
  | nil => cases hfound
  | cons first rest ih =>
    -- The first container with the id is what is found and what is changed.
    by_cases hid : first.summary.id = id
    · simp only [List.find?_cons, hid, decide_true] at hfound
      cases hfound
      simp [modifyFirst, hid]
    · simp only [List.find?_cons, hid, decide_false] at hfound
      simp [modifyFirst, hid, ih hfound]

theorem Touched.map_stateless (h : Touched id list now) :
    now.map stateless = list.map stateless := by
  cases h with
  | same => rfl
  | state state => exact map_stateless_modifyFirst id state list

theorem Touched.length_eq (h : Touched id list now) : now.length = list.length := by
  -- Leaving states out keeps the number of containers.
  simpa using congrArg List.length h.map_stateless

theorem Touched.removeFirst_eq (h : Touched id list now) :
    removeFirst id now = removeFirst id list := by
  cases h with
  | same => rfl
  | state state => exact removeFirst_modifyFirst id state list

theorem Touched.find?_eq {other : String} (h : Touched id list now) (hne : other ≠ id) :
    now.find? (·.summary.id = other) = list.find? (·.summary.id = other) := by
  cases h with
  | same => rfl
  | state state => exact find?_modifyFirst state hne

/-- A container that is there is touched there. -/
theorem Touched.append {more : List Held} (h : Touched id (list ++ more) now)
    (hthere : ∃ h ∈ list, h.summary.id = id) :
    ∃ touched, now = touched ++ more ∧ Touched id list touched := by
  cases h with
  | same => exact ⟨list, rfl, .same⟩
  | state state => exact ⟨_, modifyFirst_append hthere, .state state⟩

end Touched

/-! ## §3 Removing several containers -/

/-- The containers that are left after the first one with each of the ids was removed. -/
def removeFirsts (ids : List String) (list : List Held) : List Held :=
  ids.foldl (fun list id => removeFirst id list) list

/-- Ids are removed one after the other. -/
theorem removeFirsts_append (ids more : List String) (list : List Held) :
    removeFirsts (ids ++ more) list = removeFirsts more (removeFirsts ids list) :=
  List.foldl_append ..

theorem removeFirsts_sublist_removeFirsts (ids : List String) {list more : List Held}
    (h : list.Sublist more) : (removeFirsts ids list).Sublist (removeFirsts ids more) := by
  -- By induction on the ids, with the lists arbitrary: they change with every id.
  induction ids generalizing list more with
  | nil => exact h
  | cons id ids ih => exact ih (removeFirst_sublist_removeFirst h)

/-- What is left stands in the order in which it stood. -/
theorem removeFirsts_sublist (ids : List String) (list : List Held) :
    (removeFirsts ids list).Sublist list := by
  induction ids generalizing list with
  | nil => exact List.Sublist.refl list
  | cons id ids ih => exact (ih _).trans (removeFirst_sublist id list)

/-! ## §4 Lists with different ids -/

section Distinct

variable {list : List Held}

/-- Where ids are different, every container is the first one with its id. -/
theorem find?_of_mem {h : Held} (hids : (list.map (·.summary.id)).Nodup) (hmem : h ∈ list) :
    list.find? (·.summary.id = h.summary.id) = some h := by
  induction list with
  | nil => cases hmem
  | cons first rest ih =>
    rw [List.map_cons, List.nodup_cons] at hids
    rcases List.mem_cons.mp hmem with rfl | hrest
    · simp
    · -- Any container before it has another id, since ids are different.
      have hne : first.summary.id ≠ h.summary.id :=
        fun hsame => hids.1 (hsame ▸ List.mem_map_of_mem hrest)
      simp [hne, ih hids.2 hrest]

/-- Where ids are different, removing the first container with an id removes all that have it. -/
theorem removeFirst_eq_filter (id : String) (hids : (list.map (·.summary.id)).Nodup) :
    removeFirst id list = list.filter (·.summary.id ≠ id) := by
  induction list with
  | nil => rfl
  | cons first rest ih =>
    rw [List.map_cons, List.nodup_cons] at hids
    by_cases hid : first.summary.id = id
    · -- No other container has the id.
      have hrest : ∀ h ∈ rest, h.summary.id ≠ id :=
        fun h hmem hsame => hids.1 (hid ▸ hsame ▸ List.mem_map_of_mem hmem)
      simpa [removeFirst, hid] using (List.filter_eq_self.mpr (by simpa using hrest)).symm
    · simp [removeFirst, hid, ih hids.2]

/-- So removing several of them is a filter, and their order does not matter. -/
theorem removeFirsts_eq_filter (ids : List String) (hids : (list.map (·.summary.id)).Nodup) :
    removeFirsts ids list = list.filter (·.summary.id ∉ ids) := by
  -- What is left after the first id has different ids still, so the hypothesis applies to it.
  induction ids generalizing list with
  | nil => simp [removeFirsts]
  | cons id ids ih =>
    have hrest : ((removeFirst id list).map (·.summary.id)).Nodup :=
      hids.sublist ((removeFirst_sublist id list).map _)
    calc removeFirsts (id :: ids) list
        = removeFirsts ids (removeFirst id list) := rfl
      _ = (list.filter (·.summary.id ≠ id)).filter (·.summary.id ∉ ids) := by
          rw [ih hrest, removeFirst_eq_filter id hids]
      _ = list.filter (·.summary.id ∉ id :: ids) := by
          rw [List.filter_filter]
          simp [Bool.and_comm]

end Distinct

end Flotilla.Cluster
