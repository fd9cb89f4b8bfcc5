import Flotilla.Distinct
import Mathlib.Data.List.Basic

/-!
# Lists Without Repetition

- `repeatedBy?_eq_none`: no element repeats the key of an earlier one exactly if the keys are all
  different. `firstRepeated?_eq_some` says which one does otherwise.
- `mem_distinctBy`: an element is kept exactly if it is the first one with its key. The keys that
  are kept are all the keys, each where it occurs first (`map_distinctBy`).
- `find?_perm`: where all keys are different, what is found by a key does not depend on the order.
- `distinctBy_filter`: repetitions can be dropped before or after the elements with certain keys.
-/

namespace Flotilla

variable {α κ : Type} [DecidableEq κ] {key : α → κ}

/-! ## §1 The first repetition -/

theorem repeatedBy?_eq_none {seen : List κ} {as : List α} :
    repeatedBy? key seen as = none ↔ (as.map key).Nodup ∧ ∀ a ∈ as, key a ∉ seen := by
  induction as generalizing seen with
  | nil => simp [repeatedBy?]
  | cons a rest ih =>
    by_cases hseen : key a ∈ seen
    · simp [repeatedBy?, hseen]
    · -- The key of the first element counts as seen for the others.
      simp only [repeatedBy?, hseen, if_false, ih, List.map_cons, List.nodup_cons,
        List.forall_mem_cons]
      constructor
      · rintro ⟨hrest, hnew⟩
        refine ⟨⟨fun hfirst => ?_, hrest⟩, not_false, fun b hb hold => ?_⟩
        · obtain ⟨b, hb, hsame⟩ := List.mem_map.mp hfirst
          exact hnew b hb (hsame ▸ List.mem_cons_self ..)
        · exact hnew b hb (List.mem_cons_of_mem _ hold)
      · rintro ⟨⟨hfirst, hrest⟩, -, hnew⟩
        refine ⟨hrest, fun b hb hold => ?_⟩
        rcases List.mem_cons.mp hold with hsame | hold
        · exact hfirst (hsame ▸ List.mem_map_of_mem hb)
        · exact hnew b hb hold

theorem firstRepeated?_eq_none {as : List α} :
    firstRepeated? key as = none ↔ (as.map key).Nodup := by
  simp [firstRepeated?, repeatedBy?_eq_none]

/-- What is found repeats a key of what stands before it, where no key is repeated. -/
theorem repeatedBy?_eq_some {seen : List κ} {as : List α} {a : α}
    (h : repeatedBy? key seen as = some a) :
    ∃ before after, as = before ++ a :: after ∧ (before.map key).Nodup ∧
      (∀ b ∈ before, key b ∉ seen) ∧ (key a ∈ seen ∨ key a ∈ before.map key) := by
  induction as generalizing seen with
  | nil => cases h
  | cons b rest ih =>
    by_cases hseen : key b ∈ seen
    · simp only [repeatedBy?, hseen, if_true, Option.some.injEq] at h
      subst h
      exact ⟨[], rest, rfl, List.nodup_nil, by simp, .inl hseen⟩
    · simp only [repeatedBy?, hseen, if_false] at h
      obtain ⟨before, after, rfl, hnodup, hnew, hold⟩ := ih h
      have hfirst : key b ∉ before.map key := by
        intro hmem
        obtain ⟨c, hc, hsame⟩ := List.mem_map.mp hmem
        exact hnew c hc (hsame ▸ List.mem_cons_self ..)
      refine ⟨b :: before, after, rfl, List.nodup_cons.mpr ⟨hfirst, hnodup⟩, ?_, ?_⟩
      · intro c hc hcseen
        rcases List.mem_cons.mp hc with rfl | hc
        · exact hseen hcseen
        · exact hnew c hc (List.mem_cons_of_mem _ hcseen)
      · -- The key of the first element was seen by the others.
        rcases hold with hold | hold
        · rcases List.mem_cons.mp hold with hsame | hold
          · right
            rw [hsame, List.map_cons]
            exact List.mem_cons_self ..
          · exact .inl hold
        · exact .inr (List.mem_cons_of_mem _ hold)

/-- What repeats a key of the elements before it is found there, if they repeat none. -/
theorem repeatedBy?_append {seen : List κ} {before after : List α} {a : α}
    (hnodup : (before.map key).Nodup) (hnew : ∀ b ∈ before, key b ∉ seen)
    (hold : key a ∈ seen ∨ key a ∈ before.map key) :
    repeatedBy? key seen (before ++ a :: after) = some a := by
  -- By induction on the elements before it: the key of each of them counts as seen from there on.
  induction before generalizing seen with
  | nil =>
    have hseen : key a ∈ seen := hold.resolve_right (by simp)
    simp [repeatedBy?, hseen]
  | cons b rest ih =>
    rw [List.map_cons, List.nodup_cons] at hnodup
    have hb : key b ∉ seen := hnew b (List.mem_cons_self ..)
    simp only [List.cons_append, repeatedBy?, hb, if_false]
    apply ih hnodup.2
    · intro c hc hcseen
      rcases List.mem_cons.mp hcseen with hsame | hcseen
      · exact hnodup.1 (hsame ▸ List.mem_map_of_mem hc)
      · exact hnew c (List.mem_cons_of_mem _ hc) hcseen
    · rcases hold with hold | hold
      · exact .inl (List.mem_cons_of_mem _ hold)
      · rcases List.mem_cons.mp hold with hsame | hold
        · exact .inl (hsame ▸ List.mem_cons_self ..)
        · exact .inr hold

/-- The first repetition stands right behind elements with different keys, and has one of them. -/
theorem firstRepeated?_eq_some {as : List α} {a : α} :
    firstRepeated? key as = some a ↔
      ∃ before after, as = before ++ a :: after ∧ (before.map key).Nodup ∧
        key a ∈ before.map key := by
  constructor
  · intro h
    obtain ⟨before, after, has, hnodup, -, hold⟩ := repeatedBy?_eq_some h
    exact ⟨before, after, has, hnodup, hold.resolve_left (by simp)⟩
  · rintro ⟨before, after, rfl, hnodup, hold⟩
    exact repeatedBy?_append hnodup (by simp) (.inr hold)

/-! ## §2 The first element of every key -/

theorem find?_newBy {seen : List κ} {as : List α} {k : κ} (hk : k ∉ seen) :
    (newBy key seen as).find? (key · = k) = as.find? (key · = k) := by
  induction as generalizing seen with
  | nil => rfl
  | cons a rest ih =>
    by_cases hseen : key a ∈ seen
    · -- An element that is passed over has another key.
      have hne : key a ≠ k := fun hsame => hk (hsame ▸ hseen)
      simp [newBy, hseen, hne, ih hk]
    · by_cases hsame : key a = k
      · subst hsame
        simp [newBy, hseen]
      · have hk' : k ∉ key a :: seen := by simp [hk, Ne.symm hsame]
        simp [newBy, hseen, hsame, ih hk']

/-- The elements that are kept are those that are the first ones with a key that is new. -/
theorem mem_newBy {seen : List κ} {as : List α} {a : α} :
    a ∈ newBy key seen as ↔ key a ∉ seen ∧ as.find? (key · = key a) = some a := by
  induction as generalizing seen with
  | nil => simp [newBy]
  | cons b rest ih =>
    by_cases hseen : key b ∈ seen
    · simp only [newBy, hseen, if_true, ih]
      refine and_congr_right fun hnew => ?_
      have hne : key b ≠ key a := fun hsame => hnew (hsame ▸ hseen)
      simp [hne]
    · simp only [newBy, hseen, if_false, List.mem_cons, ih, not_or]
      by_cases hsame : key b = key a
      · -- Only the first element can be meant.
        simp [hsame, hsame ▸ hseen, eq_comm]
      · have hne : a ≠ b := fun hab => hsame (congrArg key hab.symm)
        simp [hsame, Ne.symm hsame, hne]

theorem mem_distinctBy {as : List α} {a : α} :
    a ∈ distinctBy key as ↔ as.find? (key · = key a) = some a := by
  simp [distinctBy, mem_newBy]

theorem find?_distinctBy (as : List α) (k : κ) :
    (distinctBy key as).find? (key · = k) = as.find? (key · = k) :=
  find?_newBy (by simp)

theorem nodup_map_newBy (seen : List κ) (as : List α) :
    ((newBy key seen as).map key).Nodup := by
  induction as generalizing seen with
  | nil => exact List.nodup_nil
  | cons a rest ih =>
    by_cases hseen : key a ∈ seen
    · simpa [newBy, hseen] using ih seen
    · simp only [newBy, hseen, if_false, List.map_cons, List.nodup_cons]
      refine ⟨fun hmem => ?_, ih _⟩
      -- The others are new where the first key was seen.
      obtain ⟨b, hb, hsame⟩ := List.mem_map.mp hmem
      exact (mem_newBy.mp hb).1 (hsame ▸ List.mem_cons_self ..)

theorem nodup_map_distinctBy (as : List α) : ((distinctBy key as).map key).Nodup :=
  nodup_map_newBy [] as

theorem map_newBy (seen : List κ) (as : List α) :
    (newBy key seen as).map key = ((as.map key).filter (· ∉ seen)).eraseDups := by
  -- `eraseDups` drops the later occurrences of a key as it goes, and so does `newBy` with what was
  -- seen.
  induction as generalizing seen with
  | nil => rfl
  | cons a rest ih =>
    by_cases hseen : key a ∈ seen
    · simp [newBy, hseen, ih]
    · -- What is left of the others has neither a key that was seen nor the first one.
      have hfilter : (rest.map key).filter (· ∉ key a :: seen) =
          ((rest.map key).filter (· ∉ seen)).filter fun k => !k == key a := by
        rw [List.filter_filter]
        congr 1
        funext k
        by_cases hk : k = key a <;> simp [hk]
      simp only [newBy, hseen, if_false, List.map_cons, ih, hfilter]
      rw [List.filter_cons_of_pos (by simp [hseen]), List.eraseDups_cons]

/-- The keys that are kept are all keys, each where it occurs first. -/
theorem map_distinctBy (as : List α) : (distinctBy key as).map key = (as.map key).eraseDups := by
  rw [distinctBy, map_newBy]
  simp

/-! ## §3 Lists with different keys -/

theorem newBy_eq_self {seen : List κ} {as : List α} (hnodup : (as.map key).Nodup)
    (hnew : ∀ a ∈ as, key a ∉ seen) : newBy key seen as = as := by
  induction as generalizing seen with
  | nil => rfl
  | cons a rest ih =>
    rw [List.map_cons, List.nodup_cons] at hnodup
    have hseen : key a ∉ seen := hnew a (List.mem_cons_self ..)
    simp only [newBy, hseen, if_false]
    congr 1
    apply ih hnodup.2
    intro b hb hmem
    rcases List.mem_cons.mp hmem with hsame | hold
    · exact hnodup.1 (hsame ▸ List.mem_map_of_mem hb)
    · exact hnew b (List.mem_cons_of_mem _ hb) hold

theorem distinctBy_eq_self {as : List α} (h : (as.map key).Nodup) : distinctBy key as = as :=
  newBy_eq_self h (by simp)

/-- Where keys are different, an element is found by its key. -/
theorem find?_eq_some_iff_mem {as : List α} (h : (as.map key).Nodup) {k : κ} {a : α} :
    as.find? (key · = k) = some a ↔ a ∈ as ∧ key a = k := by
  constructor
  · intro hfound
    exact ⟨List.mem_of_find?_eq_some hfound, by simpa using List.find?_some hfound⟩
  · rintro ⟨hmem, rfl⟩
    rw [← mem_distinctBy, distinctBy_eq_self h]
    exact hmem

/-- The order does not matter to what is found by a key then. -/
theorem find?_perm {as bs : List α} (hperm : as.Perm bs) (h : (as.map key).Nodup) (k : κ) :
    as.find? (key · = k) = bs.find? (key · = k) := by
  have hbs : (bs.map key).Nodup := (hperm.map key).nodup_iff.mp h
  -- What is found by a key is the member that has it, and the members are the same.
  apply Option.ext
  intro a
  rw [find?_eq_some_iff_mem h, find?_eq_some_iff_mem hbs, hperm.mem_iff]

/-! ## §4 Elements with certain keys -/

/-- Of the keys that were seen, only those that are still to come matter. -/
theorem newBy_congr {seen old : List κ} {as : List α}
    (h : ∀ a ∈ as, key a ∈ seen ↔ key a ∈ old) : newBy key seen as = newBy key old as := by
  induction as generalizing seen old with
  | nil => rfl
  | cons a rest ih =>
    have hrest : ∀ b ∈ rest, key b ∈ seen ↔ key b ∈ old :=
      fun b hb => h b (List.mem_cons_of_mem a hb)
    by_cases hseen : key a ∈ seen
    · have hold : key a ∈ old := (h a (List.mem_cons_self ..)).mp hseen
      simp only [newBy, hseen, hold, if_true]
      exact ih hrest
    · have hold : key a ∉ old := fun hold => hseen ((h a (List.mem_cons_self ..)).mpr hold)
      simp only [newBy, hseen, hold, if_false]
      congr 1
      apply ih
      intro b hb
      simp [hrest b hb]

theorem newBy_filter (p : κ → Bool) (seen : List κ) (as : List α) :
    newBy key seen (as.filter fun a => p (key a)) =
      (newBy key seen as).filter fun a => p (key a) := by
  induction as generalizing seen with
  | nil => rfl
  | cons a rest ih =>
    by_cases hseen : key a ∈ seen
    · by_cases ha : p (key a) = true <;> simp [newBy, hseen, ha, ih]
    · by_cases ha : p (key a) = true
      · simp [newBy, hseen, ha, ih]
      · -- The key of an element that is dropped is seen on one side only, but it does not come
        -- again among the elements that are left.
        have hgone : ∀ b ∈ rest.filter fun b => p (key b),
            key b ∈ seen ↔ key b ∈ key a :: seen := by
          intro b hb
          have hne : key b ≠ key a := fun hsame => ha (hsame ▸ (List.mem_filter.mp hb).2)
          simp [hne]
        have hdrop : ∀ as : List α, (a :: as).filter (fun b => p (key b)) =
            as.filter fun b => p (key b) := fun as => List.filter_cons_of_neg ha
        simp only [newBy, hseen, if_false]
        rw [hdrop, hdrop, newBy_congr hgone, ih]

/-- Repetitions can be dropped before or after the elements with certain keys. -/
theorem distinctBy_filter (p : κ → Bool) (as : List α) :
    distinctBy key (as.filter fun a => p (key a)) =
      (distinctBy key as).filter fun a => p (key a) :=
  newBy_filter p [] as

end Flotilla
