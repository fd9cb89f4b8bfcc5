import Flotilla.Proofs.Turns
import Mathlib.Data.List.Perm.Basic

/-!
# Attempts That Commute

Where no attempt changes what another one comes to, the order of the items is free: every entry is
the one that its item would have had alone, and all orders end in the same state.

- `World.Commuting`: neither of two programs changes the answer of the other one, and both orders
  lead to the same state.
- `World.entries_attempted`: the entries of commuting attempts.
- `World.state_attempted`, `World.afterAll_perm`: the state after them.
-/

namespace Flotilla

variable {σ α β ι : Type}

namespace World

/-- The state in which a program ends. -/
def after (w : World σ) (p : Remote α) (s : σ) : σ :=
  (w.run p s).2.state

/-- A program that only makes calls ends alike whatever happened before. -/
theorem run_of_onlyCalls (w : World σ) {p : Remote α} (hp : p.OnlyCalls) (r : Run σ) :
    (p.run w.answer r).1 = (w.run p r.state).1 ∧
      (p.run w.answer r).2.state = w.after p r.state :=
  hp.run_of_state w (s := ⟨r.state, []⟩) rfl

/-- In the states with a property neither program changes the answer of the other one, and both
orders lead to the same state. -/
structure Commuting (w : World σ) (inv : σ → Prop) (p : Remote α) (q : Remote β) : Prop where
  first : ∀ s, inv s → (w.run p (w.after q s)).1 = (w.run p s).1
  second : ∀ s, inv s → (w.run q (w.after p s)).1 = (w.run q s).1
  after : ∀ s, inv s → w.after q (w.after p s) = w.after p (w.after q s)

theorem Commuting.symm {w : World σ} {inv : σ → Prop} {p : Remote α} {q : Remote β}
    (h : w.Commuting inv p q) : w.Commuting inv q p :=
  ⟨h.second, h.first, fun s hs => (h.after s hs).symm⟩

/-! ## Items in any order -/

section Items

variable {w : World σ} {inv : σ → Prop} {attempt : ι → Remote Entry} {items others : List ι}

/-- The state after the attempts at some items, one after the other. -/
def afterAll (w : World σ) (attempt : ι → Remote Entry) (items : List ι) (s : σ) : σ :=
  items.foldl (fun s item => w.after (attempt item) s) s

/-- No event matters to attempts that only make calls, and so no position in the list does. -/
theorem state_attempted (hcalls : ∀ item, (attempt item).OnlyCalls) (index : Nat)
    (items : List ι) (r : Run σ) :
    (w.attempted (fun _ => attempt) index items r).2.state = w.afterAll attempt items r.state := by
  induction items generalizing index r with
  | nil => rfl
  | cons item rest ih =>
    rw [attempted_cons, ih, (w.run_of_onlyCalls (hcalls item) r).2]
    rfl

/-- Every entry is the one that its item would have had alone. -/
theorem entries_attempted (hcalls : ∀ item, (attempt item).OnlyCalls)
    (hinv : ∀ item s, inv s → inv (w.after (attempt item) s))
    (hitems : items.Pairwise fun a b => w.Commuting inv (attempt a) (attempt b)) (index : Nat)
    (r : Run σ) (hr : inv r.state) :
    (w.attempted (fun _ => attempt) index items r).1 =
      items.map fun item => (w.run (attempt item) r.state).1 := by
  -- By induction on the items: what the others come to after the first one is what they come to
  -- without it.
  induction items generalizing index r with
  | nil => rfl
  | cons item rest ih =>
    rw [List.pairwise_cons] at hitems
    obtain ⟨hentry, hstate⟩ := w.run_of_onlyCalls (hcalls item) r
    have hmid : inv ((attempt item).run w.answer r).2.state := by
      rw [hstate]
      exact hinv item r.state hr
    have hothers := ih hitems.2 (index + 1) _ hmid
    -- The first item and each of the others commute.
    have hsame : ∀ other ∈ rest,
        (w.run (attempt other) ((attempt item).run w.answer r).2.state).1 =
          (w.run (attempt other) r.state).1 := by
      intro other hother
      rw [hstate]
      exact (hitems.1 other hother).second r.state hr
    rw [attempted_cons, hothers, List.map_congr_left hsame, hentry, List.map_cons]

/-- Commuting attempts end in the same state in any order. -/
theorem afterAll_perm (hinv : ∀ item s, inv s → inv (w.after (attempt item) s))
    (hperm : items.Perm others)
    (hitems : items.Pairwise fun a b => w.Commuting inv (attempt a) (attempt b)) (s : σ)
    (hs : inv s) : w.afterAll attempt items s = w.afterAll attempt others s := by
  -- By induction on the permutation: two neighbours change places, or the rest is permuted.
  induction hperm generalizing s with
  | nil => rfl
  | cons item rest ih =>
    exact ih (List.pairwise_cons.mp hitems).2 _ (hinv item s hs)
  | swap a b rest =>
    have hswap : w.Commuting inv (attempt b) (attempt a) :=
      (List.pairwise_cons.mp hitems).1 a (List.mem_cons_self ..)
    show w.afterAll attempt rest (w.after (attempt a) (w.after (attempt b) s)) =
      w.afterAll attempt rest (w.after (attempt b) (w.after (attempt a) s))
    rw [hswap.after s hs]
  | trans first second ihFirst ihSecond =>
    -- Commuting is symmetric, so the items in between commute too.
    have hmiddle := (first.pairwise_iff fun h => h.symm).mp hitems
    rw [ihFirst hitems s hs, ihSecond hmiddle s hs]

end Items

end World

end Flotilla
