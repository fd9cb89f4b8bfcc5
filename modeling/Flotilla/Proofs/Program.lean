import Flotilla.Program

/-!
# What Holds Throughout a Run

A condition on states can hold before every operation of a program and at its end, and not only
there. This is what has to be known of a program that may be broken off at any moment.

`Program.Throughout` says it for one program, one answerer and one state: `always` holds at every
moment, and `post` holds of the value and the state at the end. The rules follow the tree, so a
program is treated step by step, and a subprogram by what is known of it.
-/

namespace Flotilla.Program

variable {I : Interface} {α β σ : Type} {answer : (op : I.Op) → σ → I.Reply op × σ}
  {always : σ → Prop} {post : α → σ → Prop}

/-- At every moment of a run `always` holds of the state, and at its end `post` holds of the value
and the state. -/
inductive Throughout (answer : (op : I.Op) → σ → I.Reply op × σ) (always : σ → Prop)
    (post : α → σ → Prop) : Program I α → σ → Prop where
  | done {a : α} {s : σ} (now : always s) (result : post a s) :
      Throughout answer always post (.done a) s
  | ask {op : I.Op} {next : I.Reply op → Program I α} {s : σ} (now : always s)
      (rest : Throughout answer always post (next (answer op s).1) (answer op s).2) :
      Throughout answer always post (.ask op next) s

/-! ## Rules -/

theorem throughout_pure {a : α} {s : σ} (hs : always s) (ha : post a s) :
    (pure a : Program I α).Throughout answer always post s :=
  .done hs ha

/-- One program after the other: the second one starts where the first one ends. -/
theorem throughout_bind {p : Program I α} {f : α → Program I β} {goal : β → σ → Prop} {s : σ}
    (h : p.Throughout answer always (fun a t => (f a).Throughout answer always goal t) s) :
    (p >>= f).Throughout answer always goal s := by
  rw [bind_eq]
  -- By induction on the first program: where it is over, the second one takes its place.
  induction h with
  | done now result => exact result
  | ask now rest ih => exact .ask now ih

theorem Throughout.weaken {p : Program I α} {weaker : α → σ → Prop} {s : σ}
    (h : p.Throughout answer always post s) (hw : ∀ a t, post a t → weaker a t) :
    p.Throughout answer always weaker s := by
  -- Only the leaves of the tree change.
  induction h with
  | done now result => exact .done now (hw _ _ result)
  | ask now rest ih => exact .ask now ih

/-! ## What the rules say of runs -/

theorem Throughout.now {p : Program I α} {s : σ} (h : p.Throughout answer always post s) :
    always s := by
  cases h with
  | done now result => exact now
  | ask now rest => exact now

/-- What every operation preserves is preserved by a run. -/
theorem run_preserves {inv : σ → Prop} (hstep : ∀ op s, inv s → inv (answer op s).2)
    (p : Program I α) {s : σ} (hs : inv s) : inv (p.run answer s).2 := by
  -- By induction on the program, with the state that the reply comes with.
  induction p generalizing s with
  | done a => exact hs
  | ask op next ih => exact ih _ (hstep op s hs)

end Flotilla.Program
