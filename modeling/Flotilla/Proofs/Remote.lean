import Flotilla.Proofs.Program
import Flotilla.Remote.World

/-!
# Histories of Remote Programs

What a remote program can do when nothing is known of whoever answers it, and where it stands when
it is broken off.

- `Remote.Yields p events a`: the program `p` can end with the value `a` after `events`, whatever
  the replies, the decisions about cancellation and the times were. Every run in every world is
  such a history (`World.run_yields`), so what holds of all histories holds of all worlds.
- `Remote.breakOff n p`: the program `p`, given up after `n` calls. Its calls are the first `n`
  calls of `p` (`World.callsOf_breakOff`), and what holds throughout a run holds where it is given
  up (`World.breakOff_of_throughout`).
-/

namespace Flotilla

def isFault {α : Type} : Except Fault α → Bool
  | .ok _ => false
  | .error _ => true

theorem callsOf_append (events more : List Event) :
    callsOf (events ++ more) = callsOf events ++ callsOf more := by
  simp [callsOf]

@[simp] theorem callsOf_exchange (c : Call) (reply : c.Reply) (events : List Event) :
    callsOf (.exchange c reply :: events) = c :: callsOf events := rfl

@[simp] theorem callsOf_refreshed (events : List Event) :
    callsOf (.refreshed :: events) = callsOf events := rfl

@[simp] theorem callsOf_nil : callsOf [] = [] := rfl

namespace Remote

variable {α β : Type}

/-! ## Histories -/

/-- The program can end with the value after the events. Only calls and refreshes leave events;
what is answered about cancellation and time is arbitrary. -/
inductive Yields : Remote α → List Event → α → Prop where
  | done (a : α) : Yields (.done a) [] a
  | call {c : Call} {next : c.Reply → Remote α} {events : List Event} {a : α}
      (reply : c.Reply) (rest : Yields (next reply) events a) :
      Yields (.ask (.call c) next) (.exchange c reply :: events) a
  | cancelled {next : Bool → Remote α} {events : List Event} {a : α}
      (answer : Bool) (rest : Yields (next answer) events a) :
      Yields (.ask .cancelled next) events a
  | clock {next : Instant → Remote α} {events : List Event} {a : α}
      (now : Instant) (rest : Yields (next now) events a) :
      Yields (.ask .clock next) events a
  | refresh {next : Unit → Remote α} {events : List Event} {a : α}
      (rest : Yields (next ()) events a) :
      Yields (.ask .refresh next) (.refreshed :: events) a

@[simp] theorem yields_pure {a b : α} {events : List Event} :
    Yields (pure a) events b ↔ events = [] ∧ b = a := by
  constructor
  · intro h
    cases h
    exact ⟨rfl, rfl⟩
  · rintro ⟨rfl, rfl⟩
    exact .done b

/-- The history of one program after the other is one history after the other. -/
theorem yields_bind {p : Remote α} {f : α → Remote β} {events : List Event} {b : β}
    (h : Yields (p >>= f) events b) :
    ∃ first a rest, events = first ++ rest ∧ Yields p first a ∧ Yields (f a) rest b := by
  rw [Program.bind_eq] at h
  -- By induction on the first program; every operation belongs to the history of that one.
  induction p generalizing events with
  | done a => exact ⟨[], a, events, rfl, .done a, h⟩
  | ask op next ih =>
    cases h with
    | call reply h =>
      obtain ⟨first, a, rest, rfl, hp, hf⟩ := ih reply h
      exact ⟨_ :: first, a, rest, rfl, .call reply hp, hf⟩
    | cancelled answer h =>
      obtain ⟨first, a, rest, rfl, hp, hf⟩ := ih answer h
      exact ⟨first, a, rest, rfl, .cancelled answer hp, hf⟩
    | clock now h =>
      obtain ⟨first, a, rest, rfl, hp, hf⟩ := ih now h
      exact ⟨first, a, rest, rfl, .clock now hp, hf⟩
    | refresh h =>
      obtain ⟨first, a, rest, rfl, hp, hf⟩ := ih () h
      exact ⟨_ :: first, a, rest, rfl, .refresh hp, hf⟩

theorem yields_call {c : Call} {f : c.Reply → Remote α} {events : List Event} {a : α}
    (h : Yields (call c >>= f) events a) :
    ∃ reply rest, events = .exchange c reply :: rest ∧ Yields (f reply) rest a := by
  cases h with
  | call reply h => exact ⟨reply, _, rfl, h⟩

theorem yields_cancelled {f : Bool → Remote α} {events : List Event} {a : α}
    (h : Yields (cancelled >>= f) events a) : ∃ answer, Yields (f answer) events a := by
  cases h with
  | cancelled answer h => exact ⟨answer, h⟩

theorem yields_clock {f : Instant → Remote α} {events : List Event} {a : α}
    (h : Yields (clock >>= f) events a) : ∃ now, Yields (f now) events a := by
  cases h with
  | clock now h => exact ⟨now, h⟩

theorem yields_refresh {f : Unit → Remote α} {events : List Event} {a : α}
    (h : Yields (refresh >>= f) events a) :
    ∃ rest, events = .refreshed :: rest ∧ Yields (f ()) rest a := by
  cases h with
  | refresh h => exact ⟨_, rfl, h⟩

/-! ## Breaking off -/

/-- The program, given up right before the call that follows its first `n` calls. -/
def breakOff : Nat → Remote α → Remote (Option α)
  | _, .done a => .done (some a)
  | 0, .ask (.call _) _ => .done none
  | n + 1, .ask (.call c) next => .ask (.call c) fun reply => breakOff n (next reply)
  | n, .ask .cancelled next => .ask .cancelled fun answer => breakOff n (next answer)
  | n, .ask .clock next => .ask .clock fun now => breakOff n (next now)
  | n, .ask .refresh next => .ask .refresh fun _ => breakOff n (next ())

end Remote

namespace World

variable {σ α : Type} (w : World σ)

/-- Every run is a history. -/
theorem run_yields_from (p : Remote α) (r : Run σ) :
    ∃ events, (p.run w.answer r).2.events = r.events ++ events ∧
      Remote.Yields p events (p.run w.answer r).1 := by
  -- By induction on the program, with the run arbitrary: the rest of it goes on from another run.
  induction p generalizing r with
  | done a => exact ⟨[], by simp, .done a⟩
  | ask op next ih =>
    -- Every operation leaves the events that `Yields` has for it.
    cases op with
    | call c =>
      obtain ⟨events, happ, h⟩ := ih _ (w.answer (.call c) r).2
      refine ⟨.exchange c (w.reply c r.state).1 :: events, ?_, .call _ h⟩
      exact happ.trans (by simp [answer])
    | cancelled =>
      obtain ⟨events, happ, h⟩ := ih _ (w.answer .cancelled r).2
      exact ⟨events, happ, .cancelled _ h⟩
    | clock =>
      obtain ⟨events, happ, h⟩ := ih _ (w.answer .clock r).2
      exact ⟨events, happ, .clock _ h⟩
    | refresh =>
      obtain ⟨events, happ, h⟩ := ih _ (w.answer .refresh r).2
      refine ⟨.refreshed :: events, ?_, .refresh h⟩
      exact happ.trans (by simp [answer])

theorem run_yields (p : Remote α) (s : σ) :
    Remote.Yields p (w.run p s).2.events (w.run p s).1 := by
  obtain ⟨events, happ, h⟩ := w.run_yields_from p ⟨s, []⟩
  rw [List.nil_append] at happ
  unfold World.run
  rwa [happ]

/-! ## Equations of runs

What the world answers where no call is made, and how far the run is then. -/

@[simp] theorem run_cancelled (r : Run σ) :
    Remote.cancelled.run w.answer r = (w.cancelled r.events, r) := rfl

@[simp] theorem run_clock (r : Run σ) :
    Remote.clock.run w.answer r = (w.clock r.events, r) := rfl

@[simp] theorem run_refresh (r : Run σ) :
    Remote.refresh.run w.answer r = ((), ⟨r.state, r.events ++ [.refreshed]⟩) := rfl

/-- A program that makes a call goes on with the reply. -/
theorem run_call (c : Call) (f : c.Reply → Remote α) (r : Run σ) :
    (Remote.call c >>= f).run w.answer r =
      (f (w.reply c r.state).1).run w.answer
        ⟨(w.reply c r.state).2, r.events ++ [.exchange c (w.reply c r.state).1]⟩ := rfl

/-! ## Runs that go on from earlier ones -/

/-- The same world, where some events have happened before. -/
def resumed (before : List Event) : World σ :=
  { w with
    cancelled := fun events => w.cancelled (before ++ events)
    clock := fun events => w.clock (before ++ events) }

private theorem run_resumed_from (p : Remote α) (before : List Event) (r : Run σ) :
    p.run w.answer ⟨r.state, before ++ r.events⟩ =
      ((p.run (w.resumed before).answer r).1,
        ⟨(p.run (w.resumed before).answer r).2.state,
          before ++ (p.run (w.resumed before).answer r).2.events⟩) := by
  induction p generalizing r with
  | done a => rfl
  | ask op next ih =>
    -- The answers are the same, and the events that they leave come last in both runs.
    cases op with
    | call c =>
      have hnext := ih (w.reply c r.state).1 ((w.resumed before).answer (.call c) r).2
      simpa [answer, resumed] using hnext
    | cancelled => exact ih _ r
    | clock => exact ih _ r
    | refresh =>
      have hnext := ih () ((w.resumed before).answer .refresh r).2
      simpa [answer] using hnext

/-- A program that goes on from an earlier run does what it does from the start, where the events
of that run have happened before. -/
theorem run_resumed (p : Remote α) (r : Run σ) :
    p.run w.answer r =
      (((w.resumed r.events).run p r.state).1,
        ⟨((w.resumed r.events).run p r.state).2.state,
          r.events ++ ((w.resumed r.events).run p r.state).2.events⟩) := by
  have hrun := w.run_resumed_from p r.events ⟨r.state, []⟩
  rwa [List.append_nil] at hrun

/-! ## Runs that are broken off -/

private theorem callsOf_breakOff_from (p : Remote α) (n : Nat) (r : Run σ) :
    ∃ events, (p.run w.answer r).2.events = r.events ++ events ∧
      callsOf ((p.breakOff n).run w.answer r).2.events =
        callsOf r.events ++ (callsOf events).take n := by
  -- By induction on the program; the number of calls that are left falls with each call.
  induction p generalizing n r with
  | done a => exact ⟨[], by simp, by simp [Remote.breakOff]⟩
  | ask op next ih =>
    cases op with
    | call c =>
      -- Only here the number of calls that are left counts.
      cases n with
      | zero =>
        obtain ⟨events, happ, -⟩ := w.run_yields_from (.ask (.call c) next) r
        exact ⟨events, happ, by simp [Remote.breakOff]⟩
      | succ n =>
        obtain ⟨events, happ, hcalls⟩ := ih _ n (w.answer (.call c) r).2
        refine ⟨.exchange c (w.reply c r.state).1 :: events, happ.trans (by simp [answer]), ?_⟩
        exact hcalls.trans (by simp [answer, callsOf_append])
    | cancelled =>
      obtain ⟨events, happ, hcalls⟩ := ih _ n (w.answer .cancelled r).2
      exact ⟨events, happ, hcalls⟩
    | clock =>
      obtain ⟨events, happ, hcalls⟩ := ih _ n (w.answer .clock r).2
      exact ⟨events, happ, hcalls⟩
    | refresh =>
      obtain ⟨events, happ, hcalls⟩ := ih _ n (w.answer .refresh r).2
      refine ⟨.refreshed :: events, happ.trans (by simp [answer]), ?_⟩
      exact hcalls.trans (by simp [answer, callsOf_append])

/-- A program that is broken off has made the first calls of the whole program. -/
theorem callsOf_breakOff (p : Remote α) (n : Nat) (s : σ) :
    callsOf (w.run (p.breakOff n) s).2.events = (callsOf (w.run p s).2.events).take n := by
  obtain ⟨events, happ, hcalls⟩ := w.callsOf_breakOff_from p n ⟨s, []⟩
  unfold World.run
  rw [happ, hcalls]
  simp

/-- What holds throughout a run holds of the state in which it is broken off. -/
theorem breakOff_of_throughout {always : σ → Prop} {post : α → Run σ → Prop} {p : Remote α}
    {r : Run σ} (h : p.Throughout w.answer (fun r => always r.state) post r) (n : Nat) :
    always ((p.breakOff n).run w.answer r).2.state := by
  -- By induction on the program, along the moments that `Throughout` speaks of.
  induction p generalizing n r with
  | done a => exact h.now
  | ask op next ih =>
    cases h with
    | ask now rest =>
      cases op with
      | call c =>
        -- Given up here, the state is the one before the call.
        cases n with
        | zero => exact now
        | succ n => exact ih _ rest n
      | cancelled => exact ih _ rest n
      | clock => exact ih _ rest n
      | refresh => exact ih _ rest n

/-! ## Rules for the operations

Only a call moves the world. The rest of the program is known to go on from the state after it,
whatever the events so far are, since no program reads them.
-/

variable {always : σ → Prop} {post : α → Run σ → Prop} {r : Run σ}

theorem throughout_call {c : Call} {f : c.Reply → Remote α} (hr : always r.state)
    (h : ∀ events, (f (w.reply c r.state).1).Throughout w.answer (fun r => always r.state) post
      ⟨(w.reply c r.state).2, events⟩) :
    (Remote.call c >>= f).Throughout w.answer (fun r => always r.state) post r :=
  .ask hr (h _)

theorem throughout_cancelled {f : Bool → Remote α} (hr : always r.state)
    (h : ∀ b, (f b).Throughout w.answer (fun r => always r.state) post r) :
    (Remote.cancelled >>= f).Throughout w.answer (fun r => always r.state) post r :=
  .ask hr (h _)

theorem throughout_clock {f : Instant → Remote α} (hr : always r.state)
    (h : ∀ now, (f now).Throughout w.answer (fun r => always r.state) post r) :
    (Remote.clock >>= f).Throughout w.answer (fun r => always r.state) post r :=
  .ask hr (h _)

theorem throughout_refresh {f : Unit → Remote α} (hr : always r.state)
    (h : ∀ events, (f ()).Throughout w.answer (fun r => always r.state) post ⟨r.state, events⟩) :
    (Remote.refresh >>= f).Throughout w.answer (fun r => always r.state) post r :=
  .ask hr (h _)

end World

end Flotilla
