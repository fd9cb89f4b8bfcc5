import Flotilla.Ledger
import Flotilla.Proofs.Remote
import Flotilla.Refusal

/-!
# Items in Turn

Batches and migrations attempt their items one after the other and look before each of them
whether they were cancelled. This is the loop that both of them are, and what it comes to.

- `Remote.OnlyCalls`: a program that makes calls and nothing else. It runs the same whatever is
  decided about cancellation (`Remote.OnlyCalls.run_congr`) and whatever happened before
  (`Remote.OnlyCalls.run_of_state`), and no refresh is among its events.
- `inTurn`: the loop, over any attempt at an item.
- `World.attempted`: the attempts at some items without any look at the token.
- `World.run_inTurn`: the loop ends as the attempts at its first items do, up to the item before
  which the token is found cancelled for the first time.
- `World.run_attemptAll`: the same for the loop with its beginning and its end, which starts a
  ledger, finishes it and tells the views to refresh.
- `CutOnlyByToken`: nothing but the token keeps the loop from its last item
  (`World.cutOnlyByToken`).
-/

namespace Flotilla

/-! ## §1 Programs that only make calls -/

namespace Remote

variable {α β : Type}

/-- The program makes calls and nothing else: it looks at no token, reads no clock and tells nobody
to refresh. -/
inductive OnlyCalls : Remote α → Prop where
  | done (a : α) : OnlyCalls (.done a)
  | ask {c : Call} {next : c.Reply → Remote α} (rest : ∀ reply, OnlyCalls (next reply)) :
      OnlyCalls (.ask (.call c) next)

theorem onlyCalls_pure (a : α) : OnlyCalls (pure a : Remote α) :=
  .done a

theorem onlyCalls_call {c : Call} {f : c.Reply → Remote α} (h : ∀ reply, OnlyCalls (f reply)) :
    OnlyCalls (call c >>= f) :=
  .ask h

theorem OnlyCalls.bind {p : Remote α} {f : α → Remote β} (hp : OnlyCalls p)
    (hf : ∀ a, OnlyCalls (f a)) : OnlyCalls (p >>= f) := by
  rw [Program.bind_eq]
  -- By induction on the first program: its leaves are where the second one starts.
  induction hp with
  | done a => exact hf a
  | ask rest ih => exact .ask ih

section Runs

variable {σ : Type} {p : Remote α}

/-- Worlds that reply alike carry out a program that only makes calls alike. -/
theorem OnlyCalls.run_congr (h : OnlyCalls p) (w v : World σ) (hreply : w.reply = v.reply)
    (r : Run σ) : p.run w.answer r = p.run v.answer r := by
  -- By induction on the program: each reply is the same, and so is the run after it.
  induction h generalizing r with
  | done a => rfl
  | @ask c next rest ih =>
    have hanswer : w.answer (.call c) r = v.answer (.call c) r := by
      simp only [World.answer, hreply]
    rw [Program.run_ask, Program.run_ask, hanswer]
    exact ih _ _

/-- A program that only makes calls ends alike from the same state, whatever happened before. -/
theorem OnlyCalls.run_of_state (h : OnlyCalls p) (w : World σ) {r s : Run σ}
    (hstate : r.state = s.state) :
    (p.run w.answer r).1 = (p.run w.answer s).1 ∧
      (p.run w.answer r).2.state = (p.run w.answer s).2.state := by
  induction h generalizing r s with
  | done a => exact ⟨rfl, hstate⟩
  | @ask c next rest ih =>
    -- A reply depends on the state alone; the events before it are only added to.
    obtain ⟨state, before⟩ := r
    obtain ⟨_, others⟩ := s
    cases hstate
    rw [Program.run_ask, Program.run_ask]
    apply ih
    rfl

/-- A program that only makes calls leaves no refresh among the events. -/
theorem OnlyCalls.events_run (h : OnlyCalls p) (w : World σ) (r : Run σ) :
    ∃ events, (p.run w.answer r).2.events = r.events ++ events ∧
      ∀ e ∈ events, e.isRefresh = false := by
  induction h generalizing r with
  | done a => exact ⟨[], by simp, by simp⟩
  | @ask c next rest ih =>
    obtain ⟨events, happ, hcalls⟩ := ih _ (w.answer (.call c) r).2
    -- The exchange of the first call comes before those of the rest.
    refine ⟨.exchange c (w.reply c r.state).1 :: events, ?_, ?_⟩
    · exact happ.trans (by simp [World.answer])
    · intro e he
      rcases List.mem_cons.mp he with rfl | he
      · rfl
      · exact hcalls e he

end Runs

end Remote

/-! ## §2 The loop -/

section Loop

variable {ι σ : Type}

/-- Attempt the items from a position on, one after the other, as long as the token is not
cancelled, and add an entry for each of them. -/
def inTurn (attempt : Nat → ι → Remote Entry) : Nat → List ι → Ledger → Remote Ledger
  | _, [], ledger => return ledger
  | index, item :: rest, ledger => do
    if ← Remote.cancelled then
      return ledger.cancel
    else
      let entry ← attempt index item
      inTurn attempt (index + 1) rest (ledger.push entry)

namespace World

/-- The attempts at some items, one after the other: their entries and the run after them. -/
def attempted (w : World σ) (attempt : Nat → ι → Remote Entry) :
    Nat → List ι → Run σ → List Entry × Run σ
  | _, [], r => ([], r)
  | index, item :: rest, r =>
    let first := (attempt index item).run w.answer r
    let others := w.attempted attempt (index + 1) rest first.2
    (first.1 :: others.1, others.2)

/-- The same world, where nobody ever cancels. -/
def undisturbed (w : World σ) : World σ :=
  { w with cancelled := fun _ => false }

variable (w : World σ) (attempt : Nat → ι → Remote Entry)

@[simp] theorem attempted_nil (index : Nat) (r : Run σ) :
    w.attempted attempt index [] r = ([], r) := rfl

theorem attempted_cons (index : Nat) (item : ι) (rest : List ι) (r : Run σ) :
    w.attempted attempt index (item :: rest) r =
      (((attempt index item).run w.answer r).1 ::
          (w.attempted attempt (index + 1) rest ((attempt index item).run w.answer r).2).1,
        (w.attempted attempt (index + 1) rest ((attempt index item).run w.answer r).2).2) := rfl

@[simp] theorem length_attempted (index : Nat) (items : List ι) (r : Run σ) :
    (w.attempted attempt index items r).1.length = items.length := by
  induction items generalizing index r with
  | nil => rfl
  | cons item rest ih => simp [attempted_cons, ih]

theorem length_attempted_take (index : Nat) {items : List ι} {done : Nat} (r : Run σ)
    (hdone : done ≤ items.length) :
    (w.attempted attempt index (items.take done) r).1.length = done := by
  rw [length_attempted, List.length_take, Nat.min_eq_left hdone]

/-- The entries tell of the items, in their order. -/
theorem keys_attempted {key : ι → MatchKey}
    (hkey : ∀ index item r, ((attempt index item).run w.answer r).1.key = key item)
    (index : Nat) (items : List ι) (r : Run σ) :
    (w.attempted attempt index items r).1.map (·.key) = items.map key := by
  induction items generalizing index r with
  | nil => rfl
  | cons item rest ih =>
    rw [attempted_cons, List.map_cons, List.map_cons, hkey, ih]

/-- What holds of every entry that an attempt can end with holds of the entries. -/
theorem forall_mem_attempted {P : Entry → Prop}
    (hentry : ∀ index item r, P ((attempt index item).run w.answer r).1)
    (index : Nat) (items : List ι) (r : Run σ) :
    ∀ e ∈ (w.attempted attempt index items r).1, P e := by
  induction items generalizing index r with
  | nil => simp
  | cons item rest ih =>
    rw [attempted_cons]
    exact List.forall_mem_cons.mpr ⟨hentry index item r, ih _ _⟩

variable {attempt}

/-- Attempts that only make calls leave no refresh among the events. -/
theorem events_attempted (hcalls : ∀ index item, (attempt index item).OnlyCalls) (index : Nat)
    (items : List ι) (r : Run σ) :
    ∃ events, (w.attempted attempt index items r).2.events = r.events ++ events ∧
      ∀ e ∈ events, e.isRefresh = false := by
  induction items generalizing index r with
  | nil => exact ⟨[], by simp, by simp⟩
  | cons item rest ih =>
    -- The events of the first attempt, and then those of the others.
    obtain ⟨block, hblock, hfirst⟩ := (hcalls index item).events_run w r
    obtain ⟨others, happ, hothers⟩ := ih (index + 1) ((attempt index item).run w.answer r).2
    refine ⟨block ++ others, ?_, ?_⟩
    · rw [attempted_cons, happ, hblock, List.append_assoc]
    · intro e he
      rcases List.mem_append.mp he with he | he
      · exact hfirst e he
      · exact hothers e he

/-- Attempts that only make calls are the same where nobody cancels. -/
theorem attempted_undisturbed (hcalls : ∀ index item, (attempt index item).OnlyCalls)
    (index : Nat) (items : List ι) (r : Run σ) :
    w.undisturbed.attempted attempt index items r = w.attempted attempt index items r := by
  induction items generalizing index r with
  | nil => rfl
  | cons item rest ih =>
    -- Only the look at the token could tell the two worlds apart, and an attempt makes none.
    have hfirst : (attempt index item).run w.undisturbed.answer r =
        (attempt index item).run w.answer r := (hcalls index item).run_congr w.undisturbed w rfl r
    rw [attempted_cons, attempted_cons, hfirst, ih]

end World

/-! ## §3 Where the loop stops -/

/-- Of `total` items, exactly `done` are attempted: the token is not cancelled before any of them,
and it is cancelled before the next one, if there is a next one. What has happened before each item
is given by `before`. -/
structure StopsAfter (cancelled : List Event → Bool) (before : Nat → List Event)
    (total done : Nat) : Prop where
  le : done ≤ total
  goesOn : ∀ i < done, cancelled (before i) = false
  stops : done < total → cancelled (before done) = true

/-- A token that is never cancelled stops nothing. -/
theorem StopsAfter.eq_total {before : Nat → List Event} {total done : Nat}
    (h : StopsAfter (fun _ => false) before total done) : done = total := by
  refine Nat.le_antisymm h.le (Nat.le_of_not_lt fun hlt => ?_)
  -- The loop would have stopped at a token that was cancelled, and this one never is.
  cases h.stops hlt

/-- **The loop is its attempts, up to the first look that finds the token cancelled.** -/
theorem World.run_inTurn (w : World σ) (attempt : Nat → ι → Remote Entry) (index : Nat)
    (items : List ι) (ledger : Ledger) (r : Run σ) :
    ∃ done,
      StopsAfter w.cancelled
        (fun i => (w.attempted attempt index (items.take i) r).2.events) items.length done ∧
      (inTurn attempt index items ledger).run w.answer r =
        ({ ledger with
            entries := ledger.entries ++ (w.attempted attempt index (items.take done) r).1
            cancelled := ledger.cancelled || decide (done < items.length) },
          (w.attempted attempt index (items.take done) r).2) := by
  -- By induction on the items: the look at the token decides whether the first one is attempted,
  -- and the loop over the others starts where that attempt ends.
  induction items generalizing index ledger r with
  -- Without items there is no look at the token, and nothing is marked.
  | nil =>
    refine ⟨0, ⟨Nat.le_refl 0, fun i hi => absurd hi (Nat.not_lt_zero i), fun h => ?_⟩, ?_⟩
    · exact absurd h (Nat.not_lt_zero 0)
    · simp [inTurn]
  | cons item rest ih =>
    cases hlook : w.cancelled r.events with
    | true =>
      refine ⟨0, ⟨Nat.zero_le _, fun i hi => absurd hi (Nat.not_lt_zero i), fun _ => ?_⟩, ?_⟩
      · simpa using hlook
      · simp [inTurn, Program.run_bind, hlook, Ledger.cancel]
    | false =>
      obtain ⟨done, hstops, hrun⟩ := ih (index + 1)
        (ledger.push ((attempt index item).run w.answer r).1)
        ((attempt index item).run w.answer r).2
      refine ⟨done + 1, ⟨Nat.succ_le_succ hstops.le, ?_, ?_⟩, ?_⟩
      · -- The looks are the one at the first item and those of the loop over the others, one later.
        intro i hi
        cases i with
        | zero => simpa using hlook
        | succ i =>
          have hnext := hstops.goesOn i (Nat.lt_of_succ_lt_succ hi)
          simpa [List.take_succ_cons, attempted_cons] using hnext
      · intro hlt
        have hnext := hstops.stops (Nat.lt_of_succ_lt_succ hlt)
        simpa [List.take_succ_cons, attempted_cons] using hnext
      · -- The loop over the others goes on with the entry of the first item and after its attempt.
        have hstep : (inTurn attempt index (item :: rest) ledger).run w.answer r =
            (inTurn attempt (index + 1) rest
              (ledger.push ((attempt index item).run w.answer r).1)).run w.answer
                ((attempt index item).run w.answer r).2 := by
          simp [inTurn, Program.run_bind, hlook]
        rw [hstep, hrun]
        simp [List.take_succ_cons, attempted_cons, Ledger.push]

/-! ## §4 From the start of the ledger to the refresh -/

/-- Attempt items in turn under a new ledger, finish it, and tell the views to refresh. -/
def attemptAll (attempt : Nat → ι → Remote Entry) (items : List ι) :
    Remote (Except Refusal Ledger) := do
  let ledger ← inTurn attempt 1 items (Ledger.start (← Remote.clock))
  let ledger := ledger.finish (← Remote.clock)
  Remote.refresh
  return .ok ledger

/-- A run over `total` items ended with a ledger right after some attempts: it has their entries,
it is marked as cancelled exactly if there are fewer of them than items, it is finished, and all
that happened after the attempts is one refresh. -/
structure EndedAfter (attempts : List Entry × Run σ) (total : Nat) (ledger : Ledger)
    (last : Run σ) : Prop where
  entries : ledger.entries = attempts.1
  cancelled : ledger.cancelled = decide (attempts.1.length < total)
  finished : ledger.finishedAt.isSome = true
  state : last.state = attempts.2.state
  events : last.events = attempts.2.events ++ [.refreshed]

theorem World.run_attemptAll (w : World σ) (attempt : Nat → ι → Remote Entry) (items : List ι)
    (r : Run σ) :
    ∃ done ledger last,
      StopsAfter w.cancelled (fun i => (w.attempted attempt 1 (items.take i) r).2.events)
        items.length done ∧
      (attemptAll attempt items).run w.answer r = (.ok ledger, last) ∧
      EndedAfter (w.attempted attempt 1 (items.take done) r) items.length ledger last := by
  obtain ⟨done, hstops, hrun⟩ := w.run_inTurn attempt 1 items (Ledger.start (w.clock r.events)) r
  have hlength := w.length_attempted_take attempt 1 r hstops.le
  -- Two readings of the clock and the refresh stand around the loop, and change no state.
  have hall : (attemptAll attempt items).run w.answer r =
      (.ok (((inTurn attempt 1 items (Ledger.start (w.clock r.events))).run w.answer r).1.finish
          (w.clock (w.attempted attempt 1 (items.take done) r).2.events)),
        ⟨(w.attempted attempt 1 (items.take done) r).2.state,
          (w.attempted attempt 1 (items.take done) r).2.events ++ [.refreshed]⟩) := by
    simp [attemptAll, Program.run_bind, hrun]
  refine ⟨done, _, _, hstops, hall, ?_⟩
  rw [hrun]
  exact ⟨rfl, by simp [hlength, Ledger.finish, Ledger.start], rfl, rfl, rfl⟩

/-- Nothing but the token ended a run over `total` items before its last one: there are fewer
entries than items exactly if the ledger is marked as cancelled, and then the token was found
cancelled when nothing had happened but what is in `before`. -/
structure CutOnlyByToken (cancelled : List Event → Bool) (before : List Event) (total : Nat)
    (ledger : Ledger) : Prop where
  marked : ledger.cancelled = true ↔ ledger.entries.length < total
  found : ledger.cancelled = true → cancelled before = true

theorem World.cutOnlyByToken (w : World σ) {attempt : Nat → ι → Remote Entry} {items : List ι}
    {r : Run σ} {before : List Event} {ledger : Ledger}
    (hledger : ((attemptAll attempt items).run w.answer r).1 = .ok ledger)
    (hevents : ((attemptAll attempt items).run w.answer r).2.events = before ++ [.refreshed]) :
    CutOnlyByToken w.cancelled before items.length ledger := by
  obtain ⟨done, found, last, hstops, hrun, hends⟩ := w.run_attemptAll attempt items r
  rw [hrun] at hledger hevents
  cases hledger
  have hlength := w.length_attempted_take attempt 1 r hstops.le
  have hmarked : ledger.cancelled = true ↔ done < items.length := by
    rw [hends.cancelled, hlength, decide_eq_true_iff]
  -- The last look at the token is the one after the attempts, and the refresh comes behind it.
  have hbefore : (w.attempted attempt 1 (items.take done) r).2.events = before :=
    List.append_cancel_right (hends.events.symm.trans hevents)
  constructor
  · rw [hmarked, hends.entries, hlength]
  · intro hcancelled
    rw [← hbefore]
    exact hstops.stops (hmarked.mp hcancelled)

theorem World.forall_mem_attemptAll (w : World σ) {attempt : Nat → ι → Remote Entry}
    {P : Entry → Prop} (hentry : ∀ index item r, P ((attempt index item).run w.answer r).1)
    {items : List ι} {r : Run σ} {ledger : Ledger}
    (hledger : ((attemptAll attempt items).run w.answer r).1 = .ok ledger) :
    ∀ e ∈ ledger.entries, P e := by
  obtain ⟨done, found, last, -, hrun, hends⟩ := w.run_attemptAll attempt items r
  rw [hrun] at hledger
  cases hledger
  rw [hends.entries]
  exact w.forall_mem_attempted attempt hentry 1 _ r

end Loop

end Flotilla
