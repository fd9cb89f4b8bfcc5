import Flotilla.Proofs.Turns

/-!
# Attempts

The items of a batch are attempted one after the other, and the batch may end between two of them.
`Attempts` ties what happened to the ledger that tells of it: the events are one block for every
item that was attempted, the entries are one for every such item, and both stand in the order of
the items. What a block and its entry have to do with their item is a parameter. Every history of
the loop over the items is of this kind (`yields_inTurn`), with its beginning and its end as well
(`yields_attemptAll`), and in a world it stops before its last item only where the token is
cancelled (`World.run_attempts`).
-/

namespace Flotilla

variable {ι : Type}

/-- The items from a position on are attempted up to some item: `item` ties every one of them, with
its position, to its block of the events and to its entry. -/
inductive Attempts (item : Nat → ι → List Event → Entry → Prop) :
    Nat → List ι → List Event → List Entry → Prop where
  | stop (index : Nat) (items : List ι) : Attempts item index items [] []
  | next {index : Nat} {a : ι} {block : List Event} {entry : Entry} {rest : List ι}
      {events : List Event} {entries : List Entry}
      (first : item index a block entry) (others : Attempts item (index + 1) rest events entries) :
      Attempts item index (a :: rest) (block ++ events) (entry :: entries)

/-- The loop attempts its items one after the other, and each adds its entry to the ledger. -/
theorem yields_inTurn (attempt : Nat → ι → Remote Entry)
    {item : Nat → ι → List Event → Entry → Prop}
    (hitem : ∀ index a block entry, Remote.Yields (attempt index a) block entry →
      item index a block entry)
    {index : Nat} {items : List ι} {ledger ledger' : Ledger} {events : List Event}
    (h : Remote.Yields (inTurn attempt index items ledger) events ledger') :
    ∃ entries, ledger'.entries = ledger.entries ++ entries ∧
      Attempts item index items events entries := by
  -- By induction on the items: a block and an entry for the first one, the others by the
  -- hypothesis, unless the loop is cancelled before it.
  induction items generalizing index ledger events with
  | nil =>
    obtain ⟨rfl, rfl⟩ := Remote.yields_pure.mp h
    exact ⟨[], by simp, .stop _ _⟩
  | cons a rest ih =>
    unfold inTurn at h
    obtain ⟨cancelled, hcancelled⟩ := Remote.yields_cancelled h
    cases cancelled with
    | true =>
      -- What is left of the items was not attempted.
      obtain ⟨rfl, rfl⟩ := Remote.yields_pure.mp hcancelled
      exact ⟨[], by simp [Ledger.cancel], .stop _ _⟩
    | false =>
      obtain ⟨block, entry, others, rfl, hfirst, hothers⟩ := Remote.yields_bind hcancelled
      obtain ⟨entries, hentries, hattempts⟩ := ih hothers
      refine ⟨entry :: entries, ?_, .next (hitem index a block entry hfirst) hattempts⟩
      rw [hentries, Ledger.push, List.append_assoc]
      rfl

/-- The loop with its beginning and its end gives a ledger of the attempts, and nothing happens
after them but one refresh. -/
theorem yields_attemptAll (attempt : Nat → ι → Remote Entry)
    {item : Nat → ι → List Event → Entry → Prop}
    (hitem : ∀ index a block entry, Remote.Yields (attempt index a) block entry →
      item index a block entry)
    {items : List ι} {events : List Event} {result : Except Refusal Ledger}
    (h : Remote.Yields (attemptAll attempt items) events result) :
    ∃ (ledger : Ledger) (attempts : List Event), result = .ok ledger ∧
      events = attempts ++ [.refreshed] ∧ Attempts item 1 items attempts ledger.entries := by
  unfold attemptAll at h
  -- Reading the clock leaves no event, so the events are those of the loop and the refresh.
  obtain ⟨start, hstart⟩ := Remote.yields_clock h
  obtain ⟨attempts, processed, rest, rfl, hprocess, hend⟩ := Remote.yields_bind hstart
  obtain ⟨finish, hfinish⟩ := Remote.yields_clock hend
  obtain ⟨rest, rfl, hrefresh⟩ := Remote.yields_refresh hfinish
  obtain ⟨rfl, rfl⟩ := Remote.yields_pure.mp hrefresh
  obtain ⟨entries, hentries, hattempts⟩ := yields_inTurn attempt hitem hprocess
  refine ⟨_, attempts, rfl, rfl, ?_⟩
  simpa [Ledger.finish, Ledger.start, hentries] using hattempts

/-- In every world, and whatever happened before, the loop with its beginning and its end attempts
its items, tells the views to refresh, and leaves out items only where the token is cancelled. -/
theorem World.run_attempts {σ : Type} (w : World σ) (attempt : Nat → ι → Remote Entry)
    {item : Nat → ι → List Event → Entry → Prop}
    (hitem : ∀ index a block entry, Remote.Yields (attempt index a) block entry →
      item index a block entry)
    (items : List ι) (start : Run σ) :
    ∃ (ledger : Ledger) (attempts : List Event),
      ((attemptAll attempt items).run w.answer start).1 = .ok ledger ∧
      ((attemptAll attempt items).run w.answer start).2.events =
        start.events ++ (attempts ++ [.refreshed]) ∧
      Attempts item 1 items attempts ledger.entries ∧
      CutOnlyByToken w.cancelled (start.events ++ attempts) items.length ledger := by
  -- What the run adds to the events is a history of the loop.
  obtain ⟨events, hevents, hhistory⟩ := w.run_yields_from (attemptAll attempt items) start
  obtain ⟨ledger, attempts, hledger, rfl, hattempts⟩ := yields_attemptAll attempt hitem hhistory
  refine ⟨ledger, attempts, hledger, hevents, hattempts, w.cutOnlyByToken hledger ?_⟩
  rw [hevents, List.append_assoc]

/-- What the calls about every item are holds of the calls about all of them. -/
theorem Attempts.forall_mem_callsOf {item : Nat → ι → List Event → Entry → Prop} {P : Call → Prop}
    (hitem : ∀ index a block entry, item index a block entry → ∀ call ∈ callsOf block, P call)
    {index : Nat} {items : List ι} {events : List Event} {entries : List Entry}
    (h : Attempts item index items events entries) : ∀ call ∈ callsOf events, P call := by
  -- By induction along the attempts, block by block.
  induction h with
  | stop index items => simp
  | next first others ih =>
    intro call hcall
    rw [callsOf_append, List.mem_append] at hcall
    exact hcall.elim (hitem _ _ _ _ first call) (ih call)

end Flotilla
