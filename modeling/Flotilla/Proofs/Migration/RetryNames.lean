import Flotilla.Proofs.Migration.Protocol
import Flotilla.Proofs.Text.Number

/-!
# Names of Second Attempts

A container whose name is taken on the target is created once more under a name that ends in its
position. The position is what stands behind the last dash, so the name can be read back even where
the old name has such an ending itself. Since every container has its own position, the second
attempts of a migration never get in each other's way.

- `Migration.retryName_inj`: the derived name tells the old one and the position.
- `Migration.retries`: the second attempts, read off the calls of a migration.
- `Migration.ItemLog.retries_eq`, `Migration.retries_of_attempts`: what is tried again for one
  container, and for all of them.
- `Migration.retry_names_never_clash`: the main result.
-/

namespace Flotilla.Migration

/-! ## §1 Derived names -/

/-- Texts with a separator that is not in their last parts are the same part by part. -/
theorem append_cons_inj_of_not_mem {l₁ l₂ r₁ r₂ : List Char} {sep : Char} (h₁ : sep ∉ r₁)
    (h₂ : sep ∉ r₂) : l₁ ++ sep :: r₁ = l₂ ++ sep :: r₂ ↔ l₁ = l₂ ∧ r₁ = r₂ := by
  constructor
  · intro h
    -- One of the first parts begins with the other one; what is left would hold the separator.
    rcases List.append_eq_append_iff.mp h with ⟨more, hleft, hright⟩ | ⟨more, hleft, hright⟩
    · cases more with
      | nil => simp_all
      | cons c more =>
        obtain ⟨-, rfl⟩ := List.cons_eq_cons.mp hright
        exact absurd (by simp) h₁
    · cases more with
      | nil => simp_all
      | cons c more =>
        obtain ⟨-, rfl⟩ := List.cons_eq_cons.mp hright
        exact absurd (by simp) h₂
  · rintro ⟨rfl, rfl⟩
    rfl

theorem dash_not_mem_decimal (n : Nat) : '-' ∉ (Text.decimal n).toList := by
  intro hdash
  exact absurd (Text.isDigit_of_mem_decimal hdash) (by decide)

/-- A derived name tells the name that it was derived from, and the position. -/
theorem retryName_inj {a b : String} {i j : Nat} :
    retryName a i = retryName b j ↔ a = b ∧ i = j := by
  constructor
  · intro h
    have hchars := congrArg String.toList h
    -- The last dash stands right before the position.
    have hdash : ∀ (name : String) (index : Nat), (retryName name index).toList =
        (name.toList ++ "-migrated".toList) ++ '-' :: (Text.decimal index).toList := by
      intro name index
      simp [retryName]
    rw [hdash, hdash, append_cons_inj_of_not_mem (dash_not_mem_decimal i) (dash_not_mem_decimal j)]
      at hchars
    obtain ⟨hname, hindex⟩ := hchars
    exact ⟨String.toList_injective (List.append_cancel_right hname),
      Text.decimal_inj.mp (String.toList_injective hindex)⟩
  · rintro ⟨rfl, rfl⟩
    rfl

/-- A derived name is longer than the name that it replaces. -/
theorem retryName_ne (name : String) (index : Nat) : retryName name index ≠ name := by
  intro h
  -- It is longer by the suffix and the digits.
  have hlength := congrArg String.length h
  have hsuffix : "-migrated-".length = 10 := rfl
  simp only [retryName, String.length_append, hsuffix] at hlength
  omega

/-! ## §2 Second attempts among calls -/

/-- The second attempts among some calls: a creation that directly follows another one, with the
plans of both, the first one first. -/
def retries : List Call → List (Plan × Plan)
  | [] => []
  | .create _ first :: .create target second :: rest =>
    (first, second) :: retries (.create target second :: rest)
  | _ :: rest => retries rest

/-- The calls do not begin with a creation. -/
def StartsAfresh (calls : List Call) : Prop :=
  ∀ node plan rest, calls ≠ .create node plan :: rest

theorem retries_create_cons {node : String} {plan : Plan} {rest : List Call}
    (h : StartsAfresh rest) : retries (.create node plan :: rest) = retries rest := by
  cases rest with
  | nil => rfl
  | cons c rest =>
    cases c with
    | create other next => exact absurd rfl (h other next rest)
    | _ => rfl

/-- No second attempt runs across a place where something else begins. -/
theorem retries_append {calls more : List Call} (h : StartsAfresh more) :
    retries (calls ++ more) = retries calls ++ retries more := by
  -- By induction on the first calls: a creation at their end is not followed by one, since the
  -- others begin with something else.
  induction calls with
  | nil => rfl
  | cons c rest ih =>
    cases c with
    | create node plan =>
      cases rest with
      | nil => exact retries_create_cons h
      | cons d rest =>
        cases d with
        | create other next => exact congrArg ((plan, next) :: ·) ih
        | _ => exact ih
    | _ => exact ih

/-- What is tried again at a position: a plan, and the same one under the derived name. -/
def retryAt (index : Nat) (plan : Plan) : Plan × Plan :=
  (plan, plan.renamed (retryName plan.name index))

/-! ## §3 From one container to the whole migration -/

section Attempts

variable {keepSource : Bool} {source target : String} {index : Nat}

theorem Creation.retries_eq {plan : Plan} {creation : List Event} {result : Except Fault Plan}
    (h : Creation target plan index creation result) :
    retries (callsOf creation) = [] ∨ retries (callsOf creation) = [retryAt index plan] := by
  cases h with
  | created => exact .inl rfl
  | refused fault hfinal => exact .inl rfl
  | retried fault reply hkind hname => exact .inr rfl

/-- For one container there is at most one second attempt, under the name derived from its own
position. -/
theorem ItemLog.retries_eq {container : Container} {block : List Event}
    (h : ItemLog keepSource source target container index block) :
    retries (callsOf block) = [] ∨ ∃ plan, retries (callsOf block) = [retryAt index plan] := by
  cases h with
  | notInspected fault => exact .inl rfl
  | notPlanned hplan => exact .inl rfl
  | notCreated hplan hcreation => exact hcreation.retries_eq.imp_right fun h => ⟨_, h⟩
  | kept hplan hcreation hkeep => exact hcreation.retries_eq.imp_right fun h => ⟨_, h⟩
  | @removed snapshot plan created creation hplan hcreation hmove reply =>
    -- The removal at the end is no creation, and neither is the inspection at the beginning.
    have hafresh : StartsAfresh (callsOf [.exchange (.delete source container.id) reply]) :=
      fun _ _ _ h => by cases h
    have hsame : retries (callsOf (.exchange (.inspect source container.id) (.ok snapshot) ::
        creation ++ [.exchange (.delete source container.id) reply])) =
          retries (callsOf creation) := by
      show retries (callsOf (creation ++ [.exchange (.delete source container.id) reply])) = _
      rw [callsOf_append, retries_append hafresh]
      exact List.append_nil _
    rw [hsame]
    exact hcreation.retries_eq.imp_right fun h => ⟨plan, h⟩

/-- A container is inspected before anything is created for it. -/
theorem ItemLog.startsAfresh {container : Container} {block : List Event}
    (h : ItemLog keepSource source target container index block) (more : List Event) :
    StartsAfresh (callsOf (block ++ more)) := by
  intro node plan rest heq
  cases h <;> cases heq

theorem startsAfresh_of_attempts {containers : List Container} {events : List Event}
    {entries : List Entry}
    (h : Attempts (Attempted keepSource source target) index containers events entries) :
    StartsAfresh (callsOf events) := by
  -- The first block begins with an inspection, if there is a block at all.
  cases h with
  | stop index items => exact fun _ _ _ h => by cases h
  | next first others => exact first.log.startsAfresh _

/-- The second attempts of a migration are about containers at different positions, in order. -/
theorem retries_of_attempts {containers : List Container} {events : List Event}
    {entries : List Entry}
    (h : Attempts (Attempted keepSource source target) index containers events entries) :
    ∃ retried : List (Nat × Plan), retried.Pairwise (·.1 < ·.1) ∧ (∀ r ∈ retried, index ≤ r.1) ∧
      retries (callsOf events) = retried.map fun r => retryAt r.1 r.2 := by
  -- By induction on the attempts; those that come later have greater positions.
  induction h with
  | stop index items => exact ⟨[], .nil, by simp, rfl⟩
  | @next index container block entry rest events entries first others ih =>
    obtain ⟨retried, hordered, hlater, heq⟩ := ih
    rw [callsOf_append, retries_append (startsAfresh_of_attempts others), heq]
    -- The first container adds no second attempt or one at its own position.
    rcases first.log.retries_eq with hnone | ⟨plan, hone⟩
    · exact ⟨retried, hordered, fun r hr => Nat.le_of_succ_le (hlater r hr), by rw [hnone]; rfl⟩
    · refine ⟨(index, plan) :: retried, List.pairwise_cons.mpr ⟨hlater, hordered⟩, ?_, ?_⟩
      · intro r hr
        rcases List.mem_cons.mp hr with rfl | hr
        · exact Nat.le_refl index
        · exact Nat.le_of_succ_le (hlater r hr)
      · rw [hone]
        rfl

end Attempts

section Runs

variable {σ : Type} {m : Migration} {w : World σ} {s : σ}

/-- A refused migration creates nothing. -/
theorem RefusedFor.retries_eq {refusal : Refusal} {events : List Event}
    (h : m.RefusedFor w s refusal events) : retries (callsOf events) = [] := by
  cases h <;> rfl

theorem retries_of_run (m : Migration) (w : World σ) (s : σ) :
    ∃ retried : List (Nat × Plan), retried.Pairwise (·.1 < ·.1) ∧
      retries (callsOf (w.run m.run s).2.events) = retried.map fun r => retryAt r.1 r.2 := by
  -- A migration that was refused has created nothing, and another one is told by its attempts.
  cases hresult : (w.run m.run s).1 with
  | error refusal => exact ⟨[], .nil, (refusedFor_of_run hresult).retries_eq⟩
  | ok ledger =>
    obtain ⟨nodes, containers, attempts, hevents, hattempts, -⟩ :=
      run_follows_protocol w m s hresult
    obtain ⟨retried, hordered, -, heq⟩ := retries_of_attempts hattempts
    refine ⟨retried, hordered, ?_⟩
    rw [hevents, callsOf_exchange, callsOf_exchange, callsOf_append, callsOf_refreshed, callsOf_nil,
      List.append_nil, ← heq]
    rfl

end Runs

/-- **Names of second attempts never clash.** A derived name tells the name and the position that it
was derived from, whatever the names are, even if they end in such a suffix themselves. So in every
world, whatever it replies to the calls, the second attempts of a migration are about containers at
different positions, each of them under the name derived from its own plan and position, no two of
these names are the same, and none of them is the name that it replaces. -/
theorem retry_names_never_clash :
    (∀ (a b : String) (i j : Nat),
      a ++ "-migrated-" ++ Text.decimal i = b ++ "-migrated-" ++ Text.decimal j ↔
        i = j ∧ a = b) ∧
    ∀ {σ : Type} (w : World σ) (m : Migration) (s : σ),
      (∃ retried : List (Nat × Plan), retried.Pairwise (·.1 < ·.1) ∧
        retries (callsOf (w.run m.run s).2.events) = retried.map fun r =>
          (r.2, r.2.renamed (r.2.name ++ "-migrated-" ++ Text.decimal r.1))) ∧
      ((retries (callsOf (w.run m.run s).2.events)).map (·.2.name)).Nodup ∧
      ∀ r ∈ retries (callsOf (w.run m.run s).2.events), r.2.name ≠ r.1.name := by
  refine ⟨fun a b i j => retryName_inj.trans And.comm, fun w m s => ?_⟩
  obtain ⟨retried, hordered, heq⟩ := retries_of_run m w s
  refine ⟨⟨retried, hordered, heq⟩, ?_, ?_⟩
  · rw [heq, List.map_map]
    refine List.pairwise_map.mpr (hordered.imp fun {first second} hlt hname => ?_)
    -- The same name would have been derived at the same position.
    exact absurd (retryName_inj.mp hname).2 (Nat.ne_of_lt hlt)
  · intro r hr
    rw [heq] at hr
    obtain ⟨first, -, rfl⟩ := List.mem_map.mp hr
    exact retryName_ne _ _

/-- The sample cluster, where every container of the source has a namesake on the target, and the
name derived for the first one is the name of the second one. -/
def crowded : Cluster :=
  { Cluster.sample with
    hosts :=
      [("a", [Cluster.sampleHeld "1" "web", Cluster.sampleHeld "2" "web-migrated-1"]),
        ("b", [Cluster.sampleHeld "8" "web", Cluster.sampleHeld "9" "web-migrated-1"])] }

set_option maxRecDepth 4000 in
/-- Both containers are tried again. -/
theorem crowded_retry_names_never_clash :
    (retries (callsOf ((Cluster.world fun _ => false).run sample.run crowded).2.events)).map
        (fun r => (r.1.name, r.2.name)) =
      [("web", "web-migrated-1"), ("web-migrated-1", "web-migrated-1-migrated-2")] ∧
    ((retries (callsOf ((Cluster.world fun _ => false).run sample.run crowded).2.events)).map
        (·.2.name)).Nodup ∧
    ∀ r ∈ retries (callsOf ((Cluster.world fun _ => false).run sample.run crowded).2.events),
      r.2.name ≠ r.1.name :=
  ⟨rfl, (retry_names_never_clash.2 (Cluster.world fun _ => false) sample crowded).2⟩

end Flotilla.Migration
