import Flotilla.Proofs.Cluster.Calls

/-!
# Rules That Last

A rule with a number is used up after a while. Where no rule is, a call that fails once fails
always, and a failing call leaves the cluster as it is, its rules included.

- `fire?_of_lasting`, `Lasting.reply_eq`: the first rule about a call decides, now and later.
- `Lasting.reply_list`: listing a node changes nothing at all.
-/

namespace Flotilla.Cluster

/-- No rule is ever used up. -/
def Lasting (k : Cluster) : Prop :=
  ∀ r ∈ k.rules, r.left = none

instance (k : Cluster) : Decidable k.Lasting :=
  inferInstanceAs (Decidable (∀ r ∈ k.rules, r.left = none))

theorem fire?_of_lasting {rules : List FailRule} (h : ∀ r ∈ rules, r.left = none) (c : Call) :
    FailRule.fire? c rules = (rules.find? (·.covers c)).map fun r => (r.fault, rules) := by
  -- By induction on the rules: one that lasts is live, and firing does not change it.
  induction rules with
  | nil => rfl
  | cons r rest ih =>
    have hleft : r.left = none := h r (List.mem_cons_self ..)
    have hlive : r.isLive = true := by simp [FailRule.isLive, hleft]
    have hspend : r.spend = r := by
      cases r
      simp_all [FailRule.spend]
    by_cases hcovers : r.covers c = true
    · simp [FailRule.fire?, hcovers, hlive, hspend]
    · rw [FailRule.fire?, ih fun other hother => h other (List.mem_cons_of_mem r hother)]
      simp [hcovers, Option.map_map, Function.comp_def]

variable {k : Cluster}

/-- A call fails by the first rule about it, and is carried out if there is none. -/
theorem Lasting.reply_eq (hk : k.Lasting) (c : Call) :
    reply c k = match k.rules.find? (·.covers c) with
      | some r => (.error r.fault, k)
      | none => k.perform c := by
  unfold reply
  rw [fire?_of_lasting hk]
  cases k.rules.find? (·.covers c) with
  | none => rfl
  | some r => rfl

theorem Lasting.reply_list (hk : k.Lasting) (node : String) : (reply (.list node) k).2 = k := by
  rw [hk.reply_eq]
  cases k.rules.find? (·.covers (.list node)) with
  | none => rfl
  | some r => rfl

end Flotilla.Cluster
