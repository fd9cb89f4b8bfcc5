import Flotilla.Proofs.Text.Search
import Flotilla.Text.Lowercase

/-!
# Words in Any Letter Case

Lowercasing a text is no matter of its parts: the form of a sigma depends on what stands around it,
so that a part is lowered together with what stands around the part (`lowerWithin`). For the
question whether a text has a word without a sigma this makes no difference, so that the characters
may be lowered one by one (`mentions_iff`), and then the parts of a text as well.
-/

namespace Flotilla.Text

/-- The characters of a text, each of them lowered on its own; a capital sigma has the form that it
has inside a word. -/
def lowered (text : String) : List Char :=
  text.toList.flatMap fun c => if c = 'Σ' then ['σ'] else lowerChar c

@[simp] theorem lowered_append (s t : String) : lowered (s ++ t) = lowered s ++ lowered t := by
  simp [lowered]

/-- Both small forms of the sigma as one. -/
def oneSigma (c : Char) : Char :=
  if c = 'ς' then 'σ' else c

theorem oneSigma_lowerSigma (before after : List Char) :
    oneSigma (lowerSigma before after) = 'σ' := by
  unfold lowerSigma
  split <;> decide

/-! ## Parts of a text -/

/-- Lower the second list; it stands between what was read before it, in reverse, and the third
list. -/
def lowerWithin (before : List Char) : List Char → List Char → List Char
  | [], _ => []
  | c :: rest, after =>
    (if c = 'Σ' then [lowerSigma before (rest ++ after)] else lowerChar c) ++
      lowerWithin (c :: before) rest after

theorem lowerWithin_nil (before cs : List Char) :
    lowerWithin before cs [] = lowerChars before cs := by
  induction cs generalizing before with
  | nil => rfl
  | cons c rest ih => rw [lowerWithin, lowerChars, ih, List.append_nil]

/-- What is read first is lowered with a view to what comes after it. -/
theorem lowerChars_append (before xs ys : List Char) :
    lowerChars before (xs ++ ys) =
      lowerWithin before xs ys ++ lowerChars (xs.reverse ++ before) ys := by
  -- By induction on what is read first: every character of it joins what was read before.
  induction xs generalizing before with
  | nil => rfl
  | cons x xs ih =>
    rw [List.cons_append, lowerChars, lowerWithin, ih, List.reverse_cons, List.append_assoc,
      List.append_assoc, List.singleton_append]

/-- What stands around a character only decides about the form of a sigma. -/
theorem map_oneSigma_lowerWithin (before cs after : List Char) :
    (lowerWithin before cs after).map oneSigma =
      (cs.flatMap fun c => if c = 'Σ' then ['σ'] else lowerChar c).map oneSigma := by
  -- By induction on the characters; what was read before them is arbitrary.
  induction cs generalizing before with
  | nil => rfl
  | cons c rest ih =>
    rw [lowerWithin, List.flatMap_cons, List.map_append, List.map_append, ih]
    -- A sigma has one of two forms, which look alike now; no other character is looked at in its
    -- context.
    by_cases hc : c = 'Σ'
    · rw [if_pos hc, if_pos hc, List.map_singleton, oneSigma_lowerSigma]
      rfl
    · rw [if_neg hc, if_neg hc]

theorem map_oneSigma_lowerChars (before cs : List Char) :
    (lowerChars before cs).map oneSigma =
      (cs.flatMap fun c => if c = 'Σ' then ['σ'] else lowerChar c).map oneSigma := by
  rw [← lowerWithin_nil, map_oneSigma_lowerWithin]

/-! ## Words -/

/-- The text has the word, in any letter case. The word itself is in lowercase. -/
def Mentions (text word : String) : Prop :=
  contains (lowercase text) word = true

instance (text word : String) : Decidable (Mentions text word) :=
  inferInstanceAs (Decidable (_ = true))

theorem mentions_iff {text word : String} (hword : 'σ' ∉ word.toList ∧ 'ς' ∉ word.toList) :
    Mentions text word ↔ word.toList <:+: lowered text := by
  -- The word has neither small sigma, so it does not tell them apart.
  have hsigma : ∀ d ∈ word.toList, ∀ c, oneSigma c = d ↔ c = d := by
    intro d hd c
    unfold oneSigma
    split
    · next hc =>
      subst hc
      constructor
      · rintro rfl
        exact absurd hd hword.1
      · rintro rfl
        exact absurd hd hword.2
    · rfl
  unfold Mentions lowered
  rw [contains_iff_isInfix, lowercase, String.toList_ofList, ← infix_map_iff hsigma,
    map_oneSigma_lowerChars, infix_map_iff hsigma]

end Flotilla.Text
