import Flotilla.Proofs.Text.Lowercase
import Mathlib.Data.List.TakeWhile

/-!
# Occurrences in Lowercase

Where a text occurs in another one, its lowercase form need not occur in the lowercase form of the
other: a capital sigma at the end of the text may have letters behind it in the other one. It does
occur there if the text itself decides about the form of each of its sigmas, and only then.

- `lowerWithin_eq_iff`: a part is lowered like a text of its own exactly if its sigmas are.
- `sigmaSettled`: the characters around a sigma decide about its form, whatever else is there.
- `sigmasSettled_iff`: the main result.
-/

namespace Flotilla.Text

/-! ## §1 Capital sigmas -/

/-- Every capital sigma among some characters has a property, which is about the characters before
it, in reverse, and those after it. -/
def EverySigma (P : List Char → List Char → Prop) (before : List Char) : List Char → Prop
  | [] => True
  | c :: rest => (c = 'Σ' → P before rest) ∧ EverySigma P (c :: before) rest

instance EverySigma.decide (P : List Char → List Char → Prop) [∀ l r, Decidable (P l r)]
    (before : List Char) : (cs : List Char) → Decidable (EverySigma P before cs)
  | [] => .isTrue trivial
  | c :: rest =>
    have := EverySigma.decide P (c :: before) rest
    inferInstanceAs (Decidable ((c = 'Σ' → P before rest) ∧ EverySigma P (c :: before) rest))

section EverySigma

variable {P Q : List Char → List Char → Prop} {before cs : List Char}

theorem EverySigma.imp (hPQ : ∀ l r, P l r → Q l r) (h : EverySigma P before cs) :
    EverySigma Q before cs := by
  -- What stands before grows with every character, so it is arbitrary in the induction.
  induction cs generalizing before with
  | nil => trivial
  | cons c rest ih => exact ⟨fun hc => hPQ _ _ (h.1 hc), ih h.2⟩

theorem EverySigma.and (hP : EverySigma P before cs) (hQ : EverySigma Q before cs) :
    EverySigma (fun l r => P l r ∧ Q l r) before cs := by
  induction cs generalizing before with
  | nil => trivial
  | cons c rest ih => exact ⟨fun hc => ⟨hP.1 hc, hQ.1 hc⟩, ih hP.2 hQ.2⟩

theorem everySigma_of_not_mem (h : 'Σ' ∉ cs) : EverySigma P before cs := by
  induction cs generalizing before with
  | nil => trivial
  | cons c rest ih =>
    rw [List.mem_cons, not_or] at h
    exact ⟨fun hc => absurd hc.symm h.1, ih h.2⟩

end EverySigma

/-- A part is lowered like a text of its own exactly if every sigma in it has the form that it has
there. -/
theorem lowerWithin_eq_iff (more after : List Char) {before cs : List Char} :
    lowerWithin (before ++ more) cs after = lowerChars before cs ↔
      EverySigma (fun l r => lowerSigma (l ++ more) (r ++ after) = lowerSigma l r) before cs := by
  -- By induction on the part, with what was read before it arbitrary: the two texts agree character
  -- by character, and only a sigma looks at what stands around it.
  induction cs generalizing before with
  | nil => exact iff_of_true rfl trivial
  | cons c rest ih =>
    rw [lowerWithin, lowerChars, EverySigma, ← ih, List.cons_append]
    by_cases hc : c = 'Σ'
    · simp [hc]
    · simp [hc]

/-! ## §2 What decides about a form -/

/-- The first character that is not ignorable. -/
def decisive? (cs : List Char) : Option Char :=
  cs.find? fun c => !inRanges caseIgnorableRanges c.toNat

def isCased (c : Char) : Bool :=
  inRanges casedRanges c.toNat

/-- The form of a sigma is settled by the characters before it, in reverse, and after it: some that
are not ignorable stand on both sides, or an uncased one before the sigma, or a cased one after
it. -/
def sigmaSettled (before after : List Char) : Bool :=
  match decisive? before, decisive? after with
  | some _, some _ => true
  | some c, none => !isCased c
  | none, some c => isCased c
  | none, none => false

theorem leadsCased_eq (cs : List Char) : leadsCased cs = (decisive? cs).any isCased := by
  -- To drop what is ignorable and look at the first character is to find that character.
  have hfirst : (cs.dropWhile fun c => inRanges caseIgnorableRanges c.toNat).head? =
      decisive? cs := (List.find?_not_eq_head?_dropWhile _ cs).symm
  unfold leadsCased
  rw [← hfirst]
  cases cs.dropWhile fun c => inRanges caseIgnorableRanges c.toNat <;> rfl

theorem decisive?_append (xs ys : List Char) :
    decisive? (xs ++ ys) = (decisive? xs).or (decisive? ys) :=
  List.find?_append

/-- A settled form stays what it is, whatever comes before and after. -/
theorem lowerSigma_append_of_settled {l r : List Char} (h : sigmaSettled l r = true)
    (more after : List Char) : lowerSigma (l ++ more) (r ++ after) = lowerSigma l r := by
  unfold sigmaSettled at h
  simp only [lowerSigma, leadsCased_eq, decisive?_append]
  -- On each side there is a character that decides, or there is none: four cases.
  cases hl : decisive? l <;> cases hr : decisive? r <;> simp_all

/-- A form is settled if a letter before what comes before does not change it, and no letter behind
what comes after does. -/
theorem settled_of_lowerSigma_eq {l r : List Char}
    (hbefore : lowerSigma (l ++ ['a']) r = lowerSigma l r)
    (hafter : lowerSigma l (r ++ ['a']) = lowerSigma l r) : sigmaSettled l r = true := by
  -- The letter decides wherever nothing else does.
  have hletter : decisive? ['a'] = some 'a' := by decide +kernel
  have hcased : isCased 'a' = true := by decide +kernel
  unfold sigmaSettled
  simp only [lowerSigma, leadsCased_eq, decisive?_append] at hbefore hafter
  cases hl : decisive? l <;> cases hr : decisive? r <;> simp_all

/-! ## §3 Texts that decide -/

/-- The text itself decides about the form of each of its capital sigmas. -/
structure SigmasSettled (text : String) : Prop where
  every : EverySigma (fun before after => sigmaSettled before after = true) [] text.toList

instance (text : String) : Decidable (SigmasSettled text) :=
  decidable_of_iff (EverySigma _ [] text.toList) ⟨SigmasSettled.mk, SigmasSettled.every⟩

theorem sigmasSettled_of_not_mem {text : String} (h : 'Σ' ∉ text.toList) : SigmasSettled text :=
  ⟨everySigma_of_not_mem h⟩

/-- A text that decides about its sigmas is lowered in the same way wherever it stands. -/
theorem SigmasSettled.lowerWithin_eq {text : String} (h : SigmasSettled text)
    (before after : List Char) :
    lowerWithin before text.toList after = lowerChars [] text.toList := by
  -- Each sigma has its form from the text, so the context changes none of them.
  refine (lowerWithin_eq_iff before after).mpr (h.every.imp ?_)
  exact fun l r hsettled => lowerSigma_append_of_settled hsettled before after

/-- Where a text that decides about its sigmas occurs, it occurs in lowercase too. -/
theorem SigmasSettled.contains_lowercase {text hay : String} (h : SigmasSettled text)
    (hocc : contains hay text = true) : contains (lowercase hay) (lowercase text) = true := by
  rw [contains_iff_isInfix] at hocc ⊢
  obtain ⟨front, back, hhay⟩ := hocc
  -- What is before the text and behind it is lowered in its own way; the text is not affected by
  -- it.
  rw [lowercase, lowercase, String.toList_ofList, String.toList_ofList, ← hhay, List.append_assoc,
    lowerChars_append, lowerChars_append, h.lowerWithin_eq]
  exact ⟨_, _, List.append_assoc ..⟩

/-! ## §4 Texts that do not -/

/-- A text that does not decide is lowered in another way behind a letter or before one. -/
theorem lowerWithin_ne_of_not_settled {text : String} (h : ¬SigmasSettled text) :
    lowerWithin ['a'] text.toList [] ≠ lowerChars [] text.toList ∨
      lowerWithin [] text.toList ['a'] ≠ lowerChars [] text.toList := by
  -- If a letter made no difference on either side, every sigma would be settled.
  by_contra hneither
  rw [not_or, not_not, not_not] at hneither
  have hbehind := (@lowerWithin_eq_iff ['a'] [] [] text.toList).mp hneither.1
  have hbefore := (@lowerWithin_eq_iff [] ['a'] [] text.toList).mp hneither.2
  refine h ⟨(hbehind.and hbefore).imp ?_⟩
  rintro l r ⟨hleft, hright⟩
  rw [List.append_nil] at hleft hright
  exact settled_of_lowerSigma_eq hleft hright

/-- A list that is shifted by one character has no other character. -/
theorem eq_of_cons_eq_append {α : Type} {a b : α} {l : List α} (h : a :: l = l ++ [b]) :
    a = b ∧ ∀ c ∈ l, c = b := by
  -- By induction on the list: its first element is the new one, and so on to the end.
  induction l generalizing a with
  | nil => simpa using h
  | cons x l ih =>
    rw [List.cons_append] at h
    obtain ⟨rfl, hrest⟩ := List.cons_eq_cons.mp h
    obtain ⟨rfl, hall⟩ := ih hrest
    exact ⟨rfl, List.forall_mem_cons.mpr ⟨rfl, hall⟩⟩

section Shifted

variable {α : Type} {f : α → α} {a d : α} {xs ys : List α}

/-- Of two lists that only look alike, one is not found where a letter comes before the other. -/
theorem not_infix_cons (hne : xs ≠ ys) (hmap : xs.map f = ys.map f) (ha : f a = a)
    (hd : d ∈ xs.map f) (hda : d ≠ a) : ¬xs <:+: a :: ys := by
  -- The lists have the same length, so the first one is at the beginning of the longer one or at
  -- its end.
  have hlength : xs.length = ys.length := by simpa using congrArg List.length hmap
  rw [List.infix_cons_iff]
  rintro (⟨back, hback⟩ | hwhole)
  · have hone : back.length = 1 := by
      have hboth := congrArg List.length hback
      rw [List.length_append, List.length_cons, hlength] at hboth
      omega
    obtain ⟨b, rfl⟩ := List.length_eq_one_iff.mp hone
    -- Looked at as they look alike, the list would be shifted by one.
    have hshift := congrArg (List.map f) hback
    rw [List.map_append, List.map_singleton, List.map_cons, ← hmap, ha] at hshift
    obtain ⟨hab, hall⟩ := eq_of_cons_eq_append hshift.symm
    exact hda ((hall d hd).trans hab.symm)
  · exact hne (hwhole.eq_of_length hlength)

theorem not_infix_append (hne : xs ≠ ys) (hmap : xs.map f = ys.map f) (ha : f a = a)
    (hd : d ∈ xs.map f) (hda : d ≠ a) : ¬xs <:+: ys ++ [a] := by
  -- As before, at the other end.
  have hlength : xs.length = ys.length := by simpa using congrArg List.length hmap
  rw [List.infix_concat_iff]
  rintro (⟨front, hfront⟩ | hwhole)
  · have hone : front.length = 1 := by
      have hboth := congrArg List.length hfront
      rw [List.length_append, List.length_append, List.length_singleton, hlength] at hboth
      omega
    obtain ⟨b, rfl⟩ := List.length_eq_one_iff.mp hone
    have hshift := congrArg (List.map f) hfront
    rw [List.map_append, List.map_append, ← hmap, List.map_singleton, List.map_singleton, ha,
      List.singleton_append] at hshift
    exact hda ((eq_of_cons_eq_append hshift).2 d hd)
  · exact hne (hwhole.eq_of_length hlength)

end Shifted

/-- The sigma of a text that does not decide about it, in the form in which all sigmas look
alike. -/
theorem mem_map_oneSigma_of_not_settled {text : String} (h : ¬SigmasSettled text) :
    'σ' ∈ (lowerChars [] text.toList).map oneSigma := by
  have hmem : 'Σ' ∈ text.toList := by
    by_contra hnone
    exact h (sigmasSettled_of_not_mem hnone)
  rw [map_oneSigma_lowerChars]
  exact List.mem_map.mpr ⟨'σ', List.mem_flatMap.mpr ⟨'Σ', hmem, by simp⟩, rfl⟩

/-- A text that does not decide about its sigmas is not found in lowercase behind a letter, or
before one. -/
theorem exists_hay_of_not_settled {text : String} (h : ¬SigmasSettled text) :
    ∃ hay, contains hay text = true ∧ contains (lowercase hay) (lowercase text) = false := by
  have hsigma := mem_map_oneSigma_of_not_settled h
  -- As long as both forms of the sigma look alike, the text is lowered in the same way everywhere.
  have hmap : ∀ before after, (lowerChars [] text.toList).map oneSigma =
      (lowerWithin before text.toList after).map oneSigma := fun before after => by
    rw [map_oneSigma_lowerChars, map_oneSigma_lowerWithin]
  simp only [← Bool.not_eq_true, contains_iff_isInfix, lowercase, String.toList_ofList]
  rcases lowerWithin_ne_of_not_settled h with hbehind | hbefore
  · refine ⟨"a" ++ text, ?_, ?_⟩
    · rw [String.toList_append]
      exact (List.suffix_append ..).isInfix
    · have hhay : lowerChars [] ("a" ++ text).toList =
          'a' :: lowerWithin ['a'] text.toList [] := by
        rw [String.toList_append, lowerWithin_nil]
        rfl
      rw [hhay]
      exact not_infix_cons hbehind.symm (hmap _ _) rfl hsigma (by decide)
  · refine ⟨text ++ "a", ?_, ?_⟩
    · rw [String.toList_append]
      exact (List.prefix_append ..).isInfix
    · have hhay : lowerChars [] (text ++ "a").toList =
          lowerWithin [] text.toList ['a'] ++ ['a'] := by
        rw [String.toList_append, lowerChars_append]
        rfl
      rw [hhay]
      exact not_infix_append hbefore.symm (hmap _ _) rfl hsigma (by decide)

/-- A text is found in lowercase wherever it occurs exactly if it decides itself about the form of
each of its capital sigmas. -/
theorem sigmasSettled_iff {text : String} :
    SigmasSettled text ↔ ∀ hay, contains hay text = true →
      contains (lowercase hay) (lowercase text) = true := by
  constructor
  · exact fun h hay => h.contains_lowercase
  · intro hall
    by_contra h
    obtain ⟨hay, hocc, hnot⟩ := exists_hay_of_not_settled h
    rw [hall hay hocc] at hnot
    cases hnot

end Flotilla.Text
