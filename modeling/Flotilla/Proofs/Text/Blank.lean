import Flotilla.Text.Blank
import Mathlib.Data.List.DropRight

/-!
# Trimming

Trimming drops the blanks at both ends of a text, and nothing else: blanks that are put there make
no difference, a text without blanks is left as it is, and a trimmed text has none at its ends, so
that trimming it again changes nothing.
-/

namespace Flotilla.Text

variable {c : Char} {cs : List Char}

theorem trimRight_eq_rdropWhile (cs : List Char) : trimRight cs = cs.rdropWhile isBlank := rfl

/-! ## Blanks at the ends -/

theorem trimChars_cons_blank (hc : isBlank c = true) : trimChars (c :: cs) = trimChars cs := by
  simp [trimChars, trimLeft, hc]

theorem trimLeft_eq_nil : trimLeft cs = [] ↔ ∀ c ∈ cs, isBlank c = true :=
  List.dropWhile_eq_nil_iff

theorem trimChars_eq_nil : trimChars cs = [] ↔ ∀ c ∈ cs, isBlank c = true := by
  rw [← trimLeft_eq_nil]
  unfold trimChars
  constructor
  · intro h
    rw [trimRight_eq_rdropWhile, List.rdropWhile_eq_nil_iff] at h
    by_contra hne
    -- The first character that is kept is no blank.
    have hpos : 0 < (cs.dropWhile isBlank).length := List.length_pos_iff.mpr hne
    exact List.dropWhile_get_zero_not isBlank cs hpos (h _ (List.getElem_mem hpos))
  · intro h
    rw [h]
    rfl

theorem trimChars_append_blank (hc : isBlank c = true) :
    trimChars (cs ++ [c]) = trimChars cs := by
  -- If there are blanks only, nothing is left on either side.
  by_cases hall : ∀ d ∈ cs, isBlank d = true
  · have hboth : ∀ d ∈ cs ++ [c], isBlank d = true := by
      intro d hd
      rcases List.mem_append.mp hd with hd | hd
      · exact hall d hd
      · rwa [List.mem_singleton.mp hd]
    rw [trimChars_eq_nil.mpr hall, trimChars_eq_nil.mpr hboth]
  · -- What leads the text is dropped up to a character that stays.
    have hleft : trimLeft (cs ++ [c]) = trimLeft cs ++ [c] := by
      unfold trimLeft
      rw [List.dropWhile_append, if_neg]
      rwa [List.isEmpty_iff, List.dropWhile_eq_nil_iff]
    unfold trimChars
    rw [hleft, trimRight_eq_rdropWhile, trimRight_eq_rdropWhile,
      List.rdropWhile_concat_pos _ _ _ hc]

theorem mem_of_mem_trimChars (h : c ∈ trimChars cs) : c ∈ cs := by
  -- Trimming takes a part from each end, so what is left was there.
  have hright : c ∈ trimLeft cs := by
    rw [trimChars, trimRight_eq_rdropWhile] at h
    exact (List.rdropWhile_prefix isBlank (trimLeft cs)).subset h
  exact (List.dropWhile_suffix isBlank).subset hright

/-- A character that is no blank is not trimmed. -/
theorem mem_trimChars_of_mem (h : c ∈ cs) (hc : isBlank c = false) : c ∈ trimChars cs := by
  -- Both ends are trimmed alike, so one direction is proved for all lists and used twice.
  have hdrop : ∀ cs : List Char, c ∈ cs → c ∈ cs.dropWhile isBlank := by
    intro cs hmem
    rw [← List.takeWhile_append_dropWhile (p := isBlank) (l := cs)] at hmem
    rcases List.mem_append.mp hmem with htaken | hleft
    · simp [List.mem_takeWhile_imp htaken] at hc
    · exact hleft
  unfold trimChars trimRight trimLeft
  exact List.mem_reverse.mpr (hdrop _ (List.mem_reverse.mpr (hdrop cs h)))

theorem trimChars_eq_self (hcs : ∀ c ∈ cs, isBlank c = false) : trimChars cs = cs := by
  have hleft : trimLeft cs = cs :=
    List.dropWhile_eq_self_iff.mpr fun h => by simp [hcs]
  unfold trimChars
  rw [hleft, trimRight_eq_rdropWhile, List.rdropWhile_eq_self_iff]
  intro hne
  simp [hcs]

/-! ## Trimming twice -/

/-- Dropping the blanks at the end leaves a first character that is no blank where it is. -/
theorem trimLeft_trimRight_trimLeft (cs : List Char) :
    trimLeft (trimRight (trimLeft cs)) = trimRight (trimLeft cs) := by
  have hpre : trimRight (trimLeft cs) <+: trimLeft cs := by
    rw [trimRight_eq_rdropWhile]
    exact List.rdropWhile_prefix isBlank _
  unfold trimLeft at hpre ⊢
  -- A list is left as it is if it has no first element, or one that is no blank.
  rw [List.dropWhile_eq_self_iff]
  intro hpos hblank
  -- The first character is the one of the text whose leading blanks are dropped.
  have hsome : 0 < (cs.dropWhile isBlank).length := Nat.lt_of_lt_of_le hpos hpre.length_le
  rw [hpre.getElem hpos] at hblank
  exact List.dropWhile_get_zero_not isBlank cs hsome hblank

theorem trimChars_trimChars (cs : List Char) : trimChars (trimChars cs) = trimChars cs := by
  unfold trimChars
  rw [trimLeft_trimRight_trimLeft, trimRight_eq_rdropWhile, trimRight_eq_rdropWhile]
  exact List.rdropWhile_idempotent isBlank _

@[simp] theorem trim_trim (s : String) : trim (trim s) = trim s := by
  apply String.toList_injective
  rw [toList_trim, toList_trim, trimChars_trimChars]

end Flotilla.Text
