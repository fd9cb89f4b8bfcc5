import Flotilla.Text.Layout
import Flotilla.Text.Search
import Mathlib.Data.List.DropRight
import Mathlib.Data.List.Infix

/-!
# Laws of Searching and Replacing

To occur in a text is to be a part of it that is not interrupted, so what occurs in a part occurs in
the whole. Where a pattern can begin, and that a text without the pattern is left alone by a
replacement. A character that leads a text is dropped once and for all.

A word that occurs in a text made of parts occurs in one of them, unless it runs across a boundary;
what stands at the boundary often tells that it cannot. In the same way a text made of parts is
replaced part by part, where a part is the pattern or the pattern does not begin in it.
-/

namespace Flotilla.Text

theorem occursIn_iff_isInfix {needle hay : List Char} :
    occursIn needle hay = true ↔ needle <:+: hay := by
  -- Both are defined by looking at every place of the text in turn.
  induction hay with
  | nil => simp [occursIn]
  | cons c rest ih =>
    rw [occursIn, Bool.or_eq_true, List.isPrefixOf_iff_prefix, ih, List.infix_cons_iff]

theorem contains_iff_isInfix {hay needle : String} :
    contains hay needle = true ↔ needle.toList <:+: hay.toList :=
  occursIn_iff_isInfix

/-- What occurs in a part of a text occurs in the text. -/
theorem contains_trans {hay middle needle : String} (hmiddle : contains hay middle = true)
    (hneedle : contains middle needle = true) : contains hay needle = true := by
  rw [contains_iff_isInfix] at *
  exact hneedle.trans hmiddle

/-- A pattern does not begin with a character that is not its first one. -/
theorem occursIn_cons_of_ne {p c : Char} (hc : p ≠ c) (ps rest : List Char) :
    occursIn (p :: ps) (c :: rest) = occursIn (p :: ps) rest := by
  have hprefix : (p :: ps).isPrefixOf (c :: rest) = false := by
    simp [List.isPrefixOf, hc]
  rw [occursIn, hprefix, Bool.false_or]

/-- Replacing a pattern that does not occur changes nothing. -/
theorem replaceChars_of_not_occursIn {pattern value cs : List Char}
    (h : occursIn pattern cs = false) : replaceChars pattern value 0 cs = cs := by
  induction cs with
  | nil => rfl
  | cons c rest ih =>
    -- It does not begin here, and it does not occur in what follows.
    unfold occursIn at h
    rw [Bool.or_eq_false_iff] at h
    unfold replaceChars
    rw [h.1, ih h.2]
    rfl

theorem replace_of_not_contains {pattern value s : String} (h : contains s pattern = false) :
    replace pattern value s = s := by
  unfold replace
  rw [replaceChars_of_not_occursIn h, String.ofList_toList]

@[simp] theorem dropLeading_dropLeading (c : Char) (s : String) :
    dropLeading c (dropLeading c s) = dropLeading c s := by
  simp [dropLeading, List.dropWhile_idempotent (· == c)]

@[simp] theorem dropLeading_empty (c : Char) : dropLeading c "" = "" := rfl

/-- One more leading character is dropped with the others. -/
theorem dropLeading_singleton_append (c : Char) (s : String) :
    dropLeading c (String.singleton c ++ s) = dropLeading c s := by
  simp [dropLeading]

/-- Dropping a leading character cuts a text where other characters begin. -/
theorem dropLeading_eq_iff {c : Char} {s t : String} :
    dropLeading c s = t ↔ t.toList.head? ≠ some c ∧ ∃ n, s = repeated n c ++ t := by
  constructor
  · rintro rfl
    refine ⟨?_, (s.toList.takeWhile (· == c)).length, String.toList_injective ?_⟩
    · -- What is left would begin with a character that was to be dropped.
      intro hhead
      have hnot := List.head?_dropWhile_not (· == c) s.toList
      rw [dropLeading, String.toList_ofList] at hhead
      simp [hhead] at hnot
    · have hall : s.toList.takeWhile (· == c) =
          List.replicate (s.toList.takeWhile (· == c)).length c :=
        List.eq_replicate_of_mem fun d hd => by simpa using List.mem_takeWhile_imp hd
      simp only [repeated, dropLeading, String.toList_append, String.toList_ofList]
      rw [← hall, List.takeWhile_append_dropWhile]
  · rintro ⟨hhead, n, rfl⟩
    apply String.toList_injective
    simp only [repeated, dropLeading, String.toList_append, String.toList_ofList]
    -- All of the repeated characters are dropped, and the next one stops it.
    rw [List.dropWhile_append_of_pos (by simp)]
    cases hlist : t.toList with
    | nil => rfl
    | cons d rest =>
      rw [hlist] at hhead
      simpa using hhead

/-! ## Words and the parts of a text -/

section Words

variable {x : Char} {word l r : List Char}

theorem eq_nil_of_prefix_cons (hx : x ∉ word) (h : word <+: x :: r) : word = [] := by
  cases word with
  | nil => rfl
  | cons first rest =>
    obtain ⟨rfl, -⟩ := List.cons_prefix_cons.mp h
    exact absurd (List.mem_cons_self ..) hx

/-- A word does not run across a character that it does not have. -/
theorem infix_append_cons_iff (hx : x ∉ word) :
    word <:+: l ++ x :: r ↔ word <:+: l ∨ word <:+: r := by
  rw [List.infix_append_iff, List.infix_cons_iff]
  constructor
  · rintro (hl | (hfront | hr) | ⟨first, last, rfl, hfirst, hlast⟩)
    · exact .inl hl
    · rw [eq_nil_of_prefix_cons hx hfront]
      exact .inl List.nil_infix
    · exact .inr hr
    · -- The part behind the boundary would begin with the character.
      rw [List.mem_append, not_or] at hx
      rw [eq_nil_of_prefix_cons hx.2 hlast, List.append_nil]
      exact .inl hfirst.isInfix
  · rintro (hl | hr)
    · exact .inl hl
    · exact .inr (.inl (.inr hr))

/-- A word does not run into a text that begins with none of its ends. -/
theorem infix_append_right_iff (hends : ∀ part ∈ word.tails, part <+: r → part = [])
    (hword : ¬word <:+: r) : word <:+: l ++ r ↔ word <:+: l := by
  rw [List.infix_append_iff]
  constructor
  · rintro (hl | hr | ⟨first, last, rfl, hfirst, hlast⟩)
    · exact hl
    · exact absurd hr hword
    · -- The word would run across the boundary, and its end would begin the second text.
      have hnone := hends last ((List.mem_tails ..).mpr (List.suffix_append ..)) hlast
      rw [hnone, List.append_nil]
      exact hfirst.isInfix
  · exact .inl

/-- A word does not begin in a text that lacks its first character. -/
theorem infix_append_left_iff (hfirst : ∀ c ∈ l, word.head? ≠ some c) :
    word <:+: l ++ r ↔ word <:+: r := by
  -- By induction on the part: at none of its characters the word can begin.
  induction l with
  | nil => rfl
  | cons c l ih =>
    obtain ⟨hc, hl⟩ := List.forall_mem_cons.mp hfirst
    rw [List.cons_append, List.infix_cons_iff, ih hl]
    refine or_iff_right_of_imp fun hprefix => ?_
    cases word with
    | nil => exact List.nil_infix
    | cons first rest =>
      obtain ⟨rfl, -⟩ := List.cons_prefix_cons.mp hprefix
      exact absurd rfl hc

/-- Texts that look alike to the characters of a word have the word at the same places. -/
theorem infix_map_iff {f : Char → Char} (hf : ∀ d ∈ word, ∀ c, f c = d ↔ c = d) :
    word <:+: l.map f ↔ word <:+: l := by
  constructor
  · rintro ⟨before, after, h⟩
    obtain ⟨front, back, rfl, hfront, -⟩ := List.map_eq_append_iff.mp h.symm
    obtain ⟨front, same, rfl, -, hsame⟩ := List.map_eq_append_iff.mp hfront
    -- Every character of the part has its image in the word, so it is its own image.
    have hfixed : ∀ c ∈ same, f c = id c := fun c hc =>
      ((hf (f c) (hsame ▸ List.mem_map_of_mem hc) c).mp rfl).symm
    rw [List.map_congr_left hfixed, List.map_id] at hsame
    rw [hsame]
    exact ⟨front, back, rfl⟩
  · intro h
    have hfixed : ∀ d ∈ word, f d = id d := fun d hd => (hf d hd d).mpr rfl
    rw [← List.map_id word, ← List.map_congr_left hfixed]
    exact h.map f

end Words

/-! ## Replacing in a text made of parts -/

section Replacing

variable {p : Char} {ps pattern value cs rest : List Char}

/-- What is left of an occurrence is passed over. -/
theorem replaceChars_length (pattern value cs rest : List Char) :
    replaceChars pattern value cs.length (cs ++ rest) = replaceChars pattern value 0 rest := by
  induction cs with
  | nil => rfl
  | cons c cs ih => exact ih

/-- A pattern is replaced where it stands, and the search goes on behind it. -/
theorem replaceChars_pattern_append (value rest : List Char) :
    replaceChars (p :: ps) value 0 (p :: ps ++ rest) =
      value ++ replaceChars (p :: ps) value 0 rest := by
  have hprefix : (p :: ps).isPrefixOf (p :: (ps ++ rest)) = true :=
    List.isPrefixOf_iff_prefix.mpr (List.prefix_append (p :: ps) rest)
  rw [List.cons_append, replaceChars, if_pos hprefix, List.length_cons, Nat.add_sub_cancel,
    replaceChars_length]

/-- Where the pattern does not begin, the search goes on with the next character. -/
theorem replaceChars_cons_of_not_prefix {c : Char} (h : ¬pattern <+: c :: rest) :
    replaceChars pattern value 0 (c :: rest) = c :: replaceChars pattern value 0 rest := by
  rw [replaceChars, if_neg (by rwa [List.isPrefixOf_iff_prefix])]

/-- A part without the first character of the pattern is left alone. -/
theorem replaceChars_append_of_not_mem (h : p ∉ cs) :
    replaceChars (p :: ps) value 0 (cs ++ rest) =
      cs ++ replaceChars (p :: ps) value 0 rest := by
  -- By induction on the part; the pattern begins at none of its characters.
  induction cs with
  | nil => rfl
  | cons c cs ih =>
    rw [List.mem_cons, not_or] at h
    have hprefix : ¬p :: ps <+: c :: (cs ++ rest) := fun hboth =>
      h.1 (List.cons_prefix_cons.mp hboth).1
    rw [List.cons_append, replaceChars_cons_of_not_prefix hprefix, ih h.2, List.cons_append]

/-- A text is replaced part by part, where every part is replaced in the same way whatever comes
behind it. -/
theorem replace_join {ι : Type} {pattern value : String} {parts : List ι} {text result : ι → String}
    (hpart : ∀ part ∈ parts, ∀ rest,
      replace pattern value (text part ++ rest) = result part ++ replace pattern value rest) :
    replace pattern value (String.join (parts.map text)) = String.join (parts.map result) := by
  -- By induction on the parts, each with all that comes behind it.
  induction parts with
  | nil => rfl
  | cons part parts ih =>
    rw [List.map_cons, List.map_cons, String.join_cons, String.join_cons,
      hpart part (List.mem_cons_self ..),
      ih fun other hother => hpart other (List.mem_cons_of_mem part hother)]

/-- A text begins with the pattern, which is not empty. -/
theorem replace_pattern_append {pattern : String} (hpattern : pattern ≠ "") (value rest : String) :
    replace pattern value (pattern ++ rest) = value ++ replace pattern value rest := by
  -- An empty pattern would be found everywhere.
  cases hchars : pattern.toList with
  | nil => exact absurd (String.toList_eq_nil_iff.mp hchars) hpattern
  | cons p ps =>
    simp only [replace, String.toList_append, hchars, replaceChars_pattern_append,
      String.ofList_append, String.ofList_toList]

/-- A text begins with a character, and the pattern does not begin there. -/
theorem replace_singleton_append {pattern rest : String} {c : Char} (value : String)
    (h : ¬pattern.toList <+: c :: rest.toList) :
    replace pattern value (String.singleton c ++ rest) =
      String.singleton c ++ replace pattern value rest := by
  refine String.toList_injective ?_
  simp only [replace, String.toList_append, String.toList_singleton, List.singleton_append,
    replaceChars_cons_of_not_prefix h, String.toList_ofList]

/-- A text begins with a part that does not have the first character of the pattern. -/
theorem replace_append_of_not_mem {pattern s : String} (hpattern : pattern.toList = p :: ps)
    (hs : p ∉ s.toList) (value rest : String) :
    replace pattern value (s ++ rest) = s ++ replace pattern value rest := by
  simp only [replace, String.toList_append, hpattern, replaceChars_append_of_not_mem hs,
    String.ofList_append, String.ofList_toList]

end Replacing

end Flotilla.Text
