import Flotilla.Planning
import Flotilla.Proofs.Text.Blank
import Mathlib.Data.List.Basic

/-!
# Trimmed Lines

What an operator types line by line is read without blanks at the ends of a line and without blank
lines. A carriage return is a blank, so the trimmed lines are simply what the line feeds keep apart,
trimmed. Blanks around the whole text count for nothing, and texts that are joined by line feeds
bring their lines one after the other.

- `Text.trimmedCells`: the pieces between line feeds, trimmed, without empty ones.
- `textLines_eq`: these are the trimmed lines.
- `textLines_join`, `textLines_trim`: the lines of a text that was joined or trimmed.
- `textLines_eq_singleton`: a text is its only line exactly if no line feed is inside of it.
-/

namespace Flotilla

namespace Text

/-! ## §1 Pieces -/

section Cells

variable {sep c : Char} {cs rest piece : List Char}

theorem cells_cons_sep (sep : Char) (rest : List Char) :
    cells sep (sep :: rest) = [] :: cells sep rest := by
  simp [cells]

/-- A character that is no separator belongs to the first piece of what follows it. -/
theorem cells_cons_of_ne {pieces : List (List Char)} (hc : c ≠ sep)
    (hrest : cells sep rest = piece :: pieces) :
    cells sep (c :: rest) = (c :: piece) :: pieces := by
  simp [cells, hc, hrest]

theorem exists_cells_eq_cons (sep : Char) (cs : List Char) :
    ∃ piece pieces, cells sep cs = piece :: pieces :=
  List.exists_cons_of_ne_nil (cells_ne_nil sep cs)

/-- A separator keeps the pieces on both sides apart. -/
theorem cells_append_sep (sep : Char) (before after : List Char) :
    cells sep (before ++ sep :: after) = cells sep before ++ cells sep after := by
  induction before with
  | nil => simp [cells]
  | cons c before ih =>
    -- A separator begins a piece on both sides; any other character is put before the first piece,
    -- which is the same one on both sides.
    by_cases hc : c = sep
    · subst hc
      rw [List.cons_append, cells_cons_sep, cells_cons_sep, ih, List.cons_append]
    · obtain ⟨piece, pieces, hpieces⟩ := exists_cells_eq_cons sep before
      rw [hpieces, List.cons_append] at ih
      rw [List.cons_append, cells_cons_of_ne hc ih, cells_cons_of_ne hc hpieces, List.cons_append]

/-- A text without a separator is one piece. -/
theorem cells_of_not_mem (h : sep ∉ cs) : cells sep cs = [cs] := by
  induction cs with
  | nil => rfl
  | cons c rest ih =>
    rw [List.mem_cons, not_or] at h
    exact cells_cons_of_ne (Ne.symm h.1) (ih h.2)

/-- The first piece is what comes before the first separator. -/
theorem head?_cells (sep : Char) (cs : List Char) :
    (cells sep cs).head? = some (cs.takeWhile (· ≠ sep)) := by
  induction cs with
  | nil => rfl
  | cons c rest ih =>
    -- Before a separator there is nothing; any other character comes before the first piece of what
    -- follows it.
    by_cases hc : c = sep
    · subst hc
      simp [cells_cons_sep]
    · obtain ⟨piece, pieces, hpieces⟩ := exists_cells_eq_cons sep rest
      rw [hpieces, List.head?_cons, Option.some.injEq] at ih
      rw [cells_cons_of_ne hc hpieces, List.head?_cons, ih]
      simp [hc]

/-- No piece has a separator. -/
theorem not_mem_of_mem_cells (h : piece ∈ cells sep cs) : sep ∉ piece := by
  induction cs generalizing piece with
  | nil =>
    rw [List.mem_singleton.mp h]
    exact List.not_mem_nil
  | cons c rest ih =>
    by_cases hc : c = sep
    · subst hc
      rw [cells_cons_sep] at h
      rcases List.mem_cons.mp h with rfl | h
      · exact List.not_mem_nil
      · exact ih h
    · obtain ⟨first, pieces, hpieces⟩ := exists_cells_eq_cons sep rest
      -- Only the first piece has a new character, and that is no separator.
      rw [cells_cons_of_ne hc hpieces] at h
      rw [hpieces] at ih
      rcases List.mem_cons.mp h with rfl | h
      · rw [List.mem_cons, not_or]
        exact ⟨Ne.symm hc, ih (List.mem_cons_self ..)⟩
      · exact ih (List.mem_cons_of_mem _ h)

/-- Every character but the separators is in some piece. -/
theorem exists_cell_of_mem (h : c ∈ cs) (hc : c ≠ sep) : ∃ piece ∈ cells sep cs, c ∈ piece := by
  induction cs with
  | nil => cases h
  | cons d rest ih =>
    obtain ⟨first, pieces, hpieces⟩ := exists_cells_eq_cons sep rest
    by_cases hd : d = sep
    · subst hd
      -- The separator is not the character, so that comes later.
      obtain ⟨piece, hpiece, hmem⟩ := ih ((List.mem_cons.mp h).resolve_left hc)
      rw [cells_cons_sep]
      exact ⟨piece, List.mem_cons_of_mem _ hpiece, hmem⟩
    · rw [cells_cons_of_ne hd hpieces]
      rcases List.mem_cons.mp h with rfl | h
      · exact ⟨_, List.mem_cons_self .., List.mem_cons_self ..⟩
      · obtain ⟨piece, hpiece, hmem⟩ := ih h
        rw [hpieces] at hpiece
        rcases List.mem_cons.mp hpiece with rfl | hpiece
        · exact ⟨_, List.mem_cons_self .., List.mem_cons_of_mem _ hmem⟩
        · exact ⟨piece, List.mem_cons_of_mem _ hpiece, hmem⟩

end Cells

/-! ## §2 Carriage returns -/

/-- A carriage return at the end is a blank at the end. -/
theorem trimChars_dropReturn (cs : List Char) : trimChars (dropReturn cs) = trimChars cs := by
  unfold dropReturn
  split
  · rename_i hlast
    obtain ⟨init, rfl⟩ := List.getLast?_eq_some_iff.mp hlast
    rw [List.dropLast_concat, trimChars_append_blank (by decide)]
  · rfl

/-! ## §3 Trimmed pieces -/

/-- The pieces between line feeds, trimmed, without those that are empty then. -/
def trimmedCells (cs : List Char) : List (List Char) :=
  ((cells '\n' cs).map trimChars).filter (· ≠ [])

section TrimmedCells

variable {c : Char} {cs : List Char}

theorem trimmedCells_append (before after : List Char) :
    trimmedCells (before ++ '\n' :: after) = trimmedCells before ++ trimmedCells after := by
  simp [trimmedCells, cells_append_sep]

/-- A blank at the beginning is dropped with its piece, or with the blanks of its piece. -/
theorem trimmedCells_cons_blank (hc : isBlank c = true) :
    trimmedCells (c :: cs) = trimmedCells cs := by
  -- A line feed is a blank as well, but it makes an empty piece and does not stand in one.
  by_cases hsep : c = '\n'
  · subst hsep
    exact trimmedCells_append [] cs
  · obtain ⟨piece, pieces, hpieces⟩ := exists_cells_eq_cons '\n' cs
    unfold trimmedCells
    rw [cells_cons_of_ne hsep hpieces, hpieces, List.map_cons, List.map_cons,
      trimChars_cons_blank hc]

theorem trimmedCells_of_not_mem (h : '\n' ∉ cs) :
    trimmedCells cs = [trimChars cs].filter (· ≠ []) := by
  rw [trimmedCells, cells_of_not_mem h, List.map_singleton]

theorem trimmedCells_append_blank (hc : isBlank c = true) :
    trimmedCells (cs ++ [c]) = trimmedCells cs := by
  by_cases hsep : c = '\n'
  · subst hsep
    rw [trimmedCells_append]
    exact List.append_nil _
  · -- The blank belongs to the last piece, from the last line feed on.
    have hlast : ∀ last, '\n' ∉ last → trimmedCells (last ++ [c]) = trimmedCells last := by
      intro last hnone
      have hboth : '\n' ∉ last ++ [c] := by simp [hnone, Ne.symm hsep]
      rw [trimmedCells_of_not_mem hboth, trimmedCells_of_not_mem hnone, trimChars_append_blank hc]
    by_cases hfeed : '\n' ∈ cs
    · -- The last line feed is the first one of the reversed text.
      obtain ⟨after, before, hsplit, hnone⟩ :=
        List.eq_append_cons_of_mem (List.mem_reverse.mpr hfeed)
      have hcs : cs = before.reverse ++ '\n' :: after.reverse := by
        rw [← List.reverse_reverse cs, hsplit]
        simp
      rw [hcs, List.append_assoc, List.cons_append, trimmedCells_append, trimmedCells_append,
        hlast _ (by simpa using hnone)]
    · exact hlast cs hfeed

/-- Blanks around a text change nothing about its trimmed pieces. -/
theorem trimmedCells_trimChars (cs : List Char) :
    trimmedCells (trimChars cs) = trimmedCells cs := by
  -- Each side is trimmed blank by blank, from its own end: the left one by induction from the
  -- front, the right one by induction from the back.
  have hleft : ∀ cs, trimmedCells (trimLeft cs) = trimmedCells cs := by
    intro cs
    induction cs with
    | nil => rfl
    | cons c rest ih =>
      by_cases hc : isBlank c = true
      · rw [trimmedCells_cons_blank hc, ← ih]
        simp [trimLeft, hc]
      · simp [trimLeft, hc]
  have hright : ∀ cs, trimmedCells (trimRight cs) = trimmedCells cs := by
    intro cs
    induction cs using List.reverseRecOn with
    | nil => rfl
    | append_singleton init c ih =>
      rw [trimRight_eq_rdropWhile] at *
      by_cases hc : isBlank c = true
      · rw [List.rdropWhile_concat_pos _ _ _ hc, ih, trimmedCells_append_blank hc]
      · rw [List.rdropWhile_concat_neg _ _ _ hc]
  unfold trimChars
  rw [hright, hleft]

/-- No trimmed piece has a line feed. -/
theorem not_mem_of_mem_trimmedCells {piece : List Char} (h : piece ∈ trimmedCells cs) :
    '\n' ∉ piece := by
  obtain ⟨whole, hwhole, rfl⟩ := List.mem_map.mp (List.mem_filter.mp h).1
  exact fun hmem => not_mem_of_mem_cells hwhole (mem_of_mem_trimChars hmem)

/-- Only blank texts have no trimmed pieces. -/
theorem trimmedCells_eq_nil : trimmedCells cs = [] ↔ trimChars cs = [] := by
  constructor
  · intro hnone
    rw [trimChars_eq_nil]
    intro c hc
    -- Every character is a line feed, and that is blank, or stands in a piece of which nothing is
    -- left.
    by_cases hfeed : c = '\n'
    · subst hfeed
      decide
    · obtain ⟨piece, hpiece, hmem⟩ := exists_cell_of_mem hc hfeed
      have hempty : trimChars piece = [] := by
        have hnot := List.filter_eq_nil_iff.mp hnone _ (List.mem_map_of_mem hpiece)
        simpa using hnot
      exact trimChars_eq_nil.mp hempty c hmem
  · intro hblank
    rw [← trimmedCells_trimChars, hblank]
    rfl

/-- A trimmed text without a line feed is its only trimmed piece. -/
theorem trimmedCells_eq_singleton (hsome : trimChars cs ≠ []) (hnone : '\n' ∉ trimChars cs) :
    trimmedCells cs = [trimChars cs] := by
  rw [← trimmedCells_trimChars, trimmedCells_of_not_mem hnone, trimChars_trimChars]
  exact List.filter_eq_self.mpr (by simpa using hsome)

end TrimmedCells

end Text

/-! ## §4 Trimmed lines -/

open Text

/-- The carriage returns at the ends of lines and an empty line at the end make no difference to
the trimmed pieces. -/
theorem filter_trimChars_lineChars (cs : List Char) :
    ((lineChars cs).map trimChars).filter (· ≠ []) = trimmedCells cs := by
  obtain ⟨init, last, hpieces⟩ : ∃ init last, cells '\n' cs = init ++ [last] :=
    ⟨_, _, (List.dropLast_append_getLast (cells_ne_nil '\n' cs)).symm⟩
  have hinit : (init.map dropReturn).map trimChars = init.map trimChars := by
    rw [List.map_map]
    exact List.map_congr_left fun piece _ => trimChars_dropReturn piece
  -- The last piece alone is treated apart: it is no line if it is empty, and then trimming leaves
  -- nothing of it either.
  unfold lineChars trimmedCells
  simp only [hpieces, List.dropLast_concat, List.getLast?_concat, List.map_append, hinit,
    List.filter_append]
  congr 1
  cases last with
  | nil => rfl
  | cons c rest => rfl

/-- The trimmed lines are the trimmed pieces between line feeds. -/
theorem textLines_eq (text : String) :
    textLines text = (trimmedCells text.toList).map String.ofList := by
  have htrim :
      (lines text).map trim = ((lineChars text.toList).map trimChars).map String.ofList := by
    simp [lines, trim, Function.comp_def]
  unfold textLines
  rw [htrim, List.filter_map, ← filter_trimChars_lineChars]
  congr 2
  funext cs
  simp

@[simp] theorem textLines_trim (text : String) : textLines (trim text) = textLines text := by
  rw [textLines_eq, textLines_eq, toList_trim, trimmedCells_trimChars]

/-- The lines of texts that are joined by line feeds, one text after the other. -/
theorem textLines_join (texts : List String) :
    textLines (join "\n" texts) = texts.flatMap textLines := by
  -- By induction on the texts; `join` writes a line feed only where another text follows.
  induction texts with
  | nil => rfl
  | cons first rest ih =>
    cases rest with
    | nil => simp [join]
    | cons second rest =>
      have hfeed : (join "\n" (first :: second :: rest)).toList =
          first.toList ++ '\n' :: (join "\n" (second :: rest)).toList := by
        simp [join]
      rw [List.flatMap_cons, ← ih, textLines_eq, hfeed, trimmedCells_append, List.map_append,
        ← textLines_eq, ← textLines_eq]

/-- No line has a line feed. -/
theorem not_mem_of_mem_textLines {text line : String} (h : line ∈ textLines text) :
    '\n' ∉ line.toList := by
  rw [textLines_eq] at h
  obtain ⟨cs, hcs, rfl⟩ := List.mem_map.mp h
  rw [String.toList_ofList]
  exact not_mem_of_mem_trimmedCells hcs

theorem textLines_eq_nil {text : String} : textLines text = [] ↔ trim text = "" := by
  rw [textLines_eq, List.map_eq_nil_iff, trimmedCells_eq_nil, ← toList_trim]
  simp

/-- A text is its only line exactly if, blanks at its ends aside, there is no line feed in it. -/
theorem textLines_eq_singleton {text : String} (h : trim text ≠ "") :
    textLines text = [trim text] ↔ '\n' ∉ (trim text).toList := by
  constructor
  · intro hsingle
    exact not_mem_of_mem_textLines (hsingle ▸ List.mem_singleton_self _)
  · intro hnone
    rw [toList_trim] at hnone
    -- Some piece is left, since the text is not blank, and without line feeds it is the only one.
    have hsome : trimChars text.toList ≠ [] := by
      intro hempty
      exact h (String.toList_injective (by rw [toList_trim, hempty]; rfl))
    rw [textLines_eq, trimmedCells_eq_singleton hsome hnone]
    rfl

/-- Every line is trimmed. -/
theorem trim_of_mem_textLines {text line : String} (h : line ∈ textLines text) :
    trim line = line := by
  unfold textLines at h
  obtain ⟨whole, -, rfl⟩ := List.mem_map.mp (List.mem_filter.mp h).1
  exact trim_trim whole

end Flotilla
