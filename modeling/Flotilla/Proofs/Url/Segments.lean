import Flotilla.Proofs.Url.Percent
import Flotilla.Url.Segments

/-!
# Laws of Path Segments

Which texts stay what they are when they are appended to a path as segments, and what becomes of
the others.

- `FitsSegment`: the texts that are no dot segment and of which nothing is removed. Such a text is
  one segment more, whatever else it holds, and the text can be read back from it.
- `foldl_appendSegment_of_length`: where a path has grown by one segment for every text, each of
  the texts was placed.
- `renderSegments_inj`: the written form tells segments without slashes apart.
-/

namespace Flotilla.Url

/-! ## §1 Texts as segments -/

/-- A text that stays what it is as a segment. -/
structure FitsSegment (text : String) : Prop where
  no_dot : text ≠ "."
  no_dots : text ≠ ".."
  not_removed : ∀ c ∈ text.toList, isRemoved c = false

instance (text : String) : Decidable (FitsSegment text) :=
  decidable_of_iff (text ≠ "." ∧ text ≠ ".." ∧ text.toList.all (!isRemoved ·) = true)
    ⟨fun ⟨hdot, hdots, hall⟩ => ⟨hdot, hdots, by simpa using hall⟩,
      fun h => ⟨h.no_dot, h.no_dots, by simpa using h.not_removed⟩⟩

/-- A text without the characters that are removed from a URL. -/
def withoutRemoved (text : String) : String :=
  String.ofList (text.toList.filter (!isRemoved ·))

theorem withoutRemoved_eq_self {text : String} :
    withoutRemoved text = text ↔ ∀ c ∈ text.toList, isRemoved c = false := by
  unfold withoutRemoved
  rw [← String.toList_inj, String.toList_ofList, List.filter_eq_self]
  simp

theorem keptInSegment_percent (special : Bool) : keptInSegment special '%' = false := by
  cases special <;> decide

theorem keptInSegment_slash (special : Bool) : keptInSegment special '/' = false := by
  cases special <;> decide

theorem keptInSegment_dot (special : Bool) : keptInSegment special '.' = true := by
  cases special <;> decide

/-- The bytes of characters are read back as the characters. -/
theorem ofBytes?_flatMap_utf8EncodeChar (cs : List Char) :
    Text.ofBytes? (cs.flatMap String.utf8EncodeChar) = some (String.ofList cs) := by
  have hbytes : (⟨(cs.flatMap String.utf8EncodeChar).toArray⟩ : ByteArray) = cs.utf8Encode :=
    ByteArray.ext List.data_toByteArray.symm
  unfold Text.ofBytes?
  rw [hbytes, String.fromUTF8?, dif_pos ByteArray.isValidUTF8_utf8Encode]
  rfl

/-- The text without the characters that are removed is read back from its segment. -/
theorem decode_segmentText (special : Bool) (text : String) :
    Text.ofBytes? (decode (segmentText special text).toList) = some (withoutRemoved text) := by
  unfold segmentText
  rw [String.toList_ofList, decode_encode (keptInSegment_percent special)]
  exact ofBytes?_flatMap_utf8EncodeChar _

theorem withoutRemoved_eq_of_segmentText_eq {special : Bool} {text other : String}
    (h : segmentText special text = segmentText special other) :
    withoutRemoved text = withoutRemoved other := by
  have hdecoded := decode_segmentText special text
  rw [h, decode_segmentText special other] at hdecoded
  exact (Option.some.inj hdecoded).symm

theorem slash_not_mem_segmentText (special : Bool) (text : String) :
    '/' ∉ (segmentText special text).toList := by
  unfold segmentText
  rw [String.toList_ofList]
  intro hmem
  -- A slash is neither kept nor a percent sign nor a digit.
  rcases mem_encode hmem with hkept | hpercent | ⟨n, hn, hdigit⟩
  · rw [keptInSegment_slash] at hkept
    cases hkept
  · cases hpercent
  · exact hexDigit_ne hn (by decide) hdigit.symm

/-! ## §2 Dots -/

/-- No dot is encoded, so no two digits behind a percent sign stand for one. -/
theorem not_contains_encodedDot (special : Bool) (text : String) :
    Text.contains (segmentText special text) "%2e" = false ∧
      Text.contains (segmentText special text) "%2E" = false := by
  -- The byte of the two digits would be the one of a dot, which is kept.
  have hdot : ∀ b, hexValue? b = some 14 →
      Text.occursIn ['%', '2', b] (segmentText special text).toList = false := by
    intro b hb
    unfold segmentText
    rw [String.toList_ofList, ← Bool.not_eq_true]
    intro hoccurs
    obtain ⟨c, -, hkept, byte, hmem, hhi, hlo⟩ :=
      byte_of_occursIn_encode (keptInSegment_percent special) hoccurs
    have hbyte : byte.toNat < 256 := byte.toNat_lt_size
    have hhigh : byte.toNat / 16 = 2 := by
      have htwo := congrArg hexValue? hhi
      rw [hexValue?_hexDigit (by omega)] at htwo
      exact (Option.some.inj htwo).symm
    have hlow : byte.toNat % 16 = 14 := by
      have hlast := congrArg hexValue? hlo
      rw [hexValue?_hexDigit (by omega), hb] at hlast
      exact (Option.some.inj hlast).symm
    have hchar := toNat_of_mem_utf8EncodeChar (by omega) hmem
    have hc : c = '.' := by
      apply Char.toNat_inj.mp
      rw [← hchar]
      show byte.toNat = 46
      omega
    rw [hc, keptInSegment_dot] at hkept
    cases hkept
  exact ⟨hdot 'e' (by decide), hdot 'E' (by decide)⟩

theorem dotForm_segmentText (special : Bool) (text : String) :
    dotForm (segmentText special text) = segmentText special text := by
  obtain ⟨hlower, hupper⟩ := not_contains_encodedDot special text
  unfold dotForm
  rw [Text.replace_of_not_contains hlower, Text.replace_of_not_contains hupper]

/-- A text that is read as a dot segment has lost characters or was one before. -/
theorem withoutRemoved_of_dotForm {special : Bool} {text : String}
    (h : dotForm (segmentText special text) = "." ∨ dotForm (segmentText special text) = "..") :
    withoutRemoved text = "." ∨ withoutRemoved text = ".." := by
  rw [dotForm_segmentText] at h
  -- Dots are their own segments, and a segment tells its text.
  refine h.imp (fun hone => ?_) fun htwo => ?_
  · have hdot : segmentText special "." = "." := by cases special <;> decide
    exact withoutRemoved_eq_of_segmentText_eq (hone.trans hdot.symm)
  · have hdots : segmentText special ".." = ".." := by cases special <;> decide
    exact withoutRemoved_eq_of_segmentText_eq (htwo.trans hdots.symm)

theorem FitsSegment.not_dotForm {text : String} (h : FitsSegment text) (special : Bool) :
    dotForm (segmentText special text) ≠ "." ∧ dotForm (segmentText special text) ≠ ".." := by
  have hself := withoutRemoved_eq_self.mpr h.not_removed
  constructor
  · intro hone
    rcases withoutRemoved_of_dotForm (.inl hone) with hdot | hdots
    · exact h.no_dot (hself.symm.trans hdot)
    · exact h.no_dots (hself.symm.trans hdots)
  · intro htwo
    rcases withoutRemoved_of_dotForm (.inr htwo) with hdot | hdots
    · exact h.no_dot (hself.symm.trans hdot)
    · exact h.no_dots (hself.symm.trans hdots)

/-! ## §3 Appending texts -/

/-- What a path has gained where it has grown by one segment: the segment of the text, or an empty
one, if the text is a dot segment after something was removed from it. -/
structure Placed (special : Bool) (text segment : String) : Prop where
  no_dot : text ≠ "."
  no_dots : text ≠ ".."
  segment : segment = segmentText special text ∨ segment = "" ∧ withoutRemoved text ≠ text

theorem appendSegment_of_fits {special : Bool} {path : List String} {text : String}
    (hpath : path ≠ [""]) (h : FitsSegment text) :
    appendSegment special path text = path ++ [segmentText special text] := by
  obtain ⟨hone, htwo⟩ := h.not_dotForm special
  unfold appendSegment placeSegment
  simp [h.no_dot, h.no_dots, hpath, hone, htwo]

theorem foldl_appendSegment_of_fits {special : Bool} {path texts : List String}
    (hnil : path ≠ []) (hroot : path ≠ [""]) (h : ∀ text ∈ texts, FitsSegment text) :
    texts.foldl (appendSegment special) path = path ++ texts.map (segmentText special) := by
  induction texts generalizing path with
  | nil => simp
  | cons text rest ih =>
    -- The path stays one that is not replaced.
    have hlonger : path ++ [segmentText special text] ≠ [""] := by
      intro hone
      have hlength := congrArg List.length hone
      simp [hnil] at hlength
    rw [List.foldl_cons, appendSegment_of_fits hroot (h text (List.mem_cons_self ..)),
      ih (by simp) hlonger fun t ht => h t (List.mem_cons_of_mem text ht)]
    simp

/-- Taking the last segment away makes a path shorter, or leaves it as it is. -/
theorem shorten_cases (path : List String) :
    (shorten path).length + 1 = path.length ∨ shorten path = path := by
  unfold shorten
  split
  · exact .inr rfl
  · cases path with
    | nil => exact .inr rfl
    | cons segment rest =>
      left
      simp

theorem placeSegment_last (path : List String) (segment : String) :
    placeSegment path segment true =
      if dotForm segment = ".." then shorten path ++ [""]
      else if dotForm segment = "." then path ++ [""]
      else path ++ [segment] := by
  simp [placeSegment]

/-- Placing a segment at the end makes a path longer by at most one segment; where it does, this is
the segment or an empty one in the place of dots. -/
theorem placeSegment_growth (path : List String) (segment : String) :
    (placeSegment path segment true).length ≤ path.length ∨
      ∃ new, placeSegment path segment true = path ++ [new] ∧ (new = segment ∨
        new = "" ∧ (dotForm segment = "." ∨ dotForm segment = "..")) := by
  rw [placeSegment_last]
  -- Two dots take a segment away and leave an empty one, one dot leaves an empty one.
  by_cases htwo : dotForm segment = ".."
  · rw [if_pos htwo]
    rcases shorten_cases path with hshort | hsame
    · left
      have hlength : (shorten path ++ [""]).length = path.length := by
        rw [List.length_append, List.length_singleton, hshort]
      exact Nat.le_of_eq hlength
    · right
      rw [hsame]
      exact ⟨"", rfl, .inr ⟨rfl, .inr htwo⟩⟩
  · right
    rw [if_neg htwo]
    by_cases hone : dotForm segment = "."
    · rw [if_pos hone]
      exact ⟨"", rfl, .inr ⟨rfl, .inl hone⟩⟩
    · rw [if_neg hone]
      exact ⟨segment, rfl, .inl rfl⟩

/-- Appending a text makes a path longer by at most one segment, and where it does, the text was
placed. -/
theorem appendSegment_growth (special : Bool) (path : List String) (text : String) :
    (appendSegment special path text).length ≤ path.length ∨
      ∃ segment, appendSegment special path text = path ++ [segment] ∧
        Placed special text segment := by
  unfold appendSegment
  by_cases hskipped : text = "." ∨ text = ".."
  · rw [if_pos hskipped]
    exact .inl (Nat.le_refl path.length)
  · rw [if_neg hskipped]
    rw [not_or] at hskipped
    by_cases hroot : path = [""]
    · -- The empty segment of a slash is replaced.
      left
      rw [if_pos hroot, hroot]
      rcases placeSegment_growth [] (segmentText special text) with hshort | ⟨new, hlong, -⟩
      · exact Nat.le_succ_of_le hshort
      · rw [hlong]
        exact Nat.le_refl 1
    · rw [if_neg hroot]
      refine (placeSegment_growth path (segmentText special text)).imp_right ?_
      rintro ⟨new, hlong, hnew⟩
      refine ⟨new, hlong, hskipped.1, hskipped.2, hnew.imp_right ?_⟩
      rintro ⟨hempty, hdots⟩
      refine ⟨hempty, fun hself => ?_⟩
      rcases withoutRemoved_of_dotForm hdots with hdot | hdots
      · exact hskipped.1 (hself.symm.trans hdot)
      · exact hskipped.2 (hself.symm.trans hdots)

theorem length_foldl_appendSegment_le (special : Bool) (path texts : List String) :
    (texts.foldl (appendSegment special) path).length ≤ path.length + texts.length := by
  -- By induction on the texts; each of them adds at most one segment.
  induction texts generalizing path with
  | nil => simp
  | cons text rest ih =>
    have hrest := ih (appendSegment special path text)
    have hfirst : (appendSegment special path text).length ≤ path.length + 1 := by
      rcases appendSegment_growth special path text with hshort | ⟨segment, hlong, -⟩
      · omega
      · rw [hlong]
        simp
    rw [List.foldl_cons, List.length_cons]
    omega

/-- Where a path has grown by one segment for every text, each of them was placed. -/
theorem foldl_appendSegment_of_length {special : Bool} {path texts : List String}
    (h : (texts.foldl (appendSegment special) path).length = path.length + texts.length) :
    ∃ own, texts.foldl (appendSegment special) path = path ++ own ∧
      List.Forall₂ (Placed special) texts own := by
  -- A text that adds no segment cannot be made up for by the texts after it.
  induction texts generalizing path with
  | nil => exact ⟨[], by simp, .nil⟩
  | cons text rest ih =>
    rw [List.foldl_cons, List.length_cons] at h
    have hrest := length_foldl_appendSegment_le special (appendSegment special path text) rest
    rcases appendSegment_growth special path text with hshort | ⟨segment, hlong, hplaced⟩
    · omega
    · rw [hlong] at h
      obtain ⟨own, hown, hall⟩ := ih (by rw [h, List.length_append, List.length_singleton]; omega)
      refine ⟨segment :: own, ?_, .cons hplaced hall⟩
      rw [List.foldl_cons, hlong, hown, List.append_assoc]
      rfl

/-! ## §4 Written form -/

theorem toList_renderSegments_cons (segment : String) (rest : List String) :
    (renderSegments (segment :: rest)).toList =
      '/' :: (segment.toList ++ (renderSegments rest).toList) := by
  simp [renderSegments, String.toList_append]

theorem renderSegments_append (first second : List String) :
    renderSegments (first ++ second) = renderSegments first ++ renderSegments second := by
  simp [renderSegments]

theorem takeWhile_toList_renderSegments (segments : List String) :
    (renderSegments segments).toList.takeWhile (· ≠ '/') = [] := by
  -- What is written, if anything, begins with a slash.
  cases segments with
  | nil => rfl
  | cons segment rest =>
    rw [toList_renderSegments_cons]
    simp

/-- The written form tells segments without slashes apart. -/
theorem renderSegments_inj {first second : List String}
    (hfirst : ∀ segment ∈ first, '/' ∉ segment.toList)
    (hsecond : ∀ segment ∈ second, '/' ∉ segment.toList)
    (h : renderSegments first = renderSegments second) : first = second := by
  -- By induction on the first list: the first segments are the same, and so are the rests.
  induction first generalizing second with
  | nil =>
    cases second with
    | nil => rfl
    | cons segment rest =>
      have hlist := congrArg String.toList h
      rw [toList_renderSegments_cons] at hlist
      cases hlist
  | cons segment rest ih =>
    cases second with
    | nil =>
      have hlist := congrArg String.toList h
      rw [toList_renderSegments_cons] at hlist
      cases hlist
    | cons other others =>
      have hlist := congrArg String.toList h
      rw [toList_renderSegments_cons, toList_renderSegments_cons, List.cons.injEq] at hlist
      -- Up to the next slash stands the segment.
      have huntil : ∀ {s : String} (hs : '/' ∉ s.toList) (more : List String),
          (s.toList ++ (renderSegments more).toList).takeWhile (· ≠ '/') = s.toList := by
        intro s hs more
        rw [List.takeWhile_append_of_pos, takeWhile_toList_renderSegments, List.append_nil]
        intro c hc
        simp only [ne_eq, decide_eq_true_eq]
        rintro rfl
        exact hs hc
      have hsegment : segment = other := by
        have hcut := congrArg (List.takeWhile (· ≠ '/')) hlist.2
        rw [huntil (hfirst segment (List.mem_cons_self ..)),
          huntil (hsecond other (List.mem_cons_self ..))] at hcut
        exact String.toList_inj.mp hcut
      subst hsegment
      have hrest := List.append_cancel_left hlist.2
      rw [ih (fun s hs => hfirst s (List.mem_cons_of_mem segment hs))
        (fun s hs => hsecond s (List.mem_cons_of_mem segment hs)) (String.toList_inj.mp hrest)]

end Flotilla.Url
