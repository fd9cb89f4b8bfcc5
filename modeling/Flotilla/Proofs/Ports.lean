import Flotilla.Proofs.Planning
import Flotilla.Proofs.TextLines
import Flotilla.Proofs.Text.Number
import Mathlib.Data.List.Forall2
import Mathlib.Data.List.ReduceOption

/-!
# Ports as Text

An operator writes published ports line by line, the port of the node before a colon and that of the
container after it. Which texts are accepted, and what they come to.

- `PortLine`: the grammar. A line says nothing if one side is missing, and names two ports if both
  sides are numbers of ports; there are no other lines.
- `ReadAs`: what is read from a line, which is what the grammar says of it without its second colon
  and what follows that.
- `ComesTo`: what all lines come to, up to the first one that is refused.
- `readPorts_eq_iff`: the main result.
-/

namespace Flotilla

namespace Port

/-- The number of a port is read from exactly the texts that write it. -/
theorem number?_eq_some {s : String} {n : UInt16} :
    number? s = some n ↔ Text.WritesNumber s n.toNat := by
  unfold number?
  rw [Option.map_eq_some_iff]
  constructor
  · rintro ⟨value, hvalue, rfl⟩
    obtain ⟨hwrites, hbound⟩ := Text.numberBelow?_eq_some.mp hvalue
    rwa [UInt16.toNat_ofNat_of_lt' hbound]
  · intro hwrites
    exact ⟨n.toNat, Text.numberBelow?_eq_some.mpr ⟨hwrites, n.toNat_lt⟩, by simp⟩

end Port

open Text

/-! ## §1 The grammar of a line -/

/-- A line that has no colon, or nothing but blanks before or after its first colon. -/
def LacksSide (line : String) : Prop :=
  ':' ∉ line.toList ∨ ∃ host container, line = host ++ ":" ++ container ∧ ':' ∉ host.toList ∧
    (trim host = "" ∨ trim container = "")

/-- A line that has the numbers of two ports, one before its first colon and one after it. -/
def NamesPorts (line : String) (p : Port) : Prop :=
  ∃ host container, line = host ++ ":" ++ container ∧ ':' ∉ host.toList ∧
    WritesNumber (trim host) p.host.toNat ∧ WritesNumber (trim container) p.container.toNat

/-- What a line says: nothing if one side is missing, otherwise the ports of both sides. -/
inductive PortLine (line : String) : Option Port → Prop where
  | incomplete (h : LacksSide line) : PortLine line none
  | ports {p : Port} (h : NamesPorts line p) : PortLine line (some p)

section Line

variable {line host container rest : String} {parts : List String} {reading : Option Port}

theorem split_of_not_mem (h : ':' ∉ line.toList) : split ':' line = [line] := by
  simp [split, cells_of_not_mem h]

theorem split_append (h : ':' ∉ host.toList) :
    split ':' (host ++ ":" ++ container) = host :: split ':' container := by
  simp [split, cells_append_sep, cells_of_not_mem h]

theorem exists_split_eq_cons (rest : String) :
    ∃ container parts, split ':' rest = container :: parts :=
  List.exists_cons_of_ne_nil (by simp [split, cells_ne_nil])

/-- A line has no colon, or a first one. -/
theorem colon_cases (line : String) :
    ':' ∉ line.toList ∨ ∃ host container, line = host ++ ":" ++ container ∧ ':' ∉ host.toList := by
  by_cases h : ':' ∈ line.toList
  · obtain ⟨before, after, hline, hnone⟩ := List.eq_append_cons_of_mem h
    refine .inr ⟨String.ofList before, String.ofList after, String.toList_injective ?_, ?_⟩
    · simpa using hline
    · simpa using hnone
  · exact .inl h

theorem portLine_of_not_mem (h : ':' ∉ line.toList) : PortLine line reading ↔ reading = none := by
  constructor
  · rintro (hlacks | ⟨host, container, rfl, -⟩)
    · rfl
    · simp at h
  · rintro rfl
    exact .incomplete (.inl h)

/-- The first colon is where a line is cut. -/
theorem append_colon_inj {host' container' : String} (hhost : ':' ∉ host.toList)
    (hhost' : ':' ∉ host'.toList) (h : host ++ ":" ++ container = host' ++ ":" ++ container') :
    host = host' ∧ container = container' := by
  have hsplit := congrArg (split ':') h
  rw [split_append hhost, split_append hhost'] at hsplit
  obtain rfl := (List.cons.inj hsplit).1
  simpa using h

/-- What a line with a colon says. -/
theorem portLine_append (hhost : ':' ∉ host.toList) :
    PortLine (host ++ ":" ++ container) reading ↔
      if trim host = "" ∨ trim container = "" then reading = none
      else ∃ p, reading = some p ∧ WritesNumber (trim host) p.host.toNat ∧
        WritesNumber (trim container) p.container.toNat := by
  -- The cut is at the first colon, so the two sides of any other reading are these.
  constructor
  · rintro ((hnone | ⟨first, rest, heq, hfirst, hblank⟩) |
      @⟨p, first, rest, heq, hfirst, hnumber, hnumber'⟩)
    · simp at hnone
    · obtain ⟨rfl, rfl⟩ := append_colon_inj hhost hfirst heq
      rw [if_pos hblank]
    · obtain ⟨rfl, rfl⟩ := append_colon_inj hhost hfirst heq
      -- A number has digits.
      rw [if_neg (not_or.mpr ⟨hnumber.ne_empty, hnumber'.ne_empty⟩)]
      exact ⟨p, rfl, hnumber, hnumber'⟩
  · split
    · rename_i hblank
      rintro rfl
      exact .incomplete (.inr ⟨host, container, rfl, hhost, hblank⟩)
    · rintro ⟨p, rfl, hnumber, hnumber'⟩
      exact .ports ⟨host, container, rfl, hhost, hnumber, hnumber'⟩

/-! ## §2 How a line is read -/

/-- A line without its second colon and what follows that. -/
def withoutSurplus (line : String) : String :=
  join ":" ((split ':' line).take 2)

/-- What is read from a line. -/
def ReadAs (line : String) : Option Port → Prop :=
  PortLine (withoutSurplus line)

/-- A line that has something before its first colon, and a second colon. -/
def HasSurplus (line : String) : Prop :=
  ∃ host rest, line = host ++ ":" ++ rest ∧ ':' ∉ host.toList ∧ trim host ≠ "" ∧
    ':' ∈ rest.toList

theorem withoutSurplus_of_not_mem (h : ':' ∉ line.toList) : withoutSurplus line = line := by
  rw [withoutSurplus, split_of_not_mem h]
  rfl

theorem withoutSurplus_append (hhost : ':' ∉ host.toList)
    (hrest : split ':' rest = container :: parts) :
    withoutSurplus (host ++ ":" ++ rest) = host ++ ":" ++ container := by
  rw [withoutSurplus, split_append hhost, hrest]
  rfl

/-- A line is read without a second colon and what follows it. -/
theorem readPortLine_eq_ok :
    readPortLine line = .ok reading ↔ ReadAs line reading := by
  unfold ReadAs
  rcases colon_cases line with hnone | ⟨host, rest, rfl, hhost⟩
  · -- A line without a colon has one part, so one side is missing.
    have hread : readPortLine line = .ok none := by
      unfold readPortLine
      rw [split_of_not_mem hnone]
      exact if_pos (.inr rfl)
    rw [withoutSurplus_of_not_mem hnone, portLine_of_not_mem hnone, hread, Except.ok.injEq, eq_comm]
  · -- A line with a colon has two parts at least, and the second one ends at the next colon.
    obtain ⟨container, parts, hparts⟩ := exists_split_eq_cons rest
    rw [withoutSurplus_append hhost hparts, portLine_append hhost]
    unfold readPortLine
    rw [split_append hhost, hparts]
    simp only [List.map_cons, List.head?_cons, Option.getD_some, List.drop_succ_cons,
      List.drop_zero, ← Port.number?_eq_some]
    split
    · rw [Except.ok.injEq, eq_comm]
    · cases Port.number? (trim host) with
      | none => simp
      | some h =>
        cases Port.number? (trim container) with
        | none => simp
        | some c =>
          constructor
          · rintro ⟨⟩
            exact ⟨⟨h, c⟩, rfl, rfl, rfl⟩
          · rintro ⟨p, rfl, ⟨⟩, ⟨⟩⟩
            rfl

theorem not_hasSurplus_of_not_mem (h : ':' ∉ line.toList) : ¬HasSurplus line := by
  rintro ⟨host, rest, rfl, -⟩
  simp at h

theorem hasSurplus_append (hhost : ':' ∉ host.toList) :
    HasSurplus (host ++ ":" ++ rest) ↔ trim host ≠ "" ∧ ':' ∈ rest.toList := by
  constructor
  · rintro ⟨first, last, heq, hfirst, hlast⟩
    obtain ⟨rfl, rfl⟩ := append_colon_inj hhost hfirst heq
    exact hlast
  · rintro ⟨hsome, hcolon⟩
    exact ⟨host, rest, rfl, hhost, hsome, hcolon⟩

/-- A second colon is no part of a number, and no blank. -/
theorem not_portLine_append (hhost : ':' ∉ host.toList) (hsome : trim host ≠ "")
    (hcolon : ':' ∈ rest.toList) : ¬PortLine (host ++ ":" ++ rest) reading := by
  -- Trimming does not take the second colon away.
  have hmem : ':' ∈ (trim rest).toList := by
    rw [toList_trim]
    exact mem_trimChars_of_mem hcolon (by decide)
  rw [portLine_append hhost, if_neg]
  · rintro ⟨p, -, -, hnumber⟩
    exact hnumber.not_mem (by decide) (by decide) hmem
  · rintro (hblank | hblank)
    · exact hsome hblank
    · rw [hblank] at hmem
      cases hmem

/-- What the grammar says of a line is what is read, except for lines with surplus: the grammar
refuses all of these. -/
theorem portLine_iff :
    PortLine line reading ↔ ¬HasSurplus line ∧ ReadAs line reading := by
  unfold ReadAs
  rcases colon_cases line with hnone | ⟨host, rest, rfl, hhost⟩
  · -- Without a colon there is no surplus, and the line is read whole.
    rw [withoutSurplus_of_not_mem hnone, and_iff_right (not_hasSurplus_of_not_mem hnone)]
  · rw [hasSurplus_append hhost]
    by_cases hcolon : ':' ∈ rest.toList
    · obtain ⟨container, parts, hparts⟩ := exists_split_eq_cons rest
      by_cases hsome : trim host = ""
      · -- Without a host a line says nothing, whatever comes after its first colon.
        rw [withoutSurplus_append hhost hparts, portLine_append hhost, portLine_append hhost,
          if_pos (.inl hsome), if_pos (.inl hsome)]
        simp [hsome]
      · simp [not_portLine_append hhost hsome hcolon, hsome, hcolon]
    · -- With one colon nothing is left out either.
      rw [withoutSurplus_append hhost (split_of_not_mem hcolon)]
      simp [hcolon]

end Line

/-! ## §3 All lines -/

/-- What lines come to, where `reads` says what each of them means: the ports that they name, in
their order, or the refusal of the first line that means nothing. -/
def ComesTo (reads : String → Option Port → Prop) (lines : List String) :
    Except Invalid (List Port) → Prop
  | .ok ports => ∃ readings, List.Forall₂ reads lines readings ∧ ports = readings.reduceOption
  | .error cause => ∃ before line after, lines = before ++ line :: after ∧
      (∀ other ∈ before, ∃ reading, reads other reading) ∧ (∀ reading, ¬reads line reading) ∧
      cause = .portMapping line

section Lines

variable {reads : String → Option Port → Prop} {line : String} {rest : List String}

theorem comesTo_cons_of_refused (hline : ∀ reading, ¬reads line reading)
    {result : Except Invalid (List Port)} :
    ComesTo reads (line :: rest) result ↔ result = .error (.portMapping line) := by
  cases result with
  | ok ports =>
    constructor
    · rintro ⟨readings, hread, -⟩
      cases hread with
      | cons hfirst _ => exact absurd hfirst (hline _)
    · rintro ⟨⟩
  | error cause =>
    constructor
    · -- The first line that means nothing is the first of all lines: any other would come behind
      -- it.
      rintro ⟨before, wrong, after, hsplit, hbefore, hwrong, rfl⟩
      cases before with
      | nil => rw [(List.cons.inj hsplit).1]
      | cons first before =>
        obtain ⟨reading, hreads⟩ := hbefore first (List.mem_cons_self ..)
        rw [← (List.cons.inj hsplit).1] at hreads
        exact absurd hreads (hline reading)
    · rintro ⟨⟩
      exact ⟨[], line, rest, rfl, by simp, hline, rfl⟩

theorem comesTo_cons {reading : Option Port} (hline : ∀ other, reads line other ↔ other = reading)
    {result : Except Invalid (List Port)} :
    ComesTo reads (line :: rest) result ↔
      ∃ others, ComesTo reads rest others ∧ result = others.map (reading.toList ++ ·) := by
  have hports : ∀ readings : List (Option Port),
      (reading :: readings).reduceOption = reading.toList ++ readings.reduceOption := by
    intro readings
    cases reading <;> simp [List.reduceOption]
  constructor
  · cases result with
    | ok ports =>
      rintro ⟨readings, hread, rfl⟩
      cases hread with
      | cons hfirst hothers =>
        obtain rfl := (hline _).mp hfirst
        exact ⟨.ok _, ⟨_, hothers, rfl⟩, congrArg Except.ok (hports _)⟩
    | error cause =>
      rintro ⟨before, wrong, after, hsplit, hbefore, hwrong, rfl⟩
      cases before with
      | nil =>
        -- The first line that means nothing is not this one.
        rw [← (List.cons.inj hsplit).1] at hwrong
        exact absurd ((hline reading).mpr rfl) (hwrong reading)
      | cons first before =>
        refine ⟨.error _, ⟨before, wrong, after, (List.cons.inj hsplit).2, ?_, hwrong, rfl⟩, rfl⟩
        exact fun other hother => hbefore other (List.mem_cons_of_mem first hother)
  · rintro ⟨others, hothers, rfl⟩
    cases others with
    | ok ports =>
      obtain ⟨readings, hread, rfl⟩ := hothers
      exact ⟨reading :: readings, .cons ((hline reading).mpr rfl) hread, (hports readings).symm⟩
    | error cause =>
      obtain ⟨before, wrong, after, rfl, hbefore, hwrong, rfl⟩ := hothers
      refine ⟨line :: before, wrong, after, rfl, ?_, hwrong, rfl⟩
      exact List.forall_mem_cons.mpr ⟨⟨reading, (hline reading).mpr rfl⟩, hbefore⟩

theorem comesTo_nil {result : Except Invalid (List Port)} :
    ComesTo reads [] result ↔ result = .ok [] := by
  -- There is no line to refuse.
  cases result with
  | ok ports =>
    constructor
    · rintro ⟨readings, ⟨⟩, rfl⟩
      rfl
    · rintro ⟨⟩
      exact ⟨[], .nil, rfl⟩
  | error cause =>
    constructor
    · rintro ⟨before, wrong, after, hsplit, -⟩
      simp at hsplit
    · rintro ⟨⟩

/-- Lines are read one after the other, up to the first one that is refused. -/
theorem readPortLines_eq_iff {lines : List String} {result : Except Invalid (List Port)} :
    readPortLines lines = result ↔ ComesTo ReadAs lines result := by
  -- By induction on the lines: the first one is refused, which ends it, or it means one thing, and
  -- the others come to the rest.
  induction lines generalizing result with
  | nil => rw [comesTo_nil, readPortLines, eq_comm]
  | cons line rest ih =>
    cases hline : readPortLine line with
    | error cause =>
      have hnone : ∀ reading, ¬ReadAs line reading := by
        intro reading h
        rw [← readPortLine_eq_ok, hline] at h
        cases h
      rw [comesTo_cons_of_refused hnone, readPortLines, hline, readPortLine_error hline, eq_comm]
    | ok reading =>
      have hone : ∀ other, ReadAs line other ↔ other = reading := by
        intro other
        rw [← readPortLine_eq_ok, hline, Except.ok.injEq, eq_comm]
      have hstep : readPortLines (line :: rest) =
          (readPortLines rest).map (reading.toList ++ ·) := by
        rw [readPortLines, hline]
        cases readPortLines rest <;> rfl
      rw [comesTo_cons hone, hstep]
      constructor
      · rintro rfl
        exact ⟨_, ih.mp rfl, rfl⟩
      · rintro ⟨others, hothers, rfl⟩
        rw [ih.mpr hothers]

/-- No line has surplus among the first lines, as far as all of them are read. -/
def NothingHidden (lines : List String) : Prop :=
  ∀ before line after, lines = before ++ line :: after →
    (∀ other ∈ before ++ [line], ∃ reading, ReadAs other reading) → ¬HasSurplus line

theorem exists_of_mem_forall₂ {readings : List (Option Port)} {lines : List String}
    (h : List.Forall₂ reads lines readings) (hline : line ∈ lines) :
    ∃ reading, reads line reading := by
  induction h with
  | nil => cases hline
  | cons hfirst _ ih =>
    rcases List.mem_cons.mp hline with rfl | hline
    · exact ⟨_, hfirst⟩
    · exact ih hline

/-- Where nothing is hidden, lines that are read come to what the grammar says. -/
theorem ComesTo.portLine {lines : List String} {result : Except Invalid (List Port)}
    (h : ComesTo ReadAs lines result) (hhidden : NothingHidden lines) :
    ComesTo PortLine lines result := by
  cases result with
  | ok ports =>
    obtain ⟨readings, hread, hports⟩ := h
    -- All lines are read, so none of them has surplus.
    have hnone : ∀ line ∈ lines, ¬HasSurplus line := by
      intro line hline
      obtain ⟨before, after, hsplit⟩ := List.append_of_mem hline
      refine hhidden before line after hsplit fun other hother => ?_
      exact exists_of_mem_forall₂ hread (by rw [hsplit]; grind)
    have hboth := (List.forall₂_and_left lines readings).mpr ⟨hnone, hread⟩
    exact ⟨readings, hboth.imp fun _ _ => portLine_iff.mpr, hports⟩
  | error cause =>
    obtain ⟨before, wrong, after, hsplit, hbefore, hwrong, hcause⟩ := h
    refine ⟨before, wrong, after, hsplit, fun other hother => ?_, fun reading hreads => ?_, hcause⟩
    · -- A line before the wrong one was read, like all lines before it.
      obtain ⟨reading, hreads⟩ := hbefore other hother
      obtain ⟨first, last, rfl⟩ := List.append_of_mem hother
      refine ⟨reading, portLine_iff.mpr ⟨?_, hreads⟩⟩
      refine hhidden first other (last ++ wrong :: after) (by simpa using hsplit) ?_
      exact fun earlier hearlier => hbefore earlier (by grind)
    · -- What is not read the grammar refuses as well.
      exact hwrong reading (portLine_iff.mp hreads).2

/-- Lines that are read come to what the grammar says only where nothing is hidden. -/
theorem ComesTo.nothingHidden {lines : List String} {result : Except Invalid (List Port)}
    (h : ComesTo ReadAs lines result) (hgrammar : ComesTo PortLine lines result) :
    NothingHidden lines := by
  intro before line after hsplit hbefore hsurplus
  have hrefused : ¬∃ reading, PortLine line reading :=
    fun ⟨reading, hreads⟩ => (portLine_iff.mp hreads).1 hsurplus
  cases result with
  | ok ports =>
    obtain ⟨readings, hread, -⟩ := hgrammar
    -- The grammar has a meaning for every line, but not for this one.
    exact hrefused (exists_of_mem_forall₂ hread (by simp [hsplit]))
  | error cause =>
    -- Both errors quote the same line, which is refused although nothing of it is surplus.
    obtain ⟨_, wrong, _, -, -, hwrong, rfl⟩ := h
    obtain ⟨first, wrong', last, hsplit', hfirst, -, hsame⟩ := hgrammar
    cases hsame
    have hread : ¬∃ reading, ReadAs wrong reading := fun ⟨reading, hreads⟩ => hwrong reading hreads
    rw [hsplit, List.append_eq_append_iff] at hsplit'
    -- So `line` would come before a line that the grammar refuses first, or be that line itself, or
    -- the refused line would come before `line`.
    rcases hsplit' with ⟨_ | ⟨head, others⟩, rfl, hrest⟩ | ⟨_ | ⟨head, others⟩, rfl, hrest⟩
    all_goals cases hrest
    · exact hread (hbefore line (by simp))
    · exact hrefused (hfirst line (by simp))
    · exact hread (hbefore line (by simp))
    · exact hread (hbefore wrong (by simp))

end Lines

/-- **The ports that a text names** are read from its trimmed lines that are not blank, whatever the
text is: all of them in their order, unless some line is refused, and then the first such line is
what the error quotes. A line is read as the grammar says, but without its second colon and what
follows that. So a text comes to what the grammar says of its lines exactly if none of them has a
host and a second colon, among the first lines as far as all of them are read. -/
theorem readPorts_eq_iff (text : String) :
    (∀ result, readPorts text = result ↔ ComesTo ReadAs (textLines text) result) ∧
    (ComesTo PortLine (textLines text) (readPorts text) ↔ NothingHidden (textLines text)) := by
  have hread : ComesTo ReadAs (textLines text) (readPorts text) := readPortLines_eq_iff.mp rfl
  exact ⟨fun result => readPortLines_eq_iff, hread.nothingHidden, hread.portLine⟩

/-- A third number is read over. -/
example : readPorts "+8080 : 080:90\n7000:" = .ok [⟨8080, 80⟩] := by decide

end Flotilla
