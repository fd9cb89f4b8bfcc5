import Flotilla.Planning

/-!
# Which Plans Are Made

A plan is refused for one reason only, and a plan that is made is the one that was asked for. Nor is
there more than one reason to refuse overrides, which is a wrong line in the text of the ports.
-/

namespace Flotilla

namespace Plan

/-- A plan is valid exactly if it names an image. -/
theorem validated_eq_ok {p q : Plan} :
    p.validated = .ok q ↔ q = p ∧ Text.trim p.image ≠ "" := by
  unfold validated validate
  by_cases himage : Text.trim p.image = ""
  · simp [himage, Except.map]
  · simp [himage, Except.map, eq_comm]

/-- A plan that is refused names no image. -/
theorem validated_eq_error {p : Plan} {refusal : Refusal} :
    p.validated = .error refusal ↔
      refusal = .invalid .imageRequired ∧ Text.trim p.image = "" := by
  unfold validated validate
  by_cases himage : Text.trim p.image = ""
  · simp [himage, Except.map, eq_comm]
  · simp [himage, Except.map]

end Plan

/-- A replacement is refused because it names no image. -/
theorem redeployPlan_error {item : Match} {snapshot : Snapshot} {changes : Changes}
    {refusal : Refusal} (h : redeployPlan item snapshot changes = .error refusal) :
    refusal = .invalid .imageRequired := by
  unfold redeployPlan at h
  exact (Plan.validated_eq_error.mp h).1

/-! ## Reading the overrides -/

theorem readPortLine_error {line : String} {cause : Invalid}
    (h : readPortLine line = .error cause) : cause = .portMapping line := by
  unfold readPortLine at h
  dsimp only at h
  split at h
  · cases h
  · split at h
    · cases h
    · exact (Except.error.inj h).symm

/-- Lines of ports are refused because of one of them. -/
theorem readPortLines_error {lines : List String} {cause : Invalid}
    (h : readPortLines lines = .error cause) : ∃ line ∈ lines, cause = .portMapping line := by
  -- The lines are read in order, and the first one that is wrong ends the reading.
  induction lines with
  | nil => cases h
  | cons line rest ih =>
    unfold readPortLines at h
    cases hline : readPortLine line with
    | error first =>
      simp only [hline] at h
      cases h
      exact ⟨line, List.mem_cons_self .., readPortLine_error hline⟩
    | ok port =>
      simp only [hline] at h
      cases hrest : readPortLines rest with
      | error other =>
        simp only [hrest] at h
        cases h
        obtain ⟨wrong, hwrong, hcause⟩ := ih hrest
        exact ⟨wrong, List.mem_cons_of_mem line hwrong, hcause⟩
      | ok ports =>
        simp only [hrest] at h
        cases h

/-- Overrides are refused exactly if they have a text of ports with a wrong line. -/
theorem Overrides.read_eq_error {o : Overrides} {refusal : Refusal} :
    o.read = .error refusal ↔
      ∃ text line, o.portsText.bind Text.nonBlank? = some text ∧
        readPorts text = .error (.portMapping line) ∧
        refusal = .invalid (.portMapping line) := by
  unfold read
  -- Only the text of the ports can be wrong, and only if there is one that is not blank.
  cases htext : o.portsText.bind Text.nonBlank? with
  | none => simp
  | some text =>
    cases hports : readPorts text with
    | ok ports => simp [hports]
    | error cause =>
      obtain ⟨line, -, rfl⟩ := readPortLines_error hports
      simp [hports, eq_comm]

/-- A text that an override changes was given and is not blank. -/
theorem Overrides.read_eq_ok {o : Overrides} {changes : Changes} (h : o.read = .ok changes) :
    changes.image = o.image.bind Text.nonBlank? ∧
      changes.nameTemplate = o.nameTemplate.bind Text.nonBlank? ∧
      changes.env = (o.envText.bind Text.nonBlank?).map readEnv ∧
      changes.autoRestart = o.autoRestart := by
  unfold read at h
  cases htext : o.portsText.bind Text.nonBlank? with
  | none =>
    simp only [htext] at h
    cases h
    exact ⟨rfl, rfl, rfl, rfl⟩
  | some text =>
    cases hports : readPorts text with
    | error cause => simp [htext, hports] at h
    | ok ports =>
      simp only [htext, hports] at h
      cases h
      exact ⟨rfl, rfl, rfl, rfl⟩

end Flotilla
