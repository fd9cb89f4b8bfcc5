import Flotilla.CommandLine.Perform
import Flotilla.Proofs.Remote

/-!
# Runs at a Terminal

What a program at a terminal comes to. A remote program moves the world only, whatever is printed
adds to the output, and a question takes one line of the input. So a command that asks goes on as if
it had not asked, or it is over.
-/

namespace Flotilla

open CommandLine

namespace Terminal

variable {σ α β : Type} (w : World σ)

/-- The first line of a text that was typed, with its line feed if it has one. -/
def firstLine (input : List Char) : String :=
  String.ofList (takeLine input).1

/-! ## Operations -/

theorem run_remote (p : Remote α) (t : State σ) :
    Program.run (I := interface) (answer w) (remote p) t =
      ((p.run w.answer t.run).1, { t with run := (p.run w.answer t.run).2 }) := by
  -- By induction on the program: each operation moves the world as it does without a terminal.
  induction p generalizing t with
  | done a => rfl
  | ask op next ih => exact ih _ _

@[simp] theorem run_print (text : String) (t : State σ) :
    Program.run (I := interface) (answer w) (print text) t =
      ((), { t with printed := t.printed ++ text }) := rfl

@[simp] theorem run_printLine (text : String) (t : State σ) :
    Program.run (I := interface) (answer w) (printLine text) t =
      ((), { t with printed := t.printed ++ (text ++ "\n") }) := rfl

@[simp] theorem run_readLine (t : State σ) :
    Program.run (I := interface) (answer w) readLine t =
      (firstLine t.input, { t with input := (takeLine t.input).2 }) := rfl

/-- The text of some lines. -/
def linesText : List String → String
  | [] => ""
  | line :: rest => line ++ "\n" ++ linesText rest

@[simp] theorem run_printLines (lines : List String) (t : State σ) :
    Program.run (I := interface) (answer w) (printLines lines) t =
      ((), { t with printed := t.printed ++ linesText lines }) := by
  -- Line by line; what was printed before is a parameter.
  induction lines generalizing t with
  | nil => simp [printLines, linesText]
  | cons line rest ih => simp [printLines, linesText, Program.run_bind, ih, String.append_assoc]

end Terminal

namespace CommandLine

open Terminal

variable {σ α : Type} {w : World σ}

/-! ## Steps of a command -/

/-- A remote operation that is aborted ends the command; otherwise the command goes on with its
result. -/
theorem run_proceed (p : Remote (Except Refusal α)) (next : α → Terminal Ending) (t : State σ) :
    Program.run (I := interface) (answer w) (proceed p next) t =
      match p.run w.answer t.run with
      | (.error refusal, r) => (.error (.ofRefusal refusal), { t with run := r })
      | (.ok a, r) => Program.run (I := interface) (answer w) (next a) { t with run := r } := by
  unfold proceed
  rw [Program.bind_eq, Program.run_bind, run_remote]
  -- The result of the operation decides, whatever it did to the world.
  cases p.run w.answer t.run with
  | mk result r => cases result <;> rfl

@[simp] theorem run_showing (lines : List String) (t : State σ) :
    Program.run (I := interface) (answer w) (showing lines) t =
      (.ok (), { t with printed := t.printed ++ linesText lines }) := by
  simp [showing, Program.run_bind]

@[simp] theorem run_conclude (p : Palette) (l : Ledger) (t : State σ) :
    Program.run (I := interface) (answer w) (conclude p l) t =
      (ledgerEnding l, { t with printed := t.printed ++ linesText (ledgerLines p l) }) := by
  simp [conclude, Program.run_bind]

theorem run_confirm (p : Palette) (question : String) (t : State σ) :
    ∃ printed, Program.run (I := interface) (answer w) (confirm p question) t =
      (isAgreement (firstLine t.input), { t with printed, input := (takeLine t.input).2 }) := by
  simp [confirm, Program.run_bind]

/-- Where the operator agrees, the command goes on. -/
theorem run_ifAgreed (p : Palette) {agreed : Bool} (question refusal : String)
    (next : Terminal Ending) (t : State σ)
    (hagreed : agreed = true ∨ isAgreement (firstLine t.input) = true) :
    ∃ printed input,
      Program.run (I := interface) (answer w) (ifAgreed p agreed question refusal next) t =
        Program.run (I := interface) (answer w) next { t with printed, input } := by
  cases agreed with
  | true => exact ⟨t.printed, t.input, rfl⟩
  | false =>
    -- The question has taken a line of the input, whatever is in it.
    obtain ⟨printed, hconfirm⟩ := run_confirm (w := w) p question t
    have hanswer : isAgreement (firstLine t.input) = true := by simpa using hagreed
    refine ⟨printed, (takeLine t.input).2, ?_⟩
    simp [ifAgreed, Program.run_bind, hconfirm, hanswer]

/-- Where he does not, the command is over, and the world has not moved. -/
theorem run_ifAgreed_refused (p : Palette) (question refusal : String) (next : Terminal Ending)
    (t : State σ) (hrefused : isAgreement (firstLine t.input) = false) :
    ∃ printed input,
      Program.run (I := interface) (answer w) (ifAgreed p false question refusal next) t =
        (.ok (), { t with printed, input }) := by
  obtain ⟨printed, hconfirm⟩ := run_confirm (w := w) p question t
  refine ⟨printed ++ linesText ["", p.paint .yellow refusal, ""], (takeLine t.input).2, ?_⟩
  simp [ifAgreed, Program.run_bind, hconfirm, hrefused]

end CommandLine

end Flotilla
