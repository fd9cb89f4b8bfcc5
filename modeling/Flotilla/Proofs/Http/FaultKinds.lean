import Flotilla.Http.Client
import Flotilla.Migration
import Flotilla.Proofs.Remote
import Flotilla.Proofs.Text.Lowercase

/-!
# Kinds of Failures in Transit

A call fails in transit when no response came, or a response to a success that cannot be used. There
is no status then, and the kind of the fault is read off the words of its message. The message
quotes the path of the request or the ids of the call, and their words count as well as those of the
reason.

- `Client.FailsInTransit`: a call fails for a reason, and the message quotes some texts. Every fault
  without a status is of this sort (`Client.failsInTransit_of_fault`).
- `Client.FailsInTransit.mentions_message`: the message has the words of the reason and of the
  quoted texts, and no others that matter.
- `Client.kind_of_failsInTransit`: the main result, with what it means for a second attempt to
  create a container.
-/

namespace Flotilla

open Text

/-! ## §1 Words that matter -/

namespace Fault

/-- The words that make a fault a conflict. -/
def conflictWords : List String :=
  ["already in use", "conflict"]

/-- The words that decide the kind of a fault without a status. -/
def kindWords : List String :=
  conflictWords ++ ["no such container"]

/-- One of these texts has a word of a conflict. -/
def TellsConflict (texts : List String) : Prop :=
  ∃ text ∈ texts, ∃ word ∈ conflictWords, Mentions text word

/-- None of these texts has a word that matters. -/
def TellsNothing (texts : List String) : Prop :=
  ∀ text ∈ texts, ∀ word ∈ kindWords, ¬Mentions text word

theorem Kind.ofMessage_eq_conflict {message : String} :
    Kind.ofMessage message = .conflict ↔ ∃ word ∈ conflictWords, Mentions message word := by
  -- Each of the words occurs or not, and the tests are made in the order of the list.
  cases hused : contains (lowercase message) "already in use" <;>
    cases hconflict : contains (lowercase message) "conflict" <;>
    cases hmissing : contains (lowercase message) "no such container" <;>
    simp [Kind.ofMessage, conflictWords, Mentions, hused, hconflict, hmissing]

theorem Kind.ofMessage_eq_unknown {message : String} :
    Kind.ofMessage message = .unknown ↔ ∀ word ∈ kindWords, ¬Mentions message word := by
  -- The same eight cases; the kind is unknown in one of them.
  cases hused : contains (lowercase message) "already in use" <;>
    cases hconflict : contains (lowercase message) "conflict" <;>
    cases hmissing : contains (lowercase message) "no such container" <;>
    simp [Kind.ofMessage, kindWords, conflictWords, Mentions, hused, hconflict, hmissing]

/-- There is no status, so the message decides. -/
theorem kind_transport (message : String) :
    (Fault.transport message).kind = Kind.ofMessage message := by
  simp only [transport, Kind.classify]

instance (texts : List String) : Decidable (TellsConflict texts) :=
  inferInstanceAs (Decidable (∃ text ∈ texts, _))

instance (texts : List String) : Decidable (TellsNothing texts) :=
  inferInstanceAs (Decidable (∀ text ∈ texts, _))

section Kinds

variable {message : String} {texts : List String}

/-- A message with the words of some texts is of unknown kind exactly if none of them has a word
that matters. -/
theorem kind_transport_eq_unknown
    (hwords : ∀ word ∈ kindWords, Mentions message word ↔ ∃ text ∈ texts, Mentions text word) :
    (Fault.transport message).kind = .unknown ↔ TellsNothing texts := by
  rw [kind_transport, Kind.ofMessage_eq_unknown]
  constructor
  · intro hnone text htext word hword hmentions
    exact hnone word hword ((hwords word hword).mpr ⟨text, htext, hmentions⟩)
  · intro hnone word hword hmentions
    obtain ⟨text, htext, hthere⟩ := (hwords word hword).mp hmentions
    exact hnone text htext word hword hthere

theorem isNameConflict_transport
    (hwords : ∀ word ∈ kindWords, Mentions message word ↔ ∃ text ∈ texts, Mentions text word) :
    (Fault.transport message).isNameConflict = true ↔ TellsConflict texts := by
  have hconflict : ∀ word ∈ conflictWords,
      (Mentions message word ↔ ∃ text ∈ texts, Mentions text word) :=
    fun word hword => hwords word (List.mem_append_left _ hword)
  rw [isNameConflict, decide_eq_true_iff, kind_transport, Kind.ofMessage_eq_conflict]
  constructor
  · rintro ⟨word, hword, hmentions⟩
    obtain ⟨text, htext, hthere⟩ := (hconflict word hword).mp hmentions
    exact ⟨text, htext, word, hword, hthere⟩
  · rintro ⟨text, htext, word, hword, hthere⟩
    exact ⟨word, hword, (hconflict word hword).mpr ⟨text, htext, hthere⟩⟩

end Kinds

end Fault

/-! ## §2 Messages -/

namespace Http.Client

open Fault

section Messages

variable {word : String}

/-- The characters at which the messages are cut are in none of the words. -/
theorem not_mem_kindWord : ∀ word ∈ kindWords,
    (':' ∉ word.toList ∧ '/' ∉ word.toList) ∧ 'σ' ∉ word.toList ∧ 'ς' ∉ word.toList := by
  decide

/-- No word has a sigma, so the characters of a text may be lowered one by one. -/
theorem mentions_kindWord (hword : word ∈ kindWords) {text : String} :
    Mentions text word ↔ word.toList <:+: lowered text :=
  mentions_iff (not_mem_kindWord word hword).2

theorem ne_nil_of_kindWord : ∀ word ∈ kindWords, word.toList ≠ [] := by
  decide

/-- No word begins with a character of what stands before the path, or with a blank. -/
theorem head?_kindWord : ∀ word ∈ kindWords,
    ∀ c ∈ "request to ".toList, word.toList.head? ≠ some c := by
  simp [kindWords, conflictWords]

/-- No word is in what stands behind the path, and none ends with its beginning. -/
theorem kindWord_failed : ∀ word ∈ kindWords, ¬word.toList <:+: " failed".toList ∧
    ∀ part ∈ word.toList.tails, part <+: " failed".toList → part = [] := by
  decide

theorem not_infix_beginnings : ∀ word ∈ kindWords,
    ¬word.toList <:+: "failed to parse response from ".toList ∧
      ¬word.toList <:+: "failed to read response".toList := by
  decide

/-- Behind a colon and a blank a word begins where the rest begins. -/
theorem infix_colon_iff (hword : word ∈ kindWords) (l : List Char) (text : String) :
    word.toList <:+: l ++ ':' :: ' ' :: lowered text ↔
      word.toList <:+: l ∨ Mentions text word := by
  -- No word begins with the blank behind the colon.
  have hblank : ∀ c ∈ [' '], word.toList.head? ≠ some c := by
    intro c hc
    rw [List.mem_singleton.mp hc]
    exact head?_kindWord word hword ' ' (by decide)
  rw [infix_append_cons_iff (not_mem_kindWord word hword).1.1, ← List.singleton_append,
    infix_append_left_iff hblank, mentions_kindWord hword]

theorem mentions_requestFailed (hword : word ∈ kindWords) (path reason : String) :
    Mentions ("Request to " ++ path ++ " failed: " ++ reason) word ↔
      Mentions path word ∨ Mentions reason word := by
  have hlowered : lowered ("Request to " ++ path ++ " failed: " ++ reason) =
      ("request to ".toList ++ (lowered path ++ " failed".toList)) ++ ':' :: ' ' ::
        lowered reason := by
    have hto : lowered "Request to " = "request to ".toList := by decide
    have hfailed : lowered " failed: " = " failed".toList ++ [':', ' '] := by decide
    simp only [lowered_append, hto, hfailed, List.append_assoc, List.cons_append, List.nil_append]
  -- Left of the colon a word can only be in the path: it neither begins before the path nor runs
  -- into what stands behind it.
  obtain ⟨hfailed, hends⟩ := kindWord_failed word hword
  rw [mentions_kindWord hword, hlowered, infix_colon_iff hword,
    infix_append_left_iff (head?_kindWord word hword), infix_append_right_iff hends hfailed,
    ← mentions_kindWord hword]

/-- No word runs from one segment into the next one. -/
theorem infix_join_iff (hword : word ∈ kindWords) (segments : List String) :
    word.toList <:+: lowered (join "/" segments) ↔ ∃ text ∈ segments, Mentions text word := by
  have hslash : lowered "/" = ['/'] := by decide
  -- By induction on the segments: no word has the slash that stands between two of them.
  induction segments with
  | nil => simpa [join, lowered] using ne_nil_of_kindWord word hword
  | cons s rest ih =>
    cases rest with
    | nil => simp [join, mentions_kindWord hword]
    | cons t rest =>
      rw [join, lowered_append, lowered_append, hslash, List.append_assoc, List.singleton_append,
        infix_append_cons_iff (not_mem_kindWord word hword).1.2, List.exists_mem_cons_iff,
        ← mentions_kindWord hword]
      exact or_congr_right ih

theorem mentions_notUnderstood (hword : word ∈ kindWords) (segments : List String)
    (complaint : String) :
    Mentions ("Failed to parse response from /" ++ join "/" segments ++ ": " ++ complaint) word ↔
      (∃ text ∈ segments, Mentions text word) ∨ Mentions complaint word := by
  -- The message is cut at the slash before the segments and at the colon behind them.
  have hlowered : lowered ("Failed to parse response from /" ++ join "/" segments ++ ": " ++
      complaint) = ("failed to parse response from ".toList ++ '/' ::
        lowered (join "/" segments)) ++ ':' :: ' ' :: lowered complaint := by
    have hfrom : lowered "Failed to parse response from /" =
        "failed to parse response from ".toList ++ ['/'] := by decide
    have hcolon : lowered ": " = [':', ' '] := by decide
    simp only [lowered_append, hfrom, hcolon, List.append_assoc, List.cons_append, List.nil_append]
  rw [mentions_kindWord hword, hlowered, infix_colon_iff hword,
    infix_append_cons_iff (not_mem_kindWord word hword).1.2, infix_join_iff hword,
    or_iff_right (not_infix_beginnings word hword).1]

theorem mentions_notRead (hword : word ∈ kindWords) (reason : String) :
    Mentions ("Failed to read response: " ++ reason) word ↔ Mentions reason word := by
  have hlowered : lowered ("Failed to read response: " ++ reason) =
      "failed to read response".toList ++ ':' :: ' ' :: lowered reason := by
    have hread : lowered "Failed to read response: " =
        "failed to read response".toList ++ [':', ' '] := by decide
    simp only [lowered_append, hread, List.append_assoc, List.cons_append, List.nil_append]
  rw [mentions_kindWord hword, hlowered, infix_colon_iff hword,
    or_iff_right (not_infix_beginnings word hword).2]

end Messages

/-! ## §3 Calls that fail in transit -/

section Transit

variable {τ : Type} {c : Client} {link : Link τ} {call : Call} {s : τ} {reason : String}
  {quoted : List String}

/-- A call fails for a reason, and no status tells about it; the message quotes some texts. Either
no response came, because no request could be made or the request was lost, and the path is quoted.
Or the response is a success with a body that breaks off, or with one that is not what the call
asked for, where the segments of the call are quoted. -/
inductive FailsInTransit (c : Client) (link : Link τ) (call : Call) (s : τ) :
    String → List String → Prop where
  | notBuilt {reason : String} (hmade : c.request? call = .error reason) :
      FailsInTransit c link call s reason [c.pathOf call]
  | lost {request : Request} {reason : String} (hmade : c.request? call = .ok request)
      (hsent : (link.send request s).1 = .lost reason) :
      FailsInTransit c link call s reason [c.pathOf call]
  | notRead {request : Request} {status : Nat} {reason : String}
      {reader : Json → Option call.Answer} (hmade : c.request? call = .ok request)
      (hsent : (link.send request s).1 = .response status (.error reason))
      (hstatus : isSuccess status = true) (huse : bodyUse call = .read reader) :
      FailsInTransit c link call s reason []
  | notUnderstood {request : Request} {status : Nat} {bytes : List UInt8}
      {reader : Json → Option call.Answer} (hmade : c.request? call = .ok request)
      (hsent : (link.send request s).1 = .response status (.ok bytes))
      (hstatus : isSuccess status = true) (huse : bodyUse call = .read reader)
      (hbody : (Json.read? (bodyText bytes)).bind reader = none) :
      FailsInTransit c link call s (c.complaint (bodyText bytes)) (segmentsOf call)

/-- The message has the words of the reason and of the quoted texts, and no others that matter. -/
theorem FailsInTransit.mentions_message (h : c.FailsInTransit link call s reason quoted) :
    ∃ message, (c.perform link call s).1 = .error (.transport message) ∧
      ∀ word ∈ kindWords,
        Mentions message word ↔ ∃ text ∈ reason :: quoted, Mentions text word := by
  -- Each way to fail has a message of its own, whose parts are known.
  cases h with
  | notBuilt hmade =>
    have hreply : (c.perform link call s).1 = .error (c.requestFailed call reason) := by
      simp only [perform, hmade]
    refine ⟨_, hreply, fun word hword => ?_⟩
    rw [mentions_requestFailed hword]
    simp [or_comm]
  | lost hmade hsent =>
    have hreply : (c.perform link call s).1 = .error (c.requestFailed call reason) := by
      simp only [perform, hmade, interpret, hsent]
    refine ⟨_, hreply, fun word hword => ?_⟩
    rw [mentions_requestFailed hword]
    simp [or_comm]
  | notRead hmade hsent hstatus huse =>
    have hreply : (c.perform link call s).1 =
        .error (.transport ("Failed to read response: " ++ reason)) := by
      simp only [perform, hmade, interpret, hsent, hstatus, if_true, readBody, huse]
    refine ⟨_, hreply, fun word hword => ?_⟩
    rw [mentions_notRead hword]
    simp
  | @notUnderstood _ _ bytes _ hmade hsent hstatus huse hbody =>
    have hreply : (c.perform link call s).1 = .error (c.notUnderstood call (bodyText bytes)) := by
      simp only [perform, hmade, interpret, hsent, hstatus, if_true, readBody, huse, hbody]
    refine ⟨_, hreply, fun word hword => ?_⟩
    rw [mentions_notUnderstood hword, List.exists_mem_cons_iff, or_comm]

/-- A fault without a status tells of a call that failed in transit. -/
theorem failsInTransit_of_fault {fault : Fault} (h : (c.perform link call s).1 = .error fault)
    (hstatus : fault.status = none) :
    ∃ reason quoted, c.FailsInTransit link call s reason quoted := by
  unfold perform at h
  -- The call is followed up to the place where it failed.
  cases hmade : c.request? call with
  | error reason => exact ⟨reason, _, .notBuilt hmade⟩
  | ok request =>
    simp only [hmade] at h
    cases hsent : (link.send request s).1 with
    | lost reason => exact ⟨reason, _, .lost hmade hsent⟩
    | response status body =>
      simp only [hsent, interpret] at h
      cases hsuccess : isSuccess status with
      | false =>
        -- Any other response has a status.
        simp only [hsuccess] at h
        cases h
        cases hstatus
      | true =>
        simp only [hsuccess, if_true] at h
        unfold readBody at h
        split at h
        · cases h
        · next huse => exact ⟨_, _, .notRead hmade hsent hsuccess huse⟩
        · next reader bytes huse =>
          dsimp only at h
          split at h
          · cases h
          · next hbody => exact ⟨_, _, .notUnderstood hmade hsent hsuccess huse hbody⟩

/-- Creating a plan, where the first attempt fails: there is a second one exactly if the fault is a
conflict and the plan has a name. -/
theorem callsOf_createOnTarget {σ : Type} (w : World σ) {target : String} {plan : Plan}
    {index : Nat} {r : Run σ} {fault : Fault}
    (h : (w.reply (.create target plan) r.state).1 = .error fault) :
    callsOf ((Migration.createOnTarget target plan index).run w.answer r).2.events =
      callsOf r.events ++ .create target plan ::
        if fault.isNameConflict ∧ plan.name ≠ "" then
          [.create target (plan.renamed (Migration.retryName plan.name index))]
        else [] := by
  unfold Migration.createOnTarget
  rw [World.run_call, h]
  -- The fault and the name decide whether there is a second attempt.
  by_cases hagain : fault.isNameConflict ∧ plan.name ≠ ""
  · have hcond : (fault.isNameConflict && decide (plan.name ≠ "")) = true := by simpa using hagain
    simp only [hcond, if_true]
    rw [if_pos hagain, World.run_call]
    -- Whatever comes of the second attempt, it is the last one.
    split <;> simp [callsOf_append]
  · have hcond : (fault.isNameConflict && decide (plan.name ≠ "")) = false := by
      simpa using hagain
    simp only [hcond, Bool.false_eq_true, if_false]
    rw [if_neg hagain]
    simp [callsOf_append]

/-- **The kind of a call that failed in transit depends on the texts that its message quotes.** The
fault has no status. It is of unknown kind exactly if neither the reason nor a quoted text has a
word that matters, and it counts as a conflict about a name exactly if one of them has a word of a
conflict; a container with a name is then created a second time. -/
theorem kind_of_failsInTransit {r : Run τ}
    (h : c.FailsInTransit link call r.state reason quoted) :
    ∃ fault, (c.perform link call r.state).1 = .error fault ∧ fault.status = none ∧
      (fault.kind = .unknown ↔ TellsNothing (reason :: quoted)) ∧
      (fault.isNameConflict = true ↔ TellsConflict (reason :: quoted)) ∧
      ∀ (target : String) (plan : Plan) (index : Nat) (cancelled : List Event → Bool)
        (clock : List Event → Instant), call = .create target plan →
        callsOf ((Migration.createOnTarget target plan index).run
            (c.world link cancelled clock).answer r).2.events =
          callsOf r.events ++ .create target plan ::
            if fault.isNameConflict ∧ plan.name ≠ "" then
              [.create target (plan.renamed (Migration.retryName plan.name index))]
            else [] := by
  obtain ⟨message, hreply, hwords⟩ := h.mentions_message
  refine ⟨_, hreply, rfl, kind_transport_eq_unknown hwords, isNameConflict_transport hwords, ?_⟩
  -- A world behind a link replies to a creation with what the client makes of it.
  rintro target plan index cancelled clock rfl
  exact callsOf_createOnTarget (c.world link cancelled clock) hreply

end Transit

/-- A client whose token cannot be sent, so that no request is ever made. -/
def unsendable : Client where
  base := ⟨"http", some ⟨"", "", "localhost", some 8080⟩, .segments ["api"], none, none⟩
  token := some "a\x01b"
  complaint := fun _ => "unexpected content"

def webPlan : Plan :=
  ⟨"nginx:1", "web", [], [], true, none⟩

/-- The id of the node makes a conflict of a request that was never made, and the container is
created once more. -/
theorem unsendable_kind_of_failsInTransit :
    unsendable.FailsInTransit (.broken Unit) (.create "conflict-lab" webPlan) () "builder error"
      ["/api/nodes/conflict-lab/containers"] ∧
    TellsNothing ["builder error"] ∧
    ∃ fault,
      (unsendable.perform (.broken Unit) (.create "conflict-lab" webPlan) ()).1 = .error fault ∧
      fault.status = none ∧ fault.kind ≠ .unknown ∧ fault.isNameConflict = true ∧
      callsOf ((unsendable.world (.broken Unit) (fun _ => false) (fun _ => ⟨0, 0⟩)).run
          (Migration.createOnTarget "conflict-lab" webPlan 1) ()).2.events =
        [.create "conflict-lab" webPlan,
          .create "conflict-lab" (webPlan.renamed "web-migrated-1")] := by
  have hfails : unsendable.FailsInTransit (.broken Unit) (.create "conflict-lab" webPlan) ()
      "builder error" ["/api/nodes/conflict-lab/containers"] := .notBuilt rfl
  obtain ⟨fault, hreply, hstatus, hunknown, hconflict, hcalls⟩ :=
    kind_of_failsInTransit (r := ⟨(), []⟩) hfails
  have htold : fault.isNameConflict = true := hconflict.mpr (by decide)
  have hsecond := hcalls "conflict-lab" webPlan 1 (fun _ => false) (fun _ => ⟨0, 0⟩) rfl
  rw [if_pos ⟨htold, by decide⟩] at hsecond
  exact ⟨hfails, by decide, fault, hreply, hstatus,
    fun h => absurd (hunknown.mp h) (by decide), htold, hsecond⟩

end Http.Client

end Flotilla
