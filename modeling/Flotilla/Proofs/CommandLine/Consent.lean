import Flotilla.CommandLine.Invocation
import Flotilla.Proofs.Ledgers
import Flotilla.Proofs.Reading
import Flotilla.Proofs.Terminal

/-!
# Commands Ask First and Tell the End

A command that changes anything asks the operator first. Without his word it has only read, so all
that was sent is `GET` requests. With it, or if he gave it beforehand, a batch or a migration is
carried out, and the exit status is zero exactly if every item has come to a good end.

- `CommandLine.Executes`: a command carries out a batch or a migration, with this result.
- `CommandLine.asks_first_and_tells_end`: the main result, for every server, every command line and
  every input.
-/

namespace Flotilla

/-! ## §1 Commands that carry something out -/

/-- Whether a command asks the operator before it changes anything. -/
def Command.asks : Command → Bool
  | .run o => !o.agreed
  | .migrate _ _ _ agreed => !agreed
  | .nodes _ | .scan _ _ | .count _ => false

namespace CommandLine

open Terminal

variable {σ : Type} {w : World σ} {s : σ} {input : String} {command : Command}
  {keys : List MatchKey} {result : Except Refusal Ledger} {last : Run σ}

/-- The containers in the first listing among some events. -/
def firstListing (events : List Event) : List Container :=
  (events.findSome? fun
    | .exchange (.list _) (.ok containers) => some containers
    | _ => none).getD []

/-- The command carries out a batch or a migration over the items with these keys, which comes to
the result and to the run. The operator has agreed to it, beforehand or by the first line of the
input. -/
inductive Executes (w : World σ) (s : σ) (input : String) :
    Command → List MatchKey → Except Refusal Ledger → Run σ → Prop where
  /-- The items are the matches that were shown. -/
  | run {o : BulkOrder} {nodes : List Node} {items : List Match} {selected scanned last : Run σ}
      {result : Except Refusal Ledger}
      (hselect : w.run (selectNodes o.target.selection) s = (.ok nodes, selected))
      (hscan : (scan nodes o.target.filter).run w.answer selected = (.ok items, scanned))
      (hsome : items ≠ [])
      (hagreed : o.agreed = true ∨ isAgreement (firstLine input.toList) = true)
      (hbatch : (Batch.run ⟨items, o.action, o.overrides⟩).run w.answer scanned = (result, last)) :
      Executes w s input (.run o) (items.map Match.key) result last
  /-- The items are the containers that the source listed to the migration itself. -/
  | migrate {source target : String} {keepSource agreed : Bool} {count : Nat}
      {counted last : Run σ} {own : List Event} {result : Except Refusal Ledger}
      (hcount : w.run (countContainers source) s = (.ok count, counted))
      (hagreed : agreed = true ∨ isAgreement (firstLine input.toList) = true)
      (hmigration : (Migration.run ⟨source, target, keepSource, true⟩).run w.answer counted =
        (result, last))
      (hown : last.events = counted.events ++ own) :
      Executes w s input (.migrate source target keepSource agreed)
        ((firstListing own).map fun container => ⟨Text.trim source, container.id⟩) result last

/-- The ending of a command from the result of its batch. -/
def batchEnding : Except Refusal Ledger → Ending
  | .error refusal => .error (.ofRefusal refusal)
  | .ok ledger => ledgerEnding ledger

/-- At a terminal, the program comes to the result of a remote operation on ledgers, and the world
moves as that operation moves it. -/
def Concludes (w : World σ) (program : Terminal Ending) (q : Remote (Except Refusal Ledger)) :
    Prop :=
  ∀ t : State σ, ∃ printed input,
    Program.run (I := interface) (answer w) program t =
      (batchEnding (q.run w.answer t.run).1, ⟨(q.run w.answer t.run).2, printed, input⟩)

theorem concludes_proceed (p : Palette) (q : Remote (Except Refusal Ledger)) :
    Concludes w (proceed q (conclude p)) q := by
  intro t
  rw [run_proceed]
  cases q.run w.answer t.run with
  | mk result r =>
    -- A refusal ends the command at once, a ledger is shown before its end.
    cases result with
    | error refusal => exact ⟨t.printed, t.input, rfl⟩
    | ok ledger => exact ⟨_, _, run_conclude p ledger _⟩

/-- An empty line before changes nothing. -/
theorem Concludes.printLine {program : Terminal Ending} {q : Remote (Except Refusal Ledger)}
    (h : Concludes w program q) (text : String) :
    Concludes w (do Terminal.printLine text; program) q :=
  fun t => h { t with printed := t.printed ++ (text ++ "\n") }

theorem concludes_runBatch (p : Palette) (o : BulkOrder) (items : List Match) :
    Concludes w (runBatch p o items) (Batch.run ⟨items, o.action, o.overrides⟩) := by
  unfold runBatch
  cases o.agreed with
  | true => exact concludes_proceed p _
  | false => exact (concludes_proceed p _).printLine ""

/-- With the operator's word a command that asks comes to what it would come to otherwise. -/
theorem Concludes.run_ifAgreed {next : Terminal Ending} {q : Remote (Except Refusal Ledger)}
    (h : Concludes w next q) (p : Palette) {agreed : Bool} (question refusal : String) (t : State σ)
    (hagreed : agreed = true ∨ isAgreement (firstLine t.input) = true) :
    (Program.run (I := interface) (answer w) (ifAgreed p agreed question refusal next) t).1 =
        batchEnding (q.run w.answer t.run).1 ∧
      (Program.run (I := interface) (answer w) (ifAgreed p agreed question refusal next) t).2.run =
        (q.run w.answer t.run).2 := by
  obtain ⟨printed, input, hgo⟩ :=
    CommandLine.run_ifAgreed (w := w) p question refusal next t hagreed
  -- Neither what was printed nor what is left of the input matters to what comes now.
  obtain ⟨printed, input, hend⟩ := h { t with printed, input }
  rw [hgo, hend]
  exact ⟨rfl, rfl⟩

/-- A command that carries something out ends as that does, and where that does. -/
theorem run_of_executes (h : Executes w s input command keys result last) (p : Palette) :
    (Terminal.run w (perform p command) s input).1 = batchEnding result ∧
      (Terminal.run w (perform p command) s input).2.run = last := by
  unfold Terminal.run
  cases h with
  | @run o nodes items selected scanned _ _ hselect hscan hsome hagreed hbatch =>
    unfold World.run at hselect
    -- The nodes are selected and scanned as they were before, and then the operator is asked.
    simp only [perform, performRun]
    rw [run_proceed, hselect]
    dsimp only
    rw [run_proceed, hscan]
    simp only [Program.bind_eq, Program.run_bind, run_printLines]
    rw [if_neg (by simpa using hsome)]
    obtain ⟨rfl, rfl⟩ := Prod.ext_iff.mp hbatch
    exact (concludes_runBatch p o items).run_ifAgreed p _ _ _ hagreed
  | @migrate source target keepSource agreed count counted _ own _ hcount hagreed hmigration hown =>
    unfold World.run at hcount
    -- The containers are counted before the operator is asked.
    simp only [perform, performMigrate, Program.bind_eq, Program.run_bind, run_printLines]
    rw [run_proceed, hcount]
    simp only [Program.run_bind, run_printLines]
    obtain ⟨rfl, rfl⟩ := Prod.ext_iff.mp hmigration
    exact ((concludes_proceed p _).printLine "").run_ifAgreed p _ _ _ hagreed

/-! ## §2 What the result tells -/

theorem batchEnding_eq_ok :
    batchEnding result = .ok () ↔
      ∃ ledger, result = .ok ledger ∧ ledger.hasFailures = false ∧ ledger.cancelled = false := by
  cases result with
  | error refusal => simp [batchEnding]
  | ok ledger =>
    simp only [batchEnding, ledgerEnding, Except.ok.injEq, exists_eq_left']
    -- A failure or a cancellation is an error each, and there is no other one.
    cases ledger.hasFailures <;> cases ledger.cancelled <;> simp

/-- The ledger of what was carried out accounts for the items. -/
theorem Executes.accountsFor {ledger : Ledger}
    (h : Executes w s input command keys (.ok ledger) last) :
    ∃ events, AccountsFor keys events ledger := by
  cases h with
  | @run o nodes items selected scanned _ _ _ _ _ _ hbatch =>
    -- The world that goes on after the scan is a world as any other one.
    rw [w.run_resumed, Prod.mk.injEq] at hbatch
    exact ⟨_, Batch.accountsFor hbatch.1⟩
  | @migrate source target keepSource agreed count counted _ own _ _ _ hmigration hown =>
    rw [w.run_resumed, Prod.mk.injEq] at hmigration
    obtain ⟨hledger, rfl⟩ := hmigration
    obtain ⟨nodes, containers, rest, hevents, haccounts⟩ := Migration.accountsFor hledger
    -- Its own listing is the second thing that happened to the migration.
    have hfirst : firstListing own = containers := by
      rw [← List.append_cancel_left hown, hevents]
      rfl
    rw [hfirst]
    exact ⟨_, haccounts⟩

/-- An entry of what was carried out is a success exactly if the item was completed. -/
theorem Executes.ok_iff {ledger : Ledger}
    (h : Executes w s input command keys (.ok ledger) last) :
    ∀ e ∈ ledger.entries, e.ok = decide (e.stage = .completed) := by
  cases h with
  | @run o nodes items selected scanned _ _ _ _ _ _ hbatch =>
    rw [w.run_resumed, Prod.mk.injEq] at hbatch
    have hledger := hbatch.1
    obtain ⟨job, hjob⟩ := Batch.job_of_run_ok hledger
    -- The entries are those of the attempts, each of which tells its stage.
    rw [World.run, Batch.run_eq_attemptAll hjob] at hledger
    exact (w.resumed _).forall_mem_attemptAll (Batch.ok_attempt _ job) hledger
  | @migrate source target keepSource agreed count counted _ own _ _ _ hmigration hown =>
    rw [w.run_resumed, Prod.mk.injEq] at hmigration
    have hledger := hmigration.1
    obtain ⟨first, second, containers, start, hbegins⟩ := Migration.begins_of_run_ok hledger
    rw [hbegins.run_eq] at hledger
    exact (w.resumed _).forall_mem_attemptAll (Migration.ok_attempt _ _ first second) hledger

/-! ## §3 Where nothing is carried out -/

/-- From a moment at a terminal, the program has only read at its end, unless something else is the
case. -/
def ReadsUnless (w : World σ) (other : Prop) (program : Terminal Ending) (t : State σ) : Prop :=
  other ∨ (Program.run (I := interface) (answer w) program t).2.run.HasRead

section Rules

variable {α : Type} {other : Prop} {t : State σ}

theorem readsUnless_pure (ht : t.run.HasRead) (ending : Ending) :
    ReadsUnless w other (pure ending) t :=
  .inr ht

theorem readsUnless_showing (ht : t.run.HasRead) (lines : List String) :
    ReadsUnless w other (showing lines) t := by
  right
  rwa [run_showing]

theorem readsUnless_printLines {lines : List String} {program : Terminal Ending}
    (h : ∀ printed, ReadsUnless w other program { t with printed }) :
    ReadsUnless w other (do Terminal.printLines lines; program) t := by
  unfold ReadsUnless
  rw [Program.bind_eq, Program.run_bind, run_printLines]
  exact h _

/-- An operation that only reads hands on what it came to. -/
theorem readsUnless_proceed {q : Remote (Except Refusal α)} {next : α → Terminal Ending}
    (hq : q.OnlyReads) (ht : t.run.HasRead)
    (hnext : ∀ a r, q.run w.answer t.run = (.ok a, r) → r.HasRead →
      ReadsUnless w other (next a) { t with run := r }) :
    ReadsUnless w other (proceed q next) t := by
  unfold ReadsUnless
  have hread := hq.run w ht
  rw [run_proceed]
  cases hrun : q.run w.answer t.run with
  | mk result r =>
    rw [hrun] at hread
    -- A refusal is the end, and the operation has only read.
    cases result with
    | error refusal => exact .inr hread
    | ok a => exact hnext a r hrun hread

/-- Only the operator's word lets a command that asks go on. -/
theorem readsUnless_ifAgreed (p : Palette) {agreed : Bool} (question refusal : String)
    (next : Terminal Ending) (ht : t.run.HasRead)
    (hother : agreed = true ∨ isAgreement (firstLine t.input) = true → other) :
    ReadsUnless w other (ifAgreed p agreed question refusal next) t := by
  cases agreed with
  | true => exact .inl (hother (.inl rfl))
  | false =>
    -- Without a word beforehand the first line of the input decides.
    cases hanswer : isAgreement (firstLine t.input) with
    | true => exact .inl (hother (.inr hanswer))
    | false =>
      obtain ⟨printed, input, hrun⟩ :=
        run_ifAgreed_refused (w := w) p question refusal next t hanswer
      right
      rwa [hrun]

theorem readsUnless_showReport (p : Palette) (nodes : Nat) (r : ScanReport) (ht : t.run.HasRead) :
    ReadsUnless w other (showReport p nodes r) t := by
  refine readsUnless_printLines fun printed => ?_
  split
  · exact .inr ht
  · exact .inr ht

end Rules

/-- A command that carries out neither a batch nor a migration only reads. -/
theorem executes_or_reads (w : World σ) (s : σ) (input : String) (command : Command) (p : Palette) :
    (∃ keys result last, Executes w s input command keys result last) ∨
      (Terminal.run w (perform p command) s input).2.run.HasRead := by
  have hstart : (⟨s, []⟩ : Run σ).HasRead := by simp [Run.HasRead]
  show ReadsUnless w _ (perform p command) ⟨⟨s, []⟩, "", input.toList⟩
  -- Command by command: what comes before the question only reads.
  cases command with
  | nodes asJson =>
    refine readsUnless_proceed Remote.onlyReads_listNodes hstart fun nodes r _ hr => ?_
    cases asJson with
    | true => exact readsUnless_showing hr _
    | false => exact readsUnless_showing hr _
  | count node =>
    exact readsUnless_proceed (Remote.onlyReads_countContainers node) hstart
      fun n r _ hr => readsUnless_showing hr _
  | scan target bestEffort =>
    refine readsUnless_proceed (Remote.onlyReads_selectNodes _) hstart fun nodes r _ hr => ?_
    refine readsUnless_printLines fun printed => ?_
    cases bestEffort with
    | true =>
      exact readsUnless_proceed (Remote.onlyReads_scanBestEffort _ _) hr
        fun report r _ hr => readsUnless_showReport p _ report hr
    | false =>
      exact readsUnless_proceed (Remote.onlyReads_scan _ _) hr
        fun items r _ hr => readsUnless_showing hr _
  | run o =>
    refine readsUnless_proceed (Remote.onlyReads_selectNodes _) hstart
      fun nodes selected hselect hselected => ?_
    refine readsUnless_proceed (Remote.onlyReads_scan _ _) hselected
      fun items scanned hscan hscanned => ?_
    refine readsUnless_printLines fun printed => ?_
    split
    · exact readsUnless_pure hscanned _
    · next hsome =>
      exact readsUnless_ifAgreed p _ _ _ hscanned fun hagreed =>
        ⟨_, _, _, .run hselect hscan (by simpa using hsome) hagreed rfl⟩
  | migrate source target keepSource agreed =>
    refine readsUnless_printLines fun printed => ?_
    refine readsUnless_proceed (Remote.onlyReads_countContainers _) hstart
      fun count counted hcount hcounted => ?_
    refine readsUnless_printLines fun printed => ?_
    -- With the word of the operator the migration is carried out, which is the other case.
    refine readsUnless_ifAgreed p _ _ _ hcounted fun hagreed => ?_
    obtain ⟨own, hown, -⟩ :=
      w.run_yields_from (Migration.run ⟨source, target, keepSource, true⟩) counted
    exact ⟨_, _, _, .migrate hcount hagreed rfl hown⟩

/-- What is carried out has the operator's word. -/
theorem Executes.agreed (h : Executes w s input command keys result last) :
    command.asks = false ∨ isAgreement (firstLine input.toList) = true := by
  cases h with
  | run _ _ _ hagreed _ => exact hagreed.imp_left (by simp [Command.asks])
  | migrate _ hagreed _ _ => exact hagreed.imp_left (by simp [Command.asks])

/-- At a terminal, the requests that are kept stay those for the calls. -/
theorem kept_run {τ : Type} {c : Http.Client} {link : Http.Link τ} {cancelled : List Event → Bool}
    {clock : List Event → Instant} (program : Terminal Ending)
    {t : State (τ × List Http.Request)} (ht : c.Kept t.run) :
    c.Kept (Program.run (I := interface)
      (answer (c.world link.recorded cancelled clock)) program t).2.run := by
  have hstep : ∀ op (t : State (τ × List Http.Request)), c.Kept t.run →
      c.Kept (answer (c.world link.recorded cancelled clock) op t).2.run := by
    intro op t ht
    -- Printing and reading a line send nothing.
    cases op with
    | remote op => exact ht.answer op
    | print text => exact ht
    | readLine => exact ht
  exact Program.run_preserves (I := interface) hstep program ht

/-! ## §4 Invocations -/

section Invocations

variable {τ : Type} {surroundings : Surroundings} {args : List String} {given : Given}

/-- The settings of an order can be loaded, and they make a client. -/
def Connects (surroundings : Surroundings) (given : Given) (client : Http.Client) : Prop :=
  ∃ settings, Settings.load given surroundings = .ok settings ∧
    Http.Client.open? settings.apiBase settings.token = .ok client

theorem prepare_of_connects {client : Http.Client}
    (hread : read surroundings.lookup args = .order given command)
    (hclient : Connects surroundings given client) :
    ∃ settings, prepare surroundings args =
      .ready client settings (perform (.ofVariables surroundings.lookup) command) := by
  obtain ⟨settings, hsettings, hopen⟩ := hclient
  refine ⟨settings, ?_⟩
  unfold prepare
  rw [hread]
  dsimp only
  unfold prepareOrder
  rw [hsettings]
  dsimp only
  rw [hopen]

theorem exit_eq_zero {ending : Ending} : (endingOf ending).1 = 0 ↔ ending = .ok () := by
  cases ending <;> simp [endingOf]

/-- An invocation whose client is made leaves the server and ends as its command does. -/
theorem invoke_of_connects {client : Http.Client}
    (hread : read surroundings.lookup args = .order given command)
    (hclient : Connects surroundings given client) (link : Http.Link τ)
    (cancelled : List Event → Bool) (clock : List Event → Instant) (input : String) (state : τ) :
    (invoke surroundings link cancelled clock args input state).2 =
        (Terminal.run (client.world link cancelled clock)
          (perform (.ofVariables surroundings.lookup) command) state input).2.run.state ∧
      ((invoke surroundings link cancelled clock args input state).1.exit = 0 ↔
        (Terminal.run (client.world link cancelled clock)
          (perform (.ofVariables surroundings.lookup) command) state input).1 = .ok ()) := by
  obtain ⟨settings, hprepare⟩ := prepare_of_connects hread hclient
  unfold invoke
  rw [hprepare]
  exact ⟨rfl, exit_eq_zero⟩

/-- Where no client is made, nothing is sent. -/
theorem invoke_of_not_connects (hread : read surroundings.lookup args = .order given command)
    (hclient : ∀ client, ¬Connects surroundings given client) (link : Http.Link τ)
    (cancelled : List Event → Bool) (clock : List Event → Instant) (input : String) (state : τ) :
    (invoke surroundings link cancelled clock args input state).2 = state := by
  unfold invoke prepare
  rw [hread]
  dsimp only
  unfold prepareOrder
  -- Either the settings cannot be loaded, or no client can be made of them.
  cases hsettings : Settings.load given surroundings with
  | error e => rfl
  | ok settings =>
    dsimp only
    cases hopen : Http.Client.open? settings.apiBase settings.token with
    | error fault => rfl
    | ok client => exact absurd ⟨settings, hsettings, hopen⟩ (hclient client)

/-- An invocation that carries nothing out has sent `GET` requests only. -/
theorem executes_or_gets {client : Http.Client}
    (hread : read surroundings.lookup args = .order given command)
    (hclient : Connects surroundings given client) (link : Http.Link τ)
    (cancelled : List Event → Bool) (clock : List Event → Instant) (input : String) (state : τ) :
    (∃ keys result last, Executes (client.world link.recorded cancelled clock) (state, []) input
        command keys result last) ∨
      ∀ request ∈ (invoke surroundings link.recorded cancelled clock args input (state, [])).2.2,
        request.method = .get := by
  refine (executes_or_reads (client.world link.recorded cancelled clock) (state, []) input command
    (.ofVariables surroundings.lookup)).imp_right fun hreads request hsent => ?_
  -- What was kept are the requests for the calls, and none of these changes anything.
  have hkept : client.Kept (Terminal.run (client.world link.recorded cancelled clock)
      (perform (.ofVariables surroundings.lookup) command) (state, []) input).2.run :=
    kept_run _ rfl
  rw [(invoke_of_connects hread hclient _ _ _ _ _).1, hkept] at hsent
  exact Http.Client.method_of_mem_requestsFor hreads hsent

end Invocations

/-- **Commands ask first, and the exit status tells the end**, for every server, every command line
and every input. A command to run an action or to migrate whose operator has not agreed beforehand,
and does not by the first line of the input, sends `GET` requests only. So does every command that
carries out neither a batch nor a migration. Where one is carried out, the exit status is zero
exactly if it came to a ledger with a success for every item: for every match that was shown, and
for every container that the source listed to the migration. So it is not zero after a failure,
after a container that was left on the source, and after a cancellation. -/
theorem asks_first_and_tells_end {τ : Type} (s : Surroundings) (link : Http.Link τ)
    (cancelled : List Event → Bool) (clock : List Event → Instant) (args : List String)
    (input : String) (state : τ) {given : Given} {command : Command}
    (hread : read s.lookup args = .order given command) :
    (command.asks = true →
      Text.lowercase (Text.trim (firstLine input.toList)) ∉ ["y", "yes"] →
      ∀ request ∈ (invoke s link.recorded cancelled clock args input (state, [])).2.2,
        request.method = .get) ∧
    ∀ client, Connects s given client →
      ((∃ request ∈ (invoke s link.recorded cancelled clock args input (state, [])).2.2,
          request.method ≠ .get) →
        ∃ keys result last, Executes (client.world link.recorded cancelled clock) (state, []) input
          command keys result last) ∧
      ∀ keys result last,
        Executes (client.world link cancelled clock) state input command keys result last →
          (invoke s link cancelled clock args input state).2 = last.state ∧
          ((invoke s link cancelled clock args input state).1.exit = 0 ↔
            ∃ ledger, result = .ok ledger ∧ ledger.Covers keys) ∧
          ∀ ledger, result = .ok ledger →
            ledger.cancelled = true ∨
              (∃ e ∈ ledger.entries, e.ok = false ∨ e.stage ≠ .completed) →
            (invoke s link cancelled clock args input state).1.exit ≠ 0 := by
  refine ⟨?_, fun client hclient => ⟨?_, ?_⟩⟩
  · intro hasks hanswer
    have hrefused : isAgreement (firstLine input.toList) = false := by
      simpa [isAgreement] using hanswer
    -- Without a client nothing is sent at all; with one, only reading is left without his word.
    by_cases hclient : ∃ client, Connects s given client
    · obtain ⟨client, hclient⟩ := hclient
      refine (executes_or_gets hread hclient link cancelled clock input state).resolve_left ?_
      rintro ⟨keys, result, last, hexecutes⟩
      simpa [hasks, hrefused] using hexecutes.agreed
    · rw [invoke_of_not_connects hread (not_exists.mp hclient)]
      simp
  · rintro ⟨request, hsent, hmethod⟩
    refine (executes_or_gets hread hclient link cancelled clock input state).resolve_right ?_
    exact fun hgets => hmethod (hgets request hsent)
  · intro keys result last hexecutes
    obtain ⟨hstate, hexit⟩ := invoke_of_connects hread hclient link cancelled clock input state
    obtain ⟨hending, hlast⟩ := run_of_executes hexecutes (.ofVariables s.lookup)
    rw [hlast] at hstate
    rw [hending, batchEnding_eq_ok] at hexit
    refine ⟨hstate, ?_, ?_⟩
    · rw [hexit]
      refine exists_congr fun ledger => and_congr_right fun hledger => ?_
      subst hledger
      obtain ⟨events, haccounts⟩ := hexecutes.accountsFor
      exact haccounts.covers_iff.symm
    · rintro ledger rfl hbad hzero
      -- A good end has neither a failure nor a cancellation, but one of them is there.
      obtain ⟨found, hfound, hfailures, hcancelled⟩ := hexit.mp hzero
      cases hfound
      rcases hbad with hcut | ⟨e, he, hfailed⟩
      · rw [hcut] at hcancelled
        cases hcancelled
      · have hok : e.ok = true := by simpa using (List.any_eq_false.mp hfailures) e he
        have hstage := hexecutes.ok_iff e he
        simp_all

/-- Surroundings where nothing is set and nothing is found. -/
def bare : Surroundings where
  lookup := fun _ => none
  home := some "/home/op"
  find := fun _ => .nothing

/-- The arguments to move what is on one node to another one, without agreeing beforehand. -/
def moveArgs : List String :=
  ["migrate", "--from", "a", "--to", "b"]

/-- The client of the sample, for the base URL that is used if no other one is given. -/
def localClient : Http.Client where
  base := ⟨"http", some ⟨"", "", "127.0.0.1", some 8080⟩, .segments ["api"], none, none⟩
  token := none
  complaint := fun _ => "unexpected content"

/-- A server with two nodes, one of which has a container, where every change is a success. -/
def obligingServer : Http.Link Unit where
  send := fun request s =>
    let node (id : String) := "\x7b\"node_id\":\"" ++ id ++ "\",\"status\":\"connected\"\x7d"
    let body :=
      if request.method ≠ .get then ""
      else if request.url.path = .segments ["api", "nodes"] then
        "\x7b\"nodes\":[" ++ node "a" ++ "," ++ node "b" ++ "]\x7d"
      else if request.url.path = .segments ["api", "nodes", "a", "containers"] then
        "[\x7b\"Id\":\"1\",\"Image\":\"web\"\x7d]"
      else "\x7b\x7d"
    (.response 200 (.ok (Text.bytes body)), s)

/-- The sample invocation with some input; all requests that are sent are kept. -/
def invokeMove (input : String) : Transcript × (Unit × List Http.Request) :=
  invoke bare obligingServer.recorded (fun _ => false) (fun _ => ⟨0, 0⟩) moveArgs input ((), [])

set_option maxRecDepth 8000 in
/-- The sample migration reads and no more after a refusal; after the operator's word it is carried
out, and ends well with a success for every container. -/
theorem move_asks_first_and_tells_end :
    read bare.lookup moveArgs = .order .none (.migrate "a" "b" false false) ∧
    (∀ request ∈ (invokeMove "no\n").2.2, request.method = .get) ∧
    Connects bare .none localClient ∧
    ∃ keys result last,
      Executes (localClient.world obligingServer.recorded (fun _ => false) (fun _ => ⟨0, 0⟩))
        ((), []) " YES \n" (.migrate "a" "b" false false) keys result last ∧
      (invokeMove " YES \n").1.exit = 0 ∧ ∃ ledger, result = .ok ledger ∧ ledger.Covers keys := by
  have hread : read bare.lookup moveArgs = .order .none (.migrate "a" "b" false false) := by
    decide +kernel
  have hclient : Connects bare .none localClient :=
    ⟨⟨localClient.base, none, Settings.defaultTimeout, "/home/op/.docklet"⟩, by decide +kernel, rfl⟩
  obtain ⟨hrefused, -⟩ := asks_first_and_tells_end bare obligingServer (fun _ => false)
    (fun _ => ⟨0, 0⟩) moveArgs "no\n" () hread
  obtain ⟨-, hagreed⟩ := asks_first_and_tells_end bare obligingServer (fun _ => false)
    (fun _ => ⟨0, 0⟩) moveArgs " YES \n" () hread
  obtain ⟨-, hends⟩ := asks_first_and_tells_end bare obligingServer.recorded (fun _ => false)
    (fun _ => ⟨0, 0⟩) moveArgs " YES \n" ((), []) hread
  -- Some request changes something, so the migration is carried out.
  obtain ⟨hsent, hzero⟩ : (∃ request ∈ (invokeMove " YES \n").2.2, request.method ≠ .get) ∧
      (invokeMove " YES \n").1.exit = 0 := by decide +kernel
  obtain ⟨keys, result, last, hexecutes⟩ := (hagreed localClient hclient).1 hsent
  exact ⟨hread, hrefused rfl (by decide +kernel), hclient, keys, result, last, hexecutes, hzero,
    ((hends localClient hclient).2 keys result last hexecutes).2.1.mp hzero⟩

end CommandLine

end Flotilla
