import Flotilla.Proofs.Cluster.Effects
import Flotilla.Proofs.Cluster.Removal
import Flotilla.Proofs.Migration.Copies
import Flotilla.Proofs.Migration.Protocol
import Mathlib.Data.List.Forall2

/-!
# The Ledger of a Migration Determines Its End

On the in-memory cluster, with different ids on the source, the containers after a migration can be
read off the containers before it and the ledger.

- `CopyTold`: the copy of a container that an entry tells of. Its name is the one in the message,
  its configuration is that of the container.
- `Migration.ItemChange`: what migrating one container did to the containers of all nodes.
- `Migration.EndState`: every entry that says so stands for one new container on the target, every
  completed entry for one that is gone from the source, and nothing else has changed.
- `Migration.end_state_of_ledger`: the main result.
-/

namespace Flotilla

/-! ## §1 What an entry tells -/

/-- Whether an item that came so far has its copy on the target. -/
def Stage.tellsCopy (s : Stage) : Bool :=
  s = .completed || s = .targetCreated

/-- What the message of an item whose copy was made says of the source. -/
inductive SourceNote (keepSource : Bool) : Stage → String → Prop where
  | kept (h : keepSource = true) : SourceNote keepSource .completed "; source kept"
  | removed (h : keepSource = false) : SourceNote keepSource .completed "; removed from source"
  | notRemoved (h : keepSource = false) (fault : Fault) :
      SourceNote keepSource .targetCreated ("; failed to remove from source: " ++ fault.message)

/-- The copy of the container at a position that a stage and a message tell of: it has the name in
the message, which is the current name of the container or that with the suffix. -/
def CopyTold (keepSource : Bool) (targetName : String) (original : Held) (index : Nat)
    (stage : Stage) (message : String) (copy : Held) : Prop :=
  ∃ name note,
    (name = original.name ∨
      original.name ≠ "" ∧ name = original.name ++ "-migrated-" ++ Text.decimal index) ∧
    SourceNote keepSource stage note ∧
    message = Migration.createdMessage targetName name ++ note ∧
    copy.snapshot = copySnapshot original name

theorem CopyTold.tellsCopy {keepSource : Bool} {targetName message : String} {original copy : Held}
    {index : Nat} {stage : Stage}
    (h : CopyTold keepSource targetName original index stage message copy) :
    stage.tellsCopy = true := by
  obtain ⟨name, note, -, hnote, -⟩ := h
  cases hnote <;> rfl

namespace Migration

open Cluster Remote

/-! ## §2 One container -/

section Item

variable {keepSource : Bool} {source target : Node} {original : Held} {index : Nat}
  {nodes : List Node} {held last : Holdings} {plan : Plan}

/-- A creation that failed, perhaps twice, changed nothing. -/
theorem Creation.unchanged {creation : List Event} {fault : Fault}
    (h : Creation target.id plan index creation (.error fault))
    (he : Effects nodes creation held last) : last = held := by
  -- The histories that end with a fault: one failed creation, or two of them.
  generalize hresult : (Except.error fault : Except Fault Plan) = result at h
  cases h with
  | created => cases hresult
  | refused fault hfinal =>
    cases effects_single he
    rfl
  | retried fault reply hkind hname =>
    -- The first attempt failed with a conflict, and the second one failed as well.
    obtain ⟨mid, hfirst, hagain⟩ := effects_exchange he
    cases hfirst
    cases effects_single hagain with
    | failed fault => rfl
    | create number hfree => cases hresult

/-- A creation that succeeded, perhaps at the second attempt, added a copy under the name of the
plan that was carried out. -/
theorem Creation.copy {creation : List Event} {created : Plan}
    (hplan : migrationPlan original.summary original.snapshot = .ok plan)
    (h : Creation target.id plan index creation (.ok created))
    (he : Effects nodes creation held last) :
    ∃ copy,
      last = Function.update held target.id (held target.id ++ [copy]) ∧
      (created.name = original.name ∨
        original.name ≠ "" ∧
          created.name = original.name ++ "-migrated-" ++ Text.decimal index) ∧
      copy.snapshot = copySnapshot original created.name := by
  have hname : plan.name = original.name := name_migrationPlan hplan
  -- The histories that end with a plan: one creation under its own name, or a second one under the
  -- other.
  generalize hresult : (Except.ok created : Except Fault Plan) = result at h
  cases h with
  | created =>
    cases hresult
    cases effects_single he with
    | create number hfree =>
      exact ⟨_, rfl, .inl hname, snapshot_build_renamed plan.name number hplan⟩
  | refused fault hfinal => cases hresult
  | retried fault reply hkind hnamed =>
    obtain ⟨mid, hfirst, hagain⟩ := effects_exchange he
    cases hfirst
    cases effects_single hagain with
    | failed fault => cases hresult
    | create number hfree =>
      cases hresult
      rw [← hname]
      exact ⟨_, rfl, .inr ⟨hnamed, rfl⟩, snapshot_build_renamed _ number hplan⟩

/-- An inspection changes nothing and shows the container that is found. -/
theorem inspected {id : String} {snapshot : Snapshot}
    (he : Effect nodes (.inspect source.id id) (.ok snapshot) held last)
    (hfound : (held source.id).find? (·.summary.id = id) = some original) :
    last = held ∧ snapshot = original.snapshot := by
  cases he with
  | inspect hother =>
    rw [hfound] at hother
    cases hother
    exact ⟨rfl, rfl⟩

/-- What migrating the container at a position did to the containers of all nodes, with the outcome
that tells of it. -/
inductive ItemChange (keepSource : Bool) (source target : Node) (original : Held) (index : Nat)
    (held : Holdings) : Outcome → Holdings → Prop where
  | failed {outcome : Outcome} (hstage : outcome.stage.tellsCopy = false) :
      ItemChange keepSource source target original index held outcome held
  | copied {outcome : Outcome} {copy : Held}
      (hcopy : CopyTold keepSource target.displayName original index outcome.stage
        outcome.message copy)
      (hstays : keepSource = true ∨ outcome.stage ≠ .completed) :
      ItemChange keepSource source target original index held outcome
        (Function.update held target.id (held target.id ++ [copy]))
  | moved {outcome : Outcome} {copy : Held}
      (hcopy : CopyTold keepSource target.displayName original index outcome.stage
        outcome.message copy)
      (hmove : keepSource = false) (hstage : outcome.stage = .completed) :
      ItemChange keepSource source target original index held outcome
        (Function.update (Function.update held target.id (held target.id ++ [copy])) source.id
          (removeFirst original.summary.id (held source.id)))

/-- The exchanges about a container had the effect that their outcome tells. -/
theorem ItemTale.itemChange {block : List Event} {outcome : Outcome}
    (h : ItemTale keepSource source target original.summary index block outcome)
    (he : Effects nodes block held last) (hne : source.id ≠ target.id)
    (hfound : (held source.id).find? (·.summary.id = original.summary.id) = some original) :
    ItemChange keepSource source target original index held outcome last := by
  cases h with
  | notInspected fault =>
    cases effects_single he
    exact .failed rfl
  | notPlanned hplan =>
    cases effects_single he
    exact .failed rfl
  -- From here on the inspection came first, and it has shown the container itself.
  | notCreated hplan hcreation =>
    obtain ⟨mid, hinspect, hcreate⟩ := effects_exchange he
    obtain ⟨rfl, rfl⟩ := inspected hinspect hfound
    cases hcreation.unchanged hcreate
    exact .failed rfl
  | kept hplan hcreation hkeep =>
    obtain ⟨mid, hinspect, hcreate⟩ := effects_exchange he
    obtain ⟨rfl, rfl⟩ := inspected hinspect hfound
    obtain ⟨copy, rfl, hname, hsnapshot⟩ := hcreation.copy hplan hcreate
    exact .copied ⟨_, _, hname, .kept hkeep, rfl, hsnapshot⟩ (.inl hkeep)
  | removed hplan hcreation hmove =>
    obtain ⟨mid, hinspect, hrest⟩ := effects_exchange he
    obtain ⟨rfl, rfl⟩ := inspected hinspect hfound
    obtain ⟨mid, hcreate, hremove⟩ := effects_append hrest
    obtain ⟨copy, rfl, hname, hsnapshot⟩ := hcreation.copy hplan hcreate
    cases effects_single hremove with
    | delete hthere =>
      -- The source has not been touched by the creation.
      rw [Function.update_of_ne hne]
      exact .moved ⟨_, _, hname, .removed hmove, rfl, hsnapshot⟩ hmove rfl
  -- The copy was made, and the failed removal is in the message.
  | notRemoved hplan hcreation hmove fault =>
    obtain ⟨mid, hinspect, hrest⟩ := effects_exchange he
    obtain ⟨rfl, rfl⟩ := inspected hinspect hfound
    obtain ⟨mid, hcreate, hremove⟩ := effects_append hrest
    obtain ⟨copy, rfl, hname, hsnapshot⟩ := hcreation.copy hplan hcreate
    cases effects_single hremove
    refine .copied ⟨_, _, hname, .notRemoved hmove fault, ?_, hsnapshot⟩ (.inr (by simp))
    simp [String.append_assoc]

end Item

/-! ## §3 All containers -/

section Items

variable {keepSource : Bool} {source target : Node} {index : Nat} {originals : List Held}
  {entries : List Entry} {held last : Holdings}

/-- The container is the first one on its node with its id. -/
def FoundOn (node : String) (original : Held) (held : Holdings) : Prop :=
  (held node).find? (·.summary.id = original.summary.id) = some original

/-- What attempting the container at a position did, with the entry that tells of it. -/
def ItemDone (keepSource : Bool) (source target : Node) (index : Nat) (original : Held)
    (entry : Entry) (held last : Holdings) : Prop :=
  ∃ outcome,
    entry = outcome.entry ⟨source.id, original.summary.id⟩ source.displayName original.summary ∧
    ItemChange keepSource source target original index held outcome last

theorem itemDone_of_yields {original : Held} {entry : Entry} {events : List Event}
    {nodes : List Node} (hne : source.id ≠ target.id)
    (hyields : Yields (attempt keepSource source target index original.summary) events entry)
    (he : Effects nodes events held last) (hfound : FoundOn source.id original held) :
    ItemDone keepSource source target index original entry held last := by
  obtain ⟨outcome, hitem, rfl⟩ := yields_attempt hyields
  exact ⟨outcome, rfl, (yields_migrateItem_tale hitem).itemChange he hne hfound⟩

/-- An attempt at a container leaves the others of the source where they are. -/
theorem ItemDone.stays {original other : Held} {entry : Entry} (hne : source.id ≠ target.id)
    (h : ItemDone keepSource source target index original entry held last)
    (hmem : other ∈ held source.id) (hid : other.summary.id ≠ original.summary.id) :
    other ∈ last source.id := by
  obtain ⟨outcome, -, hchange⟩ := h
  cases hchange with
  | failed => exact hmem
  | copied => rwa [Function.update_of_ne hne]
  -- What is removed has the id of the container of the attempt.
  | moved =>
    rw [Function.update_self]
    exact (mem_removeFirst_or hmem).resolve_right hid

/-- An attempt at a container adds none to the source. -/
theorem ItemDone.sublist {original : Held} {entry : Entry} (hne : source.id ≠ target.id)
    (h : ItemDone keepSource source target index original entry held last) :
    (last source.id).Sublist (held source.id) := by
  obtain ⟨outcome, -, hchange⟩ := h
  cases hchange with
  | failed => exact List.Sublist.refl _
  | copied => rw [Function.update_of_ne hne]
  | moved =>
    rw [Function.update_self]
    exact removeFirst_sublist _ _

/-- Where all ids on the source are different, every container is found when its turn comes. -/
theorem oneByOne_itemDone (hne : source.id ≠ target.id)
    (h : OneByOne (fun index original entry held last => FoundOn source.id original held →
      ItemDone keepSource source target index original entry held last)
      index originals entries held last)
    (hids : ((held source.id).map (·.summary.id)).Nodup)
    (hthere : ∀ original ∈ originals, original ∈ held source.id)
    (hdistinct : (originals.map (·.summary.id)).Nodup) :
    OneByOne (ItemDone keepSource source target) index originals entries held last := by
  -- By induction on the items. The ids on the source stay different, and what is left of the
  -- listing is still there.
  induction h with
  | nil index held => exact .nil index held
  | @cons index original entry rest entries held mid last first others ih =>
    rw [List.map_cons, List.nodup_cons] at hdistinct
    -- The container is there and ids are different, so it is the one that is found.
    have hdone := first (find?_of_mem hids (hthere original (List.mem_cons_self ..)))
    refine .cons hdone (ih (hids.sublist ((hdone.sublist hne).map _)) ?_ hdistinct.2)
    intro other hother
    refine hdone.stays hne (hthere other (List.mem_cons_of_mem original hother)) fun hsame => ?_
    exact hdistinct.1 (hsame ▸ List.mem_map_of_mem hother)

/-- The new container of an entry: it is the copy of the one at some position among those that were
listed, counted from `index`. -/
def TellsOf (keepSource : Bool) (source target : Node) (index : Nat) (listing : List Held)
    (entry : Entry) (copy : Held) : Prop :=
  ∃ i original, listing[i]? = some original ∧ entry.key = ⟨source.id, original.summary.id⟩ ∧
    CopyTold keepSource target.displayName original (index + i) entry.stage entry.message copy

theorem TellsOf.of_take {listing : List Held} {done : Nat} {entry : Entry} {copy : Held}
    (h : TellsOf keepSource source target index (listing.take done) entry copy) :
    TellsOf keepSource source target index listing entry copy := by
  obtain ⟨i, original, hi, hkey, htold⟩ := h
  -- A position among the first ones is a position among all.
  rw [List.getElem?_take] at hi
  split at hi
  · exact ⟨i, original, hi, hkey, htold⟩
  · cases hi

/-- An attempt added a copy to the target, or its entry tells of none. -/
theorem ItemChange.at_target {original : Held} {outcome : Outcome} (hne : source.id ≠ target.id)
    (h : ItemChange keepSource source target original index held outcome last) :
    outcome.stage.tellsCopy = false ∧ last target.id = held target.id ∨
      ∃ copy, outcome.stage.tellsCopy = true ∧ last target.id = held target.id ++ [copy] ∧
        CopyTold keepSource target.displayName original index outcome.stage outcome.message
          copy := by
  cases h with
  | failed hstage => exact .inl ⟨hstage, rfl⟩
  | copied hcopy hstays => exact .inr ⟨_, hcopy.tellsCopy, Function.update_self .., hcopy⟩
  | moved hcopy hmove hstage =>
    refine .inr ⟨_, hcopy.tellsCopy, ?_, hcopy⟩
    rw [Function.update_of_ne hne.symm, Function.update_self]

/-- The containers that are new on the target are those that the entries tell of. -/
theorem copies_of_oneByOne (hne : source.id ≠ target.id)
    (h : OneByOne (ItemDone keepSource source target) index originals entries held last) :
    ∃ copies, last target.id = held target.id ++ copies ∧
      List.Forall₂ (TellsOf keepSource source target index originals)
        (entries.filter (·.stage.tellsCopy)) copies := by
  -- By induction on the items: the copy of the first one stands before those of the others.
  induction h with
  | nil index held => exact ⟨[], by simp, .nil⟩
  | @cons index original entry rest entries held mid last first others ih =>
    obtain ⟨copies, hlast, hcopies⟩ := ih
    obtain ⟨outcome, rfl, hchange⟩ := first
    -- The others are one position further on than in the listing without the first one.
    have hothers : List.Forall₂ (TellsOf keepSource source target index (original :: rest))
        (entries.filter (·.stage.tellsCopy)) copies := by
      refine hcopies.imp fun entry copy ⟨i, listed, hi, hkey, htold⟩ => ?_
      rw [Nat.add_right_comm] at htold
      exact ⟨i + 1, listed, by simpa using hi, hkey, htold⟩
    rcases hchange.at_target hne with ⟨hstage, hmid⟩ | ⟨copy, hstage, hmid, htold⟩
    · refine ⟨copies, by rw [hlast, hmid], ?_⟩
      rwa [List.filter_cons_of_neg (by simpa [Outcome.entry, Entry.of] using hstage)]
    · refine ⟨copy :: copies, by rw [hlast, hmid, List.append_assoc]; rfl, ?_⟩
      rw [List.filter_cons_of_pos (by simpa [Outcome.entry, Entry.of] using hstage)]
      exact .cons ⟨0, original, rfl, rfl, htold⟩ hothers

/-- The ids of the containers that completed entries tell of. -/
def completedIds (entries : List Entry) : List String :=
  (entries.filter (·.stage = .completed)).map (·.key.containerId)

/-- A move removes the containers of the completed entries from the source. -/
theorem source_of_oneByOne (hne : source.id ≠ target.id)
    (h : OneByOne (ItemDone false source target) index originals entries held last) :
    last source.id = removeFirsts (completedIds entries) (held source.id) := by
  -- By induction on the items: only a completed one takes its container away.
  induction h with
  | nil index held => rfl
  | @cons index original entry rest entries held mid last first others ih =>
    obtain ⟨outcome, rfl, hchange⟩ := first
    rw [ih]
    cases hchange with
    | failed hstage =>
      have hpart : outcome.stage ≠ .completed := by
        intro hdone
        simp [hdone, Stage.tellsCopy] at hstage
      simp [completedIds, Outcome.entry, Entry.of, hpart]
    | copied hcopy hstays =>
      have hpart : outcome.stage ≠ .completed := hstays.resolve_left Bool.false_ne_true
      simp [completedIds, Outcome.entry, Entry.of, hpart, hne]
    | moved hcopy hmove hstage =>
      simp [completedIds, removeFirsts, Outcome.entry, Entry.of, hstage]

/-- A copy leaves the source as it is. -/
theorem source_of_oneByOne_keep (hne : source.id ≠ target.id)
    (h : OneByOne (ItemDone true source target) index originals entries held last) :
    last source.id = held source.id := by
  -- By induction on the items: a copy is added elsewhere, and there are no moves.
  induction h with
  | nil index held => rfl
  | @cons index original entry rest entries held mid last first others ih =>
    obtain ⟨outcome, rfl, hchange⟩ := first
    rw [ih]
    cases hchange with
    | failed hstage => rfl
    | copied hcopy hstays => exact Function.update_of_ne hne ..
    | moved hcopy hmove hstage => cases hmove

theorem elsewhere_of_oneByOne {node : String} (hsource : node ≠ source.id)
    (htarget : node ≠ target.id)
    (h : OneByOne (ItemDone keepSource source target) index originals entries held last) :
    last node = held node := by
  -- By induction on the items: each of them changes the two nodes of the migration only.
  induction h with
  | nil index held => rfl
  | @cons index original entry rest entries held mid last first others ih =>
    obtain ⟨outcome, rfl, hchange⟩ := first
    rw [ih]
    cases hchange with
    | failed hstage => rfl
    | copied hcopy hstays => exact Function.update_of_ne htarget ..
    | moved hcopy hmove hstage =>
      rw [Function.update_of_ne hsource, Function.update_of_ne htarget]

end Items

/-! ## §4 The whole migration -/

/-- The state after a migration, from the state before it and its ledger: the target has one new
container for every entry that tells of one, in the order of the entries; the source has lost the
containers of the completed entries, or none at all if they were to be kept; and all other nodes
are as they were. -/
structure EndState (m : Migration) (before now : Cluster) (ledger : Ledger) : Prop where
  target : ∃ source target copies,
    endpoints before.nodes (Text.trim m.source) (Text.trim m.target) = .ok (source, target) ∧
    now.held (Text.trim m.target) = before.held (Text.trim m.target) ++ copies ∧
    List.Forall₂ (TellsOf m.keepSource source target 1 (before.held (Text.trim m.source)))
      (ledger.entries.filter (·.stage.tellsCopy)) copies
  source : now.held (Text.trim m.source) =
    if m.keepSource then before.held (Text.trim m.source)
    else (before.held (Text.trim m.source)).filter
      (·.summary.id ∉ completedIds ledger.entries)
  elsewhere : ∀ node, node ≠ Text.trim m.source → node ≠ Text.trim m.target →
    now.host? node = before.host? node

section Whole

variable {m : Migration} {before : Cluster} {cancelled : List Event → Bool} {source target : Node}
  {containers : List Container} {start : Run Cluster}

/-- Up to its first container a migration has changed nothing, and knows the source. -/
theorem Begins.held (h : m.Begins (world cancelled) before source target containers start) :
    start.state.held = before.held ∧
      containers = (before.held source.id).map (·.summary) ∧
      endpoints before.nodes (Text.trim m.source) (Text.trim m.target) = .ok (source, target) := by
  obtain ⟨nodes, hnodes, hends, -⟩ := h.registry
  -- The registry and the listing are asked before anything changes.
  have hlist := reply_list (reply .nodes before).2 source.id
  have hheld := held_reply_nodes before
  rw [hheld] at hlist
  rw [reply_nodes hnodes] at hends
  refine ⟨?_, hlist.2 containers h.listed, hends⟩
  rw [h.state]
  exact hlist.1

/-- What the attempts of a migration did, for the containers of the source up to some position. -/
theorem Begins.oneByOne (h : m.Begins (world cancelled) before source target containers start)
    (hids : ((before.held source.id).map (·.summary.id)).Nodup) (hne : source.id ≠ target.id)
    (done : Nat) :
    OneByOne (ItemDone m.keepSource source target) 1 ((before.held source.id).take done)
      ((world cancelled).attempted (attempt m.keepSource source target) 1
        (containers.take done) start).1 before.held
      ((world cancelled).attempted (attempt m.keepSource source target) 1
        (containers.take done) start).2.state.held := by
  obtain ⟨hstart, hlisted, -⟩ := h.held
  have hsome := oneByOne_attempted
    (fun index original entry held last => FoundOn source.id original held →
      ItemDone m.keepSource source target index original entry held last)
    cancelled
    (fun index original entry events nodes held last hyields heffects hfound =>
      itemDone_of_yields hne hyields heffects hfound)
    1 ((before.held source.id).take done) start
  rw [List.map_take, ← hlisted, hstart] at hsome
  -- The containers up to a position are some of those on the source, with different ids.
  have htaken : ((before.held source.id).take done).Sublist (before.held source.id) :=
    List.take_sublist done _
  exact oneByOne_itemDone hne hsome hids (fun original hmem => htaken.subset hmem)
    (hids.sublist (htaken.map _))

/-- A migration that gives a ledger did what its entries say to the containers of the source up to
some position, and nothing else. -/
theorem oneByOne_of_ledger {ledger : Ledger}
    (hids : ((before.held (Text.trim m.source)).map (·.summary.id)).Nodup)
    (hledger : ((world cancelled).run m.run before).1 = .ok ledger) :
    ∃ source target done,
      endpoints before.nodes (Text.trim m.source) (Text.trim m.target) = .ok (source, target) ∧
      source.id ≠ target.id ∧
      OneByOne (ItemDone m.keepSource source target) 1 ((before.held source.id).take done)
        ledger.entries before.held ((world cancelled).run m.run before).2.state.held := by
  obtain ⟨source, target, containers, start, hbegins⟩ := begins_of_run_ok hledger
  obtain ⟨-, -, hends⟩ := hbegins.held
  have hne := (precheck_eq_ok.mp hbegins.checked).differ
  obtain ⟨hsource, htarget⟩ := hbegins.ids
  rw [← hsource, ← htarget] at hne
  rw [← hsource] at hids
  -- The run is the attempts at the containers up to some position, and changes nothing after them.
  obtain ⟨done, written, last, -, hrun, hended⟩ := (world cancelled).run_attemptAll
    (attempt m.keepSource source target) containers start
  rw [hbegins.run_eq, hrun] at hledger ⊢
  cases hledger
  have hsteps := hbegins.oneByOne hids hne done
  rw [← hended.entries, ← hended.state] at hsteps
  exact ⟨source, target, done, hends, hne, hsteps⟩

end Whole

/-- **The ledger of a migration determines its end**, whatever the cluster holds, which calls fail
and when it is cancelled: if the containers of the source have different ids, then the containers
of all nodes after the migration are those before it, changed as its ledger says. -/
theorem end_state_of_ledger (m : Migration) (before : Cluster) (cancelled : List Event → Bool)
    {ledger : Ledger} (hids : ((before.held (Text.trim m.source)).map (·.summary.id)).Nodup)
    (hledger : ((world cancelled).run m.run before).1 = .ok ledger) :
    EndState m before ((world cancelled).run m.run before).2.state ledger := by
  obtain ⟨source, target, done, hends, hne, hsteps⟩ := oneByOne_of_ledger hids hledger
  obtain ⟨hsource, htarget⟩ := ids_of_endpoints hends
  obtain ⟨copies, hcopies, htold⟩ := copies_of_oneByOne hne hsteps
  obtain ⟨-, -, -, -, hframe⟩ := run_effects cancelled m.run ⟨before, []⟩
  -- The target, the source and all other nodes, each by its own induction over the items.
  refine ⟨⟨source, target, copies, hends, ?_, ?_⟩, ?_, fun node hnotSource hnotTarget => ?_⟩
  · rw [← htarget]
    exact hcopies
  · rw [← hsource]
    exact htold.imp fun entry copy hcopy => hcopy.of_take
  · rw [← hsource] at hids ⊢
    cases hkeep : m.keepSource with
    | true =>
      rw [hkeep] at hsteps
      rw [source_of_oneByOne_keep hne hsteps, if_pos rfl]
    | false =>
      rw [hkeep] at hsteps
      rw [source_of_oneByOne hne hsteps, removeFirsts_eq_filter _ hids, if_neg Bool.false_ne_true]
  · rw [← hsource] at hnotSource
    rw [← htarget] at hnotTarget
    exact host?_eq_of_frame hframe (elsewhere_of_oneByOne hnotSource hnotTarget hsteps)

set_option maxRecDepth 4000 in
/-- The first container of the sample got another name on the target and left the source. The
second one is on both nodes. -/
theorem sample_end_state_of_ledger :
    ((Cluster.sample.held (Text.trim sample.source)).map (·.summary.id)).Nodup ∧
      ((world fun _ => false).run sample.run Cluster.sample).1 = .ok sampleLedger ∧
      (((world fun _ => false).run sample.run Cluster.sample).2.state.held "b").map
        (·.snapshot.name) = [some "web", some "web-migrated-1", some "db"] ∧
      EndState sample Cluster.sample ((world fun _ => false).run sample.run Cluster.sample).2.state
        sampleLedger := by
  have hids : ((Cluster.sample.held (Text.trim sample.source)).map (·.summary.id)).Nodup := by
    decide
  have hledger : ((world fun _ => false).run sample.run Cluster.sample).1 = .ok sampleLedger := rfl
  exact ⟨hids, hledger, rfl,
    end_state_of_ledger sample Cluster.sample (fun _ => false) hids hledger⟩

end Migration

end Flotilla
