import Flotilla.Proofs.Cluster.Calls
import Flotilla.Proofs.Turns

/-!
# What the Events of a Run Did to a Cluster

The events of a run tell what became of the containers: every call that succeeded had its effect,
and every call that failed had none.

- `Effects`: what the events did to the containers of all nodes.
- `run_effects`: what a program did to the containers can be read off the events of its run,
  and it left the frame of the cluster alone, which is its nodes.
- `OneByOne`: the same for attempts at items, one after the other, with their entries.
-/

namespace Flotilla.Cluster

/-! ## §1 What no call changes -/

/-- The registry and the names of the nodes that can be reached. -/
def frame (k : Cluster) : List Node × List String :=
  (k.nodes, k.hosts.map (·.1))

theorem frame_setHost (k : Cluster) (node : String) (new : List Held) :
    (k.setHost node new).frame = k.frame := by
  simp [frame, setHost]

theorem frame_change (k : Cluster) (node id : String) (f : List Held → List Held) :
    (k.change node id f).2.frame = k.frame := by
  unfold change
  -- A change that fails leaves the whole cluster alone, and one that is made replaces a host.
  cases k.host? node with
  | none => rfl
  | some list =>
    simp only
    split
    · exact frame_setHost k node _
    · rfl

theorem frame_perform (c : Call) (k : Cluster) : (k.perform c).2.frame = k.frame := by
  -- Looking changes nothing, and every change is made to the containers of a host.
  cases c with
  | nodes | list | inspect => rfl
  | start node id | stop node id | delete node id => exact frame_change k node id _
  | create node plan =>
    cases hhost : k.host? node with
    | none => simp only [perform, hhost]
    | some list =>
      simp only [perform, hhost]
      split
      · rfl
      · exact frame_setHost k node _

theorem frame_reply (c : Call) (k : Cluster) : (reply c k).2.frame = k.frame := by
  rcases reply_cases c k with ⟨fault, rules, h⟩ | h
  · rw [h]
    rfl
  · rw [h]
    exact frame_perform c k

/-! ## §2 The effects of a run -/

/-- What the events of a run did to the containers. -/
inductive Effects (nodes : List Node) : List Event → Holdings → Holdings → Prop where
  | nil (held : Holdings) : Effects nodes [] held held
  | exchange {c : Call} {reply : c.Reply} {events : List Event} {held mid last : Holdings}
      (first : Effect nodes c reply held mid) (others : Effects nodes events mid last) :
      Effects nodes (.exchange c reply :: events) held last
  | refreshed {events : List Event} {held last : Holdings}
      (others : Effects nodes events held last) : Effects nodes (.refreshed :: events) held last

theorem effects_nil {nodes : List Node} {held last : Holdings} (h : Effects nodes [] held last) :
    last = held := by
  cases h
  rfl

theorem effects_exchange {nodes : List Node} {c : Call} {reply : c.Reply} {events : List Event}
    {held last : Holdings} (h : Effects nodes (.exchange c reply :: events) held last) :
    ∃ mid, Effect nodes c reply held mid ∧ Effects nodes events mid last := by
  cases h with
  | exchange first others => exact ⟨_, first, others⟩

theorem effects_single {nodes : List Node} {c : Call} {reply : c.Reply} {held last : Holdings}
    (h : Effects nodes [.exchange c reply] held last) : Effect nodes c reply held last := by
  obtain ⟨mid, hfirst, hnil⟩ := effects_exchange h
  cases effects_nil hnil
  exact hfirst

theorem effects_append {nodes : List Node} {events more : List Event} {held last : Holdings}
    (h : Effects nodes (events ++ more) held last) :
    ∃ mid, Effects nodes events held mid ∧ Effects nodes more mid last := by
  -- By induction on the first events; a refresh is passed over and the containers stay as they are.
  induction events generalizing held with
  | nil => exact ⟨held, .nil held, h⟩
  | cons event rest ih =>
    cases h with
    | exchange first others =>
      obtain ⟨mid, hrest, hmore⟩ := ih others
      exact ⟨mid, .exchange first hrest, hmore⟩
    | refreshed others =>
      obtain ⟨mid, hrest, hmore⟩ := ih others
      exact ⟨mid, .refreshed hrest, hmore⟩

variable {α : Type}

/-- What a program does to the containers can be read off its events, which are one of its
histories, and it leaves the frame of the cluster alone. -/
theorem run_effects (cancelled : List Event → Bool) (p : Remote α) (r : Run Cluster) :
    ∃ events, (p.run (world cancelled).answer r).2.events = r.events ++ events ∧
      Remote.Yields p events (p.run (world cancelled).answer r).1 ∧
      Effects r.state.nodes events r.state.held
        (p.run (world cancelled).answer r).2.state.held ∧
      (p.run (world cancelled).answer r).2.state.frame = r.state.frame := by
  -- By induction on the program, with the run arbitrary: the rest of it goes on from where the
  -- first operation leaves the cluster.
  induction p generalizing r with
  | done a => exact ⟨[], by simp, .done a, .nil _, rfl⟩
  | ask op next ih =>
    cases op with
    | call c =>
      obtain ⟨events, happ, hyields, heffects, hframe⟩ :=
        ih _ ((world cancelled).answer (.call c) r).2
      -- The call has its effect, and the rest goes on in the same frame.
      have hsame : (reply c r.state).2.frame = r.state.frame := frame_reply c r.state
      have hnodes : (reply c r.state).2.nodes = r.state.nodes := congrArg Prod.fst hsame
      refine ⟨.exchange c (reply c r.state).1 :: events, happ.trans (by simp [World.answer]),
        .call _ hyields, ?_, hframe.trans hsame⟩
      refine .exchange (effect_reply c r.state) ?_
      rw [← hnodes]
      exact heffects
    | cancelled =>
      obtain ⟨events, happ, hyields, heffects⟩ := ih _ ((world cancelled).answer .cancelled r).2
      exact ⟨events, happ, .cancelled _ hyields, heffects⟩
    | clock =>
      obtain ⟨events, happ, hyields, heffects⟩ := ih _ ((world cancelled).answer .clock r).2
      exact ⟨events, happ, .clock _ hyields, heffects⟩
    | refresh =>
      obtain ⟨events, happ, hyields, heffects, hframe⟩ :=
        ih _ ((world cancelled).answer .refresh r).2
      exact ⟨.refreshed :: events, happ.trans (by simp [World.answer]), .refresh hyields,
        .refreshed heffects, hframe⟩

/-! ## §3 The nodes after a run -/

theorem isSome_host? (k : Cluster) (node : String) :
    (k.host? node).isSome = decide (node ∈ k.hosts.map (·.1)) := by
  unfold host?
  rw [Option.isSome_map, List.isSome_find?]
  simp [List.any_eq]

/-- Where the frame and the containers of a node are the same, the node is the same. -/
theorem host?_eq_of_frame {k k' : Cluster} {node : String} (hframe : k'.frame = k.frame)
    (hheld : k'.held node = k.held node) : k'.host? node = k.host? node := by
  have hnames : k'.hosts.map (·.1) = k.hosts.map (·.1) := congrArg Prod.snd hframe
  have hboth : (k'.host? node).isSome = (k.host? node).isSome := by
    rw [isSome_host?, isSome_host?, hnames]
  -- `held` does not tell a node that cannot be reached from an empty one, so the names decide that.
  unfold held at hheld
  cases hold : k.host? node with
  | none =>
    rw [hold] at hboth
    simpa using hboth
  | some list =>
    rw [hold] at hboth hheld
    obtain ⟨new, hnew⟩ := Option.isSome_iff_exists.mp hboth
    rw [hnew] at hheld ⊢
    exact congrArg some hheld

/-! ## §4 Items in turn -/

section Items

variable {ι κ : Type}

/-- Items from a position on are attempted one after the other: `item` ties each of them, with its
position, to its entry and to the containers before and after it. -/
inductive OneByOne (item : Nat → ι → Entry → Holdings → Holdings → Prop) :
    Nat → List ι → List Entry → Holdings → Holdings → Prop where
  | nil (index : Nat) (held : Holdings) : OneByOne item index [] [] held held
  | cons {index : Nat} {a : ι} {entry : Entry} {rest : List ι} {entries : List Entry}
      {held mid last : Holdings} (first : item index a entry held mid)
      (others : OneByOne item (index + 1) rest entries mid last) :
      OneByOne item index (a :: rest) (entry :: entries) held last

/-- What follows for each item from one of its histories and from the effects of its events holds
of all items in turn. -/
theorem oneByOne_attempted (item : Nat → ι → Entry → Holdings → Holdings → Prop)
    {attempt : Nat → κ → Remote Entry} {f : ι → κ} (cancelled : List Event → Bool)
    (hitem : ∀ index a entry events nodes held last,
      Remote.Yields (attempt index (f a)) events entry → Effects nodes events held last →
        item index a entry held last)
    (index : Nat) (items : List ι) (r : Run Cluster) :
    OneByOne item index items ((world cancelled).attempted attempt index (items.map f) r).1
      r.state.held ((world cancelled).attempted attempt index (items.map f) r).2.state.held := by
  -- By induction on the items: each of them finds the containers as the one before left them.
  induction items generalizing index r with
  | nil => exact .nil index r.state.held
  | cons a rest ih =>
    obtain ⟨events, -, hyields, heffects, -⟩ := run_effects cancelled (attempt index (f a)) r
    exact .cons (hitem index a _ events _ _ _ hyields heffects) (ih (index + 1) _)

end Items

end Flotilla.Cluster
