import Flotilla.Program
import Flotilla.Remote.Call
import Flotilla.Time.Instant

/-!
# Remote Programs and Worlds

A remote program makes calls, asks whether the operator has cancelled the batch, reads the clock
and tells the operator's views to refresh. A world answers it: it replies to calls from a state
that the call may change, and it decides about cancellation and time from what has happened so
far. What happened is recorded as a list of events, oldest first.
-/

namespace Flotilla

/-- An operation of a remote program. -/
inductive Remote.Op where
  | call (c : Call)
  | cancelled
  | clock
  | refresh

abbrev Remote.Op.Reply : Remote.Op → Type
  | call c => c.Reply
  | cancelled => Bool
  | clock => Instant
  | refresh => Unit

abbrev Remote.interface : Interface :=
  ⟨Remote.Op, Remote.Op.Reply⟩

abbrev Remote (α : Type) : Type :=
  Program Remote.interface α

namespace Remote

def call (c : Call) : Remote c.Reply :=
  Program.request (I := interface) (.call c)

def cancelled : Remote Bool :=
  Program.request (I := interface) .cancelled

def clock : Remote Instant :=
  Program.request (I := interface) .clock

/-- Tell the operator's views that something may have changed. -/
def refresh : Remote Unit :=
  Program.request (I := interface) .refresh

end Remote

/-- Something that happened during a run. -/
inductive Event where
  /-- A call was made and replied to. -/
  | exchange (call : Call) (reply : call.Reply)
  /-- The operator's views were told to refresh. -/
  | refreshed

namespace Event

def call? : Event → Option Call
  | exchange c _ => some c
  | refreshed => none

def isRefresh : Event → Bool
  | exchange _ _ => false
  | refreshed => true

end Event

/-- The calls among events, oldest first. -/
def callsOf (events : List Event) : List Call :=
  events.filterMap Event.call?

/-- Whoever answers a remote program. -/
structure World (σ : Type) where
  /-- The reply to a call, and the state after it. -/
  reply : (c : Call) → σ → c.Reply × σ
  /-- Whether the batch is cancelled after these events. -/
  cancelled : List Event → Bool
  /-- The time after these events. -/
  clock : List Event → Instant

/-- A run so far: the state of the world and the events, oldest first. -/
structure Run (σ : Type) where
  state : σ
  events : List Event

namespace World

variable {σ α : Type}

def answer (w : World σ) : (op : Remote.Op) → Run σ → op.Reply × Run σ
  | .call c, r => ((w.reply c r.state).1,
      ⟨(w.reply c r.state).2, r.events ++ [.exchange c (w.reply c r.state).1]⟩)
  | .cancelled, r => (w.cancelled r.events, r)
  | .clock, r => (w.clock r.events, r)
  | .refresh, r => ((), ⟨r.state, r.events ++ [.refreshed]⟩)

def run (w : World σ) (p : Remote α) (s : σ) : α × Run σ :=
  Program.run (I := Remote.interface) w.answer p ⟨s, []⟩

end World

end Flotilla
