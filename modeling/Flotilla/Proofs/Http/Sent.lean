import Flotilla.Http.Client
import Flotilla.Proofs.Remote

/-!
# What Is Sent

A link can keep the requests that are sent over it. They are those for the calls that were made, in
their order, as far as a request can be made for a call. The request for a call that reads something
is a `GET`, and no other request is.
-/

namespace Flotilla

/-- Whether a call only reads. -/
def Call.isRead : Call → Bool
  | .nodes | .list _ | .inspect _ _ => true
  | .start _ _ | .stop _ _ | .delete _ _ | .create _ _ => false

namespace Http

/-- The same link, which also keeps the requests, the oldest first. -/
def Link.recorded {τ : Type} (link : Link τ) : Link (τ × List Request) where
  send := fun request s =>
    ((link.send request s.1).1, ((link.send request s.1).2, s.2 ++ [request]))

namespace Client

theorem methodOf_eq_get {call : Call} : methodOf call = .get ↔ call.isRead := by
  cases call <;> simp [methodOf, Call.isRead]

theorem method_of_request? {c : Client} {call : Call} {request : Request}
    (h : c.request? call = .ok request) : request.method = methodOf call := by
  unfold request? at h
  dsimp only at h
  -- Three tests may fail; a request that is made has the method of its call.
  split at h
  · cases h
  split at h
  · cases h
  split at h
  · cases h
  · cases h
    rfl

/-- The requests for some calls, without the calls for which none can be made. -/
def requestsFor (c : Client) (calls : List Call) : List Request :=
  calls.filterMap fun call => (c.request? call).toOption

theorem method_of_mem_requestsFor {c : Client} {calls : List Call} {request : Request}
    (hreads : ∀ call ∈ calls, call.isRead) (hmem : request ∈ c.requestsFor calls) :
    request.method = .get := by
  -- A request was made for a call, and it has the method of this call.
  obtain ⟨call, hcall, hrequest⟩ := List.mem_filterMap.mp hmem
  cases hmade : c.request? call with
  | error reason =>
    rw [hmade] at hrequest
    cases hrequest
  | ok made =>
    rw [hmade] at hrequest
    cases hrequest
    rw [method_of_request? hmade, methodOf_eq_get]
    exact hreads call hcall

variable {τ : Type}

/-- The requests that were kept are those for the calls that were made. -/
def Kept (c : Client) (r : Run (τ × List Request)) : Prop :=
  r.state.2 = c.requestsFor (callsOf r.events)

/-- Whatever a program asks for, the requests that are kept stay those for the calls. -/
theorem Kept.answer {c : Client} {link : Link τ} {cancelled : List Event → Bool}
    {clock : List Event → Instant} {r : Run (τ × List Request)} (hr : c.Kept r) (op : Remote.Op) :
    c.Kept ((c.world link.recorded cancelled clock).answer op r).2 := by
  unfold Kept at *
  cases op with
  -- A call for which no request can be made adds a call, but nothing that is sent.
  | call call =>
    simp only [World.answer, world, perform, callsOf_append, callsOf_exchange, callsOf_nil]
    cases hrequest : c.request? call with
    | error reason => simp [requestsFor, hrequest, hr, Except.toOption]
    | ok request => simp [requestsFor, hrequest, hr, Except.toOption, Link.recorded]
  | cancelled => exact hr
  | clock => exact hr
  | refresh => simpa [World.answer, callsOf_append] using hr

end Client

end Http

end Flotilla
