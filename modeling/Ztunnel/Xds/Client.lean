/-
  Ztunnel.Xds.Client

  The delta ADS client of src/xds/client.rs, as a machine.  What it keeps
  across connections is modelled: the resources it knows, the oneshot
  senders of the on-demand waiters (`pending`), the demand channel, the
  readiness sender it holds until the first responses came
  (`block_ready`), and the types whose first response it still waits for
  (`types_to_expect`).  The steps are the branches of the loop of
  `run_internal`: a demand taken from the channel, a response handled and
  answered, and the end of a connection; and the callers of
  `Demander::demand`.

  A handler is code of the program's user: the outcome of its `handle` on
  a response is the `handler_ok` of the step, and whether each resource's
  bytes decode is part of the response.  Two records stand for what the
  client does to the world outside it.  `demands` are the keys the callers
  demanded, in order, so that the receiver of the `n`-th demand is waiter
  `n`; its `recv()` completes once its sender is gone from the channel and
  from `pending`, sent or dropped.  `handled` are the responses given to
  their handler, with the signal sent back: the proxy cache the handlers
  update has applied them.  The outbound request stream, the TLS and gRPC
  plumbing, the backoffs and the metrics are not modelled.
-/

import Ztunnel.Lib.HashMap
import Ztunnel.Lib.Machine

namespace Ztunnel

namespace Xds

structure ResourceKey where
  name : String
  type_url : String
  deriving DecidableEq, Repr

/-- A resource of a response: its name, and whether `decode_proto` decodes
    its bytes. -/
structure ProtoResource where
  name : String
  decodes : Bool
  deriving DecidableEq, Repr

structure DeltaDiscoveryResponse where
  type_url : String
  resources : List ProtoResource
  removed_resources : List String
  deriving DecidableEq, Repr

structure DeltaDiscoveryRequest where
  type_url : String
  resource_names_subscribe : List String
  deriving DecidableEq, Repr

inductive XdsSignal where
  | Ack
  | Nack
  deriving DecidableEq, Repr

/-- The part of `Config` the client's loop reads: the types with a
    handler, the initial requests, and whether on-demand is on.  Each
    initial request is of a type with a handler: `with_watched_handler`
    adds both. -/
structure Config where
  handlers : HashSet String
  initial_requests : List DeltaDiscoveryRequest
  on_demand : Bool
  watched : ∀ r ∈ initial_requests, r.type_url ∈ handlers

namespace Config

def new (on_demand : Bool) : Config :=
  { handlers := ∅, initial_requests := [], on_demand := on_demand, watched := by simp }

/-- Subscribing to `*` and unsubscribing from it at once subscribes to
    nothing, the start of an on-demand type. -/
def construct_initial_request (c : Config) (request_type : String) (no_on_demand : Bool) :
    DeltaDiscoveryRequest :=
  if !no_on_demand && c.on_demand then ⟨request_type, ["*"]⟩ else ⟨request_type, []⟩

/-- A handler for `type_url`, with its `no_on_demand()`. -/
def with_watched_handler (c : Config) (type_url : String) (no_on_demand : Bool) : Config where
  handlers := insert type_url c.handlers
  initial_requests := c.initial_requests ++ [c.construct_initial_request type_url no_on_demand]
  on_demand := c.on_demand
  watched r hr := by
    rcases List.mem_append.mp hr with hr | hr
    · exact Finset.mem_insert_of_mem (c.watched r hr)
    · rw [List.mem_singleton] at hr
      subst hr
      unfold construct_initial_request
      split <;> exact Finset.mem_insert_self _ _

end Config

structure State where
  /-- type_url to names -/
  known_resources : HashMap String (HashSet String)
  /-- the waiter whose oneshot sender is kept for a key -/
  pending : HashMap ResourceKey Nat
  /-- the demand channel: waiter and key -/
  demand : List (Nat × ResourceKey)

namespace State

variable (s : State)

def notify_on_demand (key : ResourceKey) : State :=
  { s with pending := s.pending.erase key }

def add_resource (type_url name : String) : State :=
  { s with known_resources := s.known_resources.upsert type_url fun set => insert name (set.getD ∅) }

/-- The known names of a type lose a removed one. -/
def remove_known (key : ResourceKey) : State :=
  match s.known_resources.lookup key.type_url with
  | some rm => { s with known_resources := s.known_resources.insert key.type_url (rm.erase key.name) }
  | none => s

end State

/-- `HandlerWrapper::handle`: the handler is called first, then the known
    resources are updated and the waiters of each removed or received
    resource notified.  It fails when the handler or a decode did. -/
def handle (s : State) (res : DeltaDiscoveryResponse) (handler_ok : Bool) : State × Except Unit Unit :=
  let s := res.removed_resources.foldl
    (fun s name => (s.remove_known ⟨name, res.type_url⟩).notify_on_demand ⟨name, res.type_url⟩) s
  let s := res.resources.foldl
    (fun s r => (s.notify_on_demand ⟨r.name, res.type_url⟩).add_resource res.type_url r.name) s
  (s, if handler_ok && res.resources.all (·.decodes) then .ok () else .error ())

/-- A response given to its handler, and the signal sent back (`none`
    when the send failed). -/
structure Handled where
  response : DeltaDiscoveryResponse
  sent : Option XdsSignal
  deriving DecidableEq, Repr

structure AdsClient where
  config : Config
  state : State
  /-- whether the `block_ready` sender is still held -/
  block_ready : Bool
  connection_id : Nat
  types_to_expect : HashSet String

namespace AdsClient

def is_initial_request_on_demand (r : DeltaDiscoveryRequest) : Bool :=
  !r.resource_names_subscribe.isEmpty

def new (config : Config) : AdsClient where
  config := config
  state := { known_resources := ∅, pending := ∅, demand := [] }
  block_ready := true
  connection_id := 0
  types_to_expect :=
    ((config.initial_requests.filter fun e => !is_initial_request_on_demand e).map
      (·.type_url)).toFinset

/-- The capacity of the demand channel, `mpsc::channel(100)`. -/
def demandCapacity : Nat := 100

end AdsClient

/-- The client with the callers and the handlers around it. -/
structure XdsSystem where
  client : AdsClient
  demands : List ResourceKey
  handled : List Handled

inductive XdsEvent where
  /-- a caller's `Demander::demand` -/
  | demand (key : ResourceKey)
  /-- `handle_demand_event` on the oldest demand -/
  | demand_event
  /-- a response, what its handler returns, and whether the answer is sent -/
  | response (res : DeltaDiscoveryResponse) (handler_ok : Bool) (send_ok : Bool)
  /-- the stream ended or failed, and `run` connects again -/
  | reconnect

namespace XdsSystem

variable (x : XdsSystem)

/-- `Demander::demand`: a new oneshot, whose sender goes into the demand
    channel. -/
def demand (key : ResourceKey) : XdsSystem :=
  { x with client := { x.client with state := { x.client.state with
             demand := x.client.state.demand ++ [(x.demands.length, key)] } },
           demands := x.demands ++ [key] }

/-- `handle_demand_event`: the sender is kept under its key, dropping the
    one kept before, and the resource becomes known. -/
def demand_event : XdsSystem :=
  match x.client.state.demand with
  | [] => x
  | (tx, demand_event) :: rest =>
    let s := { x.client.state with demand := rest,
                                   pending := x.client.state.pending.insert demand_event tx }
    { x with client := { x.client with
        state := s.add_resource demand_event.type_url demand_event.name } }

/-- `handle_stream_event`: the handler of the response's type is given
    it, and an ACK or a NACK goes back; an unknown type is answered
    without a handler. -/
def handle_stream_event (res : DeltaDiscoveryResponse) (handler_ok send_ok : Bool) :
    XdsSystem × XdsSignal :=
  if res.type_url ∈ x.client.config.handlers then
    let (s, r) := handle x.client.state res handler_ok
    let response_type := match r with
      | .ok () => XdsSignal.Ack
      | .error () => XdsSignal.Nack
    ({ x with client := { x.client with state := s },
              handled := x.handled ++ [⟨res, if send_ok then some response_type else none⟩] },
      response_type)
  else (x, .Ack)

/-- A type's first response was ACKed: once no type is expected any more,
    the readiness sender is dropped. -/
def remove_expected (received_type : String) : XdsSystem :=
  let types_to_expect := x.client.types_to_expect.erase received_type
  { x with client := { x.client with
      types_to_expect := types_to_expect,
      block_ready := if types_to_expect = ∅ then false else x.client.block_ready } }

/-- A response in the loop of `run_internal`; a failed send ends the
    connection. -/
def response (res : DeltaDiscoveryResponse) (handler_ok send_ok : Bool) : XdsSystem :=
  -- the type is recorded before handling, while some type is expected
  let received_type := if x.client.types_to_expect = ∅ then none else some res.type_url
  match x.handle_stream_event res handler_ok send_ok, send_ok, received_type with
  | (x, .Ack), true, some received_type => x.remove_expected received_type
  | (x, _), _, _ => x

def reconnect : XdsSystem :=
  { x with client := { x.client with connection_id := x.client.connection_id + 1 } }

def Enabled (x : XdsSystem) : XdsEvent → Prop
  -- there is a `Demander` only with on-demand on, and its send waits for room
  | .demand _ => x.client.config.on_demand = true ∧
      x.client.state.demand.length < AdsClient.demandCapacity
  | .demand_event => x.client.state.demand ≠ []
  | _ => True

def step (x : XdsSystem) : XdsEvent → Except String XdsSystem
  | .demand key => .ok (x.demand key)
  | .demand_event => .ok x.demand_event
  | .response res handler_ok send_ok => .ok (x.response res handler_ok send_ok)
  | .reconnect => .ok x.reconnect

end XdsSystem

/-- The client started by `Config::build`, with no demand made yet. -/
def adsClient (config : Config) : Machine XdsSystem XdsEvent where
  init := { client := AdsClient.new config, demands := [], handled := [] }
  Enabled := XdsSystem.Enabled
  step := XdsSystem.step

-- ============================================================================
-- What a response does
-- ============================================================================

namespace XdsSystem

variable (x : XdsSystem) (res : DeltaDiscoveryResponse) (handler_ok send_ok : Bool)

/-- Handling a response changes neither the configuration nor the
    readiness bookkeeping, and logs the response when its type has a
    handler; a type without one is ACKed. -/
theorem handle_stream_event_spec {x' : XdsSystem} {sig : XdsSignal}
    (h : x.handle_stream_event res handler_ok send_ok = (x', sig)) :
    x'.client.config = x.client.config ∧ x'.client.types_to_expect = x.client.types_to_expect ∧
      x'.client.block_ready = x.client.block_ready ∧
      (res.type_url ∈ x.client.config.handlers →
        x'.handled = x.handled ++ [⟨res, if send_ok then some sig else none⟩]) ∧
      (res.type_url ∉ x.client.config.handlers → x'.handled = x.handled ∧ sig = .Ack) := by
  unfold handle_stream_event at h
  split at h
  · rename_i hh
    cases hr : handle x.client.state res handler_ok with
    | mk s r =>
      simp only [hr] at h
      cases h
      exact ⟨rfl, rfl, rfl, fun _ => rfl, fun hn => absurd hh hn⟩
  · rename_i hh
    cases h
    exact ⟨rfl, rfl, rfl, fun hin => absurd hin hh, fun _ => ⟨rfl, rfl⟩⟩

/-- The response step is the handling, followed by the readiness
    bookkeeping when the type was expected, its response ACKed, and the ACK
    sent. -/
theorem response_eq {x' : XdsSystem} {sig : XdsSignal}
    (h : x.handle_stream_event res handler_ok send_ok = (x', sig)) :
    x.response res handler_ok send_ok =
      if send_ok = true ∧ sig = .Ack ∧ x.client.types_to_expect ≠ ∅ then
        x'.remove_expected res.type_url
      else x' := by
  unfold response
  rw [h]
  by_cases he : x.client.types_to_expect = ∅
  · simp only [he, if_true]
    cases sig <;> cases send_ok <;> simp
  · simp only [he, if_false]
    cases sig <;> cases send_ok <;> simp [he]

end XdsSystem

end Xds

end Ztunnel
