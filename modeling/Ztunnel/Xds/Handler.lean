/-
  Ztunnel.Xds.Handler

  How a response is handled and answered, in the detail the machine of
  `Ztunnel.Xds.Client` leaves out (src/xds/client.rs): the resources
  decoded one by one, the decoded ones and the removed names handed to the
  type's handler, the failures of both collected, and the ACK or NACK sent
  back with the response's nonce and, for a NACK, the rejected resources.

  Handlers are code of the program's user; those of ztunnel
  (`ProxyStateUpdater`'s, in src/xds.rs) are `handle_single_resource` over
  a closure that updates the proxy state, and `handle_one` stands for that
  closure, with the state it changes passed along as `σ`.  prost's
  `T::decode` is `decode`, and split_iter's `split` is taken to give the
  failures and the decoded resources each in their order.  The outbound
  request channel is the list of requests sent on it.

  `HandlerWrapper.handle_refines` ties this to the machine: on the state of
  the client it does what `handle` does there, and it fails exactly when
  `handle` does, with the handler's outcome as `handler_ok` and a resource
  decoding as its `decodes`.
-/

import Ztunnel.Xds.Client

namespace Ztunnel

namespace Xds

-- The messages of `xds::service::discovery::v3`, with the fields the
-- client reads and sets.
namespace Discovery

/-- `prost_types::Any`: the encoded message. -/
structure Any where
  value : List UInt8
  deriving DecidableEq, Repr

structure Resource where
  name : String
  resource : Option Any
  deriving DecidableEq, Repr

structure DeltaDiscoveryResponse where
  type_url : String
  nonce : String
  resources : List Resource
  removed_resources : List String
  deriving DecidableEq, Repr

/-- `google.rpc.Status`; the client sets its message only. -/
structure Status where
  message : String
  deriving DecidableEq, Repr

/-- An ACK or NACK; the fields not listed keep their defaults. -/
structure DeltaDiscoveryRequest where
  type_url : String
  response_nonce : String
  error_detail : Option Status
  deriving DecidableEq, Repr

end Discovery

/-- The `AdsError`s of `decode_proto`. -/
inductive AdsError where
  /-- "decode: {0}" -/
  | Decode (e : String)
  /-- "XDS payload without resource" -/
  | MissingResource
  deriving DecidableEq, Repr

def AdsError.to_string : AdsError → String
  | .Decode e => "decode: " ++ e
  | .MissingResource => "XDS payload without resource"

structure XdsResource (T : Type) where
  name : String
  resource : T
  deriving DecidableEq, Repr

inductive XdsUpdate (T : Type) where
  | Update (r : XdsResource T)
  | Remove (name : String)
  deriving DecidableEq, Repr

def XdsUpdate.name {T : Type} : XdsUpdate T → String
  | .Update r => r.name
  | .Remove n => n

structure RejectedConfig where
  name : String
  reason : String
  deriving DecidableEq, Repr

/-- "{name}: {reason}" -/
def RejectedConfig.to_string (r : RejectedConfig) : String := r.name ++ ": " ++ r.reason

section Handlers

variable {σ T : Type}

/-- `decode_proto`, with prost's `T::decode` as `decode`. -/
def decode_proto (decode : List UInt8 → Except String T) (resource : Discovery.Resource) :
    Except AdsError (XdsResource T) :=
  match resource.resource with
  | none => .error .MissingResource
  | some res =>
    match decode res.value with
    | .error e => .error (.Decode e)
    | .ok r => .ok ⟨resource.name, r⟩

/-- What the client's machine sees of a response: each resource's name and
    whether it decodes. -/
def Discovery.DeltaDiscoveryResponse.view (decode : List UInt8 → Except String T)
    (res : Discovery.DeltaDiscoveryResponse) : Xds.DeltaDiscoveryResponse where
  type_url := res.type_url
  resources := res.resources.map fun r => ⟨r.name, (decode_proto decode r).isOk⟩
  removed_resources := res.removed_resources

/-- The loop of `handle_single_resource`: `handle_one` is called on each
    update in turn, and the failures are collected without stopping. -/
def handleLoop (handle_one : σ → XdsUpdate T → σ × Except String Unit) :
    σ → List (XdsUpdate T) → σ × List RejectedConfig
  | st, [] => (st, [])
  | st, res :: rest =>
    let name := res.name
    let (st, r) := handle_one st res
    let (st, rejects) := handleLoop handle_one st rest
    match r with
    | .error e => (st, ⟨name, e⟩ :: rejects)
    | .ok () => (st, rejects)

def handle_single_resource (updates : List (XdsUpdate T))
    (handle_one : σ → XdsUpdate T → σ × Except String Unit) (st : σ) :
    σ × Except (List RejectedConfig) Unit :=
  let (st, rejects) := handleLoop handle_one st updates
  (st, if rejects.isEmpty then .ok () else .error rejects)

/-- A `Handler<T>`: given the updates of a response, it changes the state
    it keeps and accepts them or rejects some. -/
structure Handler (σ T : Type) where
  handle : σ → List (XdsUpdate T) → σ × Except (List RejectedConfig) Unit

/-- The handlers of ztunnel: `handle_single_resource` over a closure. -/
def Handler.ofSingle (handle_one : σ → XdsUpdate T → σ × Except String Unit) : Handler σ T where
  handle st updates := handle_single_resource updates handle_one st

/-- `RawHandler`: a handler whose type of resources is hidden. -/
structure RawHandler (σ : Type) where
  handle : State → σ → Discovery.DeltaDiscoveryResponse → State × σ × Except (List RejectedConfig) Unit

/-- A handler with the decoder of its type of resources. -/
structure HandlerWrapper (σ T : Type) where
  h : Handler σ T
  decode : List UInt8 → Except String T

/-- The four outcomes of the handler and the decoding, merged. -/
def mergeResults (result : Except (List RejectedConfig) Unit) (decode_failures : List RejectedConfig) :
    Except (List RejectedConfig) Unit :=
  match result, decode_failures.isEmpty with
  | .ok (), true => .ok ()
  | .ok (), false => .error decode_failures
  | .error rejects, true => .error rejects
  | .error rejects, false => .error (rejects ++ decode_failures)

/-- `HandlerWrapper::handle`: the handler is called first, on the decoded
    resources and then the removed names; then the client's known
    resources are updated and its waiters notified, as in `handle`. -/
def HandlerWrapper.handle (w : HandlerWrapper σ T) (state : State) (hs : σ)
    (res : Discovery.DeltaDiscoveryResponse) : State × σ × Except (List RejectedConfig) Unit :=
  let type_url := res.type_url
  let results : List (Except RejectedConfig (XdsResource T)) := res.resources.map fun raw =>
    match decode_proto w.decode raw with
    | .error err => .error ⟨raw.name, err.to_string⟩
    | .ok r => .ok r
  -- `split`: the failures and the decoded resources, each in order
  let decode_failures := results.filterMap fun r =>
    match r with
    | .error e => some e
    | .ok _ => none
  let updates := (results.filterMap fun r => r.toOption).map XdsUpdate.Update ++
    res.removed_resources.map XdsUpdate.Remove
  let (hs, result) := w.h.handle hs updates
  let state := res.removed_resources.foldl
    (fun s name => (s.remove_known ⟨name, type_url⟩).notify_on_demand ⟨name, type_url⟩) state
  let state := res.resources.foldl
    (fun s r => (s.notify_on_demand ⟨r.name, type_url⟩).add_resource type_url r.name) state
  (state, hs, mergeResults result decode_failures)

def HandlerWrapper.toRaw (w : HandlerWrapper σ T) : RawHandler σ := ⟨w.handle⟩

/-- `AdsClient::handle_stream_event`: the handler of the response's type
    handles it, and one request goes back on `send`, with the response's
    type and nonce, and for a NACK the rejected resources. -/
def AdsClient.handle_stream_event (handlers : HashMap String (RawHandler σ)) (state : State)
    (hs : σ) (send : List Discovery.DeltaDiscoveryRequest) (response : Discovery.DeltaDiscoveryResponse) :
    State × σ × List Discovery.DeltaDiscoveryRequest × XdsSignal :=
  let type_url := response.type_url
  let nonce := response.nonce
  let (state, hs, handler_response) :=
    match handlers.lookup type_url with
    | some h => h.handle state hs response
    -- "unknown type"
    | none => (state, hs, .ok ())
  let (response_type, error) :=
    match handler_response with
    | .error rejects => (XdsSignal.Nack, some ("; ".intercalate (rejects.map RejectedConfig.to_string)))
    | .ok () => (XdsSignal.Ack, none)
  (state, hs, send ++ [⟨type_url, nonce, error.map fun msg => ⟨msg⟩⟩], response_type)

/-! ## What a response gets back -/

/-- The calls `handle_one` gets over `items` from `st`, in order, each
    with what it returned. -/
def calls {α : Type} (handle_one : σ → α → σ × Except String Unit) : σ → List α → List (α × Except String Unit)
  | _, [] => []
  | st, x :: xs => (x, (handle_one st x).2) :: calls handle_one (handle_one st x).1 xs

/-- The updates among `calls` that the closure rejected, with why. -/
def rejectedCalls (handled : List (XdsUpdate T × Except String Unit)) : List RejectedConfig :=
  handled.filterMap fun c =>
    match c.2 with
    | .error e => some ⟨c.1.name, e⟩
    | .ok () => none

/-- The resources of a response that do not decode, with why. -/
def decodeFailures (decode : List UInt8 → Except String T) (res : Discovery.DeltaDiscoveryResponse) :
    List RejectedConfig :=
  res.resources.filterMap fun raw =>
    match decode_proto decode raw with
    | .error err => some ⟨raw.name, err.to_string⟩
    | .ok _ => none

/-- The updates a response brings: its resources that decode, then the
    names it removes. -/
def updatesOf (decode : List UInt8 → Except String T) (res : Discovery.DeltaDiscoveryResponse) :
    List (XdsUpdate T) :=
  (res.resources.filterMap fun raw => (decode_proto decode raw).toOption).map XdsUpdate.Update ++
    res.removed_resources.map XdsUpdate.Remove

/-- The loop calls the closure once on each update, in order, and keeps
    every failure. -/
theorem handleLoop_eq (handle_one : σ → XdsUpdate T → σ × Except String Unit) :
    ∀ (st : σ) (items : List (XdsUpdate T)),
      handleLoop handle_one st items =
        (items.foldl (fun st u => (handle_one st u).1) st, rejectedCalls (calls handle_one st items))
  | st, [] => rfl
  | st, u :: rest => by
    rw [handleLoop]
    cases h : handle_one st u with
    | mk st' r =>
      dsimp only
      rw [handleLoop_eq handle_one st' rest]
      cases r with
      | error e => simp [calls, rejectedCalls, h]
      | ok _ => simp [calls, rejectedCalls, h]

theorem handle_single_resource_eq (updates : List (XdsUpdate T))
    (handle_one : σ → XdsUpdate T → σ × Except String Unit) (st : σ) :
    handle_single_resource updates handle_one st =
      (updates.foldl (fun st u => (handle_one st u).1) st,
        let rejects := rejectedCalls (calls handle_one st updates)
        if rejects.isEmpty then .ok () else .error rejects) := by
  rw [handle_single_resource, handleLoop_eq]

theorem rejectedCalls_eq_nil_iff (handled : List (XdsUpdate T × Except String Unit)) :
    rejectedCalls handled = [] ↔ ∀ u e, (u, .error e) ∉ handled := by
  unfold rejectedCalls
  rw [List.filterMap_eq_nil_iff]
  constructor
  · intro h u e hmem
    simpa using h _ hmem
  · rintro h ⟨u, r⟩ hmem
    cases r with
    | error e => exact absurd hmem (h u e)
    | ok _ => rfl

theorem decodeFailures_eq_nil_iff (decode : List UInt8 → Except String T)
    (res : Discovery.DeltaDiscoveryResponse) :
    decodeFailures decode res = [] ↔ ∀ raw ∈ res.resources, (decode_proto decode raw).isOk = true := by
  unfold decodeFailures
  rw [List.filterMap_eq_nil_iff]
  refine forall_congr' fun raw => imp_congr_right fun _ => ?_
  cases decode_proto decode raw <;> simp [Except.isOk, Except.toBool]

/-- The result merged from the handler's and the decoding's is a failure
    with both lists of rejections, the handler's first. -/
theorem mergeResults_single (rejects decode_failures : List RejectedConfig) :
    mergeResults (if rejects.isEmpty then .ok () else .error rejects) decode_failures =
      if (rejects ++ decode_failures).isEmpty then .ok ()
      else .error (rejects ++ decode_failures) := by
  cases rejects <;> cases decode_failures <;> simp [mergeResults]

theorem mergeResults_isOk (result : Except (List RejectedConfig) Unit)
    (decode_failures : List RejectedConfig) :
    (mergeResults result decode_failures).isOk = (result.isOk && decode_failures.isEmpty) := by
  cases result <;> cases decode_failures <;> rfl

/-- The two sides of `split` are the decoding failures and the decoded
    resources, and the client's state changes as in `handle`. -/
theorem HandlerWrapper.handle_eq (w : HandlerWrapper σ T) (state : State) (hs : σ)
    (res : Discovery.DeltaDiscoveryResponse) :
    w.handle state hs res =
      ((Xds.handle state (res.view w.decode) true).1, (w.h.handle hs (updatesOf w.decode res)).1,
        mergeResults (w.h.handle hs (updatesOf w.decode res)).2 (decodeFailures w.decode res)) := by
  have hfail : ((res.resources.map fun raw =>
      match decode_proto w.decode raw with
      | .error err => (.error ⟨raw.name, err.to_string⟩ : Except RejectedConfig (XdsResource T))
      | .ok r => .ok r).filterMap fun r =>
        match r with
        | .error e => some e
        | .ok _ => none) = decodeFailures w.decode res := by
    rw [List.filterMap_map, decodeFailures]
    congr 1
    funext raw
    simp only [Function.comp_apply]
    cases decode_proto w.decode raw <;> rfl
  have hok : ((res.resources.map fun raw =>
      match decode_proto w.decode raw with
      | .error err => (.error ⟨raw.name, err.to_string⟩ : Except RejectedConfig (XdsResource T))
      | .ok r => .ok r).filterMap fun r => r.toOption) =
        res.resources.filterMap fun raw => (decode_proto w.decode raw).toOption := by
    rw [List.filterMap_map]
    congr 1
    funext raw
    simp only [Function.comp_apply]
    cases decode_proto w.decode raw <;> rfl
  simp only [HandlerWrapper.handle, Xds.handle, Discovery.DeltaDiscoveryResponse.view, List.foldl_map,
    hfail, hok, updatesOf]

theorem decodeFailures_isEmpty (decode : List UInt8 → Except String T)
    (res : Discovery.DeltaDiscoveryResponse) :
    (decodeFailures decode res).isEmpty = (res.view decode).resources.all (·.decodes) := by
  rw [Bool.eq_iff_iff, List.isEmpty_iff, decodeFailures_eq_nil_iff, List.all_eq_true]
  simp [Discovery.DeltaDiscoveryResponse.view]

/-- The detailed handling refines the machine's `handle`: the client's
    state changes alike, and the response fails exactly when `handle`
    fails, with the handler's outcome as `handler_ok`. -/
theorem HandlerWrapper.handle_refines (w : HandlerWrapper σ T) (state : State) (hs : σ)
    (res : Discovery.DeltaDiscoveryResponse) :
    let handler_ok := (w.h.handle hs (updatesOf w.decode res)).2.isOk
    (w.handle state hs res).1 = (Xds.handle state (res.view w.decode) handler_ok).1 ∧
      (w.handle state hs res).2.2.isOk =
        (Xds.handle state (res.view w.decode) handler_ok).2.isOk := by
  intro handler_ok
  rw [w.handle_eq]
  -- the state `handle` leaves does not depend on the handler's outcome
  refine ⟨rfl, ?_⟩
  rw [mergeResults_isOk, decodeFailures_isEmpty]
  simp only [Xds.handle, handler_ok]
  -- both sides are the handler's outcome and the decoding's, together
  generalize ((w.h.handle hs (updatesOf w.decode res)).2.isOk &&
    (res.view w.decode).resources.all (·.decodes)) = ok
  cases ok <;> rfl

/-- A response is rejected exactly when the closure rejected an update or
    a resource failed to decode. -/
theorem rejected_eq_nil_iff (decode : List UInt8 → Except String T)
    (handled : List (XdsUpdate T × Except String Unit)) (res : Discovery.DeltaDiscoveryResponse) :
    rejectedCalls handled ++ decodeFailures decode res = [] ↔
      (∀ u e, (u, .error e) ∉ handled) ∧ ∀ raw ∈ res.resources, (decode_proto decode raw).isOk = true := by
  rw [List.append_eq_nil_iff, rejectedCalls_eq_nil_iff, decodeFailures_eq_nil_iff]

theorem rejected_ne_nil_iff (decode : List UInt8 → Except String T)
    (handled : List (XdsUpdate T × Except String Unit)) (res : Discovery.DeltaDiscoveryResponse) :
    rejectedCalls handled ++ decodeFailures decode res ≠ [] ↔
      (∃ u e, (u, .error e) ∈ handled) ∨
        ∃ raw ∈ res.resources, (decode_proto decode raw).isOk = false := by
  rw [Ne, rejected_eq_nil_iff, not_and_or]
  simp only [not_forall, not_not, Bool.not_eq_true, exists_prop]

/-- `handle_stream_event` on a response of a type registered with a
    single-resource handler: the cache step, the handler's state after
    every update, one request sent, and the ACK or NACK. -/
theorem handle_stream_event_eq (decode : List UInt8 → Except String T)
    (handle_one : σ → XdsUpdate T → σ × Except String Unit)
    (handlers : HashMap String (RawHandler σ)) (state : State) (hs : σ)
    (send : List Discovery.DeltaDiscoveryRequest) (response : Discovery.DeltaDiscoveryResponse)
    (hreg : handlers.lookup response.type_url =
      some (HandlerWrapper.toRaw ⟨.ofSingle handle_one, decode⟩)) :
    AdsClient.handle_stream_event handlers state hs send response =
      ((Xds.handle state (response.view decode) true).1,
        (updatesOf decode response).foldl (fun st u => (handle_one st u).1) hs,
        send ++ [⟨response.type_url, response.nonce,
          if rejectedCalls (calls handle_one hs (updatesOf decode response)) ++
              decodeFailures decode response = [] then none
          else some ⟨"; ".intercalate ((rejectedCalls (calls handle_one hs
            (updatesOf decode response)) ++ decodeFailures decode response).map
              RejectedConfig.to_string)⟩⟩],
        if rejectedCalls (calls handle_one hs (updatesOf decode response)) ++
            decodeFailures decode response = [] then .Ack else .Nack) := by
  simp only [AdsClient.handle_stream_event, hreg, HandlerWrapper.toRaw, HandlerWrapper.handle_eq,
    Handler.ofSingle, handle_single_resource_eq, mergeResults_single]
  by_cases hr : rejectedCalls (calls handle_one hs (updatesOf decode response)) ++
      decodeFailures decode response = []
  · simp [hr]
  · simp [hr]

/-- The answer to a response of a type whose handler is of ztunnel's kind:
    every resource that decodes, then every removed name, goes to the
    handler's closure once, in order, whatever happens to the others; one
    request goes back, with the response's type and nonce; and it is a
    NACK, whose detail lists the updates the closure rejected and then the
    resources that did not decode, exactly when there is one of either. -/
theorem handle_stream_event_acks (decode : List UInt8 → Except String T)
    (handle_one : σ → XdsUpdate T → σ × Except String Unit)
    (handlers : HashMap String (RawHandler σ)) (state : State) (hs : σ)
    (send : List Discovery.DeltaDiscoveryRequest) (response : Discovery.DeltaDiscoveryResponse)
    (hreg : handlers.lookup response.type_url =
      some (HandlerWrapper.toRaw ⟨.ofSingle handle_one, decode⟩)) :
    let updates := updatesOf decode response
    let handled := calls handle_one hs updates
    let rejected := rejectedCalls handled ++ decodeFailures decode response
    let out := AdsClient.handle_stream_event handlers state hs send response
    out.2.1 = updates.foldl (fun st u => (handle_one st u).1) hs ∧
      ∃ req, out.2.2.1 = send ++ [req] ∧ req.type_url = response.type_url ∧
        req.response_nonce = response.nonce ∧
        req.error_detail =
          (if rejected = [] then none
           else some ⟨"; ".intercalate (rejected.map RejectedConfig.to_string)⟩) ∧
        (out.2.2.2 = .Nack ↔
          (∃ u e, (u, .error e) ∈ handled) ∨
            ∃ raw ∈ response.resources, (decode_proto decode raw).isOk = false) := by
  intro updates handled rejected out
  have hout : out = _ :=
    handle_stream_event_eq decode handle_one handlers state hs send response hreg
  refine ⟨by rw [hout], _, by rw [hout], rfl, rfl, rfl, ?_⟩
  rw [hout]
  show (if rejected = [] then XdsSignal.Ack else .Nack) = .Nack ↔ _
  by_cases hr : rejected = []
  · simp only [hr, if_true, reduceCtorEq, false_iff]
    exact fun hbad => (rejected_ne_nil_iff decode handled response).mpr hbad hr
  · simp only [hr, if_false, true_iff]
    exact (rejected_ne_nil_iff decode handled response).mp hr

end Handlers

/-- A closure that logs the names it takes and rejects the removal of
    `bad`. -/
def logNames (log : List String) : XdsUpdate Unit → List String × Except String Unit
  | .Update r => (log ++ [r.name], .ok ())
  | .Remove name => if name = "bad" then (log, .error "cannot remove") else (log ++ [name], .ok ())

/-- A decoder that rejects empty messages. -/
def decodeNonEmpty (bytes : List UInt8) : Except String Unit :=
  if bytes = [] then .error "empty" else .ok ()

def loggingHandlers : HashMap String (RawHandler (List String)) :=
  (∅ : HashMap String (RawHandler (List String))).insert "type"
    (HandlerWrapper.toRaw ⟨.ofSingle logNames, decodeNonEmpty⟩)

/-- A response with one resource that decodes, one that does not, one
    without a payload, and a removal the handler rejects. -/
def mixedResponse : Discovery.DeltaDiscoveryResponse where
  type_url := "type"
  nonce := "n1"
  resources := [⟨"a", some ⟨[1]⟩⟩, ⟨"b", some ⟨[]⟩⟩, ⟨"c", none⟩]
  removed_resources := ["bad", "d"]

/-- The resources that decode and the names removed reach the closure
    past the failures, and the answer is a NACK. -/
theorem handle_stream_event_acks_mixedResponse :
    let out := AdsClient.handle_stream_event loggingHandlers ⟨∅, ∅, []⟩ [] [] mixedResponse
    out.2.1 = ["a", "d"] ∧ out.2.2.2 = .Nack := by
  obtain ⟨hlog, -, -, -, -, -, hnack⟩ :=
    handle_stream_event_acks decodeNonEmpty logNames loggingHandlers ⟨∅, ∅, []⟩ [] [] mixedResponse rfl
  refine ⟨hlog.trans rfl, hnack.mpr (.inr ⟨⟨"b", some ⟨[]⟩⟩, by simp [mixedResponse], rfl⟩)⟩

end Xds

end Ztunnel
