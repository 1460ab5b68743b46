/-
  Ztunnel.Xds.ClientInv

  The readiness gate and the on-demand waiters of the ADS client.

  `ReadyInv` is what the readiness bookkeeping keeps over any run, through
  reconnects, NACKs and failed sends: each non-on-demand initial type that
  is no longer expected has had a response handled and its ACK sent, and
  the readiness sender is dropped only once no type is expected.  Hence
  readiness is released only after every such type's first ACKed response
  (`ready_only_after_acks`).

  An on-demand waiter is not so well kept.  The sender a demand leaves in
  `pending` replaces the one an earlier demand of the same key left there,
  and dropping that one completes the earlier waiter's `recv()` with
  nothing applied (`early_wake_on_second_demand`).
-/

import Ztunnel.Xds.Client

namespace Ztunnel

namespace Xds

/-- The configuration `ProxyStateManager::new` builds: the address type,
    on demand when on-demand is on, and the authorization type, never on
    demand. -/
def ztunnelConfig (on_demand : Bool) : Config :=
  ((Config.new on_demand).with_watched_handler "type.googleapis.com/istio.workload.Address"
    false).with_watched_handler "type.googleapis.com/istio.security.Authorization" true

namespace XdsSystem

-- ============================================================================
-- The readiness gate
-- ============================================================================

/-- A response was handled and its ACK sent for each non-on-demand initial
    type no longer expected, and readiness is released only once no type
    is expected. -/
structure ReadyInv (config : Config) (x : XdsSystem) : Prop where
  config_eq : x.client.config = config
  acked : ∀ r ∈ config.initial_requests, AdsClient.is_initial_request_on_demand r = false →
    r.type_url ∉ x.client.types_to_expect →
    ∃ e ∈ x.handled, e.response.type_url = r.type_url ∧ e.sent = some .Ack
  released : x.client.block_ready = false → x.client.types_to_expect = ∅

variable {config : Config} {x : XdsSystem}

theorem readyInv_init (config : Config) : ReadyInv config (adsClient config).init where
  config_eq := rfl
  acked r hr hnd hnot := by
    -- every non-on-demand initial type is expected at the start
    exfalso
    apply hnot
    simp only [adsClient, AdsClient.new, List.mem_toFinset, List.mem_map, List.mem_filter]
    exact ⟨r, ⟨hr, by simp [hnd]⟩, rfl⟩
  released h := by
    simp [adsClient, AdsClient.new] at h

/-- A step that keeps the configuration and the readiness bookkeeping and
    only adds to the log keeps the invariant. -/
theorem ReadyInv.of_log (hi : ReadyInv config x) {x' : XdsSystem}
    (hconf : x'.client.config = x.client.config)
    (htypes : x'.client.types_to_expect = x.client.types_to_expect)
    (hblock : x'.client.block_ready = x.client.block_ready)
    (hlog : ∀ e ∈ x.handled, e ∈ x'.handled) : ReadyInv config x' where
  config_eq := hconf.trans hi.config_eq
  acked r hr hnd hnot := by
    rw [htypes] at hnot
    obtain ⟨e, he, htype, hsent⟩ := hi.acked r hr hnd hnot
    exact ⟨e, hlog e he, htype, hsent⟩
  released h := htypes ▸ hi.released (hblock ▸ h)

/-- An expected type whose ACKed response is logged stops being expected. -/
theorem ReadyInv.remove_expected (hi : ReadyInv config x) {t : String}
    (hne : x.client.types_to_expect ≠ ∅)
    (hack : ∀ r ∈ config.initial_requests, r.type_url = t →
      ∃ e ∈ x.handled, e.response.type_url = t ∧ e.sent = some .Ack) :
    ReadyInv config (x.remove_expected t) where
  config_eq := hi.config_eq
  acked r hr hnd hnot := by
    simp only [XdsSystem.remove_expected, Finset.mem_erase, not_and_or, not_not] at hnot
    rcases hnot with rfl | hnot
    · exact hack r hr rfl
    · exact hi.acked r hr hnd hnot
  released h := by
    simp only [XdsSystem.remove_expected] at h ⊢
    split at h
    · assumption
    · -- readiness was not released before, as some type was expected
      exact absurd (hi.released h) hne

theorem ReadyInv.response (hi : ReadyInv config x) (res : DeltaDiscoveryResponse)
    (handler_ok send_ok : Bool) : ReadyInv config (x.response res handler_ok send_ok) := by
  cases hh : x.handle_stream_event res handler_ok send_ok with
  | mk x' sig =>
    obtain ⟨hconf, htypes, hblock, hin, hout⟩ := handle_stream_event_spec x res handler_ok send_ok hh
    have hlog : ∀ e ∈ x.handled, e ∈ x'.handled := by
      by_cases ht : res.type_url ∈ x.client.config.handlers
      · rw [hin ht]
        exact fun e he => List.mem_append_left _ he
      · rw [(hout ht).1]
        exact fun e he => he
    have hi' : ReadyInv config x' := hi.of_log hconf htypes hblock hlog
    rw [response_eq x res handler_ok send_ok hh]
    split
    · rename_i hc
      obtain ⟨hsend, hsig, hne⟩ := hc
      refine hi'.remove_expected (htypes ▸ hne) fun r hr ht => ?_
      -- an initial type has a handler, so its ACKed response was logged
      have hhandler : res.type_url ∈ x.client.config.handlers := by
        rw [hi.config_eq, ← ht]
        exact config.watched r hr
      refine ⟨⟨res, some .Ack⟩, ?_, rfl, rfl⟩
      rw [hin hhandler, hsend, hsig]
      exact List.mem_append_right _ (List.mem_singleton_self _)
    · exact hi'

theorem ReadyInv.step (hi : ReadyInv config x) {e : XdsEvent} {x' : XdsSystem}
    (hs : x.step e = .ok x') : ReadyInv config x' := by
  cases e with
  | demand key =>
    cases hs
    exact hi.of_log rfl rfl rfl fun _ he => he
  | demand_event =>
    cases hs
    unfold demand_event
    split
    · exact hi
    · exact hi.of_log rfl rfl rfl fun _ he => he
  | response res handler_ok send_ok =>
    cases hs
    exact hi.response res handler_ok send_ok
  | reconnect =>
    cases hs
    exact hi.of_log rfl rfl rfl fun _ he => he

theorem readyInv_of_reachable (h : (adsClient config).Reachable x) : ReadyInv config x :=
  Machine.Reachable.inv (ReadyInv config) (readyInv_init config)
    (fun _ _ _ hi _ hs => hi.step hs) h

theorem ready_only_after_acks (config : Config) {x : XdsSystem} (h : (adsClient config).Reachable x)
    (hready : x.client.block_ready = false) :
    ∀ r ∈ config.initial_requests, AdsClient.is_initial_request_on_demand r = false →
      ∃ e ∈ x.handled, e.response.type_url = r.type_url ∧ e.sent = some .Ack := by
  have hi := readyInv_of_reachable h
  intro r hr hnd
  apply hi.acked r hr hnd
  rw [hi.released hready]
  exact Finset.notMem_empty _

/-- A first response of each type, both ACKed. -/
def bothAcked : XdsSystem :=
  (((adsClient (ztunnelConfig false)).init.response
      ⟨"type.googleapis.com/istio.workload.Address", [⟨"ns/reviews", true⟩], []⟩ true true).response
    ⟨"type.googleapis.com/istio.security.Authorization", [], []⟩ true true)

theorem bothAcked_reachable : (adsClient (ztunnelConfig false)).Reachable bothAcked :=
  .step (.response _ true true) (.step (.response _ true true) .init trivial rfl) trivial rfl

theorem ready_only_after_acks_bothAcked :
    ∃ e ∈ bothAcked.handled, e.response.type_url = "type.googleapis.com/istio.workload.Address" ∧
      e.sent = some .Ack :=
  ready_only_after_acks (ztunnelConfig false) bothAcked_reachable (by decide)
    ⟨"type.googleapis.com/istio.workload.Address", []⟩ (by decide) rfl

-- ============================================================================
-- On-demand waiters
-- ============================================================================

/-- The receiver of the `n`-th demand has completed: its sender is neither
    in the demand channel nor kept in `pending`, so it was sent or dropped. -/
def Completed (x : XdsSystem) (n : Nat) : Prop :=
  n < x.demands.length ∧ n ∉ x.client.state.demand.map Prod.fst ∧
    n ∉ x.client.state.pending.entries.map Sigma.snd

instance (x : XdsSystem) (n : Nat) : Decidable (x.Completed n) :=
  inferInstanceAs (Decidable (_ ∧ _ ∧ _))

/-- Two concurrent lookups of one unknown address demand it twice, and the
    loop takes both demands before any response. -/
def twoDemands : XdsSystem :=
  let key : ResourceKey := ⟨"ns/reviews", "type.googleapis.com/istio.workload.Address"⟩
  ((((adsClient (ztunnelConfig true)).init.demand key).demand key).demand_event).demand_event

theorem twoDemands_reachable : (adsClient (ztunnelConfig true)).Reachable twoDemands :=
  .step .demand_event
    (.step .demand_event
      (.step (.demand _) (.step (.demand _) .init ⟨rfl, by decide⟩ rfl) ⟨rfl, by decide⟩ rfl)
      (List.cons_ne_nil _ _) rfl)
    (List.cons_ne_nil _ _) rfl

/-- The first waiter has completed though no response was handled: the
    second demand's sender replaced its own in `pending`. -/
theorem early_wake_on_second_demand :
    (adsClient (ztunnelConfig true)).Reachable twoDemands ∧ twoDemands.Completed 0 ∧
      twoDemands.demands[0]? = some ⟨"ns/reviews", "type.googleapis.com/istio.workload.Address"⟩ ∧
      twoDemands.handled = [] :=
  ⟨twoDemands_reachable, by decide, rfl, rfl⟩

end XdsSystem

end Xds

end Ztunnel
