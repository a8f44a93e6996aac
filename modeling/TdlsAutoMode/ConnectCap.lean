import TdlsAutoMode.ConnCount
import TdlsAutoMode.ConnectedPeers
import TdlsAutoMode.RegistryInvariant

/-! # The connected-peer cap

`tdls_auto_discovery_response` issues `connect(addr)` only for a disconnected peer and only
while `conn_peer_count` is below `tdls_auto_max_connected_peers`
(`tdlsAutoDiscoveryResponse_connect_admitted`); the link itself comes up later, as a
`connected` event. The environment of a run is described event by event (`envHolds`): that
each `connected(a)` answers a `connect(a)` call not answered yet, that no discovery response
comes while a connect call is unanswered, that a teardown is reported only for a connected
or an untracked peer.

The first condition alone does not bound the connected peers (`connected_peers_exceed_cap`):
two discovery responses before either link is reported both pass the check, and a teardown
reported for a peer that never connected uncounts a connected one, so that the check admits
a second link even when each connect is answered before the next discovery response.

With all three the cap holds (`connected_peers_within_cap`). The invariant `CapInv` counts
the connect calls not answered yet against the cap: the count and the unanswered calls stay
within it together, and the count covers the connected peers. A discovery response that
connects adds an unanswered call while none is pending and the count is below the cap; the
`connected` event that answers it turns it into a counted peer; every teardown path lowers
the count only with a connected peer (`Uncounts`).
-/

namespace TdlsAutoMode

/-- The `connected` events reported so far, after one more event. -/
def Event.answers (answered : List MacAddr) : Event → List MacAddr
  | .peerConnected addr => addr :: answered
  | _ => answered

/-- The environment allows each event of the run: `ok answered s event` judges `event` in the
state `s` reached after the `connected` events `answered`. -/
def envHolds (ok : List MacAddr → State → Event → Bool) :
    List (Capabilities × Event) → List MacAddr → State → Bool
  | [], _, _ => true
  | (caps, event) :: rest, answered, s =>
    ok answered s event && envHolds ok rest (event.answers answered) (event.apply caps s)

/-- A `connected(a)` event answers a `connect(a)` call that no earlier event answered. -/
def answersConnect (answered : List MacAddr) (s : State) : Event → Bool
  | .peerConnected addr => answered.count addr < s.calls.count (.connect addr)
  | _ => true

/-- A call to set up a link. -/
def Call.isConnect : Call → Bool
  | .connect _ => true
  | _ => false

/-- No discovery response comes while a connect call is unanswered. -/
def connectsSettled (answered : List MacAddr) (s : State) : Event → Bool
  | .discoveryResponse _ _ => s.calls.countP Call.isConnect ≤ answered.length
  | _ => true

/-- A teardown is reported only for a connected or an untracked peer. -/
def reportsLink (_answered : List MacAddr) (s : State) : Event → Bool
  | .peerDisconnected addr => (tdlsAutoFindPeer s addr).all (·.connected)
  | _ => true

/-- The environment in which the cap bounds the links: each `connected` event answers a
connect call not answered yet, no discovery response comes while a connect call is
unanswered, and a teardown is reported only for a connected or an untracked peer. -/
def serializedEnv (answered : List MacAddr) (s : State) (event : Event) : Bool :=
  answersConnect answered s event && connectsSettled answered s event &&
    reportsLink answered s event

section admission

variable {caps : Capabilities} {addr : MacAddr} {rssi : Int} {s : State}

/-- A discovery response that issues a call issues `connect` to its own address, for a
tracked, disconnected peer, while fewer peers than the maximum are counted as connected. -/
theorem tdlsAutoDiscoveryResponse_connect_admitted
    (issued : (tdlsAutoDiscoveryResponse caps addr rssi s).calls ≠ s.calls) :
    (tdlsAutoDiscoveryResponse caps addr rssi s).calls = .connect addr :: s.calls ∧
      s.Idle addr ∧ s.connPeerCount < s.extn.tdlsAutoMaxConnectedPeers := by
  obtain same | same | same | ⟨⟨peer, found, active⟩, below, same⟩ :=
    tdlsAutoDiscoveryResponse_cases caps addr rssi s <;> rw [same] at issued ⊢
  · exact absurd rfl issued
  · exact absurd State.writePeer_calls issued
  · exact absurd (by simp) issued
  · exact ⟨by simp, State.idle_of_tdlsAutoFindPeer found active, below⟩

end admission

/-- Two stations started; each answers a discovery while neither link is up, and then both
links come up. -/
def capRaceRun : List (Capabilities × Event) :=
  [(.nominal false 0, .modeStart stationA), (.nominal false 0, .modeStart stationB),
    (.busy, .discoveryResponse stationA (-60)), (.busy, .discoveryResponse stationB (-60)),
    (.nominal false 0, .peerConnected stationA), (.nominal false 0, .peerConnected stationB)]

/-- Two stations started; the first connects; a teardown is reported for the second, which
never connected; the second then answers a discovery and connects. -/
def capDriftRun : List (Capabilities × Event) :=
  [(.nominal false 0, .modeStart stationA), (.nominal false 0, .modeStart stationB),
    (.busy, .discoveryResponse stationA (-60)), (.nominal false 0, .peerConnected stationA),
    (.nominal false 0, .peerDisconnected stationB), (.busy, .discoveryResponse stationB (-60)),
    (.nominal false 0, .peerConnected stationB)]

/-- **The cap does not bound the connected peers.** With at most one connected peer, both
runs are enabled from `tdls_auto_init`, every `connected` event answers an unanswered
connect call, and both end with two connected peers; in the second run no discovery
response comes while a connect call is unanswered. -/
theorem connected_peers_exceed_cap :
    scenarioConfig.tdlsAutoMaxConnectedPeers = 1 ∧
      EventsEnabled capRaceRun (tdlsAutoInit scenarioConfig) ∧
      envHolds answersConnect capRaceRun [] (tdlsAutoInit scenarioConfig) = true ∧
      ((runEvents capRaceRun (tdlsAutoInit scenarioConfig)).peers.filter (·.connected)).length = 2 ∧
      EventsEnabled capDriftRun (tdlsAutoInit scenarioConfig) ∧
      envHolds (fun answered s event => answersConnect answered s event &&
        connectsSettled answered s event) capDriftRun [] (tdlsAutoInit scenarioConfig) = true ∧
      ((runEvents capDriftRun (tdlsAutoInit scenarioConfig)).peers.filter
        (·.connected)).length = 2 :=
  ⟨rfl, by decide, by decide, by decide, by decide, by decide, by decide⟩

section frame

variable {caps : Capabilities} {addr : MacAddr} {s : State}

/-- A call to set up a link is a link call. -/
theorem State.countP_isConnect_linkCalls (s : State) :
    s.linkCalls.countP Call.isConnect = s.calls.countP Call.isConnect := by
  rw [State.linkCalls, List.countP_filter]
  congr 1
  funext call
  cases call <;> rfl

theorem State.count_connect_linkCalls (s : State) (addr : MacAddr) :
    s.linkCalls.count (.connect addr) = s.calls.count (.connect addr) :=
  List.count_filter rfl

@[simp] theorem tdlsAutoAddPeer_extn : (tdlsAutoAddPeer caps addr s).1.extn = s.extn := by
  cases outcome : (tdlsAutoAddPeer caps addr s).2
  · obtain ⟨_, _, result, -⟩ := tdlsAutoAddPeer_failed outcome
    rw [result]
  · obtain ⟨_, result⟩ := tdlsAutoAddPeer_added outcome
    rw [result]
    split <;> rfl

@[simp] theorem tdlsAutoPeerDisconnected_extn {disconnect : MacAddr → State → State} :
    (tdlsAutoPeerDisconnected disconnect addr s).extn = s.extn := by
  cases found : tdlsAutoFindPeer s addr with
  | none => simp [tdlsAutoPeerDisconnected, found]
  | some peer =>
    rw [tdlsAutoPeerDisconnected_of_found found]
    split <;> simp

@[simp] theorem Capabilities.disconnect_extn : (caps.disconnect addr s).extn = s.extn := by
  unfold Capabilities.disconnect
  split <;> simp [logDisconnect]

@[simp] theorem tdlsAutoModeStop_extn :
    (tdlsAutoModeStop caps.disconnect addr s).extn = s.extn := by
  unfold tdlsAutoModeStop
  split
  · rfl
  · split <;> simp

@[simp] theorem tdlsAutoPeerConnectedFound_extn :
    (tdlsAutoPeerConnectedFound caps addr s).extn = s.extn := by
  unfold tdlsAutoPeerConnectedFound
  dsimp only
  split <;> simp

/-- A connect pass keeps the connected-peer count, the configuration and the connect calls:
it sends only discovery requests. -/
theorem tdlsAutoFastConnectTimeout_frame (caps : Capabilities) (s : State) :
    (tdlsAutoFastConnectTimeout caps s).connPeerCount = s.connPeerCount ∧
      (tdlsAutoFastConnectTimeout caps s).extn = s.extn ∧
      (tdlsAutoFastConnectTimeout caps s).linkCalls.countP Call.isConnect =
        s.linkCalls.countP Call.isConnect :=
  tdlsAutoFastConnectTimeout_rec (motive := fun t => t.connPeerCount = s.connPeerCount ∧
      t.extn = s.extn ∧ t.linkCalls.countP Call.isConnect = s.linkCalls.countP Call.isConnect)
    ⟨rfl, rfl, rfl⟩
    (fun acc addr kept => by
      obtain same | ⟨-, same | same⟩ := tdlsAutoFastConnectStep_cases caps acc addr <;>
        rw [same] <;> simpa [State.linkCalls_logCall, Call.isLink, Call.isConnect] using kept)
    fun _ kept => kept

theorem tdlsAutoSlowConnectTimeout_frame (caps : Capabilities) (s : State) :
    (tdlsAutoSlowConnectTimeout caps s).connPeerCount = s.connPeerCount ∧
      (tdlsAutoSlowConnectTimeout caps s).extn = s.extn ∧
      (tdlsAutoSlowConnectTimeout caps s).linkCalls.countP Call.isConnect =
        s.linkCalls.countP Call.isConnect :=
  tdlsAutoSlowConnectTimeout_rec (motive := fun t => t.connPeerCount = s.connPeerCount ∧
      t.extn = s.extn ∧ t.linkCalls.countP Call.isConnect = s.linkCalls.countP Call.isConnect)
    ⟨rfl, rfl, rfl⟩
    (fun t addr kept => by
      obtain same | same | ⟨-, same⟩ := tdlsAutoSlowConnectStep_cases caps t addr <;>
        rw [same] <;> simpa [State.linkCalls_logCall, Call.isLink, Call.isConnect] using kept)
    fun _ kept => kept

@[simp] theorem tdlsAutoRemovePeers_extn (killActiveLinks : Bool) :
    (tdlsAutoRemovePeers caps killActiveLinks s).extn = s.extn :=
  List.foldlRecOn (motive := fun t => t.extn = s.extn) s.addrs _ s rfl fun t same addr _ => by
    rw [← same, tdlsAutoRemovePeersStep]
    split <;> simp

theorem Event.extn_apply (caps : Capabilities) (event : Event) (s : State) :
    (event.apply caps s).extn = s.extn := by
  cases event with
  | modeStart addr =>
    obtain same | same := tdlsAutoModeStart_cases caps addr s <;> simp [Event.apply, same]
  | modeStop addr => simp [Event.apply]
  | removePeers killActiveLinks => simp [Event.apply]
  | peerConnected addr =>
    obtain ⟨-, same⟩ | ⟨-, -, same⟩ | ⟨-, -, same⟩ :=
      tdlsAutoPeerConnected_cases caps addr s <;> simp [Event.apply, same]
  | peerDisconnected addr => simp [Event.apply]
  | discoveryResponse addr rssi =>
    obtain same | same | same | ⟨-, -, same⟩ :=
      tdlsAutoDiscoveryResponse_cases caps addr rssi s <;> simp [Event.apply, same]
  | timeout handler =>
    cases handler
    · exact (tdlsAutoFastConnectTimeout_frame caps _).2.1
    · exact (tdlsAutoSlowConnectTimeout_frame caps _).2.1
    · exact tdlsAutoDataTeardownTimeout_rec (motive := fun t => t.extn = s.extn) rfl
        (fun t addr same => by
          obtain step | step | ⟨-, step⟩ := tdlsAutoDataTeardownStep_cases caps t addr <;>
            simp [step, same])
        fun _ same => same
    · exact tdlsAutoRssiTeardownTimeout_rec (motive := fun t => t.extn = s.extn) rfl
        (fun t addr same => by
          obtain step | step | step | ⟨-, step⟩ :=
            tdlsAutoRssiTeardownStep_cases caps t addr <;> simp [step, same])
        fun _ same => same

theorem extn_runEvents : ∀ (events : List (Capabilities × Event)) (s : State),
    (runEvents events s).extn = s.extn
  | [], _ => rfl
  | (caps, event) :: rest, s => (extn_runEvents rest _).trans (Event.extn_apply caps event s)

end frame

/-- `tdls_auto_peer_connected` marks at most one more peer connected. -/
theorem connectedPeers_tdlsAutoPeerConnectedFound_le {caps : Capabilities} {addr : MacAddr}
    {s : State} (nodup : s.addrs.Nodup) :
    (tdlsAutoPeerConnectedFound caps addr s).connectedPeers ≤ s.connectedPeers + 1 := by
  have marked := State.connectedPeers_writePeer_connect addr nodup
  have sampled := State.connectedPeers_writePeer_of_keeps addr
    (s := s.writePeer addr fun p => { p with connected := true })
    (f := tdlsAutoGetPeerDataRate caps) fun _ => by simp
  unfold tdlsAutoPeerConnectedFound
  dsimp only
  split <;> simp only [connectedPeers_tdlsAutoSetTimer, sampled] <;> exact marked

theorem connectedPeers_tdlsAutoPeerConnected_le {s : State} (registry : RegistryInv s)
    (caps : Capabilities) (addr : MacAddr) :
    (tdlsAutoPeerConnected caps addr s).connectedPeers ≤ s.connectedPeers + 1 := by
  have counted := registry.setConnPeerCount (s.connPeerCount + 1)
  obtain ⟨-, same⟩ | ⟨untracked, -, same⟩ | ⟨-, -, same⟩ :=
    tdlsAutoPeerConnected_cases caps addr s <;> rw [same]
  · exact connectedPeers_tdlsAutoPeerConnectedFound_le counted.addrs_nodup
  · have incoming := (counted.addPeer caps untracked).writePeer addr
      (fun p => { p with incomingPeer := true }) fun _ => rfl
    refine (connectedPeers_tdlsAutoPeerConnectedFound_le incoming.addrs_nodup).trans ?_
    rw [State.connectedPeers_writePeer_of_keeps addr (f := fun p => { p with incomingPeer := true })
      fun _ => rfl, connectedPeers_tdlsAutoAddPeer]
    rfl
  · rw [connectedPeers_tdlsAutoAddPeer]
    exact Nat.le_succ _

/-- What keeps the connected peers within the cap: the answered connects are among the
connect calls issued, every connected peer is counted, and the count together with the
unanswered connect calls stays within the maximum. -/
structure CapInv (answered : List MacAddr) (s : State) : Prop where
  answered_subperm : (answered.map Call.connect).Subperm s.linkCalls
  connected_le : s.connectedPeers ≤ s.connPeerCount.toNat
  count_add_le : s.connPeerCount.toNat + (s.linkCalls.countP Call.isConnect - answered.length) ≤
    s.extn.tdlsAutoMaxConnectedPeers.toNat

namespace CapInv

variable {answered : List MacAddr} {s t : State}

theorem length_le (inv : CapInv answered s) :
    answered.length ≤ s.linkCalls.countP Call.isConnect := by
  have := inv.answered_subperm.countP_le Call.isConnect
  simpa [List.countP_map, Function.comp_def, Call.isConnect] using this

theorem init (extn : WpasTdlsAutoCtx) : CapInv [] (tdlsAutoInit extn) where
  answered_subperm := List.nil_subperm
  connected_le := le_rfl
  count_add_le := Nat.zero_le _

/-- A callback that issues no connect call and uncounts keeps the invariant. -/
theorem of_uncounts (inv : CapInv answered s) (uncounts : Uncounts s t)
    (grows : ∃ new, t.linkCalls = new ++ s.linkCalls)
    (connects : t.linkCalls.countP Call.isConnect = s.linkCalls.countP Call.isConnect)
    (extn : t.extn = s.extn) : CapInv answered t where
  answered_subperm := by
    obtain ⟨new, calls⟩ := grows
    exact calls ▸ inv.answered_subperm.trans (List.sublist_append_right new _).subperm
  connected_le := uncounts.1
  count_add_le := by
    have := inv.count_add_le
    have := uncounts.2
    rw [connects, extn]
    omega

theorem of_calls (inv : CapInv answered s) (uncounts : Uncounts s t)
    (calls : t.linkCalls = s.linkCalls) (extn : t.extn = s.extn) : CapInv answered t :=
  inv.of_uncounts uncounts ⟨[], calls⟩ (by rw [calls]) extn

/-- A callback that changes neither the flags nor the count and issues no connect call
keeps the invariant. -/
theorem of_issuing (inv : CapInv answered s) (issuing : IssuingFrom s t)
    (count : t.connPeerCount = s.connPeerCount)
    (connects : t.linkCalls.countP Call.isConnect = s.linkCalls.countP Call.isConnect)
    (extn : t.extn = s.extn) : CapInv answered t :=
  let ⟨new, calls, _⟩ := issuing.2
  inv.of_uncounts ((Uncounts.refl inv.connected_le).of_le
    (State.connectedPeers_of_flags issuing.1).le count) ⟨new, calls⟩ connects extn

/-- A `connected` event that answers an unanswered connect call counts one more connected
peer, within the cap. -/
theorem peerConnected (inv : CapInv answered s) (registry : RegistryInv s) (caps : Capabilities)
    (addr : MacAddr) (answers : answered.count addr < s.calls.count (.connect addr)) :
    CapInv (addr :: answered) (tdlsAutoPeerConnected caps addr s) := by
  have answered' : ((addr :: answered).map Call.connect).Subperm s.linkCalls := by
    refine inv.answered_subperm.cons_left _ ?_
    rwa [List.count_map_of_injective _ _ fun _ _ same => Call.connect.inj same,
      State.count_connect_linkCalls]
  have unanswered : answered.length + 1 ≤ s.linkCalls.countP Call.isConnect := by
    have := answered'.countP_le Call.isConnect
    simpa [List.countP_map, Function.comp_def, Call.isConnect] using this
  have cap := inv.count_add_le
  have bound : s.extn.tdlsAutoMaxConnectedPeers.toNat < 2 ^ 32 :=
    s.extn.tdlsAutoMaxConnectedPeers.toNat_lt_size
  have raised : (s.connPeerCount + 1).toNat = s.connPeerCount.toNat + 1 := by
    rw [uint32_toNat_add_one]
    omega
  have more := connectedPeers_tdlsAutoPeerConnected_le registry caps addr
  have same : (tdlsAutoPeerConnected caps addr s).extn = s.extn :=
    Event.extn_apply caps (.peerConnected addr) s
  refine ⟨by rwa [linkCalls_tdlsAutoPeerConnected], ?_, ?_⟩ <;>
    rw [tdlsAutoPeerConnected_connPeerCount, raised]
  · have := inv.connected_le
    omega
  · rw [linkCalls_tdlsAutoPeerConnected, same, List.length_cons]
    omega

/-- A discovery response connects only while no connect call is unanswered and fewer peers
than the maximum are counted. -/
theorem discoveryResponse (inv : CapInv answered s) (caps : Capabilities) (addr : MacAddr)
    (rssi : Int) (settled : s.calls.countP Call.isConnect ≤ answered.length) :
    CapInv answered (tdlsAutoDiscoveryResponse caps addr rssi s) := by
  have flags : (tdlsAutoDiscoveryResponse caps addr rssi s).flags = s.flags :=
    (issuingFrom_tdlsAutoDiscoveryResponse addr rssi).1
  have count : (tdlsAutoDiscoveryResponse caps addr rssi s).connPeerCount = s.connPeerCount := by
    obtain same | same | same | ⟨-, -, same⟩ :=
      tdlsAutoDiscoveryResponse_cases caps addr rssi s <;> simp [same]
  have uncounts : Uncounts s (tdlsAutoDiscoveryResponse caps addr rssi s) :=
    (Uncounts.refl inv.connected_le).of_le (State.connectedPeers_of_flags flags).le count
  have extn : (tdlsAutoDiscoveryResponse caps addr rssi s).extn = s.extn :=
    Event.extn_apply caps (.discoveryResponse addr rssi) s
  obtain same | same | same | ⟨-, below, same⟩ :=
    tdlsAutoDiscoveryResponse_cases caps addr rssi s
  · exact inv.of_calls uncounts (by rw [same]) extn
  · exact inv.of_calls uncounts (by rw [same]; simp) extn
  · exact inv.of_calls uncounts (by rw [same]; simp) extn
  · have calls : (tdlsAutoDiscoveryResponse caps addr rssi s).linkCalls =
        .connect addr :: s.linkCalls := by
      rw [same]
      simp [State.linkCalls_logCall, Call.isLink]
    rw [← State.countP_isConnect_linkCalls] at settled
    have answeredAll := inv.length_le
    have cap := inv.count_add_le
    have room : s.connPeerCount.toNat < s.extn.tdlsAutoMaxConnectedPeers.toNat := below
    refine ⟨?_, uncounts.1, ?_⟩
    · rw [calls]
      exact inv.answered_subperm.trans (List.sublist_cons_self _ _).subperm
    · rw [calls, List.countP_cons, count, extn]
      simp only [Call.isConnect, ↓reduceIte]
      omega

/-- Every callback the environment allows keeps the invariant. -/
theorem apply (inv : CapInv answered s) (registry : RegistryInv s) (caps : Capabilities)
    (event : Event) (allowed : serializedEnv answered s event = true) :
    CapInv (event.answers answered) (event.apply caps s) := by
  simp only [serializedEnv, Bool.and_eq_true] at allowed
  obtain ⟨⟨answers, settled⟩, reports⟩ := allowed
  have extn := Event.extn_apply caps event s
  have counted := inv.connected_le
  cases event <;> simp only [Event.apply, Event.answers] at extn ⊢
  case modeStart addr =>
    obtain same | same := tdlsAutoModeStart_cases caps addr s <;> rw [same] at extn ⊢
    · exact inv.of_calls (.refl counted) rfl extn
    · exact inv.of_calls ((Uncounts.refl counted).of_le (by simp) (by simp)) (by simp) extn
  case modeStop addr =>
    exact inv.of_calls (uncounts_tdlsAutoModeStop counted caps) linkCalls_tdlsAutoModeStop extn
  case removePeers killActiveLinks =>
    exact inv.of_calls (uncounts_tdlsAutoRemovePeers counted caps killActiveLinks)
      (linkCalls_tdlsAutoRemovePeers killActiveLinks) extn
  case peerConnected addr =>
    exact inv.peerConnected registry caps addr (by simpa [answersConnect] using answers)
  case peerDisconnected addr =>
    refine inv.of_calls ?_ linkCalls_tdlsAutoPeerDisconnected extn
    cases found : tdlsAutoFindPeer s addr with
    | none =>
      rw [tdlsAutoPeerDisconnected_of_untracked (tdlsAutoFindPeer_eq_none_iff.1 found)]
      exact .refl counted
    | some peer =>
      exact uncounts_tdlsAutoPeerDisconnected counted found
        (by simpa [reportsLink, found] using reports)
  case discoveryResponse addr rssi =>
    exact inv.discoveryResponse caps addr rssi (by simpa [connectsSettled] using settled)
  case timeout handler =>
    cases handler
    case fastConnect =>
      have issuing : IssuingFrom s (fireTimeout caps .fastConnect s) :=
        issuingFrom_tdlsAutoFastConnectTimeout
      obtain ⟨count, -, connects⟩ :=
        tdlsAutoFastConnectTimeout_frame caps (tdlsAutoCancelTimer .fastConnect s)
      exact inv.of_issuing issuing count connects extn
    case slowConnect =>
      have issuing : IssuingFrom s (fireTimeout caps .slowConnect s) :=
        issuingFrom_tdlsAutoSlowConnectTimeout
      obtain ⟨count, -, connects⟩ :=
        tdlsAutoSlowConnectTimeout_frame caps (tdlsAutoCancelTimer .slowConnect s)
      exact inv.of_issuing issuing count connects extn
    case dataTeardown =>
      exact inv.of_calls (uncounts_tdlsAutoDataTeardownTimeout
        (s := tdlsAutoCancelTimer .dataTeardown s) counted caps)
        linkCalls_tdlsAutoDataTeardownTimeout extn
    case rssiTeardown =>
      exact inv.of_calls (uncounts_tdlsAutoRssiTeardownTimeout
        (s := tdlsAutoCancelTimer .rssiTeardown s) counted caps)
        linkCalls_tdlsAutoRssiTeardownTimeout extn

/-- The invariant holds after every run the environment allows. -/
theorem runEvents : ∀ (events : List (Capabilities × Event)) {answered : List MacAddr}
    {s : State}, CapInv answered s → RegistryInv s →
      envHolds serializedEnv events answered s →
      ∃ answered', CapInv answered' (TdlsAutoMode.runEvents events s)
  | [], answered, _, inv, _, _ => ⟨answered, inv⟩
  | (caps, event) :: rest, _, _, inv, registry, env => by
    simp only [envHolds, Bool.and_eq_true] at env
    exact runEvents rest (inv.apply registry caps event env.1) (registry.apply caps event) env.2

end CapInv

/-- **The cap holds when connects are answered one at a time.** From `tdls_auto_init`, along
every run in which each `connected` event answers a connect call not answered yet, no
discovery response comes while a connect call is unanswered, and a teardown is reported
only for a connected or an untracked peer, at most `tdls_auto_max_connected_peers` peers
are connected. -/
theorem connected_peers_within_cap (extn : WpasTdlsAutoCtx)
    (events : List (Capabilities × Event))
    (env : envHolds serializedEnv events [] (tdlsAutoInit extn) = true) :
    ((runEvents events (tdlsAutoInit extn)).peers.filter (·.connected)).length ≤
      extn.tdlsAutoMaxConnectedPeers.toNat := by
  obtain ⟨answered, inv⟩ :=
    CapInv.runEvents events (.init extn) (RegistryInv.invariant.init extn) env
  have cap := inv.count_add_le
  rw [extn_runEvents] at cap
  change _ ≤ extn.tdlsAutoMaxConnectedPeers.toNat at cap
  exact inv.connected_le.trans (by omega)

/-- The run that drifts past the cap, up to the link of its first station, is allowed and
stays within the cap of one. -/
theorem connected_peers_within_cap_first_link :
    envHolds serializedEnv (capDriftRun.take 4) [] (tdlsAutoInit scenarioConfig) = true ∧
      ((runEvents (capDriftRun.take 4) (tdlsAutoInit scenarioConfig)).peers.filter
        (·.connected)).length ≤ scenarioConfig.tdlsAutoMaxConnectedPeers.toNat :=
  have env : envHolds serializedEnv (capDriftRun.take 4) [] (tdlsAutoInit scenarioConfig) = true :=
    by decide
  ⟨env, connected_peers_within_cap scenarioConfig _ env⟩

/- Its fifth event, the teardown reported for a peer that never connected, is excluded. -/
example : envHolds serializedEnv (capDriftRun.take 5) [] (tdlsAutoInit scenarioConfig) = false := by
  decide

end TdlsAutoMode
