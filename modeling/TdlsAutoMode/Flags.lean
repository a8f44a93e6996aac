import TdlsAutoMode.RemovePeers

/-! # Link flags and link calls

Whether a peer may be linked is decided by its address and its two flags, `connected` and
`incoming_peer` (`TdlsAutoPeer.flags`). The rate and RSSI samples, the counters and the
timers never change them, so the discovery response and the two connect passes keep the
flags of every peer (`flags_tdlsAutoDiscoveryResponse`, `flags_tdlsAutoFastConnectTimeout`,
`flags_tdlsAutoSlowConnectTimeout`).

A link is started only by `connect` and `send_discovery` (`Call.isLink`). Every callback but
those three issues neither (`linkCalls_apply`); the discovery response connects only an
address whose peer is disconnected, and the passes send discoveries only to such addresses.
-/

namespace TdlsAutoMode

/-- The part of a peer that decides whether it may be linked. -/
def TdlsAutoPeer.flags (p : TdlsAutoPeer) : MacAddr × Bool × Bool :=
  (p.addr, p.connected, p.incomingPeer)

/-- The flags of the registry, in list order. -/
def State.flags (s : State) : List (MacAddr × Bool × Bool) := s.peers.map TdlsAutoPeer.flags

/-- A call that starts a link. -/
def Call.isLink : Call → Bool
  | .connect _ | .sendDiscovery _ => true
  | .disconnect _ | .monitorTraffic _ _ => false

/-- The link calls issued so far, newest first. -/
def State.linkCalls (s : State) : List Call := s.calls.filter Call.isLink

/-- The address has a tracked peer that is not connected. -/
def State.Idle (s : State) (addr : MacAddr) : Prop :=
  ∃ p ∈ s.peers, p.addr = addr ∧ p.connected = false

/-- The link calls a callback may issue: to an address whose peer is disconnected when
the callback starts. -/
def State.Issuable (s : State) (call : Call) : Prop :=
  ∃ addr, (call = .connect addr ∨ call = .sendDiscovery addr) ∧ s.Idle addr

section flags

variable {s s' : State} {addr : MacAddr} {f : TdlsAutoPeer → TdlsAutoPeer}

theorem State.flags_writePeer (keeps : ∀ p, (f p).flags = p.flags) :
    (s.writePeer addr f).flags = s.flags := by
  unfold State.writePeer State.flags
  split
  · simp only [List.map_map]
    exact List.map_congr_left fun p _ => by
      by_cases same : p.addr = addr <;> simp [same, keeps]
  · rfl

theorem State.idle_of_flags (same : s'.flags = s.flags) (idle : s'.Idle addr) : s.Idle addr := by
  obtain ⟨p, member, rfl, off⟩ := idle
  have listed : p.flags ∈ s'.flags := List.mem_map_of_mem _ member
  rw [same] at listed
  obtain ⟨q, member', flags⟩ := List.mem_map.1 listed
  simp only [TdlsAutoPeer.flags, Prod.mk.injEq] at flags
  exact ⟨q, member', flags.1, flags.2.1.trans off⟩

theorem State.idle_of_tdlsAutoFindPeer {peer : TdlsAutoPeer}
    (found : tdlsAutoFindPeer s addr = some peer) (off : peer.connected = false) : s.Idle addr :=
  ⟨peer, (mem_of_tdlsAutoFindPeer found).1, (mem_of_tdlsAutoFindPeer found).2, off⟩

@[simp] theorem flags_tdlsAutoGetPeerDataRate (caps : Capabilities) (p : TdlsAutoPeer) :
    (tdlsAutoGetPeerDataRate caps p).flags = p.flags := by
  simp [TdlsAutoPeer.flags]

end flags

section linkCalls

variable {caps : Capabilities} {addr : MacAddr} {s : State}

theorem State.linkCalls_logCall (call : Call) :
    (s.logCall call).linkCalls = if call.isLink then call :: s.linkCalls else s.linkCalls := by
  unfold State.linkCalls
  split <;> simp_all

@[simp] theorem State.linkCalls_writePeer (f : TdlsAutoPeer → TdlsAutoPeer) :
    (s.writePeer addr f).linkCalls = s.linkCalls := by
  simp [State.linkCalls]

@[simp] theorem linkCalls_tdlsAutoSetTimer (handler : Handler) :
    (tdlsAutoSetTimer handler s).linkCalls = s.linkCalls := rfl

@[simp] theorem State.linkCalls_setConnPeerCount (count : UInt32) :
    (s.setConnPeerCount count).linkCalls = s.linkCalls := rfl

@[simp] theorem linkCalls_logDisconnect : (logDisconnect addr s).linkCalls = s.linkCalls := by
  simp [logDisconnect, State.linkCalls_logCall, Call.isLink]

@[simp] theorem linkCalls_tdlsAutoModeStopFree :
    (tdlsAutoModeStopFree addr s).linkCalls = s.linkCalls := by
  simp [State.linkCalls, Call.isLink]

@[simp] theorem linkCalls_tdlsAutoAddPeer : (tdlsAutoAddPeer caps addr s).1.linkCalls = s.linkCalls := by
  unfold tdlsAutoAddPeer tdlsAutoPeerAddToList
  split_ifs <;> simp [State.linkCalls, Call.isLink]
  split <;> rfl

@[simp] theorem linkCalls_tdlsAutoPeerDisconnected {disconnect : MacAddr → State → State} :
    (tdlsAutoPeerDisconnected disconnect addr s).linkCalls = s.linkCalls := by
  cases found : tdlsAutoFindPeer s addr with
  | none => simp [tdlsAutoPeerDisconnected, found]
  | some peer =>
    rw [tdlsAutoPeerDisconnected_of_found found]
    split <;> simp

@[simp] theorem Capabilities.linkCalls_disconnect :
    (caps.disconnect addr s).linkCalls = s.linkCalls := by
  unfold Capabilities.disconnect
  split <;> simp

@[simp] theorem linkCalls_tdlsAutoModeStop :
    (tdlsAutoModeStop caps.disconnect addr s).linkCalls = s.linkCalls := by
  unfold tdlsAutoModeStop
  split
  · rfl
  · split <;> simp

@[simp] theorem linkCalls_tdlsAutoPeerConnectedFound :
    (tdlsAutoPeerConnectedFound caps addr s).linkCalls = s.linkCalls := by
  unfold tdlsAutoPeerConnectedFound
  dsimp only
  split <;> simp

@[simp] theorem linkCalls_tdlsAutoPeerConnected :
    (tdlsAutoPeerConnected caps addr s).linkCalls = s.linkCalls := by
  obtain ⟨-, same⟩ | ⟨-, -, same⟩ | ⟨-, -, same⟩ := tdlsAutoPeerConnected_cases caps addr s <;>
    simp [same]

theorem linkCalls_tdlsAutoRemovePeers (killActiveLinks : Bool) :
    (tdlsAutoRemovePeers caps killActiveLinks s).linkCalls = s.linkCalls :=
  List.foldlRecOn (motive := fun t => t.linkCalls = s.linkCalls) s.addrs _ s rfl
    fun t same addr _ => by
      rw [← same, tdlsAutoRemovePeersStep]
      split <;> simp

theorem linkCalls_tdlsAutoDataTeardownTimeout :
    (tdlsAutoDataTeardownTimeout caps s).linkCalls = s.linkCalls :=
  tdlsAutoDataTeardownTimeout_rec (motive := fun t => t.linkCalls = s.linkCalls) rfl
    (fun t addr same => by
      rw [← same]
      obtain step | step | ⟨-, step⟩ := tdlsAutoDataTeardownStep_cases caps t addr <;> simp [step])
    fun _ same => same

theorem linkCalls_tdlsAutoRssiTeardownTimeout :
    (tdlsAutoRssiTeardownTimeout caps s).linkCalls = s.linkCalls :=
  tdlsAutoRssiTeardownTimeout_rec (motive := fun t => t.linkCalls = s.linkCalls) rfl
    (fun t addr same => by
      rw [← same]
      obtain step | step | step | ⟨-, step⟩ := tdlsAutoRssiTeardownStep_cases caps t addr <;>
        simp [step])
    fun _ same => same

end linkCalls

section issuing

variable {caps : Capabilities} {s : State}

/-- What a pass of a connect timer keeps: the flags, and link calls issuable from where it
started. -/
def IssuingFrom (s t : State) : Prop :=
  t.flags = s.flags ∧ ∃ new, t.linkCalls = new ++ s.linkCalls ∧ ∀ call ∈ new, s.Issuable call

theorem IssuingFrom.refl (s : State) : IssuingFrom s s := ⟨rfl, [], rfl, by simp⟩

theorem IssuingFrom.writePeer {t : State} (issuing : IssuingFrom s t) (addr : MacAddr)
    {f : TdlsAutoPeer → TdlsAutoPeer} (keeps : ∀ p, (f p).flags = p.flags) :
    IssuingFrom s (t.writePeer addr f) := by
  obtain ⟨flags, new, calls, issuable⟩ := issuing
  exact ⟨(State.flags_writePeer keeps).trans flags, new, by simpa using calls, issuable⟩

theorem IssuingFrom.setTimer {t : State} (issuing : IssuingFrom s t) (handler : Handler) :
    IssuingFrom s (tdlsAutoSetTimer handler t) := issuing

theorem State.issuable_of_flags {s' : State} (same : s'.flags = s.flags) {call : Call}
    (issuable : s'.Issuable call) : s.Issuable call :=
  let ⟨addr, kind, idle⟩ := issuable
  ⟨addr, kind, State.idle_of_flags same idle⟩

theorem IssuingFrom.logCall {t : State} (issuing : IssuingFrom s t) {call : Call}
    (issuable : t.Issuable call) : IssuingFrom s (t.logCall call) := by
  obtain ⟨flags, new, calls, previous⟩ := issuing
  have link : call.isLink = true := by
    obtain ⟨_, kind, _⟩ := issuable
    rcases kind with rfl | rfl <;> rfl
  refine ⟨flags, call :: new, by simp [State.linkCalls_logCall, link, calls], ?_⟩
  intro other member
  rcases List.mem_cons.1 member with rfl | member
  · exact State.issuable_of_flags flags issuable
  · exact previous other member

theorem issuingFrom_tdlsAutoFastConnectTimeout : IssuingFrom s (tdlsAutoFastConnectTimeout caps s) :=
  tdlsAutoFastConnectTimeout_rec (.refl s) (fun acc addr issuing => by
      have keeps : ∀ p : TdlsAutoPeer, (tdlsAutoGetPeerDataRate caps
          { p with fastAttempts := p.fastAttempts + 1 }).flags = p.flags := fun p => by
        simp [TdlsAutoPeer.flags]
      have written := issuing.writePeer addr keeps
      obtain same | ⟨⟨peer, found, idle, -⟩, same | same⟩ :=
        tdlsAutoFastConnectStep_cases caps acc addr <;> rw [same]
      · exact issuing
      · exact written
      · exact written.logCall ⟨addr, .inr rfl, State.idle_of_flags
          (State.flags_writePeer keeps).symm (State.idle_of_tdlsAutoFindPeer found idle)⟩)
    fun _ issuing => issuing.setTimer _

theorem issuingFrom_tdlsAutoSlowConnectTimeout :
    IssuingFrom s (tdlsAutoSlowConnectTimeout caps s) :=
  tdlsAutoSlowConnectTimeout_rec (.refl s) (fun t addr issuing => by
      have written := issuing.writePeer addr (flags_tdlsAutoGetPeerDataRate caps)
      obtain same | same | ⟨⟨peer, found, idle⟩, same⟩ :=
        tdlsAutoSlowConnectStep_cases caps t addr <;> rw [same]
      · exact issuing
      · exact written
      · exact written.logCall ⟨addr, .inr rfl, State.idle_of_flags
          (State.flags_writePeer (flags_tdlsAutoGetPeerDataRate caps)).symm
          (State.idle_of_tdlsAutoFindPeer found idle)⟩)
    fun _ issuing => issuing.setTimer _

theorem issuingFrom_tdlsAutoDiscoveryResponse (addr : MacAddr) (rssi : Int) :
    IssuingFrom s (tdlsAutoDiscoveryResponse caps addr rssi s) := by
  have recorded := (IssuingFrom.refl s).writePeer addr
    (f := fun p => { p with rssi := rssi }) fun _ => rfl
  have sampled := recorded.writePeer addr (flags_tdlsAutoGetPeerDataRate caps)
  obtain same | same | same | ⟨⟨peer, found, active⟩, -, same⟩ :=
    tdlsAutoDiscoveryResponse_cases caps addr rssi s <;> rw [same]
  · exact .refl s
  · exact recorded
  · exact sampled
  · exact sampled.logCall ⟨addr, .inl rfl, State.idle_of_flags sampled.1.symm
      (State.idle_of_tdlsAutoFindPeer found active)⟩

theorem IssuingFrom.linkCalls {t : State} (issuing : IssuingFrom s t) :
    ∃ new, t.linkCalls = new ++ s.linkCalls ∧ ∀ call ∈ new, s.Issuable call ∧ t.Issuable call :=
  let ⟨flags, new, calls, issuable⟩ := issuing
  ⟨new, calls, fun call member =>
    ⟨issuable call member, State.issuable_of_flags flags.symm (issuable call member)⟩⟩

theorem IssuingFrom.of_linkCalls {t : State} (same : t.linkCalls = s.linkCalls) :
    ∃ new, t.linkCalls = new ++ s.linkCalls ∧ ∀ call ∈ new, s.Issuable call ∧ t.Issuable call :=
  ⟨[], same, by simp⟩

end issuing

/-- Every link call a callback issues is to an address whose peer is disconnected both when
the callback starts and when it returns. -/
theorem linkCalls_apply (caps : Capabilities) (event : Event) (s : State) :
    ∃ new, (event.apply caps s).linkCalls = new ++ s.linkCalls ∧
      ∀ call ∈ new, s.Issuable call ∧ (event.apply caps s).Issuable call := by
  cases event with
  | modeStart addr =>
    refine IssuingFrom.of_linkCalls ?_
    simp only [Event.apply, tdlsAutoModeStart]
    split
    · rfl
    · split <;> rename_i result <;> simpa using congrArg (·.1.linkCalls) result.symm
  | modeStop addr => exact IssuingFrom.of_linkCalls linkCalls_tdlsAutoModeStop
  | removePeers killActiveLinks =>
    exact IssuingFrom.of_linkCalls (linkCalls_tdlsAutoRemovePeers killActiveLinks)
  | peerConnected addr => exact IssuingFrom.of_linkCalls linkCalls_tdlsAutoPeerConnected
  | peerDisconnected addr => exact IssuingFrom.of_linkCalls linkCalls_tdlsAutoPeerDisconnected
  | discoveryResponse addr rssi => exact (issuingFrom_tdlsAutoDiscoveryResponse addr rssi).linkCalls
  | timeout handler =>
    cases handler
    · exact (issuingFrom_tdlsAutoFastConnectTimeout (s := tdlsAutoCancelTimer _ s)).linkCalls
    · exact (issuingFrom_tdlsAutoSlowConnectTimeout (s := tdlsAutoCancelTimer _ s)).linkCalls
    · exact IssuingFrom.of_linkCalls linkCalls_tdlsAutoDataTeardownTimeout
    · exact IssuingFrom.of_linkCalls linkCalls_tdlsAutoRssiTeardownTimeout

end TdlsAutoMode
