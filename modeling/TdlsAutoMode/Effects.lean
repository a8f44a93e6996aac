import TdlsAutoMode.Reentry

/-! # What each operation does to the registry

One lemma per function of the model, in the form the invariant proofs use: the fields a
function leaves alone as `@[simp]` equations, and the ones it changes in closed form.
`tdls_auto_add_peer` either fails with nothing but the peer cache and the call log
touched (`tdlsAutoAddPeer_failed`) or links a zeroed peer and arms the connect timers
(`tdlsAutoAddPeer_added`); `tdls_auto_peer_free` erases the address
(`addrs_tdlsAutoPeerFree`).
-/

namespace TdlsAutoMode

section timers

variable (handler : Handler) (s : State)

@[simp] theorem tdlsAutoSetTimer_peers : (tdlsAutoSetTimer handler s).peers = s.peers := rfl
@[simp] theorem tdlsAutoSetTimer_addrs : (tdlsAutoSetTimer handler s).addrs = s.addrs := rfl
@[simp] theorem tdlsAutoSetTimer_peerCount :
    (tdlsAutoSetTimer handler s).peerCount = s.peerCount := rfl
@[simp] theorem tdlsAutoSetTimer_connPeerCount :
    (tdlsAutoSetTimer handler s).connPeerCount = s.connPeerCount := rfl
@[simp] theorem tdlsAutoSetTimer_extn : (tdlsAutoSetTimer handler s).extn = s.extn := rfl
@[simp] theorem tdlsAutoSetTimer_peerCache :
    (tdlsAutoSetTimer handler s).peerCache = s.peerCache := rfl
@[simp] theorem tdlsAutoSetTimer_calls : (tdlsAutoSetTimer handler s).calls = s.calls := rfl
@[simp] theorem tdlsAutoSetTimer_freedWrites :
    (tdlsAutoSetTimer handler s).freedWrites = s.freedWrites := rfl
@[simp] theorem tdlsAutoSetTimer_pending (other : Handler) :
    (tdlsAutoSetTimer handler s).pending other = if other = handler then true else s.pending other :=
  Function.update_apply _ _ _ _

@[simp] theorem tdlsAutoCancelTimer_peers : (tdlsAutoCancelTimer handler s).peers = s.peers := rfl
@[simp] theorem tdlsAutoCancelTimer_addrs : (tdlsAutoCancelTimer handler s).addrs = s.addrs := rfl
@[simp] theorem tdlsAutoCancelTimer_peerCount :
    (tdlsAutoCancelTimer handler s).peerCount = s.peerCount := rfl
@[simp] theorem tdlsAutoCancelTimer_connPeerCount :
    (tdlsAutoCancelTimer handler s).connPeerCount = s.connPeerCount := rfl
@[simp] theorem tdlsAutoCancelTimer_extn : (tdlsAutoCancelTimer handler s).extn = s.extn := rfl
@[simp] theorem tdlsAutoCancelTimer_peerCache :
    (tdlsAutoCancelTimer handler s).peerCache = s.peerCache := rfl
@[simp] theorem tdlsAutoCancelTimer_calls : (tdlsAutoCancelTimer handler s).calls = s.calls := rfl
@[simp] theorem tdlsAutoCancelTimer_freedWrites :
    (tdlsAutoCancelTimer handler s).freedWrites = s.freedWrites := rfl
@[simp] theorem tdlsAutoCancelTimer_pending (other : Handler) :
    (tdlsAutoCancelTimer handler s).pending other =
      if other = handler then false else s.pending other :=
  Function.update_apply _ _ _ _

end timers

section free

variable (addr : MacAddr) (s : State)

/-- Freeing unlinks the first peer with the address: its address leaves the list. -/
theorem addrs_tdlsAutoPeerFree : (tdlsAutoPeerFree addr s).addrs = s.addrs.erase addr := by
  simp only [tdlsAutoPeerFree, State.addrs, State.monitorTrafficDel_peers,
    List.erase_eq_eraseP, List.eraseP_map]
  congr 2
  funext p
  simp only [Function.comp_apply, eq_comm (a := p.addr)]
  rfl

@[simp] theorem tdlsAutoPeerFree_peerCount :
    (tdlsAutoPeerFree addr s).peerCount = s.peerCount - 1 := rfl
@[simp] theorem tdlsAutoPeerFree_connPeerCount :
    (tdlsAutoPeerFree addr s).connPeerCount = s.connPeerCount := rfl
@[simp] theorem tdlsAutoPeerFree_extn : (tdlsAutoPeerFree addr s).extn = s.extn := rfl
@[simp] theorem tdlsAutoPeerFree_pending : (tdlsAutoPeerFree addr s).pending = s.pending := rfl
@[simp] theorem tdlsAutoPeerFree_peerCache :
    (tdlsAutoPeerFree addr s).peerCache = s.peerCache.filter (· ≠ addr) := rfl
@[simp] theorem tdlsAutoPeerFree_calls :
    (tdlsAutoPeerFree addr s).calls = .monitorTraffic addr false :: s.calls := rfl
@[simp] theorem tdlsAutoPeerFree_freedWrites :
    (tdlsAutoPeerFree addr s).freedWrites = s.freedWrites := rfl
@[simp] theorem tdlsAutoPeerFree_peers :
    (tdlsAutoPeerFree addr s).peers = s.peers.eraseP (·.addr = addr) := rfl

/-- The end of a stop leaves the timers alone unless it freed the last counted peer. -/
theorem tdlsAutoModeStopFree_eq :
    tdlsAutoModeStopFree addr s =
      if s.peerCount - 1 = 0 then
        tdlsAutoCancelTimer .slowConnect (tdlsAutoCancelTimer .fastConnect (tdlsAutoPeerFree addr s))
      else tdlsAutoPeerFree addr s := rfl

@[simp] theorem tdlsAutoModeStopFree_addrs :
    (tdlsAutoModeStopFree addr s).addrs = s.addrs.erase addr := by
  rw [tdlsAutoModeStopFree_eq]; split <;> simp [addrs_tdlsAutoPeerFree]
@[simp] theorem tdlsAutoModeStopFree_peers :
    (tdlsAutoModeStopFree addr s).peers = s.peers.eraseP (·.addr = addr) := by
  rw [tdlsAutoModeStopFree_eq]; split <;> rfl
@[simp] theorem tdlsAutoModeStopFree_peerCount :
    (tdlsAutoModeStopFree addr s).peerCount = s.peerCount - 1 := by
  rw [tdlsAutoModeStopFree_eq]; split <;> rfl
@[simp] theorem tdlsAutoModeStopFree_connPeerCount :
    (tdlsAutoModeStopFree addr s).connPeerCount = s.connPeerCount := by
  rw [tdlsAutoModeStopFree_eq]; split <;> rfl
@[simp] theorem tdlsAutoModeStopFree_extn : (tdlsAutoModeStopFree addr s).extn = s.extn := by
  rw [tdlsAutoModeStopFree_eq]; split <;> rfl
@[simp] theorem tdlsAutoModeStopFree_peerCache :
    (tdlsAutoModeStopFree addr s).peerCache = s.peerCache.filter (· ≠ addr) := by
  rw [tdlsAutoModeStopFree_eq]; split <;> rfl
@[simp] theorem tdlsAutoModeStopFree_calls :
    (tdlsAutoModeStopFree addr s).calls = .monitorTraffic addr false :: s.calls := by
  rw [tdlsAutoModeStopFree_eq]; split <;> rfl
@[simp] theorem tdlsAutoModeStopFree_freedWrites :
    (tdlsAutoModeStopFree addr s).freedWrites = s.freedWrites := by
  rw [tdlsAutoModeStopFree_eq]; split <;> rfl

/-- With distinct addresses, freeing leaves only peers with other addresses. -/
theorem mem_peers_tdlsAutoPeerFree (nodup : s.addrs.Nodup) {p : TdlsAutoPeer}
    (member : p ∈ (tdlsAutoPeerFree addr s).peers) : p ∈ s.peers ∧ p.addr ≠ addr := by
  have listed : p.addr ∈ (tdlsAutoPeerFree addr s).addrs := List.mem_map_of_mem _ member
  rw [addrs_tdlsAutoPeerFree, nodup.mem_erase_iff] at listed
  rw [tdlsAutoPeerFree_peers] at member
  exact ⟨(List.eraseP_sublist _).subset member, listed.1⟩

end free

section add

variable {caps : Capabilities} {addr : MacAddr} {s : State}

/-- A failed `tdls_auto_add_peer` touches only the peer cache, where the address is
dropped, and the call log. -/
theorem tdlsAutoAddPeer_failed (failed : (tdlsAutoAddPeer caps addr s).2 = false) :
    ∃ peerCache calls,
      (tdlsAutoAddPeer caps addr s).1 = { s with peerCache, calls } ∧
        ∀ b, b ∈ peerCache ↔ b ∈ s.peerCache ∧ b ≠ addr := by
  unfold tdlsAutoAddPeer tdlsAutoPeerAddToList at *
  by_cases accounted : caps.monitorTraffic addr true = 0
  · by_cases allocated : caps.zallocSucceeds = true
    · simp [accounted, allocated] at failed
    · simp only [State.monitorTrafficAdd, accounted, allocated, ne_eq, not_true_eq_false,
        ↓reduceIte, Bool.false_eq_true]
      refine ⟨_, _, rfl, fun b => ?_⟩
      by_cases same : b = addr <;> simp [same]
  · simp only [State.monitorTrafficAdd, accounted, ne_eq, not_false_eq_true, ↓reduceIte]
    exact ⟨_, _, rfl, fun b => by simp⟩

/-- A successful `tdls_auto_add_peer` links a zeroed peer at the head, counts it, enters
its address in the peer cache and (re)arms the fast-connect timer, and the slow-connect
timer when it is the only counted peer. -/
theorem tdlsAutoAddPeer_added (added : (tdlsAutoAddPeer caps addr s).2 = true) :
    ∃ calls,
      let linked := { s with
        peers := .zalloc addr :: s.peers
        peerCount := s.peerCount + 1
        peerCache := (s.peerCache.filter (· ≠ addr)).insert addr
        calls }
      (tdlsAutoAddPeer caps addr s).1 =
        if linked.peerCount = 1 then tdlsAutoSetTimer .slowConnect (tdlsAutoSetTimer .fastConnect linked)
        else tdlsAutoSetTimer .fastConnect linked := by
  unfold tdlsAutoAddPeer tdlsAutoPeerAddToList at *
  by_cases accounted : caps.monitorTraffic addr true = 0
  · by_cases allocated : caps.zallocSucceeds = true
    · simp only [State.monitorTrafficAdd, accounted, allocated, ne_eq, not_true_eq_false,
        ↓reduceIte]
      exact ⟨_, rfl⟩
    · simp [accounted, allocated] at added
  · simp [accounted] at added

/-- An add either leaves the peers as they were or links a zeroed peer at the head. -/
theorem tdlsAutoAddPeer_peers (caps : Capabilities) (addr : MacAddr) (s : State) :
    (tdlsAutoAddPeer caps addr s).1.peers = s.peers ∨
      (tdlsAutoAddPeer caps addr s).1.peers = .zalloc addr :: s.peers := by
  cases outcome : (tdlsAutoAddPeer caps addr s).2
  · obtain ⟨_, _, result, -⟩ := tdlsAutoAddPeer_failed outcome
    exact .inl (by rw [result])
  · obtain ⟨_, result⟩ := tdlsAutoAddPeer_added outcome
    exact .inr (by rw [result]; split <;> rfl)

/-- `tdls_auto_mode_start` leaves a tracked address as it is and adds an untracked one. -/
theorem tdlsAutoModeStart_cases (caps : Capabilities) (addr : MacAddr) (s : State) :
    (tdlsAutoModeStart caps addr s).2 = s ∨
      (tdlsAutoModeStart caps addr s).2 = (tdlsAutoAddPeer caps addr s).1 := by
  unfold tdlsAutoModeStart
  split
  · exact .inl rfl
  · split <;> rename_i result <;> rw [result] <;> exact .inr rfl

end add

section disconnect

variable {caps : Capabilities} {addr : MacAddr} {s : State} {peer : TdlsAutoPeer}

@[simp] theorem tdlsAutoFindPeer_logCall (call : Call) :
    tdlsAutoFindPeer (s.logCall call) addr = tdlsAutoFindPeer s addr := rfl

/-- Disconnecting an outgoing peer keeps it tracked: the re-entered callback marks it
disconnected, clears its counters, arms the fast-connect timer and uncounts it. -/
theorem Capabilities.disconnect_of_outgoing (found : tdlsAutoFindPeer s addr = some peer)
    (outgoing : peer.incomingPeer = false) :
    caps.disconnect addr s =
      if caps.disconnectReenters then
        let s := (logDisconnect addr s).writePeer addr fun p => { p with connected := false }
        let s := tdlsAutoSetTimer .fastConnect
          (s.writePeer addr fun p => { p with lowRssiVals := 0, fastAttempts := 0 })
        s.setConnPeerCount (s.connPeerCount - 1)
      else logDisconnect addr s := by
  unfold Capabilities.disconnect
  split_ifs
  · rw [tdlsAutoPeerDisconnected_of_found (by rwa [logDisconnect, tdlsAutoFindPeer_logCall])]
    simp [outgoing]
  · rfl

/-- Disconnecting an outgoing peer keeps every address tracked. -/
theorem Capabilities.addrs_disconnect_of_outgoing (found : tdlsAutoFindPeer s addr = some peer)
    (outgoing : peer.incomingPeer = false) : (caps.disconnect addr s).addrs = s.addrs := by
  rw [Capabilities.disconnect_of_outgoing found outgoing]
  split <;> simp [logDisconnect, State.addrs_writePeer]

/-- The `disconnect` of a stop, issued after clearing `incoming_peer`, keeps every address. -/
theorem Capabilities.addrs_disconnect_of_stop (found : tdlsAutoFindPeer s addr = some peer) :
    (caps.disconnect addr (s.writePeer addr fun p => { p with incomingPeer := false })).addrs =
      s.addrs := by
  have outgoing : tdlsAutoFindPeer (s.writePeer addr fun p => { p with incomingPeer := false })
      addr = some { peer with incomingPeer := false } :=
    tdlsAutoFindPeer_writePeer_of_found (fun _ => rfl) found
  rw [Capabilities.addrs_disconnect_of_outgoing outgoing rfl]
  simp

end disconnect

/-- What `tdls_auto_peer_connected` can do, after counting one more connected peer: finish
on the peer of a tracked address; create an incoming peer for an unknown address and finish
on it; or, when the peer cannot be added, stop there. -/
theorem tdlsAutoPeerConnected_cases (caps : Capabilities) (addr : MacAddr) (s : State) :
    (s.Tracked addr ∧ tdlsAutoPeerConnected caps addr s =
        tdlsAutoPeerConnectedFound caps addr (s.setConnPeerCount (s.connPeerCount + 1))) ∨
      (¬ s.Tracked addr ∧
        (tdlsAutoAddPeer caps addr (s.setConnPeerCount (s.connPeerCount + 1))).2 = true ∧
        tdlsAutoPeerConnected caps addr s = tdlsAutoPeerConnectedFound caps addr
          ((tdlsAutoAddPeer caps addr (s.setConnPeerCount (s.connPeerCount + 1))).1.writePeer addr
            fun p => { p with incomingPeer := true })) ∨
      (¬ s.Tracked addr ∧
        (tdlsAutoAddPeer caps addr (s.setConnPeerCount (s.connPeerCount + 1))).2 = false ∧
        tdlsAutoPeerConnected caps addr s =
          (tdlsAutoAddPeer caps addr (s.setConnPeerCount (s.connPeerCount + 1))).1) := by
  unfold tdlsAutoPeerConnected
  dsimp only
  split
  · rename_i found
    exact .inl ⟨tracked_of_tdlsAutoFindPeer found, rfl⟩
  · rename_i missing
    have untracked : ¬ s.Tracked addr := tdlsAutoFindPeer_eq_none_iff.1 missing
    split <;> rename_i result <;> rw [result]
    · exact .inr (.inl ⟨untracked, rfl, rfl⟩)
    · exact .inr (.inr ⟨untracked, rfl, rfl⟩)

/-- What one iteration of the fast-connect pass can do: nothing; or, for a disconnected peer
with fast attempts left, count an attempt and sample the rate, send a discovery request when
the rate allows, and set the flag. -/
theorem tdlsAutoFastConnectStep_cases (caps : Capabilities) (acc : State × Bool)
    (addr : MacAddr) :
    tdlsAutoFastConnectStep caps acc addr = acc ∨
      (∃ peer, tdlsAutoFindPeer acc.1 addr = some peer ∧ peer.connected = false ∧
        peer.fastAttempts ≤ tdlsAutoMaxFastConnAttempts) ∧
      (tdlsAutoFastConnectStep caps acc addr = (acc.1.writePeer addr fun p =>
          tdlsAutoGetPeerDataRate caps { p with fastAttempts := p.fastAttempts + 1 }, true) ∨
        tdlsAutoFastConnectStep caps acc addr = ((acc.1.writePeer addr fun p =>
          tdlsAutoGetPeerDataRate caps { p with fastAttempts := p.fastAttempts + 1 }).logCall
          (.sendDiscovery addr), true)) := by
  unfold tdlsAutoFastConnectStep
  split
  · exact .inl rfl
  · rename_i peer found
    dsimp only
    split_ifs with connected exhausted
    · exact .inl rfl
    · exact .inl rfl
    · exact .inr ⟨⟨peer, found, by simpa using connected, Nat.not_lt.1 exhausted⟩, .inl rfl⟩
    · exact .inr ⟨⟨peer, found, by simpa using connected, Nat.not_lt.1 exhausted⟩, .inr rfl⟩

/-- What one iteration of the slow-connect pass can do: nothing, sample the rate, or sample
it and send a discovery request, the last only for a disconnected peer. -/
theorem tdlsAutoSlowConnectStep_cases (caps : Capabilities) (s : State) (addr : MacAddr) :
    tdlsAutoSlowConnectStep caps s addr = s ∨
      tdlsAutoSlowConnectStep caps s addr = s.writePeer addr (tdlsAutoGetPeerDataRate caps) ∨
      (∃ peer, tdlsAutoFindPeer s addr = some peer ∧ peer.connected = false) ∧
        tdlsAutoSlowConnectStep caps s addr =
          (s.writePeer addr (tdlsAutoGetPeerDataRate caps)).logCall (.sendDiscovery addr) := by
  unfold tdlsAutoSlowConnectStep
  split
  · exact .inl rfl
  · rename_i peer found
    dsimp only
    split_ifs with connected
    · exact .inl rfl
    · exact .inl rfl
    · exact .inr (.inl rfl)
    · exact .inr (.inr ⟨⟨peer, found, by simpa using connected⟩, rfl⟩)

/-- What one iteration of the data-teardown pass can do: nothing, sample the rate, or sample
it and disconnect the peer, the last only for a connected peer. -/
theorem tdlsAutoDataTeardownStep_cases (caps : Capabilities) (s : State) (addr : MacAddr) :
    tdlsAutoDataTeardownStep caps s addr = s ∨
      tdlsAutoDataTeardownStep caps s addr = s.writePeer addr (tdlsAutoGetPeerDataRate caps) ∨
      (∃ peer, tdlsAutoFindPeer s addr = some peer ∧ peer.connected = true) ∧
        tdlsAutoDataTeardownStep caps s addr =
          caps.disconnect addr (s.writePeer addr (tdlsAutoGetPeerDataRate caps)) := by
  unfold tdlsAutoDataTeardownStep
  split
  · exact .inl rfl
  · rename_i peer found
    dsimp only
    split_ifs with idle
    · exact .inl rfl
    · exact .inr (.inl rfl)
    · exact .inr (.inr ⟨⟨peer, found, by simpa using idle⟩, rfl⟩)

/-- What one iteration of the RSSI-teardown pass can do: nothing; read the RSSI and clear
the count of low readings; read it and count one more; or, for a connected peer, read it,
count, disconnect the peer and clear the count through the pointer the loop holds. -/
theorem tdlsAutoRssiTeardownStep_cases (caps : Capabilities) (s : State) (addr : MacAddr) :
    tdlsAutoRssiTeardownStep caps s addr = s ∨
      tdlsAutoRssiTeardownStep caps s addr =
        (s.writePeer addr (tdlsAutoGetConnectedStaRssi caps)).writePeer addr
          (fun p => { p with lowRssiVals := 0 }) ∨
      tdlsAutoRssiTeardownStep caps s addr =
        (s.writePeer addr (tdlsAutoGetConnectedStaRssi caps)).writePeer addr
          (fun p => { p with lowRssiVals := p.lowRssiVals + 1 }) ∨
      (∃ peer, tdlsAutoFindPeer s addr = some peer ∧ peer.connected = true) ∧
        tdlsAutoRssiTeardownStep caps s addr =
          (caps.disconnect addr ((s.writePeer addr (tdlsAutoGetConnectedStaRssi caps)).writePeer
            addr fun p => { p with lowRssiVals := p.lowRssiVals + 1 })).writePeer addr
            fun p => { p with lowRssiVals := 0 } := by
  unfold tdlsAutoRssiTeardownStep
  split
  · exact .inl rfl
  · rename_i peer found
    dsimp only
    split_ifs with idle
    · exact .inl rfl
    · exact .inr (.inl rfl)
    · exact .inr (.inr (.inl rfl))
    · exact .inr (.inr (.inr ⟨⟨peer, found, by simpa using idle⟩, rfl⟩))

section passes

variable {motive : State → Prop} {caps : Capabilities} {s : State}

/-- The fast-connect timeout keeps what every iteration of its pass and the re-arming of
its timer keep. -/
theorem tdlsAutoFastConnectTimeout_rec (start : motive s)
    (step : ∀ acc addr, motive acc.1 → motive (tdlsAutoFastConnectStep caps acc addr).1)
    (rearm : ∀ t, motive t → motive (tdlsAutoSetTimer .fastConnect t)) :
    motive (tdlsAutoFastConnectTimeout caps s) := by
  have pass := List.foldlRecOn (motive := fun acc => motive acc.1) s.addrs _ (s, false) start
    fun acc holds addr _ => step acc addr holds
  unfold tdlsAutoFastConnectTimeout
  dsimp only
  split
  · exact rearm _ pass
  · exact pass

/-- The slow-connect timeout keeps what every iteration of its pass and the re-arming of
its timer keep. -/
theorem tdlsAutoSlowConnectTimeout_rec (start : motive s)
    (step : ∀ t addr, motive t → motive (tdlsAutoSlowConnectStep caps t addr))
    (rearm : ∀ t, motive t → motive (tdlsAutoSetTimer .slowConnect t)) :
    motive (tdlsAutoSlowConnectTimeout caps s) := by
  have pass := List.foldlRecOn (motive := motive) s.addrs _ s start fun t holds addr _ =>
    step t addr holds
  unfold tdlsAutoSlowConnectTimeout
  dsimp only
  split
  · exact pass
  · exact rearm _ pass

/-- The data-teardown timeout keeps what every iteration of its pass and the re-arming of
its timer keep. -/
theorem tdlsAutoDataTeardownTimeout_rec (start : motive s)
    (step : ∀ t addr, motive t → motive (tdlsAutoDataTeardownStep caps t addr))
    (rearm : ∀ t, motive t → motive (tdlsAutoSetTimer .dataTeardown t)) :
    motive (tdlsAutoDataTeardownTimeout caps s) := by
  have pass := List.foldlRecOn (motive := motive) s.addrs _ s start fun t holds addr _ =>
    step t addr holds
  unfold tdlsAutoDataTeardownTimeout
  dsimp only
  split
  · exact pass
  · exact rearm _ pass

/-- The RSSI-teardown timeout keeps what every iteration of its pass and the re-arming of
its timer keep. -/
theorem tdlsAutoRssiTeardownTimeout_rec (start : motive s)
    (step : ∀ t addr, motive t → motive (tdlsAutoRssiTeardownStep caps t addr))
    (rearm : ∀ t, motive t → motive (tdlsAutoSetTimer .rssiTeardown t)) :
    motive (tdlsAutoRssiTeardownTimeout caps s) := by
  have pass := List.foldlRecOn (motive := motive) s.addrs _ s start fun t holds addr _ =>
    step t addr holds
  unfold tdlsAutoRssiTeardownTimeout
  dsimp only
  split
  · exact pass
  · exact rearm _ pass

/-- The fast-connect pass keeps every peer: it writes samples and attempt counts only. -/
theorem addrs_tdlsAutoFastConnectTimeout : (tdlsAutoFastConnectTimeout caps s).addrs = s.addrs :=
  tdlsAutoFastConnectTimeout_rec (motive := fun t => t.addrs = s.addrs) rfl
    (fun acc addr same => by
      obtain step | ⟨-, step | step⟩ := tdlsAutoFastConnectStep_cases caps acc addr <;>
        simp [step, same])
    fun _ same => same

/-- The slow-connect pass keeps every peer: it writes samples only. -/
theorem addrs_tdlsAutoSlowConnectTimeout : (tdlsAutoSlowConnectTimeout caps s).addrs = s.addrs :=
  tdlsAutoSlowConnectTimeout_rec (motive := fun t => t.addrs = s.addrs) rfl
    (fun t addr same => by
      obtain step | step | ⟨-, step⟩ := tdlsAutoSlowConnectStep_cases caps t addr <;>
        simp [step, same])
    fun _ same => same

end passes

/-- What a discovery response can do: nothing for an untracked address; otherwise record the
RSSI, then possibly sample the rate, and issue `connect` only after both, for a disconnected
peer while fewer peers than the maximum are counted as connected. -/
theorem tdlsAutoDiscoveryResponse_cases (caps : Capabilities) (addr : MacAddr) (rssi : Int)
    (s : State) :
    tdlsAutoDiscoveryResponse caps addr rssi s = s ∨
      tdlsAutoDiscoveryResponse caps addr rssi s =
        s.writePeer addr (fun p => { p with rssi := rssi }) ∨
      tdlsAutoDiscoveryResponse caps addr rssi s =
        (s.writePeer addr fun p => { p with rssi := rssi }).writePeer addr
          (tdlsAutoGetPeerDataRate caps) ∨
      (∃ peer, tdlsAutoFindPeer s addr = some peer ∧ peer.connected = false) ∧
        s.connPeerCount < s.extn.tdlsAutoMaxConnectedPeers ∧
        tdlsAutoDiscoveryResponse caps addr rssi s =
          ((s.writePeer addr fun p => { p with rssi := rssi }).writePeer addr
            (tdlsAutoGetPeerDataRate caps)).logCall (.connect addr) := by
  unfold tdlsAutoDiscoveryResponse
  split
  · exact .inl rfl
  · rename_i peer found
    dsimp only
    split_ifs with connected _ _ full
    · exact .inr (.inl rfl)
    · exact .inr (.inl rfl)
    · exact .inr (.inr (.inl rfl))
    · exact .inr (.inr (.inl rfl))
    · exact .inr (.inr (.inr ⟨⟨peer, found, by simpa using connected⟩, by simpa using full, rfl⟩))

/-- Every tracked peer satisfies `Q`. -/
def State.AllPeers (Q : TdlsAutoPeer → Prop) (s : State) : Prop := ∀ p ∈ s.peers, Q p

/-- Every tracked peer satisfies `Q`, except perhaps those with the address. -/
def State.AllPeersExcept (addr : MacAddr) (Q : TdlsAutoPeer → Prop) (s : State) : Prop :=
  ∀ p ∈ s.peers, p.addr ≠ addr → Q p

namespace State.AllPeersExcept

variable {Q : TdlsAutoPeer → Prop} {s t : State} {addr : MacAddr}
  {f : TdlsAutoPeer → TdlsAutoPeer}

theorem of_sublist (except : s.AllPeersExcept addr Q) (sub : t.peers.Sublist s.peers) :
    t.AllPeersExcept addr Q :=
  fun p member => except p (sub.subset member)

/-- A write to the address keeps every other peer. -/
theorem writePeer (except : s.AllPeersExcept addr Q) (keeps : ∀ p, (f p).addr = p.addr) :
    (s.writePeer addr f).AllPeersExcept addr Q := by
  unfold State.writePeer
  split
  · simp only [State.AllPeersExcept, List.mem_map]
    rintro _ ⟨p, member, rfl⟩ other
    by_cases same : p.addr = addr
    · simp [same, keeps] at other
    · simpa [same] using except p member same
  · exact except

/-- A write that makes `Q` hold of the peers with the address restores it of every peer. -/
theorem writePeer_setting (except : s.AllPeersExcept addr Q)
    (sets : ∀ p, p.addr = addr → Q (f p)) : (s.writePeer addr f).AllPeers Q := by
  unfold State.writePeer
  split
  · simp only [State.AllPeers, List.mem_map]
    rintro _ ⟨p, member, rfl⟩
    by_cases same : p.addr = addr
    · simpa [same] using sets p same
    · simpa [same] using except p member same
  · rename_i untracked
    intro p member
    exact except p member fun same => untracked (same ▸ List.mem_map_of_mem _ member)

/-- With distinct addresses, a write that makes `Q` hold of the peer found at the address
restores it of every peer. -/
theorem writePeer_of_found (except : s.AllPeersExcept addr Q) (nodup : s.addrs.Nodup)
    {peer : TdlsAutoPeer} (found : tdlsAutoFindPeer s addr = some peer) (holds : Q (f peer)) :
    (s.writePeer addr f).AllPeers Q := by
  rw [State.writePeer_of_tracked (tracked_of_tdlsAutoFindPeer found)]
  simp only [State.AllPeers, List.mem_map]
  rintro _ ⟨p, member, rfl⟩
  split
  · rename_i same
    rwa [eq_of_tdlsAutoFindPeer nodup found member same]
  · rename_i other
    exact except p member other

/-- Freeing the peer with the address leaves only peers with other addresses. -/
theorem stopFree (except : s.AllPeersExcept addr Q) (nodup : s.addrs.Nodup) :
    (tdlsAutoModeStopFree addr s).AllPeers Q := by
  intro p member
  rw [tdlsAutoModeStopFree_peers, ← tdlsAutoPeerFree_peers] at member
  obtain ⟨member, other⟩ := mem_peers_tdlsAutoPeerFree addr s nodup member
  exact except p member other

end State.AllPeersExcept

namespace State.AllPeers

variable {Q : TdlsAutoPeer → Prop} {s t : State} {addr : MacAddr}
  {f : TdlsAutoPeer → TdlsAutoPeer}

theorem of_sublist (inv : s.AllPeers Q) (sub : t.peers.Sublist s.peers) : t.AllPeers Q :=
  fun p member => inv p (sub.subset member)

/-- `Q` reads a view of a peer, and the peers' views are kept. -/
theorem of_map {β : Type} {view : TdlsAutoPeer → β} (inv : s.AllPeers Q)
    (same : t.peers.map view = s.peers.map view) (reads : ∀ p q, view p = view q → Q q → Q p) :
    t.AllPeers Q := fun p member => by
  obtain ⟨q, member', views⟩ := List.mem_map.1 (same ▸ List.mem_map_of_mem view member)
  exact reads p q views.symm (inv q member')

theorem except (inv : s.AllPeers Q) (addr : MacAddr) : s.AllPeersExcept addr Q :=
  fun p member _ => inv p member

theorem setTimer (inv : s.AllPeers Q) (handler : Handler) :
    (tdlsAutoSetTimer handler s).AllPeers Q := inv

theorem cancelTimer (inv : s.AllPeers Q) (handler : Handler) :
    (tdlsAutoCancelTimer handler s).AllPeers Q := inv

theorem setConnPeerCount (inv : s.AllPeers Q) (count : UInt32) :
    (s.setConnPeerCount count).AllPeers Q := inv

theorem logCall (inv : s.AllPeers Q) (call : Call) : (s.logCall call).AllPeers Q := inv

/-- A write that keeps `Q` keeps it of every peer. -/
theorem writePeer (inv : s.AllPeers Q) (addr : MacAddr) (keeps : ∀ p, Q p → Q (f p)) :
    (s.writePeer addr f).AllPeers Q := by
  unfold State.writePeer
  split
  · simp only [State.AllPeers, List.mem_map]
    rintro _ ⟨p, member, rfl⟩
    split
    · exact keeps p (inv p member)
    · exact inv p member
  · exact inv

/-- With distinct addresses, a write reaches only the peer found at the address. -/
theorem writePeer_of_found (inv : s.AllPeers Q) (nodup : s.addrs.Nodup) {peer : TdlsAutoPeer}
    (found : tdlsAutoFindPeer s addr = some peer) (holds : Q (f peer)) :
    (s.writePeer addr f).AllPeers Q :=
  (inv.except addr).writePeer_of_found nodup found holds

theorem stopFree (inv : s.AllPeers Q) (addr : MacAddr) :
    (tdlsAutoModeStopFree addr s).AllPeers Q :=
  inv.of_sublist (by rw [tdlsAutoModeStopFree_peers]; exact List.eraseP_sublist _)

/-- A failed add leaves the peers as they were. -/
theorem addPeer_of_failed (inv : s.AllPeers Q) {caps : Capabilities}
    (failed : (tdlsAutoAddPeer caps addr s).2 = false) :
    (tdlsAutoAddPeer caps addr s).1.AllPeers Q := by
  obtain ⟨_, _, result, -⟩ := tdlsAutoAddPeer_failed failed
  rw [result]
  exact inv

/-- An add keeps `Q` of every peer but the new one. -/
theorem addPeer_except (inv : s.AllPeers Q) (caps : Capabilities) (addr : MacAddr) :
    (tdlsAutoAddPeer caps addr s).1.AllPeersExcept addr Q := by
  intro p member other
  rcases tdlsAutoAddPeer_peers caps addr s with same | linked
  · exact inv p (same ▸ member)
  · rcases List.mem_cons.1 (linked ▸ member) with rfl | member
    · exact absurd rfl other
    · exact inv p member

/-- An add keeps `Q` when the zeroed record satisfies it. -/
theorem addPeer (inv : s.AllPeers Q) (caps : Capabilities) (addr : MacAddr)
    (fresh : Q (.zalloc addr)) : (tdlsAutoAddPeer caps addr s).1.AllPeers Q := by
  intro p member
  rcases tdlsAutoAddPeer_peers caps addr s with same | linked
  · exact inv p (same ▸ member)
  · rcases List.mem_cons.1 (linked ▸ member) with rfl | member
    · exact fresh
    · exact inv p member

end State.AllPeers

end TdlsAutoMode
