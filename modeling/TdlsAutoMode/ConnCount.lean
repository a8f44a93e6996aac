import TdlsAutoMode.RemovePeers

/-! # The connected-peer counter

`conn_peer_count` is adjusted apart from the `connected` flags it is meant to count:
`tdls_auto_peer_connected` increments it before it knows whether the peer can be added
(`tdlsAutoPeerConnected_connPeerCount`), `tdls_auto_peer_disconnected` decrements it for
every tracked peer, connected or not (`tdlsAutoPeerDisconnected_connPeerCount`), and
`tdls_auto_remove_peers` without `kill_active_links` frees connected peers without
decrementing it (`tdlsAutoRemovePeers_idle`).

Each of the three is reachable from `tdls_auto_init` with every capability succeeding
but the one named, and each breaks what the counter is used for: the count wraps below
zero (`connPeerCount_wraps_below_zero`), a connected peer goes unmonitored while a
teardown timer keeps re-arming with no peer connected (`teardown_timers_track_counter`),
and a failed `tdls_auto_peer_connected` is not atomic (`peerConnected_failure_counts_peer`).
`tdls_auto_mode_start` fails atomically (`tdlsAutoModeStart_failed`).

The same decrement makes `tdls_auto_peer_disconnected` fail to be idempotent: a repeated
call for a peer that stays tracked changes nothing but the counter, which it lowers once
more (`tdlsAutoPeerDisconnected_twice`).
-/

namespace TdlsAutoMode

section lemmas

variable {caps : Capabilities} {addr : MacAddr} {s : State}

@[simp] theorem tdlsAutoAddPeer_connPeerCount :
    (tdlsAutoAddPeer caps addr s).1.connPeerCount = s.connPeerCount := by
  cases outcome : (tdlsAutoAddPeer caps addr s).2
  · obtain ⟨_, _, result, -⟩ := tdlsAutoAddPeer_failed outcome
    rw [result]
  · obtain ⟨_, result⟩ := tdlsAutoAddPeer_added outcome
    rw [result]
    split <;> rfl

@[simp] theorem tdlsAutoPeerConnectedFound_connPeerCount :
    (tdlsAutoPeerConnectedFound caps addr s).connPeerCount = s.connPeerCount := by
  unfold tdlsAutoPeerConnectedFound
  dsimp only
  split <;> simp

/-- `tdls_auto_peer_connected` counts one more connected peer on every path. -/
theorem tdlsAutoPeerConnected_connPeerCount :
    (tdlsAutoPeerConnected caps addr s).connPeerCount = s.connPeerCount + 1 := by
  obtain ⟨-, same⟩ | ⟨-, -, same⟩ | ⟨-, -, same⟩ := tdlsAutoPeerConnected_cases caps addr s <;>
    simp [same]

/-- When the peer of an unknown address cannot be added, `tdls_auto_peer_connected` keeps
the registry and the timers but counts a connected peer. -/
theorem tdlsAutoPeerConnected_of_failed (untracked : ¬ s.Tracked addr)
    (failed : (tdlsAutoAddPeer caps addr (s.setConnPeerCount (s.connPeerCount + 1))).2 = false) :
    ∃ peerCache calls, tdlsAutoPeerConnected caps addr s =
      { s with connPeerCount := s.connPeerCount + 1, peerCache, calls } := by
  obtain ⟨peerCache, calls, result, -⟩ := tdlsAutoAddPeer_failed failed
  refine ⟨peerCache, calls, ?_⟩
  obtain ⟨tracked, -⟩ | ⟨-, added, -⟩ | ⟨-, -, same⟩ := tdlsAutoPeerConnected_cases caps addr s
  · exact absurd tracked untracked
  · rw [failed] at added
    cases added
  · rw [same, result]
    rfl

/-- `tdls_auto_peer_disconnected` uncounts a connected peer for every tracked address,
whether or not its peer is connected. -/
theorem tdlsAutoPeerDisconnected_connPeerCount {disconnect : MacAddr → State → State}
    (tracked : s.Tracked addr) :
    (tdlsAutoPeerDisconnected disconnect addr s).connPeerCount = s.connPeerCount - 1 := by
  obtain ⟨peer, found⟩ : ∃ peer, tdlsAutoFindPeer s addr = some peer :=
    Option.ne_none_iff_exists'.1 fun missing => tdlsAutoFindPeer_eq_none_iff.1 missing tracked
  rw [tdlsAutoPeerDisconnected_of_found found]
  split <;> simp

/-- A failed `tdls_auto_mode_start` touches only the driver's peer cache and the call log. -/
theorem tdlsAutoModeStart_failed (failed : (tdlsAutoModeStart caps addr s).1 = -1) :
    ∃ peerCache calls, (tdlsAutoModeStart caps addr s).2 = { s with peerCache, calls } := by
  have missing : tdlsAutoFindPeer s addr = none := by
    cases found : tdlsAutoFindPeer s addr <;> simp_all [tdlsAutoModeStart]
  rcases added : tdlsAutoAddPeer caps addr s with ⟨t, _ | _⟩
  · have outcome : (tdlsAutoAddPeer caps addr s).2 = false := by rw [added]
    obtain ⟨peerCache, calls, result, -⟩ := tdlsAutoAddPeer_failed outcome
    exact ⟨peerCache, calls, by simpa [tdlsAutoModeStart, missing, added] using result⟩
  · simp [tdlsAutoModeStart, missing, added] at failed

/-- A write that changes no peer with the address leaves a tracked address's state as it is. -/
theorem State.writePeer_eq_self {f : TdlsAutoPeer → TdlsAutoPeer} (tracked : s.Tracked addr)
    (fixed : ∀ p ∈ s.peers, p.addr = addr → f p = p) : s.writePeer addr f = s := by
  rw [State.writePeer_of_tracked tracked]
  change _ = { s with peers := s.peers }
  congr 1
  refine (List.map_congr_left fun p member => ?_).trans (List.map_id _)
  split_ifs with same
  · exact fixed p member same
  · rfl

/-- `disconnected` for an outgoing peer that is already marked disconnected, with its
counters cleared and a fast-connect attempt pending, only decrements the count. -/
theorem tdlsAutoPeerDisconnected_of_reset {disconnect : MacAddr → State → State}
    {peer : TdlsAutoPeer} (nodup : s.addrs.Nodup) (found : tdlsAutoFindPeer s addr = some peer)
    (outgoing : peer.incomingPeer = false) (idle : peer.connected = false)
    (cleared : peer.lowRssiVals = 0 ∧ peer.fastAttempts = 0)
    (pending : s.pending .fastConnect = true) :
    tdlsAutoPeerDisconnected disconnect addr s = s.setConnPeerCount (s.connPeerCount - 1) := by
  have tracked := tracked_of_tdlsAutoFindPeer found
  have only : ∀ p ∈ s.peers, p.addr = addr → p = peer := fun p member same =>
    eq_of_tdlsAutoFindPeer nodup found member same
  have marked : (s.writePeer addr fun p => { p with connected := false }) = s :=
    State.writePeer_eq_self tracked fun p member same => by
      rw [only p member same]
      cases peer
      simp_all
  have zeroed : (s.writePeer addr fun p => { p with lowRssiVals := 0, fastAttempts := 0 }) = s :=
    State.writePeer_eq_self tracked fun p member same => by
      rw [only p member same]
      cases peer
      simp_all
  have rearmed : tdlsAutoSetTimer .fastConnect s = s := by
    change { s with pending := _ } = { s with pending := s.pending }
    rw [Function.update_eq_self_iff.2 pending.symm]
  rw [tdlsAutoPeerDisconnected_of_found found]
  simp only [outgoing, Bool.false_eq_true, ↓reduceIte, marked, zeroed, rearmed]

end lemmas

/-- **The connected-peer count wraps below zero.** A started peer that was never connected
reports a disconnection: the count goes from 0 to `2^32 - 1` with no peer connected. -/
theorem connPeerCount_wraps_below_zero :
    Reachable (runEvents [(.nominal false 0, .modeStart stationA),
        (.nominal false 0, .peerDisconnected stationA)] (tdlsAutoInit scenarioConfig)) ∧
      (runEvents [(.nominal false 0, .modeStart stationA),
        (.nominal false 0, .peerDisconnected stationA)]
        (tdlsAutoInit scenarioConfig)).connPeerCount = 4294967295 ∧
      ((runEvents [(.nominal false 0, .modeStart stationA),
        (.nominal false 0, .peerDisconnected stationA)]
        (tdlsAutoInit scenarioConfig)).peers.filter (·.connected)).length = 0 :=
  ⟨(Reachable.init _).runEvents (by decide), by decide, by decide⟩

/-- **The teardown timers follow the counter, not the connected peers.** After the wrap
above, the peer connects and the count becomes 0, so the RSSI-teardown timer is not armed
for it; and after a connected peer is removed without killing its link, the count stays 1
with no peer left, and the data-teardown timer re-arms when it fires. -/
theorem teardown_timers_track_counter :
    Reachable (runEvents [(.nominal false 0, .modeStart stationA),
        (.nominal false 0, .peerDisconnected stationA), (.nominal false 0, .peerConnected stationA)]
        (tdlsAutoInit scenarioConfig)) ∧
      (∃ p ∈ (runEvents [(.nominal false 0, .modeStart stationA),
        (.nominal false 0, .peerDisconnected stationA), (.nominal false 0, .peerConnected stationA)]
        (tdlsAutoInit scenarioConfig)).peers, p.connected = true) ∧
      (runEvents [(.nominal false 0, .modeStart stationA),
        (.nominal false 0, .peerDisconnected stationA), (.nominal false 0, .peerConnected stationA)]
        (tdlsAutoInit scenarioConfig)).pending .rssiTeardown = false ∧
      Reachable (runEvents [(.nominal false 0, .peerConnected stationA),
        (.nominal false 0, .removePeers false)] (tdlsAutoInit scenarioConfig)) ∧
      (runEvents [(.nominal false 0, .peerConnected stationA),
        (.nominal false 0, .removePeers false)] (tdlsAutoInit scenarioConfig)).peers = [] ∧
      (runEvents [(.nominal false 0, .peerConnected stationA),
        (.nominal false 0, .removePeers false), (.nominal false 0, .timeout .dataTeardown)]
        (tdlsAutoInit scenarioConfig)).pending .dataTeardown = true :=
  ⟨(Reachable.init _).runEvents (by decide), by decide, by decide,
    (Reachable.init _).runEvents (by decide), by decide, by decide⟩

/-- Capability answers in which the driver refuses every traffic-accounting request. -/
def Capabilities.refusingAccounting : Capabilities :=
  { Capabilities.nominal false 0 with monitorTraffic := fun _ _ => -1 }

/-- **A failed `tdls_auto_peer_connected` is not atomic.** On the first callback, the
driver refuses the accounting entry for the unknown address: the registry, the peer count
and the timers are as before, but the connected-peer count is 1. -/
theorem peerConnected_failure_counts_peer :
    (tdlsAutoPeerConnected .refusingAccounting stationA (tdlsAutoInit scenarioConfig)).peers =
        (tdlsAutoInit scenarioConfig).peers ∧
      (tdlsAutoPeerConnected .refusingAccounting stationA
        (tdlsAutoInit scenarioConfig)).peerCount = (tdlsAutoInit scenarioConfig).peerCount ∧
      (tdlsAutoPeerConnected .refusingAccounting stationA
        (tdlsAutoInit scenarioConfig)).pending = (tdlsAutoInit scenarioConfig).pending ∧
      (tdlsAutoPeerConnected .refusingAccounting stationA
        (tdlsAutoInit scenarioConfig)).connPeerCount = 1 ∧
      (tdlsAutoInit scenarioConfig).connPeerCount = 0 := by
  refine ⟨rfl, rfl, ?_, by decide, rfl⟩
  funext handler
  cases handler <;> decide

/-- **A repeated disconnection uncounts its peer again.** From every reachable state, a
second `tdls_auto_peer_disconnected(addr)` right after the first leaves the registry, the
peers' records, `peer_count` and the timers as the first left them; when the address is
still tracked, an outgoing peer, it decrements `conn_peer_count` once more, and otherwise it
changes nothing. -/
theorem tdlsAutoPeerDisconnected_twice (disconnect : MacAddr → State → State) (addr : MacAddr)
    {s : State} (reachable : Reachable s) :
    tdlsAutoPeerDisconnected disconnect addr (tdlsAutoPeerDisconnected disconnect addr s) =
      if (tdlsAutoPeerDisconnected disconnect addr s).Tracked addr then
        (tdlsAutoPeerDisconnected disconnect addr s).setConnPeerCount
          ((tdlsAutoPeerDisconnected disconnect addr s).connPeerCount - 1)
      else tdlsAutoPeerDisconnected disconnect addr s := by
  have nodup := (RegistryInv.invariant.reachable reachable).addrs_nodup
  cases found : tdlsAutoFindPeer s addr with
  | none =>
    have untracked := tdlsAutoFindPeer_eq_none_iff.1 found
    simp [untracked]
  | some peer =>
    have tracked := tracked_of_tdlsAutoFindPeer found
    rw [tdlsAutoPeerDisconnected_of_found found]
    cases incoming : peer.incomingPeer
    · have reset := tdlsAutoFindPeer_writePeer_of_found (fun _ => rfl)
        (tdlsAutoFindPeer_writePeer_of_found (f := fun p => { p with connected := false })
          (fun _ => rfl) found) (f := fun p => { p with lowRssiVals := 0, fastAttempts := 0 })
      simp only [incoming, Bool.false_eq_true, ↓reduceIte]
      split_ifs with tracked'
      · exact tdlsAutoPeerDisconnected_of_reset (by simpa using nodup) reset incoming rfl ⟨rfl, rfl⟩
          (by simp)
      · exact absurd (by simpa [State.Tracked] using tracked) tracked'
    · simp only [incoming, ↓reduceIte]
      split_ifs with tracked'
      · simp [State.Tracked, nodup.mem_erase_iff] at tracked'
      · exact tdlsAutoPeerDisconnected_of_untracked tracked'

/-- A started peer that reports two disconnections: the count drops twice. -/
theorem tdlsAutoPeerDisconnected_twice_started :
    let s := runEvents [(.nominal false 0, .modeStart stationA)] (tdlsAutoInit scenarioConfig)
    Reachable s ∧
      tdlsAutoPeerDisconnected logDisconnect stationA
          (tdlsAutoPeerDisconnected logDisconnect stationA s) =
        (tdlsAutoPeerDisconnected logDisconnect stationA s).setConnPeerCount
          ((tdlsAutoPeerDisconnected logDisconnect stationA s).connPeerCount - 1) ∧
      (tdlsAutoPeerDisconnected logDisconnect stationA s).connPeerCount = 4294967295 ∧
      (tdlsAutoPeerDisconnected logDisconnect stationA
        (tdlsAutoPeerDisconnected logDisconnect stationA s)).connPeerCount = 4294967294 := by
  have reachable : Reachable (runEvents [(.nominal false 0, .modeStart stationA)]
      (tdlsAutoInit scenarioConfig)) := (Reachable.init _).runEvents (by decide)
  have twice := tdlsAutoPeerDisconnected_twice logDisconnect stationA reachable
  rw [if_pos (by decide)] at twice
  exact ⟨reachable, twice, by decide, by rw [twice]; decide⟩

end TdlsAutoMode
