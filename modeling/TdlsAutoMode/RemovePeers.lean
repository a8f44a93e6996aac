import TdlsAutoMode.RegistryInvariant

/-! # Removing every peer

`tdls_auto_remove_peers` empties the registry from every state (`tdlsAutoRemovePeers_peers`):
a stop frees exactly the peer it looks up, even when `disconnect` re-enters
(`addrs_tdlsAutoModeStop`), so each iteration erases the address it visits and the walk
over the list as it was on entry leaves nothing behind.

Without `kill_active_links` every peer is marked disconnected before it is stopped, so the
removal issues no `disconnect`: the connected-peer count and the teardown timers are left
as they were (`tdlsAutoRemovePeersStep_idle`). `tdls_auto_deinit` is this removal followed
by freeing the controller, and the data-teardown and RSSI-teardown timeouts it leaves
registered carry the freed controller as their context
(`tdlsAutoDeinit_leaves_teardown_timers`).

With distinct addresses, which every reachable state has, a stop unlinks exactly the peer
it finds and leaves every other record as it was (`tdlsAutoModeStop_of_found`): under either
model of `disconnect` the peer count drops by one, the peer's accounting entry goes with a
single `monitor_traffic(addr, 0)`, and `disconnect` is issued once for a connected peer and
never for an idle one (`tdlsAutoModeStop_frame`). A removal therefore issues one
`disconnect` per peer that was connected, and only with `kill_active_links`
(`count_disconnect_foldl_tdlsAutoRemovePeersStep`).
-/

namespace TdlsAutoMode

section stop

variable (caps : Capabilities) (addr : MacAddr) (s : State)

/-- A stop frees exactly the peer it looks up: the re-entered callback of its `disconnect`
sees an outgoing peer and keeps it. -/
theorem addrs_tdlsAutoModeStop :
    (tdlsAutoModeStop caps.disconnect addr s).addrs = s.addrs.erase addr := by
  cases found : tdlsAutoFindPeer s addr with
  | none =>
    have untracked := tdlsAutoFindPeer_eq_none_iff.1 found
    rw [tdlsAutoModeStop_of_untracked untracked, List.erase_of_not_mem untracked]
  | some peer =>
    cases active : peer.connected
    · rw [tdlsAutoModeStop_of_idle found active, tdlsAutoModeStopFree_addrs]
    · rw [tdlsAutoModeStop_of_active found active, tdlsAutoModeStopFree_addrs,
        Capabilities.addrs_disconnect_of_stop found]

/-- Each iteration of the removal erases the address it visits. -/
theorem addrs_tdlsAutoRemovePeersStep (killActiveLinks : Bool) :
    (tdlsAutoRemovePeersStep caps killActiveLinks s addr).addrs = s.addrs.erase addr := by
  cases killActiveLinks
  · rw [tdlsAutoRemovePeersStep, addrs_tdlsAutoModeStop]
    simp
  · exact addrs_tdlsAutoModeStop caps addr s

/-- Without `kill_active_links`, an iteration frees its peer marked disconnected, with no
`disconnect`. -/
theorem tdlsAutoRemovePeersStep_idle :
    tdlsAutoRemovePeersStep caps false s addr =
      if s.Tracked addr then
        tdlsAutoModeStopFree addr (s.writePeer addr fun p => { p with connected := false })
      else s.writePeer addr fun p => { p with connected := false } := by
  have idle : tdlsAutoFindPeer (s.writePeer addr fun p => { p with connected := false }) addr =
      (tdlsAutoFindPeer s addr).map fun p => { p with connected := false } :=
    tdlsAutoFindPeer_writePeer_self (f := fun p => { p with connected := false }) fun _ => rfl
  simp only [tdlsAutoRemovePeersStep, Bool.false_eq_true, ↓reduceIte]
  split_ifs with tracked
  · obtain ⟨peer, found⟩ : ∃ peer, tdlsAutoFindPeer s addr = some peer :=
      Option.ne_none_iff_exists'.1 fun missing => tdlsAutoFindPeer_eq_none_iff.1 missing tracked
    rw [found] at idle
    exact tdlsAutoModeStop_of_idle idle rfl
  · exact tdlsAutoModeStop_of_untracked (by simpa using tracked)

end stop

section records

variable {addr : MacAddr} {s : State}

/-- With distinct addresses, unlinking the first peer with an address unlinks every peer
with it. -/
theorem eraseP_addr_eq_filter : ∀ {peers : List TdlsAutoPeer}, (peers.map (·.addr)).Nodup →
    peers.eraseP (·.addr = addr) = peers.filter (·.addr ≠ addr)
  | [], _ => rfl
  | p :: rest, nodup => by
    rw [List.map_cons, List.nodup_cons] at nodup
    by_cases same : p.addr = addr
    · rw [List.eraseP_cons_of_pos (by simpa using same),
        List.filter_cons_of_neg (by simpa using same)]
      refine (List.filter_eq_self.2 fun q member => ?_).symm
      have other : q.addr ≠ addr := fun same' =>
        nodup.1 (same ▸ same' ▸ List.mem_map_of_mem (·.addr) member)
      simpa using other
    · rw [List.eraseP_cons_of_neg (by simpa using same),
        List.filter_cons_of_pos (by simpa using same), eraseP_addr_eq_filter nodup.2]

/-- A write through the pointer to one peer leaves every peer with another address. -/
theorem State.filter_writePeer {f : TdlsAutoPeer → TdlsAutoPeer}
    (keeps : ∀ p, (f p).addr = p.addr) :
    (s.writePeer addr f).peers.filter (·.addr ≠ addr) = s.peers.filter (·.addr ≠ addr) := by
  unfold State.writePeer
  split
  · have kept : ((fun p : TdlsAutoPeer => decide (p.addr ≠ addr)) ∘
        fun p => if p.addr = addr then f p else p) = fun p => decide (p.addr ≠ addr) := by
      funext p
      by_cases same : p.addr = addr <;> simp [same, keeps]
    rw [List.filter_map, kept]
    refine (List.map_congr_left fun p member => ?_).trans (List.map_id _)
    have other : p.addr ≠ addr := by simpa using (List.mem_filter.1 member).2
    simp [other]
  · rfl

end records

section stopFrame

variable (caps : Capabilities) {addr : MacAddr} {s : State} {peer : TdlsAutoPeer}

/-- `disconnect` of an outgoing peer, under either model: the call is issued, and the peers
with other addresses, the peer count and the driver's peer cache are kept. -/
theorem Capabilities.disconnect_frame_of_outgoing (found : tdlsAutoFindPeer s addr = some peer)
    (outgoing : peer.incomingPeer = false) :
    (caps.disconnect addr s).peers.filter (·.addr ≠ addr) = s.peers.filter (·.addr ≠ addr) ∧
      (caps.disconnect addr s).peerCount = s.peerCount ∧
      (caps.disconnect addr s).peerCache = s.peerCache ∧
      (caps.disconnect addr s).calls = .disconnect addr :: s.calls := by
  rw [Capabilities.disconnect_of_outgoing found outgoing]
  split
  · refine ⟨?_, by simp [logDisconnect], by simp [logDisconnect], by simp [logDisconnect]⟩
    simp only [State.setConnPeerCount_peers, tdlsAutoSetTimer_peers]
    rw [State.filter_writePeer, State.filter_writePeer] <;> first | rfl | intro; rfl
  · exact ⟨rfl, rfl, rfl, rfl⟩

/-- `tdls_auto_mode_stop` of a tracked address, with distinct addresses: it unlinks exactly
that peer, uncounts it, drops its accounting entry with one `monitor_traffic(addr, 0)`, and
issues `disconnect(addr)` once when the peer was connected and never otherwise. -/
theorem tdlsAutoModeStop_of_found (nodup : s.addrs.Nodup)
    (found : tdlsAutoFindPeer s addr = some peer) :
    (tdlsAutoModeStop caps.disconnect addr s).peers = s.peers.filter (·.addr ≠ addr) ∧
      (tdlsAutoModeStop caps.disconnect addr s).peerCount = s.peerCount - 1 ∧
      (tdlsAutoModeStop caps.disconnect addr s).peerCache = s.peerCache.filter (· ≠ addr) ∧
      (tdlsAutoModeStop caps.disconnect addr s).calls = .monitorTraffic addr false ::
        ((if peer.connected then [.disconnect addr] else []) ++ s.calls) := by
  cases active : peer.connected
  · rw [tdlsAutoModeStop_of_idle found active]
    simp [eraseP_addr_eq_filter nodup]
  · rw [tdlsAutoModeStop_of_active found active]
    obtain ⟨others, count, cache, calls⟩ := Capabilities.disconnect_frame_of_outgoing caps
      (tdlsAutoFindPeer_writePeer_of_found (f := fun p => { p with incomingPeer := false })
        (fun _ => rfl) found) rfl
    have unchanged : (caps.disconnect addr
        (s.writePeer addr fun p => { p with incomingPeer := false })).addrs.Nodup := by
      rwa [Capabilities.addrs_disconnect_of_stop found]
    refine ⟨?_, ?_, ?_, ?_⟩
    · rw [tdlsAutoModeStopFree_peers, eraseP_addr_eq_filter unchanged, others,
        State.filter_writePeer]
      intro; rfl
    · rw [tdlsAutoModeStopFree_peerCount, count, State.writePeer_peerCount]
    · rw [tdlsAutoModeStopFree_peerCache, cache, State.writePeer_peerCache]
    · rw [tdlsAutoModeStopFree_calls, calls, State.writePeer_calls]
      rfl

/-- **A stop removes exactly its peer.** In every reachable state, under either model of
`disconnect`, `tdls_auto_mode_stop` of a tracked address leaves the other peers' records as
they were and no peer with that address, decrements `peer_count` once, drops the address
from the driver's accounting with a single `monitor_traffic(addr, 0)`, and calls
`disconnect(addr)` once when the peer was connected and never otherwise. -/
theorem tdlsAutoModeStop_frame (reachable : Reachable s)
    (found : tdlsAutoFindPeer s addr = some peer) :
    (tdlsAutoModeStop caps.disconnect addr s).peers = s.peers.filter (·.addr ≠ addr) ∧
      (tdlsAutoModeStop caps.disconnect addr s).peerCount = s.peerCount - 1 ∧
      (tdlsAutoModeStop caps.disconnect addr s).peerCache = s.peerCache.filter (· ≠ addr) ∧
      (tdlsAutoModeStop caps.disconnect addr s).calls = .monitorTraffic addr false ::
        ((if peer.connected then [.disconnect addr] else []) ++ s.calls) :=
  tdlsAutoModeStop_of_found caps (RegistryInv.invariant.reachable reachable).addrs_nodup found

/-- The re-entrant path: an incoming connected peer, whose `disconnect` calls back into
`tdls_auto_peer_disconnected` before the free, is still removed once. -/
theorem tdlsAutoModeStop_frame_incoming :
    let s := runEvents [(.nominal true 0, .peerConnected stationA)] (tdlsAutoInit scenarioConfig)
    Reachable s ∧ tdlsAutoFindPeer s stationA =
        some { TdlsAutoPeer.zalloc stationA with connected := true, incomingPeer := true } ∧
      (tdlsAutoModeStop (Capabilities.nominal true 0).disconnect stationA s).peers =
        s.peers.filter (·.addr ≠ stationA) ∧
      (tdlsAutoModeStop (Capabilities.nominal true 0).disconnect stationA s).peerCount =
        s.peerCount - 1 ∧
      (tdlsAutoModeStop (Capabilities.nominal true 0).disconnect stationA s).peerCache =
        s.peerCache.filter (· ≠ stationA) ∧
      (tdlsAutoModeStop (Capabilities.nominal true 0).disconnect stationA s).calls =
        .monitorTraffic stationA false :: ([.disconnect stationA] ++ s.calls) := by
  have reachable : Reachable (runEvents [(.nominal true 0, .peerConnected stationA)]
      (tdlsAutoInit scenarioConfig)) := (Reachable.init _).runEvents (by decide)
  have found : tdlsAutoFindPeer (runEvents [(.nominal true 0, .peerConnected stationA)]
      (tdlsAutoInit scenarioConfig)) stationA =
      some { TdlsAutoPeer.zalloc stationA with connected := true, incomingPeer := true } := by
    decide
  exact ⟨reachable, found, tdlsAutoModeStop_frame _ reachable found⟩

end stopFrame

section removePeers

variable (caps : Capabilities) (killActiveLinks : Bool)

/-- The walk over the addresses on entry ends with an empty list. -/
theorem addrs_foldl_tdlsAutoRemovePeersStep :
    ∀ (addrs : List MacAddr) (s : State), s.addrs = addrs →
      (addrs.foldl (tdlsAutoRemovePeersStep caps killActiveLinks) s).addrs = []
  | [], _, entry => entry
  | addr :: rest, s, entry =>
    addrs_foldl_tdlsAutoRemovePeersStep rest _ <| by
      rw [addrs_tdlsAutoRemovePeersStep, entry, List.erase_cons_head]

/-- `tdls_auto_remove_peers` leaves no peer tracked. -/
theorem tdlsAutoRemovePeers_peers (s : State) :
    (tdlsAutoRemovePeers caps killActiveLinks s).peers = [] :=
  List.map_eq_nil_iff.1 (addrs_foldl_tdlsAutoRemovePeersStep caps killActiveLinks s.addrs s rfl)

/-- An iteration of the removal stops the peer it visits: it unlinks exactly that peer and
issues `disconnect` only with `kill_active_links` and a connected peer. -/
theorem tdlsAutoRemovePeersStep_of_found {s : State} {addr : MacAddr} {peer : TdlsAutoPeer}
    (nodup : s.addrs.Nodup) (found : tdlsAutoFindPeer s addr = some peer) :
    (tdlsAutoRemovePeersStep caps killActiveLinks s addr).peers =
        s.peers.filter (·.addr ≠ addr) ∧
      (tdlsAutoRemovePeersStep caps killActiveLinks s addr).calls = .monitorTraffic addr false ::
        ((if killActiveLinks && peer.connected then [.disconnect addr] else []) ++ s.calls) := by
  cases killActiveLinks
  · have idle := tdlsAutoFindPeer_writePeer_of_found (f := fun p => { p with connected := false })
      (fun _ => rfl) found
    obtain ⟨peers, -, -, calls⟩ := tdlsAutoModeStop_of_found caps
      (by rwa [State.addrs_writePeer (f := fun p => { p with connected := false }) fun _ => rfl])
      idle
    exact ⟨peers.trans (State.filter_writePeer fun _ => rfl), by simpa using calls⟩
  · obtain ⟨peers, -, -, calls⟩ := tdlsAutoModeStop_of_found caps nodup found
    exact ⟨peers, by simpa using calls⟩

/-- With distinct addresses, the peer found for `addr` is the only candidate with it. -/
theorem exists_connected_iff_of_found {s : State} {addr : MacAddr} {peer : TdlsAutoPeer}
    (nodup : s.addrs.Nodup) (found : tdlsAutoFindPeer s addr = some peer) :
    (∃ p ∈ s.peers, p.addr = addr ∧ p.connected = true) ↔ peer.connected = true := by
  obtain ⟨member, at_addr⟩ := mem_of_tdlsAutoFindPeer found
  exact ⟨fun ⟨p, mem, same, active⟩ => eq_of_tdlsAutoFindPeer nodup found mem same ▸ active,
    fun active => ⟨peer, member, at_addr, active⟩⟩

/-- A peer with address `b` survives unlinking `addr` exactly when the two differ. -/
theorem exists_filter_addr_ne_iff {peers : List TdlsAutoPeer} {addr b : MacAddr}
    {q : TdlsAutoPeer → Prop} :
    (∃ p ∈ peers.filter (·.addr ≠ addr), p.addr = b ∧ q p) ↔
      addr ≠ b ∧ ∃ p ∈ peers, p.addr = b ∧ q p := by
  simp only [List.mem_filter, decide_eq_true_eq]
  constructor
  · rintro ⟨p, ⟨mem, other⟩, rfl, holds⟩
    exact ⟨Ne.symm other, p, mem, rfl, holds⟩
  · rintro ⟨other, p, mem, rfl, holds⟩
    exact ⟨p, ⟨mem, Ne.symm other⟩, rfl, holds⟩

/-- The walk over the addresses on entry issues one `disconnect` per peer that was connected,
and only with `kill_active_links`. -/
theorem count_disconnect_foldl_tdlsAutoRemovePeersStep (b : MacAddr) :
    ∀ (addrs : List MacAddr) (s : State), s.addrs = addrs → addrs.Nodup →
      (addrs.foldl (tdlsAutoRemovePeersStep caps killActiveLinks) s).calls.count (.disconnect b) =
        s.calls.count (.disconnect b) +
          if killActiveLinks = true ∧ ∃ p ∈ s.peers, p.addr = b ∧ p.connected = true then 1 else 0
  | [], s, entry, _ => by
    have empty : s.peers = [] := List.map_eq_nil_iff.1 entry
    simp [empty]
  | addr :: rest, s, entry, nodup => by
    obtain ⟨peer, found⟩ : ∃ peer, tdlsAutoFindPeer s addr = some peer :=
      Option.ne_none_iff_exists'.1 fun missing =>
        tdlsAutoFindPeer_eq_none_iff.1 missing (by simp [State.Tracked, entry])
    obtain ⟨peers, calls⟩ :=
      tdlsAutoRemovePeersStep_of_found caps killActiveLinks (entry ▸ nodup) found
    have remaining : (tdlsAutoRemovePeersStep caps killActiveLinks s addr).addrs = rest := by
      rw [addrs_tdlsAutoRemovePeersStep, entry, List.erase_cons_head]
    rw [List.foldl_cons, count_disconnect_foldl_tdlsAutoRemovePeersStep b rest _ remaining
      (List.nodup_cons.1 nodup).2, calls]
    simp only [peers, exists_filter_addr_ne_iff]
    by_cases same : addr = b
    · subst same
      simp only [exists_connected_iff_of_found (entry ▸ nodup) found]
      cases killActiveLinks <;> cases peer.connected <;> simp
    · cases killActiveLinks <;> cases peer.connected <;> simp [same, Ne.symm same]

end removePeers

section idle

variable {caps : Capabilities} {handler : Handler}

/-- A removal without `kill_active_links` keeps the connected-peer count and every timer but
the two connect timers. -/
theorem tdlsAutoRemovePeers_idle (s : State) (notFast : handler ≠ .fastConnect)
    (notSlow : handler ≠ .slowConnect) :
    (tdlsAutoRemovePeers caps false s).connPeerCount = s.connPeerCount ∧
      (tdlsAutoRemovePeers caps false s).pending handler = s.pending handler :=
  List.foldlRecOn (motive := fun t => t.connPeerCount = s.connPeerCount ∧
      t.pending handler = s.pending handler) s.addrs _ s ⟨rfl, rfl⟩
    fun t ⟨count, timer⟩ addr _ => by
      rw [tdlsAutoRemovePeersStep_idle]
      split_ifs
      · rw [tdlsAutoModeStopFree_eq]
        split_ifs <;> simp [count, timer, notFast, notSlow]
      · simp [count, timer]

end idle

/-- `tdls_auto_deinit` leaves the data-teardown and RSSI-teardown timers as they were. -/
theorem tdlsAutoDeinit_pending_teardown (caps : Capabilities) (s : State) :
    (tdlsAutoDeinit caps s).pending .dataTeardown = s.pending .dataTeardown ∧
      (tdlsAutoDeinit caps s).pending .rssiTeardown = s.pending .rssiTeardown :=
  ⟨(tdlsAutoRemovePeers_idle s (by decide) (by decide)).2,
    (tdlsAutoRemovePeers_idle s (by decide) (by decide)).2⟩

/-- **Deinit leaves the teardown timers registered.** Once a peer has connected, whatever
the capabilities answer during `tdls_auto_deinit`, both teardown timeouts stay registered,
with the freed controller as their context. -/
theorem tdlsAutoDeinit_leaves_teardown_timers (caps : Capabilities) :
    Reachable (runEvents [(.nominal false 0, .peerConnected stationA)]
        (tdlsAutoInit scenarioConfig)) ∧
      (tdlsAutoDeinit caps (runEvents [(.nominal false 0, .peerConnected stationA)]
        (tdlsAutoInit scenarioConfig))).pending .dataTeardown = true ∧
      (tdlsAutoDeinit caps (runEvents [(.nominal false 0, .peerConnected stationA)]
        (tdlsAutoInit scenarioConfig))).pending .rssiTeardown = true := by
  obtain ⟨data, rssi⟩ := tdlsAutoDeinit_pending_teardown caps
    (runEvents [(.nominal false 0, .peerConnected stationA)] (tdlsAutoInit scenarioConfig))
  exact ⟨(Reachable.init _).runEvents (by decide), data.trans (by decide),
    rssi.trans (by decide)⟩

end TdlsAutoMode
