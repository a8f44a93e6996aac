import TdlsAutoMode.Effects

/-! # The registry's representation invariant

In every reachable state no two peers share an address, the driver's peer cache holds exactly
the tracked addresses, and the peer count is the length of the list modulo `2^32`, so the
length itself while the list holds fewer than `2^32` peers
(`registry_representation_invariant`). `peer_count` is an `unsigned int`: `2^32` starts of
distinct stations wrap it to zero with all their peers tracked (`registry_count_wraps`).

Both insertion paths look the address up first, and every removal and every failure
path drops the cache entry; the proof follows each operation through those two facts,
`RegistryInv.addPeer` and `RegistryInv.stopFree`.
-/

namespace TdlsAutoMode

/-- The registry's representation invariant. -/
structure RegistryInv (s : State) : Prop where
  peerCount_toNat : s.peerCount.toNat = s.peers.length % 2 ^ 32
  addrs_nodup : s.addrs.Nodup
  mem_peerCache : ∀ addr, addr ∈ s.peerCache ↔ s.Tracked addr

namespace RegistryInv

variable {s s' : State}

theorem length_peers (s : State) : s.peers.length = s.addrs.length := (List.length_map _ _).symm

/-- The invariant depends only on the addresses, the count and the peer cache's members. -/
theorem of_frame (inv : RegistryInv s) (addrs : s'.addrs = s.addrs)
    (count : s'.peerCount = s.peerCount) (cache : ∀ b, b ∈ s'.peerCache ↔ b ∈ s.peerCache) :
    RegistryInv s' where
  peerCount_toNat := by rw [count, length_peers, addrs, ← length_peers, inv.peerCount_toNat]
  addrs_nodup := addrs ▸ inv.addrs_nodup
  mem_peerCache b := by rw [cache, inv.mem_peerCache, State.Tracked, State.Tracked, addrs]

theorem logCall (inv : RegistryInv s) (call : Call) : RegistryInv (s.logCall call) :=
  inv.of_frame rfl rfl fun _ => .rfl

theorem setTimer (inv : RegistryInv s) (handler : Handler) :
    RegistryInv (tdlsAutoSetTimer handler s) :=
  inv.of_frame rfl rfl fun _ => .rfl

theorem cancelTimer (inv : RegistryInv s) (handler : Handler) :
    RegistryInv (tdlsAutoCancelTimer handler s) :=
  inv.of_frame rfl rfl fun _ => .rfl

theorem setConnPeerCount (inv : RegistryInv s) (count : UInt32) :
    RegistryInv (s.setConnPeerCount count) :=
  inv.of_frame rfl rfl fun _ => .rfl

theorem writePeer (inv : RegistryInv s) (addr : MacAddr) (f : TdlsAutoPeer → TdlsAutoPeer)
    (keeps : ∀ p, (f p).addr = p.addr) : RegistryInv (s.writePeer addr f) :=
  inv.of_frame (State.addrs_writePeer keeps) (by simp) (by simp)

/-- Freeing a tracked peer, and cancelling the connect timers after the last one. -/
theorem stopFree (inv : RegistryInv s) {addr : MacAddr} (tracked : s.Tracked addr) :
    RegistryInv (tdlsAutoModeStopFree addr s) where
  peerCount_toNat := by
    have shorter : (s.addrs.erase addr).length = s.addrs.length - 1 :=
      List.length_erase_of_mem tracked
    have positive : 0 < s.addrs.length := List.length_pos_of_mem tracked
    rw [tdlsAutoModeStopFree_peerCount, uint32_toNat_sub_one, length_peers,
      tdlsAutoModeStopFree_addrs, shorter, inv.peerCount_toNat, length_peers]
    omega
  addrs_nodup := by rw [tdlsAutoModeStopFree_addrs]; exact inv.addrs_nodup.erase addr
  mem_peerCache b := by
    rw [tdlsAutoModeStopFree_peerCache, State.Tracked, tdlsAutoModeStopFree_addrs,
      inv.addrs_nodup.mem_erase_iff, List.mem_filter, inv.mem_peerCache]
    simp [State.Tracked, and_comm]

/-- Adding an untracked address, whether it succeeds or fails. -/
theorem addPeer (inv : RegistryInv s) (caps : Capabilities) {addr : MacAddr}
    (fresh : ¬ s.Tracked addr) : RegistryInv (tdlsAutoAddPeer caps addr s).1 := by
  cases outcome : (tdlsAutoAddPeer caps addr s).2
  · obtain ⟨peerCache, calls, result, mem⟩ := tdlsAutoAddPeer_failed outcome
    rw [result]
    refine inv.of_frame rfl rfl fun b => ?_
    rw [mem]
    by_cases same : b = addr
    · subst same; simp [inv.mem_peerCache, fresh]
    · simp [same]
  · obtain ⟨calls, result⟩ := tdlsAutoAddPeer_added outcome
    rw [result]
    have linked : RegistryInv { s with
        peers := .zalloc addr :: s.peers
        peerCount := s.peerCount + 1
        peerCache := (s.peerCache.filter (· ≠ addr)).insert addr
        calls } := by
      refine ⟨?_, List.nodup_cons.2 ⟨fresh, inv.addrs_nodup⟩, fun b => ?_⟩
      · simp only [List.length_cons, uint32_toNat_add_one, inv.peerCount_toNat]
        omega
      · by_cases same : b = addr
        · subst same; simp [State.Tracked, State.addrs, TdlsAutoPeer.zalloc]
        · have other : b ≠ (TdlsAutoPeer.zalloc addr).addr := same
          simp [same, other, inv.mem_peerCache, State.Tracked, State.addrs]
    split
    · exact (linked.setTimer _).setTimer _
    · exact linked.setTimer _

theorem peerDisconnected (inv : RegistryInv s) (disconnect : MacAddr → State → State)
    (addr : MacAddr) : RegistryInv (tdlsAutoPeerDisconnected disconnect addr s) := by
  cases found : tdlsAutoFindPeer s addr with
  | none => simpa [tdlsAutoPeerDisconnected, found] using inv
  | some peer =>
    rw [tdlsAutoPeerDisconnected_of_found found]
    have written := inv.writePeer addr (fun p => { p with connected := false })
      fun _ => rfl
    dsimp only
    apply setConnPeerCount
    split
    · exact written.stopFree
        ((State.tracked_writePeer (by intro; rfl)).2 (tracked_of_tdlsAutoFindPeer found))
    · exact (written.writePeer _ _ (by intro; rfl)).setTimer _

theorem disconnect (inv : RegistryInv s) (caps : Capabilities) (addr : MacAddr) :
    RegistryInv (caps.disconnect addr s) := by
  unfold Capabilities.disconnect
  split
  · exact (inv.logCall _).peerDisconnected _ _
  · exact inv.logCall _

theorem modeStop (inv : RegistryInv s) (caps : Capabilities) (addr : MacAddr) :
    RegistryInv (tdlsAutoModeStop caps.disconnect addr s) := by
  cases found : tdlsAutoFindPeer s addr with
  | none => simpa [tdlsAutoModeStop, found] using inv
  | some peer =>
    have tracked := tracked_of_tdlsAutoFindPeer found
    cases active : peer.connected
    · rw [tdlsAutoModeStop_of_idle found active]
      exact inv.stopFree tracked
    · rw [tdlsAutoModeStop_of_active found active]
      refine ((inv.writePeer _ _ (by intro; rfl)).disconnect caps addr).stopFree ?_
      rwa [State.Tracked, Capabilities.addrs_disconnect_of_stop found]

theorem modeStart (inv : RegistryInv s) (caps : Capabilities) (addr : MacAddr) :
    RegistryInv (tdlsAutoModeStart caps addr s).2 := by
  unfold tdlsAutoModeStart
  split
  · exact inv
  · rename_i missing
    have added := inv.addPeer caps (tdlsAutoFindPeer_eq_none_iff.1 missing)
    split <;> simp_all

theorem peerConnectedFound (inv : RegistryInv s) (caps : Capabilities) (addr : MacAddr) :
    RegistryInv (tdlsAutoPeerConnectedFound caps addr s) := by
  have marked := (inv.writePeer addr (fun p => { p with connected := true })
    fun _ => rfl).writePeer addr (tdlsAutoGetPeerDataRate caps) (by simp)
  unfold tdlsAutoPeerConnectedFound
  dsimp only
  split
  · exact (marked.setTimer _).setTimer _
  · exact marked.setTimer _

theorem peerConnected (inv : RegistryInv s) (caps : Capabilities) (addr : MacAddr) :
    RegistryInv (tdlsAutoPeerConnected caps addr s) := by
  have counted := inv.setConnPeerCount (s.connPeerCount + 1)
  obtain ⟨-, same⟩ | ⟨untracked, -, same⟩ | ⟨untracked, -, same⟩ :=
    tdlsAutoPeerConnected_cases caps addr s <;> rw [same]
  · exact counted.peerConnectedFound caps addr
  · exact ((counted.addPeer caps untracked).writePeer _ _ (by intro; rfl)).peerConnectedFound caps
      addr
  · exact counted.addPeer caps untracked

theorem discoveryResponse (inv : RegistryInv s) (caps : Capabilities) (addr : MacAddr)
    (rssi : Int) : RegistryInv (tdlsAutoDiscoveryResponse caps addr rssi s) := by
  have recorded := inv.writePeer addr (fun p => { p with rssi := rssi })
    fun _ => rfl
  have sampled := recorded.writePeer addr (tdlsAutoGetPeerDataRate caps) (by simp)
  obtain same | same | same | ⟨-, -, same⟩ := tdlsAutoDiscoveryResponse_cases caps addr rssi s <;>
    rw [same]
  · exact inv
  · exact recorded
  · exact sampled
  · exact sampled.logCall _

theorem removePeersStep (inv : RegistryInv s) (caps : Capabilities) (killActiveLinks : Bool)
    (addr : MacAddr) : RegistryInv (tdlsAutoRemovePeersStep caps killActiveLinks s addr) := by
  cases killActiveLinks
  · exact (inv.writePeer _ _ (by intro; rfl)).modeStop caps addr
  · exact inv.modeStop caps addr

theorem removePeers (inv : RegistryInv s) (caps : Capabilities) (killActiveLinks : Bool) :
    RegistryInv (tdlsAutoRemovePeers caps killActiveLinks s) :=
  List.foldlRecOn s.addrs _ s inv fun _ inv addr _ => inv.removePeersStep caps killActiveLinks addr

theorem fastConnectTimeout (inv : RegistryInv s) (caps : Capabilities) :
    RegistryInv (tdlsAutoFastConnectTimeout caps s) :=
  tdlsAutoFastConnectTimeout_rec inv (fun acc addr inv => by
      have written := inv.writePeer addr
        (fun p => tdlsAutoGetPeerDataRate caps { p with fastAttempts := p.fastAttempts + 1 })
        (by simp)
      obtain same | ⟨-, same | same⟩ := tdlsAutoFastConnectStep_cases caps acc addr <;> rw [same]
      · exact inv
      · exact written
      · exact written.logCall _)
    fun _ inv => inv.setTimer _

theorem slowConnectTimeout (inv : RegistryInv s) (caps : Capabilities) :
    RegistryInv (tdlsAutoSlowConnectTimeout caps s) :=
  tdlsAutoSlowConnectTimeout_rec inv (fun t addr inv => by
      have written := inv.writePeer addr (tdlsAutoGetPeerDataRate caps) (by simp)
      obtain same | same | ⟨-, same⟩ := tdlsAutoSlowConnectStep_cases caps t addr <;> rw [same]
      · exact inv
      · exact written
      · exact written.logCall _)
    fun _ inv => inv.setTimer _

theorem dataTeardownStep (inv : RegistryInv s) (caps : Capabilities) (addr : MacAddr) :
    RegistryInv (tdlsAutoDataTeardownStep caps s addr) := by
  have written := inv.writePeer addr (tdlsAutoGetPeerDataRate caps) (by simp)
  obtain same | same | ⟨-, same⟩ := tdlsAutoDataTeardownStep_cases caps s addr <;> rw [same]
  · exact inv
  · exact written
  · exact written.disconnect caps addr

theorem dataTeardownTimeout (inv : RegistryInv s) (caps : Capabilities) :
    RegistryInv (tdlsAutoDataTeardownTimeout caps s) :=
  tdlsAutoDataTeardownTimeout_rec inv (fun _ addr inv => inv.dataTeardownStep caps addr)
    fun _ inv => inv.setTimer _

theorem rssiTeardownStep (inv : RegistryInv s) (caps : Capabilities) (addr : MacAddr) :
    RegistryInv (tdlsAutoRssiTeardownStep caps s addr) := by
  have read := inv.writePeer addr (tdlsAutoGetConnectedStaRssi caps) (by intro; rfl)
  have counted := read.writePeer addr
    (fun p => { p with lowRssiVals := p.lowRssiVals + 1 }) (by intro; rfl)
  obtain same | same | same | ⟨-, same⟩ := tdlsAutoRssiTeardownStep_cases caps s addr <;> rw [same]
  · exact inv
  · exact read.writePeer _ _ (by intro; rfl)
  · exact counted
  · exact (counted.disconnect caps addr).writePeer _ _ (by intro; rfl)

theorem rssiTeardownTimeout (inv : RegistryInv s) (caps : Capabilities) :
    RegistryInv (tdlsAutoRssiTeardownTimeout caps s) :=
  tdlsAutoRssiTeardownTimeout_rec inv (fun _ addr inv => inv.rssiTeardownStep caps addr)
    fun _ inv => inv.setTimer _

theorem fireTimeout (inv : RegistryInv s) (caps : Capabilities) (handler : Handler) :
    RegistryInv (fireTimeout caps handler s) := by
  have cancelled := inv.cancelTimer handler
  cases handler
  · exact cancelled.fastConnectTimeout caps
  · exact cancelled.slowConnectTimeout caps
  · exact cancelled.dataTeardownTimeout caps
  · exact cancelled.rssiTeardownTimeout caps

theorem apply (inv : RegistryInv s) (caps : Capabilities) (event : Event) :
    RegistryInv (event.apply caps s) := by
  cases event with
  | modeStart addr => exact inv.modeStart caps addr
  | modeStop addr => exact inv.modeStop caps addr
  | removePeers killActiveLinks => exact inv.removePeers caps killActiveLinks
  | peerConnected addr => exact inv.peerConnected caps addr
  | peerDisconnected addr => exact inv.peerDisconnected _ addr
  | discoveryResponse addr rssi => exact inv.discoveryResponse caps addr rssi
  | timeout handler => exact inv.fireTimeout caps handler

theorem invariant : Invariant RegistryInv where
  init _ := ⟨rfl, List.nodup_nil, fun _ => by simp [tdlsAutoInit, State.Tracked, State.addrs]⟩
  step caps event _ inv _ := inv.apply caps event

end RegistryInv

theorem uint8_toNat_ofNat (n : Nat) : (UInt8.ofNat n).toNat = n % 2 ^ 8 := BitVec.toNat_ofNat _ _

/-- The station numbered `i` in its low four bytes. -/
def stationOf (i : Nat) : MacAddr :=
  ⟨[0x02, 0, UInt8.ofNat (i / 2 ^ 24), UInt8.ofNat (i / 2 ^ 16), UInt8.ofNat (i / 2 ^ 8),
    UInt8.ofNat i], rfl⟩

theorem stationOf_injective {i j : Nat} (small : i < 2 ^ 32) (small' : j < 2 ^ 32)
    (same : stationOf i = stationOf j) : i = j := by
  simp only [stationOf, MacAddr.mk.injEq, List.cons.injEq, true_and, and_true] at same
  obtain ⟨byte2, byte3, byte4, byte5⟩ := same
  have digit2 := congrArg UInt8.toNat byte2
  have digit3 := congrArg UInt8.toNat byte3
  have digit4 := congrArg UInt8.toNat byte4
  have digit5 := congrArg UInt8.toNat byte5
  simp only [uint8_toNat_ofNat] at digit2 digit3 digit4 digit5
  omega

/-- `n` stations started one after another on a fresh controller, every capability
succeeding. -/
def startStations : Nat → State
  | 0 => tdlsAutoInit scenarioConfig
  | n + 1 => (Event.modeStart (stationOf n)).apply (.nominal false 0) (startStations n)

theorem reachable_startStations : ∀ n, Reachable (startStations n)
  | 0 => .init _
  | n + 1 => (reachable_startStations n).step _ _ trivial

/-- With every capability succeeding, a start of an untracked address links its peer, counts
it and arms the fast-connect timer. -/
theorem tdlsAutoModeStart_nominal (reenters : Bool) (rssi : Int) {addr : MacAddr} {s : State}
    (untracked : ¬ s.Tracked addr) :
    (tdlsAutoModeStart (.nominal reenters rssi) addr s).2.addrs = addr :: s.addrs ∧
      (tdlsAutoModeStart (.nominal reenters rssi) addr s).2.peerCount = s.peerCount + 1 ∧
      (tdlsAutoModeStart (.nominal reenters rssi) addr s).2.pending .fastConnect = true := by
  have added : (tdlsAutoAddPeer (.nominal reenters rssi) addr s).2 = true := by
    simp [tdlsAutoAddPeer, tdlsAutoPeerAddToList, Capabilities.nominal]
  have started : (tdlsAutoModeStart (.nominal reenters rssi) addr s).2 =
      (tdlsAutoAddPeer (.nominal reenters rssi) addr s).1 := by
    rcases outcome : tdlsAutoAddPeer (.nominal reenters rssi) addr s with ⟨_, _ | _⟩
    · simp [outcome] at added
    · simp [tdlsAutoModeStart, tdlsAutoFindPeer_eq_none_iff.2 untracked, outcome]
  obtain ⟨_, result⟩ := tdlsAutoAddPeer_added added
  rw [started, result]
  split <;> simp [State.addrs, TdlsAutoPeer.zalloc]

theorem startStations_spec : ∀ n, n ≤ 2 ^ 32 →
    (startStations n).addrs = (List.range n).reverse.map stationOf ∧
      (startStations n).peerCount.toNat = n % 2 ^ 32 ∧
      (0 < n → (startStations n).pending .fastConnect = true)
  | 0, _ => ⟨rfl, rfl, fun positive => absurd positive (Nat.lt_irrefl 0)⟩
  | n + 1, room => by
    obtain ⟨addrs, count, -⟩ := startStations_spec n (by omega)
    have fresh : ¬ (startStations n).Tracked (stationOf n) := by
      rw [State.Tracked, addrs, List.mem_map]
      rintro ⟨i, member, same⟩
      rw [List.mem_reverse, List.mem_range] at member
      exact absurd (stationOf_injective (by omega) (by omega) same) (by omega)
    obtain ⟨addrs', count', fast⟩ := tdlsAutoModeStart_nominal false 0 fresh
    refine ⟨?_, ?_, fun _ => fast⟩
    · rw [startStations, Event.apply, addrs', addrs, List.range_succ, List.reverse_append]
      rfl
    · rw [startStations, Event.apply, count', uint32_toNat_add_one, count]
      omega

/-- **Registry representation invariant.** From `tdls_auto_init`, whatever the
configuration, the capability answers (failed accounting, failed allocation, either model of
`disconnect`) and the order of callbacks: no two peers share an address, the driver's peer
cache holds exactly the tracked addresses, and while the list holds fewer than `2^32` peers the
peer count is their number. -/
theorem registry_representation_invariant {s : State} (reachable : Reachable s) :
    (s.peers.length < 2 ^ 32 → s.peerCount.toNat = s.peers.length) ∧
      (s.peers.map (·.addr)).Nodup ∧
      ∀ addr, addr ∈ s.peerCache ↔ ∃ p ∈ s.peers, p.addr = addr := by
  have inv := RegistryInv.invariant.reachable reachable
  refine ⟨fun small => ?_, inv.addrs_nodup, fun addr => ?_⟩
  · rw [inv.peerCount_toNat, Nat.mod_eq_of_lt small]
  · rw [inv.mem_peerCache, State.tracked_iff]

theorem registry_representation_invariant_after_start :
    let s := (Event.modeStart stationA).apply (.nominal true (-80)) (tdlsAutoInit scenarioConfig)
    Reachable s ∧ (s.peers.length < 2 ^ 32 → s.peerCount.toNat = s.peers.length) ∧
      (s.peers.map (·.addr)).Nodup ∧
      ∀ addr, addr ∈ s.peerCache ↔ ∃ p ∈ s.peers, p.addr = addr := by
  have reachable : Reachable ((Event.modeStart stationA).apply (.nominal true (-80))
      (tdlsAutoInit scenarioConfig)) := .step _ _ (.init _) trivial
  exact ⟨reachable, registry_representation_invariant reachable⟩

/-- **The `2^32`-th start wraps the peer count.** After `2^32` stations are started, the list
holds `2^32` peers and `peer_count` is zero. -/
theorem registry_count_wraps :
    Reachable (startStations (2 ^ 32)) ∧ (startStations (2 ^ 32)).peers.length = 2 ^ 32 ∧
      (startStations (2 ^ 32)).peerCount = 0 := by
  obtain ⟨addrs, count, -⟩ := startStations_spec (2 ^ 32) le_rfl
  refine ⟨reachable_startStations _, ?_, uint32_eq_iff_toNat_eq.2 count⟩
  rw [RegistryInv.length_peers, addrs, List.length_map, List.length_reverse, List.length_range]

end TdlsAutoMode
