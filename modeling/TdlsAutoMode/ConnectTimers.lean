import TdlsAutoMode.Lifecycle

/-! # The connect timers

The slow-connect timer is armed when the first peer is added and re-arms itself while
`peer_count` is not zero; the fast-connect timer is armed for every new peer and every
outgoing peer that disconnects, and re-arms itself while some peer is in its fast phase;
`tdls_auto_mode_stop` cancels both when `peer_count` drops to zero. While the registry holds
fewer than `2^32` peers, `peer_count` is its length, and the timers follow the registry
(`connect_timers_follow_registry`): no candidate peer is abandoned, and nothing runs for an
empty registry.

`peer_count` is an `unsigned int`: the `2^32`-th start wraps it to zero with the fast-connect
timer just armed (`connect_timers_after_count_wraps`).
-/

namespace TdlsAutoMode

/-- **The `2^32`-th start wraps the peer count.** After `2^32` stations are started,
`peer_count` is zero while the fast-connect timer is pending. -/
theorem connect_timers_after_count_wraps :
    Reachable (startStations (2 ^ 32)) ∧ (startStations (2 ^ 32)).peerCount = 0 ∧
      (startStations (2 ^ 32)).pending .fastConnect = true := by
  obtain ⟨-, count, fast⟩ := startStations_spec (2 ^ 32) le_rfl
  exact ⟨reachable_startStations _, uint32_eq_iff_toNat_eq.2 count, fast (Nat.two_pow_pos 32)⟩

/-- A disconnected peer with fast attempts left, which the fast-connect timer is to try. -/
def TdlsAutoPeer.FastCandidate (p : TdlsAutoPeer) : Prop :=
  p.connected = false ∧ p.fastAttempts ≤ tdlsAutoMaxFastConnAttempts

/-- The connect timers as the registry needs them, except that the fast-connect timer may be
missing for the peer with the address `exempt`. -/
structure ConnectTimers (exempt : Option MacAddr) (s : State) : Prop where
  slow_of_ne_nil : s.peers ≠ [] → s.pending .slowConnect = true
  fast_of_candidate : ∀ p ∈ s.peers, some p.addr ≠ exempt → p.FastCandidate →
    s.pending .fastConnect = true
  idle_of_nil : s.peers = [] → s.pending .fastConnect = false ∧ s.pending .slowConnect = false

/-- The peers of `t` are those of `s`, and none of them became a fast candidate. -/
def Shrinks (s t : State) : Prop :=
  t.addrs = s.addrs ∧ ∀ p ∈ t.peers, p.FastCandidate → ∃ q ∈ s.peers, q.addr = p.addr ∧ q.FastCandidate

section shrinks

variable {s t u : State}

theorem Shrinks.refl (s : State) : Shrinks s s :=
  ⟨rfl, fun p member candidate => ⟨p, member, rfl, candidate⟩⟩

theorem Shrinks.trans (first : Shrinks s t) (second : Shrinks t u) : Shrinks s u :=
  ⟨second.1.trans first.1, fun p member candidate =>
    let ⟨q, member', same, candidate'⟩ := second.2 p member candidate
    let ⟨r, member'', same', candidate''⟩ := first.2 q member' candidate'
    ⟨r, member'', same'.trans same, candidate''⟩⟩

theorem Shrinks.of_peers (same : t.peers = s.peers) : Shrinks s t :=
  ⟨by rw [State.addrs, same]; rfl, fun p member candidate =>
    ⟨p, same ▸ member, rfl, candidate⟩⟩

theorem Shrinks.writePeer (addr : MacAddr) {f : TdlsAutoPeer → TdlsAutoPeer}
    (keeps : ∀ p, (f p).addr = p.addr)
    (shrinks : ∀ p, (f p).FastCandidate → p.FastCandidate) : Shrinks s (s.writePeer addr f) := by
  refine ⟨State.addrs_writePeer keeps, fun p member candidate => ?_⟩
  unfold State.writePeer at member
  split at member
  · obtain ⟨q, member', rfl⟩ := List.mem_map.1 member
    by_cases same : q.addr = addr
    · simp only [same, ↓reduceIte] at candidate ⊢
      exact ⟨q, member', (keeps q).symm, shrinks q candidate⟩
    · simp only [same, ↓reduceIte] at candidate ⊢
      exact ⟨q, member', rfl, candidate⟩
  · exact ⟨p, member, rfl, candidate⟩

end shrinks

namespace ConnectTimers

variable {exempt : Option MacAddr} {s t : State}

theorem relax (inv : ConnectTimers none s) : ConnectTimers exempt s where
  slow_of_ne_nil := inv.slow_of_ne_nil
  fast_of_candidate p member _ := inv.fast_of_candidate p member (by simp)
  idle_of_nil := inv.idle_of_nil

theorem of_shrinks (inv : ConnectTimers exempt s) (shrinks : Shrinks s t)
    (fast : t.pending .fastConnect = s.pending .fastConnect)
    (slow : t.pending .slowConnect = s.pending .slowConnect) : ConnectTimers exempt t where
  slow_of_ne_nil nonempty := by
    rw [slow]
    exact inv.slow_of_ne_nil fun empty => nonempty <| List.map_eq_nil_iff.1 <|
      shrinks.1.trans (List.map_eq_nil_iff.2 empty)
  fast_of_candidate p member outside candidate := by
    obtain ⟨q, member', same, candidate'⟩ := shrinks.2 p member candidate
    rw [fast]
    exact inv.fast_of_candidate q member' (same ▸ outside) candidate'
  idle_of_nil empty := by
    rw [fast, slow]
    exact inv.idle_of_nil <| List.map_eq_nil_iff.1 <|
      shrinks.1.symm.trans (List.map_eq_nil_iff.2 empty)

theorem logCall (inv : ConnectTimers exempt s) (call : Call) :
    ConnectTimers exempt (s.logCall call) :=
  inv.of_shrinks (.of_peers rfl) rfl rfl

theorem setConnPeerCount (inv : ConnectTimers exempt s) (count : UInt32) :
    ConnectTimers exempt (s.setConnPeerCount count) :=
  inv.of_shrinks (.of_peers rfl) rfl rfl

/-- A teardown timer is neither connect timer. -/
theorem setTimer_teardown (inv : ConnectTimers exempt s) {handler : Handler}
    (notFast : handler ≠ .fastConnect) (notSlow : handler ≠ .slowConnect) :
    ConnectTimers exempt (tdlsAutoSetTimer handler s) :=
  inv.of_shrinks (.of_peers rfl) (by simp [notFast.symm]) (by simp [notSlow.symm])

theorem cancelTimer_teardown (inv : ConnectTimers exempt s) {handler : Handler}
    (notFast : handler ≠ .fastConnect) (notSlow : handler ≠ .slowConnect) :
    ConnectTimers exempt (tdlsAutoCancelTimer handler s) :=
  inv.of_shrinks (.of_peers rfl) (by simp [notFast.symm]) (by simp [notSlow.symm])

theorem writePeer (inv : ConnectTimers exempt s) (addr : MacAddr)
    {f : TdlsAutoPeer → TdlsAutoPeer} (keeps : ∀ p, (f p).addr = p.addr)
    (shrinks : ∀ p, (f p).FastCandidate → p.FastCandidate) :
    ConnectTimers exempt (s.writePeer addr f) :=
  inv.of_shrinks (.writePeer addr keeps shrinks) (by simp) (by simp)

/-- Any write to the exempt address keeps the invariant. -/
theorem writePeer_exempt (inv : ConnectTimers (some addr) s) {f : TdlsAutoPeer → TdlsAutoPeer}
    (keeps : ∀ p, (f p).addr = p.addr) : ConnectTimers (some addr) (s.writePeer addr f) := by
  refine ⟨fun nonempty => ?_, fun p member outside candidate => ?_, fun empty => ?_⟩
  · rw [State.writePeer_pending]
    exact inv.slow_of_ne_nil fun empty => nonempty (by
      unfold State.writePeer; split <;> simp [empty])
  · rw [State.writePeer_pending]
    unfold State.writePeer at member
    split at member
    · obtain ⟨q, member', rfl⟩ := List.mem_map.1 member
      by_cases same : q.addr = addr
      · simp [same, keeps] at outside
      · simp only [same, ↓reduceIte] at outside candidate
        exact inv.fast_of_candidate q member' outside candidate
    · exact inv.fast_of_candidate p member outside candidate
  · rw [State.writePeer_pending]
    exact inv.idle_of_nil (by unfold State.writePeer at empty; split at empty <;> simpa using empty)

/-- Arming the fast-connect timer for a nonempty registry restores the invariant. -/
theorem setFast (inv : ConnectTimers exempt s) (nonempty : s.peers ≠ []) :
    ConnectTimers none (tdlsAutoSetTimer .fastConnect s) where
  slow_of_ne_nil _ := by simpa using inv.slow_of_ne_nil nonempty
  fast_of_candidate _ _ _ _ := by simp
  idle_of_nil empty := absurd empty nonempty

end ConnectTimers

section lengths

variable {s : State} {addr : MacAddr}

theorem State.length_peers_writePeer {f : TdlsAutoPeer → TdlsAutoPeer} :
    (s.writePeer addr f).peers.length = s.peers.length := by
  unfold State.writePeer
  split <;> simp

theorem length_peers_tdlsAutoModeStopFree_le :
    (tdlsAutoModeStopFree addr s).peers.length ≤ s.peers.length := by
  rw [RegistryInv.length_peers, tdlsAutoModeStopFree_addrs, RegistryInv.length_peers]
  exact List.length_erase_le _ _

theorem length_peers_tdlsAutoPeerDisconnected_le {disconnect : MacAddr → State → State} :
    (tdlsAutoPeerDisconnected disconnect addr s).peers.length ≤ s.peers.length := by
  cases found : tdlsAutoFindPeer s addr with
  | none => simp [tdlsAutoPeerDisconnected, found]
  | some peer =>
    rw [tdlsAutoPeerDisconnected_of_found found]
    dsimp only
    rw [State.setConnPeerCount_peers]
    split
    · exact length_peers_tdlsAutoModeStopFree_le.trans_eq State.length_peers_writePeer
    · simp [State.length_peers_writePeer]

theorem Capabilities.length_peers_disconnect_le {caps : Capabilities} :
    (caps.disconnect addr s).peers.length ≤ s.peers.length := by
  unfold Capabilities.disconnect
  split
  · exact length_peers_tdlsAutoPeerDisconnected_le
  · exact le_rfl

theorem length_peers_tdlsAutoRemovePeersStep_le {caps : Capabilities} {killActiveLinks : Bool} :
    (tdlsAutoRemovePeersStep caps killActiveLinks s addr).peers.length ≤ s.peers.length := by
  rw [RegistryInv.length_peers, addrs_tdlsAutoRemovePeersStep, RegistryInv.length_peers]
  exact List.length_erase_le _ _

theorem length_peers_tdlsAutoDataTeardownStep_le {caps : Capabilities} :
    (tdlsAutoDataTeardownStep caps s addr).peers.length ≤ s.peers.length := by
  obtain same | same | ⟨-, same⟩ := tdlsAutoDataTeardownStep_cases caps s addr
  · rw [same]
  · rw [same, State.length_peers_writePeer]
  · rw [same]
    exact Capabilities.length_peers_disconnect_le.trans State.length_peers_writePeer.le

theorem length_peers_tdlsAutoRssiTeardownStep_le {caps : Capabilities} :
    (tdlsAutoRssiTeardownStep caps s addr).peers.length ≤ s.peers.length := by
  obtain same | same | same | ⟨-, same⟩ := tdlsAutoRssiTeardownStep_cases caps s addr
  · rw [same]
  · rw [same, State.length_peers_writePeer, State.length_peers_writePeer]
  · rw [same, State.length_peers_writePeer, State.length_peers_writePeer]
  · rw [same, State.length_peers_writePeer]
    exact Capabilities.length_peers_disconnect_le.trans (by
      rw [State.length_peers_writePeer, State.length_peers_writePeer])

end lengths

section count

variable {s : State}

/-- Below `2^32` peers the count is the length of the list. -/
theorem RegistryInv.peerCount_eq_zero_iff (registry : RegistryInv s)
    (bound : s.peers.length < 2 ^ 32) : s.peerCount = 0 ↔ s.peers = [] := by
  rw [uint32_eq_iff_toNat_eq, registry.peerCount_toNat, Nat.mod_eq_of_lt bound, UInt32.toNat_zero,
    List.length_eq_zero]

end count

namespace ConnectTimers

variable {s : State}

/-- The end of a stop frees the exempt peer and cancels both connect timers with the last
one. -/
theorem stopFree {addr : MacAddr} (inv : ConnectTimers (some addr) s) (registry : RegistryInv s)
    (bound : s.peers.length < 2 ^ 32) (tracked : s.Tracked addr) :
    ConnectTimers none (tdlsAutoModeStopFree addr s) := by
  have empty_iff := (registry.stopFree tracked).peerCount_eq_zero_iff
    (length_peers_tdlsAutoModeStopFree_le.trans_lt bound)
  rw [tdlsAutoModeStopFree_peerCount, tdlsAutoModeStopFree_peers, ← tdlsAutoPeerFree_peers]
    at empty_iff
  rw [tdlsAutoModeStopFree_eq]
  split
  · rename_i last
    have empty := empty_iff.1 last
    refine ⟨fun nonempty => absurd empty nonempty, fun p member => absurd member ?_,
      fun _ => by simp⟩
    rw [tdlsAutoCancelTimer_peers, tdlsAutoCancelTimer_peers, empty]
    exact List.not_mem_nil p
  · rename_i remaining
    have nonempty := mt empty_iff.2 remaining
    refine ⟨fun _ => ?_, fun p member _ candidate => ?_, fun empty => absurd empty nonempty⟩
    · rw [tdlsAutoPeerFree_pending]
      exact inv.slow_of_ne_nil (State.ne_nil_of_tracked tracked)
    · obtain ⟨member', other⟩ := mem_peers_tdlsAutoPeerFree addr s registry.addrs_nodup member
      rw [tdlsAutoPeerFree_pending]
      exact inv.fast_of_candidate p member' (by simpa using other) candidate

/-- A new peer arms the fast-connect timer, and the slow-connect timer when it is the first. -/
theorem addPeer (inv : ConnectTimers none s) (registry : RegistryInv s) (caps : Capabilities)
    (addr : MacAddr) : ConnectTimers none (tdlsAutoAddPeer caps addr s).1 := by
  cases outcome : (tdlsAutoAddPeer caps addr s).2
  · obtain ⟨_, _, result, -⟩ := tdlsAutoAddPeer_failed outcome
    rw [result]
    exact inv.of_shrinks (.of_peers rfl) rfl rfl
  · obtain ⟨calls, result⟩ := tdlsAutoAddPeer_added outcome
    rw [result]
    by_cases empty : s.peers = []
    · have first : s.peerCount + 1 = 1 := by
        rw [(registry.peerCount_eq_zero_iff (by simp [empty])).2 empty]
        rfl
      simp only [first, ↓reduceIte]
      exact ⟨fun _ => by simp, fun _ _ _ _ => by simp, fun linked => by simp at linked⟩
    · have slow := inv.slow_of_ne_nil empty
      split
      · exact ⟨fun _ => by simp, fun _ _ _ _ => by simp, fun linked => by simp at linked⟩
      · exact ⟨fun _ => by simpa using slow, fun _ _ _ _ => by simp,
          fun linked => by simp at linked⟩

theorem peerDisconnected (inv : ConnectTimers none s) (registry : RegistryInv s)
    (bound : s.peers.length < 2 ^ 32) (disconnect : MacAddr → State → State) (addr : MacAddr) :
    ConnectTimers none (tdlsAutoPeerDisconnected disconnect addr s) := by
  cases found : tdlsAutoFindPeer s addr with
  | none => simpa [tdlsAutoPeerDisconnected, found] using inv
  | some peer =>
    rw [tdlsAutoPeerDisconnected_of_found found]
    have tracked : (s.writePeer addr fun p => { p with connected := false }).Tracked addr :=
      (State.tracked_writePeer (by intro; rfl)).2 (tracked_of_tdlsAutoFindPeer found)
    have marked := (inv.relax : ConnectTimers (some addr) s).writePeer_exempt
      (f := fun p => { p with connected := false }) fun _ => rfl
    dsimp only
    apply setConnPeerCount
    split
    · exact marked.stopFree (registry.writePeer _ _ fun _ => rfl)
        (State.length_peers_writePeer.trans_lt bound) tracked
    · exact (marked.writePeer_exempt (by intro; rfl)).setFast
        (State.ne_nil_of_tracked ((State.tracked_writePeer (by intro; rfl)).2 tracked))

theorem disconnect (inv : ConnectTimers none s) (registry : RegistryInv s)
    (bound : s.peers.length < 2 ^ 32) (caps : Capabilities) (addr : MacAddr) :
    ConnectTimers none (caps.disconnect addr s) := by
  unfold Capabilities.disconnect
  split
  · exact (inv.logCall _).peerDisconnected (registry.logCall _) bound _ _
  · exact inv.logCall _

theorem modeStop (inv : ConnectTimers none s) (registry : RegistryInv s)
    (bound : s.peers.length < 2 ^ 32) (caps : Capabilities) (addr : MacAddr) :
    ConnectTimers none (tdlsAutoModeStop caps.disconnect addr s) := by
  unfold tdlsAutoModeStop
  split
  · exact inv
  · rename_i peer found
    have tracked := tracked_of_tdlsAutoFindPeer found
    split
    · have marked := inv.writePeer addr (f := fun p => { p with incomingPeer := false })
        (fun _ => rfl) fun _ candidate => candidate
      have registry' := registry.writePeer addr (fun p => { p with incomingPeer := false })
        fun _ => rfl
      have bound' : (s.writePeer addr fun p => { p with incomingPeer := false }).peers.length <
          2 ^ 32 := State.length_peers_writePeer.trans_lt bound
      refine (marked.disconnect registry' bound' caps addr).relax.stopFree
        (registry'.disconnect caps addr)
        (Capabilities.length_peers_disconnect_le.trans_lt bound') ?_
      rwa [State.Tracked, Capabilities.addrs_disconnect_of_stop found]
    · exact inv.relax.stopFree registry bound tracked

theorem peerConnectedFound {exempt : Option MacAddr} (inv : ConnectTimers exempt s)
    (caps : Capabilities) (addr : MacAddr) :
    ConnectTimers exempt (tdlsAutoPeerConnectedFound caps addr s) := by
  have marked := inv.writePeer addr (f := fun p => { p with connected := true }) (fun _ => rfl)
    fun _ candidate => absurd candidate.1 (by simp)
  have sampled := marked.writePeer addr (f := tdlsAutoGetPeerDataRate caps) (by simp)
    fun _ candidate => by simpa [TdlsAutoPeer.FastCandidate] using candidate
  unfold tdlsAutoPeerConnectedFound
  dsimp only
  split
  · exact (sampled.setTimer_teardown (by decide) (by decide)).setTimer_teardown (by decide)
      (by decide)
  · exact sampled.setTimer_teardown (by decide) (by decide)

theorem peerConnected (inv : ConnectTimers none s) (registry : RegistryInv s)
    (caps : Capabilities) (addr : MacAddr) :
    ConnectTimers none (tdlsAutoPeerConnected caps addr s) := by
  have counted := inv.setConnPeerCount (s.connPeerCount + 1)
  have added := counted.addPeer (registry.setConnPeerCount _) caps addr
  obtain ⟨-, same⟩ | ⟨-, -, same⟩ | ⟨-, -, same⟩ :=
    tdlsAutoPeerConnected_cases caps addr s <;> rw [same]
  · exact counted.peerConnectedFound caps addr
  · exact (added.writePeer addr (f := fun p => { p with incomingPeer := true }) (fun _ => rfl)
      fun _ candidate => candidate).peerConnectedFound caps addr
  · exact added

theorem discoveryResponse (inv : ConnectTimers none s) (caps : Capabilities) (addr : MacAddr)
    (rssi : Int) : ConnectTimers none (tdlsAutoDiscoveryResponse caps addr rssi s) := by
  have recorded := inv.writePeer addr (f := fun p => { p with rssi := rssi }) (fun _ => rfl)
    fun _ candidate => candidate
  have sampled := recorded.writePeer addr (f := tdlsAutoGetPeerDataRate caps) (by simp)
    fun _ candidate => by simpa [TdlsAutoPeer.FastCandidate] using candidate
  obtain same | same | same | ⟨-, -, same⟩ :=
    tdlsAutoDiscoveryResponse_cases caps addr rssi s <;> rw [same]
  · exact inv
  · exact recorded
  · exact sampled
  · exact sampled.logCall _

theorem modeStart (inv : ConnectTimers none s) (registry : RegistryInv s) (caps : Capabilities)
    (addr : MacAddr) : ConnectTimers none (tdlsAutoModeStart caps addr s).2 := by
  unfold tdlsAutoModeStart
  split
  · exact inv
  · have added := inv.addPeer registry caps addr
    split <;> simp_all

theorem removePeersStep (inv : ConnectTimers none s) (registry : RegistryInv s)
    (bound : s.peers.length < 2 ^ 32) (caps : Capabilities) (killActiveLinks : Bool)
    (addr : MacAddr) :
    ConnectTimers none (tdlsAutoRemovePeersStep caps killActiveLinks s addr) := by
  cases killActiveLinks
  · rw [tdlsAutoRemovePeersStep_idle]
    split
    · rename_i tracked
      exact ((inv.relax : ConnectTimers (some addr) s).writePeer_exempt (by intro; rfl)).stopFree
        (registry.writePeer _ _ (by intro; rfl)) (State.length_peers_writePeer.trans_lt bound)
        ((State.tracked_writePeer (by intro; rfl)).2 tracked)
    · rw [State.writePeer_of_not_tracked ‹_›]
      exact inv.of_shrinks (.of_peers rfl) rfl rfl
  · exact inv.modeStop registry bound caps addr

theorem removePeers (inv : ConnectTimers none s) (registry : RegistryInv s)
    (bound : s.peers.length < 2 ^ 32) (caps : Capabilities) (killActiveLinks : Bool) :
    ConnectTimers none (tdlsAutoRemovePeers caps killActiveLinks s) :=
  (List.foldlRecOn (motive := fun t => RegistryInv t ∧ t.peers.length < 2 ^ 32 ∧
      ConnectTimers none t) s.addrs _ s ⟨registry, bound, inv⟩
    fun _ ⟨registry, bound, inv⟩ addr _ =>
      ⟨registry.removePeersStep caps killActiveLinks addr,
        length_peers_tdlsAutoRemovePeersStep_le.trans_lt bound,
        inv.removePeersStep registry bound caps killActiveLinks addr⟩).2.2

theorem dataTeardownStep (inv : ConnectTimers none s) (registry : RegistryInv s)
    (bound : s.peers.length < 2 ^ 32) (caps : Capabilities) (addr : MacAddr) :
    ConnectTimers none (tdlsAutoDataTeardownStep caps s addr) := by
  have sampled := inv.writePeer addr (f := tdlsAutoGetPeerDataRate caps) (by simp)
    fun _ candidate => by simpa [TdlsAutoPeer.FastCandidate] using candidate
  obtain same | same | ⟨-, same⟩ := tdlsAutoDataTeardownStep_cases caps s addr <;> rw [same]
  · exact inv
  · exact sampled
  · exact sampled.disconnect (registry.writePeer _ _ (by simp))
      (State.length_peers_writePeer.trans_lt bound) caps addr

theorem rssiTeardownStep (inv : ConnectTimers none s) (registry : RegistryInv s)
    (bound : s.peers.length < 2 ^ 32) (caps : Capabilities) (addr : MacAddr) :
    ConnectTimers none (tdlsAutoRssiTeardownStep caps s addr) := by
  have read := inv.writePeer addr (f := tdlsAutoGetConnectedStaRssi caps) (fun _ => rfl)
    fun _ candidate => candidate
  have counted := read.writePeer addr (f := fun p => { p with lowRssiVals := p.lowRssiVals + 1 })
    (fun _ => rfl) fun _ candidate => candidate
  have registryCounted := (registry.writePeer addr (tdlsAutoGetConnectedStaRssi caps)
    fun _ => rfl).writePeer addr (fun p => { p with lowRssiVals := p.lowRssiVals + 1 })
    fun _ => rfl
  obtain same | same | same | ⟨-, same⟩ :=
    tdlsAutoRssiTeardownStep_cases caps s addr <;> rw [same]
  · exact inv
  · exact read.writePeer addr (f := fun p => { p with lowRssiVals := 0 }) (fun _ => rfl)
      fun _ candidate => candidate
  · exact counted
  · exact (counted.disconnect registryCounted (by simpa [State.length_peers_writePeer] using bound)
      caps addr).writePeer addr (f := fun p => { p with lowRssiVals := 0 }) (fun _ => rfl)
      fun _ candidate => candidate

end ConnectTimers

section passes

variable {caps : Capabilities} {t : State}

/-- With distinct addresses, every tracked peer is the one its address finds. -/
theorem tdlsAutoFindPeer_of_mem (nodup : t.addrs.Nodup) {p : TdlsAutoPeer}
    (member : p ∈ t.peers) :
    tdlsAutoFindPeer t p.addr = some p := by
  obtain ⟨q, found⟩ : ∃ q, tdlsAutoFindPeer t p.addr = some q :=
    Option.ne_none_iff_exists'.1 fun missing => tdlsAutoFindPeer_eq_none_iff.1 missing
      ((State.tracked_iff t p.addr).2 ⟨p, member, rfl⟩)
  rw [found, eq_of_tdlsAutoFindPeer nodup found member rfl]

theorem tdlsAutoFastConnectStep_flag {acc : State × Bool} (flag : acc.2 = true) (addr : MacAddr) :
    (tdlsAutoFastConnectStep caps acc addr).2 = true := by
  obtain same | ⟨-, same | same⟩ := tdlsAutoFastConnectStep_cases caps acc addr <;> rw [same]
  exact flag

/-- A fast candidate sets the flag of the pass. -/
theorem tdlsAutoFastConnectStep_flag_of_candidate {addr : MacAddr} {p : TdlsAutoPeer}
    (found : tdlsAutoFindPeer t addr = some p) (candidate : p.FastCandidate) :
    (tdlsAutoFastConnectStep caps (t, false) addr).2 = true := by
  obtain ⟨idle, left⟩ := candidate
  simp [tdlsAutoFastConnectStep, found, idle, Nat.not_lt.2 left]

theorem tdlsAutoFastConnectStep_of_not_flag {addr : MacAddr}
    (unset : (tdlsAutoFastConnectStep caps (t, false) addr).2 = false) :
    tdlsAutoFastConnectStep caps (t, false) addr = (t, false) := by
  obtain same | ⟨-, same | same⟩ := tdlsAutoFastConnectStep_cases caps (t, false) addr <;>
    rw [same] at unset ⊢
  all_goals cases unset

/-- A pass that ends without the flag changed nothing, and none of its iterations set it. -/
theorem foldl_tdlsAutoFastConnectStep_of_not_flag : ∀ (addrs : List MacAddr),
    (addrs.foldl (tdlsAutoFastConnectStep caps) (t, false)).2 = false →
      addrs.foldl (tdlsAutoFastConnectStep caps) (t, false) = (t, false) ∧
        ∀ addr ∈ addrs, (tdlsAutoFastConnectStep caps (t, false) addr).2 = false
  | [], _ => ⟨rfl, fun _ member => absurd member (List.not_mem_nil _)⟩
  | addr :: rest, unset => by
    rw [List.foldl_cons] at unset ⊢
    cases flag : (tdlsAutoFastConnectStep caps (t, false) addr).2
    · rw [tdlsAutoFastConnectStep_of_not_flag flag] at unset ⊢
      obtain ⟨same, each⟩ := foldl_tdlsAutoFastConnectStep_of_not_flag rest unset
      exact ⟨same, fun other member => (List.mem_cons.1 member).elim (· ▸ flag) (each other)⟩
    · have : (rest.foldl (tdlsAutoFastConnectStep caps)
          (tdlsAutoFastConnectStep caps (t, false) addr)).2 = true :=
        List.foldlRecOn (motive := fun acc : State × Bool => acc.2 = true) rest _ _ flag
          fun _ set other _ => tdlsAutoFastConnectStep_flag set other
      rw [this] at unset
      cases unset

/-- A fast-connect pass only adds attempts and samples, and touches no timer. -/
theorem shrinks_foldl_tdlsAutoFastConnectStep (caps : Capabilities) (t : State) :
    Shrinks t (t.addrs.foldl (tdlsAutoFastConnectStep caps) (t, false)).1 ∧
      (t.addrs.foldl (tdlsAutoFastConnectStep caps) (t, false)).1.pending = t.pending :=
  List.foldlRecOn (motive := fun acc => Shrinks t acc.1 ∧ acc.1.pending = t.pending) t.addrs _
    (t, false) ⟨.refl t, rfl⟩ fun acc ⟨shrinks, pending⟩ addr _ => by
      have written := shrinks.trans (.writePeer addr
        (f := fun p => tdlsAutoGetPeerDataRate caps { p with fastAttempts := p.fastAttempts + 1 })
        (by simp) fun p candidate => by
          simp only [TdlsAutoPeer.FastCandidate, connected_tdlsAutoGetPeerDataRate,
            fastAttempts_tdlsAutoGetPeerDataRate] at candidate
          exact ⟨candidate.1, by omega⟩)
      obtain same | ⟨-, same | same⟩ :=
        tdlsAutoFastConnectStep_cases caps acc addr <;> rw [same]
      · exact ⟨shrinks, pending⟩
      · exact ⟨written, by simpa using pending⟩
      · exact ⟨written, by simpa using pending⟩

/-- A slow-connect pass only samples, and touches no timer and no count. -/
theorem shrinks_foldl_tdlsAutoSlowConnectStep (caps : Capabilities) (t : State) :
    Shrinks t (t.addrs.foldl (tdlsAutoSlowConnectStep caps) t) ∧
      (t.addrs.foldl (tdlsAutoSlowConnectStep caps) t).pending = t.pending ∧
      (t.addrs.foldl (tdlsAutoSlowConnectStep caps) t).peerCount = t.peerCount :=
  List.foldlRecOn (motive := fun u => Shrinks t u ∧ u.pending = t.pending ∧
      u.peerCount = t.peerCount) t.addrs _ t ⟨.refl t, rfl, rfl⟩
    fun u ⟨shrinks, pending, count⟩ addr _ => by
      have written := shrinks.trans (.writePeer addr (f := tdlsAutoGetPeerDataRate caps) (by simp)
        fun _ candidate => by simpa [TdlsAutoPeer.FastCandidate] using candidate)
      obtain same | same | ⟨-, same⟩ := tdlsAutoSlowConnectStep_cases caps u addr <;> rw [same]
      · exact ⟨shrinks, pending, count⟩
      · exact ⟨written, by simpa using pending, by simpa using count⟩
      · exact ⟨written, by simpa using pending, by simpa using count⟩

end passes

namespace ConnectTimers

variable {s : State}

/-- The fast-connect pass re-arms its timer when some peer was a candidate, and otherwise
leaves no candidate behind. -/
theorem fastConnect (inv : ConnectTimers none s) (registry : RegistryInv s) (caps : Capabilities) :
    ConnectTimers none (fireTimeout caps .fastConnect s) := by
  obtain ⟨shrinks, pending⟩ := shrinks_foldl_tdlsAutoFastConnectStep caps
    (tdlsAutoCancelTimer .fastConnect s)
  show ConnectTimers none (tdlsAutoFastConnectTimeout caps _)
  unfold tdlsAutoFastConnectTimeout
  dsimp only
  split
  · rename_i flag
    have nonempty : s.peers ≠ [] := fun empty => by
      have unvisited : (tdlsAutoCancelTimer .fastConnect s).addrs = [] := by
        simp [State.addrs, empty]
      rw [unvisited] at flag
      cases flag
    refine ⟨fun _ => ?_, fun _ _ _ _ => by simp, fun empty => absurd ?_ nonempty⟩
    · rw [tdlsAutoSetTimer_pending, if_neg (by decide), pending, tdlsAutoCancelTimer_pending,
        if_neg (by decide)]
      exact inv.slow_of_ne_nil nonempty
    · exact State.peers_eq_nil_of_addrs (v := tdlsAutoSetTimer .fastConnect _) shrinks.1.symm empty
  · rename_i unset
    obtain ⟨same, each⟩ :=
      foldl_tdlsAutoFastConnectStep_of_not_flag _ (Bool.not_eq_true _ ▸ unset)
    rw [same]
    refine ⟨fun nonempty => by simpa using inv.slow_of_ne_nil nonempty,
      fun p member _ candidate => ?_,
      fun empty => ⟨by simp, by simpa using (inv.idle_of_nil empty).2⟩⟩
    have found := tdlsAutoFindPeer_of_mem (t := tdlsAutoCancelTimer .fastConnect s)
      registry.addrs_nodup member
    have listed : p.addr ∈ (tdlsAutoCancelTimer .fastConnect s).addrs :=
      List.mem_map_of_mem _ member
    have := each p.addr listed
    rw [tdlsAutoFastConnectStep_flag_of_candidate found candidate] at this
    cases this

/-- The slow-connect pass re-arms its timer exactly when the registry is not empty. -/
theorem slowConnect (inv : ConnectTimers none s) (registry : RegistryInv s)
    (bound : s.peers.length < 2 ^ 32) (caps : Capabilities) :
    ConnectTimers none (fireTimeout caps .slowConnect s) := by
  obtain ⟨shrinks, pending, count⟩ := shrinks_foldl_tdlsAutoSlowConnectStep caps
    (tdlsAutoCancelTimer .slowConnect s)
  have empty_iff := registry.peerCount_eq_zero_iff bound
  show ConnectTimers none (tdlsAutoSlowConnectTimeout caps _)
  unfold tdlsAutoSlowConnectTimeout
  dsimp only
  split
  · rename_i zero
    rw [count, tdlsAutoCancelTimer_peerCount, empty_iff] at zero
    have empty :=
      State.peers_eq_nil_of_addrs (v := tdlsAutoCancelTimer .slowConnect s) shrinks.1 zero
    refine ⟨fun nonempty => absurd empty nonempty,
      fun p member => absurd member (by rw [empty]; exact List.not_mem_nil p), fun _ => ?_⟩
    rw [pending, tdlsAutoCancelTimer_pending, tdlsAutoCancelTimer_pending]
    exact ⟨by simpa using (inv.idle_of_nil zero).1, by simp⟩
  · rename_i nonzero
    rw [count, tdlsAutoCancelTimer_peerCount, empty_iff] at nonzero
    refine ⟨fun _ => by simp, fun p member _ candidate => ?_, fun empty => absurd
      (State.peers_eq_nil_of_addrs (u := tdlsAutoCancelTimer .slowConnect s) shrinks.1.symm
        empty) nonzero⟩
    obtain ⟨q, member', _, candidate'⟩ := shrinks.2 p member candidate
    rw [tdlsAutoSetTimer_pending, if_neg (by decide), pending, tdlsAutoCancelTimer_pending,
      if_neg (by decide)]
    exact inv.fast_of_candidate q member' (by simp) candidate'

/-- A teardown pass keeps the invariant, and so does re-arming its own timer. -/
theorem fireTimeout (inv : ConnectTimers none s) (registry : RegistryInv s)
    (bound : s.peers.length < 2 ^ 32) (caps : Capabilities) (handler : Handler) :
    ConnectTimers none (fireTimeout caps handler s) := by
  cases handler
  · exact inv.fastConnect registry caps
  · exact inv.slowConnect registry bound caps
  · exact (tdlsAutoDataTeardownTimeout_rec (motive := fun t => RegistryInv t ∧
        t.peers.length < 2 ^ 32 ∧ ConnectTimers none t)
      ⟨registry.cancelTimer _, bound, inv.cancelTimer_teardown (by decide) (by decide)⟩
      (fun _ addr ⟨registry, bound, inv⟩ => ⟨registry.dataTeardownStep caps addr,
        length_peers_tdlsAutoDataTeardownStep_le.trans_lt bound,
        inv.dataTeardownStep registry bound caps addr⟩)
      fun _ ⟨registry, bound, inv⟩ =>
        ⟨registry.setTimer _, bound, inv.setTimer_teardown (by decide) (by decide)⟩).2.2
  · exact (tdlsAutoRssiTeardownTimeout_rec (motive := fun t => RegistryInv t ∧
        t.peers.length < 2 ^ 32 ∧ ConnectTimers none t)
      ⟨registry.cancelTimer _, bound, inv.cancelTimer_teardown (by decide) (by decide)⟩
      (fun _ addr ⟨registry, bound, inv⟩ => ⟨registry.rssiTeardownStep caps addr,
        length_peers_tdlsAutoRssiTeardownStep_le.trans_lt bound,
        inv.rssiTeardownStep registry bound caps addr⟩)
      fun _ ⟨registry, bound, inv⟩ =>
        ⟨registry.setTimer _, bound, inv.setTimer_teardown (by decide) (by decide)⟩).2.2

/-- Every callback keeps the invariant while the registry stays below `2^32` peers. -/
theorem apply (inv : ConnectTimers none s) (registry : RegistryInv s)
    (bound : s.peers.length < 2 ^ 32) (caps : Capabilities) (event : Event) :
    ConnectTimers none (event.apply caps s) := by
  cases event with
  | modeStart addr => exact inv.modeStart registry caps addr
  | modeStop addr => exact inv.modeStop registry bound caps addr
  | removePeers killActiveLinks => exact inv.removePeers registry bound caps killActiveLinks
  | peerConnected addr => exact inv.peerConnected registry caps addr
  | peerDisconnected addr => exact inv.peerDisconnected registry bound _ addr
  | discoveryResponse addr rssi => exact inv.discoveryResponse caps addr rssi
  | timeout handler => exact inv.fireTimeout registry bound caps handler

theorem init (extn : WpasTdlsAutoCtx) : ConnectTimers none (tdlsAutoInit extn) where
  slow_of_ne_nil nonempty := absurd rfl nonempty
  fast_of_candidate _ member := by cases member
  idle_of_nil _ := ⟨rfl, rfl⟩

/-- The invariant holds along every run whose registry stays below `2^32` peers. -/
theorem reachableWithin {s : State}
    (reachable : ReachableWithin (fun t => t.peers.length < 2 ^ 32) s) :
    RegistryInv s ∧ ConnectTimers none s := by
  induction reachable with
  | init extn _ => exact ⟨RegistryInv.invariant.init extn, init extn⟩
  | step caps event previous _ _ ih =>
    exact ⟨ih.1.apply caps event, ih.2.apply ih.1 previous.holds caps event⟩

end ConnectTimers

/-- **The connect timers follow the registry.** In every state of a run whose registry
holds fewer than `2^32` peers after every callback, the slow-connect timer is pending while
the peer count is positive, the fast-connect timer is pending while some peer is a
disconnected candidate for a fast attempt, and neither is pending once the count is 0. -/
theorem connect_timers_follow_registry {s : State}
    (reachable : ReachableWithin (fun t => t.peers.length < 2 ^ 32) s) :
    (0 < s.peerCount → s.pending .slowConnect = true) ∧
      (∀ p ∈ s.peers, p.connected = false → p.fastAttempts ≤ tdlsAutoMaxFastConnAttempts →
        s.pending .fastConnect = true) ∧
      (s.peerCount = 0 → s.pending .fastConnect = false ∧ s.pending .slowConnect = false) := by
  obtain ⟨registry, inv⟩ := ConnectTimers.reachableWithin reachable
  have empty_iff := registry.peerCount_eq_zero_iff reachable.holds
  refine ⟨fun positive => inv.slow_of_ne_nil fun empty => ?_,
    fun p member disconnected few =>
      inv.fast_of_candidate p member (by simp) ⟨disconnected, few⟩,
    fun zero => inv.idle_of_nil (empty_iff.1 zero)⟩
  rw [empty_iff.2 empty] at positive
  exact absurd positive (by decide)

/-- After one start the registry is small, and the slow-connect timer is pending. -/
theorem connect_timers_follow_registry_after_start :
    ReachableWithin (fun t => t.peers.length < 2 ^ 32)
        ((Event.modeStart stationA).apply (.nominal false 0) (tdlsAutoInit scenarioConfig)) ∧
      ((Event.modeStart stationA).apply (.nominal false 0)
        (tdlsAutoInit scenarioConfig)).pending .slowConnect = true :=
  have reachable : ReachableWithin (fun t => t.peers.length < 2 ^ 32)
      ((Event.modeStart stationA).apply (.nominal false 0) (tdlsAutoInit scenarioConfig)) :=
    .step _ _ (.init _ (by decide)) trivial (by decide)
  ⟨reachable, (connect_timers_follow_registry reachable).1 (by decide)⟩

end TdlsAutoMode
