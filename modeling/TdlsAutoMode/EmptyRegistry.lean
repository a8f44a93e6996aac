import TdlsAutoMode.RemovePeers

/-! # The controller with no peer

With no peer tracked, neither connect timer is pending (`IdleWhenEmpty`), in every
reachable state: the stop that frees the last peer cancels both, the fast-connect pass
re-arms only after visiting a peer, and the slow-connect pass only while `peer_count` is
non-zero, which with an empty registry it is not (`RegistryInv`). Every other callback
either leaves a peer tracked or leaves both timers alone.

`tdls_auto_remove_peers` leaves the controller in that state, whatever the re-entrancy of
`disconnect` and `kill_active_links`: no peer, `peer_count` zero, no accounting entry, both
connect timers idle, and one `disconnect` for each peer that was connected exactly when
active links are killed (`tdlsAutoRemovePeers_empties`).
-/

namespace TdlsAutoMode

/-- With no peer tracked, neither connect timer is pending. -/
def IdleWhenEmpty (s : State) : Prop :=
  s.peers = [] → s.pending .fastConnect = false ∧ s.pending .slowConnect = false

namespace IdleWhenEmpty

variable {s t : State}

/-- It holds trivially while a peer is tracked. -/
theorem of_ne_nil (nonempty : t.peers ≠ []) : IdleWhenEmpty t := fun empty => absurd empty nonempty

/-- A callback step that removes no peer and leaves the connect timers alone keeps it. -/
theorem of_frame (inv : IdleWhenEmpty s) (peers : t.peers = [] → s.peers = [])
    (fast : t.pending .fastConnect = s.pending .fastConnect)
    (slow : t.pending .slowConnect = s.pending .slowConnect) : IdleWhenEmpty t := fun empty => by
  rw [fast, slow]
  exact inv (peers empty)

/-- A step that keeps every address and leaves the connect timers alone keeps it. -/
theorem of_addrs (inv : IdleWhenEmpty s) (addrs : t.addrs = s.addrs)
    (fast : t.pending .fastConnect = s.pending .fastConnect)
    (slow : t.pending .slowConnect = s.pending .slowConnect) : IdleWhenEmpty t :=
  inv.of_frame (State.peers_eq_nil_of_addrs addrs.symm) fast slow

theorem logCall (inv : IdleWhenEmpty s) (call : Call) : IdleWhenEmpty (s.logCall call) := inv

theorem setConnPeerCount (inv : IdleWhenEmpty s) (count : UInt32) :
    IdleWhenEmpty (s.setConnPeerCount count) := inv

theorem writePeer (inv : IdleWhenEmpty s) (addr : MacAddr) {f : TdlsAutoPeer → TdlsAutoPeer}
    (keeps : ∀ p, (f p).addr = p.addr) : IdleWhenEmpty (s.writePeer addr f) :=
  inv.of_addrs (State.addrs_writePeer keeps) (by simp) (by simp)

/-- Re-arming a timer other than the connect timers. -/
theorem setTimer_teardown (inv : IdleWhenEmpty s) {handler : Handler}
    (notFast : handler ≠ .fastConnect) (notSlow : handler ≠ .slowConnect) :
    IdleWhenEmpty (tdlsAutoSetTimer handler s) :=
  inv.of_frame id (by simp [Ne.symm notFast]) (by simp [Ne.symm notSlow])

theorem cancelTimer (inv : IdleWhenEmpty s) (handler : Handler) :
    IdleWhenEmpty (tdlsAutoCancelTimer handler s) := fun empty => by
  obtain ⟨fast, slow⟩ := inv empty
  simp only [tdlsAutoCancelTimer_pending]
  exact ⟨by split <;> simp [fast], by split <;> simp [slow]⟩

/-- Freeing a tracked peer: when it was the last one, the count drops to zero and both
connect timers are cancelled. -/
theorem stopFree (registry : RegistryInv s) {addr : MacAddr} (tracked : s.Tracked addr) :
    IdleWhenEmpty (tdlsAutoModeStopFree addr s) := fun empty => by
  have last := (registry.stopFree tracked).peerCount_toNat
  rw [empty, List.length_nil, tdlsAutoModeStopFree_peerCount] at last
  rw [tdlsAutoModeStopFree_eq, if_pos ((uint32_eq_iff_toNat_eq (b := 0)).2 last)]
  simp

/-- Adding a peer either fails with nothing changed or leaves a peer tracked. -/
theorem addPeer (inv : IdleWhenEmpty s) (caps : Capabilities) (addr : MacAddr) :
    IdleWhenEmpty (tdlsAutoAddPeer caps addr s).1 := by
  cases outcome : (tdlsAutoAddPeer caps addr s).2
  · obtain ⟨_, _, result, -⟩ := tdlsAutoAddPeer_failed outcome
    rw [result]
    exact inv
  · obtain ⟨_, result⟩ := tdlsAutoAddPeer_added outcome
    rw [result]
    split <;> exact of_ne_nil (by simp)

/-- An incoming peer is freed, an outgoing one stays tracked. -/
theorem peerDisconnected (inv : IdleWhenEmpty s) (registry : RegistryInv s)
    (disconnect : MacAddr → State → State) (addr : MacAddr) :
    IdleWhenEmpty (tdlsAutoPeerDisconnected disconnect addr s) := by
  cases found : tdlsAutoFindPeer s addr with
  | none => simpa [tdlsAutoPeerDisconnected, found] using inv
  | some peer =>
    have tracked := tracked_of_tdlsAutoFindPeer found
    rw [tdlsAutoPeerDisconnected_of_found found]
    dsimp only
    refine setConnPeerCount ?_ _
    split
    · exact stopFree (registry.writePeer addr (fun p => { p with connected := false }) fun _ => rfl)
        (by simpa [State.Tracked] using tracked)
    · exact of_ne_nil (State.ne_nil_of_tracked (by simpa [State.Tracked] using tracked))

theorem disconnect (inv : IdleWhenEmpty s) (registry : RegistryInv s) (caps : Capabilities)
    (addr : MacAddr) : IdleWhenEmpty (caps.disconnect addr s) := by
  unfold Capabilities.disconnect
  split
  · exact (inv.logCall _).peerDisconnected (registry.logCall _) _ _
  · exact inv.logCall _

/-- A stop of a tracked address ends by freeing its peer. -/
theorem modeStop (inv : IdleWhenEmpty s) (registry : RegistryInv s) (caps : Capabilities)
    (addr : MacAddr) : IdleWhenEmpty (tdlsAutoModeStop caps.disconnect addr s) := by
  cases found : tdlsAutoFindPeer s addr with
  | none => simpa [tdlsAutoModeStop, found] using inv
  | some peer =>
    have tracked := tracked_of_tdlsAutoFindPeer found
    cases active : peer.connected
    · rw [tdlsAutoModeStop_of_idle found active]
      exact stopFree registry tracked
    · rw [tdlsAutoModeStop_of_active found active]
      refine stopFree ((registry.writePeer addr (fun p => { p with incomingPeer := false })
        fun _ => rfl).disconnect caps addr) ?_
      rwa [State.Tracked, Capabilities.addrs_disconnect_of_stop found]

theorem modeStart (inv : IdleWhenEmpty s) (caps : Capabilities) (addr : MacAddr) :
    IdleWhenEmpty (tdlsAutoModeStart caps addr s).2 := by
  obtain same | same := tdlsAutoModeStart_cases caps addr s <;> rw [same]
  · exact inv
  · exact inv.addPeer caps addr

theorem peerConnectedFound (inv : IdleWhenEmpty s) (caps : Capabilities) (addr : MacAddr) :
    IdleWhenEmpty (tdlsAutoPeerConnectedFound caps addr s) := by
  have sampled := (inv.writePeer addr (f := fun p => { p with connected := true })
    fun _ => rfl).writePeer addr (f := tdlsAutoGetPeerDataRate caps) (by simp)
  unfold tdlsAutoPeerConnectedFound
  dsimp only
  split
  · exact ((sampled.setTimer_teardown (by decide) (by decide)).setTimer_teardown (by decide)
      (by decide))
  · exact sampled.setTimer_teardown (by decide) (by decide)

theorem peerConnected (inv : IdleWhenEmpty s) (caps : Capabilities) (addr : MacAddr) :
    IdleWhenEmpty (tdlsAutoPeerConnected caps addr s) := by
  have added := (inv.setConnPeerCount (s.connPeerCount + 1)).addPeer caps addr
  obtain ⟨-, same⟩ | ⟨-, -, same⟩ | ⟨-, -, same⟩ := tdlsAutoPeerConnected_cases caps addr s <;>
    rw [same]
  · exact (inv.setConnPeerCount _).peerConnectedFound caps addr
  · exact (added.writePeer addr (f := fun p => { p with incomingPeer := true }) fun _ => rfl
      ).peerConnectedFound caps addr
  · exact added

theorem discoveryResponse (inv : IdleWhenEmpty s) (caps : Capabilities) (addr : MacAddr)
    (rssi : Int) : IdleWhenEmpty (tdlsAutoDiscoveryResponse caps addr rssi s) := by
  have recorded := inv.writePeer addr (f := fun p => { p with rssi := rssi }) fun _ => rfl
  have sampled := recorded.writePeer addr (f := tdlsAutoGetPeerDataRate caps) (by simp)
  obtain same | same | same | ⟨-, -, same⟩ :=
    tdlsAutoDiscoveryResponse_cases caps addr rssi s <;> rw [same]
  · exact inv
  · exact recorded
  · exact sampled
  · exact sampled.logCall _

theorem removePeersStep (inv : IdleWhenEmpty s) (registry : RegistryInv s) (caps : Capabilities)
    (killActiveLinks : Bool) (addr : MacAddr) :
    IdleWhenEmpty (tdlsAutoRemovePeersStep caps killActiveLinks s addr) := by
  cases killActiveLinks
  · exact (inv.writePeer addr (f := fun p => { p with connected := false }) fun _ => rfl).modeStop
      (registry.writePeer addr (fun p => { p with connected := false }) fun _ => rfl) caps addr
  · exact inv.modeStop registry caps addr

theorem removePeers (inv : IdleWhenEmpty s) (registry : RegistryInv s) (caps : Capabilities)
    (killActiveLinks : Bool) : IdleWhenEmpty (tdlsAutoRemovePeers caps killActiveLinks s) :=
  (List.foldlRecOn (motive := fun t => RegistryInv t ∧ IdleWhenEmpty t) s.addrs _ s
    ⟨registry, inv⟩ fun _ ⟨registry, inv⟩ addr _ =>
      ⟨registry.removePeersStep caps killActiveLinks addr,
        inv.removePeersStep registry caps killActiveLinks addr⟩).2

/-- The fast-connect pass re-arms only after visiting a peer, and it removes none. -/
theorem fastConnectTimeout (inv : IdleWhenEmpty s) (caps : Capabilities) :
    IdleWhenEmpty (tdlsAutoFastConnectTimeout caps s) := by
  by_cases empty : s.peers = []
  · have none : s.addrs = [] := by simp [State.addrs, empty]
    simpa [tdlsAutoFastConnectTimeout, none] using inv
  · exact of_ne_nil fun empty' =>
      empty (State.peers_eq_nil_of_addrs addrs_tdlsAutoFastConnectTimeout.symm empty')

/-- The slow-connect pass re-arms only while a peer is counted, and it removes none. -/
theorem slowConnectTimeout (inv : IdleWhenEmpty s) (registry : RegistryInv s)
    (caps : Capabilities) : IdleWhenEmpty (tdlsAutoSlowConnectTimeout caps s) := by
  by_cases empty : s.peers = []
  · have none : s.addrs = [] := by simp [State.addrs, empty]
    have zero : s.peerCount = 0 := (uint32_eq_iff_toNat_eq (b := 0)).2 <| by
      rw [registry.peerCount_toNat, empty]
      rfl
    simpa [tdlsAutoSlowConnectTimeout, none, zero] using inv
  · exact of_ne_nil fun empty' =>
      empty (State.peers_eq_nil_of_addrs addrs_tdlsAutoSlowConnectTimeout.symm empty')

theorem dataTeardownStep (inv : IdleWhenEmpty s) (registry : RegistryInv s) (caps : Capabilities)
    (addr : MacAddr) : IdleWhenEmpty (tdlsAutoDataTeardownStep caps s addr) := by
  have sampled := inv.writePeer addr (f := tdlsAutoGetPeerDataRate caps) (by simp)
  obtain same | same | ⟨-, same⟩ := tdlsAutoDataTeardownStep_cases caps s addr <;> rw [same]
  · exact inv
  · exact sampled
  · exact sampled.disconnect (registry.writePeer addr _ (by simp)) caps addr

theorem rssiTeardownStep (inv : IdleWhenEmpty s) (registry : RegistryInv s) (caps : Capabilities)
    (addr : MacAddr) : IdleWhenEmpty (tdlsAutoRssiTeardownStep caps s addr) := by
  have read := inv.writePeer addr (f := tdlsAutoGetConnectedStaRssi caps) fun _ => rfl
  have counted := read.writePeer addr
    (f := fun p => { p with lowRssiVals := p.lowRssiVals + 1 }) fun _ => rfl
  have registryCounted := (registry.writePeer addr (tdlsAutoGetConnectedStaRssi caps)
    fun _ => rfl).writePeer addr (fun p => { p with lowRssiVals := p.lowRssiVals + 1 })
    fun _ => rfl
  obtain same | same | same | ⟨-, same⟩ := tdlsAutoRssiTeardownStep_cases caps s addr <;> rw [same]
  · exact inv
  · exact read.writePeer addr (f := fun p => { p with lowRssiVals := 0 }) fun _ => rfl
  · exact counted
  · exact (counted.disconnect registryCounted caps addr).writePeer addr
      (f := fun p => { p with lowRssiVals := 0 }) fun _ => rfl

theorem fireTimeout (inv : IdleWhenEmpty s) (registry : RegistryInv s) (caps : Capabilities)
    (handler : Handler) : IdleWhenEmpty (fireTimeout caps handler s) := by
  have cancelled := inv.cancelTimer handler
  have registryCancelled := registry.cancelTimer handler
  cases handler
  · exact cancelled.fastConnectTimeout caps
  · exact cancelled.slowConnectTimeout registryCancelled caps
  · exact (tdlsAutoDataTeardownTimeout_rec (motive := fun t => RegistryInv t ∧ IdleWhenEmpty t)
      ⟨registryCancelled, cancelled⟩
      (fun _ addr ⟨registry, inv⟩ =>
        ⟨registry.dataTeardownStep caps addr, inv.dataTeardownStep registry caps addr⟩)
      fun _ ⟨registry, inv⟩ =>
        ⟨registry.setTimer _, inv.setTimer_teardown (by decide) (by decide)⟩).2
  · exact (tdlsAutoRssiTeardownTimeout_rec (motive := fun t => RegistryInv t ∧ IdleWhenEmpty t)
      ⟨registryCancelled, cancelled⟩
      (fun _ addr ⟨registry, inv⟩ =>
        ⟨registry.rssiTeardownStep caps addr, inv.rssiTeardownStep registry caps addr⟩)
      fun _ ⟨registry, inv⟩ =>
        ⟨registry.setTimer _, inv.setTimer_teardown (by decide) (by decide)⟩).2

theorem apply (inv : IdleWhenEmpty s) (registry : RegistryInv s) (caps : Capabilities)
    (event : Event) : IdleWhenEmpty (event.apply caps s) := by
  cases event with
  | modeStart addr => exact inv.modeStart caps addr
  | modeStop addr => exact inv.modeStop registry caps addr
  | removePeers killActiveLinks => exact inv.removePeers registry caps killActiveLinks
  | peerConnected addr => exact inv.peerConnected caps addr
  | peerDisconnected addr => exact inv.peerDisconnected registry _ addr
  | discoveryResponse addr rssi => exact inv.discoveryResponse caps addr rssi
  | timeout handler => exact inv.fireTimeout registry caps handler

/-- Together with the registry invariant, it holds of every reachable state. -/
theorem invariant : Invariant fun s => RegistryInv s ∧ IdleWhenEmpty s where
  init extn := ⟨RegistryInv.invariant.init extn, fun _ => ⟨rfl, rfl⟩⟩
  step caps event _ inv _ := ⟨inv.1.apply caps event, inv.2.apply inv.1 caps event⟩

end IdleWhenEmpty

/-- **Removing every peer empties the controller.** From every reachable state, under either
model of `disconnect` and for both values of `kill_active_links`, `tdls_auto_remove_peers`
leaves no peer, `peer_count` zero, no traffic-accounting entry and neither connect timer
pending; it calls `disconnect(b)` once for each peer `b` that was connected when active
links are killed, and for no peer otherwise. -/
theorem tdlsAutoRemovePeers_empties (caps : Capabilities) (killActiveLinks : Bool) {s : State}
    (reachable : Reachable s) :
    (tdlsAutoRemovePeers caps killActiveLinks s).peers = [] ∧
      (tdlsAutoRemovePeers caps killActiveLinks s).peerCount = 0 ∧
      (tdlsAutoRemovePeers caps killActiveLinks s).peerCache = [] ∧
      (tdlsAutoRemovePeers caps killActiveLinks s).pending .fastConnect = false ∧
      (tdlsAutoRemovePeers caps killActiveLinks s).pending .slowConnect = false ∧
      ∀ b, (tdlsAutoRemovePeers caps killActiveLinks s).calls.count (.disconnect b) =
        s.calls.count (.disconnect b) +
          if killActiveLinks = true ∧ ∃ p ∈ s.peers, p.addr = b ∧ p.connected = true then 1 else 0 := by
  obtain ⟨registry, idle⟩ := IdleWhenEmpty.invariant.reachable reachable
  have empty := tdlsAutoRemovePeers_peers caps killActiveLinks s
  have cleared := registry.removePeers caps killActiveLinks
  obtain ⟨fast, slow⟩ := idle.removePeers registry caps killActiveLinks empty
  refine ⟨empty, (uint32_eq_iff_toNat_eq (b := 0)).2 ?_, ?_, fast, slow, fun b =>
    count_disconnect_foldl_tdlsAutoRemovePeersStep caps killActiveLinks b s.addrs s rfl
      registry.addrs_nodup⟩
  · rw [cleared.peerCount_toNat, empty]
    rfl
  · refine List.eq_nil_iff_forall_not_mem.2 fun b cached => ?_
    have tracked := (cleared.mem_peerCache b).1 cached
    simp [State.Tracked, State.addrs, empty] at tracked

/-- An incoming connected peer, removed with active links killed by a `disconnect` that
re-enters: one `disconnect`, and the controller left empty. -/
theorem tdlsAutoRemovePeers_empties_incoming :
    let s := runEvents [(.nominal true 0, .peerConnected stationA)] (tdlsAutoInit scenarioConfig)
    Reachable s ∧
      (tdlsAutoRemovePeers (.nominal true 0) true s).peers = [] ∧
      (tdlsAutoRemovePeers (.nominal true 0) true s).peerCount = 0 ∧
      (tdlsAutoRemovePeers (.nominal true 0) true s).peerCache = [] ∧
      (tdlsAutoRemovePeers (.nominal true 0) true s).pending .fastConnect = false ∧
      (tdlsAutoRemovePeers (.nominal true 0) true s).pending .slowConnect = false ∧
      ∀ b, (tdlsAutoRemovePeers (.nominal true 0) true s).calls.count (.disconnect b) =
        s.calls.count (.disconnect b) +
          if true = true ∧ ∃ p ∈ s.peers, p.addr = b ∧ p.connected = true then 1 else 0 := by
  have reachable : Reachable (runEvents [(.nominal true 0, .peerConnected stationA)]
      (tdlsAutoInit scenarioConfig)) := (Reachable.init _).runEvents (by decide)
  exact ⟨reachable, tdlsAutoRemovePeers_empties _ _ reachable⟩

end TdlsAutoMode
