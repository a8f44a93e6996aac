import TdlsAutoMode.Flags
import TdlsAutoMode.RegistryInvariant

/-! # Incoming peers are connected

`tdls_auto_peer_connected` creates an incoming peer and marks it connected in the same
call. The two places that clear `connected` on an incoming peer free it right away:
`tdls_auto_peer_disconnected` stops it, and `tdls_auto_remove_peers` stops every peer it
marks. `tdls_auto_mode_stop` clears `incoming_peer` before its `disconnect`. So in every
reachable state each incoming peer is connected (`IncomingConnected.invariant`), and, since
a link call is issued only for a disconnected peer (`linkCalls_apply`), no `connect` and
no `send_discovery` is issued for an incoming peer (`incoming_peers_never_linked`).
-/

namespace TdlsAutoMode

/-- The peer is connected if it is incoming. -/
def TdlsAutoPeer.IncomingConnected (p : TdlsAutoPeer) : Prop :=
  p.incomingPeer = true → p.connected = true

/-- Every tracked incoming peer is connected. -/
def IncomingConnected (s : State) : Prop := s.AllPeers TdlsAutoPeer.IncomingConnected

/-- Every tracked incoming peer is connected, except perhaps those with the address. -/
def IncomingConnectedExcept (addr : MacAddr) (s : State) : Prop :=
  s.AllPeersExcept addr TdlsAutoPeer.IncomingConnected

namespace IncomingConnected

variable {s s' : State}

/-- The invariant reads only the flags of each peer. -/
theorem of_flags (inv : IncomingConnected s) (same : s'.flags = s.flags) :
    IncomingConnected s' :=
  State.AllPeers.of_map inv same fun _ _ flags holds incoming => by
    simp only [TdlsAutoPeer.flags, Prod.mk.injEq] at flags
    exact flags.2.1 ▸ holds (flags.2.2 ▸ incoming)

theorem writePeer (inv : IncomingConnected s) (addr : MacAddr) {f : TdlsAutoPeer → TdlsAutoPeer}
    (keeps : ∀ p, (f p).flags = p.flags) : IncomingConnected (s.writePeer addr f) :=
  inv.of_flags (State.flags_writePeer keeps)

theorem modeStart (inv : IncomingConnected s) (caps : Capabilities) (addr : MacAddr) :
    IncomingConnected (tdlsAutoModeStart caps addr s).2 := by
  unfold tdlsAutoModeStart
  split
  · exact inv
  · have added : IncomingConnected (tdlsAutoAddPeer caps addr s).1 :=
      inv.addPeer caps addr fun incoming => by cases incoming
    split <;> simp_all

theorem peerDisconnected (inv : IncomingConnected s) (registry : RegistryInv s)
    (disconnect : MacAddr → State → State) (addr : MacAddr) :
    IncomingConnected (tdlsAutoPeerDisconnected disconnect addr s) := by
  cases found : tdlsAutoFindPeer s addr with
  | none => simpa [tdlsAutoPeerDisconnected, found] using inv
  | some peer =>
    rw [tdlsAutoPeerDisconnected_of_found found]
    have written := registry.writePeer addr (fun p => { p with connected := false }) fun _ => rfl
    dsimp only
    apply State.AllPeers.setConnPeerCount
    split
    · exact ((inv.except addr).writePeer (by intro; rfl)).stopFree written.addrs_nodup
    · rename_i outgoing
      have idle : IncomingConnected _ := inv.writePeer_of_found registry.addrs_nodup found
        (f := fun p => { p with connected := false }) fun incoming => absurd incoming outgoing
      exact (idle.writePeer addr (by intro; rfl)).setTimer _

theorem disconnect (inv : IncomingConnected s) (registry : RegistryInv s) (caps : Capabilities)
    (addr : MacAddr) : IncomingConnected (caps.disconnect addr s) := by
  unfold Capabilities.disconnect
  split
  · exact peerDisconnected (inv.logCall _) (registry.logCall _) _ _
  · exact inv.logCall _

theorem modeStop (inv : IncomingConnected s) (registry : RegistryInv s) (caps : Capabilities)
    (addr : MacAddr) : IncomingConnected (tdlsAutoModeStop caps.disconnect addr s) := by
  unfold tdlsAutoModeStop
  split
  · exact inv
  · split
    · have outgoing := (inv.except addr).writePeer_setting
        (f := fun p => { p with incomingPeer := false }) fun _ _ incoming =>
          absurd incoming (by simp)
      exact (disconnect outgoing (registry.writePeer _ _ (by intro; rfl)) caps addr).stopFree addr
    · exact inv.stopFree addr

theorem peerConnectedFound {addr : MacAddr} (except : IncomingConnectedExcept addr s)
    (caps : Capabilities) : IncomingConnected (tdlsAutoPeerConnectedFound caps addr s) := by
  have marked : IncomingConnected _ := except.writePeer_setting
    (f := fun p => { p with connected := true }) fun _ _ _ => rfl
  have sampled := marked.writePeer addr (flags_tdlsAutoGetPeerDataRate caps)
  unfold tdlsAutoPeerConnectedFound
  dsimp only
  split
  · exact (sampled.setTimer _).setTimer _
  · exact sampled.setTimer _

theorem peerConnected (inv : IncomingConnected s) (caps : Capabilities) (addr : MacAddr) :
    IncomingConnected (tdlsAutoPeerConnected caps addr s) := by
  have counted := inv.setConnPeerCount (s.connPeerCount + 1)
  have added := counted.addPeer caps addr fun incoming => by cases incoming
  obtain ⟨-, same⟩ | ⟨-, -, same⟩ | ⟨-, -, same⟩ := tdlsAutoPeerConnected_cases caps addr s <;>
    rw [same]
  · exact peerConnectedFound (counted.except addr) caps
  · exact peerConnectedFound ((added.except addr).writePeer (by intro; rfl)) caps
  · exact added

theorem discoveryResponse (inv : IncomingConnected s) (caps : Capabilities) (addr : MacAddr)
    (rssi : Int) : IncomingConnected (tdlsAutoDiscoveryResponse caps addr rssi s) :=
  inv.of_flags (issuingFrom_tdlsAutoDiscoveryResponse addr rssi).1

/-- One iteration of `tdls_auto_remove_peers`: a peer marked disconnected is freed before
anything looks at it. -/
theorem removePeersStep (inv : IncomingConnected s) (registry : RegistryInv s)
    (caps : Capabilities) (killActiveLinks : Bool) (addr : MacAddr) :
    IncomingConnected (tdlsAutoRemovePeersStep caps killActiveLinks s addr) := by
  cases killActiveLinks
  · rw [tdlsAutoRemovePeersStep_idle]
    split
    · exact ((inv.except addr).writePeer (by intro; rfl)).stopFree
        (registry.writePeer _ _ (by intro; rfl)).addrs_nodup
    · rw [State.writePeer_of_not_tracked ‹_›]
      exact inv
  · exact inv.modeStop registry caps addr

theorem removePeers (inv : IncomingConnected s) (registry : RegistryInv s) (caps : Capabilities)
    (killActiveLinks : Bool) : IncomingConnected (tdlsAutoRemovePeers caps killActiveLinks s) :=
  (List.foldlRecOn (motive := fun t => RegistryInv t ∧ IncomingConnected t) s.addrs _ s
    ⟨registry, inv⟩ fun _ ⟨registry, inv⟩ addr _ =>
      ⟨registry.removePeersStep caps killActiveLinks addr,
        inv.removePeersStep registry caps killActiveLinks addr⟩).2

theorem dataTeardownStep (inv : IncomingConnected s) (registry : RegistryInv s)
    (caps : Capabilities) (addr : MacAddr) :
    IncomingConnected (tdlsAutoDataTeardownStep caps s addr) := by
  have written := inv.writePeer addr (flags_tdlsAutoGetPeerDataRate caps)
  obtain same | same | ⟨-, same⟩ := tdlsAutoDataTeardownStep_cases caps s addr <;> rw [same]
  · exact inv
  · exact written
  · exact written.disconnect (registry.writePeer _ _ (by simp)) caps addr

theorem rssiTeardownStep (inv : IncomingConnected s) (registry : RegistryInv s)
    (caps : Capabilities) (addr : MacAddr) :
    IncomingConnected (tdlsAutoRssiTeardownStep caps s addr) := by
  have read := inv.writePeer addr (f := tdlsAutoGetConnectedStaRssi caps) fun _ => rfl
  have counted := read.writePeer addr
    (f := fun p => { p with lowRssiVals := p.lowRssiVals + 1 }) fun _ => rfl
  have registryCounted := (registry.writePeer addr (tdlsAutoGetConnectedStaRssi caps)
    fun _ => rfl).writePeer addr (fun p => { p with lowRssiVals := p.lowRssiVals + 1 })
    fun _ => rfl
  obtain same | same | same | ⟨-, same⟩ := tdlsAutoRssiTeardownStep_cases caps s addr <;> rw [same]
  · exact inv
  · exact read.writePeer addr fun _ => rfl
  · exact counted
  · exact (counted.disconnect registryCounted caps addr).writePeer addr fun _ => rfl

theorem fireTimeout (inv : IncomingConnected s) (registry : RegistryInv s) (caps : Capabilities)
    (handler : Handler) : IncomingConnected (fireTimeout caps handler s) := by
  have cancelled : IncomingConnected (tdlsAutoCancelTimer handler s) := inv
  have registryCancelled := registry.cancelTimer handler
  cases handler
  · exact cancelled.of_flags issuingFrom_tdlsAutoFastConnectTimeout.1
  · exact cancelled.of_flags issuingFrom_tdlsAutoSlowConnectTimeout.1
  · exact (tdlsAutoDataTeardownTimeout_rec (motive := fun t => RegistryInv t ∧ IncomingConnected t)
      ⟨registryCancelled, cancelled⟩
      (fun _ addr ⟨registry, inv⟩ =>
        ⟨registry.dataTeardownStep caps addr, inv.dataTeardownStep registry caps addr⟩)
      fun _ ⟨registry, inv⟩ => ⟨registry.setTimer _, inv.setTimer _⟩).2
  · exact (tdlsAutoRssiTeardownTimeout_rec (motive := fun t => RegistryInv t ∧ IncomingConnected t)
      ⟨registryCancelled, cancelled⟩
      (fun _ addr ⟨registry, inv⟩ =>
        ⟨registry.rssiTeardownStep caps addr, inv.rssiTeardownStep registry caps addr⟩)
      fun _ ⟨registry, inv⟩ => ⟨registry.setTimer _, inv.setTimer _⟩).2

theorem apply (inv : IncomingConnected s) (registry : RegistryInv s) (caps : Capabilities)
    (event : Event) : IncomingConnected (event.apply caps s) := by
  cases event with
  | modeStart addr => exact inv.modeStart caps addr
  | modeStop addr => exact inv.modeStop registry caps addr
  | removePeers killActiveLinks => exact inv.removePeers registry caps killActiveLinks
  | peerConnected addr => exact inv.peerConnected caps addr
  | peerDisconnected addr => exact inv.peerDisconnected registry _ addr
  | discoveryResponse addr rssi => exact inv.discoveryResponse caps addr rssi
  | timeout handler => exact inv.fireTimeout registry caps handler

/-- Together with the registry invariant, the invariant holds of every reachable state. -/
theorem invariant : Invariant fun s => RegistryInv s ∧ IncomingConnected s where
  init extn := ⟨RegistryInv.invariant.init extn, fun _ member => by cases member⟩
  step caps event _ inv _ := ⟨inv.1.apply caps event, inv.2.apply inv.1 caps event⟩

end IncomingConnected

section calls

variable {s t : State}

/-- A link call whose count grows during a callback is among the calls it issued. -/
theorem mem_issued_of_count_lt {new : List Call} (calls : t.linkCalls = new ++ s.linkCalls)
    {call : Call} (link : call.isLink = true) (more : s.calls.count call < t.calls.count call) :
    call ∈ new := by
  rw [← List.count_filter link, ← List.count_filter (l := t.calls) link] at more
  change s.linkCalls.count call < t.linkCalls.count call at more
  rw [calls, List.count_append] at more
  exact List.count_pos_iff.1 (by omega)

/-- A disconnected peer is outgoing. -/
theorem IncomingConnected.outgoing_of_idle (inv : IncomingConnected s) {addr : MacAddr}
    (idle : s.Idle addr) : ∃ p ∈ s.peers, p.addr = addr ∧ p.incomingPeer = false := by
  obtain ⟨p, member, same, off⟩ := idle
  refine ⟨p, member, same, ?_⟩
  cases incoming : p.incomingPeer
  · rfl
  · simpa [off] using inv p member incoming

theorem State.Issuable.idle_of_connect {addr : MacAddr} (issuable : s.Issuable (.connect addr)) :
    s.Idle addr := by
  obtain ⟨other, kind, idle⟩ := issuable
  simp only [Call.connect.injEq, reduceCtorEq, or_false] at kind
  exact kind ▸ idle

theorem State.Issuable.idle_of_sendDiscovery {addr : MacAddr}
    (issuable : s.Issuable (.sendDiscovery addr)) : s.Idle addr := by
  obtain ⟨other, kind, idle⟩ := issuable
  simp only [Call.sendDiscovery.injEq, reduceCtorEq, false_or] at kind
  exact kind ▸ idle

end calls

/-- **No link is started to an incoming peer.** In every reachable state each incoming peer
is connected, and every `connect(addr)` or `send_discovery(addr)` that a callback issues
from there is for an address tracked as an outgoing peer both when the callback starts and
when it returns. -/
theorem incoming_peers_never_linked {s : State} (reachable : Reachable s) :
    (∀ p ∈ s.peers, p.incomingPeer = true → p.connected = true) ∧
      ∀ (caps : Capabilities) (event : Event) (addr : MacAddr),
        (s.calls.count (.connect addr) < (event.apply caps s).calls.count (.connect addr) ∨
          s.calls.count (.sendDiscovery addr) <
            (event.apply caps s).calls.count (.sendDiscovery addr)) →
        (∃ p ∈ s.peers, p.addr = addr ∧ p.incomingPeer = false) ∧
          ∃ p ∈ (event.apply caps s).peers, p.addr = addr ∧ p.incomingPeer = false := by
  obtain ⟨registry, inv⟩ := IncomingConnected.invariant.reachable reachable
  refine ⟨inv, fun caps event addr issued => ?_⟩
  have after := inv.apply registry caps event
  obtain ⟨new, calls, issuable⟩ := linkCalls_apply caps event s
  rcases issued with more | more
  · obtain ⟨before, later⟩ := issuable _
      (mem_issued_of_count_lt calls (show (Call.connect addr).isLink = true from rfl) more)
    exact ⟨inv.outgoing_of_idle before.idle_of_connect,
      after.outgoing_of_idle later.idle_of_connect⟩
  · obtain ⟨before, later⟩ := issuable _
      (mem_issued_of_count_lt calls (show (Call.sendDiscovery addr).isLink = true from rfl) more)
    exact ⟨inv.outgoing_of_idle before.idle_of_sendDiscovery,
      after.outgoing_of_idle later.idle_of_sendDiscovery⟩

/-- A started peer that answers a discovery with a strong signal and a busy link gets a
`connect`, and it is outgoing. -/
theorem incoming_peers_never_linked_on_discovery :
    (runEvents [(.nominal false 0, .modeStart stationA)]
        (tdlsAutoInit scenarioConfig)).calls.count (.connect stationA) <
      ((Event.discoveryResponse stationA (-60)).apply .busy (runEvents
        [(.nominal false 0, .modeStart stationA)] (tdlsAutoInit scenarioConfig))).calls.count
        (.connect stationA) ∧
      (∃ p ∈ (runEvents [(.nominal false 0, .modeStart stationA)]
        (tdlsAutoInit scenarioConfig)).peers, p.addr = stationA ∧ p.incomingPeer = false) := by
  have issued : (runEvents [(.nominal false 0, .modeStart stationA)]
      (tdlsAutoInit scenarioConfig)).calls.count (.connect stationA) <
      ((Event.discoveryResponse stationA (-60)).apply .busy (runEvents
        [(.nominal false 0, .modeStart stationA)] (tdlsAutoInit scenarioConfig))).calls.count
        (.connect stationA) := by decide
  exact ⟨issued, ((incoming_peers_never_linked ((Reachable.init _).runEvents (by decide))).2
    .busy _ stationA (.inl issued)).1⟩

end TdlsAutoMode
