import TdlsAutoMode.Incoming

/-! # The lifetime of a started peer

A peer is freed by `tdls_auto_mode_stop`, by `tdls_auto_remove_peers`, and, when it is
incoming, by `tdls_auto_peer_disconnected`. `incoming_peer` is set only on a peer that
`tdls_auto_peer_connected` has just created, so a tracked outgoing peer stays tracked and
outgoing through every other callback (`TrackedOutgoing.apply`), whatever the others do to
the rest of the registry.

`tdls_auto_mode_start` returns 0 without touching a peer that is already tracked, also an
incoming one: after a remote station's `connected` event, a start is a no-op and the next
`disconnected` event frees the peer (`started_peer_freed_on_disconnect`). A start that did
not find an incoming peer keeps the address tracked until it is stopped or every peer is
removed (`started_peer_stays_tracked`).
-/

namespace TdlsAutoMode

/-- The address has a tracked outgoing peer. -/
def State.TrackedOutgoing (s : State) (addr : MacAddr) : Prop :=
  ∃ p ∈ s.peers, p.addr = addr ∧ p.incomingPeer = false

/-- The callback stops the address or removes every peer. -/
def Event.StopsPeer (addr : MacAddr) : Event → Prop
  | .modeStop other => other = addr
  | .removePeers _ => True
  | _ => False

instance Event.decidableStopsPeer (addr : MacAddr) : (event : Event) →
    Decidable (event.StopsPeer addr)
  | .modeStop other => inferInstanceAs (Decidable (other = addr))
  | .removePeers _ => isTrue trivial
  | .modeStart _ | .peerConnected _ | .peerDisconnected _ | .discoveryResponse _ _
  | .timeout _ => isFalse id

namespace State.TrackedOutgoing

variable {s s' : State} {addr : MacAddr}

theorem tracked (outgoing : s.TrackedOutgoing addr) : s.Tracked addr :=
  let ⟨p, member, same, _⟩ := outgoing
  (State.tracked_iff s addr).2 ⟨p, member, same⟩

theorem of_flags (outgoing : s.TrackedOutgoing addr) (same : s'.flags = s.flags) :
    s'.TrackedOutgoing addr := by
  obtain ⟨p, member, rfl, incoming⟩ := outgoing
  have listed : p.flags ∈ s.flags := List.mem_map_of_mem _ member
  rw [← same] at listed
  obtain ⟨q, member', flags⟩ := List.mem_map.1 listed
  simp only [TdlsAutoPeer.flags, Prod.mk.injEq] at flags
  exact ⟨q, member', flags.1, flags.2.2.trans incoming⟩

/-- A write keeps the peer unless it is to the address and makes the peer incoming. -/
theorem writePeer (outgoing : s.TrackedOutgoing addr) (other : MacAddr)
    {f : TdlsAutoPeer → TdlsAutoPeer} (keeps : ∀ p, (f p).addr = p.addr)
    (stays : other = addr → ∀ p, p.incomingPeer = false → (f p).incomingPeer = false) :
    (s.writePeer other f).TrackedOutgoing addr := by
  obtain ⟨p, member, rfl, incoming⟩ := outgoing
  unfold State.writePeer
  split
  · refine ⟨if p.addr = other then f p else p, List.mem_map_of_mem _ member, ?_, ?_⟩
    · split <;> simp [keeps]
    · split
      · rename_i same
        exact stays same.symm p incoming
      · exact incoming
  · exact ⟨p, member, rfl, incoming⟩

theorem stopFree (outgoing : s.TrackedOutgoing addr) {other : MacAddr} (distinct : other ≠ addr) :
    (tdlsAutoModeStopFree other s).TrackedOutgoing addr := by
  obtain ⟨p, member, rfl, incoming⟩ := outgoing
  refine ⟨p, ?_, rfl, incoming⟩
  rw [tdlsAutoModeStopFree_peers]
  exact (List.mem_eraseP_of_neg (by simpa using Ne.symm distinct)).2 member

theorem addPeer (outgoing : s.TrackedOutgoing addr) (caps : Capabilities) (other : MacAddr) :
    (tdlsAutoAddPeer caps other s).1.TrackedOutgoing addr := by
  obtain ⟨p, member, rfl, incoming⟩ := outgoing
  cases outcome : (tdlsAutoAddPeer caps other s).2
  · obtain ⟨_, _, result, -⟩ := tdlsAutoAddPeer_failed outcome
    rw [result]
    exact ⟨p, member, rfl, incoming⟩
  · obtain ⟨_, result⟩ := tdlsAutoAddPeer_added outcome
    rw [result]
    split <;> exact ⟨p, List.mem_cons_of_mem _ member, rfl, incoming⟩

theorem setTimer (outgoing : s.TrackedOutgoing addr) (handler : Handler) :
    (tdlsAutoSetTimer handler s).TrackedOutgoing addr := outgoing

theorem setConnPeerCount (outgoing : s.TrackedOutgoing addr) (count : UInt32) :
    (s.setConnPeerCount count).TrackedOutgoing addr := outgoing

theorem logCall (outgoing : s.TrackedOutgoing addr) (call : Call) :
    (s.logCall call).TrackedOutgoing addr := outgoing

/-- The only peer with the address is outgoing, so a stop of an incoming peer is of another
address. -/
theorem ne_of_incoming (outgoing : s.TrackedOutgoing addr) (registry : RegistryInv s)
    {other : MacAddr} {peer : TdlsAutoPeer} (found : tdlsAutoFindPeer s other = some peer)
    (incoming : peer.incomingPeer = true) : other ≠ addr := by
  rintro rfl
  obtain ⟨p, member, same, off⟩ := outgoing
  obtain rfl := eq_of_tdlsAutoFindPeer registry.addrs_nodup found member same
  simp [off] at incoming

theorem peerDisconnected (outgoing : s.TrackedOutgoing addr) (registry : RegistryInv s)
    (disconnect : MacAddr → State → State) (other : MacAddr) :
    (tdlsAutoPeerDisconnected disconnect other s).TrackedOutgoing addr := by
  cases found : tdlsAutoFindPeer s other with
  | none => simpa [tdlsAutoPeerDisconnected, found] using outgoing
  | some peer =>
    rw [tdlsAutoPeerDisconnected_of_found found]
    have marked := outgoing.writePeer other (f := fun p => { p with connected := false })
      (fun _ => rfl) fun _ _ incoming => incoming
    dsimp only
    apply setConnPeerCount
    split
    · exact marked.stopFree (outgoing.ne_of_incoming registry found ‹_›)
    · exact (marked.writePeer other (f := fun p => { p with lowRssiVals := 0, fastAttempts := 0 })
        (fun _ => rfl) fun _ _ incoming => incoming).setTimer _

theorem disconnect (outgoing : s.TrackedOutgoing addr) (registry : RegistryInv s)
    (caps : Capabilities) (other : MacAddr) : (caps.disconnect other s).TrackedOutgoing addr := by
  unfold Capabilities.disconnect
  split
  · exact (outgoing.logCall _).peerDisconnected (registry.logCall _) _ _
  · exact outgoing.logCall _

theorem modeStop (outgoing : s.TrackedOutgoing addr) (registry : RegistryInv s)
    (caps : Capabilities) {other : MacAddr} (distinct : other ≠ addr) :
    (tdlsAutoModeStop caps.disconnect other s).TrackedOutgoing addr := by
  unfold tdlsAutoModeStop
  split
  · exact outgoing
  · split
    · have marked := outgoing.writePeer other (f := fun p => { p with incomingPeer := false })
        (fun _ => rfl) fun _ _ _ => rfl
      exact (marked.disconnect (registry.writePeer _ _ (by intro; rfl)) caps other).stopFree
        distinct
    · exact outgoing.stopFree distinct

theorem modeStart (outgoing : s.TrackedOutgoing addr) (caps : Capabilities) (other : MacAddr) :
    (tdlsAutoModeStart caps other s).2.TrackedOutgoing addr := by
  unfold tdlsAutoModeStart
  split
  · exact outgoing
  · have added := outgoing.addPeer caps other
    split <;> simp_all

theorem peerConnectedFound (outgoing : s.TrackedOutgoing addr) (caps : Capabilities)
    (other : MacAddr) : (tdlsAutoPeerConnectedFound caps other s).TrackedOutgoing addr := by
  have marked := outgoing.writePeer other (f := fun p => { p with connected := true })
    (fun _ => rfl) fun _ _ incoming => incoming
  have sampled := marked.writePeer other (f := tdlsAutoGetPeerDataRate caps) (by simp)
    fun _ _ incoming => by simpa using incoming
  unfold tdlsAutoPeerConnectedFound
  dsimp only
  split
  · exact (sampled.setTimer _).setTimer _
  · exact sampled.setTimer _

/-- Only a peer just created for an unknown address is made incoming. -/
theorem peerConnected (outgoing : s.TrackedOutgoing addr) (caps : Capabilities)
    (other : MacAddr) : (tdlsAutoPeerConnected caps other s).TrackedOutgoing addr := by
  have counted := outgoing.setConnPeerCount (s.connPeerCount + 1)
  have added := counted.addPeer caps other
  obtain ⟨-, same⟩ | ⟨untracked, -, same⟩ | ⟨-, -, same⟩ :=
    tdlsAutoPeerConnected_cases caps other s <;> rw [same]
  · exact counted.peerConnectedFound caps other
  · have distinct : other ≠ addr := fun same => untracked (same ▸ outgoing.tracked)
    exact (added.writePeer other (by intro; rfl) fun same => absurd same distinct)
      |>.peerConnectedFound caps other
  · exact added

theorem dataTeardownStep (outgoing : s.TrackedOutgoing addr) (registry : RegistryInv s)
    (caps : Capabilities) (other : MacAddr) :
    (tdlsAutoDataTeardownStep caps s other).TrackedOutgoing addr := by
  have sampled : (s.writePeer other (tdlsAutoGetPeerDataRate caps)).TrackedOutgoing addr :=
    outgoing.of_flags (State.flags_writePeer (flags_tdlsAutoGetPeerDataRate caps))
  obtain same | same | ⟨-, same⟩ := tdlsAutoDataTeardownStep_cases caps s other <;> rw [same]
  · exact outgoing
  · exact sampled
  · exact sampled.disconnect (registry.writePeer _ _ (by simp)) caps other

theorem rssiTeardownStep (outgoing : s.TrackedOutgoing addr) (registry : RegistryInv s)
    (caps : Capabilities) (other : MacAddr) :
    (tdlsAutoRssiTeardownStep caps s other).TrackedOutgoing addr := by
  have read := outgoing.writePeer other (f := tdlsAutoGetConnectedStaRssi caps)
    (fun _ => rfl) fun _ _ incoming => incoming
  have counted := read.writePeer other (f := fun p => { p with lowRssiVals := p.lowRssiVals + 1 })
    (fun _ => rfl) fun _ _ incoming => incoming
  have registryCounted := (registry.writePeer other (tdlsAutoGetConnectedStaRssi caps)
    fun _ => rfl).writePeer other (fun p => { p with lowRssiVals := p.lowRssiVals + 1 })
    fun _ => rfl
  obtain same | same | same | ⟨-, same⟩ := tdlsAutoRssiTeardownStep_cases caps s other <;> rw [same]
  · exact outgoing
  · exact read.writePeer other (f := fun p => { p with lowRssiVals := 0 }) (fun _ => rfl)
      fun _ _ incoming => incoming
  · exact counted
  · exact (counted.disconnect registryCounted caps other).writePeer other
      (f := fun p => { p with lowRssiVals := 0 }) (fun _ => rfl) fun _ _ incoming => incoming

theorem fireTimeout (outgoing : s.TrackedOutgoing addr) (registry : RegistryInv s)
    (caps : Capabilities) (handler : Handler) :
    (TdlsAutoMode.fireTimeout caps handler s).TrackedOutgoing addr := by
  have cancelled : (tdlsAutoCancelTimer handler s).TrackedOutgoing addr := outgoing
  have registryCancelled := registry.cancelTimer handler
  cases handler
  · exact cancelled.of_flags issuingFrom_tdlsAutoFastConnectTimeout.1
  · exact cancelled.of_flags issuingFrom_tdlsAutoSlowConnectTimeout.1
  · exact (tdlsAutoDataTeardownTimeout_rec
      (motive := fun t => RegistryInv t ∧ t.TrackedOutgoing addr) ⟨registryCancelled, cancelled⟩
      (fun _ other ⟨registry, outgoing⟩ =>
        ⟨registry.dataTeardownStep caps other, outgoing.dataTeardownStep registry caps other⟩)
      fun _ ⟨registry, outgoing⟩ => ⟨registry.setTimer _, outgoing.setTimer _⟩).2
  · exact (tdlsAutoRssiTeardownTimeout_rec
      (motive := fun t => RegistryInv t ∧ t.TrackedOutgoing addr) ⟨registryCancelled, cancelled⟩
      (fun _ other ⟨registry, outgoing⟩ =>
        ⟨registry.rssiTeardownStep caps other, outgoing.rssiTeardownStep registry caps other⟩)
      fun _ ⟨registry, outgoing⟩ => ⟨registry.setTimer _, outgoing.setTimer _⟩).2

/-- Every callback but a stop of the address and a removal of every peer keeps a tracked
outgoing peer tracked and outgoing. -/
theorem apply (outgoing : s.TrackedOutgoing addr) (registry : RegistryInv s)
    (caps : Capabilities) {event : Event} (kept : ¬ event.StopsPeer addr) :
    (event.apply caps s).TrackedOutgoing addr := by
  cases event with
  | modeStart other => exact outgoing.modeStart caps other
  | modeStop other => exact outgoing.modeStop registry caps kept
  | removePeers killActiveLinks => exact absurd trivial kept
  | peerConnected other => exact outgoing.peerConnected caps other
  | peerDisconnected other => exact outgoing.peerDisconnected registry _ other
  | discoveryResponse other rssi =>
    exact outgoing.of_flags (issuingFrom_tdlsAutoDiscoveryResponse other rssi).1
  | timeout handler => exact outgoing.fireTimeout registry caps handler

/-- The same over a whole run of such callbacks. -/
theorem runEvents : ∀ {t : State} {events : List (Capabilities × Event)},
    t.TrackedOutgoing addr → RegistryInv t → (∀ e ∈ events, ¬ e.2.StopsPeer addr) →
      (TdlsAutoMode.runEvents events t).TrackedOutgoing addr
  | _, [], outgoing, _, _ => outgoing
  | _, (caps, event) :: _, outgoing, registry, kept =>
    (outgoing.apply registry caps (kept _ (List.mem_cons_self _ _))).runEvents
      (registry.apply caps event) fun e member => kept e (List.mem_cons_of_mem _ member)

end State.TrackedOutgoing

/-- A start that returns 0 without finding an incoming peer leaves a tracked outgoing peer. -/
theorem tdlsAutoModeStart_trackedOutgoing {caps : Capabilities} {addr : MacAddr} {s : State}
    (started : (tdlsAutoModeStart caps addr s).1 = 0)
    (notIncoming : ∀ p ∈ s.peers, p.addr = addr → p.incomingPeer = false) :
    (tdlsAutoModeStart caps addr s).2.TrackedOutgoing addr := by
  cases found : tdlsAutoFindPeer s addr with
  | some peer =>
    obtain ⟨member, same⟩ := mem_of_tdlsAutoFindPeer found
    simpa [tdlsAutoModeStart, found] using ⟨peer, member, same, notIncoming peer member same⟩
  | none =>
    cases outcome : (tdlsAutoAddPeer caps addr s).2
    · rcases added : tdlsAutoAddPeer caps addr s with ⟨_, _ | _⟩
      · simp [tdlsAutoModeStart, found, added] at started
      · simp [added] at outcome
    · obtain ⟨_, result⟩ := tdlsAutoAddPeer_added outcome
      have linked : (tdlsAutoAddPeer caps addr s).1.TrackedOutgoing addr := by
        rw [result]
        split <;> exact ⟨.zalloc addr, List.mem_cons_self _ _, rfl, rfl⟩
      rcases added : tdlsAutoAddPeer caps addr s with ⟨_, _ | _⟩
      · simp [added] at outcome
      · simpa [tdlsAutoModeStart, found, added] using linked

end TdlsAutoMode
