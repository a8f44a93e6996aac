import TdlsAutoMode.ConnectCap

/-! # RSSI hysteresis

The RSSI-teardown pass counts, for each connected peer, the low readings in a row
(`low_rssi_vals`) and tears the link down when the count passes `rssi_teardown_count`.
The spec's streak of low readings is kept beside the state as ghost data
(`StreakReachable`): a peer that becomes connected starts a new streak, a reading at or
above the threshold ends it, and a teardown for the RSSI starts it again.

While `rssi_teardown_count` stays below `UINT_MAX`, every connected peer's `low_rssi_vals`
is its streak and never passes the count (`Hysteresis`), in every run. The pass then issues
`disconnect(a)` exactly when `a` is connected, reads low and its streak with this reading
passes the count (`tdlsAutoRssiTeardownTimeout_hysteresis`). Every reachable state has the
streaks of a run that reached it, so the law holds in each of them
(`reachable_rssiTeardown_hysteresis`). At `UINT_MAX` the increment wraps `low_rssi_vals` to 0
and the teardown that the streak calls for is never issued (`rssiTeardown_silent_at_uint_max`).
-/

namespace TdlsAutoMode

/-- One visit of the RSSI-teardown pass, as the spec counts low readings: a reading at or
above the threshold ends the streak, a low one extends it, and a streak that passes
`rssi_teardown_count` is torn down and starts again. Peers that are not connected are not
read. -/
def streakVisit (caps : Capabilities) (s : State) (streak : MacAddr → Nat) (addr : MacAddr) :
    MacAddr → Nat :=
  match tdlsAutoFindPeer s addr with
  | none => streak
  | some peer =>
    if !peer.connected then streak
    else if caps.getRssi addr ≥ s.extn.tdlsAutoRssiTeardownThreshold then
      Function.update streak addr 0
    else if s.extn.tdlsAutoRssiTeardownCount.toNat < streak addr + 1 then
      Function.update streak addr 0
    else Function.update streak addr (streak addr + 1)

/-- One iteration of the RSSI-teardown pass with the streaks alongside. -/
def rssiPassVisit (caps : Capabilities) (acc : State × (MacAddr → Nat)) (addr : MacAddr) :
    State × (MacAddr → Nat) :=
  (tdlsAutoRssiTeardownStep caps acc.1 addr, streakVisit caps acc.1 acc.2 addr)

/-- How a callback changes the streaks: a peer that becomes connected starts a new one,
and the RSSI-teardown pass counts each reading it takes. -/
def Event.streak (caps : Capabilities) : Event → State → (MacAddr → Nat) → MacAddr → Nat
  | .peerConnected addr, s, streak =>
    if (tdlsAutoFindPeer s addr).any (·.connected) then streak else Function.update streak addr 0
  | .timeout .rssiTeardown, s, streak =>
    ((tdlsAutoCancelTimer .rssiTeardown s).addrs.foldl (rssiPassVisit caps)
      (tdlsAutoCancelTimer .rssiTeardown s, streak)).2
  | _, _, streak => streak

/-- The states of a live controller, each with the streaks of the run that reached it. -/
inductive StreakReachable : State → (MacAddr → Nat) → Prop
  | init (extn : WpasTdlsAutoCtx) : StreakReachable (tdlsAutoInit extn) fun _ => 0
  | step {s : State} {streak : MacAddr → Nat} (caps : Capabilities) (event : Event) :
      StreakReachable s streak → event.Enabled s →
        StreakReachable (event.apply caps s) (event.streak caps s streak)

theorem StreakReachable.reachable {s : State} {streak : MacAddr → Nat}
    (reachable : StreakReachable s streak) : Reachable s := by
  induction reachable with
  | init extn => exact .init extn
  | step caps event _ enabled holds => exact .step caps event holds enabled

/-- Every run has its streaks. -/
theorem Reachable.streakReachable {s : State} (reachable : Reachable s) :
    ∃ streak, StreakReachable s streak := by
  induction reachable with
  | init extn => exact ⟨_, .init extn⟩
  | step caps event _ enabled holds =>
    obtain ⟨streak, holds⟩ := holds
    exact ⟨_, .step caps event holds enabled⟩

/-- The pass with the streaks runs the pass. -/
theorem foldl_rssiPassVisit_fst (caps : Capabilities) :
    ∀ (addrs : List MacAddr) (acc : State × (MacAddr → Nat)),
      (addrs.foldl (rssiPassVisit caps) acc).1 = addrs.foldl (tdlsAutoRssiTeardownStep caps) acc.1
  | [], _ => rfl
  | addr :: rest, acc => foldl_rssiPassVisit_fst caps rest (rssiPassVisit caps acc addr)

/-- The fields of a peer that the count of low readings depends on. -/
def TdlsAutoPeer.rssiView (p : TdlsAutoPeer) : MacAddr × Bool × UInt32 :=
  (p.addr, p.connected, p.lowRssiVals)

/-- What `low_rssi_vals` says of a peer's streak: nothing is counted while the peer is not
connected; while it is, the count is the streak, which never passes `count`. -/
def LowRssiCounts (count : Nat) (streak : MacAddr → Nat) (p : TdlsAutoPeer) : Prop :=
  (p.connected = false → p.lowRssiVals = 0) ∧
    (p.connected = true → p.lowRssiVals.toNat = streak p.addr ∧ streak p.addr ≤ count)

/-- Every tracked peer counts its streak. -/
def Hysteresis (s : State) (streak : MacAddr → Nat) : Prop :=
  s.AllPeers (LowRssiCounts s.extn.tdlsAutoRssiTeardownCount.toNat streak)

/-- Every tracked peer counts its streak, except perhaps those with the address. -/
def HysteresisExcept (addr : MacAddr) (s : State) (streak : MacAddr → Nat) : Prop :=
  s.AllPeersExcept addr (LowRssiCounts s.extn.tdlsAutoRssiTeardownCount.toNat streak)

theorem LowRssiCounts.of_rssiView {count : Nat} {streak : MacAddr → Nat} {p q : TdlsAutoPeer}
    (counts : LowRssiCounts count streak p) (same : q.rssiView = p.rssiView) :
    LowRssiCounts count streak q := by
  simp only [TdlsAutoPeer.rssiView, Prod.mk.injEq] at same
  obtain ⟨addr, connected, low⟩ := same
  unfold LowRssiCounts
  rw [addr, connected, low]
  exact counts

/-- A peer that is not connected counts nothing, whatever the streaks. -/
theorem LowRssiCounts.of_idle {count : Nat} {streak : MacAddr → Nat} {p : TdlsAutoPeer}
    (idle : p.connected = false) (cleared : p.lowRssiVals = 0) : LowRssiCounts count streak p :=
  ⟨fun _ => cleared, fun active => absurd (idle.symm.trans active) (by decide)⟩

/-- A cleared count with a cleared streak. -/
theorem LowRssiCounts.of_cleared {count : Nat} {streak : MacAddr → Nat} {p : TdlsAutoPeer}
    (cleared : p.lowRssiVals = 0) (restarted : streak p.addr = 0) :
    LowRssiCounts count streak p :=
  ⟨fun _ => cleared, fun _ => ⟨by rw [cleared, restarted]; rfl, by omega⟩⟩

theorem LowRssiCounts.update_other {count : Nat} {streak : MacAddr → Nat} {p : TdlsAutoPeer}
    {addr : MacAddr} {n : Nat} (counts : LowRssiCounts count streak p) (other : p.addr ≠ addr) :
    LowRssiCounts count (Function.update streak addr n) p := by
  unfold LowRssiCounts
  rw [Function.update_noteq other]
  exact counts

section except

variable {addr : MacAddr} {s t : State} {streak : MacAddr → Nat}
  {f : TdlsAutoPeer → TdlsAutoPeer}

/-- The invariant reads the count from the configuration, which no operation changes. -/
theorem Hysteresis.of_extn
    (holds : t.AllPeers (LowRssiCounts s.extn.tdlsAutoRssiTeardownCount.toNat streak))
    (extn : t.extn = s.extn) : Hysteresis t streak := by
  rw [Hysteresis, extn]
  exact holds

theorem HysteresisExcept.of_extn
    (holds : t.AllPeersExcept addr (LowRssiCounts s.extn.tdlsAutoRssiTeardownCount.toNat streak))
    (extn : t.extn = s.extn) : HysteresisExcept addr t streak := by
  rw [HysteresisExcept, extn]
  exact holds

/-- A new value for the streak of an address leaves the other peers counting theirs. -/
theorem Hysteresis.update (inv : Hysteresis s streak) (addr : MacAddr) (n : Nat) :
    HysteresisExcept addr s (Function.update streak addr n) :=
  fun p member other => (inv p member).update_other other

/-- A write to the address keeps every other peer. -/
theorem HysteresisExcept.writePeer (except : HysteresisExcept addr s streak)
    (keeps : ∀ p, (f p).addr = p.addr) : HysteresisExcept addr (s.writePeer addr f) streak :=
  .of_extn (State.AllPeersExcept.writePeer except keeps) State.writePeer_extn

/-- A write that leaves each peer with the address counting its streak restores the
invariant. -/
theorem HysteresisExcept.writePeer_setting (except : HysteresisExcept addr s streak)
    (sets : ∀ p, p.addr = addr →
      LowRssiCounts s.extn.tdlsAutoRssiTeardownCount.toNat streak (f p)) :
    Hysteresis (s.writePeer addr f) streak :=
  .of_extn (State.AllPeersExcept.writePeer_setting except sets) State.writePeer_extn

/-- A write to the one peer with the address restores the invariant when the written peer
counts its streak. -/
theorem HysteresisExcept.writePeer_of_found (except : HysteresisExcept addr s streak)
    (nodup : s.addrs.Nodup) {peer : TdlsAutoPeer} (found : tdlsAutoFindPeer s addr = some peer)
    (counts : LowRssiCounts s.extn.tdlsAutoRssiTeardownCount.toNat streak (f peer)) :
    Hysteresis (s.writePeer addr f) streak :=
  .of_extn (State.AllPeersExcept.writePeer_of_found except nodup found counts)
    State.writePeer_extn

/-- Freeing the peer with the address leaves only peers with other addresses. -/
theorem HysteresisExcept.stopFree (except : HysteresisExcept addr s streak)
    (nodup : s.addrs.Nodup) : Hysteresis (tdlsAutoModeStopFree addr s) streak :=
  .of_extn (State.AllPeersExcept.stopFree except nodup) (tdlsAutoModeStopFree_extn _ _)

/-- The disconnected callback touches only the peer with its address. -/
theorem HysteresisExcept.peerDisconnected (except : HysteresisExcept addr s streak)
    (disconnect : MacAddr → State → State) :
    HysteresisExcept addr (tdlsAutoPeerDisconnected disconnect addr s) streak := by
  cases found : tdlsAutoFindPeer s addr with
  | none => simpa [tdlsAutoPeerDisconnected, found] using except
  | some peer =>
    rw [tdlsAutoPeerDisconnected_of_found found]
    have idle := except.writePeer (f := fun p => { p with connected := false }) fun _ => rfl
    show HysteresisExcept addr (if peer.incomingPeer then _ else _) streak
    split
    · exact .of_extn (State.AllPeersExcept.of_sublist idle
        (by rw [tdlsAutoModeStopFree_peers]; exact List.eraseP_sublist _)) (by simp)
    · exact idle.writePeer (f := fun p => { p with lowRssiVals := 0, fastAttempts := 0 })
        fun _ => rfl

theorem HysteresisExcept.disconnect (except : HysteresisExcept addr s streak)
    (caps : Capabilities) : HysteresisExcept addr (caps.disconnect addr s) streak := by
  unfold Capabilities.disconnect
  split
  · exact HysteresisExcept.peerDisconnected (s := logDisconnect addr s) except _
  · exact except

end except

namespace Hysteresis

variable {s t : State} {streak : MacAddr → Nat}

/-- A write that keeps the connected flag and the count of every peer. -/
theorem writePeer (inv : Hysteresis s streak) (addr : MacAddr) {f : TdlsAutoPeer → TdlsAutoPeer}
    (keeps : ∀ p, (f p).rssiView = p.rssiView) : Hysteresis (s.writePeer addr f) streak :=
  .of_extn (State.AllPeers.writePeer inv addr fun p counts => counts.of_rssiView (keeps p))
    State.writePeer_extn

theorem stopFree (inv : Hysteresis s streak) (addr : MacAddr) :
    Hysteresis (tdlsAutoModeStopFree addr s) streak :=
  .of_extn (State.AllPeers.stopFree inv addr) (tdlsAutoModeStopFree_extn _ _)

theorem addPeer (inv : Hysteresis s streak) (caps : Capabilities) (addr : MacAddr) :
    Hysteresis (tdlsAutoAddPeer caps addr s).1 streak :=
  .of_extn (State.AllPeers.addPeer inv caps addr (.of_idle rfl rfl)) tdlsAutoAddPeer_extn

theorem peerDisconnected (inv : Hysteresis s streak) (registry : RegistryInv s)
    (disconnect : MacAddr → State → State) (addr : MacAddr) :
    Hysteresis (tdlsAutoPeerDisconnected disconnect addr s) streak := by
  cases found : tdlsAutoFindPeer s addr with
  | none => simpa [tdlsAutoPeerDisconnected, found] using inv
  | some peer =>
    rw [tdlsAutoPeerDisconnected_of_found found]
    have idle := HysteresisExcept.writePeer (inv.except addr)
      (f := fun p => { p with connected := false }) fun _ => rfl
    have written := registry.writePeer addr (fun p => { p with connected := false }) fun _ => rfl
    have found' := tdlsAutoFindPeer_writePeer_of_found
      (f := fun p => { p with connected := false }) (fun _ => rfl) found
    dsimp only
    refine State.AllPeers.setConnPeerCount ?_ _
    split
    · exact idle.stopFree written.addrs_nodup
    · exact (idle.writePeer_of_found written.addrs_nodup found'
        (f := fun p => { p with lowRssiVals := 0, fastAttempts := 0 })
        (.of_idle rfl rfl)).setTimer _

theorem disconnect (inv : Hysteresis s streak) (registry : RegistryInv s) (caps : Capabilities)
    (addr : MacAddr) : Hysteresis (caps.disconnect addr s) streak := by
  unfold Capabilities.disconnect
  split
  · exact peerDisconnected (inv.logCall _) (registry.logCall _) _ _
  · exact inv.logCall _

theorem modeStop (inv : Hysteresis s streak) (registry : RegistryInv s) (caps : Capabilities)
    (addr : MacAddr) : Hysteresis (tdlsAutoModeStop caps.disconnect addr s) streak := by
  unfold tdlsAutoModeStop
  split
  · exact inv
  · split
    · exact ((inv.writePeer addr (f := fun p => { p with incomingPeer := false }) fun _ => rfl
        ).disconnect (registry.writePeer _ _ fun _ => rfl) caps addr).stopFree addr
    · exact inv.stopFree addr

theorem modeStart (inv : Hysteresis s streak) (caps : Capabilities) (addr : MacAddr) :
    Hysteresis (tdlsAutoModeStart caps addr s).2 streak := by
  obtain same | same := tdlsAutoModeStart_cases caps addr s <;> rw [same]
  · exact inv
  · exact inv.addPeer caps addr

theorem removePeersStep (inv : Hysteresis s streak) (registry : RegistryInv s)
    (caps : Capabilities) (killActiveLinks : Bool) (addr : MacAddr) :
    Hysteresis (tdlsAutoRemovePeersStep caps killActiveLinks s addr) streak := by
  cases killActiveLinks
  · rw [tdlsAutoRemovePeersStep_idle]
    have idle := HysteresisExcept.writePeer (inv.except addr)
      (f := fun p => { p with connected := false }) fun _ => rfl
    split
    · exact idle.stopFree
        (registry.writePeer addr (fun p => { p with connected := false }) fun _ => rfl).addrs_nodup
    · rw [State.writePeer_of_not_tracked ‹_›]
      exact inv
  · exact inv.modeStop registry caps addr

theorem removePeers (inv : Hysteresis s streak) (registry : RegistryInv s) (caps : Capabilities)
    (killActiveLinks : Bool) : Hysteresis (tdlsAutoRemovePeers caps killActiveLinks s) streak :=
  (List.foldlRecOn (motive := fun t => RegistryInv t ∧ Hysteresis t streak) s.addrs _ s
    ⟨registry, inv⟩ fun _ ⟨registry, inv⟩ addr _ =>
      ⟨registry.removePeersStep caps killActiveLinks addr,
        inv.removePeersStep registry caps killActiveLinks addr⟩).2

/-- A new streak for an address whose peers are not connected. -/
theorem restart (inv : Hysteresis s streak) (addr : MacAddr)
    (idle : ∀ p ∈ s.peers, p.addr = addr → p.connected = false) :
    Hysteresis s (Function.update streak addr 0) := fun p member => by
  by_cases same : p.addr = addr
  · have off := idle p member same
    exact .of_idle off ((inv p member).1 off)
  · exact (inv p member).update_other same

/-- Marking a peer connected keeps it counting when it was connected already or its streak
has just started. -/
theorem connect_ready (inv : Hysteresis s streak) {addr : MacAddr} {peer : TdlsAutoPeer}
    (found : tdlsAutoFindPeer s addr = some peer)
    (fresh : peer.connected = true ∨ streak addr = 0) :
    LowRssiCounts s.extn.tdlsAutoRssiTeardownCount.toNat streak
      { peer with connected := true } := by
  obtain ⟨member, rfl⟩ := mem_of_tdlsAutoFindPeer found
  have counts := inv peer member
  rcases fresh with active | restarted
  · exact counts.of_rssiView (by simp [TdlsAutoPeer.rssiView, active])
  · cases active : peer.connected
    · exact .of_cleared (counts.1 active) restarted
    · exact counts.of_rssiView (by simp [TdlsAutoPeer.rssiView, active])

theorem peerConnectedFound {addr : MacAddr} (except : HysteresisExcept addr s streak)
    (nodup : s.addrs.Nodup) (caps : Capabilities)
    (ready : ∀ peer, tdlsAutoFindPeer s addr = some peer →
      LowRssiCounts s.extn.tdlsAutoRssiTeardownCount.toNat streak { peer with connected := true }) :
    Hysteresis (tdlsAutoPeerConnectedFound caps addr s) streak := by
  have marked : Hysteresis (s.writePeer addr fun p => { p with connected := true }) streak := by
    cases found : tdlsAutoFindPeer s addr with
    | none =>
      rw [State.writePeer_of_not_tracked (tdlsAutoFindPeer_eq_none_iff.1 found)]
      exact fun p member => except p member fun same =>
        tdlsAutoFindPeer_eq_none_iff.1 found (same ▸ List.mem_map_of_mem _ member)
    | some peer => exact except.writePeer_of_found nodup found (ready peer found)
  have sampled := marked.writePeer addr (f := tdlsAutoGetPeerDataRate caps) fun p => by
    simp [TdlsAutoPeer.rssiView]
  unfold tdlsAutoPeerConnectedFound
  dsimp only
  split
  · exact (sampled.setTimer _).setTimer _
  · exact sampled.setTimer _

theorem peerConnected (inv : Hysteresis s streak) (registry : RegistryInv s)
    (caps : Capabilities) (addr : MacAddr) :
    Hysteresis (tdlsAutoPeerConnected caps addr s)
      ((Event.peerConnected addr).streak caps s streak) := by
  have counted := registry.setConnPeerCount (s.connPeerCount + 1)
  obtain ⟨tracked, same⟩ | ⟨untracked, -, same⟩ | ⟨untracked, -, same⟩ :=
    tdlsAutoPeerConnected_cases caps addr s <;> rw [same] <;> simp only [Event.streak]
  · obtain ⟨peer, found⟩ : ∃ peer, tdlsAutoFindPeer s addr = some peer :=
      Option.ne_none_iff_exists'.1 fun missing => tdlsAutoFindPeer_eq_none_iff.1 missing tracked
    have only : ∀ p ∈ s.peers, p.addr = addr → p = peer := fun p member same =>
      eq_of_tdlsAutoFindPeer registry.addrs_nodup found member same
    rw [found, Option.any_some]
    cases active : peer.connected
    · have restarted := (inv.restart _ fun p member same => by
        rw [only p member same, active]).setConnPeerCount (s.connPeerCount + 1)
      simp only [Bool.false_eq_true, if_false]
      exact peerConnectedFound (restarted.except _) counted.addrs_nodup caps fun _ found' =>
        connect_ready restarted found' (.inr (Function.update_same _ _ _))
    · have kept := inv.setConnPeerCount (s.connPeerCount + 1)
      simp only [if_true]
      exact peerConnectedFound (kept.except _) counted.addrs_nodup caps fun peer' found' => by
        refine connect_ready kept found' (.inl ?_)
        obtain ⟨member, same⟩ := mem_of_tdlsAutoFindPeer found'
        rw [only peer' member same, active]
  · have restarted := (inv.restart addr fun p member same =>
      absurd (same ▸ List.mem_map_of_mem _ member) untracked).setConnPeerCount
        (s.connPeerCount + 1)
    have linked := (addPeer restarted caps addr).writePeer addr
      (f := fun p => { p with incomingPeer := true }) fun _ => rfl
    have nodup := ((counted.addPeer caps untracked).writePeer addr
      (fun p => { p with incomingPeer := true }) fun _ => rfl).addrs_nodup
    rw [tdlsAutoFindPeer_eq_none_iff.2 untracked]
    exact peerConnectedFound (linked.except _) nodup caps fun _ found' =>
      linked.connect_ready found' (.inr (Function.update_same _ _ _))
  · rw [tdlsAutoFindPeer_eq_none_iff.2 untracked]
    have restarted : Hysteresis (s.setConnPeerCount (s.connPeerCount + 1))
        (Function.update streak addr 0) := inv.restart addr fun p member same =>
      absurd (same ▸ List.mem_map_of_mem _ member) untracked
    exact restarted.addPeer caps addr

theorem discoveryResponse (inv : Hysteresis s streak) (caps : Capabilities) (addr : MacAddr)
    (rssi : Int) : Hysteresis (tdlsAutoDiscoveryResponse caps addr rssi s) streak := by
  have recorded := inv.writePeer addr (f := fun p => { p with rssi := rssi }) fun _ => rfl
  have sampled := recorded.writePeer addr (f := tdlsAutoGetPeerDataRate caps) fun p => by
    simp [TdlsAutoPeer.rssiView]
  obtain same | same | same | ⟨-, -, same⟩ :=
    tdlsAutoDiscoveryResponse_cases caps addr rssi s <;> rw [same]
  · exact inv
  · exact recorded
  · exact sampled
  · exact sampled.logCall _

theorem fastConnectTimeout (inv : Hysteresis s streak) (caps : Capabilities) :
    Hysteresis (tdlsAutoFastConnectTimeout caps s) streak :=
  tdlsAutoFastConnectTimeout_rec (motive := fun t => Hysteresis t streak) inv
    (fun acc addr inv => by
      have written := inv.writePeer addr (f := fun p =>
        tdlsAutoGetPeerDataRate caps { p with fastAttempts := p.fastAttempts + 1 }) fun p => by
          simp [TdlsAutoPeer.rssiView]
      obtain same | ⟨-, same | same⟩ := tdlsAutoFastConnectStep_cases caps acc addr <;>
        rw [same]
      · exact inv
      · exact written
      · exact written.logCall _)
    fun _ inv => inv.setTimer _

theorem slowConnectTimeout (inv : Hysteresis s streak) (caps : Capabilities) :
    Hysteresis (tdlsAutoSlowConnectTimeout caps s) streak :=
  tdlsAutoSlowConnectTimeout_rec (motive := fun t => Hysteresis t streak) inv
    (fun t addr inv => by
      have written := inv.writePeer addr (f := tdlsAutoGetPeerDataRate caps) fun p => by
        simp [TdlsAutoPeer.rssiView]
      obtain same | same | ⟨-, same⟩ := tdlsAutoSlowConnectStep_cases caps t addr <;> rw [same]
      · exact inv
      · exact written
      · exact written.logCall _)
    fun _ inv => inv.setTimer _

theorem dataTeardownTimeout (inv : Hysteresis s streak) (registry : RegistryInv s)
    (caps : Capabilities) : Hysteresis (tdlsAutoDataTeardownTimeout caps s) streak :=
  (tdlsAutoDataTeardownTimeout_rec (motive := fun t => RegistryInv t ∧ Hysteresis t streak)
    ⟨registry, inv⟩ (fun t addr ⟨registry, inv⟩ => by
      have written := inv.writePeer addr (f := tdlsAutoGetPeerDataRate caps) fun p => by
        simp [TdlsAutoPeer.rssiView]
      refine ⟨registry.dataTeardownStep caps addr, ?_⟩
      obtain same | same | ⟨-, same⟩ := tdlsAutoDataTeardownStep_cases caps t addr <;> rw [same]
      · exact inv
      · exact written
      · exact written.disconnect (registry.writePeer addr _ (by simp)) caps addr)
    fun _ ⟨registry, inv⟩ => ⟨registry.setTimer _, inv.setTimer _⟩).2

end Hysteresis

theorem Hysteresis.rssiTeardownStep {t : State} {streak : MacAddr → Nat}
    (inv : Hysteresis t streak) (registry : RegistryInv t)
    (few : t.extn.tdlsAutoRssiTeardownCount.toNat < 2 ^ 32 - 1) (caps : Capabilities)
    (addr : MacAddr) :
    Hysteresis (tdlsAutoRssiTeardownStep caps t addr) (streakVisit caps t streak addr) := by
  unfold tdlsAutoRssiTeardownStep streakVisit
  cases found : tdlsAutoFindPeer t addr with
  | none => exact inv
  | some peer =>
    obtain ⟨member, at_addr⟩ := mem_of_tdlsAutoFindPeer found
    cases active : peer.connected
    · simpa [active] using inv
    · obtain ⟨low, bounded⟩ := (inv peer member).2 active
      simp only [active, Bool.not_true, Bool.false_eq_true, if_false, tdlsAutoGetConnectedStaRssi,
        State.writePeer_extn, at_addr]
      have nodup := registry.addrs_nodup
      have read := tdlsAutoFindPeer_writePeer_of_found
        (f := tdlsAutoGetConnectedStaRssi caps) (fun _ => rfl) found
      have fits : peer.lowRssiVals.toNat + 1 < 2 ^ 32 := by omega
      have next : (peer.lowRssiVals + 1).toNat = streak addr + 1 := by
        rw [uint32_toNat_add_one, Nat.mod_eq_of_lt fits, low, at_addr]
      have clears : ∀ {u : State} {g : MacAddr → Nat}, g addr = 0 →
          HysteresisExcept addr u g →
          Hysteresis (u.writePeer addr fun p => { p with lowRssiVals := 0 }) g :=
        fun restarted except => except.writePeer_setting fun p same =>
          .of_cleared rfl (by simpa [same] using restarted)
      split_ifs with good teardown teardown'
      · exact clears (Function.update_same _ _ _) ((inv.update addr 0).writePeer
          (f := tdlsAutoGetConnectedStaRssi caps) fun _ => rfl)
      · rw [uint32_le_iff_toNat_le, next] at teardown
        omega
      · refine ((inv.update addr (streak addr + 1)).writePeer
          (f := tdlsAutoGetConnectedStaRssi caps) fun _ => rfl).writePeer_of_found
          (f := fun p => { p with lowRssiVals := p.lowRssiVals + 1 })
          (by rwa [State.addrs_writePeer (f := tdlsAutoGetConnectedStaRssi caps) fun _ => rfl])
          read ⟨fun idle => ?_, fun _ => ?_⟩
        · simp [tdlsAutoGetConnectedStaRssi, active] at idle
        · simp only [tdlsAutoGetConnectedStaRssi, at_addr, Function.update_same, next,
            State.writePeer_extn, true_and]
          rw [at_addr, Function.update_same]
          omega
      · exact clears (Function.update_same _ _ _)
          ((((inv.update addr 0).writePeer (f := tdlsAutoGetConnectedStaRssi caps)
            fun _ => rfl).writePeer (f := fun p => { p with lowRssiVals := p.lowRssiVals + 1 })
            fun _ => rfl).disconnect caps)
      · rw [uint32_le_iff_toNat_le, next] at teardown
        omega

@[simp] theorem tdlsAutoRssiTeardownStep_extn (caps : Capabilities) (t : State) (addr : MacAddr) :
    (tdlsAutoRssiTeardownStep caps t addr).extn = t.extn := by
  obtain same | same | same | ⟨-, same⟩ := tdlsAutoRssiTeardownStep_cases caps t addr <;>
    simp [same]

/-- The RSSI-teardown pass with the streaks alongside keeps the invariant. -/
theorem Hysteresis.rssiTeardownPass {s : State} {streak : MacAddr → Nat}
    (inv : Hysteresis s streak) (registry : RegistryInv s)
    (few : s.extn.tdlsAutoRssiTeardownCount.toNat < 2 ^ 32 - 1) (caps : Capabilities) :
    RegistryInv (s.addrs.foldl (rssiPassVisit caps) (s, streak)).1 ∧
      Hysteresis (s.addrs.foldl (rssiPassVisit caps) (s, streak)).1
        (s.addrs.foldl (rssiPassVisit caps) (s, streak)).2 :=
  (List.foldlRecOn (motive := fun acc => RegistryInv acc.1 ∧ Hysteresis acc.1 acc.2 ∧
      acc.1.extn = s.extn) s.addrs _ (s, streak) ⟨registry, inv, rfl⟩
    fun acc ⟨registry, inv, extn⟩ addr _ =>
      ⟨registry.rssiTeardownStep caps addr,
        inv.rssiTeardownStep registry (extn ▸ few) caps addr,
        (tdlsAutoRssiTeardownStep_extn caps acc.1 addr).trans extn⟩) |>.imp id And.left

theorem Hysteresis.fireTimeout {s : State} {streak : MacAddr → Nat} (inv : Hysteresis s streak)
    (registry : RegistryInv s) (few : s.extn.tdlsAutoRssiTeardownCount.toNat < 2 ^ 32 - 1)
    (caps : Capabilities) (handler : Handler) :
    Hysteresis (fireTimeout caps handler s) ((Event.timeout handler).streak caps s streak) := by
  have cancelled : Hysteresis (tdlsAutoCancelTimer handler s) streak := inv
  have registryCancelled := registry.cancelTimer handler
  cases handler
  · exact cancelled.fastConnectTimeout caps
  · exact cancelled.slowConnectTimeout caps
  · exact cancelled.dataTeardownTimeout registryCancelled caps
  · obtain ⟨-, pass⟩ := cancelled.rssiTeardownPass registryCancelled few caps
    rw [foldl_rssiPassVisit_fst] at pass
    show Hysteresis (tdlsAutoRssiTeardownTimeout caps _) _
    unfold tdlsAutoRssiTeardownTimeout
    dsimp only
    split
    · exact pass
    · exact pass.setTimer _

theorem Hysteresis.apply {s : State} {streak : MacAddr → Nat} (inv : Hysteresis s streak)
    (registry : RegistryInv s) (few : s.extn.tdlsAutoRssiTeardownCount.toNat < 2 ^ 32 - 1)
    (caps : Capabilities) (event : Event) :
    Hysteresis (event.apply caps s) (event.streak caps s streak) := by
  cases event with
  | modeStart addr => exact inv.modeStart caps addr
  | modeStop addr => exact inv.modeStop registry caps addr
  | removePeers killActiveLinks => exact inv.removePeers registry caps killActiveLinks
  | peerConnected addr => exact inv.peerConnected registry caps addr
  | peerDisconnected addr => exact inv.peerDisconnected registry _ addr
  | discoveryResponse addr rssi => exact inv.discoveryResponse caps addr rssi
  | timeout handler => exact inv.fireTimeout registry few caps handler

/-- Below `UINT_MAX`, every peer of every run counts its streak. -/
theorem StreakReachable.hysteresis {s : State} {streak : MacAddr → Nat}
    (reachable : StreakReachable s streak)
    (few : s.extn.tdlsAutoRssiTeardownCount.toNat < 2 ^ 32 - 1) :
    RegistryInv s ∧ Hysteresis s streak := by
  induction reachable with
  | init extn => exact ⟨RegistryInv.invariant.init extn, fun p member => by cases member⟩
  | step caps event _ _ holds =>
    rw [Event.extn_apply] at few
    obtain ⟨registry, inv⟩ := holds few
    exact ⟨registry.apply caps event, inv.apply registry few caps event⟩

section visit

variable {b : MacAddr} {t : State}

/-- Unlinking the first peer with an address leaves the peers with other addresses. -/
theorem filter_ne_eraseP_addr : ∀ peers : List TdlsAutoPeer,
    (peers.eraseP (·.addr = b)).filter (·.addr ≠ b) = peers.filter (·.addr ≠ b)
  | [] => rfl
  | p :: rest => by
    by_cases same : p.addr = b
    · rw [List.eraseP_cons_of_pos (by simpa using same),
        List.filter_cons_of_neg (by simpa using same)]
    · rw [List.eraseP_cons_of_neg (by simpa using same),
        List.filter_cons_of_pos (by simpa using same),
        List.filter_cons_of_pos (by simpa using same),
        filter_ne_eraseP_addr rest]

theorem filter_ne_tdlsAutoModeStopFree :
    (tdlsAutoModeStopFree b t).peers.filter (·.addr ≠ b) = t.peers.filter (·.addr ≠ b) := by
  rw [tdlsAutoModeStopFree_peers, filter_ne_eraseP_addr]

theorem filter_ne_tdlsAutoPeerDisconnected (disconnect : MacAddr → State → State) :
    (tdlsAutoPeerDisconnected disconnect b t).peers.filter (·.addr ≠ b) =
      t.peers.filter (·.addr ≠ b) := by
  cases found : tdlsAutoFindPeer t b with
  | none => simp [tdlsAutoPeerDisconnected, found]
  | some peer =>
    rw [tdlsAutoPeerDisconnected_of_found found]
    dsimp only
    split
    · rw [State.setConnPeerCount_peers, filter_ne_tdlsAutoModeStopFree, State.filter_writePeer]
      intro; rfl
    · rw [State.setConnPeerCount_peers, tdlsAutoSetTimer_peers, State.filter_writePeer,
        State.filter_writePeer] <;> intro <;> rfl

theorem Capabilities.filter_ne_disconnect (caps : Capabilities) :
    (caps.disconnect b t).peers.filter (·.addr ≠ b) = t.peers.filter (·.addr ≠ b) := by
  unfold Capabilities.disconnect
  split
  · exact filter_ne_tdlsAutoPeerDisconnected (t := logDisconnect b t) _
  · rfl

/-- A visit of the RSSI-teardown pass touches only the peer it visits. -/
theorem filter_ne_tdlsAutoRssiTeardownStep (caps : Capabilities) :
    (tdlsAutoRssiTeardownStep caps t b).peers.filter (·.addr ≠ b) =
      t.peers.filter (·.addr ≠ b) := by
  obtain same | same | same | ⟨-, same⟩ := tdlsAutoRssiTeardownStep_cases caps t b <;> rw [same]
  · rw [State.filter_writePeer, State.filter_writePeer] <;> intro <;> rfl
  · rw [State.filter_writePeer, State.filter_writePeer] <;> intro <;> rfl
  · rw [State.filter_writePeer, Capabilities.filter_ne_disconnect, State.filter_writePeer,
      State.filter_writePeer] <;> intro <;> rfl

/-- A re-entered disconnected callback issues no `disconnect`. -/
theorem count_disconnect_tdlsAutoPeerDisconnected (disconnect : MacAddr → State → State)
    (a : MacAddr) :
    (tdlsAutoPeerDisconnected disconnect b t).calls.count (.disconnect a) =
      t.calls.count (.disconnect a) := by
  cases found : tdlsAutoFindPeer t b with
  | none => simp [tdlsAutoPeerDisconnected, found]
  | some peer =>
    rw [tdlsAutoPeerDisconnected_of_found found]
    dsimp only
    split <;> simp

/-- `disconnect(b)` is issued once, whether or not it re-enters. -/
theorem Capabilities.count_disconnect_disconnect (caps : Capabilities) (a : MacAddr) :
    (caps.disconnect b t).calls.count (.disconnect a) =
      t.calls.count (.disconnect a) + if b = a then 1 else 0 := by
  have issued : (logDisconnect b t).calls.count (.disconnect a) =
      t.calls.count (.disconnect a) + if b = a then 1 else 0 := by
    by_cases same : b = a <;> simp [logDisconnect, List.count_cons, same]
  unfold Capabilities.disconnect
  split
  · rw [count_disconnect_tdlsAutoPeerDisconnected, issued]
  · exact issued

end visit

section teardown

variable {caps : Capabilities} {t : State} {streak : MacAddr → Nat}

/-- A visit of the RSSI-teardown pass issues `disconnect` to the visited address exactly
when its peer is connected, the reading is low, and the streak with this reading passes
`rssi_teardown_count`. -/
theorem Hysteresis.count_disconnect_rssiTeardownStep (inv : Hysteresis t streak)
    (registry : RegistryInv t) (few : t.extn.tdlsAutoRssiTeardownCount.toNat < 2 ^ 32 - 1)
    (a b : MacAddr) :
    (tdlsAutoRssiTeardownStep caps t b).calls.count (.disconnect a) =
      t.calls.count (.disconnect a) +
        if b = a ∧ ∃ p ∈ t.peers, p.addr = b ∧ p.connected = true ∧
            caps.getRssi b < t.extn.tdlsAutoRssiTeardownThreshold ∧
            t.extn.tdlsAutoRssiTeardownCount.toNat < streak b + 1 then 1 else 0 := by
  unfold tdlsAutoRssiTeardownStep
  cases found : tdlsAutoFindPeer t b with
  | none =>
    have untracked := tdlsAutoFindPeer_eq_none_iff.1 found
    have absent : ¬ ∃ p ∈ t.peers, p.addr = b ∧ p.connected = true ∧
        caps.getRssi b < t.extn.tdlsAutoRssiTeardownThreshold ∧
        t.extn.tdlsAutoRssiTeardownCount.toNat < streak b + 1 :=
      fun ⟨p, member, same, _⟩ => untracked (same ▸ List.mem_map_of_mem _ member)
    simp [absent]
  | some peer =>
    obtain ⟨member, at_addr⟩ := mem_of_tdlsAutoFindPeer found
    have only : ∀ {Q : TdlsAutoPeer → Prop},
        (∃ p ∈ t.peers, p.addr = b ∧ Q p) ↔ Q peer :=
      ⟨fun ⟨p, member', same, holds⟩ =>
        eq_of_tdlsAutoFindPeer registry.addrs_nodup found member' same ▸ holds,
        fun holds => ⟨peer, member, at_addr, holds⟩⟩
    simp only [only]
    cases active : peer.connected
    · simp
    · obtain ⟨low, bounded⟩ := (inv peer member).2 active
      rw [at_addr] at low bounded
      have next : (peer.lowRssiVals + 1).toNat = streak b + 1 := by
        rw [uint32_toNat_add_one, Nat.mod_eq_of_lt (by omega), low]
      simp only [active, Bool.not_true, Bool.false_eq_true, if_false, tdlsAutoGetConnectedStaRssi,
        State.writePeer_extn, at_addr, true_and]
      by_cases good : caps.getRssi b ≥ t.extn.tdlsAutoRssiTeardownThreshold
      · simp [good, Int.not_lt.2 good]
      · by_cases teardown : peer.lowRssiVals + 1 ≤ t.extn.tdlsAutoRssiTeardownCount
        · have kept : ¬ t.extn.tdlsAutoRssiTeardownCount.toNat < streak b + 1 := by
            rw [uint32_le_iff_toNat_le, next] at teardown
            omega
          simp [good, teardown, kept]
        · have due : t.extn.tdlsAutoRssiTeardownCount.toNat < streak b + 1 := by
            rw [uint32_le_iff_toNat_le, next] at teardown
            omega
          simp only [good, teardown, if_false, State.writePeer_calls,
            Capabilities.count_disconnect_disconnect]
          by_cases same : b = a
          · subst same
            simp [Int.not_le.1 good, due]
          · simp [same]

end teardown

/-- A visit restarts or extends only the streak of the address it visits. -/
theorem streakVisit_of_ne (caps : Capabilities) (t : State) (streak : MacAddr → Nat)
    {a b : MacAddr} (other : a ≠ b) : streakVisit caps t streak b a = streak a := by
  unfold streakVisit
  cases tdlsAutoFindPeer t b with
  | none => rfl
  | some peer =>
    dsimp only
    split_ifs <;> simp [Function.update_noteq other]

/-- Two states that agree on the peers without the address `b` agree on whether some peer
with another address `a` satisfies a property. -/
theorem exists_addr_iff_of_filter_ne {u v : State} {a b : MacAddr}
    (frame : u.peers.filter (·.addr ≠ b) = v.peers.filter (·.addr ≠ b)) (other : b ≠ a)
    {q : TdlsAutoPeer → Prop} :
    (∃ p ∈ u.peers, p.addr = a ∧ q p) ↔ ∃ p ∈ v.peers, p.addr = a ∧ q p := by
  have onU : (∃ p ∈ u.peers.filter (·.addr ≠ b), p.addr = a ∧ q p) ↔ _ :=
    exists_filter_addr_ne_iff
  have onV : (∃ p ∈ v.peers.filter (·.addr ≠ b), p.addr = a ∧ q p) ↔ _ :=
    exists_filter_addr_ne_iff
  rw [frame] at onU
  exact ⟨fun holds => (onV.1 (onU.2 ⟨other, holds⟩)).2,
    fun holds => (onU.1 (onV.2 ⟨other, holds⟩)).2⟩

/-- The RSSI-teardown pass over distinct addresses issues `disconnect(a)` once when `a` is
visited with a low reading that makes its streak pass `rssi_teardown_count`, and never
otherwise. -/
theorem count_disconnect_foldl_rssiPassVisit (caps : Capabilities) (a : MacAddr) :
    ∀ (addrs : List MacAddr) (acc : State × (MacAddr → Nat)), addrs.Nodup →
      RegistryInv acc.1 → Hysteresis acc.1 acc.2 →
      acc.1.extn.tdlsAutoRssiTeardownCount.toNat < 2 ^ 32 - 1 →
      (addrs.foldl (rssiPassVisit caps) acc).1.calls.count (.disconnect a) =
        acc.1.calls.count (.disconnect a) +
          if a ∈ addrs ∧ ∃ p ∈ acc.1.peers, p.addr = a ∧ p.connected = true ∧
              caps.getRssi a < acc.1.extn.tdlsAutoRssiTeardownThreshold ∧
              acc.1.extn.tdlsAutoRssiTeardownCount.toNat < acc.2 a + 1 then 1 else 0
  | [], _, _, _, _, _ => by simp
  | b :: rest, acc, nodup, registry, inv, few => by
    have extn := tdlsAutoRssiTeardownStep_extn caps acc.1 b
    rw [List.foldl_cons,
      count_disconnect_foldl_rssiPassVisit caps a rest _ (List.nodup_cons.1 nodup).2
      (registry.rssiTeardownStep caps b) (inv.rssiTeardownStep registry few caps b) (by
        rw [rssiPassVisit, extn]; exact few)]
    simp only [rssiPassVisit, extn, inv.count_disconnect_rssiTeardownStep registry few a b,
      Nat.add_assoc]
    by_cases same : b = a
    · subst same
      have fresh : b ∉ rest := (List.nodup_cons.1 nodup).1
      simp [fresh]
    · simp only [streakVisit_of_ne caps acc.1 acc.2 (Ne.symm same),
        exists_addr_iff_of_filter_ne (filter_ne_tdlsAutoRssiTeardownStep caps) same]
      simp [same, Ne.symm same]

/-- The law of one RSSI-teardown pass, from a state whose peers count their streaks. -/
theorem Hysteresis.count_disconnect_rssiTeardownTimeout {s : State} {streak : MacAddr → Nat}
    (inv : Hysteresis s streak) (registry : RegistryInv s)
    (few : s.extn.tdlsAutoRssiTeardownCount.toNat < 2 ^ 32 - 1) (caps : Capabilities)
    (addr : MacAddr) :
    ((Event.timeout .rssiTeardown).apply caps s).calls.count (.disconnect addr) =
      s.calls.count (.disconnect addr) +
        if ∃ p ∈ s.peers, p.addr = addr ∧ p.connected = true ∧
            caps.getRssi addr < s.extn.tdlsAutoRssiTeardownThreshold ∧
            s.extn.tdlsAutoRssiTeardownCount.toNat < streak addr + 1 then 1 else 0 := by
  have pass := count_disconnect_foldl_rssiPassVisit caps addr s.addrs
    (tdlsAutoCancelTimer .rssiTeardown s, streak) registry.addrs_nodup (registry.cancelTimer _)
    (inv.cancelTimer _) few
  have tracked : ∀ {q : TdlsAutoPeer → Prop}, (∃ p ∈ s.peers, p.addr = addr ∧ q p) →
      addr ∈ s.addrs := fun ⟨p, member, same, _⟩ => same ▸ List.mem_map_of_mem _ member
  rw [foldl_rssiPassVisit_fst] at pass
  simp only [tdlsAutoCancelTimer_peers, tdlsAutoCancelTimer_extn, tdlsAutoCancelTimer_calls,
    and_iff_right_of_imp tracked] at pass
  show (tdlsAutoRssiTeardownTimeout caps (tdlsAutoCancelTimer .rssiTeardown s)).calls.count _ = _
  unfold tdlsAutoRssiTeardownTimeout
  dsimp only
  split
  · exact pass
  · rw [tdlsAutoSetTimer_calls]
    exact pass

/-- **RSSI hysteresis.** In every run whose configuration keeps `rssi_teardown_count` below
`UINT_MAX`, the RSSI-teardown pass calls `disconnect(a)` once when `a` is a connected peer
whose reading is low and whose streak of low readings, with this one, passes
`rssi_teardown_count`, and never otherwise. The streak counts the low readings since the
peer last became connected, last read at or above the threshold, or was last torn down for
its RSSI. -/
theorem tdlsAutoRssiTeardownTimeout_hysteresis {s : State} {streak : MacAddr → Nat}
    (reachable : StreakReachable s streak)
    (few : s.extn.tdlsAutoRssiTeardownCount.toNat < 2 ^ 32 - 1) (caps : Capabilities)
    (addr : MacAddr) :
    ((Event.timeout .rssiTeardown).apply caps s).calls.count (.disconnect addr) =
      s.calls.count (.disconnect addr) +
        if ∃ p ∈ s.peers, p.addr = addr ∧ p.connected = true ∧
            caps.getRssi addr < s.extn.tdlsAutoRssiTeardownThreshold ∧
            s.extn.tdlsAutoRssiTeardownCount.toNat < streak addr + 1 then 1 else 0 := by
  obtain ⟨registry, inv⟩ := reachable.hysteresis few
  exact inv.count_disconnect_rssiTeardownTimeout registry few caps addr

/-- With the spec's thresholds a remote station reading -80 dBm is torn down at its third
low reading: after two passes its streak is 2 and the next pass issues the `disconnect`. -/
theorem tdlsAutoRssiTeardownTimeout_hysteresis_third_low :
    let s := (Event.timeout .rssiTeardown).apply (.nominal false (-80))
      ((Event.timeout .rssiTeardown).apply (.nominal false (-80))
        ((Event.peerConnected stationA).apply (.nominal false (-80))
          (tdlsAutoInit scenarioConfig)))
    ∃ streak, StreakReachable s streak ∧ s.extn.tdlsAutoRssiTeardownCount.toNat < 2 ^ 32 - 1 ∧
      ((Event.timeout .rssiTeardown).apply (.nominal false (-80)) s).calls.count
          (.disconnect stationA) = s.calls.count (.disconnect stationA) + 1 := by
  have reachable := StreakReachable.step (.nominal false (-80)) (.timeout .rssiTeardown)
    (.step (.nominal false (-80)) (.timeout .rssiTeardown)
      (.step (.nominal false (-80)) (.peerConnected stationA) (.init scenarioConfig) trivial)
      (by decide)) (by decide)
  exact ⟨_, reachable, by decide,
    (tdlsAutoRssiTeardownTimeout_hysteresis reachable (by decide) _ _).trans (by decide)⟩

/-- **Every run counts its streaks.** Every reachable state is reached with the streaks of its
run, so in every reachable state whose configuration keeps `rssi_teardown_count` below
`UINT_MAX` the RSSI-teardown pass calls `disconnect(a)` once when `a` is a connected peer
whose reading is low and whose streak, with this reading, passes `rssi_teardown_count`, and
never otherwise. -/
theorem reachable_rssiTeardown_hysteresis {s : State} (reachable : Reachable s)
    (few : s.extn.tdlsAutoRssiTeardownCount.toNat < 2 ^ 32 - 1) :
    ∃ streak, StreakReachable s streak ∧ ∀ (caps : Capabilities) (addr : MacAddr),
      ((Event.timeout .rssiTeardown).apply caps s).calls.count (.disconnect addr) =
        s.calls.count (.disconnect addr) +
          if ∃ p ∈ s.peers, p.addr = addr ∧ p.connected = true ∧
              caps.getRssi addr < s.extn.tdlsAutoRssiTeardownThreshold ∧
              s.extn.tdlsAutoRssiTeardownCount.toNat < streak addr + 1 then 1 else 0 := by
  obtain ⟨streak, streaks⟩ := reachable.streakReachable
  obtain ⟨registry, inv⟩ := streaks.hysteresis few
  exact ⟨streak, streaks, inv.count_disconnect_rssiTeardownTimeout registry few⟩

/-- A station that has just connected. -/
theorem reachable_rssiTeardown_hysteresis_connected :
    let s := (Event.peerConnected stationA).apply (.nominal false (-80))
      (tdlsAutoInit scenarioConfig)
    Reachable s ∧ s.extn.tdlsAutoRssiTeardownCount.toNat < 2 ^ 32 - 1 ∧
      ∃ streak, StreakReachable s streak ∧ ∀ (caps : Capabilities) (addr : MacAddr),
        ((Event.timeout .rssiTeardown).apply caps s).calls.count (.disconnect addr) =
          s.calls.count (.disconnect addr) +
            if ∃ p ∈ s.peers, p.addr = addr ∧ p.connected = true ∧
                caps.getRssi addr < s.extn.tdlsAutoRssiTeardownThreshold ∧
                s.extn.tdlsAutoRssiTeardownCount.toNat < streak addr + 1 then 1 else 0 :=
  have reachable : Reachable ((Event.peerConnected stationA).apply (.nominal false (-80))
      (tdlsAutoInit scenarioConfig)) := .step _ _ (.init _) trivial
  ⟨reachable, by decide, reachable_rssiTeardown_hysteresis reachable (by decide)⟩

section uintMax

variable (caps : Capabilities) {t : State} {peer : TdlsAutoPeer}

/-- A pass over a single connected peer whose reading is low and whose incremented count is
still at most `rssi_teardown_count` as an `unsigned int`: the pass records the reading,
counts it, issues nothing and re-arms. -/
theorem fireTimeout_rssiTeardown_single (single : t.peers = [peer])
    (active : peer.connected = true)
    (low : caps.getRssi peer.addr < t.extn.tdlsAutoRssiTeardownThreshold)
    (room : peer.lowRssiVals + 1 ≤ t.extn.tdlsAutoRssiTeardownCount)
    (counted : t.connPeerCount ≠ 0) :
    (fireTimeout caps .rssiTeardown t).peers =
        [{ peer with rssi := caps.getRssi peer.addr, lowRssiVals := peer.lowRssiVals + 1 }] ∧
      (fireTimeout caps .rssiTeardown t).calls = t.calls ∧
      (fireTimeout caps .rssiTeardown t).pending .rssiTeardown = true ∧
      (fireTimeout caps .rssiTeardown t).extn = t.extn ∧
      (fireTimeout caps .rssiTeardown t).connPeerCount = t.connPeerCount := by
  have found : tdlsAutoFindPeer (tdlsAutoCancelTimer .rssiTeardown t) peer.addr = some peer := by
    simp [tdlsAutoFindPeer, single]
  have tracked : (tdlsAutoCancelTimer .rssiTeardown t).Tracked peer.addr := by
    simp [State.Tracked, State.addrs, single]
  have step : tdlsAutoRssiTeardownStep caps (tdlsAutoCancelTimer .rssiTeardown t) peer.addr =
      ((tdlsAutoCancelTimer .rssiTeardown t).writePeer peer.addr
        (tdlsAutoGetConnectedStaRssi caps)).writePeer peer.addr
        fun p => { p with lowRssiVals := p.lowRssiVals + 1 } := by
    simp [tdlsAutoRssiTeardownStep, found, active, tdlsAutoGetConnectedStaRssi, Int.not_le.2 low,
      room]
  simp only [fireTimeout, Handler.run]
  rw [State.writePeer_of_tracked ((State.tracked_writePeer
    (f := tdlsAutoGetConnectedStaRssi caps) fun _ => rfl).2 tracked),
    State.writePeer_of_tracked tracked] at step
  simp [tdlsAutoRssiTeardownTimeout, State.addrs, single, step, counted,
    tdlsAutoGetConnectedStaRssi]

/-- The same pass extends the streak of the peer, as long as it stays within
`rssi_teardown_count`. -/
theorem streak_rssiTeardown_single (streak : MacAddr → Nat) (single : t.peers = [peer])
    (active : peer.connected = true)
    (low : caps.getRssi peer.addr < t.extn.tdlsAutoRssiTeardownThreshold)
    (within : streak peer.addr + 1 ≤ t.extn.tdlsAutoRssiTeardownCount.toNat) :
    (Event.timeout .rssiTeardown).streak caps t streak =
      Function.update streak peer.addr (streak peer.addr + 1) := by
  have found : tdlsAutoFindPeer (tdlsAutoCancelTimer .rssiTeardown t) peer.addr = some peer := by
    simp [tdlsAutoFindPeer, single]
  simp [Event.streak, State.addrs, single, rssiPassVisit, streakVisit, found, active,
    Int.not_le.2 low, Nat.not_lt.2 within]

/-- While the count has room, each pass over a single connected peer with low readings
counts one more reading, extends its streak and issues nothing. -/
theorem StreakReachable.iterate_rssiTeardown_single (peer : TdlsAutoPeer)
    (active : peer.connected = true)
    (read : peer.rssi = caps.getRssi peer.addr) :
    ∀ (n m : Nat) (t : State) (streak : MacAddr → Nat), StreakReachable t streak →
      t.peers = [{ peer with lowRssiVals := UInt32.ofNat m }] →
      t.pending .rssiTeardown = true → t.connPeerCount ≠ 0 →
      caps.getRssi peer.addr < t.extn.tdlsAutoRssiTeardownThreshold →
      streak peer.addr = m → m + n ≤ t.extn.tdlsAutoRssiTeardownCount.toNat →
      StreakReachable (((Event.timeout .rssiTeardown).apply caps)^[n] t)
          (Function.update streak peer.addr (m + n)) ∧
        (((Event.timeout .rssiTeardown).apply caps)^[n] t).peers =
          [{ peer with lowRssiVals := UInt32.ofNat (m + n) }] ∧
        (((Event.timeout .rssiTeardown).apply caps)^[n] t).calls = t.calls ∧
        (((Event.timeout .rssiTeardown).apply caps)^[n] t).extn = t.extn ∧
        (((Event.timeout .rssiTeardown).apply caps)^[n] t).connPeerCount = t.connPeerCount
  | 0, m, t, streak, reachable, single, _, _, _, counted, _ => by
    subst counted
    rw [Nat.add_zero, Function.update_eq_self]
    exact ⟨reachable, single, rfl, rfl, rfl⟩
  | n + 1, m, t, streak, reachable, single, pending, nonzero, low, counted, within => by
    have bounded : t.extn.tdlsAutoRssiTeardownCount.toNat < 2 ^ 32 :=
      t.extn.tdlsAutoRssiTeardownCount.toNat_lt_size
    have next : UInt32.ofNat m + 1 = UInt32.ofNat (m + 1) := uint32_eq_iff_toNat_eq.2 (by
      rw [uint32_toNat_add_one, UInt32.toNat_ofNat_of_lt (by omega : m < 2 ^ 32),
        UInt32.toNat_ofNat_of_lt (by omega : m + 1 < 2 ^ 32)]
      exact Nat.mod_eq_of_lt (by omega))
    obtain ⟨peers, calls, pending', extn, count⟩ : _ ∧ _ ∧
        ((Event.timeout .rssiTeardown).apply caps t).pending .rssiTeardown = true ∧
        ((Event.timeout .rssiTeardown).apply caps t).extn = t.extn ∧
        ((Event.timeout .rssiTeardown).apply caps t).connPeerCount = t.connPeerCount :=
      fireTimeout_rssiTeardown_single caps single active low (by
        rw [next, uint32_le_iff_toNat_le, UInt32.toNat_ofNat_of_lt (by omega : m + 1 < 2 ^ 32)]
        omega) nonzero
    have streaked := streak_rssiTeardown_single caps streak single active low
      (by rw [counted]; omega)
    rw [counted] at streaked
    have step : StreakReachable ((Event.timeout .rssiTeardown).apply caps t)
        (Function.update streak peer.addr (m + 1)) := streaked ▸ .step caps _ reachable pending
    obtain ⟨reachable', peers', calls', extn', count'⟩ :=
      iterate_rssiTeardown_single peer active read n (m + 1) _ _ step
        (by rw [← next]; exact peers.trans (by simp [read]))
      pending' (by rwa [count]) (by rwa [extn]) (Function.update_same _ _ _)
      (by rw [extn]; omega)
    have shift : m + 1 + n = m + (n + 1) := by omega
    rw [Function.update_idem, shift] at reachable'
    rw [shift] at peers'
    rw [Function.iterate_succ_apply]
    exact ⟨reachable', peers', calls'.trans calls, extn'.trans extn, count'.trans count⟩

/-- The spec's thresholds with `rssi_teardown_count` set to `UINT_MAX`. -/
def uintMaxCountConfig : WpasTdlsAutoCtx :=
  { scenarioConfig with tdlsAutoRssiTeardownCount := 4294967295 }

/-- **No RSSI teardown at `UINT_MAX`.** With `rssi_teardown_count = UINT_MAX`, a remote
station connects and every RSSI-teardown pass reads -80 dBm, below the -75 dBm threshold.
After 2^32 - 1 passes the streak equals the count; the next pass reads -80 dBm again and the
streak passes the count, but `low_rssi_vals` wraps to 0 and no `disconnect` is issued. -/
theorem rssiTeardown_silent_at_uint_max :
    let s := ((Event.timeout .rssiTeardown).apply (.nominal false (-80)))^[2 ^ 32 - 2]
      ((Event.timeout .rssiTeardown).apply (.nominal false (-80))
        ((Event.peerConnected stationA).apply (.nominal false (-80))
          (tdlsAutoInit uintMaxCountConfig)))
    ∃ streak, StreakReachable s streak ∧
      (∃ p ∈ s.peers, p.addr = stationA ∧ p.connected = true ∧
        (Capabilities.nominal false (-80)).getRssi stationA <
          s.extn.tdlsAutoRssiTeardownThreshold ∧
        s.extn.tdlsAutoRssiTeardownCount.toNat < streak stationA + 1) ∧
      ((Event.timeout .rssiTeardown).apply (.nominal false (-80)) s).calls.count
          (.disconnect stationA) =
        s.calls.count (.disconnect stationA) := by
  intro s
  have first := StreakReachable.step (.nominal false (-80)) (.timeout .rssiTeardown)
    (.step (.nominal false (-80)) (.peerConnected stationA) (.init uintMaxCountConfig) trivial)
    (by decide)
  obtain ⟨reachable, single, calls, extn, counted⟩ :=
    first.iterate_rssiTeardown_single (.nominal false (-80))
      { TdlsAutoPeer.zalloc stationA with connected := true, rssi := -80, incomingPeer := true }
      rfl rfl (2 ^ 32 - 2) 1 _ _
      (by decide) (by decide) (by decide) (by decide) (by decide) (by decide)
  refine ⟨_, reachable, ⟨_, single ▸ List.mem_singleton_self _, rfl, rfl,
    by rw [extn]; decide, by rw [extn]; decide⟩, ?_⟩
  obtain ⟨-, calls', -⟩ := fireTimeout_rssiTeardown_single (.nominal false (-80)) single
    rfl (by rw [extn]; decide) (by rw [extn]; decide) (by rw [counted]; decide)
  exact congrArg (List.count _) calls'

end uintMax

end TdlsAutoMode
