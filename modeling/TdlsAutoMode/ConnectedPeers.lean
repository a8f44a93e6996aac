import Mathlib.Data.List.Count
import TdlsAutoMode.Flags

/-! # Connected peers and the connected-peer count

`conn_peer_count` is meant to count the tracked peers with `connected` set
(`State.connectedPeers`). Each write through a peer pointer trades the connected peers with
that address before for those after (`State.connectedPeers_writePeer`), so only the writes
that set `connected` can add one, and with distinct addresses at most one.

A teardown lowers the count by one for a peer it finds connected, so from a state whose
count covers its connected peers every teardown path ends in such a state again, with a
count no larger (`Uncounts`): `tdls_auto_peer_disconnected` for a connected peer, a
`disconnect` capability that re-enters it, `tdls_auto_mode_stop`, `tdls_auto_remove_peers`
and the steps of both teardown passes.
-/

namespace TdlsAutoMode

/-- The number of tracked peers with `connected` set. -/
def State.connectedPeers (s : State) : Nat := (s.peers.filter (·.connected)).length

section connected

variable {s t : State} {addr : MacAddr} {f : TdlsAutoPeer → TdlsAutoPeer}

/-- A write to the peers with one address trades their connected ones before for those after. -/
theorem countP_map_write (l : List TdlsAutoPeer) (c : TdlsAutoPeer → Bool) :
    (l.map fun p => if p.addr = addr then f p else p).countP c +
        l.countP (fun p => p.addr = addr && c p) =
      l.countP c + l.countP (fun p => p.addr = addr && c (f p)) := by
  induction l with
  | nil => rfl
  | cons q rest ih =>
    by_cases same : q.addr = addr <;> simp [List.countP_cons, same] at ih ⊢ <;> split_ifs <;>
      omega

theorem State.connectedPeers_writePeer (addr : MacAddr) (f : TdlsAutoPeer → TdlsAutoPeer) :
    (s.writePeer addr f).connectedPeers + s.peers.countP (fun p => p.addr = addr && p.connected) =
      s.connectedPeers + s.peers.countP (fun p => p.addr = addr && (f p).connected) := by
  unfold State.writePeer State.connectedPeers
  split
  · simp only [← List.countP_eq_length_filter]
    exact countP_map_write s.peers (·.connected)
  · rename_i untracked
    have absent : ∀ c : TdlsAutoPeer → Bool,
        s.peers.countP (fun p => p.addr = addr && c p) = 0 := fun c =>
      List.countP_eq_zero.2 fun p member => by
        simp only [Bool.and_eq_true, decide_eq_true_eq, not_and]
        exact fun same => absurd (same ▸ List.mem_map_of_mem _ member) untracked
    rw [absent, absent]

/-- A write that clears `connected` or keeps it counts no more connected peers. -/
theorem State.connectedPeers_writePeer_le (addr : MacAddr)
    (clears : ∀ p, (f p).connected = true → p.connected = true) :
    (s.writePeer addr f).connectedPeers ≤ s.connectedPeers := by
  have trade := State.connectedPeers_writePeer (s := s) addr f
  have fewer : s.peers.countP (fun p => p.addr = addr && (f p).connected) ≤
      s.peers.countP (fun p => p.addr = addr && p.connected) :=
    List.countP_mono_left fun p _ => by
      simp only [Bool.and_eq_true, decide_eq_true_eq, and_imp]
      exact fun same connected => ⟨same, clears p connected⟩
  omega

theorem State.connectedPeers_writePeer_of_keeps (addr : MacAddr)
    (keeps : ∀ p, (f p).connected = p.connected) :
    (s.writePeer addr f).connectedPeers = s.connectedPeers := by
  have trade := State.connectedPeers_writePeer (s := s) addr f
  simp only [keeps] at trade
  omega

/-- Clearing `connected` on a connected peer uncounts it. -/
theorem State.connectedPeers_writePeer_disconnect {peer : TdlsAutoPeer}
    (found : tdlsAutoFindPeer s addr = some peer) (active : peer.connected = true) :
    (s.writePeer addr fun p => { p with connected := false }).connectedPeers + 1 ≤
      s.connectedPeers := by
  have trade := State.connectedPeers_writePeer (s := s) addr fun p => { p with connected := false }
  obtain ⟨member, same⟩ := mem_of_tdlsAutoFindPeer found
  have present : 0 < s.peers.countP (fun p => p.addr = addr && p.connected) :=
    List.countP_pos_iff.2 ⟨peer, member, by simp [same, active]⟩
  have cleared : s.peers.countP
      (fun p => p.addr = addr && ({ p with connected := false } : TdlsAutoPeer).connected) = 0 := by
    simp
  omega

/-- With distinct addresses, setting `connected` counts at most one more connected peer. -/
theorem State.connectedPeers_writePeer_connect (addr : MacAddr) (nodup : s.addrs.Nodup) :
    (s.writePeer addr fun p => { p with connected := true }).connectedPeers ≤
      s.connectedPeers + 1 := by
  have trade := State.connectedPeers_writePeer (s := s) addr fun p => { p with connected := true }
  have single : s.peers.countP (fun p =>
      p.addr = addr && ({ p with connected := true } : TdlsAutoPeer).connected) ≤ 1 := by
    have := List.nodup_iff_count_le_one.1 nodup addr
    simpa [State.addrs, List.count, List.countP_map, Function.comp_def] using this
  omega

theorem State.connectedPeers_of_flags (same : t.flags = s.flags) :
    t.connectedPeers = s.connectedPeers := by
  have viaFlags : ∀ u : State, u.connectedPeers = (u.flags.filter (·.2.1)).length := fun u => by
    simp [State.connectedPeers, State.flags, List.filter_map, Function.comp_def,
      TdlsAutoPeer.flags]
  rw [viaFlags, viaFlags, same]

@[simp] theorem State.connectedPeers_logCall (call : Call) :
    (s.logCall call).connectedPeers = s.connectedPeers := rfl
@[simp] theorem State.connectedPeers_setConnPeerCount (count : UInt32) :
    (s.setConnPeerCount count).connectedPeers = s.connectedPeers := rfl
@[simp] theorem connectedPeers_tdlsAutoSetTimer (handler : Handler) :
    (tdlsAutoSetTimer handler s).connectedPeers = s.connectedPeers := rfl

theorem connectedPeers_tdlsAutoModeStopFree_le :
    (tdlsAutoModeStopFree addr s).connectedPeers ≤ s.connectedPeers := by
  unfold State.connectedPeers
  rw [tdlsAutoModeStopFree_peers]
  exact ((List.eraseP_sublist _).filter _).length_le

@[simp] theorem connectedPeers_tdlsAutoAddPeer {caps : Capabilities} :
    (tdlsAutoAddPeer caps addr s).1.connectedPeers = s.connectedPeers := by
  cases outcome : (tdlsAutoAddPeer caps addr s).2
  · obtain ⟨_, _, result, -⟩ := tdlsAutoAddPeer_failed outcome
    rw [result]
    rfl
  · obtain ⟨_, result⟩ := tdlsAutoAddPeer_added outcome
    rw [result]
    split <;> simp [State.connectedPeers, TdlsAutoPeer.zalloc]

end connected

/-- `t` counts all its connected peers, with a connected-peer count no larger than that
of `s`. -/
def Uncounts (s t : State) : Prop :=
  t.connectedPeers ≤ t.connPeerCount.toNat ∧ t.connPeerCount.toNat ≤ s.connPeerCount.toNat

section uncounts

variable {s t u : State} {addr : MacAddr}

theorem Uncounts.refl (counted : s.connectedPeers ≤ s.connPeerCount.toNat) : Uncounts s s :=
  ⟨counted, le_rfl⟩

theorem Uncounts.trans (first : Uncounts s t) (second : Uncounts t u) : Uncounts s u :=
  ⟨second.1, second.2.trans first.2⟩

/-- Fewer connected peers under the same count. -/
theorem Uncounts.of_le (uncounts : Uncounts s t) (fewer : u.connectedPeers ≤ t.connectedPeers)
    (same : u.connPeerCount = t.connPeerCount) : Uncounts s u :=
  ⟨fewer.trans (same ▸ uncounts.1), same ▸ uncounts.2⟩

/-- A write that keeps `connected` keeps what is uncounted. -/
theorem Uncounts.writePeer (uncounts : Uncounts s t) (addr : MacAddr)
    {f : TdlsAutoPeer → TdlsAutoPeer} (keeps : ∀ p, (f p).connected = p.connected) :
    Uncounts s (t.writePeer addr f) :=
  uncounts.of_le (State.connectedPeers_writePeer_of_keeps addr keeps).le (by simp)

/-- Uncounting a peer that was counted and is no longer connected. -/
theorem uncounts_setConnPeerCount_sub_one (counted : s.connectedPeers ≤ s.connPeerCount.toNat)
    (fewer : t.connectedPeers + 1 ≤ s.connectedPeers) (same : t.connPeerCount = s.connPeerCount) :
    Uncounts s (t.setConnPeerCount (t.connPeerCount - 1)) := by
  have lowered : (s.connPeerCount - 1).toNat = s.connPeerCount.toNat - 1 := by
    have bound : s.connPeerCount.toNat < 2 ^ 32 := s.connPeerCount.toNat_lt_size
    rw [uint32_toNat_sub_one]
    omega
  refine ⟨?_, ?_⟩ <;>
    simp only [State.connectedPeers_setConnPeerCount, State.setConnPeerCount_connPeerCount, same,
      lowered] <;> omega

/-- A teardown reported for a connected peer uncounts it. -/
theorem uncounts_tdlsAutoPeerDisconnected {disconnect : MacAddr → State → State}
    {peer : TdlsAutoPeer} (counted : s.connectedPeers ≤ s.connPeerCount.toNat)
    (found : tdlsAutoFindPeer s addr = some peer) (active : peer.connected = true) :
    Uncounts s (tdlsAutoPeerDisconnected disconnect addr s) := by
  have cleared := State.connectedPeers_writePeer_disconnect found active
  rw [tdlsAutoPeerDisconnected_of_found found]
  apply uncounts_setConnPeerCount_sub_one counted
  · split
    · exact (Nat.add_le_add_right connectedPeers_tdlsAutoModeStopFree_le 1).trans cleared
    · rwa [connectedPeers_tdlsAutoSetTimer, State.connectedPeers_writePeer_of_keeps _
        (f := fun p => { p with lowRssiVals := 0, fastAttempts := 0 }) fun _ => rfl]
  · split <;> simp

/-- `disconnect` of a connected peer uncounts it when it re-enters, and does nothing else. -/
theorem Capabilities.uncounts_disconnect {caps : Capabilities} {peer : TdlsAutoPeer}
    (counted : s.connectedPeers ≤ s.connPeerCount.toNat)
    (found : tdlsAutoFindPeer s addr = some peer) (active : peer.connected = true) :
    Uncounts s (caps.disconnect addr s) := by
  unfold Capabilities.disconnect
  split
  · exact uncounts_tdlsAutoPeerDisconnected (s := logDisconnect addr s) counted
      (by rwa [logDisconnect, tdlsAutoFindPeer_logCall]) active
  · exact .refl counted

theorem uncounts_tdlsAutoModeStop (counted : s.connectedPeers ≤ s.connPeerCount.toNat)
    (caps : Capabilities) : Uncounts s (tdlsAutoModeStop caps.disconnect addr s) := by
  cases found : tdlsAutoFindPeer s addr with
  | none =>
    rw [tdlsAutoModeStop_of_untracked (tdlsAutoFindPeer_eq_none_iff.1 found)]
    exact .refl counted
  | some peer =>
    cases active : peer.connected
    · rw [tdlsAutoModeStop_of_idle found active]
      exact (Uncounts.refl counted).of_le connectedPeers_tdlsAutoModeStopFree_le (by simp)
    · rw [tdlsAutoModeStop_of_active found active]
      have marked := (Uncounts.refl counted).writePeer addr
        (f := fun p => { p with incomingPeer := false }) fun _ => rfl
      exact (marked.trans (caps.uncounts_disconnect marked.1
        (tdlsAutoFindPeer_writePeer_of_found (fun _ => rfl) found) active)).of_le
        connectedPeers_tdlsAutoModeStopFree_le (by simp)

theorem uncounts_tdlsAutoRemovePeers (counted : s.connectedPeers ≤ s.connPeerCount.toNat)
    (caps : Capabilities) (killActiveLinks : Bool) :
    Uncounts s (tdlsAutoRemovePeers caps killActiveLinks s) :=
  List.foldlRecOn (motive := Uncounts s) s.addrs _ s (.refl counted) fun t uncounts addr _ => by
    refine uncounts.trans ?_
    unfold tdlsAutoRemovePeersStep
    split
    · exact uncounts_tdlsAutoModeStop uncounts.1 caps
    · have marked := (Uncounts.refl uncounts.1).of_le
        (State.connectedPeers_writePeer_le addr
          (f := fun p => { p with connected := false }) fun _ off => absurd off (by simp)) (by simp)
      exact marked.trans (uncounts_tdlsAutoModeStop marked.1 caps)

theorem uncounts_tdlsAutoDataTeardownStep (counted : s.connectedPeers ≤ s.connPeerCount.toNat)
    (caps : Capabilities) (addr : MacAddr) :
    Uncounts s (tdlsAutoDataTeardownStep caps s addr) := by
  have sampled := (Uncounts.refl counted).writePeer addr
    (f := tdlsAutoGetPeerDataRate caps) fun _ => by simp
  obtain same | same | ⟨⟨peer, found, active⟩, same⟩ :=
    tdlsAutoDataTeardownStep_cases caps s addr <;> rw [same]
  · exact .refl counted
  · exact sampled
  · exact sampled.trans (caps.uncounts_disconnect sampled.1
      (tdlsAutoFindPeer_writePeer_of_found (by simp) found) (by simpa using active))

theorem uncounts_tdlsAutoRssiTeardownStep (counted : s.connectedPeers ≤ s.connPeerCount.toNat)
    (caps : Capabilities) (addr : MacAddr) :
    Uncounts s (tdlsAutoRssiTeardownStep caps s addr) := by
  have read := (Uncounts.refl counted).writePeer addr
    (f := tdlsAutoGetConnectedStaRssi caps) fun _ => rfl
  have counted' := read.writePeer addr (f := fun p => { p with lowRssiVals := p.lowRssiVals + 1 })
    fun _ => rfl
  obtain same | same | same | ⟨⟨peer, found, active⟩, same⟩ :=
    tdlsAutoRssiTeardownStep_cases caps s addr <;> rw [same]
  · exact .refl counted
  · exact read.writePeer addr fun _ => rfl
  · exact counted'
  · have found' := tdlsAutoFindPeer_writePeer_of_found (fun _ => rfl)
      (tdlsAutoFindPeer_writePeer_of_found (f := tdlsAutoGetConnectedStaRssi caps) (fun _ => rfl)
        found) (f := fun p => { p with lowRssiVals := p.lowRssiVals + 1 })
    exact (counted'.trans (caps.uncounts_disconnect counted'.1 found' active)).writePeer addr
      fun _ => rfl

/-- A teardown pass uncounts: each step does. -/
theorem uncounts_tdlsAutoDataTeardownTimeout (counted : s.connectedPeers ≤ s.connPeerCount.toNat)
    (caps : Capabilities) : Uncounts s (tdlsAutoDataTeardownTimeout caps s) :=
  tdlsAutoDataTeardownTimeout_rec (.refl counted)
    (fun _ addr uncounts => uncounts.trans (uncounts_tdlsAutoDataTeardownStep uncounts.1 caps addr))
    fun _ uncounts => uncounts

theorem uncounts_tdlsAutoRssiTeardownTimeout (counted : s.connectedPeers ≤ s.connPeerCount.toNat)
    (caps : Capabilities) : Uncounts s (tdlsAutoRssiTeardownTimeout caps s) :=
  tdlsAutoRssiTeardownTimeout_rec (.refl counted)
    (fun _ addr uncounts => uncounts.trans (uncounts_tdlsAutoRssiTeardownStep uncounts.1 caps addr))
    fun _ uncounts => uncounts

end uncounts

end TdlsAutoMode
