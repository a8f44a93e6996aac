import TdlsAutoMode.Model.Basic

/-! # The controller's state and its primitive updates

`State` is `struct tdls_auto_mode_ctx` together with what the rest of the process holds
for it: the event loop's registered timeouts (`pending`), the driver's traffic-accounting
peer cache (`peerCache`), the log of capability calls, and the writes made through a
pointer to a peer record that was already freed (`freedWrites`).

Each primitive here is one line of C: a list lookup, a write through a peer pointer, a
timer (re)registration, a capability call.
-/

namespace TdlsAutoMode

/-- `struct tdls_auto_mode_ctx` with the event loop and driver state it is bound to.
The head of `peers` is the peer `dl_list_add` inserted last; `calls` and `freedWrites`
are newest first. -/
structure State where
  peers : List TdlsAutoPeer
  peerCount : UInt32
  connPeerCount : UInt32
  extn : WpasTdlsAutoCtx
  pending : Handler → Bool
  peerCache : List MacAddr
  calls : List Call
  freedWrites : List MacAddr

namespace State

/-- The addresses of the tracked peers, in list order. -/
def addrs (s : State) : List MacAddr := s.peers.map (·.addr)

/-- The address is tracked: some peer of the registry has it. -/
def Tracked (s : State) (addr : MacAddr) : Prop := addr ∈ s.addrs

instance (s : State) (addr : MacAddr) : Decidable (s.Tracked addr) :=
  inferInstanceAs (Decidable (addr ∈ s.addrs))

/-- `ctx->conn_peer_count = count`. -/
def setConnPeerCount (count : UInt32) (s : State) : State := { s with connPeerCount := count }

/-- Record a capability call. -/
def logCall (call : Call) (s : State) : State := { s with calls := call :: s.calls }

/-- A write `peer->field = ...` through the pointer to the peer with address `addr`. Once
that peer has been freed the pointer dangles: the write reaches no tracked record and is
kept in `freedWrites`. -/
def writePeer (addr : MacAddr) (f : TdlsAutoPeer → TdlsAutoPeer) (s : State) : State :=
  if s.Tracked addr then
    { s with peers := s.peers.map fun p => if p.addr = addr then f p else p }
  else
    { s with freedWrites := addr :: s.freedWrites }

/-- `monitor_traffic(ctx, addr, 0)`: the driver drops its accounting entry for the
address; the return value is ignored. -/
def monitorTrafficDel (addr : MacAddr) (s : State) : State :=
  { s.logCall (.monitorTraffic addr false) with peerCache := s.peerCache.filter (· ≠ addr) }

/-- `monitor_traffic(ctx, addr, 1)`: the driver adds an accounting entry when the call
returns 0. -/
def monitorTrafficAdd (caps : Capabilities) (addr : MacAddr) (s : State) : State :=
  if caps.monitorTraffic addr true = 0 then
    { s.logCall (.monitorTraffic addr true) with peerCache := s.peerCache.insert addr }
  else s.logCall (.monitorTraffic addr true)

end State

/-- `tdls_auto_find_peer`: the first peer in the list with the address. -/
def tdlsAutoFindPeer (s : State) (addr : MacAddr) : Option TdlsAutoPeer :=
  s.peers.find? (·.addr = addr)

/-- `tdls_auto_set_timer`: cancel the handler's pending timeout, then register a new one.
The period only decides when the event loop fires it, which runs leave open. -/
def tdlsAutoSetTimer (handler : Handler) (s : State) : State :=
  { s with pending := Function.update s.pending handler true }

/-- `tdls_auto_cancel_timer`. -/
def tdlsAutoCancelTimer (handler : Handler) (s : State) : State :=
  { s with pending := Function.update s.pending handler false }

namespace State

@[simp] theorem logCall_peers (call : Call) (s : State) : (s.logCall call).peers = s.peers := rfl
@[simp] theorem logCall_peerCount (call : Call) (s : State) :
    (s.logCall call).peerCount = s.peerCount := rfl
@[simp] theorem logCall_connPeerCount (call : Call) (s : State) :
    (s.logCall call).connPeerCount = s.connPeerCount := rfl
@[simp] theorem logCall_extn (call : Call) (s : State) : (s.logCall call).extn = s.extn := rfl
@[simp] theorem logCall_pending (call : Call) (s : State) :
    (s.logCall call).pending = s.pending := rfl
@[simp] theorem logCall_peerCache (call : Call) (s : State) :
    (s.logCall call).peerCache = s.peerCache := rfl
@[simp] theorem logCall_calls (call : Call) (s : State) :
    (s.logCall call).calls = call :: s.calls := rfl
@[simp] theorem logCall_freedWrites (call : Call) (s : State) :
    (s.logCall call).freedWrites = s.freedWrites := rfl

@[simp] theorem setConnPeerCount_peers (count : UInt32) (s : State) :
    (s.setConnPeerCount count).peers = s.peers := rfl
@[simp] theorem setConnPeerCount_addrs (count : UInt32) (s : State) :
    (s.setConnPeerCount count).addrs = s.addrs := rfl
@[simp] theorem setConnPeerCount_peerCount (count : UInt32) (s : State) :
    (s.setConnPeerCount count).peerCount = s.peerCount := rfl
@[simp] theorem setConnPeerCount_connPeerCount (count : UInt32) (s : State) :
    (s.setConnPeerCount count).connPeerCount = count := rfl
@[simp] theorem setConnPeerCount_extn (count : UInt32) (s : State) :
    (s.setConnPeerCount count).extn = s.extn := rfl
@[simp] theorem setConnPeerCount_pending (count : UInt32) (s : State) :
    (s.setConnPeerCount count).pending = s.pending := rfl
@[simp] theorem setConnPeerCount_peerCache (count : UInt32) (s : State) :
    (s.setConnPeerCount count).peerCache = s.peerCache := rfl
@[simp] theorem setConnPeerCount_calls (count : UInt32) (s : State) :
    (s.setConnPeerCount count).calls = s.calls := rfl
@[simp] theorem setConnPeerCount_freedWrites (count : UInt32) (s : State) :
    (s.setConnPeerCount count).freedWrites = s.freedWrites := rfl

@[simp] theorem addrs_logCall (call : Call) (s : State) : (s.logCall call).addrs = s.addrs := rfl

theorem tracked_iff (s : State) (addr : MacAddr) :
    s.Tracked addr ↔ ∃ p ∈ s.peers, p.addr = addr := by
  simp [Tracked, addrs]

section writePeer

variable {addr : MacAddr} {f : TdlsAutoPeer → TdlsAutoPeer} {s : State}

theorem writePeer_of_tracked (tracked : s.Tracked addr) :
    s.writePeer addr f =
      { s with peers := s.peers.map fun p => if p.addr = addr then f p else p } :=
  if_pos tracked

theorem writePeer_of_not_tracked (untracked : ¬ s.Tracked addr) :
    s.writePeer addr f = { s with freedWrites := addr :: s.freedWrites } :=
  if_neg untracked

@[simp] theorem writePeer_peerCount : (s.writePeer addr f).peerCount = s.peerCount := by
  unfold writePeer; split <;> rfl
@[simp] theorem writePeer_connPeerCount :
    (s.writePeer addr f).connPeerCount = s.connPeerCount := by
  unfold writePeer; split <;> rfl
@[simp] theorem writePeer_extn : (s.writePeer addr f).extn = s.extn := by
  unfold writePeer; split <;> rfl
@[simp] theorem writePeer_pending : (s.writePeer addr f).pending = s.pending := by
  unfold writePeer; split <;> rfl
@[simp] theorem writePeer_peerCache : (s.writePeer addr f).peerCache = s.peerCache := by
  unfold writePeer; split <;> rfl
@[simp] theorem writePeer_calls : (s.writePeer addr f).calls = s.calls := by
  unfold writePeer; split <;> rfl

/-- A write that keeps the address field keeps the list of addresses. -/
@[simp] theorem addrs_writePeer (keeps : ∀ p, (f p).addr = p.addr) :
    (s.writePeer addr f).addrs = s.addrs := by
  unfold writePeer addrs
  split
  · simp only [List.map_map]
    exact List.map_congr_left fun p _ => by
      by_cases same : p.addr = addr <;> simp [same, keeps]
  · rfl

@[simp] theorem tracked_writePeer (keeps : ∀ p, (f p).addr = p.addr) {other : MacAddr} :
    (s.writePeer addr f).Tracked other ↔ s.Tracked other := by
  rw [Tracked, Tracked, addrs_writePeer keeps]

/-- A write to a tracked peer records no dangling write. -/
theorem writePeer_freedWrites_of_tracked (tracked : s.Tracked addr) :
    (s.writePeer addr f).freedWrites = s.freedWrites := by
  rw [writePeer_of_tracked tracked]

end writePeer

@[simp] theorem monitorTrafficDel_peers (addr : MacAddr) (s : State) :
    (s.monitorTrafficDel addr).peers = s.peers := rfl
@[simp] theorem monitorTrafficDel_peerCount (addr : MacAddr) (s : State) :
    (s.monitorTrafficDel addr).peerCount = s.peerCount := rfl
@[simp] theorem monitorTrafficDel_connPeerCount (addr : MacAddr) (s : State) :
    (s.monitorTrafficDel addr).connPeerCount = s.connPeerCount := rfl
@[simp] theorem monitorTrafficDel_extn (addr : MacAddr) (s : State) :
    (s.monitorTrafficDel addr).extn = s.extn := rfl
@[simp] theorem monitorTrafficDel_pending (addr : MacAddr) (s : State) :
    (s.monitorTrafficDel addr).pending = s.pending := rfl
@[simp] theorem monitorTrafficDel_peerCache (addr : MacAddr) (s : State) :
    (s.monitorTrafficDel addr).peerCache = s.peerCache.filter (· ≠ addr) := rfl
@[simp] theorem monitorTrafficDel_calls (addr : MacAddr) (s : State) :
    (s.monitorTrafficDel addr).calls = .monitorTraffic addr false :: s.calls := rfl
@[simp] theorem monitorTrafficDel_freedWrites (addr : MacAddr) (s : State) :
    (s.monitorTrafficDel addr).freedWrites = s.freedWrites := rfl

section monitorTrafficAdd

variable (caps : Capabilities) (addr : MacAddr) (s : State)

@[simp] theorem monitorTrafficAdd_peers : (s.monitorTrafficAdd caps addr).peers = s.peers := by
  unfold monitorTrafficAdd; split <;> rfl
@[simp] theorem monitorTrafficAdd_peerCount :
    (s.monitorTrafficAdd caps addr).peerCount = s.peerCount := by
  unfold monitorTrafficAdd; split <;> rfl
@[simp] theorem monitorTrafficAdd_connPeerCount :
    (s.monitorTrafficAdd caps addr).connPeerCount = s.connPeerCount := by
  unfold monitorTrafficAdd; split <;> rfl
@[simp] theorem monitorTrafficAdd_extn : (s.monitorTrafficAdd caps addr).extn = s.extn := by
  unfold monitorTrafficAdd; split <;> rfl
@[simp] theorem monitorTrafficAdd_pending :
    (s.monitorTrafficAdd caps addr).pending = s.pending := by
  unfold monitorTrafficAdd; split <;> rfl
@[simp] theorem monitorTrafficAdd_calls :
    (s.monitorTrafficAdd caps addr).calls = .monitorTraffic addr true :: s.calls := by
  unfold monitorTrafficAdd; split <;> rfl
@[simp] theorem monitorTrafficAdd_freedWrites :
    (s.monitorTrafficAdd caps addr).freedWrites = s.freedWrites := by
  unfold monitorTrafficAdd; split <;> rfl

theorem monitorTrafficAdd_peerCache :
    (s.monitorTrafficAdd caps addr).peerCache =
      if caps.monitorTraffic addr true = 0 then s.peerCache.insert addr else s.peerCache := by
  unfold monitorTrafficAdd; split <;> rfl

end monitorTrafficAdd

@[simp] theorem addrs_monitorTrafficDel (addr : MacAddr) (s : State) :
    (s.monitorTrafficDel addr).addrs = s.addrs := rfl
@[simp] theorem addrs_monitorTrafficAdd (caps : Capabilities) (addr : MacAddr) (s : State) :
    (s.monitorTrafficAdd caps addr).addrs = s.addrs := by
  simp [addrs]

end State

section find

variable {s : State} {addr : MacAddr} {peer : TdlsAutoPeer}

theorem mem_of_tdlsAutoFindPeer (found : tdlsAutoFindPeer s addr = some peer) :
    peer ∈ s.peers ∧ peer.addr = addr :=
  ⟨List.mem_of_find?_eq_some found, by simpa using List.find?_some found⟩

theorem tracked_of_tdlsAutoFindPeer (found : tdlsAutoFindPeer s addr = some peer) :
    s.Tracked addr :=
  (State.tracked_iff s addr).2 ⟨peer, mem_of_tdlsAutoFindPeer found⟩

/-- With distinct addresses, the peer found for an address is the only one with it. -/
theorem eq_of_tdlsAutoFindPeer (nodup : s.addrs.Nodup) {p : TdlsAutoPeer}
    (found : tdlsAutoFindPeer s addr = some peer) (member : p ∈ s.peers) (same : p.addr = addr) :
    p = peer :=
  List.inj_on_of_nodup_map nodup member (mem_of_tdlsAutoFindPeer found).1
    (same.trans (mem_of_tdlsAutoFindPeer found).2.symm)

/-- Lists of peers with the same addresses are empty together. -/
theorem State.peers_eq_nil_of_addrs {u v : State} (addrs : u.addrs = v.addrs)
    (empty : v.peers = []) : u.peers = [] :=
  List.map_eq_nil_iff.1 (addrs.trans (by simp [State.addrs, empty]))

theorem State.ne_nil_of_tracked (tracked : s.Tracked addr) : s.peers ≠ [] := fun empty => by
  simp [State.Tracked, State.addrs, empty] at tracked

theorem tdlsAutoFindPeer_eq_none_iff : tdlsAutoFindPeer s addr = none ↔ ¬ s.Tracked addr := by
  simp [tdlsAutoFindPeer, State.tracked_iff]

/-- A write keeping the address is seen by the next lookup of that address. -/
theorem tdlsAutoFindPeer_writePeer_self {f : TdlsAutoPeer → TdlsAutoPeer}
    (keeps : ∀ p, (f p).addr = p.addr) :
    tdlsAutoFindPeer (s.writePeer addr f) addr = (tdlsAutoFindPeer s addr).map f := by
  by_cases tracked : s.Tracked addr
  · rw [State.writePeer_of_tracked tracked]
    simp only [tdlsAutoFindPeer, List.find?_map]
    have same : ((fun p : TdlsAutoPeer => decide (p.addr = addr)) ∘
        fun p => if p.addr = addr then f p else p) = fun p => decide (p.addr = addr) := by
      funext p
      by_cases here : p.addr = addr <;> simp [here, keeps]
    rw [same]
    cases found : s.peers.find? (fun p => decide (p.addr = addr)) with
    | none => rfl
    | some p => simp [by simpa using List.find?_some found]
  · rw [State.writePeer_of_not_tracked tracked, (tdlsAutoFindPeer_eq_none_iff).2 tracked]
    exact (tdlsAutoFindPeer_eq_none_iff).2 tracked

theorem tdlsAutoFindPeer_writePeer_of_found {f : TdlsAutoPeer → TdlsAutoPeer}
    (keeps : ∀ p, (f p).addr = p.addr) (found : tdlsAutoFindPeer s addr = some peer) :
    tdlsAutoFindPeer (s.writePeer addr f) addr = some (f peer) := by
  rw [tdlsAutoFindPeer_writePeer_self keeps, found]
  rfl

/-- A write to one address is not seen by a lookup of another. -/
theorem tdlsAutoFindPeer_writePeer_other {f : TdlsAutoPeer → TdlsAutoPeer} {other : MacAddr}
    (keeps : ∀ p, (f p).addr = p.addr) (distinct : other ≠ addr) :
    tdlsAutoFindPeer (s.writePeer other f) addr = tdlsAutoFindPeer s addr := by
  unfold State.writePeer
  split
  · simp only [tdlsAutoFindPeer, List.find?_map]
    have same : ((fun p : TdlsAutoPeer => decide (p.addr = addr)) ∘
        fun p => if p.addr = other then f p else p) = fun p => decide (p.addr = addr) := by
      funext p
      by_cases here : p.addr = other
      · simp [here, keeps, Ne.symm distinct]
      · simp [here]
    rw [same]
    cases found : s.peers.find? (fun p => decide (p.addr = addr)) with
    | none => rfl
    | some p =>
      have hit : p.addr = addr := by simpa using List.find?_some found
      simp [hit, Ne.symm distinct]
  · rfl

end find

end TdlsAutoMode
