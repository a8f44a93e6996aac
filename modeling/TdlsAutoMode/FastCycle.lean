import TdlsAutoMode.RemovePeers

/-! # The fast-connect cycle winds down

`tdls_auto_fast_connect_timeout` tries every disconnected peer with at most
`TDLS_AUTO_MAX_FAST_CONN_ATTEMPTS` attempts, increments its count, and re-arms itself while it
tried one. Only a start (a new peer) and a disconnected report (`fast_attempts = 0`) give a
peer a new fast phase. So every peer has at most one attempt over the maximum, in every
reachable state (`FastAttemptsBounded`), which also bounds the `int` the model keeps as a
`Nat`.

Over a stretch of a run with neither, the passes a peer may still be tried
(`TdlsAutoPeer.fastBudget`) only go down: each re-arming pass spends one of every peer that
has one, and no other callback gives any back (`FastBudget.apply`). A `disconnect` that
re-enters the controller is a disconnected report, and the stretch has none
(`NoReentry`). The timeout therefore re-arms at most `TDLS_AUTO_MAX_FAST_CONN_ATTEMPTS + 1`
times (`tdlsAutoFastConnectTimeout_winds_down`).
-/

namespace TdlsAutoMode

/-- No tracked peer has more fast attempts than one over `TDLS_AUTO_MAX_FAST_CONN_ATTEMPTS`. -/
def FastAttemptsBounded (s : State) : Prop :=
  s.AllPeers fun p => p.fastAttempts ≤ tdlsAutoMaxFastConnAttempts + 1

/-- An iteration of the fast-connect pass keeps every address. -/
theorem addrs_tdlsAutoFastConnectStep (caps : Capabilities) (acc : State × Bool)
    (addr : MacAddr) : (tdlsAutoFastConnectStep caps acc addr).1.addrs = acc.1.addrs := by
  obtain same | ⟨-, same | same⟩ := tdlsAutoFastConnectStep_cases caps acc addr <;> simp [same]

namespace FastAttemptsBounded

variable {s : State}

theorem sample (inv : FastAttemptsBounded s) (caps : Capabilities) (addr : MacAddr) :
    FastAttemptsBounded (s.writePeer addr (tdlsAutoGetPeerDataRate caps)) :=
  State.AllPeers.writePeer inv addr fun p bound =>
    (fastAttempts_tdlsAutoGetPeerDataRate caps p).trans_le bound

theorem peerDisconnected (inv : FastAttemptsBounded s) (disconnect : MacAddr → State → State)
    (addr : MacAddr) : FastAttemptsBounded (tdlsAutoPeerDisconnected disconnect addr s) := by
  cases found : tdlsAutoFindPeer s addr with
  | none => simpa [tdlsAutoPeerDisconnected, found] using inv
  | some peer =>
    rw [tdlsAutoPeerDisconnected_of_found found]
    have idle := State.AllPeers.writePeer inv addr
      (f := fun p => { p with connected := false }) fun _ bound => bound
    dsimp only
    refine State.AllPeers.setConnPeerCount ?_ _
    split
    · exact idle.stopFree addr
    · exact (idle.writePeer addr (f := fun p => { p with lowRssiVals := 0, fastAttempts := 0 })
        fun _ _ => Nat.zero_le _).setTimer _

theorem disconnect (inv : FastAttemptsBounded s) (caps : Capabilities) (addr : MacAddr) :
    FastAttemptsBounded (caps.disconnect addr s) := by
  unfold Capabilities.disconnect
  split
  · exact peerDisconnected (State.AllPeers.logCall inv _) _ _
  · exact State.AllPeers.logCall inv _

theorem modeStop (inv : FastAttemptsBounded s) (caps : Capabilities) (addr : MacAddr) :
    FastAttemptsBounded (tdlsAutoModeStop caps.disconnect addr s) := by
  unfold tdlsAutoModeStop
  split
  · exact inv
  · split
    · exact State.AllPeers.stopFree (disconnect (State.AllPeers.writePeer inv addr
        (f := fun p => { p with incomingPeer := false }) fun _ bound => bound) caps addr) addr
    · exact State.AllPeers.stopFree inv addr

theorem modeStart (inv : FastAttemptsBounded s) (caps : Capabilities) (addr : MacAddr) :
    FastAttemptsBounded (tdlsAutoModeStart caps addr s).2 := by
  obtain same | same := tdlsAutoModeStart_cases caps addr s <;> rw [same]
  · exact inv
  · exact State.AllPeers.addPeer inv caps addr (Nat.zero_le _)

theorem peerConnectedFound (inv : FastAttemptsBounded s) (caps : Capabilities) (addr : MacAddr) :
    FastAttemptsBounded (tdlsAutoPeerConnectedFound caps addr s) := by
  have sampled := sample (State.AllPeers.writePeer inv addr
    (f := fun p => { p with connected := true }) fun _ bound => bound) caps addr
  unfold tdlsAutoPeerConnectedFound
  dsimp only
  split
  · exact (sampled.setTimer _).setTimer _
  · exact sampled.setTimer _

theorem peerConnected (inv : FastAttemptsBounded s) (caps : Capabilities) (addr : MacAddr) :
    FastAttemptsBounded (tdlsAutoPeerConnected caps addr s) := by
  have added := State.AllPeers.addPeer (State.AllPeers.setConnPeerCount inv
    (s.connPeerCount + 1)) caps addr (Nat.zero_le _)
  obtain ⟨-, same⟩ | ⟨-, -, same⟩ | ⟨-, -, same⟩ :=
    tdlsAutoPeerConnected_cases caps addr s <;>
    rw [same]
  · exact peerConnectedFound (State.AllPeers.setConnPeerCount inv _) caps addr
  · exact peerConnectedFound (State.AllPeers.writePeer added addr
      (f := fun p => { p with incomingPeer := true }) fun _ bound => bound) caps addr
  · exact added

theorem discoveryResponse (inv : FastAttemptsBounded s) (caps : Capabilities) (addr : MacAddr)
    (rssi : Int) : FastAttemptsBounded (tdlsAutoDiscoveryResponse caps addr rssi s) := by
  have heard := State.AllPeers.writePeer inv addr (f := fun p => { p with rssi := rssi })
    fun _ bound => bound
  obtain same | same | same | ⟨-, -, same⟩ :=
    tdlsAutoDiscoveryResponse_cases caps addr rssi s <;>
    rw [same]
  · exact inv
  · exact heard
  · exact sample heard caps addr
  · exact (sample heard caps addr).logCall _

theorem removePeers (caps : Capabilities) (killActiveLinks : Bool) :
    FastAttemptsBounded (tdlsAutoRemovePeers caps killActiveLinks s) := fun p member => by
  rw [tdlsAutoRemovePeers_peers] at member
  cases member

/-- The pass increments only counts that are at most the maximum. -/
theorem fastConnectStep {acc : State × Bool} (inv : FastAttemptsBounded acc.1)
    (nodup : acc.1.addrs.Nodup) (caps : Capabilities) (addr : MacAddr) :
    FastAttemptsBounded (tdlsAutoFastConnectStep caps acc addr).1 := by
  obtain same | ⟨⟨peer, found, -, fresh⟩, same | same⟩ :=
    tdlsAutoFastConnectStep_cases caps acc addr <;> rw [same]
  · exact inv
  · exact State.AllPeers.writePeer_of_found inv nodup found (by
      show (tdlsAutoGetPeerDataRate caps _).fastAttempts ≤ _
      rw [fastAttempts_tdlsAutoGetPeerDataRate]
      exact Nat.succ_le_succ fresh)
  · exact State.AllPeers.logCall (State.AllPeers.writePeer_of_found inv nodup found (by
      show (tdlsAutoGetPeerDataRate caps _).fastAttempts ≤ _
      rw [fastAttempts_tdlsAutoGetPeerDataRate]
      exact Nat.succ_le_succ fresh)) _

theorem slowConnectStep (inv : FastAttemptsBounded s) (caps : Capabilities) (addr : MacAddr) :
    FastAttemptsBounded (tdlsAutoSlowConnectStep caps s addr) := by
  obtain same | same | ⟨-, same⟩ := tdlsAutoSlowConnectStep_cases caps s addr <;> rw [same]
  · exact inv
  · exact inv.sample caps addr
  · exact (inv.sample caps addr).logCall _

theorem dataTeardownStep (inv : FastAttemptsBounded s) (caps : Capabilities) (addr : MacAddr) :
    FastAttemptsBounded (tdlsAutoDataTeardownStep caps s addr) := by
  obtain same | same | ⟨-, same⟩ := tdlsAutoDataTeardownStep_cases caps s addr <;> rw [same]
  · exact inv
  · exact inv.sample caps addr
  · exact (inv.sample caps addr).disconnect caps addr

theorem rssiTeardownStep (inv : FastAttemptsBounded s) (caps : Capabilities) (addr : MacAddr) :
    FastAttemptsBounded (tdlsAutoRssiTeardownStep caps s addr) := by
  have read := State.AllPeers.writePeer inv addr (f := tdlsAutoGetConnectedStaRssi caps)
    fun _ bound => bound
  have counted := State.AllPeers.writePeer read addr
    (f := fun p => { p with lowRssiVals := p.lowRssiVals + 1 }) fun _ bound => bound
  obtain same | same | same | ⟨-, same⟩ := tdlsAutoRssiTeardownStep_cases caps s addr <;>
    rw [same]
  · exact inv
  · exact State.AllPeers.writePeer read addr fun _ bound => bound
  · exact counted
  · exact State.AllPeers.writePeer (disconnect counted caps addr) addr fun _ bound => bound

theorem fireTimeout (inv : FastAttemptsBounded s) (registry : RegistryInv s) (caps : Capabilities)
    (handler : Handler) : FastAttemptsBounded (fireTimeout caps handler s) := by
  have cancelled : FastAttemptsBounded (tdlsAutoCancelTimer handler s) := inv
  cases handler
  · exact (tdlsAutoFastConnectTimeout_rec (s := tdlsAutoCancelTimer .fastConnect s)
      (motive := fun t => t.addrs = s.addrs ∧ FastAttemptsBounded t) ⟨rfl, cancelled⟩
      (fun acc addr ⟨same, inv⟩ => ⟨(addrs_tdlsAutoFastConnectStep caps acc addr).trans same,
        inv.fastConnectStep (same ▸ registry.addrs_nodup) caps addr⟩)
      fun _ held => held).2
  · exact tdlsAutoSlowConnectTimeout_rec cancelled
      (fun _ addr inv => inv.slowConnectStep caps addr)
      fun _ inv => inv
  · exact tdlsAutoDataTeardownTimeout_rec cancelled
      (fun _ addr inv => inv.dataTeardownStep caps addr) fun _ inv => inv
  · exact tdlsAutoRssiTeardownTimeout_rec cancelled
      (fun _ addr inv => inv.rssiTeardownStep caps addr) fun _ inv => inv

theorem apply (inv : FastAttemptsBounded s) (registry : RegistryInv s) (caps : Capabilities)
    (event : Event) : FastAttemptsBounded (event.apply caps s) := by
  cases event with
  | modeStart addr => exact inv.modeStart caps addr
  | modeStop addr => exact inv.modeStop caps addr
  | removePeers killActiveLinks => exact removePeers caps killActiveLinks
  | peerConnected addr => exact inv.peerConnected caps addr
  | peerDisconnected addr => exact inv.peerDisconnected _ addr
  | discoveryResponse addr rssi => exact inv.discoveryResponse caps addr rssi
  | timeout handler => exact inv.fireTimeout registry caps handler

/-- Together with the registry invariant, the bound holds of every reachable state. -/
theorem invariant : Invariant fun s => RegistryInv s ∧ FastAttemptsBounded s where
  init extn := ⟨RegistryInv.invariant.init extn, fun _ member => by cases member⟩
  step caps event _ inv _ := ⟨inv.1.apply caps event, inv.2.apply inv.1 caps event⟩

end FastAttemptsBounded

section calls

variable {s : State}

theorem calls_suffix_tdlsAutoPeerDisconnected (disconnect : MacAddr → State → State)
    (addr : MacAddr) : s.calls <:+ (tdlsAutoPeerDisconnected disconnect addr s).calls := by
  cases found : tdlsAutoFindPeer s addr with
  | none => simp [tdlsAutoPeerDisconnected, found]
  | some peer =>
    rw [tdlsAutoPeerDisconnected_of_found found]
    dsimp only
    split <;> simp

theorem Capabilities.calls_suffix_disconnect (caps : Capabilities) (addr : MacAddr) :
    s.calls <:+ (caps.disconnect addr s).calls := by
  unfold Capabilities.disconnect
  split
  · exact (List.suffix_cons _ _).trans
      (calls_suffix_tdlsAutoPeerDisconnected (s := logDisconnect addr s) _ _)
  · exact List.suffix_cons _ _

theorem calls_suffix_tdlsAutoDataTeardownStep (caps : Capabilities) (addr : MacAddr) :
    s.calls <:+ (tdlsAutoDataTeardownStep caps s addr).calls := by
  obtain same | same | ⟨-, same⟩ := tdlsAutoDataTeardownStep_cases caps s addr <;> rw [same]
  · simp
  · simpa using caps.calls_suffix_disconnect (s := s.writePeer addr _) addr

theorem calls_suffix_tdlsAutoRssiTeardownStep (caps : Capabilities) (addr : MacAddr) :
    s.calls <:+ (tdlsAutoRssiTeardownStep caps s addr).calls := by
  obtain same | same | same | ⟨-, same⟩ := tdlsAutoRssiTeardownStep_cases caps s addr <;>
    rw [same]
  · simp
  · simp
  · simpa using caps.calls_suffix_disconnect (s := (s.writePeer addr _).writePeer addr _) addr

end calls

/-- No `disconnected` event re-entered the controller between two call logs: when `disconnect`
re-enters, no `disconnect` was issued. -/
def NoReentry (caps : Capabilities) (before after : List Call) : Prop :=
  caps.disconnectReenters = true →
    ∀ addr, after.count (.disconnect addr) = before.count (.disconnect addr)

namespace NoReentry

variable {caps : Capabilities}

/-- Between two points of a growing log, each part has no re-entry when the whole has none. -/
theorem split {first second third : List Call} (grown : first <:+ second)
    (grown' : second <:+ third) (calm : NoReentry caps first third) :
    NoReentry caps first second ∧ NoReentry caps second third := by
  refine ⟨fun reenters addr => ?_, fun reenters addr => ?_⟩ <;>
  · have whole := calm reenters addr
    have low := grown.sublist.count_le (.disconnect addr)
    have high := grown'.sublist.count_le (.disconnect addr)
    omega

/-- A `disconnect` that re-entered nothing only logged its call. -/
theorem peers_disconnect {s t : State} {addr : MacAddr} (entry : t.calls = s.calls)
    (calm : NoReentry caps s.calls (caps.disconnect addr t).calls) :
    (caps.disconnect addr t).peers = t.peers := by
  cases reenters : caps.disconnectReenters
  · simp [Capabilities.disconnect, reenters, logDisconnect]
  · have grown := (calls_suffix_tdlsAutoPeerDisconnected (s := logDisconnect addr t)
      logDisconnect addr).sublist.count_le (.disconnect addr)
    have same := calm reenters addr
    simp only [Capabilities.disconnect, reenters, if_true, logDisconnect] at same
    simp only [logDisconnect, State.logCall_calls, List.count_cons_self, entry] at grown
    omega

end NoReentry

/-- The fast-connect passes that may still try the peer: none while it is connected, and
otherwise one for each attempt it has left. -/
def TdlsAutoPeer.fastBudget (p : TdlsAutoPeer) : Nat :=
  if p.connected then 0 else tdlsAutoMaxFastConnAttempts + 1 - p.fastAttempts

@[simp] theorem fastBudget_tdlsAutoGetPeerDataRate (caps : Capabilities) (p : TdlsAutoPeer) :
    (tdlsAutoGetPeerDataRate caps p).fastBudget = p.fastBudget := by
  simp [TdlsAutoPeer.fastBudget]

/-- No peer has more than `n` fast-connect passes left. -/
def FastBudget (n : Nat) (s : State) : Prop := s.AllPeers fun p => p.fastBudget ≤ n

namespace FastBudget

variable {n : Nat} {s : State}

/-- No peer ever has more passes left than a fresh one. -/
theorem max (s : State) : FastBudget (tdlsAutoMaxFastConnAttempts + 1) s := fun p _ => by
  show p.fastBudget ≤ _
  unfold TdlsAutoPeer.fastBudget
  split <;> omega

theorem sample (budget : FastBudget n s) (caps : Capabilities) (addr : MacAddr) :
    FastBudget n (s.writePeer addr (tdlsAutoGetPeerDataRate caps)) :=
  State.AllPeers.writePeer budget addr fun p bound => by rwa [fastBudget_tdlsAutoGetPeerDataRate]

theorem modeStop (budget : FastBudget n s) (registry : RegistryInv s) (caps : Capabilities)
    (addr : MacAddr) : FastBudget n (tdlsAutoModeStop caps.disconnect addr s) := by
  cases found : tdlsAutoFindPeer s addr with
  | none => rwa [tdlsAutoModeStop_of_untracked (tdlsAutoFindPeer_eq_none_iff.1 found)]
  | some peer =>
    refine State.AllPeers.of_sublist budget ?_
    rw [(tdlsAutoModeStop_of_found caps registry.addrs_nodup found).1]
    exact List.filter_sublist _

/-- A peer marked connected has no pass left, so the finishing part of a connected event
restores the budget of the peer it connects. -/
theorem peerConnectedFound {addr : MacAddr} (except : s.AllPeersExcept addr (·.fastBudget ≤ n))
    (caps : Capabilities) : FastBudget n (tdlsAutoPeerConnectedFound caps addr s) := by
  have marked := State.AllPeersExcept.writePeer_setting except
    (f := fun p => { p with connected := true }) fun _ _ => by simp [TdlsAutoPeer.fastBudget]
  have sampled := sample marked caps addr
  unfold tdlsAutoPeerConnectedFound
  dsimp only
  split
  · exact (sampled.setTimer _).setTimer _
  · exact sampled.setTimer _

theorem peerConnected (budget : FastBudget n s) (caps : Capabilities) (addr : MacAddr) :
    FastBudget n (tdlsAutoPeerConnected caps addr s) := by
  have counted := State.AllPeers.setConnPeerCount budget (s.connPeerCount + 1)
  obtain ⟨-, same⟩ | ⟨-, -, same⟩ | ⟨-, failed, same⟩ :=
    tdlsAutoPeerConnected_cases caps addr s <;> rw [same]
  · exact peerConnectedFound (counted.except addr) caps
  · exact peerConnectedFound ((counted.addPeer_except caps addr).writePeer
      (f := fun p => { p with incomingPeer := true }) fun _ => rfl) caps
  · exact counted.addPeer_of_failed failed

theorem discoveryResponse (budget : FastBudget n s) (caps : Capabilities) (addr : MacAddr)
    (rssi : Int) : FastBudget n (tdlsAutoDiscoveryResponse caps addr rssi s) := by
  have heard := State.AllPeers.writePeer budget addr (f := fun p => { p with rssi := rssi })
    fun _ bound => bound
  obtain same | same | same | ⟨-, -, same⟩ :=
    tdlsAutoDiscoveryResponse_cases caps addr rssi s <;>
    rw [same]
  · exact budget
  · exact heard
  · exact sample heard caps addr
  · exact (sample heard caps addr).logCall _

theorem removePeers (caps : Capabilities) (killActiveLinks : Bool) :
    FastBudget n (tdlsAutoRemovePeers caps killActiveLinks s) := fun p member => by
  rw [tdlsAutoRemovePeers_peers] at member
  cases member

theorem slowConnectTimeout (budget : FastBudget n s) (caps : Capabilities) :
    FastBudget n (tdlsAutoSlowConnectTimeout caps s) :=
  tdlsAutoSlowConnectTimeout_rec budget (fun t addr budget => by
    obtain same | same | ⟨-, same⟩ := tdlsAutoSlowConnectStep_cases caps t addr <;> rw [same]
    · exact budget
    · exact sample budget caps addr
    · exact (sample budget caps addr).logCall _) fun _ budget => budget

theorem dataTeardownStep (budget : FastBudget n s) (caps : Capabilities) (addr : MacAddr)
    (calm : NoReentry caps s.calls (tdlsAutoDataTeardownStep caps s addr).calls) :
    FastBudget n (tdlsAutoDataTeardownStep caps s addr) := by
  obtain same | same | ⟨-, same⟩ := tdlsAutoDataTeardownStep_cases caps s addr <;>
    rw [same] at calm ⊢
  · exact budget
  · exact sample budget caps addr
  · have kept := NoReentry.peers_disconnect (by simp) calm
    exact fun p member => sample budget caps addr p (kept ▸ member)

theorem mono {m : Nat} (budget : FastBudget m s) (le : m ≤ n) : FastBudget n s :=
  fun p member => (budget p member).trans le

theorem rssiTeardownStep (budget : FastBudget n s) (caps : Capabilities) (addr : MacAddr)
    (calm : NoReentry caps s.calls (tdlsAutoRssiTeardownStep caps s addr).calls) :
    FastBudget n (tdlsAutoRssiTeardownStep caps s addr) := by
  have read := State.AllPeers.writePeer budget addr (f := tdlsAutoGetConnectedStaRssi caps)
    fun _ bound => bound
  have counted := State.AllPeers.writePeer read addr
    (f := fun p => { p with lowRssiVals := p.lowRssiVals + 1 }) fun _ bound => bound
  obtain same | same | same | ⟨-, same⟩ := tdlsAutoRssiTeardownStep_cases caps s addr <;>
    rw [same] at calm ⊢
  · exact budget
  · exact State.AllPeers.writePeer read addr fun _ bound => bound
  · exact counted
  · rw [State.writePeer_calls] at calm
    have kept := NoReentry.peers_disconnect (by simp) calm
    exact State.AllPeers.writePeer (fun p member => counted p (kept ▸ member)) addr
      fun _ bound => bound

theorem dataTeardownTimeout (budget : FastBudget n s) (caps : Capabilities)
    (calm : NoReentry caps s.calls (tdlsAutoDataTeardownTimeout caps s).calls) :
    FastBudget n (tdlsAutoDataTeardownTimeout caps s) :=
  (tdlsAutoDataTeardownTimeout_rec
    (motive := fun t => s.calls <:+ t.calls ∧ (NoReentry caps s.calls t.calls → FastBudget n t))
    ⟨List.suffix_refl _, fun _ => budget⟩
    (fun t addr ⟨grown, holds⟩ =>
      have step := calls_suffix_tdlsAutoDataTeardownStep (s := t) caps addr
      ⟨grown.trans step, fun calm =>
        have parts := calm.split grown step
        dataTeardownStep (holds parts.1) caps addr parts.2⟩)
    fun _ held => held).2 calm

theorem rssiTeardownTimeout (budget : FastBudget n s) (caps : Capabilities)
    (calm : NoReentry caps s.calls (tdlsAutoRssiTeardownTimeout caps s).calls) :
    FastBudget n (tdlsAutoRssiTeardownTimeout caps s) :=
  (tdlsAutoRssiTeardownTimeout_rec
    (motive := fun t => s.calls <:+ t.calls ∧ (NoReentry caps s.calls t.calls → FastBudget n t))
    ⟨List.suffix_refl _, fun _ => budget⟩
    (fun t addr ⟨grown, holds⟩ =>
      have step := calls_suffix_tdlsAutoRssiTeardownStep (s := t) caps addr
      ⟨grown.trans step, fun calm =>
        have parts := calm.split grown step
        rssiTeardownStep (holds parts.1) caps addr parts.2⟩)
    fun _ held => held).2 calm

end FastBudget

section fastPass

variable (caps : Capabilities)

/-- After an iteration of the fast-connect pass at `addr`, the peer there has one pass fewer
left, or none, and every other peer is as it was. -/
theorem fastBudget_tdlsAutoFastConnectStep {acc : State × Bool} {addr : MacAddr}
    (nodup : acc.1.addrs.Nodup) {q : TdlsAutoPeer}
    (member : q ∈ (tdlsAutoFastConnectStep caps acc addr).1.peers) :
    ∃ p ∈ acc.1.peers, p.addr = q.addr ∧
      q.fastBudget ≤ if q.addr = addr then p.fastBudget - 1 else p.fastBudget := by
  unfold tdlsAutoFastConnectStep at member
  split at member
  · rename_i missing
    refine ⟨q, member, rfl, ?_⟩
    split_ifs with here
    · exact absurd (here ▸ List.mem_map_of_mem _ member) (tdlsAutoFindPeer_eq_none_iff.1 missing)
    · exact le_rfl
  · rename_i peer found
    have only : ∀ p ∈ acc.1.peers, p.addr = addr → p = peer := fun p member same =>
      eq_of_tdlsAutoFindPeer nodup found member same
    split_ifs at member with active exhausted
    · refine ⟨q, member, rfl, ?_⟩
      split_ifs with here
      · simp [only q member here, TdlsAutoPeer.fastBudget, active]
      · exact le_rfl
    · refine ⟨q, member, rfl, ?_⟩
      split_ifs with here
      · simp only [only q member here, TdlsAutoPeer.fastBudget, active, Bool.false_eq_true,
          ↓reduceIte]
        omega
      · exact le_rfl
    · have written : q ∈ (acc.1.writePeer addr fun p =>
          tdlsAutoGetPeerDataRate caps { p with fastAttempts := p.fastAttempts + 1 }).peers := by
        dsimp only at member
        split at member <;> exact member
      rw [State.writePeer_of_tracked (tracked_of_tdlsAutoFindPeer found)] at written
      obtain ⟨p, member', rfl⟩ := List.mem_map.1 written
      by_cases here : p.addr = addr
      · obtain rfl := only p member' here
        refine ⟨p, member', by simp [here], ?_⟩
        simp [here, TdlsAutoPeer.fastBudget, active]
        omega
      · exact ⟨p, member', by simp [here], by simp [here]⟩

/-- The fast-connect pass over distinct addresses leaves every peer it visited with one pass
fewer than the most any peer had, or none, and it re-arms only when some peer had one. -/
theorem fastBudget_foldl_tdlsAutoFastConnectStep (n : Nat) :
    ∀ (addrs : List MacAddr) (acc : State × Bool), acc.1.addrs.Nodup → addrs.Nodup →
      (∀ q ∈ acc.1.peers, q.fastBudget ≤ if q.addr ∈ addrs then n else n - 1) →
      (acc.2 = true → 1 ≤ n) →
      FastBudget (n - 1) (addrs.foldl (tdlsAutoFastConnectStep caps) acc).1 ∧
        ((addrs.foldl (tdlsAutoFastConnectStep caps) acc).2 = true → 1 ≤ n)
  | [], _, _, _, bounds, rearms => ⟨fun q member => by simpa using bounds q member, rearms⟩
  | addr :: rest, acc, nodup, distinct, bounds, rearms => by
    rw [List.foldl_cons]
    have fresh := (List.nodup_cons.1 distinct).1
    refine fastBudget_foldl_tdlsAutoFastConnectStep n rest _
      (by rwa [addrs_tdlsAutoFastConnectStep]) (List.nodup_cons.1 distinct).2 ?_ ?_
    · intro q member
      obtain ⟨p, member', same, spent⟩ := fastBudget_tdlsAutoFastConnectStep caps nodup member
      have before := bounds p member'
      rw [same] at before
      by_cases here : q.addr = addr
      · rw [if_pos here] at spent
        rw [if_pos (List.mem_cons.2 (.inl here))] at before
        rw [if_neg (here ▸ fresh)]
        omega
      · rw [if_neg here] at spent
        simp only [List.mem_cons, here, false_or] at before
        exact spent.trans before
    · obtain same | ⟨⟨peer, found, idle, eligible⟩, -⟩ :=
        tdlsAutoFastConnectStep_cases caps acc addr
      · rw [same]
        exact rearms
      · intro _
        have bound := bounds peer (mem_of_tdlsAutoFindPeer found).1
        rw [(mem_of_tdlsAutoFindPeer found).2, if_pos (List.mem_cons_self _ _)] at bound
        simp only [TdlsAutoPeer.fastBudget, idle, Bool.false_eq_true, ↓reduceIte] at bound
        omega

/-- Whether `tdls_auto_fast_connect_timeout` re-arms its timer: some peer was in its fast
phase during the pass (`peer_in_fast_connect`). -/
def tdlsAutoFastConnectRearms (s : State) : Bool :=
  (s.addrs.foldl (tdlsAutoFastConnectStep caps) (s, false)).2

/-- A fast-connect timeout leaves every peer with one pass fewer than the most any peer had,
or none, and re-arms only when some peer had one. -/
theorem FastBudget.fastConnectTimeout {n : Nat} {s : State} (budget : FastBudget n s)
    (nodup : s.addrs.Nodup) :
    FastBudget (n - 1) (tdlsAutoFastConnectTimeout caps s) ∧
      (tdlsAutoFastConnectRearms caps s = true → 1 ≤ n) := by
  obtain ⟨spent, rearms⟩ := fastBudget_foldl_tdlsAutoFastConnectStep caps n s.addrs (s, false)
    nodup nodup (fun q member => by
      have listed : q.addr ∈ s.addrs := List.mem_map_of_mem _ member
      rw [if_pos listed]
      exact budget q member) fun never => absurd never Bool.false_ne_true
  refine ⟨?_, rearms⟩
  unfold tdlsAutoFastConnectTimeout
  dsimp only
  split
  · exact spent
  · exact spent

end fastPass

/-- A start or a disconnected report: the callbacks that give a peer a new fast phase. -/
def Event.restartsFastPhase : Event → Bool
  | .modeStart _ | .peerDisconnected _ => true
  | _ => false

/-- One for a fast-connect timeout that re-arms its timer, zero for every other callback. -/
def Event.fastConnectRearms (caps : Capabilities) : Event → State → Nat
  | .timeout .fastConnect, s =>
    if tdlsAutoFastConnectRearms caps (tdlsAutoCancelTimer .fastConnect s) then 1 else 0
  | _, _ => 0

/-- A stretch of a run with no start and no disconnected event, direct or re-entered from
`disconnect`: every callback is enabled, is neither a start nor a disconnected report, and
issues no `disconnect` while `disconnect` re-enters the controller. -/
def QuietStretch : List (Capabilities × Event) → State → Prop
  | [], _ => True
  | (caps, event) :: rest, s =>
    event.Enabled s ∧ event.restartsFastPhase = false ∧
      NoReentry caps s.calls (event.apply caps s).calls ∧ QuietStretch rest (event.apply caps s)

/-- The fast-connect timeouts of a stretch that re-arm their timer. -/
def fastConnectRearms : List (Capabilities × Event) → State → Nat
  | [], _ => 0
  | (caps, event) :: rest, s =>
    event.fastConnectRearms caps s + fastConnectRearms rest (event.apply caps s)

/-- A callback of a quiet stretch spends one pass of the budget when it is a fast-connect
timeout that re-arms, which it does only with a pass left, and spends nothing otherwise. -/
theorem FastBudget.apply {n : Nat} {s : State} (budget : FastBudget n s) (registry : RegistryInv s)
    {caps : Capabilities} {event : Event} (restarts : event.restartsFastPhase = false)
    (calm : NoReentry caps s.calls (event.apply caps s).calls) :
    FastBudget (n - event.fastConnectRearms caps s) (event.apply caps s) ∧
      event.fastConnectRearms caps s ≤ n := by
  cases event with
  | modeStart => cases restarts
  | peerDisconnected => cases restarts
  | modeStop addr => exact ⟨budget.modeStop registry caps addr, Nat.zero_le _⟩
  | removePeers killActiveLinks => exact ⟨removePeers caps killActiveLinks, Nat.zero_le _⟩
  | peerConnected addr => exact ⟨budget.peerConnected caps addr, Nat.zero_le _⟩
  | discoveryResponse addr rssi =>
    exact ⟨budget.discoveryResponse caps addr rssi, Nat.zero_le _⟩
  | timeout handler =>
    cases handler
    · obtain ⟨spent, rearms⟩ := fastConnectTimeout caps
        (s := tdlsAutoCancelTimer .fastConnect s) budget registry.addrs_nodup
      simp only [Event.fastConnectRearms]
      split
      · exact ⟨spent, rearms ‹_›⟩
      · exact ⟨spent.mono (Nat.sub_le n 1), Nat.zero_le _⟩
    · exact ⟨slowConnectTimeout (s := tdlsAutoCancelTimer .slowConnect s) budget caps,
        Nat.zero_le _⟩
    · exact ⟨dataTeardownTimeout (s := tdlsAutoCancelTimer .dataTeardown s) budget caps calm,
        Nat.zero_le _⟩
    · exact ⟨rssiTeardownTimeout (s := tdlsAutoCancelTimer .rssiTeardown s) budget caps calm,
        Nat.zero_le _⟩

/-- Along a quiet stretch the fast-connect timeout re-arms at most as many times as the most
passes any peer has left on entry. -/
theorem fastConnectRearms_le_of_budget :
    ∀ (steps : List (Capabilities × Event)) {s : State} {n : Nat}, Reachable s →
      FastBudget n s → QuietStretch steps s → fastConnectRearms steps s ≤ n
  | [], _, _, _, _, _ => Nat.zero_le _
  | (caps, event) :: rest, s, n, reachable, budget, ⟨enabled, restarts, calm, stretch⟩ => by
    obtain ⟨after, spent⟩ :=
      budget.apply (RegistryInv.invariant.reachable reachable) restarts calm
    have later := fastConnectRearms_le_of_budget rest (reachable.step caps event enabled) after
      stretch
    simp only [fastConnectRearms]
    omega

/-- **The fast cycle winds down.** In every reachable state every peer has at most
`TDLS_AUTO_MAX_FAST_CONN_ATTEMPTS + 1` fast attempts, and along any stretch of the run with
no start and no disconnected event, direct or re-entered from `disconnect`, the fast-connect
timeout re-arms itself at most `TDLS_AUTO_MAX_FAST_CONN_ATTEMPTS + 1 = 21` times. -/
theorem tdlsAutoFastConnectTimeout_winds_down {s : State} (reachable : Reachable s) :
    (∀ p ∈ s.peers, p.fastAttempts ≤ tdlsAutoMaxFastConnAttempts + 1) ∧
      ∀ steps, QuietStretch steps s →
        fastConnectRearms steps s ≤ tdlsAutoMaxFastConnAttempts + 1 :=
  ⟨(FastAttemptsBounded.invariant.reachable reachable).2,
    fun steps quiet => fastConnectRearms_le_of_budget steps reachable (FastBudget.max s) quiet⟩

/-- After a start the bound holds of the new peer's fast cycle. -/
theorem tdlsAutoFastConnectTimeout_winds_down_after_start :
    let s := (Event.modeStart stationA).apply (.nominal false 0) (tdlsAutoInit scenarioConfig)
    Reachable s ∧ (∀ p ∈ s.peers, p.fastAttempts ≤ tdlsAutoMaxFastConnAttempts + 1) ∧
      ∀ steps, QuietStretch steps s →
        fastConnectRearms steps s ≤ tdlsAutoMaxFastConnAttempts + 1 :=
  have reachable := (Reachable.init scenarioConfig).step (.nominal false 0) (.modeStart stationA)
    trivial
  ⟨reachable, tdlsAutoFastConnectTimeout_winds_down reachable⟩

end TdlsAutoMode
