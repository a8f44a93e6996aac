import TdlsAutoMode.Model.Registry

/-! # The four timer handlers

`tdls_auto_fast_connect_timeout`, `tdls_auto_slow_connect_timeout`,
`tdls_auto_data_teardown_timeout` and `tdls_auto_rssi_teardown_timeout`. Each walks the
list with `dl_list_for_each_safe`: it visits the peers present on entry, in order, and
only the peer being visited may be removed meanwhile (a re-entered disconnect of an
incoming peer). A pass is a fold over the addresses on entry; each iteration looks its
peer up, as the pointer it holds would find it.
-/

namespace TdlsAutoMode

/-- One iteration of `tdls_auto_fast_connect_timeout`; the flag records that some peer
was in the fast phase. -/
def tdlsAutoFastConnectStep (caps : Capabilities) (acc : State × Bool) (addr : MacAddr) :
    State × Bool :=
  match tdlsAutoFindPeer acc.1 addr with
  | none => acc
  | some peer =>
    if peer.connected then acc
    else if peer.fastAttempts > tdlsAutoMaxFastConnAttempts then acc
    else
      let sampled := tdlsAutoGetPeerDataRate caps { peer with fastAttempts := peer.fastAttempts + 1 }
      let s := acc.1.writePeer addr fun p =>
        tdlsAutoGetPeerDataRate caps { p with fastAttempts := p.fastAttempts + 1 }
      (if sampled.dataRate < s.extn.tdlsAutoDataConnectThreshold then s
        else s.logCall (.sendDiscovery addr), true)

/-- `tdls_auto_fast_connect_timeout`: re-armed iff some peer was in the fast phase. -/
def tdlsAutoFastConnectTimeout (caps : Capabilities) (s : State) : State :=
  let pass := s.addrs.foldl (tdlsAutoFastConnectStep caps) (s, false)
  if pass.2 then tdlsAutoSetTimer .fastConnect pass.1 else pass.1

/-- One iteration of `tdls_auto_slow_connect_timeout`. -/
def tdlsAutoSlowConnectStep (caps : Capabilities) (s : State) (addr : MacAddr) : State :=
  match tdlsAutoFindPeer s addr with
  | none => s
  | some peer =>
    if peer.connected then s
    else if peer.fastAttempts ≤ tdlsAutoMaxFastConnAttempts then s
    else
      let sampled := tdlsAutoGetPeerDataRate caps peer
      let s := s.writePeer addr (tdlsAutoGetPeerDataRate caps)
      if sampled.dataRate < s.extn.tdlsAutoDataConnectThreshold then s
      else s.logCall (.sendDiscovery addr)

/-- `tdls_auto_slow_connect_timeout`: re-armed iff some peer is counted. -/
def tdlsAutoSlowConnectTimeout (caps : Capabilities) (s : State) : State :=
  let s := s.addrs.foldl (tdlsAutoSlowConnectStep caps) s
  if s.peerCount = 0 then s else tdlsAutoSetTimer .slowConnect s

/-- One iteration of `tdls_auto_data_teardown_timeout`. -/
def tdlsAutoDataTeardownStep (caps : Capabilities) (s : State) (addr : MacAddr) : State :=
  match tdlsAutoFindPeer s addr with
  | none => s
  | some peer =>
    if !peer.connected then s
    else
      let sampled := tdlsAutoGetPeerDataRate caps peer
      let s := s.writePeer addr (tdlsAutoGetPeerDataRate caps)
      if sampled.dataRate ≥ s.extn.tdlsAutoDataTeardownThreshold then s
      else caps.disconnect addr s

/-- `tdls_auto_data_teardown_timeout`: re-armed iff some peer is counted as connected
after the pass. -/
def tdlsAutoDataTeardownTimeout (caps : Capabilities) (s : State) : State :=
  let s := s.addrs.foldl (tdlsAutoDataTeardownStep caps) s
  if s.connPeerCount = 0 then s else tdlsAutoSetTimer .dataTeardown s

/-- One iteration of `tdls_auto_rssi_teardown_timeout`. After a teardown the counter is
cleared through the pointer the loop holds, which the re-entered disconnect may have
freed. -/
def tdlsAutoRssiTeardownStep (caps : Capabilities) (s : State) (addr : MacAddr) : State :=
  match tdlsAutoFindPeer s addr with
  | none => s
  | some peer =>
    if !peer.connected then s
    else
      let rssi := (tdlsAutoGetConnectedStaRssi caps peer).rssi
      let s := s.writePeer addr (tdlsAutoGetConnectedStaRssi caps)
      if rssi ≥ s.extn.tdlsAutoRssiTeardownThreshold then
        s.writePeer addr fun p => { p with lowRssiVals := 0 }
      else
        let lowRssiVals := peer.lowRssiVals + 1
        let s := s.writePeer addr fun p => { p with lowRssiVals := p.lowRssiVals + 1 }
        if lowRssiVals ≤ s.extn.tdlsAutoRssiTeardownCount then s
        else (caps.disconnect addr s).writePeer addr fun p => { p with lowRssiVals := 0 }

/-- `tdls_auto_rssi_teardown_timeout`: re-armed iff some peer is counted as connected
after the pass. -/
def tdlsAutoRssiTeardownTimeout (caps : Capabilities) (s : State) : State :=
  let s := s.addrs.foldl (tdlsAutoRssiTeardownStep caps) s
  if s.connPeerCount = 0 then s else tdlsAutoSetTimer .rssiTeardown s

/-- The handler registered for each timer. -/
def Handler.run (caps : Capabilities) : Handler → State → State
  | .fastConnect => tdlsAutoFastConnectTimeout caps
  | .slowConnect => tdlsAutoSlowConnectTimeout caps
  | .dataTeardown => tdlsAutoDataTeardownTimeout caps
  | .rssiTeardown => tdlsAutoRssiTeardownTimeout caps

end TdlsAutoMode
