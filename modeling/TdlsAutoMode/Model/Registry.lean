import TdlsAutoMode.Model.State
import TdlsAutoMode.Model.Sample

/-! # The public operations of the peer registry

`tdls_auto_mode_start`, `tdls_auto_mode_stop`, `tdls_auto_peer_connected`,
`tdls_auto_peer_disconnected`, `tdls_auto_discovery_response`, `tdls_auto_remove_peers`
and their helpers, each as the state transformer its C body is.

`disconnect` may call back into `tdls_auto_peer_disconnected` before it returns, which
may call `tdls_auto_mode_stop`, which calls `disconnect`. The two operations therefore
take the `disconnect` capability as an argument, and `Capabilities.disconnect` ties the
knot: the callback it re-enters never reaches a `disconnect` of its own, because it
clears `connected` before it stops the peer
(`tdlsAutoPeerDisconnected_disconnect_irrel` in the module on re-entry).

The `ctx == NULL` branches are left out: every operation below runs on a live controller.
-/

namespace TdlsAutoMode

/-- `tdls_auto_peer_add_to_list`: `none` when `os_zalloc` fails; otherwise the zeroed
record with the address is put at the head of the list and counted. -/
def tdlsAutoPeerAddToList (caps : Capabilities) (addr : MacAddr) (s : State) :
    Option State :=
  if caps.zallocSucceeds then
    some { s with peers := TdlsAutoPeer.zalloc addr :: s.peers, peerCount := s.peerCount + 1 }
  else none

/-- `tdls_auto_add_peer`: the state after the call and whether a peer was added. The
stale accounting entry is dropped first; the fast-connect timer is (re)armed for every
new peer and the slow-connect timer when it is the only one. -/
def tdlsAutoAddPeer (caps : Capabilities) (addr : MacAddr) (s : State) : State × Bool :=
  let s := (s.monitorTrafficDel addr).monitorTrafficAdd caps addr
  if caps.monitorTraffic addr true ≠ 0 then (s, false)
  else
    match tdlsAutoPeerAddToList caps addr s with
    | none => (s.monitorTrafficDel addr, false)
    | some s =>
      let s := tdlsAutoSetTimer .fastConnect s
      (if s.peerCount = 1 then tdlsAutoSetTimer .slowConnect s else s, true)

/-- `tdls_auto_mode_start`: the return value and the state. An address already tracked
is left as it is. -/
def tdlsAutoModeStart (caps : Capabilities) (addr : MacAddr) (s : State) : Int × State :=
  match tdlsAutoFindPeer s addr with
  | some _ => (0, s)
  | none =>
    match tdlsAutoAddPeer caps addr s with
    | (s, true) => (0, s)
    | (s, false) => (-1, s)

/-- `tdls_auto_peer_free`: drop the accounting entry, unlink the record, uncount it. -/
def tdlsAutoPeerFree (addr : MacAddr) (s : State) : State :=
  let s := s.monitorTrafficDel addr
  { s with peers := s.peers.eraseP (·.addr = addr), peerCount := s.peerCount - 1 }

/-- The end of `tdls_auto_mode_stop`: free the peer, and cancel both connect timers when
it was the last one counted. -/
def tdlsAutoModeStopFree (addr : MacAddr) (s : State) : State :=
  let s := tdlsAutoPeerFree addr s
  if s.peerCount = 0 then tdlsAutoCancelTimer .slowConnect (tdlsAutoCancelTimer .fastConnect s)
  else s

/-- `tdls_auto_mode_stop`: a connected peer is made outgoing and disconnected before it
is freed. -/
def tdlsAutoModeStop (disconnect : MacAddr → State → State) (addr : MacAddr) (s : State) :
    State :=
  match tdlsAutoFindPeer s addr with
  | none => s
  | some peer =>
    tdlsAutoModeStopFree addr
      (if peer.connected then
        disconnect addr (s.writePeer addr fun p => { p with incomingPeer := false })
      else s)

/-- `tdls_auto_peer_disconnected`: an incoming peer stops being tracked; an outgoing one
has its counters cleared and gets an immediate fast-connect attempt. The connected-peer
count is decremented in both cases. -/
def tdlsAutoPeerDisconnected (disconnect : MacAddr → State → State) (addr : MacAddr)
    (s : State) : State :=
  match tdlsAutoFindPeer s addr with
  | none => s
  | some peer =>
    let s := s.writePeer addr fun p => { p with connected := false }
    let s :=
      if peer.incomingPeer then tdlsAutoModeStop disconnect addr s
      else
        tdlsAutoSetTimer .fastConnect
          (s.writePeer addr fun p => { p with lowRssiVals := 0, fastAttempts := 0 })
    s.setConnPeerCount (s.connPeerCount - 1)

/-- The `disconnect` capability when it does not call back: the call is only issued. -/
def logDisconnect (addr : MacAddr) (s : State) : State := s.logCall (.disconnect addr)

/-- The `disconnect` capability of a callback: the call, followed, when the driver
re-enters, by `tdls_auto_peer_disconnected` for the same address before it returns. -/
def Capabilities.disconnect (caps : Capabilities) (addr : MacAddr) (s : State) : State :=
  if caps.disconnectReenters then tdlsAutoPeerDisconnected logDisconnect addr (logDisconnect addr s)
  else logDisconnect addr s

/-- The part of `tdls_auto_peer_connected` after the peer is found or created: mark it
connected, take the initial rate sample, reset the data-teardown timer, and arm the
RSSI-teardown timer on the first connected peer. -/
def tdlsAutoPeerConnectedFound (caps : Capabilities) (addr : MacAddr) (s : State) : State :=
  let s := s.writePeer addr fun p => { p with connected := true }
  let s := s.writePeer addr (tdlsAutoGetPeerDataRate caps)
  let s := tdlsAutoSetTimer .dataTeardown s
  if s.connPeerCount = 1 then tdlsAutoSetTimer .rssiTeardown s else s

/-- `tdls_auto_peer_connected`: the connected-peer count is incremented first; an
unknown address becomes an incoming peer, and when it cannot be added the call ends
there. -/
def tdlsAutoPeerConnected (caps : Capabilities) (addr : MacAddr) (s : State) : State :=
  let s := s.setConnPeerCount (s.connPeerCount + 1)
  match tdlsAutoFindPeer s addr with
  | some _ => tdlsAutoPeerConnectedFound caps addr s
  | none =>
    match tdlsAutoAddPeer caps addr s with
    | (s, true) =>
      tdlsAutoPeerConnectedFound caps addr (s.writePeer addr fun p => { p with incomingPeer := true })
    | (s, false) => s

/-- `tdls_auto_discovery_response`: record the RSSI of a tracked peer, and connect when it
is disconnected, its RSSI is above the connect threshold, its rate reaches the connect
threshold and fewer than the maximum number of peers are counted as connected. -/
def tdlsAutoDiscoveryResponse (caps : Capabilities) (addr : MacAddr) (rssi : Int)
    (s : State) : State :=
  match tdlsAutoFindPeer s addr with
  | none => s
  | some peer =>
    let s := s.writePeer addr fun p => { p with rssi := rssi }
    if peer.connected then s
    else if rssi ≤ s.extn.tdlsAutoRssiConnectThreshold then s
    else
      let sampled := tdlsAutoGetPeerDataRate caps { peer with rssi := rssi }
      let s := s.writePeer addr (tdlsAutoGetPeerDataRate caps)
      if sampled.dataRate < s.extn.tdlsAutoDataConnectThreshold then s
      else if s.connPeerCount ≥ s.extn.tdlsAutoMaxConnectedPeers then s
      else s.logCall (.connect addr)

/-- One iteration of `tdls_auto_remove_peers`. -/
def tdlsAutoRemovePeersStep (caps : Capabilities) (killActiveLinks : Bool) (s : State)
    (addr : MacAddr) : State :=
  tdlsAutoModeStop caps.disconnect addr
    (if killActiveLinks then s else s.writePeer addr fun p => { p with connected := false })

/-- `tdls_auto_remove_peers`: stop every peer of the list as it was on entry; unless
active links are to be killed, each is first marked disconnected, so that stopping it
issues no teardown. -/
def tdlsAutoRemovePeers (caps : Capabilities) (killActiveLinks : Bool) (s : State) : State :=
  s.addrs.foldl (tdlsAutoRemovePeersStep caps killActiveLinks) s

/-- `tdls_auto_init`: an empty registry bound to the configuration, with no timer
registered, an empty driver peer cache and no call issued yet. -/
def tdlsAutoInit (extn : WpasTdlsAutoCtx) : State where
  peers := []
  peerCount := 0
  connPeerCount := 0
  extn := extn
  pending := fun _ => false
  peerCache := []
  calls := []
  freedWrites := []

/-- `tdls_auto_deinit`: remove every peer without killing links, then free the
controller. What the result keeps beyond the freed record is the event loop's and the
driver's state. -/
def tdlsAutoDeinit (caps : Capabilities) (s : State) : State :=
  tdlsAutoRemovePeers caps false s

end TdlsAutoMode
