import TdlsAutoMode.Model.Run

/-! # Re-entry through the `disconnect` capability

`disconnect` may call `tdls_auto_peer_disconnected` for the same address before it
returns. The callback it re-enters clears `connected` before it stops an incoming peer, so
the stop frees the peer without a `disconnect` of its own
(`tdlsAutoPeerDisconnected_disconnect_irrel`), and `Capabilities.disconnect` is the
capability that calls itself back (`Capabilities.disconnect_unfold`).

`tdls_auto_mode_stop` clears `incoming_peer` before its `disconnect`, so the callback it
re-enters keeps the peer for the stop to free. The RSSI-teardown pass has no such guard:
after it disconnects an incoming peer it clears the bad-RSSI counter through the pointer
the re-entered callback has freed (`rssiTeardown_writes_freed_peer`).
-/

namespace TdlsAutoMode

section stop

variable {disconnect : MacAddr → State → State} {addr : MacAddr} {s : State}
  {peer : TdlsAutoPeer}

/-- Stopping a disconnected peer frees it and issues no `disconnect`. -/
theorem tdlsAutoModeStop_of_idle (found : tdlsAutoFindPeer s addr = some peer)
    (idle : peer.connected = false) :
    tdlsAutoModeStop disconnect addr s = tdlsAutoModeStopFree addr s := by
  simp [tdlsAutoModeStop, found, idle]

/-- Stopping a connected peer makes it outgoing and disconnects it before freeing it. -/
theorem tdlsAutoModeStop_of_active (found : tdlsAutoFindPeer s addr = some peer)
    (active : peer.connected = true) :
    tdlsAutoModeStop disconnect addr s =
      tdlsAutoModeStopFree addr
        (disconnect addr (s.writePeer addr fun p => { p with incomingPeer := false })) := by
  simp [tdlsAutoModeStop, found, active]

@[simp] theorem tdlsAutoModeStop_of_untracked (untracked : ¬ s.Tracked addr) :
    tdlsAutoModeStop disconnect addr s = s := by
  simp [tdlsAutoModeStop, tdlsAutoFindPeer_eq_none_iff.2 untracked]

end stop

section disconnected

variable {disconnect : MacAddr → State → State} {addr : MacAddr} {s : State}
  {peer : TdlsAutoPeer}

/-- `tdls_auto_peer_disconnected` once its peer is found: the stop of an incoming peer
frees it without a `disconnect`. -/
theorem tdlsAutoPeerDisconnected_of_found (found : tdlsAutoFindPeer s addr = some peer) :
    tdlsAutoPeerDisconnected disconnect addr s =
      let s := s.writePeer addr fun p => { p with connected := false }
      let s :=
        if peer.incomingPeer then tdlsAutoModeStopFree addr s
        else
          tdlsAutoSetTimer .fastConnect
            (s.writePeer addr fun p => { p with lowRssiVals := 0, fastAttempts := 0 })
      s.setConnPeerCount (s.connPeerCount - 1) := by
  have idle : tdlsAutoFindPeer (s.writePeer addr fun p => { p with connected := false }) addr =
      some { peer with connected := false } :=
    tdlsAutoFindPeer_writePeer_of_found (fun _ => rfl) found
  simp only [tdlsAutoPeerDisconnected, found]
  split_ifs
  · rw [tdlsAutoModeStop_of_idle idle rfl]
  · rfl

@[simp] theorem tdlsAutoPeerDisconnected_of_untracked (untracked : ¬ s.Tracked addr) :
    tdlsAutoPeerDisconnected disconnect addr s = s := by
  simp [tdlsAutoPeerDisconnected, tdlsAutoFindPeer_eq_none_iff.2 untracked]

/-- The `disconnect` capability a re-entered callback receives is never called. -/
theorem tdlsAutoPeerDisconnected_disconnect_irrel (disconnect' : MacAddr → State → State) :
    tdlsAutoPeerDisconnected disconnect addr s = tdlsAutoPeerDisconnected disconnect' addr s := by
  cases found : tdlsAutoFindPeer s addr with
  | none => simp [tdlsAutoPeerDisconnected, found]
  | some peer =>
    rw [tdlsAutoPeerDisconnected_of_found found, tdlsAutoPeerDisconnected_of_found found]

end disconnected

/-- `Capabilities.disconnect` is the capability that calls itself back: when the driver
re-enters, `tdls_auto_peer_disconnected` runs with this same capability. -/
theorem Capabilities.disconnect_unfold (caps : Capabilities) (addr : MacAddr) (s : State) :
    caps.disconnect addr s =
      if caps.disconnectReenters then
        tdlsAutoPeerDisconnected caps.disconnect addr (logDisconnect addr s)
      else logDisconnect addr s := by
  unfold Capabilities.disconnect
  split_ifs
  · exact tdlsAutoPeerDisconnected_disconnect_irrel _
  · rfl

/-- **The RSSI-teardown pass writes to a freed peer.** The spec's RSSI scenario with an
incoming peer and a driver that re-enters: on the third reading below -75 dBm the pass
disconnects the peer, the re-entered callback frees it, and the pass then clears the
counter through the dangling pointer. -/
theorem rssiTeardown_writes_freed_peer :
    Reachable (runEvents [(.nominal true (-80), .peerConnected stationA),
        (.nominal true (-80), .timeout .rssiTeardown), (.nominal true (-80), .timeout .rssiTeardown)]
        (tdlsAutoInit scenarioConfig)) ∧
      (runEvents [(.nominal true (-80), .peerConnected stationA),
        (.nominal true (-80), .timeout .rssiTeardown), (.nominal true (-80), .timeout .rssiTeardown)]
        (tdlsAutoInit scenarioConfig)).freedWrites = [] ∧
      (runEvents [(.nominal true (-80), .peerConnected stationA),
        (.nominal true (-80), .timeout .rssiTeardown), (.nominal true (-80), .timeout .rssiTeardown),
        (.nominal true (-80), .timeout .rssiTeardown)]
        (tdlsAutoInit scenarioConfig)).freedWrites = [stationA] :=
  ⟨(Reachable.init _).runEvents (by decide), by decide, by decide⟩

end TdlsAutoMode
