import TdlsAutoMode.Model.Basic

/-! # Rate and RSSI sampling

`tdls_auto_get_peer_data_rate` and `tdls_auto_get_connected_sta_rssi` as functions of the
peer record: the C code writes nothing but the fields of the peer it is given. The byte
counters and the rate are `u32`, and their arithmetic wraps as the C code's does.
-/

namespace TdlsAutoMode

/-- `os_reltime_sub` (`utils/os.h`, not under src/): the time from `b` to `a`, the
microseconds borrowed from the seconds when negative. -/
def osReltimeSub (a b : OsReltime) : OsReltime :=
  if a.usec - b.usec < 0 then ⟨a.sec - b.sec - 1, a.usec - b.usec + 1000000⟩
  else ⟨a.sec - b.sec, a.usec - b.usec⟩

/-- `delta_msec = diff.sec * 1000 + diff.usec / 1000`, stored in an `int`: C division
truncates, and the store keeps the value modulo 2^32 in two's complement. -/
def deltaMsec (diff : OsReltime) : Int :=
  Int.bmod (diff.sec * 1000 + diff.usec.tdiv 1000) (2 ^ 32)

/-- `tdls_auto_get_peer_data_rate`: a sample taken less than
`TDLS_AUTO_MIN_SAMPLE_TIME_DIFF_MSEC` after the last one changes nothing; a failed
`get_sta_bytes` zeroes the rate; otherwise the counters' wrapped differences give the
rate, divided by the interval before the multiplication by 1000. -/
def tdlsAutoGetPeerDataRate (caps : Capabilities) (peer : TdlsAutoPeer) : TdlsAutoPeer :=
  let delta := deltaMsec (osReltimeSub caps.now peer.lastQueryTime)
  if delta < tdlsAutoMinSampleTimeDiffMsec then peer
  else
    match caps.getStaBytes peer.addr with
    | none => { peer with dataRate := 0 }
    | some (txBytes, rxBytes) =>
      let deltaBits := (rxBytes - peer.lastRxBytes) * 8 + (txBytes - peer.lastTxBytes) * 8
      { peer with
        lastRxBytes := rxBytes
        lastTxBytes := txBytes
        lastQueryTime := caps.now
        dataRate := deltaBits / UInt32.ofNat delta.toNat * 1000 }

/-- `tdls_auto_get_connected_sta_rssi`. -/
def tdlsAutoGetConnectedStaRssi (caps : Capabilities) (peer : TdlsAutoPeer) : TdlsAutoPeer :=
  { peer with rssi := caps.getRssi peer.addr }

/-- Sampling keeps every field but the rate, the counters and the sample time. -/
theorem tdlsAutoGetPeerDataRate_eq (caps : Capabilities) (peer : TdlsAutoPeer) :
    ∃ dataRate lastRxBytes lastTxBytes lastQueryTime,
      tdlsAutoGetPeerDataRate caps peer =
        { peer with dataRate, lastRxBytes, lastTxBytes, lastQueryTime } := by
  unfold tdlsAutoGetPeerDataRate
  dsimp only
  split_ifs
  · exact ⟨_, _, _, _, rfl⟩
  · split <;> exact ⟨_, _, _, _, rfl⟩

@[simp] theorem addr_tdlsAutoGetPeerDataRate (caps : Capabilities) (peer : TdlsAutoPeer) :
    (tdlsAutoGetPeerDataRate caps peer).addr = peer.addr := by
  obtain ⟨_, _, _, _, sample⟩ := tdlsAutoGetPeerDataRate_eq caps peer
  rw [sample]

@[simp] theorem connected_tdlsAutoGetPeerDataRate (caps : Capabilities) (peer : TdlsAutoPeer) :
    (tdlsAutoGetPeerDataRate caps peer).connected = peer.connected := by
  obtain ⟨_, _, _, _, sample⟩ := tdlsAutoGetPeerDataRate_eq caps peer
  rw [sample]

@[simp] theorem incomingPeer_tdlsAutoGetPeerDataRate (caps : Capabilities)
    (peer : TdlsAutoPeer) :
    (tdlsAutoGetPeerDataRate caps peer).incomingPeer = peer.incomingPeer := by
  obtain ⟨_, _, _, _, sample⟩ := tdlsAutoGetPeerDataRate_eq caps peer
  rw [sample]

@[simp] theorem fastAttempts_tdlsAutoGetPeerDataRate (caps : Capabilities)
    (peer : TdlsAutoPeer) :
    (tdlsAutoGetPeerDataRate caps peer).fastAttempts = peer.fastAttempts := by
  obtain ⟨_, _, _, _, sample⟩ := tdlsAutoGetPeerDataRate_eq caps peer
  rw [sample]

@[simp] theorem lowRssiVals_tdlsAutoGetPeerDataRate (caps : Capabilities)
    (peer : TdlsAutoPeer) :
    (tdlsAutoGetPeerDataRate caps peer).lowRssiVals = peer.lowRssiVals := by
  obtain ⟨_, _, _, _, sample⟩ := tdlsAutoGetPeerDataRate_eq caps peer
  rw [sample]

@[simp] theorem rssi_tdlsAutoGetPeerDataRate (caps : Capabilities) (peer : TdlsAutoPeer) :
    (tdlsAutoGetPeerDataRate caps peer).rssi = peer.rssi := by
  obtain ⟨_, _, _, _, sample⟩ := tdlsAutoGetPeerDataRate_eq caps peer
  rw [sample]

end TdlsAutoMode
