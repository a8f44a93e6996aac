import Mathlib.Data.Fintype.Basic
import Mathlib.Tactic.DeriveFintype

/-! # Peers, configuration and capabilities of TDLS auto-mode

The records of `tdls_auto_mode.c` and `tdls_auto_mode.h`: a tracked peer
(`struct tdls_auto_peer`), the configuration half of `struct wpas_tdls_auto_ctx`,
and what the other half, its capability function pointers, answers during one
callback of the event loop (`Capabilities`).

C integer types are kept: `u32` and `unsigned int` fields are `UInt32`, so that
their wrap-around is the model's; `int` fields that only ever hold small values
are `Int` or, when they never go negative, `Nat`.
-/

namespace TdlsAutoMode

/-- A station address, `u8 addr[ETH_ALEN]`: six raw bytes. -/
structure MacAddr where
  bytes : List UInt8
  length_bytes : bytes.length = 6
  deriving DecidableEq

/-- `struct os_reltime`: a monotonic time in seconds and microseconds (`os_time_t`). -/
structure OsReltime where
  sec : Int
  usec : Int
  deriving DecidableEq

/-- `TDLS_AUTO_MAX_FAST_CONN_ATTEMPTS`: fast-cycle attempts before the slow cycle. -/
def tdlsAutoMaxFastConnAttempts : Nat := 20

/-- `TDLS_AUTO_MIN_SAMPLE_TIME_DIFF_MSEC`: the shortest interval between rate samples. -/
def tdlsAutoMinSampleTimeDiffMsec : Int := 100

/-- `struct tdls_auto_peer`, without its list links: the registry is a list.

`fast_attempts` is an `int` that is zeroed on allocation, only incremented while at
most `TDLS_AUTO_MAX_FAST_CONN_ATTEMPTS` and reset to zero, so it is a `Nat` here. -/
structure TdlsAutoPeer where
  addr : MacAddr
  connected : Bool
  rssi : Int
  lowRssiVals : UInt32
  fastAttempts : Nat
  dataRate : UInt32
  lastQueryTime : OsReltime
  lastRxBytes : UInt32
  lastTxBytes : UInt32
  incomingPeer : Bool
  deriving DecidableEq

/-- The record `os_zalloc` returns in `tdls_auto_peer_add_to_list`, with `addr` copied in. -/
def TdlsAutoPeer.zalloc (addr : MacAddr) : TdlsAutoPeer where
  addr := addr
  connected := false
  rssi := 0
  lowRssiVals := 0
  fastAttempts := 0
  dataRate := 0
  lastQueryTime := ⟨0, 0⟩
  lastRxBytes := 0
  lastTxBytes := 0
  incomingPeer := false

/-- The configuration fields of `struct wpas_tdls_auto_ctx`, copied from the
supplicant configuration by `wpas_tdls_auto_init`. -/
structure WpasTdlsAutoCtx where
  tdlsAutoRssiConnectThreshold : Int
  tdlsAutoDataConnectThreshold : UInt32
  tdlsAutoFastConnectPeriod : UInt32
  tdlsAutoSlowConnectPeriod : UInt32
  tdlsAutoDataTeardownThreshold : UInt32
  tdlsAutoDataTeardownPeriod : UInt32
  tdlsAutoRssiTeardownThreshold : Int
  tdlsAutoRssiTeardownPeriod : UInt32
  tdlsAutoRssiTeardownCount : UInt32
  tdlsAutoMaxConnectedPeers : UInt32
  deriving DecidableEq

/-- What the capability set of `struct wpas_tdls_auto_ctx` and the clock answer during
one callback of the event loop.

Every reading is a function of the peer address: a callback queries each address at
most once. `disconnectReenters` chooses the model of `disconnect`: the header allows it
to "return back to this layer via the `tdls_auto_peer_disconnected` callback" before it
returns. The return value of `connect` is only logged, and `get_rssi` already folds its
failure into the value `-102`. -/
structure Capabilities where
  monitorTraffic : MacAddr → Bool → Int
  getStaBytes : MacAddr → Option (UInt32 × UInt32)
  getRssi : MacAddr → Int
  connect : MacAddr → Int
  disconnectReenters : Bool
  zallocSucceeds : Bool
  now : OsReltime

/-- The four `eloop_timeout_handler`s the controller registers. -/
inductive Handler
  | fastConnect
  | slowConnect
  | dataTeardown
  | rssiTeardown
  deriving DecidableEq, Fintype

/-- A capability call with an effect on the driver, as the controller issues it. -/
inductive Call
  | connect (addr : MacAddr)
  | disconnect (addr : MacAddr)
  | sendDiscovery (addr : MacAddr)
  | monitorTraffic (addr : MacAddr) (add : Bool)
  deriving DecidableEq

theorem uint32_toNat_add_one (c : UInt32) : (c + 1).toNat = (c.toNat + 1) % 2 ^ 32 := by
  show (c.toBitVec + 1#32).toNat = _
  rw [BitVec.toNat_add]
  rfl

/-- Decrementing wraps zero around to `2^32 - 1`. -/
theorem uint32_toNat_sub_one (c : UInt32) :
    (c - 1).toNat = (c.toNat + (2 ^ 32 - 1)) % 2 ^ 32 := by
  show (c.toBitVec - 1#32).toNat = _
  rw [BitVec.toNat_sub]
  show (2 ^ 32 - 1 % 2 ^ 32 + c.toNat) % 2 ^ 32 = _
  omega

theorem uint32_toNat_add (a b : UInt32) : (a + b).toNat = (a.toNat + b.toNat) % 2 ^ 32 := rfl

theorem uint32_toNat_sub (a b : UInt32) : (a - b).toNat = (2 ^ 32 - b.toNat + a.toNat) % 2 ^ 32 :=
  BitVec.toNat_sub _ _

theorem uint32_toNat_mul (a b : UInt32) : (a * b).toNat = a.toNat * b.toNat % 2 ^ 32 := rfl

theorem uint32_le_iff_toNat_le {a b : UInt32} : a ≤ b ↔ a.toNat ≤ b.toNat := .rfl

theorem uint32_eq_iff_toNat_eq {a b : UInt32} : a = b ↔ a.toNat = b.toNat :=
  ⟨congrArg UInt32.toNat, UInt32.toNat.inj⟩

end TdlsAutoMode
