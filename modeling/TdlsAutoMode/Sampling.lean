import TdlsAutoMode.Model.Run

/-! # The rate sample

What `tdls_auto_get_peer_data_rate` computes, against the elapsed time and the byte counts
as the spec reads them: whole milliseconds with no bound (`elapsedMsec`) and the counters'
differences with one wrap allowed (`byteDelta`).

`delta_msec` is an `int`: it is the elapsed time kept modulo 2^32 in two's complement
(`deltaMsec_osReltimeSub`), so it is exact below 2^31 ms and reads below the sampling
interval from 2^31 ms to 2^32 + 100 ms. A new peer's `last_query_time` is the zero time, so
its first sample is discarded whenever the uptime falls in that window, about 24.8 days
after boot (`tdlsAutoGetPeerDataRate_first_sample_discarded`).

`delta_bits` is a `u32` that holds eight times the bytes moved: below 2^32 the stored rate
is the exact rate truncated by less than 1000 (`tdlsAutoGetPeerDataRate_rate_bounds`), but
512 MiB in one interval make it 0 (`tdlsAutoGetPeerDataRate_wraps_bits`).
-/

namespace TdlsAutoMode

/-- A time as `os_get_reltime` returns it: fewer than a million microseconds. -/
def OsReltime.Normalized (t : OsReltime) : Prop := 0 ≤ t.usec ∧ t.usec < 1000000

instance (t : OsReltime) : Decidable t.Normalized := inferInstanceAs (Decidable (_ ∧ _))

/-- The time from `b` to `a` in whole milliseconds, with no bound on its size. -/
def elapsedMsec (a b : OsReltime) : Int := ((a.sec - b.sec) * 1000000 + (a.usec - b.usec)) / 1000

section elapsed

variable {a b : OsReltime}

/-- `os_reltime_sub` of two normalized times is normalized and exact. -/
theorem osReltimeSub_spec (ha : a.Normalized) (hb : b.Normalized) :
    (osReltimeSub a b).Normalized ∧ (osReltimeSub a b).sec * 1000000 + (osReltimeSub a b).usec =
      (a.sec - b.sec) * 1000000 + (a.usec - b.usec) := by
  unfold osReltimeSub OsReltime.Normalized at *
  split_ifs <;> dsimp only <;> omega

/-- `delta_msec` is the elapsed time kept modulo 2^32 in two's complement. -/
theorem deltaMsec_osReltimeSub (ha : a.Normalized) (hb : b.Normalized) :
    deltaMsec (osReltimeSub a b) = Int.bmod (elapsedMsec a b) (2 ^ 32) := by
  obtain ⟨⟨nonneg, lt⟩, exact⟩ := osReltimeSub_spec ha hb
  unfold deltaMsec elapsedMsec
  rw [Int.tdiv_eq_ediv nonneg (by decide), ← exact]
  congr 1
  omega

/-- An `int` store of a value: two's complement modulo 2^32. -/
theorem bmod_two_pow_32 (x : Int) :
    Int.bmod x (2 ^ 32) = if x % 2 ^ 32 < 2 ^ 31 then x % 2 ^ 32 else x % 2 ^ 32 - 2 ^ 32 := by
  rw [Int.bmod_def]
  rfl

/-- Below 2^31 ms, `delta_msec` is the elapsed time. -/
theorem deltaMsec_osReltimeSub_of_lt (ha : a.Normalized) (hb : b.Normalized)
    (nonneg : 0 ≤ elapsedMsec a b) (short : elapsedMsec a b < 2 ^ 31) :
    deltaMsec (osReltimeSub a b) = elapsedMsec a b := by
  rw [deltaMsec_osReltimeSub ha hb, bmod_two_pow_32]
  split_ifs <;> omega

/-- From 2^31 ms to 2^32 + 100 ms, `delta_msec` is below the sampling interval. -/
theorem deltaMsec_osReltimeSub_of_wrap (ha : a.Normalized) (hb : b.Normalized)
    (late : 2 ^ 31 ≤ elapsedMsec a b) (early : elapsedMsec a b < 2 ^ 32 + 100) :
    deltaMsec (osReltimeSub a b) < tdlsAutoMinSampleTimeDiffMsec := by
  rw [deltaMsec_osReltimeSub ha hb, bmod_two_pow_32, tdlsAutoMinSampleTimeDiffMsec]
  split_ifs <;> omega

end elapsed

/-- The difference of two readings of a 32-bit byte counter, one wrap allowed. -/
def byteDelta (now last : UInt32) : Nat := (now.toNat + (2 ^ 32 - last.toNat)) % 2 ^ 32

/-- `delta_bits` holds eight times the bytes moved, kept modulo 2^32. -/
theorem deltaBits_toNat (tx rx lastTx lastRx : UInt32) :
    ((rx - lastRx) * 8 + (tx - lastTx) * 8).toNat =
      8 * (byteDelta rx lastRx + byteDelta tx lastTx) % 2 ^ 32 := by
  rw [uint32_toNat_add, uint32_toNat_mul, uint32_toNat_mul, uint32_toNat_sub, uint32_toNat_sub,
    byteDelta, byteDelta, Nat.mul_add, Nat.add_mod (8 * _), Nat.add_comm (2 ^ 32 - _),
    Nat.add_comm (2 ^ 32 - lastTx.toNat), Nat.mul_comm 8, Nat.mul_comm 8]
  rfl

section sample

variable {caps : Capabilities} {peer : TdlsAutoPeer}

/-- A sample taken too soon after the last one is discarded. -/
theorem tdlsAutoGetPeerDataRate_of_short
    (short : deltaMsec (osReltimeSub caps.now peer.lastQueryTime) < tdlsAutoMinSampleTimeDiffMsec) :
    tdlsAutoGetPeerDataRate caps peer = peer := by
  simp [tdlsAutoGetPeerDataRate, short]

/-- An accepted sample with readings replaces the counters and the sample time, and stores
the rate the code computes from `delta_msec`. -/
theorem tdlsAutoGetPeerDataRate_of_sample {tx rx : UInt32} {d : Nat}
    (delta : deltaMsec (osReltimeSub caps.now peer.lastQueryTime) = d) (long : 100 ≤ d)
    (bytes : caps.getStaBytes peer.addr = some (tx, rx)) :
    tdlsAutoGetPeerDataRate caps peer =
      { peer with
        lastRxBytes := rx
        lastTxBytes := tx
        lastQueryTime := caps.now
        dataRate := ((rx - peer.lastRxBytes) * 8 + (tx - peer.lastTxBytes) * 8) /
          UInt32.ofNat d * 1000 } := by
  have kept : ¬ (d : Int) < tdlsAutoMinSampleTimeDiffMsec := by
    unfold tdlsAutoMinSampleTimeDiffMsec
    omega
  simp only [tdlsAutoGetPeerDataRate, delta, kept, if_false, bytes, Int.toNat_ofNat]

/-- The stored rate: eight times the bytes moved modulo 2^32, divided by the interval in
milliseconds, times 1000 modulo 2^32. -/
theorem dataRate_toNat {tx rx : UInt32} {d : Nat} (short : d < 2 ^ 32) :
    (((rx - peer.lastRxBytes) * 8 + (tx - peer.lastTxBytes) * 8) / UInt32.ofNat d * 1000).toNat =
      8 * (byteDelta rx peer.lastRxBytes + byteDelta tx peer.lastTxBytes) % 2 ^ 32 / d * 1000 %
        2 ^ 32 := by
  rw [uint32_toNat_mul, UInt32.toNat_div, deltaBits_toNat, UInt32.toNat_ofNat_of_lt short]
  rfl

end sample

/-- Dividing before multiplying by 1000 loses less than 1000. -/
theorem div_mul_thousand_bounds (bits d : Nat) (pos : 0 < d) :
    bits / d * 1000 ≤ 1000 * bits / d ∧ 1000 * bits / d < bits / d * 1000 + 1000 := by
  have expand : 1000 * bits = d * (bits / d * 1000) + 1000 * (bits % d) := by
    rw [Nat.mul_comm (bits / d), ← Nat.mul_assoc, Nat.mul_comm d, Nat.mul_assoc, ← Nat.mul_add,
      Nat.div_add_mod]
  have rest : 1000 * (bits % d) / d < 1000 :=
    Nat.div_lt_of_lt_mul (by have := Nat.mod_lt bits pos; omega)
  rw [expand, Nat.mul_add_div pos]
  exact ⟨Nat.le_add_right _ _, Nat.add_lt_add_left rest _⟩

section rates

variable {caps : Capabilities} {peer : TdlsAutoPeer} {tx rx : UInt32} {d : Nat}

/-- Below the wrap of `delta_bits`, an accepted sample stores the exact rate truncated by
less than 1000, and replaces the counters and the sample time. -/
theorem tdlsAutoGetPeerDataRate_rate_bounds (now : caps.now.Normalized)
    (last : peer.lastQueryTime.Normalized) (elapsed : elapsedMsec caps.now peer.lastQueryTime = d)
    (long : 100 ≤ d) (short : d < 2 ^ 31) (bytes : caps.getStaBytes peer.addr = some (tx, rx))
    (fits : 8 * (byteDelta rx peer.lastRxBytes + byteDelta tx peer.lastTxBytes) < 2 ^ 32)
    (rate : 8000 * (byteDelta rx peer.lastRxBytes + byteDelta tx peer.lastTxBytes) / d < 2 ^ 32) :
    8000 * (byteDelta rx peer.lastRxBytes + byteDelta tx peer.lastTxBytes) / d <
        (tdlsAutoGetPeerDataRate caps peer).dataRate.toNat + 1000 ∧
      (tdlsAutoGetPeerDataRate caps peer).dataRate.toNat ≤
        8000 * (byteDelta rx peer.lastRxBytes + byteDelta tx peer.lastTxBytes) / d ∧
      (tdlsAutoGetPeerDataRate caps peer).lastRxBytes = rx ∧
      (tdlsAutoGetPeerDataRate caps peer).lastTxBytes = tx ∧
      (tdlsAutoGetPeerDataRate caps peer).lastQueryTime = caps.now := by
  have delta : deltaMsec (osReltimeSub caps.now peer.lastQueryTime) = d := by
    rw [deltaMsec_osReltimeSub_of_lt now last (by omega) (by omega), elapsed]
  have bounds := div_mul_thousand_bounds
    (8 * (byteDelta rx peer.lastRxBytes + byteDelta tx peer.lastTxBytes)) d (by omega)
  simp only [← Nat.mul_assoc, Nat.reduceMul] at bounds
  rw [tdlsAutoGetPeerDataRate_of_sample delta long bytes]
  dsimp only
  rw [dataRate_toNat (by omega), Nat.mod_eq_of_lt fits, Nat.mod_eq_of_lt (by omega)]
  exact ⟨bounds.2, bounds.1, rfl, rfl, rfl⟩

/-- A sample 1.5 s after the first, with 125000 bytes received: the exact rate is 666666 bit/s
and the stored rate 666000. -/
theorem tdlsAutoGetPeerDataRate_rate_bounds_after_1500ms :
    let peer := tdlsAutoGetPeerDataRate { Capabilities.nominal false 0 with now := ⟨1, 0⟩ }
      (TdlsAutoPeer.zalloc stationA)
    let caps : Capabilities := { Capabilities.nominal false 0 with
      now := ⟨2, 500000⟩, getStaBytes := fun _ => some (0, 125000) }
    caps.now.Normalized ∧ peer.lastQueryTime.Normalized ∧
      elapsedMsec caps.now peer.lastQueryTime = (1500 : Nat) ∧ 100 ≤ 1500 ∧ 1500 < 2 ^ 31 ∧
      caps.getStaBytes peer.addr = some (0, 125000) ∧
      8 * (byteDelta 125000 peer.lastRxBytes + byteDelta 0 peer.lastTxBytes) < 2 ^ 32 ∧
      8000 * (byteDelta 125000 peer.lastRxBytes + byteDelta 0 peer.lastTxBytes) / 1500 = 666666 ∧
      (tdlsAutoGetPeerDataRate caps peer).dataRate = 666000 ∧
      8000 * (byteDelta 125000 peer.lastRxBytes + byteDelta 0 peer.lastTxBytes) / 1500 <
          (tdlsAutoGetPeerDataRate caps peer).dataRate.toNat + 1000 ∧
        (tdlsAutoGetPeerDataRate caps peer).dataRate.toNat ≤
          8000 * (byteDelta 125000 peer.lastRxBytes + byteDelta 0 peer.lastTxBytes) / 1500 ∧
        (tdlsAutoGetPeerDataRate caps peer).lastRxBytes = 125000 ∧
        (tdlsAutoGetPeerDataRate caps peer).lastTxBytes = 0 ∧
        (tdlsAutoGetPeerDataRate caps peer).lastQueryTime = caps.now := by
  intro peer caps
  have now : caps.now.Normalized := by decide
  have last : peer.lastQueryTime.Normalized := by decide
  have elapsed : elapsedMsec caps.now peer.lastQueryTime = (1500 : Nat) := by decide
  have exact : 8000 * (byteDelta 125000 peer.lastRxBytes + byteDelta 0 peer.lastTxBytes) / 1500 =
      666666 := by decide
  exact ⟨now, last, elapsed, by decide, by decide, rfl, by decide, exact, by decide,
    tdlsAutoGetPeerDataRate_rate_bounds now last elapsed (by decide) (by decide) rfl (by decide)
      (by rw [exact]; decide)⟩

/-- **The bit count wraps at 512 MiB per interval.** Over every interval from 1 s to
2^31 ms in which the two counters moved 2^29 bytes in all, the exact rate
`8000 * 2^29 / d` is at least 1000 and below 2^32, and the stored rate is 0: eight times
the bytes moved is 2^32, which `delta_bits` keeps as 0. -/
theorem tdlsAutoGetPeerDataRate_wraps_bits (now : caps.now.Normalized)
    (last : peer.lastQueryTime.Normalized) (elapsed : elapsedMsec caps.now peer.lastQueryTime = d)
    (long : 1000 < d) (short : d < 2 ^ 31) (bytes : caps.getStaBytes peer.addr = some (tx, rx))
    (moved : byteDelta rx peer.lastRxBytes + byteDelta tx peer.lastTxBytes = 2 ^ 29) :
    1000 ≤ 8000 * (byteDelta rx peer.lastRxBytes + byteDelta tx peer.lastTxBytes) / d ∧
      8000 * (byteDelta rx peer.lastRxBytes + byteDelta tx peer.lastTxBytes) / d < 2 ^ 32 ∧
      (tdlsAutoGetPeerDataRate caps peer).dataRate = 0 := by
  have delta : deltaMsec (osReltimeSub caps.now peer.lastQueryTime) = d := by
    rw [deltaMsec_osReltimeSub_of_lt now last (by omega) (by omega), elapsed]
  rw [moved, tdlsAutoGetPeerDataRate_of_sample delta (by omega) bytes]
  refine ⟨(Nat.le_div_iff_mul_le (by omega)).2 (by omega),
    (Nat.div_lt_iff_lt_mul (by omega)).2 (by omega), uint32_eq_iff_toNat_eq.2 ?_⟩
  dsimp only
  rw [dataRate_toNat (by omega), moved]
  simp

/-- Two accepted samples 1000 s apart, with 512 MiB received in between: the exact rate
is 4294967 bit/s and the stored rate is 0. -/
theorem tdlsAutoGetPeerDataRate_wraps_bits_after_512MiB :
    let peer := tdlsAutoGetPeerDataRate { Capabilities.nominal false 0 with now := ⟨1, 0⟩ }
      (TdlsAutoPeer.zalloc stationA)
    let caps : Capabilities := { Capabilities.nominal false 0 with
      now := ⟨1001, 0⟩, getStaBytes := fun _ => some (0, 536870912) }
    caps.now.Normalized ∧ peer.lastQueryTime.Normalized ∧
      elapsedMsec caps.now peer.lastQueryTime = (1000000 : Nat) ∧ 1000 < 1000000 ∧
      1000000 < 2 ^ 31 ∧ caps.getStaBytes peer.addr = some (0, 536870912) ∧
      byteDelta 536870912 peer.lastRxBytes + byteDelta 0 peer.lastTxBytes = 2 ^ 29 ∧
      1000 ≤ 8000 * (byteDelta 536870912 peer.lastRxBytes + byteDelta 0 peer.lastTxBytes) /
        1000000 ∧
      8000 * (byteDelta 536870912 peer.lastRxBytes + byteDelta 0 peer.lastTxBytes) / 1000000 <
        2 ^ 32 ∧
      (tdlsAutoGetPeerDataRate caps peer).dataRate = 0 := by
  intro peer caps
  have now : caps.now.Normalized := by decide
  have last : peer.lastQueryTime.Normalized := by decide
  have elapsed : elapsedMsec caps.now peer.lastQueryTime = (1000000 : Nat) := by decide
  have moved : byteDelta 536870912 peer.lastRxBytes + byteDelta 0 peer.lastTxBytes = 2 ^ 29 := by
    decide
  exact ⟨now, last, elapsed, by decide, by decide, rfl, moved,
    tdlsAutoGetPeerDataRate_wraps_bits now last elapsed (by decide) (by decide) rfl moved⟩

end rates

/-- **A new peer's first sample is lost after 2^31 ms of uptime.** At every uptime from
2^31 ms to 2^32 + 100 ms past the zero time, whatever the driver reports, the first sample
of a freshly created peer is discarded: `delta_msec` wraps to a value below
`TDLS_AUTO_MIN_SAMPLE_TIME_DIFF_MSEC`. -/
theorem tdlsAutoGetPeerDataRate_first_sample_discarded (caps : Capabilities) (addr : MacAddr)
    (now : caps.now.Normalized)
    (late : 2 ^ 31 ≤ elapsedMsec caps.now (TdlsAutoPeer.zalloc addr).lastQueryTime)
    (early : elapsedMsec caps.now (TdlsAutoPeer.zalloc addr).lastQueryTime < 2 ^ 32 + 100) :
    tdlsAutoGetPeerDataRate caps (TdlsAutoPeer.zalloc addr) = TdlsAutoPeer.zalloc addr :=
  tdlsAutoGetPeerDataRate_of_short
    (deltaMsec_osReltimeSub_of_wrap now (show (⟨0, 0⟩ : OsReltime).Normalized by decide) late early)

/-- At 2147484 s of uptime, 2^31 ms and 352 ms past the zero time. -/
theorem tdlsAutoGetPeerDataRate_first_sample_discarded_at_wrap :
    let caps : Capabilities := { Capabilities.nominal false 0 with now := ⟨2147484, 0⟩ }
    caps.now.Normalized ∧
      2 ^ 31 ≤ elapsedMsec caps.now (TdlsAutoPeer.zalloc stationA).lastQueryTime ∧
      elapsedMsec caps.now (TdlsAutoPeer.zalloc stationA).lastQueryTime < 2 ^ 32 + 100 ∧
      tdlsAutoGetPeerDataRate caps (TdlsAutoPeer.zalloc stationA) = TdlsAutoPeer.zalloc stationA :=
  ⟨by decide, by decide, by decide,
    tdlsAutoGetPeerDataRate_first_sample_discarded _ _ (by decide) (by decide) (by decide)⟩

end TdlsAutoMode
