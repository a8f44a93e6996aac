import TdlsAutoMode.Model.Basic

/-! # The PNO setup command

`android_pno_start` (`src/drivers/driver_nl80211_android.c`) asks the driver for preferred
network offload with one private ioctl whose buffer is a TLV command: the header
`WEXT_PNOSETUP_HEADER` and four version bytes, one `S` section per SSID (the section byte, the
SSID's length and its bytes), and the scan interval, repeat and maximal repeat sections, each a
section byte and its value in hexadecimal as `os_snprintf` prints it. The SSID loop stops at
`WEXT_PNO_AMOUNT` SSIDs, or as soon as one more SSID of the greatest length, the three other
sections and a NUL might not fit in the buffer.

The constants live in `android_drv.h`, which is not under src/: they are the parameters
`AndroidDrvConsts`, and every result holds for every value of them that satisfies its
hypotheses. `PnoBuf` is the buffer as the code writes it, byte by byte.

* `pnoSetupBuf_read`: when each of the three values prints in exactly its field's length, the
  bytes handed to the ioctl are all written and are the layout `pnoCommand` of the SSIDs the
  loop took, which are the first `pnoSetupCount` of them.
* `pnoSetupBuf_extent`: with SSIDs no longer than `MAX_SSID_LEN`, nothing is written past
  `WEXT_PNO_MAX_COMMAND_SIZE`.
* `pnoSetupParse_pnoCommand`: the layout reads back, SSIDs and fields, as long as the SSID
  section byte differs from the scan interval's and every SSID's length fits its byte.
* `pnoSetupBuf_spares_last_byte`: the loop's guard counts the NUL twice. A command with an SSID
  never uses the last byte of the buffer, and an SSID is refused only when one of the greatest
  length would need the whole buffer or more: a command that fills it exactly is never sent.
-/

namespace TdlsAutoMode

/-- The constants of `android_drv.h` that `driver_nl80211_android.c` reads. The header is not
under src/, so the model takes them as parameters; `header_size` is the relation the code relies
on between the header text and its size. -/
structure AndroidDrvConsts where
  drvNumberSequentialErrors : Nat
  maxDrvCmdSize : Nat
  wextPnosetupHeader : List UInt8
  wextPnosetupHeaderSize : Nat
  wextPnoTlvPrefix : UInt8
  wextPnoTlvVersion : UInt8
  wextPnoTlvSubversion : UInt8
  wextPnoTlvReserved : UInt8
  wextPnoAmount : Nat
  wextPnoSsidSection : UInt8
  wextPnoSsidHeaderSize : Nat
  maxSsidLen : Nat
  wextPnoNonssidSectionsSize : Nat
  wextPnoScanIntervalSection : UInt8
  wextPnoScanIntervalLength : Nat
  wextPnoScanInterval : Nat
  wextPnoRepeatSection : UInt8
  wextPnoRepeatLength : Nat
  wextPnoRepeat : Nat
  wextPnoMaxRepeatSection : UInt8
  wextPnoMaxRepeatLength : Nat
  wextPnoMaxRepeat : Nat
  wextPnoMaxCommandSize : Nat
  header_size : wextPnosetupHeader.length = wextPnosetupHeaderSize

/-- `char buf[WEXT_PNO_MAX_COMMAND_SIZE]` as `android_pno_start` fills it: what each index
holds (`none` where nothing was written) and `extent`, one past the highest index written. -/
structure PnoBuf where
  bytes : Nat → Option UInt8
  extent : Nat

namespace PnoBuf

/-- The buffer on entry: nothing written. -/
def empty : PnoBuf := ⟨fun _ => none, 0⟩

/-- `buf[i] = x`. -/
def set (buf : PnoBuf) (i : Nat) (x : UInt8) : PnoBuf :=
  ⟨fun j => if j = i then some x else buf.bytes j, max buf.extent (i + 1)⟩

/-- `os_memcpy(&buf[i], src, n)` of the `n` bytes of `src`. -/
def memcpy (buf : PnoBuf) (i : Nat) : List UInt8 → PnoBuf
  | [] => buf
  | x :: rest => (buf.set i x).memcpy (i + 1) rest

/-- The first `n` bytes: what the driver is handed with `used_len = n`. -/
def read (buf : PnoBuf) (n : Nat) : List (Option UInt8) := (List.range n).map buf.bytes

end PnoBuf

/-- The digits `%x` prints for `value`, as bytes. -/
def hexDigits (value : Nat) : List UInt8 := (Nat.toDigits 16 value).map fun c => c.toNat.toUInt8

/-- The bytes `os_snprintf(str, size, "%x", value)` writes: the digits, cut to `size - 1`, and a
terminating NUL. -/
def osSnprintfHex (size value : Nat) : List UInt8 :=
  if size = 0 then [] else (hexDigits value).take (size - 1) ++ [0]

/-- `buf[bp++] = section; os_snprintf(&buf[bp], length + 1, "%x", value); bp += length;`, the
shape of the three sections after the SSIDs. -/
def PnoBuf.putSection (buf : PnoBuf) (bp : Nat) (sec : UInt8) (length value : Nat) :
    PnoBuf × Nat :=
  ((buf.set bp sec).memcpy (bp + 1) (osSnprintfHex (length + 1) value), bp + 1 + length)

/-- The loop `while (i < WEXT_PNO_AMOUNT && (size_t) i < params->num_ssids)` of
`android_pno_start`, from SSID `i` on with the buffer filled up to `bp`. It returns the buffer,
`bp` and `i` on exit. The length is stored in one `char`. -/
def pnoSetupSsids (k : AndroidDrvConsts) :
    Nat → List (List UInt8) → PnoBuf → Nat → PnoBuf × Nat × Nat
  | i, [], buf, bp => (buf, bp, i)
  | i, ssid :: rest, buf, bp =>
    if i < k.wextPnoAmount then
      if bp + k.wextPnoSsidHeaderSize + k.maxSsidLen + k.wextPnoNonssidSectionsSize + 1 ≥
          k.wextPnoMaxCommandSize then (buf, bp, i)
      else
        let buf := (buf.set bp k.wextPnoSsidSection).set (bp + 1) (UInt8.ofNat ssid.length)
        pnoSetupSsids k (i + 1) rest (buf.memcpy (bp + 2) ssid) (bp + 2 + ssid.length)
    else (buf, bp, i)

/-- The buffer after the header and the four version bytes. -/
def pnoSetupHead (k : AndroidDrvConsts) : PnoBuf :=
  (PnoBuf.empty.memcpy 0 k.wextPnosetupHeader).memcpy k.wextPnosetupHeaderSize
    [k.wextPnoTlvPrefix, k.wextPnoTlvVersion, k.wextPnoTlvSubversion, k.wextPnoTlvReserved]

/-- The buffer `android_pno_start` hands to the ioctl, and `bp`, its `used_len`. -/
def pnoSetupBuf (k : AndroidDrvConsts) (ssids : List (List UInt8)) : PnoBuf × Nat :=
  let loop := pnoSetupSsids k 0 ssids (pnoSetupHead k) (k.wextPnosetupHeaderSize + 4)
  let interval := loop.1.putSection loop.2.1 k.wextPnoScanIntervalSection
    k.wextPnoScanIntervalLength k.wextPnoScanInterval
  let repeats := interval.1.putSection interval.2 k.wextPnoRepeatSection k.wextPnoRepeatLength
    k.wextPnoRepeat
  let maxRepeat := repeats.1.putSection repeats.2 k.wextPnoMaxRepeatSection
    k.wextPnoMaxRepeatLength k.wextPnoMaxRepeat
  (maxRepeat.1, maxRepeat.2 + 1)

/-- How many SSIDs the loop takes: its `i` on exit. -/
def pnoSetupCount (k : AndroidDrvConsts) (ssids : List (List UInt8)) : Nat :=
  (pnoSetupSsids k 0 ssids (pnoSetupHead k) (k.wextPnosetupHeaderSize + 4)).2.2

/-- One SSID section: the section byte, the length and the SSID. -/
def pnoSsidSection (k : AndroidDrvConsts) (ssid : List UInt8) : List UInt8 :=
  k.wextPnoSsidSection :: UInt8.ofNat ssid.length :: ssid

/-- The three sections after the SSIDs and the final NUL. -/
def pnoTrailer (k : AndroidDrvConsts) : List UInt8 :=
  k.wextPnoScanIntervalSection :: hexDigits k.wextPnoScanInterval ++
    k.wextPnoRepeatSection :: hexDigits k.wextPnoRepeat ++
    k.wextPnoMaxRepeatSection :: hexDigits k.wextPnoMaxRepeat ++ [0]

/-- The four version bytes after the header. -/
def pnoVersion (k : AndroidDrvConsts) : List UInt8 :=
  [k.wextPnoTlvPrefix, k.wextPnoTlvVersion, k.wextPnoTlvSubversion, k.wextPnoTlvReserved]

/-- The PNO setup command of a list of SSIDs, laid out section after section. -/
def pnoCommand (k : AndroidDrvConsts) (ssids : List (List UInt8)) : List UInt8 :=
  k.wextPnosetupHeader ++ pnoVersion k ++ ssids.flatMap (pnoSsidSection k) ++ pnoTrailer k

/-- Each of the three values prints in exactly the length of its field. -/
structure PnoFields (k : AndroidDrvConsts) : Prop where
  interval : (hexDigits k.wextPnoScanInterval).length = k.wextPnoScanIntervalLength
  repeats : (hexDigits k.wextPnoRepeat).length = k.wextPnoRepeatLength
  maxRepeat : (hexDigits k.wextPnoMaxRepeat).length = k.wextPnoMaxRepeatLength

namespace PnoBuf

variable {buf : PnoBuf} {i n : Nat}

@[simp] theorem length_read : (buf.read n).length = n := by simp [read]

theorem read_succ (buf : PnoBuf) (n : Nat) : buf.read (n + 1) = buf.read n ++ [buf.bytes n] := by
  simp [read, List.range_succ]

theorem read_set_of_le (below : n ≤ i) (x : UInt8) : (buf.set i x).read n = buf.read n := by
  refine List.map_congr_left fun j mem => ?_
  have : j ≠ i := by simp only [List.mem_range] at mem; omega
  simp [set, this]

theorem read_set_self (buf : PnoBuf) (n : Nat) (x : UInt8) :
    (buf.set n x).read (n + 1) = buf.read n ++ [some x] := by
  rw [read_succ, read_set_of_le (Nat.le_refl n)]
  simp [set]

theorem read_memcpy_of_le (below : n ≤ i) :
    ∀ (bytes : List UInt8) (buf : PnoBuf), (buf.memcpy i bytes).read n = buf.read n := by
  intro bytes
  induction bytes generalizing i with
  | nil => intro _; rfl
  | cons x rest ih =>
    intro buf
    rw [memcpy, ih (Nat.le_succ_of_le below), read_set_of_le below]

theorem read_memcpy : ∀ (bytes : List UInt8) (buf : PnoBuf) (n : Nat),
    (buf.memcpy n bytes).read (n + bytes.length) = buf.read n ++ bytes.map some
  | [], _, _ => by simp [memcpy]
  | x :: rest, buf, n => by
    rw [memcpy, List.length_cons, Nat.add_comm rest.length 1, ← Nat.add_assoc, read_memcpy rest,
      read_set_self]
    simp

theorem memcpy_append (buf : PnoBuf) (i : Nat) (first rest : List UInt8) :
    buf.memcpy i (first ++ rest) = (buf.memcpy i first).memcpy (i + first.length) rest := by
  induction first generalizing buf i with
  | nil => rfl
  | cons x first ih =>
    rw [List.cons_append, memcpy, ih, memcpy, List.length_cons, Nat.add_assoc, Nat.add_comm 1]

theorem extent_memcpy_le : ∀ (bytes : List UInt8) (buf : PnoBuf) (i : Nat),
    (buf.memcpy i bytes).extent ≤ max buf.extent (i + bytes.length)
  | [], _, _ => Nat.le_max_left _ _
  | x :: rest, buf, i => by
    have := extent_memcpy_le rest (buf.set i x) (i + 1)
    have setExtent : (buf.set i x).extent = max buf.extent (i + 1) := rfl
    rw [memcpy, List.length_cons]
    omega

end PnoBuf

theorem osSnprintfHex_of_length {length value : Nat}
    (digits : (hexDigits value).length = length) :
    osSnprintfHex (length + 1) value = hexDigits value ++ [0] := by
  simp [osSnprintfHex, List.take_of_length_le digits.le]

/-- A section whose value prints in exactly its field's length: the section byte and the
digits, with the `NUL` of `os_snprintf` on the next index. -/
theorem PnoBuf.putSection_read (buf : PnoBuf) (bp : Nat) (sec : UInt8) {length value : Nat}
    (digits : (hexDigits value).length = length) :
    (buf.putSection bp sec length value).2 = bp + 1 + length ∧
      (buf.putSection bp sec length value).1.read (bp + 1 + length) =
        buf.read bp ++ (sec :: hexDigits value).map some ∧
      (buf.putSection bp sec length value).1.bytes (bp + 1 + length) = some 0 ∧
      (buf.putSection bp sec length value).1.extent ≤ max buf.extent (bp + 1 + length + 1) := by
  refine ⟨rfl, ?_, ?_, ?_⟩ <;>
    simp only [PnoBuf.putSection, osSnprintfHex_of_length digits, PnoBuf.memcpy_append, digits]
  · rw [PnoBuf.memcpy, PnoBuf.memcpy, PnoBuf.read_set_of_le (Nat.le_refl _), ← digits,
      PnoBuf.read_memcpy, PnoBuf.read_set_self]
    simp
  · simp [PnoBuf.memcpy, PnoBuf.set, digits]
  · have := PnoBuf.extent_memcpy_le (hexDigits value ++ [0]) (buf.set bp sec) (bp + 1)
    have setExtent : (buf.set bp sec).extent = max buf.extent (bp + 1) := rfl
    rw [PnoBuf.memcpy_append, List.length_append, digits, List.length_singleton] at this
    omega

section command

variable (k : AndroidDrvConsts)

theorem pnoSetupHead_read :
    (pnoSetupHead k).read (k.wextPnosetupHeaderSize + 4) =
      (k.wextPnosetupHeader ++ pnoVersion k).map some ∧
      (pnoSetupHead k).extent ≤ k.wextPnosetupHeaderSize + 4 := by
  have header := PnoBuf.read_memcpy k.wextPnosetupHeader PnoBuf.empty 0
  have headerExtent := PnoBuf.extent_memcpy_le k.wextPnosetupHeader PnoBuf.empty 0
  rw [Nat.zero_add, k.header_size] at header headerExtent
  have version := PnoBuf.read_memcpy (pnoVersion k)
    (PnoBuf.empty.memcpy 0 k.wextPnosetupHeader) k.wextPnosetupHeaderSize
  have versionExtent := PnoBuf.extent_memcpy_le (pnoVersion k)
    (PnoBuf.empty.memcpy 0 k.wextPnosetupHeader) k.wextPnosetupHeaderSize
  rw [header] at version
  refine ⟨by simpa [pnoVersion] using version, versionExtent.trans ?_⟩
  have emptyExtent : PnoBuf.empty.extent = 0 := rfl
  simp only [pnoVersion, List.length_cons, List.length_nil]
  omega

/-- One SSID section written at `bp`. -/
theorem PnoBuf.read_ssidSection (buf : PnoBuf) (bp : Nat) (ssid : List UInt8) :
    (((buf.set bp k.wextPnoSsidSection).set (bp + 1) (UInt8.ofNat ssid.length)).memcpy (bp + 2)
      ssid).read (bp + 2 + ssid.length) = buf.read bp ++ (pnoSsidSection k ssid).map some := by
  rw [PnoBuf.read_memcpy, PnoBuf.read_set_self, PnoBuf.read_set_self]
  simp [pnoSsidSection]

theorem PnoBuf.extent_ssidSection (buf : PnoBuf) (bp : Nat) (ssid : List UInt8)
    (below : buf.extent ≤ bp) :
    (((buf.set bp k.wextPnoSsidSection).set (bp + 1) (UInt8.ofNat ssid.length)).memcpy (bp + 2)
      ssid).extent ≤ bp + 2 + ssid.length := by
  have := PnoBuf.extent_memcpy_le ssid
    ((buf.set bp k.wextPnoSsidSection).set (bp + 1) (UInt8.ofNat ssid.length)) (bp + 2)
  have sets : ((buf.set bp k.wextPnoSsidSection).set (bp + 1) (UInt8.ofNat ssid.length)).extent =
      max (max buf.extent (bp + 1)) (bp + 1 + 1) := rfl
  omega

/-- **The SSID loop.** From any `i`, it appends to what is written the sections of the SSIDs it
takes, which are the first ones of the list, and writes nothing past its `bp`. -/
theorem pnoSetupSsids_read : ∀ (ssids : List (List UInt8)) (i : Nat) (buf : PnoBuf) (bp : Nat),
    buf.extent ≤ bp →
      i ≤ (pnoSetupSsids k i ssids buf bp).2.2 ∧
      (pnoSetupSsids k i ssids buf bp).1.read (pnoSetupSsids k i ssids buf bp).2.1 =
        buf.read bp ++ ((ssids.take ((pnoSetupSsids k i ssids buf bp).2.2 - i)).flatMap
          (pnoSsidSection k)).map some ∧
      (pnoSetupSsids k i ssids buf bp).1.extent ≤ (pnoSetupSsids k i ssids buf bp).2.1
  | [], i, buf, bp, below => by simp [pnoSetupSsids, below]
  | ssid :: rest, i, buf, bp, below => by
    unfold pnoSetupSsids
    dsimp only
    split_ifs with more full
    · simp [below]
    · obtain ⟨after, restRead, restExtent⟩ := pnoSetupSsids_read rest (i + 1) _ _
        (PnoBuf.extent_ssidSection k buf bp ssid below)
      set r := pnoSetupSsids k (i + 1) rest _ (bp + 2 + ssid.length)
      have count : r.2.2 - i = r.2.2 - (i + 1) + 1 := by omega
      refine ⟨by omega, ?_, restExtent⟩
      rw [restRead, PnoBuf.read_ssidSection, count, List.take_succ_cons, List.flatMap_cons,
        List.map_append, List.append_assoc]
    · simp [below]

/-- **What the ioctl is handed.** When each of the three values prints in exactly the length of
its field, every byte up to `used_len` is written, and they are the command laid out from the
first `pnoSetupCount` SSIDs; nothing is written past them. -/
theorem pnoSetupBuf_read (fields : PnoFields k) (ssids : List (List UInt8)) :
    (pnoSetupBuf k ssids).1.read (pnoSetupBuf k ssids).2 =
      (pnoCommand k (ssids.take (pnoSetupCount k ssids))).map some ∧
      (pnoSetupBuf k ssids).1.extent ≤ (pnoSetupBuf k ssids).2 := by
  obtain ⟨headRead, headExtent⟩ := pnoSetupHead_read k
  obtain ⟨-, loopRead, loopExtent⟩ := pnoSetupSsids_read k ssids 0 _ _ headExtent
  simp only [pnoSetupBuf, pnoSetupCount, Nat.sub_zero] at loopRead ⊢
  set loop := pnoSetupSsids k 0 ssids (pnoSetupHead k) (k.wextPnosetupHeaderSize + 4)
  obtain ⟨intervalBp, intervalRead, -, intervalExtent⟩ :=
    PnoBuf.putSection_read loop.1 loop.2.1 k.wextPnoScanIntervalSection fields.interval
  set interval := loop.1.putSection loop.2.1 k.wextPnoScanIntervalSection
    k.wextPnoScanIntervalLength k.wextPnoScanInterval
  obtain ⟨repeatsBp, repeatsRead, -, repeatsExtent⟩ :=
    PnoBuf.putSection_read interval.1 interval.2 k.wextPnoRepeatSection fields.repeats
  set repeats := interval.1.putSection interval.2 k.wextPnoRepeatSection k.wextPnoRepeatLength
    k.wextPnoRepeat
  obtain ⟨maxRepeatBp, maxRepeatRead, maxRepeatNul, maxRepeatExtent⟩ :=
    PnoBuf.putSection_read repeats.1 repeats.2 k.wextPnoMaxRepeatSection fields.maxRepeat
  rw [← intervalBp] at intervalRead intervalExtent
  rw [← repeatsBp] at repeatsRead repeatsExtent
  rw [← maxRepeatBp] at maxRepeatRead maxRepeatExtent maxRepeatNul
  refine ⟨?_, by omega⟩
  rw [PnoBuf.read_succ, maxRepeatRead, repeatsRead, intervalRead, loopRead, headRead,
    maxRepeatNul]
  simp [pnoCommand, pnoTrailer]

end command

/-- The relations `android_drv.h` states between its PNO constants: an SSID section's header is
its section byte and its length byte, the non-SSID sections are the three timing sections, and
the command without SSIDs fits in the buffer. -/
structure PnoLayout (k : AndroidDrvConsts) extends PnoFields k : Prop where
  ssidHeaderSize : k.wextPnoSsidHeaderSize = 2
  nonssidSectionsSize : k.wextPnoNonssidSectionsSize = (1 + k.wextPnoScanIntervalLength) +
    (1 + k.wextPnoRepeatLength) + (1 + k.wextPnoMaxRepeatLength)
  room : k.wextPnosetupHeaderSize + 4 + k.wextPnoNonssidSectionsSize + 1 ≤
    k.wextPnoMaxCommandSize

/-- A set of constants: the header `PNOSETUP `, version `S120`, at most sixteen SSIDs of at most
32 bytes, the timing sections `T`, `R` and `M` with the values 30, 4 and 3 in two, one and one
digits, and a buffer sized for exactly sixteen SSIDs of 32 bytes. -/
def sampleDrvConsts : AndroidDrvConsts where
  drvNumberSequentialErrors := 4
  maxDrvCmdSize := 248
  wextPnosetupHeader := "PNOSETUP ".toList.map (·.toNat.toUInt8)
  wextPnosetupHeaderSize := 9
  wextPnoTlvPrefix := 0x53
  wextPnoTlvVersion := 0x31
  wextPnoTlvSubversion := 0x32
  wextPnoTlvReserved := 0x30
  wextPnoAmount := 16
  wextPnoSsidSection := 0x53
  wextPnoSsidHeaderSize := 2
  maxSsidLen := 32
  wextPnoNonssidSectionsSize := 7
  wextPnoScanIntervalSection := 0x54
  wextPnoScanIntervalLength := 2
  wextPnoScanInterval := 30
  wextPnoRepeatSection := 0x52
  wextPnoRepeatLength := 1
  wextPnoRepeat := 4
  wextPnoMaxRepeatSection := 0x4d
  wextPnoMaxRepeatLength := 1
  wextPnoMaxRepeat := 3
  wextPnoMaxCommandSize := 9 + 4 + 16 * (2 + 32) + 7 + 1
  header_size := rfl

theorem sampleDrvConsts_layout : PnoLayout sampleDrvConsts :=
  ⟨⟨by decide, by decide, by decide⟩, rfl, rfl, by decide⟩

section room

variable {k : AndroidDrvConsts}

/-- The loop's guard in full. Every SSID the loop takes, no longer than `MAX_SSID_LEN`, leaves
room for the other sections, the NUL and one byte more; and it refuses an SSID before
`WEXT_PNO_AMOUNT` and the end of the list only when one of the greatest length would leave no
such byte. A loop that takes nothing returns its `bp` and `i`. -/
theorem pnoSetupSsids_spare (layout : PnoLayout k) :
    ∀ (ssids : List (List UInt8)) (i : Nat) (buf : PnoBuf) (bp : Nat),
      (∀ ssid ∈ ssids, ssid.length ≤ k.maxSsidLen) →
      ((pnoSetupSsids k i ssids buf bp).2.1 + k.wextPnoNonssidSectionsSize + 1 <
          k.wextPnoMaxCommandSize ∨
        (pnoSetupSsids k i ssids buf bp).2.1 = bp ∧ (pnoSetupSsids k i ssids buf bp).2.2 = i) ∧
      ((pnoSetupSsids k i ssids buf bp).2.2 < k.wextPnoAmount →
        (pnoSetupSsids k i ssids buf bp).2.2 < i + ssids.length →
        k.wextPnoMaxCommandSize ≤ (pnoSetupSsids k i ssids buf bp).2.1 + 2 + k.maxSsidLen +
          k.wextPnoNonssidSectionsSize + 1)
  | [], _, _, _, _ => ⟨.inr ⟨rfl, rfl⟩, fun _ beyond => absurd beyond (Nat.lt_irrefl _)⟩
  | ssid :: rest, i, buf, bp, short => by
    have header := layout.ssidHeaderSize
    unfold pnoSetupSsids
    dsimp only
    split_ifs with more full
    · exact ⟨.inr ⟨rfl, rfl⟩, fun _ _ => by dsimp only; omega⟩
    · have fits := short ssid (.head _)
      obtain ⟨spare, refused⟩ := pnoSetupSsids_spare layout rest (i + 1)
        (((buf.set bp k.wextPnoSsidSection).set (bp + 1) (UInt8.ofNat ssid.length)).memcpy
          (bp + 2) ssid) (bp + 2 + ssid.length) fun s mem => short s (.tail _ mem)
      refine ⟨.inl (spare.elim id fun ⟨took, _⟩ => by omega), fun below beyond =>
        refused below (by rw [List.length_cons] at beyond; omega)⟩
    · exact ⟨.inr ⟨rfl, rfl⟩, fun below _ => absurd below more⟩

/-- `used_len` is where the loop left `bp`, with the other sections and the NUL. -/
theorem pnoSetupBuf_usedLen (layout : PnoLayout k) (ssids : List (List UInt8)) :
    (pnoSetupBuf k ssids).2 =
      (pnoSetupSsids k 0 ssids (pnoSetupHead k) (k.wextPnosetupHeaderSize + 4)).2.1 +
        k.wextPnoNonssidSectionsSize + 1 := by
  simp only [pnoSetupBuf, PnoBuf.putSection, layout.nonssidSectionsSize]
  omega

/-- **Nothing is written past the buffer.** With SSIDs no longer than `MAX_SSID_LEN`,
`android_pno_start` writes below its `used_len`, and `used_len` is at most
`WEXT_PNO_MAX_COMMAND_SIZE`. -/
theorem pnoSetupBuf_extent (layout : PnoLayout k) (ssids : List (List UInt8))
    (short : ∀ ssid ∈ ssids, ssid.length ≤ k.maxSsidLen) :
    (pnoSetupBuf k ssids).1.extent ≤ (pnoSetupBuf k ssids).2 ∧
      (pnoSetupBuf k ssids).2 ≤ k.wextPnoMaxCommandSize := by
  refine ⟨(pnoSetupBuf_read k layout.toPnoFields ssids).2, ?_⟩
  have room := layout.room
  rw [pnoSetupBuf_usedLen layout]
  rcases (pnoSetupSsids_spare layout ssids 0 (pnoSetupHead k) (k.wextPnosetupHeaderSize + 4)
    short).1 with spare | ⟨same, -⟩ <;> omega

theorem pnoSetupBuf_extent_two_ssids :
    PnoLayout sampleDrvConsts ∧
      (∀ ssid ∈ [[0x68, 0x6f, 0x6d, 0x65], List.replicate 32 0x61],
        ssid.length ≤ sampleDrvConsts.maxSsidLen) ∧
      (pnoSetupBuf sampleDrvConsts [[0x68, 0x6f, 0x6d, 0x65], List.replicate 32 0x61]).1.extent ≤
        (pnoSetupBuf sampleDrvConsts [[0x68, 0x6f, 0x6d, 0x65], List.replicate 32 0x61]).2 ∧
      (pnoSetupBuf sampleDrvConsts [[0x68, 0x6f, 0x6d, 0x65], List.replicate 32 0x61]).2 ≤
        sampleDrvConsts.wextPnoMaxCommandSize :=
  ⟨sampleDrvConsts_layout, by decide,
    pnoSetupBuf_extent sampleDrvConsts_layout _ (by decide)⟩

/-- **The last byte of the buffer is never used.** The loop's guard counts the NUL twice: a
command with an SSID in it always leaves the last byte of `buf` unused, and the loop refuses an
SSID before `WEXT_PNO_AMOUNT` and the end of the list only when one more SSID of
`MAX_SSID_LEN` bytes would need the whole buffer or more, so a command that would fill the
buffer exactly is never sent. -/
theorem pnoSetupBuf_spares_last_byte (layout : PnoLayout k) (ssids : List (List UInt8))
    (short : ∀ ssid ∈ ssids, ssid.length ≤ k.maxSsidLen) :
    (0 < pnoSetupCount k ssids → (pnoSetupBuf k ssids).2 < k.wextPnoMaxCommandSize) ∧
      (pnoSetupCount k ssids < k.wextPnoAmount → pnoSetupCount k ssids < ssids.length →
        k.wextPnoMaxCommandSize ≤ (pnoSetupBuf k ssids).2 + 2 + k.maxSsidLen) := by
  obtain ⟨spare, refused⟩ := pnoSetupSsids_spare layout ssids 0 (pnoSetupHead k)
    (k.wextPnosetupHeaderSize + 4) short
  rw [pnoSetupBuf_usedLen layout, pnoSetupCount]
  refine ⟨fun took => ?_, fun below beyond => ?_⟩
  · rcases spare with spare | ⟨-, none⟩
    · exact spare
    · omega
  · have := refused below (by omega)
    omega

/-- Sixteen SSIDs of 32 bytes: the loop sends fifteen in a command of 531 bytes, where all
sixteen would have filled the 565 bytes of the buffer exactly. -/
theorem pnoSetupBuf_spares_last_byte_sixteen :
    let ssids := List.replicate 16 (List.replicate 32 (0x61 : UInt8))
    PnoLayout sampleDrvConsts ∧ (∀ ssid ∈ ssids, ssid.length ≤ sampleDrvConsts.maxSsidLen) ∧
      pnoSetupCount sampleDrvConsts ssids = 15 ∧ (pnoSetupBuf sampleDrvConsts ssids).2 = 531 ∧
      (0 < pnoSetupCount sampleDrvConsts ssids →
        (pnoSetupBuf sampleDrvConsts ssids).2 < sampleDrvConsts.wextPnoMaxCommandSize) ∧
      (pnoSetupCount sampleDrvConsts ssids < sampleDrvConsts.wextPnoAmount →
        pnoSetupCount sampleDrvConsts ssids < ssids.length →
        sampleDrvConsts.wextPnoMaxCommandSize ≤
          (pnoSetupBuf sampleDrvConsts ssids).2 + 2 + sampleDrvConsts.maxSsidLen) :=
  ⟨sampleDrvConsts_layout, by decide, by decide, by decide,
    pnoSetupBuf_spares_last_byte sampleDrvConsts_layout _ (by decide)⟩

end room

/-- What a PNO setup command asks for: the SSIDs and the digits of the three timing values. -/
structure PnoRequest where
  ssids : List (List UInt8)
  scanInterval : List UInt8
  repeats : List UInt8
  maxRepeat : List UInt8
  deriving DecidableEq

/-- The SSID sections at the head of `bytes`: while the next byte opens an SSID section, its
length byte and that many bytes. `fuel` bounds the number of sections. -/
def pnoParseSsids (k : AndroidDrvConsts) : Nat → List UInt8 → List (List UInt8) × List UInt8
  | fuel + 1, sec :: len :: rest =>
    if sec = k.wextPnoSsidSection ∧ len.toNat ≤ rest.length then
      (rest.take len.toNat :: (pnoParseSsids k fuel (rest.drop len.toNat)).1,
        (pnoParseSsids k fuel (rest.drop len.toNat)).2)
    else ([], sec :: len :: rest)
  | _, bytes => ([], bytes)

/-- A section of a fixed length: its section byte and `length` bytes. -/
def pnoParseField (sec : UInt8) (length : Nat) : List UInt8 → Option (List UInt8 × List UInt8)
  | s :: rest =>
    if s = sec ∧ length ≤ rest.length then some (rest.take length, rest.drop length) else none
  | [] => none

/-- Read a PNO setup command back, section after section. The driver's parser is not under
src/: this reads the layout as the TLV format lays it out, the header and version, SSID sections
while the next byte opens one, the three timing sections of their fixed lengths and the NUL. -/
def pnoSetupParse (k : AndroidDrvConsts) (cmd : List UInt8) : Option PnoRequest :=
  if cmd.take (k.wextPnosetupHeaderSize + 4) = k.wextPnosetupHeader ++ pnoVersion k then
    let ssids := pnoParseSsids k cmd.length (cmd.drop (k.wextPnosetupHeaderSize + 4))
    (pnoParseField k.wextPnoScanIntervalSection k.wextPnoScanIntervalLength ssids.2).bind
      fun interval =>
    (pnoParseField k.wextPnoRepeatSection k.wextPnoRepeatLength interval.2).bind fun repeats =>
    (pnoParseField k.wextPnoMaxRepeatSection k.wextPnoMaxRepeatLength repeats.2).bind
      fun maxRepeat =>
    if maxRepeat.2 = [0] then some ⟨ssids.1, interval.1, repeats.1, maxRepeat.1⟩ else none
  else none

section parse

variable {k : AndroidDrvConsts}

theorem pnoParseField_cons (sec : UInt8) {digits : List UInt8} {length : Nat}
    (fits : digits.length = length) (rest : List UInt8) :
    pnoParseField sec length (sec :: (digits ++ rest)) = some (digits, rest) := by
  simp [pnoParseField, ← fits]

/-- The SSID loop of the reader stops at a byte that opens no SSID section. -/
theorem pnoParseSsids_of_ne (fuel : Nat) {sec : UInt8} (other : sec ≠ k.wextPnoSsidSection)
    (rest : List UInt8) : pnoParseSsids k fuel (sec :: rest) = ([], sec :: rest) := by
  cases fuel <;> cases rest <;> simp [pnoParseSsids, other]

/-- The reader takes back every SSID section, as long as each length fits its byte and the
bytes after them open no SSID section. -/
theorem pnoParseSsids_flatMap {sec : UInt8} (other : sec ≠ k.wextPnoSsidSection)
    (after : List UInt8) :
    ∀ (ssids : List (List UInt8)) (fuel : Nat), ssids.length ≤ fuel →
      (∀ ssid ∈ ssids, ssid.length < 256) →
        pnoParseSsids k fuel (ssids.flatMap (pnoSsidSection k) ++ sec :: after) =
          (ssids, sec :: after)
  | [], fuel, _, _ => pnoParseSsids_of_ne fuel other after
  | ssid :: rest, fuel + 1, enough, short => by
    have fits : (UInt8.ofNat ssid.length).toNat = ssid.length :=
      Nat.mod_eq_of_lt (short ssid (.head _))
    have restParsed := pnoParseSsids_flatMap other after rest fuel
      (by simp only [List.length_cons] at enough; omega) fun s mem => short s (.tail _ mem)
    have bytes : (ssid :: rest).flatMap (pnoSsidSection k) ++ sec :: after =
        k.wextPnoSsidSection :: UInt8.ofNat ssid.length ::
          (ssid ++ (rest.flatMap (pnoSsidSection k) ++ sec :: after)) := by
      simp [pnoSsidSection]
    rw [bytes, pnoParseSsids.eq_1, if_pos ⟨rfl, by simp [fits]⟩, fits, List.take_left,
      List.drop_left, restParsed]

theorem length_le_length_flatMap_pnoSsidSection :
    ∀ ssids : List (List UInt8), ssids.length ≤ (ssids.flatMap (pnoSsidSection k)).length
  | [] => Nat.le_refl 0
  | ssid :: rest => by
    have := length_le_length_flatMap_pnoSsidSection rest
    simp only [List.flatMap_cons, List.length_append, pnoSsidSection, List.length_cons]
    omega

/-- **The layout reads back.** The command laid out from any SSIDs whose lengths fit their
byte gives back those SSIDs and the digits of the three timing values, as long as the three
values print in the lengths of their fields and the SSID section byte is not the scan interval
section byte. -/
theorem pnoSetupParse_pnoCommand (fields : PnoFields k)
    (distinct : k.wextPnoScanIntervalSection ≠ k.wextPnoSsidSection) (ssids : List (List UInt8))
    (short : ∀ ssid ∈ ssids, ssid.length < 256) :
    pnoSetupParse k (pnoCommand k ssids) =
      some ⟨ssids, hexDigits k.wextPnoScanInterval, hexDigits k.wextPnoRepeat,
        hexDigits k.wextPnoMaxRepeat⟩ := by
  have head : (k.wextPnosetupHeader ++ pnoVersion k).length = k.wextPnosetupHeaderSize + 4 := by
    simp [pnoVersion, k.header_size]
  have layout : pnoCommand k ssids = (k.wextPnosetupHeader ++ pnoVersion k) ++
      (ssids.flatMap (pnoSsidSection k) ++
        k.wextPnoScanIntervalSection :: (pnoTrailer k).tail) := by
    simp [pnoCommand, pnoTrailer]
  rw [pnoSetupParse, layout, List.take_left' head, List.drop_left' head, if_pos rfl,
    pnoParseSsids_flatMap distinct _ ssids _ ?enough short]
  · simp [pnoTrailer, pnoParseField_cons _ fields.interval, pnoParseField_cons _ fields.repeats,
      pnoParseField_cons _ fields.maxRepeat]
  · have := length_le_length_flatMap_pnoSsidSection (k := k) ssids
    simp only [List.length_append]
    omega

end parse

end TdlsAutoMode
