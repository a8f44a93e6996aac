import TdlsAutoMode.CountryPoll
import TdlsAutoMode.PnoSetup

/-! # The Android driver commands and the hang watchdog

The rest of `driver_nl80211_android.c`. The file-static `drv_errors` counts failed driver
requests: `wpa_driver_send_hang_msg` counts one more and, once the count passes
`DRV_NUMBER_SEQUENTIAL_ERRORS`, reports the driver `HANGED` on the first static interface and
starts again from zero. A success resets the count: the private ioctl of `android_priv_cmd`, the
PNO setup of `android_pno_start`, a `POWERMODE` driver command. The private commands that
`wpa_driver_nl80211_driver_cmd` passes on to the driver reset it whether they succeed or fail;
`RELOAD` reports a hang without touching it. With every interface dynamic, the loop of
`nl80211_report_hang` runs off the list and reads the list head as an interface; the model marks
the run there (`NlGlobal.listHeadRead`), as it does for the country poll.

`Watchdog` is what the counter stands for: the number of failures since the last reset, with a
report at every `DRV_NUMBER_SEQUENTIAL_ERRORS + 1`-th of them. `DriverEvent.watchdog` says what
each call does to it, and `runDriver_watchdog` proves that the code's bounded counter refines it
along every run: `drv_errors` is the failure streak modulo `DRV_NUMBER_SEQUENTIAL_ERRORS + 1`,
and the `HANGED` messages are exactly the abstract reports. So a run that resets each failure
before the next one keeps the watchdog silent however many requests fail
(`watchdog_silent_between_resets`).

The interfaces, the kernel's answers, the property and the clock are the inputs of each call.
A run may fire the country poll at any point, registered or not: the watchdog results hold for
every interleaving, so they hold for those the event loop allows.
-/

namespace TdlsAutoMode

/-- `enum nl80211_iftype`, as far as the wrapper tells the modes apart. -/
inductive Nl80211Iftype
  | station
  | p2pDevice
  | other
  deriving DecidableEq

/-- An interface of `global->interfaces`: its mode `drv->nlmode`, and whether its first BSS was
added dynamically (`drv->first_bss->if_dynamic`). -/
structure Nl80211Iface where
  nlmode : Nl80211Iftype
  ifDynamic : Bool
  deriving DecidableEq

/-- A `WPA_EVENT_DRIVER_STATE` message. `hanged` carries the interface whose context it is
sent to, by its index in `global->interfaces`: `none` when the loop of `nl80211_report_hang` ran
off the list and `drv` points at the list head, which is no interface. -/
inductive DriverStateMsg
  | hanged (iface : Option Nat)
  | stopped
  | started
  deriving DecidableEq

/-- A request the wrapper makes of the kernel. -/
inductive DriverRequest
  /-- The private ioctl of `android_priv_cmd`, with the command as `os_strlcpy` left it. -/
  | privCmd (cmd : List Char)
  /-- The private ioctl of `android_pno_start`, with the buffer up to `used_len`. -/
  | pnoSetup (cmd : List (Option UInt8))
  /-- The private ioctl of `wpa_driver_nl80211_driver_cmd`, with the command and `buf_len`. -/
  | driverPrivCmd (cmd : List Char) (bufLen : Nat)
  | setPowerSave (enabled : Bool)
  | getPowerSave
  | setIfaceFlags (up : Bool)
  | setP2pdev (iface : Nat) (start : Bool)
  | getIfhwaddr
  deriving DecidableEq

/-- What the wrapper keeps across calls and what it has done outside them: `drv_errors`, the
`DRIVER_STATE` messages sent with `wpa_msg` and the requests made of the kernel (both newest
first), the global record of the country poll, and how many times the poll's timeout is
registered in the event loop. -/
structure AndroidDriver where
  drvErrors : Nat
  msgs : List DriverStateMsg
  requests : List DriverRequest
  global : NlGlobal
  pollRegistered : Nat

/-- The wrapper as the process starts: `static int drv_errors = 0`, nothing sent or requested
yet, the country poll's record and registrations as `nl80211_global_init` (not under src/) left
them. -/
def AndroidDriver.initial (global : NlGlobal) (pollRegistered : Nat) : AndroidDriver :=
  ⟨0, [], [], global, pollRegistered⟩

/-- A request made of the kernel. -/
def AndroidDriver.request (r : DriverRequest) (d : AndroidDriver) : AndroidDriver :=
  { d with requests := r :: d.requests }

/-- The `HANGED` messages sent so far. -/
def AndroidDriver.hangs (d : AndroidDriver) : Nat :=
  d.msgs.countP fun msg => match msg with
    | .hanged _ => true
    | _ => false

/-- `nl80211_report_hang`: the message goes to the first interface whose first BSS is not
dynamic. With none, the loop runs off the list and C reads `first_bss` and `ctx` of the list
head: the run is marked as having read the list head, with the message it attempts. -/
def nl80211ReportHang (ifaces : List Nl80211Iface) (d : AndroidDriver) : AndroidDriver :=
  match ifaces.findIdx? fun iface => !iface.ifDynamic with
  | some iface => { d with msgs := .hanged (some iface) :: d.msgs }
  | none =>
    { d with msgs := .hanged none :: d.msgs, global := { d.global with listHeadRead := true } }

/-- `wpa_driver_send_hang_msg`: one more failure, and past `DRV_NUMBER_SEQUENTIAL_ERRORS` of
them a hang report and a count from zero. -/
def wpaDriverSendHangMsg (k : AndroidDrvConsts) (ifaces : List Nl80211Iface) (d : AndroidDriver) :
    AndroidDriver :=
  if d.drvErrors + 1 > k.drvNumberSequentialErrors then
    nl80211ReportHang ifaces { d with drvErrors := 0 }
  else { d with drvErrors := d.drvErrors + 1 }

/-- `os_strlcpy(dst, src, size)`: the text cut to leave room for its NUL. -/
def osStrlcpy (size : Nat) (text : List Char) : List Char := text.take (size - 1)

/-- `android_priv_cmd`: the command, cut to fit `buf[MAX_DRV_CMD_SIZE]`, goes to the driver in
one private ioctl, whose answer is `ioctl`. -/
def androidPrivCmd (k : AndroidDrvConsts) (ifaces : List Nl80211Iface) (cmd : List Char)
    (ioctl : Int) (d : AndroidDriver) : Int × AndroidDriver :=
  let d := d.request (.privCmd (osStrlcpy k.maxDrvCmdSize cmd))
  if ioctl < 0 then (ioctl, wpaDriverSendHangMsg k ifaces d) else (0, { d with drvErrors := 0 })

/-- `android_pno_start`: the PNO setup command in one private ioctl, answered by `setupIoctl`;
on success `PNOFORCE 1` through `android_priv_cmd`, answered by `forceIoctl`. -/
def androidPnoStart (k : AndroidDrvConsts) (ifaces : List Nl80211Iface) (ssids : List (List UInt8))
    (setupIoctl forceIoctl : Int) (d : AndroidDriver) : Int × AndroidDriver :=
  let d := d.request (.pnoSetup ((pnoSetupBuf k ssids).1.read (pnoSetupBuf k ssids).2))
  if setupIoctl < 0 then (setupIoctl, wpaDriverSendHangMsg k ifaces d)
  else androidPrivCmd k ifaces "PNOFORCE 1".toList forceIoctl { d with drvErrors := 0 }

/-- `android_pno_stop`. -/
def androidPnoStop (k : AndroidDrvConsts) (ifaces : List Nl80211Iface) (ioctl : Int)
    (d : AndroidDriver) : Int × AndroidDriver :=
  androidPrivCmd k ifaces "PNOFORCE 0".toList ioctl d

/-- `os_strcasecmp(a, b) == 0`: equal but for the case of ASCII letters. -/
def osStrcasecmpEq (a b : List Char) : Bool := a.map Char.toLower == b.map Char.toLower

/-- `os_strncasecmp(a, b, n) == 0`: the first `n` characters are equal but for case. -/
def osStrncasecmpEq (a b : List Char) (n : Nat) : Bool := osStrcasecmpEq (a.take n) (b.take n)

/-- The branches of `wpa_driver_nl80211_driver_cmd`. -/
inductive DriverCmdBranch
  | stop
  | start
  | macaddr
  | reload
  | powermode
  | country
  | getpower
  | priv
  deriving DecidableEq

/-- The branch a command takes, tested in the code's order. -/
def driverCmdBranch (cmd : List Char) : DriverCmdBranch :=
  if osStrcasecmpEq cmd "STOP".toList then .stop
  else if osStrcasecmpEq cmd "START".toList then .start
  else if osStrcasecmpEq cmd "MACADDR".toList then .macaddr
  else if osStrcasecmpEq cmd "RELOAD".toList then .reload
  else if osStrncasecmpEq cmd "POWERMODE ".toList 10 then .powermode
  else if osStrncasecmpEq cmd "COUNTRY ".toList 8 then .country
  else if osStrncasecmpEq cmd "GETPOWER".toList 8 then .getpower
  else .priv

/-- The value of the digits at the head of a text. -/
def decimalValue (digits : List Char) : Nat :=
  digits.foldl (fun n c => 10 * n + (c.toNat - '0'.toNat)) 0

/-- `atoi`: white space, an optional sign, then the digits up to the first other character. -/
def atoi (text : List Char) : Int :=
  match text.dropWhile fun c => c = ' ' || ('\t' ≤ c && c ≤ '\r') with
  | '-' :: rest => -(decimalValue (rest.takeWhile Char.isDigit) : Int)
  | '+' :: rest => decimalValue (rest.takeWhile Char.isDigit)
  | rest => decimalValue (rest.takeWhile Char.isDigit)

/-- `os_snprintf(buf, size, ...)` of a text: the bytes it writes (the text cut to `size - 1`
and a NUL; nothing when `size` is zero) and what it returns, the length of the whole text. -/
def osSnprintf (size : Nat) (text : List Char) : List Char × Int :=
  (if size = 0 then [] else text.take (size - 1) ++ ['\x00'], text.length)

/-- `%02x`. -/
def hexByte (b : UInt8) : List Char :=
  List.replicate (2 - (Nat.toDigits 16 b.toNat).length) '0' ++ Nat.toDigits 16 b.toNat

/-- `MACSTR` of `MAC2STR(addr)`. -/
def macStr (addr : MacAddr) : List Char := [':'].intercalate (addr.bytes.map hexByte)

/-- What the kernel and the system answer during one driver command. -/
structure DriverCmdAnswers where
  /-- `global->interfaces`, in list order. -/
  ifaces : List Nl80211Iface
  /-- `linux_get_ifhwaddr`: its return value and the address it reads. -/
  ifhwaddr : Int × MacAddr
  /-- `nl80211_set_power_save`. -/
  setPowerSave : Int
  /-- `wpa_driver_get_power_save`: its return value, and whether power save is on
  (`NL80211_PS_ENABLED`) when the reply has `NL80211_ATTR_PS_STATE`. -/
  getPowerSave : Int × Option Bool
  /-- The private ioctl's return value. -/
  ioctl : Int
  /-- What the private ioctl leaves in `buf`, up to its NUL. -/
  reply : List Char
  /-- The telephony property and the clock, for a country poll. -/
  property : List Char
  now : OsReltime

/-- What `wpa_driver_nl80211_driver_cmd` returns, and the bytes it writes into `buf` itself,
from `buf[0]` on. -/
structure DriverCmdResult where
  ret : Int
  written : List Char

/-- The poll reaches `poll_again`: every path of `wpa_driver_poll_country_change` does but the
one that finds interfaces and no station interface among them. -/
def CountryPoll.pollsAgain (poll : CountryPoll) : Bool :=
  poll.stationModes.isEmpty || poll.stationModes.any id

/-- The country poll runs: the global record changes as `wpa_driver_poll_country_change`
changes it, and at `poll_again` the poll's registrations are cancelled and one is added. -/
def AndroidDriver.pollCountry (poll : CountryPoll) (d : AndroidDriver) : AndroidDriver :=
  { d with global := wpaDriverPollCountryChange poll d.global
           pollRegistered := if poll.pollsAgain then 1 else d.pollRegistered }

/-- The first P2P device interface, by its index (`nl80211_global_get_p2pdev`). -/
def nl80211GlobalGetP2pdev (ifaces : List Nl80211Iface) : Option Nat :=
  ifaces.findIdx? fun iface => iface.nlmode = .p2pDevice

/-- `nl80211_set_p2pdev` on the P2P device interface, if there is one. -/
def AndroidDriver.setP2pdev (ifaces : List Nl80211Iface) (start : Bool) (d : AndroidDriver) :
    AndroidDriver :=
  match nl80211GlobalGetP2pdev ifaces with
  | some iface => d.request (.setP2pdev iface start)
  | none => d

/-- The private commands whose reply is text. -/
def privCmdRepliesText (cmd : List Char) : Bool :=
  osStrcasecmpEq cmd "LINKSPEED".toList || osStrcasecmpEq cmd "RSSI".toList ||
    osStrcasecmpEq cmd "GETBAND".toList

/-- `wpa_driver_nl80211_driver_cmd`. The private path copies the command into `buf` with its
NUL whatever `buf_len` is, and resets `drv_errors` whether the ioctl fails or not. -/
def wpaDriverNl80211DriverCmd (k : AndroidDrvConsts) (cmd : List Char) (bufLen : Nat)
    (answers : DriverCmdAnswers) (d : AndroidDriver) : DriverCmdResult × AndroidDriver :=
  match driverCmdBranch cmd with
  | .stop =>
    let d := (d.setP2pdev answers.ifaces false).request (.setIfaceFlags false)
    (⟨0, []⟩, { d with msgs := .stopped :: d.msgs })
  | .start =>
    let d := (d.request (.setIfaceFlags true)).setP2pdev answers.ifaces true
    (⟨0, []⟩, { d with msgs := .started :: d.msgs })
  | .macaddr =>
    let d := d.request .getIfhwaddr
    if answers.ifhwaddr.1 = 0 then
      let reply := osSnprintf bufLen ("Macaddr = ".toList ++ macStr answers.ifhwaddr.2 ++ ['\n'])
      (⟨reply.2, reply.1⟩, d)
    else (⟨answers.ifhwaddr.1, []⟩, d)
  | .reload => (⟨0, []⟩, nl80211ReportHang answers.ifaces d)
  | .powermode =>
    let d := d.request (.setPowerSave (atoi (cmd.drop 10) = 0))
    if answers.setPowerSave < 0 then
      (⟨answers.setPowerSave, []⟩, wpaDriverSendHangMsg k answers.ifaces d)
    else (⟨answers.setPowerSave, []⟩, { d with drvErrors := 0 })
  | .country =>
    (⟨0, []⟩, d.pollCountry
      ⟨answers.ifaces.map (·.nlmode = .station), answers.property, answers.now⟩)
  | .getpower =>
    let d := d.request .getPowerSave
    match answers.getPowerSave with
    | (0, some enabled) =>
      let reply := osSnprintf bufLen
        ("POWERMODE = ".toList ++ (if enabled then ['0'] else ['1']) ++ ['\n'])
      (⟨reply.2, reply.1⟩, d)
    | (ret, _) => (⟨ret, []⟩, d)
  | .priv =>
    let d := { d.request (.driverPrivCmd cmd bufLen) with drvErrors := 0 }
    if answers.ioctl < 0 then (⟨0, cmd ++ ['\x00']⟩, d)
    else
      (⟨if privCmdRepliesText cmd then answers.reply.length else 0, cmd ++ ['\x00']⟩, d)

/-- A call into the wrapper, with what the kernel and the system answer during it, or the
event loop firing the country poll. -/
inductive DriverEvent
  | pnoStart (ifaces : List Nl80211Iface) (ssids : List (List UInt8)) (setupIoctl forceIoctl : Int)
  | pnoStop (ifaces : List Nl80211Iface) (ioctl : Int)
  | driverCmd (cmd : List Char) (bufLen : Nat) (answers : DriverCmdAnswers)
  | pollTimeout (poll : CountryPoll)

/-- Run one event. The event loop unregisters a timeout before it calls it. -/
def DriverEvent.apply (k : AndroidDrvConsts) : DriverEvent → AndroidDriver → AndroidDriver
  | .pnoStart ifaces ssids setupIoctl forceIoctl, d =>
    (androidPnoStart k ifaces ssids setupIoctl forceIoctl d).2
  | .pnoStop ifaces ioctl, d => (androidPnoStop k ifaces ioctl d).2
  | .driverCmd cmd bufLen answers, d => (wpaDriverNl80211DriverCmd k cmd bufLen answers d).2
  | .pollTimeout poll, d => { d with pollRegistered := d.pollRegistered - 1 }.pollCountry poll

/-- Run events one after another. -/
def runDriver (k : AndroidDrvConsts) : List DriverEvent → AndroidDriver → AndroidDriver
  | [], d => d
  | event :: rest, d => runDriver k rest (event.apply k d)

/-- What a call does to the hang watchdog: a failure counted, a reset, a hang reported
outright. -/
inductive WatchdogAction
  | fail
  | reset
  | report
  deriving DecidableEq

/-- The watchdog `drv_errors` implements: `streak` failures since the last reset, and the hang
reports so far, one at every `limit + 1`-th failure of a streak and one at each outright
report. -/
structure Watchdog where
  streak : Nat
  reports : Nat

/-- One action on the watchdog. -/
def Watchdog.step (limit : Nat) (w : Watchdog) : WatchdogAction → Watchdog
  | .fail => ⟨w.streak + 1, if (w.streak + 1) % (limit + 1) = 0 then w.reports + 1 else w.reports⟩
  | .reset => ⟨0, w.reports⟩
  | .report => ⟨w.streak, w.reports + 1⟩

/-- What each call does to the watchdog, in order: the PNO setup and `android_priv_cmd` count
their failures and reset on success, as a `POWERMODE` command does; a private driver command
resets, whatever its ioctl answers; `RELOAD` reports. -/
def DriverEvent.watchdog : DriverEvent → List WatchdogAction
  | .pnoStart _ _ setupIoctl forceIoctl =>
    if setupIoctl < 0 then [.fail] else [.reset, if forceIoctl < 0 then .fail else .reset]
  | .pnoStop _ ioctl => [if ioctl < 0 then .fail else .reset]
  | .driverCmd cmd _ answers =>
    match driverCmdBranch cmd with
    | .reload => [.report]
    | .powermode => [if answers.setPowerSave < 0 then .fail else .reset]
    | .priv => [.reset]
    | _ => []
  | .pollTimeout _ => []

/-- The watchdog after a run, from no failure and no report. -/
def watchdogRun (limit : Nat) (events : List DriverEvent) : Watchdog :=
  (events.flatMap DriverEvent.watchdog).foldl (Watchdog.step limit) ⟨0, 0⟩

/-- The counter stands for the watchdog: `drv_errors` is the streak modulo `limit + 1`, and
the `HANGED` messages are its reports. -/
def AndroidDriver.Counts (limit : Nat) (d : AndroidDriver) (w : Watchdog) : Prop :=
  d.drvErrors = w.streak % (limit + 1) ∧ d.hangs = w.reports

section counts

variable {k : AndroidDrvConsts} {d : AndroidDriver} {w : Watchdog}

@[simp] theorem AndroidDriver.hangs_request (r : DriverRequest) :
    (d.request r).hangs = d.hangs := rfl

@[simp] theorem AndroidDriver.hangs_nl80211ReportHang (ifaces : List Nl80211Iface) :
    (nl80211ReportHang ifaces d).hangs = d.hangs + 1 := by
  unfold nl80211ReportHang
  split <;> simp [AndroidDriver.hangs]

@[simp] theorem AndroidDriver.drvErrors_nl80211ReportHang (ifaces : List Nl80211Iface) :
    (nl80211ReportHang ifaces d).drvErrors = d.drvErrors := by
  unfold nl80211ReportHang
  split <;> rfl

@[simp] theorem AndroidDriver.drvErrors_request (r : DriverRequest) :
    (d.request r).drvErrors = d.drvErrors := rfl

@[simp] theorem AndroidDriver.hangs_drvErrors (errors : Nat) :
    ({ d with drvErrors := errors } : AndroidDriver).hangs = d.hangs := rfl

@[simp] theorem AndroidDriver.hangs_setP2pdev (ifaces : List Nl80211Iface) (start : Bool) :
    (d.setP2pdev ifaces start).hangs = d.hangs := by
  unfold AndroidDriver.setP2pdev
  split <;> rfl

@[simp] theorem AndroidDriver.drvErrors_setP2pdev (ifaces : List Nl80211Iface) (start : Bool) :
    (d.setP2pdev ifaces start).drvErrors = d.drvErrors := by
  unfold AndroidDriver.setP2pdev
  split <;> rfl

@[simp] theorem AndroidDriver.msgs_setP2pdev (ifaces : List Nl80211Iface) (start : Bool) :
    (d.setP2pdev ifaces start).msgs = d.msgs := by
  unfold AndroidDriver.setP2pdev
  split <;> rfl

theorem AndroidDriver.Counts.of_eq {d' : AndroidDriver} {limit : Nat}
    (counts : d.Counts limit w) (errors : d'.drvErrors = d.drvErrors)
    (hangs : d'.hangs = d.hangs) : d'.Counts limit w :=
  ⟨errors.trans counts.1, hangs.trans counts.2⟩

theorem AndroidDriver.Counts.request (counts : d.Counts k.drvNumberSequentialErrors w)
    (r : DriverRequest) : (d.request r).Counts k.drvNumberSequentialErrors w := counts

theorem AndroidDriver.Counts.reset (counts : d.Counts k.drvNumberSequentialErrors w) :
    ({ d with drvErrors := 0 } : AndroidDriver).Counts k.drvNumberSequentialErrors
      (w.step k.drvNumberSequentialErrors .reset) :=
  ⟨(Nat.zero_mod _).symm, counts.2⟩

theorem AndroidDriver.Counts.report (counts : d.Counts k.drvNumberSequentialErrors w)
    (ifaces : List Nl80211Iface) :
    (nl80211ReportHang ifaces d).Counts k.drvNumberSequentialErrors
      (w.step k.drvNumberSequentialErrors .report) :=
  ⟨by simp [Watchdog.step, counts.1], by simp [Watchdog.step, counts.2]⟩

/-- The successor of a residue: it wraps to zero exactly at the modulus. -/
theorem succ_mod_of_mod {streak residue limit : Nat} (mod : streak % (limit + 1) = residue) :
    (streak + 1) % (limit + 1) = if residue + 1 = limit + 1 then 0 else residue + 1 := by
  have below : residue < limit + 1 := mod ▸ Nat.mod_lt _ (Nat.succ_pos limit)
  rw [← Nat.mod_add_mod, mod]
  split_ifs with wraps
  · rw [wraps, Nat.mod_self]
  · exact Nat.mod_eq_of_lt (by omega)

/-- `wpa_driver_send_hang_msg` is a failure of the watchdog: the counter reaches
`DRV_NUMBER_SEQUENTIAL_ERRORS + 1` exactly when the streak does a multiple of it. -/
theorem AndroidDriver.Counts.sendHangMsg (counts : d.Counts k.drvNumberSequentialErrors w)
    (ifaces : List Nl80211Iface) :
    (wpaDriverSendHangMsg k ifaces d).Counts k.drvNumberSequentialErrors
      (w.step k.drvNumberSequentialErrors .fail) := by
  have next := succ_mod_of_mod counts.1.symm
  have below : d.drvErrors < k.drvNumberSequentialErrors + 1 :=
    counts.1 ▸ Nat.mod_lt _ (Nat.succ_pos _)
  unfold wpaDriverSendHangMsg
  split_ifs with full
  · rw [if_pos (by omega)] at next
    exact ⟨(AndroidDriver.drvErrors_nl80211ReportHang ifaces).trans next.symm,
      by simp [Watchdog.step, next, counts.2]⟩
  · rw [if_neg (by omega)] at next
    exact ⟨next.symm, by simp [Watchdog.step, next, counts.2]⟩

/-- `android_priv_cmd` is one watchdog action: a failure or a reset. -/
theorem AndroidDriver.Counts.androidPrivCmd (counts : d.Counts k.drvNumberSequentialErrors w)
    (ifaces : List Nl80211Iface) (cmd : List Char) (ioctl : Int) :
    (TdlsAutoMode.androidPrivCmd k ifaces cmd ioctl d).2.Counts k.drvNumberSequentialErrors
      (w.step k.drvNumberSequentialErrors (if ioctl < 0 then .fail else .reset)) := by
  unfold TdlsAutoMode.androidPrivCmd
  split_ifs
  · exact (counts.request _).sendHangMsg ifaces
  · exact (counts.request _).reset

theorem AndroidDriver.Counts.pollCountry (counts : d.Counts k.drvNumberSequentialErrors w)
    (poll : CountryPoll) : (d.pollCountry poll).Counts k.drvNumberSequentialErrors w := counts

/-- A driver command is the watchdog actions `DriverEvent.watchdog` lists for it. -/
theorem AndroidDriver.Counts.driverCmd (counts : d.Counts k.drvNumberSequentialErrors w)
    (cmd : List Char) (bufLen : Nat) (answers : DriverCmdAnswers) :
    (wpaDriverNl80211DriverCmd k cmd bufLen answers d).2.Counts k.drvNumberSequentialErrors
      ((DriverEvent.driverCmd cmd bufLen answers).watchdog.foldl
        (Watchdog.step k.drvNumberSequentialErrors) w) := by
  unfold wpaDriverNl80211DriverCmd
  simp only [DriverEvent.watchdog]
  cases driverCmdBranch cmd <;> dsimp only
  · exact counts.of_eq (by simp) (by simp [AndroidDriver.hangs, AndroidDriver.request])
  · exact counts.of_eq (by simp) (by simp [AndroidDriver.hangs, AndroidDriver.request])
  · split <;> exact counts
  · exact counts.report _
  · split_ifs
    · exact (counts.request _).sendHangMsg _
    · exact (counts.request _).reset
  · exact counts
  · split <;> exact counts
  · split <;> exact (counts.request _).reset

/-- **One call, seen by the watchdog.** Every event moves the counter and the `HANGED` messages
as its watchdog actions move the abstract watchdog. -/
theorem AndroidDriver.Counts.apply (counts : d.Counts k.drvNumberSequentialErrors w)
    (event : DriverEvent) :
    (event.apply k d).Counts k.drvNumberSequentialErrors
      (event.watchdog.foldl (Watchdog.step k.drvNumberSequentialErrors) w) := by
  cases event with
  | pnoStart ifaces ssids setupIoctl forceIoctl =>
    simp only [DriverEvent.apply, DriverEvent.watchdog, androidPnoStart]
    by_cases setup : setupIoctl < 0
    · simp only [setup, ↓reduceIte]
      exact (counts.request _).sendHangMsg ifaces
    · simp only [setup, ↓reduceIte]
      exact ((counts.request _).reset).androidPrivCmd ifaces _ forceIoctl
  | pnoStop ifaces ioctl => exact counts.androidPrivCmd ifaces _ ioctl
  | driverCmd cmd bufLen answers => exact counts.driverCmd cmd bufLen answers
  | pollTimeout poll => exact counts.pollCountry (d := { d with pollRegistered := _ }) poll

theorem AndroidDriver.Counts.runDriver :
    ∀ (events : List DriverEvent) {d : AndroidDriver} {w : Watchdog},
      d.Counts k.drvNumberSequentialErrors w →
        (TdlsAutoMode.runDriver k events d).Counts k.drvNumberSequentialErrors
          ((events.flatMap DriverEvent.watchdog).foldl
            (Watchdog.step k.drvNumberSequentialErrors) w)
  | [], _, _, counts => counts
  | event :: rest, _, _, counts => by
    rw [List.flatMap_cons, List.foldl_append]
    exact AndroidDriver.Counts.runDriver rest (counts.apply event)

end counts

/-- **The counter refines the watchdog.** Along every run of the wrapper from its start, for
every `DRV_NUMBER_SEQUENTIAL_ERRORS`, every answer of the kernel and every interleaving of PNO
requests, driver commands and country polls: `drv_errors` is the number of failures since the
last reset modulo `DRV_NUMBER_SEQUENTIAL_ERRORS + 1`, and the driver has been reported `HANGED`
exactly once per `RELOAD` and once per `DRV_NUMBER_SEQUENTIAL_ERRORS + 1`-th failure of a
streak. -/
theorem runDriver_watchdog (k : AndroidDrvConsts) (global : NlGlobal) (pollRegistered : Nat)
    (events : List DriverEvent) :
    (runDriver k events (.initial global pollRegistered)).drvErrors =
        (watchdogRun k.drvNumberSequentialErrors events).streak %
          (k.drvNumberSequentialErrors + 1) ∧
      (runDriver k events (.initial global pollRegistered)).hangs =
        (watchdogRun k.drvNumberSequentialErrors events).reports :=
  AndroidDriver.Counts.runDriver events ⟨rfl, rfl⟩

/-- The watchdog actions report nothing outright, and each failure is reset before the next
failure and before the run ends; `pending` says that a failure waits for its reset. -/
def resetsEachFailure : Bool → List WatchdogAction → Bool
  | pending, [] => !pending
  | pending, .fail :: rest => !pending && resetsEachFailure true rest
  | _, .reset :: rest => resetsEachFailure false rest
  | _, .report :: _ => false

/-- With each failure reset before the next one, the streak never passes one and no failure is
reported: the run ends with no streak and the reports it started with. -/
theorem Watchdog.foldl_of_resetsEachFailure {limit : Nat} (positive : 1 ≤ limit) :
    ∀ (actions : List WatchdogAction) (pending : Bool) (w : Watchdog),
      w.streak = pending.toNat → resetsEachFailure pending actions = true →
        actions.foldl (Watchdog.step limit) w = ⟨0, w.reports⟩
  | [], pending, ⟨streak, reports⟩, streakIs, resets => by
    cases pending <;> simp_all [resetsEachFailure]
  | .fail :: rest, pending, ⟨streak, reports⟩, streakIs, resets => by
    simp only [resetsEachFailure, Bool.and_eq_true, Bool.not_eq_true'] at resets
    obtain ⟨rfl, resets⟩ := resets
    obtain rfl : streak = 0 := streakIs
    have once : ¬ (0 + 1) % (limit + 1) = 0 := by rw [Nat.mod_eq_of_lt (by omega)]; omega
    have failed : Watchdog.step limit ⟨0, reports⟩ .fail = ⟨1, reports⟩ := by
      simp only [Watchdog.step, if_neg once]
    rw [List.foldl_cons, failed]
    exact Watchdog.foldl_of_resetsEachFailure positive rest true _ rfl resets
  | .reset :: rest, _, w, _, resets =>
    Watchdog.foldl_of_resetsEachFailure positive rest false ⟨0, w.reports⟩ rfl resets
  | .report :: _, _, _, _, resets => by simp [resetsEachFailure] at resets

/-- **Resets in between keep the watchdog silent.** When `DRV_NUMBER_SEQUENTIAL_ERRORS` is at
least one, a run with no `RELOAD` in which every counted failure is reset before the next
failure and before the run ends, by any call that resets the counter (such as any private
driver command, failing or not) and with any other calls in between, reports no hang and leaves
`drv_errors` at zero, however many failures it holds. -/
theorem watchdog_silent_between_resets (k : AndroidDrvConsts)
    (positive : 1 ≤ k.drvNumberSequentialErrors) (global : NlGlobal) (pollRegistered : Nat)
    (events : List DriverEvent)
    (resets : resetsEachFailure false (events.flatMap DriverEvent.watchdog) = true) :
    (runDriver k events (.initial global pollRegistered)).hangs = 0 ∧
      (runDriver k events (.initial global pollRegistered)).drvErrors = 0 := by
  obtain ⟨errors, hangs⟩ := AndroidDriver.Counts.runDriver (k := k) events
    (d := .initial global pollRegistered) (w := ⟨0, 0⟩) ⟨rfl, rfl⟩
  rw [Watchdog.foldl_of_resetsEachFailure positive _ false _ rfl resets] at errors hangs
  exact ⟨hangs, errors⟩

/-- Answers in which every request fails with `-1`, on one static station interface. -/
def failingAnswers : DriverCmdAnswers where
  ifaces := [⟨.station, false⟩]
  ifhwaddr := (-1, ⟨[0, 0, 0, 0, 0, 0], rfl⟩)
  setPowerSave := -1
  getPowerSave := (-1, none)
  ioctl := -1
  reply := []
  property := []
  now := ⟨0, 0⟩

/-- Six failures, more than `DRV_NUMBER_SEQUENTIAL_ERRORS + 1`: failing `POWERMODE` commands
and PNO stops, each reset by a later private command, with a `STOP` and a country poll in
between. -/
theorem watchdog_silent_between_resets_interleaved :
    let events := (List.replicate 3 [DriverEvent.driverCmd "POWERMODE 1".toList 64 failingAnswers,
      .driverCmd "STOP".toList 64 failingAnswers, .driverCmd "RSSI".toList 64 failingAnswers,
      .pnoStop failingAnswers.ifaces (-1), .pollTimeout ⟨[true], "US".toList, ⟨0, 0⟩⟩,
      .driverCmd "LINKSPEED".toList 64 failingAnswers]).flatten
    1 ≤ sampleDrvConsts.drvNumberSequentialErrors ∧
      resetsEachFailure false (events.flatMap DriverEvent.watchdog) = true ∧
      (runDriver sampleDrvConsts events (.initial .zeroed 1)).hangs = 0 ∧
      (runDriver sampleDrvConsts events (.initial .zeroed 1)).drvErrors = 0 :=
  ⟨by decide, by decide,
    watchdog_silent_between_resets sampleDrvConsts (by decide) .zeroed 1 _ (by decide)⟩

end TdlsAutoMode
