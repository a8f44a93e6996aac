import TdlsAutoMode.Model.Sample

/-! # Country-code polling

`wpa_driver_poll_country_change` of the Android nl80211 wrapper
(`src/drivers/driver_nl80211_android.c`) reads the telephony property
`gsm.operator.iso-country` and passes its country code to the driver. An empty code means
the phone has lost cellular reception: it is reported only after
`CELL_RECEPTION_LOSS_GRACE_SEC`, timed from the first empty code (`cell_reception_loss`).
The interfaces, the property and the clock are the poll's inputs (`CountryPoll`); the
driver call and the re-registration of the poll's timeout are recorded in the global record
(`NlGlobal`). With interfaces but none in station mode, the loop over them runs off the list
and reads the list head as an interface, which C leaves undefined: the record marks the run
there (`NlGlobal.listHeadRead`).

What the grace period guarantees: a report comes only on an empty code, and only when some
earlier poll saw an empty code more than the grace period before
(`pollCountries_reports_loss_after_grace`). The timestamp is cleared only when a different
non-empty code is set, not when the stored code is seen again, so the polls in between may
have seen reception (`wpaDriverPollCountryChange_grace_outlives_reception`).
-/

namespace TdlsAutoMode

/-- `COUNTRY_CODE_POLL_PERIOD_SEC`: the period of the poll while reception is not reported
lost. -/
def countryCodePollPeriodSec : Nat := 15 * 60

/-- `COUNTRY_CODE_FAST_POLL_PERIOD_SEC`: the period while reception is reported lost. -/
def countryCodeFastPollPeriodSec : Nat := 60

/-- `CELL_RECEPTION_LOSS_GRACE_SEC`: how long an empty country code is waited out. -/
def cellReceptionLossGraceSec : Int := 15 * 60

/-- `os_reltime_initialized` (`utils/os.h`, not under src/): a time other than zero. -/
def OsReltime.initialized (t : OsReltime) : Bool := t.sec ≠ 0 || t.usec ≠ 0

/-- `os_reltime_expired` (`utils/os.h`, not under src/): more than `timeout` seconds have
passed from `ts` to `now`. -/
def osReltimeExpired (now ts : OsReltime) (timeout : Int) : Bool :=
  let age := osReltimeSub now ts
  age.sec > timeout || (age.sec = timeout && age.usec > 0)

/-- The fields of `struct nl80211_global` the poll reads and writes, and what it does outside
them: the codes passed to `nl80211_set_country`, newest first, and the period the poll's
timeout was last registered with. `listHeadRead` records that a loop over
`global->interfaces` ran off the list and took its head for an interface: C reads a field of
no interface there, and what it does from then on is undefined. -/
structure NlGlobal where
  countryAlpha2 : List Char
  cellReceptionLoss : OsReltime
  duringCellReceptionLoss : Bool
  countriesSet : List (List Char)
  pollPeriod : Option Nat
  listHeadRead : Bool
  deriving DecidableEq

/-- The global record as `os_zalloc` leaves it: no country, no reception loss. -/
def NlGlobal.zeroed : NlGlobal where
  countryAlpha2 := []
  cellReceptionLoss := ⟨0, 0⟩
  duringCellReceptionLoss := false
  countriesSet := []
  pollPeriod := none
  listHeadRead := false

/-- What one poll reads: whether each interface of `global->interfaces` is in station mode,
in list order; the value of the telephony property `gsm.operator.iso-country`; and the clock
(`os_get_reltime`). -/
structure CountryPoll where
  stationModes : List Bool
  property : List Char
  now : OsReltime

/-- The country code `cc` of a property value: the text before the first comma, or the text
after it when the first country is empty. -/
def countryCode (country : List Char) : List Char :=
  match country.span (· != ',') with
  | ([], _ :: rest) => rest
  | (first, _) => first

/-- `poll_again`: the poll's timeout is registered again, with the fast period while
reception is reported lost. -/
def NlGlobal.pollAgain (g : NlGlobal) : NlGlobal :=
  { g with
    pollPeriod := some (if g.duringCellReceptionLoss then countryCodeFastPollPeriodSec
      else countryCodePollPeriodSec) }

/-- `os_strlcpy(global->country_alpha2, cc, 3)`, then `nl80211_set_country` with the copy. -/
def NlGlobal.setCountry (cc : List Char) (g : NlGlobal) : NlGlobal :=
  { g with countryAlpha2 := cc.take 2, countriesSet := cc.take 2 :: g.countriesSet }

/-- `wpa_driver_poll_country_change`. With no interface the poll only registers itself again.
With interfaces but none in station mode, the loop runs off the list and `drv->nlmode` is read
from the list head: the poll is marked as having done so, and returns as it does when that
read is not `NL80211_IFTYPE_STATION`. An unchanged code changes nothing. An empty code starts
the grace period, or, once the grace period has expired, is reported as reception loss; a
non-empty code ends any grace period and is set. -/
def wpaDriverPollCountryChange (poll : CountryPoll) (g : NlGlobal) : NlGlobal :=
  if poll.stationModes = [] then g.pollAgain
  else if !poll.stationModes.any id then { g with listHeadRead := true }
  else
    let cc := countryCode poll.property
    if g.countryAlpha2 = cc then g.pollAgain
    else if cc = [] then
      if !g.cellReceptionLoss.initialized then { g with cellReceptionLoss := poll.now }.pollAgain
      else if !osReltimeExpired poll.now g.cellReceptionLoss cellReceptionLossGraceSec then
        g.pollAgain
      else
        ({ g with cellReceptionLoss := ⟨0, 0⟩, duringCellReceptionLoss := true }.setCountry
          cc).pollAgain
    else
      ({ g with cellReceptionLoss := ⟨0, 0⟩, duringCellReceptionLoss := false }.setCountry
        cc).pollAgain

/-- Polls one after another, oldest first. -/
def pollCountries (polls : List CountryPoll) (g : NlGlobal) : NlGlobal :=
  polls.foldl (fun g poll => wpaDriverPollCountryChange poll g) g

section poll

variable {poll : CountryPoll} {g : NlGlobal}

/-- A poll that sees a station interface and the stored code changes nothing but the
registration of its timeout. -/
theorem wpaDriverPollCountryChange_of_unchanged (station : poll.stationModes.any id = true)
    (same : countryCode poll.property = g.countryAlpha2) :
    wpaDriverPollCountryChange poll g = g.pollAgain := by
  have present : poll.stationModes ≠ [] := fun empty => by simp [empty] at station
  simp [wpaDriverPollCountryChange, present, station, same]

/-- A poll that sees a station interface and an empty code for the first time since the last
set starts the grace period at its own time. -/
theorem wpaDriverPollCountryChange_of_first_loss (station : poll.stationModes.any id = true)
    (lost : countryCode poll.property = []) (stored : g.countryAlpha2 ≠ [])
    (idle : g.cellReceptionLoss.initialized = false) :
    wpaDriverPollCountryChange poll g = { g with cellReceptionLoss := poll.now }.pollAgain := by
  have present : poll.stationModes ≠ [] := fun empty => by simp [empty] at station
  simp [wpaDriverPollCountryChange, present, station, lost, stored, idle]

/-- A poll that sees a station interface and an empty code once the grace period has expired
reports reception loss: the code is cleared and set, and the fast period is taken. -/
theorem wpaDriverPollCountryChange_of_expired (station : poll.stationModes.any id = true)
    (lost : countryCode poll.property = []) (stored : g.countryAlpha2 ≠ [])
    (started : g.cellReceptionLoss.initialized = true)
    (expired : osReltimeExpired poll.now g.cellReceptionLoss cellReceptionLossGraceSec = true) :
    wpaDriverPollCountryChange poll g =
      ({ g with cellReceptionLoss := ⟨0, 0⟩, duringCellReceptionLoss := true }.setCountry
        []).pollAgain := by
  have present : poll.stationModes ≠ [] := fun empty => by simp [empty] at station
  simp [wpaDriverPollCountryChange, present, station, lost, stored, started, expired]

end poll

/-- **Reception loss without an empty span.** The grace timestamp is cleared only when a
non-empty code differs from the stored one. A poll that sees the stored code again leaves it
set, so an empty code more than `CELL_RECEPTION_LOSS_GRACE_SEC` after the first empty one is
reported as reception loss, however recently reception was seen. -/
theorem wpaDriverPollCountryChange_grace_outlives_reception {g : NlGlobal}
    {first back last : CountryPoll} (station : first.stationModes.any id = true)
    (station' : back.stationModes.any id = true) (station'' : last.stationModes.any id = true)
    (stored : g.countryAlpha2 ≠ []) (idle : g.cellReceptionLoss.initialized = false)
    (lost : countryCode first.property = []) (clock : first.now.initialized = true)
    (regained : countryCode back.property = g.countryAlpha2)
    (lostAgain : countryCode last.property = [])
    (late : osReltimeExpired last.now first.now cellReceptionLossGraceSec = true) :
    (pollCountries [first, back, last] g).countryAlpha2 = [] ∧
      (pollCountries [first, back, last] g).duringCellReceptionLoss = true ∧
      (pollCountries [first, back, last] g).countriesSet = [] :: g.countriesSet := by
  have waiting :
      wpaDriverPollCountryChange back { g with cellReceptionLoss := first.now }.pollAgain =
        ({ g with cellReceptionLoss := first.now }.pollAgain).pollAgain :=
    wpaDriverPollCountryChange_of_unchanged station' regained
  have reported : wpaDriverPollCountryChange last
      ({ g with cellReceptionLoss := first.now }.pollAgain).pollAgain =
      ({ g with cellReceptionLoss := ⟨0, 0⟩, duringCellReceptionLoss := true }.setCountry
        []).pollAgain :=
    wpaDriverPollCountryChange_of_expired station'' lostAgain stored clock late
  simp only [pollCountries, List.foldl_cons, List.foldl_nil]
  rw [wpaDriverPollCountryChange_of_first_loss station lost stored idle, waiting, reported]
  exact ⟨rfl, rfl, rfl⟩

/-- The failing history: the code "US" at 1000 s, none at 1900 s, "US" again at 2800 s and
none at 3700 s. Reception loss is reported at 3700 s, one poll after reception was seen. -/
theorem wpaDriverPollCountryChange_grace_outlives_reception_us :
    let g := wpaDriverPollCountryChange ⟨[true], "US".toList, ⟨1000, 0⟩⟩ NlGlobal.zeroed
    (pollCountries [⟨[true], [], ⟨1900, 0⟩⟩, ⟨[true], "US".toList, ⟨2800, 0⟩⟩,
        ⟨[true], [], ⟨3700, 0⟩⟩] g).countryAlpha2 = [] ∧
      (pollCountries [⟨[true], [], ⟨1900, 0⟩⟩, ⟨[true], "US".toList, ⟨2800, 0⟩⟩,
        ⟨[true], [], ⟨3700, 0⟩⟩] g).duringCellReceptionLoss = true ∧
      (pollCountries [⟨[true], [], ⟨1900, 0⟩⟩, ⟨[true], "US".toList, ⟨2800, 0⟩⟩,
        ⟨[true], [], ⟨3700, 0⟩⟩] g).countriesSet = [] :: g.countriesSet :=
  wpaDriverPollCountryChange_grace_outlives_reception rfl rfl rfl (by decide) (by decide)
    (by decide) rfl (by decide) rfl (by decide)

section grace

variable {poll : CountryPoll} {g : NlGlobal}

/-- A poll keeps the grace timestamp, clears it, or sets it to its own time on an empty
code. -/
theorem cellReceptionLoss_wpaDriverPollCountryChange (poll : CountryPoll) (g : NlGlobal) :
    (wpaDriverPollCountryChange poll g).cellReceptionLoss = g.cellReceptionLoss ∨
      (wpaDriverPollCountryChange poll g).cellReceptionLoss = ⟨0, 0⟩ ∨
      countryCode poll.property = [] ∧
        (wpaDriverPollCountryChange poll g).cellReceptionLoss = poll.now := by
  unfold wpaDriverPollCountryChange
  dsimp only
  split_ifs with empty station same lost
  · exact .inl rfl
  · exact .inl rfl
  · exact .inl rfl
  · exact .inr (.inr ⟨lost, rfl⟩)
  · exact .inl rfl
  · exact .inr (.inl rfl)
  · exact .inr (.inl rfl)

/-- Reception loss is reported only on an empty code, with a grace timestamp that has
expired. -/
theorem wpaDriverPollCountryChange_reports_loss
    (reported : (wpaDriverPollCountryChange poll g).countriesSet = [] :: g.countriesSet) :
    countryCode poll.property = [] ∧ g.cellReceptionLoss.initialized = true ∧
      osReltimeExpired poll.now g.cellReceptionLoss cellReceptionLossGraceSec = true := by
  unfold wpaDriverPollCountryChange at reported
  dsimp only at reported
  split_ifs at reported with empty station same lost idle waiting
  · simp [NlGlobal.pollAgain] at reported
  · simp at reported
  · simp [NlGlobal.pollAgain] at reported
  · simp [NlGlobal.pollAgain] at reported
  · simp [NlGlobal.pollAgain] at reported
  · exact ⟨lost, by simpa using idle, by simpa using waiting⟩
  · simp [NlGlobal.pollAgain, NlGlobal.setCountry, List.take_eq_nil_iff, lost] at reported

/-- The grace timestamp, when set, is the time of an earlier poll that saw an empty code. -/
def GraceFrom (history : List CountryPoll) (g : NlGlobal) : Prop :=
  g.cellReceptionLoss.initialized = true →
    ∃ p ∈ history, countryCode p.property = [] ∧ p.now = g.cellReceptionLoss

theorem GraceFrom.step {history : List CountryPoll} (inv : GraceFrom history g)
    (poll : CountryPoll) : GraceFrom (poll :: history) (wpaDriverPollCountryChange poll g) := by
  intro started
  obtain kept | cleared | ⟨lost, stamped⟩ :=
    cellReceptionLoss_wpaDriverPollCountryChange poll g
  · obtain ⟨p, member, empty, time⟩ := inv (kept ▸ started)
    exact ⟨p, List.mem_cons_of_mem _ member, empty, time.trans kept.symm⟩
  · rw [cleared] at started
    cases started
  · exact ⟨poll, List.mem_cons_self _ _, lost, stamped.symm⟩

/-- From a zeroed record, every grace timestamp comes from a poll of the run. -/
theorem graceFrom_pollCountries :
    ∀ (polls : List CountryPoll) (history : List CountryPoll) (g : NlGlobal),
      GraceFrom history g → GraceFrom (polls.reverse ++ history) (pollCountries polls g)
  | [], _, _, inv => inv
  | poll :: rest, history, g, inv => by
    have next := graceFrom_pollCountries rest (poll :: history) _ (inv.step poll)
    simpa [pollCountries] using next

/-- Along every run of polls from a zeroed record, a poll reports reception loss only on an
empty code, and only when an earlier poll saw an empty code more than
`CELL_RECEPTION_LOSS_GRACE_SEC` before it. -/
theorem pollCountries_reports_loss_after_grace (polls : List CountryPoll) (poll : CountryPoll)
    (reported : (wpaDriverPollCountryChange poll (pollCountries polls .zeroed)).countriesSet =
      [] :: (pollCountries polls .zeroed).countriesSet) :
    countryCode poll.property = [] ∧ ∃ p ∈ polls, countryCode p.property = [] ∧
      osReltimeExpired poll.now p.now cellReceptionLossGraceSec = true := by
  obtain ⟨lost, started, expired⟩ := wpaDriverPollCountryChange_reports_loss reported
  obtain ⟨p, member, empty, time⟩ :=
    graceFrom_pollCountries polls [] .zeroed (fun never => by cases never) started
  rw [List.append_nil, List.mem_reverse] at member
  exact ⟨lost, p, member, empty, time ▸ expired⟩

/-- "US", then an empty code at 200 s: the empty code at 1200 s is reported. -/
theorem pollCountries_reports_loss_after_grace_us :
    let polls : List CountryPoll := [⟨[true], "US".toList, ⟨100, 0⟩⟩, ⟨[true], [], ⟨200, 0⟩⟩]
    let poll : CountryPoll := ⟨[true], [], ⟨1200, 0⟩⟩
    (wpaDriverPollCountryChange poll (pollCountries polls .zeroed)).countriesSet =
        [] :: (pollCountries polls .zeroed).countriesSet ∧
      countryCode poll.property = [] ∧ ∃ p ∈ polls, countryCode p.property = [] ∧
        osReltimeExpired poll.now p.now cellReceptionLossGraceSec = true :=
  ⟨rfl, pollCountries_reports_loss_after_grace _ _ rfl⟩

end grace

end TdlsAutoMode
