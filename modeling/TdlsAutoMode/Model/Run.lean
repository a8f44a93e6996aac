import TdlsAutoMode.Model.Handlers

/-! # Runs of the controller

The supplicant, the driver and the event loop call into the controller one callback at a
time, each running to completion. `Event` lists these callbacks, `Event.apply` runs one
with the capability answers of its moment, and `Reachable` is every state that a
sequence of them reaches from `tdls_auto_init`, for every configuration and every
sequence of capability answers. A timeout fires only while registered, and the event
loop unregisters it before it calls the handler.
-/

namespace TdlsAutoMode

/-- A callback into the controller. -/
inductive Event
  | modeStart (addr : MacAddr)
  | modeStop (addr : MacAddr)
  | removePeers (killActiveLinks : Bool)
  | peerConnected (addr : MacAddr)
  | peerDisconnected (addr : MacAddr)
  | discoveryResponse (addr : MacAddr) (rssi : Int)
  | timeout (handler : Handler)

/-- The event loop fires a registered timeout: it is unregistered, then its handler runs. -/
def fireTimeout (caps : Capabilities) (handler : Handler) (s : State) : State :=
  handler.run caps (tdlsAutoCancelTimer handler s)

/-- Run one callback. -/
def Event.apply (caps : Capabilities) : Event → State → State
  | .modeStart addr, s => (tdlsAutoModeStart caps addr s).2
  | .modeStop addr, s => tdlsAutoModeStop caps.disconnect addr s
  | .removePeers killActiveLinks, s => tdlsAutoRemovePeers caps killActiveLinks s
  | .peerConnected addr, s => tdlsAutoPeerConnected caps addr s
  | .peerDisconnected addr, s => tdlsAutoPeerDisconnected caps.disconnect addr s
  | .discoveryResponse addr rssi, s => tdlsAutoDiscoveryResponse caps addr rssi s
  | .timeout handler, s => fireTimeout caps handler s

/-- A timeout can fire only while it is registered; any other callback can come at any
time. -/
def Event.Enabled : Event → State → Prop
  | .timeout handler, s => s.pending handler = true
  | _, _ => True

instance Event.decidableEnabled : (event : Event) → (s : State) → Decidable (event.Enabled s)
  | .timeout handler, s => inferInstanceAs (Decidable (s.pending handler = true))
  | .modeStart _, _ | .modeStop _, _ | .removePeers _, _ | .peerConnected _, _
  | .peerDisconnected _, _ | .discoveryResponse _ _, _ => isTrue trivial

/-- The states of a live controller. -/
inductive Reachable : State → Prop
  | init (extn : WpasTdlsAutoCtx) : Reachable (tdlsAutoInit extn)
  | step {s : State} (caps : Capabilities) (event : Event) :
      Reachable s → event.Enabled s → Reachable (event.apply caps s)

/-- A property that holds of `tdls_auto_init` and that every enabled callback keeps. -/
structure Invariant (holds : State → Prop) : Prop where
  init : ∀ extn, holds (tdlsAutoInit extn)
  step : ∀ {s} (caps : Capabilities) (event : Event), Reachable s → holds s →
    event.Enabled s → holds (event.apply caps s)

/-- An invariant holds in every reachable state. -/
theorem Invariant.reachable {holds : State → Prop} (invariant : Invariant holds) {s : State}
    (reachable : Reachable s) : holds s := by
  induction reachable with
  | init extn => exact invariant.init extn
  | step caps event reachable enabled ih => exact invariant.step caps event reachable ih enabled

/-- The states of the runs that stay within `within` after every callback. -/
inductive ReachableWithin (within : State → Prop) : State → Prop
  | init (extn : WpasTdlsAutoCtx) : within (tdlsAutoInit extn) →
      ReachableWithin within (tdlsAutoInit extn)
  | step {s : State} (caps : Capabilities) (event : Event) : ReachableWithin within s →
      event.Enabled s → within (event.apply caps s) → ReachableWithin within (event.apply caps s)

theorem ReachableWithin.reachable {within : State → Prop} {s : State}
    (reachable : ReachableWithin within s) : Reachable s := by
  induction reachable with
  | init extn => exact .init extn
  | step caps event _ enabled _ ih => exact ih.step caps event enabled

theorem ReachableWithin.holds {within : State → Prop} {s : State}
    (reachable : ReachableWithin within s) : within s := by
  cases reachable with
  | init _ holds => exact holds
  | step _ _ _ _ holds => exact holds

/-- Run callbacks one after another, each with the capability answers of its moment. -/
def runEvents : List (Capabilities × Event) → State → State
  | [], s => s
  | (caps, event) :: rest, s => runEvents rest (event.apply caps s)

/-- Every callback of the list is enabled when it comes. -/
def EventsEnabled : List (Capabilities × Event) → State → Prop
  | [], _ => True
  | (caps, event) :: rest, s => event.Enabled s ∧ EventsEnabled rest (event.apply caps s)

instance EventsEnabled.decidable : (events : List (Capabilities × Event)) → (s : State) →
    Decidable (EventsEnabled events s)
  | [], _ => isTrue trivial
  | (caps, event) :: rest, s =>
    haveI := EventsEnabled.decidable rest (event.apply caps s)
    inferInstanceAs (Decidable (event.Enabled s ∧ EventsEnabled rest (event.apply caps s)))

theorem Reachable.runEvents {s : State} (reachable : Reachable s) :
    ∀ {events : List (Capabilities × Event)}, EventsEnabled events s →
      Reachable (TdlsAutoMode.runEvents events s)
  | [], _ => reachable
  | (_, _) :: _, ⟨enabled, rest⟩ => (reachable.step _ _ enabled).runEvents rest

/-- Capability answers in which every driver call succeeds: accounting entries are added,
the byte counters read zero, `get_rssi` reads `rssi`, and the clock stands at zero. -/
def Capabilities.nominal (reenters : Bool) (rssi : Int) : Capabilities where
  monitorTraffic := fun _ _ => 0
  getStaBytes := fun _ => some (0, 0)
  getRssi := fun _ => rssi
  connect := fun _ => 0
  disconnectReenters := reenters
  zallocSucceeds := true
  now := ⟨0, 0⟩

/-- Capability answers one second after the zero time of a new peer's record, with a
megabyte moved each way: every rate sample of a new peer reads 16 Mbit/s. -/
def Capabilities.busy : Capabilities :=
  { Capabilities.nominal false (-60) with
    getStaBytes := fun _ => some (1000000, 1000000)
    now := ⟨1, 0⟩ }

/-- The thresholds of the spec's scenarios: connect above -70 dBm and 10 kbps, tear down
below 10 kbps or after more than two readings below -75 dBm, at most one connected peer. -/
def scenarioConfig : WpasTdlsAutoCtx where
  tdlsAutoRssiConnectThreshold := -70
  tdlsAutoDataConnectThreshold := 10000
  tdlsAutoFastConnectPeriod := 1000
  tdlsAutoSlowConnectPeriod := 30000
  tdlsAutoDataTeardownThreshold := 10000
  tdlsAutoDataTeardownPeriod := 5000
  tdlsAutoRssiTeardownThreshold := -75
  tdlsAutoRssiTeardownPeriod := 1000
  tdlsAutoRssiTeardownCount := 2
  tdlsAutoMaxConnectedPeers := 1

/-- Station `aabb.ccdd.ee01`. -/
def stationA : MacAddr := ⟨[0xaa, 0xbb, 0xcc, 0xdd, 0xee, 0x01], rfl⟩

/-- Station `aabb.ccdd.ee02`. -/
def stationB : MacAddr := ⟨[0xaa, 0xbb, 0xcc, 0xdd, 0xee, 0x02], rfl⟩

end TdlsAutoMode
