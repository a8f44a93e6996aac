import TdlsAutoMode.ConnectCap

/-! # The supplicant's side of auto-mode

`tdls_auto_glue.c` binds the controller to `wpa_supplicant`. `wpas_tdls_auto_init` copies the
configuration out of `wpa_s->conf`, checks it and creates the controller; the six
`wpas_tdls_auto_*` wrappers forward the supplicant's callbacks to it while auto-mode is enabled
in the configuration and the controller exists; `wpas_tdls_auto_deinit` frees it under the same
condition. The event loop fires the controller's timeouts itself, without asking the
configuration.

`WpaSupplicant` is the part of `struct wpa_supplicant` the glue reads, and `SupplicantEvent` is
one call into the glue, one timeout, or a replacement of the configuration (the control
interface and a reconfiguration do that, outside src/). This is the level above `Model.Run`: a
supplicant event reaches a held controller as at most one controller callback
(`SupplicantEvent.delivered`). So a run of the supplicant that frees nothing projects onto a
run of the controller it holds (`runSupplicant_projects`), and every controller the supplicant
holds is a reachable controller state whose configuration passed the init check
(`supplicant_controller_reachable`): every invariant of the controller modules holds of it.

The wrappers and deinit read the current configuration. Once auto-mode is disabled there,
deinit no longer frees the controller and the wrappers no longer reach it, but the event loop
still fires its timeouts (`disabled_controller_runs_on_timeouts`).

What a freed controller leaves behind is kept in `retired`; the timeouts it leaves registered
fire into freed memory and are outside this model.
-/

namespace TdlsAutoMode

/-- The fields of `struct wpa_config` the glue reads: `tdls_auto_enabled`, and the ten
`tdls_auto_*` parameters that `wpas_tdls_auto_init` copies one by one into the fields of the
same names of `struct wpas_tdls_auto_ctx`. -/
structure WpaConfig where
  tdlsAutoEnabled : Bool
  tdlsAutoParams : WpasTdlsAutoCtx
  deriving DecidableEq

/-- The part of `struct wpa_supplicant` the glue reads and writes: the configuration
`wpa_s->conf`, whether the TDLS state machine runs with external setup
(`wpa_tdls_is_external_setup(wpa_s->wpa)`), and the controller `wpa_s->tdls_auto` (`none` for
`NULL`). `retired` keeps what each `tdls_auto_deinit` left behind, newest first. -/
structure WpaSupplicant where
  conf : WpaConfig
  tdlsExternalSetup : Bool
  tdlsAuto : Option State
  retired : List State

/-- The guard of the wrappers, `if (!wpa_s->conf->tdls_auto_enabled || !wpa_s->tdls_auto)
return;`, followed by the controller call. -/
def WpaSupplicant.forward (call : State → State) (wpaS : WpaSupplicant) : WpaSupplicant :=
  match wpaS.conf.tdlsAutoEnabled, wpaS.tdlsAuto with
  | true, some ctx => { wpaS with tdlsAuto := some (call ctx) }
  | _, _ => wpaS

/-- `wpas_tdls_auto_peer_connected`. -/
def wpasTdlsAutoPeerConnected (caps : Capabilities) (addr : MacAddr) :
    WpaSupplicant → WpaSupplicant :=
  WpaSupplicant.forward (tdlsAutoPeerConnected caps addr)

/-- `wpas_tdls_auto_peer_disconnected`. -/
def wpasTdlsAutoPeerDisconnected (caps : Capabilities) (addr : MacAddr) :
    WpaSupplicant → WpaSupplicant :=
  WpaSupplicant.forward (tdlsAutoPeerDisconnected caps.disconnect addr)

/-- `wpas_tdls_auto_remove_peers`. -/
def wpasTdlsAutoRemovePeers (caps : Capabilities) (killActiveLinks : Bool) :
    WpaSupplicant → WpaSupplicant :=
  WpaSupplicant.forward (tdlsAutoRemovePeers caps killActiveLinks)

/-- `wpas_tdls_auto_stop`. -/
def wpasTdlsAutoStop (caps : Capabilities) (addr : MacAddr) : WpaSupplicant → WpaSupplicant :=
  WpaSupplicant.forward (tdlsAutoModeStop caps.disconnect addr)

/-- `wpas_tdls_auto_discovery_response`. -/
def wpasTdlsAutoDiscoveryResponse (caps : Capabilities) (addr : MacAddr) (rssi : Int) :
    WpaSupplicant → WpaSupplicant :=
  WpaSupplicant.forward (tdlsAutoDiscoveryResponse caps addr rssi)

/-- `wpas_tdls_auto_start`, the wrapper that returns a value: `-1` when the guard stops the
call, else what `tdls_auto_mode_start` returns. -/
def wpasTdlsAutoStart (caps : Capabilities) (addr : MacAddr) (wpaS : WpaSupplicant) :
    Int × WpaSupplicant :=
  match wpaS.conf.tdlsAutoEnabled, wpaS.tdlsAuto with
  | true, some ctx =>
    ((tdlsAutoModeStart caps addr ctx).1,
      { wpaS with tdlsAuto := some (tdlsAutoModeStart caps addr ctx).2 })
  | _, _ => (-1, wpaS)

/-- `wpas_tdls_auto_init`. `glueAllocated` and `ctxAllocated` answer its two `os_zalloc`
calls: the capability set here, the controller in `tdls_auto_init`. The copied configuration is
rejected when its fast cycle is longer than its slow one. -/
def wpasTdlsAutoInit (glueAllocated ctxAllocated : Bool) (wpaS : WpaSupplicant) :
    Int × WpaSupplicant :=
  if !wpaS.conf.tdlsAutoEnabled then (0, wpaS)
  else if !wpaS.tdlsExternalSetup then (-1, wpaS)
  else if wpaS.tdlsAuto.isSome then (-1, wpaS)
  else if !glueAllocated then (-1, wpaS)
  else
    let glue := wpaS.conf.tdlsAutoParams
    if glue.tdlsAutoFastConnectPeriod > glue.tdlsAutoSlowConnectPeriod then (-1, wpaS)
    else if ctxAllocated then (0, { wpaS with tdlsAuto := some (tdlsAutoInit glue) })
    else (-1, { wpaS with tdlsAuto := none })

/-- `wpas_tdls_auto_deinit`: under the wrappers' guard, `tdls_auto_deinit` and
`wpa_s->tdls_auto = NULL`. -/
def wpasTdlsAutoDeinit (caps : Capabilities) (wpaS : WpaSupplicant) : WpaSupplicant :=
  match wpaS.conf.tdlsAutoEnabled, wpaS.tdlsAuto with
  | true, some ctx =>
    { wpaS with tdlsAuto := none, retired := tdlsAutoDeinit caps ctx :: wpaS.retired }
  | _, _ => wpaS

/-- One thing that happens to the supplicant's auto-mode: a call into the glue, a timeout of
the held controller fired by the event loop, or a new configuration. -/
inductive SupplicantEvent
  | init (glueAllocated ctxAllocated : Bool)
  | deinit (caps : Capabilities)
  | peerConnected (caps : Capabilities) (addr : MacAddr)
  | peerDisconnected (caps : Capabilities) (addr : MacAddr)
  | removePeers (caps : Capabilities) (killActiveLinks : Bool)
  | start (caps : Capabilities) (addr : MacAddr)
  | stop (caps : Capabilities) (addr : MacAddr)
  | discoveryResponse (caps : Capabilities) (addr : MacAddr) (rssi : Int)
  | timeout (caps : Capabilities) (handler : Handler)
  | reconfigure (conf : WpaConfig)

/-- Run one supplicant event. -/
def SupplicantEvent.apply : SupplicantEvent → WpaSupplicant → WpaSupplicant
  | .init glueAllocated ctxAllocated, w => (wpasTdlsAutoInit glueAllocated ctxAllocated w).2
  | .deinit caps, w => wpasTdlsAutoDeinit caps w
  | .peerConnected caps addr, w => wpasTdlsAutoPeerConnected caps addr w
  | .peerDisconnected caps addr, w => wpasTdlsAutoPeerDisconnected caps addr w
  | .removePeers caps killActiveLinks, w => wpasTdlsAutoRemovePeers caps killActiveLinks w
  | .start caps addr, w => (wpasTdlsAutoStart caps addr w).2
  | .stop caps addr, w => wpasTdlsAutoStop caps addr w
  | .discoveryResponse caps addr rssi, w => wpasTdlsAutoDiscoveryResponse caps addr rssi w
  | .timeout caps handler, w => { w with tdlsAuto := w.tdlsAuto.map (fireTimeout caps handler) }
  | .reconfigure conf, w => { w with conf := conf }

/-- A timeout fires only while the held controller has it registered. -/
def SupplicantEvent.enabled : SupplicantEvent → WpaSupplicant → Bool
  | .timeout _ handler, w => w.tdlsAuto.any (·.pending handler)
  | _, _ => true

/-- The supplicant as it starts: no controller yet. -/
def WpaSupplicant.initial (conf : WpaConfig) (tdlsExternalSetup : Bool) : WpaSupplicant :=
  ⟨conf, tdlsExternalSetup, none, []⟩

/-- The states of the supplicant along every run, from every configuration. -/
inductive SupplicantReachable : WpaSupplicant → Prop
  | initial (conf : WpaConfig) (tdlsExternalSetup : Bool) :
      SupplicantReachable (.initial conf tdlsExternalSetup)
  | step {w : WpaSupplicant} (event : SupplicantEvent) :
      SupplicantReachable w → event.enabled w = true → SupplicantReachable (event.apply w)

/-- Run supplicant events one after another. -/
def runSupplicant : List SupplicantEvent → WpaSupplicant → WpaSupplicant
  | [], w => w
  | event :: rest, w => runSupplicant rest (event.apply w)

/-- Every supplicant event of the list is enabled when it comes. -/
def SupplicantEventsEnabled : List SupplicantEvent → WpaSupplicant → Prop
  | [], _ => True
  | event :: rest, w =>
    event.enabled w = true ∧ SupplicantEventsEnabled rest (event.apply w)

/-- The callback as the wrappers pass it on: only while auto-mode is enabled. -/
def WpaSupplicant.whenEnabled (wpaS : WpaSupplicant) (callback : Capabilities × Event) :
    Option (Capabilities × Event) :=
  if wpaS.conf.tdlsAutoEnabled then some callback else none

/-- The controller callback a supplicant event delivers to a held controller. -/
def SupplicantEvent.delivered (w : WpaSupplicant) : SupplicantEvent → Option (Capabilities × Event)
  | .peerConnected caps addr => w.whenEnabled (caps, .peerConnected addr)
  | .peerDisconnected caps addr => w.whenEnabled (caps, .peerDisconnected addr)
  | .removePeers caps killActiveLinks => w.whenEnabled (caps, .removePeers killActiveLinks)
  | .start caps addr => w.whenEnabled (caps, .modeStart addr)
  | .stop caps addr => w.whenEnabled (caps, .modeStop addr)
  | .discoveryResponse caps addr rssi => w.whenEnabled (caps, .discoveryResponse addr rssi)
  | .timeout caps handler => some (caps, .timeout handler)
  | .init _ _ | .deinit _ | .reconfigure _ => none

/-- The event frees the held controller: a deinit while auto-mode is enabled. -/
def SupplicantEvent.frees (w : WpaSupplicant) : SupplicantEvent → Bool
  | .deinit _ => w.conf.tdlsAutoEnabled
  | _ => false

/-- The controller callbacks a run of the supplicant delivers, in order. -/
def deliveredRun : List SupplicantEvent → WpaSupplicant → List (Capabilities × Event)
  | [], _ => []
  | event :: rest, w => (event.delivered w).toList ++ deliveredRun rest (event.apply w)

/-- No event of the run frees the controller. -/
def KeepsController : List SupplicantEvent → WpaSupplicant → Prop
  | [], _ => True
  | event :: rest, w => event.frees w = false ∧ KeepsController rest (event.apply w)

section held

variable {w : WpaSupplicant} {ctx : State}

theorem WpaSupplicant.forward_of_held (held : w.tdlsAuto = some ctx) (call : State → State) :
    (w.forward call).tdlsAuto = if w.conf.tdlsAutoEnabled then some (call ctx) else some ctx := by
  unfold WpaSupplicant.forward
  cases enabled : w.conf.tdlsAutoEnabled <;> simp [held]

/-- A wrapper delivers its callback to the held controller exactly when auto-mode is
enabled. -/
theorem WpaSupplicant.forward_whenEnabled (held : w.tdlsAuto = some ctx) (caps : Capabilities)
    (event : Event) :
    (w.forward (Event.apply caps event)).tdlsAuto =
      some (runEvents (w.whenEnabled (caps, event)).toList ctx) := by
  rw [WpaSupplicant.forward_of_held held, WpaSupplicant.whenEnabled]
  cases w.conf.tdlsAutoEnabled <;> rfl

theorem wpasTdlsAutoInit_of_held (held : w.tdlsAuto = some ctx)
    (glueAllocated ctxAllocated : Bool) :
    (wpasTdlsAutoInit glueAllocated ctxAllocated w).2 = w := by
  simp only [wpasTdlsAutoInit, held, Option.isSome_some, ↓reduceIte, Bool.not_eq_true', ite_self]
  split <;> rfl

theorem wpasTdlsAutoStart_snd (caps : Capabilities) (addr : MacAddr) :
    (wpasTdlsAutoStart caps addr w).2 = w.forward (Event.apply caps (.modeStart addr)) := by
  unfold wpasTdlsAutoStart WpaSupplicant.forward
  split <;> rfl

/-- **One supplicant step, seen from the held controller.** An event that does not free the
controller runs on it exactly the callback it delivers; one that frees it leaves none. -/
theorem SupplicantEvent.tdlsAuto_apply (event : SupplicantEvent) (held : w.tdlsAuto = some ctx) :
    (event.apply w).tdlsAuto = if event.frees w then none
      else some (runEvents (event.delivered w).toList ctx) := by
  cases event with
  | init glueAllocated ctxAllocated =>
    simp [SupplicantEvent.apply, SupplicantEvent.frees, SupplicantEvent.delivered,
      wpasTdlsAutoInit_of_held held, held, runEvents]
  | deinit caps =>
    simp only [SupplicantEvent.apply, SupplicantEvent.frees, SupplicantEvent.delivered,
      wpasTdlsAutoDeinit, held]
    cases w.conf.tdlsAutoEnabled <;> simp [held, runEvents]
  | start caps addr =>
    rw [SupplicantEvent.apply, wpasTdlsAutoStart_snd, WpaSupplicant.forward_whenEnabled held]
    rfl
  | timeout caps handler => simp [SupplicantEvent.apply, held, SupplicantEvent.frees,
      SupplicantEvent.delivered, runEvents, Event.apply]
  | reconfigure conf => simp [SupplicantEvent.apply, held, SupplicantEvent.frees,
      SupplicantEvent.delivered, runEvents]
  | peerConnected caps addr =>
    exact WpaSupplicant.forward_whenEnabled held caps (.peerConnected addr)
  | peerDisconnected caps addr =>
    exact WpaSupplicant.forward_whenEnabled held caps (.peerDisconnected addr)
  | removePeers caps killActiveLinks =>
    exact WpaSupplicant.forward_whenEnabled held caps (.removePeers killActiveLinks)
  | stop caps addr => exact WpaSupplicant.forward_whenEnabled held caps (.modeStop addr)
  | discoveryResponse caps addr rssi =>
    exact WpaSupplicant.forward_whenEnabled held caps (.discoveryResponse addr rssi)

/-- What a supplicant event delivers is enabled in the held controller when the event is. -/
theorem SupplicantEvent.eventsEnabled_delivered (event : SupplicantEvent)
    (held : w.tdlsAuto = some ctx) (enabled : event.enabled w = true) :
    EventsEnabled (event.delivered w).toList ctx := by
  cases event <;>
    simp only [SupplicantEvent.delivered, WpaSupplicant.whenEnabled] <;>
    try split
  all_goals first
    | exact ⟨trivial, trivial⟩
    | exact trivial
    | simpa [SupplicantEvent.enabled, held, EventsEnabled, Event.Enabled] using enabled

end held

theorem EventsEnabled.append {s : State} :
    ∀ {first : List (Capabilities × Event)} {rest : List (Capabilities × Event)},
      EventsEnabled first s → EventsEnabled rest (runEvents first s) →
        EventsEnabled (first ++ rest) s
  | [], _, _, later => later
  | (_, _) :: _, _, ⟨now, first⟩, later => ⟨now, first.append later⟩

theorem runEvents_append (first rest : List (Capabilities × Event)) (s : State) :
    runEvents (first ++ rest) s = runEvents rest (runEvents first s) := by
  induction first generalizing s with
  | nil => rfl
  | cons head first ih => exact ih _

/-- **A run of the supplicant projects onto a run of its controller.** Along a run that
frees nothing, the held controller goes through exactly the callbacks the run delivers, each
enabled when it comes. -/
theorem runSupplicant_keepsController :
    ∀ (events : List SupplicantEvent) {w : WpaSupplicant} {ctx : State},
      KeepsController events w → SupplicantEventsEnabled events w → w.tdlsAuto = some ctx →
        EventsEnabled (deliveredRun events w) ctx ∧
          (runSupplicant events w).tdlsAuto = some (runEvents (deliveredRun events w) ctx)
  | [], _, _, _, _, held => ⟨trivial, held⟩
  | event :: rest, w, ctx, ⟨keeps, kept⟩, ⟨enabled, later⟩, held => by
    have step := event.tdlsAuto_apply held
    rw [keeps, if_neg Bool.false_ne_true] at step
    obtain ⟨restEnabled, restRun⟩ := runSupplicant_keepsController rest kept later step
    refine ⟨(event.eventsEnabled_delivered held enabled).append restEnabled, ?_⟩
    rw [deliveredRun, runEvents_append]
    exact restRun

/-- A supplicant event without a deinit frees nothing. -/
def SupplicantEvent.isDeinit : SupplicantEvent → Bool
  | .deinit _ => true
  | _ => false

theorem keepsController_of_no_deinit :
    ∀ (events : List SupplicantEvent) (w : WpaSupplicant),
      (∀ event ∈ events, event.isDeinit = false) → KeepsController events w
  | [], _, _ => trivial
  | event :: rest, w, noDeinit => by
    refine ⟨?_, keepsController_of_no_deinit rest _ fun e mem => noDeinit e (.tail _ mem)⟩
    have := noDeinit event (.head _)
    cases event <;> first | rfl | cases this

/-- **Refinement of the controller by the supplicant.** Between its creation and the next
deinit, the controller the supplicant holds runs exactly the controller callbacks that the
supplicant's run delivers, in order, each enabled when it comes: a run of `Model.Run` from it. -/
theorem runSupplicant_projects (events : List SupplicantEvent) {w : WpaSupplicant} {ctx : State}
    (noDeinit : ∀ event ∈ events, event.isDeinit = false)
    (enabled : SupplicantEventsEnabled events w) (held : w.tdlsAuto = some ctx) :
    EventsEnabled (deliveredRun events w) ctx ∧
      (runSupplicant events w).tdlsAuto = some (runEvents (deliveredRun events w) ctx) :=
  runSupplicant_keepsController events (keepsController_of_no_deinit events w noDeinit) enabled
    held

/-- Auto-mode enabled with the spec's thresholds, on a supplicant with external setup, after a
successful init. -/
def startedSupplicant : WpaSupplicant :=
  (SupplicantEvent.init true true).apply (.initial ⟨true, scenarioConfig⟩ true)

theorem runSupplicant_projects_start :
    (deliveredRun [.start (.nominal false (-60)) stationA] startedSupplicant).length = 1 ∧
      EventsEnabled (deliveredRun [.start (.nominal false (-60)) stationA] startedSupplicant)
        (tdlsAutoInit scenarioConfig) ∧
      (runSupplicant [.start (.nominal false (-60)) stationA] startedSupplicant).tdlsAuto =
        some (runEvents (deliveredRun [.start (.nominal false (-60)) stationA] startedSupplicant)
          (tdlsAutoInit scenarioConfig)) :=
  ⟨rfl, runSupplicant_projects _ (by decide) ⟨rfl, trivial⟩ rfl⟩

/-- What the supplicant's controller always is: a reachable controller state, bound to a
configuration whose fast cycle is not longer than its slow one. -/
def WpaSupplicant.Sound (w : WpaSupplicant) : Prop :=
  ∀ ctx, w.tdlsAuto = some ctx →
    Reachable ctx ∧ ctx.extn.tdlsAutoFastConnectPeriod ≤ ctx.extn.tdlsAutoSlowConnectPeriod

/-- `wpas_tdls_auto_init` creates a controller only from a configuration that passed its
check. -/
theorem wpasTdlsAutoInit_creates {w : WpaSupplicant} {glueAllocated ctxAllocated : Bool}
    {ctx : State} (empty : w.tdlsAuto = none)
    (created : (wpasTdlsAutoInit glueAllocated ctxAllocated w).2.tdlsAuto = some ctx) :
    ctx = tdlsAutoInit w.conf.tdlsAutoParams ∧
      w.conf.tdlsAutoParams.tdlsAutoFastConnectPeriod ≤
        w.conf.tdlsAutoParams.tdlsAutoSlowConnectPeriod := by
  simp only [wpasTdlsAutoInit, empty, Option.isSome_none, Bool.false_eq_true, ↓reduceIte,
    apply_ite Prod.snd, apply_ite WpaSupplicant.tdlsAuto, ite_self, Option.ite_none_left_eq_some,
    Option.ite_none_right_eq_some, Option.some.injEq] at created
  obtain ⟨-, -, -, slower, -, rfl⟩ := created
  exact ⟨rfl, uint32_le_iff_toNat_le.2 (Nat.le_of_not_lt slower)⟩

theorem WpaSupplicant.Sound.step {w : WpaSupplicant} (sound : w.Sound) (event : SupplicantEvent)
    (enabled : event.enabled w = true) : (event.apply w).Sound := by
  intro ctx' held'
  cases held : w.tdlsAuto with
  | some ctx =>
    rw [event.tdlsAuto_apply held] at held'
    split at held'
    · cases held'
    · cases held'
      obtain ⟨reachable, periods⟩ := sound ctx held
      refine ⟨reachable.runEvents (event.eventsEnabled_delivered held enabled), ?_⟩
      rwa [extn_runEvents]
  | none =>
    cases event with
    | init glueAllocated ctxAllocated =>
      obtain ⟨rfl, periods⟩ := wpasTdlsAutoInit_creates held held'
      exact ⟨.init _, periods⟩
    | _ => simp [SupplicantEvent.apply, wpasTdlsAutoDeinit, wpasTdlsAutoStart_snd,
        wpasTdlsAutoPeerConnected, wpasTdlsAutoPeerDisconnected, wpasTdlsAutoRemovePeers,
        wpasTdlsAutoStop, wpasTdlsAutoDiscoveryResponse, WpaSupplicant.forward, held] at held'

theorem SupplicantReachable.sound {w : WpaSupplicant} (reachable : SupplicantReachable w) :
    w.Sound := by
  induction reachable with
  | initial conf tdlsExternalSetup => intro ctx none; cases none
  | step event _ enabled sound => exact sound.step event enabled

/-- **The supplicant holds only controllers of `Model.Run`.** Along every run of the
supplicant, from every configuration, through inits that fail or succeed, deinits, wrapper
calls, timeouts and new configurations, the controller it holds is a reachable state of the
controller's own runs, and the configuration bound to it has a fast cycle no longer than its
slow one. -/
theorem supplicant_controller_reachable {w : WpaSupplicant} {ctx : State}
    (reachable : SupplicantReachable w) (held : w.tdlsAuto = some ctx) :
    Reachable ctx ∧ ctx.extn.tdlsAutoFastConnectPeriod ≤ ctx.extn.tdlsAutoSlowConnectPeriod :=
  reachable.sound ctx held

theorem supplicant_controller_reachable_started :
    SupplicantReachable startedSupplicant ∧
      startedSupplicant.tdlsAuto = some (tdlsAutoInit scenarioConfig) ∧
      Reachable (tdlsAutoInit scenarioConfig) ∧
      (tdlsAutoInit scenarioConfig).extn.tdlsAutoFastConnectPeriod ≤
        (tdlsAutoInit scenarioConfig).extn.tdlsAutoSlowConnectPeriod := by
  have reachable : SupplicantReachable startedSupplicant := .step _ (.initial _ _) rfl
  exact ⟨reachable, rfl, supplicant_controller_reachable reachable rfl⟩

/-- The event turns auto-mode on in the configuration. -/
def SupplicantEvent.enablesAutoMode : SupplicantEvent → Bool
  | .reconfigure conf => conf.tdlsAutoEnabled
  | _ => false

/-- A timeout of the controller. -/
def Event.isTimeout : Event → Bool
  | .timeout _ => true
  | _ => false

/-- With auto-mode disabled, a supplicant event frees nothing and delivers at most a timeout,
and the configuration stays disabled unless the event enables it. -/
theorem SupplicantEvent.of_disabled {w : WpaSupplicant} (event : SupplicantEvent)
    (disabled : w.conf.tdlsAutoEnabled = false) :
    event.frees w = false ∧ (∀ callback ∈ (event.delivered w).toList, callback.2.isTimeout) ∧
      (event.enablesAutoMode = false → (event.apply w).conf.tdlsAutoEnabled = false) := by
  cases event <;>
    simp [SupplicantEvent.frees, SupplicantEvent.delivered, WpaSupplicant.whenEnabled,
      SupplicantEvent.enablesAutoMode, SupplicantEvent.apply, Event.isTimeout, disabled,
      wpasTdlsAutoInit, wpasTdlsAutoDeinit, wpasTdlsAutoStart_snd, wpasTdlsAutoPeerConnected,
      wpasTdlsAutoPeerDisconnected, wpasTdlsAutoRemovePeers, wpasTdlsAutoStop,
      wpasTdlsAutoDiscoveryResponse, WpaSupplicant.forward]

theorem disabled_keeps :
    ∀ (events : List SupplicantEvent) {w : WpaSupplicant}, w.conf.tdlsAutoEnabled = false →
      (∀ event ∈ events, event.enablesAutoMode = false) →
        KeepsController events w ∧ ∀ callback ∈ deliveredRun events w, callback.2.isTimeout
  | [], _, _, _ => ⟨trivial, fun _ none => by cases none⟩
  | event :: rest, w, disabled, stays => by
    obtain ⟨keeps, timeouts, still⟩ := event.of_disabled disabled
    obtain ⟨kept, later⟩ := disabled_keeps rest (still (stays event (.head _)))
      fun e mem => stays e (.tail _ mem)
    refine ⟨⟨keeps, kept⟩, fun callback mem => ?_⟩
    rcases List.mem_append.1 mem with now | after
    exacts [timeouts callback now, later callback after]

/-- **A controller disabled at run time is never freed and runs on its timeouts.** Once the
configuration has auto-mode disabled while the supplicant holds a controller, and as long as no
new configuration enables it again, no deinit frees the controller and no wrapper reaches it:
it changes only by the timeouts the event loop fires, each still enabled in it. -/
theorem disabled_controller_runs_on_timeouts (events : List SupplicantEvent)
    {w : WpaSupplicant} {ctx : State} (disabled : w.conf.tdlsAutoEnabled = false)
    (stays : ∀ event ∈ events, event.enablesAutoMode = false)
    (enabled : SupplicantEventsEnabled events w) (held : w.tdlsAuto = some ctx) :
    (∀ callback ∈ deliveredRun events w, callback.2.isTimeout) ∧
      EventsEnabled (deliveredRun events w) ctx ∧
      (runSupplicant events w).tdlsAuto = some (runEvents (deliveredRun events w) ctx) :=
  have ⟨keeps, timeouts⟩ := disabled_keeps events disabled stays
  ⟨timeouts, runSupplicant_keepsController events keeps enabled held⟩

/-- The started supplicant after auto-mode is turned off in its configuration. -/
def disabledSupplicant : WpaSupplicant :=
  (SupplicantEvent.reconfigure ⟨false, scenarioConfig⟩).apply startedSupplicant

theorem disabled_controller_runs_on_timeouts_deinit :
    let events := [SupplicantEvent.deinit (.nominal false (-60)),
      .start (.nominal false (-60)) stationA]
    (∀ callback ∈ deliveredRun events disabledSupplicant, callback.2.isTimeout) ∧
      EventsEnabled (deliveredRun events disabledSupplicant) (tdlsAutoInit scenarioConfig) ∧
      (runSupplicant events disabledSupplicant).tdlsAuto =
        some (runEvents (deliveredRun events disabledSupplicant) (tdlsAutoInit scenarioConfig)) :=
  disabled_controller_runs_on_timeouts _ rfl (by decide) ⟨rfl, rfl, trivial⟩ rfl

end TdlsAutoMode
