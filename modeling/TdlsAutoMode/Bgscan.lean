import TdlsAutoMode.Model.Basic

/-! # The background-scan dispatcher

`bgscan_init` (`src/wpa_supplicant/bgscan.c`) selects a background-scan module by the part of
the configured name before the first ':' and initializes it with the rest. The modules are
the table `bgscan_modules` as compiled in; their callbacks live in other files, so a module is
its name and what its `init` returns (`BgscanOps`).

The name is compared with `os_strncmp` over the length of the name part only, so the first
module whose name merely starts with the name part is selected
(`bgscanInit_initializes_prefix`): a proper prefix of a module's name, and the empty name
part, select a module as the full name does. A name part that starts no module's name
selects none (`bgscanInit_of_no_prefix`).

The five `bgscan_notify_*` functions pass an event on to the module only while both
`wpa_s->bgscan` and `wpa_s->bgscan_priv` are set and the module has the callback; what the
module does with it is outside src/. Seen from the modules, the dispatcher keeps a simple
protocol (`BgscanLog`) whatever the names: an `init` is made only while no module is live, an
`init` that returned no private state is followed by no `deinit`, a live module is
deinitialized exactly once, before the next `init`, and every notification goes to the live
module (`bgscanReachable_protocol`).
-/

namespace TdlsAutoMode

/-- `struct bgscan_ops`, as far as the dispatcher uses it: the module's name, and whether its
`init` returns a private state for the parameters it is given. -/
structure BgscanOps where
  name : List Char
  init : List Char → Bool

/-- A call of the dispatcher into a module. -/
inductive BgscanCall
  | init (module params : List Char)
  | deinit (module : List Char)
  deriving DecidableEq

/-- The fields of `struct wpa_supplicant` the dispatcher reads and writes (`bgscan`, and
whether `bgscan_priv` is set), with the calls made into modules so far, newest first. -/
structure BgscanState where
  bgscan : Option BgscanOps
  bgscanPriv : Bool
  calls : List BgscanCall

/-- `os_strncmp` (the C library's `strncmp`) on strings without a NUL: the end of a string
reads as a NUL, below every character. -/
def osStrncmp : List Char → List Char → Nat → Int
  | _, _, 0 => 0
  | [], [], _ + 1 => 0
  | [], _ :: _, _ + 1 => -1
  | _ :: _, [], _ + 1 => 1
  | a :: as, b :: bs, n + 1 =>
    if a = b then osStrncmp as bs n else if a < b then -1 else 1

/-- `os_strncmp` reports equality exactly when the first `n` characters agree. -/
theorem osStrncmp_eq_zero_iff : ∀ (a b : List Char) (n : Nat),
    osStrncmp a b n = 0 ↔ a.take n = b.take n
  | _, _, 0 => by simp [osStrncmp]
  | [], [], _ + 1 => by simp [osStrncmp]
  | [], _ :: _, _ + 1 => by simp [osStrncmp]
  | _ :: _, [], _ + 1 => by simp [osStrncmp]
  | a :: as, b :: bs, n + 1 => by
    by_cases same : a = b
    · simp [osStrncmp, same, osStrncmp_eq_zero_iff as bs n]
    · simp only [osStrncmp, same, if_false, List.take_succ_cons, List.cons.injEq, false_and,
        iff_false]
      split <;> omega

/-- The name part of a `bgscan` string, before the first ':', and the parameters after it
(`params`); `nlen` is the length of the name part. -/
def bgscanNameParams (name : List Char) : List Char × List Char :=
  match name.span (· != ':') with
  | (part, _ :: params) => (part, params)
  | (part, []) => (part, [])

/-- `bgscan_deinit`: a module with a private state is deinitialized and both are cleared. -/
def bgscanDeinit (s : BgscanState) : BgscanState :=
  match s.bgscan with
  | some ops =>
    if s.bgscanPriv then
      { bgscan := none, bgscanPriv := false, calls := .deinit ops.name :: s.calls }
    else s
  | none => s

/-- `bgscan_init`, over the table `bgscan_modules` as compiled in: the first module whose name
`os_strncmp` finds equal to the name over the name part's length is initialized with the
parameters, and it is kept when its `init` returns a private state. -/
def bgscanInit (modules : List BgscanOps) (name : Option (List Char)) (s : BgscanState) :
    Int × BgscanState :=
  let s := bgscanDeinit s
  match name with
  | none => (-1, s)
  | some name =>
    let nlen := (bgscanNameParams name).1.length
    let params := (bgscanNameParams name).2
    match modules.find? (fun ops => osStrncmp name ops.name nlen = 0) with
    | none => (-1, s)
    | some ops =>
      let s := { s with bgscanPriv := ops.init params, calls := .init ops.name params :: s.calls }
      if ops.init params then (0, { s with bgscan := some ops }) else (-1, s)

/-- The name part is a prefix of the name, of its own length. -/
theorem take_length_bgscanNameParams (name : List Char) :
    name.take (bgscanNameParams name).1.length = (bgscanNameParams name).1 := by
  unfold bgscanNameParams
  split <;> rename_i split
  all_goals
    have whole := List.span_eq_take_drop (fun c => c != ':') name
    rw [split] at whole
    simp only [Prod.mk.injEq] at whole
    rw [whole.1]
    exact (List.prefix_iff_eq_take.1 (List.takeWhile_prefix _)).symm

/-- `os_strncmp` over the name part's length finds a module exactly when its name starts with
the name part. -/
theorem osStrncmp_bgscanNameParams (name : List Char) (ops : BgscanOps) :
    osStrncmp name ops.name (bgscanNameParams name).1.length = 0 ↔
      (bgscanNameParams name).1 <+: ops.name := by
  rw [osStrncmp_eq_zero_iff, take_length_bgscanNameParams, List.prefix_iff_eq_take]

/-- The dispatcher's search finds the first module whose name starts with the name part. -/
theorem find?_osStrncmp_bgscanNameParams {pre post : List BgscanOps} {m : BgscanOps}
    {name : List Char} (before : ∀ x ∈ pre, ¬ (bgscanNameParams name).1 <+: x.name)
    (starts : (bgscanNameParams name).1 <+: m.name) :
    (pre ++ m :: post).find?
        (fun ops => osStrncmp name ops.name (bgscanNameParams name).1.length = 0) = some m := by
  induction pre with
  | nil => simp [osStrncmp_bgscanNameParams, starts]
  | cons x rest ih =>
    have skipped := before x (List.mem_cons_self _ _)
    rw [List.cons_append,
      List.find?_cons_of_neg _ (by simpa [osStrncmp_bgscanNameParams]),
      ih fun y member => before y (List.mem_cons_of_mem _ member)]

/-- **A name part that starts a module's name selects it.** Whatever the table, a name whose
part before the first ':' starts the name of a module, and starts no earlier module's,
initializes that module with the parameters: a proper prefix of its name, the empty part
included, as well as its full name. `bgscan_init` returns 0 when the module's `init` returns
a private state. -/
theorem bgscanInit_initializes_prefix (pre : List BgscanOps) {post : List BgscanOps}
    {m : BgscanOps} {name : List Char}
    (before : ∀ x ∈ pre, ¬ (bgscanNameParams name).1 <+: x.name)
    (starts : (bgscanNameParams name).1 <+: m.name) (s : BgscanState) :
    (bgscanInit (pre ++ m :: post) (some name) s).2.calls =
        .init m.name (bgscanNameParams name).2 :: (bgscanDeinit s).calls ∧
      (bgscanInit (pre ++ m :: post) (some name) s).1 =
        if m.init (bgscanNameParams name).2 then 0 else -1 := by
  simp only [bgscanInit, find?_osStrncmp_bgscanNameParams before starts]
  split <;> simp_all

/-- The name "sim" initializes the module "simple" of a table with "simple" and "learn". -/
theorem bgscanInit_initializes_prefix_sim :
    (bgscanInit [⟨"simple".toList, fun _ => true⟩, ⟨"learn".toList, fun _ => true⟩]
        (some "sim".toList) ⟨none, false, []⟩).2.calls = [.init "simple".toList []] ∧
      (bgscanInit [⟨"simple".toList, fun _ => true⟩, ⟨"learn".toList, fun _ => true⟩]
        (some "sim".toList) ⟨none, false, []⟩).1 = 0 :=
  bgscanInit_initializes_prefix [] (fun _ never => by cases never) (by decide) _

/-- With no module whose name starts with the name part, `bgscan_init` returns -1 and calls no
`init`. -/
theorem bgscanInit_of_no_prefix {modules : List BgscanOps} {name : List Char}
    (unmatched : ∀ x ∈ modules, ¬ (bgscanNameParams name).1 <+: x.name) (s : BgscanState) :
    bgscanInit modules (some name) s = (-1, bgscanDeinit s) := by
  have missing : modules.find?
      (fun ops => osStrncmp name ops.name (bgscanNameParams name).1.length = 0) = none :=
    List.find?_eq_none.2 fun x member => by
      simpa [osStrncmp_bgscanNameParams] using unmatched x member
  simp only [bgscanInit, missing]

/-- The notification callbacks of `struct bgscan_ops`. -/
inductive BgscanNotify
  | scan
  | beaconLoss
  | signalChange
  | tcmChanged
  | scanTrigger
  deriving DecidableEq

/-- The module a `bgscan_notify_*` function calls: `wpa_s->bgscan`, when `bgscan_priv` is set
and the module's callback for the notification is not NULL (`hooks`). The notification's
arguments are passed on unchanged. -/
def bgscanNotify (hooks : BgscanOps → BgscanNotify → Bool) (kind : BgscanNotify)
    (s : BgscanState) : Option BgscanOps :=
  match s.bgscan with
  | some ops => if s.bgscanPriv && hooks ops kind then some ops else none
  | none => none

/-- `bgscan_notify_scan`: what the module's `notify_scan` answers for `notify_only`, or 0 when
no module is called. -/
def bgscanNotifyScan (hooks : BgscanOps → BgscanNotify → Bool)
    (notifyScan : BgscanOps → Bool → Int) (notifyOnly : Bool) (s : BgscanState) : Int :=
  match bgscanNotify hooks .scan s with
  | some ops => notifyScan ops notifyOnly
  | none => 0

/-- `bgscan_notify_beacon_loss`: the module it calls. -/
def bgscanNotifyBeaconLoss (hooks : BgscanOps → BgscanNotify → Bool) :
    BgscanState → Option BgscanOps :=
  bgscanNotify hooks .beaconLoss

/-- `bgscan_notify_signal_change`: the module it calls. -/
def bgscanNotifySignalChange (hooks : BgscanOps → BgscanNotify → Bool) :
    BgscanState → Option BgscanOps :=
  bgscanNotify hooks .signalChange

/-- `bgscan_notify_tcm_changed`: the module it calls. -/
def bgscanNotifyTcmChanged (hooks : BgscanOps → BgscanNotify → Bool) :
    BgscanState → Option BgscanOps :=
  bgscanNotify hooks .tcmChanged

/-- `bgscan_notify_scan_trigger`: the module it calls. -/
def bgscanNotifyScanTrigger (hooks : BgscanOps → BgscanNotify → Bool) :
    BgscanState → Option BgscanOps :=
  bgscanNotify hooks .scanTrigger

/-- The dispatcher's states along every run: from a supplicant with no module, any sequence of
`bgscan_init` (with any name) and `bgscan_deinit`. Notifications change no field of it. -/
inductive BgscanReachable (modules : List BgscanOps) : BgscanState → Prop
  | initial : BgscanReachable modules ⟨none, false, []⟩
  | init {s : BgscanState} (name : Option (List Char)) :
      BgscanReachable modules s → BgscanReachable modules (bgscanInit modules name s).2
  | deinit {s : BgscanState} :
      BgscanReachable modules s → BgscanReachable modules (bgscanDeinit s)

/-- The protocol between the dispatcher and the modules of the table, over the calls made so
far (newest first); the index is the module that is live after them. -/
inductive BgscanLog (modules : List BgscanOps) : Option BgscanOps → List BgscanCall → Prop
  | nil : BgscanLog modules none []
  | initFailed {ops : BgscanOps} {params : List Char} {calls : List BgscanCall} :
      ops ∈ modules → ops.init params = false → BgscanLog modules none calls →
      BgscanLog modules none (.init ops.name params :: calls)
  | initialized {ops : BgscanOps} {params : List Char} {calls : List BgscanCall} :
      ops ∈ modules → ops.init params = true → BgscanLog modules none calls →
      BgscanLog modules (some ops) (.init ops.name params :: calls)
  | deinit {ops : BgscanOps} {calls : List BgscanCall} :
      BgscanLog modules (some ops) calls → BgscanLog modules none (.deinit ops.name :: calls)

/-- The invariant of the dispatcher: its calls follow the protocol with `wpa_s->bgscan` the
live module, and `bgscan_priv` is set exactly when `bgscan` is. -/
def BgscanState.WellFormed (modules : List BgscanOps) (s : BgscanState) : Prop :=
  BgscanLog modules s.bgscan s.calls ∧ s.bgscanPriv = s.bgscan.isSome

/-- `bgscan_deinit` keeps the invariant and leaves no module live. -/
theorem BgscanState.WellFormed.bgscanDeinit {modules : List BgscanOps} {s : BgscanState}
    (wf : s.WellFormed modules) :
    (TdlsAutoMode.bgscanDeinit s).WellFormed modules ∧
      (TdlsAutoMode.bgscanDeinit s).bgscan = none := by
  obtain ⟨log, priv⟩ := wf
  unfold TdlsAutoMode.bgscanDeinit
  cases live : s.bgscan with
  | none => simp_all [BgscanState.WellFormed]
  | some ops =>
    rw [live] at log priv
    simpa [BgscanState.WellFormed, priv] using BgscanLog.deinit log

/-- `bgscan_init` keeps the invariant. -/
theorem BgscanState.WellFormed.bgscanInit {modules : List BgscanOps} {s : BgscanState}
    (wf : s.WellFormed modules) (name : Option (List Char)) :
    (TdlsAutoMode.bgscanInit modules name s).2.WellFormed modules := by
  obtain ⟨idleWellFormed, idle⟩ := wf.bgscanDeinit
  have log := idle ▸ idleWellFormed.1
  unfold TdlsAutoMode.bgscanInit
  cases name with
  | none => exact idleWellFormed
  | some name =>
    dsimp only
    split
    · exact idleWellFormed
    · rename_i ops found
      have member := List.mem_of_find?_eq_some found
      cases answer : ops.init (bgscanNameParams name).2
      · simpa [BgscanState.WellFormed, answer, idle] using BgscanLog.initFailed member answer log
      · simpa [BgscanState.WellFormed, answer] using BgscanLog.initialized member answer log

/-- Every reachable state of the dispatcher is well formed. -/
theorem BgscanReachable.wellFormed {modules : List BgscanOps} {s : BgscanState}
    (reachable : BgscanReachable modules s) : s.WellFormed modules := by
  induction reachable with
  | initial => exact ⟨.nil, rfl⟩
  | init name _ ih => exact ih.bgscanInit name
  | deinit _ ih => exact ih.bgscanDeinit.1

/-- **The dispatcher keeps the modules' protocol.** Along every run of `bgscan_init` and
`bgscan_deinit`, whatever the table and the names, the calls made into the modules follow
`BgscanLog`: no `init` while a module is live, no `deinit` after an `init` that failed, and
one `deinit` for each live module, before the next `init`. Every notification goes to the
module that is live by that protocol, when it has the callback: never to one already
deinitialized, nor to one whose `init` failed. -/
theorem bgscanReachable_protocol {modules : List BgscanOps} {s : BgscanState}
    (reachable : BgscanReachable modules s) (hooks : BgscanOps → BgscanNotify → Bool)
    (kind : BgscanNotify) :
    BgscanLog modules s.bgscan s.calls ∧
      bgscanNotify hooks kind s = s.bgscan.filter (hooks · kind) := by
  obtain ⟨log, priv⟩ := reachable.wellFormed
  refine ⟨log, ?_⟩
  unfold bgscanNotify
  cases live : s.bgscan <;> simp_all [Option.filter]

/-- A table whose module "learn" refuses empty parameters. -/
def bgscanSampleModules : List BgscanOps :=
  [⟨"simple".toList, fun _ => true⟩, ⟨"learn".toList, fun params => !params.isEmpty⟩]

/-- "simple:30" initializes "simple"; then "learn" deinitializes it and fails: no module is
live and none is notified. -/
theorem bgscanReachable_protocol_learn_fails :
    BgscanLog bgscanSampleModules none
        [.init "learn".toList [], .deinit "simple".toList, .init "simple".toList "30".toList] ∧
      bgscanNotify (fun _ _ => true) .beaconLoss
        (bgscanInit bgscanSampleModules (some "learn".toList)
          (bgscanInit bgscanSampleModules (some "simple:30".toList) ⟨none, false, []⟩).2).2 =
        none :=
  let run := BgscanReachable.init (some "learn".toList)
    (.init (some "simple:30".toList) (@BgscanReachable.initial bgscanSampleModules))
  ⟨(bgscanReachable_protocol run (fun _ _ => true) .beaconLoss).1,
    (bgscanReachable_protocol run (fun _ _ => true) .beaconLoss).2⟩

end TdlsAutoMode
