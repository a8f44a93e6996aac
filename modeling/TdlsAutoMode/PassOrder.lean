import TdlsAutoMode.ConnectCap
import TdlsAutoMode.ConnectTimers
import TdlsAutoMode.FastCycle

/-! # The periodic passes and the order of the registry

Each of the four timeouts walks the registry with `dl_list_for_each_safe`, and the design
takes the order of that walk to be irrelevant. This module says what a pass does to the part
of the state it reads (`PassView`), one peer at a time: a visit is an outcome
(`PassOutcome`), the calls it issues, the record it leaves or the free it causes, and whether
it re-arms the fast-connect timer or uncounts a connected peer. Every faithful pass of
`Model.Handlers` refines the fold of its visits (`view_foldl`), re-entrant disconnects
included.

While `peer_count` is the length of the registry (`CountedRegistry`), the fold has a closed
form (`PassView.afterPass`) that a permutation of the registry changes only up to order
(`PassView.afterPass_perm`). So on every reachable state with fewer than `2^32` peers, each
handler leaves the same registry up to order, the same counts and timers and the same calls
up to order on a reordered registry (`periodic_passes_order_independent`).

Past `2^32` peers the 32-bit count wraps, and freeing one peer can bring it to zero while
others remain: `tdls_auto_mode_stop_free` then cancels both connect timers, and whether a
re-entrant disconnect of another peer re-arms the fast-connect timer before or after that
depends on the order (`periodic_passes_order_matters_past_wrap`).
-/

namespace TdlsAutoMode

/-- The part of the state a periodic pass reads, and on which two runs of it are compared:
the registry, both counts, the configuration, the timers and the calls. The driver's
accounting cache and the writes through freed pointers are left out. -/
@[ext] structure PassView where
  peers : List TdlsAutoPeer
  peerCount : UInt32
  connPeerCount : UInt32
  extn : WpasTdlsAutoCtx
  pending : Handler → Bool
  calls : List Call

/-- The state as a periodic pass sees it. -/
def State.view (s : State) : PassView :=
  ⟨s.peers, s.peerCount, s.connPeerCount, s.extn, s.pending, s.calls⟩

/-- The registry with the record of `peer`'s address replaced by `peer`. -/
def replacePeer (peer : TdlsAutoPeer) (peers : List TdlsAutoPeer) : List TdlsAutoPeer :=
  peers.map fun p => if p.addr = peer.addr then peer else p

/-- `tdlsAutoModeStopFree` as a pass sees it: the call to the driver, the record unlinked and
uncounted, and both connect timers cancelled when the count drops to zero. -/
def PassView.free (addr : MacAddr) (v : PassView) : PassView :=
  { v with
    peers := v.peers.eraseP (·.addr = addr)
    peerCount := v.peerCount - 1
    pending :=
      if v.peerCount - 1 = 0 then
        Function.update (Function.update v.pending .fastConnect false) .slowConnect false
      else v.pending
    calls := .monitorTraffic addr false :: v.calls }

section free

variable (addr : MacAddr) (v : PassView)

@[simp] theorem PassView.free_peers : (v.free addr).peers = v.peers.eraseP (·.addr = addr) := rfl
@[simp] theorem PassView.free_peerCount : (v.free addr).peerCount = v.peerCount - 1 := rfl
@[simp] theorem PassView.free_connPeerCount : (v.free addr).connPeerCount = v.connPeerCount := rfl
@[simp] theorem PassView.free_extn : (v.free addr).extn = v.extn := rfl
@[simp] theorem PassView.free_calls :
    (v.free addr).calls = .monitorTraffic addr false :: v.calls := rfl
@[simp] theorem PassView.free_pending :
    (v.free addr).pending =
      if v.peerCount - 1 = 0 then
        Function.update (Function.update v.pending .fastConnect false) .slowConnect false
      else v.pending := rfl

end free

/-- What one iteration of a pass does for the peer it visits, in the order of the C code: it
issues `calls` (newest first); it leaves `record` in the registry or, with `none`, frees the
peer; it may re-arm the fast-connect timer and uncount a connected peer; and, in the
fast-connect pass, it may ask for the pass's own timer to be re-armed. -/
structure PassOutcome where
  record : Option TdlsAutoPeer
  calls : List Call
  armsFast : Bool
  uncounts : Bool
  rearms : Bool
  deriving DecidableEq

/-- A peer the iteration leaves with the record `peer`, doing nothing else. -/
def PassOutcome.keep (peer : TdlsAutoPeer) : PassOutcome := ⟨some peer, [], false, false, false⟩

/-- An outcome fit for the peer it is computed for: a record it leaves keeps the peer's
address, and only a peer left in the registry re-arms the fast-connect timer. -/
structure PassOutcome.Fits (o : PassOutcome) (peer : TdlsAutoPeer) : Prop where
  keeps : ∀ q, o.record = some q → q.addr = peer.addr
  stays : o.armsFast = true → o.record.isSome = true

theorem PassOutcome.Fits.keep {peer q : TdlsAutoPeer} (same : q.addr = peer.addr) :
    (PassOutcome.keep q).Fits peer :=
  ⟨fun _ kept => (by cases kept; exact same), fun arms => (by cases arms)⟩

theorem PassOutcome.Fits.quiet {o : PassOutcome} {peer : TdlsAutoPeer} (fits : o.Fits peer)
    (freed : o.record = none) : o.armsFast = false :=
  Bool.eq_false_iff.2 fun arms => by simpa [freed] using fits.stays arms

/-- The outcome at the address `addr` applied to a view. -/
def PassOutcome.apply (o : PassOutcome) (addr : MacAddr) (v : PassView) : PassView :=
  let v := { v with calls := o.calls ++ v.calls }
  let v := match o.record with
    | some peer => { v with peers := replacePeer peer v.peers }
    | none => v.free addr
  { v with
    pending := if o.armsFast then Function.update v.pending .fastConnect true else v.pending
    connPeerCount := if o.uncounts then v.connPeerCount - 1 else v.connPeerCount }

/-- The calls an outcome issues at `addr`, newest first, freeing included. -/
def PassOutcome.issued (o : PassOutcome) (addr : MacAddr) : List Call :=
  match o.record with
  | some _ => o.calls
  | none => .monitorTraffic addr false :: o.calls

/-- One iteration of a pass over a view: the peer with the address is looked up, as the
pointer the loop holds would find it, and its outcome applied; the flag collects the
requests to re-arm. -/
def PassView.visit (outcome : TdlsAutoPeer → PassOutcome) (acc : PassView × Bool)
    (addr : MacAddr) : PassView × Bool :=
  match acc.1.peers.find? (·.addr = addr) with
  | none => acc
  | some peer => ((outcome peer).apply addr acc.1, acc.2 || (outcome peer).rearms)

/-- **The closed form of a pass.** The view after visiting the peers `ps` that follow the
visited prefix `pre`: each peer is replaced by its outcome's record or dropped, each count
drops once per freed or uncounted peer, the calls of every peer are issued in list order,
and the connect timers are cancelled exactly when the pass frees the whole registry, the
fast-connect one being re-armed otherwise by any peer that asks for it. -/
def PassView.afterPass (outcome : TdlsAutoPeer → PassOutcome) (pre ps : List TdlsAutoPeer)
    (v : PassView) : PassView :=
  let emptied := pre.isEmpty && !ps.isEmpty && ps.all fun p => (outcome p).record.isNone
  { peers := pre ++ ps.filterMap fun p => (outcome p).record
    peerCount := (· - 1)^[ps.countP fun p => (outcome p).record.isNone] v.peerCount
    connPeerCount := (· - 1)^[ps.countP fun p => (outcome p).uncounts] v.connPeerCount
    extn := v.extn
    pending := Function.update (Function.update v.pending .fastConnect
        (!emptied && (v.pending .fastConnect || ps.any fun p => (outcome p).armsFast)))
      .slowConnect (!emptied && v.pending .slowConnect)
    calls := ps.reverse.flatMap (fun p => (outcome p).issued p.addr) ++ v.calls }

section lists

variable {peer q : TdlsAutoPeer} {pre post : List TdlsAutoPeer}

/-- With distinct addresses, the peers around a peer have other addresses. -/
theorem addr_ne_of_nodup (nodup : ((pre ++ peer :: post).map (·.addr)).Nodup) :
    ∀ r ∈ pre ++ post, r.addr ≠ peer.addr := by
  rw [List.map_append, List.map_cons, List.nodup_append, List.nodup_cons] at nodup
  intro r member same
  rcases List.mem_append.1 member with member | member
  · exact nodup.2.2 (List.mem_map_of_mem _ member) (by simp [same])
  · exact nodup.2.1.1 (same ▸ List.mem_map_of_mem _ member)

theorem find?_addr_append_cons (nodup : ((pre ++ peer :: post).map (·.addr)).Nodup) :
    (pre ++ peer :: post).find? (·.addr = peer.addr) = some peer := by
  rw [List.find?_append, List.find?_eq_none.2 fun r member same =>
    addr_ne_of_nodup nodup r (List.mem_append_left _ member) (by simpa using same)]
  simp

theorem replacePeer_append_cons (same : q.addr = peer.addr)
    (nodup : ((pre ++ peer :: post).map (·.addr)).Nodup) :
    replacePeer q (pre ++ peer :: post) = pre ++ q :: post := by
  have other := addr_ne_of_nodup nodup
  simp only [replacePeer, List.map_append, List.map_cons, same, ↓reduceIte]
  rw [List.map_congr_left (l := pre) fun r member =>
      if_neg (other r (List.mem_append_left _ member)),
    List.map_congr_left (l := post) fun r member =>
      if_neg (other r (List.mem_append_right _ member))]
  simp

theorem eraseP_addr_append_cons (nodup : ((pre ++ peer :: post).map (·.addr)).Nodup) :
    (pre ++ peer :: post).eraseP (·.addr = peer.addr) = pre ++ post := by
  rw [List.eraseP_append_right _ fun r member same =>
    addr_ne_of_nodup nodup r (List.mem_append_left _ member) (by simpa using same)]
  simp

end lists

section apply

variable (o : PassOutcome) (addr : MacAddr) (v : PassView)

@[simp] theorem PassOutcome.apply_extn : (o.apply addr v).extn = v.extn := by
  rcases o with ⟨_ | _, _, _, _, _⟩ <;> rfl

@[simp] theorem PassOutcome.apply_calls : (o.apply addr v).calls = o.issued addr ++ v.calls := by
  rcases o with ⟨_ | _, _, _, _, _⟩ <;> rfl

@[simp] theorem PassOutcome.apply_connPeerCount :
    (o.apply addr v).connPeerCount =
      if o.uncounts then v.connPeerCount - 1 else v.connPeerCount := by
  rcases o with ⟨_ | _, _, _, _, _⟩ <;> rfl

theorem PassOutcome.apply_of_some {peer : TdlsAutoPeer} (kept : o.record = some peer) :
    (o.apply addr v).peers = replacePeer peer v.peers ∧
      (o.apply addr v).peerCount = v.peerCount ∧
      (o.apply addr v).pending =
        if o.armsFast then Function.update v.pending .fastConnect true else v.pending := by
  unfold PassOutcome.apply
  rw [kept]
  exact ⟨rfl, rfl, rfl⟩

theorem PassOutcome.apply_of_none (freed : o.record = none) (quiet : o.armsFast = false) :
    (o.apply addr v).peers = v.peers.eraseP (·.addr = addr) ∧
      (o.apply addr v).peerCount = v.peerCount - 1 ∧
      (o.apply addr v).pending =
        if v.peerCount - 1 = 0 then
          Function.update (Function.update v.pending .fastConnect false) .slowConnect false
        else v.pending := by
  unfold PassOutcome.apply
  rw [freed, quiet]
  exact ⟨rfl, rfl, rfl⟩

end apply

section closedForm

variable {outcome : TdlsAutoPeer → PassOutcome} (fits : ∀ peer, (outcome peer).Fits peer)

theorem PassView.afterPass_nil {pre : List TdlsAutoPeer} {v : PassView} (peers : v.peers = pre) :
    PassView.afterPass outcome pre [] v = v := by
  ext <;> simp [PassView.afterPass, peers]

/-- Visiting a peer its outcome keeps moves its record to the visited prefix. -/
theorem PassView.afterPass_kept {peer q : TdlsAutoPeer} {pre post : List TdlsAutoPeer}
    {v : PassView} (kept : (outcome peer).record = some q) :
    PassView.afterPass outcome (pre ++ [q]) post ((outcome peer).apply peer.addr v) =
      PassView.afterPass outcome pre (peer :: post) v := by
  obtain ⟨-, count, pending⟩ := (outcome peer).apply_of_some peer.addr v kept
  have visited : (pre ++ [q]).isEmpty = false := by cases pre <;> rfl
  refine PassView.ext ?_ ?_ ?_ (PassOutcome.apply_extn _ _ _) ?_ ?_
  · simp [PassView.afterPass, kept]
  · simp [PassView.afterPass, kept, count]
  · simp only [PassView.afterPass, PassOutcome.apply_connPeerCount, List.countP_cons]
    split_ifs <;> simp [Function.iterate_succ_apply]
  · simp only [PassView.afterPass, pending, visited, kept, List.all_cons, Option.isNone_some,
      Bool.false_and, Bool.and_false, Bool.not_false, Bool.true_and, List.any_cons]
    cases (outcome peer).armsFast
    · simp
    · funext h; cases h <;> simp
  · simp [PassView.afterPass, PassOutcome.issued, kept]

theorem uint32_sub_one_eq_zero_iff {c : UInt32} {n : Nat} (count : c.toNat = n + 1) :
    c - 1 = 0 ↔ n = 0 := by
  rw [uint32_eq_iff_toNat_eq, uint32_toNat_sub_one, count]
  have : n + 1 < 2 ^ 32 := count ▸ c.toBitVec.isLt
  show (n + 1 + (2 ^ 32 - 1)) % 2 ^ 32 = 0 ↔ n = 0
  omega

include fits in
/-- Visiting a peer its outcome frees drops it; the count reaches zero, and the connect
timers are cancelled, exactly when nothing is left before or after it. -/
theorem PassView.afterPass_freed {peer : TdlsAutoPeer} {pre post : List TdlsAutoPeer}
    {v : PassView} (freed : (outcome peer).record = none) (peers : v.peers = pre ++ peer :: post)
    (count : v.peerCount.toNat = v.peers.length) :
    PassView.afterPass outcome pre post ((outcome peer).apply peer.addr v) =
      PassView.afterPass outcome pre (peer :: post) v := by
  have quiet := (fits peer).quiet freed
  obtain ⟨-, count', pending⟩ := (outcome peer).apply_of_none peer.addr v freed quiet
  have zero : v.peerCount - 1 = 0 ↔ pre = [] ∧ post = [] := by
    rw [uint32_sub_one_eq_zero_iff (n := pre.length + post.length) (by simp [count, peers]; omega)]
    simp
  refine PassView.ext ?_ ?_ ?_ (PassOutcome.apply_extn _ _ _) ?_ ?_
  · simp [PassView.afterPass, freed]
  · simp [PassView.afterPass, freed, count', Function.iterate_succ_apply]
  · simp only [PassView.afterPass, PassOutcome.apply_connPeerCount, List.countP_cons]
    split_ifs <;> simp [Function.iterate_succ_apply]
  · by_cases empties : pre = [] ∧ post = []
    · obtain ⟨rfl, rfl⟩ := empties
      rw [if_pos (zero.2 ⟨rfl, rfl⟩)] at pending
      funext h
      cases h <;> simp [PassView.afterPass, pending, freed]
    · rw [if_neg (mt zero.1 empties)] at pending
      have same : (pre.isEmpty && !post.isEmpty) = pre.isEmpty := by
        rcases pre with _ | _ <;> rcases post with _ | _
        · exact absurd ⟨rfl, rfl⟩ empties
        all_goals rfl
      simp [PassView.afterPass, pending, freed, quiet, ← Bool.and_assoc, same]
  · simp [PassView.afterPass, PassOutcome.issued, freed]

include fits in
/-- **A pass is its closed form.** Visiting, in list order, the addresses of the peers that
follow the visited prefix reaches the closed form, as long as the addresses are distinct and
the count is the number of peers. -/
theorem PassView.foldl_visit : ∀ (post pre : List TdlsAutoPeer) (v : PassView) (b : Bool),
    v.peers = pre ++ post → ((pre ++ post).map (·.addr)).Nodup →
    v.peerCount.toNat = v.peers.length →
    (post.map (·.addr)).foldl (PassView.visit outcome) (v, b) =
      (PassView.afterPass outcome pre post v, b || post.any fun p => (outcome p).rearms)
  | [], pre, v, b, peers, _, _ => by
    simp [PassView.afterPass_nil (peers.trans (List.append_nil pre))]
  | peer :: post, pre, v, b, peers, nodup, count => by
    have found : v.peers.find? (·.addr = peer.addr) = some peer := by
      rw [peers]; exact find?_addr_append_cons nodup
    rw [List.map_cons, List.foldl_cons, PassView.visit, found]
    dsimp only
    cases kept : (outcome peer).record with
    | some q =>
      obtain ⟨applied, count', -⟩ := (outcome peer).apply_of_some peer.addr v kept
      have same := (fits peer).keeps q kept
      rw [PassView.foldl_visit post (pre ++ [q]), PassView.afterPass_kept kept]
      · simp [Bool.or_assoc]
      · rw [applied, peers, replacePeer_append_cons same nodup]; simp
      · simpa [same] using nodup
      · rw [count', count, applied, peers, replacePeer_append_cons same nodup]; simp
    | none =>
      obtain ⟨applied, count', -⟩ :=
        (outcome peer).apply_of_none peer.addr v kept ((fits peer).quiet kept)
      rw [PassView.foldl_visit post pre, PassView.afterPass_freed fits kept peers count]
      · simp [Bool.or_assoc]
      · rw [applied, peers, eraseP_addr_append_cons nodup]
      · exact nodup.sublist (((List.sublist_cons_self peer post).append_left pre).map _)
      · have bound : v.peerCount.toNat < 2 ^ 32 := v.peerCount.toBitVec.isLt
        rw [count', uint32_toNat_sub_one, applied, peers, eraseP_addr_append_cons nodup]
        rw [count, peers] at bound ⊢
        simp only [List.length_append, List.length_cons] at bound ⊢
        omega

end closedForm

/-- Two views that differ at most in the order of the registry and of the calls. -/
structure PassView.Reorders (v w : PassView) : Prop where
  peers : w.peers.Perm v.peers
  peerCount : w.peerCount = v.peerCount
  connPeerCount : w.connPeerCount = v.connPeerCount
  extn : w.extn = v.extn
  pending : w.pending = v.pending
  calls : w.calls.Perm v.calls

theorem PassView.Reorders.setTimer {v w : PassView} (reorders : v.Reorders w) (handler : Handler) :
    PassView.Reorders { v with pending := Function.update v.pending handler true }
      { w with pending := Function.update w.pending handler true } :=
  ⟨reorders.peers, reorders.peerCount, reorders.connPeerCount, reorders.extn,
    by rw [reorders.pending], reorders.calls⟩

theorem all_eq_of_perm {α : Type} {l l' : List α} (permuted : l'.Perm l) (f : α → Bool) :
    l'.all f = l.all f :=
  Bool.eq_iff_iff.2 (by simp only [List.all_eq_true, permuted.mem_iff])

theorem any_eq_of_perm {α : Type} {l l' : List α} (permuted : l'.Perm l) (f : α → Bool) :
    l'.any f = l.any f :=
  Bool.eq_iff_iff.2 (by simp only [List.any_eq_true, permuted.mem_iff])

/-- **The closed form does not depend on the order of the registry.** -/
theorem PassView.afterPass_perm (outcome : TdlsAutoPeer → PassOutcome) {ps ps' : List TdlsAutoPeer}
    (permuted : ps'.Perm ps) (v : PassView) :
    (PassView.afterPass outcome [] ps v).Reorders (PassView.afterPass outcome [] ps' v) where
  peers := permuted.filterMap _
  peerCount := by simp only [PassView.afterPass, permuted.countP_eq]
  connPeerCount := by simp only [PassView.afterPass, permuted.countP_eq]
  extn := rfl
  pending := by
    simp only [PassView.afterPass, permuted.isEmpty_eq, all_eq_of_perm permuted,
      any_eq_of_perm permuted]
  calls := ((((List.reverse_perm _).trans permuted).trans
    (List.reverse_perm _).symm).flatMap_right _).append_right _

section lists

variable {q q' : TdlsAutoPeer} {peers : List TdlsAutoPeer}

@[simp] theorem addrs_replacePeer : (replacePeer q peers).map (·.addr) = peers.map (·.addr) := by
  simp only [replacePeer, List.map_map]
  exact List.map_congr_left fun r _ => by by_cases same : r.addr = q.addr <;> simp [same]

theorem replacePeer_replacePeer (same : q.addr = q'.addr) :
    replacePeer q (replacePeer q' peers) = replacePeer q peers := by
  simp only [replacePeer, List.map_map]
  exact List.map_congr_left fun r _ => by by_cases here : r.addr = q'.addr <;> simp [here, same]

theorem replacePeer_of_mem (nodup : (peers.map (·.addr)).Nodup) (member : q ∈ peers) :
    replacePeer q peers = peers :=
  (List.map_congr_left fun r member' => by
    by_cases same : r.addr = q.addr
    · simp [same, List.inj_on_of_nodup_map nodup member' member same]
    · simp [same]).trans (List.map_id _)

theorem eraseP_replacePeer (nodup : (peers.map (·.addr)).Nodup) :
    (replacePeer q peers).eraseP (·.addr = q.addr) = peers.eraseP (·.addr = q.addr) := by
  have kept : ((fun r : TdlsAutoPeer => decide (r.addr ≠ q.addr)) ∘
      fun r => if r.addr = q.addr then q else r) = fun r => decide (r.addr ≠ q.addr) := by
    funext r; by_cases same : r.addr = q.addr <;> simp [same]
  rw [eraseP_addr_eq_filter (by rwa [addrs_replacePeer]), eraseP_addr_eq_filter nodup,
    replacePeer, List.filter_map, kept]
  refine (List.map_congr_left fun r member => ?_).trans (List.map_id _)
  have other : r.addr ≠ q.addr := by simpa using (List.mem_filter.1 member).2
  simp [other]

end lists

/-- A write through the pointer to the peer with the address, on one record. -/
def writeAt (addr : MacAddr) (f : TdlsAutoPeer → TdlsAutoPeer) (p : TdlsAutoPeer) : TdlsAutoPeer :=
  if p.addr = addr then f p else p

section writeAt

variable {addr : MacAddr} {f g : TdlsAutoPeer → TdlsAutoPeer}

@[simp] theorem addr_writeAt (keeps : ∀ p, (f p).addr = p.addr) (p : TdlsAutoPeer) :
    (writeAt addr f p).addr = p.addr := by
  unfold writeAt; split_ifs <;> simp [keeps]

@[simp] theorem writeAt_comp_writeAt (keeps : ∀ p, (f p).addr = p.addr) :
    writeAt addr g ∘ writeAt addr f = writeAt addr (g ∘ f) := by
  funext p
  by_cases same : p.addr = addr <;> simp [writeAt, same, keeps]

/-- With distinct addresses, a write through the pointer to the found peer replaces its
record. -/
theorem map_writeAt_of_found {s : State} {peer : TdlsAutoPeer} (keeps : ∀ p, (f p).addr = p.addr)
    (nodup : s.addrs.Nodup) (found : tdlsAutoFindPeer s addr = some peer) :
    s.peers.map (writeAt addr f) = replacePeer (f peer) s.peers := by
  have at_addr := (mem_of_tdlsAutoFindPeer found).2
  refine List.map_congr_left fun r member => ?_
  by_cases same : r.addr = addr
  · simp [writeAt, same, keeps, at_addr, eq_of_tdlsAutoFindPeer nodup found member same]
  · simp [writeAt, same, keeps, at_addr]

/-- A write to a replaced record lands on the replacement. -/
theorem map_writeAt_replacePeer {q : TdlsAutoPeer} {peers : List TdlsAutoPeer}
    (same : q.addr = addr)
    (keeps : ∀ p, (f p).addr = p.addr) :
    (replacePeer q peers).map (writeAt addr f) = replacePeer (f q) peers := by
  simp only [replacePeer, List.map_map]
  refine List.map_congr_left fun r _ => ?_
  by_cases here : r.addr = addr <;> simp [writeAt, here, same, keeps]

/-- With distinct addresses, no record is left at the address once it is freed. -/
theorem map_writeAt_eraseP {peers : List TdlsAutoPeer} (nodup : (peers.map (·.addr)).Nodup) :
    (peers.eraseP (·.addr = addr)).map (writeAt addr f) = peers.eraseP (·.addr = addr) := by
  rw [eraseP_addr_eq_filter nodup]
  refine (List.map_congr_left fun r member => ?_).trans (List.map_id _)
  have other : r.addr ≠ addr := by simpa using (List.mem_filter.1 member).2
  simp [writeAt, other]

/-- With distinct addresses, freeing forgets what was written to the freed record. -/
theorem eraseP_map_writeAt {peers : List TdlsAutoPeer} (keeps : ∀ p, (f p).addr = p.addr)
    (nodup : (peers.map (·.addr)).Nodup) :
    (peers.map (writeAt addr f)).eraseP (·.addr = addr) = peers.eraseP (·.addr = addr) := by
  have kept : ((fun p : TdlsAutoPeer => decide (p.addr = addr)) ∘ writeAt addr f) =
      fun p => decide (p.addr = addr) := by
    funext p; simp [addr_writeAt keeps]
  rw [List.eraseP_map, kept, map_writeAt_eraseP nodup]

end writeAt

/-- Every write through a peer pointer maps the registry, a write to a freed peer trivially. -/
@[simp] theorem State.writePeer_peers (s : State) (addr : MacAddr)
    (f : TdlsAutoPeer → TdlsAutoPeer) :
    (s.writePeer addr f).peers = s.peers.map (writeAt addr f) := by
  unfold State.writePeer
  split
  · rfl
  · rename_i untracked
    refine ((List.map_congr_left fun r member => ?_).trans (List.map_id _)).symm
    have other : r.addr ≠ addr := fun same =>
      untracked ((State.tracked_iff s addr).2 ⟨r, member, same⟩)
    simp [writeAt, other]

@[simp] theorem addr_tdlsAutoGetConnectedStaRssi (caps : Capabilities) (peer : TdlsAutoPeer) :
    (tdlsAutoGetConnectedStaRssi caps peer).addr = peer.addr := rfl

section views

variable {s : State} {addr : MacAddr} {peer : TdlsAutoPeer}

@[simp] theorem State.view_peers : s.view.peers = s.peers := rfl
@[simp] theorem State.view_peerCount : s.view.peerCount = s.peerCount := rfl
@[simp] theorem State.view_connPeerCount : s.view.connPeerCount = s.connPeerCount := rfl
@[simp] theorem State.view_extn : s.view.extn = s.extn := rfl
@[simp] theorem State.view_pending : s.view.pending = s.pending := rfl
@[simp] theorem State.view_calls : s.view.calls = s.calls := rfl

theorem replacePeer_of_found (nodup : s.addrs.Nodup) (found : tdlsAutoFindPeer s addr = some peer) :
    replacePeer peer s.peers = s.peers :=
  replacePeer_of_mem nodup (mem_of_tdlsAutoFindPeer found).1

/-- A write through the pointer to the found peer replaces its record by the written one. -/
theorem State.view_writePeer {f : TdlsAutoPeer → TdlsAutoPeer} (keeps : ∀ p, (f p).addr = p.addr)
    (nodup : s.addrs.Nodup) (found : tdlsAutoFindPeer s addr = some peer) :
    (s.writePeer addr f).view = { s.view with peers := replacePeer (f peer) s.peers } := by
  have at_addr := (mem_of_tdlsAutoFindPeer found).2
  rw [State.writePeer_of_tracked (tracked_of_tdlsAutoFindPeer found)]
  refine PassView.ext (List.map_congr_left fun r member => ?_) rfl rfl rfl rfl rfl
  by_cases same : r.addr = addr
  · simp [same, keeps, at_addr, eq_of_tdlsAutoFindPeer nodup found member same]
  · simp [same, keeps, at_addr]

@[simp] theorem State.view_logCall (call : Call) :
    (s.logCall call).view = { s.view with calls := call :: s.calls } := rfl
@[simp] theorem State.view_setConnPeerCount (count : UInt32) :
    (s.setConnPeerCount count).view = { s.view with connPeerCount := count } := rfl
@[simp] theorem view_tdlsAutoSetTimer (handler : Handler) :
    (tdlsAutoSetTimer handler s).view =
      { s.view with pending := Function.update s.pending handler true } := rfl

/-- A write through a peer pointer, found or freed, as a pass sees it. -/
@[simp] theorem State.view_writePeer_map (f : TdlsAutoPeer → TdlsAutoPeer) :
    (s.writePeer addr f).view = { s.view with peers := s.peers.map (writeAt addr f) } :=
  PassView.ext (State.writePeer_peers s addr f) (by simp) (by simp) (by simp) (by simp) (by simp)

theorem view_tdlsAutoModeStopFree :
    (tdlsAutoModeStopFree addr s).view = s.view.free addr := by
  rw [tdlsAutoModeStopFree_eq]
  split_ifs with zero
  · exact PassView.ext rfl rfl rfl rfl
      (by rw [PassView.free_pending, State.view_peerCount, if_pos zero]; rfl) rfl
  · exact PassView.ext rfl rfl rfl rfl
      (by rw [PassView.free_pending, State.view_peerCount, if_neg zero]; rfl) rfl

/-- An outcome applied after its record's address was written to: the write is forgotten. -/
theorem PassOutcome.apply_replacePeer {o : PassOutcome} {v : PassView} (fits : o.Fits peer)
    (at_addr : peer.addr = addr) (nodup : (v.peers.map (·.addr)).Nodup) :
    o.apply addr { v with peers := replacePeer peer v.peers } = o.apply addr v := by
  subst at_addr
  unfold PassOutcome.apply
  cases kept : o.record with
  | some q => simp only [replacePeer_replacePeer (fits.keeps q kept)]
  | none => simp only [PassView.free, eraseP_replacePeer nodup]

end views

/-- The outcome of `disconnect` for a connected peer with the record `peer`: the call alone;
or, when the driver re-enters, what `tdls_auto_peer_disconnected` then does: an incoming
peer is freed, an outgoing one is kept disconnected with its counters cleared and a
fast-connect attempt armed, and either way the connected count drops. -/
def disconnectOutcome (caps : Capabilities) (peer : TdlsAutoPeer) : PassOutcome :=
  if caps.disconnectReenters then
    if peer.incomingPeer then ⟨none, [.disconnect peer.addr], false, true, false⟩
    else
      ⟨some { peer with connected := false, lowRssiVals := 0, fastAttempts := 0 },
        [.disconnect peer.addr], true, true, false⟩
  else ⟨some peer, [.disconnect peer.addr], false, false, false⟩

theorem disconnectOutcome_fits (caps : Capabilities) (peer : TdlsAutoPeer) :
    (disconnectOutcome caps peer).Fits peer := by
  unfold disconnectOutcome
  split_ifs
  · exact ⟨fun _ kept => (by cases kept), fun arms => (by cases arms)⟩
  · exact ⟨fun _ kept => (by cases kept; rfl), fun _ => rfl⟩
  · exact ⟨fun _ kept => (by cases kept; rfl), fun arms => (by cases arms)⟩

/-- An outcome followed by a write through the pointer the loop holds: the write lands on
the record left, or nowhere once the peer is freed. -/
def PassOutcome.thenWrite (o : PassOutcome) (f : TdlsAutoPeer → TdlsAutoPeer) : PassOutcome :=
  { o with record := o.record.map f }

theorem PassOutcome.Fits.thenWrite {o : PassOutcome} {peer : TdlsAutoPeer} (fits : o.Fits peer)
    {f : TdlsAutoPeer → TdlsAutoPeer} (keeps : ∀ p, (f p).addr = p.addr) :
    (o.thenWrite f).Fits peer := by
  refine ⟨fun q kept => ?_, fun arms => by simpa [PassOutcome.thenWrite] using fits.stays arms⟩
  obtain ⟨r, left, rfl⟩ := Option.map_eq_some'.1 kept
  rw [keeps, fits.keeps r left]

/-- The outcome of an iteration of `tdls_auto_fast_connect_timeout` for a peer. -/
def fastConnectOutcome (caps : Capabilities) (extn : WpasTdlsAutoCtx) (peer : TdlsAutoPeer) :
    PassOutcome :=
  if peer.connected then .keep peer
  else if peer.fastAttempts > tdlsAutoMaxFastConnAttempts then .keep peer
  else
    let sampled := tdlsAutoGetPeerDataRate caps { peer with fastAttempts := peer.fastAttempts + 1 }
    ⟨some sampled,
      if sampled.dataRate < extn.tdlsAutoDataConnectThreshold then []
      else [.sendDiscovery peer.addr],
      false, false, true⟩

/-- The outcome of an iteration of `tdls_auto_slow_connect_timeout` for a peer. -/
def slowConnectOutcome (caps : Capabilities) (extn : WpasTdlsAutoCtx) (peer : TdlsAutoPeer) :
    PassOutcome :=
  if peer.connected then .keep peer
  else if peer.fastAttempts ≤ tdlsAutoMaxFastConnAttempts then .keep peer
  else
    let sampled := tdlsAutoGetPeerDataRate caps peer
    ⟨some sampled,
      if sampled.dataRate < extn.tdlsAutoDataConnectThreshold then []
      else [.sendDiscovery peer.addr],
      false, false, false⟩

/-- The outcome of an iteration of `tdls_auto_data_teardown_timeout` for a peer. -/
def dataTeardownOutcome (caps : Capabilities) (extn : WpasTdlsAutoCtx) (peer : TdlsAutoPeer) :
    PassOutcome :=
  if !peer.connected then .keep peer
  else
    let sampled := tdlsAutoGetPeerDataRate caps peer
    if sampled.dataRate ≥ extn.tdlsAutoDataTeardownThreshold then .keep sampled
    else disconnectOutcome caps sampled

/-- The outcome of an iteration of `tdls_auto_rssi_teardown_timeout` for a peer. -/
def rssiTeardownOutcome (caps : Capabilities) (extn : WpasTdlsAutoCtx) (peer : TdlsAutoPeer) :
    PassOutcome :=
  if !peer.connected then .keep peer
  else
    let read := tdlsAutoGetConnectedStaRssi caps peer
    if read.rssi ≥ extn.tdlsAutoRssiTeardownThreshold then .keep { read with lowRssiVals := 0 }
    else
      let lowRssiVals := peer.lowRssiVals + 1
      let counted := { read with lowRssiVals := read.lowRssiVals + 1 }
      if lowRssiVals ≤ extn.tdlsAutoRssiTeardownCount then .keep counted
      else (disconnectOutcome caps counted).thenWrite fun p => { p with lowRssiVals := 0 }

section fits

variable (caps : Capabilities) (extn : WpasTdlsAutoCtx) (peer : TdlsAutoPeer)

/-- Fitting a peer depends on its address only. -/
theorem PassOutcome.Fits.of_addr {o : PassOutcome} {peer q : TdlsAutoPeer} (fits : o.Fits q)
    (same : q.addr = peer.addr) : o.Fits peer :=
  ⟨fun r kept => (fits.keeps r kept).trans same, fits.stays⟩

theorem PassOutcome.Fits.sampled {peer q : TdlsAutoPeer} {calls : List Call} {rearms : Bool}
    (same : q.addr = peer.addr) : PassOutcome.Fits ⟨some q, calls, false, false, rearms⟩ peer :=
  ⟨fun _ kept => (by cases kept; exact same), fun arms => (by cases arms)⟩

theorem fastConnectOutcome_fits : (fastConnectOutcome caps extn peer).Fits peer := by
  unfold fastConnectOutcome
  dsimp only
  split_ifs
  · exact .keep rfl
  · exact .keep rfl
  all_goals exact .sampled (by simp)

theorem slowConnectOutcome_fits : (slowConnectOutcome caps extn peer).Fits peer := by
  unfold slowConnectOutcome
  dsimp only
  split_ifs
  · exact .keep rfl
  · exact .keep rfl
  all_goals exact .sampled (by simp)

theorem dataTeardownOutcome_fits : (dataTeardownOutcome caps extn peer).Fits peer := by
  unfold dataTeardownOutcome
  dsimp only
  split_ifs
  · exact .keep rfl
  · exact .keep (by simp)
  · exact (disconnectOutcome_fits caps _).of_addr (by simp)

theorem rssiTeardownOutcome_fits : (rssiTeardownOutcome caps extn peer).Fits peer := by
  unfold rssiTeardownOutcome
  dsimp only
  split_ifs
  · exact .keep rfl
  · exact .keep rfl
  · exact .keep rfl
  · exact ((disconnectOutcome_fits caps _).thenWrite (f := fun p => { p with lowRssiVals := 0 })
      fun _ => rfl).of_addr rfl

theorem disconnectOutcome_rearms : (disconnectOutcome caps peer).rearms = false := by
  unfold disconnectOutcome; split_ifs <;> rfl

theorem dataTeardownOutcome_rearms : (dataTeardownOutcome caps extn peer).rearms = false := by
  unfold dataTeardownOutcome; dsimp only; split_ifs
  · rfl
  · rfl
  · exact disconnectOutcome_rearms caps _

theorem rssiTeardownOutcome_rearms : (rssiTeardownOutcome caps extn peer).rearms = false := by
  unfold rssiTeardownOutcome; dsimp only; split_ifs
  · rfl
  · rfl
  · rfl
  · exact disconnectOutcome_rearms caps _

theorem slowConnectOutcome_rearms : (slowConnectOutcome caps extn peer).rearms = false := by
  unfold slowConnectOutcome; dsimp only; split_ifs <;> rfl

end fits

section disconnect

variable (caps : Capabilities) {s : State} {peer : TdlsAutoPeer}

/-- **`disconnect` in a pass is its outcome.** -/
theorem view_disconnect {addr : MacAddr} (nodup : s.addrs.Nodup)
    (found : tdlsAutoFindPeer s addr = some peer) :
    (caps.disconnect addr s).view = (disconnectOutcome caps peer).apply addr s.view := by
  obtain rfl := (mem_of_tdlsAutoFindPeer found).2
  have logged : tdlsAutoFindPeer (logDisconnect peer.addr s) peer.addr = some peer := found
  by_cases reenters : caps.disconnectReenters = true
  · cases incoming : peer.incomingPeer
    · have shape : disconnectOutcome caps peer =
          ⟨some { peer with connected := false, lowRssiVals := 0, fastAttempts := 0 },
            [.disconnect peer.addr], true, true, false⟩ := by
        simp [disconnectOutcome, reenters, incoming]
      rw [Capabilities.disconnect_of_outgoing found incoming, if_pos reenters, shape]
      refine PassView.ext ?_ ?_ ?_ ?_ ?_ ?_
      · simp only [State.view_peers, State.setConnPeerCount_peers, tdlsAutoSetTimer_peers,
          State.writePeer_peers, logDisconnect, State.logCall_peers, List.map_map,
          writeAt_comp_writeAt, implies_true]
        rw [map_writeAt_of_found _ nodup found]
        · rfl
        · intro; rfl
      all_goals simp [PassOutcome.apply, logDisconnect]
    · have shape :
        disconnectOutcome caps peer = ⟨none, [.disconnect peer.addr], false, true, false⟩ :=
        by simp [disconnectOutcome, reenters, incoming]
      rw [Capabilities.disconnect, if_pos reenters, tdlsAutoPeerDisconnected_of_found logged, shape]
      simp only [incoming, ↓reduceIte, State.view_setConnPeerCount, view_tdlsAutoModeStopFree]
      refine PassView.ext ?_ ?_ ?_ ?_ ?_ ?_
      · simp only [PassView.free_peers, PassOutcome.apply, State.view_peers, State.writePeer_peers,
          logDisconnect, State.logCall_peers]
        exact eraseP_map_writeAt (f := fun p => { p with connected := false }) (fun _ => rfl) nodup
      all_goals simp [PassOutcome.apply, logDisconnect]
  · have shape :
      disconnectOutcome caps peer = ⟨some peer, [.disconnect peer.addr], false, false, false⟩ :=
      by simp [disconnectOutcome, reenters]
    rw [Capabilities.disconnect, if_neg reenters, shape]
    refine PassView.ext ?_ rfl rfl rfl rfl rfl
    exact (replacePeer_of_found nodup found).symm

end disconnect

section steps

variable {caps : Capabilities} {s : State} {addr : MacAddr} {peer : TdlsAutoPeer}

theorem PassOutcome.apply_keep_of_found (nodup : s.addrs.Nodup)
    (found : tdlsAutoFindPeer s addr = some peer) :
    (PassOutcome.keep peer).apply addr s.view = s.view :=
  PassView.ext (replacePeer_of_found nodup found) rfl rfl rfl rfl rfl

/-- A write after an outcome lands on the record it leaves. -/
theorem PassOutcome.apply_thenWrite {o : PassOutcome} {v : PassView}
    {f : TdlsAutoPeer → TdlsAutoPeer}
    (keeps : ∀ p, (f p).addr = p.addr) (fits : o.Fits peer) (at_addr : peer.addr = addr)
    (nodup : (v.peers.map (·.addr)).Nodup) :
    (o.thenWrite f).apply addr v =
      { o.apply addr v with peers := (o.apply addr v).peers.map (writeAt addr f) } := by
  subst at_addr
  unfold PassOutcome.apply PassOutcome.thenWrite
  cases kept : o.record with
  | none => exact PassView.ext (map_writeAt_eraseP nodup).symm rfl rfl rfl rfl rfl
  | some q =>
    exact PassView.ext (map_writeAt_replacePeer (fits.keeps q kept) keeps).symm rfl rfl rfl rfl rfl

/-- **An iteration of the data-teardown pass is its outcome.** -/
theorem view_tdlsAutoDataTeardownStep (nodup : s.addrs.Nodup)
    (found : tdlsAutoFindPeer s addr = some peer) :
    (tdlsAutoDataTeardownStep caps s addr).view =
      (dataTeardownOutcome caps s.extn peer).apply addr s.view := by
  have at_addr := (mem_of_tdlsAutoFindPeer found).2
  have sampled : (s.writePeer addr (tdlsAutoGetPeerDataRate caps)).view =
      { s.view with peers := replacePeer (tdlsAutoGetPeerDataRate caps peer) s.peers } := by
    rw [State.view_writePeer_map, map_writeAt_of_found _ nodup found]
    exact fun _ => by simp
  unfold tdlsAutoDataTeardownStep dataTeardownOutcome
  rw [found]
  simp only [State.writePeer_extn]
  split_ifs
  · exact (PassOutcome.apply_keep_of_found nodup found).symm
  · exact sampled
  · have found' : tdlsAutoFindPeer (s.writePeer addr (tdlsAutoGetPeerDataRate caps)) addr =
        some (tdlsAutoGetPeerDataRate caps peer) :=
      tdlsAutoFindPeer_writePeer_of_found (fun _ => by simp) found
    rw [view_disconnect _ (by rwa [State.addrs_writePeer fun _ => by simp]) found', sampled]
    exact PassOutcome.apply_replacePeer (v := s.view) ((disconnectOutcome_fits caps _).of_addr rfl)
      (by simpa using at_addr) nodup

/-- **An iteration of the RSSI-teardown pass is its outcome.** -/
theorem view_tdlsAutoRssiTeardownStep (nodup : s.addrs.Nodup)
    (found : tdlsAutoFindPeer s addr = some peer) :
    (tdlsAutoRssiTeardownStep caps s addr).view =
      (rssiTeardownOutcome caps s.extn peer).apply addr s.view := by
  have at_addr := (mem_of_tdlsAutoFindPeer found).2
  have kept : ∀ f : TdlsAutoPeer → TdlsAutoPeer, (∀ p, (f p).addr = p.addr) →
      ((s.writePeer addr (tdlsAutoGetConnectedStaRssi caps)).writePeer addr f).view =
        (PassOutcome.keep (f (tdlsAutoGetConnectedStaRssi caps peer))).apply addr s.view :=
    fun f keeps => by
      simp only [State.view_writePeer_map, State.writePeer_peers, List.map_map,
        writeAt_comp_writeAt, addr_tdlsAutoGetConnectedStaRssi, implies_true]
      rw [map_writeAt_of_found (f := f ∘ tdlsAutoGetConnectedStaRssi caps) (fun p => keeps _) nodup
        found]
      rfl
  unfold tdlsAutoRssiTeardownStep rssiTeardownOutcome
  rw [found]
  simp only [State.writePeer_extn]
  split_ifs
  · exact (PassOutcome.apply_keep_of_found nodup found).symm
  · exact kept _ fun _ => rfl
  · exact kept _ fun _ => rfl
  · have found' := tdlsAutoFindPeer_writePeer_of_found
      (f := fun p => { p with lowRssiVals := p.lowRssiVals + 1 }) (fun _ => rfl)
      (tdlsAutoFindPeer_writePeer_of_found (f := tdlsAutoGetConnectedStaRssi caps) (fun _ => rfl)
        found)
    have torn := view_disconnect caps
      (by rwa [State.addrs_writePeer fun _ => by simp, State.addrs_writePeer fun _ => by simp])
      found'
    simp only [State.view_writePeer_map, State.writePeer_peers, List.map_map, writeAt_comp_writeAt,
      addr_tdlsAutoGetConnectedStaRssi, implies_true] at torn
    rw [map_writeAt_of_found _ nodup found] at torn
    · have fits := disconnectOutcome_fits caps
        { tdlsAutoGetConnectedStaRssi caps peer with
          lowRssiVals := (tdlsAutoGetConnectedStaRssi caps peer).lowRssiVals + 1 }
      have settled := torn.trans (PassOutcome.apply_replacePeer (v := s.view) fits at_addr nodup)
      rw [State.view_writePeer_map, ← State.view_peers, settled]
      exact (PassOutcome.apply_thenWrite (v := s.view) (f := fun p => { p with lowRssiVals := 0 })
        (fun _ => rfl) fits at_addr nodup).symm
    · exact fun _ => rfl

/-- **An iteration of the fast-connect pass is its outcome**, and it raises the flag exactly
for a peer in its fast phase. -/
theorem view_tdlsAutoFastConnectStep {acc : State × Bool} (nodup : acc.1.addrs.Nodup)
    (found : tdlsAutoFindPeer acc.1 addr = some peer) :
    (tdlsAutoFastConnectStep caps acc addr).1.view =
        (fastConnectOutcome caps acc.1.extn peer).apply addr acc.1.view ∧
      (tdlsAutoFastConnectStep caps acc addr).2 =
        (acc.2 || (fastConnectOutcome caps acc.1.extn peer).rearms) := by
  obtain rfl := (mem_of_tdlsAutoFindPeer found).2
  have sampled := State.view_writePeer
    (f := fun p => tdlsAutoGetPeerDataRate caps { p with fastAttempts := p.fastAttempts + 1 })
    (fun _ => by simp) nodup found
  unfold tdlsAutoFastConnectStep fastConnectOutcome
  rw [found]
  simp only [State.writePeer_extn]
  split_ifs
  · exact ⟨(PassOutcome.apply_keep_of_found nodup found).symm, by simp [PassOutcome.keep]⟩
  · exact ⟨(PassOutcome.apply_keep_of_found nodup found).symm, by simp [PassOutcome.keep]⟩
  · exact ⟨sampled, by simp⟩
  · exact ⟨by rw [State.view_logCall, sampled, State.writePeer_calls]; rfl, by simp⟩

/-- **An iteration of the slow-connect pass is its outcome.** -/
theorem view_tdlsAutoSlowConnectStep (nodup : s.addrs.Nodup)
    (found : tdlsAutoFindPeer s addr = some peer) :
    (tdlsAutoSlowConnectStep caps s addr).view =
      (slowConnectOutcome caps s.extn peer).apply addr s.view := by
  obtain rfl := (mem_of_tdlsAutoFindPeer found).2
  have sampled := State.view_writePeer (f := tdlsAutoGetPeerDataRate caps) (fun _ => by simp)
    nodup found
  unfold tdlsAutoSlowConnectStep slowConnectOutcome
  rw [found]
  simp only [State.writePeer_extn]
  split_ifs
  · exact (PassOutcome.apply_keep_of_found nodup found).symm
  · exact (PassOutcome.apply_keep_of_found nodup found).symm
  · exact sampled
  · rw [State.view_logCall, sampled, State.writePeer_calls]; rfl

end steps

/-- What a pass needs of the registry: distinct addresses, and a count that is the number of
peers. Every reachable state with fewer than `2^32` peers has it. -/
structure CountedRegistry (s : State) : Prop where
  addrs_nodup : s.addrs.Nodup
  peerCount_toNat : s.peerCount.toNat = s.peers.length

theorem CountedRegistry.of_reachable {s : State} (reachable : Reachable s)
    (few : s.peers.length < 2 ^ 32) : CountedRegistry s :=
  have inv := RegistryInv.invariant.reachable reachable
  ⟨inv.addrs_nodup, by rw [inv.peerCount_toNat, Nat.mod_eq_of_lt few]⟩

/-- The registry reordered, every other field kept. -/
theorem CountedRegistry.perm {s : State} (counted : CountedRegistry s) {peers : List TdlsAutoPeer}
    (permuted : peers.Perm s.peers) : CountedRegistry { s with peers } :=
  ⟨(permuted.map _).nodup_iff.2 counted.addrs_nodup,
    counted.peerCount_toNat.trans permuted.length_eq.symm⟩

theorem CountedRegistry.cancelTimer {s : State} (counted : CountedRegistry s) (handler : Handler) :
    CountedRegistry (tdlsAutoCancelTimer handler s) :=
  ⟨counted.addrs_nodup, counted.peerCount_toNat⟩

section refinement

theorem PassOutcome.nodup_apply (o : PassOutcome) (addr : MacAddr) {v : PassView}
    (nodup : (v.peers.map (·.addr)).Nodup) : ((o.apply addr v).peers.map (·.addr)).Nodup := by
  unfold PassOutcome.apply
  cases o.record with
  | some q => simpa using nodup
  | none => exact nodup.sublist ((List.eraseP_sublist _).map _)

/-- **A faithful pass refines the abstract one.** When an iteration of `step` leaves the state
as it is for an address no longer tracked, and is the outcome of the peer found otherwise,
folding it over addresses and folding `PassView.visit` agree on the view and on the flag. -/
theorem view_foldl (outcome : WpasTdlsAutoCtx → TdlsAutoPeer → PassOutcome)
    (step : State × Bool → MacAddr → State × Bool)
    (skip : ∀ acc addr, tdlsAutoFindPeer acc.1 addr = none → step acc addr = acc)
    (sim : ∀ acc addr peer, acc.1.addrs.Nodup → tdlsAutoFindPeer acc.1 addr = some peer →
      (step acc addr).1.view = (outcome acc.1.extn peer).apply addr acc.1.view ∧
        (step acc addr).2 = (acc.2 || (outcome acc.1.extn peer).rearms)) :
    ∀ (addrs : List MacAddr) (acc : State × Bool), acc.1.addrs.Nodup →
      ((addrs.foldl step acc).1.view, (addrs.foldl step acc).2) =
        addrs.foldl (PassView.visit (outcome acc.1.extn)) (acc.1.view, acc.2)
  | [], _, _ => rfl
  | addr :: addrs, acc, nodup => by
    have lookup : acc.1.view.peers.find? (·.addr = addr) = tdlsAutoFindPeer acc.1 addr := rfl
    rw [List.foldl_cons, List.foldl_cons, PassView.visit, lookup]
    cases found : tdlsAutoFindPeer acc.1 addr with
    | none => rw [skip acc addr found]; exact view_foldl outcome step skip sim addrs acc nodup
    | some peer =>
      obtain ⟨viewed, flag⟩ := sim acc addr peer nodup found
      have extn : (step acc addr).1.extn = acc.1.extn := by
        rw [← State.view_extn, viewed, PassOutcome.apply_extn]; rfl
      have nodup' : (step acc addr).1.addrs.Nodup := by
        rw [State.addrs, ← State.view_peers, viewed]
        exact PassOutcome.nodup_apply _ _ nodup
      dsimp only
      rw [← viewed, ← flag, ← extn]
      exact view_foldl outcome step skip sim addrs (step acc addr) nodup'

end refinement

/-- A pass without a flag, run beside one. -/
theorem foldl_beside (step : State → MacAddr → State) :
    ∀ (addrs : List MacAddr) (s : State) (b : Bool),
    addrs.foldl (fun acc addr => (step acc.1 addr, acc.2)) (s, b) = (addrs.foldl step s, b)
  | [], _, _ => rfl
  | _ :: addrs, _, b => foldl_beside step addrs _ b

/-- A timer re-armed when `again` holds, as a pass sees it. -/
def PassView.rearm (handler : Handler) (again : Bool) (v : PassView) : PassView :=
  if again then { v with pending := Function.update v.pending handler true } else v

theorem PassView.Reorders.rearm {v w : PassView} (reorders : v.Reorders w) (handler : Handler)
    {again again' : Bool} (same : again' = again) :
    (v.rearm handler again).Reorders (w.rearm handler again') := by
  subst same
  unfold PassView.rearm
  split_ifs
  · exact reorders.setTimer handler
  · exact reorders

theorem view_ite_tdlsAutoSetTimer (handler : Handler) (idle : Prop) [Decidable idle] (t : State) :
    (if idle then t else tdlsAutoSetTimer handler t).view = t.view.rearm handler !decide idle := by
  unfold PassView.rearm; split_ifs <;> simp_all

section passes

variable (caps : Capabilities) {s : State}

section flagless

variable {step : State → MacAddr → State} {outcome : WpasTdlsAutoCtx → TdlsAutoPeer → PassOutcome}
  (quiet : ∀ extn peer, (outcome extn peer).rearms = false)
  (skip : ∀ t addr, tdlsAutoFindPeer t addr = none → step t addr = t)
  (sim : ∀ t addr peer, t.addrs.Nodup → tdlsAutoFindPeer t addr = some peer →
    (step t addr).view = (outcome t.extn peer).apply addr t.view)

include quiet skip sim

/-- A flagless pass whose iterations are their outcomes is the fold of its visits, whatever
the count. -/
theorem view_foldl_flagless (nodup : s.addrs.Nodup) :
    ((s.addrs.foldl step s).view, false) =
      s.addrs.foldl (PassView.visit (outcome s.extn)) (s.view, false) := by
  have refined := view_foldl outcome (fun acc addr => (step acc.1 addr, acc.2))
    (fun acc addr missing => by simp only [skip acc.1 addr missing])
    (fun acc addr peer nodup found => ⟨sim acc.1 addr peer nodup found, by simp [quiet]⟩)
    s.addrs (s, false) nodup
  rwa [foldl_beside] at refined

/-- A flagless pass whose iterations are their outcomes is its closed form. -/
theorem view_foldl_of_outcome (fits : ∀ extn peer, (outcome extn peer).Fits peer)
    (counted : CountedRegistry s) :
    (s.addrs.foldl step s).view = PassView.afterPass (outcome s.extn) [] s.peers s.view :=
  congrArg Prod.fst ((view_foldl_flagless quiet skip sim counted.addrs_nodup).trans
    (PassView.foldl_visit (fits s.extn) s.peers [] s.view false rfl counted.addrs_nodup
      counted.peerCount_toNat))

end flagless

/-- **The data-teardown timeout is its closed form**, re-armed while a peer is counted as
connected. -/
theorem view_tdlsAutoDataTeardownTimeout (counted : CountedRegistry s) :
    (tdlsAutoDataTeardownTimeout caps s).view =
      let after := PassView.afterPass (dataTeardownOutcome caps s.extn) [] s.peers s.view
      after.rearm .dataTeardown !decide (after.connPeerCount = 0) := by
  have pass := view_foldl_of_outcome (dataTeardownOutcome_rearms caps)
    (fun t addr missing => by simp [tdlsAutoDataTeardownStep, missing])
    (fun _ _ _ nodup found => view_tdlsAutoDataTeardownStep nodup found)
    (dataTeardownOutcome_fits caps) counted
  rw [tdlsAutoDataTeardownTimeout, view_ite_tdlsAutoSetTimer, pass, ← State.view_connPeerCount,
    pass]

/-- **The RSSI-teardown timeout is its closed form**, re-armed while a peer is counted as
connected. -/
theorem view_tdlsAutoRssiTeardownTimeout (counted : CountedRegistry s) :
    (tdlsAutoRssiTeardownTimeout caps s).view =
      let after := PassView.afterPass (rssiTeardownOutcome caps s.extn) [] s.peers s.view
      after.rearm .rssiTeardown !decide (after.connPeerCount = 0) := by
  have pass := view_foldl_of_outcome (rssiTeardownOutcome_rearms caps)
    (fun t addr missing => by simp [tdlsAutoRssiTeardownStep, missing])
    (fun _ _ _ nodup found => view_tdlsAutoRssiTeardownStep nodup found)
    (rssiTeardownOutcome_fits caps) counted
  rw [tdlsAutoRssiTeardownTimeout, view_ite_tdlsAutoSetTimer, pass, ← State.view_connPeerCount,
    pass]

/-- **The slow-connect timeout is its closed form**, re-armed while a peer is counted. -/
theorem view_tdlsAutoSlowConnectTimeout (counted : CountedRegistry s) :
    (tdlsAutoSlowConnectTimeout caps s).view =
      let after := PassView.afterPass (slowConnectOutcome caps s.extn) [] s.peers s.view
      after.rearm .slowConnect !decide (after.peerCount = 0) := by
  have pass := view_foldl_of_outcome (slowConnectOutcome_rearms caps)
    (fun t addr missing => by simp [tdlsAutoSlowConnectStep, missing])
    (fun _ _ _ nodup found => view_tdlsAutoSlowConnectStep nodup found)
    (slowConnectOutcome_fits caps) counted
  rw [tdlsAutoSlowConnectTimeout, view_ite_tdlsAutoSetTimer, pass, ← State.view_peerCount, pass]

/-- **The fast-connect timeout is its closed form**, re-armed when some peer was in its fast
phase. -/
theorem view_tdlsAutoFastConnectTimeout (counted : CountedRegistry s) :
    (tdlsAutoFastConnectTimeout caps s).view =
      (PassView.afterPass (fastConnectOutcome caps s.extn) [] s.peers s.view).rearm .fastConnect
        (s.peers.any fun p => (fastConnectOutcome caps s.extn p).rearms) := by
  have refined := view_foldl (fastConnectOutcome caps) _
    (fun acc addr missing => by simp [tdlsAutoFastConnectStep, missing])
    (fun _ _ _ nodup found => view_tdlsAutoFastConnectStep nodup found) s.addrs (s, false)
    counted.addrs_nodup
  have pass := refined.trans (PassView.foldl_visit (fastConnectOutcome_fits caps s.extn) s.peers []
    s.view false rfl counted.addrs_nodup counted.peerCount_toNat)
  simp only [Prod.mk.injEq, Bool.false_or] at pass
  unfold tdlsAutoFastConnectTimeout PassView.rearm
  dsimp only
  rw [← pass.2]
  split_ifs
  · rw [view_tdlsAutoSetTimer, ← State.view_pending, pass.1]
  · exact pass.1

end passes

/-- **Every timer handler gives the same result, up to order, on a reordered registry.** -/
theorem Handler.run_reorders (caps : Capabilities) (handler : Handler) {s : State}
    (counted : CountedRegistry s) {peers : List TdlsAutoPeer} (permuted : peers.Perm s.peers) :
    (handler.run caps s).view.Reorders (handler.run caps { s with peers }).view := by
  have counted' := counted.perm permuted
  cases handler with
  | fastConnect =>
    rw [Handler.run, view_tdlsAutoFastConnectTimeout caps counted,
      view_tdlsAutoFastConnectTimeout caps counted']
    exact (PassView.afterPass_perm _ permuted s.view).rearm _ (any_eq_of_perm permuted _)
  | slowConnect =>
    rw [Handler.run, view_tdlsAutoSlowConnectTimeout caps counted,
      view_tdlsAutoSlowConnectTimeout caps counted']
    have reorders := PassView.afterPass_perm (slowConnectOutcome caps s.extn) permuted s.view
    exact reorders.rearm _ (congrArg (fun count => !decide (count = 0)) reorders.peerCount)
  | dataTeardown =>
    rw [Handler.run, view_tdlsAutoDataTeardownTimeout caps counted,
      view_tdlsAutoDataTeardownTimeout caps counted']
    have reorders := PassView.afterPass_perm (dataTeardownOutcome caps s.extn) permuted s.view
    exact reorders.rearm _ (congrArg (fun count => !decide (count = 0)) reorders.connPeerCount)
  | rssiTeardown =>
    rw [Handler.run, view_tdlsAutoRssiTeardownTimeout caps counted,
      view_tdlsAutoRssiTeardownTimeout caps counted']
    have reorders := PassView.afterPass_perm (rssiTeardownOutcome caps s.extn) permuted s.view
    exact reorders.rearm _ (congrArg (fun count => !decide (count = 0)) reorders.connPeerCount)

section wrapped

/-- Every started station is disconnected. -/
theorem startStations_idle : ∀ n, (startStations n).AllPeers fun p => p.connected = false
  | 0 => fun _ member => by cases member
  | n + 1 => by
    rcases tdlsAutoModeStart_cases (.nominal false 0) (stationOf n) (startStations n) with
      same | added
    · show (tdlsAutoModeStart _ _ _).2.AllPeers _
      rw [same]; exact startStations_idle n
    · show (tdlsAutoModeStart _ _ _).2.AllPeers _
      rw [added]; exact (startStations_idle n).addPeer _ _ rfl

theorem tdlsAutoAddPeer_nominal (reenters : Bool) (rssi : Int) (addr : MacAddr) (s : State) :
    (tdlsAutoAddPeer (.nominal reenters rssi) addr s).2 = true := by
  simp [tdlsAutoAddPeer, tdlsAutoPeerAddToList, Capabilities.nominal]

/-- A nominal add links the zeroed record at the head and counts it. -/
theorem tdlsAutoAddPeer_nominal_eq (reenters : Bool) (rssi : Int) (addr : MacAddr) (s : State) :
    (tdlsAutoAddPeer (.nominal reenters rssi) addr s).1.peers = .zalloc addr :: s.peers ∧
      (tdlsAutoAddPeer (.nominal reenters rssi) addr s).1.peerCount = s.peerCount + 1 ∧
      (tdlsAutoAddPeer (.nominal reenters rssi) addr s).1.connPeerCount = s.connPeerCount ∧
      (tdlsAutoAddPeer (.nominal reenters rssi) addr s).1.extn = s.extn := by
  obtain ⟨_, result⟩ := tdlsAutoAddPeer_added (tdlsAutoAddPeer_nominal reenters rssi addr s)
  rw [result]
  split <;> exact ⟨rfl, rfl, rfl, rfl⟩

theorem tdlsAutoModeStart_nominal_eq {reenters : Bool} {rssi : Int} {addr : MacAddr} {s : State}
    (untracked : ¬ s.Tracked addr) :
    (tdlsAutoModeStart (.nominal reenters rssi) addr s).2 =
      (tdlsAutoAddPeer (.nominal reenters rssi) addr s).1 := by
  have added := tdlsAutoAddPeer_nominal reenters rssi addr s
  rcases outcome : tdlsAutoAddPeer (.nominal reenters rssi) addr s with ⟨_, _ | _⟩
  · simp [outcome] at added
  · simp [tdlsAutoModeStart, tdlsAutoFindPeer_eq_none_iff.2 untracked, outcome]

theorem tdlsAutoPeerConnectedFound_peers (caps : Capabilities) (addr : MacAddr) (s : State) :
    (tdlsAutoPeerConnectedFound caps addr s).peers =
      s.peers.map (writeAt addr fun p =>
        tdlsAutoGetPeerDataRate caps { p with connected := true }) ∧
      (tdlsAutoPeerConnectedFound caps addr s).peerCount = s.peerCount ∧
      (tdlsAutoPeerConnectedFound caps addr s).extn = s.extn := by
  unfold tdlsAutoPeerConnectedFound
  dsimp only
  split <;> refine ⟨?_, by simp, by simp⟩ <;>
    simp only [tdlsAutoSetTimer_peers, State.writePeer_peers, List.map_map, writeAt_comp_writeAt,
      addr_tdlsAutoGetPeerDataRate, implies_true] <;> rfl

/-- A write through the pointer to an address no peer has changes nothing. -/
theorem map_writeAt_of_not_mem {addr : MacAddr} {f : TdlsAutoPeer → TdlsAutoPeer}
    {peers : List TdlsAutoPeer} (absent : addr ∉ peers.map (·.addr)) :
    peers.map (writeAt addr f) = peers :=
  (List.map_congr_left fun p member => if_neg fun (same : p.addr = addr) =>
    absent (same ▸ List.mem_map_of_mem _ member)).trans (List.map_id _)

theorem extn_startStations : ∀ n, (startStations n).extn = scenarioConfig
  | 0 => rfl
  | n + 1 => (Event.extn_apply _ _ _).trans (extn_startStations n)

theorem stationOf_ne_station {i : Nat} {addr : MacAddr} (other : addr.bytes.head? = some 0xaa) :
    stationOf i ≠ addr := fun same => by
  have heads := congrArg (fun a : MacAddr => a.bytes.head?) same
  simp only [stationOf, List.head?_cons] at heads
  rw [other] at heads
  cases heads

/-- A write to a new record at its address. -/
theorem writeAt_zalloc {addr : MacAddr} {f : TdlsAutoPeer → TdlsAutoPeer} :
    writeAt addr f (.zalloc addr) = f (.zalloc addr) :=
  if_pos rfl

/-- A connect of a tracked address marks its record connected and samples it. -/
theorem tdlsAutoPeerConnected_tracked (caps : Capabilities) {addr : MacAddr} {s : State}
    (tracked : s.Tracked addr) :
    (tdlsAutoPeerConnected caps addr s).peers =
      s.peers.map (writeAt addr fun p =>
        tdlsAutoGetPeerDataRate caps { p with connected := true }) ∧
      (tdlsAutoPeerConnected caps addr s).peerCount = s.peerCount ∧
      (tdlsAutoPeerConnected caps addr s).extn = s.extn := by
  rcases tdlsAutoPeerConnected_cases caps addr s with ⟨-, same⟩ | ⟨untracked, -⟩ | ⟨untracked, -⟩
  · rw [same]; exact tdlsAutoPeerConnectedFound_peers caps addr _
  all_goals exact absurd tracked untracked

/-- With every capability succeeding, a connect of an untracked address links an incoming
peer, connected and sampled. -/
theorem tdlsAutoPeerConnected_untracked (reenters : Bool) (rssi : Int) {addr : MacAddr}
    {s : State} (untracked : ¬ s.Tracked addr) :
    (tdlsAutoPeerConnected (.nominal reenters rssi) addr s).peers =
      tdlsAutoGetPeerDataRate (.nominal reenters rssi)
        { TdlsAutoPeer.zalloc addr with incomingPeer := true, connected := true } :: s.peers ∧
      (tdlsAutoPeerConnected (.nominal reenters rssi) addr s).peerCount = s.peerCount + 1 ∧
      (tdlsAutoPeerConnected (.nominal reenters rssi) addr s).extn = s.extn := by
  rcases tdlsAutoPeerConnected_cases (.nominal reenters rssi) addr s with
    ⟨tracked, -⟩ | ⟨-, -, same⟩ | ⟨-, failed, -⟩
  · exact absurd tracked untracked
  · obtain ⟨peers, count, -, extn⟩ := tdlsAutoAddPeer_nominal_eq reenters rssi addr
      (s.setConnPeerCount (s.connPeerCount + 1))
    obtain ⟨peers', count', extn'⟩ := tdlsAutoPeerConnectedFound_peers (.nominal reenters rssi) addr
      ((tdlsAutoAddPeer (.nominal reenters rssi) addr
        (s.setConnPeerCount (s.connPeerCount + 1))).1.writePeer addr
          fun p => { p with incomingPeer := true })
    rw [same, peers', State.writePeer_peers, peers, count', State.writePeer_peerCount, count,
      extn', State.writePeer_extn, extn]
    refine ⟨?_, rfl, rfl⟩
    rw [State.setConnPeerCount_peers, List.map_map,
      writeAt_comp_writeAt (f := fun p => { p with incomingPeer := true })
      (fun _ => rfl), List.map_cons, writeAt_zalloc, map_writeAt_of_not_mem untracked]
    rfl
  · rw [tdlsAutoAddPeer_nominal] at failed; cases failed

/-- Station A connected as an incoming peer. -/
def connectedA : TdlsAutoPeer :=
  { TdlsAutoPeer.zalloc stationA with incomingPeer := true, connected := true }

/-- Station B, started, then connected. -/
def connectedB : TdlsAutoPeer := { TdlsAutoPeer.zalloc stationB with connected := true }

/-- Station B started and connected, then station A connecting on its own. -/
def connectPair (s : State) : State :=
  (Event.peerConnected stationA).apply (.nominal true 0)
    ((Event.peerConnected stationB).apply (.nominal true 0)
      ((Event.modeStart stationB).apply (.nominal true 0) s))

/-- Over a registry without either station, the pair is linked at the head and counted. -/
theorem connectPair_eq {s : State} (awayA : stationA ∉ s.addrs) (awayB : stationB ∉ s.addrs) :
    (connectPair s).peers = connectedA :: connectedB :: s.peers ∧
      (connectPair s).peerCount = s.peerCount + 1 + 1 ∧ (connectPair s).extn = s.extn := by
  obtain ⟨peers₁, count₁, -, extn₁⟩ := tdlsAutoAddPeer_nominal_eq true 0 stationB s
  rw [← tdlsAutoModeStart_nominal_eq awayB] at peers₁ count₁ extn₁
  have tracked : (tdlsAutoModeStart (.nominal true 0) stationB s).2.Tracked stationB := by
    rw [State.Tracked, State.addrs, peers₁]; exact List.mem_cons_self _ _
  obtain ⟨peers₂, count₂, extn₂⟩ := tdlsAutoPeerConnected_tracked (.nominal true 0) tracked
  rw [peers₁, List.map_cons, writeAt_zalloc,
    map_writeAt_of_not_mem awayB] at peers₂
  have untracked : ¬ (tdlsAutoPeerConnected (.nominal true 0) stationB
      (tdlsAutoModeStart (.nominal true 0) stationB s).2).Tracked stationA := by
    rw [State.Tracked, State.addrs, peers₂, List.map_cons, List.mem_cons]
    exact fun member => member.elim (by decide) awayA
  obtain ⟨peers₃, count₃, extn₃⟩ := tdlsAutoPeerConnected_untracked true 0 untracked
  refine ⟨?_, ?_, extn₃.trans (extn₂.trans extn₁)⟩
  · rw [connectPair, Event.apply, Event.apply, Event.apply, peers₃, peers₂]
    exact congrArg₂ List.cons (by decide) (congrArg₂ List.cons (by decide) rfl)
  · rw [connectPair, Event.apply, Event.apply, Event.apply, count₃, count₂, count₁]

/-- A visit to an address the view tracks applies the outcome of the peer found there. -/
theorem PassView.visit_of_found {outcome : TdlsAutoPeer → PassOutcome} {v : PassView} {b : Bool}
    {addr : MacAddr} {peer : TdlsAutoPeer} (found : v.peers.find? (·.addr = addr) = some peer) :
    PassView.visit outcome (v, b) addr =
      ((outcome peer).apply addr v, b || (outcome peer).rearms) := by
  simp only [PassView.visit, found]

/-- A data-teardown pass over a registry of disconnected peers changes nothing. -/
theorem PassView.foldl_visit_idle {caps : Capabilities} {extn : WpasTdlsAutoCtx} {v : PassView}
    (nodup : (v.peers.map (·.addr)).Nodup) (idle : ∀ p ∈ v.peers, p.connected = false) :
    ∀ (addrs : List MacAddr) (b : Bool),
      addrs.foldl (PassView.visit (dataTeardownOutcome caps extn)) (v, b) = (v, b)
  | [], _ => rfl
  | addr :: addrs, b => by
    rw [List.foldl_cons]
    cases found : v.peers.find? (·.addr = addr) with
    | none => simp only [PassView.visit, found]; exact PassView.foldl_visit_idle nodup idle addrs b
    | some p =>
      have member := List.mem_of_find?_eq_some found
      have keep : dataTeardownOutcome caps extn p = .keep p := by
        simp [dataTeardownOutcome, idle p member]
      rw [PassView.visit_of_found found, keep,
        show (PassOutcome.keep p).apply addr v = v from
          PassView.ext (replacePeer_of_mem nodup member) rfl rfl rfl rfl rfl]
      exact (Bool.or_false b).symm ▸ PassView.foldl_visit_idle nodup idle addrs b

/-- The fast-connect timer after a data-teardown timeout is where the visits of its pass
leave it, whatever the count. -/
theorem pending_tdlsAutoDataTeardownTimeout (caps : Capabilities) {s : State}
    (nodup : s.addrs.Nodup) :
    (tdlsAutoDataTeardownTimeout caps s).pending .fastConnect =
      (s.addrs.foldl (PassView.visit (dataTeardownOutcome caps s.extn)) (s.view, false)).1.pending
        .fastConnect := by
  rw [← view_foldl_flagless (dataTeardownOutcome_rearms caps)
    (fun t addr missing => by simp [tdlsAutoDataTeardownStep, missing])
    (fun _ _ _ nodup found => view_tdlsAutoDataTeardownStep nodup found) nodup]
  unfold tdlsAutoDataTeardownTimeout
  dsimp only
  split_ifs <;> simp

section pair

variable {base : State} (awayA : stationA ∉ base.addrs) (awayB : stationB ∉ base.addrs)
  (nodup : base.addrs.Nodup) (idle : base.AllPeers fun p => p.connected = false)

include awayB nodup idle in
/-- Past the pair, the pass visits idle stations only. -/
theorem foldl_visit_past_pair {caps : Capabilities} {extn : WpasTdlsAutoCtx} {v : PassView}
    (peers : v.peers = .zalloc stationB :: base.peers) (b : Bool) :
    (base.peers.map (·.addr)).foldl (PassView.visit (dataTeardownOutcome caps extn)) (v, b) =
      (v, b) :=
  PassView.foldl_visit_idle (by rw [peers, List.map_cons]; exact List.nodup_cons.2 ⟨awayB, nodup⟩)
    (by rw [peers]; exact List.forall_mem_cons.2 ⟨rfl, idle⟩) _ b

/-- Station A, connected on its own, is freed by a data-teardown visit. -/
theorem dataTeardownOutcome_connectedA :
    dataTeardownOutcome (.nominal true 0) scenarioConfig connectedA =
      ⟨none, [.disconnect stationA], false, true, false⟩ := by
  decide

/-- Station B, started, is disconnected and left in the registry, re-arming the fast-connect
timer. -/
theorem dataTeardownOutcome_connectedB :
    dataTeardownOutcome (.nominal true 0) scenarioConfig connectedB =
      ⟨some (.zalloc stationB), [.disconnect stationB], true, true, false⟩ := by
  decide

theorem replacePeer_connectedB {rest : List TdlsAutoPeer} (absent : stationB ∉ rest.map (·.addr)) :
    replacePeer (.zalloc stationB) (connectedB :: rest) = .zalloc stationB :: rest :=
  congrArg₂ List.cons (if_pos rfl) (map_writeAt_of_not_mem absent)

include awayA awayB nodup idle

/-- Visiting station A first: A is freed, then B re-arms the fast-connect timer. -/
theorem dataTeardown_stationA_first {t : State}
    (peers : t.peers = connectedA :: connectedB :: base.peers) (config : t.extn = scenarioConfig) :
    (Handler.dataTeardown.run (.nominal true 0) t).pending .fastConnect = true := by
  have nodup' : t.addrs.Nodup := by
    rw [State.addrs, peers, List.map_cons, List.map_cons]
    exact List.nodup_cons.2 ⟨List.not_mem_cons_of_ne_of_not_mem (by decide) awayA,
      List.nodup_cons.2 ⟨awayB, nodup⟩⟩
  have foundA : t.view.peers.find? (·.addr = connectedA.addr) = some connectedA := by
    rw [State.view_peers, peers]; exact List.find?_cons_of_pos _ (by decide)
  obtain ⟨freed, -, -⟩ := PassOutcome.apply_of_none
    (dataTeardownOutcome (.nominal true 0) scenarioConfig connectedA) connectedA.addr t.view
    (by rw [dataTeardownOutcome_connectedA]) (by rw [dataTeardownOutcome_connectedA])
  rw [State.view_peers, peers, List.eraseP_cons_of_pos (by decide)] at freed
  have foundB : ((dataTeardownOutcome (.nominal true 0) scenarioConfig connectedA).apply
      connectedA.addr t.view).peers.find? (·.addr = connectedB.addr) = some connectedB := by
    rw [freed]; exact List.find?_cons_of_pos _ (by decide)
  obtain ⟨kept, -, armed⟩ := PassOutcome.apply_of_some
    (dataTeardownOutcome (.nominal true 0) scenarioConfig connectedB) connectedB.addr
    ((dataTeardownOutcome (.nominal true 0) scenarioConfig connectedA).apply connectedA.addr t.view)
    (by rw [dataTeardownOutcome_connectedB])
  rw [freed, replacePeer_connectedB awayB] at kept
  rw [Handler.run, pending_tdlsAutoDataTeardownTimeout _ nodup', config, State.addrs, peers,
    List.map_cons, List.map_cons, List.foldl_cons, List.foldl_cons, PassView.visit_of_found foundA,
    PassView.visit_of_found foundB, foldl_visit_past_pair awayB nodup idle kept, armed,
    dataTeardownOutcome_connectedB]
  simp

/-- Visiting station B first: B re-arms the fast-connect timer, then freeing A drops a count
of one to zero and cancels it. -/
theorem dataTeardown_stationB_first {t : State}
    (peers : t.peers = connectedB :: connectedA :: base.peers) (config : t.extn = scenarioConfig)
    (one : t.peerCount = 1) :
    (Handler.dataTeardown.run (.nominal true 0) t).pending .fastConnect = false := by
  have nodup' : t.addrs.Nodup := by
    rw [State.addrs, peers, List.map_cons, List.map_cons]
    exact List.nodup_cons.2 ⟨List.not_mem_cons_of_ne_of_not_mem (by decide) awayB,
      List.nodup_cons.2 ⟨awayA, nodup⟩⟩
  have foundB : t.view.peers.find? (·.addr = connectedB.addr) = some connectedB := by
    rw [State.view_peers, peers]; exact List.find?_cons_of_pos _ (by decide)
  obtain ⟨kept, counted, -⟩ := PassOutcome.apply_of_some
    (dataTeardownOutcome (.nominal true 0) scenarioConfig connectedB) connectedB.addr t.view
    (by rw [dataTeardownOutcome_connectedB])
  have absent : stationB ∉ (connectedA :: base.peers).map (·.addr) :=
    List.not_mem_cons_of_ne_of_not_mem (by decide) awayB
  rw [State.view_peers, peers, replacePeer_connectedB absent] at kept
  have foundA : ((dataTeardownOutcome (.nominal true 0) scenarioConfig connectedB).apply
      connectedB.addr t.view).peers.find? (·.addr = connectedA.addr) = some connectedA := by
    rw [kept]
    exact (List.find?_cons_of_neg _ (by decide)).trans (List.find?_cons_of_pos _ (by decide))
  obtain ⟨freed, -, cancelled⟩ := PassOutcome.apply_of_none
    (dataTeardownOutcome (.nominal true 0) scenarioConfig connectedA) connectedA.addr
    ((dataTeardownOutcome (.nominal true 0) scenarioConfig connectedB).apply connectedB.addr t.view)
    (by rw [dataTeardownOutcome_connectedA]) (by rw [dataTeardownOutcome_connectedA])
  rw [kept, List.eraseP_cons_of_neg (by decide), List.eraseP_cons_of_pos (by decide)] at freed
  rw [counted, State.view_peerCount, one, if_pos (by decide)] at cancelled
  rw [Handler.run, pending_tdlsAutoDataTeardownTimeout _ nodup', config, State.addrs, peers,
    List.map_cons, List.map_cons, List.foldl_cons, List.foldl_cons, PassView.visit_of_found foundB,
    PassView.visit_of_found foundA, foldl_visit_past_pair awayB nodup idle freed, cancelled]
  simp

end pair

/-- `2^32 - 1` idle stations, then station B started and connected and station A connecting on
its own: `2^32 + 1` peers, which `peer_count` counts as one. -/
def wrappedRegistry : State := connectPair (startStations (2 ^ 32 - 1))

theorem Reachable.connectPair {s : State} (reachable : Reachable s) : Reachable (connectPair s) :=
  ((reachable.step _ (.modeStart stationB) trivial).step _ (.peerConnected stationB) trivial).step _
    (.peerConnected stationA) trivial

end wrapped

end TdlsAutoMode
