import Mathlib

/-!
# The callbacks and works of sta.c

The mac80211 callbacks and the work items of sta.c, as far as they take and release the
tx lock (`wsm_tx_lock`, `wsm_tx_lock_flush`, `wsm_tx_unlock`), `conf_mutex` and
`bss_loss_lock`, queue, cancel or flush a work item, and read or write `wvif->state`.
Each procedure is a program of a small language; a branch holds the rest of the
procedure, so a procedure is a finite tree, written in continuation-passing style: the
translation of a C function takes the code that follows its call.

A system runs any number of callbacks and work handlers as threads, interleaved at each
instruction. The workqueue semantics is the kernel's: `schedule_work` fails while the work
is pending, a handler never runs twice at once, and `cancel_work_sync` takes the PENDING
bit (dropping a queued run), waits for a running handler, then gives the bit back.

Every value sta.c tests that the model does not keep (mac80211's arguments and interface
type, the chip's answers, the scan code, the queues) is chosen by the scheduler.
-/

namespace WfxDriver

/-! ## The language -/

/-- The mutexes of sta.c: `wdev->conf_mutex` and `wvif->bss_loss_lock`. -/
inductive Mutex
  | conf
  | bssLoss
  deriving DecidableEq, Repr

/-- The work items of sta.c; the handler of `link_id_work` lives in data_tx.c. -/
inductive Work
  | unjoin
  | bssParams
  | eventHandler
  | linkId
  | multicastStart
  | multicastStop
  | setCts
  deriving DecidableEq, Repr

def Work.all : List Work :=
  [.unjoin, .bssParams, .eventHandler, .linkId, .multicastStart, .multicastStop, .setCts]

/-- The works whose handler ends in `wsm_tx_unlock`: a `schedule_work` that queues one
hands it the scheduling thread's tx-lock obligation. -/
def Work.carriesTxLock : Work → Bool
  | .unjoin | .linkId => true
  | _ => false

inductive VifState
  | passive
  | preSta
  | sta
  | ibss
  | ap
  deriving DecidableEq, Repr

/-- A value sta.c tests: whether `wvif->state` is one of a list, or a value the model does not
keep, which the scheduler picks. -/
inductive Cond
  | stateIn (l : List VifState)
  | env
  deriving DecidableEq, Repr

/-- One atomic step of a thread. `txLock` is `wsm_tx_lock` or `wsm_tx_lock_flush`.
`cancel_work_sync(w)` takes two: `grab` takes the PENDING bit, dropping a queued run, and
`cancelWait` waits until no handler of `w` runs, then gives the bit back. `flushWait` is
`flush_work(w)`: wait until `w` is neither pending nor running. -/
inductive Instr
  | txLock
  | txUnlock
  | lock (m : Mutex)
  | unlock (m : Mutex)
  | grab (w : Work)
  | cancelWait (w : Work)
  | flushWait (w : Work)
  | setState (v : VifState)
  deriving DecidableEq, Repr

/-- A procedure from some point on. `schedule w queued pending` is `schedule_work(w)`, going
on with `queued` if it queued `w` and with `pending` if `w` was already pending. -/
inductive Prog
  | done
  | step (i : Instr) (k : Prog)
  | branch (c : Cond) (t e : Prog)
  | schedule (w : Work) (queued pending : Prog)
  deriving DecidableEq, Repr

/-! ## sta.c -/

def cancelWorkSync (w : Work) (k : Prog) : Prog := .step (.grab w) (.step (.cancelWait w) k)

def scheduleWork (w : Work) (k : Prog) : Prog := .schedule w k k

/-- `if (!schedule_work(w)) wsm_tx_unlock(wdev);` -/
def scheduleOrUnlock (w : Work) (k : Prog) : Prog := .schedule w k (.step .txUnlock k)

/-- `wfx_cqm_bssloss_sm(wvif, init, good, bad)`. The delayed `bss_loss_work`, whose handler
takes no lock, and the null frame it may send are not modelled. -/
def wfxCqmBsslossSm (init good : Bool) (k : Prog) : Prog :=
  let finish := .step (.unlock .bssLoss) k
  .step (.lock .bssLoss) <| cancelWorkSync .bssParams <|
    -- `if (wvif->delayed_unjoin) goto end;`
    .branch .env finish <|
      if init then finish else if good then scheduleWork .bssParams finish else finish

/-- `wfx_do_unjoin(wvif)`. The cancels of `update_filtering_work` and
`set_beacon_wakeup_period_work`, whose handlers take no lock, are not modelled. -/
def wfxDoUnjoin (k : Prog) : Prog :=
  let finish := .step (.unlock .conf) k
  .step (.lock .conf) <|
    -- `if (atomic_read(&wvif->scan.in_progress)) { ... goto done; }`
    .branch .env finish <|
    -- `if (!wvif->state) goto done;` and `if (wvif->state == WFX_STATE_AP) goto done;`
    .branch (.stateIn [.passive, .ap]) finish <|
    .step (.setState .passive) <|
    cancelWorkSync .eventHandler <|
    wfxCqmBsslossSm false false finish

def wfxUnjoinWork : Prog := wfxDoUnjoin (.step .txUnlock .done)

def wfxBssParamsWork : Prog := .step (.lock .conf) (.step (.unlock .conf) .done)

def wfxSetCtsWork : Prog := .step (.lock .conf) (.step (.unlock .conf) .done)

/-- The events `wfx_event_handler_work` takes off `wvif->event_queue`; `other` stands for
`WSM_EVENT_IND_RCPI_RSSI`, `WSM_EVENT_IND_PS_MODE_ERROR` and the rest. -/
inductive WsmEvent
  | bssLost
  | bssRegained
  | other
  deriving DecidableEq, Repr

def wfxEventHandlerWork : List WsmEvent → Prog
  | [] => .done
  | .bssLost :: es =>
    cancelWorkSync .unjoin <|
      -- `if (!down_trylock(&wvif->scan.lock))`
      .branch .env (wfxCqmBsslossSm true false (wfxEventHandlerWork es)) (wfxEventHandlerWork es)
  | .bssRegained :: es =>
    wfxCqmBsslossSm false false (cancelWorkSync .unjoin (wfxEventHandlerWork es))
  | .other :: es => wfxEventHandlerWork es

/-- `wfx_link_id_work` (data_tx.c, not in this tree), by its net effect on the tx lock: it
ends in `wsm_tx_unlock`. -/
def wfxLinkIdWork : Prog := .step .txUnlock .done

/-- `__wfx_flush(wdev, drop)`: go on with `ok` after it returns 0 holding the tx lock, with
`timedOut` after `-ETIMEDOUT`. A retry after the queues refilled is a `wsm_tx_unlock`
followed by the same steps again, which changes no lock or work state; it is not
modelled. -/
def wfxFlushInner (drop : Bool) (ok timedOut : Prog) : Prog :=
  if drop then .step .txLock ok else .branch .env timedOut (.step .txLock ok)

/-- `wfx_set_tim_impl(wvif, aid0_bit_set)`: without a beacon it flushes and unlocks. -/
def wfxSetTimImpl (k : Prog) : Prog :=
  .branch .env (wfxFlushInner true (.step .txUnlock k) k) k

def wfxMulticastStartWork : Prog :=
  cancelWorkSync .multicastStop <|
    -- `if (!wvif->aid0_bit_set)`
    .branch .env (.step .txLock (wfxSetTimImpl (.step .txUnlock .done))) .done

def wfxMulticastStopWork : Prog :=
  .branch .env (.step .txLock (wfxSetTimImpl (.step .txUnlock .done))) .done

def workBody : Work → List WsmEvent → Prog
  | .unjoin, _ => wfxUnjoinWork
  | .bssParams, _ => wfxBssParamsWork
  | .eventHandler, es => wfxEventHandlerWork es
  | .linkId, _ => wfxLinkIdWork
  | .multicastStart, _ => wfxMulticastStartWork
  | .multicastStop, _ => wfxMulticastStopWork
  | .setCts, _ => wfxSetCtsWork

def wfxUpdateBeaconing (k : Prog) : Prog :=
  let restart := .step .txLock <| .step (.setState .passive) <|
    -- `wfx_start_ap` succeeded
    .branch .env (.step (.setState .ap) (.step .txUnlock k)) (.step .txUnlock k)
  -- `wvif->vif->type == NL80211_IFTYPE_AP`, then
  -- `wvif->state != WFX_STATE_AP || wvif->beacon_int != conf->beacon_int`
  .branch .env (.branch (.stateIn [.ap]) (.branch .env restart k) restart) k

/-- `wfx_do_join(wvif)`, called with the tx lock taken: it unlocks it or hands it to
`unjoin_work`. -/
def wfxDoJoin (k : Prog) : Prog :=
  let body :=
    -- `if (!bss && !conf->ibss_joined)`
    .branch .env (.step .txUnlock k) <|
    .step (.lock .conf) <|
    let finish := .step (.unlock .conf) k
    -- `if (atomic_read(&wvif->scan.in_progress))`
    .branch .env (.step .txUnlock finish) <|
    -- `if (wsm_join(...))`
    .branch .env (scheduleOrUnlock .unjoin finish) <|
      -- `wvif->vif->type == NL80211_IFTYPE_ADHOC`
      .branch .env (.step (.setState .ibss) (.step .txUnlock finish))
        (.step (.setState .preSta) (.step .txUnlock finish))
  -- `if (wvif->state) wfx_do_unjoin(wvif);`
  .branch (.stateIn [.passive]) body (wfxDoUnjoin body)

/-- The `changed` bits and the `info` fields `wfx_bss_info_changed` tests for locking:
`BSS_CHANGED_ASSOC`, `_BSSID`, `_IBSS` and `_BEACON_INT`; `beacon` for `_BEACON`,
`_AP_PROBE_RESP` or `_SSID`; `rates` for `_BASIC_RATES` or `_HT`; `erp` for `_ERP_CTS_PROT`
or `_ERP_PREAMBLE`; `info->assoc` and `info->ibss_joined`. -/
structure BssChange where
  assoc : Bool
  bssid : Bool
  ibss : Bool
  beaconInt : Bool
  beacon : Bool
  rates : Bool
  erp : Bool
  infoAssoc : Bool
  ibssJoined : Bool
  deriving DecidableEq, Repr

/-- `wfx_bss_info_changed(hw, vif, info, changed)`; its local `do_join` is the argument of
the continuations. -/
def wfxBssInfoChanged (c : BssChange) (k : Prog) : Prog :=
  let unlockAndJoin (doJoin : Bool) : Prog :=
    .step (.unlock .conf) (if doJoin then .step .txLock (wfxDoJoin k) else k)
  -- ERP protection: `if (prev_erp_info != wvif->erp_info) schedule_work(&wvif->set_cts_work);`
  let tail (doJoin : Bool) : Prog :=
    if c.assoc || c.erp then
      .branch .env (scheduleWork .setCts (unlockAndJoin doJoin)) (unlockAndJoin doJoin)
    else unlockAndJoin doJoin
  let params (doJoin : Bool) : Prog :=
    if c.infoAssoc || c.ibssJoined then
      wfxCqmBsslossSm false false (cancelWorkSync .unjoin (tail doJoin))
    else tail doJoin
  let assocBlock (doJoin : Bool) : Prog :=
    if c.assoc || c.bssid || c.ibss || c.rates then
      if c.infoAssoc then
        -- `wvif->state < WFX_STATE_PRE_STA`: `mutex_unlock(&wdev->conf_mutex); return;`
        .branch (.stateIn [.passive]) (.step (.unlock .conf) k)
          (.branch (.stateIn [.preSta]) (.step (.setState .sta) (params doJoin)) (params doJoin))
      else params true
    else tail doJoin
  let joinPart : Prog :=
    if c.beaconInt && !c.ibssJoined then
      .branch (.stateIn [.ap]) (wfxUpdateBeaconing (assocBlock c.bssid)) (assocBlock c.bssid)
    else assocBlock (c.beaconInt || c.bssid)
  let afterAssocFlush : Prog :=
    if c.assoc && !c.infoAssoc then
      .branch (.stateIn [.sta, .ibss]) (.step .txLock (scheduleOrUnlock .unjoin (tail false)))
        joinPart
    else joinPart
  let assocFlush : Prog :=
    if c.assoc then .step .txLock (.step .txUnlock afterAssocFlush) else afterAssocFlush
  .step (.lock .conf) <|
    if c.beacon || c.bssid || c.ibss then wfxUpdateBeaconing assocFlush else assocFlush

/-- `wfx_remove_interface`. `wfx_tx_queues_wait_empty_vif` (queue.c) returns with the tx
lock taken, which the `wsm_tx_unlock` after it releases. The scan-lock and power-save
waits at its start take no lock of the model and are not modelled. -/
def wfxRemoveInterface : Prog :=
  let rest :=
    .step (.setState .passive) <|
    .step .txLock <| .step .txUnlock <|
    wfxCqmBsslossSm false false <|
    cancelWorkSync .unjoin <|
    .step (.unlock .conf) .done
  .step (.lock .conf) <|
    .branch (.stateIn [.preSta, .sta, .ibss]) (.step .txLock (scheduleOrUnlock .unjoin rest)) rest

def wfxStaRemove : Prog :=
  -- `if (wvif->vif->type != NL80211_IFTYPE_AP || !sta_priv->link_id) return 0;`
  .branch .env .done <|
    .step .txLock (scheduleOrUnlock .linkId (.step (.flushWait .linkId) .done))

/-- `wfx_flush`, with `drop` as it stands after the interface-type checks. -/
def wfxFlush (drop : Bool) : Prog := wfxFlushInner drop (.step .txUnlock .done) .done

def wfxStop : Prog :=
  .step .txLock (.step (.lock .conf) (.step (.unlock .conf) (.step .txUnlock .done)))

def wfxStaNotify : Prog :=
  .branch .env (scheduleWork .multicastStart .done)
    (.branch .env (scheduleWork .multicastStop .done) .done)

/-- The mac80211 callbacks of sta.c that take part. -/
inductive Callback
  | removeInterface
  | bssInfoChanged (c : BssChange)
  | staRemove
  | flush (drop : Bool)
  | stop
  | staNotify
  deriving DecidableEq, Repr

def Callback.body : Callback → Prog
  | .removeInterface => wfxRemoveInterface
  | .bssInfoChanged c => wfxBssInfoChanged c .done
  | .staRemove => wfxStaRemove
  | .flush drop => wfxFlush drop
  | .stop => wfxStop
  | .staNotify => wfxStaNotify

/-! ## The system -/

/-- A callback in flight (`work = none`) or a running work handler. `held` counts the
tx-lock obligations it holds: one per `wsm_tx_lock` it made or a queued work handed it,
less one per `wsm_tx_unlock` and per obligation it handed to a work. -/
structure Thread where
  work : Option Work
  prog : Prog
  held : Nat
  deriving DecidableEq, Repr

/-- The workqueue state of a work item; `grabbed` while a `cancel_work_sync` holds the
PENDING bit. -/
inductive WorkStatus
  | idle
  | queued
  | grabbed
  deriving DecidableEq, Repr

/-- The shared state, with `atomic_t wdev->tx_lock`. `carried`, `lost` and `unbacked` are
ghost counters of the obligation accounting: what a queued work carries, what
`cancel_work_sync` dropped with a queued work, and the unlocks made without an
obligation. -/
structure Sys where
  threads : List Thread
  status : Work → WorkStatus
  carried : Work → Nat
  owner : Mutex → Option Nat
  vif : VifState
  txLock : Int
  lost : Nat
  unbacked : Nat

def Sys.idleIn (v : VifState) : Sys :=
  ⟨[], fun _ => .idle, fun _ => 0, fun _ => none, v, 0, 0, 0⟩

def Sys.init : Sys := Sys.idleIn .passive

def Cond.eval (c : Cond) (v : VifState) (choice : Bool) : Bool :=
  match c with
  | .stateIn l => l.contains v
  | .env => choice

def Sys.running (s : Sys) (w : Work) : Bool :=
  s.threads.any fun th => th.work == some w && th.prog != .done

def Sys.setThread (s : Sys) (t : Nat) (th : Thread) : Sys := { s with threads := s.threads.set t th }

section SetThread

variable (s : Sys) (t : Nat) (th : Thread)

@[simp] theorem Sys.setThread_threads : (s.setThread t th).threads = s.threads.set t th := rfl
@[simp] theorem Sys.setThread_status : (s.setThread t th).status = s.status := rfl
@[simp] theorem Sys.setThread_carried : (s.setThread t th).carried = s.carried := rfl
@[simp] theorem Sys.setThread_owner : (s.setThread t th).owner = s.owner := rfl
@[simp] theorem Sys.setThread_vif : (s.setThread t th).vif = s.vif := rfl
@[simp] theorem Sys.setThread_txLock : (s.setThread t th).txLock = s.txLock := rfl
@[simp] theorem Sys.setThread_lost : (s.setThread t th).lost = s.lost := rfl
@[simp] theorem Sys.setThread_unbacked : (s.setThread t th).unbacked = s.unbacked := rfl

end SetThread

/-- Thread `t`, at instruction `i` with `k` to follow. `none` while it is blocked. -/
def Sys.execInstr (s : Sys) (t : Nat) (th : Thread) (i : Instr) (k : Prog) : Option Sys :=
  let next := { th with prog := k }
  match i with
  | .txLock => some { (s.setThread t { next with held := th.held + 1 }) with txLock := s.txLock + 1 }
  | .txUnlock =>
    some { (s.setThread t { next with held := th.held - 1 }) with
      txLock := s.txLock - 1, unbacked := if th.held = 0 then s.unbacked + 1 else s.unbacked }
  | .lock m =>
    if s.owner m = none then some { s.setThread t next with owner := Function.update s.owner m (some t) }
    else none
  | .unlock m =>
    if s.owner m = some t then some { s.setThread t next with owner := Function.update s.owner m none }
    else none
  | .grab w =>
    match s.status w with
    | .idle => some { s.setThread t next with status := Function.update s.status w .grabbed }
    | .queued =>
      some { s.setThread t next with
        status := Function.update s.status w .grabbed, carried := Function.update s.carried w 0,
        lost := s.lost + s.carried w }
    | .grabbed => none
  | .cancelWait w =>
    if s.running w then none
    else
      let st := if s.status w = .grabbed then .idle else s.status w
      some { s.setThread t next with status := Function.update s.status w st }
  | .flushWait w => if s.status w = .idle && !s.running w then some (s.setThread t next) else none
  | .setState v => some { s.setThread t next with vif := v }

/-- The obligations a thread holding `held` hands to `w` when it queues it. -/
def Work.give (w : Work) (held : Nat) : Nat := if w.carriesTxLock then min held 1 else 0

/-- `schedule_work(w)` by thread `t`: queue `w`, handing it an obligation if it carries
one, or find it pending. -/
def Sys.scheduleBy (s : Sys) (t : Nat) (th : Thread) (w : Work) (queued pending : Prog) : Sys :=
  if s.status w = .idle then
    { (s.setThread t { th with prog := queued, held := th.held - w.give th.held }) with
      status := Function.update s.status w .queued,
      carried := Function.update s.carried w (s.carried w + w.give th.held) }
  else s.setThread t { th with prog := pending }

def Sys.exec (s : Sys) (t : Nat) (choice : Bool) : Option Sys :=
  match s.threads[t]? with
  | none => none
  | some th =>
    match th.prog with
    | .done => none
    | .step i k => s.execInstr t th i k
    | .branch c p q => some (s.setThread t { th with prog := if c.eval s.vif choice then p else q })
    | .schedule w q p => some (s.scheduleBy t th w q p)

theorem Sys.exec_eq_some {s s' : Sys} {t : Nat} {c : Bool} (hs : s.exec t c = some s') :
    ∃ th, s.threads[t]? = some th ∧
      ((∃ i k, th.prog = .step i k ∧ s.execInstr t th i k = some s') ∨
        (∃ cnd p q, th.prog = .branch cnd p q ∧
          s' = s.setThread t { th with prog := if cnd.eval s.vif c then p else q }) ∨
        ∃ w q p, th.prog = .schedule w q p ∧ s' = s.scheduleBy t th w q p) := by
  unfold Sys.exec at hs
  rcases ht : s.threads[t]? with _ | th <;> rw [ht] at hs
  · cases hs
  refine ⟨th, rfl, ?_⟩
  rcases hp : th.prog with _ | ⟨i, k⟩ | ⟨cnd, p, q⟩ | ⟨w, q, p⟩ <;> simp only [hp] at hs
  · cases hs
  · exact .inl ⟨i, k, rfl, hs⟩
  · exact .inr (.inl ⟨cnd, p, q, rfl, (Option.some.inj hs).symm⟩)
  · exact .inr (.inr ⟨w, q, p, rfl, (Option.some.inj hs).symm⟩)

/-- What happens next: mac80211 calls a callback; code outside sta.c queues
`event_handler_work` (wsm_rx.c, on an event indication) or `bss_params_work`, neither of
which carries an obligation; a worker starts the queued handler of `w`, the event handler
taking `events`; or a thread takes a step. -/
inductive Label
  | call (c : Callback)
  | outsideQueue (w : Work)
  | start (w : Work) (events : List WsmEvent)
  | exec (t : Nat) (choice : Bool)

def sysStep (s : Sys) : Label → Option Sys
  | .call c => some { s with threads := s.threads ++ [⟨none, c.body, 0⟩] }
  | .outsideQueue w =>
    if w.carriesTxLock then none
    else if s.status w = .idle then some { s with status := Function.update s.status w .queued }
    else some s
  | .start w es =>
    if s.status w = .queued && !s.running w then
      some { s with
        threads := s.threads ++ [⟨some w, workBody w es, s.carried w⟩],
        status := Function.update s.status w .idle, carried := Function.update s.carried w 0 }
    else none
  | .exec t choice => s.exec t choice

def sysRun (s : Sys) : List Label → Option Sys
  | [] => some s
  | l :: ls => (sysStep s l).bind fun s' => sysRun s' ls

theorem sysRun_invariant {P : Sys → Prop}
    (hstep : ∀ {s s' : Sys} {l : Label}, P s → sysStep s l = some s' → P s')
    {s s' : Sys} {ls : List Label} (h : P s) (hr : sysRun s ls = some s') : P s' := by
  induction ls generalizing s with
  | nil => cases hr; exact h
  | cons l ls ih =>
    obtain ⟨s₁, h₁, hr⟩ := Option.bind_eq_some.mp hr
    exact ih (hstep h h₁) hr

end WfxDriver
