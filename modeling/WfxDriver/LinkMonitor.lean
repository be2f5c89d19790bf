import WfxDriver.Message

/-!
# Link monitoring: the BSS-loss state machine and the RSSI events

`wfx_cqm_bssloss_sm(wvif, init, good, bad)` watches the link to the AP. A BSS-loss
indication (`init`) arms `bss_loss_work`, which reports a connection loss after a second,
and sends a null frame to the AP; the confirmation of that frame comes back as `good`
(the AP answered: disarm, send the BSS parameters again) or `bad` (send another null frame
while `bss_loss_state < 3`); any other call disarms. A pending unjoin freezes it.
`wfx_event_handler_work` drives it from the chip's indications and turns RCPI/RSSI
indications into CQM events against the threshold `wfx_bss_info_changed` keeps, the same
threshold it programs into the chip.
-/

namespace WfxDriver

/-- `NL80211_CQM_RSSI_THRESHOLD_EVENT_LOW` and `_HIGH`. -/
inductive CqmEvent
  | low
  | high
  deriving DecidableEq, Repr

/-- The `struct hif_mib_rcpi_rssi_threshold` of `wfx_bss_info_changed`: four flag bits and
three `u8` fields of the chip's interface. -/
structure RcpiRssiThreshold where
  detection : Bool
  rcpiRssi : Bool
  upperthresh : Bool
  lowerthresh : Bool
  lowerThreshold : UInt8
  upperThreshold : UInt8
  rollingAverageCount : UInt8
  deriving DecidableEq, Repr

/-- What the link monitor hands to mac80211 (`ieee80211_cqm_rssi_notify`, and
`ieee80211_connection_loss` from `wfx_bss_loss_work`), to the chip
(`wsm_set_rcpi_rssi_threshold`), or to the log (`"error while processing power save request"`,
`"Unhandled event indication: %.2x"`). -/
inductive MonitorReport
  | cqmRssi (evt : CqmEvent) (rssi : Int)
  | connectionLoss
  | threshold (t : RcpiRssiThreshold)
  | psModeError
  | unhandled (eventId : Nat)
  deriving DecidableEq, Repr

/-- The fields of `struct wfx_vif` the link monitor keeps, whether its two works
`bss_loss_work` and `bss_params_work` are queued, the null frames handed to `wfx_tx`, and its
reports in order. -/
structure BssLoss where
  delayedLinkLoss : Bool
  delayedUnjoin : Bool
  bssLossState : Nat
  bssLossWork : Bool
  bssParamsWork : Bool
  cqmUseRssi : Bool
  cqmRssiThold : Int
  probes : Nat
  reports : List MonitorReport
  deriving DecidableEq, Repr

def BssLoss.init (useRssi : Bool) : BssLoss := ⟨false, false, 0, false, false, useRssi, 0, 0, []⟩

/-- An indication on `wvif->event_queue`, with what `wfx_event_handler_work` finds for it: for
`WSM_EVENT_IND_BSSLOST` whether `down_trylock(&wvif->scan.lock)` fails, and `tx_lock` and the
null frame as the state machine finds them; for `WSM_EVENT_IND_RCPI_RSSI` its
`event_data.rcpi_rssi` byte. -/
inductive WsmEventInd
  | bssLost (scanBusy txLocked skbOk : Bool)
  | bssRegained
  | rcpiRssi (value : UInt8)
  | psModeError
  | other (eventId : Nat)
  deriving DecidableEq, Repr

namespace BssLoss

/-- `wfx_cqm_bssloss_sm(wvif, init, good, bad)`. `txLocked` is `atomic_read(&wdev->tx_lock)`
and `skbOk` whether `ieee80211_nullfunc_get` returned a frame. -/
def wfxCqmBsslossSm (s : BssLoss) (init good bad txLocked skbOk : Bool) : BssLoss :=
  let s := { s with delayedLinkLoss := false, bssParamsWork := false }
  if s.delayedUnjoin then s
  else
    let r : BssLoss × Bool :=
      if init then ({ s with bssLossWork := true, bssLossState := 0 }, !txLocked)
      else if good then
        ({ s with bssLossWork := false, bssLossState := 0, bssParamsWork := true }, false)
      else if bad then (s, decide (s.bssLossState < 3))
      else ({ s with bssLossWork := false, bssLossState := 0 }, false)
    if r.2 then
      let s := { r.1 with bssLossState := r.1.bssLossState + 1 }
      if skbOk then { s with probes := s.probes + 1 } else s
    else r.1

end BssLoss

/-- The RSSI of an indication byte: the byte as a signed RSSI when `cqm_use_rssi`
(`(int8_t) rcpi_rssi`), else an RCPI in half-dB steps, `RSSI = RCPI / 2 - 110`. -/
def rcpiRssiOf (useRssi : Bool) (b : UInt8) : Int :=
  if useRssi then (if b.toNat < 128 then b.toNat else (b.toNat : Int) - 256)
  else ((b.toNat / 2 : Nat) : Int) - 110

/-- `rcpi_rssi <= wvif->cqm_rssi_thold ? ..._LOW : ..._HIGH`. -/
def cqmEvent (rssi thold : Int) : CqmEvent := if rssi ≤ thold then .low else .high

/-- The threshold `wfx_bss_info_changed` programs on `BSS_CHANGED_CQM`, in the unit of the
indications: RSSI when `cqm_use_rssi`, else RCPI; a dummy subscription to both directions
when neither threshold nor hysteresis is set. Each threshold is computed in C integer
arithmetic (`s32 cqm_rssi_thold`, `u32 cqm_rssi_hyst`) and stored into its `u8` field,
which keeps the low byte whatever the width of the arithmetic. -/
def cqmThreshold (useRssi : Bool) (thold : Int) (hyst : Nat) : RcpiRssiThreshold :=
  if thold ≠ 0 ∨ hyst ≠ 0 then
    if useRssi then ⟨true, true, false, false, lowByte thold, lowByte (thold + hyst), 8⟩
    else ⟨true, false, false, false, lowByte ((thold + 110) * 2),
      lowByte ((thold + hyst + 110) * 2), 8⟩
  else ⟨true, useRssi, true, true, 0, 0, 8⟩

namespace BssLoss

/-- `wfx_event_handler_work` on the indications it spliced off `wvif->event_queue`. -/
def wfxEventHandlerWork (s : BssLoss) : List WsmEventInd → BssLoss
  | [] => s
  | .bssLost scanBusy txLocked skbOk :: inds =>
    -- Scan is in progress: delay reporting, and start a watchdog.
    let s := if scanBusy then { s with delayedLinkLoss := true, bssLossWork := true }
      else s.wfxCqmBsslossSm true false false txLocked skbOk
    s.wfxEventHandlerWork inds
  | .bssRegained :: inds => (s.wfxCqmBsslossSm false false false false false).wfxEventHandlerWork inds
  | .rcpiRssi b :: inds =>
    let rssi := rcpiRssiOf s.cqmUseRssi b
    wfxEventHandlerWork
      { s with reports := s.reports ++ [.cqmRssi (cqmEvent rssi s.cqmRssiThold) rssi] } inds
  | .psModeError :: inds => wfxEventHandlerWork { s with reports := s.reports ++ [.psModeError] } inds
  | .other e :: inds => wfxEventHandlerWork { s with reports := s.reports ++ [.unhandled e] } inds

end BssLoss

/-- What can happen to the link monitor: a call of `wfx_cqm_bssloss_sm` from outside the
event handler (`wfx_do_unjoin`, `wfx_remove_interface` and `wfx_bss_info_changed` pass
`(0, 0, 0)`; the confirmation of a null frame and the end of a scan, outside this tree, pass
`good`, `bad` or `init`); `wfx_event_handler_work` on the indications queued; `wfx_do_unjoin`
while `scan.in_progress` is set; `wfx_bss_loss_work` or `wfx_bss_params_work` runs; or
`wfx_bss_info_changed` with `BSS_CHANGED_CQM`. -/
inductive BssLossEvent
  | sm (init good bad txLocked skbOk : Bool)
  | eventHandler (inds : List WsmEventInd)
  | unjoinDuringScan
  | bssLossWorkRuns
  | bssParamsWorkRuns
  | cqmChanged (thold : Int) (hyst : Nat)

namespace BssLoss

def step (s : BssLoss) : BssLossEvent → BssLoss
  | .sm init good bad txLocked skbOk => s.wfxCqmBsslossSm init good bad txLocked skbOk
  | .eventHandler inds => s.wfxEventHandlerWork inds
  | .unjoinDuringScan => { s with delayedUnjoin := true }
  | .bssLossWorkRuns => { s with bssLossWork := false, reports := s.reports ++ [.connectionLoss] }
  | .bssParamsWorkRuns => { s with bssParamsWork := false }
  | .cqmChanged thold hyst =>
    { s with cqmRssiThold := thold,
             reports := s.reports ++ [.threshold (cqmThreshold s.cqmUseRssi thold hyst)] }

def run : BssLoss → List BssLossEvent → BssLoss := List.foldl step

variable {s : BssLoss} {init good bad txLocked skbOk : Bool}

theorem wfxCqmBsslossSm_bssLossState :
    (s.wfxCqmBsslossSm init good bad txLocked skbOk).bssLossState =
      if s.delayedUnjoin then s.bssLossState
      else if init then (if txLocked then 0 else 1)
      else if good then 0
      else if bad then (if s.bssLossState < 3 then s.bssLossState + 1 else s.bssLossState)
      else 0 := by
  unfold wfxCqmBsslossSm
  by_cases hu : s.delayedUnjoin <;> simp only [hu, if_true, if_false, Bool.false_eq_true]
  cases init <;> cases good <;> cases bad <;> cases txLocked <;> cases skbOk <;>
    by_cases h3 : s.bssLossState < 3 <;> simp [h3]

theorem wfxCqmBsslossSm_probes :
    (s.wfxCqmBsslossSm init good bad txLocked skbOk).probes =
      s.probes + if !s.delayedUnjoin && skbOk &&
        (if init then !txLocked else !good && bad && decide (s.bssLossState < 3)) then 1 else 0 := by
  unfold wfxCqmBsslossSm
  by_cases hu : s.delayedUnjoin <;> simp only [hu, if_true, if_false, Bool.false_eq_true]
  · simp
  cases init <;> cases good <;> cases bad <;> cases txLocked <;> cases skbOk <;>
    by_cases h3 : s.bssLossState < 3 <;> simp [h3]

@[simp] theorem wfxCqmBsslossSm_delayedUnjoin :
    (s.wfxCqmBsslossSm init good bad txLocked skbOk).delayedUnjoin = s.delayedUnjoin := by
  cases init <;> cases good <;> cases bad <;> cases skbOk <;>
    simp only [wfxCqmBsslossSm, Bool.false_eq_true, if_false, if_true] <;> split_ifs <;> rfl

theorem wfxCqmBsslossSm_state_le (h : s.bssLossState ≤ 3) :
    (s.wfxCqmBsslossSm init good bad txLocked skbOk).bssLossState ≤ 3 := by
  rw [wfxCqmBsslossSm_bssLossState]; split_ifs <;> omega

theorem wfxEventHandlerWork_state_le {inds : List WsmEventInd} (h : s.bssLossState ≤ 3) :
    (s.wfxEventHandlerWork inds).bssLossState ≤ 3 := by
  induction inds generalizing s with
  | nil => exact h
  | cons ind inds ih =>
    cases ind with
    | bssLost scanBusy _ _ =>
      simp only [wfxEventHandlerWork]
      exact ih (by split_ifs <;> first | exact h | exact wfxCqmBsslossSm_state_le h)
    | bssRegained => exact ih (wfxCqmBsslossSm_state_le h)
    | rcpiRssi => exact ih h
    | psModeError => exact ih h
    | other => exact ih h

/-- One `bad` confirmation: the null frames sent plus those still allowed (`3 - state`) do
not grow, and the state moves up by one towards 3 unless an unjoin is pending. -/
theorem bad_step (h : s.bssLossState ≤ 3) :
    (s.wfxCqmBsslossSm false false true txLocked skbOk).probes +
        (3 - (s.wfxCqmBsslossSm false false true txLocked skbOk).bssLossState) ≤
      s.probes + (3 - s.bssLossState) ∧
    (s.wfxCqmBsslossSm false false true txLocked skbOk).bssLossState =
      if s.delayedUnjoin then s.bssLossState else min (s.bssLossState + 1) 3 := by
  rw [wfxCqmBsslossSm_bssLossState, wfxCqmBsslossSm_probes]
  by_cases hu : s.delayedUnjoin <;> by_cases h3 : s.bssLossState < 3 <;> cases skbOk <;>
    simp [hu, h3] <;> omega

theorem step_state_le (e : BssLossEvent) (h : s.bssLossState ≤ 3) : (s.step e).bssLossState ≤ 3 := by
  cases e with
  | sm => exact wfxCqmBsslossSm_state_le h
  | eventHandler => exact wfxEventHandlerWork_state_le h
  | _ => exact h

end BssLoss

/-- In every run of the link monitor from a state with `bss_loss_state ≤ 3`, such as a new
interface's, `bss_loss_state` stays at most 3: whatever the order of indications, scans,
unjoins, works and confirmations, the counter never passes the bound of the `bad` branch. -/
theorem bssLoss_run_state_le (s : BssLoss) (es : List BssLossEvent) (h : s.bssLossState ≤ 3) :
    (s.run es).bssLossState ≤ 3 := by
  induction es generalizing s with
  | nil => exact h
  | cons e es ih => exact ih _ (BssLoss.step_state_le e h)

def lossyLink : List BssLossEvent :=
  [.eventHandler [.bssLost false false true], .sm false false true false true,
    .sm false false true false true, .sm false false true false true]

theorem bssLoss_run_state_le_lossyLink :
    (BssLoss.init false).bssLossState ≤ 3 ∧ ((BssLoss.init false).run lossyLink).bssLossState ≤ 3 :=
  ⟨by decide, bssLoss_run_state_le _ lossyLink (by decide)⟩

/-- A run of `bad` confirmations (`wfx_cqm_bssloss_sm(wvif, 0, 0, 1)`), each with its own
`tx_lock` and allocation outcome, from a state with `bss_loss_state ≤ 3`: it sends at most
`3 - bss_loss_state` null frames however long it is, and leaves `bss_loss_state` at
`min (state + n) 3`, or untouched while an unjoin is pending. -/
theorem bad_confirmations_send_at_most (s : BssLoss) (cs : List (Bool × Bool))
    (h : s.bssLossState ≤ 3) :
    (cs.foldl (fun s c => s.wfxCqmBsslossSm false false true c.1 c.2) s).probes ≤
        s.probes + (3 - s.bssLossState) ∧
      (cs.foldl (fun s c => s.wfxCqmBsslossSm false false true c.1 c.2) s).bssLossState =
        if s.delayedUnjoin then s.bssLossState else min (s.bssLossState + cs.length) 3 := by
  induction cs generalizing s with
  | nil =>
    simp only [List.foldl_nil, List.length_nil, Nat.add_zero, Nat.min_eq_left h, ite_self]
    exact ⟨Nat.le_add_right _ _, trivial⟩
  | cons c cs ih =>
    obtain ⟨b1, b2⟩ := @BssLoss.bad_step s c.1 c.2 h
    obtain ⟨i1, i2⟩ := ih _ (by rw [b2]; split_ifs <;> omega)
    simp only [List.foldl_cons, List.length_cons, BssLoss.wfxCqmBsslossSm_delayedUnjoin, b2] at i1 i2 ⊢
    refine ⟨by omega, ?_⟩
    rw [i2]; split_ifs <;> omega

theorem bad_confirmations_from_two :
    (BssLoss.mk false false 2 true false false 0 0 []).bssLossState ≤ 3 ∧
      ([(false, true), (false, true), (false, true)].foldl
          (fun s c => s.wfxCqmBsslossSm false false true c.1 c.2)
          (BssLoss.mk false false 2 true false false 0 0 [])).probes ≤
        (BssLoss.mk false false 2 true false false 0 0 []).probes +
          (3 - (BssLoss.mk false false 2 true false false 0 0 []).bssLossState) ∧
      ([(false, true), (false, true), (false, true)].foldl
          (fun s c => s.wfxCqmBsslossSm false false true c.1 c.2)
          (BssLoss.mk false false 2 true false false 0 0 [])).bssLossState =
        if (BssLoss.mk false false 2 true false false 0 0 []).delayedUnjoin then
          (BssLoss.mk false false 2 true false false 0 0 []).bssLossState
        else min ((BssLoss.mk false false 2 true false false 0 0 []).bssLossState + 3) 3 :=
  ⟨by decide, bad_confirmations_send_at_most _ _ (by decide)⟩

end WfxDriver
