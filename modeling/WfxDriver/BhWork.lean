import WfxDriver.ReceivePump

/-!
# The rest of `bh_work`: the wake-up line, the statistics and the release of the chip

`bh_work` raises the wake-up line (`device_wakeup`), runs its `do ... while` loop of
`bh_work_tx(wdev, 32)` and `bh_work_rx(wdev, 32, &stats_cnf)`, remembers in
`last_op_is_rx` whether the last of them that did anything was a read, acknowledges that
read with `ack_sdio_data`, and lowers the line again (`device_release`) only when no input
buffer of the chip is in use, the work is not queued again and no scan runs.
-/

namespace WfxDriver

/-- `device_wakeup`: the wake-up line, `none` without `pdata.gpio_wakeup`. A low line is
raised; the wait on `ctrl_ready` gives back the completion it takes, so nothing else
changes. -/
def deviceWakeup : Option Bool → Option Bool
  | none => none
  | some true => some true
  | some false => some true

def deviceRelease : Option Bool → Option Bool
  | none => none
  | some _ => some false

/-- The confirmations among frames: those without `WMSG_ID_IS_INDICATION`, each of which
bumps `*is_cnf` when `rx_helper` dispatches it. -/
def cnfCount (api : Api) (ws : List Wmsg) : Nat := ws.countP fun w => !w.isIndication api

def RxPass.frame : RxPass → Option Wmsg
  | .stop _ _ => none
  | .next _ w _ _ => w

/-- One round of the loop on `last_op_is_rx`: `if (num_tx) last_op_is_rx = false;`, then
`if (num_rx) last_op_is_rx = true;`. -/
def lastOpStep (last : Bool) (round : TxBatch × RxLoopOut) : Bool :=
  let last := if round.1.count ≠ 0 then false else last
  if round.2.count ≠ 0 then true else last

/-- What `bh_work` leaves: the loop's run, its three counters, `last_op_is_rx` (on which
`ack_sdio_data` runs), `release_chip` and the wake-up line. -/
structure BhWorkOut where
  run : BhRun
  statsReq : Nat
  statsInd : Int
  statsCnf : Nat
  lastOpIsRx : Bool
  releaseChip : Bool
  wakeup : Option Bool

/-- `bh_work`, with at most `fuel` rounds of its loop (`none` if it needs more). `gpio` is
the wake-up line; `workPending` and `scanInProgress` are what `work_pending(work)` and
`atomic_read(&wdev->scan_in_progress)` read at the end of the run. -/
def bhWork (api : Api) (fuel : Nat) (gpio : Option Bool) (workPending scanInProgress : Bool)
    (st : RxPump) (q : List TxInput) : Option BhWorkOut :=
  let gpio := deviceWakeup gpio
  (bhWorkLoop api fuel { st with numCnf := 0 } q).map fun run =>
    let statsCnf := run.st.numCnf
    let releaseChip := run.st.hif.txBuffersUsed == 0 && !workPending && !scanInProgress
    ⟨run, (run.tx.map TxBatch.count).sum, ((run.rx.map RxLoopOut.count).sum : Int) - statsCnf,
      statsCnf, (run.tx.zip run.rx).foldl lastOpStep false, releaseChip,
      if releaseChip then deviceRelease gpio else gpio⟩

section Counting

variable {api : Api}

theorem cnfCount_add_countP (ws : List Wmsg) :
    cnfCount api ws + ws.countP (Wmsg.isIndication api) = ws.length := by
  induction ws with
  | nil => rfl
  | cons w ws ih =>
    simp only [cnfCount, List.countP_cons, List.length_cons] at ih ⊢
    cases w.isIndication api <;> simp <;> omega

/-- `rx_helper` bumps `*is_cnf` once for a confirmation it dispatches, and never otherwise. -/
theorem rxHelper_isCnf (hif : Hif) (readLen isCnf : Nat) (inp : RxInput) :
    (rxHelper api hif readLen isCnf inp).isCnf =
      isCnf + cnfCount api (rxAccepted api readLen inp).toList := by
  cases h : rxAccepted api readLen inp with
  | none => simp [(rxHelper_of_rxAccepted_none h).2.2.1, cnfCount]
  | some w =>
    have e : (rxHelper api hif readLen isCnf inp).isCnf = (acceptFrame api hif isCnf w).2 :=
      congrArg Prod.snd (rxHelper_of_rxAccepted_some h).2.1
    rw [e, acceptFrame, releaseBuffers]
    cases hw : w.isIndication api <;> simp [cnfCount, hw]

theorem rxPass_numCnf (p : Nat) (st : RxPump) :
    (rxPass api p st).st.numCnf = st.numCnf + cnfCount api (rxPass api p st).frame.toList := by
  rw [rxPass_eq]
  simp only
  split_ifs
  · simp [RxPass.st, RxPass.frame, cnfCount]
  · split <;> simp_all [RxPass.st, RxPass.frame, rxHelper_isCnf]

theorem rxPass_stop_hif {p : Nat} {st st' : RxPump} {a : Option Nat}
    (h : rxPass api p st = .stop a st') : st'.hif = st.hif := by
  rw [rxPass_eq] at h
  simp only at h
  split_ifs at h
  · cases h; rfl
  · split at h
    · cases h
    · next hacc => cases h; exact (rxHelper_of_rxAccepted_none hacc).2.1

theorem rxLoop_numCnf (k p : Nat) (st : RxPump) :
    (rxLoop api k p st).st.numCnf = st.numCnf + cnfCount api (rxLoop api k p st).accepted := by
  induction k generalizing p st with
  | zero => simp [rxLoop, cnfCount]
  | succ k ih =>
    have h : (rxPass api p st).st.numCnf =
        st.numCnf + cnfCount api (rxPass api p st).frame.toList := rxPass_numCnf p st
    rw [rxLoop_succ]
    rcases hp : rxPass api p st with ⟨a, s⟩ | ⟨l, w, p', s⟩ <;>
      simp only [hp, RxPass.st, RxPass.frame] at h
    · simpa [cnfCount] using h
    · simp only [ih, h, cnfCount, List.countP_append]; omega

theorem rxLoop_hif_of_count {k p : Nat} {st : RxPump} (h : (rxLoop api k p st).count = 0) :
    (rxLoop api k p st).st.hif = st.hif := by
  cases k with
  | zero => rfl
  | succ k =>
    rw [rxLoop_succ] at h ⊢
    rcases hp : rxPass api p st with ⟨a, s⟩ | ⟨l, w, p', s⟩ <;> simp only [hp] at h ⊢
    · exact rxPass_stop_hif hp
    · omega

@[simp] theorem bhWorkRx_numCnf (k : Nat) (st : RxPump) :
    (bhWorkRx api k st).st.numCnf = (rxLoop api k 0 st).st.numCnf := by
  rcases h : (rxLoop api k 0 st).bound with _ | p
  · rw [bhWorkRx_of_bound_none h]
  · rw [bhWorkRx_of_bound_some h]

@[simp] theorem bhWorkRx_hif (k : Nat) (st : RxPump) :
    (bhWorkRx api k st).st.hif = (rxLoop api k 0 st).st.hif := by
  rcases h : (rxLoop api k 0 st).bound with _ | p
  · rw [bhWorkRx_of_bound_none h]
  · rw [bhWorkRx_of_bound_some h]

/-- A `bh_work_tx` call that sends nothing found the queue empty or the gate closed, and
changed nothing. -/
theorem bhWorkTx_of_count {m : Nat} {hif : Hif} {q : List TxInput}
    (h : (bhWorkTx api (m + 1) hif q).count = 0) :
    (bhWorkTx api (m + 1) hif q).queue = q ∧ (bhWorkTx api (m + 1) hif q).hif = hif ∧
      (q = [] ∨ api.numInpChBufs.toNat ≤ hif.txBuffersUsed) := by
  by_cases hg : hif.txBuffersUsed < api.numInpChBufs.toNat
  · cases q with
    | nil => simp [bhWorkTx, hg]
    | cons inp q => simp [bhWorkTx, hg] at h
  · simp only [bhWorkTx, hg, if_false, true_and]; omega

/-- One round of the loop: its `bh_work_tx` takes `count` messages off the queue; its
`bh_work_rx` returns the number of frames it dispatched, bumps `stats_cnf` once per
confirmation among them, and consumes at least as many of the chip's answers. -/
theorem bhWork_round (st : RxPump) (q : List TxInput) :
    let t := bhWorkTx api 32 st.hif q
    let r := bhWorkRx api 32 { st with hif := t.hif }
    t.count + t.queue.length = q.length ∧ r.count = r.accepted.length ∧
      r.st.numCnf = st.numCnf + cnfCount api r.accepted ∧
      r.st.ctl.frames.length + r.count ≤ st.ctl.frames.length := by
  obtain ⟨-, c2, c3, -⟩ := @rxLoop_count api 32 0 { st with hif := (bhWorkTx api 32 st.hif q).hif }
  have hq := bhWorkTx_queue_length api 32 st.hif q
  simp only [bhWorkRx_count, bhWorkRx_accepted, bhWorkRx_numCnf, bhWorkRx_frames, rxLoop_numCnf]
  exact ⟨by omega, c2, trivial, c3⟩

/-- The loop of `bh_work` ends within one round more than there are queued messages and
chip answers, from any control state: every round but the last sends or reads. -/
theorem bhWorkLoop_isSome {fuel : Nat} {st : RxPump} {q : List TxInput}
    (hf : q.length + st.ctl.frames.length < fuel) : (bhWorkLoop api fuel st q).isSome := by
  induction fuel generalizing st q with
  | zero => omega
  | succ fuel ih =>
    obtain ⟨h1, -, -, h4⟩ := @bhWork_round api st q
    simp only [bhWorkLoop]
    split_ifs with hg
    · rw [Option.isSome_map']; exact ih (by omega)
    · rfl

/-- What a run's counters add up to: the messages sent and the queue left make the queue,
each round's return value is its number of frames, and `stats_cnf` grows by the
confirmations among them. -/
theorem bhWorkLoop_counts {fuel : Nat} {st : RxPump} {q : List TxInput} {run : BhRun}
    (h : bhWorkLoop api fuel st q = some run) :
    (run.tx.map TxBatch.count).sum + run.queue.length = q.length ∧
      (run.rx.map RxLoopOut.count).sum = (run.rx.map RxLoopOut.accepted).flatten.length ∧
      run.st.numCnf = st.numCnf + cnfCount api (run.rx.map RxLoopOut.accepted).flatten := by
  induction fuel generalizing st q run with
  | zero => cases h
  | succ fuel ih =>
    obtain ⟨h1, h2, h3, -⟩ := @bhWork_round api st q
    simp only [bhWorkLoop] at h
    split_ifs at h
    · obtain ⟨rest, hrest, rfl⟩ := Option.map_eq_some'.mp h
      obtain ⟨i1, i2, i3⟩ := ih hrest
      simp only [List.map_cons, List.sum_cons, List.flatten_cons, List.length_append, cnfCount,
        List.countP_append] at i3 h3 ⊢
      exact ⟨by omega, by omega, by omega⟩
    · cases h
      simp only [List.map_cons, List.map_nil, List.sum_cons, List.sum_nil, List.flatten_cons,
        List.flatten_nil, List.append_nil, add_zero]
      exact ⟨by omega, h2, h3⟩

/-- The loop stops only after a round that neither sent nor read: the queue is then empty
or every input buffer of the chip is in use. -/
theorem bhWorkLoop_exit {fuel : Nat} {st : RxPump} {q : List TxInput} {run : BhRun}
    (h : bhWorkLoop api fuel st q = some run) :
    run.queue = [] ∨ api.numInpChBufs.toNat ≤ run.st.hif.txBuffersUsed := by
  induction fuel generalizing st q run with
  | zero => cases h
  | succ fuel ih =>
    simp only [bhWorkLoop] at h
    split_ifs at h with hg
    · obtain ⟨rest, hrest, rfl⟩ := Option.map_eq_some'.mp h
      exact (ih hrest :)
    · cases h
      simp only [not_or, not_not] at hg
      obtain ⟨hq, hh, hd⟩ := bhWorkTx_of_count hg.2
      have hr : (rxLoop api 32 0 { st with hif := (bhWorkTx api 32 st.hif q).hif }).count = 0 := by
        rw [← bhWorkRx_count]; exact hg.1
      simp only [bhWorkRx_hif]
      rw [rxLoop_hif_of_count hr, hh, hq]
      exact hd

end Counting

/-- The statistics of `bh_work`: with more rounds than queued messages and chip answers,
the run ends, `stats_req` counts the messages taken off the queue, `stats_cnf` the
confirmations dispatched, and `stats_ind` (after `stats_ind -= stats_cnf`) the indications
dispatched, so it is never negative. -/
theorem bhWork_stats (api : Api) (fuel : Nat) (gpio : Option Bool)
    (workPending scanInProgress : Bool) (st : RxPump) (q : List TxInput)
    (hf : q.length + st.ctl.frames.length < fuel) :
    ∃ out, bhWork api fuel gpio workPending scanInProgress st q = some out ∧
      out.statsReq + out.run.queue.length = q.length ∧
      out.statsCnf = cnfCount api (out.run.rx.map RxLoopOut.accepted).flatten ∧
      out.statsInd =
        ((out.run.rx.map RxLoopOut.accepted).flatten.countP (Wmsg.isIndication api) : Int) := by
  obtain ⟨run, hrun⟩ := Option.isSome_iff_exists.mp
    (@bhWorkLoop_isSome api fuel { st with numCnf := 0 } q hf)
  obtain ⟨c1, c2, c3⟩ := bhWorkLoop_counts hrun
  have hc := @cnfCount_add_countP api (run.rx.map RxLoopOut.accepted).flatten
  simp only [bhWork, hrun, Option.map_some', Option.some.injEq, exists_eq_left']
  refine ⟨c1, by simpa using c3, ?_⟩
  simp only [c2, c3, Nat.zero_add]
  omega

theorem bhWork_stats_one_message :
    ∃ out, bhWork Api.sample 35 none false false chainPump [sentInput] = some out ∧
      out.statsReq + out.run.queue.length = [sentInput].length ∧
      out.statsCnf = cnfCount Api.sample (out.run.rx.map RxLoopOut.accepted).flatten ∧
      out.statsInd = ((out.run.rx.map RxLoopOut.accepted).flatten.countP
        (Wmsg.isIndication Api.sample) : Int) :=
  bhWork_stats Api.sample 35 none false false chainPump [sentInput] (by decide)

/-- `bh_work` with more rounds than queued messages and chip answers ends with the
transmit queue empty or every input buffer of the chip in use. So when it lowers the
wake-up line (`release_chip`, which needs `tx_buffers_used == 0`), nothing is left to send,
provided the chip has an input buffer at all. -/
theorem bhWork_exit (api : Api) (fuel : Nat) (gpio : Option Bool)
    (workPending scanInProgress : Bool) (st : RxPump) (q : List TxInput)
    (hf : q.length + st.ctl.frames.length < fuel) (hn : 0 < api.numInpChBufs.toNat) :
    ∃ out, bhWork api fuel gpio workPending scanInProgress st q = some out ∧
      (out.run.queue = [] ∨ api.numInpChBufs.toNat ≤ out.run.st.hif.txBuffersUsed) ∧
      (out.releaseChip = true → out.run.queue = [] ∧ out.wakeup = deviceRelease gpio) := by
  obtain ⟨run, hrun⟩ := Option.isSome_iff_exists.mp
    (@bhWorkLoop_isSome api fuel { st with numCnf := 0 } q hf)
  have he := bhWorkLoop_exit hrun
  simp only [bhWork, hrun, Option.map_some', Option.some.injEq, exists_eq_left']
  refine ⟨he, fun hr => ?_⟩
  simp only [Bool.and_eq_true, beq_iff_eq, Bool.not_eq_true'] at hr
  refine ⟨he.resolve_right (by omega), ?_⟩
  simp only [hr, and_self, Bool.not_false, beq_self_eq_true, Bool.and_self, if_true]
  rcases gpio with _ | _ | _ <;> rfl

theorem bhWork_exit_one_message :
    ∃ out, bhWork Api.sample 35 (some false) false false chainPump [sentInput] = some out ∧
      (out.run.queue = [] ∨ Api.sample.numInpChBufs.toNat ≤ out.run.st.hif.txBuffersUsed) ∧
      (out.releaseChip = true → out.run.queue = [] ∧ out.wakeup = deviceRelease (some false)) :=
  bhWork_exit Api.sample 35 (some false) false false chainPump [sentInput] (by decide) (by decide)

end WfxDriver
