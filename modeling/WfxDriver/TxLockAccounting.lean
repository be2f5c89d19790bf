import WfxDriver.StaWork

/-!
# The tx-lock obligations of sta.c

Every `wsm_tx_lock` or `wsm_tx_lock_flush` creates an obligation, discharged by one
`wsm_tx_unlock`; a queued `unjoin_work` or `link_id_work` carries the obligation of the
thread that queued it. Each procedure of sta.c discharges exactly the obligations it is
called with, on every path, and never unlocks without one (`Callback.body_discharges`,
`workBody_discharges`). So in every run `tx_lock` is the number of outstanding
obligations plus those that `cancel_work_sync` dropped with a queued work, and once
nothing is in flight it is just the dropped ones (`txInv_run`, `txLock_of_quiescent`,
`txLock_at_rest`).

It is not zero: `wfx_remove_interface` on an associated interface queues `unjoin_work`
with the obligation of its `wsm_tx_lock_flush` and then cancels it, so the lock stays
taken for good (`remove_interface_leaks_tx_lock`).
-/

namespace WfxDriver

/-! ## What a procedure discharges -/

/-- The code discharges exactly `n` obligations on every path, and never unlocks without
one. -/
def Prog.discharges : Prog → Nat → Bool
  | .done, n => n == 0
  | .step .txLock k, n => k.discharges (n + 1)
  | .step .txUnlock k, n => n != 0 && k.discharges (n - 1)
  | .step _ k, n => k.discharges n
  | .branch _ t e, n => t.discharges n && e.discharges n
  | .schedule w q p, n =>
    (if w.carriesTxLock then n != 0 && q.discharges (n - 1) else q.discharges n) && p.discharges n

section Discharges

variable {k q p : Prog} {n : Nat}

@[simp] theorem discharges_done : Prog.done.discharges n = (n == 0) := rfl
@[simp] theorem discharges_txLock : (Prog.step .txLock k).discharges n = k.discharges (n + 1) := rfl
@[simp] theorem discharges_txUnlock :
    (Prog.step .txUnlock k).discharges n = (n != 0 && k.discharges (n - 1)) := rfl
@[simp] theorem discharges_lock (m : Mutex) : (Prog.step (.lock m) k).discharges n = k.discharges n := rfl
@[simp] theorem discharges_unlock (m : Mutex) :
    (Prog.step (.unlock m) k).discharges n = k.discharges n := rfl
@[simp] theorem discharges_grab (w : Work) : (Prog.step (.grab w) k).discharges n = k.discharges n := rfl
@[simp] theorem discharges_cancelWait (w : Work) :
    (Prog.step (.cancelWait w) k).discharges n = k.discharges n := rfl
@[simp] theorem discharges_flushWait (w : Work) :
    (Prog.step (.flushWait w) k).discharges n = k.discharges n := rfl
@[simp] theorem discharges_setState (v : VifState) :
    (Prog.step (.setState v) k).discharges n = k.discharges n := rfl
@[simp] theorem discharges_branch (c : Cond) (t e : Prog) :
    (Prog.branch c t e).discharges n = (t.discharges n && e.discharges n) := rfl

theorem discharges_ite (b : Prop) [Decidable b] :
    (if b then q else p).discharges n = if b then q.discharges n else p.discharges n := by
  split_ifs <;> rfl

@[simp] theorem cancelWorkSync_discharges (w : Work) :
    (cancelWorkSync w k).discharges n = k.discharges n := rfl

@[simp] theorem scheduleOrUnlock_discharges :
    (scheduleOrUnlock .unjoin k).discharges (n + 1) = k.discharges n := by
  simp [scheduleOrUnlock, Prog.discharges, Work.carriesTxLock]

@[simp] theorem scheduleOrUnlock_linkId_discharges :
    (scheduleOrUnlock .linkId k).discharges (n + 1) = k.discharges n := by
  simp [scheduleOrUnlock, Prog.discharges, Work.carriesTxLock]

@[simp] theorem scheduleWork_discharges {w : Work} (hw : w.carriesTxLock = false) :
    (scheduleWork w k).discharges n = k.discharges n := by
  simp [scheduleWork, Prog.discharges, hw]

@[simp] theorem wfxCqmBsslossSm_discharges (init good : Bool) :
    (wfxCqmBsslossSm init good k).discharges n = k.discharges n := by
  cases init <;> cases good <;> simp [wfxCqmBsslossSm, Work.carriesTxLock]

@[simp] theorem wfxDoUnjoin_discharges : (wfxDoUnjoin k).discharges n = k.discharges n := by
  simp [wfxDoUnjoin]

@[simp] theorem wfxUpdateBeaconing_discharges :
    (wfxUpdateBeaconing k).discharges n = k.discharges n := by
  simp [wfxUpdateBeaconing]

/-- `wfx_do_join` discharges the obligation it is called with. -/
@[simp] theorem wfxDoJoin_discharges : (wfxDoJoin k).discharges (n + 1) = k.discharges n := by
  simp [wfxDoJoin]

@[simp] theorem wfxBssInfoChanged_discharges (c : BssChange) :
    (wfxBssInfoChanged c k).discharges n = k.discharges n := by
  simp [wfxBssInfoChanged, discharges_ite, Work.carriesTxLock]

@[simp] theorem wfxSetTimImpl_discharges : (wfxSetTimImpl k).discharges n = k.discharges n := by
  simp [wfxSetTimImpl, wfxFlushInner]

theorem wfxEventHandlerWork_discharges (es : List WsmEvent) :
    (wfxEventHandlerWork es).discharges n = (n == 0) := by
  induction es with
  | nil => rfl
  | cons e es ih => cases e <;> simp [wfxEventHandlerWork, ih]

end Discharges

/-- Every callback is entered without obligations and discharges all it creates. -/
theorem Callback.body_discharges (c : Callback) : c.body.discharges 0 = true := by
  cases c with
  | flush drop => cases drop <;> rfl
  | _ => simp [Callback.body, wfxRemoveInterface, wfxStaRemove, wfxStop, wfxStaNotify,
      Work.carriesTxLock]

/-- A work handler discharges the obligation its work carries, if any. -/
theorem workBody_discharges (w : Work) (es : List WsmEvent) :
    (workBody w es).discharges (if w.carriesTxLock then 1 else 0) = true := by
  cases w with
  | eventHandler => simp [workBody, Work.carriesTxLock, wfxEventHandlerWork_discharges]
  | _ => simp [workBody, Work.carriesTxLock, wfxUnjoinWork, wfxBssParamsWork, wfxLinkIdWork,
      wfxMulticastStartWork, wfxMulticastStopWork, wfxSetCtsWork]

/-! ## The accounting invariant -/

/-- The obligations outstanding: those the threads hold and those queued works carry. -/
def Sys.obligations (s : Sys) : Nat :=
  (s.threads.map Thread.held).sum + (Work.all.map s.carried).sum

/-- Nothing in flight: every thread has returned, no work is pending, no mutex is held. -/
def Sys.quiescent (s : Sys) : Bool :=
  s.threads.all (fun th => th.prog == .done) && Work.all.all (fun w => s.status w == .idle) &&
    s.owner .conf == none && s.owner .bssLoss == none

/-- The invariant of the tx-lock accounting. -/
structure TxInv (s : Sys) : Prop where
  threads : ∀ th ∈ s.threads, th.prog.discharges th.held = true
  queued : ∀ w, s.status w = .queued → s.carried w = if w.carriesTxLock then 1 else 0
  idle : ∀ w, s.status w ≠ .queued → s.carried w = 0
  count : s.txLock = s.obligations + s.lost
  backed : s.unbacked = 0

theorem txInv_idleIn (v : VifState) : TxInv (Sys.idleIn v) :=
  ⟨by simp [Sys.idleIn], by simp [Sys.idleIn], by simp [Sys.idleIn],
    by simp [Sys.idleIn, Sys.obligations, Work.all], rfl⟩

theorem sum_held_set {l : List Thread} {t : Nat} {th : Thread} (th' : Thread)
    (ht : l[t]? = some th) :
    ((l.set t th').map Thread.held).sum + th.held = (l.map Thread.held).sum + th'.held := by
  induction l generalizing t with
  | nil => simp at ht
  | cons x l ih =>
    cases t with
    | zero => simp only [List.getElem?_cons_zero, Option.some.injEq] at ht; subst ht; simp; omega
    | succ t =>
      simp only [List.getElem?_cons_succ] at ht
      have := ih ht
      simp only [List.set_cons_succ, List.map_cons, List.sum_cons]
      omega

theorem sum_carried_update (f : Work → Nat) (w : Work) (v : Nat) :
    (Work.all.map (Function.update f w v)).sum + f w = (Work.all.map f).sum + v := by
  simp only [Work.all, List.map_cons, List.map_nil, List.sum_cons, List.sum_nil,
    Function.update_apply]
  cases w <;> simp only [reduceCtorEq, if_true, if_false] <;> omega

section Step

variable {s s' : Sys} {t : Nat} {th th' : Thread}

theorem obligations_setThread (th' : Thread) (ht : s.threads[t]? = some th) :
    (s.setThread t th').obligations + th.held = s.obligations + th'.held := by
  have := sum_held_set th' ht
  simp only [Sys.obligations, Sys.setThread_threads, Sys.setThread_carried]
  omega

theorem discharges_setThread (h : TxInv s) (hd : th'.prog.discharges th'.held = true) :
    ∀ x ∈ (s.setThread t th').threads, x.prog.discharges x.held = true := by
  intro x hx
  rcases List.mem_or_eq_of_mem_set hx with hx | rfl
  · exact h.threads x hx
  · exact hd

theorem TxInv.setProg (h : TxInv s) (ht : s.threads[t]? = some th) (k : Prog)
    (hd : k.discharges th.held = true) : TxInv (s.setThread t { th with prog := k }) := by
  have e := obligations_setThread { th with prog := k } ht
  have : (s.setThread t { th with prog := k }).obligations = s.obligations := Nat.add_right_cancel e
  refine ⟨discharges_setThread h hd, h.queued, h.idle, ?_, h.backed⟩
  rw [Sys.setThread_txLock, Sys.setThread_lost, h.count, this]

theorem TxInv.update (h : TxInv s) (w : Work) (st : WorkStatus) (c : Nat)
    (hq : st = .queued → c = if w.carriesTxLock then 1 else 0) (hi : st ≠ .queued → c = 0) (x : Work) :
    (Function.update s.status w st x = .queued →
        Function.update s.carried w c x = if x.carriesTxLock then 1 else 0) ∧
      (Function.update s.status w st x ≠ .queued → Function.update s.carried w c x = 0) := by
  by_cases hxw : x = w
  · subst hxw; simp only [Function.update_same]; exact ⟨hq, hi⟩
  · simp only [Function.update_noteq hxw]; exact ⟨h.queued x, h.idle x⟩

theorem TxInv.withOwner (h : TxInv s) (o : Mutex → Option Nat) : TxInv { s with owner := o } :=
  ⟨h.threads, h.queued, h.idle, h.count, h.backed⟩

theorem TxInv.withStatus (h : TxInv s) (w : Work) (st : WorkStatus)
    (hq : st = .queued → s.carried w = if w.carriesTxLock then 1 else 0)
    (hi : st ≠ .queued → s.carried w = 0) :
    TxInv { s with status := Function.update s.status w st } := by
  have hw := h.update w st (s.carried w) hq hi
  simp only [Function.update_eq_self] at hw
  exact ⟨h.threads, fun x => (hw x).1, fun x => (hw x).2, h.count, h.backed⟩

theorem TxInv.execInstr (h : TxInv s) (ht : s.threads[t]? = some th) {i : Instr} {k : Prog}
    (hd : (Prog.step i k).discharges th.held = true) (hs : s.execInstr t th i k = some s') :
    TxInv s' := by
  cases i with
  | txLock =>
    cases hs
    have := obligations_setThread { th with prog := k, held := th.held + 1 } ht
    dsimp only at this
    refine ⟨discharges_setThread h hd, h.queued, h.idle, ?_, h.backed⟩
    show s.txLock + 1 =
      ((s.setThread t { th with prog := k, held := th.held + 1 }).obligations : Int) + s.lost
    rw [h.count]; omega
  | txUnlock =>
    cases hs
    simp only [discharges_txUnlock, Bool.and_eq_true, bne_iff_ne, ne_eq] at hd
    have := obligations_setThread { th with prog := k, held := th.held - 1 } ht
    dsimp only at this
    refine ⟨discharges_setThread h hd.2, h.queued, h.idle, ?_, by simp [hd.1, h.backed]⟩
    show s.txLock - 1 =
      ((s.setThread t { th with prog := k, held := th.held - 1 }).obligations : Int) + s.lost
    rw [h.count]; omega
  | lock m =>
    simp only [Sys.execInstr] at hs; split_ifs at hs; cases hs
    exact (h.setProg ht k hd).withOwner _
  | unlock m =>
    simp only [Sys.execInstr] at hs; split_ifs at hs; cases hs
    exact (h.setProg ht k hd).withOwner _
  | grab w =>
    have h' := h.setProg ht k hd
    simp only [Sys.execInstr] at hs
    split at hs
    next hw0 =>
      cases hs
      exact h'.withStatus w .grabbed (by simp) (fun _ => h.idle w (by simp [hw0]))
    next =>
      cases hs
      have hw := h.update w .grabbed 0 (by simp) (fun _ => rfl)
      have hu := sum_carried_update s.carried w 0
      refine ⟨h'.threads, fun x => (hw x).1, fun x => (hw x).2, ?_, h'.backed⟩
      have hc := h'.count
      simp only [Sys.obligations, Sys.setThread_threads, Sys.setThread_carried,
        Sys.setThread_txLock, Sys.setThread_lost] at hc ⊢
      omega
    next => cases hs
  | cancelWait w =>
    have h' := h.setProg ht k hd
    simp only [Sys.execInstr] at hs; split_ifs at hs with hr hg <;> cases hs
    · exact h'.withStatus w .idle (by simp) (fun _ => h.idle w (by simp [hg]))
    · exact h'.withStatus w (s.status w) (h.queued w) (h.idle w)
  | flushWait w =>
    simp only [Sys.execInstr] at hs; split_ifs at hs; cases hs
    exact h.setProg ht k hd
  | setState v =>
    cases hs
    have h' := h.setProg ht k hd
    exact ⟨h'.threads, h'.queued, h'.idle, h'.count, h'.backed⟩

/-- What a `schedule_work` that discharges `n` leaves to each outcome. -/
theorem discharges_schedule {w : Work} {q p : Prog} {n : Nat}
    (hd : (Prog.schedule w q p).discharges n = true) :
    q.discharges (n - w.give n) = true ∧ w.give n = (if w.carriesTxLock then 1 else 0) ∧
      w.give n ≤ n ∧ p.discharges n = true := by
  unfold Work.give
  cases hcw : w.carriesTxLock <;>
    simp only [Prog.discharges, hcw, if_true, if_false, Bool.and_eq_true, bne_iff_ne] at hd ⊢
  · exact ⟨hd.1, rfl, Nat.zero_le _, hd.2⟩
  · rw [show min n 1 = 1 by omega]; exact ⟨hd.1.2, rfl, by omega, hd.2⟩

theorem TxInv.scheduleBy (h : TxInv s) (ht : s.threads[t]? = some th) {w : Work} {q p : Prog}
    (hd : (Prog.schedule w q p).discharges th.held = true) :
    TxInv (s.scheduleBy t th w q p) := by
  obtain ⟨hq, hg, hle, hp⟩ := discharges_schedule hd
  unfold Sys.scheduleBy
  split_ifs with hw
  · have hc0 := h.idle w (by simp [hw])
    have hs := obligations_setThread { th with prog := q, held := th.held - w.give th.held } ht
    have hu := sum_carried_update s.carried w (s.carried w + w.give th.held)
    have hx := h.update w .queued (s.carried w + w.give th.held)
      (fun _ => by rw [hc0, hg, Nat.zero_add]) (by simp)
    refine ⟨discharges_setThread h hq, fun x => (hx x).1, fun x => (hx x).2, ?_, h.backed⟩
    have hc := h.count
    dsimp only at hs
    simp only [Sys.obligations, Sys.setThread_threads, Sys.setThread_carried,
      Sys.setThread_txLock, Sys.setThread_lost] at hc hs ⊢
    omega
  · exact h.setProg ht p hp

/-- One step of any thread, any callback or any work keeps the accounting. -/
theorem TxInv.step (h : TxInv s) {l : Label} (hs : sysStep s l = some s') : TxInv s' := by
  cases l with
  | call c =>
    cases hs
    refine ⟨fun x hx => ?_, h.queued, h.idle, ?_, h.backed⟩
    · rcases List.mem_append.mp hx with hx | hx
      · exact h.threads x hx
      · simp only [List.mem_singleton] at hx; subst hx; exact Callback.body_discharges c
    · simp [h.count, Sys.obligations]
  | outsideQueue w =>
    simp only [sysStep] at hs
    split_ifs at hs with hc hi <;> cases hs
    · exact h.withStatus w .queued (fun _ => by simp [hc, h.idle w (by simp [hi])])
        (fun h' => absurd rfl h')
    · exact h
  | start w es =>
    simp only [sysStep, Bool.and_eq_true, decide_eq_true_eq] at hs
    split_ifs at hs with hq; cases hs
    have hu := sum_carried_update s.carried w 0
    have hw := h.update w .idle 0 (by simp) (fun _ => rfl)
    refine ⟨fun x hx => ?_, fun x => (hw x).1, fun x => (hw x).2, ?_, h.backed⟩
    · rcases List.mem_append.mp hx with hx | hx
      · exact h.threads x hx
      · simp only [List.mem_singleton] at hx; subst hx
        rw [h.queued w hq.1]; exact workBody_discharges w es
    · have hc := h.count
      simp only [Sys.obligations, List.map_append, List.sum_append, List.map_singleton,
        List.sum_singleton] at hc ⊢
      omega
  | exec t c =>
    obtain ⟨th, ht, ⟨i, k, hp, hs⟩ | ⟨cnd, p, q, hp, rfl⟩ | ⟨w, q, p, hp, rfl⟩⟩ :=
      Sys.exec_eq_some hs <;>
    have hd := h.threads th (List.getElem?_mem ht) <;> rw [hp] at hd
    · exact h.execInstr ht hd hs
    · simp only [discharges_branch, Bool.and_eq_true] at hd
      exact h.setProg ht _ (by split <;> simp [hd.1, hd.2])
    · exact h.scheduleBy ht hd

/-- The accounting holds in every state a run reaches from an idle interface. -/
theorem txInv_run (v : VifState) (ls : List Label) (hs : sysRun (Sys.idleIn v) ls = some s) :
    TxInv s :=
  sysRun_invariant (fun h hs => TxInv.step h hs) (txInv_idleIn v) hs

end Step

/-- Once nothing is in flight, `tx_lock` is the number of obligations dropped by
`cancel_work_sync` with a queued work. -/
theorem txLock_of_quiescent {s : Sys} (h : TxInv s) (hq : s.quiescent = true) :
    s.txLock = s.lost := by
  simp only [Sys.quiescent, Bool.and_eq_true, List.all_eq_true, beq_iff_eq] at hq
  have hth : (s.threads.map Thread.held).sum = 0 := by
    refine List.sum_eq_zero fun n hn => ?_
    obtain ⟨th, hth, rfl⟩ := List.mem_map.mp hn
    have := h.threads th hth
    rw [hq.1.1.1 th hth] at this
    simpa using this
  have hw : (Work.all.map s.carried).sum = 0 := by
    refine List.sum_eq_zero fun n hn => ?_
    obtain ⟨w, hw, rfl⟩ := List.mem_map.mp hn
    exact h.idle w (by simp [hq.1.1.2 w hw])
  rw [h.count, Sys.obligations, hth, hw]
  simp

/-! ## Removing an associated interface -/

def execs (t : Nat) (choices : List Bool) : List Label := choices.map (.exec t)

/-- A change of BSSID, which joins. -/
def joinChange : BssChange := ⟨false, true, false, false, false, false, false, false, false⟩

/-- The association. -/
def assocChange : BssChange := ⟨true, false, false, false, false, false, false, true, false⟩

/-- From a fresh interface: `wfx_bss_info_changed` for the new BSSID runs `wfx_do_join`
(not an AP; the BSS is found, no scan, `wsm_join` succeeds, not ad hoc), then for the
association, which takes the interface from PRE_STA to STA. -/
def associate : List Label :=
  .call (.bssInfoChanged joinChange) ::
    execs 0 [false, false, false, false, false, false, false, false, false, false, false,
      false, false] ++
  .call (.bssInfoChanged assocChange) ::
    execs 1 [false, false, false, false, false, false, false, false, false, false, false,
      false, false, false, false]

/-- `wfx_remove_interface` runs to its end before any worker takes `unjoin_work`. -/
def removeWhileAssociated : List Label :=
  associate ++ .call .removeInterface ::
    execs 2 [false, false, false, false, false, false, false, false, false, false, false,
      false, false, false, false]

/-- The tx lock stays taken after `wfx_remove_interface` on an associated interface: its
`wsm_tx_lock_flush` hands an obligation to the `unjoin_work` it queues, and its own
`cancel_work_sync(&wvif->unjoin_work)` drops that work before it runs. Nothing is in flight
at the end, no obligation is outstanding, and `tx_lock` is 1. -/
theorem remove_interface_leaks_tx_lock :
    (sysRun Sys.init removeWhileAssociated).map
      (fun s => (s.quiescent, s.obligations, s.txLock, s.lost)) = some (true, 0, 1, 1) := by
  decide

/-! ## At rest -/

/-- In every run from an idle interface in any state, whatever the interleaving of
callbacks and works: whenever nothing is in flight, `tx_lock` is exactly the number of
obligations `cancel_work_sync` dropped with a queued work. A lock left taken at rest always
comes from a cancelled work that carried it. -/
theorem txLock_at_rest (v : VifState) (ls : List Label) (s : Sys)
    (hs : sysRun (Sys.idleIn v) ls = some s) (hq : s.quiescent = true) : s.txLock = s.lost :=
  txLock_of_quiescent (txInv_run v ls hs) hq

theorem txLock_at_rest_removeWhileAssociated :
    ∃ s, sysRun Sys.init removeWhileAssociated = some s ∧ s.quiescent = true ∧
      s.txLock = s.lost := by
  obtain ⟨s, hs⟩ := Option.isSome_iff_exists.mp
    (show (sysRun Sys.init removeWhileAssociated).isSome = true by decide)
  have hq : s.quiescent = true := by
    simpa [hs] using show (sysRun Sys.init removeWhileAssociated).map Sys.quiescent = some true by
      decide
  exact ⟨s, hs, hq, txLock_at_rest .passive removeWhileAssociated s hs hq⟩

end WfxDriver
