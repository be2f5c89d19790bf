import WfxDriver.TxLockAccounting

/-!
# Waiting on works under conf_mutex

A thread waits for another when it blocks in `mutex_lock` on a mutex the other holds, or
in `cancel_work_sync` or `flush_work` on a work whose handler the other runs. A cycle of
such waits never breaks: no thread on it can step, and no other thread can release what
they wait for (`waitsFor_cycle_persists`).

sta.c reaches one. `wfx_remove_interface` holds `conf_mutex` when it cancels the
`unjoin_work` it has just queued; if a worker took that work in between, its handler
`wfx_do_unjoin` blocks on `conf_mutex`, and `cancel_work_sync` waits for it forever
(`remove_interface_deadlocks_with_unjoin`).
-/

namespace WfxDriver

/-- The instruction thread `t` is blocked at or about to take. -/
def Sys.nextInstr (s : Sys) (t : Nat) : Option Instr :=
  match s.threads[t]? with
  | some ⟨_, .step i _, _⟩ => some i
  | _ => none

/-- Thread `b` runs a handler of `w` that has not returned. -/
def Sys.runsWork (s : Sys) (b : Nat) (w : Work) : Bool :=
  match s.threads[b]? with
  | some th => th.work == some w && th.prog != .done
  | none => false

/-- Instruction `i` cannot complete before thread `b` moves: it locks a mutex `b` holds, or
waits in `cancel_work_sync` or `flush_work` for the handler `b` runs. -/
def Sys.instrWaitsFor (s : Sys) (i : Instr) (b : Nat) : Bool :=
  match i with
  | .lock m => s.owner m == some b
  | .cancelWait w => s.runsWork b w
  | .flushWait w => s.runsWork b w
  | _ => false

/-- Thread `a` cannot move before thread `b` does. -/
def Sys.waitsFor (s : Sys) (a b : Nat) : Bool :=
  match s.nextInstr a with
  | some i => s.instrWaitsFor i b
  | none => false

/-- A deadlock under `conf_mutex`: a thread holding it waits in `cancel_work_sync` on a chain
of waits that comes back to it. -/
def Sys.ConfCancelDeadlock (s : Sys) : Prop :=
  ∃ t w, s.owner .conf = some t ∧ s.nextInstr t = some (.cancelWait w) ∧
    Relation.TransGen (fun a b => s.waitsFor a b = true) t t

section Frame

variable {s s' : Sys} {t a b : Nat} {c : Bool}

theorem Sys.nextInstr_eq_some {i : Instr} (h : s.nextInstr t = some i) :
    ∃ th k, s.threads[t]? = some th ∧ th.prog = .step i k := by
  unfold Sys.nextInstr at h
  rcases hth : s.threads[t]? with _ | ⟨w, p, hd⟩ <;> rw [hth] at h
  · cases h
  · cases p with
    | step i' k => cases h; exact ⟨_, k, rfl, rfl⟩
    | _ => cases h

theorem Sys.waitsFor_eq_true (h : s.waitsFor a b = true) :
    ∃ i, s.nextInstr a = some i ∧ s.instrWaitsFor i b = true := by
  unfold Sys.waitsFor at h
  split at h
  · exact ⟨_, ‹_›, h⟩
  · cases h

theorem Sys.running_of_runsWork {w : Work} (h : s.runsWork b w = true) : s.running w = true := by
  unfold Sys.runsWork at h
  split at h
  · exact List.any_eq_true.mpr ⟨_, List.getElem?_mem ‹_›, h⟩
  · cases h

theorem Sys.exec_of_waitsFor (h : s.waitsFor a b = true) : s.exec a c = none := by
  obtain ⟨i, hi, hw⟩ := Sys.waitsFor_eq_true h
  obtain ⟨th, k, ht, hp⟩ := Sys.nextInstr_eq_some hi
  simp only [Sys.exec, ht, hp]
  cases i <;> simp only [Sys.instrWaitsFor, beq_iff_eq, reduceCtorEq] at hw
  · simp [Sys.execInstr, hw]
  · simp [Sys.execInstr, Sys.running_of_runsWork hw]
  · simp [Sys.execInstr, Sys.running_of_runsWork hw]

theorem owner_update_frame {o : Mutex → Option Nat} {m' : Mutex} {v : Option Nat}
    (h : (o m' = none ∧ v = some t) ∨ (o m' = some t ∧ v = none)) (m : Mutex) :
    Function.update o m' v m = o m ∨ (o m = none ∧ Function.update o m' v m = some t) ∨
      (o m = some t ∧ Function.update o m' v m = none) := by
  by_cases hm : m = m'
  · subst hm; rw [Function.update_same]; exact .inr h
  · exact .inl (Function.update_noteq hm _ _)

/-- A step of thread `t` replaces its own entry, and takes or releases mutexes for `t`
only. -/
theorem Sys.exec_frame (hs : s.exec t c = some s') :
    (∃ th', s'.threads = s.threads.set t th') ∧ ∀ m, s'.owner m = s.owner m ∨
      (s.owner m = none ∧ s'.owner m = some t) ∨ (s.owner m = some t ∧ s'.owner m = none) := by
  obtain ⟨th, -, ⟨i, k, -, hs⟩ | ⟨-, -, -, -, rfl⟩ | ⟨w, q, p, -, rfl⟩⟩ := Sys.exec_eq_some hs
  · cases i with
    | lock m' =>
      simp only [Sys.execInstr] at hs; split_ifs at hs with ho; cases hs
      exact ⟨⟨_, rfl⟩, owner_update_frame (.inl ⟨ho, rfl⟩)⟩
    | unlock m' =>
      simp only [Sys.execInstr] at hs; split_ifs at hs with ho; cases hs
      exact ⟨⟨_, rfl⟩, owner_update_frame (.inr ⟨ho, rfl⟩)⟩
    | grab w =>
      simp only [Sys.execInstr] at hs; split at hs <;> cases hs <;> exact ⟨⟨_, rfl⟩, fun _ => .inl rfl⟩
    | _ =>
      simp only [Sys.execInstr] at hs; (try split_ifs at hs) <;> cases hs <;>
        exact ⟨⟨_, rfl⟩, fun _ => .inl rfl⟩
  · exact ⟨⟨_, rfl⟩, fun _ => .inl rfl⟩
  · unfold Sys.scheduleBy; split_ifs <;> exact ⟨⟨_, rfl⟩, fun _ => .inl rfl⟩

theorem Sys.waitsFor_congr (ha : s'.threads[a]? = s.threads[a]?)
    (hb : s'.threads[b]? = s.threads[b]?) (ho : ∀ m, s.owner m = some b → s'.owner m = some b)
    (h : s.waitsFor a b = true) : s'.waitsFor a b = true := by
  obtain ⟨i, hi, hw⟩ := Sys.waitsFor_eq_true h
  have hi' : s'.nextInstr a = some i := by rw [← hi]; simp only [Sys.nextInstr, ha]
  simp only [Sys.waitsFor, hi']
  cases i <;> simp only [Sys.instrWaitsFor, beq_iff_eq, Bool.false_eq_true] at hw ⊢
  · exact ho _ hw
  all_goals simpa only [Sys.runsWork, hb] using hw

theorem Sys.lt_length_of_waitsFor (h : s.waitsFor a b = true) : a < s.threads.length := by
  obtain ⟨i, hi, -⟩ := Sys.waitsFor_eq_true h
  obtain ⟨th, k, ht, -⟩ := Sys.nextInstr_eq_some hi
  exact (List.getElem?_eq_some_iff.mp ht).1

/-- A thread that waits does not move, and keeps every mutex it holds, whatever step
comes. -/
theorem Sys.blocked_step {l : Label} (hab : s.waitsFor a b = true) (hs : sysStep s l = some s') :
    s'.threads[a]? = s.threads[a]? ∧ ∀ m, s.owner m = some a → s'.owner m = some a := by
  have hla := Sys.lt_length_of_waitsFor hab
  cases l with
  | call cb => cases hs; exact ⟨List.getElem?_append_left hla, fun _ h => h⟩
  | outsideQueue w =>
    simp only [sysStep] at hs; split_ifs at hs <;> cases hs <;> exact ⟨rfl, fun _ h => h⟩
  | start w es =>
    simp only [sysStep] at hs; split_ifs at hs; cases hs
    exact ⟨List.getElem?_append_left hla, fun _ h => h⟩
  | exec t c =>
    have hta : t ≠ a := by rintro rfl; simp [sysStep, Sys.exec_of_waitsFor hab] at hs
    obtain ⟨⟨th', hth⟩, ho⟩ := Sys.exec_frame hs
    refine ⟨by rw [hth, List.getElem?_set_ne hta], fun m hm => ?_⟩
    rcases ho m with h | ⟨h, -⟩ | ⟨h, -⟩
    · rw [h, hm]
    · rw [hm] at h; cases h
    · rw [hm] at h; cases h; exact absurd rfl hta

theorem Sys.waitsFor_step {l : Label} {b' : Nat} (hab : s.waitsFor a b = true)
    (hb : s.waitsFor b b' = true) (hs : sysStep s l = some s') : s'.waitsFor a b = true :=
  Sys.waitsFor_congr (Sys.blocked_step hab hs).1 (Sys.blocked_step hb hs).1
    (Sys.blocked_step hb hs).2 hab

theorem Sys.transGen_waitsFor_step {l : Label}
    (h : Relation.TransGen (fun a b => s.waitsFor a b = true) a b)
    (hb : ∃ b', s.waitsFor b b' = true) (hs : sysStep s l = some s') :
    Relation.TransGen (fun a b => s'.waitsFor a b = true) a b := by
  induction h with
  | single hab => obtain ⟨b', hb⟩ := hb; exact .single (Sys.waitsFor_step hab hb hs)
  | tail _ hxb ih =>
    obtain ⟨b', hb⟩ := hb
    exact .tail (ih ⟨_, hxb⟩) (Sys.waitsFor_step hxb hb hs)

/-- A cycle of waits is a deadlock: every step keeps it. -/
theorem waitsFor_cycle_persists {l : Label}
    (h : Relation.TransGen (fun a b => s.waitsFor a b = true) t t) (hs : sysStep s l = some s') :
    Relation.TransGen (fun a b => s'.waitsFor a b = true) t t := by
  obtain ⟨b, htb, -⟩ := Relation.TransGen.head'_iff.mp h
  exact Sys.transGen_waitsFor_step h ⟨b, htb⟩ hs

end Frame

/-- A deadlock under `conf_mutex` lasts: every step keeps it. -/
theorem Sys.ConfCancelDeadlock.step {s s' : Sys} (h : s.ConfCancelDeadlock) {l : Label}
    (hs : sysStep s l = some s') : s'.ConfCancelDeadlock := by
  obtain ⟨t, w, ho, hn, hc⟩ := h
  obtain ⟨b, htb, -⟩ := Relation.TransGen.head'_iff.mp hc
  obtain ⟨hth, hown⟩ := Sys.blocked_step htb hs
  refine ⟨t, w, hown _ ho, ?_, waitsFor_cycle_persists hc hs⟩
  rw [← hn]; simp only [Sys.nextInstr, hth]

/-- A worker takes `unjoin_work` as soon as `wfx_remove_interface` has queued it, on the
associated interface of `associate`; its handler comes to
`mutex_lock(&wvif->wdev->conf_mutex)` in `wfx_do_unjoin`, and `wfx_remove_interface` runs on
up to its `cancel_work_sync(&wvif->unjoin_work)`. -/
def removeRacingUnjoin : List Label :=
  associate ++ .call .removeInterface :: execs 2 [false, false, false, false] ++
    .start .unjoin [] :: execs 2 [false, false, false, false, false, false, false, false, false]

/-- `wfx_remove_interface` deadlocks with `unjoin_work`: holding `conf_mutex`, it waits in
`cancel_work_sync` for the handler, which waits for `conf_mutex`; nothing that can happen
afterwards undoes it. -/
theorem remove_interface_deadlocks_with_unjoin :
    ∃ s, sysRun Sys.init removeRacingUnjoin = some s ∧ s.ConfCancelDeadlock ∧
      ∀ ls s', sysRun s ls = some s' → s'.ConfCancelDeadlock := by
  have hc : (sysRun Sys.init removeRacingUnjoin).map
      (fun s => (s.owner .conf, s.nextInstr 2, s.waitsFor 2 3, s.waitsFor 3 2)) =
      some (some 2, some (.cancelWait .unjoin), true, true) := by
    decide
  cases hr : sysRun Sys.init removeRacingUnjoin with
  | none => simp [hr] at hc
  | some s =>
    simp only [hr, Option.map_some', Option.some.injEq, Prod.mk.injEq] at hc
    obtain ⟨h1, h2, h3, h4⟩ := hc
    have hd : s.ConfCancelDeadlock := ⟨2, .unjoin, h1, h2, .tail (.single h3) h4⟩
    exact ⟨s, rfl, hd, fun _ _ h => sysRun_invariant (fun h hs => Sys.ConfCancelDeadlock.step h hs) hd h⟩

end WfxDriver
