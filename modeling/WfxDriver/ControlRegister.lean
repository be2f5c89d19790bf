import WfxDriver.Message

/-!
# The control-register hand-off

The interrupt path latches the chip's control word into `atomic_t ctrl_reg` and completes
`ctrl_ready`; the bottom-half worker takes a completion and then clears `ctrl_reg`,
re-latches a piggyback word at the end of a full batch, and borrows a completion in
`device_wakeup`. Each of these is two atomic steps, and the parties interleave between
them. Every exchange reads what the previous one stored, so no value is lost without
an exchange that hands it to the worker or reports it, and whenever neither party is
between its two steps a nonzero `ctrl_reg` has a pending completion (`ctrl_handoff_safe`).
-/

namespace WfxDriver

def complete (done : Nat) : Nat := done + 1

/-- `try_wait_for_completion(x)`, and `wait_for_completion_timeout(x, t)` when it does not time
out: consume one `done` if there is one. -/
def tryWaitForCompletion (done : Nat) : Bool × Nat :=
  if done = 0 then (false, done) else (true, done - 1)

@[simp] theorem tryWaitForCompletion_complete (done : Nat) :
    tryWaitForCompletion (complete done) = (true, done) := rfl

/-- The place of one `atomic_xchg` on `ctrl_reg`: `prev = atomic_xchg(&wdev->hif.ctrl_reg, cur)`
in `wfx_bh_request_rx`; `ctrl_reg = atomic_xchg(&wdev->hif.ctrl_reg, 0)` in `bh_work_rx`; and
the exchange of the piggyback word into `ctrl_reg` after a full batch. -/
inductive XchgSite
  | irq
  | consume
  | relatch
  deriving DecidableEq, Repr

/-- One exchange: the value it read, the value it stored, and whether the code printed
"received IRQ but previous data was not (yet) read" or "unexpected IRQ happened". -/
structure Xchg where
  site : XchgSite
  old : Nat
  new : Nat
  reported : Bool
  deriving DecidableEq, Repr

/-- Where `wfx_bh_request_rx` is: `completing` between `atomic_xchg` and
`complete(&wdev->hif.ctrl_ready)`. -/
inductive IrqPc
  | idle
  | completing
  deriving DecidableEq, Repr

/-- Where the worker is in the sequences of `bh_work_rx` and `device_wakeup`: `consuming`
after a successful `try_wait_for_completion`, with `atomic_xchg(&ctrl_reg, 0)` next;
`relatched` after the exchange of the piggyback word, with `complete` next; `waking` in
`wait_for_completion_timeout`; `woken` when that wait consumed a completion, with `complete`
next to give it back. -/
inductive WorkerPc
  | idle
  | consuming
  | relatched
  | waking
  | woken
  deriving DecidableEq, Repr

/-- `ctrl_reg`, the `done` count of `ctrl_ready`, where each party is, and every exchange so
far, newest first. -/
structure CtrlState where
  ctrlReg : Nat
  ready : Nat
  irq : IrqPc
  worker : WorkerPc
  log : List Xchg

def CtrlState.init : CtrlState := ⟨0, 0, .idle, .idle, []⟩

/-- One atomic step of either party; `irqXchg cur` is `control_reg_read(wdev, &cur)` then
`atomic_xchg`. A step whose party is elsewhere does nothing. -/
inductive CtrlEvent
  | irqXchg (cur : Nat)
  | irqComplete
  | rxTryWait
  | rxXchg
  | relatchXchg (piggyback : Nat)
  | relatchComplete
  | wakeWait
  | wakeAcquire
  | wakeTimeout
  | wakeComplete

/-- The interleaving semantics of the two parties. -/
def ctrlStep (api : Api) (s : CtrlState) : CtrlEvent → CtrlState
  | .irqXchg cur =>
    if s.irq = .idle then
      { s with ctrlReg := cur, irq := .completing,
               log := ⟨.irq, s.ctrlReg, cur, s.ctrlReg != 0⟩ :: s.log }
    else s
  | .irqComplete => if s.irq = .completing then { s with ready := complete s.ready, irq := .idle } else s
  | .rxTryWait =>
    if s.worker = .idle ∧ (tryWaitForCompletion s.ready).1 then
      { s with ready := (tryWaitForCompletion s.ready).2, worker := .consuming }
    else s
  | .rxXchg =>
    if s.worker = .consuming then
      { s with ctrlReg := 0, worker := .idle, log := ⟨.consume, s.ctrlReg, 0, false⟩ :: s.log }
    else s
  | .relatchXchg p =>
    if s.worker = .idle ∧ p &&& api.ctrlNextLenMask ≠ 0 then
      { s with ctrlReg := p, worker := .relatched,
               log := ⟨.relatch, s.ctrlReg, p, s.ctrlReg != 0⟩ :: s.log }
    else s
  | .relatchComplete =>
    if s.worker = .relatched then { s with ready := complete s.ready, worker := .idle } else s
  | .wakeWait => if s.worker = .idle then { s with worker := .waking } else s
  | .wakeAcquire =>
    if s.worker = .waking ∧ (tryWaitForCompletion s.ready).1 then
      { s with ready := (tryWaitForCompletion s.ready).2, worker := .woken }
    else s
  | .wakeTimeout => if s.worker = .waking then { s with worker := .idle } else s
  | .wakeComplete =>
    if s.worker = .woken then { s with ready := complete s.ready, worker := .idle } else s

def ctrlRun (api : Api) : CtrlState → List CtrlEvent → CtrlState := List.foldl (ctrlStep api)

def CtrlState.midSequence (s : CtrlState) : Bool :=
  s.irq = .completing || s.worker = .consuming || s.worker = .relatched || s.worker = .woken

/-- `ctrl_reg` holds what the newest exchange stored, each exchange read what the one
before it stored, and the oldest read the initial 0. -/
def Chain : Nat → List Xchg → Prop
  | cur, [] => cur = 0
  | cur, x :: xs => x.new = cur ∧ Chain x.old xs

/-- The invariant of the hand-off. -/
structure CtrlInv (s : CtrlState) : Prop where
  chain : Chain s.ctrlReg s.log
  seen : ∀ x ∈ s.log, x.old ≠ 0 → x.site = .consume ∨ x.reported = true
  pending : s.ctrlReg ≠ 0 → 1 ≤ s.ready ∨ s.midSequence = true

theorem ctrlInv_init : CtrlInv CtrlState.init :=
  ⟨rfl, by simp [CtrlState.init], by simp [CtrlState.init]⟩

/-- Each step leaves `ctrl_reg` and the log alone, or is one exchange: it reads the current
`ctrl_reg`, stores a new one, and reports a nonzero read unless the worker consumes it. -/
theorem ctrlStep_xchg (api : Api) (s : CtrlState) (e : CtrlEvent) :
    ((ctrlStep api s e).ctrlReg = s.ctrlReg ∧ (ctrlStep api s e).log = s.log) ∨
      ∃ x : Xchg, x.old = s.ctrlReg ∧ (x.old ≠ 0 → x.site = .consume ∨ x.reported = true) ∧
        (ctrlStep api s e).ctrlReg = x.new ∧ (ctrlStep api s e).log = x :: s.log := by
  cases e with
  | irqXchg | rxXchg | relatchXchg =>
    simp only [ctrlStep]; split_ifs; exacts [.inr ⟨_, rfl, by simp, rfl, rfl⟩, .inl ⟨rfl, rfl⟩]
  | _ => simp only [ctrlStep]; split_ifs <;> exact .inl ⟨rfl, rfl⟩

theorem midSequence_of {s : CtrlState} (h : s.irq = .completing ∨ s.worker = .consuming ∨
    s.worker = .relatched ∨ s.worker = .woken) : s.midSequence = true := by
  rcases h with h | h | h | h <;> simp [CtrlState.midSequence, h]

/-- Each step keeps a nonzero `ctrl_reg` covered by a completion, or by a party between the
two halves of a sequence. -/
theorem ctrlStep_pending {api : Api} {s : CtrlState} (e : CtrlEvent)
    (h : s.ctrlReg ≠ 0 → 1 ≤ s.ready ∨ s.midSequence = true) :
    (ctrlStep api s e).ctrlReg ≠ 0 →
      1 ≤ (ctrlStep api s e).ready ∨ (ctrlStep api s e).midSequence = true := by
  cases e with
  | irqXchg | rxTryWait | relatchXchg | wakeAcquire =>
    simp only [ctrlStep]; split_ifs; exacts [fun _ => .inr (midSequence_of (by simp)), h]
  | irqComplete | relatchComplete | wakeComplete =>
    simp only [ctrlStep]; split_ifs; exacts [fun _ => .inl (Nat.le_add_left 1 _), h]
  | rxXchg => simp only [ctrlStep]; split_ifs; exacts [fun h0 => absurd rfl h0, h]
  | wakeWait | wakeTimeout =>
    simp only [ctrlStep]; split_ifs with hg
    exacts [by simpa [CtrlState.midSequence, hg] using h, h]

theorem ctrlInv_step {api : Api} {s : CtrlState} (h : CtrlInv s) (e : CtrlEvent) :
    CtrlInv (ctrlStep api s e) := by
  refine ⟨?_, ?_, ctrlStep_pending e h.pending⟩ <;>
    rcases ctrlStep_xchg api s e with ⟨hr, hl⟩ | ⟨x, ho, hx, hr, hl⟩
  case refine_1.inl => rw [hr, hl]; exact h.chain
  case refine_1.inr => rw [hr, hl]; exact ⟨rfl, ho ▸ h.chain⟩
  case refine_2.inl => rw [hl]; exact h.seen
  case refine_2.inr =>
    rw [hl]; exact List.forall_mem_cons.2 ⟨hx, h.seen⟩

theorem ctrlInv_run {api : Api} {s : CtrlState} (h : CtrlInv s) (es : List CtrlEvent) :
    CtrlInv (ctrlRun api s es) := by
  induction es generalizing s with
  | nil => exact h
  | cons e es ih => exact ih (ctrlInv_step h e)

/-- No control-register snapshot is lost silently. In every run of the interrupt path and
the worker, interleaved at any atomic step: each exchange read exactly the value the
previous one stored (and `ctrl_reg` holds the newest), every exchange that read a nonzero
value handed it to the worker or reported it, and outside the two-step sequences a
nonzero `ctrl_reg` has a pending completion for the next `bh_work_rx` to take. -/
theorem ctrl_handoff_safe (api : Api) (es : List CtrlEvent) :
    let s := ctrlRun api CtrlState.init es
    Chain s.ctrlReg s.log ∧ (∀ x ∈ s.log, x.old ≠ 0 → x.site = .consume ∨ x.reported = true) ∧
      (s.midSequence = false → s.ctrlReg ≠ 0 → 1 ≤ s.ready) := by
  have h : CtrlInv (ctrlRun api CtrlState.init es) := ctrlInv_run ctrlInv_init es
  refine ⟨h.chain, h.seen, fun hm hr => ?_⟩
  simpa [hm] using h.pending hr

end WfxDriver
