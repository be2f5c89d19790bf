import WfxDriver.TxHelper
import WfxDriver.ControlRegister

/-!
# The receive pump: `bh_work_rx` and the loop of `bh_work`

Each pass of `bh_work_rx`'s loop takes the next length from the previous piggyback word,
or else from the control word the interrupt latched, and reads that many bytes with
`rx_helper`. After `max_msg` passes the last piggyback word is re-latched into `ctrl_reg`
and `ctrl_ready` is completed again, so that the next call picks the chain up. With no
interrupt during a run, `bh_work`'s successive `bh_work_rx(wdev, 32, ...)` calls read the
same lengths as one call without a bound, and both read the chain the chip announces
(`chainReads`): the latched control word, then the piggyback word of each accepted frame.

What the chip answers to the reads is a list of `RxInput`, one per `rx_helper` call; a read
past its end fails.
-/

namespace WfxDriver

/-- The control side of the pump: `ctrl_reg`, the `done` count of `ctrl_ready`, and the
chip's answers to the coming reads. -/
structure RxCtl where
  ctrlReg : Nat
  ready : Nat
  frames : List RxInput

/-- The pump's state: the host fields, the `stats_cnf` counter `rx_helper` bumps, and the
control side. -/
structure RxPump where
  hif : Hif
  numCnf : Nat
  ctl : RxCtl

def RxInput.readFailure : RxInput := ⟨true, false, ⟨0, 0, 0, 0, 0⟩, 0, none⟩

/-- Where a pass takes its control word from: the piggyback word if it announces a length,
else `try_wait_for_completion` then `atomic_xchg(&ctrl_reg, 0)`, else 0. -/
def fetchCtrl (api : Api) (piggyback : Nat) (c : RxCtl) : Nat × RxCtl :=
  if piggyback &&& api.ctrlNextLenMask ≠ 0 then (piggyback, c)
  else if (tryWaitForCompletion c.ready).1 then
    (c.ctrlReg, { c with ctrlReg := 0, ready := (tryWaitForCompletion c.ready).2 })
  else (0, c)

/-- How one pass of the loop ends: `return i` (with the length it tried to read, if any),
or on to the next pass with the frame dispatched and the new piggyback word. -/
inductive RxPass
  | stop (attempt : Option Nat) (st : RxPump)
  | next (len : Nat) (dispatched : Option Wmsg) (piggyback : Nat) (st : RxPump)

/-- One pass of the body of `bh_work_rx`'s `for` loop. -/
def rxPass (api : Api) (piggyback : Nat) (st : RxPump) : RxPass :=
  let f := fetchCtrl api piggyback st.ctl
  if f.1 &&& api.ctrlNextLenMask = 0 then .stop none { st with ctl := f.2 }
  else
    let len := (f.1 &&& api.ctrlNextLenMask) * 2
    let r := rxHelper api st.hif len st.numCnf (f.2.frames.headD .readFailure)
    let st' : RxPump := ⟨r.hif, r.isCnf, { f.2 with frames := f.2.frames.tail }⟩
    match r.ret with
    | .piggyback p => .next len r.dispatched p.toNat st'
    | _ => .stop (some len) st'

/-- What the `for` loop of `bh_work_rx` leaves: its count `i`, the lengths it read, the frames
it dispatched, `some piggyback` if it ran `max_msg` passes (`none` after `return i`). -/
structure RxLoopOut where
  count : Nat
  lengths : List Nat
  accepted : List Wmsg
  bound : Option Nat
  st : RxPump

/-- The `for` loop of `bh_work_rx`, `k` passes left, from piggyback word `p`. -/
def rxLoop (api : Api) : Nat → Nat → RxPump → RxLoopOut
  | 0, p, st => ⟨0, [], [], some p, st⟩
  | k + 1, p, st =>
    match rxPass api p st with
    | .stop a st' => ⟨0, a.toList, [], none, st'⟩
    | .next len w p' st' =>
      let rest := rxLoop api k p' st'
      ⟨rest.count + 1, len :: rest.lengths, w.toList ++ rest.accepted, rest.bound, rest.st⟩

/-- The end of `bh_work_rx`: a piggyback word announcing a length is exchanged into
`ctrl_reg` and `ctrl_ready` completed. -/
def relatch (api : Api) (p : Nat) (c : RxCtl) : RxCtl :=
  if p &&& api.ctrlNextLenMask ≠ 0 then { c with ctrlReg := p, ready := complete c.ready } else c

/-- `bh_work_rx(wdev, max_msg, num_cnf)`. -/
def bhWorkRx (api : Api) (maxMsg : Nat) (st : RxPump) : RxLoopOut :=
  let o := rxLoop api maxMsg 0 st
  match o.bound with
  | some p => { o with st := { o.st with ctl := relatch api p o.st.ctl } }
  | none => o

/-- What a run of `bh_work`'s loop leaves: every `bh_work_rx` and `bh_work_tx` call. -/
structure BhRun where
  rx : List RxLoopOut
  tx : List TxBatch
  st : RxPump
  queue : List TxInput

/-- The `do ... while (num_rx || num_tx)` loop of `bh_work`, on at most `fuel` rounds
(`none` if it needs more). -/
def bhWorkLoop (api : Api) : Nat → RxPump → List TxInput → Option BhRun
  | 0, _, _ => none
  | fuel + 1, st, q =>
    let t := bhWorkTx api 32 st.hif q
    let r := bhWorkRx api 32 { st with hif := t.hif }
    if r.count ≠ 0 ∨ t.count ≠ 0 then
      (bhWorkLoop api fuel r.st t.queue).map fun rest =>
        ⟨r :: rest.rx, t :: rest.tx, rest.st, rest.queue⟩
    else some ⟨[r], [t], r.st, t.queue⟩

def RxPass.view : RxPass → (Option Nat × RxCtl) ⊕ (Nat × Option Wmsg × Nat × RxCtl)
  | .stop a st => .inl (a, st.ctl)
  | .next len w p st => .inr (len, w, p, st.ctl)

def RxPass.st : RxPass → RxPump
  | .stop _ st => st
  | .next _ _ _ st => st

/-- While a chain is carried on a piggyback word `ctrl_reg` is clear, and a set `ctrl_reg`
has a completion pending. -/
def ChainOk (api : Api) (p : Nat) (c : RxCtl) : Prop :=
  (p &&& api.ctrlNextLenMask ≠ 0 → c.ctrlReg = 0) ∧ (c.ctrlReg ≠ 0 → 1 ≤ c.ready)

/-- The reads a chip's answers announce from the word `w`: `(w & CTRL_NEXT_LEN_MASK) * 2`
bytes from the next answer, then on from that frame's piggyback word, until a word
announces nothing or `rx_helper` does not accept the frame read (a read past the answers
fails). Each read is paired with the answer it takes. -/
def chainReads (api : Api) (w : Nat) : List RxInput → List (Nat × RxInput)
  | [] =>
    if w &&& api.ctrlNextLenMask = 0 then []
    else [((w &&& api.ctrlNextLenMask) * 2, .readFailure)]
  | inp :: fs =>
    if w &&& api.ctrlNextLenMask = 0 then []
    else if (rxAccepted api ((w &&& api.ctrlNextLenMask) * 2) inp).isSome then
      ((w &&& api.ctrlNextLenMask) * 2, inp) :: chainReads api inp.piggyback.toNat fs
    else [((w &&& api.ctrlNextLenMask) * 2, inp)]

theorem chainReads_of_not_announced {api : Api} {w : Nat} (h : w &&& api.ctrlNextLenMask = 0)
    (fs : List RxInput) : chainReads api w fs = [] := by
  cases fs <;> simp [chainReads, h]

/-- The answers the chain reads are the chip's, in order from the first. -/
theorem chainReads_prefix (api : Api) (w : Nat) (fs : List RxInput) :
    (chainReads api w fs).map Prod.snd <+: fs ++ [RxInput.readFailure] := by
  induction fs generalizing w with
  | nil => unfold chainReads; split_ifs <;> simp
  | cons inp fs ih =>
    unfold chainReads
    split_ifs
    · exact List.nil_prefix
    · exact List.prefix_cons_inj inp |>.mpr (ih _)
    · simp

section Pass

variable {api : Api} {p : Nat} {st : RxPump}

@[simp] theorem fetchCtrl_frames (c : RxCtl) : (fetchCtrl api p c).2.frames = c.frames := by
  unfold fetchCtrl; split_ifs <;> rfl

theorem rxPass_eq : rxPass api p st =
    let f := fetchCtrl api p st.ctl
    if f.1 &&& api.ctrlNextLenMask = 0 then .stop none { st with ctl := f.2 }
    else
      let len := (f.1 &&& api.ctrlNextLenMask) * 2
      let inp := f.2.frames.headD .readFailure
      let r := rxHelper api st.hif len st.numCnf inp
      let st' : RxPump := ⟨r.hif, r.isCnf, { f.2 with frames := f.2.frames.tail }⟩
      match rxAccepted api len inp with
      | some w => .next len (some w) inp.piggyback.toNat st'
      | none => .stop (some len) st' := by
  simp only [rxPass]
  split_ifs
  · rfl
  · rw [rxHelper_ret, rxHelper_dispatched]
    generalize (fetchCtrl api p st.ctl).2.frames.headD RxInput.readFailure = inp
    generalize ((fetchCtrl api p st.ctl).1 &&& api.ctrlNextLenMask) * 2 = len
    cases rxAccepted api len inp
    · simp only; split_ifs <;> rfl
    · rfl

theorem rxPass_view {st₁ st₂ : RxPump} (h : st₁.ctl = st₂.ctl) :
    (rxPass api p st₁).view = (rxPass api p st₂).view := by
  rw [rxPass_eq, rxPass_eq, h]
  simp only
  split_ifs
  · rfl
  · split <;> rfl

theorem fetchCtrl_relatch {c : RxCtl} (h : p &&& api.ctrlNextLenMask ≠ 0 → c.ctrlReg = 0) :
    fetchCtrl api 0 (relatch api p c) = fetchCtrl api p c := by
  obtain ⟨r, rd, fs⟩ := c
  unfold relatch fetchCtrl
  by_cases hp : p &&& api.ctrlNextLenMask = 0
  · simp [hp]
  · simp only at h
    simp [hp, h hp]

theorem rxPass_relatch (h : p &&& api.ctrlNextLenMask ≠ 0 → st.ctl.ctrlReg = 0) :
    rxPass api 0 { st with ctl := relatch api p st.ctl } = rxPass api p st := by
  simp only [rxPass, fetchCtrl_relatch h]

theorem rxPass_next {len p' : Nat} {w : Option Wmsg} {st' : RxPump}
    (h : rxPass api p st = .next len w p' st') :
    w.isSome ∧ st'.ctl.frames.length + 1 = st.ctl.frames.length := by
  rw [rxPass_eq] at h
  simp only at h
  split_ifs at h
  split at h
  next w' hacc =>
    cases h
    cases hfr : st.ctl.frames with
    | nil => simp [hfr, rxAccepted, RxInput.readFailure] at hacc
    | cons f fs => simp [hfr]
  next => cases h

theorem rxPass_stop_frames {a : Option Nat} {st' : RxPump} (h : rxPass api p st = .stop a st') :
    st'.ctl.frames.length ≤ st.ctl.frames.length := by
  rw [rxPass_eq] at h
  simp only at h
  split_ifs at h
  · cases h; simp
  · split at h
    · cases h
    · cases h; simp

theorem fetchCtrl_chain {c : RxCtl} (h : ChainOk api p c) :
    (fetchCtrl api p c).1 &&& api.ctrlNextLenMask =
        (if p &&& api.ctrlNextLenMask ≠ 0 then p else c.ctrlReg) &&& api.ctrlNextLenMask ∧
      (fetchCtrl api p c).2.ctrlReg = 0 := by
  unfold fetchCtrl tryWaitForCompletion
  by_cases hp : p &&& api.ctrlNextLenMask = 0
  · by_cases hr : c.ready = 0
    · have h0 : c.ctrlReg = 0 := by by_contra hc; have := h.2 hc; omega
      simp [hp, hr, h0]
    · simp [hp, hr]
  · simp [hp, h.1 hp]

@[simp] theorem rxAccepted_readFailure (len : Nat) : rxAccepted api len .readFailure = none := by
  simp [rxAccepted, RxInput.readFailure]

theorem rxPass_ctrlReg (h : ChainOk api p st.ctl) : (rxPass api p st).st.ctl.ctrlReg = 0 := by
  have hf := (fetchCtrl_chain h).2
  rw [rxPass_eq]
  simp only
  split_ifs
  · exact hf
  · split <;> exact hf

theorem rxPass_of_clear (h : st.ctl.ctrlReg = 0) :
    rxPass api 0 st = .stop none { st with ctl := (fetchCtrl api 0 st.ctl).2 } ∧
      (fetchCtrl api 0 st.ctl).2.ctrlReg = 0 := by
  have hf : (fetchCtrl api 0 st.ctl).1 = 0 ∧ (fetchCtrl api 0 st.ctl).2.ctrlReg = 0 := by
    unfold fetchCtrl; split_ifs <;> simp_all
  rw [rxPass_eq]
  simp [hf.1, hf.2]

end Pass

def RxLoopOut.view (o : RxLoopOut) : Nat × List Nat × List Wmsg × Option Nat × RxCtl :=
  (o.count, o.lengths, o.accepted, o.bound, o.st.ctl)

def RxLoopOut.append (o₁ o₂ : RxLoopOut) : RxLoopOut :=
  ⟨o₁.count + o₂.count, o₁.lengths ++ o₂.lengths, o₁.accepted ++ o₂.accepted, o₂.bound, o₂.st⟩

section Loop

variable {api : Api}

theorem rxLoop_succ (k p : Nat) (st : RxPump) : rxLoop api (k + 1) p st =
    match rxPass api p st with
    | .stop a st' => ⟨0, a.toList, [], none, st'⟩
    | .next len w p' st' =>
      let rest := rxLoop api k p' st'
      ⟨rest.count + 1, len :: rest.lengths, w.toList ++ rest.accepted, rest.bound, rest.st⟩ := rfl

theorem rxLoop_view (k p : Nat) {st₁ st₂ : RxPump} (h : st₁.ctl = st₂.ctl) :
    (rxLoop api k p st₁).view = (rxLoop api k p st₂).view := by
  induction k generalizing p st₁ st₂ with
  | zero => simp [rxLoop, RxLoopOut.view, h]
  | succ k ih =>
    have hv : (rxPass api p st₁).view = (rxPass api p st₂).view := rxPass_view h
    rw [rxLoop_succ, rxLoop_succ]
    rcases h1 : rxPass api p st₁ with ⟨a₁, s₁⟩ | ⟨l₁, w₁, p₁, s₁⟩ <;>
      rcases h2 : rxPass api p st₂ with ⟨a₂, s₂⟩ | ⟨l₂, w₂, p₂, s₂⟩ <;>
      rw [h1, h2] at hv <;> simp only [RxPass.view, Sum.inl.injEq, Sum.inr.injEq, Prod.mk.injEq,
        reduceCtorEq] at hv
    · obtain ⟨rfl, hc⟩ := hv
      simp [RxLoopOut.view, hc]
    · obtain ⟨rfl, rfl, rfl, hc⟩ := hv
      have := ih p₁ hc
      simp only [RxLoopOut.view, Prod.mk.injEq] at this ⊢
      obtain ⟨e1, e2, e3, e4, e5⟩ := this
      simp [e1, e2, e3, e4, e5]

theorem rxLoop_budget (p : Nat) (st : RxPump) {k k' : Nat} (hk : st.ctl.frames.length < k)
    (hk' : st.ctl.frames.length < k') : rxLoop api k p st = rxLoop api k' p st := by
  induction k generalizing p st k' with
  | zero => omega
  | succ k ih =>
    obtain ⟨j, rfl⟩ : ∃ j, k' = j + 1 := ⟨k' - 1, by omega⟩
    rw [rxLoop_succ, rxLoop_succ]
    rcases h : rxPass api p st with ⟨a, s⟩ | ⟨l, w, p', s⟩
    · rfl
    · have := (rxPass_next h).2
      have e := ih p' s (show s.ctl.frames.length < k by omega)
        (show s.ctl.frames.length < j by omega)
      simp only [e]

/-- What one loop counts: at most its bound, one per dispatched frame, one chip answer each,
and the whole bound when it ends by it. -/
theorem rxLoop_count (k p : Nat) (st : RxPump) :
    (rxLoop api k p st).count ≤ k ∧
      (rxLoop api k p st).count = (rxLoop api k p st).accepted.length ∧
      (rxLoop api k p st).st.ctl.frames.length + (rxLoop api k p st).count ≤
        st.ctl.frames.length ∧
      ((rxLoop api k p st).bound.isSome → (rxLoop api k p st).count = k) := by
  induction k generalizing p st with
  | zero => simp [rxLoop]
  | succ k ih =>
    rw [rxLoop_succ]
    rcases h : rxPass api p st with ⟨a, s⟩ | ⟨l, w, p', s⟩
    · simp [rxPass_stop_frames h]
    · obtain ⟨hw, hf⟩ := rxPass_next h
      obtain ⟨w, rfl⟩ := Option.isSome_iff_exists.mp hw
      obtain ⟨i1, i2, i3, i4⟩ := ih p' s
      simp only [Option.toList_some, List.singleton_append, List.length_cons]
      exact ⟨by omega, by omega, by omega, fun hb => by simp [i4 hb]⟩

/-- A loop of `a + b` passes is a loop of `a` passes, then (if it ran them all) `b` more from
where it stopped. -/
theorem rxLoop_add (a b p : Nat) (st : RxPump) :
    rxLoop api (a + b) p st =
      match (rxLoop api a p st).bound with
      | none => rxLoop api a p st
      | some p' => (rxLoop api a p st).append (rxLoop api b p' (rxLoop api a p st).st) := by
  induction a generalizing p st with
  | zero => simp [rxLoop, RxLoopOut.append]
  | succ a ih =>
    rw [Nat.add_right_comm, rxLoop_succ, rxLoop_succ]
    rcases h : rxPass api p st with ⟨x, s⟩ | ⟨l, w, p', s⟩
    · rfl
    · simp only [ih p' s]
      rcases hb : (rxLoop api a p' s).bound with _ | q <;>
        simp [RxLoopOut.append, hb, Nat.add_right_comm]

theorem rxLoop_relatch (k p : Nat) {st : RxPump}
    (h : p &&& api.ctrlNextLenMask ≠ 0 → st.ctl.ctrlReg = 0) :
    rxLoop api (k + 1) 0 { st with ctl := relatch api p st.ctl } = rxLoop api (k + 1) p st := by
  rw [rxLoop_succ, rxLoop_succ, rxPass_relatch h]

/-- Under `ChainOk` every loop of at least one pass leaves `ctrl_reg` clear. -/
theorem rxLoop_ctrlReg (k p : Nat) (st : RxPump) (h : ChainOk api p st.ctl) :
    (rxLoop api (k + 1) p st).st.ctl.ctrlReg = 0 := by
  induction k generalizing p st with
  | zero =>
    have := rxPass_ctrlReg h
    rw [rxLoop_succ]
    rcases hp : rxPass api p st with ⟨a, s⟩ | ⟨l, w, p', s⟩ <;> rw [hp] at this <;> exact this
  | succ k ih =>
    have := rxPass_ctrlReg h
    rw [rxLoop_succ]
    rcases hp : rxPass api p st with ⟨a, s⟩ | ⟨l, w, p', s⟩ <;> rw [hp] at this
    · exact this
    · exact ih p' s ⟨fun _ => this, fun h' => absurd this h'⟩

theorem rxLoop_of_clear (k : Nat) {st : RxPump} (h : st.ctl.ctrlReg = 0) :
    (rxLoop api (k + 1) 0 st).lengths = [] ∧ (rxLoop api (k + 1) 0 st).accepted = [] ∧
      (rxLoop api (k + 1) 0 st).count = 0 ∧ (rxLoop api (k + 1) 0 st).bound = none ∧
      (rxLoop api (k + 1) 0 st).st.ctl.frames = st.ctl.frames ∧
      (rxLoop api (k + 1) 0 st).st.ctl.ctrlReg = 0 := by
  obtain ⟨hp, hc⟩ := @rxPass_of_clear api st h
  rw [rxLoop_succ, hp]
  simp [hc]

/-- A loop with more passes than the chip has answers reads the chain they announce from
the word it starts on, the piggyback word if it announces a length and else the latched
control word: each read takes the next answer, and the answers past the chain are left. -/
theorem rxLoop_chain (k p : Nat) (st : RxPump) (hk : st.ctl.frames.length < k)
    (h : ChainOk api p st.ctl) :
    let c := chainReads api (if p &&& api.ctrlNextLenMask ≠ 0 then p else st.ctl.ctrlReg)
      st.ctl.frames
    (rxLoop api k p st).lengths = c.map Prod.fst ∧
      (rxLoop api k p st).accepted = c.filterMap (fun r => rxAccepted api r.1 r.2) ∧
      (rxLoop api k p st).st.ctl.frames = st.ctl.frames.drop c.length := by
  induction k generalizing p st with
  | zero => omega
  | succ k ih =>
    obtain ⟨hw, hz⟩ := fetchCtrl_chain h
    have hfr := @fetchCtrl_frames api p st.ctl
    rw [rxLoop_succ, rxPass_eq]
    dsimp only
    generalize (if p &&& api.ctrlNextLenMask ≠ 0 then p else st.ctl.ctrlReg) = w at hw ⊢
    rw [hw]
    by_cases h0 : w &&& api.ctrlNextLenMask = 0
    · simp [h0, chainReads_of_not_announced h0, hfr]
    simp only [h0, if_false]
    rcases hfs : st.ctl.frames with _ | ⟨inp, fs⟩
    · simp [hfr, hfs, chainReads, h0]
    rcases hacc : rxAccepted api ((w &&& api.ctrlNextLenMask) * 2) inp with _ | wm
    · simp [hfr, hfs, hacc, chainReads, h0]
    simp only [hfr, hfs, List.headD_cons, hacc, List.tail_cons]
    have hc : chainReads api w (inp :: fs) =
        ((w &&& api.ctrlNextLenMask) * 2, inp) :: chainReads api inp.piggyback.toNat fs := by
      simp [chainReads, h0, hacc]
    obtain ⟨i1, i2, i3⟩ := ih inp.piggyback.toNat
      ⟨(rxHelper api st.hif ((w &&& api.ctrlNextLenMask) * 2) st.numCnf inp).hif,
        (rxHelper api st.hif ((w &&& api.ctrlNextLenMask) * 2) st.numCnf inp).isCnf,
        { (fetchCtrl api p st.ctl).2 with frames := fs }⟩
      (by simp only [hfs, List.length_cons] at hk; exact Nat.lt_of_succ_lt_succ hk)
      ⟨fun _ => hz, fun h' => absurd hz h'⟩
    have hpig : chainReads api (if inp.piggyback.toNat &&& api.ctrlNextLenMask ≠ 0 then
        inp.piggyback.toNat else (fetchCtrl api p st.ctl).2.ctrlReg) fs =
        chainReads api inp.piggyback.toNat fs := by
      rw [hz]
      split_ifs with hp
      · rfl
      · rw [chainReads_of_not_announced (not_not.mp hp), chainReads_of_not_announced (Nat.zero_and _)]
    dsimp only at i1 i2 i3
    rw [hpig] at i1 i2 i3
    rw [hc]
    exact ⟨by rw [i1]; rfl, by rw [i2]; simp [hacc], by rw [i3]; rfl⟩

end Loop

/-- The `for` loop of `bh_work_rx` under a bound it cannot reach: one pass more than the
chip has answers. -/
def unboundedRx (api : Api) (st : RxPump) : RxLoopOut :=
  rxLoop api (st.ctl.frames.length + 1) 0 st

section Batches

variable {api : Api}

@[simp] theorem relatch_frames (p : Nat) (c : RxCtl) : (relatch api p c).frames = c.frames := by
  unfold relatch; split_ifs <;> rfl

theorem relatch_pending (p : Nat) {c : RxCtl} (h : c.ctrlReg = 0) :
    (relatch api p c).ctrlReg ≠ 0 → 1 ≤ (relatch api p c).ready := by
  unfold relatch complete; split_ifs <;> simp [h]

theorem bhWorkRx_of_bound_none {k : Nat} {st : RxPump} (h : (rxLoop api k 0 st).bound = none) :
    bhWorkRx api k st = rxLoop api k 0 st := by
  simp only [bhWorkRx, h]

theorem bhWorkRx_of_bound_some {k p : Nat} {st : RxPump} (h : (rxLoop api k 0 st).bound = some p) :
    bhWorkRx api k st = { rxLoop api k 0 st with
      st := { (rxLoop api k 0 st).st with ctl := relatch api p (rxLoop api k 0 st).st.ctl } } := by
  simp only [bhWorkRx, h]

@[simp] theorem bhWorkRx_count (k : Nat) (st : RxPump) :
    (bhWorkRx api k st).count = (rxLoop api k 0 st).count := by
  rcases h : (rxLoop api k 0 st).bound with _ | p
  · rw [bhWorkRx_of_bound_none h]
  · rw [bhWorkRx_of_bound_some h]

@[simp] theorem bhWorkRx_accepted (k : Nat) (st : RxPump) :
    (bhWorkRx api k st).accepted = (rxLoop api k 0 st).accepted := by
  rcases h : (rxLoop api k 0 st).bound with _ | p
  · rw [bhWorkRx_of_bound_none h]
  · rw [bhWorkRx_of_bound_some h]

@[simp] theorem bhWorkRx_frames (k : Nat) (st : RxPump) :
    (bhWorkRx api k st).st.ctl.frames = (rxLoop api k 0 st).st.ctl.frames := by
  rcases h : (rxLoop api k 0 st).bound with _ | p
  · rw [bhWorkRx_of_bound_none h]
  · rw [bhWorkRx_of_bound_some h, relatch_frames]

theorem unboundedRx_bound (st : RxPump) : (unboundedRx api st).bound = none := by
  obtain ⟨_, _, _, hs⟩ := @rxLoop_count api (st.ctl.frames.length + 1) 0 st
  cases hu : (unboundedRx api st).bound
  · rfl
  · unfold unboundedRx at hu; simp only [hu, Option.isSome_some, forall_const] at hs; omega

theorem bhWorkRx_of_lt {k : Nat} {st : RxPump} (hk : st.ctl.frames.length < k) :
    bhWorkRx api k st = unboundedRx api st := by
  have e : rxLoop api k 0 st = unboundedRx api st := rxLoop_budget 0 st hk (by omega)
  rw [bhWorkRx_of_bound_none (e ▸ unboundedRx_bound st), e]

theorem unboundedRx_view {st₁ st₂ : RxPump} (h : st₁.ctl = st₂.ctl) :
    (unboundedRx api st₁).view = (unboundedRx api st₂).view := by
  unfold unboundedRx; rw [h]; exact rxLoop_view _ _ h

theorem unboundedRx_of_clear {st : RxPump} (h : st.ctl.ctrlReg = 0) :
    (unboundedRx api st).lengths = [] ∧ (unboundedRx api st).accepted = [] ∧
      (unboundedRx api st).st.ctl.frames = st.ctl.frames :=
  let ⟨h1, h2, _, _, h5, _⟩ := @rxLoop_of_clear api st.ctl.frames.length st h
  ⟨h1, h2, h5⟩

/-- One call of `bh_work_rx(wdev, 32, ...)` reads a prefix of what the unbounded loop
reads, and the next call reads on from there: the unbounded loop from the state it leaves.
The pending-completion condition is kept, and a call that ended by `return i` leaves
`ctrl_reg` clear. -/
theorem bhWorkRx_split (st : RxPump) (h : st.ctl.ctrlReg ≠ 0 → 1 ≤ st.ctl.ready) :
    let r := bhWorkRx api 32 st
    (unboundedRx api st).lengths = r.lengths ++ (unboundedRx api r.st).lengths ∧
      (unboundedRx api st).accepted = r.accepted ++ (unboundedRx api r.st).accepted ∧
      (unboundedRx api st).st.ctl.frames = (unboundedRx api r.st).st.ctl.frames ∧
      (r.st.ctl.ctrlReg ≠ 0 → 1 ≤ r.st.ctl.ready) ∧
      (r.count ≠ 32 → r.st.ctl.ctrlReg = 0) := by
  dsimp only
  have hreg : (rxLoop api 32 0 st).st.ctl.ctrlReg = 0 :=
    rxLoop_ctrlReg 31 0 st ⟨fun h0 => absurd (Nat.zero_and _) h0, h⟩
  obtain ⟨_, _, hfr, hbd⟩ := @rxLoop_count api 32 0 st
  have e : unboundedRx api st = rxLoop api (32 + (st.ctl.frames.length + 1)) 0 st :=
    rxLoop_budget 0 st (by omega) (by omega)
  rw [rxLoop_add] at e
  rcases hb : (rxLoop api 32 0 st).bound with _ | p
  · rw [hb] at e
    dsimp only at e
    obtain ⟨h1, h2, h3⟩ := @unboundedRx_of_clear api _ hreg
    rw [bhWorkRx_of_bound_none hb, e, h1, h2, h3]
    exact ⟨(List.append_nil _).symm, (List.append_nil _).symm, rfl, fun h' => absurd hreg h',
      fun _ => hreg⟩
  · rw [hb] at e
    dsimp only at e
    have hk : (rxLoop api 32 0 st).count = 32 := hbd (by simp [hb])
    have hr : unboundedRx api { (rxLoop api 32 0 st).st with
        ctl := relatch api p (rxLoop api 32 0 st).st.ctl } =
        rxLoop api (st.ctl.frames.length + 1) p (rxLoop api 32 0 st).st := by
      unfold unboundedRx
      rw [relatch_frames, rxLoop_relatch _ _ (fun _ => hreg)]
      exact rxLoop_budget p _ (by omega) (by omega)
    rw [bhWorkRx_of_bound_some hb, e]
    simp only [hr]
    exact ⟨rfl, rfl, rfl, relatch_pending p hreg, fun h' => absurd hk h'⟩

/-- `bh_work`'s loop from a state where a set `ctrl_reg` has a completion pending, with
more rounds than queued messages and chip answers together: it ends by its own condition,
and its `bh_work_rx` calls read, in order, what the unbounded loop reads. -/
theorem bhWorkLoop_reads (fuel : Nat) (st : RxPump) (q : List TxInput)
    (h : st.ctl.ctrlReg ≠ 0 → 1 ≤ st.ctl.ready) (hf : q.length + st.ctl.frames.length < fuel) :
    ∃ run, bhWorkLoop api fuel st q = some run ∧
      (run.rx.map RxLoopOut.lengths).flatten = (unboundedRx api st).lengths ∧
      (run.rx.map RxLoopOut.accepted).flatten = (unboundedRx api st).accepted ∧
      run.st.ctl.frames = (unboundedRx api st).st.ctl.frames ∧
      (∀ b ∈ run.rx, b.count = b.accepted.length ∧ b.count ≤ 32) ∧
      run.st.ctl.ctrlReg = 0 := by
  induction fuel generalizing st q with
  | zero => omega
  | succ fuel ih =>
    have hq := bhWorkTx_queue_length api 32 st.hif q
    have hv : (unboundedRx api { st with hif := (bhWorkTx api 32 st.hif q).hif }).view =
        (unboundedRx api st).view := unboundedRx_view rfl
    simp only [RxLoopOut.view, Prod.mk.injEq] at hv
    obtain ⟨-, hl, ha, -, hs⟩ := hv
    obtain ⟨e1, e2, e3, hc, hz⟩ :=
      @bhWorkRx_split api { st with hif := (bhWorkTx api 32 st.hif q).hif } h
    obtain ⟨c1, c2, c3, -⟩ :=
      @rxLoop_count api 32 0 { st with hif := (bhWorkTx api 32 st.hif q).hif }
    simp only [← bhWorkRx_count, ← bhWorkRx_accepted, ← bhWorkRx_frames] at c1 c2 c3
    simp only [bhWorkLoop]
    generalize bhWorkTx api 32 st.hif q = t at *
    generalize bhWorkRx api 32 { st with hif := t.hif } = r at *
    split_ifs with hg
    · obtain ⟨rest, hrest, i1, i2, i3, i4, i5⟩ := ih r.st t.queue hc (by omega)
      rw [hrest]
      refine ⟨_, rfl, ?_, ?_, ?_, ?_, i5⟩
      · rw [List.map_cons, List.flatten_cons, i1, ← e1, hl]
      · rw [List.map_cons, List.flatten_cons, i2, ← e2, ha]
      · rw [i3, ← e3, hs]
      · rintro b (_ | ⟨_, hb⟩)
        · exact ⟨c2, c1⟩
        · exact i4 b hb
    · simp only [not_or, not_not] at hg
      obtain ⟨u1, u2, u3⟩ := unboundedRx_of_clear (hz (by omega))
      refine ⟨_, rfl, ?_, ?_, ?_, ?_, hz (by omega)⟩
      · rw [List.map_singleton, List.flatten_singleton, ← hl, e1, u1, List.append_nil]
      · rw [List.map_singleton, List.flatten_singleton, ← ha, e2, u2, List.append_nil]
      · rw [← hs, e3, u3]
      · rintro b (_ | ⟨_, hb⟩)
        · exact ⟨c2, c1⟩
        · cases hb

end Batches

/-- Splitting receive work into batches of 32 does not change what is read. From a state
where a set `ctrl_reg` has a completion pending, with no interrupt during the run and more
rounds than queued messages and chip answers, `bh_work`'s loop ends by its own condition.
The lengths its `bh_work_rx` calls read and the frames they dispatch, in order, are those
of one `bh_work_rx` whose `max_msg` exceeds the chip's answers, which ends by `return i`.
Both are the chain the chip announces: the latched control word, then the piggyback word of
each frame accepted, each read taking the next of the chip's answers, so that no answer is
skipped or read twice and the answers past the chain are left. Each call returns the
number of frames it dispatched, at most 32, and `ctrl_reg` ends clear. -/
theorem bhWork_reads_like_unbounded_rx (api : Api) (st : RxPump) (q : List TxInput)
    (fuel maxMsg : Nat) (hc : st.ctl.ctrlReg ≠ 0 → 1 ≤ st.ctl.ready)
    (hf : q.length + st.ctl.frames.length < fuel) (hm : st.ctl.frames.length < maxMsg) :
    let chain := chainReads api st.ctl.ctrlReg st.ctl.frames
    ∃ run, bhWorkLoop api fuel st q = some run ∧
      (run.rx.map RxLoopOut.lengths).flatten = (bhWorkRx api maxMsg st).lengths ∧
      (run.rx.map RxLoopOut.accepted).flatten = (bhWorkRx api maxMsg st).accepted ∧
      (bhWorkRx api maxMsg st).bound = none ∧
      run.st.ctl.frames = (bhWorkRx api maxMsg st).st.ctl.frames ∧
      (run.rx.map RxLoopOut.lengths).flatten = chain.map Prod.fst ∧
      (run.rx.map RxLoopOut.accepted).flatten = chain.filterMap (fun r => rxAccepted api r.1 r.2) ∧
      chain.map Prod.snd <+: st.ctl.frames ++ [RxInput.readFailure] ∧
      run.st.ctl.frames = st.ctl.frames.drop chain.length ∧
      (∀ b ∈ run.rx, b.count = b.accepted.length ∧ b.count ≤ 32) ∧
      run.st.ctl.ctrlReg = 0 := by
  obtain ⟨c1, c2, c3⟩ := rxLoop_chain (st.ctl.frames.length + 1) 0 st (Nat.lt_succ_self _)
    ⟨fun h0 => absurd (Nat.zero_and _) h0, hc⟩
  simp only [Nat.zero_and, ne_eq, not_true_eq_false, if_false] at c1 c2 c3
  rw [bhWorkRx_of_lt hm]
  obtain ⟨run, hrun, h1, h2, h3, h4, h5⟩ := bhWorkLoop_reads fuel st q hc hf
  exact ⟨run, hrun, h1, h2, unboundedRx_bound st, h3, h1.trans c1, h2.trans c2,
    chainReads_prefix api _ _, h3.trans c3, h4, h5⟩

def chainInput (n : Nat) (piggyback : UInt16) : RxInput :=
  ⟨true, true, ⟨4, 0x80, n, 0, 0⟩, piggyback, none⟩

/-- A chip with 33 four-byte frames chained back to back behind a latched control word that
announces the first: more than one batch of 32, so the last frame is read through the
re-latched `ctrl_reg`. -/
def chainPump : RxPump :=
  ⟨Hif.init, 0, ⟨2, 1, (List.range 33).map fun n => chainInput n (if n < 32 then 2 else 0)⟩⟩

theorem bhWork_reads_chainPump :
    let chain := chainReads Api.sample chainPump.ctl.ctrlReg chainPump.ctl.frames
    ∃ run, bhWorkLoop Api.sample 34 chainPump [] = some run ∧
      (run.rx.map RxLoopOut.lengths).flatten = (bhWorkRx Api.sample 34 chainPump).lengths ∧
      (run.rx.map RxLoopOut.accepted).flatten = (bhWorkRx Api.sample 34 chainPump).accepted ∧
      (bhWorkRx Api.sample 34 chainPump).bound = none ∧
      run.st.ctl.frames = (bhWorkRx Api.sample 34 chainPump).st.ctl.frames ∧
      (run.rx.map RxLoopOut.lengths).flatten = chain.map Prod.fst ∧
      (run.rx.map RxLoopOut.accepted).flatten =
        chain.filterMap (fun r => rxAccepted Api.sample r.1 r.2) ∧
      chain.map Prod.snd <+: chainPump.ctl.frames ++ [RxInput.readFailure] ∧
      run.st.ctl.frames = chainPump.ctl.frames.drop chain.length ∧
      (∀ b ∈ run.rx, b.count = b.accepted.length ∧ b.count ≤ 32) ∧
      run.st.ctl.ctrlReg = 0 :=
  bhWork_reads_like_unbounded_rx Api.sample chainPump [] 34 34 (by decide) (by decide)
    (by decide)

end WfxDriver
