import WfxDriver.RxHelper

/-!
# Receive sequence tracking

`rx_helper` checks the number of every frame it accepts, except the exception and error
indications: a number other than `rx_seqnum` is reported as "wrong message sequence", and
either way `rx_seqnum` becomes the frame's number plus one, modulo `WMSG_COUNTER_MAX + 1`.
A rejected frame touches neither.

Over every sequence of calls `rx_seqnum` stays at most `WMSG_COUNTER_MAX`
(`rxHelperRun_rxSeqnum_le`). Against a chip that numbers its checked frames consecutively
from the host's `rx_seqnum`, and whose frames reach `wsm_handle_rx` unaltered or not at all,
the warning marks exactly the accepted checked frames before which the checked frames lost
since the previous accepted one, rejected by `rx_helper` or never read, are not a multiple
of `WMSG_COUNTER_MAX + 1` (`rxHelperRun_wrongSequence`).
-/

namespace WfxDriver

/-- The exception and error indications, whose number `rx_helper` does not check. -/
def Wmsg.exempt (api : Api) (w : Wmsg) : Bool :=
  w.id == api.hiExceptionIndId || w.id == api.hiErrorIndId

def RxEvent.isWrongSequence : RxEvent → Bool
  | .wrongSequence _ _ => true
  | _ => false

def RxResult.wrongSequence (r : RxResult) : Bool := r.events.any RxEvent.isWrongSequence

/-- `rx_helper` on each `(read_len, input)` in turn, the host state and `*is_cnf` carried
from one call to the next as `bh_work_rx` carries them: the result of every call. -/
def rxHelperRun (api : Api) : Hif → Nat → List (Nat × RxInput) → List RxResult
  | _, _, [] => []
  | hif, isCnf, (readLen, inp) :: calls =>
    let r := rxHelper api hif readLen isCnf inp
    r :: rxHelperRun api r.hif r.isCnf calls

/-! ## One call -/

section Call

variable {api : Api} {hif : Hif} {readLen isCnf : Nat} {inp : RxInput} {w : Wmsg}

theorem trackSeqnum_eq : trackSeqnum api hif w =
    if w.exempt api then (hif, [])
    else ({ hif with rxSeqnum := (w.seqnum + 1) % (api.wmsgCounterMax + 1) },
      if w.seqnum ≠ hif.rxSeqnum then [.wrongSequence w.seqnum hif.rxSeqnum] else []) := by
  unfold trackSeqnum Wmsg.exempt
  by_cases h₁ : w.id = api.hiExceptionIndId <;> by_cases h₂ : w.id = api.hiErrorIndId <;>
    simp [h₁, h₂]

@[simp] theorem any_ite_isWrongSequence (c : Prop) [Decidable c] (e : RxEvent) :
    (if c then [e] else []).any RxEvent.isWrongSequence = (decide c && e.isWrongSequence) := by
  split <;> simp [*]

@[simp] theorem releaseBuffers_rxSeqnum :
    (releaseBuffers api hif isCnf w).1.rxSeqnum = hif.rxSeqnum := by
  unfold releaseBuffers; cases w.isIndication api <;> rfl

@[simp] theorem releaseBuffers_wrongSequence :
    ((releaseBuffers api hif isCnf w).2.2.any RxEvent.isWrongSequence) = false := by
  unfold releaseBuffers; dsimp only; split_ifs <;> rfl

/-- What one call does to `rx_seqnum`: an accepted checked frame sets it to the number after
its own, an exempt or rejected frame leaves it. -/
theorem rxHelper_rxSeqnum : (rxHelper api hif readLen isCnf inp).hif.rxSeqnum =
    match rxAccepted api readLen inp with
    | some w => if w.exempt api then hif.rxSeqnum else (w.seqnum + 1) % (api.wmsgCounterMax + 1)
    | none => hif.rxSeqnum := by
  rw [rxHelper_hif]
  cases rxAccepted api readLen inp with
  | none => rfl
  | some w =>
    simp only [acceptFrame, releaseBuffers_rxSeqnum, trackSeqnum_eq]
    split_ifs <;> rfl

/-- One call warns exactly on an accepted checked frame whose number is not `rx_seqnum`. -/
theorem rxHelper_wrongSequence : (rxHelper api hif readLen isCnf inp).wrongSequence =
    match rxAccepted api readLen inp with
    | some w => !w.exempt api && w.seqnum != hif.rxSeqnum
    | none => false := by
  unfold rxHelper rxAccepted RxResult.wrongSequence
  cases inp.skbOk <;> cases inp.readOk <;>
    simp only [Bool.not_false, Bool.not_true, if_true, if_false, Bool.false_eq_true,
      and_false, false_and, and_self, List.any_append, any_ite_isWrongSequence,
      RxEvent.isWrongSequence, Bool.and_false, Bool.false_or]
  rcases decodeFrame api inp with _ | ⟨w, n⟩
  · simp only [List.any_append, any_ite_isWrongSequence, RxEvent.isWrongSequence,
      Bool.and_false, Bool.false_or]
  · by_cases hn : n = readLen
    · simp only [hn, ne_eq, not_true_eq_false, if_false, if_true, List.any_append,
        releaseBuffers_wrongSequence, trackSeqnum_eq, any_ite_isWrongSequence,
        RxEvent.isWrongSequence, Bool.and_false, Bool.or_false, Bool.false_or]
      cases w.exempt api
      · simp only [Bool.false_eq_true, if_false, Bool.not_false, Bool.true_and]
        split_ifs with h <;> simp [h, RxEvent.isWrongSequence]
      · rfl
    · simp only [hn, ne_eq, not_false_eq_true, if_true, if_false, List.any_append,
        any_ite_isWrongSequence, RxEvent.isWrongSequence, Bool.and_false, Bool.or_false,
        Bool.false_or, List.any_cons, List.any_nil]

theorem rxHelper_rxSeqnum_le (h : hif.rxSeqnum ≤ api.wmsgCounterMax) :
    (rxHelper api hif readLen isCnf inp).hif.rxSeqnum ≤ api.wmsgCounterMax := by
  rw [rxHelper_rxSeqnum]
  split
  · split_ifs
    · exact h
    · exact Nat.le_of_lt_succ (Nat.mod_lt _ (Nat.succ_pos _))
  · exact h

end Call

theorem rxHelperRun_rxSeqnum_le {api : Api} {hif : Hif} {isCnf : Nat}
    {calls : List (Nat × RxInput)} (h : hif.rxSeqnum ≤ api.wmsgCounterMax) :
    ∀ r ∈ rxHelperRun api hif isCnf calls, r.hif.rxSeqnum ≤ api.wmsgCounterMax := by
  induction calls generalizing hif isCnf with
  | nil => simp [rxHelperRun]
  | cons c calls ih =>
    obtain ⟨readLen, inp⟩ := c
    have h' : (rxHelper api hif readLen isCnf inp).hif.rxSeqnum ≤ api.wmsgCounterMax :=
      rxHelper_rxSeqnum_le h
    intro r hr
    rcases List.mem_cons.mp hr with rfl | hr
    · exact h'
    · exact ih h' r hr

/-! ## Against the chip's numbering -/

/-- A frame the chip sent, and the call of `rx_helper` that read it, if the host read it. -/
structure ChipFrame where
  sent : Wmsg
  call : Option (Nat × RxInput)
  deriving DecidableEq, Repr

/-- The frame reaches `wsm_handle_rx` unaltered or not at all: neither the bus nor
`wfx_sl_decode` turns it into another frame `rx_helper` accepts. -/
def ChipFrame.delivered (api : Api) (f : ChipFrame) : Bool :=
  match f.call with
  | some (readLen, inp) => (rxAccepted api readLen inp).all (· == f.sent)
  | none => true

def ChipFrame.accepted (api : Api) (f : ChipFrame) : Bool :=
  match f.call with
  | some (readLen, inp) => (rxAccepted api readLen inp).isSome
  | none => false

/-- The chip numbers its checked frames consecutively modulo `WMSG_COUNTER_MAX + 1`, the
first one `n`. -/
def chipNumbers (api : Api) : Nat → List Wmsg → Bool
  | _, [] => true
  | n, w :: ws =>
    if w.exempt api then chipNumbers api n ws
    else w.seqnum == n % (api.wmsgCounterMax + 1) && chipNumbers api (n + 1) ws

/-- The law the warnings should follow, one entry per frame the host read: warn on an
accepted checked frame exactly when the checked frames lost since the previous accepted
one, `lost` of them, are not a multiple of `WMSG_COUNTER_MAX + 1`. A checked frame is lost
when `rx_helper` rejects it or the host never reads it. -/
def lossWarnings (api : Api) : Nat → List ChipFrame → List Bool
  | _, [] => []
  | lost, f :: fs =>
    let rest := lossWarnings api
      (if f.sent.exempt api then lost else if f.accepted api then 0 else lost + 1) fs
    if f.call.isSome then
      (!f.sent.exempt api && f.accepted api && lost % (api.wmsgCounterMax + 1) != 0) :: rest
    else rest

section Law

variable {api : Api}

/-- The number `rx_helper` expects misses the chip's exactly when the frames lost in
between are not a multiple of `WMSG_COUNTER_MAX + 1`. -/
theorem mod_ne_iff_lost {r lost n : Nat} (hr : r ≤ api.wmsgCounterMax)
    (h : (r + lost) % (api.wmsgCounterMax + 1) = n % (api.wmsgCounterMax + 1)) :
    (n % (api.wmsgCounterMax + 1) ≠ r) ↔ lost % (api.wmsgCounterMax + 1) ≠ 0 := by
  have hr' : r % (api.wmsgCounterMax + 1) = r := Nat.mod_eq_of_lt (Nat.lt_succ_of_le hr)
  rw [← h, not_iff_not]
  constructor
  · intro he
    have : (r + lost) % (api.wmsgCounterMax + 1) = (r + 0) % (api.wmsgCounterMax + 1) := by
      rw [he, Nat.add_zero, hr']
    exact Nat.ModEq.add_left_cancel' r this
  · intro hl
    rw [Nat.add_mod, hl, Nat.add_zero, hr', hr']

theorem chipNumbers_cons {n : Nat} {w : Wmsg} {ws : List Wmsg}
    (h : chipNumbers api n (w :: ws) = true) :
    (w.exempt api = false → w.seqnum = n % (api.wmsgCounterMax + 1)) ∧
      chipNumbers api (if w.exempt api then n else n + 1) ws = true := by
  unfold chipNumbers at h
  cases he : w.exempt api <;>
    simp only [he, if_true, if_false, Bool.false_eq_true, Bool.true_eq_false, Bool.and_eq_true,
      beq_iff_eq, true_implies, false_implies, true_and] at h ⊢ <;>
    exact h

/-- An exempt frame keeps the link between `rx_seqnum`, the checked frames lost since the
last accepted one and the chip's counter; so does a lost checked frame, counted once more. -/
theorem lost_link {r lost n : Nat}
    (hl : (r + lost) % (api.wmsgCounterMax + 1) = n % (api.wmsgCounterMax + 1)) (e : Bool) :
    (r + if e then lost else lost + 1) % (api.wmsgCounterMax + 1) =
      (if e then n else n + 1) % (api.wmsgCounterMax + 1) := by
  cases e
  · rw [if_neg Bool.false_ne_true, if_neg Bool.false_ne_true, ← Nat.add_assoc]
    exact Nat.ModEq.add_right 1 hl
  · exact hl

/-- One frame the host reads: the call warns as the law says, and the link passes on. -/
theorem rxHelper_step {hif : Hif} {readLen isCnf lost n : Nat} {inp : RxInput} {w : Wmsg}
    (hr : hif.rxSeqnum ≤ api.wmsgCounterMax)
    (hl : (hif.rxSeqnum + lost) % (api.wmsgCounterMax + 1) = n % (api.wmsgCounterMax + 1))
    (hd : (rxAccepted api readLen inp).all (· == w) = true)
    (hw : w.exempt api = false → w.seqnum = n % (api.wmsgCounterMax + 1)) :
    (rxHelper api hif readLen isCnf inp).wrongSequence =
        (!w.exempt api && (rxAccepted api readLen inp).isSome &&
          lost % (api.wmsgCounterMax + 1) != 0) ∧
      ((rxHelper api hif readLen isCnf inp).hif.rxSeqnum +
          if w.exempt api then lost
          else if (rxAccepted api readLen inp).isSome then 0 else lost + 1) %
        (api.wmsgCounterMax + 1) =
        (if w.exempt api then n else n + 1) % (api.wmsgCounterMax + 1) := by
  rw [rxHelper_wrongSequence, rxHelper_rxSeqnum]
  rcases (rxAccepted api readLen inp).eq_none_or_eq_some with hacc | ⟨w', hacc⟩
  · simp only [hacc, Option.isSome_none, Bool.false_eq_true, if_false, Bool.and_false,
      Bool.false_and]
    exact ⟨trivial, lost_link hl _⟩
  · obtain rfl : w' = w := by
      simpa only [hacc, Option.all_some, beq_iff_eq] using hd
    simp only [hacc, Option.isSome_some, if_true, Bool.and_true]
    cases he : w'.exempt api
    case true => exact ⟨rfl, hl⟩
    case false =>
      simp only [Bool.false_eq_true, if_false, Bool.not_false, Bool.true_and]
      refine ⟨?_, ?_⟩
      · rw [Bool.eq_iff_iff, bne_iff_ne, bne_iff_ne, hw he]
        exact mod_ne_iff_lost hr hl
      · rw [hw he, Nat.add_zero, Nat.mod_mod, Nat.mod_add_mod]

/-- From a host whose `rx_seqnum`, advanced by the `lost` checked frames lost since the last
accepted one, is the chip's counter `n`, the warnings follow the law. -/
theorem rxHelperRun_wrongSequence {hif : Hif} {isCnf lost n : Nat} {fs : List ChipFrame}
    (hr : hif.rxSeqnum ≤ api.wmsgCounterMax)
    (hl : (hif.rxSeqnum + lost) % (api.wmsgCounterMax + 1) = n % (api.wmsgCounterMax + 1))
    (hd : ∀ f ∈ fs, f.delivered api = true)
    (hn : chipNumbers api n (fs.map ChipFrame.sent) = true) :
    (rxHelperRun api hif isCnf (fs.filterMap ChipFrame.call)).map RxResult.wrongSequence =
      lossWarnings api lost fs := by
  induction fs generalizing hif isCnf lost n with
  | nil => rfl
  | cons f fs ih =>
    obtain ⟨w, call⟩ := f
    have hd' : ∀ f ∈ fs, f.delivered api = true := fun f hf => hd f (List.mem_cons_of_mem _ hf)
    obtain ⟨hw, hn'⟩ := chipNumbers_cons hn
    cases call with
    | none =>
      simp only [List.filterMap_cons_none, lossWarnings, ChipFrame.accepted, Option.isSome_none,
        if_false, Bool.false_eq_true]
      exact ih hr (lost_link hl _) hd' hn'
    | some c =>
      obtain ⟨readLen, inp⟩ := c
      obtain ⟨hwarn, hlink⟩ :=
        @rxHelper_step api hif readLen isCnf lost n inp w hr hl (hd _ (List.mem_cons_self _ _)) hw
      simp only [List.filterMap_cons_some, rxHelperRun, List.map_cons, lossWarnings,
        ChipFrame.accepted, Option.isSome_some, if_true]
      exact congrArg₂ (· :: ·) hwarn (ih (rxHelper_rxSeqnum_le hr) hlink hd' hn')

end Law

/-- Receive sequence tracking flags exactly the detectable losses. Over every sequence of
`rx_helper` calls `rx_seqnum` stays at most `WMSG_COUNTER_MAX`; a call sets it to the number
after an accepted checked frame's own and leaves it on an exempt or rejected frame. Against
a chip that numbers its checked frames consecutively from the host's `rx_seqnum`, and whose
frames are accepted unaltered or lost, "wrong message sequence" is printed for exactly the
accepted checked frames before which the checked frames lost since the previous accepted
one are not a multiple of `WMSG_COUNTER_MAX + 1`; exempt and rejected frames never warn. -/
theorem rx_sequence_flags_detectable_losses (api : Api) :
    (∀ hif isCnf calls, hif.rxSeqnum ≤ api.wmsgCounterMax →
      ∀ r ∈ rxHelperRun api hif isCnf calls, r.hif.rxSeqnum ≤ api.wmsgCounterMax) ∧
    (∀ hif readLen isCnf inp, (rxHelper api hif readLen isCnf inp).hif.rxSeqnum =
      match rxAccepted api readLen inp with
      | some w => if w.exempt api then hif.rxSeqnum else (w.seqnum + 1) % (api.wmsgCounterMax + 1)
      | none => hif.rxSeqnum) ∧
    (∀ hif isCnf (fs : List ChipFrame), hif.rxSeqnum ≤ api.wmsgCounterMax →
      (∀ f ∈ fs, f.delivered api = true) →
      chipNumbers api hif.rxSeqnum (fs.map ChipFrame.sent) = true →
      (rxHelperRun api hif isCnf (fs.filterMap ChipFrame.call)).map RxResult.wrongSequence =
        lossWarnings api 0 fs) :=
  ⟨fun _ _ _ h => rxHelperRun_rxSeqnum_le h, fun _ _ _ _ => rxHelper_rxSeqnum,
    fun _ _ _ hr hd hn => rxHelperRun_wrongSequence hr (by rw [Nat.add_zero]) hd hn⟩

def numberedFrame (seqnum : Nat) : Wmsg := ⟨4, 0x84, seqnum, 0, 0⟩

def exceptionFrame : Wmsg := ⟨4, 0xE0, 5, 0, 0⟩

def readCall (w : Wmsg) : Nat × RxInput := (4, ⟨true, true, w, 0, none⟩)

/-- Checked frames 0 and 2 read, frame 1 never read, an exception indication in between. -/
def lossyRun : List ChipFrame :=
  [⟨numberedFrame 0, some (readCall (numberedFrame 0))⟩, ⟨numberedFrame 1, none⟩,
    ⟨exceptionFrame, some (readCall exceptionFrame)⟩,
    ⟨numberedFrame 2, some (readCall (numberedFrame 2))⟩]

/-- One checked frame lost: the host warns at the next checked frame, not at the exception
indication. -/
theorem lossyRun_warns_after_loss :
    (rxHelperRun Api.sample Hif.init 0 (lossyRun.filterMap ChipFrame.call)).map
      RxResult.wrongSequence = [false, false, true] :=
  ((rx_sequence_flags_detectable_losses Api.sample).2.2 Hif.init 0 lossyRun (by decide)
    (by decide) (by decide)).trans (by decide)

end WfxDriver
