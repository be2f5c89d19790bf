import WfxDriver.TxHelper

/-!
# Credit flow between the host and the chip

The host counts in `tx_buffers_used` the chip input buffers its messages occupy: one more
for every message `tx_helper` writes, `release_count` fewer for every confirmation
`rx_helper` accepts. The chip holds one buffer per written message and frees buffers only
by confirmations. Over every interleaving of the two, the counter is the buffers held
plus those freed by confirmations the host has not accepted (`credit_flow_agrees`).
Against a chip that confirms what it never held, the counter leaves its range: the code
warns and subtracts anyway.
-/

namespace WfxDriver

/-- One host step: a `tx_helper` call of `bh_work_tx`, or an `rx_helper` call of
`bh_work_rx`. -/
inductive HostEvent
  | tx (inp : TxInput)
  | rx (readLen : Nat) (inp : RxInput)

/-- The host's state after one step. `bh_work_tx` only calls `tx_helper` while the credit
gate `tx_buffers_used < NumInpChBufs` is open. -/
def hostStep (api : Api) (hif : Hif) : HostEvent → Hif
  | .tx inp => if hif.txBuffersUsed < api.numInpChBufs.toNat then (txHelper api hif inp).hif else hif
  | .rx readLen inp => (rxHelper api hif readLen 0 inp).hif

def hostRun (api : Api) : Hif → List HostEvent → Hif := List.foldl (hostStep api)

/-- Buffers a frame frees on the chip: `NumTxConfs` for a multi-transmit confirmation,
one for any other confirmation, none for an indication. -/
def Wmsg.freed (api : Api) (w : Wmsg) : Nat :=
  if w.isIndication api then 0 else if w.id = api.multiTransmitCnfId then w.numTxConfs.toNat else 1

/-- The chip side: input buffers held, and frames sent that the host has not accepted. -/
structure Chip where
  held : Nat
  outbox : List Wmsg

structure Link where
  hif : Hif
  chip : Chip

def Link.init : Link := ⟨Hif.init, ⟨0, []⟩⟩

/-- A step of the chip or of the host. The chip sends a frame; a confirmation frees the
buffers it acknowledges. -/
inductive LinkEvent
  | chipSends (w : Wmsg)
  | host (e : HostEvent)

/-- The joint step. The chip never frees more buffers than it holds; a message on the bus
takes a chip buffer; a frame the host accepts is one the chip sent. -/
def linkStep (api : Api) (l : Link) : LinkEvent → Link
  | .chipSends w =>
    if w.freed api ≤ l.chip.held then ⟨l.hif, ⟨l.chip.held - w.freed api, w :: l.chip.outbox⟩⟩
    else l
  | .host (.tx inp) =>
    if l.hif.txBuffersUsed < api.numInpChBufs.toNat then
      ⟨hostStep api l.hif (.tx inp), ⟨l.chip.held + if inp.sent then 1 else 0, l.chip.outbox⟩⟩
    else l
  | .host (.rx readLen inp) =>
    match rxAccepted api readLen inp with
    | none => ⟨hostStep api l.hif (.rx readLen inp), l.chip⟩
    | some w =>
      if w ∈ l.chip.outbox then
        ⟨hostStep api l.hif (.rx readLen inp), ⟨l.chip.held, l.chip.outbox.erase w⟩⟩
      else l

def linkRun (api : Api) : Link → List LinkEvent → Link := List.foldl (linkStep api)

/-- The credit accounting: buffers in use on the host are those the chip holds plus those
freed by confirmations not yet accepted, and the gate bound holds. -/
def CreditAgrees (api : Api) (l : Link) : Prop :=
  l.hif.txBuffersUsed = ((l.chip.held + (l.chip.outbox.map (Wmsg.freed api)).sum : Nat) : Int) ∧
    l.hif.txBuffersUsed ≤ api.numInpChBufs.toNat

section Invariant

variable {api : Api}

theorem sum_erase_add (api : Api) {w : Wmsg} {ws : List Wmsg} (h : w ∈ ws) :
    ((ws.erase w).map (Wmsg.freed api)).sum + w.freed api = (ws.map (Wmsg.freed api)).sum := by
  rw [((List.perm_cons_erase h).map _).sum_eq, List.map_cons, List.sum_cons, Nat.add_comm]

theorem releaseCount_eq_freed {w : Wmsg} (hw : w.isIndication api = false)
    (hlt : w.freed api < 2 ^ 31) : releaseCount api w = w.freed api := by
  unfold releaseCount Wmsg.freed at *
  simp only [hw, Bool.false_eq_true, if_false] at hlt ⊢
  split_ifs at hlt ⊢
  · exact int32OfUInt32_of_lt hlt
  · rfl

theorem creditAgrees_step {l : Link} (h : CreditAgrees api l) (e : LinkEvent) :
    CreditAgrees api (linkStep api l e) := by
  obtain ⟨hu, hcap⟩ := h
  have hcap16 : api.numInpChBufs.toNat < 65536 := api.numInpChBufs.toNat_lt_size
  cases e with
  | chipSends w =>
    simp only [linkStep]
    split_ifs with hle
    · refine ⟨?_, hcap⟩
      simp only [hu, List.map_cons, List.sum_cons]
      omega
    · exact ⟨hu, hcap⟩
  | host e =>
    cases e with
    | tx inp =>
      by_cases hg : l.hif.txBuffersUsed < api.numInpChBufs.toNat
      · have hu' : (hostStep api l.hif (.tx inp)).txBuffersUsed =
            l.hif.txBuffersUsed + if inp.sent then 1 else 0 := by
          simp [hostStep, hg]
        simp only [linkStep, if_pos hg, CreditAgrees, hu']
        cases inp.sent <;> simp only [Bool.false_eq_true, if_true, if_false] <;> omega
      · simpa only [linkStep, if_neg hg] using ⟨hu, hcap⟩
    | rx readLen inp =>
      rcases hacc : rxAccepted api readLen inp with _ | w
      · simpa only [linkStep, hostStep, rxHelper_hif, hacc] using ⟨hu, hcap⟩
      · by_cases hmem : w ∈ l.chip.outbox
        · have hs := sum_erase_add api hmem
          simp only [linkStep, hostStep, rxHelper_hif, hacc, if_pos hmem, CreditAgrees,
            acceptFrame_txBuffersUsed]
          cases hw : w.isIndication api
          · rw [if_neg (by simp), releaseCount_eq_freed hw (by omega)]
            constructor <;> omega
          · have : w.freed api = 0 := by simp [Wmsg.freed, hw]
            simp only [if_true]
            constructor <;> omega
        · simpa only [linkStep, hacc, if_neg hmem] using ⟨hu, hcap⟩

theorem creditAgrees_run {l : Link} (h : CreditAgrees api l) (es : List LinkEvent) :
    CreditAgrees api (linkRun api l es) := by
  induction es generalizing l with
  | nil => exact h
  | cons e es ih => exact ih (creditAgrees_step h e)

/-- Credit flow agrees with the chip: over every interleaving of chip frames and host
`tx_helper`/`rx_helper` calls, with any failures of allocation, encryption, bus I/O,
decryption or framing, `tx_buffers_used` is the chip's occupied buffers plus those freed
by confirmations not (yet) accepted. Hence it is never negative, and whenever the credit
gate lets the host write, the chip has a free input buffer. -/
theorem credit_flow_agrees (api : Api) (es : List LinkEvent) :
    let l := linkRun api Link.init es
    l.hif.txBuffersUsed = ((l.chip.held + (l.chip.outbox.map (Wmsg.freed api)).sum : Nat) : Int) ∧
      0 ≤ l.hif.txBuffersUsed ∧
      (l.hif.txBuffersUsed < api.numInpChBufs.toNat → l.chip.held < api.numInpChBufs.toNat) := by
  obtain ⟨hu, -⟩ : CreditAgrees api (linkRun api Link.init es) :=
    creditAgrees_run ⟨rfl, by show (0 : Int) ≤ _; omega⟩ es
  refine ⟨hu, by omega, fun hg => by omega⟩

end Invariant

section Range

variable {api : Api}

/-- On an accepted confirmation, `0 ≤ release_count ≤ tx_buffers_used`: the "corrupted
buffer counter" WARN stays silent and `NumTxConfs` does not read as a negative `int`. -/
def ReleaseFits (api : Api) (hif : Hif) : HostEvent → Prop
  | .tx _ => True
  | .rx readLen inp => ∀ w, rxAccepted api readLen inp = some w → w.isIndication api = false →
      0 ≤ releaseCount api w ∧ releaseCount api w ≤ hif.txBuffersUsed

def RunFits (api : Api) : Hif → List HostEvent → Prop
  | _, [] => True
  | hif, e :: es => ReleaseFits api hif e ∧ RunFits api (hostStep api hif e) es

theorem hostStep_in_range {hif : Hif} {e : HostEvent} (hf : ReleaseFits api hif e)
    (h : 0 ≤ hif.txBuffersUsed ∧ hif.txBuffersUsed ≤ api.numInpChBufs.toNat) :
    0 ≤ (hostStep api hif e).txBuffersUsed ∧
      (hostStep api hif e).txBuffersUsed ≤ api.numInpChBufs.toNat := by
  cases e with
  | tx inp =>
    by_cases hg : hif.txBuffersUsed < api.numInpChBufs.toNat
    · simp only [hostStep, if_pos hg, txHelper_txBuffersUsed]
      split_ifs <;> omega
    · simpa only [hostStep, if_neg hg] using h
  | rx readLen inp =>
    simp only [hostStep, rxHelper_hif]
    rcases hacc : rxAccepted api readLen inp with _ | w
    · exact h
    · simp only [acceptFrame_txBuffersUsed]
      cases hw : w.isIndication api
      · have := hf w hacc hw
        simp only [Bool.false_eq_true, if_false]
        omega
      · simpa using h

theorem hostRun_in_range {hif : Hif} {es : List HostEvent} (hf : RunFits api hif es)
    (h : 0 ≤ hif.txBuffersUsed ∧ hif.txBuffersUsed ≤ api.numInpChBufs.toNat) :
    0 ≤ (hostRun api hif es).txBuffersUsed ∧
      (hostRun api hif es).txBuffersUsed ≤ api.numInpChBufs.toNat := by
  induction es generalizing hif with
  | nil => exact h
  | cons e es ih => exact ih hf.2 (hostStep_in_range hf.1 h)

/-- The credit counter stays in range over every frame sequence interleaved with
`bh_work_tx`, as long as no accepted confirmation gives back more than is in use or a
negative count; the credit gate then never admits more than `NumInpChBufs` messages. -/
theorem credit_in_range_while_releases_fit (api : Api) (es : List HostEvent)
    (h : RunFits api Hif.init es) :
    0 ≤ (hostRun api Hif.init es).txBuffersUsed ∧
      (hostRun api Hif.init es).txBuffersUsed ≤ api.numInpChBufs.toNat :=
  hostRun_in_range h ⟨le_refl _, by show (0 : Int) ≤ _; omega⟩

end Range

/-- A confirmation releasing one buffer under every choice of the constants: id 0 has no
indication bit, and both readings of `release_count` give 1. -/
def strayCnf : Wmsg := ⟨4, 0, 0, 0, 1⟩

def strayCnfInput : RxInput := ⟨true, true, strayCnf, 0, none⟩

theorem releaseCount_strayCnf (api : Api) : releaseCount api strayCnf = 1 := by
  unfold releaseCount; split <;> rfl

theorem credit_in_range_sample :
    0 ≤ (hostRun Api.sample Hif.init [.tx sentInput, .rx 4 strayCnfInput]).txBuffersUsed ∧
      (hostRun Api.sample Hif.init [.tx sentInput, .rx 4 strayCnfInput]).txBuffersUsed ≤
        Api.sample.numInpChBufs.toNat :=
  credit_in_range_while_releases_fit Api.sample _
    ⟨trivial, fun w hw _ => by cases hw; decide, trivial⟩

/-- A confirmation arriving with nothing outstanding is accepted, under every choice of the
constants: `rx_helper` warns and drives `tx_buffers_used` to -1. -/
theorem hostRun_stray_confirmation_releases (api : Api) :
    (hostRun api Hif.init [.rx 4 strayCnfInput]).txBuffersUsed = -1 := by
  show (rxHelper api Hif.init 4 0 strayCnfInput).hif.txBuffersUsed = -1
  have hi : strayCnf.isIndication api = false := by
    simp [Wmsg.isIndication, strayCnf]
  rw [rxHelper_hif, show rxAccepted api 4 strayCnfInput = some strayCnf from rfl]
  simp only [acceptFrame_txBuffersUsed, hi, Bool.false_eq_true, if_false, releaseCount_strayCnf]
  rfl

/-- The stray confirmation with the sample constants: the gate then admits one message more
than the chip has buffers for. -/
theorem hostRun_stray_confirmation :
    (hostRun Api.sample Hif.init [.rx 4 strayCnfInput]).txBuffersUsed = -1 :=
  hostRun_stray_confirmation_releases Api.sample

end WfxDriver
