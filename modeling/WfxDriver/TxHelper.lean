import WfxDriver.RxHelper

/-!
# The transmit pump: `tx_helper` and `bh_work_tx`

`tx_helper` stamps the message with `tx_seqnum` and advances the counter first, and only
then tries the secure-link buffer allocation, the encryption and the bus write; a failure
of any of them ends the call with the number spent and nothing on the bus.
`bh_work_tx` calls it while the credit gate `tx_buffers_used < NumInpChBufs` is open and
the queue hands out a message, at most `max_msg` times.
-/

namespace WfxDriver

/-- A message handed out by `wsm_get_tx`. The two `BUG_ON`s of `tx_helper` are fields: the
queue only holds messages whose header fits and whose `len` field is the buffer length. -/
structure TxMsg where
  wsm : Wmsg
  len : Nat
  len_ge : wmsgSize ≤ len
  len_eq : wsm.len.toNat = len

/-- A queued message and what the secure link, the allocator and the bus decide for it:
`wfx_is_secure_command(wdev, wsm->id)`, whether `kmalloc(len, GFP_KERNEL)` returned a buffer,
and whether `wfx_sl_encode` and `wfx_data_write` returned 0. -/
structure TxInput where
  msg : TxMsg
  secure : Bool
  kmallocOk : Bool
  encodeOk : Bool
  writeOk : Bool

/-- What one call of `tx_helper` leaves: the state, and the message on the bus if any. -/
structure TxResult where
  hif : Hif
  written : Option Wmsg

/-- `tx_helper(wdev, data, len)`. -/
def txHelper (api : Api) (hif : Hif) (inp : TxInput) : TxResult :=
  let wsm := { inp.msg.wsm with seqnum := hif.txSeqnum }
  let hif := { hif with txSeqnum := (hif.txSeqnum + 1) % (api.wmsgCounterMax + 1) }
  if inp.secure && !inp.kmallocOk then ⟨hif, none⟩
  else if inp.secure && !inp.encodeOk then ⟨hif, none⟩
  else if !inp.writeOk then ⟨hif, none⟩
  else ⟨{ hif with txBuffersUsed := hif.txBuffersUsed + 1 }, some wsm⟩

/-- The outcomes under which `tx_helper` reaches `tx_buffers_used++`. -/
def TxInput.sent (inp : TxInput) : Bool :=
  !(inp.secure && !inp.kmallocOk) && !(inp.secure && !inp.encodeOk) && inp.writeOk

section Spec

variable {api : Api} {hif : Hif} {inp : TxInput}

@[simp] theorem txHelper_txSeqnum :
    (txHelper api hif inp).hif.txSeqnum = (hif.txSeqnum + 1) % (api.wmsgCounterMax + 1) := by
  unfold txHelper; split_ifs <;> rfl

@[simp] theorem txHelper_rxSeqnum : (txHelper api hif inp).hif.rxSeqnum = hif.rxSeqnum := by
  unfold txHelper; split_ifs <;> rfl

@[simp] theorem txHelper_txBuffersUsed :
    (txHelper api hif inp).hif.txBuffersUsed =
      hif.txBuffersUsed + if inp.sent then 1 else 0 := by
  unfold txHelper TxInput.sent
  cases inp.secure <;> cases inp.kmallocOk <;> cases inp.encodeOk <;> cases inp.writeOk <;> simp

@[simp] theorem txHelper_written :
    (txHelper api hif inp).written =
      if inp.sent then some { inp.msg.wsm with seqnum := hif.txSeqnum } else none := by
  unfold txHelper TxInput.sent
  cases inp.secure <;> cases inp.kmallocOk <;> cases inp.encodeOk <;> cases inp.writeOk <;> simp

end Spec

/-- What one call of `bh_work_tx` leaves: its return value, the state, what each
`tx_helper` call put on the bus, and the messages still queued. -/
structure TxBatch where
  count : Nat
  hif : Hif
  calls : List (Option Wmsg)
  queue : List TxInput

/-- `bh_work_tx(wdev, max_msg)`, with `wsm_get_tx` handing out the queue `q` in order. -/
def bhWorkTx (api : Api) : Nat → Hif → List TxInput → TxBatch
  | 0, hif, q => ⟨0, hif, [], q⟩
  | maxMsg + 1, hif, q =>
    if hif.txBuffersUsed < api.numInpChBufs.toNat then
      match q with
      | [] => ⟨0, hif, [], []⟩
      | inp :: q =>
        let r := txHelper api hif inp
        let rest := bhWorkTx api maxMsg r.hif q
        ⟨rest.count + 1, rest.hif, r.written :: rest.calls, rest.queue⟩
    else ⟨0, hif, [], q⟩

theorem bhWorkTx_succ_of_lt (api : Api) (maxMsg : Nat) (hif : Hif) (inp : TxInput)
    (q : List TxInput) (h : hif.txBuffersUsed < api.numInpChBufs.toNat) :
    bhWorkTx api (maxMsg + 1) hif (inp :: q) =
      let rest := bhWorkTx api maxMsg (txHelper api hif inp).hif q
      ⟨rest.count + 1, rest.hif, (txHelper api hif inp).written :: rest.calls, rest.queue⟩ := by
  simp only [bhWorkTx, if_pos h]

theorem bhWorkTx_queue_length (api : Api) (maxMsg : Nat) (hif : Hif) (q : List TxInput) :
    (bhWorkTx api maxMsg hif q).queue.length + (bhWorkTx api maxMsg hif q).count = q.length := by
  induction maxMsg generalizing hif q with
  | zero => rfl
  | succ maxMsg ih =>
    by_cases hg : hif.txBuffersUsed < api.numInpChBufs.toNat
    · cases q with
      | nil => simp [bhWorkTx, hg]
      | cons inp q =>
        rw [bhWorkTx_succ_of_lt api maxMsg hif inp q hg]
        have := ih (txHelper api hif inp).hif q
        simp only [List.length_cons]
        omega
    · simp [bhWorkTx, hg]

def plainMsg : TxMsg := ⟨⟨4, 0, 0, 0, 0⟩, 4, le_refl _, rfl⟩

/-- A message that reaches the bus. -/
def sentInput : TxInput := ⟨plainMsg, false, true, true, true⟩

def noMemInput : TxInput := ⟨plainMsg, true, false, true, true⟩

/-- The sequence-number law of the transmit pump. The `i`-th message `bh_work_tx` hands to
`tx_helper` is stamped `tx_seqnum + i` modulo `WMSG_COUNTER_MAX + 1`, whether or not it
reaches the bus, and `tx_seqnum` ends advanced by the number of calls, still in range. -/
theorem bhWorkTx_seqnums (api : Api) (maxMsg : Nat) (hif : Hif) (q : List TxInput)
    (h : hif.txSeqnum ≤ api.wmsgCounterMax) :
    (bhWorkTx api maxMsg hif q).calls.length = (bhWorkTx api maxMsg hif q).count ∧
      (bhWorkTx api maxMsg hif q).hif.txSeqnum =
        (hif.txSeqnum + (bhWorkTx api maxMsg hif q).count) % (api.wmsgCounterMax + 1) ∧
      ∀ i w, (bhWorkTx api maxMsg hif q).calls[i]? = some (some w) →
        w.seqnum = (hif.txSeqnum + i) % (api.wmsgCounterMax + 1) := by
  have hs : hif.txSeqnum % (api.wmsgCounterMax + 1) = hif.txSeqnum := Nat.mod_eq_of_lt (by omega)
  induction maxMsg generalizing hif q with
  | zero => simp [bhWorkTx, hs]
  | succ maxMsg ih =>
    by_cases hg : hif.txBuffersUsed < api.numInpChBufs.toNat
    · cases q with
      | nil => simp [bhWorkTx, hg, hs]
      | cons inp q =>
        rw [bhWorkTx_succ_of_lt api maxMsg hif inp q hg]
        have hr : (txHelper api hif inp).hif.txSeqnum ≤ api.wmsgCounterMax := by
          simp only [txHelper_txSeqnum]; exact Nat.le_of_lt_succ (Nat.mod_lt _ (by omega))
        obtain ⟨hl, ht, hw⟩ := ih (txHelper api hif inp).hif q hr (Nat.mod_eq_of_lt (by omega))
        simp only [txHelper_txSeqnum, Nat.mod_add_mod] at hl ht hw
        refine ⟨by simp [hl], by rw [ht, Nat.add_right_comm, Nat.add_assoc], ?_⟩
        rintro (_ | i) w hi
        · simp only [List.getElem?_cons_zero, Option.some.injEq, txHelper_written] at hi
          split_ifs at hi
          cases hi
          exact hs.symm
        · rw [hw i w (by simpa using hi), Nat.add_right_comm, Nat.add_assoc]
    · simp [bhWorkTx, hg, hs]

theorem bhWorkTx_seqnums_two_sent :
    Hif.init.txSeqnum ≤ Api.sample.wmsgCounterMax ∧
      (bhWorkTx Api.sample 2 Hif.init [sentInput, sentInput]).calls.length =
          (bhWorkTx Api.sample 2 Hif.init [sentInput, sentInput]).count ∧
        (bhWorkTx Api.sample 2 Hif.init [sentInput, sentInput]).hif.txSeqnum =
          (Hif.init.txSeqnum + (bhWorkTx Api.sample 2 Hif.init [sentInput, sentInput]).count) %
            (Api.sample.wmsgCounterMax + 1) ∧
        ∀ i w, (bhWorkTx Api.sample 2 Hif.init [sentInput, sentInput]).calls[i]? = some (some w) →
          w.seqnum = (Hif.init.txSeqnum + i) % (Api.sample.wmsgCounterMax + 1) :=
  ⟨by decide, bhWorkTx_seqnums Api.sample 2 Hif.init [sentInput, sentInput] (by decide)⟩

/-- After a failed secure-link allocation the next message on the bus skips a number: the
chip sees 0 and then `2 mod (WMSG_COUNTER_MAX + 1)`, a gap unless the counter has one value. -/
theorem txHelper_skips_seqnum_after_kmalloc_failure (api : Api) :
    let r₁ := txHelper api Hif.init sentInput
    let r₂ := txHelper api r₁.hif noMemInput
    let r₃ := txHelper api r₂.hif sentInput
    r₁.written.map Wmsg.seqnum = some 0 ∧ r₂.written = none ∧
      r₃.written.map Wmsg.seqnum = some (2 % (api.wmsgCounterMax + 1)) ∧
      (api.wmsgCounterMax = 0 ∨ 2 % (api.wmsgCounterMax + 1) ≠ (0 + 1) % (api.wmsgCounterMax + 1))
    := by
  refine ⟨rfl, rfl, ?_, ?_⟩
  · simp [sentInput, noMemInput, TxInput.sent, Hif.init, Nat.mod_add_mod]
  · obtain h | h | h : api.wmsgCounterMax = 0 ∨ api.wmsgCounterMax = 1 ∨ 2 ≤ api.wmsgCounterMax :=
      by omega
    · exact .inl h
    · simp [h]
    · right; rw [Nat.mod_eq_of_lt (by omega), Nat.mod_eq_of_lt (by omega)]; omega

end WfxDriver
