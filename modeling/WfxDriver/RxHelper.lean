import WfxDriver.Message

/-!
# One received frame: `rx_helper`

`rx_helper` allocates a buffer of `read_len + 2` bytes (aligned), reads the frame and the
trailing piggyback word into it, decrypts it when its `encrypted` field is 2, checks the
length the header implies against `read_len`, and only then touches the host state:
`rx_seqnum` for every frame but the exception and error indications, `*is_cnf` and
`tx_buffers_used` for every confirmation. The environment (allocation, bus read,
`wfx_sl_decode`, and the bytes the chip put on the bus) is one `RxInput`.
-/

namespace WfxDriver

/-- The fields of `wdev->hif` that `tx_helper` and `rx_helper` keep across calls. -/
structure Hif where
  txBuffersUsed : Int
  txSeqnum : Nat
  rxSeqnum : Nat
  deriving DecidableEq, Repr

def Hif.init : Hif := ⟨0, 0, 0⟩

/-- What the allocator, the bus and the secure link decide in one call of `rx_helper`: whether
`dev_alloc_skb(alloc_len)` returned a buffer and `wfx_data_read` returned 0, the frame header
as read from the bus, the word `le16_to_cpup(skb->data + alloc_len - 2)`, and the frame
`wfx_sl_decode` leaves in the buffer (`none` when it fails). -/
structure RxInput where
  skbOk : Bool
  readOk : Bool
  raw : Wmsg
  piggyback : UInt16
  decoded : Option Wmsg
  deriving DecidableEq, Repr

inductive RxRet
  | piggyback (word : UInt16)
  | enomem
  | eio
  deriving DecidableEq, Repr

/-- The diagnostics `rx_helper` prints, in the order of the code: `WARN_ON(read_len < 4)`,
`"unsupported encryption type"`, `"inconsistent message length: %zu != %zu"`,
`"wrong message sequence: %d != %d"` and `"corrupted buffer counter"`; and its
`wake_up(&wdev->hif.tx_buffers_empty)`. -/
inductive RxEvent
  | readLenShort
  | unsupportedEncryption
  | inconsistentLength (computed readLen : Nat)
  | wrongSequence (seqnum expected : Nat)
  | corruptedBufferCounter
  | txBuffersEmpty
  deriving DecidableEq, Repr

/-- Everything one call of `rx_helper` produces: what it returns (the piggyback word,
`-ENOMEM` or `-EIO`), the host state, `*is_cnf`, the frame handed to `wsm_handle_rx` and
its diagnostics. -/
structure RxResult where
  ret : RxRet
  hif : Hif
  isCnf : Nat
  dispatched : Option Wmsg
  events : List RxEvent
  deriving DecidableEq, Repr

/-- The frame `rx_helper` goes on with and its `computed_len`: the decrypted frame when
`wsm->encrypted == 0x2` (`none` when `wfx_sl_decode` fails), else the frame as read. -/
def decodeFrame (api : Api) (inp : RxInput) : Option (Wmsg × Nat) :=
  if inp.raw.encrypted = 2 then inp.decoded.map fun w => (w, encryptedLen api w)
  else some (inp.raw, clearLen inp.raw)

/-- The sequence check of `rx_helper`: resynchronise `rx_seqnum` on every frame but the
exception and error indications, warning when the frame's number was not the expected one. -/
def trackSeqnum (api : Api) (hif : Hif) (w : Wmsg) : Hif × List RxEvent :=
  if w.id ≠ api.hiExceptionIndId ∧ w.id ≠ api.hiErrorIndId then
    ({ hif with rxSeqnum := (w.seqnum + 1) % (api.wmsgCounterMax + 1) },
      if w.seqnum ≠ hif.rxSeqnum then [.wrongSequence w.seqnum hif.rxSeqnum] else [])
  else (hif, [])

/-- The credit release of `rx_helper`: a confirmation bumps `*is_cnf` and gives back
`release_count` buffers, warning (and subtracting anyway) when that is more than in use. -/
def releaseBuffers (api : Api) (hif : Hif) (isCnf : Nat) (w : Wmsg) :
    Hif × Nat × List RxEvent :=
  if !w.isIndication api then
    let used := hif.txBuffersUsed - releaseCount api w
    ({ hif with txBuffersUsed := used }, isCnf + 1,
      (if hif.txBuffersUsed < releaseCount api w then [.corruptedBufferCounter] else []) ++
        if used = 0 then [.txBuffersEmpty] else [])
  else (hif, isCnf, [])

/-- `rx_helper(wdev, read_len, is_cnf)`. -/
def rxHelper (api : Api) (hif : Hif) (readLen isCnf : Nat) (inp : RxInput) : RxResult :=
  let warn : List RxEvent := if readLen < 4 then [.readLenShort] else []
  if !inp.skbOk then ⟨.enomem, hif, isCnf, none, warn⟩
  else if !inp.readOk then ⟨.eio, hif, isCnf, none, warn⟩
  else
    let warn := warn ++ if inp.raw.encrypted.val &&& 1 != 0 then [.unsupportedEncryption] else []
    match decodeFrame api inp with
    | none => ⟨.eio, hif, isCnf, none, warn⟩
    | some (wsm, computedLen) =>
      if computedLen ≠ readLen then
        ⟨.eio, hif, isCnf, none, warn ++ [.inconsistentLength computedLen readLen]⟩
      else
        let seq := trackSeqnum api hif wsm
        let cnf := releaseBuffers api seq.1 isCnf wsm
        ⟨.piggyback inp.piggyback, cnf.1, cnf.2.1, some wsm, warn ++ seq.2 ++ cnf.2.2⟩

/-- The frame `rx_helper` dispatches, as a function of its inputs alone. -/
def rxAccepted (api : Api) (readLen : Nat) (inp : RxInput) : Option Wmsg :=
  if inp.skbOk ∧ inp.readOk then
    match decodeFrame api inp with
    | some (w, n) => if n = readLen then some w else none
    | none => none
  else none

def acceptFrame (api : Api) (hif : Hif) (isCnf : Nat) (w : Wmsg) : Hif × Nat :=
  let cnf := releaseBuffers api (trackSeqnum api hif w).1 isCnf w
  (cnf.1, cnf.2.1)

section Spec

variable {api : Api} {hif : Hif} {readLen isCnf : Nat} {inp : RxInput} {w : Wmsg}

/-- A rejected frame: `-ENOMEM` if the allocation failed and `-EIO` otherwise, and nothing
dispatched or changed. -/
theorem rxHelper_of_rxAccepted_none (h : rxAccepted api readLen inp = none) :
    (rxHelper api hif readLen isCnf inp).ret = (if inp.skbOk then .eio else .enomem) ∧
      (rxHelper api hif readLen isCnf inp).hif = hif ∧
      (rxHelper api hif readLen isCnf inp).isCnf = isCnf ∧
      (rxHelper api hif readLen isCnf inp).dispatched = none := by
  unfold rxHelper
  cases ha : inp.skbOk
  · simp
  cases hb : inp.readOk
  · simp
  simp only [rxAccepted, ha, hb, and_self, if_true] at h
  rcases hd : decodeFrame api inp with _ | ⟨w', n⟩ <;> simp only [hd] at h
  · simp
  · split_ifs at h with hn
    simp [hn]

theorem rxHelper_of_rxAccepted_some (h : rxAccepted api readLen inp = some w) :
    (rxHelper api hif readLen isCnf inp).ret = .piggyback inp.piggyback ∧
      ((rxHelper api hif readLen isCnf inp).hif, (rxHelper api hif readLen isCnf inp).isCnf) =
        acceptFrame api hif isCnf w ∧
      (rxHelper api hif readLen isCnf inp).dispatched = some w := by
  unfold rxAccepted at h
  split_ifs at h with hok
  rcases hd : decodeFrame api inp with _ | ⟨w', n⟩ <;> simp only [hd, reduceCtorEq] at h
  split_ifs at h with hn
  cases h
  simp [rxHelper, hok.1, hok.2, hd, hn, acceptFrame]

theorem rxHelper_dispatched :
    (rxHelper api hif readLen isCnf inp).dispatched = rxAccepted api readLen inp := by
  cases h : rxAccepted api readLen inp
  · exact (rxHelper_of_rxAccepted_none h).2.2.2
  · exact (rxHelper_of_rxAccepted_some h).2.2

theorem rxHelper_ret : (rxHelper api hif readLen isCnf inp).ret =
    match rxAccepted api readLen inp with
    | some _ => .piggyback inp.piggyback
    | none => if inp.skbOk then .eio else .enomem := by
  cases h : rxAccepted api readLen inp with
  | none => exact (rxHelper_of_rxAccepted_none h).1
  | some w => exact (rxHelper_of_rxAccepted_some h).1

theorem rxHelper_hif : (rxHelper api hif readLen isCnf inp).hif =
    match rxAccepted api readLen inp with
    | some w => (acceptFrame api hif isCnf w).1
    | none => hif := by
  cases h : rxAccepted api readLen inp with
  | none => exact (rxHelper_of_rxAccepted_none h).2.1
  | some w => exact congrArg Prod.fst (rxHelper_of_rxAccepted_some h).2.1

@[simp] theorem trackSeqnum_txBuffersUsed :
    (trackSeqnum api hif w).1.txBuffersUsed = hif.txBuffersUsed := by
  unfold trackSeqnum; split_ifs <;> rfl

@[simp] theorem releaseBuffers_txBuffersUsed :
    (releaseBuffers api hif isCnf w).1.txBuffersUsed =
      hif.txBuffersUsed - if w.isIndication api then 0 else releaseCount api w := by
  unfold releaseBuffers; cases w.isIndication api <;> simp

@[simp] theorem acceptFrame_txBuffersUsed :
    (acceptFrame api hif isCnf w).1.txBuffersUsed =
      hif.txBuffersUsed - if w.isIndication api then 0 else releaseCount api w := by
  simp [acceptFrame]

end Spec

def shortFrame : Wmsg := ⟨2, 0, 0, 0, 0⟩

def shortInput : RxInput := ⟨true, true, shortFrame, 0, none⟩

/-- `rx_helper` dispatches a frame whose declared length does not cover its own header. -/
theorem rxHelper_dispatches_short_frame (api : Api) (hif : Hif) :
    (rxHelper api hif 2 0 shortInput).dispatched = some shortFrame ∧
      shortFrame.len.toNat < wmsgSize := ⟨rfl, by decide⟩

def reservedFrame : Wmsg := ⟨4, 0, 0, 1, 0⟩

def reservedInput : RxInput := ⟨true, true, reservedFrame, 0, none⟩

/-- `rx_helper` only warns about the reserved encryption value, then dispatches the frame
and returns its piggyback word. -/
theorem rxHelper_dispatches_reserved_encryption (api : Api) (hif : Hif) :
    (rxHelper api hif 4 0 reservedInput).dispatched = some reservedFrame ∧
      (rxHelper api hif 4 0 reservedInput).ret = .piggyback 0 := ⟨rfl, rfl⟩

end WfxDriver
