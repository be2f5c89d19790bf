import Mathlib

/-!
# Frames of the WSM bus protocol

The header fields of `struct wmsg` that `bh.c` reads or writes, the constants of the WSM
API it compares them with, and the length arithmetic of `rx_helper` and `tx_helper`.
The headers declaring the constants (`wsm_cmd_api.h`, `hwio.h`, `secure_link.h`) are not
part of this tree, so each one is a field of `Api` and every result holds for all values.
-/

namespace WfxDriver

/-- The constants of the WSM API and the chip's capability report that `bh.c` reads:
`WMSG_COUNTER_MAX` (sequence numbers count modulo `wmsgCounterMax + 1`), `CTRL_NEXT_LEN_MASK`
(the next-length field of a control word, in 16-bit units), `CTRL_WLAN_READY`,
`WMSG_ID_IS_INDICATION`, `HI_EXCEPTION_IND_ID`, `HI_ERROR_IND_ID`,
`WSM_HI_MULTI_TRANSMIT_CNF_ID`, the sizes of `struct sl_wmsg` and `struct sl_tag`, and the
16-bit `wdev->wsm_caps.NumInpChBufs` of the startup indication. -/
structure Api where
  wmsgCounterMax : Nat
  ctrlNextLenMask : Nat
  ctrlWlanReady : Nat
  wmsgIdIsIndication : Nat
  hiExceptionIndId : Nat
  hiErrorIndId : Nat
  multiTransmitCnfId : Nat
  slWmsgSize : Nat
  slTagSize : Nat
  numInpChBufs : UInt16

/-- One choice of the constants, to run the model on concrete inputs: the 3-bit sequence
counter of the data model, a 12-bit length field, and a chip with 8 input buffers. -/
def Api.sample : Api := ⟨7, 0xFFF, 0x2000, 0x80, 0xE0, 0xE4, 0x1E, 6, 16, 8⟩

/-- The fields of a `struct wmsg` in a bus buffer. `numTxConfs` is the first word of the
body, read as `WsmHiMultiTransmitCnfBody_t.NumTxConfs` on a multi-transmit confirmation. -/
structure Wmsg where
  len : UInt16
  id : Nat
  seqnum : Nat
  encrypted : Fin 4
  numTxConfs : UInt32
  deriving DecidableEq, Repr

/-- `sizeof(struct wmsg)`: the 4 header bytes `rx_helper`'s `WARN_ON(read_len < 4)` and
`tx_helper`'s `BUG_ON(len < sizeof(*wsm))` refer to. -/
def wmsgSize : Nat := 4

def wmsgLenSize : Nat := 2

/-- `SIZE_MAX + 1`: `size_t` arithmetic is modulo this. -/
def sizeMod : Nat := 2 ^ 64

def roundUp (x y : Nat) : Nat := (x + y - 1) / y * y

def Wmsg.isIndication (api : Api) (w : Wmsg) : Bool :=
  w.id &&& api.wmsgIdIsIndication != 0

def int32OfUInt32 (x : UInt32) : Int :=
  if x.toNat < 2 ^ 31 then x.toNat else (x.toNat : Int) - 2 ^ 32

def releaseCount (api : Api) (w : Wmsg) : Int :=
  if w.id = api.multiTransmitCnfId then int32OfUInt32 w.numTxConfs else 1

/-- `computed_len` of a clear frame: `round_up(wsm->len, 2)`, in `int` arithmetic. -/
def clearLen (w : Wmsg) : Nat := roundUp w.len.toNat 2

/-- `computed_len` of a decrypted frame:
`round_up(wsm->len - sizeof(wsm->len), 16) + sizeof(struct sl_wmsg) + sizeof(struct sl_tag)`,
in `size_t` arithmetic, so `wsm->len < 2` wraps. -/
def encryptedLen (api : Api) (w : Wmsg) : Nat :=
  (roundUp ((w.len.toNat + sizeMod - wmsgLenSize) % sizeMod) 16 + api.slWmsgSize +
    api.slTagSize) % sizeMod

/-- A C integer stored into a `u8` field: its value modulo 256. -/
def lowByte (x : Int) : UInt8 := UInt8.ofNat (x % 256).toNat

theorem int32OfUInt32_of_lt {x : UInt32} (h : x.toNat < 2 ^ 31) :
    int32OfUInt32 x = x.toNat := if_pos h

end WfxDriver
