import WfxDriver.StaWork

/-!
# The interface table and the block acks of combo mode

`wdev->vif[]` holds the interfaces by id: `wfx_add_interface` takes the first free slot and
`wfx_remove_interface` frees its own. The firmware does not support block acks with two
interfaces ("Combo mode does not support Block Acks"): after adding or removing an
interface sta.c sends every interface the policy `0xFF, 0xFF` if it is alone and
`0x00, 0x00` otherwise; `wfx_do_join` and `wfx_start_ap` enable block acks only while
`wvif_count(wdev) <= 1`; `wfx_do_unjoin` disables them.

mac80211 adds and removes interfaces one at a time. The table changes under `conf_mutex`,
and `wfx_do_join` and `wfx_start_ap` read the number of interfaces and send under it, so a
policy they send lands before the change and the loop that follows it resends it; each
callback is one step here. The firmware holds, per interface id, the last policy it
received.
-/

namespace WfxDriver

/-- `enum nl80211_iftype`, as far as sta.c tells the types apart. -/
inductive IfType
  | unspecified
  | adhoc
  | station
  | ap
  | monitor
  | other
  deriving DecidableEq, Repr

/-- The table of interfaces and what the firmware holds for each id: `wdev->vif[]` (the type
of the interface in each slot), the `wvif->state` of each, and the block-ack policy the
firmware last received for each id, `true` for `0xFF, 0xFF` and `false` for `0x00, 0x00`. -/
structure Combo where
  vif : List (Option IfType)
  state : List VifState
  blockAck : List Bool
  deriving DecidableEq, Repr

def Combo.init (n : Nat) : Combo :=
  ⟨List.replicate n none, List.replicate n .passive, List.replicate n false⟩

/-- `wvif_count(wdev)`. -/
def Combo.wvifCount (c : Combo) : Nat := c.vif.countP Option.isSome

/-- The loop that ends `wfx_add_interface` and `wfx_remove_interface`, over the slots in
order: each interface gets block acks when `alone`, none otherwise (the `wfx_set_pm` of
the loop is not modelled here). -/
def blockAckLoop (alone : Bool) : List (Option IfType) → List Bool → List Bool
  | some _ :: vs, _ :: bs => alone :: blockAckLoop alone vs bs
  | none :: vs, b :: bs => b :: blockAckLoop alone vs bs
  | _, bs => bs

@[simp] theorem blockAckLoop_some (alone : Bool) (t : IfType) (vs : List (Option IfType)) (b : Bool)
    (bs : List Bool) : blockAckLoop alone (some t :: vs) (b :: bs) = alone :: blockAckLoop alone vs bs :=
  rfl

@[simp] theorem blockAckLoop_none (alone : Bool) (vs : List (Option IfType)) (b : Bool)
    (bs : List Bool) : blockAckLoop alone (none :: vs) (b :: bs) = b :: blockAckLoop alone vs bs :=
  rfl

@[simp] theorem blockAckLoop_nil (alone : Bool) (vs : List (Option IfType)) :
    blockAckLoop alone vs [] = [] := by
  rcases vs with _ | ⟨_ | _, _⟩ <;> rfl

def IfType.supported : IfType → Bool
  | .station | .adhoc | .ap => true
  | _ => false

def eopnotsupp : Int := -95

namespace Combo

def setState (c : Combo) (id : Nat) (s : VifState) : Combo := { c with state := c.state.set id s }

/-- `wsm_set_block_ack_policy(wdev, p, p, id)`, `p` being `0xFF` for `b` and `0x00`
otherwise. -/
def setBlockAck (c : Combo) (id : Nat) (b : Bool) : Combo :=
  { c with blockAck := c.blockAck.set id b }

/-- `if (wvif_count(wvif->wdev) <= 1) wsm_set_block_ack_policy(wvif->wdev, 0xFF, 0xFF, wvif->Id)`,
in `wfx_do_join` and in `wfx_start_ap`. -/
def enableBlockAck (c : Combo) (id : Nat) : Combo :=
  if c.wvifCount ≤ 1 then c.setBlockAck id true else c

@[simp] theorem setState_vif (c : Combo) (id : Nat) (s : VifState) : (c.setState id s).vif = c.vif := rfl

@[simp] theorem setState_blockAck (c : Combo) (id : Nat) (s : VifState) :
    (c.setState id s).blockAck = c.blockAck := rfl

@[simp] theorem setBlockAck_vif (c : Combo) (id : Nat) (b : Bool) : (c.setBlockAck id b).vif = c.vif := rfl

@[simp] theorem setBlockAck_blockAck (c : Combo) (id : Nat) (b : Bool) :
    (c.setBlockAck id b).blockAck = c.blockAck.set id b := rfl

/-- Send every interface the policy of its number: `wvif_count(wdev) == 1` or not. -/
def resendBlockAck (c : Combo) : Combo :=
  { c with blockAck := blockAckLoop (c.wvifCount == 1) c.vif c.blockAck }

/-- `wfx_add_interface(hw, vif)` with `vif->type`: the interface starts zeroed, that is
passive. -/
def wfxAddInterface (c : Combo) (type : IfType) : Combo × Int :=
  if type.supported then
    match c.vif.findIdx? Option.isNone with
    | some i => (resendBlockAck ⟨c.vif.set i (some type), c.state.set i .passive, c.blockAck⟩, 0)
    | none => (c, eopnotsupp)
  else (c, eopnotsupp)

def wfxRemoveInterface (c : Combo) (id : Nat) : Combo :=
  resendBlockAck ⟨c.vif.set id none, c.state.set id .passive, c.blockAck⟩

/-- `wfx_do_unjoin` on interface `id`: nothing during a scan (the unjoin is delayed) or on
a passive or AP interface; else the interface becomes passive and loses its block acks. -/
def wfxDoUnjoin (c : Combo) (id : Nat) (scanInProgress : Bool) : Combo :=
  if scanInProgress then c
  else
    match c.state.getD id .passive with
    | .passive | .ap => c
    | _ => (c.setState id .passive).setBlockAck id false

/-- `wfx_do_join` on interface `id`: `scanAtUnjoin` and `scanAtJoin` are
`scan.in_progress` as its call of `wfx_do_unjoin` and its own check read it, `bssKnown`
whether a BSS was found or an IBSS joined, `joinOk` whether `wsm_join` succeeded (on
failure `unjoin_work` is queued, a later `wfxDoUnjoin`). -/
def wfxDoJoin (c : Combo) (id : Nat) (scanAtUnjoin bssKnown scanAtJoin joinOk : Bool) : Combo :=
  let c := if c.state.getD id .passive ≠ .passive then c.wfxDoUnjoin id scanAtUnjoin else c
  if !bssKnown || scanAtJoin then c
  else
    let c := c.enableBlockAck id
    if joinOk then c.setState id (if c.vif.getD id none = some .adhoc then .ibss else .preSta)
    else c

/-- `wfx_start_ap` on interface `id`, `startOk` whether `wsm_start` and the key upload
succeeded. -/
def wfxStartAp (c : Combo) (id : Nat) (startOk : Bool) : Combo :=
  if startOk then (c.enableBlockAck id).setState id .ap else c

/-- `wfx_update_beaconing` on interface `id`: an AP interface not yet beaconing, or whose
beacon interval changed, is reset to passive and started again. -/
def wfxUpdateBeaconing (c : Combo) (id : Nat) (beaconIntChanged startOk : Bool) : Combo :=
  if c.vif.getD id none = some .ap ∧ (c.state.getD id .passive ≠ .ap ∨ beaconIntChanged) then
    (c.setState id .passive).wfxStartAp id startOk
  else c

end Combo

/-- What can happen to the table. -/
inductive ComboEvent
  | addInterface (type : IfType)
  | removeInterface (id : Nat)
  | doJoin (id : Nat) (scanAtUnjoin bssKnown scanAtJoin joinOk : Bool)
  | doUnjoin (id : Nat) (scanInProgress : Bool)
  | updateBeaconing (id : Nat) (beaconIntChanged startOk : Bool)

namespace Combo

def step (c : Combo) : ComboEvent → Combo
  | .addInterface type => (c.wfxAddInterface type).1
  | .removeInterface id => c.wfxRemoveInterface id
  | .doJoin id su bk sj ok => c.wfxDoJoin id su bk sj ok
  | .doUnjoin id sc => c.wfxDoUnjoin id sc
  | .updateBeaconing id bi ok => c.wfxUpdateBeaconing id bi ok

def run : Combo → List ComboEvent → Combo := List.foldl step

/-! ### Adding an interface -/

/-- The combo-mode invariant: an interface holds block acks only while it is alone. -/
def BlockAckAlone (c : Combo) : Prop :=
  ∀ i, (c.vif.getD i none).isSome → c.blockAck.getD i false = true → c.wvifCount = 1

theorem init_blockAckAlone (n : Nat) : (init n).BlockAckAlone := by
  intro i hv
  simp [init, List.getD_eq_getElem?_getD, List.getElem?_getD_replicate_default_eq] at hv

theorem one_le_wvifCount {c : Combo} {i : Nat} (hv : (c.vif.getD i none).isSome) :
    1 ≤ c.wvifCount := by
  rw [List.getD_eq_getElem?_getD] at hv
  rcases hg : c.vif[i]? with _ | v
  · simp [hg] at hv
  · exact List.countP_pos_iff.mpr ⟨v, List.getElem?_mem hg, by simpa [hg] using hv⟩

theorem blockAckLoop_alone {alone : Bool} {vs : List (Option IfType)} {bs : List Bool} {i : Nat}
    (hv : (vs.getD i none).isSome) (hb : (blockAckLoop alone vs bs).getD i false = true) :
    alone = true := by
  induction vs generalizing bs i with
  | nil => simp at hv
  | cons v vs ih =>
    rcases bs with _ | ⟨b, bs⟩
    · simp at hb
    · rcases i with _ | i <;> rcases v with _ | _
      · simp at hv
      · simpa using hb
      · exact ih (by simpa using hv) (by simpa using hb)
      · exact ih (by simpa using hv) (by simpa using hb)

theorem resendBlockAck_alone (c : Combo) : (resendBlockAck c).BlockAckAlone :=
  fun _ hv hb => by simpa using blockAckLoop_alone hv hb

theorem BlockAckAlone.setState {c : Combo} (h : c.BlockAckAlone) (id : Nat) (s : VifState) :
    (c.setState id s).BlockAckAlone := h

theorem BlockAckAlone.setBlockAck {c : Combo} (h : c.BlockAckAlone) {id : Nat} {b : Bool}
    (hb : b = true → c.wvifCount ≤ 1) : (c.setBlockAck id b).BlockAckAlone := by
  intro i hv hi
  simp only [setBlockAck_blockAck, List.getD_eq_getElem?_getD, List.getElem?_set] at hi
  split_ifs at hi with hid hl
  · subst hid
    exact Nat.le_antisymm (hb (by simpa using hi)) (one_le_wvifCount hv)
  · simp at hi
  · exact h i hv (by rwa [List.getD_eq_getElem?_getD])

theorem BlockAckAlone.enableBlockAck {c : Combo} (h : c.BlockAckAlone) (id : Nat) :
    (c.enableBlockAck id).BlockAckAlone := by
  unfold Combo.enableBlockAck
  split_ifs with hc
  · exact h.setBlockAck fun _ => hc
  · exact h

theorem BlockAckAlone.wfxDoUnjoin {c : Combo} (h : c.BlockAckAlone) (id : Nat) (sc : Bool) :
    (c.wfxDoUnjoin id sc).BlockAckAlone := by
  unfold Combo.wfxDoUnjoin
  split_ifs
  · exact h
  · split
    · exact h
    · exact h
    · exact (h.setState id .passive).setBlockAck (by simp)

theorem BlockAckAlone.wfxStartAp {c : Combo} (h : c.BlockAckAlone) (id : Nat) (ok : Bool) :
    (c.wfxStartAp id ok).BlockAckAlone := by
  unfold Combo.wfxStartAp
  split_ifs
  · exact (h.enableBlockAck id).setState id .ap
  · exact h

theorem step_blockAckAlone {c : Combo} (h : c.BlockAckAlone) (e : ComboEvent) :
    (c.step e).BlockAckAlone := by
  cases e with
  | addInterface type =>
    simp only [step, wfxAddInterface]
    split
    · split
      · exact resendBlockAck_alone _
      · exact h
    · exact h
  | removeInterface id => exact resendBlockAck_alone _
  | doUnjoin id sc => exact h.wfxDoUnjoin id sc
  | doJoin id su bk sj ok =>
    have h₁ : (if c.state.getD id .passive ≠ .passive then c.wfxDoUnjoin id su else c).BlockAckAlone := by
      split_ifs
      · exact h.wfxDoUnjoin id su
      · exact h
    simp only [step, wfxDoJoin]
    generalize (if c.state.getD id .passive ≠ .passive then c.wfxDoUnjoin id su else c) = c₁ at h₁ ⊢
    split_ifs
    · exact h₁
    · exact (h₁.enableBlockAck id).setState id _
    · exact (h₁.enableBlockAck id).setState id _
    · exact h₁.enableBlockAck id
  | updateBeaconing id bi ok =>
    simp only [step, wfxUpdateBeaconing]
    split_ifs
    · exact (h.setState id .passive).wfxStartAp id ok
    · exact h

theorem blockAck_run_alone (c : Combo) (es : List ComboEvent) (h : c.BlockAckAlone) :
    (c.run es).BlockAckAlone := by
  induction es generalizing c with
  | nil => exact h
  | cons e es ih => exact ih (c.step e) (step_blockAckAlone h e)

def comboTrace : List ComboEvent :=
  [.addInterface .station, .doJoin 0 false true false true, .addInterface .ap,
    .updateBeaconing 1 false true, .removeInterface 0, .updateBeaconing 1 true true,
    .addInterface .station, .doUnjoin 1 false]

theorem blockAck_run_alone_comboTrace :
    (init 2).BlockAckAlone ∧ ((init 2).run comboTrace).BlockAckAlone :=
  ⟨init_blockAckAlone 2, blockAck_run_alone (init 2) comboTrace (init_blockAckAlone 2)⟩

end Combo

end WfxDriver
