import WfxDriver.Message

/-!
# Power save of the stations of an AP interface

An AP interface keeps one bit per link id in `sta_asleep_mask` (the station sleeps, its
frames are buffered) and in `pspoll_mask` (it polled while asleep). mac80211 reports each
station's sleep and wake-up through `wfx_sta_notify`; the firmware reports suspend and
resume of the whole interface through `wfx_suspend_resume`, which goes through
`wfx_ps_notify` with link id 0, "all link ids". When the first station falls asleep with
multicast frames buffered, `multicast_start_work` sets the AID 0 bit of the beacon's TIM
and arms `mcast_timeout`; when the last one wakes up, `multicast_stop_work` clears it.
All of this but the two works runs under `ps_state_lock`.
-/

namespace WfxDriver

inductive StaNotifyCmd
  | sleep
  | awake
  deriving DecidableEq, Repr

/-- What the power-save code prints (`"wfx_sta_notify: unsupported notify command"`,
`"[AP] No more link IDs available."`, `"Multicast delivery timeout."`) or hands to the
firmware (`wsm_update_ie(wdev, &target_frame, tim_ptr, tim_length, wvif->Id)`). -/
inductive PsLog
  | unsupportedNotify
  | noMoreLinkIds
  | multicastDeliveryTimeout
  | timUpload (ie : List UInt8)
  deriving DecidableEq, Repr

/-- The power-save fields of an AP's `struct wfx_vif` (all `u32` masks or `bool`s), whether
the two works are queued and `mcast_timeout` is armed, and the calls of
`wfx_bh_request_tx`. -/
structure PsState where
  linkIdMap : BitVec 32
  staAsleepMask : BitVec 32
  pspollMask : BitVec 32
  bufferedMulticasts : Bool
  aid0BitSet : Bool
  txMulticast : Bool
  multicastStartWork : Bool
  multicastStopWork : Bool
  mcastTimeout : Bool
  bhRequests : Nat
  log : List PsLog
  deriving DecidableEq, Repr

/-- The TIM element `wfx_set_tim_impl` uploads, from the `tim_offset` and the `tim_length`
bytes at it that `ieee80211_beacon_get_tim` returned: when there is a TIM of at least 6
bytes, the DTIM count (byte 2) is cleared and bit 0 of the bitmap control (byte 4, the
AID 0 bit announcing buffered multicast) is set to `aid0_bit_set`. -/
def timRewrite (timOffset : Nat) (tim : List UInt8) (aid0BitSet : Bool) : List UInt8 :=
  if timOffset ≠ 0 ∧ 6 ≤ tim.length then
    (tim.set 2 0).modify (fun b => if aid0BitSet then b ||| 1 else b &&& ~~~1) 4
  else tim

namespace PsState

/-- `__wfx_sta_notify(wvif, notify_cmd, link_id)`. -/
def wfxStaNotifyInner (s : PsState) (cmd : StaNotifyCmd) (linkId : Nat) : PsState :=
  -- Zero link id means "for all link IDs"
  let sb : PsState × BitVec 32 :=
    if linkId ≠ 0 then (s, BitVec.twoPow 32 linkId)
    else if cmd ≠ .awake then ({ s with log := s.log ++ [.unsupportedNotify] }, 0)
    else (s, s.linkIdMap)
  let s := sb.1
  let bit := sb.2
  let prev := s.staAsleepMask &&& bit
  match cmd with
  | .sleep =>
    if prev = 0 then
      let s : PsState := if s.bufferedMulticasts ∧ s.staAsleepMask = 0#32 then
        { s with multicastStartWork := true } else s
      { s with staAsleepMask := s.staAsleepMask ||| bit }
    else s
  | .awake =>
    if prev ≠ 0 then
      let s : PsState := { s with staAsleepMask := s.staAsleepMask &&& ~~~bit,
                                  pspollMask := s.pspollMask &&& ~~~bit }
      let s : PsState :=
        if linkId ≠ 0 ∧ s.staAsleepMask = 0#32 then { s with multicastStopWork := true } else s
      { s with bhRequests := s.bhRequests + 1 }
    else s

def wfxPsNotify (s : PsState) (ps : Bool) : PsState :=
  s.wfxStaNotifyInner (if ps then .awake else .sleep) 0

/-- `wfx_suspend_resume(wvif, arg)` with the two flags of `arg->suspend_resume_flags`. -/
def wfxSuspendResume (s : PsState) (bcMcOnly resume : Bool) : PsState :=
  if bcMcOnly then
    let s : PsState :=
      { s with txMulticast := if !resume then false else s.aid0BitSet && s.bufferedMulticasts }
    -- `cancel_tmo`: `del_timer_sync` once the lock is dropped
    if s.txMulticast then { s with bhRequests := s.bhRequests + 1, mcastTimeout := false } else s
  else
    let s := s.wfxPsNotify resume
    if resume then { s with bhRequests := s.bhRequests + 1 } else s

/-- `wfx_mcast_timeout`, when the timer fires. -/
def wfxMcastTimeout (s : PsState) : PsState :=
  let s : PsState :=
    { s with mcastTimeout := false, log := s.log ++ [.multicastDeliveryTimeout],
             txMulticast := s.aid0BitSet && s.bufferedMulticasts }
  if s.txMulticast then { s with bhRequests := s.bhRequests + 1 } else s

/-- `wfx_set_tim_impl(wvif, aid0_bit_set)` on what `ieee80211_beacon_get_tim` returns:
nothing (the queues are then flushed and `-ENOENT` returned), or the TIM offset and bytes. -/
def wfxSetTimImpl (s : PsState) (beacon : Option (Nat × List UInt8)) (aid0BitSet : Bool) :
    PsState :=
  match beacon with
  | none => s
  | some (off, tim) => { s with log := s.log ++ [.timUpload (timRewrite off tim aid0BitSet)] }

def wfxMulticastStartWork (s : PsState) (beacon : Option (Nat × List UInt8)) : PsState :=
  let s : PsState := { s with multicastStartWork := false, multicastStopWork := false }
  if !s.aid0BitSet then
    let s := s.wfxSetTimImpl beacon true
    { s with aid0BitSet := true, mcastTimeout := true }
  else s

def wfxMulticastStopWork (s : PsState) (beacon : Option (Nat × List UInt8)) : PsState :=
  let s : PsState := { s with multicastStopWork := false }
  if s.aid0BitSet then
    let s : PsState := { s with mcastTimeout := false, aid0BitSet := false }
    s.wfxSetTimImpl beacon false
  else s

/-- The power-save part of `wfx_sta_add(hw, vif, sta)`: on an AP, with the link id
`wfx_find_link_id` returned, a station that asked U-APSD for all four access categories
(`IEEE80211_WMM_IE_STA_QOSINFO_AC_MASK`, 0x0f) starts asleep. -/
def wfxStaAdd (s : PsState) (isAp : Bool) (linkId uapsdQueues : Nat) : PsState :=
  if !isAp then s
  else if linkId = 0 then { s with log := s.log ++ [.noMoreLinkIds] }
  else if uapsdQueues &&& 0x0f = 0x0f then
    { s with staAsleepMask := s.staAsleepMask ||| BitVec.twoPow 32 linkId }
  else s

/-- The `WFX_STATE_AP` branch of `wfx_remove_interface`, with its later
`del_timer_sync(&wvif->mcast_timeout)`. -/
def apReset (s : PsState) : PsState :=
  { s with linkIdMap := 0, staAsleepMask := 0, txMulticast := false, aid0BitSet := false,
           bufferedMulticasts := false, pspollMask := 0, mcastTimeout := false }

end PsState

/-- What can happen to the power-save state of an AP interface. -/
inductive PsEvent
  | staNotify (cmd : StaNotifyCmd) (linkId : Nat)
  | suspendResume (bcMcOnly resume : Bool)
  | mcastTimeoutFires
  | multicastStartWorkRuns (beacon : Option (Nat × List UInt8))
  | multicastStopWorkRuns (beacon : Option (Nat × List UInt8))
  | staAdd (isAp : Bool) (linkId uapsdQueues : Nat)
  | removeInterface

namespace PsState

def step (s : PsState) : PsEvent → PsState
  | .staNotify cmd linkId => s.wfxStaNotifyInner cmd linkId
  | .suspendResume bcMcOnly resume => s.wfxSuspendResume bcMcOnly resume
  | .mcastTimeoutFires => if s.mcastTimeout then s.wfxMcastTimeout else s
  | .multicastStartWorkRuns beacon =>
    if s.multicastStartWork then s.wfxMulticastStartWork beacon else s
  | .multicastStopWorkRuns beacon =>
    if s.multicastStopWork then s.wfxMulticastStopWork beacon else s
  | .staAdd isAp linkId uapsdQueues => s.wfxStaAdd isAp linkId uapsdQueues
  | .removeInterface => s.apReset

def run : PsState → List PsEvent → PsState := List.foldl step

/-- The bits a notification acts on: the station's own, all mapped stations' for a
wake-up of link 0, none for another command on link 0. -/
def notifyBit (s : PsState) (cmd : StaNotifyCmd) (linkId : Nat) : BitVec 32 :=
  if linkId ≠ 0 then BitVec.twoPow 32 linkId else if cmd = .awake then s.linkIdMap else 0

variable {s : PsState} {cmd : StaNotifyCmd} {linkId : Nat}

/-- What one notification does to the two masks: a sleep sets the bits it acts on in
`sta_asleep_mask` unless one of them is set already; a wake-up clears them in both masks
when one of them is set in `sta_asleep_mask`. -/
theorem wfxStaNotifyInner_masks :
    (s.wfxStaNotifyInner cmd linkId).staAsleepMask =
        (match cmd with
          | .sleep => if s.staAsleepMask &&& s.notifyBit cmd linkId = 0 then
              s.staAsleepMask ||| s.notifyBit cmd linkId else s.staAsleepMask
          | .awake => if s.staAsleepMask &&& s.notifyBit cmd linkId ≠ 0 then
              s.staAsleepMask &&& ~~~s.notifyBit cmd linkId else s.staAsleepMask) ∧
      (s.wfxStaNotifyInner cmd linkId).pspollMask =
        (match cmd with
          | .sleep => s.pspollMask
          | .awake => if s.staAsleepMask &&& s.notifyBit cmd linkId ≠ 0 then
              s.pspollMask &&& ~~~s.notifyBit cmd linkId else s.pspollMask) := by
  unfold wfxStaNotifyInner notifyBit
  by_cases hl : linkId = 0 <;> cases cmd <;>
    simp only [hl, ne_eq, not_true_eq_false, not_false_eq_true, if_true, if_false, reduceCtorEq] <;>
    split_ifs <;> simp_all

theorem and_twoPow_eq_zero {a : BitVec 32} {l : Nat} :
    a &&& BitVec.twoPow 32 l = 0#32 ↔ a.getLsbD l = false := by
  constructor
  · intro h
    have := congrArg (fun x => x.getLsbD l) h
    by_cases hl : l < 32
    · simpa [hl] using this
    · exact BitVec.getLsbD_ge a l (by omega)
  · intro h
    apply BitVec.eq_of_getLsbD_eq
    intro i
    by_cases hi : l = i.val
    · subst hi; simp [h]
    · simp [hi]

/-- The invariant of the two masks: a station has its PS-Poll bit only while asleep,
`pspoll_mask & ~sta_asleep_mask == 0`. -/
def PsPollInv (s : PsState) : Prop := s.pspollMask &&& ~~~s.staAsleepMask = 0#32

instance (s : PsState) : Decidable s.PsPollInv := inferInstanceAs (Decidable (_ = _))

theorem psPollInv_iff : s.PsPollInv ↔
    ∀ i, s.pspollMask.getLsbD i = true → s.staAsleepMask.getLsbD i = true := by
  constructor
  · intro h i hp
    have := congrArg (fun x => x.getLsbD i) h
    by_cases hi : i < 32
    · simpa [hp, hi] using this
    · simp [BitVec.getLsbD_ge s.pspollMask i (by omega)] at hp
  · intro h
    apply BitVec.eq_of_getLsbD_eq
    intro i
    cases hp : s.pspollMask.getLsbD i
    · simp [hp]
    · simp [hp, h i hp]

/-- The masks move only as the invariant allows: `sta_asleep_mask` keeps every bit or loses
some of them together with the same bits of `pspoll_mask`. -/
theorem psPollInv_of_masks {t : PsState} (h : s.PsPollInv)
    (hm : (t.staAsleepMask = s.staAsleepMask ||| t.staAsleepMask ∧ t.pspollMask = s.pspollMask) ∨
      ∃ b, t.staAsleepMask = s.staAsleepMask &&& ~~~b ∧ t.pspollMask = s.pspollMask &&& ~~~b) :
    t.PsPollInv := by
  rw [psPollInv_iff] at h ⊢
  intro i hp
  rcases hm with ⟨ha, hq⟩ | ⟨b, ha, hq⟩
  · rw [ha, BitVec.getLsbD_or, h i (hq ▸ hp), Bool.true_or]
  · rw [hq, BitVec.getLsbD_and] at hp
    rw [ha, BitVec.getLsbD_and, h i (Bool.and_eq_true_iff.mp hp).1, (Bool.and_eq_true_iff.mp hp).2]
    rfl

theorem wfxStaNotifyInner_psPollInv (h : s.PsPollInv) : (s.wfxStaNotifyInner cmd linkId).PsPollInv := by
  obtain ⟨ha, hq⟩ := @wfxStaNotifyInner_masks s cmd linkId
  apply psPollInv_of_masks h
  cases cmd <;> simp only at ha hq
  · left
    refine ⟨?_, hq⟩
    rw [ha]; split_ifs <;> simp [← BitVec.or_assoc]
  · split_ifs at ha hq
    · exact .inr ⟨_, ha, hq⟩
    · exact .inl ⟨by rw [ha, BitVec.or_self], hq⟩

theorem step_psPollInv (e : PsEvent) (h : s.PsPollInv) : (s.step e).PsPollInv := by
  cases e with
  | staNotify cmd linkId => exact wfxStaNotifyInner_psPollInv h
  | suspendResume bcMcOnly resume =>
    simp only [step, wfxSuspendResume]
    split_ifs
    all_goals first | exact h | exact wfxStaNotifyInner_psPollInv h
  | mcastTimeoutFires => simp only [step, wfxMcastTimeout]; split_ifs <;> exact h
  | multicastStartWorkRuns beacon =>
    simp only [step, wfxMulticastStartWork, wfxSetTimImpl]; split_ifs <;> (try cases beacon) <;> exact h
  | multicastStopWorkRuns beacon =>
    simp only [step, wfxMulticastStopWork, wfxSetTimImpl]; split_ifs <;> (try cases beacon) <;> exact h
  | staAdd isAp l uapsd =>
    simp only [step, wfxStaAdd]
    split_ifs
    all_goals first | exact h | exact psPollInv_of_masks h (.inl ⟨by simp [← BitVec.or_assoc], rfl⟩)
  | removeInterface => simp [step, apReset, PsPollInv]

end PsState

/-- An AP with stations on links 1 and 2, station 2 asleep after a PS-Poll, and multicast
frames buffered. -/
def twoStations : PsState := ⟨6#32, 4#32, 4#32, true, false, false, false, false, false, 0, []⟩

/-- A notification for the station on link `l` (never 0 from `wfx_sta_notify`) marks that
station asleep on `STA_NOTIFY_SLEEP` and awake on `STA_NOTIFY_AWAKE` (a link id past the 32
bits of the masks marks nothing), and changes no other station's sleep or PS-Poll bit. -/
theorem staNotify_marks_only_its_link (s : PsState) (cmd : StaNotifyCmd) (l j : Nat)
    (hl : l ≠ 0) :
    (s.wfxStaNotifyInner cmd l).staAsleepMask.getLsbD j =
        (if j = l then decide (l < 32 ∧ cmd = .sleep) else s.staAsleepMask.getLsbD j) ∧
      (j ≠ l → (s.wfxStaNotifyInner cmd l).pspollMask.getLsbD j = s.pspollMask.getLsbD j) := by
  obtain ⟨ha, hq⟩ := @PsState.wfxStaNotifyInner_masks s cmd l
  have key := @PsState.and_twoPow_eq_zero s.staAsleepMask l
  have hge : ¬l < 32 → s.staAsleepMask.getLsbD l = false := fun h => BitVec.getLsbD_ge _ _ (by omega)
  simp only [PsState.notifyBit, hl, ne_eq, not_false_eq_true, if_true] at ha hq
  cases cmd <;> simp only at ha hq <;> rw [ha, hq]
  · refine ⟨?_, fun _ => rfl⟩
    by_cases hp : s.staAsleepMask &&& BitVec.twoPow 32 l = 0#32
    · by_cases hj : j = l
      · subst hj; simp [hp, key.mp hp]
      · simp [hp, hj, Ne.symm hj]
    · have ht : s.staAsleepMask.getLsbD l = true := by simpa using mt key.mpr hp
      by_cases hj : j = l
      · subst hj
        by_cases h32 : j < 32
        · simp [hp, ht, h32]
        · simp [hge h32] at ht
      · simp [hp, hj]
  · by_cases hp : s.staAsleepMask &&& BitVec.twoPow 32 l = 0#32
    · have hf := key.mp hp
      by_cases hj : j = l
      · subst hj; simp [hp, hf]
      · simp [hp, hj]
    · by_cases hj : j = l
      · subst hj; simp [hp]
      · constructor <;> simp [hp, hj, Ne.symm hj] <;> exact BitVec.lt_of_getLsbD

theorem staNotify_marks_link_one :
    (1 : Nat) ≠ 0 ∧
      ((twoStations.wfxStaNotifyInner .sleep 1).staAsleepMask.getLsbD 2 =
          (if 2 = 1 then decide (1 < 32 ∧ StaNotifyCmd.sleep = .sleep)
            else twoStations.staAsleepMask.getLsbD 2) ∧
        ((2 : Nat) ≠ 1 → (twoStations.wfxStaNotifyInner .sleep 1).pspollMask.getLsbD 2 =
          twoStations.pspollMask.getLsbD 2)) :=
  ⟨by decide, staNotify_marks_only_its_link twoStations .sleep 1 2 (by decide)⟩

/-- In every run of the power-save code (station notifications, firmware suspend and
resume, the multicast works and timer, station additions, removal of the interface), a
station keeps a PS-Poll bit only while it is asleep, if that held at the start: every path
that wakes a station clears its PS-Poll bit together with its sleep bit. -/
theorem psPoll_run_within_asleep (s : PsState) (es : List PsEvent) (h : s.PsPollInv) :
    (s.run es).PsPollInv := by
  induction es generalizing s with
  | nil => exact h
  | cons e es ih => exact ih _ (PsState.step_psPollInv e h)

def sleepThenResume : List PsEvent :=
  [.staNotify .sleep 1, .multicastStartWorkRuns none, .suspendResume false true]

theorem psPoll_run_twoStations :
    twoStations.PsPollInv ∧ (twoStations.run sleepThenResume).PsPollInv :=
  ⟨by decide, psPoll_run_within_asleep _ _ (by decide)⟩

end WfxDriver
