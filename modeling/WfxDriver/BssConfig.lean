import WfxDriver.JoinElements
import WfxDriver.StaWork

/-!
# The BSS configuration sta.c computes

The values sta.c derives from mac80211's configuration before it sends them to the chip:
the basic-rate mask of `wfx_rate_mask_to_wsm`, the HT helpers of data_tx.h, the ERP
information of `wfx_bss_info_changed` and the protection `wfx_set_cts_work` takes from it,
the ARP filter table, the power-save mode of `wfx_config` as `wfx_set_pm` sends it, and
the join request of `wfx_do_join`.
-/

namespace WfxDriver

/-! ## Basic rates -/

/-- The loop of `wfx_rate_mask_to_wsm` from rate `i` on: each rate of the band whose bit is
set in `rates` sets `BIT(hw_value)` in `ret`. -/
def rateMaskLoop (rates : BitVec 32) : Nat → BitVec 32 → List Nat → BitVec 32
  | _, ret, [] => ret
  | i, ret, hw :: hws =>
    rateMaskLoop rates (i + 1) (if rates.getLsbD i then ret ||| BitVec.twoPow 32 hw else ret) hws

/-- `wfx_rate_mask_to_wsm(wdev, rates)`, with `hwValues` the `hw_value` of each of the
`n_bitrates` rates of the 2.4 GHz band. Its `"unsupported basic rate"` branch needs
`i >= n_bitrates` inside a loop on `i < n_bitrates`, and is not there. -/
def wfxRateMaskToWsm (hwValues : List Nat) (rates : BitVec 32) : BitVec 32 :=
  rateMaskLoop rates 0 0 hwValues

theorem exists_getElem?_cons {P : Nat → Prop} {hw j : Nat} {hws : List Nat} :
    (∃ k, P k ∧ (hw :: hws)[k]? = some j) ↔ (P 0 ∧ hw = j) ∨ ∃ k, P (k + 1) ∧ hws[k]? = some j := by
  constructor
  · rintro ⟨_ | k, hp, hk⟩
    · exact .inl ⟨hp, by simpa using hk⟩
    · exact .inr ⟨k, hp, by simpa using hk⟩
  · rintro (⟨hp, rfl⟩ | ⟨k, hp, hk⟩)
    · exact ⟨0, hp, by simp⟩
    · exact ⟨k + 1, hp, by simpa using hk⟩

theorem rateMaskLoop_getLsbD (rates : BitVec 32) (i : Nat) (ret : BitVec 32) (hws : List Nat)
    (j : Nat) : (rateMaskLoop rates i ret hws).getLsbD j = true ↔
      ret.getLsbD j = true ∨ (j < 32 ∧ ∃ k, rates.getLsbD (i + k) = true ∧ hws[k]? = some j) := by
  induction hws generalizing i ret with
  | nil => simp [rateMaskLoop]
  | cons hw hws ih =>
    rw [rateMaskLoop, ih, exists_getElem?_cons]
    simp only [Nat.add_zero, Nat.add_assoc, Nat.add_comm 1]
    by_cases hr : rates.getLsbD i
    · have hb : ret.getLsbD j = true → j < 32 := BitVec.lt_of_getLsbD
      by_cases hh : hw = j
      · subst hh; by_cases h32 : hw < 32 <;> simp [hr, h32]
      · simp [hr, hh]
    · simp [hr]

/-- What the conversion computes: bit `j` of the firmware mask is set exactly when some rate
`i` of the band is selected in `rates` and has hardware value `j` (below 32, the width of
the mask); bits of `rates` past the band's rates are ignored. -/
theorem wfxRateMaskToWsm_spec (hwValues : List Nat) (rates : BitVec 32) (j : Nat) :
    (wfxRateMaskToWsm hwValues rates).getLsbD j = true ↔
      j < 32 ∧ ∃ i, rates.getLsbD i = true ∧ hwValues[i]? = some j := by
  rw [wfxRateMaskToWsm, rateMaskLoop_getLsbD]
  simp

/-! ## HT (data_tx.h) -/

inductive ChannelType
  | noHt
  | ht20
  | ht40minus
  | ht40plus
  deriving DecidableEq, Repr

/-- `struct wfx_ht_info`, with the two fields of `ht_cap` the helpers read. -/
structure HtInfo where
  htCapCap : Nat
  ampduDensity : Nat
  channelType : ChannelType
  operationMode : Nat
  deriving DecidableEq, Repr

/-- `IEEE80211_HT_CAP_LDPC_CODING`, `_GRN_FLD`, `_SGI_20` and
`IEEE80211_HT_OP_MODE_NON_GF_STA_PRSNT`. -/
def htCapLdpcCoding : Nat := 0x0001
def htCapGrnFld : Nat := 0x0010
def htCapSgi20 : Nat := 0x0020
def htOpModeNonGfStaPrsnt : Nat := 0x0004

def wfxIsHt (h : HtInfo) : Bool := h.channelType ≠ .noHt

def wfxHtGreenfield (h : HtInfo) : Bool :=
  wfxIsHt h && h.htCapCap &&& htCapGrnFld != 0 && h.operationMode &&& htOpModeNonGfStaPrsnt == 0

def wfxHtFecCoding (h : HtInfo) : Bool := wfxIsHt h && h.htCapCap &&& htCapLdpcCoding != 0

def wfxHtShortGi (h : HtInfo) : Bool := wfxIsHt h && h.htCapCap &&& htCapSgi20 != 0

def wfxHtAmpduDensity (h : HtInfo) : Nat := if !wfxIsHt h then 0 else h.ampduDensity

/-! ## ERP information -/

/-- `WLAN_ERP_NON_ERP_PRESENT`, `WLAN_ERP_USE_PROTECTION`, `WLAN_ERP_BARKER_PREAMBLE`:
`1<<0`, `1<<1`, `1<<2`. -/
def wlanErpNonErpPresent : BitVec 32 := BitVec.twoPow 32 0
def wlanErpUseProtection : BitVec 32 := BitVec.twoPow 32 1
def wlanErpBarkerPreamble : BitVec 32 := BitVec.twoPow 32 2

/-- The ERP block of `wfx_bss_info_changed` (on `BSS_CHANGED_ASSOC`, `_ERP_CTS_PROT` or
`_ERP_PREAMBLE`): the new `erp_info`, and whether `set_cts_work` is queued. -/
def erpUpdate (erpInfo : BitVec 32) (useCtsProt useShortPreamble : Bool) : BitVec 32 × Bool :=
  let prevErpInfo := erpInfo
  let e := if useCtsProt then erpInfo ||| wlanErpUseProtection
    else if prevErpInfo &&& wlanErpNonErpPresent = 0 then erpInfo &&& ~~~wlanErpUseProtection
    else erpInfo
  let e := if useShortPreamble then e ||| wlanErpBarkerPreamble else e &&& ~~~wlanErpBarkerPreamble
  (e, prevErpInfo != e)

/-- What `wfx_set_cts_work` passes to `wsm_erp_use_protection`: `erp_ie[2] &
WLAN_ERP_USE_PROTECTION`, with `erp_ie[2]` the low byte of `erp_info`, that is bit 1. -/
def ctsProtection (erpInfo : BitVec 32) : Bool := erpInfo.getLsbD 1

theorem erpUpdate_getLsbD (e : BitVec 32) (cts pre : Bool) (i : Nat) :
    (erpUpdate e cts pre).1.getLsbD i =
      if i = 1 then (cts || e.getLsbD 1 && e.getLsbD 0)
      else if i = 2 then pre else e.getLsbD i := by
  have h0 : e &&& wlanErpNonErpPresent = (0 : BitVec 32) ↔ e.getLsbD 0 = false := by
    rw [wlanErpNonErpPresent, BitVec.and_twoPow]; cases e.getLsbD 0 <;> decide
  simp only [erpUpdate, h0, wlanErpUseProtection, wlanErpBarkerPreamble]
  by_cases hi : i < 32
  · by_cases h1 : i = 1
    · subst h1; cases cts <;> cases pre <;> cases h : e.getLsbD 0 <;> simp [h]
    by_cases h2 : i = 2
    · subst h2; cases cts <;> cases pre <;> cases h : e.getLsbD 0 <;> simp [h]
    cases cts <;> cases pre <;> cases h : e.getLsbD 0 <;>
      simp [h, hi, h1, h2, Ne.symm h1, Ne.symm h2]
  · have he : e.getLsbD i = false := BitVec.getLsbD_ge e i (by omega)
    have h1 : i ≠ 1 := by omega
    have h2 : i ≠ 2 := by omega
    cases cts <;> cases pre <;> cases h : e.getLsbD 0 <;>
      simp [h, hi, he, h1, h2, Ne.symm h1, Ne.symm h2]

/-- The ERP update sets the protection bit when `use_cts_prot` asks for it, and otherwise
keeps it only while a non-ERP station is present; the Barker-preamble bit follows
`use_short_preamble`; every other bit of `erp_info` is kept. So the protection
`wfx_set_cts_work` then sends is `use_cts_prot`, or the old protection with a non-ERP
station present. Repeating the same update changes nothing and queues no
`set_cts_work`. -/
theorem erpUpdate_spec (e : BitVec 32) (cts pre : Bool) :
    ctsProtection (erpUpdate e cts pre).1 = (cts || ctsProtection e && e.getLsbD 0) ∧
      (erpUpdate e cts pre).1.getLsbD 2 = pre ∧
      (∀ i, i ≠ 1 → i ≠ 2 → (erpUpdate e cts pre).1.getLsbD i = e.getLsbD i) ∧
      erpUpdate (erpUpdate e cts pre).1 cts pre = ((erpUpdate e cts pre).1, false) := by
  refine ⟨by simp [ctsProtection, erpUpdate_getLsbD], by simp [erpUpdate_getLsbD],
    fun i h1 h2 => by simp [erpUpdate_getLsbD, h1, h2], ?_⟩
  have hfix : (erpUpdate (erpUpdate e cts pre).1 cts pre).1 = (erpUpdate e cts pre).1 := by
    apply BitVec.eq_of_getLsbD_eq
    intro i
    simp only [erpUpdate_getLsbD]
    by_cases h1 : i.val = 1
    · simp only [h1, if_true]; cases cts <;> cases e.getLsbD 0 <;> simp
    · by_cases h2 : i.val = 2 <;> simp [h1, h2]
  refine Prod.ext hfix ?_
  change ((erpUpdate e cts pre).1 != (erpUpdate (erpUpdate e cts pre).1 cts pre).1) = false
  rw [hfix, bne_self_eq_false]

/-! ## ARP filter -/

/-- The ARP block of `wfx_bss_info_changed` (on `BSS_CHANGED_ARP_FILTER`): for each of the
`WSM_MAX_ARP_IP_ADDRTABLE_ENTRIES` conditions it sends, the address it filters with
`WSM_ARP_NS_FILTERING_ENABLE`, or `none` for `WSM_ARP_NS_FILTERING_DISABLE`. -/
def arpFilters (maxEntries : Nat) (arpAddrCnt : Int) (arpAddrList : List UInt32) :
    List (Option UInt32) :=
  let nbArpAddr : Int :=
    if arpAddrCnt ≤ 0 ∨ arpAddrCnt > maxEntries then 0 else arpAddrCnt
  (List.range maxEntries).map fun (i : Nat) =>
    if (i : Int) < nbArpAddr then some (arpAddrList.getD i 0) else none

/-- Every entry of the table is sent. When the stack's address count is between 1 and the
table size, the entries filter exactly the first `arp_addr_cnt` addresses in order; when it
is larger, every entry is disabled: the driver drops ARP filtering altogether rather than
keep the addresses that fit. -/
theorem arpFilters_spec (maxEntries : Nat) (arpAddrCnt : Int) (arpAddrList : List UInt32) :
    (arpFilters maxEntries arpAddrCnt arpAddrList).length = maxEntries ∧
      (0 < arpAddrCnt → arpAddrCnt ≤ maxEntries →
        (arpFilters maxEntries arpAddrCnt arpAddrList).filterMap id =
          (List.range arpAddrCnt.toNat).map (arpAddrList.getD · 0)) ∧
      (maxEntries < arpAddrCnt → ∀ f ∈ arpFilters maxEntries arpAddrCnt arpAddrList, f = none) := by
  refine ⟨by simp [arpFilters], fun h0 hm => ?_, fun hm f hf => ?_⟩
  · obtain ⟨n, rfl⟩ : ∃ n : Nat, arpAddrCnt = n := ⟨arpAddrCnt.toNat, by omega⟩
    obtain ⟨k, rfl⟩ := Nat.exists_eq_add_of_le (show n ≤ maxEntries by omega)
    have hnb : ¬((n : Int) ≤ 0 ∨ (n : Int) > ((n + k : Nat) : Int)) := by omega
    simp only [arpFilters, hnb, if_false, Int.toNat_ofNat, List.range_add, List.map_append,
      List.filterMap_append, List.filterMap_map]
    refine (congrArg₂ (· ++ ·) ?_ (List.filterMap_eq_nil_iff.mpr fun a _ => ?_)).trans
      (List.append_nil _)
    · rw [← List.filterMap_eq_map]
      exact List.filterMap_congr fun i hi => by simp [List.mem_range.mp hi]
    · simp
  · have hnb : arpAddrCnt ≤ 0 ∨ arpAddrCnt > maxEntries := .inr hm
    simp only [arpFilters, hnb, if_true, List.mem_map] at hf
    obtain ⟨i, -, rfl⟩ := hf
    simp

/-! ## Power-save mode -/

inductive JoinMode
  | ibss
  | bss
  deriving DecidableEq, Repr

inductive Preamble
  | long
  | short
  deriving DecidableEq, Repr

/-- The `struct hif_req_join` `wfx_do_join` sends (the BSSID it copies is not modelled). -/
structure HifReqJoin where
  mode : JoinMode
  preambleType : Preamble
  probeForJoin : Bool
  atimWindow : Nat
  basicRateSet : BitVec 32
  beaconInterval : Nat
  channelNumber : Nat
  ssidLength : Nat
  ssid : List UInt8

/-- The request of `wfx_do_join` once it got past the BSS lookup and the scan check, and
the `beacon_int` it leaves in `wvif`: the sanity checks replace an empty basic-rate set by
the three lowest rates and a zero beacon interval by 1. -/
def wfxDoJoinReq (hwValues : List Nat) (ibssJoined useShortPreamble : Bool)
    (basicRates : BitVec 32) (chanNoIr : Bool) (chanHwValue beaconInt : Nat)
    (ssidie : Option IeBytes) : HifReqJoin × Nat :=
  let basicRateSet := wfxRateMaskToWsm hwValues basicRates
  let basicRateSet := if basicRateSet = 0 then 7#32 else basicRateSet
  let beaconInt := if beaconInt = 0 then 1 else beaconInt
  let ssid := wfxDoJoinSsid ibssJoined ssidie
  (⟨if ibssJoined then .ibss else .bss, if useShortPreamble then .short else .long,
    !chanNoIr, 0, basicRateSet, beaconInt, chanHwValue, ssid.ssidLength, ssid.ssid⟩, beaconInt)

end WfxDriver
