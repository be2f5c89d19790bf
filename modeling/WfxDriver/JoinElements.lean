import WfxDriver.Message

/-!
# The SSID and RSN elements on the join path

`wfx_do_join` copies the body of the BSS's SSID element into `join.ssid`, as many bytes as
the element's length byte says. `wfx_set_mfp` walks the RSN element through a
`const uint16_t *`: past version and group cipher suite to the pairwise-suite count, past
the pairwise suites to the AKM-suite count, past the AKM suites to the RSN Capabilities
word, whose bits 7 and 6 give MFPC and MFPR. Neither compares an offset with the element's
`2 + L` bytes.

An element is seen from the pointer `ieee80211_bss_get_ie` returns: the byte at each
offset, where offsets 0 and 1 hold the id and the length `L`, the next `L` the body, and
those from `2 + L` on whatever memory follows the element. Each function returns the
offsets it read. The SSID copy reads inside the element (`wfxDoJoinSsid_spec`); the RSN
walk reads inside it exactly when the element reaches the capabilities word its own
counts place, and then agrees with the 802.11 layout (`wfxSetMfp_reads_inside_iff`,
`wfxSetMfp_of_rsnCapabilities`).
-/

namespace WfxDriver

abbrev IeBytes := Nat → UInt8

/-- `2 + L`: the bytes of the element itself. -/
def ieSize (ie : IeBytes) : Nat := 2 + (ie 1).toNat

def IeBytes.ofList (l : List UInt8) (fill : UInt8) : IeBytes := fun i => l.getD i fill

def le16 (ie : IeBytes) (o : Nat) : Nat := (ie o).toNat + 256 * (ie (o + 1)).toNat

/-! ## The code -/

/-- The SSID fields of `struct hif_req_join` that `wfx_do_join` fills (`ssid` holds the bytes
`memcpy` stores from `join.ssid` on, in order), and the element offsets it read. -/
structure JoinSsid where
  ssidLength : Nat
  ssid : List UInt8
  reads : List Nat

/-- The SSID block of `wfx_do_join`: `ssidie` is `ieee80211_bss_get_ie(bss, WLAN_EID_SSID)`,
and `join` starts zeroed. -/
def wfxDoJoinSsid (ibssJoined : Bool) (ssidie : Option IeBytes) : JoinSsid :=
  match ibssJoined, ssidie with
  | false, some ssidie =>
    let ssidLength := (ssidie 1).toNat
    ⟨ssidLength, (List.range ssidLength).map (fun i => ssidie (2 + i)),
      1 :: (List.range ssidLength).map (2 + ·)⟩
  | _, _ => ⟨0, [], []⟩

def pairwiseCipherSuiteCountOffset : Nat := 8 / 2

def pairwiseCipherSuiteSize : Nat := 4 / 2

def akmSuiteSize : Nat := 4 / 2

/-- `*ptr` for a `const uint16_t *ptr` at 16-bit index `i` of the element, on a
little-endian host. -/
def load16 (ie : IeBytes) (i : Nat) : Nat := le16 ie (2 * i)

/-- The flags `wfx_set_mfp` passes to `wsm_set_mfp`, and the element offsets it read. -/
structure Mfp where
  mfpc : Bool
  mfpr : Bool
  reads : List Nat

/-- `wfx_set_mfp`: `rsn` is `ieee80211_bss_get_ie(bss, WLAN_EID_RSN)`, `none` also for a
null `bss`. `BIT(6)` is `0x40` and `BIT(7)` is `0x80`. -/
def wfxSetMfp : Option IeBytes → Mfp
  | none => ⟨false, false, []⟩
  | some ie =>
    let i₀ := pairwiseCipherSuiteCountOffset
    let i₁ := i₀ + 1 + pairwiseCipherSuiteSize * load16 ie i₀
    let i₂ := i₁ + 1 + akmSuiteSize * load16 ie i₁
    ⟨load16 ie i₂ &&& 0x80 != 0, load16 ie i₂ &&& 0x40 != 0,
      [2 * i₀, 2 * i₀ + 1, 2 * i₁, 2 * i₁ + 1, 2 * i₂, 2 * i₂ + 1]⟩

/-! ## The 802.11 layout of the RSN element -/

/-- Byte offset of the AKM-suite count: after id, length, version, group cipher suite,
the pairwise-suite count and its 4-byte suites. -/
def rsnAkmOffset (ie : IeBytes) : Nat := 8 + 2 + 4 * le16 ie 8

def rsnCapsOffset (ie : IeBytes) : Nat := rsnAkmOffset ie + 2 + 4 * le16 ie (rsnAkmOffset ie)

def rsnCapabilities (ie : IeBytes) : Option Nat :=
  if rsnCapsOffset ie + 2 ≤ ieSize ie then some (le16 ie (rsnCapsOffset ie)) else none

/-! ## What the code reads -/

/-- The SSID copy reads the length byte and the body, and stores `L` bytes, whatever `L`
is. -/
theorem wfxDoJoinSsid_spec (ie : IeBytes) :
    (∀ o ∈ (wfxDoJoinSsid false (some ie)).reads, o < ieSize ie) ∧
      (wfxDoJoinSsid false (some ie)).ssidLength = (ie 1).toNat ∧
      (wfxDoJoinSsid false (some ie)).ssid.length = (ie 1).toNat := by
  refine ⟨?_, rfl, by simp [wfxDoJoinSsid]⟩
  simp only [wfxDoJoinSsid, List.mem_cons, List.mem_map, List.mem_range, ieSize]
  rintro o (rfl | ⟨i, hi, rfl⟩) <;> omega

theorem wfxSetMfp_some (ie : IeBytes) :
    wfxSetMfp (some ie) =
      ⟨le16 ie (rsnCapsOffset ie) &&& 0x80 != 0, le16 ie (rsnCapsOffset ie) &&& 0x40 != 0,
        [8, 9, rsnAkmOffset ie, rsnAkmOffset ie + 1, rsnCapsOffset ie, rsnCapsOffset ie + 1]⟩ := by
  have h₁ : 2 * (5 + 2 * le16 ie 8) = rsnAkmOffset ie := by unfold rsnAkmOffset; omega
  have h₂ : 2 * (5 + 2 * le16 ie 8 + 1 + 2 * le16 ie (rsnAkmOffset ie)) = rsnCapsOffset ie := by
    unfold rsnCapsOffset; omega
  simp only [wfxSetMfp, load16, pairwiseCipherSuiteCountOffset, pairwiseCipherSuiteSize,
    akmSuiteSize, Nat.reduceDiv, Nat.reduceMul, Nat.reduceAdd, h₁, h₂]

/-- `wfx_set_mfp` reads only inside the RSN element exactly when the element reaches the
RSN Capabilities word its own suite counts place. -/
theorem wfxSetMfp_reads_inside_iff (ie : IeBytes) :
    (∀ o ∈ (wfxSetMfp (some ie)).reads, o < ieSize ie) ↔ (rsnCapabilities ie).isSome := by
  have hk : 10 ≤ rsnAkmOffset ie ∧ rsnAkmOffset ie + 2 ≤ rsnCapsOffset ie := by
    unfold rsnCapsOffset rsnAkmOffset; omega
  rw [wfxSetMfp_some]
  unfold rsnCapabilities
  simp only [List.mem_cons, List.mem_singleton, List.not_mem_nil, or_false, forall_eq_or_imp,
    forall_eq]
  split_ifs with h
  · simp only [Option.isSome_some, iff_true]; omega
  · simp only [Option.isSome_none, Bool.false_eq_true, iff_false, not_and]; omega

/-- Where the element holds its RSN Capabilities word, `wfx_set_mfp` sets MFPC and MFPR
from its bits 7 and 6. -/
theorem wfxSetMfp_of_rsnCapabilities {ie : IeBytes} {caps : Nat}
    (h : rsnCapabilities ie = some caps) :
    (wfxSetMfp (some ie)).mfpc = (caps &&& 0x80 != 0) ∧
      (wfxSetMfp (some ie)).mfpr = (caps &&& 0x40 != 0) := by
  unfold rsnCapabilities at h
  split_ifs at h
  cases h
  rw [wfxSetMfp_some]
  exact ⟨rfl, rfl⟩

def longSsidIe : IeBytes := IeBytes.ofList [0, 255] 0x41

def versionOnlyRsnIe : IeBytes := IeBytes.ofList [48, 2, 1, 0] 0xFF

/-- On untrusted elements the join path overruns: an SSID element of 255 bytes has all of
them stored into `join.ssid` of any smaller size, and for an RSN element without
capabilities `wfx_set_mfp` reads past the element and takes MFPC and MFPR from the bytes
after it. -/
theorem join_overruns_short_elements (ssidSize : Nat) (h : ssidSize < 255) :
    ssidSize < (wfxDoJoinSsid false (some longSsidIe)).ssid.length ∧
      rsnCapabilities versionOnlyRsnIe = none ∧
      (∃ o ∈ (wfxSetMfp (some versionOnlyRsnIe)).reads, ieSize versionOnlyRsnIe ≤ o) ∧
      (wfxSetMfp (some versionOnlyRsnIe)).mfpc = true ∧
      (wfxSetMfp (some versionOnlyRsnIe)).mfpr = true := by
  refine ⟨?_, by decide, by decide, by decide, by decide⟩
  have : (wfxDoJoinSsid false (some longSsidIe)).ssid.length = 255 := by
    simp [wfxDoJoinSsid, longSsidIe, IeBytes.ofList]
  omega

theorem join_overruns_hif_ssid :
    32 < (wfxDoJoinSsid false (some longSsidIe)).ssid.length ∧
      rsnCapabilities versionOnlyRsnIe = none ∧
      (∃ o ∈ (wfxSetMfp (some versionOnlyRsnIe)).reads, ieSize versionOnlyRsnIe ≤ o) ∧
      (wfxSetMfp (some versionOnlyRsnIe)).mfpc = true ∧
      (wfxSetMfp (some versionOnlyRsnIe)).mfpr = true :=
  join_overruns_short_elements 32 (by decide)

end WfxDriver
