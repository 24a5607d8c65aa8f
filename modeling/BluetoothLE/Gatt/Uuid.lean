import BluetoothLE.GattTypes
import BluetoothLE.Lib.Hex
import BluetoothLE.Lib.Segments

namespace Ggk
open Lib
set_option autoImplicit true

theorem isXDigit_iff (c : Char) : isXDigit c = true ↔ c ∈ allHexDigits := by
  apply Iff.intro
  · intro h
    have hcodes : ∀ n < 103, 48 ≤ n ∧ n ≤ 57 ∨ 97 ≤ n ∧ n ≤ 102 ∨ 65 ≤ n ∧ n ≤ 70 →
        n ∈ allHexDigits.map Char.toNat := by decide
    have hrange : 48 ≤ c.toNat ∧ c.toNat ≤ 57 ∨ 97 ≤ c.toNat ∧ c.toNat ≤ 102 ∨
        65 ≤ c.toNat ∧ c.toNat ≤ 70 := by
      simpa [isXDigit, Char.isDigit, Char.le_def, UInt32.le_iff_toNat_le, or_assoc] using h
    obtain ⟨c', hc', heq⟩ := List.mem_map.1 (hcodes c.toNat (by omega) hrange)
    rw [← Char.toNat_inj.1 heq]
    exact hc'
  · have hall : ∀ c ∈ allHexDigits, isXDigit c = true := forall_mem_of_all (by decide)
    exact hall c

/-- A UUID is written in 32 hexadecimal digits, or in five groups of them with hyphens between. -/
def isUuid (s : String) : Bool :=
  let groups := s.toList.splitOn '-'
  (groups.map List.length == [32] || groups.map List.length == [8, 4, 4, 4, 12]) &&
    groups.all fun group => group.all isXDigit

/-- The number of 128 bits that the digits of a UUID stand for. -/
def uuidValue (s : String) : Nat := hexNumber (s.toList.filter (· ≠ '-'))

/-- The form of 36 characters, with the four hyphens that `validate` looks for. -/
def Hyphenated (s : String) : Prop := Punctuated '-' [8, 4, 4, 4, 12] s.toList

def HexGroups (groups : List (List Char)) : Prop :=
  ∀ group ∈ groups, ∀ c ∈ group, isXDigit c = true

namespace GattUuid

theorem hyphenated_iff (s : String) : Hyphenated s ↔ s.toList.length = 36 ∧
    s.toList[8]? = some '-' ∧ s.toList[13]? = some '-' ∧ s.toList[18]? = some '-' ∧
      s.toList[23]? = some '-' := by
  simp only [Hyphenated, Punctuated, List.getElem?_drop, List.length_drop, List.drop_drop,
    Nat.reduceAdd]
  apply Iff.intro
  · rintro ⟨h8, h13, h18, h23, hlength⟩
    exact ⟨by omega, h8, h13, h18, h23⟩
  · rintro ⟨hlength, h8, h13, h18, h23⟩
    exact ⟨h8, h13, h18, h23, by omega⟩

theorem validate_iff (s : String) : validate s = true ↔
    Hyphenated s ∨ s.toList.length = 32 ∧ s.toList.all isXDigit = true := by
  rw [hyphenated_iff]
  simp only [validate]
  split_ifs with h36 h32
  · exact iff_of_true rfl (.inl h36)
  · simp [h32]
  · simp [h32, h36]

theorem hexGroups_splitOn {s : String} (h : HexGroups (s.toList.splitOn '-')) :
    ∀ c ∈ s.toList.filter (· ≠ '-'), isXDigit c = true := by
  intro c hc
  rw [← flatten_splitOn] at hc
  obtain ⟨group, hgroup, hmem⟩ := List.mem_flatten.1 hc
  exact h group hgroup c hmem

theorem isXDigit_ne_hyphen (h : isXDigit c = true) : c ≠ '-' := by
  rintro rfl
  exact absurd h (by decide)

theorem splitOn_of_hex {l : List Char} (h : ∀ c ∈ l, isXDigit c = true) :
    l.splitOn '-' = [l] :=
  List.splitOn_eq_singleton fun hmem => isXDigit_ne_hyphen (h _ hmem) rfl

/-- The parts between the four hyphens are the groups, unless there is another hyphen in them. -/
theorem splitOn_of_hyphenated {s : String} (h : Hyphenated s)
    (hhex : HexGroups (cut [8, 4, 4, 4, 12] s.toList)) :
    s.toList.splitOn '-' = cut [8, 4, 4, 4, 12] s.toList := by
  obtain ⟨hlengths, hl⟩ := h.cut
  have hne : cut [8, 4, 4, 4, 12] s.toList ≠ [] := by
    intro hnil
    rw [hnil] at hlengths
    cases hlengths
  have hsplit := List.splitOn_intercalate '-'
    (fun group hgroup hmem => isXDigit_ne_hyphen (hhex group hgroup _ hmem) rfl) hne
  rw [← hl] at hsplit
  exact hsplit

/-- The two forms of a UUID, by what the constructor looks at and by what it does not. -/
theorem isUuid_iff (s : String) : isUuid s = true ↔
    Hyphenated s ∧ HexGroups (cut [8, 4, 4, 4, 12] s.toList) ∨
      s.toList.length = 32 ∧ s.toList.all isXDigit = true := by
  have hall (groups : List (List Char)) :
      (groups.all fun group => group.all isXDigit) = true ↔ HexGroups groups := by
    simp [HexGroups]
  rw [isUuid, Bool.and_eq_true, Bool.or_eq_true, beq_iff_eq, beq_iff_eq, hall]
  apply Iff.intro
  · rintro ⟨hlengths | hlengths, hhex⟩
    · obtain ⟨group, hgroup, hlength⟩ := List.map_eq_singleton_iff.1 hlengths
      have hl : ['-'].intercalate (s.toList.splitOn '-') = s.toList :=
        List.intercalate_splitOn '-'
      rw [hgroup, List.intercalate_singleton] at hl
      rw [hgroup] at hhex
      rw [← hl]
      exact .inr ⟨hlength, List.all_eq_true.2 (hhex group (List.mem_singleton_self group))⟩
    · obtain ⟨hhyphenated, hcut⟩ := cut_intercalate '-' (s.toList.splitOn '-')
      rw [hlengths, List.intercalate_splitOn] at hhyphenated hcut
      rw [← hcut] at hhex
      exact .inl ⟨hhyphenated, hhex⟩
  · rintro (⟨h, hhex⟩ | ⟨hlength, hhex⟩)
    · rw [splitOn_of_hyphenated h hhex]
      exact ⟨.inr h.cut.1, hhex⟩
    · rw [splitOn_of_hex (List.all_eq_true.1 hhex)]
      refine ⟨.inl (by rw [List.map_singleton, hlength]), fun group hgroup => ?_⟩
      rw [List.mem_singleton.1 hgroup]
      exact List.all_eq_true.1 hhex

theorem uuidDigits {s : String} (h : isUuid s = true) :
    (s.toList.filter (· ≠ '-')).length = 32 ∧
      ∀ c ∈ s.toList.filter (· ≠ '-'), c ∈ allHexDigits := by
  rw [isUuid, Bool.and_eq_true, Bool.or_eq_true, beq_iff_eq, beq_iff_eq] at h
  obtain ⟨hlengths, hhex⟩ := h
  have hgroups : HexGroups (s.toList.splitOn '-') := by
    simpa [HexGroups] using hhex
  apply And.intro
  · rw [← flatten_splitOn, List.length_flatten]
    rcases hlengths with h | h <;> rw [h] <;> rfl
  · intro c hc
    exact (isXDigit_iff c).1 (hexGroups_splitOn hgroups c hc)

theorem ofString_ok {s : String} : (∃ u, ofString s = .ok u) ↔ validate s = true := by
  rw [ofString]
  split_ifs with h
  · exact iff_of_true ⟨_, rfl⟩ h
  · exact iff_of_false (fun ⟨_, hu⟩ => nomatch hu) h

theorem ofString_uuid {s : String} (h : ofString s = .ok u) : u.uuid = s := by
  rw [ofString] at h
  split_ifs at h
  cases h
  rfl

/-- 32 lower-case hexadecimal digits. -/
def IsBlueZFormat (s : String) : Prop :=
  s.toList.length = 32 ∧ ∀ c ∈ s.toList, c ∈ lowerHexDigits

theorem toList_toBlueZFormat (u : GattUuid) :
    u.toBlueZFormat.toList = (u.uuid.toList.filter (· ≠ '-')).map Char.toLower := by
  have hne : (fun c => c != '-') = fun c => decide (c ≠ '-') := by
    funext c
    rw [Bool.eq_iff_iff, bne_iff_ne, decide_eq_true_iff]
  rw [toBlueZFormat, String.toList_ofList, hne]

theorem toBlueZFormat_isBlueZFormat {u : GattUuid} (h : isUuid u.uuid = true) :
    IsBlueZFormat u.toBlueZFormat := by
  obtain ⟨hlength, hhex⟩ := uuidDigits h
  rw [IsBlueZFormat, toList_toBlueZFormat, List.length_map]
  exact ⟨hlength, map_toLower_lower hhex⟩

/-- The constructor accepts a UUID in both forms. In the form with hyphens it accepts everything
that has them in their places. -/
theorem ofString_iff (s : String) :
    (((∃ u, ofString s = .ok u) ↔ isUuid s = true) ∧
      ∀ u, ofString s = .ok u → IsBlueZFormat u.toBlueZFormat) ↔
      (Hyphenated s → HexGroups (cut [8, 4, 4, 4, 12] s.toList)) := by
  have hcanonical (hiff : (∃ u, ofString s = .ok u) ↔ isUuid s = true) (u : GattUuid)
      (hu : ofString s = .ok u) : IsBlueZFormat u.toBlueZFormat := by
    have huuid := hiff.1 ⟨u, hu⟩
    rw [← ofString_uuid hu] at huuid
    exact toBlueZFormat_isBlueZFormat huuid
  have hlength (h : Hyphenated s) (h' : s.toList.length = 32) : False := by
    have h36 := ((hyphenated_iff s).1 h).1
    omega
  rw [and_iff_left_of_imp hcanonical, ofString_ok, validate_iff, isUuid_iff]
  apply Iff.intro
  · intro hiff h
    rcases hiff.1 (.inl h) with h' | h'
    · exact h'.2
    · exact (hlength h h'.1).elim
  · intro hhex
    apply or_congr_left'
    intro _
    exact ⟨fun h => ⟨h, hhex h⟩, And.left⟩

/-- Letters that are no digits, between hyphens in the right places. -/
theorem letters_accepted :
    let s := "12345678-zzzz-zzzz-zzzz-zzzzzzzzzzzz"
    isUuid s = false ∧ ∃ u, ofString s = .ok u ∧ ¬ IsBlueZFormat u.toBlueZFormat := by
  intro s
  have hvalid : validate s = true := by decide
  refine ⟨by decide, ⟨s, hvalid⟩, dif_pos hvalid, fun h => ?_⟩
  have hz : 'z' ∈ (s.toList.filter (· ≠ '-')).map Char.toLower := by decide
  rw [← toList_toBlueZFormat ⟨s, hvalid⟩] at hz
  exact absurd (h.2 'z' hz) (by decide)

theorem ofString_isUuid {s : String} (h : isUuid s = true) :
    ∃ u, ofString s = .ok u ∧ u.uuid = s := by
  have hvalid : validate s = true := by
    rw [validate_iff]
    exact ((isUuid_iff s).1 h).imp_left And.left
  exact ⟨⟨s, hvalid⟩, dif_pos hvalid, rfl⟩

theorem isUuid_toBlueZFormat {t : String} (h : IsBlueZFormat t) : isUuid t = true := by
  rw [isUuid_iff]
  refine .inr ⟨h.1, List.all_eq_true.2 fun c hc => ?_⟩
  exact (isXDigit_iff c).2 (lower_mem_all (h.2 c hc))

theorem canonical_of_lower {l : List Char} (h : ∀ c ∈ l, c ∈ lowerHexDigits) :
    (l.filter (· ≠ '-')).map Char.toLower = l := by
  have hfilter : l.filter (· ≠ '-') = l := by
    rw [List.filter_eq_self]
    intro c hc
    exact decide_eq_true (isXDigit_ne_hyphen ((isXDigit_iff c).2 (lower_mem_all (h c hc))))
  rw [hfilter, map_toLower_of_lower h]

theorem toBlueZFormat_fixed {u : GattUuid} (h : IsBlueZFormat u.uuid) :
    u.toBlueZFormat = u.uuid := by
  rw [← String.toList_inj, toList_toBlueZFormat, canonical_of_lower h.2]

theorem toBlueZShortFormat_eq (u : GattUuid) :
    u.toBlueZShortFormat.toList = u.toBlueZFormat.toList.take 8 := by
  rw [toBlueZShortFormat]
  split_ifs with h
  · rw [String.toList_ofList]
  · rw [String.toList_ofList, List.take_of_length_le (by omega)]

theorem toBlueZFormat_eq_iff {u v : GattUuid} (hu : isUuid u.uuid = true)
    (hv : isUuid v.uuid = true) :
    u.toBlueZFormat = v.toBlueZFormat ↔ uuidValue u.uuid = uuidValue v.uuid := by
  obtain ⟨hlength, hhex⟩ := uuidDigits hu
  obtain ⟨hlength', hhex'⟩ := uuidDigits hv
  rw [← String.toList_inj, toList_toBlueZFormat, toList_toBlueZFormat,
    map_toLower_eq_iff hhex hhex' (hlength.trans hlength'.symm)]
  rfl

theorem hexDigit_lower : ∀ d < 16, Utils.lowerHex.getD d '0' ∈ lowerHexDigits ∧
    hexValue (Utils.lowerHex.getD d '0') = d := by decide

theorem hexDigits_lower (width n : Nat) :
    ∀ c ∈ Utils.hexDigits Utils.lowerHex width n, c ∈ lowerHexDigits :=
  Utils.forall_mem_hexDigits (fun d hd => (hexDigit_lower d hd).1) width n

/-- The short format of a short UUID has the number in it. -/
theorem fromShortUuid_short (x : UInt16) :
    (fromShortUuid x).toBlueZShortFormat.toList =
      "0000".toList ++ Utils.hexDigits Utils.lowerHex 4 x.toNat := by
  have hlower := hexDigits_lower 4 x.toNat
  have hfront : ("0000".toList ++ Utils.hexDigits Utils.lowerHex 4 x.toNat).length = 8 := by
    rw [List.length_append, Utils.length_hexDigits]
    rfl
  rw [toBlueZShortFormat_eq, toList_toBlueZFormat, fromShortUuid, String.toList_ofList,
    shortUuidChars, List.filter_append, List.map_append, canonical_of_lower, List.take_left' hfront]
  exact List.forall_mem_append.2 ⟨forall_mem_of_all (by decide), hlower⟩

/-- UUIDs in any spelling have one format for each number, which is a spelling itself. -/
theorem canonical {s t : String} (hs : isUuid s = true) (ht : isUuid t = true) :
    ∃ u v, ofString s = .ok u ∧ ofString t = .ok v ∧
      (u.toBlueZFormat = v.toBlueZFormat ↔ uuidValue s = uuidValue t) ∧
      (∃ w, ofString u.toBlueZFormat = .ok w ∧ w.toBlueZFormat = u.toBlueZFormat) ∧
      (∀ u : GattUuid, u.toBlueZShortFormat.toList = u.toBlueZFormat.toList.take 8) ∧
      ∀ x, (fromShortUuid x).toBlueZShortFormat.toList =
          "0000".toList ++ Utils.hexDigits Utils.lowerHex 4 x.toNat ∧
        hexNumber (Utils.hexDigits Utils.lowerHex 4 x.toNat) = x.toNat := by
  obtain ⟨u, hu, rfl⟩ := ofString_isUuid hs
  obtain ⟨v, hv, rfl⟩ := ofString_isUuid ht
  have hformat := toBlueZFormat_isBlueZFormat hs
  obtain ⟨w, hw, hwu⟩ := ofString_isUuid (isUuid_toBlueZFormat hformat)
  refine ⟨u, v, hu, hv, toBlueZFormat_eq_iff hs ht, ⟨w, hw, ?_⟩, toBlueZShortFormat_eq, ?_⟩
  · rw [← hwu] at hformat
    rw [toBlueZFormat_fixed hformat, hwu]
  · intro x
    refine ⟨fromShortUuid_short x, ?_⟩
    rw [Utils.hexNumber_hexDigits fun d hd => (hexDigit_lower d hd).2]
    exact Nat.mod_eq_of_lt x.toNat_lt

/-- One UUID in two spellings. -/
theorem canonical_spellings :
    let s := "0000180F-0000-1000-8000-00805F9B34FB"
    let t := "0000180f00001000800000805f9b34fb"
    ∃ u v, ofString s = .ok u ∧ ofString t = .ok v ∧
      (u.toBlueZFormat = v.toBlueZFormat ↔ uuidValue s = uuidValue t) ∧
      (∃ w, ofString u.toBlueZFormat = .ok w ∧ w.toBlueZFormat = u.toBlueZFormat) ∧
      (∀ u : GattUuid, u.toBlueZShortFormat.toList = u.toBlueZFormat.toList.take 8) ∧
      ∀ x, (fromShortUuid x).toBlueZShortFormat.toList =
          "0000".toList ++ Utils.hexDigits Utils.lowerHex 4 x.toNat ∧
        hexNumber (Utils.hexDigits Utils.lowerHex 4 x.toNat) = x.toNat :=
  canonical (by decide) (by decide)

end GattUuid
end Ggk
