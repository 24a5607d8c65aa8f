import Mathlib.Data.Nat.Digits.Defs
import Mathlib.Tactic.Common

namespace Lib
set_option autoImplicit true

def lowerHexDigits : List Char := "0123456789abcdef".toList

def allHexDigits : List Char := lowerHexDigits ++ "ABCDEF".toList

/-- The value of a hexadecimal digit, by its place behind `0`, `A` or `a`. -/
def hexValue (c : Char) : Nat :=
  if c.toNat ≤ 57 then c.toNat - 48
  else if c.toNat ≤ 70 then c.toNat - 65 + 10
  else c.toNat - 97 + 10

/-- The number that hexadecimal digits stand for, of which the first counts most. -/
def hexNumber (digits : List Char) : Nat := Nat.ofDigits 16 (digits.map hexValue).reverse

/-- What holds of each character of an alphabet, without a look at all the other characters. -/
theorem forall_mem_of_all {P : α → Prop} [DecidablePred P] {l : List α}
    (h : l.all (fun x => decide (P x)) = true) : ∀ x ∈ l, P x :=
  fun x hx => of_decide_eq_true (List.all_eq_true.1 h x hx)

theorem hexValue_lt : ∀ c ∈ allHexDigits, hexValue c < 16 := forall_mem_of_all (by decide)

theorem hexValue_toLower : ∀ c ∈ allHexDigits, hexValue c.toLower = hexValue c :=
  forall_mem_of_all (by decide)

theorem toLower_mem : ∀ c ∈ allHexDigits, c.toLower ∈ lowerHexDigits :=
  forall_mem_of_all (by decide)

theorem toLower_lower : ∀ c ∈ lowerHexDigits, c.toLower = c := forall_mem_of_all (by decide)

theorem getElem?_hexValue : ∀ c ∈ lowerHexDigits, lowerHexDigits[hexValue c]? = some c :=
  forall_mem_of_all (by decide)

theorem lower_mem_all (h : c ∈ lowerHexDigits) : c ∈ allHexDigits := List.mem_append_left _ h

theorem hexValue_inj (hc : c ∈ lowerHexDigits) (hc' : c' ∈ lowerHexDigits)
    (h : hexValue c = hexValue c') : c = c' := by
  have hget := getElem?_hexValue c hc
  rw [h, getElem?_hexValue c' hc'] at hget
  exact (Option.some.inj hget).symm

section Number
variable {l l' : List Char}

theorem hexNumber_map_toLower (hl : ∀ c ∈ l, c ∈ allHexDigits) :
    hexNumber (l.map Char.toLower) = hexNumber l := by
  rw [hexNumber, hexNumber, List.map_map]
  have hmap : l.map (hexValue ∘ Char.toLower) = l.map hexValue :=
    List.map_congr_left fun c hc => hexValue_toLower c (hl c hc)
  rw [hmap]

theorem map_hexValue_inj (hl : ∀ c ∈ l, c ∈ lowerHexDigits) (hl' : ∀ c ∈ l', c ∈ lowerHexDigits)
    (h : l.map hexValue = l'.map hexValue) : l = l' := by
  induction l generalizing l' with
  | nil => exact (List.map_eq_nil_iff.1 h.symm).symm
  | cons c l ih =>
    cases l' with
    | nil => cases h
    | cons c' l' =>
      rw [List.forall_mem_cons] at hl hl'
      rw [List.map_cons, List.map_cons, List.cons.injEq] at h
      rw [hexValue_inj hl.1 hl'.1 h.1, ih hl.2 hl'.2 h.2]

theorem map_toLower_lower (hl : ∀ c ∈ l, c ∈ allHexDigits) :
    ∀ c ∈ l.map Char.toLower, c ∈ lowerHexDigits := by
  intro c hc
  obtain ⟨c', hc', rfl⟩ := List.mem_map.1 hc
  exact toLower_mem c' (hl c' hc')

theorem map_toLower_of_lower (hl : ∀ c ∈ l, c ∈ lowerHexDigits) : l.map Char.toLower = l :=
  (List.map_congr_left fun c hc => toLower_lower c (hl c hc)).trans (List.map_id' l)

theorem values_lt (hl : ∀ c ∈ l, c ∈ allHexDigits) : ∀ d ∈ (l.map hexValue).reverse, d < 16 := by
  intro d hd
  obtain ⟨c, hc, rfl⟩ := List.mem_map.1 (List.mem_reverse.1 hd)
  exact hexValue_lt c (hl c hc)

theorem hexNumber_inj (hl : ∀ c ∈ l, c ∈ lowerHexDigits) (hl' : ∀ c ∈ l', c ∈ lowerHexDigits)
    (hlength : l.length = l'.length) (h : hexNumber l = hexNumber l') : l = l' := by
  have hreverse := Nat.ofDigits_inj_of_len_eq (by decide) (by simp [hlength])
    (values_lt fun c hc => lower_mem_all (hl c hc))
    (values_lt fun c hc => lower_mem_all (hl' c hc)) h
  exact map_hexValue_inj hl hl' (List.reverse_inj.1 hreverse)

/-- Two hexadecimal numerals of one length are the same but for their case if they stand for the
same number. -/
theorem map_toLower_eq_iff (hl : ∀ c ∈ l, c ∈ allHexDigits) (hl' : ∀ c ∈ l', c ∈ allHexDigits)
    (hlength : l.length = l'.length) :
    l.map Char.toLower = l'.map Char.toLower ↔ hexNumber l = hexNumber l' := by
  rw [← hexNumber_map_toLower hl, ← hexNumber_map_toLower hl']
  apply Iff.intro (congrArg hexNumber)
  exact hexNumber_inj (map_toLower_lower hl) (map_toLower_lower hl') (by simp [hlength])

/-- The last digits of a number stand for the number, as far as they go. -/
theorem ofDigits_range (base width n : Nat) :
    Nat.ofDigits base ((List.range width).map fun i => n / base ^ i % base) =
      n % base ^ width := by
  induction width with
  | zero => simp [Nat.mod_one]
  | succ width ih =>
    rw [List.range_succ, List.map_append, Nat.ofDigits_append, ih, List.length_map,
      List.length_range, List.map_singleton, Nat.ofDigits_singleton, Nat.mod_pow_succ]

end Number
end Lib
