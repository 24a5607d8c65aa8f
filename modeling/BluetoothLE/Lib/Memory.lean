import Mathlib.Tactic.Common
import Mathlib.Data.List.TakeWhile

namespace Lib
set_option autoImplicit true

/-- The string that starts at the front of the memory: everything up to the first NUL. -/
def cString (memory : List UInt8) : List UInt8 := memory.takeWhile (· != 0)

/-- `strncpy`: at most `n` bytes of the string, then NULs up to `n`. -/
def strncpy (dest src : List UInt8) (n : Nat) : List UInt8 :=
  let copied := (cString src).take n
  copied ++ List.replicate (n - copied.length) 0 ++ dest.drop n

theorem nulFree_cString (s : List UInt8) : 0 ∉ cString s := by
  intro h
  have hn := List.mem_takeWhile_imp h
  simp at hn

theorem cString_of_nulFree (h : 0 ∉ s) : cString s = s := by
  apply List.takeWhile_eq_self_iff.2
  intro x hx
  exact bne_iff_ne.2 (ne_of_mem_of_not_mem hx h)

@[simp] theorem cString_eq_self_iff : cString s = s ↔ 0 ∉ s := by
  apply Iff.intro _ cString_of_nulFree
  intro h
  rw [← h]
  exact nulFree_cString s

theorem cString_append_nul (s t : List UInt8) : cString (s ++ 0 :: t) = cString s := by
  induction s with
  | nil => rfl
  | cons x s ih =>
    simp only [cString, List.cons_append, List.takeWhile_cons] at ih ⊢
    rw [ih]

theorem cString_append_replicate (s : List UInt8) (n : Nat) :
    cString (s ++ List.replicate n 0) = cString s := by
  cases n with
  | zero => rw [List.replicate_zero, List.append_nil]
  | succ n => exact cString_append_nul s _

theorem strncpy_length (hn : n ≤ dest.length) : (strncpy dest src n).length = dest.length := by
  simp only [strncpy, List.length_append, List.length_replicate, List.length_drop,
    List.length_take]
  omega

theorem strncpy_zeroed_length (src : List UInt8) (h : n ≤ size) :
    (strncpy (List.replicate size 0) src n).length = size := by
  rw [strncpy_length, List.length_replicate]
  rw [List.length_replicate]
  exact h

/-- Read back from zeroed memory, a copied string is the source cut off after `n` bytes. -/
theorem cString_strncpy (h : 0 ∉ src) (size n : Nat) :
    cString (strncpy (List.replicate size 0) src n) = src.take n := by
  have ht : 0 ∉ src.take n := fun h0 => h (List.mem_of_mem_take h0)
  simp only [strncpy, cString_of_nulFree h, List.drop_replicate, List.append_assoc,
    List.replicate_append_replicate, cString_append_replicate, cString_of_nulFree ht]

structure Name where
  bytes : List UInt8
  nulFree : 0 ∉ bytes

/-- `p` is the longest prefix of `name` that fits into `size` bytes together with a NUL. -/
def LongestFitting (size : Nat) (name : Name) (p : List UInt8) : Prop :=
  p <+: name.bytes ∧ p.length + 1 ≤ size ∧
    ∀ q, q <+: name.bytes → q.length + 1 ≤ size → q.length ≤ p.length

theorem longestFitting_take (name : Name) (n : Nat) :
    LongestFitting (n + 1) name (name.bytes.take n) := by
  refine ⟨List.take_prefix n _, ?_, ?_⟩
  · rw [List.length_take]
    exact Nat.succ_le_succ (Nat.min_le_left n _)
  · intro q hq hlen
    rw [List.length_take]
    exact Nat.le_min.2 ⟨Nat.le_of_succ_le_succ hlen, hq.length_le⟩

inductive ByteOrder where
  | littleEndian
  | bigEndian
  deriving DecidableEq, Repr

namespace ByteOrder

def low (x : UInt16) : UInt8 := x.toUInt8

def high (x : UInt16) : UInt8 := (x >>> 8).toUInt8

def bytes : ByteOrder → UInt16 → List UInt8
  | .littleEndian, x => [low x, high x]
  | .bigEndian, x => [high x, low x]

def htole16 : ByteOrder → UInt16 → UInt16
  | .littleEndian, x => x
  | .bigEndian, x => (x <<< 8) ||| (x >>> 8)

theorem low_swapped (x : UInt16) : low ((x <<< 8) ||| (x >>> 8)) = high x := by
  apply UInt8.toBitVec_inj.1
  simp [low, high]

theorem high_swapped (x : UInt16) : high ((x <<< 8) ||| (x >>> 8)) = low x := by
  apply UInt8.toBitVec_inj.1
  simp [low, high]
  ext i hi
  have hin : 8 + i < 16 := by omega
  have hge : ¬ 8 + i < 8 := by omega
  have hout : x.toBitVec.getLsbD (8 + (8 + i)) = false := BitVec.getLsbD_of_ge _ _ (by omega)
  have h16 : i < 16 := by omega
  simp [hin, hout, hge, BitVec.getLsbD_eq_getElem h16]

theorem bytes_htole16 (host : ByteOrder) (x : UInt16) :
    host.bytes (host.htole16 x) = [low x, high x] := by
  cases host with
  | littleEndian => rfl
  | bigEndian => rw [htole16, bytes, low_swapped, high_swapped]

end ByteOrder
end Lib
