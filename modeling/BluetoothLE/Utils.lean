import Mathlib.Tactic.NormNum
import Mathlib.Data.List.TakeDrop
import BluetoothLE.Lib.Hex
import BluetoothLE.Lib.Memory

namespace Ggk
open Lib
set_option autoImplicit true

/-- The GVariant values of the properties that the GATT objects have. -/
inductive PropertyValue where
  | boolean (b : Bool)
  | string (str : String)
  | objectPath (path : String)
  | stringArray (arr : List String)
  | objectPathArray (paths : List String)
  deriving DecidableEq, Repr

def PropertyValue.typeString : PropertyValue → String
  | .boolean _ => "b"
  | .string _ => "s"
  | .objectPath _ => "o"
  | .stringArray _ => "as"
  | .objectPathArray _ => "ao"

/-- An entry of the dictionary of managed objects: a path, and the properties of each interface
at it. -/
structure ManagedObject where
  path : String
  interfaces : List (String × List (String × PropertyValue))
  deriving DecidableEq, Repr

/-- The GVariant values that the GATT objects send or get. Of a tuple there are the types. -/
inductive GVariant where
  | boolean (b : Bool)
  | byteArray (bytes : List UInt8)
  | tuple (types : List String)
  | managedObjects (objects : List ManagedObject)
  deriving DecidableEq, Repr

def GVariant.typeString : GVariant → String
  | .boolean _ => "b"
  | .byteArray _ => "ay"
  | .tuple types => "(" ++ String.join types ++ ")"
  | .managedObjects _ => "a{oa{sa{sv}}}"

namespace Utils

def gvariantFromString (str : String) : PropertyValue := .string str

def gvariantFromStringArray (arr : List String) : PropertyValue := .stringArray arr

def gvariantFromBoolean (b : Bool) : PropertyValue := .boolean b

/-- The last `width` digits of `n`, as `printf` writes a number that fits in them. -/
def hexDigits (alphabet : List Char) (width n : Nat) : List Char :=
  (List.range width).reverse.map fun i => alphabet.getD (n / 16 ^ i % 16) '0'

def upperHex : List Char := "0123456789ABCDEF".toList

def lowerHex : List Char := "0123456789abcdef".toList

def hexUInt8 (value : UInt8) : String := "0x" ++ String.ofList (hexDigits upperHex 2 value.toNat)

def hexUInt16 (value : UInt16) : String := "0x" ++ String.ofList (hexDigits upperHex 4 value.toNat)

/-- A `size_t` passed as an `int`. -/
def toInt (size : Nat) : Int := Int.bmod size (2 ^ 32)

/-- The overload on a pointer and an `int` count. There is no result where a negative count
becomes a size that `g_bytes_new` cannot allocate, which ends the process. -/
def gvariantFromByteArray (pBytes : List UInt8) (count : Int) : Option GVariant :=
  if count < 0 then none else some (.byteArray (pBytes.take count.toNat))

/-- The bytes are copied before a NUL and returned as a C string. A variant that is no array of
fixed-size elements leaves the size of the copy indeterminate. -/
def stringFromGVariantByteArray : GVariant → Option (List UInt8)
  | .byteArray bytes => some (cString (bytes ++ [0]))
  | _ => none

@[simp] theorem length_hexDigits (alphabet : List Char) (width n : Nat) :
    (hexDigits alphabet width n).length = width := by
  rw [hexDigits, List.length_map, List.length_reverse, List.length_range]

theorem forall_mem_hexDigits {P : Char → Prop} (h : ∀ d < 16, P (alphabet.getD d '0'))
    (width n : Nat) : ∀ c ∈ hexDigits alphabet width n, P c := by
  intro c hc
  obtain ⟨i, _, rfl⟩ := List.mem_map.1 hc
  exact h _ (Nat.mod_lt _ (by norm_num))

theorem hexNumber_hexDigits (h : ∀ d < 16, hexValue (alphabet.getD d '0') = d) (width n : Nat) :
    hexNumber (hexDigits alphabet width n) = n % 16 ^ width := by
  have hvalues : (hexDigits alphabet width n).map hexValue =
      (List.range width).reverse.map fun i => n / 16 ^ i % 16 := by
    rw [hexDigits, List.map_map]
    apply List.map_congr_left
    intro i _
    exact h _ (Nat.mod_lt _ (by norm_num))
  rw [hexNumber, hvalues, ← List.map_reverse, List.reverse_reverse, ofDigits_range]

@[simp] theorem stringFromGVariantByteArray_byteArray (bytes : List UInt8) :
    stringFromGVariantByteArray (.byteArray bytes) = some (cString bytes) := by
  rw [stringFromGVariantByteArray, cString_append_nul]

theorem toInt_of_lt (h : size < 2 ^ 31) : toInt size = size := by
  norm_num at h
  apply Int.bmod_eq_of_le
  · exact Int.le_trans (by norm_num) (Int.natCast_nonneg size)
  · norm_num
    exact h

theorem toInt_lt (size : Nat) : toInt size < 2 ^ 31 := by
  have h : toInt size < ((2 ^ 32 : Nat) + 1) / 2 := Int.bmod_lt (by norm_num)
  norm_num at h ⊢
  exact h

theorem gvariantFromByteArray_eq_iff :
    gvariantFromByteArray bytes (toInt bytes.length) = some (.byteArray bytes) ↔
      bytes.length < 2 ^ 31 := by
  apply Iff.intro
  · intro h
    have hlt := toInt_lt bytes.length
    rw [gvariantFromByteArray] at h
    split at h
    · cases h
    · simp only [Option.some.injEq, GVariant.byteArray.injEq, List.take_eq_self_iff] at h
      omega
  · intro h
    have hn : ¬ ((bytes.length : Int) < 0) := by omega
    rw [toInt_of_lt h, gvariantFromByteArray, if_neg hn, Int.toNat_natCast, List.take_length]

end Utils
end Ggk
