import BluetoothLE.Lib.Chunks
import BluetoothLE.Lib.Segments
import BluetoothLE.Utils

namespace Ggk
open Lib
set_option autoImplicit true

namespace Utils

/-- `%02X ` of a byte. -/
def hexText (b : UInt8) : List Char := hexDigits upperHex 2 b.toNat ++ [' ']

/-- A dot stands for an unprintable byte. -/
def asciiText (b : UInt8) : List Char :=
  if b < 0x20 ∨ b > 0x7e then ['.'] else [Char.ofNat b.toNat]

def hexData (bytes : List UInt8) : List (List Char) := gather (16 * 3) hexText bytes

/-- The loop begins with the empty line that the other one ends with. -/
def asciiData (bytes : List UInt8) : List (List Char) := gather 16 asciiText bytes

/-- The part with blanks behind it. `insert` throws at a count that has wrapped around. -/
def padded (width : Nat) (part : List Char) : Option (List Char) :=
  if part.length ≤ width then some (part ++ List.replicate (width - part.length) ' ') else none

def dumpLine (hexData asciiData : List (List Char)) (i : Nat) : Option (List Char) := do
  let hexPart ← hexData[i]?
  let hexPart ← padded 48 hexPart
  let asciiPart ← asciiData[i]?
  let asciiPart ← padded 16 asciiPart
  return "    > ".toList ++ hexPart ++ "   [".toList ++ asciiPart ++ "]".toList

/-- One turn of the loop over the lines. There is a newline behind each but the last one. -/
def dumpStep (hexData asciiData : List (List Char)) (result : List Char) (i : Nat) :
    Option (List Char) := do
  let line ← dumpLine hexData asciiData i
  return if i < hexData.length - 1 then result ++ line ++ ['\n'] else result ++ line

def dump (hexData asciiData : List (List Char)) : Option (List Char) :=
  (List.range hexData.length).foldlM (dumpStep hexData asciiData) []

/-- The overload on a pointer and an `int` count. There is no result where an index is past the end
of the bytes or of a list, or where a padding throws. -/
def hex (pData : List UInt8) (count : Int) : Option String :=
  if pData.length < count then none
  else
    let bytes := pData.take count.toNat
    (dump (hexData bytes) (asciiData bytes)).map String.ofList

/-- The lines of a text with a newline between each two. -/
def lines (text : String) : List (List Char) :=
  if text.toList.isEmpty then [] else text.toList.splitOn '\n'

def hexColumn (line : List Char) : List Char := (line.drop 6).take 48

def asciiColumn (line : List Char) : List Char := (line.drop 58).take 16

/-- Two hexadecimal digits are a byte. -/
def readByte (word : List Char) : Option UInt8 :=
  if word.length = 2 ∧ word.all (· ∈ allHexDigits) then some (.ofNat (hexNumber word)) else none

/-- The bytes with blanks between them. -/
def readHex (column : List Char) : Option (List UInt8) := (segments ' ' column).mapM readByte

/-- A printable character of ASCII, or a dot. -/
def shown (b : UInt8) : Char :=
  if 0x20 ≤ b.toNat ∧ b.toNat ≤ 0x7e then Char.ofNat b.toNat else '.'

/-- A text that shows the bytes, sixteen a line, as numbers and as characters. -/
structure Dumps (bytes : List UInt8) (text : String) : Prop where
  rows : (lines text).length = (bytes.length + 15) / 16
  width : ∀ line ∈ lines text, line.length = 75
  reads : ((lines text).mapM fun line => readHex (hexColumn line)).map List.flatten = some bytes
  shows : ∀ line ∈ lines text, ∃ part, readHex (hexColumn line) = some part ∧
    asciiColumn line = part.map shown ++ List.replicate (16 - part.length) ' '

example : hex [0x48, 0x69, 0x0a] 3 = some
    ("    > 48 69 0A " ++ String.ofList (List.replicate 39 ' ') ++ "   [Hi.             ]") := by
  decide

section Texts

theorem upperHex_value : ∀ d < 16, hexValue (upperHex.getD d '0') = d := by decide

theorem upperHex_mem : ∀ d < 16, upperHex.getD d '0' ∈ allHexDigits := by decide

theorem mem_allHexDigits_ne : ∀ c ∈ allHexDigits, c ≠ ' ' ∧ c ≠ '\n' :=
  forall_mem_of_all (by decide)

theorem length_hexText (b : UInt8) : (hexText b).length = 3 := by
  rw [hexText, List.length_append, length_hexDigits]
  rfl

theorem asciiText_eq (b : UInt8) : asciiText b = [shown b] := by
  rw [asciiText, shown]
  have h : (b < 0x20 ∨ b > 0x7e) ↔ ¬ (0x20 ≤ b.toNat ∧ b.toNat ≤ 0x7e) := by
    have hlow : b < 0x20 ↔ b.toNat < 32 := UInt8.lt_iff_toNat_lt
    have hhigh : b > 0x7e ↔ 126 < b.toNat := UInt8.lt_iff_toNat_lt
    rw [hlow, hhigh]
    omega
  by_cases hb : 0x20 ≤ b.toNat ∧ b.toNat ≤ 0x7e
  · rw [if_neg (fun hn => h.1 hn hb), if_pos hb]
  · rw [if_pos (h.2 hb), if_neg hb]

theorem shown_ne (b : UInt8) : shown b ≠ '\n' := by
  rw [shown]
  split_ifs with h
  · intro hb
    have hvalid : b.toNat.isValidChar := .inl (by omega)
    rw [Char.ofNat, dif_pos hvalid] at hb
    have hcode : b.toNat = 10 := congrArg Char.toNat hb
    omega
  · decide

theorem flatMap_asciiText (part : List UInt8) : part.flatMap asciiText = part.map shown := by
  induction part with
  | nil => rfl
  | cons b part ih => rw [List.flatMap_cons, ih, asciiText_eq]; rfl

theorem hexData_eq (bytes : List UInt8) :
    hexData bytes = (chunks 16 bytes).map (·.flatMap hexText) :=
  gather_eq_chunks length_hexText (by decide) 16 bytes

theorem asciiData_eq (bytes : List UInt8) :
    asciiData bytes = (chunks 16 bytes).map (·.flatMap asciiText) := by
  have hwidth (b : UInt8) : (asciiText b).length = 1 := by
    rw [asciiText_eq, List.length_singleton]
  exact gather_eq_chunks hwidth Nat.one_pos 16 bytes

theorem readByte_hexDigits (b : UInt8) : readByte (hexDigits upperHex 2 b.toNat) = some b := by
  have hmem := forall_mem_hexDigits upperHex_mem 2 b.toNat
  have hall : ((hexDigits upperHex 2 b.toNat).all (· ∈ allHexDigits)) = true := by
    simpa using hmem
  rw [readByte, if_pos ⟨length_hexDigits _ _ _, hall⟩, hexNumber_hexDigits upperHex_value]
  have hlt : b.toNat % 16 ^ 2 = b.toNat := Nat.mod_eq_of_lt b.toNat_lt
  rw [hlt, UInt8.ofNat_toNat]

end Texts

section Rows
variable {bytes part : List UInt8} {parts done rest : List (List UInt8)}

def hexBlock (part : List UInt8) : List Char :=
  part.flatMap hexText ++ List.replicate (48 - (part.flatMap hexText).length) ' '

def asciiBlock (part : List UInt8) : List Char :=
  part.map shown ++ List.replicate (16 - part.length) ' '

/-- The line for sixteen bytes or fewer. -/
def row (part : List UInt8) : List Char :=
  [' ', ' ', ' ', ' ', '>', ' '] ++
    (hexBlock part ++ ([' ', ' ', ' ', '['] ++ (asciiBlock part ++ [']'])))

theorem length_hexPart (part : List UInt8) : (part.flatMap hexText).length = part.length * 3 :=
  length_flatMap_of_width length_hexText part

theorem length_hexBlock (h : part.length ≤ 16) : (hexBlock part).length = 48 := by
  rw [hexBlock, List.length_append, List.length_replicate, length_hexPart]
  omega

theorem length_asciiBlock (h : part.length ≤ 16) : (asciiBlock part).length = 16 := by
  rw [asciiBlock, List.length_append, List.length_map, List.length_replicate]
  omega

theorem length_row (h : part.length ≤ 16) : (row part).length = 75 := by
  simp only [row, List.length_append, length_hexBlock h, length_asciiBlock h]
  rfl

theorem row_ne_nil (part : List UInt8) : row part ≠ [] :=
  List.cons_ne_nil _ _

theorem hexColumn_row (h : part.length ≤ 16) : hexColumn (row part) = hexBlock part := by
  have hfront : [' ', ' ', ' ', ' ', '>', ' '].length = 6 := rfl
  rw [hexColumn, row, List.drop_left' hfront, List.take_left' (length_hexBlock h)]

theorem asciiColumn_row (h : part.length ≤ 16) : asciiColumn (row part) = asciiBlock part := by
  have hrow : row part = ([' ', ' ', ' ', ' ', '>', ' '] ++ hexBlock part ++
      [' ', ' ', ' ', '[']) ++ (asciiBlock part ++ [']']) := by
    simp only [row, List.append_assoc]
  have hfront : ([' ', ' ', ' ', ' ', '>', ' '] ++ hexBlock part ++
      [' ', ' ', ' ', '[']).length = 58 := by
    simp only [List.length_append, length_hexBlock h]
    rfl
  rw [asciiColumn, hrow, List.drop_left' hfront, List.take_left' (length_asciiBlock h)]

theorem readHex_hexBlock (part : List UInt8) : readHex (hexBlock part) = some part := by
  have hword (b : UInt8) :
      hexDigits upperHex 2 b.toNat ≠ [] ∧ ' ' ∉ hexDigits upperHex 2 b.toNat := by
    apply And.intro
    · exact List.ne_nil_of_length_pos (by rw [length_hexDigits]; decide)
    · intro hmem
      have hdigit := forall_mem_hexDigits upperHex_mem 2 b.toNat ' ' hmem
      exact (mem_allHexDigits_ne ' ' hdigit).1 rfl
  have hsegments : segments ' ' (hexBlock part) =
      part.map fun b => hexDigits upperHex 2 b.toNat := by
    have h := segments_flatMap_append hword part
      (List.replicate (48 - (part.flatMap hexText).length) ' ')
    rwa [segments_replicate, List.append_nil] at h
  rw [readHex, hsegments, mapM_map_eq_some (k := id) fun b _ => readByte_hexDigits b, List.map_id]

theorem newline_notMem_row (part : List UInt8) : '\n' ∉ row part := by
  have hblank (n : Nat) : '\n' ∉ List.replicate n ' ' := by
    intro h
    exact absurd (List.eq_of_mem_replicate h) (by decide)
  have hhex : '\n' ∉ part.flatMap hexText := by
    intro h
    obtain ⟨b, _, hb⟩ := List.mem_flatMap.1 h
    rcases List.mem_append.1 hb with hb | hb
    · have hdigit := forall_mem_hexDigits upperHex_mem 2 b.toNat '\n' hb
      exact (mem_allHexDigits_ne '\n' hdigit).2 rfl
    · exact absurd hb (by decide)
  have hascii : '\n' ∉ part.map shown := by
    intro h
    obtain ⟨b, _, hb⟩ := List.mem_map.1 h
    exact shown_ne b hb
  simp [row, hexBlock, asciiBlock, hblank, hhex, hascii]

theorem length_chunk_le (h : part ∈ chunks 16 bytes) : part.length ≤ 16 :=
  length_le_of_mem_chunks (by decide) h

theorem dumpLine_eq (hi : (chunks 16 bytes)[i]? = some part) :
    dumpLine (hexData bytes) (asciiData bytes) i = some (row part) := by
  have hle : part.length ≤ 16 := length_chunk_le (List.mem_of_getElem? hi)
  have hhex : (hexData bytes)[i]? = some (part.flatMap hexText) := by
    rw [hexData_eq, List.getElem?_map, hi, Option.map_some]
  have hascii : (asciiData bytes)[i]? = some (part.map shown) := by
    rw [asciiData_eq, List.getElem?_map, hi, Option.map_some, flatMap_asciiText]
  have hhexPart : padded 48 (part.flatMap hexText) = some (hexBlock part) := by
    rw [padded, if_pos (by rw [length_hexPart]; omega)]
    rfl
  have hasciiPart : padded 16 (part.map shown) = some (asciiBlock part) := by
    rw [padded, if_pos (by rwa [List.length_map]), List.length_map]
    rfl
  simp only [dumpLine, hhex, hhexPart, hascii, hasciiPart, Option.bind_eq_bind, Option.bind_some,
    row, List.append_assoc]
  rfl

theorem dumpStep_eq (h : chunks 16 bytes = done ++ part :: rest) (result : List Char) :
    dumpStep (hexData bytes) (asciiData bytes) result done.length =
      some (if 0 < rest.length then result ++ row part ++ ['\n'] else result ++ row part) := by
  have hpart : (chunks 16 bytes)[done.length]? = some part := by rw [h]; simp
  have hsize : (hexData bytes).length = done.length + (rest.length + 1) := by
    rw [hexData_eq, List.length_map, h, List.length_append, List.length_cons]
  have hlast : done.length < (hexData bytes).length - 1 ↔ 0 < rest.length := by omega
  rw [dumpStep, dumpLine_eq hpart, Option.bind_eq_bind, Option.bind_some]
  simp only [hlast]
  rfl

/-- The lines that are left are written behind the result. -/
theorem foldlM_dumpStep (h : chunks 16 bytes = done ++ rest) (result : List Char) :
    (List.range' done.length rest.length).foldlM (dumpStep (hexData bytes) (asciiData bytes))
      result = some (result ++ ['\n'].intercalate (rest.map row)) := by
  induction rest generalizing done result with
  | nil => simp
  | cons part rest ih =>
    have hrest : chunks 16 bytes = (done ++ [part]) ++ rest := by rw [h]; simp
    have hnext := ih hrest
    rw [List.length_append, List.length_singleton] at hnext
    rw [List.length_cons, List.range'_succ, List.foldlM_cons, dumpStep_eq h,
      Option.bind_eq_bind, Option.bind_some, hnext, List.map_cons]
    -- Only the last line has no newline behind it, so that there is one between each two.
    cases rest with
    | nil => simp
    | cons part' rest => simp

theorem dump_eq (bytes : List UInt8) : dump (hexData bytes) (asciiData bytes) =
    some (['\n'].intercalate ((chunks 16 bytes).map row)) := by
  have hsize : (hexData bytes).length = (chunks 16 bytes).length := by
    rw [hexData_eq, List.length_map]
  have hstart : chunks 16 bytes = [] ++ chunks 16 bytes := rfl
  rw [dump, hsize, List.range_eq_range']
  exact foldlM_dumpStep hstart []

theorem lines_intercalate (parts : List (List UInt8)) :
    lines (String.ofList (['\n'].intercalate (parts.map row))) = parts.map row := by
  rw [lines, String.toList_ofList]
  cases parts with
  | nil => rfl
  | cons part parts =>
    have hnewline : ∀ line ∈ (part :: parts).map row, '\n' ∉ line := by
      intro line hline
      obtain ⟨part', _, rfl⟩ := List.mem_map.1 hline
      exact newline_notMem_row part'
    have hsplit := List.splitOn_intercalate '\n' hnewline (List.cons_ne_nil _ _)
    have hempty : (['\n'].intercalate ((part :: parts).map row)).isEmpty = false := by
      rw [List.isEmpty_eq_false_iff]
      intro h
      rw [h] at hsplit
      exact row_ne_nil part (List.cons.inj hsplit).1.symm
    rw [hempty, if_neg Bool.false_ne_true, hsplit]

/-- A text with a row for each part shows the bytes of all parts. -/
theorem dumps_intercalate (h : ∀ part ∈ parts, part.length ≤ 16)
    (hrows : parts.length = (parts.flatten.length + 15) / 16) :
    Dumps parts.flatten (String.ofList (['\n'].intercalate (parts.map row))) := by
  have hread : ∀ part ∈ parts, readHex (hexColumn (row part)) = some part := by
    intro part hpart
    rw [hexColumn_row (h part hpart), readHex_hexBlock]
  have hreads : (parts.map row).mapM (fun line => readHex (hexColumn line)) =
      some (parts.map id) := mapM_map_eq_some hread
  apply Dumps.mk
  · rw [lines_intercalate, List.length_map, hrows]
  · intro line hline
    rw [lines_intercalate] at hline
    obtain ⟨part, hpart, rfl⟩ := List.mem_map.1 hline
    exact length_row (h part hpart)
  · rw [lines_intercalate, hreads, List.map_id, Option.map_some]
  · intro line hline
    rw [lines_intercalate] at hline
    obtain ⟨part, hpart, rfl⟩ := List.mem_map.1 hline
    exact ⟨part, hread part hpart, asciiColumn_row (h part hpart)⟩

theorem length_hexData_le : ∀ hexPart ∈ hexData bytes, hexPart.length ≤ 48 := by
  intro hexPart hmem
  rw [hexData_eq] at hmem
  obtain ⟨part, hpart, rfl⟩ := List.mem_map.1 hmem
  have hle : part.length ≤ 16 := length_chunk_le hpart
  rw [length_hexPart]
  omega

theorem length_asciiData_le : ∀ asciiPart ∈ asciiData bytes, asciiPart.length ≤ 16 := by
  intro asciiPart hmem
  rw [asciiData_eq] at hmem
  obtain ⟨part, hpart, rfl⟩ := List.mem_map.1 hmem
  rw [flatMap_asciiText, List.length_map]
  exact length_chunk_le hpart

theorem length_asciiData (bytes : List UInt8) :
    (asciiData bytes).length = (hexData bytes).length := by
  rw [asciiData_eq, hexData_eq, List.length_map, List.length_map]

theorem hex_eq (h : bytes.length < 2 ^ 31) : hex bytes (toInt bytes.length) =
    some (String.ofList (['\n'].intercalate ((chunks 16 bytes).map row))) := by
  have hcount : ¬ ((bytes.length : Int) < bytes.length) := Int.lt_irrefl _
  rw [toInt_of_lt h, hex, if_neg hcount, Int.toNat_natCast, List.take_length]
  simp only [dump_eq, Option.map_some]

theorem dumps_chunks (bytes : List UInt8) :
    Dumps bytes (String.ofList (['\n'].intercalate ((chunks 16 bytes).map row))) := by
  have hflatten : (chunks 16 bytes).flatten = bytes := flatten_chunks (by decide) bytes
  have hrows : (chunks 16 bytes).length = (bytes.length + 15) / 16 :=
    length_chunks (by decide) bytes
  have hdumps := dumps_intercalate (fun _ => length_chunk_le) (by rw [hflatten, hrows])
  rwa [hflatten] at hdumps

end Rows

/-- There is a dump of all bytes that an `int` can count, and it can be read back. Each line has
its entry among the other ones, and no padding is negative. -/
theorem hex_dumps (h : bytes.length < 2 ^ 31) :
    (∃ text, hex bytes (toInt bytes.length) = some text ∧ Dumps bytes text) ∧
      (∀ i < (hexData bytes).length, ((asciiData bytes)[i]?).isSome = true) ∧
      (∀ hexPart ∈ hexData bytes, hexPart.length ≤ 48) ∧
      ∀ asciiPart ∈ asciiData bytes, asciiPart.length ≤ 16 := by
  have hentry : ∀ i < (hexData bytes).length, ((asciiData bytes)[i]?).isSome = true := by
    intro i hi
    rw [← length_asciiData] at hi
    rw [List.getElem?_eq_getElem hi, Option.isSome_some]
  exact ⟨⟨_, hex_eq h, dumps_chunks bytes⟩, hentry, length_hexData_le, length_asciiData_le⟩

theorem hex_dumps_example :
    (∃ text, hex (List.replicate 17 0x41) (toInt (List.replicate 17 (0x41 : UInt8)).length) =
      some text ∧ Dumps (List.replicate 17 0x41) text) ∧
      (∀ i < (hexData (List.replicate 17 0x41)).length,
        ((asciiData (List.replicate 17 0x41))[i]?).isSome = true) ∧
      (∀ hexPart ∈ hexData (List.replicate 17 0x41), hexPart.length ≤ 48) ∧
      ∀ asciiPart ∈ asciiData (List.replicate 17 0x41), asciiPart.length ≤ 16 :=
  hex_dumps (by decide)

end Utils
end Ggk
