import BluetoothLE.Utils

namespace Ggk
open Lib
set_option autoImplicit true

def isXDigit (c : Char) : Bool :=
  c.isDigit || ('a' ≤ c && c ≤ 'f') || ('A' ≤ c && c ≤ 'F')

namespace GattUuid

/-- The check of the 36 character form looks at the hyphens only. -/
def validate (uuid : String) : Bool :=
  let chars := uuid.toList
  if chars.length = 36 ∧ chars[8]? = some '-' ∧ chars[13]? = some '-' ∧ chars[18]? = some '-' ∧
      chars[23]? = some '-' then true
  else if chars.length = 32 then chars.all isXDigit
  else false

end GattUuid

/-- A UUID in a spelling that the constructor accepts, one character for each byte of it. -/
structure GattUuid where
  uuid : String
  valid : GattUuid.validate uuid = true
  deriving DecidableEq

namespace GattUuid

/-- The constructor, which throws `std::invalid_argument` on any other string. -/
def ofString (uuid : String) : Except String GattUuid :=
  if h : validate uuid = true then .ok ⟨uuid, h⟩ else .error ("Invalid UUID format: " ++ uuid)

def toString (u : GattUuid) : String := u.uuid

def toBlueZFormat (u : GattUuid) : String :=
  String.ofList ((u.uuid.toList.filter (· != '-')).map Char.toLower)

def toBlueZShortFormat (u : GattUuid) : String :=
  let result := u.toBlueZFormat.toList
  if 8 ≤ result.length then String.ofList (result.take 8) else String.ofList result

def shortUuidChars (shortUuid : UInt16) : List Char :=
  "0000".toList ++ Utils.hexDigits Utils.lowerHex 4 shortUuid.toNat ++
    "-0000-1000-8000-00805f9b34fb".toList

def fromShortUuid (shortUuid : UInt16) : GattUuid where
  uuid := String.ofList (shortUuidChars shortUuid)
  valid := by
    rw [validate, String.toList_ofList]
    exact if_pos ⟨rfl, rfl, rfl, rfl, rfl⟩

example : (fromShortUuid 0x2902).toBlueZShortFormat = "00002902" := by decide

end GattUuid

namespace GattPermission

def permRead : UInt8 := 0x01

def permWrite : UInt8 := 0x02

def permReadEncrypted : UInt8 := 0x04

def permWriteEncrypted : UInt8 := 0x08

def permReadAuthenticated : UInt8 := 0x10

def permWriteAuthenticated : UInt8 := 0x20

end GattPermission

namespace GattProperty

def propBroadcast : UInt8 := 0x01

def propRead : UInt8 := 0x02

def propWriteWithoutResponse : UInt8 := 0x04

def propWrite : UInt8 := 0x08

def propNotify : UInt8 := 0x10

def propIndicate : UInt8 := 0x20

def propAuthenticatedSignedWrites : UInt8 := 0x40

end GattProperty
end Ggk
