import BluetoothLE.Utils

namespace Ggk
open Lib
set_option autoImplicit true

structure DBusObjectPath where
  path : String
  deriving DecidableEq, Repr

def DBusObjectPath.toString (p : DBusObjectPath) : String := p.path

/-- One slash is put between the parts, and one of two is taken away. -/
def DBusObjectPath.append (p : DBusObjectPath) (rhs : String) : DBusObjectPath :=
  if rhs.isEmpty then p
  else if p.path.isEmpty then ⟨rhs⟩
  else
    let ls := p.path.toList.getLast? == some '/'
    let rs := rhs.toList.head? == some '/'
    let path := if ls && rs then String.ofList p.path.toList.dropLast else p.path
    let path := if !ls && !rs then path ++ "/" else path
    ⟨path ++ rhs⟩

example : ((⟨"/app/service1"⟩ : DBusObjectPath).append "/char").append "1" =
    ⟨"/app/service1/char/1"⟩ := by decide

def Utils.gvariantFromObject (path : DBusObjectPath) : PropertyValue := .objectPath path.toString

theorem DBusObjectPath.toString_inj {p q : DBusObjectPath} : p.toString = q.toString ↔ p = q := by
  cases p
  cases q
  simp [toString]

/-- A method call as the handlers get it. `invocation` says whether there is somebody to
reply to, `parameters` is the variant that holds the arguments. -/
structure DBusMethodCall where
  sender : String
  interface : String
  method : String
  parameters : Option GVariant
  invocation : Bool
  deriving DecidableEq, Repr

def DBusMethodCall.writeValue (interface : String) (value : List UInt8) : DBusMethodCall :=
  { sender := ":1.5", interface, method := "WriteValue", parameters := some (.byteArray value),
    invocation := true }

def DBusMethodCall.readValue (interface : String) : DBusMethodCall :=
  { sender := ":1.5", interface, method := "ReadValue", parameters := none, invocation := true }

namespace BlueZConstants

def bluezService : String := "org.bluez"

def adapterPath : DBusObjectPath := ⟨"/org/bluez/hci0"⟩

def objectManagerInterface : String := "org.freedesktop.DBus.ObjectManager"

def gattManagerInterface : String := "org.bluez.GattManager1"

def gattServiceInterface : String := "org.bluez.GattService1"

def gattCharacteristicInterface : String := "org.bluez.GattCharacteristic1"

def gattDescriptorInterface : String := "org.bluez.GattDescriptor1"

def registerApplication : String := "RegisterApplication"

def unregisterApplication : String := "UnregisterApplication"

def getManagedObjects : String := "GetManagedObjects"

def readValue : String := "ReadValue"

def writeValue : String := "WriteValue"

def startNotify : String := "StartNotify"

def stopNotify : String := "StopNotify"

end BlueZConstants
end Ggk
