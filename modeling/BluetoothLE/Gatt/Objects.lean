import BluetoothLE.Lib.Effect
import BluetoothLE.DBus.Types
import BluetoothLE.GattTypes

namespace Ggk
open Lib
set_option autoImplicit true

/-- What a call can end with instead of returning: a `std::exception`, another exception, or
a step that C++ or GLib leaves undefined, an abort included. -/
inductive Thrown where
  | stdException (what : String)
  | other
  | undefined
  deriving DecidableEq, Repr

structure GattCharacteristic where
  path : DBusObjectPath
  registered : Bool
  uuid : GattUuid
  properties : UInt8
  permissions : UInt8
  value : List UInt8
  notifying : Bool
  deriving DecidableEq

structure GattDescriptor where
  path : DBusObjectPath
  registered : Bool
  uuid : GattUuid
  permissions : UInt8
  value : List UInt8
  deriving DecidableEq

/-- A characteristic and its descriptors, by address. -/
structure World where
  characteristic : GattCharacteristic
  descriptors : Nat → GattDescriptor

/-- The two kinds of object that a client can read and write. -/
inductive GattObject where
  | characteristic
  | descriptor (d : Nat)
  deriving DecidableEq, Repr

inductive Mutex where
  | valueMutex
  | notifyMutex
  | callbackMutex
  | descriptorValueMutex (d : Nat)
  | descriptorCallbackMutex (d : Nat)
  deriving DecidableEq, Repr

/-- The codes of GDBus's own domain, or code 0 in a domain of another name. -/
inductive ErrorCode where
  | failed
  | invalidArgs
  | notSupported
  | domain (name : String)
  deriving DecidableEq, Repr

inductive Reply where
  | value (body : Option GVariant)
  | error (code : ErrorCode) (message : String)
  deriving DecidableEq, Repr

inductive Event where
  | acquire (m : Mutex)
  | release (m : Mutex)
  | readCallback (o : GattObject)
  | writeCallback (o : GattObject) (value : List UInt8)
  | notifyCallback
  | propertyChanged (path : DBusObjectPath) (interface name : String) (value : GVariant)
  | reply (r : Reply)
  deriving DecidableEq, Repr

abbrev Gatt (α : Type) : Type := Effect Thrown World Event α

/-- What the objects call outside of their own code: the callbacks that are set, and whether
GLib hands out a variant. -/
structure Environment where
  readCallback : GattObject → Option (Gatt (List UInt8))
  writeCallback : GattObject → Option (List UInt8 → Gatt Bool)
  notifyCallback : Option (Gatt Unit)
  booleanVariant : Bool
  byteArrayVariant : Bool

/-- An environment whose callbacks call nothing back, by how they end. -/
structure Outside where
  readCallback : GattObject → Option (Except Thrown (List UInt8))
  writeCallback : GattObject → Option (List UInt8 → Except Thrown Bool)
  notifyCallback : Option (Except Thrown Unit)
  booleanVariant : Bool
  byteArrayVariant : Bool

def Outside.quiet : Outside where
  readCallback _ := none
  writeCallback _ := none
  notifyCallback := none
  booleanVariant := true
  byteArrayVariant := true

def ending : Except Thrown α → Gatt α
  | .ok a => pure a
  | .error e => Effect.throw e

def Outside.environment (out : Outside) : Environment where
  readCallback o := (out.readCallback o).map ending
  writeCallback o := (out.writeCallback o).map fun f value => ending (f value)
  notifyCallback := out.notifyCallback.map ending
  booleanVariant := out.booleanVariant
  byteArrayVariant := out.byteArrayVariant

namespace GattObject

def valueMutex : GattObject → Mutex
  | .characteristic => .valueMutex
  | .descriptor d => .descriptorValueMutex d

def callbackMutex : GattObject → Mutex
  | .characteristic => .callbackMutex
  | .descriptor d => .descriptorCallbackMutex d

def value (w : World) : GattObject → List UInt8
  | .characteristic => w.characteristic.value
  | .descriptor d => (w.descriptors d).value

end GattObject

def World.setCharacteristicValue (w : World) (value : List UInt8) : World :=
  { w with characteristic := { w.characteristic with value } }

def World.setNotifying (w : World) (notifying : Bool) : World :=
  { w with characteristic := { w.characteristic with notifying } }

def World.setDescriptorValue (w : World) (d : Nat) (value : List UInt8) : World :=
  { w with descriptors := Function.update w.descriptors d { w.descriptors d with value } }

/-- A characteristic as it is constructed, with its client configuration at every address. -/
def World.constructed (properties : UInt8) : World where
  characteristic :=
    { path := ⟨"/app/service0/char1"⟩, registered := false, uuid := .fromShortUuid 0x2a37,
      properties, permissions := 0x01, value := [], notifying := false }
  descriptors _ :=
    { path := ⟨"/app/service0/char1/desc1"⟩, registered := false, uuid := .fromShortUuid 0x2902,
      permissions := 0x03, value := [] }

@[simp] theorem World.setNotifying_characteristic (w : World) (notifying : Bool) :
    (w.setNotifying notifying).characteristic = { w.characteristic with notifying } := rfl

@[simp] theorem World.setNotifying_descriptors (w : World) (notifying : Bool) :
    (w.setNotifying notifying).descriptors = w.descriptors := rfl

@[simp] theorem World.setNotifying_setNotifying (w : World) (a b : Bool) :
    (w.setNotifying a).setNotifying b = w.setNotifying b := rfl

theorem World.setNotifying_self {w : World} (h : w.characteristic.notifying = b) :
    w.setNotifying b = w := by
  cases h
  rfl

@[simp] theorem World.setCharacteristicValue_characteristic (w : World) (value : List UInt8) :
    (w.setCharacteristicValue value).characteristic = { w.characteristic with value } := rfl

@[simp] theorem World.setDescriptorValue_characteristic (w : World) (d : Nat)
    (value : List UInt8) : (w.setDescriptorValue d value).characteristic = w.characteristic := rfl

@[simp] theorem World.setDescriptorValue_self (w : World) (d : Nat) (value : List UInt8) :
    (w.setDescriptorValue d value).descriptors d = { w.descriptors d with value } :=
  Function.update_self ..

theorem World.setDescriptorValue_other {w : World} (h : d' ≠ d) (value : List UInt8) :
    (w.setDescriptorValue d value).descriptors d' = w.descriptors d' :=
  Function.update_of_ne h _ _

end Ggk
