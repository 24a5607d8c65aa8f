import BluetoothLE.Gatt.Application
import BluetoothLE.Gatt.Interfaces
import BluetoothLE.Gatt.Objects

namespace Ggk
open Lib
set_option autoImplicit true

/-- A characteristic with the map of its descriptors. -/
structure CharacteristicNode where
  characteristic : GattCharacteristic
  descriptors : Std.TreeMap String GattDescriptor

structure GattService where
  object : DBusObject Closure
  uuid : GattUuid
  primary : Bool
  characteristics : Std.TreeMap String CharacteristicNode

/-- What the calls of a GATT server work on: a connection, the services that have been
constructed on it, and an application with the list of its services. Whoever constructed a
service keeps the pointer, so that none is destroyed. -/
structure GattServer (η : Type v) where
  connection : DBusConnection (ObjectPtr × HandlerData Closure) η
  objects : List GattService
  app : GattApplication Closure
  services : List Nat

inductive ServerStep where
  | constructService (path : DBusObjectPath) (uuid : GattUuid) (isPrimary : Bool)
  | setupService (i : Nat) (refuses : List Bool)
  | addService (service : Option Nat)
  | removeService (uuid : GattUuid)
  | createCharacteristic (i : Nat) (uuid : GattUuid) (properties permissions : UInt8)
      (refuses : List Bool)
  | createDescriptor (i : Nat) (characteristic : String) (uuid : GattUuid) (permissions : UInt8)
      (refuses : List Bool)
  | registerWithBlueZ (refuses : List Bool) (answered : Bool)
  deriving DecidableEq

inductive Returned where
  | verdict (b : Bool)
  | pointer (p : Option ObjectPtr)
  deriving DecidableEq, Repr

def CharacteristicNode.nextPath (n : CharacteristicNode) : DBusObjectPath :=
  (n.characteristic.path.append "/desc").append (Nat.repr (n.descriptors.size + 1))

namespace GattService

def constructed (path : DBusObjectPath) (uuid : GattUuid) (isPrimary : Bool) : GattService :=
  ⟨.constructed path, uuid, isPrimary, ∅⟩

def nextPath (x : GattService) : DBusObjectPath :=
  (x.object.path.append "/char").append (Nat.repr (x.characteristics.size + 1))

def withCharacteristic (x : GattService) (u : String) (n : CharacteristicNode) : GattService :=
  { x with characteristics := x.characteristics.insert u n }

/-- The new characteristic, or the one that has the same UUID text already. -/
def createCharacteristic (parse : String → Option (List String)) (refuses : List Bool) (i : Nat)
    (uuid : GattUuid) (properties permissions : UInt8) (x : GattService)
    (c : DBusConnection (ObjectPtr × HandlerData Closure) η) :
    Option ObjectPtr × GattService × DBusConnection (ObjectPtr × HandlerData Closure) η :=
  let this := .characteristic i uuid.toString
  if uuid.toString.isEmpty then (none, x, c)
  else if x.characteristics.contains uuid.toString then (some this, x, c)
  else
    let setup := this.setupDBusInterfaces parse refuses (.constructed x.nextPath) c
    if !setup.1 then (none, x, setup.2.2)
    else
      let characteristic : GattCharacteristic :=
        { path := setup.2.1.path, registered := setup.2.1.registered, uuid, properties,
          permissions, value := [], notifying := false }
      (some this, x.withCharacteristic uuid.toString ⟨characteristic, ∅⟩, setup.2.2)

/-- `createDescriptor` of the characteristic that is kept under a text: the new descriptor, or the
one that has the same UUID text already. -/
def createDescriptor (parse : String → Option (List String)) (refuses : List Bool) (i : Nat)
    (characteristic : String) (uuid : GattUuid) (permissions : UInt8) (x : GattService)
    (c : DBusConnection (ObjectPtr × HandlerData Closure) η) :
    Option ObjectPtr × GattService × DBusConnection (ObjectPtr × HandlerData Closure) η :=
  match x.characteristics[characteristic]? with
  | none => (none, x, c)
  | some n =>
    let this := .descriptor i characteristic uuid.toString
    if uuid.toString.isEmpty then (none, x, c)
    else if n.descriptors.contains uuid.toString then (some this, x, c)
    else
      let setup := this.setupDBusInterfaces parse refuses (.constructed n.nextPath) c
      if !setup.1 then (none, x, setup.2.2)
      else
        let descriptor : GattDescriptor :=
          { path := setup.2.1.path, registered := setup.2.1.registered, uuid, permissions,
            value := [] }
        let n := { n with descriptors := n.descriptors.insert uuid.toString descriptor }
        (some this, x.withCharacteristic characteristic n, setup.2.2)

end GattService

namespace GattServer

/-- An application that has just been constructed on a connection. -/
def start (path : DBusObjectPath) (c : DBusConnection (ObjectPtr × HandlerData Closure) η) :
    GattServer η :=
  ⟨c, [], .constructed path, []⟩

def service (s : GattServer η) (i : Nat) : Option GattService := s.objects[i]?

def characteristic (s : GattServer η) (i : Nat) (uuid : String) : Option CharacteristicNode :=
  (s.service i).bind fun x => x.characteristics[uuid]?

def descriptor (s : GattServer η) (i : Nat) (characteristic uuid : String) :
    Option GattDescriptor :=
  (s.characteristic i characteristic).bind fun n => n.descriptors[uuid]?

def setService (s : GattServer η) (i : Nat) (x : GattService) : GattServer η :=
  { s with objects := s.objects.set i x }

def hasUuid (s : GattServer η) (uuid : GattUuid) (i : Nat) : Bool :=
  (s.service i).any fun x => x.uuid.toString == uuid.toString

def getService (uuid : GattUuid) (s : GattServer η) : Option Nat :=
  s.services.find? (s.hasUuid uuid)

def getCharacteristic (i : Nat) (uuid : GattUuid) (s : GattServer η) : Option ObjectPtr :=
  if (s.characteristic i uuid.toString).isSome then some (.characteristic i uuid.toString)
  else none

def getDescriptor (i : Nat) (characteristic : String) (uuid : GattUuid) (s : GattServer η) :
    Option ObjectPtr :=
  if (s.descriptor i characteristic uuid.toString).isSome then
    some (.descriptor i characteristic uuid.toString)
  else none

/-- A null pointer and a UUID text that is there already are refused. -/
def addService (service : Option Nat) (s : GattServer η) : Bool × GattServer η :=
  match service with
  | none => (false, s)
  | some i =>
    match s.service i with
    | none => (false, s)
    | some x =>
      if s.services.any (s.hasUuid x.uuid) then (false, s)
      else (true, { s with services := s.services ++ [i] })

def removeService (uuid : GattUuid) (s : GattServer η) : Bool × GattServer η :=
  if s.services.any (s.hasUuid uuid) then
    (true, { s with services := s.services.eraseP (s.hasUuid uuid) })
  else (false, s)

/-- One call on the application or on an object whose pointer the caller has. -/
def perform (parse : String → Option (List String)) (s : GattServer η) :
    ServerStep → Returned × GattServer η
  | .constructService path uuid isPrimary =>
    (.pointer (some (.service s.objects.length)),
      { s with objects := s.objects ++ [.constructed path uuid isPrimary] })
  | .setupService i refuses =>
    match s.service i with
    | none => (.verdict false, s)
    | some x =>
      let (result, object, connection) :=
        (ObjectPtr.service i).setupDBusInterfaces parse refuses x.object s.connection
      (.verdict result, { s.setService i { x with object } with connection })
  | .addService service =>
    let (result, s) := s.addService service
    (.verdict result, s)
  | .removeService uuid =>
    let (result, s) := s.removeService uuid
    (.verdict result, s)
  | .createCharacteristic i uuid properties permissions refuses =>
    match s.service i with
    | none => (.pointer none, s)
    | some x =>
      let (result, x, connection) :=
        x.createCharacteristic parse refuses i uuid properties permissions s.connection
      (.pointer result, { s.setService i x with connection })
  | .createDescriptor i characteristic uuid permissions refuses =>
    match s.service i with
    | none => (.pointer none, s)
    | some x =>
      let (result, x, connection) :=
        x.createDescriptor parse refuses i characteristic uuid permissions s.connection
      (.pointer result, { s.setService i x with connection })
  | .registerWithBlueZ refuses answered =>
    let r := s.app.registerWithBlueZ parse refuses .application
      ⟨.application, .handleGetManagedObjects⟩ answered s.connection
    (.verdict r.returned, { s with app := r.app, connection := r.connection })

def serving (parse : String → Option (List String)) :
    Machine (GattServer η) ServerStep Returned where
  step s step := s.perform parse step

end GattServer
end Ggk
