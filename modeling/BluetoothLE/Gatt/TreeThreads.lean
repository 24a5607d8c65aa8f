import BluetoothLE.Gatt.Creation
import BluetoothLE.Lib.Numbering
import BluetoothLE.Lib.Program

namespace Ggk
open Lib
set_option autoImplicit true

/-- What has children: a service characteristics, a characteristic descriptors. -/
inductive ParentPtr where
  | service (i : Nat)
  | characteristic (i : Nat) (uuid : String)
  deriving DecidableEq, Repr

namespace ParentPtr

def this : ParentPtr → ObjectPtr
  | .service i => .service i
  | .characteristic i uuid => .characteristic i uuid

def child : ParentPtr → String → ObjectPtr
  | .service i, uuid => .characteristic i uuid
  | .characteristic i parent, uuid => .descriptor i parent uuid

/-- What the paths of the children begin with, after the path of the parent. -/
def segment : ParentPtr → String
  | .service _ => "/char"
  | .characteristic _ _ => "/desc"

def childPath (parent : ParentPtr) (path : DBusObjectPath) (number : Nat) : DBusObjectPath :=
  (path.append parent.segment).append (Nat.repr number)

/-- The paths that a parent can have. A characteristic that nobody has created yet has the one
from the start. -/
def HasPath (paths : ObjectPtr → DBusObjectPath) : ParentPtr → DBusObjectPath → Prop
  | .service i, path => path = paths (.service i)
  | .characteristic i uuid, path => path = paths (.characteristic i uuid) ∨
      ∃ number, path = (ParentPtr.service i).childPath (paths (.service i)) number

end ParentPtr

/-- The mutexes of the application, of the maps of children and of the objects. The one of a
service's map is its `characteristicsMutex`, that of a characteristic's its `descriptorsMutex`. -/
inductive TreeMutex where
  | servicesMutex
  | childrenMutex (parent : ParentPtr)
  | objectMutex (this : ObjectPtr)
  | notifyMutex (this : ObjectPtr)
  deriving DecidableEq, Repr

/-- A call on the services of an application. -/
inductive ServicesCall where
  | addService (i : Nat)
  | removeService (uuid : String)
  | getService (uuid : String)
  | getServices
  deriving DecidableEq, Repr

inductive ServicesAnswer where
  | verdict (call : ServicesCall) (b : Bool)
  | services (call : ServicesCall) (services : List Nat)
  deriving DecidableEq, Repr

/-- The services, each of which has a UUID text of its own. -/
def serviceList (uuids : Nat → String) : Machine (List Nat) ServicesCall (List ServicesAnswer) where
  step services call :=
    match call with
    | .addService i =>
      if services.any fun j => uuids j == uuids i then ([.verdict call false], services)
      else ([.verdict call true], services ++ [i])
    | .removeService uuid =>
      ([.verdict call (services.any fun j => uuids j == uuid)],
        services.eraseP fun j => uuids j == uuid)
    | .getService uuid =>
      ([.services call (services.find? fun j => uuids j == uuid).toList], services)
    | .getServices => ([.services call services], services)

/-- The data under each mutex, with the answers that it has given, oldest first. A child is known
by its path. -/
def TreeCell : TreeMutex → Type
  | .servicesMutex => List Nat × List ServicesAnswer
  | .childrenMutex _ => Std.TreeMap String DBusObjectPath × List (Answer String DBusObjectPath)
  | .objectMutex _ => DBusObject Closure
  | .notifyMutex _ => Bool

abbrev TreeThread (α : Type) : Type := Program TreeMutex TreeCell α

namespace TreeThread

def withLock (m : TreeMutex) (x : TreeThread α) : TreeThread α := Program.locked m x

/-- The data is changed by `f`, and `r` reads what it was. -/
def access (m : TreeMutex) (f : TreeCell m → TreeCell m) (r : TreeCell m → α) : TreeThread α :=
  Program.access m f fun b => .done (r b)

def load (m : TreeMutex) (r : TreeCell m → α) : TreeThread α := access m id r

/-- The data is read where its mutex is not held. -/
def peek (m : TreeMutex) (r : TreeCell m → α) : TreeThread α :=
  Program.peek m fun b => .done (r b)

def services (r : List Nat → α) : TreeThread α := load .servicesMutex fun b => r (Prod.fst b)

def setServices (f : List Nat → List Nat) : TreeThread Unit :=
  access .servicesMutex (fun b => (f (Prod.fst b), Prod.snd b)) fun _ => ()

/-- The answer of a call on the services goes into the record. -/
def reply (answer : ServicesAnswer) : TreeThread Unit :=
  access .servicesMutex (fun b => (Prod.fst b, List.append (Prod.snd b) [answer])) fun _ => ()

section Application
variable (uuids : Nat → String)

/-- The loop over the services, from `k` on for `n` of them, up to the one with the UUID text. -/
def loop (uuid : String) (k : Nat) : Nat → TreeThread (Option Nat)
  | 0 => pure none
  | n + 1 => do
    match ← services fun services => services[k]? with
    | none => return none
    | some j => if uuids j == uuid then return some k else loop uuid (k + 1) n

def search (uuid : String) : TreeThread (Option Nat) := do
  loop uuids uuid 0 (← services List.length)

def addService (service : Option Nat) : TreeThread Bool :=
  match service with
  | none => pure false
  | some i => withLock .servicesMutex do
    match ← search uuids (uuids i) with
    | some _ =>
      reply (.verdict (.addService i) false)
      return false
    | none =>
      setServices fun services => services ++ [i]
      reply (.verdict (.addService i) true)
      return true

/-- The caller still has the service that is removed, so that nothing is destroyed. -/
def removeService (uuid : GattUuid) : TreeThread Bool :=
  withLock .servicesMutex do
    match ← search uuids uuid.toString with
    | some k =>
      setServices fun services => services.eraseIdx k
      reply (.verdict (.removeService uuid.toString) true)
      return true
    | none =>
      reply (.verdict (.removeService uuid.toString) false)
      return false

def getService (uuid : GattUuid) : TreeThread (Option Nat) :=
  withLock .servicesMutex do
    match ← search uuids uuid.toString with
    | some k =>
      let service ← services fun services => services[k]?
      reply (.services (.getService uuid.toString) service.toList)
      return service
    | none =>
      reply (.services (.getService uuid.toString) [])
      return none

end Application

def getServices : TreeThread (List Nat) :=
  withLock .servicesMutex do
    let copy ← services id
    reply (.services .getServices copy)
    return copy

def addInterface (this : ObjectPtr) : TreeThread Bool :=
  withLock (.objectMutex this) (access (.objectMutex this)
    (fun (o : DBusObject Closure) => (o.addInterface this.interface this.properties).2)
    fun (o : DBusObject Closure) => (o.addInterface this.interface this.properties).1)

def addMethods (this : ObjectPtr) : List (String × Closure) → TreeThread Bool
  | [] => pure true
  | m :: methods => do
    let added ← withLock (.objectMutex this) (access (.objectMutex this)
      (fun (o : DBusObject Closure) => (o.addMethod this.interface m.1 m.2).2)
      fun (o : DBusObject Closure) => (o.addMethod this.interface m.1 m.2).1)
    if !added then return false else addMethods this methods

/-- `registers` is whether the connection is there and takes the object. -/
def registerObject (this : ObjectPtr) (registers : Bool) : TreeThread Bool :=
  withLock (.objectMutex this) (access (.objectMutex this)
    (fun (o : DBusObject Closure) => { o with registered := o.registered || registers })
    fun (o : DBusObject Closure) => o.registered || registers)

def setupDBusInterfaces (this : ObjectPtr) (registers : Bool) : TreeThread Bool := do
  if !(← addInterface this) then return false
  else if !(← addMethods this this.methods) then return false
  else registerObject this registers

/-- The constructor takes no mutex, since nobody else can see the new object yet. Here the object
is written with its mutex, which is free then. -/
def construct (this : ObjectPtr) (path : DBusObjectPath) : TreeThread Unit :=
  withLock (.objectMutex this)
    (access (.objectMutex this) (fun _ => DBusObject.constructed path) fun _ => ())

/-- The destructor of an object that nobody else has got unregisters it if it is registered. -/
def destroy (this : ObjectPtr) : TreeThread Unit :=
  withLock (.objectMutex this)
    (access (.objectMutex this) (fun (o : DBusObject Closure) => { o with registered := false })
      fun _ => ())

def children (parent : ParentPtr) (r : Std.TreeMap String DBusObjectPath → α) : TreeThread α :=
  load (.childrenMutex parent) fun b => r (Prod.fst b)

def setChildren (parent : ParentPtr)
    (f : Std.TreeMap String DBusObjectPath → Std.TreeMap String DBusObjectPath) :
    TreeThread Unit :=
  access (.childrenMutex parent) (fun b => (f (Prod.fst b), Prod.snd b)) fun _ => ()

/-- The child that a call returns goes into the record. -/
def answer (parent : ParentPtr) (uuid : String) (child : Option DBusObjectPath) :
    TreeThread (Option DBusObjectPath) :=
  access (.childrenMutex parent) (fun b => (Prod.fst b, List.append (Prod.snd b) [⟨uuid, child⟩]))
    fun _ => child

/-- The child is made while the mutex of the map is held. A child that there is already is
found. -/
def createChild (parent : ParentPtr) (uuid : GattUuid) (registers : Bool) :
    TreeThread (Option DBusObjectPath) :=
  if uuid.toString.isEmpty then pure none
  else withLock (.childrenMutex parent) do
    match ← children parent fun m => m[uuid.toString]? with
    | some path => answer parent uuid.toString (some path)
    | none =>
      let parentPath ← peek (.objectMutex parent.this) DBusObject.path
      let size ← children parent Std.TreeMap.size
      let path := parent.childPath parentPath (size + 1)
      construct (parent.child uuid.toString) path
      if !(← setupDBusInterfaces (parent.child uuid.toString) registers) then
        destroy (parent.child uuid.toString)
        answer parent uuid.toString none
      else
        setChildren parent fun m => m.insert uuid.toString path
        answer parent uuid.toString (some path)

def createCharacteristic (i : Nat) (uuid : GattUuid) (registers : Bool) :
    TreeThread (Option DBusObjectPath) := createChild (.service i) uuid registers

def createDescriptor (i : Nat) (characteristic : String) (uuid : GattUuid) (registers : Bool) :
    TreeThread (Option DBusObjectPath) := createChild (.characteristic i characteristic) uuid registers

def getChild (parent : ParentPtr) (uuid : GattUuid) : TreeThread (Option DBusObjectPath) :=
  withLock (.childrenMutex parent) do
    answer parent uuid.toString (← children parent fun m => m[uuid.toString]?)

def getCharacteristic (i : Nat) (uuid : GattUuid) : TreeThread (Option DBusObjectPath) :=
  getChild (.service i) uuid

def getDescriptor (i : Nat) (characteristic : String) (uuid : GattUuid) :
    TreeThread (Option DBusObjectPath) := getChild (.characteristic i characteristic) uuid

/-- The getter of the list of children, which reads their paths. -/
def childPaths (parent : ParentPtr) : TreeThread (List DBusObjectPath) :=
  withLock (.childrenMutex parent) do
    let uuids ← children parent Std.TreeMap.keys
    uuids.mapM fun uuid => peek (.objectMutex (parent.child uuid)) DBusObject.path

def isNotifying (this : ObjectPtr) : TreeThread Bool :=
  withLock (.notifyMutex this) (load (.notifyMutex this) id)

/-- What a getter does with the mutexes. -/
def callGetter (closure : Closure) : TreeThread Unit :=
  match closure.this, closure.member with
  | .service i, .getCharacteristicsProperty => discard (childPaths (.service i))
  | .characteristic i uuid, .getDescriptorsProperty =>
    discard (childPaths (.characteristic i uuid))
  | this, .getNotifyingProperty => discard (isNotifying this)
  | _, _ => pure ()

/-- The getter is called while the mutex of the object is held. -/
def getProperty (this : ObjectPtr) (interface name : String) : TreeThread Unit :=
  withLock (.objectMutex this) do
    let properties ← load (.objectMutex this) fun (o : DBusObject Closure) =>
      o.interfaces[interface]?
    match (properties.getD []).find? fun prop => prop.name == name with
    | none => pure ()
    | some prop =>
      if !prop.readable then pure ()
      else
        match prop.getter with
        | none => pure ()
        | some getter => callGetter getter

/-- The reference is to the map, and the mutex is free when the caller copies it. -/
def getChildren (parent : ParentPtr) : TreeThread (List String) := do
  withLock (.childrenMutex parent) (pure ())
  peek (.childrenMutex parent) fun b => b.1.keys

/-- The objects that are listed, with what they have of children. -/
def createManagedObjectsDict : TreeThread (List DBusObjectPath) := do
  let services ← getServices
  let listed ← services.mapM fun i => do
    let characteristics ← getChildren (.service i)
    let path ← peek (.objectMutex (.service i)) DBusObject.path
    let listed ← characteristics.mapM fun uuid => do
      let descriptors ← getChildren (.characteristic i uuid)
      discard (isNotifying (.characteristic i uuid))
      let path ← peek (.objectMutex (.characteristic i uuid)) DBusObject.path
      let paths ← descriptors.mapM fun descriptor =>
        peek (.objectMutex (.descriptor i uuid descriptor)) DBusObject.path
      return path :: paths
    return path :: listed.flatten
  return listed.flatten

end TreeThread
end Ggk
