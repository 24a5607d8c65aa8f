import BluetoothLE.DBus.Object

namespace Ggk
open Lib
set_option autoImplicit true

/-- The objects of a GATT server by where they are kept: the application, the services by
address, and the children in the maps of their parents. -/
inductive ObjectPtr where
  | application
  | service (i : Nat)
  | characteristic (i : Nat) (uuid : String)
  | descriptor (i : Nat) (characteristic uuid : String)
  deriving DecidableEq, Repr

inductive Member where
  | getUuidProperty
  | getPrimaryProperty
  | getCharacteristicsProperty
  | getServiceProperty
  | getPropertiesProperty
  | getDescriptorsProperty
  | getNotifyingProperty
  | getCharacteristicProperty
  | getPermissionsProperty
  | handleReadValue
  | handleWriteValue
  | handleStartNotify
  | handleStopNotify
  | handleGetManagedObjects
  deriving DecidableEq, Repr

/-- A lambda that captures `this` and calls a member function. -/
structure Closure where
  this : ObjectPtr
  member : Member
  deriving DecidableEq, Repr

theorem getElem?_insert_string (t : Std.TreeMap String β) (k a : String) (v : β) :
    (t.insert k v)[a]? = if k = a then some v else t[a]? := by
  rw [Std.TreeMap.getElem?_insert]
  simp only [Std.compare_eq_iff_eq]

namespace DBusObject

def addMethods (interface : String) : List (String × κ) → DBusObject κ → Bool × DBusObject κ
  | [], o => (true, o)
  | m :: methods, o =>
    let added := o.addMethod interface m.1 m.2
    if !added.1 then (false, added.2) else addMethods interface methods added.2

/-- What `setupDBusInterfaces` does in every class, up to the tables. -/
def setup (interface : String) (properties : List (DBusProperty κ)) (methods : List (String × κ))
    (parse : String → Option (List String)) (refuses : List Bool) (owner : ω)
    (o : DBusObject κ) (c : DBusConnection (ω × HandlerData κ) η) :
    Bool × DBusObject κ × DBusConnection (ω × HandlerData κ) η :=
  let interfaceAdded := o.addInterface interface properties
  if !interfaceAdded.1 then (false, interfaceAdded.2, c)
  else
    let methodsAdded := interfaceAdded.2.addMethods interface methods
    if !methodsAdded.1 then (false, methodsAdded.2, c)
    else methodsAdded.2.registerObject parse refuses owner c

def withMethod (interface : String) (handlers : Std.TreeMap String (Std.TreeMap String κ))
    (m : String × κ) : Std.TreeMap String (Std.TreeMap String κ) :=
  handlers.insert interface (((handlers[interface]?).getD ∅).insert m.1 m.2)

/-- The object with the tables of one setup, before it is registered. -/
def described (interface : String) (properties : List (DBusProperty κ))
    (methods : List (String × κ)) (path : DBusObjectPath) : DBusObject κ where
  path := path
  registered := false
  interfaces := (∅ : Std.TreeMap String (List (DBusProperty κ))).insert interface properties
  methodHandlers := methods.foldl (withMethod interface) ∅

theorem addMethods_unregistered {o : DBusObject κ} (methods : List (String × κ))
    (hr : o.registered = false) (hc : o.interfaces.contains interface = true) :
    o.addMethods interface methods = (true, { o with
      methodHandlers := methods.foldl (withMethod interface) o.methodHandlers }) := by
  induction methods generalizing o with
  | nil => rfl
  | cons m methods ih =>
    have hadd : o.addMethod interface m.1 m.2 =
        (true, { o with methodHandlers := withMethod interface o.methodHandlers m }) := by
      simp [addMethod, withMethod, hr, hc]
    rw [addMethods, hadd]
    exact ih hr hc

theorem setup_registered {o : DBusObject κ} (hr : o.registered = true) (interface : String)
    (properties : List (DBusProperty κ)) (methods : List (String × κ))
    (parse : String → Option (List String)) (refuses : List Bool) (owner : ω)
    (c : DBusConnection (ω × HandlerData κ) η) :
    o.setup interface properties methods parse refuses owner c = (false, o, c) := by
  simp [setup, addInterface, hr]

theorem setup_unregistered {o : DBusObject κ} (hr : o.registered = false) (interface : String)
    (properties : List (DBusProperty κ)) (methods : List (String × κ))
    (parse : String → Option (List String)) (refuses : List Bool) (owner : ω)
    (c : DBusConnection (ω × HandlerData κ) η) :
    o.setup interface properties methods parse refuses owner c =
      ({ o with
        interfaces := o.interfaces.insert interface properties
        methodHandlers := methods.foldl (withMethod interface) o.methodHandlers } :
          DBusObject κ).registerObject parse refuses owner c := by
  have hadd : o.addInterface interface properties =
      (true, { o with interfaces := o.interfaces.insert interface properties }) := by
    simp [addInterface, hr]
  have hmethods : ({ o with interfaces := o.interfaces.insert interface properties } :
      DBusObject κ).addMethods interface methods = (true, { o with
        interfaces := o.interfaces.insert interface properties
        methodHandlers := methods.foldl (withMethod interface) o.methodHandlers }) :=
    addMethods_unregistered methods hr (by simp)
  simp only [setup, hadd, hmethods, Bool.not_true, Bool.false_eq_true, if_false]

end DBusObject

/-- A property that is read through a getter and cannot be written. -/
def DBusProperty.readOnly (name signature : String) (emitsChangedSignal : Bool)
    (getter : Closure) : DBusProperty Closure :=
  { name, signature, readable := true, writable := false, emitsChangedSignal,
    getter := some getter, setter := none }

namespace ObjectPtr

/-- The interface that `setupDBusInterfaces` of the object's class adds. -/
def interface : ObjectPtr → String
  | .application => BlueZConstants.objectManagerInterface
  | .service _ => BlueZConstants.gattServiceInterface
  | .characteristic _ _ => BlueZConstants.gattCharacteristicInterface
  | .descriptor _ _ _ => BlueZConstants.gattDescriptorInterface

/-- The properties that `setupDBusInterfaces` defines. -/
def properties (this : ObjectPtr) : List (DBusProperty Closure) :=
  match this with
  | .application => []
  | .service _ =>
    [.readOnly "UUID" "s" false ⟨this, .getUuidProperty⟩,
      .readOnly "Primary" "b" false ⟨this, .getPrimaryProperty⟩,
      .readOnly "Characteristics" "ao" true ⟨this, .getCharacteristicsProperty⟩]
  | .characteristic _ _ =>
    [.readOnly "UUID" "s" false ⟨this, .getUuidProperty⟩,
      .readOnly "Service" "o" false ⟨this, .getServiceProperty⟩,
      .readOnly "Flags" "as" false ⟨this, .getPropertiesProperty⟩,
      .readOnly "Descriptors" "ao" true ⟨this, .getDescriptorsProperty⟩,
      .readOnly "Notifying" "b" true ⟨this, .getNotifyingProperty⟩]
  | .descriptor _ _ _ =>
    [.readOnly "UUID" "s" false ⟨this, .getUuidProperty⟩,
      .readOnly "Characteristic" "o" false ⟨this, .getCharacteristicProperty⟩,
      .readOnly "Flags" "as" false ⟨this, .getPermissionsProperty⟩]

/-- The methods that `setupDBusInterfaces` registers, in its order. -/
def methods (this : ObjectPtr) : List (String × Closure) :=
  match this with
  | .application => [(BlueZConstants.getManagedObjects, ⟨this, .handleGetManagedObjects⟩)]
  | .service _ => []
  | .characteristic _ _ =>
    [(BlueZConstants.readValue, ⟨this, .handleReadValue⟩),
      (BlueZConstants.writeValue, ⟨this, .handleWriteValue⟩),
      (BlueZConstants.startNotify, ⟨this, .handleStartNotify⟩),
      (BlueZConstants.stopNotify, ⟨this, .handleStopNotify⟩)]
  | .descriptor _ _ _ =>
    [(BlueZConstants.readValue, ⟨this, .handleReadValue⟩),
      (BlueZConstants.writeValue, ⟨this, .handleWriteValue⟩)]

def setupDBusInterfaces (parse : String → Option (List String)) (refuses : List Bool)
    (this : ObjectPtr) (o : DBusObject Closure)
    (c : DBusConnection (ObjectPtr × HandlerData Closure) η) :
    Bool × DBusObject Closure × DBusConnection (ObjectPtr × HandlerData Closure) η :=
  o.setup this.interface this.properties this.methods parse refuses this c

def described (this : ObjectPtr) (path : DBusObjectPath) : DBusObject Closure :=
  .described this.interface this.properties this.methods path

/-- The document of the object, which its path is no part of. -/
def introspectionXml (this : ObjectPtr) : String :=
  (this.described ⟨""⟩).generateIntrospectionXml

def handlerData (this : ObjectPtr) : HandlerData Closure :=
  ⟨(this.described ⟨""⟩).methodHandlers, (this.described ⟨""⟩).interfaces⟩

end ObjectPtr
end Ggk
