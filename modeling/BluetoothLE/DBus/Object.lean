import BluetoothLE.DBus.Connection

namespace Ggk
open Lib
set_option autoImplicit true

structure HandlerData (κ : Type u) where
  methodHandlers : Std.TreeMap String (Std.TreeMap String κ)
  properties : Std.TreeMap String (List (DBusProperty κ))

structure DBusObject (κ : Type u) where
  path : DBusObjectPath
  registered : Bool
  interfaces : Std.TreeMap String (List (DBusProperty κ))
  methodHandlers : Std.TreeMap String (Std.TreeMap String κ)

namespace DBusObject

def constructed (path : DBusObjectPath) : DBusObject κ := ⟨path, false, ∅, ∅⟩

def addInterface (interface : String) (properties : List (DBusProperty κ)) (o : DBusObject κ) :
    Bool × DBusObject κ :=
  if o.registered then (false, o)
  else (true, { o with interfaces := o.interfaces.insert interface properties })

/-- The interface of the method is made if it does not exist. -/
def addMethod (interface method : String) (handler : κ) (o : DBusObject κ) :
    Bool × DBusObject κ :=
  if o.registered then (false, o)
  else
    let methods := (o.methodHandlers[interface]?).getD ∅
    (true, { o with
      interfaces :=
        if o.interfaces.contains interface then o.interfaces else o.interfaces.insert interface []
      methodHandlers := o.methodHandlers.insert interface (methods.insert method handler) })

def methodCalls (interface : String) (o : DBusObject κ) : List DBusMethodCall :=
  match o.methodHandlers[interface]? with
  | none => []
  | some methods => methods.keys.map fun method =>
    { sender := "", interface, method, parameters := none, invocation := false }

def generateIntrospectionXml (o : DBusObject κ) : String :=
  "<?xml version=\"1.0\" encoding=\"UTF-8\"?>\n<node>\n" ++
    String.join (o.interfaces.toList.map fun iface =>
      DBusXml.createInterface iface.1 iface.2 (o.methodCalls iface.1) [] 1) ++
    "</node>"

/-- `owner` marks the exports with the object that makes them. The code keeps no such mark,
and nothing reads it. -/
def registerObject (parse : String → Option (List String)) (refuses : List Bool) (owner : ω)
    (o : DBusObject κ) (c : DBusConnection (ω × HandlerData κ) η) :
    Bool × DBusObject κ × DBusConnection (ω × HandlerData κ) η :=
  if o.registered then (true, o, c)
  else if !c.isConnected then (false, o, c)
  else
    let registered := c.registerObject parse refuses o.path o.generateIntrospectionXml
      (owner, ⟨o.methodHandlers, o.interfaces⟩)
    (registered.1, { o with registered := registered.1 }, registered.2)

def unregisterObject (o : DBusObject κ) (c : DBusConnection δ η) :
    Bool × DBusObject κ × DBusConnection δ η :=
  if !o.registered then (true, o, c)
  else
    let unregistered := c.unregisterObject o.path
    (unregistered.1, { o with registered := !unregistered.1 }, unregistered.2)

section Facts
variable {o : DBusObject κ}

theorem addInterface_same (interface : String) (properties : List (DBusProperty κ)) :
    (o.addInterface interface properties).2.path = o.path ∧
      (o.addInterface interface properties).2.registered = o.registered := by
  rw [addInterface]
  split
  · exact ⟨rfl, rfl⟩
  · exact ⟨rfl, rfl⟩

theorem addMethod_same (interface method : String) (handler : κ) :
    (o.addMethod interface method handler).2.path = o.path ∧
      (o.addMethod interface method handler).2.registered = o.registered := by
  rw [addMethod]
  split
  · exact ⟨rfl, rfl⟩
  · exact ⟨rfl, rfl⟩

/-- All that a registration can do to a connection that is open. -/
theorem registerObject_cases (parse : String → Option (List String)) (refuses : List Bool)
    (owner : ω) (hr : o.registered = false) (c : DBusConnection (ω × HandlerData κ) η) :
    ∃ exports, (∀ e ∈ c.exports.entries, e ∈ exports.entries) ∧
      (o.registerObject parse refuses owner c = (false, o, { c with exports }) ∨
        ∃ id interface, c.connection = .opened ∧ c.registeredObjects[o.path.toString]? = none ∧
          (∃ interfaces, parse o.generateIntrospectionXml = some interfaces ∧
            interface ∈ interfaces) ∧
          (id, ⟨o.path, interface, owner, o.methodHandlers, o.interfaces⟩) ∈ exports.entries ∧
          o.registerObject parse refuses owner c = (true, { o with registered := true }, { c with
            exports, registeredObjects := c.registeredObjects.insert o.path.toString id })) := by
  have hself : { o with registered := false } = o := by
    cases o
    cases hr
    rfl
  cases hc : c.isConnected with
  | false => exact ⟨c.exports, fun _ he => he, .inl (by simp [registerObject, hr, hc])⟩
  | true =>
    obtain ⟨exports, hkeep, h⟩ := DBusConnection.registerObject_cases parse refuses o.path
      o.generateIntrospectionXml (owner, (⟨o.methodHandlers, o.interfaces⟩ : HandlerData κ)) c
    refine ⟨exports, hkeep, h.imp (fun heq => ?_) ?_⟩
    · simp [registerObject, hr, hc, heq, hself]
    · rintro ⟨id, interface, ho, hn, hi, hid, heq⟩
      exact ⟨id, interface, ho, hn, hi, hid, by simp [registerObject, hr, hc, heq]⟩

theorem unregisterObject_registered {c : DBusConnection δ η} (hr : o.registered = true)
    (hc : c.connection = .opened) (hid : c.registeredObjects[o.path.toString]? = some i)
    (hi : c.exports.contains i = true) :
    o.unregisterObject c = (true, { o with registered := false }, { c with
      exports := c.exports.erase i
      registeredObjects := c.registeredObjects.erase o.path.toString }) := by
  simp [unregisterObject, hr, DBusConnection.unregisterObject_registered hc hid hi]

end Facts
end DBusObject
end Ggk
