import BluetoothLE.DBus.Object
import BluetoothLE.Lib.Machine

namespace Ggk
open Lib
set_option autoImplicit true

/-- An application object. Its flag hides the one of the object that it extends. -/
structure GattApplication (κ : Type u) where
  object : DBusObject κ
  registered : Bool

namespace GattApplication

def constructed (path : DBusObjectPath) : GattApplication κ := ⟨.constructed path, false⟩

section Code
variable (parse : String → Option (List String)) (refuses : List Bool) (owner : ω)
  (handleGetManagedObjects : κ)

def setupDBusInterfaces (o : DBusObject κ) (c : DBusConnection (ω × HandlerData κ) η) :
    Bool × DBusObject κ × DBusConnection (ω × HandlerData κ) η :=
  let interfaceAdded := o.addInterface BlueZConstants.objectManagerInterface []
  if !interfaceAdded.1 then (false, interfaceAdded.2, c)
  else
    let methodAdded := interfaceAdded.2.addMethod BlueZConstants.objectManagerInterface
      BlueZConstants.getManagedObjects handleGetManagedObjects
    if !methodAdded.1 then (false, methodAdded.2, c)
    else methodAdded.2.registerObject parse refuses owner c

/-- A call of BlueZ's application manager, about the application at `path`. -/
def managerCall (method : String) (path : DBusObjectPath) : BusCall DBusObjectPath :=
  ⟨BlueZConstants.bluezService, BlueZConstants.adapterPath, BlueZConstants.gattManagerInterface,
    method, path⟩

structure Result (κ : Type u) (ω : Type u) (η : Type v) where
  returned : Bool
  app : GattApplication κ
  connection : DBusConnection (ω × HandlerData κ) η
  calls : List (BusCall DBusObjectPath × Bool)

def registerWithBlueZ (answered : Bool) (app : GattApplication κ)
    (c : DBusConnection (ω × HandlerData κ) η) : Result κ ω η :=
  if app.registered then ⟨true, app, c, []⟩
  else
    let setup := setupDBusInterfaces parse refuses owner handleGetManagedObjects app.object c
    let app := { app with object := setup.2.1 }
    if !setup.1 then ⟨false, app, setup.2.2, []⟩
    else
      let replied := setup.2.2.callMethod answered
        (managerCall BlueZConstants.registerApplication app.object.path)
      if !replied.1 then ⟨false, app, setup.2.2, replied.2⟩
      else ⟨true, { app with registered := true }, setup.2.2, replied.2⟩

def unregisterFromBlueZ (answered : Bool) (app : GattApplication κ)
    (c : DBusConnection (ω × HandlerData κ) η) : Result κ ω η :=
  if !app.registered then ⟨true, app, c, []⟩
  else
    let replied := c.callMethod answered
      (managerCall BlueZConstants.unregisterApplication app.object.path)
    if !replied.1 then ⟨false, app, c, replied.2⟩
    else ⟨true, { app with registered := false }, c, replied.2⟩

end Code
end GattApplication

namespace BlueZ

/-- The applications that BlueZ holds after it has answered a call. -/
def after (held : List DBusObjectPath) (call : BusCall DBusObjectPath × Bool) :
    List DBusObjectPath :=
  if !call.2 then held
  else if call.1.method == BlueZConstants.registerApplication then call.1.parameters :: held
  else if call.1.method == BlueZConstants.unregisterApplication then
    held.filter (· != call.1.parameters)
  else held

end BlueZ

inductive ApplicationStep
  | registerWithBlueZ (answered : Bool)
  | unregisterFromBlueZ (answered : Bool)
  deriving DecidableEq, Repr

structure Hosted (κ : Type u) (ω : Type u) (η : Type v) where
  app : GattApplication κ
  connection : DBusConnection (ω × HandlerData κ) η
  held : List DBusObjectPath

namespace Hosted

section Machine
variable (parse : String → Option (List String)) (owner : ω) (handleGetManagedObjects : κ)

/-- One call, with BlueZ's answer. GDBus refuses nothing that is free. -/
def perform (s : Hosted κ ω η) : ApplicationStep → GattApplication.Result κ ω η
  | .registerWithBlueZ answered => s.app.registerWithBlueZ parse [] owner handleGetManagedObjects
    answered s.connection
  | .unregisterFromBlueZ answered => s.app.unregisterFromBlueZ answered s.connection

def hosting : Machine (Hosted κ ω η) ApplicationStep Bool where
  step s step :=
    let r := s.perform parse owner handleGetManagedObjects step
    (r.returned, ⟨r.app, r.connection, r.calls.foldl BlueZ.after s.held⟩)

/-- A registration fails only if BlueZ rejects it, and the flag says whether BlueZ holds the
application. -/
def Correct (s : Hosted κ ω η) (step : ApplicationStep) : Prop :=
  let r := s.perform parse owner handleGetManagedObjects step
  let next := (hosting parse owner handleGetManagedObjects).next s step
  (next.app.registered = true ↔ next.app.object.path ∈ next.held) ∧
    match step with
    | .registerWithBlueZ _ => r.returned = false → (GattApplication.managerCall
        BlueZConstants.registerApplication s.app.object.path, false) ∈ r.calls
    | .unregisterFromBlueZ _ => True

end Machine

/-- The application asks for a registration only before its object has been exported. -/
def Registrable (s : Hosted κ ω η) : ApplicationStep → Prop
  | .registerWithBlueZ _ => s.app.registered = true ∨ s.app.object.registered = false
  | .unregisterFromBlueZ _ => True

end Hosted

namespace GattApplication

def described (handleGetManagedObjects : κ) (path : DBusObjectPath) : DBusObject κ where
  path := path
  registered := false
  interfaces := (∅ : Std.TreeMap String (List (DBusProperty κ))).insert
    BlueZConstants.objectManagerInterface []
  methodHandlers := (∅ : Std.TreeMap String (Std.TreeMap String κ)).insert
    BlueZConstants.objectManagerInterface
    ((∅ : Std.TreeMap String κ).insert BlueZConstants.getManagedObjects handleGetManagedObjects)

/-- The document that every application registers its object with. -/
def introspectionXml : String :=
  "<?xml version=\"1.0\" encoding=\"UTF-8\"?>\n<node>\n" ++
    "    <interface name='org.freedesktop.DBus.ObjectManager'>\n" ++
    "      <method name='GetManagedObjects'>\n      </method>\n    </interface>\n</node>"

section Setup
variable {handleGetManagedObjects : κ} {path : DBusObjectPath}

theorem createInterface_objectManager (κ : Type u) :
    DBusXml.createInterface (κ := κ) BlueZConstants.objectManagerInterface []
      [⟨"", BlueZConstants.objectManagerInterface, BlueZConstants.getManagedObjects, none, false⟩]
      [] 1 = "    <interface name='org.freedesktop.DBus.ObjectManager'>\n" ++
        "      <method name='GetManagedObjects'>\n      </method>\n    </interface>\n" := by
  simp only [DBusXml.createInterface, List.map_nil]
  decide +kernel

theorem described_methodCalls : (described handleGetManagedObjects path).methodCalls
    BlueZConstants.objectManagerInterface =
      [⟨"", BlueZConstants.objectManagerInterface, BlueZConstants.getManagedObjects, none,
        false⟩] := by
  simp only [DBusObject.methodCalls, described, Std.TreeMap.getElem?_insert_self]
  rfl

theorem described_xml :
    (described handleGetManagedObjects path).generateIntrospectionXml = introspectionXml := by
  have ht : (described handleGetManagedObjects path).interfaces.toList =
      [(BlueZConstants.objectManagerInterface, [])] := rfl
  have hi : (described handleGetManagedObjects path).interfaces.toList.map (fun iface =>
      DBusXml.createInterface iface.1 iface.2
        ((described handleGetManagedObjects path).methodCalls iface.1) [] 1) =
      ["    <interface name='org.freedesktop.DBus.ObjectManager'>\n" ++
        "      <method name='GetManagedObjects'>\n      </method>\n    </interface>\n"] := by
    rw [ht, List.map_cons, List.map_nil, described_methodCalls, createInterface_objectManager]
  unfold DBusObject.generateIntrospectionXml
  rw [hi]
  decide +kernel

theorem setupDBusInterfaces_registered {o : DBusObject κ} (hr : o.registered = true)
    (parse : String → Option (List String)) (refuses : List Bool) (owner : ω)
    (c : DBusConnection (ω × HandlerData κ) η) :
    setupDBusInterfaces parse refuses owner handleGetManagedObjects o c = (false, o, c) := by
  simp [setupDBusInterfaces, DBusObject.addInterface, hr]

theorem setupDBusInterfaces_constructed (parse : String → Option (List String))
    (refuses : List Bool) (owner : ω) (c : DBusConnection (ω × HandlerData κ) η) :
    setupDBusInterfaces parse refuses owner handleGetManagedObjects (.constructed path) c =
      (described handleGetManagedObjects path).registerObject parse refuses owner c := by
  simp [setupDBusInterfaces, DBusObject.addInterface, DBusObject.addMethod, DBusObject.constructed,
    described]

end Setup

section Calls
variable (parse : String → Option (List String)) (refuses : List Bool) (owner : ω)
  (handleGetManagedObjects : κ) {app : GattApplication κ}
  {c : DBusConnection (ω × HandlerData κ) η}

theorem registerWithBlueZ_registered (hr : app.registered = true) (answered : Bool) :
    app.registerWithBlueZ parse refuses owner handleGetManagedObjects answered c =
      ⟨true, app, c, []⟩ := by
  rw [registerWithBlueZ, if_pos hr]

theorem registerWithBlueZ_exported (hr : app.registered = false)
    (ho : app.object.registered = true) (answered : Bool) :
    app.registerWithBlueZ parse refuses owner handleGetManagedObjects answered c =
      ⟨false, app, c, []⟩ := by
  cases app
  cases hr
  rw [registerWithBlueZ, setupDBusInterfaces_registered ho, if_neg Bool.false_ne_true]
  rfl

theorem registerObject_described (hp : parse introspectionXml =
      some [BlueZConstants.objectManagerInterface]) (hc : c.connection = .opened)
    (hf : c.registeredObjects[path.toString]? = none)
    (hx : ∀ e ∈ c.exports.entries, e.2.path ≠ path) :
    ∃ c', c'.connection = .opened ∧
      (described handleGetManagedObjects path).registerObject parse [] owner c =
        (true, { described handleGetManagedObjects path with registered := true }, c') := by
  let data : HandlerData κ := ⟨(described handleGetManagedObjects path).methodHandlers,
    (described handleGetManagedObjects path).interfaces⟩
  obtain ⟨c', hc', hreg⟩ : ∃ c', c'.connection = .opened ∧
      c.registerObject parse [] path introspectionXml (owner, data) = (true, c') :=
    ⟨_, by exact hc,
      (DBusConnection.registerObject_single _ _ hc hf hx hp).trans (if_neg Bool.false_ne_true)⟩
  refine ⟨c', hc', ?_⟩
  rw [DBusObject.registerObject, if_neg (by exact Bool.false_ne_true),
    DBusConnection.isConnected_iff.2 hc, described_xml]
  exact congrArg (fun r : Bool × DBusConnection (ω × HandlerData κ) η =>
    (r.1, { described handleGetManagedObjects path with registered := r.1 }, r.2)) hreg

theorem registerWithBlueZ_constructed (hp : parse introspectionXml =
      some [BlueZConstants.objectManagerInterface]) (hc : c.connection = .opened)
    (hf : c.registeredObjects[path.toString]? = none)
    (hx : ∀ e ∈ c.exports.entries, e.2.path ≠ path) (answered : Bool) :
    ∃ c', c'.connection = .opened ∧
      (constructed path).registerWithBlueZ parse [] owner handleGetManagedObjects answered c =
        ⟨answered, ⟨{ described handleGetManagedObjects path with registered := true }, answered⟩,
          c', [(managerCall BlueZConstants.registerApplication path, answered)]⟩ := by
  obtain ⟨c', hc', heq⟩ := registerObject_described parse owner handleGetManagedObjects
    hp hc hf hx
  refine ⟨c', hc', ?_⟩
  rw [registerWithBlueZ, if_neg (by exact Bool.false_ne_true), constructed,
    setupDBusInterfaces_constructed, heq]
  cases answered <;> simp [DBusConnection.callMethod, DBusConnection.isConnected, hc', described]

theorem unregisterFromBlueZ_opened (hc : c.connection = .opened) (hr : app.registered = true)
    (answered : Bool) : app.unregisterFromBlueZ answered c =
      ⟨answered, { app with registered := !answered }, c,
        [(managerCall BlueZConstants.unregisterApplication app.object.path, answered)]⟩ := by
  cases app
  cases hr
  cases answered <;> simp [unregisterFromBlueZ, DBusConnection.callMethod,
    DBusConnection.isConnected, hc]

end Calls
end GattApplication

namespace BlueZ

@[simp] theorem after_rejected (held : List DBusObjectPath) (call : BusCall DBusObjectPath) :
    after held (call, false) = held := rfl

@[simp] theorem after_register (held : List DBusObjectPath) (path : DBusObjectPath) :
    after held (GattApplication.managerCall BlueZConstants.registerApplication path, true) =
      path :: held := by
  simp [after, GattApplication.managerCall]

@[simp] theorem after_unregister (held : List DBusObjectPath) (path : DBusObjectPath) :
    after held (GattApplication.managerCall BlueZConstants.unregisterApplication path, true) =
      held.filter (· != path) := by
  simp [after, GattApplication.managerCall, BlueZConstants.registerApplication,
    BlueZConstants.unregisterApplication]

end BlueZ

namespace Hosted

/-- The invariant of an application at `path`: the flag is right, and as long as the object
has not been exported nothing stands in its way. -/
structure Ready (path : DBusObjectPath) (s : Hosted κ ω η) : Prop where
  opened : s.connection.connection = .opened
  path_eq : s.app.object.path = path
  flag : s.app.registered = true ↔ path ∈ s.held
  free : s.app.object.registered = false → s.app = .constructed path ∧
    s.connection.registeredObjects[path.toString]? = none ∧
    ∀ e ∈ s.connection.exports.entries, e.2.path ≠ path

section Steps
variable {s : Hosted κ ω η} {path : DBusObjectPath} {parse : String → Option (List String)}
  {owner : ω} {handleGetManagedObjects : κ}

theorem Ready.registerWithBlueZ (h : Ready path s) (hp : parse GattApplication.introspectionXml =
      some [BlueZConstants.objectManagerInterface])
    (hr : Registrable s (.registerWithBlueZ answered)) :
    Correct parse owner handleGetManagedObjects s (.registerWithBlueZ answered) ∧
      Ready path ((hosting parse owner handleGetManagedObjects).next s
        (.registerWithBlueZ answered)) := by
  cases ha : s.app.registered with
  | true =>
    have heq := GattApplication.registerWithBlueZ_registered parse [] owner
      handleGetManagedObjects (c := s.connection) ha answered
    have hn : (hosting parse owner handleGetManagedObjects).next s
        (.registerWithBlueZ answered) = s := by
      simp [Machine.next, hosting, perform, heq]
    rw [Correct, hn]
    refine ⟨⟨?_, ?_⟩, h⟩
    · rw [h.path_eq]
      exact h.flag
    · intro hf
      simp only [perform, heq] at hf
      exact absurd hf Bool.true_eq_false.mp
  | false =>
    rcases hr with hr | hr
    · exact absurd (ha.symm.trans hr) Bool.false_ne_true
    · obtain ⟨happ, hf, hx⟩ := h.free hr
      obtain ⟨c', hc', heq⟩ := GattApplication.registerWithBlueZ_constructed parse owner
        handleGetManagedObjects hp h.opened hf hx answered
      rw [← happ] at heq
      have hheld : path ∉ s.held := fun hm => absurd (h.flag.2 hm) (by simp [ha])
      have hn : (hosting parse owner handleGetManagedObjects).next s
          (.registerWithBlueZ answered) =
          ⟨⟨{ GattApplication.described handleGetManagedObjects path with registered := true },
            answered⟩, c', if answered then path :: s.held else s.held⟩ := by
        cases answered <;> simp [Machine.next, hosting, perform, heq]
      have hflag : answered = true ↔ path ∈ if answered then path :: s.held else s.held := by
        cases answered <;> simp [hheld]
      rw [Correct, hn]
      refine ⟨⟨hflag, ?_⟩, hc', rfl, hflag, fun hf => absurd hf Bool.true_eq_false.mp⟩
      intro hfalse
      simp only [perform, heq] at hfalse ⊢
      rw [h.path_eq, hfalse]
      exact List.mem_singleton_self _

theorem Ready.unregisterFromBlueZ (h : Ready path s) (answered : Bool) :
    Correct parse owner handleGetManagedObjects s (.unregisterFromBlueZ answered) ∧
      Ready path ((hosting parse owner handleGetManagedObjects).next s
        (.unregisterFromBlueZ answered)) := by
  cases ha : s.app.registered with
  | false =>
    have hn : (hosting parse owner handleGetManagedObjects).next s
        (.unregisterFromBlueZ answered) = s := by
      simp [Machine.next, hosting, perform, GattApplication.unregisterFromBlueZ, ha]
    rw [Correct, hn]
    refine ⟨⟨?_, trivial⟩, h⟩
    rw [h.path_eq]
    exact h.flag
  | true =>
    have heq := GattApplication.unregisterFromBlueZ_opened h.opened ha answered
    have hn : (hosting parse owner handleGetManagedObjects).next s
        (.unregisterFromBlueZ answered) = ⟨{ s.app with registered := !answered }, s.connection,
          if answered then s.held.filter (· != path) else s.held⟩ := by
      rw [← h.path_eq]
      cases answered <;> simp [Machine.next, hosting, perform, heq]
    have hflag : (!answered) = true ↔
        path ∈ if answered then s.held.filter (· != path) else s.held := by
      cases answered <;> simp [h.flag.1 ha]
    rw [Correct, hn]
    refine ⟨⟨?_, trivial⟩, h.opened, h.path_eq, hflag, ?_⟩
    · rw [h.path_eq]
      exact hflag
    · intro hf
      rw [(h.free hf).1] at ha
      exact absurd ha Bool.false_ne_true

theorem registrable_of_correct (h : Correct parse owner handleGetManagedObjects s step) :
    Registrable s step := by
  cases step with
  | unregisterFromBlueZ answered => trivial
  | registerWithBlueZ answered =>
    cases ha : s.app.registered with
    | true => exact .inl ha
    | false =>
      apply Or.inr
      apply Bool.eq_false_iff.2
      intro ho
      have heq := GattApplication.registerWithBlueZ_exported parse [] owner
        handleGetManagedObjects (c := s.connection) ha ho answered
      have hm := h.2
      simp only [perform, heq] at hm
      exact absurd (hm trivial) List.not_mem_nil

end Steps

/-- In a run of registrations and their ends, a registration fails only on BlueZ's word and the
flag agrees with BlueZ exactly if the application asks for no registration between the export
of its object and an answer that lets it in. -/
theorem registered_with_bluez_iff (parse : String → Option (List String)) (owner : ω)
    (handleGetManagedObjects : κ) (path : DBusObjectPath)
    (c : DBusConnection (ω × HandlerData κ) η) (held : List DBusObjectPath)
    (hp : parse GattApplication.introspectionXml = some [BlueZConstants.objectManagerInterface])
    (hc : c.connection = .opened) (hf : c.registeredObjects[path.toString]? = none)
    (hx : ∀ e ∈ c.exports.entries, e.2.path ≠ path) (hh : path ∉ held)
    (steps : List ApplicationStep) :
    (hosting parse owner handleGetManagedObjects).Every
        (Correct parse owner handleGetManagedObjects) ⟨.constructed path, c, held⟩ steps ↔
      (hosting parse owner handleGetManagedObjects).Every Registrable
        ⟨.constructed path, c, held⟩ steps := by
  have hstep (s : Hosted κ ω η) (step : ApplicationStep) (h : Ready path s)
      (hr : Registrable s step) : Correct parse owner handleGetManagedObjects s step ∧
        Ready path ((hosting parse owner handleGetManagedObjects).next s step) := by
    cases step with
    | registerWithBlueZ answered => exact h.registerWithBlueZ hp hr
    | unregisterFromBlueZ answered => exact h.unregisterFromBlueZ answered
  have hstart : Ready path (⟨.constructed path, c, held⟩ : Hosted κ ω η) :=
    ⟨hc, rfl, ⟨fun h => absurd h Bool.false_ne_true, fun h => absurd h hh⟩,
      fun _ => ⟨rfl, hf, hx⟩⟩
  exact Machine.every_iff hstart
    (fun s step h => ⟨registrable_of_correct, fun hr => (hstep s step h hr).1⟩)
    fun s step h hr => (hstep s step h hr).2

theorem registered_with_bluez_example :
    let parse (xml : String) : Option (List String) :=
      if xml = GattApplication.introspectionXml then some [BlueZConstants.objectManagerInterface]
      else none
    (hosting parse () ()).Every (Correct parse () ())
      ⟨.constructed ⟨"/com/example/gatt"⟩, ((DBusConnection.constructed _ Unit).connect true).2, []⟩
      [.registerWithBlueZ true, .unregisterFromBlueZ true] := by
  intro parse
  have hp : parse GattApplication.introspectionXml =
      some [BlueZConstants.objectManagerInterface] := if_pos rfl
  have hx : ∀ e ∈ ((DBusConnection.constructed (Unit × HandlerData Unit) Unit).connect
      true).2.exports.entries, e.2.path ≠ ⟨"/com/example/gatt"⟩ := by
    intro e he
    cases he
  exact (registered_with_bluez_iff parse () () ⟨"/com/example/gatt"⟩
    ((DBusConnection.constructed _ Unit).connect true).2 [] hp rfl rfl hx
    List.not_mem_nil _).2 ⟨.inr rfl, trivial, trivial⟩

/-- After a rejection, or after the end of a registration, the next one fails by itself. -/
theorem not_registered_again :
    let parse : String → Option (List String) :=
      fun _ => some [BlueZConstants.objectManagerInterface]
    let start : Hosted Unit Unit Unit :=
      ⟨.constructed ⟨"/com/example/gatt"⟩, ((DBusConnection.constructed _ Unit).connect true).2, []⟩
    ¬ (hosting parse () ()).Every (Correct parse () ()) start
        [.registerWithBlueZ false, .registerWithBlueZ true] ∧
      ¬ (hosting parse () ()).Every (Correct parse () ()) start
        [.registerWithBlueZ true, .unregisterFromBlueZ true, .registerWithBlueZ true] := by
  apply And.intro
  · intro h
    obtain ⟨_, ⟨_, hm⟩, _⟩ := h
    cases hm (by decide)
  · intro h
    obtain ⟨_, _, ⟨_, hm⟩, _⟩ := h
    cases hm (by decide)

end Hosted
end Ggk
