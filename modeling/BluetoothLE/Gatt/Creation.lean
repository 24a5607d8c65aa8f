import BluetoothLE.Gatt.Server

namespace Ggk
open Lib
set_option autoImplicit true

section Registration
variable {parse : String → Option (List String)}
  {c c' : DBusConnection (ObjectPtr × HandlerData Closure) η}

/-- A registration that failed. It may have left exports behind. -/
def Declines (c c' : DBusConnection (ObjectPtr × HandlerData Closure) η) : Prop :=
  ∃ exports, (∀ e ∈ c.exports.entries, e ∈ exports.entries) ∧ c' = { c with exports }

/-- The registry leads from the path to an export of this very object, with its document and
its tables. -/
def Holds (parse : String → Option (List String))
    (c : DBusConnection (ObjectPtr × HandlerData Closure) η) (this : ObjectPtr)
    (path : DBusObjectPath) : Prop :=
  ∃ id interface interfaces, c.registeredObjects[path.toString]? = some id ∧
    parse this.introspectionXml = some interfaces ∧ interface ∈ interfaces ∧
    (id, ⟨path, interface, this, this.handlerData⟩) ∈ c.exports.entries

/-- A registration of an object at a path that was free. -/
structure Admits (parse : String → Option (List String)) (this : ObjectPtr)
    (path : DBusObjectPath) (c c' : DBusConnection (ObjectPtr × HandlerData Closure) η) :
    Prop where
  free : c.registeredObjects[path.toString]? = none
  keeps : ∀ e ∈ c.exports.entries, e ∈ c'.exports.entries
  others : ∀ key, key ≠ path.toString → c'.registeredObjects[key]? = c.registeredObjects[key]?
  opened : c.connection = .opened ∧ c'.connection = .opened
  holds : Holds parse c' this path

theorem Declines.refl (c : DBusConnection (ObjectPtr × HandlerData Closure) η) : Declines c c :=
  ⟨c.exports, fun _ he => he, rfl⟩

theorem Declines.holds (h : Declines c c') (hp : Holds parse c p path) : Holds parse c' p path := by
  obtain ⟨exports, hkeep, rfl⟩ := h
  obtain ⟨id, interface, interfaces, hid, hx, hi, he⟩ := hp
  exact ⟨id, interface, interfaces, hid, hx, hi, hkeep _ he⟩

theorem Holds.ne_of_free (hp : Holds parse c p path)
    (hf : c.registeredObjects[path'.toString]? = none) : path ≠ path' := by
  rintro rfl
  obtain ⟨id, _, _, hid, _⟩ := hp
  rw [hid] at hf
  cases hf

theorem Admits.holds_other (h : Admits parse this path c c') (hp : Holds parse c p path') :
    Holds parse c' p path' := by
  have hne := hp.ne_of_free h.free
  obtain ⟨id, interface, interfaces, hid, hx, hi, he⟩ := hp
  apply Exists.intro id
  rw [h.others _ (mt DBusObjectPath.toString_inj.1 hne)]
  exact ⟨interface, interfaces, hid, hx, hi, h.keeps _ he⟩

/-- Two objects never hold one path. -/
theorem Holds.unique (hp : Holds parse c p path) (hq : Holds parse c q path) : p = q := by
  obtain ⟨id, _, _, hid, _, _, he⟩ := hp
  obtain ⟨id', _, _, hid', _, _, he'⟩ := hq
  cases hid.symm.trans hid'
  have heq := IdTable.entry_unique he he'
  cases heq
  rfl

/-- Setting the object up gives it the tables of its class, and no more than those. -/
def SetsUp (this : ObjectPtr) (o : DBusObject Closure) : Prop :=
  { o with
    registered := false
    interfaces := o.interfaces.insert this.interface this.properties
    methodHandlers :=
      this.methods.foldl (DBusObject.withMethod this.interface) o.methodHandlers } =
    this.described o.path

theorem setsUp_constructed (this : ObjectPtr) (path : DBusObjectPath) :
    SetsUp this (.constructed path) := rfl

theorem insert_insert_empty (k : String) (v w : β) :
    ((∅ : Std.TreeMap String β).insert k v).insert k w = (∅ : Std.TreeMap String β).insert k w := by
  have hk : compare k k = .eq := Std.ReflCmp.compare_self
  simp only [Std.TreeMap.insert, Std.DTreeMap.insert, EmptyCollection.emptyCollection,
    Std.TreeMap.empty, Std.DTreeMap.empty, Std.DTreeMap.Internal.Impl.empty,
    Std.DTreeMap.Internal.Impl.insert, hk]

theorem setsUp_application (path : DBusObjectPath) :
    SetsUp .application (ObjectPtr.application.described path) := by
  simp only [SetsUp, ObjectPtr.described, DBusObject.described, ObjectPtr.methods,
    List.foldl_cons, List.foldl_nil, DBusObject.withMethod, insert_insert_empty,
    Std.TreeMap.getElem?_insert_self, Option.getD_some, Std.TreeMap.getElem?_emptyc,
    Option.getD_none]

theorem setsUp_service (i : Nat) (path : DBusObjectPath) :
    SetsUp (.service i) ((ObjectPtr.service i).described path) := by
  simp only [SetsUp, ObjectPtr.described, DBusObject.described, ObjectPtr.methods,
    List.foldl_nil, insert_insert_empty]

theorem setupDBusInterfaces_eq (parse : String → Option (List String)) (refuses : List Bool)
    (c : DBusConnection (ObjectPtr × HandlerData Closure) η) (h : SetsUp this o)
    (hr : o.registered = false) :
    this.setupDBusInterfaces parse refuses o c =
      (this.described o.path).registerObject parse refuses this c := by
  rw [ObjectPtr.setupDBusInterfaces, DBusObject.setup_unregistered hr, ← h, hr]

/-- All that `setupDBusInterfaces` can do to an object that is not registered. -/
theorem setupDBusInterfaces_cases (parse : String → Option (List String)) (refuses : List Bool)
    (c : DBusConnection (ObjectPtr × HandlerData Closure) η) (h : SetsUp this o)
    (hr : o.registered = false) :
    (∃ c', Declines c c' ∧
        this.setupDBusInterfaces parse refuses o c = (false, this.described o.path, c')) ∨
      ∃ c', Admits parse this o.path c c' ∧ this.setupDBusInterfaces parse refuses o c =
        (true, { this.described o.path with registered := true }, c') := by
  rw [setupDBusInterfaces_eq parse refuses c h hr]
  obtain ⟨exports, hkeep, heq | ⟨id, interface, ho, hn, ⟨interfaces, hx, hi⟩, hid, heq⟩⟩ :=
    DBusObject.registerObject_cases (o := this.described o.path) parse refuses this rfl c
  · exact .inl ⟨_, ⟨exports, hkeep, rfl⟩, heq⟩
  · have hothers : ∀ key, key ≠ o.path.toString →
        (c.registeredObjects.insert o.path.toString id)[key]? = c.registeredObjects[key]? := by
      intro key hkey
      rw [Std.TreeMap.getElem?_insert, if_neg]
      exact fun hc => hkey (Std.LawfulEqCmp.eq_of_compare hc).symm
    exact .inr ⟨{ c with
      exports, registeredObjects := c.registeredObjects.insert o.path.toString id },
      ⟨hn, hkeep, hothers, ⟨ho, ho⟩,
        id, interface, interfaces, Std.TreeMap.getElem?_insert_self, hx, hi, hid⟩, heq⟩

/-- A setup on a live connection succeeds when nothing is known of the path and the bus refuses
nothing. -/
theorem setupDBusInterfaces_single (h : SetsUp this o) (hr : o.registered = false)
    (hp : parse this.introspectionXml = some [this.interface]) (hc : c.connection = .opened)
    (hf : c.registeredObjects[o.path.toString]? = none)
    (hx : ∀ e ∈ c.exports.entries, e.2.path ≠ o.path) :
    this.setupDBusInterfaces parse [] o c =
      (true, { this.described o.path with registered := true }, { c with
        exports := c.exports.insert ⟨o.path, this.interface, this, this.handlerData⟩
        registeredObjects :=
          c.registeredObjects.insert o.path.toString (c.exports.last + 1) }) := by
  have hregister : c.registerObject parse [] o.path (this.described o.path).generateIntrospectionXml
      (this, this.handlerData) = (true, { c with
        exports := c.exports.insert ⟨o.path, this.interface, this, this.handlerData⟩
        registeredObjects := c.registeredObjects.insert o.path.toString (c.exports.last + 1) }) :=
    DBusConnection.registerObject_single [] (this, this.handlerData) hc hf hx hp
  have hcon := DBusConnection.isConnected_iff.2 hc
  have hd : (this.described o.path).registered = false := rfl
  rw [setupDBusInterfaces_eq parse [] c h hr, DBusObject.registerObject, hd, hcon]
  simp only [Bool.false_eq_true, if_false, Bool.not_true]
  exact congrArg (fun r : Bool × DBusConnection (ObjectPtr × HandlerData Closure) η =>
    (r.1, { this.described o.path with registered := r.1 }, r.2)) hregister

end Registration

theorem GattUuid.toString_isEmpty (uuid : GattUuid) : uuid.toString.isEmpty = false := by
  apply Bool.eq_false_iff.2
  intro h
  have hv := uuid.valid
  have hu : uuid.uuid = "" := String.isEmpty_iff.1 h
  rw [hu] at hv
  exact absurd hv (by decide)

def GattCharacteristic.created (path : DBusObjectPath) (uuid : GattUuid)
    (properties permissions : UInt8) : GattCharacteristic :=
  { path, registered := true, uuid, properties, permissions, value := [], notifying := false }

def GattDescriptor.created (path : DBusObjectPath) (uuid : GattUuid) (permissions : UInt8) :
    GattDescriptor :=
  { path, registered := true, uuid, permissions, value := [] }

namespace GattService
variable {x : GattService} {uuid : GattUuid}

theorem createCharacteristic_existing (parse : String → Option (List String))
    (refuses : List Bool) (i : Nat) (properties permissions : UInt8)
    (c : DBusConnection (ObjectPtr × HandlerData Closure) η)
    (h : x.characteristics.contains uuid.toString = true) :
    x.createCharacteristic parse refuses i uuid properties permissions c =
      (some (.characteristic i uuid.toString), x, c) := by
  simp only [createCharacteristic, uuid.toString_isEmpty, h, Bool.false_eq_true, if_false, if_true]

theorem createCharacteristic_cases (parse : String → Option (List String)) (refuses : List Bool)
    (i : Nat) (properties permissions : UInt8)
    (c : DBusConnection (ObjectPtr × HandlerData Closure) η)
    (h : x.characteristics.contains uuid.toString = false) :
    (∃ c', Declines c c' ∧
        x.createCharacteristic parse refuses i uuid properties permissions c = (none, x, c')) ∨
      ∃ c', Admits parse (.characteristic i uuid.toString) x.nextPath c c' ∧
        x.createCharacteristic parse refuses i uuid properties permissions c =
          (some (.characteristic i uuid.toString), x.withCharacteristic uuid.toString
            ⟨.created x.nextPath uuid properties permissions, ∅⟩, c') := by
  obtain ⟨c', hc, heq⟩ | ⟨c', hc, heq⟩ := setupDBusInterfaces_cases parse refuses c
    (setsUp_constructed (.characteristic i uuid.toString) x.nextPath) rfl
  · refine .inl ⟨c', hc, ?_⟩
    simp [createCharacteristic, uuid.toString_isEmpty, h, heq]
  · refine .inr ⟨c', hc, ?_⟩
    simp [createCharacteristic, uuid.toString_isEmpty, h, heq]
    rfl

end GattService

namespace CharacteristicNode

def withDescriptor (n : CharacteristicNode) (uuid : GattUuid) (permissions : UInt8) :
    CharacteristicNode :=
  { n with descriptors :=
      n.descriptors.insert uuid.toString (.created n.nextPath uuid permissions) }

end CharacteristicNode

namespace GattService
variable {x : GattService} {uuid : GattUuid}

theorem createDescriptor_existing (parse : String → Option (List String)) (refuses : List Bool)
    (i : Nat) (permissions : UInt8) (c : DBusConnection (ObjectPtr × HandlerData Closure) η)
    (hn : x.characteristics[u]? = some n) (h : n.descriptors.contains uuid.toString = true) :
    x.createDescriptor parse refuses i u uuid permissions c =
      (some (.descriptor i u uuid.toString), x, c) := by
  simp only [createDescriptor, hn, uuid.toString_isEmpty, h, Bool.false_eq_true, if_false, if_true]

theorem createDescriptor_cases (parse : String → Option (List String)) (refuses : List Bool)
    (i : Nat) (permissions : UInt8) (c : DBusConnection (ObjectPtr × HandlerData Closure) η)
    (hn : x.characteristics[u]? = some n) (h : n.descriptors.contains uuid.toString = false) :
    (∃ c', Declines c c' ∧
        x.createDescriptor parse refuses i u uuid permissions c = (none, x, c')) ∨
      ∃ c', Admits parse (.descriptor i u uuid.toString) n.nextPath c c' ∧
        x.createDescriptor parse refuses i u uuid permissions c =
          (some (.descriptor i u uuid.toString),
            x.withCharacteristic u (n.withDescriptor uuid permissions), c') := by
  obtain ⟨c', hc, heq⟩ | ⟨c', hc, heq⟩ := setupDBusInterfaces_cases parse refuses c
    (setsUp_constructed (.descriptor i u uuid.toString) n.nextPath) rfl
  · refine .inl ⟨c', hc, ?_⟩
    simp [createDescriptor, hn, uuid.toString_isEmpty, h, heq]
  · refine .inr ⟨c', hc, ?_⟩
    simp [createDescriptor, hn, uuid.toString_isEmpty, h, heq]
    rfl

end GattService

end Ggk
