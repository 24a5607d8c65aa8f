import BluetoothLE.DBus.Dispatch
import BluetoothLE.Gatt.References

namespace Ggk
open Lib
set_option autoImplicit true

namespace GattService

def getUuidProperty (x : GattService) : PropertyValue :=
  Utils.gvariantFromString x.uuid.toBlueZFormat

def getPrimaryProperty (x : GattService) : PropertyValue := Utils.gvariantFromBoolean x.primary

def getCharacteristicsProperty (x : GattService) : PropertyValue :=
  Utils.gvariantFromStringArray x.characteristicPaths

def get (x : GattService) : Member → Option PropertyValue
  | .getUuidProperty => some x.getUuidProperty
  | .getPrimaryProperty => some x.getPrimaryProperty
  | .getCharacteristicsProperty => some x.getCharacteristicsProperty
  | _ => none

end GattService

namespace CharacteristicNode

def getUuidProperty (n : CharacteristicNode) : PropertyValue :=
  Utils.gvariantFromString n.characteristic.uuid.toBlueZFormat

def getServiceProperty (service : GattService) : PropertyValue :=
  Utils.gvariantFromObject service.object.path

/-- Of the permissions, the flags have those for encryption. -/
def getPropertiesProperty (n : CharacteristicNode) : PropertyValue :=
  Utils.gvariantFromStringArray (flagsOf GattProperty.checks n.characteristic.properties ++
    flagsOf GattPermission.encryptionChecks n.characteristic.permissions)

def getDescriptorsProperty (n : CharacteristicNode) : PropertyValue :=
  Utils.gvariantFromStringArray n.descriptorPaths

def getNotifyingProperty (n : CharacteristicNode) : PropertyValue :=
  Utils.gvariantFromBoolean n.characteristic.notifying

def get (service : GattService) (n : CharacteristicNode) : Member → Option PropertyValue
  | .getUuidProperty => some n.getUuidProperty
  | .getServiceProperty => some (getServiceProperty service)
  | .getPropertiesProperty => some n.getPropertiesProperty
  | .getDescriptorsProperty => some n.getDescriptorsProperty
  | .getNotifyingProperty => some n.getNotifyingProperty
  | _ => none

end CharacteristicNode

def GattPermission.checks : List (UInt8 × String) :=
  accessChecks ++ encryptionChecks ++ authenticationChecks

namespace GattDescriptor

def getUuidProperty (d : GattDescriptor) : PropertyValue :=
  Utils.gvariantFromString d.uuid.toBlueZFormat

def getCharacteristicProperty (characteristic : GattCharacteristic) : PropertyValue :=
  Utils.gvariantFromObject characteristic.path

/-- A descriptor without flags gets the one for reading. -/
def getPermissionsProperty (d : GattDescriptor) : PropertyValue :=
  let flags := flagsOf GattPermission.checks d.permissions
  Utils.gvariantFromStringArray (if flags.isEmpty then ["read"] else flags)

def get (characteristic : GattCharacteristic) (d : GattDescriptor) :
    Member → Option PropertyValue
  | .getUuidProperty => some d.getUuidProperty
  | .getCharacteristicProperty => some (getCharacteristicProperty characteristic)
  | .getPermissionsProperty => some d.getPermissionsProperty
  | _ => none

end GattDescriptor

theorem flagsOf_eq_nil : flagsOf checks bits = [] ↔ ∀ check ∈ checks, bits &&& check.1 = 0 := by
  simp [flagsOf]

theorem flagsOf_append (checks checks' : List (UInt8 × String)) (bits : UInt8) :
    flagsOf (checks ++ checks') bits = flagsOf checks bits ++ flagsOf checks' bits := by
  rw [flagsOf, List.filter_append, List.map_append, flagsOf, flagsOf]

theorem ObjectPtr.find_property {p : ObjectPtr} (h : prop ∈ p.properties) :
    p.properties.find? (fun prop' => prop'.name == prop.name) = some prop := by
  cases p <;> simp only [properties, List.mem_cons, List.not_mem_nil, or_false] at h
  · rcases h with rfl | rfl | rfl <;> rfl
  · rcases h with rfl | rfl | rfl | rfl | rfl <;> rfl
  · rcases h with rfl | rfl | rfl <;> rfl

theorem ObjectPtr.readable_property {p : ObjectPtr} (h : prop ∈ p.properties) :
    prop.readable = true := by
  cases p <;> simp only [properties, List.mem_cons, List.not_mem_nil, or_false] at h
  · rcases h with rfl | rfl | rfl <;> rfl
  · rcases h with rfl | rfl | rfl | rfl | rfl <;> rfl
  · rcases h with rfl | rfl | rfl <;> rfl

namespace GattServer
variable {s : GattServer η} {parse : String → Option (List String)} {e : ManagedObject}

/-- The getter behind a closure. There is none where the object is gone, or the member is no
getter of its class. -/
def get (s : GattServer η) (closure : Closure) : Option PropertyValue :=
  match closure.this with
  | .application => none
  | .service i => (s.service i).bind fun x => x.get closure.member
  | .characteristic i u => (s.service i).bind fun x =>
    x.characteristics[u]?.bind fun n => n.get x closure.member
  | .descriptor i u v => (s.characteristic i u).bind fun n =>
    n.descriptors[v]?.bind fun d => d.get n.characteristic closure.member

def callGetter (s : GattServer η) (closure : Closure) : Except Thrown (Option PropertyValue) :=
  match s.get closure with
  | none => .error .undefined
  | some value => .ok (some value)

/-- The property is declared with the type of the value, and its getter gives the value. -/
def Agrees (s : GattServer η) (p : ObjectPtr) (interface name : String) (value : PropertyValue) :
    Prop :=
  (∃ prop ∈ p.properties, prop.name = name ∧ prop.signature = value.typeString) ∧
    DBusConnection.handleGetProperty s.callGetter interface name p.handlerData =
      .ok ⟨some value, none⟩

/-- The properties that the two ways of encoding them leave alike. -/
def Consistent (s : GattServer η) (p : ObjectPtr) (name : String) : Prop :=
  match p with
  | .application => True
  | .service _ => name ≠ "Characteristics"
  | .characteristic i u => name ≠ "Descriptors" ∧
    (name = "Flags" → ∀ n, s.characteristic i u = some n →
      ∀ check ∈ GattPermission.authenticationChecks,
        n.characteristic.permissions &&& check.1 = 0)
  | .descriptor i u v => name = "Flags" → ∀ d, s.descriptor i u v = some d →
    ∃ check ∈ GattPermission.checks, d.permissions &&& check.1 ≠ 0

section Rows
variable {p : ObjectPtr} {prop : DBusProperty Closure}

theorem handleGetProperty_property (h : prop ∈ p.properties) (hg : prop.getter = some g)
    (hv : s.get g = some v) :
    DBusConnection.handleGetProperty s.callGetter p.interface prop.name p.handlerData =
      .ok ⟨some v, none⟩ := by
  have hi : p.handlerData.properties[p.interface]? = some p.properties :=
    Std.TreeMap.getElem?_insert_self
  rw [DBusConnection.handleGetProperty_found hi (ObjectPtr.find_property h)
    (ObjectPtr.readable_property h) hg, DBusConnection.callGetter, callGetter, hv]

theorem agrees_iff (h : DBusProperty.readOnly name signature emits g ∈ p.properties)
    (hv : s.get g = some v) :
    s.Agrees p p.interface name value ↔ signature = value.typeString ∧ v = value := by
  have hget : DBusConnection.handleGetProperty s.callGetter p.interface name p.handlerData =
      .ok ⟨some v, none⟩ := handleGetProperty_property h rfl hv
  rw [Agrees, hget]
  apply and_congr
  · apply Iff.intro
    · intro hex
      obtain ⟨prop, hp, rfl, hsig⟩ := hex
      have hfind := ObjectPtr.find_property h
      have hprop := Option.some.inj ((ObjectPtr.find_property hp).symm.trans hfind)
      exact (congrArg DBusProperty.signature hprop).symm.trans hsig
    · intro hsig
      exact ⟨_, h, rfl, hsig⟩
  · simp

theorem agrees_of_consistent (h : DBusProperty.readOnly name signature emits g ∈ p.properties)
    (hv : s.get g = some v) (hs : signature = v.typeString) (hc : s.Consistent p name) :
    s.Agrees p p.interface name v ↔ s.Consistent p name :=
  (agrees_iff h hv).trans (iff_of_true ⟨hs, rfl⟩ hc)

theorem agrees_of_ne (h : DBusProperty.readOnly name signature emits g ∈ p.properties)
    (hv : s.get g = some v) (hne : v ≠ value) (hc : ¬ s.Consistent p name) :
    s.Agrees p p.interface name value ↔ s.Consistent p name :=
  (agrees_iff h hv).trans (iff_of_false (fun hagrees => hne hagrees.2) hc)

/-- The getter leaves out the flags for authentication. -/
theorem characteristic_flags (n : CharacteristicNode) :
    n.getPropertiesProperty = .stringArray (flagsOf GattProperty.checks
        n.characteristic.properties ++
      flagsOf (GattPermission.encryptionChecks ++ GattPermission.authenticationChecks)
        n.characteristic.permissions) ↔
      ∀ check ∈ GattPermission.authenticationChecks,
        n.characteristic.permissions &&& check.1 = 0 := by
  rw [← flagsOf_eq_nil, flagsOf_append, CharacteristicNode.getPropertiesProperty,
    Utils.gvariantFromStringArray, PropertyValue.stringArray.injEq, List.append_cancel_left_eq,
    List.self_eq_append_right]

/-- The getter has a flag for a descriptor that has no permission. -/
theorem descriptor_flags (d : GattDescriptor) :
    d.getPermissionsProperty = .stringArray (flagsOf GattPermission.checks d.permissions) ↔
      ∃ check ∈ GattPermission.checks, d.permissions &&& check.1 ≠ 0 := by
  have hnil : flagsOf GattPermission.checks d.permissions = [] ↔
      ¬ ∃ check ∈ GattPermission.checks, d.permissions &&& check.1 ≠ 0 := by
    rw [flagsOf_eq_nil]
    push Not
    rfl
  rw [GattDescriptor.getPermissionsProperty, Utils.gvariantFromStringArray,
    PropertyValue.stringArray.injEq]
  cases hf : flagsOf GattPermission.checks d.permissions with
  | nil => exact iff_of_false (by simp) (hnil.1 hf)
  | cons flag flags =>
    apply iff_of_true rfl
    by_contra h
    cases hf.symm.trans (hnil.2 h)

theorem EntryOf.agrees (h : EntryOf s p e) (hi : i ∈ e.interfaces) (hq : q ∈ i.2) :
    s.Agrees p i.1 q.1 q.2 ↔ s.Consistent p q.1 := by
  cases h with
  | @service i x hx =>
    have hget (m : Member) : s.get ⟨.service i, m⟩ = x.get m := by
      simp only [get, hx, Option.bind_some]
    cases List.mem_singleton.1 hi
    simp only [List.mem_cons, List.not_mem_nil, or_false] at hq
    rcases hq with rfl | rfl | rfl
    · exact agrees_of_consistent (.head _) (hget _) rfl (by simp [Consistent])
    · exact agrees_of_consistent (.tail _ (.head _)) (hget _) rfl (by simp [Consistent])
    · apply agrees_of_ne (.tail _ (.tail _ (.head _))) (hget _)
      · intro hv
        cases hv
      · intro hc
        exact hc rfl
  | @characteristic i x u n hx hn =>
    have hc : s.characteristic i u = some n := (characteristic_of_service hx u).trans hn
    have hget (m : Member) : s.get ⟨.characteristic i u, m⟩ = n.get x m := by
      simp only [get, hx, hn, Option.bind_some]
    cases List.mem_singleton.1 hi
    simp only [List.mem_cons, List.not_mem_nil, or_false] at hq
    rcases hq with rfl | rfl | rfl | rfl | rfl
    · exact agrees_of_consistent (.head _) (hget _) rfl (by simp [Consistent])
    · exact agrees_of_consistent (.tail _ (.head _)) (hget _) rfl (by simp [Consistent])
    · refine (agrees_iff (.tail _ (.tail _ (.head _))) (hget _)).trans ?_
      apply Iff.intro
      · intro h
        have hname : "Flags" ≠ "Descriptors" := by decide
        refine ⟨hname, fun _ m hm => ?_⟩
        cases hc.symm.trans hm
        exact (characteristic_flags n).1 h.2
      · intro h
        exact ⟨rfl, (characteristic_flags n).2 (h.2 rfl n hc)⟩
    · apply agrees_of_ne (.tail _ (.tail _ (.tail _ (.head _)))) (hget _)
      · intro hv
        cases hv
      · intro hcons
        exact hcons.1 rfl
    · exact agrees_of_consistent (.tail _ (.tail _ (.tail _ (.tail _ (.head _))))) (hget _) rfl
        (by simp [Consistent])
  | @descriptor i x u n v d hx hn hd =>
    have hc : s.descriptor i u v = some d := by
      rw [GattServer.descriptor, characteristic_of_service hx, hn, Option.bind_some, hd]
    have hget (m : Member) : s.get ⟨.descriptor i u v, m⟩ = d.get n.characteristic m := by
      simp only [get, characteristic_of_service hx, hn, hd, Option.bind_some]
    cases List.mem_singleton.1 hi
    simp only [List.mem_cons, List.not_mem_nil, or_false] at hq
    rcases hq with rfl | rfl | rfl
    · exact agrees_of_consistent (.head _) (hget _) rfl (by simp [Consistent])
    · exact agrees_of_consistent (.tail _ (.head _)) (hget _) rfl (by simp [Consistent])
    · refine (agrees_iff (.tail _ (.tail _ (.head _))) (hget _)).trans ?_
      apply Iff.intro
      · intro h _ d' hd'
        cases hc.symm.trans hd'
        exact (descriptor_flags d).1 h.2
      · intro h
        exact ⟨rfl, (descriptor_flags d).2 (h rfl d hc)⟩

end Rows

/-- In every run, the dictionary and the getters agree on exactly the consistent properties of
the objects that are listed, and the tables with these getters are what is exported. -/
theorem properties_run (parse : String → Option (List String)) (path : DBusObjectPath)
    (c : DBusConnection (ObjectPtr × HandlerData Closure) η) (steps : List ServerStep) :
    let s := (serving parse).run (start path c) steps
    s.createManagedObjectsDict.map some = s.listing.map s.entry ∧
      ∀ p ∈ s.listing, ∀ e, s.entry p = some e →
        (∀ path, s.standing p = some (path, true) → Holds parse s.connection p path) ∧
          ∀ i ∈ e.interfaces, ∀ q ∈ i.2, s.Agrees p i.1 q.1 q.2 ↔ s.Consistent p q.1 := by
  intro s
  refine ⟨dict_eq s, fun p _ e he => ?_⟩
  have hs : Sound parse s := by
    have h := (tracked_run parse path c steps).sound
    rw [watched_fst] at h
    exact h
  exact ⟨hs.held p, fun i hi q hq => (entry_eq_some.1 he).agrees hi hq⟩

/-- The array of a service's characteristics is declared and listed as paths, and read as
strings. -/
theorem characteristics_disagree :
    let c := ((DBusConnection.constructed (ObjectPtr × HandlerData Closure) Unit).connect true).2
    let s := (serving (fun _ => some [BlueZConstants.gattServiceInterface])).run
      (start ⟨"/com/example"⟩ c)
      [.constructService ⟨"/com/example/a"⟩ (.fromShortUuid 0x180d) true, .setupService 0 [],
        .addService (some 0)]
    s.listing = [.service 0] ∧ s.standing (.service 0) = some (⟨"/com/example/a"⟩, true) ∧
      (s.entry (.service 0)).bind (·.property BlueZConstants.gattServiceInterface
        "Characteristics") = some (.objectPathArray []) ∧
      ¬ s.Agrees (.service 0) BlueZConstants.gattServiceInterface "Characteristics"
        (.objectPathArray []) := by
  intro c s
  refine ⟨by decide, by decide, by decide, fun h => ?_⟩
  have hv : s.get ⟨.service 0, .getCharacteristicsProperty⟩ = some (.stringArray []) := by decide
  obtain ⟨_, hv⟩ := (agrees_iff (.tail _ (.tail _ (.head _))) hv).1 h
  cases hv

end GattServer
end Ggk
