import BluetoothLE.DBus.Object
import BluetoothLE.Lib.Variant

namespace Ggk
open Lib
set_option autoImplicit true

/-- A signal as it is handed to the bus, to everybody on it. -/
structure OutgoingSignal where
  path : DBusObjectPath
  interface : String
  member : String
  body : Option Variant

namespace DBusConnection

def emitSignal (accepted : Bool) (path : DBusObjectPath) (interface signalName : String)
    (parameters : Option Variant) (c : DBusConnection δ η) : Bool × List OutgoingSignal :=
  if !c.isConnected then (false, [])
  else (accepted, [⟨path, interface, signalName, parameters⟩])

/-- `a{sv}` -/
def changedType : VariantType := .array (.dictEntry (.basic .string) .variant)

/-- `as` -/
def invalidatedType : VariantType := .array (.basic .string)

/-- `g_variant_new` with the format `(sa{sv}as)`. Both builders have to end in a value of the
type that the format asks for. -/
def newParameters (interface : String) (builder invalidatedBuilder : VariantBuilder) :
    Option Variant := do
  let changed ← builder.closeAs changedType
  let invalidated ← invalidatedBuilder.closeAs invalidatedType
  return .tuple [.ofString interface, changed, invalidated]

/-- There is no result where GLib ends the process over a builder that does not end in a value.
Where GLib `goesOn`, the parameters are null. -/
def emitPropertyChanged (goesOn accepted : Bool) (path : DBusObjectPath)
    (interface propertyName : String) (value : Variant) (c : DBusConnection δ η) :
    Option (Bool × List OutgoingSignal) :=
  if !c.isConnected then some (false, [])
  else
    let builder := (VariantBuilder.start (.array .any)).add
      (.dictEntry (.ofString propertyName) (.variant value))
    let invalidatedBuilder := VariantBuilder.start (.array .any)
    let params := newParameters interface builder invalidatedBuilder
    if params.isNone && !goesOn then none
    else some (c.emitSignal accepted path "org.freedesktop.DBus.Properties" "PropertiesChanged"
      params)

end DBusConnection

def DBusObject.emitPropertyChanged (goesOn accepted : Bool) (interface name : String)
    (value : Variant) (o : DBusObject κ) (c : DBusConnection δ η) :
    Option (Bool × List OutgoingSignal) :=
  if !o.registered then some (false, [])
  else c.emitPropertyChanged goesOn accepted o.path interface name value

/-- The signal that says that one property has changed and that none is invalidated. -/
def propertiesChanged (path : DBusObjectPath) (interface name : String) (value : Variant) :
    OutgoingSignal where
  path := path
  interface := "org.freedesktop.DBus.Properties"
  member := "PropertiesChanged"
  body := some (.tuple [.ofString interface,
    .array (.dictEntry (.basic .string) .variant)
      [.dictEntry (.ofString name) (.variant value)],
    .array (.basic .string) []])

namespace DBusConnection

/-- The dictionary gets its type from the entry, whatever the type of the value is. -/
theorem closeAs_changed (name : String) (value : Variant) :
    ((VariantBuilder.start (.array .any)).add
      (.dictEntry (.ofString name) (.variant value))).closeAs changedType =
        some (.array (.dictEntry (.basic .string) .variant)
          [.dictEntry (.ofString name) (.variant value)]) := by
  have htype : (Variant.dictEntry (.ofString name) (.variant value)).type =
      .dictEntry (.basic .string) .variant := by
    simp [Variant.type, Variant.ofString]
  rw [VariantBuilder.closeAs, VariantBuilder.close_add_start_any, htype]
  simp [Variant.type, changedType, VariantType.isSubtypeOf]

theorem newParameters_undetermined (interface : String) (builder : VariantBuilder) :
    newParameters interface builder (VariantBuilder.start (.array .any)) = none := by
  have hnone : (VariantBuilder.start (.array .any)).closeAs invalidatedType = none := by
    rw [VariantBuilder.closeAs, VariantBuilder.close_start_array]
    simp [VariantType.isDefinite]
  rw [newParameters, hnone]
  cases builder.closeAs changedType with
  | none => rfl
  | some changed => rfl

/-- Opened with a definite type, the second builder would do. -/
theorem newParameters_determined (interface name : String) (value : Variant) :
    newParameters interface
        ((VariantBuilder.start (.array .any)).add (.dictEntry (.ofString name) (.variant value)))
        (VariantBuilder.start invalidatedType) =
      (propertiesChanged path interface name value).body := by
  have hsome : (VariantBuilder.start invalidatedType).closeAs invalidatedType =
      some (.array (.basic .string) []) := by
    rw [VariantBuilder.closeAs, invalidatedType, VariantBuilder.close_start_array]
    simp [VariantType.isDefinite, Variant.type, VariantType.isSubtypeOf]
  rw [newParameters, closeAs_changed, hsome]
  rfl

end DBusConnection

/-- The connection does not come back from emitting a property, whichever it is. -/
def DBusConnection.endsProcess (goesOn : Bool) (c : DBusConnection δ η) : Bool :=
  c.isConnected && !goesOn

theorem DBusConnection.emitPropertyChanged_eq_none_iff {c : DBusConnection δ η} :
    c.emitPropertyChanged goesOn accepted path interface name value = none ↔
      c.endsProcess goesOn = true := by
  rw [emitPropertyChanged, endsProcess]
  cases c.isConnected with
  | false => simp
  | true =>
    simp only [newParameters_undetermined]
    cases goesOn <;> simp

/-- What reaches the bus has no body, if GLib lets anything reach it. -/
theorem DBusObject.emitPropertyChanged_bodiless {o : DBusObject κ} {c : DBusConnection δ η}
    {emitted : Bool × List OutgoingSignal}
    (h : o.emitPropertyChanged goesOn accepted interface name value c = some emitted) :
    ∀ signal ∈ emitted.2, signal.body = none := by
  rw [emitPropertyChanged] at h
  split_ifs at h with hr
  · cases h
    simp
  · rw [DBusConnection.emitPropertyChanged] at h
    split_ifs at h with hc
    · cases h
      simp
    · simp only [DBusConnection.newParameters_undetermined] at h
      cases goesOn with
      | false => simp at h
      | true =>
        cases h
        simp [DBusConnection.emitSignal, hc]

/-- No object ever announces a change of a property. -/
theorem DBusObject.emitPropertyChanged_never (goesOn accepted : Bool) (o : DBusObject κ)
    (c : DBusConnection δ η) (interface name : String) (value : Variant) :
    ¬ ∃ result, o.emitPropertyChanged goesOn accepted interface name value c =
      some (result, [propertiesChanged o.path interface name value]) := by
  rintro ⟨result, h⟩
  have hbody := emitPropertyChanged_bodiless h _ (List.mem_singleton_self _)
  cases hbody

namespace DBusObject

def notifying : DBusObject Nat :=
  { (constructed ⟨"/com/example/char1"⟩ : DBusObject Nat) with registered := true }

def live : DBusConnection Nat Nat := ((DBusConnection.constructed Nat Nat).connect true).2

def oneByte : Variant := .array (.basic .byte) [.basic .byte [7]]

/-- A characteristic announces a value of one byte, and no signal has the byte in it. -/
theorem oneByte_not_announced : notifying.registered = true ∧ live.connection = .opened ∧
    ¬ ∃ result, notifying.emitPropertyChanged false true "org.bluez.GattCharacteristic1" "Value"
      oneByte live = some (result,
        [propertiesChanged notifying.path "org.bluez.GattCharacteristic1" "Value" oneByte]) := by
  refine ⟨rfl, rfl, ?_⟩
  rintro ⟨result, h⟩
  have hbody := emitPropertyChanged_bodiless h _ (List.mem_singleton_self _)
  cases hbody

end DBusObject
end Ggk
