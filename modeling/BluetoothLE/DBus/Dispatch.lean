import BluetoothLE.DBus.Object
import BluetoothLE.Gatt.Handlers

namespace Ggk
open Lib
set_option autoImplicit true

namespace DBusError

def errorFailed : String := "org.freedesktop.DBus.Error.Failed"

def errorUnknownMethod : String := "org.freedesktop.DBus.Error.UnknownMethod"

def errorUnknownInterface : String := "org.freedesktop.DBus.Error.UnknownInterface"

def errorUnknownProperty : String := "org.freedesktop.DBus.Error.UnknownProperty"

def errorPropertyReadOnly : String := "org.freedesktop.DBus.Error.PropertyReadOnly"

end DBusError

/-- An error of GLib's, with the text of its domain. -/
structure GError where
  domain : String
  message : String
  deriving DecidableEq, Repr

/-- What a property handler returns, and the error that it has set. -/
structure PropertyResult (ν : Type u) where
  value : Option ν
  error : Option GError
  deriving DecidableEq, Repr

/-- What a setter's handler returns, and the error that it has set. -/
structure SetterResult where
  value : Bool
  error : Option GError
  deriving DecidableEq, Repr

namespace DBusConnection
open Gatt

/-- What a handler lets escape, but for a step that is undefined: the text of an exception that
has one. -/
def escaped : Thrown → Option (Option String)
  | .stdException what => some (some what)
  | .other => some none
  | .undefined => none

def internalError : Option String → String
  | some what => "Internal error: " ++ what
  | none => "Unknown internal error"

def handler (interfaceName methodName : String) (data : HandlerData κ) : Option κ :=
  data.methodHandlers[interfaceName]?.bind fun methods => methods[methodName]?

/-- The handler that GDBus hands every method call to, with an invocation to reply to. -/
def handleMethodCall (run : κ → DBusMethodCall → Gatt Unit) (sender : Option String)
    (interfaceName methodName : String) (parameters : Option GVariant) (data : HandlerData κ) :
    Gatt Unit :=
  match data.methodHandlers[interfaceName]? with
  | none => reply (.error (.domain DBusError.errorUnknownInterface)
      ("Unknown interface: " ++ interfaceName))
  | some methods =>
    match methods[methodName]? with
    | none => reply (.error (.domain DBusError.errorUnknownMethod)
        ("Unknown method: " ++ interfaceName ++ "." ++ methodName))
    | some method =>
      let call : DBusMethodCall :=
        { sender := sender.getD "", interface := interfaceName, method := methodName, parameters,
          invocation := true }
      Effect.catching escaped (run method call) fun what =>
        reply (.error (.domain DBusError.errorFailed) (internalError what))

theorem handleMethodCall_handled (run : κ → DBusMethodCall → Gatt Unit) (sender : Option String)
    (parameters : Option GVariant) {data : HandlerData κ}
    (h : handler interfaceName methodName data = some method) :
    handleMethodCall run sender interfaceName methodName parameters data =
      Effect.catching escaped (run method
        { sender := sender.getD "", interface := interfaceName, method := methodName, parameters,
          invocation := true }) fun what =>
        reply (.error (.domain DBusError.errorFailed) (internalError what)) := by
  obtain ⟨methods, hi, hm⟩ := Option.bind_eq_some_iff.1 h
  simp only [handleMethodCall, hi, hm]

theorem handleMethodCall_unknown (run : κ → DBusMethodCall → Gatt Unit) (sender : Option String)
    (parameters : Option GVariant) {data : HandlerData κ}
    (h : handler interfaceName methodName data = none) :
    ∃ r, handleMethodCall run sender interfaceName methodName parameters data = reply r := by
  rw [handler] at h
  cases hi : data.methodHandlers[interfaceName]? with
  | none => exact ⟨_, by simp only [handleMethodCall, hi]; rfl⟩
  | some methods =>
    rw [hi, Option.bind_some] at h
    exact ⟨_, by simp only [handleMethodCall, hi, h]; rfl⟩

/-- The `try` block around a getter. A step that is undefined is not an exception. -/
def callGetter (call : κ → Except Thrown (Option ν)) (getter : κ) :
    Except Thrown (PropertyResult ν) :=
  match call getter with
  | .ok value => .ok ⟨value, none⟩
  | .error (.stdException what) =>
    .ok ⟨none, some ⟨DBusError.errorFailed, "Error getting property: " ++ what⟩⟩
  | .error .other => .ok ⟨none, some ⟨DBusError.errorFailed, "Unknown error getting property"⟩⟩
  | .error .undefined => .error .undefined

/-- The handler that GDBus asks for a property. The first property of the name decides. -/
def handleGetProperty (call : κ → Except Thrown (Option ν)) (interfaceName propertyName : String)
    (data : HandlerData κ) : Except Thrown (PropertyResult ν) :=
  match data.properties[interfaceName]? with
  | none => .ok ⟨none, some ⟨DBusError.errorUnknownInterface,
      "Unknown interface: " ++ interfaceName⟩⟩
  | some properties =>
    match properties.find? fun prop => prop.name == propertyName with
    | none => .ok ⟨none, some ⟨DBusError.errorUnknownProperty,
        "Unknown property: " ++ interfaceName ++ "." ++ propertyName⟩⟩
    | some prop =>
      if !prop.readable then .ok ⟨none, some ⟨DBusError.errorPropertyReadOnly,
        "Property is not readable: " ++ interfaceName ++ "." ++ propertyName⟩⟩
      else
        match prop.getter with
        | none => .ok ⟨none, some ⟨DBusError.errorFailed,
            "No getter for property: " ++ interfaceName ++ "." ++ propertyName⟩⟩
        | some getter => callGetter call getter

theorem handleGetProperty_found {data : HandlerData κ} {prop : DBusProperty κ}
    (hi : data.properties[interfaceName]? = some properties)
    (hp : properties.find? (fun prop => prop.name == propertyName) = some prop)
    (hr : prop.readable = true) (hg : prop.getter = some getter)
    (call : κ → Except Thrown (Option ν)) :
    handleGetProperty call interfaceName propertyName data = callGetter call getter := by
  simp only [handleGetProperty, hi, hp, hr, hg, Bool.not_true, Bool.false_eq_true, if_false]

def settingError : Option String → String
  | some what => "Error setting property: " ++ what
  | none => "Unknown error setting property"

/-- The `try` block around a setter. -/
def callSetter (call : κ → ν → Effect Thrown σ τ Bool) (setter : κ) (value : ν) :
    Effect Thrown σ τ SetterResult :=
  Effect.catching escaped
    (do
      let set ← call setter value
      return ⟨set, none⟩)
    fun what => return ⟨false, some ⟨DBusError.errorFailed, settingError what⟩⟩

/-- The handler that GDBus hands a new value of a property to. -/
def handleSetProperty (call : κ → ν → Effect Thrown σ τ Bool)
    (interfaceName propertyName : String) (value : ν) (data : HandlerData κ) :
    Effect Thrown σ τ SetterResult :=
  match data.properties[interfaceName]? with
  | none => return ⟨false, some ⟨DBusError.errorUnknownInterface,
      "Unknown interface: " ++ interfaceName⟩⟩
  | some properties =>
    match properties.find? fun prop => prop.name == propertyName with
    | none => return ⟨false, some ⟨DBusError.errorUnknownProperty,
        "Unknown property: " ++ interfaceName ++ "." ++ propertyName⟩⟩
    | some prop =>
      if !prop.writable then return ⟨false, some ⟨DBusError.errorPropertyReadOnly,
        "Property is not writable: " ++ interfaceName ++ "." ++ propertyName⟩⟩
      else
        match prop.setter with
        | none => return ⟨false, some ⟨DBusError.errorFailed,
            "No setter for property: " ++ interfaceName ++ "." ++ propertyName⟩⟩
        | some setter => callSetter call setter value

end DBusConnection
end Ggk
