import BluetoothLE.DBus.Description
import BluetoothLE.DBus.Dispatch

namespace Ggk
open Lib
set_option autoImplicit true

namespace DBusObject

/-- The accessors of the object itself log what goes wrong, and let an exception through. -/
def setProperty (call : κ → ν → Effect Thrown σ τ Bool) (interface name : String) (value : ν)
    (o : DBusObject κ) : Effect Thrown σ τ Bool :=
  match o.interfaces[interface]? with
  | none => return false
  | some properties =>
    match properties.find? fun prop => prop.name == name with
    | none => return false
    | some prop =>
      if !prop.writable then return false
      else
        match prop.setter with
        | some setter => call setter value
        | none => return false

def getProperty (call : κ → Except Thrown (Option ν)) (interface name : String)
    (o : DBusObject κ) : Except Thrown (Option ν) :=
  match o.interfaces[interface]? with
  | none => .ok none
  | some properties =>
    match properties.find? fun prop => prop.name == name with
    | none => .ok none
    | some prop =>
      if !prop.readable then .ok none
      else
        match prop.getter with
        | some getter => call getter
        | none => .ok none

/-- What a registration takes a copy of. -/
def handlerData (o : DBusObject κ) : HandlerData κ := ⟨o.methodHandlers, o.interfaces⟩

theorem handlerData_properties (o : DBusObject κ) : o.handlerData.properties = o.interfaces := rfl

end DBusObject

namespace DBusConnection

/-- The getter that the first property of the name has, if it may be read. -/
def foundGetter (interfaceName propertyName : String) (data : HandlerData κ) : Option κ := do
  let properties ← data.properties[interfaceName]?
  let prop ← properties.find? fun prop => prop.name == propertyName
  if prop.readable then prop.getter else none

def foundSetter (interfaceName propertyName : String) (data : HandlerData κ) : Option κ := do
  let properties ← data.properties[interfaceName]?
  let prop ← properties.find? fun prop => prop.name == propertyName
  if prop.writable then prop.setter else none

/-- Either a value or an error, unless the getter itself is undefined. -/
def GetAnswered : Except Thrown (PropertyResult ν) → Prop
  | .ok r => r.value = none ↔ r.error ≠ none
  | .error thrown => thrown = .undefined

def SetAnswered : Except Thrown SetterResult → Prop
  | .ok r => r.value = false ↔ r.error ≠ none
  | .error thrown => thrown = .undefined

/-- The ways a search for an accessor can go, and what it finds. -/
inductive Search (permitted : DBusProperty κ → Bool) (accessor : DBusProperty κ → Option κ)
    (interfaceName propertyName : String) (data : HandlerData κ) : Option κ → Prop where
  | noInterface (hi : data.properties[interfaceName]? = none) :
    Search permitted accessor interfaceName propertyName data none
  | noProperty (hi : data.properties[interfaceName]? = some properties)
    (hp : properties.find? (fun prop => prop.name == propertyName) = none) :
    Search permitted accessor interfaceName propertyName data none
  | denied (hi : data.properties[interfaceName]? = some properties)
    (hp : properties.find? (fun prop => prop.name == propertyName) = some prop)
    (hr : permitted prop = false) : Search permitted accessor interfaceName propertyName data none
  | missing (hi : data.properties[interfaceName]? = some properties)
    (hp : properties.find? (fun prop => prop.name == propertyName) = some prop)
    (hr : permitted prop = true) (ha : accessor prop = none) :
    Search permitted accessor interfaceName propertyName data none
  | found (hi : data.properties[interfaceName]? = some properties)
    (hp : properties.find? (fun prop => prop.name == propertyName) = some prop)
    (hr : permitted prop = true) (ha : accessor prop = some found) :
    Search permitted accessor interfaceName propertyName data (some found)

theorem search_result (permitted : DBusProperty κ → Bool) (accessor : DBusProperty κ → Option κ)
    (interfaceName propertyName : String) (data : HandlerData κ) :
    Search permitted accessor interfaceName propertyName data
      (data.properties[interfaceName]?.bind fun properties =>
        (properties.find? fun prop => prop.name == propertyName).bind fun prop =>
          if permitted prop then accessor prop else none) := by
  cases hi : data.properties[interfaceName]? with
  | none => exact .noInterface hi
  | some properties =>
    rw [Option.bind_some]
    cases hp : properties.find? fun prop => prop.name == propertyName with
    | none => exact .noProperty hi hp
    | some prop =>
      rw [Option.bind_some]
      cases hr : permitted prop with
      | false => exact .denied hi hp hr
      | true =>
        rw [if_pos rfl]
        cases ha : accessor prop with
        | none => exact .missing hi hp hr ha
        | some found => exact .found hi hp hr ha

theorem foundGetter_search (interfaceName propertyName : String) (data : HandlerData κ) :
    Search DBusProperty.readable DBusProperty.getter interfaceName propertyName data
      (foundGetter interfaceName propertyName data) :=
  search_result _ _ _ _ _

theorem foundSetter_search (interfaceName propertyName : String) (data : HandlerData κ) :
    Search DBusProperty.writable DBusProperty.setter interfaceName propertyName data
      (foundSetter interfaceName propertyName data) :=
  search_result _ _ _ _ _

/-- Without a getter to call, the answer is an error. -/
theorem handleGetProperty_cases (call : κ → Except Thrown (Option ν))
    (interfaceName propertyName : String) (data : HandlerData κ) :
    (∃ getter, foundGetter interfaceName propertyName data = some getter ∧
      handleGetProperty call interfaceName propertyName data = callGetter call getter) ∨
    (foundGetter interfaceName propertyName data = none ∧ ∃ error,
      handleGetProperty call interfaceName propertyName data = .ok ⟨none, some error⟩) := by
  have h := foundGetter_search interfaceName propertyName data
  generalize foundGetter interfaceName propertyName data = getter at h ⊢
  cases h with
  | noInterface hi => exact .inr ⟨rfl, _, by simp only [handleGetProperty, hi]; rfl⟩
  | noProperty hi hp => exact .inr ⟨rfl, _, by simp only [handleGetProperty, hi, hp]; rfl⟩
  | denied hi hp hr => exact .inr ⟨rfl, _, by simp only [handleGetProperty, hi, hp, hr]; rfl⟩
  | missing hi hp hr hg =>
    exact .inr ⟨rfl, _, by simp only [handleGetProperty, hi, hp, hr, hg]; rfl⟩
  | found hi hp hr hg => exact .inl ⟨_, rfl, handleGetProperty_found hi hp hr hg call⟩

theorem handleSetProperty_cases (call : κ → ν → Effect Thrown σ τ Bool)
    (interfaceName propertyName : String) (value : ν) (data : HandlerData κ) :
    (∃ setter, foundSetter interfaceName propertyName data = some setter ∧
      handleSetProperty call interfaceName propertyName value data =
        callSetter call setter value) ∨
    (foundSetter interfaceName propertyName data = none ∧ ∃ error,
      handleSetProperty call interfaceName propertyName value data =
        pure ⟨false, some error⟩) := by
  have h := foundSetter_search interfaceName propertyName data
  generalize foundSetter interfaceName propertyName data = setter at h ⊢
  cases h with
  | noInterface hi => exact .inr ⟨rfl, _, by simp only [handleSetProperty, hi]; rfl⟩
  | noProperty hi hp => exact .inr ⟨rfl, _, by simp only [handleSetProperty, hi, hp]; rfl⟩
  | denied hi hp hr => exact .inr ⟨rfl, _, by simp only [handleSetProperty, hi, hp, hr]; rfl⟩
  | missing hi hp hr hg =>
    exact .inr ⟨rfl, _, by simp only [handleSetProperty, hi, hp, hr, hg]; rfl⟩
  | found hi hp hr hg =>
    exact .inl ⟨_, rfl, by simp only [handleSetProperty, hi, hp, hr, hg]; rfl⟩

/-- A getter that returns, null or not, sets no error. One that throws sets one. -/
theorem getAnswered_callGetter (call : κ → Except Thrown (Option ν)) (getter : κ) :
    GetAnswered (callGetter call getter) ↔ call getter ≠ .ok none := by
  rw [callGetter]
  cases hc : call getter with
  | ok value =>
    cases value with
    | none => simp [GetAnswered]
    | some value => simp [GetAnswered]
  | error thrown =>
    cases thrown with
    | stdException what => simp [GetAnswered]
    | other => simp [GetAnswered]
    | undefined => simp [GetAnswered]

theorem callSetter_apply (call : κ → ν → Effect Thrown σ τ Bool) (setter : κ) (value : ν) (s : σ) :
    callSetter call setter value s =
      match (call setter value s).result with
      | .ok set => ⟨.ok ⟨set, none⟩, (call setter value s).state, (call setter value s).trace⟩
      | .error thrown =>
        match escaped thrown with
        | some what => ⟨.ok ⟨false, some ⟨DBusError.errorFailed, settingError what⟩⟩,
            (call setter value s).state, (call setter value s).trace⟩
        | none => ⟨.error thrown, (call setter value s).state, (call setter value s).trace⟩ := by
  rw [callSetter, Effect.catching_apply, Effect.bind_apply]
  cases call setter value s with
  | mk result state trace =>
    cases result with
    | ok set => simp
    | error thrown =>
      cases thrown with
      | stdException what => simp [Outcome.catching, escaped]
      | other => simp [Outcome.catching, escaped]
      | undefined => simp [Outcome.catching, escaped]

theorem setAnswered_callSetter (call : κ → ν → Effect Thrown σ τ Bool) (setter : κ) (value : ν)
    (s : σ) : SetAnswered (callSetter call setter value s).result ↔
      (call setter value s).result ≠ .ok false := by
  rw [callSetter_apply]
  cases (call setter value s).result with
  | ok set =>
    cases set with
    | false => simp [SetAnswered]
    | true => simp [SetAnswered]
  | error thrown =>
    cases thrown with
    | stdException what => simp [SetAnswered, escaped]
    | other => simp [SetAnswered, escaped]
    | undefined => simp [SetAnswered, escaped]

/-- GDBus gets a value or an error, and not both or neither, exactly when the getter that is
found does not return null and the setter that is found does not return false. -/
theorem accessors_answered_iff (get : κ → Except Thrown (Option ν))
    (set : κ → ν → Effect Thrown σ τ Bool) (interfaceName propertyName : String) (value : ν)
    (data : HandlerData κ) (s : σ) :
    (GetAnswered (handleGetProperty get interfaceName propertyName data) ↔
      ∀ getter, foundGetter interfaceName propertyName data = some getter →
        get getter ≠ .ok none) ∧
    (SetAnswered (handleSetProperty set interfaceName propertyName value data s).result ↔
      ∀ setter, foundSetter interfaceName propertyName data = some setter →
        (set setter value s).result ≠ .ok false) := by
  apply And.intro
  · rcases handleGetProperty_cases get interfaceName propertyName data with
      ⟨getter, hf, heq⟩ | ⟨hf, error, heq⟩
    · rw [heq, getAnswered_callGetter, hf]
      simp
    · rw [heq, hf]
      simp [GetAnswered]
  · rcases handleSetProperty_cases set interfaceName propertyName value data with
      ⟨setter, hf, heq⟩ | ⟨hf, error, heq⟩
    · rw [heq, setAnswered_callSetter, hf]
      simp
    · rw [heq, hf]
      simp [SetAnswered]

def readWriteData : HandlerData Unit where
  methodHandlers := ∅
  properties := (∅ : Std.TreeMap String (List (DBusProperty Unit))).insert "com.example.Battery"
    [⟨"Level", "y", true, true, false, some (), some ()⟩]

/-- The getter returns null, and the setter returns false. -/
theorem null_not_answered :
    ¬ GetAnswered (handleGetProperty (fun _ => .ok (none : Option Nat)) "com.example.Battery"
      "Level" readWriteData) ∧
    ¬ SetAnswered (handleSetProperty
      (fun _ (_ : Nat) => (pure false : Effect Thrown Unit Unit Bool)) "com.example.Battery"
      "Level" 0 readWriteData ()).result := by
  have hi : readWriteData.properties["com.example.Battery"]? =
      some [⟨"Level", "y", true, true, false, some (), some ()⟩] := by simp [readWriteData]
  simp [handleGetProperty, handleSetProperty, hi, callGetter, callSetter, GetAnswered,
    SetAnswered]

end DBusConnection
end Ggk
