import BluetoothLE.Lib.Machine
import BluetoothLE.Gatt.Observing
import BluetoothLE.Gatt.Replies

namespace Ggk
open Lib Gatt
set_option autoImplicit true

/-- What a server is to its clients: values that are read and written, and notifications that
are on or off. The rest is fixed. -/
@[ext] structure Attributes where
  path : GattObject → DBusObjectPath
  registered : GattObject → Bool
  supportsNotify : Bool
  configures : Nat → Bool
  value : GattObject → List UInt8
  notifying : Bool

/-- What an attribute server is asked, by the application or by a client. -/
inductive AttributeRequest where
  | update (o : GattObject) (newValue : List UInt8)
  | startNotify
  | stopNotify
  | read (o : GattObject)
  | write (o : GattObject) (parameters : Option GVariant)
  | subscribe
  | unsubscribe
  | answer (r : Reply)

namespace AttributeRequest

def unknownInterface (interfaceName : String) : AttributeRequest :=
  .answer (.error (.domain DBusError.errorUnknownInterface)
    ("Unknown interface: " ++ interfaceName))

def unknownMethod (interfaceName methodName : String) : AttributeRequest :=
  .answer (.error (.domain DBusError.errorUnknownMethod)
    ("Unknown method: " ++ interfaceName ++ "." ++ methodName))

end AttributeRequest

/-- The reply to a call whose handler ends with an exception that is no `std::exception`. -/
def failure : Reply :=
  .error (.domain DBusError.errorFailed) (DBusConnection.internalError none)

namespace Attributes

abbrev Served : Type := Outcome Thrown Attributes Event Unit

def set (a : Attributes) (o : GattObject) (newValue : List UInt8) : Attributes :=
  { a with value := Function.update a.value o newValue }

def signal (a : Attributes) (o : GattObject) (name : String) (value : GVariant) : List Event :=
  if a.registered o then [.propertyChanged (a.path o) o.interface name value] else []

/-- Nothing is announced that there is no variant for. -/
def announce (a : Attributes) (out : Outside) (o : GattObject) (newValue : List UInt8) :
    List Event :=
  if out.byteArrayVariant then a.signal o "Value" (.byteArray newValue) else []

/-- A switch that has to be announced is only made if it can be. -/
def switches (a : Attributes) (out : Outside) (on : Bool) : Bool :=
  a.notifying != on && (!on || a.supportsNotify) &&
    (!a.registered .characteristic || out.booleanVariant)

def switch (a : Attributes) (out : Outside) : Option Bool → Served
  | none => ⟨.ok (), a, []⟩
  | some on =>
    if a.switches out on then
      ⟨if on then out.notifyResult else .ok (), { a with notifying := on },
        a.signal .characteristic "Notifying" (.boolean on) ++ if on then out.notifyTrace else []⟩
    else ⟨.ok (), a, []⟩

/-- A value of the characteristic is announced after the notify callback, unless this throws. -/
def updateCharacteristic (a : Attributes) (out : Outside) (newValue : List UInt8) : Served :=
  let announced := a.announce out .characteristic newValue
  if a.notifying && a.registered .characteristic && out.byteArrayVariant then
    ⟨out.notifyResult, a.set .characteristic newValue,
      out.notifyTrace ++ if out.notifyResult.isOk then announced else []⟩
  else ⟨.ok (), a.set .characteristic newValue, announced⟩

/-- A client configuration switches the notifications before it is announced. -/
def updateDescriptor (a : Attributes) (out : Outside) (d : Nat) (newValue : List UInt8) :
    Served :=
  let asked := if a.configures d then GattDescriptor.requested newValue else none
  let switched := (a.set (.descriptor d) newValue).switch out asked
  { switched with trace := switched.trace ++
      if switched.result.isOk then a.announce out (.descriptor d) newValue else [] }

def update (a : Attributes) (out : Outside) (newValue : List UInt8) : GattObject → Served
  | .characteristic => a.updateCharacteristic out newValue
  | .descriptor d => a.updateDescriptor out d newValue

/-- What a client writes to a characteristic is not announced. -/
def store (a : Attributes) (out : Outside) (newValue : List UInt8) : GattObject → Served
  | .characteristic => ⟨.ok (), a.set .characteristic newValue, []⟩
  | .descriptor d => a.updateDescriptor out d newValue

/-- The call of a client is answered, whatever it ends with. -/
def answered (r : Attributes → Reply) (s : Served) : Served :=
  ⟨.ok (), s.state, s.trace ++ [.reply (if s.result.isOk then r s.state else failure)]⟩

def readReply (out : Outside) (value : List UInt8) : Reply :=
  if out.byteArrayVariant then .value (some (.byteArray value))
  else .error .failed "Failed to create response"

def read (a : Attributes) (out : Outside) (o : GattObject) : Served :=
  match out.readCallback o with
  | none => ⟨.ok (), a, [.reply (readReply out (a.value o))]⟩
  | some (.ok value) => ⟨.ok (), a, [.readCallback o, .reply (readReply out value)]⟩
  | some (.error (.stdException what)) =>
    ⟨.ok (), a, [.readCallback o, .reply (.error .failed what)]⟩
  | some (.error _) => ⟨.ok (), a, [.readCallback o, .reply failure]⟩

/-- The write callback is asked first, and gets what comes before the first NUL. -/
def write (a : Attributes) (out : Outside) (o : GattObject) (newValue : List UInt8) : Served :=
  let accepted := answered (fun _ => .value none) (a.store out newValue o)
  match out.writeCallback o with
  | none => accepted
  | some f =>
    let decided : Served := match f newValue with
      | .ok true => accepted
      | .ok false => ⟨.ok (), a, [.reply (.error .failed "Write operation failed")]⟩
      | .error (.stdException what) => ⟨.ok (), a, [.reply (.error .failed what)]⟩
      | .error _ => ⟨.ok (), a, [.reply failure]⟩
    decided.after [.writeCallback o newValue]

def serve (a : Attributes) (out : Outside) : AttributeRequest → Served
  | .update o newValue => a.update out newValue o
  | .startNotify => a.switch out (some true)
  | .stopNotify => a.switch out (some false)
  | .read o => a.read out o
  | .write o (some (.byteArray bytes)) => a.write out o (cString bytes)
  | .write _ none => ⟨.ok (), a, [.reply (.error .invalidArgs "Missing parameters")]⟩
  | .write _ _ => ⟨.error .undefined, a, []⟩
  | .subscribe => answered (fun a' =>
      if a'.notifying then .value none
      else .error .notSupported "Notifications not supported") (a.switch out (some true))
  | .unsubscribe => answered (fun a' =>
      if a'.notifying then .error .failed "Failed to stop notifications"
      else .value none) (a.switch out (some false))
  | .answer r => ⟨.ok (), a, [.reply r]⟩

/-- Clients and the application take turns. -/
def server : Machine Attributes (Outside × AttributeRequest) (Except Thrown Unit × List Event) where
  step a i :=
    let served := a.serve i.1 i.2
    ((served.result, served.trace), served.state)

/-- The value that a request gives to an attribute. -/
def stored? (o : GattObject) : Outside × AttributeRequest → Option (List UInt8)
  | (_, .update o' newValue) => if o' = o then some newValue else none
  | (out, .write o' (some (.byteArray bytes))) =>
    if o' = o ∧ out.accepts o (cString bytes) = true then some (cString bytes) else none
  | _ => none

variable {a : Attributes} {o : GattObject}

theorem value_set (a : Attributes) (o o' : GattObject) (newValue : List UInt8) :
    (a.set o' newValue).value o = if o' = o then newValue else a.value o := by
  rw [set]
  by_cases h : o' = o
  · rw [if_pos h, h]
    exact Function.update_self ..
  · rw [if_neg h]
    exact Function.update_of_ne (Ne.symm h) ..

theorem value_switch (a : Attributes) (out : Outside) (asked : Option Bool) :
    (a.switch out asked).state.value = a.value := by
  cases asked with
  | none => rfl
  | some on =>
    rw [switch]
    split_ifs <;> rfl

theorem value_updateDescriptor (a : Attributes) (out : Outside) (d : Nat)
    (newValue : List UInt8) : (a.updateDescriptor out d newValue).state.value =
      (a.set (.descriptor d) newValue).value :=
  value_switch ..

theorem value_update (a : Attributes) (out : Outside) (o : GattObject) (newValue : List UInt8) :
    (a.update out newValue o).state.value = (a.set o newValue).value := by
  cases o with
  | characteristic =>
    rw [update, updateCharacteristic]
    split_ifs <;> rfl
  | descriptor d => exact value_updateDescriptor ..

theorem value_store (a : Attributes) (out : Outside) (o : GattObject) (newValue : List UInt8) :
    (a.store out newValue o).state.value = (a.set o newValue).value := by
  cases o with
  | characteristic => rfl
  | descriptor d => exact value_updateDescriptor ..

/-- A value is stored exactly if it is accepted. -/
theorem value_write (a : Attributes) (out : Outside) (o : GattObject) (newValue : List UInt8) :
    (a.write out o newValue).state.value =
      if out.accepts o newValue = true then (a.set o newValue).value else a.value := by
  rw [write, Outside.accepts, Outside.writeVerdict]
  cases out.writeCallback o with
  | none => exact value_store ..
  | some f =>
    rcases hf : f newValue with e | _ | _
    · cases e <;> simp [hf]
    · simp [hf]
    · simpa [hf, answered] using value_store a out o newValue

theorem value_serve (a : Attributes) (i : Outside × AttributeRequest) (o : GattObject) :
    (server.next a i).value o = (stored? o i).getD (a.value o) := by
  obtain ⟨out, r⟩ := i
  change (a.serve out r).state.value o = _
  cases r with
  | update o' newValue =>
    rw [serve, value_update, value_set, stored?]
    split_ifs <;> rfl
  | startNotify => exact congrFun (value_switch ..) o
  | stopNotify => exact congrFun (value_switch ..) o
  | read o' =>
    rw [serve, read]
    rcases out.readCallback o' with _ | _ | _
    · rfl
    · rename_i e
      cases e <;> rfl
    · rfl
  | write o' parameters =>
    cases parameters with
    | none => rfl
    | some parameters =>
      cases parameters with
      | byteArray bytes =>
        rw [serve, value_write, stored?]
        by_cases ho : o' = o
        · subst ho
          split_ifs <;> simp_all [value_set]
        · split_ifs <;> simp_all [value_set]
      | _ => rfl
  | subscribe => exact congrFun (value_switch ..) o
  | unsubscribe => exact congrFun (value_switch ..) o
  | answer r => rfl

/-- The attributes are registers. -/
theorem value_run (a : Attributes) (is : List (Outside × AttributeRequest)) (o : GattObject) :
    (server.run a is).value o = (is.filterMap (stored? o)).getLastD (a.value o) := by
  induction is generalizing a with
  | nil => rfl
  | cons i is ih =>
    rw [Machine.run_cons, ih, value_serve]
    cases h : stored? o i with
    | none => rw [List.filterMap_cons_none h, Option.getD_none]
    | some newValue => rw [List.filterMap_cons_some h, Option.getD_some, List.getLastD_cons]

end Attributes
end Ggk
