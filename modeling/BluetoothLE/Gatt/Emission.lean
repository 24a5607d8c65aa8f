import BluetoothLE.DBus.PropertiesChanged
import BluetoothLE.Gatt.WriteValue
import BluetoothLE.Gatt.Stored
import BluetoothLE.Lib.Abort

namespace Ggk
open Lib Gatt
set_option autoImplicit true

/-- The events that the process does not outlive: the requests to a connection that does not
come back from them. -/
def Event.ends (goesOn : Bool) (c : DBusConnection δ η) : Event → Bool
  | .propertyChanged _ _ _ _ => c.endsProcess goesOn
  | _ => false

@[simp] def Event.isSignal : Event → Bool
  | .propertyChanged _ _ _ _ => true
  | .acquire _ | .release _ | .readCallback _ | .writeCallback _ _ | .notifyCallback | .reply _ =>
    false

theorem any_ends (goesOn : Bool) (c : DBusConnection δ η) (t : List Event) :
    t.any (Event.ends goesOn c) = (c.endsProcess goesOn && t.any Event.isSignal) := by
  induction t with
  | nil => exact (Bool.and_false _).symm
  | cons e t ih =>
    rw [List.any_cons, List.any_cons, ih, Bool.and_or_distrib_left]
    cases e <;> simp [Event.ends]

/-- The request of an object is one that the process does not outlive exactly if
`DBusObject::emitPropertyChanged` has no result. -/
theorem emitPropertyChanged_ends_iff (o : DBusObject κ) (c : DBusConnection δ η)
    (goesOn accepted : Bool) (interface name : String) (sent : GVariant) (value : Variant)
    (w : World) :
    (Gatt.emitPropertyChanged o.path o.registered interface name sent w).trace.any
        (Event.ends goesOn c) = true ↔
      o.emitPropertyChanged goesOn accepted interface name value c = none := by
  rw [Gatt.emitPropertyChanged, DBusObject.emitPropertyChanged]
  cases o.registered with
  | false => simp
  | true => simp [DBusConnection.emitPropertyChanged_eq_none_iff, Event.ends]

theorem isSignal_replies {t : List Event} (h : ∀ e ∈ t, e.IsReply) : t.any Event.isSignal = false := by
  rw [List.any_eq_false]
  intro e he
  obtain ⟨r, rfl⟩ := h e he
  exact Bool.false_ne_true

theorem Outside.isSignal_notifyTrace (out : Outside) :
    out.notifyTrace.any Event.isSignal = false := by
  rw [Outside.notifyTrace]
  split_ifs <;> rfl

theorem Outside.isSignal_readTrace (o : GattObject) (r : Except Thrown (List UInt8)) :
    (Outside.readTrace o r).any Event.isSignal = false := by
  rcases r with e | value
  · cases e <;> rfl
  · rfl

theorem Outside.isSignal_writeTrace (out : Outside) (o : GattObject) (newValue : List UInt8) :
    (out.writeTrace o newValue).any Event.isSignal = false := by
  rw [Outside.writeTrace]
  cases out.writeCallback o with
  | none => rfl
  | some f => cases h : f newValue with
    | ok b => simp [h]
    | error e => cases e <;> simp [h]

/-- Whether the characteristic makes a request for a switch that it is asked for. -/
def GattCharacteristic.signals (env : Environment) (c : GattCharacteristic) : Option Bool → Bool
  | none => false
  | some true => c.registered && c.starts env
  | some false => c.registered && c.stops env

theorem isSignal_announcement (c : GattCharacteristic) (on : Bool) :
    (c.announcement on).any Event.isSignal = c.registered := by
  rw [GattCharacteristic.announcement]
  cases c.registered <;> rfl

section Switches
variable (out : Outside) (w : World)

theorem isSignal_startNotify :
    (GattCharacteristic.startNotify out.environment w).trace.any Event.isSignal =
      w.characteristic.signals out.environment (some true) := by
  rw [GattCharacteristic.signals]
  cases h : w.characteristic.starts out.environment with
  | false => simp [GattCharacteristic.startNotify_idle h]
  | true => simp [GattCharacteristic.startNotify_started h, isSignal_announcement,
      out.isSignal_notifyTrace]

theorem isSignal_stopNotify :
    (GattCharacteristic.stopNotify out.environment w).trace.any Event.isSignal =
      w.characteristic.signals out.environment (some false) := by
  rw [GattCharacteristic.signals]
  cases h : w.characteristic.stops out.environment with
  | false => simp [GattCharacteristic.stopNotify_idle h]
  | true => simp [GattCharacteristic.stopNotify_stopped h, isSignal_announcement]

theorem isSignal_carryOut (asked : Option Bool) :
    (GattDescriptor.carryOut out.environment asked w).trace.any Event.isSignal =
      w.characteristic.signals out.environment asked := by
  rcases asked with _ | _ | _
  · rfl
  · rw [GattDescriptor.carryOut, (discard_apply _ _).2, isSignal_stopNotify]
  · rw [GattDescriptor.carryOut, (discard_apply _ _).2, isSignal_startNotify]

end Switches

namespace Outside

/-- Whether storing an accepted value makes a request: for the switch that it asks for, or for
the value of a descriptor. -/
def storeSignals (out : Outside) (w : World) (newValue : List UInt8) : GattObject → Bool
  | .characteristic => false
  | .descriptor d =>
    w.characteristic.signals out.environment ((w.descriptors d).request newValue) ||
      !out.interrupts w d newValue && (w.descriptors d).registered &&
        byteArrayMade out.environment newValue

theorem isSignal_store (out : Outside) (w : World) (newValue : List UInt8) (o : GattObject) :
    (o.store out.environment newValue w).trace.any Event.isSignal =
      out.storeSignals w newValue o := by
  cases o with
  | characteristic => simp [GattObject.store, withLock, storeSignals]
  | descriptor d =>
    have hc := isSignal_carryOut out (w.setDescriptorValue d newValue)
      ((w.descriptors d).request newValue)
    rw [World.setDescriptorValue_characteristic] at hc
    rw [GattObject.store, GattDescriptor.setValue_outcome, storeSignals]
    cases out.interrupts w d newValue with
    | true => simp [hc]
    | false =>
      have hr : ((w.descriptors d).valueRequest out.environment newValue).any Event.isSignal =
          ((w.descriptors d).registered && byteArrayMade out.environment newValue) := by
        rw [GattDescriptor.valueRequest]
        cases (w.descriptors d).registered && byteArrayMade out.environment newValue <;> rfl
      simp [hc, hr]

/-- Whether a WriteValue with these parameters makes a request. -/
def writeSignals (out : Outside) (w : World) (o : GattObject) : Option GVariant → Bool
  | some (.byteArray bytes) =>
    out.accepts o (cString bytes) && out.storeSignals w (cString bytes) o
  | _ => false

end Outside

section Handlers
variable {out : Outside} {w : World} {o : GattObject} {call : DBusMethodCall}

theorem isSignal_handleReadValue (hi : call.invocation = true) :
    (Gatt.handleReadValue out.environment o call w).trace.any Event.isSignal = false := by
  obtain ⟨-, replies, hr, ht⟩ := handleReadValue_apply out.environment o w hi
  have hl : (readLocked out.environment o w).trace.any Event.isSignal = false := by
    cases h : out.readCallback o with
    | none => simp [Outside.readLocked_stored, Outside.environment, h]
    | some r => rw [Outside.readLocked_callback h, Outside.isSignal_readTrace]
  simp [ht, hl, isSignal_replies hr]

theorem isSignal_handleWriteValue (hi : call.invocation = true) :
    (Gatt.handleWriteValue out.environment o (o.store out.environment) call w).trace.any
      Event.isSignal = out.writeSignals w o call.parameters := by
  cases hd : decoded call with
  | none =>
    have hs : out.writeSignals w o call.parameters = false := by
      rw [decoded, if_pos hi] at hd
      rcases h : call.parameters with _ | _ | bytes | _ | _
      all_goals first | rfl | rw [h] at hd; cases hd
    rw [hs, isSignal_replies (handleWriteValue_undecoded out.environment hd).2]
  | some newValue =>
    have hs : out.writeSignals w o call.parameters =
        (out.accepts o newValue && out.storeSignals w newValue o) := by
      obtain ⟨-, parameters, hp, hn⟩ := decoded_eq_some hd
      rw [hp]
      rcases parameters with _ | bytes | _ | _
      all_goals cases hn
      rw [cString_append_nul]
      rfl
    rw [hs]
    cases ha : out.accepts o newValue with
    | true =>
      obtain ⟨-, replies, hr, ht⟩ := handleWriteValue_accepted (o.store out.environment) w hd ha
      simp [ht, isSignal_replies hr, out.isSignal_writeTrace, out.isSignal_store]
    | false =>
      obtain ⟨-, replies, hr, ht⟩ := handleWriteValue_declined (o.store out.environment) w hd ha
      simp [ht, isSignal_replies hr, out.isSignal_writeTrace]

theorem isSignal_verdict {x : Gatt Bool} (yes no : Reply) :
    ((do if ← x then reply yes else reply no : Gatt Unit) w).trace.any Event.isSignal =
      (x w).trace.any Event.isSignal := by
  obtain ⟨-, t, ht, he⟩ := Effect.bind_emits (x := x) (P := Event.IsReply)
    (k := fun b => if b then reply yes else reply no)
    (fun b => by cases b <;> exact reply_emits _) w
  rw [he, List.any_append, isSignal_replies ht, Bool.or_false]

end Handlers
end Ggk
