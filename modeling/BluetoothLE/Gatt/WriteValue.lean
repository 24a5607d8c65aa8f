import BluetoothLE.Gatt.Descriptor

namespace Ggk
open Lib Gatt
set_option autoImplicit true

def Event.written? : Event → Option (GattObject × List UInt8)
  | .writeCallback o value => some (o, value)
  | _ => none

def Event.reply? : Event → Option Reply
  | .reply r => some r
  | _ => none

theorem Event.IsReply.written? (h : IsReply e) : e.written? = none := by
  obtain ⟨r, rfl⟩ := h
  rfl

theorem Event.Internal.written? (h : Internal e) : e.written? = none := by
  cases e <;> first | rfl | exact h.elim

theorem Event.Internal.reply? (h : Internal e) : e.reply? = none := by
  cases e <;> first | rfl | exact h.elim

def written (trace : List Event) : List (GattObject × List UInt8) :=
  trace.filterMap Event.written?

@[simp] theorem written_append (s t : List Event) : written (s ++ t) = written s ++ written t :=
  List.filterMap_append

@[simp] theorem written_nil : written [] = [] := rfl

@[simp] theorem written_acquire (m : Mutex) (t : List Event) :
    written (.acquire m :: t) = written t := rfl

@[simp] theorem written_release (m : Mutex) (t : List Event) :
    written (.release m :: t) = written t := rfl

theorem written_eq_nil (h : ∀ e ∈ trace, e.written? = none) : written trace = [] :=
  List.filterMap_eq_nil_iff.2 h

theorem written_internal (h : ∀ e ∈ trace, Event.Internal e) : written trace = [] :=
  written_eq_nil fun e he => (h e he).written?

@[simp] theorem written_writeTrace (out : Outside) (o : GattObject) (newValue : List UInt8) :
    written (out.writeTrace o newValue) =
      if (out.writeCallback o).isSome then [(o, newValue)] else [] := by
  rw [Outside.writeTrace]
  cases out.writeCallback o with
  | none => rfl
  | some f => cases h : f newValue with
    | ok b => simp only [h]; rfl
    | error e => cases e <;> simp only [h] <;> rfl

namespace GattObject

def store (env : Environment) : GattObject → List UInt8 → Gatt Unit
  | .characteristic => fun newValue =>
    withLock .valueMutex (Effect.modify fun w => w.setCharacteristicValue newValue)
  | .descriptor d => GattDescriptor.setValue env d

def handleWriteValue (env : Environment) : GattObject → DBusMethodCall → Gatt Unit
  | .characteristic => GattCharacteristic.handleWriteValue env
  | .descriptor d => GattDescriptor.handleWriteValue env d

def handleReadValue (env : Environment) : GattObject → DBusMethodCall → Gatt Unit
  | .characteristic => GattCharacteristic.handleReadValue env
  | .descriptor d => GattDescriptor.handleReadValue env d

theorem handleWriteValue_eq_store (env : Environment) (o : GattObject) :
    o.handleWriteValue env = Gatt.handleWriteValue env o (o.store env) := by
  cases o <;> rfl

theorem handleReadValue_eq (env : Environment) (o : GattObject) :
    o.handleReadValue env = Gatt.handleReadValue env o := by
  cases o <;> rfl

theorem value_store (out : Outside) (o : GattObject) (newValue : List UInt8) (w : World) :
    o.value (o.store out.environment newValue w).state = newValue := by
  cases o with
  | characteristic => rfl
  | descriptor d =>
    rw [store, (GattDescriptor.setValue_apply ..).1, GattDescriptor.carryOut_state, value,
      World.setNotifying_descriptors, World.setDescriptorValue_self]

theorem store_internal (o : GattObject) (out : Outside) (newValue : List UInt8) (w : World) :
    ∀ e ∈ (o.store out.environment newValue w).trace, e.Internal := by
  cases o with
  | characteristic => simp [store, withLock, Event.Internal]
  | descriptor d =>
    obtain ⟨signals, hs, ht⟩ := (GattDescriptor.setValue_apply out.environment d newValue w).2
    have hc := GattDescriptor.carryOut_internal out ((w.descriptors d).request newValue)
      (w.setDescriptorValue d newValue)
    rw [store, ht]
    simp only [List.forall_mem_append, List.forall_mem_cons]
    exact ⟨⟨⟨trivial, trivial, List.forall_mem_nil _⟩, hc⟩, fun e he => (hs e he).isSignal.internal⟩

theorem written_handleWriteValue (out : Outside) (o : GattObject) (w : World)
    (hd : decoded call = some newValue) :
    written (o.handleWriteValue out.environment call w).trace =
      if (out.writeCallback o).isSome then [(o, newValue)] else [] := by
  rw [handleWriteValue_eq_store]
  have hnil {t : List Event} (h : ∀ e ∈ t, e.IsReply) : written t = [] :=
    written_eq_nil fun e he => (h e he).written?
  cases hv : out.accepts o newValue with
  | true =>
    obtain ⟨-, replies, hr, ht⟩ := handleWriteValue_accepted (o.store out.environment) w hd hv
    simp [ht, hnil hr, written_internal (o.store_internal out newValue w)]
  | false =>
    obtain ⟨-, replies, hr, ht⟩ := handleWriteValue_declined (o.store out.environment) w hd hv
    simp [ht, hnil hr]

theorem readBack_iff {env : Environment} {o : GattObject} {w : World} {read : DBusMethodCall}
    (h : env.readCallback o = none) (hv : env.byteArrayVariant = true)
    (hi : read.invocation = true) :
    (o.handleReadValue env read w).trace.filterMap Event.reply? =
        [.value (some (.byteArray (o.value w)))] ↔ (o.value w).length < 2 ^ 31 := by
  rw [handleReadValue_eq, ← Utils.gvariantFromByteArray_eq_iff]
  cases hg : Utils.gvariantFromByteArray (o.value w) (Utils.toInt (o.value w).length) with
  | none =>
    have ht : gvariantFromByteArray env (o.value w) = Effect.throw .undefined := by
      rw [gvariantFromByteArray, hg]
      rfl
    simp [Gatt.handleReadValue, catchStd, withLock, hi, Outside.readLocked_stored h, answer, ht,
      Outcome.catching, what, List.filterMap_cons, Event.reply?]
  | some v =>
    have ht : gvariantFromByteArray env (o.value w) = pure (some v) := by
      rw [gvariantFromByteArray, hg, hv]
      rfl
    rw [handleReadValue_stored hi h ht]
    simp [List.filterMap_cons, Event.reply?]

/-- What an accepted WriteValue of the bytes `b` is to do: the callback gets `b`, the object
holds `b`, a read gives `b`, and notifications are as a local `setValue` leaves them. -/
structure Delivered (out : Outside) (o : GattObject) (call : DBusMethodCall) (w : World)
    (b : List UInt8) : Prop where
  given : written (o.handleWriteValue out.environment call w).trace =
    if (out.writeCallback o).isSome then [(o, b)] else []
  stored : o.value (o.handleWriteValue out.environment call w).state = b
  readBack : ∀ read : DBusMethodCall, read.invocation = true →
    (o.handleReadValue { out with readCallback := fun _ => none }.environment read
      (o.handleWriteValue out.environment call w).state).trace.filterMap Event.reply? =
        [.value (some (.byteArray b))]
  notifying : ∀ d, o = .descriptor d →
    (o.handleWriteValue out.environment call w).state.characteristic.notifying =
      (GattDescriptor.setValue out.environment d b w).state.characteristic.notifying

/-- The write callback returns true whenever the handler calls it. -/
def Accepted (out : Outside) (o : GattObject) (call : DBusMethodCall) (w : World) : Prop :=
  ∀ f, out.writeCallback o = some f → ∀ given,
    (o, given) ∈ written (o.handleWriteValue out.environment call w).trace → f given = .ok true

section Accepted
variable {out : Outside} {o : GattObject} {call : DBusMethodCall} {w : World}

theorem Accepted.accepts (ha : Accepted out o call w) (hd : decoded call = some newValue) :
    out.accepts o newValue = true := by
  rw [Outside.accepts_iff]
  cases hf : out.writeCallback o with
  | none => rw [Outside.writeVerdict, hf]
  | some f =>
    have hmem : (o, newValue) ∈ written (o.handleWriteValue out.environment call w).trace := by
      rw [written_handleWriteValue out o w hd, hf]
      exact List.mem_singleton.2 rfl
    rw [Outside.writeVerdict, hf]
    simp only [ha f hf newValue hmem]

theorem Accepted.state (ha : Accepted out o call w) (hd : decoded call = some newValue) :
    (o.handleWriteValue out.environment call w).state =
      (o.store out.environment newValue w).state := by
  rw [handleWriteValue_eq_store, (handleWriteValue_accepted _ w hd (ha.accepts hd)).1]

/-- An accepted WriteValue of `b` is delivered exactly when `b` holds no NUL and its length
fits in an `int`. -/
theorem delivered_iff (hi : call.invocation = true) (hp : call.parameters = some (.byteArray b))
    (hv : out.byteArrayVariant = true) (ha : Accepted out o call w) :
    Delivered out o call w b ↔ 0 ∉ b ∧ b.length < 2 ^ 31 := by
  have hd : decoded call = some (cString b) := by simp [decoded, hi, hp]
  have hstored : o.value (o.handleWriteValue out.environment call w).state = cString b := by
    rw [ha.state hd, value_store]
  apply Iff.intro
  · intro h
    have hb := hstored.symm.trans h.stored
    have hread := h.readBack call hi
    rw [← h.stored, readBack_iff rfl hv hi, h.stored] at hread
    exact ⟨cString_eq_self_iff.1 hb, hread⟩
  · intro h
    obtain ⟨h0, hlen⟩ := h
    rw [cString_of_nulFree h0] at hd hstored
    refine ⟨written_handleWriteValue out o w hd, hstored, ?_, ?_⟩
    · intro read hr
      rw [← hstored, readBack_iff rfl hv hr, hstored]
      exact hlen
    · intro d ho
      subst ho
      rw [ha.state hd, store]

/-- The value 0x0001 of a client configuration arrives as its first byte alone. -/
theorem not_always_delivered :
    ¬ ∀ (out : Outside) (o : GattObject) (call : DBusMethodCall) (w : World) (b : List UInt8),
      call.invocation = true → call.parameters = some (.byteArray b) →
        out.byteArrayVariant = true → Accepted out o call w → Delivered out o call w b := by
  intro h
  have hd := h .quiet (.descriptor 0)
    (.writeValue BlueZConstants.gattDescriptorInterface [0x01, 0x00])
    (.constructed GattProperty.propNotify) [0x01, 0x00] rfl rfl rfl (fun f hf => by cases hf)
  exact absurd hd.stored (by decide)

theorem delivered_example :
    Delivered .quiet .characteristic
        (.writeValue BlueZConstants.gattCharacteristicInterface [0x10, 0x20])
        (.constructed GattProperty.propNotify) [0x10, 0x20] ↔
      0 ∉ [(0x10 : UInt8), 0x20] ∧ [(0x10 : UInt8), 0x20].length < 2 ^ 31 :=
  delivered_iff rfl rfl rfl fun f hf => by cases hf

end Accepted
end GattObject
end Ggk
