import BluetoothLE.Gatt.Characteristic

namespace Ggk
open Lib Gatt
set_option autoImplicit true

namespace GattDescriptor

def isCccd (descriptor : GattDescriptor) : Bool :=
  descriptor.uuid.toBlueZShortFormat == "00002902"

def getValue (d : Nat) : Gatt (List UInt8) :=
  withLock (.descriptorValueMutex d) do return ((← Effect.get).descriptors d).value

/-- A client configuration of at least two bytes starts or stops the notifications. -/
def changeNotificationState (env : Environment) (newValue : List UInt8) : Gatt Unit :=
  match newValue with
  | first :: _ :: _ =>
    let enableNotify := first &&& 0x01 != 0
    let enableIndicate := first &&& 0x02 != 0
    catchStd (do
      if enableNotify || enableIndicate then
        discard (GattCharacteristic.startNotify env)
      else
        discard (GattCharacteristic.stopNotify env)) fun _ => pure ()
  | _ => pure ()

def announceValue (env : Environment) (d : Nat) : Gatt Unit := do
  let descriptor := (← Effect.get).descriptors d
  match ← gvariantFromByteArray env descriptor.value with
  | none => pure ()
  | some valueVariant =>
    emitPropertyChanged descriptor.path descriptor.registered
      BlueZConstants.gattDescriptorInterface "Value" valueVariant

def setValue (env : Environment) (d : Nat) (newValue : List UInt8) : Gatt Unit :=
  catchStd (do
    withLock (.descriptorValueMutex d) (Effect.modify fun w => w.setDescriptorValue d newValue)
    if ((← Effect.get).descriptors d).isCccd then changeNotificationState env newValue
    if ((← Effect.get).descriptors d).registered then announceValue env d) fun _ => pure ()

def handleReadValue (env : Environment) (d : Nat) (call : DBusMethodCall) : Gatt Unit :=
  Gatt.handleReadValue env (.descriptor d) call

def handleWriteValue (env : Environment) (d : Nat) (call : DBusMethodCall) : Gatt Unit :=
  Gatt.handleWriteValue env (.descriptor d) (setValue env d) call

/-- Whether a value written to a client configuration starts or stops the notifications. -/
def requested : List UInt8 → Option Bool
  | first :: _ :: _ => some (first &&& 0x01 != 0 || first &&& 0x02 != 0)
  | _ => none

theorem requested_of_length (h : 2 ≤ newValue.length) :
    ∃ wanted, requested newValue = some wanted := by
  rcases newValue with _ | ⟨first, _ | ⟨second, rest⟩⟩
  · simp at h
  · simp at h
  · exact ⟨_, rfl⟩

def request (descriptor : GattDescriptor) (newValue : List UInt8) : Option Bool :=
  if descriptor.isCccd then requested newValue else none

def carryOut (env : Environment) : Option Bool → Gatt Unit
  | none => pure ()
  | some true => discard (GattCharacteristic.startNotify env)
  | some false => discard (GattCharacteristic.stopNotify env)

theorem carryOut_state (out : Outside) (r : Option Bool) (w : World) :
    (carryOut out.environment r w).state = w.setNotifying (match r with
      | none => w.characteristic.notifying
      | some true => w.characteristic.notifying || w.characteristic.starts out.environment
      | some false => w.characteristic.notifying && !w.characteristic.stops out.environment) := by
  rcases r with _ | _ | _
  · exact (World.setNotifying_self rfl).symm
  · rw [carryOut, (discard_apply _ _).1, GattCharacteristic.stopNotify_state]
  · rw [carryOut, (discard_apply _ _).1, GattCharacteristic.startNotify_state]

theorem carryOut_internal (out : Outside) (r : Option Bool) (w : World) :
    ∀ e ∈ (carryOut out.environment r w).trace, e.Internal := by
  rcases r with _ | _ | _
  · exact List.forall_mem_nil _
  · rw [carryOut, (discard_apply _ _).2]
    exact GattCharacteristic.stopNotify_internal _ w
  · rw [carryOut, (discard_apply _ _).2]
    exact GattCharacteristic.startNotify_internal out w

/-- A request ends as the notify callback does, if that is called. -/
theorem carryOut_called (env : Environment) (r : Option Bool) (w : World) :
    (carryOut env r w).result =
      if r == some true && w.characteristic.starts env then
        (runNotifyCallback env (w.setNotifying true)).result
      else .ok () := by
  rcases r with _ | _ | _
  · rfl
  · rw [carryOut, discard_result, GattCharacteristic.stopNotify_result]
    rfl
  · rw [carryOut, discard_result]
    cases hs : w.characteristic.starts env with
    | false => rw [GattCharacteristic.startNotify_idle hs]; rfl
    | true =>
      rw [GattCharacteristic.startNotify_starts hs]
      cases h : (runNotifyCallback env (w.setNotifying true)).result <;> simp [h, Except.map]

theorem carryOut_result (out : Outside) (r : Option Bool) (w : World) :
    (carryOut out.environment r w).result =
      if r == some true && w.characteristic.starts out.environment then out.notifyResult
      else .ok () := by
  rw [carryOut_called, Outside.runNotifyCallback_apply]

theorem changeNotificationState_eq_carryOut (env : Environment) (newValue : List UInt8) :
    changeNotificationState env newValue =
      catchStd (carryOut env (requested newValue)) fun _ => pure () := by
  rcases newValue with _ | ⟨first, _ | ⟨second, rest⟩⟩
  · rfl
  · rfl
  · rw [changeNotificationState, requested]
    cases first &&& 0x01 != 0 || first &&& 0x02 != 0 <;> rfl

theorem announceValue_emits (env : Environment) (d : Nat) :
    Effect.Emits (Event.Announces BlueZConstants.gattDescriptorInterface "Value")
      (announceValue env d) := by
  refine .bind .get fun w => .bind (gvariantFromByteArray_emits env _) fun v => ?_
  cases v with
  | none => exact .pure _
  | some v => exact emitPropertyChanged_emits _ _ _ _ _

theorem announce_emits (env : Environment) (d : Nat) :
    Effect.Emits (Event.Announces BlueZConstants.gattDescriptorInterface "Value")
      (do if ((← Effect.get).descriptors d).registered then announceValue env d) := by
  refine .bind .get fun w => ?_
  by_cases h : (w.descriptors d).registered
  · rw [if_pos h]; exact announceValue_emits env d
  · rw [if_neg h]; exact .pure _

@[simp] theorem isCccd_setValue (descriptor : GattDescriptor) (value : List UInt8) :
    ({ descriptor with value } : GattDescriptor).isCccd = descriptor.isCccd := rfl

/-- Carrying out a request under `catch` differs from it in no more than how it ends. -/
theorem changeNotificationState_apply (env : Environment) (newValue : List UInt8) (w : World) :
    (changeNotificationState env newValue w).state = (carryOut env (requested newValue) w).state ∧
      (changeNotificationState env newValue w).trace =
        (carryOut env (requested newValue) w).trace := by
  rw [changeNotificationState_eq_carryOut]
  exact catchStd_silent _ () w

/-- After the store, `setValue` does what the value requests, and then at most announces it. -/
theorem setValue_apply (env : Environment) (d : Nat) (newValue : List UInt8) (w : World) :
    (setValue env d newValue w).state =
        (carryOut env ((w.descriptors d).request newValue)
          (w.setDescriptorValue d newValue)).state ∧
      ∃ signals,
        (∀ e ∈ signals, Event.Announces BlueZConstants.gattDescriptorInterface "Value" e) ∧
        (setValue env d newValue w).trace =
          [.acquire (.descriptorValueMutex d), .release (.descriptorValueMutex d)] ++
          (carryOut env ((w.descriptors d).request newValue)
            (w.setDescriptorValue d newValue)).trace ++ signals := by
  obtain ⟨hs, ht⟩ := catchStd_silent (do
    withLock (.descriptorValueMutex d) (Effect.modify fun w => w.setDescriptorValue d newValue)
    if ((← Effect.get).descriptors d).isCccd then changeNotificationState env newValue
    if ((← Effect.get).descriptors d).registered then announceValue env d : Gatt Unit) () w
  rw [setValue, hs, ht]
  simp only [withLock, Effect.bind_apply, Effect.guarded_apply, Effect.modify_apply,
    Outcome.bind_ok, Effect.get_apply, Outcome.after_state, Outcome.after_trace,
    World.setDescriptorValue_self, isCccd_setValue, request, List.nil_append]
  by_cases hc : (w.descriptors d).isCccd = true
  · obtain ⟨hs', signals, hsig, ht'⟩ := Effect.bind_emits
      (x := changeNotificationState env newValue) (fun _ => announce_emits env d)
      (w.setDescriptorValue d newValue)
    obtain ⟨hcs, hct⟩ :=
      changeNotificationState_apply env newValue (w.setDescriptorValue d newValue)
    rw [if_pos hc, if_pos hc, hs', ht', hcs, hct]
    exact ⟨rfl, signals, hsig, rfl⟩
  · obtain ⟨hs', hsig⟩ := announce_emits env d (w.setDescriptorValue d newValue)
    rw [if_neg hc, if_neg hc]
    exact ⟨hs', _, hsig, rfl⟩

end GattDescriptor
end Ggk
