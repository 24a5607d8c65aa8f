import BluetoothLE.Gatt.Descriptor

namespace Ggk
open Lib Gatt
set_option autoImplicit true

/-- The objects when they have been set up. -/
def World.setUp (w : World) : World where
  characteristic := { w.characteristic with registered := true }
  descriptors d := { w.descriptors d with registered := true }

/-- The size of the bytes is no negative `int`. -/
def Sized (bytes : List UInt8) : Prop := 0 ≤ Utils.toInt bytes.length

/-- The bytes that a variant of an array gets where its size goes through an `int`. -/
def variantBytes (bytes : List UInt8) : List UInt8 := bytes.take (Utils.toInt bytes.length).toNat

instance (bytes : List UInt8) : Decidable (Sized bytes) :=
  inferInstanceAs (Decidable (0 ≤ Utils.toInt bytes.length))

theorem variantBytes_eq_iff (h : Sized bytes) :
    variantBytes bytes = bytes ↔ bytes.length < 2 ^ 31 := by
  rw [← Utils.gvariantFromByteArray_eq_iff, Utils.gvariantFromByteArray, if_neg (Int.not_lt.2 h),
    Option.some.injEq, GVariant.byteArray.injEq]
  rfl

theorem byteArrayMade_iff : byteArrayMade env bytes = true ↔
    env.byteArrayVariant = true ∧ Sized bytes := by
  rw [byteArrayMade, Bool.and_eq_true, Utils.gvariantFromByteArray, Sized]
  split_ifs with h
  · simp [h]
  · simp [Int.not_lt.1 h]

theorem gvariantFromByteArray_eq (h : byteArrayMade env bytes = true) :
    gvariantFromByteArray env bytes = pure (some (.byteArray (variantBytes bytes))) := by
  obtain ⟨hv, hs⟩ := byteArrayMade_iff.1 h
  rw [gvariantFromByteArray, Utils.gvariantFromByteArray, if_neg (Int.not_lt.2 hs), hv]
  rfl

theorem gvariantFromByteArray_refused (h : byteArrayMade env bytes = false) :
    gvariantFromByteArray env bytes =
      if Sized bytes then pure none else Effect.throw .undefined := by
  rw [gvariantFromByteArray, Utils.gvariantFromByteArray]
  by_cases hs : Sized bytes
  · have hv : env.byteArrayVariant = false := by
      rw [← Bool.not_eq_true, byteArrayMade_iff] at h
      exact Bool.eq_false_iff.2 fun hv => h ⟨hv, hs⟩
    rw [if_neg (Int.not_lt.2 hs), if_pos hs, hv]
    rfl
  · rw [if_pos (Int.not_le.1 hs), if_neg hs]
    rfl

/-- The notify callback throws when the value is written to a client configuration. -/
def Outside.interrupts (out : Outside) (w : World) (d : Nat) (newValue : List UInt8) : Bool :=
  (w.descriptors d).request newValue == some true &&
    w.characteristic.starts out.environment && !out.notifyResult.isOk

/-- The same for callbacks that may do anything. -/
def Environment.interrupts (env : Environment) (w : World) (d : Nat) (newValue : List UInt8) :
    Bool :=
  (w.descriptors d).request newValue == some true && w.characteristic.starts env &&
    !(runNotifyCallback env ((w.setDescriptorValue d newValue).setNotifying true)).result.isOk

namespace GattDescriptor

/-- The request that announces a new value, if the descriptor is registered and there is a
variant for it. -/
def valueRequest (env : Environment) (descriptor : GattDescriptor) (newValue : List UInt8) :
    List Event :=
  if descriptor.registered && byteArrayMade env newValue then
    [.propertyChanged descriptor.path BlueZConstants.gattDescriptorInterface "Value"
      (.byteArray (variantBytes newValue))]
  else []

/-- A negative size ends the process before there is a variant. -/
def valueResult (descriptor : GattDescriptor) (newValue : List UInt8) : Except Thrown Unit :=
  if descriptor.registered = true ∧ ¬ Sized newValue then .error .undefined else .ok ()

variable {out : Outside} {w : World}

/-- The last part of `setValue`. -/
def announceRegistered (env : Environment) (d : Nat) : Gatt Unit := do
  if ((← Effect.get).descriptors d).registered then announceValue env d

theorem announceRegistered_outcome (env : Environment) (d : Nat) (w : World) :
    announceRegistered env d w =
      ⟨(w.descriptors d).valueResult (w.descriptors d).value, w,
        (w.descriptors d).valueRequest env (w.descriptors d).value⟩ := by
  rw [announceRegistered, Effect.bind_apply, Effect.get_apply, Outcome.bind_ok]
  by_cases hr : (w.descriptors d).registered = true
  · rw [if_pos hr, announceValue]
    cases hm : byteArrayMade env (w.descriptors d).value with
    | true =>
      have hs := (byteArrayMade_iff.1 hm).2
      simp [gvariantFromByteArray_eq hm, emitPropertyChanged, valueRequest, valueResult, hr, hm, hs]
    | false =>
      by_cases hs : Sized (w.descriptors d).value
      · simp [gvariantFromByteArray_refused hm, valueRequest, valueResult, hr, hm, hs]
      · simp [gvariantFromByteArray_refused hm, valueRequest, valueResult, hr, hm, hs]
  · rw [if_neg hr]
    simp [valueRequest, valueResult, hr]

/-- A step that is undefined is not an exception. -/
theorem valueResult_uncaught (descriptor : GattDescriptor) (newValue : List UInt8)
    (handler : String → Gatt Unit) (t : List Event) :
    (⟨descriptor.valueResult newValue, w, t⟩ : Outcome Thrown World Event Unit).catching what
      handler = ⟨descriptor.valueResult newValue, w, t⟩ := by
  rw [valueResult]
  split_ifs <;> rfl

theorem announceRegistered_stored (env : Environment) (d : Nat) (newValue : List UInt8)
    (w : World) (on : Bool) :
    announceRegistered env d ((w.setDescriptorValue d newValue).setNotifying on) =
      ⟨(w.descriptors d).valueResult newValue, (w.setDescriptorValue d newValue).setNotifying on,
        (w.descriptors d).valueRequest env newValue⟩ := by
  rw [announceRegistered_outcome, World.setNotifying_descriptors, World.setDescriptorValue_self]
  rfl

/-- An exception of the notify callback that gets this far is not caught on the way out. -/
theorem changeNotificationState_outcome (out : Outside) (newValue : List UInt8) (w : World) :
    changeNotificationState out.environment newValue w =
      carryOut out.environment (requested newValue) w := by
  rw [changeNotificationState_eq_carryOut, catchStd, Effect.catching_apply]
  have h := carryOut_result out (requested newValue) w
  cases hc : carryOut out.environment (requested newValue) w with
  | mk r w' t =>
    rw [hc] at h
    cases r with
    | ok a => rfl
    | error e =>
      split at h
      · exact Outcome.catching_passed (Outside.notifyResult_uncaught h.symm)
      · cases h

/-- What a stored value does to the notifications. -/
def changes (env : Environment) (descriptor : GattDescriptor) (newValue : List UInt8) :
    Gatt Unit :=
  if descriptor.isCccd then changeNotificationState env newValue else pure ()

theorem changes_isOk (env : Environment) (d : Nat) (newValue : List UInt8) (w : World) :
    ((w.descriptors d).changes env newValue (w.setDescriptorValue d newValue)).result.isOk =
      !env.interrupts w d newValue := by
  rw [changes, Environment.interrupts, request]
  split_ifs with hc
  · rw [changeNotificationState_eq_carryOut, catchStd, Effect.catching_apply]
    have hr := carryOut_called env (requested newValue) (w.setDescriptorValue d newValue)
    rw [World.setDescriptorValue_characteristic] at hr
    cases hs : requested newValue == some true && w.characteristic.starts env with
    | false =>
      rw [hs, if_neg Bool.false_ne_true] at hr
      cases hc : carryOut env (requested newValue) (w.setDescriptorValue d newValue)
      rw [hc] at hr
      cases hr
      rfl
    | true =>
      rw [hs, if_pos rfl] at hr
      rw [Bool.true_and, Bool.not_not, ← hr]
      cases hc : carryOut env (requested newValue) (w.setDescriptorValue d newValue) with
      | mk result w' t =>
        rw [hc] at hr
        cases result with
        | ok a => rfl
        | error e => rw [Outcome.catching_passed (runNotifyCallback_uncaught hr.symm)]
  · rfl

theorem changes_outcome (out : Outside) (descriptor : GattDescriptor) (newValue : List UInt8)
    (w : World) : descriptor.changes out.environment newValue w =
      carryOut out.environment (descriptor.request newValue) w := by
  rw [changes, request]
  split_ifs
  · exact changeNotificationState_outcome out newValue w
  · rfl

theorem setValue_eq_changes (env : Environment) (d : Nat) (newValue : List UInt8) (w : World) :
    setValue env d newValue w =
      ((((w.descriptors d).changes env newValue >>= fun _ => announceRegistered env d)
        (w.setDescriptorValue d newValue)).after
          [.acquire (.descriptorValueMutex d), .release (.descriptorValueMutex d)]).catching what
            fun _ => pure () := by
  rw [setValue, catchStd, Effect.catching_apply]
  simp only [withLock, Effect.bind_apply, Effect.guarded_apply, Effect.modify_apply,
    Outcome.bind_ok, Effect.get_apply, World.setDescriptorValue_self, isCccd_setValue, changes]
  by_cases hc : (w.descriptors d).isCccd = true
  · rw [if_pos hc, if_pos hc]
    rfl
  · rw [if_neg hc, if_neg hc]
    rfl

/-- The value is announced, as it is then, if the change of the notifications did not throw. -/
theorem setValue_changes (env : Environment) (d : Nat) (newValue : List UInt8) (w : World) :
    let changed := (w.descriptors d).changes env newValue (w.setDescriptorValue d newValue)
    (setValue env d newValue w).state = changed.state ∧
      (setValue env d newValue w).trace =
        [.acquire (.descriptorValueMutex d), .release (.descriptorValueMutex d)] ++
          changed.trace ++
            (if changed.result.isOk then
              (changed.state.descriptors d).valueRequest env (changed.state.descriptors d).value
            else []) := by
  rw [setValue_eq_changes, Effect.bind_apply]
  cases (w.descriptors d).changes env newValue (w.setDescriptorValue d newValue) with
  | mk r w' t =>
    cases r with
    | ok a =>
      rw [Outcome.bind_ok, announceRegistered_outcome, Outcome.after_mk, Outcome.after_mk,
        valueResult_uncaught]
      simp [Except.isOk, Except.toBool]
    | error e =>
      rw [Outcome.bind_error, Outcome.after_mk]
      cases he : what e with
      | none =>
        rw [Outcome.catching_passed he]
        simp [Except.isOk, Except.toBool]
      | some text =>
        rw [Outcome.catching_handled he]
        simp [Except.isOk, Except.toBool]

/-- A new value is stored and acted upon. If the notify callback does not throw, it is then
announced. -/
theorem setValue_outcome (out : Outside) (d : Nat) (newValue : List UInt8) (w : World) :
    setValue out.environment d newValue w =
      let carried := carryOut out.environment ((w.descriptors d).request newValue)
        (w.setDescriptorValue d newValue)
      let trace := [.acquire (.descriptorValueMutex d), .release (.descriptorValueMutex d)] ++
        carried.trace
      if out.interrupts w d newValue then ⟨out.notifyResult, carried.state, trace⟩
      else ⟨(w.descriptors d).valueResult newValue, carried.state,
        trace ++ (w.descriptors d).valueRequest out.environment newValue⟩ := by
  have hstate := carryOut_state out ((w.descriptors d).request newValue)
    (w.setDescriptorValue d newValue)
  have hresult := carryOut_result out ((w.descriptors d).request newValue)
    (w.setDescriptorValue d newValue)
  rw [setValue_eq_changes, Effect.bind_apply, changes_outcome]
  rw [World.setDescriptorValue_characteristic] at hresult
  cases hc : carryOut out.environment ((w.descriptors d).request newValue)
    (w.setDescriptorValue d newValue) with
  | mk r w' t =>
    rw [hc] at hstate hresult
    change r = _ at hresult
    change w' = _ at hstate
    rw [Outside.interrupts]
    cases hs : (w.descriptors d).request newValue == some true &&
        w.characteristic.starts out.environment with
    | false =>
      rw [hs, if_neg Bool.false_ne_true] at hresult
      rw [hresult, Outcome.bind_ok, hstate, announceRegistered_stored, Outcome.after_mk,
        Outcome.after_mk, valueResult_uncaught]
      simp
    | true =>
      rw [hs, if_pos rfl] at hresult
      cases hn : out.notifyResult with
      | ok a =>
        rw [hresult, hn, Outcome.bind_ok, hstate, announceRegistered_stored, Outcome.after_mk,
          Outcome.after_mk, valueResult_uncaught]
        simp [Except.isOk, Except.toBool]
      | error e =>
        rw [hresult, hn, Outcome.bind_error, Outcome.after_mk,
          Outcome.catching_passed (Outside.notifyResult_uncaught hn)]
        rfl

end GattDescriptor
end Ggk
