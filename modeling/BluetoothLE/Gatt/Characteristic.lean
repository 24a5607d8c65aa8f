import BluetoothLE.Gatt.Handlers

namespace Ggk
open Lib Gatt
set_option autoImplicit true

namespace GattCharacteristic

def supportsNotify (c : GattCharacteristic) : Bool :=
  c.properties &&& GattProperty.propNotify != 0 || c.properties &&& GattProperty.propIndicate != 0

def isNotifying : Gatt Bool :=
  withLock .notifyMutex do return (← Effect.get).characteristic.notifying

def getValue : Gatt (List UInt8) :=
  withLock .valueMutex do return (← Effect.get).characteristic.value

/-- The signals of a new value, sent with the value lock held. -/
def announceValue (env : Environment) : Gatt Unit := do
  let c := (← Effect.get).characteristic
  match ← gvariantFromByteArray env c.value with
  | none => pure ()
  | some valueVariant =>
    if ← withLock .notifyMutex do return (← Effect.get).characteristic.notifying then
      withLock .callbackMutex (runNotifyCallback env)
    emitPropertyChanged c.path c.registered BlueZConstants.gattCharacteristicInterface "Value"
      valueVariant

def setValue (env : Environment) (newValue : List UInt8) : Gatt Unit :=
  catchStd (withLock .valueMutex do
    Effect.modify fun w => w.setCharacteristicValue newValue
    if (← Effect.get).characteristic.registered then announceValue env) fun _ => pure ()

/-- The change of the flag is announced, or taken back when there is no variant for it. -/
def announceNotifying (env : Environment) (notifying : Bool) : Gatt Bool := do
  Effect.modify fun w => w.setNotifying notifying
  let c := (← Effect.get).characteristic
  if c.registered then
    match ← gvariantFromBoolean env notifying with
    | none =>
      Effect.modify fun w => w.setNotifying (!notifying)
      return false
    | some valueVariant =>
      emitPropertyChanged c.path c.registered BlueZConstants.gattCharacteristicInterface
        "Notifying" valueVariant
      return true
  else return true

def startNotify (env : Environment) : Gatt Bool :=
  withLock .notifyMutex do
    let c := (← Effect.get).characteristic
    if c.notifying then return true
    else if !c.supportsNotify then return false
    else if ← announceNotifying env true then
      withLock .callbackMutex (runNotifyCallback env)
      return true
    else return false

def stopNotify (env : Environment) : Gatt Bool :=
  withLock .notifyMutex do
    let c := (← Effect.get).characteristic
    if !c.notifying then return true else announceNotifying env false

def handleReadValue (env : Environment) (call : DBusMethodCall) : Gatt Unit :=
  Gatt.handleReadValue env .characteristic call

def handleWriteValue (env : Environment) (call : DBusMethodCall) : Gatt Unit :=
  Gatt.handleWriteValue env .characteristic
    (fun newValue =>
      withLock .valueMutex (Effect.modify fun w => w.setCharacteristicValue newValue)) call

def handleStartNotify (env : Environment) (call : DBusMethodCall) : Gatt Unit :=
  if call.invocation then do
    if ← startNotify env then reply (.value none)
    else reply (.error .notSupported "Notifications not supported")
  else pure ()

def handleStopNotify (env : Environment) (call : DBusMethodCall) : Gatt Unit :=
  if call.invocation then do
    if ← stopNotify env then reply (.value none)
    else reply (.error .failed "Failed to stop notifications")
  else pure ()

variable {w : World} {env : Environment} {out : Outside}

theorem setValue_unregistered (env : Environment) (newValue : List UInt8)
    (hr : w.characteristic.registered = false) :
    setValue env newValue w = ⟨.ok (), w.setCharacteristicValue newValue,
      [.acquire .valueMutex, .release .valueMutex]⟩ := by
  simp [setValue, withLock, catchStd, hr]

theorem setValue_not_made (hr : w.characteristic.registered = true)
    (hm : byteArrayMade env newValue = false) :
    ∃ r, setValue env newValue w =
      ⟨r, w.setCharacteristicValue newValue, [.acquire .valueMutex, .release .valueMutex]⟩ := by
  rcases gvariantFromByteArray_not_made hm with hg | hg <;>
    simp [setValue, withLock, catchStd, announceValue, hr, hg, Outcome.catching, what]

theorem setValue_undefined (hr : w.characteristic.registered = true)
    (h : Utils.gvariantFromByteArray newValue (Utils.toInt newValue.length) = none) :
    (setValue env newValue w).result = .error .undefined := by
  have hg : gvariantFromByteArray env newValue = Effect.throw .undefined := by
    rw [gvariantFromByteArray, h]
    rfl
  simp [setValue, withLock, catchStd, announceValue, hr, hg, Outcome.catching, what]

def valueAnnouncement (c : GattCharacteristic) (valueVariant : GVariant) : Event :=
  .propertyChanged c.path BlueZConstants.gattCharacteristicInterface "Value" valueVariant

theorem setValue_idle (hr : w.characteristic.registered = true)
    (hg : gvariantFromByteArray env newValue = pure (some valueVariant))
    (hn : w.characteristic.notifying = false) :
    setValue env newValue w =
      ⟨.ok (), w.setCharacteristicValue newValue,
        [.acquire .valueMutex, .acquire .notifyMutex, .release .notifyMutex,
          valueAnnouncement w.characteristic valueVariant, .release .valueMutex]⟩ := by
  simp [setValue, withLock, catchStd, announceValue, emitPropertyChanged, valueAnnouncement, hr,
    hg, hn]

/-- The value is announced after the notify callback, unless this throws. -/
theorem setValue_notifies (hr : w.characteristic.registered = true)
    (hg : gvariantFromByteArray env newValue = pure (some valueVariant))
    (hn : w.characteristic.notifying = true) :
    setValue env newValue w =
      let called := runNotifyCallback env (w.setCharacteristicValue newValue)
      ⟨called.result, called.state,
        [.acquire .valueMutex, .acquire .notifyMutex, .release .notifyMutex,
          .acquire .callbackMutex] ++ called.trace ++ .release .callbackMutex ::
          (if called.result.isOk then [valueAnnouncement w.characteristic valueVariant] else [])
            ++ [.release .valueMutex]⟩ := by
  have hu := @runNotifyCallback_uncaught env (w.setCharacteristicValue newValue)
  cases hc : runNotifyCallback env (w.setCharacteristicValue newValue) with
  | mk r w' t =>
    rw [hc] at hu
    cases r with
    | ok a =>
      simp [setValue, withLock, catchStd, announceValue, emitPropertyChanged, valueAnnouncement,
        hr, hg, hn, hc, Except.isOk, Except.toBool]
    | error e =>
      simp [setValue, withLock, catchStd, announceValue, hr, hg, hn, hc, Except.isOk,
        Except.toBool, Outcome.catching_passed (hu rfl)]

theorem setValue_notified (hr : w.characteristic.registered = true)
    (hg : gvariantFromByteArray out.environment newValue = pure (some valueVariant))
    (hn : w.characteristic.notifying = true) :
    setValue out.environment newValue w =
      ⟨out.notifyResult, w.setCharacteristicValue newValue,
        [.acquire .valueMutex, .acquire .notifyMutex, .release .notifyMutex,
          .acquire .callbackMutex] ++ out.notifyTrace ++ .release .callbackMutex ::
          (if out.notifyResult.isOk then [valueAnnouncement w.characteristic valueVariant] else [])
            ++ [.release .valueMutex]⟩ := by
  rw [setValue_notifies hr hg hn, Outside.runNotifyCallback_apply]

/-- The value is stored, whatever becomes of the announcement. -/
theorem setValue_state_cases (env : Environment) (newValue : List UInt8) (w : World) :
    (setValue env newValue w).state = w.setCharacteristicValue newValue ∨
      (setValue env newValue w).state =
        (runNotifyCallback env (w.setCharacteristicValue newValue)).state := by
  cases hr : w.characteristic.registered with
  | false => exact .inl (by rw [setValue_unregistered env newValue hr])
  | true =>
    cases hm : byteArrayMade env newValue with
    | false =>
      obtain ⟨r, h⟩ := setValue_not_made hr hm
      exact .inl (by rw [h])
    | true =>
      obtain ⟨v, hv⟩ := gvariantFromByteArray_made hm
      cases hn : w.characteristic.notifying with
      | false => exact .inl (by rw [setValue_idle hr hv hn])
      | true => exact .inr (by rw [setValue_notifies hr hv hn])

def announcement (c : GattCharacteristic) (notifying : Bool) : List Event :=
  if c.registered then
    [.propertyChanged c.path BlueZConstants.gattCharacteristicInterface "Notifying"
      (.boolean notifying)]
  else []

theorem announcement_internal (c : GattCharacteristic) (notifying : Bool) :
    ∀ e ∈ announcement c notifying, e.Internal := by
  rw [announcement]
  cases c.registered <;> simp [Event.Internal]

/-- Whether the announcement of a changed flag succeeds, as far as it is needed. -/
def announces (env : Environment) (c : GattCharacteristic) : Bool :=
  !c.registered || env.booleanVariant

def starts (env : Environment) (c : GattCharacteristic) : Bool :=
  !c.notifying && c.supportsNotify && c.announces env

def stops (env : Environment) (c : GattCharacteristic) : Bool :=
  c.notifying && c.announces env

theorem starts_iff : starts env c = true ↔
    c.notifying = false ∧ c.supportsNotify = true ∧ c.announces env = true := by
  rw [starts, Bool.and_eq_true, Bool.and_eq_true, Bool.not_eq_true', and_assoc]

theorem stops_iff : stops env c = true ↔ c.notifying = true ∧ c.announces env = true := by
  rw [stops, Bool.and_eq_true]

theorem announceNotifying_refused (h : w.characteristic.announces env = false) :
    announceNotifying env b w = ⟨.ok false, w.setNotifying (!b), []⟩ := by
  simp only [announces, Bool.or_eq_false_iff, Bool.not_eq_false'] at h
  simp [announceNotifying, gvariantFromBoolean, h.1, h.2]

theorem announceNotifying_done (h : w.characteristic.announces env = true) :
    announceNotifying env b w =
      ⟨.ok true, w.setNotifying b, announcement w.characteristic b⟩ := by
  cases hr : w.characteristic.registered with
  | false => simp [announceNotifying, announcement, hr]
  | true =>
    simp only [announces, hr, Bool.not_true, Bool.false_or] at h
    simp [announceNotifying, announcement, gvariantFromBoolean, emitPropertyChanged, hr, h]

theorem startNotify_idle (h : w.characteristic.starts env = false) :
    startNotify env w = ⟨.ok w.characteristic.notifying, w,
      [.acquire .notifyMutex, .release .notifyMutex]⟩ := by
  cases hn : w.characteristic.notifying with
  | true => simp [startNotify, withLock, hn]
  | false =>
    cases hs : w.characteristic.supportsNotify with
    | false => simp [startNotify, withLock, hn, hs]
    | true =>
      simp only [starts, hn, hs, Bool.not_false, Bool.true_and] at h
      simp [startNotify, withLock, hn, hs, announceNotifying_refused h, World.setNotifying_self hn]

theorem startNotify_starts (h : w.characteristic.starts env = true) :
    startNotify env w =
      let called := runNotifyCallback env (w.setNotifying true)
      ⟨called.result.map fun _ => true, called.state,
        .acquire .notifyMutex :: announcement w.characteristic true ++
          .acquire .callbackMutex :: called.trace ++
            [.release .callbackMutex, .release .notifyMutex]⟩ := by
  obtain ⟨hn, hs, ha⟩ := starts_iff.1 h
  cases hc : runNotifyCallback env (w.setNotifying true) with
  | mk r w' t =>
    cases r <;> simp [startNotify, withLock, hn, hs, announceNotifying_done ha, hc, Except.map]

theorem startNotify_started (h : w.characteristic.starts out.environment = true) :
    startNotify out.environment w =
      ⟨out.notifyResult.map fun _ => true, w.setNotifying true,
        .acquire .notifyMutex :: announcement w.characteristic true ++
          .acquire .callbackMutex :: out.notifyTrace ++
            [.release .callbackMutex, .release .notifyMutex]⟩ := by
  rw [startNotify_starts h, Outside.runNotifyCallback_apply]

theorem stopNotify_idle (h : w.characteristic.stops env = false) :
    stopNotify env w = ⟨.ok !w.characteristic.notifying, w,
      [.acquire .notifyMutex, .release .notifyMutex]⟩ := by
  cases hn : w.characteristic.notifying with
  | false => simp [stopNotify, withLock, hn]
  | true =>
    simp only [stops, hn, Bool.true_and] at h
    simp [stopNotify, withLock, hn, announceNotifying_refused h, World.setNotifying_self hn]

theorem stopNotify_stopped (h : w.characteristic.stops env = true) :
    stopNotify env w =
      ⟨.ok true, w.setNotifying false, .acquire .notifyMutex ::
        announcement w.characteristic false ++ [.release .notifyMutex]⟩ := by
  obtain ⟨hn, ha⟩ := stops_iff.1 h
  simp [stopNotify, withLock, hn, announceNotifying_done ha]

theorem startNotify_state (out : Outside) (w : World) :
    (startNotify out.environment w).state =
      w.setNotifying (w.characteristic.notifying || w.characteristic.starts out.environment) := by
  cases h : w.characteristic.starts out.environment with
  | false => rw [startNotify_idle h, Bool.or_false, World.setNotifying_self rfl]
  | true => rw [startNotify_started h, Bool.or_true]

theorem stopNotify_state (env : Environment) (w : World) :
    (stopNotify env w).state =
      w.setNotifying (w.characteristic.notifying && !w.characteristic.stops env) := by
  cases h : w.characteristic.stops env with
  | false => rw [stopNotify_idle h, Bool.not_false, Bool.and_true, World.setNotifying_self rfl]
  | true => rw [stopNotify_stopped h, Bool.not_true, Bool.and_false]

theorem startNotify_result (out : Outside) (w : World) :
    (startNotify out.environment w).result =
      if w.characteristic.starts out.environment then out.notifyResult.map fun _ => true
      else .ok w.characteristic.notifying := by
  cases h : w.characteristic.starts out.environment with
  | false => rw [startNotify_idle h]; rfl
  | true => rw [startNotify_started h]; rfl

theorem stopNotify_result (env : Environment) (w : World) :
    (stopNotify env w).result =
      .ok (!w.characteristic.notifying || w.characteristic.stops env) := by
  cases h : w.characteristic.stops env with
  | false => rw [stopNotify_idle h, Bool.or_false]
  | true => rw [stopNotify_stopped h, Bool.or_true]

theorem startNotify_internal (out : Outside) (w : World) :
    ∀ e ∈ (startNotify out.environment w).trace, e.Internal := by
  cases h : w.characteristic.starts out.environment with
  | false => rw [startNotify_idle h]; simp [Event.Internal]
  | true =>
    rw [startNotify_started h]
    have hc := announcement_internal w.characteristic true
    have hn := out.notifyTrace_internal
    simp only [List.cons_append, List.forall_mem_cons, List.forall_mem_append]
    exact ⟨trivial, ⟨hc, trivial, hn⟩, trivial, trivial, List.forall_mem_nil _⟩

theorem stopNotify_internal (env : Environment) (w : World) :
    ∀ e ∈ (stopNotify env w).trace, e.Internal := by
  cases h : w.characteristic.stops env with
  | false => rw [stopNotify_idle h]; simp [Event.Internal]
  | true =>
    rw [stopNotify_stopped h]
    have hc := announcement_internal w.characteristic false
    simp only [List.cons_append, List.forall_mem_cons, List.forall_mem_append]
    exact ⟨trivial, hc, trivial, List.forall_mem_nil _⟩

theorem handleStartNotify_state (env : Environment) (hi : call.invocation = true) (w : World) :
    (handleStartNotify env call w).state = (startNotify env w).state := by
  rw [handleStartNotify, if_pos hi]
  refine (Effect.bind_emits (P := Event.IsReply) (fun started => ?_) w).1
  cases started with
  | false => exact reply_emits _
  | true => exact reply_emits _

theorem handleStopNotify_state (env : Environment) (hi : call.invocation = true) (w : World) :
    (handleStopNotify env call w).state = (stopNotify env w).state := by
  rw [handleStopNotify, if_pos hi]
  refine (Effect.bind_emits (P := Event.IsReply) (fun stopped => ?_) w).1
  cases stopped with
  | false => exact reply_emits _
  | true => exact reply_emits _

end GattCharacteristic
end Ggk
