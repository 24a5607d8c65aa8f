import BluetoothLE.Gatt.Attributes

namespace Ggk
open Lib Gatt
set_option autoImplicit true

def Event.visible : Event → Bool
  | .acquire _ | .release _ => false
  | _ => true

def visible (trace : List Event) : List Event := trace.filter Event.visible

def World.attributes (w : World) : Attributes where
  path o := o.path w
  registered o := o.registered w
  supportsNotify := w.characteristic.supportsNotify
  configures d := (w.descriptors d).isCccd
  value o := o.value w
  notifying := w.characteristic.notifying

/-- A value whose size is an `int`. -/
def Short (bytes : List UInt8) : Prop := bytes.length < 2 ^ 31

/-- The outcome of a call as it is seen from outside. -/
def shown (o : Outcome Thrown World Event Unit) : Attributes.Served :=
  ⟨o.result, o.state.attributes, visible o.trace⟩

section Views
variable {w : World}

@[simp] theorem visible_append (s t : List Event) : visible (s ++ t) = visible s ++ visible t :=
  List.filter_append ..

@[simp] theorem visible_nil : visible [] = [] := rfl

@[simp] theorem visible_acquire (m : Mutex) (t : List Event) :
    visible (.acquire m :: t) = visible t := rfl

@[simp] theorem visible_release (m : Mutex) (t : List Event) :
    visible (.release m :: t) = visible t := rfl

@[simp] theorem visible_reply (r : Reply) (t : List Event) :
    visible (.reply r :: t) = .reply r :: visible t := rfl

@[simp] theorem visible_propertyChanged (path : DBusObjectPath) (interface name : String)
    (value : GVariant) (t : List Event) :
    visible (.propertyChanged path interface name value :: t) =
      .propertyChanged path interface name value :: visible t := rfl

@[simp] theorem visible_readCallback (o : GattObject) (t : List Event) :
    visible (.readCallback o :: t) = .readCallback o :: visible t := rfl

@[simp] theorem visible_writeCallback (o : GattObject) (value : List UInt8) (t : List Event) :
    visible (.writeCallback o value :: t) = .writeCallback o value :: visible t := rfl

@[simp] theorem visible_notifyTrace (out : Outside) :
    visible out.notifyTrace = out.notifyTrace := by
  rw [Outside.notifyTrace]
  split_ifs <;> rfl

theorem attributes_setNotifying (w : World) (on : Bool) :
    (w.setNotifying on).attributes = { w.attributes with notifying := on } := by
  apply Attributes.ext
  · funext o
    cases o <;> rfl
  · funext o
    cases o <;> rfl
  · rfl
  · rfl
  · funext o
    cases o <;> rfl
  · rfl

theorem attributes_assign (o : GattObject) (newValue : List UInt8) (w : World) :
    (o.assign w newValue).attributes = w.attributes.set o newValue := by
  apply Attributes.ext
  · exact funext fun o' => (GattObject.assign_stays o' o newValue w).path
  · exact funext fun o' => (GattObject.assign_stays o' o newValue w).registered
  · cases o <;> rfl
  · cases o with
    | characteristic => rfl
    | descriptor d => exact funext ((SameObjects.refl w).setDescriptorValue d newValue).isCccd
  · funext o'
    rw [Attributes.value_set]
    split_ifs with h
    · rw [← h]
      exact GattObject.value_assign_self o newValue w
    · exact (GattObject.assign_spared h newValue w).2
  · cases o <;> rfl

end Views

section Calls
variable {out : Outside} {w : World} {bytes newValue : List UInt8}

theorem Short.sized (h : Short bytes) : Sized bytes := by
  rw [Sized, Utils.toInt_of_lt h]
  exact Int.natCast_nonneg _

theorem Short.byteArrayMade (h : Short bytes) (env : Environment) :
    byteArrayMade env bytes = env.byteArrayVariant := by
  apply Bool.eq_iff_iff.2
  rw [byteArrayMade_iff, and_iff_left h.sized]

theorem Short.variant (h : Short bytes) (env : Environment) :
    gvariantFromByteArray env bytes =
      pure (if env.byteArrayVariant then some (.byteArray bytes) else none) := by
  rw [gvariantFromByteArray, Utils.gvariantFromByteArray_eq_iff.2 h]
  rfl

theorem Short.cString (h : Short bytes) : Short (cString bytes) :=
  Nat.lt_of_le_of_lt (List.takeWhile_sublist _).length_le h

theorem switches_true (out : Outside) (w : World) :
    w.attributes.switches out true = w.characteristic.starts out.environment := by
  rw [Attributes.switches, GattCharacteristic.starts, GattCharacteristic.announces]
  simp only [World.attributes, GattObject.registered, Bool.not_true, Bool.false_or]
  cases w.characteristic.notifying <;> rfl

theorem switches_false (out : Outside) (w : World) :
    w.attributes.switches out false = w.characteristic.stops out.environment := by
  rw [Attributes.switches, GattCharacteristic.stops, GattCharacteristic.announces]
  simp only [World.attributes, GattObject.registered, Bool.not_false, Bool.true_or, Bool.and_true]
  cases w.characteristic.notifying <;> rfl

theorem visible_announcement (w : World) (on : Bool) :
    visible (w.characteristic.announcement on) =
      w.attributes.signal .characteristic "Notifying" (.boolean on) := by
  rw [GattCharacteristic.announcement]
  cases h : w.characteristic.registered with
  | false =>
    have hs : w.attributes.registered .characteristic = false := h
    rw [Attributes.signal, hs]
    rfl
  | true =>
    have hs : w.attributes.registered .characteristic = true := h
    rw [Attributes.signal, hs]
    rfl

theorem shown_discard (x : Gatt Bool) (w : World) :
    shown (discard x w) = ⟨(x w).result.map fun _ => (), (x w).state.attributes,
      visible (x w).trace⟩ := by
  rw [shown, discard_result, (discard_apply x w).1, (discard_apply x w).2]

theorem shown_startNotify (out : Outside) (w : World) :
    shown (discard (GattCharacteristic.startNotify out.environment) w) =
      w.attributes.switch out (some true) := by
  rw [shown_discard, Attributes.switch, switches_true]
  cases h : w.characteristic.starts out.environment with
  | false =>
    rw [GattCharacteristic.startNotify_idle h]
    rfl
  | true =>
    rw [GattCharacteristic.startNotify_started h]
    simp only [attributes_setNotifying, List.cons_append, visible_acquire, visible_append,
      visible_announcement, visible_notifyTrace, visible_release, visible_nil, List.append_nil]
    cases out.notifyResult <;> rfl

theorem shown_stopNotify (out : Outside) (w : World) :
    shown (discard (GattCharacteristic.stopNotify out.environment) w) =
      w.attributes.switch out (some false) := by
  rw [shown_discard, Attributes.switch, switches_false]
  cases h : w.characteristic.stops out.environment with
  | false =>
    rw [GattCharacteristic.stopNotify_idle h]
    rfl
  | true =>
    rw [GattCharacteristic.stopNotify_stopped h]
    simp only [attributes_setNotifying, List.cons_append, visible_acquire, visible_append,
      visible_announcement, visible_release, visible_nil]
    rfl

theorem shown_carryOut (out : Outside) (asked : Option Bool) (w : World) :
    shown (GattDescriptor.carryOut out.environment asked w) = w.attributes.switch out asked := by
  rcases asked with _ | _ | _
  · rfl
  · exact shown_stopNotify out w
  · exact shown_startNotify out w

theorem shown_setCharacteristicValue (h : Short newValue) (out : Outside) (w : World) :
    shown (GattCharacteristic.setValue out.environment newValue w) =
      w.attributes.updateCharacteristic out newValue := by
  have hassign : (w.setCharacteristicValue newValue).attributes =
    w.attributes.set .characteristic newValue := attributes_assign .characteristic newValue w
  have hv := h.variant out.environment
  have hregistered : w.attributes.registered .characteristic = w.characteristic.registered := rfl
  have hnotifying : w.attributes.notifying = w.characteristic.notifying := rfl
  rw [Attributes.updateCharacteristic, Attributes.announce, Attributes.signal, hregistered,
    hnotifying]
  cases hr : w.characteristic.registered with
  | false =>
    rw [GattCharacteristic.setValue_unregistered _ _ hr, shown, hassign]
    simp
  | true =>
    have hmade : out.environment.byteArrayVariant = out.byteArrayVariant := rfl
    rw [hmade] at hv
    cases hb : out.byteArrayVariant with
    | false =>
      rw [hb] at hv
      have hs : GattCharacteristic.setValue out.environment newValue w =
          ⟨.ok (), w.setCharacteristicValue newValue,
            [.acquire .valueMutex, .release .valueMutex]⟩ := by
        simp [GattCharacteristic.setValue, GattCharacteristic.announceValue, withLock, catchStd,
          hr, hv]
      rw [hs, shown, hassign]
      simp
    | true =>
      rw [hb] at hv
      cases hn : w.characteristic.notifying with
      | false =>
        rw [GattCharacteristic.setValue_idle hr hv hn, shown, hassign]
        rfl
      | true =>
        rw [GattCharacteristic.setValue_notified hr hv hn, shown, hassign]
        cases out.notifyResult <;> simp [Except.isOk, Except.toBool,
          GattCharacteristic.valueAnnouncement, World.attributes, GattObject.path,
          GattObject.interface]

theorem valueResult_short (h : Short newValue) (descriptor : GattDescriptor) :
    descriptor.valueResult newValue = .ok () :=
  if_neg fun hs => hs.2 h.sized

theorem visible_valueRequest (h : Short newValue) (out : Outside) (d : Nat) (w : World) :
    visible ((w.descriptors d).valueRequest out.environment newValue) =
      w.attributes.announce out (.descriptor d) newValue := by
  have hmade : byteArrayMade out.environment newValue = out.byteArrayVariant :=
    h.byteArrayMade out.environment
  rw [GattDescriptor.valueRequest, hmade, (variantBytes_eq_iff h.sized).2 h, Attributes.announce,
    Attributes.signal]
  have hregistered : w.attributes.registered (.descriptor d) = (w.descriptors d).registered := rfl
  rw [hregistered]
  cases (w.descriptors d).registered with
  | false => cases out.byteArrayVariant <;> rfl
  | true => cases out.byteArrayVariant <;> rfl

theorem shown_setDescriptorValue (h : Short newValue) (out : Outside) (d : Nat) (w : World) :
    shown (GattDescriptor.setValue out.environment d newValue w) =
      w.attributes.updateDescriptor out d newValue := by
  have hrequest : (w.descriptors d).request newValue =
      if w.attributes.configures d then GattDescriptor.requested newValue else none := rfl
  have hcarried := shown_carryOut out ((w.descriptors d).request newValue)
    (w.setDescriptorValue d newValue)
  have hassign : (w.setDescriptorValue d newValue).attributes =
    w.attributes.set (.descriptor d) newValue := attributes_assign (.descriptor d) newValue w
  have hresult := GattDescriptor.carryOut_result out ((w.descriptors d).request newValue)
    (w.setDescriptorValue d newValue)
  rw [World.setDescriptorValue_characteristic] at hresult
  rw [GattDescriptor.setValue_outcome, Attributes.updateDescriptor, ← hrequest, ← hassign,
    ← hcarried, Outside.interrupts, valueResult_short h]
  cases hs : (w.descriptors d).request newValue == some true &&
      w.characteristic.starts out.environment with
  | false =>
    rw [hs, if_neg Bool.false_ne_true] at hresult
    simp [shown, hresult, visible_valueRequest h, Except.isOk, Except.toBool]
  | true =>
    rw [hs, if_pos rfl] at hresult
    cases hn : out.notifyResult with
    | ok a =>
      rw [hn] at hresult
      simp [shown, hresult, visible_valueRequest h, Except.isOk, Except.toBool]
    | error e =>
      rw [hn] at hresult
      simp [shown, hresult, Except.isOk, Except.toBool]

theorem shown_setValue (h : Short newValue) (out : Outside) (o : GattObject) (w : World) :
    shown (o.setValue out.environment newValue w) = w.attributes.update out newValue o := by
  cases o with
  | characteristic => exact shown_setCharacteristicValue h out w
  | descriptor d => exact shown_setDescriptorValue h out d w

theorem shown_store (h : Short newValue) (out : Outside) (o : GattObject) (w : World) :
    shown (o.store out.environment newValue w) = w.attributes.store out newValue o := by
  cases o with
  | characteristic =>
    have hassign : (w.setCharacteristicValue newValue).attributes =
      w.attributes.set .characteristic newValue := attributes_assign .characteristic newValue w
    rw [Attributes.store, ← hassign]
    rfl
  | descriptor d => exact shown_setDescriptorValue h out d w

/-- A handler, with the reply that GDBus's handler makes to an exception of it. -/
def dispatched (x : Gatt Unit) : Gatt Unit :=
  Effect.catching DBusConnection.escaped x fun what =>
    reply (.error (.domain DBusError.errorFailed) (DBusConnection.internalError what))

theorem shown_dispatched_ok {x : Gatt Unit} (h : x w = ⟨.ok (), w', t⟩) :
    shown (dispatched x w) = ⟨.ok (), w'.attributes, visible t⟩ := by
  rw [dispatched, Effect.catching_apply, h]
  rfl

theorem shown_dispatched_other {x : Gatt Unit} (h : x w = ⟨.error .other, w', t⟩) :
    shown (dispatched x w) = ⟨.ok (), w'.attributes, visible t ++ [.reply failure]⟩ := by
  rw [dispatched, Effect.catching_apply, h,
    Outcome.catching_handled (b := none) (by rfl), shown]
  simp [reply, failure]

theorem answer_apply (h : Short value) (out : Outside) (w : World) :
    answer out.environment value w = ⟨.ok (), w, [.reply (Attributes.readReply out value)]⟩ := by
  rw [answer, h.variant, Attributes.readReply]
  cases hb : out.byteArrayVariant <;> simp [Outside.environment, hb, reply]

theorem shown_readValue (ho : out.Returns) (hs : Short (o.value w))
    (hr : ∀ value, out.readCallback o = some (.ok value) → Short value)
    (hi : call.invocation = true) :
    shown (dispatched (Gatt.handleReadValue out.environment o call) w) =
      w.attributes.read out o := by
  have hvalue : w.attributes.value o = o.value w := rfl
  rw [Attributes.read, hvalue]
  rcases h : out.readCallback o with _ | e | value
  · have hnone : out.environment.readCallback o = none := by simp [Outside.environment, h]
    have hl := Outside.readLocked_stored hnone w
    have hx : Gatt.handleReadValue out.environment o call w = ⟨.ok (), w,
        [.acquire o.callbackMutex, .acquire o.valueMutex, .release o.valueMutex,
          .release o.callbackMutex, .reply (Attributes.readReply out (o.value w))]⟩ := by
      simp [Gatt.handleReadValue, catchStd, withLock, hi, hl, answer_apply hs]
    exact shown_dispatched_ok hx
  · have hl := Outside.readLocked_callback h w
    cases e with
    | stdException what =>
      have hx : Gatt.handleReadValue out.environment o call w = ⟨.ok (), w,
          [.acquire o.callbackMutex, .readCallback o, .reply (.error .failed what),
            .release o.callbackMutex]⟩ := by
        simp [Gatt.handleReadValue, catchStd, withLock, hi, hl, Outside.readVerdict,
          Outside.readTrace]
      exact shown_dispatched_ok hx
    | other =>
      have hx : Gatt.handleReadValue out.environment o call w = ⟨.error .other, w,
          [.acquire o.callbackMutex, .readCallback o, .release o.callbackMutex]⟩ := by
        simp [Gatt.handleReadValue, catchStd, withLock, hi, hl, Outside.readVerdict,
          Outside.readTrace, Outcome.catching, what]
      exact shown_dispatched_other hx
    | undefined => exact absurd h (ho.read o)
  · have hl := Outside.readLocked_callback h w
    have hx : Gatt.handleReadValue out.environment o call w = ⟨.ok (), w,
        [.acquire o.callbackMutex, .readCallback o, .release o.callbackMutex,
          .reply (Attributes.readReply out value)]⟩ := by
      simp [Gatt.handleReadValue, catchStd, withLock, hi, hl, Outside.readVerdict,
        Outside.readTrace, answer_apply (hr value h)]
    exact shown_dispatched_ok hx

theorem Outside.Returns.notifyResult_cases (ho : out.Returns) :
    out.notifyResult = .ok () ∨ out.notifyResult = .error .other := by
  cases h : out.notifyResult with
  | ok a => exact .inl rfl
  | error e =>
    cases e with
    | stdException what => cases Outside.notifyResult_uncaught h
    | other => exact .inr rfl
    | undefined => exact absurd h ho.notifyResult

theorem result_switch (ho : out.Returns) (a : Attributes) (asked : Option Bool) :
    (a.switch out asked).result = .ok () ∨ (a.switch out asked).result = .error .other := by
  rcases asked with _ | _ | _
  · exact .inl rfl
  · rw [Attributes.switch]
    cases a.switches out false <;> exact .inl rfl
  · rw [Attributes.switch]
    cases a.switches out true with
    | false => exact .inl rfl
    | true => exact ho.notifyResult_cases

theorem result_store (ho : out.Returns) (a : Attributes) (o : GattObject)
    (newValue : List UInt8) : (a.store out newValue o).result = .ok () ∨
      (a.store out newValue o).result = .error .other := by
  cases o with
  | characteristic => exact .inl rfl
  | descriptor d => exact result_switch ho _ _

theorem visible_writeTrace (out : Outside) (o : GattObject) (newValue : List UInt8) :
    visible (out.writeTrace o newValue) = out.writeTrace o newValue := by
  rw [Outside.writeTrace]
  cases out.writeCallback o with
  | none => rfl
  | some f => cases h : f newValue with
    | ok b => simp only [h]; rfl
    | error e => cases e <;> simp only [h] <;> rfl

/-- An accepted value is stored and answered. -/
theorem shown_accepted (ho : out.Returns) (h : Short newValue)
    (hd : decoded call = some newValue) (hv : out.writeVerdict o newValue = .ok (some true)) :
    shown (dispatched (Gatt.handleWriteValue out.environment o (o.store out.environment) call) w) =
      (Attributes.answered (fun _ => .value none) (w.attributes.store out newValue o)).after
        (out.writeTrace o newValue) := by
  have hl := Outside.writeLocked_apply out o newValue w
  rw [hv] at hl
  have hx : Gatt.handleWriteValue out.environment o (o.store out.environment) call w =
      ((((o.store out.environment newValue >>= fun _ => reply (.value none)) w).catching what
        fun _ => reply (.error .invalidArgs "Invalid parameters"))).after
        (.acquire o.callbackMutex :: out.writeTrace o newValue ++ [.release o.callbackMutex]) := by
    have hlocked : (writeLocked out.environment o newValue w).result = .ok (some true) := by
      rw [hl]
    rw [handleWriteValue_eq _ _ _ hd, catchStd, Effect.catching_apply, writeDecoded_eq _ _ hlocked,
      Outcome.catching_after, hl]
  have hs := shown_store h out o w
  have hr := result_store ho w.attributes o newValue
  rw [← hs] at hr ⊢
  rw [Effect.bind_apply] at hx
  cases hstore : o.store out.environment newValue w with
  | mk r w' t =>
    rw [hstore] at hx hr
    obtain rfl | rfl := hr
    · rw [shown_dispatched_ok hx]
      simp [shown, Attributes.answered, Except.isOk, Except.toBool, visible_writeTrace, reply]
    · rw [shown_dispatched_other hx]
      simp [shown, Attributes.answered, Except.isOk, Except.toBool, visible_writeTrace,
        Outcome.catching, what]

/-- A value that is not accepted is not stored. -/
theorem handleWriteValue_verdict (hd : decoded call = some newValue)
    (hv : out.writeVerdict o newValue = verdict) (hn : verdict ≠ .ok (some true))
    (hs : ∀ what, verdict ≠ .error (.stdException what)) (store : List UInt8 → Gatt Unit)
    (w : World) : Gatt.handleWriteValue out.environment o store call w =
      ⟨verdict.map fun _ => (), w, .acquire o.callbackMutex :: out.writeTrace o newValue ++
        .release o.callbackMutex :: if verdict matches .ok (some _) then
          [.reply (.error .failed "Write operation failed")] else []⟩ := by
  have hl := Outside.writeLocked_apply out o newValue w
  rw [hv] at hl
  rw [handleWriteValue_eq _ _ _ hd, catchStd, Effect.catching_apply]
  rcases verdict with e | _ | _ | _
  · cases e with
    | stdException what => exact absurd rfl (hs what)
    | other => simp [writeDecoded, withLock, hl, Outcome.catching, what, Except.map]
    | undefined => simp [writeDecoded, withLock, hl, Outcome.catching, what, Except.map]
  · simp [writeDecoded, withLock, hl, Except.map]
  · simp [writeDecoded, withLock, hl, reply, Except.map]
  · exact absurd rfl hn

theorem shown_writeValue (ho : out.Returns) (hb : Short bytes) (hi : call.invocation = true)
    (hp : call.parameters = some (.byteArray bytes)) :
    shown (dispatched (Gatt.handleWriteValue out.environment o (o.store out.environment) call)
      w) = w.attributes.write out o (cString bytes) := by
  have hd : decoded call = some (cString bytes) := by simp [decoded, hi, hp]
  have hshort := hb.cString
  rw [Attributes.write]
  cases hc : out.writeCallback o with
  | none =>
    have hv : out.writeVerdict o (cString bytes) = .ok (some true) := by
      simp only [Outside.writeVerdict, hc]
    rw [shown_accepted ho hshort hd hv]
    simp [Outside.writeTrace, hc, Outcome.after]
  | some f =>
    rcases hf : f (cString bytes) with e | _ | _
    · cases e with
      | stdException what =>
        have hv : out.writeVerdict o (cString bytes) = .ok none := by
          simp only [Outside.writeVerdict, hc, hf]
        rw [shown_dispatched_ok (handleWriteValue_verdict hd hv (by simp) (by simp) _ w)]
        simp [Outside.writeTrace, hc, hf]
      | other =>
        have hv : out.writeVerdict o (cString bytes) = .error .other := by
          simp only [Outside.writeVerdict, hc, hf]
        rw [shown_dispatched_other (handleWriteValue_verdict hd hv (by simp) (by simp) _ w)]
        simp [Outside.writeTrace, hc, hf]
      | undefined => exact absurd hf (ho.write o f _ hc)
    · have hv : out.writeVerdict o (cString bytes) = .ok (some false) := by
        simp only [Outside.writeVerdict, hc, hf]
      rw [shown_dispatched_ok (handleWriteValue_verdict hd hv (by simp) (by simp) _ w)]
      simp [Outside.writeTrace, hc, hf]
    · have hv : out.writeVerdict o (cString bytes) = .ok (some true) := by
        simp only [Outside.writeVerdict, hc, hf]
      rw [shown_accepted ho hshort hd hv]
      simp [Outside.writeTrace, hc, hf]

theorem shown_handleStartNotify (ho : out.Returns) (hi : call.invocation = true) (w : World) :
    shown (dispatched (GattCharacteristic.handleStartNotify out.environment call) w) =
      w.attributes.serve out .subscribe := by
  rw [Attributes.serve, ← shown_startNotify, shown_discard]
  have hhandler (w' : World) (t : List Event) (b : Bool)
      (h : GattCharacteristic.startNotify out.environment w = ⟨.ok b, w', t⟩) :
      GattCharacteristic.handleStartNotify out.environment call w = ⟨.ok (), w',
        t ++ [.reply (if b then .value none
          else .error .notSupported "Notifications not supported")]⟩ := by
    cases b <;> simp [GattCharacteristic.handleStartNotify, hi, h, reply]
  cases h : w.characteristic.starts out.environment with
  | false =>
    have hs := GattCharacteristic.startNotify_idle h
    rw [shown_dispatched_ok (hhandler _ _ _ hs), hs]
    rfl
  | true =>
    have hs := GattCharacteristic.startNotify_started h
    obtain hn | hn := ho.notifyResult_cases
    · rw [hn] at hs
      rw [shown_dispatched_ok (hhandler _ _ _ hs), hs, visible_append]
      rfl
    · rw [hn] at hs
      have hx : GattCharacteristic.handleStartNotify out.environment call w =
          ⟨.error .other, w.setNotifying true,
            .acquire .notifyMutex :: w.characteristic.announcement true ++
              .acquire .callbackMutex :: out.notifyTrace ++
                [.release .callbackMutex, .release .notifyMutex]⟩ := by
        simp [GattCharacteristic.handleStartNotify, hi, hs, Except.map]
      rw [shown_dispatched_other hx, hs]
      rfl

theorem shown_handleStopNotify (hi : call.invocation = true) (w : World) :
    shown (dispatched (GattCharacteristic.handleStopNotify out.environment call) w) =
      w.attributes.serve out .unsubscribe := by
  rw [Attributes.serve, ← shown_stopNotify, shown_discard]
  have hhandler (w' : World) (t : List Event) (b : Bool)
      (h : GattCharacteristic.stopNotify out.environment w = ⟨.ok (!b), w', t⟩) :
      GattCharacteristic.handleStopNotify out.environment call w = ⟨.ok (), w',
        t ++ [.reply (if b then .error .failed "Failed to stop notifications"
          else .value none)]⟩ := by
    cases b <;> simp [GattCharacteristic.handleStopNotify, hi, h, reply]
  cases h : w.characteristic.stops out.environment with
  | false =>
    have hs := GattCharacteristic.stopNotify_idle h
    rw [shown_dispatched_ok (hhandler _ _ _ hs), hs]
    rfl
  | true =>
    have hs := GattCharacteristic.stopNotify_stopped h
    rw [shown_dispatched_ok (hhandler _ _ false hs), hs, visible_append]
    rfl

theorem shown_handleGetManagedObjects (hd : dict ≠ .error .undefined)
    (hi : call.invocation = true) (w : World) :
    shown (dispatched (GattApplication.handleGetManagedObjects dict call) w) =
      w.attributes.serve out (.answer (match dict with
        | .ok none => .error .failed "Failed to create response"
        | .ok (some result) => .value (some (.managedObjects result))
        | .error (.stdException what) => .error .failed what
        | .error _ => failure)) := by
  rw [GattApplication.handleGetManagedObjects, if_pos hi]
  rcases dict with e | _ | result
  · cases e with
    | undefined => exact absurd rfl hd
    | _ => rfl
  · rfl
  · rfl

end Calls

end Ggk
