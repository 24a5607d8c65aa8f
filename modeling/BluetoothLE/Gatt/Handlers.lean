import BluetoothLE.Gatt.Objects

namespace Ggk
open Lib
set_option autoImplicit true

def Event.IsSignal (e : Event) : Prop :=
  ∃ path interface name value, e = .propertyChanged path interface name value

/-- A signal that a property of this interface has changed. -/
def Event.Announces (interface name : String) (e : Event) : Prop :=
  ∃ path value, e = .propertyChanged path interface name value

def Event.IsReply (e : Event) : Prop := ∃ r, e = .reply r

/-- Neither a callback that reads or writes nor a reply. -/
def Event.Internal : Event → Prop
  | .readCallback _ | .writeCallback _ _ | .reply _ => False
  | _ => True

theorem Event.Announces.isSignal (h : Announces interface name e) : e.IsSignal := by
  obtain ⟨path, value, rfl⟩ := h
  exact ⟨path, interface, name, value, rfl⟩

theorem Event.IsSignal.internal (h : IsSignal e) : e.Internal := by
  obtain ⟨path, interface, name, value, rfl⟩ := h
  trivial

namespace Gatt

/-- A `std::lock_guard` around a block. -/
def withLock (m : Mutex) (x : Gatt α) : Gatt α :=
  Effect.guarded (.acquire m) (.release m) x

def what : Thrown → Option String
  | .stdException what => some what
  | _ => none

/-- `catch (const std::exception& e)`. -/
def catchStd (x : Gatt α) (handler : String → Gatt α) : Gatt α :=
  Effect.catching what x handler

theorem catchStd_silent (x : Gatt α) (a : α) (w : World) :
    (catchStd x (fun _ => pure a) w).state = (x w).state ∧
      (catchStd x (fun _ => pure a) w).trace = (x w).trace := by
  obtain ⟨hs, t, ht, he⟩ := Effect.catching_emits what (x := x)
    (fun _ => Effect.Emits.pure (P := fun _ => False) a) w
  rw [catchStd, hs, he, List.eq_nil_iff_forall_not_mem.2 ht, List.append_nil]
  exact ⟨rfl, rfl⟩

theorem discard_apply (x : Gatt α) (w : World) :
    ((discard x : Gatt Unit) w).state = (x w).state ∧
      ((discard x : Gatt Unit) w).trace = (x w).trace := by
  obtain ⟨hs, t, ht, he⟩ := Effect.bind_emits (x := x) (P := fun _ => False)
    (fun _ => .pure ()) w
  rw [List.eq_nil_iff_forall_not_mem.2 ht, List.append_nil] at he
  exact ⟨hs, he⟩

theorem discard_result (x : Gatt α) (w : World) :
    ((discard x : Gatt Unit) w).result = (x w).result.map fun _ => () := by
  cases h : (x w).result with
  | ok a => exact Effect.bind_result_ok (k := fun _ => pure ()) h
  | error e => exact Effect.bind_result_error (k := fun _ => pure ()) h

def reply (r : Reply) : Gatt Unit := Effect.log (.reply r)

def defined : Option α → Gatt α
  | none => Effect.throw .undefined
  | some a => pure a

def gvariantFromByteArray (env : Environment) (bytes : List UInt8) : Gatt (Option GVariant) := do
  let pGVariant ← defined (Utils.gvariantFromByteArray bytes (Utils.toInt bytes.length))
  return if env.byteArrayVariant then some pGVariant else none

def gvariantFromBoolean (env : Environment) (b : Bool) : Gatt (Option GVariant) :=
  pure (if env.booleanVariant then some (.boolean b) else none)

def stringFromGVariantByteArray (pVariant : GVariant) : Gatt (List UInt8) :=
  defined (Utils.stringFromGVariantByteArray pVariant)

/-- The request to the connection, without the success flag that no caller looks at. What comes
of the request, which the process may not outlive, is the matter of `Event.ends`. -/
def emitPropertyChanged (path : DBusObjectPath) (registered : Bool) (interface name : String)
    (value : GVariant) : Gatt Unit :=
  if registered then Effect.log (.propertyChanged path interface name value) else pure ()

def runNotifyCallback (env : Environment) : Gatt Unit :=
  match env.notifyCallback with
  | none => pure ()
  | some notifyCallback =>
    catchStd (do Effect.log .notifyCallback; notifyCallback) fun _ => pure ()

theorem runNotifyCallback_uncaught (h : (runNotifyCallback env w).result = .error e) :
    what e = none := by
  rw [runNotifyCallback] at h
  cases hn : env.notifyCallback with
  | none =>
    rw [hn] at h
    cases h
  | some notifyCallback =>
    rw [hn] at h
    exact Effect.catching_unhandled h

/-- The part of ReadValue under the callback lock. There is no value to return when an error
has been returned already. -/
def readLocked (env : Environment) (o : GattObject) : Gatt (Option (List UInt8)) :=
  match env.readCallback o with
  | some readCallback =>
    catchStd (do Effect.log (.readCallback o); return some (← readCallback)) fun what => do
      reply (.error .failed what)
      return none
  | none =>
    withLock o.valueMutex do return some (o.value (← Effect.get))

def answer (env : Environment) (returnValue : List UInt8) : Gatt Unit := do
  match ← gvariantFromByteArray env returnValue with
  | none => reply (.error .failed "Failed to create response")
  | some resultVariant => reply (.value (some resultVariant))

/-- ReadValue, which both kinds of object implement alike. -/
def handleReadValue (env : Environment) (o : GattObject) (call : DBusMethodCall) : Gatt Unit :=
  if call.invocation then
    catchStd (do
      match ← withLock o.callbackMutex (readLocked env o) with
      | none => pure ()
      | some returnValue => answer env returnValue) fun what => reply (.error .failed what)
  else pure ()

/-- The part of WriteValue under the callback lock. There is no verdict when an error has
been returned already. -/
def writeLocked (env : Environment) (o : GattObject) (newValue : List UInt8) :
    Gatt (Option Bool) :=
  match env.writeCallback o with
  | some writeCallback =>
    catchStd (do Effect.log (.writeCallback o newValue); return some (← writeCallback newValue))
      fun what => do
        reply (.error .failed what)
        return none
  | none => return some true

def writeDecoded (env : Environment) (o : GattObject) (store : List UInt8 → Gatt Unit)
    (newValue : List UInt8) : Gatt Unit := do
  match ← withLock o.callbackMutex (writeLocked env o newValue) with
  | none => pure ()
  | some true =>
    store newValue
    reply (.value none)
  | some false => reply (.error .failed "Write operation failed")

/-- WriteValue, which the two kinds of object implement alike except for how they `store` an
accepted value. -/
def handleWriteValue (env : Environment) (o : GattObject) (store : List UInt8 → Gatt Unit)
    (call : DBusMethodCall) : Gatt Unit :=
  if call.invocation then
    match call.parameters with
    | none => reply (.error .invalidArgs "Missing parameters")
    | some parameters =>
      catchStd (do
        let newValue ← stringFromGVariantByteArray parameters
        writeDecoded env o store newValue) fun _ =>
        reply (.error .invalidArgs "Invalid parameters")
  else pure ()

def byteArrayMade (env : Environment) (bytes : List UInt8) : Bool :=
  env.byteArrayVariant && (Utils.gvariantFromByteArray bytes (Utils.toInt bytes.length)).isSome

theorem gvariantFromByteArray_made (h : byteArrayMade env bytes = true) :
    ∃ v, gvariantFromByteArray env bytes = pure (some v) := by
  rw [byteArrayMade, Bool.and_eq_true] at h
  obtain ⟨v, hv⟩ := Option.isSome_iff_exists.1 h.2
  refine ⟨v, ?_⟩
  rw [gvariantFromByteArray, hv, h.1]
  rfl

theorem gvariantFromByteArray_not_made (h : byteArrayMade env bytes = false) :
    gvariantFromByteArray env bytes = pure none ∨
      gvariantFromByteArray env bytes = Effect.throw .undefined := by
  rw [byteArrayMade] at h
  rw [gvariantFromByteArray]
  cases hv : Utils.gvariantFromByteArray bytes (Utils.toInt bytes.length) with
  | none => exact .inr rfl
  | some v =>
    rw [hv, Option.isSome_some, Bool.and_true] at h
    rw [h]
    exact .inl rfl

theorem gvariantFromByteArray_emits (env : Environment) (bytes : List UInt8) :
    Effect.Emits P (gvariantFromByteArray env bytes) := by
  refine .bind ?_ fun _ => .pure _
  cases Utils.gvariantFromByteArray bytes (Utils.toInt bytes.length) with
  | none => exact .throw _
  | some v => exact .pure v

theorem emitPropertyChanged_emits (path : DBusObjectPath) (registered : Bool)
    (interface name : String) (value : GVariant) :
    Effect.Emits (Event.Announces interface name)
      (emitPropertyChanged path registered interface name value) := by
  cases registered with
  | false => exact .pure ()
  | true => exact .log ⟨_, _, rfl⟩

end Gatt

namespace Outside
open Gatt

def notifyResult (out : Outside) : Except Thrown Unit :=
  match out.notifyCallback with
  | none => .ok ()
  | some (.ok _) => .ok ()
  | some (.error e) => if (what e).isSome then .ok () else .error e

def notifyTrace (out : Outside) : List Event :=
  if out.notifyCallback.isSome then [.notifyCallback] else []

theorem notifyTrace_internal (out : Outside) : ∀ e ∈ out.notifyTrace, e.Internal := by
  rw [notifyTrace]
  cases out.notifyCallback <;> simp [Event.Internal]

@[simp] theorem runNotifyCallback_apply (out : Outside) (w : World) :
    runNotifyCallback out.environment w = ⟨out.notifyResult, w, out.notifyTrace⟩ := by
  cases h : out.notifyCallback with
  | none => simp [runNotifyCallback, environment, notifyResult, notifyTrace, h]
  | some r =>
    cases r with
    | ok => simp [runNotifyCallback, environment, notifyResult, notifyTrace, h, catchStd, ending]
    | error e =>
      cases e <;>
        simp [runNotifyCallback, environment, notifyResult, notifyTrace, h, catchStd, ending,
          Outcome.catching, what]

theorem notifyResult_uncaught {out : Outside} (h : out.notifyResult = .error e) :
    what e = none := by
  rw [notifyResult] at h
  split at h
  · cases h
  · cases h
  · split at h
    · cases h
    · rename_i hn
      cases h
      exact Option.not_isSome_iff_eq_none.1 hn

def readVerdict : Except Thrown (List UInt8) → Except Thrown (Option (List UInt8))
  | .ok value => .ok (some value)
  | .error (.stdException _) => .ok none
  | .error e => .error e

def readTrace (o : GattObject) (r : Except Thrown (List UInt8)) : List Event :=
  .readCallback o ::
    match r with
    | .error (.stdException what) => [.reply (.error .failed what)]
    | _ => []

theorem readLocked_callback {out : Outside} (h : out.readCallback o = some r) (w : World) :
    readLocked out.environment o w = ⟨readVerdict r, w, readTrace o r⟩ := by
  rcases r with e | value
  · cases e <;>
      simp [readLocked, environment, readVerdict, readTrace, h, catchStd, ending,
        Outcome.catching, what, reply]
  · simp [readLocked, environment, readVerdict, readTrace, h, catchStd, ending]

theorem readLocked_stored {env : Environment} (h : env.readCallback o = none) (w : World) :
    readLocked env o w =
      ⟨.ok (some (o.value w)), w, [.acquire o.valueMutex, .release o.valueMutex]⟩ := by
  simp [readLocked, withLock, h]

def writeVerdict (out : Outside) (o : GattObject) (newValue : List UInt8) :
    Except Thrown (Option Bool) :=
  match out.writeCallback o with
  | none => .ok (some true)
  | some f =>
    match f newValue with
    | .ok success => .ok (some success)
    | .error (.stdException _) => .ok none
    | .error e => .error e

def accepts (out : Outside) (o : GattObject) (newValue : List UInt8) : Bool :=
  match out.writeVerdict o newValue with
  | .ok (some true) => true
  | _ => false

theorem accepts_iff {out : Outside} :
    out.accepts o newValue = true ↔ out.writeVerdict o newValue = .ok (some true) := by
  rw [accepts]
  rcases out.writeVerdict o newValue with e | _ | _ | _ <;> simp

def writeTrace (out : Outside) (o : GattObject) (newValue : List UInt8) : List Event :=
  match out.writeCallback o with
  | none => []
  | some f =>
    .writeCallback o newValue ::
      match f newValue with
      | .error (.stdException what) => [.reply (.error .failed what)]
      | _ => []

@[simp] theorem writeLocked_apply (out : Outside) (o : GattObject) (newValue : List UInt8)
    (w : World) : writeLocked out.environment o newValue w =
      ⟨out.writeVerdict o newValue, w, out.writeTrace o newValue⟩ := by
  cases h : out.writeCallback o with
  | none => simp [writeLocked, environment, writeVerdict, writeTrace, h]
  | some f =>
    rcases hf : f newValue with e | success
    · cases e <;>
        simp [writeLocked, environment, writeVerdict, writeTrace, h, hf, catchStd, ending,
          Outcome.catching, what, reply]
    · simp [writeLocked, environment, writeVerdict, writeTrace, h, hf, catchStd, ending]
end Outside

namespace Gatt
variable {w : World} {env : Environment} {out : Outside} {store : List UInt8 → Gatt Unit}

theorem reply_emits (r : Reply) : Effect.Emits Event.IsReply (reply r) := .log ⟨r, rfl⟩

theorem answer_emits (env : Environment) (returnValue : List UInt8) :
    Effect.Emits Event.IsReply (answer env returnValue) := by
  refine .bind (gvariantFromByteArray_emits env returnValue) fun v => ?_
  cases v with
  | none => exact reply_emits _
  | some v => exact reply_emits _

/-- ReadValue does what it does under the callback lock, and all that follows are replies. -/
theorem handleReadValue_apply (env : Environment) (o : GattObject) (w : World)
    (hi : call.invocation = true) :
    (handleReadValue env o call w).state = (readLocked env o w).state ∧
      ∃ replies, (∀ e ∈ replies, Event.IsReply e) ∧
        (handleReadValue env o call w).trace = .acquire o.callbackMutex ::
          (readLocked env o w).trace ++ .release o.callbackMutex :: replies := by
  obtain ⟨hs, t, ht, he⟩ := Effect.catching_emits what (x := do
    match ← withLock o.callbackMutex (readLocked env o) with
    | none => pure ()
    | some returnValue => answer env returnValue)
    (fun what => reply_emits (.error .failed what)) w
  obtain ⟨hs', t', ht', he'⟩ := Effect.bind_emits
    (x := withLock o.callbackMutex (readLocked env o)) (P := Event.IsReply)
    (k := fun r => match r with
      | none => pure ()
      | some returnValue => answer env returnValue)
    (fun r => by
      cases r with
      | none => exact .pure _
      | some returnValue => exact answer_emits _ _) w
  rw [handleReadValue, if_pos hi, catchStd, hs, he, hs', he']
  refine ⟨rfl, t' ++ t, ?_, ?_⟩
  · exact fun e h => (List.mem_append.1 h).elim (ht' e) (ht e)
  · simp [withLock]

theorem handleReadValue_stored (hi : call.invocation = true) (h : env.readCallback o = none)
    (hg : gvariantFromByteArray env (o.value w) = pure (some v)) :
    handleReadValue env o call w =
      ⟨.ok (), w, [.acquire o.callbackMutex, .acquire o.valueMutex, .release o.valueMutex,
        .release o.callbackMutex, .reply (.value (some v))]⟩ := by
  simp [handleReadValue, catchStd, withLock, hi, Outside.readLocked_stored h, answer, hg, reply]

/-- The value that a WriteValue call carries to the callback and the store. -/
def decoded (call : DBusMethodCall) : Option (List UInt8) :=
  if call.invocation then call.parameters.bind Utils.stringFromGVariantByteArray else none

theorem decoded_eq_some (h : decoded call = some newValue) :
    call.invocation = true ∧ ∃ parameters, call.parameters = some parameters ∧
      Utils.stringFromGVariantByteArray parameters = some newValue := by
  rw [decoded] at h
  split at h
  · exact ⟨by assumption, Option.bind_eq_some_iff.1 h⟩
  · cases h

theorem handleWriteValue_undecoded (env : Environment) (h : decoded call = none) :
    (handleWriteValue env o store call w).state = w ∧
      ∀ e ∈ (handleWriteValue env o store call w).trace, Event.IsReply e := by
  cases hi : call.invocation with
  | false => simp [handleWriteValue, hi]
  | true =>
    cases hp : call.parameters with
    | none => simp [handleWriteValue, hi, hp, reply, Event.IsReply]
    | some parameters =>
      have hd : Utils.stringFromGVariantByteArray parameters = none := by
        simpa [decoded, hi, hp] using h
      simp [handleWriteValue, hi, hp, stringFromGVariantByteArray, hd, defined, catchStd,
        Outcome.catching, what]

theorem handleWriteValue_eq (env : Environment) (o : GattObject)
    (store : List UInt8 → Gatt Unit) (h : decoded call = some newValue) :
    handleWriteValue env o store call = catchStd (writeDecoded env o store newValue) fun _ =>
      reply (.error .invalidArgs "Invalid parameters") := by
  obtain ⟨hi, parameters, hp, hd⟩ := decoded_eq_some h
  rw [handleWriteValue, if_pos hi, hp]
  simp only [stringFromGVariantByteArray, hd]
  rfl

theorem handleWriteValue_decoded (env : Environment) (o : GattObject)
    (store : List UInt8 → Gatt Unit) (w : World) (h : decoded call = some newValue) :
    (handleWriteValue env o store call w).state = (writeDecoded env o store newValue w).state ∧
      ∃ replies, (∀ e ∈ replies, Event.IsReply e) ∧
        (handleWriteValue env o store call w).trace =
          (writeDecoded env o store newValue w).trace ++ replies := by
  rw [handleWriteValue_eq env o store h]
  exact Effect.catching_emits _ (fun _ => reply_emits _) w

theorem writeDecoded_eq (store : List UInt8 → Gatt Unit) (w : World)
    (h : (writeLocked env o newValue w).result = .ok (some true)) :
    writeDecoded env o store newValue w =
      ((store newValue >>= fun _ => reply (.value none)) (writeLocked env o newValue w).state).after
        (.acquire o.callbackMutex :: (writeLocked env o newValue w).trace ++
          [.release o.callbackMutex]) := by
  simp only [writeDecoded, withLock, Effect.bind_apply, Effect.guarded_apply, h, Outcome.bind_ok]

/-- A write whose callback accepts it is stored after the callback lock is given back. -/
theorem writeDecoded_stored (store : List UInt8 → Gatt Unit) (w : World)
    (h : (writeLocked env o newValue w).result = .ok (some true)) :
    (writeDecoded env o store newValue w).state =
        (store newValue (writeLocked env o newValue w).state).state ∧
      ∃ replies, (∀ e ∈ replies, Event.IsReply e) ∧
        (writeDecoded env o store newValue w).trace =
          .acquire o.callbackMutex :: (writeLocked env o newValue w).trace ++
            .release o.callbackMutex ::
              (store newValue (writeLocked env o newValue w).state).trace ++ replies := by
  obtain ⟨hs, replies, hr, ht⟩ := Effect.bind_emits (x := store newValue)
    (fun _ => reply_emits (.value none)) (writeLocked env o newValue w).state
  rw [writeDecoded_eq store w h, Outcome.after_state, Outcome.after_trace, hs, ht]
  refine ⟨rfl, replies, hr, ?_⟩
  simp only [List.append_assoc, List.cons_append, List.nil_append]

theorem writeDecoded_skipped (store : List UInt8 → Gatt Unit) (w : World)
    (h : (writeLocked env o newValue w).result ≠ .ok (some true)) :
    (writeDecoded env o store newValue w).state = (writeLocked env o newValue w).state ∧
      ∃ replies, (∀ e ∈ replies, Event.IsReply e) ∧
        (writeDecoded env o store newValue w).trace =
          .acquire o.callbackMutex :: (writeLocked env o newValue w).trace ++
            .release o.callbackMutex :: replies := by
  rcases hv : (writeLocked env o newValue w).result with e | _ | _ | _
  · exact ⟨by simp [writeDecoded, withLock, hv], [], by simp, by simp [writeDecoded, withLock, hv]⟩
  · exact ⟨by simp [writeDecoded, withLock, hv], [], by simp, by simp [writeDecoded, withLock, hv]⟩
  · exact ⟨by simp [writeDecoded, withLock, hv, reply], _,
      (reply_emits (.error .failed "Write operation failed") w).2, by
        simp [writeDecoded, withLock, hv, reply]⟩
  · exact absurd hv h

section Decoded
variable (store : List UInt8 → Gatt Unit) (w : World) (hd : decoded call = some newValue)
include hd

theorem handleWriteValue_stored (h : (writeLocked env o newValue w).result = .ok (some true)) :
    (handleWriteValue env o store call w).state =
        (store newValue (writeLocked env o newValue w).state).state ∧
      ∃ replies, (∀ e ∈ replies, Event.IsReply e) ∧
        (handleWriteValue env o store call w).trace =
          .acquire o.callbackMutex :: (writeLocked env o newValue w).trace ++
            .release o.callbackMutex ::
              (store newValue (writeLocked env o newValue w).state).trace ++ replies := by
  obtain ⟨hs, replies, hr, ht⟩ := handleWriteValue_decoded env o store w hd
  obtain ⟨hs', replies', hr', ht'⟩ := writeDecoded_stored store w h
  rw [hs, hs', ht, ht', List.append_assoc]
  exact ⟨rfl, replies' ++ replies, List.forall_mem_append.2 ⟨hr', hr⟩, rfl⟩

theorem handleWriteValue_skipped (h : (writeLocked env o newValue w).result ≠ .ok (some true)) :
    (handleWriteValue env o store call w).state = (writeLocked env o newValue w).state ∧
      ∃ replies, (∀ e ∈ replies, Event.IsReply e) ∧
        (handleWriteValue env o store call w).trace =
          .acquire o.callbackMutex :: (writeLocked env o newValue w).trace ++
            .release o.callbackMutex :: replies := by
  obtain ⟨hs, replies, hr, ht⟩ := handleWriteValue_decoded env o store w hd
  obtain ⟨hs', replies', hr', ht'⟩ := writeDecoded_skipped store w h
  rw [hs, hs', ht, ht', List.append_assoc]
  exact ⟨rfl, replies' ++ replies, List.forall_mem_append.2 ⟨hr', hr⟩, rfl⟩

theorem handleWriteValue_accepted (h : out.accepts o newValue = true) :
    (handleWriteValue out.environment o store call w).state = (store newValue w).state ∧
      ∃ replies, (∀ e ∈ replies, Event.IsReply e) ∧
        (handleWriteValue out.environment o store call w).trace =
          .acquire o.callbackMutex :: out.writeTrace o newValue ++ .release o.callbackMutex ::
            (store newValue w).trace ++ replies := by
  have hv : (writeLocked out.environment o newValue w).result = .ok (some true) := by
    rw [Outside.writeLocked_apply]
    exact Outside.accepts_iff.1 h
  simpa only [Outside.writeLocked_apply] using handleWriteValue_stored store w hd hv

theorem handleWriteValue_declined (h : out.accepts o newValue = false) :
    (handleWriteValue out.environment o store call w).state = w ∧
      ∃ replies, (∀ e ∈ replies, Event.IsReply e) ∧
        (handleWriteValue out.environment o store call w).trace =
          .acquire o.callbackMutex :: out.writeTrace o newValue ++
            .release o.callbackMutex :: replies := by
  have hv : (writeLocked out.environment o newValue w).result ≠ .ok (some true) := by
    rw [Outside.writeLocked_apply]
    intro ha
    exact Bool.eq_false_iff.1 h (Outside.accepts_iff.2 ha)
  simpa only [Outside.writeLocked_apply] using handleWriteValue_skipped store w hd hv

end Decoded
end Gatt
end Ggk
