import BluetoothLE.DBus.Dispatch
import BluetoothLE.Gatt.Interfaces
import BluetoothLE.Gatt.Application
import BluetoothLE.Gatt.Emission

namespace Ggk
open Lib Gatt
set_option autoImplicit true

namespace GattApplication

/-- `createManagedObjectsDict` may give nothing, and may throw. -/
def handleGetManagedObjects
    (createManagedObjectsDict : Except Thrown (Option (List ManagedObject)))
    (call : DBusMethodCall) : Gatt Unit :=
  catchStd (if call.invocation then do
      match ← ending createManagedObjectsDict with
      | none => reply (.error .failed "Failed to create response")
      | some result => reply (.value (some (.managedObjects result)))
    else pure ()) fun what => reply (.error .failed what)

end GattApplication

/-- The object that a pointer stands for, with the addresses of the descriptors by their keys. -/
def ObjectPtr.object (address : String → Nat) : ObjectPtr → Option GattObject
  | .application | .service _ => none
  | .characteristic _ _ => some .characteristic
  | .descriptor _ _ v => some (.descriptor (address v))

/-- A call of the lambda. -/
def Closure.run (env : Environment) (dict : Except Thrown (Option (List ManagedObject)))
    (address : String → Nat) (closure : Closure) (call : DBusMethodCall) : Gatt Unit :=
  match closure.this, closure.member with
  | .application, .handleGetManagedObjects => GattApplication.handleGetManagedObjects dict call
  | .characteristic _ _, .handleReadValue => GattCharacteristic.handleReadValue env call
  | .characteristic _ _, .handleWriteValue => GattCharacteristic.handleWriteValue env call
  | .characteristic _ _, .handleStartNotify => GattCharacteristic.handleStartNotify env call
  | .characteristic _ _, .handleStopNotify => GattCharacteristic.handleStopNotify env call
  | .descriptor _ _ v, .handleReadValue => GattDescriptor.handleReadValue env (address v) call
  | .descriptor _ _ v, .handleWriteValue => GattDescriptor.handleWriteValue env (address v) call
  | _, _ => Effect.throw .undefined

def replies (trace : List Event) : List Reply := trace.filterMap Event.reply?

@[simp] theorem replies_append (s t : List Event) : replies (s ++ t) = replies s ++ replies t :=
  List.filterMap_append

@[simp] theorem replies_nil : replies [] = [] := rfl

@[simp] theorem replies_acquire (m : Mutex) (t : List Event) :
    replies (.acquire m :: t) = replies t := rfl

@[simp] theorem replies_release (m : Mutex) (t : List Event) :
    replies (.release m :: t) = replies t := rfl

@[simp] theorem replies_reply (r : Reply) (t : List Event) :
    replies (.reply r :: t) = r :: replies t := rfl

@[simp] theorem replies_readCallback (o : GattObject) (t : List Event) :
    replies (.readCallback o :: t) = replies t := rfl

@[simp] theorem replies_writeCallback (o : GattObject) (value : List UInt8) (t : List Event) :
    replies (.writeCallback o value :: t) = replies t := rfl

theorem replies_internal (h : ∀ e ∈ trace, Event.Internal e) : replies trace = [] :=
  List.filterMap_eq_nil_iff.2 fun e he => (h e he).reply?

/-- The replies that the dispatcher has yet to make for how a handler ended. Nothing is known of
what comes after a step that is undefined. -/
def owed : Except Thrown α → Option Nat
  | .ok _ => some 0
  | .error e => (DBusConnection.escaped e).map fun _ => 1

/-- The replies to a call that ended like this. -/
def answers (o : Outcome Thrown World Event α) : Option Nat :=
  (owed o.result).map ((replies o.trace).length + ·)

section Answers
variable {w w' : World} {x : Gatt α}

theorem answers_bind {k : α → Gatt β} (h : x w = ⟨.ok a, w', t⟩) :
    answers ((x >>= k) w) = (answers (k a w')).map ((replies t).length + ·) := by
  rw [Effect.bind_apply, h, Outcome.bind_ok, answers, answers, Outcome.after_result]
  cases owed (k a w').result with
  | none => rfl
  | some n => simp [Nat.add_assoc]

theorem answers_bind_silent {k : α → Gatt β} (h : x w = ⟨.ok a, w', t⟩) (ht : replies t = []) :
    answers ((x >>= k) w) = answers (k a w') := by
  rw [answers_bind h, ht]
  cases answers (k a w') with
  | none => rfl
  | some n => exact congrArg some (Nat.zero_add n)

theorem answers_bind_error {k : α → Gatt β} (h : x w = ⟨.error e, w', t⟩) :
    answers ((x >>= k) w) =
      (owed (.error e : Except Thrown α)).map ((replies t).length + ·) := by
  rw [Effect.bind_apply, h, Outcome.bind_error]
  rfl

/-- Locks are nothing to the caller of a method. -/
theorem withLock_replies (m : Mutex) (x : Gatt α) (k : α → Gatt β) (w : World) :
    replies ((withLock m x >>= k) w).trace = replies ((x >>= k) w).trace ∧
      ((withLock m x >>= k) w).result = ((x >>= k) w).result := by
  rw [Effect.bind_apply, Effect.bind_apply, withLock, Effect.guarded_apply]
  cases x w with
  | mk r w' t => cases r <;> simp

theorem answers_withLock (m : Mutex) (x : Gatt α) (k : α → Gatt β) (w : World) :
    answers ((withLock m x >>= k) w) = answers ((x >>= k) w) := by
  obtain ⟨ht, hr⟩ := withLock_replies m x k w
  rw [answers, answers, ht, hr]

@[simp] theorem answers_reply (r : Reply) (w : World) : answers (reply r w) = some 1 := rfl

/-- A handler of exceptions that replies makes the reply that was owed. -/
theorem answers_catchStd (x : Gatt Unit) (r : String → Reply) (w : World) :
    answers (catchStd x (fun what => reply (r what)) w) = answers (x w) := by
  rw [catchStd, Effect.catching_apply]
  cases x w with
  | mk result w' t =>
    cases result with
    | ok a => rfl
    | error e =>
      cases e with
      | stdException what => simp [Outcome.catching, Gatt.what, reply, answers, owed,
          DBusConnection.escaped]
      | other => rfl
      | undefined => rfl

end Answers

namespace Outside

/-- The callbacks return or throw. -/
structure Returns (out : Outside) : Prop where
  read : ∀ o, out.readCallback o ≠ some (.error .undefined)
  write : ∀ o f value, out.writeCallback o = some f → f value ≠ .error .undefined
  notify : out.notifyCallback ≠ some (.error .undefined)

theorem Returns.notifyResult {out : Outside} (ho : out.Returns) :
    out.notifyResult ≠ .error .undefined := by
  rw [Outside.notifyResult]
  split
  · simp
  · simp
  · rename_i e h
    split
    · simp
    · intro hu
      cases hu
      exact ho.notify h

theorem Returns.writeVerdict {out : Outside} (ho : out.Returns)
    (h : out.writeVerdict o newValue = .error e) : e ≠ .undefined := by
  rw [Outside.writeVerdict] at h
  split at h
  · cases h
  · rename_i f hf
    split at h
    · cases h
    · cases h
    · rename_i e' he
      cases h
      rintro rfl
      exact ho.write o f newValue hf he

/-- What ReadValue is to return, unless the callback throws. -/
def returnValue (out : Outside) (w : World) (o : GattObject) : Option (List UInt8) :=
  match out.readCallback o with
  | none => some (o.value w)
  | some (.ok value) => some value
  | some (.error _) => none

end Outside

section Read
variable {out : Outside} {w : World} {call : DBusMethodCall}

theorem answers_answer (env : Environment) (value : List UInt8) (w : World) :
    answers (answer env value w) = some 1 ↔ Sized value := by
  rw [answer, gvariantFromByteArray, Utils.gvariantFromByteArray, Sized]
  split
  · rename_i h
    apply iff_of_false _ (Int.not_le.2 h)
    exact (Option.some_ne_none _).symm
  · rename_i h
    apply iff_of_true _ (Int.not_lt.1 h)
    cases env.byteArrayVariant <;> simp [defined, answers, owed, reply]

theorem answers_handleReadValue (ho : out.Returns) (o : GattObject)
    (hi : call.invocation = true) :
    answers (Gatt.handleReadValue out.environment o call w) = some 1 ↔
      ∀ value, out.returnValue w o = some value → Sized value := by
  rw [Gatt.handleReadValue, if_pos hi, answers_catchStd, answers_withLock, Outside.returnValue]
  cases h : out.readCallback o with
  | none =>
    have hnone : out.environment.readCallback o = none := by simp [Outside.environment, h]
    rw [answers_bind_silent (Outside.readLocked_stored hnone w) rfl]
    simp [answers_answer]
  | some r =>
    rcases r with e | value
    · cases e with
      | stdException what =>
        rw [answers_bind (Outside.readLocked_callback h w)]
        simp [Outside.readTrace, answers, owed]
      | other =>
        rw [answers_bind_error (Outside.readLocked_callback h w)]
        simp [Outside.readTrace, owed, DBusConnection.escaped]
      | undefined => exact absurd h (ho.read o)
    · rw [answers_bind_silent (Outside.readLocked_callback h w) rfl]
      simp [answers_answer]

end Read

section Write
variable {out : Outside} {w : World} {call : DBusMethodCall}

theorem setValue_undefined (ho : out.Returns) (d : Nat) (newValue : List UInt8) :
    (GattDescriptor.setValue out.environment d newValue w).result = .error .undefined ↔
      (w.descriptors d).registered = true ∧ out.interrupts w d newValue = false ∧
        ¬ Sized newValue := by
  rw [GattDescriptor.setValue_outcome]
  dsimp only
  cases out.interrupts w d newValue with
  | true => simp [ho.notifyResult]
  | false =>
    rw [if_neg Bool.false_ne_true, GattDescriptor.valueResult]
    split_ifs with h
    · simp [h.1, h.2]
    · simpa using h

/-- Storing an accepted value takes no undefined step. -/
def Outside.storable (out : Outside) (w : World) (newValue : List UInt8) : GattObject → Prop
  | .characteristic => True
  | .descriptor d => (w.descriptors d).registered = true → out.interrupts w d newValue = false →
    Sized newValue

theorem store_defined (ho : out.Returns) (o : GattObject) (newValue : List UInt8) :
    (o.store out.environment newValue w).result ≠ .error .undefined ↔
      out.storable w newValue o := by
  cases o with
  | characteristic =>
    apply iff_of_true _ trivial
    intro h
    cases h
  | descriptor d =>
    rw [GattObject.store, ne_eq, setValue_undefined ho, Outside.storable]
    simp

/-- The parameters of a WriteValue that is sure to be answered. -/
def Outside.writable (out : Outside) (w : World) (o : GattObject) :
    Option GVariant → Prop
  | none => True
  | some (.byteArray bytes) =>
    out.accepts o (cString bytes) = true → out.storable w (cString bytes) o
  | some _ => False

/-- The write callback has been answered under its lock if it threw a `std::exception`. -/
theorem Outside.writeTrace_replies (out : Outside) (o : GattObject) (newValue : List UInt8) :
    (replies (out.writeTrace o newValue)).length =
      if out.writeVerdict o newValue matches .ok none then 1 else 0 := by
  rw [Outside.writeTrace, Outside.writeVerdict]
  cases out.writeCallback o with
  | none => rfl
  | some f => cases h : f newValue with
    | ok b => simp only [h]; rfl
    | error e => cases e <;> simp only [h] <;> rfl

theorem answers_store (ho : out.Returns) (o : GattObject) (newValue : List UInt8) :
    answers ((o.store out.environment newValue >>= fun _ => reply (.value none)) w) = some 1 ↔
      out.storable w newValue o := by
  rw [← store_defined ho]
  have hr := replies_internal (o.store_internal out newValue w)
  cases hx : o.store out.environment newValue w with
  | mk r w' t =>
    rw [hx] at hr
    change replies t = [] at hr
    cases r with
    | ok a =>
      rw [answers_bind hx, answers_reply, hr]
      simp
    | error e =>
      rw [answers_bind_error hx, hr]
      cases e <;> simp [owed, DBusConnection.escaped]

theorem answers_writeDecoded (ho : out.Returns) (o : GattObject) (newValue : List UInt8) :
    answers (writeDecoded out.environment o (o.store out.environment) newValue w) = some 1 ↔
      (out.accepts o newValue = true → out.storable w newValue o) := by
  have ht := out.writeTrace_replies o newValue
  have hl := Outside.writeLocked_apply out o newValue w
  rw [writeDecoded, answers_withLock, Outside.accepts]
  rcases hv : out.writeVerdict o newValue with e | _ | _ | _
  · have he := ho.writeVerdict hv
    rw [hv] at hl ht
    rw [answers_bind_error hl, ht]
    cases e with
    | undefined => exact absurd rfl he
    | _ => simp [owed, DBusConnection.escaped]
  · rw [hv] at hl ht
    rw [answers_bind hl, ht]
    simp [answers, owed]
  · rw [hv] at hl ht
    rw [answers_bind hl, ht]
    simp
  · rw [hv] at hl ht
    rw [answers_bind hl, ht, ← answers_store ho]
    simp

theorem answers_handleWriteValue (ho : out.Returns) (o : GattObject)
    (hi : call.invocation = true) :
    answers (Gatt.handleWriteValue out.environment o (o.store out.environment) call w) = some 1 ↔
      out.writable w o call.parameters := by
  rw [Gatt.handleWriteValue, if_pos hi]
  cases call.parameters with
  | none => simp [Outside.writable]
  | some parameters =>
    simp only [answers_catchStd]
    cases parameters with
    | byteArray bytes =>
      have hpure : stringFromGVariantByteArray (.byteArray bytes) = pure (cString bytes) := by
        rw [stringFromGVariantByteArray, Utils.stringFromGVariantByteArray_byteArray]
        rfl
      have hbind : (do
          let newValue ← stringFromGVariantByteArray (.byteArray bytes)
          writeDecoded out.environment o (o.store out.environment) newValue) w =
            writeDecoded out.environment o (o.store out.environment) (cString bytes) w := by
        rw [hpure]
        rfl
      rw [hbind]
      exact answers_writeDecoded ho o (cString bytes)
    | boolean b => exact iff_of_false (Option.some_ne_none _).symm id
    | tuple types => exact iff_of_false (Option.some_ne_none _).symm id
    | managedObjects objects => exact iff_of_false (Option.some_ne_none _).symm id

end Write

section Dispatch
variable {out : Outside} {w : World} {call : DBusMethodCall}

/-- The two handlers that turn a verdict of the object into a reply. -/
theorem answers_verdict {x : Gatt Bool} (hx : ∀ e ∈ (x w).trace, e.Internal)
    (hd : (x w).result ≠ .error .undefined) (code : ErrorCode) (message : String) :
    answers ((do if ← x then reply (.value none) else reply (.error code message) :
      Gatt Unit) w) = some 1 := by
  have hr := replies_internal hx
  cases h : x w with
  | mk result w' t =>
    rw [h] at hr hd
    change replies t = [] at hr
    cases result with
    | ok b =>
      rw [answers_bind h, hr]
      cases b <;> rfl
    | error e =>
      rw [answers_bind_error h, hr]
      cases e with
      | undefined => exact absurd rfl hd
      | _ => rfl

theorem answers_handleStartNotify (ho : out.Returns) (hi : call.invocation = true) :
    answers (GattCharacteristic.handleStartNotify out.environment call w) = some 1 := by
  have hd : (GattCharacteristic.startNotify out.environment w).result ≠ .error .undefined := by
    rw [GattCharacteristic.startNotify_result]
    cases w.characteristic.starts out.environment with
    | false => simp
    | true =>
      have hn := ho.notifyResult
      cases h : out.notifyResult <;> simp_all [Except.map]
  rw [GattCharacteristic.handleStartNotify, if_pos hi]
  exact answers_verdict (GattCharacteristic.startNotify_internal out w) hd _ _

theorem answers_handleStopNotify (env : Environment) (hi : call.invocation = true) :
    answers (GattCharacteristic.handleStopNotify env call w) = some 1 := by
  have hd : (GattCharacteristic.stopNotify env w).result ≠ .error .undefined := by
    rw [GattCharacteristic.stopNotify_result]
    simp
  rw [GattCharacteristic.handleStopNotify, if_pos hi]
  exact answers_verdict (GattCharacteristic.stopNotify_internal env w) hd _ _

theorem answers_handleGetManagedObjects (hd : dict ≠ .error .undefined)
    (hi : call.invocation = true) :
    answers (GattApplication.handleGetManagedObjects dict call w) = some 1 := by
  rw [GattApplication.handleGetManagedObjects, answers_catchStd, if_pos hi]
  rcases dict with e | _ | result
  · cases e with
    | undefined => exact absurd rfl hd
    | _ => rfl
  · rfl
  · rfl

/-- What makes sure that a handler comes to its end. -/
def Closure.Answerable (out : Outside) (address : String → Nat) (w : World)
    (parameters : Option GVariant) (closure : Closure) : Prop :=
  match closure.this.object address, closure.member with
  | some o, .handleReadValue => ∀ value, out.returnValue w o = some value → Sized value
  | some o, .handleWriteValue => out.writable w o parameters
  | _, _ => True

theorem answers_run (ho : out.Returns) (hd : dict ≠ .error .undefined)
    (address : String → Nat) {p : ObjectPtr} {closure : Closure}
    (hm : (method, closure) ∈ p.methods)
    (hi : call.invocation = true) :
    answers (closure.run out.environment dict address call w) = some 1 ↔
      closure.Answerable out address w call.parameters := by
  cases p <;> simp only [ObjectPtr.methods, List.mem_cons, List.not_mem_nil, or_false] at hm
  · cases hm
    exact iff_of_true (answers_handleGetManagedObjects hd hi) trivial
  · rcases hm with h | h | h | h <;> cases h
    · exact answers_handleReadValue ho .characteristic hi
    · exact answers_handleWriteValue ho .characteristic hi
    · exact iff_of_true (answers_handleStartNotify ho hi) trivial
    · exact iff_of_true (answers_handleStopNotify _ hi) trivial
  · rcases hm with h | h <;> cases h
    · exact answers_handleReadValue ho (.descriptor _) hi
    · exact answers_handleWriteValue ho (.descriptor _) hi

theorem handler_withMethod (interface interfaceName methodName : String)
    (handlers : Std.TreeMap String (Std.TreeMap String κ)) (m : String × κ)
    (properties : Std.TreeMap String (List (DBusProperty κ))) :
    DBusConnection.handler interfaceName methodName
        ⟨DBusObject.withMethod interface handlers m, properties⟩ =
      if interface = interfaceName ∧ m.1 = methodName then some m.2
      else DBusConnection.handler interfaceName methodName ⟨handlers, properties⟩ := by
  simp only [DBusConnection.handler, DBusObject.withMethod, getElem?_insert_string]
  by_cases hi : interface = interfaceName
  · rw [if_pos hi, Option.bind_some, getElem?_insert_string, hi]
    by_cases hm : m.1 = methodName
    · rw [if_pos hm, if_pos ⟨rfl, hm⟩]
    · rw [if_neg hm, if_neg fun h => hm h.2]
      cases handlers[interfaceName]? with
      | none => exact Std.TreeMap.getElem?_emptyc
      | some methods => rfl
  · rw [if_neg hi, if_neg fun h => hi h.1]

theorem handler_withMethods {handlers : Std.TreeMap String (Std.TreeMap String κ)}
    {properties : Std.TreeMap String (List (DBusProperty κ))} (methods : List (String × κ))
    (h : DBusConnection.handler interfaceName methodName
      ⟨methods.foldl (DBusObject.withMethod interface) handlers, properties⟩ = some method) :
    (methodName, method) ∈ methods ∨
      DBusConnection.handler interfaceName methodName ⟨handlers, properties⟩ = some method := by
  induction methods generalizing handlers with
  | nil => exact .inr h
  | cons m methods ih =>
    obtain hm | h := ih h
    · exact .inl (List.mem_cons_of_mem m hm)
    · rw [handler_withMethod] at h
      split at h
      · rename_i hm
        cases h
        rw [← hm.2]
        exact .inl List.mem_cons_self
      · exact .inr h

/-- A table leads from a name to a method of that name. -/
theorem ObjectPtr.handler_mem {p : ObjectPtr} {closure : Closure}
    (h : DBusConnection.handler interfaceName methodName p.handlerData = some closure) :
    (methodName, closure) ∈ p.methods := by
  obtain hm | hn := handler_withMethods p.methods h
  · exact hm
  · cases hn

/-- Whether the method makes a request to the connection. -/
def Closure.signals (out : Outside) (address : String → Nat) (w : World)
    (parameters : Option GVariant) (closure : Closure) : Bool :=
  match closure.this.object address, closure.member with
  | some .characteristic, .handleStartNotify =>
    w.characteristic.signals out.environment (some true)
  | some .characteristic, .handleStopNotify =>
    w.characteristic.signals out.environment (some false)
  | some o, .handleWriteValue => out.writeSignals w o parameters
  | _, _ => false

theorem isSignal_handleGetManagedObjects (hi : call.invocation = true) :
    (GattApplication.handleGetManagedObjects dict call w).trace.any Event.isSignal = false := by
  rw [GattApplication.handleGetManagedObjects, if_pos hi]
  rcases dict with e | _ | result
  · cases e <;> rfl
  · rfl
  · rfl

theorem isSignal_run (address : String → Nat) {p : ObjectPtr} {closure : Closure}
    (hm : (method, closure) ∈ p.methods) (hi : call.invocation = true) :
    (closure.run out.environment dict address call w).trace.any Event.isSignal =
      closure.signals out address w call.parameters := by
  cases p <;> simp only [ObjectPtr.methods, List.mem_cons, List.not_mem_nil, or_false] at hm
  · cases hm
    exact isSignal_handleGetManagedObjects hi
  · rcases hm with h | h | h | h <;> cases h
    · exact isSignal_handleReadValue hi
    · exact isSignal_handleWriteValue hi
    · rw [Closure.run, GattCharacteristic.handleStartNotify, if_pos hi, isSignal_verdict]
      exact isSignal_startNotify out w
    · rw [Closure.run, GattCharacteristic.handleStopNotify, if_pos hi, isSignal_verdict]
      exact isSignal_stopNotify out w
  · rcases hm with h | h <;> cases h
    · exact isSignal_handleReadValue hi
    · exact isSignal_handleWriteValue hi

/-- A call that has come to its end, with one reply. -/
def RepliesOnce (r : Except Thrown Unit × List Event) : Prop :=
  r.1 = .ok () ∧ (replies r.2).length = 1

/-- Nothing but an end of the process or a step that is undefined gets past the dispatcher. -/
theorem repliesOnce_dispatched (x : Gatt Unit) (w : World) :
    let o := Effect.catching DBusConnection.escaped x (fun what =>
      reply (.error (.domain DBusError.errorFailed) (DBusConnection.internalError what))) w
    RepliesOnce (o.result, o.trace) ↔ answers (x w) = some 1 := by
  rw [Effect.catching_apply]
  cases x w with
  | mk r w' t =>
    cases r with
    | ok a => simp [RepliesOnce, answers, owed]
    | error e =>
      cases e <;> simp [Outcome.catching, DBusConnection.escaped, reply, answers, owed,
        RepliesOnce]

theorem any_dispatched (final : Event → Bool) (hf : ∀ r, final (.reply r) = false) (x : Gatt Unit)
    (w : World) : (Effect.catching DBusConnection.escaped x (fun what =>
      reply (.error (.domain DBusError.errorFailed) (DBusConnection.internalError what)))
        w).trace.any final = (x w).trace.any final := by
  rw [Effect.catching_apply]
  cases x w with
  | mk r w' t =>
    cases r with
    | ok a => rfl
    | error e =>
      cases he : DBusConnection.escaped e with
      | none => rw [Outcome.catching_passed he]
      | some what => simp [Outcome.catching_handled he, reply, hf]

/-- A call that the process does not outlive is not answered once. -/
theorem repliesOnce_cutShort (final : Event → Bool) (r : Except Thrown Unit × List Event) :
    RepliesOnce (cutShort final .undefined r) ↔ r.2.any final = false ∧ RepliesOnce r := by
  cases h : r.2.any final with
  | true =>
    apply iff_of_false
    · rintro ⟨hr, -⟩
      rw [cutShort, if_pos h] at hr
      cases hr
    · exact fun hn => Bool.noConfusion hn.1
  | false => rw [cutShort_of_not_any h, and_iff_right rfl]

/-- A method call comes to its end with exactly one reply as long as no callback, size or
parameter makes its handler take a step that is undefined, and no request to the connection
ends the process. -/
theorem replies_iff (ho : out.Returns) (hd : dict ≠ .error .undefined)
    (address : String → Nat) (p : ObjectPtr) (sender : Option String)
    (interfaceName methodName : String) (parameters : Option GVariant) (w : World)
    (goesOn : Bool) (c : DBusConnection δ η) :
    let o := DBusConnection.handleMethodCall (Closure.run out.environment dict address) sender
      interfaceName methodName parameters p.handlerData w
    RepliesOnce (cutShort (Event.ends goesOn c) .undefined (o.result, o.trace)) ↔
      ∀ closure, DBusConnection.handler interfaceName methodName p.handlerData = some closure →
        closure.Answerable out address w parameters ∧
          (c.isConnected = true → goesOn = false →
            closure.signals out address w parameters = false) := by
  cases h : DBusConnection.handler interfaceName methodName p.handlerData with
  | none =>
    apply iff_of_true
    · obtain ⟨r, hr⟩ := DBusConnection.handleMethodCall_unknown
        (Closure.run out.environment dict address) sender parameters h
      rw [hr]
      exact ⟨rfl, rfl⟩
    · intro closure hc
      cases hc
  | some closure =>
    let call : DBusMethodCall :=
      { sender := sender.getD "", interface := interfaceName, method := methodName, parameters,
        invocation := true }
    have hm := ObjectPtr.handler_mem h
    have hsignals : (closure.run out.environment dict address call w).trace.any Event.isSignal =
        closure.signals out address w parameters := isSignal_run address hm rfl
    have hanswers : answers (closure.run out.environment dict address call w) = some 1 ↔
        closure.Answerable out address w parameters := answers_run ho hd address hm rfl
    have hany := (any_dispatched (Event.ends goesOn c) (fun _ => rfl)
      (closure.run out.environment dict address call) w).trans
        ((any_ends goesOn c _).trans (congrArg _ hsignals))
    simp only [DBusConnection.handleMethodCall_handled _ sender parameters h, Option.some.injEq,
      forall_eq']
    refine (repliesOnce_cutShort ..).trans ((and_congr (iff_of_eq (congrArg (· = false) hany))
      ((repliesOnce_dispatched _ w).trans hanswers)).trans ?_)
    rw [and_comm, DBusConnection.endsProcess]
    cases c.isConnected <;> cases goesOn <;> simp

/-- A write of two bytes to a client configuration that is not registered. -/
theorem replies_example :
    let o := DBusConnection.handleMethodCall
      (Closure.run Outside.quiet.environment (.ok none) fun _ => 0) none
      BlueZConstants.gattDescriptorInterface "WriteValue" (some (.byteArray [0x01, 0x01]))
      (ObjectPtr.descriptor 0 "" "").handlerData (.constructed GattProperty.propNotify)
    RepliesOnce (cutShort (Event.ends false DBusObject.live) .undefined (o.result, o.trace)) := by
  have ho : Outside.quiet.Returns := by
    refine ⟨fun o h => ?_, fun o f value h => ?_, fun h => ?_⟩
    · cases h
    · cases h
    · cases h
  refine (replies_iff ho (fun h => ?_) _ _ _ _ _ _ _ _ _).2 fun closure hc => ?_
  · cases h
  · cases hc
    refine ⟨fun _ hr => ?_, fun _ _ => rfl⟩
    cases hr

/-- A client that subscribes to a registered characteristic gets no reply: the process ends over
the signal that would say so. -/
theorem replies_none :
    let o := DBusConnection.handleMethodCall
      (Closure.run Outside.quiet.environment (.ok none) fun _ => 0) none
      BlueZConstants.gattCharacteristicInterface "StartNotify" (some (.tuple []))
      (ObjectPtr.characteristic 0 "").handlerData
      (World.constructed GattProperty.propNotify).setUp
    replies (cutShort (Event.ends false DBusObject.live) .undefined (o.result, o.trace)).2 = [] := by
  decide

end Dispatch

end Ggk
