import BluetoothLE.Gatt.LockOrder
import BluetoothLE.DBus.Signals

namespace Ggk
open Lib Gatt
set_option autoImplicit true

/-- What a callback can call on the characteristic that runs it. The setters are left without
the callback that they set: it is stored under the lock that the running one is called with. -/
inductive PublicCall where
  | getValue
  | setValue (newValue : List UInt8)
  | startNotify
  | stopNotify
  | isNotifying
  | setReadCallback
  | setWriteCallback
  | setNotifyCallback
  deriving DecidableEq, Repr

namespace PublicCall

def perform (env : Environment) : PublicCall → Gatt Unit
  | .getValue => discard GattCharacteristic.getValue
  | .setValue newValue => GattCharacteristic.setValue env newValue
  | .startNotify => discard (GattCharacteristic.startNotify env)
  | .stopNotify => discard (GattCharacteristic.stopNotify env)
  | .isNotifying => discard GattCharacteristic.isNotifying
  | .setReadCallback | .setWriteCallback | .setNotifyCallback => withLock .callbackMutex (pure ())

def performAll (env : Environment) : List PublicCall → Gatt Unit
  | [] => pure ()
  | call :: calls => do
    call.perform env
    performAll env calls

/-- The mutexes that a call takes. -/
def takes (env : Environment) (c : GattCharacteristic) : PublicCall → List Mutex
  | .getValue => [.valueMutex]
  | .setValue newValue =>
    .valueMutex ::
      if c.registered && byteArrayMade env newValue then
        .notifyMutex :: if c.notifying then [.callbackMutex] else []
      else []
  | .startNotify => .notifyMutex :: if c.starts env then [.callbackMutex] else []
  | .stopNotify | .isNotifying => [.notifyMutex]
  | .setReadCallback | .setWriteCallback | .setNotifyCallback => [.callbackMutex]

/-- Whether a call comes back when it runs no callback: there is no variant of the bytes of a
value that is too long. -/
def returns (c : GattCharacteristic) : PublicCall → Bool
  | .setValue newValue =>
    !c.registered || (Utils.gvariantFromByteArray newValue (Utils.toInt newValue.length)).isSome
  | _ => true

/-- The characteristic after a call that comes back and runs no callback. -/
def after (env : Environment) (c : GattCharacteristic) : PublicCall → GattCharacteristic
  | .setValue value => { c with value }
  | .stopNotify => { c with notifying := c.notifying && !c.stops env }
  | _ => c

end PublicCall

/-- Where callbacks are run: in `setValue`, in `startNotify` and in the two handlers. -/
inductive Stage where
  | newValue
  | notifyStart
  | request
  deriving DecidableEq, Repr

def Stage.held : Stage → List Mutex
  | .newValue => [.callbackMutex, .valueMutex]
  | .notifyStart => [.callbackMutex, .notifyMutex]
  | .request => [.callbackMutex]

/-- The calls that a callback can make there. -/
def PublicCall.allowed (env : Environment) (c : GattCharacteristic) : Stage → PublicCall → Bool
  | .newValue, .isNotifying | .newValue, .stopNotify => true
  | .newValue, .startNotify => !c.starts env
  | .newValue, _ => false
  | .notifyStart, .getValue => true
  | .notifyStart, .setValue newValue => !(c.registered && byteArrayMade env newValue)
  | .notifyStart, _ => false
  | .request, .getValue | .request, .isNotifying | .request, .stopNotify => true
  | .request, .startNotify => !c.starts env
  | .request, .setValue newValue => !(c.registered && byteArrayMade env newValue && c.notifying)
  | .request, _ => false

/-- All of these calls that are reached are allowed. -/
def PublicCall.allAllowed (env : Environment) (stage : Stage) :
    GattCharacteristic → List PublicCall → Bool
  | _, [] => true
  | c, call :: calls =>
    call.allowed env c stage && (!call.returns c || allAllowed env stage (call.after env c) calls)

/-- A callback's body: the calls that it makes, and how it ends after them. -/
structure Body (α : Type) where
  calls : List PublicCall
  ending : Except Thrown α

def Body.run (env : Environment) (body : Body α) : Gatt α := do
  PublicCall.performAll env body.calls
  Ggk.ending body.ending

structure Callbacks where
  readCallback : Option (Body (List UInt8))
  writeCallback : Option (List UInt8 → Body Bool)
  notifyCallback : Option (Body Unit)

/-- What the bodies call runs in an environment `inner` of its own. A call gets to a callback of
it only past a lock that is held already. -/
def Callbacks.environment (callbacks : Callbacks) (inner : Environment) : Environment where
  readCallback
    | .characteristic => callbacks.readCallback.map (Body.run inner)
    | .descriptor d => inner.readCallback (.descriptor d)
  writeCallback
    | .characteristic => callbacks.writeCallback.map fun body newValue => (body newValue).run inner
    | .descriptor d => inner.writeCallback (.descriptor d)
  notifyCallback := callbacks.notifyCallback.map (Body.run inner)
  booleanVariant := inner.booleanVariant
  byteArrayVariant := inner.byteArrayVariant

section Body
variable {env : Environment} {w : World} {held : List Mutex} {stage : Stage}
  {calls : List PublicCall}

namespace PublicCall
variable {call : PublicCall}

theorem notifying_of_takes (hc : .callbackMutex ∈ held)
    (h : ∀ m ∈ (setValue newValue).takes env w.characteristic, m ∉ held)
    (hm : (w.characteristic.registered && byteArrayMade env newValue) = true) :
    w.characteristic.notifying = false := by
  apply Bool.eq_false_iff.2
  intro hn
  exact h .callbackMutex (by simp [takes, hm, hn]) hc

theorem starts_of_takes (hc : .callbackMutex ∈ held)
    (h : ∀ m ∈ startNotify.takes env w.characteristic, m ∉ held) :
    w.characteristic.starts env = false := by
  apply Bool.eq_false_iff.2
  intro hs
  exact h .callbackMutex (by simp [takes, hs]) hc

/-- A call that takes nothing that is held gives back what it takes. -/
theorem perform_clean (hc : .callbackMutex ∈ held)
    (h : ∀ m ∈ call.takes env w.characteristic, m ∉ held) :
    Clean held (locks (call.perform env w).trace) ∧
      heldAfter held (locks (call.perform env w).trace) = held := by
  cases call with
  | getValue => exact oneByOne_single (h _ (List.mem_singleton.2 rfl))
  | setValue newValue =>
    have hv := h .valueMutex List.mem_cons_self
    rw [perform, locks_setValue]
    cases hm : w.characteristic.registered && byteArrayMade env newValue with
    | false => exact oneByOne_single hv
    | true =>
      have hn := h .notifyMutex (by simp [takes, hm])
      rw [notifying_of_takes hc h hm]
      simp [Clean, heldAfter, hv, hn]
  | startNotify =>
    rw [perform, (discard_apply _ _).2, locks_startNotify, starts_of_takes hc h]
    exact oneByOne_single (h _ List.mem_cons_self)
  | stopNotify =>
    rw [perform, (discard_apply _ _).2, locks_stopNotify]
    exact oneByOne_single (h _ List.mem_cons_self)
  | isNotifying => exact oneByOne_single (h _ List.mem_cons_self)
  | setReadCallback => exact absurd hc (h _ List.mem_cons_self)
  | setWriteCallback => exact absurd hc (h _ List.mem_cons_self)
  | setNotifyCallback => exact absurd hc (h _ List.mem_cons_self)

theorem perform_returned (hc : .callbackMutex ∈ held)
    (h : ∀ m ∈ call.takes env w.characteristic, m ∉ held)
    (hr : call.returns w.characteristic = true) :
    (call.perform env w).result = .ok () ∧
      (call.perform env w).state.characteristic = call.after env w.characteristic := by
  cases call with
  | getValue => exact ⟨rfl, rfl⟩
  | setValue newValue =>
    cases hreg : w.characteristic.registered with
    | false =>
      rw [perform, GattCharacteristic.setValue_unregistered _ _ hreg]
      exact ⟨rfl, rfl⟩
    | true =>
      rw [returns, hreg, Bool.not_true, Bool.false_or] at hr
      obtain ⟨v, hv⟩ := Option.isSome_iff_exists.1 hr
      have hg : gvariantFromByteArray env newValue =
          pure (if env.byteArrayVariant then some v else none) := by
        rw [gvariantFromByteArray, hv]
        rfl
      cases hb : env.byteArrayVariant with
      | false =>
        simp [perform, GattCharacteristic.setValue, GattCharacteristic.announceValue, withLock,
          catchStd, after, hreg, hg, hb]
      | true =>
        have hm : (w.characteristic.registered && byteArrayMade env newValue) = true := by
          simp [byteArrayMade, hreg, hb, hr]
        rw [hb, if_pos rfl] at hg
        rw [perform, GattCharacteristic.setValue_idle hreg hg (notifying_of_takes hc h hm)]
        exact ⟨rfl, rfl⟩
  | startNotify =>
    rw [perform, discard_result, (discard_apply _ _).1,
      GattCharacteristic.startNotify_idle (starts_of_takes hc h)]
    exact ⟨rfl, rfl⟩
  | stopNotify =>
    rw [perform, discard_result, (discard_apply _ _).1, GattCharacteristic.stopNotify_result,
      GattCharacteristic.stopNotify_state]
    exact ⟨rfl, rfl⟩
  | isNotifying => exact ⟨rfl, rfl⟩
  | setReadCallback => exact absurd hc (h _ List.mem_cons_self)
  | setWriteCallback => exact absurd hc (h _ List.mem_cons_self)
  | setNotifyCallback => exact absurd hc (h _ List.mem_cons_self)

/-- A call that takes what is held never gets past the lock. -/
theorem perform_not_clean (hm : m ∈ call.takes env w.characteristic) (hh : m ∈ held) :
    ¬ Clean held (locks (call.perform env w).trace) := by
  have first {steps : List (LockStep Mutex)} {n : Mutex} (hs : steps = oneByOne [n])
      (hm : m ∈ [n]) : ¬ Clean held steps := by
    cases List.mem_singleton.1 hm
    rw [hs]
    exact fun hcl => hcl.1 hh
  cases call with
  | getValue => exact first rfl hm
  | setValue newValue =>
    rw [perform, locks_setValue]
    rw [takes] at hm
    rcases List.mem_cons.1 hm with rfl | hm
    · exact fun hcl => hcl.1 hh
    · cases hmade : w.characteristic.registered && byteArrayMade env newValue with
      | false => simp [hmade] at hm
      | true =>
        rw [hmade, if_pos rfl] at hm
        rcases List.mem_cons.1 hm with rfl | hm
        · intro hcl
          exact hcl.2.1 (List.mem_cons_of_mem _ hh)
        · cases hn : w.characteristic.notifying with
          | false => simp [hn] at hm
          | true =>
            rw [hn, if_pos rfl, List.mem_singleton] at hm
            subst hm
            intro hcl
            simp [Clean, hh] at hcl
  | startNotify =>
    rw [perform, (discard_apply _ _).2, locks_startNotify]
    rw [takes] at hm
    rcases List.mem_cons.1 hm with rfl | hm
    · exact fun hcl => hcl.1 hh
    · cases hs : w.characteristic.starts env with
      | false => simp [hs] at hm
      | true =>
        rw [hs, if_pos rfl, List.mem_singleton] at hm
        subst hm
        intro hcl
        exact hcl.2.1 (List.mem_cons_of_mem _ hh)
  | stopNotify =>
    rw [perform, (discard_apply _ _).2, locks_stopNotify]
    exact first rfl hm
  | isNotifying => exact first rfl hm
  | setReadCallback => exact first rfl hm
  | setWriteCallback => exact first rfl hm
  | setNotifyCallback => exact first rfl hm

theorem perform_undefined (h : call.returns w.characteristic = false) :
    (call.perform env w).result = .error .undefined := by
  cases call with
  | setValue newValue =>
    rw [returns, Bool.or_eq_false_iff, Bool.not_eq_false', Option.isSome_eq_false_iff,
      Option.isNone_iff_eq_none] at h
    exact GattCharacteristic.setValue_undefined h.1 h.2
  | getValue => cases h
  | startNotify => cases h
  | stopNotify => cases h
  | isNotifying => cases h
  | setReadCallback => cases h
  | setWriteCallback => cases h
  | setNotifyCallback => cases h

theorem callbackMutex_held (stage : Stage) : .callbackMutex ∈ stage.held := by
  cases stage <;> exact List.mem_cons_self

/-- The calls that are allowed are those that take only what is free. -/
theorem allowed_iff (call : PublicCall) (c : GattCharacteristic) :
    call.allowed env c stage = true ↔ ∀ m ∈ call.takes env c, m ∉ stage.held := by
  cases call with
  | setValue newValue =>
    cases stage <;> simp only [allowed, takes] <;>
      cases c.registered && byteArrayMade env newValue <;> cases c.notifying <;> simp [Stage.held]
  | _ => cases stage <;> simp [allowed, takes, Stage.held]

theorem performAll_returned (hr : (call.perform env w).result = .ok ()) :
    locks (performAll env (call :: calls) w).trace = locks (call.perform env w).trace ++
      locks (performAll env calls (call.perform env w).state).trace := by
  rw [performAll, Effect.bind_of_ok hr, Outcome.after_trace, locks_append]

theorem performAll_interrupted (hr : (call.perform env w).result = .error e) :
    (performAll env (call :: calls) w).trace = (call.perform env w).trace := by
  rw [performAll, Effect.bind_of_error hr]

theorem performAll_clean (ha : allAllowed env stage w.characteristic calls = true) :
    Clean stage.held (locks (performAll env calls w).trace) ∧
      heldAfter stage.held (locks (performAll env calls w).trace) = stage.held := by
  induction calls generalizing w with
  | nil => exact ⟨trivial, rfl⟩
  | cons call calls ih =>
    simp only [allAllowed, Bool.and_eq_true, Bool.or_eq_true, Bool.not_eq_true'] at ha
    obtain ⟨hcall, hrest⟩ := ha
    have hc := callbackMutex_held stage
    have htakes := (allowed_iff call w.characteristic).1 hcall
    obtain ⟨hcl, hh⟩ := perform_clean hc htakes
    cases hr : call.returns w.characteristic with
    | false =>
      rw [performAll_interrupted (perform_undefined hr)]
      exact ⟨hcl, hh⟩
    | true =>
      obtain ⟨hres, hst⟩ := perform_returned hc htakes hr
      obtain ⟨hcl', hh'⟩ := ih (hst ▸ hrest.resolve_left (by simp [hr]))
      rw [performAll_returned hres, heldAfter_append, hh]
      exact ⟨hcl.append (hh.symm ▸ hcl'), hh'⟩

/-- A callback's calls take only what is free exactly if they are allowed. -/
theorem performAll_clean_iff (env : Environment) (stage : Stage) (calls : List PublicCall)
    (w : World) : Clean stage.held (locks (performAll env calls w).trace) ↔
      allAllowed env stage w.characteristic calls = true := by
  apply Iff.intro
  · intro hcl
    induction calls generalizing w with
    | nil => rfl
    | cons call calls ih =>
      have hc := callbackMutex_held stage
      have htakes : ∀ m ∈ call.takes env w.characteristic, m ∉ stage.held := by
        intro m hm hh
        apply perform_not_clean hm hh
        cases hr : (call.perform env w).result with
        | ok =>
          rw [performAll_returned hr] at hcl
          exact (clean_append_iff.1 hcl).1
        | error e =>
          rw [performAll_interrupted hr] at hcl
          exact hcl
      rw [allAllowed, (allowed_iff call w.characteristic).2 htakes, Bool.true_and]
      cases hr : call.returns w.characteristic with
      | false => rfl
      | true =>
        obtain ⟨hres, hst⟩ := perform_returned hc htakes hr
        rw [performAll_returned hres, clean_append_iff, (perform_clean hc htakes).2] at hcl
        exact hst ▸ ih _ hcl.2
  · exact fun ha => (performAll_clean ha).1

end PublicCall

open PublicCall

theorem Body.run_locks (env : Environment) (body : Body α) (w : World) :
    locks (body.run env w).trace = locks (performAll env body.calls w).trace := by
  have hemits : Effect.Emits (fun _ => False) (Ggk.ending body.ending) := by
    cases body.ending with
    | ok a => exact .pure a
    | error e => exact .throw e
  obtain ⟨-, t, ht, he⟩ := Effect.bind_emits (x := performAll env body.calls)
    (fun _ => hemits) w
  rw [Body.run, he, List.eq_nil_iff_forall_not_mem.2 ht, List.append_nil]

theorem Body.called_locks (env : Environment) (body : Body α) (he : e.lockStep? = none)
    (f : α → β) (w : World) :
    locks ((do Effect.log e; return f (← body.run env) : Gatt β) w).trace =
      locks (performAll env body.calls w).trace := by
  obtain ⟨-, t, ht, htrace⟩ := Effect.bind_emits (x := body.run env) (P := fun _ => False)
    (fun a => .pure (f a)) w
  rw [Effect.bind_apply, Effect.log_apply, Outcome.bind_ok, Outcome.after_trace, htrace,
    List.eq_nil_iff_forall_not_mem.2 ht, List.append_nil, locks_append, body.run_locks]
  simp [locks, he]

end Body

namespace Callbacks
variable {callbacks : Callbacks} {inner : Environment} {w : World}

theorem runNotifyCallback_locks (w : World) :
    locks (runNotifyCallback (callbacks.environment inner) w).trace =
      match callbacks.notifyCallback with
      | none => []
      | some body => locks (PublicCall.performAll inner body.calls w).trace := by
  cases h : callbacks.notifyCallback with
  | none => simp [runNotifyCallback, environment, h]
  | some body =>
    simp only [runNotifyCallback, environment, h, Option.map_some]
    rw [(catchStd_silent _ () w).2, Effect.bind_apply]
    exact body.run_locks inner w

theorem readLocked_locks (w : World) :
    locks (readLocked (callbacks.environment inner) .characteristic w).trace =
      match callbacks.readCallback with
      | none => oneByOne [.valueMutex]
      | some body => locks (PublicCall.performAll inner body.calls w).trace := by
  cases h : callbacks.readCallback with
  | none => rw [Outside.readLocked_stored (by simp [environment, h])]; rfl
  | some body =>
    simp only [readLocked, environment, h, Option.map_some]
    rw [locks_catchStd fun what => .bind (reply_emits _) fun _ => .pure _]
    exact body.called_locks inner rfl some w

theorem writeLocked_locks (newValue : List UInt8) (w : World) :
    locks (writeLocked (callbacks.environment inner) .characteristic newValue w).trace =
      match callbacks.writeCallback with
      | none => []
      | some body => locks (PublicCall.performAll inner (body newValue).calls w).trace := by
  cases h : callbacks.writeCallback with
  | none => simp [writeLocked, environment, h]
  | some body =>
    simp only [writeLocked, environment, h, Option.map_some]
    rw [locks_catchStd fun what => .bind (reply_emits _) fun _ => .pure _]
    exact (body newValue).called_locks inner rfl some w

/-- The notify callback makes only calls that it can make there. -/
def MayNotify (callbacks : Callbacks) (env : Environment) (stage : Stage)
    (c : GattCharacteristic) : Prop :=
  ∀ body ∈ callbacks.notifyCallback, PublicCall.allAllowed env stage c body.calls = true

def MayStart (callbacks : Callbacks) (env : Environment) (c : GattCharacteristic) : Prop :=
  c.starts env = true →
    callbacks.MayNotify env .notifyStart { c with notifying := true }

/-- The callback that an operation runs, if it runs one, makes only calls that it can make. -/
def Permits (callbacks : Callbacks) (env : Environment) (w : World) : Operation → Prop
  | .setValue value =>
    (w.characteristic.registered && byteArrayMade env value) = true →
      w.characteristic.notifying = true →
        callbacks.MayNotify env .newValue { w.characteristic with value }
  | .startNotify => callbacks.MayStart env w.characteristic
  | .setDescriptorValue d newValue =>
    (w.descriptors d).request newValue = some true → callbacks.MayStart env w.characteristic
  | .handleReadValue call =>
    call.invocation = true → ∀ body ∈ callbacks.readCallback,
      PublicCall.allAllowed env .request w.characteristic body.calls = true
  | .handleWriteValue call =>
    ∀ newValue ∈ decoded call, ∀ body ∈ callbacks.writeCallback,
      PublicCall.allAllowed env .request w.characteristic (body newValue).calls = true
  | .getValue | .stopNotify | .isNotifying => True

@[simp] theorem byteArrayMade_environment (callbacks : Callbacks) (bytes : List UInt8) :
    byteArrayMade (callbacks.environment inner) bytes = byteArrayMade inner bytes := rfl

@[simp] theorem starts_environment (callbacks : Callbacks) (c : GattCharacteristic) :
    c.starts (callbacks.environment inner) = c.starts inner := rfl

theorem runNotifyCallback_clean_iff (callbacks : Callbacks) (inner : Environment) (stage : Stage)
    (w : World) :
    Clean stage.held (locks (runNotifyCallback (callbacks.environment inner) w).trace) ↔
      callbacks.MayNotify inner stage w.characteristic := by
  rw [runNotifyCallback_locks, MayNotify]
  cases callbacks.notifyCallback with
  | none => simp [Clean]
  | some body => simpa using PublicCall.performAll_clean_iff inner stage body.calls w

theorem setValue_clean_iff (newValue : List UInt8) (w : World) :
    Clean [] (locks (GattCharacteristic.setValue (callbacks.environment inner) newValue w).trace) ↔
      callbacks.Permits inner w (.setValue newValue) := by
  rw [locks_setValue, byteArrayMade_environment, Permits]
  cases w.characteristic.registered && byteArrayMade inner newValue with
  | false => simp [Clean]
  | true =>
    cases hn : w.characteristic.notifying with
    | false => simp [Clean]
    | true =>
      have hc := callbacks.runNotifyCallback_clean_iff inner .newValue
        (w.setCharacteristicValue newValue)
      simpa [Clean, clean_append_iff, Stage.held] using hc

theorem startNotify_clean_iff (w : World) :
    Clean [] (locks (GattCharacteristic.startNotify (callbacks.environment inner) w).trace) ↔
      callbacks.MayStart inner w.characteristic := by
  rw [locks_startNotify, starts_environment, MayStart]
  cases w.characteristic.starts inner with
  | false => simp [Clean]
  | true =>
    have hc := callbacks.runNotifyCallback_clean_iff inner .notifyStart (w.setNotifying true)
    simpa [Clean, clean_append_iff, Stage.held] using hc

theorem handleReadValue_clean_iff (call : DBusMethodCall) (w : World) :
    Clean [] (locks
        (GattCharacteristic.handleReadValue (callbacks.environment inner) call w).trace) ↔
      callbacks.Permits inner w (.handleReadValue call) := by
  rw [Permits]
  cases hi : call.invocation with
  | false => simp [GattCharacteristic.handleReadValue, Gatt.handleReadValue, hi, Clean]
  | true =>
    rw [locks_handleReadValue _ w hi, readLocked_locks]
    cases callbacks.readCallback with
    | none => simp [Clean, oneByOne]
    | some body =>
      have hc := PublicCall.performAll_clean_iff inner .request body.calls w
      simpa [Clean, clean_append_iff, Stage.held] using hc

theorem handleWriteValue_clean_iff (call : DBusMethodCall) (w : World) :
    Clean [] (locks
        (GattCharacteristic.handleWriteValue (callbacks.environment inner) call w).trace) ↔
      callbacks.Permits inner w (.handleWriteValue call) := by
  rw [Permits]
  cases hd : decoded call with
  | none =>
    rw [GattCharacteristic.handleWriteValue, locks_replies (handleWriteValue_undecoded _ hd).2]
    simp [Clean]
  | some newValue =>
    obtain ⟨ms, hms⟩ := locks_handleWriteValue (callbacks.environment inner) w hd
    rw [hms, writeLocked_locks]
    cases callbacks.writeCallback with
    | none => simpa [Clean] using (oneByOne_clean ms).1
    | some body =>
      have hc := PublicCall.performAll_clean_iff inner .request (body newValue).calls w
      have hh (ha : PublicCall.allAllowed inner .request w.characteristic (body newValue).calls =
          true) := (PublicCall.performAll_clean ha).2
      rw [Stage.held] at hc hh
      simp only [List.cons_append, Clean, clean_append_iff, hc, List.not_mem_nil,
        not_false_eq_true, true_and, Option.mem_def, Option.some.injEq, forall_eq']
      apply and_iff_left_of_imp
      intro hp
      rw [hh hp]
      exact (oneByOne_clean ms).1

theorem perform_clean_iff (op : Operation) (w : World) :
    Clean [] (locks (op.perform (callbacks.environment inner) w).trace) ↔
      callbacks.Permits inner w op := by
  cases op with
  | setValue newValue => exact setValue_clean_iff newValue w
  | getValue => exact iff_of_true (oneByOne_single List.not_mem_nil).1 trivial
  | startNotify =>
    rw [Operation.perform, (discard_apply _ _).2]
    exact startNotify_clean_iff w
  | stopNotify =>
    rw [Operation.perform, (discard_apply _ _).2, locks_stopNotify]
    exact iff_of_true (oneByOne_clean _).1 trivial
  | isNotifying => exact iff_of_true (oneByOne_clean [Mutex.notifyMutex]).1 trivial
  | handleReadValue call => exact handleReadValue_clean_iff call w
  | handleWriteValue call => exact handleWriteValue_clean_iff call w
  | setDescriptorValue d newValue =>
    rw [Operation.perform, locks_setDescriptorValue, clean_append_iff, (oneByOne_clean _).2,
      and_iff_right (oneByOne_clean _).1, Permits]
    rcases (w.descriptors d).request newValue with _ | _ | _
    · simp [Clean]
    · simpa using (oneByOne_clean [Mutex.notifyMutex]).1
    · simpa using startNotify_clean_iff (w.setDescriptorValue d newValue)

end Callbacks

namespace WatchCall
variable {c : DBusConnection δ η}

/-- The connection has one mutex. -/
def steps (c : DBusConnection δ η) : WatchCall η → List (LockStep Unit)
  | .addSignalWatch .. => if c.isConnected then oneByOne [()] else []
  | .removeSignalWatch watchId =>
    if !c.isConnected || watchId == 0 then [] else oneByOne [()]

def stepsAll (c : DBusConnection δ η) : List (WatchCall η) → List (LockStep Unit)
  | [] => []
  | call :: calls => call.steps c ++ stepsAll (call.perform c) calls

theorem perform_of_steps {call : WatchCall η} (h : call.steps c = []) : call.perform c = c := by
  cases call with
  | addSignalWatch refused sender interface signalName path handler =>
    cases hc : c.isConnected with
    | false => simp [perform, DBusConnection.addSignalWatch, hc]
    | true => simp [steps, oneByOne, hc] at h
  | removeSignalWatch watchId =>
    rw [steps] at h
    split at h
    · rename_i hc
      simp only [perform, DBusConnection.removeSignalWatch, if_pos hc]
    · cases h

theorem steps_eq_nil_iff (call : WatchCall η) :
    call.steps c = [] ↔ c.isConnected = false ∨ call = .removeSignalWatch 0 := by
  cases hc : c.isConnected <;> cases call <;> simp [steps, oneByOne, hc]

theorem steps_not_clean {call : WatchCall η} (h : call.steps c ≠ []) :
    ¬ Clean [()] (call.steps c) := by
  have hs : call.steps c = oneByOne [()] := by
    cases call with
    | addSignalWatch refused sender interface signalName path handler =>
      rw [steps] at h ⊢
      split at h
      · rw [if_pos (by assumption)]
      · cases h rfl
    | removeSignalWatch watchId =>
      rw [steps] at h ⊢
      split at h
      · cases h rfl
      · rw [if_neg (by assumption)]
  rw [hs]
  exact fun hcl => hcl.1 List.mem_cons_self

theorem stepsAll_clean_iff (calls : List (WatchCall η)) :
    Clean [()] (stepsAll c calls) ↔
      c.isConnected = false ∨ ∀ call ∈ calls, call = .removeSignalWatch 0 := by
  induction calls with
  | nil => simp [stepsAll, Clean]
  | cons call calls ih =>
    rw [stepsAll, clean_append_iff, List.forall_mem_cons]
    by_cases hs : call.steps c = []
    · rw [hs, perform_of_steps hs, heldAfter, ih, Clean, true_and]
      rcases (steps_eq_nil_iff call).1 hs with hc | hcall
      · simp [hc]
      · simp [hcall]
    · apply iff_of_false
      · exact fun hcl => steps_not_clean hs hcl.1
      · rintro (hc | hcalls)
        · exact hs ((steps_eq_nil_iff call).2 (.inl hc))
        · exact hs ((steps_eq_nil_iff call).2 (.inr hcalls.1))

end WatchCall

/-- The handlers run one after the other under the mutex, each with the calls of its body. -/
def DBusConnection.signalSteps (body : Invocation η π → List (WatchCall η))
    (signal : IncomingSignal π) (c : DBusConnection δ η) : List (LockStep Unit) :=
  .acquire () :: WatchCall.stepsAll c ((c.handleSignal signal).flatMap body) ++ [.release ()]

theorem DBusConnection.signalSteps_clean_iff (body : Invocation η π → List (WatchCall η))
    (signal : IncomingSignal π) (c : DBusConnection δ η) :
    Clean [] (c.signalSteps body signal) ↔ c.isConnected = false ∨
      ∀ i ∈ c.handleSignal signal, ∀ call ∈ body i, call = .removeSignalWatch 0 := by
  have hcl := WatchCall.stepsAll_clean_iff (c := c) ((c.handleSignal signal).flatMap body)
  simp only [List.mem_flatMap, forall_exists_index, and_imp] at hcl
  simp only [signalSteps, List.cons_append, Clean, clean_append_iff, hcl, List.not_mem_nil,
    not_false_eq_true, true_and, and_true]
  exact or_congr_right ⟨fun h i hi call hc => h call i hi hc, fun h call i hi hc => h i hi call hc⟩

/-- In every state, what runs a user's callback never takes a mutex that it holds already exactly
if the callback makes only the calls that it can make there. -/
theorem callbacks_clean_iff (callbacks : Callbacks) (inner : Environment) (op : Operation)
    (w : World) (body : Invocation η π → List (WatchCall η)) (signal : IncomingSignal π)
    (c : DBusConnection δ η) :
    (Clean [] (locks (op.perform (callbacks.environment inner) w).trace) ↔
        callbacks.Permits inner w op) ∧
      (Clean [] (c.signalSteps body signal) ↔ c.isConnected = false ∨
        ∀ i ∈ c.handleSignal signal, ∀ call ∈ body i, call = .removeSignalWatch 0) :=
  ⟨Callbacks.perform_clean_iff op w, c.signalSteps_clean_iff body signal⟩

/-- A notify callback that reads the new value back. -/
def readingBack : Callbacks where
  readCallback := none
  writeCallback := none
  notifyCallback := some ⟨[.getValue], .ok ()⟩

def World.announced : World :=
  let w := (World.constructed GattProperty.propNotify).setNotifying true
  { w with characteristic := { w.characteristic with registered := true } }

theorem readingBack_not_clean : ¬ Clean [] (locks ((Operation.setValue [0x2a]).perform
    (readingBack.environment Outside.quiet.environment) World.announced).trace) := by
  rw [Callbacks.perform_clean_iff]
  intro hp
  have hm : (World.announced.characteristic.registered &&
    byteArrayMade Outside.quiet.environment [0x2a]) = true := by decide
  have ha := hp hm rfl ⟨[.getValue], .ok ()⟩ rfl
  cases ha

end Ggk
