import BluetoothLE.Lib.Locks
import BluetoothLE.Gatt.Descriptor

namespace Ggk
open Lib Gatt
set_option autoImplicit true

def Event.lockStep? : Event → Option (LockStep Mutex)
  | .acquire m => some (.acquire m)
  | .release m => some (.release m)
  | _ => none

theorem Event.IsReply.lockStep? (h : IsReply e) : e.lockStep? = none := by
  obtain ⟨r, rfl⟩ := h
  rfl

theorem Event.IsSignal.lockStep? (h : IsSignal e) : e.lockStep? = none := by
  obtain ⟨path, interface, name, value, rfl⟩ := h
  rfl

def locks (trace : List Event) : List (LockStep Mutex) := trace.filterMap Event.lockStep?

@[simp] theorem locks_nil : locks [] = [] := rfl

@[simp] theorem locks_append (s t : List Event) : locks (s ++ t) = locks s ++ locks t :=
  List.filterMap_append

@[simp] theorem locks_acquire (m : Mutex) (t : List Event) :
    locks (.acquire m :: t) = .acquire m :: locks t := rfl

@[simp] theorem locks_release (m : Mutex) (t : List Event) :
    locks (.release m :: t) = .release m :: locks t := rfl

theorem locks_eq_nil (h : ∀ e ∈ trace, e.lockStep? = none) : locks trace = [] :=
  List.filterMap_eq_nil_iff.2 h

theorem locks_replies (h : ∀ e ∈ trace, Event.IsReply e) : locks trace = [] :=
  locks_eq_nil fun e he => (h e he).lockStep?

theorem locks_signals (h : ∀ e ∈ trace, Event.IsSignal e) : locks trace = [] :=
  locks_eq_nil fun e he => (h e he).lockStep?

theorem locks_catchStd {x : Gatt α} {handler : String → Gatt α}
    (hh : ∀ what, Effect.Emits Event.IsReply (handler what)) :
    locks (catchStd x handler w).trace = locks (x w).trace := by
  obtain ⟨-, t, ht, he⟩ := Effect.catching_emits what (x := x) hh w
  rw [catchStd, he, locks_append, locks_replies ht, List.append_nil]

@[simp] theorem locks_notifyTrace (out : Outside) : locks out.notifyTrace = [] := by
  rw [Outside.notifyTrace]
  cases out.notifyCallback <;> rfl

@[simp] theorem locks_announcement (c : GattCharacteristic) (b : Bool) :
    locks (c.announcement b) = [] := by
  rw [GattCharacteristic.announcement]
  cases c.registered <;> rfl

@[simp] theorem locks_propertyChanged (path : DBusObjectPath) (interface name : String)
    (v : GVariant) (t : List Event) :
    locks (.propertyChanged path interface name v :: t) = locks t := rfl

@[simp] theorem locks_readTrace (o : GattObject) (r : Except Thrown (List UInt8)) :
    locks (Outside.readTrace o r) = [] := by
  rcases r with (_ | _ | _) | _ <;> rfl

@[simp] theorem locks_writeTrace (out : Outside) (o : GattObject) (newValue : List UInt8) :
    locks (out.writeTrace o newValue) = [] := by
  rw [Outside.writeTrace]
  cases out.writeCallback o with
  | none => rfl
  | some f =>
    cases h : f newValue with
    | ok b => simp only [h]; rfl
    | error e => cases e <;> simp only [h] <;> rfl

inductive Operation where
  | setValue (newValue : List UInt8)
  | getValue
  | startNotify
  | stopNotify
  | isNotifying
  | handleReadValue (call : DBusMethodCall)
  | handleWriteValue (call : DBusMethodCall)
  | setDescriptorValue (d : Nat) (newValue : List UInt8)

def Operation.perform (env : Environment) : Operation → Gatt Unit
  | .setValue newValue => GattCharacteristic.setValue env newValue
  | .getValue => discard GattCharacteristic.getValue
  | .startNotify => discard (GattCharacteristic.startNotify env)
  | .stopNotify => discard (GattCharacteristic.stopNotify env)
  | .isNotifying => discard GattCharacteristic.isNotifying
  | .handleReadValue call => GattCharacteristic.handleReadValue env call
  | .handleWriteValue call => GattCharacteristic.handleWriteValue env call
  | .setDescriptorValue d newValue => GattDescriptor.setValue env d newValue

/-- An operation together with what decides its path: the state that it meets and what it
calls outside. -/
structure Call where
  op : Operation
  out : Outside
  world : World

namespace Call

def steps (c : Call) : List (LockStep Mutex) :=
  locks (c.op.perform c.out.environment c.world).trace

/-- A local change of the value that is announced, and so asks for the flag. -/
def asksFlag (c : Call) : Bool :=
  match c.op with
  | .setValue newValue =>
    c.world.characteristic.registered && byteArrayMade c.out.environment newValue
  | _ => false

def notifies (c : Call) : Bool := c.asksFlag && c.world.characteristic.notifying

def starts (c : Call) : Bool :=
  match c.op with
  | .startNotify => c.world.characteristic.starts c.out.environment
  | .setDescriptorValue d newValue =>
    (c.world.descriptors d).request newValue == some true &&
      c.world.characteristic.starts c.out.environment
  | _ => false

def readsValue (c : Call) : Bool :=
  match c.op with
  | .handleReadValue call => call.invocation && (c.out.readCallback .characteristic).isNone
  | _ => false

end Call

theorem locks_startNotify (env : Environment) (w : World) :
    locks (GattCharacteristic.startNotify env w).trace =
      .acquire .notifyMutex ::
        (if w.characteristic.starts env then
          .acquire .callbackMutex :: locks (runNotifyCallback env (w.setNotifying true)).trace ++
            [.release .callbackMutex]
        else []) ++ [.release .notifyMutex] := by
  cases h : w.characteristic.starts env with
  | false => rw [GattCharacteristic.startNotify_idle h]; rfl
  | true =>
    rw [GattCharacteristic.startNotify_starts h]
    simp

theorem locks_stopNotify (env : Environment) (w : World) :
    locks (GattCharacteristic.stopNotify env w).trace = oneByOne [.notifyMutex] := by
  cases h : w.characteristic.stops env with
  | false => rw [GattCharacteristic.stopNotify_idle h]; rfl
  | true => rw [GattCharacteristic.stopNotify_stopped h]; simp [oneByOne]

theorem locks_setValue (env : Environment) (newValue : List UInt8) (w : World) :
    locks (GattCharacteristic.setValue env newValue w).trace =
      .acquire .valueMutex ::
        (if w.characteristic.registered && byteArrayMade env newValue then
          .acquire .notifyMutex :: .release .notifyMutex ::
            if w.characteristic.notifying then
              .acquire .callbackMutex ::
                locks (runNotifyCallback env (w.setCharacteristicValue newValue)).trace ++
                  [.release .callbackMutex]
            else []
        else []) ++ [.release .valueMutex] := by
  cases hr : w.characteristic.registered with
  | false => rw [GattCharacteristic.setValue_unregistered _ _ hr]; rfl
  | true =>
    cases hm : byteArrayMade env newValue with
    | false => obtain ⟨r, h⟩ := GattCharacteristic.setValue_not_made hr hm; rw [h]; rfl
    | true =>
      obtain ⟨v, hv⟩ := gvariantFromByteArray_made hm
      cases hn : w.characteristic.notifying with
      | false =>
        rw [GattCharacteristic.setValue_idle hr hv hn, GattCharacteristic.valueAnnouncement]
        simp
      | true =>
        rw [GattCharacteristic.setValue_notifies hr hv hn, GattCharacteristic.valueAnnouncement]
        by_cases hk :
            (runNotifyCallback env (w.setCharacteristicValue newValue)).result.isOk = true
        · simp [hk]
        · simp [hk]

theorem locks_handleReadValue (env : Environment) (w : World) (hi : call.invocation = true) :
    locks (GattCharacteristic.handleReadValue env call w).trace =
      .acquire .callbackMutex :: locks (readLocked env .characteristic w).trace ++
        [.release .callbackMutex] := by
  obtain ⟨-, replies, hr, ht⟩ := handleReadValue_apply env .characteristic w hi
  rw [GattCharacteristic.handleReadValue, ht]
  simp [locks_replies hr, GattObject.callbackMutex]

theorem locks_handleWriteValue (env : Environment) (w : World) (hd : decoded call = some newValue) :
    ∃ ms, locks (GattCharacteristic.handleWriteValue env call w).trace =
      .acquire .callbackMutex :: locks (writeLocked env .characteristic newValue w).trace ++
        .release .callbackMutex :: oneByOne ms := by
  let store (newValue : List UInt8) : Gatt Unit :=
    withLock .valueMutex (Effect.modify fun w => w.setCharacteristicValue newValue)
  rw [GattCharacteristic.handleWriteValue]
  by_cases ha : (writeLocked env .characteristic newValue w).result = .ok (some true)
  · obtain ⟨-, replies, hr, ht⟩ := handleWriteValue_stored store w hd ha
    exact ⟨[.valueMutex], by
      rw [ht]
      simp [locks_replies hr, store, withLock, GattObject.callbackMutex, oneByOne]⟩
  · obtain ⟨-, replies, hr, ht⟩ := handleWriteValue_skipped store w hd ha
    exact ⟨[], by
      rw [ht]
      simp [locks_replies hr, GattObject.callbackMutex, oneByOne]⟩

theorem locks_setDescriptorValue (env : Environment) (d : Nat) (newValue : List UInt8)
    (w : World) :
    locks (GattDescriptor.setValue env d newValue w).trace =
      oneByOne [.descriptorValueMutex d] ++
        match (w.descriptors d).request newValue with
        | none => []
        | some true =>
          locks (GattCharacteristic.startNotify env (w.setDescriptorValue d newValue)).trace
        | some false => oneByOne [.notifyMutex] := by
  obtain ⟨signals, hs, ht⟩ := (GattDescriptor.setValue_apply env d newValue w).2
  rw [ht, locks_append, locks_append, locks_signals fun e he => (hs e he).isSignal,
    List.append_nil]
  refine congrArg _ ?_
  rcases (w.descriptors d).request newValue with _ | _ | _
  · rfl
  · rw [GattDescriptor.carryOut, (discard_apply _ _).2, locks_stopNotify]
  · rw [GattDescriptor.carryOut, (discard_apply _ _).2]

namespace Outside

theorem locks_runNotifyCallback (out : Outside) (w : World) :
    locks (runNotifyCallback out.environment w).trace = [] := by
  rw [runNotifyCallback_apply, locks_notifyTrace]

theorem locks_startNotify (out : Outside) (w : World) :
    locks (GattCharacteristic.startNotify out.environment w).trace =
      if w.characteristic.starts out.environment then
        [.acquire .notifyMutex, .acquire .callbackMutex, .release .callbackMutex,
          .release .notifyMutex]
      else oneByOne [.notifyMutex] := by
  rw [Ggk.locks_startNotify, out.locks_runNotifyCallback]
  cases w.characteristic.starts out.environment <;> rfl

theorem locks_setValue (out : Outside) (newValue : List UInt8) (w : World) :
    locks (GattCharacteristic.setValue out.environment newValue w).trace =
      if w.characteristic.registered && byteArrayMade out.environment newValue then
        if w.characteristic.notifying then
          [.acquire .valueMutex, .acquire .notifyMutex, .release .notifyMutex,
            .acquire .callbackMutex, .release .callbackMutex, .release .valueMutex]
        else
          [.acquire .valueMutex, .acquire .notifyMutex, .release .notifyMutex,
            .release .valueMutex]
      else oneByOne [.valueMutex] := by
  rw [Ggk.locks_setValue, out.locks_runNotifyCallback]
  cases w.characteristic.registered && byteArrayMade out.environment newValue with
  | false => rfl
  | true => cases w.characteristic.notifying <;> rfl

theorem locks_readLocked (out : Outside) (o : GattObject) (w : World) :
    locks (readLocked out.environment o w).trace =
      if (out.readCallback o).isNone then oneByOne [o.valueMutex] else [] := by
  cases h : out.readCallback o with
  | none => rw [readLocked_stored (by simp [environment, h])]; rfl
  | some r => rw [readLocked_callback h]; simp

end Outside

namespace Call
variable {c : Call}

/-- The part of a call that takes one mutex while it holds another. -/
def nest (c : Call) : List (LockStep Mutex) :=
  if c.notifies then
    [.acquire .valueMutex, .acquire .notifyMutex, .release .notifyMutex, .acquire .callbackMutex,
      .release .callbackMutex, .release .valueMutex]
  else if c.asksFlag then
    [.acquire .valueMutex, .acquire .notifyMutex, .release .notifyMutex, .release .valueMutex]
  else if c.starts then
    [.acquire .notifyMutex, .acquire .callbackMutex, .release .callbackMutex,
      .release .notifyMutex]
  else if c.readsValue then
    [.acquire .callbackMutex, .acquire .valueMutex, .release .valueMutex, .release .callbackMutex]
  else []

theorem nest_asksFlag (h : c.asksFlag = true) :
    ∃ rest, c.nest = [.acquire .valueMutex] ++ .acquire .notifyMutex :: rest := by
  rw [nest]
  split
  · exact ⟨_, rfl⟩
  · exact ⟨_, rfl⟩

theorem nest_notifies (h : c.notifies = true) :
    ∃ rest, c.nest = [.acquire .valueMutex, .acquire .notifyMutex, .release .notifyMutex] ++
      .acquire .callbackMutex :: rest := by
  rw [nest, if_pos h]
  exact ⟨_, rfl⟩

theorem nest_starts (h : c.starts = true) :
    ∃ rest, c.nest = [.acquire .notifyMutex] ++ .acquire .callbackMutex :: rest := by
  have hop : c.asksFlag = false := by
    obtain ⟨op, out, w⟩ := c
    cases op <;> first | rfl | exact absurd h Bool.false_ne_true
  rw [nest, notifies, hop, h]
  exact ⟨_, rfl⟩

theorem nest_readsValue (h : c.readsValue = true) :
    ∃ rest, c.nest = [.acquire .callbackMutex] ++ .acquire .valueMutex :: rest := by
  have hop : c.asksFlag = false ∧ c.starts = false := by
    obtain ⟨op, out, w⟩ := c
    cases op <;> first | exact absurd h Bool.false_ne_true | exact ⟨rfl, rfl⟩
  rw [nest, notifies, hop.1, hop.2, h]
  exact ⟨_, rfl⟩

/-- A call takes mutexes one by one before the part that takes one inside another. -/
def Nests (c : Call) : Prop := ∃ ms, c.steps = oneByOne ms ++ c.nest

section Operations
variable (out : Outside) (w : World)

theorem nests_setValue (newValue : List UInt8) : Nests ⟨.setValue newValue, out, w⟩ := by
  rw [Nests, steps, Operation.perform, out.locks_setValue]
  cases hm : w.characteristic.registered && byteArrayMade out.environment newValue with
  | false => exact ⟨[.valueMutex], by simp [nest, notifies, asksFlag, starts, readsValue, hm]⟩
  | true =>
    cases hn : w.characteristic.notifying <;>
      exact ⟨[], by simp [oneByOne, nest, notifies, asksFlag, hm, hn]⟩

theorem nests_startNotify : Nests ⟨.startNotify, out, w⟩ := by
  rw [Nests, steps, Operation.perform, (discard_apply _ _).2, out.locks_startNotify]
  cases hs : w.characteristic.starts out.environment with
  | false => exact ⟨[.notifyMutex], by simp [nest, notifies, asksFlag, starts, readsValue, hs]⟩
  | true => exact ⟨[], by simp [oneByOne, nest, notifies, asksFlag, starts, hs]⟩

theorem nests_handleReadValue (call : DBusMethodCall) :
    Nests ⟨.handleReadValue call, out, w⟩ := by
  rw [Nests, steps, Operation.perform]
  cases hi : call.invocation with
  | false =>
    exact ⟨[], by
      simp [GattCharacteristic.handleReadValue, Gatt.handleReadValue, oneByOne, nest, notifies,
        asksFlag, starts, readsValue, hi]⟩
  | true =>
    rw [locks_handleReadValue _ w hi, out.locks_readLocked]
    cases hr : (out.readCallback .characteristic).isNone with
    | false =>
      exact ⟨[.callbackMutex], by
        simp [oneByOne, nest, notifies, asksFlag, starts, readsValue, hi, hr]⟩
    | true =>
      exact ⟨[], by
        simp [oneByOne, nest, notifies, asksFlag, starts, readsValue, hi, hr,
          GattObject.valueMutex]⟩

theorem nests_handleWriteValue (call : DBusMethodCall) :
    Nests ⟨.handleWriteValue call, out, w⟩ := by
  rw [Nests, steps, Operation.perform]
  cases hd : decoded call with
  | none =>
    rw [GattCharacteristic.handleWriteValue, locks_replies (handleWriteValue_undecoded _ hd).2]
    exact ⟨[], by simp [oneByOne, nest, notifies, asksFlag, starts, readsValue]⟩
  | some newValue =>
    obtain ⟨ms, h⟩ := locks_handleWriteValue out.environment w hd
    rw [h, Outside.writeLocked_apply, locks_writeTrace]
    exact ⟨.callbackMutex :: ms, by
      simp [oneByOne, nest, notifies, asksFlag, starts, readsValue]⟩

theorem nests_setDescriptorValue (d : Nat) (newValue : List UInt8) :
    Nests ⟨.setDescriptorValue d newValue, out, w⟩ := by
  rw [Nests, steps, Operation.perform, locks_setDescriptorValue, out.locks_startNotify,
    World.setDescriptorValue_characteristic]
  rcases hr : (w.descriptors d).request newValue with _ | _ | _
  · exact ⟨[.descriptorValueMutex d], by
      simp [nest, notifies, asksFlag, starts, readsValue, hr]⟩
  · exact ⟨[.descriptorValueMutex d, .notifyMutex], by
      simp [oneByOne, nest, notifies, asksFlag, starts, readsValue, hr]⟩
  · cases hs : w.characteristic.starts out.environment with
    | false =>
      exact ⟨[.descriptorValueMutex d, .notifyMutex], by
        simp [oneByOne, nest, notifies, asksFlag, starts, readsValue, hr, hs]⟩
    | true =>
      exact ⟨[.descriptorValueMutex d], by
        simp [nest, notifies, asksFlag, starts, hr, hs]⟩

end Operations

theorem steps_eq_nest (c : Call) : c.Nests := by
  obtain ⟨op, out, w⟩ := c
  cases op with
  | setValue newValue => exact nests_setValue out w newValue
  | getValue => exact ⟨[.valueMutex], rfl⟩
  | startNotify => exact nests_startNotify out w
  | stopNotify =>
    rw [Nests, steps, Operation.perform, (discard_apply _ _).2, locks_stopNotify]
    exact ⟨[.notifyMutex], rfl⟩
  | isNotifying => exact ⟨[.notifyMutex], rfl⟩
  | handleReadValue call => exact nests_handleReadValue out w call
  | handleWriteValue call => exact nests_handleWriteValue out w call
  | setDescriptorValue d newValue => exact nests_setDescriptorValue out w d newValue

theorem nest_clean (c : Call) : Clean [] c.nest ∧ heldAfter [] c.nest = [] := by
  rw [nest]
  split
  · exact ⟨by simp [Clean], rfl⟩
  · split
    · exact ⟨by simp [Clean], rfl⟩
    · split
      · exact ⟨by simp [Clean], rfl⟩
      · split
        · exact ⟨by simp [Clean], rfl⟩
        · exact ⟨trivial, rfl⟩

theorem steps_clean (c : Call) : Clean [] c.steps ∧ heldAfter [] c.steps = [] := by
  obtain ⟨ms, hs⟩ := c.steps_eq_nest
  obtain ⟨hc, hh⟩ := oneByOne_clean ms
  rw [hs]
  refine ⟨hc.append ?_, ?_⟩
  · rw [hh]; exact c.nest_clean.1
  · rw [heldAfter_append, hh]; exact c.nest_clean.2

/-- The ways to take a mutex while another one is held, each with the calls that do it. -/
inductive Nesting : Mutex → Mutex → (Call → Bool) → Prop
  | asksFlag : Nesting .valueMutex .notifyMutex asksFlag
  | notifies : Nesting .valueMutex .callbackMutex notifies
  | starts : Nesting .notifyMutex .callbackMutex starts
  | readsValue : Nesting .callbackMutex .valueMutex readsValue

theorem nested_steps (hn : Nested c.steps h m) : ∃ kind, Nesting h m kind ∧ kind c = true := by
  have hmem := hn.mem_nestings
  obtain ⟨ms, hs⟩ := c.steps_eq_nest
  rw [hs, nestings_oneByOne, nest] at hmem
  split at hmem
  · rename_i hc
    have ha : c.asksFlag = true := (Bool.and_eq_true_iff.1 hc).1
    simp [nestings] at hmem
    rcases hmem with ⟨rfl, rfl⟩ | ⟨rfl, rfl⟩
    · exact ⟨_, .asksFlag, ha⟩
    · exact ⟨_, .notifies, hc⟩
  · split at hmem
    · rename_i hc
      simp [nestings] at hmem
      obtain ⟨rfl, rfl⟩ := hmem
      exact ⟨_, .asksFlag, hc⟩
    · split at hmem
      · rename_i hc
        simp [nestings] at hmem
        obtain ⟨rfl, rfl⟩ := hmem
        exact ⟨_, .starts, hc⟩
      · split at hmem
        · rename_i hc
          simp [nestings] at hmem
          obtain ⟨rfl, rfl⟩ := hmem
          exact ⟨_, .readsValue, hc⟩
        · cases hmem

end Call

section Threads
variable {θ : Type u} {calls : θ → List Call}

def program (calls : θ → List Call) (t : θ) : List (LockStep Mutex) :=
  ((calls t).map Call.steps).flatten

theorem nested_program (hn : Nested (program calls t) h m) :
    ∃ c ∈ calls t, Nested c.steps h m := by
  obtain ⟨trace, ht, hn⟩ := Nested.of_flatten hn fun trace ht => by
    obtain ⟨c, -, rfl⟩ := List.mem_map.1 ht
    exact c.steps_clean.2
  obtain ⟨c, hc, rfl⟩ := List.mem_map.1 ht
  exact ⟨c, hc, hn⟩

theorem exists_crossing (key : Mutex) (hc : c ∈ calls t)
    (hnest : c.nest = hold ++ .acquire next :: rest)
    (hh : Clean [] hold ∧ heldAfter [] hold = [key]) :
    ∃ x : Crossing (program calls t), x.hold = hold ∧ x.key = key ∧ x.next = next := by
  obtain ⟨earlier, later, he⟩ := List.append_of_mem hc
  obtain ⟨ms, hs⟩ := c.steps_eq_nest
  obtain ⟨hec, heh⟩ := clean_flatten (earlier.map Call.steps) fun trace ht => by
    obtain ⟨c, -, rfl⟩ := List.mem_map.1 ht
    exact c.steps_clean
  obtain ⟨hmc, hmh⟩ := oneByOne_clean ms
  refine ⟨{ before := (earlier.map Call.steps).flatten ++ oneByOne ms, hold, key, next
            rest := rest ++ (later.map Call.steps).flatten
            split := ?_, before_clean := ⟨hec.append ?_, ?_⟩, hold_clean := hh }, rfl, rfl, rfl⟩
  · rw [program, he, List.map_append, List.map_cons, List.flatten_append, List.flatten_cons, hs,
      hnest]
    simp only [List.append_assoc, List.cons_append]
  · rw [heh]; exact hmc
  · rw [heldAfter_append, heh, hmh]

def Does (calls : θ → List Call) (t : θ) (kind : Call → Bool) : Prop :=
  ∃ c ∈ calls t, kind c = true

theorem nested_kinds (hn : Nested (program calls t) h m) :
    ∃ kind, Call.Nesting h m kind ∧ Does calls t kind := by
  obtain ⟨c, hc, hn⟩ := nested_program hn
  obtain ⟨kind, hk, hkc⟩ := Call.nested_steps hn
  exact ⟨kind, hk, c, hc, hkc⟩

variable [DecidableEq θ]

theorem two_threads_deadlock (htu : t ≠ u) (ht : Does calls t Call.notifies)
    (hu : Does calls u Call.readsValue) :
    ∃ s, Reachable (program calls) s ∧ ∃ T, Deadlocked s T := by
  obtain ⟨c, hc, hk⟩ := ht
  obtain ⟨c', hc', hk'⟩ := hu
  obtain ⟨rest, hnest⟩ := Call.nest_notifies hk
  obtain ⟨rest', hnest'⟩ := Call.nest_readsValue hk'
  obtain ⟨x, hx, hxk, hxn⟩ := exists_crossing .valueMutex hc hnest ⟨by simp [Clean], rfl⟩
  obtain ⟨y, hy, hyk, hyn⟩ :=
    exists_crossing .callbackMutex hc' hnest' ⟨by simp [Clean], rfl⟩
  refine reachable_deadlock (L := [⟨u, y⟩, ⟨t, x⟩]) ?_ ?_ (List.cons_ne_nil _ _) ?_
  · simp [htu.symm]
  · simp [hy, hxk]
  · simp [hxk, hxn, hyk, hyn, htu, htu.symm]

theorem three_threads_deadlock (htu : t ≠ u) (huv : u ≠ v) (hvt : v ≠ t)
    (ht : Does calls t Call.asksFlag) (hu : Does calls u Call.starts)
    (hv : Does calls v Call.readsValue) :
    ∃ s, Reachable (program calls) s ∧ ∃ T, Deadlocked s T := by
  obtain ⟨c, hc, hk⟩ := ht
  obtain ⟨c', hc', hk'⟩ := hu
  obtain ⟨c'', hc'', hk''⟩ := hv
  obtain ⟨rest, hnest⟩ := Call.nest_asksFlag hk
  obtain ⟨rest', hnest'⟩ := Call.nest_starts hk'
  obtain ⟨rest'', hnest''⟩ := Call.nest_readsValue hk''
  obtain ⟨x, hx, hxk, hxn⟩ := exists_crossing .valueMutex hc hnest ⟨by simp [Clean], rfl⟩
  obtain ⟨y, hy, hyk, hyn⟩ :=
    exists_crossing .notifyMutex hc' hnest' ⟨by simp [Clean], rfl⟩
  obtain ⟨z, hz, hzk, hzn⟩ :=
    exists_crossing .callbackMutex hc'' hnest'' ⟨by simp [Clean], rfl⟩
  refine reachable_deadlock (L := [⟨v, z⟩, ⟨u, y⟩, ⟨t, x⟩]) ?_ ?_ (List.cons_ne_nil _ _) ?_
  · simp [htu.symm, huv.symm, hvt]
  · simp [hy, hz, hxk, hyk]
  · simp [hxk, hxn, hyk, hyn, hzk, hzn, htu, huv, hvt, htu.symm, huv.symm, hvt.symm]

/-- Who holds a mutex in a deadlock waits for another one, in one of the four ways. -/
theorem holder_kinds {T : Set θ} (hr : Reachable (program calls) s) (hd : Deadlocked s T)
    (ht : t ∈ T) (hh : h ∈ (s t).held) :
    ∃ m kind, Waiting s t m ∧ (∃ u ∈ T, m ∈ (s u).held) ∧ Call.Nesting h m kind ∧
      Does calls t kind := by
  obtain ⟨m, hw, u, hu, _, hm⟩ := hd.2 t ht
  obtain ⟨kind, hk, hdoes⟩ := nested_kinds (hr.nested hw hh)
  exact ⟨m, kind, hw, ⟨u, hu, hm⟩, hk, hdoes⟩

theorem callbackMutex_held {T : Set θ} (hr : Reachable (program calls) s)
    (hd : Deadlocked s T) : ∃ t ∈ T, .callbackMutex ∈ (s t).held := by
  have hnotify {t} (ht : t ∈ T) (hh : .notifyMutex ∈ (s t).held) :
      ∃ t ∈ T, .callbackMutex ∈ (s t).held := by
    obtain ⟨m, kind, _, hu, hk, _⟩ := holder_kinds hr hd ht hh
    cases hk with
    | starts => exact hu
  obtain ⟨t, ht, h, hh⟩ := hd.holder
  obtain ⟨m, kind, _, ⟨u, hu, hm⟩, hk, _⟩ := holder_kinds hr hd ht hh
  cases hk with
  | asksFlag => exact hnotify hu hm
  | notifies => exact ⟨u, hu, hm⟩
  | starts => exact ⟨u, hu, hm⟩
  | readsValue => exact ⟨t, ht, hh⟩

theorem deadlock_kinds {T : Set θ} (hr : Reachable (program calls) s) (hd : Deadlocked s T) :
    (∃ t u, t ≠ u ∧ Does calls t Call.notifies ∧ Does calls u Call.readsValue) ∨
      ∃ t u v, t ≠ u ∧ u ≠ v ∧ v ≠ t ∧ Does calls t Call.asksFlag ∧ Does calls u Call.starts ∧
        Does calls v Call.readsValue := by
  obtain ⟨v, hv, hvh⟩ := callbackMutex_held hr hd
  obtain ⟨m, kind, hvw, ⟨t, ht, hth⟩, hk, hreads⟩ := holder_kinds hr hd hv hvh
  cases hk with
  | readsValue =>
    obtain ⟨m, kind, htw, ⟨u, hu, huh⟩, hk, htdoes⟩ := holder_kinds hr hd ht hth
    cases hk with
    | notifies => exact .inl ⟨t, v, htw.ne hvw (by decide), htdoes, hreads⟩
    | asksFlag =>
      obtain ⟨m, kind, huw, _, hk, hstarts⟩ := holder_kinds hr hd hu huh
      cases hk with
      | starts => exact .inr ⟨t, u, v, htw.ne huw (by decide), huw.ne hvw (by decide),
          hvw.ne htw (by decide), htdoes, hstarts, hreads⟩

/-- There is no deadlock exactly when no two threads and no three threads can close a cycle:
one that comes from `setValue` to the notify callback, or asks there for the flag that
another one holds on its way to the callback, and one that reads the stored value. -/
theorem deadlock_free_iff (calls : θ → List Call) :
    (∀ s, Reachable (program calls) s → ∀ T, ¬ Deadlocked s T) ↔
      (∀ t u, t ≠ u → Does calls t Call.notifies → ¬ Does calls u Call.readsValue) ∧
        ∀ t u v, t ≠ u → u ≠ v → v ≠ t → Does calls t Call.asksFlag →
          Does calls u Call.starts → ¬ Does calls v Call.readsValue := by
  apply Iff.intro
  · intro h
    apply And.intro
    · intro t u htu ht hu
      obtain ⟨s, hr, T, hd⟩ := two_threads_deadlock htu ht hu
      exact h s hr T hd
    · intro t u v htu huv hvt ht hu hv
      obtain ⟨s, hr, T, hd⟩ := three_threads_deadlock htu huv hvt ht hu hv
      exact h s hr T hd
  · intro h s hr T hd
    obtain ⟨h₂, h₃⟩ := h
    rcases deadlock_kinds hr hd with ⟨t, u, htu, ht, hu⟩ | ⟨t, u, v, htu, huv, hvt, ht, hu, hv⟩
    · exact h₂ t u htu ht hu
    · exact h₃ t u v htu huv hvt ht hu hv

/-- One thread sets the value of a notifying characteristic, the other reads it. -/
def setAndRead (thread : Bool) : List Call :=
  let notified := (World.constructed GattProperty.propNotify).setNotifying true
  let world := { notified with
    characteristic := { notified.characteristic with registered := true } }
  if thread then [⟨.setValue [0x2a], .quiet, world⟩]
  else [⟨.handleReadValue (.readValue BlueZConstants.gattCharacteristicInterface), .quiet, world⟩]

theorem setAndRead_deadlocks :
    ∃ s, Reachable (program setAndRead) s ∧ ∃ T, Deadlocked s T :=
  two_threads_deadlock (t := true) (u := false) (by decide) ⟨_, List.mem_singleton.2 rfl, by decide⟩
    ⟨_, List.mem_singleton.2 rfl, by decide⟩

end Threads
end Ggk
