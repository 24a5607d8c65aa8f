import BluetoothLE.Lib.Machine
import BluetoothLE.Gatt.Descriptor

namespace Ggk
open Lib Gatt
set_option autoImplicit true

inductive CccdOperation where
  | setValue (newValue : List UInt8)
  | handleWriteValue (call : DBusMethodCall)
  | startNotify
  | stopNotify
  | handleStartNotify (call : DBusMethodCall)
  | handleStopNotify (call : DBusMethodCall)

def CccdOperation.perform (env : Environment) (d : Nat) : CccdOperation → Gatt Unit
  | .setValue newValue => GattDescriptor.setValue env d newValue
  | .handleWriteValue call => GattDescriptor.handleWriteValue env d call
  | .startNotify => discard (GattCharacteristic.startNotify env)
  | .stopNotify => discard (GattCharacteristic.stopNotify env)
  | .handleStartNotify call => GattCharacteristic.handleStartNotify env call
  | .handleStopNotify call => GattCharacteristic.handleStopNotify env call

/-- Each operation of a run meets its own callbacks and its own luck with variants. -/
def cccd (d : Nat) : Machine World (Outside × CccdOperation) (Except Thrown Unit) where
  step w i :=
    let o := i.2.perform i.1.environment d w
    (o.result, o.state)

/-- What a client configuration is for: the bytes that were written, and whether there are
notifications. -/
structure Subscription where
  stored : List UInt8
  enabled : Bool
  deriving DecidableEq, Repr

inductive Request where
  | write (value : List UInt8)
  | start
  | stop
  | nothing
  deriving DecidableEq, Repr

namespace Subscription

def start (s : Subscription) (supported possible : Bool) : Subscription :=
  { s with enabled := s.enabled || supported && possible }

def stop (s : Subscription) (possible : Bool) : Subscription :=
  { s with enabled := s.enabled && !possible }

/-- Bytes are stored as they come, and two of them or more start or stop the notifications.
Starting takes a characteristic that supports it. Neither works when it cannot be announced. -/
def handle (s : Subscription) (supported possible : Bool) : Request → Subscription
  | .write value =>
    match GattDescriptor.requested value with
    | none => { s with stored := value }
    | some true => { s with stored := value }.start supported possible
    | some false => { s with stored := value }.stop possible
  | .start => s.start supported possible
  | .stop => s.stop possible
  | .nothing => s

def Agree (s : Subscription) (supported : Bool) : Prop :=
  s.enabled = true ↔ GattDescriptor.requested s.stored = some true ∧ supported = true

theorem agree_write (s : Subscription) (hs : s.enabled = true → supported = true)
    (hv : GattDescriptor.requested value = some wanted) :
    (s.handle supported true (.write value)).Agree supported := by
  cases wanted with
  | false => simp [handle, hv, stop, Agree]
  | true =>
    simp only [handle, hv, start, Agree, Bool.and_true, Bool.or_eq_true, true_and]
    exact or_iff_right_of_imp hs

theorem enabled_supported (s : Subscription) (hs : s.enabled = true → supported = true) :
    (s.handle supported possible r).enabled = true → supported = true := by
  have hstart (t : Subscription) (ht : t.enabled = s.enabled) :
      (t.start supported possible).enabled = true → supported = true := by
    intro h
    simp only [start, ht, Bool.or_eq_true, Bool.and_eq_true] at h
    exact h.elim hs And.left
  have hstop (t : Subscription) (ht : t.enabled = s.enabled) :
      (t.stop possible).enabled = true → supported = true := by
    intro h
    simp only [stop, ht, Bool.and_eq_true] at h
    exact hs h.1
  cases r with
  | write value =>
    rcases hv : GattDescriptor.requested value with _ | _ | _ <;> simp only [handle, hv]
    · exact hs
    · exact hstop _ rfl
    · exact hstart _ rfl
  | start => exact hstart s rfl
  | stop => exact hstop s rfl
  | nothing => exact hs

end Subscription

def World.subscription (w : World) (d : Nat) : Subscription :=
  ⟨(w.descriptors d).value, w.characteristic.notifying⟩

def World.withSubscription (w : World) (d : Nat) (s : Subscription) : World :=
  (w.setDescriptorValue d s.stored).setNotifying s.enabled

@[simp] theorem World.withSubscription_self (w : World) (d : Nat) :
    w.withSubscription d (w.subscription d) = w := by
  simp only [withSubscription, subscription, setDescriptorValue, setNotifying,
    Function.update_eq_self]

@[simp] theorem World.subscription_withSubscription (w : World) (d : Nat) (s : Subscription) :
    (w.withSubscription d s).subscription d = s := by
  simp only [withSubscription, subscription, setNotifying_characteristic,
    setNotifying_descriptors, setDescriptorValue_self]

@[simp] theorem World.withSubscription_setDescriptorValue (w : World) (d : Nat)
    (value : List UInt8) (s : Subscription) :
    (w.setDescriptorValue d value).withSubscription d s = w.withSubscription d s := by
  simp only [withSubscription, setDescriptorValue, Function.update_self, Function.update_idem]

@[simp] theorem World.withSubscription_withSubscription (w : World) (d : Nat)
    (s t : Subscription) :
    (w.withSubscription d s).withSubscription d t = w.withSubscription d t := by
  simp only [withSubscription, setDescriptorValue, setNotifying, Function.update_self,
    Function.update_idem]

def CccdOperation.request (out : Outside) (d : Nat) : CccdOperation → Request
  | .setValue newValue => .write newValue
  | .handleWriteValue call =>
    match decoded call with
    | none => .nothing
    | some newValue =>
      if out.accepts (.descriptor d) newValue then .write newValue else .nothing
  | .startNotify => .start
  | .stopNotify => .stop
  | .handleStartNotify call => if call.invocation then .start else .nothing
  | .handleStopNotify call => if call.invocation then .stop else .nothing

section Steps
variable {w : World} {out : Outside} {d : Nat}

theorem startNotify_subscription (out : Outside) (w : World) (d : Nat) :
    (GattCharacteristic.startNotify out.environment w).state = w.withSubscription d
      ((w.subscription d).start w.characteristic.supportsNotify
        (w.characteristic.announces out.environment)) := by
  rw [GattCharacteristic.startNotify_state, GattCharacteristic.starts]
  cases hn : w.characteristic.notifying <;>
    simp [World.withSubscription, World.subscription, Subscription.start, hn,
      World.setDescriptorValue, World.setNotifying]

theorem stopNotify_subscription (out : Outside) (w : World) (d : Nat) :
    (GattCharacteristic.stopNotify out.environment w).state = w.withSubscription d
      ((w.subscription d).stop (w.characteristic.announces out.environment)) := by
  rw [GattCharacteristic.stopNotify_state, GattCharacteristic.stops]
  cases hn : w.characteristic.notifying <;>
    simp [World.withSubscription, World.subscription, Subscription.stop, hn,
      World.setDescriptorValue, World.setNotifying]

theorem setValue_subscription (out : Outside) (hc : (w.descriptors d).isCccd = true)
    (newValue : List UInt8) :
    (GattDescriptor.setValue out.environment d newValue w).state = w.withSubscription d
      ((w.subscription d).handle w.characteristic.supportsNotify
        (w.characteristic.announces out.environment) (.write newValue)) := by
  have hstored : (w.setDescriptorValue d newValue).subscription d =
      { w.subscription d with stored := newValue } := by
    simp [World.subscription]
  rw [(GattDescriptor.setValue_apply ..).1, GattDescriptor.request, if_pos hc, Subscription.handle]
  rcases GattDescriptor.requested newValue with _ | _ | _
  · exact (World.withSubscription_self (w.setDescriptorValue d newValue) d).symm.trans (by
      rw [hstored, World.withSubscription_setDescriptorValue])
  · rw [GattDescriptor.carryOut, (discard_apply _ _).1, stopNotify_subscription (d := d), hstored,
      World.withSubscription_setDescriptorValue]
    rfl
  · rw [GattDescriptor.carryOut, (discard_apply _ _).1, startNotify_subscription (d := d), hstored,
      World.withSubscription_setDescriptorValue]
    rfl

theorem perform_subscription (out : Outside) (hc : (w.descriptors d).isCccd = true)
    (op : CccdOperation) :
    (op.perform out.environment d w).state = w.withSubscription d
      ((w.subscription d).handle w.characteristic.supportsNotify
        (w.characteristic.announces out.environment) (op.request out d)) := by
  cases op with
  | setValue newValue => exact setValue_subscription out hc newValue
  | startNotify => exact (discard_apply _ _).1.trans (startNotify_subscription out w d)
  | stopNotify => exact (discard_apply _ _).1.trans (stopNotify_subscription out w d)
  | handleStartNotify call =>
    cases hi : call.invocation with
    | false => simp [CccdOperation.perform, CccdOperation.request, Subscription.handle, hi,
        GattCharacteristic.handleStartNotify]
    | true =>
      rw [CccdOperation.perform, GattCharacteristic.handleStartNotify_state _ hi,
        CccdOperation.request, if_pos hi]
      exact startNotify_subscription out w d
  | handleStopNotify call =>
    cases hi : call.invocation with
    | false => simp [CccdOperation.perform, CccdOperation.request, Subscription.handle, hi,
        GattCharacteristic.handleStopNotify]
    | true =>
      rw [CccdOperation.perform, GattCharacteristic.handleStopNotify_state _ hi,
        CccdOperation.request, if_pos hi]
      exact stopNotify_subscription out w d
  | handleWriteValue call =>
    rw [CccdOperation.perform, GattDescriptor.handleWriteValue, CccdOperation.request]
    cases hd : decoded call with
    | none =>
      rw [(handleWriteValue_undecoded out.environment hd).1]
      exact (World.withSubscription_self w d).symm
    | some newValue =>
      cases hv : out.accepts (.descriptor d) newValue with
      | true =>
        simp only [(handleWriteValue_accepted _ w hd hv).1, hv, if_true]
        exact setValue_subscription out hc newValue
      | false =>
        simp only [(handleWriteValue_declined _ w hd hv).1, hv, Bool.false_eq_true, if_false]
        exact (World.withSubscription_self w d).symm

end Steps

/-- The abstract machine over the same inputs, for a characteristic with fixed properties and
registration. -/
def Subscription.machine (c : GattCharacteristic) (d : Nat) :
    Machine Subscription (Outside × CccdOperation) Unit where
  step s i :=
    ((), s.handle c.supportsNotify (c.announces i.1.environment) (i.2.request i.1 d))

/-- No run changes more of a world than the subscription, and that as its requests say. -/
theorem cccd_run (d : Nat) (w : World) (hc : (w.descriptors d).isCccd = true)
    (is : List (Outside × CccdOperation)) :
    (cccd d).run w is = w.withSubscription d
      ((Subscription.machine w.characteristic d).run (w.subscription d) is) := by
  refine Machine.run_simulates (R := fun w' s => w' = w.withSubscription d s)
    (C := fun _ _ => True) (World.withSubscription_self w d).symm ?_
    (Machine.every_of_forall fun _ _ _ => trivial)
  intro w' s i h _
  subst h
  have hp := perform_subscription (w := w.withSubscription d s) (d := d) i.1
    (by simpa [World.withSubscription] using hc) i.2
  rw [World.subscription_withSubscription, World.withSubscription_withSubscription] at hp
  exact hp

theorem machine_enabled_supported (c : GattCharacteristic) (d : Nat) {s : Subscription}
    (hs : s.enabled = true → c.supportsNotify = true) (is : List (Outside × CccdOperation)) :
    ((Subscription.machine c d).run s is).enabled = true → c.supportsNotify = true :=
  Machine.run_invariant (I := fun s => s.enabled = true → c.supportsNotify = true)
    (C := fun _ _ => True) hs (fun t _ h _ => Subscription.enabled_supported t h)
    (Machine.every_of_forall fun _ _ _ => trivial)

theorem machine_run_nothing (c : GattCharacteristic) (d : Nat) (s : Subscription)
    (h : ∀ i ∈ is, i.2.request i.1 d = .nothing) : (Subscription.machine c d).run s is = s := by
  induction is with
  | nil => rfl
  | cons i is ih =>
    have hn : (Subscription.machine c d).next s i = s := by
      simp only [Machine.next, Subscription.machine, h i List.mem_cons_self, Subscription.handle]
    rw [Machine.run_cons, hn]
    exact ih fun j hj => h j (List.mem_cons_of_mem i hj)

/-- The stored value and the flag are what the requests of a run make of them. They agree from
a write of two bytes or more on, until the next request. -/
theorem subscription_follows_requests (d : Nat) (w : World)
    (hc : (w.descriptors d).isCccd = true) (hn : w.characteristic.notifying = false)
    (is : List (Outside × CccdOperation)) :
    ((cccd d).run w is).subscription d =
        (Subscription.machine w.characteristic d).run (w.subscription d) is ∧
      ∀ earlier out op later value, is = earlier ++ (out, op) :: later →
        op.request out d = .write value → 2 ≤ value.length →
        w.characteristic.announces out.environment = true →
        (∀ i ∈ later, i.2.request i.1 d = .nothing) →
        (((cccd d).run w is).subscription d).Agree w.characteristic.supportsNotify := by
  rw [cccd_run d w hc, World.subscription_withSubscription]
  refine ⟨rfl, ?_⟩
  rintro earlier out op later value rfl hop hlen ha hlater
  have hs : (w.subscription d).enabled = true → w.characteristic.supportsNotify = true := by
    rw [World.subscription, hn]
    exact fun h => absurd h Bool.false_ne_true
  rw [Machine.run_append, Machine.run_cons, machine_run_nothing _ _ _ hlater]
  simp only [Machine.next, Subscription.machine, hop, ha]
  obtain ⟨wanted, hv⟩ := GattDescriptor.requested_of_length hlen
  exact Subscription.agree_write _ (machine_enabled_supported w.characteristic d hs earlier) hv

theorem subscription_example :
    (((cccd 0).run (.constructed GattProperty.propNotify)
      [(.quiet, .startNotify), (.quiet, .setValue [0x00, 0x00])]).subscription 0).Agree true :=
  (subscription_follows_requests 0 (.constructed GattProperty.propNotify) (by decide) rfl
    [(.quiet, .startNotify), (.quiet, .setValue [0x00, 0x00])]).2
    [(.quiet, .startNotify)] .quiet (.setValue [0x00, 0x00]) [] [0x00, 0x00] rfl rfl (by decide)
    rfl (by simp)

/-- Whether the stored bytes ask for notifications, each bit for the property of its name. -/
def asked (w : World) (d : Nat) : Bool :=
  match (w.descriptors d).value with
  | first :: _ :: _ =>
    first &&& 0x01 != 0 && w.characteristic.properties &&& GattProperty.propNotify != 0 ||
      first &&& 0x02 != 0 && w.characteristic.properties &&& GattProperty.propIndicate != 0
  | _ => false

/-- The views part on a start without a write, on a short write, and on a bit whose property
the characteristic lacks. -/
theorem views_part :
    let after (ops : List CccdOperation) : World :=
      (cccd 0).run (.constructed GattProperty.propNotify) (ops.map fun op => (.quiet, op))
    let differ (w : World) : Prop := ¬ (w.characteristic.notifying = true ↔ asked w 0 = true)
    differ (after [.startNotify]) ∧ differ (after [.setValue [0x01, 0x00], .setValue [0x00]]) ∧
      differ (after [.setValue [0x02, 0x00]]) := by
  decide

end Ggk
