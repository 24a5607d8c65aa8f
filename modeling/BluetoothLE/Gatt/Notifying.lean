import BluetoothLE.Lib.Machine
import BluetoothLE.Gatt.Descriptor

namespace Ggk
open Lib Gatt
set_option autoImplicit true

inductive NotifyOperation where
  | startNotify
  | stopNotify
  | handleStartNotify (call : DBusMethodCall)
  | handleStopNotify (call : DBusMethodCall)
  | setValue (newValue : List UInt8)
  | setDescriptorValue (d : Nat) (newValue : List UInt8)

namespace NotifyOperation

def perform (env : Environment) : NotifyOperation → Gatt Unit
  | .startNotify => discard (GattCharacteristic.startNotify env)
  | .stopNotify => discard (GattCharacteristic.stopNotify env)
  | .handleStartNotify call => GattCharacteristic.handleStartNotify env call
  | .handleStopNotify call => GattCharacteristic.handleStopNotify env call
  | .setValue newValue => GattCharacteristic.setValue env newValue
  | .setDescriptorValue d newValue => GattDescriptor.setValue env d newValue

/-- What an operation asks for: notifications on, notifications off, or nothing. -/
def asks (recognised : Nat → Bool) : NotifyOperation → Option Bool
  | .startNotify => some true
  | .stopNotify => some false
  | .handleStartNotify call => if call.invocation then some true else none
  | .handleStopNotify call => if call.invocation then some false else none
  | .setValue _ => none
  | .setDescriptorValue d newValue =>
    if recognised d && 2 ≤ newValue.length then some (newValue.headD 0 &&& 0x03 != 0) else none

end NotifyOperation

def notifying : Machine World (Outside × NotifyOperation) (Except Thrown Unit) where
  step w i :=
    let o := i.2.perform i.1.environment w
    (o.result, o.state)

namespace Notifications

/-- A start works when it is supported, and a start or a stop only when the variant that
announces it, if there has to be one, can be made. -/
def after (supported made : Bool) (on : Bool) : Option Bool → Bool
  | none => on
  | some true => on || supported && made
  | some false => on && !made

/-- The automaton for the characteristic and the descriptors of `w`. -/
def reference (w : World) : Machine Bool (Outside × NotifyOperation) Unit where
  step on i := ((), after w.characteristic.supportsNotify
    (!w.characteristic.registered || i.1.booleanVariant) on
    (i.2.asks fun d => (w.descriptors d).isCccd))

theorem after_supported (h : on = true → supported = true) (asked : Option Bool) :
    after supported made on asked = true → supported = true := by
  intro ha
  rcases asked with _ | _ | _
  · exact h ha
  · exact h ((Bool.and_eq_true_iff.1 ha).1)
  · rcases Bool.or_eq_true_iff.1 ha with hon | hs
    · exact h hon
    · exact (Bool.and_eq_true_iff.1 hs).1

end Notifications

/-- A call that returned true has set the flag to `wanted`, and one that returned false has
neither changed it nor sent anything. -/
def Truthful (wanted : Bool) (x : Gatt Bool) (w : World) : Prop :=
  ((x w).result = .ok true → (x w).state.characteristic.notifying = wanted) ∧
    ((x w).result = .ok false →
      (x w).state.characteristic.notifying = w.characteristic.notifying ∧
        ∀ e ∈ (x w).trace, ¬ e.IsSignal)

section Calls
variable (out : Outside) (w : World)

theorem lock_not_signal (m : Mutex) : ∀ e ∈ [Event.acquire m, .release m], ¬ e.IsSignal := by
  intro e he hs
  obtain ⟨path, interface, name, value, rfl⟩ := hs
  simp at he

theorem startNotify_truthful :
    Truthful true (GattCharacteristic.startNotify out.environment) w := by
  cases h : w.characteristic.starts out.environment with
  | false =>
    rw [Truthful, GattCharacteristic.startNotify_idle h]
    exact ⟨Except.ok.inj, fun _ => ⟨rfl, lock_not_signal _⟩⟩
  | true =>
    rw [Truthful, GattCharacteristic.startNotify_started h]
    apply And.intro fun _ => rfl
    intro hr
    cases hn : out.notifyResult <;> simp [hn, Except.map] at hr

theorem stopNotify_truthful :
    Truthful false (GattCharacteristic.stopNotify out.environment) w := by
  cases h : w.characteristic.stops out.environment with
  | false =>
    rw [Truthful, GattCharacteristic.stopNotify_idle h]
    exact ⟨fun hr => by simpa using hr, fun _ => ⟨rfl, lock_not_signal _⟩⟩
  | true =>
    rw [Truthful, GattCharacteristic.stopNotify_stopped h]
    apply And.intro fun _ => rfl
    intro hr
    cases hr

end Calls

/-- What a run leaves of the objects that it starts with. -/
structure SameObjects (w₀ w : World) : Prop where
  properties : w.characteristic.properties = w₀.characteristic.properties
  registered : w.characteristic.registered = w₀.characteristic.registered
  isCccd : ∀ d, (w.descriptors d).isCccd = (w₀.descriptors d).isCccd

namespace SameObjects

theorem refl (w : World) : SameObjects w w := ⟨rfl, rfl, fun _ => rfl⟩

theorem setNotifying (h : SameObjects w₀ w) (on : Bool) : SameObjects w₀ (w.setNotifying on) :=
  ⟨h.properties, h.registered, h.isCccd⟩

theorem setCharacteristicValue (h : SameObjects w₀ w) (value : List UInt8) :
    SameObjects w₀ (w.setCharacteristicValue value) :=
  ⟨h.properties, h.registered, h.isCccd⟩

theorem setDescriptorValue (h : SameObjects w₀ w) (d : Nat) (value : List UInt8) :
    SameObjects w₀ (w.setDescriptorValue d value) := by
  apply SameObjects.mk (w := w.setDescriptorValue d value) h.properties h.registered
  intro d'
  by_cases hd : d' = d
  · rw [hd, World.setDescriptorValue_self, GattDescriptor.isCccd_setValue]
    exact h.isCccd d
  · rw [World.setDescriptorValue_other hd]
    exact h.isCccd d'

theorem supportsNotify (h : SameObjects w₀ w) :
    w.characteristic.supportsNotify = w₀.characteristic.supportsNotify := by
  rw [GattCharacteristic.supportsNotify, GattCharacteristic.supportsNotify, h.properties]

theorem asks (h : SameObjects w₀ w) :
    (fun d => (w.descriptors d).isCccd) = fun d => (w₀.descriptors d).isCccd :=
  funext h.isCccd

end SameObjects

section Steps
variable (out : Outside) (w : World)

theorem low_bits (first : UInt8) :
    (first &&& 0x01 != 0 || first &&& 0x02 != 0) = (first &&& 0x03 != 0) := by
  obtain ⟨bits⟩ := first
  revert bits
  decide +kernel

theorem request_eq_asks (d : Nat) (newValue : List UInt8) :
    (w.descriptors d).request newValue =
      (NotifyOperation.setDescriptorValue d newValue).asks fun d => (w.descriptors d).isCccd := by
  rw [GattDescriptor.request, NotifyOperation.asks]
  cases (w.descriptors d).isCccd with
  | false => rfl
  | true =>
    rcases newValue with _ | ⟨first, _ | ⟨second, rest⟩⟩
    · rfl
    · rfl
    · rw [if_pos rfl, GattDescriptor.requested, low_bits, if_pos (by simp)]
      rfl

theorem carryOut_after (asked : Option Bool) :
    (GattDescriptor.carryOut out.environment asked w).state =
      w.setNotifying (Notifications.after w.characteristic.supportsNotify
        (w.characteristic.announces out.environment) w.characteristic.notifying asked) := by
  rw [GattDescriptor.carryOut_state]
  rcases asked with _ | _ | _
  · rfl
  · cases hn : w.characteristic.notifying <;>
      simp [Notifications.after, GattCharacteristic.stops, hn]
  · cases hn : w.characteristic.notifying <;>
      simp [Notifications.after, GattCharacteristic.starts, hn]

theorem setValue_state (newValue : List UInt8) :
    (GattCharacteristic.setValue out.environment newValue w).state =
      w.setCharacteristicValue newValue := by
  rcases GattCharacteristic.setValue_state_cases out.environment newValue w with h | h
  · exact h
  · rw [h, Outside.runNotifyCallback_apply]

/-- An operation stores its value, and otherwise changes the flag as it asks for it. -/
theorem perform_state (op : NotifyOperation) :
    ∃ stored, SameObjects w stored ∧
      (op.perform out.environment w).state = stored.setNotifying
        (Notifications.after w.characteristic.supportsNotify
          (w.characteristic.announces out.environment) w.characteristic.notifying
          (op.asks fun d => (w.descriptors d).isCccd)) := by
  cases op with
  | startNotify => exact ⟨w, .refl w, carryOut_after out w (some true)⟩
  | stopNotify => exact ⟨w, .refl w, carryOut_after out w (some false)⟩
  | handleStartNotify call =>
    apply Exists.intro w
    apply And.intro (.refl w)
    cases hi : call.invocation with
    | false => simp [NotifyOperation.perform, NotifyOperation.asks, Notifications.after, hi,
        GattCharacteristic.handleStartNotify, World.setNotifying_self]
    | true =>
      rw [NotifyOperation.perform, GattCharacteristic.handleStartNotify_state _ hi,
        NotifyOperation.asks, if_pos hi, ← carryOut_after]
      exact (discard_apply _ _).1.symm
  | handleStopNotify call =>
    apply Exists.intro w
    apply And.intro (.refl w)
    cases hi : call.invocation with
    | false => simp [NotifyOperation.perform, NotifyOperation.asks, Notifications.after, hi,
        GattCharacteristic.handleStopNotify, World.setNotifying_self]
    | true =>
      rw [NotifyOperation.perform, GattCharacteristic.handleStopNotify_state _ hi,
        NotifyOperation.asks, if_pos hi, ← carryOut_after]
      exact (discard_apply _ _).1.symm
  | setValue newValue =>
    exact ⟨w.setCharacteristicValue newValue, (SameObjects.refl w).setCharacteristicValue newValue,
      (setValue_state out w newValue).trans (World.setNotifying_self rfl).symm⟩
  | setDescriptorValue d newValue =>
    have hs := (GattDescriptor.setValue_apply out.environment d newValue w).1
    rw [carryOut_after, request_eq_asks] at hs
    exact ⟨w.setDescriptorValue d newValue, (SameObjects.refl w).setDescriptorValue d newValue, hs⟩

end Steps

/-- A world and the automaton at the same place of a run. -/
structure Follows (w₀ w : World) (on : Bool) : Prop where
  same : SameObjects w₀ w
  flag : w.characteristic.notifying = on
  supported : on = true → w₀.characteristic.supportsNotify = true

theorem Follows.next (h : Follows w₀ w on) (i : Outside × NotifyOperation) :
    Follows w₀ (notifying.next w i) ((Notifications.reference w₀).next on i) := by
  obtain ⟨stored, hs, heq⟩ := perform_state i.1 w i.2
  rw [h.same.supportsNotify, h.same.asks, h.flag, GattCharacteristic.announces,
    h.same.registered] at heq
  have hnext : notifying.next w i =
      stored.setNotifying ((Notifications.reference w₀).next on i) := heq
  rw [hnext]
  apply Follows.mk _ rfl (Notifications.after_supported h.supported _)
  exact ⟨hs.properties.trans h.same.properties, hs.registered.trans h.same.registered,
    fun d => (hs.isCccd d).trans (h.same.isCccd d)⟩

theorem GattCharacteristic.supportsNotify_iff {c : GattCharacteristic} :
    c.supportsNotify = true ↔ c.properties &&& GattProperty.propNotify ≠ 0 ∨
      c.properties &&& GattProperty.propIndicate ≠ 0 := by
  rw [supportsNotify, Bool.or_eq_true, bne_iff_ne, bne_iff_ne]

/-- The flag is what the automaton makes of the run, and only ever on where one of the bits for
notifications and indications is set. -/
theorem notifying_run (w : World) (hw : w.characteristic.notifying = false)
    (is : List (Outside × NotifyOperation)) :
    ((notifying.run w is).characteristic.notifying = true →
        (notifying.run w is).characteristic.properties &&& GattProperty.propNotify ≠ 0 ∨
          (notifying.run w is).characteristic.properties &&& GattProperty.propIndicate ≠ 0) ∧
      (∀ (out : Outside) w', Truthful true (GattCharacteristic.startNotify out.environment) w' ∧
        Truthful false (GattCharacteristic.stopNotify out.environment) w') ∧
      (notifying.run w is).characteristic.notifying =
        (Notifications.reference w).run false is := by
  have hstart : Follows w w false := ⟨.refl w, hw, fun h => absurd h Bool.false_ne_true⟩
  have hrun : Follows w (notifying.run w is) ((Notifications.reference w).run false is) :=
    Machine.run_simulates (C := fun _ _ => True) hstart (fun _ _ i h _ => h.next i)
      (Machine.every_of_forall fun _ _ _ => trivial)
  apply And.intro
  · intro hn
    rw [← GattCharacteristic.supportsNotify_iff, hrun.same.supportsNotify]
    exact hrun.supported (hrun.flag.symm.trans hn)
  · exact ⟨fun out w' => ⟨startNotify_truthful out w', stopNotify_truthful out w'⟩, hrun.flag⟩

theorem notifying_example :
    (notifying.run (.constructed GattProperty.propIndicate)
      [(.quiet, .startNotify), (.quiet, .handleStopNotify (.readValue "")),
        (.quiet, .setDescriptorValue 0 [0x02, 0x00]),
        (.quiet, .setValue [0x07])]).characteristic.notifying = true :=
  (notifying_run (.constructed GattProperty.propIndicate) rfl _).2.2

end Ggk
