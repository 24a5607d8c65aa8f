import BluetoothLE.Gatt.Descriptor
import BluetoothLE.Gatt.Uuid

namespace Ggk
open Lib Gatt
set_option autoImplicit true

/-- A descriptor is the client configuration of its characteristic if its UUID is the one that
the short number stands for, in whatever spelling. -/
def GattDescriptor.IsConfiguration (descriptor : GattDescriptor) : Prop :=
  descriptor.uuid.toBlueZFormat = (GattUuid.fromShortUuid 0x2902).toBlueZFormat

/-- An event that is not about the notifications of the characteristic. -/
def Event.Aside (e : Event) : Prop :=
  e ≠ .notifyCallback ∧ ¬ e.Announces BlueZConstants.gattCharacteristicInterface "Notifying"

/-- Nothing becomes of the characteristic, and nothing is heard of its notifications. -/
def Untouched (w : World) (o : Outcome Thrown World Event Unit) : Prop :=
  o.state.characteristic = w.characteristic ∧ ∀ e ∈ o.trace, e.Aside

theorem Event.aside_lock (m : Mutex) : ∀ e ∈ [acquire m, release m], e.Aside := by
  intro e he
  simp only [List.mem_cons, List.not_mem_nil, or_false] at he
  rcases he with rfl | rfl <;> exact ⟨nofun, nofun⟩

theorem Event.Announces.aside
    (h : Announces BlueZConstants.gattDescriptorInterface "Value" e) : e.Aside := by
  obtain ⟨path, value, rfl⟩ := h
  refine ⟨nofun, ?_⟩
  rintro ⟨path', value', heq⟩
  exact absurd (Event.propertyChanged.inj heq).2.1 (by decide)

namespace GattDescriptor
variable {w : World} {env : Environment} {r : Option Bool}

/-- A value that starts or stops nothing, because it does not ask for that or because the
characteristic is there already or cannot go there. -/
def Idle (env : Environment) (c : GattCharacteristic) (r : Option Bool) : Prop :=
  (r = some true → c.starts env = false) ∧ (r = some false → c.stops env = false)

/-- What the store and the announcement of a value do is aside. -/
theorem untouched_setValue (env : Environment) (d : Nat) (newValue : List UInt8) (w : World) :
    Untouched w (setValue env d newValue w) ↔
      Untouched w (carryOut env ((w.descriptors d).request newValue)
        (w.setDescriptorValue d newValue) : Outcome Thrown World Event Unit) := by
  obtain ⟨hs, signals, hsignals, ht⟩ := setValue_apply env d newValue w
  rw [Untouched, Untouched, hs, ht]
  simp only [List.forall_mem_append]
  apply and_congr_right'
  exact ⟨fun h => h.1.2, fun h => ⟨⟨Event.aside_lock _, h⟩, fun e he => (hsignals e he).aside⟩⟩

theorem untouched_discard (x : Gatt α) (w w' : World) :
    Untouched w' (discard x w) ↔ (x w).state.characteristic = w'.characteristic ∧
      ∀ e ∈ (x w).trace, e.Aside := by
  rw [Untouched, (discard_apply x w).1, (discard_apply x w).2]

/-- The flag changes, or somebody is called who could have changed it back. -/
theorem started_touched (h : w.characteristic.starts env = true) :
    ¬ Untouched w (carryOut env (some true) w) := by
  rw [carryOut, untouched_discard, GattCharacteristic.startNotify_starts h]
  rintro ⟨hstate, htrace⟩
  cases hn : env.notifyCallback with
  | none =>
    simp only [runNotifyCallback, hn] at hstate
    have hflag := congrArg GattCharacteristic.notifying hstate
    rw [(GattCharacteristic.starts_iff.1 h).1] at hflag
    cases hflag
  | some notifyCallback =>
    have hcall : Event.notifyCallback ∈ (runNotifyCallback env (w.setNotifying true)).trace := by
      rw [runNotifyCallback, hn]
      exact Effect.mem_catching_trace List.mem_cons_self
    exact (htrace _ (by simp [hcall])).1 rfl

theorem stopped_touched (h : w.characteristic.stops env = true) :
    ¬ Untouched w (carryOut env (some false) w) := by
  rw [carryOut, untouched_discard, GattCharacteristic.stopNotify_stopped h]
  rintro ⟨hstate, _⟩
  have hflag := congrArg GattCharacteristic.notifying hstate
  rw [(GattCharacteristic.stops_iff.1 h).1] at hflag
  cases hflag

theorem idle_untouched (h : Idle env w.characteristic r) : Untouched w (carryOut env r w) := by
  rcases r with _ | _ | _
  · exact ⟨rfl, List.forall_mem_nil _⟩
  · rw [carryOut, untouched_discard, GattCharacteristic.stopNotify_idle (h.2 rfl)]
    exact ⟨rfl, Event.aside_lock _⟩
  · rw [carryOut, untouched_discard, GattCharacteristic.startNotify_idle (h.1 rfl)]
    exact ⟨rfl, Event.aside_lock _⟩

theorem untouched_carryOut (env : Environment) (r : Option Bool) (w : World) :
    Untouched w (carryOut env r w) ↔ Idle env w.characteristic r := by
  refine ⟨fun h => ⟨?_, ?_⟩, idle_untouched⟩
  · rintro rfl
    exact Bool.eq_false_iff.2 fun hs => started_touched hs h
  · rintro rfl
    exact Bool.eq_false_iff.2 fun hs => stopped_touched hs h

/-- What does not denote the client configuration leaves the characteristic alone, unless it
starts with the same eight digits and has something to start or to stop. -/
theorem setValue_untouched_iff (env : Environment) (d : Nat) (newValue : List UInt8)
    (w : World) :
    (¬ (w.descriptors d).IsConfiguration → Untouched w (setValue env d newValue w)) ↔
      (¬ (w.descriptors d).IsConfiguration → (w.descriptors d).isCccd = true →
        Idle env w.characteristic (requested newValue)) := by
  apply imp_congr_right
  intro _
  rw [untouched_setValue, request]
  split_ifs with hc
  · rw [forall_prop_of_true hc]
    exact untouched_carryOut env (requested newValue) (w.setDescriptorValue d newValue)
  · exact iff_of_true ⟨rfl, List.forall_mem_nil _⟩ fun h => absurd h hc

/-- A descriptor of somebody else's, whose UUID starts like the client configuration's. -/
def vendorWorld : World where
  characteristic := (World.constructed GattProperty.propNotify).characteristic
  descriptors _ :=
    { path := ⟨"/app/service0/char1/desc1"⟩, registered := false,
      uuid := ⟨"00002902-1111-2222-3333-444444444444", by decide⟩, permissions := 0x03,
      value := [] }

/-- It starts the notifications of the characteristic all the same. -/
theorem vendor_starts :
    ¬ (vendorWorld.descriptors 0).IsConfiguration ∧
      ¬ Untouched vendorWorld (setValue Outside.quiet.environment 0 [0x01, 0x00] vendorWorld) ∧
      vendorWorld.characteristic.notifying = false ∧
      (setValue Outside.quiet.environment 0 [0x01, 0x00]
        vendorWorld).state.characteristic.notifying = true := by
  have hstarted : (setValue Outside.quiet.environment 0 [0x01, 0x00]
      vendorWorld).state.characteristic.notifying = true := by decide
  refine ⟨?_, fun h => ?_, rfl, hstarted⟩
  · rw [IsConfiguration]
    decide
  · rw [h.1] at hstarted
    cases hstarted

end GattDescriptor
end Ggk
