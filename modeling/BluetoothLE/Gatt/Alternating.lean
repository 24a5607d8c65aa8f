import BluetoothLE.Gatt.Notifying
import BluetoothLE.Gatt.Stored

namespace Ggk
open Lib Gatt
set_option autoImplicit true

/-- The value of `Notifying` that a request announces. -/
def Event.notifying? : Event → Option Bool
  | .propertyChanged _ interface name (.boolean notifying) =>
    if interface = BlueZConstants.gattCharacteristicInterface ∧ name = "Notifying" then
      some notifying
    else none
  | _ => none

def notifyingValues (trace : List Event) : List Bool := trace.filterMap Event.notifying?

@[simp] theorem notifyingValues_append (s t : List Event) :
    notifyingValues (s ++ t) = notifyingValues s ++ notifyingValues t :=
  List.filterMap_append

@[simp] theorem notifyingValues_nil : notifyingValues [] = [] := rfl

@[simp] theorem notifyingValues_acquire (m : Mutex) (t : List Event) :
    notifyingValues (.acquire m :: t) = notifyingValues t := rfl

@[simp] theorem notifyingValues_release (m : Mutex) (t : List Event) :
    notifyingValues (.release m :: t) = notifyingValues t := rfl

theorem notifyingValues_eq_nil (h : ∀ e ∈ trace, Event.notifying? e = none) :
    notifyingValues trace = [] :=
  List.filterMap_eq_nil_iff.2 h

theorem notifyingValues_replies (h : ∀ e ∈ trace, Event.IsReply e) :
    notifyingValues trace = [] := by
  apply notifyingValues_eq_nil
  intro e he
  obtain ⟨r, rfl⟩ := h e he
  rfl

@[simp] theorem notifyingValues_announcement (c : GattCharacteristic) (notifying : Bool) :
    notifyingValues (c.announcement notifying) = if c.registered then [notifying] else [] := by
  rw [GattCharacteristic.announcement]
  cases c.registered <;> simp [notifyingValues, Event.notifying?]

@[simp] theorem notifyingValues_notifyTrace (out : Outside) :
    notifyingValues out.notifyTrace = [] := by
  rw [Outside.notifyTrace]
  cases out.notifyCallback <;> rfl

@[simp] theorem notifyingValues_valueRequest (env : Environment) (descriptor : GattDescriptor)
    (newValue : List UInt8) : notifyingValues (descriptor.valueRequest env newValue) = [] := by
  rw [GattDescriptor.valueRequest]
  split_ifs <;> rfl

@[simp] theorem notifyingValues_valueAnnouncement (c : GattCharacteristic)
    (valueVariant : GVariant) (t : List Event) :
    notifyingValues (c.valueAnnouncement valueVariant :: t) = notifyingValues t := by
  cases valueVariant <;> rfl

/-- The change of the flag is announced, and nothing but a change. -/
def AnnouncesChange (x : Gatt α) (w : World) : Prop :=
  notifyingValues (x w).trace =
    if (x w).state.characteristic.notifying = w.characteristic.notifying then []
    else [(x w).state.characteristic.notifying]

section Steps
variable {w : World} (out : Outside)

theorem startNotify_announcesChange (hr : w.characteristic.registered = true) :
    AnnouncesChange (GattCharacteristic.startNotify out.environment) w := by
  rw [AnnouncesChange]
  cases h : w.characteristic.starts out.environment with
  | false =>
    rw [GattCharacteristic.startNotify_idle h]
    simp
  | true =>
    have hn := (GattCharacteristic.starts_iff.1 h).1
    rw [GattCharacteristic.startNotify_started h]
    simp [hr, hn]

theorem stopNotify_announcesChange (hr : w.characteristic.registered = true) :
    AnnouncesChange (GattCharacteristic.stopNotify out.environment) w := by
  rw [AnnouncesChange]
  cases h : w.characteristic.stops out.environment with
  | false =>
    rw [GattCharacteristic.stopNotify_idle h]
    simp
  | true =>
    have hn := (GattCharacteristic.stops_iff.1 h).1
    rw [GattCharacteristic.stopNotify_stopped h]
    simp [hr, hn]

/-- Replies are no announcements. -/
theorem AnnouncesChange.bind {x : Gatt α} {k : α → Gatt β} (h : AnnouncesChange x w)
    (hk : ∀ a, Effect.Emits Event.IsReply (k a)) : AnnouncesChange (x >>= k) w := by
  obtain ⟨hs, replies, hr, ht⟩ := Effect.bind_emits (x := x) hk w
  rw [AnnouncesChange, hs, ht, notifyingValues_append, notifyingValues_replies hr,
    List.append_nil]
  exact h

theorem discard_announcesChange {x : Gatt α} (h : AnnouncesChange x w) :
    AnnouncesChange (discard x) w :=
  h.bind fun _ => .pure ()

theorem carryOut_announcesChange (hr : w.characteristic.registered = true)
    (asked : Option Bool) :
    AnnouncesChange (GattDescriptor.carryOut out.environment asked) w := by
  rcases asked with _ | _ | _
  · exact (if_pos rfl).symm
  · exact discard_announcesChange (stopNotify_announcesChange out hr)
  · exact discard_announcesChange (startNotify_announcesChange out hr)

theorem setDescriptorValue_announcesChange (hr : w.characteristic.registered = true) (d : Nat)
    (newValue : List UInt8) :
    AnnouncesChange (GattDescriptor.setValue out.environment d newValue) w := by
  have h := carryOut_announcesChange (w := w.setDescriptorValue d newValue) out hr
    ((w.descriptors d).request newValue)
  rw [AnnouncesChange] at h
  rw [AnnouncesChange, GattDescriptor.setValue_outcome]
  generalize GattDescriptor.carryOut out.environment ((w.descriptors d).request newValue)
    (w.setDescriptorValue d newValue) = carried at h ⊢
  rw [World.setDescriptorValue_characteristic] at h
  by_cases hi : out.interrupts w d newValue = true
  · rw [if_pos hi]
    simpa only [notifyingValues_append, notifyingValues_acquire, notifyingValues_release,
      notifyingValues_nil, List.nil_append] using h
  · rw [if_neg hi]
    simpa only [notifyingValues_append, notifyingValues_acquire, notifyingValues_release,
      notifyingValues_nil, notifyingValues_valueRequest, List.nil_append, List.append_nil] using h

theorem setValue_announcesChange (hr : w.characteristic.registered = true)
    (newValue : List UInt8) :
    AnnouncesChange (GattCharacteristic.setValue out.environment newValue) w := by
  rw [AnnouncesChange, setValue_state, World.setCharacteristicValue_characteristic, if_pos rfl]
  cases hm : byteArrayMade out.environment newValue with
  | false =>
    obtain ⟨r, h⟩ := GattCharacteristic.setValue_not_made hr hm
    rw [h]
    rfl
  | true =>
    obtain ⟨v, hv⟩ := gvariantFromByteArray_made hm
    cases hn : w.characteristic.notifying with
    | false =>
      rw [GattCharacteristic.setValue_idle hr hv hn]
      simp
    | true =>
      rw [GattCharacteristic.setValue_notified hr hv hn]
      cases out.notifyResult.isOk <;> simp

theorem perform_announcesChange (hr : w.characteristic.registered = true)
    (op : NotifyOperation) : AnnouncesChange (op.perform out.environment) w := by
  cases op with
  | startNotify => exact discard_announcesChange (startNotify_announcesChange out hr)
  | stopNotify => exact discard_announcesChange (stopNotify_announcesChange out hr)
  | handleStartNotify call =>
    rw [NotifyOperation.perform, GattCharacteristic.handleStartNotify]
    split_ifs
    · apply (startNotify_announcesChange out hr).bind
      intro started
      cases started with
      | false => exact reply_emits _
      | true => exact reply_emits _
    · exact (if_pos rfl).symm
  | handleStopNotify call =>
    rw [NotifyOperation.perform, GattCharacteristic.handleStopNotify]
    split_ifs
    · apply (stopNotify_announcesChange out hr).bind
      intro stopped
      cases stopped with
      | false => exact reply_emits _
      | true => exact reply_emits _
    · exact (if_pos rfl).symm
  | setValue newValue => exact setValue_announcesChange out hr newValue
  | setDescriptorValue d newValue => exact setDescriptorValue_announcesChange out hr d newValue

theorem next_registered (i : Outside × NotifyOperation) :
    (notifying.next w i).characteristic.registered = w.characteristic.registered := by
  obtain ⟨stored, hs, heq⟩ := perform_state i.1 w i.2
  have hnext : notifying.next w i = stored.setNotifying _ := heq
  rw [hnext]
  exact hs.registered

end Steps

/-- In a run with a characteristic that is registered, the values of `Notifying` alternate from
the flag at the start, the last one is the flag, and each operation announces its own change. -/
theorem notifyingValues_run (w : World) (hr : w.characteristic.registered = true)
    (is : List (Outside × NotifyOperation)) :
    let values := notifying.said
      (fun w i => notifyingValues (i.2.perform i.1.environment w).trace) w is
    (w.characteristic.notifying :: values).IsChain (· ≠ ·) ∧
      values.getLastD w.characteristic.notifying =
        (notifying.run w is).characteristic.notifying ∧
      notifying.Every (fun w i => AnnouncesChange (i.2.perform i.1.environment) w) w is := by
  have hsteps : notifying.Every (fun w i => AnnouncesChange (i.2.perform i.1.environment) w)
      w is := by
    refine Machine.every_imp (I := fun w => w.characteristic.registered = true)
      (C := fun _ _ => True) hr ?_ (Machine.every_of_forall fun _ _ _ => trivial)
    intro w i hr _
    exact ⟨perform_announcesChange i.1 hr i.2, (next_registered i).trans hr⟩
  obtain ⟨hchain, hlast⟩ :=
    Machine.said_changes (v := fun w : World => w.characteristic.notifying) hsteps
  exact ⟨hchain, hlast, hsteps⟩

/-- A start that is rolled back, one through a client configuration whose callback throws, and a
stop. -/
theorem notifyingValues_example :
    let w := (World.constructed GattProperty.propNotify).setUp
    let values := notifying.said
      (fun w i => notifyingValues (i.2.perform i.1.environment w).trace) w
      [({ Outside.quiet with booleanVariant := false }, .startNotify),
        ({ Outside.quiet with notifyCallback := some (.error .other) },
          .setDescriptorValue 0 [0x01, 0x00]),
        (.quiet, .stopNotify)]
    values = [true, false] ∧ (false :: values).IsChain (· ≠ ·) := by
  intro w values
  exact ⟨by decide, (notifyingValues_run w rfl _).1⟩

end Ggk
