import BluetoothLE.Gatt.Frames
import BluetoothLE.Gatt.Notifying
import BluetoothLE.Gatt.WriteValue

namespace Ggk
open Lib Gatt
set_option autoImplicit true

def GattObject.setValue (env : Environment) : GattObject → List UInt8 → Gatt Unit
  | .characteristic => GattCharacteristic.setValue env
  | .descriptor d => GattDescriptor.setValue env d

inductive ValueOperation where
  | setValue (newValue : List UInt8)
  | handleWriteValue (call : DBusMethodCall)

namespace ValueOperation

def perform (env : Environment) (o : GattObject) : ValueOperation → Gatt Unit
  | .setValue newValue => o.setValue env newValue
  | .handleWriteValue call => o.handleWriteValue env call

/-- How an operation stores a value. -/
def store (env : Environment) (o : GattObject) : ValueOperation → List UInt8 → Gatt Unit
  | .setValue _ => o.setValue env
  | .handleWriteValue _ => o.store env

/-- The value that an operation comes to store, if any, and the state that it finds then, which
is the one that the write callback leaves. -/
def stores (env : Environment) (o : GattObject) (w : World) :
    ValueOperation → Option (List UInt8 × World)
  | .setValue newValue => some (newValue, w)
  | .handleWriteValue call => (decoded call).bind fun newValue =>
    match (writeLocked env o newValue w).result with
    | .ok (some true) => some (newValue, (writeLocked env o newValue w).state)
    | _ => none

/-- A value is announced where there is a variant for it, unless the notify callback throws first.
An accepted write to a characteristic is only stored. -/
def announces (env : Environment) (w : World) (newValue : List UInt8) :
    GattObject → ValueOperation → Bool
  | .characteristic, .setValue _ =>
    byteArrayMade env newValue && (!w.characteristic.notifying ||
      (runNotifyCallback env (w.setCharacteristicValue newValue)).result.isOk)
  | .characteristic, .handleWriteValue _ => false
  | .descriptor d, _ => byteArrayMade env newValue && !env.interrupts w d newValue

/-- The bytes that an operation on `o` stores arrive at an observer that has the old ones. -/
def Kept (env : Environment) (w : World) (o : GattObject) (op : ValueOperation) : Prop :=
  ∀ newValue w', op.stores env o w = some (newValue, w') →
    if announces env w' newValue o op then newValue.length < 2 ^ 31 else newValue = o.value w'

variable {env : Environment} {w : World} {o o' : GattObject} {op : ValueOperation}

/-- An operation stores its value, if it gets so far. Besides, it only calls the write callback
and replies. -/
theorem perform_cases {R : World → List Event → World → Prop} (hR : Frame R)
    (hw : ∀ f, env.writeCallback o = some f → ∀ newValue, Effect.Guarantees R (f newValue))
    (w : World) (op : ValueOperation) :
    op.stores env o w = none ∧
        R w (op.perform env o w).trace (op.perform env o w).state ∨
      ∃ newValue w' t replies, op.stores env o w = some (newValue, w') ∧ R w t w' ∧
        (∀ e ∈ replies, Event.IsReply e) ∧
        (op.perform env o w).state = (op.store env o newValue w').state ∧
        (op.perform env o w).trace = t ++ (op.store env o newValue w').trace ++ replies := by
  cases op with
  | setValue newValue =>
    exact .inr ⟨newValue, w, [], [], rfl, hR.composes.refl w, by simp, rfl,
      by rw [List.append_nil]; rfl⟩
  | handleWriteValue call =>
    rw [perform, GattObject.handleWriteValue_eq_store, stores]
    cases hd : decoded call with
    | none =>
      obtain ⟨hs, ht⟩ := handleWriteValue_undecoded (o := o) (w := w) env hd
      rw [hs]
      exact .inl ⟨rfl, hR.replies ht w⟩
    | some newValue =>
      have hlocked := hR.withLock o.callbackMutex (hR.writeLocked hw newValue) w
      rw [Option.bind_some]
      by_cases hv : (writeLocked env o newValue w).result = .ok (some true)
      · obtain ⟨hs, replies, hr, ht⟩ := handleWriteValue_stored (o.store env) w hd hv
        rw [hs, ht]
        refine .inr ⟨newValue, _, _, replies, ?_, hlocked, hr, rfl, ?_⟩
        · simp only [hv]
          rfl
        · simp [withLock, store]
      · obtain ⟨hs, replies, hr, ht⟩ := handleWriteValue_skipped (o.store env) w hd hv
        have hreplied := hR.replies hr (writeLocked env o newValue w).state
        rw [hs, ht]
        left
        constructor
        · split
          · exact absurd ‹_› hv
          · rfl
        · simpa [withLock] using hR.composes.trans hlocked hreplied

/-- An operation assigns the value and leaves it to the notify callback what becomes of it. -/
theorem store_state_cases (env : Environment) (o : GattObject) (op : ValueOperation)
    (newValue : List UInt8) (w : World) :
    (op.store env o newValue w).state = o.assign w newValue ∨
      (op.store env o newValue w).state =
        (runNotifyCallback env (o.assign w newValue)).state ∨
      ∃ descriptor : GattDescriptor, (op.store env o newValue w).state =
        (descriptor.changes env newValue (o.assign w newValue)).state := by
  cases o with
  | characteristic =>
    cases op with
    | setValue _ =>
      exact (GattCharacteristic.setValue_state_cases env newValue w).imp_right .inl
    | handleWriteValue _ => exact .inl rfl
  | descriptor d =>
    have h := (GattDescriptor.setValue_changes env d newValue w).1
    cases op with
    | setValue _ => exact .inr (.inr ⟨w.descriptors d, h⟩)
    | handleWriteValue _ => exact .inr (.inr ⟨w.descriptors d, h⟩)

theorem store_spared (hn : ∀ f, env.notifyCallback = some f → Effect.Guarantees o.Spared f)
    (o' : GattObject) (op : ValueOperation) (newValue : List UInt8) (w : World) :
    ∃ t, o.Spared (o'.assign w newValue) t (op.store env o' newValue w).state := by
  obtain h | h | ⟨descriptor, h⟩ := op.store_state_cases env o' newValue w
  · rw [h]
    exact ⟨[], o.spared_frame.composes.refl _⟩
  · rw [h]
    exact ⟨_, o.spared_frame.runNotifyCallback hn _⟩
  · rw [h]
    exact ⟨_, o.spared_frame.changes hn descriptor newValue _⟩

theorem announced_setCharacteristicValue
    (hn : ∀ f, env.notifyCallback = some f →
      Effect.Guarantees GattObject.characteristic.Untouched f)
    (hr : w.characteristic.registered = true) (newValue : List UInt8) :
    GattObject.characteristic.announced w (GattCharacteristic.setValue env newValue w).trace =
      if byteArrayMade env newValue && (!w.characteristic.notifying ||
        (runNotifyCallback env (w.setCharacteristicValue newValue)).result.isOk) then
        [variantBytes newValue]
      else [] := by
  have hvalue (t : List Event) : GattObject.characteristic.announced w
      (w.characteristic.valueAnnouncement (.byteArray (variantBytes newValue)) :: t) =
        variantBytes newValue :: GattObject.characteristic.announced w t := by
    apply List.filterMap_cons_some
    exact if_pos ⟨rfl, rfl, rfl⟩
  cases hm : byteArrayMade env newValue with
  | false =>
    obtain ⟨r, h⟩ := GattCharacteristic.setValue_not_made hr hm
    rw [h]
    rfl
  | true =>
    have hv := gvariantFromByteArray_eq hm
    cases hnotifying : w.characteristic.notifying with
    | false =>
      rw [GattCharacteristic.setValue_idle hr hv hnotifying]
      simp [hvalue]
    | true =>
      have hcalled : GattObject.characteristic.announced w
          (runNotifyCallback env (w.setCharacteristicValue newValue)).trace = [] :=
        (GattObject.characteristic.untouched_frame.runNotifyCallback hn
          (w.setCharacteristicValue newValue)).2
      rw [GattCharacteristic.setValue_notifies hr hv hnotifying]
      dsimp only
      cases (runNotifyCallback env (w.setCharacteristicValue newValue)).result.isOk <;>
        simp [hvalue, hcalled]

theorem announced_valueRequest (hstays : (GattObject.descriptor d).Stays w w')
    (hr : (w.descriptors d).registered = true) (hvalue : (w'.descriptors d).value = newValue) :
    (GattObject.descriptor d).announced w
        ((w'.descriptors d).valueRequest env (w'.descriptors d).value) =
      if byteArrayMade env newValue then [variantBytes newValue] else [] := by
  have hregistered : (w'.descriptors d).registered = true := hstays.registered.trans hr
  rw [GattDescriptor.valueRequest, hvalue, hregistered, Bool.true_and]
  cases byteArrayMade env newValue with
  | false => rfl
  | true => exact List.filterMap_cons_some (if_pos ⟨hstays.path, rfl, rfl⟩)

theorem announced_setDescriptorValue
    (hn : ∀ f, env.notifyCallback = some f →
      Effect.Guarantees (GattObject.descriptor d).Untouched f)
    (hr : (w.descriptors d).registered = true) (newValue : List UInt8) :
    (GattObject.descriptor d).announced w (GattDescriptor.setValue env d newValue w).trace =
      if byteArrayMade env newValue && !env.interrupts w d newValue then [variantBytes newValue]
      else [] := by
  have hchanged := (GattObject.descriptor d).untouched_frame.changes hn (w.descriptors d) newValue
    (w.setDescriptorValue d newValue)
  have hassign := GattObject.assign_stays (.descriptor d) (.descriptor d) newValue w
  have hstays := hassign.trans hchanged.1.1
  have hvalue := hchanged.1.2.trans (GattObject.value_assign_self (.descriptor d) newValue w)
  have hsilent := (GattObject.announced_congr hassign.path _).symm.trans hchanged.2
  rw [(GattDescriptor.setValue_changes env d newValue w).2, GattObject.announced_append,
    GattObject.announced_append, hsilent, GattDescriptor.changes_isOk]
  cases env.interrupts w d newValue with
  | true => simp
  | false => simpa using announced_valueRequest hstays hr hvalue

theorem store_announced
    (hn : ∀ f, env.notifyCallback = some f → Effect.Guarantees o.Untouched f)
    (hr : o.registered w = true) (op : ValueOperation) (newValue : List UInt8) :
    o.announced w (op.store env o newValue w).trace =
      if announces env w newValue o op then [variantBytes newValue] else [] := by
  cases o with
  | characteristic =>
    cases op with
    | setValue _ => exact announced_setCharacteristicValue hn hr newValue
    | handleWriteValue _ => rfl
  | descriptor d =>
    cases op with
    | setValue _ => exact announced_setDescriptorValue hn hr newValue
    | handleWriteValue _ => exact announced_setDescriptorValue hn hr newValue

theorem announces_sized (h : op.announces env w newValue o = true) : Sized newValue := by
  have hm : byteArrayMade env newValue = true := by
    cases o with
    | characteristic =>
      cases op with
      | setValue _ => exact (Bool.and_eq_true_iff.1 h).1
      | handleWriteValue _ => cases h
    | descriptor d => cases op <;> exact (Bool.and_eq_true_iff.1 h).1
  exact (byteArrayMade_iff.1 hm).2

end ValueOperation

/-- An object, and what an observer of its announcements takes its value to be. -/
structure Observed where
  world : World
  seen : List UInt8

structure ValueStep where
  env : Environment
  object : GattObject
  op : ValueOperation

/-- The callbacks may do anything that neither changes nor announces the bytes of `o`. The write
callback of `o` may also change them if it announces that. -/
structure ValueStep.Considerate (i : ValueStep) (o : GattObject) : Prop where
  write : ∀ f, i.env.writeCallback i.object = some f → ∀ newValue,
    Effect.Guarantees (if i.object = o then o.Tracked else o.Spared) (f newValue)
  notify : ∀ f, i.env.notifyCallback = some f → Effect.Guarantees o.Untouched f

/-- Callbacks that call nothing back are considerate. -/
theorem considerate_outside (out : Outside) (o o' : GattObject) (op : ValueOperation) :
    (⟨out.environment, o', op⟩ : ValueStep).Considerate o := by
  constructor
  · intro f hf newValue
    obtain ⟨f', _, rfl⟩ := Option.map_eq_some_iff.1 hf
    dsimp only
    split_ifs
    · exact o.tracked_frame.ending _
    · exact o.spared_frame.ending _
  · intro f hf
    obtain ⟨r, _, rfl⟩ := Option.map_eq_some_iff.1 hf
    exact o.untouched_frame.ending r

/-- Operations on any of the objects, with an observer that applies the announcements of `o`. -/
def observing (o : GattObject) : Machine Observed ValueStep (Except Thrown Unit) where
  step s i :=
    let done := i.op.perform i.env i.object s.world
    (done.result,
      { world := done.state
        seen := if i.object = o then (o.announced s.world done.trace).getLastD s.seen
          else s.seen })

def Observed.UpToDate (s : Observed) (o : GattObject) : Prop := s.seen = o.value s.world

instance (s : Observed) (o : GattObject) : Decidable (s.UpToDate o) :=
  inferInstanceAs (Decidable (s.seen = o.value s.world))

section Steps
variable {o : GattObject} {s : Observed}

theorem ValueStep.Considerate.notify_spared {i : ValueStep} (h : i.Considerate o) :
    ∀ f, i.env.notifyCallback = some f → Effect.Guarantees o.Spared f :=
  fun f hf => (h.notify f hf).mono fun _ _ _ hu => hu.1

/-- What is done to another object neither changes the value of `o` nor is applied. -/
theorem observing_other (hs : s.UpToDate o) {i : ValueStep} (hc : i.Considerate o)
    (hi : i.object ≠ o) :
    o.registered ((observing o).next s i).world = o.registered s.world ∧
      ((observing o).next s i).UpToDate o := by
  have hnext : (observing o).next s i =
      ⟨(i.op.perform i.env i.object s.world).state, s.seen⟩ := by
    simp only [Machine.next, observing, if_neg hi]
  have hwrite := hc.write
  simp only [if_neg hi] at hwrite
  have hspared : ∃ t, o.Spared s.world t (i.op.perform i.env i.object s.world).state := by
    obtain ⟨_, ht⟩ | ⟨newValue, w', t, _, _, ht, _, hst, _⟩ :=
      ValueOperation.perform_cases o.spared_frame hwrite s.world i.op
    · exact ⟨_, ht⟩
    · obtain ⟨t', hstore⟩ := ValueOperation.store_spared hc.notify_spared i.object i.op newValue w'
      have hassign := GattObject.assign_spared hi newValue w'
      rw [hst]
      exact ⟨_, o.spared_frame.composes.trans ht (o.spared_frame.composes.trans hassign hstore)⟩
  obtain ⟨_, hstays, hvalue⟩ := hspared
  rw [hnext, Observed.UpToDate]
  exact ⟨hstays.registered, hs.trans hvalue.symm⟩

theorem observing_own (hr : o.registered s.world = true) (hs : s.UpToDate o) {env : Environment}
    {op : ValueOperation} (hc : (⟨env, o, op⟩ : ValueStep).Considerate o) :
    o.registered ((observing o).next s ⟨env, o, op⟩).world = o.registered s.world ∧
      (((observing o).next s ⟨env, o, op⟩).UpToDate o ↔ op.Kept env s.world o) := by
  have hnext : (observing o).next s ⟨env, o, op⟩ =
      ⟨(op.perform env o s.world).state,
        (o.announced s.world (op.perform env o s.world).trace).getLastD s.seen⟩ := by
    simp only [Machine.next, observing, if_true]
  have hwrite := hc.write
  simp only [if_true] at hwrite
  rw [hnext, Observed.UpToDate, hs]
  obtain ⟨hn, ht⟩ | ⟨newValue, w', t, replies, hn, ht, hreplies, hst, htrace⟩ :=
    ValueOperation.perform_cases o.tracked_frame hwrite s.world op
  · refine ⟨ht.1.registered, iff_of_true ht.2 ?_⟩
    intro newValue w' hv
    cases hn.symm.trans hv
  · obtain ⟨t', hstore⟩ := ValueOperation.store_spared hc.notify_spared o op newValue w'
    have hassign := GattObject.assign_stays o o newValue w'
    have hvalue := hstore.2.trans (GattObject.value_assign_self o newValue w')
    have hannounced := ValueOperation.store_announced hc.notify (ht.1.registered.trans hr) op
      newValue
    have hkept : op.Kept env s.world o ↔
        if op.announces env w' newValue o then newValue.length < 2 ^ 31
        else newValue = o.value w' := by
      rw [ValueOperation.Kept, hn]
      simp
    rw [hst, htrace, hvalue, GattObject.announced_append, GattObject.announced_append,
      GattObject.announced_replies hreplies, List.append_nil, GattObject.getLastD_append, ht.2,
      ← GattObject.announced_congr ht.1.path, hannounced, hkept]
    refine ⟨(ht.1.trans (hassign.trans hstore.1)).registered, ?_⟩
    split_ifs with ha
    · simp only [List.getLastD_cons, List.getLastD_nil]
      exact variantBytes_eq_iff (ValueOperation.announces_sized ha)
    · exact eq_comm

end Steps

/-- The observer is always up to date exactly when the bytes of every operation on the object
arrive. -/
theorem observing_iff (o : GattObject) (s : Observed) (hr : o.registered s.world = true)
    (hs : s.UpToDate o) (is : List ValueStep) (hc : ∀ i ∈ is, i.Considerate o) :
    (observing o).Every (fun s i => ((observing o).next s i).UpToDate o) s is ↔
      (observing o).Every (fun s i => i.object = o → i.op.Kept i.env s.world o) s is := by
  have hiff (s : Observed) (i : ValueStep) (h : o.registered s.world = true ∧ s.UpToDate o)
      (hc : i.Considerate o) : o.registered ((observing o).next s i).world = o.registered s.world ∧
        (((observing o).next s i).UpToDate o ↔
          (i.object = o → i.op.Kept i.env s.world o)) := by
    obtain ⟨env, o', op⟩ := i
    by_cases hi : o' = o
    · cases hi
      obtain ⟨hregistered, hkept⟩ := observing_own h.1 h.2 hc
      exact ⟨hregistered, hkept.trans ⟨fun h _ => h, fun h => h rfl⟩⟩
    · obtain ⟨hregistered, hnext⟩ := observing_other h.2 hc hi
      exact ⟨hregistered, iff_of_true hnext fun ho => absurd ho hi⟩
  apply Machine.every_iff_of_forall hc (I := fun s => o.registered s.world = true ∧ s.UpToDate o)
    ⟨hr, hs⟩
  · exact fun s i h hc => (hiff s i h hc).2
  · intro s i h hc hkept
    exact ⟨(hiff s i h hc).1.trans h.1, (hiff s i h hc).2.2 hkept⟩

/-- A remote write to a characteristic stores a byte that no observer hears of. -/
theorem written_not_announced :
    ¬ ∀ (o : GattObject) (s : Observed), o.registered s.world = true → s.UpToDate o →
      ∀ is, (observing o).Every (fun s i => ((observing o).next s i).UpToDate o) s is := by
  intro h
  have hw := h .characteristic ⟨(World.constructed GattProperty.propNotify).setUp, []⟩ rfl rfl
    [⟨Outside.quiet.environment, .characteristic, .handleWriteValue
      (.writeValue BlueZConstants.gattCharacteristicInterface [0x07])⟩]
  exact absurd hw.1 (by decide)

/-- The same write to a descriptor is announced. -/
theorem observing_example :
    let s : Observed := ⟨(World.constructed GattProperty.propNotify).setUp, []⟩
    let is : List ValueStep := [⟨Outside.quiet.environment, .descriptor 0, .handleWriteValue
      (.writeValue BlueZConstants.gattDescriptorInterface [0x07])⟩]
    (observing (.descriptor 0)).Every
        (fun s i => ((observing (.descriptor 0)).next s i).UpToDate (.descriptor 0)) s is ↔
      (observing (.descriptor 0)).Every (fun s i => i.object = .descriptor 0 →
        i.op.Kept i.env s.world (.descriptor 0)) s is := by
  intro s is
  apply observing_iff (.descriptor 0) s rfl rfl is
  intro i hi
  cases List.mem_singleton.1 hi
  exact considerate_outside .quiet (.descriptor 0) (.descriptor 0) _

end Ggk
