import BluetoothLE.Gatt.Stored

namespace Ggk
open Lib Gatt
set_option autoImplicit true

namespace GattObject

def path (w : World) : GattObject → DBusObjectPath
  | .characteristic => w.characteristic.path
  | .descriptor d => (w.descriptors d).path

def registered (w : World) : GattObject → Bool
  | .characteristic => w.characteristic.registered
  | .descriptor d => (w.descriptors d).registered

def interface : GattObject → String
  | .characteristic => BlueZConstants.gattCharacteristicInterface
  | .descriptor _ => BlueZConstants.gattDescriptorInterface

end GattObject

/-- A request that announces a value. -/
def Event.isValue : Event → Bool
  | .propertyChanged _ _ name _ => name == "Value"
  | _ => false

/-- The bytes that a request announces as the `Value` of an object. -/
def Event.valueOf? (path : DBusObjectPath) (interface : String) : Event → Option (List UInt8)
  | .propertyChanged path' interface' name (.byteArray bytes) =>
    if path' = path ∧ interface' = interface ∧ name = "Value" then some bytes else none
  | _ => none

theorem Event.valueOf?_eq_none {e : Event} (h : e.isValue = false) :
    e.valueOf? path interface = none := by
  cases e with
  | propertyChanged path' interface' name value =>
    have hn : name ≠ "Value" := beq_eq_false_iff_ne.1 h
    cases value with
    | byteArray bytes => exact if_neg fun hv => hn hv.2.2
    | _ => rfl
  | _ => rfl

namespace GattObject

/-- The values that are announced for an object. -/
def announced (w : World) (o : GattObject) (trace : List Event) : List (List UInt8) :=
  trace.filterMap (Event.valueOf? (o.path w) o.interface)

variable {w w' : World} {o : GattObject}

@[simp] theorem announced_append (s t : List Event) :
    o.announced w (s ++ t) = o.announced w s ++ o.announced w t :=
  List.filterMap_append

@[simp] theorem announced_nil : o.announced w [] = [] := rfl

@[simp] theorem announced_acquire (m : Mutex) (t : List Event) :
    o.announced w (.acquire m :: t) = o.announced w t := rfl

@[simp] theorem announced_release (m : Mutex) (t : List Event) :
    o.announced w (.release m :: t) = o.announced w t := rfl

theorem announced_eq_nil (h : ∀ e ∈ trace, e.isValue = false) : o.announced w trace = [] :=
  List.filterMap_eq_nil_iff.2 fun e he => Event.valueOf?_eq_none (h e he)

theorem announced_replies (h : ∀ e ∈ trace, Event.IsReply e) : o.announced w trace = [] := by
  apply announced_eq_nil
  intro e he
  obtain ⟨r, rfl⟩ := h e he
  rfl

theorem announced_congr (h : o.path w' = o.path w) (trace : List Event) :
    o.announced w' trace = o.announced w trace := by
  rw [announced, announced, h]

/-- The object keeps its path and its registration. -/
structure Stays (o : GattObject) (w w' : World) : Prop where
  path : o.path w' = o.path w
  registered : o.registered w' = o.registered w

theorem Stays.refl (o : GattObject) (w : World) : o.Stays w w := ⟨rfl, rfl⟩

theorem Stays.trans (h : Stays o w w') (h' : Stays o w' w'') : Stays o w w'' :=
  ⟨h'.path.trans h.path, h'.registered.trans h.registered⟩

/-- The stored bytes are left alone. -/
def Spared (o : GattObject) (w : World) (_ : List Event) (w' : World) : Prop :=
  o.Stays w w' ∧ o.value w' = o.value w

/-- The stored bytes are left alone and are not announced. -/
def Untouched (o : GattObject) (w : World) (trace : List Event) (w' : World) : Prop :=
  o.Spared w trace w' ∧ o.announced w trace = []

/-- Whoever had the stored bytes and applies what is announced has them again. -/
def Tracked (o : GattObject) (w : World) (trace : List Event) (w' : World) : Prop :=
  o.Stays w w' ∧ (o.announced w trace).getLastD (o.value w) = o.value w'

end GattObject

/-- A relation on what a call does that takes no notice of the flag of the notifications, nor of
any event but the announcement of a value. -/
structure Frame (R : World → List Event → World → Prop) : Prop where
  composes : Effect.Composes R
  event : ∀ e, Event.isValue e = false → ∀ w, R w [e] w
  notifying : ∀ on w, R w [] (w.setNotifying on)

namespace Frame
open Effect
variable {R : World → List Event → World → Prop} {env : Environment} {o : GattObject}

theorem replies (h : Frame R) (hr : ∀ e ∈ trace, Event.IsReply e) (w : World) : R w trace w := by
  induction trace with
  | nil => exact h.composes.refl w
  | cons e trace ih =>
    obtain ⟨r, rfl⟩ := hr _ List.mem_cons_self
    exact h.composes.trans (h.event _ rfl w) (ih fun e he => hr e (List.mem_cons_of_mem _ he))

theorem withLock (h : Frame R) (m : Mutex) {x : Gatt α} (hx : Guarantees R x) :
    Guarantees R (withLock m x) :=
  .guarded h.composes (h.event _ rfl) (h.event _ rfl) hx

theorem ending (h : Frame R) (r : Except Thrown α) : Guarantees R (ending r) := by
  cases r with
  | ok a => exact .pure h.composes a
  | error e => exact .throw h.composes e

theorem runNotifyCallback (h : Frame R)
    (hn : ∀ f, env.notifyCallback = some f → Guarantees R f) :
    Guarantees R (runNotifyCallback env) := by
  rw [Gatt.runNotifyCallback]
  cases hf : env.notifyCallback with
  | none => exact .pure h.composes ()
  | some notifyCallback =>
    have hcalled := Guarantees.bind h.composes (.log (h.event .notifyCallback rfl))
      fun _ => hn notifyCallback hf
    exact .catching h.composes hcalled fun _ => .pure h.composes ()

theorem announceNotifying (h : Frame R) (on : Bool) :
    Guarantees R (GattCharacteristic.announceNotifying env on) := by
  apply Guarantees.bind h.composes (.modify (h.notifying on))
  intro _
  apply Guarantees.bind h.composes (.get h.composes)
  intro w
  by_cases hr : w.characteristic.registered = true
  · rw [if_pos hr, gvariantFromBoolean]
    apply Guarantees.bind h.composes (.pure h.composes _)
    intro v
    cases v with
    | none => exact .bind h.composes (.modify (h.notifying (!on))) fun _ => .pure h.composes false
    | some v =>
      rw [hr]
      exact .bind h.composes (.log (h.event _ rfl)) fun _ => .pure h.composes true
  · rw [if_neg hr]
    exact .pure h.composes true

theorem startNotify (h : Frame R) (hn : ∀ f, env.notifyCallback = some f → Guarantees R f) :
    Guarantees R (GattCharacteristic.startNotify env) := by
  apply h.withLock
  apply Guarantees.bind h.composes (.get h.composes)
  intro w
  dsimp only
  split_ifs
  · exact .pure h.composes true
  · exact .pure h.composes false
  · apply Guarantees.bind h.composes (h.announceNotifying true)
    intro announced
    cases announced with
    | false => exact .pure h.composes false
    | true =>
      exact .bind h.composes (h.withLock .callbackMutex (h.runNotifyCallback hn))
        fun _ => .pure h.composes true

theorem stopNotify (h : Frame R) : Guarantees R (GattCharacteristic.stopNotify env) := by
  apply h.withLock
  apply Guarantees.bind h.composes (.get h.composes)
  intro w
  dsimp only
  split_ifs
  · exact .pure h.composes true
  · exact h.announceNotifying false

theorem changes (h : Frame R) (hn : ∀ f, env.notifyCallback = some f → Guarantees R f)
    (descriptor : GattDescriptor) (newValue : List UInt8) :
    Guarantees R (descriptor.changes env newValue) := by
  rw [GattDescriptor.changes]
  split_ifs
  · rw [GattDescriptor.changeNotificationState_eq_carryOut]
    apply Guarantees.catching h.composes _ fun _ => .pure h.composes ()
    rcases GattDescriptor.requested newValue with _ | _ | _
    · exact .pure h.composes ()
    · exact .bind h.composes h.stopNotify fun _ => .pure h.composes ()
    · exact .bind h.composes (h.startNotify hn) fun _ => .pure h.composes ()
  · exact .pure h.composes ()

theorem writeLocked (h : Frame R)
    (hw : ∀ f, env.writeCallback o = some f → ∀ newValue, Guarantees R (f newValue))
    (newValue : List UInt8) : Guarantees R (writeLocked env o newValue) := by
  rw [Gatt.writeLocked]
  cases hf : env.writeCallback o with
  | none => exact .pure h.composes _
  | some writeCallback =>
    apply Guarantees.catching h.composes
    · apply Guarantees.bind h.composes (.log (h.event _ rfl))
      intro _
      exact .bind h.composes (hw writeCallback hf newValue)
        fun success => .pure h.composes (some success)
    · intro what
      exact .bind h.composes (.log (h.event _ rfl)) fun _ => .pure h.composes none

end Frame

namespace GattObject

theorem spared_frame (o : GattObject) : Frame o.Spared where
  composes :=
    { refl := fun w => ⟨.refl o w, rfl⟩
      trans := fun h h' => ⟨h.1.trans h'.1, h'.2.trans h.2⟩ }
  event := fun _ _ w => ⟨.refl o w, rfl⟩
  notifying := fun on w => by cases o <;> exact ⟨⟨rfl, rfl⟩, rfl⟩

theorem untouched_frame (o : GattObject) : Frame o.Untouched where
  composes :=
    { refl := fun w => ⟨o.spared_frame.composes.refl w, rfl⟩
      trans := by
        intro w w' w'' t t' h h'
        apply And.intro (o.spared_frame.composes.trans h.1 h'.1)
        rw [announced_append, h.2, ← announced_congr h.1.1.path, h'.2]
        rfl }
  event := fun e he w => ⟨o.spared_frame.event e he w, announced_eq_nil (by simpa using he)⟩
  notifying := fun on w => ⟨o.spared_frame.notifying on w, rfl⟩

theorem Untouched.tracked {o : GattObject} (h : o.Untouched w trace w') :
    o.Tracked w trace w' := by
  apply And.intro h.1.1
  rw [h.2, h.1.2]
  rfl

theorem getLastD_append (l l' : List α) (a : α) :
    (l ++ l').getLastD a = l'.getLastD (l.getLastD a) := by
  simp only [List.getLastD_eq_getLast?, List.getLast?_append, Option.getD_or]

theorem tracked_frame (o : GattObject) : Frame o.Tracked where
  composes :=
    { refl := fun w => (o.untouched_frame.composes.refl w).tracked
      trans := by
        intro w w' w'' t t' h h'
        apply And.intro (h.1.trans h'.1)
        rw [announced_append, getLastD_append, h.2, ← announced_congr h.1.path, h'.2] }
  event := fun e he w => (o.untouched_frame.event e he w).tracked
  notifying := fun on w => (o.untouched_frame.notifying on w).tracked

/-- The assignment to the stored bytes. -/
def assign (w : World) (newValue : List UInt8) : GattObject → World
  | .characteristic => w.setCharacteristicValue newValue
  | .descriptor d => w.setDescriptorValue d newValue

variable {w : World} {o o' : GattObject}

theorem assign_stays (o o' : GattObject) (newValue : List UInt8) (w : World) :
    o.Stays w (o'.assign w newValue) := by
  cases o with
  | characteristic => cases o' <;> exact ⟨rfl, rfl⟩
  | descriptor d =>
    cases o' with
    | characteristic => exact ⟨rfl, rfl⟩
    | descriptor d' =>
      by_cases h : d = d'
      · cases h
        constructor
        · rw [assign, path, World.setDescriptorValue_self]
          rfl
        · rw [assign, registered, World.setDescriptorValue_self]
          rfl
      · constructor
        · rw [assign, path, World.setDescriptorValue_other h]
          rfl
        · rw [assign, registered, World.setDescriptorValue_other h]
          rfl

@[simp] theorem value_assign_self (o : GattObject) (newValue : List UInt8) (w : World) :
    o.value (o.assign w newValue) = newValue := by
  cases o with
  | characteristic => rfl
  | descriptor d => rw [assign, value, World.setDescriptorValue_self]

theorem assign_spared (h : o' ≠ o) (newValue : List UInt8) (w : World) :
    o.Spared w [] (o'.assign w newValue) := by
  apply And.intro (assign_stays o o' newValue w)
  cases o with
  | characteristic =>
    cases o' with
    | characteristic => exact absurd rfl h
    | descriptor d' => rfl
  | descriptor d =>
    cases o' with
    | characteristic => rfl
    | descriptor d' =>
      have hd : d ≠ d' := fun hd => h (congrArg GattObject.descriptor hd.symm)
      rw [assign, value, World.setDescriptorValue_other hd]
      rfl

end GattObject
end Ggk
