import BluetoothLE.Gatt.Interleaving
import BluetoothLE.Gatt.LockOrder

namespace Ggk
open Lib Gatt
set_option autoImplicit true

/-- The objects with the data of the cells. -/
def World.filled (w : World) (cells : (g : Guard) → Cell g) : World where
  characteristic :=
    { w.characteristic with
      value := Prod.fst (cells (.mutex .valueMutex))
      notifying := Prod.fst (cells (.mutex .notifyMutex)) }
  descriptors d :=
    { w.descriptors d with value := Prod.fst (cells (.mutex (.descriptorValueMutex d))) }

/-- What can be seen of a cell from outside. -/
inductive Note where
  | sent (value : GVariant)
  | called
  deriving DecidableEq

def ValueEvent.note? : ValueEvent → Option Note
  | .announced valueVariant => some (.sent valueVariant)
  | _ => none

def NotifyEvent.note? : NotifyEvent → Option Note
  | .announced notifying => some (.sent (.boolean notifying))
  | .changed _ => none

def CallbackEvent.note? : CallbackEvent → Option Note
  | .entered => some .called
  | .left => none

def noted : (g : Guard) → Cell g → List Note
  | .mutex .valueMutex, b | .mutex (.descriptorValueMutex _), b =>
    List.filterMap ValueEvent.note? (Prod.snd b)
  | .mutex .notifyMutex, b => List.filterMap NotifyEvent.note? (Prod.snd b)
  | .mutex .callbackMutex, b | .mutex (.descriptorCallbackMutex _), b =>
    List.filterMap CallbackEvent.note? b
  | .bus _, b => List.map Note.sent b

/-- The path, interface and property of the signals that are sent with a cell. -/
def Guard.signal? (w : World) : Guard → Option (DBusObjectPath × String × String)
  | .mutex .valueMutex =>
    some (w.characteristic.path, BlueZConstants.gattCharacteristicInterface, "Value")
  | .mutex .notifyMutex =>
    some (w.characteristic.path, BlueZConstants.gattCharacteristicInterface, "Notifying")
  | .bus d => some ((w.descriptors d).path, BlueZConstants.gattDescriptorInterface, "Value")
  | _ => none

/-- The signals of a descriptor can be told by its path. -/
def Guard.Own (w : World) : Guard → Prop
  | .bus d => ∀ d', (w.descriptors d').path = (w.descriptors d).path → d' = d
  | _ => True

def Event.note? (w : World) (g : Guard) : Event → Option Note
  | .propertyChanged path interface name value =>
    if g.signal? w = some (path, interface, name) then some (.sent value) else none
  | .readCallback o | .writeCallback o _ =>
    if g = .mutex o.callbackMutex then some .called else none
  | .notifyCallback => if g = .mutex .callbackMutex then some .called else none
  | _ => none

def mutexStep? : LockStep Guard → Option (LockStep Mutex)
  | .acquire (.mutex m) => some (.acquire m)
  | .release (.mutex m) => some (.release m)
  | _ => none

/-- An outcome of the objects and an ending of a thread are the same: the same result and data,
the same steps on the mutexes, and the same signals and callbacks. -/
structure Matches (w : World) (cells : (g : Guard) → Cell g) (o : Outcome Thrown World Event α)
    (e : Program.Ending Guard Cell (Except Thrown α)) : Prop where
  result : o.result = e.result
  state : o.state = w.filled e.cells
  steps : locks o.trace = e.steps.filterMap mutexStep?
  notes : ∀ g, g.Own w →
    noted g (e.cells g) = noted g (cells g) ++ o.trace.filterMap (Event.note? w g)

/-- The code of a thread that nobody disturbs does what the objects do. -/
def Agrees (w : World) (cells : (g : Guard) → Cell g) (x : Gatt α) (y : Threaded α) : Prop :=
  Matches w cells (x (w.filled cells)) (y.run.alone cells)

section Rules
variable {w : World} {cells cells' : (g : Guard) → Cell g}

theorem Matches.after {o : Outcome Thrown World Event β} {r : Except Thrown α}
    {taken : List (LockStep Guard)} (h : Matches w cells ⟨r, s, t⟩ ⟨r', cells', taken⟩)
    (h' : Matches w cells' o e) :
    Matches w cells (o.after t) { e with steps := taken ++ e.steps } where
  result := h'.result
  state := h'.state
  steps := by rw [Outcome.after_trace, locks_append, List.filterMap_append, ← h.steps, ← h'.steps]
  notes g hg := by
    rw [Outcome.after_trace, List.filterMap_append, h'.notes g hg, h.notes g hg, List.append_assoc]

theorem Matches.ending {o : Outcome Thrown World Event β}
    {e : Program.Ending Guard Cell (Except Thrown β)} (h : Matches w cells o e)
    (r : Except Thrown α) :
    Matches w cells ⟨r, o.state, o.trace⟩ ⟨r, e.cells, e.steps ++ []⟩ :=
  ⟨rfl, h.state, h.steps.trans (by rw [List.append_nil]), h.notes⟩

theorem agrees_pure (a : α) : Agrees w cells (pure a) (pure a) :=
  ⟨rfl, rfl, rfl, fun _ _ => (List.append_nil _).symm⟩

theorem agrees_throw (e : Thrown) : Agrees w cells (Effect.throw e : Gatt α) (throw e) :=
  ⟨rfl, rfl, rfl, fun _ _ => (List.append_nil _).symm⟩

theorem agrees_bind {x : Gatt β} {y : Threaded β} {k : β → Gatt α} {l : β → Threaded α}
    (h : Agrees w cells x y)
    (hk : ∀ b, (y.run.alone cells).result = .ok b →
      Agrees w (y.run.alone cells).cells (k b) (l b)) :
    Agrees w cells (x >>= k) (y >>= l) := by
  rw [Agrees, Threaded.run_bind, Program.alone_bind, Effect.bind_apply]
  rw [Agrees] at h
  generalize x (w.filled cells) = o at h ⊢
  generalize y.run.alone cells = e at h hk ⊢
  obtain ⟨r, s, t⟩ := o
  obtain ⟨r', cells', steps⟩ := e
  obtain rfl : r = r' := h.result
  obtain rfl : s = w.filled cells' := h.state
  cases r with
  | ok b => exact h.after (hk b rfl)
  | error e => exact h.ending _

/-- One thing after another, where nothing depends on the data in between. -/
theorem agrees_then {x : Gatt β} {y : Threaded β} {k : β → Gatt α} {l : β → Threaded α}
    (h : Agrees w cells x y) (hk : ∀ b cells', Agrees w cells' (k b) (l b)) :
    Agrees w cells (x >>= k) (y >>= l) :=
  agrees_bind h fun b _ => hk b _

theorem agrees_discard {x : Gatt β} {y : Threaded β} (h : Agrees w cells x y) :
    Agrees w cells (discard x) (discard y) :=
  agrees_bind h fun _ _ => agrees_pure _

theorem agrees_catchStd {x : Gatt α} {y : Threaded α} {handler : String → Gatt α}
    {handler' : String → Threaded α} (h : Agrees w cells x y)
    (hh : ∀ what, Agrees w (y.run.alone cells).cells (handler what) (handler' what)) :
    Agrees w cells (catchStd x handler) (Threaded.catchStd y handler') := by
  rw [Agrees, Threaded.run_catchStd, Program.alone_bind, catchStd, Effect.catching_apply]
  rw [Agrees] at h
  generalize x (w.filled cells) = o at h ⊢
  generalize y.run.alone cells = e at h hh ⊢
  obtain ⟨r, s, t⟩ := o
  obtain ⟨r', cells', steps⟩ := e
  obtain rfl : r = r' := h.result
  obtain rfl : s = w.filled cells' := h.state
  cases r with
  | ok b => exact h.ending _
  | error e =>
    cases hw : what e with
    | none =>
      rw [Outcome.catching_passed hw]
      simp only [hw]
      exact h.ending _
    | some s =>
      rw [Outcome.catching_handled hw]
      simp only [hw]
      exact h.after (hh s)

theorem agrees_withLock {x : Gatt α} {y : Threaded α} (h : Agrees w cells x y) :
    Agrees w cells (withLock m x) (Threaded.withLock m y) := by
  have hrun : (Threaded.withLock m y).run = .locked (.mutex m) y.run := rfl
  rw [Agrees, hrun, Program.alone_locked, withLock, Effect.guarded_apply]
  constructor
  · exact h.result
  · exact h.state
  · change locks (.acquire m :: (_ ++ [Event.release m])) =
      .acquire m :: List.filterMap mutexStep? (_ ++ [LockStep.release (.mutex m)])
    rw [locks_acquire, locks_append, List.filterMap_append, h.steps]
    rfl
  · intro g hg
    change _ = _ ++ List.filterMap (Event.note? w g) (_ ++ [Event.release m])
    rw [List.filterMap_append, h.notes g hg]
    exact congrArg (noted g (cells g) ++ ·) (List.append_nil _).symm

/-- A change of the data, with its signal. -/
theorem agrees_access {x : Gatt α} {f : Cell g → Cell g} {r : Cell g → α}
    (trace : List Event) (h : x (w.filled cells) =
      ⟨.ok (r (cells g)), w.filled (Function.update cells g (f (cells g))), trace⟩)
    (hl : locks trace = [])
    (hn : noted g (f (cells g)) = noted g (cells g) ++ trace.filterMap (Event.note? w g))
    (ho : ∀ g', g'.Own w → g' ≠ g → trace.filterMap (Event.note? w g') = []) :
    Agrees w cells x (Threaded.access g f r) := by
  have hrun : (Threaded.access g f r).run.alone cells =
      ⟨.ok (r (cells g)), Function.update cells g (f (cells g)), []⟩ := rfl
  rw [Agrees, hrun, h]
  constructor
  · rfl
  · rfl
  · exact hl
  · intro g' hg
    by_cases hgg : g' = g
    · subst hgg
      change noted g' (Function.update cells g' (f (cells g')) g') = _
      rw [Function.update_self]
      exact hn
    · change noted g' (Function.update cells g (f (cells g)) g') = _
      rw [Function.update_of_ne hgg, ho g' hg hgg, List.append_nil]

theorem agrees_get {k : World → Gatt α} {y : Threaded α}
    (h : Agrees w cells (k (w.filled cells)) y) : Agrees w cells (Effect.get >>= k) y := h

/-- A reply is not seen in the cells. -/
theorem agrees_reply (r : Reply) : Agrees w cells (reply r) (pure ()) :=
  ⟨rfl, rfl, rfl, fun _ _ => (List.append_nil _).symm⟩

theorem agrees_load {k : World → Gatt α} {r : Cell g → β} {l : β → Threaded α}
    (h : Agrees w cells (k (w.filled cells)) (l (r (cells g)))) :
    Agrees w cells (Effect.get >>= k) (Threaded.load g r >>= l) := by
  have hrun : (Threaded.load g r >>= l).run.alone cells =
      (l (r (cells g))).run.alone (Function.update cells g (cells g)) := rfl
  rw [Agrees, hrun, Function.update_eq_self]
  exact h

theorem agrees_gvariantFromByteArray {out : Outside} (bytes : List UInt8) :
    Agrees w cells (gvariantFromByteArray out.environment bytes)
      (Threaded.gvariantFromByteArray out bytes) := by
  apply agrees_bind
  · cases Utils.gvariantFromByteArray bytes (Utils.toInt bytes.length) with
    | none => exact agrees_throw _
    | some v => exact agrees_pure _
  · exact fun v _ => agrees_pure _

theorem agrees_ending (r : Except Thrown α) : Agrees w cells (ending r) (Threaded.ended r) := by
  cases r with
  | ok a => exact agrees_pure a
  | error e => exact agrees_throw e

theorem filled_value (b : List UInt8 × List ValueEvent) :
    w.filled (Function.update cells (.mutex .valueMutex) b) =
      (w.filled cells).setCharacteristicValue b.1 := rfl

theorem filled_notifying (b : Bool × List NotifyEvent) :
    w.filled (Function.update cells (.mutex .notifyMutex) b) =
      (w.filled cells).setNotifying b.1 := rfl

theorem update_descriptor_self (d : Nat) (b : List UInt8 × List ValueEvent) :
    Function.update cells (.mutex (.descriptorValueMutex d)) b
      (.mutex (.descriptorValueMutex d)) = b := Function.update_self ..

theorem update_descriptor_other (h : d' ≠ d) (b : List UInt8 × List ValueEvent) :
    Function.update cells (.mutex (.descriptorValueMutex d)) b
      (.mutex (.descriptorValueMutex d')) = cells (.mutex (.descriptorValueMutex d')) :=
  Function.update_of_ne (by simp [h]) ..

theorem filled_descriptor (d : Nat) (b : List UInt8 × List ValueEvent) :
    w.filled (Function.update cells (.mutex (.descriptorValueMutex d)) b) =
      (w.filled cells).setDescriptorValue d b.1 := by
  have h : (w.filled (Function.update cells (.mutex (.descriptorValueMutex d)) b)).descriptors =
      ((w.filled cells).setDescriptorValue d b.1).descriptors := by
    funext d'
    by_cases hd : d' = d
    · subst hd
      rw [World.setDescriptorValue_self]
      simp only [World.filled, update_descriptor_self]
    · rw [World.setDescriptorValue_other hd]
      simp only [World.filled, update_descriptor_other hd]
  exact congrArg (World.mk (w.filled cells).characteristic) h

/-- Data that only the cells know of, and a signal or a callback that is seen in one of them. -/
theorem agrees_log {e : Event} {f : Cell g → Cell g}
    (hf : w.filled (Function.update cells g (f (cells g))) = w.filled cells)
    (hl : e.lockStep? = none) (hn : noted g (f (cells g)) = noted g (cells g) ++ [note])
    (he : e.note? w g = some note) (ho : ∀ g', g'.Own w → g' ≠ g → e.note? w g' = none) :
    Agrees w cells (Effect.log e) (Threaded.change g f) := by
  apply agrees_access [e]
  · rw [Effect.log_apply, hf]
  · exact List.filterMap_cons_none hl
  · rw [List.filterMap_cons_some he]
    exact hn
  · exact fun g' hg hne => List.filterMap_cons_none (ho g' hg hne)

theorem agrees_ghost {x : Gatt α} {y : Threaded α} {f : Cell g → Cell g}
    (hf : w.filled (Function.update cells g (f (cells g))) = w.filled cells)
    (hn : noted g (f (cells g)) = noted g (cells g))
    (h : Agrees w (Function.update cells g (f (cells g))) x y) :
    Agrees w cells x (do Threaded.change g f; y) := by
  have hghost : Agrees w cells (pure ()) (Threaded.change g f) := by
    apply agrees_access []
    · rw [hf]
      rfl
    · rfl
    · rw [hn]
      exact (List.append_nil _).symm
    · exact fun _ _ _ => rfl
  exact agrees_bind (k := fun _ => x) hghost fun _ _ => h

theorem agrees_callback {e : Event} {r : Except Thrown α} (hl : e.lockStep? = none)
    (he : ∀ g, e.note? w g = if g = .mutex o.callbackMutex then some .called else none) :
    Agrees w cells (do Effect.log e; ending r) (Threaded.callback o r) := by
  have hne g' (_ : g'.Own w) (hg : g' ≠ .mutex o.callbackMutex) : e.note? w g' = none := by
    rw [he, if_neg hg]
  have hself : e.note? w (.mutex o.callbackMutex) = some .called := by rw [he, if_pos rfl]
  cases o with
  | characteristic =>
    apply agrees_bind
    · exact agrees_log rfl hl List.filterMap_append hself hne
    · intro _ _
      apply agrees_ghost rfl
      · exact List.filterMap_append.trans (List.append_nil _)
      · exact agrees_ending r
  | descriptor d =>
    apply agrees_bind
    · exact agrees_log rfl hl List.filterMap_append hself hne
    · intro _ _
      apply agrees_ghost rfl
      · exact List.filterMap_append.trans (List.append_nil _)
      · exact agrees_ending r

theorem log_bind (e : Event) (x : Gatt β) (k : β → Gatt α) :
    (do Effect.log e; let b ← x; k b) = (do Effect.log e; x) >>= k := by
  funext s
  simp only [Effect.bind_apply, Effect.log_apply, Outcome.bind_ok]
  obtain ⟨r, s', t⟩ := x s
  cases r with
  | ok b => rfl
  | error e => rfl

theorem agrees_runNotifyCallback (out : Outside) :
    Agrees w cells (runNotifyCallback out.environment) (Threaded.runNotifyCallback out) := by
  rw [runNotifyCallback, Threaded.runNotifyCallback, Outside.environment]
  cases out.notifyCallback with
  | none => exact agrees_pure _
  | some r =>
    apply agrees_catchStd
    · exact agrees_callback rfl fun _ => rfl
    · exact fun _ => agrees_pure _

theorem agrees_isNotifying :
    Agrees w cells GattCharacteristic.isNotifying Threaded.isNotifying := by
  apply agrees_withLock
  exact agrees_load (l := pure) (agrees_pure _)

/-- A signal is seen in one cell only. -/
theorem signal_eq {g g' : Guard} (hg : g'.Own w) (h : g.signal? w = some sent)
    (h' : g'.signal? w = some sent) : g' = g := by
  have hi : BlueZConstants.gattCharacteristicInterface ≠
      BlueZConstants.gattDescriptorInterface := by
    decide
  rcases g with (_ | _ | _ | _ | _) | d <;> cases h <;>
    rcases g' with (_ | _ | _ | _ | _) | d' <;> simp_all [Guard.signal?, Guard.Own]

theorem agrees_signal {f : Cell g → Cell g} (hr : registered = true)
    (hf : w.filled (Function.update cells g (f (cells g))) = w.filled cells)
    (hs : g.signal? w = some (path, interface, name))
    (hn : noted g (f (cells g)) = noted g (cells g) ++ [.sent value]) :
    Agrees w cells (emitPropertyChanged path registered interface name value)
      (Threaded.change g f) := by
  rw [emitPropertyChanged, if_pos hr]
  apply agrees_log hf rfl hn
  · rw [Event.note?, if_pos hs]
  · intro g' hg hne
    rw [Event.note?, if_neg fun h => hne (signal_eq hg hs h)]

theorem agrees_announceValue (out : Outside) :
    Agrees w cells (GattCharacteristic.announceValue out.environment)
      (Threaded.announceValue out w.characteristic) := by
  apply agrees_load
  apply agrees_then (agrees_gvariantFromByteArray _)
  intro v cells'
  cases v with
  | none => exact agrees_pure _
  | some v =>
    simp only [Threaded.notifyIfAsked, bind_assoc]
    apply agrees_then agrees_isNotifying
    have hsend cells'' : Agrees w cells'' (emitPropertyChanged w.characteristic.path
        w.characteristic.registered BlueZConstants.gattCharacteristicInterface "Value" v)
        (if w.characteristic.registered then Threaded.sendValue v else pure ()) := by
      cases w.characteristic.registered with
      | false => exact agrees_pure _
      | true => exact agrees_signal rfl rfl rfl List.filterMap_append
    intro b cells''
    cases b with
    | false => exact hsend _
    | true =>
      apply agrees_then (agrees_withLock (agrees_runNotifyCallback out))
      exact fun _ => hsend

theorem agrees_modify {F : World → World} {f : Cell g → Cell g}
    (hf : w.filled (Function.update cells g (f (cells g))) = F (w.filled cells))
    (hn : noted g (f (cells g)) = noted g (cells g)) :
    Agrees w cells (Effect.modify F) (Threaded.change g f) := by
  apply agrees_access []
  · rw [Effect.modify_apply, hf]
  · rfl
  · rw [hn]
    exact (List.append_nil _).symm
  · exact fun _ _ _ => rfl

theorem agrees_store (newValue : List UInt8) :
    Agrees w cells (Effect.modify fun w => w.setCharacteristicValue newValue)
      (Threaded.store newValue .characteristic) := by
  apply agrees_modify
  · exact filled_value _
  · exact List.filterMap_append.trans (List.append_nil _)

theorem agrees_storeDescriptor (d : Nat) (newValue : List UInt8) :
    Agrees w cells (Effect.modify fun w => w.setDescriptorValue d newValue)
      (Threaded.store newValue (.descriptor d)) := by
  apply agrees_modify
  · exact filled_descriptor d _
  · exact List.filterMap_append.trans (List.append_nil _)

theorem agrees_setNotifying (notifying : Bool) :
    Agrees w cells (Effect.modify fun w => w.setNotifying notifying)
      (Threaded.setNotifying notifying) := by
  apply agrees_modify
  · exact filled_notifying _
  · exact List.filterMap_append.trans (List.append_nil _)

theorem agrees_setValue (out : Outside) (newValue : List UInt8) :
    Agrees w cells (GattCharacteristic.setValue out.environment newValue)
      (Threaded.setValue out w.characteristic newValue) := by
  apply agrees_catchStd
  · apply agrees_withLock
    apply agrees_then (agrees_store newValue)
    intro _ cells'
    apply agrees_get
    change Agrees w cells' (if w.characteristic.registered then _ else _) _
    cases w.characteristic.registered with
    | false => exact agrees_pure _
    | true => exact agrees_announceValue out
  · exact fun _ => agrees_pure _

theorem agrees_announceNotifying (out : Outside) (notifying : Bool) :
    Agrees w cells (GattCharacteristic.announceNotifying out.environment notifying)
      (Threaded.announceNotifying out w.characteristic notifying) := by
  apply agrees_then (agrees_setNotifying notifying)
  intro _ cells'
  apply agrees_get
  change Agrees w cells' (if w.characteristic.registered then _ else _) _
  cases hr : w.characteristic.registered with
  | false => exact agrees_pure _
  | true =>
    cases hv : out.booleanVariant with
    | false =>
      simp only [gvariantFromBoolean, Outside.environment, hv]
      exact agrees_then (agrees_setNotifying _) fun _ _ => agrees_pure _
    | true =>
      simp only [gvariantFromBoolean, Outside.environment, hv, if_true]
      apply agrees_then (x := emitPropertyChanged _ _ _ _ _)
      · apply agrees_signal hr rfl rfl
        exact List.filterMap_append
      · exact fun _ _ => agrees_pure _

theorem agrees_startNotify (out : Outside) :
    Agrees w cells (GattCharacteristic.startNotify out.environment)
      (Threaded.startNotify out w.characteristic) := by
  apply agrees_withLock
  apply agrees_load
  change Agrees w cells (if Prod.fst (cells (.mutex .notifyMutex)) then _ else
    if !w.characteristic.supportsNotify then _ else _) _
  cases Prod.fst (cells (.mutex .notifyMutex)) with
  | true => exact agrees_pure _
  | false =>
    cases w.characteristic.supportsNotify with
    | false => exact agrees_pure _
    | true =>
      apply agrees_then (agrees_announceNotifying out true)
      intro b cells'
      cases b with
      | false => exact agrees_pure _
      | true =>
        apply agrees_then (agrees_withLock (agrees_runNotifyCallback out))
        exact fun _ _ => agrees_pure _

theorem agrees_stopNotify (out : Outside) :
    Agrees w cells (GattCharacteristic.stopNotify out.environment)
      (Threaded.stopNotify out w.characteristic) := by
  apply agrees_withLock
  apply agrees_load
  change Agrees w cells (if !Prod.fst (cells (.mutex .notifyMutex)) then _ else _) _
  cases Prod.fst (cells (.mutex .notifyMutex)) with
  | false => exact agrees_pure _
  | true => exact agrees_announceNotifying out false

theorem agrees_carryOut (out : Outside) (asked : Option Bool) :
    Agrees w cells (GattDescriptor.carryOut out.environment asked)
      (Threaded.carryOut out w.characteristic asked) := by
  rcases asked with _ | _ | _
  · exact agrees_pure _
  · exact agrees_discard (agrees_stopNotify out)
  · exact agrees_discard (agrees_startNotify out)

theorem agrees_peek {k : World → Gatt α} {r : Cell g → β} {l : β → Threaded α}
    (h : Agrees w cells (k (w.filled cells)) (l (r (cells g)))) :
    Agrees w cells (Effect.get >>= k) (Threaded.peek g r >>= l) := h

/-- The lock of the bus is not one of the mutexes. -/
theorem agrees_bus {x : Gatt α} {y : Threaded α} (h : Agrees w cells x y) :
    Agrees w cells x (ExceptT.mk (Program.locked (.bus d) y.run)) := by
  rw [Agrees, ExceptT.run_mk, Program.alone_locked]
  constructor
  · exact h.result
  · exact h.state
  · change _ = List.filterMap mutexStep? (_ ++ [LockStep.release (.bus d)])
    rw [List.filterMap_append, h.steps]
    exact (List.append_nil _).symm
  · exact h.notes

theorem agrees_send (hr : (w.descriptors d).registered = true) :
    Agrees w cells (emitPropertyChanged (w.descriptors d).path (w.descriptors d).registered
      BlueZConstants.gattDescriptorInterface "Value" v) (Threaded.send d v) := by
  apply agrees_bus
  apply agrees_signal hr rfl rfl
  exact List.map_append

theorem agrees_announceDescriptorValue (out : Outside)
    (hr : (w.descriptors d).registered = true) :
    Agrees w cells (GattDescriptor.announceValue out.environment d)
      (Threaded.announceDescriptorValue out d) := by
  apply agrees_peek
  apply agrees_then (agrees_gvariantFromByteArray _)
  intro v cells'
  cases v with
  | none => exact agrees_pure _
  | some v => exact agrees_send hr

theorem agrees_setDescriptorValue (out : Outside) (d : Nat) (newValue : List UInt8) :
    Agrees w cells (GattDescriptor.setValue out.environment d newValue)
      (Threaded.setDescriptorValue out w d newValue) := by
  have hannounce cells' : Agrees w cells'
      (do if ((← Effect.get).descriptors d).registered then
            GattDescriptor.announceValue out.environment d)
      (if (w.descriptors d).registered then Threaded.announceDescriptorValue out d
        else pure ()) := by
    apply agrees_get
    change Agrees w cells' (if (w.descriptors d).registered then _ else _) _
    cases hr : (w.descriptors d).registered with
    | false => exact agrees_pure _
    | true => exact agrees_announceDescriptorValue out hr
  apply agrees_catchStd
  · apply agrees_then (agrees_withLock (agrees_storeDescriptor d newValue))
    intro _ cells'
    apply agrees_get
    change Agrees w cells' (if (w.descriptors d).isCccd then _ else _) _
    rw [GattDescriptor.request]
    cases (w.descriptors d).isCccd with
    | false => exact hannounce cells'
    | true =>
      rw [if_pos rfl, if_pos rfl, GattDescriptor.changeNotificationState_eq_carryOut]
      apply agrees_then
      · exact agrees_catchStd (agrees_carryOut out _) fun _ => agrees_pure _
      · exact fun _ => hannounce
  · exact fun _ => agrees_pure _

theorem filled_descriptor_self (d : Nat) (events : List ValueEvent) :
    w.filled (Function.update cells (.mutex (.descriptorValueMutex d))
      (Prod.fst (cells (.mutex (.descriptorValueMutex d))), events)) = w.filled cells := by
  rw [filled_descriptor]
  exact congrArg (World.mk (w.filled cells).characteristic) (Function.update_eq_self d _)

theorem agrees_readValue (o : GattObject) :
    Agrees w cells (do return o.value (← Effect.get)) (Threaded.readValue o) := by
  cases o with
  | characteristic =>
    apply agrees_access []
    · rfl
    · rfl
    · exact List.filterMap_append
    · exact fun _ _ _ => rfl
  | descriptor d =>
    apply agrees_access []
    · exact congrArg (Outcome.mk _ · _) (filled_descriptor_self d _).symm
    · rfl
    · exact List.filterMap_append
    · exact fun _ _ _ => rfl

/-- The reference is read before anybody changes the value. -/
theorem agrees_getValue (o : GattObject) :
    Agrees w cells (withLock o.valueMutex do return o.value (← Effect.get))
      (Threaded.getValue o) := by
  cases o with
  | characteristic => exact ⟨rfl, rfl, rfl, fun _ _ => (List.append_nil _).symm⟩
  | descriptor d => exact ⟨rfl, rfl, rfl, fun _ _ => (List.append_nil _).symm⟩

theorem agrees_readLocked (out : Outside) (o : GattObject) :
    Agrees w cells (readLocked out.environment o) (Threaded.readLocked out o) := by
  have hcallback : out.environment.readCallback o = (out.readCallback o).map ending := rfl
  rw [readLocked, Threaded.readLocked, hcallback]
  cases out.readCallback o with
  | none =>
    apply agrees_withLock
    exact agrees_then (k := fun value => pure (some value)) (agrees_readValue o) fun _ _ =>
      agrees_pure _
  | some r =>
    apply agrees_catchStd
    · rw [log_bind]
      apply agrees_then (agrees_callback rfl fun _ => rfl)
      exact fun _ _ => agrees_pure _
    · exact fun _ => agrees_then (agrees_reply _) fun _ _ => agrees_pure _

theorem discard_eq (x : Threaded α) : (discard x : Threaded Unit) = x >>= fun _ => pure () :=
  map_eq_pure_bind _ x

theorem agrees_answer (out : Outside) (returnValue : List UInt8) :
    Agrees w cells (answer out.environment returnValue)
      (discard (Threaded.gvariantFromByteArray out returnValue)) := by
  rw [discard_eq]
  apply agrees_then (agrees_gvariantFromByteArray returnValue)
  intro v cells'
  cases v with
  | none => exact agrees_reply _
  | some v => exact agrees_reply _

theorem agrees_handleReadValue (out : Outside) (o : GattObject) (call : DBusMethodCall) :
    Agrees w cells (handleReadValue out.environment o call)
      (Threaded.handleReadValue out o call) := by
  rw [handleReadValue, Threaded.handleReadValue]
  cases call.invocation with
  | false => exact agrees_pure _
  | true =>
    apply agrees_catchStd
    · apply agrees_then (agrees_withLock (agrees_readLocked out o))
      intro value cells'
      cases value with
      | none => exact agrees_pure _
      | some value =>
        exact agrees_answer out value
    · exact fun _ => agrees_reply _

theorem agrees_writeLocked (out : Outside) (o : GattObject) (newValue : List UInt8) :
    Agrees w cells (writeLocked out.environment o newValue)
      (Threaded.writeLocked out o newValue) := by
  have hcallback : out.environment.writeCallback o =
      (out.writeCallback o).map fun f value => ending (f value) := rfl
  rw [writeLocked, Threaded.writeLocked, hcallback]
  cases out.writeCallback o with
  | none => exact agrees_pure _
  | some f =>
    apply agrees_catchStd
    · rw [log_bind]
      apply agrees_then (agrees_callback rfl fun _ => rfl)
      exact fun _ _ => agrees_pure _
    · exact fun _ => agrees_then (agrees_reply _) fun _ _ => agrees_pure _

theorem agrees_assign (out : Outside) (o : GattObject) (newValue : List UInt8) :
    Agrees w cells (o.store out.environment newValue) (Threaded.assign out w newValue o) := by
  cases o with
  | characteristic => exact agrees_withLock (agrees_store newValue)
  | descriptor d => exact agrees_setDescriptorValue out d newValue

theorem agrees_writeDecoded (out : Outside) (o : GattObject) (newValue : List UInt8) :
    Agrees w cells (writeDecoded out.environment o (o.store out.environment) newValue)
      (Threaded.writeDecoded out w o newValue) := by
  apply agrees_then (agrees_withLock (agrees_writeLocked out o newValue))
  intro verdict cells'
  rcases verdict with _ | _ | _
  · exact agrees_pure _
  · exact agrees_reply _
  · have hassign : Agrees w cells' (o.store out.environment newValue)
        (Threaded.assign out w newValue o) := agrees_assign out o newValue
    have h := agrees_then hassign fun _ _ => agrees_reply (.value none)
    have hpure : (do Threaded.assign out w newValue o; pure ()) =
        Threaded.assign out w newValue o := bind_pure _
    rw [hpure] at h
    exact h

theorem agrees_defined (r : Option α) : Agrees w cells (defined r) (Threaded.defined r) := by
  cases r with
  | none => exact agrees_throw _
  | some a => exact agrees_pure _

theorem agrees_handleWriteValue (out : Outside) (o : GattObject) (call : DBusMethodCall) :
    Agrees w cells (o.handleWriteValue out.environment call)
      (Threaded.handleWriteValue out w o call) := by
  rw [GattObject.handleWriteValue_eq_store, handleWriteValue, Threaded.handleWriteValue]
  cases call.invocation with
  | false => exact agrees_pure _
  | true =>
    cases call.parameters with
    | none => exact agrees_reply _
    | some parameters =>
      apply agrees_catchStd
      · apply agrees_then (agrees_defined _)
        exact fun newValue _ => agrees_writeDecoded out o newValue
      · exact fun _ => agrees_reply _

end Rules

def GattObject.getValue : GattObject → Gatt (List UInt8)
  | .characteristic => GattCharacteristic.getValue
  | .descriptor d => GattDescriptor.getValue d

/-- The operation where there is only one thread. -/
def TaskOperation.perform (env : Environment) : TaskOperation → Gatt Unit
  | .setValue newValue => GattCharacteristic.setValue env newValue
  | .getValue o => discard o.getValue
  | .startNotify => discard (GattCharacteristic.startNotify env)
  | .stopNotify => discard (GattCharacteristic.stopNotify env)
  | .isNotifying => discard GattCharacteristic.isNotifying
  | .handleReadValue o call => o.handleReadValue env call
  | .handleWriteValue o call => o.handleWriteValue env call
  | .setDescriptorValue d newValue => GattDescriptor.setValue env d newValue

theorem agrees_perform (op : TaskOperation) (out : Outside) (w : World)
    (cells : (g : Guard) → Cell g) :
    Agrees w cells (op.perform out.environment) (Task.mk op out w).perform := by
  cases op with
  | setValue newValue => exact agrees_setValue out newValue
  | getValue o =>
    apply agrees_discard
    have h : Agrees w cells _ (Threaded.getValue o) := agrees_getValue o
    cases o with
    | characteristic => exact h
    | descriptor d => exact h
  | startNotify => exact agrees_discard (agrees_startNotify out)
  | stopNotify => exact agrees_discard (agrees_stopNotify out)
  | isNotifying => exact agrees_discard agrees_isNotifying
  | handleReadValue o call =>
    have h : Agrees w cells _ (Threaded.handleReadValue out o call) :=
      agrees_handleReadValue out o call
    rw [← GattObject.handleReadValue_eq] at h
    exact h
  | handleWriteValue o call => exact agrees_handleWriteValue out o call
  | setDescriptorValue d newValue => exact agrees_setDescriptorValue out d newValue

/-- The calls one after another, whatever each of them ends with. -/
def performAll (w : World) : List (TaskOperation × Outside) → World × List Event
  | [] => (w, [])
  | (op, out) :: calls =>
    let o := op.perform out.environment w
    let rest := performAll o.state calls
    (rest.1, o.trace ++ rest.2)

theorem performAll_append (w : World) (calls calls' : List (TaskOperation × Outside)) :
    performAll w (calls ++ calls') =
      let first := performAll w calls
      let rest := performAll first.1 calls'
      (rest.1, first.2 ++ rest.2) := by
  induction calls generalizing w with
  | nil => rfl
  | cons call calls ih =>
    obtain ⟨op, out⟩ := call
    simp only [List.cons_append, performAll, ih, List.append_assoc]

/-- The calls on objects whose fixed parts are those of `w`. -/
def callTasks (w : World) (calls : List (TaskOperation × Outside)) : List Task :=
  calls.map fun call => ⟨call.1, call.2, w⟩

/-- The objects and the cells have come from the same to the same. -/
structure Performs (w : World) (cells cells' : (g : Guard) → Cell g) (r : World × List Event) :
    Prop where
  state : r.1 = w.filled cells'
  notes : ∀ g, g.Own w →
    noted g (cells' g) = noted g (cells g) ++ r.2.filterMap (Event.note? w g)

/-- A thread that nobody disturbs leaves the objects as its calls leave them without threads,
with the same steps on the mutexes. -/
theorem alone_agrees (w : World) (cells : (g : Guard) → Cell g)
    (calls : List (TaskOperation × Outside)) :
    let e := (taskProgram (callTasks w calls)).alone cells
    Performs w cells e.cells (performAll (w.filled cells) calls) ∧
      locks (performAll (w.filled cells) calls).2 = e.steps.filterMap mutexStep? := by
  induction calls generalizing cells with
  | nil => exact ⟨⟨rfl, fun _ _ => (List.append_nil _).symm⟩, rfl⟩
  | cons call calls ih =>
    obtain ⟨op, out⟩ := call
    have h := agrees_perform op out w cells
    obtain ⟨hrest, hsteps⟩ := ih ((Task.mk op out w).perform.run.alone cells).cells
    have hrun : taskProgram (callTasks w ((op, out) :: calls)) =
        (Task.mk op out w).perform.run.bind fun _ => taskProgram (callTasks w calls) := rfl
    rw [hrun, Program.alone_bind, performAll, h.state]
    apply And.intro
    · constructor
      · exact hrest.state
      · intro g hg
        rw [List.filterMap_append, hrest.notes g hg, h.notes g hg, List.append_assoc]
    · rw [locks_append, List.filterMap_append, h.steps, hsteps]

theorem Performs.trans (h : Performs w cells cells' r) (h' : Performs w cells' cells'' r') :
    Performs w cells cells'' (r'.1, r.2 ++ r'.2) where
  state := h'.state
  notes g hg := by
    rw [h'.notes g hg, h.notes g hg, List.filterMap_append, List.append_assoc]

section Runs
variable {θ : Type t} [DecidableEq θ] {w : World}
variable {calls : θ → List (TaskOperation × Outside)} {s : Program.Shared θ Guard Cell Unit}

/-- A thread makes all its calls while nobody else moves. -/
theorem reaches_end (h : Interleaved (fun t => callTasks w (calls t)) w s) (hi : s.Idle)
    (ht : s.todo t = taskProgram (callTasks w (calls t))) :
    ∃ s', Interleaved (fun t => callTasks w (calls t)) w s' ∧ s'.Idle ∧ s'.todo t = .done () ∧
      (∀ u, u ≠ t → s'.todo u = s.todo u) ∧
        Performs w s.cells s'.cells (performAll (w.filled s.cells) (calls t)) := by
  have hw : Program.wp ((effects fun t => callTasks w (calls t)).discipline w)
      (fun held _ => held = .nothing Cell ∧ True) (taskProgram (callTasks w (calls t)))
      (.nothing Cell) := by
    apply Program.wp_mono _ fun _ _ hn => ⟨hn, trivial⟩
    apply Program.wp_each
    intro p hp
    obtain ⟨task, hmem, rfl⟩ := List.mem_map.1 hp
    exact task.wp_perform (fun o s h => ⟨t, task, hmem, h⟩) fun f s h => ⟨t, task, hmem, h⟩
  rw [← Program.bind_done (taskProgram _)] at ht
  obtain ⟨s', hr, hi', ht', hc, _, hu⟩ := h.kept.alone_idle hi ht hw
  exact ⟨s', h.trans hr, hi', ht', hu, hc ▸ (alone_agrees w s.cells (calls t)).1⟩

theorem reaches_all (order : List θ) (hn : order.Nodup)
    (h : Interleaved (fun t => callTasks w (calls t)) w s) (hi : s.Idle)
    (ht : ∀ t ∈ order, s.todo t = taskProgram (callTasks w (calls t))) :
    ∃ s', Interleaved (fun t => callTasks w (calls t)) w s' ∧
      (∀ t ∉ order, s'.todo t = s.todo t) ∧ (∀ t ∈ order, s'.todo t = .done ()) ∧
        Performs w s.cells s'.cells (performAll (w.filled s.cells) (order.flatMap calls)) := by
  induction order generalizing s with
  | nil =>
    exact ⟨s, h, fun _ _ => rfl, List.forall_mem_nil _, rfl, fun _ _ => (List.append_nil _).symm⟩
  | cons t order ih =>
    obtain ⟨hnot, hn⟩ := List.nodup_cons.1 hn
    obtain ⟨ht, hrest⟩ := List.forall_mem_cons.1 ht
    obtain ⟨s₁, h₁, hi₁, ht₁, hu₁, hp₁⟩ := reaches_end h hi ht
    have hrest₁ u (hu : u ∈ order) : s₁.todo u = taskProgram (callTasks w (calls u)) :=
      (hu₁ u fun he => hnot (he ▸ hu)).trans (hrest u hu)
    obtain ⟨s₂, h₂, hkept₂, hdone₂, hp₂⟩ := ih hn h₁ hi₁ hrest₁
    rw [← hp₁.state] at hp₂
    exists s₂, h₂
    apply And.intro
    · intro u hu
      obtain ⟨hne, hu⟩ := not_or.1 (mt List.mem_cons.2 hu)
      exact (hkept₂ u hu).trans (hu₁ u hne)
    · apply And.intro
      · exact List.forall_mem_cons.2 ⟨(hkept₂ t hnot).trans ht₁, hdone₂⟩
      · rw [List.flatMap_cons, performAll_append]
        exact hp₁.trans hp₂

/-- Among the runs of the threads are those in which they take their turns one after another,
in any order. These do what the calls do without threads. -/
theorem serial_runs (w : World) (calls : θ → List (TaskOperation × Outside)) (order : List θ)
    (hn : order.Nodup) :
    ∃ s, Interleaved (fun t => callTasks w (calls t)) w s ∧ (∀ t ∈ order, s.todo t = .done ()) ∧
      Performs w w.cells s.cells (performAll w (order.flatMap calls)) := by
  obtain ⟨s, h, _, hdone, hp⟩ := reaches_all order hn .refl (fun _ => rfl) fun _ _ => rfl
  exact ⟨s, h, hdone, hp⟩

theorem serial_runs_setters :
    ∃ s, Interleaved (fun t : Bool => callTasks (.constructed 0)
        [(.setValue [if t then 1 else 2], .quiet)]) (.constructed 0) s ∧
      Prod.fst (s.cells (.mutex .valueMutex)) = [2] := by
  obtain ⟨s, hs, _, hp⟩ := serial_runs (.constructed 0)
    (fun t : Bool => [(.setValue [if t then 1 else 2], .quiet)]) [true, false] (by decide)
  exact ⟨s, hs, congrArg (fun w => w.characteristic.value) hp.state.symm⟩

end Runs
end Ggk
