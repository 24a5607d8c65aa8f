import BluetoothLE.Gatt.Threaded

namespace Ggk
open Lib Gatt
set_option autoImplicit true

namespace Threaded

/-- The weakest precondition of code that can throw. -/
abbrev wp (D : Program.Discipline Guard Cell) (Q : Program.Held Cell → Except Thrown α → Prop)
    (x : Threaded α) (held : Program.Held Cell) : Prop :=
  Program.wp D Q x.run held

section Rules
variable {D : Program.Discipline Guard Cell} {held : Program.Held Cell}
variable {Q : Program.Held Cell → Except Thrown α → Prop}

theorem wp_pure (h : Q held (.ok a)) : wp D Q (pure a) held := Program.wp_done h

theorem wp_throw (h : Q held (.error e)) : wp D Q (throw e) held := Program.wp_done h

theorem wp_ended {r : Except Thrown α} (h : Q held r) : wp D Q (ended r) held :=
  Program.wp_done h

theorem wp_bind {x : Threaded β} {k : β → Threaded α}
    (h : wp D (fun held r => match r with
      | .ok b => wp D Q (k b) held
      | .error e => Q held (.error e)) x held) : wp D Q (x >>= k) held := by
  apply Program.wp_bind.2
  apply Program.wp_mono h
  intro held r hr
  cases r with
  | ok b => exact hr
  | error e => exact Program.wp_done hr

theorem wp_discard {x : Threaded β} {Q : Program.Held Cell → Except Thrown Unit → Prop}
    (h : wp D (fun held r => Q held (r.map fun _ => ())) x held) : wp D Q (discard x) held := by
  apply Program.wp_bind.2
  apply Program.wp_mono h
  intro held r hr
  cases r with
  | ok b => exact Program.wp_done hr
  | error e => exact Program.wp_done hr

theorem wp_catchStd {x : Threaded α} {handler : String → Threaded α}
    (h : wp D (fun held r => match r with
      | .ok a => Q held (.ok a)
      | .error e => match what e with
        | some what => wp D Q (handler what) held
        | none => Q held (.error e)) x held) :
    wp D Q (catchStd x handler) held := by
  apply Program.wp_bind.2
  apply Program.wp_mono h
  intro held r hr
  cases r with
  | ok a => exact Program.wp_done hr
  | error e =>
    cases hw : what e with
    | none =>
      simp only [hw] at hr ⊢
      exact wp_throw hr
    | some s =>
      simp only [hw] at hr ⊢
      exact hr

/-- An exception that is caught and dropped leaves nothing to tell. -/
theorem wp_caught {x : Threaded Unit} {Q : Program.Held Cell → Except Thrown Unit → Prop}
    (h : wp D (fun held _ => ∀ r, Q held r) x held) :
    wp D Q (catchStd x fun _ => pure ()) held := by
  apply wp_catchStd
  apply Program.wp_mono h
  intro held r hr
  cases r with
  | ok a => exact hr _
  | error e =>
    cases hw : what e with
    | none => simpa only [hw] using hr _
    | some s =>
      simp only [hw]
      exact wp_pure (hr _)

theorem wp_withLock {x : Threaded α} (hm : held (.mutex m) = none)
    (hb : ∀ h, held h ≠ none → D.before h (.mutex m))
    (hp : ∀ b, D.always (.mutex m) b → D.between (.mutex m) b →
      wp D (fun held' r => ∃ b', held' = Function.update held (.mutex m) (some b') ∧
        D.between (.mutex m) b' ∧ Q held r) x (Function.update held (.mutex m) (some b))) :
    wp D Q (withLock m x) held :=
  Program.wp_block hm hb hp

theorem wp_access {f : Cell g → Cell g} {r : Cell g → α} (hg : held g = some b)
    (ha : D.always g (f b)) (hQ : Q (Function.update held g (some (f b))) (.ok (r b))) :
    wp D Q (access g f r) held :=
  Program.wp_access hg ha hQ

theorem wp_load {r : Cell g → α} (hg : held g = some b) (ha : D.always g b)
    (hQ : Q held (.ok (r b))) : wp D Q (load g r) held := by
  apply wp_access hg ha
  rw [id, ← hg, Function.update_eq_self]
  exact hQ

theorem wp_peek {r : Cell g → α} (hQ : ∀ b, D.always g b → Q held (.ok (r b))) :
    wp D Q (peek g r) held :=
  Program.wp_peek hQ

end Rules
end Threaded

/-- What happens to a value in one go, while its mutex is held. -/
inductive ValueSection where
  | assigned (newValue : List UInt8)
  | announced (newValue : List UInt8) (valueVariant : GVariant)
  | read

/-- A value that is changed and read in one go each time. -/
def valueObject : Machine (List UInt8) ValueSection (List ValueEvent) where
  step value
    | .assigned newValue => ([.stored newValue], newValue)
    | .announced newValue valueVariant =>
      ([.stored newValue, .announced valueVariant], newValue)
    | .read => ([.read value], value)

/-- What happens to the flag in one go. A change for which there is no variant is taken back. -/
inductive FlagSection where
  | changed (notifying : Bool)
  | announced (notifying : Bool)
  | retracted (notifying : Bool)

def flagObject : Machine Bool FlagSection (List NotifyEvent) where
  step _
    | .changed notifying => ([.changed notifying], notifying)
    | .announced notifying => ([.changed notifying, .announced notifying], notifying)
    | .retracted notifying => ([.changed notifying, .changed !notifying], !notifying)

/-- What the threads may do to the values, and to the flag as it is. -/
structure Effects where
  value : GattObject → ValueSection → Prop
  flag : Bool → FlagSection → Prop

/-- Callbacks that run one after the other. -/
def OneByOne (events : List CallbackEvent) : Prop :=
  ∃ n, events = (List.replicate n [CallbackEvent.entered, .left]).flatten

/-- The same, and possibly one that has not ended. -/
def Alone (events : List CallbackEvent) : Prop :=
  OneByOne events ∨ ∃ earlier, OneByOne earlier ∧ events = earlier ++ [.entered]

theorem OneByOne.nil : OneByOne [] := ⟨0, rfl⟩

theorem OneByOne.snoc (h : OneByOne events) : OneByOne (events ++ [.entered] ++ [.left]) := by
  obtain ⟨n, rfl⟩ := h
  exists n + 1
  rw [List.replicate_succ', List.flatten_append, List.append_assoc]
  rfl

theorem Alone.entered (h : OneByOne events) : Alone (events ++ [.entered]) := .inr ⟨_, h, rfl⟩

theorem Alone.left (h : OneByOne events) : Alone (events ++ [.entered] ++ [.left]) := .inl h.snoc

namespace Effects

/-- A value that an object has had. -/
def Had (E : Effects) (w : World) (o : GattObject) (value : List UInt8) : Prop :=
  value = o.value w ∨ ∃ section_, E.value o section_ ∧
    (section_ = .assigned value ∨ ∃ valueVariant, section_ = .announced value valueVariant)

def Announces (E : Effects) (w : World) (o : GattObject) (signals : List GVariant) : Prop :=
  ∀ valueVariant ∈ signals, ∃ value, E.Had w o value ∧
    Utils.gvariantFromByteArray value (Utils.toInt value.length) = some valueVariant

/-- What has been done with the flag so far is the beginning of sections done in one go. -/
def Underway (E : Effects) (w : World) (events : List NotifyEvent) : Prop :=
  ∃ flag all, flagObject.Replays E.flag w.characteristic.notifying flag all ∧ events <+: all

def always (E : Effects) (w : World) : (g : Guard) → Cell g → Prop
  | .mutex .valueMutex, b => E.Had w .characteristic (Prod.fst b)
  | .mutex (.descriptorValueMutex d), b => E.Had w (.descriptor d) (Prod.fst b)
  | .mutex .callbackMutex, b | .mutex (.descriptorCallbackMutex _), b => Alone b
  | .mutex .notifyMutex, b => E.Underway w (Prod.snd b)
  | .bus d, b => E.Announces w (.descriptor d) b

def between (E : Effects) (w : World) : (g : Guard) → Cell g → Prop
  | .mutex .valueMutex, b =>
    valueObject.Replays (fun _ => E.value .characteristic) w.characteristic.value b.1 b.2
  | .mutex (.descriptorValueMutex d), b =>
    valueObject.Replays (fun _ => E.value (.descriptor d)) (w.descriptors d).value b.1 b.2
  | .mutex .callbackMutex, b | .mutex (.descriptorCallbackMutex _), b => OneByOne b
  | .mutex .notifyMutex, b => flagObject.Replays E.flag w.characteristic.notifying b.1 b.2
  | .bus _, _ => True

def discipline (E : Effects) (w : World) : Program.Discipline Guard Cell :=
  ⟨E.always w, E.between w, fun _ _ => True⟩

theorem Underway.of_replays {E : Effects} {w : World}
    (h : flagObject.Replays E.flag w.characteristic.notifying b events) : E.Underway w events :=
  ⟨_, _, h, List.prefix_rfl⟩

theorem Underway.begun {E : Effects} {w : World}
    (h : flagObject.Replays E.flag w.characteristic.notifying b events)
    (hE : E.flag b section_) (hp : more <+: (flagObject.step b section_).1) :
    E.Underway w (events ++ more) :=
  ⟨_, _, h.snoc hE, (List.prefix_append_right_inj events).2 hp⟩

end Effects
namespace Threaded
variable {E : Effects} {w : World} {held : Program.Held Cell} {out : Outside}

theorem wp_callback {r : Except Thrown α} {b : Cell (.mutex o.callbackMutex)}
    {Q : Program.Held Cell → Except Thrown α → Prop}
    (hm : held (.mutex o.callbackMutex) = some b) (hb : E.between w (.mutex o.callbackMutex) b)
    (hQ : ∀ b', E.between w (.mutex o.callbackMutex) b' →
      Q (Function.update held (.mutex o.callbackMutex) (some b')) r) :
    wp (E.discipline w) Q (callback o r) held := by
  cases o with
  | characteristic =>
    apply wp_bind (wp_access hm (Alone.entered hb) _)
    apply wp_bind (wp_access (Function.update_self ..) (Alone.left hb) _)
    apply wp_ended
    rw [Function.update_idem]
    exact hQ _ (OneByOne.snoc hb)
  | descriptor d =>
    apply wp_bind (wp_access hm (Alone.entered hb) _)
    apply wp_bind (wp_access (Function.update_self ..) (Alone.left hb) _)
    apply wp_ended
    rw [Function.update_idem]
    exact hQ _ (OneByOne.snoc hb)

theorem wp_notifyCallback {Q : Program.Held Cell → Except Thrown Unit → Prop}
    (hm : held (.mutex .callbackMutex) = none) (hQ : Q held out.notifyResult) :
    wp (E.discipline w) Q (withLock .callbackMutex (runNotifyCallback out)) held := by
  apply wp_withLock hm fun _ _ => trivial
  intro b _ hb
  rw [runNotifyCallback]
  cases hn : out.notifyCallback with
  | none =>
    rw [Outside.notifyResult, hn] at hQ
    exact wp_pure ⟨b, rfl, hb, hQ⟩
  | some r =>
    apply wp_catchStd
    apply wp_callback (o := .characteristic) (Function.update_self ..) hb
    intro b' hb'
    simp only [GattObject.callbackMutex, Function.update_idem]
    cases r with
    | ok a =>
      rw [Outside.notifyResult, hn] at hQ
      exact ⟨b', rfl, hb', hQ⟩
    | error e =>
      have hr : out.notifyResult = if (what e).isSome then .ok () else .error e := by
        rw [Outside.notifyResult, hn]
      rw [hr] at hQ
      cases hw : what e with
      | none =>
        simp only [hw] at hQ ⊢
        exact ⟨b', rfl, hb', hQ⟩
      | some s =>
        simp only [hw] at hQ ⊢
        exact wp_pure ⟨b', rfl, hb', hQ⟩

theorem wp_isNotifying {Q : Program.Held Cell → Except Thrown Bool → Prop}
    (hm : held (.mutex .notifyMutex) = none) (hQ : ∀ b, Q held (.ok b)) :
    wp (E.discipline w) Q isNotifying held := by
  apply wp_withLock hm fun _ _ => trivial
  intro b ha hb
  apply wp_load (Function.update_self ..) ha
  exact ⟨b, rfl, hb, hQ _⟩

theorem wp_notifyIfAsked {Q : Program.Held Cell → Except Thrown Unit → Prop}
    (hm : held (.mutex .notifyMutex) = none) (hc : held (.mutex .callbackMutex) = none)
    (hQ : ∀ r, r = .ok () ∨ r = out.notifyResult → Q held r) :
    wp (E.discipline w) Q (notifyIfAsked out) held := by
  apply wp_bind
  apply wp_isNotifying hm
  intro b
  cases b with
  | false => exact wp_pure (hQ _ (.inl rfl))
  | true => exact wp_notifyCallback hc (hQ _ (.inr rfl))

theorem wp_gvariantFromByteArray {Q : Program.Held Cell → Except Thrown (Option GVariant) → Prop}
    (hn : byteArrayMade out.environment bytes = false →
      ∀ r, r = .ok none ∨ r = .error .undefined → Q held r)
    (hs : ∀ v, byteArrayMade out.environment bytes = true →
      Utils.gvariantFromByteArray bytes (Utils.toInt bytes.length) = some v →
        Q held (.ok (some v))) :
    wp (E.discipline w) Q (gvariantFromByteArray out bytes) held := by
  unfold gvariantFromByteArray
  cases hv : Utils.gvariantFromByteArray bytes (Utils.toInt bytes.length) with
  | none => exact wp_bind (wp_throw (hn (by simp [byteArrayMade, hv]) _ (.inr rfl)))
  | some v =>
    apply wp_bind (wp_pure (wp_pure _))
    cases hb : out.byteArrayVariant with
    | false => exact hn (by simp [byteArrayMade, Outside.environment, hb]) _ (.inl rfl)
    | true => exact hs v (by simp [byteArrayMade, Outside.environment, hb, hv]) hv

/-- What `setValue` may come to do with the value. -/
def setsValue (out : Outside) (c : GattCharacteristic) (newValue : List UInt8) :
    ValueSection → Prop
  | .assigned v => v = newValue ∧ (c.registered = false ∨
      byteArrayMade out.environment newValue = false ∨ out.notifyResult.isOk = false)
  | .announced v valueVariant => v = newValue ∧ c.registered = true ∧
      byteArrayMade out.environment newValue = true ∧
      Utils.gvariantFromByteArray newValue (Utils.toInt newValue.length) = some valueVariant
  | .read => False

theorem had_of_setsValue {c : GattCharacteristic}
    (hE : ∀ section_, setsValue out c newValue section_ → E.value .characteristic section_) :
    E.Had w .characteristic newValue := by
  right
  by_cases h : c.registered = true ∧ byteArrayMade out.environment newValue = true
  · obtain ⟨v, hv⟩ := Option.isSome_iff_exists.1 (Bool.and_eq_true_iff.1 h.2).2
    exact ⟨.announced newValue v, hE _ ⟨rfl, h.1, h.2, hv⟩, .inr ⟨v, rfl⟩⟩
  · have hn : c.registered = false ∨ byteArrayMade out.environment newValue = false := by
      rw [← Bool.not_eq_true, ← Bool.not_eq_true, ← Classical.not_and_iff_not_or_not]
      exact h
    exact ⟨.assigned newValue, hE _ ⟨rfl, hn.imp_right .inl⟩, .inl rfl⟩

theorem wp_setValue {Q : Program.Held Cell → Except Thrown Unit → Prop} {c : GattCharacteristic}
    (hE : ∀ section_, setsValue out c newValue section_ → E.value .characteristic section_)
    (hQ : ∀ r, Q (.nothing Cell) r) :
    wp (E.discipline w) Q (setValue out c newValue) (.nothing Cell) := by
  have hhad := had_of_setsValue (w := w) hE
  apply wp_caught
  apply wp_withLock rfl fun _ _ => trivial
  intro b _ hb
  have hassigned (h : c.registered = false ∨ byteArrayMade out.environment newValue = false ∨
      out.notifyResult.isOk = false) :
      E.between w (.mutex .valueMutex) (newValue, b.2 ++ [.stored newValue]) :=
    hb.snoc (hE (.assigned newValue) ⟨rfl, h⟩)
  apply wp_bind (wp_access (Function.update_self ..) hhad _)
  rw [Function.update_idem]
  by_cases hr : c.registered = true
  · rw [if_pos hr, announceValue]
    apply wp_bind (wp_load (Function.update_self ..) hhad _)
    apply wp_bind
    apply wp_gvariantFromByteArray
    · intro hm r hr'
      rcases hr' with rfl | rfl
      · exact wp_pure ⟨_, rfl, hassigned (.inr (.inl hm)), hQ⟩
      · exact ⟨_, rfl, hassigned (.inr (.inl hm)), hQ⟩
    · intro v hm hv
      apply wp_bind
      apply wp_notifyIfAsked rfl rfl
      intro r hr'
      cases r with
      | error e =>
        have hn : out.notifyResult.isOk = false := by
          rw [← hr'.resolve_left (by simp)]
          rfl
        exact ⟨_, rfl, hassigned (.inr (.inr hn)), hQ⟩
      | ok a =>
        simp only [if_pos hr]
        apply wp_access (Function.update_self ..) hhad
        have hs : E.between w (.mutex .valueMutex)
            (newValue, b.2 ++ ([.stored newValue] ++ [.announced v])) :=
          hb.snoc (hE (.announced newValue v) ⟨rfl, hr, hm, hv⟩)
        rw [← List.append_assoc] at hs
        rw [Function.update_idem]
        exact ⟨_, rfl, hs, hQ⟩
  · rw [if_neg hr]
    exact wp_pure ⟨_, rfl, hassigned (.inl (by simpa using hr)), hQ⟩

/-- What setting the flag to `wanted` may come to do with it. -/
def changesFlag (out : Outside) (c : GattCharacteristic) (wanted flag : Bool)
    (section_ : FlagSection) : Prop :=
  flag = !wanted ∧ (wanted = true → c.supportsNotify = true) ∧
    match section_ with
    | .changed b => b = wanted ∧ c.registered = false
    | .announced b => b = wanted ∧ c.registered = true ∧ out.booleanVariant = true
    | .retracted b => b = wanted ∧ c.registered = true ∧ out.booleanVariant = false

theorem wp_announceNotifying {c : GattCharacteristic} {b : Bool × List NotifyEvent}
    {Q : Program.Held Cell → Except Thrown Bool → Prop}
    (hb : E.between w (.mutex .notifyMutex) b) (hf : b.1 = !wanted)
    (hs : wanted = true → c.supportsNotify = true)
    (hE : ∀ flag section_, changesFlag out c wanted flag section_ → E.flag flag section_)
    (hQ : ∀ b' r, E.between w (.mutex .notifyMutex) b' →
      Q (Function.update held (.mutex .notifyMutex) (some b')) (.ok r)) :
    wp (E.discipline w) Q (announceNotifying out c wanted)
      (Function.update held (.mutex .notifyMutex) (some b)) := by
  by_cases hr : c.registered = true
  · by_cases hv : out.booleanVariant = true
    · have hsection := hE b.1 (.announced wanted) ⟨hf, hs, rfl, hr, hv⟩
      have h : E.between w (.mutex .notifyMutex)
          (wanted, b.2 ++ ([.changed wanted] ++ [.announced wanted])) := hb.snoc hsection
      have hbegun : E.Underway w (b.2 ++ [.changed wanted]) :=
        .begun hb hsection ⟨[.announced wanted], rfl⟩
      rw [← List.append_assoc] at h
      apply wp_bind (wp_access (Function.update_self ..) hbegun _)
      rw [Function.update_idem, if_pos hr, if_pos hv]
      apply wp_bind (wp_access (Function.update_self ..) (Effects.Underway.of_replays h) _)
      rw [Function.update_idem]
      exact wp_pure (hQ _ _ h)
    · have hsection := hE b.1 (.retracted wanted) ⟨hf, hs, rfl, hr, by simpa using hv⟩
      have h : E.between w (.mutex .notifyMutex)
          (!wanted, b.2 ++ ([.changed wanted] ++ [.changed !wanted])) := hb.snoc hsection
      have hbegun : E.Underway w (b.2 ++ [.changed wanted]) :=
        .begun hb hsection ⟨[.changed !wanted], rfl⟩
      rw [← List.append_assoc] at h
      apply wp_bind (wp_access (Function.update_self ..) hbegun _)
      rw [Function.update_idem, if_pos hr, if_neg hv]
      apply wp_bind (wp_access (Function.update_self ..) (Effects.Underway.of_replays h) _)
      rw [Function.update_idem]
      exact wp_pure (hQ _ _ h)
  · have h : E.between w (.mutex .notifyMutex) (wanted, b.2 ++ [.changed wanted]) :=
      hb.snoc (hE b.1 (.changed wanted) ⟨hf, hs, rfl, by simpa using hr⟩)
    apply wp_bind (wp_access (Function.update_self ..) (Effects.Underway.of_replays h) _)
    rw [Function.update_idem, if_neg hr]
    exact wp_pure (hQ _ _ h)

theorem wp_startNotify {c : GattCharacteristic}
    {Q : Program.Held Cell → Except Thrown Bool → Prop}
    (hE : ∀ flag section_, changesFlag out c true flag section_ → E.flag flag section_)
    (hQ : ∀ r, Q (.nothing Cell) r) :
    wp (E.discipline w) Q (startNotify out c) (.nothing Cell) := by
  apply wp_withLock rfl fun _ _ => trivial
  intro b ha hb
  apply wp_bind (wp_load (Function.update_self ..) ha _)
  by_cases hf : b.1 = true
  · simp only [if_pos hf]
    exact wp_pure ⟨b, rfl, hb, hQ _⟩
  · simp only [if_neg hf]
    by_cases hs : (!c.supportsNotify) = true
    · rw [if_pos hs]
      exact wp_pure ⟨b, rfl, hb, hQ _⟩
    · rw [if_neg hs]
      apply wp_bind
      apply wp_announceNotifying hb (by simpa using hf) (fun _ => by simpa using hs) hE
      intro b' r hb'
      cases r with
      | false => exact wp_pure ⟨b', rfl, hb', hQ _⟩
      | true =>
        apply wp_bind
        apply wp_notifyCallback rfl
        cases out.notifyResult with
        | ok a => exact wp_pure ⟨b', rfl, hb', hQ _⟩
        | error e => exact ⟨b', rfl, hb', hQ _⟩

theorem wp_stopNotify {c : GattCharacteristic}
    {Q : Program.Held Cell → Except Thrown Bool → Prop}
    (hE : ∀ flag section_, changesFlag out c false flag section_ → E.flag flag section_)
    (hQ : ∀ r, Q (.nothing Cell) r) :
    wp (E.discipline w) Q (stopNotify out c) (.nothing Cell) := by
  apply wp_withLock rfl fun _ _ => trivial
  intro b ha hb
  apply wp_bind (wp_load (Function.update_self ..) ha _)
  by_cases hf : (!b.1) = true
  · simp only [if_pos hf]
    exact wp_pure ⟨b, rfl, hb, hQ _⟩
  · simp only [if_neg hf]
    apply wp_announceNotifying hb (by simpa using hf) (fun h => absurd h Bool.false_ne_true) hE
    exact fun b' r hb' => ⟨b', rfl, hb', hQ _⟩

theorem wp_carryOut {c : GattCharacteristic} {request : Option Bool}
    {Q : Program.Held Cell → Except Thrown Unit → Prop}
    (hE : ∀ wanted flag section_, request = some wanted →
      changesFlag out c wanted flag section_ → E.flag flag section_)
    (hQ : ∀ r, Q (.nothing Cell) r) :
    wp (E.discipline w) Q (carryOut out c request) (.nothing Cell) := by
  rcases request with _ | _ | _
  · exact wp_pure (hQ _)
  · exact wp_discard (wp_stopNotify (fun flag s h => hE _ flag s rfl h) fun r => hQ _)
  · exact wp_discard (wp_startNotify (fun flag s h => hE _ flag s rfl h) fun r => hQ _)

theorem wp_send {Q : Program.Held Cell → Except Thrown Unit → Prop}
    (hm : held (.bus d) = none) (hhad : E.Had w (.descriptor d) value)
    (hv : Utils.gvariantFromByteArray value (Utils.toInt value.length) = some valueVariant)
    (hQ : Q held (.ok ())) : wp (E.discipline w) Q (send d valueVariant) held := by
  apply Program.wp_locked hm fun _ _ => trivial
  intro b ha _
  apply wp_access (Function.update_self ..)
  · apply List.forall_mem_append.2 ⟨ha, _⟩
    intro g hg
    cases List.mem_singleton.1 hg
    exact ⟨value, hhad, hv⟩
  · have hself : Function.update held (.bus d) none = held := by
      rw [← hm, Function.update_eq_self]
    rw [Function.update_idem, Function.update_idem, hself]
    exact ⟨_, Function.update_self .., trivial, hQ⟩

theorem wp_announceDescriptorValue {Q : Program.Held Cell → Except Thrown Unit → Prop}
    (hm : held (.bus d) = none) (hQ : ∀ r, Q held r) :
    wp (E.discipline w) Q (announceDescriptorValue out d) held := by
  apply wp_bind
  apply wp_peek
  intro b hb
  apply wp_bind
  apply wp_gvariantFromByteArray
  · intro _ r hr
    rcases hr with rfl | rfl
    · exact wp_pure (hQ _)
    · exact hQ _
  · intro g _ hg
    exact wp_send hm hb hg (hQ _)

/-- The value of a descriptor is only stored, and announced as it is later. -/
theorem wp_setDescriptorValue {Q : Program.Held Cell → Except Thrown Unit → Prop} {v : World}
    (hE : E.value (.descriptor d) (.assigned newValue))
    (hF : ∀ wanted flag section_, (v.descriptors d).request newValue = some wanted →
      changesFlag out v.characteristic wanted flag section_ → E.flag flag section_)
    (hQ : ∀ r, Q (.nothing Cell) r) :
    wp (E.discipline w) Q (setDescriptorValue out v d newValue) (.nothing Cell) := by
  have hhad : E.Had w (.descriptor d) newValue := .inr ⟨_, hE, .inl rfl⟩
  apply wp_caught
  apply wp_bind
  apply wp_withLock rfl fun _ _ => trivial
  intro b _ hb
  apply wp_access (Function.update_self ..) hhad
  rw [Function.update_idem]
  have hs : E.between w (.mutex (.descriptorValueMutex d))
      (newValue, b.2 ++ [.stored newValue]) := hb.snoc hE
  refine ⟨_, rfl, hs, ?_⟩
  apply wp_bind
  apply wp_caught
  apply wp_carryOut hF
  intro _ r
  cases r with
  | error e => exact hQ
  | ok a =>
    by_cases hr : (v.descriptors d).registered = true
    · simp only [if_pos hr]
      apply wp_announceDescriptorValue
      · rfl
      · exact fun _ => hQ
    · simp only [if_neg hr]
      exact wp_pure hQ

theorem wp_readStored {Q : Program.Held Cell → Except Thrown (Option (List UInt8)) → Prop}
    (hE : E.value o .read) (hm : held (.mutex o.valueMutex) = none)
    (hQ : ∀ value, Q held (.ok (some value))) :
    wp (E.discipline w) Q (withLock o.valueMutex do return some (← readValue o)) held := by
  cases o with
  | characteristic =>
    simp only [GattObject.valueMutex] at hm ⊢
    apply wp_withLock hm fun _ _ => trivial
    intro b ha hb
    apply wp_bind (wp_access (Function.update_self ..) ha _)
    rw [Function.update_idem]
    exact wp_pure ⟨_, rfl, hb.snoc hE, hQ _⟩
  | descriptor d =>
    simp only [GattObject.valueMutex] at hm ⊢
    apply wp_withLock hm fun _ _ => trivial
    intro b ha hb
    apply wp_bind (wp_access (Function.update_self ..) ha _)
    rw [Function.update_idem]
    exact wp_pure ⟨_, rfl, hb.snoc hE, hQ _⟩

theorem wp_getValue {Q : Program.Held Cell → Except Thrown (List UInt8) → Prop}
    (hm : held (.mutex o.valueMutex) = none) (hQ : ∀ value, Q held (.ok value)) :
    wp (E.discipline w) Q (getValue o) held := by
  apply wp_bind
  apply wp_withLock hm fun _ _ => trivial
  intro b _ hb
  apply wp_pure
  exists b, rfl, hb
  cases o with
  | characteristic => exact wp_peek fun b _ => hQ _
  | descriptor d => exact wp_peek fun b _ => hQ _

theorem wp_readLocked {b : Cell (.mutex o.callbackMutex)}
    {Q : Program.Held Cell → Except Thrown (Option (List UInt8)) → Prop}
    (hE : out.readCallback o = none → E.value o .read)
    (hm : held (.mutex o.callbackMutex) = some b) (hb : E.between w (.mutex o.callbackMutex) b)
    (hv : held (.mutex o.valueMutex) = none)
    (hQ : ∀ b' r, E.between w (.mutex o.callbackMutex) b' →
      Q (Function.update held (.mutex o.callbackMutex) (some b')) r) :
    wp (E.discipline w) Q (readLocked out o) held := by
  rw [readLocked]
  cases hr : out.readCallback o with
  | some r =>
    apply wp_catchStd
    apply wp_bind
    apply wp_callback hm hb
    intro b' hb'
    cases r with
    | ok value => exact wp_pure (hQ _ _ hb')
    | error e =>
      cases hw : what e with
      | none =>
        simp only [hw]
        exact hQ _ _ hb'
      | some s =>
        simp only [hw]
        exact wp_pure (hQ _ _ hb')
  | none =>
    apply wp_readStored (hE hr) hv
    intro value
    have h := hQ b (.ok (some value)) hb
    rw [← hm, Function.update_eq_self] at h
    exact h

theorem wp_handleReadValue {Q : Program.Held Cell → Except Thrown Unit → Prop}
    (hE : call.invocation = true → out.readCallback o = none → E.value o .read)
    (hQ : ∀ r, Q (.nothing Cell) r) :
    wp (E.discipline w) Q (handleReadValue out o call) (.nothing Cell) := by
  rw [handleReadValue]
  by_cases hi : call.invocation = true
  · rw [if_pos hi]
    apply wp_caught
    apply wp_bind
    apply wp_withLock rfl fun _ _ => trivial
    intro b _ hb
    apply wp_readLocked (hE hi) (Function.update_self ..) hb
    · cases o <;> rfl
    · intro b' r hb'
      rw [Function.update_idem]
      refine ⟨b', rfl, hb', ?_⟩
      rcases r with e | _ | value
      · exact hQ
      · exact wp_pure hQ
      · apply wp_discard
        apply wp_gvariantFromByteArray
        · exact fun _ _ _ => hQ
        · exact fun _ _ _ => hQ
  · rw [if_neg hi]
    exact wp_pure (hQ _)

theorem wp_writeLocked {b : Cell (.mutex o.callbackMutex)}
    {Q : Program.Held Cell → Except Thrown (Option Bool) → Prop}
    (hm : held (.mutex o.callbackMutex) = some b) (hb : E.between w (.mutex o.callbackMutex) b)
    (hQ : ∀ b', E.between w (.mutex o.callbackMutex) b' →
      Q (Function.update held (.mutex o.callbackMutex) (some b')) (out.writeVerdict o newValue)) :
    wp (E.discipline w) Q (writeLocked out o newValue) held := by
  rw [writeLocked]
  rw [Outside.writeVerdict] at hQ
  cases hf : out.writeCallback o with
  | none =>
    have h := hQ b hb
    rw [← hm, Function.update_eq_self] at h
    simp only [hf] at h
    exact wp_pure h
  | some f =>
    simp only [hf] at hQ
    apply wp_catchStd
    apply wp_bind
    apply wp_callback hm hb
    intro b' hb'
    have h := hQ b' hb'
    rcases hr : f newValue with e | success
    · simp only [hr] at h
      cases e with
      | stdException s => exact wp_pure h
      | other => exact h
      | undefined => exact h
    · simp only [hr] at h
      exact wp_pure h

theorem wp_assign {Q : Program.Held Cell → Except Thrown Unit → Prop} {v : World}
    (hE : E.value o (.assigned newValue))
    (hF : ∀ d wanted flag section_, o = .descriptor d →
      (v.descriptors d).request newValue = some wanted →
        changesFlag out v.characteristic wanted flag section_ → E.flag flag section_)
    (hQ : ∀ r, Q (.nothing Cell) r) :
    wp (E.discipline w) Q (assign out v newValue o) (.nothing Cell) := by
  cases o with
  | characteristic =>
    have hhad : E.Had w .characteristic newValue := .inr ⟨_, hE, .inl rfl⟩
    apply wp_withLock rfl fun _ _ => trivial
    intro b _ hb
    apply wp_access (Function.update_self ..) hhad
    rw [Function.update_idem]
    have hs : E.between w (.mutex .valueMutex) (newValue, b.2 ++ [.stored newValue]) :=
      hb.snoc hE
    exact ⟨_, rfl, hs, hQ _⟩
  | descriptor d => exact wp_setDescriptorValue hE (fun a f s h => hF d a f s rfl h) hQ

theorem wp_handleWriteValue {Q : Program.Held Cell → Except Thrown Unit → Prop} {v : World}
    (hE : ∀ newValue, decoded call = some newValue → out.accepts o newValue = true →
      E.value o (.assigned newValue))
    (hF : ∀ newValue d wanted flag section_, decoded call = some newValue →
      out.accepts o newValue = true → o = .descriptor d →
        (v.descriptors d).request newValue = some wanted →
          changesFlag out v.characteristic wanted flag section_ → E.flag flag section_)
    (hQ : ∀ r, Q (.nothing Cell) r) :
    wp (E.discipline w) Q (handleWriteValue out v o call) (.nothing Cell) := by
  cases hd : decoded call with
  | none =>
    rcases handleWriteValue_undecoded out v o hd with h | h
    · rw [h]
      exact wp_pure (hQ _)
    · rw [h]
      exact wp_throw (hQ _)
  | some newValue =>
    rw [handleWriteValue_decoded hd]
    apply wp_caught
    apply wp_bind
    apply wp_withLock rfl fun _ _ => trivial
    intro b _ hb
    apply wp_writeLocked (Function.update_self ..) hb
    intro b' hb'
    rw [Function.update_idem]
    refine ⟨b', rfl, hb', ?_⟩
    rcases hv : out.writeVerdict o newValue with e | _ | _ | _
    · exact hQ
    · exact wp_pure hQ
    · exact wp_pure hQ
    · have ha := Outside.accepts_iff.2 hv
      exact wp_assign (hE _ hd ha) (fun d a f s => hF _ d a f s hd ha) fun _ => hQ

end Threaded

namespace Task
open Threaded
variable {task : Task}

/-- What a call may do to the value of an object. -/
def value (task : Task) (o : GattObject) (section_ : ValueSection) : Prop :=
  match task.op with
  | .setValue newValue =>
    o = .characteristic ∧ setsValue task.out task.world.characteristic newValue section_
  | .handleReadValue o' call => o = o' ∧ section_ = .read ∧ call.invocation = true ∧
      task.out.readCallback o' = none
  | .handleWriteValue o' call => o = o' ∧ ∃ newValue, section_ = .assigned newValue ∧
      decoded call = some newValue ∧ task.out.accepts o' newValue = true
  | .setDescriptorValue d newValue => o = .descriptor d ∧ section_ = .assigned newValue
  | _ => False

/-- What a call may ask of the flag. -/
def request (task : Task) : Option Bool :=
  match task.op with
  | .startNotify => some true
  | .stopNotify => some false
  | .setDescriptorValue d newValue => (task.world.descriptors d).request newValue
  | .handleWriteValue (.descriptor d) call => (decoded call).bind fun newValue =>
    if task.out.accepts (.descriptor d) newValue then
      (task.world.descriptors d).request newValue
    else none
  | _ => none

def flag (task : Task) (flag : Bool) (section_ : FlagSection) : Prop :=
  ∃ wanted, task.request = some wanted ∧
    changesFlag task.out task.world.characteristic wanted flag section_

theorem wp_perform {E : Effects} {w : World}
    (hE : ∀ o section_, task.value o section_ → E.value o section_)
    (hF : ∀ flag section_, task.flag flag section_ → E.flag flag section_) :
    wp (E.discipline w) (fun held _ => held = .nothing Cell) task.perform (.nothing Cell) := by
  obtain ⟨op, out, v⟩ := task
  cases op with
  | setValue newValue => exact wp_setValue (fun s h => hE _ s ⟨rfl, h⟩) fun _ => rfl
  | getValue o => exact wp_discard (wp_getValue (by cases o <;> rfl) fun _ => rfl)
  | startNotify =>
    exact wp_discard (wp_startNotify (fun f s h => hF f s ⟨_, rfl, h⟩) fun _ => rfl)
  | stopNotify =>
    exact wp_discard (wp_stopNotify (fun f s h => hF f s ⟨_, rfl, h⟩) fun _ => rfl)
  | isNotifying => exact wp_discard (wp_isNotifying rfl fun _ => rfl)
  | handleReadValue o call =>
    exact wp_handleReadValue (fun hi hr => hE o _ ⟨rfl, rfl, hi, hr⟩) fun _ => rfl
  | handleWriteValue o call =>
    apply wp_handleWriteValue
    · exact fun newValue hd ha => hE o _ ⟨rfl, newValue, rfl, hd, ha⟩
    · rintro newValue d wanted f s hd ha rfl hr h
      exact hF f s ⟨wanted, by simp [request, hd, ha, hr], h⟩
    · exact fun _ => rfl
  | setDescriptorValue d newValue =>
    apply wp_setDescriptorValue (hE _ _ ⟨rfl, rfl⟩)
    · exact fun wanted f s hr h => hF f s ⟨wanted, hr, h⟩
    · exact fun _ => rfl

end Task

section Runs
variable {θ : Type t} [DecidableEq θ] {tasks : θ → List Task} {w : World}
variable {s : Program.Shared θ Guard Cell Unit}

/-- What the calls of all threads may do. -/
def effects (tasks : θ → List Task) : Effects where
  value o section_ := ∃ t, ∃ task ∈ tasks t, task.value o section_
  flag flag section_ := ∃ t, ∃ task ∈ tasks t, task.flag flag section_

/-- The threads run their calls, by turns in any order. -/
def Interleaved (tasks : θ → List Task) (w : World) (s : Program.Shared θ Guard Cell Unit) :
    Prop :=
  Program.Runs (Program.start w.cells fun t => taskProgram (tasks t)) s

theorem cells_always (E : Effects) (w : World) (g : Guard) : E.always w g (w.cells g) := by
  rcases g with (_ | _ | _ | _ | _) | d
  · exact .inl rfl
  · exact ⟨_, [], .nil _ _ _, List.prefix_rfl⟩
  · exact .inl OneByOne.nil
  · exact .inl rfl
  · exact .inl OneByOne.nil
  · exact List.forall_mem_nil _

theorem cells_between (E : Effects) (w : World) (g : Guard) : E.between w g (w.cells g) := by
  rcases g with (_ | _ | _ | _ | _) | d
  · exact .nil _ _ _
  · exact .nil _ _ _
  · exact OneByOne.nil
  · exact .nil _ _ _
  · exact OneByOne.nil
  · trivial

theorem Interleaved.kept (h : Interleaved tasks w s) :
    Program.Kept ((effects tasks).discipline w) (fun _ held _ => held = .nothing Cell) s := by
  apply Program.Kept.run _ h
  apply Program.Kept.start (cells_always _ w) (cells_between _ w)
  intro t
  apply Program.wp_each
  intro p hp
  obtain ⟨task, ht, rfl⟩ := List.mem_map.1 hp
  exact task.wp_perform (fun o s h => ⟨t, task, ht, h⟩) fun f s h => ⟨t, task, ht, h⟩

/-- Whenever nobody has the mutex of a value, the value and all that has been done with it are
as if every store, every store with its announcement and every read had been done in one go,
one after the other. -/
theorem values_atomic (h : Interleaved tasks w s) :
    (s.owner (.mutex .valueMutex) = none →
      let b : List UInt8 × List ValueEvent := s.cells (.mutex .valueMutex)
      valueObject.Replays (fun _ => (effects tasks).value .characteristic)
        w.characteristic.value b.1 b.2) ∧
    ∀ d, s.owner (.mutex (.descriptorValueMutex d)) = none →
      let b : List UInt8 × List ValueEvent := s.cells (.mutex (.descriptorValueMutex d))
      valueObject.Replays (fun _ => (effects tasks).value (.descriptor d))
        (w.descriptors d).value b.1 b.2 :=
  ⟨h.kept.between (.mutex .valueMutex), fun d => h.kept.between (.mutex (.descriptorValueMutex d))⟩

def twoSetters : Bool → List Task := fun t =>
  [⟨.setValue [if t then 1 else 2], .quiet, .constructed 0⟩]

theorem values_atomic_stored :
    ∃ s, Interleaved twoSetters (.constructed 0) s ∧
      valueObject.Replays (fun _ => (effects twoSetters).value .characteristic) []
        (Prod.fst (s.cells (.mutex .valueMutex))) [.stored [1], .stored [2]] := by
  have hrun : Interleaved twoSetters (.constructed 0) _ :=
    .tail (.tail (.tail (.tail (.tail (.tail .refl ⟨true, .acquire rfl rfl⟩) ⟨true, .access rfl⟩)
      ⟨true, .release rfl⟩) ⟨false, .acquire rfl rfl⟩) ⟨false, .access rfl⟩)
        ⟨false, .release rfl⟩
  exact ⟨_, hrun, (values_atomic hrun).1 rfl⟩

def NotifyEvent.announced? : NotifyEvent → Option Bool
  | .announced notifying => some notifying
  | .changed _ => none

/-- The values of the flag that the connection has been asked to announce. -/
def flagSignals (events : List NotifyEvent) : List Bool := events.filterMap NotifyEvent.announced?

theorem flagSignals_said (flag : Bool) (sections : List FlagSection) :
    flagSignals (flagObject.said (fun s i => (flagObject.step s i).1) flag sections) =
      flagObject.said (fun s i => flagSignals (flagObject.step s i).1) flag sections := by
  induction sections generalizing flag with
  | nil => rfl
  | cons i sections ih =>
    rw [Machine.said, Machine.said, ← ih, flagSignals, List.filterMap_append]
    rfl

omit [DecidableEq θ] in
theorem flag_section_signals
    (hr : ∀ t, ∀ task ∈ tasks t, task.world.characteristic.registered = true)
    (h : (effects tasks).flag flag section_) :
    flagSignals (flagObject.step flag section_).1 =
      if flagObject.next flag section_ = flag then [] else [flagObject.next flag section_] := by
  obtain ⟨t, task, ht, wanted, _, rfl, _, hs⟩ := h
  cases section_ with
  | changed b =>
    have hn := hs.2
    rw [hr t task ht] at hn
    cases hn
  | announced b =>
    obtain ⟨rfl, _⟩ := hs
    cases b <;> rfl
  | retracted b =>
    obtain ⟨rfl, _⟩ := hs
    cases b <;> rfl

/-- On an object that stays registered, the announcements that are asked for alternate, whoever
is in the middle of what, and whenever nobody has the mutex of the flag the last one is the flag. -/
theorem flag_signals_alternate
    (hr : ∀ t, ∀ task ∈ tasks t, task.world.characteristic.registered = true)
    (h : Interleaved tasks w s) :
    let b : Bool × List NotifyEvent := s.cells (.mutex .notifyMutex)
    (w.characteristic.notifying :: flagSignals b.2).IsChain (· ≠ ·) ∧
      (s.owner (.mutex .notifyMutex) = none →
        (flagSignals b.2).getLastD w.characteristic.notifying = b.1) := by
  have hreplayed {flag events}
      (hl : flagObject.Replays (effects tasks).flag w.characteristic.notifying flag events) :
      (w.characteristic.notifying :: flagSignals events).IsChain (· ≠ ·) ∧
        (flagSignals events).getLastD w.characteristic.notifying = flag := by
    obtain ⟨sections, hl, rfl, rfl⟩ := hl
    rw [flagSignals_said]
    apply Machine.said_changes (v := id)
    apply Machine.every_imp (I := fun _ => True) trivial _ hl
    exact fun flag section_ _ hs => ⟨flag_section_signals hr hs, trivial⟩
  obtain ⟨flag, all, hl, hp⟩ := h.kept.always (.mutex .notifyMutex)
  constructor
  · obtain ⟨later, hlater⟩ : flagSignals _ <+: flagSignals all :=
      hp.filterMap NotifyEvent.announced?
    have hchain := (hreplayed hl).1
    rw [← hlater, ← List.cons_append] at hchain
    exact hchain.left_of_append
  · exact fun hf => (hreplayed (h.kept.between (.mutex .notifyMutex) hf)).2

def oneSubscriber : Unit → List Task := fun _ =>
  [⟨.startNotify, .quiet, (World.constructed 0x10).setUp⟩]

theorem flag_signals_alternate_started :
    ∃ s, Interleaved oneSubscriber (World.constructed 0x10).setUp s ∧
      (flagSignals (Prod.snd (s.cells (.mutex .notifyMutex)))).getLastD false =
        Prod.fst (s.cells (.mutex .notifyMutex)) ∧
      Prod.fst (s.cells (.mutex .notifyMutex)) = true := by
  have hrun : Interleaved oneSubscriber (World.constructed 0x10).setUp _ :=
    .tail (.tail (.tail (.tail (.tail (.tail (.tail .refl ⟨(), .acquire rfl rfl⟩)
      ⟨(), .access rfl⟩) ⟨(), .access rfl⟩) ⟨(), .access rfl⟩) ⟨(), .acquire rfl rfl⟩)
        ⟨(), .release rfl⟩) ⟨(), .release rfl⟩
  have hr : ∀ t, ∀ task ∈ oneSubscriber t, task.world.characteristic.registered = true := by
    intro t task ht
    rw [List.mem_singleton.1 ht]
    rfl
  exact ⟨_, hrun, (flag_signals_alternate hr hrun).2 rfl, rfl⟩

end Runs
end Ggk
