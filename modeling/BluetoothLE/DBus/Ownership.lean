import BluetoothLE.DBus.Object
import BluetoothLE.Lib.Machine

namespace Ggk
open Lib
set_option autoImplicit true

/-- A connection and the objects that have been constructed on it. A destroyed one leaves a
gap, so that no object gets the number of an earlier one. -/
structure Lifecycle (κ : Type u) (η : Type v) where
  connection : DBusConnection (Nat × HandlerData κ) η
  objects : List (Option (DBusObject κ))

inductive LifecycleStep (κ : Type u)
  | connect (accepted : Bool)
  | disconnect
  | construct (path : DBusObjectPath)
  | addInterface (i : Nat) (interface : String) (properties : List (DBusProperty κ))
  | addMethod (i : Nat) (interface method : String) (handler : κ)
  | registerObject (i : Nat) (refuses : List Bool)
  | unregisterObject (i : Nat)
  | destroy (i : Nat)

namespace Lifecycle

def start (κ : Type u) (η : Type v) : Lifecycle κ η := ⟨.constructed _ _, []⟩

def object (s : Lifecycle κ η) (i : Nat) : Option (DBusObject κ) := s.objects[i]?.join

def put (s : Lifecycle κ η) (i : Nat) (o : Option (DBusObject κ)) : Lifecycle κ η :=
  { s with objects := s.objects.set i o }

def withObject (s : Lifecycle κ η) (i : Nat) (f : DBusObject κ → Bool × Lifecycle κ η) :
    Bool × Lifecycle κ η :=
  match s.object i with
  | none => (false, s)
  | some o => f o

def perform (parse : String → Option (List String)) (s : Lifecycle κ η) :
    LifecycleStep κ → Bool × Lifecycle κ η
  | .connect accepted =>
    let connected := s.connection.connect accepted
    (connected.1, { s with connection := connected.2 })
  | .disconnect =>
    let disconnected := s.connection.disconnect
    (disconnected.1, { s with connection := disconnected.2 })
  | .construct path => (true, { s with objects := s.objects ++ [some (.constructed path)] })
  | .addInterface i interface properties => s.withObject i fun o =>
    let added := o.addInterface interface properties
    (added.1, s.put i (some added.2))
  | .addMethod i interface method handler => s.withObject i fun o =>
    let added := o.addMethod interface method handler
    (added.1, s.put i (some added.2))
  | .registerObject i refuses => s.withObject i fun o =>
    let (result, o, connection) := o.registerObject parse refuses i s.connection
    (result, { s.put i (some o) with connection })
  | .unregisterObject i => s.withObject i fun o =>
    let (result, o, connection) := o.unregisterObject s.connection
    (result, { s.put i (some o) with connection })
  | .destroy i => s.withObject i fun o =>
    let (result, _, connection) := o.unregisterObject s.connection
    (result, { s.put i none with connection })

def lifecycle (parse : String → Option (List String)) :
    Machine (Lifecycle κ η) (LifecycleStep κ) Bool where
  step s step := s.perform parse step

/-- The `i`th object has a live registration at the path that it made itself. -/
def Exports (s : Lifecycle κ η) (i : Nat) (path : DBusObjectPath) : Prop :=
  s.connection.connection = .opened ∧
    ∃ e ∈ s.connection.exports.entries, e.2.path = path ∧ e.2.data.1 = i

def Owned (s : Lifecycle κ η) : Prop :=
  ∀ i o, s.object i = some o → o.registered = true → s.Exports i o.path

/-- An object that reports success is exported, and one that unregisters or goes away takes no
registration of another with it. -/
def Respects (parse : String → Option (List String)) (s : Lifecycle κ η)
    (step : LifecycleStep κ) : Prop :=
  let performed := s.perform parse step
  match step with
  | .registerObject i _ => performed.1 = true →
    ∃ o, performed.2.object i = some o ∧ performed.2.Exports i o.path
  | .unregisterObject i | .destroy i => ∀ e ∈ s.connection.exports.entries, e.2.data.1 ≠ i →
    e ∈ performed.2.connection.exports.entries
  | _ => True

def Correct (parse : String → Option (List String)) (s : Lifecycle κ η)
    (step : LifecycleStep κ) : Prop :=
  (s.perform parse step).2.Owned ∧ s.Respects parse step

/-- A disconnect finds no object that counts itself as registered. -/
def DisconnectsIdle (s : Lifecycle κ η) : LifecycleStep κ → Prop
  | .disconnect => ∀ i o, s.object i = some o → o.registered = false
  | _ => True

/-- The invariant: the connection's map leads from the path of a registered object to an
export that this object made. -/
def Held (s : Lifecycle κ η) : Prop :=
  ∀ i o, s.object i = some o → o.registered = true → s.connection.connection = .opened ∧
    ∃ id interface data, s.connection.registeredObjects[o.path.toString]? = some id ∧
      (id, ⟨o.path, interface, i, data⟩) ∈ s.connection.exports.entries

section Objects
variable {s : Lifecycle κ η}

theorem object_put (hi : s.object i = some o) (v : Option (DBusObject κ)) (j : Nat) :
    (s.put i v).object j = if i = j then v else s.object j := by
  have hlt : i < s.objects.length := by
    apply Nat.lt_of_not_le
    intro hle
    rw [object, List.getElem?_eq_none hle] at hi
    cases hi
  rw [object, put, List.getElem?_set]
  split
  · simp
  · rfl

theorem object_construct (path : DBusObjectPath) (hj : (⟨s.connection, s.objects ++
    [some (.constructed path)]⟩ : Lifecycle κ η).object j = some o) :
    s.object j = some o ∨ o = .constructed path := by
  rw [object, List.getElem?_append] at hj
  split at hj
  · exact .inl hj
  · cases hk : j - s.objects.length with
    | zero =>
      rw [hk] at hj
      exact .inr (Option.some.inj hj).symm
    | succ k =>
      rw [hk] at hj
      exact absurd hj (by simp)

end Objects

section Steps
variable {s : Lifecycle κ η}

theorem Held.owned (h : Held s) : Owned s := by
  intro i o ho hr
  obtain ⟨hc, id, interface, data, _, he⟩ := h i o ho hr
  exact ⟨hc, _, he, rfl, rfl⟩

theorem Held.put (h : Held s) (hi : s.object i = some o)
    (hv : ∀ o', v = some o' → o'.registered = true → o'.path = o.path ∧ o.registered = true) :
    Held (s.put i v) := by
  intro j o' hj hr
  rw [object_put hi] at hj
  split at hj
  · rename_i hij
    subst hij
    obtain ⟨hp, hro⟩ := hv o' hj hr
    rw [hp]
    exact h i o hi hro
  · exact h j o' hj hr

theorem Held.put_self (h : Held s) (hi : s.object i = some o) : Held (s.put i (some o)) := by
  apply h.put hi
  intro o' ho' hr
  cases ho'
  exact ⟨rfl, hr⟩

theorem Held.registerObject (h : Held s) (parse : String → Option (List String))
    (refuses : List Bool) (hi : s.object i = some o) :
    let registered := o.registerObject parse refuses i s.connection
    let s' : Lifecycle κ η :=
      { s.put i (some registered.2.1) with connection := registered.2.2 }
    Held s' ∧ (registered.1 = true → s'.Exports i registered.2.1.path) := by
  cases hr : o.registered with
  | true =>
    have heq : o.registerObject parse refuses i s.connection = (true, o, s.connection) := by
      rw [DBusObject.registerObject, hr, if_pos rfl]
    simp only [heq]
    apply And.intro _ fun _ => h.owned i o hi hr
    exact h.put_self hi
  | false =>
    obtain ⟨exports, hkeep, heq | ⟨id, interface, hc, hn, _, hid, heq⟩⟩ :=
      DBusObject.registerObject_cases parse refuses i hr s.connection
    · simp only [heq]
      apply And.intro _ fun ht => absurd ht Bool.false_ne_true
      intro j o' hj hr'
      obtain ⟨hc, id, interface, data, hid, he⟩ := h.put_self hi j o' hj hr'
      exact ⟨hc, id, interface, data, hid, hkeep _ he⟩
    · simp only [heq]
      apply And.intro _ fun _ => ⟨hc, _, hid, rfl, rfl⟩
      intro j o' hj hr'
      apply And.intro hc
      change (s.put i _).object j = some o' at hj
      rw [object_put hi] at hj
      split at hj
      · rename_i hij
        subst hij
        cases hj
        exact ⟨id, interface, _, Std.TreeMap.getElem?_insert_self, hid⟩
      · obtain ⟨_, id', interface', data, hid', he⟩ := h j o' hj hr'
        have hne : o.path.toString ≠ o'.path.toString := by
          intro hp
          rw [hp, hid'] at hn
          cases hn
        have hget : (s.connection.registeredObjects.insert o.path.toString id)[o'.path.toString]? =
            some id' := by
          rw [Std.TreeMap.getElem?_insert, if_neg (by simpa using hne)]
          exact hid'
        exact ⟨id', interface', data, hget, hkeep _ he⟩

theorem Held.unregisterObject (h : Held s) (hi : s.object i = some o)
    (hv : ∀ o', v = some o' → o' = (o.unregisterObject s.connection).2.1) :
    let unregistered := o.unregisterObject s.connection
    Held { s.put i v with connection := unregistered.2.2 } ∧
      ∀ e ∈ s.connection.exports.entries, e.2.data.1 ≠ i →
        e ∈ unregistered.2.2.exports.entries := by
  cases hr : o.registered with
  | false =>
    have heq : o.unregisterObject s.connection = (true, o, s.connection) := by
      simp [DBusObject.unregisterObject, hr]
    simp only [heq]
    apply And.intro _ fun e he _ => he
    apply h.put hi
    intro o' ho' hr'
    rw [hv o' ho', heq] at hr'
    exact absurd (hr.symm.trans hr') Bool.false_ne_true
  | true =>
    obtain ⟨hc, id, interface, data, hid, he⟩ := h i o hi hr
    have heq := DBusObject.unregisterObject_registered hr hc hid
      (IdTable.contains_iff.2 ⟨_, he⟩)
    simp only [heq]
    apply And.intro
    · intro j o' hj hr'
      change (s.put i v).object j = some o' at hj
      rw [object_put hi] at hj
      split at hj
      · rw [hv o' hj, heq] at hr'
        exact absurd hr' Bool.false_ne_true
      · rename_i hij
        obtain ⟨_, id', interface', data', hid', he'⟩ := h j o' hj hr'
        have hne : id' ≠ id := by
          intro heq'
          subst heq'
          exact hij (congrArg (fun e => e.data.1) (IdTable.entry_unique he he'))
        have hpath : o.path.toString ≠ o'.path.toString := by
          intro hp
          rw [hp, hid'] at hid
          exact hne (Option.some.inj hid)
        have hget : (s.connection.registeredObjects.erase o.path.toString)[o'.path.toString]? =
            some id' := by
          rw [Std.TreeMap.getElem?_erase, if_neg (by simpa using hpath)]
          exact hid'
        exact ⟨hc, id', interface', data', hget, IdTable.mem_erase.2 ⟨he', hne⟩⟩
    · intro e hm hne
      apply IdTable.mem_erase.2
      apply And.intro hm
      intro hid'
      obtain ⟨i', e⟩ := e
      simp only at hid'
      subst hid'
      apply hne
      rw [IdTable.entry_unique hm he]

theorem withObject_none {f : DBusObject κ → Bool × Lifecycle κ η} (hi : s.object i = none) :
    s.withObject i f = (false, s) := by
  rw [withObject, hi]

theorem withObject_some {f : DBusObject κ → Bool × Lifecycle κ η} (hi : s.object i = some o) :
    s.withObject i f = f o := by
  rw [withObject, hi]

/-- Filling the tables changes neither the path of an object nor whether it is registered. -/
theorem Held.retabled (h : Held s) (i : Nat) (f : DBusObject κ → Bool × DBusObject κ)
    (hf : ∀ o, (f o).2.path = o.path ∧ (f o).2.registered = o.registered) :
    Held (s.withObject i fun o => ((f o).1, s.put i (some (f o).2))).2 := by
  cases hi : s.object i with
  | none =>
    rw [withObject_none hi]
    exact h
  | some o =>
    rw [withObject_some hi]
    apply h.put hi
    intro o' ho' hr
    cases ho'
    exact ⟨(hf o).1, (hf o).2.symm.trans hr⟩

/-- An object that unregisters stays, with `v`, or goes away. -/
theorem Held.leaving (h : Held s) (i : Nat) (v : DBusObject κ → Option (DBusObject κ))
    (hv : ∀ o o', v o = some o' → o' = (o.unregisterObject s.connection).2.1) :
    let left := s.withObject i fun o => ((o.unregisterObject s.connection).1,
      { s.put i (v o) with connection := (o.unregisterObject s.connection).2.2 })
    Held left.2 ∧ ∀ e ∈ s.connection.exports.entries, e.2.data.1 ≠ i →
      e ∈ left.2.connection.exports.entries := by
  cases hi : s.object i with
  | none =>
    rw [withObject_none hi]
    exact ⟨h, fun e he _ => he⟩
  | some o =>
    rw [withObject_some hi]
    exact h.unregisterObject hi (hv o)

theorem Held.step (h : Held s) (parse : String → Option (List String)) (step : LifecycleStep κ)
    (hd : DisconnectsIdle s step) : Held (s.perform parse step).2 ∧ s.Respects parse step := by
  cases step with
  | connect accepted =>
    apply And.intro _ trivial
    intro i o hi hr
    obtain ⟨hc, id, interface, data, hid, he⟩ := h i o hi hr
    simp only [perform, DBusConnection.connect, DBusConnection.isConnected_iff.2 hc, if_true]
    exact ⟨hc, id, interface, data, hid, he⟩
  | disconnect =>
    apply And.intro _ trivial
    intro i o hi hr
    exact absurd (hr.symm.trans (hd i o hi)) Bool.true_eq_false.mp
  | construct path =>
    apply And.intro _ trivial
    intro i o hi hr
    rcases object_construct path hi with hi | rfl
    · exact h i o hi hr
    · exact absurd hr Bool.false_ne_true
  | addInterface i interface properties =>
    apply And.intro _ trivial
    exact h.retabled i _ fun o => DBusObject.addInterface_same (o := o) interface properties
  | addMethod i interface method handler =>
    apply And.intro _ trivial
    exact h.retabled i _ fun o => DBusObject.addMethod_same (o := o) interface method handler
  | registerObject i refuses =>
    cases hi : s.object i with
    | none =>
      apply And.intro (by simpa only [perform, withObject_none hi] using h)
      intro ht
      simp only [perform, withObject_none hi] at ht
      exact absurd ht Bool.false_ne_true
    | some o =>
      obtain ⟨hs, hx⟩ := h.registerObject parse refuses hi
      apply And.intro (by simpa only [perform, withObject_some hi] using hs)
      intro ht
      simp only [perform, withObject_some hi] at ht ⊢
      exact ⟨_, (object_put hi _ i).trans (if_pos rfl), hx ht⟩
  | unregisterObject i =>
    exact h.leaving i (fun o => some (o.unregisterObject s.connection).2.1)
      fun o o' ho' => (Option.some.inj ho').symm
  | destroy i => exact h.leaving i (fun _ => none) fun o o' ho' => by cases ho'

theorem start_held : Held (start κ η) := by
  intro i o hi
  simp [object, start] at hi

theorem disconnectsIdle_of_correct (hc : Correct parse s step) : DisconnectsIdle s step := by
  cases step with
  | disconnect =>
    intro i o hi
    apply Bool.eq_false_iff.2
    intro hr
    obtain ⟨hopen, _⟩ := hc.1 i o hi hr
    simp [perform, DBusConnection.disconnect] at hopen
  | _ => trivial

end Steps

/-- In a run of any steps, flags and registrations agree exactly if no disconnect finds an
object that counts itself as registered. -/
theorem registrations_owned_iff (parse : String → Option (List String))
    (steps : List (LifecycleStep κ)) :
    (lifecycle parse).Every (Correct parse) (start κ η) steps ↔
      (lifecycle parse).Every DisconnectsIdle (start κ η) steps :=
  Machine.every_iff start_held
    (fun _ step h => ⟨disconnectsIdle_of_correct, fun hd =>
      ⟨(h.step parse step hd).1.owned, (h.step parse step hd).2⟩⟩)
    fun _ step h hd => (h.step parse step hd).1

/-- The flag of an object survives a disconnect. On the next connection the object then ends
the registration that another has made at its path. -/
theorem stale_flag_ends_other :
    let parse : String → Option (List String) := fun _ => some ["com.example.Test"]
    let steps : List (LifecycleStep Unit) :=
      [.construct ⟨"/com/example"⟩, .addInterface 0 "com.example.Test" [],
        .construct ⟨"/com/example"⟩, .addInterface 1 "com.example.Test" [], .connect true,
        .registerObject 0 [], .disconnect, .connect true, .registerObject 1 []]
    ¬ (lifecycle parse).Every (Correct parse) (start Unit Unit) (steps ++ [.unregisterObject 0]) ∧
      ((lifecycle parse).run (start Unit Unit) steps).connection.exports.contains 2 = true ∧
      ((lifecycle parse).run (start Unit Unit)
        (steps ++ [.unregisterObject 0])).connection.exports.contains 2 = false := by
  apply And.intro _ ⟨by decide, by decide⟩
  intro h
  obtain ⟨_, _, _, _, _, _, ⟨ho, _⟩, _⟩ := h
  exact absurd (ho 0 _ rfl rfl).1 (by decide)

end Lifecycle
end Ggk
