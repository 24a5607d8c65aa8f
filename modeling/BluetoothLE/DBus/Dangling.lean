import BluetoothLE.DBus.Lifetime
import BluetoothLE.DBus.Ownership

namespace Ggk
open Lib
set_option autoImplicit true

theorem mem_values {t : Std.TreeMap String Nat} {k : String} (h : t[k]? = some v) :
    v ∈ t.values := by
  have hvalues : t.values = t.toList.map Prod.snd := by
    change Std.DTreeMap.Internal.Impl.values t.inner.inner =
      (Std.DTreeMap.Internal.Impl.Const.toList t.inner.inner).map Prod.snd
    rw [Std.DTreeMap.Internal.Impl.values_eq_map_snd,
      Std.DTreeMap.Internal.Impl.Const.toList_eq_toListModel_map, List.map_map]
    rfl
  rw [hvalues]
  exact List.mem_map_of_mem (Std.TreeMap.mem_toList_iff_getElem?_eq_some.2 h)

/-- A step of the program, or the bus closes the connection. -/
inductive BusStep (κ : Type u)
  | program (step : LifecycleStep κ)
  | remoteClose

namespace Lifecycle

def bus (parse : String → Option (List String)) : Machine (Lifecycle κ η) (BusStep κ) Bool where
  step s
    | .program step => s.perform parse step
    | .remoteClose => (true, { s with connection := s.connection.remoteClose })

/-- Whatever call can arrive is dispatched to an object that has not been destroyed. -/
def Dispatches (s : Lifecycle κ η) : Prop :=
  s.connection.connection = .opened →
    ∀ e ∈ s.connection.exports.entries, s.object e.2.data.1 ≠ none

/-- A document that is accepted has at most one interface. -/
def OneInterface (parse : String → Option (List String)) (xml : String) : Prop :=
  ∀ interfaces, parse xml = some interfaces → interfaces.length ≤ 1

/-- If a step registers an object, the document that the object generates is in `D`. -/
def RegistersIn (D : String → Prop) (s : Lifecycle κ η) : BusStep κ → Prop
  | .program (.registerObject i _) =>
    ∀ o, s.object i = some o → o.registered = false → D o.generateIntrospectionXml
  | _ => True

/-- The objects that a program can come to have, as long as they are not registered. -/
inductive Built : DBusObject κ → Prop
  | constructed (path : DBusObjectPath) : Built (.constructed path)
  | addInterface {o : DBusObject κ} (h : Built o) (interface : String)
    (properties : List (DBusProperty κ)) : Built (o.addInterface interface properties).2
  | addMethod {o : DBusObject κ} (h : Built o) (interface method : String) (handler : κ) :
    Built (o.addMethod interface method handler).2

/-- The invariant: the connection has recorded every export, and what is exported on a
connection that is open belongs to an object that counts itself as registered there. -/
structure Alive (s : Lifecycle κ η) : Prop where
  stored : ∀ e ∈ s.connection.exports.entries,
    s.connection.registeredObjects[e.2.path.toString]? = some e.1
  owner : s.connection.connection = .opened → ∀ e ∈ s.connection.exports.entries,
    ∃ o, s.object e.2.data.1 = some o ∧ o.registered = true ∧ o.path = e.2.path

section Steps
variable {s : Lifecycle κ η} {parse : String → Option (List String)}

theorem Alive.dispatches (h : Alive s) : Dispatches s := by
  intro hc e he hn
  obtain ⟨o, ho, _⟩ := h.owner hc e he
  rw [hn] at ho
  cases ho

theorem Alive.connect (h : Alive s) (accepted : Bool) :
    Alive { s with connection := (s.connection.connect accepted).2 } := by
  rw [DBusConnection.connect]
  cases hc : s.connection.isConnected with
  | true => exact h
  | false =>
    cases accepted with
    | false => exact h
    | true => exact ⟨List.forall_mem_nil _, fun _ => List.forall_mem_nil _⟩

theorem Alive.disconnect (h : Alive s) :
    Alive { s with connection := s.connection.disconnect.2 } := by
  have hgone : s.connection.disconnect.2.exports.entries = [] := by
    apply List.eq_nil_iff_forall_not_mem.2
    intro e he
    obtain ⟨he, hid⟩ := IdTable.mem_foldl_erase.1 he
    exact hid (mem_values (h.stored e he))
  constructor
  · simp only [hgone]
    exact List.forall_mem_nil _
  · simp only [hgone]
    exact fun _ => List.forall_mem_nil _

theorem Alive.remoteClose (h : Alive s) :
    Alive { s with connection := s.connection.remoteClose } where
  stored := h.stored
  owner hc := by
    cases hi : s.connection.isConnected with
    | true => simp [DBusConnection.remoteClose, hi] at hc
    | false =>
      have hopen : s.connection.connection = .opened := by
        simpa [DBusConnection.remoteClose, hi] using hc
      rw [DBusConnection.isConnected_iff.2 hopen] at hi
      cases hi

/-- An object that stays what it is, or that was not registered. -/
theorem Alive.put (h : Alive s) (hi : s.object i = some o)
    (hv : o.registered = true → ∃ o', v = some o' ∧ o'.registered = true ∧ o'.path = o.path) :
    Alive (s.put i v) where
  stored := h.stored
  owner hc e he := by
    obtain ⟨o₁, ho, hr, hp⟩ := h.owner hc e he
    rw [object_put hi]
    split
    · rename_i hie
      rw [← hie, hi] at ho
      cases ho
      obtain ⟨o', rfl, hr', hp'⟩ := hv hr
      exact ⟨o', rfl, hr', hp'.trans hp⟩
    · exact ⟨o₁, ho, hr, hp⟩

theorem Alive.free {path : DBusObjectPath} (h : Alive s)
    (hn : s.connection.registeredObjects[path.toString]? = none) :
    ∀ e ∈ s.connection.exports.entries, e.2.path.toString ≠ path.toString := by
  intro e he hp
  have hs := h.stored e he
  rw [hp, hn] at hs
  cases hs

/-- A registration of one interface at most exports it or changes nothing. -/
theorem registerObject_atMostOne (c : DBusConnection δ η) (refuses : List Bool)
    (path : DBusObjectPath) (data : δ)
    (hx : ∀ interfaces, parse xml = some interfaces → interfaces.length ≤ 1)
    (hfree : c.registeredObjects[path.toString]? = none →
      ∀ e ∈ c.exports.entries, e.2.path ≠ path) :
    c.registerObject parse refuses path xml data = (false, c) ∨
      c.connection = .opened ∧ c.registeredObjects[path.toString]? = none ∧
        ∃ interface, c.registerObject parse refuses path xml data = (true, { c with
          exports := c.exports.insert ⟨path, interface, data⟩
          registeredObjects :=
            c.registeredObjects.insert path.toString (c.exports.last + 1) }) := by
  cases hc : c.isConnected with
  | false => exact .inl (by simp [DBusConnection.registerObject, hc])
  | true =>
    have hopen := DBusConnection.isConnected_iff.1 hc
    cases hr : c.registeredObjects[path.toString]? with
    | some id =>
      have ht : c.registeredObjects.contains path.toString = true := by
        rw [Std.TreeMap.contains_eq_isSome_getElem?, hr]
        rfl
      exact .inl (by simp [DBusConnection.registerObject, hc, ht])
    | none =>
      cases hp : parse xml with
      | none => exact .inl (by simp [DBusConnection.registerObject, hp])
      | some interfaces =>
        rcases interfaces with _ | ⟨interface, _ | ⟨second, rest⟩⟩
        · exact .inl ((DBusConnection.registerObject_free refuses data hopen hr hp).trans
            (if_pos rfl))
        · have hsingle :=
            DBusConnection.registerObject_single refuses data hopen hr (hfree hr) hp
          cases h : refuses.headD false with
          | true => exact .inl (hsingle.trans (if_pos h))
          | false =>
            exact .inr ⟨hopen, rfl, interface, hsingle.trans (if_neg (Bool.eq_false_iff.1 h))⟩
        · have hlen := hx _ hp
          simp at hlen

/-- The object that has been registered, with its export. -/
theorem Alive.exported (h : Alive s) (hi : s.object i = some o) (hr : o.registered = false)
    (hn : s.connection.registeredObjects[o.path.toString]? = none)
    (data : HandlerData κ) :
    Alive { s.put i (some { o with registered := true }) with
      connection := { s.connection with
        exports := s.connection.exports.insert ⟨o.path, interface, i, data⟩
        registeredObjects := s.connection.registeredObjects.insert o.path.toString
          (s.connection.exports.last + 1) } } where
  stored := by
    intro e he
    rcases List.mem_cons.1 he with rfl | he
    · exact Std.TreeMap.getElem?_insert_self
    · change (s.connection.registeredObjects.insert _ _)[_]? = _
      rw [Std.TreeMap.getElem?_insert, if_neg (by simpa using (h.free hn e he).symm)]
      exact h.stored e he
  owner := by
    intro hc e he
    change ∃ o', (s.put i _).object e.2.data.1 = some o' ∧ _
    rw [object_put hi]
    rcases List.mem_cons.1 he with rfl | he
    · exact ⟨_, if_pos rfl, rfl, rfl⟩
    · obtain ⟨o₁, ho, hr₁, hp⟩ := h.owner hc e he
      have hne : i ≠ e.2.data.1 := by
        intro hie
        rw [← hie, hi] at ho
        cases ho
        exact Bool.false_ne_true (hr.symm.trans hr₁)
      exact ⟨o₁, (if_neg hne).trans ho, hr₁, hp⟩

theorem Alive.registerObject (h : Alive s) (refuses : List Bool) (hi : s.object i = some o)
    (hx : o.registered = false → OneInterface parse o.generateIntrospectionXml) :
    let registered := o.registerObject parse refuses i s.connection
    Alive { s.put i (some registered.2.1) with connection := registered.2.2 } := by
  intro registered
  have hsame (heq : registered.2 = (o, s.connection)) :
      Alive { s.put i (some registered.2.1) with connection := registered.2.2 } := by
    rw [heq]
    exact h.put hi fun hr => ⟨o, rfl, hr, rfl⟩
  cases hr : o.registered with
  | true => exact hsame (by simp [registered, DBusObject.registerObject, hr])
  | false =>
    have hflag : { o with registered := false } = o := by
      cases o
      cases hr
      rfl
    cases hc : s.connection.isConnected with
    | false => exact hsame (by simp [registered, DBusObject.registerObject, hr, hc])
    | true =>
      have hfree hn e (he : e ∈ s.connection.exports.entries) (hp : e.2.path = o.path) : False :=
        h.free hn e he (congrArg _ hp)
      rcases registerObject_atMostOne s.connection refuses o.path
          (i, (⟨o.methodHandlers, o.interfaces⟩ : HandlerData κ)) (hx hr) hfree with
        hfail | ⟨_, hn, interface, hdone⟩
      · exact hsame (by simp [registered, DBusObject.registerObject, hr, hc, hfail, hflag])
      · have heq : registered =
            (let performed := DBusConnection.registerObject parse refuses o.path
              o.generateIntrospectionXml (i, ⟨o.methodHandlers, o.interfaces⟩) s.connection
            (performed.1, { o with registered := performed.1 }, performed.2)) := by
          simp [registered, DBusObject.registerObject, hr, hc]
        rw [heq, hdone]
        exact h.exported hi hr hn _

/-- Whatever becomes of an object that has no exports any more. -/
theorem Alive.leave {c : DBusConnection (Nat × HandlerData κ) η} (h : Alive s)
    (hi : s.object i = some o) (hc : c.connection = s.connection.connection)
    (hsub : ∀ e ∈ c.exports.entries, e ∈ s.connection.exports.entries)
    (hstored : ∀ e ∈ c.exports.entries, c.registeredObjects[e.2.path.toString]? = some e.1)
    (hne : c.connection = .opened → ∀ e ∈ c.exports.entries, e.2.data.1 ≠ i)
    (v : Option (DBusObject κ)) : Alive { s.put i v with connection := c } where
  stored := hstored
  owner hopen e he := by
    obtain ⟨o₁, ho, hr, hp⟩ := h.owner (hc ▸ hopen) e (hsub e he)
    change ∃ o', (s.put i v).object e.2.data.1 = some o' ∧ _
    rw [object_put hi, if_neg (hne hopen e he).symm]
    exact ⟨o₁, ho, hr, hp⟩

theorem Alive.unregisterObject (h : Alive s) (hi : s.object i = some o)
    (v : Option (DBusObject κ)) :
    Alive { s.put i v with connection := (o.unregisterObject s.connection).2.2 } := by
  have hmine (hopen : s.connection.connection = .opened) e
      (he : e ∈ s.connection.exports.entries) (hie : e.2.data.1 = i) :
      o.registered = true ∧ s.connection.registeredObjects[o.path.toString]? = some e.1 := by
    obtain ⟨o₁, ho, hr, hp⟩ := h.owner hopen e he
    rw [hie, hi] at ho
    cases ho
    exact ⟨hr, hp ▸ h.stored e he⟩
  cases hr : o.registered with
  | false =>
    have heq : (o.unregisterObject s.connection).2.2 = s.connection := by
      simp [DBusObject.unregisterObject, hr]
    rw [heq]
    apply h.leave hi rfl (fun _ he => he) h.stored
    intro hopen e he hie
    exact Bool.false_ne_true (hr.symm.trans (hmine hopen e he hie).1)
  | true =>
    have heq : (o.unregisterObject s.connection).2.2 =
        (s.connection.unregisterObject o.path).2 := by
      simp [DBusObject.unregisterObject, hr]
    rw [heq]
    rcases s.connection.unregisterObject_cases o.path with hfail | ⟨id, hopen, hid, hdone⟩
    · rw [hfail]
      apply h.leave hi rfl (fun _ he => he) h.stored
      intro hopen e he hie
      have hdone := DBusConnection.unregisterObject_registered hopen (hmine hopen e he hie).2
        (IdTable.contains_iff.2 ⟨e.2, he⟩)
      rw [hfail] at hdone
      cases hdone
    · rw [hdone]
      have hpath e (he : e ∈ (s.connection.exports.erase id).entries) :
          o.path.toString ≠ e.2.path.toString := by
        intro hp
        obtain ⟨he, hne⟩ := IdTable.mem_erase.1 he
        rw [hp, h.stored e he] at hid
        exact hne (Option.some.inj hid)
      apply h.leave hi
      · rfl
      · exact fun e he => (IdTable.mem_erase.1 he).1
      · intro e he
        change (s.connection.registeredObjects.erase o.path.toString)[_]? = _
        rw [Std.TreeMap.getElem?_erase, if_neg (by simpa using hpath e he)]
        exact h.stored e (IdTable.mem_erase.1 he).1
      · intro _ e he hie
        obtain ⟨he, hne⟩ := IdTable.mem_erase.1 he
        have hmine := (hmine hopen e he hie).2
        rw [hid] at hmine
        exact hne (Option.some.inj hmine).symm

theorem Alive.construct (h : Alive s) (path : DBusObjectPath) :
    Alive { s with objects := s.objects ++ [some (.constructed path)] } where
  stored := h.stored
  owner hc e he := by
    obtain ⟨o, ho, hr, hp⟩ := h.owner hc e he
    have hlt : e.2.data.1 < s.objects.length := by
      by_contra hge
      rw [object, List.getElem?_eq_none (Nat.le_of_not_lt hge)] at ho
      cases ho
    apply Exists.intro o
    rw [object, List.getElem?_append_left hlt]
    exact ⟨ho, hr, hp⟩

/-- Filling the tables changes neither the path of an object nor whether it is registered. -/
theorem Alive.retabled (h : Alive s) (i : Nat) (f : DBusObject κ → Bool × DBusObject κ)
    (hf : ∀ o, (f o).2.path = o.path ∧ (f o).2.registered = o.registered) :
    Alive (s.withObject i fun o => ((f o).1, s.put i (some (f o).2))).2 := by
  cases hi : s.object i with
  | none =>
    rw [withObject_none hi]
    exact h
  | some o =>
    rw [withObject_some hi]
    exact h.put hi fun hr => ⟨_, rfl, (hf o).2.trans hr, (hf o).1⟩

theorem Alive.step (h : Alive s) {step : BusStep κ}
    (hx : RegistersIn (OneInterface parse) s step) : Alive ((bus parse).next s step) := by
  cases step with
  | remoteClose => exact h.remoteClose
  | program step =>
    change Alive (s.perform parse step).2
    cases step with
    | connect accepted => exact h.connect accepted
    | disconnect => exact h.disconnect
    | construct path => exact h.construct path
    | addInterface i interface properties =>
      exact h.retabled i _ fun o => DBusObject.addInterface_same (o := o) interface properties
    | addMethod i interface method handler =>
      exact h.retabled i _ fun o => DBusObject.addMethod_same (o := o) interface method handler
    | registerObject i refuses =>
      cases hi : s.object i with
      | none => simpa only [perform, withObject_none hi] using h
      | some o =>
        simp only [perform, withObject_some hi]
        exact h.registerObject refuses hi (hx o hi)
    | unregisterObject i =>
      cases hi : s.object i with
      | none => simpa only [perform, withObject_none hi] using h
      | some o =>
        simp only [perform, withObject_some hi]
        exact h.unregisterObject hi _
    | destroy i =>
      cases hi : s.object i with
      | none => simpa only [perform, withObject_none hi] using h
      | some o =>
        simp only [perform, withObject_some hi]
        exact h.unregisterObject hi _

theorem start_alive : Alive (start κ η) where
  stored := List.forall_mem_nil _
  owner := fun _ => List.forall_mem_nil _

/-- The objects of a state are built, but for the flag that says whether they are registered. -/
def AllBuilt (s : Lifecycle κ η) : Prop :=
  ∀ i o, s.object i = some o → Built { o with registered := false }

theorem Built.unregistered (h : Built o) : o.registered = false := by
  induction h with
  | constructed path => rfl
  | addInterface h interface properties ih => exact (DBusObject.addInterface_same ..).2.trans ih
  | addMethod h interface method handler ih => exact (DBusObject.addMethod_same ..).2.trans ih

theorem Built.self (h : Built o) : Built { o with registered := false } := by
  have heq : { o with registered := false } = o := by rw [← h.unregistered]
  rwa [heq]

theorem AllBuilt.put (h : AllBuilt s) (hi : s.object i = some o)
    (hv : ∀ o', v = some o' → Built { o' with registered := false }) : AllBuilt (s.put i v) := by
  intro j o' hj
  rw [object_put hi] at hj
  split at hj
  · exact hv o' hj
  · exact h j o' hj

theorem AllBuilt.flagged (h : AllBuilt s) (hi : s.object i = some o)
    (hv : { v with registered := false } = { o with registered := false }) :
    AllBuilt (s.put i (some v)) := by
  apply h.put hi
  intro o' ho
  cases ho
  rw [hv]
  exact h i o hi

/-- What fills the tables of an object does so as long as this is not registered. -/
theorem AllBuilt.retabled (h : AllBuilt s) (i : Nat) (f : DBusObject κ → Bool × DBusObject κ)
    (hr : ∀ o, o.registered = true → (f o).2 = o)
    (hf : ∀ o, Built o → Built (f o).2) :
    AllBuilt (s.withObject i fun o => ((f o).1, s.put i (some (f o).2))).2 := by
  cases hi : s.object i with
  | none =>
    rw [withObject_none hi]
    exact h
  | some o =>
    rw [withObject_some hi]
    apply h.put hi
    intro o' ho
    cases ho
    cases hreg : o.registered with
    | true =>
      rw [hr o hreg]
      exact h i o hi
    | false =>
      have heq : { o with registered := false } = o := by rw [← hreg]
      have hbuilt := h i o hi
      rw [heq] at hbuilt
      exact (hf o hbuilt).self

theorem AllBuilt.step (h : AllBuilt s) (step : BusStep κ) :
    AllBuilt ((bus parse).next s step) := by
  cases step with
  | remoteClose => exact h
  | program step =>
    change AllBuilt (s.perform parse step).2
    cases step with
    | connect accepted => exact h
    | disconnect => exact h
    | construct path =>
      intro i o hi
      rw [perform, object, List.getElem?_append] at hi
      split at hi
      · exact h i o hi
      · cases hn : i - s.objects.length with
        | zero =>
          rw [hn] at hi
          cases hi
          exact (Built.constructed path).self
        | succ n =>
          rw [hn] at hi
          cases hi
    | addInterface i interface properties =>
      exact h.retabled i (fun o => o.addInterface interface properties)
        (fun o hr => by simp [DBusObject.addInterface, hr])
        fun o ho => ho.addInterface interface properties
    | addMethod i interface method handler =>
      exact h.retabled i (fun o => o.addMethod interface method handler)
        (fun o hr => by simp [DBusObject.addMethod, hr])
        fun o ho => ho.addMethod interface method handler
    | registerObject i refuses =>
      cases hi : s.object i with
      | none => simpa only [perform, withObject_none hi] using h
      | some o =>
        simp only [perform, withObject_some hi]
        apply h.flagged hi
        rw [DBusObject.registerObject]
        split_ifs <;> rfl
    | unregisterObject i =>
      cases hi : s.object i with
      | none => simpa only [perform, withObject_none hi] using h
      | some o =>
        simp only [perform, withObject_some hi]
        apply h.flagged hi
        rw [DBusObject.unregisterObject]
        split_ifs <;> rfl
    | destroy i =>
      cases hi : s.object i with
      | none => simpa only [perform, withObject_none hi] using h
      | some o =>
        simp only [perform, withObject_some hi]
        apply h.put hi
        intro o' ho
        cases ho

theorem start_allBuilt : AllBuilt (start κ η) := by
  intro i o hi
  cases hi

end Steps

theorem registerInterfaces_snoc {t : IdTable (Export δ)} (path : DBusObjectPath) (data : δ)
    (interfaces : List String) (id₀ : Nat) :
    DBusConnection.registerInterfaces path data (interfaces ++ [interface]) [] id₀ t =
      GDBus.registerObject false ⟨path, interface, data⟩
        (DBusConnection.registerInterfaces path data interfaces [] id₀ t).2 := by
  induction interfaces generalizing id₀ t with
  | nil => rfl
  | cons i interfaces ih => exact ih _

/-- Of two interfaces or more, one is exported under an id that is not kept. -/
theorem registerInterfaces_unkept {t : IdTable (Export δ)} (path : DBusObjectPath) (data : δ)
    (hlen : 2 ≤ interfaces.length) :
    let registered := DBusConnection.registerInterfaces path data interfaces [] 0 t
    ∃ e ∈ registered.2.entries, e.1 ≠ registered.1 := by
  rcases List.eq_nil_or_concat interfaces with rfl | ⟨front, last, rfl⟩
  · simp at hlen
  · rw [List.concat_eq_append] at hlen ⊢
    obtain ⟨first, hfirst⟩ : ∃ first, first ∈ front := by
      apply List.exists_mem_of_length_pos
      rw [List.length_append] at hlen
      exact Nat.lt_of_succ_le (Nat.le_of_succ_le_succ hlen)
    obtain ⟨e, he, _⟩ := GDBus.exported_iff.1
      ((HandlerHeap.registerInterfaces_all (t := t) path data front 0).2 first hfirst)
    have hbound := IdTable.bounded _ e he
    rw [registerInterfaces_snoc, GDBus.registerObject]
    split
    · exact ⟨e, he, hbound.1.ne'⟩
    · exact ⟨e, List.mem_cons_of_mem _ he, (Nat.lt_succ_of_le hbound.2).ne⟩

/-- A new connection, a registration, and the end of the object. -/
def abandons (κ : Type u) (i : Nat) : List (BusStep κ) :=
  [.program .disconnect, .program (.connect true), .program (.registerObject i []),
    .program (.destroy i)]

/-- What is left of a registration after the object has tried to end it. -/
theorem unregisterObject_leaves {o : DBusObject κ} {c : DBusConnection δ η} {id : Nat}
    (hid : o.registered = true → c.registeredObjects[o.path.toString]? = some id)
    (he : e ∈ c.exports.entries) (hne : e.1 ≠ id) :
    e ∈ (o.unregisterObject c).2.2.exports.entries ∧
      (o.unregisterObject c).2.2.connection = c.connection := by
  cases hr : o.registered with
  | false =>
    have heq : (o.unregisterObject c).2.2 = c := by simp [DBusObject.unregisterObject, hr]
    rw [heq]
    exact ⟨he, rfl⟩
  | true =>
    have heq : (o.unregisterObject c).2.2 = (c.unregisterObject o.path).2 := by
      simp [DBusObject.unregisterObject, hr]
    rw [heq]
    rcases c.unregisterObject_cases o.path with hfail | ⟨id', _, hid', hdone⟩
    · rw [hfail]
      exact ⟨he, rfl⟩
    · rw [hdone]
      rw [hid hr] at hid'
      cases hid'
      exact ⟨IdTable.mem_erase.2 ⟨he, hne⟩, rfl⟩

theorem abandons_dangles {s : Lifecycle κ η} (hi : s.object i = some o) (hr : o.registered = false)
    (hp : parse o.generateIntrospectionXml = some interfaces) (hlen : 2 ≤ interfaces.length) :
    ¬ Dispatches ((bus parse).run s (abandons κ i)) := by
  let s₁ : Lifecycle κ η := (bus parse).run s [.program .disconnect, .program (.connect true)]
  have hopen : s₁.connection.connection = .opened := rfl
  have hfree : s₁.connection.registeredObjects[o.path.toString]? = none :=
    Std.TreeMap.getElem?_emptyc
  have hi₁ : s₁.object i = some o := hi
  let data : Nat × HandlerData κ := (i, ⟨o.methodHandlers, o.interfaces⟩)
  obtain ⟨e, he, hne⟩ := registerInterfaces_unkept (t := s₁.connection.exports) o.path data hlen
  have howner : e.2.data = data :=
    ((HandlerHeap.registerInterfaces_all o.path data interfaces 0).1 e he).resolve_left
      List.not_mem_nil
  have hregister := DBusConnection.registerObject_free [] data hopen hfree hp
  generalize DBusConnection.registerInterfaces o.path data interfaces [] 0 s₁.connection.exports =
    registered at he hne hregister
  let performed := DBusConnection.registerObject parse [] o.path o.generateIntrospectionXml data
    s₁.connection
  let o₂ : DBusObject κ := { o with registered := performed.1 }
  let s₂ : Lifecycle κ η := { s₁.put i (some o₂) with connection := performed.2 }
  have hi₂ : s₂.object i = some o₂ := (object_put hi₁ _ i).trans (if_pos rfl)
  have hs₂ : (s₁.perform parse (.registerObject i [])).2 = s₂ := by
    rw [perform, withObject_some hi₁, DBusObject.registerObject, if_neg (by simp [hr]),
      DBusConnection.isConnected_iff.2 hopen]
    rfl
  have hrun : (bus parse).run s (abandons κ i) =
      { s₂.put i none with connection := (o₂.unregisterObject s₂.connection).2.2 } := by
    change ((s₁.perform parse (.registerObject i [])).2.perform parse (.destroy i)).2 = _
    rw [hs₂, perform, withObject_some hi₂]
  have hkept : performed.2.connection = .opened ∧ e ∈ performed.2.exports.entries ∧
      (performed.1 = true →
        performed.2.registeredObjects[o.path.toString]? = some registered.1) := by
    simp only [performed, hregister]
    split
    · exact ⟨rfl, he, fun h => absurd h Bool.false_ne_true⟩
    · exact ⟨rfl, he, fun _ => Std.TreeMap.getElem?_insert_self⟩
  obtain ⟨hc, he, hid⟩ := hkept
  obtain ⟨he, hc'⟩ := unregisterObject_leaves (o := o₂) hid he hne
  rw [hrun]
  intro hd
  apply hd (hc'.trans hc) e he
  rw [howner]
  exact (object_put hi₂ none i).trans (if_pos rfl)

theorem run_retabled {steps : List (BusStep κ)} {s₀ : Lifecycle κ η} (step : LifecycleStep κ)
    (f : DBusObject κ → Bool × DBusObject κ)
    (hstep : ∀ s : Lifecycle κ η, s.perform parse step =
      s.withObject i fun o => ((f o).1, s.put i (some (f o).2)))
    (hi : ((bus parse).run s₀ steps).object i = some o) :
    ((bus parse).run s₀ (steps ++ [.program step])).object i = some (f o).2 := by
  rw [Machine.run_append]
  change (((bus parse).run s₀ steps).perform parse step).2.object i = _
  rw [hstep, withObject_some hi]
  exact (object_put hi _ i).trans (if_pos rfl)

/-- An object that can be built is the first one of some run that registers nothing. -/
theorem Built.builds (parse : String → Option (List String)) {o : DBusObject κ} (h : Built o) :
    ∃ steps, ((bus parse).run (start κ η) steps).object 0 = some o ∧
      ∀ D, (bus parse).Every (RegistersIn D) (start κ η) steps := by
  induction h with
  | constructed path => exact ⟨[.program (.construct path)], rfl, fun D => ⟨trivial, trivial⟩⟩
  | addInterface h interface properties ih =>
    obtain ⟨steps, hi, hD⟩ := ih
    refine ⟨_, run_retabled (.addInterface 0 interface properties) _ (fun s => rfl) hi,
      fun D => ?_⟩
    exact Machine.every_append.2 ⟨hD D, trivial, trivial⟩
  | addMethod h interface method handler ih =>
    obtain ⟨steps, hi, hD⟩ := ih
    refine ⟨_, run_retabled (.addMethod 0 interface method handler) _ (fun s => rfl) hi,
      fun D => ?_⟩
    exact Machine.every_append.2 ⟨hD D, trivial, trivial⟩

/-- No call is dispatched to a destroyed object, in any run in which the documents that are
registered are of a kind, exactly if no object whose document is of the kind has a second
interface. -/
theorem dispatches_iff (parse : String → Option (List String)) (D : String → Prop) :
    (∀ steps, (bus parse).Every (RegistersIn D) (start κ η) steps →
      Dispatches ((bus parse).run (start κ η) steps)) ↔
        ∀ o : DBusObject κ, Built o → D o.generateIntrospectionXml →
          OneInterface parse o.generateIntrospectionXml := by
  apply Iff.intro
  · intro hd o ho hD interfaces hp
    by_contra hlen
    obtain ⟨steps, hi, hsteps⟩ := ho.builds parse (η := η)
    apply abandons_dangles hi ho.unregistered hp (Nat.lt_of_not_le hlen)
    rw [← Machine.run_append]
    apply hd
    refine Machine.every_append.2 ⟨hsteps D, trivial, trivial, fun o' ho' _ => ?_, trivial, trivial⟩
    have hsame : some o = some o' := hi.symm.trans ho'
    cases hsame
    exact hD
  · intro hx steps hsteps
    apply Alive.dispatches
    apply (Machine.run_invariant (I := fun s => Alive s ∧ AllBuilt s) ⟨start_alive, start_allBuilt⟩
      (fun s step h hD => ?_) hsteps).1
    refine ⟨h.1.step ?_, h.2.step step⟩
    cases step with
    | remoteClose => trivial
    | program step =>
      cases step with
      | registerObject i refuses =>
        intro o hi hr
        have heq : { o with registered := false } = o := by rw [← hr]
        have hbuilt := h.2 i o hi
        rw [heq] at hbuilt
        exact hx o hbuilt (hD o hi hr)
      | _ => trivial

end Lifecycle
end Ggk
