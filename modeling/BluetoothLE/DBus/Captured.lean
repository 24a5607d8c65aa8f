import BluetoothLE.DBus.Accessors

namespace Ggk
open Lib
set_option autoImplicit true

namespace DBusConnection

section Loop
variable {t : IdTable (Export δ)} (path : DBusObjectPath) (data : δ)

/-- What the loop over the interfaces adds has newer ids and the data of the call. -/
theorem registerInterfaces_new (interfaces : List String) (refuses : List Bool) (id₀ : Nat) :
    let registered := registerInterfaces path data interfaces refuses id₀ t
    t.last ≤ registered.2.last ∧
      ∀ e ∈ registered.2.entries, e ∈ t.entries ∨ t.last < e.1 ∧ e.2.data = data := by
  induction interfaces generalizing refuses id₀ t with
  | nil => exact ⟨Nat.le_refl _, fun e he => .inl he⟩
  | cons interface interfaces ih =>
    rw [registerInterfaces, GDBus.registerObject]
    split_ifs with hx
    · exact ih refuses.tail 0
    · obtain ⟨hlast, hnew⟩ := ih (t := t.insert ⟨path, interface, data⟩) refuses.tail (t.last + 1)
      apply And.intro (Nat.le_of_succ_le hlast)
      intro e he
      rcases hnew e he with he | ⟨hlt, hdata⟩
      · rcases List.mem_cons.1 he with rfl | he
        · exact .inr ⟨Nat.lt_succ_self _, rfl⟩
        · exact .inl he
      · exact .inr ⟨Nat.lt_of_succ_lt hlt, hdata⟩

theorem registerInterfaces_newer (interfaces : List String) (refuses : List Bool) (id₀ : Nat)
    (h : id₀ = 0 ∨ n < id₀) (hn : n ≤ t.last) :
    let registered := registerInterfaces path data interfaces refuses id₀ t
    registered.1 = 0 ∨ n < registered.1 := by
  induction interfaces generalizing refuses id₀ t with
  | nil => exact h
  | cons interface interfaces ih =>
    rw [registerInterfaces, GDBus.registerObject]
    split_ifs with hx
    · exact ih refuses.tail 0 (.inl rfl) hn
    · exact ih refuses.tail (t.last + 1) (.inr (Nat.lt_succ_of_le hn)) (Nat.le_succ_of_le hn)

/-- A registration that succeeds stores the id of an export of its own, and all exports that
are newer than the call have its data. -/
theorem registerObject_captures {c : DBusConnection δ η}
    (h : (c.registerObject parse refuses path xml data).1 = true) :
    let c' := (c.registerObject parse refuses path xml data).2
    c'.connection = c.connection ∧
      (∃ id, c'.registeredObjects[path.toString]? = some id ∧ c.exports.last < id ∧
        ∃ e, (id, e) ∈ c'.exports.entries) ∧
      ∀ e ∈ c'.exports.entries, c.exports.last < e.1 → e.2.data = data := by
  rw [registerObject] at h ⊢
  split_ifs at h ⊢ with hc hr
  cases hp : parse xml with
  | none => simp [hp] at h
  | some interfaces =>
    have hnew := (registerInterfaces_new (t := c.exports) path data interfaces refuses 0).2
    have hnewer := registerInterfaces_newer (t := c.exports) path data interfaces refuses 0
      (.inl rfl) (Nat.le_refl _)
    have hstored := registerInterfaces_id path data refuses (t := c.exports)
      (fun _ hi => hi : ∀ interface ∈ interfaces, interface ∈ interfaces) (.inl rfl)
    simp only [hp] at h ⊢
    split_ifs at h ⊢ with hz
    obtain ⟨interface, _, hentry⟩ := hstored.resolve_left hz
    refine ⟨rfl, ⟨_, by simp, hnewer.resolve_left hz, _, hentry⟩, ?_⟩
    intro e he hlt
    rcases hnew e he with hold | ⟨_, hdata⟩
    · exact absurd (c.exports.bounded e hold).2 (Nat.not_le_of_lt hlt)
    · exact hdata

theorem registerObject_connection (parse : String → Option (List String)) (refuses : List Bool)
    (xml : String) (c : DBusConnection δ η) :
    (c.registerObject parse refuses path xml data).2.connection = c.connection := by
  obtain ⟨exports, _, heq | ⟨id, interface, _, _, _, _, heq⟩⟩ :=
    registerObject_cases parse refuses path xml data c
  · rw [heq]
  · rw [heq]

end Loop

end DBusConnection

namespace DBusObject

/-- The local accessor calls the same getter as the remote one. -/
theorem getProperty_eq (call : κ → Except Thrown (Option ν)) (interface name : String)
    (o : DBusObject κ) : o.getProperty call interface name =
      match DBusConnection.foundGetter interface name o.handlerData with
      | some getter => call getter
      | none => .ok none := by
  have h := DBusConnection.foundGetter_search interface name o.handlerData
  generalize DBusConnection.foundGetter interface name o.handlerData = getter at h ⊢
  rw [getProperty, ← handlerData_properties]
  cases h with
  | noInterface hi => simp [hi]
  | noProperty hi hp => simp [hi, hp]
  | denied hi hp hr => simp [hi, hp, hr]
  | missing hi hp hr hg => simp [hi, hp, hr, hg]
  | found hi hp hr hg => simp [hi, hp, hr, hg]

theorem setProperty_eq (call : κ → ν → Effect Thrown σ τ Bool) (interface name : String)
    (value : ν) (o : DBusObject κ) : o.setProperty call interface name value =
      match DBusConnection.foundSetter interface name o.handlerData with
      | some setter => call setter value
      | none => pure false := by
  have h := DBusConnection.foundSetter_search interface name o.handlerData
  generalize DBusConnection.foundSetter interface name o.handlerData = setter at h ⊢
  rw [setProperty, ← handlerData_properties]
  cases h with
  | noInterface hi => simp [hi]
  | noProperty hi hp => simp [hi, hp]
  | denied hi hp hr => simp [hi, hp, hr]
  | missing hi hp hr hs => simp [hi, hp, hr, hs]
  | found hi hp hr hs => simp [hi, hp, hr, hs]

theorem getProperty_iff (call : κ → Except Thrown (Option ν)) (interface name : String)
    (o : DBusObject κ) (v : ν) : o.getProperty call interface name = .ok (some v) ↔
      ∃ r, DBusConnection.handleGetProperty call interface name o.handlerData = .ok r ∧
        r.value = some v := by
  rw [getProperty_eq]
  rcases DBusConnection.handleGetProperty_cases call interface name o.handlerData with
    ⟨getter, hf, heq⟩ | ⟨hf, error, heq⟩
  · rw [hf, heq, DBusConnection.callGetter]
    cases hc : call getter with
    | ok value => simp [hc]
    | error thrown => cases thrown <;> simp [hc]
  · rw [hf, heq]
    simp

/-- Whatever the setter does, both accessors do it, and they agree on whether it succeeds. -/
theorem setProperty_iff (call : κ → ν → Effect Thrown σ τ Bool) (interface name : String)
    (value : ν) (o : DBusObject κ) (s : σ) :
    let here := o.setProperty call interface name value s
    let remote := DBusConnection.handleSetProperty call interface name value o.handlerData s
    (here.result = .ok true ↔ ∃ r, remote.result = .ok r ∧ r.value = true) ∧
      here.state = remote.state ∧ here.trace = remote.trace := by
  rw [setProperty_eq]
  rcases DBusConnection.handleSetProperty_cases call interface name value o.handlerData with
    ⟨setter, hf, heq⟩ | ⟨hf, error, heq⟩
  · rw [hf, heq, DBusConnection.callSetter_apply]
    cases hc : (call setter value s).result with
    | ok set => simp [hc]
    | error thrown => cases thrown <;> simp [hc, DBusConnection.escaped]
  · rw [hf, heq]
    simp

/-- Handler data behind which the remote accessors do what the object's own ones do. -/
structure Serves (o : DBusObject κ) (data : HandlerData κ) : Prop where
  same : data = o.handlerData
  get : ∀ {ν : Type} (call : κ → Except Thrown (Option ν)) interface name v,
    o.getProperty call interface name = .ok (some v) ↔
      ∃ r, DBusConnection.handleGetProperty call interface name data = .ok r ∧ r.value = some v
  set : ∀ {ν σ τ : Type} (call : κ → ν → Effect Thrown σ τ Bool) interface name value s,
    let here := o.setProperty call interface name value s
    let remote := DBusConnection.handleSetProperty call interface name value data s
    (here.result = .ok true ↔ ∃ r, remote.result = .ok r ∧ r.value = true) ∧
      here.state = remote.state ∧ here.trace = remote.trace

theorem serves_handlerData (o : DBusObject κ) : o.Serves o.handlerData where
  same := rfl
  get := fun call interface name v => o.getProperty_iff call interface name v
  set := fun call interface name value s => o.setProperty_iff call interface name value s

end DBusObject

inductive ObjectCall (κ : Type u)
  | table (call : TableCall κ)
  | registerObject (refuses : List Bool)
  | unregisterObject

/-- An object with its connection. `before` is the last id that GDBus had given out when the
last registration that succeeded began. -/
structure Session (ω : Type u) (κ : Type v) (η : Type w) where
  object : DBusObject κ
  connection : DBusConnection (ω × HandlerData κ) η
  before : Nat

namespace Session

def perform (parse : String → Option (List String)) (owner : ω) (s : Session ω κ η) :
    ObjectCall κ → Bool × Session ω κ η
  | .table call =>
    let performed := call.perform s.object
    (performed.1, { s with object := performed.2 })
  | .registerObject refuses =>
    let registered := s.object.registerObject parse refuses owner s.connection
    (registered.1, ⟨registered.2.1, registered.2.2,
      if !s.object.registered && registered.1 then s.connection.exports.last else s.before⟩)
  | .unregisterObject =>
    let unregistered := s.object.unregisterObject s.connection
    (unregistered.1, { s with object := unregistered.2.1, connection := unregistered.2.2 })

def session (parse : String → Option (List String)) (owner : ω) :
    Machine (Session ω κ η) (ObjectCall κ) Bool where
  step s call := s.perform parse owner call

def start (path : DBusObjectPath) (c : DBusConnection (ω × HandlerData κ) η) : Session ω κ η :=
  ⟨.constructed path, c, 0⟩

/-- Handler data of an export that the last registration made. -/
def Captured (s : Session ω κ η) (data : HandlerData κ) : Prop :=
  ∃ e ∈ s.connection.exports.entries, s.before < e.1 ∧ e.2.data.2 = data

structure Kept (s : Session ω κ η) : Prop where
  opened : s.connection.connection = .opened
  stored : s.object.registered = true →
    ∃ id, s.connection.registeredObjects[s.object.path.toString]? = some id ∧ s.before < id ∧
      ∃ e, (id, e) ∈ s.connection.exports.entries
  current : s.object.registered = true → ∀ data, s.Captured data → data = s.object.handlerData

theorem Kept.table {s : Session ω κ η} (h : Kept s) (call : TableCall κ) :
    Kept { s with object := (call.perform s.object).2 } := by
  cases hr : s.object.registered with
  | true =>
    have hsame : (call.perform s.object).2 = s.object := by
      cases call with
      | addInterface => simp [TableCall.perform, DBusObject.addInterface, hr]
      | addMethod => simp [TableCall.perform, DBusObject.addMethod, hr]
    rw [hsame]
    exact h
  | false =>
    have hf : (call.perform s.object).2.registered = false := by
      cases call with
      | addInterface => simp [TableCall.perform, DBusObject.addInterface, hr]
      | addMethod => simp [TableCall.perform, DBusObject.addMethod, hr]
    constructor
    · exact h.opened
    · exact fun ht => absurd (hf.symm.trans ht) Bool.false_ne_true
    · exact fun ht => absurd (hf.symm.trans ht) Bool.false_ne_true

theorem Kept.registerObject {s : Session ω κ η} (h : Kept s)
    (parse : String → Option (List String)) (owner : ω) (refuses : List Bool) :
    Kept (s.perform parse owner (.registerObject refuses)).2 := by
  cases hr : s.object.registered with
  | true =>
    have hsame : (s.perform parse owner (.registerObject refuses)).2 = s := by
      simp [perform, DBusObject.registerObject, hr]
    rw [hsame]
    exact h
  | false =>
    have hperform : (s.perform parse owner (.registerObject refuses)).2 =
        let registered := s.connection.registerObject parse refuses s.object.path
          s.object.generateIntrospectionXml (owner, s.object.handlerData)
        ⟨{ s.object with registered := registered.1 }, registered.2,
          if registered.1 then s.connection.exports.last else s.before⟩ := by
      simp [perform, DBusObject.registerObject, hr, DBusConnection.isConnected_iff.2 h.opened,
        DBusObject.handlerData]
      congr
    rw [hperform]
    cases hreg : (s.connection.registerObject parse refuses s.object.path
        s.object.generateIntrospectionXml (owner, s.object.handlerData)).1 with
    | false =>
      have hopened := (DBusConnection.registerObject_connection s.object.path
        (owner, s.object.handlerData) parse refuses s.object.generateIntrospectionXml
        s.connection).trans h.opened
      exact ⟨hopened, fun ht => absurd (hreg.symm.trans ht) Bool.false_ne_true,
        fun ht => absurd (hreg.symm.trans ht) Bool.false_ne_true⟩
    | true =>
      obtain ⟨hconnection, hstored, hdata⟩ := DBusConnection.registerObject_captures _ _ hreg
      simp only [hreg, if_true]
      constructor
      · exact hconnection.trans h.opened
      · exact fun _ => hstored
      · rintro _ data ⟨e, he, hlt, rfl⟩
        exact congrArg Prod.snd (hdata e he hlt)

theorem Kept.unregisterObject {s : Session ω κ η} (h : Kept s)
    (parse : String → Option (List String)) (owner : ω) :
    Kept (s.perform parse owner .unregisterObject).2 := by
  cases hr : s.object.registered with
  | false =>
    have hsame : (s.perform parse owner .unregisterObject).2 = s := by
      simp [perform, DBusObject.unregisterObject, hr]
    rw [hsame]
    exact h
  | true =>
    rcases DBusConnection.unregisterObject_cases s.object.path s.connection with
      heq | ⟨id, ho, hid, heq⟩
    · have hsame : (s.perform parse owner .unregisterObject).2 = s := by
        cases s with
        | mk object connection before =>
          cases object
          cases hr
          simp [perform, DBusObject.unregisterObject, heq]
      rw [hsame]
      exact h
    · have hperform : (s.perform parse owner .unregisterObject).2 =
          { s with
            object := { s.object with registered := false }
            connection := (s.connection.unregisterObject s.object.path).2 } := by
        simp [perform, DBusObject.unregisterObject, hr, heq]
      rw [hperform, heq]
      exact ⟨h.opened, fun ht => absurd ht Bool.false_ne_true,
        fun ht => absurd ht Bool.false_ne_true⟩

theorem Kept.step {s : Session ω κ η} (h : Kept s) (parse : String → Option (List String))
    (owner : ω) (call : ObjectCall κ) : Kept ((session parse owner).next s call) := by
  cases call with
  | table call => exact h.table call
  | registerObject refuses => exact h.registerObject parse owner refuses
  | unregisterObject => exact h.unregisterObject parse owner

theorem start_kept {c : DBusConnection (ω × HandlerData κ) η} (path : DBusObjectPath)
    (hc : c.connection = .opened) : Kept (start path c) where
  opened := hc
  stored := fun h => absurd h Bool.false_ne_true
  current := fun h => absurd h Bool.false_ne_true

/-- While an object is registered, the export that its connection stored for it has handler data,
and all handler data of the last registration serves as the object does. -/
theorem captured_serves (parse : String → Option (List String)) (owner : ω)
    (path : DBusObjectPath) {c : DBusConnection (ω × HandlerData κ) η}
    (hc : c.connection = .opened) (calls : List (ObjectCall κ)) :
    let s := (session parse owner).run (start path c) calls
    s.object.registered = true →
      (∃ id e, s.connection.registeredObjects[s.object.path.toString]? = some id ∧
        (id, e) ∈ s.connection.exports.entries ∧ s.Captured e.data.2) ∧
      ∀ data, s.Captured data → s.object.Serves data := by
  intro s hr
  have hkept : Kept s := Machine.run_invariant (C := fun _ _ => True) (start_kept path hc)
    (fun s call hs _ => hs.step parse owner call) (Machine.every_of_forall fun _ _ _ => trivial)
  apply And.intro
  · obtain ⟨id, hid, hlt, e, he⟩ := hkept.stored hr
    exact ⟨id, e, hid, he, (id, e), he, hlt, rfl⟩
  · intro data hd
    rw [hkept.current hr data hd]
    exact s.object.serves_handlerData

/-- An object with one interface, registered over a fresh connection. -/
def registeredSession : Session Unit Nat Nat :=
  (session (fun _ => some ["com.example.First"]) ()).run
    (start ⟨"/com/example"⟩ ((DBusConnection.constructed _ _).connect true).2)
    [.table (.addInterface "com.example.First" []), .registerObject []]

theorem captured_serves_registered :
    (∃ id e, registeredSession.connection.registeredObjects[
        registeredSession.object.path.toString]? = some id ∧
      (id, e) ∈ registeredSession.connection.exports.entries ∧
        registeredSession.Captured e.data.2) ∧
      ∀ data, registeredSession.Captured data → registeredSession.object.Serves data :=
  captured_serves _ () ⟨"/com/example"⟩ rfl
    [.table (.addInterface "com.example.First" []), .registerObject []] rfl

end Session
end Ggk
