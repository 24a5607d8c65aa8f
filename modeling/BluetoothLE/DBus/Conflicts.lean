import BluetoothLE.DBus.Threads

namespace Ggk
open Lib
set_option autoImplicit true

namespace ConnectionThread
variable {δ : Type} {η : Type} {π : Type}

/-- The thread touches only fields of `T`, and changes only fields of `C`. -/
def Footprint (T : ConnectionField → Bool) (C : ConnectionField → Bool) (Q : α → Prop)
    (x : ConnectionThread δ η π α) : Prop :=
  x.Uses (fun c => T c = true) (fun c f => T c = true ∧ ((∃ b, f b ≠ b) → C c = true)) Q

section Footprint
variable {T : ConnectionField → Bool} {C : ConnectionField → Bool}

theorem footprint_pure {Q : α → Prop} (h : Q a) :
    Footprint T C Q (pure a : ConnectionThread δ η π α) := Program.Uses.done h

theorem footprint_bind {Q : γ → Prop} {R : α → Prop} {x : ConnectionThread δ η π α}
    {k : α → ConnectionThread δ η π γ} (hx : Footprint T C R x)
    (hk : ∀ a, R a → Footprint T C Q (k a)) : Footprint T C Q (x >>= k) :=
  Program.Uses.bind hx hk

/-- Whatever the first part comes to. -/
theorem footprint_then {Q : γ → Prop} {x : ConnectionThread δ η π α}
    {k : α → ConnectionThread δ η π γ} (hx : Footprint T C (fun _ => True) x)
    (hk : ∀ a, Footprint T C Q (k a)) : Footprint T C Q (x >>= k) :=
  footprint_bind hx fun a _ => hk a

theorem footprint_discard {x : ConnectionThread δ η π α}
    (hx : Footprint T C (fun _ => True) x) : Footprint T C (fun _ => True) (discard x) :=
  footprint_then hx fun _ => footprint_pure trivial

theorem footprint_peek {Q : α → Prop} {r : ConnectionCell δ η π c → α} (h : T c = true)
    (hQ : ∀ b, Q (r b)) : Footprint T C Q (peek c r) := Program.Uses.peek h hQ

theorem footprint_access {Q : α → Prop}
    {f : ConnectionCell δ η π c → ConnectionCell δ η π c} {r : ConnectionCell δ η π c → α}
    (h : T c = true) (hc : (∃ b, f b ≠ b) → C c = true) (hQ : ∀ b, Q (r b)) :
    Footprint T C Q (access c f r) := Program.Uses.access ⟨h, hc⟩ hQ

theorem footprint_store {f : ConnectionCell δ η π c → ConnectionCell δ η π c}
    (h : T c = true) (hc : C c = true) : Footprint T C (fun _ => True) (store c f) :=
  footprint_access h (fun _ => hc) fun _ => trivial

theorem footprint_get (h : T .connection = true) :
    Footprint T C (fun _ => True) (get : ConnectionThread δ η π Bool) :=
  footprint_peek h fun _ => trivial

theorem footprint_gdbus {Q : α → Prop} {x : ConnectionThread δ η π α}
    (hx : Footprint T C Q x) (hQ : Q refusal) : Footprint T C Q (gdbus connection x refusal) := by
  cases connection with
  | false => exact footprint_pure hQ
  | true => exact hx

theorem footprint_withLock {Q : α → Prop} {x : ConnectionThread δ η π α}
    (hx : Footprint T C Q x) : Footprint T C Q (withLock x) := Program.Uses.locked hx

theorem footprint_ite {Q : α → Prop} {x y : ConnectionThread δ η π α} {b : Prop} [Decidable b]
    (hx : Footprint T C Q x) (hy : Footprint T C Q y) :
    Footprint T C Q (if b then x else y) := by
  split_ifs
  · exact hx
  · exact hy

variable {out : BusOutcome}

/-- What every call may touch that asks for the connection, and what it may change. -/
structure Asks (out : BusOutcome) (T : ConnectionField → Bool) (C : ConnectionField → Bool) :
    Prop where
  connection : T .connection = true
  closed : T .closed = true
  closes : out.closed = true → C .closed = true

theorem footprint_isConnected (h : Asks out T C) :
    Footprint T C (fun _ => True) (isConnected out : ConnectionThread δ η π Bool) := by
  apply footprint_then (footprint_get h.connection)
  intro connection
  apply footprint_ite (footprint_pure trivial)
  apply footprint_then (footprint_get h.connection)
  intro connection'
  apply footprint_then _ fun _ => footprint_pure trivial
  apply footprint_gdbus _ trivial
  apply footprint_access h.closed _ fun _ => trivial
  intro hne
  obtain ⟨b, hb⟩ := hne
  apply h.closes
  by_contra ho
  rw [Bool.eq_false_iff.2 ho] at hb
  exact hb (Bool.or_false b)

/-- A call that goes on only with an open connection. -/
theorem footprint_connected {x : ConnectionThread δ η π α} (h : Asks out T C)
    (hx : Footprint T C (fun _ => True) x) : Footprint T C (fun _ => True)
      (isConnected out >>= fun connected => if !connected then pure refusal else x) :=
  footprint_then (footprint_isConnected h) fun _ => footprint_ite (footprint_pure trivial) hx

theorem footprint_connect (h : Asks out T C) (hf : ∀ c, c.isPlain = false → T c = true)
    (hc : C .connection = true) (hd : C .closed = true) (hx : C .exports = true)
    (hs : C .subscriptions = true) :
    Footprint T C (fun _ => True) (connect out : ConnectionThread δ η π Bool) := by
  apply footprint_then (footprint_isConnected h)
  intro connected
  apply footprint_ite (footprint_pure trivial)
  apply footprint_ite (footprint_pure trivial)
  have hfresh : Footprint T C (fun _ => True) (refresh : ConnectionThread δ η π Unit) :=
    footprint_then (footprint_store (hf _ rfl) hd) fun _ =>
      footprint_then (footprint_store (hf _ rfl) hx) fun _ => footprint_store (hf _ rfl) hs
  apply footprint_then hfresh
  intro _
  apply footprint_then (footprint_store h.connection hc)
  intro _
  exact footprint_then (footprint_discard (footprint_get h.connection)) fun _ =>
    footprint_pure trivial

theorem footprint_each {f : Nat → ConnectionThread δ η π Unit}
    (hf : ∀ id, Footprint T C (fun _ => True) (f id)) (ids : List Nat) :
    Footprint T C (fun _ => True) (.each (ids.map f) : ConnectionThread δ η π Unit) := by
  apply Program.Uses.each
  intro p hp
  obtain ⟨id, -, rfl⟩ := List.mem_map.1 hp
  exact hf id

theorem footprint_clearObjects (hT : ∀ c, T c = true) (hx : C .exports = true)
    (ho : C .registeredObjects = true) :
    Footprint T C (fun _ => True) (clearObjects : ConnectionThread δ η π Unit) := by
  apply footprint_then
  · apply footprint_then (footprint_peek (hT _) fun _ => trivial)
    exact footprint_each fun id => footprint_then (footprint_get (hT _)) fun _ =>
      footprint_gdbus (footprint_store (hT _) hx) trivial
  · exact fun _ => footprint_store (hT _) ho

theorem footprint_clearHandlers (hT : ∀ c, T c = true) (hs : C .subscriptions = true)
    (hh : C .signalHandlers = true) :
    Footprint T C (fun _ => True) (clearHandlers : ConnectionThread δ η π Unit) := by
  apply footprint_then
  · apply footprint_then (footprint_peek (hT _) fun _ => trivial)
    exact footprint_each fun id => footprint_then (footprint_get (hT _)) fun _ =>
      footprint_gdbus (footprint_store (hT _) hs) trivial
  · exact fun _ => footprint_store (hT _) hh

theorem footprint_disconnect (hT : ∀ c, T c = true) (hc : C .connection = true)
    (ho : C .registeredObjects = true) (hh : C .signalHandlers = true) (hx : C .exports = true)
    (hs : C .subscriptions = true) :
    Footprint T C (fun _ => True) (disconnect : ConnectionThread δ η π Bool) := by
  apply footprint_then (footprint_clearObjects hT hx ho)
  intro _
  apply footprint_then (footprint_clearHandlers hT hs hh)
  intro _
  apply footprint_then
  · exact footprint_then (footprint_get (hT _)) fun _ =>
      footprint_ite (footprint_store (hT _) hc) (footprint_pure trivial)
  · exact fun _ => footprint_pure trivial

theorem footprint_registerInterfaces {path : DBusObjectPath} {data : δ}
    (hT : T .connection = true) (hx : T .exports = true) (hC : C .exports = true)
    (interfaces : List String) (refuses : List Bool) (registrationId : Nat) :
    Footprint T C (fun _ => True)
      (registerInterfaces path data interfaces refuses registrationId :
        ConnectionThread δ η π Nat) := by
  induction interfaces generalizing refuses registrationId with
  | nil => exact footprint_pure trivial
  | cons interface interfaces ih =>
    apply footprint_then (footprint_get hT)
    intro connection
    apply footprint_then
    · exact footprint_gdbus (footprint_access hx (fun _ => hC) fun _ => trivial) trivial
    · exact fun id => ih _ id

/-- The calls that only hand something to GDBus do not differ here. -/
theorem footprint_emitSignal (h : Asks out T C) :
    Footprint T C (fun _ => True) (emitSignal out : ConnectionThread δ η π Bool) :=
  footprint_connected h (footprint_then (footprint_get h.connection) fun _ =>
    footprint_gdbus (footprint_pure trivial) trivial)

theorem footprint_emitPropertyChanged {interface propertyName : String} {value : Variant}
    (h : Asks out T C) (hT : T .process = true) (hC : (!out.goesOn) = true → C .process = true) :
    Footprint T C (fun _ => True)
      (emitPropertyChanged out interface propertyName value : ConnectionThread δ η π Bool) := by
  apply footprint_connected h
  dsimp only
  split_ifs with hends
  · exact footprint_then (footprint_store hT (hC (Bool.and_eq_true_iff.1 hends).2)) fun _ =>
      footprint_pure trivial
  · exact footprint_emitSignal h

variable {path : DBusObjectPath}

theorem footprint_registerObject {parse : String → Option (List String)} {xml : String} {data : δ}
    (h : Asks out T C) (hT : T .registeredObjects = true) (hx : T .exports = true)
    (hC : ∀ interface interfaces, parse xml = some (interface :: interfaces) →
      C .registeredObjects = true ∧ C .exports = true) :
    Footprint T C (fun _ => True)
      (registerObject parse out path xml data : ConnectionThread δ η π Bool) := by
  apply footprint_connected h
  apply footprint_then (footprint_peek hT fun _ => trivial)
  intro found
  apply footprint_ite (footprint_pure trivial)
  cases hp : parse xml with
  | none => exact footprint_pure trivial
  | some interfaces =>
    cases interfaces with
    | nil => exact footprint_pure trivial
    | cons interface interfaces =>
      obtain ⟨ho, he⟩ := hC interface interfaces hp
      apply footprint_then (footprint_registerInterfaces h.connection hx he _ _ _)
      intro id
      exact footprint_ite (footprint_pure trivial)
        (footprint_then (footprint_store hT ho) fun _ => footprint_pure trivial)

theorem footprint_unregisterObject (h : Asks out T C) (hT : T .registeredObjects = true)
    (hx : T .exports = true) (hC : C .registeredObjects = true) (he : C .exports = true) :
    Footprint T C (fun _ => True)
      (unregisterObject out path : ConnectionThread δ η π Bool) := by
  apply footprint_connected h
  apply footprint_then (footprint_peek hT fun _ => trivial)
  rintro (_ | id)
  · exact footprint_pure trivial
  · apply footprint_then (footprint_get h.connection)
    intro connection
    apply footprint_then
    · exact footprint_gdbus (footprint_access hx (fun _ => he) fun _ => trivial) trivial
    · exact fun _ => footprint_ite
        (footprint_then (footprint_store hT hC) fun _ => footprint_pure trivial)
        (footprint_pure trivial)

theorem footprint_addSignalWatch {sender interface signalName : String} {handler : η}
    (h : Asks out T C) (hs : T .subscriptions = true ∧ C .subscriptions = true)
    (hh : T .signalHandlers = true ∧ C .signalHandlers = true)
    (hm : T .mutex = true ∧ C .mutex = true) :
    Footprint T C (fun _ => True)
      (addSignalWatch out sender interface signalName path handler :
        ConnectionThread δ η π Nat) := by
  apply footprint_connected h
  apply footprint_withLock
  apply footprint_then (footprint_get h.connection)
  intro connection
  apply footprint_then
  · exact footprint_gdbus (footprint_access hs.1 (fun _ => hs.2) fun _ => trivial) trivial
  · intro id
    apply footprint_ite _ (footprint_pure trivial)
    exact footprint_then (footprint_store hh.1 hh.2) fun _ =>
      footprint_then (footprint_store hm.1 hm.2) fun _ => footprint_pure trivial

theorem footprint_removeSignalWatch {watchId : Nat} (h : Asks out T C)
    (hs : T .subscriptions = true ∧ C .subscriptions = true)
    (hh : T .signalHandlers = true ∧ C .signalHandlers = true)
    (hm : T .mutex = true ∧ C .mutex = true) :
    Footprint T C (fun _ => True)
      (removeSignalWatch out watchId : ConnectionThread δ η π Bool) := by
  apply footprint_then (footprint_isConnected h)
  intro connected
  apply footprint_ite (footprint_pure trivial)
  apply footprint_withLock
  apply footprint_then (footprint_access hh.1 (fun _ => hh.2) fun _ => trivial)
  intro found
  apply footprint_ite (footprint_pure trivial)
  apply footprint_then
  · exact footprint_then (footprint_get h.connection) fun _ =>
      footprint_gdbus (footprint_store hs.1 hs.2) trivial
  · exact fun _ => footprint_then (footprint_store hh.1 hh.2) fun _ =>
      footprint_then (footprint_store hm.1 hm.2) fun _ => footprint_pure trivial

theorem footprint_handleSignal {signal : IncomingSignal π} (hh : T .signalHandlers = true)
    (hm : T .mutex = true ∧ C .mutex = true) :
    Footprint T C (fun _ => True) (handleSignal signal : ConnectionThread δ η π Unit) := by
  apply footprint_withLock
  apply footprint_then (footprint_access hh (fun hne => absurd rfl hne.choose_spec) fun _ => trivial)
  exact fun held => footprint_store hm.1 hm.2

end Footprint

section Locking
variable {r : Program.Monitor ConnectionField (ConnectionCell δ η π)}

/-- The thread leaves the mutex and what it guards alone. -/
def Spared (r : Program.Monitor ConnectionField (ConnectionCell δ η π))
    (x : ConnectionThread δ η π α) : Prop :=
  ∀ held, Program.Within r (fun held' _ => held' = held) x held

theorem spared_pure (a : α) : Spared r (pure a : ConnectionThread δ η π α) :=
  fun _ => Program.within_done rfl

theorem spared_bind {x : ConnectionThread δ η π α} {k : α → ConnectionThread δ η π γ}
    (hx : Spared r x) (hk : ∀ a, Spared r (k a)) : Spared r (x >>= k) := by
  intro held
  apply Program.within_bind
  apply Program.within_mono (hx held)
  rintro held' a rfl
  exact hk a held'

theorem spared_discard {x : ConnectionThread δ η π α} (hx : Spared r x) :
    Spared r (discard x) := spared_bind hx fun _ => spared_pure _

theorem spared_ite {x y : ConnectionThread δ η π α} {b : Prop} [Decidable b]
    (hx : Spared r x) (hy : Spared r y) : Spared r (if b then x else y) := by
  split_ifs
  · exact hx
  · exact hy

theorem spared_peek {f : ConnectionCell δ η π c → α} (h : ¬ r.guards c) : Spared r (peek c f) :=
  fun _ => Program.within_peek h fun _ => rfl

theorem spared_access {f : ConnectionCell δ η π c → ConnectionCell δ η π c}
    {g : ConnectionCell δ η π c → α} (h : ¬ r.guards c) : Spared r (access c f g) :=
  fun _ => Program.within_other h fun _ => rfl

theorem spared_gdbus {x : ConnectionThread δ η π α} (hx : Spared r x) (refusal : α) :
    Spared r (gdbus connection x refusal) := by
  cases connection with
  | false => exact spared_pure refusal
  | true => exact hx

theorem spared_each {xs : List (ConnectionThread δ η π α)} (h : ∀ x ∈ xs, Spared r x) :
    Spared r (.each xs : ConnectionThread δ η π Unit) := by
  induction xs with
  | nil => exact spared_pure ()
  | cons x xs ih =>
    obtain ⟨hx, hxs⟩ := List.forall_mem_cons.1 h
    exact spared_bind (k := fun _ => Program.each xs) hx fun _ => ih hxs

variable {out : BusOutcome}

/-- The mutex has nothing to do with the connection itself nor with its objects. -/
structure Aside (r : Program.Monitor ConnectionField (ConnectionCell δ η π)) : Prop where
  connection : ¬ r.guards .connection
  closed : ¬ r.guards .closed
  objects : ¬ r.guards .registeredObjects
  exports : ¬ r.guards .exports
  process : ¬ r.guards .process

theorem spared_get (h : Aside r) : Spared r (get : ConnectionThread δ η π Bool) :=
  spared_peek h.connection

theorem spared_objects (h : Aside r) (f : Std.TreeMap String Nat → α) :
    Spared r (objects f : ConnectionThread δ η π α) := spared_peek h.objects

theorem spared_isConnected (h : Aside r) :
    Spared r (isConnected out : ConnectionThread δ η π Bool) :=
  spared_bind (spared_get h) fun _ => spared_ite (spared_pure _) <|
    spared_bind (spared_get h) fun _ =>
      spared_bind (spared_gdbus (spared_access h.closed) _) fun _ => spared_pure _

theorem spared_refresh (h : Aside r) (hs : ¬ r.guards .subscriptions) :
    Spared r (refresh : ConnectionThread δ η π Unit) :=
  spared_bind (spared_access h.closed) fun _ =>
    spared_bind (spared_access h.exports) fun _ => spared_access hs

theorem spared_connect (h : Aside r) (hs : ¬ r.guards .subscriptions) :
    Spared r (connect out : ConnectionThread δ η π Bool) := by
  apply spared_bind (spared_isConnected h)
  intro connected
  apply spared_ite (spared_pure _)
  apply spared_ite (spared_pure _)
  apply spared_bind (spared_refresh h hs)
  intro _
  exact spared_bind (spared_access h.connection) fun _ =>
    spared_bind (spared_discard (spared_get h)) fun _ => spared_pure _

theorem spared_unregisterAll (h : Aside r) :
    Spared r (unregisterAll : ConnectionThread δ η π Unit) := by
  apply spared_bind (spared_objects h _)
  intro ids
  apply spared_each
  intro x hx
  obtain ⟨id, -, rfl⟩ := List.mem_map.1 hx
  exact spared_bind (spared_get h) fun _ => spared_gdbus (spared_access h.exports) _

theorem spared_unsubscribeAll (h : Aside r) (hs : ¬ r.guards .subscriptions)
    (hh : ¬ r.guards .signalHandlers) :
    Spared r (unsubscribeAll : ConnectionThread δ η π Unit) := by
  apply spared_bind (spared_peek hh)
  intro watchIds
  apply spared_each
  intro x hx
  obtain ⟨id, -, rfl⟩ := List.mem_map.1 hx
  exact spared_bind (spared_get h) fun _ => spared_gdbus (spared_access hs) _

theorem spared_clearObjects (h : Aside r) :
    Spared r (clearObjects : ConnectionThread δ η π Unit) :=
  spared_bind (spared_unregisterAll h) fun _ => spared_access h.objects

theorem spared_clearHandlers (h : Aside r) (hs : ¬ r.guards .subscriptions)
    (hh : ¬ r.guards .signalHandlers) :
    Spared r (clearHandlers : ConnectionThread δ η π Unit) :=
  spared_bind (spared_unsubscribeAll h hs hh) fun _ => spared_access hh

theorem spared_disconnect (h : Aside r) (hs : ¬ r.guards .subscriptions)
    (hh : ¬ r.guards .signalHandlers) :
    Spared r (disconnect : ConnectionThread δ η π Bool) :=
  spared_bind (spared_clearObjects h) fun _ => spared_bind (spared_clearHandlers h hs hh) fun _ =>
    spared_bind (spared_bind (spared_get h) fun _ =>
      spared_ite (spared_access h.connection) (spared_pure _)) fun _ => spared_pure _

theorem spared_registerInterfaces {path : DBusObjectPath} {data : δ} (h : Aside r)
    (interfaces : List String) (refuses : List Bool) (registrationId : Nat) :
    Spared r (registerInterfaces path data interfaces refuses registrationId :
      ConnectionThread δ η π Nat) := by
  induction interfaces generalizing refuses registrationId with
  | nil => exact spared_pure _
  | cons interface interfaces ih =>
    exact spared_bind (spared_get h) fun _ =>
      spared_bind (spared_gdbus (spared_access h.exports) _) fun _ => ih _ _

theorem spared_emitSignal (h : Aside r) :
    Spared r (emitSignal out : ConnectionThread δ η π Bool) :=
  spared_bind (spared_isConnected h) fun _ => spared_ite (spared_pure _) <|
    spared_bind (spared_get h) fun _ => spared_gdbus (spared_pure _) _

/-- None of the calls that neither open nor close the connection nor deal with its watches comes
near what the mutex is for. -/
theorem spared_perform (parse : String → Option (List String)) (h : Aside r)
    (call : ConnectionCall δ η π) (hs : call.setsConnection = false)
    (hu : call.usesHandlers = false) : Spared r (call.perform parse out) := by
  cases call with
  | connect => cases hs
  | disconnect => cases hs
  | addSignalWatch => cases hu
  | removeSignalWatch => cases hu
  | handleSignal => cases hu
  | isConnected => exact spared_discard (spared_isConnected h)
  | callMethod => exact spared_discard (spared_emitSignal h)
  | emitSignal => exact spared_discard (spared_emitSignal h)
  | emitPropertyChanged path interface propertyName value =>
    exact spared_discard (spared_bind (spared_isConnected h) fun _ =>
      spared_ite (spared_pure _) (spared_ite
        (spared_bind (spared_access h.process) fun _ => spared_pure _) (spared_emitSignal h)))
  | registerObject path xml data =>
    apply spared_discard
    apply spared_bind (spared_isConnected h)
    intro connected
    apply spared_ite (spared_pure _)
    apply spared_bind (spared_objects h _)
    intro found
    apply spared_ite (spared_pure _)
    cases parse xml with
    | none => exact spared_pure _
    | some interfaces =>
      apply spared_bind (spared_registerInterfaces h _ _ _)
      exact fun id => spared_ite (spared_pure _)
        (spared_bind (spared_access h.objects) fun _ => spared_pure _)
  | unregisterObject path =>
    apply spared_discard
    apply spared_bind (spared_isConnected h)
    intro connected
    apply spared_ite (spared_pure _)
    apply spared_bind (spared_objects h _)
    rintro (_ | id)
    · exact spared_pure _
    · apply spared_bind (spared_get h)
      intro connection
      exact spared_bind (spared_gdbus (spared_access h.exports) _) fun _ =>
        spared_ite (spared_bind (spared_access h.objects) fun _ => spared_pure _) (spared_pure _)

end Locking

/-- The connection's mutex, and the handlers if it guards them. -/
def handlersMonitor (δ : Type) (η : Type) (π : Type) (guarded : Prop) :
    Program.Monitor ConnectionField (ConnectionCell δ η π) :=
  ⟨.mutex, fun c => guarded ∧ c = .signalHandlers, fun _ => True, fun _ _ _ h => h⟩

section Locking
variable {r : Program.Monitor ConnectionField (ConnectionCell δ η π)}

/-- The thread keeps the mutex that it has. -/
def Inside (r : Program.Monitor ConnectionField (ConnectionCell δ η π))
    (x : ConnectionThread δ η π α) : Prop :=
  ∀ cells, Program.Within r (fun held _ => ∃ cells', held = some cells') x (some cells)

theorem Spared.inside {x : ConnectionThread δ η π α} (h : Spared r x) : Inside r x :=
  fun cells => Program.within_mono (h (some cells)) fun _ _ hh => ⟨cells, hh⟩

theorem inside_bind {x : ConnectionThread δ η π α} {k : α → ConnectionThread δ η π γ}
    (hx : Inside r x) (hk : ∀ a, Inside r (k a)) : Inside r (x >>= k) := by
  intro cells
  apply Program.within_bind
  apply Program.within_mono (hx cells)
  rintro held a ⟨cells', rfl⟩
  exact hk a cells'

theorem inside_ite {x y : ConnectionThread δ η π α} {b : Prop} [Decidable b]
    (hx : Inside r x) (hy : Inside r y) : Inside r (if b then x else y) := by
  split_ifs
  · exact hx
  · exact hy

theorem inside_access {f : ConnectionCell δ η π c → ConnectionCell δ η π c}
    {g : ConnectionCell δ η π c → α} : Inside r (access c f g) := by
  intro cells
  by_cases h : r.guards c
  · exact Program.within_guarded h ⟨_, rfl⟩
  · exact Program.within_other h fun _ => ⟨cells, rfl⟩

theorem inside_gdbus {x : ConnectionThread δ η π α} (hx : Inside r x) (refusal : α) :
    Inside r (gdbus connection x refusal) := by
  cases connection with
  | false => exact (spared_pure refusal).inside
  | true => exact hx

end Locking

theorem handlersMonitor_aside (δ : Type) (η : Type) (π : Type) (guarded : Prop) :
    Aside (handlersMonitor δ η π guarded) :=
  ⟨fun h => (by cases h.2), fun h => (by cases h.2), fun h => (by cases h.2),
    fun h => (by cases h.2), fun h => (by cases h.2)⟩

theorem handlersMonitor_bare (δ : Type) (η : Type) (π : Type) :
    (handlersMonitor δ η π False).Bare := ⟨fun _ h => h.1, fun _ => trivial⟩

theorem within_withLock {guarded : Prop} {x : ConnectionThread δ η π α}
    (hx : Inside (handlersMonitor δ η π guarded) x) :
    Program.Within (handlersMonitor δ η π guarded) (fun held _ => held = none) (withLock x)
      none := by
  apply Program.within_locked
  intro cells _
  apply Program.within_mono (hx cells)
  rintro held a ⟨cells', rfl⟩
  exact ⟨cells', rfl, trivial, rfl⟩

/-- A call that goes on only with an open connection. -/
theorem within_connected {r : Program.Monitor ConnectionField (ConnectionCell δ η π)}
    (ha : Aside r) {p : Bool → Prop} [∀ b, Decidable (p b)] {x : ConnectionThread δ η π α}
    (hx : Program.Within r (fun held _ => held = none) x none) :
    Program.Within r (fun held _ => held = none)
      (discard (isConnected out >>= fun connected => if p connected then pure refusal else x))
      none := by
  have hblock : Program.Within r (fun held _ => held = none)
      (isConnected out >>= fun connected => if p connected then pure refusal else x) none := by
    apply Program.within_bind
    apply Program.within_mono (spared_isConnected ha none)
    rintro held connected rfl
    split_ifs
    · exact Program.within_done rfl
    · exact hx
  apply Program.within_bind
  exact Program.within_mono hblock fun _ _ hh => Program.within_done hh

end ConnectionThread

namespace ConnectionCall
open ConnectionThread
variable {δ : Type} {η : Type} {π : Type}

theorem perform_footprint (parse : String → Option (List String)) (out : BusOutcome)
    (call : ConnectionCall δ η π) :
    Footprint call.touches (call.changes parse out) (fun _ => True) (call.perform parse out) := by
  cases call with
  | isConnected => exact footprint_discard (footprint_isConnected ⟨rfl, rfl, id⟩)
  | connect =>
    apply footprint_discard
    apply footprint_connect ⟨rfl, rfl, fun _ => rfl⟩ _ rfl rfl rfl rfl
    intro c hc
    cases c <;> first | rfl | cases hc
  | disconnect =>
    apply footprint_discard
    apply footprint_disconnect _ rfl rfl rfl rfl rfl
    intro c
    cases c <;> rfl
  | callMethod => exact footprint_discard (footprint_emitSignal ⟨rfl, rfl, id⟩)
  | emitSignal => exact footprint_discard (footprint_emitSignal ⟨rfl, rfl, id⟩)
  | emitPropertyChanged path interface propertyName value =>
    exact footprint_discard (footprint_emitPropertyChanged ⟨rfl, rfl, id⟩ rfl id)
  | registerObject path xml data =>
    apply footprint_discard
    apply footprint_registerObject ⟨rfl, rfl, id⟩ rfl rfl
    intro interface interfaces hp
    have hs : (registerObject path xml data : ConnectionCall δ η π).setsObjects parse = true := by
      rw [setsObjects, hp]
      rfl
    exact ⟨hs, hs⟩
  | unregisterObject path =>
    exact footprint_discard (footprint_unregisterObject ⟨rfl, rfl, id⟩ rfl rfl rfl rfl)
  | addSignalWatch sender interface signalName path handler =>
    exact footprint_discard (footprint_addSignalWatch ⟨rfl, rfl, id⟩ ⟨rfl, rfl⟩ ⟨rfl, rfl⟩ ⟨rfl, rfl⟩)
  | removeSignalWatch watchId =>
    exact footprint_discard
      (footprint_removeSignalWatch ⟨rfl, rfl, id⟩ ⟨rfl, rfl⟩ ⟨rfl, rfl⟩ ⟨rfl, rfl⟩)
  | handleSignal signal => exact footprint_handleSignal rfl ⟨rfl, rfl⟩

/-- Every call takes the mutex once at most and gives it back. All but `disconnect` hold it
while they deal with the handlers. -/
theorem perform_within (parse : String → Option (List String)) (out : BusOutcome) {guarded : Prop}
    (call : ConnectionCall δ η π) (h : call = .disconnect → ¬ guarded) :
    Program.Within (handlersMonitor δ η π guarded) (fun held _ => held = none)
      (call.perform parse out) none := by
  have ha := handlersMonitor_aside δ η π guarded
  have hn : ¬ (handlersMonitor δ η π guarded).guards .subscriptions := fun hg => by cases hg.2
  have hspared (hs : call.setsConnection = false) (hu : call.usesHandlers = false) :
      Spared (handlersMonitor δ η π guarded) (call.perform parse out) :=
    spared_perform parse ha call hs hu
  cases call with
  | disconnect => exact spared_discard (spared_disconnect ha hn fun hg => h rfl hg.1) none
  | connect => exact spared_discard (spared_connect ha hn) none
  | isConnected => exact hspared rfl rfl none
  | callMethod => exact hspared rfl rfl none
  | emitSignal => exact hspared rfl rfl none
  | emitPropertyChanged => exact hspared rfl rfl none
  | registerObject path xml data => exact hspared rfl rfl none
  | unregisterObject path => exact hspared rfl rfl none
  | addSignalWatch sender interface signalName path handler =>
    apply within_connected ha
    apply within_withLock
    apply inside_bind (spared_get ha).inside
    intro connection
    apply inside_bind (inside_gdbus inside_access _)
    intro id
    exact inside_ite (inside_bind inside_access fun _ =>
      inside_bind inside_access fun _ => (spared_pure _).inside) (spared_pure _).inside
  | removeSignalWatch watchId =>
    apply within_connected ha
    apply within_withLock
    apply inside_bind inside_access
    intro found
    apply inside_ite (spared_pure _).inside
    exact inside_bind (inside_bind (spared_get ha).inside fun _ => inside_gdbus inside_access _)
      fun _ => inside_bind inside_access fun _ =>
        inside_bind inside_access fun _ => (spared_pure _).inside
  | handleSignal signal =>
    exact within_withLock (inside_bind inside_access fun _ => inside_access)

end ConnectionCall
end Ggk
