import BluetoothLE.DBus.Deliveries

namespace Ggk
open Lib ConnectionThread
set_option autoImplicit true

section Agreement
variable {δ : Type} {η : Type} {π : Type} {c c' : DBusConnection δ η}
variable {cells : (f : ConnectionField) → ConnectionCell δ η π f}

/-- The cells hold the connection. The record is left out. -/
structure Shows (cells : (f : ConnectionField) → ConnectionCell δ η π f)
    (c : DBusConnection δ η) : Prop where
  connection : cells .connection = (c.connection != .null)
  objects : cells .registeredObjects = c.registeredObjects
  handlers : cells .signalHandlers = c.signalHandlers
  closed : c.connection ≠ .null → cells .closed = (c.connection == .closed)
  exports : cells .exports = c.exports
  subscriptions : cells .subscriptions = c.subscriptions

theorem shows_cells (c : DBusConnection δ η) : Shows (c.cells (π := π)) c :=
  ⟨rfl, rfl, rfl, fun _ => rfl, rfl, rfl⟩

/-- Without interference the thread comes to `r`, does not end the process, and leaves the
connection as `c`. -/
def ActsAs (x : ConnectionThread δ η π α)
    (cells : (f : ConnectionField) → ConnectionCell δ η π f) (r : α)
    (c : DBusConnection δ η) : Prop :=
  (x.alone cells).result = r ∧ processEnded (x.alone cells).cells = processEnded cells ∧
    Shows (x.alone cells).cells c

theorem actsAs_pure (h : Shows cells c) : ActsAs (pure a : ConnectionThread δ η π α) cells a c :=
  ⟨rfl, rfl, h⟩

theorem actsAs_bind {x : ConnectionThread δ η π α} {k : α → ConnectionThread δ η π γ}
    (hx : ActsAs x cells a c) (hk : ∀ cells', Shows cells' c → ActsAs (k a) cells' r c') :
    ActsAs (x >>= k) cells r c' := by
  obtain ⟨rfl, he, hs⟩ := hx
  have hbind := Program.alone_bind x k cells
  have hcells : ((x >>= k).alone cells).cells = _ := congrArg Program.Ending.cells hbind
  obtain ⟨hr, he', hs'⟩ := hk _ hs
  refine ⟨(congrArg Program.Ending.result hbind).trans hr, ?_, ?_⟩
  · rw [hcells]
    exact he'.trans he
  · rw [hcells]
    exact hs'

theorem actsAs_discard {x : ConnectionThread δ η π α} (hx : ActsAs x cells a c) :
    ActsAs (discard x) cells () c := actsAs_bind hx fun _ h => actsAs_pure h

theorem actsAs_withLock {x : ConnectionThread δ η π α} (hx : ActsAs x cells a c) :
    ActsAs (withLock x) cells a c := by
  have hlocked := Program.alone_locked .mutex x cells
  have hcells : ((withLock x).alone cells).cells = _ := congrArg Program.Ending.cells hlocked
  refine ⟨(congrArg Program.Ending.result hlocked).trans hx.1, ?_, ?_⟩
  · rw [hcells]
    exact hx.2.1
  · rw [hcells]
    exact hx.2.2

theorem actsAs_get (h : Shows cells c) :
    ActsAs (get : ConnectionThread δ η π Bool) cells (c.connection != .null) c :=
  ⟨h.connection, rfl, h⟩

theorem actsAs_objects (h : Shows cells c) (r : Std.TreeMap String Nat → α) :
    ActsAs (objects r : ConnectionThread δ η π α) cells (r c.registeredObjects) c :=
  ⟨congrArg r h.objects, rfl, h⟩

theorem actsAs_handlers (h : Shows cells c) (r : Std.TreeMap Nat η → α) :
    ActsAs (handlers r : ConnectionThread δ η π α) cells (r c.signalHandlers) c :=
  ⟨congrArg r h.handlers, rfl, h⟩

theorem actsAs_loadHandlers (h : Shows cells c) (r : Std.TreeMap Nat η → α) :
    ActsAs (loadHandlers r : ConnectionThread δ η π α) cells (r c.signalHandlers) c :=
  ⟨congrArg r h.handlers, rfl, h.connection, h.objects, h.handlers, h.closed, h.exports,
    h.subscriptions⟩

theorem actsAs_setObjects (h : Shows cells c)
    (f : Std.TreeMap String Nat → Std.TreeMap String Nat) :
    ActsAs (setObjects f : ConnectionThread δ η π Unit) cells ()
      { c with registeredObjects := f c.registeredObjects } :=
  ⟨rfl, rfl, h.connection, congrArg f h.objects, h.handlers, h.closed, h.exports,
    h.subscriptions⟩

theorem actsAs_setHandlers (h : Shows cells c) (f : Std.TreeMap Nat η → Std.TreeMap Nat η) :
    ActsAs (setHandlers f : ConnectionThread δ η π Unit) cells ()
      { c with signalHandlers := f c.signalHandlers } :=
  ⟨rfl, rfl, h.connection, h.objects, congrArg f h.handlers, h.closed, h.exports,
    h.subscriptions⟩

theorem actsAs_exports (h : Shows cells c) (f : IdTable (Export δ) → IdTable (Export δ))
    (r : IdTable (Export δ) → α) :
    ActsAs (access .exports f r : ConnectionThread δ η π α) cells (r c.exports)
      { c with exports := f c.exports } :=
  ⟨congrArg r h.exports, rfl, h.connection, h.objects, h.handlers, h.closed, congrArg f h.exports,
    h.subscriptions⟩

theorem actsAs_subscriptions (h : Shows cells c) (f : IdTable SignalFilter → IdTable SignalFilter)
    (r : IdTable SignalFilter → α) :
    ActsAs (access .subscriptions f r : ConnectionThread δ η π α) cells (r c.subscriptions)
      { c with subscriptions := f c.subscriptions } :=
  ⟨congrArg r h.subscriptions, rfl, h.connection, h.objects, h.handlers, h.closed, h.exports,
    congrArg f h.subscriptions⟩

theorem actsAs_record (h : Shows cells c) (event : WatchEvent η π) :
    ActsAs (record event : ConnectionThread δ η π Unit) cells () c :=
  ⟨rfl, rfl, h.connection, h.objects, h.handlers, h.closed, h.exports, h.subscriptions⟩

variable {out : BusOutcome}

theorem actsAs_isConnected (h : Shows cells c) (ho : out.closed = false) :
    ActsAs (isConnected out : ConnectionThread δ η π Bool) cells c.isConnected c := by
  apply And.intro
  · have hp := h.connection
    have hd := h.closed
    rw [DBusConnection.isConnected]
    cases hc : c.connection with
    | null =>
      rw [hc] at hp
      exact isConnected_null hp
    | opened =>
      rw [hc] at hp hd
      exact isConnected_opened hp (hd (by simp)) ho
    | closed =>
      rw [hc] at hp hd
      exact isConnected_closed hp (hd (by simp))
  · rw [isConnected_cells ho]
    exact ⟨rfl, h⟩

/-- A call that goes on only with an open connection. -/
theorem actsAs_connected {x : ConnectionThread δ η π α} (h : Shows cells c)
    (ho : out.closed = false) (hx : ∀ cells', Shows cells' c → c.connection = .opened →
      ActsAs x cells' r c') (hn : c.isConnected = false → refusal = r ∧ c = c') :
    ActsAs (isConnected out >>= fun connected => if !connected then pure refusal else x) cells r
      c' := by
  apply actsAs_bind (actsAs_isConnected h ho)
  intro cells' h'
  cases hc : c.isConnected with
  | false =>
    obtain ⟨rfl, rfl⟩ := hn hc
    exact actsAs_pure h'
  | true => exact hx cells' h' (DBusConnection.isConnected_iff.1 hc)

theorem actsAs_each {f : Nat → ConnectionThread δ η π Unit}
    {g : DBusConnection δ η → Nat → DBusConnection δ η} (P : DBusConnection δ η → Prop)
    (hf : ∀ c id cells, P c → Shows cells c → ActsAs (f id) cells () (g c id) ∧ P (g c id))
    (ids : List Nat) (hp : P c) (h : Shows cells c) :
    ActsAs (.each (ids.map f)) cells () (ids.foldl g c) := by
  induction ids generalizing c cells with
  | nil => exact actsAs_pure h
  | cons id ids ih =>
    obtain ⟨hone, hrest⟩ := hf c id cells hp h
    exact actsAs_bind (k := fun _ => Program.each (ids.map f)) hone fun _ h' => ih hrest h'

theorem actsAs_connect (h : Shows cells c) (ho : out.closed = false) :
    ActsAs (connect out : ConnectionThread δ η π Bool) cells (c.connect out.accepted).1
      (c.connect out.accepted).2 := by
  apply actsAs_bind (actsAs_isConnected h ho)
  intro cells' h'
  rw [DBusConnection.connect]
  cases c.isConnected with
  | true => exact actsAs_pure h'
  | false =>
    cases out.accepted with
    | false => exact actsAs_pure h'
    | true =>
      exact ⟨rfl, rfl, rfl, h'.objects, h'.handlers, fun _ => rfl,
        congrArg IdTable.clear h'.exports, congrArg IdTable.clear h'.subscriptions⟩

theorem actsAs_gdbus {x : ConnectionThread δ η π α} (hc : c.connection = .opened)
    (hx : ActsAs x cells r c') :
    ActsAs (gdbus (c.connection != .null) x refusal) cells r c' := by
  rw [hc]
  exact hx

theorem actsAs_unregister (h : Shows cells c) (id : Nat) (hc : c.connection ≠ .null) :
    ActsAs (unregister id : ConnectionThread δ η π Unit) cells ()
      { c with exports := c.exports.erase id } := by
  apply actsAs_bind (actsAs_get h)
  intro cells' h'
  rw [bne_iff_ne.2 hc]
  exact actsAs_exports h' (fun t => t.erase id) fun _ => ()

theorem actsAs_unsubscribe (h : Shows cells c) (id : Nat) (hc : c.connection ≠ .null) :
    ActsAs (unsubscribe id : ConnectionThread δ η π Unit) cells ()
      { c with subscriptions := c.subscriptions.erase id } := by
  apply actsAs_bind (actsAs_get h)
  intro cells' h'
  rw [bne_iff_ne.2 hc]
  exact actsAs_subscriptions h' (fun t => t.erase id) fun _ => ()

theorem actsAs_registerInterfaces {path : DBusObjectPath} {data : δ} (interfaces : List String)
    (refuses : List Bool) (id : Nat) (h : Shows cells c) (hc : c.connection = .opened) :
    ActsAs (registerInterfaces path data interfaces refuses id : ConnectionThread δ η π Nat) cells
      (DBusConnection.registerInterfaces path data interfaces refuses id c.exports).1
      { c with
        exports :=
          (DBusConnection.registerInterfaces path data interfaces refuses id c.exports).2 } := by
  induction interfaces generalizing refuses id cells c with
  | nil => exact actsAs_pure h
  | cons interface interfaces ih =>
    apply actsAs_bind (actsAs_get h)
    intro cells₁ h₁
    apply actsAs_bind (actsAs_gdbus hc (actsAs_exports h₁ _ _))
    intro cells₂ h₂
    exact ih refuses.tail _ h₂ hc

variable {parse : String → Option (List String)}

theorem actsAs_registerObject (h : Shows cells c) (ho : out.closed = false)
    (path : DBusObjectPath) (xml : String) (data : δ) :
    let registered := c.registerObject parse out.refuses path xml data
    ActsAs (registerObject parse out path xml data : ConnectionThread δ η π Bool) cells
      registered.1 registered.2 := by
  intro registered
  apply actsAs_connected h ho _ fun hn => by simp [registered, DBusConnection.registerObject, hn]
  intro cells₁ h₁ hc
  apply actsAs_bind (actsAs_objects h₁ _)
  intro cells₂ h₂
  have hconnected := DBusConnection.isConnected_iff.2 hc
  simp only [registered, DBusConnection.registerObject, hconnected, Bool.not_true,
    Bool.false_eq_true, if_false]
  cases c.registeredObjects.contains path.toString with
  | true => exact actsAs_pure h₂
  | false =>
    cases parse xml with
    | none => exact actsAs_pure h₂
    | some interfaces =>
      simp only [Bool.false_eq_true, if_false]
      apply actsAs_bind (actsAs_registerInterfaces interfaces out.refuses 0 h₂ hc)
      intro cells₃ h₃
      split_ifs
      · exact actsAs_pure h₃
      · exact actsAs_bind (actsAs_setObjects h₃ _) fun _ h₄ => actsAs_pure h₄

theorem actsAs_unregisterObject (h : Shows cells c) (ho : out.closed = false)
    (path : DBusObjectPath) :
    ActsAs (unregisterObject out path : ConnectionThread δ η π Bool) cells
      (c.unregisterObject path).1 (c.unregisterObject path).2 := by
  apply actsAs_connected h ho _ fun hn => by simp [DBusConnection.unregisterObject, hn]
  intro cells₁ h₁ hc
  apply actsAs_bind (actsAs_objects h₁ _)
  intro cells₂ h₂
  have hconnected := DBusConnection.isConnected_iff.2 hc
  simp only [DBusConnection.unregisterObject, hconnected, Bool.not_true, Bool.false_eq_true,
    if_false]
  cases c.registeredObjects[path.toString]? with
  | none => exact actsAs_pure h₂
  | some id =>
    apply actsAs_bind (actsAs_get h₂)
    intro cells₃ h₃
    apply actsAs_bind (actsAs_gdbus hc (actsAs_exports h₃ _ _))
    intro cells₄ h₄
    dsimp only
    cases hx : (GDBus.unregisterObject id c.exports).1 with
    | true => exact actsAs_bind (actsAs_setObjects h₄ _) fun _ h₅ => actsAs_pure h₅
    | false =>
      have hsame : (GDBus.unregisterObject id c.exports).2 = c.exports := by
        rw [GDBus.unregisterObject] at hx ⊢
        split_ifs at hx ⊢
        rfl
      rw [hsame] at h₄
      exact actsAs_pure h₄

theorem actsAs_addSignalWatch (h : Shows cells c) (ho : out.closed = false)
    (sender interface signalName : String) (path : DBusObjectPath) (handler : η) :
    let added := c.addSignalWatch (!out.accepted) sender interface signalName path handler
    ActsAs (addSignalWatch out sender interface signalName path handler :
      ConnectionThread δ η π Nat) cells added.1 added.2 := by
  intro added
  apply actsAs_connected h ho _ fun hn => by simp [added, DBusConnection.addSignalWatch, hn]
  intro cells₁ h₁ hc
  apply actsAs_withLock
  apply actsAs_bind (actsAs_get h₁)
  intro cells₂ h₂
  have hconnected := DBusConnection.isConnected_iff.2 hc
  simp only [added, DBusConnection.addSignalWatch, hconnected, Bool.not_true, Bool.false_eq_true,
    if_false]
  cases ha : out.accepted with
  | false =>
    have hnone : (subscribe out (c.connection != .null)
        (DBusConnection.signalFilter sender interface signalName path) :
          ConnectionThread δ η π Nat) = pure 0 := by
      rw [subscribe, hc, ha]
      rfl
    rw [hnone]
    exact actsAs_bind (actsAs_pure h₂) fun _ h₃ => actsAs_pure h₃
  | true =>
    have hsome : (subscribe out (c.connection != .null)
        (DBusConnection.signalFilter sender interface signalName path) :
          ConnectionThread δ η π Nat) = access .subscriptions
            (fun (t : IdTable SignalFilter) => t.insert
              (DBusConnection.signalFilter sender interface signalName path))
            fun (t : IdTable SignalFilter) => t.last + 1 := by
      rw [subscribe, hc, ha]
      rfl
    rw [hsome]
    apply actsAs_bind (actsAs_subscriptions h₂ _ _)
    intro cells₃ h₃
    exact actsAs_bind (actsAs_setHandlers h₃ _) fun _ h₄ =>
      actsAs_bind (actsAs_record h₄ _) fun _ h₅ => actsAs_pure h₅

theorem actsAs_removeSignalWatch (h : Shows cells c) (ho : out.closed = false) (watchId : Nat) :
    ActsAs (removeSignalWatch out watchId : ConnectionThread δ η π Bool) cells
      (c.removeSignalWatch watchId).1 (c.removeSignalWatch watchId).2 := by
  apply actsAs_bind (actsAs_isConnected h ho)
  intro cells₁ h₁
  rw [DBusConnection.removeSignalWatch]
  cases hg : !c.isConnected || watchId == 0 with
  | true => exact actsAs_pure h₁
  | false =>
    have hc : c.connection = .opened := by
      rw [Bool.or_eq_false_iff, Bool.not_eq_false'] at hg
      exact DBusConnection.isConnected_iff.1 hg.1
    apply actsAs_withLock
    apply actsAs_bind (actsAs_loadHandlers h₁ _)
    intro cells₂ h₂
    cases c.signalHandlers.contains watchId with
    | false => exact actsAs_pure h₂
    | true =>
      apply actsAs_bind (actsAs_unsubscribe h₂ watchId (by simp [hc]))
      intro cells₃ h₃
      exact actsAs_bind (actsAs_setHandlers h₃ _) fun _ h₄ =>
        actsAs_bind (actsAs_record h₄ _) fun _ h₅ => actsAs_pure h₅

theorem actsAs_handleSignal (h : Shows cells c) (signal : IncomingSignal π) :
    ActsAs (handleSignal signal : ConnectionThread δ η π Unit) cells () c := by
  apply actsAs_withLock
  exact actsAs_bind (actsAs_loadHandlers h _) fun _ h₁ => actsAs_record h₁ _

theorem isEmpty_of_none {κ : Type} [Ord κ] [Std.TransOrd κ] {m : Std.TreeMap κ α}
    (h : ∀ key : κ, m[key]? = none) : m.isEmpty = true := by
  rw [Std.TreeMap.isEmpty_iff_forall_contains]
  intro key
  rw [Std.TreeMap.contains_eq_isSome_getElem?, h]
  rfl

theorem values_nil {m : Std.TreeMap String Nat} (h : ∀ path : String, m[path]? = none) :
    m.values = [] :=
  (Std.TreeMap.equiv_empty_iff_isEmpty.2 (isEmpty_of_none h)).values_eq

theorem keys_nil {m : Std.TreeMap Nat η} (h : ∀ id : Nat, m[id]? = none) : m.keys = [] :=
  (Std.TreeMap.equiv_empty_iff_isEmpty.2 (isEmpty_of_none h)).keys_eq

theorem foldl_exports (ids : List Nat) : ids.foldl
    (fun (c : DBusConnection δ η) id => { c with exports := c.exports.erase id }) c =
      { c with exports := ids.foldl IdTable.erase c.exports } := by
  induction ids generalizing c with
  | nil => rfl
  | cons id ids ih => exact ih

theorem foldl_subscriptions (ids : List Nat) : ids.foldl
    (fun (c : DBusConnection δ η) id => { c with subscriptions := c.subscriptions.erase id }) c =
      { c with subscriptions := ids.foldl IdTable.erase c.subscriptions } := by
  induction ids generalizing c with
  | nil => rfl
  | cons id ids ih => exact ih

theorem actsAs_unregisterAll (h : Shows cells c) (hn : c.connection = .null → c.NothingStored) :
    ActsAs (unregisterAll : ConnectionThread δ η π Unit) cells ()
      { c with exports := c.registeredObjects.values.foldl IdTable.erase c.exports } := by
  apply actsAs_bind (actsAs_objects h _)
  intro cells₁ h₁
  rw [← foldl_exports]
  by_cases hc : c.connection = .null
  · rw [values_nil (hn hc).1]
    exact actsAs_pure h₁
  · apply actsAs_each (fun c => c.connection ≠ .null) _ _ hc h₁
    exact fun c id cells hc h => ⟨actsAs_unregister h id hc, hc⟩

theorem actsAs_unsubscribeAll (h : Shows cells c) (hn : c.connection = .null → c.NothingStored) :
    ActsAs (unsubscribeAll : ConnectionThread δ η π Unit) cells ()
      { c with subscriptions := c.signalHandlers.keys.foldl IdTable.erase c.subscriptions } := by
  apply actsAs_bind (actsAs_handlers h _)
  intro cells₁ h₁
  rw [← foldl_subscriptions]
  by_cases hc : c.connection = .null
  · rw [keys_nil (hn hc).2]
    exact actsAs_pure h₁
  · apply actsAs_each (fun c => c.connection ≠ .null) _ _ hc h₁
    exact fun c id cells hc h => ⟨actsAs_unsubscribe h id hc, hc⟩

theorem actsAs_reset (h : Shows cells c) :
    ActsAs (reset : ConnectionThread δ η π Unit) cells () { c with connection := .null } := by
  apply actsAs_bind (actsAs_get h)
  intro cells' h'
  cases hc : c.connection != .null with
  | true =>
    exact ⟨rfl, rfl, rfl, h'.objects, h'.handlers, fun hn => absurd rfl hn, h'.exports,
      h'.subscriptions⟩
  | false =>
    exact ⟨rfl, rfl, h'.connection.trans hc, h'.objects, h'.handlers, fun hn => absurd rfl hn,
      h'.exports, h'.subscriptions⟩

theorem actsAs_disconnect (h : Shows cells c) (hn : c.connection = .null → c.NothingStored) :
    ActsAs (disconnect : ConnectionThread δ η π Bool) cells c.disconnect.1 c.disconnect.2 := by
  have hobjects : ActsAs (clearObjects : ConnectionThread δ η π Unit) cells ()
      { c with
        exports := c.registeredObjects.values.foldl IdTable.erase c.exports
        registeredObjects := ∅ } :=
    actsAs_bind (actsAs_unregisterAll h hn) fun _ h₁ => actsAs_setObjects h₁ fun _ => ∅
  apply actsAs_bind hobjects
  intro cells₁ h₁
  have hhandlers : ActsAs (clearHandlers : ConnectionThread δ η π Unit) cells₁ ()
      { c with
        exports := c.registeredObjects.values.foldl IdTable.erase c.exports
        registeredObjects := ∅
        subscriptions := c.signalHandlers.keys.foldl IdTable.erase c.subscriptions
        signalHandlers := ∅ } :=
    actsAs_bind (actsAs_unsubscribeAll h₁ fun hc => ⟨by simp, (hn hc).2⟩) fun _ h₂ =>
      actsAs_setHandlers h₂ fun _ => ∅
  apply actsAs_bind hhandlers
  intro cells₂ h₂
  exact actsAs_bind (actsAs_reset h₂) fun _ h₃ => actsAs_pure h₃

/-- What the call makes of the connection when no other thread gets in between. There is nothing
where GLib ends the process. -/
def ConnectionCall.after (parse : String → Option (List String)) (out : BusOutcome)
    (c : DBusConnection δ η) : ConnectionCall δ η π → Option (DBusConnection δ η)
  | .connect => some (c.connect out.accepted).2
  | .disconnect => some c.disconnect.2
  | .emitPropertyChanged path interface propertyName value =>
    (c.emitPropertyChanged out.goesOn out.accepted path interface propertyName value).map fun _ => c
  | .registerObject path xml data => some (c.registerObject parse out.refuses path xml data).2
  | .unregisterObject path => some (c.unregisterObject path).2
  | .addSignalWatch sender interface signalName path handler =>
    some (c.addSignalWatch (!out.accepted) sender interface signalName path handler).2
  | .removeSignalWatch watchId => some (c.removeSignalWatch watchId).2
  | .isConnected | .callMethod | .emitSignal | .handleSignal _ => some c

theorem ConnectionCall.after_eq_none {call : ConnectionCall δ η π}
    (h : call.after parse out c = none) : ∃ path interface propertyName value,
      call = .emitPropertyChanged path interface propertyName value ∧
        c.endsProcess out.goesOn = true := by
  cases call with
  | emitPropertyChanged path interface propertyName value =>
    exact ⟨path, interface, propertyName, value, rfl,
      DBusConnection.emitPropertyChanged_eq_none_iff.1 (Option.map_eq_none_iff.1 h)⟩
  | _ => cases h

theorem actsAs_emitSignal (h : Shows cells c) (ho : out.closed = false) :
    ActsAs (emitSignal out : ConnectionThread δ η π Bool) cells (c.isConnected && out.accepted)
      c := by
  apply actsAs_connected h ho _ fun hn => by simp [hn]
  intro cells₁ h₁ hc
  apply actsAs_bind (actsAs_get h₁)
  intro cells₂ h₂
  apply actsAs_gdbus hc
  rw [DBusConnection.isConnected_iff.2 hc]
  exact actsAs_pure h₂

/-- Where the sequential function has a result, the thread comes to the same one. -/
theorem actsAs_emitPropertyChanged (h : Shows cells c) (ho : out.closed = false)
    (he : c.emitPropertyChanged out.goesOn out.accepted path interface propertyName value =
      some emitted) :
    ActsAs (emitPropertyChanged out interface propertyName value : ConnectionThread δ η π Bool)
      cells emitted.1 c := by
  rw [DBusConnection.emitPropertyChanged] at he
  apply actsAs_connected h ho
  · intro cells₁ h₁ hc
    have hconnected := DBusConnection.isConnected_iff.2 hc
    simp only [hconnected, Bool.not_true, Bool.false_eq_true, if_false] at he
    dsimp only
    split_ifs at he ⊢ with hends
    cases he
    have hsent := actsAs_emitSignal (π := π) h₁ ho
    simpa [DBusConnection.emitSignal, hconnected] using hsent
  · intro hn
    simp only [hn, Bool.not_false, if_true] at he
    cases he
    exact ⟨rfl, rfl⟩

theorem actsAs_perform (parse : String → Option (List String))
    (call : ConnectionCall δ η π) (h : Shows cells c)
    (hn : c.connection = .null → c.NothingStored) (ho : out.closed = false)
    (hc : call.after parse out c = some c') :
    ActsAs (call.perform parse out) cells () c' := by
  cases call with
  | emitPropertyChanged path interface propertyName value =>
    obtain ⟨emitted, he, rfl⟩ := Option.map_eq_some_iff.1 hc
    exact actsAs_discard (actsAs_emitPropertyChanged h ho he)
  | isConnected =>
    cases hc
    exact actsAs_discard (actsAs_isConnected h ho)
  | connect =>
    cases hc
    exact actsAs_discard (actsAs_connect h ho)
  | disconnect =>
    cases hc
    exact actsAs_discard (actsAs_disconnect h hn)
  | callMethod =>
    cases hc
    exact actsAs_discard (actsAs_emitSignal h ho)
  | emitSignal =>
    cases hc
    exact actsAs_discard (actsAs_emitSignal h ho)
  | registerObject path xml data =>
    cases hc
    exact actsAs_discard (actsAs_registerObject h ho path xml data)
  | unregisterObject path =>
    cases hc
    exact actsAs_discard (actsAs_unregisterObject h ho path)
  | addSignalWatch sender interface signalName path handler =>
    cases hc
    exact actsAs_discard (actsAs_addSignalWatch h ho sender interface signalName path handler)
  | removeSignalWatch watchId =>
    cases hc
    exact actsAs_discard (actsAs_removeSignalWatch h ho watchId)
  | handleSignal signal =>
    cases hc
    exact actsAs_handleSignal h signal

theorem registerObject_connection (refuses : List Bool) (path : DBusObjectPath) (xml : String)
    (data : δ) : (c.registerObject parse refuses path xml data).2.connection = c.connection := by
  rw [DBusConnection.registerObject]
  split_ifs
  · rfl
  · rfl
  · cases parse xml with
    | none => rfl
    | some interfaces =>
      dsimp only
      split_ifs <;> rfl

theorem unregisterObject_connection (path : DBusObjectPath) :
    (c.unregisterObject path).2.connection = c.connection := by
  rw [DBusConnection.unregisterObject]
  split_ifs
  · rfl
  · cases c.registeredObjects[path.toString]? with
    | none => rfl
    | some id =>
      dsimp only
      split_ifs <;> rfl

theorem addSignalWatch_connection (refused : Bool) (sender interface signalName : String)
    (path : DBusObjectPath) (handler : η) :
    (c.addSignalWatch refused sender interface signalName path handler).2.connection =
      c.connection := by
  rw [DBusConnection.addSignalWatch]
  split_ifs <;> rfl

theorem removeSignalWatch_connection (watchId : Nat) :
    (c.removeSignalWatch watchId).2.connection = c.connection := by
  rw [DBusConnection.removeSignalWatch]
  split_ifs <;> rfl

theorem after_cleared (call : ConnectionCall δ η π) (hn : c.connection = .null → c.NothingStored)
    (hc : call.after parse out c = some c') : c'.connection = .null → c'.NothingStored := by
  have hkept {c' : DBusConnection δ η} (hsame : c.isConnected = false → c' = c)
      (h : c'.connection = c.connection) : c'.connection = .null → c'.NothingStored := by
    cases hi : c.isConnected with
    | false =>
      rw [hsame hi]
      exact hn
    | true =>
      intro hn'
      rw [h, DBusConnection.isConnected_iff.1 hi] at hn'
      cases hn'
  cases call with
  | emitPropertyChanged =>
    obtain ⟨_, _, rfl⟩ := Option.map_eq_some_iff.1 hc
    exact hn
  | connect =>
    cases hc
    rw [DBusConnection.connect]
    cases c.isConnected with
    | true => exact hn
    | false =>
      cases out.accepted with
      | false => exact hn
      | true => exact fun h => by cases h
  | disconnect =>
    cases hc
    exact fun _ => by simp [DBusConnection.disconnect, DBusConnection.NothingStored]
  | registerObject =>
    cases hc
    exact hkept (fun hi => by simp [DBusConnection.registerObject, hi])
      (registerObject_connection _ _ _ _)
  | unregisterObject =>
    cases hc
    exact hkept (fun hi => by simp [DBusConnection.unregisterObject, hi])
      (unregisterObject_connection _)
  | addSignalWatch =>
    cases hc
    exact hkept (fun hi => by simp [DBusConnection.addSignalWatch, hi])
      (addSignalWatch_connection _ _ _ _ _ _)
  | removeSignalWatch =>
    cases hc
    exact hkept (fun hi => by simp [DBusConnection.removeSignalWatch, hi])
      (removeSignalWatch_connection _)
  | _ =>
    cases hc
    exact hn

end Agreement

section Runs
variable {δ : Type} {η : Type} {π : Type} {θ : Type} [DecidableEq θ]
variable {parse : String → Option (List String)} {c : DBusConnection δ η}
variable {performed : θ → List (ConnectionCall δ η π × BusOutcome)}
variable {s : Program.Shared θ ConnectionField (ConnectionCell δ η π) Unit}

/-- Calls one after another, and whether one of them ends the process. -/
def ConnectionCall.afterAll (parse : String → Option (List String)) (c : DBusConnection δ η) :
    List (ConnectionCall δ η π × BusOutcome) → DBusConnection δ η × Bool
  | [] => (c, false)
  | call :: calls =>
    match call.1.after parse call.2 c with
    | none => (c, true)
    | some c' => afterAll parse c' calls

theorem ConnectionCall.afterAll_append (parse : String → Option (List String))
    (c : DBusConnection δ η) (calls calls' : List (ConnectionCall δ η π × BusOutcome)) :
    afterAll parse c (calls ++ calls') =
      if (afterAll parse c calls).2 then afterAll parse c calls
      else afterAll parse (afterAll parse c calls).1 calls' := by
  induction calls generalizing c with
  | nil => rfl
  | cons call calls ih =>
    rw [List.cons_append, afterAll, afterAll]
    cases call.1.after parse call.2 c with
    | none => rfl
    | some c' => exact ih c'

/-- The threads have what is left of their calls before them, and the process is there. -/
structure Turn (s : Program.Shared θ ConnectionField (ConnectionCell δ η π) Unit)
    (c : DBusConnection δ η) : Prop where
  idle : s.Idle
  shows : Shows s.cells c
  alive : processEnded s.cells = false
  cleared : c.connection = .null → c.NothingStored
  lasts : ∀ u, (s.todo u).Uses (fun _ => True) (Program.Lasts processEnded) fun _ => True

/-- The announcement that the process does not outlive. -/
theorem Turn.aborts (h : Turn s c) (hc : c.endsProcess out.goesOn = true)
    (ho : out.closed = false) {path : DBusObjectPath} {interface propertyName : String}
    {value : Variant} (ht : s.todo t = (ConnectionCall.perform parse out
      (.emitPropertyChanged path interface propertyName value)).bind k) :
    ∃ s', Program.LiveRuns processEnded s s' ∧ Shows s'.cells c ∧
      processEnded s'.cells = true := by
  obtain ⟨hconnected, hends⟩ := Bool.and_eq_true_iff.1 hc
  have hopen := DBusConnection.isConnected_iff.1 hconnected
  have hpointer : s.cells .connection = true := by rw [h.shows.connection, hopen]; rfl
  have hclosed : s.cells .closed = false := by rw [h.shows.closed (by simp [hopen]), hopen]; rfl
  obtain ⟨s₁, hr, -, ht₁, hcells, -⟩ := runs_connected h.idle ht hpointer hclosed ho
  simp only [DBusConnection.newParameters_undetermined, hends, Option.isNone_none, Bool.and_true,
    if_true] at ht₁
  have halive : processEnded s₁.cells = false := hcells ▸ h.alive
  have hlive := hr.live (P := fun _ _ => True) h.lasts halive
  refine ⟨_, hlive.tail ⟨t, halive, .access ht₁⟩, ?_, rfl⟩
  have hs := h.shows
  rw [← hcells] at hs
  exact ⟨hs.connection, hs.objects, hs.handlers, hs.closed, hs.exports, hs.subscriptions⟩

/-- A call that has a result. -/
theorem Turn.performs {call : ConnectionCall δ η π} {out : BusOutcome}
    {k : Unit → ConnectionThread δ η π Unit} (h : Turn s c) (hc : call.after parse out c = some c')
    (ho : out.closed = false) (ht : s.todo t = (call.perform parse out).bind k) :
    ∃ s', Program.LiveRuns processEnded s s' ∧ Turn s' c' ∧ s'.todo t = k () ∧
      ∀ u, u ≠ t → s'.todo u = s.todo u := by
  have hw : Program.Within (handlersMonitor δ η π False) (fun held _ => held = none)
      (call.perform parse out) none := call.perform_within parse out fun _ h => h
  obtain ⟨s', hr, hi, ht', hcells, hu⟩ :=
    Program.alone_runs (handlersMonitor_bare δ η π) h.idle ht hw
  obtain ⟨-, he, hs⟩ := actsAs_perform parse call h.shows h.cleared ho hc
  rw [← hcells] at he hs
  have halive := he.trans h.alive
  exact ⟨s', hr.live (P := fun _ _ => True) h.lasts halive,
    ⟨hi, hs, halive, after_cleared call h.cleared hc, Program.Uses.run h.lasts hr⟩, ht', hu⟩

/-- One thread makes all its calls. -/
theorem Turn.calls {calls : List (ConnectionCall δ η π × BusOutcome)} (h : Turn s c)
    (ht : s.todo t = .each (calls.map fun call => call.1.perform parse call.2))
    (ho : ∀ call ∈ calls, call.2.closed = false) :
    ∃ s', Program.LiveRuns processEnded s s' ∧
      Shows s'.cells (ConnectionCall.afterAll parse c calls).1 ∧
      processEnded s'.cells = (ConnectionCall.afterAll parse c calls).2 ∧
      ((ConnectionCall.afterAll parse c calls).2 = false →
        Turn s' (ConnectionCall.afterAll parse c calls).1 ∧ s'.todo t = .done () ∧
          ∀ u, u ≠ t → s'.todo u = s.todo u) := by
  induction calls generalizing s c with
  | nil => exact ⟨s, .refl, h.shows, h.alive, fun _ => ⟨h, ht, fun _ _ => rfl⟩⟩
  | cons call calls ih =>
    obtain ⟨hone, hrest⟩ := List.forall_mem_cons.1 ho
    rw [ConnectionCall.afterAll]
    cases hc : call.1.after parse call.2 c with
    | none =>
      obtain ⟨path, interface, propertyName, value, hcall, hends⟩ := ConnectionCall.after_eq_none hc
      rw [List.map_cons, hcall] at ht
      obtain ⟨s', hr, hs, he⟩ := h.aborts hends hone ht
      exact ⟨s', hr, hs, he, nofun⟩
    | some c' =>
      obtain ⟨s₁, hr₁, h₁, ht₁, hu₁⟩ := h.performs hc hone ht
      obtain ⟨s₂, hr₂, hs₂, he₂, hdone₂⟩ := ih h₁ ht₁ hrest
      refine ⟨s₂, hr₁.trans hr₂, hs₂, he₂, fun hlive => ?_⟩
      obtain ⟨h₂, ht₂, hu₂⟩ := hdone₂ hlive
      exact ⟨h₂, ht₂, fun u hu => (hu₂ u hu).trans (hu₁ u hu)⟩

theorem Turn.turns (order : List θ) (hnodup : order.Nodup) (h : Turn s c)
    (ht : ∀ t ∈ order, s.todo t = ConnectionCall.program parse performed t)
    (ho : ∀ t ∈ order, ∀ call ∈ performed t, call.2.closed = false) :
    ∃ s', Program.LiveRuns processEnded s s' ∧
      Shows s'.cells (ConnectionCall.afterAll parse c (order.flatMap performed)).1 ∧
      processEnded s'.cells = (ConnectionCall.afterAll parse c (order.flatMap performed)).2 ∧
      ((ConnectionCall.afterAll parse c (order.flatMap performed)).2 = false →
        (∀ t ∉ order, s'.todo t = s.todo t) ∧ ∀ t ∈ order, s'.todo t = .done ()) := by
  induction order generalizing s c with
  | nil => exact ⟨s, .refl, h.shows, h.alive, fun _ => ⟨fun _ _ => rfl, List.forall_mem_nil _⟩⟩
  | cons t order ih =>
    obtain ⟨hnot, hnodup⟩ := List.nodup_cons.1 hnodup
    obtain ⟨ht, hrest⟩ := List.forall_mem_cons.1 ht
    obtain ⟨hot, horest⟩ := List.forall_mem_cons.1 ho
    obtain ⟨s₁, hr₁, hs₁, he₁, hdone₁⟩ := h.calls ht hot
    rw [List.flatMap_cons, ConnectionCall.afterAll_append]
    cases hends : (ConnectionCall.afterAll parse c (performed t)).2 with
    | true =>
      rw [if_pos rfl]
      refine ⟨s₁, hr₁, hs₁, he₁, fun hlive => ?_⟩
      rw [hends] at hlive
      cases hlive
    | false =>
      obtain ⟨h₁, ht₁, hu₁⟩ := hdone₁ hends
      have hrest₁ u (hu : u ∈ order) : s₁.todo u = ConnectionCall.program parse performed u :=
        (hu₁ u fun he => hnot (he ▸ hu)).trans (hrest u hu)
      obtain ⟨s₂, hr₂, hs₂, he₂, hdone₂⟩ := ih hnodup h₁ hrest₁ horest
      refine ⟨s₂, hr₁.trans hr₂, hs₂, he₂, fun hlive => ?_⟩
      obtain ⟨hkept₂, hdone₂⟩ := hdone₂ hlive
      apply And.intro
      · intro u hu
        obtain ⟨hne, hu⟩ := not_or.1 (mt List.mem_cons.2 hu)
        exact (hkept₂ u hu).trans (hu₁ u hne)
      · exact List.forall_mem_cons.2 ⟨(hkept₂ t hnot).trans ht₁, hdone₂⟩

/-- Among the runs of the threads are those in which they take their turns one after another,
in any order. These do to the connection what the calls do without threads, and end the process
where these do. -/
theorem serial_connection_runs (order : List θ) (hnodup : order.Nodup)
    (hn : c.connection = .null → c.NothingStored)
    (ho : ∀ t ∈ order, ∀ call ∈ performed t, call.2.closed = false) :
    ∃ s, Program.LiveRuns processEnded
        (Program.start c.cells (ConnectionCall.program parse performed)) s ∧
      Shows s.cells (ConnectionCall.afterAll parse c (order.flatMap performed)).1 ∧
      processEnded s.cells = (ConnectionCall.afterAll parse c (order.flatMap performed)).2 ∧
      ((ConnectionCall.afterAll parse c (order.flatMap performed)).2 = false →
        ∀ t ∈ order, s.todo t = .done ()) := by
  have hturn : Turn (Program.start c.cells (ConnectionCall.program parse performed)) c :=
    ⟨fun _ => rfl, shows_cells c, rfl, hn, program_lasts⟩
  obtain ⟨s, hr, hs, he, hdone⟩ := hturn.turns order hnodup (fun _ _ => rfl) ho
  exact ⟨s, hr, hs, he, fun hlive => (hdone hlive).2⟩

/-- The second thread announces a change, and GLib does not go on. -/
def announcing : Bool → List (ConnectionCall Nat Nat Nat × BusOutcome)
  | false => watching false
  | true => [(.emitPropertyChanged ⟨"/com/example/char1"⟩ "org.bluez.GattCharacteristic1" "Value"
      DBusObject.oneByte, ⟨true, [], false, false⟩)]

theorem serial_connection_runs_watched :
    ∃ s, Program.LiveRuns processEnded (Program.start (opened Nat Nat).cells
        (ConnectionCall.program (fun _ => none) announcing)) s ∧
      processEnded s.cells = true ∧ Std.TreeMap.get? (s.cells .signalHandlers) 1 = some 7 := by
  have ho : ∀ t ∈ [false, true], ∀ call ∈ announcing t, call.2.closed = false := by
    simp [announcing, watching]
  apply (serial_connection_runs [false, true] (by decide) opened_consistent.cleared ho).imp
  rintro s ⟨hr, hs, he, -⟩
  refine ⟨hr, he, ?_⟩
  rw [hs.handlers]
  rfl

end Runs
end Ggk
