import BluetoothLE.DBus.Xml
import BluetoothLE.Lib.IdTable

namespace Ggk
open Lib
set_option autoImplicit true

/-- One interface at one path, with the data that its calls are dispatched by. -/
structure Export (δ : Type u) where
  path : DBusObjectPath
  interface : String
  data : δ

/-- What a subscription asks for. A part that is absent matches anything. -/
structure SignalFilter where
  sender : Option String
  interface : Option String
  member : Option String
  path : Option String
  deriving DecidableEq, Repr

structure IncomingSignal (π : Type u) where
  sender : String
  interface : String
  member : String
  path : String
  parameters : π

namespace GDBus

def exported (exports : IdTable (Export δ)) (path : DBusObjectPath) (interface : String) : Bool :=
  exports.entries.any fun e => e.2.path == path && e.2.interface == interface

/-- Export one interface. GDBus refuses a pair that is exported already, and may refuse any
other. -/
def registerObject (refused : Bool) (e : Export δ) (exports : IdTable (Export δ)) :
    Nat × IdTable (Export δ) :=
  if refused || exported exports e.path e.interface then (0, exports)
  else (exports.last + 1, exports.insert e)

def unregisterObject (id : Nat) (exports : IdTable (Export δ)) : Bool × IdTable (Export δ) :=
  if exports.contains id then (true, exports.erase id) else (false, exports)

/-- Whether the subscription gets the signal. `owns` says which names a sender owns. -/
def receives (owns : String → String → Bool) (filter : SignalFilter) (signal : IncomingSignal π) :
    Bool :=
  filter.sender.all (owns signal.sender) && filter.interface.all (· == signal.interface) &&
    filter.member.all (· == signal.member) && filter.path.all (· == signal.path)

theorem exported_iff {exports : IdTable (Export δ)} : exported exports path interface = true ↔
    ∃ e ∈ exports.entries, e.2.path = path ∧ e.2.interface = interface := by
  simp only [exported, List.any_eq_true, Bool.and_eq_true, beq_iff_eq]

end GDBus

/-- The pointer to the GDBus connection: none, one that is open, or one that the bus closed. -/
inductive GDBusConnectionPtr
  | null | opened | closed
  deriving DecidableEq, Repr

/-- The connection with GDBus's tables of what is live on it. The last two fields are the
code's own record. -/
structure DBusConnection (δ : Type u) (η : Type v) where
  connection : GDBusConnectionPtr
  exports : IdTable (Export δ)
  subscriptions : IdTable SignalFilter
  registeredObjects : Std.TreeMap String Nat
  signalHandlers : Std.TreeMap Nat η

structure BusCall (π : Type u) where
  destination : String
  path : DBusObjectPath
  interface : String
  method : String
  parameters : π

structure Invocation (η : Type u) (π : Type v) where
  watch : Nat
  handler : η
  signalName : String
  parameters : π

namespace DBusConnection

def constructed (δ : Type u) (η : Type v) : DBusConnection δ η :=
  ⟨.null, .empty _, .empty _, ∅, ∅⟩

def isConnected (c : DBusConnection δ η) : Bool := c.connection == .opened

/-- A connection that is installed is a fresh one. -/
def connect (accepted : Bool) (c : DBusConnection δ η) : Bool × DBusConnection δ η :=
  if c.isConnected then (true, c)
  else if accepted then
    (true, { c with
      connection := .opened, exports := c.exports.clear, subscriptions := c.subscriptions.clear })
  else (false, c)

def disconnect (c : DBusConnection δ η) : Bool × DBusConnection δ η :=
  (true, { c with
    connection := .null
    exports := c.registeredObjects.values.foldl IdTable.erase c.exports
    subscriptions := c.signalHandlers.keys.foldl IdTable.erase c.subscriptions
    registeredObjects := ∅
    signalHandlers := ∅ })

def remoteClose (c : DBusConnection δ η) : DBusConnection δ η :=
  { c with connection := if c.isConnected then .closed else c.connection }

/-- Whether there is a reply, and the calls that were made with what became of them. -/
def callMethod (answered : Bool) (call : BusCall π) (c : DBusConnection δ η) :
    Bool × List (BusCall π × Bool) :=
  if !c.isConnected then (false, []) else (answered, [(call, answered)])

/-- The loop over the interfaces of a document. The id of the last one stays. -/
def registerInterfaces (path : DBusObjectPath) (data : δ) :
    List String → List Bool → Nat → IdTable (Export δ) → Nat × IdTable (Export δ)
  | [], _, registrationId, exports => (registrationId, exports)
  | interface :: interfaces, refuses, _, exports =>
    let registered := GDBus.registerObject (refuses.headD false) ⟨path, interface, data⟩ exports
    registerInterfaces path data interfaces refuses.tail registered.1 registered.2

/-- `parse` gives the interfaces of a document, `refuses` what GDBus turns down besides. -/
def registerObject (parse : String → Option (List String)) (refuses : List Bool)
    (path : DBusObjectPath) (introspectionXml : String) (data : δ) (c : DBusConnection δ η) :
    Bool × DBusConnection δ η :=
  if !c.isConnected then (false, c)
  else if c.registeredObjects.contains path.toString then (false, c)
  else match parse introspectionXml with
    | none => (false, c)
    | some interfaces =>
      let registered := registerInterfaces path data interfaces refuses 0 c.exports
      if registered.1 = 0 then (false, { c with exports := registered.2 })
      else (true, { c with
        exports := registered.2
        registeredObjects := c.registeredObjects.insert path.toString registered.1 })

def unregisterObject (path : DBusObjectPath) (c : DBusConnection δ η) :
    Bool × DBusConnection δ η :=
  if !c.isConnected then (false, c)
  else match c.registeredObjects[path.toString]? with
    | none => (false, c)
    | some id =>
      let unregistered := GDBus.unregisterObject id c.exports
      if unregistered.1 then (true, { c with
        exports := unregistered.2
        registeredObjects := c.registeredObjects.erase path.toString })
      else (false, c)

def signalFilter (sender interface signalName : String) (path : DBusObjectPath) : SignalFilter :=
  let given (s : String) : Option String := if s.isEmpty then none else some s
  ⟨given sender, given interface, given signalName, given path.toString⟩

def addSignalWatch (refused : Bool) (sender interface signalName : String)
    (path : DBusObjectPath) (handler : η) (c : DBusConnection δ η) : Nat × DBusConnection δ η :=
  if !c.isConnected then (0, c)
  else if refused then (0, c)
  else
    let subscriptionId := c.subscriptions.last + 1
    (subscriptionId, { c with
      subscriptions := c.subscriptions.insert (signalFilter sender interface signalName path)
      signalHandlers := c.signalHandlers.insert subscriptionId handler })

def removeSignalWatch (watchId : Nat) (c : DBusConnection δ η) : Bool × DBusConnection δ η :=
  if !c.isConnected || watchId == 0 then (false, c)
  else if c.signalHandlers.contains watchId then
    (true, { c with
      subscriptions := c.subscriptions.erase watchId
      signalHandlers := c.signalHandlers.erase watchId })
  else (false, c)

/-- The callback of every subscription. An exception of a handler does not end the loop. -/
def handleSignal (signal : IncomingSignal π) (c : DBusConnection δ η) : List (Invocation η π) :=
  c.signalHandlers.toList.map fun handler =>
    ⟨handler.1, handler.2, signal.member, signal.parameters⟩

/-- GDBus calls back once for each live subscription that gets the signal. -/
def deliver (owns : String → String → Bool) (signal : IncomingSignal π)
    (c : DBusConnection δ η) : List (Invocation η π) :=
  (c.subscriptions.entries.filter (GDBus.receives owns ·.2 signal)).flatMap fun _ =>
    c.handleSignal signal

theorem isConnected_iff {c : DBusConnection δ η} :
    c.isConnected = true ↔ c.connection = .opened := by
  simp [isConnected]

section Registry
variable {c : DBusConnection δ η} {t : IdTable (Export δ)} {data : δ}

theorem registerInterfaces_keeps (he : e ∈ t.entries) :
    e ∈ (registerInterfaces path data interfaces refuses id₀ t).2.entries := by
  induction interfaces generalizing refuses id₀ t with
  | nil => exact he
  | cons interface interfaces ih =>
    apply ih
    rw [GDBus.registerObject]
    split
    · exact he
    · exact List.mem_cons_of_mem _ he

theorem registerInterfaces_id {listed : List String} (path : DBusObjectPath) (data : δ)
    (refuses : List Bool) (hl : ∀ interface ∈ interfaces, interface ∈ listed)
    (hid : id₀ = 0 ∨ ∃ interface ∈ listed, (id₀, ⟨path, interface, data⟩) ∈ t.entries) :
    let registered := registerInterfaces path data interfaces refuses id₀ t
    registered.1 = 0 ∨
      ∃ interface ∈ listed, (registered.1, ⟨path, interface, data⟩) ∈ registered.2.entries := by
  induction interfaces generalizing refuses id₀ t with
  | nil => exact hid
  | cons interface interfaces ih =>
    apply ih refuses.tail fun i hi => hl i (List.mem_cons_of_mem _ hi)
    rw [GDBus.registerObject]
    split
    · exact .inl rfl
    · exact .inr ⟨interface, hl interface List.mem_cons_self, List.mem_cons_self⟩

theorem registerInterfaces_exported
    (hx : ∀ interface ∈ interfaces, GDBus.exported t path interface = true)
    (hid : interfaces = [] → id₀ = 0) :
    registerInterfaces path data interfaces refuses id₀ t = (0, t) := by
  induction interfaces generalizing refuses id₀ with
  | nil => rw [registerInterfaces, hid rfl]
  | cons interface interfaces ih =>
    have hrefused := hx interface List.mem_cons_self
    rw [registerInterfaces, GDBus.registerObject, if_pos (by simp [hrefused])]
    exact ih (fun i hi => hx i (List.mem_cons_of_mem _ hi)) fun _ => rfl

theorem registerInterfaces_again (path : DBusObjectPath) (data : δ) (refuses : List Bool)
    (id₀ : Nat) (hsame : ∀ i ∈ interfaces, i = interface) (hne : interfaces ≠ []) :
    (registerInterfaces path data (interface :: interfaces) refuses id₀ t).1 = 0 ∨
      refuses.headD false = true := by
  cases hh : refuses.headD false with
  | true => exact .inr rfl
  | false =>
    have hx : GDBus.exported (GDBus.registerObject false ⟨path, interface, data⟩ t).2 path
        interface = true := by
      cases hx : GDBus.exported t path interface with
      | true => simp [GDBus.registerObject, hx]
      | false =>
        simp only [GDBus.registerObject, hx, Bool.or_self, Bool.false_eq_true, if_false]
        exact GDBus.exported_iff.2 ⟨_, List.mem_cons_self, rfl, rfl⟩
    rw [registerInterfaces, hh, registerInterfaces_exported (fun i hi => hsame i hi ▸ hx)
      fun h => absurd h hne]
    exact .inl rfl

theorem registerInterfaces_last : registerInterfaces path data (interfaces ++ [interface])
    (List.replicate interfaces.length true) id₀ t =
      GDBus.registerObject false ⟨path, interface, data⟩ t := by
  induction interfaces generalizing id₀ with
  | nil => rfl
  | cons i interfaces ih =>
    rw [List.cons_append, registerInterfaces, List.length_cons, List.replicate_succ]
    exact ih

theorem registerObject_free {c : DBusConnection δ η} (refuses : List Bool) (data : δ)
    (hc : c.connection = .opened)
    (hr : c.registeredObjects[path.toString]? = none) (hp : parse xml = some interfaces) :
    c.registerObject parse refuses path xml data =
      let registered := registerInterfaces path data interfaces refuses 0 c.exports
      if registered.1 = 0 then (false, { c with exports := registered.2 })
      else (true, { c with
        exports := registered.2
        registeredObjects := c.registeredObjects.insert path.toString registered.1 }) := by
  have hf : c.registeredObjects.contains path.toString = false :=
    Bool.eq_false_iff.2 (by simpa using hr)
  simp [registerObject, isConnected_iff.2 hc, hf, hp]

theorem registerObject_single {c : DBusConnection δ η} (refuses : List Bool) (data : δ)
    (hc : c.connection = .opened)
    (hr : c.registeredObjects[path.toString]? = none)
    (hx : ∀ e ∈ c.exports.entries, e.2.path ≠ path) (hp : parse xml = some [interface]) :
    c.registerObject parse refuses path xml data =
      if refuses.headD false = true then (false, c)
      else (true, { c with
        exports := c.exports.insert ⟨path, interface, data⟩
        registeredObjects := c.registeredObjects.insert path.toString (c.exports.last + 1) }) := by
  have hn : GDBus.exported c.exports path interface = false := by
    apply Bool.eq_false_iff.2
    intro h
    obtain ⟨e, he, hpath, _⟩ := GDBus.exported_iff.1 h
    exact hx e he hpath
  rw [registerObject_free refuses data hc hr hp]
  cases h : refuses.headD false with
  | true => simp only [registerInterfaces, GDBus.registerObject, h, Bool.true_or, if_true]
  | false => simp only [registerInterfaces, GDBus.registerObject, h, hn, Bool.or_self,
      Bool.false_eq_true, if_false, Nat.add_one_ne_zero]

/-- All that a registration can do. -/
theorem registerObject_cases (parse : String → Option (List String)) (refuses : List Bool)
    (path : DBusObjectPath) (introspectionXml : String) (data : δ) (c : DBusConnection δ η) :
    ∃ exports, (∀ e ∈ c.exports.entries, e ∈ exports.entries) ∧
      (c.registerObject parse refuses path introspectionXml data = (false, { c with exports }) ∨
        ∃ id interface, c.connection = .opened ∧ c.registeredObjects[path.toString]? = none ∧
          (∃ interfaces, parse introspectionXml = some interfaces ∧ interface ∈ interfaces) ∧
          (id, ⟨path, interface, data⟩) ∈ exports.entries ∧
          c.registerObject parse refuses path introspectionXml data = (true, { c with
            exports, registeredObjects := c.registeredObjects.insert path.toString id })) := by
  rw [registerObject]
  cases hc : c.isConnected with
  | false => exact ⟨c.exports, fun _ he => he, .inl (by simp)⟩
  | true =>
    by_cases hr : c.registeredObjects.contains path.toString = true
    · exact ⟨c.exports, fun _ he => he, .inl (by simp [hr])⟩
    · cases hp : parse introspectionXml with
      | none => exact ⟨c.exports, fun _ he => he, .inl (by simp [hr])⟩
      | some interfaces =>
        refine ⟨(registerInterfaces path data interfaces refuses 0 c.exports).2,
          fun _ he => registerInterfaces_keeps he, ?_⟩
        have hall : ∀ interface ∈ interfaces, interface ∈ interfaces := fun _ hi => hi
        rcases registerInterfaces_id path data refuses (t := c.exports) hall (.inl rfl) with
          h | ⟨interface, hi, h⟩
        · exact .inl (by simp [hr, h])
        · have hn := (IdTable.bounded _ _ h).1.ne'
          exact .inr ⟨_, interface, isConnected_iff.1 hc, by simpa using hr,
            ⟨interfaces, rfl, hi⟩, h, by simp [hr, hn]⟩

/-- All that the end of a registration can do. -/
theorem unregisterObject_cases (path : DBusObjectPath) (c : DBusConnection δ η) :
    c.unregisterObject path = (false, c) ∨
      ∃ id, c.connection = .opened ∧ c.registeredObjects[path.toString]? = some id ∧
        c.unregisterObject path = (true, { c with
          exports := c.exports.erase id
          registeredObjects := c.registeredObjects.erase path.toString }) := by
  rw [unregisterObject]
  cases hc : c.isConnected with
  | false => exact .inl (by simp)
  | true =>
    cases hr : c.registeredObjects[path.toString]? with
    | none => exact .inl (by simp)
    | some id =>
      cases hu : c.exports.contains id with
      | false => exact .inl (by simp [GDBus.unregisterObject, hu])
      | true => exact .inr ⟨id, isConnected_iff.1 hc, rfl, by simp [GDBus.unregisterObject, hu]⟩

theorem unregisterObject_registered (hc : c.connection = .opened)
    (hr : c.registeredObjects[path.toString]? = some i) (hi : c.exports.contains i = true) :
    c.unregisterObject path = (true, { c with
      exports := c.exports.erase i
      registeredObjects := c.registeredObjects.erase path.toString }) := by
  simp [unregisterObject, isConnected_iff.2 hc, hr, GDBus.unregisterObject, hi]

end Registry
end DBusConnection
end Ggk
