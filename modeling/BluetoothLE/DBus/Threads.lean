import BluetoothLE.DBus.Liveness
import BluetoothLE.DBus.PropertiesChanged
import BluetoothLE.Lib.Monitor
import BluetoothLE.Lib.Process

namespace Ggk
open Lib
set_option autoImplicit true

/-- The fields of a connection, and what GDBus keeps of it under locks of its own. The field
`mutex` is the one that the code locks; its cell is a record of what was done under it. That of
`process` says whether the process has ended. -/
inductive ConnectionField where
  | connection | registeredObjects | signalHandlers | mutex
  | closed | exports | subscriptions | process
  deriving DecidableEq, Repr

/-- The fields that the code itself reads and assigns. -/
def ConnectionField.isPlain : ConnectionField → Bool
  | .connection | .registeredObjects | .signalHandlers => true
  | _ => false

inductive WatchEvent (η : Type) (π : Type)
  | added (watchId : Nat) (watch : SignalWatch η)
  | removed (watchId : Nat)
  | delivered (signal : IncomingSignal π) (invocations : List (Invocation η π))

def ConnectionCell (δ : Type) (η : Type) (π : Type) : ConnectionField → Type
  | .connection => Bool
  | .registeredObjects => Std.TreeMap String Nat
  | .signalHandlers => Std.TreeMap Nat η
  | .mutex => List (WatchEvent η π)
  | .closed => Bool
  | .exports => IdTable (Export δ)
  | .subscriptions => IdTable SignalFilter
  | .process => Bool

abbrev ConnectionThread (δ : Type) (η : Type) (π : Type) (α : Type) : Type :=
  Program ConnectionField (ConnectionCell δ η π) α

/-- What GDBus and the bus make of a call: whether it works, which interfaces are turned down,
and whether the bus has closed the connection since. GLib `goesOn` or not after a builder that
does not end in a value. -/
structure BusOutcome where
  accepted : Bool
  refuses : List Bool
  closed : Bool
  goesOn : Bool
  deriving DecidableEq, Repr

namespace ConnectionThread
variable {δ : Type} {η : Type} {π : Type}

/-- The field is changed by `f`, and `r` reads what it was. -/
def access (c : ConnectionField) (f : ConnectionCell δ η π c → ConnectionCell δ η π c)
    (r : ConnectionCell δ η π c → α) : ConnectionThread δ η π α :=
  Program.access c f fun b => .done (r b)

def store (c : ConnectionField) (f : ConnectionCell δ η π c → ConnectionCell δ η π c) :
    ConnectionThread δ η π Unit := access c f fun _ => ()

def setObjects (f : Std.TreeMap String Nat → Std.TreeMap String Nat) :
    ConnectionThread δ η π Unit := store .registeredObjects f

def setHandlers (f : Std.TreeMap Nat η → Std.TreeMap Nat η) : ConnectionThread δ η π Unit :=
  store .signalHandlers f

def peek (c : ConnectionField) (r : ConnectionCell δ η π c → α) : ConnectionThread δ η π α :=
  Program.peek c fun b => .done (r b)

def objects (r : Std.TreeMap String Nat → α) : ConnectionThread δ η π α :=
  peek .registeredObjects r

def handlers (r : Std.TreeMap Nat η → α) : ConnectionThread δ η π α := peek .signalHandlers r

/-- The handlers are read under the mutex. -/
def loadHandlers (r : Std.TreeMap Nat η → α) : ConnectionThread δ η π α :=
  access .signalHandlers id r

def withLock (x : ConnectionThread δ η π α) : ConnectionThread δ η π α := Program.locked .mutex x

/-- Whether there is a connection to pass to GDBus. GDBus does nothing with a null pointer. -/
def get : ConnectionThread δ η π Bool := peek .connection id

def gdbus (connection : Bool) (x : ConnectionThread δ η π α) (refusal : α) :
    ConnectionThread δ η π α := if connection then x else pure refusal

def isClosed (out : BusOutcome) (connection : Bool) : ConnectionThread δ η π Bool :=
  gdbus connection (access .closed (fun closed => Bool.or closed out.closed)
    fun closed => Bool.or closed out.closed) false

def isConnected (out : BusOutcome) : ConnectionThread δ η π Bool := do
  if !(← get) then return false
  else return !(← isClosed out (← get))

def setConnection (connection : Bool) : ConnectionThread δ η π Unit :=
  store .connection fun _ => connection

/-- A connection that is installed is a fresh one. -/
def refresh : ConnectionThread δ η π Unit := do
  store .closed fun _ => false
  store .exports IdTable.clear
  store .subscriptions IdTable.clear

def connect (out : BusOutcome) : ConnectionThread δ η π Bool := do
  if ← isConnected out then return true
  else if !out.accepted then return false
  else
    refresh
    setConnection true
    discard get
    return true

def unregister (id : Nat) : ConnectionThread δ η π Unit := do
  gdbus (← get) (store .exports fun (t : IdTable (Export δ)) => t.erase id) ()

def unsubscribe (watchId : Nat) : ConnectionThread δ η π Unit := do
  gdbus (← get) (store .subscriptions fun (t : IdTable SignalFilter) => t.erase watchId) ()

/-- A loop over a map reads it as it is when the loop begins. -/
def unregisterAll : ConnectionThread δ η π Unit := do
  let ids ← objects fun m => m.values
  .each (ids.map unregister)

def unsubscribeAll : ConnectionThread δ η π Unit := do
  let watchIds ← handlers fun m => m.keys
  .each (watchIds.map unsubscribe)

def clearObjects : ConnectionThread δ η π Unit := do
  unregisterAll
  setObjects fun _ => ∅

def clearHandlers : ConnectionThread δ η π Unit := do
  unsubscribeAll
  setHandlers fun _ => ∅

def reset : ConnectionThread δ η π Unit := do
  if ← get then setConnection false else return ()

def disconnect : ConnectionThread δ η π Bool := do
  clearObjects
  clearHandlers
  reset
  return true

def callMethod (out : BusOutcome) : ConnectionThread δ η π Bool := do
  if !(← isConnected out) then return false
  else gdbus (← get) (pure out.accepted) false

def emitSignal (out : BusOutcome) : ConnectionThread δ η π Bool := do
  if !(← isConnected out) then return false
  else gdbus (← get) (pure out.accepted) false

/-- The process ends with all its threads, and nothing is returned to anybody. -/
def abort (a : α) : ConnectionThread δ η π α := do
  store .process fun _ => true
  return a

def emitPropertyChanged (out : BusOutcome) (interface propertyName : String) (value : Variant) :
    ConnectionThread δ η π Bool := do
  if !(← isConnected out) then return false
  else
    let builder := (VariantBuilder.start (.array .any)).add
      (.dictEntry (.ofString propertyName) (.variant value))
    let invalidatedBuilder := VariantBuilder.start (.array .any)
    let params := DBusConnection.newParameters interface builder invalidatedBuilder
    if params.isNone && !out.goesOn then abort false
    else emitSignal out

def registerInterfaces (path : DBusObjectPath) (data : δ) :
    List String → List Bool → Nat → ConnectionThread δ η π Nat
  | [], _, registrationId => pure registrationId
  | interface :: interfaces, refuses, _ => do
    let registrationId ← gdbus (← get)
      (access .exports
        (fun t => (GDBus.registerObject (refuses.headD false) ⟨path, interface, data⟩ t).2)
        fun t => (GDBus.registerObject (refuses.headD false) ⟨path, interface, data⟩ t).1) 0
    registerInterfaces path data interfaces refuses.tail registrationId

def registerObject (parse : String → Option (List String)) (out : BusOutcome)
    (path : DBusObjectPath) (introspectionXml : String) (data : δ) :
    ConnectionThread δ η π Bool := do
  if !(← isConnected out) then return false
  else if ← objects fun m => m.contains path.toString
  then return false
  else
    match parse introspectionXml with
    | none => return false
    | some interfaces =>
      let registrationId ← registerInterfaces path data interfaces out.refuses 0
      if registrationId = 0 then return false
      else
        setObjects fun m => m.insert path.toString registrationId
        return true

def unregisterObject (out : BusOutcome) (path : DBusObjectPath) :
    ConnectionThread δ η π Bool := do
  if !(← isConnected out) then return false
  else
    match ← objects fun m => m[path.toString]? with
    | none => return false
    | some id =>
      if ← gdbus (← get) (access .exports (fun t => (GDBus.unregisterObject id t).2)
        fun t => (GDBus.unregisterObject id t).1) false
      then
        setObjects fun m => m.erase path.toString
        return true
      else return false

def record (event : WatchEvent η π) : ConnectionThread δ η π Unit :=
  store .mutex fun (events : List (WatchEvent η π)) => events ++ [event]

/-- GDBus's id for a new subscription, zero if it makes none. -/
def subscribe (out : BusOutcome) (connection : Bool) (filter : SignalFilter) :
    ConnectionThread δ η π Nat :=
  gdbus (connection && out.accepted)
    (access .subscriptions (fun (t : IdTable SignalFilter) => t.insert filter)
      fun (t : IdTable SignalFilter) => t.last + 1) 0

def addSignalWatch (out : BusOutcome) (sender interface signalName : String)
    (path : DBusObjectPath) (handler : η) : ConnectionThread δ η π Nat := do
  if !(← isConnected out) then return 0
  else withLock do
    let filter := DBusConnection.signalFilter sender interface signalName path
    let subscriptionId ← subscribe out (← get) filter
    if 0 < subscriptionId then
      setHandlers fun m => m.insert subscriptionId handler
      record (.added subscriptionId ⟨filter, handler⟩)
      return subscriptionId
    else return subscriptionId

def removeSignalWatch (out : BusOutcome) (watchId : Nat) : ConnectionThread δ η π Bool := do
  if !(← isConnected out) || watchId == 0 then return false
  else withLock do
    if !(← loadHandlers fun m => m.contains watchId)
    then return false
    else
      unsubscribe watchId
      setHandlers fun m => m.erase watchId
      record (.removed watchId)
      return true

/-- All handlers run while the mutex is held. -/
def handleSignal (signal : IncomingSignal π) : ConnectionThread δ η π Unit :=
  withLock do
    let held ← loadHandlers fun m => m.toList
    record (.delivered signal (held.map fun handler =>
      ⟨handler.1, handler.2, signal.member, signal.parameters⟩))

end ConnectionThread

inductive ConnectionCall (δ : Type) (η : Type) (π : Type)
  | isConnected | connect | disconnect | callMethod | emitSignal
  | emitPropertyChanged (path : DBusObjectPath) (interface propertyName : String) (value : Variant)
  | registerObject (path : DBusObjectPath) (introspectionXml : String) (data : δ)
  | unregisterObject (path : DBusObjectPath)
  | addSignalWatch (sender interface signalName : String) (path : DBusObjectPath) (handler : η)
  | removeSignalWatch (watchId : Nat)
  | handleSignal (signal : IncomingSignal π)

namespace ConnectionCall
variable {δ : Type} {η : Type} {π : Type}
open ConnectionThread

def perform (parse : String → Option (List String)) (out : BusOutcome) :
    ConnectionCall δ η π → ConnectionThread δ η π Unit
  | .isConnected => discard (ConnectionThread.isConnected out)
  | .connect => discard (ConnectionThread.connect out)
  | .disconnect => discard ConnectionThread.disconnect
  | .callMethod => discard (ConnectionThread.callMethod out)
  | .emitSignal => discard (ConnectionThread.emitSignal out)
  | .emitPropertyChanged _ interface propertyName value =>
    discard (ConnectionThread.emitPropertyChanged out interface propertyName value)
  | .registerObject path xml data =>
    discard (ConnectionThread.registerObject parse out path xml data)
  | .unregisterObject path => discard (ConnectionThread.unregisterObject out path)
  | .addSignalWatch sender interface signalName path handler =>
    discard (ConnectionThread.addSignalWatch out sender interface signalName path handler)
  | .removeSignalWatch watchId => discard (ConnectionThread.removeSignalWatch out watchId)
  | .handleSignal signal => ConnectionThread.handleSignal signal

/-- The threads make their calls, each with what becomes of it. -/
def program (parse : String → Option (List String))
    (performed : θ → List (ConnectionCall δ η π × BusOutcome)) (t : θ) :
    ConnectionThread δ η π Unit :=
  .each ((performed t).map fun call => call.1.perform parse call.2)

def readsConnection : ConnectionCall δ η π → Bool
  | .handleSignal _ => false
  | _ => true

def setsConnection : ConnectionCall δ η π → Bool
  | .connect | .disconnect => true
  | _ => false

def usesObjects : ConnectionCall δ η π → Bool
  | .disconnect | .registerObject _ _ _ | .unregisterObject _ => true
  | _ => false

/-- A document without interfaces registers nothing. -/
def setsObjects (parse : String → Option (List String)) : ConnectionCall δ η π → Bool
  | .disconnect | .unregisterObject _ => true
  | .registerObject _ xml _ => (parse xml).any fun interfaces => !interfaces.isEmpty
  | _ => false

def usesHandlers : ConnectionCall δ η π → Bool
  | .disconnect | .addSignalWatch _ _ _ _ _ | .removeSignalWatch _ | .handleSignal _ => true
  | _ => false

def takesMutex : ConnectionCall δ η π → Bool
  | .addSignalWatch _ _ _ _ _ | .removeSignalWatch _ | .handleSignal _ => true
  | _ => false

/-- The calls that no two threads may make at once. -/
inductive Conflicts (parse : String → Option (List String)) :
    ConnectionCall δ η π → ConnectionCall δ η π → Prop
  | disconnect (call) : Conflicts parse .disconnect call
  | connect {call} (h : call.readsConnection = true) : Conflicts parse .connect call
  | objects {call call'} (h : call.setsObjects parse = true) (h' : call'.usesObjects = true) :
      Conflicts parse call call'

/-- The fields that a call may read or change. -/
def touches : ConnectionCall δ η π → ConnectionField → Bool
  | call, .connection => call.readsConnection
  | call, .registeredObjects => call.usesObjects
  | call, .signalHandlers => call.usesHandlers
  | _, _ => true

def changes (parse : String → Option (List String)) (out : BusOutcome) :
    ConnectionCall δ η π → ConnectionField → Bool
  | call, .connection => call.setsConnection
  | call, .registeredObjects => call.setsObjects parse
  | call, .signalHandlers => call.usesHandlers
  | call, .closed => call.setsConnection || out.closed
  | call, .exports => call.setsConnection || call.setsObjects parse
  | call, .mutex => call.takesMutex
  | .emitPropertyChanged _ _ _ _, .process => !out.goesOn
  | _, .process => false
  | _, _ => true

end ConnectionCall

def DBusConnection.cells (c : DBusConnection δ η) : (f : ConnectionField) → ConnectionCell δ η π f
  | .connection => c.connection != .null
  | .registeredObjects => c.registeredObjects
  | .signalHandlers => c.signalHandlers
  | .mutex => []
  | .closed => c.connection == .closed
  | .exports => c.exports
  | .subscriptions => c.subscriptions
  | .process => false

/-- What is seen of the process in the cells. -/
def processEnded (cells : (f : ConnectionField) → ConnectionCell δ η π f) : Bool := cells .process

/-- One thread is about to change a plain field while another is about to read or change it. -/
structure DataRace (s : Program.Shared θ ConnectionField (ConnectionCell δ η π) Unit) (t u : θ)
    (c : ConnectionField) : Prop where
  plain : c.isPlain = true
  apart : t ≠ u
  changes : ∃ f p, s.todo t = .access c f p ∧ ∃ b, f b ≠ b
  touches : (∃ p, s.todo u = .peek c p) ∨ ∃ f p, s.todo u = .access c f p

end Ggk
