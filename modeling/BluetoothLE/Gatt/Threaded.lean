import BluetoothLE.Lib.Program
import BluetoothLE.Gatt.Observing

namespace Ggk
open Lib Gatt
set_option autoImplicit true

/-- What guards a shared cell: a mutex, or for the signals of a descriptor, which are sent
with none held, the bus. -/
inductive Guard where
  | mutex (m : Mutex)
  | bus (d : Nat)
  deriving DecidableEq, Repr

inductive ValueEvent where
  | stored (value : List UInt8)
  | read (value : List UInt8)
  | announced (valueVariant : GVariant)
  deriving DecidableEq, Repr

inductive NotifyEvent where
  | changed (notifying : Bool)
  | announced (notifying : Bool)
  deriving DecidableEq, Repr

inductive CallbackEvent where
  | entered
  | left
  deriving DecidableEq, Repr

/-- The data under each guard, with what has become of it, oldest first. -/
def Cell : Guard → Type
  | .mutex .valueMutex | .mutex (.descriptorValueMutex _) => List UInt8 × List ValueEvent
  | .mutex .notifyMutex => Bool × List NotifyEvent
  | .mutex .callbackMutex | .mutex (.descriptorCallbackMutex _) => List CallbackEvent
  | .bus _ => List GVariant

/-- Code of one thread, which can throw. -/
abbrev Threaded (α : Type) : Type := ExceptT Thrown (Program Guard Cell) α

namespace Threaded

def withLock (m : Mutex) (x : Threaded α) : Threaded α :=
  ExceptT.mk (Program.locked (.mutex m) x.run)

def catchStd (x : Threaded α) (handler : String → Threaded α) : Threaded α :=
  tryCatch x fun e =>
    match what e with
    | some what => handler what
    | none => throw e

theorem run_pure (a : α) : (pure a : Threaded α).run = .done (.ok a) := rfl

theorem run_bind (x : Threaded β) (k : β → Threaded α) :
    (x >>= k).run = x.run.bind fun r =>
      match r with
      | .ok b => (k b).run
      | .error e => .done (.error e) := by
  apply congrArg x.run.bind
  funext r
  cases r with
  | ok b => rfl
  | error e => rfl

theorem run_catchStd (x : Threaded α) (handler : String → Threaded α) :
    (catchStd x handler).run = x.run.bind fun r =>
      match r with
      | .ok a => .done (.ok a)
      | .error e =>
        match what e with
        | some what => (handler what).run
        | none => .done (.error e) := by
  apply congrArg x.run.bind
  funext r
  cases r with
  | ok a => rfl
  | error e =>
    simp only
    cases what e with
    | none => rfl
    | some s => rfl

/-- The data is changed by `f`, and `r` reads what it was. -/
def access (g : Guard) (f : Cell g → Cell g) (r : Cell g → α) : Threaded α :=
  ExceptT.mk (.access g f fun b => .done (.ok (r b)))

def change (g : Guard) (f : Cell g → Cell g) : Threaded Unit := access g f fun _ => ()

def load (g : Guard) (r : Cell g → α) : Threaded α := access g id r

/-- The data is read where its mutex is not held. -/
def peek (g : Guard) (r : Cell g → α) : Threaded α :=
  ExceptT.mk (.peek g fun b => .done (.ok (r b)))

def ended (r : Except Thrown α) : Threaded α := ExceptT.mk (.done r)

def accessValue (f : List UInt8 × List ValueEvent → List UInt8 × List ValueEvent)
    (r : List UInt8 × List ValueEvent → α) : GattObject → Threaded α
  | .characteristic => access (.mutex .valueMutex) f r
  | .descriptor d => access (.mutex (.descriptorValueMutex d)) f r

def store (newValue : List UInt8) : GattObject → Threaded Unit :=
  accessValue (fun b => (newValue, b.2 ++ [.stored newValue])) fun _ => ()

def readValue : GattObject → Threaded (List UInt8) :=
  accessValue (fun b => (b.1, b.2 ++ [.read b.1])) Prod.fst

/-- A value is read through a reference to it. -/
def peekValue : GattObject → Threaded (List UInt8)
  | .characteristic => peek (.mutex .valueMutex) Prod.fst
  | .descriptor d => peek (.mutex (.descriptorValueMutex d)) Prod.fst

def changeCallbacks (f : List CallbackEvent → List CallbackEvent) : GattObject → Threaded Unit
  | .characteristic => change (.mutex .callbackMutex) f
  | .descriptor d => change (.mutex (.descriptorCallbackMutex d)) f

/-- A callback of `o` runs and ends with `r`. -/
def callback (o : GattObject) (r : Except Thrown α) : Threaded α := do
  changeCallbacks (· ++ [.entered]) o
  changeCallbacks (· ++ [.left]) o
  ended r

/-- A descriptor asks for a signal, and GDBus takes it under a lock of its own. As in the handlers
run by themselves, a request is made and what comes of it is left open. -/
def send (d : Nat) (valueVariant : GVariant) : Threaded Unit :=
  ExceptT.mk (Program.locked (.bus d)
    (change (.bus d) fun (sent : List GVariant) => sent ++ [valueVariant]).run)

def defined : Option α → Threaded α
  | none => throw .undefined
  | some a => pure a

def gvariantFromByteArray (out : Outside) (bytes : List UInt8) : Threaded (Option GVariant) := do
  let pGVariant ← defined (Utils.gvariantFromByteArray bytes (Utils.toInt bytes.length))
  return if out.byteArrayVariant then some pGVariant else none

def runNotifyCallback (out : Outside) : Threaded Unit :=
  match out.notifyCallback with
  | none => pure ()
  | some r => catchStd (callback .characteristic r) fun _ => pure ()

def isNotifying : Threaded Bool := withLock .notifyMutex (load (.mutex .notifyMutex) Prod.fst)

/-- The reference is to the value, and the mutex is free when the caller reads it. -/
def getValue (o : GattObject) : Threaded (List UInt8) := do
  withLock o.valueMutex (pure ())
  peekValue o

def notifyIfAsked (out : Outside) : Threaded Unit := do
  if ← isNotifying then withLock .callbackMutex (runNotifyCallback out)

/-- The request of the characteristic for a signal with its value. -/
def sendValue (valueVariant : GVariant) : Threaded Unit :=
  change (.mutex .valueMutex) fun b => (b.1, b.2 ++ [.announced valueVariant])

def announceValue (out : Outside) (c : GattCharacteristic) : Threaded Unit := do
  match ← gvariantFromByteArray out (← load (.mutex .valueMutex) Prod.fst) with
  | none => pure ()
  | some valueVariant =>
    notifyIfAsked out
    if c.registered then sendValue valueVariant

def setValue (out : Outside) (c : GattCharacteristic) (newValue : List UInt8) : Threaded Unit :=
  catchStd (withLock .valueMutex do
    store newValue .characteristic
    if c.registered then announceValue out c) fun _ => pure ()

def setNotifying (notifying : Bool) : Threaded Unit :=
  change (.mutex .notifyMutex) fun b => (notifying, b.2 ++ [.changed notifying])

/-- The flag changes and a signal with it is asked for, or the flag changes back. -/
def announceNotifying (out : Outside) (c : GattCharacteristic) (notifying : Bool) :
    Threaded Bool := do
  setNotifying notifying
  if c.registered then
    if out.booleanVariant then
      change (.mutex .notifyMutex) fun b => (b.1, b.2 ++ [.announced notifying])
      return true
    else
      setNotifying !notifying
      return false
  else return true

def startNotify (out : Outside) (c : GattCharacteristic) : Threaded Bool :=
  withLock .notifyMutex do
    if ← load (.mutex .notifyMutex) Prod.fst then return true
    else if !c.supportsNotify then return false
    else if ← announceNotifying out c true then
      withLock .callbackMutex (runNotifyCallback out)
      return true
    else return false

def stopNotify (out : Outside) (c : GattCharacteristic) : Threaded Bool :=
  withLock .notifyMutex do
    if !(← load (.mutex .notifyMutex) Prod.fst) then return true
    else announceNotifying out c false

def carryOut (out : Outside) (c : GattCharacteristic) : Option Bool → Threaded Unit
  | none => pure ()
  | some true => discard (startNotify out c)
  | some false => discard (stopNotify out c)

/-- No mutex is held, so that the value which is announced is the one that is there by then. -/
def announceDescriptorValue (out : Outside) (d : Nat) : Threaded Unit := do
  match ← gvariantFromByteArray out (← peekValue (.descriptor d)) with
  | none => pure ()
  | some valueVariant => send d valueVariant

def setDescriptorValue (out : Outside) (w : World) (d : Nat) (newValue : List UInt8) :
    Threaded Unit :=
  catchStd (do
    withLock (.descriptorValueMutex d) (store newValue (.descriptor d))
    catchStd (carryOut out w.characteristic ((w.descriptors d).request newValue)) fun _ => pure ()
    if (w.descriptors d).registered then announceDescriptorValue out d) fun _ => pure ()

def readLocked (out : Outside) (o : GattObject) : Threaded (Option (List UInt8)) :=
  match out.readCallback o with
  | some r => catchStd (do return some (← callback o r)) fun _ => return none
  | none => withLock o.valueMutex do return some (← readValue o)

def handleReadValue (out : Outside) (o : GattObject) (call : DBusMethodCall) : Threaded Unit :=
  if call.invocation then
    catchStd (do
      match ← withLock o.callbackMutex (readLocked out o) with
      | none => pure ()
      | some returnValue => discard (gvariantFromByteArray out returnValue)) fun _ => pure ()
  else pure ()

def writeLocked (out : Outside) (o : GattObject) (newValue : List UInt8) :
    Threaded (Option Bool) :=
  match out.writeCallback o with
  | some f => catchStd (do return some (← callback o (f newValue))) fun _ => return none
  | none => return some true

/-- How an accepted value is stored. -/
def assign (out : Outside) (w : World) (newValue : List UInt8) : GattObject → Threaded Unit
  | .characteristic => withLock .valueMutex (store newValue .characteristic)
  | .descriptor d => setDescriptorValue out w d newValue

def writeDecoded (out : Outside) (w : World) (o : GattObject) (newValue : List UInt8) :
    Threaded Unit := do
  match ← withLock o.callbackMutex (writeLocked out o newValue) with
  | some true => assign out w newValue o
  | _ => pure ()

def handleWriteValue (out : Outside) (w : World) (o : GattObject) (call : DBusMethodCall) :
    Threaded Unit :=
  if call.invocation then
    match call.parameters with
    | none => pure ()
    | some parameters =>
      catchStd (do
        let newValue ← defined (Utils.stringFromGVariantByteArray parameters)
        writeDecoded out w o newValue) fun _ => pure ()
  else pure ()

theorem handleWriteValue_decoded (h : decoded call = some newValue) :
    handleWriteValue out w o call =
      catchStd (writeDecoded out w o newValue) fun _ => pure () := by
  obtain ⟨hi, parameters, hp, hd⟩ := decoded_eq_some h
  rw [handleWriteValue, if_pos hi, hp]
  simp only [hd]
  rfl

theorem handleWriteValue_undecoded (out : Outside) (w : World) (o : GattObject)
    (h : decoded call = none) :
    handleWriteValue out w o call = pure () ∨
      handleWriteValue out w o call = throw .undefined := by
  rw [handleWriteValue]
  by_cases hi : call.invocation = true
  · rw [if_pos hi]
    rw [decoded, if_pos hi] at h
    cases hp : call.parameters with
    | none => exact .inl rfl
    | some parameters =>
      rw [hp, Option.bind_some] at h
      simp only [h]
      exact .inr rfl
  · exact .inl (if_neg hi)

end Threaded

inductive TaskOperation where
  | setValue (newValue : List UInt8)
  | getValue (o : GattObject)
  | startNotify
  | stopNotify
  | isNotifying
  | handleReadValue (o : GattObject) (call : DBusMethodCall)
  | handleWriteValue (o : GattObject) (call : DBusMethodCall)
  | setDescriptorValue (d : Nat) (newValue : List UInt8)

/-- One call of a thread, with what it calls outside and what it finds of the objects besides
what the mutexes guard. -/
structure Task where
  op : TaskOperation
  out : Outside
  world : World

def Task.perform (task : Task) : Threaded Unit :=
  match task.op with
  | .setValue newValue => Threaded.setValue task.out task.world.characteristic newValue
  | .getValue o => discard (Threaded.getValue o)
  | .startNotify => discard (Threaded.startNotify task.out task.world.characteristic)
  | .stopNotify => discard (Threaded.stopNotify task.out task.world.characteristic)
  | .isNotifying => discard Threaded.isNotifying
  | .handleReadValue o call => Threaded.handleReadValue task.out o call
  | .handleWriteValue o call => Threaded.handleWriteValue task.out task.world o call
  | .setDescriptorValue d newValue => Threaded.setDescriptorValue task.out task.world d newValue

/-- A thread makes its calls one after the other. -/
def taskProgram (tasks : List Task) : Program Guard Cell Unit :=
  .each (tasks.map fun task => task.perform.run)

/-- The cells as a state of the objects fills them, with nothing done to them yet. -/
def World.cells (w : World) : (g : Guard) → Cell g
  | .mutex .valueMutex => (w.characteristic.value, ([] : List ValueEvent))
  | .mutex (.descriptorValueMutex d) => ((w.descriptors d).value, ([] : List ValueEvent))
  | .mutex .notifyMutex => (w.characteristic.notifying, ([] : List NotifyEvent))
  | .mutex .callbackMutex | .mutex (.descriptorCallbackMutex _) => ([] : List CallbackEvent)
  | .bus _ => ([] : List GVariant)

end Ggk
