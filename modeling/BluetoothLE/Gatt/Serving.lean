import BluetoothLE.Gatt.Shown

namespace Ggk
open Lib Gatt
set_option autoImplicit true

/-- What is called on the objects: by the application, or by a client through the connection. -/
inductive AttributeCall where
  | setValue (o : GattObject) (newValue : List UInt8)
  | startNotify
  | stopNotify
  | methodCall (this : ObjectPtr) (sender : Option String) (interfaceName methodName : String)
      (parameters : Option GVariant)

/-- A call, and what it finds outside of the objects. -/
structure AttributeStep where
  call : AttributeCall
  out : Outside
  dict : Except Thrown (Option (List ManagedObject))

def AttributeStep.perform (address : String → Nat) (i : AttributeStep) : Gatt Unit :=
  match i.call with
  | .setValue o newValue => o.setValue i.out.environment newValue
  | .startNotify => discard (GattCharacteristic.startNotify i.out.environment)
  | .stopNotify => discard (GattCharacteristic.stopNotify i.out.environment)
  | .methodCall this sender interfaceName methodName parameters =>
    DBusConnection.handleMethodCall (Closure.run i.out.environment i.dict address) sender
      interfaceName methodName parameters this.handlerData

/-- The objects with their mutexes, callbacks and tables. -/
def objectServer (address : String → Nat) :
    Machine World AttributeStep (Except Thrown Unit × List Event) where
  step w i :=
    let o := i.perform address w
    ((o.result, visible o.trace), o.state)

/-- How a method call is meant by the interface that the objects have. -/
def ObjectPtr.request (address : String → Nat)
    (dict : Except Thrown (Option (List ManagedObject))) (this : ObjectPtr)
    (interfaceName methodName : String) (parameters : Option GVariant) : AttributeRequest :=
  match this with
  | .service _ => .unknownInterface interfaceName
  | .application =>
    if interfaceName ≠ this.interface then .unknownInterface interfaceName
    else if methodName = BlueZConstants.getManagedObjects then
      .answer (match dict with
        | .ok none => .error .failed "Failed to create response"
        | .ok (some result) => .value (some (.managedObjects result))
        | .error (.stdException what) => .error .failed what
        | .error _ => failure)
    else .unknownMethod interfaceName methodName
  | .characteristic _ _ =>
    if interfaceName ≠ this.interface then .unknownInterface interfaceName
    else if methodName = BlueZConstants.readValue then .read .characteristic
    else if methodName = BlueZConstants.writeValue then .write .characteristic parameters
    else if methodName = BlueZConstants.startNotify then .subscribe
    else if methodName = BlueZConstants.stopNotify then .unsubscribe
    else .unknownMethod interfaceName methodName
  | .descriptor _ _ v =>
    if interfaceName ≠ this.interface then .unknownInterface interfaceName
    else if methodName = BlueZConstants.readValue then .read (.descriptor (address v))
    else if methodName = BlueZConstants.writeValue then
      .write (.descriptor (address v)) parameters
    else .unknownMethod interfaceName methodName

def AttributeStep.request (address : String → Nat) (i : AttributeStep) :
    Outside × AttributeRequest :=
  (i.out, match i.call with
    | .setValue o newValue => .update o newValue
    | .startNotify => .startNotify
    | .stopNotify => .stopNotify
    | .methodCall this _ interfaceName methodName parameters =>
      this.request address i.dict interfaceName methodName parameters)

/-- The callbacks come back, with values of a proper size, and what is written is an array of
bytes. -/
structure AttributeStep.Proper (i : AttributeStep) : Prop where
  returns : i.out.Returns
  read : ∀ o value, i.out.readCallback o = some (.ok value) → Short value
  dict : i.dict ≠ .error .undefined
  set : ∀ o newValue, i.call = .setValue o newValue → Short newValue
  written : ∀ this sender interfaceName parameters,
    i.call = .methodCall this sender interfaceName BlueZConstants.writeValue (some parameters) →
      ∃ bytes, parameters = .byteArray bytes ∧ Short bytes

section Dispatch
variable {address : String → Nat} {this : ObjectPtr}

theorem methodHandlers_isSome (interface interfaceName : String) (methods : List (String × κ))
    (handlers : Std.TreeMap String (Std.TreeMap String κ)) :
    (methods.foldl (DBusObject.withMethod interface) handlers)[interfaceName]?.isSome =
      (handlers[interfaceName]?.isSome || interface == interfaceName && !methods.isEmpty) := by
  induction methods generalizing handlers with
  | nil => simp
  | cons m methods ih =>
    rw [List.foldl_cons, ih, DBusObject.withMethod, getElem?_insert_string]
    by_cases h : interface = interfaceName
    · simp [h]
    · simp [h, beq_false_of_ne h]

theorem shown_unknownInterface {data : HandlerData Closure}
    (h : data.methodHandlers[interfaceName]? = none)
    (run : Closure → DBusMethodCall → Gatt Unit) (sender : Option String) (methodName : String)
    (parameters : Option GVariant) (out : Outside) (w : World) :
    shown (DBusConnection.handleMethodCall run sender interfaceName methodName parameters data
      w) = w.attributes.serve out (.unknownInterface interfaceName) := by
  simp only [DBusConnection.handleMethodCall, h]
  rfl

theorem shown_unknownMethod {data : HandlerData Closure}
    (hi : data.methodHandlers[interfaceName]?.isSome = true)
    (hm : DBusConnection.handler interfaceName methodName data = none)
    (run : Closure → DBusMethodCall → Gatt Unit) (sender : Option String)
    (parameters : Option GVariant) (out : Outside) (w : World) :
    shown (DBusConnection.handleMethodCall run sender interfaceName methodName parameters data
      w) = w.attributes.serve out (.unknownMethod interfaceName methodName) := by
  obtain ⟨methods, h⟩ := Option.isSome_iff_exists.1 hi
  rw [DBusConnection.handler, h, Option.bind_some] at hm
  simp only [DBusConnection.handleMethodCall, h, hm]
  rfl

theorem shown_handled {data : HandlerData Closure} {closure : Closure}
    {run : Closure → DBusMethodCall → Gatt Unit}
    (h : DBusConnection.handler interfaceName methodName data = some closure)
    (sender : Option String) (parameters : Option GVariant) (w : World) :
    shown (DBusConnection.handleMethodCall run sender interfaceName methodName parameters data
      w) = shown (dispatched (run closure
        { sender := sender.getD "", interface := interfaceName, method := methodName, parameters,
          invocation := true }) w) := by
  rw [DBusConnection.handleMethodCall_handled run sender parameters h]
  rfl

theorem methodHandlers_none (h : interfaceName ≠ this.interface) :
    this.handlerData.methodHandlers[interfaceName]? = none := by
  rw [← Option.not_isSome_iff_eq_none, Bool.not_eq_true]
  apply (methodHandlers_isSome this.interface interfaceName this.methods ∅).trans
  simp [beq_false_of_ne (Ne.symm h)]

theorem methodHandlers_some (h : this.methods ≠ []) :
    this.handlerData.methodHandlers[this.interface]?.isSome = true := by
  apply (methodHandlers_isSome this.interface this.interface this.methods ∅).trans
  simp [h]

theorem handler_other {properties : Std.TreeMap String (List (DBusProperty κ))}
    {methods : List (String × κ)} (h : methodName ∉ methods.map Prod.fst)
    (handlers : Std.TreeMap String (Std.TreeMap String κ)) :
    DBusConnection.handler interfaceName methodName
        ⟨methods.foldl (DBusObject.withMethod interface) handlers, properties⟩ =
      DBusConnection.handler interfaceName methodName ⟨handlers, properties⟩ := by
  induction methods generalizing handlers with
  | nil => rfl
  | cons m methods ih =>
    obtain ⟨hm, h⟩ := not_or.1 (mt List.mem_cons.2 h)
    rw [List.foldl_cons, ih h, handler_withMethod, if_neg fun hi => hm hi.2.symm]

/-- A method is found under its name if no other one has it. -/
theorem handler_mem {properties : Std.TreeMap String (List (DBusProperty κ))}
    {methods : List (String × κ)} (hd : (methods.map Prod.fst).Nodup)
    (h : (methodName, method) ∈ methods)
    (handlers : Std.TreeMap String (Std.TreeMap String κ)) :
    DBusConnection.handler interface methodName
        ⟨methods.foldl (DBusObject.withMethod interface) handlers, properties⟩ = some method := by
  induction methods generalizing handlers with
  | nil => cases h
  | cons m methods ih =>
    obtain ⟨hm, hd⟩ := List.nodup_cons.1 hd
    rw [List.foldl_cons]
    rcases List.mem_cons.1 h with rfl | h
    · rw [handler_other hm, handler_withMethod, if_pos ⟨rfl, rfl⟩]
    · exact ih hd h _

theorem ObjectPtr.methods_nodup (this : ObjectPtr) : (this.methods.map Prod.fst).Nodup := by
  cases this <;> simp [ObjectPtr.methods, BlueZConstants.readValue, BlueZConstants.writeValue,
    BlueZConstants.startNotify, BlueZConstants.stopNotify]

theorem request_unknown (h : methodName ∉ this.methods.map Prod.fst)
    (hne : this.methods ≠ []) :
    this.request address dict this.interface methodName parameters =
      .unknownMethod this.interface methodName := by
  cases this with
  | service i => exact absurd rfl hne
  | application =>
    have hm : methodName ≠ BlueZConstants.getManagedObjects := by simpa [ObjectPtr.methods] using h
    simp [ObjectPtr.request, hm]
  | characteristic i uuid =>
    simp only [ObjectPtr.methods, List.map_cons, List.map_nil, List.mem_cons, List.not_mem_nil,
      or_false, not_or] at h
    simp [ObjectPtr.request, h]
  | descriptor i c v =>
    simp only [ObjectPtr.methods, List.map_cons, List.map_nil, List.mem_cons, List.not_mem_nil,
      or_false, not_or] at h
    simp [ObjectPtr.request, h]

section Steps
variable {i : AttributeStep} {w : World}

/-- A handler does to the attributes what its method asks for. -/
theorem shown_run (hp : i.Proper) (hw : ∀ o : GattObject, Short (o.value w))
    (hcall : i.call = .methodCall this sender this.interface methodName parameters)
    {closure : Closure} (hm : (methodName, closure) ∈ this.methods) {call : DBusMethodCall}
    (hparameters : call.parameters = parameters) (hi : call.invocation = true) :
    shown (dispatched (closure.run i.out.environment i.dict address call) w) =
      w.attributes.serve i.out
        (this.request address i.dict this.interface methodName parameters) := by
  have hwrite (o : GattObject) (hname : methodName = BlueZConstants.writeValue) :
      shown (dispatched
        (Gatt.handleWriteValue i.out.environment o (o.store i.out.environment) call) w) =
        w.attributes.serve i.out (.write o parameters) := by
    subst hname
    cases parameters with
    | none =>
      have hx : Gatt.handleWriteValue i.out.environment o (o.store i.out.environment) call w =
          ⟨.ok (), w, [.reply (.error .invalidArgs "Missing parameters")]⟩ := by
        simp [Gatt.handleWriteValue, hi, hparameters, reply]
      exact shown_dispatched_ok hx
    | some parameters =>
      obtain ⟨bytes, rfl, hb⟩ := hp.written this sender _ parameters hcall
      exact shown_writeValue hp.returns hb hi hparameters
  cases this with
  | service i => exact absurd hm List.not_mem_nil
  | application =>
    cases List.mem_singleton.1 hm
    exact shown_handleGetManagedObjects hp.dict hi w
  | characteristic _ _ =>
    simp only [ObjectPtr.methods, List.mem_cons, List.not_mem_nil, or_false] at hm
    rcases hm with h | h | h | h
    · cases h
      exact shown_readValue hp.returns (hw .characteristic) (hp.read .characteristic) hi
    · cases h
      exact hwrite .characteristic rfl
    · cases h
      exact shown_handleStartNotify hp.returns hi w
    · cases h
      exact shown_handleStopNotify hi w
  | descriptor _ _ v =>
    simp only [ObjectPtr.methods, List.mem_cons, List.not_mem_nil, or_false] at hm
    rcases hm with h | h
    · cases h
      exact shown_readValue hp.returns (hw _) (hp.read _) hi
    · cases h
      exact hwrite (.descriptor (address v)) rfl

/-- What a method call is to the objects is what it is to the attributes. -/
theorem shown_methodCall (hp : i.Proper) (hw : ∀ o : GattObject, Short (o.value w))
    (hcall : i.call = .methodCall this sender interfaceName methodName parameters) :
    shown (DBusConnection.handleMethodCall (Closure.run i.out.environment i.dict address) sender
      interfaceName methodName parameters this.handlerData w) =
        w.attributes.serve i.out
          (this.request address i.dict interfaceName methodName parameters) := by
  by_cases hi : interfaceName = this.interface
  · subst hi
    by_cases hm : methodName ∈ this.methods.map Prod.fst
    · obtain ⟨⟨name, closure⟩, hmem, rfl⟩ := List.mem_map.1 hm
      have hfound : DBusConnection.handler this.interface name this.handlerData = some closure :=
        handler_mem this.methods_nodup hmem ∅
      rw [shown_handled hfound]
      exact shown_run hp hw hcall hmem rfl rfl
    · by_cases hne : this.methods = []
      · cases this with
        | service i => exact shown_unknownInterface rfl _ sender methodName parameters _ w
        | _ => cases hne
      · rw [request_unknown hm hne]
        exact shown_unknownMethod (methodHandlers_some hne) (handler_other hm ∅) _ sender
          parameters _ w
  · have hrequest : this.request address i.dict interfaceName methodName parameters =
        .unknownInterface interfaceName := by
      cases this <;> simp [ObjectPtr.request, hi]
    rw [hrequest]
    exact shown_unknownInterface (methodHandlers_none hi) _ sender methodName parameters _ w

theorem shown_perform (address : String → Nat) (hp : i.Proper)
    (hw : ∀ o : GattObject, Short (o.value w)) :
    shown (i.perform address w) =
      w.attributes.serve (i.request address).1 (i.request address).2 := by
  rw [AttributeStep.perform, AttributeStep.request]
  cases hcall : i.call with
  | setValue o newValue => exact shown_setValue (hp.set o newValue hcall) i.out o w
  | startNotify => exact shown_startNotify i.out w
  | stopNotify => exact shown_stopNotify i.out w
  | methodCall this sender interfaceName methodName parameters =>
    exact shown_methodCall hp hw hcall

theorem stored_written (h : Attributes.stored? o (out, .write o' parameters) = some value) :
    ∃ bytes, parameters = some (.byteArray bytes) ∧ value = cString bytes := by
  rcases parameters with _ | v
  · cases h
  · cases v with
    | byteArray bytes =>
      rw [Attributes.stored?] at h
      split_ifs at h
      exact ⟨bytes, rfl, (Option.some.inj h).symm⟩
    | _ => cases h

/-- No method but WriteValue stores anything. -/
theorem request_stored (h : Attributes.stored? o (out,
      this.request address dict interfaceName methodName parameters) = some value) :
    methodName = BlueZConstants.writeValue ∧
      ∃ bytes, parameters = some (.byteArray bytes) ∧ value = cString bytes := by
  cases this with
  | service i => cases h
  | application =>
    simp only [ObjectPtr.request] at h
    split_ifs at h <;> cases h
  | characteristic i uuid =>
    simp only [ObjectPtr.request] at h
    split_ifs at h with _ _ hm
    · cases h
    · cases h
    · exact ⟨hm, stored_written h⟩
    all_goals cases h
  | descriptor i c v =>
    simp only [ObjectPtr.request] at h
    split_ifs at h with _ _ hm
    · cases h
    · cases h
    · exact ⟨hm, stored_written h⟩
    · cases h

/-- Nothing but proper values is stored. -/
theorem stored_short (hp : i.Proper) (h : Attributes.stored? o (i.request address) = some value) :
    Short value := by
  rw [AttributeStep.request] at h
  cases hcall : i.call with
  | setValue o' newValue =>
    simp only [hcall, Attributes.stored?] at h
    split_ifs at h
    cases h
    exact hp.set o' _ hcall
  | startNotify =>
    rw [hcall] at h
    cases h
  | stopNotify =>
    rw [hcall] at h
    cases h
  | methodCall this sender interfaceName methodName parameters =>
    rw [hcall] at h
    obtain ⟨rfl, bytes, rfl, rfl⟩ := request_stored h
    obtain ⟨bytes', hb, hs⟩ := hp.written this sender interfaceName _ hcall
    cases hb
    exact hs.cString

theorem short_perform (address : String → Nat) (hp : i.Proper)
    (hw : ∀ o : GattObject, Short (o.value w)) (o : GattObject) :
    Short (o.value (i.perform address w).state) := by
  have hstate : (i.perform address w).state.attributes =
      Attributes.server.next w.attributes (i.request address) :=
    congrArg Outcome.state (shown_perform address hp hw)
  have hvalue : o.value (i.perform address w).state =
      (Attributes.stored? o (i.request address)).getD (o.value w) :=
    (congrArg (fun a : Attributes => a.value o) hstate).trans (Attributes.value_serve ..)
  rw [hvalue]
  cases h : Attributes.stored? o (i.request address) with
  | none => exact hw o
  | some value => exact stored_short hp h

end Steps

section Runs
variable {w : World} {i : AttributeStep} {is : List AttributeStep}

/-- A step of the objects is one of their attributes. -/
theorem server_step (address : String → Nat) (hw : ∀ o : GattObject, Short (o.value w))
    (hp : i.Proper) :
    Attributes.server.step w.attributes (i.request address) =
        (((objectServer address).step w i).1, ((objectServer address).next w i).attributes) ∧
      ∀ o : GattObject, Short (o.value ((objectServer address).next w i)) := by
  have h : shown (i.perform address w) = w.attributes.serve (i.request address).1
    (i.request address).2 := shown_perform address hp hw
  apply And.intro _ (short_perform address hp hw)
  rw [Attributes.server]
  dsimp only
  rw [← h]
  rfl

/-- A server in a process that ends with the first request to a connection that does not come
back from it. Each call finds a connection, and GLib in one of its two ways. -/
def inProcess (m : Machine σ ι (Except Thrown Unit × List Event)) :
    Machine (Option σ) ((Bool × DBusConnection δ η) × ι) (Option (Except Thrown Unit × List Event)) :=
  m.aborting (fun found => Event.ends found.1 found.2) .undefined

/-- The server of the objects, with its mutexes, exceptions and tables, is the server of their
attributes: in every run it replies, signals and calls back the same, comes to the same
attributes, and ends with the process if the other does. -/
theorem serves_attributes (address : String → Nat) (hw : ∀ o : GattObject, Short (o.value w))
    {is : List ((Bool × DBusConnection δ η) × AttributeStep)} (hp : ∀ i ∈ is, i.2.Proper) :
    let requests := is.map (Prod.map id (AttributeStep.request address))
    ((inProcess (objectServer address)).run (some w) is).map World.attributes =
        (inProcess Attributes.server).run (some w.attributes) requests ∧
      (inProcess (objectServer address)).output (some w) is =
        (inProcess Attributes.server).output (some w.attributes) requests :=
  Machine.aborting_maps hw (fun _ _ hw hp => server_step address hw hp) _ _ hp

def writes : List AttributeStep :=
  [⟨.setValue .characteristic [0x07], .quiet, .ok none⟩,
    ⟨.methodCall (.characteristic 0 "2a37") none BlueZConstants.gattCharacteristicInterface
      BlueZConstants.writeValue (some (.byteArray [0x09, 0x00, 0x03])), .quiet, .ok none⟩]

theorem quiet_proper (hset : ∀ o newValue, call = .setValue o newValue → Short newValue)
    (hwritten : ∀ this sender interfaceName parameters,
      call = .methodCall this sender interfaceName BlueZConstants.writeValue (some parameters) →
        ∃ bytes, parameters = .byteArray bytes ∧ Short bytes) :
    (⟨call, .quiet, .ok none⟩ : AttributeStep).Proper where
  returns := by
    constructor
    · intro o h
      cases h
    · intro o f value h
      cases h
    · intro h
      cases h
  read := by
    intro o value h
    cases h
  dict := by
    intro h
    cases h
  set := hset
  written := hwritten

theorem writes_proper : ∀ i ∈ writes, i.Proper := by
  intro i hi
  simp only [writes, List.mem_cons, List.not_mem_nil, or_false] at hi
  rcases hi with rfl | rfl
  · apply quiet_proper
    · intro o newValue h
      cases h
      exact (by norm_num : 1 < 2 ^ 31)
    · intro this sender interfaceName parameters h
      cases h
  · apply quiet_proper
    · intro o newValue h
      cases h
    · intro this sender interfaceName parameters h
      cases h
      exact ⟨_, rfl, (by norm_num : 3 < 2 ^ 31)⟩

theorem short_setUp (properties : UInt8) (o : GattObject) :
    Short (o.value (World.constructed properties).setUp) := by
  cases o <;> exact (by norm_num : 0 < 2 ^ 31)

/-- A client's write is answered, and the local one after it ends the process. -/
theorem serves_attributes_written :
    (inProcess (objectServer fun _ => 0)).output
        (some (World.constructed GattProperty.propNotify).setUp)
        (writes.reverse.map (Prod.mk (false, DBusObject.live))) =
      [some (.ok (), [.reply (.value none)]),
        some (.error .undefined, [.propertyChanged ⟨"/app/service0/char1"⟩
          BlueZConstants.gattCharacteristicInterface "Value" (.byteArray [0x07])])] := by
  have hp : ∀ i ∈ writes.reverse.map (Prod.mk (false, DBusObject.live)), i.2.Proper := by
    intro i hi
    obtain ⟨j, hj, rfl⟩ := List.mem_map.1 hi
    exact writes_proper j (List.mem_reverse.1 hj)
  rw [(serves_attributes (fun _ => 0) (short_setUp _) hp).2]
  rfl

theorem short_run (address : String → Nat) (hw : ∀ o : GattObject, Short (o.value w))
    (hp : ∀ i ∈ is, i.Proper) :
    ∀ o : GattObject, Short (o.value ((objectServer address).run w is)) := by
  have hevery : (objectServer address).Every (fun _ i => i.Proper) w is :=
    Machine.every_of_forall fun i hi _ => hp i hi
  apply Machine.run_invariant (I := fun w => ∀ o : GattObject, Short (o.value w)) hw _ hevery
  exact fun w i hw hp => short_perform address hp hw

theorem request_read (h : this.object address = some o) :
    this.request address dict this.interface BlueZConstants.readValue parameters = .read o := by
  cases this with
  | characteristic i uuid =>
    cases h
    rfl
  | descriptor i c v =>
    cases h
    rfl
  | _ => cases h

/-- A client that reads gets what has been stored last, by whomever. -/
theorem reads_last_stored (address : String → Nat) {read : AttributeStep} {o : GattObject}
    (hw : ∀ o : GattObject, Short (o.value w)) (hp : ∀ i ∈ is, i.Proper) (hread : read.Proper)
    (hcall : read.call = .methodCall this sender this.interface BlueZConstants.readValue
      parameters) (ho : this.object address = some o)
    (hnone : read.out.readCallback o = none) (hmade : read.out.byteArrayVariant = true) :
    let requests := is.map (AttributeStep.request address)
    visible (read.perform address ((objectServer address).run w is)).trace =
      [.reply (.value (some (.byteArray
        ((requests.filterMap (Attributes.stored? o)).getLastD (o.value w)))))] := by
  have hrequest : read.request address = (read.out, .read o) := by
    rw [AttributeStep.request, hcall]
    exact congrArg _ (request_read ho)
  have hshown := shown_perform address hread (short_run address hw hp)
  have hrun := (Machine.run_maps (f := World.attributes) hw
    (fun _ _ hw hp => server_step address hw hp) hp).1
  rw [hrequest, hrun, Attributes.serve, Attributes.read, hnone] at hshown
  have hvalue := Attributes.value_run w.attributes (is.map (AttributeStep.request address)) o
  have htrace := congrArg Outcome.trace hshown
  simp only [hvalue, Attributes.readReply, hmade] at htrace
  exact htrace

theorem reads_last_stored_written :
    let read : AttributeStep := ⟨.methodCall (.characteristic 0 "2a37") none
      BlueZConstants.gattCharacteristicInterface BlueZConstants.readValue none, .quiet, .ok none⟩
    visible (read.perform (fun _ => 0)
      ((objectServer fun _ => 0).run (World.constructed GattProperty.propNotify).setUp
        writes)).trace = [.reply (.value (some (.byteArray [0x09])))] := by
  have hread : (⟨.methodCall (.characteristic 0 "2a37") none
      BlueZConstants.gattCharacteristicInterface BlueZConstants.readValue none, .quiet,
      .ok none⟩ : AttributeStep).Proper := by
    apply quiet_proper
    · intro o newValue h
      cases h
    · intro this sender interfaceName parameters h
      simp [BlueZConstants.readValue, BlueZConstants.writeValue] at h
  exact reads_last_stored (fun _ => 0) (o := .characteristic) (short_setUp _) writes_proper hread
    rfl rfl rfl rfl

end Runs
end Dispatch
end Ggk
