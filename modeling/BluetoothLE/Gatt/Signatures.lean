import BluetoothLE.DBus.Introspection
import BluetoothLE.Gatt.Replies

namespace Ggk
open Lib Gatt
set_option autoImplicit true

/-- What the document of the object says about a method of its interface. -/
def ObjectPtr.introspected (p : ObjectPtr) (method : String) : Option Introspection.MethodInfo :=
  (Introspection.interfaces p.introspectionXml).bind fun infos =>
    (infos.find? fun info => info.name == p.interface).bind fun info =>
      info.methods.find? fun m => m.name == method

/-- Some run of the handler gets past parameters of these types. -/
def Closure.Takes (closure : Closure) (types : List String) : Prop :=
  ∃ (out : Outside) (w : World) (dict : Except Thrown (Option (List ManagedObject)))
    (address : String → Nat) (call : DBusMethodCall), call.invocation = true ∧
      call.parameters = some (.tuple types) ∧
        (closure.run out.environment dict address call w).result ≠ .error .undefined

/-- GDBus sends the body of a reply when it is the tuple of the types, or absent where there are
none. -/
def Reply.Fits (types : List String) : Reply → Prop
  | .value none => types = []
  | .value (some body) => body.typeString = (GVariant.tuple types).typeString
  | .error _ _ => True

namespace ObjectPtr
variable {p : ObjectPtr} {closure : Closure}

theorem handler_of_mem (h : (method, closure) ∈ p.methods) :
    DBusConnection.handler p.interface method p.handlerData = some closure := by
  rw [handlerData, described, DBusObject.described]
  cases p <;> simp only [methods, List.mem_cons, List.not_mem_nil, or_false] at h
  · cases h
    simp [methods, handler_withMethod]
  · rcases h with h | h | h | h <;> cases h <;>
      simp [methods, handler_withMethod, BlueZConstants.readValue, BlueZConstants.writeValue,
        BlueZConstants.startNotify, BlueZConstants.stopNotify]
  · rcases h with h | h <;> cases h <;>
      simp [methods, handler_withMethod, BlueZConstants.readValue, BlueZConstants.writeValue]

/-- The documents say of no method that it has arguments. -/
theorem introspected_eq (h : (method, closure) ∈ p.methods) :
    p.introspected method = some ⟨method, [], []⟩ := by
  obtain ⟨methods, hi, hm⟩ := Option.bind_eq_some_iff.1 (handler_of_mem h)
  have hcalls : (p.described ⟨""⟩).methodCalls p.interface = methods.keys.map fun method =>
      { sender := "", interface := p.interface, method, parameters := none,
        invocation := false } := by
    have hi' : (p.described ⟨""⟩).methodHandlers[p.interface]? = some methods := hi
    rw [DBusObject.methodCalls, hi']
  have hinfos : Introspection.interfaces p.introspectionXml =
      some [⟨p.interface, methods.keys.map (⟨·, [], []⟩)⟩] := by
    have hlist : (p.described ⟨""⟩).interfaces.toList = [(p.interface, p.properties)] := rfl
    rw [introspectionXml, Introspection.interfaces_introspectionXml, hlist, List.map_singleton,
      hcalls, List.map_map]
    rfl
  have hkey : methods.keys.find? (fun name => name == method) = some method := by
    have hmem : method ∈ methods.keys :=
      Std.TreeMap.mem_keys.2 (Std.TreeMap.mem_iff_isSome_getElem?.2 (Option.isSome_of_eq_some hm))
    have hsome : (methods.keys.find? fun name => name == method).isSome = true :=
      List.find?_isSome.2 ⟨method, hmem, beq_self_eq_true method⟩
    obtain ⟨name, hname⟩ := Option.isSome_iff_exists.1 hsome
    have hbeq := List.find?_some hname
    rw [hname, eq_of_beq hbeq]
  have hself : (p.interface == p.interface) = true := beq_self_eq_true _
  simp only [introspected, hinfos, Option.bind_some, List.find?_cons, hself, List.find?_map]
  exact congrArg (Option.map _) hkey

end ObjectPtr

/-- The replies that the outcome has made fit the types. -/
def Fitting (types : List String) (o : Outcome Thrown World Event α) : Prop :=
  ∀ r ∈ replies o.trace, r.Fits types

section Fitting
variable {w w' : World} {x : Gatt α}

theorem fitting_bind {k : α → Gatt β} (h : x w = ⟨.ok a, w', t⟩) :
    Fitting types ((x >>= k) w) ↔ (∀ r ∈ replies t, r.Fits types) ∧ Fitting types (k a w') := by
  simp only [Fitting, Effect.bind_apply, h, Outcome.bind_ok, Outcome.after_trace, replies_append,
    List.mem_append]
  apply Iff.intro
  · intro h
    exact ⟨fun r hr => h r (.inl hr), fun r hr => h r (.inr hr)⟩
  · rintro ⟨h, h'⟩ r (hr | hr)
    · exact h r hr
    · exact h' r hr

theorem fitting_bind_error {k : α → Gatt β} (h : x w = ⟨.error e, w', t⟩) :
    Fitting types ((x >>= k) w) ↔ ∀ r ∈ replies t, r.Fits types := by
  simp [Fitting, h]

theorem fitting_withLock (m : Mutex) (x : Gatt α) (k : α → Gatt β) (w : World) :
    Fitting types ((withLock m x >>= k) w) ↔ Fitting types ((x >>= k) w) := by
  rw [Fitting, (withLock_replies m x k w).1, Fitting]

theorem fitting_catching (types : List String) (handles : Thrown → Option β) (x : Gatt Unit)
    (code : β → ErrorCode) (message : β → String) (w : World) :
    Fitting types (Effect.catching handles x (fun b => reply (.error (code b) (message b))) w) ↔
      Fitting types (x w) := by
  rw [Effect.catching_apply]
  cases x w with
  | mk r w' t =>
    cases r with
    | ok a => rfl
    | error e =>
      cases he : handles e with
      | none => rw [Outcome.catching_passed he]
      | some b =>
        rw [Outcome.catching_handled he]
        simp [Fitting, reply, Reply.Fits, or_imp, forall_and]

end Fitting

section Handlers
variable {out : Outside} {w : World} {call : DBusMethodCall}

/-- No array of bytes is a tuple. -/
theorem fitting_answer (env : Environment) (value : List UInt8) (w : World) :
    Fitting [] (answer env value w) ↔ (Sized value → env.byteArrayVariant = false) := by
  rw [answer, gvariantFromByteArray, Utils.gvariantFromByteArray, Sized]
  split
  · rename_i h
    apply iff_of_true
    · intro r hr
      cases hr
    · exact fun h' => absurd h' (Int.not_le.2 h)
  · rename_i h
    cases hv : env.byteArrayVariant with
    | false =>
      apply iff_of_true
      · intro r hr
        cases List.mem_singleton.1 hr
        trivial
      · exact fun _ => rfl
    | true =>
      apply iff_of_false
      · intro hf
        have hbody : "ay" = (GVariant.tuple []).typeString := hf _ (List.mem_singleton.2 rfl)
        exact absurd hbody (by decide)
      · exact fun h' => absurd (h' (Int.not_lt.1 h)) (by decide)

theorem fitting_handleReadValue (o : GattObject) (hi : call.invocation = true) :
    Fitting [] (Gatt.handleReadValue out.environment o call w) ↔
      ∀ value, out.returnValue w o = some value → Sized value → out.byteArrayVariant = false := by
  rw [Gatt.handleReadValue, if_pos hi, catchStd, fitting_catching [], fitting_withLock,
    Outside.returnValue]
  cases h : out.readCallback o with
  | none =>
    rw [fitting_bind (Outside.readLocked_stored (by simp [Outside.environment, h]) w)]
    simp only [fitting_answer, Option.some.injEq, forall_eq']
    simp [Outside.environment]
  | some r =>
    rcases r with e | value
    · have hfits : ∀ r ∈ replies (Outside.readTrace o (.error e)), r.Fits [] := by
        intro r hr
        cases e <;> simp [Outside.readTrace] at hr
        rw [hr]
        trivial
      apply iff_of_true _ (by simp)
      cases e with
      | stdException what =>
        rw [fitting_bind (Outside.readLocked_callback h w)]
        refine ⟨hfits, fun r hr => ?_⟩
        cases hr
      | _ =>
        rw [fitting_bind_error (Outside.readLocked_callback h w)]
        exact hfits
    · rw [fitting_bind (Outside.readLocked_callback h w)]
      simp [Outside.readTrace, fitting_answer, Outside.environment]

theorem fitting_verdict {x : Gatt Bool} (hx : ∀ e ∈ (x w).trace, e.Internal) (code : ErrorCode)
    (message : String) :
    Fitting [] ((do if ← x then reply (.value none) else reply (.error code message) :
      Gatt Unit) w) := by
  have hr := replies_internal hx
  cases h : x w with
  | mk result w' t =>
    rw [h] at hr
    change replies t = [] at hr
    cases result with
    | ok b =>
      rw [fitting_bind h, hr]
      refine ⟨List.forall_mem_nil _, fun r hr => ?_⟩
      cases b <;> cases List.mem_singleton.1 hr
      · trivial
      · rfl
    | error e =>
      rw [fitting_bind_error h, hr]
      exact List.forall_mem_nil _

theorem fitting_handleStartNotify (hi : call.invocation = true) :
    Fitting [] (GattCharacteristic.handleStartNotify out.environment call w) := by
  rw [GattCharacteristic.handleStartNotify, if_pos hi]
  exact fitting_verdict (GattCharacteristic.startNotify_internal out w) _ _

theorem fitting_handleStopNotify (env : Environment) (hi : call.invocation = true) :
    Fitting [] (GattCharacteristic.handleStopNotify env call w) := by
  rw [GattCharacteristic.handleStopNotify, if_pos hi]
  exact fitting_verdict (GattCharacteristic.stopNotify_internal env w) _ _

theorem fitting_handleGetManagedObjects (hi : call.invocation = true) :
    Fitting [] (GattApplication.handleGetManagedObjects dict call w) ↔
      ∀ result, dict ≠ .ok (some result) := by
  rw [GattApplication.handleGetManagedObjects, catchStd, fitting_catching [], if_pos hi]
  rcases dict with e | _ | result
  · apply iff_of_true _ (by simp)
    intro r hr
    cases hr
  · apply iff_of_true _ (by simp)
    intro r hr
    cases List.mem_singleton.1 hr
    trivial
  · apply iff_of_false _ (fun h => h result rfl)
    intro hf
    have hbody : "a{oa{sa{sv}}}" = (GVariant.tuple []).typeString := hf _ (List.mem_singleton.2 rfl)
    exact absurd hbody (by decide)

/-- A call returns no value, where no document declares one. What WriteValue takes is never
declared. -/
def Closure.Declared (out : Outside) (dict : Except Thrown (Option (List ManagedObject)))
    (address : String → Nat) (w : World) (closure : Closure) : Prop :=
  match closure.this.object address, closure.member with
  | some o, .handleReadValue => ∀ value, out.returnValue w o = some value → Sized value →
      out.byteArrayVariant = false
  | some _, .handleWriteValue => False
  | _, .handleGetManagedObjects => ∀ result, dict ≠ .ok (some result)
  | _, _ => True

theorem not_takes_writeValue (o : GattObject) (store : List UInt8 → Gatt Unit)
    (hi : call.invocation = true) (hp : call.parameters = some (.tuple types)) :
    (Gatt.handleWriteValue out.environment o store call w).result = .error .undefined := by
  rw [Gatt.handleWriteValue, if_pos hi, hp]
  rfl

theorem takes_iff {p : ObjectPtr} {closure : Closure} (hm : (method, closure) ∈ p.methods) :
    closure.Takes types ↔ closure.member ≠ .handleWriteValue := by
  apply Iff.intro
  · rintro ⟨out, w, dict, address, call, hi, hp, hr⟩ hw
    apply hr
    cases p <;> simp only [ObjectPtr.methods, List.mem_cons, List.not_mem_nil, or_false] at hm
    · cases hm
      cases hw
    · rcases hm with h | h | h | h <;> cases h <;> cases hw
      exact not_takes_writeValue .characteristic _ hi hp
    · rcases hm with h | h <;> cases h <;> cases hw
      exact not_takes_writeValue (.descriptor _) _ hi hp
  · intro hw
    let call : DBusMethodCall :=
      { sender := "", interface := "", method, parameters := some (.tuple types),
        invocation := true }
    have hread (o : GattObject) : (Gatt.handleReadValue Outside.quiet.environment o call
        (.constructed 0)).result = .ok () := by
      have hg : gvariantFromByteArray Outside.quiet.environment (o.value (.constructed 0)) =
          pure (some (.byteArray [])) := by
        have hv : o.value (.constructed 0) = [] := by
          cases o <;> rfl
        rw [hv]
        rfl
      rw [handleReadValue_stored rfl rfl hg]
    refine ⟨.quiet, .constructed 0, .ok none, fun _ => 0, call, rfl, rfl, fun hr => ?_⟩
    cases p <;> simp only [ObjectPtr.methods, List.mem_cons, List.not_mem_nil, or_false] at hm
    · cases hm
      cases hr
    · rcases hm with h | h | h | h <;> cases h
      · cases (hread .characteristic).symm.trans hr
      · exact hw rfl
      · cases hr
      · cases hr
    · rcases hm with h | h <;> cases h
      · cases (hread (.descriptor 0)).symm.trans hr
      · exact hw rfl

theorem fitting_run (dict : Except Thrown (Option (List ManagedObject)))
    (address : String → Nat) {p : ObjectPtr} {closure : Closure}
    (hm : (method, closure) ∈ p.methods)
    (hi : call.invocation = true) (hw : closure.member ≠ .handleWriteValue) :
    Fitting [] (closure.run out.environment dict address call w) ↔
      closure.Declared out dict address w := by
  cases p <;> simp only [ObjectPtr.methods, List.mem_cons, List.not_mem_nil, or_false] at hm
  · cases hm
    exact fitting_handleGetManagedObjects hi
  · rcases hm with h | h | h | h <;> cases h
    · exact fitting_handleReadValue .characteristic hi
    · exact absurd rfl hw
    · exact iff_of_true (fitting_handleStartNotify hi) trivial
    · exact iff_of_true (fitting_handleStopNotify _ hi) trivial
  · rcases hm with h | h <;> cases h
    · exact fitting_handleReadValue (.descriptor _) hi
    · exact absurd rfl hw

theorem declared_writeValue (out : Outside) (dict : Except Thrown (Option (List ManagedObject)))
    (address : String → Nat) (w : World) {p : ObjectPtr} {closure : Closure}
    (hm : (method, closure) ∈ p.methods)
    (hw : closure.member = .handleWriteValue) : ¬ closure.Declared out dict address w := by
  cases p <;> simp only [ObjectPtr.methods, List.mem_cons, List.not_mem_nil, or_false] at hm
  · cases hm
    cases hw
  · rcases hm with h | h | h | h <;> cases h <;> cases hw
    exact id
  · rcases hm with h | h <;> cases h <;> cases hw
    exact id

/-- The document of the object, the parameters that a handler takes and the replies that it makes
agree on no method but those that make no use of arguments and return no value. -/
theorem signatures_iff (out : Outside) (dict : Except Thrown (Option (List ManagedObject)))
    (address : String → Nat) {p : ObjectPtr} {closure : Closure}
    (hm : (method, closure) ∈ p.methods)
    (sender : Option String) (parameters : Option GVariant) (w : World) :
    (∃ info, p.introspected method = some info ∧ closure.Takes info.inArgs ∧
      ∀ r ∈ replies (DBusConnection.handleMethodCall (Closure.run out.environment dict address)
        sender p.interface method parameters p.handlerData w).trace, r.Fits info.outArgs) ↔
      closure.Declared out dict address w := by
  rw [ObjectPtr.introspected_eq hm, DBusConnection.handleMethodCall_handled _ _ _
    (ObjectPtr.handler_of_mem hm)]
  have hf := fitting_catching [] DBusConnection.escaped
    (closure.run out.environment dict address
      { sender := sender.getD "", interface := p.interface, method, parameters,
        invocation := true })
    (fun _ => .domain DBusError.errorFailed) DBusConnection.internalError w
  apply Iff.intro
  · rintro ⟨info, hinfo, htakes, hfits⟩
    cases hinfo
    exact (fitting_run dict address hm rfl ((takes_iff hm).1 htakes)).1 (hf.1 hfits)
  · intro h
    have hw : closure.member ≠ .handleWriteValue :=
      fun hw => declared_writeValue out dict address w hm hw h
    exact ⟨_, rfl, (takes_iff hm).2 hw, hf.2 ((fitting_run dict address hm rfl hw).2 h)⟩

theorem signatures_example :
    let p : ObjectPtr := .characteristic 0 ""
    ∃ info, p.introspected "StartNotify" = some info ∧
      (⟨p, .handleStartNotify⟩ : Closure).Takes info.inArgs ∧
      ∀ r ∈ replies (DBusConnection.handleMethodCall
        (Closure.run Outside.quiet.environment (.ok none) fun _ => 0) none p.interface "StartNotify"
        (some (.tuple [])) p.handlerData (.constructed GattProperty.propNotify)).trace,
          r.Fits info.outArgs := by
  intro p
  have hm : ("StartNotify", (⟨p, .handleStartNotify⟩ : Closure)) ∈ p.methods :=
    .tail _ (.tail _ (.head _))
  exact (signatures_iff .quiet (.ok none) _ hm none _ _).2 trivial

/-- ReadValue replies with the bare bytes, where the document has no argument going out. -/
theorem signatures_disagree :
    let p : ObjectPtr := .characteristic 0 ""
    ¬ ∃ info, p.introspected "ReadValue" = some info ∧
      (⟨p, .handleReadValue⟩ : Closure).Takes info.inArgs ∧
      ∀ r ∈ replies (DBusConnection.handleMethodCall
        (Closure.run Outside.quiet.environment (.ok none) fun _ => 0) none p.interface "ReadValue"
        (some (.tuple [])) p.handlerData (.constructed GattProperty.propNotify)).trace,
          r.Fits info.outArgs := by
  rintro p ⟨info, hinfo, _, hfits⟩
  have hm : ("ReadValue", (⟨p, .handleReadValue⟩ : Closure)) ∈ p.methods := .head _
  cases (ObjectPtr.introspected_eq hm).symm.trans hinfo
  have hbody : "ay" = (GVariant.tuple []).typeString :=
    hfits (.value (some (.byteArray []))) (by decide)
  exact absurd hbody (by decide)

end Handlers
end Ggk
