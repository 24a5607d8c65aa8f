import BluetoothLE.Gatt.Replies

namespace Ggk
open Lib Gatt
set_option autoImplicit true

theorem handler_empty (interfaceName methodName : String)
    (properties : Std.TreeMap String (List (DBusProperty κ))) :
    DBusConnection.handler interfaceName methodName ⟨∅, properties⟩ = none := by
  rw [DBusConnection.handler, Std.TreeMap.getElem?_emptyc]
  rfl

/-- The two methods of a characteristic after WriteValue have other names. -/
theorem ObjectPtr.handler_writeValue {p : ObjectPtr} (h : p.object address = some o)
    (interfaceName : String) :
    DBusConnection.handler interfaceName BlueZConstants.writeValue p.handlerData =
      if p.interface = interfaceName then some ⟨p, .handleWriteValue⟩ else none := by
  have hread : BlueZConstants.readValue ≠ BlueZConstants.writeValue := by decide
  have hstart : BlueZConstants.startNotify ≠ BlueZConstants.writeValue := by decide
  have hstop : BlueZConstants.stopNotify ≠ BlueZConstants.writeValue := by decide
  rw [handlerData, described, DBusObject.described]
  cases p with
  | application => cases h
  | service i => cases h
  | characteristic i u =>
    simp only [methods, List.foldl_cons, List.foldl_nil, handler_withMethod, hread, hstart, hstop,
      and_false, and_true, if_false, handler_empty]
  | descriptor i u v =>
    simp only [methods, List.foldl_cons, List.foldl_nil, handler_withMethod, hread, and_false,
      and_true, if_false, handler_empty]

theorem Closure.run_handleWriteValue {p : ObjectPtr} (h : p.object address = some o)
    (env : Environment) (dict : Except Thrown (Option (List ManagedObject))) :
    Closure.run env dict address ⟨p, .handleWriteValue⟩ =
      Gatt.handleWriteValue env o (o.store env) := by
  cases p <;> cases h <;> rfl

section Store
variable {out : Outside} {w : World} {o : GattObject}

/-- The notify callback throws something that is no `std::exception` when the value is stored. -/
def Outside.abandons (out : Outside) (w : World) (newValue : List UInt8) : GattObject → Prop
  | .characteristic => False
  | .descriptor d => out.interrupts w d newValue = true ∧ out.notifyResult = .error .other

theorem store_uncaught (h : (o.store out.environment newValue w).result = .error e) :
    what e = none := by
  cases o with
  | characteristic => cases h
  | descriptor d =>
    rw [GattObject.store, GattDescriptor.setValue_outcome] at h
    dsimp only at h
    split_ifs at h with hi
    · exact Outside.notifyResult_uncaught h
    · change (w.descriptors d).valueResult newValue = _ at h
      rw [GattDescriptor.valueResult] at h
      split_ifs at h
      cases h
      rfl

theorem store_abandoned : (o.store out.environment newValue w).result = .error .other ↔
    out.abandons w newValue o := by
  cases o with
  | characteristic =>
    apply iff_of_false _ id
    intro h
    cases h
  | descriptor d =>
    rw [GattObject.store, GattDescriptor.setValue_outcome, Outside.abandons]
    dsimp only
    cases hi : out.interrupts w d newValue with
    | true => simp
    | false =>
      rw [if_neg Bool.false_ne_true, GattDescriptor.valueResult]
      split_ifs <;> simp

/-- Notifications that were off are on when their callback throws. -/
theorem notifying_abandoned (h : out.abandons w newValue o) :
    (o.store out.environment newValue w).state.characteristic.notifying ≠
      w.characteristic.notifying := by
  cases o with
  | characteristic => exact h.elim
  | descriptor d =>
    have hi := h.1
    rw [Outside.interrupts, Bool.and_eq_true, Bool.and_eq_true, beq_iff_eq] at hi
    obtain ⟨⟨hr, hs⟩, _⟩ := hi
    have hn := (GattCharacteristic.starts_iff.1 hs).1
    rw [GattObject.store, (GattDescriptor.setValue_apply ..).1, GattDescriptor.carryOut_state, hr]
    simp [hs, hn]

/-- Where a switch that a write asks for has its callback throw, the one request is the one that
announces the flag. -/
theorem storeSignals_abandoned (h : out.abandons w newValue o) :
    out.storeSignals w newValue o = w.characteristic.registered := by
  cases o with
  | characteristic => exact h.elim
  | descriptor d =>
    have hi := h.1
    rw [Outside.storeSignals, hi]
    rw [Outside.interrupts, Bool.and_eq_true, Bool.and_eq_true, beq_iff_eq] at hi
    obtain ⟨⟨hr, hs⟩, _⟩ := hi
    rw [hr, GattCharacteristic.signals, hs]
    simp

end Store

/-- The client is answered with an error before an event that ends the process. -/
def Refused (final : Event → Bool) (trace : List Event) : Prop :=
  ∃ code message, Reply.error code message ∈ replies (upTo final trace)

/-- If the client is answered with an error, the value of the object and the flag are as before. -/
def Undone (final : Event → Bool) (o : GattObject) (x : Gatt Unit) (w : World) : Prop :=
  Refused final (x w).trace →
    o.value (x w).state = o.value w ∧
      (x w).state.characteristic.notifying = w.characteristic.notifying

theorem replies_upTo {final : Event → Bool} (hf : ∀ r, final (.reply r) = false)
    (hs : replies s = []) (ht : ∀ e ∈ t, e.IsReply) :
    replies (upTo final (s ++ t)) = if s.any final then [] else replies t := by
  have ht' : t.any final = false := by
    rw [List.any_eq_false]
    intro e he
    obtain ⟨r, rfl⟩ := ht e he
    rw [hf]
    exact Bool.false_ne_true
  rw [upTo_append]
  split_ifs
  · rw [replies, List.filterMap_eq_nil_iff] at hs ⊢
    exact fun e he => hs e (mem_of_mem_upTo he)
  · rw [replies_append, hs, upTo_of_not_any ht', List.nil_append]

section Write
variable {out : Outside} {w : World} {o : GattObject} {call : DBusMethodCall}

theorem undone_of_state {x : Gatt Unit} (h : (x w).state = w) : Undone final o x w := by
  intro _
  rw [h]
  exact ⟨rfl, rfl⟩

theorem accepted_replies (ha : out.accepts o newValue = true) :
    replies (out.writeTrace o newValue) = [] := by
  apply List.eq_nil_of_length_eq_zero
  rw [Outside.writeTrace_replies, Outside.accepts_iff.1 ha]
  rfl

/-- WriteValue inside the `try` block of `handleMethodCall`. -/
def deliverWrite (env : Environment) (o : GattObject) (call : DBusMethodCall) : Gatt Unit :=
  Effect.catching DBusConnection.escaped (Gatt.handleWriteValue env o (o.store env) call)
    fun what => reply (.error (.domain DBusError.errorFailed) (DBusConnection.internalError what))

theorem deliverWrite_state (env : Environment) (o : GattObject) (call : DBusMethodCall)
    (w : World) : (deliverWrite env o call w).state =
      (Gatt.handleWriteValue env o (o.store env) call w).state :=
  (Effect.catching_emits _ (fun _ => reply_emits _) w).1

/-- Once a value has been accepted, the only error is the one for an exception of the notify
callback. -/
theorem deliverWrite_accepted (hd : decoded call = some newValue)
    (ha : out.accepts o newValue = true) :
    (deliverWrite out.environment o call w).state = (o.store out.environment newValue w).state ∧
      ((∃ code message,
        Reply.error code message ∈ replies (deliverWrite out.environment o call w).trace) ↔
          out.abandons w newValue o) := by
  have hv : (writeLocked out.environment o newValue w).result = .ok (some true) := by
    rw [Outside.writeLocked_apply]
    exact Outside.accepts_iff.1 ha
  have hw := accepted_replies ha
  have ht := replies_internal (o.store_internal out newValue w)
  rw [← store_abandoned]
  rw [deliverWrite, handleWriteValue_eq _ _ _ hd, catchStd, Effect.catching_apply,
    Effect.catching_apply, writeDecoded_eq _ _ hv, Outside.writeLocked_apply, Effect.bind_apply]
  cases hs : o.store out.environment newValue w with
  | mk r w' t =>
    rw [hs] at ht
    change replies t = [] at ht
    cases r with
    | ok a => simp [reply, hw, ht]
    | error e =>
      cases e with
      | stdException what =>
        have hu := store_uncaught (congrArg Outcome.result hs)
        cases hu
      | other => simp [Outcome.catching, what, DBusConnection.escaped, reply, hw, ht]
      | undefined => simp [Outcome.catching, what, DBusConnection.escaped, hw, ht]

/-- The replies to an accepted write come after everything else that it does. -/
theorem deliverWrite_trace (hd : decoded call = some newValue)
    (ha : out.accepts o newValue = true) :
    ∃ s t, (deliverWrite out.environment o call w).trace = s ++ t ∧
      s.any Event.isSignal = out.storeSignals w newValue o ∧ replies s = [] ∧
        ∀ e ∈ t, e.IsReply := by
  obtain ⟨-, t, ht, he⟩ := handleWriteValue_accepted (o.store out.environment) w hd ha
  obtain ⟨-, t', ht', he'⟩ := Effect.catching_emits DBusConnection.escaped
    (x := Gatt.handleWriteValue out.environment o (o.store out.environment) call)
    (fun what => reply_emits (.error (.domain DBusError.errorFailed)
      (DBusConnection.internalError what))) w
  rw [he, List.append_assoc] at he'
  refine ⟨_, t ++ t', he', ?_, ?_, ?_⟩
  · simp [out.isSignal_writeTrace, out.isSignal_store]
  · simp [accepted_replies ha, replies_internal (o.store_internal out newValue w)]
  · intro e hm
    exact (List.mem_append.1 hm).elim (ht e) (ht' e)

/-- The error is not seen if the announcement of the flag has ended the process. -/
theorem deliverWrite_refused (hd : decoded call = some newValue)
    (ha : out.accepts o newValue = true) (goesOn : Bool) (c : DBusConnection δ η) :
    Refused (Event.ends goesOn c) (deliverWrite out.environment o call w).trace ↔
      out.abandons w newValue o ∧
        (w.characteristic.registered = true → c.endsProcess goesOn = false) := by
  obtain ⟨s, t, he, hs, hr, ht⟩ := deliverWrite_trace (w := w) hd ha
  have herror := (deliverWrite_accepted (w := w) hd ha).2
  rw [he, replies_append, hr, List.nil_append] at herror
  rw [Refused, he, replies_upTo (fun _ => rfl) hr ht, any_ends, hs]
  have habandons (hab : out.abandons w newValue o) := storeSignals_abandoned hab
  cases hf : c.endsProcess goesOn && out.storeSignals w newValue o with
  | true =>
    rw [Bool.and_eq_true] at hf
    apply iff_of_false
    · simp
    · rintro ⟨hab, hlive⟩
      exact Bool.false_ne_true ((hlive ((habandons hab).symm.trans hf.2)).symm.trans hf.1)
  | false =>
    rw [if_neg Bool.false_ne_true, herror, iff_self_and]
    intro hab hreg
    rwa [habandons hab, hreg, Bool.and_true] at hf

theorem undone_deliverWrite_iff (goesOn : Bool) (c : DBusConnection δ η) :
    Undone (Event.ends goesOn c) o (deliverWrite out.environment o call) w ↔
      ∀ newValue, decoded call = some newValue → out.accepts o newValue = true →
        out.abandons w newValue o →
          w.characteristic.registered = true ∧ c.endsProcess goesOn = true := by
  cases hd : decoded call with
  | none =>
    apply iff_of_true
    · apply undone_of_state
      rw [deliverWrite_state]
      exact (handleWriteValue_undecoded out.environment hd).1
    · intro newValue hn
      cases hn
  | some newValue =>
    cases ha : out.accepts o newValue with
    | false =>
      apply iff_of_true
      · apply undone_of_state
        rw [deliverWrite_state, (handleWriteValue_declined _ _ hd ha).1]
      · intro newValue' hn ha'
        cases hn
        cases ha.symm.trans ha'
    | true =>
      obtain ⟨hs, -⟩ := deliverWrite_accepted (w := w) hd ha
      rw [Undone, hs, deliverWrite_refused hd ha]
      apply Iff.intro
      · intro h newValue' hn _ hab
        cases hn
        by_contra hlive
        rw [not_and, Bool.not_eq_true] at hlive
        exact notifying_abandoned hab (h ⟨hab, hlive⟩).2
      · rintro h ⟨hab, hlive⟩
        obtain ⟨hreg, hends⟩ := h newValue rfl ha hab
        exact absurd (hlive hreg) (Bool.eq_false_iff.not_left.2 hends)

/-- A refused WriteValue leaves everything as it was unless it starts notifications whose callback
then throws something that is no `std::exception`, and no announcement has ended the process
before the client is told. -/
theorem undone_iff (dict : Except Thrown (Option (List ManagedObject))) {p : ObjectPtr}
    (h : p.object address = some o) (sender : Option String) (interfaceName : String)
    (parameters : Option GVariant) (goesOn : Bool) (c : DBusConnection δ η) :
    Undone (Event.ends goesOn c) o
        (DBusConnection.handleMethodCall (Closure.run out.environment dict address) sender
          interfaceName BlueZConstants.writeValue parameters p.handlerData) w ↔
      (p.interface = interfaceName → ∀ newValue,
        parameters.bind Utils.stringFromGVariantByteArray = some newValue →
          out.accepts o newValue = true → out.abandons w newValue o →
            w.characteristic.registered = true ∧ c.isConnected = true ∧ goesOn = false) := by
  have hends : c.endsProcess goesOn = true ↔ c.isConnected = true ∧ goesOn = false := by
    rw [DBusConnection.endsProcess, Bool.and_eq_true, Bool.not_eq_true']
  have hhandler := ObjectPtr.handler_writeValue h interfaceName
  by_cases hi : p.interface = interfaceName
  · rw [if_pos hi] at hhandler
    rw [DBusConnection.handleMethodCall_handled _ sender parameters hhandler,
      Closure.run_handleWriteValue h, ← hends]
    exact (undone_deliverWrite_iff goesOn c).trans ⟨fun hc _ => hc, fun hc => hc hi⟩
  · rw [if_neg hi] at hhandler
    obtain ⟨r, hr⟩ := DBusConnection.handleMethodCall_unknown
      (Closure.run out.environment dict address) sender parameters hhandler
    rw [hr]
    exact iff_of_true (undone_of_state rfl) fun hc => absurd hc hi

/-- A write to a characteristic has nothing to undo. -/
theorem undone_example :
    Undone (Event.ends false DBusObject.live) .characteristic (DBusConnection.handleMethodCall
      (Closure.run { Outside.quiet with notifyCallback := some (.error .other) }.environment
        (.ok none) fun _ => 0) none BlueZConstants.gattCharacteristicInterface
          BlueZConstants.writeValue (some (.byteArray [0x01, 0x01]))
            (ObjectPtr.characteristic 0 "").handlerData)
      (World.constructed GattProperty.propNotify).setUp :=
  (undone_iff (.ok none) rfl none _ _ false _).2 fun _ _ _ _ hab => hab.elim

/-- A client configuration is set up whose characteristic is not. -/
def soleDescriptor : World where
  characteristic := (World.constructed GattProperty.propNotify).characteristic
  descriptors := (World.constructed GattProperty.propNotify).setUp.descriptors

/-- A write to a client configuration that is answered with an error has been stored, and has
started the notifications. -/
theorem error_not_undone :
    ¬ ∀ (out : Outside) (dict : Except Thrown (Option (List ManagedObject)))
      (address : String → Nat) (p : ObjectPtr) (o : GattObject) (sender : Option String)
      (parameters : Option GVariant) (goesOn : Bool) (c : DBusConnection Nat Nat) (w : World),
      p.object address = some o → Undone (Event.ends goesOn c) o
        (DBusConnection.handleMethodCall (Closure.run out.environment dict address) sender
          p.interface BlueZConstants.writeValue parameters p.handlerData) w := by
  intro h
  have hw := h { Outside.quiet with notifyCallback := some (.error .other) } (.ok none)
    (fun _ => 0) (.descriptor 0 "" "") (.descriptor 0) none (some (.byteArray [0x01, 0x01]))
    false DBusObject.live soleDescriptor rfl
    ⟨.domain DBusError.errorFailed, DBusConnection.internalError none, by decide⟩
  exact absurd hw.2 (by decide)

end Write
end Ggk
