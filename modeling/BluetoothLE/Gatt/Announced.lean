import BluetoothLE.DBus.Introspection
import BluetoothLE.Gatt.Keys

namespace Ggk
open Lib
set_option autoImplicit true

theorem ObjectPtr.interfaceNames_introspectionXml (p : ObjectPtr) :
    Introspection.interfaceNames p.introspectionXml = some [p.interface] :=
  Introspection.interfaceNames_introspectionXml _

namespace GattServer
variable {s s' : GattServer η} {parse : String → Option (List String)}

def isRegistered (s : GattServer η) (i : Nat) : Bool :=
  (s.service i).any fun x => x.object.registered

/-- A call to register the application gets as far as BlueZ. -/
def asksBlueZ (parse : String → Option (List String)) (s : GattServer η) (refuses : List Bool) :
    Bool :=
  !s.app.registered &&
    (ObjectPtr.application.setupDBusInterfaces parse refuses s.app.object s.connection).1

/-- A service is set up before BlueZ is told of it. -/
def SetUpFirst (parse : String → Option (List String)) (s : GattServer η) : ServerStep → Prop
  | .addService (some i) => s.app.registered = true → ∀ x, s.service i = some x →
    s.services.any (s.hasUuid x.uuid) = false → x.object.registered = true
  | .registerWithBlueZ refuses answered => s.asksBlueZ parse refuses = true → answered = true →
    ∀ i ∈ s.services, s.isRegistered i = true
  | _ => True

/-- BlueZ knows of no service that is not set up. -/
def Callable (s : GattServer η) : Prop :=
  s.app.registered = true → ∀ i ∈ s.services, s.isRegistered i = true

theorem isRegistered_iff : s.isRegistered i = true ↔
    ∃ x, s.service i = some x ∧ x.object.registered = true := by
  rw [isRegistered]
  cases s.service i with
  | none => simp
  | some x => simp

theorem Change.keeps_registered (h : Change parse s s') (hi : s.isRegistered i = true) :
    s'.isRegistered i = true := by
  obtain ⟨x, hx, hr⟩ := isRegistered_iff.1 hi
  obtain ⟨y, hy, hxy⟩ := h.keeps_service hx
  exact isRegistered_iff.2 ⟨y, hy, hxy.registered hr⟩

theorem Holds.exported {c : DBusConnection (ObjectPtr × HandlerData Closure) η}
    (h : Holds parse c p path) (hp : parse p.introspectionXml = some [p.interface]) :
    GDBus.exported c.exports path p.interface = true := by
  obtain ⟨id, interface, interfaces, _, hx, hi, he⟩ := h
  cases hp.symm.trans hx
  cases List.mem_singleton.1 hi
  exact GDBus.exported_iff.2 ⟨_, he, rfl, rfl⟩

/-- What is registered when the dictionary lists it can be called. -/
theorem Sound.entry_exported (hs : Sound parse s)
    (hparse : ∀ p : ObjectPtr, parse p.introspectionXml = some [p.interface])
    (hr : ∀ i, p = .service i → s.isRegistered i = true) (he : EntryOf s p e)
    (hi : i ∈ e.interfaces) : GDBus.exported s.connection.exports ⟨e.path⟩ i.1 = true := by
  have hinterface : i.1 = p.interface := by
    have hmem : i.1 ∈ e.interfaces.map Prod.fst := List.mem_map_of_mem hi
    rw [he.interfaces] at hmem
    exact List.mem_singleton.1 hmem
  rw [hinterface]
  have hpath := he.path
  refine Holds.exported ?_ (hparse p)
  cases he with
  | @service i x hx =>
    obtain ⟨y, hy, hyr⟩ := isRegistered_iff.1 (hr i rfl)
    cases hx.symm.trans hy
    apply hs.held
    rw [standing, hx, Option.map_some, hyr]
    rfl
  | @characteristic i x u n hx hn =>
    have hc : s.child (.characteristic i u) = some (.characteristic n.characteristic) := by
      rw [child, characteristic_of_service hx, hn, Option.map_some]
    exact hs.child_holds hc
  | @descriptor i x u n v d hx hn hd =>
    have hc : s.child (.descriptor i u v) = some (.descriptor d) := by
      rw [child, GattServer.descriptor, characteristic_of_service hx, hn, Option.bind_some, hd,
        Option.map_some]
    exact hs.child_holds hc

/-- Only an accepted registration makes BlueZ know of the application. -/
theorem Performs.app (h : Performs parse s step r) (hr : r.2.app.registered = true) :
    s.app.registered = true ∨ ∃ refuses, step = .registerWithBlueZ refuses true := by
  cases h with
  | createsCharacteristic refuses h => cases h <;> exact .inl hr
  | createsDescriptor refuses h => cases h <;> exact .inl hr
  | unregistered refuses answered ha ho h => cases hr
  | registered refuses answered ha ho h =>
    cases hr
    exact .inr ⟨refuses, rfl⟩
  | _ => exact .inl hr

/-- BlueZ has been asked when it comes to know of the application. -/
theorem asksBlueZ_of_registered (ha : s.app.registered = false)
    (h : (s.perform parse (.registerWithBlueZ refuses answered)).2.app.registered = true) :
    s.asksBlueZ parse refuses = true := by
  simp only [perform, GattApplication.registerWithBlueZ, setupApplication_eq, ha] at h
  rw [asksBlueZ, ha]
  cases hset : (ObjectPtr.application.setupDBusInterfaces parse refuses s.app.object
      s.connection).1 with
  | true => rfl
  | false =>
    rw [hset] at h
    exact absurd h Bool.false_ne_true

theorem Callable.next (h : Callable s) (hplain : Plain s) (hc : SetUpFirst parse s step) :
    Callable (s.perform parse step).2 := by
  have hp := perform_performs parse hplain step
  intro ha i hi
  apply hp.change.keeps_registered
  cases happ : s.app.registered with
  | true =>
    obtain hsub | ⟨j, x, rfl, hx, hn, heq⟩ := hp.services
    · exact h happ i (hsub hi)
    · rw [heq] at hi
      rcases List.mem_append.1 hi with hi | hi
      · exact h happ i hi
      · cases List.mem_singleton.1 hi
        exact isRegistered_iff.2 ⟨x, hx, hc happ x hx hn⟩
  | false =>
    obtain happ' | ⟨refuses, rfl⟩ := hp.app ha
    · cases happ.symm.trans happ'
    · obtain hsub | ⟨_, _, hstep, _⟩ := hp.services
      · exact hc (asksBlueZ_of_registered happ ha) rfl i (hsub hi)
      · cases hstep

/-- In every run that sets services up first, whatever BlueZ is told of can be called while the
last registration counts. -/
theorem announced_run (parse : String → Option (List String))
    (hparse : ∀ p : ObjectPtr, parse p.introspectionXml = some [p.interface])
    (path : DBusObjectPath) (c : DBusConnection (ObjectPtr × HandlerData Closure) η)
    (steps : List ServerStep) (h : (serving parse).Every (SetUpFirst parse) (start path c) steps) :
    let s := watched parse path c steps
    s.2.told = true → ∀ e ∈ s.1.createManagedObjectsDict, ∀ i ∈ e.interfaces,
      GDBus.exported s.1.connection.exports ⟨e.path⟩ i.1 = true := by
  have hI : Sound parse ((serving parse).run (start path c) steps) ∧
      Callable ((serving parse).run (start path c) steps) := by
    refine Machine.run_invariant (I := fun s => Sound parse s ∧ Callable s)
      ⟨.start parse path c, fun ha => by cases ha⟩ ?_ h
    intro s step hs hc
    exact ⟨hs.1.next step, hs.2.next hs.1.plain hc⟩
  rw [← watched_fst] at hI
  obtain ⟨hs, hc⟩ := hI
  obtain ⟨_, hl, hk⟩ := tracked_run parse path c steps
  intro s ht e he i hi
  obtain ⟨p, hp, hentry⟩ := mem_dict.1 he
  refine hs.entry_exported hparse ?_ (entry_eq_some.1 hentry) hi
  rintro j rfl
  exact hc (hk.2.trans ht) j ((mem_listing hl.exist).1 hp)

theorem perform_registerWithBlueZ_single (hs : Plain s) (ha : s.app.registered = false)
    (hr : s.app.object.registered = false)
    (hp : parse ObjectPtr.application.introspectionXml = some [ObjectPtr.application.interface])
    (hc : s.connection.connection = .opened)
    (hf : s.connection.registeredObjects[s.app.object.path.toString]? = none)
    (hx : ∀ e ∈ s.connection.exports.entries, e.2.path ≠ s.app.object.path) :
    (s.perform parse (.registerWithBlueZ [] true)).2.app.registered = true := by
  have hset := setupDBusInterfaces_single (hs.application hr) hr hp hc hf hx
  simp [perform, GattApplication.registerWithBlueZ, setupApplication_eq, ha, hset,
    DBusConnection.callMethod, DBusConnection.isConnected, hc]

theorem perform_setupService_single (hs : Plain s) (hx : s.service i = some x)
    (hr : x.object.registered = false)
    (hp : parse (ObjectPtr.service i).introspectionXml = some [(ObjectPtr.service i).interface])
    (hc : s.connection.connection = .opened)
    (hf : s.connection.registeredObjects[x.object.path.toString]? = none)
    (he : ∀ e ∈ s.connection.exports.entries, e.2.path ≠ x.object.path) :
    (s.perform parse (.setupService i [])).2 = { s.setService i { x with
      object := { (ObjectPtr.service i).described x.object.path with registered := true } } with
      connection := { s.connection with
        exports := s.connection.exports.insert ⟨x.object.path, (ObjectPtr.service i).interface,
          .service i, (ObjectPtr.service i).handlerData⟩
        registeredObjects := s.connection.registeredObjects.insert x.object.path.toString
          (s.connection.exports.last + 1) } } := by
  have hset := setupDBusInterfaces_single (hs.services i x hx hr) hr hp hc hf he
  simp only [perform, hx, hset]

/-- A service is set up, added, and announced. -/
theorem announced_example :
    let c := ((DBusConnection.constructed (ObjectPtr × HandlerData Closure) Unit).connect true).2
    let s := watched Introspection.interfaceNames ⟨"/com/example"⟩ c
      [.constructService ⟨"/com/example/a"⟩ (.fromShortUuid 0x180d) true, .setupService 0 [],
        .addService (some 0), .registerWithBlueZ [] true]
    s.2.told = true ∧ ∀ e ∈ s.1.createManagedObjectsDict, ∀ i ∈ e.interfaces,
      GDBus.exported s.1.connection.exports ⟨e.path⟩ i.1 = true := by
  intro c s
  let x : GattService := .constructed ⟨"/com/example/a"⟩ (.fromShortUuid 0x180d) true
  let s₁ : GattServer Unit := { start ⟨"/com/example"⟩ c with objects := [x] }
  have hplain : Plain s₁ := by
    refine ⟨fun _ => setsUp_constructed .application _, ?_⟩
    rintro (_ | i) y hy hr
    · cases hy
      exact setsUp_constructed (.service 0) _
    · cases hy
  have hset := perform_setupService_single hplain (i := 0) rfl rfl
    (ObjectPtr.interfaceNames_introspectionXml (.service 0)) rfl rfl (fun e he => by cases he)
  obtain ⟨s₂, hs₂⟩ : ∃ s₂, s₂ = (s₁.perform Introspection.interfaceNames (.setupService 0 [])).2 :=
    ⟨_, rfl⟩
  rw [← hs₂] at hset
  have happ : s₂.app = .constructed ⟨"/com/example"⟩ := by rw [hset]; rfl
  have hservices : s₂.services = [] := by rw [hset]; rfl
  have hregistered : s₂.isRegistered 0 = true := by rw [hset]; rfl
  have hopened : s₂.connection.connection = .opened := by rw [hset]; rfl
  have hfree : s₂.connection.registeredObjects["/com/example"]? = none := by
    have hne : "/com/example/a" ≠ "/com/example" := by decide
    rw [hset]
    exact (getElem?_insert_string ∅ _ _ 1).trans (if_neg hne)
  have hexports : ∀ e ∈ s₂.connection.exports.entries, e.2.path ≠ ⟨"/com/example"⟩ := by
    intro e he
    rw [hset] at he
    cases List.mem_singleton.1 he
    decide
  have h₁ : (serving Introspection.interfaceNames).next (start ⟨"/com/example"⟩ c)
      (.constructService ⟨"/com/example/a"⟩ (.fromShortUuid 0x180d) true) = s₁ := rfl
  have h₂ : (serving Introspection.interfaceNames).next s₁ (.setupService 0 []) = s₂ := hs₂.symm
  have h₃ : (serving Introspection.interfaceNames).next s₂ (.addService (some 0)) =
      { s₂ with services := [0] } := by
    obtain ⟨y, hy, _⟩ := isRegistered_iff.1 hregistered
    simp [Machine.next, serving, perform, addService, hy, hservices]
  have hplain₃ : Plain ({ s₂ with services := [0] } : GattServer Unit) := by
    have h := hplain.next (perform_change Introspection.interfaceNames hplain (.setupService 0 []))
    rw [← hs₂] at h
    exact ⟨h.application, h.services⟩
  have hlast := perform_registerWithBlueZ_single hplain₃ (by rw [happ]; rfl) (by rw [happ]; rfl)
    (ObjectPtr.interfaceNames_introspectionXml .application) hopened (by rw [happ]; exact hfree)
    (by rw [happ]; exact hexports)
  have ht : s.2.told = true := by
    rw [watched_told, Machine.run_cons, h₁, Machine.run_cons, h₂, Machine.run_cons, h₃]
    exact hlast
  refine ⟨ht, announced_run _ ObjectPtr.interfaceNames_introspectionXml _ c _ ⟨trivial, ?_⟩ ht⟩
  rw [h₁]
  refine ⟨trivial, ?_⟩
  rw [h₂]
  refine ⟨fun ha => ?_, ?_⟩
  · rw [happ] at ha
    cases ha
  · rw [h₃]
    refine ⟨fun _ _ i hi => ?_, trivial⟩
    cases List.mem_singleton.1 hi
    exact hregistered

/-- A service that is only added is announced at a path where there is nothing to call. -/
theorem announced_not_exported :
    let c := ((DBusConnection.constructed (ObjectPtr × HandlerData Closure) Unit).connect true).2
    let s := watched (fun _ => some [BlueZConstants.objectManagerInterface]) ⟨"/com/example"⟩ c
      [.constructService ⟨"/com/example/a"⟩ (.fromShortUuid 0x180d) true, .addService (some 0),
        .registerWithBlueZ [] true]
    s.2.told = true ∧ s.1.createManagedObjectsDict.map ManagedObject.path = ["/com/example/a"] ∧
      GDBus.exported s.1.connection.exports ⟨"/com/example/a"⟩
        BlueZConstants.gattServiceInterface = false := by
  decide

end GattServer
end Ggk
