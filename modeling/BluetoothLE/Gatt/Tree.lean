import BluetoothLE.Gatt.Creation

namespace Ggk
open Lib
set_option autoImplicit true

namespace GattServer
variable {s : GattServer η}

/-- The path of an object, and whether it counts as registered at it. -/
def standing (s : GattServer η) : ObjectPtr → Option (DBusObjectPath × Bool)
  | .application => some (s.app.object.path, s.app.object.registered)
  | .service i => (s.service i).map fun x => (x.object.path, x.object.registered)
  | .characteristic i u =>
    (s.characteristic i u).map fun n => (n.characteristic.path, n.characteristic.registered)
  | .descriptor i u v => (s.descriptor i u v).map fun x => (x.path, x.registered)

/-- All that a call can do. -/
inductive Change (parse : String → Option (List String)) (s : GattServer η) :
    GattServer η → Prop
  | declined (h : Declines s.connection c') : Change parse s { s with connection := c' }
  | constructed (path : DBusObjectPath) (uuid : GattUuid) (isPrimary : Bool) :
    Change parse s { s with objects := s.objects ++ [.constructed path uuid isPrimary] }
  | unset (hx : s.service i = some x) (hr : x.object.registered = false)
      (h : Declines s.connection c') :
    Change parse s { s.setService i { x with
      object := (ObjectPtr.service i).described x.object.path } with connection := c' }
  | set (hx : s.service i = some x) (hr : x.object.registered = false)
      (h : Admits parse (.service i) x.object.path s.connection c') :
    Change parse s { s.setService i { x with
      object := { (ObjectPtr.service i).described x.object.path with registered := true } } with
      connection := c' }
  | added (hx : s.service i = some x) (hn : s.services.any (s.hasUuid x.uuid) = false) :
    Change parse s { s with services := s.services ++ [i] }
  | removed (uuid : GattUuid) (h : s.services.any (s.hasUuid uuid) = true) :
    Change parse s { s with services := s.services.eraseP (s.hasUuid uuid) }
  | characteristic {uuid : GattUuid} {properties permissions : UInt8} (hx : s.service i = some x)
      (hn : x.characteristics[uuid.toString]? = none)
      (h : Admits parse (.characteristic i uuid.toString) x.nextPath s.connection c') :
    Change parse s { s.setService i (x.withCharacteristic uuid.toString
      ⟨.created x.nextPath uuid properties permissions, ∅⟩) with connection := c' }
  | descriptor {uuid : GattUuid} {permissions : UInt8} (hx : s.service i = some x)
      (hn : x.characteristics[u]? = some n) (hd : n.descriptors[uuid.toString]? = none)
      (h : Admits parse (.descriptor i u uuid.toString) n.nextPath s.connection c') :
    Change parse s { s.setService i
      (x.withCharacteristic u (n.withDescriptor uuid permissions)) with connection := c' }
  | unregistered (ha : s.app.registered = false) (hr : s.app.object.registered = false)
      (h : Declines s.connection c') :
    Change parse s { s with
      app := ⟨ObjectPtr.application.described s.app.object.path, false⟩, connection := c' }
  | registered (answered : Bool) (ha : s.app.registered = false)
      (hr : s.app.object.registered = false)
      (h : Admits parse .application s.app.object.path s.connection c') :
    Change parse s { s with
      app := ⟨{ ObjectPtr.application.described s.app.object.path with registered := true },
        answered⟩
      connection := c' }

/-- No object that is not registered has other tables than its class gives it. -/
structure Plain (s : GattServer η) : Prop where
  application : s.app.object.registered = false → SetsUp .application s.app.object
  services : ∀ i x, s.service i = some x → x.object.registered = false →
    SetsUp (.service i) x.object

section Lookups
variable {c' : DBusConnection (ObjectPtr × HandlerData Closure) η}

theorem setService_self (hx : s.service i = some x) : s.setService i x = s := by
  obtain ⟨h, hg⟩ := List.getElem?_eq_some_iff.1 hx
  have heq : s.objects.set i x = s.objects := by rw [← hg, List.set_getElem_self]
  rw [setService, heq]

theorem service_setService (hx : s.service i = some x) (y : GattService) (j : Nat) :
    (s.setService i y).service j = if i = j then some y else s.service j := by
  obtain ⟨h, _⟩ := List.getElem?_eq_some_iff.1 hx
  rw [service, setService, List.getElem?_set]
  split
  · rfl
  · rfl

theorem characteristic_setService (hx : s.service i = some x) (y : GattService) (j : Nat)
    (v : String) : (s.setService i y).characteristic j v =
      if i = j then y.characteristics[v]? else s.characteristic j v := by
  rw [characteristic, service_setService hx]
  split
  · rfl
  · rfl

theorem characteristic_of_service (hx : s.service i = some x) (u : String) :
    s.characteristic i u = x.characteristics[u]? := by
  rw [characteristic, hx, Option.bind_some]

theorem characteristic_object (hx : s.service i = some x) (o : DBusObject Closure) (j : Nat)
    (v : String) :
    (s.setService i { x with object := o }).characteristic j v = s.characteristic j v := by
  rw [characteristic_setService hx]
  split
  · rename_i hij
    subst hij
    exact (characteristic_of_service hx v).symm
  · rfl

theorem standing_object (hx : s.service i = some x) (o : DBusObject Closure) (p : ObjectPtr) :
    (s.setService i { x with object := o }).standing p =
      if p = .service i then some (o.path, o.registered) else s.standing p := by
  cases p with
  | application => rfl
  | service j =>
    rw [standing, service_setService hx]
    by_cases hij : i = j
    · simp [hij]
    · simp [hij, Ne.symm hij, standing]
  | characteristic j v => rw [standing, characteristic_object hx, if_neg (by simp), standing]
  | descriptor j v w =>
    rw [standing, descriptor, characteristic_object hx, if_neg (by simp), standing, descriptor]

theorem characteristic_insert (hx : s.service i = some x) (u : String) (n : CharacteristicNode)
    (j : Nat) (v : String) :
    (s.setService i (x.withCharacteristic u n)).characteristic j v =
      if i = j ∧ u = v then some n else s.characteristic j v := by
  rw [characteristic_setService hx]
  by_cases hij : i = j
  · subst hij
    rw [if_pos rfl, GattService.withCharacteristic, getElem?_insert_string,
      characteristic_of_service hx]
    simp only [true_and]
  · rw [if_neg hij, if_neg fun h => hij h.1]

theorem standing_insert_service (hx : s.service i = some x) (u : String) (n : CharacteristicNode)
    (j : Nat) : (s.setService i (x.withCharacteristic u n)).standing (.service j) =
      s.standing (.service j) := by
  rw [standing, service_setService hx]
  split
  · rename_i hij
    subst hij
    rw [standing, hx]
    rfl
  · rfl

theorem standing_characteristic (hx : s.service i = some x) (hn : x.characteristics[u]? = none)
    (characteristic : GattCharacteristic) (p : ObjectPtr) :
    (s.setService i (x.withCharacteristic u ⟨characteristic, ∅⟩)).standing p =
      if p = .characteristic i u then some (characteristic.path, characteristic.registered)
      else s.standing p := by
  cases p with
  | application => rfl
  | service j => rw [standing_insert_service hx, if_neg (by simp)]
  | characteristic j v =>
    rw [standing, characteristic_insert hx]
    by_cases hij : i = j ∧ u = v
    · rw [if_pos hij, if_pos (by rw [hij.1, hij.2])]
      rfl
    · rw [if_neg hij, if_neg (by simpa [eq_comm] using hij)]
      rfl
  | descriptor j v w =>
    have hne : ObjectPtr.descriptor j v w ≠ .characteristic i u := by simp
    rw [standing, descriptor, characteristic_insert hx, if_neg hne, standing, descriptor]
    by_cases hij : i = j ∧ u = v
    · rw [← hij.1, ← hij.2, if_pos ⟨rfl, rfl⟩, characteristic_of_service hx, hn]
      simp
    · rw [if_neg hij]

theorem standing_descriptor (hx : s.service i = some x) (hn : x.characteristics[u]? = some n)
    {n' : CharacteristicNode} {d : GattDescriptor} (hc : n'.characteristic = n.characteristic)
    (hd : n'.descriptors = n.descriptors.insert v d) (p : ObjectPtr) :
    (s.setService i (x.withCharacteristic u n')).standing p =
      if p = .descriptor i u v then some (d.path, d.registered) else s.standing p := by
  have hu := (characteristic_of_service hx u).trans hn
  cases p with
  | application => rfl
  | service j => rw [standing_insert_service hx, if_neg (by simp)]
  | characteristic j w =>
    have hne : ObjectPtr.characteristic j w ≠ .descriptor i u v := by simp
    rw [standing, characteristic_insert hx, if_neg hne, standing]
    by_cases hij : i = j ∧ u = w
    · rw [if_pos hij, ← hij.1, ← hij.2, hu, Option.map_some, Option.map_some, hc]
    · rw [if_neg hij]
  | descriptor j w z =>
    rw [standing, GattServer.descriptor, characteristic_insert hx]
    by_cases hij : i = j ∧ u = w
    · obtain ⟨rfl, rfl⟩ := hij
      rw [if_pos ⟨rfl, rfl⟩, Option.bind_some, hd, getElem?_insert_string]
      by_cases hz : v = z
      · simp [hz]
      · simp [hz, Ne.symm hz, standing, GattServer.descriptor, hu]
    · rw [if_neg hij, if_neg (fun h => hij (by cases h; exact ⟨rfl, rfl⟩))]
      rfl

end Lookups

section Changes
variable (parse : String → Option (List String))

theorem Change.refl (s : GattServer η) : Change parse s s :=
  .declined (.refl s.connection)

/-- All that a call of `createCharacteristic` can do. -/
inductive CreatesCharacteristic (s : GattServer η) (i : Nat) (uuid : GattUuid)
    (properties permissions : UInt8) : Returned × GattServer η → Prop
  | missing (hx : s.service i = none) :
    CreatesCharacteristic s i uuid properties permissions (.pointer none, s)
  | existing (hx : s.service i = some x) (hn : x.characteristics[uuid.toString]? = some n) :
    CreatesCharacteristic s i uuid properties permissions
      (.pointer (some (.characteristic i uuid.toString)), s)
  | declined (hx : s.service i = some x) (hn : x.characteristics[uuid.toString]? = none)
      (h : Declines s.connection c') :
    CreatesCharacteristic s i uuid properties permissions
      (.pointer none, { s with connection := c' })
  | created (hx : s.service i = some x) (hn : x.characteristics[uuid.toString]? = none)
      (h : Admits parse (.characteristic i uuid.toString) x.nextPath s.connection c') :
    CreatesCharacteristic s i uuid properties permissions
      (.pointer (some (.characteristic i uuid.toString)),
        { s.setService i (x.withCharacteristic uuid.toString
          ⟨.created x.nextPath uuid properties permissions, ∅⟩) with connection := c' })

/-- All that a call of `createDescriptor` can do. -/
inductive CreatesDescriptor (s : GattServer η) (i : Nat) (u : String) (uuid : GattUuid)
    (permissions : UInt8) : Returned × GattServer η → Prop
  | missing (hn : s.characteristic i u = none) :
    CreatesDescriptor s i u uuid permissions (.pointer none, s)
  | existing (hx : s.service i = some x) (hn : x.characteristics[u]? = some n)
      (hd : n.descriptors[uuid.toString]? = some d) :
    CreatesDescriptor s i u uuid permissions (.pointer (some (.descriptor i u uuid.toString)), s)
  | declined (hx : s.service i = some x) (hn : x.characteristics[u]? = some n)
      (hd : n.descriptors[uuid.toString]? = none) (h : Declines s.connection c') :
    CreatesDescriptor s i u uuid permissions (.pointer none, { s with connection := c' })
  | created (hx : s.service i = some x) (hn : x.characteristics[u]? = some n)
      (hd : n.descriptors[uuid.toString]? = none)
      (h : Admits parse (.descriptor i u uuid.toString) n.nextPath s.connection c') :
    CreatesDescriptor s i u uuid permissions (.pointer (some (.descriptor i u uuid.toString)),
      { s.setService i (x.withCharacteristic u (n.withDescriptor uuid permissions)) with
        connection := c' })

theorem perform_createCharacteristic (i : Nat) (uuid : GattUuid)
    (properties permissions : UInt8) (refuses : List Bool) :
    CreatesCharacteristic parse s i uuid properties permissions
      (s.perform parse (.createCharacteristic i uuid properties permissions refuses)) := by
  cases hx : s.service i with
  | none =>
    simp only [perform, hx]
    exact .missing hx
  | some x =>
    cases hc : x.characteristics.contains uuid.toString with
    | true =>
      obtain ⟨n, hn⟩ := Option.isSome_iff_exists.1
        (Std.TreeMap.contains_eq_isSome_getElem?.symm.trans hc)
      simp only [perform, hx, GattService.createCharacteristic_existing parse refuses i properties
        permissions s.connection hc, setService_self hx]
      exact .existing hx hn
    | false =>
      have hn := Std.TreeMap.getElem?_eq_none_of_contains_eq_false hc
      obtain ⟨c', h, heq⟩ | ⟨c', h, heq⟩ := GattService.createCharacteristic_cases parse refuses i
        properties permissions s.connection hc
      · simp only [perform, hx, heq, setService_self hx]
        exact .declined hx hn h
      · simp only [perform, hx, heq]
        exact .created hx hn h

theorem perform_createDescriptor (i : Nat) (u : String) (uuid : GattUuid) (permissions : UInt8)
    (refuses : List Bool) :
    CreatesDescriptor parse s i u uuid permissions
      (s.perform parse (.createDescriptor i u uuid permissions refuses)) := by
  cases hx : s.service i with
  | none =>
    simp only [perform, hx]
    apply CreatesDescriptor.missing
    rw [characteristic, hx]
    rfl
  | some x =>
    cases hn : x.characteristics[u]? with
    | none =>
      simp only [perform, hx, GattService.createDescriptor, hn, setService_self hx]
      exact .missing ((characteristic_of_service hx u).trans hn)
    | some n =>
      cases hc : n.descriptors.contains uuid.toString with
      | true =>
        obtain ⟨d, hd⟩ := Option.isSome_iff_exists.1
          (Std.TreeMap.contains_eq_isSome_getElem?.symm.trans hc)
        simp only [perform, hx, GattService.createDescriptor_existing parse refuses i permissions
          s.connection hn hc, setService_self hx]
        exact .existing hx hn hd
      | false =>
        have hd := Std.TreeMap.getElem?_eq_none_of_contains_eq_false hc
        obtain ⟨c', h, heq⟩ | ⟨c', h, heq⟩ := GattService.createDescriptor_cases parse refuses i
          permissions s.connection hn hc
        · simp only [perform, hx, heq, setService_self hx]
          exact .declined hx hn hd h
        · simp only [perform, hx, heq]
          exact .created hx hn hd h

/-- All that the calls can do, each with what it returns. -/
inductive Performs (s : GattServer η) : ServerStep → Returned × GattServer η → Prop
  | constructed (path : DBusObjectPath) (uuid : GattUuid) (isPrimary : Bool) :
    Performs s (.constructService path uuid isPrimary) (.pointer (some (.service s.objects.length)),
      { s with objects := s.objects ++ [.constructed path uuid isPrimary] })
  | notSetUp (i : Nat) (refuses : List Bool) :
    Performs s (.setupService i refuses) (.verdict false, s)
  | unset (refuses : List Bool) (hx : s.service i = some x) (hr : x.object.registered = false)
      (h : Declines s.connection c') :
    Performs s (.setupService i refuses) (.verdict false, { s.setService i { x with
      object := (ObjectPtr.service i).described x.object.path } with connection := c' })
  | set (refuses : List Bool) (hx : s.service i = some x) (hr : x.object.registered = false)
      (h : Admits parse (.service i) x.object.path s.connection c') :
    Performs s (.setupService i refuses) (.verdict true, { s.setService i { x with
      object := { (ObjectPtr.service i).described x.object.path with registered := true } } with
      connection := c' })
  | notAdded (service : Option Nat) : Performs s (.addService service) (.verdict false, s)
  | added (hx : s.service i = some x) (hn : s.services.any (s.hasUuid x.uuid) = false) :
    Performs s (.addService (some i)) (.verdict true, { s with services := s.services ++ [i] })
  | notRemoved (uuid : GattUuid) (h : s.services.any (s.hasUuid uuid) = false) :
    Performs s (.removeService uuid) (.verdict false, s)
  | removed (uuid : GattUuid) (h : s.services.any (s.hasUuid uuid) = true) :
    Performs s (.removeService uuid)
      (.verdict true, { s with services := s.services.eraseP (s.hasUuid uuid) })
  | createsCharacteristic {uuid : GattUuid} (refuses : List Bool)
      (h : CreatesCharacteristic parse s i uuid properties permissions r) :
    Performs s (.createCharacteristic i uuid properties permissions refuses) r
  | createsDescriptor {uuid : GattUuid} (refuses : List Bool)
      (h : CreatesDescriptor parse s i u uuid permissions r) :
    Performs s (.createDescriptor i u uuid permissions refuses) r
  | registeredBefore (refuses : List Bool) (answered : Bool) (ha : s.app.registered = true) :
    Performs s (.registerWithBlueZ refuses answered) (.verdict true, s)
  | exportedBefore (refuses : List Bool) (answered : Bool) (ha : s.app.registered = false)
      (hr : s.app.object.registered = true) :
    Performs s (.registerWithBlueZ refuses answered) (.verdict false, s)
  | unregistered (refuses : List Bool) (answered : Bool) (ha : s.app.registered = false)
      (hr : s.app.object.registered = false) (h : Declines s.connection c') :
    Performs s (.registerWithBlueZ refuses answered) (.verdict false, { s with
      app := ⟨ObjectPtr.application.described s.app.object.path, false⟩, connection := c' })
  | registered (refuses : List Bool) (answered : Bool) (ha : s.app.registered = false)
      (hr : s.app.object.registered = false)
      (h : Admits parse .application s.app.object.path s.connection c') :
    Performs s (.registerWithBlueZ refuses answered) (.verdict answered, { s with
      app := ⟨{ ObjectPtr.application.described s.app.object.path with registered := true },
        answered⟩
      connection := c' })

theorem performs_setupService (h : Plain s) (i : Nat) (refuses : List Bool) :
    Performs parse s (.setupService i refuses) (s.perform parse (.setupService i refuses)) := by
  cases hx : s.service i with
  | none =>
    simp only [perform, hx]
    exact .notSetUp i refuses
  | some x =>
    cases hr : x.object.registered with
    | true =>
      simp only [perform, hx, ObjectPtr.setupDBusInterfaces, DBusObject.setup_registered hr,
        setService_self hx]
      exact .notSetUp i refuses
    | false =>
      obtain ⟨c', hc, heq⟩ | ⟨c', hc, heq⟩ := setupDBusInterfaces_cases parse refuses s.connection
        (h.services i x hx hr) hr
      · simp only [perform, hx, heq]
        exact .unset refuses hx hr hc
      · simp only [perform, hx, heq]
        exact .set refuses hx hr hc

theorem performs_addService (service : Option Nat) :
    Performs parse s (.addService service) (s.perform parse (.addService service)) := by
  cases service with
  | none => exact .notAdded none
  | some i =>
    cases hx : s.service i with
    | none =>
      simp only [perform, addService, hx]
      exact .notAdded (some i)
    | some x =>
      cases hn : s.services.any (s.hasUuid x.uuid) with
      | true =>
        simp only [perform, addService, hx, hn, if_true]
        exact .notAdded (some i)
      | false =>
        simp only [perform, addService, hx, hn, Bool.false_eq_true, if_false]
        exact .added hx hn

theorem performs_removeService (uuid : GattUuid) :
    Performs parse s (.removeService uuid) (s.perform parse (.removeService uuid)) := by
  cases h : s.services.any (s.hasUuid uuid) with
  | false =>
    simp only [perform, removeService, h, Bool.false_eq_true, if_false]
    exact .notRemoved uuid h
  | true =>
    simp only [perform, removeService, h, if_true]
    exact .removed uuid h

theorem setupApplication_eq (refuses : List Bool) (o : DBusObject Closure)
    (c : DBusConnection (ObjectPtr × HandlerData Closure) η) :
    GattApplication.setupDBusInterfaces parse refuses ObjectPtr.application
        ⟨.application, .handleGetManagedObjects⟩ o c =
      ObjectPtr.application.setupDBusInterfaces parse refuses o c := by
  cases hr : o.registered with
  | true =>
    rw [ObjectPtr.setupDBusInterfaces, DBusObject.setup_registered hr,
      GattApplication.setupDBusInterfaces_registered hr]
  | false =>
    rw [ObjectPtr.setupDBusInterfaces, DBusObject.setup_unregistered hr]
    simp [GattApplication.setupDBusInterfaces, DBusObject.addInterface, DBusObject.addMethod, hr,
      ObjectPtr.methods, DBusObject.withMethod, ObjectPtr.interface, ObjectPtr.properties]

theorem performs_registerWithBlueZ (h : Plain s) (refuses : List Bool) (answered : Bool) :
    Performs parse s (.registerWithBlueZ refuses answered)
      (s.perform parse (.registerWithBlueZ refuses answered)) := by
  rw [perform]
  cases ha : s.app.registered with
  | true =>
    rw [GattApplication.registerWithBlueZ_registered _ _ _ _ ha]
    exact .registeredBefore refuses answered ha
  | false =>
    cases hr : s.app.object.registered with
    | true =>
      rw [GattApplication.registerWithBlueZ_exported _ _ _ _ ha hr]
      exact .exportedBefore refuses answered ha hr
    | false =>
      rw [GattApplication.registerWithBlueZ, setupApplication_eq, ha]
      obtain ⟨c', hc, heq⟩ | ⟨c', hc, heq⟩ := setupDBusInterfaces_cases parse refuses s.connection
        (h.application hr) hr
      · simp only [heq, Bool.not_false, Bool.false_eq_true, if_false, if_true]
        exact .unregistered refuses answered ha hr hc
      · have ho : c'.isConnected = true := DBusConnection.isConnected_iff.2 hc.opened.2
        cases answered <;>
          simp only [heq, DBusConnection.callMethod, ho, Bool.not_true, Bool.not_false,
            Bool.false_eq_true, if_false, if_true]
        · exact .registered refuses false ha hr hc
        · exact .registered refuses true ha hr hc

theorem perform_performs (h : Plain s) (step : ServerStep) :
    Performs parse s step (s.perform parse step) := by
  cases step with
  | constructService path uuid isPrimary => exact .constructed path uuid isPrimary
  | setupService i refuses => exact performs_setupService parse h i refuses
  | addService service => exact performs_addService parse service
  | removeService uuid => exact performs_removeService parse uuid
  | createCharacteristic i uuid properties permissions refuses =>
    exact .createsCharacteristic refuses
      (perform_createCharacteristic parse i uuid properties permissions refuses)
  | createDescriptor i u uuid permissions refuses =>
    exact .createsDescriptor refuses (perform_createDescriptor parse i u uuid permissions refuses)
  | registerWithBlueZ refuses answered => exact performs_registerWithBlueZ parse h refuses answered

variable {parse}

theorem CreatesCharacteristic.change {uuid : GattUuid}
    (h : CreatesCharacteristic parse s i uuid properties permissions r) : Change parse s r.2 := by
  cases h with
  | missing hx => exact .refl parse s
  | existing hx hn => exact .refl parse s
  | declined hx hn h => exact .declined h
  | created hx hn h => exact .characteristic hx hn h

theorem CreatesDescriptor.change {uuid : GattUuid}
    (h : CreatesDescriptor parse s i u uuid permissions r) : Change parse s r.2 := by
  cases h with
  | missing hn => exact .refl parse s
  | existing hx hn hd => exact .refl parse s
  | declined hx hn hd h => exact .declined h
  | created hx hn hd h => exact .descriptor hx hn hd h

theorem Performs.change (h : Performs parse s step r) : Change parse s r.2 := by
  cases h with
  | constructed path uuid isPrimary => exact .constructed path uuid isPrimary
  | notSetUp i refuses => exact .refl parse s
  | unset refuses hx hr h => exact .unset hx hr h
  | set refuses hx hr h => exact .set hx hr h
  | notAdded service => exact .refl parse s
  | added hx hn => exact .added hx hn
  | notRemoved uuid h => exact .refl parse s
  | removed uuid h => exact .removed uuid h
  | createsCharacteristic refuses h => exact h.change
  | createsDescriptor refuses h => exact h.change
  | registeredBefore refuses answered ha => exact .refl parse s
  | exportedBefore refuses answered ha hr => exact .refl parse s
  | unregistered refuses answered ha hr h => exact .unregistered ha hr h
  | registered refuses answered ha hr h => exact .registered answered ha hr h

theorem perform_change (parse : String → Option (List String)) (h : Plain s) (step : ServerStep) :
    Change parse s (s.perform parse step).2 :=
  (perform_performs parse h step).change

end Changes

def constructService (s : GattServer η) (path : DBusObjectPath) (uuid : GattUuid)
    (isPrimary : Bool) : GattServer η :=
  { s with objects := s.objects ++ [.constructed path uuid isPrimary] }

theorem service_constructService (path : DBusObjectPath) (uuid : GattUuid) (isPrimary : Bool)
    (j : Nat) : (s.constructService path uuid isPrimary).service j = s.service j ∨
      s.service j = none ∧ (s.constructService path uuid isPrimary).service j =
        some (.constructed path uuid isPrimary) := by
  rw [service, service, constructService, List.getElem?_append]
  split
  · exact .inl rfl
  · rename_i hj
    rw [List.getElem?_eq_none (Nat.le_of_not_lt hj)]
    cases j - s.objects.length with
    | zero => exact .inr ⟨rfl, rfl⟩
    | succ k => exact .inl rfl

theorem characteristic_constructService (path : DBusObjectPath) (uuid : GattUuid)
    (isPrimary : Bool) (j : Nat) (v : String) :
    (s.constructService path uuid isPrimary).characteristic j v = s.characteristic j v := by
  rcases service_constructService (s := s) path uuid isPrimary j with h | ⟨h, h'⟩
  · rw [characteristic, h, characteristic]
  · rw [characteristic, h', characteristic, h]
    simp [GattService.constructed]

theorem standing_constructService (path : DBusObjectPath) (uuid : GattUuid) (isPrimary : Bool)
    (p : ObjectPtr) : (s.constructService path uuid isPrimary).standing p = s.standing p ∨
      s.standing p = none ∧ ∃ i, p = .service i ∧
        (s.constructService path uuid isPrimary).standing p = some (path, false) := by
  have hc := characteristic_constructService (s := s) path uuid isPrimary
  cases p with
  | application => exact .inl rfl
  | service j =>
    rcases service_constructService (s := s) path uuid isPrimary j with h | ⟨h, h'⟩
    · exact .inl (by rw [standing, h, standing])
    · exact .inr ⟨by rw [standing, h]; rfl, j, rfl, by rw [standing, h']; rfl⟩
  | characteristic j v => exact .inl (by rw [standing, hc, standing])
  | descriptor j v w => exact .inl (by rw [standing, descriptor, hc, standing, descriptor])

theorem standing_application {c' : DBusConnection (ObjectPtr × HandlerData Closure) η}
    (app : GattApplication Closure) (p : ObjectPtr) :
    ({ s with app, connection := c' } : GattServer η).standing p =
      if p = .application then some (app.object.path, app.object.registered)
      else s.standing p := by
  cases p with
  | application => rfl
  | _ => rfl

/-- A change registers at most one object, at a path that it had before or that it is created
with, and no object loses its path or its registration. -/
theorem Change.standing_cases (h : Change parse s s') :
    Declines s.connection s'.connection ∧ (∀ p, s'.standing p = s.standing p ∨
        s.standing p = none ∧ ∃ i path, p = .service i ∧ s'.standing p = some (path, false)) ∨
      ∃ this path, Admits parse this path s.connection s'.connection ∧
        (s.standing this = none ∨ s.standing this = some (path, false)) ∧
        ∀ p, s'.standing p = if p = this then some (path, true) else s.standing p := by
  cases h with
  | declined h => exact .inl ⟨h, fun p => .inl rfl⟩
  | constructed path uuid isPrimary =>
    refine .inl ⟨.refl _, fun p => ?_⟩
    rcases standing_constructService (s := s) path uuid isPrimary p with h | ⟨h, i, hp, h'⟩
    · exact .inl h
    · exact .inr ⟨h, i, path, hp, h'⟩
  | @unset i x c' hx hr h =>
    refine .inl ⟨h, fun p => .inl ((standing_object hx _ p).trans ?_)⟩
    split
    · rename_i hp
      rw [hp, standing, hx, Option.map_some, hr]
      rfl
    · rfl
  | @set i x c' hx hr h =>
    refine .inr ⟨_, _, h, .inr ?_, standing_object hx _⟩
    rw [standing, hx, Option.map_some, hr]
  | added hx hn => exact .inl ⟨.refl _, fun p => .inl rfl⟩
  | removed uuid h => exact .inl ⟨.refl _, fun p => .inl rfl⟩
  | @characteristic i x c' uuid properties permissions hx hn h =>
    refine .inr ⟨_, _, h, .inl ?_, standing_characteristic hx hn _⟩
    rw [standing, characteristic_of_service hx, hn]
    rfl
  | @descriptor i x u n c' uuid permissions hx hn hd h =>
    have hc : (n.withDescriptor uuid permissions).characteristic = n.characteristic := rfl
    refine .inr ⟨_, _, h, .inl ?_, standing_descriptor hx hn hc rfl⟩
    rw [standing, GattServer.descriptor, characteristic_of_service hx, hn, Option.bind_some, hd]
    rfl
  | unregistered ha hr h =>
    refine .inl ⟨h, fun p => .inl ((standing_application _ p).trans ?_)⟩
    split
    · rename_i hp
      rw [hp, standing, hr]
      rfl
    · rfl
  | registered answered ha hr h =>
    refine .inr ⟨_, _, h, .inr ?_, standing_application _⟩
    rw [standing, hr]

end GattServer
end Ggk
