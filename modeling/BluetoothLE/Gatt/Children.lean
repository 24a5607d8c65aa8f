import BluetoothLE.Gatt.Tree

namespace Ggk
open Lib
set_option autoImplicit true

namespace GattServer
variable {s s' : GattServer η} {parse : String → Option (List String)}

/-- The registry leads from the path of every registered object to an export of its own. -/
def Held (parse : String → Option (List String)) (s : GattServer η) : Prop :=
  ∀ p path, s.standing p = some (path, true) → Holds parse s.connection p path

theorem Held.next (hs : Held parse s) (h : Change parse s s') : Held parse s' := by
  intro p path hp
  obtain ⟨hd, hst⟩ | ⟨this, path', ha, _, hst⟩ := h.standing_cases
  · rcases hst p with heq | ⟨_, i, path', _, heq⟩
    · exact hd.holds (hs p path (heq.symm.trans hp))
    · rw [heq] at hp
      cases hp
  · rw [hst] at hp
    split at hp
    · rename_i hthis
      cases hp
      rw [hthis]
      exact ha.holds
    · exact ha.holds_other (hs p path hp)

end GattServer

def ObjectPtr.isChild : ObjectPtr → Bool
  | .application | .service _ => false
  | .characteristic _ _ | .descriptor _ _ _ => true

/-- What is kept at the address of a characteristic or of a descriptor, but for its map. -/
inductive Child where
  | characteristic (characteristic : GattCharacteristic)
  | descriptor (descriptor : GattDescriptor)
  deriving DecidableEq

namespace Child

def path : Child → DBusObjectPath
  | .characteristic x => x.path
  | .descriptor x => x.path

def registered : Child → Bool
  | .characteristic x => x.registered
  | .descriptor x => x.registered

end Child

namespace GattServer
variable {s s' : GattServer η} {parse : String → Option (List String)}

def child (s : GattServer η) : ObjectPtr → Option Child
  | .application | .service _ => none
  | .characteristic i u => (s.characteristic i u).map fun n => .characteristic n.characteristic
  | .descriptor i u v => (s.descriptor i u v).map .descriptor

theorem standing_child (h : s.child p = some x) :
    p.isChild = true ∧ s.standing p = some (x.path, x.registered) := by
  cases p with
  | application => cases h
  | service i => cases h
  | characteristic i u =>
    obtain ⟨n, hn, rfl⟩ := Option.map_eq_some_iff.1 h
    apply And.intro rfl
    rw [standing, hn]
    rfl
  | descriptor i u v =>
    obtain ⟨d, hd, rfl⟩ := Option.map_eq_some_iff.1 h
    apply And.intro rfl
    rw [standing, hd]
    rfl

/-- Every characteristic and every descriptor is registered. -/
def ChildrenRegistered (s : GattServer η) : Prop :=
  ∀ p path r, p.isChild = true → s.standing p = some (path, r) → r = true

theorem ChildrenRegistered.next (hs : ChildrenRegistered s) (h : Change parse s s') :
    ChildrenRegistered s' := by
  intro p path r hc hp
  obtain ⟨_, hst⟩ | ⟨this, path', _, _, hst⟩ := h.standing_cases
  · rcases hst p with heq | ⟨_, i, path', rfl, _⟩
    · exact hs p path r hc (heq.symm.trans hp)
    · cases hc
  · rw [hst] at hp
    split at hp
    · cases hp
      rfl
    · exact hs p path r hc hp

/-- A change to the map of a characteristic adds at most to it. -/
structure Grows (n n' : CharacteristicNode) : Prop where
  characteristic : n'.characteristic = n.characteristic
  descriptors : ∀ (v : String) (d : GattDescriptor), n.descriptors[v]? = some d →
    n'.descriptors[v]? = some d

theorem Grows.refl (n : CharacteristicNode) : Grows n n := ⟨rfl, fun _ _ h => h⟩

theorem Grows.withDescriptor {n : CharacteristicNode} {uuid : GattUuid}
    (h : n.descriptors[uuid.toString]? = none) (permissions : UInt8) :
    Grows n (n.withDescriptor uuid permissions) := by
  have hd (v : String) (d : GattDescriptor) (hd : n.descriptors[v]? = some d) :
      (n.withDescriptor uuid permissions).descriptors[v]? = some d := by
    rw [CharacteristicNode.withDescriptor, getElem?_insert_string, if_neg _, hd]
    rintro rfl
    rw [h] at hd
    cases hd
  exact ⟨rfl, hd⟩

/-- Characteristics stay where they are, and their maps only grow. -/
theorem Change.keeps_characteristic (h : Change parse s s') (hn : s.characteristic i u = some n) :
    ∃ n', s'.characteristic i u = some n' ∧ Grows n n' := by
  cases h with
  | declined h => exact ⟨n, hn, .refl n⟩
  | constructed path uuid isPrimary =>
    refine ⟨n, ?_, .refl n⟩
    obtain ⟨x, hx, hn'⟩ := Option.bind_eq_some_iff.1 hn
    obtain ⟨hi, _⟩ := List.getElem?_eq_some_iff.1 hx
    have hx' : (s.objects ++ [.constructed path uuid isPrimary])[i]? = some x := by
      rw [List.getElem?_append, if_pos hi]
      exact hx
    rw [GattServer.characteristic, service, hx', Option.bind_some]
    exact hn'
  | unset hx hr h => exact ⟨n, (characteristic_object hx _ i u).trans hn, .refl n⟩
  | set hx hr h => exact ⟨n, (characteristic_object hx _ i u).trans hn, .refl n⟩
  | added hx hn' => exact ⟨n, hn, .refl n⟩
  | removed uuid h => exact ⟨n, hn, .refl n⟩
  | characteristic hx hn' h =>
    refine ⟨n, (characteristic_insert hx _ _ i u).trans ?_, .refl n⟩
    rw [if_neg _, hn]
    rintro ⟨rfl, rfl⟩
    rw [characteristic_of_service hx, hn'] at hn
    cases hn
  | @descriptor j x w n₀ c' uuid permissions hx hn' hd h =>
    by_cases hij : j = i ∧ w = u
    · obtain ⟨rfl, rfl⟩ := hij
      rw [characteristic_of_service hx, hn'] at hn
      cases hn
      exact ⟨_, (characteristic_insert hx _ _ j w).trans (if_pos ⟨rfl, rfl⟩),
        .withDescriptor hd permissions⟩
    · exact ⟨n, (characteristic_insert hx _ _ i u).trans ((if_neg hij).trans hn), .refl n⟩
  | unregistered ha hr h => exact ⟨n, hn, .refl n⟩
  | registered answered ha hr h => exact ⟨n, hn, .refl n⟩

theorem Change.keeps_child (h : Change parse s s') (hp : s.child p = some x) :
    s'.child p = some x := by
  cases p with
  | application => cases hp
  | service i => cases hp
  | characteristic i u =>
    obtain ⟨n, hn, rfl⟩ := Option.map_eq_some_iff.1 hp
    obtain ⟨n', hn', hg⟩ := h.keeps_characteristic hn
    rw [child, hn', Option.map_some, hg.characteristic]
  | descriptor i u v =>
    obtain ⟨d, hd, rfl⟩ := Option.map_eq_some_iff.1 hp
    obtain ⟨n, hn, hd⟩ := Option.bind_eq_some_iff.1 hd
    obtain ⟨n', hn', hg⟩ := h.keeps_characteristic hn
    rw [child, GattServer.descriptor, hn', Option.bind_some, hg.descriptors v _ hd]
    rfl

theorem Plain.setService (hs : Plain s) (hx : s.service i = some x) {y : GattService}
    (hy : y.object.registered = false → SetsUp (.service i) y.object)
    (c' : DBusConnection (ObjectPtr × HandlerData Closure) η) :
    Plain { s.setService i y with connection := c' } := by
  refine ⟨hs.application, fun j z hz hr => ?_⟩
  replace hz := (service_setService hx y j).symm.trans hz
  split at hz
  · rename_i hij
    subst hij
    cases hz
    exact hy hr
  · exact hs.services j z hz hr

theorem Plain.next (hs : Plain s) (h : Change parse s s') : Plain s' := by
  cases h with
  | declined h => exact ⟨hs.application, hs.services⟩
  | constructed path uuid isPrimary =>
    refine ⟨hs.application, fun i x hx hr => ?_⟩
    rw [service, List.getElem?_append] at hx
    split at hx
    · exact hs.services i x hx hr
    · obtain ⟨_, hk⟩ := List.getElem?_eq_some_iff.1 hx
      rw [List.getElem_singleton] at hk
      subst hk
      exact setsUp_constructed (.service i) path
  | unset hx hr h => exact hs.setService hx (fun _ => setsUp_service _ _) _
  | set hx hr h => exact hs.setService hx (fun hf => absurd hf Bool.true_eq_false.mp) _
  | added hx hn => exact ⟨hs.application, hs.services⟩
  | removed uuid h => exact ⟨hs.application, hs.services⟩
  | @characteristic i x _ _ _ _ hx hn h =>
    apply hs.setService hx
    exact hs.services i x hx
  | @descriptor i x _ _ _ _ _ hx hn hd h =>
    apply hs.setService hx
    exact hs.services i x hx
  | unregistered ha hr h => exact ⟨fun _ => setsUp_application _, hs.services⟩
  | registered answered ha hr h =>
    exact ⟨fun hf => absurd hf Bool.true_eq_false.mp, hs.services⟩

/-- The invariant of the runs of a server. -/
structure Sound (parse : String → Option (List String)) (s : GattServer η) : Prop where
  plain : Plain s
  held : Held parse s
  children : ChildrenRegistered s

theorem Sound.start (parse : String → Option (List String)) (path : DBusObjectPath)
    (c : DBusConnection (ObjectPtr × HandlerData Closure) η) : Sound parse (start path c) := by
  have hst (p : ObjectPtr) : (GattServer.start path c).standing p =
      if p = .application then some (path, false) else none := by
    cases p with
    | application => rfl
    | _ => rfl
  apply Sound.mk
  · exact ⟨fun _ => setsUp_constructed .application path, fun i x hx => by cases hx⟩
  · intro p path' hp
    rw [hst] at hp
    split at hp <;> cases hp
  · intro p path' r hc hp
    rw [hst] at hp
    split at hp
    · rename_i hpa
      subst hpa
      cases hc
    · cases hp

theorem Sound.next (h : Sound parse s) (step : ServerStep) :
    Sound parse ((serving parse).next s step) := by
  have hc := perform_change parse h.plain step
  exact ⟨h.plain.next hc, h.held.next hc, h.children.next hc⟩

theorem Sound.run (h : Sound parse s) (steps : List ServerStep) :
    Sound parse ((serving parse).run s steps) :=
  Machine.run_invariant (C := fun _ _ => True) h (fun _ step hs _ => hs.next step)
    (Machine.every_of_forall fun _ _ _ => trivial)

theorem Sound.child_holds (h : Sound parse s) (hp : s.child p = some x) :
    Holds parse s.connection p x.path := by
  obtain ⟨hc, hst⟩ := standing_child hp
  rw [h.children p _ _ hc hst] at hst
  exact h.held p x.path hst

theorem Sound.keeps_child (h : Sound parse s) (hp : s.child p = some x) (steps : List ServerStep) :
    ((serving parse).run s steps).child p = some x := by
  induction steps generalizing s with
  | nil => exact hp
  | cons step steps ih =>
    exact ih (h.next step) ((perform_change parse h.plain step).keeps_child hp)

end GattServer

/-- The object that a creating call asks for. -/
def ServerStep.target : ServerStep → Option ObjectPtr
  | .createCharacteristic i uuid _ _ _ => some (.characteristic i uuid.toString)
  | .createDescriptor i u uuid _ _ => some (.descriptor i u uuid.toString)
  | _ => none

/-- The bus refuses no registration of a creating call. -/
def ServerStep.Unrefused : ServerStep → Prop
  | .createCharacteristic _ _ _ _ refuses | .createDescriptor _ _ _ _ refuses => refuses = []
  | _ => True

namespace GattServer
variable {s s' : GattServer η} {parse : String → Option (List String)}

/-- What a creating call returns, and what it does when it creates nothing. -/
def Creates (p : ObjectPtr) (s : GattServer η) (r : Returned × GattServer η) : Prop :=
  (∃ x, s.child p = some x) ∧ r = (.pointer (some p), s) ∨
    s.child p = none ∧
      ((∃ c', Declines s.connection c' ∧ r = (.pointer none, { s with connection := c' })) ∨
        r.1 = .pointer (some p) ∧ ∃ x, r.2.child p = some x)

theorem child_withCharacteristic (hx : s.service i = some x) (u : String)
    (n : CharacteristicNode) (c' : DBusConnection (ObjectPtr × HandlerData Closure) η) :
    ({ s.setService i (x.withCharacteristic u n) with connection := c' } :
      GattServer η).child (.characteristic i u) = some (.characteristic n.characteristic) := by
  have hn := (characteristic_insert hx u n i u).trans (if_pos ⟨rfl, rfl⟩)
  exact congrArg (Option.map fun n => Child.characteristic n.characteristic) hn

theorem child_withDescriptor (hx : s.service i = some x) (u : String) (n : CharacteristicNode)
    (uuid : GattUuid) (permissions : UInt8)
    (c' : DBusConnection (ObjectPtr × HandlerData Closure) η) :
    ({ s.setService i (x.withCharacteristic u (n.withDescriptor uuid permissions)) with
      connection := c' } : GattServer η).child (.descriptor i u uuid.toString) =
        some (.descriptor (.created n.nextPath uuid permissions)) := by
  have hn := (characteristic_insert hx u (n.withDescriptor uuid permissions) i u).trans
    (if_pos ⟨rfl, rfl⟩)
  have hd : (n.withDescriptor uuid permissions).descriptors[uuid.toString]? =
      some (.created n.nextPath uuid permissions) :=
    (getElem?_insert_string _ _ _ _).trans (if_pos rfl)
  apply (congrArg (fun r => (Option.bind r fun n => n.descriptors[uuid.toString]?).map
    Child.descriptor) hn).trans
  rw [Option.bind_some, hd, Option.map_some]

theorem CreatesCharacteristic.creates {uuid : GattUuid}
    (h : CreatesCharacteristic parse s i uuid properties permissions r) :
    Creates (.characteristic i uuid.toString) s r := by
  cases h with
  | missing hx =>
    refine .inr ⟨?_, .inl ⟨s.connection, .refl _, rfl⟩⟩
    rw [child, characteristic, hx]
    rfl
  | @existing x n hx hn =>
    refine .inl ⟨⟨.characteristic n.characteristic, ?_⟩, rfl⟩
    rw [child, characteristic_of_service hx, hn, Option.map_some]
  | declined hx hn h =>
    refine .inr ⟨?_, .inl ⟨_, h, rfl⟩⟩
    rw [child, characteristic_of_service hx, hn]
    rfl
  | @created x c' hx hn h =>
    apply Or.inr
    apply And.intro
    · rw [child, characteristic_of_service hx, hn]
      rfl
    · exact .inr ⟨rfl, _, child_withCharacteristic hx uuid.toString _ c'⟩

theorem CreatesDescriptor.creates {uuid : GattUuid}
    (h : CreatesDescriptor parse s i u uuid permissions r) :
    Creates (.descriptor i u uuid.toString) s r := by
  cases h with
  | missing hn =>
    refine .inr ⟨?_, .inl ⟨s.connection, .refl _, rfl⟩⟩
    rw [child, descriptor, hn]
    rfl
  | @existing x n d hx hn hd =>
    refine .inl ⟨⟨.descriptor d, ?_⟩, rfl⟩
    rw [child, descriptor, characteristic_of_service hx, hn, Option.bind_some, hd, Option.map_some]
  | declined hx hn hd h =>
    refine .inr ⟨?_, .inl ⟨_, h, rfl⟩⟩
    rw [child, descriptor, characteristic_of_service hx, hn, Option.bind_some, hd]
    rfl
  | @created x n c' hx hn hd h =>
    apply Or.inr
    apply And.intro
    · rw [child, descriptor, characteristic_of_service hx, hn, Option.bind_some, hd]
      rfl
    · exact .inr ⟨rfl, _, child_withDescriptor hx u n uuid permissions c'⟩

theorem perform_creates (parse : String → Option (List String)) (s : GattServer η)
    (ht : step.target = some p) : Creates p s (s.perform parse step) := by
  cases step with
  | createCharacteristic i uuid properties permissions refuses =>
    cases ht
    exact (perform_createCharacteristic parse i uuid properties permissions refuses).creates
  | createDescriptor i u uuid permissions refuses =>
    cases ht
    exact (perform_createDescriptor parse i u uuid permissions refuses).creates
  | _ => cases ht

/-- The object that a call would create, and the path that it would get. -/
def createsAt (s : GattServer η) : ServerStep → Option (ObjectPtr × DBusObjectPath)
  | .createCharacteristic i uuid _ _ _ => (s.service i).bind fun x =>
    if x.characteristics.contains uuid.toString then none
    else some (.characteristic i uuid.toString, x.nextPath)
  | .createDescriptor i u uuid _ _ => (s.characteristic i u).bind fun n =>
    if n.descriptors.contains uuid.toString then none
    else some (.descriptor i u uuid.toString, n.nextPath)
  | _ => none

theorem characteristic_of_objects (h : s'.objects = s.objects) (i : Nat) (u : String) :
    s'.characteristic i u = s.characteristic i u := by
  rw [characteristic, characteristic, service, service, h]

theorem createsAt_of_objects (h : s'.objects = s.objects) (step : ServerStep) :
    s'.createsAt step = s.createsAt step := by
  cases step with
  | createCharacteristic i uuid properties permissions refuses =>
    rw [createsAt, createsAt, service, service, h]
  | createDescriptor i u uuid permissions refuses =>
    rw [createsAt, createsAt, characteristic_of_objects h]
  | _ => rfl

/-- A call on a live connection creates what it is asked for if nothing is known of the path and
the bus refuses nothing. -/
theorem perform_creates_single (h : s.createsAt step = some (p, path)) (hr : step.Unrefused)
    (hp : parse p.introspectionXml = some [p.interface]) (hc : s.connection.connection = .opened)
    (hf : s.connection.registeredObjects[path.toString]? = none)
    (he : ∀ e ∈ s.connection.exports.entries, e.2.path ≠ path) :
    (s.perform parse step).1 = .pointer (some p) ∧
      ((s.perform parse step).2.child p).map Child.path = some path := by
  cases step with
  | createCharacteristic i uuid properties permissions refuses =>
    obtain ⟨x, hx, h⟩ := Option.bind_eq_some_iff.1 h
    split at h
    · cases h
    · rename_i hn
      cases h
      rw [Bool.not_eq_true] at hn
      have hset := setupDBusInterfaces_single
        (setsUp_constructed (.characteristic i uuid.toString) x.nextPath) rfl hp hc hf he
      rw [perform, hx, hr]
      simp only [GattService.createCharacteristic, uuid.toString_isEmpty, hn, hset,
        Bool.false_eq_true, if_false, Bool.not_true, true_and]
      exact congrArg (Option.map Child.path) (child_withCharacteristic hx uuid.toString _ _)
  | createDescriptor i u uuid permissions refuses =>
    obtain ⟨n, hn, h⟩ := Option.bind_eq_some_iff.1 h
    obtain ⟨x, hx, hn⟩ := Option.bind_eq_some_iff.1 hn
    split at h
    · cases h
    · rename_i hd
      cases h
      rw [Bool.not_eq_true] at hd
      have hset := setupDBusInterfaces_single
        (setsUp_constructed (.descriptor i u uuid.toString) n.nextPath) rfl hp hc hf he
      rw [perform, hx, hr]
      simp only [GattService.createDescriptor, hn, uuid.toString_isEmpty, hd, hset,
        Bool.false_eq_true, if_false, Bool.not_true, true_and]
      exact congrArg (Option.map Child.path) (child_withDescriptor hx u n uuid permissions _)
  | _ => cases h

/-- In every run the children have paths of their own that are registered as theirs. The call for
one that is there returns it, as it is for the rest of the run, and changes nothing; a call that
returns null changes neither a map nor the registry, and leaves the number to the next one. -/
theorem children_run (parse : String → Option (List String)) (path : DBusObjectPath)
    (c : DBusConnection (ObjectPtr × HandlerData Closure) η) (steps : List ServerStep) :
    let s := (serving parse).run (start path c) steps
    (∀ p q x y, s.child p = some x → s.child q = some y → x.path = y.path → p = q) ∧
      (∀ p x, s.child p = some x → Holds parse s.connection p x.path) ∧
      (∀ p x later, s.child p = some x → ((serving parse).run s later).child p = some x) ∧
      ∀ step p, step.target = some p →
        ((∃ x, s.child p = some x) → s.perform parse step = (.pointer (some p), s)) ∧
        ((s.perform parse step).1 = .pointer none →
          (s.perform parse step).2.objects = s.objects ∧
            (s.perform parse step).2.connection.registeredObjects =
              s.connection.registeredObjects ∧
            ∀ later, (s.perform parse step).2.createsAt later = s.createsAt later) ∧
        ∀ q, (s.perform parse step).1 = .pointer (some q) →
          q = p ∧ ∃ x, (s.perform parse step).2.child p = some x := by
  intro s
  have hs : Sound parse s := (Sound.start parse path c).run steps
  refine ⟨fun p q x y hp hq hxy => ?_, fun p x hp => hs.child_holds hp,
    fun p x later hp => hs.keeps_child hp later, fun step p ht => ?_⟩
  · have hq' := hs.child_holds hq
    rw [← hxy] at hq'
    exact (hs.child_holds hp).unique hq'
  · obtain ⟨hx, heq⟩ | ⟨hn, ⟨c', ⟨exports, _, rfl⟩, heq⟩ | ⟨hr, hx⟩⟩ := perform_creates parse s ht
    · rw [heq]
      refine ⟨fun _ => rfl, fun h => ?_, fun q h => ?_⟩
      · cases h
      · cases h
        exact ⟨rfl, hx⟩
    · rw [heq]
      refine ⟨fun hx => ?_, fun _ => ⟨rfl, rfl, createsAt_of_objects rfl⟩, fun q h => ?_⟩
      · obtain ⟨x, hx⟩ := hx
        rw [hn] at hx
        cases hx
      · cases h
    · refine ⟨fun hx => ?_, fun h => ?_, fun q h => ?_⟩
      · obtain ⟨x, hx⟩ := hx
        rw [hn] at hx
        cases hx
      · rw [hr] at h
        cases h
      · rw [hr] at h
        cases h
        exact ⟨rfl, hx⟩

/-- A service gets a characteristic, and this a descriptor. -/
example :
    let c := ((DBusConnection.constructed (ObjectPtr × HandlerData Closure) Unit).connect true).2
    let u := (GattUuid.fromShortUuid 0x2a37).toString
    let s := (serving fun _ => some [BlueZConstants.gattCharacteristicInterface]).run
      (start ⟨"/com/example"⟩ c)
      [.constructService ⟨"/com/example/a"⟩ (.fromShortUuid 0x180d) true,
        .createCharacteristic 0 (.fromShortUuid 0x2a37) 0x10 0x01 [],
        .createDescriptor 0 u (.fromShortUuid 0x2902) 0x01 []]
    (s.child (.characteristic 0 u)).map Child.path = some ⟨"/com/example/a/char/1"⟩ ∧
      (s.child (.descriptor 0 u (GattUuid.fromShortUuid 0x2902).toString)).map Child.path =
        some ⟨"/com/example/a/char/1/desc/1"⟩ := by
  decide

end GattServer
end Ggk
