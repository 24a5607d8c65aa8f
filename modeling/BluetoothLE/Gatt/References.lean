import BluetoothLE.Gatt.ManagedObjects
import BluetoothLE.Gatt.Watching

namespace Ggk
open Lib
set_option autoImplicit true

def ManagedObject.has (e : ManagedObject) (interface : String) : Bool :=
  (e.interfaces.lookup interface).isSome

/-- The paths in an array property of the one interface are those of the entries whose property
of the other interface leads back. -/
structure References (dict : List ManagedObject) (parent array child back : String) : Prop where
  forward : ∀ e ∈ dict, e.has parent = true → ∃ paths,
    e.property parent array = some (.objectPathArray paths) ∧
      ∀ path, path ∈ paths ↔
        ∃ e' ∈ dict, e'.path = path ∧ e'.property child back = some (.objectPath e.path)
  backward : ∀ e' ∈ dict, e'.has child = true → ∃ e ∈ dict, e.has parent = true ∧
    e'.property child back = some (.objectPath e.path)

namespace GattServer
variable {s : GattServer η} {parse : String → Option (List String)} {e : ManagedObject}

def pathOf (s : GattServer η) (p : ObjectPtr) : Option DBusObjectPath :=
  (s.standing p).map Prod.fst

/-- The services have different paths. -/
def ServicesApart (s : GattServer η) (added : List Nat) : Prop :=
  ∀ i ∈ added, ∀ j ∈ added, s.pathOf (.service i) = s.pathOf (.service j) → i = j

/-- No service is at the path of a characteristic or a descriptor of the services. -/
def ChildrenApart (s : GattServer η) (added : List Nat) : Prop :=
  ∀ i ∈ added, ∀ p, p.isChild = true → s.Below added p → s.pathOf (.service i) ≠ s.pathOf p

theorem mem_dict : e ∈ s.createManagedObjectsDict ↔ ∃ p ∈ s.listing, s.entry p = some e := by
  have h : some e ∈ s.createManagedObjectsDict.map some ↔ e ∈ s.createManagedObjectsDict := by
    simp
  rw [← h, dict_eq, List.mem_map]

inductive EntryOf (s : GattServer η) : ObjectPtr → ManagedObject → Prop
  | service (hx : s.service i = some x) : EntryOf s (.service i) x.managedObject
  | characteristic (hx : s.service i = some x) (hn : x.characteristics[u]? = some n) :
    EntryOf s (.characteristic i u) (n.managedObject x)
  | descriptor (hx : s.service i = some x) (hn : x.characteristics[u]? = some n)
    (hd : n.descriptors[v]? = some d) :
    EntryOf s (.descriptor i u v) (d.managedObject n.characteristic)

theorem entry_eq_some : s.entry p = some e ↔ EntryOf s p e := by
  apply Iff.intro
  · intro h
    cases p with
    | application => cases h
    | service i =>
      obtain ⟨x, hx, rfl⟩ := Option.map_eq_some_iff.1 h
      exact .service hx
    | characteristic i u =>
      obtain ⟨x, hx, h⟩ := Option.bind_eq_some_iff.1 h
      obtain ⟨n, hn, rfl⟩ := Option.map_eq_some_iff.1 h
      exact .characteristic hx hn
    | descriptor i u v =>
      obtain ⟨n, hn, h⟩ := Option.bind_eq_some_iff.1 h
      obtain ⟨x, hx, hn⟩ := Option.bind_eq_some_iff.1 hn
      obtain ⟨d, hd, rfl⟩ := Option.map_eq_some_iff.1 h
      exact .descriptor hx hn hd
  · intro h
    cases h with
    | service hx => rw [entry, hx, Option.map_some]
    | characteristic hx hn => rw [entry, hx, Option.bind_some, hn, Option.map_some]
    | descriptor hx hn hd =>
      rw [entry, GattServer.characteristic, hx, Option.bind_some, hn, Option.bind_some, hd,
        Option.map_some]

theorem EntryOf.path (h : EntryOf s p e) : s.pathOf p = some ⟨e.path⟩ := by
  cases h with
  | service hx =>
    rw [pathOf, standing, hx]
    rfl
  | characteristic hx hn =>
    rw [pathOf, standing, characteristic_of_service hx, hn]
    rfl
  | descriptor hx hn hd =>
    rw [pathOf, standing, GattServer.descriptor, characteristic_of_service hx, hn,
      Option.bind_some, hd]
    rfl

theorem EntryOf.interfaces (h : EntryOf s p e) : e.interfaces.map Prod.fst = [p.interface] := by
  cases h with
  | service hx => rfl
  | characteristic hx hn => rfl
  | descriptor hx hn hd => rfl

theorem exists_entry (hb : s.Below added p) (he : ∀ i ∈ added, (s.service i).isSome = true) :
    ∃ e, EntryOf s p e := by
  cases p with
  | application => exact hb.elim
  | service i =>
    obtain ⟨x, hx⟩ := Option.isSome_iff_exists.1 (he i hb)
    exact ⟨_, .service hx⟩
  | characteristic i u =>
    obtain ⟨n, hn⟩ := Option.isSome_iff_exists.1 hb.2
    obtain ⟨x, hx, hn⟩ := Option.bind_eq_some_iff.1 hn
    exact ⟨_, .characteristic hx hn⟩
  | descriptor i u v =>
    obtain ⟨d, hd⟩ := Option.isSome_iff_exists.1 hb.2
    obtain ⟨n, hn, hd⟩ := Option.bind_eq_some_iff.1 hd
    obtain ⟨x, hx, hn⟩ := Option.bind_eq_some_iff.1 hn
    exact ⟨_, .descriptor hx hn hd⟩

theorem EntryOf.mem (h : EntryOf s p e) (hp : p ∈ s.listing) : e ∈ s.createManagedObjectsDict :=
  mem_dict.2 ⟨p, hp, entry_eq_some.2 h⟩

theorem mem_characteristicPaths {x : GattService} : path ∈ x.characteristicPaths ↔
    ∃ (u : String) (n : CharacteristicNode),
      x.characteristics[u]? = some n ∧ n.characteristic.path.toString = path := by
  rw [GattService.characteristicPaths, List.mem_map]
  apply Iff.intro
  · intro h
    obtain ⟨pair, hp, rfl⟩ := h
    exact ⟨pair.1, pair.2, Std.TreeMap.mem_toList_iff_getElem?_eq_some.1 hp, rfl⟩
  · intro h
    obtain ⟨u, n, hn, rfl⟩ := h
    exact ⟨(u, n), Std.TreeMap.mem_toList_iff_getElem?_eq_some.2 hn, rfl⟩

theorem mem_descriptorPaths {n : CharacteristicNode} : path ∈ n.descriptorPaths ↔
    ∃ (v : String) (d : GattDescriptor), n.descriptors[v]? = some d ∧ d.path.toString = path := by
  rw [CharacteristicNode.descriptorPaths, List.mem_map]
  apply Iff.intro
  · intro h
    obtain ⟨pair, hp, rfl⟩ := h
    exact ⟨pair.1, pair.2, Std.TreeMap.mem_toList_iff_getElem?_eq_some.1 hp, rfl⟩
  · intro h
    obtain ⟨v, d, hd, rfl⟩ := h
    exact ⟨(v, d), Std.TreeMap.mem_toList_iff_getElem?_eq_some.2 hd, rfl⟩

theorem below_characteristic (hx : s.service i = some x) (hn : x.characteristics[u]? = some n)
    (hi : i ∈ added) : s.Below added (.characteristic i u) := by
  apply And.intro hi
  rw [characteristic_of_service hx, hn]
  rfl

theorem below_descriptor (hx : s.service i = some x) (hn : x.characteristics[u]? = some n)
    (hd : n.descriptors[v]? = some d) (hi : i ∈ added) : s.Below added (.descriptor i u v) := by
  apply And.intro hi
  rw [GattServer.descriptor, characteristic_of_service hx, hn, Option.bind_some, hd]
  rfl

theorem references_services (hl : Listed s) (ha : s.ServicesApart s.services) :
    References s.createManagedObjectsDict BlueZConstants.gattServiceInterface "Characteristics"
      BlueZConstants.gattCharacteristicInterface "Service" := by
  have hm (p : ObjectPtr) := mem_listing (s := s) (p := p) hl.exist
  apply References.mk
  · intro e he hh
    obtain ⟨p, hp, h⟩ := mem_dict.1 he
    cases entry_eq_some.1 h with
    | @service i x hx =>
      refine ⟨x.characteristicPaths, rfl, fun path => mem_characteristicPaths.trans ?_⟩
      apply Iff.intro
      · intro hpath
        obtain ⟨u, n, hn, rfl⟩ := hpath
        have hc := (hm _).2 (below_characteristic hx hn ((hm _).1 hp))
        exact ⟨_, (EntryOf.characteristic hx hn).mem hc, rfl, rfl⟩
      · intro hpath
        obtain ⟨e', he', rfl, hback⟩ := hpath
        obtain ⟨q, hq, h'⟩ := mem_dict.1 he'
        cases entry_eq_some.1 h' with
        | service hy => cases hback
        | @characteristic j y u n hy hn =>
          have hj := ((hm _).1 hq).1
          have hxy : s.pathOf (.service j) = s.pathOf (.service i) := by
            rw [(EntryOf.service hx).path, (EntryOf.service hy).path]
            injection hback with hback
            injection hback with hback
            exact congrArg _ (congrArg _ hback)
          cases ha j hj i ((hm _).1 hp) hxy
          cases hx.symm.trans hy
          exact ⟨u, n, hn, rfl⟩
        | descriptor hy hn hd => cases hback
    | characteristic hx hn => cases hh
    | descriptor hx hn hd => cases hh
  · intro e he hh
    obtain ⟨p, hp, h⟩ := mem_dict.1 he
    cases entry_eq_some.1 h with
    | service hx => cases hh
    | @characteristic i x u n hx hn =>
      have hi : ObjectPtr.service i ∈ s.listing := (hm _).2 ((hm _).1 hp).1
      exact ⟨x.managedObject, (EntryOf.service hx).mem hi, rfl, rfl⟩
    | descriptor hx hn hd => cases hh

theorem Sound.children_apart (h : Sound parse s) (hp : s.child p = some x)
    (hq : s.child q = some y) (hxy : x.path = y.path) : p = q := by
  have hq' := h.child_holds hq
  rw [← hxy] at hq'
  exact (h.child_holds hp).unique hq'

theorem references_characteristics (hs : Sound parse s) (hl : Listed s) :
    References s.createManagedObjectsDict BlueZConstants.gattCharacteristicInterface "Descriptors"
      BlueZConstants.gattDescriptorInterface "Characteristic" := by
  have hm (p : ObjectPtr) := mem_listing (s := s) (p := p) hl.exist
  apply References.mk
  · intro e he hh
    obtain ⟨p, hp, h⟩ := mem_dict.1 he
    cases entry_eq_some.1 h with
    | service hx => cases hh
    | @characteristic i x u n hx hn =>
      refine ⟨n.descriptorPaths, rfl, fun path => mem_descriptorPaths.trans ?_⟩
      apply Iff.intro
      · intro hpath
        obtain ⟨v, d, hd, rfl⟩ := hpath
        have hc := (hm _).2 (below_descriptor hx hn hd ((hm _).1 hp).1)
        exact ⟨_, (EntryOf.descriptor hx hn hd).mem hc, rfl, rfl⟩
      · intro hpath
        obtain ⟨e', he', rfl, hback⟩ := hpath
        obtain ⟨q, hq, h'⟩ := mem_dict.1 he'
        cases entry_eq_some.1 h' with
        | service hy => cases hback
        | characteristic hy hn' => cases hback
        | @descriptor j y w n' v d hy hn' hd =>
          have hc : s.child (.characteristic i u) = some (.characteristic n.characteristic) := by
            rw [child, characteristic_of_service hx, hn, Option.map_some]
          have hc' : s.child (.characteristic j w) = some (.characteristic n'.characteristic) := by
            rw [child, characteristic_of_service hy, hn', Option.map_some]
          have hpath : n'.characteristic.path = n.characteristic.path := by
            injection hback with hback
            injection hback with hback
            exact DBusObjectPath.toString_inj.1 hback
          cases hs.children_apart hc' hc hpath
          cases hx.symm.trans hy
          cases hn.symm.trans hn'
          exact ⟨v, d, hd, rfl⟩
    | descriptor hx hn hd => cases hh
  · intro e he hh
    obtain ⟨p, hp, h⟩ := mem_dict.1 he
    cases entry_eq_some.1 h with
    | service hx => cases hh
    | characteristic hx hn => cases hh
    | descriptor hx hn hd =>
      have hi := (hm _).2 (below_characteristic hx hn ((hm _).1 hp).1)
      exact ⟨_, (EntryOf.characteristic hx hn).mem hi, rfl, rfl⟩

theorem child_of_below (hp : p.isChild = true) (hb : s.Below added p) :
    ∃ x, s.child p = some x ∧ s.pathOf p = some x.path := by
  cases p with
  | application => cases hp
  | service i => cases hp
  | characteristic i u =>
    obtain ⟨n, hn⟩ := Option.isSome_iff_exists.1 hb.2
    refine ⟨.characteristic n.characteristic, ?_, ?_⟩
    · rw [child, hn, Option.map_some]
    · rw [pathOf, standing, hn]
      rfl
  | descriptor i u v =>
    obtain ⟨d, hd⟩ := Option.isSome_iff_exists.1 hb.2
    refine ⟨.descriptor d, ?_, ?_⟩
    · rw [child, hd, Option.map_some]
    · rw [pathOf, standing, hd]
      rfl

/-- No two of the listed objects have one path. -/
theorem listing_apart (hs : Sound parse s) (hl : Listed s) (ha : s.ServicesApart s.services)
    (hc : s.ChildrenApart s.services) (hp : p ∈ s.listing) (hq : q ∈ s.listing)
    (hpq : s.pathOf p = s.pathOf q) : p = q := by
  have hp' := (mem_listing hl.exist).1 hp
  have hq' := (mem_listing hl.exist).1 hq
  have hservice (p : ObjectPtr) (hb : s.Below s.services p) :
      p.isChild = true ∨ ∃ i ∈ s.services, p = .service i := by
    cases p with
    | application => exact hb.elim
    | service i => exact .inr ⟨i, hb, rfl⟩
    | characteristic i u => exact .inl rfl
    | descriptor i u v => exact .inl rfl
  rcases hservice p hp' with hpc | ⟨i, hi, rfl⟩
  · rcases hservice q hq' with hqc | ⟨j, hj, rfl⟩
    · obtain ⟨x, hx, hxp⟩ := child_of_below hpc hp'
      obtain ⟨y, hy, hyp⟩ := child_of_below hqc hq'
      rw [hxp, hyp] at hpq
      exact hs.children_apart hx hy (Option.some.inj hpq)
    · exact absurd hpq.symm (hc j hj p hpc hp')
  · rcases hservice q hq' with hqc | ⟨j, hj, rfl⟩
    · exact absurd hpq (hc i hi q hqc hq')
    · rw [ha i hi j hj hpq]

theorem dict_paths_nodup (hs : Sound parse s) (hl : Listed s)
    (ha : s.ServicesApart s.services) (hc : s.ChildrenApart s.services) :
    (s.createManagedObjectsDict.map ManagedObject.path).Nodup := by
  have hpaths : s.createManagedObjectsDict.map (fun e => some (⟨e.path⟩ : DBusObjectPath)) =
      s.listing.map s.pathOf := by
    have h := congrArg (List.map (Option.map fun e : ManagedObject =>
      (⟨e.path⟩ : DBusObjectPath))) s.dict_eq
    rw [List.map_map, List.map_map] at h
    refine h.trans (List.map_congr_left fun p hp => ?_)
    have he : s.entry p ∈ s.createManagedObjectsDict.map some := by
      rw [s.dict_eq]
      exact List.mem_map_of_mem hp
    obtain ⟨e, _, he⟩ := List.mem_map.1 he
    rw [Function.comp_apply, ← he, (entry_eq_some.1 he.symm).path, Option.map_some]
  have hnodup : (s.createManagedObjectsDict.map fun e =>
      some (⟨e.path⟩ : DBusObjectPath)).Nodup := by
    rw [hpaths]
    exact (listing_nodup hl.nodup).map_on fun p hp q hq => listing_apart hs hl ha hc hp hq
  rw [← Function.comp_def (fun path : String => some (⟨path⟩ : DBusObjectPath)),
    ← List.map_map] at hnodup
  exact hnodup.of_map _

/-- In every run the dictionary has one entry for each service that was added and not removed, for
each characteristic of these and for each descriptor of those, at its path and with its interface,
and nothing else. The references between characteristics and descriptors are inverse to each other,
and those between services and characteristics are when the paths of the services differ. -/
theorem managedObjects_run (parse : String → Option (List String)) (path : DBusObjectPath)
    (c : DBusConnection (ObjectPtr × HandlerData Closure) η) (steps : List ServerStep) :
    let s := (watched parse path c steps).1
    let added := (watched parse path c steps).2.added
    let dict := s.createManagedObjectsDict
    (∃ objects : List ObjectPtr, objects.Nodup ∧ (∀ p, p ∈ objects ↔ s.Below added p) ∧
        dict.map some = objects.map s.entry ∧ ∀ p ∈ objects, ∃ e, s.entry p = some e ∧
          s.pathOf p = some ⟨e.path⟩ ∧ e.interfaces.map Prod.fst = [p.interface]) ∧
      References dict BlueZConstants.gattCharacteristicInterface "Descriptors"
        BlueZConstants.gattDescriptorInterface "Characteristic" ∧
      (s.ServicesApart added →
        References dict BlueZConstants.gattServiceInterface "Characteristics"
          BlueZConstants.gattCharacteristicInterface "Service" ∧
        (s.ChildrenApart added → (dict.map ManagedObject.path).Nodup)) := by
  intro s added dict
  obtain ⟨hs, hl, hk, _⟩ := tracked_run parse path c steps
  have hadded : s.services = added := hk
  rw [← hadded]
  refine ⟨⟨s.listing, listing_nodup hl.nodup, fun p => mem_listing hl.exist, s.dict_eq,
    fun p hp => ?_⟩, references_characteristics hs hl,
    fun ha => ⟨references_services hl ha, dict_paths_nodup hs hl ha⟩⟩
  obtain ⟨e, he⟩ := exists_entry ((mem_listing hl.exist).1 hp) hl.exist
  exact ⟨e, entry_eq_some.2 he, he.path, he.interfaces⟩

theorem managedObjects_example :
    let steps : List ServerStep :=
      [.constructService ⟨"/com/example/a"⟩ (.fromShortUuid 0x180d) true,
        .constructService ⟨"/com/example/b"⟩ (.fromShortUuid 0x180f) true,
        .addService (some 0), .addService (some 1),
        .createCharacteristic 0 (.fromShortUuid 0x2a37) 0x02 0x01 []]
    let s := (watched (fun _ => some [BlueZConstants.gattCharacteristicInterface])
      ⟨"/com/example"⟩ ((DBusConnection.constructed _ Unit).connect true).2 steps).1
    s.createManagedObjectsDict.length = 3 ∧
      References s.createManagedObjectsDict BlueZConstants.gattServiceInterface "Characteristics"
        BlueZConstants.gattCharacteristicInterface "Service" ∧
      (s.createManagedObjectsDict.map ManagedObject.path).Nodup := by
  intro steps s
  have ha : s.ServicesApart [0, 1] := by
    intro i hi j hj
    revert i j
    decide
  have hc : s.ChildrenApart [0, 1] := by
    have hall : ∀ i ∈ [0, 1], ∀ p ∈ s.listing, p.isChild = true →
        s.pathOf (.service i) ≠ s.pathOf p := by decide
    intro i hi p hp hb
    exact hall i hi p ((mem_listing (s := s) (by decide)).2 hb) hp
  obtain ⟨href, hnodup⟩ := (managedObjects_run
    (fun _ => some [BlueZConstants.gattCharacteristicInterface]) ⟨"/com/example"⟩
    ((DBusConnection.constructed _ Unit).connect true).2 steps).2.2 ha
  exact ⟨by decide, href, hnodup hc⟩

end GattServer
end Ggk
