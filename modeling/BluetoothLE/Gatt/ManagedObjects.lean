import BluetoothLE.Gatt.Children

namespace Ggk
open Lib
set_option autoImplicit true

/-- The names of the bits that are set, in the order of the checks. -/
def flagsOf (checks : List (UInt8 × String)) (bits : UInt8) : List String :=
  (checks.filter fun check => bits &&& check.1 != 0).map Prod.snd

def GattProperty.checks : List (UInt8 × String) :=
  [(propBroadcast, "broadcast"), (propRead, "read"),
    (propWriteWithoutResponse, "write-without-response"), (propWrite, "write"),
    (propNotify, "notify"), (propIndicate, "indicate"),
    (propAuthenticatedSignedWrites, "authenticated-signed-writes")]

def GattPermission.encryptionChecks : List (UInt8 × String) :=
  [(permReadEncrypted, "encrypt-read"), (permWriteEncrypted, "encrypt-write")]

def GattPermission.authenticationChecks : List (UInt8 × String) :=
  [(permReadAuthenticated, "auth-read"), (permWriteAuthenticated, "auth-write")]

def GattPermission.accessChecks : List (UInt8 × String) :=
  [(permRead, "read"), (permWrite, "write")]

def ManagedObject.property (e : ManagedObject) (interface name : String) : Option PropertyValue :=
  (e.interfaces.lookup interface).bind fun properties => properties.lookup name

namespace GattService

def characteristicPaths (x : GattService) : List String :=
  x.characteristics.toList.map fun pair => pair.2.characteristic.path.toString

def managedObject (x : GattService) : ManagedObject where
  path := x.object.path.toString
  interfaces := [(BlueZConstants.gattServiceInterface,
    [("UUID", .string x.uuid.toBlueZFormat), ("Primary", .boolean x.primary),
      ("Characteristics", .objectPathArray x.characteristicPaths)])]

end GattService

def CharacteristicNode.descriptorPaths (n : CharacteristicNode) : List String :=
  n.descriptors.toList.map fun pair => pair.2.path.toString

def CharacteristicNode.managedObject (x : GattService) (n : CharacteristicNode) :
    ManagedObject where
  path := n.characteristic.path.toString
  interfaces := [(BlueZConstants.gattCharacteristicInterface,
    [("UUID", .string n.characteristic.uuid.toBlueZFormat),
      ("Service", .objectPath x.object.path.toString),
      ("Flags", .stringArray (flagsOf GattProperty.checks n.characteristic.properties ++
        flagsOf (GattPermission.encryptionChecks ++ GattPermission.authenticationChecks)
          n.characteristic.permissions)),
      ("Descriptors", .objectPathArray n.descriptorPaths),
      ("Notifying", .boolean n.characteristic.notifying)])]

def GattDescriptor.managedObject (c : GattCharacteristic) (d : GattDescriptor) :
    ManagedObject where
  path := d.path.toString
  interfaces := [(BlueZConstants.gattDescriptorInterface,
    [("UUID", .string d.uuid.toBlueZFormat),
      ("Characteristic", .objectPath c.path.toString),
      ("Flags", .stringArray (flagsOf (GattPermission.accessChecks ++
        GattPermission.encryptionChecks ++ GattPermission.authenticationChecks)
          d.permissions))])]

def CharacteristicNode.managedObjects (x : GattService) (n : CharacteristicNode) :
    List ManagedObject :=
  n.managedObject x :: n.descriptors.toList.map fun pair => pair.2.managedObject n.characteristic

def GattService.managedObjects (x : GattService) : List ManagedObject :=
  x.managedObject :: x.characteristics.toList.flatMap fun pair => pair.2.managedObjects x

namespace GattServer
variable {s s' : GattServer η}

/-- The entries in the order in which the builder gets them. The paths of the services are taken to
be object paths: GLib adds no entry at anything else. -/
def createManagedObjectsDict (s : GattServer η) : List ManagedObject :=
  (s.services.filterMap s.service).flatMap GattService.managedObjects

/-- The objects in the order of their entries. -/
def listing (s : GattServer η) : List ObjectPtr :=
  s.services.flatMap fun i => match s.service i with
    | none => []
    | some x => .service i :: x.characteristics.toList.flatMap fun pair =>
      .characteristic i pair.1 :: pair.2.descriptors.toList.map fun pair' =>
        .descriptor i pair.1 pair'.1

def entry (s : GattServer η) : ObjectPtr → Option ManagedObject
  | .application => none
  | .service i => (s.service i).map GattService.managedObject
  | .characteristic i u => (s.service i).bind fun x =>
    x.characteristics[u]?.map (·.managedObject x)
  | .descriptor i u v => (s.characteristic i u).bind fun n =>
    n.descriptors[v]?.map (·.managedObject n.characteristic)

section Entries
variable {x : GattService} {n : CharacteristicNode}

theorem descriptors_entries (hx : s.service i = some x) (hn : x.characteristics[u]? = some n) :
    n.descriptors.toList.map (fun pair => some (pair.2.managedObject n.characteristic)) =
      (n.descriptors.toList.map fun pair => ObjectPtr.descriptor i u pair.1).map s.entry := by
  rw [List.map_map]
  apply List.map_congr_left
  intro pair hp
  rw [Function.comp_apply, entry, characteristic_of_service hx, hn, Option.bind_some,
    Std.TreeMap.mem_toList_iff_getElem?_eq_some.1 hp]
  rfl

theorem characteristics_entries (hx : s.service i = some x) :
    (x.characteristics.toList.flatMap fun pair => pair.2.managedObjects x).map some =
      (x.characteristics.toList.flatMap fun pair =>
        ObjectPtr.characteristic i pair.1 :: pair.2.descriptors.toList.map fun pair' =>
          ObjectPtr.descriptor i pair.1 pair'.1).map s.entry := by
  rw [List.map_flatMap, List.map_flatMap]
  apply List.flatMap_congr
  intro pair hp
  have hn := Std.TreeMap.mem_toList_iff_getElem?_eq_some.1 hp
  rw [CharacteristicNode.managedObjects, List.map_cons, List.map_cons, List.map_map,
    ← descriptors_entries hx hn, entry, hx, Option.bind_some, hn]
  rfl

/-- The dictionary has the entries of the listed objects, and nothing else. -/
theorem dict_eq (s : GattServer η) :
    s.createManagedObjectsDict.map some = s.listing.map s.entry := by
  rw [createManagedObjectsDict, listing]
  induction s.services with
  | nil => rfl
  | cons i services ih =>
    rw [List.flatMap_cons, List.map_append, ← ih]
    cases hx : s.service i with
    | none => rw [List.filterMap_cons_none hx, List.map_nil, List.nil_append]
    | some x =>
      rw [List.filterMap_cons_some hx, List.flatMap_cons, List.map_append,
        GattService.managedObjects, List.map_cons, List.map_cons, characteristics_entries hx,
        entry, hx, Option.map_some]

end Entries

theorem keys_pairwise (t : Std.TreeMap String β) : t.toList.Pairwise fun a b => a.1 ≠ b.1 :=
  Std.TreeMap.distinct_keys_toList.imp fun hne heq => hne (by simp [heq])

section Listing

/-- The added services, their characteristics, and the descriptors of these. -/
def Below (s : GattServer η) (added : List Nat) : ObjectPtr → Prop
  | .application => False
  | .service i => i ∈ added
  | .characteristic i u => i ∈ added ∧ (s.characteristic i u).isSome = true
  | .descriptor i u v => i ∈ added ∧ (s.descriptor i u v).isSome = true

/-- The pointers of a service and what is below it. -/
def subtree (i : Nat) (x : GattService) : List ObjectPtr :=
  .service i :: x.characteristics.toList.flatMap fun pair =>
    .characteristic i pair.1 :: pair.2.descriptors.toList.map fun pair' =>
      .descriptor i pair.1 pair'.1

theorem mem_subtree (hx : s.service i = some x) : p ∈ subtree i x ↔ s.Below [i] p := by
  simp only [subtree, List.mem_cons, List.mem_flatMap, List.mem_map]
  cases p with
  | application => simp [Below]
  | service j => simp [Below]
  | characteristic j u =>
    simp only [Below, List.mem_singleton]
    apply Iff.intro
    · rintro (h | ⟨pair, hp, h | ⟨pair', _, h⟩⟩) <;> cases h
      apply And.intro rfl
      rw [characteristic_of_service hx, Std.TreeMap.mem_toList_iff_getElem?_eq_some.1 hp]
      rfl
    · intro h
      obtain ⟨rfl, h⟩ := h
      obtain ⟨n, hn⟩ := Option.isSome_iff_exists.1 h
      rw [characteristic_of_service hx] at hn
      exact .inr ⟨(u, n), Std.TreeMap.mem_toList_iff_getElem?_eq_some.2 hn, .inl rfl⟩
  | descriptor j u v =>
    simp only [Below, List.mem_singleton]
    apply Iff.intro
    · rintro (h | ⟨pair, hp, h | ⟨pair', hp', h⟩⟩) <;> cases h
      apply And.intro rfl
      rw [descriptor, characteristic_of_service hx,
        Std.TreeMap.mem_toList_iff_getElem?_eq_some.1 hp, Option.bind_some,
        Std.TreeMap.mem_toList_iff_getElem?_eq_some.1 hp']
      rfl
    · intro h
      obtain ⟨rfl, h⟩ := h
      obtain ⟨d, hd⟩ := Option.isSome_iff_exists.1 h
      obtain ⟨n, hn, hd⟩ := Option.bind_eq_some_iff.1 hd
      rw [characteristic_of_service hx] at hn
      exact .inr ⟨(u, n), Std.TreeMap.mem_toList_iff_getElem?_eq_some.2 hn,
        .inr ⟨(v, d), Std.TreeMap.mem_toList_iff_getElem?_eq_some.2 hd, rfl⟩⟩

theorem subtree_nodup (i : Nat) (x : GattService) : (subtree i x).Nodup := by
  apply List.nodup_cons.2
  apply And.intro
  · simp
  · apply List.nodup_flatMap.2
    apply And.intro
    · intro pair _
      apply List.nodup_cons.2
      apply And.intro
      · simp
      · apply List.pairwise_map.2
        apply (keys_pairwise pair.2.descriptors).imp
        intro a b hab h
        exact hab (ObjectPtr.descriptor.inj h).2.2
    · apply (keys_pairwise x.characteristics).imp
      intro a b hab
      change List.Disjoint _ _
      simp only [List.disjoint_left, List.mem_cons, List.mem_map]
      rintro p (rfl | ⟨_, _, rfl⟩) (h | ⟨_, _, h⟩)
      · exact hab (ObjectPtr.characteristic.inj h).2
      · exact ObjectPtr.noConfusion h
      · exact ObjectPtr.noConfusion h
      · exact hab (ObjectPtr.descriptor.inj h).2.1.symm

theorem listing_eq (s : GattServer η) : s.listing =
    s.services.flatMap fun i => (s.service i).elim [] (subtree i) := by
  apply List.flatMap_congr
  intro i _
  cases s.service i <;> rfl

theorem Below.of_singleton (h : s.Below [i] p) (hi : i ∈ added) : s.Below added p := by
  cases p with
  | application => exact h
  | service j => exact List.mem_singleton.1 h ▸ hi
  | characteristic j u => exact ⟨List.mem_singleton.1 h.1 ▸ hi, h.2⟩
  | descriptor j u v => exact ⟨List.mem_singleton.1 h.1 ▸ hi, h.2⟩

theorem Below.singleton (h : s.Below added p) : ∃ i ∈ added, s.Below [i] p := by
  cases p with
  | application => cases h
  | service i => exact ⟨i, h, List.mem_singleton.2 rfl⟩
  | characteristic i u => exact ⟨i, h.1, List.mem_singleton.2 rfl, h.2⟩
  | descriptor i u v => exact ⟨i, h.1, List.mem_singleton.2 rfl, h.2⟩

theorem mem_listing (h : ∀ i ∈ s.services, (s.service i).isSome = true) :
    p ∈ s.listing ↔ s.Below s.services p := by
  rw [listing_eq, List.mem_flatMap]
  apply Iff.intro
  · intro hp
    obtain ⟨i, hi, hp⟩ := hp
    obtain ⟨x, hx⟩ := Option.isSome_iff_exists.1 (h i hi)
    rw [hx] at hp
    exact ((mem_subtree hx).1 hp).of_singleton hi
  · intro hp
    obtain ⟨i, hi, hp⟩ := hp.singleton
    obtain ⟨x, hx⟩ := Option.isSome_iff_exists.1 (h i hi)
    apply Exists.intro i
    rw [hx]
    exact ⟨hi, (mem_subtree hx).2 hp⟩

theorem listing_nodup (h : s.services.Nodup) : s.listing.Nodup := by
  rw [listing_eq]
  apply List.nodup_flatMap.2
  apply And.intro
  · intro i _
    cases s.service i with
    | none => exact List.nodup_nil
    | some x => exact subtree_nodup i x
  · apply h.imp
    intro i j hij
    change List.Disjoint ((s.service i).elim [] (subtree i)) ((s.service j).elim [] (subtree j))
    intro p hp hp'
    cases hx : s.service i with
    | none =>
      rw [hx] at hp
      cases hp
    | some x =>
      cases hy : s.service j with
      | none =>
        rw [hy] at hp'
        cases hp'
      | some y =>
        rw [hx] at hp
        rw [hy] at hp'
        have h₁ := (mem_subtree hx).1 hp
        have h₂ := (mem_subtree hy).1 hp'
        cases p <;> simp only [Below, List.mem_singleton] at h₁ h₂
        · exact hij (h₁.symm.trans h₂)
        · exact hij (h₁.1.symm.trans h₂.1)
        · exact hij (h₁.1.symm.trans h₂.1)

end Listing
end GattServer
end Ggk
