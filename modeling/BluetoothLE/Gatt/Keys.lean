import BluetoothLE.Gatt.References

namespace Ggk
open Lib
set_option autoImplicit true

/-- Whether the object is one of the services or below one of them. -/
def ObjectPtr.within (added : List Nat) : ObjectPtr → Bool
  | .application => false
  | .service i | .characteristic i _ | .descriptor i _ _ => added.contains i

namespace GattServer
variable {s s' : GattServer η} {parse : String → Option (List String)}

theorem below_iff (hp : p.isChild = true) :
    s.Below added p ↔ p.within added = true ∧ (s.pathOf p).isSome = true := by
  cases p with
  | application => cases hp
  | service i => cases hp
  | characteristic i u => simp [Below, ObjectPtr.within, pathOf, standing]
  | descriptor i u v => simp [Below, ObjectPtr.within, pathOf, standing]

theorem Change.keeps_pathOf (h : Change parse s s') (hi : (s.service i).isSome = true) :
    s'.pathOf (.service i) = s.pathOf (.service i) := by
  obtain ⟨x, hx⟩ := Option.isSome_iff_exists.1 hi
  obtain ⟨y, hy, hxy⟩ := h.keeps_service hx
  rw [pathOf, standing, pathOf, standing, hx, hy, Option.map_some, Option.map_some, hxy.path]
  rfl

theorem pathOf_of_objects (h : s'.objects = s.objects) (hp : p.isChild = true) :
    s'.pathOf p = s.pathOf p := by
  have hc := characteristic_of_objects h
  cases p with
  | application => cases hp
  | service i => cases hp
  | characteristic i u => rw [pathOf, pathOf, standing, standing, hc]
  | descriptor i u v => rw [pathOf, pathOf, standing, standing, descriptor, descriptor, hc]

/-- A call leaves the path of a child alone, or creates the child at a path that was free. -/
def KeepsPath (s : GattServer η) (step : ServerStep) (s' : GattServer η) (p : ObjectPtr) : Prop :=
  s'.pathOf p = s.pathOf p ∨ ∃ path, s.createsAt step = some (p, path) ∧
    s'.pathOf p = some path ∧ s.connection.registeredObjects[path.toString]? = none

theorem CreatesCharacteristic.keepsPath {uuid : GattUuid}
    (h : CreatesCharacteristic parse s i uuid properties permissions r) (refuses : List Bool)
    (hp : p.isChild = true) :
    KeepsPath s (.createCharacteristic i uuid properties permissions refuses) r.2 p := by
  cases h with
  | missing hx => exact .inl rfl
  | existing hx hn => exact .inl rfl
  | declined hx hn h => exact .inl (pathOf_of_objects rfl hp)
  | @created x c' hx hn h =>
    have hst := standing_characteristic hx hn
      (.created x.nextPath uuid properties permissions) p
    by_cases hpc : p = .characteristic i uuid.toString
    · rw [if_pos hpc] at hst
      refine .inr ⟨x.nextPath, ?_, congrArg (Option.map Prod.fst) hst, h.free⟩
      rw [createsAt, hx, Option.bind_some, Std.TreeMap.contains_eq_isSome_getElem?, hn, hpc]
      rfl
    · rw [if_neg hpc] at hst
      exact .inl (congrArg (Option.map Prod.fst) hst)

theorem CreatesDescriptor.keepsPath {uuid : GattUuid}
    (h : CreatesDescriptor parse s i u uuid permissions r) (refuses : List Bool)
    (hp : p.isChild = true) :
    KeepsPath s (.createDescriptor i u uuid permissions refuses) r.2 p := by
  cases h with
  | missing hn => exact .inl rfl
  | existing hx hn hd => exact .inl rfl
  | declined hx hn hd h => exact .inl (pathOf_of_objects rfl hp)
  | @created x n c' hx hn hd h =>
    have hkept : (n.withDescriptor uuid permissions).characteristic = n.characteristic := rfl
    have hst := standing_descriptor hx hn hkept rfl p
    by_cases hpc : p = .descriptor i u uuid.toString
    · rw [if_pos hpc] at hst
      refine .inr ⟨n.nextPath, ?_, congrArg (Option.map Prod.fst) hst, h.free⟩
      rw [createsAt, characteristic_of_service hx, hn, Option.bind_some,
        Std.TreeMap.contains_eq_isSome_getElem?, hd, hpc]
      rfl
    · rw [if_neg hpc] at hst
      exact .inl (congrArg (Option.map Prod.fst) hst)

theorem Performs.keepsPath (h : Performs parse s step r) (hp : p.isChild = true) :
    KeepsPath s step r.2 p := by
  have hset {i : Nat} {x : GattService} (hx : s.service i = some x) (o : DBusObject Closure) :
      (s.setService i { x with object := o }).pathOf p = s.pathOf p := by
    refine congrArg (Option.map Prod.fst) ((standing_object hx o p).trans (if_neg ?_))
    rintro rfl
    cases hp
  cases h with
  | constructed path uuid isPrimary =>
    rcases standing_constructService (s := s) path uuid isPrimary p with h | ⟨_, i, rfl, _⟩
    · exact .inl (congrArg _ h)
    · cases hp
  | unset refuses hx hr h => exact .inl (hset hx _)
  | set refuses hx hr h => exact .inl (hset hx _)
  | createsCharacteristic refuses h => exact h.keepsPath refuses hp
  | createsDescriptor refuses h => exact h.keepsPath refuses hp
  | _ => exact .inl (pathOf_of_objects rfl hp)

/-- A call lists services only at paths where no listed service or child is, and creates children
of listed services only where no listed service is. -/
def KeepsApart (s : GattServer η) (step : ServerStep) : Prop :=
  (∀ i x, step = .addService (some i) → s.service i = some x →
    s.services.any (s.hasUuid x.uuid) = false →
      s.ServicesApart (s.services ++ [i]) ∧ s.ChildrenApart (s.services ++ [i])) ∧
  ∀ p path, s.createsAt step = some (p, path) → p.within s.services = true →
    s.connection.registeredObjects[path.toString]? = none →
      ∀ i ∈ s.services, s.pathOf (.service i) ≠ some path

structure KeysApart (s : GattServer η) : Prop where
  services : s.ServicesApart s.services
  children : s.ChildrenApart s.services

theorem Performs.services (h : Performs parse s step r) :
    r.2.services ⊆ s.services ∨ ∃ i x, step = .addService (some i) ∧ s.service i = some x ∧
      s.services.any (s.hasUuid x.uuid) = false ∧ r.2.services = s.services ++ [i] := by
  cases h with
  | @added i x hx hn => exact .inr ⟨i, x, rfl, hx, hn, rfl⟩
  | removed uuid h => exact .inl List.eraseP_subset
  | createsCharacteristic refuses h => cases h <;> exact .inl (List.Subset.refl _)
  | createsDescriptor refuses h => cases h <;> exact .inl (List.Subset.refl _)
  | _ => exact .inl (List.Subset.refl _)

/-- Listing keeps the paths apart, before anything is created. -/
theorem KeysApart.listed (h : KeysApart s) (hl : Listed s) (hc : KeepsApart s step)
    (hp : Performs parse s step r) :
    s.ServicesApart r.2.services ∧ s.ChildrenApart r.2.services ∧
      ∀ i ∈ r.2.services, (s.service i).isSome = true := by
  obtain hsub | ⟨i, x, hstep, hx, hn, heq⟩ := hp.services
  · refine ⟨fun i hi j hj => h.services i (hsub hi) j (hsub hj), fun i hi p hp hb => ?_,
      fun i hi => hl.exist i (hsub hi)⟩
    apply h.children i (hsub hi) p hp
    obtain ⟨hw, hsome⟩ := (below_iff hp).1 hb
    refine (below_iff hp).2 ⟨?_, hsome⟩
    cases p with
    | application => cases hp
    | service j => cases hp
    | characteristic j u => exact List.contains_iff_mem.2 (hsub (List.contains_iff_mem.1 hw))
    | descriptor j u v => exact List.contains_iff_mem.2 (hsub (List.contains_iff_mem.1 hw))
  · obtain ⟨hs, hch⟩ := hc.1 i x hstep hx hn
    rw [← heq] at hs hch
    refine ⟨hs, hch, fun j hj => ?_⟩
    have hj' : j ∈ s.services ++ [i] := heq ▸ hj
    rcases List.mem_append.1 hj' with hj' | hj'
    · exact hl.exist j hj'
    · rw [List.mem_singleton.1 hj', hx]
      rfl

theorem KeysApart.next (h : KeysApart s) (hl : Listed s) (hc : KeepsApart s step)
    (hp : Performs parse s step r) : KeysApart r.2 := by
  obtain ⟨hs, hch, hsome⟩ := h.listed hl hc hp
  have hpath (i : Nat) (hi : i ∈ r.2.services) :
      r.2.pathOf (.service i) = s.pathOf (.service i) := hp.change.keeps_pathOf (hsome i hi)
  apply KeysApart.mk
  · intro i hi j hj hij
    rw [hpath i hi, hpath j hj] at hij
    exact hs i hi j hj hij
  · intro i hi p hpc hb
    rw [hpath i hi]
    obtain ⟨hw, hpsome⟩ := (below_iff hpc).1 hb
    obtain heq | ⟨path, hcreates, hnew, hfree⟩ := hp.keepsPath hpc
    · rw [heq] at hpsome ⊢
      exact hch i hi p hpc ((below_iff hpc).2 ⟨hw, hpsome⟩)
    · rw [hnew]
      -- a call that creates lists nothing
      obtain hsub | ⟨_, _, hstep, _⟩ := hp.services
      · refine hc.2 p path hcreates ?_ hfree i (hsub hi)
        cases p with
        | application => cases hpc
        | service j => cases hpc
        | characteristic j u => exact List.contains_iff_mem.2 (hsub (List.contains_iff_mem.1 hw))
        | descriptor j u v => exact List.contains_iff_mem.2 (hsub (List.contains_iff_mem.1 hw))
      · rw [hstep] at hcreates
        cases hcreates

/-- In every run whose calls keep the paths apart the keys of the dictionary are distinct. -/
theorem keys_run (parse : String → Option (List String)) (path : DBusObjectPath)
    (c : DBusConnection (ObjectPtr × HandlerData Closure) η) (steps : List ServerStep)
    (h : (serving parse).Every KeepsApart (start path c) steps) :
    (((serving parse).run (start path c) steps).createManagedObjectsDict.map
      ManagedObject.path).Nodup := by
  have hI : Sound parse ((serving parse).run (start path c) steps) ∧
      Listed ((serving parse).run (start path c) steps) ∧
      KeysApart ((serving parse).run (start path c) steps) := by
    refine Machine.run_invariant (I := fun s => Sound parse s ∧ Listed s ∧ KeysApart s)
      ⟨.start parse path c, ⟨?_, .nil⟩, ?_, ?_⟩ ?_ h
    · exact fun i hi => absurd hi List.not_mem_nil
    · exact fun i hi => absurd hi List.not_mem_nil
    · exact fun i hi => absurd hi List.not_mem_nil
    · intro s step hs hc
      have hp := perform_performs parse hs.1.plain step
      exact ⟨hs.1.next step, hs.2.1.next hp.change, hs.2.2.next hs.2.1 hc hp⟩
  exact dict_paths_nodup hI.1 hI.2.1 hI.2.2.services hI.2.2.children

theorem keys_example :
    let steps : List ServerStep :=
      [.constructService ⟨"/com/example/a"⟩ (.fromShortUuid 0x180d) true,
        .constructService ⟨"/com/example/b"⟩ (.fromShortUuid 0x180f) true,
        .addService (some 0), .addService (some 1),
        .createCharacteristic 0 (.fromShortUuid 0x2a37) 0x02 0x01 []]
    (((serving fun _ => some [BlueZConstants.gattCharacteristicInterface]).run
      (start ⟨"/com/example"⟩ ((DBusConnection.constructed _ Unit).connect true).2)
      steps).createManagedObjectsDict.map ManagedObject.path).Nodup := by
  intro steps
  have hidle (s : GattServer Unit) (step : ServerStep) (hs : ∀ i, step ≠ .addService (some i))
      (hc : s.createsAt step = none) : s.KeepsApart step := by
    refine ⟨fun i x h => absurd h (hs i), fun p path h => ?_⟩
    rw [hc] at h
    cases h
  have hadd (s : GattServer Unit) (i : Nat) (hs : ∀ j ∈ s.services ++ [i],
      ∀ k ∈ s.services ++ [i], s.pathOf (.service j) = s.pathOf (.service k) → j = k)
      (hn : ∀ j u, s.characteristic j u = none) : s.KeepsApart (.addService (some i)) := by
    refine ⟨fun j x h _ _ => ?_, fun p path h => by cases h⟩
    cases h
    refine ⟨hs, fun k _ p hp hb => ?_⟩
    cases p with
    | application => cases hp
    | service m => cases hp
    | characteristic m u =>
      rw [Below, hn] at hb
      cases hb.2
    | descriptor m u v =>
      rw [Below, descriptor, hn] at hb
      cases hb.2
  apply keys_run
  refine ⟨?_, ?_, ?_, ?_, ⟨?_, ?_⟩, trivial⟩
  · exact hidle _ _ (fun i => ServerStep.noConfusion) rfl
  · exact hidle _ _ (fun i => ServerStep.noConfusion) rfl
  · apply hadd _ _ (by decide)
    rintro (_ | _ | _) u <;> rfl
  · apply hadd _ _ (by decide)
    rintro (_ | _ | _) u <;> rfl
  · intro i x h
    cases h
  · intro p path h _ _
    cases h
    decide

/-- Services with one path and two UUIDs are both listed, and BlueZ is told of both. -/
theorem keys_not_distinct :
    let c := ((DBusConnection.constructed (ObjectPtr × HandlerData Closure) Unit).connect true).2
    let parse : String → Option (List String) :=
      fun _ => some [BlueZConstants.objectManagerInterface]
    let s := (serving parse).run (start ⟨"/com/example"⟩ c)
      [.constructService ⟨"/com/example/a"⟩ (.fromShortUuid 0x180d) true,
        .constructService ⟨"/com/example/a"⟩ (.fromShortUuid 0x180f) true,
        .addService (some 0), .addService (some 1), .registerWithBlueZ [] true]
    s.app.registered = true ∧
      s.createManagedObjectsDict.map ManagedObject.path = ["/com/example/a", "/com/example/a"] ∧
      ¬ (s.createManagedObjectsDict.map ManagedObject.path).Nodup := by
  decide

end GattServer
end Ggk
