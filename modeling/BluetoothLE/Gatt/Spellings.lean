import Mathlib.Data.List.Pairwise
import BluetoothLE.Gatt.Keys

namespace Ggk
open Lib
set_option autoImplicit true

theorem GattUuid.toString_inj {u v : GattUuid} : u.toString = v.toString ↔ u = v := by
  cases u
  cases v
  simp [toString]

/-- Two texts for one UUID. -/
def GattUuid.Respells (u v : GattUuid) : Prop := u.toBlueZFormat = v.toBlueZFormat ∧ u ≠ v

namespace ObjectPtr

/-- The object whose list or map keeps the other one. -/
def parent : ObjectPtr → ObjectPtr
  | .application | .service _ => .application
  | .characteristic i _ => .service i
  | .descriptor i u _ => .characteristic i u

def key : ObjectPtr → Option String
  | .application | .service _ => none
  | .characteristic _ u => some u
  | .descriptor _ _ v => some v

theorem eq_of_key {p q : ObjectPtr} (hp : p.isChild = true) (hq : q.isChild = true)
    (hparent : p.parent = q.parent) (hkey : p.key = q.key) : p = q := by
  cases p <;> cases hp <;> cases q <;> cases hq <;> cases hparent <;> cases hkey <;> rfl

theorem parent_ne {p : ObjectPtr} (hp : p.isChild = true) : p.parent ≠ .application := by
  intro h
  cases p <;> cases hp <;> cases h

end ObjectPtr

def Child.uuid : Child → GattUuid
  | .characteristic x => x.uuid
  | .descriptor x => x.uuid

namespace GattServer
variable {s s' : GattServer η} {parse : String → Option (List String)} {u v : GattUuid}

/-- The second object is in the list or the map of the first, and has the UUID. -/
inductive Stored (s : GattServer η) : ObjectPtr → ObjectPtr → GattUuid → Prop
  | service (hi : i ∈ s.services) (hx : s.service i = some x) :
    Stored s .application (.service i) x.uuid
  | child (hx : s.child q = some x) : Stored s q.parent q x.uuid

/-- The lookup that the class of the object has. -/
def find (s : GattServer η) : ObjectPtr → GattUuid → Option ObjectPtr
  | .application, uuid => (s.getService uuid).map .service
  | .service i, uuid => s.getCharacteristic i uuid
  | .characteristic i u, uuid => s.getDescriptor i u uuid
  | .descriptor _ _ _, _ => none

/-- Where a call would add an object, and the UUID of it. -/
def adds (s : GattServer η) : ServerStep → Option (ObjectPtr × GattUuid)
  | .addService (some i) => (s.service i).map fun x => (.application, x.uuid)
  | .createCharacteristic i uuid _ _ _ => some (.service i, uuid)
  | .createDescriptor i u uuid _ _ => some (.characteristic i u, uuid)
  | _ => none

/-- No call adds an object under another text for the UUID of one that is there. -/
def Spells (s : GattServer η) (step : ServerStep) : Prop :=
  ∀ p u, s.adds step = some (p, u) → ∀ q v, s.Stored p q v → ¬ u.Respells v

def Unique (s : GattServer η) : Prop :=
  ∀ p q q' u v, s.Stored p q u → s.Stored p q' v → u.toBlueZFormat = v.toBlueZFormat → q = q'

/-- The key of a child is the text of its UUID. -/
def Keyed (s : GattServer η) : Prop :=
  ∀ q x, s.child q = some x → q.key = some x.uuid.toString

theorem isChild_of_child (h : s.child p = some x) : p.isChild = true := (standing_child h).1

theorem pathOf_eq_none (hp : p.isChild = true) (h : s.child p = none) : s.pathOf p = none := by
  cases p with
  | application => cases hp
  | service i => cases hp
  | characteristic i u => rw [pathOf, standing, Option.map_eq_none_iff.1 h]; rfl
  | descriptor i u v => rw [pathOf, standing, Option.map_eq_none_iff.1 h]; rfl

theorem target_of_createsAt (h : s.createsAt step = some (q, path)) : step.target = some q := by
  cases step with
  | createCharacteristic i uuid properties permissions refuses =>
    obtain ⟨x, _, h⟩ := Option.bind_eq_some_iff.1 h
    split at h
    · cases h
    · cases h
      rfl
  | createDescriptor i u uuid permissions refuses =>
    obtain ⟨n, _, h⟩ := Option.bind_eq_some_iff.1 h
    split at h
    · cases h
    · cases h
      rfl
  | _ => cases h

theorem CreatesCharacteristic.child_uuid
    (h : CreatesCharacteristic parse s i u properties permissions r)
    (hn : s.child (.characteristic i u.toString) = none)
    (hy : r.2.child (.characteristic i u.toString) = some y) : y.uuid = u := by
  cases h with
  | @created x c' hx hn' h =>
    have hc := child_withCharacteristic hx u.toString
      ⟨.created x.nextPath u properties permissions, ∅⟩ c'
    cases hc.symm.trans hy
    rfl
  | _ => cases hn.symm.trans hy

theorem CreatesDescriptor.child_uuid (h : CreatesDescriptor parse s i w u permissions r)
    (hn : s.child (.descriptor i w u.toString) = none)
    (hy : r.2.child (.descriptor i w u.toString) = some y) : y.uuid = u := by
  cases h with
  | @created x n c' hx hn' hd h =>
    cases (child_withDescriptor hx w n u permissions c').symm.trans hy
    rfl
  | _ => cases hn.symm.trans hy

/-- A child that is there was there before, or is the one that the call has added. -/
theorem Performs.child_cases (h : Performs parse s step r) (hy : r.2.child q = some y) :
    s.child q = some y ∨
      s.adds step = some (q.parent, y.uuid) ∧ q.key = some y.uuid.toString := by
  have hchild := isChild_of_child hy
  cases hq : s.child q with
  | some x =>
    rw [← h.change.keeps_child hq, hy]
    exact .inl rfl
  | none =>
    apply Or.inr
    obtain heq | ⟨path, hat, _, _⟩ := h.keepsPath hchild
    · have hpath : r.2.pathOf q = some y.path := by
        rw [pathOf, (standing_child hy).2]
        rfl
      rw [heq, pathOf_eq_none hchild hq] at hpath
      cases hpath
    · have ht := target_of_createsAt hat
      cases h with
      | createsCharacteristic refuses h =>
        cases ht
        rw [h.child_uuid hq hy]
        exact ⟨rfl, rfl⟩
      | createsDescriptor refuses h =>
        cases ht
        rw [h.child_uuid hq hy]
        exact ⟨rfl, rfl⟩
      | _ => cases ht

theorem Performs.stored_cases (h : Performs parse s step r) (hl : Listed s)
    (hq : r.2.Stored p q u) : s.Stored p q u ∨ s.adds step = some (p, u) := by
  cases hq with
  | child hx =>
    obtain hx | ⟨hadds, _⟩ := h.child_cases hx
    · exact .inl (.child hx)
    · exact .inr hadds
  | @service i y hi hy =>
    have hsub : i ∈ s.services → s.Stored .application (.service i) y.uuid := by
      intro hi
      obtain ⟨x, hx⟩ := Option.isSome_iff_exists.1 (hl.exist i hi)
      obtain ⟨y', hy', hxy⟩ := h.change.keeps_service hx
      cases hy.symm.trans hy'
      rw [hxy.uuid]
      exact .service hi hx
    obtain hsubset | ⟨j, x, rfl, hx, _, heq⟩ := h.services
    · exact .inl (hsub (hsubset hi))
    · rw [heq, List.mem_append, List.mem_singleton] at hi
      rcases hi with hi | rfl
      · exact .inl (hsub hi)
      · obtain ⟨y', hy', hxy⟩ := h.change.keeps_service hx
        cases hy.symm.trans hy'
        apply Or.inr
        rw [adds, hx, Option.map_some, hxy.uuid]

theorem Keyed.next (hs : Keyed s) (h : Performs parse s step r) : Keyed r.2 := by
  intro q x hx
  obtain hx | ⟨_, hkey⟩ := h.child_cases hx
  · exact hs q x hx
  · exact hkey

theorem Listed.eq_of_hasUuid (h : Listed s) (hi : i ∈ s.services) (hj : j ∈ s.services)
    (hiu : s.hasUuid u i = true) (hju : s.hasUuid u j = true) : i = j := by
  by_contra hne
  have hapart : s.services.Pairwise fun i j => ¬ (s.hasUuid u i = true ∧ s.hasUuid u j = true) := by
    apply h.apart.imp
    rintro i j hij ⟨hi, hj⟩
    exact Bool.false_ne_true ((hij u hi).symm.trans hj)
  have : Std.Symm fun i j => ¬ (s.hasUuid u i = true ∧ s.hasUuid u j = true) :=
    ⟨fun _ _ hn hb => hn hb.symm⟩
  exact hapart.forall hi hj hne ⟨hiu, hju⟩

/-- One text is the UUID of one object of a list or a map. -/
theorem Stored.unique (hl : Listed s) (hk : Keyed s) (hq : s.Stored p q u)
    (hq' : s.Stored p' q' u') (hp : p = p') (hu : u = u') : q = q' := by
  cases hq with
  | service hi hx =>
    cases hq' with
    | service hj hy =>
      have hju := hasUuid_self hy
      rw [← hu] at hju
      rw [hl.eq_of_hasUuid hi hj (hasUuid_self hx) hju]
    | child hy => exact absurd hp.symm (ObjectPtr.parent_ne (isChild_of_child hy))
  | child hx =>
    cases hq' with
    | service hj hy => exact absurd hp (ObjectPtr.parent_ne (isChild_of_child hx))
    | child hy =>
      apply ObjectPtr.eq_of_key (isChild_of_child hx) (isChild_of_child hy) hp
      rw [hk _ _ hx, hk _ _ hy, hu]

theorem Unique.next (hs : Unique s) (hl : Listed s) (hl' : Listed r.2) (hk' : Keyed r.2)
    (hc : Spells s step) (h : Performs parse s step r) : Unique r.2 := by
  intro p q q' u v hq hq' huv
  obtain ho | hn := h.stored_cases hl hq
  · obtain ho' | hn' := h.stored_cases hl hq'
    · exact hs p q q' u v ho ho' huv
    · have heq : v = u := by
        by_contra hne
        exact hc p v hn' q u ho ⟨huv.symm, hne⟩
      exact hq.unique hl' hk' hq' rfl heq.symm
  · have heq : u = v := by
      obtain ho' | hn' := h.stored_cases hl hq'
      · by_contra hne
        exact hc p u hn q' v ho' ⟨huv, hne⟩
      · cases hn.symm.trans hn'
        rfl
    exact hq.unique hl' hk' hq' rfl heq

/-- A lookup finds an object by the text that it is stored under, and by no other. -/
theorem find_iff (hl : Listed s) (hk : Keyed s) (hq : s.Stored p q u) :
    s.find p v = some q ↔ v = u := by
  cases hq with
  | @service i x hi hx =>
    rw [find, Option.map_eq_some_iff]
    apply Iff.intro
    · intro h
      obtain ⟨j, hj, hji⟩ := h
      cases hji
      have hv := List.find?_some hj
      rw [hasUuid, hx, Option.any_some, beq_iff_eq] at hv
      exact (GattUuid.toString_inj.1 hv).symm
    · rintro rfl
      obtain ⟨j, hj⟩ := Option.isSome_iff_exists.1
        (List.find?_isSome.2 ⟨i, hi, hasUuid_self hx⟩)
      have hij := hl.eq_of_hasUuid (List.mem_of_find?_eq_some hj) hi (List.find?_some hj)
        (hasUuid_self hx)
      exact ⟨j, hj, congrArg _ hij⟩
  | @child q x hx =>
    have hkey := hk q x hx
    cases q with
    | application => cases hx
    | service i => cases hx
    | characteristic i w =>
      cases hkey
      obtain ⟨n, hn, _⟩ := Option.map_eq_some_iff.1 hx
      apply Iff.intro
      · intro h
        obtain ⟨_, h⟩ := Option.ite_none_right_eq_some.1 h
        injection h with h
        injection h with _ h
        exact GattUuid.toString_inj.1 h
      · rintro rfl
        exact if_pos (Option.isSome_of_eq_some hn)
    | descriptor i w y =>
      cases hkey
      obtain ⟨d, hd, _⟩ := Option.map_eq_some_iff.1 hx
      apply Iff.intro
      · intro h
        obtain ⟨_, h⟩ := Option.ite_none_right_eq_some.1 h
        injection h with h
        injection h with _ _ h
        exact GattUuid.toString_inj.1 h
      · rintro rfl
        exact if_pos (Option.isSome_of_eq_some hd)

theorem removeService_iff (hl : Listed s) (hi : i ∈ s.services) (hx : s.service i = some x) :
    (s.removeService v).1 = true ∧ i ∉ (s.removeService v).2.services ↔ v = x.uuid := by
  apply Iff.intro
  · rintro ⟨hr, hmem⟩
    by_contra hne
    have hnot : ¬ s.hasUuid v i = true := by
      intro hv
      rw [hasUuid, hx, Option.any_some, beq_iff_eq] at hv
      exact hne (GattUuid.toString_inj.1 hv).symm
    rw [removeService] at hr hmem
    split at hr
    · rename_i hany
      rw [if_pos hany] at hmem
      exact hmem ((List.mem_eraseP_of_neg hnot).2 hi)
    · cases hr
  · rintro rfl
    have hany : s.services.any (s.hasUuid x.uuid) = true :=
      List.any_eq_true.2 ⟨i, hi, hasUuid_self hx⟩
    rw [removeService, if_pos hany]
    apply And.intro rfl
    rw [eraseP_eq_filter (hl.apart.imp fun hij => hij x.uuid), List.mem_filter, hasUuid_self hx]
    simp

/-- The invariant of the runs that keep to one text for each UUID. -/
structure Spelled (parse : String → Option (List String)) (s : GattServer η) : Prop where
  sound : Sound parse s
  listed : Listed s
  keyed : Keyed s
  unique : Unique s

theorem child_start (path : DBusObjectPath)
    (c : DBusConnection (ObjectPtr × HandlerData Closure) η) (q : ObjectPtr) :
    (start path c).child q = none := by
  cases q <;> rfl

theorem Spelled.start (parse : String → Option (List String)) (path : DBusObjectPath)
    (c : DBusConnection (ObjectPtr × HandlerData Closure) η) : Spelled parse (start path c) := by
  apply Spelled.mk
  · exact .start parse path c
  · exact ⟨fun i hi => absurd hi List.not_mem_nil, .nil⟩
  · intro q x hx
    rw [child_start] at hx
    cases hx
  · intro p q q' u v hq
    cases hq with
    | service hi => exact absurd hi List.not_mem_nil
    | child hx =>
      rw [child_start] at hx
      cases hx

theorem Spelled.next (hs : Spelled parse s) (hc : Spells s step) :
    Spelled parse ((serving parse).next s step) := by
  have hp := perform_performs parse hs.sound.plain step
  have hl := hs.listed.next hp.change
  have hk := hs.keyed.next hp
  exact ⟨hs.sound.next step, hl, hk, hs.unique.next hs.listed hl hk hc hp⟩

/-- In every run that keeps to one text for each UUID, no two objects of a list or a map have the
same UUID for BlueZ. An object is found, and a service removed, under the text it was created
with. -/
theorem spellings_run (parse : String → Option (List String)) (path : DBusObjectPath)
    (c : DBusConnection (ObjectPtr × HandlerData Closure) η) (steps : List ServerStep)
    (h : (serving parse).Every Spells (start path c) steps) :
    let s := (serving parse).run (start path c) steps
    (∀ p q q' u v, s.Stored p q u → s.Stored p q' v → u.toBlueZFormat = v.toBlueZFormat →
      q = q') ∧
    ∀ p q u v, s.Stored p q u → v.toBlueZFormat = u.toBlueZFormat →
      (s.find p v = some q ↔ v = u) ∧ ∀ i, q = .service i →
        ((s.removeService v).1 = true ∧ i ∉ (s.removeService v).2.services ↔ v = u) := by
  intro s
  have hs : Spelled parse s :=
    Machine.run_invariant (.start parse path c) (fun _ _ hs hc => hs.next hc) h
  refine ⟨hs.unique, fun p q u v hq _ => ⟨find_iff hs.listed hs.keyed hq, fun i hqi => ?_⟩⟩
  cases hq with
  | service hi hx =>
    cases hqi
    exact removeService_iff hs.listed hi hx
  | child hx =>
    rw [hqi] at hx
    cases hx

/-- A service and a characteristic under UUIDs of their own. -/
theorem spellings_example :
    let parse : String → Option (List String) :=
      fun _ => some [BlueZConstants.gattCharacteristicInterface]
    let c := ((DBusConnection.constructed (ObjectPtr × HandlerData Closure) Unit).connect true).2
    let steps : List ServerStep :=
      [.constructService ⟨"/com/example/a"⟩ (.fromShortUuid 0x180d) true, .addService (some 0),
        .createCharacteristic 0 (.fromShortUuid 0x2a37) 0x02 0x01 []]
    let s := (serving parse).run (start ⟨"/com/example"⟩ c) steps
    (s.child (.characteristic 0 (GattUuid.fromShortUuid 0x2a37).toString)).isSome = true ∧
      ∀ p q q' u v, s.Stored p q u → s.Stored p q' v → u.toBlueZFormat = v.toBlueZFormat →
        q = q' := by
  intro parse c steps s
  have hnone {t : GattServer Unit} (ht : ∀ i u, t.characteristic i u = none) (q : ObjectPtr) :
      t.child q = none := by
    cases q with
    | application => rfl
    | service i => rfl
    | characteristic i u => rw [child, ht, Option.map_none]
    | descriptor i u v =>
      rw [child, descriptor, ht]
      rfl
  have hspells {t : GattServer Unit} {step : ServerStep} (ht : ∀ i u, t.characteristic i u = none)
      (hp : ∀ p u, t.adds step = some (p, u) → p ≠ .application ∨ t.services = []) :
      t.Spells step := by
    intro p u hadds q v hq
    cases hq with
    | @service i _ hi _ =>
      rcases hp _ _ hadds with h | h
      · exact absurd rfl h
      · rw [h] at hi
        cases hi
    | child hx =>
      rw [hnone ht] at hx
      cases hx
  have hevery : (serving parse).Every Spells (start ⟨"/com/example"⟩ c) steps := by
    refine ⟨hspells ?_ ?_, hspells ?_ ?_, hspells ?_ ?_, trivial⟩
    · intro i u
      rfl
    · intro p u h
      cases h
    · rintro (_ | _) u <;> rfl
    · exact fun _ _ _ => .inr rfl
    · rintro (_ | _) u <;> rfl
    · intro p u h
      cases h
      exact .inl ObjectPtr.noConfusion
  exact ⟨by decide, (spellings_run parse _ c steps hevery).1⟩

/-- Two texts for one UUID are two services, and a third text finds neither. -/
theorem spellings_not_unique :
    let lower : GattUuid := ⟨"0000180d-0000-1000-8000-00805f9b34fb", by decide⟩
    let upper : GattUuid := ⟨"0000180D-0000-1000-8000-00805F9B34FB", by decide⟩
    let short : GattUuid := ⟨"0000180d00001000800000805f9b34fb", by decide⟩
    let c := ((DBusConnection.constructed (ObjectPtr × HandlerData Closure) Unit).connect true).2
    let s := (serving (fun _ => none)).run (start ⟨"/com/example"⟩ c)
      [.constructService ⟨"/com/example/a"⟩ lower true,
        .constructService ⟨"/com/example/b"⟩ upper true,
        .addService (some 0), .addService (some 1)]
    s.services = [0, 1] ∧ (s.service 0).map (·.uuid) = some lower ∧
      (s.service 1).map (·.uuid) = some upper ∧ lower.toBlueZFormat = upper.toBlueZFormat ∧
      short.toBlueZFormat = lower.toBlueZFormat ∧ s.getService short = none := by
  exact ⟨rfl, rfl, rfl, by decide, by decide, by decide⟩

end GattServer
end Ggk
