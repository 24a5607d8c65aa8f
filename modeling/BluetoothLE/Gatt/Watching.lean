import BluetoothLE.Gatt.Children

namespace Ggk
open Lib
set_option autoImplicit true

namespace GattServer
variable {s s' : GattServer η} {parse : String → Option (List String)} {uuid : GattUuid}

/-- A service as it is later on. It may have been registered, and may have grown. -/
structure Remains (x y : GattService) : Prop where
  path : y.object.path = x.object.path
  uuid : y.uuid = x.uuid
  primary : y.primary = x.primary
  registered : x.object.registered = true → y.object.registered = true

theorem Remains.refl (x : GattService) : Remains x x := ⟨rfl, rfl, rfl, id⟩

theorem Remains.setService (hx : s.service i = some x) (hy : s.service j = some y)
    (h : Remains x z) : ∃ y', (s.setService i z).service j = some y' ∧ Remains y y' := by
  rw [service_setService hx]
  split
  · rename_i hij
    subst hij
    cases hx.symm.trans hy
    exact ⟨z, rfl, h⟩
  · exact ⟨y, hy, .refl y⟩

theorem Change.keeps_service (h : Change parse s s') (hy : s.service j = some y) :
    ∃ y', s'.service j = some y' ∧ Remains y y' := by
  cases h with
  | declined h => exact ⟨y, hy, .refl y⟩
  | constructed path uuid isPrimary =>
    obtain ⟨hj, _⟩ := List.getElem?_eq_some_iff.1 hy
    refine ⟨y, ?_, .refl y⟩
    rw [service, List.getElem?_append, if_pos hj]
    exact hy
  | unset hx hr h =>
    exact Remains.setService hx hy ⟨rfl, rfl, rfl, fun h => absurd (hr.symm.trans h) (by decide)⟩
  | set hx hr h => exact Remains.setService hx hy ⟨rfl, rfl, rfl, fun _ => rfl⟩
  | added hx hn => exact ⟨y, hy, .refl y⟩
  | removed uuid h => exact ⟨y, hy, .refl y⟩
  | characteristic hx hn h => exact Remains.setService hx hy ⟨rfl, rfl, rfl, id⟩
  | descriptor hx hn hd h => exact Remains.setService hx hy ⟨rfl, rfl, rfl, id⟩
  | unregistered ha hr h => exact ⟨y, hy, .refl y⟩
  | registered answered ha hr h => exact ⟨y, hy, .refl y⟩

theorem Change.keeps_uuid (h : Change parse s s') (hi : (s.service i).isSome = true)
    (uuid : GattUuid) : s'.hasUuid uuid i = s.hasUuid uuid i := by
  obtain ⟨x, hx⟩ := Option.isSome_iff_exists.1 hi
  obtain ⟨y, hy, hxy⟩ := h.keeps_service hx
  rw [hasUuid, hasUuid, hx, hy, Option.any_some, Option.any_some, hxy.uuid]

/-- Listing changes in two ways. -/
theorem Change.services_cases (h : Change parse s s') :
    s'.services = s.services ∨
      (∃ i x, s.service i = some x ∧ s.services.any (s.hasUuid x.uuid) = false ∧
        s'.services = s.services ++ [i]) ∨
      ∃ uuid, s'.services = s.services.eraseP (s.hasUuid uuid) := by
  cases h with
  | @added i x hx hn => exact .inr (.inl ⟨i, x, hx, hn, rfl⟩)
  | removed uuid h => exact .inr (.inr ⟨uuid, rfl⟩)
  | _ => exact .inl rfl

theorem hasUuid_self (hx : s.service i = some x) : s.hasUuid x.uuid i = true := by
  rw [hasUuid, hx, Option.any_some, beq_self_eq_true]

/-- The listed services exist, and no text is the UUID of two of them. -/
structure Listed (s : GattServer η) : Prop where
  exist : ∀ i ∈ s.services, (s.service i).isSome = true
  apart : s.services.Pairwise fun i j => ∀ uuid, s.hasUuid uuid i = true →
    s.hasUuid uuid j = false

theorem Listed.nodup (h : Listed s) : s.services.Nodup := by
  apply h.apart.imp_of_mem
  intro i j hi _ hij heq
  subst heq
  obtain ⟨x, hx⟩ := Option.isSome_iff_exists.1 (h.exist i hi)
  exact Bool.false_ne_true ((hij x.uuid (hasUuid_self hx)).symm.trans (hasUuid_self hx))

theorem Listed.next (hs : Listed s) (h : Change parse s s') : Listed s' := by
  have hsome (i : Nat) (hi : (s.service i).isSome = true) : (s'.service i).isSome = true := by
    obtain ⟨x, hx⟩ := Option.isSome_iff_exists.1 hi
    obtain ⟨y, hy, _⟩ := h.keeps_service hx
    rw [hy]
    rfl
  have hkept : s.services.Pairwise fun i j => ∀ uuid, s'.hasUuid uuid i = true →
      s'.hasUuid uuid j = false := by
    apply hs.apart.imp_of_mem
    intro i j hi hj hij uuid
    rw [h.keeps_uuid (hs.exist i hi), h.keeps_uuid (hs.exist j hj)]
    exact hij uuid
  obtain heq | ⟨i, x, hx, hn, heq⟩ | ⟨uuid, heq⟩ := h.services_cases
  · exact ⟨fun i hi => hsome i (hs.exist i (heq ▸ hi)), heq ▸ hkept⟩
  · have hi : (s.service i).isSome = true := by
      rw [hx]
      rfl
    apply Listed.mk
    · intro j hj
      rw [heq, List.mem_append, List.mem_singleton] at hj
      rcases hj with hj | rfl
      · exact hsome j (hs.exist j hj)
      · exact hsome j hi
    · rw [heq, List.pairwise_append]
      refine ⟨hkept, List.pairwise_singleton _ _, fun j hj k hk uuid => ?_⟩
      cases List.mem_singleton.1 hk
      rw [h.keeps_uuid (hs.exist j hj), h.keeps_uuid hi]
      intro hj'
      apply Bool.eq_false_iff.2
      intro hi'
      rw [hasUuid, hx, Option.any_some, beq_iff_eq] at hi'
      have hx' : s.hasUuid x.uuid j = true := by
        rw [hasUuid, hi']
        exact hj'
      exact List.any_eq_false.1 hn j hj hx'
  · have hsub : s'.services.Sublist s.services := by
      rw [heq]
      exact List.eraseP_sublist
    exact ⟨fun i hi => hsome i (hs.exist i (hsub.subset hi)), hkept.sublist hsub⟩

end GattServer

/-- What the caller of a server knows from the answers: which services are added and not removed,
and whether the last registration with BlueZ succeeded. -/
structure Seen where
  added : List Nat
  told : Bool
  deriving DecidableEq, Repr

def Seen.after (s : GattServer η) (seen : Seen) : ServerStep → Returned → Seen
  | .addService (some i), .verdict true => { seen with added := seen.added ++ [i] }
  | .removeService uuid, .verdict true =>
    { seen with added := seen.added.filter fun i => !s.hasUuid uuid i }
  | .registerWithBlueZ _ _, .verdict b => { seen with told := b }
  | _, _ => seen

theorem eraseP_eq_filter {l : List α} {q : α → Bool}
    (h : l.Pairwise fun a b => q a = true → q b = false) : l.eraseP q = l.filter (!q ·) := by
  induction l with
  | nil => rfl
  | cons a l ih =>
    obtain ⟨ha, hl⟩ := List.pairwise_cons.1 h
    cases hq : q a with
    | false => simp [hq, ih hl]
    | true =>
      have hkept : l.filter (!q ·) = l := by
        apply List.filter_eq_self.2
        intro b hb
        rw [ha b hb hq]
        rfl
      simp [hq, hkept]

namespace GattServer
variable {s : GattServer η} {parse : String → Option (List String)}

/-- The server beside a caller that keeps track of the answers. -/
def watching (parse : String → Option (List String)) :
    Machine (GattServer η × Seen) ServerStep Returned where
  step s step :=
    let r := s.1.perform parse step
    (r.1, r.2, s.2.after s.1 step r.1)

def watched (parse : String → Option (List String)) (path : DBusObjectPath)
    (c : DBusConnection (ObjectPtr × HandlerData Closure) η) (steps : List ServerStep) :
    GattServer η × Seen :=
  (watching parse).run (start path c, ⟨[], false⟩) steps

/-- The caller is right about the list and about the registration. -/
def Knows (s : GattServer η) (seen : Seen) : Prop :=
  s.services = seen.added ∧ s.app.registered = seen.told

theorem Knows.next (h : Knows s seen) (hs : Listed s) (hp : Performs parse s step r) :
    Knows r.2 (seen.after s step r.1) := by
  cases hp with
  | constructed path uuid isPrimary => exact h
  | notSetUp i refuses => exact h
  | unset refuses hx hr hc => exact h
  | set refuses hx hr hc => exact h
  | notAdded service => cases service <;> exact h
  | @added i x hx hn => exact ⟨congrArg (· ++ [i]) h.1, h.2⟩
  | notRemoved uuid hn => exact h
  | removed uuid hn =>
    refine ⟨?_, h.2⟩
    simp only [Seen.after]
    rw [eraseP_eq_filter (hs.apart.imp fun hij => hij uuid), h.1]
  | createsCharacteristic refuses hc => cases hc <;> exact h
  | createsDescriptor refuses hc => cases hc <;> exact h
  | registeredBefore refuses answered ha => exact ⟨h.1, ha⟩
  | exportedBefore refuses answered ha hr => exact ⟨h.1, ha⟩
  | unregistered refuses answered ha hr hc => exact ⟨h.1, rfl⟩
  | registered refuses answered ha hr hc => exact ⟨h.1, rfl⟩

/-- The invariant of the runs that a caller keeps track of. -/
structure Tracked (parse : String → Option (List String)) (s : GattServer η × Seen) : Prop where
  sound : Sound parse s.1
  listed : Listed s.1
  knows : Knows s.1 s.2

theorem Tracked.next {t : GattServer η × Seen} (h : Tracked parse t) (step : ServerStep) :
    Tracked parse ((watching parse).next t step) :=
  ⟨h.sound.next step, h.listed.next (perform_change parse h.sound.plain step),
    h.knows.next h.listed (perform_performs parse h.sound.plain step)⟩

theorem tracked_run (parse : String → Option (List String)) (path : DBusObjectPath)
    (c : DBusConnection (ObjectPtr × HandlerData Closure) η) (steps : List ServerStep) :
    Tracked parse (watched parse path c steps) := by
  have hstart : Tracked parse (start path c, (⟨[], false⟩ : Seen)) :=
    ⟨.start parse path c, ⟨fun i hi => absurd hi List.not_mem_nil, .nil⟩, rfl, rfl⟩
  exact Machine.run_invariant (C := fun _ _ => True) hstart (fun _ step hs _ => hs.next step)
    (Machine.every_of_forall fun _ _ _ => trivial)

/-- The caller changes nothing. -/
theorem watching_run (parse : String → Option (List String)) (t : GattServer η × Seen)
    (steps : List ServerStep) :
    ((watching parse).run t steps).1 = (serving parse).run t.1 steps := by
  induction steps generalizing t with
  | nil => rfl
  | cons step steps ih => exact ih _

theorem watched_fst (parse : String → Option (List String)) (path : DBusObjectPath)
    (c : DBusConnection (ObjectPtr × HandlerData Closure) η) (steps : List ServerStep) :
    (watched parse path c steps).1 = (serving parse).run (start path c) steps :=
  watching_run parse _ steps

theorem watched_told (parse : String → Option (List String)) (path : DBusObjectPath)
    (c : DBusConnection (ObjectPtr × HandlerData Closure) η) (steps : List ServerStep) :
    (watched parse path c steps).2.told =
      ((serving parse).run (start path c) steps).app.registered := by
  rw [← watched_fst]
  exact (tracked_run parse path c steps).knows.2.symm

end GattServer
end Ggk
