import BluetoothLE.Gatt.Tree
import BluetoothLE.Gatt.TreeAlone
import BluetoothLE.Gatt.Concurrent
import BluetoothLE.Gatt.Watching

namespace Ggk
open Lib Program
set_option autoImplicit true

theorem ParentPtr.child_inj {p q : ParentPtr} : p.child u = q.child v ↔ p = q ∧ u = v := by
  cases p <;> cases q <;> simp [child, and_assoc]

theorem findIdx?_congr {f g : α → Bool} :
    ∀ l : List α, (∀ a ∈ l, f a = g a) → l.findIdx? f = l.findIdx? g
  | [], _ => rfl
  | a :: l, h => by
    rw [List.findIdx?_cons, List.findIdx?_cons, h a List.mem_cons_self,
      findIdx?_congr l fun b hb => h b (List.mem_cons_of_mem a hb)]

namespace GattServer
open TreeThread
variable {s s' : GattServer η} {cells : (m : TreeMutex) → TreeCell m}

/-- How many children there are. -/
def count (s : GattServer η) : ParentPtr → Nat
  | .service i => ((s.service i).map fun x => x.characteristics.size).getD 0
  | .characteristic i u => ((s.characteristic i u).map fun n => n.descriptors.size).getD 0

/-- The cells have the services and the children of the server, with their paths. -/
structure Shown (s : GattServer η) (cells : (m : TreeMutex) → TreeCell m) : Prop where
  services : listed cells = s.services
  paths : ∀ (parent : ParentPtr) path r, s.standing parent.this = some (path, r) →
    (objectAt cells parent.this).path = path
  children : ∀ (parent : ParentPtr) (uuid : String),
    (childrenOf cells parent)[uuid]? = (s.standing (parent.child uuid)).map Prod.fst
  sizes : ∀ parent, (childrenOf cells parent).size = s.count parent

/-- The threads start with services that have been constructed, and nothing in them. -/
theorem shown_treeCells {paths : ObjectPtr → DBusObjectPath} (hs : s.services = [])
    (hx : ∀ i x, s.service i = some x → x.object.path = paths (.service i) ∧
      x.characteristics = ∅) : Shown s (treeCells paths) := by
  have hn (i : Nat) (u : String) : s.characteristic i u = none := by
    rw [characteristic]
    cases h : s.service i with
    | none => rfl
    | some x =>
      rw [Option.bind_some, (hx i x h).2]
      rfl
  refine ⟨hs.symm, ?_, ?_, ?_⟩
  · rintro (i | ⟨i, u⟩) path r hst
    · obtain ⟨x, hi, heq⟩ := Option.map_eq_some_iff.1 hst
      cases heq
      exact (hx i x hi).1.symm
    · rw [ParentPtr.this, standing, hn] at hst
      cases hst
  · rintro (i | ⟨i, u⟩) uuid
    · rw [ParentPtr.child, standing, hn]
      rfl
    · rw [ParentPtr.child, standing, descriptor, hn]
      rfl
  · rintro (i | ⟨i, u⟩)
    · rw [count]
      cases h : s.service i with
      | none => rfl
      | some x =>
        rw [Option.map_some, (hx i x h).2]
        rfl
    · rw [count, hn]
      rfl

theorem childrenOf_other (hq : q ≠ parent) (o : DBusObject Closure)
    (children : Std.TreeMap String DBusObjectPath) (answers : List (Answer String DBusObjectPath)) :
    childrenOf (putChildren (putObject cells this o) parent children answers) q =
      childrenOf cells q := by
  have hne : TreeMutex.childrenMutex q ≠ .childrenMutex parent := by simpa using hq
  have h : putChildren (putObject cells this o) parent children answers (.childrenMutex q) =
      putObject cells this o (.childrenMutex q) := Function.update_of_ne hne _ _
  exact (congrArg Prod.fst h).trans (childrenOf_putObject o)

theorem objectAt_other (hp : p ≠ this) (o : DBusObject Closure)
    (children : Std.TreeMap String DBusObjectPath) (answers : List (Answer String DBusObjectPath)) :
    objectAt (putChildren (putObject cells this o) parent children answers) p =
      objectAt cells p := by
  have hne : TreeMutex.objectMutex p ≠ .objectMutex this := by simpa using hp
  have h : putChildren (putObject cells this o) parent children answers (.objectMutex p) =
      putObject cells this o (.objectMutex p) := Function.update_of_ne (by simp) _ _
  exact h.trans (Function.update_of_ne hne _ _)

theorem objectAt_self (o : DBusObject Closure)
    (children : Std.TreeMap String DBusObjectPath) (answers : List (Answer String DBusObjectPath)) :
    objectAt (putChildren (putObject cells this o) parent children answers) this = o := by
  have h : putChildren (putObject cells this o) parent children answers (.objectMutex this) =
      putObject cells this o (.objectMutex this) := Function.update_of_ne (by simp) _ _
  exact h.trans (objectAt_putObject o)

theorem listed_put (o : DBusObject Closure)
    (children : Std.TreeMap String DBusObjectPath) (answers : List (Answer String DBusObjectPath)) :
    listed (putChildren (putObject cells this o) parent children answers) = listed cells := by
  have h : putChildren (putObject cells this o) parent children answers .servicesMutex =
      putObject cells this o .servicesMutex := Function.update_of_ne (by simp) _ _
  have h' : putObject cells this o .servicesMutex = cells .servicesMutex :=
    Function.update_of_ne (by simp) _ _
  exact congrArg Prod.fst (h.trans h')

/-- A child that is created shows. -/
theorem Shown.created (hs : Shown s cells) {parent : ParentPtr} {uuid : String}
    {path : DBusObjectPath} {o : DBusObject Closure}
    (hst : ∀ p, s'.standing p = if p = parent.child uuid then some (path, true) else s.standing p)
    (hcount : ∀ q, s'.count q = if q = parent then s.count q + 1 else s.count q)
    (hservices : s'.services = s.services) (hn : (childrenOf cells parent)[uuid]? = none)
    (ho : o.path = path) (answers : List (Answer String DBusObjectPath))
    (c' : DBusConnection (ObjectPtr × HandlerData Closure) η) :
    Shown { s' with connection := c' } (putChildren (putObject cells (parent.child uuid) o) parent
      ((childrenOf cells parent).insert uuid path) answers) where
  services := by rw [listed_put, hs.services, hservices]
  paths := by
    intro q path' r (hq : s'.standing q.this = some (path', r))
    rw [hst] at hq
    split_ifs at hq with hc
    · cases hq
      rw [hc, objectAt_self, ho]
    · rw [objectAt_other hc]
      exact hs.paths q path' r hq
  children := by
    intro q v
    show _ = (s'.standing (q.child v)).map Prod.fst
    rw [hst]
    by_cases hq : q = parent
    · subst hq
      rw [childrenOf_putChildren, getElem?_insert_string, hs.children]
      by_cases hv : uuid = v
      · subst hv
        rw [if_pos rfl, if_pos rfl, Option.map_some]
      · rw [if_neg hv, if_neg fun hc => hv (ParentPtr.child_inj.1 hc).2.symm]
    · rw [childrenOf_other hq, hs.children, if_neg fun hc => hq (ParentPtr.child_inj.1 hc).1]
  sizes := by
    intro q
    show _ = s'.count q
    rw [hcount]
    by_cases hq : q = parent
    · subst hq
      rw [childrenOf_putChildren, Std.TreeMap.size_insert, Std.TreeMap.contains_eq_isSome_getElem?,
        hn, if_pos rfl, hs.sizes]
      rfl
    · rw [childrenOf_other hq, if_neg hq, hs.sizes]

/-- Nothing shows of a child that is not created in the end. -/
theorem Shown.kept (hs : Shown s cells) {parent : ParentPtr} {uuid : String}
    {o : DBusObject Closure} (ho : ∀ (q : ParentPtr) path r, q.this = parent.child uuid →
      s.standing q.this = some (path, r) → o.path = path)
    (answers : List (Answer String DBusObjectPath))
    (c' : DBusConnection (ObjectPtr × HandlerData Closure) η) :
    Shown { s with connection := c' } (putChildren (putObject cells (parent.child uuid) o) parent
      (childrenOf cells parent) answers) where
  services := by rw [listed_put, hs.services]
  paths := by
    intro q path r hq
    by_cases hc : q.this = parent.child uuid
    · rw [hc, objectAt_self]
      exact ho q path r hc hq
    · rw [objectAt_other hc]
      exact hs.paths q path r hq
  children := by
    intro q v
    by_cases hq : q = parent
    · subst hq
      rw [childrenOf_putChildren]
      exact hs.children q v
    · rw [childrenOf_other hq]
      exact hs.children q v
  sizes := by
    intro q
    by_cases hq : q = parent
    · subst hq
      rw [childrenOf_putChildren]
      exact hs.sizes q
    · rw [childrenOf_other hq]
      exact hs.sizes q

/-- Nothing shows of an answer. -/
theorem Shown.answered (hs : Shown s cells) (parent : ParentPtr)
    (answers : List (Answer String DBusObjectPath)) :
    Shown s (putChildren cells parent (childrenOf cells parent) answers) := by
  have hpaths (q : ParentPtr) path r (hq : q.this = parent.child "")
      (hst : s.standing q.this = some (path, r)) :
      (objectAt cells (parent.child "")).path = path := by
    rw [← hq]
    exact hs.paths q path r hst
  have hkept := hs.kept hpaths answers s.connection
  rw [putObject_self] at hkept
  exact hkept

/-- Run by itself, a search among the children finds what there is. -/
theorem Shown.getChild_ends (hs : Shown s cells) (parent : ParentPtr) (uuid : GattUuid) :
    ∃ cells', Ends (getChild parent uuid) cells
      ((s.standing (parent.child uuid.toString)).map Prod.fst) cells' ∧ Shown s cells' := by
  rw [← hs.children]
  obtain ⟨answers, he⟩ := ends_answer cells parent uuid.toString
    (childrenOf cells parent)[uuid.toString]?
  exact ⟨_, ((ends_children parent _).bind he).locked _, hs.answered parent answers⟩

theorem Shown.ends_existing (hs : Shown s cells) (registers : Bool)
    (h : s.standing (parent.child uuid.toString) = some (path, r)) :
    ∃ cells', Ends (createChild parent uuid registers) cells (some path) cells' ∧
      Shown s cells' := by
  have hfound : (childrenOf cells parent)[uuid.toString]? = some path := by
    rw [hs.children, h, Option.map_some]
  obtain ⟨answers, he⟩ := ends_createChild_found registers hfound
  exact ⟨_, he, hs.answered parent answers⟩

theorem Shown.ends_declined (hs : Shown s cells)
    (c' : DBusConnection (ObjectPtr × HandlerData Closure) η)
    (h : s.standing (parent.child uuid.toString) = none) :
    ∃ cells', Ends (createChild parent uuid false) cells none cells' ∧
      Shown { s with connection := c' } cells' := by
  have hnew : (childrenOf cells parent)[uuid.toString]? = none := by
    rw [hs.children, h, Option.map_none]
  obtain ⟨o, answers, -, he⟩ := ends_createChild_new false hnew rfl
  have hpaths (q : ParentPtr) path r (hq : q.this = parent.child uuid.toString)
      (hst : s.standing q.this = some (path, r)) : o.path = path := by
    rw [hq, h] at hst
    cases hst
  exact ⟨_, he, hs.kept hpaths answers c'⟩

theorem Shown.ends_created (hs : Shown s cells)
    (hst : ∀ p, s'.standing p = if p = parent.child uuid.toString then some (path, true)
      else s.standing p)
    (hcount : ∀ q, s'.count q = if q = parent then s.count q + 1 else s.count q)
    (hservices : s'.services = s.services) (h : s.standing (parent.child uuid.toString) = none)
    (hparent : s.standing parent.this = some (parentPath, r))
    (hpath : parent.childPath parentPath (s.count parent + 1) = path)
    (c' : DBusConnection (ObjectPtr × HandlerData Closure) η) :
    ∃ cells', Ends (createChild parent uuid true) cells (some path) cells' ∧
      Shown { s' with connection := c' } cells' := by
  have hnew : (childrenOf cells parent)[uuid.toString]? = none := by
    rw [hs.children, h, Option.map_none]
  rw [← hs.paths parent parentPath r hparent, ← hs.sizes] at hpath
  obtain ⟨o, answers, ho, he⟩ := ends_createChild_new true hnew hpath
  exact ⟨_, he, hs.created hst hcount hservices hnew (ho rfl) answers c'⟩

section Application
variable {uuids : Nat → String}

/-- The texts that the threads compare are those of the services that are listed. -/
def Texts (s : GattServer η) (uuids : Nat → String) : Prop :=
  ∀ i ∈ s.services, ∀ uuid, s.hasUuid uuid i = (uuids i == uuid.toString)

theorem Texts.search (hu : Texts s uuids) (uuid : GattUuid) :
    s.services.findIdx? (s.hasUuid uuid) =
      s.services.findIdx? fun j => uuids j == uuid.toString :=
  findIdx?_congr s.services fun i hi => hu i hi uuid

theorem Shown.putListed (hs : Shown s cells) (services : List Nat) (answers : List ServicesAnswer) :
    Shown { s with services } (putListed cells services answers) where
  services := listed_putListed services answers
  paths := by
    intro parent path r hst
    have h : TreeThread.putListed cells services answers (.objectMutex parent.this) =
        cells (.objectMutex parent.this) := Function.update_of_ne (by simp) _ _
    exact (congrArg DBusObject.path h).trans (hs.paths parent path r hst)
  children := by
    intro parent uuid
    have h : TreeThread.putListed cells services answers (.childrenMutex parent) =
        cells (.childrenMutex parent) := Function.update_of_ne (by simp) _ _
    exact (congrArg (fun b => (Prod.fst b)[uuid]?) h).trans (hs.children parent uuid)
  sizes := by
    intro parent
    have h : TreeThread.putListed cells services answers (.childrenMutex parent) =
        cells (.childrenMutex parent) := Function.update_of_ne (by simp) _ _
    exact (congrArg (fun b => (Prod.fst b).size) h).trans (hs.sizes parent)

/-- Run by itself, `addService` does what the sequential function does. -/
theorem Shown.addService_ends (hs : Shown s cells) (hu : Texts s uuids)
    (hx : s.service i = some x) (hi : uuids i = x.uuid.toString) :
    ∃ cells', Ends (TreeThread.addService uuids (some i)) cells (s.addService (some i)).1 cells' ∧
      Shown (s.addService (some i)).2 cells' := by
  obtain ⟨answers, he⟩ := ends_addService cells uuids i
  rw [hs.services, hi, ← hu.search] at he
  have hany : (s.services.findIdx? (s.hasUuid x.uuid)).isSome =
    s.services.any (s.hasUuid x.uuid) := List.findIdx?_isSome
  simp only [addService, hx, ← hany]
  cases hf : s.services.findIdx? (s.hasUuid x.uuid) with
  | some k =>
    rw [hf] at he
    exact ⟨_, he, hs.putListed s.services answers⟩
  | none =>
    rw [hf] at he
    exact ⟨_, he, hs.putListed (s.services ++ [i]) answers⟩

/-- Run by itself, `removeService` does what the sequential function does. -/
theorem Shown.removeService_ends (hs : Shown s cells) (hu : Texts s uuids)
    (uuid : GattUuid) :
    ∃ cells', Ends (TreeThread.removeService uuids uuid) cells (s.removeService uuid).1 cells' ∧
      Shown (s.removeService uuid).2 cells' := by
  obtain ⟨answers, he⟩ := ends_removeService cells uuids uuid
  rw [hs.services, ← hu.search] at he
  have hany : (s.services.findIdx? (s.hasUuid uuid)).isSome =
    s.services.any (s.hasUuid uuid) := List.findIdx?_isSome
  have herase : s.services.eraseP (s.hasUuid uuid) = _ := List.eraseP_eq_eraseIdx
  simp only [removeService, ← hany, herase]
  cases hf : s.services.findIdx? (s.hasUuid uuid) with
  | some k =>
    rw [hf] at he
    exact ⟨_, he, hs.putListed (s.services.eraseIdx k) answers⟩
  | none =>
    rw [hf] at he
    exact ⟨_, he, hs.putListed s.services answers⟩

/-- Run by itself, `getService` does what the sequential function does. -/
theorem Shown.getService_ends (hs : Shown s cells) (hu : Texts s uuids)
    (uuid : GattUuid) :
    ∃ cells', Ends (TreeThread.getService uuids uuid) cells (s.getService uuid) cells' ∧
      Shown s cells' := by
  obtain ⟨answers, he⟩ := ends_getService cells uuids uuid
  rw [hs.services, ← hu.search] at he
  have hfind : s.services.find? (s.hasUuid uuid) = _ := List.find?_eq_bind_findIdx?_getElem?
  rw [getService, hfind]
  exact ⟨_, he, hs.putListed s.services answers⟩

end Application

theorem count_characteristic (hx : s.service i = some x) (hn : x.characteristics[u]? = none)
    (characteristic : GattCharacteristic) (q : ParentPtr) :
    (s.setService i (x.withCharacteristic u ⟨characteristic, ∅⟩)).count q =
      if q = .service i then s.count q + 1 else s.count q := by
  cases q with
  | service j =>
    rw [count, count, service_setService hx]
    by_cases hij : i = j
    · subst hij
      rw [if_pos rfl, if_pos rfl, hx, Option.map_some, Option.map_some,
        GattService.withCharacteristic, Std.TreeMap.size_insert,
        Std.TreeMap.contains_eq_isSome_getElem?, hn]
      rfl
    · rw [if_neg hij, if_neg (by simpa using Ne.symm hij)]
  | characteristic j v =>
    have hne : ParentPtr.characteristic j v ≠ .service i := by simp
    rw [count, count, characteristic_insert hx, if_neg hne]
    by_cases hij : i = j ∧ u = v
    · rw [if_pos hij, ← hij.1, ← hij.2, characteristic_of_service hx, hn]
      rfl
    · rw [if_neg hij]

theorem count_descriptor (hx : s.service i = some x) (hn : x.characteristics[u]? = some n)
    (hd : n.descriptors[v]? = none) {n' : CharacteristicNode} {d : GattDescriptor}
    (hn' : n'.descriptors = n.descriptors.insert v d) (q : ParentPtr) :
    (s.setService i (x.withCharacteristic u n')).count q =
      if q = .characteristic i u then s.count q + 1 else s.count q := by
  cases q with
  | service j =>
    have hne : ParentPtr.service j ≠ .characteristic i u := by simp
    rw [count, count, service_setService hx, if_neg hne]
    by_cases hij : i = j
    · subst hij
      rw [if_pos rfl, hx, Option.map_some, Option.map_some, GattService.withCharacteristic,
        Std.TreeMap.size_insert, Std.TreeMap.contains_eq_isSome_getElem?, hn]
      rfl
    · rw [if_neg hij]
  | characteristic j w =>
    rw [count, count, characteristic_insert hx]
    by_cases hij : i = j ∧ u = w
    · obtain ⟨rfl, rfl⟩ := hij
      rw [if_pos ⟨rfl, rfl⟩, if_pos rfl, characteristic_of_service hx, hn, Option.map_some,
        Option.map_some, hn', Std.TreeMap.size_insert, Std.TreeMap.contains_eq_isSome_getElem?, hd]
      rfl
    · rw [if_neg hij, if_neg (by simpa [eq_comm] using hij)]

/-- What a call that creates comes to, as far as it shows. -/
inductive Outcome (s : GattServer η) (parent : ParentPtr) (uuid : String) :
    Bool → Returned × GattServer η → Prop
  | existing (registers : Bool) (h : s.standing (parent.child uuid) = some (path, r)) :
    Outcome s parent uuid registers (.pointer (some (parent.child uuid)), s)
  | declined (h : s.standing (parent.child uuid) = none) :
    Outcome s parent uuid false (.pointer none, { s with connection := c' })
  | created {s' : GattServer η} {c' : DBusConnection (ObjectPtr × HandlerData Closure) η}
      (h : s.standing (parent.child uuid) = none)
      (hst : ∀ p, s'.standing p = if p = parent.child uuid then some (path, true)
        else s.standing p)
      (hcount : ∀ q, s'.count q = if q = parent then s.count q + 1 else s.count q)
      (hservices : s'.services = s.services)
      (hparent : s.standing parent.this = some (parentPath, r))
      (hpath : parent.childPath parentPath (s.count parent + 1) = path) :
    Outcome s parent uuid true (.pointer (some (parent.child uuid)), { s' with connection := c' })

theorem Shown.createChild_ends (hs : Shown s cells) {uuid : GattUuid}
    (h : Outcome s parent uuid.toString registers r) :
    ∃ p cells', r.1 = .pointer p ∧ Ends (createChild parent uuid registers) cells
      (p.bind fun p => (r.2.standing p).map Prod.fst) cells' ∧ Shown r.2 cells' := by
  cases h with
  | existing registers h =>
    obtain ⟨cells', he, hshown⟩ := hs.ends_existing registers h
    refine ⟨_, cells', rfl, ?_, hshown⟩
    rw [Option.bind_some, h, Option.map_some]
    exact he
  | @declined c' h =>
    obtain ⟨cells', he, hshown⟩ := hs.ends_declined c' h
    exact ⟨none, cells', rfl, he, hshown⟩
  | @created path parentPath r s' c' h hst hcount hservices hparent hpath =>
    obtain ⟨cells', he, hshown⟩ := hs.ends_created hst hcount hservices h hparent hpath c'
    have hstanding : ({ s' with connection := c' } : GattServer η).standing
        (parent.child uuid.toString) = some (path, true) := (hst _).trans (if_pos rfl)
    refine ⟨_, cells', rfl, ?_, hshown⟩
    rw [Option.bind_some, hstanding, Option.map_some]
    exact he

theorem perform_createCharacteristic_new (parse : String → Option (List String))
    (hx : s.service i = some x) (hn : x.characteristics[uuid.toString]? = none)
    (properties permissions : UInt8) (refuses : List Bool) :
    (s.perform parse (.createCharacteristic i uuid properties permissions refuses)).1 =
      .pointer (if ((ObjectPtr.characteristic i uuid.toString).setupDBusInterfaces parse refuses
        (.constructed x.nextPath) s.connection).1 then some (.characteristic i uuid.toString)
          else none) := by
  rw [perform, hx]
  simp only [GattService.createCharacteristic, uuid.toString_isEmpty,
    Std.TreeMap.contains_eq_isSome_getElem?, hn]
  cases ((ObjectPtr.characteristic i uuid.toString).setupDBusInterfaces parse refuses
    (.constructed x.nextPath) s.connection).1 <;> rfl

theorem outcome_createCharacteristic (parse : String → Option (List String))
    (hx : s.service i = some x) (uuid : GattUuid) (properties permissions : UInt8)
    (refuses : List Bool) :
    Outcome s (.service i) uuid.toString
      ((ObjectPtr.characteristic i uuid.toString).setupDBusInterfaces parse refuses
        (.constructed x.nextPath) s.connection).1
      (s.perform parse (.createCharacteristic i uuid properties permissions refuses)) := by
  have hchild : s.standing ((ParentPtr.service i).child uuid.toString) =
      x.characteristics[uuid.toString]?.map fun n =>
        (n.characteristic.path, n.characteristic.registered) := by
    rw [ParentPtr.child, standing, characteristic_of_service hx]
  have hnew (hn : x.characteristics[uuid.toString]? = none) :=
    perform_createCharacteristic_new parse hx hn properties permissions refuses
  have hr := perform_createCharacteristic parse (s := s) i uuid properties permissions refuses
  generalize s.perform parse (.createCharacteristic i uuid properties permissions refuses) = r
    at hnew hr
  generalize ((ObjectPtr.characteristic i uuid.toString).setupDBusInterfaces parse refuses
    (.constructed x.nextPath) s.connection).1 = registers at hnew
  cases hr with
  | missing hx' => cases hx.symm.trans hx'
  | @existing x' n hx' hn =>
    cases hx.symm.trans hx'
    rw [hn, Option.map_some] at hchild
    exact .existing registers hchild
  | @declined x' c' hx' hn h =>
    cases hx.symm.trans hx'
    rw [hn, Option.map_none] at hchild
    cases registers with
    | true => cases hnew hn
    | false => exact .declined hchild
  | @created x' c' hx' hn h =>
    cases hx.symm.trans hx'
    rw [hn, Option.map_none] at hchild
    cases registers with
    | false => cases hnew hn
    | true =>
      have hstanding := standing_characteristic hx hn
        (.created x.nextPath uuid properties permissions)
      have hparent : s.standing (ParentPtr.service i).this =
          some (x.object.path, x.object.registered) := by
        rw [ParentPtr.this, standing, hx, Option.map_some]
      have hpath : (ParentPtr.service i).childPath x.object.path (s.count (.service i) + 1) =
          x.nextPath := by
        rw [count, hx, Option.map_some, Option.getD_some]
        rfl
      exact .created hchild hstanding (count_characteristic hx hn _) rfl hparent hpath

theorem perform_createDescriptor_new (parse : String → Option (List String))
    (hx : s.service i = some x) (hn : x.characteristics[u]? = some n)
    (hd : n.descriptors[uuid.toString]? = none) (permissions : UInt8) (refuses : List Bool) :
    (s.perform parse (.createDescriptor i u uuid permissions refuses)).1 =
      .pointer (if ((ObjectPtr.descriptor i u uuid.toString).setupDBusInterfaces parse refuses
        (.constructed n.nextPath) s.connection).1 then some (.descriptor i u uuid.toString)
          else none) := by
  rw [perform, hx]
  simp only [GattService.createDescriptor, uuid.toString_isEmpty, hn,
    Std.TreeMap.contains_eq_isSome_getElem?, hd]
  cases ((ObjectPtr.descriptor i u uuid.toString).setupDBusInterfaces parse refuses
    (.constructed n.nextPath) s.connection).1 <;> rfl

theorem outcome_createDescriptor (parse : String → Option (List String))
    (hx : s.service i = some x) (hn : x.characteristics[u]? = some n) (uuid : GattUuid)
    (permissions : UInt8) (refuses : List Bool) :
    Outcome s (.characteristic i u) uuid.toString
      ((ObjectPtr.descriptor i u uuid.toString).setupDBusInterfaces parse refuses
        (.constructed n.nextPath) s.connection).1
      (s.perform parse (.createDescriptor i u uuid permissions refuses)) := by
  have hu := (characteristic_of_service hx u).trans hn
  have hchild : s.standing ((ParentPtr.characteristic i u).child uuid.toString) =
      n.descriptors[uuid.toString]?.map fun d => (d.path, d.registered) := by
    rw [ParentPtr.child, standing, descriptor, hu, Option.bind_some]
  have hnew (hd : n.descriptors[uuid.toString]? = none) :=
    perform_createDescriptor_new parse hx hn hd permissions refuses
  have hr := perform_createDescriptor parse (s := s) i u uuid permissions refuses
  generalize s.perform parse (.createDescriptor i u uuid permissions refuses) = r at hnew hr
  generalize ((ObjectPtr.descriptor i u uuid.toString).setupDBusInterfaces parse refuses
    (.constructed n.nextPath) s.connection).1 = registers at hnew
  cases hr with
  | missing hn' => cases hu.symm.trans hn'
  | @existing x' n' d hx' hn' hd =>
    cases hx.symm.trans hx'
    cases hn.symm.trans hn'
    rw [hd, Option.map_some] at hchild
    exact .existing registers hchild
  | @declined x' n' c' hx' hn' hd h =>
    cases hx.symm.trans hx'
    cases hn.symm.trans hn'
    rw [hd, Option.map_none] at hchild
    cases registers with
    | true => cases hnew hd
    | false => exact .declined hchild
  | @created x' n' c' hx' hn' hd h =>
    cases hx.symm.trans hx'
    cases hn.symm.trans hn'
    rw [hd, Option.map_none] at hchild
    cases registers with
    | false => cases hnew hd
    | true =>
      have hstanding := standing_descriptor hx hn
        (show (n.withDescriptor uuid permissions).characteristic = _ from rfl) rfl
      have hparent : s.standing (ParentPtr.characteristic i u).this =
          some (n.characteristic.path, n.characteristic.registered) := by
        rw [ParentPtr.this, standing, hu, Option.map_some]
      have hpath : (ParentPtr.characteristic i u).childPath n.characteristic.path
          (s.count (.characteristic i u) + 1) = n.nextPath := by
        rw [count, hu, Option.map_some, Option.getD_some]
        rfl
      exact .created hchild hstanding (count_descriptor hx hn hd rfl) rfl hparent hpath

/-- Run by itself, `createCharacteristic` does what the sequential function does. -/
theorem Shown.createCharacteristic_ends (hs : Shown s cells) (parse : String → Option (List String))
    (hx : s.service i = some x) (uuid : GattUuid) (properties permissions : UInt8)
    (refuses : List Bool) :
    let setup := (ObjectPtr.characteristic i uuid.toString).setupDBusInterfaces parse refuses
      (.constructed x.nextPath) s.connection
    let r := s.perform parse (.createCharacteristic i uuid properties permissions refuses)
    ∃ p cells', r.1 = .pointer p ∧ Ends (TreeThread.createCharacteristic i uuid setup.1) cells
      (p.bind fun p => (r.2.standing p).map Prod.fst) cells' ∧ Shown r.2 cells' :=
  hs.createChild_ends (outcome_createCharacteristic parse hx uuid properties permissions refuses)

/-- Run by itself, `createDescriptor` does what the sequential function does. -/
theorem Shown.createDescriptor_ends (hs : Shown s cells) (parse : String → Option (List String))
    (hx : s.service i = some x) (hn : x.characteristics[u]? = some n) (uuid : GattUuid)
    (permissions : UInt8) (refuses : List Bool) :
    let setup := (ObjectPtr.descriptor i u uuid.toString).setupDBusInterfaces parse refuses
      (.constructed n.nextPath) s.connection
    let r := s.perform parse (.createDescriptor i u uuid permissions refuses)
    ∃ p cells', r.1 = .pointer p ∧ Ends (TreeThread.createDescriptor i u uuid setup.1) cells
      (p.bind fun p => (r.2.standing p).map Prod.fst) cells' ∧ Shown r.2 cells' :=
  hs.createChild_ends (outcome_createDescriptor parse hx hn uuid permissions refuses)

/-- The call is the operation of a thread. Its objects exist, and the connection answers it as
the thread is told. -/
inductive Operates (parse : String → Option (List String)) (uuids : Nat → String)
    (s : GattServer η) : ServerStep → TreeOperation → Prop
  | addService (hx : s.service i = some x) (hi : uuids i = x.uuid.toString) :
    Operates parse uuids s (.addService (some i)) (.addService (some i))
  | removeService (uuid : GattUuid) : Operates parse uuids s (.removeService uuid)
    (.removeService uuid)
  | createCharacteristic (hx : s.service i = some x) (uuid : GattUuid)
      (properties permissions : UInt8) (refuses : List Bool) :
    Operates parse uuids s (.createCharacteristic i uuid properties permissions refuses)
      (.createCharacteristic i uuid ((ObjectPtr.characteristic i uuid.toString).setupDBusInterfaces
        parse refuses (.constructed x.nextPath) s.connection).1)
  | createDescriptor (hx : s.service i = some x) (hn : x.characteristics[u]? = some n)
      (uuid : GattUuid) (permissions : UInt8) (refuses : List Bool) :
    Operates parse uuids s (.createDescriptor i u uuid permissions refuses)
      (.createDescriptor i u uuid ((ObjectPtr.descriptor i u uuid.toString).setupDBusInterfaces
        parse refuses (.constructed n.nextPath) s.connection).1)

section Runs
variable {parse : String → Option (List String)} {uuids : Nat → String}

theorem Operates.change (h : Operates parse uuids s step op) :
    Change parse s (s.perform parse step).2 := by
  cases h with
  | addService hx hi => exact (performs_addService parse _).change
  | removeService uuid => exact (performs_removeService parse uuid).change
  | createCharacteristic hx uuid properties permissions refuses =>
    exact (perform_createCharacteristic parse _ _ _ _ _).change
  | createDescriptor hx hn uuid permissions refuses =>
    exact (perform_createDescriptor parse _ _ _ _ _).change

/-- One operation does what the call does. -/
theorem Operates.ends (h : Operates parse uuids s step op) (hs : Shown s cells)
    (hu : Texts s uuids) : ∃ cells', Ends (op.perform uuids) cells () cells' ∧
      Shown (s.perform parse step).2 cells' := by
  cases h with
  | addService hx hi =>
    obtain ⟨cells', he, hshown⟩ := hs.addService_ends hu hx hi
    exact ⟨cells', he.bind (ends_done ()), hshown⟩
  | removeService uuid =>
    obtain ⟨cells', he, hshown⟩ := hs.removeService_ends hu uuid
    exact ⟨cells', he.bind (ends_done ()), hshown⟩
  | createCharacteristic hx uuid properties permissions refuses =>
    obtain ⟨_, cells', -, he, hshown⟩ :=
      hs.createCharacteristic_ends parse hx uuid properties permissions refuses
    exact ⟨cells', he.bind (ends_done ()), hshown⟩
  | createDescriptor hx hn uuid permissions refuses =>
    obtain ⟨_, cells', -, he, hshown⟩ :=
      hs.createDescriptor_ends parse hx hn uuid permissions refuses
    exact ⟨cells', he.bind (ends_done ()), hshown⟩

theorem Operates.listed (h : Operates parse uuids s step op)
    (hi : i ∈ (s.perform parse step).2.services) :
    i ∈ s.services ∨ ∃ x, s.service i = some x ∧ uuids i = x.uuid.toString := by
  cases h with
  | @addService j x hx hj =>
    have hp := performs_addService parse (s := s) (some j)
    generalize s.perform parse (.addService (some j)) = r at hp hi
    cases hp with
    | notAdded => exact .inl hi
    | added hx' hn =>
      obtain hi | hi := List.mem_append.1 hi
      · exact .inl hi
      · cases List.mem_singleton.1 hi
        exact .inr ⟨x, hx, hj⟩
  | removeService uuid =>
    have hp := performs_removeService parse (s := s) uuid
    generalize s.perform parse (.removeService uuid) = r at hp hi
    cases hp with
    | notRemoved => exact .inl hi
    | removed => exact .inl (List.mem_of_mem_eraseP hi)
  | @createCharacteristic j x hx uuid properties permissions refuses =>
    have hr := perform_createCharacteristic parse (s := s) j uuid properties permissions refuses
    generalize s.perform parse (.createCharacteristic j uuid properties permissions refuses) = r
      at hr hi
    cases hr <;> exact .inl hi
  | @createDescriptor j x u n hx hn uuid permissions refuses =>
    have hr := perform_createDescriptor parse (s := s) j u uuid permissions refuses
    generalize s.perform parse (.createDescriptor j u uuid permissions refuses) = r at hr hi
    cases hr <;> exact .inl hi

/-- The cells show the server, and the threads know the UUID texts of its services. -/
structure Follows (uuids : Nat → String) (s : GattServer η) (cells : (m : TreeMutex) → TreeCell m) :
    Prop where
  shown : Shown s cells
  listed : Listed s
  texts : Texts s uuids

/-- One operation does what the call does. -/
theorem Operates.follows (h : Operates parse uuids s step op) (hs : Follows uuids s cells) :
    ∃ cells', Ends (op.perform uuids) cells () cells' ∧
      Follows uuids (s.perform parse step).2 cells' := by
  obtain ⟨cells', he, hshown⟩ := h.ends hs.shown hs.texts
  refine ⟨cells', he, hshown, hs.listed.next h.change, ?_⟩
  intro i hi uuid
  obtain hi | ⟨x, hx, heq⟩ := h.listed hi
  · rw [h.change.keeps_uuid (hs.listed.exist i hi), hs.texts i hi uuid]
  · rw [h.change.keeps_uuid (Option.isSome_iff_exists.2 ⟨x, hx⟩), hasUuid, hx, Option.any_some,
      heq]

/-- A run of such calls, and the operations that they are. -/
inductive Operating (parse : String → Option (List String)) (uuids : Nat → String) :
    GattServer η → List ServerStep → List TreeOperation → Prop
  | nil (s : GattServer η) : Operating parse uuids s [] []
  | cons {s : GattServer η} (h : Operates parse uuids s step op)
      (hrest : Operating parse uuids (s.perform parse step).2 steps ops) :
    Operating parse uuids s (step :: steps) (op :: ops)

/-- One after another, the operations do what the calls do. -/
theorem Operating.follows (h : Operating parse uuids s steps (ops ++ ops'))
    (hs : Follows uuids s cells) :
    ∃ done rest, steps = done ++ rest ∧
      Follows uuids ((serving parse).run s done)
        ((Program.each (ops.map (·.perform uuids))).alone cells).cells ∧
      Operating parse uuids ((serving parse).run s done) rest ops' := by
  induction ops generalizing s steps cells with
  | nil => exact ⟨[], steps, rfl, hs, h⟩
  | cons op ops ih =>
    cases h with
    | @cons step _ steps _ _ h hrest =>
      obtain ⟨_, ⟨-, rfl⟩, hs'⟩ := h.follows hs
      obtain ⟨done, rest, rfl, hdone, hrest⟩ := ih hrest hs'
      refine ⟨step :: done, rest, rfl, ?_, hrest⟩
      rw [List.map_cons, Program.each, alone_bind]
      exact hdone

section Threads
variable {θ : Type t} [DecidableEq θ] {paths : ObjectPtr → DBusObjectPath}
variable {ops : θ → List TreeOperation} {st : Program.Shared θ TreeMutex TreeCell Unit}

/-- A thread performs all its operations while nobody else moves. -/
theorem reaches_follows {t : θ} (h : TreeInterleaved uuids paths ops st) (hi : st.Idle)
    (ht : st.todo t = .each ((ops t).map (·.perform uuids)))
    (hop : Operating parse uuids s steps (ops t ++ later)) (hs : Follows uuids s st.cells) :
    ∃ st' done rest, TreeInterleaved uuids paths ops st' ∧ st'.Idle ∧ st'.todo t = .done () ∧
      (∀ u, u ≠ t → st'.todo u = st.todo u) ∧ steps = done ++ rest ∧
        Follows uuids ((serving parse).run s done) st'.cells ∧
          Operating parse uuids ((serving parse).run s done) rest later := by
  have hw : Program.wp ((treeCalls paths ops).discipline uuids paths)
      (fun held _ => held = .nothing TreeCell ∧ True) (.each ((ops t).map (·.perform uuids)))
      (.nothing TreeCell) :=
    Program.wp_mono (wp_operations t) fun _ _ hn => ⟨hn, trivial⟩
  rw [← Program.bind_done (Program.each _)] at ht
  obtain ⟨st', hr, hi', ht', hc, _, hu⟩ := h.kept.alone_idle hi ht hw
  obtain ⟨done, rest, hsteps, hdone, hrest⟩ := hop.follows hs
  exact ⟨st', done, rest, h.trans hr, hi', ht', hu, hsteps, hc ▸ hdone, hrest⟩

theorem reaches_turns (order : List θ) (hn : order.Nodup) (h : TreeInterleaved uuids paths ops st)
    (hi : st.Idle) (ht : ∀ t ∈ order, st.todo t = .each ((ops t).map (·.perform uuids)))
    (hop : Operating parse uuids s steps (order.flatMap ops)) (hs : Follows uuids s st.cells) :
    ∃ st', TreeInterleaved uuids paths ops st' ∧ (∀ t ∉ order, st'.todo t = st.todo t) ∧
      (∀ t ∈ order, st'.todo t = .done ()) ∧
        Follows uuids ((serving parse).run s steps) st'.cells := by
  induction order generalizing s steps st with
  | nil =>
    cases hop
    exact ⟨st, h, fun _ _ => rfl, List.forall_mem_nil _, hs⟩
  | cons t order ih =>
    obtain ⟨hnot, hn⟩ := List.nodup_cons.1 hn
    obtain ⟨ht, hrest⟩ := List.forall_mem_cons.1 ht
    obtain ⟨st₁, done, rest, h₁, hi₁, ht₁, hu₁, rfl, hs₁, hop₁⟩ := reaches_follows h hi ht hop hs
    have hrest₁ u (hu : u ∈ order) : st₁.todo u = .each ((ops u).map (·.perform uuids)) :=
      (hu₁ u fun he => hnot (he ▸ hu)).trans (hrest u hu)
    obtain ⟨st₂, h₂, hkept₂, hdone₂, hs₂⟩ := ih hn h₁ hi₁ hrest₁ hop₁ hs₁
    refine ⟨st₂, h₂, ?_, List.forall_mem_cons.2 ⟨(hkept₂ t hnot).trans ht₁, hdone₂⟩, ?_⟩
    · intro u hu
      obtain ⟨hne, hu⟩ := not_or.1 (mt List.mem_cons.2 hu)
      exact (hkept₂ u hu).trans (hu₁ u hne)
    · rw [Machine.run_append]
      exact hs₂

/-- Among the runs of the threads are those in which they take their turns one after another, in
any order. These do what the calls do without threads. -/
theorem serial_tree_runs (order : List θ) (hn : order.Nodup) (hs : s.services = [])
    (hx : ∀ i x, s.service i = some x → x.object.path = paths (.service i) ∧
      x.characteristics = ∅)
    (hop : Operating parse uuids s steps (order.flatMap ops)) :
    ∃ st, TreeInterleaved uuids paths ops st ∧ (∀ t ∈ order, st.todo t = .done ()) ∧
      Shown ((serving parse).run s steps) st.cells := by
  have hfollows : Follows uuids s (treeCells paths) := by
    refine ⟨shown_treeCells hs hx, ⟨?_, ?_⟩, ?_⟩
    · rw [hs]
      exact List.forall_mem_nil _
    · rw [hs]
      exact .nil
    · rw [Texts, hs]
      exact List.forall_mem_nil _
  obtain ⟨st, h, -, hdone, hfollows⟩ :=
    reaches_turns order hn .refl (fun _ => rfl) (fun _ _ => rfl) hop hfollows
  exact ⟨st, h, hdone, hfollows.shown⟩

end Threads

/-- One thread lists a service, the other creates a characteristic of it. -/
def listerAndCreator : Bool → List TreeOperation
  | true => [.addService (some 0)]
  | false => [.createCharacteristic 0 (.fromShortUuid 0x2a37) true]

theorem serial_tree_runs_created :
    let u := (GattUuid.fromShortUuid 0x2a37).toString
    ∃ st, TreeInterleaved (fun _ => (GattUuid.fromShortUuid 0x180d).toString)
        (fun _ => ⟨"/com/example/a"⟩) listerAndCreator st ∧
      (∀ t ∈ [true, false], st.todo t = .done ()) ∧ listed st.cells = [0] ∧
        (childrenOf st.cells (.service 0))[u]? = some ⟨"/com/example/a/char/1"⟩ := by
  let c := ((DBusConnection.constructed (ObjectPtr × HandlerData Closure) Unit).connect true).2
  let parse (_ : String) := some [BlueZConstants.gattCharacteristicInterface]
  let uuids (_ : Nat) := (GattUuid.fromShortUuid 0x180d).toString
  let paths (_ : ObjectPtr) : DBusObjectPath := ⟨"/com/example/a"⟩
  let x := GattService.constructed ⟨"/com/example/a"⟩ (.fromShortUuid 0x180d) true
  let s : GattServer Unit := { start ⟨"/com/example"⟩ c with objects := [x] }
  have hx (i : Nat) (y : GattService) (hy : s.service i = some y) :
      y.object.path = paths (.service i) ∧ y.characteristics = ∅ := by
    obtain _ | i := i
    · cases hy
      exact ⟨rfl, rfl⟩
    · cases hy
  have hcreate : Operates parse uuids { s with services := [0] }
      (.createCharacteristic 0 (.fromShortUuid 0x2a37) 0x10 0x01 [])
      (.createCharacteristic 0 (.fromShortUuid 0x2a37) true) :=
    .createCharacteristic (x := x) rfl (.fromShortUuid 0x2a37) 0x10 0x01 []
  have hop : Operating parse uuids s _ ([true, false].flatMap listerAndCreator) :=
    .cons (.addService rfl rfl) (.cons hcreate (.nil _))
  obtain ⟨st, h, hdone, hshown⟩ := serial_tree_runs [true, false] (by decide) rfl hx hop
  exact ⟨st, h, hdone, hshown.services, (hshown.children _ _).trans (by decide)⟩

end Runs

end GattServer
end Ggk
