import BluetoothLE.DBus.Connection
import BluetoothLE.Lib.Machine

namespace Ggk
open Lib
set_option autoImplicit true

/-- A connection whose exports point to handler data on the heap. GDBus frees what an export
points to when the export goes, and knows of no other export that points there. -/
structure HandlerHeap (η : Type u) where
  connection : DBusConnection Nat η
  allocated : Nat
  freed : List Nat

inductive HeapStep
  | connect (accepted : Bool)
  | disconnect
  | remoteClose
  | registerObject (refuses : List Bool) (path : DBusObjectPath) (introspectionXml : String)
  | unregisterObject (path : DBusObjectPath)
  | dispatch (id : Nat)

/-- The document that a step registers is in `D`, if it registers one. -/
def HeapStep.Of (D : String → Prop) : HeapStep → Prop
  | .registerObject _ _ xml => D xml
  | _ => True

namespace HandlerHeap

def start (η : Type u) : HandlerHeap η := ⟨.constructed _ _, 0, []⟩

/-- A registration gets as far as `new HandlerData()`. -/
def allocates (parse : String → Option (List String)) (path : DBusObjectPath)
    (introspectionXml : String) (c : DBusConnection δ η) : Bool :=
  c.isConnected && !c.registeredObjects.contains path.toString && (parse introspectionXml).isSome

/-- The connection changes, and what its exports have lost is freed. -/
def become (h : HandlerHeap η) (connection : DBusConnection Nat η) : HandlerHeap η where
  connection := connection
  allocated := h.allocated
  freed := (h.connection.exports.lost connection.exports).map Export.data ++ h.freed

/-- The handler data that a call of an exported object is dispatched by, if any. -/
def used (h : HandlerHeap η) (id : Nat) : Option Nat :=
  if h.connection.isConnected then
    (h.connection.exports.entries.find? fun e => e.1 == id).map fun e => e.2.data
  else none

def perform (parse : String → Option (List String)) (h : HandlerHeap η) :
    HeapStep → HandlerHeap η
  | .connect accepted => h.become (h.connection.connect accepted).2
  | .disconnect => h.become h.connection.disconnect.2
  | .remoteClose => h.become h.connection.remoteClose
  | .registerObject refuses path xml =>
    let c := h.connection
    let performed := h.become (c.registerObject parse refuses path xml h.allocated).2
    if allocates parse path xml c then { performed with allocated := h.allocated + 1 }
    else performed
  | .unregisterObject path => h.become (h.connection.unregisterObject path).2
  | .dispatch _ => h

def heap (parse : String → Option (List String)) :
    Machine (HandlerHeap η) HeapStep (Option Nat) where
  step h step :=
    (match step with
      | .dispatch id => h.used id
      | _ => none, h.perform parse step)

/-- Nothing is freed twice, and no call is dispatched by handler data that has been freed. -/
def Safe (parse : String → Option (List String)) (h : HandlerHeap η) (step : HeapStep) : Prop :=
  (h.perform parse step).freed.Nodup ∧
    ∀ data, ((heap parse).step h step).1 = some data → data ∉ h.freed

/-- The invariant: each handler data that is exported is so once, and none of them has been
freed. -/
structure Sole (h : HandlerHeap η) : Prop where
  once : (h.connection.exports.entries.map fun e => e.2.data).Nodup
  unfreed : ∀ e ∈ h.connection.exports.entries, e.2.data ∉ h.freed
  exported : ∀ e ∈ h.connection.exports.entries, e.2.data < h.allocated
  known : ∀ data ∈ h.freed, data < h.allocated
  freed : h.freed.Nodup

section Steps
variable {h : HandlerHeap η} {c : DBusConnection Nat η}

theorem Sole.shrink (hs : Sole h) (hc : ∃ p, c.exports.entries =
    h.connection.exports.entries.filter p) : Sole (h.become c) := by
  obtain ⟨p, hp⟩ := hc
  have hsub : c.exports.entries.Sublist h.connection.exports.entries :=
    hp ▸ List.filter_sublist
  have hlost : ∀ data ∈ (h.connection.exports.lost c.exports).map Export.data,
      ∃ e ∈ h.connection.exports.entries, c.exports.contains e.1 = false ∧ e.2.data = data := by
    intro data hdata
    obtain ⟨export_, hmem, rfl⟩ := List.mem_map.1 hdata
    obtain ⟨e, he, hgone, rfl⟩ := IdTable.mem_lost.1 hmem
    exact ⟨e, he, hgone, rfl⟩
  constructor
  · exact hs.once.sublist (hsub.map _)
  · intro e he hfreed
    change e ∈ c.exports.entries at he
    rcases List.mem_append.1 hfreed with hmem | hmem
    · obtain ⟨e', he', hgone, hdata⟩ := hlost _ hmem
      have heq : e' = e := List.inj_on_of_nodup_map hs.once he' (hsub.subset he) hdata
      rw [heq, IdTable.contains_iff.2 ⟨e.2, he⟩] at hgone
      cases hgone
    · exact hs.unfreed e (hsub.subset he) hmem
  · exact fun e he => hs.exported e (hsub.subset he)
  · intro data hdata
    rcases List.mem_append.1 hdata with hmem | hmem
    · obtain ⟨e, he, _, rfl⟩ := hlost _ hmem
      exact hs.exported e he
    · exact hs.known data hmem
  · apply List.Nodup.append _ hs.freed
    · intro data hmem hfreed
      obtain ⟨e, he, _, rfl⟩ := hlost _ hmem
      exact hs.unfreed e he hfreed
    · rw [IdTable.lost, List.map_map]
      exact hs.once.sublist (List.filter_sublist.map _)

theorem Sole.keep (hs : Sole h) (hc : c.exports = h.connection.exports) : Sole (h.become c) :=
  hs.shrink ⟨fun _ => true, by rw [hc, List.filter_eq_self.2 fun _ _ => rfl]⟩

/-- New handler data is exported once. -/
theorem Sole.add (hs : Sole h)
    (hc : c.exports = h.connection.exports.insert ⟨path, interface, h.allocated⟩) :
    Sole { h.become c with allocated := h.allocated + 1 } := by
  have hnone : h.connection.exports.lost c.exports = [] := by
    apply IdTable.lost_of_subset
    intro e he
    rw [hc]
    exact List.mem_cons_of_mem _ he
  have hfreed : (h.become c).freed = h.freed := by
    rw [become, hnone]
    rfl
  constructor
  · change (c.exports.entries.map _).Nodup
    rw [hc]
    apply List.Nodup.cons _ hs.once
    intro hmem
    obtain ⟨e, he, hdata⟩ := List.mem_map.1 hmem
    have hlt := hs.exported e he
    simp only [hdata] at hlt
    exact Nat.lt_irrefl _ hlt
  · intro e he
    change e ∈ c.exports.entries at he
    rw [hc] at he
    simp only [hfreed]
    rcases List.mem_cons.1 he with rfl | he
    · exact fun hmem => Nat.lt_irrefl _ (hs.known _ hmem)
    · exact hs.unfreed e he
  · intro e he
    change e ∈ c.exports.entries at he
    rw [hc] at he
    rcases List.mem_cons.1 he with rfl | he
    · exact Nat.lt_succ_self _
    · exact Nat.lt_succ_of_lt (hs.exported e he)
  · simp only [hfreed]
    exact fun data hmem => Nat.lt_succ_of_lt (hs.known data hmem)
  · simp only [hfreed]
    exact hs.freed

theorem Sole.more (hs : Sole h) : Sole { h with allocated := h.allocated + 1 } where
  once := hs.once
  unfreed := hs.unfreed
  exported e he := Nat.lt_succ_of_lt (hs.exported e he)
  known data hmem := Nat.lt_succ_of_lt (hs.known data hmem)
  freed := hs.freed

end Steps

/-- The interfaces of a document all have one name. -/
def Single (parse : String → Option (List String)) (introspectionXml : String) : Prop :=
  ∀ interfaces, parse introspectionXml = some interfaces →
    ∀ i ∈ interfaces, ∀ j ∈ interfaces, i = j

theorem registerInterfaces_repeated {t : IdTable (Export δ)}
    (hx : ∀ interface ∈ interfaces, GDBus.exported t path interface = true) :
    (DBusConnection.registerInterfaces path data interfaces refuses id₀ t).2 = t := by
  induction interfaces generalizing refuses id₀ with
  | nil => rfl
  | cons interface interfaces ih =>
    have hrefused := hx interface List.mem_cons_self
    rw [DBusConnection.registerInterfaces, GDBus.registerObject, if_pos (by simp [hrefused])]
    exact ih fun i hi => hx i (List.mem_cons_of_mem _ hi)

theorem registerInterfaces_single {t : IdTable (Export δ)}
    (path : DBusObjectPath) (data : δ) (refuses : List Bool) (id₀ : Nat)
    (hs : ∀ i ∈ interfaces, ∀ j ∈ interfaces, i = j) :
    let exports := (DBusConnection.registerInterfaces path data interfaces refuses id₀ t).2
    exports = t ∨ ∃ interface, exports = t.insert ⟨path, interface, data⟩ := by
  induction interfaces generalizing refuses id₀ with
  | nil => exact .inl rfl
  | cons interface interfaces ih =>
    rw [DBusConnection.registerInterfaces, GDBus.registerObject]
    split
    · exact ih _ _ fun i hi j hj => hs i (List.mem_cons_of_mem _ hi) j (List.mem_cons_of_mem _ hj)
    · apply Or.inr
      exists interface
      apply registerInterfaces_repeated
      intro i hi
      obtain rfl := hs i (List.mem_cons_of_mem _ hi) interface List.mem_cons_self
      exact GDBus.exported_iff.2 ⟨_, List.mem_cons_self, rfl, rfl⟩

theorem registerObject_single {c : DBusConnection δ η} (data : δ) (refuses : List Bool)
    (path : DBusObjectPath) (hs : Single parse xml) :
    let registered := (c.registerObject parse refuses path xml data).2
    registered.exports = c.exports ∨ allocates parse path xml c = true ∧
      ∃ interface, registered.exports = c.exports.insert ⟨path, interface, data⟩ := by
  rw [DBusConnection.registerObject, allocates]
  cases hc : c.isConnected with
  | false => exact .inl rfl
  | true =>
    cases hr : c.registeredObjects.contains path.toString with
    | true => exact .inl rfl
    | false =>
      cases hp : parse xml with
      | none => exact .inl rfl
      | some interfaces =>
        have h := registerInterfaces_single path data refuses 0 (t := c.exports) (hs interfaces hp)
        simp only [Bool.not_true, Bool.false_eq_true, if_false]
        split
        · exact h.imp_right fun hi => ⟨rfl, hi⟩
        · exact h.imp_right fun hi => ⟨rfl, hi⟩

/-- Every other step of the connection keeps some of the exports. -/
theorem connect_exports (accepted : Bool) (c : DBusConnection δ η) :
    ∃ p, (c.connect accepted).2.exports.entries = c.exports.entries.filter p := by
  rw [DBusConnection.connect]
  cases c.isConnected with
  | true => exact ⟨fun _ => true, (List.filter_eq_self.2 fun _ _ => rfl).symm⟩
  | false =>
    cases accepted with
    | true => exact ⟨fun _ => false, by simp⟩
    | false => exact ⟨fun _ => true, (List.filter_eq_self.2 fun _ _ => rfl).symm⟩

theorem unregisterObject_exports (path : DBusObjectPath) (c : DBusConnection δ η) :
    ∃ p, (c.unregisterObject path).2.exports.entries = c.exports.entries.filter p := by
  rcases c.unregisterObject_cases path with heq | ⟨id, _, _, heq⟩
  · rw [heq]
    exact ⟨fun _ => true, (List.filter_eq_self.2 fun _ _ => rfl).symm⟩
  · rw [heq]
    exact ⟨_, rfl⟩

theorem Sole.perform {h : HandlerHeap η} (hs : Sole h) {step : HeapStep}
    (hx : step.Of (Single parse)) : Sole (h.perform parse step) := by
  cases step with
  | connect accepted => exact hs.shrink (connect_exports accepted _)
  | disconnect => exact hs.shrink (IdTable.foldl_erase_entries _ _)
  | remoteClose => exact hs.keep rfl
  | registerObject refuses path xml =>
    have hc := registerObject_single (c := h.connection) h.allocated refuses path hx
    rw [HandlerHeap.perform]
    rcases hc with hc | ⟨ha, interface, hc⟩
    · split
      · exact (hs.keep hc).more
      · exact hs.keep hc
    · simp only [ha, if_true]
      exact hs.add hc
  | unregisterObject path => exact hs.shrink (unregisterObject_exports path _)
  | dispatch id => exact hs

theorem Sole.safe {h : HandlerHeap η} (hs : Sole h) {step : HeapStep}
    (hx : step.Of (Single parse)) : Safe parse h step := by
  apply And.intro (hs.perform hx).freed
  intro data hdata
  cases step with
  | dispatch id =>
    change h.used id = some data at hdata
    rw [used] at hdata
    split at hdata
    · obtain ⟨e, he, rfl⟩ := Option.map_eq_some_iff.1 hdata
      exact hs.unfreed e (List.mem_of_find?_eq_some he)
    · cases hdata
  | _ => cases hdata

theorem start_sole : Sole (start η) where
  once := .nil
  unfreed := List.forall_mem_nil _
  exported := List.forall_mem_nil _
  known := List.forall_mem_nil _
  freed := .nil

/-- Where nothing is refused, all the interfaces are exported, with one and the same data. -/
theorem registerInterfaces_all {t : IdTable (Export δ)} (path : DBusObjectPath) (data : δ)
    (interfaces : List String) (id₀ : Nat) :
    let exports := (DBusConnection.registerInterfaces path data interfaces [] id₀ t).2
    (∀ e ∈ exports.entries, e ∈ t.entries ∨ e.2.data = data) ∧
      ∀ interface ∈ interfaces, GDBus.exported exports path interface = true := by
  induction interfaces generalizing id₀ t with
  | nil => exact ⟨fun e he => .inl he, List.forall_mem_nil _⟩
  | cons interface interfaces ih =>
    rw [DBusConnection.registerInterfaces]
    obtain ⟨hdata, hall⟩ := ih (t := (GDBus.registerObject false ⟨path, interface, data⟩ t).2)
      (GDBus.registerObject false ⟨path, interface, data⟩ t).1
    apply And.intro
    · intro e he
      rcases hdata e he with he | he
      · rw [GDBus.registerObject] at he
        split at he
        · exact .inl he
        · rcases List.mem_cons.1 he with rfl | he
          · exact .inr rfl
          · exact .inl he
      · exact .inr he
    · apply List.forall_mem_cons.2 ⟨_, hall⟩
      have hfirst : GDBus.exported (GDBus.registerObject false ⟨path, interface, data⟩ t).2 path
          interface = true := by
        cases hx : GDBus.exported t path interface with
        | true => simp [GDBus.registerObject, hx]
        | false =>
          simp only [GDBus.registerObject, hx, Bool.or_self, Bool.false_eq_true, if_false]
          exact GDBus.exported_iff.2 ⟨_, List.mem_cons_self, rfl, rfl⟩
      obtain ⟨e, he, hp, hi⟩ := GDBus.exported_iff.1 hfirst
      exact GDBus.exported_iff.2 ⟨e, DBusConnection.registerInterfaces_keeps he, hp, hi⟩

theorem become_freed {h : HandlerHeap η} {c : DBusConnection Nat η}
    (hc : ∀ e ∈ h.connection.exports.entries, e ∈ c.exports.entries) :
    (h.become c).freed = h.freed := by
  rw [become, IdTable.lost_of_subset hc]
  rfl

/-- When the bus has closed the connection and the program connects again, all goes. -/
theorem reconnect_freed {h : HandlerHeap η} (hc : h.connection.connection = .opened) :
    ((heap parse).run h [.remoteClose, .connect true]).freed =
      h.connection.exports.entries.map (fun e => e.2.data) ++ h.freed := by
  have hclosed : (h.connection.remoteClose.connect true).2.exports =
      h.connection.exports.clear := by
    simp [DBusConnection.connect, DBusConnection.remoteClose, DBusConnection.isConnected, hc]
  have hkept : (h.become h.connection.remoteClose).freed = h.freed := become_freed fun _ he => he
  change (h.connection.exports.lost (h.connection.remoteClose.connect true).2.exports).map
    Export.data ++ (h.become h.connection.remoteClose).freed = _
  rw [hclosed, IdTable.lost_clear, hkept, List.map_map]
  rfl

/-- The first registration of a program, when nothing is refused. -/
theorem registered_first {interfaces : List String} (path : DBusObjectPath)
    (hp : parse xml = some interfaces) :
    let h := (heap parse).run (start η) [.connect true, .registerObject [] path xml]
    h.connection.connection = .opened ∧ h.freed = [] ∧ h.connection.exports =
      (DBusConnection.registerInterfaces path 0 interfaces [] 0 (.empty (Export Nat))).2 := by
  let c : DBusConnection Nat η := ((start η).perform parse (.connect true)).connection
  have hfree : c.registeredObjects[path.toString]? = none := Std.TreeMap.getElem?_emptyc
  have hregister := DBusConnection.registerObject_free [] 0 (c := c) rfl hfree hp
  have halloc : allocates parse path xml c = true := by
    rw [allocates, hp, Std.TreeMap.contains_eq_isSome_getElem?, hfree]
    rfl
  have hrun : (heap parse).run (start η) [.connect true, .registerObject [] path xml] =
      { become ((start η).perform parse (.connect true))
          (c.registerObject parse [] path xml 0).2 with allocated := 1 } := if_pos halloc
  have hexports : (c.registerObject parse [] path xml 0).2.connection = .opened ∧
      (c.registerObject parse [] path xml 0).2.exports =
        (DBusConnection.registerInterfaces path 0 interfaces [] 0 (.empty (Export Nat))).2 := by
    rw [hregister]
    simp only
    split
    · exact ⟨rfl, rfl⟩
    · exact ⟨rfl, rfl⟩
  rw [hrun]
  exact ⟨hexports.1, become_freed fun e he => absurd he List.not_mem_nil, hexports.2⟩

theorem reconnecting_unsafe {interfaces : List String} (path : DBusObjectPath)
    (hp : parse xml = some interfaces) (hi : i ∈ interfaces) (hj : j ∈ interfaces) (hij : i ≠ j) :
    ¬ (heap parse).Every (Safe parse) (start η)
      [.connect true, .registerObject [] path xml, .remoteClose, .connect true] := by
  obtain ⟨hopened, hfreed, hexports⟩ := registered_first (η := η) path hp
  obtain ⟨hdata, hall⟩ := registerInterfaces_all path 0 interfaces 0 (t := .empty (Export Nat))
  obtain ⟨e, he, _, rfl⟩ := GDBus.exported_iff.1 (hall i hi)
  obtain ⟨e', he', _, rfl⟩ := GDBus.exported_iff.1 (hall j hj)
  intro hsafe
  have hnodup := hsafe.2.2.2.1.1
  change ((heap parse).run ((heap parse).run (start η) [.connect true, .registerObject [] path xml])
    [.remoteClose, .connect true]).freed.Nodup at hnodup
  rw [reconnect_freed hopened, hfreed, hexports, List.append_nil] at hnodup
  have hsame : e.2.data = e'.2.data :=
    ((hdata e he).resolve_left List.not_mem_nil).trans
      ((hdata e' he').resolve_left List.not_mem_nil).symm
  exact hij (by rw [List.inj_on_of_nodup_map hnodup he he' hsame])

theorem every_of_documents (hsteps : ∀ step ∈ steps, HeapStep.Of D step)
    (hx : ∀ xml, D xml → Single parse xml) (h : HandlerHeap η) :
    (heap parse).Every (fun _ step => step.Of (Single parse)) h steps := by
  apply Machine.every_of_forall
  intro step hstep _
  have hof := hsteps step hstep
  cases step with
  | registerObject refuses path xml => exact hx xml hof
  | _ => trivial

/-- The handler data of the exports is freed once each and not used after that, in every run over
documents of a kind, exactly if no document of the kind has interfaces of two names. -/
theorem handler_data_safe_iff (parse : String → Option (List String)) (D : String → Prop) :
    (∀ steps, (∀ step ∈ steps, HeapStep.Of D step) →
      (heap parse).Every (Safe parse) (start η) steps) ↔ ∀ xml, D xml → Single parse xml := by
  apply Iff.intro
  · intro hsafe xml hD interfaces hp i hi j hj
    by_contra hij
    apply reconnecting_unsafe (η := η) ⟨"/"⟩ hp hi hj hij (hsafe _ _)
    simp only [List.forall_mem_cons]
    exact ⟨trivial, hD, trivial, trivial, List.forall_mem_nil _⟩
  · intro hx steps hsteps
    apply Machine.every_imp (I := Sole) start_sole _ (every_of_documents hsteps hx _)
    exact fun h step hs hof => ⟨hs.safe hof, hs.perform hof⟩

/-- What GDBus makes of the interfaces of a document, one after the other. -/
def verdicts (path : DBusObjectPath) (data : δ) :
    List String → List Bool → IdTable (Export δ) → List Bool
  | [], _, _ => []
  | interface :: interfaces, refuses, exports =>
    let registered := GDBus.registerObject (refuses.headD false) ⟨path, interface, data⟩ exports
    (registered.1 != 0) :: verdicts path data interfaces refuses.tail registered.2

/-- A registration that gets as far as `new HandlerData()` leaks it if GDBus exports none of the
interfaces: it refuses them all, or there are none. -/
def leaks (parse : String → Option (List String)) (h : HandlerHeap η) : HeapStep → List Nat
  | .registerObject refuses path xml =>
    let c := h.connection
    let answered := (parse xml).map fun interfaces =>
      verdicts path h.allocated interfaces refuses c.exports
    if allocates parse path xml c && answered.all fun vs => vs.all (!·) then [h.allocated] else []
  | _ => []

theorem registerInterfaces_verdicts {t : IdTable (Export δ)} (path : DBusObjectPath) (data : δ)
    (interfaces : List String) (refuses : List Bool) (id₀ : Nat) :
    (DBusConnection.registerInterfaces path data interfaces refuses id₀ t).2.last =
      t.last + (verdicts path data interfaces refuses t).count true := by
  induction interfaces generalizing refuses id₀ t with
  | nil => rfl
  | cons interface interfaces ih =>
    rw [DBusConnection.registerInterfaces, ih, verdicts, GDBus.registerObject]
    split
    · rfl
    · have hnew (vs : List Bool) : ((t.last + 1 != 0) :: vs).count true = vs.count true + 1 :=
        List.count_cons_self
      rw [hnew, ← Nat.add_assoc, Nat.add_right_comm]
      rfl

/-- Nothing is exported exactly if every answer is a refusal. -/
theorem verdicts_refused {t : IdTable (Export δ)} (path : DBusObjectPath) (data : δ)
    (interfaces : List String) (refuses : List Bool) (id₀ : Nat) :
    (verdicts path data interfaces refuses t).all (!·) = true ↔
      (DBusConnection.registerInterfaces path data interfaces refuses id₀ t).2.last = t.last := by
  rw [registerInterfaces_verdicts, Nat.add_eq_left, List.count_eq_zero, List.all_eq_true]
  apply Iff.intro
  · intro hall hmem
    exact Bool.noConfusion (hall true hmem)
  · intro hno v hv
    cases v with
    | false => rfl
    | true => exact absurd hv hno

/-- The handler data that a step allocates. -/
def allotted (parse : String → Option (List String)) (h : HandlerHeap η) : HeapStep → List Nat
  | .registerObject _ path xml =>
    if allocates parse path xml h.connection then [h.allocated] else []
  | _ => []

theorem range_perform (parse : String → Option (List String)) (h : HandlerHeap η)
    (step : HeapStep) : List.range (h.perform parse step).allocated =
      List.range h.allocated ++ allotted parse h step := by
  cases step with
  | registerObject refuses path xml =>
    rw [HandlerHeap.perform, allotted]
    split
    · exact List.range_succ
    · exact (List.append_nil _).symm
  | _ => exact (List.append_nil _).symm

/-- What is exported and what has been freed. -/
def accounted (h : HandlerHeap η) : List Nat :=
  h.connection.exports.entries.map (fun e => e.2.data) ++ h.freed

theorem accounted_become {h : HandlerHeap η} {c : DBusConnection Nat η}
    (hc : ∃ p, c.exports.entries = h.connection.exports.entries.filter p) :
    (h.become c).accounted.Perm h.accounted := by
  obtain ⟨p, hp⟩ := hc
  have hlost := (IdTable.lost_perm hp).map Export.data
  rw [List.map_append, List.map_map, List.map_map] at hlost
  rw [accounted, become, ← List.append_assoc]
  exact hlost.append_right _

theorem leaks_registerObject {h : HandlerHeap η} (refuses : List Bool)
    (ha : allocates parse path xml h.connection = true) :
    leaks parse h (.registerObject refuses path xml) =
      if (h.connection.registerObject parse refuses path xml h.allocated).2.exports.last =
        h.connection.exports.last then [h.allocated] else [] := by
  have hsplit := ha
  simp only [allocates, Bool.and_eq_true, Bool.not_eq_true', Option.isSome_iff_exists] at hsplit
  obtain ⟨⟨hc, hr⟩, interfaces, hp⟩ := hsplit
  have hfree : h.connection.registeredObjects[path.toString]? = none := by
    rw [Std.TreeMap.contains_eq_isSome_getElem?] at hr
    exact Option.not_isSome_iff_eq_none.1 (Bool.eq_false_iff.1 hr)
  have hexports : (h.connection.registerObject parse refuses path xml h.allocated).2.exports =
      (DBusConnection.registerInterfaces path h.allocated interfaces refuses 0
        h.connection.exports).2 := by
    rw [DBusConnection.registerObject_free refuses _ (DBusConnection.isConnected_iff.1 hc) hfree hp]
    dsimp only
    split <;> rfl
  rw [leaks, hexports]
  simp only [ha, hp, Option.map_some, Option.all_some, Bool.true_and,
    verdicts_refused path h.allocated interfaces refuses 0]

/-- A step accounts for what it allocates: it is exported or leaked. -/
theorem accounted_perform (h : HandlerHeap η) {step : HeapStep} (hx : step.Of (Single parse)) :
    ((h.perform parse step).accounted ++ leaks parse h step).Perm
      (h.accounted ++ allotted parse h step) := by
  have hshrink {c : DBusConnection Nat η}
      (hc : ∃ p, c.exports.entries = h.connection.exports.entries.filter p) :
      ((h.become c).accounted ++ ([] : List Nat)).Perm (h.accounted ++ []) :=
    (accounted_become hc).append_right []
  have hall : ∃ p, h.connection.exports.entries = h.connection.exports.entries.filter p :=
    ⟨fun _ => true, (List.filter_eq_self.2 fun _ _ => rfl).symm⟩
  cases step with
  | connect accepted => exact hshrink (connect_exports accepted _)
  | disconnect => exact hshrink (IdTable.foldl_erase_entries _ _)
  | remoteClose => exact hshrink hall
  | unregisterObject path => exact hshrink (unregisterObject_exports path _)
  | dispatch id => exact .refl _
  | registerObject refuses path xml =>
    have hc := registerObject_single (c := h.connection) h.allocated refuses path hx
    cases ha : allocates parse path xml h.connection with
    | false =>
      have hsame := hc.resolve_right fun hadd => Bool.noConfusion (ha.symm.trans hadd.1)
      have hleaks : leaks parse h (.registerObject refuses path xml) = [] := by simp [leaks, ha]
      rw [HandlerHeap.perform, allotted, hleaks, ha]
      exact hshrink (by rw [hsame]; exact hall)
    | true =>
      rw [HandlerHeap.perform, allotted, leaks_registerObject refuses ha, ha]
      generalize (h.connection.registerObject parse refuses path xml h.allocated).2 = c at hc ⊢
      rcases hc with hc | ⟨-, interface, hc⟩
      · have hlast : c.exports.last = h.connection.exports.last := congrArg IdTable.last hc
        have hsame : (h.become c).accounted.Perm h.accounted :=
          accounted_become (by rw [hc]; exact hall)
        rw [if_pos hlast]
        exact hsame.append_right _
      · have hfreed : (h.become c).freed = h.freed := by
          apply become_freed
          rw [hc]
          exact fun e he => List.mem_cons_of_mem _ he
        have hlast : c.exports.last ≠ h.connection.exports.last := by
          rw [hc]
          exact Nat.succ_ne_self _
        have hnew : (h.become c).accounted = h.allocated :: h.accounted := by
          change c.exports.entries.map (fun e => e.2.data) ++ (h.become c).freed = _
          rw [hfreed, hc]
          rfl
        rw [if_neg hlast, List.append_nil]
        change (h.become c).accounted.Perm _
        rw [hnew]
        exact (List.perm_append_singleton _ _).symm

/-- In every run over such documents, each handler data that has been allocated is exported, or
has been freed, or is one that a registration has leaked, and but one of these, once. -/
theorem handler_data_accounted (parse : String → Option (List String)) {steps : List HeapStep}
    (hx : ∀ step ∈ steps, HeapStep.Of (Single parse) step) :
    let h := (heap parse).run (start η) steps
    (h.connection.exports.entries.map (fun e => e.2.data) ++ h.freed ++
      (heap parse).said (leaks parse) (start η) steps).Perm (List.range h.allocated) := by
  have hrun (h : HandlerHeap η) : (((heap parse).run h steps).accounted ++
      (heap parse).said (leaks parse) h steps ++ List.range h.allocated).Perm
        (h.accounted ++ List.range ((heap parse).run h steps).allocated) := by
    induction steps generalizing h with
    | nil => simp [Machine.said, Machine.run]
    | cons step steps ih =>
      obtain ⟨hstep, hsteps⟩ := List.forall_mem_cons.1 hx
      have hone := accounted_perform h hstep
      have hrest := ih hsteps (h.perform parse step)
      rw [range_perform] at hrest
      rw [List.perm_iff_count] at hone hrest ⊢
      intro data
      have hone := hone data
      have hrest := hrest data
      change (((heap parse).run (h.perform parse step) steps).accounted ++
        (leaks parse h step ++ (heap parse).said (leaks parse) (h.perform parse step) steps) ++
          List.range h.allocated).count data = (h.accounted ++
            List.range ((heap parse).run (h.perform parse step) steps).allocated).count data
      simp only [List.count_append] at hone hrest ⊢
      omega
  have hstart := hrun (start η)
  simpa [accounted, start, DBusConnection.constructed] using hstart

/-- A reader that knows the empty node and takes every other document for a service's. -/
def serviceXml (xml : String) : Option (List String) :=
  if xml = "<node/>" then some [] else some [BlueZConstants.gattServiceInterface]

theorem single_serviceXml (xml : String) : Single serviceXml xml := by
  intro interfaces hi i hmem j hmem'
  rw [serviceXml] at hi
  split at hi
  · cases hi
    cases hmem
  · cases hi
    rw [List.mem_singleton.1 hmem, List.mem_singleton.1 hmem']

/-- The first registration is refused, and the second one has nothing to export: both leak. -/
theorem handler_data_accounted_leaked :
    let steps : List HeapStep := [.connect true, .registerObject [true] ⟨"/app"⟩ "",
      .registerObject [] ⟨"/app"⟩ "<node/>", .registerObject [] ⟨"/app/svc"⟩ ""]
    let h := (heap serviceXml).run (start Unit) steps
    (h.connection.exports.entries.map (fun e => e.2.data) ++ h.freed ++
      (heap serviceXml).said (leaks serviceXml) (start Unit) steps).Perm
        (List.range h.allocated) := by
  apply handler_data_accounted serviceXml
  simp only [List.forall_mem_cons]
  exact ⟨trivial, single_serviceXml _, single_serviceXml _, single_serviceXml _,
    List.forall_mem_nil _⟩

end HandlerHeap
end Ggk
