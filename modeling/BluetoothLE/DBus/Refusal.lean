import BluetoothLE.DBus.Introspection

namespace Ggk
open Lib
set_option autoImplicit true

namespace GDBus

theorem exported_registerObject (refused : Bool) (e : Export δ) (exports : IdTable (Export δ))
    (path : DBusObjectPath) (interface : String) :
    exported (registerObject refused e exports).2 path interface = true ↔
      exported exports path interface = true ∨
        refused = false ∧ e.path = path ∧ e.interface = interface := by
  rw [registerObject]
  split_ifs with h
  · apply Iff.intro .inl
    rintro (hx | ⟨hr, rfl, rfl⟩)
    · exact hx
    · rw [hr, Bool.false_or] at h
      exact h
  · have hr : refused = false := by
      rw [Bool.not_eq_true, Bool.or_eq_false_iff] at h
      exact h.1
    simp only [exported_iff, IdTable.insert_entries, List.mem_cons, exists_eq_or_imp, hr,
      true_and]
    exact or_comm

theorem registerObject_id (refused : Bool) (e : Export δ) (exports : IdTable (Export δ)) :
    (registerObject refused e exports).1 ≠ 0 ↔
      refused = false ∧ exported exports e.path e.interface = false := by
  rw [registerObject]
  split_ifs with h
  · apply Iff.intro
    · exact fun hn => absurd rfl hn
    · rintro ⟨hr, hx⟩
      rw [hr, hx] at h
      cases h
  · rw [Bool.not_eq_true, Bool.or_eq_false_iff] at h
    exact ⟨fun _ => h, fun _ => Nat.succ_ne_zero _⟩

end GDBus

namespace DBusConnection

/-- GDBus takes the interface at a position of the document. It does not turn it down, has it
not at the path, and has turned down every earlier interface of the name. -/
structure Takes (exports : IdTable (Export δ)) (path : DBusObjectPath) (interfaces : List String)
    (refuses : List Bool) (k : Nat) (interface : String) : Prop where
  listed : interfaces[k]? = some interface
  granted : refuses.getD k false = false
  free : GDBus.exported exports path interface = false
  first : ∀ j < k, interfaces[j]? = some interface → refuses.getD j false = true

/-- A call that returns false leaves the exports and the record of them as they were. -/
def FailsClean (c : DBusConnection δ η) (registered : Bool × DBusConnection δ η) : Prop :=
  registered.1 = false →
    (∀ path interface, GDBus.exported registered.2.exports path interface =
      GDBus.exported c.exports path interface) ∧
    registered.2.registeredObjects = c.registeredObjects

section Loop
variable {t : IdTable (Export δ)} {path : DBusObjectPath}

theorem getD_zero (refuses : List Bool) : refuses.getD 0 false = refuses.headD false := by
  cases refuses with
  | nil => rfl
  | cons => rfl

theorem getD_succ (refuses : List Bool) (k : Nat) :
    refuses.getD (k + 1) false = refuses.tail.getD k false := by
  cases refuses with
  | nil => rfl
  | cons => rfl

theorem exported_registerInterfaces (data : δ) (interfaces : List String) (refuses : List Bool)
    (id₀ : Nat) (path' : DBusObjectPath) (interface : String) :
    GDBus.exported (registerInterfaces path data interfaces refuses id₀ t).2 path' interface =
        true ↔ GDBus.exported t path' interface = true ∨
      path = path' ∧ ∃ k, interfaces[k]? = some interface ∧ refuses.getD k false = false := by
  induction interfaces generalizing refuses id₀ t with
  | nil => simp [registerInterfaces]
  | cons first interfaces ih =>
    have hsplit : (∃ k, (first :: interfaces)[k]? = some interface ∧
          refuses.getD k false = false) ↔
        (first = interface ∧ refuses.headD false = false) ∨
          ∃ k, interfaces[k]? = some interface ∧ refuses.tail.getD k false = false := by
      apply Iff.intro
      · rintro ⟨k, hk, hr⟩
        cases k with
        | zero => exact .inl ⟨Option.some.inj hk, (getD_zero refuses).symm.trans hr⟩
        | succ k => exact .inr ⟨k, hk, (getD_succ refuses k).symm.trans hr⟩
      · rintro (⟨rfl, hr⟩ | ⟨k, hk, hr⟩)
        · exact ⟨0, rfl, (getD_zero refuses).trans hr⟩
        · exact ⟨k + 1, hk, (getD_succ refuses k).trans hr⟩
    rw [registerInterfaces, ih, GDBus.exported_registerObject, hsplit]
    tauto

/-- The first interface of a document decides whether GDBus takes a later one of its name. -/
theorem takes_succ_iff (data : δ) (first : String) (interfaces : List String)
    (refuses : List Bool) (k : Nat) (interface : String) :
    Takes t path (first :: interfaces) refuses (k + 1) interface ↔
      Takes (GDBus.registerObject (refuses.headD false) ⟨path, first, data⟩ t).2 path interfaces
        refuses.tail k interface := by
  have hfree : GDBus.exported (GDBus.registerObject (refuses.headD false) ⟨path, first, data⟩ t).2
      path interface = false ↔ GDBus.exported t path interface = false ∧
        (first = interface → refuses.headD false = true) := by
    rw [← Bool.not_eq_true, GDBus.exported_registerObject, ← Bool.not_eq_true, not_or]
    cases refuses.headD false with
    | true => simp
    | false => simp
  apply Iff.intro
  · intro h
    constructor
    · exact h.listed
    · exact (getD_succ refuses k).symm.trans h.granted
    · apply hfree.2 ⟨h.free, _⟩
      rintro rfl
      exact (getD_zero refuses).symm.trans (h.first 0 (Nat.succ_pos k) rfl)
    · intro j hj hi
      exact (getD_succ refuses j).symm.trans (h.first (j + 1) (Nat.succ_lt_succ hj) hi)
  · intro h
    obtain ⟨hx, hhead⟩ := hfree.1 h.free
    constructor
    · exact h.listed
    · exact (getD_succ refuses k).trans h.granted
    · exact hx
    · intro j hj hi
      cases j with
      | zero => exact (getD_zero refuses).trans (hhead (Option.some.inj hi))
      | succ j =>
        exact (getD_succ refuses j).trans (h.first j (Nat.lt_of_succ_lt_succ hj) hi)

theorem registerInterfaces_id_iff (data : δ) (interfaces : List String) (refuses : List Bool)
    (id₀ : Nat) :
    (registerInterfaces path data interfaces refuses id₀ t).1 ≠ 0 ↔
      interfaces = [] ∧ id₀ ≠ 0 ∨
        ∃ interface, Takes t path interfaces refuses (interfaces.length - 1) interface := by
  induction interfaces generalizing refuses id₀ t with
  | nil =>
    have hnone : ¬ ∃ interface, Takes t path [] refuses 0 interface :=
      fun ⟨_, h⟩ => absurd h.listed (by simp)
    simp [registerInterfaces, hnone]
  | cons first interfaces ih =>
    rw [registerInterfaces, ih]
    cases interfaces with
    | nil =>
      have hnone : ∀ t : IdTable (Export δ), ∀ refuses,
          ¬ ∃ interface, Takes t path [] refuses 0 interface :=
        fun _ _ ⟨_, h⟩ => absurd h.listed (by simp)
      have hone : (∃ interface, Takes t path [first] refuses 0 interface) ↔
          refuses.headD false = false ∧ GDBus.exported t path first = false := by
        apply Iff.intro
        · rintro ⟨interface, h⟩
          cases Option.some.inj h.listed
          exact ⟨(getD_zero refuses).symm.trans h.granted, h.free⟩
        · rintro ⟨hr, hx⟩
          exact ⟨first, rfl, (getD_zero refuses).trans hr, hx, by simp⟩
      simp [hnone, hone, GDBus.registerObject_id]
    | cons second interfaces =>
      have hlength : (first :: second :: interfaces).length - 1 =
          ((second :: interfaces).length - 1) + 1 := rfl
      simp only [hlength, takes_succ_iff data, reduceCtorEq, false_and, false_or]

theorem registerInterfaces_taken_iff (t : IdTable (Export δ)) (path : DBusObjectPath) (data : δ)
    (interfaces : List String) (refuses : List Bool) :
    (registerInterfaces path data interfaces refuses 0 t).1 ≠ 0 ↔
      ∃ interface, Takes t path interfaces refuses (interfaces.length - 1) interface := by
  rw [registerInterfaces_id_iff]
  simp

/-- Nothing that GDBus does not turn down is new to it. -/
def NothingNew (exports : IdTable (Export δ)) (path : DBusObjectPath) (interfaces : List String)
    (refuses : List Bool) : Prop :=
  ∀ (k : Nat) interface, interfaces[k]? = some interface → refuses.getD k false = false →
    GDBus.exported exports path interface = true

theorem registerInterfaces_same_iff (t : IdTable (Export δ)) (path : DBusObjectPath) (data : δ)
    (interfaces : List String) (refuses : List Bool) :
    (∀ path' interface,
      GDBus.exported (registerInterfaces path data interfaces refuses 0 t).2 path' interface =
        GDBus.exported t path' interface) ↔ NothingNew t path interfaces refuses := by
  apply Iff.intro
  · intro h k interface hk hr
    rw [← h path interface, exported_registerInterfaces]
    exact .inr ⟨rfl, k, hk, hr⟩
  · intro h path' interface
    rw [Bool.eq_iff_iff, exported_registerInterfaces]
    apply or_iff_left_of_imp
    rintro ⟨rfl, k, hk, hr⟩
    exact h k interface hk hr

end Loop

/-- A registration that fails leaves nothing behind exactly when it does not reach the loop,
when the loop has nothing new to export, or when GDBus takes the last interface. -/
theorem registerObject_failsClean_iff (parse : String → Option (List String))
    (refuses : List Bool) (path : DBusObjectPath) (xml : String) (data : δ)
    (c : DBusConnection δ η) :
    FailsClean c (c.registerObject parse refuses path xml data) ↔
      c.connection ≠ .opened ∨ c.registeredObjects.contains path.toString = true ∨
      ∀ interfaces, parse xml = some interfaces → NothingNew c.exports path interfaces refuses ∨
        ∃ interface, Takes c.exports path interfaces refuses (interfaces.length - 1)
          interface := by
  by_cases hc : c.connection = .opened
  · cases hr : c.registeredObjects.contains path.toString with
    | true => simp [FailsClean, registerObject, isConnected_iff.2 hc, hr]
    | false =>
      cases hp : parse xml with
      | none => simp [FailsClean, registerObject, isConnected_iff.2 hc, hr, hp]
      | some interfaces =>
        have hn := Std.TreeMap.getElem?_eq_none_of_contains_eq_false hr
        have hlast := registerInterfaces_taken_iff c.exports path data interfaces refuses
        have hsame := registerInterfaces_same_iff c.exports path data interfaces refuses
        rw [FailsClean, registerObject_free refuses data hc hn hp]
        by_cases hz : (registerInterfaces path data interfaces refuses 0 c.exports).1 = 0
        · have hnot := fun h => hlast.2 h hz
          simp only [hz, if_true, hsame, and_true, forall_const, hc, ne_eq, not_true, false_or,
            Bool.false_eq_true, Option.some.injEq, forall_eq', or_iff_left hnot]
        · simp [hz, hc, hlast.1 hz]
  · have hd : c.isConnected = false := Bool.eq_false_iff.2 fun h => hc (isConnected_iff.1 h)
    simp [FailsClean, registerObject, hd, hc]

def twoInterfaces : DBusObject Nat :=
  let o := (DBusObject.constructed ⟨"/com/example"⟩ : DBusObject Nat)
  ((o.addInterface "com.example.First" []).2.addInterface "com.example.Second" []).2

def opened : DBusConnection Nat Nat := ((constructed Nat Nat).connect true).2

/-- GDBus turns down the second of two interfaces. The first one stays exported. -/
theorem refused_last_not_failsClean : ¬ FailsClean opened (opened.registerObject
    Introspection.interfaceNames [false, true] twoInterfaces.path
    twoInterfaces.generateIntrospectionXml 0) := by
  have hkeys : twoInterfaces.interfaces.keys = ["com.example.First", "com.example.Second"] := by
    decide
  have hparse := Introspection.interfaceNames_introspectionXml twoInterfaces
  rw [hkeys] at hparse
  rw [FailsClean, registerObject_free [false, true] 0 rfl (by decide) hparse]
  intro h
  have hfirst := (h (by decide)).1 twoInterfaces.path "com.example.First"
  revert hfirst
  decide

end DBusConnection
end Ggk
