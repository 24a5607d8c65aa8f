import BluetoothLE.DBus.Connection
import BluetoothLE.Lib.Machine

namespace Ggk
open Lib
set_option autoImplicit true

inductive RegistryCall (δ : Type u)
  | registerObject (refuses : List Bool) (path : DBusObjectPath) (introspectionXml : String)
      (data : δ)
  | unregisterObject (path : DBusObjectPath)

namespace RegistryCall

def perform (parse : String → Option (List String)) (c : DBusConnection δ η) :
    RegistryCall δ → Bool × DBusConnection δ η
  | registerObject refuses path introspectionXml data =>
    c.registerObject parse refuses path introspectionXml data
  | unregisterObject path => c.unregisterObject path

def Of (D : String → Prop) : RegistryCall δ → Prop
  | registerObject _ _ introspectionXml _ => D introspectionXml
  | unregisterObject _ => True

/-- Whether the last of the calls, newest first, that concerns the path unregisters it. -/
def vacated (path : DBusObjectPath) : List (RegistryCall δ) → Bool
  | [] => false
  | registerObject _ path' _ _ :: done => path' != path && vacated path done
  | unregisterObject path' :: done => path' == path || vacated path done

end RegistryCall

/-- A connection with the calls that have returned true, newest first. -/
structure Registry (δ : Type u) (η : Type v) where
  connection : DBusConnection δ η
  done : List (RegistryCall δ)

namespace Registry

def registry (parse : String → Option (List String)) :
    Machine (Registry δ η) (RegistryCall δ) Bool where
  step s call :=
    let performed := call.perform parse s.connection
    (performed.1, ⟨performed.2, if performed.1 then call :: s.done else s.done⟩)

def fresh (δ : Type u) (η : Type v) : Registry δ η :=
  ⟨((DBusConnection.constructed δ η).connect true).2, []⟩

/-- What a caller relies on. A registration that succeeds has exported every interface with
its data, and can be repeated once it has been ended. One that ends leaves nothing behind. -/
def Correct (parse : String → Option (List String)) (s : Registry δ η) :
    RegistryCall δ → Prop
  | .registerObject refuses path xml data =>
    let performed := s.connection.registerObject parse refuses path xml data
    (performed.1 = true → ∀ interfaces, parse xml = some interfaces → ∀ interface ∈ interfaces,
      ∃ id, (id, ⟨path, interface, data⟩) ∈ performed.2.exports.entries) ∧
    (RegistryCall.vacated path s.done = true →
      (∃ refuses data, .registerObject refuses path xml data ∈ s.done) →
      (∀ refused ∈ refuses, refused = false) → performed.1 = true)
  | .unregisterObject path =>
    let performed := s.connection.unregisterObject path
    performed.1 = true → ∀ e ∈ performed.2.exports.entries, e.2.path ≠ path

/-- What holds between calls as long as a document has one interface at most. -/
structure Tracked (parse : String → Option (List String)) (s : Registry δ η) : Prop where
  opened : s.connection.connection = .opened
  stored : ∀ e ∈ s.connection.exports.entries,
    s.connection.registeredObjects[e.2.path.toString]? = some e.1
  free : ∀ path, RegistryCall.vacated path s.done = true →
    s.connection.registeredObjects[path.toString]? = none
  parsed : ∀ refuses path xml data, .registerObject refuses path xml data ∈ s.done →
    ∃ interface, parse xml = some [interface]

theorem fresh_tracked (parse : String → Option (List String)) :
    Tracked parse (fresh δ η) where
  opened := rfl
  stored := fun _ he => absurd he (by simp [fresh, DBusConnection.connect,
    DBusConnection.constructed, DBusConnection.isConnected])
  free := by simp [fresh, RegistryCall.vacated]
  parsed := by simp [fresh]

section Step
variable {s : Registry δ η} {parse : String → Option (List String)} {data : δ}

theorem Tracked.unexported (hI : Tracked parse s)
    (hr : s.connection.registeredObjects[path.toString]? = none) :
    ∀ e ∈ s.connection.exports.entries, e.2.path ≠ path := by
  intro e he hp
  have hs := hI.stored e he
  rw [hp, hr] at hs
  cases hs

/-- A registration of a document with one interface at most fails without a trace, and only
where the path is taken, the document is none to register, or GDBus refuses it. -/
theorem registerObject_tracked (hI : Tracked parse s) (refuses : List Bool)
    (path : DBusObjectPath) (data : δ)
    (hx : ∀ interfaces, parse xml = some interfaces → interfaces.length ≤ 1) :
    let performed := s.connection.registerObject parse refuses path xml data
    (performed = (false, s.connection) ∧
      (s.connection.registeredObjects[path.toString]? ≠ none ∨
        (∀ interface, parse xml ≠ some [interface]) ∨ refuses.headD false = true)) ∨
    ∃ interface, s.connection.registeredObjects[path.toString]? = none ∧
      parse xml = some [interface] ∧ performed = (true, { s.connection with
        exports := s.connection.exports.insert ⟨path, interface, data⟩
        registeredObjects := s.connection.registeredObjects.insert path.toString
          (s.connection.exports.last + 1) }) := by
  intro performed
  cases hr : s.connection.registeredObjects[path.toString]? with
  | some id =>
    have ht : s.connection.registeredObjects.contains path.toString = true := by
      rw [Std.TreeMap.contains_eq_isSome_getElem?, hr]
      rfl
    apply Or.inl
    exact ⟨by simp [performed, DBusConnection.registerObject, ht], .inl (by simp)⟩
  | none =>
    have hsingle {interface : String} (hp : parse xml = some [interface]) :=
      DBusConnection.registerObject_single refuses data hI.opened hr
        (hI.unexported hr) hp
    cases hp : parse xml with
    | none =>
      apply Or.inl
      exact ⟨by simp [performed, DBusConnection.registerObject, hp], .inr (.inl (by simp))⟩
    | some interfaces =>
      rcases interfaces with _ | ⟨interface, _ | ⟨second, rest⟩⟩
      · have hnone := DBusConnection.registerObject_free refuses data hI.opened hr hp
        exact .inl ⟨hnone.trans (if_pos rfl), .inr (.inl (by simp))⟩
      · cases h : refuses.headD false with
        | true => exact .inl ⟨(hsingle hp).trans (if_pos h), .inr (.inr rfl)⟩
        | false =>
          have hf : ¬ refuses.headD false = true := by simpa using h
          exact .inr ⟨interface, rfl, rfl, (hsingle hp).trans (if_neg hf)⟩
      · have hlen := hx _ hp
        simp at hlen

theorem not_refused {refuses : List Bool} (h : ∀ refused ∈ refuses, refused = false) :
    refuses.headD false = false := by
  cases refuses with
  | nil => rfl
  | cons refused refuses => exact h refused List.mem_cons_self

theorem correct_of_tracked (hI : Tracked parse s) {call : RegistryCall δ}
    (hx : call.Of fun xml => ∀ interfaces, parse xml = some interfaces → interfaces.length ≤ 1) :
    Correct parse s call := by
  cases call with
  | registerObject refuses path xml data =>
    rcases registerObject_tracked hI refuses path data hx with
      ⟨heq, hwhy⟩ | ⟨interface, _, hp, heq⟩
    · have hfails : ¬ (s.connection.registerObject parse refuses path xml data).1 = true := by
        rw [heq]
        exact Bool.false_ne_true
      apply And.intro (absurd · hfails)
      intro hv hdone hrefuses
      obtain ⟨refuses', data', hm⟩ := hdone
      obtain ⟨interface, hp⟩ := hI.parsed _ _ _ _ hm
      rcases hwhy with hr | hn | hh
      · exact absurd (hI.free path hv) hr
      · exact absurd hp (hn interface)
      · rw [not_refused hrefuses] at hh
        cases hh
    · have hdone : (s.connection.registerObject parse refuses path xml data).1 = true := by
        rw [heq]
      apply And.intro _ (fun _ _ _ => hdone)
      intro _ interfaces hi i hm
      cases hp.symm.trans hi
      cases List.mem_singleton.1 hm
      exact ⟨s.connection.exports.last + 1, by simp [heq]⟩
  | unregisterObject path =>
    intro h e he
    rcases DBusConnection.unregisterObject_cases path s.connection with heq | ⟨id, _, hr, heq⟩
    · rw [heq] at h
      cases h
    · rw [heq] at he
      obtain ⟨hm, hne⟩ := IdTable.mem_erase.1 he
      intro hp
      have hs := hI.stored e hm
      rw [hp, hr] at hs
      exact hne (Option.some.inj hs).symm

theorem Tracked.registered (hI : Tracked parse s)
    (hr : s.connection.registeredObjects[path.toString]? = none)
    (hp : parse xml = some [interface]) (refuses : List Bool) (data : δ) :
    Tracked parse ⟨{ s.connection with
      exports := s.connection.exports.insert ⟨path, interface, data⟩
      registeredObjects := s.connection.registeredObjects.insert path.toString
        (s.connection.exports.last + 1) }, .registerObject refuses path xml data :: s.done⟩ where
  opened := hI.opened
  stored := by
    intro e he
    rcases List.mem_cons.1 he with rfl | hm
    · exact Std.TreeMap.getElem?_insert_self
    · have hs := hI.stored e hm
      have hne : path.toString ≠ e.2.path.toString := by
        intro h
        rw [h, hs] at hr
        cases hr
      rw [Std.TreeMap.getElem?_insert, if_neg (by simpa using hne)]
      exact hs
  free := by
    intro path' hv
    simp only [RegistryCall.vacated, Bool.and_eq_true, bne_iff_ne] at hv
    rw [Std.TreeMap.getElem?_insert, if_neg (by simpa [DBusObjectPath.toString_inj] using hv.1)]
    exact hI.free path' hv.2
  parsed := by
    intro refuses' path' xml' data' hm
    rcases List.mem_cons.1 hm with heq | hm
    · cases heq
      exact ⟨interface, hp⟩
    · exact hI.parsed _ _ _ _ hm

theorem Tracked.unregistered (hI : Tracked parse s)
    (hr : s.connection.registeredObjects[path.toString]? = some i) :
    Tracked parse ⟨{ s.connection with
      exports := s.connection.exports.erase i
      registeredObjects := s.connection.registeredObjects.erase path.toString },
      .unregisterObject path :: s.done⟩ where
  opened := hI.opened
  stored := by
    intro e he
    obtain ⟨hm, hne⟩ := IdTable.mem_erase.1 he
    have hs := hI.stored e hm
    have hp : path.toString ≠ e.2.path.toString := by
      intro h
      rw [h, hs] at hr
      exact hne (Option.some.inj hr)
    rw [Std.TreeMap.getElem?_erase, if_neg (by simpa using hp)]
    exact hs
  free := by
    intro path' hv
    rw [Std.TreeMap.getElem?_erase]
    split
    · rfl
    · rename_i hp
      have hne : path ≠ path' := by
        intro h
        exact hp (by simp [h])
      apply hI.free path'
      simpa [RegistryCall.vacated, hne] using hv
  parsed := by
    intro refuses' path' xml' data' hm
    exact hI.parsed _ _ _ _ (by simpa using hm)

theorem next_tracked (hI : Tracked parse s) {call : RegistryCall δ}
    (hx : call.Of fun xml => ∀ interfaces, parse xml = some interfaces → interfaces.length ≤ 1) :
    Tracked parse ((registry parse).next s call) := by
  cases call with
  | registerObject refuses path xml data =>
    rcases registerObject_tracked hI refuses path data hx with
      ⟨heq, _⟩ | ⟨interface, hr, hp, heq⟩
    · simpa [registry, Machine.next, RegistryCall.perform, heq] using hI
    · simp only [registry, Machine.next, RegistryCall.perform, heq, if_true]
      exact hI.registered hr hp refuses data
  | unregisterObject path =>
    rcases DBusConnection.unregisterObject_cases path s.connection with heq | ⟨id, _, hr, heq⟩
    · simpa [registry, Machine.next, RegistryCall.perform, heq] using hI
    · simp only [registry, Machine.next, RegistryCall.perform, heq, if_true]
      exact hI.unregistered hr

end Step

section Broken
variable {parse : String → Option (List String)} {path : DBusObjectPath} {data : δ}

def only (path : DBusObjectPath) (interface : String) (data : δ) (η : Type u) :
    DBusConnection δ η :=
  { (fresh δ η).connection with
    exports := (IdTable.empty _).insert ⟨path, interface, data⟩
    registeredObjects := (∅ : Std.TreeMap String Nat).insert path.toString 1 }

theorem registerObject_last (hp : parse xml = some (interfaces ++ [interface])) :
    (fresh δ η).connection.registerObject parse (.replicate interfaces.length true) path xml data =
      (true, only path interface data η) := by
  have hr : (fresh δ η).connection.registeredObjects[path.toString]? = none := by
    simp [fresh, DBusConnection.connect, DBusConnection.constructed, DBusConnection.isConnected]
  rw [DBusConnection.registerObject_free _ _ rfl hr hp]
  simp only [DBusConnection.registerInterfaces_last]
  rfl

theorem unregisterObject_only : (only path interface data η).unregisterObject path =
    (true, { only path interface data η with
      exports := (only path interface data η).exports.erase 1
      registeredObjects := (only path interface data η).registeredObjects.erase path.toString }) :=
  DBusConnection.unregisterObject_registered rfl Std.TreeMap.getElem?_insert_self rfl

/-- A document with a second interface goes wrong in a run: an interface is missing where the
interfaces differ, and the registration cannot be repeated where they do not. -/
theorem not_correct (hp : parse xml = some (interfaces ++ [interface])) (hne : interfaces ≠ [])
    (path : DBusObjectPath) (data : δ) :
    let registers (refuses : List Bool) := RegistryCall.registerObject refuses path xml data
    ¬ (registry parse).Every (Correct parse) (fresh δ η)
      [registers (.replicate interfaces.length true), .unregisterObject path, registers []] := by
  intro registers hrun
  obtain ⟨⟨hall, _⟩, _, ⟨_, hagain⟩, _⟩ := hrun
  rw [registerObject_last hp] at hall
  have hsame : ∀ i ∈ interfaces, i = interface := by
    intro i hi
    obtain ⟨id, hid⟩ := hall rfl _ hp i (List.mem_append_left _ hi)
    cases List.mem_singleton.1 hid
    rfl
  simp only [Machine.next, registry, registers, RegistryCall.perform, registerObject_last hp,
    unregisterObject_only, if_true] at hagain
  have hr := hagain (by simp [RegistryCall.vacated]) ⟨_, _, .tail _ (.head _)⟩ (by simp)
  rw [DBusConnection.registerObject_free _ _ rfl (by simp) hp] at hr
  cases interfaces with
  | nil => exact hne rfl
  | cons first rest =>
    have hrest : ∀ i ∈ rest ++ [interface], i = first := by
      intro i hi
      rw [hsame first List.mem_cons_self]
      rcases List.mem_append.1 hi with hi | hi
      · exact hsame i (List.mem_cons_of_mem _ hi)
      · exact List.mem_singleton.1 hi
    rw [List.cons_append] at hr
    rcases DBusConnection.registerInterfaces_again path data [] 0
      (t := (only path interface data η).exports.erase 1) hrest (by simp) with h | h
    · simp [h] at hr
    · exact absurd h Bool.false_ne_true

end Broken

/-- Every run over documents of a kind is correct exactly when no document of the kind has a
second interface. -/
theorem runs_correct_iff [Inhabited δ] (parse : String → Option (List String)) (D : String → Prop) :
    (∀ calls : List (RegistryCall δ), (∀ call ∈ calls, call.Of D) →
      (registry parse).Every (Correct parse) (fresh δ η) calls) ↔
      ∀ xml, D xml → ∀ interfaces, parse xml = some interfaces → interfaces.length ≤ 1 := by
  apply Iff.intro
  · intro h xml hD interfaces hp
    rcases List.eq_nil_or_concat interfaces with rfl | ⟨init, last, rfl⟩
    · exact Nat.zero_le _
    · by_cases hne : init = []
      · simp [hne]
      · apply absurd (h _ _) (not_correct (by simpa using hp) hne ⟨"/"⟩ default)
        intro call hcall
        simp only [List.mem_cons, List.not_mem_nil, or_false] at hcall
        rcases hcall with rfl | rfl | rfl
        · exact hD
        · trivial
        · exact hD
  · intro h calls hcalls
    have hof : (registry parse).Every (fun _ call => call.Of D) (fresh δ η) calls :=
      Machine.every_of_forall fun call hm _ => hcalls call hm
    apply Machine.every_imp (fresh_tracked parse) _ hof
    intro s call hI hcall
    have hx : call.Of fun xml => ∀ interfaces, parse xml = some interfaces →
        interfaces.length ≤ 1 := by
      cases call with
      | registerObject refuses path xml data => exact h xml hcall
      | unregisterObject path => trivial
    exact ⟨correct_of_tracked hI hx, next_tracked hI hx⟩

/-- Of two interfaces the first stays exported when the object is unregistered. -/
theorem first_interface_stays :
    let parse : String → Option (List String) :=
      fun _ => some ["com.example.First", "com.example.Second"]
    let xml := "<node><interface name='com.example.First'/>" ++
      "<interface name='com.example.Second'/></node>"
    ¬ (registry parse).Every (Correct parse) (fresh Nat Unit)
      [.registerObject [] ⟨"/com/example"⟩ xml 0, .unregisterObject ⟨"/com/example"⟩] := by
  intro parse xml hrun
  obtain ⟨_, h, _⟩ := hrun
  exact h (by decide) (1, ⟨⟨"/com/example"⟩, "com.example.First", 0⟩) (.head _) rfl

end Registry
end Ggk
