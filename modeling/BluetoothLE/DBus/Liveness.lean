import BluetoothLE.DBus.Registration
import BluetoothLE.DBus.Signals

namespace Ggk
open Lib
set_option autoImplicit true

inductive ConnectionStep (δ : Type u) (η : Type v)
  | connect (accepted : Bool)
  | disconnect
  | remoteClose
  | registry (call : RegistryCall δ)
  | watch (call : WatchCall η)

namespace DBusConnection

def perform (parse : String → Option (List String)) (c : DBusConnection δ η) :
    ConnectionStep δ η → DBusConnection δ η
  | .connect accepted => (c.connect accepted).2
  | .disconnect => c.disconnect.2
  | .remoteClose => c.remoteClose
  | .registry call => (call.perform parse c).2
  | .watch call => call.perform c

def lifetime (parse : String → Option (List String)) :
    Machine (DBusConnection δ η) (ConnectionStep δ η) Unit where
  step c step := ((), c.perform parse step)

/-- The ids that the code has stored are all live. -/
structure StoredLive (c : DBusConnection δ η) : Prop where
  objects : ∀ (path : String) (id : Nat), c.registeredObjects[path]? = some id →
    c.exports.contains id = true
  watches : ∀ (id : Nat) handler, c.signalHandlers[id]? = some handler →
    c.subscriptions.contains id = true

def NothingStored (c : DBusConnection δ η) : Prop :=
  (∀ path : String, c.registeredObjects[path]? = none) ∧ ∀ id : Nat, c.signalHandlers[id]? = none

/-- After the step the stored ids are live if the connection is, and a connection that has
just been opened has no object that could stand in the way of a registration. -/
def StaysLive (parse : String → Option (List String)) (c : DBusConnection δ η)
    (step : ConnectionStep δ η) : Prop :=
  (c.perform parse step).isConnected = true → StoredLive (c.perform parse step) ∧
    (c.isConnected = false →
      ∀ path, (c.perform parse step).registeredObjects.contains path = false)

/-- A fresh connection is installed only where nothing is left over from the last. -/
def ReconnectsClean (c : DBusConnection δ η) : ConnectionStep δ η → Prop
  | .connect accepted => accepted = true → c.isConnected = false → c.NothingStored
  | _ => True

/-- The maps are empty without a connection. With an open one their ids are live, and the
object ids stand for exports at the paths that they are stored under. -/
structure Consistent (c : DBusConnection δ η) : Prop where
  cleared : c.connection = .null → c.NothingStored
  objects : c.connection = .opened → ∀ (path : String) (id : Nat),
    c.registeredObjects[path]? = some id →
    ∃ e, (id, e) ∈ c.exports.entries ∧ e.path.toString = path
  watches : c.connection = .opened → ∀ (id : Nat) handler, c.signalHandlers[id]? = some handler →
    c.subscriptions.contains id = true

theorem constructed_consistent : Consistent (constructed δ η) where
  cleared := by simp [constructed, NothingStored]
  objects := by simp [constructed]
  watches := by simp [constructed]

section Steps
variable {c : DBusConnection δ η}

theorem Consistent.storedLive (h : Consistent c) (hc : c.connection = .opened) : StoredLive c where
  objects := fun path id hr =>
    let ⟨e, he, _⟩ := h.objects hc path id hr
    IdTable.contains_iff.2 ⟨e, he⟩
  watches := h.watches hc

theorem Consistent.registry (h : Consistent c) (parse : String → Option (List String))
    (call : RegistryCall δ) : Consistent (call.perform parse c).2 := by
  cases call with
  | registerObject refuses path xml data =>
    obtain ⟨exports, hkeep, heq | ⟨id, interface, hc, _, _, hid, heq⟩⟩ :=
      registerObject_cases parse refuses path xml data c
    · rw [RegistryCall.perform, heq]
      refine ⟨h.cleared, ?_, h.watches⟩
      intro hc path' id hr
      obtain ⟨e, he, hp⟩ := h.objects hc path' id hr
      exact ⟨e, hkeep _ he, hp⟩
    · rw [RegistryCall.perform, heq]
      refine ⟨fun hn => absurd (hc.symm.trans hn) (by simp), ?_, h.watches⟩
      intro _ path' id' hr
      rw [Std.TreeMap.getElem?_insert] at hr
      split at hr
      · rename_i hp
        cases hr
        exact ⟨_, hid, by simpa using hp⟩
      · obtain ⟨e, he, hp⟩ := h.objects hc path' id' hr
        exact ⟨e, hkeep _ he, hp⟩
  | unregisterObject path =>
    rcases unregisterObject_cases path c with heq | ⟨id, hc, hr, heq⟩
    · rw [RegistryCall.perform, heq]
      exact h
    · rw [RegistryCall.perform, heq]
      refine ⟨fun hn => absurd (hc.symm.trans hn) (by simp), ?_, h.watches⟩
      intro _ path' id' hr'
      rw [Std.TreeMap.getElem?_erase] at hr'
      split at hr'
      · cases hr'
      · rename_i hne
        obtain ⟨e, he, hp⟩ := h.objects hc path' id' hr'
        obtain ⟨e', he', hp'⟩ := h.objects hc path.toString id hr
        have hid : id' ≠ id := by
          intro hid
          subst hid
          apply hne
          rw [← hp, ← hp', IdTable.entry_unique he he']
          exact Std.ReflCmp.compare_self
        exact ⟨e, IdTable.mem_erase.2 ⟨he, hid⟩, hp⟩

theorem Consistent.watch (h : Consistent c) (call : WatchCall η) :
    Consistent (call.perform c) := by
  cases call with
  | addSignalWatch refused sender interface signalName path handler =>
    cases hc : c.isConnected with
    | false => simpa [WatchCall.perform, addSignalWatch, hc] using h
    | true =>
      cases refused with
      | true => simpa [WatchCall.perform, addSignalWatch] using h
      | false =>
        have ho := isConnected_iff.1 hc
        simp only [WatchCall.perform, addSignalWatch, hc, Bool.not_true, Bool.false_eq_true,
          if_false]
        refine ⟨fun hn => absurd (ho.symm.trans hn) (by simp), h.objects, ?_⟩
        intro _ id handler' hh
        rw [Std.TreeMap.getElem?_insert] at hh
        split at hh
        · rename_i hid
          rw [← Std.LawfulEqCmp.eq_of_compare hid]
          exact IdTable.contains_insert_self ..
        · exact IdTable.contains_insert_of_contains _ (h.watches ho id handler' hh)
  | removeSignalWatch watchId =>
    cases hc : c.isConnected with
    | false => simpa [WatchCall.perform, removeSignalWatch, hc] using h
    | true =>
      have ho := isConnected_iff.1 hc
      rw [WatchCall.perform, removeSignalWatch]
      split
      · exact h
      · split
        · refine ⟨fun hn => absurd (ho.symm.trans hn) (by simp), h.objects, ?_⟩
          intro _ id handler hh
          rw [Std.TreeMap.getElem?_erase] at hh
          split at hh
          · cases hh
          · rename_i hne
            apply IdTable.contains_erase_of_ne (h.watches ho id handler hh)
            intro heq
            apply hne
            rw [heq]
            exact Std.ReflCmp.compare_self
        · exact h

theorem Consistent.perform (h : Consistent c) (parse : String → Option (List String))
    (step : ConnectionStep δ η) (hr : ReconnectsClean c step) :
    Consistent (c.perform parse step) := by
  cases step with
  | connect accepted =>
    cases hc : c.isConnected with
    | true => simpa [DBusConnection.perform, connect, hc] using h
    | false =>
      cases accepted with
      | false => simpa [DBusConnection.perform, connect, hc] using h
      | true =>
        obtain ⟨hp, hs⟩ := hr rfl hc
        simp only [DBusConnection.perform, connect, hc, Bool.false_eq_true, if_false, if_true]
        exact ⟨by simp, fun _ path id hid => absurd hid (by simp [hp]),
          fun _ id handler hh => absurd hh (by simp [hs])⟩
  | disconnect =>
    constructor <;> simp [DBusConnection.perform, disconnect, NothingStored]
  | remoteClose =>
    rw [DBusConnection.perform, remoteClose]
    cases hc : c.isConnected with
    | true => exact ⟨by simp, by simp, by simp⟩
    | false => simpa using h
  | registry call => exact h.registry parse call
  | watch call => exact h.watch call

theorem opened_before (parse : String → Option (List String)) {step : ConnectionStep δ η}
    (hs : ∀ accepted, step ≠ .connect accepted) (ho : (c.perform parse step).isConnected = true) :
    c.isConnected = true := by
  cases step with
  | connect accepted => exact absurd rfl (hs accepted)
  | disconnect => exact absurd ho (by simp [DBusConnection.perform, disconnect, isConnected])
  | remoteClose =>
    cases hc : c.isConnected with
    | true => rfl
    | false =>
      rw [DBusConnection.perform, remoteClose, hc] at ho
      exact absurd (hc.symm.trans ho) Bool.false_ne_true
  | registry call =>
    rw [DBusConnection.perform] at ho
    cases call with
    | registerObject refuses path xml data =>
      obtain ⟨exports, _, heq | ⟨id, interface, hc, _, _, _, heq⟩⟩ :=
        registerObject_cases parse refuses path xml data c
      · rw [RegistryCall.perform, heq] at ho
        exact ho
      · exact isConnected_iff.2 hc
    | unregisterObject path =>
      rcases unregisterObject_cases path c with heq | ⟨id, hc, _, _⟩
      · rw [RegistryCall.perform, heq] at ho
        exact ho
      · exact isConnected_iff.2 hc
  | watch call =>
    cases hc : c.isConnected with
    | true => rfl
    | false =>
      cases call <;> simp [DBusConnection.perform, WatchCall.perform, addSignalWatch,
        removeSignalWatch, hc] at ho

theorem Consistent.connect_staysLive_iff (h : Consistent c)
    (parse : String → Option (List String)) (accepted : Bool) :
    StaysLive parse c (.connect accepted) ↔ ReconnectsClean c (.connect accepted) := by
  cases hc : c.isConnected with
  | true =>
    have hp : c.perform parse (.connect accepted) = c := by
      simp [DBusConnection.perform, connect, hc]
    have hopen : c.isConnected ≠ false := by simp [hc]
    apply iff_of_true
    · intro _
      rw [hp]
      exact ⟨h.storedLive (isConnected_iff.1 hc), fun hn => absurd hn hopen⟩
    · exact fun _ hn => absurd hn hopen
  | false =>
    cases accepted with
    | false =>
      apply iff_of_true
      · intro ho
        simp [DBusConnection.perform, connect, hc] at ho
      · exact fun ha => absurd ha Bool.false_ne_true
    | true =>
      apply Iff.intro
      · intro hl _ _
        simp only [StaysLive, DBusConnection.perform, connect, hc, Bool.false_eq_true, if_false,
          if_true] at hl
        obtain ⟨⟨ho, hw⟩, _⟩ := hl rfl
        exact ⟨fun path => Option.eq_none_iff_forall_ne_some.2 fun id hid =>
            absurd (ho path id hid) (by simp),
          fun id => Option.eq_none_iff_forall_ne_some.2 fun handler hh =>
            absurd (hw id handler hh) (by simp)⟩
      · intro hr ho
        apply And.intro ((h.perform parse _ hr).storedLive (isConnected_iff.1 ho))
        intro _ path
        have hn := (hr rfl hc).1 path
        simp only [DBusConnection.perform, connect, hc, Bool.false_eq_true, if_false, if_true]
        rw [Std.TreeMap.contains_eq_isSome_getElem?, hn]
        rfl

theorem Consistent.staysLive_iff (h : Consistent c) (parse : String → Option (List String))
    (step : ConnectionStep δ η) : StaysLive parse c step ↔ ReconnectsClean c step := by
  by_cases hs : ∃ accepted, step = .connect accepted
  · obtain ⟨accepted, rfl⟩ := hs
    exact h.connect_staysLive_iff parse accepted
  · have hs' : ∀ accepted, step ≠ .connect accepted := fun a ha => hs ⟨a, ha⟩
    have hr : ReconnectsClean c step := by
      cases step with
      | connect accepted => exact absurd rfl (hs' accepted)
      | _ => trivial
    apply iff_of_true _ hr
    intro ho
    have hc := opened_before parse hs' ho
    exact ⟨(h.perform parse step hr).storedLive (isConnected_iff.1 ho),
      fun hn => absurd (hc.symm.trans hn) Bool.true_eq_false.mp⟩

end Steps

/-- In a run of any steps, what is stored stays live exactly if every fresh connection is
installed where nothing is stored. -/
theorem stays_live_iff (parse : String → Option (List String))
    (steps : List (ConnectionStep δ η)) :
    (lifetime parse).Every (StaysLive parse) (constructed δ η) steps ↔
      (lifetime parse).Every ReconnectsClean (constructed δ η) steps :=
  Machine.every_iff (I := Consistent) constructed_consistent
    (fun _ step h => h.staysLive_iff parse step) fun _ step h hr => h.perform parse step hr

/-- The entry of an object outlives the connection that the bus has closed, and stands in the
way of the object on the next one. -/
theorem registration_outlives_connection :
    let parse : String → Option (List String) := fun _ => some ["com.example.Test"]
    let xml := "<node><interface name='com.example.Test'/></node>"
    let steps : List (ConnectionStep Nat Nat) :=
      [.connect true, .registry (.registerObject [] ⟨"/com/example"⟩ xml 0), .remoteClose,
        .connect true]
    ¬ (lifetime parse).Every (StaysLive parse) (constructed Nat Nat) steps ∧
      (((lifetime parse).run (constructed Nat Nat) steps).registerObject parse []
        ⟨"/com/example"⟩ xml 0).1 = false := by
  apply And.intro _ (by decide)
  intro h
  obtain ⟨_, _, _, hl, _⟩ := h
  exact absurd ((hl (by decide)).2 (by decide) "/com/example") (by decide)

end DBusConnection
end Ggk
