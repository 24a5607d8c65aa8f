import BluetoothLE.DBus.Connection
import BluetoothLE.Lib.Machine

namespace Ggk
open Lib
set_option autoImplicit true

inductive WatchCall (η : Type u)
  | addSignalWatch (refused : Bool) (sender interface signalName : String)
      (path : DBusObjectPath) (handler : η)
  | removeSignalWatch (watchId : Nat)

def WatchCall.perform (c : DBusConnection δ η) : WatchCall η → DBusConnection δ η
  | addSignalWatch refused sender interface signalName path handler =>
    (c.addSignalWatch refused sender interface signalName path handler).2
  | removeSignalWatch watchId => (c.removeSignalWatch watchId).2

structure SignalWatch (η : Type u) where
  filter : SignalFilter
  handler : η

namespace SignalWatch

/-- What the call means for the watches that are left. -/
def after (w : IdTable (SignalWatch η)) : WatchCall η → IdTable (SignalWatch η)
  | .addSignalWatch refused sender interface signalName path handler =>
    if refused then w
    else w.insert ⟨DBusConnection.signalFilter sender interface signalName path, handler⟩
  | .removeSignalWatch watchId => w.erase watchId

def watches (η : Type u) : Machine (IdTable (SignalWatch η)) (WatchCall η) Unit where
  step w call := ((), after w call)

/-- The handlers of the watches that match the signal, each once. -/
def matching (owns : String → String → Bool) (signal : IncomingSignal π)
    (w : IdTable (SignalWatch η)) : List (Invocation η π) :=
  (w.entries.filter (GDBus.receives owns ·.2.filter signal)).map fun e =>
    ⟨e.1, e.2.handler, signal.member, signal.parameters⟩

end SignalWatch

namespace DBusConnection

def watching (δ : Type u) (η : Type v) : Machine (DBusConnection δ η) (WatchCall η) Unit where
  step c call := ((), call.perform c)

/-- The connection holds the subscriptions and the handlers of these watches. -/
structure Watches (c : DBusConnection δ η) (w : IdTable (SignalWatch η)) : Prop where
  opened : c.connection = .opened
  last : c.subscriptions.last = w.last
  filters : c.subscriptions.entries = w.entries.map fun e => (e.1, e.2.filter)
  handlers : ∀ id handler, c.signalHandlers[id]? = some handler ↔
    ∃ filter, (id, ⟨filter, handler⟩) ∈ w.entries

section Watches
variable {c : DBusConnection δ η} {w : IdTable (SignalWatch η)}

theorem Watches.contains (h : Watches c w) (id : Nat) :
    c.signalHandlers.contains id = w.contains id := by
  rw [Bool.eq_iff_iff, IdTable.contains_iff, Std.TreeMap.contains_eq_isSome_getElem?,
    Option.isSome_iff_exists]
  apply Iff.intro
  · intro hs
    obtain ⟨handler, hh⟩ := hs
    obtain ⟨filter, hm⟩ := (h.handlers id handler).1 hh
    exact ⟨_, hm⟩
  · intro hw
    obtain ⟨watch, hw⟩ := hw
    exact ⟨watch.handler, (h.handlers id watch.handler).2 ⟨watch.filter, hw⟩⟩

theorem Watches.after (h : Watches c w) (call : WatchCall η) :
    Watches (call.perform c) (SignalWatch.after w call) := by
  cases call with
  | addSignalWatch refused sender interface signalName path handler =>
    cases refused with
    | true => simpa [WatchCall.perform, addSignalWatch, SignalWatch.after] using h
    | false =>
      simp only [WatchCall.perform, addSignalWatch, isConnected_iff.2 h.opened,
        SignalWatch.after, Bool.not_true, Bool.false_eq_true, if_false]
      refine ⟨h.opened, congrArg (· + 1) h.last, ?_, ?_⟩
      · simp only [IdTable.insert_entries, h.filters, h.last, List.map_cons]
      · intro id handler'
        rw [Std.TreeMap.getElem?_insert, h.last, IdTable.insert_entries]
        by_cases hid : w.last + 1 = id
        · subst hid
          simp [IdTable.fresh, eq_comm]
        · simp [hid, Ne.symm hid, h.handlers]
  | removeSignalWatch watchId =>
    cases hc : w.contains watchId with
    | false =>
      simpa [WatchCall.perform, removeSignalWatch, SignalWatch.after, h.contains, hc,
        IdTable.erase_absent hc] using h
    | true =>
      have h0 : watchId ≠ 0 := by
        intro h0
        rw [h0, w.not_contains_zero] at hc
        cases hc
      simp only [WatchCall.perform, removeSignalWatch, isConnected_iff.2 h.opened, h.contains, hc,
        SignalWatch.after, Bool.not_true, beq_eq_false_iff_ne.2 h0, Bool.or_self,
        Bool.false_eq_true, if_false, if_true]
      refine ⟨h.opened, h.last, ?_, ?_⟩
      · simp only [IdTable.erase, h.filters, List.filter_map]
        rfl
      · intro id handler
        rw [Std.TreeMap.getElem?_erase]
        by_cases hid : watchId = id
        · simp [hid, IdTable.mem_erase]
        · simp [hid, Ne.symm hid, h.handlers, IdTable.mem_erase]

theorem Watches.handleSignal_perm (h : Watches c w) (signal : IncomingSignal π) :
    (c.handleSignal signal).Perm (w.entries.map fun e =>
      ⟨e.1, e.2.handler, signal.member, signal.parameters⟩) := by
  have hn : (w.entries.map fun e => (e.1, e.2.handler)).Nodup :=
    .of_map Prod.fst (by rw [List.map_map]; exact w.distinct)
  have hl : c.signalHandlers.toList.Nodup :=
    Std.TreeMap.distinct_keys_toList.imp fun hne heq => hne (by simp [heq])
  have hp : c.signalHandlers.toList.Perm (w.entries.map fun e => (e.1, e.2.handler)) := by
    apply (List.perm_ext_iff_of_nodup hl hn).2
    intro e
    obtain ⟨id, handler⟩ := e
    rw [Std.TreeMap.mem_toList_iff_getElem?_eq_some, h.handlers, List.mem_map]
    apply Iff.intro
    · intro hf
      obtain ⟨filter, hm⟩ := hf
      exact ⟨_, hm, rfl⟩
    · intro hw
      obtain ⟨e, hm, heq⟩ := hw
      cases heq
      exact ⟨e.2.filter, hm⟩
  have hi := hp.map fun e : Nat × η =>
    (⟨e.1, e.2, signal.member, signal.parameters⟩ : Invocation η π)
  rw [List.map_map] at hi
  exact hi

/-- Every subscription that gets the signal runs all handlers. -/
theorem Watches.deliver_length (h : Watches c w) (owns : String → String → Bool)
    (signal : IncomingSignal π) :
    (c.deliver owns signal).length =
      (SignalWatch.matching owns signal w).length * w.entries.length := by
  have hl : (c.handleSignal signal).length = w.entries.length := by
    rw [(h.handleSignal_perm signal).length_eq, List.length_map]
  simp [deliver, SignalWatch.matching, h.filters, List.filter_map, List.length_flatMap, hl,
    Function.comp_def]

theorem Watches.deliver_perm_iff (h : Watches c w) (owns : String → String → Bool)
    (signal : IncomingSignal π) :
    (c.deliver owns signal).Perm (SignalWatch.matching owns signal w) ↔
      (∀ e ∈ w.entries, GDBus.receives owns e.2.filter signal = false) ∨
        w.entries.length = 1 := by
  apply Iff.intro
  · intro hp
    have hl := (h.deliver_length owns signal).symm.trans hp.length_eq
    rcases Nat.eq_zero_or_pos (SignalWatch.matching owns signal w).length with hz | hpos
    · apply Or.inl
      intro e he
      apply Bool.eq_false_iff.2
      intro hr
      have hm := List.length_eq_zero_iff.1 hz
      rw [SignalWatch.matching, List.map_eq_nil_iff, List.filter_eq_nil_iff] at hm
      exact hm e he hr
    · exact .inr (Nat.eq_of_mul_eq_mul_left hpos (hl.trans (Nat.mul_one _).symm))
  · rintro (hn | hone)
    · have hm : SignalWatch.matching owns signal w = [] := by
        rw [SignalWatch.matching, List.map_eq_nil_iff, List.filter_eq_nil_iff]
        exact fun e he => by simp [hn e he]
      have hl := h.deliver_length owns signal
      rw [hm, List.length_nil, Nat.zero_mul, List.length_eq_zero_iff] at hl
      rw [hm, hl]
    · obtain ⟨e, he⟩ := List.length_eq_one_iff.1 hone
      have hp := h.handleSignal_perm signal
      rw [he] at hp
      cases hr : GDBus.receives owns e.2.filter signal with
      | true => simpa [deliver, SignalWatch.matching, h.filters, he, hr] using hp
      | false => simp [deliver, SignalWatch.matching, h.filters, he, hr]

end Watches

def unwatched (δ : Type u) (η : Type v) : DBusConnection δ η := (connect true (constructed δ η)).2

/-- After any run, the handlers of the watches that match a signal run, each once, exactly if
there are none or a single watch is left. -/
theorem signal_delivered_iff (owns : String → String → Bool) (signal : IncomingSignal π)
    (calls : List (WatchCall η)) :
    let left := (SignalWatch.watches η).run (.empty _) calls
    (((watching δ η).run (unwatched δ η) calls).deliver owns signal).Perm
        (SignalWatch.matching owns signal left) ↔
      (∀ e ∈ left.entries, GDBus.receives owns e.2.filter signal = false) ∨
        left.entries.length = 1 := by
  refine Watches.deliver_perm_iff ?_ owns signal
  refine Machine.run_simulates (R := Watches) (C := fun _ _ => True) ?_
    (fun _ _ call h _ => h.after call) (Machine.every_of_forall fun _ _ _ => trivial)
  exact ⟨rfl, rfl, rfl, by simp [unwatched, connect, constructed, isConnected]⟩

/-- Of two watches that differ in the name, both handlers run on a signal for one. -/
theorem both_handlers_run :
    let calls : List (WatchCall Nat) :=
      [.addSignalWatch false "" "com.example.Test" "First" ⟨""⟩ 0,
        .addSignalWatch false "" "com.example.Test" "Second" ⟨""⟩ 1]
    let signal : IncomingSignal Unit := ⟨":1.5", "com.example.Test", "First", "/com/example", ()⟩
    ¬ (((watching Unit Nat).run (unwatched Unit Nat) calls).deliver (· == ·) signal).Perm
      (SignalWatch.matching (· == ·) signal ((SignalWatch.watches Nat).run (.empty _) calls)) := by
  intro calls signal h
  exact absurd h.length_eq (by decide)

end DBusConnection
end Ggk
