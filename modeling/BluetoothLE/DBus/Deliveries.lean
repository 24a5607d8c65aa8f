import BluetoothLE.DBus.Races
import BluetoothLE.Lib.Ledger

namespace Ggk
open Lib ConnectionThread
set_option autoImplicit true

section Log
variable {δ : Type} {η : Type} {π : Type} {c : DBusConnection δ η}
variable {events : List (WatchEvent η π)}

/-- The watch was there from the start or has been added, and has not been removed. -/
def Watched (c : DBusConnection δ η) (events : List (WatchEvent η π)) (id : Nat)
    (handler : η) : Prop :=
  (c.signalHandlers[id]? = some handler ∨
    ∃ filter, WatchEvent.added id ⟨filter, handler⟩ ∈ events) ∧
  WatchEvent.removed id ∉ events

/-- A watch gets an id that is new, one that is removed was there, and a signal runs the handler
of each watch once, in the order of the ids, and nothing else. -/
def WatchEvent.Exact (c : DBusConnection δ η) (before : List (WatchEvent η π)) :
    WatchEvent η π → Prop
  | .added id _ => c.signalHandlers[id]? = none ∧ ∀ watch, .added id watch ∉ before
  | .removed id => ∃ handler, Watched c before id handler
  | .delivered signal invocations =>
      (invocations.map Invocation.watch).Pairwise (· < ·) ∧ ∀ i, i ∈ invocations ↔
        Watched c before i.watch i.handler ∧ i.signalName = signal.member ∧
          i.parameters = signal.parameters

def AllExact (c : DBusConnection δ η) (events : List (WatchEvent η π)) : Prop :=
  ∀ before event after, events = before ++ event :: after → event.Exact c before

theorem AllExact.append (h : AllExact c events) (he : event.Exact c events) :
    AllExact c (events ++ [event]) := by
  intro before event' after heq
  obtain rfl | ⟨after', last, rfl⟩ := List.eq_nil_or_concat after
  · obtain ⟨rfl, hevent⟩ := List.append_inj' heq rfl
    cases hevent
    exact he
  · rw [List.concat_eq_append, ← List.cons_append, ← List.append_assoc] at heq
    obtain ⟨rfl, -⟩ := List.append_inj' heq rfl
    exact h before event' after' rfl

/-- What holds of the handlers, GDBus's subscriptions and the record while the mutex is free. -/
structure WatchesKept (c : DBusConnection δ η) (events : List (WatchEvent η π))
    (handlers : Std.TreeMap Nat η) (subscriptions : IdTable SignalFilter) : Prop where
  watched : ∀ id handler, handlers[id]? = some handler ↔ Watched c events id handler
  started : ∀ id handler, c.signalHandlers[id]? = some handler → id ≤ subscriptions.last
  bounded : ∀ id watch, .added id watch ∈ events → id ≤ subscriptions.last
  exact : AllExact c events

variable {handlers : Std.TreeMap Nat η} {subscriptions : IdTable SignalFilter}

theorem WatchesKept.start (hc : c.Consistent) (ho : c.connection = .opened) :
    WatchesKept c ([] : List (WatchEvent η π)) c.signalHandlers c.subscriptions where
  watched := by simp [Watched]
  started := by
    intro id handler h
    obtain ⟨filter, hf⟩ := IdTable.contains_iff.1 (hc.watches ho id handler h)
    exact (c.subscriptions.bounded _ hf).2
  bounded := by simp
  exact := by simp [AllExact]

theorem WatchesKept.removed_le {id : Nat} (h : WatchesKept c events handlers subscriptions)
    (hr : .removed id ∈ events) : id ≤ subscriptions.last := by
  obtain ⟨before, after, heq⟩ := List.append_of_mem hr
  obtain ⟨handler, hw, -⟩ := h.exact before _ after heq
  rcases hw with hs | ⟨filter, ha⟩
  · exact h.started id handler hs
  · exact h.bounded id _ (heq ▸ List.mem_append_left _ ha)

theorem WatchesKept.added (h : WatchesKept c events handlers subscriptions)
    (filter : SignalFilter) (handler : η) :
    WatchesKept c (events ++ [.added (subscriptions.last + 1) ⟨filter, handler⟩])
      (handlers.insert (subscriptions.last + 1) handler) (subscriptions.insert filter) where
  watched := by
    intro id handler'
    simp only [Std.TreeMap.getElem?_insert, Std.LawfulEqOrd.compare_eq_iff_eq]
    split_ifs with hid
    · subst hid
      have hn : WatchEvent.removed (subscriptions.last + 1) ∉ events := fun hr =>
        absurd (h.removed_le hr) (Nat.not_succ_le_self _)
      have hs : c.signalHandlers[subscriptions.last + 1]? = none := by
        rw [Option.eq_none_iff_forall_ne_some]
        exact fun _ he => absurd (h.started _ _ he) (Nat.not_succ_le_self _)
      have ha : ∀ watch, WatchEvent.added (subscriptions.last + 1) watch ∉ events := fun _ he =>
        absurd (h.bounded _ _ he) (Nat.not_succ_le_self _)
      simp [Watched, hn, hs, ha, eq_comm]
    · rw [h.watched]
      simp [Watched, Ne.symm hid]
  started := fun id handler hs => Nat.le_succ_of_le (h.started id handler hs)
  bounded := by
    intro id watch hw
    rcases List.mem_append.1 hw with hw | hw
    · exact Nat.le_succ_of_le (h.bounded id watch hw)
    · cases List.mem_singleton.1 hw
      exact Nat.le_refl _
  exact := by
    apply h.exact.append
    refine ⟨?_, fun _ he => absurd (h.bounded _ _ he) (Nat.not_succ_le_self _)⟩
    rw [Option.eq_none_iff_forall_ne_some]
    exact fun _ he => absurd (h.started _ _ he) (Nat.not_succ_le_self _)

theorem WatchesKept.removed {id : Nat} (h : WatchesKept c events handlers subscriptions)
    (hc : handlers.contains id = true) (hl : subscriptions'.last = subscriptions.last) :
    WatchesKept c (events ++ [.removed id]) (handlers.erase id) subscriptions' where
  watched := by
    intro id' handler
    simp only [Std.TreeMap.getElem?_erase, Std.LawfulEqOrd.compare_eq_iff_eq]
    split_ifs with hid
    · simp [Watched, hid]
    · rw [h.watched]
      simp [Watched, Ne.symm hid]
  started := by
    rw [hl]
    exact h.started
  bounded := by
    intro id' watch hw
    rw [hl]
    exact h.bounded id' watch (by simpa using hw)
  exact := by
    apply h.exact.append
    rw [Std.TreeMap.contains_eq_isSome_getElem?] at hc
    obtain ⟨handler, hh⟩ := Option.isSome_iff_exists.1 hc
    exact ⟨handler, (h.watched id handler).1 hh⟩

theorem WatchesKept.delivered (h : WatchesKept c events handlers subscriptions)
    (signal : IncomingSignal π) :
    WatchesKept c (events ++ [.delivered signal (handlers.toList.map fun handler =>
      ⟨handler.1, handler.2, signal.member, signal.parameters⟩)]) handlers subscriptions where
  watched := by
    intro id handler
    rw [h.watched]
    simp [Watched]
  started := h.started
  bounded := by
    intro id watch hw
    exact h.bounded id watch (by simpa using hw)
  exact := by
    apply h.exact.append
    apply And.intro
    · rw [List.map_map, List.pairwise_map]
      exact Std.TreeMap.ordered_keys_toList.imp Nat.compare_eq_lt.1
    · intro i
      obtain ⟨id, handler, name, parameters⟩ := i
      rw [← h.watched, ← Std.TreeMap.mem_toList_iff_getElem?_eq_some, List.mem_map]
      apply Iff.intro
      · rintro ⟨e, he, heq⟩
        cases heq
        exact ⟨he, rfl, rfl⟩
      · rintro ⟨he, hn, hp⟩
        exact ⟨_, he, by simp [← hn, ← hp]⟩

/-- The handlers, GDBus's subscriptions and the record belong to the mutex. -/
def watchMonitor (c : DBusConnection δ η) :
    Program.Monitor ConnectionField (ConnectionCell δ η π) where
  mutex := .mutex
  guards := fun f => f = .signalHandlers ∨ f = .subscriptions ∨ f = .mutex
  inv := fun cells => WatchesKept c (cells .mutex) (cells .signalHandlers) (cells .subscriptions)
  depends := by
    intro cells cells' h hk
    rw [← h .mutex (by simp), ← h .signalHandlers (by simp), ← h .subscriptions (by simp)]
    exact hk

theorem watchMonitor_aside (c : DBusConnection δ η) : Aside (watchMonitor (π := π) c) := by
  constructor <;> simp [watchMonitor]

/-- A block under the mutex that gets from a kept state to a kept state. -/
theorem watches_withLock {x : ConnectionThread δ η π α}
    (h : ∀ cells, (watchMonitor (π := π) c).inv cells →
      Program.Within (watchMonitor c) (fun held _ => ∃ cells', held = some cells' ∧
        (watchMonitor c).inv cells') x (some cells)) :
    Program.Within (watchMonitor c) (fun held _ => held = none) (withLock x) none := by
  apply Program.within_locked (r := watchMonitor c)
  intro cells hi
  apply Program.within_mono (h cells hi)
  rintro held a ⟨cells', rfl, hk⟩
  exact ⟨cells', rfl, hk, rfl⟩

theorem within_addSignalWatch (out : BusOutcome) (sender interface signalName : String)
    (path : DBusObjectPath) (handler : η) :
    Program.Within (watchMonitor (π := π) c) (fun held _ => held = none)
      (discard (addSignalWatch out sender interface signalName path handler)) none := by
  apply within_connected (watchMonitor_aside c)
  apply watches_withLock
  intro cells hk
  apply Program.within_bind
  apply Program.within_peek (by simp [watchMonitor])
  intro connection
  apply Program.within_bind
  change Program.Within _ _ (gdbus (connection && out.accepted) _ 0) _
  cases connection && out.accepted with
  | false =>
    apply Program.within_done
    exact Program.within_done ⟨cells, rfl, hk⟩
  | true =>
    apply Program.within_guarded (by simp [watchMonitor])
    apply Program.within_bind
    apply Program.within_guarded (by simp [watchMonitor])
    apply Program.within_bind
    apply Program.within_guarded (by simp [watchMonitor])
    exact Program.within_done ⟨_, rfl, hk.added _ handler⟩

theorem within_removeSignalWatch (out : BusOutcome) (watchId : Nat) :
    Program.Within (watchMonitor (δ := δ) (η := η) (π := π) c) (fun held _ => held = none)
      (discard (removeSignalWatch out watchId)) none := by
  apply within_connected (watchMonitor_aside c)
  apply watches_withLock
  intro cells hk
  apply Program.within_bind
  apply Program.within_guarded (by simp [watchMonitor])
  have hsame : Function.update cells .signalHandlers (id (cells .signalHandlers)) = cells :=
    Function.update_eq_self ..
  rw [hsame]
  cases hc : Std.TreeMap.contains (cells .signalHandlers) watchId with
  | false => exact Program.within_done ⟨cells, rfl, hk⟩
  | true =>
    apply Program.within_bind
    apply Program.within_bind
    apply Program.within_peek (by simp [watchMonitor])
    intro connection
    cases connection with
    | false =>
      apply Program.within_done
      apply Program.within_bind
      apply Program.within_guarded (by simp [watchMonitor])
      apply Program.within_bind
      apply Program.within_guarded (by simp [watchMonitor])
      exact Program.within_done ⟨_, rfl, hk.removed hc rfl⟩
    | true =>
      apply Program.within_guarded (by simp [watchMonitor])
      apply Program.within_bind
      apply Program.within_guarded (by simp [watchMonitor])
      apply Program.within_bind
      apply Program.within_guarded (by simp [watchMonitor])
      exact Program.within_done ⟨_, rfl, hk.removed hc rfl⟩

theorem within_handleSignal (signal : IncomingSignal π) :
    Program.Within (watchMonitor c) (fun held _ => held = none)
      (handleSignal signal : ConnectionThread δ η π Unit) none := by
  apply watches_withLock
  intro cells hk
  apply Program.within_bind
  apply Program.within_guarded (by simp [watchMonitor])
  apply Program.within_guarded (by simp [watchMonitor])
  exact ⟨_, rfl, hk.delivered signal⟩

theorem within_watches (parse : String → Option (List String)) (out : BusOutcome)
    (call : ConnectionCall δ η π) (hs : call.setsConnection = false) :
    Program.Within (watchMonitor c) (fun held _ => held = none) (call.perform parse out) none := by
  have hspared (hu : call.usesHandlers = false) :
      Spared (watchMonitor c) (call.perform parse out) :=
    ConnectionThread.spared_perform parse (watchMonitor_aside c) call hs hu
  cases call with
  | connect => cases hs
  | disconnect => cases hs
  | addSignalWatch sender interface signalName path handler =>
    exact within_addSignalWatch out sender interface signalName path handler
  | removeSignalWatch watchId => exact within_removeSignalWatch out watchId
  | handleSignal signal => exact within_handleSignal signal
  | _ => exact hspared rfl none

end Log

section Signals
variable {δ : Type} {η : Type} {π : Type}

def WatchEvent.signal : WatchEvent η π → Option (IncomingSignal π)
  | .delivered signal _ => some signal
  | _ => none

def ConnectionCall.signal : ConnectionCall δ η π → Option (IncomingSignal π)
  | .handleSignal signal => some signal
  | _ => none

/-- The signals that have been delivered. -/
def delivered (cells : (c : ConnectionField) → ConnectionCell δ η π c) :
    Multiset (IncomingSignal π) :=
  (List.filterMap WatchEvent.signal (cells .mutex) : List (IncomingSignal π))

/-- The signals that GDBus hands to a thread. -/
def handed (calls : List (ConnectionCall δ η π × BusOutcome)) : Multiset (IncomingSignal π) :=
  (calls.filterMap fun call => call.1.signal : List (IncomingSignal π))

/-- What one call delivers. -/
def ConnectionCall.delivers (call : ConnectionCall δ η π) : Multiset (IncomingSignal π) :=
  (call.signal.toList : List (IncomingSignal π))

theorem sum_delivers (calls : List (ConnectionCall δ η π × BusOutcome)) :
    (calls.map fun call => call.1.delivers).sum = handed calls := by
  induction calls with
  | nil => rfl
  | cons call calls ih =>
    rw [List.map_cons, List.sum_cons, ih, handed, handed, List.filterMap_cons,
      ConnectionCall.delivers]
    cases call.1.signal <;> rfl

theorem delivered_other {c : ConnectionField} (hc : c ≠ .mutex)
    (cells : (c : ConnectionField) → ConnectionCell δ η π c) (b : ConnectionCell δ η π c) :
    delivered (Function.update cells c b) = delivered cells := by
  rw [delivered, Function.update_of_ne hc.symm, delivered]

theorem adds_access {c : ConnectionField} {f : ConnectionCell δ η π c → ConnectionCell δ η π c}
    {g : ConnectionCell δ η π c → α} (hc : c ≠ .mutex) :
    Program.Adds delivered (access c f g) 0 :=
  Program.Adds.access fun cells => by rw [delivered_other hc, add_zero]

theorem adds_record (event : WatchEvent η π) :
    Program.Adds delivered (record event : ConnectionThread δ η π Unit)
      (event.signal.toList : List (IncomingSignal π)) := by
  have hlog (events : List (WatchEvent η π)) :
      ((events ++ [event]).filterMap WatchEvent.signal : Multiset (IncomingSignal π)) =
        (events.filterMap WatchEvent.signal : Multiset (IncomingSignal π)) +
          (event.signal.toList : List (IncomingSignal π)) := by
    rw [List.filterMap_append, Multiset.coe_add]
    cases event <;> rfl
  exact Program.Adds.access fun cells => hlog (cells .mutex)

theorem adds_footprint {T : ConnectionField → Bool} {C : ConnectionField → Bool} {Q : α → Prop}
    {x : ConnectionThread δ η π α} (hx : Footprint T C Q x) (hC : C .mutex = false) :
    Program.Adds delivered x 0 := by
  apply Program.Uses.adds_zero hx
  rintro c f ⟨-, hf⟩ cells
  by_cases hc : c = .mutex
  · subst hc
    have hsame : f (cells .mutex) = cells .mutex := by
      by_contra hne
      have hm := hf ⟨_, hne⟩
      rw [hC] at hm
      cases hm
    rw [hsame, Function.update_eq_self]
  · exact delivered_other hc cells _

theorem adds_connected {out : BusOutcome} {p : Bool → Prop} [∀ b, Decidable (p b)]
    {x : ConnectionThread δ η π α} (hx : Program.Adds delivered x 0) :
    Program.Adds delivered (discard (isConnected out >>= fun connected =>
      if p connected then pure refusal else x)) 0 := by
  have hconnected : Program.Adds delivered (isConnected out : ConnectionThread δ η π Bool) 0 :=
    adds_footprint (T := fun _ => true) (C := fun c => c != .mutex)
      (footprint_isConnected ⟨rfl, rfl, fun _ => rfl⟩) rfl
  apply Program.Adds.bind_zero _ fun _ => Program.Adds.done
  apply Program.Adds.bind_zero hconnected
  intro connected
  split_ifs
  · exact Program.Adds.done
  · exact hx

theorem adds_addSignalWatch (out : BusOutcome) (sender interface signalName : String)
    (path : DBusObjectPath) (handler : η) :
    Program.Adds delivered (discard (addSignalWatch out sender interface signalName path handler :
      ConnectionThread δ η π Nat)) 0 := by
  apply adds_connected
  apply Program.Adds.locked
  apply Program.Adds.bind_zero Program.Adds.peek
  intro connection
  apply Program.Adds.bind_zero
  · change Program.Adds _ (gdbus (connection && out.accepted) _ 0) _
    cases connection && out.accepted with
    | false => exact Program.Adds.done
    | true => exact adds_access (by decide)
  · intro id
    split_ifs
    · exact Program.Adds.bind_zero (adds_access (by decide)) fun _ =>
        Program.Adds.bind_zero (adds_record _) fun _ => Program.Adds.done
    · exact Program.Adds.done

theorem adds_removeSignalWatch (out : BusOutcome) (watchId : Nat) :
    Program.Adds delivered (discard (removeSignalWatch out watchId :
      ConnectionThread δ η π Bool)) 0 := by
  apply adds_connected
  apply Program.Adds.locked
  apply Program.Adds.bind_zero (adds_access (by decide))
  intro found
  split_ifs
  · exact Program.Adds.done
  · apply Program.Adds.bind_zero
    · apply Program.Adds.bind_zero Program.Adds.peek
      intro connection
      cases connection with
      | false => exact Program.Adds.done
      | true => exact adds_access (by decide)
    · exact fun _ => Program.Adds.bind_zero (adds_access (by decide)) fun _ =>
        Program.Adds.bind_zero (adds_record _) fun _ => Program.Adds.done

theorem adds_perform (parse : String → Option (List String)) (out : BusOutcome)
    (call : ConnectionCall δ η π) :
    Program.Adds delivered (call.perform parse out) call.delivers := by
  have hother (hm : call.takesMutex = false) : Program.Adds delivered (call.perform parse out) 0 :=
    adds_footprint (call.perform_footprint parse out) hm
  cases call with
  | addSignalWatch sender interface signalName path handler =>
    exact adds_addSignalWatch out sender interface signalName path handler
  | removeSignalWatch watchId => exact adds_removeSignalWatch out watchId
  | handleSignal signal =>
    exact Program.Adds.locked (Program.Adds.bind_zero (adds_access (by decide)) fun _ =>
      adds_record _)
  | _ => exact hother rfl

end Signals

section Runs
variable {δ : Type} {η : Type} {π : Type} {θ : Type} [DecidableEq θ]
variable {parse : String → Option (List String)} {c : DBusConnection δ η}
variable {performed : θ → List (ConnectionCall δ η π × BusOutcome)}
variable {s : Program.Shared θ ConnectionField (ConnectionCell δ η π) Unit}

theorem runs_accounted [Fintype θ]
    (hr : Program.Runs (Program.start c.cells (ConnectionCall.program parse performed)) s) :
    Program.Accounted delivered (∑ t, handed (performed t)) s := by
  have hstart : Program.Accounted delivered
      (delivered (c.cells (π := π)) + ∑ t, handed (performed t))
      (Program.start c.cells (ConnectionCall.program parse performed)) := by
    apply Program.Accounted.start
    intro t
    rw [← sum_delivers]
    exact Program.Adds.each (performed t) fun call _ => adds_perform parse call.2 call.1
  have hnone : delivered (c.cells (π := π)) = 0 := rfl
  rw [hnone, zero_add] at hstart
  exact hstart.run hr

/-- Some call that announces the change of a property finds GLib not going on. -/
def MayEnd (performed : θ → List (ConnectionCall δ η π × BusOutcome)) : Prop :=
  ∃ t, ∃ call ∈ performed t, call.2.goesOn = false ∧ ∃ path interface propertyName value,
    call.1 = .emitPropertyChanged path interface propertyName value

/-- Threads that make any calls never wait for each other in a circle, are done after finitely
many steps in any order unless one of them ends the process, and have then delivered each signal
that they were handed once. -/
theorem connection_completes [Fintype θ]
    (hr : Program.LiveRuns processEnded
      (Program.start c.cells (ConnectionCall.program parse performed)) s) :
    Acc (fun s' s => ∃ t, Program.LiveStep processEnded t s s') s ∧
      delivered s.cells ≤ ∑ t, handed (performed t) ∧
      ((∀ t s', ¬ Program.LiveStep processEnded t s s') →
        (processEnded s.cells = true ∧ MayEnd performed) ∨
          (processEnded s.cells = false ∧ (∀ t, s.todo t = .done ()) ∧ s.owner .mutex = none ∧
            delivered s.cells = ∑ t, handed (performed t))) := by
  refine ⟨Program.liveSteps_wellFounded.apply s, ?_, ?_⟩
  · obtain ⟨due, -, hsum⟩ := runs_accounted hr.runs
    rw [← hsum]
    exact Multiset.le_add_right _ _
  intro hstuck
  cases he : processEnded s.cells with
  | true => exact .inl ⟨rfl, ended_by hr.runs rfl he⟩
  | false =>
    have hm : Program.Monitored (handlersMonitor δ η π False) s :=
      runs_monitored trivial (fun _ call _ => call.1.perform_within parse call.2 fun _ h => h)
        hr.runs
    have hdone (t : θ) : s.todo t = .done () := by
      by_contra ht
      obtain ⟨u, s', hs⟩ := hm.progress fun a hd => ht hd
      exact hstuck u s' ⟨he, hs⟩
    exact .inr ⟨rfl, hdone, hm.done_free hdone,
      (runs_accounted hr.runs).settled fun t => ⟨(), hdone t⟩⟩

def changedSignal : IncomingSignal Nat := ⟨":1.5", "org.bluez.Device1", "Changed", "/org/bluez", 3⟩

/-- One thread watches for signals, the other delivers one. -/
def watching : Bool → List (ConnectionCall Nat Nat Nat × BusOutcome)
  | false =>
    [(.addSignalWatch "" "org.bluez.Device1" "" ⟨"/org/bluez"⟩ 7, ⟨true, [], false, false⟩)]
  | true => [(.handleSignal changedSignal, ⟨true, [], false, false⟩)]

theorem watching_runs : ∃ s, Program.Runs (Program.start (opened Nat Nat).cells
    (ConnectionCall.program (fun _ => none) watching)) s ∧ s.owner .mutex = none ∧
      delivered s.cells = {changedSignal} ∧ processEnded s.cells = false := by
  have hconnected : Program.Runs (Program.start (opened Nat Nat).cells
      (ConnectionCall.program (fun _ => none) watching)) _ :=
    .tail (.tail (.tail .refl ⟨false, .peek rfl⟩) ⟨false, .peek rfl⟩) ⟨false, .access rfl⟩
  have hadded := ((((((hconnected.tail ⟨false, .acquire rfl rfl⟩).tail ⟨false, .peek rfl⟩).tail
    ⟨false, .access rfl⟩).tail ⟨false, .access rfl⟩).tail ⟨false, .access rfl⟩).tail
      ⟨false, .release rfl⟩)
  have hdelivered := (((hadded.tail ⟨true, .acquire rfl rfl⟩).tail ⟨true, .access rfl⟩).tail
    ⟨true, .access rfl⟩).tail ⟨true, .release rfl⟩
  exact ⟨_, hdelivered, rfl, rfl, rfl⟩

theorem connection_completes_watched :
    ∃ s, Acc (fun s' s => ∃ t, Program.LiveStep processEnded t s s') s ∧
      Program.LiveRuns processEnded (Program.start (opened Nat Nat).cells
        (ConnectionCall.program (fun _ => none) watching)) s ∧
      delivered s.cells = {changedSignal} := by
  obtain ⟨s, hr, -, hd, he⟩ := watching_runs
  have hlive := runs_live hr he
  exact ⟨s, (connection_completes hlive).1, hlive, hd⟩

/-- While the connection stays open, each signal is delivered to the watches of that moment,
whatever else the threads call. -/
theorem deliveries_exact (hc : c.Consistent) (ho : c.connection = .opened)
    (hn : ∀ t, ∀ call ∈ performed t, call.1.setsConnection = false)
    (hr : Program.Runs (Program.start c.cells (ConnectionCall.program parse performed)) s)
    (hfree : s.owner .mutex = none) :
    AllExact c (s.cells .mutex) ∧ ∀ id handler,
      Std.TreeMap.get? (s.cells .signalHandlers) id = some handler ↔
        Watched c (s.cells .mutex) id handler := by
  have hstart : (watchMonitor (π := π) c).inv c.cells := WatchesKept.start hc ho
  have hm : Program.Monitored (watchMonitor c) s :=
    runs_monitored hstart
      (fun t call hcall => within_watches parse call.2 call.1 (hn t call hcall)) hr
  have hk := hm.free hfree
  exact ⟨hk.exact, hk.watched⟩

theorem deliveries_exact_watched :
    ∃ s, Program.Runs (Program.start (opened Nat Nat).cells
        (ConnectionCall.program (fun _ => none) watching)) s ∧
      delivered s.cells = {changedSignal} ∧ AllExact (opened Nat Nat) (s.cells .mutex) := by
  obtain ⟨s, hr, hfree, hd, -⟩ := watching_runs
  have hn : ∀ t, ∀ call ∈ watching t, call.1.setsConnection = false := by decide
  exact ⟨s, hr, hd, (deliveries_exact opened_consistent opened_connection hn hr hfree).1⟩

end Runs
end Ggk
