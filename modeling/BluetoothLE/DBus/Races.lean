import BluetoothLE.DBus.Conflicts

namespace Ggk
open Lib ConnectionThread
set_option autoImplicit true

theorem clears_handlers (η : Type) [Inhabited η] :
    ∃ m : Std.TreeMap Nat η, (∅ : Std.TreeMap Nat η) ≠ m := by
  exists (∅ : Std.TreeMap Nat η).insert 0 default
  intro he
  have hempty := congrArg (fun m : Std.TreeMap Nat η => m.contains 0) he
  simp at hempty

theorem inserts_object (path : String) (id : Nat) :
    ∃ m : Std.TreeMap String Nat, m.insert path id ≠ m := by
  exists (∅ : Std.TreeMap String Nat)
  intro he
  have hempty := congrArg (fun m : Std.TreeMap String Nat => m.contains path) he
  simp at hempty

theorem erases_object (path : String) : ∃ m : Std.TreeMap String Nat, m.erase path ≠ m := by
  exists (∅ : Std.TreeMap String Nat).insert path 0
  intro he
  have hempty := congrArg (fun m : Std.TreeMap String Nat => m.contains path) he
  simp at hempty

section Runs
variable {δ : Type} {η : Type} {π : Type} {θ : Type} [DecidableEq θ]
variable {parse : String → Option (List String)}
variable {performed : θ → List (ConnectionCall δ η π × BusOutcome)}
variable {s : Program.Shared θ ConnectionField (ConnectionCell δ η π) Unit}

/-- Two threads make calls that must not be made at once. -/
def CallsConflict (parse : String → Option (List String))
    (calls : θ → List (ConnectionCall δ η π)) : Prop :=
  ∃ t u, t ≠ u ∧ ∃ call ∈ calls t, ∃ call' ∈ calls u, call.Conflicts parse call'

omit [DecidableEq θ] in
/-- What a thread touches its calls touch, and what it changes they change. -/
theorem program_uses (t : θ) : (ConnectionCall.program parse performed t).Uses
    (fun c => ∃ call ∈ performed t, call.1.touches c = true)
    (fun c f => (∃ call ∈ performed t, call.1.touches c = true) ∧
      ((∃ b, f b ≠ b) → ∃ call ∈ performed t, call.1.changes parse call.2 c = true))
    fun _ => True := by
  apply Program.Uses.each
  intro p hp
  obtain ⟨call, hcall, rfl⟩ := List.mem_map.1 hp
  apply (call.1.perform_footprint parse call.2).mono
  · exact fun c hc => ⟨call, hcall, hc⟩
  · exact fun c f h => ⟨⟨call, hcall, h.1⟩, fun hf => ⟨call, hcall, h.2 hf⟩⟩

/-- What changes fields but not that of the process does not take back its end. -/
theorem lasts_of_footprint {T : ConnectionField → Bool} {C : ConnectionField → Bool} {Q : α → Prop}
    {x : ConnectionThread δ η π α} (h : Footprint T C Q x) (hC : C .process = false) :
    x.Uses (fun _ => True) (Program.Lasts processEnded) Q := by
  apply Program.Uses.mono h fun _ _ => trivial
  rintro c f ⟨-, hf⟩ cells he
  by_cases hc : c = .process
  · subst hc
    have hsame : f (cells .process) = cells .process := by
      by_contra hne
      have hchanges := hf ⟨_, hne⟩
      rw [hC] at hchanges
      cases hchanges
    rwa [hsame, Function.update_eq_self]
  · exact (Function.update_of_ne (Ne.symm hc) ..).trans he

theorem ConnectionCall.perform_lasts (parse : String → Option (List String)) (out : BusOutcome)
    (call : ConnectionCall δ η π) : (call.perform parse out).Uses (fun _ => True)
      (Program.Lasts processEnded) fun _ => True := by
  have hother (hc : call.changes parse out .process = false) :
      (call.perform parse out).Uses (fun _ => True) (Program.Lasts processEnded) fun _ => True :=
    lasts_of_footprint (call.perform_footprint parse out) hc
  cases call with
  | emitPropertyChanged path interface propertyName value =>
    have hends (b : Bool) : (abort b : ConnectionThread δ η π Bool).Uses (fun _ => True)
        (Program.Lasts processEnded) fun _ => True :=
      Program.Uses.bind (R := fun _ => True)
        (Program.Uses.access (fun _ _ => Function.update_self ..) fun _ => trivial)
        fun _ _ => Program.Uses.done trivial
    have hasks : Asks out (fun _ => true) fun c => c != .process := ⟨rfl, rfl, fun _ => rfl⟩
    apply Program.Uses.bind (R := fun _ => True) _ fun _ _ => Program.Uses.done trivial
    apply Program.Uses.bind (lasts_of_footprint (footprint_isConnected hasks) rfl)
    intro connected _
    split_ifs
    · exact Program.Uses.done trivial
    · dsimp only
      split_ifs
      · exact hends false
      · exact lasts_of_footprint (footprint_emitSignal hasks) rfl
  | _ => exact hother rfl

omit [DecidableEq θ] in
theorem program_lasts (t : θ) : (ConnectionCall.program parse performed t).Uses (fun _ => True)
    (Program.Lasts processEnded) fun _ => True := by
  apply Program.Uses.each
  intro p hp
  obtain ⟨call, -, rfl⟩ := List.mem_map.1 hp
  exact call.1.perform_lasts parse call.2

/-- A run in which nothing ends the process. -/
theorem runs_live {cells : (c : ConnectionField) → ConnectionCell δ η π c}
    (hr : Program.Runs (Program.start cells (ConnectionCall.program parse performed)) s)
    (he : processEnded s.cells = false) :
    Program.LiveRuns processEnded
      (Program.start cells (ConnectionCall.program parse performed)) s :=
  hr.live (P := fun _ _ => True) program_lasts he

theorem ConnectionCall.changes_process {call : ConnectionCall δ η π}
    (h : call.changes parse out .process = true) :
    out.goesOn = false ∧ ∃ path interface propertyName value,
      call = .emitPropertyChanged path interface propertyName value := by
  cases call with
  | emitPropertyChanged path interface propertyName value =>
    exact ⟨Bool.not_inj h, path, interface, propertyName, value, rfl⟩
  | _ => cases h

/-- Only the change of a property ends the process, and only if GLib does not go on. -/
theorem ended_by {cells : (c : ConnectionField) → ConnectionCell δ η π c}
    (hr : Program.Runs (Program.start cells (ConnectionCall.program parse performed)) s)
    (hs : processEnded cells = false) (he : processEnded s.cells = true) :
    ∃ t, ∃ call ∈ performed t, call.2.goesOn = false ∧ ∃ path interface propertyName value,
      call.1 = .emitPropertyChanged path interface propertyName value := by
  by_contra hnone
  have hcell := Program.Uses.run_cell (m := .process) program_uses (fun u f hf b => by
    by_contra hne
    obtain ⟨call, hcall, hchanges⟩ := hf.2 ⟨b, hne⟩
    exact hnone ⟨u, call, hcall, call.1.changes_process hchanges⟩) hr
  have hsame : processEnded s.cells = processEnded cells := hcell
  rw [hs, he] at hsame
  cases hsame

/-- Threads whose calls each keep to a monitor keep to it in any order. -/
theorem runs_monitored {r : Program.Monitor ConnectionField (ConnectionCell δ η π)}
    {cells : (c : ConnectionField) → ConnectionCell δ η π c} (hi : r.inv cells)
    (hw : ∀ t, ∀ call ∈ performed t, Program.Within r (fun held _ => held = none)
      (call.1.perform parse call.2) none)
    (hr : Program.Runs (Program.start cells (ConnectionCall.program parse performed)) s) :
    Program.Monitored r s := by
  apply Program.Monitored.run (.start hi _) hr
  intro t
  apply Program.within_each
  intro p hp
  obtain ⟨call, hcall, rfl⟩ := List.mem_map.1 hp
  exact hw t call hcall

theorem not_both_guarded {cells : (c : ConnectionField) → ConnectionCell δ η π c}
    (hd : ∀ t, ∀ call ∈ performed t, call.1 ≠ .disconnect)
    (hr : Program.Runs (Program.start cells (ConnectionCall.program parse performed)) s) :
    ¬ DataRace s t u .signalHandlers := by
  intro h
  have hm : Program.Monitored (handlersMonitor δ η π True) s :=
    runs_monitored trivial (fun t call hcall =>
      call.1.perform_within parse call.2 fun he => absurd he (hd t call hcall)) hr
  obtain ⟨f, p, ht, -⟩ := h.changes
  have how := hm.guarded ⟨trivial, rfl⟩ ht
  rcases h.touches with ⟨q, hu⟩ | ⟨g, q, hu⟩
  · exact hm.not_peeks ⟨trivial, rfl⟩ hu
  · have hou := hm.guarded ⟨trivial, rfl⟩ hu
    exact h.apart (Option.some.inj (how.symm.trans hou))

theorem calls_conflict {cells : (c : ConnectionField) → ConnectionCell δ η π c}
    (hr : Program.Runs (Program.start cells (ConnectionCall.program parse performed)) s)
    (h : DataRace s t u c) : CallsConflict parse fun t => (performed t).map Prod.fst := by
  have huses := Program.Uses.run (s := Program.start cells (ConnectionCall.program parse performed))
    program_uses hr
  have hmem {v : θ} {call : ConnectionCall δ η π × BusOutcome} (hc : call ∈ performed v) :
      call.1 ∈ (performed v).map Prod.fst := List.mem_map_of_mem hc
  obtain ⟨f, p, ht, hf⟩ := h.changes
  obtain ⟨call, hcall, hchanges⟩ := (Program.Uses.accesses huses ht).2 hf
  have htouches : ∃ call' ∈ performed u, call'.1.touches c = true := by
    rcases h.touches with ⟨q, hu⟩ | ⟨g, q, hu⟩
    · exact Program.Uses.peeks huses hu
    · exact (Program.Uses.accesses huses hu).1
  obtain ⟨call', hcall', htouch⟩ := htouches
  cases c with
  | connection =>
    refine ⟨t, u, h.apart, _, hmem hcall, _, hmem hcall', ?_⟩
    obtain ⟨call, out⟩ := call
    cases call with
    | connect => exact .connect htouch
    | disconnect => exact .disconnect _
    | _ => cases hchanges
  | registeredObjects =>
    exact ⟨t, u, h.apart, _, hmem hcall, _, hmem hcall', .objects hchanges htouch⟩
  | signalHandlers =>
    by_cases hd : ∃ v, ∃ call ∈ performed v, call.1 = .disconnect
    · obtain ⟨v, ⟨_, out⟩, hv, rfl⟩ := hd
      by_cases hvt : v = t
      · subst hvt
        exact ⟨v, u, h.apart, _, hmem hv, _, hmem hcall', .disconnect _⟩
      · exact ⟨v, t, hvt, _, hmem hv, _, hmem hcall, .disconnect _⟩
    · have hn : ∀ t, ∀ call ∈ performed t, call.1 ≠ .disconnect :=
        fun t call hc he => hd ⟨t, call, hc, he⟩
      exact absurd h (not_both_guarded hn hr)
  | _ => cases h.plain

/-- A thread that leaves the mutex alone can go to its end while nobody has it. -/
theorem runs_spared {x : ConnectionThread δ η π α}
    {k : α → ConnectionThread δ η π Unit} (hx : Spared (handlersMonitor δ η π False) x)
    (hi : s.Idle) (ht : s.todo t = x.bind k) :
    ∃ s', Program.Runs s s' ∧ s'.Idle ∧ s'.todo t = k (x.alone s.cells).result ∧
      s'.cells = (x.alone s.cells).cells ∧ ∀ u, u ≠ t → s'.todo u = s.todo u :=
  Program.alone_runs (handlersMonitor_bare δ η π) hi ht (hx none)

/-- A thread gets to any of its calls, and what the earlier ones do not change is as it was. -/
theorem reaches_connectionCall {earlier later : List (ConnectionCall δ η π × BusOutcome)}
    (hi : s.Idle) (ht : s.todo t = ConnectionCall.program parse performed t)
    (hp : performed t = earlier ++ call :: later) :
    ∃ s' k, Program.Runs s s' ∧ s'.Idle ∧ s'.todo t = (call.1.perform parse call.2).bind k ∧
      (∀ c, (∀ call ∈ earlier, call.1.changes parse call.2 c = false) →
        s'.cells c = s.cells c) ∧ ∀ u, u ≠ t → s'.todo u = s.todo u := by
  rw [ConnectionCall.program, hp, List.map_append, Program.each_append] at ht
  have hw : Program.Within (handlersMonitor δ η π False) (fun held _ => held = none)
      (Program.each (earlier.map fun call => call.1.perform parse call.2)) none := by
    apply Program.within_each
    intro p hp
    obtain ⟨call, -, rfl⟩ := List.mem_map.1 hp
    exact call.1.perform_within parse call.2 fun _ h => h
  obtain ⟨s', hr, hi', ht', hc, hu⟩ :=
    Program.alone_runs (handlersMonitor_bare δ η π) hi ht hw
  refine ⟨s', _, hr, hi', ht', ?_, hu⟩
  intro c hn
  rw [hc]
  have huses : (Program.each (earlier.map fun call => call.1.perform parse call.2)).Uses
      (fun _ => True) (fun c' f => c' = c → ∀ b, f b = b) fun _ => True := by
    apply Program.Uses.each
    intro p hp
    obtain ⟨call, hcall, rfl⟩ := List.mem_map.1 hp
    apply (call.1.perform_footprint parse call.2).mono fun _ _ => trivial
    rintro c' f ⟨-, hf⟩ rfl
    by_contra hne
    have hchanges := hf (not_forall.1 hne)
    rw [hn call hcall] at hchanges
    cases hchanges
  exact huses.alone_cell (fun f hf => hf rfl) s.cells

theorem clearObjects_alone {c : ConnectionField} (hx : c ≠ .exports) (ho : c ≠ .registeredObjects)
    (cells : (c : ConnectionField) → ConnectionCell δ η π c) :
    ((clearObjects : ConnectionThread δ η π Unit).alone cells).cells c = cells c := by
  have h := footprint_clearObjects (T := fun _ => true)
    (C := fun c' => c' == .exports || c' == .registeredObjects) (δ := δ) (η := η) (π := π)
    (fun _ => rfl) rfl rfl
  apply h.alone_cell
  intro f hf
  by_contra hne
  have hc := hf.2 (not_forall.1 hne)
  simp [hx, ho] at hc

theorem clearHandlers_alone {c : ConnectionField} (hs : c ≠ .subscriptions)
    (hh : c ≠ .signalHandlers) (cells : (c : ConnectionField) → ConnectionCell δ η π c) :
    ((clearHandlers : ConnectionThread δ η π Unit).alone cells).cells c = cells c := by
  have h := footprint_clearHandlers (T := fun _ => true)
    (C := fun c' => c' == .subscriptions || c' == .signalHandlers) (δ := δ) (η := η) (π := π)
    (fun _ => rfl) rfl rfl
  apply h.alone_cell
  intro f hf
  by_contra hne
  have hc := hf.2 (not_forall.1 hne)
  simp [hs, hh] at hc

/-- `disconnect` up to where it looks at the pointer. -/
theorem reaches_reset (hi : s.Idle)
    (ht : s.todo t = (ConnectionCall.perform parse out .disconnect).bind k) :
    ∃ s', Program.Runs s s' ∧ s'.Idle ∧
      s'.todo t = ((reset >>= fun _ => pure true) >>= fun _ => pure ()).bind k ∧
      s'.cells .connection = s.cells .connection ∧ s'.cells .closed = s.cells .closed ∧
        ∀ u, u ≠ t → s'.todo u = s.todo u := by
  have ha := handlersMonitor_aside δ η π False
  have ht₁ := (ht.trans (Program.bind_assoc disconnect _ k)).trans
    (Program.bind_assoc clearObjects _ _)
  obtain ⟨s₁, hr₁, hi₁, ht₁, hc₁, hu₁⟩ := runs_spared (spared_clearObjects ha) hi ht₁
  have ht₂ := ht₁.trans (Program.bind_assoc clearHandlers _ _)
  obtain ⟨s₂, hr₂, hi₂, ht₂, hc₂, hu₂⟩ := runs_spared
    (spared_clearHandlers ha (fun h => h.1) (fun h => h.1)) hi₁ ht₂
  refine ⟨s₂, hr₁.trans hr₂, hi₂, ?_, ?_, ?_, fun u hu => (hu₂ u hu).trans (hu₁ u hu)⟩
  · exact ht₂.trans (Program.bind_assoc _ _ k).symm
  · rw [hc₂, clearHandlers_alone (by decide) (by decide), hc₁,
      clearObjects_alone (by decide) (by decide)]
  · rw [hc₂, clearHandlers_alone (by decide) (by decide), hc₁,
      clearObjects_alone (by decide) (by decide)]

/-- A call that reads the pointer gets to where it does. -/
theorem reaches_pointer {call : ConnectionCall δ η π} (hi : s.Idle)
    (ht : s.todo t = (call.perform parse out).bind k) (hc : call.readsConnection = true) :
    ∃ s' p, Program.Runs s s' ∧ s'.Idle ∧ s'.todo t = .peek .connection p ∧
      s'.cells .connection = s.cells .connection ∧ s'.cells .closed = s.cells .closed ∧
        ∀ u, u ≠ t → s'.todo u = s.todo u := by
  cases call with
  | handleSignal => cases hc
  | disconnect =>
    obtain ⟨s', hr, hi', ht', hc', hd', hu⟩ := reaches_reset hi ht
    exact ⟨s', _, hr, hi', ht', hc', hd', hu⟩
  | _ => exact ⟨s, _, .refl, hi, ht, rfl, rfl, fun _ _ => rfl⟩

theorem isConnected_null {cells : (c : ConnectionField) → ConnectionCell δ η π c}
    (h : cells .connection = false) :
    ((isConnected out : ConnectionThread δ η π Bool).alone cells).result = false := by
  change ((if (!(cells .connection : Bool)) = true then (pure false : ConnectionThread δ η π Bool)
    else _).alone cells).result = false
  rw [h]
  rfl

theorem isConnected_live {cells : (c : ConnectionField) → ConnectionCell δ η π c}
    (h : cells .connection = true) :
    ((isConnected out : ConnectionThread δ η π Bool).alone cells).result =
      !(Bool.or (cells .closed) out.closed) := by
  have hr : ((isConnected out : ConnectionThread δ η π Bool).alone cells).result =
      ((if (!(cells .connection : Bool)) = true then (pure false : ConnectionThread δ η π Bool)
        else get >>= fun connection => isClosed out connection >>= fun closed => pure !closed).alone
          cells).result := rfl
  rw [hr, h]
  change ((isClosed out (cells .connection) >>= fun closed => (pure !closed :
    ConnectionThread δ η π Bool)).alone cells).result = _
  rw [h]
  rfl

theorem isConnected_opened {cells : (c : ConnectionField) → ConnectionCell δ η π c}
    (h : cells .connection = true) (hc : cells .closed = false) (ho : out.closed = false) :
    ((isConnected out : ConnectionThread δ η π Bool).alone cells).result = true := by
  rw [isConnected_live h, hc, ho]
  rfl

theorem isConnected_closed {cells : (c : ConnectionField) → ConnectionCell δ η π c}
    (h : cells .connection = true) (hc : cells .closed = true) :
    ((isConnected out : ConnectionThread δ η π Bool).alone cells).result = false := by
  rw [isConnected_live h, hc]
  rfl

/-- `connect` without a connection, or `disconnect` with one, gets to where it assigns the
pointer. -/
theorem reaches_assignment {call : ConnectionCall δ η π} (hi : s.Idle)
    (ht : s.todo t = (call.perform parse out).bind k) (hc : call.setsConnection = true)
    (ho : out.accepted = true)
    (hs : s.cells .connection = (call.changes parse out .registeredObjects : Bool)) :
    ∃ s' f p, Program.Runs s s' ∧ s'.todo t = .access .connection f p ∧ (∃ b, f b ≠ b) ∧
      ∀ u, u ≠ t → s'.todo u = s.todo u := by
  have ha := handlersMonitor_aside δ η π False
  cases call with
  | connect =>
    have ht₁ := (ht.trans (Program.bind_assoc (connect out) _ k)).trans
      (Program.bind_assoc (isConnected out) _ _)
    obtain ⟨s₁, hr₁, hi₁, ht₁, hc₁, hu₁⟩ := runs_spared (spared_isConnected ha) hi ht₁
    rw [isConnected_null hs] at ht₁
    have ht₂ : s₁.todo t = ((if (!out.accepted) = true then pure false else
        refresh >>= fun _ => setConnection true >>= fun _ => discard get >>= fun _ => pure true :
          ConnectionThread δ η π Bool)).bind _ := ht₁
    rw [ho] at ht₂
    have ht₃ := ht₂.trans (Program.bind_assoc refresh _ _)
    obtain ⟨s₂, hr₂, hi₂, ht₃, hc₂, hu₂⟩ := runs_spared
      (spared_refresh ha fun h => h.1) hi₁ ht₃
    exact ⟨s₂, _, _, hr₁.trans hr₂, ht₃, ⟨false, Bool.false_ne_true.symm⟩,
      fun u hu => (hu₂ u hu).trans (hu₁ u hu)⟩
  | disconnect =>
    obtain ⟨s₁, hr₁, hi₁, ht₁, hc₁, -, hu₁⟩ := reaches_reset hi ht
    have ht₂ := (ht₁.trans (Program.bind_assoc _ _ k)).trans (Program.bind_assoc reset _ _)
    have ht₃ := ht₂.trans (Program.bind_assoc get _ _)
    obtain ⟨s₂, hr₂, hi₂, ht₃, hc₂, hu₂⟩ := runs_spared (spared_get ha) hi₁ ht₃
    have hget : ((get : ConnectionThread δ η π Bool).alone s₁.cells).result = true :=
      hc₁.trans hs
    rw [hget] at ht₃
    exact ⟨s₂, _, _, hr₁.trans hr₂, ht₃, ⟨true, Bool.false_ne_true⟩,
      fun u hu => (hu₂ u hu).trans (hu₁ u hu)⟩
  | _ => cases hc

/-- The two threads race for the pointer. -/
theorem pointer_race (hi : s.Idle) (htu : t ≠ u)
    (ht : s.todo t = ConnectionCall.program parse performed t)
    (hu : s.todo u = ConnectionCall.program parse performed u)
    {earlier later earlier' later' : List (ConnectionCall δ η π × BusOutcome)}
    (hp : performed t = earlier ++ call :: later) (hq : performed u = earlier' ++ call' :: later')
    (he : ∀ call ∈ earlier, call.1.setsConnection = false)
    (he' : ∀ call ∈ earlier', call.1.setsConnection = false)
    (hc : call.1.setsConnection = true) (hc' : call'.1.readsConnection = true)
    (ho : call.2.accepted = true)
    (hs : s.cells .connection = (call.1.changes parse call.2 .registeredObjects : Bool)) :
    ∃ s', Program.Runs s s' ∧ DataRace s' t u .connection := by
  obtain ⟨s₁, k₁, hr₁, hi₁, hu₁, hs₁, ho₁⟩ := reaches_connectionCall hi hu hq
  obtain ⟨s₂, p, hr₂, hi₂, hu₂, hs₂, -, ho₂⟩ := reaches_pointer hi₁ hu₁ hc'
  have ht₂ := ((ho₂ t htu).trans (ho₁ t htu)).trans ht
  obtain ⟨s₃, k₃, hr₃, hi₃, ht₃, hs₃, ho₃⟩ := reaches_connectionCall hi₂ ht₂ hp
  have hpointer := ((hs₃ .connection he).trans (hs₂.trans (hs₁ .connection he'))).trans hs
  obtain ⟨s₄, f, q, hr₄, ht₄, hf, ho₄⟩ := reaches_assignment hi₃ ht₃ hc ho hpointer
  have hu₄ := ((ho₄ u htu.symm).trans (ho₃ u htu.symm)).trans hu₂
  exact ⟨s₄, ((hr₁.trans hr₂).trans hr₃).trans hr₄, rfl, htu, ⟨f, q, ht₄, hf⟩, .inl ⟨p, hu₄⟩⟩

/-- A signal is delivered while `disconnect` clears the handlers. -/
theorem handlers_race [Inhabited η] (hi : s.Idle) (htu : t ≠ u)
    (ht : s.todo t = ConnectionCall.program parse performed t)
    (hu : s.todo u = ConnectionCall.program parse performed u)
    {earlier later later' : List (ConnectionCall δ η π × BusOutcome)}
    (hp : performed t = earlier ++ (.disconnect, out) :: later)
    (hq : performed u = (.handleSignal signal, out') :: later') :
    ∃ s', Program.Runs s s' ∧ DataRace s' t u .signalHandlers := by
  have ha := handlersMonitor_aside δ η π False
  obtain ⟨s₁, k, hr₁, hi₁, ht₁, -, ho₁⟩ := reaches_connectionCall hi ht hp
  have ht₂ := (ht₁.trans (Program.bind_assoc disconnect _ k)).trans
    (Program.bind_assoc clearObjects _ _)
  obtain ⟨s₂, hr₂, hi₂, ht₂, -, ho₂⟩ := runs_spared (spared_clearObjects ha) hi₁ ht₂
  have ht₃ := (ht₂.trans (Program.bind_assoc clearHandlers _ _)).trans
    (Program.bind_assoc unsubscribeAll _ _)
  obtain ⟨s₃, hr₃, hi₃, ht₃, -, ho₃⟩ := runs_spared
    (spared_unsubscribeAll ha (fun h => h.1) fun h => h.1) hi₂ ht₃
  rw [ConnectionCall.program, hq] at hu
  have hu₃ := (((ho₃ u htu.symm).trans (ho₂ u htu.symm)).trans (ho₁ u htu.symm)).trans hu
  have hacquired := Program.Step.acquire hu₃ (hi₃ .mutex)
  have ht₄ := (hacquired.rest.2 t htu).trans ht₃
  exact ⟨_, ((hr₁.trans hr₂).trans hr₃).tail ⟨u, hacquired⟩, rfl, htu,
    ⟨_, _, ht₄, clears_handlers η⟩, .inr ⟨_, _, s₃.todo_move _ _ _ _ _⟩⟩

theorem isConnected_cells (ho : out.closed = false)
    (cells : (c : ConnectionField) → ConnectionCell δ η π c) :
    ((isConnected out : ConnectionThread δ η π Bool).alone cells).cells = cells := by
  have h := footprint_isConnected (T := fun _ => true) (C := fun _ => out.closed)
    (δ := δ) (η := η) (π := π) ⟨rfl, rfl, id⟩
  funext c
  apply h.alone_cell
  intro f hf
  by_contra hne
  have hc := hf.2 (not_forall.1 hne)
  rw [ho] at hc
  cases hc

theorem registerInterfaces_alone (path : DBusObjectPath) (data : δ) (interfaces : List String)
    (refuses : List Bool) (id : Nat) {cells : (c : ConnectionField) → ConnectionCell δ η π c}
    (h : cells .connection = true) :
    let e := (registerInterfaces path data interfaces refuses id :
      ConnectionThread δ η π Nat).alone cells
    e.result =
        (DBusConnection.registerInterfaces path data interfaces refuses id (cells .exports)).1 ∧
      e.cells .connection = cells .connection ∧ e.cells .closed = cells .closed := by
  induction interfaces generalizing refuses id cells with
  | nil => exact ⟨rfl, rfl, rfl⟩
  | cons interface interfaces ih =>
    have hunfold : (registerInterfaces path data (interface :: interfaces) refuses id :
        ConnectionThread δ η π Nat).alone cells =
        (gdbus (cells .connection) (access .exports
          (fun t => (GDBus.registerObject (refuses.headD false) ⟨path, interface, data⟩ t).2)
          fun t => (GDBus.registerObject (refuses.headD false) ⟨path, interface, data⟩ t).1) 0 >>=
            fun id => registerInterfaces path data interfaces refuses.tail id :
              ConnectionThread δ η π Nat).alone cells := rfl
    have hother (c : ConnectionField) (hc : c ≠ .exports)
        (t : ConnectionCell δ η π .exports) : Function.update cells .exports t c = cells c :=
      Function.update_of_ne hc t cells
    obtain ⟨hr, hp, hd⟩ := ih refuses.tail
      (GDBus.registerObject (refuses.headD false) ⟨path, interface, data⟩ (cells .exports)).1
      ((hother .connection (by decide) _).trans h)
    rw [hother .connection (by decide)] at hp
    rw [hother .closed (by decide)] at hd
    rw [Function.update_self] at hr
    rw [hunfold, h]
    rw [h] at hp
    exact ⟨hr, hp, hd⟩

/-- A call that goes on with an open connection. -/
theorem runs_connected {x : ConnectionThread δ η π Bool} (hi : s.Idle)
    (ht : s.todo t = (discard (isConnected out >>= fun connected =>
      if !connected then pure refusal else x)).bind k)
    (hc : s.cells .connection = true) (hd : s.cells .closed = false) (ho : out.closed = false) :
    ∃ s', Program.Runs s s' ∧ s'.Idle ∧ s'.todo t = (discard x).bind k ∧ s'.cells = s.cells ∧
      ∀ u, u ≠ t → s'.todo u = s.todo u := by
  have ht₁ := (ht.trans (Program.bind_assoc _ _ k)).trans
    (Program.bind_assoc (isConnected out) _ _)
  obtain ⟨s', hr, hi', ht₁, hcells, hu⟩ := runs_spared
    (spared_isConnected (handlersMonitor_aside δ η π False)) hi ht₁
  rw [isConnected_opened hc hd ho] at ht₁
  exact ⟨s', hr, hi', ht₁.trans (Program.bind_assoc x _ k).symm,
    hcells.trans (isConnected_cells ho _), hu⟩

/-- A call that reads the registered objects gets to where it does. -/
theorem reaches_objects {call : ConnectionCall δ η π} (hi : s.Idle)
    (ht : s.todo t = (call.perform parse out).bind k) (hn : call.setsConnection = false)
    (hu : call.usesObjects = true) (hc : s.cells .connection = true)
    (hd : s.cells .closed = false) (ho : out.closed = false) :
    ∃ s' p, Program.Runs s s' ∧ s'.todo t = .peek .registeredObjects p ∧
      ∀ u, u ≠ t → s'.todo u = s.todo u := by
  cases call with
  | disconnect => cases hn
  | registerObject path xml data =>
    obtain ⟨s', hr, -, ht', -, hu'⟩ := runs_connected hi ht hc hd ho
    exact ⟨s', _, hr, ht', hu'⟩
  | unregisterObject path =>
    obtain ⟨s', hr, -, ht', -, hu'⟩ := runs_connected hi ht hc hd ho
    exact ⟨s', _, hr, ht', hu'⟩
  | _ => cases hu

/-- GDBus takes the last interface of the document that a call registers, and no other. GLib
goes on. -/
def ConnectionCall.yielding (parse : String → Option (List String)) :
    ConnectionCall δ η π → BusOutcome
  | .registerObject _ xml _ =>
    ⟨true, List.replicate (((parse xml).getD []).length - 1) true, false, true⟩
  | _ => ⟨true, [], false, true⟩

/-- The connection takes what the call registers, or has what it unregisters. -/
def ConnectionCall.Fits (registeredObjects : Std.TreeMap String Nat)
    (exports : IdTable (Export δ)) : ConnectionCall δ η π → Prop
  | .registerObject path _ _ => registeredObjects.contains path.toString = false ∧
      ∀ interface, GDBus.exported exports path interface = false
  | .unregisterObject path => ∃ id, registeredObjects[path.toString]? = some id ∧
      (GDBus.unregisterObject id exports).1 = true
  | _ => True

theorem registerInterfaces_new {t : IdTable (Export δ)} {data : δ}
    (h : ∀ interface, GDBus.exported t path interface = false) :
    (DBusConnection.registerInterfaces path data (init ++ [last])
      (List.replicate init.length true) 0 t).1 ≠ 0 := by
  rw [DBusConnection.registerInterfaces_last, GDBus.registerObject, h]
  exact Nat.succ_ne_zero _

/-- `registerObject` gets to where it stores the id. -/
theorem reaches_insertion {path : DBusObjectPath} {xml : String} {data : δ} (hi : s.Idle)
    (ht : s.todo t = (discard (registerObject parse out path xml data)).bind k)
    (hp : parse xml = some (init ++ [last]))
    (hrefuses : out.refuses = List.replicate init.length true)
    (ho : out.closed = false) (hc : s.cells .connection = true) (hd : s.cells .closed = false)
    (hfound : Std.TreeMap.contains (s.cells .registeredObjects) path.toString = false)
    (hexported : ∀ interface, GDBus.exported (s.cells .exports) path interface = false) :
    ∃ s' f p, Program.Runs s s' ∧ s'.Idle ∧ s'.todo t = .access .registeredObjects f p ∧
      (∃ b, f b ≠ b) ∧ s'.cells .connection = true ∧ s'.cells .closed = false ∧
        ∀ u, u ≠ t → s'.todo u = s.todo u := by
  have ha := handlersMonitor_aside δ η π False
  obtain ⟨s₁, hr₁, hi₁, ht₁, hc₁, hu₁⟩ := runs_connected hi ht hc hd ho
  have ht₂ := (ht₁.trans (Program.bind_assoc _ _ k)).trans
    (Program.bind_assoc (objects fun m => m.contains path.toString) _ _)
  obtain ⟨s₂, hr₂, hi₂, ht₂, hc₂, hu₂⟩ := runs_spared (spared_objects ha _) hi₁ ht₂
  have hcells : s₂.cells = s.cells := hc₂.trans hc₁
  have hlooked : ((objects fun m => m.contains path.toString :
      ConnectionThread δ η π Bool).alone s₁.cells).result = false := by
    rw [hc₁]
    exact hfound
  rw [hlooked] at ht₂
  simp only [hp, Bool.false_eq_true, if_false] at ht₂
  have ht₃ := ht₂.trans
    (Program.bind_assoc (registerInterfaces path data (init ++ [last]) out.refuses 0) _ _)
  obtain ⟨s₃, hr₃, hi₃, ht₃, hc₃, hu₃⟩ := runs_spared
    (spared_registerInterfaces ha _ _ _) hi₂ ht₃
  have hc₂ : s₂.cells .connection = true := by
    rw [hcells]
    exact hc
  obtain ⟨hid, hpointer, hclosed⟩ :=
    registerInterfaces_alone (η := η) (π := π) path data (init ++ [last]) out.refuses 0 hc₂
  rw [hrefuses, hcells] at hid
  rw [hrefuses, hcells, if_neg (hid.symm ▸ registerInterfaces_new hexported)] at ht₃
  refine ⟨s₃, _, _, (hr₁.trans hr₂).trans hr₃, hi₃, ht₃, inserts_object _ _, ?_, ?_,
    fun u hu => ((hu₃ u hu).trans (hu₂ u hu)).trans (hu₁ u hu)⟩
  · rw [hc₃, hpointer, hc₂]
  · rw [hc₃, hclosed, hcells, hd]

/-- `unregisterObject` gets to where it erases the id. -/
theorem reaches_erasure {path : DBusObjectPath} {id : Nat} (hi : s.Idle)
    (ht : s.todo t = (discard (unregisterObject out path)).bind k)
    (ho : out.closed = false) (hc : s.cells .connection = true) (hd : s.cells .closed = false)
    (hid : Std.TreeMap.get? (s.cells .registeredObjects) path.toString = some id)
    (hx : (GDBus.unregisterObject id (s.cells .exports)).1 = true) :
    ∃ s' f p, Program.Runs s s' ∧ s'.Idle ∧ s'.todo t = .access .registeredObjects f p ∧
      (∃ b, f b ≠ b) ∧ s'.cells .connection = true ∧ s'.cells .closed = false ∧
        ∀ u, u ≠ t → s'.todo u = s.todo u := by
  have ha := handlersMonitor_aside δ η π False
  let erase : ConnectionThread δ η π Bool :=
    access .exports (fun t => (GDBus.unregisterObject id t).2)
      fun t => (GDBus.unregisterObject id t).1
  obtain ⟨s₁, hr₁, hi₁, ht₁, hc₁, hu₁⟩ := runs_connected hi ht hc hd ho
  have ht₂ := (ht₁.trans (Program.bind_assoc _ _ k)).trans
    (Program.bind_assoc (objects fun m => m[path.toString]?) _ _)
  obtain ⟨s₂, hr₂, hi₂, ht₂, hc₂, hu₂⟩ := runs_spared (spared_objects ha _) hi₁ ht₂
  have hcells : s₂.cells = s.cells := hc₂.trans hc₁
  have hlooked : ((objects fun m => m[path.toString]? :
      ConnectionThread δ η π (Option Nat)).alone s₁.cells).result = some id := by
    rw [hc₁]
    exact hid
  rw [hlooked] at ht₂
  have ht₃ := ht₂.trans (Program.bind_assoc get _ _)
  obtain ⟨s₃, hr₃, hi₃, ht₃, hc₃, hu₃⟩ := runs_spared (spared_get ha) hi₂ ht₃
  have hget : ((get : ConnectionThread δ η π Bool).alone s₂.cells).result = true := by
    rw [hcells]
    exact hc
  rw [hget] at ht₃
  have ht₄ := ht₃.trans (Program.bind_assoc erase _ _)
  obtain ⟨s₄, hr₄, hi₄, ht₄, hc₄, hu₄⟩ := runs_spared (spared_access ha.exports) hi₃ ht₄
  have hother (c : ConnectionField) (hc : c ≠ .exports) : s₄.cells c = s.cells c := by
    rw [hc₄]
    exact (Function.update_of_ne hc ..).trans (by rw [hc₃]; exact congrFun hcells c)
  have herased : (erase.alone s₃.cells).result = true := by
    rw [hc₃]
    change (GDBus.unregisterObject id (s₂.cells .exports)).1 = true
    rw [hcells]
    exact hx
  rw [herased] at ht₄
  exact ⟨s₄, _, _, ((hr₁.trans hr₂).trans hr₃).trans hr₄, hi₄, ht₄, erases_object _,
    (hother _ (by decide)).trans hc, (hother _ (by decide)).trans hd,
    fun u hu => (((hu₄ u hu).trans (hu₃ u hu)).trans (hu₂ u hu)).trans (hu₁ u hu)⟩

/-- A call that changes the registered objects gets to where it does. -/
theorem reaches_registration {call : ConnectionCall δ η π} (hi : s.Idle)
    (ht : s.todo t = (call.perform parse (call.yielding parse)).bind k)
    (hn : call.setsConnection = false) (hs : call.setsObjects parse = true)
    (hc : s.cells .connection = true) (hd : s.cells .closed = false)
    (hf : call.Fits (s.cells .registeredObjects) (s.cells .exports)) :
    ∃ s' f p, Program.Runs s s' ∧ s'.Idle ∧ s'.todo t = .access .registeredObjects f p ∧
      (∃ b, f b ≠ b) ∧ s'.cells .connection = true ∧ s'.cells .closed = false ∧
        ∀ u, u ≠ t → s'.todo u = s.todo u := by
  cases call with
  | disconnect => cases hn
  | registerObject path xml data =>
    obtain ⟨interfaces, hp, hne⟩ := (Option.any_eq_true _ _).1 hs
    obtain rfl | ⟨init, last, rfl⟩ := List.eq_nil_or_concat interfaces
    · cases hne
    rw [List.concat_eq_append] at hp
    exact reaches_insertion hi ht hp (by simp [ConnectionCall.yielding, hp]) rfl hc hd hf.1 hf.2
  | unregisterObject path =>
    obtain ⟨id, hid, hx⟩ := hf
    exact reaches_erasure hi ht rfl hc hd hid hx
  | _ => cases hs

/-- The two threads race for the registered objects. -/
theorem objects_race (hi : s.Idle) (htu : t ≠ u)
    (ht : s.todo t = ConnectionCall.program parse performed t)
    (hu : s.todo u = ConnectionCall.program parse performed u)
    {earlier later earlier' later' : List (ConnectionCall δ η π × BusOutcome)}
    (hp : performed t = earlier ++ (call, call.yielding parse) :: later)
    (hq : performed u = earlier' ++ call' :: later')
    (he : ∀ call ∈ earlier, call.1.setsConnection = false ∧ call.1.setsObjects parse = false ∧
      call.2.closed = false)
    (he' : ∀ call ∈ earlier', call.1.setsConnection = false ∧ call.2.closed = false)
    (hn : call.setsConnection = false) (hs : call.setsObjects parse = true)
    (hn' : call'.1.setsConnection = false) (hs' : call'.1.usesObjects = true)
    (ho' : call'.2.closed = false)
    (hc : s.cells .connection = true) (hd : s.cells .closed = false)
    (hf : call.Fits (s.cells .registeredObjects) (s.cells .exports)) :
    ∃ s', Program.Runs s s' ∧ DataRace s' t u .registeredObjects := by
  obtain ⟨s₁, k₁, hr₁, hi₁, ht₁, hs₁, ho₁⟩ := reaches_connectionCall hi ht hp
  have hconnection := hs₁ .connection fun call h => (he call h).1
  have hobjects := hs₁ .registeredObjects fun call h => (he call h).2.1
  have hclosed := hs₁ .closed fun call h => by
    obtain ⟨hn, -, ho⟩ := he call h
    simp [ConnectionCall.changes, hn, ho]
  have hexports := hs₁ .exports fun call h => by
    obtain ⟨hn, hs, -⟩ := he call h
    simp [ConnectionCall.changes, hn, hs]
  rw [← hobjects, ← hexports] at hf
  obtain ⟨s₂, f, p, hr₂, hi₂, ht₂, hchanges, hc₂, hd₂, ho₂⟩ :=
    reaches_registration hi₁ ht₁ hn hs (hconnection.trans hc) (hclosed.trans hd) hf
  have hu₂ := ((ho₂ u htu.symm).trans (ho₁ u htu.symm)).trans hu
  obtain ⟨s₃, k₃, hr₃, hi₃, hu₃, hs₃, ho₃⟩ := reaches_connectionCall hi₂ hu₂ hq
  have hc₃ := (hs₃ .connection fun call h => (he' call h).1).trans hc₂
  have hd₃ := (hs₃ .closed fun call h => by
    obtain ⟨hn, ho⟩ := he' call h
    simp [ConnectionCall.changes, hn, ho]).trans hd₂
  obtain ⟨s₄, q, hr₄, hu₄, ho₄⟩ := reaches_objects hi₃ hu₃ hn' hs' hc₃ hd₃ ho'
  have ht₄ := ((ho₄ t htu).trans (ho₃ t htu)).trans ht₂
  exact ⟨s₄, ((hr₁.trans hr₂).trans hr₃).trans hr₄, rfl, htu, ⟨f, p, ht₄, hchanges⟩, .inl ⟨q, hu₄⟩⟩

end Runs

section Calls
variable {δ : Type} {η : Type} {π : Type} {θ : Type} [DecidableEq θ]
variable {parse : String → Option (List String)} {calls : θ → List (ConnectionCall δ η π)}

/-- The calls of the threads, and for each that the bus makes the most of it. -/
def yields (parse : String → Option (List String)) (calls : θ → List (ConnectionCall δ η π))
    (t : θ) : List (ConnectionCall δ η π × BusOutcome) :=
  (calls t).map fun call => (call, call.yielding parse)

theorem ConnectionCall.yielding_closed (call : ConnectionCall δ η π) :
    (call.yielding parse).closed = false := by
  cases call <;> rfl

theorem ConnectionCall.yielding_accepted (call : ConnectionCall δ η π) :
    (call.yielding parse).accepted = true := by
  cases call <;> rfl

omit [DecidableEq θ] in
theorem mem_yields {call : ConnectionCall δ η π × BusOutcome} (h : call ∈ yields parse calls t) :
    call.1 ∈ calls t ∧ call.2.closed = false := by
  obtain ⟨call, hcall, rfl⟩ := List.mem_map.1 h
  exact ⟨hcall, call.yielding_closed⟩

omit [DecidableEq θ] in
/-- The first call of a kind that a thread makes. -/
theorem yields_first (parse : String → Option (List String))
    (p : ConnectionCall δ η π → Bool) (h : ∃ call ∈ calls t, p call = true) :
    ∃ earlier call later, yields parse calls t = earlier ++ (call, call.yielding parse) :: later ∧
      call ∈ calls t ∧ p call = true ∧ ∀ call ∈ earlier, p call.1 = false ∧ call.1 ∈ calls t ∧
        call.2.closed = false := by
  obtain ⟨call, hfind⟩ := Option.isSome_iff_exists.1 (List.find?_isSome.2 h)
  obtain ⟨hp, earlier, later, heq, hn⟩ := List.find?_eq_some_iff_append.1 hfind
  have hmap : yields parse calls t = (earlier.map fun call => (call, call.yielding parse)) ++
      (call, call.yielding parse) :: later.map fun call => (call, call.yielding parse) := by
    rw [yields, heq, List.map_append, List.map_cons]
  refine ⟨_, call, _, hmap, List.mem_of_find?_eq_some hfind, hp, ?_⟩
  intro call' hcall'
  have hmem : call' ∈ yields parse calls t := hmap ▸ List.mem_append_left _ hcall'
  obtain ⟨hcalls, hclosed⟩ := mem_yields hmem
  obtain ⟨e, he, rfl⟩ := List.mem_map.1 hcall'
  exact ⟨by simpa using hn e he, hcalls, hclosed⟩

/-- Two threads of a program come to race while the process is there, from a connection that is
consistent. -/
def Races (parse : String → Option (List String))
    (performed : θ → List (ConnectionCall δ η π × BusOutcome)) : Prop :=
  ∃ c : DBusConnection δ η, c.Consistent ∧ ∃ s t u f,
    Program.LiveRuns processEnded
      (Program.start c.cells (ConnectionCall.program parse performed)) s ∧ DataRace s t u f ∧
        processEnded s.cells = false

theorem ConnectionCall.yielding_goesOn (call : ConnectionCall δ η π) :
    (call.yielding parse).goesOn = true := by
  cases call <;> rfl

/-- Where the bus makes the most of the calls, nothing ends the process. -/
theorem races_yields {c : DBusConnection δ η} (hc : c.Consistent)
    (hr : Program.Runs
      (Program.start c.cells (ConnectionCall.program parse (yields parse calls))) s)
    (hrace : DataRace s t u f) : Races parse (yields parse calls) := by
  have halive : processEnded s.cells = false := by
    by_contra hended
    obtain ⟨v, call, hcall, hgoes, -⟩ := ended_by hr rfl (Bool.of_not_eq_false hended)
    obtain ⟨call, -, rfl⟩ := List.mem_map.1 hcall
    rw [call.yielding_goesOn] at hgoes
    cases hgoes
  exact ⟨c, hc, s, t, u, f, runs_live hr halive, hrace, halive⟩

def opened (δ : Type) (η : Type) : DBusConnection δ η :=
  ((DBusConnection.constructed δ η).connect true).2

theorem opened_connection : (opened δ η).connection = .opened := by
  simp [opened, DBusConnection.connect, DBusConnection.constructed, DBusConnection.isConnected]

theorem opened_consistent : (opened δ η).Consistent where
  cleared := fun h => by simp [opened_connection] at h
  objects := by simp [opened, DBusConnection.connect, DBusConnection.constructed,
    DBusConnection.isConnected]
  watches := by simp [opened, DBusConnection.connect, DBusConnection.constructed,
    DBusConnection.isConnected]

/-- A connection with one object. -/
def holding (path : DBusObjectPath) (data : δ) : DBusConnection δ η :=
  { opened δ η with
    exports := (IdTable.empty _).insert ⟨path, "", data⟩
    registeredObjects := (∅ : Std.TreeMap String Nat).insert path.toString 1 }

theorem holding_consistent (path : DBusObjectPath) (data : δ) :
    (holding path data : DBusConnection δ η).Consistent where
  cleared := fun h => by simp [holding, opened_connection] at h
  objects := by
    intro _ path' id hid
    rw [holding, Std.TreeMap.getElem?_insert] at hid
    split at hid
    · next hpath =>
      cases hid
      exact ⟨⟨path, "", data⟩, List.mem_cons_self, Std.LawfulEqOrd.eq_of_compare hpath⟩
    · simp at hid
  watches := opened_consistent.watches

/-- The connection to start from for the call to do all that it may. -/
def ConnectionCall.setting [Inhabited δ] : ConnectionCall δ η π → DBusConnection δ η
  | .connect => .constructed δ η
  | .unregisterObject path => holding path default
  | _ => opened δ η

theorem ConnectionCall.setting_consistent [Inhabited δ] (call : ConnectionCall δ η π) :
    call.setting.Consistent := by
  cases call with
  | connect => exact DBusConnection.constructed_consistent
  | unregisterObject path => exact holding_consistent path default
  | _ => exact opened_consistent

theorem ConnectionCall.setting_fits [Inhabited δ] (call : ConnectionCall δ η π) :
    call.Fits call.setting.registeredObjects call.setting.exports := by
  cases call with
  | registerObject path xml data =>
    simp [Fits, setting, opened, DBusConnection.connect, DBusConnection.constructed,
      DBusConnection.isConnected, GDBus.exported]
  | unregisterObject path =>
    refine ⟨1, ?_, ?_⟩
    · simp [setting, holding]
    · simp [setting, holding, GDBus.unregisterObject, IdTable.contains, IdTable.empty]
  | _ => trivial

theorem setter_races [Inhabited δ] [Inhabited η] {call call' : ConnectionCall δ η π} (htu : t ≠ u)
    (hcall : call ∈ calls t) (hcall' : call' ∈ calls u) (hs : call.setsConnection = true)
    (h : call'.readsConnection = true ∨ call = .disconnect) :
    Races parse (yields parse calls) := by
  have hidle (c : DBusConnection δ η) : (Program.start c.cells
      (ConnectionCall.program parse (yields parse calls))).Idle := fun _ => rfl
  by_cases hr : ∃ call' ∈ calls u, call'.readsConnection = true
  · obtain ⟨earlier, a, later, hp, -, ha, he⟩ :=
      yields_first parse ConnectionCall.setsConnection ⟨call, hcall, hs⟩
    obtain ⟨earlier', b, later', hq, -, hb, he'⟩ :=
      yields_first parse ConnectionCall.readsConnection hr
    have hpointer : a.setting.cells (π := π) .connection =
        a.changes parse (a.yielding parse) .registeredObjects := by
      cases a with
      | connect => rfl
      | disconnect => rfl
      | _ => cases ha
    obtain ⟨s, hruns, hrace⟩ := pointer_race (hidle a.setting) htu rfl rfl hp hq
      (fun call h => (he call h).1)
      (fun call h => by
        have hreads := (he' call h).1
        obtain ⟨call, out⟩ := call
        cases call <;> first | rfl | cases hreads)
      ha hb a.yielding_accepted hpointer
    exact races_yields a.setting_consistent hruns hrace
  · have hsignals : ∀ call ∈ calls u, ∃ signal, call = .handleSignal signal := by
      intro call hc
      cases call with
      | handleSignal signal => exact ⟨signal, rfl⟩
      | _ => exact absurd ⟨_, hc, rfl⟩ hr
    obtain rfl := h.resolve_left fun hread => hr ⟨call', hcall', hread⟩
    have hmem : (ConnectionCall.disconnect, ConnectionCall.disconnect.yielding parse) ∈
        yields parse calls t := List.mem_map_of_mem hcall
    obtain ⟨earlier, later, hp⟩ := List.append_of_mem hmem
    cases hcalls : calls u with
    | nil =>
      rw [hcalls] at hcall'
      cases hcall'
    | cons first rest =>
      obtain ⟨signal, rfl⟩ := hsignals first (hcalls ▸ List.mem_cons_self)
      have hq : yields parse calls u = (.handleSignal signal, ⟨true, [], false, true⟩) ::
          rest.map fun call => (call, call.yielding parse) := by
        rw [yields, hcalls]
        rfl
      obtain ⟨s, hruns, hrace⟩ := handlers_race (hidle (opened δ η)) htu rfl rfl hp hq
      exact races_yields opened_consistent hruns hrace

theorem object_races [Inhabited δ] [Inhabited η] {call call' : ConnectionCall δ η π}
    (htu : t ≠ u) (hcall : call ∈ calls t) (hcall' : call' ∈ calls u)
    (hs : call.setsObjects parse = true) (hs' : call'.usesObjects = true) :
    Races parse (yields parse calls) := by
  have hread : ∀ call : ConnectionCall δ η π, call.usesObjects = true →
      call.readsConnection = true := by
    intro call h
    cases call <;> first | rfl | cases h
  have hused : ∀ call : ConnectionCall δ η π, call.setsObjects parse = true →
      call.usesObjects = true := by
    intro call h
    cases call <;> first | rfl | cases h
  -- A call that sets the pointer races already.
  by_cases ht : ∃ a ∈ calls t, a.setsConnection = true
  · obtain ⟨a, ha, hset⟩ := ht
    exact setter_races htu ha hcall' hset (.inl (hread _ hs'))
  by_cases hu : ∃ b ∈ calls u, b.setsConnection = true
  · obtain ⟨b, hb, hset⟩ := hu
    exact setter_races htu.symm hb hcall hset (.inl (hread _ (hused _ hs)))
  have hn : ∀ a ∈ calls t, a.setsConnection = false := fun a ha =>
    Bool.eq_false_iff.2 fun h => ht ⟨a, ha, h⟩
  have hn' : ∀ b ∈ calls u, b.setsConnection = false := fun b hb =>
    Bool.eq_false_iff.2 fun h => hu ⟨b, hb, h⟩
  obtain ⟨earlier, a, later, hp, hmem, ha, he⟩ :=
    yields_first parse (ConnectionCall.setsObjects parse) ⟨call, hcall, hs⟩
  obtain ⟨earlier', b, later', hq, hmem', hb, he'⟩ :=
    yields_first parse ConnectionCall.usesObjects ⟨call', hcall', hs'⟩
  have hopened : a.setting.connection = .opened := by
    have hset := hn a hmem
    cases a with
    | connect => cases hset
    | unregisterObject path => exact opened_connection (δ := δ) (η := η)
    | _ => exact opened_connection
  obtain ⟨s, hruns, hrace⟩ := objects_race
    (s := Program.start a.setting.cells (ConnectionCall.program parse (yields parse calls)))
    (fun _ => rfl) htu rfl rfl hp hq
    (fun call h => ⟨hn _ (he call h).2.1, (he call h).1, (he call h).2.2⟩)
    (fun call h => ⟨hn' _ (he' call h).2.1, (he' call h).2.2⟩)
    (hn a hmem) ha (hn' b hmem') hb b.yielding_closed
    (congrArg (fun c => c != GDBusConnectionPtr.null) hopened)
    (congrArg (fun c => c == GDBusConnectionPtr.closed) hopened)
    a.setting_fits
  exact races_yields a.setting_consistent hruns hrace

/-- Two threads may come to race exactly if they make calls that must not be made at once. -/
theorem connection_races_iff [Inhabited δ] [Inhabited η] :
    (∃ performed : θ → List (ConnectionCall δ η π × BusOutcome),
      (∀ t, (performed t).map Prod.fst = calls t) ∧ Races parse performed) ↔
      CallsConflict parse calls := by
  apply Iff.intro
  · rintro ⟨performed, hcalls, c, -, s, t, u, f, hruns, hrace, -⟩
    have hconflict := calls_conflict hruns.runs hrace
    rwa [funext hcalls] at hconflict
  · rintro ⟨t, u, htu, call, hcall, call', hcall', hconflict⟩
    have hcalls (v : θ) : (yields parse calls v).map Prod.fst = calls v :=
      List.map_map.trans (List.map_id _)
    refine ⟨yields parse calls, hcalls, ?_⟩
    cases hconflict with
    | disconnect => exact setter_races htu hcall hcall' rfl (.inr rfl)
    | connect h => exact setter_races htu hcall hcall' rfl (.inl h)
    | objects h h' => exact object_races htu hcall hcall' h h'

end Calls
end Ggk
