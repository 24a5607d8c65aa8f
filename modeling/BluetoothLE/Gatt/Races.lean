import BluetoothLE.Gatt.Interleaving

namespace Ggk
open Lib Gatt
set_option autoImplicit true

/-- An access that can change the value of the characteristic. -/
def Writes : (g : Guard) → (Cell g → Cell g) → Prop
  | .mutex .valueMutex, f => ∃ b, Prod.fst (f b) ≠ Prod.fst b
  | _, _ => False

namespace Threaded

/-- The code reads without a mutex only what `P` allows, and changes the value of the
characteristic only if `stores`. -/
def Touches (P : Guard → Prop) (stores : Prop) (Q : Except Thrown α → Prop) (x : Threaded α) :
    Prop :=
  x.run.Uses P (fun g f => Writes g f → stores) Q

section Rules
variable {P : Guard → Prop} {stores : Prop} {Q : Except Thrown α → Prop}

theorem touches_pure (h : Q (.ok a)) : Touches P stores Q (pure a) := Program.Uses.done h

theorem touches_throw (h : Q (.error e)) : Touches P stores Q (throw e) := Program.Uses.done h

theorem touches_bind {x : Threaded β} {k : β → Threaded α}
    (h : Touches P stores (fun r => match r with
      | .ok b => Touches P stores Q (k b)
      | .error e => Q (.error e)) x) : Touches P stores Q (x >>= k) := by
  apply Program.Uses.bind h
  intro r hr
  cases r with
  | ok b => exact hr
  | error e => exact Program.Uses.done hr

/-- Code that may end in any way goes on with what keeps to it. -/
theorem touches_then {x : Threaded β} {k : β → Threaded α} (hQ : ∀ r, Q r)
    (hx : ∀ {R : Except Thrown β → Prop}, (∀ r, R r) → Touches P stores R x)
    (hk : ∀ b, Touches P stores Q (k b)) : Touches P stores Q (x >>= k) := by
  apply touches_bind
  apply hx
  intro r
  cases r with
  | ok b => exact hk b
  | error e => exact hQ _

theorem touches_discard {x : Threaded β} {Q : Except Thrown Unit → Prop}
    (h : Touches P stores (fun r => Q (r.map fun _ => ())) x) :
    Touches P stores Q (discard x) := by
  apply Program.Uses.bind h
  intro r hr
  cases r with
  | ok b => exact Program.Uses.done hr
  | error e => exact Program.Uses.done hr

theorem touches_catchStd {x : Threaded α} {handler : String → Threaded α}
    (h : Touches P stores (fun r => match r with
      | .ok a => Q (.ok a)
      | .error e => match what e with
        | some what => Touches P stores Q (handler what)
        | none => Q (.error e)) x) :
    Touches P stores Q (catchStd x handler) := by
  apply Program.Uses.bind h
  intro r hr
  cases r with
  | ok a => exact Program.Uses.done hr
  | error e =>
    cases hw : what e with
    | none =>
      simp only [hw] at hr ⊢
      exact touches_throw hr
    | some s =>
      simp only [hw] at hr ⊢
      exact hr

/-- Code that may end in any way may also be caught. -/
theorem touches_caught {x : Threaded α} {handler : String → Threaded α} (hQ : ∀ r, Q r)
    (hh : ∀ s, Touches P stores Q (handler s))
    (hx : ∀ {R : Except Thrown α → Prop}, (∀ r, R r) → Touches P stores R x) :
    Touches P stores Q (catchStd x handler) := by
  apply touches_catchStd
  apply hx
  intro r
  cases r with
  | ok a => exact hQ _
  | error e =>
    cases hw : what e with
    | none => simpa only [hw] using hQ _
    | some s => simpa only [hw] using hh s

theorem touches_withLock {x : Threaded α} (h : Touches P stores Q x) :
    Touches P stores Q (withLock m x) :=
  Program.Uses.locked (p := x.run) h

theorem touches_access {f : Cell g → Cell g} {r : Cell g → α} (h : Writes g f → stores)
    (hQ : ∀ a, Q (.ok a)) : Touches P stores Q (access g f r) :=
  Program.Uses.access h fun _ => hQ _

theorem touches_peek {r : Cell g → α} (h : P g) (hQ : ∀ a, Q (.ok a)) :
    Touches P stores Q (peek g r) := Program.Uses.peek h fun _ => hQ _

/-- Nothing that an announcement or a callback does changes the value. -/
theorem touches_callback {r : Except Thrown α} (hQ : Q r) :
    Touches P stores Q (callback o r) := by
  cases o with
  | characteristic =>
    exact touches_bind (touches_access False.elim fun _ =>
      touches_bind (touches_access False.elim fun _ => Program.Uses.done hQ))
  | descriptor d =>
    exact touches_bind (touches_access False.elim fun _ =>
      touches_bind (touches_access False.elim fun _ => Program.Uses.done hQ))

end Rules

section Operations
variable {P : Guard → Prop} {stores : Prop} {out : Outside} {c : GattCharacteristic} {w : World}

theorem touches_runNotifyCallback {Q : Except Thrown Unit → Prop} (hQ : ∀ r, Q r) :
    Touches P stores Q (runNotifyCallback out) := by
  rw [runNotifyCallback]
  cases out.notifyCallback with
  | none => exact touches_pure (hQ _)
  | some r =>
    apply touches_caught hQ fun _ => touches_pure (hQ _)
    exact fun hR => touches_callback (hR _)

theorem touches_isNotifying {Q : Except Thrown Bool → Prop} (hQ : ∀ r, Q r) :
    Touches P stores Q isNotifying :=
  touches_withLock (touches_access False.elim fun _ => hQ _)

theorem touches_gvariantFromByteArray {Q : Except Thrown (Option GVariant) → Prop}
    (hQ : ∀ r, Q r) : Touches P stores Q (gvariantFromByteArray out bytes) := by
  unfold gvariantFromByteArray
  cases Utils.gvariantFromByteArray bytes (Utils.toInt bytes.length) with
  | none => exact touches_bind (touches_throw (hQ _))
  | some v => exact touches_bind (touches_pure (touches_pure (hQ _)))

theorem not_writes (f : List UInt8 × List ValueEvent → List ValueEvent) :
    ¬ Writes (.mutex .valueMutex) fun b => (b.1, f b) := by
  intro h
  obtain ⟨b, hb⟩ := h
  exact hb rfl

theorem touches_notifyIfAsked {Q : Except Thrown Unit → Prop} (hQ : ∀ r, Q r) :
    Touches P stores Q (notifyIfAsked out) := by
  apply touches_bind
  apply touches_isNotifying
  intro r
  rcases r with e | _ | _
  · exact hQ _
  · exact touches_pure (hQ _)
  · exact touches_withLock (touches_runNotifyCallback hQ)

theorem touches_announceValue {Q : Except Thrown Unit → Prop} (hQ : ∀ r, Q r) :
    Touches P stores Q (announceValue out c) := by
  apply touches_bind
  apply touches_access fun h => absurd h (not_writes Prod.snd)
  intro bytes
  apply touches_bind
  apply touches_gvariantFromByteArray
  intro r
  rcases r with e | _ | v
  · exact hQ _
  · exact touches_pure (hQ _)
  · apply touches_bind
    apply touches_notifyIfAsked
    intro r
    rcases r with e | _
    · exact hQ _
    · by_cases hr : c.registered = true
      · simp only [if_pos hr]
        exact touches_access (fun h => absurd h (not_writes _)) fun _ => hQ _
      · simp only [if_neg hr]
        exact touches_pure (hQ _)

theorem touches_setValue {Q : Except Thrown Unit → Prop} (hs : stores) (hQ : ∀ r, Q r) :
    Touches P stores Q (setValue out c newValue) := by
  apply touches_caught hQ fun _ => touches_pure (hQ _)
  intro R hR
  apply touches_withLock
  apply touches_bind
  apply touches_access fun _ => hs
  intro _
  by_cases hr : c.registered = true
  · simp only [if_pos hr]
    exact touches_announceValue hR
  · simp only [if_neg hr]
    exact touches_pure (hR _)

theorem touches_announceNotifying {Q : Except Thrown Bool → Prop} (hQ : ∀ r, Q r) :
    Touches P stores Q (announceNotifying out c wanted) := by
  apply touches_bind
  apply touches_access False.elim
  intro _
  by_cases hr : c.registered = true
  · simp only [if_pos hr]
    by_cases hv : out.booleanVariant = true
    · rw [if_pos hv]
      exact touches_bind (touches_access False.elim fun _ => touches_pure (hQ _))
    · rw [if_neg hv]
      exact touches_bind (touches_access False.elim fun _ => touches_pure (hQ _))
  · simp only [if_neg hr]
    exact touches_pure (hQ _)

theorem touches_startNotify {Q : Except Thrown Bool → Prop} (hQ : ∀ r, Q r) :
    Touches P stores Q (startNotify out c) := by
  apply touches_withLock
  apply touches_bind
  apply touches_access False.elim
  intro flag
  by_cases hf : flag = true
  · simp only [if_pos hf]
    exact touches_pure (hQ _)
  · simp only [if_neg hf]
    by_cases hs : (!c.supportsNotify) = true
    · rw [if_pos hs]
      exact touches_pure (hQ _)
    · rw [if_neg hs]
      apply touches_bind
      apply touches_announceNotifying
      intro r
      rcases r with e | _ | _
      · exact hQ _
      · exact touches_pure (hQ _)
      · apply touches_bind
        apply touches_withLock
        apply touches_runNotifyCallback
        intro r
        rcases r with e | _
        · exact hQ _
        · exact touches_pure (hQ _)

theorem touches_stopNotify {Q : Except Thrown Bool → Prop} (hQ : ∀ r, Q r) :
    Touches P stores Q (stopNotify out c) := by
  apply touches_withLock
  apply touches_bind
  apply touches_access False.elim
  intro flag
  by_cases hf : (!flag) = true
  · simp only [if_pos hf]
    exact touches_pure (hQ _)
  · simp only [if_neg hf]
    exact touches_announceNotifying hQ

theorem touches_carryOut {Q : Except Thrown Unit → Prop} (hQ : ∀ r, Q r)
    (request : Option Bool) : Touches P stores Q (carryOut out c request) := by
  rcases request with _ | _ | _
  · exact touches_pure (hQ _)
  · exact touches_discard (touches_stopNotify fun _ => hQ _)
  · exact touches_discard (touches_startNotify fun _ => hQ _)

theorem touches_announceDescriptorValue {Q : Except Thrown Unit → Prop}
    (hp : P (.mutex (.descriptorValueMutex d))) (hQ : ∀ r, Q r) :
    Touches P stores Q (announceDescriptorValue out d) := by
  apply touches_bind
  apply touches_peek hp
  intro bytes
  apply touches_bind
  apply touches_gvariantFromByteArray
  intro r
  rcases r with e | _ | v
  · exact hQ _
  · exact touches_pure (hQ _)
  · exact Program.Uses.locked (Program.Uses.access False.elim fun _ => hQ _)

theorem touches_setDescriptorValue {Q : Except Thrown Unit → Prop}
    (hp : (w.descriptors d).registered = true → P (.mutex (.descriptorValueMutex d)))
    (hQ : ∀ r, Q r) : Touches P stores Q (setDescriptorValue out w d newValue) := by
  apply touches_caught hQ fun _ => touches_pure (hQ _)
  intro R hR
  apply touches_bind
  apply touches_withLock
  apply touches_access False.elim
  intro _
  apply touches_then hR
  · exact fun hR => touches_caught hR (fun _ => touches_pure (hR _)) fun hR => touches_carryOut hR _
  · intro _
    by_cases hr : (w.descriptors d).registered = true
    · rw [if_pos hr]
      exact touches_announceDescriptorValue (hp hr) hR
    · rw [if_neg hr]
      exact touches_pure (hR _)

theorem touches_readLocked {Q : Except Thrown (Option (List UInt8)) → Prop} (hQ : ∀ r, Q r) :
    Touches P stores Q (readLocked out o) := by
  rw [readLocked]
  cases out.readCallback o with
  | some r =>
    apply touches_caught hQ fun _ => touches_pure (hQ _)
    intro R hR
    apply touches_bind
    apply touches_callback
    cases r with
    | ok value => exact touches_pure (hR _)
    | error e => exact hR _
  | none =>
    apply touches_withLock
    apply touches_bind
    cases o with
    | characteristic =>
      exact touches_access (fun h => absurd h (not_writes _)) fun _ => touches_pure (hQ _)
    | descriptor d => exact touches_access False.elim fun _ => touches_pure (hQ _)

theorem touches_handleReadValue {Q : Except Thrown Unit → Prop} (hQ : ∀ r, Q r) :
    Touches P stores Q (handleReadValue out o call) := by
  rw [handleReadValue]
  by_cases hi : call.invocation = true
  · rw [if_pos hi]
    apply touches_caught hQ fun _ => touches_pure (hQ _)
    intro R hR
    apply touches_bind
    apply touches_withLock
    apply touches_readLocked
    intro r
    rcases r with e | _ | value
    · exact hR _
    · exact touches_pure (hR _)
    · exact touches_discard (touches_gvariantFromByteArray fun _ => hR _)
  · rw [if_neg hi]
    exact touches_pure (hQ _)

theorem touches_writeLocked {Q : Except Thrown (Option Bool) → Prop}
    (hQ : Q (out.writeVerdict o newValue)) :
    Touches P stores Q (writeLocked out o newValue) := by
  rw [writeLocked]
  rw [Outside.writeVerdict] at hQ
  cases hf : out.writeCallback o with
  | none =>
    simp only [hf] at hQ
    exact touches_pure hQ
  | some f =>
    simp only [hf] at hQ
    apply touches_catchStd
    apply touches_bind
    apply touches_callback
    rcases hr : f newValue with e | success
    · simp only [hr] at hQ
      cases e with
      | stdException s => exact touches_pure hQ
      | other => exact hQ
      | undefined => exact hQ
    · simp only [hr] at hQ
      exact touches_pure hQ

theorem touches_assign {Q : Except Thrown Unit → Prop} (hs : o = .characteristic → stores)
    (hp : ∀ d, o = .descriptor d → (w.descriptors d).registered = true → P (.mutex o.valueMutex))
    (hQ : ∀ r, Q r) : Touches P stores Q (assign out w newValue o) := by
  cases o with
  | characteristic => exact touches_withLock (touches_access (fun _ => hs rfl) fun _ => hQ _)
  | descriptor d => exact touches_setDescriptorValue (hp d rfl) hQ

theorem touches_handleWriteValue {Q : Except Thrown Unit → Prop}
    (hs : ∀ newValue, decoded call = some newValue → out.accepts o newValue = true →
      o = .characteristic → stores)
    (hp : ∀ newValue d, decoded call = some newValue → out.accepts o newValue = true →
      o = .descriptor d → (w.descriptors d).registered = true → P (.mutex o.valueMutex))
    (hQ : ∀ r, Q r) : Touches P stores Q (handleWriteValue out w o call) := by
  cases hd : decoded call with
  | none =>
    rcases handleWriteValue_undecoded out w o hd with h | h
    · rw [h]
      exact touches_pure (hQ _)
    · rw [h]
      exact touches_throw (hQ _)
  | some newValue =>
    rw [handleWriteValue_decoded hd]
    apply touches_caught hQ fun _ => touches_pure (hQ _)
    intro R hR
    apply touches_bind
    apply touches_withLock
    apply touches_writeLocked
    rcases hv : out.writeVerdict o newValue with e | _ | _ | _
    · exact hR _
    · exact touches_pure (hR _)
    · exact touches_pure (hR _)
    · have ha := Outside.accepts_iff.2 hv
      exact touches_assign (hs newValue hd ha) (fun d => hp newValue d hd ha) hR

theorem touches_getValue {Q : Except Thrown (List UInt8) → Prop} (hp : P (.mutex o.valueMutex))
    (hQ : ∀ r, Q r) : Touches P stores Q (getValue o) := by
  apply touches_then hQ
  · exact fun hR => touches_withLock (touches_pure (hR _))
  · intro _
    cases o with
    | characteristic => exact touches_peek hp fun _ => hQ _
    | descriptor d => exact touches_peek hp fun _ => hQ _

end Operations
end Threaded

namespace Task
open Threaded

/-- The call hands out a reference to the value, and its caller reads it. -/
def gets (task : Task) : Prop := task.op = .getValue .characteristic

/-- The call stores a value. -/
def stores (task : Task) : Prop :=
  match task.op with
  | .setValue _ => True
  | .handleWriteValue .characteristic call => ∃ newValue, decoded call = some newValue ∧
      task.out.accepts .characteristic newValue = true
  | _ => False

/-- The call reads the value of `o` without its mutex: through the reference that `getValue`
hands out, or back again for the signal of a registered descriptor. -/
def peeks (task : Task) (o : GattObject) : Prop :=
  match task.op with
  | .getValue o' => o' = o
  | .setDescriptorValue d _ =>
    .descriptor d = o ∧ (task.world.descriptors d).registered = true
  | .handleWriteValue o' call => o' = o ∧ ∃ newValue d, decoded call = some newValue ∧
      task.out.accepts o' newValue = true ∧ o' = .descriptor d ∧
        (task.world.descriptors d).registered = true
  | _ => False

theorem peeks_characteristic {task : Task} : task.peeks .characteristic ↔ task.gets := by
  obtain ⟨op, out, w⟩ := task
  cases op with
  | getValue o => simp [peeks, Task.gets]
  | handleWriteValue o call =>
    apply iff_of_false
    · rintro ⟨rfl, newValue, d, -, -, h, -⟩
      cases h
    · nofun
  | _ => simp [peeks, Task.gets]

theorem touches_perform {P : Guard → Prop} {stores : Prop} {task : Task}
    (hp : ∀ o, task.peeks o → P (.mutex o.valueMutex)) (hs : task.stores → stores) :
    Touches P stores (fun _ => True) task.perform := by
  obtain ⟨op, out, w⟩ := task
  cases op with
  | setValue newValue => exact touches_setValue (hs trivial) fun _ => trivial
  | getValue o => exact touches_discard (touches_getValue (hp o rfl) fun _ => trivial)
  | startNotify => exact touches_discard (touches_startNotify fun _ => trivial)
  | stopNotify => exact touches_discard (touches_stopNotify fun _ => trivial)
  | isNotifying => exact touches_discard (touches_isNotifying fun _ => trivial)
  | handleReadValue o call => exact touches_handleReadValue fun _ => trivial
  | handleWriteValue o call =>
    apply touches_handleWriteValue
    · rintro newValue hd ha rfl
      exact hs ⟨newValue, hd, ha⟩
    · exact fun newValue d hd ha ho hr => hp o ⟨rfl, newValue, d, hd, ha, ho, hr⟩
    · exact fun _ => trivial
  | setDescriptorValue d newValue =>
    exact touches_setDescriptorValue (fun hr => hp _ ⟨rfl, hr⟩) fun _ => trivial

end Task

section Runs
open Threaded
variable {θ : Type t} [DecidableEq θ] {tasks : θ → List Task} {w : World}
variable {s : Program.Shared θ Guard Cell Unit}

/-- No two threads are about to work on the same data with its mutex. Without it, data is only
read, this is the value of an object, and the thread makes a call that does so. No two callbacks
of an object run at the same time. -/
theorem accesses_exclusive (h : Interleaved tasks w s) :
    (∀ t u g f f' p p', s.todo t = .access g f p → s.todo u = .access g f' p' → t = u) ∧
      (∀ t g p, s.todo t = .peek g p →
        ∃ o, g = .mutex o.valueMutex ∧ ∃ task ∈ tasks t, task.peeks o) ∧
      Alone (s.cells (.mutex .callbackMutex)) ∧
      ∀ d, Alone (s.cells (.mutex (.descriptorCallbackMutex d))) := by
  refine ⟨?_, ?_, h.kept.always (.mutex .callbackMutex),
    fun d => h.kept.always (.mutex (.descriptorCallbackMutex d))⟩
  · intro t u g f f' p p' ht hu
    have how := (h.kept.guarded ht).symm.trans (h.kept.guarded hu)
    exact Option.some.inj how
  · intro t g p ht
    have huses : ∀ t, (taskProgram (tasks t)).Uses
        (fun g => ∃ o, g = .mutex o.valueMutex ∧ ∃ task ∈ tasks t, task.peeks o)
        (fun g f => Writes g f → True) fun _ => True := by
      intro t
      apply Program.Uses.each
      intro p hp
      obtain ⟨task, hmem, rfl⟩ := List.mem_map.1 hp
      exact Task.touches_perform (fun o hp => ⟨o, rfl, task, hmem, hp⟩) fun _ => trivial
    exact Program.Uses.peeks (Program.Uses.run
      (s := Program.start w.cells fun t => taskProgram (tasks t)) huses h) ht

def twoReaders : Bool → List Task := fun _ =>
  [⟨.handleReadValue .characteristic (.readValue BlueZConstants.gattCharacteristicInterface),
    { Outside.quiet with readCallback _ := some (.ok []) }, .constructed 0⟩]

theorem accesses_exclusive_entered :
    ∃ s, Interleaved twoReaders (.constructed 0) s ∧
      s.cells (.mutex .callbackMutex) = [CallbackEvent.entered] ∧
      Alone (s.cells (.mutex .callbackMutex)) := by
  have hrun : Interleaved twoReaders (.constructed 0) _ :=
    .tail (.tail .refl ⟨true, .acquire rfl rfl⟩) ⟨true, .access rfl⟩
  exact ⟨_, hrun, rfl, (accesses_exclusive hrun).2.2.1⟩

/-- A thread that has not begun can get to any of its calls while nobody else moves. -/
theorem reaches_task (h : Interleaved tasks w s) (hi : s.Idle)
    (ht : s.todo t = taskProgram (tasks t)) (htask : task ∈ tasks t) :
    ∃ s' later, Interleaved tasks w s' ∧ s'.Idle ∧
      s'.todo t = task.perform.run.bind (fun _ => later) ∧ ∀ u, u ≠ t → s'.todo u = s.todo u := by
  obtain ⟨earlier, later, htasks⟩ := List.append_of_mem htask
  rw [taskProgram, htasks, List.map_append, Program.each_append] at ht
  have hw : Program.wp ((effects tasks).discipline w) (fun held _ => held = .nothing Cell ∧ True)
      (.each (earlier.map fun task => task.perform.run)) (.nothing Cell) := by
    apply Program.wp_mono _ fun _ _ hn => ⟨hn, trivial⟩
    apply Program.wp_each
    intro p hp
    obtain ⟨task', hmem, rfl⟩ := List.mem_map.1 hp
    have hmem' : task' ∈ tasks t := htasks ▸ List.mem_append_left _ hmem
    exact task'.wp_perform (fun o s h => ⟨t, task', hmem', h⟩) fun f s h => ⟨t, task', hmem', h⟩
  obtain ⟨s', hr, hi', hd, _, _, hu⟩ := h.kept.alone_idle hi ht hw
  exact ⟨s', _, h.trans hr, hi', hd, hu⟩

theorem reaches_peek (h : Interleaved tasks w s) (hi : s.Idle)
    (ht : s.todo t = taskProgram (tasks t)) (htask : task ∈ tasks t) (hg : task.gets) :
    ∃ s' p, Interleaved tasks w s' ∧ s'.Idle ∧ s'.todo t = .peek (.mutex .valueMutex) p ∧
      ∀ u, u ≠ t → s'.todo u = s.todo u := by
  obtain ⟨s₁, later, h₁, hi₁, hd₁, hu₁⟩ := reaches_task h hi ht htask
  obtain ⟨op, out, v⟩ := task
  obtain rfl : op = .getValue .characteristic := hg
  have hw : Program.wp ((effects tasks).discipline w) (fun held _ => held = .nothing Cell ∧ True)
      (Threaded.withLock .valueMutex (pure ())).run (.nothing Cell) := by
    apply wp_withLock rfl fun _ _ => trivial
    exact fun b _ hb => wp_pure ⟨b, rfl, hb, rfl, trivial⟩
  have hd₂ := hd₁.trans (Program.bind_assoc (Threaded.getValue .characteristic).run _ _)
  have hd₃ := hd₂.trans
    (Program.bind_assoc (Threaded.withLock .valueMutex (pure ())).run _ _)
  obtain ⟨s₂, hr, hi₂, hd₂, _, _, hu₂⟩ := h₁.kept.alone_idle hi₁ hd₃ hw
  exact ⟨s₂, _, h₁.trans hr, hi₂, hd₂, fun u hu => (hu₂ u hu).trans (hu₁ u hu)⟩

theorem writes_store (newValue : List UInt8) :
    Writes (.mutex .valueMutex) fun b => (newValue, b.2 ++ [ValueEvent.stored newValue]) :=
  ⟨(0 :: newValue, []), (List.cons_ne_self 0 newValue).symm⟩

theorem reaches_inside (h : Interleaved tasks w s) (hi : s.Idle)
    (ht : s.todo t = .acquire (.mutex m) p) :
    ∃ s', Interleaved tasks w s' ∧ s'.todo t = p ∧ ∀ u, u ≠ t → s'.todo u = s.todo u := by
  have hr := h.tail ⟨t, .acquire ht (hi _)⟩
  exact ⟨_, hr, s.todo_move _ _ _ _ _, fun u hu => Program.Shared.todo_move_other hu⟩

theorem reaches_store (h : Interleaved tasks w s) (hi : s.Idle)
    (ht : s.todo t = taskProgram (tasks t)) (htask : task ∈ tasks t) (hs : task.stores) :
    ∃ s' newValue p, Interleaved tasks w s' ∧
      s'.todo t = .access (.mutex .valueMutex) (fun b => (newValue, b.2 ++ [.stored newValue])) p ∧
        ∀ u, u ≠ t → s'.todo u = s.todo u := by
  obtain ⟨s₁, later, h₁, hi₁, hd₁, hu₁⟩ := reaches_task h hi ht htask
  obtain ⟨op, out, v⟩ := task
  cases op with
  | setValue newValue =>
    obtain ⟨s₂, h₂, hd₂, hu₂⟩ := reaches_inside h₁ hi₁ hd₁
    exact ⟨s₂, newValue, _, h₂, hd₂, fun u hu => (hu₂ u hu).trans (hu₁ u hu)⟩
  | handleWriteValue o call =>
    cases o with
    | descriptor d => cases hs
    | characteristic =>
      obtain ⟨newValue, hd, ha⟩ := hs
      simp only [Task.perform, Threaded.handleWriteValue_decoded hd] at hd₁
      have hw : Program.wp ((effects tasks).discipline w)
          (fun held r => held = .nothing Cell ∧ r = out.writeVerdict .characteristic newValue)
          (Threaded.withLock .callbackMutex (writeLocked out .characteristic newValue)).run
          (.nothing Cell) := by
        apply wp_withLock rfl fun _ _ => trivial
        intro b _ hb
        apply wp_writeLocked (o := .characteristic) (Function.update_self ..) hb
        intro b' hb'
        simp only [GattObject.callbackMutex, Function.update_idem]
        exact ⟨b', rfl, hb', trivial, trivial⟩
      rw [Outside.accepts_iff.1 ha] at hw
      have hd₂ := (hd₁.trans (Program.bind_assoc _ _ _)).trans
        (Program.bind_assoc (Threaded.withLock .callbackMutex
          (writeLocked out .characteristic newValue)).run _ _)
      obtain ⟨s₂, hr, hi₂, hd₃, _, hv, hu₂⟩ := h₁.kept.alone_idle hi₁ hd₂ hw
      rw [hv] at hd₃
      obtain ⟨s₃, h₃, hd₄, hu₃⟩ := reaches_inside (h₁.trans hr) hi₂ hd₃
      exact ⟨s₃, newValue, _, h₃, hd₄,
        fun u hu => ((hu₃ u hu).trans (hu₂ u hu)).trans (hu₁ u hu)⟩
  | _ => cases hs

/-- The value is read and changed at the same time in some run exactly if one thread calls
`getValue` and another one stores. -/
theorem value_races_iff :
    (∃ s t u p f q, Interleaved tasks w s ∧ s.todo t = .peek (.mutex .valueMutex) p ∧
      s.todo u = .access (.mutex .valueMutex) f q ∧ Writes (.mutex .valueMutex) f) ↔
    ∃ t u, t ≠ u ∧ (∃ task ∈ tasks t, task.gets) ∧ ∃ task ∈ tasks u, task.stores := by
  apply Iff.intro
  · intro h
    obtain ⟨s, t, u, p, f, q, hs, ht, hu, hf⟩ := h
    have huses : ∀ t, (taskProgram (tasks t)).Uses
        (fun g => g = .mutex .valueMutex → ∃ task ∈ tasks t, task.gets)
        (fun g f => Writes g f → ∃ task ∈ tasks t, task.stores) fun _ => True := by
      intro t
      apply Program.Uses.each
      intro p hp
      obtain ⟨task, hmem, rfl⟩ := List.mem_map.1 hp
      refine Task.touches_perform (fun o hp ho => ⟨task, hmem, ?_⟩) fun hs => ⟨task, hmem, hs⟩
      cases o with
      | characteristic => exact Task.peeks_characteristic.1 hp
      | descriptor d => cases ho
    have hrun := Program.Uses.run (s := Program.start w.cells fun t => taskProgram (tasks t))
      huses hs
    have htu : t ≠ u := by
      rintro rfl
      rw [ht] at hu
      cases hu
    exact ⟨t, u, htu, Program.Uses.peeks hrun ht rfl, Program.Uses.accesses hrun hu hf⟩
  · intro h
    obtain ⟨t, u, htu, ⟨get, hget, hg⟩, store, hstore, hs⟩ := h
    obtain ⟨s₁, p, h₁, hi₁, ht₁, hu₁⟩ := reaches_peek .refl (fun _ => rfl) rfl hget hg
    obtain ⟨s₂, newValue, q, h₂, hu₂, hother⟩ :=
      reaches_store h₁ hi₁ (hu₁ u htu.symm) hstore hs
    exact ⟨s₂, t, u, p, _, q, h₂, (hother t htu).trans ht₁, hu₂, writes_store newValue⟩

/-- A call that sets the value of a registered descriptor, asks nothing of the flag, and gets
a variant of the value. -/
structure Task.Announces (task : Task) (d : Nat) (newValue : List UInt8)
    (valueVariant : GVariant) : Prop where
  op : task.op = .setDescriptorValue d newValue
  registered : (task.world.descriptors d).registered = true
  request : (task.world.descriptors d).request newValue = none
  made : task.out.byteArrayVariant = true
  variant : Utils.gvariantFromByteArray newValue (Utils.toInt newValue.length) = some valueVariant

theorem gvariantFromByteArray_made {out : Outside} (hm : out.byteArrayVariant = true)
    (hv : Utils.gvariantFromByteArray bytes (Utils.toInt bytes.length) = some valueVariant) :
    Threaded.gvariantFromByteArray out bytes = pure (some valueVariant) := by
  rw [Threaded.gvariantFromByteArray, hv, hm]
  rfl

/-- The call up to where it has made the variant of the value that it read back. -/
theorem reaches_sending (h : Interleaved tasks w s) (hi : s.Idle)
    (ht : s.todo t = taskProgram (tasks t)) (hsingle : tasks t = [task])
    (ha : task.Announces d newValue valueVariant) :
    ∃ s' k, Interleaved tasks w s' ∧ s'.Idle ∧ s'.cells (.bus d) = s.cells (.bus d) ∧
      Prod.fst (s'.cells (.mutex (.descriptorValueMutex d))) = newValue ∧
        s'.todo t = (send d valueVariant).run.bind k ∧ k (.ok ()) = .done () ∧
          ∀ u, u ≠ t → s'.todo u = s.todo u := by
  obtain ⟨op, out, v⟩ := task
  obtain ⟨rfl, hr, hq, hm, hv⟩ := ha
  have hE : (effects tasks).value (.descriptor d) (.assigned newValue) :=
    ⟨t, ⟨.setDescriptorValue d newValue, out, v⟩, hsingle ▸ List.mem_singleton_self _, rfl, rfl⟩
  have hstore : Program.wp ((effects tasks).discipline w)
      (fun held r => held = .nothing Cell ∧ r = .ok ())
      (Threaded.withLock (.descriptorValueMutex d) (store newValue (.descriptor d))).run
      (.nothing Cell) := by
    apply wp_withLock rfl fun _ _ => trivial
    intro b _ hb
    apply wp_access (Function.update_self ..) (Or.inr ⟨_, hE, .inl rfl⟩)
    rw [Function.update_idem]
    have hs : (effects tasks).between w (.mutex (.descriptorValueMutex d))
        (newValue, b.2 ++ [.stored newValue]) := hb.snoc hE
    exact ⟨_, rfl, hs, rfl, rfl⟩
  have hpeek : Program.wp ((effects tasks).discipline w)
      (fun held r => held = .nothing Cell ∧ True) (peekValue (.descriptor d)).run
      (.nothing Cell) := wp_peek fun _ _ => ⟨rfl, trivial⟩
  rw [hsingle, taskProgram, List.map_singleton, Program.each, Task.perform] at ht
  simp only [Threaded.setDescriptorValue, hq, carryOut, if_pos hr] at ht
  have hnothing : Threaded.catchStd (pure ()) (fun _ => pure ()) = (pure () : Threaded Unit) := rfl
  rw [hnothing, run_catchStd, run_bind, Program.bind_assoc, Program.bind_assoc] at ht
  obtain ⟨s₁, hr₁, hi₁, ht₁, hc₁, hok, hu₁⟩ := h.kept.alone_idle hi ht hstore
  rw [hok] at ht₁
  simp only [announceDescriptorValue, run_pure, run_bind, Program.bind, Program.bind_assoc] at ht₁
  have h₁ : Interleaved tasks w s₁ := h.trans hr₁
  obtain ⟨s₂, hr₂, hi₂, ht₂, hc₂, _, hu₂⟩ := h₁.kept.alone_idle hi₁ ht₁ hpeek
  have hcells : s₁.cells = Function.update s.cells (.mutex (.descriptorValueMutex d))
      (newValue, Prod.snd (s.cells (.mutex (.descriptorValueMutex d))) ++ [.stored newValue]) := hc₁
  have hself := (congrFun hcells _).trans (Function.update_self ..)
  have hstored : Prod.fst (s₁.cells (.mutex (.descriptorValueMutex d))) = newValue :=
    congrArg Prod.fst hself
  have hbus : s₁.cells (.bus d) = s.cells (.bus d) := by
    rw [hcells]
    exact Function.update_of_ne (by simp) ..
  have hvalue : ((peekValue (.descriptor d)).run.alone s₁.cells).result = .ok newValue := by
    change Except.ok (Prod.fst (s₁.cells (.mutex (.descriptorValueMutex d)))) = .ok newValue
    rw [hstored]
  rw [hvalue] at ht₂
  simp only [gvariantFromByteArray_made hm hv, run_pure, Program.bind] at ht₂
  exact ⟨s₂, _, h₁.trans hr₂, hi₂, (congrFun hc₂ _).trans hbus,
    (congrArg Prod.fst (congrFun hc₂ _)).trans hstored, ht₂, rfl,
    fun u hu => (hu₂ u hu).trans (hu₁ u hu)⟩

/-- The variant that was made is sent, whatever the value has become. -/
theorem reaches_sent (h : Interleaved tasks w s) (hi : s.Idle)
    (ht : s.todo t = (send d valueVariant).run.bind k) (hsingle : tasks t = [task])
    (ha : task.Announces d newValue valueVariant) :
    ∃ s', Interleaved tasks w s' ∧ s'.Idle ∧ s'.todo t = k (.ok ()) ∧
      s'.cells (.bus d) = List.append (s.cells (.bus d)) [valueVariant] ∧
        (∀ m, s'.cells (.mutex m) = s.cells (.mutex m)) ∧
          ∀ u, u ≠ t → s'.todo u = s.todo u := by
  have hhad : (effects tasks).Had w (.descriptor d) newValue := by
    have hmem : task ∈ tasks t := hsingle ▸ List.mem_singleton_self _
    obtain ⟨op, out, v⟩ := task
    obtain ⟨rfl, _⟩ := ha
    exact .inr ⟨_, ⟨t, _, hmem, rfl, rfl⟩, .inl rfl⟩
  have hw : Program.wp ((effects tasks).discipline w) (fun held _ => held = .nothing Cell ∧ True)
      (send d valueVariant).run (.nothing Cell) := wp_send rfl hhad ha.variant ⟨rfl, trivial⟩
  obtain ⟨s', hr, hi', ht', hc, _, hu⟩ := h.kept.alone_idle hi ht hw
  have hcells : s'.cells = Function.update s.cells (.bus d)
      (List.append (s.cells (.bus d)) [valueVariant]) := hc
  exact ⟨s', h.trans hr, hi', ht', (congrFun hcells _).trans (Function.update_self ..),
    fun m => (congrFun hcells _).trans (Function.update_of_ne (by simp) ..), hu⟩

def registeredWorld : World where
  characteristic := (World.constructed 0).characteristic
  descriptors _ :=
    { (World.constructed 0).descriptors 0 with registered := true, uuid := .fromShortUuid 0x2901 }

def descriptorSetters : Bool → List Task := fun t =>
  [⟨.setDescriptorValue 0 [if t then 1 else 2], .quiet, registeredWorld⟩]

theorem announces_descriptorSetters (t : Bool) :
    (Task.mk (.setDescriptorValue 0 [if t then 1 else 2]) .quiet registeredWorld).Announces 0
      [if t then 1 else 2] (.byteArray [if t then 1 else 2]) := by
  constructor
  · rfl
  · rfl
  · cases t <;> decide
  · rfl
  · cases t <;> rfl

/-- When two threads set a descriptor, the last signal can carry the value that is there no
more. -/
theorem descriptor_signals_stale (htu : t ≠ u) (ht : tasks t = [task]) (hu : tasks u = [task'])
    (ha : task.Announces d earlier signal) (ha' : task'.Announces d later signal') :
    ∃ s, Interleaved tasks w s ∧ s.todo t = .done () ∧ s.todo u = .done () ∧
      Prod.fst (s.cells (.mutex (.descriptorValueMutex d))) = later ∧
        s.cells (.bus d) = [signal', signal] := by
  have hstart : Interleaved tasks w (Program.start w.cells _) := .refl
  obtain ⟨s₁, k, h₁, hi₁, hb₁, _, ht₁, hk, hu₁⟩ :=
    reaches_sending hstart (fun _ => rfl) rfl ht ha
  obtain ⟨s₂, k', h₂, hi₂, hb₂, hv₂, ht₂, hk', hu₂⟩ :=
    reaches_sending h₁ hi₁ (hu₁ u htu.symm) hu ha'
  obtain ⟨s₃, h₃, hi₃, ht₃, hb₃, hm₃, hu₃⟩ := reaches_sent h₂ hi₂ ht₂ hu ha'
  have htodo : s₃.todo t = (send d signal).run.bind k :=
    ((hu₃ t htu).trans (hu₂ t htu)).trans ht₁
  obtain ⟨s₄, h₄, hi₄, ht₄, hb₄, hm₄, hu₄⟩ := reaches_sent h₃ hi₃ htodo ht ha
  exists s₄, h₄, ht₄.trans hk, (hu₄ u htu.symm).trans (ht₃.trans hk')
  apply And.intro
  · rw [hm₄, hm₃, hv₂]
  · rw [hb₄, hb₃, hb₂, hb₁]
    rfl

theorem descriptor_signals_stale_twice :
    ∃ s, Interleaved descriptorSetters registeredWorld s ∧ s.todo true = .done () ∧
      s.todo false = .done () ∧
        Prod.fst (s.cells (.mutex (.descriptorValueMutex 0))) = [2] ∧
          s.cells (.bus 0) = [GVariant.byteArray [2], .byteArray [1]] := by
  exact (descriptor_signals_stale (t := true) (u := false) (w := registeredWorld)
    (by decide) rfl rfl (announces_descriptorSetters true) (announces_descriptorSetters false))

end Runs
end Ggk
