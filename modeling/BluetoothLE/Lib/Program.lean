import BluetoothLE.Lib.Locks
import Mathlib.Data.Fintype.Defs
import Mathlib.Logic.Function.Basic
import Mathlib.Logic.Hydra

namespace Lib
set_option autoImplicit true

/-- What one thread does to cells that all threads share. Each cell belongs to a mutex, and
`peek` reads one without it. -/
inductive Program (μ : Type u) (β : μ → Type v) (α : Type w) : Type (max u v w) where
  | done (a : α)
  | acquire (m : μ) (rest : Program μ β α)
  | release (m : μ) (rest : Program μ β α)
  | access (m : μ) (f : β m → β m) (rest : β m → Program μ β α)
  | peek (m : μ) (rest : β m → Program μ β α)

namespace Program

def bind : Program μ β α → (α → Program μ β γ) → Program μ β γ
  | .done a, k => k a
  | .acquire m p, k => .acquire m (p.bind k)
  | .release m p, k => .release m (p.bind k)
  | .access m f p, k => .access m f fun b => (p b).bind k
  | .peek m p, k => .peek m fun b => (p b).bind k

instance : Monad (Program μ β) where
  pure := .done
  bind := bind

/-- A block under a lock that is given back at its end. -/
def locked (m : μ) (p : Program μ β α) : Program μ β α :=
  .acquire m (p.bind fun a => .release m (.done a))

/-- One thing after another, whatever the results. -/
def each : List (Program μ β α) → Program μ β Unit
  | [] => .done ()
  | p :: ps => p.bind fun _ => each ps

theorem bind_assoc (p : Program μ β α) (k : α → Program μ β γ) (l : γ → Program μ β δ) :
    (p.bind k).bind l = p.bind fun a => (k a).bind l := by
  induction p with
  | done a => rfl
  | acquire m p ih => rw [bind, bind, bind, ih]
  | release m p ih => rw [bind, bind, bind, ih]
  | access m f p ih => exact congrArg (access m f) (funext ih)
  | peek m p ih => exact congrArg (peek m) (funext ih)

theorem bind_done (p : Program μ β α) : p.bind .done = p := by
  induction p with
  | done a => rfl
  | acquire m p ih => rw [bind, ih]
  | release m p ih => rw [bind, ih]
  | access m f p ih => exact congrArg (access m f) (funext ih)
  | peek m p ih => exact congrArg (peek m) (funext ih)

instance : LawfulMonad (Program μ β) :=
  LawfulMonad.mk' _ bind_done (fun _ _ => rfl) bind_assoc

theorem each_append (ps qs : List (Program μ β α)) :
    each (ps ++ qs) = (each ps).bind fun _ => each qs := by
  induction ps with
  | nil => rfl
  | cons p ps ih =>
    rw [List.cons_append, each, each, ih, bind_assoc]

/-- How a program ends when nobody gets in between, with its steps on the mutexes. -/
structure Ending (μ : Type u) (β : μ → Type v) (α : Type w) where
  result : α
  cells : (m : μ) → β m
  steps : List (LockStep μ)

def alone [DecidableEq μ] : Program μ β α → ((m : μ) → β m) → Ending μ β α
  | .done a, cells => ⟨a, cells, []⟩
  | .acquire m p, cells =>
    let e := p.alone cells
    { e with steps := .acquire m :: e.steps }
  | .release m p, cells =>
    let e := p.alone cells
    { e with steps := .release m :: e.steps }
  | .access m f p, cells => (p (cells m)).alone (Function.update cells m (f (cells m)))
  | .peek m p, cells => (p (cells m)).alone cells

theorem alone_bind [DecidableEq μ] (p : Program μ β α) (k : α → Program μ β γ)
    (cells : (m : μ) → β m) :
    (p.bind k).alone cells =
      let e := p.alone cells
      let e' := (k e.result).alone e.cells
      { e' with steps := e.steps ++ e'.steps } := by
  induction p generalizing cells with
  | done a => rfl
  | acquire m p ih => simp only [bind, alone, ih, List.cons_append]
  | release m p ih => simp only [bind, alone, ih, List.cons_append]
  | access m f p ih => exact ih _ _
  | peek m p ih => exact ih _ _

theorem alone_locked [DecidableEq μ] (m : μ) (p : Program μ β α) (cells : (m : μ) → β m) :
    (locked m p).alone cells =
      let e := p.alone cells
      { e with steps := .acquire m :: e.steps ++ [.release m] } := by
  simp only [locked, alone, alone_bind, List.cons_append]

/-- Left to itself, the program ends with the result and leaves the cells behind. -/
def Ends [DecidableEq μ] (p : Program μ β α) (cells : (m : μ) → β m) (a : α)
    (cells' : (m : μ) → β m) : Prop :=
  (p.alone cells).result = a ∧ (p.alone cells).cells = cells'

section Ends
variable {μ : Type u} {β : μ → Type v} [DecidableEq μ] {cells cells' cells'' : (m : μ) → β m}
  {p : Program μ β α}

theorem ends_done (a : α) : (.done a : Program μ β α).Ends cells a cells := ⟨rfl, rfl⟩

theorem Ends.bind {k : α → Program μ β γ} (h : p.Ends cells a cells')
    (hk : (k a).Ends cells' c cells'') : (p.bind k).Ends cells c cells'' := by
  obtain ⟨rfl, rfl⟩ := h
  rw [Ends, alone_bind]
  exact hk

theorem Ends.locked (h : p.Ends cells a cells') (m : μ) :
    (locked m p).Ends cells a cells' := by
  rw [Ends, alone_locked]
  exact h

theorem ends_access (m : μ) (f : β m → β m) (r : β m → α) :
    (.access m f fun b => .done (r b) : Program μ β α).Ends cells (r (cells m))
      (Function.update cells m (f (cells m))) := ⟨rfl, rfl⟩

theorem ends_load (m : μ) (r : β m → α) :
    (.access m id fun b => .done (r b) : Program μ β α).Ends cells (r (cells m)) cells :=
  ⟨rfl, Function.update_eq_self m cells⟩

theorem ends_peek (m : μ) (r : β m → α) :
    (.peek m fun b => .done (r b) : Program μ β α).Ends cells (r (cells m)) cells := ⟨rfl, rfl⟩

end Ends

/-- Wherever the program gets, it peeks only at what `P` allows, works only as `A` allows, and
ends with `Q`. -/
def Uses (P : μ → Prop) (A : (m : μ) → (β m → β m) → Prop) (Q : α → Prop) :
    Program μ β α → Prop
  | .done a => Q a
  | .acquire _ p | .release _ p => p.Uses P A Q
  | .access m f p => A m f ∧ ∀ b, (p b).Uses P A Q
  | .peek m p => P m ∧ ∀ b, (p b).Uses P A Q

theorem Uses.bind {P : μ → Prop} {A : (m : μ) → (β m → β m) → Prop} {R : α → Prop}
    {Q : γ → Prop} {p : Program μ β α} {k : α → Program μ β γ} (h : p.Uses P A R)
    (hk : ∀ a, R a → (k a).Uses P A Q) : (p.bind k).Uses P A Q := by
  induction p with
  | done a => exact hk a h
  | acquire m p ih => exact ih h
  | release m p ih => exact ih h
  | access m f p ih => exact ⟨h.1, fun b => ih b (h.2 b)⟩
  | peek m p ih => exact ⟨h.1, fun b => ih b (h.2 b)⟩

theorem Uses.mono {P P' : μ → Prop} {A A' : (m : μ) → (β m → β m) → Prop} {Q : α → Prop}
    {p : Program μ β α} (h : p.Uses P A Q) (hP : ∀ m, P m → P' m)
    (hA : ∀ m f, A m f → A' m f) : p.Uses P' A' Q := by
  induction p with
  | done a => exact h
  | acquire m p ih => exact ih h
  | release m p ih => exact ih h
  | access m f p ih => exact ⟨hA m f h.1, fun b => ih b (h.2 b)⟩
  | peek m p ih => exact ⟨hP m h.1, fun b => ih b (h.2 b)⟩

/-- What the constructors keep, at the accesses that `A` allows, holds of the program. -/
theorem Uses.elim {P : μ → Prop} {A : (m : μ) → (β m → β m) → Prop} {Q : α → Prop}
    {C : Program μ β α → Prop} {p : Program μ β α} (h : p.Uses P A Q)
    (hdone : ∀ a, C (.done a)) (hacquire : ∀ m p, C p → C (.acquire m p))
    (hrelease : ∀ m p, C p → C (.release m p))
    (haccess : ∀ m f p, A m f → (∀ b, C (p b)) → C (.access m f p))
    (hpeek : ∀ m p, (∀ b, C (p b)) → C (.peek m p)) : C p := by
  induction p with
  | done a => exact hdone a
  | acquire m p ih => exact hacquire m p (ih h)
  | release m p ih => exact hrelease m p (ih h)
  | access m f p ih => exact haccess m f p h.1 fun b => ih b (h.2 b)
  | peek m p ih => exact hpeek m p fun b => ih b (h.2 b)

theorem Uses.done {P : μ → Prop} {A : (m : μ) → (β m → β m) → Prop} {Q : α → Prop} (h : Q a) :
    (done a : Program μ β α).Uses P A Q := h

theorem Uses.access {P : μ → Prop} {A : (m : μ) → (β m → β m) → Prop} {Q : γ → Prop}
    {f : β m → β m} {k : β m → γ} (h : A m f) (hQ : ∀ b, Q (k b)) :
    (access m f fun b => .done (k b) : Program μ β γ).Uses P A Q := ⟨h, hQ⟩

theorem Uses.peek {P : μ → Prop} {A : (m : μ) → (β m → β m) → Prop} {Q : γ → Prop}
    {k : β m → γ} (h : P m) (hQ : ∀ b, Q (k b)) :
    (peek m fun b => .done (k b) : Program μ β γ).Uses P A Q := ⟨h, hQ⟩

theorem Uses.locked {P : μ → Prop} {A : (m : μ) → (β m → β m) → Prop} {Q : α → Prop}
    {p : Program μ β α} (h : p.Uses P A Q) : (locked m p).Uses P A Q :=
  Uses.bind (p := p) h fun _ ha => ha

theorem Uses.each {P : μ → Prop} {A : (m : μ) → (β m → β m) → Prop}
    {ps : List (Program μ β α)} (h : ∀ p ∈ ps, p.Uses P A fun _ => True) :
    (each ps).Uses P A fun _ => True := by
  induction ps with
  | nil => trivial
  | cons p ps ih =>
    exact (h p List.mem_cons_self).bind fun _ _ => ih fun q hq => h q (List.mem_cons_of_mem _ hq)

/-- A cell that is never changed is as it was. -/
theorem Uses.alone_cell [DecidableEq μ] {P : μ → Prop} {A : (m : μ) → (β m → β m) → Prop}
    {Q : α → Prop} {p : Program μ β α} (h : p.Uses P A Q) (hA : ∀ f, A m f → ∀ b, f b = b)
    (cells : (m : μ) → β m) : (p.alone cells).cells m = cells m := by
  induction p generalizing cells with
  | done a => rfl
  | acquire n p ih => exact ih h cells
  | release n p ih => exact ih h cells
  | access n f p ih =>
    apply (ih _ (h.2 _) _).trans
    by_cases hn : m = n
    · subst hn
      rw [Function.update_self]
      exact hA f h.1 _
    · exact Function.update_of_ne hn ..
  | peek n p ih => exact ih _ (h.2 _) cells

/-- What is left of a program when it has taken a step. -/
inductive Rest {μ : Type u} {β : μ → Type v} {α : Type w} :
    Program μ β α → Program μ β α → Prop where
  | acquire (m : μ) (p) : Rest p (.acquire m p)
  | release (m : μ) (p) : Rest p (.release m p)
  | access (m : μ) (f p b) : Rest (p b) (.access m f p)
  | peek (m : μ) (p b) : Rest (p b) (.peek m p)

theorem rest_wellFounded : WellFounded (Rest : Program μ β α → Program μ β α → Prop) := by
  constructor
  intro p
  induction p with
  | done a => exact ⟨_, nofun⟩
  | acquire m p ih =>
    constructor
    intro q h
    cases h
    exact ih
  | release m p ih =>
    constructor
    intro q h
    cases h
    exact ih
  | access m f p ih =>
    constructor
    intro q h
    cases h
    exact ih _
  | peek m p ih =>
    constructor
    intro q h
    cases h
    exact ih _

/-- The threads, what is left for each of them to do, and who has which mutex. -/
structure Shared (θ : Type t) (μ : Type u) (β : μ → Type v) (α : Type w) where
  cells : (m : μ) → β m
  owner : μ → Option θ
  todo : θ → Program μ β α

def start (cells : (m : μ) → β m) (program : θ → Program μ β α) : Shared θ μ β α :=
  ⟨cells, fun _ => none, program⟩

/-- The content of the cells whose mutexes a thread has. -/
abbrev Held (β : μ → Type v) := (m : μ) → Option (β m)

def Held.nothing (β : μ → Type v) : Held β := fun _ => none

/-- How the threads agree to use the cells: what holds of a cell at all times, what holds of
it besides while its mutex is free, and in which order mutexes may be taken. -/
structure Discipline (μ : Type u) (β : μ → Type v) where
  always : (m : μ) → β m → Prop
  between : (m : μ) → β m → Prop
  before : μ → μ → Prop

section Rules
variable {μ : Type u} {β : μ → Type v} [DecidableEq μ]

/-- What has to hold of the cells that a thread has, so that it keeps to the discipline and
ends with `Q`. A cell that it has not is as the others leave it. -/
def wp (d : Discipline μ β) (Q : Held β → α → Prop) : Program μ β α → Held β → Prop
  | .done a, held => Q held a
  | .acquire m p, held => held m = none ∧ (∀ h, held h ≠ none → d.before h m) ∧
      ∀ b, d.always m b → d.between m b → wp d Q p (Function.update held m (some b))
  | .release m p, held => ∃ b, held m = some b ∧ d.between m b ∧
      wp d Q p (Function.update held m none)
  | .access m f p, held => ∃ b, held m = some b ∧ d.always m (f b) ∧
      wp d Q (p b) (Function.update held m (some (f b)))
  | .peek m p, held => ∀ b, d.always m b → wp d Q (p b) held

variable {d : Discipline μ β}

theorem wp_mono {Q Q' : Held β → α → Prop} {p : Program μ β α} (h : wp d Q p held)
    (hQ : ∀ held a, Q held a → Q' held a) : wp d Q' p held := by
  induction p generalizing held with
  | done a => exact hQ held a h
  | acquire m p ih =>
    obtain ⟨hm, hb, hp⟩ := h
    exact ⟨hm, hb, fun b ha hf => ih (hp b ha hf)⟩
  | release m p ih =>
    obtain ⟨b, hm, hf, hp⟩ := h
    exact ⟨b, hm, hf, ih hp⟩
  | access m f p ih =>
    obtain ⟨b, hm, ha, hp⟩ := h
    exact ⟨b, hm, ha, ih b hp⟩
  | peek m p ih => exact fun b ha => ih b (h b ha)

theorem wp_bind {Q : Held β → γ → Prop} {p : Program μ β α} {k : α → Program μ β γ} :
    wp d Q (p.bind k) held ↔ wp d (fun held a => wp d Q (k a) held) p held := by
  induction p generalizing held with
  | done a => exact Iff.rfl
  | acquire m p ih =>
    exact and_congr_right fun _ => and_congr_right fun _ =>
      forall_congr' fun b => imp_congr_right fun _ => imp_congr_right fun _ => ih
  | release m p ih =>
    exact exists_congr fun b => and_congr_right fun _ => and_congr_right fun _ => ih
  | access m f p ih =>
    exact exists_congr fun b => and_congr_right fun _ => and_congr_right fun _ => ih b
  | peek m p ih => exact forall_congr' fun b => imp_congr_right fun _ => ih b

theorem wp_locked {Q : Held β → α → Prop} {p : Program μ β α} (hm : held m = none)
    (hb : ∀ h, held h ≠ none → d.before h m)
    (hp : ∀ b, d.always m b → d.between m b → wp d (fun held' a => ∃ b', held' m = some b' ∧
      d.between m b' ∧ Q (Function.update held' m none) a) p (Function.update held m (some b))) :
    wp d Q (locked m p) held :=
  ⟨hm, hb, fun b ha hf => wp_bind.2 (wp_mono (hp b ha hf) fun _ _ h => h)⟩

theorem wp_done {Q : Held β → α → Prop} (h : Q held a) : wp d Q (.done a) held := h

theorem wp_access {Q : Held β → γ → Prop} {f : β m → β m} {k : β m → γ} (hm : held m = some b)
    (ha : d.always m (f b)) (h : Q (Function.update held m (some (f b))) (k b)) :
    wp d Q (.access m f fun b => .done (k b)) held := ⟨b, hm, ha, h⟩

theorem wp_peek {Q : Held β → γ → Prop} {k : β m → γ} (h : ∀ b, d.always m b → Q held (k b)) :
    wp d Q (.peek m fun b => .done (k b)) held := h

/-- A block that works on the cell of its mutex and gives it back. -/
theorem wp_block {Q : Held β → α → Prop} {p : Program μ β α} (hm : held m = none)
    (hb : ∀ h, held h ≠ none → d.before h m)
    (hp : ∀ b, d.always m b → d.between m b → wp d (fun held' a => ∃ b',
      held' = Function.update held m (some b') ∧ d.between m b' ∧ Q held a) p
        (Function.update held m (some b))) :
    wp d Q (locked m p) held := by
  apply wp_locked hm hb
  intro b ha hf
  apply wp_mono (hp b ha hf)
  intro held' a h
  obtain ⟨b', rfl, hb', hQ⟩ := h
  have hself : Function.update held m none = held := by
    rw [← hm, Function.update_eq_self]
  rw [Function.update_idem, hself]
  exact ⟨b', Function.update_self .., hb', hQ⟩

/-- The cells that a thread has are as it found them when it ends. -/
def Spares (d : Discipline μ β) (held : Held β) (p : Program μ β α) : Prop :=
  wp d (fun held' _ => held' = held) p held

theorem Spares.done (a : α) : Spares d held (.done a) := rfl

theorem Spares.wp_bind {Q : Held β → γ → Prop} {p : Program μ β α} {k : α → Program μ β γ}
    (h : Spares d held p) (hk : ∀ a, wp d Q (k a) held) : wp d Q (p.bind k) held := by
  apply Program.wp_bind.2
  apply wp_mono h
  intro held' a he
  rw [he]
  exact hk a

theorem Spares.bind {p : Program μ β α} {k : α → Program μ β γ} (h : Spares d held p)
    (hk : ∀ a, Spares d held (k a)) : Spares d held (p.bind k) := h.wp_bind hk

theorem Spares.peek {k : β m → γ} : Spares d held (.peek m fun b => .done (k b)) :=
  wp_peek fun _ _ => rfl

theorem Spares.load {k : β m → γ} (hm : held m = some b) (ha : d.always m b) :
    Spares d held (.access m id fun b => .done (k b)) := by
  apply wp_access hm ha
  rw [id, ← hm, Function.update_eq_self]

theorem wp_load_bind {Q : Held β → δ → Prop} {r : β m → γ} {k : γ → Program μ β δ}
    (hm : held m = some b) (ha : d.always m b) (hk : wp d Q (k (r b)) held) :
    wp d Q ((Program.access m id fun b => .done (r b)).bind k) held := by
  apply wp_bind.2
  apply wp_access hm ha
  rw [id, ← hm, Function.update_eq_self]
  exact hk

theorem Spares.locked {p : Program μ β α} (hm : held m = none)
    (hb : ∀ h, held h ≠ none → d.before h m)
    (hp : ∀ b, d.always m b → d.between m b → Spares d (Function.update held m (some b)) p) :
    Spares d held (locked m p) :=
  wp_block hm hb fun b ha hf => wp_mono (hp b ha hf) fun _ _ he => ⟨b, he, hf, rfl⟩

theorem Spares.mapM {f : ι → Program μ β α} {is : List ι} (h : ∀ i ∈ is, Spares d held (f i)) :
    Spares d held (is.mapM f) := by
  induction is with
  | nil => exact .done _
  | cons i is ih =>
    obtain ⟨hi, his⟩ := List.forall_mem_cons.1 h
    rw [List.mapM_cons]
    exact hi.bind fun a => (ih his).bind fun as => .done (a :: as)

theorem wp_each {ps : List (Program μ β α)}
    (h : ∀ p ∈ ps, wp d (fun held _ => held = .nothing β) p (.nothing β)) :
    wp d (fun held _ => held = .nothing β) (each ps) (.nothing β) := by
  induction ps with
  | nil => rfl
  | cons p ps ih =>
    apply wp_bind.2
    apply wp_mono (h p List.mem_cons_self)
    rintro held a rfl
    exact ih fun q hq => h q (List.mem_cons_of_mem _ hq)

end Rules
section Threads
variable {θ : Type t} {μ : Type u} {β : μ → Type v} [DecidableEq θ] [DecidableEq μ]

/-- Thread `t` goes on with `p`, and the cell of `m` and the mutex are left as `b` and `o`. -/
def Shared.move (s : Shared θ μ β α) (t : θ) (m : μ) (b : β m) (o : Option θ)
    (p : Program μ β α) : Shared θ μ β α :=
  ⟨Function.update s.cells m b, Function.update s.owner m o, Function.update s.todo t p⟩

/-- Thread `t` takes its next step. Only an acquire can wait. -/
inductive Step (t : θ) : Shared θ μ β α → Shared θ μ β α → Prop where
  | acquire {s} {m : μ} {p} (ht : s.todo t = .acquire m p) (hfree : s.owner m = none) :
      Step t s (s.move t m (s.cells m) (some t) p)
  | release {s} {m : μ} {p} (ht : s.todo t = .release m p) :
      Step t s (s.move t m (s.cells m) none p)
  | access {s} {m : μ} {f p} (ht : s.todo t = .access m f p) :
      Step t s (s.move t m (f (s.cells m)) (s.owner m) (p (s.cells m)))
  | peek {s} {m : μ} {p} (ht : s.todo t = .peek m p) :
      Step t s (s.move t m (s.cells m) (s.owner m) (p (s.cells m)))

/-- A run of the threads, by turns in any order. -/
def Runs : Shared θ μ β α → Shared θ μ β α → Prop :=
  Relation.ReflTransGen fun s s' => ∃ t, Step t s s'

namespace Shared

def held (s : Shared θ μ β α) (t : θ) : Held β :=
  fun m => if s.owner m = some t then some (s.cells m) else none

omit [DecidableEq μ] in
theorem held_eq_some {s : Shared θ μ β α} (h : s.held t m = some b) :
    s.owner m = some t ∧ s.cells m = b := by
  rw [held] at h
  split at h
  · exact ⟨‹_›, Option.some.inj h⟩
  · cases h

theorem held_move_self (s : Shared θ μ β α) (t : θ) (m : μ) (b : β m) (o : Option θ)
    (p : Program μ β α) : (s.move t m b o p).held t =
      Function.update (s.held t) m (if o = some t then some b else none) := by
  funext n
  by_cases hn : n = m
  · subst hn
    simp only [held, move, Function.update_self]
  · simp only [held, move, Function.update_of_ne hn]

theorem held_move_other (s : Shared θ μ β α) (b : β m) (p : Program μ β α)
    (hs : s.owner m ≠ some u) (ho : o ≠ some u) : (s.move t m b o p).held u = s.held u := by
  funext n
  by_cases hn : n = m
  · subst hn
    simp only [held, move, Function.update_self, if_neg hs, if_neg ho]
  · simp only [held, move, Function.update_of_ne hn]

theorem todo_move (s : Shared θ μ β α) (t : θ) (m : μ) (b : β m) (o : Option θ)
    (p : Program μ β α) : (s.move t m b o p).todo t = p := Function.update_self ..

theorem todo_move_other {s : Shared θ μ β α} (hu : u ≠ t) {b : β m} :
    (s.move t m b o p).todo u = s.todo u := Function.update_of_ne hu ..

theorem cells_move_self (s : Shared θ μ β α) (t : θ) (m : μ) (o : Option θ)
    (p : Program μ β α) : (s.move t m (s.cells m) o p).cells = s.cells :=
  Function.update_eq_self m s.cells

theorem owner_move_self (s : Shared θ μ β α) (t : θ) (m : μ) (b : β m) (p : Program μ β α) :
    (s.move t m b (s.owner m) p).owner = s.owner :=
  Function.update_eq_self m s.owner

end Shared

/-- The threads have kept to the discipline, and each will go on so and end with its `Q`. -/
structure Kept (d : Discipline μ β) (Q : θ → Held β → α → Prop) (s : Shared θ μ β α) : Prop where
  always : ∀ m, d.always m (s.cells m)
  between : ∀ m, s.owner m = none → d.between m (s.cells m)
  ahead : ∀ t, wp d (Q t) (s.todo t) (s.held t)

variable {d : Discipline μ β} {Q : θ → Held β → α → Prop} {s s' : Shared θ μ β α}

theorem Kept.start {cells : (m : μ) → β m} {program : θ → Program μ β α}
    (ha : ∀ m, d.always m (cells m)) (hb : ∀ m, d.between m (cells m))
    (hp : ∀ t, wp d (Q t) (program t) (Held.nothing β)) :
    Kept d Q (Program.start cells program) where
  always := ha
  between := fun m _ => hb m
  ahead := hp

theorem Kept.move (h : Kept d Q s) {b : β m} (hs : s.owner m = none ∨ s.owner m = some t)
    (ho : o = none ∨ o = some t) (ha : d.always m b) (hb : o = none → d.between m b)
    (hp : wp d (Q t) p (Function.update (s.held t) m (if o = some t then some b else none))) :
    Kept d Q (s.move t m b o p) where
  always := by
    intro n
    by_cases hn : n = m
    · subst hn
      simpa only [Shared.move, Function.update_self] using ha
    · simpa only [Shared.move, Function.update_of_ne hn] using h.always n
  between := by
    intro n hf
    by_cases hn : n = m
    · subst hn
      simp only [Shared.move, Function.update_self] at hf ⊢
      exact hb hf
    · simp only [Shared.move, Function.update_of_ne hn] at hf ⊢
      exact h.between n hf
  ahead := by
    intro u
    by_cases hu : u = t
    · subst hu
      rw [Shared.held_move_self, Shared.todo_move]
      exact hp
    · have hne {o : Option θ} (ho : o = none ∨ o = some t) : o ≠ some u := by
        rintro rfl
        rcases ho with ho | ho
        · cases ho
        · exact hu (Option.some.inj ho)
      rw [Shared.held_move_other s b p (hne hs) (hne ho), Shared.todo_move_other hu]
      exact h.ahead u

theorem Kept.step (h : Kept d Q s) (hs : Step t s s') : Kept d Q s' := by
  cases hs with
  | @acquire m p ht hfree =>
    have hp := h.ahead t
    rw [ht] at hp
    apply h.move (.inl hfree) (.inr rfl) (h.always m) (by simp)
    rw [if_pos rfl]
    exact hp.2.2 _ (h.always m) (h.between m hfree)
  | @release m p ht =>
    have hp := h.ahead t
    rw [ht] at hp
    obtain ⟨b, hb, hf, hp⟩ := hp
    obtain ⟨how, rfl⟩ := Shared.held_eq_some hb
    apply h.move (.inr how) (.inl rfl) (h.always m) (fun _ => hf)
    rw [if_neg (by simp)]
    exact hp
  | @access m f p ht =>
    have hp := h.ahead t
    rw [ht] at hp
    obtain ⟨b, hb, ha, hp⟩ := hp
    obtain ⟨how, rfl⟩ := Shared.held_eq_some hb
    apply h.move (.inr how) (.inr how) ha (by simp [how])
    rw [if_pos how]
    exact hp
  | @peek m p ht =>
    have hp := h.ahead t
    rw [ht] at hp
    have heq : s.move t m (s.cells m) (s.owner m) (p (s.cells m)) =
        { s with todo := Function.update s.todo t (p (s.cells m)) } := by
      simp only [Shared.move, Function.update_eq_self]
    rw [heq]
    constructor
    · exact h.always
    · exact h.between
    · intro u
      change wp d (Q u) (Function.update s.todo t (p (s.cells m)) u) (s.held u)
      by_cases hu : u = t
      · subst hu
        rw [Function.update_self]
        exact hp _ (h.always m)
      · rw [Function.update_of_ne hu]
        exact h.ahead u

theorem Kept.run (h : Kept d Q s) (hr : Runs s s') : Kept d Q s' := by
  induction hr with
  | refl => exact h
  | tail _ hs ih =>
    obtain ⟨t, hs⟩ := hs
    exact ih.step hs

/-- A thread that is about to work on a cell has its mutex. -/
theorem Kept.guarded (h : Kept d Q s) (ht : s.todo t = .access m f p) :
    s.owner m = some t := by
  have hp := h.ahead t
  rw [ht] at hp
  obtain ⟨b, hb, _⟩ := hp
  exact (Shared.held_eq_some hb).1

theorem Uses.step {P : θ → μ → Prop} {A : θ → (m : μ) → (β m → β m) → Prop}
    (h : ∀ u, (s.todo u).Uses (P u) (A u) fun _ => True) (hs : Step t s s') (u : θ) :
    (s'.todo u).Uses (P u) (A u) fun _ => True := by
  have hmove {m : μ} {b : β m} {o : Option θ} {p : Program μ β α}
      (hp : p.Uses (P t) (A t) fun _ => True) :
      ((s.move t m b o p).todo u).Uses (P u) (A u) fun _ => True := by
    by_cases hu : u = t
    · subst hu
      rw [Shared.todo_move]
      exact hp
    · rw [Shared.todo_move_other hu]
      exact h u
  have ht := h t
  cases hs with
  | acquire hd hfree =>
    rw [hd] at ht
    exact hmove ht
  | release hd =>
    rw [hd] at ht
    exact hmove ht
  | access hd =>
    rw [hd] at ht
    exact hmove (ht.2 _)
  | peek hd =>
    rw [hd] at ht
    exact hmove (ht.2 _)

omit [DecidableEq θ] [DecidableEq μ] in
theorem Uses.accesses {P : θ → μ → Prop} {A : θ → (m : μ) → (β m → β m) → Prop}
    (h : ∀ u, (s.todo u).Uses (P u) (A u) fun _ => True) (ht : s.todo t = .access m f p) :
    A t m f := by
  have hp := h t
  rw [ht] at hp
  exact hp.1

omit [DecidableEq θ] [DecidableEq μ] in
theorem Uses.peeks {P : θ → μ → Prop} {A : θ → (m : μ) → (β m → β m) → Prop}
    (h : ∀ u, (s.todo u).Uses (P u) (A u) fun _ => True) (ht : s.todo t = .peek m p) : P t m := by
  have hp := h t
  rw [ht] at hp
  exact hp.1

theorem Uses.run {P : θ → μ → Prop} {A : θ → (m : μ) → (β m → β m) → Prop}
    (h : ∀ u, (s.todo u).Uses (P u) (A u) fun _ => True) (hr : Runs s s') (u : θ) :
    (s'.todo u).Uses (P u) (A u) fun _ => True := by
  induction hr generalizing u with
  | refl => exact h u
  | tail _ hs ih =>
    obtain ⟨t, hs⟩ := hs
    exact Uses.step ih hs u

/-- A thread has ended, or it can step, or it waits for a mutex that somebody has. -/
theorem turn (s : Shared θ μ β α) (t : θ) :
    (∃ a, s.todo t = .done a) ∨ (∃ s', Step t s s') ∨
      ∃ m p u, s.todo t = .acquire m p ∧ s.owner m = some u := by
  cases ht : s.todo t with
  | done a => exact .inl ⟨a, rfl⟩
  | acquire m p =>
    cases ho : s.owner m with
    | none => exact .inr (.inl ⟨_, .acquire ht ho⟩)
    | some u => exact .inr (.inr ⟨m, p, u, rfl, ho⟩)
  | release m p => exact .inr (.inl ⟨_, .release ht⟩)
  | access m f p => exact .inr (.inl ⟨_, .access ht⟩)
  | peek m p => exact .inr (.inl ⟨_, .peek ht⟩)

/-- When mutexes are only taken upwards, and there is no way up without end, somebody can
step as long as a mutex is held. -/
theorem Kept.holder_steps (h : Kept d Q s) (hQ : ∀ t held a, Q t held a → held = .nothing β)
    (hwf : WellFounded fun n m => d.before m n) (hm : s.owner m = some t) :
    ∃ u s', Step u s s' := by
  induction m using hwf.induction generalizing t with
  | _ m ih =>
    have hheld : s.held t m ≠ none := by
      rw [Shared.held, if_pos hm]
      exact Option.some_ne_none _
    rcases turn s t with ⟨a, ht⟩ | hstep | ⟨n, p, u, ht, hu⟩
    · have hp := h.ahead t
      rw [ht] at hp
      rw [hQ t _ a hp] at hheld
      exact absurd rfl hheld
    · exact ⟨t, hstep⟩
    · have hp := h.ahead t
      rw [ht] at hp
      exact ih n (hp.2.1 m hheld) hu

/-- No deadlock: as long as a thread has not ended, somebody can step. -/
theorem Kept.progress (h : Kept d Q s) (hQ : ∀ t held a, Q t held a → held = .nothing β)
    (hwf : WellFounded fun n m => d.before m n) (ht : ∀ a, s.todo t ≠ .done a) :
    ∃ u s', Step u s s' := by
  rcases turn s t with ⟨a, hd⟩ | hstep | ⟨m, p, u, _, hu⟩
  · exact absurd hd (ht a)
  · exact ⟨t, hstep⟩
  · exact h.holder_steps hQ hwf hu

theorem Step.rest {s s' : Shared θ μ β α} (h : Step t s s') :
    Rest (s'.todo t) (s.todo t) ∧ ∀ u, u ≠ t → s'.todo u = s.todo u := by
  cases h with
  | acquire ht hfree =>
    rw [ht, Shared.todo_move]
    exact ⟨.acquire _ _, fun u hu => Shared.todo_move_other hu⟩
  | release ht =>
    rw [ht, Shared.todo_move]
    exact ⟨.release _ _, fun u hu => Shared.todo_move_other hu⟩
  | access ht =>
    rw [ht, Shared.todo_move]
    exact ⟨.access _ _ _ _, fun u hu => Shared.todo_move_other hu⟩
  | peek ht =>
    rw [ht, Shared.todo_move]
    exact ⟨.peek _ _ _, fun u hu => Shared.todo_move_other hu⟩

/-- Finitely many threads take finitely many steps. -/
theorem steps_wellFounded [Fintype θ] :
    WellFounded fun s' s : Shared θ μ β α => ∃ t, Step t s s' := by
  classical
  apply Subrelation.wf _ (InvImage.wf (fun s : Shared θ μ β α => Finset.univ.val.map s.todo)
    rest_wellFounded.cutExpand)
  intro s' s hs
  obtain ⟨t, hs⟩ := hs
  obtain ⟨hrest, hothers⟩ := hs.rest
  have hsplit (f : θ → Program μ β α) :
      Finset.univ.val.map f = f t ::ₘ (Finset.univ.erase t).val.map f := by
    rw [← Multiset.map_cons, Finset.erase_val, Multiset.cons_erase (Finset.mem_univ_val t)]
  have hsame : (Finset.univ.erase t).val.map s'.todo = (Finset.univ.erase t).val.map s.todo := by
    apply Multiset.map_congr rfl
    exact fun u hu => hothers u (Finset.ne_of_mem_erase hu)
  change Relation.CutExpand Rest (Finset.univ.val.map s'.todo) (Finset.univ.val.map s.todo)
  rw [hsplit, hsplit, hsame, ← Multiset.singleton_add, ← Multiset.singleton_add]
  exact Relation.cutExpand_single_add hrest _

/-- Nobody but `t` has a mutex. -/
def Shared.Only (s : Shared θ μ β α) (t : θ) : Prop := ∀ m u, s.owner m = some u → u = t

theorem Shared.Only.step (h : s.Only t) (hs : Step t s s') :
    s'.Only t ∧ ∀ u, u ≠ t → s'.todo u = s.todo u := by
  have hmove {m : μ} {b : β m} {o : Option θ} {p : Program μ β α} (ho : ∀ u, o = some u → u = t) :
      (s.move t m b o p).Only t ∧ ∀ u, u ≠ t → (s.move t m b o p).todo u = s.todo u := by
    apply And.intro
    · intro n u hn
      by_cases hnm : n = m
      · subst hnm
        simp only [Shared.move, Function.update_self] at hn
        exact ho u hn
      · simp only [Shared.move, Function.update_of_ne hnm] at hn
        exact h n u hn
    · exact fun u hu => Shared.todo_move_other hu
  cases hs with
  | acquire ht hfree => exact hmove fun u hu => (Option.some.inj hu).symm
  | release ht => exact hmove fun u hu => by cases hu
  | access ht => exact hmove (h _)
  | peek ht => exact hmove (h _)

def Shared.Idle (s : Shared θ μ β α) : Prop := ∀ m, s.owner m = none

omit [DecidableEq θ] [DecidableEq μ] in
theorem Shared.Idle.only (h : s.Idle) (t : θ) : s.Only t := by
  intro m u hu
  rw [h m] at hu
  cases hu

omit [DecidableEq μ] in
theorem Shared.Only.idle (h : s.Only t) (ht : s.held t = .nothing β) : s.Idle := by
  intro m
  cases ho : s.owner m with
  | none => rfl
  | some u =>
    obtain rfl := h m u ho
    have hn := congrFun ht m
    rw [Shared.held, if_pos ho] at hn
    cases hn

omit [DecidableEq μ] in
theorem Shared.Idle.held (h : s.Idle) (t : θ) : s.held t = .nothing β :=
  funext fun m => if_neg (by simp [h m])

/-- A thread has got to `c`, goes on from there with `k`, and `P` holds. -/
structure Shared.After (s : Shared θ μ β α) (t : θ) (k : γ → Program μ β α) (c : γ)
    (cells : (m : μ) → β m) (P : Held β → γ → Prop) : Prop where
  todo : s.todo t = k c
  cells : s.cells = cells
  post : P (s.held t) c

/-- A thread whose next part is `p` can run it to its end when nobody else has a mutex. -/
theorem Kept.alone {p : Program μ β γ} {k : γ → Program μ β α} (h : Kept d Q s)
    (hf : s.Only t) (ht : s.todo t = p.bind k) (hp : wp d P p (s.held t)) :
    ∃ s', Runs s s' ∧ s'.After t k (p.alone s.cells).result (p.alone s.cells).cells P ∧
      s'.Only t ∧ ∀ u, u ≠ t → s'.todo u = s.todo u := by
  have hgo {s s' : Shared θ μ β α} {c cells} (hf : s.Only t) (hs : Step t s s')
      (hrest : s'.Only t → ∃ s'', Runs s' s'' ∧ s''.After t k c cells P ∧ s''.Only t ∧
        ∀ u, u ≠ t → s''.todo u = s'.todo u) :
      ∃ s'', Runs s s'' ∧ s''.After t k c cells P ∧ s''.Only t ∧
        ∀ u, u ≠ t → s''.todo u = s.todo u := by
    obtain ⟨hf', hother⟩ := hf.step hs
    obtain ⟨s'', hr, ha, ho, hu⟩ := hrest hf'
    exact ⟨s'', .head ⟨t, hs⟩ hr, ha, ho, fun u hut => (hu u hut).trans (hother u hut)⟩
  induction p generalizing s with
  | done c => exact ⟨s, .refl, ⟨ht, rfl, hp⟩, hf, fun _ _ => rfl⟩
  | acquire m p ih =>
    obtain ⟨hn, _, hp⟩ := hp
    have hfree : s.owner m = none := by
      cases ho : s.owner m with
      | none => rfl
      | some u =>
        rw [Shared.held, if_pos (by rw [ho, hf m u ho])] at hn
        cases hn
    have hw : wp d P p ((s.move t m (s.cells m) (some t) (p.bind k)).held t) := by
      rw [Shared.held_move_self, if_pos rfl]
      exact hp _ (h.always m) (h.between m hfree)
    have hrest hf' := ih (h.step (.acquire ht hfree)) hf' (s.todo_move _ _ _ _ _) hw
    simp only [Shared.cells_move_self] at hrest
    exact hgo hf (.acquire ht hfree) hrest
  | release m p ih =>
    obtain ⟨b, hb, _, hp⟩ := hp
    have hw : wp d P p ((s.move t m (s.cells m) none (p.bind k)).held t) := by
      rw [Shared.held_move_self, if_neg (by simp)]
      exact hp
    have hrest hf' := ih (h.step (.release ht)) hf' (s.todo_move _ _ _ _ _) hw
    simp only [Shared.cells_move_self] at hrest
    exact hgo hf (.release ht) hrest
  | access m f p ih =>
    obtain ⟨b, hb, _, hp⟩ := hp
    obtain ⟨how, rfl⟩ := Shared.held_eq_some hb
    apply hgo hf (.access ht) fun hf' =>
      ih (s.cells m) (h.step (.access ht)) hf' (s.todo_move _ _ _ _ _) ?_
    rw [Shared.held_move_self, if_pos how]
    exact hp
  | peek m p ih =>
    have hw : wp d P (p (s.cells m))
        ((s.move t m (s.cells m) (s.owner m) ((p (s.cells m)).bind k)).held t) := by
      have hheld : (if s.owner m = some t then some (s.cells m) else none) = s.held t m := rfl
      rw [Shared.held_move_self, hheld, Function.update_eq_self]
      exact hp _ (h.always m)
    have hrest hf' := ih (s.cells m) (h.step (.peek ht)) hf' (s.todo_move _ _ _ _ _) hw
    simp only [Shared.cells_move_self] at hrest
    exact hgo hf (.peek ht) hrest

/-- The same where nobody has a mutex before, and nobody has one after. -/
theorem Kept.alone_idle {p : Program μ β γ} {k : γ → Program μ β α} {P : γ → Prop}
    (h : Kept d Q s) (hi : s.Idle) (ht : s.todo t = p.bind k)
    (hp : wp d (fun held c => held = .nothing β ∧ P c) p (.nothing β)) :
    ∃ s', Runs s s' ∧ s'.Idle ∧ s'.todo t = k (p.alone s.cells).result ∧
      s'.cells = (p.alone s.cells).cells ∧ P (p.alone s.cells).result ∧
        ∀ u, u ≠ t → s'.todo u = s.todo u := by
  rw [← hi.held t] at hp
  obtain ⟨s', hr, ha, ho, hu⟩ := h.alone (hi.only t) ht hp
  exact ⟨s', hr, ho.idle (ha.post.1.trans (hi.held t)), ha.todo, ha.cells, ha.post.2, hu⟩

end Threads

attribute [irreducible] wp Uses

end Program
end Lib
