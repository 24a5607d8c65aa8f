import BluetoothLE.Lib.Program

namespace Lib
set_option autoImplicit true
namespace Program

/-- A mutex with the cells that it guards and what holds of them while it is free. Threads may
use the other cells as they like, and these only with the mutex. -/
structure Monitor (μ : Type u) (β : μ → Type v) where
  mutex : μ
  guards : μ → Prop
  inv : ((m : μ) → β m) → Prop
  depends : ∀ cells cells', (∀ m, guards m → cells m = cells' m) → inv cells → inv cells'

/-- Nothing is said of any cell, so that only the mutex counts. -/
structure Monitor.Bare (r : Monitor μ β) : Prop where
  guards : ∀ m, ¬ r.guards m
  inv : ∀ cells, r.inv cells

section Rules
variable {μ : Type u} {β : μ → Type v} [DecidableEq μ]

/-- The program takes no mutex but the monitor's, keeps its invariant, and ends with `Q`. What
it has of the cells is what it found when it took the mutex and has made of it since. -/
def Within (r : Monitor μ β) (Q : Option ((m : μ) → β m) → α → Prop) :
    Program μ β α → Option ((m : μ) → β m) → Prop
  | .done a, held => Q held a
  | .acquire m p, held => m = r.mutex ∧ held = none ∧
      ∀ cells, r.inv cells → Within r Q p (some cells)
  | .release m p, held => m = r.mutex ∧ ∃ cells, held = some cells ∧ r.inv cells ∧
      Within r Q p none
  | .access m f p, held =>
      (r.guards m → ∃ cells, held = some cells ∧
        Within r Q (p (cells m)) (some (Function.update cells m (f (cells m))))) ∧
      (¬ r.guards m → ∀ b, Within r Q (p b) held)
  | .peek m p, held => ¬ r.guards m ∧ ∀ b, Within r Q (p b) held

variable {r : Monitor μ β} {held : Option ((m : μ) → β m)}

theorem within_mono {Q Q' : Option ((m : μ) → β m) → α → Prop} {p : Program μ β α}
    (h : Within r Q p held) (hQ : ∀ held a, Q held a → Q' held a) : Within r Q' p held := by
  induction p generalizing held with
  | done a => exact hQ held a h
  | acquire m p ih => exact ⟨h.1, h.2.1, fun cells hc => ih (h.2.2 cells hc)⟩
  | release m p ih =>
    obtain ⟨hm, cells, hh, hi, hp⟩ := h
    exact ⟨hm, cells, hh, hi, ih hp⟩
  | access m f p ih =>
    apply And.intro
    · intro hg
      obtain ⟨cells, hh, hp⟩ := h.1 hg
      exact ⟨cells, hh, ih _ hp⟩
    · exact fun hg b => ih b (h.2 hg b)
  | peek m p ih => exact ⟨h.1, fun b => ih b (h.2 b)⟩

theorem within_bind {Q : Option ((m : μ) → β m) → γ → Prop} {p : Program μ β α}
    {k : α → Program μ β γ} (h : Within r (fun held a => Within r Q (k a) held) p held) :
    Within r Q (p.bind k) held := by
  induction p generalizing held with
  | done a => exact h
  | acquire m p ih => exact ⟨h.1, h.2.1, fun cells hc => ih (h.2.2 cells hc)⟩
  | release m p ih =>
    obtain ⟨hm, cells, hh, hi, hp⟩ := h
    exact ⟨hm, cells, hh, hi, ih hp⟩
  | access m f p ih =>
    apply And.intro
    · intro hg
      obtain ⟨cells, hh, hp⟩ := h.1 hg
      exact ⟨cells, hh, ih _ hp⟩
    · exact fun hg b => ih b (h.2 hg b)
  | peek m p ih => exact ⟨h.1, fun b => ih b (h.2 b)⟩

theorem within_done {Q : Option ((m : μ) → β m) → α → Prop} (h : Q held a) :
    Within r Q (.done a) held := h

theorem within_peek {Q : Option ((m : μ) → β m) → γ → Prop} {k : β m → γ}
    (hg : ¬ r.guards m) (h : ∀ b, Q held (k b)) :
    Within r Q (.peek m fun b => .done (k b)) held := ⟨hg, h⟩

/-- A cell of the monitor, while the mutex is held. -/
theorem within_guarded {Q : Option ((m : μ) → β m) → γ → Prop} {f : β m → β m} {k : β m → γ}
    {cells : (m : μ) → β m} (hg : r.guards m)
    (h : Q (some (Function.update cells m (f (cells m)))) (k (cells m))) :
    Within r Q (.access m f fun b => .done (k b)) (some cells) :=
  ⟨fun _ => ⟨cells, rfl, h⟩, fun hn => absurd hg hn⟩

/-- A cell that the monitor leaves alone. -/
theorem within_other {Q : Option ((m : μ) → β m) → γ → Prop} {f : β m → β m} {k : β m → γ}
    (hg : ¬ r.guards m) (h : ∀ b, Q held (k b)) :
    Within r Q (.access m f fun b => .done (k b)) held :=
  ⟨fun hm => absurd hm hg, fun _ => h⟩

theorem within_locked {Q : Option ((m : μ) → β m) → α → Prop} {p : Program μ β α}
    (h : ∀ cells, r.inv cells → Within r (fun held a => ∃ cells', held = some cells' ∧
      r.inv cells' ∧ Q none a) p (some cells)) : Within r Q (locked r.mutex p) none := by
  refine ⟨rfl, rfl, fun cells hc => within_bind (within_mono (h cells hc) ?_)⟩
  intro held a hQ
  obtain ⟨cells', hh, hi, hQ⟩ := hQ
  exact ⟨rfl, cells', hh, hi, hQ⟩

theorem within_each {ps : List (Program μ β α)}
    (h : ∀ p ∈ ps, Within r (fun held _ => held = none) p none) :
    Within r (fun held _ => held = none) (each ps) none := by
  induction ps with
  | nil => rfl
  | cons p ps ih =>
    apply within_bind
    apply within_mono (h p List.mem_cons_self)
    rintro held a rfl
    exact ih fun q hq => h q (List.mem_cons_of_mem _ hq)

/-- Only the cells of the monitor count. -/
theorem within_congr {p : Program μ β α} {cells cells' : (m : μ) → β m}
    (h : Within r (fun held _ => held = none) p (some cells))
    (hc : ∀ m, r.guards m → cells m = cells' m) :
    Within r (fun held _ => held = none) p (some cells') := by
  induction p generalizing cells cells' with
  | done a => cases h
  | acquire m p ih => cases h.2.1
  | release m p ih =>
    obtain ⟨hm, _, hh, hi, hp⟩ := h
    cases hh
    exact ⟨hm, cells', rfl, r.depends cells cells' hc hi, hp⟩
  | access m f p ih =>
    apply And.intro
    · intro hg
      obtain ⟨_, hh, hp⟩ := h.1 hg
      cases hh
      refine ⟨cells', rfl, ?_⟩
      rw [hc m hg] at hp
      apply ih _ hp
      intro n hn
      by_cases hnm : n = m
      · subst hnm
        rw [Function.update_self, Function.update_self]
      · rw [Function.update_of_ne hnm, Function.update_of_ne hnm, hc n hn]
    · exact fun hg b => ih b (h.2 hg b) hc
  | peek m p ih => exact ⟨h.1, fun b => ih b (h.2 b) hc⟩

end Rules

section Threads
variable {θ : Type t} {μ : Type u} {β : μ → Type v} [DecidableEq θ] [DecidableEq μ]
variable {r : Monitor μ β} {s s' : Shared θ μ β α}

/-- What a thread that has the monitor's mutex has of the cells. -/
def Shared.inside (s : Shared θ μ β α) (r : Monitor μ β) (t : θ) : Option ((m : μ) → β m) :=
  if s.owner r.mutex = some t then some s.cells else none

/-- The threads keep to the monitor, and will go on so. -/
structure Monitored (r : Monitor μ β) (s : Shared θ μ β α) : Prop where
  free : s.owner r.mutex = none → r.inv s.cells
  ahead : ∀ t, Within r (fun held _ => held = none) (s.todo t) (s.inside r t)

theorem Monitored.start {cells : (m : μ) → β m} {program : θ → Program μ β α}
    (hi : r.inv cells) (hp : ∀ t, Within r (fun held _ => held = none) (program t) none) :
    Monitored r (Program.start cells program) := ⟨fun _ => hi, hp⟩

omit [DecidableEq μ] in
theorem Shared.inside_eq_some {cells : (m : μ) → β m} (h : s.inside r t = some cells) :
    s.owner r.mutex = some t ∧ s.cells = cells := by
  rw [inside] at h
  split_ifs at h with ho
  exact ⟨ho, Option.some.inj h⟩

theorem Monitored.move (h : Monitored r s) {b : β m} {o : Option θ} {p : Program μ β α}
    (hfree : (s.move t m b o p).owner r.mutex = none → r.inv (s.move t m b o p).cells)
    (hp : Within r (fun held _ => held = none) p ((s.move t m b o p).inside r t))
    (hothers : ∀ u, u ≠ t → ((s.move t m b o p).owner r.mutex = some u ↔
      s.owner r.mutex = some u))
    (hcells : s.owner r.mutex ≠ some t → ∀ n, r.guards n →
      s.cells n = (s.move t m b o p).cells n) : Monitored r (s.move t m b o p) where
  free := hfree
  ahead := by
    intro u
    by_cases hu : u = t
    · subst hu
      rw [Shared.todo_move]
      exact hp
    · have hw := h.ahead u
      rw [Shared.inside] at hw
      rw [Shared.todo_move_other hu, Shared.inside]
      by_cases ho : s.owner r.mutex = some u
      · rw [if_pos ho] at hw
        rw [if_pos ((hothers u hu).2 ho)]
        apply within_congr hw
        apply hcells
        rw [ho]
        exact fun ht => hu (Option.some.inj ht)
      · rw [if_neg ho] at hw
        rw [if_neg fun h => ho ((hothers u hu).1 h)]
        exact hw

theorem Monitored.acquire (h : Monitored r s) (ht : s.todo t = .acquire m p)
    (hfree : s.owner m = none) : Monitored r (s.move t m (s.cells m) (some t) p) := by
  have hw := h.ahead t
  rw [ht] at hw
  obtain ⟨rfl, -, hp⟩ := hw
  have ho : (s.move t r.mutex (s.cells r.mutex) (some t) p).owner r.mutex = some t :=
    Function.update_self ..
  apply h.move
  · rw [ho]
    intro hn
    cases hn
  · rw [Shared.inside, if_pos ho, Shared.cells_move_self]
    exact hp _ (h.free hfree)
  · intro u hu
    rw [ho, hfree]
    simp [Ne.symm hu]
  · intro _ n _
    rw [Shared.cells_move_self]

theorem Monitored.release (h : Monitored r s) (ht : s.todo t = .release m p) :
    Monitored r (s.move t m (s.cells m) none p) := by
  have hw := h.ahead t
  rw [ht] at hw
  obtain ⟨rfl, cells, hin, hi, hp⟩ := hw
  obtain ⟨how, rfl⟩ := Shared.inside_eq_some hin
  have ho : (s.move t r.mutex (s.cells r.mutex) none p).owner r.mutex = none :=
    Function.update_self ..
  apply h.move
  · intro _
    rw [Shared.cells_move_self]
    exact hi
  · rw [Shared.inside, if_neg (by rw [ho]; simp)]
    exact hp
  · intro u hu
    rw [ho, how]
    simp [Ne.symm hu]
  · intro _ n _
    rw [Shared.cells_move_self]

theorem Shared.inside_access (s : Shared θ μ β α) (b : β m) (p : Program μ β α) :
    (s.move t m b (s.owner m) p).inside r t =
      (s.inside r t).map fun _ => Function.update s.cells m b := by
  rw [inside, inside, Shared.owner_move_self]
  split_ifs <;> rfl

/-- The mutex is held where a cell of the monitor changes. -/
theorem Monitored.access_guarded (h : Monitored r s) (hg : r.guards m)
    (ht : s.todo t = .access m f p) :
    Monitored r (s.move t m (f (s.cells m)) (s.owner m) (p (s.cells m))) := by
  have hw := h.ahead t
  rw [ht] at hw
  obtain ⟨cells, hc, hp⟩ := hw.1 hg
  obtain ⟨how, rfl⟩ := Shared.inside_eq_some hc
  apply h.move
  · rw [Shared.owner_move_self, how]
    intro hn
    cases hn
  · rw [Shared.inside_access, hc]
    exact hp
  · exact fun u _ => by rw [Shared.owner_move_self]
  · exact fun hn => absurd how hn

/-- Any other cell is none of the monitor's business. -/
theorem Monitored.access_other (h : Monitored r s) (hg : ¬ r.guards m)
    (ht : s.todo t = .access m f p) :
    Monitored r (s.move t m (f (s.cells m)) (s.owner m) (p (s.cells m))) := by
  have hp := h.ahead t
  rw [ht] at hp
  replace hp := hp.2 hg (s.cells m)
  have hcells n (hn : r.guards n) :
      s.cells n = (s.move t m (f (s.cells m)) (s.owner m) (p (s.cells m))).cells n := by
    have hne : n ≠ m := by
      rintro rfl
      exact hg hn
    exact (Function.update_of_ne hne ..).symm
  apply h.move
  · rw [Shared.owner_move_self]
    exact fun hn => r.depends _ _ hcells (h.free hn)
  · rw [Shared.inside_access]
    cases hc : s.inside r t with
    | none =>
      rw [hc] at hp
      exact hp
    | some cells =>
      rw [hc] at hp
      obtain ⟨_, rfl⟩ := Shared.inside_eq_some hc
      exact within_congr hp hcells
  · exact fun u _ => by rw [Shared.owner_move_self]
  · exact fun _ => hcells

theorem Monitored.peek (h : Monitored r s) (ht : s.todo t = .peek m p) :
    Monitored r (s.move t m (s.cells m) (s.owner m) (p (s.cells m))) := by
  have hw := h.ahead t
  rw [ht] at hw
  apply h.move
  · rw [Shared.owner_move_self, Shared.cells_move_self]
    exact h.free
  · rw [Shared.inside, Shared.owner_move_self, Shared.cells_move_self]
    exact hw.2 _
  · exact fun u _ => by rw [Shared.owner_move_self]
  · intro _ n _
    rw [Shared.cells_move_self]

theorem Monitored.step (h : Monitored r s) (hs : Step t s s') : Monitored r s' := by
  cases hs with
  | acquire ht hfree => exact h.acquire ht hfree
  | release ht => exact h.release ht
  | @access m f p ht =>
    by_cases hg : r.guards m
    · exact h.access_guarded hg ht
    · exact h.access_other hg ht
  | peek ht => exact h.peek ht

theorem Monitored.run (h : Monitored r s) (hr : Runs s s') : Monitored r s' := by
  induction hr with
  | refl => exact h
  | tail _ hs ih =>
    obtain ⟨t, hs⟩ := hs
    exact ih.step hs

/-- A thread that is about to work on a cell of the monitor has its mutex. -/
theorem Monitored.guarded (h : Monitored r s) (hg : r.guards m) (ht : s.todo t = .access m f p) :
    s.owner r.mutex = some t := by
  have hw := h.ahead t
  rw [ht] at hw
  obtain ⟨cells, hc, _⟩ := hw.1 hg
  exact (Shared.inside_eq_some hc).1

theorem Monitored.not_peeks (h : Monitored r s) (hg : r.guards m) : s.todo t ≠ .peek m p := by
  intro ht
  have hw := h.ahead t
  rw [ht] at hw
  exact hw.1 hg

/-- No deadlock: as long as a thread has not ended, somebody can step. -/
theorem Monitored.progress (h : Monitored r s) (ht : ∀ a, s.todo t ≠ .done a) :
    ∃ u s', Step u s s' := by
  have hw := h.ahead t
  rcases turn s t with ⟨a, hd⟩ | hstep | ⟨m, p, u, ha, hu⟩
  · exact absurd hd (ht a)
  · exact ⟨t, hstep⟩
  · -- The thread waits for `u`, which has the mutex and can go on.
    rw [ha] at hw
    obtain ⟨rfl, -, -⟩ := hw
    have hw' := h.ahead u
    rw [Shared.inside, if_pos hu] at hw'
    rcases turn s u with ⟨a, hd⟩ | hstep | ⟨m, p, v, hv, -⟩
    · rw [hd] at hw'
      cases hw'
    · exact ⟨u, hstep⟩
    · rw [hv] at hw'
      cases hw'.2.1

/-- Nobody has the mutex at the end. -/
theorem Monitored.done_free {a : θ → α} (h : Monitored r s) (hd : ∀ t, s.todo t = .done (a t)) :
    s.owner r.mutex = none := by
  cases ho : s.owner r.mutex with
  | none => rfl
  | some t =>
    have hw := h.ahead t
    rw [hd t, Shared.inside, if_pos ho] at hw
    cases hw

/-- The thread can go on to `c` by itself, and leave these cells behind and no mutex taken. -/
def Finishes (s : Shared θ μ β α) (t : θ) (c : Program μ β α) (cells : (m : μ) → β m) : Prop :=
  ∃ s', Runs s s' ∧ s'.Idle ∧ s'.todo t = c ∧ s'.cells = cells ∧ ∀ u, u ≠ t → s'.todo u = s.todo u

theorem Finishes.head {c : Program μ β α} {cells : (m : μ) → β m} (hs : Step t s s')
    (h : Finishes s' t c cells) : Finishes s t c cells := by
  obtain ⟨s'', hr, hi, hc, hcells, hu⟩ := h
  exact ⟨s'', .head ⟨t, hs⟩ hr, hi, hc, hcells, fun u hut => (hu u hut).trans (hs.rest.2 u hut)⟩

/-- No mutex but the monitor's is held, and that one by no other thread. -/
def Sole (r : Monitor μ β) (s : Shared θ μ β α) (t : θ) : Prop :=
  ∀ m u, s.owner m = some u → m = r.mutex ∧ u = t

theorem Sole.move {b : β r.mutex} {o : Option θ} {p : Program μ β α} (h : Sole r s t)
    (ho : o = none ∨ o = some t) : Sole r (s.move t r.mutex b o p) t := by
  intro m u hm
  by_cases hne : m = r.mutex
  · subst hne
    simp only [Shared.move, Function.update_self] at hm
    rcases ho with rfl | rfl
    · cases hm
    · exact ⟨rfl, (Option.some.inj hm).symm⟩
  · simp only [Shared.move, Function.update_of_ne hne] at hm
    exact h m u hm

omit [DecidableEq θ] [DecidableEq μ] in
theorem Sole.idle (h : Sole r s t) (ho : s.owner r.mutex = none) : s.Idle := by
  intro m
  cases hm : s.owner m with
  | none => rfl
  | some u =>
    obtain ⟨rfl, -⟩ := h m u hm
    exact hm.symm.trans ho

theorem alone_inside {p : Program μ β γ} {k : γ → Program μ β α}
    {held : Option ((m : μ) → β m)} (hr : r.Bare) (hf : Sole r s t)
    (hh : held = none ↔ s.owner r.mutex = none) (ht : s.todo t = p.bind k)
    (hp : Within r (fun held _ => held = none) p held) :
    Finishes s t (k (p.alone s.cells).result) (p.alone s.cells).cells := by
  induction p generalizing s held with
  | done c => exact ⟨s, .refl, hf.idle (hh.1 hp), ht, rfl, fun _ _ => rfl⟩
  | acquire n p ih =>
    obtain ⟨rfl, hn, hp⟩ := hp
    have ho : (s.move t r.mutex (s.cells r.mutex) (some t) (p.bind k)).owner r.mutex = some t :=
      Function.update_self ..
    have hrest := ih (s := s.move t r.mutex (s.cells r.mutex) (some t) (p.bind k))
      (hf.move (.inr rfl)) (by simp [ho]) (s.todo_move ..) (hp s.cells (hr.inv _))
    rw [Shared.cells_move_self] at hrest
    exact .head (.acquire ht (hh.1 hn)) hrest
  | release n p ih =>
    obtain ⟨rfl, -, -, -, hp⟩ := hp
    have ho : (s.move t r.mutex (s.cells r.mutex) none (p.bind k)).owner r.mutex = none :=
      Function.update_self ..
    have hrest := ih (s := s.move t r.mutex (s.cells r.mutex) none (p.bind k))
      (hf.move (.inl rfl)) (by simp [ho]) (s.todo_move ..) hp
    rw [Shared.cells_move_self] at hrest
    exact .head (.release ht) hrest
  | access n f p ih =>
    exact .head (.access ht) (ih _ (by rwa [Sole, Shared.owner_move_self])
      (by rwa [Shared.owner_move_self]) (s.todo_move ..) (hp.2 (hr.guards n) _))
  | peek n p ih =>
    have hrest := ih (s.cells n)
      (s := s.move t n (s.cells n) (s.owner n) ((p (s.cells n)).bind k))
      (by rwa [Sole, Shared.owner_move_self]) (by rwa [Shared.owner_move_self]) (s.todo_move ..)
      (hp.2 _)
    rw [Shared.cells_move_self] at hrest
    exact .head (.peek ht) hrest

/-- What a thread does that takes no mutex but one, and gives it back, it can do at once while
nobody has a mutex. -/
theorem alone_runs {p : Program μ β γ} {k : γ → Program μ β α} (hr : r.Bare)
    (hi : s.Idle) (ht : s.todo t = p.bind k)
    (hp : Within r (fun held _ => held = none) p none) :
    Finishes s t (k (p.alone s.cells).result) (p.alone s.cells).cells := by
  apply alone_inside hr _ (iff_of_true rfl (hi r.mutex)) ht hp
  intro n u ho
  rw [hi n] at ho
  cases ho

end Threads

attribute [irreducible] Within

end Program
end Lib
