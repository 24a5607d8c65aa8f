import BluetoothLE.Lib.Program
import Mathlib.Algebra.BigOperators.Group.Finset.Basic

namespace Lib
set_option autoImplicit true
namespace Program

section Rules
variable {μ : Type u} {β : μ → Type v} [DecidableEq μ] {M : Type m} [AddCommMonoid M]

/-- Whatever the program reads, it adds `d` to the sum that `g` makes of the cells. -/
def Adds (g : ((m : μ) → β m) → M) : Program μ β α → M → Prop
  | .done _, d => d = 0
  | .acquire _ p, d | .release _ p, d => p.Adds g d
  | .access m f p, d => ∃ e d', d = e + d' ∧
      (∀ cells, g (Function.update cells m (f (cells m))) = g cells + e) ∧ ∀ b, (p b).Adds g d'
  | .peek _ p, d => ∀ b, (p b).Adds g d

variable {g : ((m : μ) → β m) → M}

theorem Adds.done {a : α} : (done a : Program μ β α).Adds g 0 := rfl

theorem Adds.bind {p : Program μ β α} {k : α → Program μ β γ} (hp : p.Adds g d)
    (hk : ∀ a, (k a).Adds g e) : (p.bind k).Adds g (d + e) := by
  induction p generalizing d with
  | done a =>
    obtain rfl : d = 0 := hp
    rw [zero_add]
    exact hk a
  | acquire m p ih => exact ih hp
  | release m p ih => exact ih hp
  | access m f p ih =>
    obtain ⟨e', d', rfl, hf, hp⟩ := hp
    exact ⟨e', d' + e, add_assoc _ _ _, hf, fun b => ih b (hp b)⟩
  | peek m p ih => exact fun b => ih b (hp b)

theorem Adds.bind_zero {p : Program μ β α} {k : α → Program μ β γ} (hp : p.Adds g 0)
    (hk : ∀ a, (k a).Adds g e) : (p.bind k).Adds g e := by
  rw [← zero_add e]
  exact hp.bind hk

theorem Adds.access {f : β m → β m} {r : β m → γ}
    (h : ∀ cells, g (Function.update cells m (f (cells m))) = g cells + e) :
    (access m f fun b => .done (r b) : Program μ β γ).Adds g e :=
  ⟨e, 0, (add_zero e).symm, h, fun _ => rfl⟩

theorem Adds.peek {r : β m → γ} : (peek m fun b => .done (r b) : Program μ β γ).Adds g 0 :=
  fun _ => rfl

theorem Adds.locked {p : Program μ β α} (h : p.Adds g d) : (locked m p).Adds g d := by
  have hreleased (a : α) : (release m (.done a) : Program μ β α).Adds g 0 := rfl
  rw [← add_zero d]
  exact Adds.bind h hreleased

theorem Adds.each {ι : Type*} {f : ι → Program μ β α} {due : ι → M} (xs : List ι)
    (h : ∀ x ∈ xs, (f x).Adds g (due x)) :
    (each (xs.map f)).Adds g (xs.map due).sum := by
  induction xs with
  | nil => exact Adds.done
  | cons x xs ih =>
    rw [List.map_cons, List.map_cons, List.sum_cons]
    exact Adds.bind (h x List.mem_cons_self) fun _ => ih fun y hy => h y (List.mem_cons_of_mem _ hy)

/-- A program that leaves alone what is summed up adds nothing. -/
theorem Uses.adds_zero {P : μ → Prop} {A : (m : μ) → (β m → β m) → Prop} {Q : α → Prop}
    {p : Program μ β α} (h : p.Uses P A Q)
    (hA : ∀ m f, A m f → ∀ cells, g (Function.update cells m (f (cells m))) = g cells) :
    p.Adds g 0 := by
  apply h.elim
  · exact fun _ => rfl
  · exact fun _ _ ih => ih
  · exact fun _ _ ih => ih
  · intro m f p hf ih
    refine ⟨0, 0, (add_zero 0).symm, fun cells => ?_, ih⟩
    rw [hA m f hf cells, add_zero]
  · exact fun _ _ ih => ih

end Rules

section Threads
variable {θ : Type t} {μ : Type u} {β : μ → Type v} [DecidableEq θ] [DecidableEq μ] [Fintype θ]
variable {M : Type m} [AddCommMonoid M] {g : ((m : μ) → β m) → M} {s s' : Shared θ μ β α}

/-- The cells and what the threads will yet add come to a total. -/
def Accounted (g : ((m : μ) → β m) → M) (total : M) (s : Shared θ μ β α) : Prop :=
  ∃ due : θ → M, (∀ t, (s.todo t).Adds g (due t)) ∧ g s.cells + ∑ t, due t = total

omit [DecidableEq θ] in
theorem Accounted.start {cells : (m : μ) → β m} {program : θ → Program μ β α} {due : θ → M}
    (h : ∀ t, (program t).Adds g (due t)) :
    Accounted g (g cells + ∑ t, due t) (Program.start cells program) := ⟨due, h, rfl⟩

/-- A thread pays a part of what it owes. -/
theorem Accounted.pay {due : θ → M} (hdue : ∀ u, (s.todo u).Adds g (due u))
    (hsum : g s.cells + ∑ u, due u = total) (hothers : ∀ u, u ≠ t → s'.todo u = s.todo u)
    (ht : (s'.todo t).Adds g d) (hd : due t = e + d) (hg : g s'.cells = g s.cells + e) :
    Accounted g total s' := by
  refine ⟨Function.update due t d, ?_, ?_⟩
  · intro u
    by_cases hu : u = t
    · subst hu
      rw [Function.update_self]
      exact ht
    · rw [Function.update_of_ne hu, hothers u hu]
      exact hdue u
  · have hbefore := Finset.add_sum_erase Finset.univ due (Finset.mem_univ t)
    have hafter := Finset.add_sum_erase Finset.univ (Function.update due t d) (Finset.mem_univ t)
    have hrest : ∑ u ∈ Finset.univ.erase t, Function.update due t d u =
        ∑ u ∈ Finset.univ.erase t, due u :=
      Finset.sum_congr rfl fun u hu => Function.update_of_ne (Finset.ne_of_mem_erase hu) ..
    rw [Function.update_self, hrest] at hafter
    rw [← hsum, ← hbefore, ← hafter, hd, hg, add_assoc, add_assoc]

theorem Accounted.step (h : Accounted g total s) (hs : Step t s s') : Accounted g total s' := by
  obtain ⟨due, hdue, hsum⟩ := h
  have ht := hdue t
  have hothers := hs.rest.2
  cases hs with
  | acquire htodo hfree =>
    rw [htodo] at ht
    refine .pay hdue hsum hothers ?_ (zero_add _).symm ?_
    · rw [Shared.todo_move]
      exact ht
    · rw [Shared.cells_move_self, add_zero]
  | release htodo =>
    rw [htodo] at ht
    refine .pay hdue hsum hothers ?_ (zero_add _).symm ?_
    · rw [Shared.todo_move]
      exact ht
    · rw [Shared.cells_move_self, add_zero]
  | access htodo =>
    rw [htodo] at ht
    obtain ⟨e, d, hd, hg, hp⟩ := ht
    refine .pay hdue hsum hothers ?_ hd (hg s.cells)
    rw [Shared.todo_move]
    exact hp _
  | peek htodo =>
    rw [htodo] at ht
    refine .pay hdue hsum hothers ?_ (zero_add _).symm ?_
    · rw [Shared.todo_move]
      exact ht _
    · rw [Shared.cells_move_self, add_zero]

theorem Accounted.run (h : Accounted g total s) (hr : Runs s s') : Accounted g total s' := by
  induction hr with
  | refl => exact h
  | tail _ hs ih =>
    obtain ⟨t, hs⟩ := hs
    exact ih.step hs

omit [DecidableEq θ] in
/-- Nothing is owed at the end. -/
theorem Accounted.settled (h : Accounted g total s) (hd : ∀ t, ∃ a, s.todo t = .done a) :
    g s.cells = total := by
  obtain ⟨due, hdue, hsum⟩ := h
  have hzero (t : θ) : due t = 0 := by
    obtain ⟨a, ha⟩ := hd t
    have ht := hdue t
    rw [ha] at ht
    exact ht
  rwa [Finset.sum_eq_zero fun t _ => hzero t, add_zero] at hsum

end Threads

attribute [irreducible] Adds

end Program
end Lib
