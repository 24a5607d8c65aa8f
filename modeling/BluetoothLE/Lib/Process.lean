import BluetoothLE.Lib.Program

namespace Lib
set_option autoImplicit true
namespace Program

section Threads
variable {θ : Type t} {μ : Type u} {β : μ → Type v} [DecidableEq θ] [DecidableEq μ]
variable {ended : ((m : μ) → β m) → Bool} {s s' : Shared θ μ β α}

/-- Thread `t` takes its next step in a process that has not ended. -/
def LiveStep (ended : ((m : μ) → β m) → Bool) (t : θ) (s s' : Shared θ μ β α) : Prop :=
  ended s.cells = false ∧ Step t s s'

/-- A run of the threads, by turns in any order. What ends the process stops them all. -/
def LiveRuns (ended : ((m : μ) → β m) → Bool) : Shared θ μ β α → Shared θ μ β α → Prop :=
  Relation.ReflTransGen fun s s' => ∃ t, LiveStep ended t s s'

theorem LiveRuns.runs (h : LiveRuns ended s s') : Runs s s' := by
  induction h with
  | refl => exact .refl
  | tail _ hs ih =>
    obtain ⟨t, -, hs⟩ := hs
    exact ih.tail ⟨t, hs⟩

theorem liveSteps_wellFounded [Fintype θ] :
    WellFounded fun s' s : Shared θ μ β α => ∃ t, LiveStep ended t s s' := by
  apply Subrelation.wf _ steps_wellFounded
  rintro s' s ⟨t, -, hs⟩
  exact ⟨t, hs⟩

/-- No step takes back that the process has ended. -/
def Lasts (ended : ((m : μ) → β m) → Bool) (m : μ) (f : β m → β m) : Prop :=
  ∀ cells, ended cells = true → ended (Function.update cells m (f (cells m))) = true

theorem Step.lasts {P : θ → μ → Prop}
    (h : ∀ u, (s.todo u).Uses (P u) (Lasts ended) fun _ => True) (hs : Step t s s')
    (he : ended s.cells = true) : ended s'.cells = true := by
  cases hs with
  | acquire ht hfree => rwa [Shared.cells_move_self]
  | release ht => rwa [Shared.cells_move_self]
  | access ht => exact Uses.accesses h ht s.cells he
  | peek ht => rwa [Shared.cells_move_self]

/-- A run at whose end the process is there is one that nothing has stopped. -/
theorem Runs.live {P : θ → μ → Prop}
    (h : ∀ u, (s.todo u).Uses (P u) (Lasts ended) fun _ => True) (hr : Runs s s')
    (he : ended s'.cells = false) : LiveRuns ended s s' := by
  induction hr with
  | refl => exact .refl
  | @tail s₁ s₂ hr hs ih =>
    obtain ⟨t, hs⟩ := hs
    have halive : ended s₁.cells = false := by
      by_contra hended
      have hlasts := hs.lasts (Uses.run h hr) (Bool.of_not_eq_false hended)
      rw [he] at hlasts
      cases hlasts
    exact .tail (ih halive) ⟨t, halive, hs⟩

/-- A cell that no thread changes is as it was. -/
theorem Uses.run_cell {P : θ → μ → Prop} {A : θ → (m : μ) → (β m → β m) → Prop} {m : μ}
    (h : ∀ u, (s.todo u).Uses (P u) (A u) fun _ => True) (hA : ∀ u f, A u m f → ∀ b, f b = b)
    (hr : Runs s s') : s'.cells m = s.cells m := by
  induction hr with
  | refl => rfl
  | @tail s₁ s₂ hr hs ih =>
    obtain ⟨t, hs⟩ := hs
    rw [← ih]
    cases hs with
    | acquire ht hfree => rw [Shared.cells_move_self]
    | release ht => rw [Shared.cells_move_self]
    | @access n f p ht =>
      have hf := Uses.accesses (Uses.run h hr) ht
      by_cases hn : m = n
      · subst hn
        exact (Function.update_self ..).trans (hA t f hf _)
      · exact Function.update_of_ne hn ..
    | peek ht => rw [Shared.cells_move_self]

end Threads
end Program
end Lib
