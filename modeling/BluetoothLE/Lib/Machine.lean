import Mathlib.Tactic.Common

namespace Lib
set_option autoImplicit true

/-- A deterministic machine answers each input and moves to its next state. -/
structure Machine (σ : Type u) (ι : Type v) (ο : Type w) where
  step : σ → ι → ο × σ

namespace Machine

def next (m : Machine σ ι ο) (s : σ) (i : ι) : σ := (m.step s i).2

def run (m : Machine σ ι ο) (s : σ) (is : List ι) : σ := is.foldl m.next s

@[simp] theorem run_cons (m : Machine σ ι ο) (s : σ) (i : ι) (is : List ι) :
    m.run s (i :: is) = m.run (m.next s i) is := rfl

theorem run_append (m : Machine σ ι ο) (s : σ) (is js : List ι) :
    m.run s (is ++ js) = m.run (m.run s is) js :=
  List.foldl_append

/-- `P` holds of every input of a run in the state it meets. -/
def Every (m : Machine σ ι ο) (P : σ → ι → Prop) : σ → List ι → Prop
  | _, [] => True
  | s, i :: is => P s i ∧ m.Every P (m.next s i) is

/-- What the steps of a run say, in order. -/
def said (m : Machine σ ι ο) (say : σ → ι → List α) : σ → List ι → List α
  | _, [] => []
  | s, i :: is => say s i ++ m.said say (m.next s i) is

theorem every_of_forall {m : Machine σ ι ο} (h : ∀ i ∈ is, ∀ s, P s i) : m.Every P s is := by
  induction is generalizing s with
  | nil => trivial
  | cons i is ih =>
    exact ⟨h i List.mem_cons_self s, ih fun j hj => h j (List.mem_cons_of_mem i hj)⟩

theorem every_and {m : Machine σ ι ο} :
    m.Every (fun s i => P s i ∧ Q s i) s is ↔ m.Every P s is ∧ m.Every Q s is := by
  induction is generalizing s with
  | nil => exact ⟨fun _ => ⟨trivial, trivial⟩, fun _ => trivial⟩
  | cons i is ih =>
    rw [Every, Every, Every, ih]
    exact and_and_and_comm

theorem run_invariant {m : Machine σ ι ο} {I : σ → Prop} (hI : I s)
    (hstep : ∀ s i, I s → C s i → I (m.next s i)) (h : m.Every C s is) : I (m.run s is) := by
  induction is generalizing s with
  | nil => exact hI
  | cons i is ih => exact ih (hstep s i hI h.1) h.2

theorem every_imp {m : Machine σ ι ο} {I : σ → Prop} (hI : I s)
    (hstep : ∀ s i, I s → C s i → P s i ∧ I (m.next s i)) (h : m.Every C s is) :
    m.Every P s is := by
  induction is generalizing s with
  | nil => trivial
  | cons i is ih =>
    obtain ⟨hp, hn⟩ := hstep s i hI h.1
    exact ⟨hp, ih hn h.2⟩

/-- A property and a condition that agree on single steps, as long as an invariant holds
that the condition preserves, agree on runs. -/
theorem every_iff {m : Machine σ ι ο} {I : σ → Prop} (hI : I s)
    (hiff : ∀ s i, I s → (P s i ↔ C s i)) (hstep : ∀ s i, I s → C s i → I (m.next s i)) :
    m.Every P s is ↔ m.Every C s is :=
  ⟨every_imp hI fun s i hs hp => ⟨(hiff s i hs).1 hp, hstep s i hs ((hiff s i hs).1 hp)⟩,
    every_imp hI fun s i hs hc => ⟨(hiff s i hs).2 hc, hstep s i hs hc⟩⟩

/-- The same for a run whose inputs all satisfy `V`. -/
theorem every_iff_of_forall {m : Machine σ ι ο} {I : σ → Prop} {V : ι → Prop}
    (hV : ∀ i ∈ is, V i) (hI : I s)
    (hiff : ∀ s i, I s → V i → (P s i ↔ C s i))
    (hstep : ∀ s i, I s → V i → C s i → I (m.next s i)) : m.Every P s is ↔ m.Every C s is := by
  have hand (Q : σ → ι → Prop) : m.Every (fun s i => V i ∧ Q s i) s is ↔ m.Every Q s is := by
    rw [every_and]
    exact and_iff_right (every_of_forall fun i hi _ => hV i hi)
  rw [← hand P, ← hand C]
  exact every_iff hI (fun s i hs => and_congr_right fun hv => hiff s i hs hv)
    fun s i hs hc => hstep s i hs hc.1 hc.2

/-- Forward simulation: related machines that read the same inputs stay related. -/
theorem run_simulates {m : Machine σ ι ο} {a : Machine τ ι ο'} {R : σ → τ → Prop} (hR : R s t)
    (hstep : ∀ s t i, R s t → C s i → R (m.next s i) (a.next t i)) (h : m.Every C s is) :
    R (m.run s is) (a.run t is) := by
  induction is generalizing s t with
  | nil => exact hR
  | cons i is ih => exact ih (hstep s t i hR h.1) h.2

/-- Where every step says the new value of a view `v` if it changes the view, and nothing
otherwise, each value of a run differs from the one before, and the last one is the view. -/
theorem said_changes [DecidableEq α] {m : Machine σ ι ο} {say : σ → ι → List α} {v : σ → α}
    (h : m.Every (fun s i => say s i = if v (m.next s i) = v s then [] else [v (m.next s i)])
      s is) :
    (v s :: m.said say s is).IsChain (· ≠ ·) ∧
      (m.said say s is).getLastD (v s) = v (m.run s is) := by
  induction is generalizing s with
  | nil => exact ⟨.singleton _, rfl⟩
  | cons i is ih =>
    obtain ⟨hchain, hlast⟩ := ih h.2
    rw [said, h.1, run_cons]
    split_ifs with hv
    · rw [← hv]
      exact ⟨hchain, hlast⟩
    · exact ⟨.cons_cons (Ne.symm hv) hchain, List.getLastD_cons.trans hlast⟩

/-- What a run puts out. -/
def output (m : Machine σ ι ο) (s : σ) (is : List ι) : List ο :=
  m.said (fun s i => [(m.step s i).1]) s is

/-- Functional refinement: where every step is one of another machine on the view `f` of the state
and the reading `g` of the input, with the same output, so is every run. -/
theorem run_maps {m : Machine σ ι ο} {a : Machine τ κ ο} {f : σ → τ} {g : ι → κ}
    {I : σ → Prop} {C : ι → Prop} (hI : I s)
    (hstep : ∀ s i, I s → C i →
      a.step (f s) (g i) = ((m.step s i).1, f (m.next s i)) ∧ I (m.next s i))
    (h : ∀ i ∈ is, C i) : f (m.run s is) = a.run (f s) (is.map g) ∧
      m.output s is = a.output (f s) (is.map g) := by
  induction is generalizing s with
  | nil => exact ⟨rfl, rfl⟩
  | cons i is ih =>
    obtain ⟨hi, h⟩ := List.forall_mem_cons.1 h
    obtain ⟨ha, hn⟩ := hstep s i hI hi
    obtain ⟨hrun, hout⟩ := ih hn h
    have hnext : a.next (f s) (g i) = f (m.next s i) := congrArg Prod.snd ha
    rw [output, output, said, List.map_cons, said, run_cons, run_cons, hnext, ha]
    exact ⟨hrun, congrArg _ hout⟩

/-- A run of legal steps from `s₀` leads to `s`, and `outputs` is what it puts out. -/
def Replays (m : Machine σ ι (List α)) (legal : σ → ι → Prop) (s₀ s : σ) (outputs : List α) :
    Prop :=
  ∃ is, m.Every legal s₀ is ∧ m.run s₀ is = s ∧ m.said (fun s i => (m.step s i).1) s₀ is = outputs

theorem every_append {m : Machine σ ι ο} :
    m.Every P s (is ++ js) ↔ m.Every P s is ∧ m.Every P (m.run s is) js := by
  induction is generalizing s with
  | nil => exact (and_iff_right trivial).symm
  | cons i is ih => exact (and_congr_right fun _ => ih).trans and_assoc.symm

theorem said_append {m : Machine σ ι ο} {say : σ → ι → List α} :
    m.said say s (is ++ js) = m.said say s is ++ m.said say (m.run s is) js := by
  induction is generalizing s with
  | nil => rfl
  | cons i is ih =>
    rw [List.cons_append, said, said, ih, List.append_assoc]
    rfl

theorem Replays.nil (m : Machine σ ι (List α)) (legal : σ → ι → Prop) (s : σ) :
    m.Replays legal s s [] := ⟨[], trivial, rfl, rfl⟩

theorem Replays.snoc {m : Machine σ ι (List α)} (h : m.Replays legal s₀ s outputs)
    (hi : legal s i) : m.Replays legal s₀ (m.next s i) (outputs ++ (m.step s i).1) := by
  obtain ⟨is, hl, rfl, rfl⟩ := h
  refine ⟨is ++ [i], every_append.2 ⟨hl, hi, trivial⟩, ?_, ?_⟩
  · rw [run_append]
    rfl
  · rw [said_append, said, said, List.append_nil]

end Machine
end Lib
