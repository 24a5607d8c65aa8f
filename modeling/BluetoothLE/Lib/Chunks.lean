import Mathlib.Tactic.Common

namespace Lib
set_option autoImplicit true

/-- One turn of a loop that writes into a line. Beside the line are those that are full, and a
line is full when it has `limit` elements. -/
def fill (limit : Nat) (text : α → List β) (s : List (List β) × List β) (x : α) :
    List (List β) × List β :=
  let line := s.2 ++ text x
  if limit ≤ line.length then (s.1 ++ [line], []) else (s.1, line)

/-- What is in the line at the end is kept, too. -/
def flush (s : List (List β) × List β) : List (List β) :=
  if s.2.isEmpty then s.1 else s.1 ++ [s.2]

def gather (limit : Nat) (text : α → List β) (l : List α) : List (List β) :=
  flush (l.foldl (fill limit text) ([], []))

/-- The elements of a list, `n` at a time, and what is left of them. -/
def chunks (n : Nat) (l : List α) : List (List α) := gather n (fun x => [x]) l

section Render
variable {text : α → List β} {w n : Nat}

/-- What is written for the elements that have been read. -/
def render (text : α → List β) (s : List (List α) × List α) : List (List β) × List β :=
  (s.1.map (·.flatMap text), s.2.flatMap text)

theorem length_flatMap_of_width (hw : ∀ x, (text x).length = w) (l : List α) :
    (l.flatMap text).length = l.length * w := by
  induction l with
  | nil => simp
  | cons x l ih => rw [List.flatMap_cons, List.length_append, hw, ih, List.length_cons,
      Nat.add_mul, Nat.one_mul, Nat.add_comm]

theorem fill_render (hw : ∀ x, (text x).length = w) (h : 0 < w) (s : List (List α) × List α)
    (x : α) : fill (n * w) text (render text s) x = render text (fill n (fun x => [x]) s x) := by
  have hline : s.2.flatMap text ++ text x = (s.2 ++ [x]).flatMap text := by simp
  have hlimit : n * w ≤ ((s.2 ++ [x]).flatMap text).length ↔ n ≤ (s.2 ++ [x]).length := by
    rw [length_flatMap_of_width hw, Nat.mul_le_mul_right_iff h]
  simp only [fill, render, hline, hlimit]
  split_ifs
  · simp
  · rfl

theorem flush_render (hw : ∀ x, (text x).length = w) (h : 0 < w) (s : List (List α) × List α) :
    flush (render text s) = (flush s).map (·.flatMap text) := by
  have hempty : (s.2.flatMap text).isEmpty = s.2.isEmpty := by
    rw [Bool.eq_iff_iff, List.isEmpty_iff_length_eq_zero, List.isEmpty_iff_length_eq_zero,
      length_flatMap_of_width hw, Nat.mul_eq_zero, or_iff_left (Nat.ne_of_gt h)]
  rw [flush, render, hempty, flush]
  split_ifs
  · rfl
  · rw [List.map_append, List.map_singleton]

/-- Where all texts have one width, a line is what is written for one chunk. -/
theorem gather_eq_chunks (hw : ∀ x, (text x).length = w) (h : 0 < w) (n : Nat) (l : List α) :
    gather (n * w) text l = (chunks n l).map (·.flatMap text) := by
  have hfold : l.foldl (fill (n * w) text) (render text ([], [])) =
      render text (l.foldl (fill n fun x => [x]) ([], [])) :=
    List.foldl_hom (render text) (fun s x => fill_render hw h s x)
  rw [chunks, gather, gather, ← flush_render hw h, ← hfold]
  rfl

end Render

section Chunks
variable {n : Nat} {l l' : List α} {s : List (List α) × List α}

/-- The lines are full, there is room in the last one, and nothing is lost. -/
structure Filled (n : Nat) (l : List α) (s : List (List α) × List α) : Prop where
  all : s.1.flatten ++ s.2 = l
  full : ∀ part ∈ s.1, part.length = n
  room : s.2.length < n

theorem Filled.fill (hs : Filled n l s) (x : α) :
    Filled n (l ++ [x]) (fill n (fun x => [x]) s x) := by
  obtain ⟨hall, hfull, hroom⟩ := hs
  rw [Lib.fill]
  split_ifs with h
  · rw [List.length_append, List.length_singleton] at h
    apply Filled.mk
    · simp [← hall]
    · intro part hpart
      rcases List.mem_append.1 hpart with hpart | hpart
      · exact hfull part hpart
      · cases List.mem_singleton.1 hpart
        rw [List.length_append, List.length_singleton]
        omega
    · exact Nat.lt_of_le_of_lt (Nat.zero_le _) hroom
  · apply Filled.mk
    · simp [← hall]
    · exact hfull
    · exact Nat.lt_of_not_le h

theorem Filled.foldl (hs : Filled n l s) (l' : List α) :
    Filled n (l ++ l') (l'.foldl (Lib.fill n fun x => [x]) s) := by
  induction l' generalizing l s with
  | nil => simpa using hs
  | cons x l' ih => simpa using ih (hs.fill x)

theorem filled_foldl (h : 0 < n) (l : List α) :
    Filled n l (l.foldl (fill n fun x => [x]) ([], [])) := by
  have hstart : Filled n ([] : List α) ([], []) := ⟨rfl, List.forall_mem_nil _, h⟩
  exact hstart.foldl l

theorem flatten_chunks (h : 0 < n) (l : List α) : (chunks n l).flatten = l := by
  obtain ⟨hall, _, _⟩ := filled_foldl h l
  rw [chunks, gather, flush]
  split_ifs with he
  · rw [List.isEmpty_iff] at he
    rwa [he, List.append_nil] at hall
  · rwa [List.flatten_append, List.flatten_singleton]

theorem length_le_of_mem_chunks (h : 0 < n) {part : List α} (hpart : part ∈ chunks n l) :
    part.length ≤ n := by
  obtain ⟨_, hfull, hroom⟩ := filled_foldl h l
  rw [chunks, gather, flush] at hpart
  split_ifs at hpart
  · exact Nat.le_of_eq (hfull part hpart)
  · rcases List.mem_append.1 hpart with hpart | hpart
    · exact Nat.le_of_eq (hfull part hpart)
    · cases List.mem_singleton.1 hpart
      exact Nat.le_of_lt hroom

theorem Filled.length (hs : Filled n l s) : l.length = s.1.length * n + s.2.length := by
  have hmap : s.1.map List.length = List.replicate s.1.length n := by
    rw [List.map_eq_replicate_iff]
    exact hs.full
  rw [← hs.all, List.length_append, List.length_flatten, hmap, List.sum_replicate_nat]

/-- There are as many chunks as it takes. -/
theorem length_chunks (h : 0 < n) (l : List α) :
    (chunks n l).length = (l.length + (n - 1)) / n := by
  have hs := filled_foldl h l
  have hlength := hs.length
  have hroom := hs.room
  rw [chunks, gather, flush]
  apply Eq.symm
  split_ifs with he
  · rw [List.isEmpty_iff_length_eq_zero] at he
    apply Nat.div_eq_of_lt_le
    · omega
    · rw [Nat.add_mul]
      omega
  · rw [List.isEmpty_iff_length_eq_zero] at he
    rw [List.length_append, List.length_singleton]
    apply Nat.div_eq_of_lt_le
    · rw [Nat.add_mul]
      omega
    · rw [Nat.add_mul, Nat.add_mul]
      omega

end Chunks
end Lib
