import Mathlib.Tactic.Common

namespace Lib
set_option autoImplicit true

/-- The parts of a list between the separators, without the empty ones. -/
def segments [DecidableEq α] (sep : α) (l : List α) : List (List α) :=
  (l.splitOn sep).filter (· ≠ [])

/-- Without one separator in front. -/
def trimStart [DecidableEq α] (sep : α) : List α → List α
  | [] => []
  | x :: l => if x = sep then l else x :: l

/-- Without one separator at the end. -/
def trimEnd [DecidableEq α] (sep : α) (l : List α) : List α := (trimStart sep l.reverse).reverse

/-- Two lists with one separator between them, of which each may have brought its own. An empty
list joins without one. -/
def join [DecidableEq α] (sep : α) (l l' : List α) : List α :=
  if l = [] then l' else if l' = [] then l else trimEnd sep l ++ sep :: trimStart sep l'

/-- What is in front of the last separator. -/
def dropSegment [DecidableEq α] (sep : α) (l : List α) : List α :=
  (l.reverse.dropWhile (· ≠ sep)).tail.reverse

/-- Every segment with a separator in front. -/
def absolute (sep : α) (parts : List (List α)) : List α := parts.flatMap (sep :: ·)

section Absolute
variable {sep : α} {parts : List (List α)}

theorem absolute_append (parts parts' : List (List α)) :
    absolute sep (parts ++ parts') = absolute sep parts ++ absolute sep parts' :=
  List.flatMap_append

theorem absolute_eq (h : parts ≠ []) : absolute sep parts = sep :: [sep].intercalate parts := by
  induction parts with
  | nil => exact absurd rfl h
  | cons part parts ih =>
    cases parts with
    | nil => simp [absolute]
    | cons part' parts =>
      have hcons : absolute sep (part :: part' :: parts) =
          sep :: part ++ absolute sep (part' :: parts) := rfl
      rw [hcons, ih (List.cons_ne_nil _ _), List.intercalate_cons_cons]
      simp

end Absolute

section Join
variable {α : Type u} [DecidableEq α] {sep x : α} {l l' : List α}

@[simp] theorem trimStart_sep (l : List α) : trimStart sep (sep :: l) = l := if_pos rfl

theorem trimStart_cons (h : x ≠ sep) (l : List α) : trimStart sep (x :: l) = x :: l := if_neg h

@[simp] theorem trimEnd_sep (l : List α) : trimEnd sep (l ++ [sep]) = l := by
  simp [trimEnd]

theorem trimEnd_concat (h : x ≠ sep) (l : List α) : trimEnd sep (l ++ [x]) = l ++ [x] := by
  simp [trimEnd, trimStart_cons h]

/-- What is in front of a list that is not empty stays when the end is trimmed. -/
theorem trimEnd_append (h : l' ≠ []) : trimEnd sep (l ++ l') = l ++ trimEnd sep l' := by
  obtain ⟨l₀, y, rfl⟩ := (List.eq_nil_or_concat l').resolve_left h
  rw [List.concat_eq_append, ← List.append_assoc]
  by_cases hy : y = sep
  · rw [hy, trimEnd_sep, trimEnd_sep]
  · rw [trimEnd_concat hy, trimEnd_concat hy, List.append_assoc]

theorem trimStart_append (h : l ≠ []) : trimStart sep (l ++ l') = trimStart sep l ++ l' := by
  cases l with
  | nil => exact absurd rfl h
  | cons y l =>
    by_cases hy : y = sep
    · rw [hy, List.cons_append, trimStart_sep, trimStart_sep]
    · rw [List.cons_append, trimStart_cons hy, trimStart_cons hy, List.cons_append]

theorem trimStart_eq_nil (h : trimStart sep l = []) : l = [] ∨ l = [sep] := by
  cases l with
  | nil => exact .inl rfl
  | cons y l =>
    by_cases hy : y = sep
    · rw [hy, trimStart_sep] at h
      exact .inr (by rw [hy, h])
    · rw [trimStart_cons hy] at h
      cases h

theorem trimEnd_eq_nil (h : trimEnd sep l = []) : l = [] ∨ l = [sep] := by
  rw [trimEnd, List.reverse_eq_nil_iff] at h
  rcases trimStart_eq_nil h with h | h
  · exact .inl (List.reverse_eq_nil_iff.1 h)
  · exact .inr (by rw [← List.reverse_reverse l, h]; rfl)

/-- The two ends of a list do not meet, unless it is one separator. -/
theorem trimEnd_trimStart (h : l ≠ [sep]) :
    trimEnd sep (trimStart sep l) = trimStart sep (trimEnd sep l) := by
  cases l with
  | nil => rfl
  | cons y l =>
    cases l with
    | nil =>
      have hy : y ≠ sep := fun hy => h (by rw [hy])
      have hend : trimEnd sep [y] = [y] := trimEnd_concat hy []
      rw [trimStart_cons hy, hend, trimStart_cons hy]
    | cons z l =>
      have hend : trimEnd sep (y :: z :: l) = y :: trimEnd sep (z :: l) :=
        trimEnd_append (l := [y]) (List.cons_ne_nil z l)
      rw [hend]
      by_cases hy : y = sep
      · rw [hy, trimStart_sep, trimStart_sep]
      · rw [trimStart_cons hy, trimStart_cons hy, hend]

@[simp] theorem nil_join (l : List α) : join sep [] l = l := if_pos rfl

@[simp] theorem join_nil (l : List α) : join sep l [] = l := by
  by_cases h : l = []
  · rw [h, join, if_pos rfl]
  · rw [join, if_neg h, if_pos rfl]

theorem join_eq (h : l ≠ []) (h' : l' ≠ []) :
    join sep l l' = trimEnd sep l ++ sep :: trimStart sep l' := by
  rw [join, if_neg h, if_neg h']

/-- A list that brings its own separator is put behind the other one. -/
theorem join_cons_sep (l l' : List α) : join sep l (sep :: l') = trimEnd sep l ++ sep :: l' := by
  by_cases h : l = []
  · rw [h, nil_join]
    rfl
  · rw [join_eq h (List.cons_ne_nil sep l'), trimStart_sep]

theorem dropSegment_append (h : sep ∉ part) (l : List α) :
    dropSegment sep (l ++ sep :: part) = l := by
  have hpart : ∀ x ∈ part.reverse, decide (x ≠ sep) = true := by
    intro x hx
    exact decide_eq_true (ne_of_mem_of_not_mem (List.mem_reverse.1 hx) h)
  have hrev : (l ++ sep :: part).reverse = part.reverse ++ sep :: l.reverse := by simp
  rw [dropSegment, hrev, List.dropWhile_append_of_pos hpart, List.dropWhile_cons_of_neg (by simp),
    List.tail_cons, List.reverse_reverse]

theorem join_ne_nil (h : l ≠ []) : join sep l l' ≠ [] := by
  rw [join, if_neg h]
  split_ifs
  · exact h
  · simp

theorem trimStart_subset (sep : α) (l : List α) : trimStart sep l ⊆ l := by
  cases l with
  | nil => exact List.Subset.refl _
  | cons y l =>
    by_cases hy : y = sep
    · rw [hy, trimStart_sep]
      exact List.subset_cons_self sep l
    · rw [trimStart_cons hy]
      exact List.Subset.refl _

theorem trimEnd_subset (sep : α) (l : List α) : trimEnd sep l ⊆ l := by
  intro x hx
  exact List.mem_reverse.1 (trimStart_subset sep _ (List.mem_reverse.1 hx))

theorem mem_join (h : x ∈ join sep l l') : x = sep ∨ x ∈ l ∨ x ∈ l' := by
  rw [join] at h
  split_ifs at h
  · exact .inr (.inr h)
  · exact .inr (.inl h)
  · rcases List.mem_append.1 h with h | h
    · exact .inr (.inl (trimEnd_subset sep l h))
    · rcases List.mem_cons.1 h with h | h
      · exact .inl h
      · exact .inr (.inr (trimStart_subset sep l' h))

/-- Lists that are joined can be joined in any grouping. A separator alone can be the end of the
one side and the start of the other. -/
theorem join_assoc (a b c : List α) : join sep (join sep a b) c = join sep a (join sep b c) := by
  by_cases ha : a = []
  · rw [ha, nil_join, nil_join]
  · by_cases hb : b = []
    · rw [hb, join_nil, nil_join]
    · by_cases hc : c = []
      · rw [hc, join_nil, join_nil]
      · rw [join_eq (join_ne_nil ha) hc, join_eq ha hb, join_eq ha (join_ne_nil hb), join_eq hb hc]
        by_cases hs : b = [sep]
        · have hend : trimEnd sep [sep] = [] := trimEnd_sep []
          rw [hs, trimStart_sep, trimEnd_sep, hend, List.nil_append, trimStart_sep]
        · have hstart : trimStart sep b ≠ [] := fun h => (trimStart_eq_nil h).elim hb hs
          have hend : trimEnd sep b ≠ [] := fun h => (trimEnd_eq_nil h).elim hb hs
          have happend : trimEnd sep (trimEnd sep a ++ sep :: trimStart sep b) =
              trimEnd sep a ++ sep :: trimEnd sep (trimStart sep b) := by
            have h : trimEnd sep (trimEnd sep a ++ [sep] ++ trimStart sep b) =
                trimEnd sep a ++ [sep] ++ trimEnd sep (trimStart sep b) := trimEnd_append hstart
            simpa using h
          rw [happend, trimStart_append hend, trimEnd_trimStart hs, List.append_assoc]
          rfl

end Join

section Segments
variable {α : Type u} [DecidableEq α] {sep : α} {l l' : List α} {parts parts' : List (List α)}

@[simp] theorem segments_nil : segments sep [] = [] := by
  rw [segments, List.splitOn_eq_singleton List.not_mem_nil]
  rfl

theorem segments_append_sep (l l' : List α) :
    segments sep (l ++ sep :: l') = segments sep l ++ segments sep l' := by
  rw [segments, List.splitOn_append_cons_self, List.filter_append]
  rfl

theorem segments_cons_sep (l : List α) : segments sep (sep :: l) = segments sep l := by
  have h : segments sep ([] ++ sep :: l) = segments sep [] ++ segments sep l :=
    segments_append_sep [] l
  rw [segments_nil, List.nil_append, List.nil_append] at h
  exact h

theorem segments_replicate (n : Nat) : segments sep (List.replicate n sep) = [] := by
  induction n with
  | zero => exact segments_nil
  | succ n ih => rw [List.replicate_succ, segments_cons_sep, ih]

theorem segments_single (h : l ≠ []) (hsep : sep ∉ l) : segments sep l = [l] := by
  rw [segments, List.splitOn_eq_singleton hsep]
  exact List.filter_cons_of_pos (decide_eq_true h)

/-- Words that each have the separator behind them. -/
theorem segments_flatMap_append {text : β → List α} (h : ∀ x, text x ≠ [] ∧ sep ∉ text x)
    (words : List β) (l : List α) :
    segments sep (words.flatMap (fun x => text x ++ [sep]) ++ l) =
      words.map text ++ segments sep l := by
  induction words with
  | nil => rfl
  | cons x words ih =>
    have hcons : (x :: words).flatMap (fun x => text x ++ [sep]) ++ l =
        text x ++ sep :: (words.flatMap (fun x => text x ++ [sep]) ++ l) := by simp
    rw [hcons, segments_append_sep, segments_single (h x).1 (h x).2, ih]
    rfl

theorem segments_trimStart (l : List α) : segments sep (trimStart sep l) = segments sep l := by
  cases l with
  | nil => rfl
  | cons y l =>
    by_cases hy : y = sep
    · rw [hy, trimStart_sep, segments_cons_sep]
    · rw [trimStart_cons hy]

theorem segments_trimEnd (l : List α) : segments sep (trimEnd sep l) = segments sep l := by
  rcases List.eq_nil_or_concat l with rfl | ⟨l₀, y, rfl⟩
  · rfl
  · rw [List.concat_eq_append]
    by_cases hy : y = sep
    · rw [hy, trimEnd_sep, segments_append_sep, segments_nil, List.append_nil]
    · rw [trimEnd_concat hy]

/-- Without its separators a list is all of its parts, one behind the other. -/
theorem flatten_splitOn (l : List α) : (l.splitOn sep).flatten = l.filter (· ≠ sep) := by
  induction l with
  | nil => rfl
  | cons x l ih =>
    rw [List.splitOn_cons_eq_if_modifyHead]
    by_cases hx : x = sep
    · simp [hx, ih]
    · obtain ⟨part, parts, hparts⟩ := List.exists_cons_of_ne_nil (List.splitOn_ne_nil sep l)
      rw [hparts, List.flatten_cons] at ih
      rw [hparts, if_neg (by simp [hx]), List.modifyHead_cons, List.flatten_cons, List.cons_append,
        ih, List.filter_cons_of_pos (by simp [hx])]

/-- Joining lists joins their segments. -/
theorem segments_join (l l' : List α) :
    segments sep (join sep l l') = segments sep l ++ segments sep l' := by
  by_cases h : l = []
  · rw [h, nil_join, segments_nil, List.nil_append]
  · by_cases h' : l' = []
    · rw [h', join_nil, segments_nil, List.append_nil]
    · rw [join_eq h h', segments_append_sep, segments_trimEnd, segments_trimStart]

/-- No segment is empty or has the separator in it, so that there is none at the end. -/
theorem trimEnd_absolute (h : ∀ part ∈ parts, part ≠ [] ∧ sep ∉ part) :
    trimEnd sep (absolute sep parts) = absolute sep parts := by
  rcases List.eq_nil_or_concat parts with rfl | ⟨parts₀, part, rfl⟩
  · rfl
  · rw [List.concat_eq_append] at h ⊢
    obtain ⟨hne, hsep⟩ := h part (by simp)
    obtain ⟨part₀, y, rfl⟩ := (List.eq_nil_or_concat part).resolve_left hne
    rw [List.concat_eq_append] at hsep ⊢
    have hy : y ≠ sep := fun hy => hsep (by simp [hy])
    have heq : absolute sep (parts₀ ++ [part₀ ++ [y]]) =
        absolute sep parts₀ ++ sep :: part₀ ++ [y] := by
      simp [absolute]
    rw [heq, trimEnd_concat hy]

/-- What ends like an absolute list joins with what starts like a relative one. -/
theorem join_absolute (hl : l ≠ []) (hl' : l' ≠ []) (h : trimEnd sep l = absolute sep parts)
    (h' : trimStart sep l' = [sep].intercalate parts') (hne : parts' ≠ []) :
    join sep l l' = absolute sep (parts ++ parts') := by
  rw [join_eq hl hl', h, h', absolute_append, absolute_eq hne]

end Segments

section Cut
variable {α : Type u} {sep : α} {lengths : List Nat} {l : List α} {parts : List (List α)}

/-- The parts of a list where they are `lengths` long, with one element between each two. -/
def cut : List Nat → List α → List (List α)
  | [], _ => []
  | [_], l => [l]
  | n :: n' :: lengths, l => l.take n :: cut (n' :: lengths) (l.drop (n + 1))

/-- A list that has parts of these lengths, and the separator between each two. -/
def Punctuated (sep : α) : List Nat → List α → Prop
  | [], l => l = []
  | [n], l => l.length = n
  | n :: n' :: lengths, l => l[n]? = some sep ∧ Punctuated sep (n' :: lengths) (l.drop (n + 1))

theorem cut_cons (n : Nat) (lengths : List Nat) (l : List α) :
    ∃ part parts, cut (n :: lengths) l = part :: parts := by
  cases lengths with
  | nil => exact ⟨_, _, rfl⟩
  | cons n' lengths => exact ⟨_, _, rfl⟩

theorem Punctuated.cut (h : Punctuated sep lengths l) :
    (cut lengths l).map List.length = lengths ∧ l = [sep].intercalate (Lib.cut lengths l) := by
  fun_induction Lib.cut lengths l with
  | case1 l => exact ⟨rfl, h⟩
  | case2 n l => exact ⟨by rw [List.map_singleton, h], by simp⟩
  | case3 n n' lengths l ih =>
    obtain ⟨hn, hrest⟩ := h
    obtain ⟨hlengths, hl⟩ := ih hrest
    obtain ⟨hlt, hget⟩ := List.getElem?_eq_some_iff.1 hn
    apply And.intro
    · rw [List.map_cons, hlengths, List.length_take_of_le (Nat.le_of_lt hlt)]
    · obtain ⟨part, parts, hcut⟩ := cut_cons n' lengths (l.drop (n + 1))
      rw [hcut] at hl ⊢
      rw [List.intercalate_cons_cons, ← hl, ← hget]
      simp

theorem cut_intercalate (sep : α) (parts : List (List α)) :
    Punctuated sep (parts.map List.length) ([sep].intercalate parts) ∧
      cut (parts.map List.length) ([sep].intercalate parts) = parts := by
  match parts with
  | [] => exact ⟨rfl, rfl⟩
  | [part] => simp [Punctuated, cut]
  | part :: part' :: parts =>
    obtain ⟨hpunctuated, hcut⟩ := cut_intercalate sep (part' :: parts)
    rw [List.map_cons] at hpunctuated hcut
    have hdrop : (part ++ [sep] ++ [sep].intercalate (part' :: parts)).drop (part.length + 1) =
        [sep].intercalate (part' :: parts) := List.drop_left' (by simp)
    rw [List.map_cons, List.map_cons, List.intercalate_cons_cons, Punctuated, cut, hdrop]
    refine ⟨⟨by simp, hpunctuated⟩, ?_⟩
    rw [hcut]
    simp

end Cut

/-- What is written for each element is read back when each of them is. -/
theorem mapM_map_eq_some {f : β → Option γ} {g : α → β} {k : α → γ} {l : List α}
    (h : ∀ a ∈ l, f (g a) = some (k a)) : (l.map g).mapM f = some (l.map k) := by
  induction l with
  | nil => rfl
  | cons a l ih =>
    rw [List.map_cons, List.mapM_cons, h a List.mem_cons_self,
      ih fun b hb => h b (List.mem_cons_of_mem a hb)]
    rfl

end Lib
