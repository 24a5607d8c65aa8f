import Mathlib.Tactic.Common
import Mathlib.Data.List.Nodup

namespace Lib
set_option autoImplicit true

/-- Live entries under ids that a counter hands out, newest first. No id is used twice,
not even after its entry is gone. -/
structure IdTable (α : Type u) where
  last : Nat
  entries : List (Nat × α)
  bounded : ∀ e ∈ entries, 0 < e.1 ∧ e.1 ≤ last
  distinct : (entries.map Prod.fst).Nodup

namespace IdTable

def empty (α : Type u) : IdTable α := ⟨0, [], by simp, .nil⟩

def clear (t : IdTable α) : IdTable α := ⟨t.last, [], by simp, .nil⟩

def insert (t : IdTable α) (a : α) : IdTable α where
  last := t.last + 1
  entries := (t.last + 1, a) :: t.entries
  bounded := by
    intro e he
    rcases List.mem_cons.1 he with rfl | he
    · exact ⟨Nat.succ_pos _, Nat.le_refl _⟩
    · exact ⟨(t.bounded e he).1, Nat.le_succ_of_le (t.bounded e he).2⟩
  distinct := by
    apply List.Nodup.cons _ t.distinct
    intro hi
    obtain ⟨e, he, heq⟩ := List.mem_map.1 hi
    have hb := (t.bounded e he).2
    omega

def erase (t : IdTable α) (id : Nat) : IdTable α where
  last := t.last
  entries := t.entries.filter fun e => e.1 != id
  bounded := fun e he => t.bounded e (List.mem_filter.1 he).1
  distinct := t.distinct.sublist (List.filter_sublist.map _)

def contains (t : IdTable α) (id : Nat) : Bool := t.entries.any fun e => e.1 == id

@[simp] theorem empty_entries : (empty α).entries = [] := rfl

@[simp] theorem clear_entries (t : IdTable α) : t.clear.entries = [] := rfl

@[simp] theorem insert_entries (t : IdTable α) (a : α) :
    (t.insert a).entries = (t.last + 1, a) :: t.entries := rfl

theorem mem_erase {t : IdTable α} :
    e ∈ (t.erase i).entries ↔ e ∈ t.entries ∧ e.1 ≠ i := by
  simp only [erase, List.mem_filter, bne_iff_ne]

theorem contains_iff {t : IdTable α} : t.contains i = true ↔ ∃ a, (i, a) ∈ t.entries := by
  simp only [contains, List.any_eq_true, beq_iff_eq]
  apply Iff.intro
  · intro h
    obtain ⟨e, he, hi⟩ := h
    subst hi
    exact ⟨e.2, he⟩
  · intro h
    obtain ⟨a, ha⟩ := h
    exact ⟨_, ha, rfl⟩

@[simp] theorem contains_clear (t : IdTable α) (i : Nat) : t.clear.contains i = false := rfl

theorem contains_insert_of_contains {t : IdTable α} (a : α) (h : t.contains i = true) :
    (t.insert a).contains i = true := by
  obtain ⟨b, hb⟩ := contains_iff.1 h
  exact contains_iff.2 ⟨b, List.mem_cons_of_mem _ hb⟩

theorem contains_insert_self (t : IdTable α) (a : α) :
    (t.insert a).contains (t.last + 1) = true :=
  contains_iff.2 ⟨a, List.mem_cons_self⟩

theorem contains_erase_of_ne {t : IdTable α} (h : t.contains i = true) (hne : i ≠ j) :
    (t.erase j).contains i = true := by
  obtain ⟨a, ha⟩ := contains_iff.1 h
  exact contains_iff.2 ⟨a, mem_erase.2 ⟨ha, hne⟩⟩

theorem erase_absent {t : IdTable α} (h : t.contains i = false) : t.erase i = t := by
  have hf : t.entries.filter (fun e => e.1 != i) = t.entries := by
    apply List.filter_eq_self.2
    intro e he
    apply bne_iff_ne.2
    intro hi
    subst hi
    exact absurd (contains_iff.2 ⟨e.2, he⟩) (by simp [h])
  cases t
  simp only [erase, mk.injEq]
  exact ⟨trivial, hf⟩

theorem not_contains_zero (t : IdTable α) : t.contains 0 = false := by
  apply Bool.eq_false_iff.2
  intro h
  obtain ⟨a, ha⟩ := contains_iff.1 h
  exact absurd (t.bounded _ ha).1 (Nat.lt_irrefl 0)

theorem entry_unique {t : IdTable α} (h : (i, a) ∈ t.entries) (h' : (i, b) ∈ t.entries) :
    a = b :=
  congrArg Prod.snd (List.inj_on_of_nodup_map t.distinct h h' rfl)

theorem fresh {t : IdTable α} : (t.last + 1, a) ∉ t.entries := by
  intro h
  have hb := (t.bounded _ h).2
  simp only at hb
  omega

theorem foldl_erase_entries (t : IdTable α) (ids : List Nat) :
    ∃ p, (ids.foldl erase t).entries = t.entries.filter p := by
  induction ids generalizing t with
  | nil => exact ⟨fun _ => true, (List.filter_eq_self.2 fun _ _ => rfl).symm⟩
  | cons id ids ih =>
    obtain ⟨p, hp⟩ := ih (t.erase id)
    rw [List.foldl_cons, hp, erase, List.filter_filter]
    exact ⟨_, rfl⟩

theorem mem_foldl_erase {t : IdTable α} {ids : List Nat} :
    e ∈ (ids.foldl erase t).entries ↔ e ∈ t.entries ∧ e.1 ∉ ids := by
  induction ids generalizing t with
  | nil => simp
  | cons id ids ih =>
    rw [List.foldl_cons, ih, mem_erase, List.mem_cons, not_or, and_assoc]

/-- What was in a table and is not in a later one, newest first. -/
def lost (t t' : IdTable α) : List α :=
  (t.entries.filter fun e => !t'.contains e.1).map Prod.snd

theorem lost_of_subset {t t' : IdTable α} (h : ∀ e ∈ t.entries, e ∈ t'.entries) :
    t.lost t' = [] := by
  rw [lost, List.map_eq_nil_iff, List.filter_eq_nil_iff]
  intro e he hn
  rw [contains_iff.2 ⟨e.2, h e he⟩] at hn
  cases hn

theorem lost_clear (t : IdTable α) : t.lost t.clear = t.entries.map Prod.snd := by
  rw [lost, List.filter_eq_self.2]
  intro e _
  rfl

theorem mem_lost {t t' : IdTable α} :
    a ∈ t.lost t' ↔ ∃ e ∈ t.entries, t'.contains e.1 = false ∧ e.2 = a := by
  simp only [lost, List.mem_map, List.mem_filter, Bool.not_eq_true', and_assoc]

/-- What a table loses and what it keeps is what it had. -/
theorem lost_perm {t t' : IdTable α} (h : t'.entries = t.entries.filter p) :
    (t'.entries.map Prod.snd ++ t.lost t').Perm (t.entries.map Prod.snd) := by
  have hkept : ∀ e ∈ t.entries, (!t'.contains e.1) = !p e := by
    intro e he
    congr 1
    apply Bool.eq_iff_iff.2
    rw [contains_iff, h]
    apply Iff.intro
    · intro hc
      obtain ⟨a, ha⟩ := hc
      obtain ⟨ha, hp⟩ := List.mem_filter.1 ha
      rw [entry_unique ha he] at hp
      exact hp
    · exact fun hp => ⟨e.2, List.mem_filter.2 ⟨he, hp⟩⟩
  rw [lost, h, List.filter_congr hkept, ← List.map_append]
  exact (List.filter_append_perm p t.entries).map Prod.snd

end IdTable
end Lib
