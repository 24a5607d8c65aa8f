import BluetoothLE.Lib.Machine
import Mathlib.Data.List.Induction
import Std.Data.TreeMap.Lemmas

namespace Lib
open Std
set_option autoImplicit true

/-- A call of a table that numbers its keys. The value for a new key is made from the next number,
if there is to be one. -/
inductive NumberingCall (κ : Type u) (ν : Type v) where
  | create (key : κ) (make : Nat → Option ν)
  | get (key : κ)

structure Answer (κ : Type u) (ν : Type v) where
  key : κ
  value : Option ν

def numbering (κ : Type u) (ν : Type v) [Ord κ] :
    Machine (TreeMap κ ν) (NumberingCall κ ν) (List (Answer κ ν)) where
  step t
    | .create key make =>
      match t[key]? with
      | some value => ([⟨key, some value⟩], t)
      | none =>
        match make (t.size + 1) with
        | some value => ([⟨key, some value⟩], t.insert key value)
        | none => ([⟨key, none⟩], t)
    | .get key => ([⟨key, t[key]?⟩], t)

section Facts
variable {κ : Type u} {ν : Type v} [Ord κ] [TransOrd κ] [LawfulEqOrd κ] [DecidableEq κ]
  {t : TreeMap κ ν} {key : κ} {answers : List (Answer κ ν)} {of : Nat → ν → Prop}

/-- The keys of a table in the order of their creation. Each value is that of its place. -/
structure Numbered (of : Nat → ν → Prop) (t : TreeMap κ ν) (order : List κ) : Prop where
  nodup : order.Nodup
  keys : ∀ key : κ, key ∈ order ↔ (t[key]?).isSome = true
  size : t.size = order.length
  values : ∀ (i : Nat) (key : κ), order[i]? = some key → ∃ value, t[key]? = some value ∧
    of (i + 1) value

/-- The answers so far, and the table that they come from. No answer has been taken back. -/
structure Answered (of : Nat → ν → Prop) (t : TreeMap κ ν) (answers : List (Answer κ ν)) :
    Prop where
  numbered : ∃ order, Numbered of t order
  standing : ∀ a ∈ answers, ∀ value, a.value = some value → t[a.key]? = some value
  kept : answers.Pairwise fun a b => a.key = b.key → a.value.isSome → b.value = a.value

theorem getElem?_insert_key (t : TreeMap κ ν) (key key' : κ) (value : ν) :
    (t.insert key value)[key']? = if key = key' then some value else t[key']? := by
  rw [TreeMap.getElem?_insert]
  simp only [Std.compare_eq_iff_eq]

omit [LawfulEqOrd κ] [DecidableEq κ] in
theorem numbered_empty : Numbered of (∅ : TreeMap κ ν) [] where
  nodup := .nil
  keys := by simp
  size := rfl
  values := nofun

theorem Numbered.insert (h : Numbered of t order) (hk : t[key]? = none)
    (hv : of (t.size + 1) value) : Numbered of (t.insert key value) (order ++ [key]) where
  nodup := by
    rw [List.nodup_append]
    refine ⟨h.nodup, List.pairwise_singleton _ _, ?_⟩
    rintro a ha b hb rfl
    obtain rfl := List.mem_singleton.1 hb
    rw [h.keys, hk] at ha
    cases ha
  keys := by
    intro key'
    rw [List.mem_append, List.mem_singleton, h.keys, getElem?_insert_key]
    split_ifs with he
    · simp [he]
    · simp [Ne.symm he]
  size := by
    rw [TreeMap.size_insert, TreeMap.contains_eq_isSome_getElem?, hk, h.size, List.length_append]
    rfl
  values := by
    intro i key' hi
    rw [getElem?_insert_key]
    rcases Nat.lt_or_ge i order.length with hlt | hge
    · rw [List.getElem?_append_left hlt] at hi
      obtain ⟨v, ht, hof⟩ := h.values i key' hi
      have hne : key ≠ key' := by
        rintro rfl
        rw [hk] at ht
        cases ht
      rw [if_neg hne]
      exact ⟨v, ht, hof⟩
    · rw [List.getElem?_append_right hge] at hi
      obtain ⟨hzero, rfl⟩ : i - order.length = 0 ∧ key = key' := by
        simpa [List.getElem?_singleton] using hi
      have hlast : i = t.size := by rw [h.size]; omega
      rw [if_pos rfl, hlast]
      exact ⟨value, rfl, hv⟩

omit [TransOrd κ] [LawfulEqOrd κ] [DecidableEq κ] in
theorem Answered.snoc (h : Answered of t answers) (hn : t[key]? = value) :
    Answered of t (answers ++ [⟨key, value⟩]) where
  numbered := h.numbered
  standing := by
    intro a ha n hnum
    rcases List.mem_append.1 ha with ha | ha
    · exact h.standing a ha n hnum
    · rw [List.mem_singleton.1 ha] at hnum ⊢
      exact hn.trans hnum
  kept := by
    apply List.pairwise_append.2 ⟨h.kept, List.pairwise_singleton _ _, _⟩
    intro a ha b hb hkey hsome
    rw [List.mem_singleton.1 hb] at hkey ⊢
    obtain ⟨n, hnum⟩ := Option.isSome_iff_exists.1 hsome
    have hstand := h.standing a ha n hnum
    rw [hkey] at hstand
    exact (hn.symm.trans hstand).trans hnum.symm

theorem Answered.insert (h : Answered of t answers) (hk : t[key]? = none)
    (hv : of (t.size + 1) value) : Answered of (t.insert key value) answers where
  numbered := by
    obtain ⟨order, ho⟩ := h.numbered
    exact ⟨_, ho.insert hk hv⟩
  standing := by
    intro a ha v hnum
    have hstand := h.standing a ha v hnum
    rw [getElem?_insert_key, if_neg, hstand]
    rintro rfl
    rw [hk] at hstand
    cases hstand
  kept := h.kept

/-- The values that a call makes are those of their numbers. -/
def NumberingCall.Makes (of : Nat → ν → Prop) : NumberingCall κ ν → Prop
  | .create _ make => ∀ n value, make n = some value → of n value
  | .get _ => True

theorem Answered.next (h : Answered of t answers) (call : NumberingCall κ ν)
    (hc : call.Makes of) :
    Answered of ((numbering κ ν).next t call) (answers ++ ((numbering κ ν).step t call).1) := by
  rw [Machine.next]
  cases call with
  | get key => exact h.snoc rfl
  | create key make =>
    simp only [numbering]
    cases hk : t[key]? with
    | some value => exact h.snoc hk
    | none =>
      cases hm : make (t.size + 1) with
      | none => exact h.snoc hk
      | some value =>
        apply (h.insert hk (hc _ _ hm)).snoc
        rw [getElem?_insert_key, if_pos rfl]

theorem answered_of_replays {legal : TreeMap κ ν → NumberingCall κ ν → Prop}
    (hlegal : ∀ t call, legal t call → call.Makes of)
    (h : (numbering κ ν).Replays legal ∅ t answers) : Answered of t answers := by
  obtain ⟨calls, hl, rfl, rfl⟩ := h
  induction calls using List.reverseRecOn with
  | nil => exact ⟨⟨[], numbered_empty⟩, List.forall_mem_nil _, .nil⟩
  | append_singleton calls call ih =>
    rw [Machine.every_append] at hl
    rw [Machine.run_append, Machine.said_append]
    have hnext := (ih hl.1).next call (hlegal _ _ hl.2.1)
    rw [← List.append_nil ((numbering κ ν).step _ call).1] at hnext
    exact hnext

end Facts
end Lib
