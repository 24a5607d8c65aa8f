import Mathlib.Logic.Relation
import Mathlib.Tactic.Common

namespace Lib
set_option autoImplicit true

inductive LockStep (μ : Type u) where
  | acquire (m : μ)
  | release (m : μ)
  deriving DecidableEq, Repr

/-- A thread on its way through a sequence of steps on non-recursive mutexes. -/
structure Thread (μ : Type u) where
  todo : List (LockStep μ)
  held : List μ

def Waiting (s : θ → Thread μ) (t : θ) (m : μ) : Prop :=
  ∃ rest, (s t).todo = .acquire m :: rest

/-- Every thread of the set waits for a mutex that another thread of the set holds. -/
def Deadlocked (s : θ → Thread μ) (T : Set θ) : Prop :=
  T.Nonempty ∧ ∀ t ∈ T, ∃ m, Waiting s t m ∧ ∃ u ∈ T, u ≠ t ∧ m ∈ (s u).held

theorem Waiting.unique {s : θ → Thread μ} (h : Waiting s t m) (h' : Waiting s t m') : m = m' := by
  obtain ⟨rest, ht⟩ := h
  obtain ⟨rest', ht'⟩ := h'
  rw [ht] at ht'
  cases ht'
  rfl

theorem Waiting.ne {s : θ → Thread μ} (h : Waiting s t m) (h' : Waiting s u m') (hm : m ≠ m') :
    t ≠ u := by
  rintro rfl
  exact hm (h.unique h')

theorem Deadlocked.holder {s : θ → Thread μ} {T : Set θ} (hd : Deadlocked s T) :
    ∃ t ∈ T, ∃ h, h ∈ (s t).held := by
  obtain ⟨⟨t, ht⟩, hw⟩ := hd
  obtain ⟨m, -, u, hu, -, hm⟩ := hw t ht
  exact ⟨u, hu, m, hm⟩

section Threads
variable {μ : Type u} {θ : Type v} [DecidableEq μ] [DecidableEq θ]

/-- One thread takes its next step. An acquire waits until no thread holds the mutex. -/
inductive Step : (θ → Thread μ) → (θ → Thread μ) → Prop where
  | acquire {s} {t : θ} {m : μ} {rest} (ht : (s t).todo = .acquire m :: rest)
      (hfree : ∀ u, m ∉ (s u).held) :
      Step s (Function.update s t ⟨rest, m :: (s t).held⟩)
  | release {s} {t : θ} {m : μ} {rest} (ht : (s t).todo = .release m :: rest) :
      Step s (Function.update s t ⟨rest, (s t).held.erase m⟩)

def start (program : θ → List (LockStep μ)) : θ → Thread μ := fun t => ⟨program t, []⟩

def Reachable (program : θ → List (LockStep μ)) : (θ → Thread μ) → Prop :=
  Relation.ReflTransGen Step (start program)

def heldAfter (held : List μ) : List (LockStep μ) → List μ
  | [] => held
  | .acquire m :: rest => heldAfter (m :: held) rest
  | .release m :: rest => heldAfter (held.erase m) rest

/-- No step of the sequence acquires a mutex that is held. -/
def Clean (held : List μ) : List (LockStep μ) → Prop
  | [] => True
  | .acquire m :: rest => m ∉ held ∧ Clean (m :: held) rest
  | .release m :: rest => Clean (held.erase m) rest

/-- Somewhere in the sequence `m` is acquired while `h` is held. -/
def Nested (steps : List (LockStep μ)) (h m : μ) : Prop :=
  ∃ done rest, steps = done ++ .acquire m :: rest ∧ h ∈ heldAfter [] done

/-- The pairs of a mutex that is held and one that is acquired meanwhile, in order. -/
def nestings (held : List μ) : List (LockStep μ) → List (μ × μ)
  | [] => []
  | .acquire m :: rest => held.map (fun h => (h, m)) ++ nestings (m :: held) rest
  | .release m :: rest => nestings (held.erase m) rest

theorem mem_nestings {held : List μ} {done rest : List (LockStep μ)}
    (hh : h ∈ heldAfter held done) :
    (h, m) ∈ nestings held (done ++ .acquire m :: rest) := by
  induction done generalizing held with
  | nil => exact List.mem_append_left _ (List.mem_map.2 ⟨h, hh, rfl⟩)
  | cons x done ih =>
    cases x with
    | acquire n => exact List.mem_append_right _ (ih hh)
    | release n => exact ih hh

theorem Nested.mem_nestings {steps : List (LockStep μ)} (hn : Nested steps h m) :
    (h, m) ∈ nestings [] steps := by
  obtain ⟨done, rest, rfl, hh⟩ := hn
  exact Lib.mem_nestings hh

theorem heldAfter_append (held : List μ) (a b : List (LockStep μ)) :
    heldAfter held (a ++ b) = heldAfter (heldAfter held a) b := by
  induction a generalizing held with
  | nil => rfl
  | cons x a ih => cases x <;> exact ih _

theorem clean_append_iff {held : List μ} {a b : List (LockStep μ)} :
    Clean held (a ++ b) ↔ Clean held a ∧ Clean (heldAfter held a) b := by
  induction a generalizing held with
  | nil => simp [Clean, heldAfter]
  | cons x a ih =>
    cases x with
    | acquire m => exact (and_congr_right fun _ => ih).trans and_assoc.symm
    | release m => exact ih

theorem Clean.append {held : List μ} (ha : Clean held a) (hb : Clean (heldAfter held a) b) :
    Clean held (a ++ b) := clean_append_iff.2 ⟨ha, hb⟩

def oneByOne (ms : List μ) : List (LockStep μ) :=
  ms.flatMap fun m => [.acquire m, .release m]

theorem oneByOne_single {held : List μ} (hm : m ∉ held) :
    Clean held (oneByOne [m]) ∧ heldAfter held (oneByOne [m]) = held := by
  simp [oneByOne, Clean, heldAfter, hm]

theorem oneByOne_clean (ms : List μ) :
    Clean [] (oneByOne ms) ∧ heldAfter [] (oneByOne ms) = [] := by
  induction ms with
  | nil => exact ⟨trivial, rfl⟩
  | cons m ms ih =>
    have he : [m].erase m = [] := List.erase_cons_head m []
    simp only [oneByOne, List.flatMap_cons, List.cons_append, List.nil_append, Clean, heldAfter, he]
    exact ⟨⟨List.not_mem_nil, ih.1⟩, ih.2⟩

theorem nestings_oneByOne (ms : List μ) (rest : List (LockStep μ)) :
    nestings [] (oneByOne ms ++ rest) = nestings [] rest := by
  induction ms with
  | nil => rfl
  | cons m ms ih =>
    have he : [m].erase m = [] := List.erase_cons_head m []
    simp only [oneByOne, List.flatMap_cons, List.cons_append, List.nil_append, nestings, he,
      List.map_nil]
    exact ih

/-- Nesting in a sequence whose first part ends with nothing held happens inside a part. -/
theorem Nested.of_append {a b : List (LockStep μ)} (hn : Nested (a ++ b) h m)
    (ha : heldAfter [] a = []) : Nested a h m ∨ Nested b h m := by
  obtain ⟨done, rest, he, hh⟩ := hn
  rcases List.append_eq_append_iff.1 he with ⟨c, rfl, hb⟩ | ⟨c, rfl, hc⟩
  · rw [heldAfter_append, ha] at hh
    exact .inr ⟨c, rest, hb, hh⟩
  · cases c with
    | nil =>
      rw [List.append_nil] at ha
      rw [ha] at hh
      cases hh
    | cons x c =>
      obtain ⟨rfl, -⟩ := List.cons.inj hc
      exact .inl ⟨done, c, rfl, hh⟩

theorem Nested.of_flatten {traces : List (List (LockStep μ))} (hn : Nested traces.flatten h m)
    (ht : ∀ trace ∈ traces, heldAfter [] trace = []) : ∃ trace ∈ traces, Nested trace h m := by
  induction traces with
  | nil =>
    obtain ⟨done, rest, he, -⟩ := hn
    simp at he
  | cons trace traces ih =>
    rcases hn.of_append (ht trace List.mem_cons_self) with h' | h'
    · exact ⟨trace, List.mem_cons_self, h'⟩
    · obtain ⟨x, hx, hxn⟩ := ih h' fun x hx => ht x (List.mem_cons_of_mem _ hx)
      exact ⟨x, List.mem_cons_of_mem _ hx, hxn⟩

theorem clean_flatten (traces : List (List (LockStep μ)))
    (ht : ∀ trace ∈ traces, Clean [] trace ∧ heldAfter [] trace = []) :
    Clean [] traces.flatten ∧ heldAfter [] traces.flatten = [] := by
  induction traces with
  | nil => exact ⟨True.intro, rfl⟩
  | cons trace traces ih =>
    obtain ⟨hc, hh⟩ := ht trace List.mem_cons_self
    obtain ⟨hc', hh'⟩ := ih fun x hx => ht x (List.mem_cons_of_mem _ hx)
    rw [List.flatten_cons]
    refine ⟨hc.append ?_, ?_⟩
    · rw [hh]; exact hc'
    · rw [heldAfter_append, hh, hh']

/-- A reachable thread has run a prefix of its program and holds what that prefix left held. -/
theorem Reachable.position {program : θ → List (LockStep μ)} (hr : Reachable program s) (t : θ) :
    ∃ done, program t = done ++ (s t).todo ∧ (s t).held = heldAfter [] done := by
  induction hr with
  | refl => exact ⟨[], rfl, rfl⟩
  | tail _ hs ih =>
    obtain ⟨done, hp, hh⟩ := ih
    cases hs with
    | @acquire u m rest hu hfree =>
      by_cases htu : t = u
      · subst htu
        refine ⟨done ++ [.acquire m], ?_, ?_⟩
        · rw [hp, hu, Function.update_self, List.append_assoc]; rfl
        · rw [Function.update_self, heldAfter_append, ← hh]; rfl
      · rw [Function.update_of_ne htu]
        exact ⟨done, hp, hh⟩
    | @release u m rest hu =>
      by_cases htu : t = u
      · subst htu
        refine ⟨done ++ [.release m], ?_, ?_⟩
        · rw [hp, hu, Function.update_self, List.append_assoc]; rfl
        · rw [Function.update_self, heldAfter_append, ← hh]; rfl
      · rw [Function.update_of_ne htu]
        exact ⟨done, hp, hh⟩

theorem Reachable.nested {program : θ → List (LockStep μ)} (hr : Reachable program s)
    (hw : Waiting s t m) (hh : h ∈ (s t).held) : Nested (program t) h m := by
  obtain ⟨done, hp, hd⟩ := hr.position t
  obtain ⟨rest, ht⟩ := hw
  rw [ht] at hp
  rw [hd] at hh
  exact ⟨done, rest, hp, hh⟩

/-- A thread runs its next steps alone when nobody else holds the mutexes they take. -/
theorem Reachable.advance {program : θ → List (LockStep μ)} (hr : Reachable program s)
    (acts rest : List (LockStep μ)) (ht : (s t).todo = acts ++ rest) (hc : Clean (s t).held acts)
    (hfree : ∀ u, u ≠ t → ∀ m, .acquire m ∈ acts → m ∉ (s u).held) :
    Reachable program (Function.update s t ⟨rest, heldAfter (s t).held acts⟩) := by
  induction acts generalizing s with
  | nil =>
    have he : (⟨rest, (s t).held⟩ : Thread μ) = s t := by
      change (s t).todo = rest at ht
      rw [← ht]
    rw [heldAfter, he, Function.update_eq_self]
    exact hr
  | cons x acts ih =>
    have hrest {held : List μ} (hs : Step s (Function.update s t ⟨acts ++ rest, held⟩))
        (hc' : Clean held acts) :
        Reachable program (Function.update s t ⟨rest, heldAfter held acts⟩) := by
      have hn := ih (.tail hr hs) (by rw [Function.update_self])
        (by rw [Function.update_self]; exact hc') (by
          intro u hu m hm
          rw [Function.update_of_ne hu]
          exact hfree u hu m (List.mem_cons_of_mem _ hm))
      rw [Function.update_idem, Function.update_self] at hn
      exact hn
    cases x with
    | acquire m =>
      refine hrest (.acquire ht fun u => ?_) hc.2
      by_cases hu : u = t
      · rw [hu]; exact hc.1
      · exact hfree u hu m List.mem_cons_self
    | release m => exact hrest (.release ht) hc

/-- A place in a program where a mutex `key` is held and `next` is acquired. The steps in
`hold` take `key`, after everything in `before` has been given back. -/
structure Crossing (program : List (LockStep μ)) where
  before : List (LockStep μ)
  hold : List (LockStep μ)
  rest : List (LockStep μ)
  key : μ
  next : μ
  split : program = before ++ (hold ++ .acquire next :: rest)
  before_clean : Clean [] before ∧ heldAfter [] before = []
  hold_clean : Clean [] hold ∧ heldAfter [] hold = [key]

section Cycle
variable {program : θ → List (LockStep μ)}

theorem update_listed {L : List ((t : θ) × Crossing (program t))} {s s₀ : θ → Thread μ}
    {f : (t : θ) × Crossing (program t) → Thread μ} (hx : x.1 ∉ L.map Sigma.fst)
    (hin : ∀ y ∈ L, s y.1 = f y) (hout : ∀ t, t ∉ L.map Sigma.fst → s t = s₀ t) :
    (∀ y ∈ x :: L, Function.update s x.1 (f x) y.1 = f y) ∧
      ∀ t, t ∉ (x :: L).map Sigma.fst → Function.update s x.1 (f x) t = s₀ t := by
  apply And.intro
  · intro y hy
    rcases List.mem_cons.1 hy with rfl | hy
    · rw [Function.update_self]
    · have hyx : y.1 ≠ x.1 := fun h => hx (List.mem_map.2 ⟨y, hy, h⟩)
      rw [Function.update_of_ne hyx]
      exact hin y hy
  · intro t ht
    rw [List.map_cons, List.mem_cons, not_or] at ht
    rw [Function.update_of_ne ht.1]
    exact hout t ht.2

theorem holds_nothing {L : List ((t : θ) × Crossing (program t))} {s : θ → Thread μ}
    (hin : ∀ x ∈ L, (s x.1).held = []) (hout : ∀ t, t ∉ L.map Sigma.fst → (s t).held = [])
    (t : θ) : (s t).held = [] := by
  by_cases ht : t ∈ L.map Sigma.fst
  · obtain ⟨x, hx, rfl⟩ := List.mem_map.1 ht
    exact hin x hx
  · exact hout t ht

theorem reachable_before (L : List ((t : θ) × Crossing (program t)))
    (hn : (L.map Sigma.fst).Nodup) :
    ∃ s, Reachable program s ∧
      (∀ x ∈ L, s x.1 = ⟨x.2.hold ++ .acquire x.2.next :: x.2.rest, []⟩) ∧
      ∀ t, t ∉ L.map Sigma.fst → s t = ⟨program t, []⟩ := by
  induction L with
  | nil => exact ⟨start program, .refl, by simp, fun _ _ => rfl⟩
  | cons x L ih =>
    obtain ⟨hx, hn'⟩ := List.nodup_cons.1 hn
    obtain ⟨s, hr, hin, hout⟩ := ih hn'
    have hidle := holds_nothing (s := s) (fun y hy => by rw [hin y hy])
      (fun u hu => by rw [hout u hu])
    have hr' := hr.advance (t := x.1) x.2.before (x.2.hold ++ .acquire x.2.next :: x.2.rest)
      (by rw [hout _ hx]; exact x.2.split)
      (by rw [hidle]; exact x.2.before_clean.1)
      (fun u _ m _ => by rw [hidle]; exact List.not_mem_nil)
    rw [hidle, x.2.before_clean.2] at hr'
    exact ⟨_, hr', update_listed (f := fun y => ⟨y.2.hold ++ .acquire y.2.next :: y.2.rest, []⟩)
      hx hin hout⟩

theorem reachable_held {L : List ((t : θ) × Crossing (program t))}
    (hn : (L.map Sigma.fst).Nodup)
    (hp : L.Pairwise fun x y => .acquire y.2.key ∉ x.2.hold) (hr : Reachable program s)
    (hin : ∀ x ∈ L, s x.1 = ⟨x.2.hold ++ .acquire x.2.next :: x.2.rest, []⟩)
    (hidle : ∀ t, (s t).held = []) :
    ∃ s', Reachable program s' ∧
      (∀ x ∈ L, s' x.1 = ⟨.acquire x.2.next :: x.2.rest, [x.2.key]⟩) ∧
      ∀ t, t ∉ L.map Sigma.fst → s' t = s t := by
  induction L with
  | nil => exact ⟨s, hr, by simp, fun _ _ => rfl⟩
  | cons x L ih =>
    obtain ⟨hx, hn'⟩ := List.nodup_cons.1 hn
    obtain ⟨hxp, hp'⟩ := List.pairwise_cons.1 hp
    obtain ⟨s', hr', hin', hout⟩ := ih hn' hp' fun y hy => hin y (List.mem_cons_of_mem x hy)
    have hstart := (hout _ hx).trans (hin x List.mem_cons_self)
    have hr'' := hr'.advance (t := x.1) x.2.hold (.acquire x.2.next :: x.2.rest) (by rw [hstart])
      (by rw [hstart]; exact x.2.hold_clean.1) (by
        intro u _ m hm
        by_cases hu : u ∈ L.map Sigma.fst
        · obtain ⟨y, hy, rfl⟩ := List.mem_map.1 hu
          rw [hin' y hy, List.mem_singleton]
          rintro rfl
          exact hxp y hy hm
        · rw [hout u hu, hidle]
          exact List.not_mem_nil)
    rw [hstart, x.2.hold_clean.2] at hr''
    exact ⟨_, hr'', update_listed (f := fun y => ⟨.acquire y.2.next :: y.2.rest, [y.2.key]⟩)
      hx hin' hout⟩

/-- Crossings that each wait for the key of another one make a deadlock that can be reached. -/
theorem reachable_deadlock {L : List ((t : θ) × Crossing (program t))}
    (hn : (L.map Sigma.fst).Nodup)
    (hp : L.Pairwise fun x y => .acquire y.2.key ∉ x.2.hold) (hne : L ≠ [])
    (hnext : ∀ x ∈ L, ∃ y ∈ L, y.1 ≠ x.1 ∧ y.2.key = x.2.next) :
    ∃ s, Reachable program s ∧ ∃ T, Deadlocked s T := by
  obtain ⟨s, hr, hin, hout⟩ := reachable_before L hn
  have hidle := holds_nothing (s := s) (fun x hx => by rw [hin x hx])
    (fun t ht => by rw [hout t ht])
  obtain ⟨s', hr', hin', _⟩ := reachable_held hn hp hr hin hidle
  refine ⟨s', hr', {t | t ∈ L.map Sigma.fst}, ?_, ?_⟩
  · obtain ⟨x, hx⟩ := List.exists_mem_of_ne_nil L hne
    exact ⟨x.1, List.mem_map_of_mem hx⟩
  · intro t ht
    obtain ⟨x, hx, rfl⟩ := List.mem_map.1 ht
    obtain ⟨y, hy, hyx, hkey⟩ := hnext x hx
    refine ⟨x.2.next, ⟨x.2.rest, by rw [hin' x hx]⟩, y.1, List.mem_map_of_mem hy, hyx, ?_⟩
    rw [hin' y hy, hkey]
    exact List.mem_singleton.2 rfl

end Cycle
end Threads
end Lib
