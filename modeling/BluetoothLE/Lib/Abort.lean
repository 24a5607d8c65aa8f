import BluetoothLE.Lib.Effect
import BluetoothLE.Lib.Machine

namespace Lib
set_option autoImplicit true

/-- A list of events up to the first one that is final, this one included. -/
def upTo (final : τ → Bool) : List τ → List τ
  | [] => []
  | e :: t => e :: if final e then [] else upTo final t

theorem upTo_append (final : τ → Bool) (s t : List τ) :
    upTo final (s ++ t) = if s.any final then upTo final s else s ++ upTo final t := by
  induction s with
  | nil => rfl
  | cons e s ih =>
    rw [List.cons_append, upTo, upTo, ih, List.any_cons]
    cases final e with
    | true => rfl
    | false => cases s.any final <;> rfl

theorem upTo_of_not_any (h : t.any final = false) : upTo final t = t := by
  have happ := upTo_append final t []
  rwa [List.append_nil, h, upTo, List.append_nil] at happ

theorem mem_of_mem_upTo (h : e ∈ upTo final t) : e ∈ t := by
  induction t with
  | nil => exact h
  | cons e' t ih =>
    rw [upTo, List.mem_cons] at h
    rcases h with rfl | h
    · exact .head _
    · split at h
      · cases h
      · exact .tail _ (ih h)

/-- How a call ends and what is seen of it, where a final event ends the process at once. No
handler gets to see that: `aborted` is what there is in place of a result. -/
def cutShort (final : τ → Bool) (aborted : ε) (r : Except ε α × List τ) : Except ε α × List τ :=
  (if r.2.any final then .error aborted else r.1, upTo final r.2)

theorem cutShort_of_not_any {r : Except ε α × List τ} (h : r.2.any final = false) :
    cutShort final aborted r = r := by
  rw [cutShort, h, upTo_of_not_any h]
  rfl

namespace Machine

/-- A machine that ends with the first event that is final for the input at hand, and does
nothing from then on. -/
def aborting (final : κ → τ → Bool) (aborted : ε) (m : Machine σ ι (Except ε α × List τ)) :
    Machine (Option σ) (κ × ι) (Option (Except ε α × List τ)) where
  step
    | none, _ => (none, none)
    | some s, (k, i) =>
      let r := m.step s i
      (some (cutShort (final k) aborted r.1), if r.1.2.any (final k) then none else some r.2)

/-- A refinement stays one where the process may end. -/
theorem aborting_maps {m : Machine σ ι (Except ε α × List τ)}
    {a : Machine σ' ι' (Except ε α × List τ)} {f : σ → σ'} {g : ι → ι'} {I : σ → Prop}
    {C : ι → Prop} (hI : I s)
    (hstep : ∀ s i, I s → C i →
      a.step (f s) (g i) = ((m.step s i).1, f (m.next s i)) ∧ I (m.next s i))
    (final : κ → τ → Bool) (aborted : ε) {is : List (κ × ι)} (h : ∀ i ∈ is, C i.2) :
    let requests := is.map (Prod.map id g)
    ((m.aborting final aborted).run (some s) is).map f =
        (a.aborting final aborted).run (some (f s)) requests ∧
      (m.aborting final aborted).output (some s) is =
        (a.aborting final aborted).output (some (f s)) requests := by
  refine run_maps (f := Option.map f) (I := fun s => ∀ s' ∈ s, I s') (C := fun i => C i.2)
    (fun s' hs => ?_) (fun s i hs hc => ?_) h
  · cases hs
    exact hI
  · obtain ⟨k, i⟩ := i
    cases s with
    | none =>
      apply And.intro rfl
      intro s' h'
      cases h'
    | some s =>
      obtain ⟨ha, hn⟩ := hstep s i (hs s rfl) hc
      rw [next] at ha hn
      constructor
      · simp only [aborting, next, Option.map_some, Prod.map_apply, id, ha]
        cases (m.step s i).1.2.any (final k) <;> rfl
      · intro s' h'
        simp only [aborting, next] at h'
        split_ifs at h'
        · cases h'
        · cases h'
          exact hn

end Machine
end Lib
