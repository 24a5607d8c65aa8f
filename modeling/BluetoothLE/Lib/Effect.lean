import Mathlib.Tactic.Common

namespace Lib
set_option autoImplicit true

/-- How a call ended, the state it left behind, and the events it made, in order. -/
structure Outcome (ε σ τ α : Type u) where
  result : Except ε α
  state : σ
  trace : List τ

/-- Computations with a state, an event trace and exceptions. Whatever was done before an
exception stays done. -/
def Effect (ε σ τ α : Type u) : Type u := σ → Outcome ε σ τ α

namespace Outcome

def after (t : List τ) (o : Outcome ε σ τ α) : Outcome ε σ τ α :=
  { o with trace := t ++ o.trace }

def bind (o : Outcome ε σ τ α) (k : α → Effect ε σ τ β) : Outcome ε σ τ β :=
  match o with
  | ⟨.ok a, s, t⟩ => (k a s).after t
  | ⟨.error e, s, t⟩ => ⟨.error e, s, t⟩

def catching (handles : ε → Option β) (o : Outcome ε σ τ α) (handler : β → Effect ε σ τ α) :
    Outcome ε σ τ α :=
  match o with
  | ⟨.ok a, s, t⟩ => ⟨.ok a, s, t⟩
  | ⟨.error e, s, t⟩ =>
    match handles e with
    | some b => (handler b s).after t
    | none => ⟨.error e, s, t⟩

@[simp] theorem after_mk (r : Except ε α) (s : σ) (t t' : List τ) :
    (⟨r, s, t'⟩ : Outcome ε σ τ α).after t = ⟨r, s, t ++ t'⟩ := rfl

@[simp] theorem after_result (t : List τ) (o : Outcome ε σ τ α) :
    (o.after t).result = o.result := rfl

@[simp] theorem after_state (t : List τ) (o : Outcome ε σ τ α) :
    (o.after t).state = o.state := rfl

@[simp] theorem after_trace (t : List τ) (o : Outcome ε σ τ α) :
    (o.after t).trace = t ++ o.trace := rfl

@[simp] theorem bind_ok (a : α) (s : σ) (t : List τ) (k : α → Effect ε σ τ β) :
    (⟨.ok a, s, t⟩ : Outcome ε σ τ α).bind k = (k a s).after t := rfl

@[simp] theorem bind_error (e : ε) (s : σ) (t : List τ) (k : α → Effect ε σ τ β) :
    (⟨.error e, s, t⟩ : Outcome ε σ τ α).bind k = ⟨.error e, s, t⟩ := rfl

@[simp] theorem catching_ok (a : α) (s : σ) (t : List τ) (handler : β → Effect ε σ τ α) :
    (⟨.ok a, s, t⟩ : Outcome ε σ τ α).catching handles handler = ⟨.ok a, s, t⟩ := rfl

theorem catching_handled {handler : β → Effect ε σ τ α} (h : handles e = some b) :
    (⟨.error e, s, t⟩ : Outcome ε σ τ α).catching handles handler = (handler b s).after t := by
  simp only [catching, h]

theorem catching_passed {handler : β → Effect ε σ τ α} (h : handles e = none) :
    (⟨.error e, s, t⟩ : Outcome ε σ τ α).catching handles handler = ⟨.error e, s, t⟩ := by
  simp only [catching, h]

theorem catching_after (t : List τ) (o : Outcome ε σ τ α) (handler : β → Effect ε σ τ α) :
    (o.after t).catching handles handler = (o.catching handles handler).after t := by
  obtain ⟨r, s, t'⟩ := o
  cases r with
  | ok a => rfl
  | error e =>
    rw [after_mk]
    cases h : handles e with
    | none => rw [catching_passed h, catching_passed h, after_mk]
    | some b =>
      rw [catching_handled h, catching_handled h, after, after, after, List.append_assoc]

end Outcome

namespace Effect

instance : Monad (Effect ε σ τ) where
  pure a := fun s => ⟨.ok a, s, []⟩
  bind x k := fun s => (x s).bind k

def get : Effect ε σ τ σ := fun s => ⟨.ok s, s, []⟩

def modify (f : σ → σ) : Effect ε σ τ PUnit := fun s => ⟨.ok ⟨⟩, f s, []⟩

def log (e : τ) : Effect ε σ τ PUnit := fun s => ⟨.ok ⟨⟩, s, [e]⟩

def throw (e : ε) : Effect ε σ τ α := fun s => ⟨.error e, s, []⟩

def guarded (enter leave : τ) (x : Effect ε σ τ α) : Effect ε σ τ α := fun s =>
  ⟨(x s).result, (x s).state, enter :: (x s).trace ++ [leave]⟩

/-- Hand the exceptions that `handles` recognises to `handler`; the others pass through. -/
def catching (handles : ε → Option β) (x : Effect ε σ τ α) (handler : β → Effect ε σ τ α) :
    Effect ε σ τ α := fun s => (x s).catching handles handler

@[simp] theorem pure_apply (a : α) (s : σ) :
    (pure a : Effect ε σ τ α) s = ⟨.ok a, s, []⟩ := rfl

@[simp] theorem bind_apply (x : Effect ε σ τ α) (k : α → Effect ε σ τ β) (s : σ) :
    (x >>= k) s = (x s).bind k := rfl

@[simp] theorem get_apply (s : σ) : (get : Effect ε σ τ σ) s = ⟨.ok s, s, []⟩ := rfl

@[simp] theorem modify_apply (f : σ → σ) (s : σ) :
    (modify f : Effect ε σ τ PUnit) s = ⟨.ok ⟨⟩, f s, []⟩ := rfl

@[simp] theorem log_apply (e : τ) (s : σ) :
    (log e : Effect ε σ τ PUnit) s = ⟨.ok ⟨⟩, s, [e]⟩ := rfl

@[simp] theorem throw_apply (e : ε) (s : σ) :
    (throw e : Effect ε σ τ α) s = ⟨.error e, s, []⟩ := rfl

@[simp] theorem guarded_apply (enter leave : τ) (x : Effect ε σ τ α) (s : σ) :
    guarded enter leave x s = ⟨(x s).result, (x s).state, enter :: (x s).trace ++ [leave]⟩ := rfl

@[simp] theorem catching_apply (x : Effect ε σ τ α) (handler : β → Effect ε σ τ α) (s : σ) :
    catching handles x handler s = (x s).catching handles handler := rfl

section Rules
variable {ε σ τ α β : Type u} {P : τ → Prop}

theorem bind_of_ok {x : Effect ε σ τ α} {k : α → Effect ε σ τ β} (h : (x s).result = .ok a) :
    (x >>= k) s = (k a (x s).state).after (x s).trace := by
  rw [bind_apply]
  cases hx : x s with
  | mk r s' t =>
    rw [hx] at h
    cases h
    rfl

theorem bind_of_error {x : Effect ε σ τ α} {k : α → Effect ε σ τ β}
    (h : (x s).result = .error e) : (x >>= k) s = ⟨.error e, (x s).state, (x s).trace⟩ := by
  rw [bind_apply]
  cases hx : x s with
  | mk r s' t =>
    rw [hx] at h
    cases h
    rfl

theorem bind_result_ok {x : Effect ε σ τ α} {k : α → Effect ε σ τ β} (h : (x s).result = .ok a) :
    ((x >>= k) s).result = (k a (x s).state).result := by
  rw [bind_of_ok h, Outcome.after_result]

theorem bind_result_error {x : Effect ε σ τ α} {k : α → Effect ε σ τ β}
    (h : (x s).result = .error e) : ((x >>= k) s).result = .error e := by
  rw [bind_of_error h]

/-- A handler that throws nothing leaves only the exceptions that it is not for. -/
theorem catching_unhandled {handles : ε → Option β} {x : Effect ε σ τ α}
    (h : (catching handles x (fun _ => pure a) s).result = .error e) : handles e = none := by
  rw [catching_apply] at h
  cases hs : x s with
  | mk r s' t =>
    rw [hs] at h
    cases r with
    | ok a' => cases h
    | error e' =>
      cases he : handles e' with
      | some b =>
        rw [Outcome.catching_handled he] at h
        cases h
      | none =>
        rw [Outcome.catching_passed he] at h
        cases h
        exact he

/-- What was done before an exception is in the trace, whether it is caught or not. -/
theorem mem_catching_trace {handles : ε → Option β} {x : Effect ε σ τ α}
    {handler : β → Effect ε σ τ α} (h : event ∈ (x s).trace) :
    event ∈ (catching handles x handler s).trace := by
  rw [catching_apply]
  cases hs : x s with
  | mk r s' t =>
    rw [hs] at h
    cases r with
    | ok a => exact h
    | error e =>
      cases hb : handles e with
      | some b =>
        rw [Outcome.catching_handled hb]
        exact List.mem_append_left _ h
      | none =>
        rw [Outcome.catching_passed hb]
        exact h

/-- A relation between the state before and the state after, by the events in between, that holds
of doing nothing and of one thing after another. -/
structure Composes (R : σ → List τ → σ → Prop) : Prop where
  refl : ∀ s, R s [] s
  trans : ∀ {s s' s'' t t'}, R s t s' → R s' t' s'' → R s (t ++ t') s''

/-- Whatever `x` does, an exception included, is in the relation. -/
def Guarantees (R : σ → List τ → σ → Prop) (x : Effect ε σ τ α) : Prop :=
  ∀ s, R s (x s).trace (x s).state

namespace Guarantees
variable {R : σ → List τ → σ → Prop}

theorem mono {R' : σ → List τ → σ → Prop} {x : Effect ε σ τ α} (hx : Guarantees R x)
    (h : ∀ s t s', R s t s' → R' s t s') : Guarantees R' x :=
  fun s => h _ _ _ (hx s)

theorem pure (hR : Composes R) (a : α) : Guarantees R (Pure.pure a : Effect ε σ τ α) := hR.refl

theorem get (hR : Composes R) : Guarantees R (Effect.get : Effect ε σ τ σ) := hR.refl

theorem throw (hR : Composes R) (e : ε) : Guarantees R (Effect.throw e : Effect ε σ τ α) := hR.refl

theorem modify {f : σ → σ} (h : ∀ s, R s [] (f s)) :
    Guarantees R (Effect.modify f : Effect ε σ τ PUnit) := h

theorem log {e : τ} (h : ∀ s, R s [e] s) : Guarantees R (Effect.log e : Effect ε σ τ PUnit) := h

theorem bind (hR : Composes R) {x : Effect ε σ τ α} {k : α → Effect ε σ τ β}
    (hx : Guarantees R x) (hk : ∀ a, Guarantees R (k a)) : Guarantees R (x >>= k) := by
  intro s
  have h := hx s
  rw [bind_apply]
  cases hs : x s with
  | mk r s' t =>
    rw [hs] at h
    cases r with
    | ok a => exact hR.trans h (hk a s')
    | error e => exact h

theorem guarded (hR : Composes R) {x : Effect ε σ τ α} (henter : ∀ s, R s [enter] s)
    (hleave : ∀ s, R s [leave] s) (hx : Guarantees R x) :
    Guarantees R (Effect.guarded enter leave x) :=
  fun s => hR.trans (hR.trans (henter s) (hx s)) (hleave _)

theorem catching (hR : Composes R) {handles : ε → Option β} {x : Effect ε σ τ α}
    {handler : β → Effect ε σ τ α} (hx : Guarantees R x) (hh : ∀ b, Guarantees R (handler b)) :
    Guarantees R (Effect.catching handles x handler) := by
  intro s
  have h := hx s
  rw [catching_apply]
  cases hs : x s with
  | mk r s' t =>
    rw [hs] at h
    cases r with
    | ok a => exact h
    | error e =>
      cases hb : handles e with
      | some b =>
        rw [Outcome.catching_handled hb]
        exact hR.trans h (hh b s')
      | none =>
        rw [Outcome.catching_passed hb]
        exact h

end Guarantees

/-- `x` leaves the state alone, and every event that it makes satisfies `P`. -/
def Emits (P : τ → Prop) (x : Effect ε σ τ α) : Prop :=
  ∀ s, (x s).state = s ∧ ∀ e ∈ (x s).trace, P e

theorem emits_composes (P : τ → Prop) :
    Composes fun s t (s' : σ) => s' = s ∧ ∀ e ∈ t, P e where
  refl := fun _ => ⟨rfl, List.forall_mem_nil _⟩
  trans := fun h h' => ⟨h'.1.trans h.1, List.forall_mem_append.2 ⟨h.2, h'.2⟩⟩

namespace Emits

theorem pure (a : α) : Emits P (Pure.pure a : Effect ε σ τ α) :=
  Guarantees.pure (emits_composes P) a

theorem get : Emits P (Effect.get : Effect ε σ τ σ) := Guarantees.get (emits_composes P)

theorem throw (e : ε) : Emits P (Effect.throw e : Effect ε σ τ α) :=
  Guarantees.throw (emits_composes P) e

theorem log {e : τ} (h : P e) : Emits P (Effect.log e : Effect ε σ τ PUnit) := by
  intro s
  apply And.intro rfl
  intro e' he
  cases List.mem_singleton.1 he
  exact h

theorem bind {x : Effect ε σ τ α} {k : α → Effect ε σ τ β} (hx : Emits P x)
    (hk : ∀ a, Emits P (k a)) : Emits P (x >>= k) :=
  Guarantees.bind (emits_composes P) hx hk

end Emits

/-- A continuation that only emits adds to the trace and leaves the state. -/
theorem bind_emits {x : Effect ε σ τ α} {k : α → Effect ε σ τ β} (hk : ∀ a, Emits P (k a))
    (s : σ) : ((x >>= k) s).state = (x s).state ∧
      ∃ t, (∀ e ∈ t, P e) ∧ ((x >>= k) s).trace = (x s).trace ++ t := by
  rw [bind_apply]
  cases x s with
  | mk r s' t =>
    cases r with
    | ok a => exact ⟨(hk a s').1, (k a s').trace, (hk a s').2, rfl⟩
    | error e => exact ⟨rfl, [], by simp, (List.append_nil t).symm⟩

theorem catching_emits (handles : ε → Option β) {x : Effect ε σ τ α}
    {handler : β → Effect ε σ τ α} (hh : ∀ b, Emits P (handler b)) (s : σ) :
    (catching handles x handler s).state = (x s).state ∧
      ∃ t, (∀ e ∈ t, P e) ∧ (catching handles x handler s).trace = (x s).trace ++ t := by
  rw [catching_apply]
  cases x s with
  | mk r s' t =>
    cases r with
    | ok a => exact ⟨rfl, [], by simp, (List.append_nil t).symm⟩
    | error e =>
      cases hb : handles e with
      | some b =>
        rw [Outcome.catching_handled hb]
        exact ⟨(hh b s').1, (handler b s').trace, (hh b s').2, rfl⟩
      | none =>
        rw [Outcome.catching_passed hb]
        exact ⟨rfl, [], by simp, (List.append_nil t).symm⟩

end Rules
end Effect
end Lib
