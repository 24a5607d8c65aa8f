import BluetoothLE.DBus.Dispatch
import BluetoothLE.DBus.ObjectPath
import BluetoothLE.Lib.Variant

namespace Ggk
open Lib
set_option autoImplicit true

structure DBusError where
  name : String
  message : String
  deriving DecidableEq, Repr

inductive DBusMessageType where
  | methodCall
  | methodReturn
  | error
  | signal
  deriving DecidableEq, Repr

structure DBusMessage where
  type : DBusMessageType
  destination : Option String := none
  path : Option String := none
  interface : Option String := none
  member : Option String := none
  errorName : Option String := none
  body : Option Variant := none

namespace DBusMessage

/-- GLib makes no message of texts that are not `valid` names and paths. -/
def created (valid : Bool) (msg : DBusMessage) (what : String) : Except DBusError DBusMessage :=
  if valid then .ok msg
  else .error ⟨DBusError.errorFailed, "Failed to create " ++ what ++ " message"⟩

def createMethodCall (valid : Bool) (destination path interface method : String) :
    Except DBusError DBusMessage :=
  created valid
    { type := .methodCall, destination := some (cStr destination), path := some (cStr path),
      interface := some (cStr interface), member := some (cStr method) } "method call"

/-- The reply goes to the sender of the call. -/
def createMethodReturn (valid : Bool) (sender : Option String) : Except DBusError DBusMessage :=
  created valid { type := .methodReturn, destination := sender } "method return"

def createSignal (valid : Bool) (path interface name : String) : Except DBusError DBusMessage :=
  created valid
    { type := .signal, path := some (cStr path), interface := some (cStr interface),
      member := some (cStr name) } "signal"

/-- An error message has its text for a body from the start. -/
def createError (valid : Bool) (sender : Option String) (error : DBusError) :
    Except DBusError DBusMessage :=
  created valid
    { type := .error, destination := sender, errorName := some (cStr error.name),
      body := some (.tuple [.ofString (cStr error.message)]) } "error"

/-- The new body is built from the old one, which is added as if it were a child. Where the
builder does not end in a value, the body is cleared. -/
def addArgument (variant : Variant) (m : DBusMessage) : DBusMessage :=
  let builder :=
    match m.body with
    | some body => (VariantBuilder.start body.type).add body
    | none => VariantBuilder.start .anyTuple
  { m with body := (builder.add variant).close }

def addArgumentsList (variants : List Variant) (m : DBusMessage) : DBusMessage :=
  variants.foldl (fun m var => m.addArgument var) m

def getBody (m : DBusMessage) : Option Variant := m.body

def getSignature (m : DBusMessage) : String :=
  match m.body with
  | none => ""
  | some body => body.type.string

/-- A message that one of the four functions has made. -/
inductive Fresh (m : DBusMessage) : Prop where
  | methodCall (valid : Bool) (destination path interface method : String) :
    createMethodCall valid destination path interface method = .ok m → Fresh m
  | methodReturn (valid : Bool) (sender : Option String) :
    createMethodReturn valid sender = .ok m → Fresh m
  | signal (valid : Bool) (path interface name : String) :
    createSignal valid path interface name = .ok m → Fresh m
  | error (valid : Bool) (sender : Option String) (error : DBusError) :
    createError valid sender error = .ok m → Fresh m

variable {m : DBusMessage} {vs : List Variant}

theorem created_ok (h : created valid msg what = .ok m) : m = msg := by
  rw [created] at h
  split at h
  · cases h
    rfl
  · cases h

theorem fresh_body (h : Fresh m) :
    m.type ≠ .error ∧ m.body = none ∨
      m.type = .error ∧ ∃ text, m.body = some (.tuple [.ofString text]) := by
  cases h with
  | methodCall _ _ _ _ _ h | methodReturn _ _ h | signal _ _ _ _ h =>
    cases created_ok h
    exact .inl ⟨nofun, rfl⟩
  | error _ _ _ h =>
    cases created_ok h
    exact .inr ⟨rfl, _, rfl⟩

theorem addArgument_none (h : m.body = none) (v : Variant) :
    (m.addArgument v).body = some (.tuple [v]) := by
  rw [addArgument, h]
  exact VariantBuilder.close_add_start_anyTuple v

theorem addArgument_single {child : Variant} (h : m.body = some (.tuple [child])) (v : Variant) :
    (m.addArgument v).body =
      if v.type.isSubtypeOf child.type then some (.tuple [v]) else none := by
  rw [addArgument, h]
  simp only [VariantBuilder.add_start_self]
  rw [Variant.type, Variant.types, Variant.types, VariantBuilder.close_add_start_pair]

/-- A message that has a body has one child in it. -/
def Single (m : DBusMessage) : Prop := ∀ body, m.body = some body → ∃ child, body = .tuple [child]

theorem addArgument_keeps (h : Single m) (v : Variant) : Single (m.addArgument v) := by
  intro body hbody
  cases hm : m.body with
  | none =>
    rw [addArgument_none hm] at hbody
    cases hbody
    exact ⟨v, rfl⟩
  | some old =>
    obtain ⟨child, rfl⟩ := h old hm
    rw [addArgument_single hm] at hbody
    split at hbody
    · cases hbody
      exact ⟨v, rfl⟩
    · cases hbody

theorem addArgumentsList_keeps (h : Single m) (vs : List Variant) :
    Single (m.addArgumentsList vs) := by
  induction vs generalizing m with
  | nil => exact h
  | cons v vs ih => exact ih (addArgument_keeps h v)

theorem fresh_single (h : Fresh m) : Single m := by
  intro body hbody
  rcases fresh_body h with ⟨_, hnone⟩ | ⟨_, text, hsome⟩
  · rw [hnone] at hbody
    cases hbody
  · rw [hsome] at hbody
    cases hbody
    exact ⟨_, rfl⟩

theorem getSignature_tuple (h : m.getBody = some (.tuple vs)) :
    m.getSignature = "(" ++ String.join (vs.map (·.type.string)) ++ ")" := by
  rw [getBody] at h
  rw [getSignature, h]
  simp only [Variant.type, VariantType.string, VariantType.strings_eq_join, Variant.types_eq_map,
    List.map_map]
  rfl

theorem addArgument_fresh (h : Fresh m) (v : Variant) :
    (m.addArgument v).body = some (.tuple [v]) ↔
      (m.type = .error → v.type = .basic .string) := by
  rcases fresh_body h with ⟨htype, hnone⟩ | ⟨htype, text, hsome⟩
  · exact iff_of_true (addArgument_none hnone v) fun herror => absurd herror htype
  · have hstring : (Variant.ofString text).type = .basic .string := by
      rw [Variant.ofString, Variant.type]
    rw [addArgument_single hsome, hstring, ← Variant.isSubtypeOf_string]
    cases v.type.isSubtypeOf (.basic .string) <;> simp [htype]

/-- The arguments arrive where there is one, and where it has the type of the text that an error
message comes with. -/
theorem addArgumentsList_iff (hm : Fresh m) (hvs : vs ≠ []) :
    ((m.addArgumentsList vs).getBody = some (.tuple vs) ∧
      (m.addArgumentsList vs).getSignature =
        "(" ++ String.join (vs.map (·.type.string)) ++ ")") ↔
      vs.length = 1 ∧ (m.type = .error → ∀ v ∈ vs, v.type = .basic .string) := by
  rw [and_iff_left_of_imp getSignature_tuple]
  match vs with
  | [v] =>
    have hone : (m.addArgumentsList [v]).getBody = (m.addArgument v).body := rfl
    rw [hone, addArgument_fresh hm]
    simp
  | v :: v' :: rest =>
    apply iff_of_false
    · intro h
      obtain ⟨child, hchild⟩ := addArgumentsList_keeps (fresh_single hm) _ _ h
      cases hchild
    · rintro ⟨hlength, _⟩
      cases hlength

/-- A signal with a number for its argument. -/
theorem addArgumentsList_one :
    let m : DBusMessage :=
      { type := .signal, path := some "/app", interface := some "org.example.Interface",
        member := some "Changed" }
    let v : Variant := .basic .byte [7]
    ((m.addArgumentsList [v]).getBody = some (.tuple [v]) ∧
      (m.addArgumentsList [v]).getSignature =
        "(" ++ String.join ([v].map (·.type.string)) ++ ")") ↔
      [v].length = 1 ∧ (m.type = .error → ∀ v' ∈ [v], v'.type = .basic .string) := by
  intro m v
  have hfresh : createSignal true "/app" "org.example.Interface" "Changed" = .ok m := rfl
  exact addArgumentsList_iff (.signal _ _ _ _ hfresh) (List.cons_ne_nil _ _)

/-- Of two arguments the first is lost. -/
theorem first_argument_lost :
    let v : Variant := .basic .byte [7]
    let w : Variant := .basic .byte [8]
    ∃ m, createSignal true "/app" "org.example.Interface" "Changed" = .ok m ∧
      (m.addArgumentsList [v, w]).getBody ≠ some (.tuple [v, w]) ∧
      (m.addArgumentsList [v, w]).getBody = some (.tuple [w]) ∧
      (m.addArgumentsList [v, w]).getSignature = "(y)" := by
  intro v w
  let m : DBusMessage :=
    { type := .signal, path := some "/app", interface := some "org.example.Interface",
      member := some "Changed" }
  have hv : (m.addArgument v).body = some (.tuple [v]) := addArgument_none rfl v
  have hw : (m.addArgumentsList [v, w]).getBody = some (.tuple [w]) := by
    have htype : w.type.isSubtypeOf v.type = true := by
      simp [v, w, Variant.type, VariantType.isSubtypeOf]
    exact (addArgument_single hv w).trans (if_pos htype)
  refine ⟨m, rfl, ?_, hw, ?_⟩
  · rw [hw]
    simp
  · rw [getSignature_tuple hw]
    simp [w, Variant.type, VariantType.string, BasicType.code]

end DBusMessage
end Ggk
