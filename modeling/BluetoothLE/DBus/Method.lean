import BluetoothLE.DBus.Message
import BluetoothLE.DBus.Xml

namespace Ggk
open Lib
set_option autoImplicit true

/-- A method of an interface, with its callback, which is a callable object of type `κ`. -/
structure DBusMethod (κ : Type u) where
  name : String
  arguments : List DBusArgument
  callback : κ
  named : name ≠ ""

namespace DBusMethod

/-- A `DBusMethodCall` with any variant for its parameters. -/
structure Call where
  sender : String
  interface : String
  method : String
  parameters : Option Variant
  invocation : Bool

inductive Event where
  | callback (call : Call)
  | dbusError (name message : String)

/-- The constructor, with the texts of the `std::invalid_argument` that it throws. -/
def constructed (owner : Bool) (name : String) (args : List DBusArgument) (callback : Option κ) :
    Except String (DBusMethod κ) :=
  if !owner then .error "DBusMethod owner cannot be null"
  else if h : name = "" then .error "DBusMethod name cannot be empty"
  else
    match callback with
    | none => .error "DBusMethod callback cannot be null"
    | some callback => .ok ⟨name, args, callback, h⟩

def getInputArguments (m : DBusMethod κ) : List DBusArgument :=
  m.arguments.filter fun arg => arg.direction == "in"

/-- `g_variant_type_new` makes a type of a string that `isType` accepts, and two types are equal
if their strings are. -/
def checkArgumentTypes (isType : String → Bool) (parameters : Variant) (m : DBusMethod κ) : Bool :=
  m.getInputArguments.all fun arg =>
    isType (cStr arg.signature) && cStr arg.signature == parameters.type.string

def validateArguments (isType : String → Bool) (parameters : Option Variant) (m : DBusMethod κ) :
    Bool :=
  match parameters with
  | none => m.getInputArguments.isEmpty
  | some parameters => m.checkArgumentTypes isType parameters

def handleError (invocation : Bool) (errorName errorMessage : String) :
    Effect Thrown σ Event Unit :=
  if invocation then
    Effect.log (.dbusError ("org.freedesktop.DBus.Error." ++ errorName) errorMessage)
  else pure ()

def invoke (isType : String → Bool) (run : κ → Call → Effect Thrown σ Event Unit) (call : Call)
    (m : DBusMethod κ) : Effect Thrown σ Event Unit :=
  if !m.validateArguments isType call.parameters then
    handleError call.invocation "InvalidArgs" "Method arguments do not match signature"
  else
    Effect.catching Gatt.what
      (do Effect.log (.callback call); run m.callback call)
      fun what => handleError call.invocation "Failed" ("Method execution failed: " ++ what)

/-- The parameters are a tuple with one child for each input argument, of its type. Null
parameters are no children. -/
def WellTyped (parameters : Option Variant) (m : DBusMethod κ) : Prop :=
  ∃ children, parameters.getD (.tuple []) = .tuple children ∧
    children.map (·.type.string) = m.getInputArguments.map (·.signature)

def ValidSignature (isType : String → Bool) (signature : String) : Prop :=
  NulFree signature ∧ isType signature = true

variable {κ : Type} {m : DBusMethod κ} {isType : String → Bool} {call : Call}

theorem checkArgumentTypes_iff
    (hvalid : ∀ arg ∈ m.arguments, ValidSignature isType arg.signature) (v : Variant) :
    m.checkArgumentTypes isType v = true ↔
      ∀ arg ∈ m.getInputArguments, arg.signature = v.type.string := by
  rw [checkArgumentTypes, List.all_eq_true]
  apply forall₂_congr
  intro arg harg
  obtain ⟨hnul, htype⟩ := hvalid arg (List.mem_filter.1 harg).1
  rw [cStr_of_nulFree hnul, htype, Bool.true_and, beq_iff_eq]

theorem wellTyped_string (h : m.WellTyped (some v)) : v.type.string =
    "(" ++ String.join (m.getInputArguments.map (·.signature)) ++ ")" := by
  obtain ⟨children, hv, hchildren⟩ := h
  cases hv
  rw [Variant.type, VariantType.string, VariantType.strings_eq_join, Variant.types_eq_map,
    List.map_map, ← hchildren]
  rfl

/-- The string of a tuple is longer than each of the strings in it. -/
theorem wellTyped_ne (h : m.WellTyped (some v)) (harg : arg ∈ m.getInputArguments) :
    arg.signature ≠ v.type.string := by
  intro heq
  have hle : arg.signature.length ≤
      (String.join (m.getInputArguments.map (·.signature))).length := by
    obtain ⟨before, after, hinputs⟩ := List.append_of_mem harg
    rw [hinputs, List.map_append, List.map_cons, String.join_append, String.join_cons,
      String.length_append, String.length_append]
    omega
  rw [heq, wellTyped_string h, String.length_append, String.length_append] at hle
  have hone : "(".length = 1 := rfl
  omega

theorem wellTyped_nil (h : m.getInputArguments = []) (v : Variant) :
    m.WellTyped (some v) ↔ v = .tuple [] := by
  rw [WellTyped, h]
  constructor
  · rintro ⟨children, rfl, hchildren⟩
    rw [List.map_nil, List.map_eq_nil_iff] at hchildren
    rw [hchildren]
  · rintro rfl
    exact ⟨[], rfl, rfl⟩

theorem wellTyped_none : m.WellTyped none ↔ m.getInputArguments = [] := by
  constructor
  · rintro ⟨children, hv, hchildren⟩
    cases hv
    exact List.map_eq_nil_iff.1 hchildren.symm
  · intro h
    exact (wellTyped_nil h (.tuple [])).2 rfl

theorem invoke_runs (run : κ → Call → Effect Thrown σ Event Unit) (w : σ) :
    .callback call ∈ (m.invoke isType run call w).trace ↔
      m.validateArguments isType call.parameters = true := by
  rw [invoke]
  cases m.validateArguments isType call.parameters with
  | false =>
    cases hi : call.invocation <;> simp [handleError]
  | true =>
    apply iff_of_true (Effect.mem_catching_trace ?_) rfl
    exact List.mem_cons_self

/-- The parameters whose check comes out right. -/
def CheckedRight (parameters : Option Variant) (m : DBusMethod κ) : Prop :=
  ∀ v, parameters = some v →
    m.getInputArguments = [] ∧ v = .tuple [] ∨
      ¬ m.WellTyped parameters ∧ ∃ arg ∈ m.getInputArguments, arg.signature ≠ v.type.string

theorem checkArgumentTypes_right
    (hvalid : ∀ arg ∈ m.arguments, ValidSignature isType arg.signature) (v : Variant) :
    (m.checkArgumentTypes isType v = true ↔ m.WellTyped (some v)) ↔
      m.getInputArguments = [] ∧ v = .tuple [] ∨
        ¬ m.WellTyped (some v) ∧ ∃ arg ∈ m.getInputArguments, arg.signature ≠ v.type.string := by
  rw [checkArgumentTypes_iff hvalid]
  by_cases hnil : m.getInputArguments = []
  · rw [wellTyped_nil hnil, hnil]
    simp
  · by_cases hw : m.WellTyped (some v)
    · obtain ⟨arg, harg⟩ := List.exists_mem_of_ne_nil _ hnil
      apply iff_of_false
      · intro h
        exact wellTyped_ne hw harg (h.2 hw arg harg)
      · rintro (⟨h, _⟩ | ⟨h, _⟩)
        · exact hnil h
        · exact h hw
    · simp only [hw, iff_false, hnil, false_and, false_or, not_false_eq_true, true_and]
      simp only [not_forall, exists_prop]

/-- Each input argument is compared with the whole tuple. A call is checked right where it has no
parameters, where the method takes none and gets none, and where it is ill typed and some input
argument is not of the type of the tuple. -/
theorem validateArguments_iff
    (hvalid : ∀ arg ∈ m.arguments, ValidSignature isType arg.signature) :
    ((m.validateArguments isType call.parameters = true ↔ m.WellTyped call.parameters) ∧
      ∀ (σ : Type) (run : κ → Call → Effect Thrown σ Event Unit) (w : σ),
        .callback call ∈ (m.invoke isType run call w).trace ↔ m.WellTyped call.parameters) ↔
      m.CheckedRight call.parameters := by
  have hruns (h : m.validateArguments isType call.parameters = true ↔
      m.WellTyped call.parameters) (σ : Type) (run : κ → Call → Effect Thrown σ Event Unit)
      (w : σ) : .callback call ∈ (m.invoke isType run call w).trace ↔
        m.WellTyped call.parameters := (invoke_runs run w).trans h
  rw [and_iff_left_of_imp hruns, CheckedRight]
  cases call.parameters with
  | none =>
    apply iff_of_true _ nofun
    rw [validateArguments, List.isEmpty_iff, wellTyped_none]
  | some v =>
    simp only [validateArguments, checkArgumentTypes_right hvalid, Option.some.injEq,
      forall_eq']

/-- A method never gets the arguments that it asks for. -/
theorem wellTyped_rejected (hvalid : ∀ arg ∈ m.arguments, ValidSignature isType arg.signature)
    (hne : m.getInputArguments ≠ []) (h : m.WellTyped (some v)) :
    m.validateArguments isType (some v) = false := by
  obtain ⟨arg, harg⟩ := List.exists_mem_of_ne_nil _ hne
  rw [validateArguments, ← Bool.not_eq_true, checkArgumentTypes_iff hvalid]
  intro hall
  exact wellTyped_ne h harg (hall arg harg)

def sayHello : DBusMethod Unit where
  name := "SayHello"
  arguments := [⟨"s", "text", "in"⟩]
  callback := ()
  named := by decide

def sayHelloCall (v : Variant) : Call where
  sender := ":1.5"
  interface := "org.example.Greeter"
  method := "SayHello"
  parameters := some (.tuple [v])
  invocation := true

theorem sayHello_valid : ∀ arg ∈ sayHello.arguments, ValidSignature (· == "s") arg.signature := by
  intro arg harg
  cases List.mem_singleton.1 harg
  exact ⟨by decide, by decide⟩

/-- A number in place of the text. -/
theorem validateArguments_number :
    let call := sayHelloCall (.basic .byte [7])
    ((sayHello.validateArguments (· == "s") call.parameters = true ↔
        sayHello.WellTyped call.parameters) ∧
      ∀ (σ : Type) (run : Unit → Call → Effect Thrown σ Event Unit) (w : σ),
        .callback call ∈ (sayHello.invoke (· == "s") run call w).trace ↔
          sayHello.WellTyped call.parameters) ↔
      sayHello.CheckedRight call.parameters :=
  validateArguments_iff sayHello_valid

/-- The method takes a text, gets a text, and is not called. -/
theorem text_rejected :
    let call := sayHelloCall (.ofString "hello")
    (∀ arg ∈ sayHello.arguments, ValidSignature (· == "s") arg.signature) ∧
      sayHello.WellTyped call.parameters ∧
      sayHello.validateArguments (· == "s") call.parameters = false ∧
      ∀ (run : Unit → Call → Effect Thrown Unit Event Unit),
        .callback call ∉ (sayHello.invoke (· == "s") run call ()).trace := by
  intro call
  have hne : sayHello.getInputArguments ≠ [] := by decide
  have hw : sayHello.WellTyped call.parameters := by
    refine ⟨[.ofString "hello"], rfl, ?_⟩
    simp [Variant.ofString, Variant.type, VariantType.string, BasicType.code]
    rfl
  have hrejected : sayHello.validateArguments (· == "s") call.parameters = false :=
    wellTyped_rejected sayHello_valid hne hw
  refine ⟨sayHello_valid, hw, hrejected, fun run => ?_⟩
  rw [invoke_runs, hrejected]
  exact Bool.false_ne_true

end DBusMethod
end Ggk
