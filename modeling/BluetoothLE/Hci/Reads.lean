import BluetoothLE.Hci.Lifecycle

namespace Ggk
open HciAdapter (Select)
set_option autoImplicit true

namespace HciSocket

def kResponseMaxSize : Nat := 64 * 1024

/-- One turn of the wait loop: the running flag as it finds it, and what `select` would return. -/
structure Round where
  isRunning : Bool
  select : Select
  deriving DecidableEq, Repr

/-- What `recv` returns. It has room for `kResponseMaxSize` bytes, and no bytes mean that the peer
has closed the socket. -/
inductive Recv where
  | error
  | received (bytes : List UInt8) (fits : bytes.length ≤ kResponseMaxSize)

/-- There is no result as long as the loop goes on. -/
def waitForDataOrShutdown : List Round → Option Bool
  | [] => none
  | round :: rounds =>
    if !round.isRunning then some false
    else
      match round.select with
      | .data => some true
      | .error => some false
      | .timeout => waitForDataOrShutdown rounds

/-- `std::vector::resize`, which fills up with zeros. -/
def resize (response : List UInt8) (n : Nat) : List UInt8 :=
  response.take n ++ List.replicate (n - response.length) 0

/-- What is returned, and the response then, which `recv` writes over from the front. -/
def read (response : List UInt8) (rounds : List Round) (recv : Recv) :
    Option (Bool × List UInt8) :=
  let response := resize response kResponseMaxSize
  match waitForDataOrShutdown rounds with
  | none => none
  | some false => some (false, response)
  | some true =>
    match recv with
    | .error => some (false, resize response 0)
    | .received bytes _ =>
      let response := bytes ++ response.drop bytes.length
      if bytes.length = 0 then some (false, resize response 0)
      else some (true, resize response bytes.length)

def Round.Idle (round : Round) : Prop := round.isRunning = true ∧ round.select = .timeout

def Round.Ready (round : Round) : Prop := round.isRunning = true ∧ round.select = .data

/-- The socket is stopped, or `select` fails. -/
def Round.Broken (round : Round) : Prop := round.isRunning = false ∨ round.select = .error

/-- The wait comes to a round of this kind, with nothing before it. -/
def Reaches (P : Round → Prop) (rounds : List Round) : Prop :=
  ∃ idle round later, rounds = idle ++ round :: later ∧ (∀ r ∈ idle, r.Idle) ∧ P round

/-- After a wait for data `recv` hands over these bytes, of which there is at least one. -/
def Delivers (rounds : List Round) (recv : Recv) (bytes : List UInt8) : Prop :=
  Reaches Round.Ready rounds ∧ bytes ≠ [] ∧ ∃ fits, recv = .received bytes fits

theorem reaches_cons (P : Round → Prop) (round : Round) (rounds : List Round) :
    Reaches P (round :: rounds) ↔ P round ∨ round.Idle ∧ Reaches P rounds := by
  apply Iff.intro
  · rintro ⟨idle, round', later, heq, hidle, hround'⟩
    cases idle with
    | nil =>
      cases heq
      exact .inl hround'
    | cons r idle =>
      cases heq
      obtain ⟨hr, hidle⟩ := List.forall_mem_cons.1 hidle
      exact .inr ⟨hr, idle, round', later, rfl, hidle, hround'⟩
  · rintro (h | ⟨hround, idle, round', later, rfl, hidle, hround'⟩)
    · exact ⟨[], round, rounds, rfl, List.forall_mem_nil _, h⟩
    · exact ⟨round :: idle, round', later, rfl, List.forall_mem_cons.2 ⟨hround, hidle⟩, hround'⟩

theorem not_reaches_nil (P : Round → Prop) : ¬ Reaches P [] := by
  rintro ⟨idle, round, later, heq, _⟩
  simp at heq

theorem waitForDataOrShutdown_iff (rounds : List Round) (data : Bool) :
    waitForDataOrShutdown rounds = some data ↔
      Reaches (if data then Round.Ready else Round.Broken) rounds := by
  induction rounds with
  | nil => exact iff_of_false nofun (not_reaches_nil _)
  | cons round rounds ih =>
    rw [reaches_cons, ← ih, waitForDataOrShutdown]
    obtain ⟨isRunning, select⟩ := round
    cases isRunning <;> cases select <;> cases data <;>
      simp [Round.Ready, Round.Broken, Round.Idle]

theorem length_resize (response : List UInt8) (n : Nat) : (resize response n).length = n := by
  rw [resize, List.length_append, List.length_take, List.length_replicate]
  omega

@[simp] theorem resize_zero (response : List UInt8) : resize response 0 = [] := by
  rw [resize, List.take_zero, Nat.zero_sub]
  rfl

theorem resize_append (bytes rest : List UInt8) : resize (bytes ++ rest) bytes.length = bytes := by
  rw [resize, List.take_left, List.length_append, Nat.sub_eq_zero_of_le (Nat.le_add_right _ _),
    List.replicate_zero, List.append_nil]

theorem read_waiting (prior : List UInt8) (recv : Recv)
    (h : waitForDataOrShutdown rounds = none) : read prior rounds recv = none := by
  simp only [read, h]

/-- The zeros are left in the response when the wait ends without data. -/
theorem read_broken (prior : List UInt8) (recv : Recv)
    (h : waitForDataOrShutdown rounds = some false) :
    read prior rounds recv = some (false, resize prior kResponseMaxSize) := by
  simp only [read, h]

theorem read_ready (prior : List UInt8) (recv : Recv)
    (h : waitForDataOrShutdown rounds = some true) : read prior rounds recv =
      match recv with
      | .error => some (false, [])
      | .received bytes _ => some (!bytes.isEmpty, bytes) := by
  simp only [read, h, resize_append, resize_zero]
  cases recv with
  | error => rfl
  | received bytes fits => cases bytes <;> rfl

/-- The caller gets what was delivered and nothing else, and no bytes without success. -/
structure ReadsRight (prior : List UInt8) (rounds : List Round) (recv : Recv) : Prop where
  delivered : ∀ bytes, Delivers rounds recv bytes → read prior rounds recv = some (true, bytes)
  returned : ∀ response, read prior rounds recv = some (true, response) →
    Delivers rounds recv response
  wiped : ∀ response, read prior rounds recv = some (false, response) → response = []

variable {prior : List UInt8} {rounds : List Round} {recv : Recv}

theorem delivers_ready (h : Delivers rounds recv bytes) :
    waitForDataOrShutdown rounds = some true := (waitForDataOrShutdown_iff rounds true).2 h.1

theorem ready_readsRight (h : waitForDataOrShutdown rounds = some true) :
    ReadsRight prior rounds recv where
  delivered bytes hbytes := by
    obtain ⟨_, hne, fits, rfl⟩ := hbytes
    rw [read_ready prior _ h]
    simp [hne]
  returned response hread := by
    rw [read_ready prior recv h] at hread
    cases recv with
    | error => cases hread
    | received bytes fits =>
      simp only [Option.some.injEq, Prod.mk.injEq, Bool.not_eq_true', List.isEmpty_eq_false_iff]
        at hread
      obtain ⟨hne, rfl⟩ := hread
      exact ⟨(waitForDataOrShutdown_iff rounds true).1 h, hne, fits, rfl⟩
  wiped response hread := by
    rw [read_ready prior recv h] at hread
    cases recv with
    | error =>
      cases hread
      rfl
    | received bytes fits =>
      simp only [Option.some.injEq, Prod.mk.injEq, Bool.not_eq_false', List.isEmpty_iff] at hread
      obtain ⟨hnil, rfl⟩ := hread
      exact hnil

theorem waiting_readsRight (h : waitForDataOrShutdown rounds = none) :
    ReadsRight prior rounds recv where
  delivered bytes hbytes := by
    rw [delivers_ready hbytes] at h
    cases h
  returned response hread := by
    rw [read_waiting prior recv h] at hread
    cases hread
  wiped response hread := by
    rw [read_waiting prior recv h] at hread
    cases hread

/-- A read goes right unless the wait ends without data. -/
theorem readsRight_iff (prior : List UInt8) (rounds : List Round) (recv : Recv) :
    ReadsRight prior rounds recv ↔ ¬ Reaches Round.Broken rounds := by
  have hbroken := waitForDataOrShutdown_iff rounds false
  rw [if_neg Bool.false_ne_true] at hbroken
  rw [← hbroken]
  cases hwait : waitForDataOrShutdown rounds with
  | none => exact iff_of_true (waiting_readsRight hwait) nofun
  | some data =>
    cases data with
    | true => exact iff_of_true (ready_readsRight hwait) nofun
    | false =>
      apply iff_of_false _ (fun h => h rfl)
      intro h
      have hlength := length_resize prior kResponseMaxSize
      rw [h.wiped _ (read_broken prior recv hwait)] at hlength
      cases hlength

/-- A socket that is stopped while a read waits returns 64 KiB of zeros. -/
theorem stopped_not_wiped :
    ∃ response, read [] [⟨true, .timeout⟩, ⟨false, .timeout⟩] .error = some (false, response) ∧
      response.length = 64 * 1024 ∧
      ¬ ReadsRight [] [⟨true, .timeout⟩, ⟨false, .timeout⟩] .error := by
  have hread : read [] [⟨true, .timeout⟩, ⟨false, .timeout⟩] .error =
      some (false, resize [] kResponseMaxSize) := read_broken [] .error rfl
  have hlength := length_resize [] kResponseMaxSize
  refine ⟨_, hread, hlength, fun h => ?_⟩
  rw [h.wiped _ hread] at hlength
  cases hlength

end HciSocket
end Ggk
