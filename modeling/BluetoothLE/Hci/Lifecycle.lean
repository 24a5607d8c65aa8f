import BluetoothLE.Lib.Machine

namespace Ggk
open Lib
set_option autoImplicit true

namespace HciAdapter

/-- What `select` returns from a wait. -/
inductive Select where
  | data
  | timeout
  | error
  deriving DecidableEq, Repr

/-- Where the event thread is: before the test of one of the two loops, in `select`, in `recv`,
or out of `processEvents`. -/
inductive EventThread where
  | processEvents
  | waitForDataOrShutdown
  | select
  | recv
  | returned
  deriving DecidableEq, Repr

/-- Where the thread is that calls `initialize` and `stop`, one call after the other. -/
inductive Caller where
  | free
  | socket
  | bind
  | setRunning
  | startThread
  | join
  deriving DecidableEq, Repr

/-- The two running flags, the descriptor, the thread object, which holds no thread or one that is
joinable, and whether the process was terminated. `waits` counts the waits that the event thread
has begun since `stop` cleared the flag of the adapter. -/
structure Threads where
  isRunning : Bool
  socketIsRunning : Bool
  isConnected : Bool
  eventThread : Option EventThread
  caller : Caller
  terminated : Bool
  waits : Nat
  deriving DecidableEq, Repr

inductive Turn where
  | beginInitialize
  | beginStop
  | caller (succeeds : Bool)
  | event (outcome : Select)
  deriving DecidableEq, Repr

namespace Threads

def start : Threads := ⟨false, true, false, none, .free, false, 0⟩

/-- A call begins. The one closes the descriptor first, the other clears the flag. -/
def beginInitialize (s : Threads) : Threads :=
  if s.caller = .free then { s with isConnected := false, caller := .socket } else s

def beginStop (s : Threads) : Threads :=
  if s.caller = .free then { s with isRunning := false, caller := .join, waits := 0 } else s

/-- The next step of a call. A new thread over one that is joinable ends the process, and a
join waits until the event thread has returned. -/
def callerStep (succeeds : Bool) (s : Threads) : Threads :=
  match s.caller with
  | .free => s
  | .socket =>
    if succeeds then { s with isConnected := true, caller := .bind }
    else { s with isConnected := false, caller := .free }
  | .bind =>
    if succeeds then { s with caller := .setRunning }
    else { s with isConnected := false, caller := .free }
  | .setRunning => { s with isRunning := true, caller := .startThread }
  | .startThread =>
    match s.eventThread with
    | none => { s with eventThread := some .processEvents, caller := .free }
    | some _ => { s with terminated := true }
  | .join =>
    match s.eventThread with
    | none | some .returned =>
      { s with eventThread := none, isConnected := false, caller := .free }
    | some _ => s

def eventStep (outcome : Select) (s : Threads) : Threads :=
  match s.eventThread with
  | none => s
  | some .processEvents =>
    if s.isRunning && s.isConnected then
      { s with eventThread := some .waitForDataOrShutdown }
    else { s with eventThread := some .returned }
  | some .waitForDataOrShutdown =>
    if s.socketIsRunning then { s with eventThread := some .select, waits := s.waits + 1 }
    else { s with eventThread := some .processEvents }
  | some .select =>
    match outcome with
    | .data => { s with eventThread := some .recv }
    | .timeout => { s with eventThread := some .waitForDataOrShutdown }
    | .error => { s with eventThread := some .processEvents }
  | some .recv => { s with eventThread := some .processEvents }
  | some .returned => s

def take (s : Threads) : Turn → Threads
  | .beginInitialize => s.beginInitialize
  | .beginStop => s.beginStop
  | .caller succeeds => s.callerStep succeeds
  | .event outcome => s.eventStep outcome

def threads : Machine Threads Turn Unit where
  step s turn := ((), if s.terminated then s else s.take turn)

/-- The event thread begins at most one more wait for a `stop` that joins it, and no thread was
assigned over a joinable one. -/
def Safe (s : Threads) : Prop := s.terminated = false ∧ (s.caller = .join → s.waits ≤ 1)

/-- No wait that began after the flag was cleared times out, and no connection for a new thread
succeeds while the old one is joinable. -/
def Orderly (s : Threads) : Turn → Prop
  | .event .timeout => s.caller = .join → s.eventThread = some .select → s.waits = 0
  | .caller true => s.caller = .bind → s.eventThread = none
  | _ => True

/-- How many waits the event thread can have begun for a join, by where it is. -/
def JoinBound (s : Threads) : Prop :=
  s.isRunning = false ∧ s.waits ≤ 1 ∧
    (s.eventThread = some .waitForDataOrShutdown → s.waits = 0)

structure Stopping (s : Threads) : Prop where
  alive : s.terminated = false
  unassigned : s.caller = .setRunning ∨ s.caller = .startThread → s.eventThread = none
  joining : s.caller = .join → s.JoinBound

theorem start_stopping : Stopping start where
  alive := rfl
  unassigned := by decide
  joining := fun h => absurd h (by decide)

theorem Stopping.safe (h : Stopping s) : s.Safe := ⟨h.alive, fun hj => (h.joining hj).2.1⟩

theorem Stopping.beginInitialize (h : Stopping s) : Stopping s.beginInitialize := by
  rw [Threads.beginInitialize]
  split_ifs
  · exact ⟨h.alive, by simp, by simp⟩
  · exact h

theorem Stopping.beginStop (h : Stopping s) : Stopping s.beginStop := by
  rw [Threads.beginStop]
  split_ifs
  · exact ⟨h.alive, by simp, fun _ => ⟨rfl, Nat.zero_le 1, fun _ => rfl⟩⟩
  · exact h

theorem Stopping.callerStep {succeeds : Bool} (h : Stopping s)
    (ho : s.Orderly (.caller succeeds)) : Stopping (s.callerStep succeeds) := by
  rw [Threads.callerStep]
  cases hc : s.caller with
  | free => exact h
  | socket =>
    cases succeeds with
    | true => exact ⟨h.alive, by simp, by simp⟩
    | false => exact ⟨h.alive, by simp, by simp⟩
  | bind =>
    cases succeeds with
    | true => exact ⟨h.alive, fun _ => ho hc, by simp⟩
    | false => exact ⟨h.alive, by simp, by simp⟩
  | setRunning => exact ⟨h.alive, fun _ => h.unassigned (.inl hc), by simp⟩
  | startThread =>
    rw [h.unassigned (.inr hc)]
    exact ⟨h.alive, by simp, by simp⟩
  | join =>
    dsimp only
    split
    · exact ⟨h.alive, by simp, by simp⟩
    · exact ⟨h.alive, by simp, by simp⟩
    · exact h

/-- Where no thread is being joined or assigned, the event thread may do as it likes. -/
theorem Stopping.move {s : Threads} (h : Stopping s) (he : s.eventThread ≠ none)
    (hjoin : s.caller = .join → JoinBound { s with eventThread := some at', waits := n }) :
    Stopping { s with eventThread := some at', waits := n } :=
  ⟨h.alive, fun hc => absurd (h.unassigned hc) he, hjoin⟩

theorem Stopping.eventStep {outcome : Select} (h : Stopping s)
    (ho : s.Orderly (.event outcome)) : Stopping (s.eventStep outcome) := by
  rw [Threads.eventStep.eq_def]
  cases he : s.eventThread with
  | none => exact h
  | some place =>
    have hne : s.eventThread ≠ none := by simp [he]
    cases place with
    | processEvents =>
      dsimp only
      split_ifs with hr
      · apply h.move hne
        intro hj
        rw [(h.joining hj).1] at hr
        cases hr
      · exact h.move hne fun hj => ⟨(h.joining hj).1, (h.joining hj).2.1, by simp⟩
    | waitForDataOrShutdown =>
      dsimp only
      split_ifs
      · apply h.move hne
        intro hj
        obtain ⟨hr, _, hw⟩ := h.joining hj
        exact ⟨hr, by simp [hw he], by simp⟩
      · exact h.move hne fun hj => ⟨(h.joining hj).1, (h.joining hj).2.1, by simp⟩
    | select =>
      cases outcome with
      | data => exact h.move hne fun hj => ⟨(h.joining hj).1, (h.joining hj).2.1, by simp⟩
      | timeout =>
        exact h.move hne fun hj => ⟨(h.joining hj).1, (h.joining hj).2.1, fun _ => ho hj he⟩
      | error => exact h.move hne fun hj => ⟨(h.joining hj).1, (h.joining hj).2.1, by simp⟩
    | recv => exact h.move hne fun hj => ⟨(h.joining hj).1, (h.joining hj).2.1, by simp⟩
    | returned => exact h

theorem Stopping.next {turn : Turn} (h : Stopping s) (ho : s.Orderly turn) :
    Stopping (threads.next s turn) := by
  have hnext : threads.next s turn = s.take turn := by
    rw [Machine.next]
    simp [threads, h.alive]
  rw [hnext]
  cases turn with
  | beginInitialize => exact h.beginInitialize
  | beginStop => exact h.beginStop
  | caller succeeds => exact h.callerStep ho
  | event outcome => exact h.eventStep ho

/-- In every run in which no wait for a join times out and no connection succeeds over a joinable
thread, `stop` joins a thread that is about to return. -/
theorem run_safe (turns : List Turn) (h : threads.Every Orderly start turns) :
    (threads.run start turns).Safe :=
  (Machine.run_invariant start_stopping (fun _ _ hs ho => hs.next ho) h).safe

def initialized : List Turn :=
  [.beginInitialize, .caller true, .caller true, .caller true, .caller true]

/-- The event thread gets data in the wait that it begins after the flag was cleared. -/
theorem run_safe_data : (threads.run start (initialized ++ [.event .timeout, .beginStop,
    .event .timeout, .event .data, .event .error, .event .timeout, .caller true])).Safe := by
  apply run_safe
  simp [initialized, Machine.Every, Orderly, Machine.next, threads, start, take,
    Threads.beginInitialize, Threads.beginStop, Threads.callerStep, Threads.eventStep]

/-- One wait begins after the flag was cleared and times out, and another one begins. The second
run assigns a thread over a joinable one. -/
theorem timed_out_not_safe :
    ¬ (threads.run start (initialized ++ [.event .timeout, .beginStop, .event .timeout,
      .event .timeout, .event .timeout])).Safe ∧
    ¬ (threads.run start (initialized ++ initialized)).Safe := by
  simp only [Safe]
  decide

/-- Only the socket's own flag ends the inner loop, and `stop` does not clear it. As long as the
waits time out, they go on. -/
theorem timeouts_keep_waiting (n : Nat) {s : Threads} (ha : s.terminated = false)
    (hs : s.socketIsRunning = true) (hc : s.caller = .join)
    (he : s.eventThread = some .waitForDataOrShutdown) :
    threads.run s (List.replicate n [.event .timeout, .event .timeout]).flatten =
      { s with waits := s.waits + n } := by
  induction n generalizing s with
  | zero => rfl
  | succ n ih =>
    have hround : threads.run s [.event .timeout, .event .timeout] =
        { s with waits := s.waits + 1 } := by
      cases s
      cases ha
      cases hs
      cases hc
      cases he
      rfl
    have hrest := ih (s := { s with waits := s.waits + 1 }) ha hs hc he
    rw [List.replicate_succ, List.flatten_cons, Machine.run_append, hround, hrest, Nat.add_assoc,
      Nat.add_comm 1 n]

end Threads
end HciAdapter
end Ggk
