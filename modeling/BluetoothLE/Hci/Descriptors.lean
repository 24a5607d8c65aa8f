import BluetoothLE.Hci.Lifecycle
import Mathlib.Data.List.Induction
import Mathlib.Data.List.Infix

namespace Ggk
open Lib
set_option autoImplicit true

namespace HciAdapter

inductive Call where
  | ofInitialize
  | ofStop
  deriving DecidableEq, Repr

/-- Two calls of `initialize` with no `stop` between them. -/
def Repeats (calls : List Call) : Prop := [Call.ofInitialize, .ofInitialize] <:+: calls

theorem getLast_of_not_repeats {calls : List Call} (h : ¬ Repeats (calls ++ [.ofInitialize])) :
    calls.getLast? ≠ some .ofInitialize := by
  intro hl
  obtain ⟨earlier, rfl⟩ := List.getLast?_eq_some_iff.1 hl
  exact h ⟨earlier, [], by simp⟩

/-- The threads with the sockets that they share, numbered as they are made. The process holds
those of `opened`, and `working` is what the system call of the event thread was given, where
there is one; a descriptor of -1 is none. `calls` are the calls that have begun. -/
structure Sockets where
  threads : Threads
  fdSocket : Option Nat
  made : Nat
  opened : List Nat
  working : Option (Option Nat)
  calls : List Call
  deriving DecidableEq, Repr

namespace Sockets

def start : Sockets := ⟨.start, none, 0, [], none, []⟩

def disconnect (s : Sockets) : Sockets :=
  match s.fdSocket with
  | none => s
  | some fd => { s with opened := s.opened.erase fd, fdSocket := none }

def socket (s : Sockets) : Sockets :=
  { s with fdSocket := some s.made, made := s.made + 1, opened := s.made :: s.opened }

def beginInitialize (s : Sockets) : Sockets :=
  if s.threads.caller = .free then
    { s.disconnect with threads := s.threads.beginInitialize, calls := s.calls ++ [.ofInitialize] }
  else s

def beginStop (s : Sockets) : Sockets :=
  if s.threads.caller = .free then
    { s with threads := s.threads.beginStop, calls := s.calls ++ [.ofStop] }
  else s

/-- What the next step of a call does to the sockets. A socket that cannot be bound is closed,
and so is the one that is left when the event thread has been joined. -/
def callerSocket (succeeds : Bool) (s : Sockets) : Sockets :=
  match s.threads.caller with
  | .socket => if succeeds then s.socket else { s with fdSocket := none }
  | .bind => if succeeds then s else s.disconnect
  | .join =>
    match s.threads.eventThread with
    | none | some .returned => s.disconnect
    | some _ => s
  | _ => s

/-- `select` and `recv` each read the descriptor when they are called. -/
def eventSocket (outcome : Select) (s : Sockets) : Option (Option Nat) :=
  match s.threads.eventThread with
  | some .waitForDataOrShutdown => if s.threads.socketIsRunning then some s.fdSocket else none
  | some .select => if outcome = .data then some s.fdSocket else none
  | _ => none

def take (s : Sockets) : Turn → Sockets
  | .beginInitialize => s.beginInitialize
  | .beginStop => s.beginStop
  | .caller succeeds => { s.callerSocket succeeds with threads := s.threads.callerStep succeeds }
  | .event outcome =>
    { s with threads := s.threads.eventStep outcome, working := s.eventSocket outcome }

def sockets : Machine Sockets Turn Unit where
  step s turn := ((), if s.threads.terminated then s else s.take turn)

/-- The process lives, holds the socket of its descriptor and no other one, and the event
thread works on that socket. -/
structure Sound (s : Sockets) : Prop where
  alive : s.threads.terminated = false
  opened : s.opened = s.fdSocket.toList
  working : ∀ fd, s.working = some fd → ∃ n, fd = some n ∧ n ∈ s.opened

/-- The descriptor is what the threads go by, and the process holds its socket and no other. -/
structure Accounted (s : Sockets) : Prop where
  opened : s.opened = s.fdSocket.toList
  connected : s.threads.isConnected = s.fdSocket.isSome
  closed : s.threads.caller = .socket → s.fdSocket = none

theorem disconnect_fdSocket (s : Sockets) : s.disconnect.fdSocket = none := by
  rw [disconnect]
  cases hs : s.fdSocket with
  | none => exact hs
  | some fd => rfl

theorem Accounted.disconnect_opened (h : Accounted s) : s.disconnect.opened = [] := by
  rw [disconnect]
  have hopened := h.opened
  cases hs : s.fdSocket with
  | none =>
    rw [hs] at hopened
    exact hopened
  | some fd =>
    rw [hs] at hopened
    simp [hopened]

theorem Accounted.leave (h : Accounted s) {threads : Threads} (calls : List Call)
    (ht : threads.isConnected = false) : Accounted { s.disconnect with threads, calls } := by
  have hfd := s.disconnect_fdSocket
  constructor
  · simp only [h.disconnect_opened, hfd, Option.toList_none]
  · simp only [ht, hfd, Option.isSome_none]
  · exact fun _ => hfd

theorem Accounted.keep (h : Accounted s) {threads : Threads} (working : Option (Option Nat))
    (calls : List Call) (ht : threads.isConnected = s.threads.isConnected)
    (hc : threads.caller = .socket → s.threads.caller = .socket) :
    Accounted { s with threads, working, calls } :=
  ⟨h.opened, ht.trans h.connected, fun hs => h.closed (hc hs)⟩

theorem Accounted.beginInitialize (h : Accounted s) : Accounted s.beginInitialize := by
  rw [Sockets.beginInitialize]
  split_ifs with hc
  · apply h.leave
    rw [Threads.beginInitialize, if_pos hc]
  · exact h

theorem Accounted.beginStop (h : Accounted s) : Accounted s.beginStop := by
  rw [Sockets.beginStop]
  split_ifs with hc
  · rw [Threads.beginStop, if_pos hc]
    exact h.keep _ _ rfl (by simp)
  · exact h

theorem Accounted.callerStep (h : Accounted s) (succeeds : Bool) :
    Accounted { s.callerSocket succeeds with threads := s.threads.callerStep succeeds } := by
  rw [callerSocket, Threads.callerStep]
  cases hc : s.threads.caller with
  | free => exact h
  | socket =>
    have hfd := h.closed hc
    have hopened : s.opened = [] := by rw [h.opened, hfd, Option.toList_none]
    cases succeeds with
    | true => exact ⟨congrArg (s.made :: ·) hopened, rfl, by simp⟩
    | false => exact ⟨hopened, rfl, by simp⟩
  | bind =>
    cases succeeds with
    | true => exact h.keep _ _ rfl (by simp)
    | false => exact h.leave _ rfl
  | setRunning => exact h.keep _ _ rfl (by simp)
  | startThread =>
    cases s.threads.eventThread with
    | none => exact h.keep _ _ rfl (by simp)
    | some place => exact h.keep _ _ rfl (by simp)
  | join =>
    cases s.threads.eventThread with
    | none => exact h.leave _ rfl
    | some place =>
      cases place with
      | returned => exact h.leave _ rfl
      | _ => exact h.keep _ _ rfl fun hs => hs

theorem eventStep_unshared (outcome : Select) (t : Threads) :
    (t.eventStep outcome).isConnected = t.isConnected ∧
      (t.eventStep outcome).caller = t.caller ∧
        (t.eventStep outcome).terminated = t.terminated := by
  rw [Threads.eventStep.eq_def]
  repeat' split
  all_goals exact ⟨rfl, rfl, rfl⟩

theorem next_alive (h : s.threads.terminated = false) (turn : Turn) :
    sockets.next s turn = s.take turn := by
  rw [Machine.next]
  simp [sockets, h]

theorem next_terminated (h : s.threads.terminated = true) (turn : Turn) :
    sockets.next s turn = s := by
  rw [Machine.next]
  simp [sockets, h]

/-- Without the sockets these are the threads of the lifecycle. -/
theorem next_threads (s : Sockets) (turn : Turn) :
    (sockets.next s turn).threads = Threads.threads.next s.threads turn := by
  cases ht : s.threads.terminated with
  | true =>
    rw [next_terminated ht]
    simp [Machine.next, Threads.threads, ht]
  | false =>
    rw [next_alive ht]
    simp only [Machine.next, Threads.threads, ht, Bool.false_eq_true, if_false]
    cases turn with
    | beginInitialize =>
      rw [take, Sockets.beginInitialize, Threads.take, Threads.beginInitialize]
      split_ifs <;> rfl
    | beginStop =>
      rw [take, Sockets.beginStop, Threads.take, Threads.beginStop]
      split_ifs <;> rfl
    | caller succeeds => rfl
    | event outcome => rfl

theorem run_threads (s : Sockets) (turns : List Turn) :
    (sockets.run s turns).threads = Threads.threads.run s.threads turns := by
  induction turns generalizing s with
  | nil => rfl
  | cons turn turns ih => rw [Machine.run_cons, Machine.run_cons, ih, next_threads]

theorem Accounted.next (h : Accounted s) (turn : Turn) : Accounted (sockets.next s turn) := by
  cases ht : s.threads.terminated with
  | true =>
    rw [next_terminated ht]
    exact h
  | false =>
    rw [next_alive ht]
    cases turn with
    | beginInitialize => exact h.beginInitialize
    | beginStop => exact h.beginStop
    | caller succeeds => exact h.callerStep succeeds
    | event outcome =>
      obtain ⟨hconnected, hcaller, _⟩ := eventStep_unshared outcome s.threads
      exact h.keep _ _ hconnected fun hs => hcaller.symm.trans hs

/-- The invariant as long as no call of `initialize` is repeated: a call that connects finds no
thread, and the event thread has a socket that stays open until it is joined. -/
structure Disciplined (s : Sockets) : Prop where
  alive : s.threads.terminated = false
  unassigned : s.threads.caller ≠ .free → s.threads.caller ≠ .join → s.threads.eventThread = none
  begun : s.threads.eventThread ≠ none ∨ s.threads.caller ≠ .free →
    s.threads.caller = .join ∨ s.calls.getLast? = some .ofInitialize
  connected : s.threads.eventThread ≠ none ∨ s.threads.caller = .bind ∨
    s.threads.caller = .setRunning ∨ s.threads.caller = .startThread → s.fdSocket ≠ none
  working : ∀ fd, s.working = some fd → fd = s.fdSocket ∧
    (s.threads.eventThread = some .select ∨ s.threads.eventThread = some .recv)

theorem start_disciplined : Disciplined start where
  alive := rfl
  unassigned _ _ := rfl
  begun := by decide
  connected := by decide
  working := by
    intro fd h
    cases h

theorem Disciplined.idle (h : Disciplined s) (ht : s.threads.eventThread = none) :
    s.working = none := by
  cases hw : s.working with
  | none => rfl
  | some fd =>
    have hplace := (h.working fd hw).2
    rw [ht] at hplace
    cases hplace with
    | inl hselect => cases hselect
    | inr hrecv => cases hrecv

theorem Disciplined.beginInitialize (h : Disciplined s)
    (hr : ¬ Repeats s.beginInitialize.calls) : Disciplined s.beginInitialize := by
  rw [Sockets.beginInitialize] at hr ⊢
  split_ifs at hr ⊢ with hc
  · have hnone : s.threads.eventThread = none := by
      by_contra hne
      rcases h.begun (.inl hne) with hj | hl
      · rw [hc] at hj
        cases hj
      · exact getLast_of_not_repeats hr hl
    have hidle : s.disconnect.working = none := by
      rw [disconnect]
      cases s.fdSocket with
      | none => exact h.idle hnone
      | some fd => exact h.idle hnone
    simp only [Threads.beginInitialize, if_pos hc]
    constructor
    · exact h.alive
    · exact fun _ _ => hnone
    · exact fun _ => .inr (by simp)
    · simp [hnone]
    · simp [hidle]
  · exact h

theorem Disciplined.beginStop (h : Disciplined s) : Disciplined s.beginStop := by
  rw [Sockets.beginStop]
  split_ifs with hc
  · rw [Threads.beginStop, if_pos hc]
    constructor
    · exact h.alive
    · exact fun _ hj => absurd rfl hj
    · exact fun _ => .inl rfl
    · intro hcon
      apply h.connected
      simpa [hc] using hcon
    · exact h.working
  · exact h

theorem Disciplined.starting (h : Disciplined s) (hf : s.threads.caller ≠ .free)
    (hj : s.threads.caller ≠ .join) :
    s.threads.eventThread = none ∧ s.calls.getLast? = some .ofInitialize :=
  ⟨h.unassigned hf hj, (h.begun (.inr hf)).resolve_left hj⟩

theorem disconnect_working (s : Sockets) : s.disconnect.working = s.working := by
  rw [disconnect]
  cases s.fdSocket <;> rfl

/-- Where there is no event thread, nothing works on the descriptor. -/
theorem Disciplined.unthreaded {s' : Sockets} (hw : s'.working = none)
    (hn : s'.threads.eventThread = none) (ha : s'.threads.terminated = false)
    (hb : s'.threads.caller = .free ∨ s'.calls.getLast? = some .ofInitialize)
    (hc : s'.threads.caller = .bind ∨ s'.threads.caller = .setRunning ∨
      s'.threads.caller = .startThread → s'.fdSocket ≠ none) : Disciplined s' where
  alive := ha
  unassigned _ _ := hn
  begun h := hb.elim (fun hf => absurd hf (h.resolve_left fun h => h hn)) .inr
  connected h := hc (h.resolve_left fun h => h hn)
  working fd h := by
    rw [hw] at h
    cases h

theorem Disciplined.callerStep (h : Disciplined s) (succeeds : Bool) :
    Disciplined { s.callerSocket succeeds with threads := s.threads.callerStep succeeds } := by
  rw [callerSocket, Threads.callerStep]
  cases hc : s.threads.caller with
  | free => exact h
  | socket =>
    obtain ⟨hn, hl⟩ := h.starting (by simp [hc]) (by simp [hc])
    cases succeeds with
    | true => exact .unthreaded (h.idle hn) hn h.alive (.inr hl) fun _ => Option.some_ne_none _
    | false => exact .unthreaded (h.idle hn) hn h.alive (.inr hl) (by simp)
  | bind =>
    obtain ⟨hn, hl⟩ := h.starting (by simp [hc]) (by simp [hc])
    cases succeeds with
    | true =>
      exact .unthreaded (h.idle hn) hn h.alive (.inr hl) fun _ => h.connected (.inr (.inl hc))
    | false =>
      have hidle := s.disconnect_working.trans (h.idle hn)
      exact .unthreaded hidle hn h.alive (.inl rfl) (by simp)
  | setRunning =>
    obtain ⟨hn, hl⟩ := h.starting (by simp [hc]) (by simp [hc])
    have hfd := h.connected (.inr (.inr (.inl hc)))
    exact .unthreaded (h.idle hn) hn h.alive (.inr hl) fun _ => hfd
  | startThread =>
    obtain ⟨hn, hl⟩ := h.starting (by simp [hc]) (by simp [hc])
    rw [hn]
    constructor
    · exact h.alive
    · exact fun hf => absurd rfl hf
    · exact fun _ => .inr hl
    · exact fun _ => h.connected (.inr (.inr (.inr hc)))
    · intro fd hw
      rw [h.idle hn] at hw
      cases hw
  | join =>
    cases ht : s.threads.eventThread with
    | none =>
      have hidle := s.disconnect_working.trans (h.idle ht)
      exact .unthreaded hidle rfl h.alive (.inl rfl) (by simp)
    | some place =>
      cases place with
      | returned =>
        have hw : s.working = none := by
          cases hw : s.working with
          | none => rfl
          | some fd =>
            have hplace := (h.working fd hw).2
            simp [ht] at hplace
        exact .unthreaded (s.disconnect_working.trans hw) rfl h.alive (.inl rfl) (by simp)
      | _ => exact h

/-- A system call of the event thread begins with the descriptor, and is over when the thread
goes on. -/
theorem eventSocket_eq {s : Sockets} {outcome : Select} (h : s.eventSocket outcome = some fd) :
    fd = s.fdSocket ∧ ((s.threads.eventStep outcome).eventThread = some .select ∨
      (s.threads.eventStep outcome).eventThread = some .recv) := by
  rw [eventSocket] at h
  rw [Threads.eventStep.eq_def]
  split at h
  · next ht =>
    split_ifs at h with hr
    obtain rfl := Option.some.inj h
    simp [ht, hr]
  · next ht =>
    split_ifs at h with hd
    obtain rfl := Option.some.inj h
    simp [ht, hd]
  · cases h

theorem eventStep_none (outcome : Select) (t : Threads) :
    (t.eventStep outcome).eventThread = none ↔ t.eventThread = none := by
  rw [Threads.eventStep.eq_def]
  cases ht : t.eventThread with
  | none => simp [ht]
  | some place =>
    cases place with
    | processEvents =>
      dsimp only
      split_ifs <;> simp
    | waitForDataOrShutdown =>
      dsimp only
      split_ifs <;> simp
    | select => cases outcome <;> simp
    | recv => simp
    | returned => simp [ht]

theorem Disciplined.eventStep (h : Disciplined s) (outcome : Select) :
    Disciplined { s with
      threads := s.threads.eventStep outcome, working := s.eventSocket outcome } := by
  obtain ⟨_, hcaller, halive⟩ := eventStep_unshared outcome s.threads
  have hnone := eventStep_none outcome s.threads
  constructor
  · exact halive.trans h.alive
  · intro hf hj
    exact hnone.2 (h.unassigned (hcaller ▸ hf) (hcaller ▸ hj))
  · intro hne
    simp only [hcaller, ne_eq, hnone] at hne ⊢
    exact h.begun hne
  · simp only [hcaller, ne_eq, hnone]
    exact h.connected
  · exact fun fd hw => eventSocket_eq hw

theorem calls_next (s : Sockets) (turn : Turn) : s.calls <+: (sockets.next s turn).calls := by
  have hdisconnect : s.disconnect.calls = s.calls := by
    rw [disconnect]
    cases s.fdSocket <;> rfl
  cases ht : s.threads.terminated with
  | true =>
    rw [next_terminated ht]
  | false =>
    rw [next_alive ht]
    cases turn with
    | beginInitialize =>
      rw [take, Sockets.beginInitialize]
      split_ifs
      · exact List.prefix_append _ _
      · exact List.prefix_rfl
    | beginStop =>
      rw [take, Sockets.beginStop]
      split_ifs
      · exact List.prefix_append _ _
      · exact List.prefix_rfl
    | caller succeeds =>
      have hcalls : (s.callerSocket succeeds).calls = s.calls := by
        rw [callerSocket]
        cases s.threads.caller with
        | socket => cases succeeds <;> rfl
        | bind =>
          cases succeeds with
          | true => rfl
          | false => exact hdisconnect
        | join =>
          cases s.threads.eventThread with
          | none => exact hdisconnect
          | some place =>
            cases place with
            | returned => exact hdisconnect
            | _ => rfl
        | _ => rfl
      exact hcalls ▸ List.prefix_rfl
    | event outcome => exact List.prefix_rfl

theorem Disciplined.next (h : Disciplined s) (hr : ¬ Repeats (sockets.next s turn).calls) :
    Disciplined (sockets.next s turn) := by
  rw [next_alive h.alive] at hr ⊢
  cases turn with
  | beginInitialize => exact h.beginInitialize hr
  | beginStop => exact h.beginStop
  | caller succeeds => exact h.callerStep succeeds
  | event outcome => exact h.eventStep outcome

theorem Disciplined.sound (h : Disciplined s) (ha : Accounted s) : Sound s where
  alive := h.alive
  opened := ha.opened
  working := by
    intro fd hw
    obtain ⟨rfl, hplace⟩ := h.working fd hw
    have hne : s.threads.eventThread ≠ none := by
      rcases hplace with ht | ht <;> simp [ht]
    obtain ⟨n, hn⟩ := Option.ne_none_iff_exists'.1 (h.connected (.inl hne))
    exact ⟨n, hn, by simp [ha.opened, hn]⟩

/-- In every run, whatever the calls, no descriptor is lost and none is closed twice. -/
theorem run_accounted (turns : List Turn) : Accounted (sockets.run start turns) :=
  Machine.run_invariant ⟨rfl, rfl, fun h => by cases h⟩ (fun _ turn h _ => h.next turn)
    (Machine.every_of_forall (P := fun _ _ => True) fun _ _ _ => trivial)

theorem run_disciplined (turns : List Turn) (hr : ¬ Repeats (sockets.run start turns).calls) :
    Disciplined (sockets.run start turns) := by
  have hstart : Repeats start.calls ∨ Disciplined start := .inr start_disciplined
  have hstep (s : Sockets) (turn : Turn) (hs : Repeats s.calls ∨ Disciplined s) (_ : True) :
      Repeats (sockets.next s turn).calls ∨ Disciplined (sockets.next s turn) := by
    by_cases hn : Repeats (sockets.next s turn).calls
    · exact .inl hn
    · have hprior := fun h => hn (List.IsInfix.trans h (calls_next s turn).isInfix)
      exact .inr ((hs.resolve_left hprior).next hn)
  have hall : sockets.Every (fun _ _ => True) start turns :=
    Machine.every_of_forall fun _ _ _ => trivial
  have hrun := Machine.run_invariant (I := fun s => Repeats s.calls ∨ Disciplined s) hstart hstep
    hall
  exact hrun.resolve_left hr

/-- Between two calls with nothing left of the first. -/
structure Settled (calls : List Call) (s : Sockets) : Prop where
  alive : s.threads.terminated = false
  running : s.threads.socketIsRunning = true
  caller : s.threads.caller = .free
  eventThread : s.threads.eventThread = none
  fdSocket : s.fdSocket = none
  calls : s.calls = calls

/-- A call that cannot connect leaves nothing. -/
theorem Settled.call {calls : List Call} (h : Settled calls s) (c : Call) :
    ∃ turns, Settled (calls ++ [c]) (sockets.run s turns) := by
  obtain ⟨⟨isRunning, socketIsRunning, isConnected, eventThread, caller, terminated, waits⟩,
    fdSocket, made, opened, working, calls⟩ := s
  obtain ⟨rfl, rfl, rfl, rfl, rfl, rfl⟩ := h
  cases c with
  | ofInitialize => exact ⟨[.beginInitialize, .caller false], rfl, rfl, rfl, rfl, rfl, rfl⟩
  | ofStop => exact ⟨[.beginStop, .caller true], rfl, rfl, rfl, rfl, rfl, rfl⟩

theorem settled_reachable (calls : List Call) :
    ∃ turns, Settled calls (sockets.run start turns) := by
  induction calls using List.reverseRecOn with
  | nil => exact ⟨[], rfl, rfl, rfl, rfl, rfl, rfl⟩
  | append_singleton calls c ih =>
    obtain ⟨turns, h⟩ := ih
    obtain ⟨turns', h'⟩ := h.call c
    rw [← Machine.run_append] at h'
    exact ⟨turns ++ turns', h'⟩

/-- The second call closes the descriptor that the event thread waits on. -/
theorem Settled.repeated {calls : List Call} (h : Settled calls s) :
    ∃ turns, (sockets.run s turns).calls = calls ++ [.ofInitialize, .ofInitialize] ∧
      ¬ Sound (sockets.run s turns) := by
  obtain ⟨⟨isRunning, socketIsRunning, isConnected, eventThread, caller, terminated, waits⟩,
    fdSocket, made, opened, working, calls⟩ := s
  obtain ⟨rfl, rfl, rfl, rfl, rfl, rfl⟩ := h
  have hconnect : sockets.run ⟨⟨isRunning, true, isConnected, none, .free, false, waits⟩, none,
      made, opened, working, calls⟩ [.beginInitialize, .caller true, .caller true] =
      ⟨⟨isRunning, true, true, none, .setRunning, false, waits⟩, some made, made + 1,
        made :: opened, working, calls ++ [.ofInitialize]⟩ := rfl
  have hthread : sockets.run ⟨⟨isRunning, true, true, none, .setRunning, false, waits⟩, some made,
      made + 1, made :: opened, working, calls ++ [.ofInitialize]⟩ [.caller true, .caller true] =
      ⟨⟨true, true, true, some .processEvents, .free, false, waits⟩, some made, made + 1,
        made :: opened, working, calls ++ [.ofInitialize]⟩ := rfl
  have hselect : sockets.run ⟨⟨true, true, true, some .processEvents, .free, false, waits⟩,
      some made, made + 1, made :: opened, working, calls ++ [.ofInitialize]⟩
        [.event .timeout, .event .timeout] =
      ⟨⟨true, true, true, some .select, .free, false, waits + 1⟩, some made, made + 1,
        made :: opened, some (some made), calls ++ [.ofInitialize]⟩ := rfl
  apply Exists.intro ([.beginInitialize, .caller true, .caller true] ++
    [.caller true, .caller true] ++ [.event .timeout, .event .timeout] ++ [.beginInitialize])
  rw [Machine.run_append, Machine.run_append, Machine.run_append, hconnect, hthread, hselect]
  apply And.intro
  · exact List.append_assoc _ _ _
  · intro hsound
    obtain ⟨n, _, hmem⟩ := hsound.working (some made) rfl
    rw [hsound.opened] at hmem
    exact List.not_mem_nil hmem

/-- Whatever the two threads do and whichever connections succeed, calls of `initialize` and
`stop` end no process and close no socket that the event thread works on, exactly if there is a
`stop` between any two of `initialize`. -/
theorem calls_sound_iff (calls : List Call) :
    (∀ turns, (sockets.run start turns).calls <+: calls → Sound (sockets.run start turns)) ↔
      ¬ Repeats calls := by
  apply Iff.intro
  · intro hsound hr
    obtain ⟨earlier, later, rfl⟩ := hr
    obtain ⟨turns, hsettled⟩ := settled_reachable earlier
    obtain ⟨turns', hcalls, hunsound⟩ := hsettled.repeated
    rw [← Machine.run_append] at hcalls hunsound
    exact hunsound (hsound _ (hcalls ▸ List.prefix_append _ _))
  · intro hr turns hcalls
    have hrun : ¬ Repeats (sockets.run start turns).calls :=
      fun h => hr (List.IsInfix.trans h hcalls.isInfix)
    exact (run_disciplined turns hrun).sound (run_accounted turns)

end Sockets
end HciAdapter
end Ggk
