import BluetoothLE.Hci.Events

namespace Ggk
open Lib
open ByteOrder (low high)
set_option autoImplicit true

namespace HciAdapter

/-- An event as the raw channel of a socket delivers it. -/
structure EventPacket where
  code : UInt8
  parameters : List UInt8
  fits : parameters.length < 256

namespace EventPacket

def bytes (p : EventPacket) : List UInt8 :=
  0x04 :: p.code :: UInt8.ofNat p.parameters.length :: p.parameters

end EventPacket

/-- A call of a handler of the event loop. -/
inductive HandlerCall where
  | commandComplete (data : List UInt8) (length : UInt8)
  | commandStatus (data : List UInt8) (length : UInt8)
  deriving DecidableEq, Repr

namespace HandlerCall

def perform : HandlerCall → Option (List String)
  | commandComplete data length => handleCommandComplete data length
  | commandStatus data length => handleCommandStatus data length

/-- Both handlers take the opcode from the second and the third byte. -/
def opcode : HandlerCall → Option UInt16
  | commandComplete data length | commandStatus data length =>
    if length < 3 then none else do return eventOpcode (← data[1]?) (← data[2]?)

end HandlerCall

/-- The `switch` of the event loop: which handler it calls for a response, and with what. -/
def handlerCall (response : List UInt8) : Option HandlerCall :=
  match response with
  | eventCode :: parameterLength :: first :: rest =>
    if eventCode = 0x0E then some (.commandComplete (first :: rest) parameterLength)
    else if eventCode = 0x0F then some (.commandStatus (first :: rest) parameterLength)
    else none
  | _ => none

def handlerCalls (reads : List (Option (List UInt8))) : List HandlerCall :=
  reads.filterMap fun response => response.bind handlerCall

/-- What the event loop does with a response is what its handler does, if it calls one. -/
theorem processEvent_eq (response : List UInt8) : processEvent response =
    match handlerCall response with
    | some call => call.perform
    | none => some [if response.length < 3 then "Received invalid HCI event (too short)"
        else "Received unhandled HCI event: " ++ Utils.hexUInt8 (response.headD 0)] := by
  rcases response with _ | ⟨eventCode, _ | ⟨parameterLength, _ | ⟨first, rest⟩⟩⟩
  · rfl
  · rfl
  · rfl
  · have hlen : ¬ (eventCode :: parameterLength :: first :: rest).length < 3 := by simp
    rw [processEvent, if_neg hlen]
    by_cases hc : eventCode = 0x0E
    · simp [handlerCall, hc, HandlerCall.perform]
    · by_cases hs : eventCode = 0x0F
      · simp [handlerCall, hs, HandlerCall.perform]
      · simp [handlerCall, hc, hs]

theorem eventOpcode_bytes (x : UInt16) : eventOpcode (low x) (high x) = x := by
  apply UInt16.toNat_inj.1
  have hx : x.toNat < 2 ^ 16 := x.toNat_lt
  have hlow : x.toNat % 2 ^ 8 < 2 ^ 8 := Nat.mod_lt _ (by decide)
  have hhigh : x.toNat >>> 8 % 2 ^ 8 = x.toNat / 2 ^ 8 := by
    rw [Nat.shiftRight_eq_div_pow]
    omega
  have hshift : (x.toNat / 2 ^ 8) <<< 8 < 2 ^ 16 := by
    rw [Nat.shiftLeft_eq]
    omega
  have height : UInt16.toNat 8 % 16 = 8 := rfl
  simp only [eventOpcode, low, high, UInt16.toNat_or, UInt16.toNat_shiftLeft,
    UInt8.toNat_toUInt16, UInt16.toNat_toUInt8, UInt16.toNat_shiftRight, height]
  rw [Nat.or_comm, hhigh, Nat.mod_eq_of_lt hshift, ← Nat.shiftLeft_add_eq_or_of_lt hlow,
    Nat.shiftLeft_eq]
  omega

/-- The two bytes of a command that hold its opcode. -/
def opcodeBytes (command : List UInt8) : List UInt8 := (command.drop 1).take 2

/-- A handler that gets the opcode bytes of a command back reads the command's opcode. -/
theorem opcode_echoed (host : ByteOrder) (request : HciHeader)
    (sent rest : List UInt8) (numCommands length : UInt8) (h : 3 ≤ length) :
    (HandlerCall.commandComplete
      (numCommands :: opcodeBytes (sendCommand host request sent) ++ rest) length).opcode =
        some request.opcode := by
  have hbytes : opcodeBytes (sendCommand host request sent) =
      [low request.opcode, high request.opcode] := by
    rw [sendCommand_eq]
    rfl
  rw [hbytes, HandlerCall.opcode, if_neg (UInt8.not_lt.2 h)]
  exact congrArg some (eventOpcode_bytes request.opcode)

namespace EventPacket

def expectedCalls (p : EventPacket) : List HandlerCall :=
  if p.code = 0x0E then [.commandComplete p.parameters (UInt8.ofNat p.parameters.length)]
  else if p.code = 0x0F then [.commandStatus p.parameters (UInt8.ofNat p.parameters.length)]
  else []

/-- The event loop calls the right handler, and reads back the opcode of a command that is
reported as complete. -/
structure Handled (p : EventPacket) : Prop where
  calls : handlerCalls [some p.bytes] = p.expectedCalls
  opcode : ∀ host request sent numCommands rest, p.code = 0x0E →
    p.parameters = numCommands :: opcodeBytes (sendCommand host request sent) ++ rest →
      (handlerCalls [some p.bytes]).map HandlerCall.opcode = [some request.opcode]

/-- The event code is looked for where the type of the packet is. -/
theorem handlerCalls_bytes (p : EventPacket) : handlerCalls [some p.bytes] = [] := by
  simp [handlerCalls, bytes, handlerCall]

theorem handled_iff (p : EventPacket) : p.Handled ↔ p.code ≠ 0x0E ∧ p.code ≠ 0x0F := by
  apply Iff.intro
  · intro h
    have hcalls := (handlerCalls_bytes p).symm.trans h.calls
    rw [expectedCalls] at hcalls
    split_ifs at hcalls with hc hs
    exact ⟨hc, hs⟩
  · rintro ⟨hc, hs⟩
    constructor
    · rw [handlerCalls_bytes, expectedCalls, if_neg hc, if_neg hs]
    · exact fun _ _ _ _ _ h => absurd h hc

/-- The Command Complete for the command that powers the controller. -/
def setPoweredComplete : EventPacket := ⟨0x0E, [0x01, 0x03, 0x0C, 0x00], by decide⟩

theorem setPoweredComplete_not_handled : ¬ setPoweredComplete.Handled := by
  intro h
  have hcalls := h.calls
  revert hcalls
  decide

end EventPacket

end HciAdapter
end Ggk
