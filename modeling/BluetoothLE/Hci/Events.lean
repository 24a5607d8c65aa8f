import BluetoothLE.Hci.Commands
import BluetoothLE.Utils

namespace Ggk
open Lib HciAdapter
set_option autoImplicit true

namespace HciAdapter

def eventOpcode (low high : UInt8) : UInt16 := low.toUInt16 ||| high.toUInt16 <<< 8

def commandName (opcode : UInt16) : String :=
  if opcode = cmdSetPowered then "Set Powered"
  else if opcode = cmdSetLe then "Set LE Mode"
  else if opcode = cmdSetBredr then "Set BR/EDR Mode"
  else if opcode = cmdSetAdvertising then "Set Advertising"
  else if opcode = cmdSetLocalName then "Set Local Name"
  else "Unknown Command"

/-- What the handler logs. Every index into `data` is a lookup that may leave the response. -/
def handleCommandComplete (data : List UInt8) (length : UInt8) : Option (List String) :=
  if length < 3 then some []
  else do
    let _numCommands ← data[0]?
    let opcode := eventOpcode (← data[1]?) (← data[2]?)
    let status ← if 3 < length then data[3]? else some 0xFF
    return ["Command Complete: " ++ commandName opcode ++ " (opcode=0x" ++ Utils.hexUInt16 opcode ++
      ", status=0x" ++ Utils.hexUInt8 status ++ ")"]

def handleCommandStatus (data : List UInt8) (length : UInt8) : Option (List String) :=
  if length < 3 then some []
  else do
    let status ← data[0]?
    let opcode := eventOpcode (← data[1]?) (← data[2]?)
    return ["Command Status: opcode=" ++ Utils.hexUInt16 opcode ++ " status=" ++
      Utils.hexUInt8 status]

def processEvent (response : List UInt8) : Option (List String) :=
  if response.length < 3 then some ["Received invalid HCI event (too short)"]
  else do
    let eventCode ← response[0]?
    let parameterLength ← response[1]?
    let parameters := response.drop 2
    if eventCode = 0x0E then handleCommandComplete parameters parameterLength
    else if eventCode = 0x0F then handleCommandStatus parameters parameterLength
    else return ["Received unhandled HCI event: " ++ Utils.hexUInt8 eventCode]

/-- The event loop over what the reads of the socket give, until the loop is left. A failed
read goes on with the next one. -/
def processEvents : List (Option (List UInt8)) → Option (List String)
  | [] => some []
  | none :: reads => processEvents reads
  | some response :: reads => do
    let logged ← processEvent response
    return logged ++ (← processEvents reads)

/-- The response reaches as far as the handler of its event looks. -/
def Reaches (response : List UInt8) : Prop :=
  match response with
  | eventCode :: declared :: parameters =>
    parameters = [] ∨ declared < 3 ∨
      if eventCode = 0x0E then 3 ≤ parameters.length ∧ (3 < declared → 4 ≤ parameters.length)
      else if eventCode = 0x0F then 3 ≤ parameters.length
      else True
  | _ => True

theorem handleCommandComplete_isSome (data : List UInt8) (length : UInt8) :
    (handleCommandComplete data length).isSome = true ↔
      length < 3 ∨ 3 ≤ data.length ∧ (3 < length → 4 ≤ data.length) := by
  by_cases h : length < 3
  · simp [handleCommandComplete, h]
  · by_cases h' : 3 < length
    · rcases data with _ | ⟨a, _ | ⟨b, _ | ⟨c, _ | ⟨d, rest⟩⟩⟩⟩ <;>
        simp [handleCommandComplete, h, h']
    · rcases data with _ | ⟨a, _ | ⟨b, _ | ⟨c, rest⟩⟩⟩ <;>
        simp [handleCommandComplete, h, h']

theorem handleCommandStatus_isSome (data : List UInt8) (length : UInt8) :
    (handleCommandStatus data length).isSome = true ↔ length < 3 ∨ 3 ≤ data.length := by
  by_cases h : length < 3
  · simp [handleCommandStatus, h]
  · rcases data with _ | ⟨a, _ | ⟨b, _ | ⟨c, rest⟩⟩⟩ <;> simp [handleCommandStatus, h]

theorem processEvent_isSome (response : List UInt8) :
    (processEvent response).isSome = true ↔ Reaches response := by
  rcases response with _ | ⟨eventCode, _ | ⟨declared, _ | ⟨first, rest⟩⟩⟩
  · simp [processEvent, Reaches]
  · simp [processEvent, Reaches]
  · simp [processEvent, Reaches]
  · have hlen : ¬ (eventCode :: declared :: first :: rest).length < 3 := by simp
    rw [processEvent, if_neg hlen]
    by_cases hc : eventCode = 0x0E
    · simp [Reaches, hc, handleCommandComplete_isSome]
    · by_cases hs : eventCode = 0x0F
      · simp [Reaches, hs, handleCommandStatus_isSome]
      · simp [Reaches, hc, hs]

/-- No lookup of the event loop fails exactly when every response reaches far enough. -/
theorem processEvents_isSome_iff (reads : List (Option (List UInt8))) :
    (processEvents reads).isSome = true ↔ ∀ response, some response ∈ reads → Reaches response := by
  induction reads with
  | nil => simp [processEvents]
  | cons read reads ih =>
    cases read with
    | none => simpa [processEvents] using ih
    | some response =>
      have h : (processEvents (some response :: reads)).isSome = true ↔
          (processEvent response).isSome = true ∧ (processEvents reads).isSome = true := by
        cases h : processEvent response <;> cases h' : processEvents reads <;>
          simp [processEvents, h, h']
      rw [h, processEvent_isSome, ih]
      simp

/-- A Command Complete of three bytes that declares four parameters. -/
theorem processEvents_truncated : processEvents [some [0x0E, 0x04, 0x01]] = none := by
  decide

end HciAdapter
end Ggk
