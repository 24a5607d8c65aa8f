import BluetoothLE.Hci.Commands

namespace Ggk
open Lib
open ByteOrder (low high)
set_option autoImplicit true

/-- What writes to the socket, with names that may have a NUL in them. -/
inductive HciOperation where
  | sendCommand (request : HciHeader) (parameters : List UInt8)
  | setAdapterName (name : List UInt8)
  | mgmtSetName (name shortName : List UInt8)
  | command (cmd : Command)

def HciOperation.written (host : ByteOrder) : HciOperation → List UInt8
  | sendCommand request parameters => HciAdapter.sendCommand host request parameters
  | setAdapterName name => HciAdapter.setAdapterName host name
  | mgmtSetName name shortName => Mgmt.setName host name shortName
  | command cmd => cmd.written host

theorem HciAdapter.sendCommand_order (host host' : ByteOrder) (request : HciHeader)
    (parameters : List UInt8) :
    sendCommand host request parameters = sendCommand host' request parameters := by
  rw [sendCommand_eq, sendCommand_eq]

theorem Mgmt.setPowered_order (host host' : ByteOrder) (newState : Bool) :
    setPowered host newState = setPowered host' newState := by
  rw [setPowered, setPowered]
  have h (host : ByteOrder) := HciHeader.memory_converted host ⟨0x01, 0x0C03, 1⟩
  exact congrArg (· ++ _) ((h host).trans (h host').symm)

/-- Only the timeout is written in the order of the host. -/
theorem Mgmt.setDiscoverable_order (disc : UInt8) (timeout : UInt16) :
    setDiscoverable .littleEndian disc timeout = setDiscoverable .bigEndian disc timeout ↔
      low timeout = high timeout := by
  have h (host : ByteOrder) : setDiscoverable host disc timeout =
      0x01 :: 0x1E :: 0x0C :: 3 :: disc :: host.bytes timeout := by
    have hlength : (disc :: host.bytes timeout).length = 3 := by cases host <;> rfl
    rw [setDiscoverable, HciAdapter.sendCommand_header _ _ (by rw [hlength]; decide), hlength]
    rfl
  rw [h, h]
  simp only [List.cons.injEq, true_and, ByteOrder.bytes, and_true]
  exact ⟨And.left, fun heq => ⟨heq, heq.symm⟩⟩

/-- The bytes of a command do not depend on the host, but for the timeout of
`Mgmt::setDiscoverable`. -/
theorem HciOperation.written_order_iff (op : HciOperation) :
    op.written .littleEndian = op.written .bigEndian ↔
      ∀ disc timeout, op = .command (.mgmtSetDiscoverable disc timeout) →
        low timeout = high timeout := by
  cases op with
  | sendCommand request parameters =>
    exact iff_of_true (HciAdapter.sendCommand_order _ _ request parameters) nofun
  | setAdapterName name => exact iff_of_true (HciAdapter.sendCommand_order _ _ _ _) nofun
  | mgmtSetName name shortName => exact iff_of_true (HciAdapter.sendCommand_order _ _ _ _) nofun
  | command cmd =>
    cases cmd with
    | mgmtSetDiscoverable disc timeout =>
      apply (Mgmt.setDiscoverable_order disc timeout).trans
      apply Iff.intro
      · rintro h disc' timeout' heq
        cases heq
        exact h
      · exact fun h => h disc timeout rfl
    | mgmtSetPowered newState => exact iff_of_true (Mgmt.setPowered_order _ _ newState) nofun
    | _ => exact iff_of_true (HciAdapter.sendCommand_order _ _ _ _) nofun

/-- A big-endian host asks for 256 seconds where it means one. -/
theorem HciOperation.one_second :
    let op : HciOperation := .command (.mgmtSetDiscoverable 0x01 1)
    op.written .littleEndian ≠ op.written .bigEndian ∧
      op.written .littleEndian = [0x01, 0x1E, 0x0C, 0x03, 0x01, 0x01, 0x00] ∧
      op.written .bigEndian = [0x01, 0x1E, 0x0C, 0x03, 0x01, 0x00, 0x01] := by
  decide

end Ggk
