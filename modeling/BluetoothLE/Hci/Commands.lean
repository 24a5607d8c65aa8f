import BluetoothLE.Lib.Memory

namespace Ggk
open Lib
open ByteOrder (low high)
set_option autoImplicit true

/-- The packed header of a command, before `sendCommand` converts the opcode. -/
structure HciHeader where
  type : UInt8
  opcode : UInt16
  plen : UInt8
  deriving DecidableEq, Repr

def HciHeader.size : Nat := 4

def HciHeader.memory (host : ByteOrder) (h : HciHeader) : List UInt8 :=
  h.type :: host.bytes h.opcode ++ [h.plen]

namespace HciAdapter

def cmdSetPowered : UInt16 := 0x0C03

def cmdSetBredr : UInt16 := 0x0C28

def cmdSetLe : UInt16 := 0x0C20

def cmdSetAdvertising : UInt16 := 0x0C08

def cmdSetLocalName : UInt16 := 0x0C13

def cmdSetDiscoverable : UInt16 := 0x0C1E

def cmdSetSecureConn : UInt16 := 0x0C41

def cmdSetBondable : UInt16 := 0x0C45

def cmdSetConnectable : UInt16 := 0x0C26

/-- The bytes handed to the socket, out of the structure that starts with the header. -/
def sendCommand (host : ByteOrder) (request : HciHeader) (parameters : List UInt8) :
    List UInt8 :=
  let converted := { request with opcode := host.htole16 request.opcode }
  (converted.memory host ++ parameters).take (HciHeader.size + request.plen.toNat)

/-- A header whose length field is `sizeof(request) - sizeof(HciHeader)`. -/
def header (opcode : UInt16) (parameters : List UInt8) : HciHeader :=
  { type := 0x01, opcode, plen := UInt8.ofNat parameters.length }

def setAdapterName (host : ByteOrder) (name : List UInt8) : List UInt8 :=
  let parameters := strncpy (List.replicate 248 0) name (248 - 1)
  sendCommand host (header cmdSetLocalName parameters) parameters

def setAdvertisingEnabled (host : ByteOrder) (enabled : Bool) : List UInt8 :=
  sendCommand host { type := 0x01, opcode := cmdSetAdvertising, plen := 1 }
    [if enabled then 0x01 else 0x00]

def setPowered (host : ByteOrder) (powered : Bool) : List UInt8 :=
  let parameters := [if powered then 0x01 else 0x00]
  sendCommand host (header cmdSetPowered parameters) parameters

def setLEEnabled (host : ByteOrder) (enabled : Bool) : List UInt8 :=
  let parameters := [if enabled then 0x01 else 0x00]
  sendCommand host (header cmdSetLe parameters) parameters

end HciAdapter

namespace Mgmt
open HciAdapter

def kMaxAdvertisingNameLength : Nat := 248

def kMaxAdvertisingShortNameLength : Nat := 10

def truncateName (name : List UInt8) : List UInt8 :=
  if name.length ≤ kMaxAdvertisingNameLength then name else name.take kMaxAdvertisingNameLength

def truncateShortName (name : List UInt8) : List UInt8 :=
  if name.length ≤ kMaxAdvertisingShortNameLength then name
  else name.take kMaxAdvertisingShortNameLength

def nameParameters (name shortName : List UInt8) : List UInt8 :=
  strncpy (List.replicate 249 0) (truncateName name) (249 - 1) ++
    strncpy (List.replicate 11 0) (truncateShortName shortName) (11 - 1)

def setName (host : ByteOrder) (name shortName : List UInt8) : List UInt8 :=
  let parameters := nameParameters name shortName
  sendCommand host (header cmdSetLocalName parameters) parameters

def setDiscoverable (host : ByteOrder) (disc : UInt8) (timeout : UInt16) : List UInt8 :=
  let parameters := disc :: host.bytes timeout
  sendCommand host (header cmdSetDiscoverable parameters) parameters

/-- The controller id is taken and not used. -/
def setState (host : ByteOrder) (commandCode : UInt16) (_controllerId : UInt16)
    (newState : UInt8) : List UInt8 :=
  sendCommand host (header commandCode [newState]) [newState]

/-- This command goes to the socket without `sendCommand`. -/
def setPowered (host : ByteOrder) (newState : Bool) : List UInt8 :=
  { type := 0x01, opcode := host.htole16 0x0C03, plen := 1 : HciHeader }.memory host ++
    [if newState then 1 else 0]

def setBredr (host : ByteOrder) (controllerIndex : UInt16) (newState : Bool) : List UInt8 :=
  setState host cmdSetBredr controllerIndex (if newState then 1 else 0)

def setSecureConnections (host : ByteOrder) (controllerIndex : UInt16) (newState : UInt8) :
    List UInt8 :=
  setState host cmdSetSecureConn controllerIndex newState

def setBondable (host : ByteOrder) (controllerIndex : UInt16) (newState : Bool) : List UInt8 :=
  setState host cmdSetBondable controllerIndex (if newState then 1 else 0)

def setConnectable (host : ByteOrder) (controllerIndex : UInt16) (newState : Bool) : List UInt8 :=
  setState host cmdSetConnectable controllerIndex (if newState then 1 else 0)

def setLE (host : ByteOrder) (controllerIndex : UInt16) (newState : Bool) : List UInt8 :=
  setState host cmdSetLe controllerIndex (if newState then 1 else 0)

def setAdvertising (host : ByteOrder) (controllerIndex : UInt16) (newState : UInt8) :
    List UInt8 :=
  setState host cmdSetAdvertising controllerIndex newState

end Mgmt

theorem HciHeader.memory_converted (host : ByteOrder) (h : HciHeader) :
    { h with opcode := host.htole16 h.opcode : HciHeader }.memory host =
      [h.type, low h.opcode, high h.opcode, h.plen] := by
  rw [memory, ByteOrder.bytes_htole16]
  rfl

theorem HciAdapter.sendCommand_eq (host : ByteOrder) (h : HciHeader) (parameters : List UInt8) :
    sendCommand host h parameters =
      [h.type, low h.opcode, high h.opcode, h.plen] ++ parameters.take h.plen.toNat := by
  rw [sendCommand, HciHeader.memory_converted, HciHeader.size, Nat.add_comm]
  rfl

theorem HciAdapter.sendCommand_header (host : ByteOrder) (opcode : UInt16)
    (h : parameters.length < 256) :
    sendCommand host (header opcode parameters) parameters =
      0x01 :: low opcode :: high opcode :: UInt8.ofNat parameters.length :: parameters := by
  rw [sendCommand_eq, header, UInt8.toNat_ofNat_of_lt' h, List.take_length]
  rfl

inductive Command where
  | setAdapterName (name : Name)
  | setAdvertisingEnabled (enabled : Bool)
  | setPowered (powered : Bool)
  | setLEEnabled (enabled : Bool)
  | mgmtSetName (name shortName : Name)
  | mgmtSetDiscoverable (disc : UInt8) (timeout : UInt16)
  | mgmtSetPowered (newState : Bool)
  | mgmtSetBredr (controllerIndex : UInt16) (newState : Bool)
  | mgmtSetSecureConnections (controllerIndex : UInt16) (newState : UInt8)
  | mgmtSetBondable (controllerIndex : UInt16) (newState : Bool)
  | mgmtSetConnectable (controllerIndex : UInt16) (newState : Bool)
  | mgmtSetLE (controllerIndex : UInt16) (newState : Bool)
  | mgmtSetAdvertising (controllerIndex : UInt16) (newState : UInt8)

namespace Command

def written (host : ByteOrder) : Command → List UInt8
  | setAdapterName name => HciAdapter.setAdapterName host name.bytes
  | setAdvertisingEnabled enabled => HciAdapter.setAdvertisingEnabled host enabled
  | setPowered powered => HciAdapter.setPowered host powered
  | setLEEnabled enabled => HciAdapter.setLEEnabled host enabled
  | mgmtSetName name shortName => Mgmt.setName host name.bytes shortName.bytes
  | mgmtSetDiscoverable disc timeout => Mgmt.setDiscoverable host disc timeout
  | mgmtSetPowered newState => Mgmt.setPowered host newState
  | mgmtSetBredr controllerIndex newState => Mgmt.setBredr host controllerIndex newState
  | mgmtSetSecureConnections controllerIndex newState =>
    Mgmt.setSecureConnections host controllerIndex newState
  | mgmtSetBondable controllerIndex newState => Mgmt.setBondable host controllerIndex newState
  | mgmtSetConnectable controllerIndex newState => Mgmt.setConnectable host controllerIndex newState
  | mgmtSetLE controllerIndex newState => Mgmt.setLE host controllerIndex newState
  | mgmtSetAdvertising controllerIndex newState => Mgmt.setAdvertising host controllerIndex newState

def opcode : Command → UInt16
  | setAdapterName _ => HciAdapter.cmdSetLocalName
  | setAdvertisingEnabled _ => HciAdapter.cmdSetAdvertising
  | setPowered _ => HciAdapter.cmdSetPowered
  | setLEEnabled _ => HciAdapter.cmdSetLe
  | mgmtSetName _ _ => HciAdapter.cmdSetLocalName
  | mgmtSetDiscoverable _ _ => HciAdapter.cmdSetDiscoverable
  | mgmtSetPowered _ => HciAdapter.cmdSetPowered
  | mgmtSetBredr _ _ => HciAdapter.cmdSetBredr
  | mgmtSetSecureConnections _ _ => HciAdapter.cmdSetSecureConn
  | mgmtSetBondable _ _ => HciAdapter.cmdSetBondable
  | mgmtSetConnectable _ _ => HciAdapter.cmdSetConnectable
  | mgmtSetLE _ _ => HciAdapter.cmdSetLe
  | mgmtSetAdvertising _ _ => HciAdapter.cmdSetAdvertising

def parameters (host : ByteOrder) : Command → List UInt8
  | setAdapterName name => strncpy (List.replicate 248 0) name.bytes (248 - 1)
  | mgmtSetName name shortName => Mgmt.nameParameters name.bytes shortName.bytes
  | mgmtSetDiscoverable disc timeout => disc :: host.bytes timeout
  | setAdvertisingEnabled b | setPowered b | setLEEnabled b | mgmtSetPowered b
  | mgmtSetBredr _ b | mgmtSetBondable _ b | mgmtSetConnectable _ b | mgmtSetLE _ b =>
    [if b then 1 else 0]
  | mgmtSetSecureConnections _ newState | mgmtSetAdvertising _ newState => [newState]

/-- The name fields of the parameter structure, and the names they are for. -/
def nameFields (host : ByteOrder) (cmd : Command) : List (List UInt8 × Name) :=
  match cmd with
  | setAdapterName name => [(cmd.parameters host, name)]
  | mgmtSetName name shortName =>
    [((cmd.parameters host).take 249, name), ((cmd.parameters host).drop 249, shortName)]
  | _ => []

/-- The bytes written are one well-formed packet, and every name field holds as much of its
name as it can. -/
structure Framed (host : ByteOrder) (cmd : Command) : Prop where
  packet : ∃ plen : UInt8, plen.toNat = (cmd.parameters host).length ∧
    cmd.written host = 0x01 :: low cmd.opcode :: high cmd.opcode :: plen ::
      cmd.parameters host
  names : ∀ f ∈ cmd.nameFields host, LongestFitting f.1.length f.2 (cString f.1)

theorem setAdapterName_length (host : ByteOrder) (name : Name) :
    ((setAdapterName name).parameters host).length = 248 :=
  strncpy_zeroed_length _ (by decide)

theorem mgmtSetName_length (host : ByteOrder) (name shortName : Name) :
    ((mgmtSetName name shortName).parameters host).length = 260 := by
  rw [parameters, Mgmt.nameParameters, List.length_append, strncpy_zeroed_length _ (by decide),
    strncpy_zeroed_length _ (by decide)]

theorem parameters_length (host : ByteOrder)
    (h : ∀ name shortName, cmd ≠ mgmtSetName name shortName) :
    (cmd.parameters host).length < 256 := by
  cases cmd with
  | setAdapterName name => rw [setAdapterName_length]; decide
  | mgmtSetName name shortName => exact absurd rfl (h name shortName)
  | mgmtSetDiscoverable disc timeout => cases host <;> exact Nat.lt_of_sub_eq_succ rfl
  | _ => exact Nat.lt_of_sub_eq_succ rfl

theorem written_eq_packet (host : ByteOrder)
    (h : ∀ name shortName, cmd ≠ mgmtSetName name shortName) :
    cmd.written host = 0x01 :: low cmd.opcode :: high cmd.opcode ::
      UInt8.ofNat (cmd.parameters host).length :: cmd.parameters host := by
  have hlen := parameters_length host h
  cases cmd with
  | mgmtSetName name shortName => exact absurd rfl (h name shortName)
  | mgmtSetPowered newState =>
    have hm := HciHeader.memory_converted host { type := 0x01, opcode := 0x0C03, plen := 1 }
    rw [written, Mgmt.setPowered, hm]
    rfl
  | _ => exact HciAdapter.sendCommand_header host _ hlen

/-- Exactly `Mgmt::setName` is not framed: its length field cannot count the two names. -/
theorem framed_iff (host : ByteOrder) (cmd : Command) :
    Framed host cmd ↔ ∀ name shortName, cmd ≠ mgmtSetName name shortName := by
  apply Iff.intro
  · intro h name shortName hcmd
    obtain ⟨plen, hlen, _⟩ := h.packet
    rw [hcmd, mgmtSetName_length] at hlen
    have hlt := plen.toNat_lt
    omega
  · intro h
    have hplen := UInt8.toNat_ofNat_of_lt' (parameters_length host h)
    refine ⟨⟨_, hplen, written_eq_packet host h⟩, ?_⟩
    intro f hf
    cases cmd with
    | setAdapterName name =>
      cases List.mem_singleton.1 hf
      rw [setAdapterName_length, parameters, cString_strncpy name.nulFree]
      exact longestFitting_take name 247
    | mgmtSetName name shortName => exact absurd rfl (h name shortName)
    | _ => cases hf

/-- The name "a" is announced as four of the 260 parameter bytes. -/
theorem mgmtSetName_not_framed :
    ¬ Framed .littleEndian (mgmtSetName ⟨[0x61], by decide⟩ ⟨[0x61], by decide⟩) ∧
      (mgmtSetName ⟨[0x61], by decide⟩ ⟨[0x61], by decide⟩).written .littleEndian =
        [0x01, 0x13, 0x0C, 0x04, 0x61, 0x00, 0x00, 0x00] := by
  apply And.intro _ (by decide +kernel)
  intro h
  obtain ⟨plen, hlen, _⟩ := h.packet
  rw [mgmtSetName_length] at hlen
  have hlt := plen.toNat_lt
  omega

end Command
end Ggk
