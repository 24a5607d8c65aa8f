import BluetoothLE.Lib.Effect
import BluetoothLE.Lib.Machine
import BluetoothLE.Lib.IdTable
import BluetoothLE.Lib.Locks
import BluetoothLE.HexDump
import BluetoothLE.DBus.Registration
import BluetoothLE.DBus.Ownership
import BluetoothLE.DBus.Liveness
import BluetoothLE.DBus.Dangling
import BluetoothLE.DBus.Signals
import BluetoothLE.DBus.Description
import BluetoothLE.DBus.Refusal
import BluetoothLE.DBus.PropertiesChanged
import BluetoothLE.DBus.Captured
import BluetoothLE.DBus.Method
import BluetoothLE.Gatt.Configuration
import BluetoothLE.Lib.Xml
import BluetoothLE.Gatt.WriteValue
import BluetoothLE.Gatt.Cccd
import BluetoothLE.Gatt.LockOrder
import BluetoothLE.Gatt.Reentrancy
import BluetoothLE.Gatt.Races
import BluetoothLE.Gatt.Agreement
import BluetoothLE.Gatt.Application
import BluetoothLE.Gatt.Notifying
import BluetoothLE.Gatt.Alternating
import BluetoothLE.Gatt.Observing
import BluetoothLE.Gatt.Rollback
import BluetoothLE.Gatt.Announced
import BluetoothLE.Gatt.Getters
import BluetoothLE.Gatt.Spellings
import BluetoothLE.Gatt.Paths
import BluetoothLE.Gatt.Replies
import BluetoothLE.Gatt.Signatures
import BluetoothLE.Hci.Packets
import BluetoothLE.Hci.Lifecycle
import BluetoothLE.Hci.Descriptors
import BluetoothLE.Gatt.Serving
import BluetoothLE.Gatt.Concurrent
import BluetoothLE.Gatt.TreeSequential
import BluetoothLE.Hci.HostOrder
import BluetoothLE.Hci.Reads
import BluetoothLE.DBus.Sequential
