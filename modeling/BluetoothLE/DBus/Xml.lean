import BluetoothLE.DBus.Types

namespace Ggk
set_option autoImplicit true

structure DBusArgument where
  signature : String
  name : String
  direction : String
  deriving DecidableEq, Repr

/-- A property with its accessors, which are callable objects of type `κ`. -/
structure DBusProperty (κ : Type u) where
  name : String
  signature : String
  readable : Bool
  writable : Bool
  emitsChangedSignal : Bool
  getter : Option κ
  setter : Option κ

structure DBusSignal where
  name : String
  arguments : List DBusArgument

namespace DBusXml

def escapeChar (c : Char) : String :=
  if c.toNat = 38 then "&amp;"
  else if c.toNat = 39 then "&apos;"
  else if c.toNat = 34 then "&quot;"
  else if c.toNat = 60 then "&lt;"
  else if c.toNat = 62 then "&gt;"
  else c.toString

def escape (str : String) : String := String.join (str.toList.map escapeChar)

def indent (level : Nat) : String := String.ofList (List.replicate (level * 2) (Char.ofNat 32))

def access (property : DBusProperty κ) : String :=
  if property.readable && property.writable then "readwrite"
  else if property.readable then "read"
  else if property.writable then "write"
  else ""

def createProperty (property : DBusProperty κ) (indentLevel : Nat) : String :=
  indent indentLevel ++ "<property name='" ++ escape property.name ++
    "' type='" ++ escape property.signature ++ "' access='" ++ access property ++ "'" ++
    if property.emitsChangedSignal then
      ">\n" ++ indent (indentLevel + 1) ++
        "<annotation name='org.freedesktop.DBus.Property.EmitsChangedSignal' value='true'/>\n" ++
        indent indentLevel ++ "</property>\n"
    else "/>\n"

def createArgument (arg : DBusArgument) (rest : String) (indentLevel : Nat) : String :=
  indent indentLevel ++ "<arg name='" ++ escape arg.name ++
    "' type='" ++ escape arg.signature ++ "'" ++ rest ++ "/>\n"

def createMethod (name : String) (inArgs outArgs : List DBusArgument) (indentLevel : Nat) :
    String :=
  indent indentLevel ++ "<method name='" ++ escape name ++ "'>\n" ++
    String.join (inArgs.map (createArgument · " direction='in'" (indentLevel + 1))) ++
    String.join (outArgs.map (createArgument · " direction='out'" (indentLevel + 1))) ++
    indent indentLevel ++ "</method>\n"

def createSignal (signal : DBusSignal) (indentLevel : Nat) : String :=
  indent indentLevel ++ "<signal name='" ++ escape signal.name ++ "'>\n" ++
    String.join (signal.arguments.map (createArgument · "" (indentLevel + 1))) ++
    indent indentLevel ++ "</signal>\n"

def createInterface (name : String) (properties : List (DBusProperty κ))
    (methods : List DBusMethodCall) (signals : List DBusSignal) (indentLevel : Nat) : String :=
  indent (indentLevel + 1) ++ "<interface name='" ++ escape name ++ "'>\n" ++
    String.join (properties.map (createProperty · (indentLevel + 2))) ++
    String.join (methods.map (createMethod ·.method [] [] (indentLevel + 2))) ++
    String.join (signals.map (createSignal · (indentLevel + 2))) ++
    indent (indentLevel + 1) ++ "</interface>\n"

end DBusXml
end Ggk
