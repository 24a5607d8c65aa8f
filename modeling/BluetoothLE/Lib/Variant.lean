import Mathlib.Tactic.Common

namespace Lib
set_option autoImplicit true

inductive BasicType where
  | boolean
  | byte
  | int16
  | uint16
  | int32
  | uint32
  | int64
  | uint64
  | handle
  | double
  | string
  | objectPath
  | signature
  deriving DecidableEq, Repr

def BasicType.code : BasicType → String
  | .boolean => "b"
  | .byte => "y"
  | .int16 => "n"
  | .uint16 => "q"
  | .int32 => "i"
  | .uint32 => "u"
  | .int64 => "x"
  | .uint64 => "t"
  | .handle => "h"
  | .double => "d"
  | .string => "s"
  | .objectPath => "o"
  | .signature => "g"

/-- The types of variants. The last three are indefinite: they stand for any type, any basic
type and any tuple. -/
inductive VariantType where
  | basic (type : BasicType)
  | variant
  | maybe (element : VariantType)
  | array (element : VariantType)
  | tuple (items : List VariantType)
  | dictEntry (key value : VariantType)
  | any
  | anyBasic
  | anyTuple

namespace VariantType

mutual

def isDefinite : VariantType → Bool
  | .basic _ | .variant => true
  | .maybe element | .array element => element.isDefinite
  | .tuple items => areDefinite items
  | .dictEntry key value => key.isDefinite && value.isDefinite
  | .any | .anyBasic | .anyTuple => false

def areDefinite : List VariantType → Bool
  | [] => true
  | type :: types => type.isDefinite && areDefinite types

end

mutual

def isSubtypeOf : VariantType → VariantType → Bool
  | _, .any => true
  | .basic _, .anyBasic => true
  | .anyBasic, .anyBasic => true
  | .tuple _, .anyTuple => true
  | .anyTuple, .anyTuple => true
  | .basic type, .basic type' => type == type'
  | .variant, .variant => true
  | .maybe element, .maybe element' => element.isSubtypeOf element'
  | .array element, .array element' => element.isSubtypeOf element'
  | .tuple items, .tuple items' => areSubtypesOf items items'
  | .dictEntry key value, .dictEntry key' value' =>
    key.isSubtypeOf key' && value.isSubtypeOf value'
  | _, _ => false

def areSubtypesOf : List VariantType → List VariantType → Bool
  | [], [] => true
  | type :: types, type' :: types' => type.isSubtypeOf type' && areSubtypesOf types types'
  | _, _ => false

end

mutual

def string : VariantType → String
  | .basic type => type.code
  | .variant => "v"
  | .maybe element => "m" ++ element.string
  | .array element => "a" ++ element.string
  | .tuple items => "(" ++ strings items ++ ")"
  | .dictEntry key value => "\x7b" ++ key.string ++ value.string ++ "\x7d"
  | .any => "*"
  | .anyBasic => "?"
  | .anyTuple => "r"

def strings : List VariantType → String
  | [] => ""
  | type :: types => type.string ++ strings types

end

theorem strings_eq_join (types : List VariantType) :
    strings types = String.join (types.map string) := by
  induction types with
  | nil => rfl
  | cons type types ih => rw [strings, ih, List.map_cons, String.join_cons]

end VariantType

/-- A value with its type. What a basic value holds is given by its serialised bytes. -/
inductive Variant where
  | basic (type : BasicType) (bytes : List UInt8)
  | variant (child : Variant)
  | maybe (element : VariantType) (child : Option Variant)
  | array (element : VariantType) (children : List Variant)
  | tuple (children : List Variant)
  | dictEntry (key value : Variant)

namespace Variant

def ofString (str : String) : Variant := .basic .string str.toUTF8.toList

mutual

def type : Variant → VariantType
  | .basic type _ => .basic type
  | .variant _ => .variant
  | .maybe element _ => .maybe element
  | .array element _ => .array element
  | .tuple children => .tuple (types children)
  | .dictEntry key value => .dictEntry key.type value.type

def types : List Variant → List VariantType
  | [] => []
  | child :: children => child.type :: types children

end

theorem types_eq_map (children : List Variant) : types children = children.map type := by
  induction children with
  | nil => rfl
  | cons child children ih => rw [types, ih, List.map_cons]

theorem isSubtypeOf_string (value : Variant) :
    value.type.isSubtypeOf (.basic .string) = true ↔ value.type = .basic .string := by
  cases value <;> simp [type, VariantType.isSubtypeOf]

/-- No tuple can stand where its own first child does. -/
theorem tuple_not_subtype_head (child : Variant) (children : List Variant) :
    (tuple (child :: children)).type.isSubtypeOf child.type = false := by
  match child with
  | .tuple (child' :: children') =>
    have ih := tuple_not_subtype_head child' children'
    simp only [type, types, VariantType.isSubtypeOf, VariantType.areSubtypesOf] at ih ⊢
    rw [ih, Bool.false_and]
  | .tuple [] => simp [type, types, VariantType.isSubtypeOf, VariantType.areSubtypesOf]
  | .basic _ _ | .variant _ | .maybe _ _ | .array _ _ | .dictEntry _ _ =>
    simp [type, VariantType.isSubtypeOf]

end Variant

/-- A container that is being filled, with the type that it was opened with. -/
structure VariantBuilder where
  type : VariantType
  children : List Variant

namespace VariantBuilder

def start (type : VariantType) : VariantBuilder := ⟨type, []⟩

def hasRoom (b : VariantBuilder) : Bool :=
  match b.type with
  | .array _ | .anyTuple => true
  | .maybe _ | .variant => b.children.isEmpty
  | .tuple items => b.children.length < items.length
  | .dictEntry _ _ => b.children.length < 2
  | _ => false

/-- The type that the next child has to have, if the type of the builder says so. -/
def expected (b : VariantBuilder) : Option VariantType :=
  match b.type with
  | .array element | .maybe element => some element
  | .tuple items => items[b.children.length]?
  | .dictEntry key value => [key, value][b.children.length]?
  | _ => none

/-- All children of an array have the type of the one before. -/
def previous (b : VariantBuilder) : Option VariantType :=
  match b.type with
  | .array _ => b.children.getLast?.map Variant.type
  | _ => none

/-- A child that is rejected is not added. -/
def add (child : Variant) (b : VariantBuilder) : VariantBuilder :=
  if b.hasRoom && b.expected.all child.type.isSubtypeOf && b.previous.all child.type.isSubtypeOf
  then { b with children := b.children ++ [child] }
  else b

/-- The container with its children. An array that was opened with an indefinite type has the
type of its first child, and none without children. -/
def close (b : VariantBuilder) : Option Variant :=
  match b.type with
  | .array element =>
    if element.isDefinite then some (.array element b.children)
    else b.children.head?.map fun first => .array first.type b.children
  | .maybe element =>
    if element.isDefinite then some (.maybe element b.children.head?)
    else b.children.head?.map fun first => .maybe first.type (some first)
  | .tuple items =>
    if b.children.length = items.length then some (.tuple b.children) else none
  | .anyTuple => some (.tuple b.children)
  | .dictEntry _ _ =>
    match b.children with
    | [key, value] => some (.dictEntry key value)
    | _ => none
  | .variant =>
    match b.children with
    | [child] => some (.variant child)
    | _ => none
  | _ => none

/-- What `g_variant_new` makes of a builder where its format asks for the type. -/
def closeAs (type : VariantType) (b : VariantBuilder) : Option Variant :=
  b.close.filter fun value => value.type.isSubtypeOf type

theorem close_start_array (element : VariantType) : (start (.array element)).close =
    if element.isDefinite then some (.array element []) else none := rfl

/-- An array of an unknown type takes its type from the first child. -/
theorem close_add_start_any (child : Variant) :
    ((start (.array .any)).add child).close = some (.array child.type [child]) := by
  have hany : child.type.isSubtypeOf .any = true := by
    rw [VariantType.isSubtypeOf]
  have hadd : (start (.array .any)).add child = ⟨.array .any, [child]⟩ := by
    simp [add, start, hasRoom, expected, previous, hany]
  rw [hadd]
  rfl

theorem close_add_start_anyTuple (child : Variant) :
    ((start .anyTuple).add child).close = some (.tuple [child]) := by
  simp [add, start, hasRoom, expected, previous, close]

/-- A tuple is not added to a builder that has its own type. -/
theorem add_start_self (child : Variant) (children : List Variant) :
    (start (Variant.tuple (child :: children)).type).add (.tuple (child :: children)) =
      start (Variant.tuple (child :: children)).type := by
  have hnot := Variant.tuple_not_subtype_head child children
  have hexpected : (start (Variant.tuple (child :: children)).type).expected = some child.type := by
    simp [start, expected, Variant.type, Variant.types]
  rw [add, hexpected, Option.all_some, hnot]
  simp

theorem close_add_start_pair (type : VariantType) (child : Variant) :
    ((start (.tuple [type])).add child).close =
      if child.type.isSubtypeOf type then some (.tuple [child]) else none := by
  cases h : child.type.isSubtypeOf type <;>
    simp [add, start, hasRoom, expected, previous, close, h]

end VariantBuilder
end Lib
