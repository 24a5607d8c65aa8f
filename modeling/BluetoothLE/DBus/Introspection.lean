import BluetoothLE.DBus.Object
import BluetoothLE.Lib.Segments
import BluetoothLE.Lib.Xml

namespace Ggk
open Lib Lib.Xml Lib.Xml.Reader
set_option autoImplicit true

namespace Introspection

/-- What a document says about a method: the signatures of its arguments. -/
structure MethodInfo where
  name : String
  inArgs : List String
  outArgs : List String
  deriving DecidableEq, Repr

structure InterfaceInfo where
  name : String
  methods : List MethodInfo
  deriving DecidableEq, Repr

def argInfo (e : Element) : Option (String × String) := do
  let signature ← e.attr "type"
  return ((e.attr "direction").getD "in", signature)

def methodInfo (e : Element) : Option MethodInfo := do
  let name ← e.attr "name"
  let args ← (e.childrenNamed "arg").mapM argInfo
  return ⟨name, (args.filter (·.1 == "in")).map Prod.snd, (args.filter (·.1 == "out")).map Prod.snd⟩

def interfaceInfo (e : Element) : Option InterfaceInfo := do
  let name ← e.attr "name"
  let methods ← (e.childrenNamed "method").mapM methodInfo
  return ⟨name, methods⟩

def interfaces (xml : String) : Option (List InterfaceInfo) := do
  let elements ← Xml.read xml
  let node ← elements.find? (·.name == "node")
  (node.childrenNamed "interface").mapM interfaceInfo

def interfaceNames (xml : String) : Option (List String) :=
  (interfaces xml).map (List.map InterfaceInfo.name)

end Introspection

namespace DBusXml

/-- A character and what stands for it in a document. -/
inductive Escaped : Char → List Char → Prop
  | amp : Escaped '&' "&amp;".toList
  | apos : Escaped '\'' "&apos;".toList
  | quot : Escaped '"' "&quot;".toList
  | lt : Escaped '<' "&lt;".toList
  | gt : Escaped '>' "&gt;".toList
  | plain (hamp : c ≠ '&') (hapos : c ≠ '\'') (hlt : c ≠ '<') : Escaped c [c]

theorem escaped_escapeChar (c : Char) : Escaped c (escapeChar c).toList := by
  have heq {d : Char} (h : c.toNat = d.toNat) : c = d := Char.toNat_inj.1 h
  have hne {d : Char} (h : ¬ c.toNat = d.toNat) : c ≠ d := fun hcd => h (congrArg _ hcd)
  rw [escapeChar]
  split_ifs with h38 h39 h34 h60 h62
  · exact heq (d := '&') h38 ▸ .amp
  · exact heq (d := '\'') h39 ▸ .apos
  · exact heq (d := '"') h34 ▸ .quot
  · exact heq (d := '<') h60 ▸ .lt
  · exact heq (d := '>') h62 ▸ .gt
  · rw [Char.toString_eq_singleton, String.toList_singleton]
    exact .plain (hne (d := '&') h38) (hne (d := '\'') h39) (hne (d := '<') h60)

theorem Escaped.free (h : Escaped c l) : ∀ d ∈ l, d ≠ '\'' ∧ d ≠ '<' := by
  cases h with
  | plain hamp hapos hlt =>
    intro d hd
    cases List.mem_singleton.1 hd
    exact ⟨hapos, hlt⟩
  | _ => simp

theorem Escaped.decode (h : Escaped c l) (rest : List Char) :
    Lib.Xml.decode (l ++ rest) = (Lib.Xml.decode rest).map (c :: ·) := by
  cases h with
  | plain hamp hapos hlt => exact decode_cons hamp rest
  | _ => rfl

theorem encodes_escape (s : String) : Encodes '\'' (escape s) s := by
  have htoList : (escape s).toList = s.toList.flatMap fun c => (escapeChar c).toList := by
    rw [escape, String.toList_join, List.flatMap_map]
  apply Encodes.mk
  · intro d hd
    rw [htoList] at hd
    obtain ⟨c, _, hc⟩ := List.mem_flatMap.1 hd
    exact (escaped_escapeChar c).free d hc
  · rw [htoList]
    induction s.toList with
    | nil => rfl
    | cons c l ih => rw [List.flatMap_cons, (escaped_escapeChar c).decode, ih, Option.map_some]

section Elements
variable {tag : Tag} {key : List Char} {frames : List (Tag × List Element)}

theorem feed_indent (level : Nat) (tag : Tag) (children : List Element)
    (frames : List (Tag × List Element)) :
    feed ⟨.text, (tag, children) :: frames⟩ (indent level) =
      ⟨.text, (tag, children) :: frames⟩ := by
  have h := reads_blank (level * 2) tag children frames
  rw [List.append_nil] at h
  exact h

theorem feed_escape_type (v : String) :
    feed (feed ⟨.value tag key '\'' [], frames⟩ (escape v)) "' type='" =
      ⟨.value { tag with attributes := tag.attributes ++ [(String.ofList key, v)] }
        ['t', 'y', 'p', 'e'] '\'' [], frames⟩ := by
  have ht : "' type='".toList = '\'' :: [' ', 't', 'y', 'p', 'e', '=', '\''] := rfl
  exact feed_value (encodes_escape v) ht

theorem feed_escape_quote (v : String) :
    feed (feed ⟨.value tag key '\'' [], frames⟩ (escape v)) "'" =
      ⟨.gap { tag with attributes := tag.attributes ++ [(String.ofList key, v)] }, frames⟩ := by
  have ht : "'".toList = '\'' :: [] := rfl
  exact feed_value (encodes_escape v) ht

def argElement (direction : List (String × String)) (arg : DBusArgument) : Element :=
  .mk "arg" (("name", arg.name) :: ("type", arg.signature) :: direction) []

theorem reads_createArgument (arg : DBusArgument) (level : Nat)
    (h : ∀ tag frames, feed (feed ⟨.gap tag, frames⟩ rest) "/>\n" =
      feed ⟨.gap { tag with attributes := tag.attributes ++ direction }, frames⟩ "/>\n") :
    Reads (createArgument arg rest level) [argElement direction arg] := by
  intro tag children frames
  have hname : feed ⟨.text, (tag, children) :: frames⟩ "<arg name='" =
      ⟨.value ⟨['a', 'r', 'g'], []⟩ ['n', 'a', 'm', 'e'] '\'' [], (tag, children) :: frames⟩ := rfl
  rw [createArgument]
  simp only [feed_append]
  rw [feed_indent, hname, feed_escape_type, feed_escape_quote, h]
  rfl

theorem feed_escape_tag (v : String) :
    feed (feed ⟨.value tag key '\'' [], frames⟩ (escape v)) "'>\n" =
      feed ⟨.gap { tag with attributes := tag.attributes ++ [(String.ofList key, v)] }, frames⟩
        ">\n" := by
  have ht : "'>\n".toList = '\'' :: ['>', '\n'] := rfl
  exact feed_value (encodes_escape v) ht

theorem feed_escape_access (v : String) :
    feed (feed ⟨.value tag key '\'' [], frames⟩ (escape v)) "' access='" =
      ⟨.value { tag with attributes := tag.attributes ++ [(String.ofList key, v)] }
        ['a', 'c', 'c', 'e', 's', 's'] '\'' [], frames⟩ := by
  have ht : "' access='".toList = '\'' :: [' ', 'a', 'c', 'c', 'e', 's', 's', '=', '\''] := rfl
  exact feed_value (encodes_escape v) ht

theorem encodes_access (property : DBusProperty κ) :
    Encodes '\'' (access property) (access property) := by
  rw [access]
  split
  · exact ⟨by simp, rfl⟩
  · split
    · exact ⟨by simp, rfl⟩
    · split
      · exact ⟨by simp, rfl⟩
      · exact ⟨by simp, rfl⟩

theorem feed_access (property : DBusProperty κ) :
    feed (feed ⟨.value tag key '\'' [], frames⟩ (access property)) "'" =
      ⟨.gap { tag with attributes := tag.attributes ++ [(String.ofList key, access property)] },
        frames⟩ := by
  have ht : "'".toList = '\'' :: [] := rfl
  exact feed_value (encodes_access property) ht

def methodElement (name : String) (inArgs outArgs : List DBusArgument) : Element :=
  .mk "method" [("name", name)]
    (inArgs.map (argElement [("direction", "in")]) ++
      outArgs.map (argElement [("direction", "out")]))

theorem reads_createMethod (name : String) (inArgs outArgs : List DBusArgument) (level : Nat) :
    Reads (createMethod name inArgs outArgs level) [methodElement name inArgs outArgs] := by
  intro tag children frames
  have hname : feed ⟨.text, (tag, children) :: frames⟩ "<method name='" =
      ⟨.value ⟨['m', 'e', 't', 'h', 'o', 'd'], []⟩ ['n', 'a', 'm', 'e'] '\'' [],
        (tag, children) :: frames⟩ := rfl
  have htag : feed (feed (feed ⟨.text, (tag, children) :: frames⟩ "<method name='") (escape name))
      "'>\n" = ⟨.text, (⟨['m', 'e', 't', 'h', 'o', 'd'], [("name", name)]⟩, []) ::
        (tag, children) :: frames⟩ := by
    rw [hname, feed_escape_tag]
    rfl
  have hins : Reads (String.join (inArgs.map (createArgument · " direction='in'" (level + 1))))
      (inArgs.map (argElement [("direction", "in")])) :=
    Reads.join fun arg _ => reads_createArgument arg (level + 1) fun _ _ => rfl
  have houts : Reads (String.join (outArgs.map (createArgument · " direction='out'" (level + 1))))
      (outArgs.map (argElement [("direction", "out")])) :=
    Reads.join fun arg _ => reads_createArgument arg (level + 1) fun _ _ => rfl
  rw [createMethod]
  simp only [feed_append]
  rw [feed_indent, htag, hins, houts, feed_indent, List.nil_append]
  rfl

def propertyElement (property : DBusProperty κ) : Element :=
  .mk "property"
    [("name", property.name), ("type", property.signature), ("access", access property)]
    (if property.emitsChangedSignal then
      [.mk "annotation"
        [("name", "org.freedesktop.DBus.Property.EmitsChangedSignal"), ("value", "true")] []]
    else [])

set_option maxRecDepth 2000 in
theorem reads_annotation : Reads
    "<annotation name='org.freedesktop.DBus.Property.EmitsChangedSignal' value='true'/>\n"
    [.mk "annotation"
      [("name", "org.freedesktop.DBus.Property.EmitsChangedSignal"), ("value", "true")] []] :=
  fun _ _ _ => rfl

theorem reads_createProperty (property : DBusProperty κ) (level : Nat) :
    Reads (createProperty property level) [propertyElement property] := by
  intro tag children frames
  have hname : feed ⟨.text, (tag, children) :: frames⟩ "<property name='" =
      ⟨.value ⟨['p', 'r', 'o', 'p', 'e', 'r', 't', 'y'], []⟩ ['n', 'a', 'm', 'e'] '\'' [],
        (tag, children) :: frames⟩ := rfl
  rw [createProperty]
  simp only [feed_append]
  rw [feed_indent, hname, feed_escape_type, feed_escape_access, feed_access]
  cases he : property.emitsChangedSignal with
  | false =>
    rw [if_neg Bool.false_ne_true, propertyElement, he, if_neg Bool.false_ne_true]
    rfl
  | true =>
    have hopen (tag' : Tag) (frames : List (Tag × List Element))
        (ht : tag'.name = ['p', 'r', 'o', 'p', 'e', 'r', 't', 'y']) :
        feed ⟨.gap tag', frames⟩ ">\n" = ⟨.text, (tag', []) :: frames⟩ := by
      cases tag'
      cases ht
      rfl
    rw [if_pos rfl]
    simp only [feed_append]
    rw [hopen _ _ rfl, feed_indent, reads_annotation, feed_indent, propertyElement, he]
    rfl

def interfaceElement (name : String) (properties : List (DBusProperty κ)) (methods : List String) :
    Element :=
  .mk "interface" [("name", name)]
    (properties.map propertyElement ++ methods.map (methodElement · [] []))

theorem reads_createInterface (name : String) (properties : List (DBusProperty κ))
    (methods : List DBusMethodCall) (level : Nat) :
    Reads (createInterface name properties methods [] level)
      [interfaceElement name properties (methods.map DBusMethodCall.method)] := by
  intro tag children frames
  have hname : feed ⟨.text, (tag, children) :: frames⟩ "<interface name='" =
      ⟨.value ⟨['i', 'n', 't', 'e', 'r', 'f', 'a', 'c', 'e'], []⟩ ['n', 'a', 'm', 'e'] '\'' [],
        (tag, children) :: frames⟩ := rfl
  have htag : feed (feed (feed ⟨.text, (tag, children) :: frames⟩ "<interface name='")
      (escape name)) "'>\n" =
        ⟨.text, (⟨['i', 'n', 't', 'e', 'r', 'f', 'a', 'c', 'e'], [("name", name)]⟩, []) ::
          (tag, children) :: frames⟩ := by
    rw [hname, feed_escape_tag]
    rfl
  have hproperties : Reads (String.join (properties.map (createProperty · (level + 2))))
      (properties.map propertyElement) :=
    Reads.join fun property _ => reads_createProperty property (level + 2)
  have hmethods : Reads (String.join (methods.map (createMethod ·.method [] [] (level + 2))))
      (methods.map fun call => methodElement call.method [] []) :=
    Reads.join fun call _ => reads_createMethod call.method [] [] (level + 2)
  rw [createInterface]
  simp only [feed_append]
  rw [feed_indent, htag, hproperties, hmethods, List.map_nil, String.join_nil, feed_empty,
    feed_indent, List.nil_append, interfaceElement, List.map_map]
  rfl

end Elements
end DBusXml

namespace DBusObject
open DBusXml

theorem feed_version (frames : List (Tag × List Element)) :
    feed ⟨.text, frames⟩ "<?xml version=\"1.0\"" =
      ⟨.gap ⟨['?', 'x', 'm', 'l'], [("version", "1.0")]⟩, frames⟩ := rfl

theorem feed_encoding (tag : Tag) (children : List Element) (frames : List (Tag × List Element)) :
    feed ⟨.gap ⟨['?', 'x', 'm', 'l'], [("version", "1.0")]⟩, (tag, children) :: frames⟩
        " encoding=\"UTF-8\"?>\n" = ⟨.text, (tag, children ++
      [.mk "?xml" [("version", "1.0"), ("encoding", "UTF-8")] []]) :: frames⟩ := rfl

theorem feed_node (frames : List (Tag × List Element)) :
    feed ⟨.text, frames⟩ "<node>\n" = ⟨.text, (⟨['n', 'o', 'd', 'e'], []⟩, []) :: frames⟩ := rfl

theorem opening_eq : "<?xml version=\"1.0\" encoding=\"UTF-8\"?>\n<node>\n" =
    "<?xml version=\"1.0\"" ++ " encoding=\"UTF-8\"?>\n" ++ "<node>\n" := by decide

theorem generateIntrospectionXml_eq (o : DBusObject κ) : o.generateIntrospectionXml =
    "<?xml version=\"1.0\"" ++ " encoding=\"UTF-8\"?>\n" ++ "<node>\n" ++
      String.join (o.interfaces.toList.map fun iface =>
        createInterface iface.1 iface.2 (o.methodCalls iface.1) [] 1) ++ "</node>" :=
  congrArg (fun opening => opening ++ String.join (o.interfaces.toList.map fun iface =>
    createInterface iface.1 iface.2 (o.methodCalls iface.1) [] 1) ++ "</node>") opening_eq

def interfaceElements (o : DBusObject κ) : List Element :=
  o.interfaces.toList.map fun iface =>
    interfaceElement iface.1 iface.2 ((o.methodCalls iface.1).map DBusMethodCall.method)

def prologElement : Element := .mk "?xml" [("version", "1.0"), ("encoding", "UTF-8")] []

/-- The document of an object says what its tables say. -/
theorem read_introspectionXml (o : DBusObject κ) : Xml.read o.generateIntrospectionXml =
    some [prologElement, .mk "node" [] o.interfaceElements] := by
  have hbody : Reads (String.join (o.interfaces.toList.map fun iface =>
      createInterface iface.1 iface.2 (o.methodCalls iface.1) [] 1)) o.interfaceElements :=
    Reads.join fun iface _ => reads_createInterface iface.1 iface.2 (o.methodCalls iface.1) 1
  have hclose (es children : List Element) (tag : Tag) (frames : List (Tag × List Element)) :
      feed ⟨.text, (⟨['n', 'o', 'd', 'e'], []⟩, es) :: (tag, children) :: frames⟩ "</node>" =
        ⟨.text, (tag, children ++ [.mk "node" [] es]) :: frames⟩ := rfl
  have hfeed : feed ⟨.text, [(⟨[], []⟩, [])]⟩ o.generateIntrospectionXml =
      ⟨.text, [(⟨[], []⟩,
        [] ++ [prologElement] ++ [.mk "node" [] ([] ++ o.interfaceElements)])]⟩ := by
    rw [generateIntrospectionXml_eq, feed_append, feed_append, feed_append, feed_append,
      feed_version, feed_encoding, feed_node, hbody, hclose]
    rfl
  rw [Xml.read, hfeed]
  rfl

end DBusObject

namespace Introspection
open DBusXml

theorem filter_named (name : String) {f : α → Element} (h : ∀ a, (f a).name = name) (l : List α) :
    (l.map f).filter (fun e => e.name == name) = l.map f := by
  apply List.filter_eq_self.2
  intro e he
  obtain ⟨a, _, rfl⟩ := List.mem_map.1 he
  exact beq_iff_eq.2 (h a)

theorem filter_named_other (name : String) {f : α → Element} (h : ∀ a, (f a).name ≠ name)
    (l : List α) :
    (l.map f).filter (fun e => e.name == name) = [] := by
  apply List.filter_eq_nil_iff.2
  intro e he
  obtain ⟨a, _, rfl⟩ := List.mem_map.1 he
  exact fun heq => h a (beq_iff_eq.1 heq)

section Members
variable (name : String) (properties : List (DBusProperty κ)) (methods : List String)

theorem methods_interfaceElement :
    (interfaceElement name properties methods).childrenNamed "method" =
      methods.map (methodElement · [] []) := by
  have hno := filter_named_other "method" (f := propertyElement)
    (fun _ => by simp [propertyElement, Element.name]) properties
  have hall := filter_named "method" (f := fun method => methodElement method [] [])
    (fun _ => rfl) methods
  rw [interfaceElement, Element.childrenNamed, List.filter_append, hno, hall, List.nil_append]

theorem properties_interfaceElement :
    (interfaceElement name properties methods).childrenNamed "property" =
      properties.map propertyElement := by
  have hall := filter_named "property" (f := propertyElement) (fun _ => rfl) properties
  have hno := filter_named_other "property"
    (f := fun method => methodElement method [] [])
    (fun _ => by simp [methodElement, Element.name]) methods
  rw [interfaceElement, Element.childrenNamed, List.filter_append, hall, hno, List.append_nil]

theorem interfaceInfo_interfaceElement :
    interfaceInfo (interfaceElement name properties methods) =
      some ⟨name, methods.map (⟨·, [], []⟩)⟩ := by
  have hinfos : (methods.map (methodElement · [] [])).mapM methodInfo =
      some (methods.map (⟨·, [], []⟩)) := mapM_map_eq_some fun method _ => rfl
  have hname : (interfaceElement name properties methods).attr "name" = some name := rfl
  rw [interfaceInfo, hname, methods_interfaceElement, Option.bind_eq_bind, Option.bind_some,
    hinfos]
  rfl

end Members

theorem interfaces_node (o : DBusObject κ) :
    (Element.mk "node" [] o.interfaceElements).childrenNamed "interface" = o.interfaceElements := by
  have hname (iface : String × List (DBusProperty κ)) : (interfaceElement iface.1 iface.2
      ((o.methodCalls iface.1).map DBusMethodCall.method)).name = "interface" := rfl
  exact filter_named "interface" hname o.interfaces.toList

/-- What GDBus finds in the document of an object: its interfaces with the methods that have
handlers, and no argument of any of them. -/
theorem interfaces_introspectionXml (o : DBusObject κ) :
    interfaces o.generateIntrospectionXml = some (o.interfaces.toList.map fun iface =>
      ⟨iface.1, (o.methodCalls iface.1).map fun call => ⟨call.method, [], []⟩⟩) := by
  have hinfos : o.interfaceElements.mapM interfaceInfo =
      some (o.interfaces.toList.map fun iface =>
        ⟨iface.1, (o.methodCalls iface.1).map fun call => ⟨call.method, [], []⟩⟩) := by
    apply mapM_map_eq_some
    intro iface _
    rw [interfaceInfo_interfaceElement, List.map_map]
    rfl
  rw [interfaces, o.read_introspectionXml, Option.bind_eq_bind, Option.bind_some]
  exact (congrArg (List.mapM interfaceInfo) (interfaces_node o)).trans hinfos

theorem interfaceNames_introspectionXml (o : DBusObject κ) :
    interfaceNames o.generateIntrospectionXml = some o.interfaces.keys := by
  rw [interfaceNames, interfaces_introspectionXml, Option.map_some, List.map_map,
    ← Std.TreeMap.map_fst_toList_eq_keys]
  rfl

end Introspection
end Ggk
