import BluetoothLE.DBus.Introspection
import BluetoothLE.Lib.Machine
import Mathlib.Data.List.Induction

namespace Ggk
open Lib Lib.Xml
set_option autoImplicit true

namespace Introspection

/-- What a document says about a property. -/
structure PropertyInfo where
  name : String
  signature : String
  readable : Bool
  writable : Bool
  emitsChangedSignal : Bool
  deriving DecidableEq, Repr

/-- What a document says about an interface. -/
structure Description where
  interface : String
  properties : List PropertyInfo
  methods : List String
  deriving DecidableEq, Repr

def accessInfo (access : String) : Option (Bool × Bool) :=
  if access = "readwrite" then some (true, true)
  else if access = "read" then some (true, false)
  else if access = "write" then some (false, true)
  else none

def emitsChangedSignal (e : Element) : Bool :=
  (e.childrenNamed "annotation").any fun annotation =>
    annotation.hasOnly ["name", "value"] [] &&
      annotation.value "name" == some "org.freedesktop.DBus.Property.EmitsChangedSignal" &&
        annotation.value "value" == some "true"

def propertyInfo (e : Element) : Option PropertyInfo :=
  if !e.hasOnly ["name", "type", "access"] ["annotation"] then none
  else do
    let name ← e.value "name"
    let signature ← e.value "type"
    let access ← (e.value "access").bind accessInfo
    return ⟨name, signature, access.1, access.2, emitsChangedSignal e⟩

def methodName (e : Element) : Option String :=
  if !e.hasOnly ["name"] ["arg", "annotation"] then none else e.value "name"

def description (e : Element) : Option Description :=
  if !e.hasOnly ["name"] ["property", "method", "signal", "annotation"] then none
  else do
    let interface ← e.value "name"
    let properties ← (e.childrenNamed "property").mapM propertyInfo
    let methods ← (e.childrenNamed "method").mapM methodName
    return ⟨interface, properties, methods⟩

/-- A document is read as a whole. Anything in it that does not belong there spoils it. -/
def descriptions (xml : String) : Option (List Description) := do
  let elements ← Xml.read xml
  match elements.filter (·.name != "?xml") with
  | [node] =>
    if !(node.name == "node" && node.hasOnly [] ["interface"]) then none
    else (node.childrenNamed "interface").mapM description
  | _ => none

def PropertyInfo.of (property : DBusProperty κ) : PropertyInfo :=
  ⟨property.name, property.signature, property.readable, property.writable,
    property.emitsChangedSignal⟩

end Introspection

/-- A property that can be said in a document. -/
structure DBusProperty.Expressible (property : DBusProperty κ) : Prop where
  name : Plain property.name
  signature : Plain property.signature
  accessible : property.readable = true ∨ property.writable = true

namespace Introspection
open DBusXml

theorem value_eq {e : Element} (h : e.attr key = some v) (hv : Plain v) :
    e.value key = some v := by
  rw [Element.value, h, Option.bind_some, normalize_plain hv]

theorem plain_access (property : DBusProperty κ) : Plain (access property) := by
  rw [access]
  split_ifs <;> simp [Plain]

theorem accessInfo_access {property : DBusProperty κ}
    (h : property.readable = true ∨ property.writable = true) :
    accessInfo (access property) = some (property.readable, property.writable) := by
  rw [access]
  cases hr : property.readable with
  | true =>
    cases property.writable with
    | true => rfl
    | false => rfl
  | false =>
    rw [h.resolve_left (by rw [hr]; exact Bool.false_ne_true)]
    rfl

theorem emitsChangedSignal_propertyElement (property : DBusProperty κ) :
    emitsChangedSignal (propertyElement property) = property.emitsChangedSignal := by
  rw [propertyElement]
  cases property.emitsChangedSignal with
  | true =>
    have hname : Plain "org.freedesktop.DBus.Property.EmitsChangedSignal" := by simp [Plain]
    have hvalue : Plain "true" := by simp [Plain]
    simp [emitsChangedSignal, Element.childrenNamed, Element.name, Element.hasOnly, Element.value,
      Element.attr, List.lookup_cons, normalize_plain hname, normalize_plain hvalue]
  | false => rfl

theorem propertyInfo_propertyElement {property : DBusProperty κ} (h : property.Expressible) :
    propertyInfo (propertyElement property) = some (PropertyInfo.of property) := by
  have honly : (propertyElement property).hasOnly ["name", "type", "access"] ["annotation"] =
      true := by
    rw [propertyElement]
    cases property.emitsChangedSignal with
    | true => rfl
    | false => rfl
  have hname : (propertyElement property).value "name" = some property.name :=
    value_eq rfl h.name
  have htype : (propertyElement property).value "type" = some property.signature :=
    value_eq rfl h.signature
  have haccess : (propertyElement property).value "access" = some (access property) :=
    value_eq rfl (plain_access property)
  rw [propertyInfo, honly, hname, htype, haccess]
  simp only [Option.bind_some, accessInfo_access h.accessible, Option.bind_eq_bind,
    emitsChangedSignal_propertyElement]
  rfl

theorem methodName_methodElement (h : Plain method) :
    methodName (methodElement method [] []) = some method := by
  have hname : (methodElement method [] []).value "name" = some method := value_eq rfl h
  rw [methodName, hname]
  rfl

theorem description_interfaceElement {properties : List (DBusProperty κ)}
    (hname : Plain name) (hproperties : ∀ property ∈ properties, property.Expressible)
    (hmethods : ∀ method ∈ methods, Plain method) :
    description (interfaceElement name properties methods) =
      some ⟨name, properties.map PropertyInfo.of, methods⟩ := by
  have honly : (interfaceElement name properties methods).hasOnly ["name"]
      ["property", "method", "signal", "annotation"] = true := by
    have hmembers : (properties.map propertyElement ++ methods.map (methodElement · [] [])).all
        (["property", "method", "signal", "annotation"].contains ·.name) = true := by
      rw [List.all_append, List.all_map, List.all_map, Bool.and_eq_true, List.all_eq_true,
        List.all_eq_true]
      exact ⟨fun _ _ => rfl, fun _ _ => rfl⟩
    rw [interfaceElement, Element.hasOnly, hmembers]
    rfl
  have hvalue : (interfaceElement name properties methods).value "name" = some name :=
    value_eq rfl hname
  have hinfos : (properties.map propertyElement).mapM propertyInfo =
      some (properties.map PropertyInfo.of) :=
    mapM_map_eq_some fun property hp => propertyInfo_propertyElement (hproperties property hp)
  have hnames : (methods.map (methodElement · [] [])).mapM methodName = some (methods.map id) :=
    mapM_map_eq_some fun method hm => methodName_methodElement (hmethods method hm)
  rw [description, honly, hvalue, properties_interfaceElement, methods_interfaceElement, hinfos,
    hnames, List.map_id]
  rfl

end Introspection

namespace DBusObject
open Introspection DBusXml

/-- What the tables of an object say, in the order of the interfaces' names. -/
def descriptions (o : DBusObject κ) : List Description :=
  o.interfaces.toList.map fun iface =>
    ⟨iface.1, iface.2.map PropertyInfo.of, (o.methodCalls iface.1).map DBusMethodCall.method⟩

/-- The names in the tables can be said in a document. -/
structure Expressible (o : DBusObject κ) : Prop where
  interface : ∀ iface ∈ o.interfaces.toList, Plain iface.1
  property : ∀ iface ∈ o.interfaces.toList, ∀ property ∈ iface.2, property.Expressible
  method : ∀ interface, ∀ call ∈ o.methodCalls interface, Plain call.method

theorem descriptions_introspectionXml {o : DBusObject κ} (h : o.Expressible) :
    Introspection.descriptions o.generateIntrospectionXml = some o.descriptions := by
  have honly : (Element.mk "node" [] o.interfaceElements).hasOnly [] ["interface"] = true := by
    have hmembers : o.interfaceElements.all (["interface"].contains ·.name) = true := by
      rw [interfaceElements, List.all_map, List.all_eq_true]
      exact fun _ _ => rfl
    rw [Element.hasOnly, hmembers]
    rfl
  have hdescriptions : o.interfaceElements.mapM description = some o.descriptions := by
    apply mapM_map_eq_some
    intro iface hi
    apply description_interfaceElement (h.interface iface hi) (h.property iface hi)
    intro method hm
    obtain ⟨call, hcall, rfl⟩ := List.mem_map.1 hm
    exact h.method iface.1 call hcall
  have hroot : [prologElement, .mk "node" [] o.interfaceElements].filter (·.name != "?xml") =
      [.mk "node" [] o.interfaceElements] := rfl
  rw [Introspection.descriptions, o.read_introspectionXml, Option.bind_eq_bind, Option.bind_some,
    hroot]
  simp only [honly, interfaces_node, hdescriptions]
  rfl

end DBusObject

/-- The calls that fill the tables of an object. -/
inductive TableCall (κ : Type u)
  | addInterface (interface : String) (properties : List (DBusProperty κ))
  | addMethod (interface method : String) (handler : κ)

namespace TableCall

def perform (o : DBusObject κ) : TableCall κ → Bool × DBusObject κ
  | addInterface interface properties => o.addInterface interface properties
  | addMethod interface method handler => o.addMethod interface method handler

def Expressible : TableCall κ → Prop
  | addInterface interface properties =>
    Plain interface ∧ ∀ property ∈ properties, property.Expressible
  | addMethod interface method _ => Plain interface ∧ Plain method

/-- The properties that an interface was given last, if any call made it. The calls are newest
first. -/
def lastSet (interface : String) : List (TableCall κ) → Option (List (DBusProperty κ))
  | [] => none
  | addInterface interface' properties :: earlier =>
    if interface' = interface then some properties else lastSet interface earlier
  | addMethod interface' _ _ :: earlier =>
    if interface' = interface then some ((lastSet interface earlier).getD [])
    else lastSet interface earlier

theorem lastSet_expressible {done : List (TableCall κ)} (h : ∀ call ∈ done, call.Expressible)
    (hl : lastSet interface done = some properties) :
    Plain interface ∧ ∀ property ∈ properties, property.Expressible := by
  induction done generalizing properties with
  | nil => cases hl
  | cons call earlier ih =>
    have hcall := h call List.mem_cons_self
    have hearlier := fun c hc => h c (List.mem_cons_of_mem call hc)
    cases call with
    | addInterface interface' properties' =>
      rw [lastSet] at hl
      split_ifs at hl with hi
      · cases hl
        cases hi
        exact hcall
      · exact ih hearlier hl
    | addMethod interface' method handler =>
      rw [lastSet] at hl
      split_ifs at hl with hi
      · cases hi
        cases hearlierSet : lastSet interface earlier with
        | none =>
          rw [hearlierSet] at hl
          cases hl
          exact ⟨hcall.1, by simp⟩
        | some properties' =>
          rw [hearlierSet] at hl
          cases hl
          exact ih hearlier hearlierSet
      · exact ih hearlier hl

end TableCall

namespace DBusObject
open Introspection

def tables : Machine (DBusObject κ) (TableCall κ) Bool where
  step o call := call.perform o

/-- What the tables hold after calls, newest first. -/
structure Filled (done : List (TableCall κ)) (o : DBusObject κ) : Prop where
  unregistered : o.registered = false
  interface : ∀ interface, o.interfaces[interface]? = TableCall.lastSet interface done
  method : ∀ interface method, (∃ call ∈ o.methodCalls interface, call.method = method) ↔
    ∃ handler, .addMethod interface method handler ∈ done

theorem mem_methodCalls {o : DBusObject κ} : (∃ call ∈ o.methodCalls interface,
    call.method = method) ↔ ∃ methods, o.methodHandlers[interface]? = some methods ∧
      method ∈ methods := by
  rw [methodCalls]
  cases o.methodHandlers[interface]? with
  | none => simp
  | some methods => simp [Std.TreeMap.mem_keys]

theorem filled_constructed (path : DBusObjectPath) :
    Filled ([] : List (TableCall κ)) (constructed path) where
  unregistered := rfl
  interface := fun _ => by simp [constructed, TableCall.lastSet]
  method := fun _ _ => by simp [mem_methodCalls, constructed]

/-- The interface of a method is made if it does not exist, and is left alone if it does. -/
theorem getElem?_made (interfaces : Std.TreeMap String (List (DBusProperty κ)))
    (interface i : String) :
    (if interfaces.contains interface then interfaces else interfaces.insert interface [])[i]? =
      if interface = i then some (interfaces[interface]?.getD []) else interfaces[i]? := by
  cases hc : interfaces.contains interface with
  | true =>
    rw [if_pos rfl]
    split_ifs with hi
    · cases hi
      obtain ⟨properties, hp⟩ := Option.isSome_iff_exists.1
        (Std.TreeMap.isSome_getElem?_eq_contains.trans hc)
      rw [hp, Option.getD_some]
    · rfl
  | false =>
    have hn := Std.TreeMap.getElem?_eq_none_of_contains_eq_false hc
    rw [if_neg Bool.false_ne_true, Std.TreeMap.getElem?_insert, hn]
    simp only [Std.LawfulEqCmp.compare_eq_iff_eq, Option.getD_none]

/-- A method that is added is listed beside those that its interface has already. -/
theorem mem_methodCalls_insert {o o' : DBusObject κ}
    (h : o'.methodHandlers = o.methodHandlers.insert interface
      (((o.methodHandlers[interface]?).getD ∅).insert method handler)) :
    (∃ call ∈ o'.methodCalls i, call.method = m) ↔
      (interface = i ∧ method = m) ∨ ∃ call ∈ o.methodCalls i, call.method = m := by
  rw [mem_methodCalls, mem_methodCalls, h, Std.TreeMap.getElem?_insert]
  by_cases hi : interface = i
  · cases hi
    cases o.methodHandlers[interface]? with
    | none => simp
    | some methods => simp [Std.TreeMap.mem_insert]
  · simp [hi]

theorem Filled.addInterface {o : DBusObject κ} (h : Filled done o) (interface : String)
    (properties : List (DBusProperty κ)) :
    Filled (.addInterface interface properties :: done)
      (o.addInterface interface properties).2 := by
  have hadd : o.addInterface interface properties =
      (true, { o with interfaces := o.interfaces.insert interface properties }) := by
    simp [DBusObject.addInterface, h.unregistered]
  rw [hadd]
  constructor
  · exact h.unregistered
  · intro i
    simp only [Std.TreeMap.getElem?_insert, TableCall.lastSet, h.interface,
      Std.LawfulEqCmp.compare_eq_iff_eq]
  · intro i m
    have hm := h.method i m
    rw [mem_methodCalls] at hm ⊢
    simpa using hm

theorem Filled.addMethod {o : DBusObject κ} (h : Filled done o) (interface method : String)
    (handler : κ) :
    Filled (.addMethod interface method handler :: done)
      (o.addMethod interface method handler).2 := by
  have hadd : o.addMethod interface method handler = (true, { o with
      interfaces :=
        if o.interfaces.contains interface then o.interfaces
        else o.interfaces.insert interface []
      methodHandlers := o.methodHandlers.insert interface
        (((o.methodHandlers[interface]?).getD ∅).insert method handler) }) := by
    simp [DBusObject.addMethod, h.unregistered]
  rw [hadd]
  constructor
  · exact h.unregistered
  · intro i
    rw [getElem?_made, TableCall.lastSet, h.interface, h.interface]
    split_ifs with hi
    · rw [hi]
    · rfl
  · intro i m
    have hlisted : (∃ handler', TableCall.addMethod i m handler' ∈
          TableCall.addMethod interface method handler :: done) ↔
        (interface = i ∧ method = m) ∨ ∃ handler', .addMethod i m handler' ∈ done := by
      simp only [List.mem_cons, TableCall.addMethod.injEq, exists_or, exists_and_left, exists_eq,
        and_true]
      exact or_congr_left (and_congr eq_comm eq_comm)
    rw [hlisted, ← h.method, mem_methodCalls_insert (o := o) rfl]

theorem Filled.step {o : DBusObject κ} (h : Filled done o) (call : TableCall κ) :
    Filled (call :: done) (tables.next o call) := by
  cases call with
  | addInterface interface properties => exact h.addInterface interface properties
  | addMethod interface method handler => exact h.addMethod interface method handler

theorem filled_run (path : DBusObjectPath) (calls : List (TableCall κ)) :
    Filled calls.reverse (tables.run (constructed path) calls) := by
  induction calls using List.reverseRecOn with
  | nil => exact filled_constructed path
  | append_singleton calls call ih =>
    rw [Machine.run_append, List.reverse_append]
    exact ih.step call

/-- What a document says, compared with the calls that filled the tables, newest first. -/
structure Describes (done : List (TableCall κ)) (o : DBusObject κ) (ds : List Description) :
    Prop where
  keys : ds.map Description.interface = o.interfaces.keys
  interface : ∀ interface, (∃ d ∈ ds, d.interface = interface) ↔
    (TableCall.lastSet interface done).isSome = true
  properties : ∀ d ∈ ds, o.interfaces[d.interface]? = TableCall.lastSet d.interface done ∧
    some d.properties = (TableCall.lastSet d.interface done).map (List.map PropertyInfo.of)
  methods : ∀ d ∈ ds, d.methods = ((o.methodHandlers[d.interface]?).getD ∅).keys ∧
    ∀ method, method ∈ d.methods ↔ ∃ handler, .addMethod d.interface method handler ∈ done
  complete : ∀ interface method handler, .addMethod interface method handler ∈ done →
    ∃ d ∈ ds, d.interface = interface ∧ method ∈ d.methods

theorem Filled.mem_toList {interface : String} {o : DBusObject κ} (h : Filled done o) :
    (interface, properties) ∈ o.interfaces.toList ↔
      TableCall.lastSet interface done = some properties := by
  rw [Std.TreeMap.mem_toList_iff_getElem?_eq_some, h.interface]

theorem Filled.expressible {o : DBusObject κ} (h : Filled done o)
    (hcalls : ∀ call ∈ done, call.Expressible) : o.Expressible where
  interface := fun _ hi => (TableCall.lastSet_expressible hcalls (h.mem_toList.1 hi)).1
  property := fun _ hi => (TableCall.lastSet_expressible hcalls (h.mem_toList.1 hi)).2
  method := by
    intro interface call hcall
    obtain ⟨handler, hmem⟩ := (h.method interface call.method).1 ⟨call, hcall, rfl⟩
    exact (hcalls _ hmem).2

theorem methodNames_eq (o : DBusObject κ) (interface : String) :
    (o.methodCalls interface).map DBusMethodCall.method =
      ((o.methodHandlers[interface]?).getD ∅).keys := by
  rw [methodCalls]
  cases o.methodHandlers[interface]? with
  | none => rfl
  | some methods => simp [List.map_map, Function.comp_def]

theorem lastSet_addMethod {done : List (TableCall κ)}
    (h : .addMethod interface method handler ∈ done) :
    (TableCall.lastSet interface done).isSome = true := by
  induction done with
  | nil => cases h
  | cons call earlier ih =>
    cases call with
    | addInterface interface' properties =>
      rw [TableCall.lastSet]
      split_ifs with hi
      · rfl
      · exact ih ((List.mem_cons.1 h).resolve_left (by simp))
    | addMethod interface' method' handler' =>
      rw [TableCall.lastSet]
      split_ifs with hi
      · rfl
      · apply ih
        apply (List.mem_cons.1 h).resolve_left
        rintro ⟨rfl⟩
        exact hi rfl

theorem Filled.describes {o : DBusObject κ} (h : Filled done o) :
    Describes done o o.descriptions := by
  have hmem {d : Description} (hd : d ∈ o.descriptions) : ∃ properties,
      TableCall.lastSet d.interface done = some properties ∧
      d.properties = properties.map PropertyInfo.of ∧
      d.methods = (o.methodCalls d.interface).map DBusMethodCall.method := by
    obtain ⟨iface, hi, rfl⟩ := List.mem_map.1 hd
    exact ⟨iface.2, h.mem_toList.1 hi, rfl, rfl⟩
  have hmethod {d : Description} (hd : d ∈ o.descriptions) (method : String) :
      method ∈ d.methods ↔ ∃ handler, .addMethod d.interface method handler ∈ done := by
    obtain ⟨properties, _, _, hm⟩ := hmem hd
    rw [hm, ← h.method, List.mem_map]
  have hexists {interface : String} (hs : (TableCall.lastSet interface done).isSome = true) :
      ∃ d ∈ o.descriptions, d.interface = interface := by
    obtain ⟨properties, hp⟩ := Option.isSome_iff_exists.1 hs
    exact ⟨_, List.mem_map_of_mem (h.mem_toList.2 hp), rfl⟩
  constructor
  · rw [descriptions, List.map_map, ← Std.TreeMap.map_fst_toList_eq_keys]
    rfl
  · intro interface
    apply Iff.intro _ hexists
    rintro ⟨d, hd, rfl⟩
    obtain ⟨properties, hp, _⟩ := hmem hd
    rw [hp]
    rfl
  · intro d hd
    obtain ⟨properties, hp, hproperties, _⟩ := hmem hd
    rw [hp, hproperties]
    exact ⟨(h.interface d.interface).trans hp, rfl⟩
  · intro d hd
    obtain ⟨_, _, _, hm⟩ := hmem hd
    exact ⟨hm.trans (methodNames_eq o d.interface), hmethod hd⟩
  · intro interface method handler hcall
    obtain ⟨d, hd, rfl⟩ := hexists (lastSet_addMethod hcall)
    exact ⟨d, hd, rfl, (hmethod hd method).2 ⟨handler, hcall⟩⟩

/-- After any calls the document of an object, read back, says what its tables hold and no
more. -/
theorem descriptions_run (path : DBusObjectPath) (calls : List (TableCall κ))
    (h : ∀ call ∈ calls, call.Expressible) :
    ∃ ds, Introspection.descriptions
        (tables.run (constructed path) calls).generateIntrospectionXml = some ds ∧
      Describes calls.reverse (tables.run (constructed path) calls) ds := by
  have hfilled := filled_run path calls
  have hexpressible := hfilled.expressible fun call hc => h call (List.mem_reverse.1 hc)
  exact ⟨_, descriptions_introspectionXml hexpressible, hfilled.describes⟩

def quotedCalls : List (TableCall Nat) :=
  [.addMethod "a<b" "Read&Write" 0, .addInterface "a<b" [⟨"x'/>", "ay", true, false, true, none,
    none⟩]]

theorem descriptions_run_quoted : ∃ ds, Introspection.descriptions
    (tables.run (constructed ⟨"/app"⟩) quotedCalls).generateIntrospectionXml = some ds ∧
      Describes quotedCalls.reverse (tables.run (constructed ⟨"/app"⟩) quotedCalls) ds := by
  apply descriptions_run
  intro call hcall
  have hplain : Plain "a<b" ∧ Plain "Read&Write" ∧ Plain "x'/>" ∧ Plain "ay" := by simp [Plain]
  obtain ⟨hinterface, hmethod, hproperty, htype⟩ := hplain
  rcases List.mem_cons.1 hcall with rfl | hcall
  · exact ⟨hinterface, hmethod⟩
  · cases List.mem_singleton.1 hcall
    exact ⟨hinterface, fun _ hp => List.mem_singleton.1 hp ▸ ⟨hproperty, htype, .inl rfl⟩⟩

end DBusObject
end Ggk
