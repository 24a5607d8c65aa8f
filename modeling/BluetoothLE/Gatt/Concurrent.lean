import BluetoothLE.Gatt.TreeThreads

namespace Ggk
open Lib
set_option autoImplicit true

/-- What the threads may call, of the services and of each map of children. -/
structure TreeCalls where
  onServices : ServicesCall → Prop
  onChildren : ParentPtr → NumberingCall String DBusObjectPath → Prop

/-- How deep in the tree a mutex is. One that is held is above the next one that is taken. -/
def TreeMutex.depth : TreeMutex → Nat
  | .servicesMutex | .objectMutex .application => 0
  | .objectMutex (.service _) => 1
  | .childrenMutex (.service _) => 2
  | .objectMutex (.characteristic _ _) => 3
  | .childrenMutex (.characteristic _ _) => 4
  | .objectMutex (.descriptor _ _ _) => 5
  | .notifyMutex _ => 6

def TreeCalls.between (E : TreeCalls) (uuids : Nat → String) : (m : TreeMutex) → TreeCell m → Prop
  | .servicesMutex, b => (serviceList uuids).Replays (fun _ => E.onServices) [] b.1 b.2
  | .childrenMutex parent, b =>
    (numbering String DBusObjectPath).Replays (fun _ => E.onChildren parent) ∅ b.1 b.2
  | .objectMutex _, _ | .notifyMutex _, _ => True

/-- The getters of an object are its own. -/
def Owns (this : ObjectPtr) (o : DBusObject Closure) : Prop :=
  ∀ (interface : String) properties, o.interfaces[interface]? = some properties →
    ∀ prop ∈ properties, ∀ getter, prop.getter = some getter → getter.this = this

/-- An object has its own getters and one of its paths. -/
structure Proper (paths : ObjectPtr → DBusObjectPath) (this : ObjectPtr) (o : DBusObject Closure) :
    Prop where
  owns : Owns this o
  path : ∀ parent : ParentPtr, parent.this = this → parent.HasPath paths o.path

def TreeCalls.always (paths : ObjectPtr → DBusObjectPath) : (m : TreeMutex) → TreeCell m → Prop
  | .objectMutex this, o => Proper paths this o
  | .servicesMutex, _ | .childrenMutex _, _ | .notifyMutex _, _ => True

def TreeCalls.discipline (E : TreeCalls) (uuids : Nat → String)
    (paths : ObjectPtr → DBusObjectPath) : Program.Discipline TreeMutex TreeCell :=
  ⟨always paths, E.between uuids, fun m m' => m.depth < m'.depth⟩

theorem DBusObject.addInterface_path (o : DBusObject κ) (interface : String)
    (properties : List (DBusProperty κ)) : (o.addInterface interface properties).2.path = o.path := by
  rw [addInterface]
  split_ifs <;> rfl

theorem DBusObject.addMethod_path (o : DBusObject κ) (interface method : String) (handler : κ) :
    (o.addMethod interface method handler).2.path = o.path := by
  rw [addMethod]
  split_ifs <;> rfl

theorem owns_constructed (this : ObjectPtr) (path : DBusObjectPath) :
    Owns this (.constructed path) := by
  intro interface properties h
  cases (Std.TreeMap.getElem?_emptyc (a := interface)).symm.trans h

theorem ObjectPtr.properties_owned (this : ObjectPtr) :
    ∀ prop ∈ this.properties, ∀ getter, prop.getter = some getter → getter.this = this := by
  cases this <;> simp [ObjectPtr.properties, DBusProperty.readOnly]

theorem Owns.addInterface (h : Owns this o) :
    Owns this (o.addInterface this.interface this.properties).2 := by
  rw [DBusObject.addInterface]
  split_ifs
  · exact h
  · intro interface properties hp
    simp only [getElem?_insert_string] at hp
    split_ifs at hp
    · cases hp
      exact this.properties_owned
    · exact h interface properties hp

theorem Owns.addMethod (h : Owns this o) (interface method : String) (handler : Closure) :
    Owns this (o.addMethod interface method handler).2 := by
  rw [DBusObject.addMethod]
  split_ifs
  · exact h
  · exact h
  · intro interface' properties hp
    simp only [getElem?_insert_string] at hp
    split_ifs at hp
    · cases hp
      exact List.forall_mem_nil _
    · exact h interface' properties hp

theorem Proper.addInterface (h : Proper paths this o) :
    Proper paths this (o.addInterface this.interface this.properties).2 where
  owns := h.owns.addInterface
  path := by
    rw [DBusObject.addInterface_path]
    exact h.path

theorem Proper.addMethod (h : Proper paths this o) (interface method : String)
    (handler : Closure) : Proper paths this (o.addMethod interface method handler).2 where
  owns := h.owns.addMethod interface method handler
  path := by
    rw [DBusObject.addMethod_path]
    exact h.path

namespace TreeThread

/-- All mutexes that are held are above this one. -/
def Below (held : Program.Held TreeCell) (m : TreeMutex) : Prop :=
  ∀ m', held m' ≠ none → m'.depth < m.depth

theorem Below.free (h : Below held m) : held m = none := by
  by_contra hm
  exact Nat.lt_irrefl _ (h m hm)

theorem below_nothing (m : TreeMutex) : Below (.nothing TreeCell) m :=
  fun _ h => absurd rfl h

theorem Below.update (h : Below held m') (hm : m.depth < m'.depth) (b : Option (TreeCell m)) :
    Below (Function.update held m b) m' := by
  intro n hn
  by_cases he : n = m
  · rw [he]
    exact hm
  · rw [Function.update_of_ne he] at hn
    exact h n hn

section Rules
variable {E : TreeCalls} {uuids : Nat → String} {paths : ObjectPtr → DBusObjectPath}
variable {held : Program.Held TreeCell}

abbrev Spares (E : TreeCalls) (uuids : Nat → String) (paths : ObjectPtr → DBusObjectPath)
    (held : Program.Held TreeCell) (x : TreeThread α) : Prop :=
  Program.Spares (E.discipline uuids paths) held x

/-- A block on data of which nothing else is asked while its mutex is free. -/
theorem spares_access (h : Below held m) (hfree : ∀ b, E.between uuids m b)
    {f : TreeCell m → TreeCell m}
    (hf : ∀ b, TreeCalls.always paths m b → TreeCalls.always paths m (f b))
    (r : TreeCell m → α) : Spares E uuids paths held (withLock m (access m f r)) := by
  apply Program.wp_block (d := E.discipline uuids paths) h.free h
  intro b ha _
  apply Program.wp_access (Function.update_self ..) (hf b ha)
  exact ⟨_, Function.update_idem .., hfree _, rfl⟩

theorem spares_discard {x : TreeThread α} (h : Spares E uuids paths held x) :
    Spares E uuids paths held (discard x) :=
  Program.Spares.bind h fun _ => .done _

theorem spares_addInterface (h : Below held (.objectMutex this)) :
    Spares E uuids paths held (addInterface this) := by
  apply spares_access h fun _ => trivial
  exact fun _ ho => Proper.addInterface ho

theorem spares_addMethods (h : Below held (.objectMutex this))
    (methods : List (String × Closure)) : Spares E uuids paths held (addMethods this methods) := by
  induction methods with
  | nil => exact .done _
  | cons m methods ih =>
    have hadd : Spares E uuids paths held (withLock (.objectMutex this)
        (access (.objectMutex this)
          (fun (o : DBusObject Closure) => (o.addMethod this.interface m.1 m.2).2)
          fun (o : DBusObject Closure) => (o.addMethod this.interface m.1 m.2).1)) := by
      apply spares_access h fun _ => trivial
      exact fun _ ho => Proper.addMethod ho _ _ _
    apply hadd.bind
    intro added
    cases added with
    | false => exact .done _
    | true => exact ih

theorem spares_setupDBusInterfaces (h : Below held (.objectMutex this)) (registers : Bool) :
    Spares E uuids paths held (setupDBusInterfaces this registers) := by
  apply (spares_addInterface h).bind
  intro added
  cases added with
  | false => exact .done _
  | true =>
    apply (spares_addMethods h this.methods).bind
    intro added
    cases added with
    | false => exact .done _
    | true =>
      have hregister : Spares E uuids paths held (registerObject this registers) := by
        apply spares_access h fun _ => trivial
        exact fun _ ho => ⟨ho.owns, ho.path⟩
      exact hregister

theorem spares_destroy (h : Below held (.objectMutex this)) :
    Spares E uuids paths held (destroy this) := by
  apply spares_access h fun _ => trivial
  exact fun _ ho => ⟨ho.owns, ho.path⟩

theorem spares_isNotifying (h : Below held (.notifyMutex this)) :
    Spares E uuids paths held (isNotifying this) := by
  apply Program.Spares.locked (d := E.discipline uuids paths) h.free h
  exact fun b _ _ => Program.Spares.load (Function.update_self ..) trivial

theorem spares_childPaths (h : Below held (.childrenMutex parent)) :
    Spares E uuids paths held (childPaths parent) := by
  apply Program.Spares.locked (d := E.discipline uuids paths) h.free h
  intro b ha _
  apply Program.wp_load_bind (Function.update_self ..) ha
  apply Program.Spares.mapM
  exact fun uuid _ => .peek

/-- The rest of a block on data with a record, when the data is `b`. -/
abbrev Answers (E : TreeCalls) (uuids : Nat → String) (paths : ObjectPtr → DBusObjectPath)
    (held : Program.Held TreeCell) (m : TreeMutex) (b : TreeCell m) (x : TreeThread α) : Prop :=
  Program.wp (E.discipline uuids paths) (fun held' _ => ∃ b',
    held' = Function.update held m (some b') ∧ E.between uuids m b' ∧ held = held) x
    (Function.update held m (some b))

theorem answers_done {b : TreeCell m} (hb : E.between uuids m b) (a : α) :
    Answers E uuids paths held m b (.done a) := Program.wp_done ⟨b, rfl, hb, rfl⟩

theorem answers_load {b : TreeCell m} {r : TreeCell m → α} {k : α → TreeThread γ}
    (ha : TreeCalls.always paths m b) (h : Answers E uuids paths held m b (k (r b))) :
    Answers E uuids paths held m b ((load m r).bind k) :=
  Program.wp_load_bind (Function.update_self ..) ha h

theorem answers_access {b : TreeCell m} {f : TreeCell m → TreeCell m} {r : TreeCell m → α}
    {k : α → TreeThread γ} (ha : TreeCalls.always paths m (f b))
    (h : Answers E uuids paths held m (f b) (k (r b))) :
    Answers E uuids paths held m b ((access m f r).bind k) := by
  apply Program.wp_bind.2
  apply Program.wp_access (Function.update_self ..) ha
  rw [Function.update_idem]
  exact h

section Services
variable {b : TreeCell .servicesMutex}

theorem answers_services {r : List Nat → α} {k : α → TreeThread γ}
    (h : Answers E uuids paths held .servicesMutex b (k (r (Prod.fst b)))) :
    Answers E uuids paths held .servicesMutex b ((services r).bind k) :=
  answers_load (m := .servicesMutex) trivial h

/-- The loop finds the first service with the UUID text. -/
theorem answers_loop {uuid : String} {k : Option Nat → TreeThread γ} (i n : Nat)
    (hn : n = (Prod.fst b).length - i)
    (h : Answers E uuids paths held .servicesMutex b
      (k ((((Prod.fst b).drop i).findIdx? fun j => uuids j == uuid).map (· + i)))) :
    Answers E uuids paths held .servicesMutex b ((loop uuids uuid i n).bind k) := by
  induction n generalizing i with
  | zero =>
    rw [List.drop_eq_nil_of_le (by omega)] at h
    exact h
  | succ n ih =>
    have hi : i < (Prod.fst b).length := by omega
    rw [List.drop_eq_getElem_cons hi, List.findIdx?_cons] at h
    change Answers E uuids paths held .servicesMutex b (Program.bind (Program.bind _ _) k)
    rw [Program.bind_assoc]
    apply answers_services
    rw [List.getElem?_eq_getElem hi]
    dsimp only
    split_ifs at h ⊢ with hu
    · rw [Option.map_some, Nat.zero_add] at h
      exact h
    · apply ih (i + 1) (by omega)
      simpa [Option.map_map, Function.comp_def, Nat.add_right_comm _ 1 i, Nat.add_assoc] using h

theorem answers_search {uuid : String} {k : Option Nat → TreeThread γ}
    (h : Answers E uuids paths held .servicesMutex b
      (k ((Prod.fst b).findIdx? fun j => uuids j == uuid))) :
    Answers E uuids paths held .servicesMutex b ((search uuids uuid).bind k) := by
  change Answers E uuids paths held .servicesMutex b (Program.bind (Program.bind _ _) k)
  rw [Program.bind_assoc]
  apply answers_services
  apply answers_loop 0 _ rfl
  simpa using h

/-- The record gets what the list of services answers to the call. -/
theorem answers_reply {v : α} (hb : E.between uuids .servicesMutex b) (hE : E.onServices call)
    (hs : ((serviceList uuids).step (Prod.fst b) call) = ([said], after)) :
    Answers E uuids paths held .servicesMutex (after, Prod.snd b)
      ((reply said).bind fun _ => .done v) := by
  apply answers_access (m := .servicesMutex) trivial
  apply answers_done
  have hnext : E.between uuids .servicesMutex ((serviceList uuids).next (Prod.fst b) call,
      Prod.snd b ++ ((serviceList uuids).step (Prod.fst b) call).1) := hb.snoc hE
  rw [Machine.next, hs] at hnext
  exact hnext

theorem spares_addService (h : Below held .servicesMutex)
    (hE : ∀ i, service = some i → E.onServices (.addService i)) :
    Spares E uuids paths held (addService uuids service) := by
  cases service with
  | none => exact .done _
  | some i =>
    apply Program.wp_block (d := E.discipline uuids paths) h.free h
    intro b _ hb
    apply answers_search
    have hany : ((Prod.fst b).findIdx? fun j => uuids j == uuids i).isSome =
      (Prod.fst b).any fun j => uuids j == uuids i := List.findIdx?_isSome
    cases hf : (Prod.fst b).findIdx? fun j => uuids j == uuids i with
    | some k =>
      rw [hf] at hany
      exact answers_reply hb (hE i rfl) (if_pos hany.symm)
    | none =>
      rw [hf] at hany
      apply answers_access (m := .servicesMutex) trivial
      exact answers_reply hb (hE i rfl) (if_neg (by rw [← hany]; exact Bool.false_ne_true))

theorem spares_removeService {uuid : GattUuid} (h : Below held .servicesMutex)
    (hE : E.onServices (.removeService uuid.toString)) :
    Spares E uuids paths held (removeService uuids uuid) := by
  apply Program.wp_block (d := E.discipline uuids paths) h.free h
  intro b _ hb
  apply answers_search
  have hany : ((Prod.fst b).findIdx? fun j => uuids j == uuid.toString).isSome =
    (Prod.fst b).any fun j => uuids j == uuid.toString := List.findIdx?_isSome
  have herase : (Prod.fst b).eraseP (fun j => uuids j == uuid.toString) = _ :=
    List.eraseP_eq_eraseIdx
  have hstep {found after} (hf : (Prod.fst b).any (fun j => uuids j == uuid.toString) = found)
      (ha : (Prod.fst b).eraseP (fun j => uuids j == uuid.toString) = after) :
      (serviceList uuids).step (Prod.fst b) (.removeService uuid.toString) =
        ([.verdict (.removeService uuid.toString) found], after) := by
    rw [← hf, ← ha]
    rfl
  cases hf : (Prod.fst b).findIdx? fun j => uuids j == uuid.toString with
  | some k =>
    rw [hf] at hany herase
    apply answers_access (m := .servicesMutex) trivial
    exact answers_reply hb hE (hstep hany.symm herase)
  | none =>
    rw [hf] at hany herase
    exact answers_reply hb hE (hstep hany.symm herase)

theorem spares_getService {uuid : GattUuid} (h : Below held .servicesMutex)
    (hE : E.onServices (.getService uuid.toString)) :
    Spares E uuids paths held (getService uuids uuid) := by
  apply Program.wp_block (d := E.discipline uuids paths) h.free h
  intro b _ hb
  apply answers_search
  have hfind : (Prod.fst b).find? (fun j => uuids j == uuid.toString) = _ :=
    List.find?_eq_bind_findIdx?_getElem?
  have hstep {found} (hf : (Prod.fst b).find? (fun j => uuids j == uuid.toString) = found) :
      (serviceList uuids).step (Prod.fst b) (.getService uuid.toString) =
        ([.services (.getService uuid.toString) found.toList], Prod.fst b) := by
    rw [← hf]
    rfl
  cases hf : (Prod.fst b).findIdx? fun j => uuids j == uuid.toString with
  | some k =>
    rw [hf] at hfind
    apply answers_services
    exact answers_reply hb hE (hstep hfind)
  | none =>
    rw [hf] at hfind
    exact answers_reply hb hE (hstep hfind)

theorem spares_getServices (h : Below held .servicesMutex) (hE : E.onServices .getServices) :
    Spares E uuids paths held getServices := by
  apply Program.wp_block (d := E.discipline uuids paths) h.free h
  intro b _ hb
  apply answers_services
  exact answers_reply hb hE rfl

end Services

section Children
variable {parent : ParentPtr}
variable {b : Std.TreeMap String DBusObjectPath × List (Answer String DBusObjectPath)}

theorem answers_children {r : Std.TreeMap String DBusObjectPath → α} {k : α → TreeThread γ}
    (h : Answers E uuids paths held (.childrenMutex parent) b (k (r (Prod.fst b)))) :
    Answers E uuids paths held (.childrenMutex parent) b ((children parent r).bind k) :=
  answers_load (m := .childrenMutex parent) trivial h

/-- The record gets what the numbering answers to the call. -/
theorem answers_answer (hb : E.between uuids (.childrenMutex parent) b)
    (hE : E.onChildren parent call)
    (hs : (numbering String DBusObjectPath).step (Prod.fst b) call = ([⟨uuid, child⟩], after)) :
    Answers E uuids paths held (.childrenMutex parent) (after, Prod.snd b)
      (answer parent uuid child) := by
  apply Program.wp_access (Function.update_self ..) trivial
  have hnext : E.between uuids (.childrenMutex parent)
      ((numbering String DBusObjectPath).next (Prod.fst b) call,
        Prod.snd b ++ ((numbering String DBusObjectPath).step (Prod.fst b) call).1) := hb.snoc hE
  rw [Machine.next, hs] at hnext
  exact ⟨_, Function.update_idem .., hnext, rfl⟩

theorem spares_getChild (h : Below held (.childrenMutex parent))
    (hE : E.onChildren parent (.get uuid.toString)) :
    Spares E uuids paths held (getChild parent uuid) := by
  apply Program.wp_block (d := E.discipline uuids paths) h.free h
  intro b _ hb
  apply answers_children
  exact answers_answer hb hE rfl

theorem depth_child (parent : ParentPtr) (uuid : String) :
    (TreeMutex.childrenMutex parent).depth < (TreeMutex.objectMutex (parent.child uuid)).depth := by
  cases parent with
  | service i => exact Nat.lt_succ_self 2
  | characteristic i parent => exact Nat.lt_succ_self 4

theorem proper_constructed (uuid : String) (number : Nat) (hp : parent.HasPath paths path) :
    Proper paths (parent.child uuid) (.constructed (parent.childPath path number)) where
  owns := owns_constructed _ _
  path := by
    intro parent' he
    cases parent with
    | service i =>
      cases parent' with
      | service i' => cases he
      | characteristic i' uuid' =>
        cases he
        obtain rfl : path = paths (.service i) := hp
        exact .inr ⟨number, rfl⟩
    | characteristic i characteristic => cases parent' <;> cases he

/-- What `createChild` asks of the numbering when it finds no child. -/
def creation (parent : ParentPtr) (uuid : String) (path : DBusObjectPath) (admitted : Bool) :
    NumberingCall String DBusObjectPath :=
  .create uuid fun number => if admitted then some (parent.childPath path number) else none

theorem spares_createChild (h : Below held (.childrenMutex parent))
    (hget : E.onChildren parent (.get uuid.toString))
    (hcreate : ∀ path admitted, parent.HasPath paths path →
      E.onChildren parent (creation parent uuid.toString path admitted)) :
    Spares E uuids paths held (createChild parent uuid registers) := by
  rw [createChild]
  split_ifs
  · exact .done _
  · apply Program.wp_block (d := E.discipline uuids paths) h.free h
    intro b _ hb
    have hbelow : Below (Function.update held (.childrenMutex parent) (some b))
        (.objectMutex (parent.child uuid.toString)) := by
      apply Below.update _ (depth_child parent _)
      exact fun m hm => Nat.lt_trans (h m hm) (depth_child parent _)
    apply answers_children
    cases hfind : (Prod.fst b)[uuid.toString]? with
    | some path =>
      exact answers_answer hb hget (by simp [numbering, hfind])
    | none =>
      apply Program.wp_bind.2
      apply Program.wp_peek
      intro o ho
      have hpath := ho.path parent rfl
      apply answers_children
      apply (spares_access hbelow (fun _ => trivial)
        (fun _ _ => proper_constructed _ _ hpath) _).wp_bind
      intro _
      apply (spares_setupDBusInterfaces hbelow registers).wp_bind
      intro admitted
      cases admitted with
      | false =>
        apply (spares_destroy hbelow).wp_bind
        intro _
        exact answers_answer hb (hcreate _ false hpath) (by simp [numbering, creation, hfind])
      | true =>
        apply answers_access (m := .childrenMutex parent) trivial
        exact answers_answer hb (hcreate _ true hpath) (by simp [numbering, creation, hfind])

end Children

/-- The mutexes that the getters of an object take are below its own. -/
theorem spares_callGetter {closure : Closure} (h : ∀ m, held m ≠ none →
    m = .objectMutex closure.this) : Spares E uuids paths held (callGetter closure) := by
  have hbelow {m : TreeMutex} (hm : (TreeMutex.objectMutex closure.this).depth < m.depth) :
      Below held m := by
    intro m' hm'
    rw [h m' hm']
    exact hm
  rw [callGetter]
  split
  · next ht _ =>
    apply spares_discard (spares_childPaths (hbelow _))
    rw [ht]
    exact Nat.lt_succ_self 1
  · next ht _ =>
    apply spares_discard (spares_childPaths (hbelow _))
    rw [ht]
    exact Nat.lt_succ_self 3
  · apply spares_discard (spares_isNotifying (hbelow _))
    cases closure.this <;> simp [TreeMutex.depth]
  · exact .done _

theorem spares_getProperty (this : ObjectPtr) (interface name : String) :
    Spares E uuids paths (.nothing TreeCell) (getProperty this interface name) := by
  apply Program.Spares.locked (d := E.discipline uuids paths) rfl (below_nothing _)
  intro o ho _
  have honly m (hm : Function.update (Program.Held.nothing TreeCell) (.objectMutex this) (some o)
      m ≠ none) : m = .objectMutex this := by
    by_contra hne
    rw [Function.update_of_ne hne] at hm
    exact hm rfl
  refine Program.wp_load_bind (Function.update_self ..) ho (?_ : Program.Spares _ _ _)
  have hown : ∀ prop ∈ (o.interfaces[interface]?).getD [], ∀ getter,
      prop.getter = some getter → getter.this = this := by
    cases hp : o.interfaces[interface]? with
    | none => exact List.forall_mem_nil _
    | some properties => exact ho.owns interface properties hp
  cases hf : ((o.interfaces[interface]?).getD []).find? fun prop => prop.name == name with
  | none => exact .done _
  | some prop =>
    cases hr : prop.readable with
    | false =>
      simp only [hr]
      exact .done _
    | true =>
      simp only [hr]
      cases hg : prop.getter with
      | none => exact .done _
      | some getter =>
        have hthis := hown prop (List.mem_of_find?_eq_some hf) getter hg
        exact spares_callGetter fun m hm => hthis ▸ honly m hm

theorem spares_getChildren (h : Below held (.childrenMutex parent)) :
    Spares E uuids paths held (getChildren parent) := by
  have hlock : Spares E uuids paths held (withLock (.childrenMutex parent) (pure ())) :=
    Program.Spares.locked (d := E.discipline uuids paths) h.free h fun _ _ _ => .done _
  exact hlock.bind fun _ => .peek

theorem spares_createManagedObjectsDict (hE : E.onServices .getServices) :
    Spares E uuids paths (.nothing TreeCell) createManagedObjectsDict := by
  apply (spares_getServices (below_nothing _) hE).bind
  intro services
  apply Program.Spares.bind
  · apply Program.Spares.mapM
    intro i _
    apply (spares_getChildren (below_nothing _)).bind
    intro characteristics
    apply Program.Spares.peek.bind
    intro path
    apply Program.Spares.bind
    · apply Program.Spares.mapM
      intro uuid _
      apply (spares_getChildren (below_nothing _)).bind
      intro descriptors
      apply (spares_discard (spares_isNotifying (below_nothing _))).bind
      intro _
      apply Program.Spares.peek.bind
      intro path
      apply Program.Spares.bind (Program.Spares.mapM fun _ _ => .peek)
      exact fun _ => .done _
    · exact fun _ => .done _
  · exact fun _ => .done _

end Rules
end TreeThread

inductive TreeOperation where
  | addService (service : Option Nat)
  | removeService (uuid : GattUuid)
  | getService (uuid : GattUuid)
  | getServices
  | setupDBusInterfaces (this : ObjectPtr) (registers : Bool)
  | createCharacteristic (i : Nat) (uuid : GattUuid) (registers : Bool)
  | getCharacteristic (i : Nat) (uuid : GattUuid)
  | createDescriptor (i : Nat) (characteristic : String) (uuid : GattUuid) (registers : Bool)
  | getDescriptor (i : Nat) (characteristic : String) (uuid : GattUuid)
  | getProperty (this : ObjectPtr) (interface name : String)
  | createManagedObjectsDict

namespace TreeOperation

def perform (uuids : Nat → String) : TreeOperation → TreeThread Unit
  | .addService service => discard (TreeThread.addService uuids service)
  | .removeService uuid => discard (TreeThread.removeService uuids uuid)
  | .getService uuid => discard (TreeThread.getService uuids uuid)
  | .getServices => discard TreeThread.getServices
  | .setupDBusInterfaces this registers =>
    discard (TreeThread.setupDBusInterfaces this registers)
  | .createCharacteristic i uuid registers =>
    discard (TreeThread.createCharacteristic i uuid registers)
  | .getCharacteristic i uuid => discard (TreeThread.getCharacteristic i uuid)
  | .createDescriptor i characteristic uuid registers =>
    discard (TreeThread.createDescriptor i characteristic uuid registers)
  | .getDescriptor i characteristic uuid =>
    discard (TreeThread.getDescriptor i characteristic uuid)
  | .getProperty this interface name => TreeThread.getProperty this interface name
  | .createManagedObjectsDict => discard TreeThread.createManagedObjectsDict

/-- The call that the operation makes on the services, if any. -/
def servicesCall? : TreeOperation → Option ServicesCall
  | .addService service => service.map .addService
  | .removeService uuid => some (.removeService uuid.toString)
  | .getService uuid => some (.getService uuid.toString)
  | .getServices | .createManagedObjectsDict => some .getServices
  | _ => none

/-- The child that the operation asks for, if any, and whether it may create it. -/
def child? : TreeOperation → Option (ParentPtr × String × Bool)
  | .createCharacteristic i uuid _ => some (.service i, uuid.toString, true)
  | .getCharacteristic i uuid => some (.service i, uuid.toString, false)
  | .createDescriptor i characteristic uuid _ =>
    some (.characteristic i characteristic, uuid.toString, true)
  | .getDescriptor i characteristic uuid =>
    some (.characteristic i characteristic, uuid.toString, false)
  | _ => none

def Asks (paths : ObjectPtr → DBusObjectPath) (op : TreeOperation) (parent : ParentPtr)
    (call : NumberingCall String DBusObjectPath) : Prop :=
  ∃ uuid creates, op.child? = some (parent, uuid, creates) ∧
    (call = .get uuid ∨ creates = true ∧ ∃ path admitted, parent.HasPath paths path ∧
      call = TreeThread.creation parent uuid path admitted)

open TreeThread

theorem spares_perform {E : TreeCalls} {uuids : Nat → String}
    {paths : ObjectPtr → DBusObjectPath} {op : TreeOperation}
    (hs : ∀ call, op.servicesCall? = some call → E.onServices call)
    (hc : ∀ parent call, op.Asks paths parent call → E.onChildren parent call) :
    Spares E uuids paths (.nothing TreeCell) (op.perform uuids) := by
  cases op with
  | addService service =>
    apply spares_discard (spares_addService (below_nothing _) _)
    rintro i rfl
    exact hs _ rfl
  | removeService uuid =>
    exact spares_discard (spares_removeService (below_nothing _) (hs _ rfl))
  | getService uuid => exact spares_discard (spares_getService (below_nothing _) (hs _ rfl))
  | getServices => exact spares_discard (spares_getServices (below_nothing _) (hs _ rfl))
  | setupDBusInterfaces this registers =>
    exact spares_discard (spares_setupDBusInterfaces (below_nothing _) registers)
  | createCharacteristic i uuid registers =>
    apply spares_discard
    apply spares_createChild (below_nothing _)
    · exact hc _ _ ⟨_, _, rfl, .inl rfl⟩
    · exact fun path admitted hp => hc _ _ ⟨_, _, rfl, .inr ⟨rfl, path, admitted, hp, rfl⟩⟩
  | getCharacteristic i uuid =>
    exact spares_discard (spares_getChild (below_nothing _) (hc _ _ ⟨_, _, rfl, .inl rfl⟩))
  | createDescriptor i characteristic uuid registers =>
    apply spares_discard
    apply spares_createChild (below_nothing _)
    · exact hc _ _ ⟨_, _, rfl, .inl rfl⟩
    · exact fun path admitted hp => hc _ _ ⟨_, _, rfl, .inr ⟨rfl, path, admitted, hp, rfl⟩⟩
  | getDescriptor i characteristic uuid =>
    exact spares_discard (spares_getChild (below_nothing _) (hc _ _ ⟨_, _, rfl, .inl rfl⟩))
  | getProperty this interface name => exact spares_getProperty this interface name
  | createManagedObjectsDict =>
    exact spares_discard (spares_createManagedObjectsDict (hs _ rfl))

end TreeOperation

/-- An application with nothing in it yet, and objects that have just been constructed. -/
def treeCells (paths : ObjectPtr → DBusObjectPath) : (m : TreeMutex) → TreeCell m
  | .servicesMutex => (([], []) : List Nat × List ServicesAnswer)
  | .childrenMutex _ =>
    ((∅ : Std.TreeMap String DBusObjectPath), ([] : List (Answer String DBusObjectPath)))
  | .objectMutex this => (.constructed (paths this) : DBusObject Closure)
  | .notifyMutex _ => false

section Runs
variable {θ : Type t} [DecidableEq θ] {ops : θ → List TreeOperation}
variable {uuids : Nat → String} {paths : ObjectPtr → DBusObjectPath}
variable {s : Program.Shared θ TreeMutex TreeCell Unit}

/-- What the operations of all threads may call. -/
def treeCalls (paths : ObjectPtr → DBusObjectPath) (ops : θ → List TreeOperation) : TreeCalls where
  onServices call := ∃ t, ∃ op ∈ ops t, op.servicesCall? = some call
  onChildren parent call := ∃ t, ∃ op ∈ ops t, op.Asks paths parent call

/-- The threads perform their operations, by turns in any order. The services have UUID texts
and paths that stay. -/
def TreeInterleaved (uuids : Nat → String) (paths : ObjectPtr → DBusObjectPath)
    (ops : θ → List TreeOperation) (s : Program.Shared θ TreeMutex TreeCell Unit) : Prop :=
  Program.Runs (Program.start (treeCells paths) fun t => .each ((ops t).map (·.perform uuids))) s

theorem treeCells_always (m : TreeMutex) : TreeCalls.always paths m (treeCells paths m) := by
  cases m with
  | objectMutex this =>
    refine ⟨owns_constructed _ _, ?_⟩
    rintro parent rfl
    cases parent with
    | service i => rfl
    | characteristic i uuid => exact .inl rfl
  | _ => trivial

theorem treeCells_between (E : TreeCalls) (m : TreeMutex) :
    E.between uuids m (treeCells paths m) := by
  cases m with
  | servicesMutex => exact .nil _ _ _
  | childrenMutex parent => exact .nil _ _ _
  | objectMutex this => trivial
  | notifyMutex this => trivial

omit [DecidableEq θ] in
theorem wp_operations (t : θ) :
    Program.wp ((treeCalls paths ops).discipline uuids paths)
      (fun held _ => held = .nothing TreeCell) (.each ((ops t).map (·.perform uuids)))
      (.nothing TreeCell) := by
  apply Program.wp_each
  intro p hp
  obtain ⟨op, hop, rfl⟩ := List.mem_map.1 hp
  exact op.spares_perform (fun call hc => ⟨t, op, hop, hc⟩) fun parent call hc => ⟨t, op, hop, hc⟩

theorem TreeInterleaved.kept (h : TreeInterleaved uuids paths ops s) :
    Program.Kept ((treeCalls paths ops).discipline uuids paths)
      (fun _ held _ => held = .nothing TreeCell) s := by
  apply Program.Kept.run _ h
  exact Program.Kept.start treeCells_always (treeCells_between _) wp_operations

theorem depth_wellFounded : WellFounded fun m m' : TreeMutex => m'.depth < m.depth := by
  have hbound (m : TreeMutex) : m.depth ≤ 6 := by
    rcases m with _ | ⟨_ | _⟩ | ⟨_ | _ | _ | _⟩ | _ <;> simp [TreeMutex.depth]
  apply Subrelation.wf _ (measure fun m : TreeMutex => 6 - m.depth).wf
  intro m m' hlt
  have hm := hbound m
  change 6 - m.depth < 6 - m'.depth
  omega

/-- Threads that build, search and list the tree of objects never wait for each other in a
circle, and are done after finitely many steps in any order. -/
theorem tree_completes [Fintype θ] (h : TreeInterleaved uuids paths ops s) :
    Acc (fun s' s => ∃ t, Program.Step t s s') s ∧
      ((∀ t s', ¬ Program.Step t s s') → ∀ t, s.todo t = .done ()) := by
  apply And.intro (Program.steps_wellFounded.apply s)
  intro hstuck t
  by_contra ht
  obtain ⟨u, s', hs⟩ := h.kept.progress (fun _ _ _ he => he) depth_wellFounded fun a hd => ht hd
  exact hstuck u s' hs

/-- One thread creates a characteristic, the other a descriptor of another one. -/
def twoCreators : Bool → List TreeOperation
  | true => [.createCharacteristic 0 (.fromShortUuid 0x2a37) true]
  | false => [.createDescriptor 0 "2a38" (.fromShortUuid 0x2901) true]

theorem tree_completes_started :
    ∃ s, TreeInterleaved (fun _ => "180f") (fun _ => ⟨"/app"⟩) twoCreators s ∧
      (s.owner (.childrenMutex (.service 0)) = some true ∧
        s.owner (.objectMutex (.characteristic 0 (GattUuid.fromShortUuid 0x2a37).toString)) =
          some true) ∧
      (s.owner (.childrenMutex (.characteristic 0 "2a38")) = some false ∧
        s.owner (.objectMutex (.descriptor 0 "2a38" (GattUuid.fromShortUuid 0x2901).toString)) =
          some false) ∧
      Acc (fun s' s => ∃ t, Program.Step t s s') s := by
  have hservice : TreeInterleaved (fun _ => "180f") (fun _ => ⟨"/app"⟩) twoCreators _ :=
    .tail (.tail (.tail (.tail (.tail .refl ⟨true, .acquire rfl rfl⟩) ⟨true, .access rfl⟩)
      ⟨true, .peek rfl⟩) ⟨true, .access rfl⟩) ⟨true, .acquire rfl rfl⟩
  have hrun := ((((hservice.tail ⟨false, .acquire rfl rfl⟩).tail ⟨false, .access rfl⟩).tail
    ⟨false, .peek rfl⟩).tail ⟨false, .access rfl⟩).tail ⟨false, .acquire rfl rfl⟩
  exact ⟨_, hrun, ⟨rfl, rfl⟩, ⟨rfl, rfl⟩, (tree_completes hrun).1⟩

/-- Whenever nobody has the mutex of the services or of a map of children, its content and the
answers that it has given are as if each call had been made in one go, one after another. -/
theorem tree_calls_atomic (h : TreeInterleaved uuids paths ops s) :
    (s.owner .servicesMutex = none →
      let b : List Nat × List ServicesAnswer := s.cells .servicesMutex
      (serviceList uuids).Replays (fun _ => (treeCalls paths ops).onServices) [] b.1 b.2) ∧
    ∀ parent, s.owner (.childrenMutex parent) = none →
      let b : Std.TreeMap String DBusObjectPath × List (Answer String DBusObjectPath) :=
        s.cells (.childrenMutex parent)
      (numbering String DBusObjectPath).Replays
        (fun _ => (treeCalls paths ops).onChildren parent) ∅ b.1 b.2 :=
  ⟨h.kept.between .servicesMutex, fun parent => h.kept.between (.childrenMutex parent)⟩

/-- Two threads add a service each, with one UUID text. -/
def twoRegistrars : Bool → List TreeOperation := fun t => [.addService (some (if t then 0 else 1))]

theorem twoRegistrars_runs :
    ∃ s, TreeInterleaved (fun _ => "180f") (fun _ => ⟨"/app"⟩) twoRegistrars s ∧
      s.owner .servicesMutex = none ∧ s.cells .servicesMutex =
        ([0], [ServicesAnswer.verdict (.addService 0) true, .verdict (.addService 1) false]) := by
  have hadded : TreeInterleaved (fun _ => "180f") (fun _ => ⟨"/app"⟩) twoRegistrars _ :=
    .tail (.tail (.tail (.tail (.tail .refl ⟨true, .acquire rfl rfl⟩) ⟨true, .access rfl⟩)
      ⟨true, .access rfl⟩) ⟨true, .access rfl⟩) ⟨true, .release rfl⟩
  have hrefused := ((((hadded.tail ⟨false, .acquire rfl rfl⟩).tail ⟨false, .access rfl⟩).tail
    ⟨false, .access rfl⟩).tail ⟨false, .access rfl⟩).tail ⟨false, .release rfl⟩
  exact ⟨_, hrefused, rfl, rfl⟩

theorem tree_calls_atomic_refused :
    ∃ s, TreeInterleaved (fun _ => "180f") (fun _ => ⟨"/app"⟩) twoRegistrars s ∧
      (serviceList fun _ => "180f").Replays
        (fun _ => (treeCalls (fun _ => ⟨"/app"⟩) twoRegistrars).onServices) [] [0]
        [.verdict (.addService 0) true, .verdict (.addService 1) false] := by
  obtain ⟨s, hrun, hfree, hcell⟩ := twoRegistrars_runs
  have hreplays := (tree_calls_atomic hrun).1 hfree
  rw [hcell] at hreplays
  exact ⟨s, hrun, hreplays⟩

theorem serviceList_next (services : List Nat) (call : ServicesCall)
    (h : (services.map uuids).Nodup) :
    (((serviceList uuids).next services call).map uuids).Nodup := by
  rw [Machine.next]
  cases call with
  | addService i =>
    simp only [serviceList]
    split_ifs with hany
    · exact h
    · rw [List.map_append, List.map_singleton, List.nodup_append]
      refine ⟨h, List.nodup_singleton _, ?_⟩
      intro uuid huuid other hother
      obtain ⟨j, hj, rfl⟩ := List.mem_map.1 huuid
      rw [List.mem_singleton.1 hother]
      exact fun he => hany (List.any_eq_true.2 ⟨j, hj, beq_iff_eq.2 he⟩)
  | removeService uuid => exact h.sublist (List.eraseP_sublist.map _)
  | getService uuid => exact h
  | getServices => exact h

/-- The path of the child with a number. -/
def ParentPtr.ChildOf (paths : ObjectPtr → DBusObjectPath) (parent : ParentPtr) (number : Nat)
    (child : DBusObjectPath) : Prop :=
  ∃ path, parent.HasPath paths path ∧ child = parent.childPath path number

omit [DecidableEq θ] in
theorem asks_makes {parent : ParentPtr} (h : (treeCalls paths ops).onChildren parent call) :
    call.Makes (parent.ChildOf paths) := by
  obtain ⟨t, op, -, uuid, creates, -, rfl | ⟨-, path, admitted, hpath, rfl⟩⟩ := h
  · trivial
  · intro number child hchild
    rw [Option.ite_none_right_eq_some] at hchild
    exact ⟨path, hpath, (Option.some.inj hchild.2).symm⟩

/-- No UUID text is there twice in the services or in a map of children. The children have the
paths with the numbers from 1 on, in the order of their creation. All calls that ask for one
child get one and the same, and one that a call got is there for all later ones. -/
theorem tree_consistent (h : TreeInterleaved uuids paths ops s) :
    (s.owner .servicesMutex = none →
      let b : List Nat × List ServicesAnswer := s.cells .servicesMutex
      (b.1.map uuids).Nodup) ∧
    ∀ parent, s.owner (.childrenMutex parent) = none →
      let b : Std.TreeMap String DBusObjectPath × List (Answer String DBusObjectPath) :=
        s.cells (.childrenMutex parent)
      Answered (parent.ChildOf paths) b.1 b.2 := by
  apply And.intro
  · intro hfree
    obtain ⟨calls, hlegal, hrun, _⟩ := h.kept.between .servicesMutex hfree
    simp only
    rw [← hrun]
    exact Machine.run_invariant (I := fun services => (services.map uuids).Nodup) .nil
      (fun services call hs _ => serviceList_next services call hs) hlegal
  · exact fun parent hfree => answered_of_replays (fun _ _ hcall => asks_makes hcall)
      (h.kept.between (.childrenMutex parent) hfree)

/-- A thread creates a characteristic, and the child has the path with the number 1. -/
theorem tree_consistent_created :
    ∃ s, TreeInterleaved (fun _ => "180f") (fun _ => ⟨"/app"⟩) twoCreators s ∧
      let b : Std.TreeMap String DBusObjectPath × List (Answer String DBusObjectPath) :=
        s.cells (.childrenMutex (.service 0))
      b.1[(GattUuid.fromShortUuid 0x2a37).toString]? = some ⟨"/app/char/1"⟩ ∧
        Answered (ParentPtr.ChildOf (fun _ => ⟨"/app"⟩) (.service 0)) b.1 b.2 := by
  have hstart : TreeInterleaved (fun _ => "180f") (fun _ => ⟨"/app"⟩) twoCreators _ := .refl
  have hw : TreeThread.Spares (treeCalls (fun _ => ⟨"/app"⟩) twoCreators) (fun _ => "180f")
      (fun _ => ⟨"/app"⟩) (.nothing TreeCell)
      (TreeOperation.perform (fun _ => "180f")
        (.createCharacteristic 0 (.fromShortUuid 0x2a37) true)) :=
    TreeOperation.spares_perform (fun call hc => ⟨true, _, .head _, hc⟩)
      fun parent call hc => ⟨true, _, .head _, hc⟩
  obtain ⟨s, hr, hi, -, hc, -⟩ := hstart.kept.alone_idle (t := true) (P := fun _ => True)
    (fun _ => rfl) rfl (Program.wp_mono hw fun _ _ he => ⟨he, trivial⟩)
  refine ⟨s, hr, ?_, (tree_consistent hr).2 (.service 0) (hi _)⟩
  rw [hc]
  rfl

end Runs
end Ggk
