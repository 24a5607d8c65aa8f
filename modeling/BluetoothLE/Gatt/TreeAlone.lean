import BluetoothLE.Gatt.TreeThreads

namespace Ggk
open Lib Program
set_option autoImplicit true

theorem DBusObject.addInterface_unregistered (interface : String)
    (properties : List (DBusProperty κ)) {o : DBusObject κ} (h : o.registered = false) :
    ∃ o', o.addInterface interface properties = (true, o') ∧ o'.registered = false ∧
      o'.path = o.path := by
  rw [addInterface, if_neg (Bool.not_eq_true _ ▸ h)]
  exact ⟨_, rfl, h, rfl⟩

theorem DBusObject.addMethod_unregistered (interface method : String) (handler : κ)
    {o : DBusObject κ} (h : o.registered = false) :
    ∃ o', o.addMethod interface method handler = (true, o') ∧ o'.registered = false ∧
      o'.path = o.path := by
  rw [addMethod, if_neg (Bool.not_eq_true _ ▸ h)]
  exact ⟨_, rfl, h, rfl⟩

namespace TreeThread

def listed (cells : (m : TreeMutex) → TreeCell m) : List Nat := Prod.fst (cells .servicesMutex)

def childrenOf (cells : (m : TreeMutex) → TreeCell m) (parent : ParentPtr) :
    Std.TreeMap String DBusObjectPath := Prod.fst (cells (.childrenMutex parent))

def objectAt (cells : (m : TreeMutex) → TreeCell m) (this : ObjectPtr) : DBusObject Closure :=
  cells (.objectMutex this)

def putObject (cells : (m : TreeMutex) → TreeCell m) (this : ObjectPtr) (o : DBusObject Closure) :
    (m : TreeMutex) → TreeCell m := Function.update cells (.objectMutex this) o

section Objects
variable {cells cells' : (m : TreeMutex) → TreeCell m}

theorem objectAt_putObject (o : DBusObject Closure) :
    objectAt (putObject cells this o) this = o := Function.update_self ..

theorem putObject_self (this : ObjectPtr) : putObject cells this (objectAt cells this) = cells :=
  Function.update_eq_self ..

theorem putObject_putObject (o o' : DBusObject Closure) :
    putObject (putObject cells this o) this o' = putObject cells this o' :=
  Function.update_idem ..

/-- A call of an object under its mutex. -/
theorem ends_object {f : DBusObject Closure → DBusObject Closure} {r : DBusObject Closure → α}
    {o o' : DBusObject Closure} (hr : r o = a) (hf : f o = o') :
    Ends (withLock (.objectMutex this) (access (.objectMutex this) f r)) (putObject cells this o) a
      (putObject cells this o') := by
  have h : Ends (withLock (.objectMutex this) (access (.objectMutex this) f r))
      (putObject cells this o) (r (objectAt (putObject cells this o) this))
      (putObject (putObject cells this o) this (f (objectAt (putObject cells this o) this))) :=
    ⟨rfl, rfl⟩
  rw [objectAt_putObject, putObject_putObject, hr, hf] at h
  exact h

theorem ends_addMethods (cells : (m : TreeMutex) → TreeCell m) (this : ObjectPtr)
    (methods : List (String × Closure)) {o : DBusObject Closure} (ho : o.registered = false) :
    ∃ o', o'.registered = false ∧ o'.path = o.path ∧
      Ends (addMethods this methods) (putObject cells this o) true (putObject cells this o') := by
  induction methods generalizing o with
  | nil => exact ⟨o, ho, rfl, ends_done true⟩
  | cons m methods ih =>
    obtain ⟨o₁, hadd, hr, hp⟩ := DBusObject.addMethod_unregistered this.interface m.1 m.2 ho
    obtain ⟨o₂, hr₂, hp₂, he⟩ := ih hr
    refine ⟨o₂, hr₂, hp₂.trans hp, ?_⟩
    apply (ends_object (congrArg Prod.fst hadd) (congrArg Prod.snd hadd)).bind
    exact he

/-- An object that is not registered yet is set up if the connection takes it. -/
theorem ends_setupDBusInterfaces (cells : (m : TreeMutex) → TreeCell m) (this : ObjectPtr)
    (registers : Bool) {o : DBusObject Closure} (ho : o.registered = false) :
    ∃ o', o'.path = o.path ∧ Ends (setupDBusInterfaces this registers) (putObject cells this o)
      registers (putObject cells this o') := by
  obtain ⟨o₁, hadd, hr₁, hp₁⟩ :=
    DBusObject.addInterface_unregistered this.interface this.properties ho
  obtain ⟨o₂, hr₂, hp₂, he⟩ := ends_addMethods cells this this.methods hr₁
  refine ⟨{ o₂ with registered := o₂.registered || registers }, hp₂.trans hp₁, ?_⟩
  apply (ends_object (congrArg Prod.fst hadd) (congrArg Prod.snd hadd)).bind
  apply he.bind
  exact ends_object (by rw [hr₂, Bool.false_or]) rfl

end Objects

section Children
variable {cells : (m : TreeMutex) → TreeCell m}

def putChildren (cells : (m : TreeMutex) → TreeCell m) (parent : ParentPtr)
    (children : Std.TreeMap String DBusObjectPath) (answers : List (Answer String DBusObjectPath)) :
    (m : TreeMutex) → TreeCell m := Function.update cells (.childrenMutex parent) (children, answers)

theorem ends_children (parent : ParentPtr) (r : Std.TreeMap String DBusObjectPath → α) :
    Ends (children parent r) cells (r (childrenOf cells parent)) cells :=
  ends_load (TreeMutex.childrenMutex parent) _

theorem ends_answer (cells : (m : TreeMutex) → TreeCell m) (parent : ParentPtr) (uuid : String)
    (child : Option DBusObjectPath) :
    ∃ answers, Ends (answer parent uuid child) cells child
      (putChildren cells parent (childrenOf cells parent) answers) :=
  ⟨_, ends_access (TreeMutex.childrenMutex parent) _ _⟩

theorem ends_setChildren (cells : (m : TreeMutex) → TreeCell m) (parent : ParentPtr)
    (f : Std.TreeMap String DBusObjectPath → Std.TreeMap String DBusObjectPath) :
    ∃ answers, Ends (setChildren parent f) cells ()
      (putChildren cells parent (f (childrenOf cells parent)) answers) :=
  ⟨_, ends_access (TreeMutex.childrenMutex parent) _ _⟩

theorem ends_path (this : ObjectPtr) :
    Ends (peek (.objectMutex this) DBusObject.path) cells (objectAt cells this).path cells :=
  ends_peek (TreeMutex.objectMutex this) _

theorem ends_construct (this : ObjectPtr) (path : DBusObjectPath) :
    Ends (construct this path) cells () (putObject cells this (.constructed path)) :=
  (ends_access (TreeMutex.objectMutex this) _ _).locked _

theorem childrenOf_putObject (o : DBusObject Closure) :
    childrenOf (putObject cells this o) parent = childrenOf cells parent :=
  congrArg Prod.fst (show putObject cells this o (.childrenMutex parent) = _ from
    Function.update_of_ne (by simp) _ _)

theorem childrenOf_putChildren (children : Std.TreeMap String DBusObjectPath)
    (answers : List (Answer String DBusObjectPath)) :
    childrenOf (putChildren cells parent children answers) parent = children :=
  congrArg Prod.fst (show putChildren cells parent children answers (.childrenMutex parent) = _ from
    Function.update_self ..)

theorem putChildren_putChildren (children children' : Std.TreeMap String DBusObjectPath)
    (answers answers' : List (Answer String DBusObjectPath)) :
    putChildren (putChildren cells parent children answers) parent children' answers' =
      putChildren cells parent children' answers' := Function.update_idem ..

/-- A child that is there is found. -/
theorem ends_createChild_found (registers : Bool)
    (h : (childrenOf cells parent)[uuid.toString]? = some path) :
    ∃ answers, Ends (createChild parent uuid registers) cells (some path)
      (putChildren cells parent (childrenOf cells parent) answers) := by
  obtain ⟨answers, he⟩ := ends_answer cells parent uuid.toString (some path)
  refine ⟨answers, ?_⟩
  rw [createChild, uuid.toString_isEmpty, if_neg Bool.false_ne_true]
  apply Ends.locked
  apply (ends_children parent _).bind
  rw [h]
  exact he

/-- What `createChild` does with a child that is not there, up to the verdict of its setup. -/
theorem ends_createChild (h : (childrenOf cells parent)[uuid.toString]? = none)
    {cells' : (m : TreeMutex) → TreeCell m} (path : DBusObjectPath)
    (hpath : parent.childPath (objectAt cells parent.this).path
      ((childrenOf cells parent).size + 1) = path)
    (hsetup : Ends (setupDBusInterfaces (parent.child uuid.toString) registers)
      (putObject cells (parent.child uuid.toString) (.constructed path)) registers cells')
    (hrest : Ends (if !registers then do
        destroy (parent.child uuid.toString)
        answer parent uuid.toString none
      else do
        setChildren parent fun m => m.insert uuid.toString path
        answer parent uuid.toString (some path)) cells' child cells'') :
    Ends (createChild parent uuid registers) cells child cells'' := by
  subst hpath
  rw [createChild, uuid.toString_isEmpty, if_neg Bool.false_ne_true]
  apply Ends.locked
  apply (ends_children parent _).bind
  rw [h]
  dsimp only
  apply (ends_path parent.this).bind
  apply (ends_children parent Std.TreeMap.size).bind
  apply (ends_construct (parent.child uuid.toString) _).bind
  apply hsetup.bind
  exact hrest

/-- A child that is not there is created if the connection takes it. -/
theorem ends_createChild_new (registers : Bool)
    (h : (childrenOf cells parent)[uuid.toString]? = none)
    (hpath : parent.childPath (objectAt cells parent.this).path
      ((childrenOf cells parent).size + 1) = path) :
    ∃ o answers, (registers = true → o.path = path) ∧ Ends (createChild parent uuid registers) cells
      (if registers then some path else none)
      (putChildren (putObject cells (parent.child uuid.toString) o) parent
        (if registers then (childrenOf cells parent).insert uuid.toString path
          else childrenOf cells parent) answers) := by
  obtain ⟨o, hp, hsetup⟩ := ends_setupDBusInterfaces cells (parent.child uuid.toString)
    registers (o := .constructed path) rfl
  cases registers with
  | false =>
    obtain ⟨answers, he⟩ := ends_answer
      (putObject cells (parent.child uuid.toString) { o with registered := false }) parent
      uuid.toString none
    rw [childrenOf_putObject] at he
    refine ⟨{ o with registered := false }, answers, fun hn => Bool.noConfusion hn, ?_⟩
    apply ends_createChild h path hpath hsetup
    exact (ends_object rfl rfl).bind he
  | true =>
    obtain ⟨answers, hset⟩ := ends_setChildren (putObject cells (parent.child uuid.toString) o)
      parent fun m => m.insert uuid.toString path
    obtain ⟨answers', he⟩ := ends_answer (putChildren
      (putObject cells (parent.child uuid.toString) o) parent
      ((childrenOf cells parent).insert uuid.toString path) answers) parent uuid.toString (some path)
    rw [childrenOf_putObject] at hset
    rw [childrenOf_putChildren, putChildren_putChildren] at he
    exact ⟨o, answers', fun _ => hp, ends_createChild h path hpath hsetup (hset.bind he)⟩

end Children
section Application
variable {uuids : Nat → String} {cells : (m : TreeMutex) → TreeCell m}

def putListed (cells : (m : TreeMutex) → TreeCell m) (services : List Nat)
    (answers : List ServicesAnswer) : (m : TreeMutex) → TreeCell m :=
  Function.update cells .servicesMutex (services, answers)

theorem ends_services (r : List Nat → α) :
    Ends (services r) cells (r (listed cells)) cells := ends_load TreeMutex.servicesMutex _

theorem ends_reply (cells : (m : TreeMutex) → TreeCell m) (said : ServicesAnswer) :
    ∃ answers, Ends (reply said) cells () (putListed cells (listed cells) answers) :=
  ⟨_, ends_access TreeMutex.servicesMutex _ _⟩

theorem ends_setServices (cells : (m : TreeMutex) → TreeCell m) (f : List Nat → List Nat) :
    ∃ answers, Ends (setServices f) cells () (putListed cells (f (listed cells)) answers) :=
  ⟨_, ends_access TreeMutex.servicesMutex _ _⟩

/-- The loop finds the first service with the UUID text. -/
theorem ends_loop (uuids : Nat → String) (uuid : String) (i n : Nat) (hn : n = (listed cells).length - i) :
    Ends (loop uuids uuid i n) cells
      ((((listed cells).drop i).findIdx? fun j => uuids j == uuid).map (· + i)) cells := by
  induction n generalizing i with
  | zero =>
    rw [List.drop_eq_nil_of_le (by omega)]
    exact ends_done none
  | succ n ih =>
    have hi : i < (listed cells).length := by omega
    rw [List.drop_eq_getElem_cons hi, List.findIdx?_cons]
    rw [loop]
    apply (ends_services _).bind
    rw [List.getElem?_eq_getElem hi]
    dsimp only
    split_ifs with hu
    · rw [Option.map_some, Nat.zero_add]
      exact ends_done (some i)
    · have h := ih (i + 1) (by omega)
      simpa [Option.map_map, Function.comp_def, Nat.add_right_comm _ 1 i, Nat.add_assoc] using h

theorem ends_search (cells : (m : TreeMutex) → TreeCell m) (uuids : Nat → String) (uuid : String) :
    Ends (search uuids uuid) cells ((listed cells).findIdx? fun j => uuids j == uuid) cells := by
  apply (ends_services _).bind
  have h := ends_loop uuids uuid 0 (listed cells).length rfl
  simpa using h

theorem putListed_put (services services' : List Nat) (answers answers' : List ServicesAnswer) :
    putListed (putListed cells services answers) services' answers' =
      putListed cells services' answers' := Function.update_idem ..

theorem listed_putListed (services : List Nat) (answers : List ServicesAnswer) :
    listed (putListed cells services answers) = services :=
  congrArg Prod.fst (show putListed cells services answers .servicesMutex = _ from
    Function.update_self ..)

/-- The list is changed and the answer goes into the record. -/
theorem ends_changed (cells : (m : TreeMutex) → TreeCell m) (f : List Nat → List Nat)
    (said : ServicesAnswer) (a : α) :
    ∃ answers, Ends (do setServices f; reply said; return a : TreeThread α) cells a
      (putListed cells (f (listed cells)) answers) := by
  obtain ⟨answers, hset⟩ := ends_setServices cells f
  obtain ⟨answers', hreply⟩ := ends_reply (putListed cells (f (listed cells)) answers) said
  rw [listed_putListed, putListed_put] at hreply
  exact ⟨answers', hset.bind (hreply.bind (ends_done a))⟩

theorem ends_said (cells : (m : TreeMutex) → TreeCell m) (said : ServicesAnswer) (a : α) :
    ∃ answers, Ends (do reply said; return a : TreeThread α) cells a
      (putListed cells (listed cells) answers) := by
  obtain ⟨answers, hreply⟩ := ends_reply cells said
  exact ⟨answers, hreply.bind (ends_done a)⟩

theorem ends_addService (cells : (m : TreeMutex) → TreeCell m) (uuids : Nat → String) (i : Nat) :
    let found := (listed cells).findIdx? fun j => uuids j == uuids i
    ∃ answers, Ends (addService uuids (some i)) cells found.isNone
      (putListed cells (if found.isNone then listed cells ++ [i] else listed cells) answers) := by
  intro found
  have hsearch := ends_search cells uuids (uuids i)
  change Ends _ cells found cells at hsearch
  cases hf : found with
  | some k =>
    obtain ⟨answers, he⟩ := ends_said cells (.verdict (.addService i) false) false
    exact ⟨answers, (hsearch.bind (by rw [hf]; exact he)).locked _⟩
  | none =>
    obtain ⟨answers, he⟩ := ends_changed cells (fun services => services ++ [i])
      (.verdict (.addService i) true) true
    exact ⟨answers, (hsearch.bind (by rw [hf]; exact he)).locked _⟩

theorem ends_removeService (cells : (m : TreeMutex) → TreeCell m) (uuids : Nat → String)
    (uuid : GattUuid) :
    let found := (listed cells).findIdx? fun j => uuids j == uuid.toString
    ∃ answers, Ends (removeService uuids uuid) cells found.isSome
      (putListed cells (match found with
        | some k => (listed cells).eraseIdx k
        | none => listed cells) answers) := by
  intro found
  have hsearch := ends_search cells uuids uuid.toString
  change Ends _ cells found cells at hsearch
  cases hf : found with
  | some k =>
    obtain ⟨answers, he⟩ := ends_changed cells (fun services => services.eraseIdx k)
      (.verdict (.removeService uuid.toString) true) true
    exact ⟨answers, (hsearch.bind (by rw [hf]; exact he)).locked _⟩
  | none =>
    obtain ⟨answers, he⟩ := ends_said cells
      (.verdict (.removeService uuid.toString) false) false
    exact ⟨answers, (hsearch.bind (by rw [hf]; exact he)).locked _⟩

theorem ends_getService (cells : (m : TreeMutex) → TreeCell m) (uuids : Nat → String)
    (uuid : GattUuid) :
    let found := (listed cells).findIdx? fun j => uuids j == uuid.toString
    ∃ answers, Ends (getService uuids uuid) cells (found.bind fun k => (listed cells)[k]?)
      (putListed cells (listed cells) answers) := by
  intro found
  have hsearch := ends_search cells uuids uuid.toString
  change Ends _ cells found cells at hsearch
  cases hf : found with
  | some k =>
    obtain ⟨answers, he⟩ := ends_said cells
      (.services (.getService uuid.toString) (listed cells)[k]?.toList) (listed cells)[k]?
    refine ⟨answers, (hsearch.bind ?_).locked _⟩
    rw [hf]
    apply (ends_services fun services => services[k]?).bind
    exact he
  | none =>
    obtain ⟨answers, he⟩ := ends_said cells (.services (.getService uuid.toString) []) none
    exact ⟨answers, (hsearch.bind (by rw [hf]; exact he)).locked _⟩

end Application

end TreeThread
end Ggk
