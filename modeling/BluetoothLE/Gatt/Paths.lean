import BluetoothLE.DBus.ObjectPath
import BluetoothLE.Gatt.Spellings

namespace Ggk
open Lib
set_option autoImplicit true

/-- The word in the paths of the objects that an object keeps. -/
def ObjectPtr.word : ObjectPtr → String
  | .characteristic _ _ => "/desc"
  | _ => "/char"

/-- The path of the `k`-th object that an object creates. -/
def childPath (q : ObjectPtr) (path : DBusObjectPath) (k : Nat) : DBusObjectPath :=
  (path.append q.word).append (Nat.repr k)

theorem toList_word (q : ObjectPtr) : ∃ word, q.word.toList = '/' :: word ∧
    isSegment word = true := by
  cases q with
  | characteristic i u => exact ⟨['d', 'e', 's', 'c'], by simp [ObjectPtr.word], by decide⟩
  | _ => exact ⟨['c', 'h', 'a', 'r'], by simp [ObjectPtr.word], by decide⟩

theorem slash_notMem_repr (k : Nat) : '/' ∉ (Nat.repr k).toList := by
  intro h
  rw [Nat.toList_repr] at h
  exact absurd (Nat.isDigit_of_mem_toDigits (by decide) (by decide) h) (by decide)

/-- The number is a segment of its own. -/
theorem toList_childPath (q : ObjectPtr) (path : DBusObjectPath) (k : Nat) :
    (childPath q path k).path.toList =
      trimEnd '/' path.path.toList ++ q.word.toList ++ '/' :: (Nat.repr k).toList := by
  obtain ⟨word, hword, hsegment⟩ := toList_word q
  obtain ⟨hne, hslash⟩ := isSegment_spec hsegment
  obtain ⟨word₀, c, rfl⟩ := (List.eq_nil_or_concat word).resolve_left hne
  have hc : c ≠ '/' := fun hc => hslash (by simp [hc])
  have hrepr : (Nat.repr k).toList ≠ [] := by
    rw [Nat.toList_repr]
    exact Nat.toDigits_ne_nil
  have hstart : trimStart '/' (Nat.repr k).toList = (Nat.repr k).toList := by
    cases hl : (Nat.repr k).toList with
    | nil => exact absurd hl hrepr
    | cons d rest =>
      apply trimStart_cons
      rintro rfl
      exact slash_notMem_repr k (by simp [hl])
  have hend : trimEnd '/' (trimEnd '/' path.path.toList ++ '/' :: word₀.concat c) =
      trimEnd '/' path.path.toList ++ '/' :: word₀.concat c := by
    have h := trimEnd_concat hc (trimEnd '/' path.path.toList ++ '/' :: word₀)
    simpa using h
  rw [childPath, DBusObjectPath.toList_append, DBusObjectPath.toList_append, hword, join_cons_sep,
    join_eq (by simp) hrepr, hend, hstart]

/-- Without its last segment the path has one more segment than the path of the parent. -/
theorem dropSegment_childPath (q : ObjectPtr) (path : DBusObjectPath) (k : Nat) :
    dropSegment '/' (childPath q path k).path.toList ≠ path.path.toList := by
  intro h
  obtain ⟨word, hword, hsegment⟩ := toList_word q
  obtain ⟨hne, hslash⟩ := isSegment_spec hsegment
  have hone : segments '/' word = [word] := segments_single hne hslash
  rw [toList_childPath, dropSegment_append (slash_notMem_repr k), hword] at h
  have hsegments := congrArg (segments '/') h
  rw [segments_append_sep, segments_trimEnd, hone] at hsegments
  exact absurd hsegments (by simp)

/-- The `k`-th child has the path of its parent, the word and the number, and this path without
the last segment is the path of the parent. -/
def MirrorsAt (q : ObjectPtr) (path : DBusObjectPath) (k : Nat) (child : DBusObjectPath) : Prop :=
  child.path = path.path ++ q.word ++ Nat.repr k ∧
    dropSegment '/' child.path.toList = path.path.toList

theorem not_mirrorsAt (q : ObjectPtr) (path : DBusObjectPath) (k : Nat) :
    ¬ MirrorsAt q path k (childPath q path k) :=
  fun h => dropSegment_childPath q path k h.2

namespace GattServer
variable {s s' : GattServer η} {parse : String → Option (List String)}
  {made made' : List (ObjectPtr × DBusObjectPath)}

/-- The path of an object that keeps others in a map, and how many it keeps. -/
def keeping (s : GattServer η) : ObjectPtr → Option (DBusObjectPath × Nat)
  | .service i => (s.service i).map fun x => (x.object.path, x.characteristics.size)
  | .characteristic i u =>
    (s.characteristic i u).map fun n => (n.characteristic.path, n.descriptors.size)
  | _ => none

/-- The object that a call has created, with its path. -/
def created (s : GattServer η) (step : ServerStep) (s' : GattServer η) :
    List (ObjectPtr × DBusObjectPath) :=
  (step.target.bind fun p =>
    if (s.child p).isSome then none else (s'.child p).map fun x => (p, x.path)).toList

def creations (parse : String → Option (List String)) (s : GattServer η) (step : ServerStep) :
    List (ObjectPtr × DBusObjectPath) :=
  s.created step (s.perform parse step).2

/-- The children of one object, in the order in which they were created. -/
def below (made : List (ObjectPtr × DBusObjectPath)) (q : ObjectPtr) :
    List (ObjectPtr × DBusObjectPath) :=
  made.filter fun m => m.1.parent == q

/-- The paths of the children that an object keeps, by their numbers. -/
def issued (s : GattServer η) (q : ObjectPtr) : List DBusObjectPath :=
  (s.keeping q).elim [] fun r => (List.range' 1 r.2).map (childPath q r.1)

theorem below_append (made made' : List (ObjectPtr × DBusObjectPath)) (q : ObjectPtr) :
    below (made ++ made') q = below made q ++ below made' q :=
  List.filter_append ..

theorem issued_succ (hq : s.keeping q = some (path, n)) (hq' : s'.keeping q = some (path, n + 1)) :
    s'.issued q = s.issued q ++ [childPath q path (n + 1)] := by
  rw [issued, issued, hq, hq', Option.elim_some, Option.elim_some, List.range'_1_concat,
    List.map_append, List.map_singleton, Nat.add_comm 1 n]

theorem issued_of_keeping (h : s'.keeping q = s.keeping q) : s'.issued q = s.issued q := by
  rw [issued, h, issued]

theorem keeping_of_objects (h : s'.objects = s.objects) (q : ObjectPtr) :
    s'.keeping q = s.keeping q := by
  cases q with
  | service i => rw [keeping, keeping, service, service, h]
  | characteristic i u => rw [keeping, keeping, characteristic_of_objects h]
  | _ => rfl

theorem created_of_objects (h : s'.objects = s.objects) (step : ServerStep) :
    s.created step s' = [] := by
  have hc := characteristic_of_objects h
  have hchild (p : ObjectPtr) : s'.child p = s.child p := by
    cases p with
    | characteristic i u => rw [child, child, hc]
    | descriptor i u v => rw [child, child, descriptor, descriptor, hc]
    | _ => rfl
  rw [created]
  cases step.target with
  | none => rfl
  | some p =>
    rw [Option.bind_some, hchild]
    cases s.child p with
    | none => rfl
    | some x => rfl

theorem keeping_object (hx : s.service i = some x) {o : DBusObject Closure}
    (ho : o.path = x.object.path) (c' : DBusConnection (ObjectPtr × HandlerData Closure) η)
    (q : ObjectPtr) : ({ s.setService i { x with object := o } with connection := c' } :
      GattServer η).keeping q = s.keeping q := by
  apply (keeping_of_objects (s := s.setService i { x with object := o }) rfl q).trans
  cases q with
  | service j =>
    rw [keeping, keeping, service_setService hx]
    split
    · rename_i hij
      rw [← hij, hx, Option.map_some, Option.map_some, ho]
    · rfl
  | characteristic j u => rw [keeping, keeping, characteristic_object hx]
  | _ => rfl

theorem keeping_insert (hx : s.service i = some x) (u : String) (n : CharacteristicNode)
    (c' : DBusConnection (ObjectPtr × HandlerData Closure) η) (q : ObjectPtr) :
    ({ s.setService i (x.withCharacteristic u n) with connection := c' } :
      GattServer η).keeping q =
      if q = .service i then some (x.object.path, (x.characteristics.insert u n).size)
      else if q = .characteristic i u then some (n.characteristic.path, n.descriptors.size)
      else s.keeping q := by
  apply (keeping_of_objects (s := s.setService i (x.withCharacteristic u n)) rfl q).trans
  cases q with
  | service j =>
    rw [keeping, keeping, service_setService hx]
    by_cases hij : i = j
    · rw [if_pos hij, if_pos (by rw [hij])]
      rfl
    · rw [if_neg hij, if_neg (by simpa using Ne.symm hij), if_neg (by simp)]
  | characteristic j v =>
    have hne : ObjectPtr.characteristic j v ≠ .service i := by simp
    rw [keeping, characteristic_insert hx, if_neg hne]
    by_cases hij : i = j ∧ u = v
    · rw [if_pos hij, if_pos (by rw [hij.1, hij.2]), Option.map_some]
    · rw [if_neg hij, if_neg (by simpa [eq_comm] using hij)]
      rfl
  | application => rfl
  | descriptor j v w => rfl

theorem size_insert_none {t : Std.TreeMap String β} (h : t[k]? = none) (v : β) :
    (t.insert k v).size = t.size + 1 := by
  rw [Std.TreeMap.size_insert, Std.TreeMap.contains_eq_isSome_getElem?, h]
  rfl

theorem size_insert_some {t : Std.TreeMap String β} (h : t[k]? = some w) (v : β) :
    (t.insert k v).size = t.size := by
  rw [Std.TreeMap.size_insert, Std.TreeMap.contains_eq_isSome_getElem?, h]
  rfl

theorem issued_constructed (path : DBusObjectPath) (uuid : GattUuid) (isPrimary : Bool)
    (q : ObjectPtr) : (s.constructService path uuid isPrimary).issued q = s.issued q := by
  cases q with
  | service i =>
    rcases service_constructService (s := s) path uuid isPrimary i with h | ⟨h, h'⟩
    · rw [issued, issued, keeping, keeping, h]
    · rw [issued, issued, keeping, keeping, h, h']
      rfl
  | characteristic i u =>
    rw [issued, issued, keeping, keeping, characteristic_constructService]
  | _ => rfl

theorem created_child (ht : step.target = some p) (hp : s.child p = none)
    (hx : s'.child p = some x) : s.created step s' = [(p, x.path)] := by
  rw [created, ht, Option.bind_some, hp, hx]
  rfl

/-- An object that a call has created is the last one that its parent keeps. -/
def Issues (s : GattServer η) (step : ServerStep) (s' : GattServer η) : Prop :=
  ∀ q, s'.issued q = s.issued q ++ (below (s.created step s') q).map Prod.snd

theorem issues_of_objects (h : s'.objects = s.objects) (step : ServerStep) : Issues s step s' := by
  intro q
  rw [created_of_objects h, issued_of_keeping (keeping_of_objects h q)]
  exact (List.append_nil _).symm

theorem issues_none (ht : step.target = none) (h : ∀ q, s'.issued q = s.issued q) :
    Issues s step s' := by
  intro q
  rw [created, ht, h]
  exact (List.append_nil _).symm

/-- The parent of a child that is created keeps one more, and the others keep what they have. -/
theorem issues_child (ht : step.target = some p) (hp : s.child p = none)
    (hx : s'.child p = some x) (hq : s.keeping p.parent = some (path, n))
    (hpath : x.path = childPath p.parent path (n + 1))
    (hq' : s'.keeping p.parent = some (path, n + 1))
    (hothers : ∀ q, q ≠ p.parent → s'.issued q = s.issued q) : Issues s step s' := by
  intro q
  rw [created_child ht hp hx, hpath]
  by_cases h : p.parent = q
  · rw [← h, issued_succ hq hq']
    simp [below]
  · rw [hothers q (Ne.symm h)]
    simp [below, h]

theorem CreatesCharacteristic.issues {uuid : GattUuid}
    (h : CreatesCharacteristic parse s i uuid properties permissions r) (refuses : List Bool) :
    Issues s (.createCharacteristic i uuid properties permissions refuses) r.2 := by
  cases h with
  | missing hx => exact issues_of_objects rfl _
  | existing hx hn => exact issues_of_objects rfl _
  | declined hx hn h => exact issues_of_objects rfl _
  | @created x c' hx hn h =>
    have hc := (characteristic_of_service hx uuid.toString).trans hn
    have hkeep := keeping_insert hx uuid.toString
      ⟨.created x.nextPath uuid properties permissions, ∅⟩ c'
    have hnone : s.child (.characteristic i uuid.toString) = none := by
      rw [child, hc, Option.map_none]
    have hq : s.keeping (.service i) = some (x.object.path, x.characteristics.size) := by
      rw [keeping, hx, Option.map_some]
    have hq' := (hkeep (.service i)).trans (if_pos rfl)
    rw [size_insert_none hn] at hq'
    apply issues_child rfl hnone (child_withCharacteristic hx _ _ c') hq rfl hq'
    intro q hq
    by_cases hqc : q = .characteristic i uuid.toString
    · have hnone : s.keeping q = none := by rw [hqc, keeping, hc, Option.map_none]
      have hsome := (hkeep q).trans ((if_neg hq).trans (if_pos hqc))
      rw [issued, issued, hnone, hsome]
      rfl
    · exact issued_of_keeping ((hkeep q).trans ((if_neg hq).trans (if_neg hqc)))

theorem CreatesDescriptor.issues {uuid : GattUuid}
    (h : CreatesDescriptor parse s i u uuid permissions r) (refuses : List Bool) :
    Issues s (.createDescriptor i u uuid permissions refuses) r.2 := by
  cases h with
  | missing hn => exact issues_of_objects rfl _
  | existing hx hn hd => exact issues_of_objects rfl _
  | declined hx hn hd h => exact issues_of_objects rfl _
  | @created x n c' hx hn hd h =>
    have hc := (characteristic_of_service hx u).trans hn
    have hkeep := keeping_insert hx u (n.withDescriptor uuid permissions) c'
    have hsize : (n.withDescriptor uuid permissions).descriptors.size =
        n.descriptors.size + 1 := size_insert_none hd _
    have hnone : s.child (.descriptor i u uuid.toString) = none := by
      rw [child, descriptor, hc, Option.bind_some, hd, Option.map_none]
    have hq : s.keeping (.characteristic i u) =
        some (n.characteristic.path, n.descriptors.size) := by
      rw [keeping, hc, Option.map_some]
    have hq' := (hkeep (.characteristic i u)).trans ((if_neg (by simp)).trans (if_pos rfl))
    rw [hsize] at hq'
    apply issues_child rfl hnone (child_withDescriptor hx u n uuid permissions c') hq rfl hq'
    intro q hq
    by_cases hqs : q = .service i
    · apply issued_of_keeping
      rw [hkeep, if_pos hqs, hqs, keeping, hx, Option.map_some, size_insert_some hn]
    · exact issued_of_keeping ((hkeep q).trans ((if_neg hqs).trans (if_neg hq)))

theorem Performs.issues (h : Performs parse s step r) : Issues s step r.2 := by
  cases h with
  | constructed path uuid isPrimary =>
    exact issues_none rfl (issued_constructed path uuid isPrimary)
  | unset refuses hx hr h =>
    exact issues_none rfl fun q => issued_of_keeping (keeping_object hx (by rfl) _ q)
  | set refuses hx hr h =>
    exact issues_none rfl fun q => issued_of_keeping (keeping_object hx (by rfl) _ q)
  | createsCharacteristic refuses h => exact h.issues refuses
  | createsDescriptor refuses h => exact h.issues refuses
  | _ => exact issues_of_objects rfl _

theorem Sound.issued_run (h : Sound parse s) (steps : List ServerStep) (q : ObjectPtr) :
    ((serving parse).run s steps).issued q = s.issued q ++
      (below ((serving parse).said (creations parse) s steps) q).map Prod.snd := by
  induction steps generalizing s with
  | nil => exact (List.append_nil _).symm
  | cons step steps ih =>
    have hstep : ((serving parse).next s step).issued q =
        s.issued q ++ (below (creations parse s step) q).map Prod.snd :=
      (perform_performs parse h.plain step).issues q
    rw [Machine.run_cons, ih (h.next step), hstep, Machine.said, below_append, List.map_append,
      List.append_assoc]

theorem child_of_created (hm : m ∈ s.created step s') :
    ∃ x, s'.child m.1 = some x ∧ x.path = m.2 := by
  obtain ⟨p, _, hp⟩ := Option.bind_eq_some_iff.1 (Option.mem_toList.1 hm)
  split at hp
  · cases hp
  · obtain ⟨x, hx, rfl⟩ := Option.map_eq_some_iff.1 hp
    exact ⟨x, hx, rfl⟩

/-- What has been created stays where it was created. -/
theorem Sound.child_of_said (h : Sound parse s)
    (hm : m ∈ (serving parse).said (creations parse) s steps) :
    ∃ x, ((serving parse).run s steps).child m.1 = some x ∧ x.path = m.2 := by
  induction steps generalizing s with
  | nil => cases hm
  | cons step steps ih =>
    rcases List.mem_append.1 hm with hm | hm
    · obtain ⟨x, hx, hpath⟩ := child_of_created hm
      exact ⟨x, (h.next step).keeps_child hx steps, hpath⟩
    · exact ih (h.next step) hm

def MirrorsBelow (made : List (ObjectPtr × DBusObjectPath)) (q : ObjectPtr)
    (path : DBusObjectPath) : Prop :=
  ∀ k m, (below made q)[k]? = some m → MirrorsAt q path (k + 1) m.2

/-- The paths of the characteristics of a service, and of their descriptors, mirror the tree of
the objects. -/
structure Mirrors (made : List (ObjectPtr × DBusObjectPath)) (s : GattServer η) (i : Nat) :
    Prop where
  characteristics : ∀ path, s.pathOf (.service i) = some path → MirrorsBelow made (.service i) path
  descriptors : ∀ m ∈ below made (.service i), MirrorsBelow made m.1 m.2

theorem mirrorsBelow_nil (h : below made q = []) : MirrorsBelow made q path := by
  intro k m hm
  rw [h] at hm
  cases hm

/-- The `k`-th child has the path with the number `k`. -/
theorem path_of_issued (hq : s.keeping q = some (path, n))
    (hmade : s.issued q = (below made q).map Prod.snd) (hm : (below made q)[k]? = some m) :
    m.2 = childPath q path (k + 1) := by
  have hissued : (s.issued q)[k]? = some m.2 := by
    rw [hmade, List.getElem?_map, hm, Option.map_some]
  rw [issued, hq, Option.elim_some, List.getElem?_map, Option.map_eq_some_iff] at hissued
  obtain ⟨j, hj, hchild⟩ := hissued
  obtain ⟨hlt, hget⟩ := List.getElem?_eq_some_iff.1 hj
  rw [List.getElem_range', Nat.one_mul] at hget
  rw [← hchild, ← hget, Nat.add_comm]

theorem mirrorsBelow_iff (hq : s.keeping q = some (path, n))
    (hmade : s.issued q = (below made q).map Prod.snd) :
    MirrorsBelow made q path ↔ below made q = [] := by
  apply Iff.intro
  · intro h
    by_contra hne
    obtain ⟨m, rest, hm⟩ := List.exists_cons_of_ne_nil hne
    have hget : (below made q)[0]? = some m := by rw [hm, List.getElem?_cons_zero]
    have hmirrors := h 0 m hget
    rw [path_of_issued hq hmade hget] at hmirrors
    exact not_mirrorsAt q path _ hmirrors
  · exact mirrorsBelow_nil

theorem keeping_of_child (hx : s.child p = some x) (hp : p.parent = .service i) :
    ∃ n, s.keeping p = some (x.path, n) := by
  cases p with
  | characteristic j u =>
    obtain ⟨n, hn, rfl⟩ := Option.map_eq_some_iff.1 hx
    apply Exists.intro n.descriptors.size
    rw [keeping, hn]
    rfl
  | application => cases hx
  | service j => cases hx
  | descriptor j u v => cases hp

theorem issued_start (path : DBusObjectPath)
    (c : DBusConnection (ObjectPtr × HandlerData Closure) η) (q : ObjectPtr) :
    (start path c).issued q = [] := by
  cases q <;> rfl

/-- No characteristic and no descriptor ever has the path that mirrors where it is in the tree. -/
theorem mirrors_iff (parse : String → Option (List String)) (path : DBusObjectPath)
    (c : DBusConnection (ObjectPtr × HandlerData Closure) η) (steps : List ServerStep) (i : Nat) :
    let made := (serving parse).said (creations parse) (start path c) steps
    let s := (serving parse).run (start path c) steps
    (Mirrors made s i ↔ below made (.service i) = []) ∧
      ∀ m ∈ below made (.service i), (MirrorsBelow made m.1 m.2 ↔ below made m.1 = []) := by
  intro made s
  have hstart : Sound parse (start path c) := .start parse path c
  have hmade (q : ObjectPtr) : s.issued q = (below made q).map Prod.snd := by
    have h := hstart.issued_run steps q
    rwa [issued_start, List.nil_append] at h
  apply And.intro
  · apply Iff.intro
    · intro h
      cases hx : s.service i with
      | none =>
        have hnone := hmade (.service i)
        rw [issued, keeping, hx] at hnone
        exact List.map_eq_nil_iff.1 hnone.symm
      | some x =>
        have hq : s.keeping (.service i) = some (x.object.path, x.characteristics.size) := by
          rw [keeping, hx, Option.map_some]
        apply (mirrorsBelow_iff hq (hmade _)).1
        apply h.characteristics
        rw [pathOf, standing, hx]
        rfl
    · intro h
      apply Mirrors.mk
      · exact fun path _ => mirrorsBelow_nil h
      · rw [h]
        exact List.forall_mem_nil _
  · intro m hm
    obtain ⟨hmem, hparent⟩ := List.mem_filter.1 hm
    obtain ⟨x, hx, hpath⟩ := hstart.child_of_said hmem
    obtain ⟨n, hq⟩ := keeping_of_child hx (beq_iff_eq.1 hparent)
    rw [hpath] at hq
    exact mirrorsBelow_iff hq (hmade m.1)

/-- The first characteristic of a service. -/
theorem char_number_apart :
    let parse : String → Option (List String) :=
      fun _ => some [BlueZConstants.gattCharacteristicInterface]
    let c := ((DBusConnection.constructed (ObjectPtr × HandlerData Closure) Unit).connect true).2
    let steps : List ServerStep :=
      [.constructService ⟨"/test/service"⟩ (.fromShortUuid 0x180f) true,
        .createCharacteristic 0 (.fromShortUuid 0x2a19) 0x12 0x01 []]
    let made := (serving parse).said (creations parse) (start ⟨"/com/example"⟩ c) steps
    let s := (serving parse).run (start ⟨"/com/example"⟩ c) steps
    isObjectPath "/test/service" = true ∧ s.pathOf (.service 0) = some ⟨"/test/service"⟩ ∧
      (below made (.service 0)).map Prod.snd = [⟨"/test/service/char/1"⟩] ∧
        "/test/service" ++ "/char" ++ Nat.repr 1 = "/test/service/char1" ∧
          ¬ Mirrors made s 0 := by
  intro parse c steps made s
  have hpath : s.pathOf (.service 0) = some ⟨"/test/service"⟩ := rfl
  have hmade : (below made (.service 0)).map Prod.snd = [⟨"/test/service/char/1"⟩] := by decide
  refine ⟨by decide, hpath, hmade, by decide, fun h => ?_⟩
  obtain ⟨m, hm, hchar⟩ := List.map_eq_singleton_iff.1 hmade
  have hmirrors := h.characteristics _ hpath 0 m (by rw [hm, List.getElem?_cons_zero])
  rw [MirrorsAt, hchar] at hmirrors
  exact absurd hmirrors.1 (by decide)

end GattServer
end Ggk
