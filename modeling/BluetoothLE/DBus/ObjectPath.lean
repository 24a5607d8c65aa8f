import BluetoothLE.DBus.Types
import BluetoothLE.Lib.Segments

namespace Ggk
open Lib
set_option autoImplicit true

/-- The bytes of a string that its C string has, which are those before a NUL. -/
def cStr (s : String) : String := String.ofList (s.toList.takeWhile (· ≠ Char.ofNat 0))

def NulFree (s : String) : Prop := Char.ofNat 0 ∉ s.toList

instance (s : String) : Decidable (NulFree s) :=
  inferInstanceAs (Decidable (Char.ofNat 0 ∉ s.toList))

theorem cStr_of_nulFree (h : NulFree s) : cStr s = s := by
  have ht : s.toList.takeWhile (· ≠ Char.ofNat 0) = s.toList := by
    apply List.takeWhile_eq_self_iff.2
    intro c hc
    exact decide_eq_true (ne_of_mem_of_not_mem hc h)
  rw [cStr, ht, String.ofList_toList]

namespace DBusObjectPath

/-- `operator +` of two paths: the left one is copied, and the C string of the right one is
appended to the copy. -/
instance : Add DBusObjectPath := ⟨fun p rhs => p.append (cStr rhs.path)⟩

/-- The one separator that `append` sees to. -/
theorem toList_append (p : DBusObjectPath) (rhs : String) :
    (p.append rhs).path.toList = join '/' p.path.toList rhs.toList := by
  have hempty (s : String) : s.toList = [] ↔ s.isEmpty = true := by
    rw [String.isEmpty_iff, String.toList_eq_nil_iff]
  rw [append]
  by_cases hr : rhs.isEmpty = true
  · rw [if_pos hr, (hempty rhs).2 hr, join_nil]
  · rw [if_neg hr]
    by_cases hp : p.path.isEmpty = true
    · rw [if_pos hp, (hempty p.path).2 hp, nil_join]
    · rw [if_neg hp, join_eq (mt (hempty p.path).1 hp) (mt (hempty rhs).1 hr)]
      obtain ⟨l, x, hl⟩ := (List.eq_nil_or_concat p.path.toList).resolve_left (mt (hempty _).1 hp)
      obtain ⟨y, l', hl'⟩ := List.exists_cons_of_ne_nil (mt (hempty rhs).1 hr)
      rw [List.concat_eq_append] at hl
      simp only [hl, hl', List.getLast?_append, List.getLast?_singleton, List.head?_cons,
        Option.some_or]
      by_cases hx : x = '/'
      · by_cases hy : y = '/'
        · simp [hx, hy, hl']
        · simp [hx, hy, hl', hl, trimStart_cons hy]
      · by_cases hy : y = '/'
        · simp [hx, hy, hl', hl, trimEnd_concat hx]
        · simp [hx, hy, hl', hl, trimEnd_concat hx, trimStart_cons hy]

theorem path_inj {p q : DBusObjectPath} (h : p.path.toList = q.path.toList) : p = q := by
  cases p
  cases q
  exact congrArg mk (String.toList_inj.1 h)

theorem toList_add (p : DBusObjectPath) {q : DBusObjectPath} (hq : NulFree q.path) :
    (p + q).path.toList = join '/' p.path.toList q.path.toList := by
  have h : (p + q).path.toList = join '/' p.path.toList (cStr q.path).toList := toList_append p _
  rw [h, cStr_of_nulFree hq]

theorem nulFree_add (p : DBusObjectPath) {q : DBusObjectPath} (hp : NulFree p.path)
    (hq : NulFree q.path) : NulFree (p + q).path := by
  intro h
  rw [toList_add p hq] at h
  rcases mem_join h with h | h | h
  · exact absurd h (by decide)
  · exact hp h
  · exact hq h

/-- Paths that are put together from pieces do not depend on the grouping, and an empty piece
changes nothing. -/
theorem add_monoid {a b c : DBusObjectPath} (ha : NulFree a.path) (hb : NulFree b.path)
    (hc : NulFree c.path) :
    a + b + c = a + (b + c) ∧ (⟨""⟩ : DBusObjectPath) + a = a ∧
      a + (⟨""⟩ : DBusObjectPath) = a := by
  have hempty : NulFree (⟨""⟩ : DBusObjectPath).path := by decide
  refine ⟨path_inj ?_, path_inj ?_, path_inj ?_⟩
  · rw [toList_add _ hc, toList_add _ hb, toList_add _ (nulFree_add b hb hc), toList_add _ hc,
      join_assoc]
  · rw [toList_add _ ha]
    exact nil_join _
  · rw [toList_add _ hempty]
    exact join_nil _

/-- A lone slash between two others. -/
theorem add_monoid_slashes :
    let a : DBusObjectPath := ⟨"/app/"⟩
    let b : DBusObjectPath := ⟨"/"⟩
    let c : DBusObjectPath := ⟨"/char"⟩
    a + b + c = a + (b + c) ∧ (⟨""⟩ : DBusObjectPath) + a = a ∧
      a + (⟨""⟩ : DBusObjectPath) = a := by
  intro a b c
  exact add_monoid (by decide) (by decide) (by decide)

end DBusObjectPath

/-- One or more letters, digits and underscores. -/
def isSegment (part : List Char) : Bool :=
  part != [] && part.all fun c => c.isAlphanum || c == '_'

/-- The root, or segments that each have a slash in front. -/
def isObjectPath (path : String) : Bool :=
  match path.toList with
  | [] => false
  | c :: rest => c == '/' && (rest == [] || (rest.splitOn '/').all isSegment)

/-- Segments with single slashes between them. -/
def isRelativePath (path : String) : Bool := (path.toList.splitOn '/').all isSegment

/-- The names of the nodes on the way. -/
def pathSegments (path : String) : List (List Char) := segments '/' path.toList

theorem isSegment_spec (h : isSegment part = true) : part ≠ [] ∧ '/' ∉ part := by
  obtain ⟨hne, hall⟩ := Bool.and_eq_true_iff.1 h
  refine ⟨bne_iff_ne.1 hne, fun hslash => ?_⟩
  exact absurd (List.all_eq_true.1 hall '/' hslash) (by decide)

/-- An object path is the root or has segments. -/
theorem isObjectPath_iff {path : String} : isObjectPath path = true ↔
    path.toList = ['/'] ∨ ∃ parts, parts ≠ [] ∧ (∀ part ∈ parts, isSegment part = true) ∧
      path.toList = absolute '/' parts := by
  rw [isObjectPath]
  cases hl : path.toList with
  | nil =>
    apply iff_of_false Bool.false_ne_true
    rintro (h | ⟨parts, hne, _, h⟩)
    · cases h
    · rw [absolute_eq hne] at h
      cases h
  | cons c rest =>
    rw [Bool.and_eq_true, Bool.or_eq_true, beq_iff_eq, beq_iff_eq, List.all_eq_true]
    apply Iff.intro
    · rintro ⟨rfl, rfl | hall⟩
      · exact .inl rfl
      · refine .inr ⟨rest.splitOn '/', List.splitOn_ne_nil _ _, hall, ?_⟩
        rw [absolute_eq (List.splitOn_ne_nil _ _), List.intercalate_splitOn]
    · rintro (h | ⟨parts, hne, hall, h⟩)
      · cases h
        exact ⟨rfl, .inl rfl⟩
      · rw [absolute_eq hne] at h
        cases h
        refine ⟨rfl, .inr ?_⟩
        rw [List.splitOn_intercalate '/' (fun part hp => (isSegment_spec (hall part hp)).2) hne]
        exact hall

theorem absolute_ne_root (hall : ∀ part ∈ parts, isSegment part = true) :
    absolute '/' parts ≠ ['/'] := by
  intro h
  have hend := trimEnd_absolute fun part hp => isSegment_spec (hall part hp)
  rw [h] at hend
  cases hend

theorem trimEnd_objectPath {path : String} (h : isObjectPath path = true) :
    ∃ parts, (∀ part ∈ parts, isSegment part = true) ∧
      trimEnd '/' path.toList = absolute '/' parts ∧ (parts = [] ↔ path.toList = ['/']) := by
  rcases isObjectPath_iff.1 h with h | ⟨parts, hne, hall, h⟩
  · refine ⟨[], List.forall_mem_nil _, ?_, iff_of_true rfl h⟩
    rw [h]
    exact trimEnd_sep []
  · have hend := trimEnd_absolute fun part hp => isSegment_spec (hall part hp)
    rw [h]
    exact ⟨parts, hall, hend, iff_of_false hne (absolute_ne_root hall)⟩

theorem trimStart_path {path : String}
    (h : isObjectPath path = true ∨ isRelativePath path = true) : path.toList = ['/'] ∨
      path.toList ≠ ['/'] ∧ ∃ parts, parts ≠ [] ∧ (∀ part ∈ parts, isSegment part = true) ∧
        trimStart '/' path.toList = ['/'].intercalate parts := by
  rcases h with h | h
  · rcases isObjectPath_iff.1 h with h | ⟨parts, hne, hall, h⟩
    · exact .inl h
    · refine .inr ⟨?_, parts, hne, hall, ?_⟩
      · rw [h]
        exact absolute_ne_root hall
      · rw [h, absolute_eq hne, trimStart_sep]
  · have hall := List.all_eq_true.1 h
    have hslash (rest : List Char) : path.toList ≠ '/' :: rest := by
      intro hl
      rw [hl, List.splitOn_cons_eq_if_modifyHead, if_pos (beq_self_eq_true _)] at hall
      exact (isSegment_spec (hall [] List.mem_cons_self)).1 rfl
    refine .inr ⟨hslash [], path.toList.splitOn '/', List.splitOn_ne_nil _ _, hall, ?_⟩
    rw [List.intercalate_splitOn]
    cases hl : path.toList with
    | nil => rfl
    | cons c rest => exact trimStart_cons (fun hc => hslash rest (hl.trans (by rw [hc]))) rest

theorem path_ne_nil {path : String} (h : isObjectPath path = true ∨ isRelativePath path = true) :
    path.toList ≠ [] := by
  intro hl
  rcases h with h | h
  · rw [isObjectPath, hl] at h
    cases h
  · rw [isRelativePath, hl] at h
    exact absurd h (by decide)

namespace DBusObjectPath
variable {p : DBusObjectPath} {q : String}

theorem append_root (hp : isObjectPath p.path = true) (hq : q.toList = ['/']) :
    isObjectPath (p.append q).path = true ↔ p.path.toList = ['/'] := by
  obtain ⟨parts, hall, hend, hnil⟩ := trimEnd_objectPath hp
  have hjoin : (p.append q).path.toList = absolute '/' parts ++ ['/'] := by
    rw [toList_append, hq, join_eq (path_ne_nil (.inl hp)) (List.cons_ne_nil _ _), hend,
      trimStart_sep]
  rw [← hnil]
  apply Iff.intro
  · intro h
    rcases isObjectPath_iff.1 h with hl | ⟨parts', _, hall', hl⟩
    · have hnone : absolute '/' parts = [] := List.append_left_eq_self.1 (hjoin.symm.trans hl)
      by_contra hne
      rw [absolute_eq hne] at hnone
      cases hnone
    · have hend' := trimEnd_absolute fun part hp => isSegment_spec (hall' part hp)
      rw [← hl, hjoin, trimEnd_sep] at hend'
      simp at hend'
  · intro h
    rw [h] at hjoin
    exact isObjectPath_iff.2 (.inl hjoin)

theorem append_segments (hp : isObjectPath p.path = true) (hne : q.toList ≠ [])
    (hparts : parts ≠ []) (hall : ∀ part ∈ parts, isSegment part = true)
    (hq : trimStart '/' q.toList = ['/'].intercalate parts) :
    isObjectPath (p.append q).path = true := by
  obtain ⟨parts₀, hall₀, hend, _⟩ := trimEnd_objectPath hp
  have hjoin := toList_append p q
  rw [join_absolute (path_ne_nil (.inl hp)) hne hend hq hparts] at hjoin
  have hne' : parts₀ ++ parts ≠ [] := List.append_ne_nil_of_right_ne_nil parts₀ hparts
  exact isObjectPath_iff.2 (.inr ⟨_, hne', List.forall_mem_append.2 ⟨hall₀, hall⟩, hjoin⟩)

/-- Appending appends the segments, and gives an object path unless the root is appended to a
path that is not the root. -/
theorem append_valid (hp : isObjectPath p.path = true)
    (hq : isObjectPath q = true ∨ isRelativePath q = true) :
    pathSegments (p.append q).path = pathSegments p.path ++ pathSegments q ∧
      (isObjectPath (p.append q).path = true ↔ (q = "/" → p.path = "/")) := by
  have hroot (s : String) : s = "/" ↔ s.toList = ['/'] := by
    rw [← String.toList_inj]
    rfl
  apply And.intro
  · rw [pathSegments, toList_append, segments_join]
    rfl
  · rw [hroot, hroot]
    rcases trimStart_path hq with h | ⟨hne, parts, hparts, hall, h⟩
    · rw [append_root hp h]
      exact ⟨fun hpath _ => hpath, fun hpath => hpath h⟩
    · exact iff_of_true (append_segments hp (path_ne_nil hq) hparts hall h)
        fun hq' => absurd hq' hne

theorem append_valid_segments :
    let p : DBusObjectPath := ⟨"/app"⟩
    pathSegments (p.append "service0/char1").path =
        pathSegments p.path ++ pathSegments "service0/char1" ∧
      (isObjectPath (p.append "service0/char1").path = true ↔
        ("service0/char1" = "/" → p.path = "/")) :=
  append_valid (by decide) (.inr (by decide))

end DBusObjectPath
end Ggk
