import Mathlib.Tactic.Common
import Mathlib.Data.List.Basic

namespace Lib.Xml
set_option autoImplicit true

inductive Element where
  | mk (name : String) (attributes : List (String × String)) (children : List Element)

namespace Element

def name : Element → String
  | .mk name _ _ => name

def attr (key : String) : Element → Option String
  | .mk _ attributes _ => attributes.lookup key

def childrenNamed (name : String) : Element → List Element
  | .mk _ _ children => children.filter fun e => e.name == name

/-- No attribute but those of the keys, none of them twice, and no child of another name. -/
def hasOnly (keys names : List String) : Element → Bool
  | .mk _ attributes children =>
    decide (attributes.map Prod.fst).Nodup && attributes.all (keys.contains ·.1) &&
      children.all (names.contains ·.name)

end Element

/-- A tag as far as it has been read. The values of its attributes are decoded. -/
structure Tag where
  name : List Char
  attributes : List (String × String)
  deriving DecidableEq

/-- Where in the text a reader is. Character data are skipped. -/
inductive Mode where
  | text
  | name (name : List Char)
  | gap (tag : Tag)
  | key (tag : Tag) (key : List Char)
  | equals (tag : Tag) (key : List Char)
  | value (tag : Tag) (key : List Char) (quote : Char) (raw : List Char)
  | slash (tag : Tag)
  | bad

/-- A reader keeps the open elements, innermost first, each with its children so far. -/
structure Reader where
  mode : Mode
  frames : List (Tag × List Element)

def decode : List Char → Option (List Char)
  | [] => some []
  | '&' :: 'a' :: 'm' :: 'p' :: ';' :: rest => (decode rest).map ('&' :: ·)
  | '&' :: 'a' :: 'p' :: 'o' :: 's' :: ';' :: rest => (decode rest).map ('\'' :: ·)
  | '&' :: 'q' :: 'u' :: 'o' :: 't' :: ';' :: rest => (decode rest).map ('"' :: ·)
  | '&' :: 'l' :: 't' :: ';' :: rest => (decode rest).map ('<' :: ·)
  | '&' :: 'g' :: 't' :: ';' :: rest => (decode rest).map ('>' :: ·)
  | c :: rest => if c = '&' then none else (decode rest).map (c :: ·)

theorem decode_cons (h : c ≠ '&') (rest : List Char) :
    decode (c :: rest) = (decode rest).map (c :: ·) := by
  rw [decode, if_neg h] <;> exact fun _ hc => absurd hc h

/-- What becomes of a decoded character in the value of an attribute. Blanks become spaces, and
no other control character is allowed. -/
def normalizeChar (c : Char) : Option Char :=
  if 32 ≤ c.toNat then some c else if c.isWhitespace then some ' ' else none

def normalize (s : String) : Option String := (s.toList.mapM normalizeChar).map String.ofList

def Element.value (key : String) (e : Element) : Option String := (e.attr key).bind normalize

/-- A text without control characters. -/
def Plain (s : String) : Prop := ∀ c ∈ s.toList, 32 ≤ c.toNat

theorem normalize_plain (h : Plain s) : normalize s = some s := by
  have hchars (l : List Char) (hl : ∀ c ∈ l, 32 ≤ c.toNat) : l.mapM normalizeChar = some l := by
    induction l with
    | nil => rfl
    | cons c l ih =>
      have hc : normalizeChar c = some c := if_pos (hl c List.mem_cons_self)
      rw [List.mapM_cons, hc, ih fun d hd => hl d (List.mem_cons_of_mem c hd)]
      rfl
  rw [normalize, hchars s.toList h, Option.map_some, String.ofList_toList]

namespace Reader

def element (tag : Tag) (children : List Element) : Element :=
  .mk (String.ofList tag.name) tag.attributes children

def add (e : Element) : List (Tag × List Element) → Reader
  | (tag, children) :: frames => ⟨.text, (tag, children ++ [e]) :: frames⟩
  | [] => ⟨.bad, []⟩

/-- The end of a tag, which opens an element or closes the innermost one. -/
def finish (tag : Tag) (frames : List (Tag × List Element)) : Reader :=
  match tag.name with
  | '/' :: name =>
    match frames with
    | (opened, children) :: frames =>
      if opened.name = name then add (element opened children) frames else ⟨.bad, frames⟩
    | [] => ⟨.bad, []⟩
  | _ => ⟨.text, (tag, []) :: frames⟩

def step (r : Reader) (c : Char) : Reader :=
  match r.mode with
  | .text => if c = '<' then ⟨.name [], r.frames⟩ else r
  | .name name =>
    if c = '>' then finish ⟨name, []⟩ r.frames
    else if c.isWhitespace then ⟨.gap ⟨name, []⟩, r.frames⟩
    else if c = '/' ∧ name ≠ [] then ⟨.slash ⟨name, []⟩, r.frames⟩
    else ⟨.name (name ++ [c]), r.frames⟩
  | .gap tag =>
    if c = '>' then finish tag r.frames
    else if c.isWhitespace then r
    else if c = '/' ∨ c = '?' then ⟨.slash tag, r.frames⟩
    else ⟨.key tag [c], r.frames⟩
  | .key tag key =>
    if c = '=' then ⟨.equals tag key, r.frames⟩
    else if c = '<' ∨ c = '>' then ⟨.bad, r.frames⟩
    else ⟨.key tag (key ++ [c]), r.frames⟩
  | .equals tag key =>
    if c = '\'' ∨ c = '"' then ⟨.value tag key c [], r.frames⟩ else ⟨.bad, r.frames⟩
  | .value tag key quote raw =>
    if c = quote then
      match decode raw with
      | none => ⟨.bad, r.frames⟩
      | some value =>
        ⟨.gap { tag with attributes :=
          tag.attributes ++ [(String.ofList key, String.ofList value)] }, r.frames⟩
    else if c = '<' then ⟨.bad, r.frames⟩
    else ⟨.value tag key quote (raw ++ [c]), r.frames⟩
  | .slash tag => if c = '>' then add (element tag []) r.frames else ⟨.bad, r.frames⟩
  | .bad => r

def feed (r : Reader) (s : String) : Reader := s.toList.foldl step r

variable {tag : Tag} {frames : List (Tag × List Element)}

theorem feed_append (r : Reader) (s t : String) : feed r (s ++ t) = feed (feed r s) t := by
  rw [feed, String.toList_append, List.foldl_append, feed, feed]

@[simp] theorem feed_empty (r : Reader) : feed r "" = r := rfl

theorem foldl_value {l : List Char} (h : ∀ c ∈ l, c ≠ quote ∧ c ≠ '<') :
    l.foldl step ⟨.value tag key quote raw, frames⟩ =
      ⟨.value tag key quote (raw ++ l), frames⟩ := by
  induction l generalizing raw with
  | nil => rw [List.foldl_nil, List.append_nil]
  | cons c l ih =>
    obtain ⟨hq, hlt⟩ := h c List.mem_cons_self
    have hstep : step ⟨.value tag key quote raw, frames⟩ c =
        ⟨.value tag key quote (raw ++ [c]), frames⟩ := by
      rw [step]
      simp only [hq, hlt, if_false]
    rw [List.foldl_cons, hstep, ih fun d hd => h d (List.mem_cons_of_mem c hd), List.append_assoc]
    rfl

/-- A text that is read, quote and all, as the value of an attribute. -/
structure Encodes (quote : Char) (s v : String) : Prop where
  free : ∀ c ∈ s.toList, c ≠ quote ∧ c ≠ '<'
  decode : decode s.toList = some v.toList

theorem feed_value (h : Encodes quote s v) (ht : t.toList = quote :: rest) :
    feed (feed ⟨.value tag key quote [], frames⟩ s) t = rest.foldl step
      ⟨.gap { tag with attributes := tag.attributes ++ [(String.ofList key, v)] }, frames⟩ := by
  have hquote : step ⟨.value tag key quote s.toList, frames⟩ quote =
      ⟨.gap { tag with attributes := tag.attributes ++ [(String.ofList key, v)] }, frames⟩ := by
    rw [step]
    simp only [if_true, h.decode, String.ofList_toList]
  rw [feed, feed, foldl_value h.free, ht, List.foldl_cons, List.nil_append, hquote]

/-- A text that adds the elements to those that the innermost open one has. -/
def Reads (s : String) (es : List Element) : Prop :=
  ∀ tag children frames,
    feed ⟨.text, (tag, children) :: frames⟩ s = ⟨.text, (tag, children ++ es) :: frames⟩

theorem Reads.append (hs : Reads s es) (ht : Reads t es') : Reads (s ++ t) (es ++ es') := by
  intro tag children frames
  rw [feed_append, hs, ht, List.append_assoc]

theorem reads_blank (n : Nat) : Reads (String.ofList (List.replicate n ' ')) [] := by
  intro tag children frames
  rw [feed, String.toList_ofList, List.append_nil]
  induction n with
  | zero => rfl
  | succ n ih => exact ih

theorem Reads.join {f : α → String} {g : α → Element} {l : List α}
    (h : ∀ a ∈ l, Reads (f a) [g a]) : Reads (String.join (l.map f)) (l.map g) := by
  induction l with
  | nil =>
    intro tag children frames
    rw [List.map_nil, List.map_nil, List.append_nil, String.join_nil]
    rfl
  | cons a l ih =>
    have ha := h a List.mem_cons_self
    have hl := ih fun b hb => h b (List.mem_cons_of_mem a hb)
    rw [List.map_cons, List.map_cons, String.join_cons]
    exact ha.append hl

end Reader

/-- The elements of a document. -/
def read (s : String) : Option (List Element) :=
  match Reader.feed ⟨.text, [(⟨[], []⟩, [])]⟩ s with
  | ⟨.text, [(_, children)]⟩ => some children
  | _ => none

end Lib.Xml
