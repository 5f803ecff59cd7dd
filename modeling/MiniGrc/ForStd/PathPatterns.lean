import Mathlib.Data.List.Perm.Basic

/-!
# Patterns of paths

A pattern is a text whose segments, between the slashes, are literals or parameters in braces; a
path matches it segment by segment. As a regular expression that ends in a dollar sign does, a
pattern tolerates a line break after a literal at its end.

The first match in a list of patterns does not depend on the order of the list if no two of them
overlap, which a comparison of their segments decides. A path that is made from a pattern and
values for its parameters matches the pattern, with these values.
-/

namespace PathPatterns

/-- A segment of a pattern. -/
inductive Segment
  | literal (text : List Char)
  | param (name : List Char)
  deriving DecidableEq

/-- The segments of a pattern. -/
abbrev Pattern := List Segment

/-- What a text between two slashes is: a parameter, if it stands in braces. -/
def Segment.ofText (text : List Char) : Segment :=
  if text.head? = some (Char.ofNat 123) ∧ text.getLast? = some (Char.ofNat 125) then
    .param text.tail.dropLast
  else .literal text

/-- The parts of a path. -/
def parts (path : String) : List (List Char) := path.toList.splitOn '/'

/-- The pattern of a text. -/
def pattern (text : String) : Pattern := (parts text).map Segment.ofText

theorem pattern_ofList (text : List Char) :
    pattern (String.ofList text) = (text.splitOn '/').map Segment.ofText := by
  rw [pattern, parts, String.toList_ofList]

/-- A line break. -/
def newline : Char := Char.ofNat 10

/-! ## Matching -/

/-- A part is that of a segment. -/
def Segment.accepts (last : Bool) (part : List Char) : Segment → Bool
  | .literal text => part = text || (last && part = text ++ [newline])
  | .param _ => part ≠ []

/-- The parameter of a segment, with its value. -/
def Segment.binding (part : List Char) : Segment → List (String × String)
  | .literal _ => []
  | .param name => [(.ofList name, .ofList part)]

/-- The values of the parameters, if the parts match the pattern. -/
def bindings : Pattern → List (List Char) → Option (List (String × String))
  | [], [] => some []
  | [], _ :: _ | _ :: _, [] => none
  | segment :: segments, part :: parts =>
    if segment.accepts segments.isEmpty part then
      (bindings segments parts).map (segment.binding part ++ ·)
    else none

/-- Some part is that of both segments. -/
def Segment.overlaps (last : Bool) : Segment → Segment → Bool
  | .literal text, .literal text' =>
    text = text' || (last && (text ++ [newline] = text' || text = text' ++ [newline]))
  | _, _ => true

/-- Some path may match both patterns. -/
def overlaps : Pattern → Pattern → Bool
  | [], [] => true
  | [], _ :: _ | _ :: _, [] => false
  | segment :: segments, segment' :: segments' =>
    segment.overlaps segments.isEmpty segment' && overlaps segments segments'

theorem Segment.overlaps_of_accepts {segment segment' : Segment} {last : Bool}
    {part : List Char} (h : segment.accepts last part) (h' : segment'.accepts last part) :
    segment.overlaps last segment' := by
  cases segment with
  | param name => rfl
  | literal text =>
    cases segment' with
    | param name => rfl
    | literal text' =>
      simp only [accepts, Bool.or_eq_true, Bool.and_eq_true, decide_eq_true_eq] at h h'
      simp only [overlaps, Bool.or_eq_true, Bool.and_eq_true, decide_eq_true_eq]
      rcases h with rfl | ⟨hlast, rfl⟩
      · rcases h' with rfl | ⟨hlast, rfl⟩
        · exact .inl rfl
        · exact .inr ⟨hlast, .inr rfl⟩
      · rcases h' with rfl | ⟨-, h'⟩
        · exact .inr ⟨hlast, .inl rfl⟩
        · exact .inl (List.append_left_injective _ h')

/-- Patterns that both match a path overlap. -/
theorem overlaps_of_bindings {p q : Pattern} {path : List (List Char)}
    {values values' : List (String × String)} (h : bindings p path = some values)
    (h' : bindings q path = some values') : overlaps p q := by
  induction p generalizing q path values values' with
  | nil =>
    cases path with
    | cons part path => cases h
    | nil =>
      cases q with
      | nil => rfl
      | cons segment q => cases h'
  | cons segment p ih =>
    cases path with
    | nil => cases h
    | cons part path =>
      cases q with
      | nil => cases h'
      | cons segment' q =>
        simp only [bindings, Option.ite_none_right_eq_some, Option.map_eq_some_iff] at h h'
        obtain ⟨haccepts, values, h, -⟩ := h
        obtain ⟨haccepts', values', h', -⟩ := h'
        have hrest : overlaps p q := ih h h'
        -- the patterns have the same length, so both segments are the last or neither is
        have hempty : q.isEmpty = p.isEmpty := by
          cases p <;> cases q <;> first | rfl | cases hrest
        rw [hempty] at haccepts'
        rw [overlaps, hrest, Bool.and_true]
        exact Segment.overlaps_of_accepts haccepts haccepts'

/-! ## The first match -/

section First

variable {ρ α : Type} {f : ρ → Option α} {rows : List ρ} {a : α}

/-- If all matches agree, the first one is any of them. -/
theorem findSome?_eq_some_iff
    (h : ∀ x ∈ rows, ∀ y ∈ rows, ∀ a b, f x = some a → f y = some b → a = b) :
    rows.findSome? f = some a ↔ ∃ x ∈ rows, f x = some a := by
  constructor
  · exact List.exists_of_findSome?_eq_some
  · rintro ⟨x, hx, ha⟩
    cases hfind : rows.findSome? f with
    | none =>
      have hnone := List.findSome?_eq_none_iff.1 hfind x hx
      rw [ha] at hnone
      cases hnone
    | some b =>
      obtain ⟨y, hy, hb⟩ := List.exists_of_findSome?_eq_some hfind
      rw [h x hx y hy a b ha hb]

end First

/-! ## Paths from patterns -/

/-- The parts of a path with the given values of the parameters. -/
def fill (values : String → String) : Pattern → List (List Char)
  | [] => []
  | .literal text :: segments => text :: fill values segments
  | .param name :: segments => (values (.ofList name)).toList :: fill values segments

/-- The path with the given values of the parameters. -/
def url (values : String → String) (p : Pattern) : String :=
  .ofList (['/'].intercalate (fill values p))

/-- The parameters of a pattern with their values. -/
def assigned (values : String → String) : Pattern → List (String × String)
  | [] => []
  | .literal _ :: segments => assigned values segments
  | .param name :: segments => (.ofList name, values (.ofList name)) :: assigned values segments

/-- A value that may stand for a parameter. -/
def IsPart (value : String) : Prop := value ≠ "" ∧ '/' ∉ value.toList

/-- The parts of a list contain none of the separators. -/
theorem not_mem_of_mem_splitOn {c : Char} {text : List Char} {part : List Char}
    (h : part ∈ text.splitOn c) : c ∉ part := by
  induction text generalizing part with
  | nil =>
    obtain rfl : part = [] := by simpa using h
    exact List.not_mem_nil
  | cons d text ih =>
    rw [List.splitOn_cons_eq_if_modifyHead] at h
    split at h
    · rcases List.mem_cons.1 h with rfl | h
      · exact List.not_mem_nil
      · exact ih h
    · next hne =>
      -- the first part grows by a character that is no separator
      cases hparts : text.splitOn c with
      | nil => exact absurd hparts (List.splitOn_ne_nil c text)
      | cons first rest =>
        rw [hparts, List.modifyHead_cons, List.mem_cons] at h
        rw [hparts] at ih
        rcases h with rfl | h
        · rw [List.mem_cons, not_or]
          refine ⟨?_, ih List.mem_cons_self⟩
          rintro rfl
          exact hne (beq_self_eq_true c)
        · exact ih (List.mem_cons_of_mem _ h)

theorem bindings_fill {values : String → String} (h : ∀ name, values name ≠ "")
    (p : Pattern) : bindings p (fill values p) = some (assigned values p) := by
  induction p with
  | nil => rfl
  | cons segment p ih =>
    cases segment with
    | literal text => simp [fill, bindings, Segment.accepts, Segment.binding, assigned, ih]
    | param name =>
      have hpart : (values (.ofList name)).toList ≠ [] := by
        simpa using h (.ofList name)
      simp [fill, bindings, Segment.accepts, Segment.binding, assigned, ih, hpart]

theorem not_mem_fill {values : String → String} (h : ∀ name, '/' ∉ (values name).toList)
    {texts : List (List Char)} (htexts : ∀ text ∈ texts, '/' ∉ text) :
    ∀ text ∈ fill values (texts.map Segment.ofText), '/' ∉ text := by
  induction texts with
  | nil => simp [fill]
  | cons text texts ih =>
    obtain ⟨htext, htexts⟩ := List.forall_mem_cons.1 htexts
    rw [List.map_cons]
    unfold Segment.ofText
    split
    · rw [fill, List.forall_mem_cons]
      exact ⟨h _, ih htexts⟩
    · rw [fill, List.forall_mem_cons]
      exact ⟨htext, ih htexts⟩

/-- A path that is made from a pattern matches it, with the values that it is made with. -/
theorem bindings_url {values : String → String} (h : ∀ name, IsPart (values name))
    (text : String) : bindings (pattern text) (parts (url values (pattern text))) =
      some (assigned values (pattern text)) := by
  have hparts : parts (url values (pattern text)) = fill values (pattern text) := by
    rw [parts, url, String.toList_ofList, pattern]
    apply List.splitOn_intercalate
    · exact not_mem_fill (fun name => (h name).2) fun part hpart =>
        not_mem_of_mem_splitOn hpart
    · -- a path has at least one part
      intro hnil
      have hmap : (parts text).map Segment.ofText = [] := by
        cases hcase : (parts text).map Segment.ofText with
        | nil => rfl
        | cons segment segments =>
          rw [hcase] at hnil
          cases segment <;> cases hnil
      exact List.splitOn_ne_nil '/' text.toList (List.map_eq_nil_iff.1 hmap)
  rw [hparts, bindings_fill fun name => (h name).1]

end PathPatterns
