import MiniGrc.App.JsonValues
import MiniGrc.ForStd.JsonText

/-!
# What `json.dumps` writes

The text of a value whose floats are numbers is a JSON text: strings are escaped, and
integers have no leading zero. (`json.dumps` writes the floats that are not finite as `NaN`
and `Infinity`, which JSON does not have.) The text of a mapping that is cut off is none.

## Key results

- `derives_compactChars`: the text of a value
- `isText_sortedDumps`: the same, with the keys in order
- `isText_take_sortedDumps_iff`: when the beginning of the text of a mapping is a JSON text
-/

namespace MiniGrc.Json

open JsonText

/-! ## Numbers -/

/-- The digits of a number that is not zero. -/
theorem isInt_toDigits_of_pos {n : Nat} (hn : 0 < n) :
    ∃ c u, c ≠ '0' ∧ Nat.toDigits 10 n = c :: u := by
  induction n using Nat.strongRecOn with
  | ind n ih =>
    rw [Nat.toDigits_eq_if (by decide)]
    split
    · exact ⟨Nat.digitChar n, [], mt Nat.digitChar_eq_zero.1 hn.ne', rfl⟩
    · next hle =>
      obtain ⟨c, u, hc, hdigits⟩ := ih (n / 10) (by omega) (by omega)
      exact ⟨c, u ++ [Nat.digitChar (n % 10)], hc, by rw [hdigits]; rfl⟩

/-- Decimal digits are an integer. -/
theorem isInt_toDigits (n : Nat) : IsInt (Nat.toDigits 10 n) := by
  rcases n.eq_zero_or_pos with rfl | hn
  · exact .inl rfl
  · obtain ⟨c, u, hc, hdigits⟩ := isInt_toDigits_of_pos hn
    exact .inr ⟨c, u, hc, hdigits, fun d hd =>
      Nat.isDigit_of_mem_toDigits (by decide) (by decide) hd⟩

/-- An integer as `str` writes it. -/
theorem isNumber_toString (n : Int) : IsNumber (toString n).toList := by
  cases n with
  | ofNat n =>
    refine ⟨[], Nat.toDigits 10 n, [], [], by decide, isInt_toDigits n, .inl rfl, .inl rfl, ?_⟩
    show n.repr.toList = _
    rw [Nat.toList_repr, List.nil_append, List.append_nil, List.append_nil]
  | negSucc n =>
    refine ⟨['-'], Nat.toDigits 10 (n + 1), [], [], by decide, isInt_toDigits _, .inl rfl,
      .inl rfl, ?_⟩
    show ("-" ++ (n + 1).repr).toList = _
    rw [String.toList_append, Nat.toList_repr, List.append_nil, List.append_nil]
    rfl

/-! ## Strings -/

/-- A digit below 16 is hexadecimal. -/
theorem isHex_digitChar {n : Nat} (h : n < 16) : isHex (Nat.digitChar n) := by
  revert n
  decide

/-- Hexadecimal digits are all hexadecimal. -/
theorem all_isHex_toDigits (n : Nat) : (Nat.toDigits 16 n).all isHex := by
  induction n using Nat.strongRecOn with
  | ind n ih =>
    rw [Nat.toDigits_eq_if (by decide)]
    split
    · next hlt => simpa using isHex_digitChar hlt
    · next hle =>
      have hlast := isHex_digitChar (n := n % 16) (Nat.mod_lt _ (by decide))
      simp [ih (n / 16) (by omega), hlast]

/-- Four hexadecimal digits. -/
theorem hex4_spec {n : Nat} (h : n < 0x10000) : (hex4 n).length = 4 ∧ (hex4 n).all isHex := by
  have hle := (Nat.length_toDigits_le_iff (b := 16) (k := 4) (by decide) (by decide)).2 h
  constructor
  · rw [hex4, List.leftpad, List.length_append, List.length_replicate]
    omega
  · rw [hex4, List.leftpad, List.all_append, all_isHex_toDigits, List.all_replicate]
    simp [isHex]

/-- Characters after characters are characters. -/
theorem isCharacters_append {t u : List Char} (ht : IsCharacters t) (hu : IsCharacters u) :
    IsCharacters (t ++ u) := by
  induction ht with
  | nil => exact hu
  | plain hcontrol hquote hbackslash h ih => exact .plain hcontrol hquote hbackslash ih
  | escape hc h ih => exact .escape hc ih
  | unicode hlength hhex h ih =>
    rw [List.cons_append, List.cons_append, List.append_assoc]
    exact .unicode hlength hhex ih

/-- One escape of four hexadecimal digits. -/
theorem isCharacters_hex4 {n : Nat} (h : n < 0x10000) :
    IsCharacters (Char.ofNat 92 :: 'u' :: hex4 n) := by
  obtain ⟨hlength, hhex⟩ := hex4_spec h
  have hunicode := IsCharacters.unicode hlength hhex .nil
  rwa [List.append_nil] at hunicode

/-- What a character is written as. -/
theorem isCharacters_escapeChar (c : Char) : IsCharacters (escapeChar c) := by
  have hcode : ∀ {k : Nat}, c.toNat = k → c = Char.ofNat k := by
    rintro k rfl
    exact (Char.ofNat_toNat c).symm
  have hlt : c.toNat < 0x110000 := by
    have hvalid := c.valid
    have hval : c.toNat = c.val.toNat := rfl
    unfold UInt32.isValidChar Nat.isValidChar at hvalid
    omega
  unfold escapeChar
  simp only
  split_ifs with hquoted hprinted h8 h9 h10 h12 h13 hplane
  · refine .escape ?_ .nil
    rcases hquoted with h | h <;> rw [hcode h] <;> decide
  · refine .plain hprinted.1 ?_ ?_ .nil
    · exact fun h => hquoted (.inl (by rw [h]; rfl))
    · exact fun h => hquoted (.inr (by rw [h]; rfl))
  · exact .escape (by decide) .nil
  · exact .escape (by decide) .nil
  · exact .escape (by decide) .nil
  · exact .escape (by decide) .nil
  · exact .escape (by decide) .nil
  · exact isCharacters_hex4 hplane
  · exact isCharacters_append (isCharacters_hex4 (by omega)) (isCharacters_hex4 (by omega))

/-- A quoted text is a string. -/
theorem isString_quoted (text : String) : IsString (quoted text) := by
  refine ⟨text.toList.flatMap escapeChar, ?_, rfl⟩
  induction text.toList with
  | nil => exact .nil
  | cons c t ih => exact isCharacters_append (isCharacters_escapeChar c) ih

/-! ## Values -/

mutual

/-- The texts of the floats of a value. -/
def floats : Json → List String
  | .float text => [text]
  | .list items => itemFloats items
  | .dict fields => fieldFloats fields
  | _ => []
termination_by structural value => value

/-- The texts of the floats of a list. -/
def itemFloats : List Json → List String
  | [] => []
  | item :: items => floats item ++ itemFloats items
termination_by structural items => items

/-- The texts of the floats of an object. -/
def fieldFloats : List (String × Json) → List String
  | [] => []
  | field :: fields => memberFloats field ++ fieldFloats fields
termination_by structural fields => fields

/-- The texts of the floats of a field. -/
def memberFloats : String × Json → List String
  | (_, value) => floats value
termination_by structural field => field

end

/-- The floats are written as numbers: they are finite. -/
def AllNumbers (texts : List String) : Prop := ∀ text ∈ texts, IsNumber text.toList

/-- All of an appended list are numbers when all of its parts are. -/
theorem allNumbers_append {texts texts' : List String} :
    AllNumbers (texts ++ texts') ↔ AllNumbers texts ∧ AllNumbers texts' :=
  List.forall_mem_append

/-- The empty text is a space. -/
theorem isSpace_nil : IsSpace [] := fun _ hc => absurd hc List.not_mem_nil

/-- A blank is a space. -/
theorem isSpace_blank : IsSpace [' '] := fun c hc => by
  rw [List.mem_singleton.1 hc]
  decide

/-- An element before the other ones; the comma stands before their white space. -/
theorem elements_compactItems {w t : List Char} {items : List Json} (hw : IsSpace w)
    (h : Derives .value t) (hrest : items ≠ [] → Derives .elements (compactItems [' '] items)) :
    Derives .elements (w ++ t ++ compactItems [',', ' '] items) := by
  have helement : Derives .element (w ++ t) := by
    simpa using Derives.element hw h isSpace_nil
  cases items with
  | nil =>
    rw [compactItems, List.append_nil]
    exact .lastElement helement
  | cons item items => exact .elements helement (hrest (List.cons_ne_nil _ _))

/-- A member before the other ones. -/
theorem members_compactFields {t : List Char} {fields : List (String × Json)}
    (h : Derives .member t) (hrest : fields ≠ [] → Derives .members (compactFields [' '] fields)) :
    Derives .members (t ++ compactFields [',', ' '] fields) := by
  cases fields with
  | nil =>
    rw [compactFields, List.append_nil]
    exact .lastMember h
  | cons field fields => exact .members h (hrest (List.cons_ne_nil _ _))

/-- A name and its value. -/
theorem member_compactField {w t : List Char} (hw : IsSpace w) (key : String)
    (h : Derives .value t) : Derives .member (w ++ (quoted key ++ [':', ' '] ++ t)) := by
  have helement : Derives .element (' ' :: t) := by
    simpa using Derives.element isSpace_blank h isSpace_nil
  simpa using Derives.member hw (isString_quoted key) isSpace_nil helement

mutual

/-- The text of a value is that of a JSON value. -/
theorem derives_compactChars :
    ∀ value : Json, AllNumbers (floats value) → Derives .value (compactChars value)
  | .null, _ => .null
  | .bool true, _ => .true
  | .bool false, _ => .false
  | .int n, _ => .number (isNumber_toString n)
  | .float text, h => .number (h text (List.mem_singleton_self text))
  | .str text, _ => .string (isString_quoted text)
  | .list [], _ => .emptyList isSpace_nil
  | .list (item :: items), h =>
    .list (derives_compactItems (item :: items) (List.cons_ne_nil _ _) h isSpace_nil)
  | .dict [], _ => .emptyObject isSpace_nil
  | .dict (field :: fields), h =>
    .object (derives_compactFields (field :: fields) (List.cons_ne_nil _ _) h isSpace_nil)
termination_by structural value => value

/-- The elements of a list, behind white space. -/
theorem derives_compactItems : ∀ items : List Json, items ≠ [] → AllNumbers (itemFloats items) →
    ∀ {w}, IsSpace w → Derives .elements (compactItems w items)
  | [], hne, _, _, _ => absurd rfl hne
  | item :: items, _, h, _, hw =>
    elements_compactItems hw (derives_compactChars item (allNumbers_append.1 h).1) fun hne =>
      derives_compactItems items hne (allNumbers_append.1 h).2 isSpace_blank
termination_by structural items => items

/-- The fields of an object, behind white space. -/
theorem derives_compactFields : ∀ fields : List (String × Json), fields ≠ [] →
    AllNumbers (fieldFloats fields) → ∀ {w}, IsSpace w → Derives .members (compactFields w fields)
  | [], hne, _, _, _ => absurd rfl hne
  | field :: fields, _, h, _, hw =>
    members_compactFields (derives_compactField field (allNumbers_append.1 h).1 hw) fun hne =>
      derives_compactFields fields hne (allNumbers_append.1 h).2 isSpace_blank
termination_by structural fields => fields

/-- A field of an object, behind white space. -/
theorem derives_compactField : ∀ field : String × Json, AllNumbers (memberFloats field) →
    ∀ {w}, IsSpace w → Derives .member (w ++ compactField field)
  | (key, value), h, _, hw => member_compactField hw key (derives_compactChars value h)
termination_by structural field => field

end

/-! ## Keys in order -/

/-- The floats of an object do not depend on the order of its fields. -/
theorem mem_fieldFloats {text : String} {fields : List (String × Json)} :
    text ∈ fieldFloats fields ↔ ∃ field ∈ fields, text ∈ memberFloats field := by
  induction fields with
  | nil => simp [fieldFloats]
  | cons field fields ih => simp [fieldFloats, ih]

/-- Sorting the fields leaves their floats. -/
theorem mem_fieldFloats_insertionSort {text : String} {fields : List (String × Json)} :
    text ∈ fieldFloats (fields.insertionSort fun x y => x.1 ≤ y.1) ↔
      text ∈ fieldFloats fields := by
  simp only [mem_fieldFloats, List.mem_insertionSort]

mutual

/-- The floats of a value with its keys in order. -/
theorem mem_floats_sortKeys (text : String) :
    ∀ value : Json, text ∈ floats (sortKeys value) → text ∈ floats value
  | .null, h | .bool _, h | .int _, h | .float _, h | .str _, h => h
  | .list items, h => mem_itemFloats_sortItems text items h
  | .dict fields, h => mem_fieldFloats_sortFields text fields (mem_fieldFloats_insertionSort.1 h)
termination_by structural value => value

/-- Sorting inside items adds no float. -/
theorem mem_itemFloats_sortItems (text : String) :
    ∀ items : List Json, text ∈ itemFloats (sortItems items) → text ∈ itemFloats items
  | [], h => h
  | item :: items, h => List.mem_append.2 <| (List.mem_append.1 h).imp
    (mem_floats_sortKeys text item) (mem_itemFloats_sortItems text items)
termination_by structural items => items

/-- Sorting inside fields adds no float. -/
theorem mem_fieldFloats_sortFields (text : String) : ∀ fields : List (String × Json),
    text ∈ fieldFloats (sortFields fields) → text ∈ fieldFloats fields
  | [], h => h
  | field :: fields, h => List.mem_append.2 <| (List.mem_append.1 h).imp
    (mem_memberFloats_sortField text field) (mem_fieldFloats_sortFields text fields)
termination_by structural fields => fields

/-- Sorting inside a field adds no float. -/
theorem mem_memberFloats_sortField (text : String) : ∀ field : String × Json,
    text ∈ memberFloats (sortField field) → text ∈ memberFloats field
  | (_, value), h => mem_floats_sortKeys text value h
termination_by structural field => field

end

/-! ## Texts -/

/-- `json.dumps` of a value whose floats are finite is a JSON text. -/
theorem isText_sortedDumps {value : Json} (h : AllNumbers (floats value)) :
    IsText (sortedDumps value).toList := by
  rw [sortedDumps, String.toList_ofList]
  exact .of_value (derives_compactChars _ fun text hmem => h text (mem_floats_sortKeys text _ hmem))

/-- The text of a mapping stands in braces. -/
theorem toList_sortedDumps_dict {payload : JsonDict} (h : AllNumbers (floats (.dict payload))) :
    ∃ body, Balanced body ∧
      (sortedDumps (.dict payload)).toList = openBrace :: (body ++ [closeBrace]) := by
  generalize hsorted : (sortFields payload).insertionSort (fun x y => x.1 ≤ y.1) = sorted
  have hfloats : AllNumbers (fieldFloats sorted) := by
    intro text hmem
    rw [← hsorted] at hmem
    exact h text (mem_floats_sortKeys text (.dict payload) hmem)
  refine ⟨compactFields [] sorted, ?_, ?_⟩
  · -- An object without fields is a pair of braces.
    cases sorted with
    | nil => exact .of_all rfl
    | cons field fields =>
      exact (derives_compactFields _ (List.cons_ne_nil _ _) hfloats isSpace_nil).balanced
  · rw [sortedDumps, String.toList_ofList, sortKeys, hsorted, compactChars]
    rfl

/-- The beginning of the text of a mapping is a JSON text if nothing is cut off. -/
theorem isText_take_sortedDumps_iff {payload : JsonDict}
    (h : AllNumbers (floats (.dict payload))) {n : Nat} (hn : 0 < n) :
    IsText ((sortedDumps (.dict payload)).toList.take n) ↔
      (sortedDumps (.dict payload)).length ≤ n := by
  have htext := isText_sortedDumps h
  obtain ⟨body, hbody, hdumps⟩ := toList_sortedDumps_dict h
  rw [← String.length_toList]
  -- A text cut short leaves its brace open.
  constructor
  · intro hcut
    by_contra hlong
    rw [hdumps] at hcut hlong
    refine not_isText_of_prefix hbody (.inr rfl) (List.take_prefix _ _) ?_ ?_ hcut
    · rw [Ne, List.take_eq_nil_iff, not_or]
      exact ⟨hn.ne', List.cons_ne_nil _ _⟩
    · exact fun hall => hlong (List.take_eq_self_iff _ |>.1 hall)
  · intro hle
    rwa [List.take_of_length_le hle]

/-! ## Lengths -/

/-- The text of a list is at least as long as its elements together. -/
theorem mul_length_le_compactItems {k : Nat} {items : List Json} {w : List Char}
    (h : ∀ item ∈ items, k ≤ (compactChars item).length) :
    k * items.length ≤ (compactItems w items).length := by
  induction items generalizing w with
  | nil => exact Nat.zero_le _
  | cons item items ih =>
    have hitem := h item List.mem_cons_self
    have hrest := ih (w := [',', ' ']) fun x hx => h x (List.mem_cons_of_mem _ hx)
    rw [compactItems, List.length_append, List.length_append, List.length_cons]
    rw [Nat.mul_succ]
    omega

/-- The text of an object is at least as long as each of its fields. -/
theorem length_le_compactFields {field : String × Json} {fields : List (String × Json)}
    {w : List Char} (h : field ∈ fields) :
    (quoted field.1).length + (compactChars field.2).length ≤ (compactFields w fields).length := by
  induction fields generalizing w with
  | nil => cases h
  | cons first fields ih =>
    rw [compactFields, List.length_append, List.length_append]
    rcases List.mem_cons.1 h with rfl | h
    · rw [compactField, List.length_append, List.length_append]
      omega
    · have hrest := ih (w := [',', ' ']) h
      omega

/-- A field sorted inside is still a field. -/
theorem mem_sortFields {key : String} {value : Json} {fields : List (String × Json)}
    (h : (key, value) ∈ fields) : (key, sortKeys value) ∈ sortFields fields := by
  induction fields with
  | nil => cases h
  | cons field fields ih =>
    rcases List.mem_cons.1 h with rfl | h
    · exact List.mem_cons_self
    · exact List.mem_cons_of_mem _ (ih h)

/-- Items are sorted inside one by one. -/
theorem sortItems_eq_map (items : List Json) : sortItems items = items.map sortKeys := by
  induction items with
  | nil => rfl
  | cons item items ih => rw [sortItems, ih, List.map_cons]

/-- The text of an object with its keys in order is at least as long as each of its fields. -/
theorem length_le_compactChars_dict {key : String} {value : Json} {fields : JsonDict}
    (h : (key, value) ∈ fields) : (quoted key).length + (compactChars (sortKeys value)).length ≤
      (compactChars (sortKeys (.dict fields))).length := by
  have hmem : (key, sortKeys value) ∈ (sortFields fields).insertionSort fun x y => x.1 ≤ y.1 :=
    (List.mem_insertionSort _).2 (mem_sortFields h)
  have hle := length_le_compactFields (w := []) hmem
  simp only at hle
  rw [sortKeys, compactChars, List.length_cons, List.length_append]
  omega

end MiniGrc.Json
