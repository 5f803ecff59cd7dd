import Mathlib.Data.List.Sort

/-!
# JSON values

What `json` reads and writes, and the mappings of which it makes objects.
-/

namespace MiniGrc

/-- A value as `json` reads and writes it. -/
inductive Json
  | null
  | bool (value : Bool)
  | int (value : Int)
  /-- by its text -/
  | float (text : String)
  | str (value : String)
  | list (items : List Json)
  /-- the keys are distinct -/
  | dict (fields : List (String × Json))

/-- A mapping with its keys in insertion order. -/
abbrev JsonDict := List (String × Json)

/-- `d.get(key)`. -/
def JsonDict.get? (d : JsonDict) (key : String) : Option Json :=
  (d.find? fun field => field.1 = key).map Prod.snd

/-- `d[key] = value`. -/
def JsonDict.set (d : JsonDict) (key : String) (value : Json) : JsonDict :=
  if d.any fun field => field.1 = key then
    d.map fun field => if field.1 = key then (key, value) else field
  else d ++ [(key, value)]

/-- `bool(value)`. -/
def Json.truthy : Json → Bool
  | .null => false
  | .bool value => value
  | .int value => value ≠ 0
  | .float text => text ∉ ["0.0", "-0.0"]
  | .str value => value ≠ ""
  | .list items => !items.isEmpty
  | .dict fields => !fields.isEmpty

/-- `type(value).__name__`. -/
def Json.typeName : Json → String
  | .null => "NoneType"
  | .bool _ => "bool"
  | .int _ => "int"
  | .float _ => "float"
  | .str _ => "str"
  | .list _ => "list"
  | .dict _ => "dict"

/-! ## Texts -/

namespace Json

/-- Four hexadecimal digits. -/
def hex4 (n : Nat) : List Char := (Nat.toDigits 16 n).leftpad 4 '0'

/-- A character of a string, in ASCII: the quote (34), the backslash (92) and what is not
    printable are escaped, beyond the first plane as a pair of surrogates. -/
def escapeChar (c : Char) : List Char :=
  let escaped (code : List Char) : List Char := Char.ofNat 92 :: code
  let n := c.toNat
  if n = 34 ∨ n = 92 then escaped [c]
  else if 32 ≤ n ∧ n ≤ 126 then [c]
  else if n = 8 then escaped ['b']
  else if n = 9 then escaped ['t']
  else if n = 10 then escaped ['n']
  else if n = 12 then escaped ['f']
  else if n = 13 then escaped ['r']
  else if n < 0x10000 then escaped ('u' :: hex4 n)
  else
    escaped ('u' :: hex4 (0xD800 + (n - 0x10000) / 0x400)) ++
      escaped ('u' :: hex4 (0xDC00 + (n - 0x10000) % 0x400))

/-- A string in quotes. -/
def quoted (text : String) : List Char :=
  Char.ofNat 34 :: (text.toList.flatMap escapeChar ++ [Char.ofNat 34])

/-- A new line, indented. -/
def newline (indent : Nat) : List Char := Char.ofNat 10 :: List.replicate indent ' '

mutual

/-- The text of a value that stands at an indentation. -/
def chars (indent : Nat) : Json → List Char
  | .null => "null".toList
  | .bool value => (if value then "true" else "false").toList
  | .int value => (toString value).toList
  | .float text => text.toList
  | .str value => quoted value
  | .list items =>
    if items.isEmpty then ['[', ']']
    else '[' :: (itemChars (indent + 2) [] items ++ newline indent ++ [']'])
  | .dict fields =>
    if fields.isEmpty then [Char.ofNat 123, Char.ofNat 125]
    else Char.ofNat 123 :: (fieldChars (indent + 2) [] fields ++ newline indent ++ [Char.ofNat 125])
termination_by structural value => value

/-- The elements of a list; the separator stands before the first. -/
def itemChars (indent : Nat) (separator : List Char) : List Json → List Char
  | [] => []
  | item :: items =>
    separator ++ newline indent ++ chars indent item ++ itemChars indent [','] items
termination_by structural items => items

/-- The fields of an object. -/
def fieldChars (indent : Nat) (separator : List Char) : List (String × Json) → List Char
  | [] => []
  | field :: fields =>
    separator ++ newline indent ++ fieldText indent field ++ fieldChars indent [','] fields
termination_by structural fields => fields

/-- A field of an object. -/
def fieldText (indent : Nat) : String × Json → List Char
  | (key, value) => quoted key ++ [':', ' '] ++ chars indent value
termination_by structural field => field

end

mutual

/-- A value with the keys of its objects in order. -/
def sortKeys : Json → Json
  | .list items => .list (sortItems items)
  | .dict fields => .dict ((sortFields fields).insertionSort fun x y => x.1 ≤ y.1)
  | value => value
termination_by structural value => value

/-- The elements of a list. -/
def sortItems : List Json → List Json
  | [] => []
  | item :: items => sortKeys item :: sortItems items
termination_by structural items => items

/-- The fields of an object. -/
def sortFields : List (String × Json) → List (String × Json)
  | [] => []
  | field :: fields => sortField field :: sortFields fields
termination_by structural fields => fields

/-- A field of an object. -/
def sortField : String × Json → String × Json
  | (key, value) => (key, sortKeys value)
termination_by structural field => field

end

mutual

/-- The text of a value in one line. -/
def compactChars : Json → List Char
  | .null => "null".toList
  | .bool value => (if value then "true" else "false").toList
  | .int value => (toString value).toList
  | .float text => text.toList
  | .str value => quoted value
  | .list items => '[' :: (compactItems [] items ++ [']'])
  | .dict fields => Char.ofNat 123 :: (compactFields [] fields ++ [Char.ofNat 125])
termination_by structural value => value

/-- The elements of a list; the separator stands before the first. -/
def compactItems (separator : List Char) : List Json → List Char
  | [] => []
  | item :: items => separator ++ compactChars item ++ compactItems [',', ' '] items
termination_by structural items => items

/-- The fields of an object. -/
def compactFields (separator : List Char) : List (String × Json) → List Char
  | [] => []
  | field :: fields => separator ++ compactField field ++ compactFields [',', ' '] fields
termination_by structural fields => fields

/-- A field of an object. -/
def compactField : String × Json → List Char
  | (key, value) => quoted key ++ [':', ' '] ++ compactChars value
termination_by structural field => field

end

/-- `json.dumps(value, sort_keys=True)`. -/
def sortedDumps (value : Json) : String := .ofList (compactChars (sortKeys value))

/-- `json.dumps(value, indent=2).encode("utf-8")`. -/
def dumps (value : Json) : List UInt8 := (chars 0 value).map fun c => UInt8.ofNat c.toNat

end Json

/-- A string, or `null` for `None`. -/
def Json.ofOption (text : Option String) : Json := (text.map Json.str).getD .null

/-- The values of a field that is set first. -/
@[simp] theorem JsonDict.get?_cons_self {key : String} {value : Json} {d : JsonDict} :
    JsonDict.get? ((key, value) :: d) key = some value := by
  simp [JsonDict.get?]

/-- A field that is looked for among the later ones. -/
@[simp] theorem JsonDict.get?_cons_ne {key key' : String} {value : Json} {d : JsonDict}
    (h : key' ≠ key) : JsonDict.get? ((key', value) :: d) key = JsonDict.get? d key := by
  simp [JsonDict.get?, h]

/-- What a look-up finds has the key. -/
theorem JsonDict.fst_of_find {d : JsonDict} {key : String} {field : String × Json}
    (h : d.find? (fun field => field.1 = key) = some field) : field.1 = key := by
  have hfield := List.find?_some h
  exact of_decide_eq_true hfield

/-- `d[key] = value` is read back, and the other keys as before. -/
theorem JsonDict.get?_set {d : JsonDict} {key key' : String} {value : Json} :
    (d.set key value).get? key' = if key = key' then some value else d.get? key' := by
  have hkey : ∀ field : String × Json,
      (if field.1 = key then (key, value) else field).1 = field.1 := by
    intro field
    split
    · next h => exact h.symm
    · rfl
  unfold JsonDict.set
  split
  · next hany =>
    have hfind : JsonDict.get? (d.map fun field => if field.1 = key then (key, value) else field)
        key' = ((d.find? fun field => field.1 = key').map fun field =>
          if field.1 = key then (key, value) else field).map Prod.snd := by
      rw [JsonDict.get?, List.find?_map]
      simp only [Function.comp_def, hkey]
    rw [hfind, JsonDict.get?]
    cases hfound : d.find? fun field => decide (field.1 = key') with
    | none =>
      obtain ⟨field, hmem, hf⟩ := List.any_eq_true.1 hany
      have hne : key ≠ key' := by
        rintro rfl
        exact List.find?_eq_none.1 hfound field hmem hf
      rw [if_neg hne]
      rfl
    | some found =>
      have hfst := JsonDict.fst_of_find hfound
      by_cases h : key = key'
      · simp [h, hfst]
      · have hne : found.1 ≠ key := fun hf => h (hf.symm.trans hfst)
        simp [h, hne]
  · next hany =>
    rw [JsonDict.get?, List.find?_append, JsonDict.get?]
    split
    · next h =>
      subst h
      have hnone : (d.find? fun field => decide (field.1 = key)) = none :=
        List.find?_eq_none.2 fun field hmem hf => hany (List.any_eq_true.2 ⟨field, hmem, hf⟩)
      simp [hnone]
    · next h => simp [h]

end MiniGrc
