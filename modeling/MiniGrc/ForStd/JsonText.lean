import Mathlib.Data.List.Infix

/-!
# JSON texts

The grammar of JSON (RFC 8259) over lists of characters, and the depth at which a text is
read: a text that stops within a list or an object is no JSON text.

The quote, the backslash and the braces are given by their codes.

## Key results

- `Derives.balanced`: a text of the grammar ends at the depth at which it begins
- `not_isText_of_prefix`: a list or an object that is cut off is no JSON text
-/

namespace JsonText

def quote : Char := Char.ofNat 34
def backslash : Char := Char.ofNat 92
def openBrace : Char := Char.ofNat 123
def closeBrace : Char := Char.ofNat 125

/-! ## The grammar -/

/-- White space between tokens. -/
def IsSpace (t : List Char) : Prop := ∀ c ∈ t, c ∈ [' ', '\t', '\n', '\r']

/-- A hexadecimal digit. -/
def isHex (c : Char) : Bool :=
  c.isDigit || c ∈ ['a', 'b', 'c', 'd', 'e', 'f', 'A', 'B', 'C', 'D', 'E', 'F']

/-- What stands between the quotes of a string. -/
inductive IsCharacters : List Char → Prop
  | nil : IsCharacters []
  | plain {c : Char} {t : List Char} (hcontrol : 32 ≤ c.toNat) (hquote : c ≠ quote)
      (hbackslash : c ≠ backslash) (h : IsCharacters t) : IsCharacters (c :: t)
  | escape {c : Char} {t : List Char}
      (hc : c ∈ [quote, backslash, '/', 'b', 'f', 'n', 'r', 't']) (h : IsCharacters t) :
      IsCharacters (backslash :: c :: t)
  | unicode {digits t : List Char} (hlength : digits.length = 4) (hhex : digits.all isHex)
      (h : IsCharacters t) : IsCharacters (backslash :: 'u' :: (digits ++ t))

/-- A string. -/
def IsString (t : List Char) : Prop := ∃ u, IsCharacters u ∧ t = quote :: (u ++ [quote])

/-- The digits after a point or in an exponent. -/
def IsDigits (t : List Char) : Prop := t ≠ [] ∧ ∀ c ∈ t, c.isDigit

/-- The integer part of a number; it has no leading zero. -/
def IsInt (t : List Char) : Prop :=
  t = ['0'] ∨ ∃ c u, c ≠ '0' ∧ t = c :: u ∧ ∀ c ∈ t, c.isDigit

/-- The fraction of a number. -/
def IsFraction (t : List Char) : Prop := t = [] ∨ ∃ u, IsDigits u ∧ t = '.' :: u

/-- The exponent of a number. -/
def IsExponent (t : List Char) : Prop :=
  t = [] ∨ ∃ c sign u, c ∈ ['e', 'E'] ∧ sign ∈ [[], ['+'], ['-']] ∧ IsDigits u ∧
    t = c :: (sign ++ u)

/-- A number. -/
def IsNumber (t : List Char) : Prop :=
  ∃ sign int fraction exponent, sign ∈ [[], ['-']] ∧ IsInt int ∧ IsFraction fraction ∧
    IsExponent exponent ∧ t = sign ++ int ++ fraction ++ exponent

/-- The symbols of the grammar. -/
inductive Symbol
  | value
  /-- a value with white space around it -/
  | element
  /-- one element or more, with commas -/
  | elements
  /-- a name and its element -/
  | member
  /-- one member or more, with commas -/
  | members

/-- The texts of a symbol. -/
inductive Derives : Symbol → List Char → Prop
  | null : Derives .value ['n', 'u', 'l', 'l']
  | true : Derives .value ['t', 'r', 'u', 'e']
  | false : Derives .value ['f', 'a', 'l', 's', 'e']
  | number {t : List Char} (h : IsNumber t) : Derives .value t
  | string {t : List Char} (h : IsString t) : Derives .value t
  | emptyList {t : List Char} (h : IsSpace t) : Derives .value ('[' :: (t ++ [']']))
  | list {t : List Char} (h : Derives .elements t) : Derives .value ('[' :: (t ++ [']']))
  | emptyObject {t : List Char} (h : IsSpace t) :
      Derives .value (openBrace :: (t ++ [closeBrace]))
  | object {t : List Char} (h : Derives .members t) :
      Derives .value (openBrace :: (t ++ [closeBrace]))
  | element {s t u : List Char} (hs : IsSpace s) (h : Derives .value t) (hu : IsSpace u) :
      Derives .element (s ++ t ++ u)
  | lastElement {t : List Char} (h : Derives .element t) : Derives .elements t
  | elements {t u : List Char} (h : Derives .element t) (hu : Derives .elements u) :
      Derives .elements (t ++ ',' :: u)
  | member {s t u v : List Char} (hs : IsSpace s) (ht : IsString t) (hu : IsSpace u)
      (h : Derives .element v) : Derives .member (s ++ t ++ u ++ ':' :: v)
  | lastMember {t : List Char} (h : Derives .member t) : Derives .members t
  | members {t u : List Char} (h : Derives .member t) (hu : Derives .members u) :
      Derives .members (t ++ ',' :: u)

/-- A JSON text. -/
def IsText (t : List Char) : Prop := Derives .element t

/-- A value alone is a JSON text. -/
theorem IsText.of_value {t : List Char} (h : Derives .value t) : IsText t := by
  have hnil : IsSpace [] := fun c hc => absurd hc List.not_mem_nil
  have helement := Derives.element hnil h hnil
  rwa [List.nil_append, List.append_nil] at helement

/-! ## Depth -/

/-- Where a character is read: outside of strings, inside of one, or behind a backslash. -/
inductive Mode
  | outside
  | inside
  | escaped
  deriving DecidableEq

/-- The depth and the mode after a character. -/
def scanChar : Int × Mode → Char → Int × Mode
  | (depth, .outside), c =>
    if c = quote then (depth, .inside)
    else if c = '[' ∨ c = openBrace then (depth + 1, .outside)
    else if c = ']' ∨ c = closeBrace then (depth - 1, .outside)
    else (depth, .outside)
  | (depth, .inside), c =>
    if c = quote then (depth, .outside)
    else if c = backslash then (depth, .escaped)
    else (depth, .inside)
  | (depth, .escaped), _ => (depth, .inside)

/-- The depth and the mode after a text. -/
def scan (state : Int × Mode) (t : List Char) : Int × Mode := t.foldl scanChar state

/-- A text that ends where it begins, and is never at a lower depth. -/
structure Balanced (t : List Char) : Prop where
  ends : ∀ depth, scan (depth, .outside) t = (depth, .outside)
  stays : ∀ depth p, p <+: t → depth ≤ (scan (depth, .outside) p).1

variable {s t u p : List Char} {c c' : Char}

/-- A text is scanned piece by piece. -/
theorem scan_append (state : Int × Mode) (t u : List Char) :
    scan state (t ++ u) = scan (scan state t) u := List.foldl_append

/-- A text is scanned character by character. -/
theorem scan_cons (state : Int × Mode) (c : Char) (t : List Char) :
    scan state (c :: t) = scan (scanChar state c) t := rfl

/-- A text in two parts begins within the first, or with the first and a part of the second. -/
theorem beginning_of_append (h : p <+: t ++ u) : p <+: t ∨ ∃ q, q <+: u ∧ p = t ++ q := by
  obtain ⟨rest, hrest⟩ := h
  rcases List.append_eq_append_iff.1 hrest with ⟨v, ht, -⟩ | ⟨q, hp, hu⟩
  · exact .inl ⟨v, ht.symm⟩
  · exact .inr ⟨q, ⟨rest, hu.symm⟩, hp⟩

/-- Balanced texts, one after the other, are balanced. -/
theorem Balanced.append (ht : Balanced t) (hu : Balanced u) : Balanced (t ++ u) where
  ends depth := by rw [scan_append, ht.ends, hu.ends]
  stays depth p hp := by
    rcases beginning_of_append hp with hp | ⟨q, hq, rfl⟩
    · exact ht.stays depth p hp
    · rw [scan_append, ht.ends]
      exact hu.stays depth q hq

/-- Characters that change neither depth nor mode. -/
theorem Balanced.of_plain
    (h : ∀ c ∈ t, c ∉ [quote, '[', openBrace, ']', closeBrace]) : Balanced t := by
  have hscan : ∀ depth p, (∀ c ∈ p, c ∉ [quote, '[', openBrace, ']', closeBrace]) →
      scan (depth, .outside) p = (depth, .outside) := by
    intro depth p hp
    induction p with
    | nil => rfl
    | cons c p ih =>
      have hc := hp c List.mem_cons_self
      simp only [List.mem_cons, List.not_mem_nil, or_false, not_or] at hc
      have hstep : scanChar (depth, .outside) c = (depth, .outside) := by
        simp [scanChar, hc]
      rw [scan_cons, hstep]
      exact ih fun c hc => hp c (List.mem_cons_of_mem _ hc)
  constructor
  · exact fun depth => hscan depth t h
  · intro depth p hp
    have hends := hscan depth p fun c hc => h c (hp.subset hc)
    exact Int.le_of_eq (by rw [hends])

/-- Within brackets or braces, a text is read at a higher depth. -/
theorem scan_open (hopen : c = '[' ∨ c = openBrace) (depth : Int) (t : List Char) :
    scan (depth, .outside) (c :: t) = scan (depth + 1, .outside) t := by
  have hstep : scanChar (depth, .outside) c = (depth + 1, .outside) := by
    rcases hopen with rfl | rfl <;> rfl
  rw [scan_cons, hstep]

/-- What begins a list or an object and does not end it is read at a higher depth. -/
theorem Balanced.lt_scan (h : Balanced t) (hopen : c = '[' ∨ c = openBrace)
    (hp : p <+: t) (depth : Int) : depth < (scan (depth, .outside) (c :: p)).1 := by
  rw [scan_open hopen]
  exact Int.lt_of_add_one_le (h.stays (depth + 1) p hp)

/-- The beginnings of a list or an object. -/
theorem beginning_of_enclosed (h : p <+: c :: (t ++ [c'])) :
    p = [] ∨ (∃ q, q <+: t ∧ p = c :: q) ∨ p = c :: (t ++ [c']) := by
  rcases List.prefix_cons_iff.1 h with rfl | ⟨q, rfl, hq⟩
  · exact .inl rfl
  · rcases List.prefix_concat_iff.1 hq with rfl | hq
    · exact .inr (.inr rfl)
    · exact .inr (.inl ⟨q, hq, rfl⟩)

/-- A balanced text between brackets or braces. -/
theorem Balanced.enclose (h : Balanced t) (hopen : c = '[' ∨ c = openBrace)
    (hclose : c' = ']' ∨ c' = closeBrace) : Balanced (c :: (t ++ [c'])) := by
  have hends : ∀ depth, scan (depth, .outside) (c :: (t ++ [c'])) = (depth, .outside) := by
    intro depth
    have hstep : scanChar (depth + 1, .outside) c' = (depth, .outside) := by
      rcases hclose with rfl | rfl <;> simp [scanChar, quote, openBrace, closeBrace]
    rw [scan_open hopen, scan_append, h.ends]
    exact hstep
  refine ⟨hends, fun depth p hp => ?_⟩
  rcases beginning_of_enclosed hp with rfl | ⟨q, hq, rfl⟩ | rfl
  · exact Int.le_refl depth
  · exact Int.le_of_lt (h.lt_scan hopen hq depth)
  · exact Int.le_of_eq (by rw [hends])

/-- A text within a string: it ends where it begins, and the depth does not change. -/
structure Quiet (t : List Char) : Prop where
  ends : ∀ depth, scan (depth, .inside) t = (depth, .inside)
  stays : ∀ depth p, p <+: t → (scan (depth, .inside) p).1 = depth

/-- The empty text is quiet. -/
theorem Quiet.nil : Quiet [] := by
  refine ⟨fun _ => rfl, fun depth p hp => ?_⟩
  rw [List.prefix_nil.1 hp]
  rfl

/-- Quiet texts, one after the other, are quiet. -/
theorem Quiet.append (ht : Quiet t) (hu : Quiet u) : Quiet (t ++ u) where
  ends depth := by rw [scan_append, ht.ends, hu.ends]
  stays depth p hp := by
    rcases beginning_of_append hp with hp | ⟨q, hq, rfl⟩
    · exact ht.stays depth p hp
    · rw [scan_append, ht.ends, hu.stays depth q hq]

/-- A plain character keeps a string quiet. -/
theorem Quiet.plain (hquote : c ≠ quote) (hbackslash : c ≠ backslash) (h : Quiet t) :
    Quiet (c :: t) := by
  have hstep : ∀ depth, scanChar (depth, .inside) c = (depth, .inside) := by
    intro depth
    simp [scanChar, hquote, hbackslash]
  constructor
  · intro depth
    rw [scan_cons, hstep, h.ends]
  · intro depth p hp
    rcases List.prefix_cons_iff.1 hp with rfl | ⟨q, rfl, hq⟩
    · rfl
    · rw [scan_cons, hstep, h.stays depth q hq]

/-- An escaped character keeps a string quiet. -/
theorem Quiet.escape (c : Char) (h : Quiet t) : Quiet (backslash :: c :: t) := by
  have hescaped : ∀ depth, scanChar (depth, .inside) backslash = (depth, .escaped) := fun _ => rfl
  have hstep : ∀ depth, scanChar (depth, .escaped) c = (depth, .inside) := fun _ => rfl
  constructor
  · intro depth
    rw [scan_cons, hescaped, scan_cons, hstep, h.ends]
  · intro depth p hp
    rcases List.prefix_cons_iff.1 hp with rfl | ⟨q, rfl, hq⟩
    · rfl
    rcases List.prefix_cons_iff.1 hq with rfl | ⟨r, rfl, hr⟩
    · rfl
    · rw [scan_cons, hescaped, scan_cons, hstep, h.stays depth r hr]

/-- Hexadecimal digits are no quotes and no backslashes. -/
theorem Quiet.hex {digits : List Char} (h : digits.all isHex) : Quiet digits := by
  induction digits with
  | nil => exact .nil
  | cons c digits ih =>
    rw [List.all_cons, Bool.and_eq_true] at h
    have hne : ∀ c', isHex c' = false → c ≠ c' := by
      rintro c' hc' rfl
      exact absurd h.1 (Bool.eq_false_iff.1 hc')
    exact .plain (hne quote (by decide)) (hne backslash (by decide)) (ih h.2)

/-- The characters of a string are quiet. -/
theorem IsCharacters.quiet (h : IsCharacters t) : Quiet t := by
  induction h with
  | nil => exact .nil
  | plain hcontrol hquote hbackslash h ih => exact .plain hquote hbackslash ih
  | escape hc h ih => exact .escape _ ih
  | unicode hlength hhex h ih => exact .escape 'u' (.append (.hex hhex) ih)

/-- A string is balanced. -/
theorem IsString.balanced (h : IsString t) : Balanced t := by
  obtain ⟨u, hu, rfl⟩ := h
  have hinside : ∀ depth, scanChar (depth, .outside) quote = (depth, .inside) := fun _ => rfl
  have houtside : ∀ depth, scanChar (depth, .inside) quote = (depth, .outside) := fun _ => rfl
  have hends : ∀ depth, scan (depth, .outside) (quote :: (u ++ [quote])) = (depth, .outside) := by
    intro depth
    rw [scan_cons, hinside, scan_append, hu.quiet.ends]
    exact houtside depth
  refine ⟨hends, fun depth p hp => Int.le_of_eq ?_⟩
  rcases beginning_of_enclosed hp with rfl | ⟨q, hq, rfl⟩ | rfl
  · rfl
  · rw [scan_cons, hinside, hu.quiet.stays depth q hq]
  · rw [hends]

/-! ## Texts of the grammar -/

/-- A character that changes neither depth nor mode. -/
def isPlain (c : Char) : Bool := c ∉ [quote, '[', openBrace, ']', closeBrace]

/-- A text of plain characters is balanced. -/
theorem Balanced.of_all (h : t.all isPlain) : Balanced t := by
  refine .of_plain fun c hc => ?_
  have hplain := List.all_eq_true.1 h c hc
  exact of_decide_eq_true hplain

/-- A digit is plain. -/
theorem isPlain_of_isDigit (h : c.isDigit) : isPlain c := by
  have hne : ∀ c', c'.isDigit = false → c ≠ c' := by
    rintro c' hc' rfl
    exact absurd h (Bool.eq_false_iff.1 hc')
  simp [isPlain, hne quote (by decide), hne '[' (by decide), hne openBrace (by decide),
    hne ']' (by decide), hne closeBrace (by decide)]

/-- Spaces are balanced. -/
theorem IsSpace.balanced (h : IsSpace t) : Balanced t := by
  have hplain : [' ', '\t', '\n', '\r'].all isPlain := by decide
  exact .of_all (List.all_eq_true.2 fun c hc => List.all_eq_true.1 hplain c (h c hc))

/-- Digits are balanced. -/
theorem IsDigits.balanced (h : IsDigits t) : Balanced t :=
  .of_all (List.all_eq_true.2 fun c hc => isPlain_of_isDigit (h.2 c hc))

/-- An integer is balanced. -/
theorem IsInt.balanced (h : IsInt t) : Balanced t := by
  rcases h with rfl | ⟨c, u, -, rfl, hdigits⟩
  · exact .of_all (by decide)
  · exact .of_all (List.all_eq_true.2 fun d hd => isPlain_of_isDigit (hdigits d hd))

/-- A number is balanced. -/
theorem IsNumber.balanced (h : IsNumber t) : Balanced t := by
  obtain ⟨sign, int, fraction, exponent, hsign, hint, hfraction, hexponent, rfl⟩ := h
  have hsigns : ∀ t ∈ [[], ['+'], ['-']], t.all isPlain := by decide
  have hminus : ∀ t ∈ [[], ['-']], t.all isPlain := by decide
  have hfraction : Balanced fraction := by
    rcases hfraction with rfl | ⟨u, hu, rfl⟩
    · exact .of_all rfl
    · exact .append (t := ['.']) (.of_all (by decide)) hu.balanced
  have hexponent : Balanced exponent := by
    rcases hexponent with rfl | ⟨c, s, u, hc, hs, hu, rfl⟩
    · exact .of_all rfl
    · have hletters : ['e', 'E'].all fun c => [c].all isPlain := by decide
      exact .append (t := [c]) (.of_all (List.all_eq_true.1 hletters c hc))
        (.append (.of_all (hsigns s hs)) hu.balanced)
  exact (((Balanced.of_all (hminus sign hsign)).append hint.balanced).append hfraction).append
    hexponent

/-- A text of the grammar ends at the depth at which it begins. -/
theorem Derives.balanced {symbol : Symbol} (h : Derives symbol t) : Balanced t := by
  have hcomma : Balanced [','] := .of_all (by decide)
  have hcolon : Balanced [':'] := .of_all (by decide)
  -- On the derivation: brackets and braces enclose what is balanced.
  induction h with
  | null => exact .of_all (by decide)
  | true => exact .of_all (by decide)
  | false => exact .of_all (by decide)
  | number h => exact h.balanced
  | string h => exact h.balanced
  | emptyList h => exact h.balanced.enclose (.inl rfl) (.inl rfl)
  | list h ih => exact ih.enclose (.inl rfl) (.inl rfl)
  | emptyObject h => exact h.balanced.enclose (.inr rfl) (.inr rfl)
  | object h ih => exact ih.enclose (.inr rfl) (.inr rfl)
  | element hs h hu ih => exact (hs.balanced.append ih).append hu.balanced
  | lastElement h ih => exact ih
  | elements h hu ih ihu => exact ih.append (hcomma.append ihu)
  | member hs ht hu h ih =>
    exact ((hs.balanced.append ht.balanced).append hu.balanced).append (hcolon.append ih)
  | lastMember h ih => exact ih
  | members h hu ih ihu => exact ih.append (hcomma.append ihu)

/-- A list or an object that is cut off is no JSON text. -/
theorem not_isText_of_prefix (h : Balanced t) (hopen : c = '[' ∨ c = openBrace)
    (hp : p <+: c :: (t ++ [c'])) (hnil : p ≠ []) (hcut : p ≠ c :: (t ++ [c'])) :
    ¬ IsText p := by
  intro htext
  have hends := (Derives.balanced htext).ends 0
  rcases beginning_of_enclosed hp with rfl | ⟨q, hq, rfl⟩ | rfl
  · exact hnil rfl
  · have hlt := h.lt_scan hopen hq 0
    rw [hends] at hlt
    exact absurd hlt (Int.lt_irrefl 0)
  · exact hcut rfl

end JsonText
