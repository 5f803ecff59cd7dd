import MiniGrc.App.Events

/-!
# Python strings

The methods of `str` and the `repr` that the application uses in more than one place.
-/

namespace MiniGrc

/-! ## Stripping and replacing -/

/-- The characters that `str.strip()` removes. -/
def isPySpace (c : Char) : Bool :=
  let n := c.toNat
  (9 ≤ n && n ≤ 13) || (28 ≤ n && n ≤ 32) || n == 0x85 || n == 0xA0 || n == 0x1680 ||
    (0x2000 ≤ n && n ≤ 0x200A) || n == 0x2028 || n == 0x2029 || n == 0x202F || n == 0x205F ||
    n == 0x3000

/-- `str.strip()`, of characters. -/
def strip (text : List Char) : List Char :=
  (((text.dropWhile isPySpace).reverse).dropWhile isPySpace).reverse

/-- `text.strip()`. -/
def stripText (text : String) : String := .ofList (strip text.toList)

/-- `value.replace("Z", "+00:00")`. -/
def replaceZ (value : String) : String :=
  .ofList (value.toList.flatMap fun c => if c = 'Z' then "+00:00".toList else [c])

/-- `not text.strip()`. -/
def isBlank (text : String) : Bool := text.toList.all isPySpace

/-! ## Representations -/

/-- `{text!r}` for a printable string: in single quotes (39) unless it holds single and no
    double (34) ones, with the quote and the backslash (92) escaped. -/
def pyRepr (text : String) : String :=
  let quote := if text.contains (Char.ofNat 39) && !text.contains (Char.ofNat 34)
    then Char.ofNat 34 else Char.ofNat 39
  let escape (c : Char) : List Char :=
    if c = quote ∨ c = Char.ofNat 92 then [Char.ofNat 92, c] else [c]
  String.ofList (quote :: (text.toList.flatMap escape ++ [quote]))

/-- `{id!r}`. -/
def reprId (id : Id) : String := pyRepr (toString id)

/-- `{id!r}` where the id may be `None`. -/
def reprOptionalId (id : Option Id) : String := (id.map reprId).getD "None"

end MiniGrc
