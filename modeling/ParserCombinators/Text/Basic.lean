/-!
Texts as sequences of code points. A code point is any number below 0x110000, the surrogates
0xD800 to 0xDFFF included: a text received from outside may hold a surrogate that is not half of
a pair, and it keeps it as one code point of its own, which a character cannot be. A text is a
list of code points.

A string is a text without surrogates (`Text.ofString`, written as a coercion, so that literals
stand for texts), and a text gives a string back with each surrogate replaced by the replacement
character (`Text.toString`), which undoes `Text.ofString` (`toString_ofString`). A text names a
string exactly when it has no surrogate (`Text.toString?`), which is how keywords are matched.
-/

namespace ParserCombinators

/-- A code point: a number below 0x110000, a surrogate or a character. -/
structure CodePoint where
  val : Nat
  lt : val < 0x110000
deriving DecidableEq, Repr

namespace CodePoint

theorem toNat_char_lt (c : Char) : c.toNat < 0x110000 := by
  have h := c.valid
  simp only [UInt32.isValidChar, Nat.isValidChar] at h
  simp only [Char.toNat]
  omega

instance : Inhabited CodePoint := ⟨⟨0, by decide⟩⟩

instance : LT CodePoint := ⟨fun a b => a.val < b.val⟩

instance : LE CodePoint := ⟨fun a b => a.val ≤ b.val⟩

instance (a b : CodePoint) : Decidable (a < b) := inferInstanceAs (Decidable (a.val < b.val))

instance (a b : CodePoint) : Decidable (a ≤ b) := inferInstanceAs (Decidable (a.val ≤ b.val))

def ofChar (c : Char) : CodePoint := ⟨c.toNat, toNat_char_lt c⟩

instance : Coe Char CodePoint := ⟨ofChar⟩

/-- The code point of a number; a number past the last code point gives the null code point, as
it gives the null character. -/
def ofNat (n : Nat) : CodePoint :=
  if h : n < 0x110000 then ⟨n, h⟩ else ⟨0, by decide⟩

/-- Whether a code point is a surrogate: half of a pair in UTF-16, and no character. -/
def isSurrogate (c : CodePoint) : Bool :=
  0xD800 ≤ c.val && c.val ≤ 0xDFFF

/-- The character of a code point; a surrogate gives the replacement character. -/
def toChar (c : CodePoint) : Char :=
  if c.isSurrogate then '\uFFFD' else Char.ofNat c.val

theorem ext_val {a b : CodePoint} (h : a.val = b.val) : a = b := by
  cases a; cases b; cases h; rfl

@[simp] theorem val_ofChar (c : Char) : (ofChar c).val = c.toNat := rfl

theorem le_def (a b : CodePoint) : a ≤ b ↔ a.val ≤ b.val := Iff.rfl

theorem lt_def (a b : CodePoint) : a < b ↔ a.val < b.val := Iff.rfl

theorem ofChar_inj {c d : Char} (h : ofChar c = ofChar d) : c = d := by
  have hv : c.toNat = d.toNat := congrArg CodePoint.val h
  exact Char.ext (UInt32.toNat_inj.mp hv)

theorem isSurrogate_ofChar (c : Char) : (ofChar c).isSurrogate = false := by
  have h := c.valid
  simp only [UInt32.isValidChar, Nat.isValidChar] at h
  have h' : c.toNat < 0xD800 ∨ 0xDFFF < c.toNat := by simp only [Char.toNat]; omega
  unfold isSurrogate
  rw [val_ofChar]
  cases h' with
  | inl h' => rw [decide_eq_false (Nat.not_le.mpr h'), Bool.false_and]
  | inr h' => rw [decide_eq_false (Nat.not_le.mpr h'), Bool.and_false]

@[simp] theorem toChar_ofChar (c : Char) : (ofChar c).toChar = c := by
  simp [toChar, isSurrogate_ofChar, Char.ofNat_toNat]

end CodePoint

abbrev Text := List CodePoint

namespace Text

def ofString (s : String) : Text :=
  s.toList.map CodePoint.ofChar

instance : Coe String Text := ⟨ofString⟩

/-- The string of a text, each surrogate replaced by the replacement character. -/
def toString (t : Text) : String :=
  String.ofList (t.map CodePoint.toChar)

def toString? (t : Text) : Option String :=
  if t.any CodePoint.isSurrogate then none else some t.toString

@[simp] theorem ofString_append (s t : String) : ofString (s ++ t) = ofString s ++ ofString t := by
  simp [ofString]

@[simp] theorem length_ofString (s : String) : (ofString s).length = s.length := by
  simp [ofString, String.length_toList]

@[simp] theorem toString_ofString (s : String) : (ofString s).toString = s := by
  simp [Text.toString, ofString, Function.comp_def]

theorem toString?_ofString (s : String) : (ofString s).toString? = some s := by
  have h : (ofString s).any CodePoint.isSurrogate = false := by
    simp [ofString, CodePoint.isSurrogate_ofChar]
  simp only [toString?, h, toString_ofString]
  rfl

example : (("a😀" : Text).map (·.val)) = [0x61, 0x1F600] := by decide

end Text

end ParserCombinators
