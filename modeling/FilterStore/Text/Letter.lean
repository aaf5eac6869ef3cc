/-!
# Letters and blanks

Names, operators and keywords are compared without regard to the case of the ASCII letters, and of
those alone: `É` and `é` are different columns, as they are to the database engine.  Two names are
the *same* when lowering both gives one text.

Everything a user types is trimmed before it is looked at: names, types, operators, list elements.
*Blank* means the Unicode property `White_Space`, which is wider than ASCII: a no-break space or an
ideographic space around a name is dropped as a plain space is, while a zero-width space is an
ordinary character.

Trimming and cutting are defined on lists of characters, so that a statement about them is an
induction on the list; the functions on `String` wrap them.
-/

namespace FilterStore.Text

/-- Lowers the ASCII letters. -/
def lower (s : String) : String := String.ofList (s.toList.map Char.toLower)

/-- Raises the ASCII letters. -/
def upper (s : String) : String := String.ofList (s.toList.map Char.toUpper)

/-- Whether two names are one name up to the case of ASCII letters. -/
def sameName (a b : String) : Bool := lower a == lower b

theorem sameName_iff {a b : String} : sameName a b = true ↔ lower a = lower b := by
  simp [sameName]

@[simp] theorem sameName_refl (a : String) : sameName a a = true := by simp [sameName]

theorem sameName_comm (a b : String) : sameName a b = sameName b a := by
  simp [sameName, Bool.beq_comm]

theorem sameName_trans {a b c : String} (hab : sameName a b = true)
    (hbc : sameName b c = true) : sameName a c = true := by
  simp_all [sameName]

/-- Whether `part` occurs in `whole` as a block of neighbouring characters. -/
def occursIn (part : List Char) : List Char → Bool
  | [] => part.isEmpty
  | c :: rest => part.isPrefixOf (c :: rest) || occursIn part rest

/-- Whether a text mentions an upper-case word, whatever the case of its own letters. -/
def mentions (s word : String) : Bool := occursIn word.toList (upper s).toList

/-! ## Blanks -/

/-- The characters of the Unicode property `White_Space`. -/
def isBlank (c : Char) : Bool :=
  let n := c.toNat
  (0x09 ≤ n && n ≤ 0x0d) || n == 0x20 || n == 0x85 || n == 0xa0 || n == 0x1680 ||
  (0x2000 ≤ n && n ≤ 0x200a) || n == 0x2028 || n == 0x2029 || n == 0x202f || n == 0x205f ||
  n == 0x3000

/-- Drops the blanks a text starts with. -/
def trimStart (cs : List Char) : List Char := cs.dropWhile isBlank

/-- Drops the blanks a text ends with. -/
def trimEnd (cs : List Char) : List Char := (cs.reverse.dropWhile isBlank).reverse

/-- Drops the blanks around a text. -/
def trimChars (cs : List Char) : List Char := trimEnd (trimStart cs)

/-- Drops the blanks around a string. -/
def trim (s : String) : String := String.ofList (trimChars s.toList)

/-- The maximal runs of characters that are not blank. -/
def words (s : String) : List String :=
  ((s.toList.splitOnP isBlank).filter fun w => !w.isEmpty).map String.ofList

/-- Elements of a comma-separated list: blanks around an element do not count, and an element
that is nothing but blanks is no element. -/
def commaList (s : String) : List String :=
  (((s.toList.splitOn ',').map trimChars).filter fun part => !part.isEmpty).map String.ofList

end FilterStore.Text
