import SignOn.Json.Numeral

/-!
The grammar of JSON texts, apart from any reader.

* `Spelt`: the spellings of a string between its quotes;
* `Numeral.Written`: the spellings of a number;
* `Written`: the texts of a value, of lists of values and of members.

Blanks may stand around every value and every name. An escape may stand for any
character, and for every character that is neither a quote nor a backslash nor a
control the character may stand itself, in UTF-8.
-/

namespace SignOn.Json

/-! ## Strings -/

/-- The letters that stand for one character behind a backslash, with that
character. -/
def shortEscapes : List (Char × Char) :=
  [('"', '"'), ('\\', '\\'), ('/', '/'), ('b', '\x08'), ('f', '\x0C'), ('n', '\n'), ('r', '\r'),
    ('t', '\t')]

/-- A hexadecimal digit in either case, and its value. -/
def HexDigit (b : UInt8) (n : Nat) : Prop :=
  (n < 10 ∧ b.toNat = 0x30 + n) ∨
    (10 ≤ n ∧ n < 16 ∧ (b.toNat = 0x61 + (n - 10) ∨ b.toNat = 0x41 + (n - 10)))

/-- Four hexadecimal digits and the number that they denote. -/
inductive Quad : List UInt8 → Nat → Prop
  | mk {a b c d : UInt8} {i j k l : Nat} :
      HexDigit a i → HexDigit b j → HexDigit c k → HexDigit d l →
      Quad [a, b, c, d] (((i * 16 + j) * 16 + k) * 16 + l)

/-- The characters of a string and what stands for them between the quotes. -/
inductive Spelt : List Char → List UInt8 → Prop
  | nil : Spelt [] []
  | plain {c : Char} {cs : List Char} {s : List UInt8} :
      c ≠ '"' → c ≠ '\\' → 0x20 ≤ c.toNat → Spelt cs s →
      Spelt (c :: cs) (String.utf8EncodeChar c ++ s)
  | short {letter c : Char} {cs : List Char} {s : List UInt8} :
      (letter, c) ∈ shortEscapes → Spelt cs s →
      Spelt (c :: cs) (Byte.backslash :: UInt8.ofNat letter.toNat :: s)
  /-- An escape that stands for a character by itself: no surrogate. -/
  | unit {q : List UInt8} {n : Nat} {cs : List Char} {s : List UInt8} :
      Quad q n → n < 0xD800 ∨ 0xDFFF < n → Spelt cs s →
      Spelt (Char.ofNat n :: cs) (Byte.backslash :: 0x75 :: (q ++ s))
  /-- A leading and a trailing surrogate stand for one character beyond 16 bits. -/
  | pair {q q' : List UInt8} {lead trail : Nat} {cs : List Char} {s : List UInt8} :
      Quad q lead → Quad q' trail → 0xD800 ≤ lead → lead ≤ 0xDBFF → 0xDC00 ≤ trail →
      trail ≤ 0xDFFF → Spelt cs s →
      Spelt (Char.ofNat (0x10000 + (lead - 0xD800) * 0x400 + (trail - 0xDC00)) :: cs)
        (Byte.backslash :: 0x75 :: (q ++ Byte.backslash :: 0x75 :: (q' ++ s)))

/-! ## Numbers -/

/-- Decimal digits, at least one. -/
def Digits (ds : List UInt8) : Prop := ds ≠ [] ∧ ∀ d ∈ ds, isDigit d

/-- The number that decimal digits denote. -/
def decimal (ds : List UInt8) : Nat := ds.foldl (fun n d => n * 10 + digitValue d) 0

namespace Numeral

/-- A point and digits, or nothing. -/
inductive FractionWritten : Option (List UInt8) → List UInt8 → Prop
  | absent : FractionWritten none []
  | present {ds : List UInt8} : Digits ds → FractionWritten (some ds) (Byte.point :: ds)

/-- The letter of an exponent in either case, a sign or none, and digits; or
nothing. A plus says nothing. -/
inductive ExponentWritten : Option (Bool × List UInt8) → List UInt8 → Prop
  | absent : ExponentWritten none []
  | unsigned {e : UInt8} {ds : List UInt8} : e = 0x65 ∨ e = 0x45 → Digits ds →
      ExponentWritten (some (false, ds)) (e :: ds)
  | plus {e : UInt8} {ds : List UInt8} : e = 0x65 ∨ e = 0x45 → Digits ds →
      ExponentWritten (some (false, ds)) (e :: Byte.plus :: ds)
  | minus {e : UInt8} {ds : List UInt8} : e = 0x65 ∨ e = 0x45 → Digits ds →
      ExponentWritten (some (true, ds)) (e :: Byte.minus :: ds)

/-- A minus or nothing, digits of which the first is no zero unless it stands
alone, and then a fraction and an exponent. -/
inductive Written : Numeral → List UInt8 → Prop
  | mk {n : Numeral} {f e : List UInt8} :
      Digits n.whole → (n.whole.head? = some 0x30 → n.whole = [0x30]) →
      FractionWritten n.fraction f → ExponentWritten n.exponent e →
      Written n ((if n.negative then [Byte.minus] else []) ++ (n.whole ++ (f ++ e)))

/-- The integer that a numeral denotes without point and exponent. Minus zero is
none. -/
def integer? (n : Numeral) : Option Int :=
  if n.fraction = none ∧ n.exponent = none ∧ ¬ (n.negative ∧ decimal n.whole = 0) then
    some (if n.negative then -(decimal n.whole : Int) else decimal n.whole)
  else none

end Numeral

/-! ## Values -/

/-- What a text says. The blanks and the spelling of its strings are forgotten;
numbers, and the order of members, are kept as they stand. -/
inductive Datum
  | null
  | flag (b : Bool)
  | number (n : Numeral)
  | text (s : String)
  | list (items : List Datum)
  | object (members : List (String × Datum))

/-- Blanks only. -/
def Blanks (s : List UInt8) : Prop := ∀ b ∈ s, isBlank b

theorem blanks_nil : Blanks [] := List.forall_mem_nil _

/-- What a stretch of a text may be: a value, by itself or with blanks around it;
values with commas between them; a member with blanks around its name and its
value; members with commas between them. -/
inductive Phrase
  | value (d : Datum)
  | padded (d : Datum)
  | items (ds : List Datum)
  | member (name : String) (d : Datum)
  | members (ms : List (String × Datum))

/-- The texts of a phrase. A whole document is a padded value. -/
inductive Written : Phrase → List UInt8 → Prop
  | null : Written (.value .null) [0x6E, 0x75, 0x6C, 0x6C]
  | yes : Written (.value (.flag true)) [0x74, 0x72, 0x75, 0x65]
  | no : Written (.value (.flag false)) [0x66, 0x61, 0x6C, 0x73, 0x65]
  | number {n : Numeral} {s : List UInt8} : n.Written s → Written (.value (.number n)) s
  | text {t : String} {s : List UInt8} : Spelt t.toList s →
      Written (.value (.text t)) (Byte.quote :: (s ++ [Byte.quote]))
  | emptyList {w : List UInt8} : Blanks w →
      Written (.value (.list [])) (Byte.openList :: (w ++ [Byte.closeList]))
  | list {ds : List Datum} {s : List UInt8} : Written (.items ds) s →
      Written (.value (.list ds)) (Byte.openList :: (s ++ [Byte.closeList]))
  | emptyObject {w : List UInt8} : Blanks w →
      Written (.value (.object [])) (Byte.openObject :: (w ++ [Byte.closeObject]))
  | object {ms : List (String × Datum)} {s : List UInt8} : Written (.members ms) s →
      Written (.value (.object ms)) (Byte.openObject :: (s ++ [Byte.closeObject]))
  | padded {d : Datum} {w s w' : List UInt8} : Blanks w → Written (.value d) s → Blanks w' →
      Written (.padded d) (w ++ (s ++ w'))
  | oneItem {d : Datum} {s : List UInt8} : Written (.padded d) s → Written (.items [d]) s
  | moreItems {d : Datum} {ds : List Datum} {s t : List UInt8} :
      Written (.padded d) s → Written (.items ds) t →
      Written (.items (d :: ds)) (s ++ Byte.comma :: t)
  | member {name : String} {d : Datum} {w k w' s : List UInt8} :
      Blanks w → Spelt name.toList k → Blanks w' → Written (.padded d) s →
      Written (.member name d) (w ++ Byte.quote :: (k ++ Byte.quote :: (w' ++ Byte.colon :: s)))
  | oneMember {name : String} {d : Datum} {s : List UInt8} :
      Written (.member name d) s → Written (.members [(name, d)]) s
  | moreMembers {name : String} {d : Datum} {ms : List (String × Datum)} {s t : List UInt8} :
      Written (.member name d) s → Written (.members ms) t →
      Written (.members ((name, d) :: ms)) (s ++ Byte.comma :: t)

/-- There need not be blanks. -/
theorem Written.bare {d : Datum} {s : List UInt8} (h : Written (.value d) s) :
    Written (.padded d) s := by
  have hpadded : Written (.padded d) ([] ++ (s ++ [])) := .padded blanks_nil h blanks_nil
  rwa [List.append_nil] at hpadded

end SignOn.Json
