import SignOn.Json.Value
import SignOn.Proofs.Json.Grammar
import SignOn.Proofs.Unicode

/-!
The compact text of a value is one of its spellings.

* `spelt_escape`: strings are spelt with escapes;
* `Numeral.written_ofInt`, `Numeral.integer?_ofInt`: integers are written in decimal;
* `written_render`: the text of a value says what the value is.
-/

namespace SignOn

open Json

namespace Json

/-- The bytes of characters. -/
def bytes (cs : List Char) : List UInt8 := cs.flatMap String.utf8EncodeChar

theorem bytes_append (cs cs' : List Char) : bytes (cs ++ cs') = bytes cs ++ bytes cs' :=
  List.flatMap_append

/-! ## Strings -/

theorem hexDigit_digitChar : ∀ i < 16,
    String.utf8EncodeChar (Nat.digitChar i) = [UInt8.ofNat (Nat.digitChar i).toNat] ∧
      HexDigit (UInt8.ofNat (Nat.digitChar i).toNat) i := by
  unfold HexDigit
  decide

/-- A character by its number. -/
theorem spelt_controlCode {c : Char} {cs : List Char} {s : List UInt8} (hc : c.toNat < 0x20)
    (h : Spelt cs s) : Spelt (c :: cs) (bytes (controlCode c) ++ s) := by
  obtain ⟨ha, ha'⟩ := hexDigit_digitChar (c.toNat / 16) (by omega)
  obtain ⟨hb, hb'⟩ := hexDigit_digitChar (c.toNat % 16) (by omega)
  have hzero : HexDigit 0x30 0 := .inl ⟨by decide, rfl⟩
  have hcode : ((0 * 16 + 0) * 16 + c.toNat / 16) * 16 + c.toNat % 16 = c.toNat := by omega
  have hunit := Spelt.unit (.mk hzero hzero ha' hb') (.inl (by omega)) h
  rw [hcode, Char.ofNat_toNat] at hunit
  simp only [controlCode, bytes, List.flatMap_cons, ha, hb, List.flatMap_nil]
  exact hunit

theorem spelt_cons {cs : List Char} {s : List UInt8} (c : Char) (h : Spelt cs s) :
    Spelt (c :: cs) (bytes (escape c) ++ s) := by
  unfold escape
  split
  · exact .short (show ('"', '"') ∈ shortEscapes by decide) h
  · exact .short (show ('\\', '\\') ∈ shortEscapes by decide) h
  · exact .short (show ('b', '\x08') ∈ shortEscapes by decide) h
  · exact .short (show ('f', '\x0C') ∈ shortEscapes by decide) h
  · exact .short (show ('n', '\n') ∈ shortEscapes by decide) h
  · exact .short (show ('r', '\r') ∈ shortEscapes by decide) h
  · exact .short (show ('t', '\t') ∈ shortEscapes by decide) h
  · next hq hs _ _ _ _ _ =>
    split
    · next hc => exact spelt_controlCode hc h
    · next hc =>
      have hplain := Spelt.plain hq hs (by omega) h
      simpa [bytes] using hplain

/-- **Escaped characters** are one spelling of a string. -/
theorem spelt_escape (cs : List Char) : Spelt cs (bytes (cs.flatMap escape)) := by
  induction cs with
  | nil => exact .nil
  | cons c cs ih =>
    rw [List.flatMap_cons, bytes_append]
    exact spelt_cons c ih

theorem bytes_quoted (t : String) :
    bytes (quoted t) = Byte.quote :: (bytes (t.toList.flatMap escape) ++ [Byte.quote]) := by
  rw [quoted, bytes_append, bytes_append]
  rfl

/-! ## Numbers -/

/-- The digits of a number. -/
def decimalBytes (n : Nat) : List UInt8 := bytes (Nat.toDigits 10 n)

theorem digitChar_bytes : ∀ i < 10, bytes [Nat.digitChar i] = [UInt8.ofNat (0x30 + i)] := by
  decide

theorem decimalBytes_of_lt {n : Nat} (h : n < 10) : decimalBytes n = [UInt8.ofNat (0x30 + n)] := by
  rw [decimalBytes, Nat.toDigits_of_lt_base h, digitChar_bytes n h]

theorem decimalBytes_of_le {n : Nat} (h : 10 ≤ n) :
    decimalBytes n = decimalBytes (n / 10) ++ [UInt8.ofNat (0x30 + n % 10)] := by
  rw [decimalBytes, Nat.toDigits_of_base_le (by decide) h, bytes_append,
    digitChar_bytes _ (Nat.mod_lt n (by decide))]
  rfl

theorem digit_toNat {i : Nat} (h : i < 10) : (UInt8.ofNat (0x30 + i)).toNat = 0x30 + i := by
  rw [UInt8.toNat_ofNat']
  omega

/-- Digits denote the number that they were written for, and start with a zero only
for zero. -/
theorem decimalBytes_spec (n : Nat) :
    Digits (decimalBytes n) ∧ decimal (decimalBytes n) = n ∧
      ((decimalBytes n).head? = some 0x30 → n = 0) := by
  have hdigit : ∀ i < 10, isDigit (UInt8.ofNat (0x30 + i)) := by decide
  induction n using Nat.strongRecOn with
  | ind n ih =>
    by_cases hlt : n < 10
    · rw [decimalBytes_of_lt hlt]
      refine ⟨⟨List.cons_ne_nil _ _, ?_⟩, ?_, ?_⟩
      · intro d hd
        obtain rfl := List.mem_singleton.mp hd
        exact hdigit n hlt
      · have hval := digit_toNat hlt
        simp only [decimal, List.foldl_cons, List.foldl_nil, digitValue, hval]
        omega
      · intro hhead
        have hval := congrArg UInt8.toNat (Option.some.inj hhead)
        rw [digit_toNat hlt] at hval
        have h30 : (0x30 : UInt8).toNat = 0x30 := rfl
        omega
    · have hmod : n % 10 < 10 := Nat.mod_lt n (by decide)
      obtain ⟨⟨hne, hall⟩, hval, hhead⟩ := ih (n / 10) (by omega)
      rw [decimalBytes_of_le (Nat.le_of_not_lt hlt)]
      refine ⟨⟨by simp, ?_⟩, ?_, ?_⟩
      · intro d hd
        rcases List.mem_append.mp hd with hd | hd
        · exact hall d hd
        · obtain rfl := List.mem_singleton.mp hd
          exact hdigit _ hmod
      · rw [decimal] at hval ⊢
        rw [List.foldl_append, hval]
        simp only [List.foldl_cons, List.foldl_nil, digitValue, digit_toNat hmod]
        omega
      · intro hzero
        rw [List.head?_append, List.head?_eq_some_head hne, Option.some_or,
          ← List.head?_eq_some_head hne] at hzero
        have hsmall : n / 10 = 0 := hhead hzero
        omega

/-- An integer in decimal. -/
def Numeral.ofInt (n : Int) : Numeral where
  negative := decide (n < 0)
  whole := decimalBytes n.natAbs
  fraction := none
  exponent := none

theorem Numeral.written_ofInt (n : Int) : (Numeral.ofInt n).Written (bytes (digits n)) := by
  obtain ⟨hdigits, _, hhead⟩ := decimalBytes_spec n.natAbs
  have hzero : (decimalBytes n.natAbs).head? = some 0x30 → decimalBytes n.natAbs = [0x30] := by
    intro h
    rw [hhead h]
    rfl
  have hwritten : (Numeral.ofInt n).Written _ := .mk hdigits hzero .absent .absent
  have hbytes : bytes (digits n) =
      (if (Numeral.ofInt n).negative then [Byte.minus] else []) ++
        ((Numeral.ofInt n).whole ++ ([] ++ [])) := by
    simp only [digits, ofInt, List.append_nil]
    by_cases hn : n < 0
    · simp only [hn, if_true, decide_true]
      rfl
    · simp only [hn, if_false, decide_false]
      rfl
  rw [hbytes]
  exact hwritten

theorem Numeral.integer?_ofInt (n : Int) : (Numeral.ofInt n).integer? = some n := by
  obtain ⟨_, hval, _⟩ := decimalBytes_spec n.natAbs
  simp only [integer?, ofInt, hval, true_and, decide_eq_true_eq]
  rw [if_pos (by omega), Option.some.injEq]
  split
  · omega
  · omega

/-! ## Values -/

mutual

/-- What the text of a value says. -/
def datum : Json → Datum
  | .null => .null
  | .flag b => .flag b
  | .integer n => .number (.ofInt n)
  | .text s => .text s
  | .list items => .list (itemData items)
  | .object members => .object (memberData members)

def itemData : List Json → List Datum
  | [] => []
  | item :: rest => item.datum :: itemData rest

def memberData : List (String × Json) → List (String × Datum)
  | [] => []
  | (name, value) :: rest => (name, value.datum) :: memberData rest

end

theorem written_member {d : Datum} {s : List UInt8} (name : String) (h : Written (.value d) s) :
    Written (.member name d) (bytes (quoted name) ++ Byte.colon :: s) := by
  have hmember := Written.member blanks_nil (spelt_escape name.toList) blanks_nil h.bare
  rw [bytes_quoted, List.cons_append, List.append_assoc]
  exact hmember

mutual

theorem written_chars : (v : Json) → Written (.value v.datum) (bytes v.chars)
  | .null => .null
  | .flag true => .yes
  | .flag false => .no
  | .integer n => .number (Numeral.written_ofInt n)
  | .text s => by
    rw [chars, bytes_quoted]
    exact .text (spelt_escape s.toList)
  | .list [] => .emptyList blanks_nil
  | .list (item :: rest) => by
    have h := Written.list (written_items (item :: rest) (List.cons_ne_nil _ _))
    rw [chars, bytes_append, bytes_append]
    exact h
  | .object [] => .emptyObject blanks_nil
  | .object (m :: rest) => by
    have h := Written.object (written_members (m :: rest) (List.cons_ne_nil _ _))
    rw [chars, bytes_append, bytes_append]
    exact h

theorem written_items : (items : List Json) → items ≠ [] →
    Written (.items (itemData items)) (bytes (joined (itemChars items)))
  | [], h => absurd rfl h
  | [item], _ => .oneItem (written_chars item).bare
  | item :: next :: rest, _ => by
    have h := Written.moreItems (written_chars item).bare
      (written_items (next :: rest) (List.cons_ne_nil _ _))
    rw [itemChars, itemChars, joined, bytes_append]
    exact h

theorem written_members : (ms : List (String × Json)) → ms ≠ [] →
    Written (.members (memberData ms)) (bytes (joined (memberChars ms)))
  | [], h => absurd rfl h
  | [(name, value)], _ => by
    have h := Written.oneMember (written_member name (written_chars value))
    rw [memberChars, memberChars, joined, bytes_append]
    exact h
  | (name, value) :: next :: rest, _ => by
    have h := Written.moreMembers (written_member name (written_chars value))
      (written_members (next :: rest) (List.cons_ne_nil _ _))
    have hmember : bytes (quoted name ++ ':' :: value.chars) =
        bytes (quoted name) ++ Byte.colon :: bytes value.chars := bytes_append _ _
    have hjoined : bytes (joined (memberChars ((name, value) :: next :: rest))) =
        bytes (quoted name ++ ':' :: value.chars) ++
          Byte.comma :: bytes (joined (memberChars (next :: rest))) := bytes_append _ _
    rw [hjoined, hmember]
    exact h

end

/-- **The compact text of a value is one of its spellings.** -/
theorem written_render (v : Json) : Written (.value v.datum) (Utf8.encode v.render) := by
  have h := written_chars v
  rwa [← String.toList_ofList (l := v.chars)] at h

end Json

end SignOn
