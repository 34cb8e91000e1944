import SignOn.Text.Utf8

/-!
What is written in UTF-8 is read back.

* `Utf8.mem_utf8EncodeChar`: only characters of ASCII have bytes of ASCII;
* `Utf8.piecesFrom_utf8EncodeChar`: the bytes of a character are one piece;
* `Utf8.decode?_encode`, `Utf8.decodeLenient_encode`: strict and lenient reading undo
  writing;
* `Utf8.encode_ascii`: bytes of ASCII are the writing of a text.
-/

namespace SignOn.Utf8

/-- A character of ASCII is one byte of the same number, and all bytes of others
are beyond ASCII. -/
theorem mem_utf8EncodeChar {c : Char} {b : UInt8} (h : b ∈ String.utf8EncodeChar c) :
    b.toNat = c.toNat ∧ c.toNat < 0x80 ∨ 0x80 ≤ b.toNat ∧ 0x80 ≤ c.toNat := by
  have hv : c.val.toNat = c.toNat := rfl
  simp only [String.utf8EncodeChar, hv] at h
  split at h
  · next h1 =>
    rw [List.mem_singleton.mp h, UInt8.toNat_ofNat']
    omega
  · right
    refine ⟨?_, by omega⟩
    split at h
    · simp only [List.mem_cons, List.not_mem_nil, or_false] at h
      rcases h with rfl | rfl <;> rw [UInt8.toNat_ofNat'] <;> omega
    · split at h
      · simp only [List.mem_cons, List.not_mem_nil, or_false] at h
        rcases h with rfl | rfl | rfl <;> rw [UInt8.toNat_ofNat'] <;> omega
      · simp only [List.mem_cons, List.not_mem_nil, or_false] at h
        rcases h with rfl | rfl | rfl | rfl <;> rw [UInt8.toNat_ofNat'] <;> omega

/-! ## Bytes under way -/

theorem piecesFrom_cons (held : Option Begun) (b : UInt8) (rest : List UInt8) :
    piecesFrom held (b :: rest) = (feed held b).1 ++ piecesFrom (feed held b).2 rest := by
  cases held <;> rfl

/-- A byte within its range goes on with the character under way. -/
theorem piecesFrom_more {p : Begun} {b : UInt8} (hl : p.low.toNat ≤ b.toNat)
    (hh : b.toNat ≤ p.high.toNat) (ho : 1 < p.owed) (rest : List UInt8) :
    piecesFrom (some p) (b :: rest) = piecesFrom
      (some { code := p.code * 64 + b.toNat % 64, taken := p.taken + 1, owed := p.owed - 1 })
      rest := by
  have hb : (p.low ≤ b && b ≤ p.high) = true := by
    simp [UInt8.le_iff_toNat_le, hl, hh]
  have ho' : ¬ p.owed ≤ 1 := by omega
  simp only [piecesFrom_cons, feed, hb, ho', if_true, if_false, List.nil_append]

/-- The last byte of a character completes it. -/
theorem piecesFrom_last {p : Begun} {b : UInt8} (hl : p.low.toNat ≤ b.toNat)
    (hh : b.toNat ≤ p.high.toNat) (ho : p.owed ≤ 1) (rest : List UInt8) :
    piecesFrom (some p) (b :: rest) =
      .whole (Char.ofNat (p.code * 64 + b.toNat % 64)) :: piecesFrom none rest := by
  have hb : (p.low ≤ b && b ≤ p.high) = true := by
    simp [UInt8.le_iff_toNat_le, hl, hh]
  simp only [piecesFrom_cons, feed, hb, ho, if_true, List.singleton_append]

theorem piecesFrom_inl {b : UInt8} {piece : Piece} (h : start b = .inl piece) (rest : List UInt8) :
    piecesFrom none (b :: rest) = piece :: piecesFrom none rest := by
  simp only [piecesFrom_cons, feed, opened, h, List.nil_append, List.singleton_append]

theorem piecesFrom_inr {b : UInt8} {p : Begun} (h : start b = .inr p) (rest : List UInt8) :
    piecesFrom none (b :: rest) = piecesFrom (some p) rest := by
  simp only [piecesFrom_cons, feed, opened, h, List.nil_append]

/-! ## First bytes -/

theorem start_one {b : UInt8} (h : b.toNat < 0x80) :
    start b = .inl (.whole (Char.ofNat b.toNat)) := by
  have h1 : b < 0x80 := UInt8.lt_iff_toNat_lt.mpr h
  simp only [start, h1, if_true]

theorem start_two {b : UInt8} (h : 0xC2 ≤ b.toNat) (h' : b.toNat < 0xE0) :
    start b = .inr { code := b.toNat % 32, taken := 1, owed := 1 } := by
  have h1 : ¬ b < 0x80 := by simp only [UInt8.lt_iff_toNat_lt, UInt8.reduceToNat]; omega
  have h2 : ¬ b < 0xC2 := by simp only [UInt8.lt_iff_toNat_lt, UInt8.reduceToNat]; omega
  have h3 : b < 0xE0 := by simp only [UInt8.lt_iff_toNat_lt, UInt8.reduceToNat]; omega
  simp only [start, h1, h2, h3, if_true, if_false]

/-- The second of three bytes has a narrower range after the first and the last
but two of the first bytes. -/
theorem start_three {b : UInt8} (h : 0xE0 ≤ b.toNat) (h' : b.toNat < 0xF0) :
    ∃ p, start b = .inr p ∧ p.code = b.toNat % 16 ∧ p.owed = 2 ∧
      p.low.toNat = (if b.toNat = 0xE0 then 0xA0 else 0x80) ∧
      p.high.toNat = (if b.toNat = 0xED then 0x9F else 0xBF) := by
  simp only [start, UInt8.lt_iff_toNat_lt, ← UInt8.toNat_inj, UInt8.reduceToNat]
  rw [if_neg (by omega), if_neg (by omega), if_neg (by omega)]
  by_cases h0 : b.toNat = 0xE0
  · simp [h0]
  · rw [if_neg h0]
    by_cases hd : b.toNat = 0xED
    · simp [hd]
    · simp [h0, hd, h']

/-- So has the second of four. -/
theorem start_four {b : UInt8} (h : 0xF0 ≤ b.toNat) (h' : b.toNat < 0xF5) :
    ∃ p, start b = .inr p ∧ p.code = b.toNat % 8 ∧ p.owed = 3 ∧
      p.low.toNat = (if b.toNat = 0xF0 then 0x90 else 0x80) ∧
      p.high.toNat = (if b.toNat = 0xF4 then 0x8F else 0xBF) := by
  simp only [start, UInt8.lt_iff_toNat_lt, ← UInt8.toNat_inj, UInt8.reduceToNat]
  rw [if_neg (by omega), if_neg (by omega), if_neg (by omega), if_neg (by omega),
    if_neg (by omega), if_neg (by omega)]
  by_cases h0 : b.toNat = 0xF0
  · simp [h0]
  · rw [if_neg h0]
    by_cases h4 : b.toNat = 0xF4
    · simp [h4]
    · have hlt : b.toNat < 0xF4 := by omega
      simp [h0, h4, hlt]

/-! ## Characters -/

section

variable {v : Nat} {a b c d : UInt8} (rest : List UInt8)

theorem piecesFrom_two (h : 0x80 ≤ v) (h' : v < 0x800) (ha : a.toNat = v / 64 + 192)
    (hb : b.toNat = v % 64 + 128) :
    piecesFrom none (a :: b :: rest) = .whole (Char.ofNat v) :: piecesFrom none rest := by
  have hcode : a.toNat % 32 * 64 + b.toNat % 64 = v := by omega
  have hl : (0x80 : UInt8).toNat ≤ b.toNat := by rw [hb]; exact Nat.le_add_left _ _
  have hh : b.toNat ≤ (0xBF : UInt8).toNat := by simp only [UInt8.reduceToNat]; omega
  rw [piecesFrom_inr (start_two (by omega) (by omega)),
    piecesFrom_last hl hh (Nat.le_refl 1), hcode]

theorem piecesFrom_three (h : 0x800 ≤ v) (h' : v < 0x10000) (hs : v < 0xD800 ∨ 0xDFFF < v)
    (ha : a.toNat = v / 4096 + 224) (hb : b.toNat = v / 64 % 64 + 128)
    (hc : c.toNat = v % 64 + 128) :
    piecesFrom none (a :: b :: c :: rest) = .whole (Char.ofNat v) :: piecesFrom none rest := by
  obtain ⟨p, hp, hcode, howed, hlow, hhigh⟩ := start_three (b := a) (by omega) (by omega)
  have hl : p.low.toNat ≤ b.toNat := by rw [hlow]; split <;> omega
  have hh : b.toNat ≤ p.high.toNat := by rw [hhigh]; split <;> omega
  have hl' : (0x80 : UInt8).toNat ≤ c.toNat := by rw [hc]; exact Nat.le_add_left _ _
  have hh' : c.toNat ≤ (0xBF : UInt8).toNat := by simp only [UInt8.reduceToNat]; omega
  have hv : (p.code * 64 + b.toNat % 64) * 64 + c.toNat % 64 = v := by omega
  rw [piecesFrom_inr hp, piecesFrom_more hl hh (by omega),
    piecesFrom_last hl' hh' (by simp only [howed]; omega), hv]

theorem piecesFrom_four (h : 0x10000 ≤ v) (h' : v < 0x110000)
    (ha : a.toNat = v / 262144 + 240) (hb : b.toNat = v / 4096 % 64 + 128)
    (hc : c.toNat = v / 64 % 64 + 128) (hd : d.toNat = v % 64 + 128) :
    piecesFrom none (a :: b :: c :: d :: rest) = .whole (Char.ofNat v) :: piecesFrom none rest := by
  obtain ⟨p, hp, hcode, howed, hlow, hhigh⟩ := start_four (b := a) (by omega) (by omega)
  have hl : p.low.toNat ≤ b.toNat := by rw [hlow]; split <;> omega
  have hh : b.toNat ≤ p.high.toNat := by rw [hhigh]; split <;> omega
  have hl' : (0x80 : UInt8).toNat ≤ c.toNat := by rw [hc]; exact Nat.le_add_left _ _
  have hh' : c.toNat ≤ (0xBF : UInt8).toNat := by simp only [UInt8.reduceToNat]; omega
  have hl'' : (0x80 : UInt8).toNat ≤ d.toNat := by rw [hd]; exact Nat.le_add_left _ _
  have hh'' : d.toNat ≤ (0xBF : UInt8).toNat := by simp only [UInt8.reduceToNat]; omega
  have hv : ((p.code * 64 + b.toNat % 64) * 64 + c.toNat % 64) * 64 + d.toNat % 64 = v := by omega
  rw [piecesFrom_inr hp, piecesFrom_more hl hh (by omega),
    piecesFrom_more hl' hh' (by simp only [howed]; omega),
    piecesFrom_last hl'' hh'' (by simp only [howed]; omega), hv]

end

/-- **The bytes of a character are one whole piece.** -/
theorem piecesFrom_utf8EncodeChar (c : Char) (rest : List UInt8) :
    piecesFrom none (String.utf8EncodeChar c ++ rest) = .whole c :: piecesFrom none rest := by
  have hv : c.val.toNat = c.toNat := rfl
  have hvalid : c.toNat < 0xD800 ∨ 0xDFFF < c.toNat ∧ c.toNat < 0x110000 := c.valid
  have hc : Char.ofNat c.toNat = c := Char.ofNat_toNat c
  have hbyte : ∀ n, n < 256 → (UInt8.ofNat n).toNat = n := by
    intro n hn
    rw [UInt8.toNat_ofNat']
    omega
  simp only [String.utf8EncodeChar, hv]
  generalize c.toNat = v at hvalid hc
  rw [← hc]
  split
  · next h1 =>
    have hb := hbyte v (by omega)
    rw [List.singleton_append, piecesFrom_inl (start_one (by omega)), hb]
  · split
    · next h1 h2 =>
      refine piecesFrom_two rest (by omega) (by omega) ?_ ?_
      · rw [hbyte _ (by omega)]
        omega
      · exact hbyte _ (by omega)
    · split
      · next h1 h2 h3 =>
        refine piecesFrom_three rest (by omega) (by omega) (by omega) ?_ ?_ ?_
        · rw [hbyte _ (by omega)]
          omega
        · exact hbyte _ (by omega)
        · exact hbyte _ (by omega)
      · next h1 h2 h3 =>
        refine piecesFrom_four rest (by omega) (by omega) ?_ ?_ ?_ ?_
        · rw [hbyte _ (by omega)]
          omega
        · exact hbyte _ (by omega)
        · exact hbyte _ (by omega)
        · exact hbyte _ (by omega)

theorem pieces_encodeChars (cs : List Char) :
    pieces (cs.flatMap String.utf8EncodeChar) = cs.map .whole := by
  induction cs with
  | nil => rfl
  | cons c cs ih =>
    rw [List.flatMap_cons, pieces, piecesFrom_utf8EncodeChar, List.map_cons]
    exact congrArg (Piece.whole c :: ·) ih

theorem wholes?_map (cs : List Char) : wholes? (cs.map .whole) = some cs := by
  induction cs with
  | nil => rfl
  | cons c cs ih => rw [List.map_cons, wholes?, ih, Option.map_some]

/-- **Strict reading undoes writing.** -/
theorem decode?_encode (t : String) : decode? (encode t) = some t := by
  rw [decode?, encode, pieces_encodeChars, wholes?_map, Option.map_some, String.ofList_toList]

/-- **So does lenient reading**, as no piece is broken. -/
theorem decodeLenient_encode (t : String) : decodeLenient (encode t) = t := by
  rw [decodeLenient, encode, pieces_encodeChars, List.map_map]
  have hid : ∀ cs : List Char, cs.map (fun c => c) = cs := List.map_id
  exact (congrArg String.ofList (hid t.toList)).trans String.ofList_toList

theorem utf8EncodeChar_ascii :
    ∀ n < 0x80, String.utf8EncodeChar (Char.ofNat n) = [UInt8.ofNat n] := by
  decide

theorem encode_ascii {s : List UInt8} (h : ∀ b ∈ s, b.toNat < 0x80) :
    encode (String.ofList (s.map fun b => Char.ofNat b.toNat)) = s := by
  rw [encode, String.toList_ofList]
  induction s with
  | nil => rfl
  | cons b s ih =>
    have hb := utf8EncodeChar_ascii b.toNat (h b List.mem_cons_self)
    rw [UInt8.ofNat_toNat] at hb
    rw [List.map_cons, List.flatMap_cons, hb, ih fun c hc => h c (List.mem_cons_of_mem _ hc)]
    rfl

end SignOn.Utf8
