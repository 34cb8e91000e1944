import SignOn.Json.StringLiteral
import SignOn.Proofs.Json.Grammar
import SignOn.Proofs.Unicode

/-!
Strings as they are spelt, read and passed over.

* `StringLiteral.contentFrom_spelt`, `StringLiteral.read_spelt`: a string in any
  spelling reads as its characters;
* `StringLiteral.skip_spelt`: and ends, when nobody asked for it, at the same quote.
-/

namespace SignOn.Json

/-! ## Escapes -/

theorem hexDigit?_of_hexDigit {b : UInt8} {n : Nat} (h : HexDigit b n) :
    StringLiteral.hexDigit? b = some n := by
  simp only [StringLiteral.hexDigit?, Bool.and_eq_true, decide_eq_true_eq]
  obtain ⟨hn, hb⟩ | ⟨hn, hn', hb | hb⟩ := h
  · rw [if_pos (by omega), Option.some.injEq]
    omega
  · rw [if_neg (by omega), if_pos (by omega), Option.some.injEq]
    omega
  · rw [if_neg (by omega), if_neg (by omega), if_pos (by omega), Option.some.injEq]
    omega

theorem Quad.hex? {q : List UInt8} {n : Nat} (h : Quad q n) : StringLiteral.hex? q = some n := by
  obtain ⟨ha, hb, hc, hd⟩ := h
  simp [StringLiteral.hex?, hexDigit?_of_hexDigit ha, hexDigit?_of_hexDigit hb,
    hexDigit?_of_hexDigit hc, hexDigit?_of_hexDigit hd]

/-- What a letter behind a backslash stands for is a character of ASCII. -/
theorem letter?_of_mem {letter c : Char} (h : (letter, c) ∈ shortEscapes) :
    ∃ b, StringLiteral.letter? (UInt8.ofNat letter.toNat) = some b ∧
      String.utf8EncodeChar c = [b] := by
  simp only [shortEscapes, List.mem_cons, Prod.mk.injEq, List.not_mem_nil, or_false] at h
  rcases h with ⟨rfl, rfl⟩ | ⟨rfl, rfl⟩ | ⟨rfl, rfl⟩ | ⟨rfl, rfl⟩ | ⟨rfl, rfl⟩ | ⟨rfl, rfl⟩ |
    ⟨rfl, rfl⟩ | ⟨rfl, rfl⟩
  all_goals exact ⟨_, rfl, rfl⟩

/-- A byte of a character that stands for itself. -/
def Plain (b : UInt8) : Prop := b ≠ Byte.quote ∧ b ≠ Byte.backslash ∧ ¬ b < 0x20

theorem plain_of_mem {c : Char} (hq : c ≠ '"') (hs : c ≠ '\\') (hc : 0x20 ≤ c.toNat) :
    ∀ b ∈ String.utf8EncodeChar c, Plain b := by
  intro b hb
  have hq' : c.toNat ≠ 0x22 := fun h => hq (Char.toNat_inj.mp h)
  have hs' : c.toNat ≠ 0x5C := fun h => hs (Char.toNat_inj.mp h)
  have hcases := Utf8.mem_utf8EncodeChar hb
  simp only [Plain, Byte.quote, Byte.backslash, ne_eq, ← UInt8.toNat_inj, UInt8.lt_iff_toNat_lt,
    UInt8.reduceToNat]
  omega

namespace StringLiteral

/-! ## Reading -/

variable {spot : Spot} {content s q : List UInt8} {n : Nat} (rest : List UInt8)

theorem contentFrom_plain {bs : List UInt8} (h : ∀ b ∈ bs, Plain b) (content : List UInt8) :
    contentFrom .plain content (bs ++ rest) = contentFrom .plain (bs.reverse ++ content) rest := by
  induction bs generalizing content with
  | nil => rfl
  | cons b bs ih =>
    obtain ⟨hq, hs, hc⟩ := h b List.mem_cons_self
    have hstep : step .plain content b = .ok (some (.plain, b :: content)) := by
      simp only [step, hq, hs, hc, if_false]
    rw [List.cons_append, contentFrom, hstep]
    simp only [ih fun b' hb' => h b' (List.mem_cons_of_mem _ hb')]
    rw [List.reverse_cons, List.append_assoc, List.singleton_append]

theorem contentFrom_short {b c : UInt8} (h : letter? b = some c) (content : List UInt8) :
    contentFrom .plain content (Byte.backslash :: b :: rest) =
      contentFrom .plain (c :: content) rest := by
  have hopen : step .plain content Byte.backslash = .ok (some (.escape, content)) := rfl
  have hletter : step .escape content b = .ok (some (.plain, c :: content)) := by
    simp only [step, h]
  rw [contentFrom, hopen]
  simp only [contentFrom, hletter]

/-- Four digits give a character or a spot from which a partner is awaited. -/
theorem contentFrom_quad (h : Quad q n) (lead : Option Nat) {c : Char ⊕ Spot}
    (hu : unit lead n = .ok c) (content : List UInt8) :
    contentFrom (.digits lead []) content (q ++ rest) =
      match c with
      | .inl c => contentFrom .plain ((String.utf8EncodeChar c).reverse ++ content) rest
      | .inr next => contentFrom next content rest := by
  have hx := h.hex?
  obtain ⟨ha, hb, hc, hd⟩ := h
  simp only [List.cons_append, List.nil_append, contentFrom, step, List.length_nil,
    List.length_cons, Nat.reduceAdd, Nat.reduceLT, if_true, if_false, List.reverse_cons,
    List.reverse_nil, hx, hu]
  cases c <;> rfl

theorem contentFrom_spelt {cs : List Char} (h : Spelt cs s) (content : List UInt8) :
    contentFrom .plain content (s ++ Byte.quote :: rest) =
      .ok (content.reverse ++ cs.flatMap String.utf8EncodeChar, rest) := by
  induction h generalizing content with
  | nil => simp [contentFrom, step]
  | plain hq hs hc _ ih =>
    rw [List.append_assoc, contentFrom_plain _ (plain_of_mem hq hs hc), ih]
    simp
  | short hm _ ih =>
    obtain ⟨b, hb, hc⟩ := letter?_of_mem hm
    rw [List.cons_append, List.cons_append, contentFrom_short _ hb, ih, List.flatMap_cons, hc]
    simp
  | @unit q n cs s hq hn _ ih =>
    have hu : StringLiteral.unit none n = .ok (.inl (Char.ofNat n)) := by
      have hl : isLeading n = false := by
        simp only [isLeading, Bool.and_eq_false_iff, decide_eq_false_iff_not]
        omega
      have ht : isTrailing n = false := by
        simp only [isTrailing, Bool.and_eq_false_iff, decide_eq_false_iff_not]
        omega
      simp [StringLiteral.unit, hl, ht]
    have hopen : ∀ t, contentFrom .plain content (Byte.backslash :: 0x75 :: t) =
        contentFrom (.digits none []) content t := fun _ => rfl
    rw [List.cons_append, List.cons_append, List.append_assoc, hopen, contentFrom_quad _ hq none hu]
    simp only [ih]
    simp
  | @pair q q' lead trail cs s hq hq' hl hl' ht ht' _ ih =>
    have hlead : StringLiteral.unit none lead = .ok (.inr (.lead lead)) := by
      simp [StringLiteral.unit, isLeading, hl, hl']
    have htrail : StringLiteral.unit (some lead) trail = .ok (.inl (paired lead trail)) := by
      simp [StringLiteral.unit, isTrailing, ht, ht']
    have hc : paired lead trail =
        Char.ofNat (0x10000 + (lead - 0xD800) * 0x400 + (trail - 0xDC00)) := by
      rw [paired, Nat.add_comm, ← Nat.add_assoc]
    let more := Byte.backslash :: 0x75 :: (q' ++ (s ++ Byte.quote :: rest))
    have hopen : contentFrom .plain content (Byte.backslash :: 0x75 :: (q ++ more)) =
        contentFrom (.digits none []) content (q ++ more) := rfl
    have hopen' : contentFrom (.lead lead) content more =
        contentFrom (.digits (some lead) []) content (q' ++ (s ++ Byte.quote :: rest)) := rfl
    simp only [List.cons_append, List.append_assoc]
    rw [hopen, contentFrom_quad _ hq none hlead]
    simp only [hopen']
    rw [contentFrom_quad _ hq' (some lead) htrail]
    simp only [ih, ← hc]
    simp

/-- **A string in any spelling reads as its characters.** -/
theorem read_spelt {t : String} (h : Spelt t.toList s) :
    read (s ++ Byte.quote :: rest) = .ok (t, rest) := by
  have hd : Utf8.decode? (t.toList.flatMap String.utf8EncodeChar) = some t := Utf8.decode?_encode t
  simp only [read, contentFrom_spelt rest h, List.reverse_nil, List.nil_append, hd]

/-! ## Passing over -/

theorem skipFrom_plain {bs : List UInt8} (h : ∀ b ∈ bs, Plain b) :
    skipFrom .plain (bs ++ rest) = skipFrom .plain rest := by
  induction bs with
  | nil => rfl
  | cons b bs ih =>
    obtain ⟨hq, hs, hc⟩ := h b List.mem_cons_self
    rw [List.cons_append, skipFrom, if_neg hq, if_neg hs, if_neg hc,
      ih fun b' hb' => h b' (List.mem_cons_of_mem _ hb')]

theorem skipFrom_quad (h : Quad q n) :
    skipFrom .plain (Byte.backslash :: 0x75 :: (q ++ rest)) = skipFrom .plain rest := by
  have hx := h.hex?
  have hopen : skipFrom .plain (Byte.backslash :: 0x75 :: (q ++ rest)) =
      skipFrom (.digits []) (q ++ rest) := rfl
  obtain ⟨ha, hb, hc, hd⟩ := h
  rw [hopen]
  simp only [List.cons_append, List.nil_append, skipFrom, List.length_nil, List.length_cons,
    Nat.reduceAdd, Nat.reduceLT, if_true, if_false, List.reverse_cons, List.reverse_nil, hx,
    Option.isSome_some]

/-- **A string that nobody asked for ends at its closing quote.** -/
theorem skip_spelt {cs : List Char} (h : Spelt cs s) :
    skip (s ++ Byte.quote :: rest) = .ok rest := by
  rw [skip]
  induction h with
  | nil => rfl
  | plain hq hs hc _ ih => rw [List.append_assoc, skipFrom_plain _ (plain_of_mem hq hs hc), ih]
  | @short letter c cs s hm _ ih =>
    obtain ⟨b, hb, _⟩ := letter?_of_mem hm
    have hopen : ∀ t, skipFrom .plain (Byte.backslash :: t) = skipFrom .escape t := fun _ => rfl
    rw [List.cons_append, List.cons_append, hopen, skipFrom, hb]
    exact ih
  | unit hq _ _ ih =>
    rw [List.cons_append, List.cons_append, List.append_assoc, skipFrom_quad _ hq, ih]
  | pair hq hq' _ _ _ _ _ ih =>
    simp only [List.cons_append, List.append_assoc]
    rw [skipFrom_quad _ hq, skipFrom_quad _ hq', ih]

end StringLiteral

end SignOn.Json
