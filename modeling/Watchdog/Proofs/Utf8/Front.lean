import Mathlib.Tactic.Common
import Watchdog.Text.Utf8

/-!
# What stands at the beginning of a byte string

`Utf8.front` decides by ranges of bytes.  The forms of characters are given by
`String.utf8EncodeChar`, which knows nothing of such ranges.  This file ties the two together: a
character is found exactly where its form stands, bytes that end within a character begin the form
of one, and what has been found stays so when more bytes come.

The ranges are compared as numbers (`width_eq`, `secondOk_iff`, `isTail_iff`), so that all that is
left is arithmetic.
-/

namespace Watchdog.Utf8

/-! ## Bytes as numbers -/

lemma width_eq (a : UInt8) : width a =
    if a.toNat ≤ 0x7F then 1
    else if a.toNat < 0xC2 then 0
    else if a.toNat ≤ 0xDF then 2
    else if a.toNat ≤ 0xEF then 3
    else if a.toNat ≤ 0xF4 then 4
    else 0 := by
  simp only [width, UInt8.le_iff_toNat_le, UInt8.lt_iff_toNat_lt, UInt8.reduceToNat]

lemma isTail_iff (b : UInt8) : isTail b = true ↔ 0x80 ≤ b.toNat ∧ b.toNat ≤ 0xBF := by
  simp [isTail, UInt8.le_iff_toNat_le]

lemma tailBits_eq (b : UInt8) : tailBits b = b.toNat - 0x80 := rfl

lemma secondOk_iff (a b : UInt8) : secondOk a b = true ↔
    (0x80 ≤ b.toNat ∧ b.toNat ≤ 0xBF) ∧
    (a.toNat = 0xE0 → 0xA0 ≤ b.toNat) ∧ (a.toNat = 0xED → b.toNat ≤ 0x9F) ∧
    (a.toNat = 0xF0 → 0x90 ≤ b.toNat) ∧ (a.toNat = 0xF4 → b.toNat ≤ 0x8F) := by
  simp only [secondOk, ← UInt8.toNat_inj, UInt8.reduceToNat]
  split_ifs <;>
    simp only [isTail, UInt8.le_iff_toNat_le, UInt8.reduceToNat, Bool.and_eq_true,
      decide_eq_true_eq] <;>
    omega

/-! ## The forms of characters -/

lemma utf8EncodeChar_ofNat {n : Nat} (h : n.isValidChar) :
    String.utf8EncodeChar (Char.ofNat n) =
      if n ≤ 0x7F then [UInt8.ofNat n]
      else if n ≤ 0x7FF then [UInt8.ofNat (n / 64 + 0xC0), UInt8.ofNat (n % 64 + 0x80)]
      else if n ≤ 0xFFFF then
        [UInt8.ofNat (n / 4096 + 0xE0), UInt8.ofNat (n / 64 % 64 + 0x80),
          UInt8.ofNat (n % 64 + 0x80)]
      else
        [UInt8.ofNat (n / 262144 + 0xF0), UInt8.ofNat (n / 4096 % 64 + 0x80),
          UInt8.ofNat (n / 64 % 64 + 0x80), UInt8.ofNat (n % 64 + 0x80)] := by
  have hv : (Char.ofNat n).val.toNat = n := by
    rw [Char.ofNat, dif_pos h]
    rfl
  have hlt : n < 0x110000 := by rcases h with h | h <;> omega
  simp only [String.utf8EncodeChar, hv]
  split_ifs with h1 h2 h3
  · rfl
  · rw [Nat.mod_eq_of_lt (show n / 64 < 32 by omega)]
  · rw [Nat.mod_eq_of_lt (show n / 4096 < 16 by omega)]
  · rw [Nat.mod_eq_of_lt (show n / 262144 < 8 by omega)]

lemma utf8EncodeChar_char1 {a : UInt8} (ha : width a = 1) :
    String.utf8EncodeChar (Char.ofNat a.toNat) = [a] := by
  have hlow : a.toNat ≤ 0x7F := by grind [width_eq]
  have hvalid : a.toNat.isValidChar := by
    simp only [Nat.isValidChar]
    omega
  simp only [utf8EncodeChar_ofNat hvalid, if_pos hlow, UInt8.ofNat_toNat]

lemma utf8EncodeChar_char2 {a b : UInt8} (ha : width a = 2) (hb : secondOk a b = true) :
    String.utf8EncodeChar (char2 a b) = [a, b] := by
  have ha' : 0xC2 ≤ a.toNat ∧ a.toNat ≤ 0xDF := by grind [width_eq]
  rw [secondOk_iff] at hb
  have hb' := tailBits_eq b
  have hlow : ¬ (a.toNat - 0xC0) * 0x40 + tailBits b ≤ 0x7F := by omega
  have hhigh : (a.toNat - 0xC0) * 0x40 + tailBits b ≤ 0x7FF := by omega
  have hvalid : ((a.toNat - 0xC0) * 0x40 + tailBits b).isValidChar := by
    simp only [Nat.isValidChar]
    omega
  simp only [char2, utf8EncodeChar_ofNat hvalid, if_neg hlow, if_pos hhigh,
    List.cons.injEq, ← UInt8.toNat_inj, UInt8.toNat_ofNat', and_true]
  omega

lemma utf8EncodeChar_char3 {a b c : UInt8} (ha : width a = 3) (hb : secondOk a b = true)
    (hc : isTail c = true) : String.utf8EncodeChar (char3 a b c) = [a, b, c] := by
  have ha' : 0xE0 ≤ a.toNat ∧ a.toNat ≤ 0xEF := by grind [width_eq]
  rw [secondOk_iff] at hb
  rw [isTail_iff] at hc
  have hb' := tailBits_eq b
  have hc' := tailBits_eq c
  generalize hn : (a.toNat - 0xE0) * 0x1000 + tailBits b * 0x40 + tailBits c = n
  have hlow : ¬ n ≤ 0x7F := by omega
  have hmid : ¬ n ≤ 0x7FF := by omega
  have hhigh : n ≤ 0xFFFF := by omega
  have hvalid : n.isValidChar := by
    simp only [Nat.isValidChar]
    omega
  simp only [char3, hn, utf8EncodeChar_ofNat hvalid, if_neg hlow, if_neg hmid, if_pos hhigh,
    List.cons.injEq, ← UInt8.toNat_inj, UInt8.toNat_ofNat', and_true]
  omega

lemma utf8EncodeChar_char4 {a b c d : UInt8} (ha : width a = 4) (hb : secondOk a b = true)
    (hc : isTail c = true) (hd : isTail d = true) :
    String.utf8EncodeChar (char4 a b c d) = [a, b, c, d] := by
  have ha' : 0xF0 ≤ a.toNat ∧ a.toNat ≤ 0xF4 := by grind [width_eq]
  rw [secondOk_iff] at hb
  rw [isTail_iff] at hc hd
  have hb' := tailBits_eq b
  have hc' := tailBits_eq c
  have hd' := tailBits_eq d
  generalize hn : (a.toNat - 0xF0) * 0x40000 + tailBits b * 0x1000 + tailBits c * 0x40 +
    tailBits d = n
  have hhigh : ¬ n ≤ 0xFFFF := by omega
  have hvalid : n.isValidChar := by
    simp only [Nat.isValidChar]
    omega
  simp only [char4, hn, utf8EncodeChar_ofNat hvalid, if_neg hhigh,
    if_neg (show ¬ n ≤ 0x7F by omega), if_neg (show ¬ n ≤ 0x7FF by omega),
    List.cons.injEq, ← UInt8.toNat_inj, UInt8.toNat_ofNat', and_true]
  omega

/-- The four forms of a character, by its size. -/
lemma utf8EncodeChar_cases (c : Char) :
    (∃ a, String.utf8EncodeChar c = [a] ∧ width a = 1 ∧ Char.ofNat a.toNat = c) ∨
    (∃ a b, String.utf8EncodeChar c = [a, b] ∧ width a = 2 ∧ secondOk a b ∧ char2 a b = c) ∨
    (∃ a b d, String.utf8EncodeChar c = [a, b, d] ∧ width a = 3 ∧ secondOk a b ∧ isTail d ∧
      char3 a b d = c) ∨
    (∃ a b d e, String.utf8EncodeChar c = [a, b, d, e] ∧ width a = 4 ∧ secondOk a b ∧ isTail d ∧
      isTail e ∧ char4 a b d e = c) := by
  have hvalid : c.toNat < 0xD800 ∨ 0xDFFF < c.toNat ∧ c.toNat < 0x110000 := c.valid
  have hc : ∀ n, n = c.toNat → Char.ofNat n = c := fun n h => by rw [h, Char.ofNat_toNat]
  have hbyte : ∀ n < 256, (UInt8.ofNat n).toNat = n := fun n h => by
    rw [UInt8.toNat_ofNat', Nat.mod_eq_of_lt h]
  simp only [String.utf8EncodeChar, Char.toNat_val]
  generalize c.toNat = v at *
  split_ifs with h1 h2 h3
  · have ha := hbyte v (by omega)
    exact .inl ⟨_, rfl, by grind [width_eq], hc _ ha⟩
  · have ha := hbyte (v / 64 % 32 + 0xC0) (by omega)
    have hb := hbyte (v % 64 + 0x80) (by omega)
    have hb' := tailBits_eq (UInt8.ofNat (v % 64 + 0x80))
    refine .inr (.inl ⟨_, _, rfl, by grind [width_eq], ?_, hc _ (by omega)⟩)
    rw [secondOk_iff]
    omega
  · have ha := hbyte (v / 4096 % 16 + 0xE0) (by omega)
    have hb := hbyte (v / 64 % 64 + 0x80) (by omega)
    have hd := hbyte (v % 64 + 0x80) (by omega)
    have hb' := tailBits_eq (UInt8.ofNat (v / 64 % 64 + 0x80))
    have hd' := tailBits_eq (UInt8.ofNat (v % 64 + 0x80))
    refine .inr (.inr (.inl ⟨_, _, _, rfl, by grind [width_eq], ?_, ?_, hc _ (by omega)⟩))
    · rw [secondOk_iff]
      omega
    · rw [isTail_iff]
      omega
  · have ha := hbyte (v / 262144 % 8 + 0xF0) (by omega)
    have hb := hbyte (v / 4096 % 64 + 0x80) (by omega)
    have hd := hbyte (v / 64 % 64 + 0x80) (by omega)
    have he := hbyte (v % 64 + 0x80) (by omega)
    have hb' := tailBits_eq (UInt8.ofNat (v / 4096 % 64 + 0x80))
    have hd' := tailBits_eq (UInt8.ofNat (v / 64 % 64 + 0x80))
    have he' := tailBits_eq (UInt8.ofNat (v % 64 + 0x80))
    refine .inr (.inr (.inr ⟨_, _, _, _, rfl, by grind [width_eq], ?_, ?_, ?_, hc _ (by omega)⟩))
    · rw [secondOk_iff]
      omega
    · rw [isTail_iff]
      omega
    · rw [isTail_iff]
      omega

/-! ## The beginning of a byte string -/

/-- A character is found only where its bytes stand. -/
lemma eq_utf8EncodeChar_append_of_front {a : UInt8} {rest : List UInt8} {c : Char} {size : Nat}
    (h : front a rest = .char c size) :
    a :: rest = String.utf8EncodeChar c ++ rest.drop (size - 1) := by
  revert h
  fun_cases front a rest with
  | case1 _ ha =>
    intro h
    obtain ⟨rfl, rfl⟩ := Front.char.inj h
    rw [utf8EncodeChar_char1 ha]
    rfl
  | case5 _ _ b tail hb ha =>
    intro h
    obtain ⟨rfl, rfl⟩ := Front.char.inj h
    rw [utf8EncodeChar_char2 ha (by simpa using hb)]
    rfl
  | case8 _ _ b hb _ c' tail hc ha =>
    intro h
    obtain ⟨rfl, rfl⟩ := Front.char.inj h
    rw [utf8EncodeChar_char3 ha (by simpa using hb) (by simpa using hc)]
    rfl
  | case10 h1 h0 b hb h2 c' hc h3 d tail hd =>
    intro h
    obtain ⟨rfl, rfl⟩ := Front.char.inj h
    have ha : width a = 4 := by grind [width_eq]
    rw [utf8EncodeChar_char4 ha (by simpa using hb) (by simpa using hc) hd]
    rfl
  | _ =>
    intro h
    cases h

/-- What has been found does not change when more bytes come. -/
lemma front_append {a : UInt8} {rest : List UInt8} (h : front a rest ≠ .unfinished)
    (more : List UInt8) : front a (rest ++ more) = front a rest := by
  revert h
  fun_cases front a rest <;> simp_all [front]

/-- An ill-formed part is found from its bytes and one more, if that follows. -/
lemma front_eq_illFormed_of_prefix {a : UInt8} {rest start : List UInt8} {size : Nat}
    (h : front a rest = .illFormed size) (hstart : start <+: rest) (hsize : size ≤ start.length) :
    front a start = .illFormed size := by
  obtain ⟨more, rfl⟩ := hstart
  revert h
  fun_cases front a start <;> simp_all [front] <;> grind

/-- An ill-formed part of more than one byte was the beginning of a character until its end. -/
lemma unfinished_take_of_illFormed {a : UInt8} {rest : List UInt8} {size : Nat}
    (h : front a rest = .illFormed size) :
    size ≤ rest.length + 1 ∧ (size = 1 ∨ front a (rest.take (size - 1)) = .unfinished) := by
  revert h
  fun_cases front a rest <;> simp_all [front] <;> rintro rfl <;> simp_all

/-- Some byte may follow each leading byte. -/
lemma exists_secondOk (a : UInt8) : ∃ b, secondOk a b = true := by
  by_cases he : a.toNat = 0xE0
  · exact ⟨0xA0, by rw [secondOk_iff, he]; decide⟩
  by_cases hf : a.toNat = 0xF0
  · exact ⟨0x90, by rw [secondOk_iff, hf]; decide⟩
  · exact ⟨0x80, by simp [secondOk_iff, he, hf]⟩

/-- Bytes that end within a character are the beginning of one. -/
lemma exists_utf8EncodeChar_of_unfinished {a : UInt8} {rest : List UInt8}
    (h : front a rest = .unfinished) : ∃ c : Char, a :: rest <+: String.utf8EncodeChar c := by
  have htail : isTail 0x80 = true := by decide
  obtain ⟨second, hsecond⟩ := exists_secondOk a
  have hwidth : width a ≤ 4 := by grind [width_eq]
  revert h
  fun_cases front a rest with
  | case3 h1 h0 =>
    intro _
    have ha : width a = 2 ∨ width a = 3 ∨ width a = 4 := by omega
    obtain ha | ha | ha := ha
    · exact ⟨char2 a second, by simp [utf8EncodeChar_char2 ha hsecond]⟩
    · exact ⟨char3 a second 0x80, by simp [utf8EncodeChar_char3 ha hsecond htail]⟩
    · exact ⟨char4 a second 0x80 0x80, by simp [utf8EncodeChar_char4 ha hsecond htail htail]⟩
  | case6 h1 h0 b hb h2 =>
    intro _
    have hb' : secondOk a b = true := by simpa using hb
    have ha : width a = 3 ∨ width a = 4 := by omega
    obtain ha | ha := ha
    · exact ⟨char3 a b 0x80, by simp [utf8EncodeChar_char3 ha hb' htail]⟩
    · exact ⟨char4 a b 0x80 0x80, by simp [utf8EncodeChar_char4 ha hb' htail htail]⟩
  | case9 h1 h0 b hb h2 d hd h3 =>
    intro _
    have ha : width a = 4 := by omega
    exact ⟨char4 a b d 0x80,
      by simp [utf8EncodeChar_char4 ha (by simpa using hb) (by simpa using hd) htail]⟩
  | _ =>
    intro h
    cases h

/-- A whole character at the beginning is found, whatever follows it. -/
lemma front_utf8EncodeChar_append (c : Char) (more : List UInt8) :
    ∃ a rest, String.utf8EncodeChar c = a :: rest ∧
      front a (rest ++ more) = .char c (rest.length + 1) := by
  obtain ⟨a, h, ha, rfl⟩ | ⟨a, b, h, ha, hb, rfl⟩ | ⟨a, b, d, h, ha, hb, hd, rfl⟩ |
    ⟨a, b, d, e, h, ha, hb, hd, he, rfl⟩ := utf8EncodeChar_cases c
  · exact ⟨a, _, h, by simp [front, ha]⟩
  · exact ⟨a, _, h, by simp [front, ha, hb]⟩
  · exact ⟨a, _, h, by simp [front, ha, hb, hd]⟩
  · exact ⟨a, _, h, by simp [front, ha, hb, hd, he]⟩

end Watchdog.Utf8
