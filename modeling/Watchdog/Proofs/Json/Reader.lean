import Mathlib.Data.List.Chain
import Watchdog.Proofs.Json.Tokens

/-!
# Reading JSON texts

How a text spells tokens is the grammar of the format: blanks between tokens, a number without
leading zeros, a string with any of the escapes (`Spells`).  `lex` reads such texts; it takes all of
them, and nothing else, where no two numbers stand side by side, as in the tokens of a value.  So
`read` gives the value that a text stands for (`read_eq_some_iff`), and no text stands for two.

Numbers with a fraction or an exponent are left out, as values hold none.
-/

namespace Watchdog.Json

/-! ## The grammar -/

/-- What may stand between tokens. -/
def isBlank (c : Char) : Bool := c == ' ' || c == '\n' || c == '\r' || c == '\t'

/-- The value of a hexadecimal digit. -/
def hexValue? (c : Char) : Option Nat :=
  if '0' ≤ c ∧ c ≤ '9' then some (c.toNat - '0'.toNat)
  else if 'a' ≤ c ∧ c ≤ 'f' then some (c.toNat - 'a'.toNat + 10)
  else if 'A' ≤ c ∧ c ≤ 'F' then some (c.toNat - 'A'.toNat + 10)
  else none

/-- The number that four hexadecimal digits write. -/
def unit? : List Char → Option Nat
  | [a, b, c, d] => do
    let a ← hexValue? a
    let b ← hexValue? b
    let c ← hexValue? c
    let d ← hexValue? d
    return ((a * 16 + b) * 16 + c) * 16 + d
  | _ => none

/-- What a letter after a backslash stands for. -/
def escapes : List (Char × Char) :=
  [ ('"', '"'), ('\\', '\\'), ('/', '/'), ('b', '\x08'), ('f', '\x0c'), ('n', '\n'), ('r', '\r'),
    ('t', '\t') ]

/-- How a character may be written in a string. -/
inductive Writes : Char → List Char → Prop where
  | plain {c : Char} : 0x20 ≤ c.toNat → c ≠ '"' → c ≠ '\\' → Writes c [c]
  | escape {e c : Char} : (e, c) ∈ escapes → Writes c ['\\', e]
  | unit {c : Char} {u : List Char} : unit? u = some c.toNat → Writes c ('\\' :: 'u' :: u)
  /-- A character beyond the first 2^16 by two surrogates. -/
  | pair {c : Char} {u w : List Char} {high low : Nat} :
      unit? u = some high → unit? w = some low → 0xD800 ≤ high ∧ high < 0xDC00 →
      0xDC00 ≤ low ∧ low < 0xE000 →
      c.toNat = 0x10000 + (high - 0xD800) * 0x400 + (low - 0xDC00) →
      Writes c ('\\' :: 'u' :: u ++ '\\' :: 'u' :: w)

/-- How characters may be written, one after the other. -/
inductive WritesAll : List Char → List Char → Prop where
  | nil : WritesAll [] []
  | cons {c : Char} {cs piece rest : List Char} :
      Writes c piece → WritesAll cs rest → WritesAll (c :: cs) (piece ++ rest)

/-- Decimal digits without a leading zero. -/
def Digits (ds : List Char) : Prop :=
  ds ≠ [] ∧ (∀ c ∈ ds, c.isDigit = true) ∧ (ds.head? = some '0' → ds = ['0'])

instance (ds : List Char) : Decidable (Digits ds) := inferInstanceAs (Decidable (_ ∧ _))

/-- The tokens that are always written the same. -/
def marks : List (List Char × Token) :=
  [ (['['], .openArr), ([']'], .closeArr), (['\x7b'], .openObj), (['\x7d'], .closeObj),
    ([','], .comma), ([':'], .colon), (['n', 'u', 'l', 'l'], .null),
    (['t', 'r', 'u', 'e'], .bool true), (['f', 'a', 'l', 's', 'e'], .bool false) ]

/-- How a token may be written. -/
inductive Token.Written : Token → List Char → Prop where
  | mark {t : Token} {word : List Char} : (word, t) ∈ marks → Written t word
  | natural {ds : List Char} : Digits ds → Written (.num (Nat.ofDigitChars 10 ds 0)) ds
  | negative {ds : List Char} : Digits ds → Written (.num (-Nat.ofDigitChars 10 ds 0)) ('-' :: ds)
  | str {cs body : List Char} :
      WritesAll cs body → Written (.str (String.ofList cs)) ('"' :: body ++ ['"'])

/-- A text is made of these tokens, with blanks before and after each of them. -/
inductive Spells : List Token → List Char → Prop where
  | nil : Spells [] []
  | blank {toks : List Token} {c : Char} {rest : List Char} :
      isBlank c = true → Spells toks rest → Spells toks (c :: rest)
  | token {t : Token} {toks : List Token} {word rest : List Char} :
      t.Written word → Spells toks rest → Spells (t :: toks) (word ++ rest)

/-! ## Strings -/

/-- A reader whose result is changed leaves the same rest. -/
lemma map_result_eq_some {α β : Type} {f : α → β} {o : Option (α × List Char)} {b : β}
    {rest : List Char} (h : o.map (Prod.map f id) = some (b, rest)) :
    ∃ a, o = some (a, rest) ∧ f a = b := by
  obtain ⟨⟨a, after⟩, ho, heq⟩ := Option.map_eq_some_iff.mp h
  obtain ⟨hb, rfl⟩ := Prod.mk.inj heq
  exact ⟨a, ho, hb⟩

lemma hexValue?_lt {c : Char} {n : Nat} (h : hexValue? c = some n) : n < 16 := by
  revert h
  fun_cases hexValue? c with
  | case1 hrange =>
    have hhigh : c.toNat ≤ 57 := hrange.2
    rintro ⟨⟩
    change c.toNat - 48 < 16
    omega
  | case2 _ hrange =>
    have hhigh : c.toNat ≤ 102 := hrange.2
    rintro ⟨⟩
    change c.toNat - 97 + 10 < 16
    omega
  | case3 _ _ hrange =>
    have hhigh : c.toNat ≤ 70 := hrange.2
    rintro ⟨⟩
    change c.toNat - 65 + 10 < 16
    omega
  | case4 => exact nofun

lemma unit?_eq_some {u : List Char} {n : Nat} (h : unit? u = some n) :
    u.length = 4 ∧ n < 0x10000 := by
  revert h
  fun_cases unit? u with
  | case1 a b c d =>
    simp only [Option.bind_eq_bind, Option.pure_def, Option.bind_eq_some_iff, Option.some.injEq]
    rintro ⟨x, hx, y, hy, z, hz, w, hw, rfl⟩
    have := hexValue?_lt hx
    have := hexValue?_lt hy
    have := hexValue?_lt hz
    have := hexValue?_lt hw
    exact ⟨rfl, by omega⟩
  | case2 => exact nofun

/-- Reads the character that `\u` begins. -/
def readUnit (s : List Char) : Option (Char × List Char) :=
  match unit? (s.take 4) with
  | none => none
  | some n =>
    if n < 0xD800 ∨ 0xE000 ≤ n then some (Char.ofNat n, s.drop 4)
    else
      match s.drop 4 with
      | '\\' :: 'u' :: rest =>
        match unit? (rest.take 4) with
        | none => none
        | some m =>
          if n < 0xDC00 ∧ 0xDC00 ≤ m ∧ m < 0xE000 then
            some (Char.ofNat (0x10000 + (n - 0xD800) * 0x400 + (m - 0xDC00)), rest.drop 4)
          else none
      | _ => none

/-- Reads one character of a string, which begins with `c`. -/
def readChar (c : Char) (rest : List Char) : Option (Char × List Char) :=
  if c = '\\' then
    match rest with
    | [] => none
    | e :: rest => if e = 'u' then readUnit rest else (escapes.lookup e).map (·, rest)
  else if c.toNat < 0x20 then none
  else some (c, rest)

lemma toNat_ofNat {n : Nat} (h : n.isValidChar) : (Char.ofNat n).toNat = n := by
  rw [Char.ofNat, dif_pos h]
  rfl

lemma writes_of_readUnit {s rest : List Char} {c : Char} (h : readUnit s = some (c, rest)) :
    ∃ piece, s = piece ++ rest ∧ Writes c ('\\' :: 'u' :: piece) := by
  revert h
  fun_cases readUnit s with
  | case2 n hn hplain =>
    rintro ⟨⟩
    have hlt := (unit?_eq_some hn).2
    refine ⟨s.take 4, (List.take_append_drop 4 s).symm, .unit ?_⟩
    rw [hn, toNat_ofNat]
    exact hplain.imp_right fun hlow => ⟨by omega, by omega⟩
  | case4 n hn hsurrogate rest' hdrop m hm hpair =>
    intro h
    obtain ⟨rfl, rfl⟩ := Prod.mk.inj (Option.some.inj h)
    have hs : s = s.take 4 ++ '\\' :: 'u' :: (rest'.take 4 ++ rest'.drop 4) := by
      rw [List.take_append_drop, ← hdrop, List.take_append_drop]
    refine ⟨s.take 4 ++ '\\' :: 'u' :: rest'.take 4, ?_, .pair hn hm ⟨by omega, hpair.1⟩ hpair.2 ?_⟩
    · simpa using hs
    · exact toNat_ofNat (.inr ⟨by omega, by omega⟩)
  | _ => exact nofun

lemma writes_of_readChar {c d : Char} {s rest : List Char} (hc : c ≠ '"')
    (h : readChar c s = some (d, rest)) : ∃ piece, c :: s = piece ++ rest ∧ Writes d piece := by
  revert h
  fun_cases readChar c s with
  | case2 hslash s =>
    subst hslash
    intro h
    obtain ⟨piece, rfl, hwrites⟩ := writes_of_readUnit h
    exact ⟨_, rfl, hwrites⟩
  | case3 hslash e s =>
    subst hslash
    intro h
    obtain ⟨x, hlookup, heq⟩ := Option.map_eq_some_iff.mp h
    obtain ⟨rfl, rfl⟩ := Prod.mk.inj heq
    obtain ⟨before, after, hsplit, -⟩ := List.lookup_eq_some_iff.mp hlookup
    exact ⟨['\\', e], rfl, .escape (hsplit ▸ List.mem_append_cons_self)⟩
  | case5 rest hslash hplain =>
    rintro ⟨⟩
    exact ⟨[c], rfl, .plain (Nat.le_of_not_lt hplain) hc hslash⟩
  | _ => exact nofun

/-- A character in any of its forms is read. -/
lemma readChar_of_writes {d : Char} {piece : List Char} (h : Writes d piece) :
    ∃ c s, piece = c :: s ∧ c ≠ '"' ∧ ∀ rest, readChar c (s ++ rest) = some (d, rest) := by
  cases h with
  | plain hlow hquote hslash =>
    exact ⟨d, [], rfl, hquote, fun rest => by simp [readChar, hslash, Nat.not_lt.mpr hlow]⟩
  | escape hmem =>
    rename_i e
    have hall : ∀ p ∈ escapes, p.1 ≠ 'u' ∧ escapes.lookup p.1 = some p.2 := by decide
    obtain ⟨hunit, hlookup⟩ := hall _ hmem
    exact ⟨'\\', [e], rfl, by decide, fun rest => by simp [readChar, hunit, hlookup]⟩
  | unit hd =>
    rename_i u
    refine ⟨'\\', 'u' :: u, rfl, by decide, fun rest => ?_⟩
    have hlen := (unit?_eq_some hd).1
    have hvalid : d.toNat < 0xD800 ∨ 0xE000 ≤ d.toNat :=
      d.valid.imp_right fun hlow => Nat.succ_le_of_lt hlow.1
    simp [readChar, readUnit, hlen, hd, hvalid]
  | pair hu hw hhigh hlow hd =>
    rename_i u w high low
    refine ⟨'\\', 'u' :: u ++ '\\' :: 'u' :: w, rfl, by decide, fun rest => ?_⟩
    have hlen := (unit?_eq_some hu).1
    have hlen' := (unit?_eq_some hw).1
    have hnot : ¬ (high < 0xD800 ∨ 0xE000 ≤ high) := by omega
    simp [readChar, readUnit, hlen, hlen', hu, hw, hnot, hhigh.2, hlow, ← hd]

lemma length_of_readChar {c d : Char} {s rest : List Char} (hc : c ≠ '"')
    (h : readChar c s = some (d, rest)) : rest.length < (c :: s).length := by
  obtain ⟨piece, hpiece, hwrites⟩ := writes_of_readChar hc h
  obtain ⟨e, piece, rfl, -, -⟩ := readChar_of_writes hwrites
  rw [hpiece, List.cons_append, List.length_cons, List.length_append]
  omega

/-- Reads characters up to the closing quote. -/
def readChars : List Char → Option (List Char × List Char)
  | [] => none
  | c :: s =>
    if hc : c = '"' then some ([], s)
    else
      match h : readChar c s with
      | none => none
      | some (d, rest) =>
        have : rest.length < (c :: s).length := length_of_readChar hc h
        (readChars rest).map (Prod.map (d :: ·) id)
termination_by s => s.length
decreasing_by exact this

lemma readChars_cons {c d : Char} {s rest : List Char} (hc : c ≠ '"')
    (h : readChar c s = some (d, rest)) :
    readChars (c :: s) = (readChars rest).map (Prod.map (d :: ·) id) := by
  rw [readChars, dif_neg hc]
  split
  · rename_i hnone
    rw [h] at hnone
    exact nomatch hnone
  · rename_i hsome
    rw [h] at hsome
    obtain ⟨rfl, rfl⟩ := Prod.mk.inj (Option.some.inj hsome)
    rfl

lemma writesAll_of_readChars {s cs rest : List Char} (h : readChars s = some (cs, rest)) :
    ∃ body, s = body ++ '"' :: rest ∧ WritesAll cs body := by
  revert h
  fun_induction readChars s generalizing cs rest with
  | case1 => exact nofun
  | case2 s =>
    rintro ⟨⟩
    exact ⟨[], rfl, .nil⟩
  | case3 => exact nofun
  | case4 c s hc d after hchar _ ih =>
    intro h
    obtain ⟨ds, hds, rfl⟩ := map_result_eq_some h
    obtain ⟨piece, hpiece, hwrites⟩ := writes_of_readChar hc hchar
    obtain ⟨body, rfl, hbody⟩ := ih hds
    exact ⟨piece ++ body, by rw [hpiece, List.append_assoc], .cons hwrites hbody⟩

lemma readChars_of_writesAll {cs body : List Char} (h : WritesAll cs body) (rest : List Char) :
    readChars (body ++ '"' :: rest) = some (cs, rest) := by
  induction h with
  | nil => simp [readChars]
  | @cons d cs piece body hwrites _ ih =>
    obtain ⟨c, s, rfl, hc, hread⟩ := readChar_of_writes hwrites
    rw [List.append_assoc, List.cons_append, readChars_cons hc (hread _), ih]
    rfl

/-! ## Tokens -/

/-- Reads digits, as many as there are. -/
def readDigits (s : List Char) : Option (Nat × List Char) :=
  let ds := s.takeWhile Char.isDigit
  if Digits ds then some (Nat.ofDigitChars 10 ds 0, s.dropWhile Char.isDigit) else none

lemma digits_of_readDigits {s rest : List Char} {n : Nat} (h : readDigits s = some (n, rest)) :
    ∃ ds, s = ds ++ rest ∧ Digits ds ∧ n = Nat.ofDigitChars 10 ds 0 := by
  revert h
  fun_cases readDigits s with
  | case1 ds hds =>
    intro h
    obtain ⟨rfl, rfl⟩ := Prod.mk.inj (Option.some.inj h)
    exact ⟨_, List.takeWhile_append_dropWhile.symm, hds, rfl⟩
  | case2 => exact nofun

lemma readDigits_of_digits {ds rest : List Char} (hds : Digits ds)
    (hrest : ∀ c ∈ rest.head?, c.isDigit = false) :
    readDigits (ds ++ rest) = some (Nat.ofDigitChars 10 ds 0, rest) := by
  have hstop : rest.takeWhile Char.isDigit = [] ∧ rest.dropWhile Char.isDigit = rest := by
    cases rest with
    | nil => exact ⟨rfl, rfl⟩
    | cons c rest => simp [hrest c rfl]
  rw [readDigits, List.takeWhile_append_of_pos hds.2.1, List.dropWhile_append_of_pos hds.2.1,
    hstop.1, hstop.2, List.append_nil]
  exact if_pos hds

/-- Reads the token that begins with `c`. -/
def readToken (c : Char) (s : List Char) : Option (Token × List Char) :=
  if c = '"' then (readChars s).map (Prod.map (fun cs => .str (String.ofList cs)) id)
  else if c = '-' then (readDigits s).map (Prod.map (fun n : Nat => .num (-n)) id)
  else if c.isDigit then (readDigits (c :: s)).map (Prod.map (fun n : Nat => .num n) id)
  else
    (marks.find? (·.1.isPrefixOf (c :: s))).map fun (word, t) => (t, (c :: s).drop word.length)

lemma written_of_readToken {c : Char} {s rest : List Char} {t : Token}
    (h : readToken c s = some (t, rest)) : ∃ word, c :: s = word ++ rest ∧ t.Written word := by
  revert h
  fun_cases readToken c s with
  | case1 hquote =>
    subst hquote
    intro h
    obtain ⟨cs, hcs, rfl⟩ := map_result_eq_some h
    obtain ⟨body, rfl, hbody⟩ := writesAll_of_readChars hcs
    exact ⟨'"' :: body ++ ['"'], by simp, .str hbody⟩
  | case2 _ hminus =>
    subst hminus
    intro h
    obtain ⟨n, hn, rfl⟩ := map_result_eq_some h
    obtain ⟨ds, rfl, hds, rfl⟩ := digits_of_readDigits hn
    exact ⟨'-' :: ds, rfl, .negative hds⟩
  | case3 =>
    intro h
    obtain ⟨n, hn, rfl⟩ := map_result_eq_some h
    obtain ⟨ds, hds, hdigits, rfl⟩ := digits_of_readDigits hn
    exact ⟨ds, hds, .natural hdigits⟩
  | case4 =>
    intro h
    obtain ⟨⟨word, mark⟩, hmark, heq⟩ := Option.map_eq_some_iff.mp h
    obtain ⟨rfl, rfl⟩ := Prod.mk.inj heq
    have hfound := List.find?_some hmark
    have hbegins : word <+: c :: s := List.isPrefixOf_iff_prefix.mp hfound
    exact ⟨word, (List.prefix_iff_eq_append.mp hbegins).symm,
      .mark (List.mem_of_find?_eq_some hmark)⟩

/-- Marks begin unlike strings and numbers, and unlike what stands between tokens. -/
lemma head?_mark {word : List Char} {t : Token} (h : (word, t) ∈ marks) :
    ∃ c ∈ word.head?, c ≠ '"' ∧ c ≠ '-' ∧ c.isDigit = false ∧ isBlank c = false := by
  have hall : ∀ p ∈ marks, p.1.head?.any fun c =>
      c ≠ '"' ∧ c ≠ '-' ∧ c.isDigit = false ∧ isBlank c = false := by decide
  simpa [Option.any_eq_true] using hall _ h

/-- No mark begins another. -/
lemma find?_marks_append {word : List Char} {t : Token} (h : (word, t) ∈ marks)
    (rest : List Char) : marks.find? (·.1.isPrefixOf (word ++ rest)) = some (word, t) := by
  simp only [marks, List.mem_cons, Prod.mk.injEq, List.not_mem_nil, or_false] at h
  obtain ⟨rfl, rfl⟩ | ⟨rfl, rfl⟩ | ⟨rfl, rfl⟩ | ⟨rfl, rfl⟩ | ⟨rfl, rfl⟩ | ⟨rfl, rfl⟩ | ⟨rfl, rfl⟩ |
    ⟨rfl, rfl⟩ | ⟨rfl, rfl⟩ := h <;> rfl

lemma isDigit_of_isBlank {c : Char} (h : isBlank c = true) : c.isDigit = false := by
  simp only [isBlank, Bool.or_eq_true, beq_iff_eq] at h
  obtain ((rfl | rfl) | rfl) | rfl := h <;> rfl

/-- A token in any of its forms is read, a number where its digits end. -/
lemma readToken_of_written {t : Token} {word : List Char} (h : t.Written word) :
    ∃ c s, word = c :: s ∧ isBlank c = false ∧ (c.isDigit = true → t.isNum) ∧
      ∀ rest, (t.isNum → ∀ d ∈ rest.head?, d.isDigit = false) →
        readToken c (s ++ rest) = some (t, rest) := by
  cases h with
  | mark hmem =>
    obtain ⟨c, hc, hquote, hminus, hdigit, hblank⟩ := head?_mark hmem
    obtain ⟨s, rfl⟩ := List.head?_eq_some_iff.mp hc
    refine ⟨c, s, rfl, hblank, fun hc => absurd hc (by simp [hdigit]), fun rest _ => ?_⟩
    have hfind := find?_marks_append hmem rest
    rw [List.cons_append] at hfind
    simp [readToken, hquote, hminus, hdigit, hfind]
  | natural hds =>
    obtain ⟨c, s, rfl⟩ := List.exists_cons_of_ne_nil hds.1
    have hc : c.isDigit = true := hds.2.1 c List.mem_cons_self
    refine ⟨c, s, rfl, ?_, fun _ => rfl, fun rest hrest => ?_⟩
    · rw [← Bool.not_eq_true]
      exact fun hblank => absurd hc (by simp [isDigit_of_isBlank hblank])
    · have hread := readDigits_of_digits hds (hrest rfl)
      rw [List.cons_append] at hread
      have hquote : c ≠ '"' := by
        rintro rfl
        exact absurd hc (by decide)
      have hminus : c ≠ '-' := by
        rintro rfl
        exact absurd hc (by decide)
      simp [readToken, hquote, hminus, hc, hread]
  | @negative ds hds =>
    refine ⟨'-', ds, rfl, rfl, fun _ => rfl, fun rest hrest => ?_⟩
    simp [readToken, readDigits_of_digits hds (hrest rfl)]
  | @str cs body hbody =>
    refine ⟨'"', body ++ ['"'], rfl, rfl, fun h => absurd h (by decide), fun rest _ => ?_⟩
    rw [List.append_assoc]
    simp [readToken, readChars_of_writesAll hbody]

lemma length_of_readToken {c : Char} {s rest : List Char} {t : Token}
    (h : readToken c s = some (t, rest)) : rest.length < (c :: s).length := by
  obtain ⟨word, hs, hword⟩ := written_of_readToken h
  obtain ⟨d, word, rfl, -⟩ := readToken_of_written hword
  rw [hs, List.cons_append, List.length_cons, List.length_append]
  omega

/-! ## Texts -/

/-- Reads the tokens of a text. -/
def lex : List Char → Option (List Token)
  | [] => some []
  | c :: s =>
    if isBlank c then lex s
    else
      match h : readToken c s with
      | none => none
      | some (t, rest) =>
        have : rest.length < (c :: s).length := length_of_readToken h
        (lex rest).map (t :: ·)
termination_by s => s.length
decreasing_by
  · exact Nat.lt_succ_self _
  · exact this

lemma lex_cons {c : Char} {s rest : List Char} {t : Token} (hblank : isBlank c = false)
    (h : readToken c s = some (t, rest)) : lex (c :: s) = (lex rest).map (t :: ·) := by
  rw [lex, hblank, if_neg Bool.false_ne_true]
  split
  · rename_i hnone
    rw [h] at hnone
    exact nomatch hnone
  · rename_i hsome
    rw [h] at hsome
    obtain ⟨rfl, rfl⟩ := Prod.mk.inj (Option.some.inj hsome)
    rfl

lemma spells_of_lex {s : List Char} {toks : List Token} (h : lex s = some toks) :
    Spells toks s := by
  revert h
  fun_induction lex s generalizing toks with
  | case1 =>
    rintro ⟨⟩
    exact .nil
  | case2 c s hblank ih => exact fun h => .blank hblank (ih h)
  | case3 => exact nofun
  | case4 c s hblank t rest hread _ ih =>
    intro h
    obtain ⟨more, hmore, rfl⟩ := Option.map_eq_some_iff.mp h
    obtain ⟨word, hs, hword⟩ := written_of_readToken hread
    exact hs ▸ .token hword (ih hmore)

/-- What comes before no number does not begin with a digit. -/
lemma Spells.head?_not_digit {toks : List Token} {s : List Char} (h : Spells toks s)
    (hfirst : ∀ t ∈ toks.head?, ¬ t.isNum) : ∀ c ∈ s.head?, c.isDigit = false := by
  cases h with
  | nil => exact nofun
  | blank hblank _ =>
    rintro c ⟨⟩
    exact isDigit_of_isBlank hblank
  | token hword _ =>
    obtain ⟨c, word, rfl, -, hnum, -⟩ := readToken_of_written hword
    rintro _ ⟨⟩
    rw [← Bool.not_eq_true]
    exact fun hc => hfirst _ rfl (hnum hc)

lemma lex_of_spells {toks : List Token} {s : List Char} (h : Spells toks s)
    (hapart : toks.IsChain fun t u => ¬ (t.isNum ∧ u.isNum)) : lex s = some toks := by
  induction h with
  | nil => rw [lex]
  | blank hblank _ ih => rw [lex, if_pos hblank, ih hapart]
  | @token t toks word rest hword hrest ih =>
    obtain ⟨c, word, rfl, hblank, -, hread⟩ := readToken_of_written hword
    obtain ⟨hfirst, hapart⟩ := List.isChain_cons.mp hapart
    -- a number is read up to where the next token or a blank begins
    have hnext : t.isNum → ∀ d ∈ rest.head?, d.isDigit = false := fun ht =>
      hrest.head?_not_digit fun u hu hnum => hfirst u hu ⟨ht, hnum⟩
    rw [List.cons_append, lex_cons hblank (hread rest hnext), ih hapart]
    rfl

/-- The value that a text stands for. -/
def read (text : String) : Option Json := (lex text.toList).bind parse

/-- **Texts determine the value.**  The texts that are read as a value are those that its tokens may
be written as. -/
theorem read_eq_some_iff (text : String) (v : Json) :
    read text = some v ↔ Spells (tokens v) text.toList := by
  rw [read, Option.bind_eq_some_iff]
  constructor
  · rintro ⟨toks, hlex, hparse⟩
    obtain rfl := (parse_eq_some_iff toks v).mp hparse
    exact spells_of_lex hlex
  · intro h
    exact ⟨tokens v, lex_of_spells h (apart_tokens v), (parse_eq_some_iff _ v).mpr rfl⟩

end Watchdog.Json
