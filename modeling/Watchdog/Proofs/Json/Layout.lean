import Mathlib.Data.List.Basic
import Watchdog.Proofs.Json.Reader

/-!
# The texts of a value are read as the value

Both layouts write the tokens of a value, one after the other, and put blanks between them
(`spells_compact`, `spells_prettyAt`).  Strings come out of their escapes as they went in
(`written_quote`), and numbers have no leading zeros (`written_toString`).  So reading undoes laying
out, in either layout (`read_text`).
-/

namespace Watchdog.Json

/-! ## Texts of several parts -/

lemma Spells.append {toks more : List Token} {s t : List Char} (h : Spells toks s)
    (h' : Spells more t) : Spells (toks ++ more) (s ++ t) := by
  induction h with
  | nil => exact h'
  | blank hblank _ ih => exact .blank hblank ih
  | token hword _ ih =>
    rw [List.append_assoc]
    exact .token hword ih

lemma Spells.text_append {toks more : List Token} {s t : String} (h : Spells toks s.toList)
    (h' : Spells more t.toList) : Spells (toks ++ more) (s ++ t).toList :=
  String.toList_append ▸ h.append h'

/-- Blanks may follow. -/
lemma Spells.text_blanks {toks : List Token} {s t : String} (h : Spells toks s.toList)
    (h' : Spells [] t.toList) : Spells toks (s ++ t).toList := by
  have happend := h.text_append h'
  rwa [List.append_nil] at happend

lemma spells_blanks {s : List Char} (h : s.all isBlank = true) : Spells [] s := by
  induction s with
  | nil => exact .nil
  | cons c s ih =>
    rw [List.all_cons, Bool.and_eq_true] at h
    exact .blank h.1 (ih h.2)

lemma Token.Written.spells {t : Token} {word : List Char} (h : t.Written word) :
    Spells [t] word := by
  rw [← List.append_nil word]
  exact .token h .nil

lemma spells_mark (t : Token) (word : String) (h : (word.toList, t) ∈ marks) :
    Spells [t] word.toList :=
  (Token.Written.mark h).spells

/-- A comma stands between two parts. -/
lemma Spells.text_comma {toks more : List Token} {s t : String} (h : Spells toks s.toList)
    (h' : Spells more t.toList) : Spells (toks ++ .comma :: more) (s ++ "," ++ t).toList := by
  have hmore := (spells_mark .comma "," (by decide)).text_append h'
  rw [String.append_assoc]
  exact h.text_append hmore

/-! ## Strings -/

lemma hexValue?_hexDigit {n : Nat} (h : n < 16) : hexValue? (hexDigit n) = some n := by
  revert n
  decide

/-- Every escape stands for the character it was made from. -/
lemma writes_escapeChar (c : Char) : Writes c (escapeChar c) := by
  fun_cases escapeChar c with
  | case8 _ _ _ _ _ _ _ hlow =>
    have hhigh := hexValue?_hexDigit (n := c.toNat / 16) (by omega)
    have hlow := hexValue?_hexDigit (n := c.toNat % 16) (by omega)
    have hzero : hexValue? '0' = some 0 := rfl
    refine .unit ?_
    simp only [unit?, hzero, hhigh, hlow, Option.bind_eq_bind, Option.bind_some, Option.pure_def]
    congr 1
    omega
  | case9 hquote hslash _ _ _ _ _ hlow => exact .plain (Nat.le_of_not_lt hlow) hquote hslash
  | _ =>
    subst c
    exact .escape (by decide)

lemma writesAll_escape (cs : List Char) : WritesAll cs (cs.flatMap escapeChar) := by
  induction cs with
  | nil => exact .nil
  | cons c cs ih => exact .cons (writes_escapeChar c) ih

lemma toList_foldl_push (cs : List Char) (acc : String) :
    (cs.foldl String.push acc).toList = acc.toList ++ cs := by
  induction cs generalizing acc with
  | nil => simp
  | cons c cs ih => simp [ih]

lemma toList_foldl_escapeChar (cs : List Char) (acc : String) :
    (cs.foldl (fun acc c => (escapeChar c).foldl String.push acc) acc).toList =
      acc.toList ++ cs.flatMap escapeChar := by
  induction cs generalizing acc with
  | nil => simp
  | cons c cs ih => simp [ih, toList_foldl_push]

lemma written_quote (s : String) : Token.Written (.str s) (quote s).toList := by
  have htext : (quote s).toList = '"' :: s.toList.flatMap escapeChar ++ ['"'] := by
    rw [quote, String.toList_push, toList_foldl_escapeChar]
    rfl
  have hwritten := Token.Written.str (writesAll_escape s.toList)
  rwa [String.ofList_toList, ← htext] at hwritten

/-! ## Numbers -/

lemma head?_toDigits_ne_zero {n : Nat} (h : 0 < n) : (Nat.toDigits 10 n).head? ≠ some '0' := by
  induction n using Nat.strongRecOn with
  | ind n ih =>
    rcases Nat.lt_or_ge n 10 with hlt | hle
    · have hall : ∀ n < 10, 0 < n → (Nat.toDigits 10 n).head? ≠ some '0' := by decide
      exact hall n hlt h
    · rw [Nat.toDigits_of_base_le (by decide) hle,
        List.head?_append_of_ne_nil _ Nat.toDigits_ne_nil]
      exact ih (n / 10) (by omega) (by omega)

lemma digits_toDigits (n : Nat) : Digits (Nat.toDigits 10 n) := by
  refine ⟨Nat.toDigits_ne_nil, fun c => Nat.isDigit_of_mem_toDigits (by decide) (by decide), ?_⟩
  intro hzero
  rcases Nat.eq_zero_or_pos n with rfl | hpos
  · rfl
  · exact absurd hzero (head?_toDigits_ne_zero hpos)

lemma written_toString (n : Int) : Token.Written (.num n) (toString n).toList := by
  cases n with
  | ofNat m =>
    have hwritten := Token.Written.natural (digits_toDigits m)
    rwa [Nat.ofDigitChars_toDigits (by decide) (by decide), ← Nat.toList_repr] at hwritten
  | negSucc m =>
    have hwritten := Token.Written.negative (digits_toDigits (m + 1))
    rw [Nat.ofDigitChars_toDigits (by decide) (by decide), ← Nat.toList_repr] at hwritten
    change Token.Written _ ("-" ++ (m + 1).repr).toList
    rw [String.toList_append]
    exact hwritten

/-! ## Both layouts -/

lemma spells_newline (level : Nat) : Spells [] (newline level).toList := by
  refine .text_append (spells_blanks rfl) (spells_blanks ?_)
  induction 2 * level with
  | zero => rfl
  | succ n ih =>
    rw [String.pushn] at ih ⊢
    rw [Nat.repeat, String.toList_push, List.all_append, ih]
    rfl

lemma spells_key (k : String) : Spells [.str k, .colon] (quote k ++ ":").toList :=
  (written_quote k).spells.text_append (spells_mark .colon ":" (by decide))

mutual

lemma spells_compact : (v : Json) → Spells (tokens v) v.compact.toList
  | .null => spells_mark .null "null" (by decide)
  | .bool true => spells_mark (.bool true) "true" (by decide)
  | .bool false => spells_mark (.bool false) "false" (by decide)
  | .num n => (written_toString n).spells
  | .str s => (written_quote s).spells
  | .arr items => by
    have hopen := (spells_mark .openArr "[" (by decide)).text_append (spells_compactItems items)
    exact hopen.text_append (spells_mark .closeArr "]" (by decide))
  | .obj fields => by
    have hopen :=
      (spells_mark .openObj "\x7b" (by decide)).text_append (spells_compactFields fields)
    exact hopen.text_append (spells_mark .closeObj "\x7d" (by decide))

lemma spells_compactItems :
    (items : List Json) → Spells (itemTokens items) (compactItems items).toList
  | [] => .nil
  | [v] => spells_compact v
  | v :: w :: rest => (spells_compact v).text_comma (spells_compactItems (w :: rest))

lemma spells_compactFields :
    (fields : List (String × Json)) → Spells (fieldTokens fields) (compactFields fields).toList
  | [] => .nil
  | [(k, v)] => (spells_key k).text_append (spells_compact v)
  | (k, v) :: f :: rest =>
    ((spells_key k).text_append (spells_compact v)).text_comma (spells_compactFields (f :: rest))

end

/-- The beginning of a field on a line of its own. -/
lemma spells_keyAt (level : Nat) (k : String) :
    Spells [.str k, .colon] (newline level ++ quote k ++ ": ").toList := by
  have hcolon := (spells_mark .colon ":" (by decide)).append (spells_blanks (s := [' ']) rfl)
  exact ((spells_newline level).text_append (written_quote k).spells).text_append hcolon

mutual

lemma spells_prettyAt : (level : Nat) → (v : Json) → Spells (tokens v) (prettyAt level v).toList
  | _, .null => spells_mark .null "null" (by decide)
  | _, .bool true => spells_mark (.bool true) "true" (by decide)
  | _, .bool false => spells_mark (.bool false) "false" (by decide)
  | _, .num n => (written_toString n).spells
  | _, .str s => (written_quote s).spells
  | _, .arr [] =>
    (spells_mark .openArr "[" (by decide)).text_append (spells_mark .closeArr "]" (by decide))
  | level, .arr (v :: rest) => by
    have hopen := (spells_mark .openArr "[" (by decide)).text_append
      (spells_prettyItems (level + 1) (v :: rest))
    exact (hopen.text_blanks (spells_newline level)).text_append
      (spells_mark .closeArr "]" (by decide))
  | _, .obj [] =>
    (spells_mark .openObj "\x7b" (by decide)).text_append (spells_mark .closeObj "\x7d" (by decide))
  | level, .obj (f :: rest) => by
    have hopen := (spells_mark .openObj "\x7b" (by decide)).text_append
      (spells_prettyFields (level + 1) (f :: rest))
    exact (hopen.text_blanks (spells_newline level)).text_append
      (spells_mark .closeObj "\x7d" (by decide))

lemma spells_prettyItems :
    (level : Nat) → (items : List Json) → Spells (itemTokens items) (prettyItems level items).toList
  | _, [] => .nil
  | level, [v] => (spells_newline level).text_append (spells_prettyAt level v)
  | level, v :: w :: rest =>
    ((spells_newline level).text_append (spells_prettyAt level v)).text_comma
      (spells_prettyItems level (w :: rest))

lemma spells_prettyFields :
    (level : Nat) → (fields : List (String × Json)) →
      Spells (fieldTokens fields) (prettyFields level fields).toList
  | _, [] => .nil
  | level, [(k, v)] => (spells_keyAt level k).text_append (spells_prettyAt level v)
  | level, (k, v) :: f :: rest =>
    ((spells_keyAt level k).text_append (spells_prettyAt level v)).text_comma
      (spells_prettyFields level (f :: rest))

end

/-- How a value is laid out. -/
inductive Layout where
  | compact
  | pretty

/-- The text of a value in a layout. -/
def Layout.text : Layout → Json → String
  | compact, v => v.compact
  | pretty, v => v.pretty

lemma spells_text (layout : Layout) (v : Json) : Spells (tokens v) (layout.text v).toList := by
  cases layout with
  | compact => exact spells_compact v
  | pretty => exact spells_prettyAt 0 v

/-- **Reading undoes laying out**, in either layout. -/
theorem read_text (layout : Layout) (v : Json) : read (layout.text v) = some v :=
  (read_eq_some_iff _ v).mpr (spells_text layout v)

/-- Equal texts, in whatever layouts, are texts of one value. -/
lemma eq_of_text_eq {layout layout' : Layout} {v w : Json}
    (h : layout.text v = layout'.text w) : v = w := by
  have hread := read_text layout v
  rw [h, read_text] at hread
  exact (Option.some.inj hread).symm

end Watchdog.Json
