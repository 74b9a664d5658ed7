import Mathlib.Tactic.Common
import Watchdog.Text.Digit
import Watchdog.Text.Search

/-!
# What a search finds

A search goes through the suffixes of a text from the longest on, so that what it finds stands after
the shortest text after which anything can be found; it finds nothing only if nothing can be read
anywhere (`firstMatch_eq_some`, `firstMatch_eq_none`).  A number, in the digits of any script, is
read up to the first character that is no digit.
-/

namespace Watchdog.Text

/-! ## Literals -/

lemma dropLiteral_eq_some {lit s r : List Char} : dropLiteral lit s = some r ↔ s = lit ++ r := by
  induction lit generalizing s with
  | nil => simp [dropLiteral]
  | cons l lit ih =>
    cases s with
    | nil => simp [dropLiteral]
    | cons c s =>
      by_cases h : l = c
      · subst h; simp [dropLiteral, ih]
      · simp [dropLiteral, h, Ne.symm h]

@[simp] lemma dropLiteral_append (lit r : List Char) : dropLiteral lit (lit ++ r) = some r :=
  dropLiteral_eq_some.2 rfl

/-! ## The first match -/

lemma firstMatch_eq_none {α : Type} {read : List Char → Option α} {s : List Char} :
    firstMatch read s = none ↔ ∀ a b, s = a ++ b → read b = none := by
  induction s with
  | nil =>
    constructor
    · intro h a b hab
      obtain ⟨-, rfl⟩ := List.append_eq_nil_iff.1 hab.symm
      exact h
    · intro h; exact h [] [] rfl
  | cons c s ih =>
    constructor
    · intro h a b hab
      cases hr : read (c :: s) with
      | some x => simp [firstMatch, hr] at h
      | none =>
        simp only [firstMatch, hr] at h
        cases a with
        | nil => simp only [List.nil_append] at hab; exact hab ▸ hr
        | cons x a =>
          simp only [List.cons_append, List.cons.injEq] at hab
          exact ih.1 h a b hab.2
    · intro h
      simp only [firstMatch, h [] (c :: s) rfl]
      exact ih.2 fun a b hab => h (c :: a) b (by simp [hab])

/-- **The first match.**  It is the one after the shortest text. -/
theorem firstMatch_eq_some {α : Type} {read : List Char → Option α} {s : List Char} {x : α} :
    firstMatch read s = some x ↔
      ∃ a b, s = a ++ b ∧ read b = some x ∧
        ∀ a' b', s = a' ++ b' → read b' ≠ none → a.length ≤ a'.length := by
  induction s with
  | nil =>
    constructor
    · intro h
      exact ⟨[], [], rfl, h, fun _ _ _ _ => Nat.zero_le _⟩
    · rintro ⟨a, b, hab, hr, -⟩
      obtain ⟨-, rfl⟩ := List.append_eq_nil_iff.1 hab.symm
      exact hr
  | cons c s ih =>
    cases hc : read (c :: s) with
    | some y =>
      simp only [firstMatch, hc, Option.some.injEq]
      constructor
      · rintro rfl
        exact ⟨[], c :: s, rfl, hc, fun _ _ _ _ => Nat.zero_le _⟩
      · rintro ⟨a, b, hab, hr, hmin⟩
        cases a with
        | nil =>
          simp only [List.nil_append] at hab
          subst hab
          rw [hc] at hr
          exact Option.some.inj hr
        | cons z a =>
          have hle : (z :: a).length ≤ 0 := hmin [] (c :: s) rfl (by simp [hc])
          exact absurd hle (Nat.not_succ_le_zero _)
    | none =>
      simp only [firstMatch, hc]
      rw [ih]
      constructor
      · rintro ⟨a, b, hab, hr, hmin⟩
        refine ⟨c :: a, b, by simp [hab], hr, ?_⟩
        intro a' b' hab' hread
        cases a' with
        | nil =>
          simp only [List.nil_append] at hab'
          exact absurd (hab' ▸ hc) hread
        | cons z a' =>
          simp only [List.cons_append, List.cons.injEq] at hab'
          exact Nat.succ_le_succ (hmin a' b' hab'.2 hread)
      · rintro ⟨a, b, hab, hr, hmin⟩
        cases a with
        | nil =>
          simp only [List.nil_append] at hab
          rw [← hab, hc] at hr
          cases hr
        | cons z a =>
          simp only [List.cons_append, List.cons.injEq] at hab
          refine ⟨a, b, hab.2, hr, ?_⟩
          intro a' b' hab' hread
          exact Nat.le_of_succ_le_succ (hmin (c :: a') b' (by simp [hab']) hread)

/-! ## Digits -/

lemma inRanges_iff {runs : List (Nat × Nat)} {c : Char} :
    inRanges runs c = true ↔ ∃ run ∈ runs, run.1 ≤ c.toNat ∧ c.toNat ≤ run.2 := by
  simp [inRanges]

/-! A number ends where a word that begins with a space follows. -/

lemma takeWhile_digits {digits word : List Char} (hdigits : ∀ c ∈ digits, isDigit c = true)
    (hword : word.head? = some ' ') (t : List Char) :
    (digits ++ (word ++ t)).takeWhile isDigit = digits := by
  obtain ⟨word, rfl⟩ := List.head?_eq_some_iff.1 hword
  have hstop : isDigit ' ' = false := by decide
  rw [List.takeWhile_append_of_pos hdigits, List.cons_append,
    List.takeWhile_cons_of_neg (by simp [hstop]), List.append_nil]

lemma dropWhile_digits {digits word : List Char} (hdigits : ∀ c ∈ digits, isDigit c = true)
    (hword : word.head? = some ' ') (t : List Char) :
    (digits ++ (word ++ t)).dropWhile isDigit = word ++ t := by
  obtain ⟨word, rfl⟩ := List.head?_eq_some_iff.1 hword
  have hstop : isDigit ' ' = false := by decide
  rw [List.dropWhile_append_of_pos hdigits, List.cons_append,
    List.dropWhile_cons_of_neg (by simp [hstop])]

end Watchdog.Text
