import Mathlib.Tactic.Lemma
import Watchdog.Text.Lowercase

/-!
# What lower-casing keeps

Lower-casing goes through a text character by character: each gives one or two, never none, and no
capital letter has a small one that stands before `a` in the code.  So the length tells how often
the dotted capital I occurred, and what is below `a` in the result (a line break, a space, a
bracket) was there before.
-/

namespace Watchdog.Text

/-! ## Lengths -/

lemma length_lowerAt (before : List Char) (c : Char) (after : List Char) :
    (lowerAt before c after).length = if c = 'İ' then 2 else 1 := by
  unfold lowerAt
  by_cases hsigma : c = 'Σ'
  · rw [if_pos hsigma, hsigma]
    split <;> rfl
  · rw [if_neg hsigma]
    split <;> rfl

/-- Lower-casing changes the length by one for each dotted capital I and by nothing else. -/
lemma length_lowerFrom (before s : List Char) :
    (lowerFrom before s).length = s.length + s.count 'İ' := by
  induction s generalizing before with
  | nil => rfl
  | cons c s ih =>
    rw [lowerFrom, List.length_append, ih, length_lowerAt, List.length_cons, List.count_cons]
    split <;> simp_all <;> omega

/-- Lower-casing makes no text empty. -/
lemma lower_eq_nil_iff {s : List Char} : lower s = [] ↔ s = [] := by
  rw [← List.length_eq_zero_iff, ← List.length_eq_zero_iff, lower, length_lowerFrom]
  have hcount : s.count 'İ' ≤ s.length := List.count_le_length
  omega

/-! ## Characters below the small letters -/

/-- A run of capital letters is mapped to characters, none of them before `a`. -/
def CaseRun.Lands (run : CaseRun) : Prop :=
  0x61 ≤ run.target ∧
    (run.target + (run.last - run.first) < 0xD800 ∨
      0xDFFF < run.target ∧ run.target + (run.last - run.first) < 0x110000)
deriving Decidable

lemma lands_of_mem_caseRuns : ∀ run ∈ caseRuns, run.Lands := by decide +kernel

/-- A character with a small letter of its own is mapped to `a` or beyond. -/
lemma lowerSimple_eq_or_le (c : Char) : lowerSimple c = c ∨ 0x61 ≤ (lowerSimple c).toNat := by
  unfold lowerSimple
  cases hfind : caseRuns.find? (·.covers c.toNat) with
  | none => exact .inl rfl
  | some run =>
    obtain ⟨hlow, hhigh⟩ := lands_of_mem_caseRuns run (List.mem_of_find?_eq_some hfind)
    have hcovers := List.find?_some hfind
    simp only [CaseRun.covers, Bool.and_eq_true, decide_eq_true_eq] at hcovers
    have hvalid : (run.target + (c.toNat - run.first)).isValidChar := by
      unfold Nat.isValidChar
      omega
    right
    dsimp only
    rw [Char.ofNat, dif_pos hvalid]
    exact Nat.le_trans hlow (Nat.le_add_right _ _)

lemma eq_of_mem_lowerAt {d c : Char} {before after : List Char}
    (hd : d.toNat < 0x61) (h : d ∈ lowerAt before c after) : d = c := by
  have hfrom (small : List Char) (hsmall : (small.all fun e => 0x61 ≤ e.toNat) = true) :
      d ∉ small := by
    intro hmem
    have hlow : 0x61 ≤ d.toNat := of_decide_eq_true (List.all_eq_true.mp hsmall d hmem)
    exact absurd hd (Nat.not_lt.mpr hlow)
  unfold lowerAt at h
  split at h
  · split at h
    · exact absurd h (hfrom _ rfl)
    · exact absurd h (hfrom _ rfl)
  · split at h
    · exact absurd h (hfrom _ rfl)
    · obtain rfl := List.mem_singleton.mp h
      exact (lowerSimple_eq_or_le c).resolve_right (Nat.not_le.mpr hd)

lemma mem_of_mem_lowerFrom {d : Char} {before s : List Char} (hd : d.toNat < 0x61)
    (h : d ∈ lowerFrom before s) : d ∈ s := by
  induction s generalizing before with
  | nil => exact h
  | cons c s ih =>
    rw [lowerFrom, List.mem_append] at h
    obtain h | h := h
    · exact eq_of_mem_lowerAt hd h ▸ List.mem_cons_self
    · exact List.mem_cons_of_mem c (ih h)

/-- A character before `a` in the lower-cased text comes from the text itself. -/
lemma mem_of_mem_lower {d : Char} {s : List Char} (hd : d.toNat < 0x61) (h : d ∈ lower s) :
    d ∈ s :=
  mem_of_mem_lowerFrom hd h

end Watchdog.Text
