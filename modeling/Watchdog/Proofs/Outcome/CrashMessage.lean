import Watchdog.Proofs.Outcome.CrashForms

/-!
# The crash that an error output reports

The message comes from one of the forms that occur in the output, the first of them by priority,
however early the others occur.  Of its occurrences the first one counts, with the longest inside
that its header can have there, and of the report its first line (`message_of_forms`).
-/

namespace Watchdog

namespace CrashSignature

open Watchdog.Text

/-! ## Occurrences -/

/-- Of two places in a text, the later one has the gap between them before it. -/
lemma exists_gap {before before' rest rest' : List Char} (hcut : before ++ rest = before' ++ rest')
    (hlt : before.length < before'.length) :
    ∃ gap, gap ≠ [] ∧ before' = before ++ gap ∧ rest = gap ++ rest' := by
  rcases List.append_eq_append_iff.1 hcut with ⟨gap, rfl, rfl⟩ | ⟨gap, rfl, -⟩
  · refine ⟨gap, ?_, rfl, rfl⟩
    rintro rfl
    simp at hlt
  · rw [List.length_append] at hlt
    omega

namespace Form

/-- The form occurs after `before`, with `inside` inside its header and `raw` for its report. -/
def Found (form : Form) (s before inside raw : List Char) : Prop :=
  ∃ rest, s = before ++ rest ∧ form.Fits rest inside raw

/-- The occurrence of the form that counts. -/
structure Picks (form : Form) (s before inside raw : List Char) : Prop where
  found : form.Found s before inside raw
  first : ∀ before' inside' raw', form.Found s before' inside' raw' →
    before.length ≤ before'.length
  longest : ∀ inside' raw', form.Found s before inside' raw' → inside'.length ≤ inside.length

variable {form : Form} {s raw : List Char}

lemma firstMatch_reader_eq_none_iff :
    firstMatch form.reader s = none ↔ ∀ before inside raw, ¬ form.Found s before inside raw := by
  rw [firstMatch_eq_none]
  constructor
  · rintro h before inside raw ⟨rest, hcut, hfits⟩
    exact reader_eq_none_iff.1 (h before rest hcut) inside raw hfits
  · intro h before rest hcut
    exact reader_eq_none_iff.2 fun inside raw hfits => h before inside raw ⟨rest, hcut, hfits⟩

/-- The first place where the form can be read is that of the occurrence that counts. -/
lemma firstMatch_reader_eq_some_iff :
    firstMatch form.reader s = some raw ↔ ∃ before inside, form.Picks s before inside raw := by
  rw [firstMatch_eq_some]
  constructor
  · rintro ⟨before, rest, rfl, hread, hfirst⟩
    obtain ⟨inside, hbest⟩ := reader_eq_some_iff.1 hread
    refine ⟨before, inside, ⟨rest, rfl, hbest.fits⟩, ?_, ?_⟩
    · rintro before' inside' raw' ⟨rest', hcut, hfits⟩
      refine hfirst before' rest' hcut fun hnone => ?_
      exact reader_eq_none_iff.1 hnone inside' raw' hfits
    · rintro inside' raw' ⟨rest', hcut, hfits⟩
      obtain rfl := List.append_cancel_left hcut
      exact hbest.longest inside' raw' hfits
  · rintro ⟨before, inside, ⟨rest, rfl, hfits⟩, hfirst, hlongest⟩
    refine ⟨before, rest, rfl, reader_eq_some_iff.2 ⟨inside, hfits, ?_⟩, ?_⟩
    · intro inside' raw' hfits'
      exact hlongest inside' raw' ⟨rest, rfl, hfits'⟩
    · intro before' rest' hcut hread
      obtain ⟨raw', hraw⟩ := Option.ne_none_iff_exists'.1 hread
      obtain ⟨inside', hbest⟩ := reader_eq_some_iff.1 hraw
      exact hfirst before' inside' raw' ⟨rest', hcut, hbest.fits⟩

end Form

/-- What the text reports: the report of the first form by priority that occurs in it. -/
def Reports (s raw : List Char) : Prop :=
  ∃ earlier form later, Form.all = earlier ++ form :: later ∧
    (∃ before inside, form.Picks s before inside raw) ∧
    ∀ other ∈ earlier, ∀ before inside raw, ¬ other.Found s before inside raw

lemma raw?_eq_none_iff {s : List Char} :
    raw? s = none ↔ ∀ form ∈ Form.all, ∀ before inside raw, ¬ form.Found s before inside raw := by
  simp only [raw?, Form.forms_eq, List.findSome?_map, List.findSome?_eq_none_iff,
    Function.comp_apply, Form.firstMatch_reader_eq_none_iff]

lemma raw?_eq_some_iff {s raw : List Char} : raw? s = some raw ↔ Reports s raw := by
  simp only [raw?, Form.forms_eq, List.findSome?_map, List.findSome?_eq_some_iff,
    Function.comp_apply, Form.firstMatch_reader_eq_none_iff, Form.firstMatch_reader_eq_some_iff,
    Reports]

/-! ## The first line -/

/-- The text begins with a line break, written as such or as a backslash and an `n`. -/
def Breaks (s : List Char) : Prop := ['\n'] <+: s ∨ ['\\', 'n'] <+: s

/-- The text before the first line break, or the whole text if there is none. -/
def IsFirstLine (raw line : List Char) : Prop :=
  ∃ rest, raw = line ++ rest ∧ (rest = [] ∨ Breaks rest) ∧
    ∀ before after, raw = before ++ after → before.length < line.length → ¬ Breaks after

lemma firstLine_of_breaks {s : List Char} (h : Breaks s) : firstLine s = [] := by
  obtain ⟨rest, rfl⟩ | ⟨rest, rfl⟩ := h
  · rw [List.singleton_append, firstLine]
  · rfl

lemma firstLine_of_not_breaks {c : Char} {s : List Char} (h : ¬ Breaks (c :: s)) :
    firstLine (c :: s) = c :: firstLine s := by
  rw [firstLine]
  · rintro rfl
    exact h (.inl ⟨s, rfl⟩)
  · rintro rest rfl rfl
    exact h (.inr ⟨rest, rfl⟩)

lemma isFirstLine_firstLine (raw : List Char) : IsFirstLine raw (firstLine raw) := by
  induction raw with
  | nil => exact ⟨[], rfl, .inl rfl, fun _ _ _ hlt => absurd hlt (Nat.not_lt_zero _)⟩
  | cons c s ih =>
    by_cases h : Breaks (c :: s)
    · rw [firstLine_of_breaks h]
      exact ⟨c :: s, rfl, .inr h, fun _ _ _ hlt => absurd hlt (Nat.not_lt_zero _)⟩
    · rw [firstLine_of_not_breaks h]
      obtain ⟨rest, hcut, hrest, hmin⟩ := ih
      refine ⟨rest, by rw [List.cons_append, ← hcut], hrest, ?_⟩
      intro before after hcut' hlt
      cases before with
      | nil =>
        obtain rfl : c :: s = after := hcut'
        exact h
      | cons x before =>
        exact hmin before after (List.cons.inj hcut').2 (Nat.lt_of_succ_lt_succ hlt)

lemma IsFirstLine.length_le {raw line line' : List Char} (h : IsFirstLine raw line)
    (h' : IsFirstLine raw line') : line'.length ≤ line.length := by
  obtain ⟨rest, hcut, hrest, -⟩ := h
  obtain ⟨rest', hcut', -, hmin'⟩ := h'
  by_contra hlt
  obtain rfl | hbreaks := hrest
  · have := congrArg List.length (hcut.symm.trans hcut')
    simp only [List.length_append, List.length_nil] at this
    omega
  · exact hmin' line rest hcut (Nat.lt_of_not_le hlt) hbreaks

lemma firstLine_eq_iff {raw line : List Char} : firstLine raw = line ↔ IsFirstLine raw line := by
  constructor
  · rintro rfl
    exact isFirstLine_firstLine raw
  · intro h
    have hfirst := isFirstLine_firstLine raw
    have hlen := le_antisymm (h.length_le hfirst) (hfirst.length_le h)
    obtain ⟨rest, hcut, -⟩ := h
    obtain ⟨rest', hcut', -⟩ := hfirst
    exact (List.append_inj (hcut'.symm.trans hcut) hlen).1

end CrashSignature

open CrashSignature

/-- There is no message exactly if none of the forms occurs, and otherwise the message is the first
line, in lower case, of what the error output reports. -/
theorem message_of_forms (stderr : String) :
    (crashMessage? stderr = none ↔
      ∀ form ∈ Form.all, ∀ before inside raw, ¬ form.Found stderr.toList before inside raw) ∧
    ∀ message, crashMessage? stderr = some message ↔
      ∃ raw line, Reports stderr.toList raw ∧ IsFirstLine raw line ∧
        message = String.ofList (Text.lower line) := by
  constructor
  · rw [crashMessage?, Option.map_eq_none_iff, raw?_eq_none_iff]
  · intro message
    simp only [crashMessage?, Option.map_eq_some_iff, raw?_eq_some_iff]
    constructor
    · rintro ⟨raw, hraw, rfl⟩
      exact ⟨raw, firstLine raw, hraw, isFirstLine_firstLine raw, rfl⟩
    · rintro ⟨raw, line, hraw, hline, rfl⟩
      rw [← firstLine_eq_iff.2 hline]
      exact ⟨raw, hraw, rfl⟩

/-- A crash of an earlier form is reported even if one of a later form comes first. -/
example :
    crashMessage? "Segmentation fault at address 0x0\nthread 1 panic: Boom\n" = some "boom" := by
  decide +kernel

end Watchdog
