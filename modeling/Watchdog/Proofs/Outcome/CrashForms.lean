import Mathlib.Data.List.TakeWhile
import Watchdog.Outcome.CrashSignature
import Watchdog.Proofs.Text.Search

/-!
# The forms of a crash report

The six forms as cuts of a text into pieces (`Form.Fits`), and what the functions that read them
make of a text that begins with one.  A form may fit in several ways: the header of the second and
of the last form leaves open where its inside ends.  Reading a form gives the report of the way
with the longest inside (`Form.reader_eq_some_iff`), and fails only if the form does not fit at all.
-/

namespace Watchdog.CrashSignature

open Watchdog.Text

/-! ## The forms -/

/-- The forms of a crash report. -/
inductive Form where
  | thread
  | generic
  | phrase (text : List Char)
  | address
deriving Repr, DecidableEq

namespace Form

/-- The forms by their priority. -/
def all : List Form :=
  [ thread,
    generic,
    phrase "Segmentation fault at address".toList,
    phrase "Internal assertion failure".toList,
    phrase "Illegal instruction at address".toList,
    address ]

/-- The function that reads the form at the beginning of a text. -/
def reader : Form → List Char → Option (List Char)
  | thread => threadPanic?
  | generic => genericPanic?
  | phrase text => phrase? text
  | address => addressPanic?

lemma forms_eq : forms = all.map reader := rfl

end Form

/-! ## Lines that end -/

/-- The text begins with `line`, and there the line ends. -/
def EndedLine (line s : List Char) : Prop :=
  ∃ e rest, s = line ++ e :: rest ∧ '\r' ∉ line ∧ '\n' ∉ line ∧ (e = '\r' ∨ e = '\n')

lemma isLineEnd_iff {c : Char} : isLineEnd c = true ↔ c = '\r' ∨ c = '\n' := by
  simp [isLineEnd]

/-- The rest of a line is read exactly if something ends it. -/
lemma restOfLine?_eq_some_iff {s line : List Char} :
    restOfLine? s = some line ↔ EndedLine line s := by
  constructor
  · intro h
    cases hdrop : s.dropWhile (!isLineEnd ·) with
    | nil => simp [restOfLine?, hdrop] at h
    | cons e rest =>
      have hline : s.takeWhile (!isLineEnd ·) = line := by simpa [restOfLine?, hdrop] using h
      have hcut : s = line ++ e :: rest := by
        rw [← hline, ← hdrop, List.takeWhile_append_dropWhile]
      have hmem : ∀ c ∈ line, isLineEnd c = false := by
        intro c hc
        rw [← hline] at hc
        simpa using List.mem_takeWhile_imp hc
      have hend : isLineEnd e = true := by
        have := List.head?_dropWhile_not (!isLineEnd ·) s
        simpa [hdrop] using this
      exact ⟨e, rest, hcut, fun hr => absurd (hmem _ hr) (by decide),
        fun hn => absurd (hmem _ hn) (by decide), isLineEnd_iff.1 hend⟩
  · rintro ⟨e, rest, rfl, hr, hn, he⟩
    have hall : ∀ c ∈ line, (!isLineEnd c) = true := by
      intro c hc
      rw [Bool.not_eq_true', Bool.eq_false_iff, ne_eq, isLineEnd_iff]
      rintro (rfl | rfl)
      · exact hr hc
      · exact hn hc
    have hend : isLineEnd e = true := isLineEnd_iff.2 he
    simp [restOfLine?, List.dropWhile_append_of_pos hall, List.takeWhile_append_of_pos hall, hend]

/-! ## The last place on a line -/

section LastInLine

variable {α : Type} (read : List Char → Option α)

/-- After `x`, still on the first line of the text, `a` can be read. -/
def Reaches (s x : List Char) (a : α) : Prop :=
  ∃ rest, s = x ++ rest ∧ '\n' ∉ x ∧ read rest = some a

/-- After `x`, and nowhere later on the line. -/
structure ReachesLast (s x : List Char) (a : α) : Prop where
  reaches : Reaches read s x a
  longest : ∀ x' a', Reaches read s x' a' → x'.length ≤ x.length

/-- What the place at hand makes of the last place found so far. -/
def here (before : List Char) (best : Option (List Char × α)) (s : List Char) :
    Option (List Char × α) :=
  ((read s).map fun a => (before.reverse, a)).or best

variable {read}

lemma reaches_nil_iff {s : List Char} {a : α} : Reaches read s [] a ↔ read s = some a := by
  simp [Reaches]

lemma reaches_cons_iff {c y : Char} {s x : List Char} {a : α} :
    Reaches read (c :: s) (y :: x) a ↔ y = c ∧ c ≠ '\n' ∧ Reaches read s x a := by
  constructor
  · rintro ⟨rest, hcut, hline, ha⟩
    obtain ⟨rfl, rfl⟩ := List.cons.inj hcut
    rw [List.mem_cons, not_or] at hline
    exact ⟨rfl, Ne.symm hline.1, rest, rfl, hline.2, ha⟩
  · rintro ⟨rfl, hne, rest, rfl, hline, ha⟩
    exact ⟨rest, rfl, by simp [Ne.symm hne, hline], ha⟩

/-- The places on a line differ in the length of the text before them. -/
lemma Reaches.unique {s x x' : List Char} {a a' : α} (h : Reaches read s x a)
    (h' : Reaches read s x' a') (hlen : x.length = x'.length) : x = x' ∧ a = a' := by
  obtain ⟨rest, rfl, -, ha⟩ := h
  obtain ⟨rest', hcut, -, ha'⟩ := h'
  obtain ⟨rfl, rfl⟩ := List.append_inj hcut hlen
  exact ⟨rfl, Option.some.inj (ha.symm.trans ha')⟩

/-- Where nothing later on the line can be reached, the place at hand decides. -/
lemma here_cases {s : List Char} (before : List Char) (best : Option (List Char × α))
    (hstay : ∀ x a, Reaches read s x a → x = []) :
    (∃ x a, ReachesLast read s x a ∧ here read before best s = some (before.reverse ++ x, a)) ∨
    (∀ x a, ¬ Reaches read s x a) ∧ here read before best s = best := by
  cases hread : read s with
  | some a =>
    refine .inl ⟨[], a, ⟨reaches_nil_iff.2 hread, ?_⟩, by simp [here, hread]⟩
    intro x a' h
    rw [hstay x a' h]
  | none =>
    refine .inr ⟨?_, by simp [here, hread]⟩
    intro x a h
    obtain rfl := hstay x a h
    rw [reaches_nil_iff, hread] at h
    cases h

lemma lastInLine_nil (before : List Char) (best : Option (List Char × α)) :
    lastInLine read before best [] = here read before best [] := by
  rw [lastInLine, here]
  cases read [] <;> rfl

lemma lastInLine_cons (before : List Char) (best : Option (List Char × α)) (c : Char)
    (rest : List Char) :
    lastInLine read before best (c :: rest) =
      if c = '\n' then here read before best (c :: rest)
      else lastInLine read (c :: before) (here read before best (c :: rest)) rest := by
  rw [lastInLine, here]
  cases read (c :: rest) <;> rfl

variable (read) in
/-- The last place on the line is found, or what was found before if the line has none. -/
lemma lastInLine_cases (s before : List Char) (best : Option (List Char × α)) :
    (∃ x a, ReachesLast read s x a ∧
      lastInLine read before best s = some (before.reverse ++ x, a)) ∨
    (∀ x a, ¬ Reaches read s x a) ∧ lastInLine read before best s = best := by
  induction s generalizing before best with
  | nil =>
    rw [lastInLine_nil]
    apply here_cases
    rintro x a ⟨rest, hcut, -⟩
    exact (List.append_eq_nil_iff.1 hcut.symm).1
  | cons c s ih =>
    rw [lastInLine_cons]
    by_cases hc : c = '\n'
    · rw [if_pos hc]
      apply here_cases
      intro x a h
      cases x with
      | nil => rfl
      | cons y x => exact absurd hc (reaches_cons_iff.1 h).2.1
    · rw [if_neg hc]
      obtain ⟨x, a, hlast, hres⟩ | ⟨hnone, hres⟩ :=
        ih (c :: before) (here read before best (c :: s))
      · -- Whatever can be read at this place, a later one counts.
        refine .inl ⟨c :: x, a, ⟨reaches_cons_iff.2 ⟨rfl, hc, hlast.reaches⟩, ?_⟩, by simp [hres]⟩
        intro x' a' h
        cases x' with
        | nil => exact Nat.zero_le _
        | cons y x' => exact Nat.succ_le_succ (hlast.longest x' a' (reaches_cons_iff.1 h).2.2)
      · rw [hres]
        apply here_cases
        intro x a h
        cases x with
        | nil => rfl
        | cons y x => exact absurd (reaches_cons_iff.1 h).2.2 (hnone x a)

end LastInLine

/-! ## Reading a form -/

namespace Form

/-- The text begins with the form, and of what the form leaves open, `inside` is the text inside
the header and `raw` the report. -/
inductive Fits : Form → (text inside raw : List Char) → Prop where
  | thread {digits message ended : List Char} :
      digits ≠ [] → (∀ c ∈ digits, isDigit c = true) → EndedLine message ended →
      Fits thread ("thread ".toList ++ digits ++ " panic: ".toList ++ ended) [] message
  | generic {inside message ended : List Char} :
      '\n' ∉ inside → EndedLine message ended →
      Fits generic ("panic(".toList ++ inside ++ "): ".toList ++ ended) inside message
  | phrase {text : List Char} (rest : List Char) : Fits (phrase text) (text ++ rest) [] text
  | address {inside : List Char} (rest : List Char) :
      '\n' ∉ inside →
      Fits address ("panic: ".toList ++ inside ++ " at address".toList ++ rest) inside inside

variable {s x x' raw raw' : List Char}

lemma fits_thread_iff : Fits thread s x raw ↔ x = [] ∧ threadPanic? s = some raw := by
  constructor
  · intro h
    cases h with
    | @thread digits _ ended hsome hdigits hline =>
      refine ⟨rfl, ?_⟩
      have hword : " panic: ".toList.head? = some ' ' := rfl
      simp only [threadPanic?, List.append_assoc, dropLiteral_append,
        takeWhile_digits hdigits hword, dropWhile_digits hdigits hword, Option.bind_eq_bind,
        Option.bind_some]
      rw [if_neg (by simpa using hsome), restOfLine?_eq_some_iff.2 hline]
  · rintro ⟨rfl, h⟩
    simp only [threadPanic?, Option.bind_eq_bind, Option.bind_eq_some_iff, dropLiteral_eq_some] at h
    obtain ⟨t, rfl, h⟩ := h
    split at h
    · cases h
    · rename_i hsome
      obtain ⟨ended, hcut, h⟩ := Option.bind_eq_some_iff.1 h
      rw [dropLiteral_eq_some] at hcut
      have hfits : Fits thread
          ("thread ".toList ++ t.takeWhile isDigit ++ " panic: ".toList ++ ended) [] raw :=
        .thread (by simpa using hsome) (fun c hc => List.mem_takeWhile_imp hc)
          (restOfLine?_eq_some_iff.1 h)
      rwa [List.append_assoc, ← hcut, List.append_assoc, List.takeWhile_append_dropWhile] at hfits

lemma fits_phrase_iff {text : List Char} :
    Fits (phrase text) s x raw ↔ x = [] ∧ phrase? text s = some raw := by
  simp only [phrase?, Option.map_eq_some_iff, dropLiteral_eq_some]
  constructor
  · intro h
    cases h with
    | phrase rest => exact ⟨rfl, rest, rfl, rfl⟩
  · rintro ⟨rfl, rest, rfl, rfl⟩
    exact .phrase rest

lemma fits_generic_iff :
    Fits generic s x raw ↔
      ∃ t message, s = "panic(".toList ++ t ∧
        Reaches panicMessage? t x message ∧ message = raw := by
  constructor
  · intro h
    cases h with
    | @generic _ _ ended hx hline =>
      have hmessage : panicMessage? ("): ".toList ++ ended) = some raw := by
        simp only [panicMessage?, dropLiteral_append, Option.bind_eq_bind, Option.bind_some]
        exact restOfLine?_eq_some_iff.2 hline
      exact ⟨x ++ ("): ".toList ++ ended), raw, by simp only [List.append_assoc],
        ⟨_, rfl, hx, hmessage⟩, rfl⟩
  · rintro ⟨_, _, rfl, ⟨rest, rfl, hx, h⟩, rfl⟩
    simp only [panicMessage?, Option.bind_eq_bind, Option.bind_eq_some_iff, dropLiteral_eq_some,
      restOfLine?_eq_some_iff] at h
    obtain ⟨ended, rfl, hline⟩ := h
    simpa only [List.append_assoc] using Fits.generic hx hline

lemma fits_address_iff :
    Fits address s x raw ↔
      ∃ t after, s = "panic: ".toList ++ t ∧
        Reaches (dropLiteral " at address".toList) t x after ∧ x = raw := by
  constructor
  · intro h
    cases h with
    | address rest hx =>
      exact ⟨x ++ (" at address".toList ++ rest), rest, by simp only [List.append_assoc],
        ⟨_, rfl, hx, dropLiteral_append _ _⟩, rfl⟩
  · rintro ⟨_, after, rfl, ⟨_, rfl, hx, h⟩, rfl⟩
    rw [dropLiteral_eq_some] at h
    subst h
    simpa only [List.append_assoc] using Fits.address after hx

/-- The length of the inside tells the ways apart in which a form fits. -/
lemma Fits.unique {form : Form} (h : form.Fits s x raw) (h' : form.Fits s x' raw')
    (hlen : x.length = x'.length) : raw = raw' := by
  cases form with
  | thread =>
    rw [fits_thread_iff] at h h'
    exact Option.some.inj (h.2.symm.trans h'.2)
  | generic =>
    obtain ⟨t, a, rfl, ha, rfl⟩ := fits_generic_iff.1 h
    obtain ⟨t', a', hcut, ha', rfl⟩ := fits_generic_iff.1 h'
    obtain rfl := List.append_cancel_left hcut
    exact (ha.unique ha' hlen).2
  | phrase text =>
    rw [fits_phrase_iff] at h h'
    exact Option.some.inj (h.2.symm.trans h'.2)
  | address =>
    obtain ⟨t, a, rfl, ha, rfl⟩ := fits_address_iff.1 h
    obtain ⟨t', a', hcut, ha', rfl⟩ := fits_address_iff.1 h'
    obtain rfl := List.append_cancel_left hcut
    exact (ha.unique ha' hlen).1

/-- The form fits with `inside` inside its header, and not with more. -/
structure FitsBest (form : Form) (s inside raw : List Char) : Prop where
  fits : form.Fits s inside raw
  longest : ∀ inside' raw', form.Fits s inside' raw' → inside'.length ≤ inside.length

/-- Reading gives the report of the longest inside, or there is none. -/
def ReadsBest (form : Form) (s : List Char) : Prop :=
  (∃ x raw, form.FitsBest s x raw ∧ form.reader s = some raw) ∨
  (∀ x raw, ¬ form.Fits s x raw) ∧ form.reader s = none

lemma readsBest_of_closed {form : Form}
    (hfits : ∀ x raw, form.Fits s x raw ↔ x = [] ∧ form.reader s = some raw) :
    form.ReadsBest s := by
  cases hread : form.reader s with
  | none => exact .inr ⟨by simp [hfits, hread], hread⟩
  | some raw =>
    refine .inl ⟨[], raw, ⟨(hfits _ _).2 ⟨rfl, hread⟩, ?_⟩, hread⟩
    intro x' raw' h
    rw [((hfits _ _).1 h).1]

lemma readsBest_of_open {α : Type} {form : Form} {lit : List Char} {read : List Char → Option α}
    {report : List Char × α → List Char}
    (hread : form.reader s =
      (dropLiteral lit s).bind fun t => (lastInLine read [] none t).map report)
    (hfits : ∀ x raw, form.Fits s x raw ↔
      ∃ t a, s = lit ++ t ∧ Reaches read t x a ∧ report (x, a) = raw) :
    form.ReadsBest s := by
  cases hlit : dropLiteral lit s with
  | none =>
    refine .inr ⟨?_, by rw [hread, hlit, Option.bind_none]⟩
    intro x raw h
    obtain ⟨t, a, rfl, -⟩ := (hfits x raw).1 h
    rw [dropLiteral_append] at hlit
    cases hlit
  | some t =>
    rw [hlit, Option.bind_some] at hread
    obtain rfl := dropLiteral_eq_some.1 hlit
    obtain ⟨x, a, hlast, hres⟩ | ⟨hnone, hres⟩ := lastInLine_cases read t [] none
    · refine .inl ⟨x, report (x, a), ⟨(hfits _ _).2 ⟨t, a, rfl, hlast.reaches, rfl⟩, ?_⟩, ?_⟩
      · intro x' raw' h
        obtain ⟨t', a', hcut, h, -⟩ := (hfits x' raw').1 h
        obtain rfl := List.append_cancel_left hcut
        exact hlast.longest x' a' h
      · rw [hread, hres]
        rfl
    · refine .inr ⟨?_, by rw [hread, hres, Option.map_none]⟩
      intro x raw h
      obtain ⟨t', a', hcut, h, -⟩ := (hfits x raw).1 h
      obtain rfl := List.append_cancel_left hcut
      exact hnone x a' h

lemma readsBest (form : Form) (s : List Char) : form.ReadsBest s := by
  cases form with
  | thread => exact readsBest_of_closed fun _ _ => fits_thread_iff
  | generic => exact readsBest_of_open rfl fun _ _ => fits_generic_iff
  | phrase text => exact readsBest_of_closed fun _ _ => fits_phrase_iff
  | address => exact readsBest_of_open rfl fun _ _ => fits_address_iff

lemma reader_eq_none_iff {form : Form} :
    form.reader s = none ↔ ∀ x raw, ¬ form.Fits s x raw := by
  obtain ⟨x, raw, hbest, hread⟩ | ⟨hnone, hread⟩ := form.readsBest s
  · refine ⟨fun h => ?_, fun h => absurd hbest.fits (h x raw)⟩
    rw [hread] at h
    cases h
  · exact ⟨fun _ => hnone, fun _ => hread⟩

/-- A form is read exactly as it fits best. -/
lemma reader_eq_some_iff {form : Form} :
    form.reader s = some raw ↔ ∃ x, form.FitsBest s x raw := by
  obtain ⟨x, best, hbest, hread⟩ | ⟨hnone, hread⟩ := form.readsBest s
  · rw [hread, Option.some.injEq]
    constructor
    · rintro rfl
      exact ⟨x, hbest⟩
    · rintro ⟨x', hbest'⟩
      exact hbest.fits.unique hbest'.fits
        (le_antisymm (hbest'.longest _ _ hbest.fits) (hbest.longest _ _ hbest'.fits))
  · rw [hread]
    constructor
    · intro h
      cases h
    · rintro ⟨x, hbest⟩
      exact absurd hbest.fits (hnone x raw)

end Form

end Watchdog.CrashSignature
