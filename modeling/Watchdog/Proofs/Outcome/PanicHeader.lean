import Mathlib.Data.List.Infix
import Watchdog.Proofs.Outcome.CrashMessage
import Watchdog.Proofs.Text.Lowercase

/-!
# The message behind a panic header

The header of the second form, `panic(…): `, leaves open where its inside ends, and the longest
inside counts.  So where the message contains a closing bracket, a colon and a space itself, what
stands before them is taken for a part of the header and lost: the message reported is what follows
the last of these on the line (`message_of_header`).  It is the whole message exactly if they do not
occur in it.
-/

namespace Watchdog

open Text

namespace CrashSignature

/-! ## Occurrences that cannot overlap -/

/-- The first letter of the word does not come again. -/
def StartsOnce (word : List Char) : Prop := ∃ c rest, word = c :: rest ∧ c ∉ rest

lemma startsOnce_open : StartsOnce "panic(".toList := ⟨'p', "anic(".toList, rfl, by decide⟩

lemma startsOnce_close : StartsOnce "): ".toList := ⟨')', ": ".toList, rfl, by decide⟩

/-- Between two beginnings of such a word stands the whole word. -/
lemma StartsOnce.prefix_of_append_eq {word gap rest rest' : List Char} (h : StartsOnce word)
    (hgap : gap ≠ []) (hcut : gap ++ (word ++ rest) = word ++ rest') : word <+: gap := by
  obtain ⟨c, tail, rfl, hc⟩ := h
  obtain ⟨g, gap, rfl⟩ := List.exists_cons_of_ne_nil hgap
  simp only [List.cons_append, List.cons.injEq] at hcut
  obtain ⟨rfl, hcut⟩ := hcut
  rw [List.cons_prefix_cons]
  refine ⟨rfl, ?_⟩
  rcases List.append_eq_append_iff.1 hcut with ⟨more, rfl, hmore⟩ | ⟨more, rfl, -⟩
  · cases more with
    | nil => simp
    | cons d more =>
      obtain ⟨rfl, -⟩ := List.cons.inj hmore
      exact absurd (by simp) hc
  · exact List.prefix_append _ _

/-- Of the occurrences of a word one is the last. -/
lemma exists_last_infix {word s : List Char} (hword : word ≠ []) (h : word <:+: s) :
    ∃ a b, s = a ++ (word ++ b) ∧ ¬ word <:+: b := by
  induction s with
  | nil => exact absurd (List.infix_nil.1 h) hword
  | cons c s ih =>
    by_cases hlater : word <:+: s
    · obtain ⟨a, b, rfl, hlast⟩ := ih hlater
      exact ⟨c :: a, b, rfl, hlast⟩
    · obtain ⟨b, hb⟩ := (List.infix_cons_iff.1 h).resolve_right hlater
      refine ⟨[], b, hb.symm, fun hagain => hlater (hagain.trans ?_)⟩
      obtain ⟨d, word, rfl⟩ := List.exists_cons_of_ne_nil hword
      exact ⟨word, [], by simpa using (List.cons.inj hb).2⟩

/-- What holds no newline does not reach beyond the line. -/
lemma prefix_line_iff {word line after : List Char} (hn : '\n' ∉ word) :
    word <+: line ++ '\n' :: after ↔ word <+: line := by
  constructor
  · intro h
    rcases List.prefix_or_prefix_of_prefix h (List.prefix_append line _) with h' | ⟨more, rfl⟩
    · exact h'
    · rw [List.prefix_append_right_inj] at h
      cases more with
      | nil => simp
      | cons d more =>
        obtain ⟨rfl, -⟩ := List.cons_prefix_cons.1 h
        exact absurd (by simp) hn
  · exact fun h => h.trans (List.prefix_append _ _)

/-! ## The header and what follows it -/

lemma Form.cut_of_fits_generic {s inside raw : List Char} (h : Form.generic.Fits s inside raw) :
    ∃ ended, s = "panic(".toList ++ (inside ++ ("): ".toList ++ ended)) ∧ '\n' ∉ inside := by
  cases h with
  | @generic _ _ ended hinside _ => exact ⟨ended, by simp only [List.append_assoc], hinside⟩

/-- Behind the last place where the header may close stands the whole message, or what follows a
closing bracket, a colon and a space in it. -/
lemma kept_cases {message lost kept : List Char}
    (hcut : "): ".toList ++ message = lost ++ ("): ".toList ++ kept)) :
    kept = message ∨ ∃ skipped, message = skipped ++ ("): ".toList ++ kept) := by
  by_cases hlost : lost = []
  · subst hlost
    exact .inl (List.append_cancel_left hcut).symm
  · obtain ⟨skipped, rfl⟩ := startsOnce_close.prefix_of_append_eq hlost hcut.symm
    rw [List.append_assoc, List.append_cancel_left_eq] at hcut
    exact .inr ⟨skipped, hcut⟩

/-- A text with a panic header and a line that ends after it, the first such header of the text; the
crash of a thread is not reported in it. -/
structure HasHeader (s before inside message after : List Char) : Prop where
  cut : s = before ++ ("panic(".toList ++ (inside ++ ("): ".toList ++ (message ++ '\n' :: after))))
  first : ¬ "panic(".toList <:+: before
  inside_onLine : '\n' ∉ inside
  message_onLine : '\r' ∉ message ∧ '\n' ∉ message
  /-- Nor is a line break written in the message as a backslash and an `n`. -/
  message_unbroken : ¬ ['\\', 'n'] <:+: message
  no_thread : ∀ before inside raw, ¬ Form.thread.Found s before inside raw

namespace HasHeader

variable {s before inside message after lost kept : List Char}

/-- Neither part of the message ends the line. -/
lemma parts_onLine (h : HasHeader s before inside message after)
    (hcut : "): ".toList ++ message = lost ++ ("): ".toList ++ kept)) :
    '\n' ∉ lost ∧ '\r' ∉ kept ∧ '\n' ∉ kept := by
  have hparts : ∀ c, c ∉ "): ".toList ++ message → c ∉ lost ∧ c ∉ kept := by
    intro c hc
    rw [hcut] at hc
    simp only [List.mem_append, not_or] at hc
    exact ⟨hc.1, hc.2.2⟩
  have hr := hparts '\r' (by simp [h.message_onLine.1])
  have hn := hparts '\n' (by simp [h.message_onLine.2])
  exact ⟨hn.1, hr.2, hn.2⟩

/-- The header may close wherever a closing bracket, a colon and a space stand on the line. -/
lemma cut_at (h : HasHeader s before inside message after)
    (hcut : "): ".toList ++ message = lost ++ ("): ".toList ++ kept)) :
    s = before ++ ("panic(".toList ++ (inside ++ (lost ++
      ("): ".toList ++ (kept ++ '\n' :: after))))) := by
  have hmore := congrArg (· ++ '\n' :: after) hcut
  simp only [List.append_assoc] at hmore
  rw [h.cut, hmore]

lemma first_le (h : HasHeader s before inside message after) {before' inside' raw' : List Char}
    (hfound : Form.generic.Found s before' inside' raw') : before.length ≤ before'.length := by
  obtain ⟨rest', hcut', hfits⟩ := hfound
  obtain ⟨t, -, rfl, -⟩ := Form.fits_generic_iff.1 hfits
  by_contra hlt
  obtain ⟨gap, hgap, rfl, hcut⟩ := exists_gap (hcut'.symm.trans h.cut) (Nat.lt_of_not_le hlt)
  exact h.first ((startsOnce_open.prefix_of_append_eq hgap hcut.symm).isInfix.trans
    (List.suffix_append before' gap).isInfix)

lemma longest_le (h : HasHeader s before inside message after)
    (hcut : "): ".toList ++ message = lost ++ ("): ".toList ++ kept))
    (hlast : ¬ "): ".toList <:+: kept) {inside' raw' : List Char}
    (hfound : Form.generic.Found s before inside' raw') :
    inside'.length ≤ (inside ++ lost).length := by
  obtain ⟨rest', hcut', hfits⟩ := hfound
  obtain ⟨ended, rfl, hinside'⟩ := Form.cut_of_fits_generic hfits
  rw [h.cut_at hcut, List.append_cancel_left_eq, List.append_cancel_left_eq,
    ← List.append_assoc inside] at hcut'
  by_contra hlt
  obtain ⟨gap, hgap, rfl, hgap'⟩ := exists_gap hcut' (Nat.lt_of_not_le hlt)
  obtain ⟨gap, rfl⟩ := startsOnce_close.prefix_of_append_eq hgap hgap'.symm
  rw [List.append_assoc, List.append_cancel_left_eq] at hgap'
  -- A header that closes later closes within the message, behind what was to be the last place.
  have hn : '\n' ∉ gap ++ "): ".toList := by simp_all
  have hclose : gap ++ "): ".toList <+: kept :=
    (prefix_line_iff hn).1 ⟨ended, by rw [hgap', List.append_assoc]⟩
  exact hlast ((List.suffix_append gap _).isInfix.trans hclose.isInfix)

lemma picks (h : HasHeader s before inside message after)
    (hcut : "): ".toList ++ message = lost ++ ("): ".toList ++ kept))
    (hlast : ¬ "): ".toList <:+: kept) : Form.generic.Picks s before (inside ++ lost) kept := by
  obtain ⟨hlost, hr, hn⟩ := h.parts_onLine hcut
  have hinside : '\n' ∉ inside ++ lost := by
    rw [List.mem_append, not_or]
    exact ⟨h.inside_onLine, hlost⟩
  have hfits := Form.Fits.generic hinside ⟨'\n', after, rfl, hr, hn, .inr rfl⟩
  simp only [List.append_assoc] at hfits
  exact ⟨⟨_, h.cut_at hcut, hfits⟩, fun _ _ _ => h.first_le, fun _ _ => h.longest_le hcut hlast⟩

end HasHeader

lemma firstLine_eq_self {line : List Char} (hn : '\n' ∉ line) (hbreak : ¬ ['\\', 'n'] <:+: line) :
    firstLine line = line := by
  refine firstLine_eq_iff.2 ⟨[], (List.append_nil _).symm, .inl rfl, ?_⟩
  rintro before after rfl - (h | h)
  · exact hn (List.mem_append_right _ (h.subset (List.mem_singleton_self _)))
  · exact hbreak (h.isInfix.trans (List.suffix_append before after).isInfix)

end CrashSignature

open CrashSignature

/-- **The message behind a header** is what follows the last closing bracket, colon and space of
the header and the message, so it is the whole message exactly if these do not occur in it. -/
theorem message_of_header {stderr : String} {before inside message after : List Char}
    (h : HasHeader stderr.toList before inside message after) :
    ∃ kept, crashMessage? stderr = some (String.ofList (lower kept)) ∧
      (kept = message ∨ ∃ skipped, message = skipped ++ ("): ".toList ++ kept)) ∧
      ¬ "): ".toList <:+: kept ∧
      (crashMessage? stderr = some (String.ofList (lower message)) ↔
        ¬ "): ".toList <:+: message) := by
  obtain ⟨lost, kept, hcut, hlast⟩ :=
    exists_last_infix (by decide) (List.prefix_append "): ".toList message).isInfix
  have hkept := kept_cases hcut
  have hwithin : kept <:+: message := by
    rcases hkept with rfl | ⟨skipped, rfl⟩
    · exact List.infix_rfl
    · exact ⟨skipped ++ "): ".toList, [], by simp⟩
  have hraw : raw? stderr.toList = some kept :=
    raw?_eq_some_iff.2 ⟨[.thread], .generic, _, rfl, ⟨before, _, h.picks hcut hlast⟩,
      by simpa using h.no_thread⟩
  have hline : firstLine kept = kept :=
    firstLine_eq_self (h.parts_onLine hcut).2.2 fun hbreak =>
      h.message_unbroken (hbreak.trans hwithin)
  have hmessage : crashMessage? stderr = some (String.ofList (lower kept)) := by
    rw [crashMessage?, hraw, Option.map_some, hline]
  refine ⟨kept, hmessage, hkept, hlast, ?_⟩
  rw [hmessage, Option.some.injEq, String.ofList_inj]
  rcases hkept with rfl | ⟨skipped, rfl⟩
  · simp only [hlast, not_false_eq_true]
  · have hlonger : lower kept ≠ lower (skipped ++ ("): ".toList ++ kept)) := by
      intro heq
      have hlength := congrArg List.length heq
      simp only [lower, length_lowerFrom, List.length_append, List.count_append] at hlength
      have hclose : "): ".toList.length = 3 := rfl
      omega
    exact ⟨fun heq => absurd heq hlonger, fun hnot => absurd ⟨skipped, kept, by simp⟩ hnot⟩

/-- A message that tells where it comes from loses that part. -/
theorem origin_lost_behind_header :
    HasHeader "panic(main): open(log): Denied\n".toList [] "main".toList
        "open(log): Denied".toList [] ∧
      crashMessage? "panic(main): open(log): Denied\n" = some "denied" ∧
      crashMessage? "panic(main): open(log): Denied\n" ≠ some "open(log): denied" := by
  have hheader : HasHeader "panic(main): open(log): Denied\n".toList [] "main".toList
      "open(log): Denied".toList [] := by
    refine ⟨rfl, by decide, by decide, by decide, by decide, ?_⟩
    exact Form.firstMatch_reader_eq_none_iff.1 (by decide +kernel)
  obtain ⟨-, -, -, -, hwhole⟩ := message_of_header hheader
  have hlower : "open(log): denied" = String.ofList (lower "open(log): Denied".toList) := by
    decide +kernel
  refine ⟨hheader, by decide +kernel, fun hmessage => ?_⟩
  exact hwhole.1 (hlower ▸ hmessage) ⟨"open(log".toList, "Denied".toList, rfl⟩

end Watchdog
