import Watchdog.Text.Lowercase.Table

/-!
# Lower-casing

Full lower-casing, independent of language.  Each character is mapped on its own with two
exceptions: the dotted capital I gives two characters, and a capital sigma at the end of a word
gives the final form.  A word ends where, marks and word-internal punctuation skipped, a letter
stands before the sigma and none stands after it.
-/

namespace Watchdog.Text

/-- The run covers the code point. -/
def CaseRun.covers (run : CaseRun) (n : Nat) : Bool :=
  run.first ≤ n && n ≤ run.last && (n - run.first) % run.step == 0

/-- The small letter of a capital; any other character stays. -/
def lowerSimple (c : Char) : Char :=
  match caseRuns.find? (·.covers c.toNat) with
  | some run => Char.ofNat (run.target + (c.toNat - run.first))
  | none => c

/-- A letter is next, once what belongs to the word without being a letter is skipped. -/
def casedNext (s : List Char) : Bool :=
  match s.dropWhile (inRanges caseIgnorableRanges) with
  | [] => false
  | c :: _ => inRanges casedRanges c

/-- The small letters of one character, given the text before it, nearest first, and after it. -/
def lowerAt (before : List Char) (c : Char) (after : List Char) : List Char :=
  if c = 'Σ' then
    if casedNext before && !casedNext after then ['ς'] else ['σ']
  else if c = 'İ' then ['i', '\u0307']
  else [lowerSimple c]

/-- Lower-cases a text that continues `before`. -/
def lowerFrom (before : List Char) : List Char → List Char
  | [] => []
  | c :: rest => lowerAt before c rest ++ lowerFrom (c :: before) rest

/-- The text in lower case. -/
def lower (s : List Char) : List Char := lowerFrom [] s

end Watchdog.Text
