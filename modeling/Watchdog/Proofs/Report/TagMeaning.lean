import Std.Data.String.ToInt
import Watchdog.Proofs.Report.Summary
import Watchdog.Proofs.Report.Tag

/-!
# What a tag means

Whoever reads a report has the tag only: a word or two that stand for one of the kinds of failure
and for the value that it carries.  A crash is told in the words of the program that crashed, which
may say anything.  All other tags are made here, by code that has nothing in common: three fixed
words, a table of signals and one of fatal exceptions, each with a number for what it does not know,
and a count with a word behind it.  Still no two of them are alike.  The first character tells the
kind (`Worded.initial`), and within a kind the value is told apart by its word or its digits
(`Signal.name_inj`, `Platform.exitText_inj`).

So the tag of any failure but a crash can be read back, by whoever knows neither the command nor the
platform that it ran on (`meaning_of_tag`).
-/

namespace Watchdog

/-! ## Numbers are no names -/

/-- A number with a sign is written in digits, perhaps behind a minus sign. -/
lemma isDigit_or_minus_of_mem_toString {n : Int} {c : Char} (hc : c ∈ (toString n).toList) :
    c.isDigit = true ∨ c = '-' := by
  cases n with
  | ofNat m => exact .inl (isDigit_of_mem_toString hc)
  | negSucc m =>
    have hminus : (toString (Int.negSucc m)).toList = '-' :: (toString (m + 1)).toList :=
      String.toList_append
    rw [hminus, List.mem_cons] at hc
    exact hc.symm.imp_left isDigit_of_mem_toString

/-- The text has a character that no number has. -/
def hasLetter (text : String) : Bool := text.toList.any fun c => !c.isDigit && c != '-'

lemma ne_toString_of_hasLetter {text : String} (h : hasLetter text = true) (n : Int) :
    text ≠ toString n := by
  rintro rfl
  obtain ⟨c, hc, hletter⟩ := List.any_eq_true.mp h
  obtain hdigit | rfl := isDigit_or_minus_of_mem_toString hc
  · simp [hdigit] at hletter
  · simp at hletter

/-! ## Signals -/

namespace Signal

/-- Every known name is `SIG` and a word. -/
lemma eq_sig_of_mem_table {row : Int × String} (hrow : row ∈ table) :
    ∃ word, hasLetter word = true ∧ row.2 = "SIG" ++ word := by
  have htable : ∀ row ∈ table, hasLetter (String.ofList (row.2.toList.drop 3)) = true ∧
      row.2 = "SIG" ++ String.ofList (row.2.toList.drop 3) := by decide +kernel
  exact ⟨_, htable row hrow⟩

lemma eq_of_mem_table {row row' : Int × String} (hrow : row ∈ table) (hrow' : row' ∈ table)
    (h : row.2 = row'.2) : row = row' := by
  have hnames : (table.map Prod.snd).Nodup := by decide
  exact List.inj_on_of_nodup_map hnames hrow hrow' h

/-- A signal has a name in the table, or it is called by its number. -/
lemma name_cases (number : Int) :
    (∃ row ∈ table, row.1 = number ∧ name number = row.2) ∨
      name number = "SIG" ++ toString number := by
  unfold name
  cases hfind : table.find? (·.1 == number) with
  | some row =>
    have hnumber : row.1 = number := by simpa using List.find?_some hfind
    exact .inl ⟨row, List.mem_of_find?_eq_some hfind, hnumber, rfl⟩
  | none => exact .inr rfl

lemma name_eq_sig (number : Int) : ∃ rest, name number = "SIG" ++ rest := by
  obtain ⟨row, hrow, -, hname⟩ | hname := name_cases number
  · obtain ⟨word, -, hword⟩ := eq_sig_of_mem_table hrow
    exact ⟨word, hname.trans hword⟩
  · exact ⟨_, hname⟩

/-- Two signals never share a name. -/
lemma name_inj {m n : Int} : name m = name n ↔ m = n := by
  refine ⟨fun h => ?_, fun h => by rw [h]⟩
  obtain ⟨row, hrow, hm, hname⟩ | hname := name_cases m <;>
    obtain ⟨row', hrow', hn, hname'⟩ | hname' := name_cases n <;>
    rw [hname, hname'] at h
  · rw [← hm, ← hn, eq_of_mem_table hrow hrow' h]
  · obtain ⟨word, hword, heq⟩ := eq_sig_of_mem_table hrow
    rw [heq, String.append_right_inj] at h
    exact absurd h (ne_toString_of_hasLetter hword n)
  · obtain ⟨word, hword, heq⟩ := eq_sig_of_mem_table hrow'
    rw [heq, String.append_right_inj] at h
    exact absurd h.symm (ne_toString_of_hasLetter hword m)
  · rw [String.append_right_inj] at h
    exact Int.repr_inj.mp h

end Signal

/-- A status tells of a signal by its low seven bits. -/
lemma WaitStatus.signal?_eq_some_iff {status : WaitStatus} {name : String} :
    status.signal? = some name ↔
      ¬ (status.signalBits = 0 ∨ status.signalBits = 0x7F) ∧
        Signal.name status.signalBits = name := by
  simp [signal?]

/-! ## Exit codes -/

namespace Platform

lemma hasLetter_of_mem_exceptions {row : Nat × String} (hrow : row ∈ exceptions) :
    hasLetter row.2 = true := by
  have hreasons : ∀ row ∈ exceptions, hasLetter row.2 = true := by decide +kernel
  exact hreasons row hrow

lemma eq_of_mem_exceptions {row row' : Nat × String} (hrow : row ∈ exceptions)
    (hrow' : row' ∈ exceptions) (h : row.2 = row'.2) : row = row' := by
  have hreasons : (exceptions.map Prod.snd).Nodup := by decide
  exact List.inj_on_of_nodup_map hreasons hrow hrow' h

/-- Two exit codes are never told alike, on whatever platforms they were seen. -/
lemma exitText_inj {p q : Platform} {c d : Int32} (h : p.exitText c = q.exitText d) : c = d := by
  unfold exitText at h
  cases hp : p.exitReason? c with
  | some reason =>
    have hreason := mem_exceptions_of_exitReason? hp
    cases hq : q.exitReason? d with
    | some reason' =>
      rw [hp, hq, Option.getD_some, Option.getD_some] at h
      have hrows := eq_of_mem_exceptions hreason (mem_exceptions_of_exitReason? hq) h
      have hword : c.toUInt32 = d.toUInt32 := UInt32.toNat_inj.mp (congrArg Prod.fst hrows)
      exact congrArg Int32.ofUInt32 hword
    | none =>
      rw [hp, hq, Option.getD_some, Option.getD_none] at h
      exact absurd h (ne_toString_of_hasLetter (hasLetter_of_mem_exceptions hreason) _)
  | none =>
    cases hq : q.exitReason? d with
    | some reason' =>
      rw [hp, hq, Option.getD_none, Option.getD_some] at h
      have hreason := mem_exceptions_of_exitReason? hq
      exact absurd h.symm (ne_toString_of_hasLetter (hasLetter_of_mem_exceptions hreason) _)
    | none =>
      rw [hp, hq, Option.getD_none, Option.getD_none] at h
      exact Int32.toInt_inj.mp (Int.repr_inj.mp h)

end Platform

/-! ## Failures -/

/-- A failure that is told in the words of this library. -/
inductive Worded : Failure → Prop
  | timeout : Worded .timeout
  | launch : Worded .launch
  | signal (number : Int) : Worded (.signal (Signal.name number))
  | failing (count : UInt64) : Worded (.failing count)
  | code (code : Int32) (platform : Platform) : Worded (.code (platform.exitText code))

/-- The character that tags of this kind begin with; a zero stands for any digit. -/
def Failure.initial : Failure → Char
  | timeout => 't'
  | launch => 's'
  | crash _ => ' '
  | signal _ => 'S'
  | failing _ => '0'
  | code _ => 'c'

lemma Worded.initial {f : Failure} (h : Worded f) :
    (f.tag.toList.head?.map fun c => if c.isDigit then '0' else c) = some f.initial := by
  cases h with
  | timeout => decide
  | launch => decide
  | signal number =>
    obtain ⟨rest, hname⟩ := Signal.name_eq_sig number
    simp [Failure.tag, hname, Failure.initial]
  | failing count =>
    have hsome : (toString count.toNat).toList ≠ [] :=
      mt String.toList_eq_nil_iff.mp Nat.repr_ne_empty
    obtain ⟨c, cs, hcs⟩ := List.exists_cons_of_ne_nil hsome
    have hdigit : c.isDigit = true := isDigit_of_mem_toString (hcs ▸ List.mem_cons_self)
    rw [Failure.tag, String.toList_append, hcs, List.cons_append, List.head?_cons, Option.map_some,
      if_pos hdigit]
    rfl
  | code code platform =>
    simp [Failure.tag, Failure.initial]

lemma Worded.tag_inj {f g : Failure} (hf : Worded f) (hg : Worded g) (h : f.tag = g.tag) :
    f = g := by
  have hinitial : f.initial = g.initial := by
    have hsame := hf.initial
    rw [h, hg.initial] at hsame
    exact (Option.some.inj hsame).symm
  cases hf with
  | timeout => cases hg with
    | timeout => rfl
    | _ => exact absurd hinitial (by simp [Failure.initial])
  | launch => cases hg with
    | launch => rfl
    | _ => exact absurd hinitial (by simp [Failure.initial])
  | signal => cases hg with
    | signal => exact congrArg Failure.signal h
    | _ => exact absurd hinitial (by simp [Failure.initial])
  | failing => cases hg with
    | failing =>
      have hcount := Nat.repr_inj.mp ((String.append_left_inj _).mp h)
      exact congrArg Failure.failing (UInt64.toNat_inj.mp hcount)
    | _ => exact absurd hinitial (by simp [Failure.initial])
  | code => cases hg with
    | code => exact congrArg Failure.code ((String.append_right_inj _).mp h)
    | _ => exact absurd hinitial (by simp [Failure.initial])

/-! ## Verdicts -/

namespace TerminalState

variable {state : TerminalState} {platform : Platform} {f : Failure}

/-- The command failed of this, and it is no crash. -/
def FailsOf (state : TerminalState) (platform : Platform) (f : Failure) : Prop :=
  (state.verdict platform).failure? = some f ∧ ∀ message, f ≠ .crash message

/-- A signal that is named comes from the status of a process. -/
def Signalled (state : TerminalState) : Prop :=
  ∀ name, state.signal = some name → ∃ status : WaitStatus, status.parts.signal = some name

lemma FailsOf.worded (h : state.FailsOf platform f) (hsignal : state.Signalled) : Worded f := by
  obtain ⟨hfailure, hcrash⟩ := h
  cases cause_of_failure hfailure with
  | timeout => exact .timeout
  | launch => exact .launch
  | crash => exact absurd rfl (hcrash _)
  | signal hname =>
    obtain ⟨status, hstatus⟩ := hsignal _ hname
    obtain ⟨-, rfl⟩ := WaitStatus.signal?_eq_some_iff.mp hstatus
    exact .signal status.signalBits
  | failing => exact .failing _
  | code => exact .code _ platform

/-- What is told of an exit code comes from the exit code. -/
lemma exitCode_of_failure? {text : String}
    (h : (state.verdict platform).failure? = some (.code text)) :
    ∃ code, state.exitCode = some code ∧ text = platform.exitText code := by
  cases cause_of_failure h with
  | code hcode => exact ⟨_, hcode, rfl⟩

end TerminalState

lemma Report.field?_error {state : TerminalState} {platform : Platform} {f : Failure}
    (h : (state.verdict platform).failure? = some f) (stdout : String) (timestamp : UInt64) :
    (ofState state stdout timestamp platform).toJson.field? "error" = some (.str f.tag) := by
  rw [(field?_toJson _).2.1]
  show (state.verdict platform).failure?.map Failure.toJson = _
  rw [h]
  rfl

/-! ## What is promised -/

open CommandLine (OutputFormat)

/-- What the tags of two commands tell whoever compares them. -/
structure Meaning (s t : TerminalState) (p q : Platform) : Prop where
  /-- Failures with the same tag are the same. -/
  failure : ∀ f g, s.FailsOf p f → t.FailsOf q g → f.tag = g.tag → f = g
  /-- It is enough to read what is printed. -/
  json : ∀ f g, s.FailsOf p f → t.FailsOf q g → ∀ stdout stdout' timestamp timestamp' v w,
    Json.read (OutputFormat.json.render (.ofState s stdout timestamp p)) = some v →
    Json.read (OutputFormat.json.render (.ofState t stdout' timestamp' q)) = some w →
    v.field? "error" = w.field? "error" → f = g
  /-- Commands ended by signals of the same name were ended by the same signal, -/
  signal : ∀ name, s.FailsOf p (.signal name) → t.FailsOf q (.signal name) →
    ∀ a b : WaitStatus, a.parts.signal = s.signal → b.parts.signal = t.signal →
      a.signalBits = b.signalBits
  /-- and commands with the same word for their exit code had the same one. -/
  exitCode : ∀ text, s.FailsOf p (.code text) → t.FailsOf q (.code text) →
    ∃ code, s.exitCode = some code ∧ t.exitCode = some code
  /-- None of the words that there are is used twice, whether or not a command can have it. -/
  words : ∀ f g, Worded f → Worded g → f.tag = g.tag → f = g
  names : ∀ m n, Signal.name m = Signal.name n → m = n
  codes : ∀ c d, p.exitText c = q.exitText d → c = d

/-- **The tag of a failure tells the failure,** unless it is a crash. -/
theorem meaning_of_tag {s t : TerminalState} (hs : s.Signalled) (ht : t.Signalled)
    (p q : Platform) : Meaning s t p q := by
  have hfailure : ∀ f g, s.FailsOf p f → t.FailsOf q g → f.tag = g.tag → f = g :=
    fun f g hf hg => (hf.worded hs).tag_inj (hg.worded ht)
  constructor
  case failure => exact hfailure
  case json =>
    intro f g hf hg stdout stdout' timestamp timestamp' v w hv hw herror
    rw [Report.read_render] at hv hw
    obtain rfl := Option.some.inj hv
    obtain rfl := Option.some.inj hw
    rw [Report.field?_error hf.1, Report.field?_error hg.1] at herror
    exact hfailure f g hf hg (Json.str.inj (Option.some.inj herror))
  case signal =>
    intro name hf hg a b ha hb
    rw [TerminalState.signal_eq_of_failure? hf.1] at ha
    rw [TerminalState.signal_eq_of_failure? hg.1] at hb
    obtain ⟨-, hname⟩ := WaitStatus.signal?_eq_some_iff.mp ha
    obtain ⟨-, hname'⟩ := WaitStatus.signal?_eq_some_iff.mp hb
    exact Int.ofNat_inj.mp (Signal.name_inj.mp (hname.trans hname'.symm))
  case exitCode =>
    intro text hf hg
    obtain ⟨c, hc, rfl⟩ := TerminalState.exitCode_of_failure? hf.1
    obtain ⟨d, hd, htext⟩ := TerminalState.exitCode_of_failure? hg.1
    obtain rfl := Platform.exitText_inj htext
    exact ⟨c, hc, hd⟩
  case words => exact fun f g hf hg => hf.tag_inj hg
  case names => exact fun m n => Signal.name_inj.mp
  case codes => exact fun c d => Platform.exitText_inj

/-- A signal without a name of its own is known again by its number, although one of the two
processes left a core file behind, which changes its status. -/
theorem meaning_of_unnamedSignal :
    let a : WaitStatus := ⟨0x28⟩
    let b : WaitStatus := ⟨0xA8⟩
    let s : TerminalState := ⟨none, a.parts.signal, none, "", some (.ofMillis 40), .ofSeconds 12⟩
    let t : TerminalState := ⟨none, b.parts.signal, none, "no panic\n", none, .ofSeconds 1⟩
    a ≠ b ∧ s.Signalled ∧ t.Signalled ∧ s.FailsOf .current (.signal "SIG40") ∧
      t.FailsOf ⟨true⟩ (.signal "SIG40") ∧ a.signalBits = b.signalBits ∧
      ∀ f g, s.FailsOf .current f → t.FailsOf ⟨true⟩ g → f.tag = g.tag → f = g := by
  intro a b s t
  have hs : s.Signalled := fun name hname => ⟨a, hname⟩
  have ht : t.Signalled := fun name hname => ⟨b, hname⟩
  have hfailed : s.FailsOf .current (.signal "SIG40") :=
    ⟨by decide +kernel, fun message => Failure.noConfusion⟩
  have hfailed' : t.FailsOf ⟨true⟩ (.signal "SIG40") :=
    ⟨by decide +kernel, fun message => Failure.noConfusion⟩
  have hmeaning := meaning_of_tag hs ht .current ⟨true⟩
  exact ⟨by decide, hs, ht, hfailed, hfailed',
    hmeaning.signal _ hfailed hfailed' a b rfl rfl, hmeaning.failure⟩

end Watchdog
