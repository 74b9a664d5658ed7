import Mathlib.Data.List.Induction
import Watchdog.CommandLine.Invocation
import Watchdog.Proofs.CommandLine.EnvFlags
import Watchdog.Proofs.CommandLine.Spelling

/-!
# The words behind two hyphens

What stands behind the first `--` belongs to the command, whatever it looks like: the command word
comes first and its own words follow as they are (`handover_of_dashes`).  The flags stand before it.
Which words can stand there is said in two ways that are proved to agree (`lacksCommand_iff`): alone
they lack nothing but a command, and they are flags, written in one of the ways there are, whose
values say something.  What they say is read off flag by flag (`Says`); the order in which they are
taken in does not show in it.
-/

namespace Watchdog.CommandLine

variable {withOutput : Bool} {flag other : RunFlag} {value : Option String} {text : String}
  {values front : List String} {w w' : RunWords} {flags : List (RunFlag × Option String)}

namespace RunWords

/-! ## What flags say -/

/-- What is known of a flag is what its values say.  Where a flag may stand once, so does its
value. -/
def Holds (w : RunWords) (values : List String) : RunFlag → Prop
  | .timeout => values.map (Numeral.readUInt64 ·.toList) = w.timeoutMs.toList.map .ok
  | .maxRetries => values.map readRetries = w.maxRetries.toList.map .ok
  | .cwd => values = w.cwd.toList ∧ "" ∉ values
  | .env => values.map readEnvPair = w.env.map .ok
  | .unset => values = w.unset
  | .stream => values.length = w.stream.toNat
  | .output => values.map OutputFormat.read = w.output.toList.map .ok
  | .help => values = []

/-- All that is known is what the flags say. -/
structure Says (flags : List (RunFlag × Option String)) (w : RunWords) : Prop where
  holds : ∀ flag, w.Holds (valuesOf flag flags) flag
  command : w.command = .none
  args : w.args = []

lemma Holds.of_takes (h : w.Holds values flag) (htakes : Takes w text flag w') :
    w'.Holds (values ++ [text]) flag := by
  cases htakes with
  | timeout hfirst hread | maxRetries hfirst hread | output hfirst hread =>
    simp only [Holds, hfirst, Option.toList_none, List.map_nil, List.map_eq_nil_iff] at h
    simp [Holds, h, hread]
  | cwd hfirst hsome =>
    simp only [Holds, hfirst, Option.toList_none] at h
    simp [Holds, h.1, hsome.symm]
  | env hread =>
    simp only [Holds] at h
    simp [Holds, h, hread]
  | unset => exact congrArg (· ++ [text]) h
  | stream hfirst =>
    simp only [Holds, hfirst, Bool.toNat_false, List.length_eq_zero_iff] at h
    simp [Holds, h]

/-- A flag says nothing about the others. -/
lemma Takes.holds_iff (h : Takes w text flag w') (hne : other ≠ flag) :
    w'.Holds values other ↔ w.Holds values other := by
  cases h <;> cases other <;> first | exact absurd rfl hne | exact Iff.rfl

lemma concat_eq_map_toList {α β : Type} {l : List β} {x : β} {o : Option α} {f : α → β} :
    l ++ [x] = o.toList.map f ↔ l = [] ∧ ∃ a, o = some a ∧ x = f a := by
  cases o with
  | none => simp
  | some a => simp [List.append_eq_singleton_iff]

/-- What the last word of a flag says was added by that word. -/
lemma Holds.exists_takes (h : w.Holds (values ++ [text]) flag) :
    ∃ between, Takes between text flag w ∧ between.Holds values flag := by
  -- What was known before is what is known now without that word.
  cases flag with
  | timeout =>
    simp only [Holds, List.map_append, List.map_singleton, concat_eq_map_toList] at h
    obtain ⟨hvalues, n, hn, hread⟩ := h
    have htakes : Takes { w with timeoutMs := .none } text .timeout { w with timeoutMs := some n } :=
      .timeout rfl hread
    rw [← hn] at htakes
    exact ⟨_, htakes, hvalues⟩
  | maxRetries =>
    simp only [Holds, List.map_append, List.map_singleton, concat_eq_map_toList] at h
    obtain ⟨hvalues, n, hn, hread⟩ := h
    have htakes :
        Takes { w with maxRetries := .none } text .maxRetries { w with maxRetries := some n } :=
      .maxRetries rfl hread
    rw [← hn] at htakes
    exact ⟨_, htakes, hvalues⟩
  | cwd =>
    obtain ⟨hvalues, hsome⟩ := h
    rw [← List.map_id w.cwd.toList, concat_eq_map_toList] at hvalues
    obtain ⟨rfl, dir, hdir, htext⟩ := hvalues
    obtain rfl : text = dir := htext
    have htakes : Takes { w with cwd := .none } text .cwd { w with cwd := some text } :=
      .cwd rfl (by simpa using Ne.symm (List.ne_of_not_mem_cons hsome))
    rw [← hdir] at htakes
    exact ⟨_, htakes, rfl, List.not_mem_nil⟩
  | env =>
    simp only [Holds, List.map_append, List.map_singleton] at h
    obtain ⟨pairs, last, henv, hpairs, hlast⟩ := List.map_eq_append_iff.mp h.symm
    obtain ⟨pair, rfl, hread⟩ := List.map_eq_singleton_iff.mp hlast
    have htakes : Takes { w with env := pairs } text .env { w with env := pairs ++ [pair] } :=
      .env hread.symm
    rw [← henv] at htakes
    exact ⟨_, htakes, hpairs.symm⟩
  | unset =>
    have htakes : Takes { w with unset := values } text .unset { w with unset := values ++ [text] } :=
      .unset
    have hunset : values ++ [text] = w.unset := h
    rw [hunset] at htakes
    exact ⟨_, htakes, rfl⟩
  | stream =>
    cases hstream : w.stream with
    | false => simp [Holds, hstream] at h
    | true =>
      have htakes : Takes { w with stream := false } text .stream { w with stream := true } :=
        .stream rfl
      rw [← hstream] at htakes
      exact ⟨_, htakes, by simpa [Holds, hstream] using h⟩
  | output =>
    simp only [Holds, List.map_append, List.map_singleton, concat_eq_map_toList] at h
    obtain ⟨hvalues, format, hformat, hread⟩ := h
    have htakes : Takes { w with output := .none } text .output { w with output := some format } :=
      .output rfl hread
    rw [← hformat] at htakes
    exact ⟨_, htakes, hvalues⟩
  | help => simp [Holds] at h

lemma valuesOf_concat_self (flags : List (RunFlag × Option String)) (value : Option String) :
    valuesOf flag (flags ++ [(flag, value)]) = valuesOf flag flags ++ [value.getD ""] := by
  simp [valuesOf]

lemma valuesOf_concat_of_ne (hne : other ≠ flag) (flags : List (RunFlag × Option String))
    (value : Option String) : valuesOf other (flags ++ [(flag, value)]) = valuesOf other flags := by
  simp [valuesOf, hne.symm]

lemma says_nil_iff : Says [] w ↔ w = none := by
  constructor
  · rintro ⟨hholds, hcommand, hargs⟩
    replace hholds : ∀ flag, w.Holds [] flag := hholds
    have htimeout : w.timeoutMs = .none := by simpa using (hholds .timeout).symm
    have hretries : w.maxRetries = .none := by simpa using (hholds .maxRetries).symm
    have hcwd : w.cwd = .none := by simpa using (hholds .cwd).1.symm
    have henv : w.env = [] := by simpa using (hholds .env).symm
    have hunset : w.unset = [] := (hholds .unset).symm
    have hstream : w.stream = false := by simpa using (hholds .stream).symm
    have houtput : w.output = .none := by simpa using (hholds .output).symm
    cases w
    rw [none, mk.injEq]
    exact ⟨htimeout, hretries, hcwd, henv, hunset, hstream, houtput, hcommand, hargs⟩
  · rintro rfl
    refine ⟨fun flag => ?_, rfl, rfl⟩
    cases flag <;> simp [Holds, valuesOf, none]

lemma says_concat_iff :
    Says (flags ++ [(flag, value)]) w ↔
      ∃ between, Says flags between ∧ Takes between (value.getD "") flag w := by
  constructor
  · rintro ⟨hholds, hcommand, hargs⟩
    have hlast := hholds flag
    rw [valuesOf_concat_self] at hlast
    obtain ⟨between, htakes, hbefore⟩ := hlast.exists_takes
    refine ⟨between, ⟨fun other => ?_, ?_, ?_⟩, htakes⟩
    · by_cases hne : other = flag
      · rwa [hne]
      · rw [← htakes.holds_iff hne, ← valuesOf_concat_of_ne hne flags value]
        exact hholds other
    · rw [← htakes.frame.1, hcommand]
    · rw [← htakes.frame.2, hargs]
  · rintro ⟨between, ⟨hholds, hcommand, hargs⟩, htakes⟩
    refine ⟨fun other => ?_, htakes.frame.1.trans hcommand, htakes.frame.2.trans hargs⟩
    by_cases hne : other = flag
    · rw [hne, valuesOf_concat_self]
      exact (hholds flag).of_takes htakes
    · rw [valuesOf_concat_of_ne hne, htakes.holds_iff hne]
      exact hholds other

/-- Flags are taken in as what they say. -/
lemma acceptAll_eq_ok_iff :
    (grammar withOutput).acceptAll none flags = .ok w ↔ Says flags w := by
  induction flags using List.reverseRecOn generalizing w with
  | nil =>
    rw [says_nil_iff]
    exact ⟨fun h => (Except.ok.inj h).symm, fun h => h ▸ rfl⟩
  | append_singleton flags flag ih =>
    obtain ⟨flag, value⟩ := flag
    rw [says_concat_iff, Grammar.acceptAll_append]
    refine exists_congr fun between => and_congr ih ?_
    rw [acceptAll_cons_iff]
    constructor
    · rintro ⟨last, htakes, hlast⟩
      cases hlast
      exact htakes
    · exact fun htakes => ⟨w, htakes, rfl⟩

/-! ## Words that lack a command -/

lemma opens (withOutput : Bool) : (grammar withOutput).Opens := by
  intro w trailing word
  show (w.operand trailing word).1.command.isSome = true
  cases hcommand : w.command <;> simp [operand, hcommand]

/-- The only switch with a letter shows the help. -/
lemma unclustered (withOutput : Bool) : (grammar withOutput).Unclustered := by
  intro letter flag hletter htakes w
  have hshort : short? letter = some flag := (Option.filter_eq_some_iff.mp hletter).1
  obtain rfl : flag = .help := by
    cases flag with
    | help => rfl
    | stream =>
      unfold short? at hshort
      split at hshort <;> cases hshort
    | _ => cases htakes
  exact ⟨.displayHelp .run, rfl⟩

/-- A mistake, if there is one, is not that something is missing. -/
abbrev NoneMissing {α : Type} : Except Stop α → Prop :=
  Post (fun _ => True) (· ≠ .missingRequired)

lemma noneMissing_readAs {α : Type} (flag : RunFlag) (text : String) (e : Except String α) :
    NoneMissing (readAs flag text e) := by
  cases e with
  | error reason => exact nofun
  | ok a => trivial

lemma noneMissing_read (text : String) : NoneMissing (OutputFormat.read text) := by
  unfold OutputFormat.read
  repeat' split
  all_goals first | trivial | exact nofun

/-- Nothing is missing as long as words are read. -/
lemma keeps_noneMissing (withOutput : Bool) :
    Keeps (grammar withOutput) (fun _ => True) (· ≠ .missingRequired) where
  accept := by
    intro w flag value _
    show NoneMissing (w.accept flag value)
    unfold accept
    cases flag with
    | timeout | maxRetries =>
      refine iteInduction (fun _ => nofun) fun _ => ?_
      exact (noneMissing_readAs _ _ _).map fun _ _ => trivial
    | cwd =>
      refine iteInduction (fun _ => nofun) fun _ => ?_
      exact iteInduction (fun _ => nofun) fun _ => trivial
    | env => exact (noneMissing_readAs _ _ _).map fun _ _ => trivial
    | unset => trivial
    | stream => exact iteInduction (fun _ => nofun) fun _ => trivial
    | output =>
      refine iteInduction (fun _ => nofun) fun _ => ?_
      exact (noneMissing_read _).map fun _ _ => trivial
    | help => exact nofun
  operand := fun _ _ _ _ => trivial
  missingValue := fun _ => nofun
  unknownArgument := fun _ => nofun
  unexpectedValue := fun _ _ => nofun

end RunWords

open RunWords

/-- Read alone, the words lack a command and nothing else. -/
def LacksCommand (front : List String) : Prop :=
  "--" ∉ front ∧ RunArgs.parseWith true front = .error .missingRequired

/-- The words give these flags, each written in one of the ways there are. -/
def Gives (front : List String) (flags : List (RunFlag × Option String)) : Prop :=
  ∃ groups, front = List.flatten groups ∧
    List.Forall₂ (Written (grammar true) false) flags groups

lemma parseWith_eq_missing_iff :
    RunArgs.parseWith withOutput front = .error .missingRequired ↔
      ∃ s, (Scan.start RunWords.none).words (grammar withOutput) front = .ok s ∧
        s.state.command = .none := by
  have hkept : NoneMissing ((Scan.start RunWords.none).words (grammar withOutput) front) :=
    (keeps_noneMissing withOutput).words trivial front
  rw [RunArgs.parseWith]
  cases hread : (Scan.start RunWords.none).words (grammar withOutput) front with
  | error e =>
    rw [hread] at hkept
    have hne : e ≠ .missingRequired := hkept
    simpa [bind, Except.bind] using hne
  | ok s =>
    show (RunArgs.ofWords s.state >>= _) = _ ↔ _
    cases hcommand : s.state.command with
    | none => simp [RunArgs.ofWords, hcommand, bind, Except.bind]
    | some command => simp [RunArgs.ofWords, hcommand, bind, Except.bind, pure, Except.pure]

lemma lacksCommand_iff : LacksCommand front ↔ ∃ flags w, Gives front flags ∧ Says flags w := by
  constructor
  · rintro ⟨hdashes, hlacks⟩
    obtain ⟨s, hread, hcommand⟩ := parseWith_eq_missing_iff.mp hlacks
    obtain ⟨flags, groups, hfront, hwritten, haccept⟩ := Scan.spelled_of_words (steady true)
      (opens true) (unclustered true) hdashes hread (by simp [grammar, hcommand])
    exact ⟨flags, s.state, ⟨groups, hfront, hwritten⟩, acceptAll_eq_ok_iff.mp haccept⟩
  · rintro ⟨flags, w, ⟨groups, rfl, hwritten⟩, hsaid⟩
    obtain ⟨s, hs, hread⟩ := Scan.words_of_written (steady true) (.held RunWords.none) hwritten
      (acceptAll_eq_ok_iff.mpr hsaid) []
    rw [List.append_nil, Scan.words, hs.resolve] at hread
    exact ⟨Scan.notMem_flatten_of_written hwritten,
      parseWith_eq_missing_iff.mpr ⟨_, hread, hsaid.command⟩⟩

/-! ## Words for the command -/

/-- The request has these flags and hands these words on. -/
structure HandsOn (w : RunWords) (command : String) (args : List String) (a : RunArgs) :
    Prop where
  launchSpec : ∀ timeoutEnv, (a.toOptions timeoutEnv).launchSpec =
    { command := command, args := args, cwd := w.cwd, env := settings w.env ++ removals w.unset }
  timeout : ∀ timeoutEnv, (a.toOptions timeoutEnv).timeout =
    (w.timeoutMs.map (Duration.ofMillis ·.toNat)).getD
      ((RunArgs.timeoutFromEnv timeoutEnv).getD RunOptions.defaultTimeout)
  maxRetries : ∀ timeoutEnv, (a.toOptions timeoutEnv).maxRetries =
    w.maxRetries.getD RunOptions.defaultMaxRetries
  stream : a.stream = w.stream

lemma handsOn_request (w : RunWords) (command : String) (args : List String) :
    HandsOn w command args (w.request command args) where
  launchSpec := by
    intro timeoutEnv
    rw [toOptions_eq]
    rfl
  timeout := by
    intro timeoutEnv
    rw [toOptions_eq, RunArgs.timeout, request]
    cases w.timeoutMs <;> rfl
  maxRetries := by
    intro timeoutEnv
    rw [toOptions_eq]
    rfl
  stream := rfl

lemma parse_run (rest : List String) :
    Invocation.parse ("run" :: rest) =
      (RunArgs.parseWith true rest).map fun read => .run read.1 (read.2.getD .text) := by
  have henter : (Scan.start Option.none).wordsUntil Invocation.programGrammar
      Invocation.isSubcommand ("run" :: rest) = .ok (.start .none, some ("run", rest)) := rfl
  rw [Invocation.parse, henter]
  show (RunArgs.parseWith true rest >>= _) = _
  cases RunArgs.parseWith true rest <;> rfl

/-- What is promised of words behind `--`, if the words before it are these. -/
structure Handover (front : List String) : Prop where
  /-- Words that lack a command are flags that say something. -/
  valid_iff : LacksCommand front ↔ ∃ flags w, Gives front flags ∧ Says flags w
  /-- Whatever stands behind `--` is the command with its words. -/
  handsOn : ∀ {flags w}, Gives front flags → Says flags w → ∀ command args,
    ∃ a, Invocation.parse ("run" :: (front ++ "--" :: command :: args)) =
        .ok (.run a (w.output.getD .text)) ∧
      HandsOn w command args a

/-- **Words behind `--` belong to the command.** -/
theorem handover_of_dashes (front : List String) : Handover front := by
  constructor
  case valid_iff => exact lacksCommand_iff
  case handsOn =>
    rintro flags w ⟨groups, rfl, hwritten⟩ hsaid command args
    refine ⟨w.request command args, ?_, handsOn_request w command args⟩
    rw [parse_run, parseWith_of_line (.marked hwritten) (acceptAll_eq_ok_iff.mpr hsaid)]
    rfl

example :
    (Invocation.parse
      ["run", "--cwd=--", "-e", "A=1", "--", "--", "-o", "", "--", "--unset", "--stream"]) =
        .ok (.run
          { timeoutMs := none, maxRetries := 1, cwd := some "--", env := [("A", "1")], unset := []
            stream := false, command := "--", args := ["-o", "", "--", "--unset", "--stream"] }
          .text) := by
  decide

end Watchdog.CommandLine
