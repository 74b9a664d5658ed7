import Watchdog.CommandLine.RunArgs
import Watchdog.Proofs.CommandLine.Scan

/-!
# The parts of a command line for `run`

A command line for `run` consists of flags, the command and its own words (`Line`).  The flags stand
before the command, or between it and the first of its words; what they say depends on their order
alone.  `parseWith_of_line` reads every such line as the request that its flags make of its command,
with its words as they are.  What each flag adds to the request is said once, in `Takes`.
-/

namespace Watchdog.CommandLine

variable {withOutput : Bool} {flag : RunFlag} {value : Option String} {w w' : RunWords}
  {flags before after : List (RunFlag × Option String)} {command : String}
  {argv args rest : List String}

lemma mapError_eq_ok_iff {ε δ α : Type} {f : ε → δ} {e : Except ε α} {a : α} :
    e.mapError f = .ok a ↔ e = .ok a := by
  cases e <;> simp [Except.mapError]

namespace RunWords

lemma readAs_eq_ok_iff {α : Type} {text : String} {e : Except String α} {a : α} :
    readAs flag text e = .ok a ↔ e = .ok a := by
  cases e <;> simp [readAs]

/-! ## What flags add -/

/-- What a flag adds to what is known, and on which condition.  Most flags may stand once. -/
inductive Takes (w : RunWords) (text : String) : RunFlag → RunWords → Prop
  | timeout {n : UInt64} :
    w.timeoutMs = .none → Numeral.readUInt64 text.toList = .ok n →
    Takes w text .timeout { w with timeoutMs := some n }
  | maxRetries {n : UInt32} :
    w.maxRetries = .none → readRetries text = .ok n →
    Takes w text .maxRetries { w with maxRetries := some n }
  | cwd : w.cwd = .none → text ≠ "" → Takes w text .cwd { w with cwd := some text }
  | env {pair : String × String} :
    readEnvPair text = .ok pair → Takes w text .env { w with env := w.env ++ [pair] }
  | unset : Takes w text .unset { w with unset := w.unset ++ [text] }
  | stream : w.stream = false → Takes w text .stream { w with stream := true }
  | output {format : OutputFormat} :
    w.output = .none → OutputFormat.read text = .ok format →
    Takes w text .output { w with output := some format }

lemma accept_eq_ok_iff :
    w.accept flag value = .ok w' ↔ Takes w (value.getD "") flag w' := by
  constructor
  · intro h
    cases flag with
    | timeout | maxRetries | output =>
      simp only [accept] at h
      split at h
      · cases h
      · rename_i hfirst
        simp only [map_eq_ok_iff, readAs_eq_ok_iff, mapError_eq_ok_iff] at h
        obtain ⟨n, hn, rfl⟩ := h
        constructor
        · simpa using hfirst
        · exact hn
    | cwd =>
      simp only [accept] at h
      split at h
      · cases h
      · rename_i hfirst
        split at h
        · cases h
        · rename_i hsome
          cases h
          exact .cwd (by simpa using hfirst) (by simpa using hsome)
    | env =>
      simp only [accept, map_eq_ok_iff, readAs_eq_ok_iff, mapError_eq_ok_iff] at h
      obtain ⟨pair, hpair, rfl⟩ := h
      exact .env hpair
    | unset =>
      cases h
      exact .unset
    | stream =>
      simp only [accept] at h
      split at h
      · cases h
      · rename_i hfirst
        cases h
        exact .stream (by simpa using hfirst)
    | help => cases h
  · intro h
    cases h with
    | timeout hfirst hn => simp [accept, hfirst, hn, readAs, Except.mapError, Except.map]
    | maxRetries hfirst hn => simp [accept, hfirst, hn, readAs, Except.map]
    | cwd hfirst hsome => simp [accept, hfirst, hsome]
    | env hpair => simp [accept, hpair, readAs, Except.mapError, Except.map]
    | unset => rfl
    | stream hfirst => simp [accept, hfirst]
    | output hfirst hformat => simp [accept, hfirst, hformat, Except.map]

/-- No flag is about the command or its words. -/
lemma Takes.frame {text : String} (h : Takes w text flag w') :
    w'.command = w.command ∧ w'.args = w.args := by
  cases h <;> exact ⟨rfl, rfl⟩

lemma steady (withOutput : Bool) : (grammar withOutput).Steady := by
  intro w flag value w' h
  show w'.command.isSome = w.command.isSome
  rw [(accept_eq_ok_iff.mp h).frame.1]

/-- The command is known. -/
def withCommand (w : RunWords) (command : String) : RunWords := { w with command := some command }

/-- A flag adds the same before and behind the command. -/
lemma Takes.withCommand {text : String} (h : Takes w text flag w') (command : String) :
    Takes (w.withCommand command) text flag (w'.withCommand command) := by
  cases h with
  | timeout hfirst hn => exact .timeout hfirst hn
  | maxRetries hfirst hn => exact .maxRetries hfirst hn
  | cwd hfirst hsome => exact .cwd hfirst hsome
  | env hpair => exact .env hpair
  | unset => exact .unset
  | stream hfirst => exact .stream hfirst
  | output hfirst hformat => exact .output hfirst hformat

/-! ## What all flags add -/

lemma acceptAll_cons_iff :
    (grammar withOutput).acceptAll w ((flag, value) :: flags) = .ok w' ↔
      ∃ between, Takes w (value.getD "") flag between ∧
        (grammar withOutput).acceptAll between flags = .ok w' := by
  rw [Grammar.acceptAll_cons]
  exact exists_congr fun between => and_congr_left' accept_eq_ok_iff

lemma acceptAll_frame (h : (grammar withOutput).acceptAll w flags = .ok w') :
    w'.command = w.command ∧ w'.args = w.args := by
  induction flags generalizing w with
  | nil =>
    cases h
    exact ⟨rfl, rfl⟩
  | cons flag flags ih =>
    obtain ⟨between, hbetween, hmore⟩ := acceptAll_cons_iff.mp h
    obtain ⟨hcommand, hargs⟩ := hbetween.frame
    exact ⟨(ih hmore).1.trans hcommand, (ih hmore).2.trans hargs⟩

lemma acceptAll_withCommand (h : (grammar withOutput).acceptAll w flags = .ok w')
    (command : String) :
    (grammar withOutput).acceptAll (w.withCommand command) flags =
      .ok (w'.withCommand command) := by
  induction flags generalizing w with
  | nil =>
    cases h
    rfl
  | cons flag flags ih =>
    obtain ⟨between, hbetween, hmore⟩ := acceptAll_cons_iff.mp h
    exact acceptAll_cons_iff.mpr ⟨_, hbetween.withCommand command, ih hmore⟩

/-- The values that a flag is given, in order. -/
def valuesOf (name : RunFlag) (flags : List (RunFlag × Option String)) : List String :=
  flags.filterMap fun flag => if flag.1 = name then some (flag.2.getD "") else .none

lemma valuesOf_cons_self (name : RunFlag) (value : Option String) :
    valuesOf name ((name, value) :: flags) = value.getD "" :: valuesOf name flags := by
  simp [valuesOf]

lemma valuesOf_cons_of_ne {name : RunFlag} (h : flag ≠ name) (value : Option String) :
    valuesOf name ((flag, value) :: flags) = valuesOf name flags := by
  simp [valuesOf, h]

lemma unset_of_acceptAll (h : (grammar withOutput).acceptAll w flags = .ok w') :
    w'.unset = w.unset ++ valuesOf .unset flags := by
  induction flags generalizing w with
  | nil =>
    cases h
    exact (List.append_nil _).symm
  | cons flag flags ih =>
    obtain ⟨flag, value⟩ := flag
    obtain ⟨between, hbetween, hmore⟩ := acceptAll_cons_iff.mp h
    rw [ih hmore]
    cases hbetween with
    | unset => rw [valuesOf_cons_self, List.append_assoc, List.singleton_append]
    | _ => rw [valuesOf_cons_of_ne (by decide)]

/-- Each word that sets a variable adds it. -/
lemma env_of_acceptAll (h : (grammar withOutput).acceptAll w flags = .ok w') :
    ∃ pairs, w'.env = w.env ++ pairs ∧
      List.Forall₂ (fun word pair => readEnvPair word = .ok pair) (valuesOf .env flags) pairs := by
  induction flags generalizing w with
  | nil =>
    cases h
    exact ⟨[], (List.append_nil _).symm, .nil⟩
  | cons flag flags ih =>
    obtain ⟨flag, value⟩ := flag
    obtain ⟨between, hbetween, hmore⟩ := acceptAll_cons_iff.mp h
    obtain ⟨pairs, hpairs, hreads⟩ := ih hmore
    cases hbetween with
    | @env pair hpair =>
      refine ⟨pair :: pairs, ?_, ?_⟩
      · rw [hpairs, List.append_assoc, List.singleton_append]
      · rw [valuesOf_cons_self]
        exact .cons hpair hreads
    | _ => exact ⟨pairs, hpairs, by rwa [valuesOf_cons_of_ne (by decide)]⟩

/-- Flags for the environment only fail by a word that sets no variable. -/
lemma exists_acceptAll_iff (w : RunWords) (h : ∀ flag ∈ flags, flag.1 = .env ∨ flag.1 = .unset) :
    (∃ w', (grammar withOutput).acceptAll w flags = .ok w') ↔
      ∀ word ∈ valuesOf .env flags, ∃ pair, readEnvPair word = .ok pair := by
  induction flags generalizing w with
  | nil => simp [valuesOf, Grammar.acceptAll, pure, Except.pure]
  | cons flag flags ih =>
    obtain ⟨flag, value⟩ := flag
    have hflags : ∀ flag ∈ flags, flag.1 = RunFlag.env ∨ flag.1 = RunFlag.unset :=
      fun flag hflag => h flag (List.mem_cons_of_mem _ hflag)
    simp only [acceptAll_cons_iff]
    obtain rfl | rfl : flag = .env ∨ flag = .unset := h _ List.mem_cons_self
    · rw [valuesOf_cons_self, List.forall_mem_cons]
      constructor
      · rintro ⟨w', between, hbetween, hmore⟩
        cases hbetween with
        | env hpair => exact ⟨⟨_, hpair⟩, (ih _ hflags).mp ⟨w', hmore⟩⟩
      · rintro ⟨⟨pair, hpair⟩, hwords⟩
        obtain ⟨w', hmore⟩ := (ih { w with env := w.env ++ [pair] } hflags).mpr hwords
        exact ⟨w', _, .env hpair, hmore⟩
    · rw [valuesOf_cons_of_ne (by decide),
        ← ih { w with unset := w.unset ++ [value.getD ""] } hflags]
      constructor
      · rintro ⟨w', between, hbetween, hmore⟩
        cases hbetween with
        | unset => exact ⟨w', hmore⟩
      · rintro ⟨w', hmore⟩
        exact ⟨w', _, .unset, hmore⟩

/-! ## Words of the command -/

/-- The request that the flags make of a command. -/
def request (w : RunWords) (command : String) (args : List String) : RunArgs where
  timeoutMs := w.timeoutMs
  maxRetries := w.maxRetries.getD RunOptions.defaultMaxRetries
  cwd := w.cwd
  env := w.env
  unset := w.unset
  stream := w.stream
  command := command
  args := args

/-- What an operand is when all words are operands. -/
def take (w : RunWords) (word : String) : RunWords := (w.operand true word).1

lemma operand_trailing (w : RunWords) (word : String) :
    (grammar withOutput).operand w true word = .ok (w.take word, true) := by
  show Except.ok (w.operand true word) = _
  unfold take operand
  split <;> rfl

/-- These are words of the command. -/
def withArgs (w : RunWords) (args : List String) : RunWords := { w with args := w.args ++ args }

lemma foldl_take_withCommand (w : RunWords) (command : String) (args : List String) :
    args.foldl take (w.withCommand command) = (w.withCommand command).withArgs args := by
  induction args generalizing w with
  | nil => exact congrArg (fun args => { w.withCommand command with args }) w.args.append_nil.symm
  | cons word args ih =>
    have hnext := ih (w.withArgs [word])
    rw [withArgs, withArgs, withCommand, List.append_assoc, List.singleton_append] at hnext
    exact hnext

end RunWords

open RunWords

/-! ## Whole lines -/

/-- The ways to give a command, whose name is already given, its own words. -/
inductive OwnWords (withOutput : Bool) : List String → List String → Prop
  | none : OwnWords withOutput [] []
  | marked {args : List String} : OwnWords withOutput args ("--" :: args)
  | bare {word : String} {args : List String} :
    Bare (grammar withOutput) true word → OwnWords withOutput (word :: args) (word :: args)

/-- The ways to give flags, a command and its own words.  Either `--` divides the flags from the
command, or the command stands between flags. -/
inductive Line (withOutput : Bool) (command : String) (args : List String) :
    List (RunFlag × Option String) → List String → Prop
  | marked {flags : List (RunFlag × Option String)} {groups : List (List String)} :
    List.Forall₂ (Written (grammar withOutput) false) flags groups →
    Line withOutput command args flags (groups.flatten ++ "--" :: command :: args)
  | plain {before after : List (RunFlag × Option String)} {groups later : List (List String)}
    {rest : List String} :
    List.Forall₂ (Written (grammar withOutput) false) before groups →
    Bare (grammar withOutput) false command →
    List.Forall₂ (Written (grammar withOutput) true) after later →
    OwnWords withOutput args rest →
    Line withOutput command args (before ++ after)
      (groups.flatten ++ command :: (later.flatten ++ rest))

lemma words_of_ownWords (h : OwnWords withOutput args rest) {s : Scan RunFlag RunWords}
    (hs : Scan.StandsAt (grammar withOutput) s (w.withCommand command)) :
    ∃ trailing, s.words (grammar withOutput) rest =
      .ok ⟨(w.withCommand command).withArgs args, .none, trailing⟩ := by
  cases h with
  | none =>
    refine ⟨false, hs.resolve.trans ?_⟩
    rw [← foldl_take_withCommand]
    rfl
  | marked =>
    refine ⟨true, ?_⟩
    rw [Scan.words_of_dashes operand_trailing hs, foldl_take_withCommand]
  | @bare word args hbare =>
    refine ⟨true, ?_⟩
    have hfirst : (grammar withOutput).operand (w.withCommand command) false word =
        .ok ((w.withCommand command).take word, true) := rfl
    rw [Scan.words_of_bare (steady withOutput) hs hbare hfirst,
      Scan.words_of_trailing operand_trailing rfl rfl, ← foldl_take_withCommand, List.foldl_cons]

/-- Without a command yet, an operand is the command. -/
lemma operand_of_unknown (h : w.command = .none) (trailing : Bool) (command : String) :
    w.operand trailing command = (w.withCommand command, trailing) := by
  rw [operand, h]
  rfl

lemma words_of_marked {groups : List (List String)}
    (hwritten : List.Forall₂ (Written (grammar withOutput) false) flags groups)
    (haccept : (grammar withOutput).acceptAll RunWords.none flags = .ok w) (command : String)
    (args : List String) :
    (Scan.start RunWords.none).words (grammar withOutput)
        (groups.flatten ++ "--" :: command :: args) =
      .ok ⟨(w.withCommand command).withArgs args, .none, true⟩ := by
  have hunknown : w.command = .none := (acceptAll_frame haccept).1
  obtain ⟨s, hs, hread⟩ := Scan.words_of_written (steady withOutput) (.held RunWords.none)
    hwritten haccept ("--" :: command :: args)
  refine hread.trans ?_
  rw [Scan.words_of_dashes operand_trailing hs, List.foldl_cons, take,
    operand_of_unknown hunknown, foldl_take_withCommand]

lemma words_of_plain {groups later : List (List String)}
    (hbefore : List.Forall₂ (Written (grammar withOutput) false) before groups)
    (hbare : Bare (grammar withOutput) false command)
    (hafter : List.Forall₂ (Written (grammar withOutput) true) after later)
    (hown : OwnWords withOutput args rest)
    (haccept : (grammar withOutput).acceptAll RunWords.none (before ++ after) = .ok w) :
    ∃ trailing, (Scan.start RunWords.none).words (grammar withOutput)
        (groups.flatten ++ command :: (later.flatten ++ rest)) =
      .ok ⟨(w.withCommand command).withArgs args, .none, trailing⟩ := by
  obtain ⟨between, hbetween, hmore⟩ := Grammar.acceptAll_append.mp haccept
  have hunknown : between.command = .none := (acceptAll_frame hbetween).1
  obtain ⟨s, hs, hread⟩ := Scan.words_of_written (steady withOutput) (.held RunWords.none)
    hbefore hbetween (command :: (later.flatten ++ rest))
  have hplain : Bare (grammar withOutput) between.command.isSome command := by rwa [hunknown]
  have hcommand : (grammar withOutput).operand between false command =
      .ok (between.withCommand command, false) :=
    congrArg Except.ok (operand_of_unknown hunknown false command)
  -- What stands behind the command is read as what stands before it, except that operands may now
  -- begin with a hyphen.
  obtain ⟨s', hs', hread'⟩ := Scan.words_of_written (steady withOutput)
    (.held (between.withCommand command)) hafter (acceptAll_withCommand hmore command) rest
  obtain ⟨trailing, hend⟩ := words_of_ownWords hown hs'
  refine ⟨trailing, hread.trans ?_⟩
  rw [Scan.words_of_bare (steady withOutput) hs hplain hcommand, hread', hend]

/-- A line is read as the request that its flags make of its command. -/
lemma parseWith_of_line (hline : Line withOutput command args flags argv)
    (haccept : (grammar withOutput).acceptAll RunWords.none flags = .ok w) :
    RunArgs.parseWith withOutput argv = .ok (w.request command args, w.output) := by
  have hread : ∃ trailing, (Scan.start RunWords.none).words (grammar withOutput) argv =
      .ok ⟨(w.withCommand command).withArgs args, .none, trailing⟩ := by
    cases hline with
    | marked hwritten => exact ⟨true, words_of_marked hwritten haccept command args⟩
    | plain hbefore hbare hafter hown => exact words_of_plain hbefore hbare hafter hown haccept
  obtain ⟨trailing, hread⟩ := hread
  have hargs : w.args = [] := (acceptAll_frame haccept).2
  have hall : (w.withCommand command).withArgs args =
      { w with command := some command, args := args } := by
    simp only [withArgs, withCommand, hargs, List.nil_append]
  rw [RunArgs.parseWith, hread, hall]
  rfl

end Watchdog.CommandLine
