import Watchdog.Proofs.CommandLine.RunWords
import Watchdog.Proofs.Launch.Environment

/-!
# Flags for the environment

A command inherits its environment, with variables that flags set or unset.  Words that set a
variable are read at their first equals sign (`readEnvPair_eq_ok_iff`).  The flags are collected in
two lists while the line is read, and joined again in the options with what is unset at the end
(`env_toOptions`); that is why unsetting a variable wins, wherever its flag stands, and among the
words that set it the last does (`sees_of_reads`).
-/

namespace Watchdog.CommandLine

/-! ## Words that set a variable -/

/-- The word sets the variable to the value: they stand before and behind its first equals sign. -/
def SetsVar (word key value : String) : Prop :=
  word = key ++ "=" ++ value ∧ key ≠ "" ∧ '=' ∉ key.toList

lemma readEnvPair_of_notMem {word : String} (h : '=' ∉ word.toList) :
    readEnvPair word = .error (.missingEquals word) := by
  rw [readEnvPair, dropWhile_of_notMem h]

lemma readEnvPair_equals {key : String} (h : '=' ∉ key.toList) (value : String) :
    readEnvPair (key ++ "=" ++ value) =
      if key = "" then .error (.emptyKey (key ++ "=" ++ value)) else .ok (key, value) := by
  have htext : (key ++ "=" ++ value).toList = key.toList ++ '=' :: value.toList := by simp
  rw [readEnvPair, htext, takeWhile_append_equals h, dropWhile_append_equals h]
  by_cases hkey : key = ""
  · simp [hkey]
  · simp [hkey, String.ofList_toList]

lemma readEnvPair_eq_ok_iff {word key value : String} :
    readEnvPair word = .ok (key, value) ↔ SetsVar word key value := by
  constructor
  · intro h
    obtain hnone | ⟨key', value', hkey, rfl⟩ := exists_first_equals word
    · rw [readEnvPair_of_notMem hnone] at h
      cases h
    · rw [readEnvPair_equals hkey] at h
      split at h
      · cases h
      · rename_i hsome
        cases h
        exact ⟨rfl, hsome, hkey⟩
  · rintro ⟨rfl, hsome, hkey⟩
    rw [readEnvPair_equals hkey, if_neg hsome]

/-- A word sets one variable only. -/
lemma not_setsVar_of_read {word key key' value value' : String}
    (h : readEnvPair word = .ok (key', value')) (hne : key ≠ key') : ¬ SetsVar word key value := by
  intro hsets
  rw [readEnvPair_eq_ok_iff.mpr hsets] at h
  exact hne (congrArg Prod.fst (Except.ok.inj h))

/-- A word that sets no variable is refused for one of two reasons. -/
lemma readEnvPair_eq_error_iff {word : String} {e : EnvPairError} :
    readEnvPair word = .error e ↔
      '=' ∉ word.toList ∧ e = .missingEquals word ∨
        word.toList.head? = some '=' ∧ e = .emptyKey word := by
  obtain hnone | ⟨key, value, hkey, rfl⟩ := exists_first_equals word
  · have hhead : word.toList.head? ≠ some '=' := fun h => hnone (List.mem_of_head? h)
    simp [readEnvPair_of_notMem hnone, hnone, hhead, eq_comm]
  · rw [readEnvPair_equals hkey]
    by_cases hsome : key = ""
    · simp [hsome, eq_comm]
    · obtain ⟨c, cs, hcs⟩ := List.exists_cons_of_ne_nil (mt String.toList_eq_nil_iff.mp hsome)
      have hc : c ≠ '=' := by
        rintro rfl
        exact hkey (hcs ▸ List.mem_cons_self)
      simp [hsome, hcs, hc]

/-! ## What the command sees -/

/-- What a command sees of a variable whose environment is `child`, when it would inherit
`inherited`, the words set variables and the keys are unset. -/
structure Sees (words keys : List String) (inherited child : Environment) (key : String) :
    Prop where
  unset : key ∈ keys → child.value? key = none
  /-- Of the words that set the variable the last one counts. -/
  set : key ∉ keys → ∀ (earlier later : List String) (word value : String),
    words = earlier ++ word :: later → SetsVar word key value →
    (∀ other ∈ later, ∀ value, ¬ SetsVar other key value) → child.value? key = some value
  kept : key ∉ keys → (∀ word ∈ words, ∀ value, ¬ SetsVar word key value) →
    child.value? key = inherited.value? key

/-- Setting variables, and unsetting them, as changes to the environment. -/
def settings (pairs : List (String × String)) : List EnvChange :=
  pairs.map fun pair => (pair.1, some pair.2)

def removals (keys : List String) : List EnvChange := keys.map (·, none)

section Options

variable (o : RunOptions)

lemma foldl_setEnv (pairs : List (String × String)) :
    pairs.foldl (fun o pair => o.setEnv pair.1 pair.2) o =
      { o with env := o.env ++ settings pairs } := by
  induction pairs generalizing o with
  | nil => exact congrArg (fun env => { o with env := env }) o.env.append_nil.symm
  | cons pair pairs ih =>
    rw [List.foldl_cons, ih, RunOptions.setEnv, settings, settings, List.map_cons,
      List.append_assoc, List.singleton_append]

lemma foldl_removeEnv (keys : List String) :
    keys.foldl RunOptions.removeEnv o = { o with env := o.env ++ removals keys } := by
  induction keys generalizing o with
  | nil => exact congrArg (fun env => { o with env := env }) o.env.append_nil.symm
  | cons key keys ih =>
    rw [List.foldl_cons, ih, RunOptions.removeEnv, removals, removals, List.map_cons,
      List.append_assoc, List.singleton_append]

end Options

/-- The options that a request makes.  Changes to the environment are in order. -/
lemma toOptions_eq (a : RunArgs) (timeoutEnv : Option String) :
    a.toOptions timeoutEnv =
      { command := a.command
        args := a.args
        cwd := a.cwd
        timeout := a.timeout timeoutEnv
        env := settings a.env ++ removals a.unset
        maxRetries := a.maxRetries } := by
  rw [RunArgs.toOptions, foldl_removeEnv, foldl_setEnv]
  cases a.cwd <;> rfl

lemma env_toOptions (a : RunArgs) (timeoutEnv : Option String) :
    (a.toOptions timeoutEnv).launchSpec.env = settings a.env ++ removals a.unset := by
  rw [toOptions_eq]
  rfl

/-- These words set these variables. -/
abbrev ReadAll (words : List String) (pairs : List (String × String)) : Prop :=
  List.Forall₂ (fun word pair => readEnvPair word = .ok pair) words pairs

variable {words earlier later : List String} {pairs : List (String × String)} {word key : String}

lemma ReadAll.notMem (h : ReadAll words pairs)
    (hnone : ∀ word ∈ words, ∀ value, ¬ SetsVar word key value) :
    key ∉ (settings pairs).map Prod.fst := by
  induction h with
  | nil => exact List.not_mem_nil
  | @cons word pair words pairs hread _ ih =>
    rw [List.forall_mem_cons] at hnone
    rw [settings, List.map_cons, List.map_cons, List.mem_cons, not_or]
    refine ⟨?_, ih hnone.2⟩
    rintro rfl
    exact hnone.1 pair.2 (readEnvPair_eq_ok_iff.mp hread)

lemma ReadAll.exists_split (h : ReadAll (earlier ++ word :: later) pairs) :
    ∃ before pair after, pairs = before ++ pair :: after ∧ readEnvPair word = .ok pair ∧
      ReadAll later after := by
  induction earlier generalizing pairs with
  | nil =>
    obtain ⟨pair, after, hread, hlater, rfl⟩ := List.forall₂_cons_left_iff.mp h
    exact ⟨[], pair, after, rfl, hread, hlater⟩
  | cons first earlier ih =>
    obtain ⟨head, rest, -, hrest, rfl⟩ := List.forall₂_cons_left_iff.mp h
    obtain ⟨before, pair, after, rfl, hread, hlater⟩ := ih hrest
    exact ⟨head :: before, pair, after, rfl, hread, hlater⟩

lemma sees_of_reads (h : ReadAll words pairs) (keys : List String) (inherited : Environment)
    (key : String) :
    Sees words keys inherited (inherited.apply (settings pairs ++ removals keys)) key := by
  -- Whatever was set before, what is unset comes last.
  have hremovals := (inherited.apply (settings pairs)).value?_apply_removals keys key
  rw [← removals, ← Environment.apply_append] at hremovals
  constructor
  case unset =>
    intro hmem
    rw [hremovals, if_pos hmem]
  case set =>
    rintro hmem earlier later word value rfl hsets hlater
    obtain ⟨before, pair, after, rfl, hread, hafter⟩ := h.exists_split
    rw [readEnvPair_eq_ok_iff.mpr hsets] at hread
    obtain rfl := Except.ok.inj hread
    rw [hremovals, if_neg hmem, settings, List.map_append, List.map_cons]
    exact inherited.value?_apply_of_last _ _ (hafter.notMem hlater)
  case kept =>
    intro hmem hnone
    rw [hremovals, if_neg hmem, Environment.value?_apply_of_notMem (h.notMem hnone)]

/-! ## The law -/

/-- The flags can be taken in. -/
def Valid (withOutput : Bool) (flags : List (RunFlag × Option String)) : Prop :=
  ∃ w, (RunWords.grammar withOutput).acceptAll RunWords.none flags = .ok w

/-- What is promised of flags for the environment. -/
structure EnvFlags (withOutput : Bool) : Prop where
  read : ∀ word key value, readEnvPair word = .ok (key, value) ↔ SetsVar word key value
  refused : ∀ word, (∃ e, readEnvPair word = .error e) ↔ ¬ ∃ key value, SetsVar word key value
  reason : ∀ word e, readEnvPair word = .error e ↔
    '=' ∉ word.toList ∧ e = .missingEquals word ∨
      word.toList.head? = some '=' ∧ e = .emptyKey word
  /-- Nothing else is wrong with such flags. -/
  valid_iff : ∀ flags : List (RunFlag × Option String),
    (∀ flag ∈ flags, flag.1 = .env ∨ flag.1 = .unset) →
    (Valid withOutput flags ↔
      ∀ word ∈ RunWords.valuesOf .env flags, ∃ key value, SetsVar word key value)
  /-- However they are written and whatever flags stand between them, their values arrive in two
  lists. -/
  arrives : ∀ {flags command args argv}, Line withOutput command args flags argv →
    Valid withOutput flags → ∃ a format, RunArgs.parseWith withOutput argv = .ok (a, format) ∧
      ReadAll (RunWords.valuesOf .env flags) a.env ∧ a.unset = RunWords.valuesOf .unset flags
  /-- From there they reach the command. -/
  reaches : ∀ {words} {a : RunArgs}, ReadAll words a.env → ∀ timeoutEnv inherited key,
    Sees words a.unset inherited
      (Environment.apply inherited (a.toOptions timeoutEnv).launchSpec.env) key

/-- **Flags for the environment reach the command.** -/
theorem environment_of_flags (withOutput : Bool) : EnvFlags withOutput := by
  constructor
  case read => exact fun word key value => readEnvPair_eq_ok_iff
  case refused =>
    intro word
    constructor
    · rintro ⟨e, he⟩ ⟨key, value, hsets⟩
      rw [readEnvPair_eq_ok_iff.mpr hsets] at he
      exact nomatch he
    · intro hnone
      cases hread : readEnvPair word with
      | error e => exact ⟨e, rfl⟩
      | ok pair => exact absurd ⟨_, _, readEnvPair_eq_ok_iff.mp hread⟩ hnone
  case reason => exact fun word e => readEnvPair_eq_error_iff
  case valid_iff =>
    intro flags hflags
    refine (RunWords.exists_acceptAll_iff _ hflags).trans ?_
    simp only [Prod.exists, readEnvPair_eq_ok_iff]
  case arrives =>
    rintro flags command args argv hline ⟨w, haccept⟩
    refine ⟨_, _, parseWith_of_line hline haccept, ?_, ?_⟩
    · obtain ⟨pairs, hpairs, hread⟩ := RunWords.env_of_acceptAll haccept
      show ReadAll _ w.env
      rwa [hpairs]
    · exact RunWords.unset_of_acceptAll haccept
  case reaches =>
    intro words a hread timeoutEnv inherited key
    rw [env_toOptions]
    exact sees_of_reads hread a.unset inherited key

/-- Of two words for one variable the second counts, and unsetting wins although its flag stands
first. -/
theorem environment_of_conflict :
    let argv := ["-eA=1", "--unset=B", "--cwd", "/tmp", "-e", "A=x=y", "env", "--unset", "C",
      "--env=B=2", "--", "-i"]
    let inherited : Environment := [("B", "b"), ("C", "c"), ("D", "d")]
    ∃ a format, RunArgs.parseWith true argv = .ok (a, format) ∧
      let child := inherited.apply (a.toOptions none).launchSpec.env
      child.value? "A" = some "x=y" ∧ child.value? "B" = none ∧ child.value? "C" = none ∧
        child.value? "D" = some "d" := by
  intro argv inherited
  have hlaw := environment_of_flags true
  have hjoined : Written (RunWords.grammar true) false (.env, some "A=1") ["-eA=1"] :=
    @Written.shortJoined _ _ _ _ 'e' "A=1" _ rfl (by decide) rfl rfl (by decide) (by decide)
  have hunset : Written (RunWords.grammar true) false (.unset, some "B") ["--unset=B"] :=
    @Written.longAttached _ _ _ _ "unset" "B" _ (by decide) rfl rfl
  have hcwd : Written (RunWords.grammar true) false (.cwd, some "/tmp") ["--cwd", "/tmp"] :=
    @Written.long _ _ _ _ "cwd" "/tmp" _ (by decide) (by decide) rfl rfl (.plain (by decide))
  have hapart : Written (RunWords.grammar true) false (.env, some "A=x=y") ["-e", "A=x=y"] :=
    @Written.short _ _ _ _ 'e' "A=x=y" _ (by decide) rfl rfl (.plain (by decide))
  have hbehind : Written (RunWords.grammar true) true (.unset, some "C") ["--unset", "C"] :=
    @Written.long _ _ _ _ "unset" "C" _ (by decide) (by decide) rfl rfl (.plain (by decide))
  have hlast : Written (RunWords.grammar true) true (.env, some "B=2") ["--env=B=2"] :=
    @Written.longAttached _ _ _ _ "env" "B=2" _ (by decide) rfl rfl
  have hline : Line true "env" ["-i"] _ argv :=
    .plain (.cons hjoined (.cons hunset (.cons hcwd (.cons hapart .nil)))) (.plain (by decide))
      (.cons hbehind (.cons hlast .nil)) .marked
  obtain ⟨a, format, hparse, hread, hkeys⟩ := hlaw.arrives hline ⟨_, rfl⟩
  have hsees := hlaw.reaches hread none inherited
  rw [hkeys] at hsees
  have hfirst : readEnvPair "A=1" = .ok ("A", "1") := by decide
  have hsecond : readEnvPair "A=x=y" = .ok ("A", "x=y") := by decide
  have hthird : readEnvPair "B=2" = .ok ("B", "2") := by decide
  refine ⟨a, format, hparse, ?_, (hsees "B").unset (by decide), (hsees "C").unset (by decide), ?_⟩
  · refine (hsees "A").set (by decide) ["A=1"] ["B=2"] "A=x=y" "x=y" rfl
      (readEnvPair_eq_ok_iff.mp hsecond) ?_
    rw [List.forall_mem_singleton]
    exact fun value => not_setsVar_of_read hthird (by decide)
  · refine (hsees "D").kept (by decide) ?_
    show ∀ word ∈ ["A=1", "A=x=y", "B=2"], _
    rw [List.forall_mem_cons, List.forall_mem_cons, List.forall_mem_singleton]
    exact ⟨fun value => not_setsVar_of_read hfirst (by decide),
      fun value => not_setsVar_of_read hsecond (by decide),
      fun value => not_setsVar_of_read hthird (by decide)⟩

end Watchdog.CommandLine
