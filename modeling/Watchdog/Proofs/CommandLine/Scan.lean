import Mathlib.Data.List.Forall2
import Mathlib.Data.List.TakeWhile
import Mathlib.Tactic.Lemma
import Watchdog.CommandLine.Scan

/-!
# How options are written

The same option can be written in several ways (`Written`), and any number of them one after the
other.  A scan does not take an option in when it has read its words but when it looks at the next
one; until then it stands at a state that it does not hold yet (`StandsAt`).  In these terms reading
is plain: options, however they are written, are taken in one by one (`words_of_written`), a word
that is none is an operand (`word_of_bare`), and behind `--` all are (`words_of_trailing`).
-/

namespace Watchdog.CommandLine

variable {F S : Type}

/-- A word that is neither an option nor a mistake for one.  Where operands may begin with a hyphen,
words of that kind which name no option are among them. -/
inductive Bare (g : Grammar F S) (hyphen : Bool) : String → Prop
  | plain {word : String} : word.toList.head? ≠ some '-' → Bare g hyphen word
  | hyphen : Bare g hyphen "-"
  | unknownLong {name : String} :
    hyphen = true → name ≠ "" → '=' ∉ name.toList → g.long? name = none →
    Bare g hyphen ("--" ++ name)
  | unknownAttached {name value : String} :
    hyphen = true → '=' ∉ name.toList → g.long? name = none →
    Bare g hyphen ("--" ++ name ++ "=" ++ value)
  | unknownShort {letters : String} :
    hyphen = true → letters.toList.head? ≠ some '-' → (∃ c ∈ letters.toList, g.short? c = none) →
    Bare g hyphen ("-" ++ letters)

/-- The ways to write an option.  Where operands may begin with a hyphen, the value of a short
option stands apart. -/
inductive Written (g : Grammar F S) (hyphen : Bool) : F × Option String → List String → Prop
  | switch {name : String} {f : F} :
    name ≠ "" → '=' ∉ name.toList → g.long? name = some f → g.takesValue f = false →
    Written g hyphen (f, none) ["--" ++ name]
  | long {name value : String} {f : F} :
    name ≠ "" → '=' ∉ name.toList → g.long? name = some f → g.takesValue f = true →
    Bare g hyphen value → Written g hyphen (f, some value) ["--" ++ name, value]
  | longAttached {name value : String} {f : F} :
    '=' ∉ name.toList → g.long? name = some f → g.takesValue f = true →
    Written g hyphen (f, some value) ["--" ++ name ++ "=" ++ value]
  | short {letter : Char} {value : String} {f : F} :
    letter ≠ '-' → g.short? letter = some f → g.takesValue f = true → Bare g hyphen value →
    Written g hyphen (f, some value) ["-" ++ String.singleton letter, value]
  | shortEquals {letter : Char} {value : String} {f : F} :
    hyphen = false → letter ≠ '-' → g.short? letter = some f → g.takesValue f = true →
    Written g hyphen (f, some value) ["-" ++ String.singleton letter ++ "=" ++ value]
  | shortJoined {letter : Char} {value : String} {f : F} :
    hyphen = false → letter ≠ '-' → g.short? letter = some f → g.takesValue f = true →
    value ≠ "" → value.toList.head? ≠ some '=' →
    Written g hyphen (f, some value) ["-" ++ String.singleton letter ++ value]

lemma map_eq_ok_iff {ε α β : Type} {f : α → β} {e : Except ε α} {b : β} :
    e.map f = .ok b ↔ ∃ a, e = .ok a ∧ f a = b := by
  cases e <;> simp [Except.map]

lemma bind_eq_ok_iff {ε α β : Type} {f : α → Except ε β} {e : Except ε α} {b : β} :
    (e >>= f) = .ok b ↔ ∃ a, e = .ok a ∧ f a = .ok b := by
  cases e <;> simp [bind, Except.bind]

namespace Grammar

/-- Takes in options one after the other. -/
def acceptAll (g : Grammar F S) (state : S) (options : List (F × Option String)) :
    Except Stop S :=
  options.foldlM (fun state option => g.accept state option.1 option.2) state

/-- Options do not change whether operands may begin with a hyphen. -/
def Steady (g : Grammar F S) : Prop :=
  ∀ ⦃state f value state'⦄, g.accept state f value = .ok state' →
    g.hyphenOperand state' = g.hyphenOperand state

variable {g : Grammar F S} {state state' : S}

lemma acceptAll_cons {option : F × Option String} {options : List (F × Option String)} :
    g.acceptAll state (option :: options) = .ok state' ↔
      ∃ between, g.accept state option.1 option.2 = .ok between ∧
        g.acceptAll between options = .ok state' := by
  rw [acceptAll, List.foldlM_cons]
  exact bind_eq_ok_iff

lemma acceptAll_append {options later : List (F × Option String)} :
    g.acceptAll state (options ++ later) = .ok state' ↔
      ∃ between, g.acceptAll state options = .ok between ∧
        g.acceptAll between later = .ok state' := by
  induction options generalizing state with
  | nil => simp [acceptAll, List.foldlM_nil, pure, Except.pure]
  | cons option options ih =>
    simp only [List.cons_append, acceptAll_cons, ih]
    constructor
    · rintro ⟨first, hfirst, between, hbetween, hlater⟩
      exact ⟨between, ⟨first, hfirst, hbetween⟩, hlater⟩
    · rintro ⟨between, ⟨first, hfirst, hbetween⟩, hlater⟩
      exact ⟨first, hfirst, between, hbetween, hlater⟩

end Grammar

/-! ## Parts of words -/

lemma takeWhile_of_notMem {name : List Char} (h : '=' ∉ name) :
    name.takeWhile (· != '=') = name := by
  rw [List.takeWhile_eq_self_iff]
  intro c hc
  rw [bne_iff_ne]
  rintro rfl
  exact h hc

lemma dropWhile_of_notMem {name : List Char} (h : '=' ∉ name) :
    name.dropWhile (· != '=') = [] := by
  rw [List.dropWhile_eq_nil_iff]
  intro c hc
  rw [bne_iff_ne]
  rintro rfl
  exact h hc

/-- A text is divided at its first equals sign. -/
lemma takeWhile_append_equals {name : List Char} (h : '=' ∉ name) (value : List Char) :
    (name ++ '=' :: value).takeWhile (· != '=') = name := by
  rw [List.takeWhile_append, takeWhile_of_notMem h, if_pos rfl]
  simp

lemma dropWhile_append_equals {name : List Char} (h : '=' ∉ name) (value : List Char) :
    (name ++ '=' :: value).dropWhile (· != '=') = '=' :: value := by
  rw [List.dropWhile_append, dropWhile_of_notMem h]
  simp

/-- A word has no equals sign, or a first one. -/
lemma exists_first_equals (word : String) :
    '=' ∉ word.toList ∨ ∃ key value, '=' ∉ key.toList ∧ word = key ++ "=" ++ value := by
  refine or_iff_not_imp_left.mpr fun hmem => ?_
  obtain ⟨key, value, htext, hkey⟩ := List.eq_append_cons_of_mem (not_not.mp hmem)
  refine ⟨.ofList key, .ofList value, by rwa [String.toList_ofList], ?_⟩
  rw [← String.toList_inj, htext]
  simp

namespace Scan

lemma longParts?_name {name : String} (h : '=' ∉ name.toList) :
    longParts? ("--" ++ name) = some (name, none) := by
  simp [longParts?, takeWhile_of_notMem h, dropWhile_of_notMem h]

lemma longParts?_attached {name : String} (h : '=' ∉ name.toList) (value : String) :
    longParts? ("--" ++ name ++ "=" ++ value) = some (name, some value) := by
  simp [longParts?, takeWhile_append_equals h, dropWhile_append_equals h]

lemma longParts?_plain {word : String} (h : word.toList.head? ≠ some '-') :
    longParts? word = none := by
  unfold longParts?
  split
  case h_1 htext => simp [htext] at h
  case h_2 => rfl

lemma shortParts?_plain {word : String} (h : word.toList.head? ≠ some '-') :
    shortParts? word = none := by
  unfold shortParts?
  split
  case h_1 htext => simp [htext] at h
  case h_2 => rfl

lemma longParts?_short {letters : String} (h : letters.toList.head? ≠ some '-') :
    longParts? ("-" ++ letters) = none := by
  cases hletters : letters.toList with
  | nil => simp [longParts?, hletters]
  | cons c cs =>
    have hc : c ≠ '-' := by simpa [hletters] using h
    simp [longParts?, hletters, hc]

lemma shortParts?_short {letters : String} (h : letters.toList.head? ≠ some '-')
    (hsome : letters ≠ "") : shortParts? ("-" ++ letters) = some letters.toList := by
  cases hletters : letters.toList with
  | nil => exact absurd (String.toList_eq_nil_iff.mp hletters) hsome
  | cons c cs =>
    have hc : c ≠ '-' := by simpa [hletters] using h
    simp [shortParts?, hletters, hc]

/-! ## One word -/

variable {g : Grammar F S} {s : Scan F S} {state state' : S} {f : F} {name w : String}

lemma dashes_append_ne (h : name ≠ "") : "--" ++ name ≠ "--" := by
  intro heq
  have htext := congrArg String.toList heq
  exact h (by simpa using htext)

lemma word_name (hreading : s.trailing = false) (hsome : name ≠ "") (hname : '=' ∉ name.toList)
    (hf : g.long? name = some f) :
    s.word g ("--" ++ name) =
      if g.takesValue f then s.expectValue g f else s.acceptNow g f none := by
  rw [word, hreading, if_neg Bool.false_ne_true, if_neg (dashes_append_ne hsome),
    longParts?_name hname]
  simp only [hf]

lemma attached_ne (name value : String) : "--" ++ name ++ "=" ++ value ≠ "--" := by
  intro heq
  have htext := congrArg String.toList heq
  simp at htext

lemma word_attached (hreading : s.trailing = false) (hname : '=' ∉ name.toList)
    (hf : g.long? name = some f) (htakes : g.takesValue f = true) (value : String) :
    s.word g ("--" ++ name ++ "=" ++ value) = s.acceptNow g f (some value) := by
  rw [word, hreading, if_neg Bool.false_ne_true, if_neg (attached_ne name value),
    longParts?_attached hname]
  simp only [hf, htakes, if_true]

lemma short_ne {letters : String} (h : letters.toList.head? ≠ some '-') :
    "-" ++ letters ≠ "--" := by
  intro heq
  have htext := congrArg String.toList heq
  have hletters : letters.toList = ['-'] := by simpa using htext
  simp [hletters] at h

/-- Where operands may begin with a hyphen, one unknown letter makes the word an operand. -/
lemma word_short {letters : String} (hreading : s.trailing = false)
    (hhead : letters.toList.head? ≠ some '-') (hsome : letters ≠ "")
    (hknown : g.hyphenOperand s.state = false ∨ ∀ c ∈ letters.toList, g.short? c ≠ none) :
    s.word g ("-" ++ letters) = s.cluster g letters.toList := by
  have hoption : (g.hyphenOperand s.state &&
      letters.toList.any fun c => (g.short? c).isNone) = false := by
    rcases hknown with hhyphen | hknown
    · rw [hhyphen, Bool.false_and]
    · rw [List.any_eq_false.mpr, Bool.and_false]
      intro c hc
      rw [Option.isNone_iff_eq_none]
      exact hknown c hc
  rw [word, hreading, if_neg Bool.false_ne_true, if_neg (short_ne hhead), longParts?_short hhead,
    shortParts?_short hhead hsome]
  simp only [hoption, Bool.false_eq_true, if_false]

lemma word_of_bare (hreading : s.trailing = false) (h : Bare g (g.hyphenOperand s.state) w) :
    s.word g w = s.valueOrPlain g w := by
  rw [word, hreading, if_neg Bool.false_ne_true]
  cases h with
  | plain hplain =>
    have hne : w ≠ "--" := by
      rintro rfl
      simp at hplain
    rw [if_neg hne, longParts?_plain hplain, shortParts?_plain hplain]
  | hyphen => rfl
  | unknownLong hhyphen hsome hname hf =>
    rw [if_neg (dashes_append_ne hsome), longParts?_name hname]
    simp only [hf, hhyphen, if_true]
  | unknownAttached hhyphen hname hf =>
    rw [if_neg (attached_ne _ _), longParts?_attached hname]
    simp only [hf, hhyphen, if_true]
  | @unknownShort letters hhyphen hhead hunknown =>
    obtain ⟨c, hc, hunknown⟩ := hunknown
    have hsome : letters ≠ "" := by
      rintro rfl
      simp at hc
    rw [if_neg (short_ne hhead), longParts?_short hhead, shortParts?_short hhead hsome]
    have hany : letters.toList.any (fun c => (g.short? c).isNone) = true := by
      rw [List.any_eq_true]
      exact ⟨c, hc, by rw [hunknown]; rfl⟩
    simp only [hhyphen, hany, Bool.and_self, if_true]

/-! ## Options that wait to be taken in -/

/-- The scan comes to a state when its last option is taken in. -/
inductive StandsAt (g : Grammar F S) : Scan F S → S → Prop
  | held (state : S) : StandsAt g ⟨state, none, false⟩ state
  | owed {state state' : S} {f : F} {value : String} :
    g.accept state f (some value) = .ok state' →
    StandsAt g ⟨state, some (f, some value), false⟩ state'

namespace StandsAt

lemma reading (h : StandsAt g s state) : s.trailing = false := by
  cases h <;> rfl

lemma resolve (h : StandsAt g s state) : s.resolve g = .ok ⟨state, none, false⟩ := by
  cases h with
  | held => rfl
  | owed haccept => simp only [Scan.resolve, haccept, Except.map]

lemma hyphen (hsteady : g.Steady) (h : StandsAt g s state) :
    g.hyphenOperand s.state = g.hyphenOperand state := by
  cases h with
  | held => rfl
  | owed haccept => exact (hsteady haccept).symm

lemma acceptNow {value : Option String} (h : StandsAt g s state)
    (haccept : g.accept state f value = .ok state') :
    s.acceptNow g f value = .ok ⟨state', none, false⟩ := by
  rw [Scan.acceptNow, h.resolve]
  show (g.accept state f value >>= _) = _
  rw [haccept]
  rfl

lemma expectValue (h : StandsAt g s state) (f : F) :
    s.expectValue g f = .ok ⟨state, some (f, none), false⟩ := by
  rw [Scan.expectValue, h.resolve]
  rfl

lemma valueOrPlain {trailing : Bool} (h : StandsAt g s state)
    (hoperand : g.operand state false w = .ok (state', trailing)) :
    s.valueOrPlain g w = .ok ⟨state', none, trailing⟩ := by
  have hplain : s.plain g w = .ok ⟨state', none, trailing⟩ := by
    rw [Scan.plain, h.resolve]
    show (g.operand state false w >>= _) = _
    rw [hoperand]
    rfl
  rw [← hplain]
  cases h <;> rfl

end StandsAt

/-! ## Reading on -/

variable {hyphen : Bool} {option : F × Option String} {group : List String}

lemma words_cons (s : Scan F S) (w : String) (rest : List String) :
    s.words g (w :: rest) = s.word g w >>= fun s => s.words g rest := by
  rw [words]
  cases s.word g w <;> rfl

lemma words_of_word {s' : Scan F S} (h : s.word g w = .ok s') (rest : List String) :
    s.words g (w :: rest) = s'.words g rest := by
  rw [words, h]

/-- The value of an option may be any word that stands for itself. -/
lemma word_of_expecting (h : Bare g (g.hyphenOperand state) w) (f : F) :
    (⟨state, some (f, none), false⟩ : Scan F S).word g w =
      .ok ⟨state, some (f, some w), false⟩ :=
  word_of_bare rfl h

lemma cluster_value {letter : Char} {cs : List Char} (hf : g.short? letter = some f)
    (htakes : g.takesValue f = true) (hcs : cs ≠ []) :
    s.cluster g (letter :: cs) = s.acceptNow g f (some (attached cs)) := by
  have hsome : cs.isEmpty = false := by simpa using hcs
  simp only [cluster, hf, htakes, hsome, Bool.not_true, Bool.false_eq_true, if_false]

lemma attached_equals (value : String) : attached ('=' :: value.toList) = value :=
  String.ofList_toList

lemma attached_joined {value : String} (h : value.toList.head? ≠ some '=') :
    attached value.toList = value := by
  unfold attached
  split
  case h_1 htext => simp [htext] at h
  case h_2 => exact String.ofList_toList

/-- An option is taken in, now or later, however it is written. -/
lemma words_of_option (hsteady : g.Steady) (h : StandsAt g s state)
    (hwritten : Written g (g.hyphenOperand state) option group)
    (haccept : g.accept state option.1 option.2 = .ok state') (rest : List String) :
    ∃ s', StandsAt g s' state' ∧ s.words g (group ++ rest) = s'.words g rest := by
  have hhyphen := h.hyphen hsteady
  -- An attached value is taken in at once; one that stands apart is only noted.
  cases hwritten with
  | switch hsome hname hf htakes =>
    refine ⟨_, .held state', words_of_word ?_ rest⟩
    rw [word_name h.reading hsome hname hf, htakes, if_neg Bool.false_ne_true]
    exact h.acceptNow haccept
  | @long name value f hsome hname hf htakes hvalue =>
    refine ⟨_, .owed haccept, ?_⟩
    have hword : s.word g ("--" ++ name) = .ok ⟨state, some (f, none), false⟩ := by
      rw [word_name h.reading hsome hname hf, htakes, if_pos rfl]
      exact h.expectValue f
    exact (words_of_word hword _).trans (words_of_word (word_of_expecting hvalue f) rest)
  | longAttached hname hf htakes =>
    refine ⟨_, .held state', words_of_word ?_ rest⟩
    rw [word_attached h.reading hname hf htakes]
    exact h.acceptNow haccept
  | @short letter value f hletter hf htakes hvalue =>
    refine ⟨_, .owed haccept, ?_⟩
    have hword : s.word g ("-" ++ String.singleton letter) =
        .ok ⟨state, some (f, none), false⟩ := by
      rw [word_short h.reading (by simpa using hletter) (by simp) (.inr (by simp [hf]))]
      simp only [String.toList_singleton, cluster, hf, htakes]
      exact h.expectValue f
    exact (words_of_word hword _).trans (words_of_word (word_of_expecting hvalue f) rest)
  | @shortEquals letter value f hplain hletter hf htakes =>
    have hletters : (String.singleton letter ++ ("=" ++ value)).toList =
        letter :: '=' :: value.toList := by simp
    refine ⟨_, .held state', words_of_word ?_ rest⟩
    rw [String.append_assoc, String.append_assoc, word_short h.reading (by simpa using hletter)
      (by simp) (.inl (hhyphen.trans hplain)), hletters, cluster_value hf htakes (by simp),
      attached_equals]
    exact h.acceptNow haccept
  | @shortJoined letter value f hplain hletter hf htakes hsome hhead =>
    have hletters : (String.singleton letter ++ value).toList = letter :: value.toList := by simp
    refine ⟨_, .held state', words_of_word ?_ rest⟩
    rw [String.append_assoc, word_short h.reading (by simpa using hletter) (by simp)
      (.inl (hhyphen.trans hplain)), hletters, cluster_value hf htakes (by simpa using hsome),
      attached_joined hhead]
    exact h.acceptNow haccept

/-- Options are taken in one by one, however they are written. -/
lemma words_of_written (hsteady : g.Steady) {options : List (F × Option String)}
    {groups : List (List String)} (h : StandsAt g s state)
    (hwritten : List.Forall₂ (Written g (g.hyphenOperand state)) options groups)
    (haccept : g.acceptAll state options = .ok state') (rest : List String) :
    ∃ s', StandsAt g s' state' ∧ s.words g (groups.flatten ++ rest) = s'.words g rest := by
  induction options generalizing s state groups with
  | nil =>
    cases hwritten
    cases haccept
    exact ⟨s, h, rfl⟩
  | cons option options ih =>
    cases hwritten with
    | @cons _ group _ groups hfirst hlater =>
      obtain ⟨between, hbetween, hall⟩ := Grammar.acceptAll_cons.mp haccept
      obtain ⟨s₁, hs₁, hread⟩ :=
        words_of_option hsteady h hfirst hbetween (groups.flatten ++ rest)
      obtain ⟨s₂, hs₂, hmore⟩ := ih hs₁ (hsteady hbetween ▸ hlater) hall
      refine ⟨s₂, hs₂, ?_⟩
      rw [List.flatten_cons, List.append_assoc, hread, hmore]

/-- A word that is no option is an operand. -/
lemma words_of_bare (hsteady : g.Steady) {trailing : Bool} (h : StandsAt g s state)
    (hbare : Bare g (g.hyphenOperand state) w)
    (hoperand : g.operand state false w = .ok (state', trailing)) (rest : List String) :
    s.words g (w :: rest) = (⟨state', none, trailing⟩ : Scan F S).words g rest := by
  refine words_of_word ?_ rest
  rw [word_of_bare h.reading (h.hyphen hsteady ▸ hbare)]
  exact h.valueOrPlain hoperand

/-- When all words are operands, each is taken in as one. -/
lemma words_of_trailing {take : S → String → S}
    (htake : ∀ state w, g.operand state true w = .ok (take state w, true))
    (htrailing : s.trailing = true) (hresolve : s.resolve g = .ok ⟨state, none, true⟩)
    (rest : List String) : s.words g rest = .ok ⟨rest.foldl take state, none, true⟩ := by
  induction rest generalizing s state with
  | nil => exact hresolve
  | cons w rest ih =>
    have hword : s.word g w = .ok ⟨take state w, none, true⟩ := by
      rw [word, htrailing, if_pos rfl, plain, hresolve]
      show (g.operand state true w >>= _) = _
      rw [htake]
      rfl
    rw [words_of_word hword, ih rfl rfl, List.foldl_cons]

/-- They are behind `--`. -/
lemma words_of_dashes {take : S → String → S}
    (htake : ∀ state w, g.operand state true w = .ok (take state w, true))
    (h : StandsAt g s state) (rest : List String) :
    s.words g ("--" :: rest) = .ok ⟨rest.foldl take state, none, true⟩ := by
  have hword : s.word g "--" = .ok { s with trailing := true } := by
    rw [word, h.reading, if_neg Bool.false_ne_true, if_pos rfl]
  rw [words_of_word hword]
  refine words_of_trailing htake rfl ?_ rest
  cases h with
  | held => rfl
  | owed haccept => simp only [resolve, haccept, Except.map]

end Scan

end Watchdog.CommandLine
