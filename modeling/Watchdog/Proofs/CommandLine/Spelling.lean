import Watchdog.Proofs.CommandLine.Scan

/-!
# Options as they are read

A line of options is read if it is written in one of the ways there are (`Scan.words_of_written`).
This module goes the other way: what is read as options is written so (`Scan.spelled_of_words`), and
no way to write them has been forgotten.  The argument follows the scan from its end.  What a scan
still wants of a line is options, or first a value if it waits for one (`Completes`); a word in front
of what it wants is what it wanted before that word (`Scan.completes_cons`).

Before that come two views of a scan for any grammar: what holds of all states and mistakes that it
comes to (`Keeps`), and what a single word can be to it (`Reads`).
-/

namespace Watchdog.CommandLine

/-! ## What a scan keeps -/

/-- The one property holds if it goes on, the other of the mistake that ends it. -/
def Post {α : Type} (P : α → Prop) (E : Stop → Prop) : Except Stop α → Prop
  | .ok a => P a
  | .error e => E e

section Post

variable {α β : Type} {P : α → Prop} {Q : β → Prop} {E : Stop → Prop} {x : Except Stop α}

lemma Post.bind {f : α → Except Stop β} (hx : Post P E x) (hf : ∀ a, P a → Post Q E (f a)) :
    Post Q E (x >>= f) := by
  cases x with
  | error e => exact hx
  | ok a => exact hf a hx

lemma Post.map {f : α → β} (hx : Post P E x) (hf : ∀ a, P a → Q (f a)) : Post Q E (x.map f) := by
  cases x with
  | error e => exact hx
  | ok a => exact hf a hx

end Post

variable {F S : Type}

/-- Whatever is taken in keeps the one property, and all mistakes have the other. -/
structure Keeps (g : Grammar F S) (P : S → Prop) (E : Stop → Prop) : Prop where
  accept : ∀ state f value, P state → Post P E (g.accept state f value)
  operand : ∀ state trailing w, P state → Post (fun taken => P taken.1) E (g.operand state trailing w)
  missingValue : ∀ option, E (.missingValue option)
  unknownArgument : ∀ w, E (.unknownArgument w)
  unexpectedValue : ∀ value option, E (.unexpectedValue value option)

namespace Keeps

variable {g : Grammar F S} {P : S → Prop} {E : Stop → Prop} {s : Scan F S}

lemma resolve (h : Keeps g P E) (hs : P s.state) : Post (fun s => P s.state) E (s.resolve g) := by
  unfold Scan.resolve
  split
  · exact hs
  · exact h.missingValue _
  · exact (h.accept _ _ _ hs).map fun _ htaken => htaken

lemma acceptNow (h : Keeps g P E) (hs : P s.state) (f : F) (value : Option String) :
    Post (fun s => P s.state) E (s.acceptNow g f value) :=
  (h.resolve hs).bind fun _ hs => (h.accept _ f value hs).bind fun _ htaken => htaken

lemma expectValue (h : Keeps g P E) (hs : P s.state) (f : F) :
    Post (fun s => P s.state) E (s.expectValue g f) :=
  (h.resolve hs).bind fun _ hs => hs

lemma plain (h : Keeps g P E) (hs : P s.state) (w : String) :
    Post (fun s => P s.state) E (s.plain g w) :=
  (h.resolve hs).bind fun _ hs => (h.operand _ _ w hs).bind fun _ htaken => htaken

lemma valueOrPlain (h : Keeps g P E) (hs : P s.state) (w : String) :
    Post (fun s => P s.state) E (s.valueOrPlain g w) := by
  unfold Scan.valueOrPlain
  split
  · exact hs
  · exact h.plain hs w

lemma cluster (h : Keeps g P E) (letters : List Char) (hs : P s.state) :
    Post (fun s => P s.state) E (s.cluster g letters) := by
  induction letters generalizing s with
  | nil => exact hs
  | cons c cs ih =>
    rw [Scan.cluster]
    split
    · exact h.unknownArgument _
    · rename_i f _
      have hnow := h.acceptNow hs f none
      split
      · cases hread : s.acceptNow g f none with
        | error e => rwa [hread] at hnow
        | ok s' =>
          rw [hread] at hnow
          exact ih hnow
      · split
        · exact h.expectValue hs f
        · exact h.acceptNow hs f _

lemma word (h : Keeps g P E) (hs : P s.state) (w : String) :
    Post (fun s => P s.state) E (s.word g w) := by
  unfold Scan.word
  repeat' split
  all_goals
    first
    | exact h.plain hs w
    | exact h.valueOrPlain hs w
    | exact h.acceptNow hs _ _
    | exact h.expectValue hs _
    | exact h.cluster _ hs
    | exact h.unknownArgument _
    | exact h.unexpectedValue _ _
    | exact hs

lemma words (h : Keeps g P E) (hs : P s.state) (argv : List String) :
    Post (fun s => P s.state) E (s.words g argv) := by
  induction argv generalizing s with
  | nil => exact h.resolve hs
  | cons w rest ih =>
    rw [Scan.words_cons]
    exact (h.word hs w).bind fun _ hs => ih hs

end Keeps

namespace Grammar

/-- With an operand, operands may begin with a hyphen. -/
def Opens (g : Grammar F S) : Prop :=
  ∀ state trailing w,
    Post (fun taken => g.hyphenOperand taken.1 = true) (fun _ => True) (g.operand state trailing w)

/-- Letters of switches, which may share a hyphen with others, are never taken in. -/
def Unclustered (g : Grammar F S) : Prop :=
  ∀ ⦃letter f⦄, g.short? letter = some f → g.takesValue f = false →
    ∀ state, ∃ e, g.accept state f none = .error e

variable {g : Grammar F S}

/-- What follows an operand does not undo that. -/
lemma keeps_hyphen (hsteady : g.Steady) (hopens : g.Opens) :
    Keeps g (g.hyphenOperand · = true) fun _ => True where
  accept := by
    intro state f value hstate
    cases haccept : g.accept state f value with
    | error e => trivial
    | ok state' => exact (hsteady haccept).trans hstate
  operand := fun state trailing w _ => hopens state trailing w
  missingValue := fun _ => trivial
  unknownArgument := fun _ => trivial
  unexpectedValue := fun _ _ => trivial

end Grammar

/-! ## What a word can be -/

/-- The forms of words. -/
inductive WordForm : String → Prop
  | plain {word : String} : word.toList.head? ≠ some '-' → WordForm word
  | hyphen : WordForm "-"
  | dashes : WordForm "--"
  | long {name : String} : name ≠ "" → '=' ∉ name.toList → WordForm ("--" ++ name)
  | attached {name : String} (value : String) :
    '=' ∉ name.toList → WordForm ("--" ++ name ++ "=" ++ value)
  | short {letter : Char} (rest : String) :
    letter ≠ '-' → WordForm ("-" ++ String.singleton letter ++ rest)

lemma wordForm (word : String) : WordForm word := by
  match htext : word.toList with
  | [] => exact .plain (by simp [htext])
  | c :: cs =>
    by_cases hc : c = '-'
    swap
    · exact .plain (by simpa [htext] using hc)
    subst hc
    match cs with
    | [] =>
      obtain rfl : word = "-" := String.toList_inj.mp htext
      exact .hyphen
    | d :: ds =>
      by_cases hd : d = '-'
      · obtain rfl : word = "--" ++ String.ofList ds := by
          rw [← String.toList_inj, htext, hd]
          simp
        obtain hname | ⟨name, value, hname, hds⟩ := exists_first_equals (String.ofList ds)
        · by_cases hsome : String.ofList ds = ""
          · rw [hsome]
            exact .dashes
          · exact .long hsome hname
        · rw [hds, ← String.append_assoc, ← String.append_assoc]
          exact .attached value hname
      · obtain rfl : word = "-" ++ String.singleton d ++ String.ofList ds := by
          rw [← String.toList_inj, htext]
          simp
        exact .short _ hd

/-- What a word other than `--` is to a scan that does not allow hyphens. -/
inductive Reads (g : Grammar F S) (s : Scan F S) (w : String) : Prop
  | refused {e : Stop} : s.word g w = .error e → Reads g s w
  | bare : Bare g false w → Reads g s w
  | now {f : F} {value : Option String} :
    Written g false (f, value) [w] → s.word g w = s.acceptNow g f value → Reads g s w
  | later {f : F} :
    (∀ value, Bare g false value → Written g false (f, some value) [w, value]) →
    s.word g w = s.expectValue g f → Reads g s w

namespace Scan

variable {g : Grammar F S} {s s' : Scan F S} {state : S} {f : F} {w : String}

lemma acceptNow_eq_ok {value : Option String} (h : s.acceptNow g f value = .ok s') :
    ∃ before state, s.resolve g = .ok before ∧ g.accept before.state f value = .ok state ∧
      s' = { before with state := state } := by
  obtain ⟨before, hbefore, h⟩ := bind_eq_ok_iff.mp h
  obtain ⟨state, haccept, h⟩ := bind_eq_ok_iff.mp h
  exact ⟨before, state, hbefore, haccept, (Except.ok.inj h).symm⟩

/-- The value attached to a letter is written with an equals sign or without. -/
lemma written_attached {letter : Char} {rest : String} (hletter : letter ≠ '-')
    (hf : g.short? letter = some f) (htakes : g.takesValue f = true) (hsome : rest ≠ "") :
    Written g false (f, some (attached rest.toList)) ["-" ++ String.singleton letter ++ rest] := by
  by_cases hhead : rest.toList.head? = some '='
  · obtain ⟨value, hvalue⟩ : ∃ value : String, rest = "=" ++ value := by
      obtain ⟨cs, hcs⟩ := List.head?_eq_some_iff.mp hhead
      refine ⟨String.ofList cs, ?_⟩
      rw [← String.toList_inj, hcs]
      simp
    have hattached : attached rest.toList = value := by
      rw [hvalue, String.toList_append]
      exact attached_equals value
    rw [hattached, hvalue, ← String.append_assoc]
    exact .shortEquals rfl hletter hf htakes
  · rw [attached_joined hhead]
    exact .shortJoined rfl hletter hf htakes hsome hhead

lemma reads_short {letter : Char} (hun : g.Unclustered) (hreading : s.trailing = false)
    (hhyphen : g.hyphenOperand s.state = false) (hletter : letter ≠ '-') (rest : String) :
    Reads g s ("-" ++ String.singleton letter ++ rest) := by
  have hword : s.word g ("-" ++ String.singleton letter ++ rest) =
      s.cluster g (letter :: rest.toList) := by
    rw [String.append_assoc, word_short hreading (by simpa using hletter) (by simp) (.inl hhyphen)]
    simp
  cases hf : g.short? letter with
  | none =>
    refine .refused (e := .unknownArgument (String.ofList ['-', letter])) ?_
    rw [hword, cluster, hf]
  | some f =>
    cases htakes : g.takesValue f with
    | false =>
      cases hnow : s.acceptNow g f none with
      | ok s' =>
        obtain ⟨before, state, -, haccept, -⟩ := acceptNow_eq_ok hnow
        obtain ⟨e, he⟩ := hun hf htakes before.state
        rw [he] at haccept
        cases haccept
      | error e =>
        refine .refused (e := e) ?_
        simp only [hword, cluster, hf, htakes, hnow, Bool.not_false, if_true]
    | true =>
      by_cases hsome : rest = ""
      · subst hsome
        rw [String.append_empty] at hword ⊢
        refine .later (fun value hvalue => .short hletter hf htakes hvalue) (hword.trans ?_)
        simp only [cluster, hf, htakes]
        rfl
      · refine .now (written_attached hletter hf htakes hsome) (hword.trans ?_)
        exact cluster_value hf htakes (by simpa using hsome)

lemma reads (hun : g.Unclustered) (hreading : s.trailing = false)
    (hhyphen : g.hyphenOperand s.state = false) (hw : w ≠ "--") : Reads g s w := by
  cases wordForm w with
  | plain hplain => exact .bare (.plain hplain)
  | hyphen => exact .bare .hyphen
  | dashes => exact absurd rfl hw
  | @long name hsome hname =>
    cases hf : g.long? name with
    | none =>
      refine .refused (e := .unknownArgument ("--" ++ name)) ?_
      rw [word, hreading, if_neg Bool.false_ne_true, if_neg hw, longParts?_name hname]
      simp only [hf, hhyphen, Bool.false_eq_true, if_false]
    | some f =>
      have hword := word_name hreading hsome hname hf
      cases htakes : g.takesValue f with
      | false =>
        rw [htakes, if_neg Bool.false_ne_true] at hword
        exact .now (.switch hsome hname hf htakes) hword
      | true =>
        rw [htakes, if_pos rfl] at hword
        exact .later (fun value hvalue => .long hsome hname hf htakes hvalue) hword
  | @attached name value hname =>
    cases hf : g.long? name with
    | none =>
      refine .refused (e := .unknownArgument ("--" ++ name)) ?_
      rw [word, hreading, if_neg Bool.false_ne_true, if_neg hw, longParts?_attached hname]
      simp only [hf, hhyphen, Bool.false_eq_true, if_false]
    | some f =>
      cases htakes : g.takesValue f with
      | false =>
        refine .refused (e := .unexpectedValue value (g.shown f)) ?_
        rw [word, hreading, if_neg Bool.false_ne_true, if_neg hw, longParts?_attached hname]
        simp only [hf, htakes, Bool.false_eq_true, if_false]
      | true => exact .now (.longAttached hname hf htakes) (word_attached hreading hname hf htakes _)
  | @short letter rest hletter => exact reads_short hun hreading hhyphen hletter rest

/-! ## From what was read to how it was written -/

end Scan

variable {g : Grammar F S} {s s' : Scan F S} {state state' : S} {f : F} {w : String}
  {argv : List String}

/-- The line writes options that lead from one state to the other. -/
def Spelled (g : Grammar F S) (state : S) (argv : List String) (state' : S) : Prop :=
  ∃ options groups, argv = List.flatten groups ∧
    List.Forall₂ (Written g false) options groups ∧ g.acceptAll state options = .ok state'

lemma Spelled.nil (state : S) : Spelled g state [] state := ⟨[], [], rfl, .nil, rfl⟩

lemma Spelled.cons {value : Option String} {group : List String} {between : S}
    (hwritten : Written g false (f, value) group) (haccept : g.accept state f value = .ok between)
    (h : Spelled g between argv state') : Spelled g state (group ++ argv) state' := by
  obtain ⟨options, groups, rfl, hgroups, hall⟩ := h
  exact ⟨(f, value) :: options, group :: groups, rfl, .cons hwritten hgroups,
    Grammar.acceptAll_cons.mpr ⟨between, haccept, hall⟩⟩

/-- The line is what a scan still wants: options, behind a value if it waits for one. -/
inductive Completes (g : Grammar F S) (state' : S) : Scan F S → List String → Prop
  | standing {s : Scan F S} {state : S} {argv : List String} :
    Scan.StandsAt g s state → Spelled g state argv state' → Completes g state' s argv
  | awaiting {state : S} {f : F} {value : String} {rest : List String} :
    Bare g false value → Completes g state' ⟨state, some (f, some value), false⟩ rest →
    Completes g state' ⟨state, some (f, none), false⟩ (value :: rest)

namespace Scan

lemma standsAt_of_resolve {before : Scan F S} (hreading : s.trailing = false)
    (h : s.resolve g = .ok before) :
    StandsAt g s before.state ∧ before = ⟨before.state, none, false⟩ := by
  obtain ⟨state, pending, trailing⟩ := s
  obtain rfl : trailing = false := hreading
  match pending with
  | none =>
    obtain rfl := Except.ok.inj h
    exact ⟨.held state, rfl⟩
  | some (f, none) => cases h
  | some (f, some value) =>
    obtain ⟨state', haccept, rfl⟩ := map_eq_ok_iff.mp h
    exact ⟨.owed haccept, rfl⟩

lemma acceptNow_of_standing {value : Option String} (hreading : s.trailing = false)
    (h : s.acceptNow g f value = .ok s') :
    ∃ state state', StandsAt g s state ∧ g.accept state f value = .ok state' ∧
      s' = ⟨state', none, false⟩ := by
  obtain ⟨before, state', hresolve, haccept, rfl⟩ := acceptNow_eq_ok h
  obtain ⟨hstands, hbefore⟩ := standsAt_of_resolve hreading hresolve
  refine ⟨before.state, state', hstands, haccept, ?_⟩
  rw [hbefore]

lemma expectValue_of_standing (hreading : s.trailing = false)
    (h : s.expectValue g f = .ok s') :
    ∃ state, StandsAt g s state ∧ s' = ⟨state, some (f, none), false⟩ := by
  obtain ⟨before, hresolve, h⟩ := bind_eq_ok_iff.mp h
  obtain ⟨hstands, hbefore⟩ := standsAt_of_resolve hreading hresolve
  refine ⟨before.state, hstands, ?_⟩
  rw [← Except.ok.inj h, hbefore]

/-- A word that stands for itself is the value that is waited for; as an operand, it would let
operands begin with a hyphen. -/
lemma pending_of_bare (hopens : g.Opens) (hend : g.hyphenOperand s'.state = false)
    (h : s.valueOrPlain g w = .ok s') :
    ∃ f, s.pending = some (f, none) ∧ s' = { s with pending := some (f, some w) } := by
  unfold valueOrPlain at h
  split at h
  case h_1 f hpending => exact ⟨f, hpending, (Except.ok.inj h).symm⟩
  case h_2 =>
    have hresolve : Post (fun _ => True) (fun _ => True) (s.resolve g) := by
      cases s.resolve g <;> trivial
    have hplain : Post (fun s => g.hyphenOperand s.state = true) (fun _ => True) (s.plain g w) :=
      hresolve.bind fun _ _ => (hopens _ _ w).bind fun _ hstate => hstate
    rw [h] at hplain
    exact absurd (hplain : _ = true) (Bool.eq_false_iff.mp hend)

/-- What completes a scan behind a word completes it before that word. -/
lemma completes_cons (hopens : g.Opens) (hun : g.Unclustered) (hreading : s.trailing = false)
    (hhyphen : g.hyphenOperand s.state = false) (hend : g.hyphenOperand s'.state = false)
    (hw : w ≠ "--") (h : s.word g w = .ok s') :
    s'.trailing = false ∧
      ∀ rest, Completes g state' s' rest → Completes g state' s (w :: rest) := by
  cases reads hun hreading hhyphen hw with
  | refused hrefused =>
    rw [hrefused] at h
    cases h
  | bare hbare =>
    rw [word_of_bare hreading (by rwa [hhyphen])] at h
    obtain ⟨f, hpending, rfl⟩ := pending_of_bare hopens hend h
    refine ⟨hreading, fun rest hrest => ?_⟩
    obtain ⟨state, pending, trailing⟩ := s
    obtain rfl : trailing = false := hreading
    obtain rfl : pending = some (f, none) := hpending
    exact .awaiting hbare hrest
  | now hwritten hnow =>
    obtain ⟨state, state₁, hstands, haccept, rfl⟩ := acceptNow_of_standing hreading (hnow ▸ h)
    refine ⟨rfl, fun rest hrest => ?_⟩
    cases hrest with
    | standing hstate hspelled =>
      cases hstate
      exact .standing hstands (hspelled.cons hwritten haccept)
  | later hwritten hlater =>
    obtain ⟨state, hstands, rfl⟩ := expectValue_of_standing hreading (hlater ▸ h)
    refine ⟨rfl, fun rest hrest => ?_⟩
    cases hrest with
    | standing hstate => cases hstate
    | awaiting hvalue hrest =>
      cases hrest with
      | standing hstate hspelled =>
        cases hstate with
        | owed haccept => exact .standing hstands (hspelled.cons (hwritten _ hvalue) haccept)

/-- A line that is read without an operand writes options. -/
lemma completes_of_words (hsteady : g.Steady) (hopens : g.Opens) (hun : g.Unclustered)
    (hreading : s.trailing = false) (hdashes : "--" ∉ argv) (h : s.words g argv = .ok s')
    (hend : g.hyphenOperand s'.state = false) : Completes g s'.state s argv := by
  -- That operands may begin with a hyphen would last to the end.
  have hclosed : ∀ {s : Scan F S} {argv}, s.words g argv = .ok s' →
      g.hyphenOperand s.state = false := by
    intro s argv hread
    rw [Bool.eq_false_iff]
    intro hstate
    have hkept := (Grammar.keeps_hyphen hsteady hopens).words hstate argv
    rw [hread] at hkept
    exact Bool.eq_false_iff.mp hend hkept
  induction argv generalizing s with
  | nil => exact .standing (standsAt_of_resolve hreading h).1 (.nil _)
  | cons w rest ih =>
    rw [List.mem_cons, not_or] at hdashes
    have hhyphen := hclosed h
    rw [words_cons] at h
    obtain ⟨between, hword, h⟩ := bind_eq_ok_iff.mp h
    obtain ⟨hreading', hcons⟩ :=
      completes_cons hopens hun hreading hhyphen (hclosed h) (Ne.symm hdashes.1) hword
    exact hcons rest (ih hreading' hdashes.2 h)

/-- **What is read as options is written as options.** -/
theorem spelled_of_words (hsteady : g.Steady) (hopens : g.Opens) (hun : g.Unclustered)
    (hdashes : "--" ∉ argv) (h : (start state).words g argv = .ok s')
    (hend : g.hyphenOperand s'.state = false) : Spelled g state argv s'.state := by
  cases completes_of_words hsteady hopens hun rfl hdashes h hend with
  | standing hstands hspelled =>
    cases hstands
    exact hspelled

lemma ne_dashes_of_bare (h : Bare g false w) : w ≠ "--" := by
  cases h with
  | plain hplain =>
    rintro rfl
    simp at hplain
  | hyphen => decide
  | unknownLong hhyphen => cases hhyphen
  | unknownAttached hhyphen => cases hhyphen
  | unknownShort hhyphen => cases hhyphen

/-- No way to write an option ends the options. -/
lemma notMem_of_written {option : F × Option String} {group : List String}
    (h : Written g false option group) : "--" ∉ group := by
  -- Whatever stands behind the letter of a short option.
  have hshort : ∀ {letter : Char}, letter ≠ '-' → ∀ rest,
      "-" ++ (String.singleton letter ++ rest) ≠ "--" :=
    fun hletter rest => short_ne (by simpa using hletter)
  cases h with
  | switch hsome => simpa using (dashes_append_ne hsome).symm
  | long hsome _ _ _ hvalue =>
    simpa using ⟨(dashes_append_ne hsome).symm, (ne_dashes_of_bare hvalue).symm⟩
  | longAttached => simpa using (attached_ne _ _).symm
  | short hletter _ _ hvalue =>
    have hletters := hshort hletter ""
    rw [String.append_empty] at hletters
    rw [List.mem_cons, List.mem_singleton, not_or]
    exact ⟨hletters.symm, (ne_dashes_of_bare hvalue).symm⟩
  | shortEquals _ hletter =>
    rw [List.mem_singleton, String.append_assoc, String.append_assoc]
    exact (hshort hletter _).symm
  | shortJoined _ hletter =>
    rw [List.mem_singleton, String.append_assoc]
    exact (hshort hletter _).symm

lemma notMem_flatten_of_written {options : List (F × Option String)} {groups : List (List String)}
    (h : List.Forall₂ (Written g false) options groups) : "--" ∉ groups.flatten := by
  induction h with
  | nil => exact List.not_mem_nil
  | cons hfirst _ ih =>
    rw [List.flatten_cons, List.mem_append, not_or]
    exact ⟨notMem_of_written hfirst, ih⟩

end Scan

end Watchdog.CommandLine
