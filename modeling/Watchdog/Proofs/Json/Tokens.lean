import Mathlib.Tactic.Common
import Watchdog.Text.Json

/-!
# The tokens of JSON texts

A JSON text is made of tokens, and the tokens of a value say all of it but its layout (`tokens`).
They are read by a machine with a stack: it holds what has begun and not ended yet, outermost last.
What the machine holds stands for exactly the tokens it has taken (`State.taken`); with the
converse, that it takes the tokens of every value, it reads these and no others
(`parse_eq_some_iff`).
-/

namespace Watchdog.Json

/-- The parts of a JSON text. -/
inductive Token where
  | openArr
  | closeArr
  | openObj
  | closeObj
  | comma
  | colon
  | null
  | bool (b : Bool)
  | num (n : Int)
  | str (s : String)
deriving Repr, DecidableEq

mutual

/-- The tokens of a value. -/
def tokens : Json → List Token
  | null => [.null]
  | bool b => [.bool b]
  | num n => [.num n]
  | str s => [.str s]
  | arr items => .openArr :: itemTokens items ++ [.closeArr]
  | obj fields => .openObj :: fieldTokens fields ++ [.closeObj]

def itemTokens : List Json → List Token
  | [] => []
  | [v] => tokens v
  | v :: rest => tokens v ++ .comma :: itemTokens rest

def fieldTokens : List (String × Json) → List Token
  | [] => []
  | [(k, v)] => .str k :: .colon :: tokens v
  | (k, v) :: rest => .str k :: .colon :: tokens v ++ .comma :: fieldTokens rest

end

/-! ## The machine -/

/-- A value that has begun: what it holds before the part that is awaited. -/
inductive Frame where
  | arr (items : List Json)
  | obj (fields : List (String × Json)) (key : String)

/-- What is awaited; the innermost value that has begun stands first. -/
inductive State where
  | value (stack : List Frame)
  /-- The first item of an array, or its end. -/
  | first (stack : List Frame)
  /-- The key of the first field of an object, or its end. -/
  | firstKey (stack : List Frame)
  /-- The key of another field. -/
  | key (stack : List Frame) (fields : List (String × Json))
  | colon (stack : List Frame) (fields : List (String × Json)) (key : String)
  /-- What comes after a whole value. -/
  | next (stack : List Frame) (v : Json)

namespace State

/-- Begins a value. -/
def enter (stack : List Frame) : Token → Option State
  | .null => some (.next stack .null)
  | .bool b => some (.next stack (.bool b))
  | .num n => some (.next stack (.num n))
  | .str s => some (.next stack (.str s))
  | .openArr => some (.first stack)
  | .openObj => some (.firstKey stack)
  | _ => none

/-- Takes a token. -/
def step : State → Token → Option State
  | .value stack, t => enter stack t
  | .first stack, .closeArr => some (.next stack (.arr []))
  | .first stack, t => enter (.arr [] :: stack) t
  | .firstKey stack, .closeObj => some (.next stack (.obj []))
  | .firstKey stack, .str k => some (.colon stack [] k)
  | .key stack fields, .str k => some (.colon stack fields k)
  | .colon stack fields k, .colon => some (.value (.obj fields k :: stack))
  | .next (.arr items :: stack) v, .comma => some (.value (.arr (items ++ [v]) :: stack))
  | .next (.arr items :: stack) v, .closeArr => some (.next stack (.arr (items ++ [v])))
  | .next (.obj fields k :: stack) v, .comma => some (.key stack (fields ++ [(k, v)]))
  | .next (.obj fields k :: stack) v, .closeObj => some (.next stack (.obj (fields ++ [(k, v)])))
  | _, _ => none

/-- Takes tokens, one after the other. -/
def run (s : State) (toks : List Token) : Option State := toks.foldlM step s

lemma run_cons (s : State) (t : Token) (toks : List Token) :
    s.run (t :: toks) = (s.step t).bind (·.run toks) :=
  List.foldlM_cons

lemma run_append (s : State) (toks more : List Token) :
    s.run (toks ++ more) = (s.run toks).bind (·.run more) :=
  List.foldlM_append

end State

/-- The value whose tokens these are. -/
def parse (toks : List Token) : Option Json :=
  match State.run (.value []) toks with
  | some (.next [] v) => some v
  | _ => none

/-! ## Only the tokens of values are read -/

/-- The tokens of what stands before something else. -/
def itemsBefore (items : List Json) : List Token := items.flatMap (tokens · ++ [.comma])

def fieldsBefore (fields : List (String × Json)) : List Token :=
  fields.flatMap fun f => .str f.1 :: .colon :: tokens f.2 ++ [.comma]

lemma itemTokens_concat (items : List Json) (v : Json) :
    itemTokens (items ++ [v]) = itemsBefore items ++ tokens v := by
  induction items with
  | nil => rfl
  | cons w items ih =>
    cases hitems : items ++ [v] with
    | nil => simp at hitems
    | cons x rest =>
      rw [List.cons_append, hitems, itemTokens, ← hitems, ih]
      · simp [itemsBefore]
      · exact List.cons_ne_nil x rest

lemma fieldTokens_concat (fields : List (String × Json)) (k : String) (v : Json) :
    fieldTokens (fields ++ [(k, v)]) = fieldsBefore fields ++ .str k :: .colon :: tokens v := by
  induction fields with
  | nil => rfl
  | cons f fields ih =>
    cases hfields : fields ++ [(k, v)] with
    | nil => simp at hfields
    | cons x rest =>
      rw [List.cons_append, hfields, fieldTokens, ← hfields, ih]
      · simp [fieldsBefore]
      · exact List.cons_ne_nil x rest

/-- The tokens that a value that has begun stands for. -/
def Frame.taken : Frame → List Token
  | .arr items => .openArr :: itemsBefore items
  | .obj fields k => .openObj :: fieldsBefore fields ++ [.str k, .colon]

def stackTaken : List Frame → List Token
  | [] => []
  | f :: stack => stackTaken stack ++ f.taken

/-- The tokens that the machine has taken. -/
def State.taken : State → List Token
  | .value stack => stackTaken stack
  | .first stack => stackTaken stack ++ [.openArr]
  | .firstKey stack => stackTaken stack ++ [.openObj]
  | .key stack fields => stackTaken stack ++ .openObj :: fieldsBefore fields
  | .colon stack fields k => stackTaken stack ++ .openObj :: fieldsBefore fields ++ [.str k]
  | .next stack v => stackTaken stack ++ tokens v

lemma State.taken_enter {stack : List Frame} {t : Token} {s : State} (h : enter stack t = some s) :
    s.taken = stackTaken stack ++ [t] := by
  cases t <;> simp only [enter, Option.some.injEq, reduceCtorEq] at h <;> subst h <;> rfl

/-- What the machine holds is what it has taken. -/
lemma State.taken_step {s s' : State} {t : Token} (h : s.step t = some s') :
    s'.taken = s.taken ++ [t] := by
  revert h
  fun_cases step s t with
  | case1 stack t => exact State.taken_enter
  | case3 stack t =>
    intro h
    rw [State.taken_enter h]
    rfl
  | case9 items stack v =>
    intro h
    obtain rfl := Option.some.inj h
    simp [State.taken, stackTaken, Frame.taken, tokens, itemTokens_concat]
  | case11 fields k stack v =>
    intro h
    obtain rfl := Option.some.inj h
    simp [State.taken, stackTaken, Frame.taken, tokens, fieldTokens_concat]
  | case12 => exact nofun
  | _ =>
    intro h
    obtain rfl := Option.some.inj h
    simp [State.taken, stackTaken, Frame.taken, itemsBefore, fieldsBefore, tokens, itemTokens,
      fieldTokens]

lemma State.taken_run {s s' : State} {toks : List Token} (h : s.run toks = some s') :
    s'.taken = s.taken ++ toks := by
  induction toks generalizing s with
  | nil =>
    obtain rfl := Option.some.inj h
    exact (List.append_nil _).symm
  | cons t toks ih =>
    rw [run_cons, Option.bind_eq_some_iff] at h
    obtain ⟨next, hstep, hrun⟩ := h
    rw [ih hrun, State.taken_step hstep, List.append_assoc]
    rfl

/-! ## The tokens of every value are read -/

/-- After the opening bracket an item is read as it is after a comma. -/
lemma State.run_first (stack : List Frame) (v : Json) (rest : List Json) (more : List Token) :
    State.run (.first stack) (itemTokens (v :: rest) ++ more) =
      State.run (.value (.arr [] :: stack)) (itemTokens (v :: rest) ++ more) := by
  obtain ⟨after, hafter⟩ : ∃ after, itemTokens (v :: rest) = tokens v ++ after := by
    cases rest with
    | nil => exact ⟨[], (List.append_nil _).symm⟩
    | cons w rest => exact ⟨_, rfl⟩
  rw [hafter, List.append_assoc]
  cases v <;> rfl

mutual

/-- The tokens of a value lead from where it is awaited to what comes after it. -/
lemma State.run_tokens :
    (v : Json) → ∀ stack, State.run (.value stack) (tokens v) = some (.next stack v)
  | .null, _ => rfl
  | .bool _, _ => rfl
  | .num _, _ => rfl
  | .str _, _ => rfl
  | .arr [], _ => rfl
  | .arr (v :: rest), stack => by
    have hitems := State.run_items (v :: rest) (List.cons_ne_nil v rest) stack []
    rwa [← State.run_first] at hitems
  | .obj [], _ => rfl
  | .obj (f :: rest), stack => by
    have hfields := State.run_fields (f :: rest) (List.cons_ne_nil f rest) stack []
    cases rest <;> exact hfields

lemma State.run_items :
    (items : List Json) → items ≠ [] → ∀ stack before,
      State.run (.value (.arr before :: stack)) (itemTokens items ++ [.closeArr]) =
        some (.next stack (.arr (before ++ items)))
  | [], hnone, _, _ => absurd rfl hnone
  | [v], _, stack, before => by
    rw [itemTokens, State.run_append, State.run_tokens v]
    rfl
  | v :: w :: rest, _, stack, before => by
    have hrest := State.run_items (w :: rest) (List.cons_ne_nil w rest) stack (before ++ [v])
    rw [List.append_assoc] at hrest
    rw [itemTokens, List.append_assoc, State.run_append, State.run_tokens v]
    · exact hrest
    · exact List.cons_ne_nil w rest

lemma State.run_fields :
    (fields : List (String × Json)) → fields ≠ [] → ∀ stack before,
      State.run (.key stack before) (fieldTokens fields ++ [.closeObj]) =
        some (.next stack (.obj (before ++ fields)))
  | [], hnone, _, _ => absurd rfl hnone
  | [(k, v)], _, stack, before => by
    have hkey : State.run (.key stack before) (fieldTokens [(k, v)] ++ [.closeObj]) =
        State.run (.value (.obj before k :: stack)) (tokens v ++ [.closeObj]) := rfl
    rw [hkey, State.run_append, State.run_tokens v]
    rfl
  | (k, v) :: f :: rest, _, stack, before => by
    have hkey : State.run (.key stack before) (fieldTokens ((k, v) :: f :: rest) ++ [.closeObj]) =
        State.run (.value (.obj before k :: stack))
          (tokens v ++ .comma :: (fieldTokens (f :: rest) ++ [.closeObj])) := by
      rw [← List.cons_append, ← List.append_assoc]
      rfl
    have hrest := State.run_fields (f :: rest) (List.cons_ne_nil f rest) stack (before ++ [(k, v)])
    rw [List.append_assoc] at hrest
    rw [hkey, State.run_append, State.run_tokens v]
    exact hrest

end

/-- **Tokens determine the value.**  Exactly the tokens of a value are read as that value. -/
theorem parse_eq_some_iff (toks : List Token) (v : Json) :
    parse toks = some v ↔ toks = tokens v := by
  constructor
  · intro h
    unfold parse at h
    split at h
    · rename_i w hrun
      obtain rfl := Option.some.inj h
      exact (State.taken_run hrun).symm
    · exact nomatch h
  · rintro rfl
    rw [parse, State.run_tokens]

/-! ## Numbers stand apart -/

def Token.isNum : Token → Bool
  | num _ => true
  | _ => false

/-- After a number comes no other. -/
lemma State.step_step_num (s : State) (n m : Int) :
    (s.step (.num n)).bind (·.step (.num m)) = none := by
  cases s with
  | value stack => cases stack with
    | nil => rfl
    | cons f stack => cases f <;> rfl
  | first stack => rfl
  | next stack v => cases stack with
    | nil => rfl
    | cons f stack => cases f <;> rfl
  | _ => rfl

lemma State.apart_of_run {s s' : State} {toks : List Token} (h : s.run toks = some s') :
    toks.IsChain fun t u => ¬ (t.isNum ∧ u.isNum) := by
  induction toks generalizing s with
  | nil => exact .nil
  | cons t toks ih =>
    rw [run_cons, Option.bind_eq_some_iff] at h
    obtain ⟨next, hstep, hrun⟩ := h
    cases toks with
    | nil => exact .singleton t
    | cons u toks =>
      refine .cons_cons ?_ (ih hrun)
      rintro ⟨ht, hu⟩
      cases t with
      | num n =>
        cases u with
        | num m =>
          have hnone := s.step_step_num n m
          rw [hstep, Option.bind_some] at hnone
          rw [run_cons, hnone] at hrun
          exact nomatch hrun
        | _ => exact nomatch hu
      | _ => exact nomatch ht

/-- No two numbers stand side by side in the tokens of a value. -/
lemma apart_tokens (v : Json) : (tokens v).IsChain fun t u => ¬ (t.isNum ∧ u.isNum) :=
  State.apart_of_run (State.run_tokens v [])

end Watchdog.Json
