import Mathlib.Tactic.Lemma
import Watchdog.Launch.Options

/-!
# The environment of a command

Changes to the environment are made one after the other, each to one variable.  So for each variable
it is the last change to it that counts (`value?_apply_of_last`), and without one it has the value
it was inherited with (`value?_apply_of_notMem`).
-/

namespace Watchdog

namespace Environment

variable {env : Environment} {changes earlier later : List EnvChange} {key : String}

lemma value?_cons (pair : String × String) (env : Environment) (key : String) :
    value? (pair :: env) key = if pair.1 = key then some pair.2 else value? env key := by
  unfold value?
  by_cases h : pair.1 = key
  · rw [List.find?_cons_of_pos (by simpa using h), if_pos h]
    rfl
  · rw [List.find?_cons_of_neg (by simpa using h), if_neg h]

lemma value?_append (env more : Environment) (key : String) :
    value? (env ++ more) key = (value? env key).or (value? more key) := by
  rw [value?, List.find?_append, Option.map_or]
  rfl

lemma value?_remove (env : Environment) (gone key : String) :
    (env.remove gone).value? key = if key = gone then none else env.value? key := by
  induction env with
  | nil => exact (ite_self none).symm
  | cons pair env ih =>
    by_cases hpair : pair.1 = gone
    · have hdropped : remove (pair :: env) gone = remove env gone := by simp [remove, hpair]
      rw [hdropped, ih, value?_cons, hpair]
      by_cases hkey : key = gone
      · rw [if_pos hkey, if_pos hkey]
      · rw [if_neg hkey, if_neg hkey, if_neg (Ne.symm hkey)]
    · have hkept : remove (pair :: env) gone = pair :: remove env gone := by simp [remove, hpair]
      rw [hkept, value?_cons, value?_cons, ih]
      by_cases hkey : key = gone
      · rw [if_neg (hkey ▸ hpair), if_pos hkey, if_pos hkey]
      · rw [if_neg hkey, if_neg hkey]

lemma value?_set (env : Environment) (changed value key : String) :
    (env.set changed value).value? key = if key = changed then some value else env.value? key := by
  rw [set, value?_append, value?_remove, value?_cons]
  by_cases hkey : key = changed
  · rw [if_pos hkey, if_pos hkey, if_pos hkey.symm, Option.none_or]
  · rw [if_neg hkey, if_neg hkey, if_neg (Ne.symm hkey)]
    exact Option.or_none

/-- A change is made to one variable. -/
lemma value?_change (env : Environment) (c : EnvChange) (key : String) :
    (env.change c).value? key = if key = c.1 then c.2 else env.value? key := by
  obtain ⟨changed, _ | value⟩ := c
  · exact value?_remove env changed key
  · exact value?_set env changed value key

lemma apply_append (env : Environment) (earlier later : List EnvChange) :
    env.apply (earlier ++ later) = (env.apply earlier).apply later :=
  List.foldl_append

/-- A variable that nothing changes is inherited. -/
lemma value?_apply_of_notMem (h : key ∉ changes.map Prod.fst) :
    (env.apply changes).value? key = env.value? key := by
  induction changes generalizing env with
  | nil => rfl
  | cons c changes ih =>
    rw [List.map_cons, List.mem_cons, not_or] at h
    show ((env.change c).apply changes).value? key = _
    rw [ih h.2, value?_change, if_neg h.1]

/-- The last change to a variable decides about it. -/
lemma value?_apply_of_last (env : Environment) (earlier : List EnvChange) (value : Option String)
    (h : key ∉ later.map Prod.fst) :
    (env.apply (earlier ++ (key, value) :: later)).value? key = value := by
  rw [apply_append]
  show (((env.apply earlier).change (key, value)).apply later).value? key = value
  rw [value?_apply_of_notMem h, value?_change, if_pos rfl]

/-- Variables that are removed last are gone, in whatever order that happens. -/
lemma value?_apply_removals (env : Environment) (keys : List String) (key : String) :
    (env.apply (keys.map (·, none))).value? key =
      if key ∈ keys then none else env.value? key := by
  induction keys generalizing env with
  | nil => rfl
  | cons gone keys ih =>
    show ((env.change (gone, none)).apply (keys.map (·, none))).value? key = _
    rw [ih, value?_change]
    by_cases hgone : key = gone <;> simp [hgone]

end Environment

end Watchdog
