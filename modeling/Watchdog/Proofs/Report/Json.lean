import Mathlib.Algebra.Ring.Int.Defs
import Watchdog.CommandLine.Program
import Watchdog.Proofs.Json.Layout

/-!
# Reports from their JSON texts

What a report shows of itself (`Report.shown`) is all but two things: the stack of a failed launch,
and which failure it was among those with the same tag.  Exactly this comes back from its texts
(`ofJson?_toJson`), so that two reports have one text just when they show the same
(`Rendering.text_eq_iff`).
-/

namespace Watchdog

/-! ## Taking values apart -/

namespace Json

/-- The keys of an object, in their order. -/
def keys : Json → List String
  | obj fields => fields.map Prod.fst
  | _ => []

/-- What stands under a key of an object. -/
def field? (key : String) : Json → Option Json
  | obj fields => fields.lookup key
  | _ => none

def bool? : Json → Option Bool
  | bool b => some b
  | _ => none

def str? : Json → Option String
  | str s => some s
  | _ => none

/-- A number of 32 bits with sign. -/
def int32? : Json → Option Int32
  | num n => if -2 ^ 31 ≤ n ∧ n < 2 ^ 31 then some (Int32.ofInt n) else none
  | _ => none

/-- A number of 64 bits without sign. -/
def uint64? : Json → Option UInt64
  | num n => if 0 ≤ n ∧ n < 2 ^ 64 then some (UInt64.ofNat n.toNat) else none
  | _ => none

/-- What `f` takes from under a key. -/
def get? {α : Type} (f : Json → Option α) (key : String) (v : Json) : Option α :=
  (v.field? key).bind f

/-- What `f` takes from a value, nothing from `null`. -/
def orNull? {α : Type} (f : Json → Option α) : Json → Option (Option α)
  | null => some none
  | v => (f v).map some

lemma get?_eq {α : Type} {f : Json → Option α} {key : String} {v w : Json}
    (h : v.field? key = some w) : v.get? f key = f w := by
  rw [get?, h, Option.bind_some]

lemma int32?_num (code : Int32) : int32? (num code.toInt) = some code := by
  have hlow := code.le_toInt
  have hhigh := code.toInt_lt
  rw [int32?, if_pos ⟨hlow, hhigh⟩, Int32.ofInt_toInt]

lemma uint64?_num (n : UInt64) : uint64? (num n.toNat) = some n := by
  have hlt := n.toNat_lt
  rw [uint64?, if_pos ⟨by omega, by omega⟩, Int.toNat_natCast, UInt64.ofNat_toNat]

/-- An option comes back from what it was written as. -/
lemma orNull?_ofOption {α β : Type} {f : Json → Option β} {write : α → Json} {kept : α → β}
    (h : ∀ a, write a ≠ .null ∧ f (write a) = some (kept a)) (o : Option α) :
    (ofOption write o).orNull? f = some (o.map kept) := by
  cases o with
  | none => rfl
  | some a =>
    obtain ⟨hnull, hkept⟩ := h a
    rw [ofOption, orNull?, hkept]
    · rfl
    · exact hnull

/-- An option is written as `null` when it is absent, and only then. -/
lemma field?_eq_null_iff {α : Type} {key : String} {v : Json} {write : α → Json} {o : Option α}
    (hfield : v.field? key = some (ofOption write o)) (h : ∀ a, write a ≠ .null) :
    v.field? key = some .null ↔ o = none := by
  rw [hfield, Option.some_inj]
  cases o with
  | none => exact iff_of_true rfl rfl
  | some a => exact iff_of_false (h a) nofun

end Json

namespace Report

/-- What a report shows of itself. -/
structure Shown where
  ok : Bool
  tag : Option String
  exitCode : Option Int32
  signal : Option String
  /-- Code and message. -/
  launchFailure : Option (String × String)
  stdout : String
  stderr : String
  timestamp : UInt64
  duration : String
deriving Repr, DecidableEq

def shown (r : Report) : Shown where
  ok := r.ok
  tag := r.errorTag?
  exitCode := r.exitCode
  signal := r.signal
  launchFailure := r.launchFailure.map fun f => (f.code, f.message)
  stdout := r.stdout
  stderr := r.stderr
  timestamp := r.timestamp
  duration := r.duration

/-- Takes code and message from the object of a failed launch. -/
def launchFailure? (v : Json) : Option (String × String) := do
  let code ← v.get? Json.str? "code"
  let message ← v.get? Json.str? "message"
  return (code, message)

/-- Takes what a report shows from its object. -/
def Shown.ofJson? (v : Json) : Option Shown := do
  let ok ← v.get? Json.bool? "ok"
  let tag ← (v.field? "error").mapM Json.str?
  let exitCode ← v.get? (Json.orNull? Json.int32?) "exitCode"
  let signal ← v.get? (Json.orNull? Json.str?) "signalCode"
  let launchFailure ← v.get? (Json.orNull? launchFailure?) "spawnError"
  let stdout ← v.get? Json.str? "stdout"
  let stderr ← v.get? Json.str? "stderr"
  let timestamp ← v.get? Json.uint64? "timestamp"
  let duration ← v.get? Json.str? "duration"
  return { ok, tag, exitCode, signal, launchFailure, stdout, stderr, timestamp, duration }

/-! ## The object of a report -/

lemma orNull?_exitCode (code : Option Int32) :
    (Json.ofOption (fun code => .num code.toInt) code).orNull? Json.int32? = some code := by
  rw [Json.orNull?_ofOption fun code => ⟨Json.noConfusion, Json.int32?_num code⟩, Option.map_id']

lemma orNull?_signal (name : Option String) :
    (Json.ofOption .str name).orNull? Json.str? = some name := by
  rw [Json.orNull?_ofOption (f := Json.str?) fun _ => ⟨Json.noConfusion, rfl⟩, Option.map_id']

lemma orNull?_launchFailure (failure : Option LaunchFailure) :
    (Json.ofOption LaunchFailure.toJson failure).orNull? launchFailure? =
      some (failure.map fun f => (f.code, f.message)) :=
  Json.orNull?_ofOption (f := launchFailure?) (fun _ => ⟨Json.noConfusion, rfl⟩) failure

/-- What stands under each key. -/
lemma field?_toJson (r : Report) :
    r.toJson.field? "ok" = some (.bool r.ok) ∧
    r.toJson.field? "error" = r.error.map Failure.toJson ∧
    r.toJson.field? "exitCode" = some (.ofOption (fun code => .num code.toInt) r.exitCode) ∧
    r.toJson.field? "signalCode" = some (.ofOption .str r.signal) ∧
    r.toJson.field? "spawnError" = some (.ofOption LaunchFailure.toJson r.launchFailure) ∧
    r.toJson.field? "stdout" = some (.str r.stdout) ∧
    r.toJson.field? "stderr" = some (.str r.stderr) ∧
    r.toJson.field? "timestamp" = some (.num r.timestamp.toNat) ∧
    r.toJson.field? "duration" = some (.str r.duration) := by
  cases herror : r.error <;> rw [toJson, herror] <;>
    exact ⟨rfl, rfl, rfl, rfl, rfl, rfl, rfl, rfl, rfl⟩

/-- **What a report shows comes back from its object.** -/
theorem ofJson?_toJson (r : Report) : Shown.ofJson? r.toJson = some r.shown := by
  obtain ⟨hok, herror, hexit, hsignal, hspawn, hstdout, hstderr, htimestamp, hduration⟩ :=
    field?_toJson r
  have htag : (r.toJson.field? "error").mapM Json.str? = some r.errorTag? := by
    rw [herror, errorTag?]
    cases r.error <;> rfl
  rw [Shown.ofJson?, htag, Json.get?_eq hok, Json.get?_eq hexit, Json.get?_eq hsignal,
    Json.get?_eq hspawn, Json.get?_eq hstdout, Json.get?_eq hstderr, Json.get?_eq htimestamp,
    Json.get?_eq hduration, orNull?_exitCode, orNull?_signal, orNull?_launchFailure,
    Json.uint64?_num]
  rfl

lemma keys_toJson (r : Report) :
    r.toJson.keys.Nodup ∧ ("error" ∈ r.toJson.keys ↔ r.error ≠ none) := by
  cases herror : r.error <;> rw [toJson, herror] <;> simp [Json.keys]

/-! ## What is lost -/

lemma map_code_message_iff (f f' : Option LaunchFailure) :
    (f.map fun f => (f.code, f.message)) = (f'.map fun f => (f.code, f.message)) ↔
      (f.map fun f => { f with stack := none }) = f'.map fun f => { f with stack := none } := by
  cases f <;> cases f' <;> simp

/-- Reports that show the same differ in the stack, and in failures with one tag. -/
lemma shown_eq_shown_iff (r r' : Report) :
    r.shown = r'.shown ↔
      { r with error := r'.error, launchFailure := r'.launchFailure } = r' ∧
      r.errorTag? = r'.errorTag? ∧
      (r.launchFailure.map fun f => { f with stack := none }) =
        r'.launchFailure.map fun f => { f with stack := none } := by
  rw [← map_code_message_iff]
  cases r
  cases r'
  simp only [shown, errorTag?, Shown.mk.injEq, mk.injEq, true_and]
  tauto

/-- The object of a report is made from what it shows. -/
lemma toJson_eq_toJson_iff (r r' : Report) : r.toJson = r'.toJson ↔ r.shown = r'.shown := by
  constructor
  · intro h
    have hshown := ofJson?_toJson r
    rw [h, ofJson?_toJson] at hshown
    exact (Option.some.inj hshown).symm
  · intro h
    obtain ⟨hrest, htag, hlaunch⟩ := (shown_eq_shown_iff r r').mp h
    have hobject : Json.ofOption LaunchFailure.toJson r.launchFailure =
        Json.ofOption LaunchFailure.toJson r'.launchFailure := by
      cases hf : r.launchFailure <;> cases hf' : r'.launchFailure <;>
        simp_all [Json.ofOption, LaunchFailure.toJson]
    have htext : r.error.map Failure.toJson = r'.error.map Failure.toJson := by
      have hmap := congrArg (Option.map Json.str) htag
      rwa [errorTag?, errorTag?, Option.map_map, Option.map_map] at hmap
    rw [← hrest, toJson, toJson, ← hobject]
    cases herror : r.error <;> cases herror' : r'.error <;> simp_all

/-! ## Texts of reports -/

lemma spells_render (r : Report) :
    Json.Spells r.toJson.tokens (CommandLine.OutputFormat.json.render r).toList :=
  (Json.spells_text .pretty r.toJson).text_blanks (Json.spells_blanks rfl)

/-- How the texts of a report stand for it. -/
structure Rendering (r : Report) : Prop where
  spells (layout : Json.Layout) : Json.Spells r.toJson.tokens (layout.text r.toJson).toList
  /-- Both texts are read as the same object. -/
  read (layout : Json.Layout) : Json.read (layout.text r.toJson) = some r.toJson
  /-- So is what is printed. -/
  read_render : Json.read (CommandLine.OutputFormat.json.render r) = some r.toJson
  nodup_keys : r.toJson.keys.Nodup
  shown : Shown.ofJson? r.toJson = some r.shown
  error_mem_keys_iff : "error" ∈ r.toJson.keys ↔ r.error ≠ none
  error : r.toJson.field? "error" = r.error.map fun failure => .str failure.tag
  exitCode_null_iff : r.toJson.field? "exitCode" = some .null ↔ r.exitCode = none
  signal_null_iff : r.toJson.field? "signalCode" = some .null ↔ r.signal = none
  launchFailure_null_iff : r.toJson.field? "spawnError" = some .null ↔ r.launchFailure = none
  /-- Reports with equal texts show the same. -/
  text_eq_iff (layout : Json.Layout) (r' : Report) :
    layout.text r.toJson = layout.text r'.toJson ↔ r.shown = r'.shown
  /-- They differ at most in the stack, and in failures with one tag. -/
  differ (layout layout' : Json.Layout) (r' : Report) :
    layout.text r.toJson = layout'.text r'.toJson →
      { r with error := r'.error, launchFailure := r'.launchFailure } = r' ∧
      r.errorTag? = r'.errorTag? ∧
      (r.launchFailure.map fun f => { f with stack := none }) =
        r'.launchFailure.map fun f => { f with stack := none }

/-- **The JSON form loses nothing but the stack and which failure it was.** -/
theorem rendering_of_report (r : Report) : Rendering r := by
  obtain ⟨-, herror, hexit, hsignal, hspawn, -⟩ := field?_toJson r
  exact {
    spells := fun layout => Json.spells_text layout r.toJson
    read := fun layout => Json.read_text layout r.toJson
    read_render := (Json.read_eq_some_iff _ _).mpr (spells_render r)
    nodup_keys := (keys_toJson r).1
    shown := ofJson?_toJson r
    error_mem_keys_iff := (keys_toJson r).2
    error := herror
    exitCode_null_iff := Json.field?_eq_null_iff hexit fun _ => Json.noConfusion
    signal_null_iff := Json.field?_eq_null_iff hsignal fun _ => Json.noConfusion
    launchFailure_null_iff := Json.field?_eq_null_iff hspawn fun _ => Json.noConfusion
    text_eq_iff := fun layout r' => by
      rw [← toJson_eq_toJson_iff]
      exact ⟨Json.eq_of_text_eq, congrArg layout.text⟩
    differ := fun layout layout' r' h => by
      rw [← shown_eq_shown_iff, ← toJson_eq_toJson_iff]
      exact Json.eq_of_text_eq h }

end Report

end Watchdog
