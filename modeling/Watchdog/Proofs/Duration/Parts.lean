import Mathlib.Algebra.Group.Nat.Defs
import Mathlib.Tactic.Lemma
import Watchdog.Duration

/-!
# Lengths of time in fixed widths

A length is held in two words: whole seconds in 64 bits, and in 32 bits the nanoseconds beyond them,
fewer than a second has.  To multiply such a pair one multiplies both words and carries the seconds
among the nanoseconds over.  The seconds may leave their width on the way, which is checked; the
nanoseconds may not, which is not (`toNat_spread`).  `times_length` says that this multiplication is
`Duration.times`: it fails exactly if the product is too long, and loses nothing otherwise.
-/

namespace Watchdog

namespace Duration

/-- A length as it is held: whole seconds, and the nanoseconds beyond them. -/
structure Parts where
  seconds : UInt64
  nanos : UInt32
  nanos_lt : nanos.toNat < 1000000000

/-- The word for a number, none if the number does not fit. -/
def word? (n : Nat) : Option UInt64 := if n < 2 ^ 64 then some n.toUInt64 else none

lemma word?_eq_some_iff {n : Nat} {w : UInt64} : word? n = some w ↔ w.toNat = n := by
  unfold word?
  split
  case isTrue hfits =>
    rw [Option.some.injEq, ← UInt64.toNat_inj, Nat.toUInt64, UInt64.toNat_ofNat_of_lt' hfits,
      eq_comm]
  case isFalse hlong =>
    have hw := w.toNat_lt
    exact iff_of_false (fun h => nomatch h) (fun h => hlong (h ▸ hw))

namespace Parts

variable {p q : Parts} {k : UInt32}

/-- The length that is held. -/
def length (p : Parts) : Duration := ⟨p.seconds.toNat * 1000000000 + p.nanos.toNat⟩

/-- The nanoseconds of a product that come from the nanoseconds held. -/
def spread (p : Parts) (k : UInt32) : UInt64 := p.nanos.toUInt64 * k.toUInt64

/-- The word is wide enough for them. -/
lemma toNat_spread (p : Parts) (k : UInt32) : (p.spread k).toNat = p.nanos.toNat * k.toNat := by
  have hfits : p.nanos.toNat * k.toNat < 1000000000 * 2 ^ 32 :=
    Nat.mul_lt_mul'' p.nanos_lt k.toNat_lt
  rw [spread, UInt64.toNat_mul, UInt32.toNat_toUInt64, UInt32.toNat_toUInt64]
  exact Nat.mod_eq_of_lt (by omega)

/-- The whole seconds among them are carried over, the rest stays. -/
lemma toNat_rest (p : Parts) (k : UInt32) :
    (p.spread k % 1000000000).toUInt32.toNat = p.nanos.toNat * k.toNat % 1000000000 := by
  have hsmall : p.nanos.toNat * k.toNat % 1000000000 < 1000000000 := Nat.mod_lt _ (by decide)
  rw [UInt64.toNat_toUInt32, UInt64.toNat_mod, toNat_spread]
  exact Nat.mod_eq_of_lt (Nat.lt_trans hsmall (by decide))

/-- The product, none if its seconds do not fit before or after the carry. -/
def times? (p : Parts) (k : UInt32) : Option Parts := do
  let product ← word? (p.seconds.toNat * k.toNat)
  let seconds ← word? (product.toNat + (p.spread k / 1000000000).toNat)
  return {
    seconds := seconds
    nanos := (p.spread k % 1000000000).toUInt32
    nanos_lt := p.toNat_rest k ▸ Nat.mod_lt _ (by decide) }

/-- The seconds of the product with the carry. -/
def secondsTimes (p : Parts) (k : Nat) : Nat :=
  p.seconds.toNat * k + p.nanos.toNat * k / 1000000000

lemma times?_eq_some_iff :
    p.times? k = some q ↔ q.seconds.toNat = p.secondsTimes k.toNat ∧
      q.nanos.toNat = p.nanos.toNat * k.toNat % 1000000000 := by
  have hcarry : (p.spread k / 1000000000).toNat = p.nanos.toNat * k.toNat / 1000000000 := by
    rw [UInt64.toNat_div, toNat_spread]
    rfl
  obtain ⟨seconds, nanos, hnanos⟩ := q
  simp only [times?, Option.bind_eq_bind, Option.bind_eq_some_iff, Option.pure_def,
    Option.some.injEq, word?_eq_some_iff, mk.injEq, hcarry, secondsTimes]
  constructor
  · rintro ⟨product, hproduct, sum, hsum, rfl, rfl⟩
    exact ⟨hproduct ▸ hsum, p.toNat_rest k⟩
  · rintro ⟨hsum, hrest⟩
    have hproduct : p.seconds.toNat * k.toNat < 2 ^ 64 :=
      Nat.lt_of_le_of_lt (hsum ▸ Nat.le_add_right _ _) seconds.toNat_lt
    refine ⟨_, UInt64.toNat_ofNat_of_lt' hproduct, seconds, ?_, rfl, ?_⟩
    · rw [UInt64.toNat_ofNat_of_lt' hproduct, hsum]
    · rw [← UInt32.toNat_inj, toNat_rest, hrest]

lemma nanos_times (p : Parts) (k : Nat) :
    p.length.nanos * k =
      p.secondsTimes k * 1000000000 + p.nanos.toNat * k % 1000000000 := by
  rw [length, secondsTimes, Nat.add_mul, Nat.add_mul, Nat.mul_right_comm, Nat.add_assoc,
    Nat.div_add_mod']

lemma lt_limit_iff (p : Parts) (k : Nat) :
    p.length.nanos * k < limit ↔ p.secondsTimes k < 2 ^ 64 := by
  have hrest : p.nanos.toNat * k % 1000000000 < 1000000000 := Nat.mod_lt _ (by decide)
  rw [nanos_times, limit]
  omega

/-- **The multiplication in fixed widths is the exact one.** -/
lemma times_length (p : Parts) (k : UInt32) :
    p.length.times k.toNat = match p.times? k with
      | some q => .ok q.length
      | none => .error .mk := by
  have hshort := p.lt_limit_iff k.toNat
  unfold times
  cases htimes : p.times? k with
  | some q =>
    obtain ⟨hseconds, hnanos⟩ := times?_eq_some_iff.mp htimes
    rw [if_pos (hshort.mpr (hseconds ▸ q.seconds.toNat_lt)), nanos_times, ← hseconds, ← hnanos]
    rfl
  | none =>
    rw [if_neg]
    intro hfits
    have hrest : p.nanos.toNat * k.toNat % 1000000000 < 1000000000 := Nat.mod_lt _ (by decide)
    have hword := UInt64.toNat_ofNat_of_lt' (hshort.mp hfits)
    have hsome : p.times? k = some ⟨.ofNat (p.secondsTimes k.toNat),
        (p.spread k % 1000000000).toUInt32, p.toNat_rest k ▸ hrest⟩ :=
      times?_eq_some_iff.mpr ⟨hword, p.toNat_rest k⟩
    rw [htimes] at hsome
    exact nomatch hsome

end Parts

end Duration

end Watchdog
