import Watchdog.Proofs.Utf8.Lossy

/-!
# Where well-formed bytes stop

`check` and `lossy` read the same characters up to the first fault.  The bytes before a fault are a
text, so no text is lost where they are read once more, and at the fault stands an ill-formed part
or the beginning of a character.
-/

namespace Watchdog.Utf8

lemma lossyFrom_eq (text : String) (bytes : List UInt8) :
    lossyFrom text bytes = text ++ lossy bytes := by
  rw [← String.toList_inj, toList_lossyFrom, String.toList_append]

/-- What stands at a fault of this kind. -/
def Fault.standsAt (size : Option Nat) (bytes : List UInt8) : Prop :=
  ∃ a rest, bytes = a :: rest ∧
    match size with
    | some n => front a rest = .illFormed n
    | none => front a rest = .unfinished

lemma lossyFrom_append_of_checkFrom {text whole : String} {passed : Nat} {bytes : List UInt8}
    (h : checkFrom text passed bytes = .ok whole) (more : List UInt8) :
    lossyFrom text (bytes ++ more) = lossyFrom whole more := by
  fun_induction checkFrom text passed bytes with
  | case1 text passed =>
    cases h
    rfl
  | case2 text passed a rest c size hfront ih =>
    have hsize := (char_size hfront).2
    have happ : front a (rest ++ more) = .char c size := by
      have hfound : front a rest ≠ .unfinished := by simp [hfront]
      rw [front_append hfound, hfront]
    rw [List.cons_append, lossyFrom.eq_def, ← ih h]
    simp only [happ]
    rw [List.drop_append_of_le_length (by omega)]
  | case3 => cases h
  | case4 => cases h

/-- A character is found from its own bytes. -/
lemma front_eq_char_of_prefix_of_le {a : UInt8} {rest start : List UInt8} {c : Char} {size : Nat}
    (h : front a rest = .char c size) (hstart : start <+: rest) (hsize : size ≤ start.length + 1) :
    front a start = .char c size := by
  have hbytes := eq_utf8EncodeChar_append_of_front h
  have hlen : (String.utf8EncodeChar c).length = size := by
    have := congrArg List.length hbytes
    have := char_size h
    simp only [List.length_append, List.length_cons, List.length_drop] at *
    omega
  have hwhole : String.utf8EncodeChar c <+: a :: rest := by
    rw [hbytes]
    exact List.prefix_append _ _
  have hform : String.utf8EncodeChar c <+: a :: start :=
    List.prefix_of_prefix_length_le hwhole ((List.prefix_cons_inj a).2 hstart)
      (by rw [hlen, List.length_cons]; exact hsize)
  obtain ⟨n, hn⟩ := front_eq_char_of_prefix hform
  obtain ⟨more, rfl⟩ := hstart
  rw [← h, front_append (by rw [hn]; exact nofun)]

/-- Before a fault stands a text, and at the fault stands what it says. -/
lemma checkFrom_error {text : String} {passed : Nat} {bytes : List UInt8} {f : Fault}
    (h : checkFrom text passed bytes = .error f) :
    ∃ k, f.validUpTo = passed + k ∧ (∃ start, checkFrom text passed (bytes.take k) = .ok start) ∧
      Fault.standsAt f.size (bytes.drop k) := by
  fun_induction checkFrom text passed bytes with
  | case1 => cases h
  | case2 text passed a rest c size hfront ih =>
    obtain ⟨k, hk, ⟨start, hstart⟩, hstands⟩ := ih h
    obtain ⟨hpos, hsize⟩ := char_size hfront
    refine ⟨size + k, by omega, ⟨start, ?_⟩, ?_⟩
    · have hcut : (a :: rest).take (size + k) = a :: rest.take (size - 1 + k) := by
        rw [show size + k = size - 1 + k + 1 by omega, List.take_succ_cons]
      have htake : front a (rest.take (size - 1 + k)) = .char c size :=
        front_eq_char_of_prefix_of_le hfront (List.take_prefix _ _)
          (by rw [List.length_take]; omega)
      rw [hcut, checkFrom.eq_def]
      simp only [htake]
      rw [List.drop_take, Nat.add_sub_cancel_left, hstart]
    · rw [show size + k = size - 1 + k + 1 by omega, List.drop_succ_cons, ← List.drop_drop]
      exact hstands
  | case3 text passed a rest size hfront =>
    cases h
    exact ⟨0, rfl, ⟨text, by simp [checkFrom]⟩, a, rest, rfl, hfront⟩
  | case4 text passed a rest hfront =>
    cases h
    exact ⟨0, rfl, ⟨text, by simp [checkFrom]⟩, a, rest, rfl, hfront⟩

/-- Bytes that are a text are read as that text, whatever follows. -/
lemma lossy_append_of_check {bytes : List UInt8} {text : String} (h : check bytes = .ok text)
    (more : List UInt8) : lossy (bytes ++ more) = text ++ lossy more := by
  rw [lossy, lossyFrom_append_of_checkFrom h, lossyFrom_eq]

lemma check_error {bytes : List UInt8} {f : Fault} (h : check bytes = .error f) :
    (∃ start, check (bytes.take f.validUpTo) = .ok start) ∧
      Fault.standsAt f.size (bytes.drop f.validUpTo) := by
  obtain ⟨k, hk, hstart, hstands⟩ := checkFrom_error h
  rw [Nat.zero_add] at hk
  rw [hk]
  exact ⟨hstart, hstands⟩

/-- An ill-formed part takes at least one of the bytes. -/
lemma Fault.size_of_standsAt {bytes : List UInt8} {size : Nat}
    (h : Fault.standsAt (some size) bytes) : 0 < size ∧ size ≤ bytes.length := by
  obtain ⟨a, rest, rfl, hfront⟩ := h
  exact ⟨Nat.pos_of_ne_zero (illFormed_size hfront), (unfinished_take_of_illFormed hfront).1⟩

/-- An ill-formed part is replaced, whatever follows. -/
lemma lossy_append_of_standsAt {bytes : List UInt8} {size : Nat}
    (h : Fault.standsAt (some size) bytes) (more : List UInt8) :
    lossy (bytes ++ more) = String.singleton replacement ++ lossy (bytes.drop size ++ more) := by
  obtain ⟨a, rest, rfl, hfront⟩ := h
  simp only at hfront
  obtain ⟨hle, -⟩ := unfinished_take_of_illFormed hfront
  have hpos : size ≠ 0 := illFormed_size hfront
  have happ : front a (rest ++ more) = .illFormed size := by
    rw [front_append (by rw [hfront]; exact nofun), hfront]
  obtain ⟨k, rfl⟩ := Nat.exists_eq_add_one_of_ne_zero hpos
  rw [← String.toList_inj, List.cons_append, toList_lossy_cons, happ, List.drop_succ_cons]
  simp only [Nat.add_sub_cancel]
  rw [List.drop_append_of_le_length (by omega)]
  simp

end Watchdog.Utf8
