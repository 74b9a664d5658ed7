import Watchdog.Proofs.Utf8.Check

/-!
# Bytes that end within a character

Bytes may stop where the last character has begun and is not complete.  That is a property of the
bytes (`EndsWithin`): they end with a beginning of the form of some character that is not all of it.
Reading them from the front, character by character, leaves the same beginning over
(`unfinishedPart`).  The two agree because reading never goes past a byte that begins a character:
such a byte follows no other within a character (`isTail_of_front`).

To the text, what is left over adds one replacement and no more (`lossy_append_of_within`): even a
character that it breaks off is replaced as it would be at the end of the bytes.
-/

namespace Watchdog.Utf8

/-- A beginning of the form of some character, neither empty nor all of it. -/
def Within (bytes : List UInt8) : Prop :=
  bytes ≠ [] ∧ ∃ c : Char, bytes <+: String.utf8EncodeChar c ∧ bytes ≠ String.utf8EncodeChar c

/-- The bytes stop within a character. -/
def EndsWithin (bytes : List UInt8) : Prop := ∃ start part, bytes = start ++ part ∧ Within part

lemma within_cons_iff {a : UInt8} {rest : List UInt8} :
    Within (a :: rest) ↔ front a rest = .unfinished := by
  constructor
  · rintro ⟨-, c, ⟨more, hmore⟩, hne⟩
    by_contra hfront
    obtain ⟨size, hsize⟩ : ∃ size, front a (rest ++ more) = .char c size :=
      front_eq_char_of_prefix ⟨[], by rw [List.append_nil, ← hmore, List.cons_append]⟩
    rw [front_append hfront] at hsize
    have hwhole := eq_utf8EncodeChar_append_of_front hsize
    have hlength := congrArg List.length hmore
    have hlength' := congrArg List.length hwhole
    rw [List.length_append] at hlength hlength'
    have hnone : more = [] := List.eq_nil_of_length_eq_zero (by omega)
    rw [hnone, List.append_nil] at hmore
    exact hne hmore
  · intro hfront
    obtain ⟨c, hc⟩ := exists_utf8EncodeChar_of_unfinished hfront
    refine ⟨List.cons_ne_nil a rest, c, hc, fun hall => ?_⟩
    obtain ⟨size, hsize⟩ := front_eq_char_of_prefix (c := c) ⟨[], by rw [List.append_nil, hall]⟩
    rw [hfront] at hsize
    exact nomatch hsize

lemma within_iff_standsAt {bytes : List UInt8} : Within bytes ↔ Fault.standsAt none bytes := by
  constructor
  · intro h
    cases bytes with
    | nil => exact absurd rfl h.1
    | cons a rest => exact ⟨a, rest, rfl, within_cons_iff.mp h⟩
  · rintro ⟨a, rest, rfl, hfront⟩
    exact within_cons_iff.mpr hfront

/-- A character takes at most four bytes, and one of them is missing. -/
lemma Within.length_le {bytes : List UInt8} (h : Within bytes) : bytes.length ≤ 3 := by
  obtain ⟨-, c, hform, hne⟩ := h
  have hlt : bytes.length < (String.utf8EncodeChar c).length :=
    Nat.lt_of_le_of_ne hform.length_le fun heq => hne (hform.eq_of_length heq)
  have hfour := c.utf8Size_le_four
  rw [String.length_utf8EncodeChar] at hlt
  omega

/-! ## Bytes that follow within a character -/

/-- How many bytes are done with; `none` if more have to come. -/
def Front.size? : Front → Option Nat
  | char _ size => some size
  | illFormed size => some size
  | unfinished => none

lemma Front.size?_eq_none_iff {f : Front} : f.size? = none ↔ f = unfinished := by
  cases f <;> simp [size?]

lemma Front.eq_of_size? {f : Front} {size : Nat} (h : f.size? = some size) :
    (∃ c, f = char c size) ∨ f = illFormed size := by
  cases f with
  | char c n => exact .inl ⟨c, by rw [Option.some.inj h]⟩
  | illFormed n => exact .inr (by rw [Option.some.inj h])
  | unfinished => exact nomatch h

lemma isTail_of_secondOk {a b : UInt8} (h : secondOk a b = true) : isTail b = true := by
  rw [secondOk_iff] at h
  rw [isTail_iff]
  exact h.1

/-- A byte that begins a character follows within none. -/
lemma isTail_of_unfinished {a : UInt8} {rest : List UInt8} (h : front a rest = .unfinished) :
    isTail a = false := by
  have hwidth : width a ≠ 0 := fun hzero => by simp [front, hzero] at h
  rw [Bool.eq_false_iff]
  intro htail
  rw [isTail_iff] at htail
  grind [width_eq]

/-- In what is found at the beginning, all bytes but the first follow within a character. -/
lemma isTail_of_front (a : UInt8) (rest : List UInt8) :
    ∀ b ∈ (front a rest).size?.elim rest (rest.take <| · - 1), isTail b = true := by
  fun_cases front a rest <;> simp_all [Front.size?]
  all_goals exact isTail_of_secondOk (a := a) (by assumption)

lemma size?_le {a : UInt8} {rest : List UInt8} {size : Nat}
    (h : (front a rest).size? = some size) : 0 < size ∧ size ≤ rest.length + 1 := by
  obtain ⟨c, hfront⟩ | hfront := Front.eq_of_size? h
  · exact char_size hfront
  · exact Fault.size_of_standsAt ⟨a, rest, rfl, hfront⟩

/-- What is done with stays as it is, whatever follows. -/
lemma front_append_of_size? {a : UInt8} {rest : List UInt8} {size : Nat}
    (h : (front a rest).size? = some size) (more : List UInt8) :
    front a (rest ++ more) = front a rest := by
  refine front_append (fun hfront => ?_) more
  rw [hfront] at h
  exact nomatch h

/-- Reading does not go past a byte that follows within no character. -/
lemma size?_append_cons {lead : UInt8} (hlead : isTail lead = false) (a : UInt8)
    (rest more : List UInt8) :
    ∃ size, (front a (rest ++ lead :: more)).size? = some size ∧ size ≤ rest.length + 1 := by
  have htails := isTail_of_front a (rest ++ lead :: more)
  cases hsize : (front a (rest ++ lead :: more)).size? with
  | none =>
    rw [hsize] at htails
    have htail := htails lead (by simp)
    rw [hlead] at htail
    exact nomatch htail
  | some size =>
    refine ⟨size, rfl, ?_⟩
    by_contra hlong
    rw [hsize] at htails
    have hmem : lead ∈ (rest ++ lead :: more).take (size - 1) := by
      rw [List.take_append, List.mem_append]
      obtain ⟨k, hk⟩ : ∃ k, size - 1 - rest.length = k + 1 := ⟨size - 2 - rest.length, by omega⟩
      right
      rw [hk, List.take_succ_cons]
      exact List.mem_cons_self
    have htail := htails lead hmem
    rw [hlead] at htail
    exact nomatch htail

/-- Where the next character begins before the first is complete, all that has come of the first is
an ill-formed part. -/
lemma front_append_of_unfinished {lead : UInt8} (hlead : isTail lead = false) {a : UInt8}
    {rest : List UInt8} (h : front a rest = .unfinished) (more : List UInt8) :
    front a (rest ++ lead :: more) = .illFormed (rest.length + 1) := by
  obtain ⟨size, hsize, hle⟩ := size?_append_cons hlead a rest more
  have hstart : rest <+: rest ++ lead :: more := List.prefix_append _ _
  obtain ⟨c, hfront⟩ | hfront := Front.eq_of_size? hsize
  · rw [front_eq_char_of_prefix_of_le hfront hstart hle] at h
    exact nomatch h
  · have hlong : ¬ size ≤ rest.length := fun hshort => by
      have hearly := front_eq_illFormed_of_prefix hfront hstart hshort
      rw [h] at hearly
      exact nomatch hearly
    rw [hfront, show size = rest.length + 1 by omega]

/-! ## The part left over -/

/-- What reading from the front leaves over: the beginning of a character at the end, if any. -/
def unfinishedPart (bytes : List UInt8) : List UInt8 :=
  match bytes with
  | [] => []
  | a :: rest =>
    match (front a rest).size? with
    | some size => unfinishedPart (rest.drop (size - 1))
    | none => a :: rest
termination_by bytes.length
decreasing_by
  simp only [List.length_drop, List.length_cons]
  omega

lemma unfinishedPart_suffix (bytes : List UInt8) : unfinishedPart bytes <:+ bytes := by
  fun_induction unfinishedPart bytes with
  | case1 => exact List.suffix_refl []
  | case2 a rest size hsize ih =>
    exact ih.trans ((List.drop_suffix _ _).trans (List.suffix_cons a rest))
  | case3 a rest hsize => exact List.suffix_refl _

lemma unfinishedPart_eq_nil_or_within (bytes : List UInt8) :
    unfinishedPart bytes = [] ∨ Within (unfinishedPart bytes) := by
  fun_induction unfinishedPart bytes with
  | case1 => exact .inl rfl
  | case2 a rest size hsize ih => exact ih
  | case3 a rest hsize => exact .inr (within_cons_iff.mpr (Front.size?_eq_none_iff.mp hsize))

/-- A beginning of a character at the end is what is left over, whatever stands before it. -/
lemma unfinishedPart_append_of_within {part : List UInt8} (h : Within part) (start : List UInt8) :
    unfinishedPart (start ++ part) = part := by
  cases part with
  | nil => exact absurd rfl h.1
  | cons lead more =>
    have hfront := within_cons_iff.mp h
    have hlead := isTail_of_unfinished hfront
    induction hn : start.length using Nat.strongRecOn generalizing start with
    | _ n ih =>
      cases start with
      | nil => rw [List.nil_append, unfinishedPart, hfront]; rfl
      | cons a rest =>
        obtain ⟨size, hsize, hle⟩ := size?_append_cons hlead a rest more
        rw [List.cons_append, unfinishedPart, hsize]
        dsimp only
        rw [List.drop_append_of_le_length (by omega)]
        refine ih _ ?_ _ rfl
        rw [← hn, List.length_drop, List.length_cons]
        omega

/-- Something is left over exactly if the bytes stop within a character. -/
lemma unfinishedPart_ne_nil_iff (bytes : List UInt8) :
    unfinishedPart bytes ≠ [] ↔ EndsWithin bytes := by
  constructor
  · intro hne
    obtain ⟨start, hstart⟩ := unfinishedPart_suffix bytes
    exact ⟨start, _, hstart.symm, (unfinishedPart_eq_nil_or_within bytes).resolve_left hne⟩
  · rintro ⟨start, part, rfl, hpart⟩
    rw [unfinishedPart_append_of_within hpart]
    exact hpart.1

/-- What is left over can be read on with the bytes that follow. -/
lemma unfinishedPart_append (bytes more : List UInt8) :
    unfinishedPart (bytes ++ more) = unfinishedPart (unfinishedPart bytes ++ more) := by
  fun_induction unfinishedPart bytes with
  | case1 => rfl
  | case2 a rest size hsize ih =>
    have hle := size?_le hsize
    rw [List.cons_append, unfinishedPart, front_append_of_size? hsize, hsize, ← ih,
      ← List.drop_append_of_le_length (by omega)]
  | case3 a rest hsize => rfl

/-! ## The text before the part left over -/

/-- What is done with is one character of the text, whatever follows. -/
lemma lossy_append_of_size? {a : UInt8} {rest : List UInt8} {size : Nat}
    (h : (front a rest).size? = some size) :
    ∃ c, ∀ more, lossy (a :: rest ++ more) =
      String.singleton c ++ lossy (rest.drop (size - 1) ++ more) := by
  have hle := size?_le h
  have hdrop : ∀ more, (rest ++ more).drop (size - 1) = rest.drop (size - 1) ++ more :=
    fun more => List.drop_append_of_le_length (by omega)
  have happ := front_append_of_size? h
  obtain ⟨c, hfront⟩ | hfront := Front.eq_of_size? h
  · refine ⟨c, fun more => ?_⟩
    rw [← String.toList_inj, List.cons_append, toList_lossy_cons, happ, hfront]
    simp [hdrop]
  · refine ⟨replacement, fun more => ?_⟩
    rw [← String.toList_inj, List.cons_append, toList_lossy_cons, happ, hfront]
    simp [hdrop]

lemma lossy_of_within {part : List UInt8} (h : Within part) :
    lossy part = String.singleton replacement := by
  cases part with
  | nil => exact absurd rfl h.1
  | cons lead more =>
    rw [← String.toList_inj, toList_lossy_cons, within_cons_iff.mp h, String.toList_singleton]

/-- A beginning of a character at the end adds one replacement to the text of what stands before. -/
lemma lossy_append_of_within {part : List UInt8} (h : Within part) (start : List UInt8) :
    lossy (start ++ part) = lossy start ++ String.singleton replacement := by
  fun_induction unfinishedPart start with
  | case1 => rw [List.nil_append, lossy_nil, String.empty_append, lossy_of_within h]
  | case2 a rest size hsize ih =>
    obtain ⟨c, hc⟩ := lossy_append_of_size? hsize
    have halone := hc []
    rw [List.append_nil, List.append_nil] at halone
    rw [hc, ih, halone, String.append_assoc]
  | case3 a rest hsize =>
    -- `start` ends within a character, which is replaced whether it is broken off by `part` or not.
    have hfront : front a rest = .unfinished := Front.size?_eq_none_iff.mp hsize
    have hstart : Within (a :: rest) := within_cons_iff.mpr hfront
    cases part with
    | nil => exact absurd rfl h.1
    | cons lead more =>
      have hlead := isTail_of_unfinished (within_cons_iff.mp h)
      have hstands : Fault.standsAt (some (rest.length + 1)) (a :: rest ++ lead :: more) :=
        ⟨a, _, rfl, front_append_of_unfinished hlead hfront more⟩
      have hparts := lossy_append_of_standsAt hstands []
      rw [List.append_nil, List.append_nil, List.cons_append, List.drop_succ_cons,
        List.drop_left] at hparts
      rw [List.cons_append, hparts, lossy_of_within h, lossy_of_within hstart]

/-- The text of bytes but for what is left over is that of the bytes before it. -/
lemma exists_eq_lossy_of_append {text : String} {bytes : List UInt8}
    (h : text ++ lossy (unfinishedPart bytes) = lossy bytes) :
    ∃ start, bytes = start ++ unfinishedPart bytes ∧ text = lossy start := by
  obtain ⟨start, hstart⟩ := unfinishedPart_suffix bytes
  refine ⟨start, hstart.symm, ?_⟩
  obtain hnone | hwithin := unfinishedPart_eq_nil_or_within bytes
  · rw [hnone, List.append_nil] at hstart
    rwa [hnone, lossy_nil, String.append_empty, ← hstart] at h
  · have hwhole := lossy_append_of_within hwithin start
    rw [hstart, ← h, lossy_of_within hwithin] at hwhole
    exact (String.append_left_inj _).mp hwhole

/-! ## Where well-formed bytes stop -/

/-- A text leaves nothing over. -/
lemma unfinishedPart_of_checkFrom {text whole : String} {passed : Nat} {bytes : List UInt8}
    (h : checkFrom text passed bytes = .ok whole) : unfinishedPart bytes = [] := by
  fun_induction checkFrom text passed bytes with
  | case1 => rw [unfinishedPart]
  | case2 text passed a rest c size hfront ih =>
    rw [unfinishedPart, hfront]
    exact ih h
  | case3 => cases h
  | case4 => cases h

/-- An ill-formed part is done with. -/
lemma unfinishedPart_of_standsAt {bytes : List UInt8} {size : Nat}
    (h : Fault.standsAt (some size) bytes) :
    unfinishedPart bytes = unfinishedPart (bytes.drop size) := by
  obtain ⟨a, rest, rfl, hfront⟩ := h
  obtain ⟨n, rfl⟩ : ∃ n, size = n + 1 := Nat.exists_eq_succ_of_ne_zero (illFormed_size hfront)
  rw [unfinishedPart, show front a rest = .illFormed (n + 1) from hfront]
  rfl

lemma unfinishedPart_of_standsAt_none {bytes : List UInt8} (h : Fault.standsAt none bytes) :
    unfinishedPart bytes = bytes := by
  obtain ⟨a, rest, rfl, hfront⟩ := h
  rw [unfinishedPart, show front a rest = .unfinished from hfront]
  rfl

/-- Whatever comes before a fault, the same is left over. -/
lemma unfinishedPart_of_check {bytes : List UInt8} {f : Fault} (h : check bytes = .error f) :
    unfinishedPart bytes = unfinishedPart (bytes.drop f.validUpTo) := by
  obtain ⟨⟨start, hstart⟩, -⟩ := check_error h
  conv_lhs => rw [← List.take_append_drop f.validUpTo bytes]
  rw [unfinishedPart_append, unfinishedPart_of_checkFrom hstart, List.nil_append]

end Watchdog.Utf8
