import Watchdog.Proofs.Utf8.Front

/-!
# The text of any bytes

What text stands for bytes that need not be well-formed is said here without looking at single
bytes.  Characters are read where their forms stand.  Where no form stands, the longest part that
begins like a character, or one byte if none does, is replaced as a whole (`IllFormedPart`), and
reading goes on after it.  `LossyText` is the relation, and `lossyText_iff` says that `lossy` is the
one text that it gives.
-/

namespace Watchdog.Utf8

/-- The form of some character begins with these bytes. -/
def Begins (bytes : List UInt8) : Prop := ∃ c : Char, bytes <+: String.utf8EncodeChar c

/-- `part`, which stands before `rest`, is to be replaced as a whole. -/
structure IllFormedPart (part rest : List UInt8) : Prop where
  /-- No character stands here. -/
  noChar : ∀ c : Char, ¬ String.utf8EncodeChar c <+: part ++ rest
  ne_nil : part ≠ []
  /-- It is a single byte or begins like a character. -/
  initial : part.length = 1 ∨ Begins part
  /-- Nothing longer that stands here begins like a character. -/
  longest : ∀ longer, longer <+: part ++ rest → Begins longer → longer.length ≤ part.length

/-- The text of a byte string. -/
inductive LossyText : List UInt8 → List Char → Prop where
  | nil : LossyText [] []
  | char (c : Char) {rest : List UInt8} {text : List Char} :
      LossyText rest text → LossyText (String.utf8EncodeChar c ++ rest) (c :: text)
  | part {part rest : List UInt8} {text : List Char} :
      IllFormedPart part rest → LossyText rest text → LossyText (part ++ rest) (replacement :: text)

/-! ## What is found at the beginning is what the relation asks for -/

/-- Where a character stands, nothing else is found. -/
lemma front_eq_char_of_prefix {a : UInt8} {rest : List UInt8} {c : Char}
    (h : String.utf8EncodeChar c <+: a :: rest) : ∃ size, front a rest = .char c size := by
  obtain ⟨more, hmore⟩ := h
  obtain ⟨a', rest', hc, hfront⟩ := front_utf8EncodeChar_append c more
  rw [hc, List.cons_append, List.cons.injEq] at hmore
  obtain ⟨rfl, rfl⟩ := hmore
  exact ⟨_, hfront⟩

/-- Bytes that go beyond an ill-formed part begin no character. -/
lemma length_le_of_begins {a : UInt8} {rest longer : List UInt8} {size : Nat}
    (h : front a rest = .illFormed size) (hlonger : longer <+: a :: rest)
    (hbegins : Begins longer) : longer.length ≤ size := by
  by_contra hlong
  cases longer with
  | nil => simp at hlong
  | cons a' start =>
    obtain ⟨rfl, hstart⟩ := List.cons_prefix_cons.1 hlonger
    rw [List.length_cons] at hlong
    have hfront : front a' start = .illFormed size :=
      front_eq_illFormed_of_prefix h hstart (by omega)
    obtain ⟨c, hc⟩ := hbegins
    obtain ⟨tail, htail⟩ := hc
    -- `start` can be completed to the form of `c`, yet is ill-formed already.
    have hchar : ∃ n, front a' (start ++ tail) = .char c n :=
      front_eq_char_of_prefix ⟨[], by rw [List.append_nil, ← List.cons_append, htail]⟩
    rw [front_append (by rw [hfront]; exact nofun), hfront] at hchar
    obtain ⟨n, hn⟩ := hchar
    cases hn

lemma illFormedPart_of_front {a : UInt8} {rest : List UInt8} {size : Nat}
    (h : front a rest = .illFormed size) :
    IllFormedPart (a :: rest.take (size - 1)) (rest.drop (size - 1)) := by
  obtain ⟨hle, hinitial⟩ := unfinished_take_of_illFormed h
  have hcut : (a :: rest.take (size - 1)) ++ rest.drop (size - 1) = a :: rest := by
    rw [List.cons_append, List.take_append_drop]
  have hsize : (a :: rest.take (size - 1)).length = size := by
    have hpos : size ≠ 0 := illFormed_size h
    simp only [List.length_cons, List.length_take]
    omega
  constructor
  case noChar =>
    intro c hc
    rw [hcut] at hc
    obtain ⟨n, hn⟩ := front_eq_char_of_prefix hc
    rw [h] at hn
    cases hn
  case ne_nil => exact List.cons_ne_nil _ _
  case initial =>
    rw [hsize]
    exact hinitial.imp_right exists_utf8EncodeChar_of_unfinished
  case longest =>
    intro longer hlonger hbegins
    rw [hcut] at hlonger
    rw [hsize]
    exact length_le_of_begins h hlonger hbegins

/-- The end of the bytes within a character leaves an ill-formed part. -/
lemma illFormedPart_of_unfinished {a : UInt8} {rest : List UInt8}
    (h : front a rest = .unfinished) : IllFormedPart (a :: rest) [] := by
  constructor
  case noChar =>
    intro c hc
    rw [List.append_nil] at hc
    obtain ⟨n, hn⟩ := front_eq_char_of_prefix hc
    rw [h] at hn
    cases hn
  case ne_nil => exact List.cons_ne_nil _ _
  case initial => exact .inr (exists_utf8EncodeChar_of_unfinished h)
  case longest =>
    intro longer hlonger _
    rw [List.append_nil] at hlonger
    exact hlonger.length_le

/-- An ill-formed part is found at its full length, and only at the end of the bytes can it look
like a character that is still to come. -/
lemma front_of_illFormedPart {a : UInt8} {start rest : List UInt8}
    (h : IllFormedPart (a :: start) rest) :
    front a (start ++ rest) = .illFormed (start.length + 1) ∨
      front a (start ++ rest) = .unfinished ∧ rest = [] := by
  cases hfront : front a (start ++ rest) with
  | char c size =>
    have hc := eq_utf8EncodeChar_append_of_front hfront
    refine absurd ?_ (h.noChar c)
    rw [List.cons_append, hc]
    exact List.prefix_append _ _
  | illFormed size =>
    left
    obtain ⟨hle, hinitial⟩ := unfinished_take_of_illFormed hfront
    have hpos : size ≠ 0 := illFormed_size hfront
    have hlt : start.length + 1 ≤ size := by
      obtain hone | hbegins := h.initial
      · rw [List.length_cons] at hone
        omega
      · exact length_le_of_begins hfront (List.prefix_append (a :: start) rest) hbegins
    have hgt : size ≤ start.length + 1 := by
      obtain hone | hunfinished := hinitial
      · omega
      · have hprefix : a :: (start ++ rest).take (size - 1) <+: a :: start ++ rest :=
          (List.prefix_cons_inj a).2 (List.take_prefix _ _)
        have hlong := h.longest _ hprefix (exists_utf8EncodeChar_of_unfinished hunfinished)
        simp only [List.length_cons, List.length_take] at hlong
        omega
    rw [Nat.le_antisymm hgt hlt]
  | unfinished =>
    right
    have hlong := h.longest _ (List.prefix_refl _) (exists_utf8EncodeChar_of_unfinished hfront)
    simp only [List.cons_append, List.length_cons, List.length_append] at hlong
    exact ⟨rfl, List.length_eq_zero_iff.1 (by omega)⟩

/-! ## The relation and the function -/

lemma toList_lossyFrom (text : String) (bytes : List UInt8) :
    (lossyFrom text bytes).toList = text.toList ++ (lossy bytes).toList := by
  induction hn : bytes.length using Nat.strongRecOn generalizing text bytes with
  | _ n ih =>
    cases bytes with
    | nil => simp [lossy, lossyFrom]
    | cons a rest =>
      have hlt : ∀ k, (rest.drop k).length < n := fun k => by
        rw [← hn, List.length_drop, List.length_cons]
        omega
      rw [lossy, lossyFrom.eq_def, lossyFrom.eq_def "" (a :: rest)]
      dsimp only
      cases front a rest with
      | char c size =>
        dsimp only
        rw [ih _ (hlt _) (text.push c) _ rfl, ih _ (hlt _) ("".push c) _ rfl]
        simp
      | illFormed size =>
        dsimp only
        rw [ih _ (hlt _) (text.push replacement) _ rfl, ih _ (hlt _) ("".push replacement) _ rfl]
        simp
      | unfinished => simp

lemma lossy_nil : lossy [] = "" := by
  simp [lossy, lossyFrom]

lemma toList_lossy_cons (a : UInt8) (rest : List UInt8) :
    (lossy (a :: rest)).toList =
      match front a rest with
      | .char c size => c :: (lossy (rest.drop (size - 1))).toList
      | .illFormed size => replacement :: (lossy (rest.drop (size - 1))).toList
      | .unfinished => [replacement] := by
  rw [lossy, lossyFrom.eq_def]
  dsimp only
  cases front a rest <;> simp [toList_lossyFrom]

lemma toList_lossy_utf8EncodeChar_append (c : Char) (rest : List UInt8) :
    (lossy (String.utf8EncodeChar c ++ rest)).toList = c :: (lossy rest).toList := by
  obtain ⟨a, tail, hc, hfront⟩ := front_utf8EncodeChar_append c rest
  rw [hc, List.cons_append, toList_lossy_cons, hfront]
  simp

lemma toList_lossy_part_append {part rest : List UInt8} (h : IllFormedPart part rest) :
    (lossy (part ++ rest)).toList = replacement :: (lossy rest).toList := by
  cases part with
  | nil => exact absurd rfl h.ne_nil
  | cons a start =>
    rw [List.cons_append, toList_lossy_cons]
    obtain hfront | ⟨hfront, rfl⟩ := front_of_illFormedPart h
    · simp [hfront]
    · rw [List.append_nil] at hfront ⊢
      simp [hfront, lossy_nil]

lemma lossyText_lossy (bytes : List UInt8) : LossyText bytes (lossy bytes).toList := by
  induction hn : bytes.length using Nat.strongRecOn generalizing bytes with
  | _ n ih =>
    cases bytes with
    | nil =>
      rw [lossy_nil]
      exact .nil
    | cons a rest =>
      have hrest : ∀ k, LossyText (rest.drop k) (lossy (rest.drop k)).toList := fun k =>
        ih _ (by rw [← hn, List.length_drop, List.length_cons]; omega) _ rfl
      rw [toList_lossy_cons]
      cases hfront : front a rest with
      | char c size =>
        rw [eq_utf8EncodeChar_append_of_front hfront]
        exact .char c (hrest _)
      | illFormed size =>
        have hcut : a :: rest = (a :: rest.take (size - 1)) ++ rest.drop (size - 1) := by
          rw [List.cons_append, List.take_append_drop]
        rw [hcut]
        exact .part (illFormedPart_of_front hfront) (hrest _)
      | unfinished =>
        rw [← List.append_nil (a :: rest)]
        exact .part (illFormedPart_of_unfinished hfront) .nil

/-- `lossy` gives the one text that stands for the bytes. -/
theorem lossyText_iff (bytes : List UInt8) (text : List Char) :
    LossyText bytes text ↔ text = (lossy bytes).toList := by
  constructor
  · intro h
    induction h with
    | nil => rw [lossy_nil]; rfl
    | char c _ ih => rw [toList_lossy_utf8EncodeChar_append, ih]
    | part hpart _ ih => rw [toList_lossy_part_append hpart, ih]
  · rintro rfl
    exact lossyText_lossy bytes

/-- Well-formed bytes are read as the text they come from. -/
theorem lossy_encode (s : String) : lossy (encode s) = s := by
  rw [← String.toList_inj, encode]
  induction s.toList with
  | nil => simp [lossy_nil]
  | cons c rest ih => rw [List.flatMap_cons, toList_lossy_utf8EncodeChar_append, ih]

end Watchdog.Utf8
