/-!
# UTF-8 from a stream

Bytes come in pieces that need not end where a character ends.  What stands at the beginning of a
byte string is a character, or an ill-formed part, or the beginning of a character of which the
rest has not come.  An ill-formed part is as long as it can be while it still begins like a
character, and takes at least one byte.

`check` reads bytes that must be a text and says where they stop being one; `lossy` reads any bytes
and puts one replacement character for each ill-formed part.
-/

namespace Watchdog.Utf8

/-- Stands for an ill-formed part of the input. -/
def replacement : Char := '\uFFFD'

/-- A byte after the first of a character. -/
def isTail (b : UInt8) : Bool := 0x80 ≤ b && b ≤ 0xBF

/-- How many bytes the character takes that this byte begins; `0` if no character begins so.
`C0` and `C1` would begin an overlong form, `F5` and above a value past the last code point. -/
def width (b : UInt8) : Nat :=
  if b ≤ 0x7F then 1
  else if b < 0xC2 then 0
  else if b ≤ 0xDF then 2
  else if b ≤ 0xEF then 3
  else if b ≤ 0xF4 then 4
  else 0

/-- May `b` follow the leading byte `a`?  After four leading bytes the range is narrower: `E0` and
`F0` leave out overlong forms, `ED` the surrogates, `F4` what lies past the last code point. -/
def secondOk (a b : UInt8) : Bool :=
  if a = 0xE0 then 0xA0 ≤ b && b ≤ 0xBF
  else if a = 0xED then 0x80 ≤ b && b ≤ 0x9F
  else if a = 0xF0 then 0x90 ≤ b && b ≤ 0xBF
  else if a = 0xF4 then 0x80 ≤ b && b ≤ 0x8F
  else isTail b

/-- The six bits that a later byte adds. -/
def tailBits (b : UInt8) : Nat := b.toNat - 0x80

/-- The characters of two, three and four bytes. -/
def char2 (a b : UInt8) : Char :=
  Char.ofNat ((a.toNat - 0xC0) * 0x40 + tailBits b)

@[inherit_doc char2]
def char3 (a b c : UInt8) : Char :=
  Char.ofNat ((a.toNat - 0xE0) * 0x1000 + tailBits b * 0x40 + tailBits c)

@[inherit_doc char2]
def char4 (a b c d : UInt8) : Char :=
  Char.ofNat ((a.toNat - 0xF0) * 0x40000 + tailBits b * 0x1000 + tailBits c * 0x40 + tailBits d)

/-- What stands at the beginning of a byte string. -/
inductive Front where
  /-- A character of so many bytes. -/
  | char (c : Char) (size : Nat)
  /-- An ill-formed part of so many bytes. -/
  | illFormed (size : Nat)
  /-- The bytes end within a character. -/
  | unfinished
deriving Repr, DecidableEq

/-- Looks at the beginning of the byte string `a :: rest`. -/
def front (a : UInt8) (rest : List UInt8) : Front :=
  if width a = 1 then .char (Char.ofNat a.toNat) 1
  else if width a = 0 then .illFormed 1
  else
    match rest with
    | [] => .unfinished
    | b :: rest =>
      if !secondOk a b then .illFormed 1
      else if width a = 2 then .char (char2 a b) 2
      else
        match rest with
        | [] => .unfinished
        | c :: rest =>
          if !isTail c then .illFormed 2
          else if width a = 3 then .char (char3 a b c) 3
          else
            match rest with
            | [] => .unfinished
            | d :: _ => if isTail d then .char (char4 a b c d) 4 else .illFormed 3

/-- A character takes one to four of the bytes. -/
theorem char_size {a : UInt8} {rest : List UInt8} {c : Char} {size : Nat}
    (h : front a rest = .char c size) : 0 < size ∧ size ≤ rest.length + 1 := by
  revert h
  fun_cases front a rest <;> grind

/-- An ill-formed part is not empty. -/
theorem illFormed_size {a : UInt8} {rest : List UInt8} {size : Nat}
    (h : front a rest = .illFormed size) : size ≠ 0 := by
  revert h
  fun_cases front a rest <;> grind

/-- Why bytes are not a text. -/
structure Fault where
  /-- So many bytes are read before it. -/
  validUpTo : Nat
  /-- The size of the ill-formed part; `none` if the bytes only end too early. -/
  size : Option Nat
deriving Repr, DecidableEq

/-- Reads on, after `passed` bytes that gave `text`. -/
def checkFrom (text : String) (passed : Nat) (bytes : List UInt8) : Except Fault String :=
  match bytes with
  | [] => .ok text
  | a :: rest =>
    match front a rest with
    | .char c size => checkFrom (text.push c) (passed + size) (rest.drop (size - 1))
    | .illFormed size => .error ⟨passed, some size⟩
    | .unfinished => .error ⟨passed, none⟩
termination_by bytes.length
decreasing_by
  simp only [List.length_drop, List.length_cons]
  omega

/-- The text of bytes that are one. -/
def check (bytes : List UInt8) : Except Fault String := checkFrom "" 0 bytes

/-- A fault lies within the bytes, and an ill-formed part is not empty. -/
theorem fault_of_checkFrom {text : String} {passed : Nat} {bytes : List UInt8} {f : Fault}
    (h : checkFrom text passed bytes = .error f) :
    f.validUpTo < passed + bytes.length ∧ f.size ≠ some 0 := by
  fun_induction checkFrom text passed bytes with
  | case1 => cases h
  | case2 text passed a rest c size hfront ih =>
    obtain ⟨hlt, hsize⟩ := ih h
    refine ⟨?_, hsize⟩
    have hpos : 0 < size ∧ size ≤ rest.length + 1 := char_size hfront
    simp only [List.length_drop] at hlt
    simp only [List.length_cons]
    omega
  | case3 text passed a rest size hfront =>
    cases h
    exact ⟨by simp, by simpa using illFormed_size hfront⟩
  | case4 text passed a rest hfront =>
    cases h
    exact ⟨by simp, by simp⟩

/-- Reads on, after bytes that gave `text`. -/
def lossyFrom (text : String) (bytes : List UInt8) : String :=
  match bytes with
  | [] => text
  | a :: rest =>
    match front a rest with
    | .char c size => lossyFrom (text.push c) (rest.drop (size - 1))
    | .illFormed size => lossyFrom (text.push replacement) (rest.drop (size - 1))
    | .unfinished => text.push replacement
termination_by bytes.length
decreasing_by
  all_goals
    simp only [List.length_drop, List.length_cons]
    omega

/-- The text of any bytes, with a replacement character for each ill-formed part. -/
def lossy (bytes : List UInt8) : String := lossyFrom "" bytes

/-- The bytes of a text. -/
def encode (s : String) : List UInt8 := s.toList.flatMap String.utf8EncodeChar

end Watchdog.Utf8
