import Watchdog.Text.Utf8

/-!
# Text that commands write

The backslash escapes of `echo` and the formats of `printf`.  An escape can write any byte, so the
result is bytes.
-/

namespace Watchdog.Host.Shell

namespace Format

/-- The byte of an escape with one letter. -/
def escape? (c : Char) : Option UInt8 :=
  match c with
  | 'a' => some 7
  | 'b' => some 8
  | 't' => some 9
  | 'n' => some 10
  | 'v' => some 11
  | 'f' => some 12
  | 'r' => some 13
  | '\\' => some 92
  | _ => none

def isOctal (c : Char) : Bool := '0' ≤ c && c ≤ '7'

/-- Up to `most` octal digits as a byte, and the rest. -/
def octal (most : Nat) (cs : List Char) : UInt8 × List Char :=
  let digits := (cs.take most).takeWhile isOctal
  (UInt8.ofNat (digits.foldl (fun n c => n * 8 + (c.toNat - '0'.toNat)) 0), cs.drop digits.length)

/-- What is left is no longer than before. -/
theorem octal_length_le (most : Nat) (cs : List Char) : (octal most cs).2.length ≤ cs.length := by
  simp [octal]

/-- Text with escapes as bytes; the flag says that `\c` ended all output.  An octal escape begins
with a zero. -/
def unescape (acc : List UInt8) (cs : List Char) : List UInt8 × Bool :=
  match cs with
  | [] => (acc.reverse, false)
  | '\\' :: 'c' :: _ => (acc.reverse, true)
  | '\\' :: '0' :: rest =>
    let read := octal 3 rest
    unescape (read.1 :: acc) read.2
  | '\\' :: c :: rest =>
    match escape? c with
    | some byte => unescape (byte :: acc) rest
    | none => unescape ((Utf8.encode (String.ofList ['\\', c])).reverse ++ acc) rest
  | c :: rest => unescape ((Utf8.encode (String.singleton c)).reverse ++ acc) rest
termination_by cs.length
decreasing_by
  · have := octal_length_le 3 rest
    simp only [List.length_cons]
    omega
  all_goals (simp only [List.length_cons]; omega)

/-- How one argument is written. -/
structure Directive where
  left : Bool
  zeros : Bool
  width : Nat
  precision : Option Nat
  conversion : Char

/-- A piece of a format. -/
inductive FormatPart where
  | bytes (l : List UInt8)
  | argument (d : Directive)

/-- What follows a percent sign. -/
def directive? (cs : List Char) : Option (Directive × List Char) :=
  let flags := cs.takeWhile fun c => c == '-' || c == '0'
  let rest := cs.drop flags.length
  let width := rest.takeWhile Char.isDigit
  let rest := rest.drop width.length
  let (precision, rest) := match rest with
    | '.' :: rest =>
      let digits := rest.takeWhile Char.isDigit
      (some ((String.ofList digits).toNat?.getD 0), rest.drop digits.length)
    | rest => (none, rest)
  match rest with
  | c :: rest =>
    if "sbcdiuoxX".toList.contains c then
      some (⟨flags.contains '-', flags.contains '0', (String.ofList width).toNat?.getD 0, precision, c⟩,
        rest)
    else none
  | [] => none

/-- The pieces of a format. -/
def formatParts (fuel : Nat) (acc : List FormatPart) (cs : List Char) : List FormatPart :=
  match fuel with
  | 0 => acc.reverse
  | fuel + 1 =>
    match cs with
    | [] => acc.reverse
    | '%' :: '%' :: rest => formatParts fuel (.bytes [37] :: acc) rest
    | '%' :: rest =>
      match directive? rest with
      | some (d, rest) => formatParts fuel (.argument d :: acc) rest
      | none => formatParts fuel (.bytes [37] :: acc) rest
    | '\\' :: c :: rest =>
      if isOctal c then
        let (byte, rest) := octal 3 (c :: rest)
        formatParts fuel (.bytes [byte] :: acc) rest
      else
        match escape? c with
        | some byte => formatParts fuel (.bytes [byte] :: acc) rest
        | none => formatParts fuel (.bytes (Utf8.encode (String.ofList ['\\', c])) :: acc) rest
    | c :: rest => formatParts fuel (.bytes (Utf8.encode (String.singleton c)) :: acc) rest

/-- Fills up to a width. -/
def pad (d : Directive) (text : List UInt8) : List UInt8 :=
  let missing := d.width - text.length
  if d.left then text ++ List.replicate missing 32
  else if d.zeros && d.conversion != 's' then
    match text with
    | 45 :: rest => 45 :: (List.replicate missing 48 ++ rest)
    | text => List.replicate missing 48 ++ text
  else List.replicate missing 32 ++ text

/-- A number in the base of a conversion. -/
def numberText (conversion : Char) (n : Int) : String :=
  match conversion with
  | 'o' => String.ofList (Nat.toDigits 8 n.toNat)
  | 'x' => String.ofList (Nat.toDigits 16 n.toNat)
  | 'X' => (String.ofList (Nat.toDigits 16 n.toNat)).toUpper
  | _ => toString n

/-- One argument as its directive writes it; the flag says that output ends. -/
def formatArgument (d : Directive) (number? : String → Option Int64) (arg : String) :
    List UInt8 × Bool :=
  match d.conversion with
  | 's' =>
    let bytes := Utf8.encode arg
    (pad d (match d.precision with
      | some n => bytes.take n
      | none => bytes), false)
  | 'b' =>
    let (bytes, ended) := unescape [] arg.toList
    (pad d bytes, ended)
  | 'c' => (pad d ((Utf8.encode arg).take 1), false)
  | c => (pad d (Utf8.encode (numberText c ((number? arg).getD 0).toInt)), false)

/-- One pass over the pieces: the output, the arguments left, and whether output ends. -/
def formatPass (number? : String → Option Int64) (acc : List UInt8) (args : List String) :
    List FormatPart → List UInt8 × List String × Bool
  | [] => (acc, args, false)
  | .bytes l :: rest => formatPass number? (acc ++ l) args rest
  | .argument d :: rest =>
    let (bytes, ended) := formatArgument d number? (args.headD "")
    if ended then (acc ++ bytes, [], true) else formatPass number? (acc ++ bytes) args.tail rest

/-- Passes over the pieces until the arguments are used up; at least one. -/
def formatAll (fuel : Nat) (number? : String → Option Int64) (parts : List FormatPart)
    (acc : List UInt8) (args : List String) : List UInt8 :=
  match fuel with
  | 0 => acc
  | fuel + 1 =>
    let (acc, rest, ended) := formatPass number? acc args parts
    if ended || rest.isEmpty || rest.length = args.length then acc
    else formatAll fuel number? parts acc rest

/-- The output of `printf`. -/
def printf (number? : String → Option Int64) (format : String) (args : List String) : List UInt8 :=
  formatAll (args.length + 1) number? (formatParts (format.length + 1) [] format.toList) [] args

/-- The output of `echo` for its words: with escapes or without. -/
def echo (escapes : Bool) (words : List String) : List UInt8 :=
  let (words, newline) := match words with
    | "-n" :: rest => (rest, false)
    | words => (words, true)
  let text := " ".intercalate words
  let (bytes, ended) := if escapes then unescape [] text.toList else (Utf8.encode text, false)
  if newline && !ended then bytes ++ [10] else bytes

end Format

end Watchdog.Host.Shell
