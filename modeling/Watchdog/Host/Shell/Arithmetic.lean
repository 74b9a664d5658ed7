/-!
# Arithmetic in scripts

Expressions over whole numbers of 64 bits, evaluated while they are read.  A comparison yields one
or zero.
-/

namespace Watchdog.Host.Shell

/-- Why an expression has no value. -/
inductive ArithError where
  | malformed
  | divisionByZero
deriving Repr, DecidableEq

def ArithError.message : ArithError → String
  | malformed => "expecting primary"
  | divisionByZero => "division by zero"

namespace Arithmetic

/-- The binary operators, longer ones first, each with how strongly it binds. -/
def operators : List (String × Nat) :=
  [ ("||", 1), ("&&", 2), ("==", 6), ("!=", 6), ("<=", 7), (">=", 7), ("<<", 8), (">>", 8),
    ("|", 3), ("^", 4), ("&", 5), ("<", 7), (">", 7), ("+", 9), ("-", 9), ("*", 10), ("/", 10),
    ("%", 10) ]

def dropBlanks (cs : List Char) : List Char := cs.dropWhile fun c => c == ' ' || c == '\t' || c == '\n'

/-- The operator that comes next. -/
def operator? (cs : List Char) : Option (String × Nat × List Char) :=
  operators.findSome? fun (op, strength) =>
    if op.toList.isPrefixOf cs then some (op, strength, cs.drop op.length) else none

def truth (b : Bool) : Int64 := if b then 1 else 0

/-- The value of an operation. -/
def apply (op : String) (a b : Int64) : Except ArithError Int64 :=
  match op with
  | "||" => .ok (truth (a != 0 || b != 0))
  | "&&" => .ok (truth (a != 0 && b != 0))
  | "|" => .ok (a ||| b)
  | "^" => .ok (a ^^^ b)
  | "&" => .ok (a &&& b)
  | "==" => .ok (truth (a == b))
  | "!=" => .ok (truth (a != b))
  | "<=" => .ok (truth (a ≤ b))
  | ">=" => .ok (truth (b ≤ a))
  | "<" => .ok (truth (a < b))
  | ">" => .ok (truth (b < a))
  | "<<" => .ok (a <<< b)
  | ">>" => .ok (a >>> b)
  | "+" => .ok (a + b)
  | "-" => .ok (a - b)
  | "*" => .ok (a * b)
  | "/" => if b = 0 then .error .divisionByZero else .ok (a / b)
  | _ => if b = 0 then .error .divisionByZero else .ok (a % b)

/-- The number that digits of a base write. -/
def digits (base : Nat) (cs : List Char) : Option Int64 :=
  (cs.foldl (fun acc c =>
    let digit := if c.isDigit then c.toNat - '0'.toNat else c.toLower.toNat - 'a'.toNat + 10
    match acc with
    | some n => if c.isAlphanum && digit < base then some (n * base + digit) else none
    | none => none) (some 0)).map Int64.ofNat

/-- A number: decimal, octal after a zero, or hexadecimal after `0x`. -/
def literal (cs : List Char) : Option Int64 :=
  match cs with
  | '0' :: 'x' :: rest => digits 16 rest
  | '0' :: rest => digits 8 rest
  | _ => digits 10 cs

/-- The number that a text is, with an optional sign. -/
def number? (text : String) : Option Int64 :=
  match dropBlanks text.toList with
  | '-' :: c :: rest => (literal (c :: rest)).map (- ·)
  | '+' :: c :: rest => literal (c :: rest)
  | [] => some 0
  | cs => literal cs

/-- The values of variables. -/
abbrev Lookup := String → Option String

mutual

/-- A number, variable, bracket or unary operation. -/
def primary (fuel : Nat) (look : Lookup) (cs : List Char) :
    Except ArithError (Int64 × List Char) :=
  match fuel with
  | 0 => .error .malformed
  | fuel + 1 =>
    match dropBlanks cs with
    | '(' :: rest => do
      let (v, rest) ← binary fuel look 1 rest
      match dropBlanks rest with
      | ')' :: rest => .ok (v, rest)
      | _ => .error .malformed
    | '-' :: rest => (primary fuel look rest).map fun (v, rest) => (-v, rest)
    | '+' :: rest => primary fuel look rest
    | '!' :: rest => (primary fuel look rest).map fun (v, rest) => (truth (v == 0), rest)
    | '~' :: rest => (primary fuel look rest).map fun (v, rest) => (~~~v, rest)
    | c :: rest =>
      let word := (c :: rest).takeWhile fun c => c.isAlphanum || c == '_'
      let rest := (c :: rest).dropWhile fun c => c.isAlphanum || c == '_'
      let value :=
        if c.isDigit then literal word
        else if word.isEmpty then none
        else number? ((look (String.ofList word)).getD "")
      match value with
      | some v => .ok (v, rest)
      | none => .error .malformed
    | [] => .error .malformed

/-- Operations that bind at least so strongly. -/
def binary (fuel : Nat) (look : Lookup) (least : Nat) (cs : List Char) :
    Except ArithError (Int64 × List Char) :=
  match fuel with
  | 0 => .error .malformed
  | fuel + 1 => do
    let (a, rest) ← primary fuel look cs
    continued fuel look least a rest

/-- Goes on after the left side of an operation. -/
def continued (fuel : Nat) (look : Lookup) (least : Nat) (a : Int64) (cs : List Char) :
    Except ArithError (Int64 × List Char) :=
  match fuel with
  | 0 => .error .malformed
  | fuel + 1 =>
    match operator? (dropBlanks cs) with
    | none => .ok (a, cs)
    | some (op, strength, rest) =>
      if strength < least then .ok (a, cs)
      else do
        let (b, rest) ← binary fuel look (strength + 1) rest
        let v ← apply op a b
        continued fuel look least v rest

end

/-- The value of an expression. -/
def eval (look : Lookup) (text : String) : Except ArithError Int64 := do
  let cs := dropBlanks text.toList
  if cs.isEmpty then return 0
  let (v, rest) ← binary (4 * cs.length + 4) look 1 cs
  if (dropBlanks rest).isEmpty then return v else .error .malformed

end Arithmetic

end Watchdog.Host.Shell
