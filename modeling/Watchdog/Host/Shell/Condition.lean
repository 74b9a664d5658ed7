import Watchdog.Host.Shell.Arithmetic
import Watchdog.Host.Shell.State

/-!
# Conditions

What `test` finds about strings, numbers and files.
-/

namespace Watchdog.Host.Shell

namespace Condition

/-- Whether a file is as asked for; nothing may be written. -/
def file (dir : List String) (op : Char) (path : String) : Bool :=
  match Files.lookUp dir path, op with
  | .error _, _ => false
  | .ok .directory, c => "defrsx".toList.contains c && c != 'f'
  | .ok .plain, c => "efrs".toList.contains c
  | .ok (.program _), c => "efrsx".toList.contains c

/-- A condition on one operand; `none` if there is no such operator. -/
def unary (dir : List String) (op arg : String) : Option Bool :=
  match op.toList with
  | ['-', 'n'] => some (!arg.isEmpty)
  | ['-', 'z'] => some arg.isEmpty
  | ['-', 't'] => some false
  | ['-', c] => if "defrswxLhpSbc".toList.contains c then some (file dir c arg) else none
  | _ => none

/-- A comparison of numbers. -/
def compare? (op : String) : Option (Int64 → Int64 → Bool) :=
  match op with
  | "-eq" => some (· == ·)
  | "-ne" => some (· != ·)
  | "-lt" => some fun a b => a < b
  | "-le" => some fun a b => a ≤ b
  | "-gt" => some fun a b => b < a
  | "-ge" => some fun a b => b ≤ a
  | _ => none

/-- A condition on two operands. -/
def binary (a op b : String) : Except String Bool :=
  match op with
  | "=" => .ok (a == b)
  | "==" => .ok (a == b)
  | "!=" => .ok (a != b)
  | _ =>
    match compare? op, Arithmetic.number? a, Arithmetic.number? b with
    | some f, some m, some n =>
      if a.isEmpty || b.isEmpty then .error ("Illegal number: ") else .ok (f m n)
    | some _, none, _ => .error ("Illegal number: " ++ a)
    | some _, _, none => .error ("Illegal number: " ++ b)
    | none, _, _ => .error (op ++ ": unexpected operator")

/-- The condition that words state; an error has a message. -/
def eval (dir : List String) : List String → Except String Bool
  | [] => .ok false
  | [a] => .ok (!a.isEmpty)
  | ["!", a] => .ok a.isEmpty
  | [op, a] =>
    match unary dir op a with
    | some b => .ok b
    | none => .error (op ++ ": unexpected operator")
  | ["!", op, a] => (eval dir [op, a]).map (!·)
  | [a, op, b] =>
    if op = "-a" then .ok (!a.isEmpty && !b.isEmpty)
    else if op = "-o" then .ok (!a.isEmpty || !b.isEmpty)
    else binary a op b
  | "!" :: rest => (eval dir rest).map (!·)
  | _ => .error "too many arguments"

end Condition

end Watchdog.Host.Shell
