import Watchdog.Host.Shell.Script

/-!
# From words to arguments

An expanded word is a row of pieces.  Text stays as it is; the results of expansions outside quotes
are split at blanks; the arguments of the script can stay apart.
-/

namespace Watchdog.Host.Shell

/-- A piece of an expanded word. -/
inductive Piece where
  | text (s : String) (quoted : Bool)
  /-- The result of an expansion outside quotes, to be split at blanks. -/
  | split (s : String)
  /-- Arguments that stay apart. -/
  | apart (l : List String)

def isBlankChar (c : Char) : Bool := c == ' ' || c == '\t' || c == '\n'

/-- The arguments so far, latest first, and the one that is not complete. -/
structure Fields where
  done : List String
  current : Option String

namespace Fields

def close (f : Fields) : Fields :=
  match f.current with
  | some text => ⟨text :: f.done, none⟩
  | none => f

def addText (f : Fields) (text : String) : Fields := { f with current := some (f.current.getD "" ++ text) }

def add (f : Fields) : Piece → Fields
  | .text s quoted => if s.isEmpty && !quoted then f else f.addText s
  | .split s => s.toList.foldl
      (fun f c => if isBlankChar c then f.close else f.addText (String.singleton c)) f
  | .apart [] => f
  | .apart (first :: rest) => rest.foldl (fun f text => f.close.addText text) (f.addText first)

end Fields

/-- The arguments that the pieces of a word make. -/
def fieldsOf (pieces : List Piece) : List String :=
  (pieces.foldl Fields.add ⟨[], none⟩).close.done.reverse

/-- All pieces as one text. -/
def joined (pieces : List Piece) : String :=
  pieces.foldl (fun acc piece => acc ++ match piece with
    | .text s _ => s
    | .split s => s
    | .apart l => " ".intercalate l) ""

/-- The text of an expansion as a piece. -/
def pieceOf (quoted : Bool) (text : String) : Piece := if quoted then .text text true else .split text

/-- The word is nothing but all arguments of the script, in quotes. -/
def isAllArguments (w : Word) : Bool :=
  match w with
  | [.text "" true, .param "@" .plain _ _ true] => true
  | _ => false

/-- The expansion of the word runs a command. -/
def substitutes (w : Word) : Bool :=
  w.any fun part => match part with
    | .command _ _ => true
    | _ => false

/-- What a text says without the newlines at its end. -/
def dropNewlinesAtEnd (text : String) : String :=
  String.ofList (text.toList.reverse.dropWhile (· == '\n')).reverse

end Watchdog.Host.Shell
