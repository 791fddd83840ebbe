import PcieSwitch.Bytes
import PcieSwitch.Error
import PcieSwitch.Text.Blank
import PcieSwitch.Text.Split

/-!
This module contains what has to be known of a file system to find switches in it, and to read settings.
-/

namespace PcieSwitch

structure Files (m : Type → Type) where
  contents : (path : String) → m (Except SystemError Bytes)
  isThere : (path : String) → m Bool

structure FileSystem (m : Type → Type) extends Files m where
  entries : (path : String) → m (Except SystemError (List String))
  target : (path : String) → m (Except SystemError String)
  device : (path : String) → m (Except SystemError (Nat × Nat))

def FileSystem.empty : FileSystem Id where
  contents path := if isRoot path then .error .isADirectory else .error .notFound
  isThere := isRoot
  entries path := if isRoot path then .ok [] else .error .notFound
  target path := if isRoot path then .error .invalidArgument else .error .notFound
  device path := if isRoot path then .error .isADirectory else .error .notFound
where
  isRoot (path : String) : Bool :=
    path ≠ "" && (Text.splitAtEach '/' path.toList).all fun part => part = [] ∨ part = ['.'] ∨ part = ['.', '.']

namespace Files

variable [Monad m]

def text (fs : Files m) (path : String) : m (Except SystemError String) := do
  match ← fs.contents path with
  | .error e => return .error e
  | .ok data =>
    match data.utf8? with
    | some s => return .ok s
    | none => return .error .notText

def trimmed (fs : Files m) (path : String) : m (Except SystemError (List Char)) := do
  return (← fs.text path).map fun s => Text.trim s.toList

def withoutMarks : List Char → List Char
  | '0' :: 'x' :: cs => withoutMarks cs
  | cs => cs

def number (parse : List Char → Except NumeralError Nat) (fs : Files m) (path : String)
    : m (Except SystemError Nat) := do
  match ← fs.trimmed path with
  | .error e => return .error e
  | .ok cs => return (parse cs).mapError .notNumber

def decimal (fs : Files m) (path : String) : m (Except SystemError Nat) :=
  fs.number (Numeral.parseDec 32) path

def hexadecimal (fs : Files m) (path : String) : m (Except SystemError Nat) :=
  fs.number (fun cs => Numeral.parseHex 32 (withoutMarks cs)) path

end Files
end PcieSwitch
