import PcieSwitch.Text.Numeral

/-!
This module contains the reading of TOML documents that are flat: keys with strings or integers. A document
with anything else in it (tables, dotted keys, lists, other values) is refused as a whole.
-/

namespace PcieSwitch.Toml

inductive Value where
  | string (s : String)
  | integer (n : Int)
  deriving DecidableEq, Repr

abbrev Reader (α : Type) := List Char → Option (α × List Char)

def isSpace (c : Char) : Bool :=
  c == ' ' || c == '\t'

def isControl (c : Char) : Bool :=
  (c.toNat < 0x20 && c != '\t') || c.toNat == 0x7F

def dropSpaces (cs : List Char) : List Char :=
  cs.dropWhile isSpace

def newline? : List Char → Option (List Char)
  | '\n' :: cs => some cs
  | '\r' :: '\n' :: cs => some cs
  | _ => none

def scalar? (digits : List Char) : Option Char := do
  let n ← (Numeral.digits 16 UInt32.size 0 digits).toOption
  if n < 0xD800 ∨ (0xDFFF < n ∧ n < 0x110000) then some (Char.ofNat n) else none

def coded? (width : Nat) : Reader Char := fun cs =>
  if cs.length < width then none else (scalar? (cs.take width)).map (·, cs.drop width)

def escape? : Reader Char
  | 'b' :: cs => some ('\x08', cs)
  | 't' :: cs => some ('\t', cs)
  | 'n' :: cs => some ('\n', cs)
  | 'f' :: cs => some ('\x0c', cs)
  | 'r' :: cs => some ('\r', cs)
  | 'e' :: cs => some ('\x1b', cs)
  | '"' :: cs => some ('"', cs)
  | '\\' :: cs => some ('\\', cs)
  | 'x' :: cs => coded? 2 cs
  | 'u' :: cs => coded? 4 cs
  | 'U' :: cs => coded? 8 cs
  | _ => none

theorem length_coded? {width : Nat} {cs rest : List Char} {c : Char}
    (h : coded? width cs = some (c, rest)) : rest.length ≤ cs.length := by
  unfold coded? at h
  split at h
  · simp at h
  · simp only [Option.map_eq_some_iff, Prod.mk.injEq] at h
    obtain ⟨_, _, _, rfl⟩ := h
    exact (List.drop_sublist _ _).length_le

theorem length_escape? {cs rest : List Char} {c : Char} (h : escape? cs = some (c, rest)) :
    rest.length < cs.length := by
  unfold escape? at h
  split at h
  all_goals first
    | exact Nat.lt_succ_of_le (length_coded? h)
    | simp_all

def basicRest (cs : List Char) : Option (List Char × List Char) :=
  match cs with
  | [] => none
  | c :: cs =>
    if c = '"' then some ([], cs)
    else if c = '\\' then
      match h : escape? cs with
      | none => none
      | some (e, rest) =>
        have := length_escape? h
        (basicRest rest).map fun (s, rest) => (e :: s, rest)
    else if isControl c then none
    else (basicRest cs).map fun (s, rest) => (c :: s, rest)
  termination_by cs.length
  decreasing_by all_goals simp only [List.length_cons]; omega

def literalRest : Reader (List Char)
  | [] => none
  | c :: cs =>
    if c = '\'' then some ([], cs)
    else if isControl c then none
    else (literalRest cs).map fun (s, rest) => (c :: s, rest)

def endsLine (cs : List Char) : Bool :=
  (newline? (dropSpaces cs)).isSome

def dropLines : List Char → List Char
  | [] => []
  | '\r' :: '\n' :: cs => dropLines cs
  | c :: cs => if isSpace c || c == '\n' then dropLines cs else c :: cs

theorem length_dropLines (cs : List Char) : (dropLines cs).length ≤ cs.length := by
  fun_induction dropLines cs with
  | case1 => simp
  | case2 cs ih => exact Nat.le_trans ih (Nat.le_add_right _ 2)
  | case3 c cs _ _ ih => exact Nat.le_trans ih (Nat.le_add_right _ 1)
  | case4 => simp

/--
The rest of a string over several lines. Three marks end it, and up to two more of them may stand right
before these. Line ends stay as they are written. Where `escapes` says so, backslashes escape, and one at
the end of a line takes the blanks and line ends after it away.
-/
def longRest (mark : Char) (escapes : Bool) (cs : List Char) : Option (List Char × List Char) :=
  match cs with
  | [] => none
  | c :: cs =>
    if c = mark ∧ cs.take 2 = [mark, mark] then
      let extra := ((cs.drop 2).take 2).takeWhile (· == mark)
      some (extra, cs.drop (2 + extra.length))
    else if escapes ∧ c = '\\' then
      if endsLine cs then
        have := length_dropLines cs
        longRest mark escapes (dropLines cs)
      else
        match h : escape? cs with
        | none => none
        | some (e, rest) =>
          have := length_escape? h
          (longRest mark escapes rest).map fun (s, rest) => (e :: s, rest)
    else if isControl c ∧ newline? (c :: cs) = none then none
    else (longRest mark escapes cs).map fun (s, rest) => (c :: s, rest)
  termination_by cs.length
  decreasing_by all_goals simp_all only [List.length_cons]; omega

def long (mark : Char) (escapes : Bool) (cs : List Char) : Option (List Char × List Char) :=
  longRest mark escapes ((newline? cs).getD cs)

def string? : Reader String
  | '"' :: '"' :: '"' :: cs => (long '"' true cs).map fun (s, rest) => (String.ofList s, rest)
  | '\'' :: '\'' :: '\'' :: cs => (long '\'' false cs).map fun (s, rest) => (String.ofList s, rest)
  | '"' :: cs => (basicRest cs).map fun (s, rest) => (String.ofList s, rest)
  | '\'' :: cs => (literalRest cs).map fun (s, rest) => (String.ofList s, rest)
  | _ => none

def digits? (base : Nat) (cs : List Char) : Option Nat :=
  go 0 cs
where
  go (value : Nat) : List Char → Option Nat
    | [] => none
    | c :: cs => do
      let value := base * value + (← Numeral.digit? base c)
      match cs with
      | [] => return value
      | '_' :: cs => go value cs
      | cs => go value cs

def decimal? : List Char → Option Nat
  | ['0'] => some 0
  | '0' :: _ => none
  | cs => digits? 10 cs

def integer? : List Char → Option Int
  | '+' :: cs => (decimal? cs).map Int.ofNat
  | '-' :: cs => (decimal? cs).map fun n => -(n : Int)
  | '0' :: 'x' :: cs => (digits? 16 cs).map Int.ofNat
  | '0' :: 'o' :: cs => (digits? 8 cs).map Int.ofNat
  | '0' :: 'b' :: cs => (digits? 2 cs).map Int.ofNat
  | cs => (decimal? cs).map Int.ofNat

def endsBare (c : Char) : Bool :=
  isSpace c || c == '\n' || c == '\r' || c == '#'

def value? (cs : List Char) : Option (Value × List Char) :=
  match string? cs with
  | some (s, rest) => some (.string s, rest)
  | none => (integer? (cs.takeWhile (!endsBare ·))).map fun n => (.integer n, cs.dropWhile (!endsBare ·))

def isBareKey (c : Char) : Bool :=
  c.isAlphanum || c == '_' || c == '-'

def key? (cs : List Char) : Option (String × List Char) :=
  match cs with
  | '"' :: cs => (basicRest cs).map fun (s, rest) => (String.ofList s, rest)
  | '\'' :: cs => (literalRest cs).map fun (s, rest) => (String.ofList s, rest)
  | cs =>
    let name := cs.takeWhile isBareKey
    if name.isEmpty then none else some (String.ofList name, cs.dropWhile isBareKey)

def lineEnd? (cs : List Char) : Option (List Char) :=
  match dropSpaces cs with
  | '#' :: cs => finish (cs.dropWhile (!isControl ·))
  | cs => finish cs
where
  finish (cs : List Char) : Option (List Char) :=
    if cs.isEmpty then some [] else newline? cs

def entry? (cs : List Char) : Option ((String × Value) × List Char) := do
  let (key, cs) ← key? cs
  match dropSpaces cs with
  | '=' :: cs =>
    let (value, cs) ← value? (dropSpaces cs)
    return ((key, value), cs)
  | _ => none

def entries? (fuel : Nat) (cs : List Char) : Option (List (String × Value)) :=
  match fuel with
  | 0 => none
  | fuel + 1 =>
    if cs.isEmpty then some []
    else
      match lineEnd? cs with
      | some rest => entries? fuel rest
      | none => do
        let (entry, rest) ← entry? (dropSpaces cs)
        let rest ← lineEnd? rest
        return entry :: (← entries? fuel rest)

/--
The entries of a document, in their order. No key may occur twice. A byte order mark is passed over.
-/
def parse? (s : String) : Option (List (String × Value)) := do
  let cs := match s.toList with
    | '\uFEFF' :: cs => cs
    | cs => cs
  let entries ← entries? (cs.length + 1) cs
  if (entries.map Prod.fst).eraseDups.length = entries.length then some entries else none

end PcieSwitch.Toml
