import PcieSwitch.CommandLine.Values

/-!
This module contains grammars of command lines: which options, positional values and subcommands a command
has, and the reading of arguments by them.
-/

namespace PcieSwitch

inductive UsageError where
  | helpWanted
  | versionWanted
  | nothingGiven
  | subcommandMissing
  | subcommandUnknown
  | argumentUnknown
  | argumentMissing
  | argumentConflict
  | valueMissing
  | valueNotAllowed
  | valueNotAChoice
  | valueInvalid
  deriving DecidableEq, Repr

inductive ValueKind where
  | text
  | path
  | number (bits : Nat)
  | wide
  | size
  | dword
  | portMask
  | countedKind
  | event
  | level
  | choice (names : List String)
  deriving DecidableEq, Repr

namespace ValueKind

def parseSigned (bits : Nat) (s : String) : Except UsageError Nat :=
  let value? := match s.toList with
    | ['-'] => none
    | '-' :: cs => ((Numeral.digits 10 (1 <<< 63 + 1) 0 cs).toOption).map fun n => -(n : Int)
    | cs => ((Numeral.parseDec 63 cs).toOption).map Int.ofNat
  match value? with
  | some n => if 0 ≤ n ∧ n.toNat < 1 <<< bits then .ok n.toNat else .error .valueInvalid
  | none => .error .valueInvalid

def parseWide (s : String) : Except UsageError Nat :=
  (Numeral.parseDec 64 s.toList).mapError fun _ => .valueInvalid

def check (kind : ValueKind) (s : String) : Except UsageError Unit :=
  match kind with
  | .text => .ok ()
  | .path => if s = "" then .error .valueMissing else .ok ()
  | .number bits => discard (parseSigned bits s)
  | .wide => discard (parseWide s)
  | .size => invalid (Value.parseSize s)
  | .dword => invalid (Value.parseDword s)
  | .portMask => invalid (Value.parsePortMask s)
  | .countedKind => invalid (Value.parseKind s)
  | .event => invalid (Value.parseEvent s)
  | .level => invalid (LogLevel.parse s)
  | .choice names => if s ∈ names then .ok () else .error .valueNotAChoice
where
  discard {α ε : Type} (result : Except ε α) : Except ε Unit :=
    result.map fun _ => ()
  invalid {α ε : Type} (result : Except ε α) : Except UsageError Unit :=
    discard (result.mapError fun _ => .valueInvalid)

end ValueKind

inductive Takes where
  | nothing
  | one (kind : ValueKind)
  | many (kind : ValueKind)
  deriving DecidableEq, Repr

structure OptionRule where
  name : String
  short : Option Char := none
  takes : Takes := .nothing
  required : Bool := false
  deriving DecidableEq, Repr

structure PositionalRule where
  name : String
  kind : ValueKind
  deriving DecidableEq, Repr

/--
A command: its options and positional values, the options of which exactly one is needed, whether it tells
its version, and its subcommands, of which it needs one if it has any.
-/
inductive Grammar where
  | mk (name : String) (options : List OptionRule) (positionals : List PositionalRule)
    (oneOf : List String) (hasVersion : Bool) (subcommands : List Grammar)

namespace Grammar

def name : Grammar → String
  | mk name .. => name

def options : Grammar → List OptionRule
  | mk _ options .. => options

def positionals : Grammar → List PositionalRule
  | mk _ _ positionals .. => positionals

def oneOf : Grammar → List String
  | mk _ _ _ oneOf .. => oneOf

def hasVersion : Grammar → Bool
  | mk _ _ _ _ hasVersion _ => hasVersion

def subcommands : Grammar → List Grammar
  | mk _ _ _ _ _ subcommands => subcommands

def subcommand? (g : Grammar) (name : String) : Option Grammar :=
  g.subcommands.find? (·.name == name)

def long? (g : Grammar) (name : String) : Option OptionRule :=
  g.options.find? (·.name == name)

def short? (g : Grammar) (c : Char) : Option OptionRule :=
  g.options.find? (·.short == some c)

end Grammar

abbrev Given := List (String × List String)

namespace Given

def values (g : Given) (name : String) : List String :=
  g.flatMap fun (n, vs) => if n = name then vs else []

def has (g : Given) (name : String) : Bool :=
  g.any (·.1 == name)

end Given

namespace Grammar

/--
The reading of one command's arguments. An option that takes a value is open until its value is settled;
`awaiting` says that the value itself is still to come. `escaped` says that only positional values follow.
-/
structure State where
  given : Given := []
  opened : Option (OptionRule × List String) := none
  awaiting : Bool := false
  escaped : Bool := false
  position : Nat := 0

def settleOption (given : Given) (rule : OptionRule) (values : List String) : Except UsageError Given := do
  if rule.takes ≠ .nothing ∧ values.isEmpty then
    throw .valueMissing
  match rule.takes with
  | .nothing =>
    if given.has rule.name then throw .argumentConflict
    return given ++ [(rule.name, [])]
  | .one kind =>
    if given.has rule.name then throw .argumentConflict
    values.forM kind.check
    return given ++ [(rule.name, values)]
  | .many kind =>
    let pieces := values.flatMap fun v => (Text.splitAtEach ',' v.toList).map String.ofList
    pieces.forM kind.check
    return given ++ [(rule.name, pieces)]

def settle (st : State) : Except UsageError State := do
  match st.opened with
  | none => return st
  | some (rule, values) =>
    return { st with given := ← settleOption st.given rule values, opened := none, awaiting := false }

def takeOption (st : State) (rule : OptionRule) (attached : Option String) : Except UsageError State := do
  let st ← settle st
  match rule.takes, attached with
  | .nothing, _ => return { st with given := ← settleOption st.given rule [] }
  | _, some v => return { st with given := ← settleOption st.given rule [v] }
  | _, none => return { st with opened := some (rule, []), awaiting := true }

def takeLong (g : Grammar) (st : State) (text : List Char) : Except UsageError State := do
  let (name, attached) := match Text.splitAtFirst? '=' text with
    | some (name, value) => (String.ofList name, some (String.ofList value))
    | none => (String.ofList text, none)
  let special := name = "help" ∨ (g.hasVersion ∧ name = "version")
  match g.long? name with
  | some rule =>
    if rule.takes = .nothing ∧ attached.isSome then throw .valueNotAllowed
    takeOption st rule attached
  | none =>
    if ¬special then throw .argumentUnknown
    if attached.isSome then throw .valueNotAllowed
    let _ ← settle st
    throw (if name = "help" then .helpWanted else .versionWanted)

def takeShorts (g : Grammar) (st : State) : List Char → Except UsageError State
  | [] => return st
  | c :: cs => do
    match g.short? c with
    | some rule =>
      if rule.takes = .nothing then
        takeShorts g (← takeOption st rule none) cs
      else
        match cs with
        | [] => takeOption st rule none
        | '=' :: cs => takeOption st rule (some (String.ofList cs))
        | cs => takeOption st rule (some (String.ofList cs))
    | none =>
      if c = 'h' then
        let _ ← settle st
        throw .helpWanted
      if g.hasVersion ∧ c = 'V' then
        let _ ← settle st
        throw .versionWanted
      throw .argumentUnknown

def takePositional (g : Grammar) (st : State) (arg : String) : Except UsageError State := do
  match g.positionals[st.position]? with
  | some rule =>
    let st ← settle st
    return { st with
      opened := some (⟨rule.name, none, .one rule.kind, true⟩, [arg])
      awaiting := false
      position := st.position + 1
    }
  | none =>
    if g.subcommands.isEmpty then throw .argumentUnknown
    if st.escaped ∧ ((g.subcommand? arg).isSome ∨ arg = "help") then throw .argumentUnknown
    throw .subcommandUnknown

def validate (g : Grammar) (given : Given) (hasSubcommand : Bool) : Except UsageError Unit := do
  if !hasSubcommand && !g.subcommands.isEmpty then
    throw (if given.isEmpty then .nothingGiven else .subcommandMissing)
  let chosen := g.oneOf.filter given.has
  if 1 < chosen.length then throw .argumentConflict
  if !g.oneOf.isEmpty && chosen.isEmpty then throw .argumentMissing
  unless g.options.all (fun rule => !rule.required || given.has rule.name) do throw .argumentMissing
  unless g.positionals.all (fun rule => given.has rule.name) do throw .argumentMissing

def helpOn (g : Grammar) : List String → UsageError
  | [] => .helpWanted
  | name :: names =>
    match g.subcommand? name with
    | some sub => sub.helpOn names
    | none => if name = "help" ∧ !g.subcommands.isEmpty ∧ names.isEmpty then .helpWanted else .subcommandUnknown

/--
Read the arguments of a command and of the subcommands that they name. The result holds what was given at
each of these commands, with its name, outermost first.
-/
def read (g : Grammar) (st : State) : List String → Except UsageError (List (String × Given))
  | [] => do
    let st ← settle st
    validate g st.given false
    return [(g.name, st.given)]
  | arg :: args => do
    if !st.escaped then
      if !st.awaiting then
        if arg = "help" ∧ !g.subcommands.isEmpty then
          throw (g.helpOn args)
        if let some sub := g.subcommand? arg then
          let inner ← sub.read {} args
          let st ← settle st
          validate g st.given true
          return (g.name, st.given) :: inner
      match arg.toList with
      | ['-', '-'] => return ← g.read { st with escaped := true } args
      | '-' :: '-' :: text => return ← g.read (← g.takeLong st text) args
      | '-' :: c :: cs => return ← g.read (← g.takeShorts st (c :: cs)) args
      | _ =>
        if st.awaiting then
          let opened := st.opened.map fun (rule, values) => (rule, values ++ [arg])
          return ← g.read { st with opened, awaiting := false } args
    g.read (← g.takePositional st arg) args

end Grammar
end PcieSwitch
