import PcieSwitch.CommandLine.Grammar
import PcieSwitch.Device.Request

/-!
This module contains the commands of the program, the grammar of their arguments, and the reading of
arguments as a command.
-/

namespace PcieSwitch

inductive PrintStyle where
  | hex
  | dec
  | text
  deriving DecidableEq, Repr

inductive InjectionKind where
  | dllp
  | dllpCrc
  | tlpLcrc
  | tlpSequence
  | nack
  | creditTimeout
  deriving DecidableEq, Repr

structure SetupArguments where
  stack : UInt8
  kinds : List UInt32
  counter : Option Nat
  egress : Bool
  portMask : Option UInt8
  threshold : UInt32
  deriving DecidableEq, Repr

structure InjectionArguments where
  kind : InjectionKind
  port : UInt8
  enable : UInt8
  data : Option UInt32
  sequence : UInt16
  count : UInt8
  dllpCrcRate : UInt16
  tlpLcrcRate : UInt8
  deriving DecidableEq, Repr

inductive Action where
  | list (verbose : Bool)
  | status (reset : Bool)
  | bandwidth (time : Option Nat) (verbose : Bool)
  | selectBandwidth (kind : BandwidthKind)
  | latency (time : Option Nat) (egress ingress : UInt8)
  | events (all reset : Bool) (clear : List Event)
  | waitEvent (event : Event) (partition port : Option UInt32) (timeout : Option Nat)
  | test
  | temperature
  | hardReset (yes : Bool)
  | bindInfo (physical : UInt8)
  | bind (partition logical physical : UInt8)
  | unbind (partition logical : UInt8)
  | counters (stack : Option UInt8) (reset : Bool)
  | setupCounter (arguments : SetupArguments)
  | showCounter (stack : UInt8) (counter : Nat)
  | deleteCounter (stack : UInt8) (counter : Nat)
  | waitCounters (timeout : Option Nat)
  | dump (count : Option Nat) (text : Bool)
  | readRegisters (address bytes count : Nat) (style : PrintStyle)
  | writeRegister (address bytes : Nat) (value : UInt64) (yes : Bool)
  | inject (arguments : InjectionArguments)
  deriving DecidableEq, Repr

structure Invocation where
  device : Option String
  config : Option String
  level : LogLevel
  json : Bool
  tunnelled : Bool
  action : Action
  deriving DecidableEq, Repr

namespace Invocation

def commonOptions : List OptionRule := [
  ⟨"device", none, .one .text, false⟩,
  ⟨"config", none, .one .path, false⟩,
  ⟨"log-level", none, .one .level, false⟩,
  ⟨"json", none, .nothing, false⟩,
  ⟨"mrpc-gas", none, .nothing, false⟩
]

def command (name : String) (options : List OptionRule) (positionals : List PositionalRule := [])
    (oneOf : List String := []) : Grammar :=
  .mk name (options ++ commonOptions) positionals oneOf false []

def flag (name : String) (short : Char) : OptionRule :=
  ⟨name, some short, .nothing, false⟩

def optional (name : String) (short : Char) (kind : ValueKind) : OptionRule :=
  ⟨name, some short, .one kind, false⟩

def required (name : String) (short : Char) (kind : ValueKind) : OptionRule :=
  ⟨name, some short, .one kind, true⟩

def injections : List (String × Char × InjectionKind) := [
  ("dllp", 'd', .dllp), ("dllp-crc", 'D', .dllpCrc), ("tlp-lcrc", 'l', .tlpLcrc),
  ("tlp-seq", 's', .tlpSequence), ("nack", 'n', .nack), ("cto", 't', .creditTimeout)
]

def bandwidthKinds : List (String × BandwidthKind) :=
  [("raw", .raw), ("payload", .payload)]

def printStyles : List (String × PrintStyle) :=
  [("hex", .hex), ("dec", .dec), ("str", .text)]

def registerGrammar : Grammar :=
  .mk "gas" commonOptions [] [] false [
    command "dump" [optional "count" 'n' .size, flag "text" 't'],
    command "read" [
      required "addr" 'a' .size, optional "bytes" 'b' .wide, optional "count" 'n' .size,
      optional "print" 'p' (.choice (printStyles.map Prod.fst))
    ],
    command "write" [
      required "addr" 'a' .size, optional "bytes" 'b' .wide, required "value" 'v' .size, flag "yes" 'y'
    ]
  ]

def grammar : Grammar :=
  .mk "switchtec" commonOptions [] [] true [
    command "list" [flag "verbose" 'v'],
    command "status" [flag "reset" 'r'],
    command "bw" [optional "time" 't' .wide, flag "verbose" 'v'],
    command "bw-type" [] [⟨"kind", .choice (bandwidthKinds.map Prod.fst)⟩],
    command "latency" [
      optional "time" 't' .wide, required "egress" 'e' (.number 8), optional "ingress" 'i' (.number 8)
    ],
    command "events" [flag "all" 'a', flag "reset" 'r', ⟨"event", some 'e', .many .event, false⟩],
    command "event-wait" [
      required "event" 'e' .event, optional "partition" 'p' (.number 32), optional "port" 'q' (.number 32),
      optional "timeout" 't' .wide
    ],
    command "test" [],
    command "temp" [],
    command "hard-reset" [flag "yes" 'y'],
    command "port-bind-info" [required "physical" 'f' (.number 8)],
    command "port-bind" [
      required "partition" 'p' (.number 8), required "logical" 'l' (.number 8),
      required "physical" 'f' (.number 8)
    ],
    command "port-unbind" [required "partition" 'p' (.number 8), required "logical" 'l' (.number 8)],
    command "evcntr" [optional "stack" 's' (.number 8), flag "reset" 'r'],
    command "evcntr-setup" [
      required "stack" 's' (.number 8), ⟨"event", some 'e', .many .countedKind, true⟩,
      optional "counter" 'c' .wide, flag "egress" 'g', optional "port-mask" 'p' .portMask,
      optional "thresh" 't' (.number 32)
    ],
    command "evcntr-show" [required "stack" 's' (.number 8), required "counter" 'c' .wide],
    command "evcntr-del" [required "stack" 's' (.number 8), required "counter" 'c' .wide],
    command "evcntr-wait" [optional "timeout" 't' .wide],
    registerGrammar,
    command "linkerr-inject"
      (injections.map (fun (name, short, _) => flag name short) ++ [
        optional "port" 'p' (.number 8), optional "enable" 'e' (.number 8), optional "data" 'i' .dword,
        optional "seq-num" 'S' (.number 16), optional "count" 'c' (.number 8),
        optional "dllp-crc-rate" 'r' (.number 16), optional "tlp-lcrc-rate" 'R' (.number 8)
      ])
      []
      (injections.map Prod.fst)
  ]

def value? (g : Given) (name : String) (parse : String → Except UsageError α) : Except UsageError (Option α) :=
  match (g.values name).getLast? with
  | none => return none
  | some s => return some (← parse s)

def value (g : Given) (name : String) (parse : String → Except UsageError α) : Except UsageError α := do
  match ← value? g name parse with
  | some v => return v
  | none => throw .argumentMissing

def withDefault (g : Given) (name : String) (parse : String → Except UsageError α) (default : α)
    : Except UsageError α := do
  return (← value? g name parse).getD default

def word8 (s : String) : Except UsageError UInt8 :=
  (ValueKind.parseSigned 8 s).map UInt8.ofNat

def word16 (s : String) : Except UsageError UInt16 :=
  (ValueKind.parseSigned 16 s).map UInt16.ofNat

def word32 (s : String) : Except UsageError UInt32 :=
  (ValueKind.parseSigned 32 s).map UInt32.ofNat

def wide (s : String) : Except UsageError Nat :=
  ValueKind.parseWide s

def refuse (result : Except ValueError α) : Except UsageError α :=
  result.mapError fun _ => .valueInvalid

def size (s : String) : Except UsageError Nat :=
  refuse (Value.parseSize s)

def choice (names : List (String × α)) (s : String) : Except UsageError α :=
  match names.lookup s with
  | some v => .ok v
  | none => .error .valueNotAChoice

def injection (g : Given) : Except UsageError InjectionKind :=
  match injections.find? fun (name, _) => g.has name with
  | some (_, _, kind) => .ok kind
  | none => .error .argumentMissing

def actionOf (names : List String) (g : Given) : Except UsageError Action :=
  match names with
  | ["list"] => return .list (g.has "verbose")
  | ["status"] => return .status (g.has "reset")
  | ["bw"] => return .bandwidth (← value? g "time" wide) (g.has "verbose")
  | ["bw-type"] => return .selectBandwidth (← value g "kind" (choice bandwidthKinds))
  | ["latency"] =>
    return .latency (← value? g "time" wide) (← value g "egress" word8)
      (← withDefault g "ingress" word8 anyIngress)
  | ["events"] =>
    return .events (g.has "all") (g.has "reset")
      (← (g.values "event").mapM fun s => refuse (Value.parseEvent s))
  | ["event-wait"] =>
    return .waitEvent (← value g "event" fun s => refuse (Value.parseEvent s)) (← value? g "partition" word32)
      (← value? g "port" word32) (← value? g "timeout" wide)
  | ["test"] => return .test
  | ["temp"] => return .temperature
  | ["hard-reset"] => return .hardReset (g.has "yes")
  | ["port-bind-info"] => return .bindInfo (← value g "physical" word8)
  | ["port-bind"] =>
    return .bind (← value g "partition" word8) (← value g "logical" word8) (← value g "physical" word8)
  | ["port-unbind"] => return .unbind (← value g "partition" word8) (← value g "logical" word8)
  | ["evcntr"] => return .counters (← value? g "stack" word8) (g.has "reset")
  | ["evcntr-setup"] =>
    return .setupCounter {
      stack := ← value g "stack" word8
      kinds := ← (g.values "event").mapM fun s => refuse (Value.parseKind s)
      counter := ← value? g "counter" wide
      egress := g.has "egress"
      portMask := ← value? g "port-mask" fun s => refuse (Value.parsePortMask s)
      threshold := ← withDefault g "thresh" word32 0
    }
  | ["evcntr-show"] => return .showCounter (← value g "stack" word8) (← value g "counter" wide)
  | ["evcntr-del"] => return .deleteCounter (← value g "stack" word8) (← value g "counter" wide)
  | ["evcntr-wait"] => return .waitCounters (← value? g "timeout" wide)
  | ["gas", "dump"] => return .dump (← value? g "count" size) (g.has "text")
  | ["gas", "read"] =>
    return .readRegisters (← value g "addr" size) (← withDefault g "bytes" wide 4)
      (← withDefault g "count" size 1) (← withDefault g "print" (choice printStyles) .hex)
  | ["gas", "write"] =>
    return .writeRegister (← value g "addr" size) (← withDefault g "bytes" wide 4)
      (UInt64.ofNat (← value g "value" size)) (g.has "yes")
  | ["linkerr-inject"] =>
    return .inject {
      kind := ← injection g
      port := ← withDefault g "port" word8 0
      enable := ← withDefault g "enable" word8 0
      data := ← value? g "data" fun s => refuse (Value.parseDword s)
      sequence := ← withDefault g "seq-num" word16 0
      count := ← withDefault g "count" word8 0
      dllpCrcRate := ← withDefault g "dllp-crc-rate" word16 0
      tlpLcrcRate := ← withDefault g "tlp-lcrc-rate" word8 0
    }
  | _ => throw .subcommandUnknown

def ofArguments (args : List String) : Except UsageError Invocation := do
  let levels ← grammar.read {} args
  let common : Given := levels.flatMap Prod.snd
  let given : Given := (levels.getLast?.map Prod.snd).getD []
  return {
    device := ← value? common "device" .ok
    config := ← value? common "config" .ok
    level := ← withDefault common "log-level" (fun s => refuse (LogLevel.parse s)) .warning
    json := common.has "json"
    tunnelled := common.has "mrpc-gas"
    action := ← actionOf (levels.tail.map Prod.fst) given
  }

end Invocation
end PcieSwitch
