import PcieSwitch.CharDevice.Events
import PcieSwitch.CharDevice.Packet
import PcieSwitch.CommandLine.Run

/-!
This module contains the program: the answers that a real machine gives to a session, and the entry point.
-/

namespace PcieSwitch

namespace Machine

structure State where
  device : Option IO.FS.Handle := none
  registers : Option IO.FS.Handle := none

/--
The number of an error. Some of the machine's calls report it with the opposite sign.
-/
def errorNumber (code : UInt32) : SystemError :=
  .number (if code < 0x80000000 then code.toNat else (0 - code).toNat)

def cause : IO.Error → SystemError
  | .otherError code _ | .resourceBusy code _ | .resourceVanished code _ | .unsupportedOperation code _
  | .hardwareFault code _ | .unsatisfiedConstraints code _ | .illegalOperation code _
  | .protocolError code _ | .timeExpired code _ | .interrupted _ code _ | .noFileOrDirectory _ code _
  | .invalidArgument _ code _ | .permissionDenied _ code _ | .resourceExhausted _ code _
  | .inappropriateType _ code _ | .noSuchThing _ code _ | .alreadyExists _ code _ => errorNumber code
  | .unexpectedEof => .other "unexpected end of file"
  | .userError text => .other text

def guarded (action : IO α) : IO (Except SystemError α) := do
  try
    return .ok (← action)
  catch e =>
    return .error (cause e)

def contents (path : String) : IO (Except SystemError Bytes) :=
  guarded do return (← IO.FS.readBinFile path).toList

def isThere (path : String) : IO Bool := do
  return (← guarded (IO.FS.realPath path)).toOption.isSome

def deviceNames : List String :=
  (List.range 256).map fun n => s!"switchtec{n}"

def entries (path : String) : IO (Except SystemError (List String)) := do
  if ← isThere path then
    return .ok (← deviceNames.filterM fun name => isThere (path ++ "/" ++ name))
  else
    return .error .notFound

def target (path : String) : IO (Except SystemError String) :=
  guarded do return s!"{← IO.FS.realPath path}"

def numbers (path : String) : IO (Nat × Nat) := do
  let name := (Discovery.fileName? path).getD ""
  match ← contents (Discovery.classDirectory ++ "/" ++ name ++ "/dev") with
  | .error _ => return (0, 0)
  | .ok data =>
    match (data.utf8?.getD "").trimAscii.toString.splitOn ":" with
    | [major, minor] => return ((major.toNat?).getD 0, (minor.toNat?).getD 0)
    | _ => return (0, 0)

def openFile (state : IO.Ref State) (path : String) : IO (Except SystemError (Nat × Nat)) :=
  guarded do
    let file ← IO.FS.Handle.mk path .readWrite
    state.modify fun s => { s with device := some file }
    numbers path

def fileSystem (state : IO.Ref State) : FileSystem IO where
  contents
  isThere
  entries
  target
  device := openFile state

def file (state : IO.Ref State) : (c : FileCall) → IO c.Answer
  | .write data => do
    match (← state.get).device with
    | none => return .error .noDevice
    | some file => guarded do
      file.write (ByteArray.mk data.toArray)
      file.flush
      return data.length
  | .read length => do
    match (← state.get).device with
    | none => return .error .noDevice
    | some file => guarded do return (← file.read (USize.ofNat length)).toList
  | .control .. => return .error (.number 38)
  | .poll .. => return .error (.number 38)

def log (threshold level : LogLevel) (line : LogLine) : IO Unit := do
  if level.ctorIdx ≤ threshold.ctorIdx then
    let values := line.values.map fun (key, value) => ", " ++ key ++ ": " ++ value
    IO.eprintln (level.name ++ " " ++ line.message ++ String.join values)

def device (state : IO.Ref State) (threshold : LogLevel) : (c : DeviceCall) → IO c.Answer
  | .exchange x => x.overFile.run.interpret (file state)
  | .event c => c.overFile.run.interpret (file state)
  | .now => IO.monoNanosNow
  | .log line => log threshold .debug line

def access (state : IO.Ref State) : (c : MemoryCall) → IO c.Answer
  | .load offset length => do
    match (← state.get).registers with
    | none => return []
    | some file =>
      file.rewind
      let _ ← file.read (USize.ofNat offset)
      return (← file.read (USize.ofNat length)).toList
  | .store offset data => do
    if let some file := (← state.get).registers then
      file.rewind
      let _ ← file.read (USize.ofNat offset)
      file.write (ByteArray.mk data.toArray)
      file.flush

def openRegisters (state : IO.Ref State) (path : String) (writable : Bool) : IO (Except SystemError Nat) :=
  guarded do
    let file ← IO.FS.Handle.mk path (if writable then .readWrite else .read)
    state.modify fun s => { s with registers := some file }
    return (← IO.FS.readBinFile path).size

/--
A line that is not UTF-8 cannot be had as it is, and is taken for a byte that is no text either.
-/
def question (text : String) : IO Bytes := do
  let err ← IO.getStderr
  err.putStr text
  err.flush
  match ← guarded (do (← IO.getStdin).getLine) with
  | .ok line => return Bytes.ofString line
  | .error _ => return [0xFF]

def sleep (seconds : Nat) : IO Unit := do
  for _ in [0:seconds] do
    IO.sleep 1000

def answer (state : IO.Ref State) (threshold : LogLevel) : (c : SessionCall) → IO c.Answer
  | .openDevice name => (Discovery.openNamed (fileSystem state) name).run
  | .listDevices => (Discovery.list (fileSystem state)).run
  | .device c => device state threshold c
  | .openRegisters path writable => openRegisters state path writable
  | .memory c => access state c
  | .contents path => contents path
  | .isThere path => isThere path
  | .variable name => IO.getEnv name
  | .print data => do (← IO.getStdout).write (ByteArray.mk data.toArray)
  | .report text => IO.eprint text
  | .question text => question text
  | .sleep seconds => sleep seconds
  | .calendar => return UInt32.ofNat ((← IO.monoMsNow) / 1000)
  | .log level line => log threshold level line

def run (i : Invocation) : IO (Except Failure Unit) := do
  let state ← IO.mkRef {}
  i.run.run.interpret (answer state i.level)

end Machine

def Failure.report (f : Failure) : String :=
  match f.chain with
  | [] => "Error"
  | [text] => "Error: " ++ text
  | [text, cause] => "Error: " ++ text ++ "\n\nCaused by:\n    " ++ cause
  | text :: causes =>
    "Error: " ++ text ++ "\n\nCaused by:"
      ++ String.join (causes.zipIdx.map fun (cause, i) => s!"\n    {i}: " ++ cause)

def UsageError.verdict : UsageError → String × UInt32
  | .helpWanted => ("usage: switchtec [OPTIONS] <COMMAND>", 0)
  | .versionWanted => ("switchtec", 0)
  | .nothingGiven | .subcommandMissing => ("usage: switchtec [OPTIONS] <COMMAND>", 2)
  | .subcommandUnknown => ("error: unrecognized subcommand", 2)
  | .argumentUnknown => ("error: unexpected argument", 2)
  | .argumentMissing => ("error: a required argument was not provided", 2)
  | .argumentConflict => ("error: an argument cannot be used with another one", 2)
  | .valueMissing => ("error: a value is required", 2)
  | .valueNotAllowed => ("error: an argument takes no value", 2)
  | .valueNotAChoice | .valueInvalid => ("error: invalid value", 2)

end PcieSwitch

open PcieSwitch in
def main (args : List String) : IO UInt32 := do
  match Invocation.ofArguments args with
  | .error e =>
    let (text, code) := e.verdict
    if code = 0 then IO.println text else IO.eprintln text
    return code
  | .ok i =>
    match ← Machine.run i with
    | .ok () => return 0
    | .error f =>
      IO.eprintln f.report
      return 1
