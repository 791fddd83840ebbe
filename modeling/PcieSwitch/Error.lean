import PcieSwitch.Text.Numeral
import PcieSwitch.Text.Layout

/-!
This module contains what can go wrong between a caller, the switch and the operating system, and the
wording of each cause.
-/

namespace PcieSwitch

structure FirmwareStatus where
  code : UInt32
  deriving DecidableEq, Repr

namespace FirmwareStatus

def name? (status : FirmwareStatus) : Option String :=
  match status.code.toNat with
  | 0x64001 => some "No available MRPC handler thread"
  | 0x64002 => some "The handler thread is not idle"
  | 0x64003 => some "No background thread run for the command"
  | 0x64004 => some "Invalid subcommand"
  | 0x64005 => some "Invalid command"
  | 0x64006 => some "Invalid parameter"
  | 0x64007 => some "Bad firmware state"
  | 0x100001 => some "Invalid Stack"
  | 0x100002 => some "Invalid Port"
  | 0x100003 => some "Invalid Event"
  | 0x100005 => some "Reset rule search failed"
  | 0xFFFF0001 => some "Access Refused"
  | _ => none

def message (status : FirmwareStatus) : String :=
  match status.name? with
  | some name => s!"{name} (0x{Text.hex status.code.toNat})"
  | none => s!"unknown firmware error 0x{Text.hex status.code.toNat}"

end FirmwareStatus

/--
The texts of the operating system's error numbers, from zero on. A gap is an unused number.
-/
def errorTexts : List (Option String) := [
  some "Success",
  some "Operation not permitted",
  some "No such file or directory",
  some "No such process",
  some "Interrupted system call",
  some "Input/output error",
  some "No such device or address",
  some "Argument list too long",
  some "Exec format error",
  some "Bad file descriptor",
  some "No child processes",
  some "Resource temporarily unavailable",
  some "Cannot allocate memory",
  some "Permission denied",
  some "Bad address",
  some "Block device required",
  some "Device or resource busy",
  some "File exists",
  some "Invalid cross-device link",
  some "No such device",
  some "Not a directory",
  some "Is a directory",
  some "Invalid argument",
  some "Too many open files in system",
  some "Too many open files",
  some "Inappropriate ioctl for device",
  some "Text file busy",
  some "File too large",
  some "No space left on device",
  some "Illegal seek",
  some "Read-only file system",
  some "Too many links",
  some "Broken pipe",
  some "Numerical argument out of domain",
  some "Numerical result out of range",
  some "Resource deadlock avoided",
  some "File name too long",
  some "No locks available",
  some "Function not implemented",
  some "Directory not empty",
  some "Too many levels of symbolic links",
  none,
  some "No message of desired type",
  some "Identifier removed",
  some "Channel number out of range",
  some "Level 2 not synchronized",
  some "Level 3 halted",
  some "Level 3 reset",
  some "Link number out of range",
  some "Protocol driver not attached",
  some "No CSI structure available",
  some "Level 2 halted",
  some "Invalid exchange",
  some "Invalid request descriptor",
  some "Exchange full",
  some "No anode",
  some "Invalid request code",
  some "Invalid slot",
  none,
  some "Bad font file format",
  some "Device not a stream",
  some "No data available",
  some "Timer expired",
  some "Out of streams resources",
  some "Machine is not on the network",
  some "Package not installed",
  some "Object is remote",
  some "Link has been severed",
  some "Advertise error",
  some "Srmount error",
  some "Communication error on send",
  some "Protocol error",
  some "Multihop attempted",
  some "RFS specific error",
  some "Bad message",
  some "Value too large for defined data type",
  some "Name not unique on network",
  some "File descriptor in bad state",
  some "Remote address changed",
  some "Can not access a needed shared library",
  some "Accessing a corrupted shared library",
  some ".lib section in a.out corrupted",
  some "Attempting to link in too many shared libraries",
  some "Cannot exec a shared library directly",
  some "Invalid or incomplete multibyte or wide character",
  some "Interrupted system call should be restarted",
  some "Streams pipe error",
  some "Too many users",
  some "Socket operation on non-socket",
  some "Destination address required",
  some "Message too long",
  some "Protocol wrong type for socket",
  some "Protocol not available",
  some "Protocol not supported",
  some "Socket type not supported",
  some "Operation not supported",
  some "Protocol family not supported",
  some "Address family not supported by protocol",
  some "Address already in use",
  some "Cannot assign requested address",
  some "Network is down",
  some "Network is unreachable",
  some "Network dropped connection on reset",
  some "Software caused connection abort",
  some "Connection reset by peer",
  some "No buffer space available",
  some "Transport endpoint is already connected",
  some "Transport endpoint is not connected",
  some "Cannot send after transport endpoint shutdown",
  some "Too many references: cannot splice",
  some "Connection timed out",
  some "Connection refused",
  some "Host is down",
  some "No route to host",
  some "Operation already in progress",
  some "Operation now in progress",
  some "Stale file handle",
  some "Structure needs cleaning",
  some "Not a XENIX named type file",
  some "No XENIX semaphores available",
  some "Is a named type file",
  some "Remote I/O error",
  some "Disk quota exceeded",
  some "No medium found",
  some "Wrong medium type",
  some "Operation canceled",
  some "Required key not available",
  some "Key has expired",
  some "Key has been revoked",
  some "Key was rejected by service",
  some "Owner died",
  some "State not recoverable",
  some "Operation not possible due to RF-kill",
  some "Memory page has hardware error"
]

inductive SystemError where
  | number (n : Nat)
  | notText
  | notNumber (cause : NumeralError)
  | other (text : String)
  deriving DecidableEq, Repr

namespace SystemError

def message : SystemError → String
  | .number n =>
    let text := (errorTexts[n]?.join).getD s!"Unknown error {n}"
    s!"{text} (os error {n})"
  | .notText => "stream did not contain valid UTF-8"
  | .notNumber cause => cause.message
  | .other text => text

def notFound : SystemError := .number 2
def noDevice : SystemError := .number 19
def notADirectory : SystemError := .number 20
def isADirectory : SystemError := .number 21
def invalidArgument : SystemError := .number 22
def tooManyLinks : SystemError := .number 40

def notATerminal : SystemError := .number 25

/--
An error with a number that no error has becomes the one with number zero.
-/
def known : SystemError → SystemError
  | .number n => if (errorTexts[n]?.join).isSome then .number n else .number 0
  | e => e

end SystemError

inductive Error where
  | counterOutOfRange (counter stop max : Nat)
  | replyTooLarge (length : Nat)
  | requestTooLarge (length : Nat)
  | portOutOfRange (port : Nat)
  | stackOutOfRange (stack : Nat)
  | invalidEventIndex (event : String) (index : Int)
  | partitionOutOfRange (partition : Nat)
  | valueOutOfRange (what : String) (value max : Nat)
  | invalidWidth (bytes : Nat)
  | misaligned (address alignment : Nat)
  | outsideWindow (address length : Nat)
  | firmware (status : FirmwareStatus)
  | shortTransfer (done expected : Nat)
  | system (cause : SystemError)
  | mapping (cause : SystemError)
  | deviceNotFound (name : String)
  | notASwitch (name : String)
  | unsupported (what : String)
  | waitAbandoned (rounds : Nat)
  deriving DecidableEq, Repr

namespace Error

def message : Error → String
  | .counterOutOfRange counter stop max => s!"counter range {counter}..{stop} exceeds {max} event counters"
  | .replyTooLarge length => s!"reply of {length} bytes exceeds the MRPC data limit"
  | .requestTooLarge length => s!"request of {length} bytes exceeds the MRPC data limit"
  | .portOutOfRange port => s!"port {port} out of range"
  | .stackOutOfRange stack => s!"stack {stack} out of range"
  | .invalidEventIndex event index => s!"index {index} is not valid for event {event}"
  | .partitionOutOfRange partition => s!"partition {partition} out of range"
  | .valueOutOfRange what value max => s!"{what} {value} out of range (max {max})"
  | .invalidWidth bytes => s!"invalid access width {bytes}; must be 1, 2, 4 or 8 bytes"
  | .misaligned address alignment =>
    s!"address 0x{Text.hex address} is not aligned to {alignment} bytes"
  | .outsideWindow _ _ => "Out of range for Global Address Space"
  | .firmware status => "firmware returned error: " ++ status.message
  | .shortTransfer done expected => s!"short MRPC transfer: {done} of {expected} bytes"
  | .system cause => "io error: " ++ cause.message
  | .mapping cause => "failed to map global address space: " ++ cause.message
  | .deviceNotFound name => "no such switchtec device: " ++ name
  | .notASwitch name => name ++ " is not a switchtec device"
  | .unsupported what => what ++ " is not supported on this device or platform"
  | .waitAbandoned rounds => s!"the event did not occur within {rounds} wake-ups"

def status? : Error → Option UInt32
  | .firmware status => some status.code
  | _ => none

def chain : Error → List String
  | .system cause => [Error.message (.system cause), cause.message]
  | e => [e.message]

end Error
end PcieSwitch
