import PcieSwitch.Discovery.FileSystem
import PcieSwitch.Discovery.Name
import PcieSwitch.Device.Handle

/-!
This module contains the opening and the listing of the switches that the kernel driver offers. Commands and events go
over one open device, which is not duplicated, so nothing can fail between its opening and its use.
-/

namespace PcieSwitch

structure DeviceInfo where
  name : String
  path : String
  pciDevice : String
  productId : String
  productRevision : String
  firmwareVersion : String
  deriving DecidableEq, Repr

def versionText (version : Nat) : String :=
  let major := version >>> 24
  let minor := version >>> 16 % 256
  let build := version % 1 <<< 16
  Text.hex major ++ "." ++ Text.hex minor 2 ++ " B" ++ Text.hexUpper build 3

namespace Discovery

def classDirectory : String := "/sys/class/switchtec"

def attributeDirectory (major minor : Nat) : String :=
  s!"/sys/dev/char/{major}:{minor}"

def addressDirectory (domain bus device function : Nat) : String :=
  "/sys/bus/pci/devices/" ++ Text.hex domain 4 ++ ":" ++ Text.hex bus 2 ++ ":" ++ Text.hex device 2 ++ "."
    ++ Text.hex function ++ "/switchtec"

def isHidden (name : String) : Bool :=
  name.toList.head? = some '.'

def fileName? (path : String) : Option String :=
  let parts := (Text.splitAtEach '/' path.toList).filter fun part => part ≠ [] ∧ part ≠ ['.']
  match parts.getLast? with
  | none => none
  | some ['.', '.'] => none
  | some part => some (String.ofList part)

variable [Monad m]

/--
Open the device at a path. The numbers of its attributes are narrowed to the sizes of their fields, and an
unreadable device id stands for an unknown generation.
-/
def openPath (fs : FileSystem m) (path name : String) : ExceptT Error m Handle := do
  let (major, minor) ← ExceptT.mk do
    match ← fs.device path with
    | .ok numbers => return .ok numbers
    | .error (.number 2) => return .error (.deviceNotFound name)
    | .error e => return .error (.system e)
  let directory := attributeDirectory major minor
  unless ← fs.isThere (directory ++ "/device/switchtec") do
    throw (.notASwitch name)
  let partition ← ExceptT.mk do
    return (← fs.decimal (directory ++ "/partition")).mapError .system
  let generation ← ExceptT.mk do
    match ← fs.hexadecimal (directory ++ "/device/device") with
    | .ok id => return .ok (Generation.ofDeviceId (UInt16.ofNat id))
    | .error _ => return .ok .unknown
  return {
    name
    partition := UInt8.ofNat partition
    generation
    directory := some directory
    hasEvents := true
  }

def openAddress (fs : FileSystem m) (name : String) (domain bus device function : Nat)
    : ExceptT Error m Handle := do
  match ← fs.entries (addressDirectory domain bus device function) with
  | .error _ => throw (.deviceNotFound name)
  | .ok entries =>
    match entries.filter (!isHidden ·) with
    | [entry] => openPath fs ("/dev/" ++ entry) name
    | _ => throw (.deviceNotFound name)

def openNamed (fs : FileSystem m) (name : String) : ExceptT Error m Handle := do
  match ← ofExcept (DeviceName.parse name) with
  | .path path => openPath fs path name
  | .index n => openPath fs s!"/dev/switchtec{n}" name
  | .address domain bus device function => openAddress fs name domain bus device function

def describe (fs : FileSystem m) (name : String) : m DeviceInfo := do
  let directory := classDirectory ++ "/" ++ name
  let link ← fs.target (directory ++ "/device")
  let productId ← fs.trimmed (directory ++ "/product_id")
  let productRevision ← fs.trimmed (directory ++ "/product_revision")
  let version ← fs.hexadecimal (directory ++ "/fw_version")
  return {
    name
    path := "/dev/" ++ name
    pciDevice := (link.toOption.bind fileName?).getD "unknown pci device"
    productId := orUnknown (productId.map String.ofList)
    productRevision := orUnknown (productRevision.map String.ofList)
    firmwareVersion := orUnknown (version.map versionText)
  }
where
  orUnknown (text : Except SystemError String) : String :=
    text.toOption.getD "unknown"

def nameLe (a b : String) : Bool :=
  !(decide (b < a))

def describeAll (fs : FileSystem m) : List String → m (List DeviceInfo)
  | [] => return []
  | name :: names => do
    let first ← describe fs name
    let others ← describeAll fs names
    return first :: others

def list (fs : FileSystem m) : ExceptT Error m (List DeviceInfo) := do
  match ← fs.entries classDirectory with
  | .error (.number 2) => return []
  | .error e => throw (.system e)
  | .ok entries =>
    let names := (entries.filter (!isHidden ·)).mergeSort nameLe
    ExceptT.lift (describeAll fs names)

end Discovery
end PcieSwitch
