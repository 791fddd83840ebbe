import PcieSwitch.Discovery.Devices
import PcieSwitch.Proofs.DeviceNames

/-!
This module contains what the name of a device has to do with the switch that is opened by it. Names of the same device
open the same switch or fail alike, and only the name itself is different in the handle and in the errors.
-/

namespace PcieSwitch
namespace Discovery

inductive Alike (name other : String) : Except Error Handle → Except Error Handle → Prop where
  | opened (h : Handle) : Alike name other (.ok { h with name := name }) (.ok { h with name := other })
  | missing : Alike name other (.error (.deviceNotFound name)) (.error (.deviceNotFound other))
  | foreign : Alike name other (.error (.notASwitch name)) (.error (.notASwitch other))
  | failed (cause : SystemError) : Alike name other (.error (.system cause)) (.error (.system cause))

def spellings (n : Nat) : List String :=
  [toString n, "0x" ++ Text.hex n, "switchtec" ++ toString n, "/dev/switchtec" ++ toString n]

def shownEntries (fs : FileSystem Id) (directory : String) : List String :=
  match fs.entries directory with
  | .error _ => []
  | .ok entries => entries.filter (!isHidden ·)

def generationAt (fs : FileSystem Id) (directory : String) : Generation :=
  match fs.hexadecimal (directory ++ "/device/device") with
  | .ok id => Generation.ofDeviceId (UInt16.ofNat id)
  | .error _ => .unknown

def handleAt (fs : FileSystem Id) (directory : String) (partition : Nat) (name : String) : Handle where
  name
  partition := UInt8.ofNat partition
  generation := generationAt fs directory
  directory := some directory
  hasEvents := true

theorem exists_eq_pure (answer : Id α) : ∃ value : α, answer = pure value :=
  ⟨answer, rfl⟩

theorem run_liftM [Monad m] (answer : m α) : (liftM answer : ExceptT Error m α).run = Except.ok <$> answer := by
  rfl

section

variable {fs : FileSystem Id} {path : String} {major minor : Nat}

theorem openPath_of_missing (hdevice : fs.device path = pure (.error (.number 2))) (name : String)
    : (openPath fs path name).run = .error (.deviceNotFound name) := by
  simp only [openPath, ExceptT.run_bind, ExceptT.run_mk, hdevice, pure_bind]
  rfl

theorem openPath_of_failed {cause : SystemError} (hdevice : fs.device path = pure (.error cause))
    (hcause : cause ≠ .number 2) (name : String)
    : (openPath fs path name).run = .error (.system cause) := by
  simp only [openPath, ExceptT.run_bind, ExceptT.run_mk, hdevice, pure_bind]
  rfl

theorem openPath_of_foreign (hdevice : fs.device path = pure (.ok (major, minor)))
    (hmark : fs.isThere (attributeDirectory major minor ++ "/device/switchtec") = pure false) (name : String)
    : (openPath fs path name).run = .error (.notASwitch name) := by
  simp only [openPath, ExceptT.run_bind, ExceptT.run_mk, run_liftM, hdevice, hmark, pure_bind, map_pure]
  rfl

theorem openPath_of_switch {partition : Except SystemError Nat} (hdevice : fs.device path = pure (.ok (major, minor)))
    (hmark : fs.isThere (attributeDirectory major minor ++ "/device/switchtec") = pure true)
    (hpartition : fs.decimal (attributeDirectory major minor ++ "/partition") = pure partition) (name : String)
    : (openPath fs path name).run
        =
      match partition with
      | .error cause => .error (.system cause)
      | .ok partition => .ok (handleAt fs (attributeDirectory major minor) partition name) := by
  unfold handleAt generationAt
  obtain ⟨id, hid⟩ := exists_eq_pure (fs.hexadecimal (attributeDirectory major minor ++ "/device/device"))
  simp only [openPath, ExceptT.run_bind, ExceptT.run_mk, run_liftM, hdevice, hmark, hpartition, hid, pure_bind,
    map_pure]
  cases partition with
  | error cause => rfl
  | ok partition =>
    cases id with
    | error cause => rfl
    | ok id => rfl

end

theorem alike_openPath (fs : FileSystem Id) (path name other : String)
    : Alike name other (openPath fs path name).run (openPath fs path other).run := by
  obtain ⟨device, hdevice⟩ := exists_eq_pure (fs.device path)
  rcases device with cause | ⟨major, minor⟩
  . by_cases hcause : cause = .number 2
    . subst hcause
      rw [openPath_of_missing hdevice, openPath_of_missing hdevice]
      exact .missing
    . rw [openPath_of_failed hdevice hcause, openPath_of_failed hdevice hcause]
      exact .failed cause
  . obtain ⟨marked, hmark⟩ := exists_eq_pure (fs.isThere (attributeDirectory major minor ++ "/device/switchtec"))
    cases marked with
    | false =>
      rw [openPath_of_foreign hdevice hmark, openPath_of_foreign hdevice hmark]
      exact .foreign
    | true =>
      obtain ⟨partition, hpartition⟩ := exists_eq_pure (fs.decimal (attributeDirectory major minor ++ "/partition"))
      rw [openPath_of_switch hdevice hmark hpartition, openPath_of_switch hdevice hmark hpartition]
      cases partition with
      | error cause => exact .failed cause
      | ok partition => exact .opened (handleAt fs (attributeDirectory major minor) partition name)

theorem openNamed_of_path (fs : FileSystem Id) {name : String} (h : '/' ∈ name.toList)
    : openNamed fs name = openPath fs name name := by
  unfold openNamed
  rw [DeviceName.parse_of_names (.path h)]
  rfl

theorem openNamed_of_index (fs : FileSystem Id) {name : String} {n : Nat} (h : DeviceName.parse name = .ok (.index n))
    : openNamed fs name = openPath fs ("/dev/switchtec" ++ toString n) name := by
  unfold openNamed
  rw [h]
  rfl

theorem openNamed_of_spelling (fs : FileSystem Id) (n : UInt32) {name : String} (h : name ∈ spellings n.toNat)
    : openNamed fs name = openPath fs ("/dev/switchtec" ++ toString n.toNat) name := by
  unfold spellings at h
  simp only [List.mem_cons, List.not_mem_nil, or_false] at h
  rcases h with rfl | rfl | rfl | rfl
  . exact openNamed_of_index fs (DeviceName.parse_decimal n)
  . exact openNamed_of_index fs (DeviceName.parse_hexadecimal n)
  . exact openNamed_of_index fs (DeviceName.parse_named n)
  . apply openNamed_of_path
    simp [String.toList_append]

theorem openNamed_of_address (fs : FileSystem Id) {name : String} {domain bus device function : Nat}
    (h : DeviceName.parse name = .ok (.address domain bus device function))
    : (openNamed fs name).run
        =
      match shownEntries fs (addressDirectory domain bus device function) with
      | [entry] => (openPath fs ("/dev/" ++ entry) name).run
      | _ => .error (.deviceNotFound name) := by
  have hopen : openNamed fs name = openAddress fs name domain bus device function := by
    unfold openNamed
    rw [h]
    rfl
  rw [hopen]
  unfold shownEntries
  obtain ⟨entries, hentries⟩ := exists_eq_pure (fs.entries (addressDirectory domain bus device function))
  simp only [openAddress, ExceptT.run_bind, run_liftM, hentries, map_pure, pure_bind]
  cases entries with
  | error cause => rfl
  | ok entries =>
    dsimp only [pure]
    generalize entries.filter (!isHidden ·) = shown
    cases shown with
    | nil => rfl
    | cons entry others =>
      cases others with
      | nil => rfl
      | cons _ _ => rfl

/--
All names of the device with a number open the same switch or fail alike. So does an address, and the file of the one
entry that its directory shows. It names no device if there is no such entry, or more than one.
-/
theorem names_open_the_same_switch (fs : FileSystem Id)
    : (∀ n : UInt32, ∀ name ∈ spellings n.toNat, ∀ other ∈ spellings n.toNat,
        Alike name other (openNamed fs name).run (openNamed fs other).run)
        ∧
      (∀ name domain bus device function, DeviceName.parse name = .ok (.address domain bus device function) →
        (∀ entry, shownEntries fs (addressDirectory domain bus device function) = [entry] →
          Alike name ("/dev/" ++ entry) (openNamed fs name).run (openNamed fs ("/dev/" ++ entry)).run)
          ∧
        ((∀ entry, shownEntries fs (addressDirectory domain bus device function) ≠ [entry]) →
          (openNamed fs name).run = .error (.deviceNotFound name))) := by
  refine ⟨?_, ?_⟩
  . intro n name hname other hother
    rw [openNamed_of_spelling fs n hname, openNamed_of_spelling fs n hother]
    exact alike_openPath fs _ name other
  . intro name domain bus device function hparse
    rw [openNamed_of_address fs hparse]
    refine ⟨?_, ?_⟩
    . intro entry hentry
      rw [hentry, openNamed_of_path fs (by simp [String.toList_append])]
      exact alike_openPath fs _ name _
    . intro hentries
      split
      . next entry hentry => exact absurd hentry (hentries entry)
      . rfl

def switchTree : FileSystem Id where
  contents path :=
    match path with
    | "/sys/dev/char/240:5/partition" => .ok (.ofString "2\n")
    | "/sys/dev/char/240:5/device/device" => .ok (.ofString "0x8536\n")
    | _ => .error .notFound
  isThere path := pure (path == "/sys/dev/char/240:5/device/switchtec")
  entries path := if path = addressDirectory 0 3 0 1 then .ok [".", "switchtec5"] else .error .notFound
  target _ := .error .invalidArgument
  device path := if path = "/dev/switchtec5" then .ok (240, 5) else .error .notFound

theorem names_open_the_same_switch_of_tree
    : Id.run (openNamed switchTree "0x5").run = .ok ⟨"0x5", 2, .gen3, some "/sys/dev/char/240:5", true, maxWord⟩
        ∧
      Alike "0x5" "switchtec5" (openNamed switchTree "0x5").run (openNamed switchTree "switchtec5").run
        ∧
      Alike "6" "/dev/switchtec6" (openNamed switchTree "6").run (openNamed switchTree "/dev/switchtec6").run
        ∧
      Alike "3:0.+1" "/dev/switchtec5"
        (openNamed switchTree "3:0.+1").run (openNamed switchTree "/dev/switchtec5").run
        ∧
      (openNamed switchTree "3:0.2").run = .error (.deviceNotFound "3:0.2") := by
  have hspellings := (names_open_the_same_switch switchTree).1
  have haddress := (names_open_the_same_switch switchTree).2
  refine ⟨by decide +kernel, ?_, ?_, ?_, ?_⟩
  . exact hspellings 5 "0x5" (by decide +kernel) "switchtec5" (by decide +kernel)
  . exact hspellings 6 "6" (by decide +kernel) "/dev/switchtec6" (by decide +kernel)
  . exact (haddress "3:0.+1" 0 3 0 1 (by decide +kernel)).1 "switchtec5" (by decide +kernel)
  . have hhidden : shownEntries switchTree (addressDirectory 0 3 0 2) = [] := by decide +kernel
    apply (haddress "3:0.2" 0 3 0 2 (by decide +kernel)).2
    rw [hhidden]
    simp

end Discovery
end PcieSwitch
