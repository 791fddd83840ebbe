import PcieSwitch.Proofs.AttributeText
import PcieSwitch.Proofs.OpenedNames

/-!
This module contains what the numbers in the handle of an open switch have to do with those that the attributes of the
switch say. The partition is kept in eight bits and the device id in sixteen. A number that fits is the one that the
attribute says, and of another one only its low bits are left.
-/

namespace PcieSwitch

namespace Generation

def ofNumber (id : Nat) : Generation :=
  match id / 0x1000 with
  | 0x8 => .gen3
  | 0x4 => .gen4
  | 0x5 => .gen5
  | _ => .unknown

theorem ofDeviceId_ofNat (id : Nat) : ofDeviceId (UInt16.ofNat id) = ofNumber (id % 2 ^ 16) := by
  have hclass : (UInt16.ofNat id >>> 12).toNat = id % 2 ^ 16 / 0x1000 := by
    rw [UInt16.toNat_shiftRight, UInt16.toNat_ofNat', Nat.shiftRight_eq_div_pow]
    rfl
  unfold ofDeviceId ofNumber
  generalize (UInt16.ofNat id >>> 12).toNat = digit at hclass ⊢
  subst hclass
  rfl

theorem ofNumber_of_le {id : Nat} (h : 2 ^ 16 ≤ id) : ofNumber id = .unknown := by
  have hclass : 0x10 ≤ id / 0x1000 := (Nat.le_div_iff_mul_le (by decide)).mpr h
  unfold ofNumber
  split
  . omega
  . omega
  . omega
  . rfl

theorem ofNumber_mod_eq_iff (id : Nat)
    : ofNumber (id % 2 ^ 16) = ofNumber id ↔ id < 2 ^ 16 ∨ ofNumber (id % 2 ^ 16) = .unknown := by
  by_cases hid : id < 2 ^ 16
  . rw [Nat.mod_eq_of_lt hid]
    exact ⟨fun _ => .inl hid, fun _ => rfl⟩
  . rw [ofNumber_of_le (Nat.le_of_not_lt hid)]
    exact (or_iff_right hid).symm

end Generation

namespace Discovery

section

variable {fs : FileSystem Id} {name : String} {h : Handle}

theorem exists_of_openPath {path : String} (hopen : (openPath fs path name).run = .ok h)
    : ∃ major minor partition,
        fs.device path = pure (.ok (major, minor))
          ∧
        fs.decimal (attributeDirectory major minor ++ "/partition") = pure (.ok partition)
          ∧
        h = handleAt fs (attributeDirectory major minor) partition name := by
  obtain ⟨device, hdevice⟩ := exists_eq_pure (fs.device path)
  rcases device with cause | ⟨major, minor⟩
  . by_cases hcause : cause = .number 2
    . subst hcause
      rw [openPath_of_missing hdevice] at hopen
      cases hopen
    . rw [openPath_of_failed hdevice hcause] at hopen
      cases hopen
  . obtain ⟨marked, hmark⟩ := exists_eq_pure (fs.isThere (attributeDirectory major minor ++ "/device/switchtec"))
    cases marked with
    | false =>
      rw [openPath_of_foreign hdevice hmark] at hopen
      cases hopen
    | true =>
      obtain ⟨partition, hpartition⟩ := exists_eq_pure (fs.decimal (attributeDirectory major minor ++ "/partition"))
      rw [openPath_of_switch hdevice hmark hpartition] at hopen
      cases partition with
      | error cause => cases hopen
      | ok partition =>
        cases hopen
        exact ⟨major, minor, partition, hdevice, hpartition, rfl⟩

theorem exists_path_of_openNamed (hopen : (openNamed fs name).run = .ok h)
    : ∃ path, (openPath fs path name).run = .ok h := by
  cases hparse : DeviceName.parse name with
  | error e =>
    unfold openNamed at hopen
    rw [hparse] at hopen
    cases hopen
  | ok named =>
    cases named with
    | path path =>
      unfold openNamed at hopen
      rw [hparse] at hopen
      exact ⟨path, hopen⟩
    | index n =>
      rw [openNamed_of_index fs hparse] at hopen
      exact ⟨_, hopen⟩
    | address domain bus device function =>
      rw [openNamed_of_address fs hparse] at hopen
      split at hopen
      . next entry _ => exact ⟨"/dev/" ++ entry, hopen⟩
      . cases hopen

theorem generationAt_of_says {directory : String} {id : Nat}
    (h : fs.SaysHexadecimal (directory ++ "/device/device") id) (hid : id < 2 ^ 32)
    : generationAt fs directory = .ofNumber (id % 2 ^ 16) := by
  have hread : fs.hexadecimal (directory ++ "/device/device") = .ok id := Files.hexadecimal_eq_ok_iff.mpr ⟨h, hid⟩
  unfold generationAt
  rw [hread]
  exact Generation.ofDeviceId_ofNat id

theorem generationAt_of_says_none {directory : String}
    (h : ∀ id, fs.SaysHexadecimal (directory ++ "/device/device") id → 2 ^ 32 ≤ id)
    : generationAt fs directory = .unknown := by
  unfold generationAt
  split
  . next id hread =>
    obtain ⟨hsaid, hid⟩ := Files.hexadecimal_eq_ok_iff.mp hread
    exact absurd hid (Nat.not_lt.mpr (h id hsaid))
  . rfl

end

/--
The handle of an open switch has the low eight bits of the number of its partition, and the generation of the low
sixteen bits of its device id. These are the partition and the generation that its attributes say if the numbers fit.
The generation of a device without such an id is unknown.
-/
theorem opened_numbers_are_narrowed {fs : FileSystem Id} {name : String} {h : Handle}
    (hopen : (openNamed fs name).run = .ok h)
    : ∃ path major minor partition,
        (fs.device path = pure (.ok (major, minor)) ∧ h.directory = some (attributeDirectory major minor))
          ∧
        (fs.SaysDecimal (attributeDirectory major minor ++ "/partition") partition
          ∧
        partition < 2 ^ 32
          ∧
        h.partition.toNat = partition % 2 ^ 8
          ∧
        (h.partition.toNat = partition ↔ partition < 2 ^ 8)
          ∧
        ∀ other : UInt32, other = h.partition.toUInt32 ↔ other.toNat = partition % 2 ^ 8)
          ∧
        (∀ id, fs.SaysHexadecimal (attributeDirectory major minor ++ "/device/device") id → id < 2 ^ 32 →
          h.generation = .ofNumber (id % 2 ^ 16)
            ∧
          (h.generation = .ofNumber id ↔ id < 2 ^ 16 ∨ Generation.ofNumber (id % 2 ^ 16) = .unknown))
          ∧
        ((∀ id, fs.SaysHexadecimal (attributeDirectory major minor ++ "/device/device") id → 2 ^ 32 ≤ id) →
          h.generation = .unknown) := by
  obtain ⟨path, hpath⟩ := exists_path_of_openNamed hopen
  obtain ⟨major, minor, partition, hdevice, hpartition, rfl⟩ := exists_of_openPath hpath
  obtain ⟨hsaid, hword⟩ := Files.decimal_eq_ok_iff.mp hpartition
  have hnarrow : (UInt8.ofNat partition).toNat = partition % 2 ^ 8 := UInt8.toNat_ofNat'
  refine ⟨path, major, minor, partition, ⟨hdevice, rfl⟩, ⟨hsaid, hword, hnarrow, ?_, ?_⟩, ?_, generationAt_of_says_none⟩
  . change (UInt8.ofNat partition).toNat = partition ↔ _
    rw [hnarrow]
    exact Nat.mod_eq_iff_lt (by decide)
  . intro other
    change other = (UInt8.ofNat partition).toUInt32 ↔ _
    rw [← UInt32.toNat_inj, UInt8.toNat_toUInt32, hnarrow]
  . intro id hid hlt
    have hgeneration := generationAt_of_says hid hlt
    refine ⟨hgeneration, ?_⟩
    change generationAt fs (attributeDirectory major minor) = _ ↔ _
    rw [hgeneration]
    exact Generation.ofNumber_mod_eq_iff id

def numberedTree (partition id : String) : FileSystem Id where
  contents path :=
    match path with
    | "/sys/dev/char/0:0/partition" => .ok (.ofString partition)
    | "/sys/dev/char/0:0/device/device" => .ok (.ofString id)
    | _ => .error .notFound
  isThere path := pure (path == "/sys/dev/char/0:0/device/switchtec")
  entries _ := .error .notFound
  target _ := .error .invalidArgument
  device path := if path = "/dev/switchtec0" then .ok (0, 0) else .error .notFound

theorem last_partition_is_told_by_tree
    : let tree := numberedTree "255\n" "0x0x4052\n"
      let h : Handle := ⟨"0", 255, .gen4, some "/sys/dev/char/0:0", true, maxWord⟩
      Id.run (openNamed tree "0").run = .ok h
        ∧
      tree.SaysDecimal "/sys/dev/char/0:0/partition" 255
        ∧
      h.partition.toNat = 255
        ∧
      tree.SaysHexadecimal "/sys/dev/char/0:0/device/device" 0x4052
        ∧
      h.generation = .ofNumber 0x4052 := by
  intro tree h
  have hopen : Id.run (openNamed tree "0").run = .ok h := by decide +kernel
  have hpartition : (tree.decimal "/sys/dev/char/0:0/partition").run = .ok 255 := by decide +kernel
  have hid : (tree.hexadecimal "/sys/dev/char/0:0/device/device").run = .ok 0x4052 := by decide +kernel
  rw [Files.decimal_eq_ok_iff] at hpartition
  rw [Files.hexadecimal_eq_ok_iff] at hid
  obtain ⟨_, _, _, partition, ⟨_, hdirectory⟩, ⟨hsaid, _, _, htold, _⟩, hgeneration, _⟩ :=
    opened_numbers_are_narrowed hopen
  rw [← Option.some.inj hdirectory] at hsaid hgeneration
  cases hsaid.unique hpartition.1
  exact ⟨hopen, hpartition.1, htold.mpr (by decide), hid.1, (hgeneration _ hid.1 hid.2).2.mpr (.inl (by decide))⟩

/--
Partition 256 is taken for partition 0, and the id `0x18536`, which no device has, for that of a device of the third
generation.
-/
theorem wide_numbers_are_not_refused
    : (¬ ∀ (fs : FileSystem Id) (name : String) (h : Handle) (directory : String) (partition : Nat),
        (openNamed fs name).run = .ok h → h.directory = some directory →
          fs.SaysDecimal (directory ++ "/partition") partition → h.partition.toNat = partition)
        ∧
      (¬ ∀ (fs : FileSystem Id) (name : String) (h : Handle) (directory : String) (id : Nat),
        (openNamed fs name).run = .ok h → h.directory = some directory →
          fs.SaysHexadecimal (directory ++ "/device/device") id → h.generation = .ofNumber id) := by
  constructor
  . intro h
    have hopen : Id.run (openNamed (numberedTree "256\n" "0x8536\n") "0").run
        = .ok ⟨"0", 0, .gen3, some "/sys/dev/char/0:0", true, maxWord⟩ := by
      decide +kernel
    have hread : ((numberedTree "256\n" "0x8536\n").decimal "/sys/dev/char/0:0/partition").run = .ok 256 := by
      decide +kernel
    have hpartition := h _ "0" _ _ 256 hopen rfl (Files.decimal_eq_ok_iff.mp hread).1
    cases hpartition
  . intro h
    have hopen : Id.run (openNamed (numberedTree "0\n" "0x18536\n") "0").run
        = .ok ⟨"0", 0, .gen3, some "/sys/dev/char/0:0", true, maxWord⟩ := by
      decide +kernel
    have hread : ((numberedTree "0\n" "0x18536\n").hexadecimal "/sys/dev/char/0:0/device/device").run
        = .ok 0x18536 := by
      decide +kernel
    have hgeneration := h _ "0" _ _ 0x18536 hopen rfl (Files.hexadecimal_eq_ok_iff.mp hread).1
    cases hgeneration

end Discovery
end PcieSwitch
