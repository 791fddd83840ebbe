import PcieSwitch.Discovery.Devices
import PcieSwitch.Proofs.AttributeText
import PcieSwitch.Proofs.ByteOrder
import PcieSwitch.Proofs.KeyOrder
import PcieSwitch.Proofs.OpenedNames

/-!
This module contains what a listing of the switches has to do with the files of their attributes. Every entry of the
driver's directory that is not hidden is listed, in the order of the bytes of the names. Each field of a switch tells
what its own file says, and no other file has a part in it.
-/

namespace PcieSwitch

inductive Attribute where
  | device
  | productId
  | productRevision
  | firmwareVersion
  deriving DecidableEq, Repr

def IsVersion (version : Nat) (text : String) : Prop :=
  ∃ major minor build, version = major * 2 ^ 24 + minor * 2 ^ 16 + build ∧ minor < 2 ^ 8 ∧ build < 2 ^ 16
    ∧ text = Text.hex major ++ "." ++ Text.hex minor 2 ++ " B" ++ Text.hexUpper build 3

theorem isVersion_iff {version : Nat} {text : String} : IsVersion version text ↔ versionText version = text := by
  unfold IsVersion versionText
  simp only [Nat.shiftRight_eq_div_pow, Nat.one_shiftLeft]
  constructor
  . rintro ⟨major, minor, build, rfl, hminor, hbuild, rfl⟩
    have hmajor : (major * 2 ^ 24 + minor * 2 ^ 16 + build) / 2 ^ 24 = major := by omega
    have hmiddle : (major * 2 ^ 24 + minor * 2 ^ 16 + build) / 2 ^ 16 % 256 = minor := by omega
    have hrest : (major * 2 ^ 24 + minor * 2 ^ 16 + build) % 2 ^ 16 = build := by omega
    rw [hmajor, hmiddle, hrest]
  . rintro rfl
    exact ⟨version / 2 ^ 24, version / 2 ^ 16 % 256, version % 2 ^ 16, by omega, by omega, by omega, rfl⟩

namespace DeviceInfo

def field (d : DeviceInfo) : Attribute → String
  | .device => d.pciDevice
  | .productId => d.productId
  | .productRevision => d.productRevision
  | .firmwareVersion => d.firmwareVersion

def withField (d : DeviceInfo) (a : Attribute) (text : String) : DeviceInfo :=
  match a with
  | .device => { d with pciDevice := text }
  | .productId => { d with productId := text }
  | .productRevision => { d with productRevision := text }
  | .firmwareVersion => { d with firmwareVersion := text }

theorem eq_of_field {d e : DeviceInfo} (hname : d.name = e.name) (hpath : d.path = e.path)
    (hfield : ∀ a, d.field a = e.field a) : d = e := by
  obtain ⟨name, path, pciDevice, productId, productRevision, firmwareVersion⟩ := d
  obtain ⟨name', path', pciDevice', productId', productRevision', firmwareVersion'⟩ := e
  cases hname
  cases hpath
  cases hfield .device
  cases hfield .productId
  cases hfield .productRevision
  cases hfield .firmwareVersion
  rfl

theorem field_withField (d : DeviceInfo) (a b : Attribute) (text : String)
    : (d.withField a text).field b = if b = a then text else d.field b := by
  cases a <;> cases b <;> rfl

@[simp]
theorem name_withField (d : DeviceInfo) (a : Attribute) (text : String) : (d.withField a text).name = d.name := by
  cases a <;> rfl

@[simp]
theorem path_withField (d : DeviceInfo) (a : Attribute) (text : String) : (d.withField a text).path = d.path := by
  cases a <;> rfl

end DeviceInfo

namespace Attribute

open Discovery

def path (a : Attribute) (name : String) : String :=
  classDirectory ++ "/" ++ name ++
    match a with
    | .device => "/device"
    | .productId => "/product_id"
    | .productRevision => "/product_revision"
    | .firmwareVersion => "/fw_version"

def unknown : Attribute → String
  | .device => "unknown pci device"
  | _ => "unknown"

def Tells (fs : FileSystem Id) (name : String) (a : Attribute) (text : String) : Prop :=
  match a with
  | .device => ∃ target, (fs.target (a.path name)).run = .ok target ∧ fileName? target = some text
  | .productId | .productRevision => fs.Says (a.path name) text.toList
  | .firmwareVersion =>
    ∃ version, (fs.SaysHexadecimal (a.path name) version ∧ version < 2 ^ 32) ∧ IsVersion version text

def Shows (fs : FileSystem Id) (name : String) (a : Attribute) (text : String) : Prop :=
  a.Tells fs name text ∨ (∀ told, ¬ a.Tells fs name told) ∧ text = a.unknown

def Same (fs fs' : FileSystem Id) (name : String) : Attribute → Prop
  | .device => fs'.target (device.path name) = fs.target (device.path name)
  | a => fs'.contents (a.path name) = fs.contents (a.path name)

variable {fs fs' : FileSystem Id} {name : String}

theorem Tells.unique {a : Attribute} {text other : String} (h : a.Tells fs name text) (hother : a.Tells fs name other)
    : text = other := by
  cases a with
  | device =>
    obtain ⟨target, htarget, hname⟩ := h
    obtain ⟨target', htarget', hname'⟩ := hother
    cases htarget.symm.trans htarget'
    exact Option.some.inj (hname.symm.trans hname')
  | productId | productRevision => exact String.toList_injective (Files.Says.unique h hother)
  | firmwareVersion =>
    obtain ⟨version, ⟨hsaid, _⟩, hversion⟩ := h
    obtain ⟨version', ⟨hsaid', _⟩, hversion'⟩ := hother
    cases hsaid.unique hsaid'
    rw [← isVersion_iff.mp hversion, ← isVersion_iff.mp hversion']

theorem Shows.unique {a : Attribute} {text other : String} (h : a.Shows fs name text) (hother : a.Shows fs name other)
    : text = other := by
  rcases h with h | ⟨hnone, rfl⟩ <;> rcases hother with hother | ⟨hnone', rfl⟩
  . exact h.unique hother
  . exact absurd h (hnone' text)
  . exact absurd hother (hnone other)
  . rfl

theorem Same.tells_iff {a : Attribute} (h : a.Same fs fs' name) (text : String)
    : a.Tells fs' name text ↔ a.Tells fs name text := by
  cases a with
  | device =>
    unfold Tells
    dsimp only
    rw [h]
  | productId | productRevision =>
    unfold Tells Files.Says
    dsimp only
    rw [h]
  | firmwareVersion =>
    unfold Tells Files.SaysHexadecimal Files.Says
    dsimp only
    rw [h]

theorem Same.shows {a : Attribute} (h : a.Same fs fs' name) {text : String} (hshows : a.Shows fs name text)
    : a.Shows fs' name text := by
  unfold Shows at hshows ⊢
  simp only [h.tells_iff]
  exact hshows

theorem shows_getD {a : Attribute} {read : Option String} (h : ∀ text, read = some text ↔ a.Tells fs name text)
    : a.Shows fs name (read.getD a.unknown) := by
  cases read with
  | none =>
    refine Or.inr ⟨?_, rfl⟩
    intro told htold
    cases (h told).mpr htold
  | some text => exact Or.inl ((h text).mp rfl)

end Attribute

namespace Discovery

variable {fs fs' : FileSystem Id}

theorem toOption_map_eq_some_iff {f : β → γ} {answer : Except ε β} {value : γ}
    : (answer.map f).toOption = some value ↔ ∃ a, answer = .ok a ∧ f a = value := by
  cases answer with
  | error e => exact ⟨nofun, nofun⟩
  | ok a => simp [Except.map, Except.toOption]

theorem shows_describe (fs : FileSystem Id) (name : String) (a : Attribute)
    : a.Shows fs name ((describe fs name).run.field a) := by
  have htext : ∀ {path text}, ((fs.trimmed path).run.map String.ofList).toOption = some text
      ↔ fs.Says path text.toList := by
    intro path text
    rw [toOption_map_eq_some_iff]
    simp only [Files.trimmed_eq_ok_iff]
    constructor
    . rintro ⟨cs, hsaid, rfl⟩
      rw [String.toList_ofList]
      exact hsaid
    . intro hsaid
      exact ⟨text.toList, hsaid, String.ofList_toList⟩
  cases a with
  | device =>
    apply Attribute.shows_getD
    intro text
    rw [Option.bind_eq_some_iff]
    simp only [toOption_eq_some_iff]
    exact Iff.rfl
  | productId | productRevision =>
    apply Attribute.shows_getD
    intro text
    exact htext
  | firmwareVersion =>
    apply Attribute.shows_getD
    intro text
    have hversion : ((fs.hexadecimal (Attribute.firmwareVersion.path name)).run.map versionText).toOption = some text
        ↔ Attribute.firmwareVersion.Tells fs name text := by
      rw [toOption_map_eq_some_iff]
      unfold Attribute.Tells
      simp only [Files.hexadecimal_eq_ok_iff, isVersion_iff]
    exact hversion

theorem run_describeAll (fs : FileSystem Id) (names : List String)
    : (describeAll fs names).run = names.map fun name => (describe fs name).run := by
  induction names with
  | nil => rfl
  | cons name names ih =>
    unfold describeAll
    simp only [Id.run_bind, Id.run_pure, ih, List.map_cons]

theorem nameLe_iff (a b : String) : nameLe a b = true ↔ a ≤ b := by
  unfold nameLe
  rw [Bool.not_eq_true', decide_eq_false_iff_not]
  exact not_lt

theorem list_of_entries {entries : List String} (h : fs.entries classDirectory = pure (.ok entries))
    : (list fs).run
        =
      .ok (((entries.filter (!isHidden ·)).mergeSort nameLe).map fun name => (describe fs name).run) := by
  rw [← run_describeAll]
  unfold list
  simp only [ExceptT.run_bind, run_liftM, h]
  rfl

theorem list_of_missing (h : fs.entries classDirectory = pure (.error .notFound)) : (list fs).run = .ok [] := by
  unfold list
  simp only [ExceptT.run_bind, run_liftM, h]
  rfl

theorem list_of_failed {e : SystemError} (h : fs.entries classDirectory = pure (.error e)) (he : e ≠ .notFound)
    : (list fs).run = .error (.system e) := by
  have hnumber : e ≠ .number 2 := he
  unfold list
  simp only [ExceptT.run_bind, run_liftM, h, map_pure, pure_bind]
  rfl

/--
A listing of the entries of the driver's directory: one switch for each entry that is not hidden, in the order of the
bytes of their names.
-/
structure Listed (fs : FileSystem Id) (entries : List String) (devices : List DeviceInfo) : Prop where
  names : (devices.map DeviceInfo.name).Perm (entries.filter (!isHidden ·))
  ordered : devices.Pairwise fun d e => Bytes.ofString d.name ≤ Bytes.ofString e.name
  path : ∀ d ∈ devices, d.path = "/dev/" ++ d.name
  field : ∀ d ∈ devices, ∀ a : Attribute, a.Shows fs d.name (d.field a)

theorem listed (fs : FileSystem Id) (entries : List String)
    : Listed fs entries (((entries.filter (!isHidden ·)).mergeSort nameLe).map fun name => (describe fs name).run) := by
  constructor
  case names =>
    rw [List.map_map]
    have hnames : DeviceInfo.name ∘ (fun name => (describe fs name).run) = id := rfl
    rw [hnames, List.map_id]
    exact List.mergeSort_perm _ _
  case ordered =>
    rw [List.pairwise_map]
    have hle : ∀ name other, nameLe name other = true ↔ id name ≤ id other := nameLe_iff
    apply (pairwise_mergeSort_of_key hle _).imp
    intro name other hname
    exact Bytes.ofString_le_iff.mpr hname
  case path =>
    intro d hd
    obtain ⟨name, _, rfl⟩ := List.mem_map.mp hd
    rfl
  case field =>
    intro d hd
    obtain ⟨name, _, rfl⟩ := List.mem_map.mp hd
    exact shows_describe fs name

/--
A tree has become another one by a change of one file or link, as far as a listing can see. The attributes that are not
read through it are as they were.
-/
structure ChangedAt (leads : String → Attribute → ι → Prop) (changed : ι) (fs fs' : FileSystem Id) : Prop where
  entries : fs'.entries classDirectory = fs.entries classDirectory
  elsewhere : ∀ name a, ¬ leads name a changed → a.Same fs fs' name

def Alone (leads : String → Attribute → ι → Prop) (changed : ι) (names : List String) (name : String) (a : Attribute)
    : Prop :=
  ∀ other ∈ names, ∀ b, leads other b changed → other = name ∧ b = a

section

variable {leads : String → Attribute → ι → Prop} {changed : ι}

theorem ChangedAt.field_eq (h : ChangedAt leads changed fs fs') {name : String} {a : Attribute}
    (ha : ¬ leads name a changed) : (describe fs' name).run.field a = (describe fs name).run.field a :=
  (shows_describe fs' name a).unique ((h.elsewhere name a ha).shows (shows_describe fs name a))

variable {names : List String} {name : String} {a : Attribute}

theorem ChangedAt.describe_eq_of_alone (h : ChangedAt leads changed fs fs') (halone : Alone leads changed names name a)
    (hname : name ∈ names)
    : (describe fs' name).run = (describe fs name).run.withField a ((describe fs' name).run.field a) := by
  apply DeviceInfo.eq_of_field
  case hname =>
    rw [DeviceInfo.name_withField]
    rfl
  case hpath =>
    rw [DeviceInfo.path_withField]
    rfl
  case hfield =>
    intro b
    rw [DeviceInfo.field_withField]
    by_cases hb : b = a
    . rw [if_pos hb, hb]
    . rw [if_neg hb]
      exact h.field_eq fun hleads => hb (halone name hname b hleads).2

theorem ChangedAt.describe_eq_of_ne (h : ChangedAt leads changed fs fs') (halone : Alone leads changed names name a)
    {other : String} (hother : other ∈ names) (hne : other ≠ name)
    : (describe fs' other).run = (describe fs other).run := by
  apply DeviceInfo.eq_of_field
  case hname => rfl
  case hpath => rfl
  case hfield =>
    intro b
    exact h.field_eq fun hleads => hne (halone other hother b hleads).1

end

structure Isolated (leads : String → Attribute → ι → Prop) (changed : ι) (fs' : FileSystem Id) (entries : List String)
    (devices devices' : List DeviceInfo) : Prop where
  listed : Listed fs' entries devices'
  elsewhere : devices.Forall₂ (fun d d' => d'.name = d.name ∧ ∀ a, ¬ leads d.name a changed → d'.field a = d.field a)
    devices'
  alone : ∀ name a, Alone leads changed (entries.filter (!isHidden ·)) name a →
    ∃ text, a.Shows fs' name text ∧ devices' = devices.map fun d => if d.name = name then d.withField a text else d

/--
Every entry of the driver's directory that is not hidden is listed once, in the order of the bytes of the names, and
each field shows what its own file says. If one file or link changes, or is no longer there, the listing has the same
switches, and only those fields change that are read through it. If this is one attribute of one switch, nothing else
changes.
-/
theorem listing_is_complete_and_isolated (fs : FileSystem Id)
    : (fs.entries classDirectory = pure (.error .notFound) → (list fs).run = .ok [])
        ∧
      (∀ e, fs.entries classDirectory = pure (.error e) → e ≠ .notFound → (list fs).run = .error (.system e))
        ∧
      ∀ entries, fs.entries classDirectory = pure (.ok entries) →
        ∃ devices, (list fs).run = .ok devices ∧ Listed fs entries devices
          ∧
        ∀ (leads : String → Attribute → ι → Prop) (changed : ι) (fs' : FileSystem Id), ChangedAt leads changed fs fs' →
          ∃ devices', (list fs').run = .ok devices' ∧ Isolated leads changed fs' entries devices devices' := by
  refine ⟨list_of_missing, fun e => list_of_failed, ?_⟩
  intro entries hentries
  refine ⟨_, list_of_entries hentries, listed fs entries, ?_⟩
  intro leads changed fs' hchanged
  have hentries' : fs'.entries classDirectory = pure (.ok entries) := hchanged.entries.trans hentries
  refine ⟨_, list_of_entries hentries', ?_⟩
  constructor
  case listed => exact listed fs' entries
  case elsewhere =>
    rw [List.forall₂_map_left_iff, List.forall₂_map_right_iff, List.forall₂_same]
    intro other _
    exact ⟨rfl, fun a ha => hchanged.field_eq ha⟩
  case alone =>
    intro name a halone
    refine ⟨_, shows_describe fs' name a, ?_⟩
    rw [List.map_map]
    apply List.map_congr_left
    intro other hmem
    have hother : other ∈ entries.filter (!isHidden ·) := (List.mergeSort_perm _ _).mem_iff.mp hmem
    have hdescribed : (describe fs other).run.name = other := rfl
    rw [Function.comp_apply, hdescribed]
    by_cases hname : other = name
    . subst hname
      rw [if_pos rfl]
      exact hchanged.describe_eq_of_alone halone hother
    . rw [if_neg hname]
      exact hchanged.describe_eq_of_ne halone hother hname

def versionedTree (version : String) : FileSystem Id where
  contents path :=
    match path with
    | "/sys/class/switchtec/switchtec10/product_id" => .ok (.ofString "PFX\n")
    | "/sys/class/switchtec/switchtec10/fw_version" => .ok (.ofString version)
    | "/sys/class/switchtec/switchtec2/fw_version" => .ok (.ofString "0x0405006F")
    | _ => .error .notFound
  isThere _ := pure false
  entries path := if path = classDirectory then .ok ["switchtec2", ".hidden", "switchtec10"] else .error .notFound
  target path :=
    if path = "/sys/class/switchtec/switchtec2/device" then .ok "../../../0000:03:00.1" else .error .invalidArgument
  device _ := .error .notFound

theorem contents_versionedTree (version other : String) {path : String}
    (h : path ≠ Attribute.firmwareVersion.path "switchtec10")
    : (versionedTree version).contents path = (versionedTree other).contents path := by
  unfold versionedTree
  dsimp only
  split
  . rfl
  . exact absurd (by decide +kernel) h
  . rfl
  . rfl

theorem spoiled_version_spoils_one_field
    : let tree := versionedTree "0x0102B123\n"
      let spoiled := versionedTree "1.02 B123"
      let first : DeviceInfo :=
        ⟨"switchtec10", "/dev/switchtec10", "unknown pci device", "PFX", "unknown", "1.02 BB123"⟩
      let second : DeviceInfo := ⟨"switchtec2", "/dev/switchtec2", "0000:03:00.1", "unknown", "unknown", "4.05 B06F"⟩
      (list tree).run = .ok [first, second]
        ∧
      (list spoiled).run = .ok [{ first with firmwareVersion := "unknown" }, second] := by
  intro tree spoiled first second
  have hshown : ["switchtec2", ".hidden", "switchtec10"].filter (!isHidden ·) = ["switchtec2", "switchtec10"] := by
    decide +kernel
  have hlist : (list tree).run = .ok [first, second] := by
    have hle : nameLe "switchtec2" "switchtec10" = false := by decide +kernel
    have hsorted : ["switchtec2", "switchtec10"].mergeSort nameLe = ["switchtec10", "switchtec2"] := by
      rw [List.mergeSort]
      simp [List.MergeSort.Internal.splitInTwo, hle]
    have hdescribed : ["switchtec10", "switchtec2"].map (fun name => (describe tree name).run) = [first, second] := by
      decide +kernel
    rw [list_of_entries rfl, hshown, hsorted, hdescribed]
  have hchanged : ChangedAt (fun name a changed => changed = a.path name)
      (Attribute.firmwareVersion.path "switchtec10") tree spoiled := by
    refine ⟨rfl, ?_⟩
    intro name a ha
    cases a with
    | device => rfl
    | productId | productRevision | firmwareVersion => exact contents_versionedTree _ _ (Ne.symm ha)
  have halone : Alone (fun name a changed => changed = a.path name) (Attribute.firmwareVersion.path "switchtec10")
      (["switchtec2", ".hidden", "switchtec10"].filter (!isHidden ·)) "switchtec10" .firmwareVersion := by
    rw [hshown]
    intro other hother b hleads
    rcases List.mem_pair.mp hother with rfl | rfl
    . cases b <;> exact absurd hleads (by decide +kernel)
    . cases b with
      | firmwareVersion => exact ⟨rfl, rfl⟩
      | device | productId | productRevision => exact absurd hleads (by decide +kernel)
  have hnone : ∀ told, ¬ Attribute.firmwareVersion.Tells spoiled "switchtec10" told := by
    rintro told ⟨version, hsaid, _⟩
    have hread := Files.hexadecimal_eq_ok_iff.mpr hsaid
    have hfailed : ((spoiled.hexadecimal (Attribute.firmwareVersion.path "switchtec10")).run).toOption = none := by
      decide +kernel
    rw [hread] at hfailed
    cases hfailed
  obtain ⟨_, _, hlisted⟩ := listing_is_complete_and_isolated tree
  obtain ⟨devices, hdevices, _, hisolated⟩ := hlisted _ rfl
  obtain ⟨devices', hspoiled, hchange⟩ := hisolated _ _ spoiled hchanged
  obtain ⟨text, hshows, rfl⟩ := hchange.alone "switchtec10" .firmwareVersion halone
  cases hshows.unique (.inr ⟨hnone, rfl⟩)
  cases hlist.symm.trans hdevices
  exact ⟨hlist, hspoiled⟩

end Discovery
end PcieSwitch
