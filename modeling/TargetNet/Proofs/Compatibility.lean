import Mathlib.Data.List.Basic
import Mathlib.Tactic.Common
import TargetNet.Proofs.FileSystem.Walk
import TargetNet.Proofs.Package.Probe
import TargetNet.Proofs.Path
import TargetNet.Proofs.Version

/-!
# Deciding on aliases by the status file

`Package.StatusTells` says which version of a package the status file of a target gives, without the
probe: that of the first record to call the package fully installed. The probe finds exactly this
version (`readStatus_eq_ok_iff`), and base interfaces must bring up their aliases exactly if the
version of `ifupdown` so found is below 0.8.6 (`Compatibility.decides_by_status_file`). How records
are found in a text does not matter to any of this, so the reader of records is left open.
-/

namespace TargetNet

namespace Package

variable {records : RecordReader}

/-- A record says of a package that it is fully installed: `installed` is the last word of its
status. -/
def Record.Installs (record : Record) (package : String) : Prop :=
  record.package = package ∧ ∃ status, record.status = some status ∧
    (Text.wordsOfString status).getLast? = some "installed"

/-- The file `var/lib/dpkg/status` of a target may be read and is a text of records, the first of which
to say that a package is installed gives this version. -/
def StatusTells [Circumstances] (records : RecordReader) (fs : FileSystem) (target : Path)
    (package : String) (version : Version) : Prop :=
  ∃ text before record after raw,
    fs.read (target.join (.ofString "var/lib/dpkg/status")) = .ok text.toUTF8 ∧
    records text = .ok (before ++ record :: after) ∧
    (∀ earlier ∈ before, ¬ earlier.Installs package) ∧ record.Installs package ∧
    record.version = some raw ∧ Version.parse raw = .ok version

/-- The status file is where the documentation of the database says. -/
lemma statusFileOf_eq (target : Path) :
    statusFileOf target = target.join (.ofString "var/lib/dpkg/status") := by
  rw [statusFileOf, databaseOf, Path.join_join target (by decide +kernel) (by decide +kernel)
    (by decide +kernel)]
  congr 1
  decide +kernel

/-- The test of a record says whether it is of the package and has it installed. -/
lemma Record.installs_iff {record : Record} {package : String} :
    (record.package == package && record.isInstalled) = true ↔ record.Installs package := by
  rw [Bool.and_eq_true, beq_iff_eq, isInstalled, Installs]
  apply and_congr_right
  intro _
  cases record.status with
  | none => simp
  | some status => simp

/-- The record that is found is the first that has the package installed. -/
lemma installed?_eq_some_iff {package : String} {records : List Record} {record : Record} :
    installed? package records = some record ↔ record.Installs package ∧
      ∃ before after, records = before ++ record :: after ∧
        ∀ earlier ∈ before, ¬ earlier.Installs package := by
  rw [installed?, List.find?_eq_some_iff_append, Record.installs_iff]
  simp only [← Record.installs_iff, Bool.not_eq_true', Bool.not_eq_true]

/-- A version is taken as it is parsed. -/
lemma versionOf_eq_ok_iff {raw : String} {version : Version} :
    versionOf raw = .ok version ↔ Version.parse raw = .ok version := by
  rw [versionOf]
  cases Version.parse raw <;> simp

/-- Where the version of a package in the text of a status file comes from. -/
lemma versionInStatus_eq_ok_iff {target : Path} {package text : String} {version : Version} :
    versionInStatus records target package text = .ok version ↔
      ∃ found record raw, records text = .ok found ∧ installed? package found = some record ∧
        record.version = some raw ∧ Version.parse raw = .ok version := by
  rw [versionInStatus]
  cases records text with
  | error error => simp
  | ok all =>
    cases found : installed? package all with
    | none => simp [found]
    | some record =>
      cases given : record.version with
      | none => simp [found, given]
      | some raw => simp [found, given, versionOf_eq_ok_iff]

/-- The version that is read is the one that the status file tells. -/
lemma readStatus_eq_ok_iff [Circumstances] {fs : FileSystem} {target : Path} {package : String}
    {version : Version} :
    readStatus records fs target package = .ok version ↔
      StatusTells records fs target package version := by
  constructor
  · intro h
    rw [readStatus] at h
    cases read : fs.readText (statusFileOf target) with
    | error fault =>
      rw [read] at h
      cases h
    | ok text =>
      rw [read] at h
      obtain ⟨_, record, raw, parsed, found, given, number⟩ := versionInStatus_eq_ok_iff.1 h
      obtain ⟨installs, before, after, rfl, earlier⟩ := installed?_eq_some_iff.1 found
      rw [statusFileOf_eq, FileSystem.readText_eq_ok_iff] at read
      exact ⟨text, before, record, after, raw, read, parsed, earlier, installs, given, number⟩
  · rintro ⟨text, before, record, after, raw, read, parsed, earlier, installs, given, number⟩
    rw [readStatus, statusFileOf_eq, FileSystem.readText_eq_ok_iff.2 read]
    exact versionInStatus_eq_ok_iff.2 ⟨_, record, raw, parsed,
      installed?_eq_some_iff.2 ⟨installs, before, after, rfl, earlier⟩, given, number⟩

/-- A status file tells at most one version. -/
lemma StatusTells.unique [Circumstances] {fs : FileSystem} {target : Path} {package : String}
    {version version' : Version} (tells : StatusTells records fs target package version)
    (tells' : StatusTells records fs target package version') : version = version' :=
  Except.ok.inj ((readStatus_eq_ok_iff.2 tells).symm.trans (readStatus_eq_ok_iff.2 tells'))

end Package

namespace Compatibility

open Package (RecordReader recordProbe StatusTells)

variable {fs : FileSystem} {target : Path}

/-- A version that is known decides, without a warning. -/
lemma shows_of_ok {probe : Package.Probe} (looks : probe.OnlyLooks) {version : Version}
    (known : (probe target packageName fs).result = .ok version) :
    (needsPostupAlias probe target fs).Shows (.ok (version.isOlderThan threshold)) fs [] := by
  have attempted : ((probe target packageName).noting.attempt fs).result = .ok (.ok version) :=
    congrArg Except.ok known
  have kept : ((probe target packageName).noting.attempt fs).files = fs := looks _ _ fs
  rw [needsPostupAlias, Job.say_bind, Job.bind_of_ok attempted, kept]
  refine ⟨rfl, rfl, ?_⟩
  rw [Note.events_remark, Note.events_append, Job.notes_attempt, Job.events_noting]
  rfl

/-- If the version is not known, there is a warning, and aliases are left alone. -/
lemma shows_of_error {probe : Package.Probe} (looks : probe.OnlyLooks) {error : Error}
    (failed : (probe target packageName fs).result = .error error) :
    (needsPostupAlias probe target fs).Shows (.ok false) fs
      [.warning ("Failed reading ifupdown package version (using defaults): " ++ error.message)] := by
  have attempted : ((probe target packageName).noting.attempt fs).result = .ok (.error error) :=
    congrArg Except.ok failed
  have kept : ((probe target packageName).noting.attempt fs).files = fs := looks _ _ fs
  rw [needsPostupAlias, Job.say_bind, Job.bind_of_ok attempted, kept]
  refine ⟨rfl, rfl, ?_⟩
  rw [Note.events_remark, Note.events_append, Job.notes_attempt, Job.events_noting]
  rfl

/-- Base interfaces must bring up their aliases exactly if the status file of the target gives a
version of `ifupdown` below 0.8.6, however records are read. If it gives none, there is one warning;
else there is none. Either way, no file is changed. -/
theorem decides_by_status_file [Circumstances] (records : RecordReader) (fs : FileSystem)
    (target : Path) :
    ∃ decision events,
      (needsPostupAlias (recordProbe records) target fs).Shows (.ok decision) fs events ∧
      (decision = true ↔ ∃ version, StatusTells records fs target "ifupdown" version ∧
        version.IsBelow (.ofNumbers 0 8 6)) ∧
      ((∃ version, StatusTells records fs target "ifupdown" version) → events = []) ∧
      ((¬ ∃ version, StatusTells records fs target "ifupdown" version) → ∃ reason, events =
        [.warning ("Failed reading ifupdown package version (using defaults): " ++ reason)]) := by
  have probed : (recordProbe records target packageName fs).result =
      (Package.readStatus records fs target packageName).mapError .probe := rfl
  have looks := Package.recordProbe_onlyLooks records
  cases read : Package.readStatus records fs target packageName with
  | ok version =>
    have tells := Package.readStatus_eq_ok_iff.1 read
    rw [read] at probed
    refine ⟨_, _, shows_of_ok looks probed, ?_, fun _ => rfl, fun unknown => ?_⟩
    · rw [Version.isOlderThan_iff]
      constructor
      · intro below
        exact ⟨version, tells, below⟩
      · rintro ⟨other, tells', below⟩
        rw [tells.unique tells']
        exact below
    · exact absurd ⟨version, tells⟩ unknown
  | error error =>
    rw [read] at probed
    have unknown : ¬ ∃ version, StatusTells records fs target packageName version := by
      rintro ⟨version, tells⟩
      cases read.symm.trans (Package.readStatus_eq_ok_iff.2 tells)
    refine ⟨_, _, shows_of_error looks probed, ?_, fun known => ?_, fun _ => ⟨_, rfl⟩⟩
    · constructor
      · nofun
      · rintro ⟨version, tells, -⟩
        exact absurd ⟨version, tells⟩ unknown
    · exact absurd known unknown

/-- A status file that lists `ifupdown` twice, first as removed and then as installed. -/
def oldStatus : String :=
  "Package: ifupdown\nStatus: deinstall ok config-files\nVersion: 0.8.10\n\n" ++
    "Package: ifupdown\nStatus: install ok installed\nVersion: 0.8.5ubuntu1\n"

/-- A target with this status file and nothing else. -/
def oldTarget : FileSystem where
  entries :=
    [(.ofStrings ["t"], .directory), (.ofStrings ["t", "var"], .directory),
      (.ofStrings ["t", "var", "lib"], .directory),
      (.ofStrings ["t", "var", "lib", "dpkg"], .directory),
      (.ofStrings ["t", "var", "lib", "dpkg", "status"], .file oldStatus.toUTF8 0o644)]
  current := []

/-- With an old version, which the record of a removed one does not hide, base interfaces must bring
up their aliases, and nothing is warned of. -/
theorem decides_by_status_file_oldStatus :
    Package.parseDatabase oldStatus =
        .ok [⟨"ifupdown", some "deinstall ok config-files", some "0.8.10", none⟩,
          ⟨"ifupdown", some "install ok installed", some "0.8.5ubuntu1", none⟩] ∧
      (needsPostupAlias Package.statusProbe (.ofString "t") oldTarget).Shows (.ok true)
        oldTarget [] := by
  have records : Package.parseDatabase oldStatus =
      .ok [⟨"ifupdown", some "deinstall ok config-files", some "0.8.10", none⟩,
        ⟨"ifupdown", some "install ok installed", some "0.8.5ubuntu1", none⟩] := by
    decide +kernel
  have read : oldTarget.read ((Path.ofString "t").join (.ofString "var/lib/dpkg/status")) =
      .ok oldStatus.toUTF8 := by
    decide +kernel
  have tells : StatusTells Package.parseDatabase oldTarget (.ofString "t") "ifupdown"
      (.withText 0 8 5 "0.8.5ubuntu1") := by
    refine ⟨oldStatus, [_], _, [], _, read, records, ?_, ?_, rfl, by decide +kernel⟩
    · rw [List.forall_mem_singleton, ← Package.Record.installs_iff]
      decide +kernel
    · rw [← Package.Record.installs_iff]
      decide +kernel
  obtain ⟨decision, events, shows, decides, quiet, -⟩ :=
    decides_by_status_file Package.parseDatabase oldTarget (.ofString "t")
  have old : decision = true := decides.2 ⟨_, tells, by decide⟩
  rw [old, quiet ⟨_, tells⟩] at shows
  exact ⟨records, shows⟩

end Compatibility

end TargetNet
