import TargetNet.Package.Probe

/-!
# Compatibility

Releases of `ifupdown` before 0.8.6 wait for two minutes at boot unless base interfaces bring up their
aliases. The version installed in the target tells whether that is so; if it is not known, a modern
release is assumed, with a warning.
-/

namespace TargetNet.Compatibility

/-- The package that reads the rendered configuration. -/
def packageName : String := "ifupdown"

/-- The first release that does not wait. -/
def threshold : Version :=
  .ofNumbers 0 8 6

/-- What is said of the version that was found. -/
def versionRemark (version : Version) : String :=
  packageName ++ " version is " ++ version.raw ++
    " (major=" ++ Decimal.text version.major.toNat ++
    " minor=" ++ Decimal.text version.minor.toNat ++
    " micro=" ++ Decimal.text version.micro.toNat ++
    " semantic=" ++ Decimal.text version.semantic ++ ")"

/-- Whether base interfaces must bring up their aliases in this target. -/
def needsPostupAlias (probe : Package.Probe) (target : Path) : Job Note Bool := do
  (Job.say .info ("Checking target for version of " ++ packageName ++ " package")).noting
  match ← (probe target packageName).noting.attempt with
  | .ok version =>
    (Job.say .debug (versionRemark version)).noting
    return version.isOlderThan threshold
  | .error error =>
    Job.report (.warning
      ("Failed reading " ++ packageName ++ " package version (using defaults): " ++ error.message))
    return false

end TargetNet.Compatibility
