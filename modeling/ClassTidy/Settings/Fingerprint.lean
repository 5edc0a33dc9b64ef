/-
  ClassTidy.Settings.Fingerprint — what decides which rank table is used.

  The path of the table, the two choices about repeats and gaps, and the workspace are
  written as one canonical text, and its digest is the fingerprint.
-/
import ClassTidy.Digest.Sha256
import ClassTidy.Json.Printer
import ClassTidy.Settings.Basic
import ClassTidy.Text.Utf8

namespace ClassTidy

abbrev Fingerprint := Text

namespace Settings

/-- What a fingerprint is made of. -/
def fingerprintValue (s : Settings) (root : Path) : Json :=
  .obj [
    ("rank_table_path".toList, .str s.tablePath),
    ("preserve_duplicates".toList, .bool s.keepRepeats),
    ("preserve_whitespace".toList, .bool s.keepGaps),
    ("workspace_root".toList, .str root.write)]

/-- The octets that are digested; `root` is resolved. -/
def fingerprintOctets (s : Settings) (root : Path) : List UInt8 :=
  Text.Utf8.encode (Json.compact (Json.sorted (s.fingerprintValue root)))

/-- The fingerprint for a workspace, seen from a current directory. -/
def fingerprint (s : Settings) (current root : Path) : Fingerprint :=
  Digest.Sha256.hexDigest (s.fingerprintOctets (Path.resolve current root))

/-- As much of a fingerprint as the log shows. -/
def shortPrint (f : Fingerprint) : Text := f.take 12

end Settings

end ClassTidy
