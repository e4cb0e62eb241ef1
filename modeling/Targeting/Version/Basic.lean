import Targeting.Text.Numeral
import Targeting.Text.Pieces

/-!
# Semantic versions

A version is written `major.minor.patch`, then optionally a hyphen with identifiers between points,
then optionally a plus sign with build metadata. Numeric identifiers lose their leading zeros when a
version is read; they stay texts, so there is no limit on their size. The canonical text of a
version is what its parts are written as, build metadata included.
-/

namespace Targeting

/-- Reasons a text is not a version. Each carries the whole text. -/
inductive VersionError where
  /-- Nothing follows the plus sign. -/
  | emptyMetadata (text : String)
  /-- Nothing stands between two delimiters of the pre-release part. -/
  | emptyPreRelease (text : String)
  /-- The core is not three numbers. -/
  | invalidCore (text : String)
deriving DecidableEq, Repr

namespace VersionError

/-- The text of an error. -/
def message : VersionError → String
  | .emptyMetadata text => "unable to convert to semver, empty build metadata: " ++ text
  | .emptyPreRelease text => "unable to convert to semver, empty pre-release identifier: " ++ text
  | .invalidCore text => "unable to convert to semver, expected major.minor.patch: " ++ text

end VersionError

/-- A semantic version. -/
structure Version where
  major : List Char
  minor : List Char
  patch : List Char
  /-- The pre-release identifiers; none for a stable version. -/
  preRelease : List (List Char)
  /-- The build metadata. -/
  metadata : Option (List Char)
deriving DecidableEq, Repr

namespace Version

/-- Whether an identifier is a number: one or more ASCII digits. -/
def isNumeric (identifier : List Char) : Bool :=
  !identifier.isEmpty && identifier.all Numeral.isDigit

/-- A number without leading zeros. -/
def stripZeros (identifier : List Char) : List Char :=
  match identifier.dropWhile (· = '0') with
  | [] => ['0']
  | digits => digits

/-- The canonical form of an identifier: numbers lose their leading zeros. -/
def canonicalIdentifier (identifier : List Char) : List Char :=
  if isNumeric identifier then stripZeros identifier else identifier

/-- The three numbers of a core in canonical form. -/
def readCore? (core : List Char) : Option (List Char × List Char × List Char) :=
  match Text.pieces '.' core with
  | [major, minor, patch] =>
      if isNumeric major && isNumeric minor && isNumeric patch then
        some (stripZeros major, stripZeros minor, stripZeros patch)
      else none
  | _ => none

/-- The identifiers of a pre-release part in canonical form, if there is such a part; nothing is
read if one of them is empty. -/
def readPreRelease? : Option (List Char) → Option (List (List Char))
  | none => some []
  | some text =>
      let identifiers := Text.pieces '.' text
      if identifiers.any List.isEmpty then none else some (identifiers.map canonicalIdentifier)

/-- The version that a text stands for. An empty metadata part is reported before an empty
pre-release identifier, and that before a malformed core. -/
def parse (text : String) : Except VersionError Version :=
  let (release, metadata) := Text.cut '+' text.toList
  if metadata = some [] then .error (.emptyMetadata text)
  else
    let (core, suffix) := Text.cut '-' release
    match readPreRelease? suffix with
    | none => .error (.emptyPreRelease text)
    | some preRelease =>
        match readCore? core with
        | none => .error (.invalidCore text)
        | some (major, minor, patch) => .ok { major, minor, patch, preRelease, metadata }

/-- The characters of the canonical text. -/
def characters (version : Version) : List Char :=
  Text.join '.' [version.major, version.minor, version.patch] ++
    (match version.preRelease with
      | [] => []
      | identifiers => '-' :: Text.join '.' identifiers) ++
    (match version.metadata with
      | none => []
      | some metadata => '+' :: metadata)

/-- The canonical text. -/
def canonical (version : Version) : String := String.ofList version.characters

/-- Whether a version has no pre-release part. -/
def isStable (version : Version) : Bool := version.preRelease.isEmpty

end Version

end Targeting
