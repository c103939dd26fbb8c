import MarkTex.CommandLine.Defaults
import MarkTex.Conversion
import MarkTex.Engine.Compile

/-!
# Failures of runs

Why a run ends before its work is done. Most failures are reported in one line, and each kind of
them has an exit status; the others are not caught.
-/

namespace MarkTex.Program

/-- Why a run ends before its work is done. -/
inductive Failure where
  /-- The configuration cannot be loaded. -/
  | load (cause : Config.LoadFault)
  /-- The configuration cannot be applied. -/
  | config (cause : CommandLine.ConfigFault)
  /-- The options are refused. -/
  | options (cause : OptionFault)
  /-- A printable file was asked for of a body alone. -/
  | bodyAsPdf
  | unreadable (path : Path) (cause : FileFault)
  | undecodable (path : Path) (cause : Text.Utf8Fault)
  | unwritable (path : Path) (cause : FileFault)
  | conversion (cause : Conversion.Failure)
  | missingEngine (engine : Engine.Name)
  | compilation (cause : Engine.Failure) (log : Text)
  /-- The input stream is no text. -/
  | undecodableInput (cause : Text.Utf8Fault)
  /-- The value of a setting names no level of records. -/
  | notLevel (typeName : String)
  /-- The value of a setting names no path. -/
  | notPath (typeName : String)
  /-- The value of a setting names a path by bytes, where only texts do. -/
  | bytesPath
  /-- A path holds the character that ends paths. -/
  | nullCharacter
  /-- The document cannot be written where it is compiled. -/
  | unplaced (path : Path) (cause : FileFault)
  /-- A message cannot show an integer of the options for compiling. -/
  | unshowable

namespace Failure

/-- What went wrong. -/
def message : Failure → String
  | load cause => cause.message
  | config cause => cause.message
  | options cause => cause.message
  | bodyAsPdf => "--pdf needs a complete document and cannot be combined with --body-only"
  | unreadable path cause => s!"Could not read {path}: " ++ cause.message path.toString
  | undecodable path cause => s!"Could not read {path}: {cause.message}"
  | unwritable path cause => s!"Could not write {path}: " ++ cause.message path.toString
  | conversion cause => cause.message
  | missingEngine engine => Engine.missingMessage engine
  | compilation cause log => Engine.failureMessage cause log
  | undecodableInput cause => cause.message
  | notLevel typeName => s!"'{typeName}' object has no attribute 'upper'"
  | notPath typeName => s!"expected str, bytes or os.PathLike object, not {typeName}"
  | bytesPath =>
    "argument should be a str object or an os.PathLike object returning str, not <class 'bytes'>"
  | nullCharacter => FileFault.nullCharacter.message ""
  | unplaced path cause => cause.message path.toString
  | unshowable => Value.unshowableMessage

/-- The exit status of runs whose settings are refused. -/
def refusedStatus : Nat := 2

/-- The exit status of a run that ends so, if it is reported: one for conversions, two for settings,
three for files and four for engines. -/
def status? : Failure → Option Nat
  | conversion _ => some 1
  | load cause => if cause.isReported then some refusedStatus else none
  | config cause => if cause.isReported then some refusedStatus else none
  | options cause => if cause.isReported then some refusedStatus else none
  | bodyAsPdf => some refusedStatus
  | unreadable .. => some 3
  | undecodable .. => some 3
  | unwritable .. => some 3
  | missingEngine _ => some 4
  | compilation .. => some 4
  | undecodableInput _ => none
  | notLevel _ => none
  | notPath _ => none
  | bytesPath => none
  | nullCharacter => none
  | unplaced .. => none
  | unshowable => none

/-- The failure to read a file. -/
def ofReading (path : Path) : FileFault → Failure
  | .nullCharacter => nullCharacter
  | cause => unreadable path cause

/-- The failure to write a file. -/
def ofWriting (path : Path) : FileFault → Failure
  | .nullCharacter => nullCharacter
  | cause => unwritable path cause

/-- The failure to make a printable file of the document at a path. -/
def ofRefusal (document : Path) : Engine.Refusal → Failure
  | .missing engine => missingEngine engine
  | .failed cause log => compilation cause log
  | .broken (.unplaced cause) => unplaced document cause
  | .broken (.unshowable _) => unshowable

end Failure

end MarkTex.Program
