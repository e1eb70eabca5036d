import Placeholder.Entries
import Placeholder.Text.Quoted

/-!
# Warnings

Resolving never fails: where something is amiss the result degrades to null and a warning says so.
A warning has a kind, a message, and a context that names the token and whatever else was involved.
-/

namespace Placeholder

/-- What a warning is about. -/
inductive WarningKind where
  /-- A macro or a modifier gave something that is not a scalar. -/
  | notScalar
  /-- A chain names a modifier that is not registered. -/
  | modifierNotFound
  deriving DecidableEq

def WarningKind.name : WarningKind → String
  | .notScalar => "OutOfDomainValue"
  | .modifierNotFound => "ModifierNotFound"

/-- A warning.  The context may have a key twice; the first entry counts. -/
structure Warning where
  kind : WarningKind
  message : String
  context : List (String × String) := []
  deriving DecidableEq

namespace Warning

/-- The tag that every warning carries, and the target that it is reported under. -/
def source : String := "templa"

/-- The text under a key of the context. -/
def context? (warning : Warning) (key : String) : Option String := warning.context.lookup key

/-- The warning on one line, the texts of the context in quotes. -/
def text (warning : Warning) : String :=
  "[" ++ source ++ "] " ++ warning.message ++
    String.join (warning.context.map fun (key, value) => " " ++ key ++ "=" ++ Text.quoted value)

/-- The fields under which the warning is reported, in the order of their names.  Of the context
only the known keys are reported. -/
def fields (warning : Warning) : List (String × String) :=
  [("found", warning.context? "found"),
    ("kind", some warning.kind.name),
    ("macro", warning.context? "macro"),
    ("message", some warning.message),
    ("modifier", warning.context? "modifier"),
    ("module", some source)].filterMap fun (name, value?) => value?.map (name, ·)

/-! ## The warnings of an engine -/

/-- The macro of a token gave something that is not a scalar. -/
def ofMacro (token found : String) : Warning where
  kind := .notScalar
  message := "macro produced a value outside string|int|float|bool|null"
  context := [("macro", token), ("found", found)]

/-- A modifier of a token gave something that is not a scalar. -/
def ofModifier (token modifier found : String) : Warning where
  kind := .notScalar
  message := "modifier produced a value outside string|int|float|bool|null"
  context := [("macro", token), ("modifier", modifier), ("found", found)]

/-- A token names a modifier that is not registered. -/
def ofUnknownModifier (token modifier : String) : Warning where
  kind := .modifierNotFound
  message := "modifier not found: " ++ modifier
  context := [("macro", token), ("modifier", modifier)]

end Warning

/-! ## Records of warnings -/

/-- Records of warnings that are shared through handles.  Handles of one record see the same
warnings. -/
structure WarningRecords where
  records : List (List Warning) := []

/-- A handle of a record. -/
abbrev RecordHandle := Nat

namespace WarningRecords

/-- A new, empty record. -/
def create (all : WarningRecords) : RecordHandle × WarningRecords :=
  (all.records.length, ⟨all.records ++ [[]]⟩)

/-- The warnings of a record, oldest first. -/
def look (all : WarningRecords) (handle : RecordHandle) : List Warning :=
  all.records[handle]?.getD []

/-- The records with a warning added to one of them. -/
def warn (all : WarningRecords) (handle : RecordHandle) (warning : Warning) : WarningRecords :=
  ⟨all.records.set handle (all.look handle ++ [warning])⟩

/-- The records with one of them emptied. -/
def clear (all : WarningRecords) (handle : RecordHandle) : WarningRecords :=
  ⟨all.records.set handle []⟩

end WarningRecords

end Placeholder
