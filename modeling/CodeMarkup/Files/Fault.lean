import CodeMarkup.Text.Quoted
/-!
Refusals of the file system.
-/

namespace CodeMarkup.Files

open CodeMarkup.Text

/-- Why the file system refuses. -/
inductive Cause
  | notFound
  | permissionDenied
  | alreadyExists
  | notDirectory
  | isDirectory
  | noSpace
  | nameTooLong
  deriving DecidableEq, Repr

namespace Cause

/-- The number of the cause. -/
def code : Cause → Nat
  | notFound => 2
  | permissionDenied => 13
  | alreadyExists => 17
  | notDirectory => 20
  | isDirectory => 21
  | noSpace => 28
  | nameTooLong => 36

/-- The cause in words. -/
def words : Cause → String
  | notFound => "No such file or directory"
  | permissionDenied => "Permission denied"
  | alreadyExists => "File exists"
  | notDirectory => "Not a directory"
  | isDirectory => "Is a directory"
  | noSpace => "No space left on device"
  | nameTooLong => "File name too long"

/-- The cause as messages give it, which is all there is to say where no path is named. -/
def message (cause : Cause) : String := s!"[Errno {cause.code}] {cause.words}"

end Cause

/-- A refusal: its cause, the path as it was given, and where the file was to be moved, if it was. -/
structure Fault where
  cause : Cause
  path : CodePoints
  target : Option CodePoints := none
  deriving DecidableEq, Repr

/-- The refusal in words. -/
def Fault.message (fault : Fault) : String :=
  fault.cause.message ++ ": " ++ quoted fault.path ++
    (match fault.target with
     | none => ""
     | some target => " -> " ++ quoted target)

end CodeMarkup.Files
