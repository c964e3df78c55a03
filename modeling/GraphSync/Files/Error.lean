/-!
# File errors

The reasons for which a file cannot be read as text.
-/

namespace GraphSync

/-- Why a file cannot be read as text. -/
inductive FileError where
  /-- The system refuses, with a number and its description. -/
  | system (number : Nat) (description : String)
  /-- The path holds a null character, which ends a path for the system. -/
  | nullInPath
  /-- The bytes of the file are no UTF-8. -/
  | notText
  deriving DecidableEq

namespace FileError

/-- There is nothing under the path. -/
def notFound : FileError := system 2 "No such file or directory"

/-- A file is used as a directory. -/
def notDirectory : FileError := system 20 "Not a directory"

/-- A directory is read as a file. -/
def isDirectory : FileError := system 21 "Is a directory"

/-- A path or a name in it is too long. -/
def nameTooLong : FileError := system 36 "File name too long"

/-- The file may not be read. -/
def permissionDenied : FileError := system 13 "Permission denied"

/-- The error with a number of the system. A number without a name here keeps the description that
the system gives. -/
def ofNumber (number : Nat) (description : String) : FileError :=
  match number with
  | 2 => notFound
  | 13 => permissionDenied
  | 20 => notDirectory
  | 21 => isDirectory
  | 36 => nameTooLong
  | _ => system number description

/-- The wording of a file error. -/
def message : FileError → String
  | system number description => description ++ " (os error " ++ toString number ++ ")"
  | nullInPath => "file name contained an unexpected NUL byte"
  | notText => "stream did not contain valid UTF-8"

end FileError

end GraphSync
