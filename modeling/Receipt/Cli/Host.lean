import Receipt.Error
import Receipt.Text.Quoted
import Receipt.Text.Utf8

/-!
Hosts: what the command line needs from the system it runs on, and how that can fail.
-/

namespace Receipt

/-- Why the system could not open, read or write a file. -/
inductive FileError where
  | notFound
  | permissionDenied
  | notADirectory
  | isADirectory
  | nameTooLong
  | storageFull
  /-- Any other fault, with the number and the words that the system has for it. -/
  | other (code : Nat) (message : String)
deriving DecidableEq

namespace FileError

/-- The system's number for the fault. -/
def code : FileError → Nat
  | notFound => 2
  | permissionDenied => 13
  | notADirectory => 20
  | isADirectory => 21
  | nameTooLong => 36
  | storageFull => 28
  | other code _ => code

/-- The kind of the fault. -/
def kind : FileError → String
  | notFound => "NotFound"
  | permissionDenied => "PermissionDenied"
  | notADirectory => "NotADirectory"
  | isADirectory => "IsADirectory"
  | nameTooLong => "InvalidFilename"
  | storageFull => "StorageFull"
  | other _ _ => "Uncategorized"

/-- The fault in words. -/
def message : FileError → String
  | notFound => "No such file or directory"
  | permissionDenied => "Permission denied"
  | notADirectory => "Not a directory"
  | isADirectory => "Is a directory"
  | nameTooLong => "File name too long"
  | storageFull => "No space left on device"
  | other _ message => message

/-- The fault in words, with its number. -/
def numbered (error : FileError) : String :=
  s!"{error.message} (os error {error.code})"

end FileError

/-- Why a command could not be carried out. -/
inductive Failure where
  | file (error : FileError)
  /-- An input is not UTF-8 text. -/
  | notText
  | render (error : RenderError)
  /-- The configuration file is not TOML, or does not fit. -/
  | badConfig
deriving DecidableEq

namespace Failure

/-- What is said of input that is not text. -/
def notTextMessage : String :=
  "stream did not contain valid UTF-8"

/-- The failure as it is shown when the program ends. -/
def describe : Failure → String
  | file error =>
    "Os \x7b code: " ++ toString error.code ++ ", kind: " ++ error.kind ++ ", message: " ++
      Text.quote error.message ++ " \x7d"
  | notText =>
    "Error \x7b kind: InvalidData, message: " ++ Text.quote notTextMessage ++ " \x7d"
  | render error =>
    let kind := match error with
      | .io _ => "Other"
      | _ => "InvalidInput"
    "Custom \x7b kind: " ++ kind ++ ", error: " ++ Text.quote error.message ++ " \x7d"
  | badConfig =>
    "Custom \x7b kind: InvalidInput, error: " ++
      Text.quote (RenderError.config "the document is not a configuration").message ++ " \x7d"

end Failure

/-- A system with files and an input, whose actions are those of `m`. -/
structure Host (m : Type → Type) where
  /-- The bytes of a file. -/
  fileBytes (path : String) : m (Except FileError (List UInt8))
  /-- Makes a file with the given text, in place of one that may be there. -/
  putFile (path text : String) : m (Except FileError Unit)
  /-- All bytes of the input. -/
  inputBytes : m (List UInt8)

end Receipt
