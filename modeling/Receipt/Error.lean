/-!
Errors that end the work on a document.
-/

namespace Receipt

/-- Why a document cannot be rendered. -/
inductive RenderError where
  /-- A compiler was asked to recognize no names at all. -/
  | emptyVocabulary
  | invalidInput (reason : String)
  /-- A configuration cannot be read. -/
  | config (reason : String)
  /-- A file operation failed. -/
  | io (reason : String)
deriving DecidableEq

/-- The error in words. -/
def RenderError.message : RenderError → String
  | .emptyVocabulary => "Compiler init failed: node type vocabulary is empty"
  | .invalidInput reason => "Invalid input: " ++ reason
  | .config reason => "Config error: " ++ reason
  | .io reason => "IO error: " ++ reason

end Receipt
