/-!
What a print device is asked to do, and how it can fail.
-/

namespace Receipt

/-- The font of one line. -/
structure Font where
  size : UInt32
  name : String
deriving DecidableEq

/-- The box of one line: its height, and where it starts. -/
structure LineBox where
  height : UInt32 := 0
  x : UInt32 := 0
  y : UInt32 := 0
deriving DecidableEq

/-- One line to print. -/
structure Command where
  text : String
  font : Font
  box : LineBox
deriving DecidableEq

/-- Why a device refuses to work. -/
inductive DeviceError where
  | rejected (reason : String)
  | printFailed (reason : String)
  | unavailable (reason : String)
deriving DecidableEq

/-- The error in words. -/
def DeviceError.message : DeviceError → String
  | .rejected reason => "Device rejected text: " ++ reason
  | .printFailed reason => "Print failed: " ++ reason
  | .unavailable reason => "Device unavailable: " ++ reason

end Receipt
