import Receipt.Device.Device
import Receipt.Layout.Width

/-!
Configurations: how documents are laid out and printed, unless a document says otherwise.
-/

namespace Receipt

/-- The measures of the layout and the settings of the device. -/
structure Config where
  layout : LayoutOptions := {}
  device : DeviceSettings := {}
deriving DecidableEq

end Receipt
