import LensCalibration.Proofs.Vendor.Selection

/-!
# The cameras of a vendor calibration

What building an entry gives, field by field, and in which order the reasons stand for which it
gives nothing.
-/

namespace LensCalibration

namespace Vendor

/-! ## Fields -/

variable {e : Entry} {depth : DepthMode} {color : ColorResolution} {r : Resolution}

end Vendor

end LensCalibration
