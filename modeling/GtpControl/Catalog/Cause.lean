/-! # Causes that the session procedures give -/
namespace GtpControl.Cause

abbrev accepted : UInt8 := 16

abbrev contextNotFound : UInt8 := 64

abbrev mandatoryMissing : UInt8 := 70

end GtpControl.Cause
