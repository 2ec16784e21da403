import IspDriver.Register.Layout

/-! Names of the warnings that the firmware raises, bit by bit through the warning words. -/

namespace IspDriver.Diagnostics

/-- The words the warnings are read from. -/
abbrev WarningWords : Type :=
  Vector UInt32 Layout.warningWords

/-- The name of each bit, sixteen bits a word; some bits have none. -/
def warningNames : List (Option String) :=
  [some "HINF_BANDWIDTH", some "FLICKER_DETECTION", some "FACED_NE", some "SMILED_NE",
    some "HINF_OVERRUN", none, some "FRAME_TOO_SMALL", some "MISSING_PHASES",
    some "SPOOF_UNDERRUN", some "JPEG_NOLAST", some "NO_IN_FREQ_SPEC", some "SINF0", some "SINF1",
    some "CAPTURE0", some "CAPTURE1", some "ISR_UNHANDLED", some "INTERLEAVE_SPOOF",
    some "INTERLEAVE_BUF", some "COORD_OUT_OF_RANGE", some "ICP_CLOCKING", some "SENSOR_CLOCKING",
    some "SENSOR_NO_IHDR", some "DIVIDE_BY_ZERO", some "INT0_UNDERRUN", some "INT1_UNDERRUN",
    some "SCRATCHPAD_TOO_BIG", some "OTP_RECORD_READ", some "NO_LSC_IN_OTP", some "GPIO_INT_LOST",
    some "NO_PDAF_DATA", some "FAR_PDAF_ACCESS_SKIP", some "PDAF_ERROR", some "ATM_TVI_BOUNDS",
    some "SIPM_0_RTY", some "SIPM_1_TRY", some "SIPM_0_NO_ACK", some "SIPM_1_NO_ACK",
    some "SMILE_DIS", some "DVS_DIS", some "TEST_DIS", some "SENSOR_LV2LV", some "SENSOR_FV2FV",
    some "FRAME_LOST"]

/-- The names of the bits that are set, lowest first. -/
def warningsIn (words : WarningWords) : List String :=
  warningNames.zipIdx.filterMap fun (name?, bit) =>
    match words[bit / 16]? with
    | some word => if word.toNat.testBit (bit % 16) then name? else none
    | none => none

end IspDriver.Diagnostics
