import IspDriver.Register

/-! The registers the driver uses, and the fields in them. -/

namespace IspDriver.Layout

open Register

/-- Selects the page behind the advanced window. -/
def pageSelect : Register := of32 0xf038

/-! ## Identity and state -/

def chipVersion : Register := of16 0x0000
def frameCount : Register := of16 0x0002
def errorCode : Register := of16 0x0006
def errorFile : Register := of32 0x0008
def errorLine : Register := of16 0x000c
def portError0 : Register := of16 0x0014
def portError1 : Register := of16 0x0016
def chipRevision : Register := of16 0x0050
def linkFrequency : Register := of16 0x0068

def consoleOffset : UInt16 := 0x0a2c
def consoleSize : Nat := 512

/-- What every supported part reports as its version. -/
def supportedVersion : UInt32 := 0x0265

/-! ## Output -/

def zoomTarget : Register := of16 0x1010
def colorEffect : Register := of16 0x1016
def previewWidth : Register := of16 0x2000
def previewHeight : Register := of16 0x2002
def previewFormat : Register := of16 0x2012
def previewInterface : Register := of16 0x2030

namespace OutputFormat

def fullRange : UInt32 := 0x50
def yuv422 : UInt32 := 0
def yuv420 : UInt32 := 1

end OutputFormat

namespace HostInterface

def spoof : UInt32 := 0x10

def lanes (count : UInt32) : UInt32 := count

end HostInterface

/-! ## Image quality -/

def exposureControl : Register := of16 0x5002
def manualGain : Register := of16 0x5006
def exposureMetering : Register := of16 0x503e
def whiteBalance : Register := of16 0x5100
def flicker : Register := of16 0x5440
def sceneMode : Register := of16 0x5454
def brightness : Register := of16 0x7000
def contrast : Register := of16 0x7002
def saturation : Register := of16 0x7006
def gamma : Register := of16 0x700a

/-- The exposure mode, in the low bits of its register. -/
def exposureModeMask : UInt32 := 0x0f

namespace WhiteBalance

def modeMask : UInt32 := 0x0f
def flash : UInt32 := 0x0100

def off : UInt32 := 0
def horizon : UInt32 := 1
def incandescent : UInt32 := 2
def daylight50 : UInt32 := 4
def daylight65 : UInt32 := 5
def daylight75 : UInt32 := 6
def auto : UInt32 := 15

end WhiteBalance

namespace Flicker

def disabled : UInt32 := 0
def manual : UInt32 := 1
def auto : UInt32 := 2

def hertz (frequency : UInt32) : UInt32 := frequency <<< 8

end Flicker

namespace Scene

def normal : UInt32 := 0
def portrait : UInt32 := 1
def landscape : UInt32 := 2
def sport : UInt32 := 3
def night : UInt32 := 5
def twilight : UInt32 := 6
def backlight : UInt32 := 7
def beach : UInt32 := 10
def document : UInt32 := 11
def party : UInt32 := 12
def fireworks : UInt32 := 13
def sunset : UInt32 := 14

end Scene

namespace Effect

def normal : UInt32 := 0
def antique : UInt32 := 2
def blackAndWhite : UInt32 := 3
def emboss : UInt32 := 4
def negative : UInt32 := 7
def bluish : UInt32 := 8
def greenish : UInt32 := 9
def reddish : UInt32 := 10
def sepia : UInt32 := 13
def sketch : UInt32 := 15
def solarize : UInt32 := 16

end Effect

/-! ## System -/

def bootStage : Register := of16 0x6002
def systemStart : Register := of16 0x601a

/-- One of the warning words. -/
def warning (index : UInt32) : Register := of16 (0x6004 + index * 2)

def warningWords : Nat := 4

namespace BootStage

/-- Written between the clock segment and the rest of the image. -/
def clockReady : UInt32 := 0x0002

/-- Written once the whole image is in place and checked. -/
def complete : UInt32 := 0xffff

end BootStage

namespace SystemStart

def clockLock : UInt32 := 0x8000
def stallStatus : UInt32 := 0x0200
def stallEnable : UInt32 := 0x0100
def stallModeDisabled : UInt32 := 0x40

/-- First half of a stall: the engine is told which kind is meant. -/
def stallPrepared : UInt32 := clockLock ||| stallModeDisabled

def stalled : UInt32 := clockLock ||| stallEnable ||| stallModeDisabled

def running : UInt32 := clockLock ||| stallStatus ||| stallEnable ||| stallModeDisabled

end SystemStart

/-! ## Copy engine -/

def copySource : Register := of32 0x60a0
def copyTarget : Register := of32 0x60a4
def copySize : Register := of32 0x60a8
def copyControl : Register := of16 0x60ac

namespace Copy

def toSensor : UInt32 := 0x0300
def fromSensor : UInt32 := 0x30
def modeMask : UInt32 := 7
def idle : UInt32 := 0
def start : UInt32 := 2

/-- Fields of a sensor address as the copy engine takes it. -/
def sensorPort (port : UInt32) : UInt32 := port <<< 26

def sensorData16 : UInt32 := 0x02000000
def sensorAddress16 : UInt32 := 0x01000000

def sensorDevice (address : UInt32) : UInt32 := address <<< 17

end Copy

/-! ## Firmware -/

/-- The checksum the chip keeps over what arrives in the firmware window. -/
def firmwareCrc : Register := of16 0xf052

def firmwareWindow : UInt16 := 0x8000
def firmwareWindowSize : Nat := 0x2000

/-! ## Advanced space -/

def interruptEnable : Register := of32 0x00230000

namespace Interrupt

def sensorPorts : UInt32 := 0xc0
def fifoWrite : UInt32 := 0x08

end Interrupt

def captureFrames : Register := of32 0x00490040

/-- Receiver state of one lane of a sensor port. -/
def laneStatus (port lane : UInt32) : Register :=
  of32 (0x00420008 + port * 0x50000 + lane * 0x20)

namespace LaneStatus

def error : UInt32 := 0x00040000
def abort : UInt32 := 0x00020000

/-- Line level when the error was latched. -/
def errorLevel (status : UInt32) : UInt32 := (status >>> 30) &&& 3

/-- Lane state when the error was latched. -/
def errorState (status : UInt32) : UInt32 := (status >>> 24) &&& 0xf

def level (status : UInt32) : UInt32 := (status >>> 6) &&& 3

def state (status : UInt32) : UInt32 := status &&& 0xf

end LaneStatus

end IspDriver.Layout
