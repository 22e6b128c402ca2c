import Rover.Bonus
import Rover.Voice

namespace Rover

inductive Message
  | story (voice : Voice) (text : String)
  | identityConfirmed (name : String)
  | clearanceVerified (name : String)
  | sectorLocked (number : Nat)
  | controlGranted (name : String)
  | batteryLevel (charge : Int)
  | availableMemory (bytes : Int)
  | usedMemory (bytes : Int)
  | executionsLeft (count : Int)
  | cargoSecured
  | cargoEmpty
  | sampleCollected
  | collectionPraise (name : String)
  | noSampleHere
  | sampleDelivered
  | missionAccomplished (name : String)
  | bonusPaid (amount : Bonus)
  | notABase
  | nothingToDeliver
  | solarFlare (charge : Int)
  | interference (drain : Int)
  | powerFailure
  | charged (amount : Int)
  | disconnected
  | connectionLost (name : String)
  | crashSuspected (name : String)
  | linkTerminated
  | telemetryLost (name : String)
  | compiling
  | memoryOverflow
  | memoryShortage (required available : Int)
  | scriptLoaded (bytes : Int)
  | powerDepleted
  | executionLimit
  | terminating
  deriving DecidableEq

namespace Message

def voice : Message → Voice
  | .story voice _ => voice
  | .identityConfirmed _ | .controlGranted _ | .collectionPraise _ |
    .missionAccomplished _
  | .bonusPaid _ | .connectionLost _ | .crashSuspected _ | .telemetryLost _ =>
    .operator
  | .clearanceVerified _ | .sectorLocked _ | .batteryLevel _ | .availableMemory
    _ | .usedMemory _
  | .executionsLeft _ | .solarFlare _ | .charged _ | .compiling |
    .memoryShortage _ _
  | .terminating => .system
  | .cargoSecured | .sampleCollected | .sampleDelivered | .scriptLoaded _ =>
    .success
  | .cargoEmpty | .notABase | .interference _ => .warning
  | .noSampleHere | .nothingToDeliver | .powerFailure | .disconnected |
    .linkTerminated
  | .memoryOverflow | .powerDepleted | .executionLimit => .error

def batteryStyle (charge : Int) : Style :=
  if charge < 30 then .red else if charge < 60 then .yellow else .green

def text : Message → String
  | .story _ text => text
  | .identityConfirmed name => "Identity confirmed: " ++ name
  | .clearanceVerified name =>
    "Operator: " ++ name ++ ", Level 3 clearance verified"
  | .sectorLocked number =>
    "Coordinates locked: Sector Gamma-" ++ Numeral.write number
  | .controlGranted name =>
    "Alright " ++ name ++ ", you have control. Make it count."
  | .batteryLevel charge =>
    "Battery: " ++ (batteryStyle charge).code ++ Numeral.write charge ++ "%" ++
      Style.reset.code
  | .availableMemory bytes =>
    "Available memory: " ++ Numeral.write bytes ++ " bytes"
  | .usedMemory bytes => "Used memory: " ++ Numeral.write bytes ++ " bytes"
  | .executionsLeft count => "Code executions left: " ++ Numeral.write count
  | .cargoSecured => "Sample secured in cargo bay"
  | .cargoEmpty => "Sample not collected"
  | .sampleCollected => "Core sample secured in storage"
  | .collectionPraise name =>
    "Excellent work " ++ name ++
      ". That sample is worth more than our annual budget. Get it back safely."
  | .noSampleHere => "No sample detected at this location"
  | .sampleDelivered => "Sample container secured!"
  | .missionAccomplished name =>
    "Mission accomplished " ++ name ++ "! Lab team is ecstatic."
  | .bonusPaid amount =>
    "\nOutstanding work for a first mission. " ++
      "That sample shows promising exobiological signatures. \n" ++
      "We're advancing you to more challenging terrain - " ++
      "expect more complex mineral formations \n" ++
      "and unpredictable weather patterns. Remember: \n\n" ++
      "    Efficiency = Credits\n" ++
      "    Carelessness = Unemployment\n\n" ++
      "Your bonus for this run: €" ++ amount.text ++ ". Spend it wisely.\n"
  | .notABase => "You can only deliver samples at base stations"
  | .nothingToDeliver => "No sample in cargo bay"
  | .solarFlare charge =>
    "Unexpected solar flare! Battery +" ++ Numeral.write charge ++ "%"
  | .interference drain =>
    "Magnetic interference! Battery -" ++ Numeral.write drain ++ "%"
  | .powerFailure => "CRITICAL POWER FAILURE"
  | .charged amount =>
    "Charging station activated +" ++ Numeral.write amount ++ "%"
  | .disconnected => "Disconnected!"
  | .connectionLost name =>
    "Hey " ++ name ++ ", did something happen? I lost connection to the rover."
  | .crashSuspected name => name ++ "? You crashed didn't you?"
  | .linkTerminated => "LINK TERMINATED"
  | .telemetryLost name =>
    name ++
      ", we've lost telemetry! The rover's gone dark beyond the perimeter."
  | .compiling => "Compiling instructions..."
  | .memoryOverflow => "Memory overflow! Script too large."
  | .memoryShortage required available =>
    "Required: " ++ Numeral.write required ++ " bytes | Available: " ++
      Numeral.write available ++
      " bytes"
  | .scriptLoaded bytes => "Script loaded (" ++ Numeral.write bytes ++ " bytes)"
  | .powerDepleted => "POWER DEPLETED"
  | .executionLimit => "EXECUTION LIMIT REACHED"
  | .terminating => "Terminating mission protocol..."

def numbers : Message → List Int
  | .sectorLocked n => [n]
  | .batteryLevel n | .availableMemory n | .usedMemory n | .executionsLeft
    n | .solarFlare n
  | .interference n | .charged n | .scriptLoaded n => [n]
  | .memoryShortage required available => [required, available]
  | _ => []

def isShowable (message : Message) : Bool :=
  message.numbers.all Numeral.isShowable

def render (message : Message) : String :=
  message.voice.render message.text

end Message

end Rover
