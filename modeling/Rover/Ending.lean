import Rover.Flight

namespace Rover

open Flight

def endMission {α : Type} : Flight α := do
  say .terminating
  loadBar .red 2000
  millis 2000
  exit

def stopWith (message : Message) : Flight Unit := do
  say message
  millis 1500
  endMission

def loseSignal {α : Type} : Flight α := do
  tell .system "Signal weakening..."
  loadBar .red 1500
  tell .system "Connection unstable..."
  loadBar .red 1500
  say .linkTerminated
  millis 1000
  say (.telemetryLost (← mission).operatorName)
  millis 3000
  endMission

end Rover
