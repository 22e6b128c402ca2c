import Rover.Flight

namespace Rover

open Flight

def showMap : Flight Unit := do
  let m ← mission
  clearScreen
  m.grid.forM fun row => record (.mapRow row)
  say (.batteryLevel m.battery)
  say (.availableMemory m.remaining)
  say (.usedMemory (m.memory - m.remaining))
  say (.executionsLeft m.executions)
  say (if m.onboard then .cargoSecured else .cargoEmpty)

end Rover
