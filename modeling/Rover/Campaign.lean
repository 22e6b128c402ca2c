import Rover.Script

namespace Rover

open Flight

def orientation : List (Voice × String × Int) := [
  (.operator, "Let's get you familiar with Rover operations...", 1500),
  (.operator,
    "Your primary objective: Retrieve mineral samples and return to base.",
    1500),
  (.operator,
    "Navigation commands: mvn (north), mve (east), mvs (south), mvw (west)",
    1500),
  (.operator, "Special commands: " ++
    "obs (scan terrain), clt (collect sample), drp (deliver sample)", 2000),
  (.operator, "Watch your battery - move carefully. " ++
    "Charging stations [@] are your lifeline.", 2000),
  (.operator,
    "Unexplored areas [?] can be risky but rewarding. Proceed with caution.",
    2000),
  (.operator, "Remember: it's space. Memory onboard is limited. " ++
    "Your code must be efficient or you won't be able to run it.", 2000),
  (.operator, "Each character costs 8 bytes. " ++
    "Normally on your smart lightbulb at home this doesnt matter. ", 2000),
  (.operator, "Here it can cost up to billions worth of equipent. " ++
    "If your code is large, it won't be run until you shorten it. ", 2000),
  (.operator, "Just to remind you of our syntax and design rules:", 2000),
  (.operator, "Each instruction go in a new line. Just like this:", 1000),
  (.hint, "mvn # moving north", 1000),
  (.hint, "mve # moving east", 1000),
  (.hint, "clt # collect sample", 1000),
  (.operator, "You can do for loops. Syntax is simple: for 4 >> mve", 1000),
  (.operator, "This basically moves the rover east 4 times in a row. " ++
    "You can also with other movements like:", 1000),
  (.hint,
    "for 3 >> mve, mvw # it will move east, then west and repeat two more times",
    1000),
  (.operator, "You can also do conditional statements like:", 1000),
  (.hint, "if mve == # then mvn else mve", 1000),
  (.operator,
    "This simulates the move to east and if it is an obsticle, it will go north. " ++
    "If safe, it'll go east as planned.", 1000),
  (.operator,
    "Lots of information but I think you're ready. Good luck out there.", 1500)]

def explainControls : Flight Unit :=
  orientation.forM fun (voice, text, ms) => do
    tell voice text
    millis ms
    record .newline

def orient : Flight Unit := do
  explainControls
  let _ ← ask .anyKey
  startSector compose

def openTerminal : Flight Unit := do
  clearScreen
  tell .system "Initializing Amethyx Mission Terminal..."
  millis 1200
  tell .system "Establishing quantum link..."
  loadBar .cyan 1500
  record .newline

def greet (name : String) : Flight Unit := do
  record .newline
  tell .system "Authenticating operator credentials..."
  loadBar .yellow 1200
  say (.identityConfirmed name)
  millis 1000
  tell .operator
    "Running security clearance... You'd be surprised how many try to fake these."
  loadBar .yellow 1500
  say (.clearanceVerified name)
  millis 1000
  tell .operator "Welcome to the Amethyx Remote Surface Operations program."
  millis 1500
  tell .operator
    "You'll be piloting Rover XM-86 across the surface of Kepler-186f."
  millis 1500
  tell .operator
    "This isn't a simulation - that hardware costs more than a lunar colony."
  millis 1500
  tell .operator "Make smart moves. There's no undo button out there."
  millis 1500
  record .newline

def beginCampaign : Flight Unit := do
  openTerminal
  let name ← prompt .operatorName
  update ({ · with operator := some name })
  greet name
  let answer ← prompt .refresher
  record .newline
  let answer := Text.trim answer.toList
  if answer = ['n'] ∨ answer = ['N'] then
    tell .system "Skipping tutorial sequence..."
    loadBar .yellow 1000
    startSector compose
  else
    tell .system "Loading orientation protocol..."
    loadBar .yellow 1000
    orient

end Rover
