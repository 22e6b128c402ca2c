import Rover.Proofs.Recursion

namespace Rover

open Flight

def Mission.heard (m : Mission) (lines : List String) : Mission :=
  { m with scriptSize := (lines.getLast?.map m.sizeOf).getD m.scriptSize }

namespace Console

/-- What a flush does that comes after so many others.  Keys that were thrown
away stay away. -/
def flushes (c : Console) (earlier : Nat) : List Event :=
  match c.platform with
  | .unix => [.flush]
  | .windows =>
    List.replicate (if earlier = 0 then c.pendingKeys else 0) .discardKey

def keysLeft (c : Console) : Nat :=
  match c.platform with
  | .unix => c.pendingKeys
  | .windows => 0

end Console

namespace World

def flushed (w : World) : World :=
  { w.noteAll (w.console.flushes 0) with
    console.pendingKeys := w.console.keysLeft }

def answered (w : World) (number : Nat) (line : String) (rest : List String) :
    World :=
  (w.flushed.hear (.scriptLine number) rest).alter
    fun m => { m with scriptSize := m.sizeOf line }

def events (w : World) : List Event :=
  w.console.log.reverse.map Entry.event

/-- The entries of so many questions for the lines of a script, numbered from
`number` on.  Before each of them there is a flush, and each finds the mission
as the lines before it left it. -/
def questions (w : World) (number : Nat) (lines : List String) (asked : Nat) :
    List Entry :=
  (List.range asked).flatMap fun i =>
    (w.console.flushes i ++ [Event.ask (.scriptLine (number + i))]).map
      (⟨·, w.mission.heard (lines.take i)⟩)

/-- The world after so many questions, once the lines were read and the rest is
left over. -/
def dictated (w : World) (number : Nat) (lines rest : List String)
    (asked : Nat) : World :=
  { w with
    mission := w.mission.heard lines
    console := { w.console with
      inputs := rest
      pendingKeys := w.console.keysLeft
      log := (w.questions number lines asked).reverse ++ w.console.log } }

end World

theorem Mission.heard_nil (m : Mission) : m.heard [] = m := rfl

theorem Mission.heard_cons (m : Mission) (line : String) (lines : List String) :
    m.heard (line :: lines) =
      { m with scriptSize := m.sizeOf line }.heard lines := by
  rw [heard, List.getLast?_cons]
  cases h : lines.getLast? with
  | none => simp [heard, h]
  | some last =>
    simp only [heard, h]
    rfl

theorem Mission.heard_concat (m : Mission) (lines : List String)
    (line : String) :
    m.heard (lines ++ [line]) = { m with scriptSize := m.sizeOf line } := by
  simp [heard]

namespace Flight

variable {w : World} {question : Prompt} {line : String} {rest : List String}

theorem flush_eq (w : World) : flush w = .ok () w.flushed := by
  obtain ⟨mission,
    ⟨inputs, draws, pendingKeys, platform, unlockIn, log⟩, atlas⟩ := w
  cases platform with
  | unix => rfl
  | windows =>
    have hforM := forM_record (List.replicate pendingKeys .discardKey)
      ⟨mission, ⟨inputs, draws, pendingKeys, .windows, unlockIn, log⟩, atlas⟩
    change ((List.replicate pendingKeys Event.discardKey).forM record >>=
        fun _ => _) _ = _
    rw [bind_of_ok hforM]
    rfl

theorem prompt_eq (hlocked : w.mission.locked = false) (question : Prompt) :
    prompt question w = ask question w.flushed := by
  change (awaitUnlock w.console.unlockIn >>=
      fun _ => flush >>= fun _ => ask question) w = _
  rw [bind_of_ok (awaitUnlock_eq hlocked _), bind_of_ok (flush_eq w)]

theorem ask_eq (question : Prompt) (w : World) :
    ask question w =
      match w.console.inputs with
      | [] => .error (.fault .endOfInput) (w.note (.ask question))
      | line :: rest => .ok line (w.hear question rest) := rfl

theorem prompt_line (hlocked : w.mission.locked = false)
    (hinputs : w.console.inputs = line :: rest) :
    prompt question w = .ok line (w.flushed.hear question rest) := by
  have hflushed : w.flushed.console.inputs = line :: rest := hinputs
  rw [prompt_eq hlocked, ask_eq, hflushed]

theorem prompt_end (hlocked : w.mission.locked = false)
    (hinputs : w.console.inputs = []) :
    prompt question w =
      .error (.fault .endOfInput) (w.flushed.note (.ask question)) := by
  have hflushed : w.flushed.console.inputs = [] := hinputs
  rw [prompt_eq hlocked, ask_eq, hflushed]

end Flight

namespace World

theorem answered_mission (w : World) (number : Nat) (line : String)
    (rest : List String) :
    (w.answered number line rest).mission =
      { w.mission with scriptSize := w.mission.sizeOf line } := rfl

theorem answered_console (w : World) (number : Nat) (line : String)
    (rest : List String) :
    (w.answered number line rest).console = { w.console with
      inputs := rest
      pendingKeys := w.console.keysLeft
      log := ((w.console.flushes 0 ++ [Event.ask (.scriptLine number)]).map
        (⟨·, w.mission⟩)).reverse ++ w.console.log } := by
  simp [answered, flushed, noteAll, hear]

theorem flushes_answered (w : World) (number : Nat) (line : String)
    (rest : List String) (earlier : Nat) :
    (w.answered number line rest).console.flushes earlier =
      w.console.flushes (earlier + 1) := by
  rw [answered_console]
  cases hplatform : w.console.platform <;> simp [Console.flushes,
    Console.keysLeft, hplatform]

theorem keysLeft_answered (w : World) (number : Nat) (line : String)
    (rest : List String) :
    (w.answered number line rest).console.keysLeft = w.console.keysLeft := by
  rw [answered_console]
  cases hplatform : w.console.platform <;> simp [Console.keysLeft, hplatform]

theorem questions_cons (w : World) (number : Nat) (line : String)
    (lines rest : List String) (asked : Nat) :
    w.questions number (line :: lines) (asked + 1) =
      (w.console.flushes 0 ++ [Event.ask (.scriptLine number)]).map
        (⟨·, w.mission⟩) ++
        (w.answered number line rest).questions (number + 1) lines asked := by
  have hmission : ∀ i, (w.answered number line rest).mission.heard
      (lines.take i) = w.mission.heard ((line :: lines).take (i + 1)) := by
    intro i
    rw [List.take_succ_cons, Mission.heard_cons, answered_mission]
  have hnumber : ∀ i, number + 1 + i = number + (i + 1) := by omega
  rw [questions, questions, List.range_succ_eq_map, List.flatMap_cons,
    List.flatMap_map]
  simp only [flushes_answered, hmission, hnumber, Nat.succ_eq_add_one,
    List.take_zero, Mission.heard_nil, Nat.add_zero]

theorem dictated_cons (w : World) (number : Nat) (line : String)
    (lines more rest : List String) (asked : Nat) :
    w.dictated number (line :: lines) rest (asked + 1) =
      (w.answered number line more).dictated (number + 1) lines rest asked := by
  rw [dictated, dictated, questions_cons w number line lines more,
    keysLeft_answered, answered_console, answered_mission, Mission.heard_cons,
    List.reverse_append, List.append_assoc]
  rfl

theorem dictated_nil {w : World}
    (hkeys : w.console.keysLeft = w.console.pendingKeys) (number : Nat) :
    w.dictated number [] w.console.inputs 0 = w := by
  rw [dictated, hkeys]
  rfl

theorem dictated_single (w : World) (number : Nat) (line : String)
    (rest : List String) :
    w.dictated number [line] rest 1 = w.answered number line rest := by
  have hkeys : (w.answered number line rest).console.keysLeft =
      (w.answered number line rest).console.pendingKeys :=
    w.keysLeft_answered ..
  rw [w.dictated_cons number line [] rest]
  exact dictated_nil hkeys (number + 1)

theorem dictated_unanswered {w : World} (hinputs : w.console.inputs = [])
    (number : Nat) :
    w.dictated number [] [] 1 = w.flushed.note (.ask (.scriptLine number)) := by
  simp [dictated, questions, flushed, note, noteAll, Mission.heard_nil, hinputs,
    List.range_one]

end World

section Reading

variable {w : World} {limit : Nat} {line : String} {lines rest : List String}

private theorem readLines_step (hlocked : w.mission.locked = false)
    (hinputs : w.console.inputs = line :: rest) (limit number : Nat) :
    readLines (limit + 1) number w =
      (if line = lastLine then pure [line]
      else do return line :: (← readLines limit (number + 1)))
        (w.answered number line rest) := by
  rw [readLines, bind_of_ok (prompt_line hlocked hinputs)]
  rfl

private theorem readLines_upTo (hlocked : w.mission.locked = false)
    (hinputs : w.console.inputs = lines ++ lastLine :: rest)
    (hlines : lastLine ∉ lines) (hlimit : lines.length < limit) (number : Nat) :
    readLines limit number w = .ok (lines ++ [lastLine])
      (w.dictated number (lines ++ [lastLine]) rest (lines.length + 1)) := by
  induction lines generalizing w limit number with
  | nil =>
    cases limit with
    | zero => cases hlimit
    | succ limit =>
      rw [readLines_step hlocked hinputs, if_pos rfl, List.nil_append,
        List.length_nil, World.dictated_single]
      rfl
  | cons line lines ih =>
    rw [List.mem_cons, not_or] at hlines
    rw [List.cons_append] at hinputs
    cases limit with
    | zero => cases hlimit
    | succ limit =>
      have hrest := ih (w := w.answered number line (lines ++ lastLine :: rest))
        hlocked rfl hlines.2 (Nat.lt_of_succ_lt_succ hlimit) (number + 1)
      rw [readLines_step hlocked hinputs, if_neg (Ne.symm hlines.1), bind_of_ok
        hrest, List.cons_append, List.length_cons, World.dictated_cons]
      rfl

private theorem readLines_exhausted (hlocked : w.mission.locked = false)
    (hinputs : w.console.inputs = lines) (hlines : lastLine ∉ lines)
    (hlimit : lines.length < limit) (number : Nat) :
    readLines limit number w =
      .error (.fault .endOfInput)
        (w.dictated number lines [] (lines.length + 1)) := by
  induction lines generalizing w limit number with
  | nil =>
    cases limit with
    | zero => cases hlimit
    | succ limit =>
      rw [readLines, bind_of_error (prompt_end hlocked hinputs),
        List.length_nil, World.dictated_unanswered hinputs]
  | cons line lines ih =>
    rw [List.mem_cons, not_or] at hlines
    cases limit with
    | zero => cases hlimit
    | succ limit =>
      have hrest := ih (w := w.answered number line lines) hlocked rfl hlines.2
        (Nat.lt_of_succ_lt_succ hlimit) (number + 1)
      rw [readLines_step hlocked hinputs, if_neg (Ne.symm hlines.1),
        bind_of_error hrest, List.length_cons, World.dictated_cons]

end Reading

private theorem Numeral.write_natCast (n : Nat) :
    Numeral.write n = toString n := by
  have hdigit : ∀ d < 10, Numeral.digitChar d = Nat.digitChar d := by decide
  have hplaces : Numeral.writeNat n = Nat.toDigits 10 n := by
    induction n using Nat.strongRecOn with
    | ind n ih =>
      rw [Numeral.writeNat, Nat.toDigits_eq_if (by decide)]
      split
      · next hn => rw [hdigit n hn]
      · next hn => rw [ih (n / 10) (by omega), hdigit (n % 10) (by omega)]
  change String.ofList (Numeral.writeNat n) = _
  rw [hplaces]
  rfl

theorem Prompt.render_scriptLine (number : Nat) :
    (Prompt.scriptLine number).render = toString number ++ ": " := by
  rw [Prompt.render, Numeral.write_natCast]

theorem World.events_dictated (w : World) (number : Nat)
    (lines rest : List String) (asked : Nat) :
    (w.dictated number lines rest asked).events =
      w.events ++ (List.range asked).flatMap fun i =>
        w.console.flushes i ++ [.ask (.scriptLine (number + i))] := by
  have hevents : ∀ (events : List Event) (m : Mission),
      (events.map (Entry.mk · m)).map Entry.event = events := by
    intro events m
    rw [List.map_map]
    exact List.map_id events
  simp only [events, dictated, questions, List.reverse_append,
    List.reverse_reverse, List.map_append, List.map_flatMap, hevents]

theorem compose_upTo {w : World} {lines rest : List String}
    (hlocked : w.mission.locked = false)
    (hinputs : w.console.inputs = lines ++ lastLine :: rest)
    (hlines : lastLine ∉ lines) :
    compose w = executeScript compose (lines ++ [lastLine])
      (w.dictated 1 (lines ++ [lastLine]) rest (lines.length + 1)) := by
  have hlimit : lines.length < w.console.inputs.length + 1 := by
    rw [hinputs, List.length_append]
    omega
  have hread := readLines_upTo hlocked hinputs hlines hlimit 1
  calc compose w
      = (readLines (w.console.inputs.length + 1) 1 >>=
          executeScript compose) w := compose_eq w
    _ = _ := by rw [bind_of_ok hread]

/-- A script is read up to its last line.  Before each line the keyboard is
flushed and the line is asked for by its number; then the script is executed,
from a mission in which nothing has changed but the size, which is that of the
last line, and with the lines behind it left over.  If there is no last line,
the input ends at the question after all lines, and again nothing has changed in
the mission but the size, which is that of the line read last, if there was
one. -/
theorem scripts_are_read_up_to_the_last_line (w : World)
    (hlocked : w.mission.locked = false) :
    (∀ lines rest, w.console.inputs = lines ++ lastLine :: rest →
      lastLine ∉ lines →
      let w' := w.dictated 1 (lines ++ [lastLine]) rest (lines.length + 1)
      compose w = executeScript compose (lines ++ [lastLine]) w' ∧
      w'.mission = { w.mission with scriptSize := 3 * w.mission.charSize } ∧
      w'.console.inputs = rest ∧
      w'.events = w.events ++ (List.range (lines.length + 1)).flatMap fun i =>
        w.console.flushes i ++ [.ask (.scriptLine (1 + i))]) ∧
    (lastLine ∉ w.console.inputs →
      let w' := w.dictated 1 w.console.inputs [] (w.console.inputs.length + 1)
      compose w = .error (.fault .endOfInput) w' ∧
      w'.mission = { w.mission with
        scriptSize := (w.console.inputs.getLast?.map fun line =>
          line.length * w.mission.charSize).getD w.mission.scriptSize } ∧
      w'.console.inputs = [] ∧
      w'.events = w.events ++
        (List.range (w.console.inputs.length + 1)).flatMap fun i =>
        w.console.flushes i ++ [.ask (.scriptLine (1 + i))]) ∧
    ∀ number : Nat,
        (Prompt.scriptLine number).render = toString number ++ ": " := by
  refine ⟨?_, ?_, Prompt.render_scriptLine⟩
  · intro lines rest hinputs hlines
    exact ⟨compose_upTo hlocked hinputs hlines,
      w.mission.heard_concat lines lastLine, rfl, w.events_dictated 1 _ rest _⟩
  · intro hlines
    have hcompose : compose w = (readLines (w.console.inputs.length + 1) 1 >>=
      executeScript compose) w := compose_eq w
    refine ⟨?_, rfl, rfl, w.events_dictated 1 _ [] _⟩
    rw [hcompose, bind_of_error
      (readLines_exhausted hlocked rfl hlines (Nat.lt_succ_self _) 1)]

def scribe (inputs : List String) : World where
  mission := { scriptSize := 7 }
  console := { inputs, platform := .windows, pendingKeys := 2 }
  atlas := ⟨[]⟩

theorem scribe_scripts_are_read :
    (let w' := (scribe ["mve", "end", "end"]).dictated 1
        ["mve", "end"] ["end"] 2
    compose (scribe ["mve", "end", "end"]) =
      executeScript compose ["mve", "end"] w' ∧
      w'.mission.scriptSize = 24 ∧
      w'.events = [.discardKey, .discardKey, .ask (.scriptLine 1),
        .ask (.scriptLine 2)]) ∧
    (let w' := (scribe ["mve", "obs end"]).dictated 1 ["mve", "obs end"] [] 3
    compose (scribe ["mve", "obs end"]) = .error (.fault .endOfInput) w' ∧
      w'.mission.scriptSize = 56 ∧
      w'.events = [.discardKey, .discardKey, .ask (.scriptLine 1),
        .ask (.scriptLine 2),
        .ask (.scriptLine 3)]) ∧
    (Prompt.scriptLine 3).render = "3: " := by
  obtain ⟨hread, -, -⟩ :=
    scripts_are_read_up_to_the_last_line (scribe ["mve", "end", "end"]) rfl
  obtain ⟨-, hend, hrender⟩ :=
    scripts_are_read_up_to_the_last_line (scribe ["mve", "obs end"]) rfl
  obtain ⟨hcompose, hmission, -, hevents⟩ :=
    hread ["mve"] ["end"] rfl (by decide)
  obtain ⟨hcompose', hmission', -, hevents'⟩ := hend (by decide)
  exact ⟨⟨hcompose, congrArg Mission.scriptSize hmission, hevents⟩,
    ⟨hcompose', congrArg Mission.scriptSize hmission', hevents'⟩, hrender 3⟩

end Rover
