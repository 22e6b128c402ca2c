import Rover.Proofs.Chronicle
import Rover.Proofs.LoopText
import Rover.Proofs.Stripping

/-!
The map as text.  Without its colours, every row that is shown reads as its
cells with spaces between them and none at the end.  The colours take part in
this only because no cell that has any ends in a blank: behind one of them, no
blank is removed that is not removed without them.
-/

namespace Rover

open Flight Text Ansi

namespace Text

def trimEnd (s : String) : String :=
  String.ofList (skipBlanksEnd s.toList)

private theorem skipBlanksEnd_append (cs ds : List Char) :
    skipBlanksEnd (cs ++ ds) =
      if skipBlanksEnd ds = [] then skipBlanksEnd cs
        else cs ++ skipBlanksEnd ds := by
  simp only [skipBlanksEnd, skipBlanks, List.reverse_append,
    List.dropWhile_append, List.isEmpty_iff, List.reverse_eq_nil_iff]
  split
  · rfl
  · rw [List.reverse_append, List.reverse_reverse]

private theorem mem_of_mem_skipBlanksEnd {c : Char} {cs : List Char}
    (h : c ∈ skipBlanksEnd cs) :
    c ∈ cs := by
  rw [skipBlanksEnd, List.mem_reverse] at h
  exact List.mem_reverse.1 ((List.dropWhile_sublist isBlank).mem h)

end Text

/-- The first text reads as the second once it is stripped, whatever follows it,
and also if the blanks at the end of both are removed before. -/
structure Shows (text visible : List Char) : Prop where
  strip : ∀ rest,
    dropSequences 0 (text ++ rest) = visible ++ dropSequences 0 rest
  trim : dropSequences 0 (skipBlanksEnd text) = skipBlanksEnd visible
  blank : skipBlanksEnd text = [] ↔ skipBlanksEnd visible = []

namespace Shows

variable {text visible text' visible' : List Char}

theorem plain (h : escape ∉ text) : Shows text text where
  strip := fun _ => dropSequences_append_of_notMem h
  trim := by
    have hend : escape ∉ skipBlanksEnd text := mt mem_of_mem_skipBlanksEnd h
    have hstrip : dropSequences 0 (skipBlanksEnd text ++ []) = skipBlanksEnd
        text ++ dropSequences 0 [] := dropSequences_append_of_notMem hend
    simpa [dropSequences] using hstrip
  blank := Iff.rfl

theorem append (h : Shows text visible) (h' : Shows text' visible') :
    Shows (text ++ text') (visible ++ visible') where
  strip := fun rest => by
    rw [List.append_assoc, h.strip, h'.strip, List.append_assoc]
  trim := by
    rw [skipBlanksEnd_append, skipBlanksEnd_append]
    by_cases hblank : skipBlanksEnd text' = []
    · rw [if_pos hblank, if_pos (h'.blank.1 hblank), h.trim]
    · rw [if_neg hblank, if_neg (mt h'.blank.2 hblank), h.strip, h'.trim]
  blank := by
    rw [skipBlanksEnd_append, skipBlanksEnd_append]
    by_cases hblank : skipBlanksEnd text' = []
    · rw [if_pos hblank, if_pos (h'.blank.1 hblank), h.blank]
    · rw [if_neg hblank, if_neg (mt h'.blank.2 hblank)]
      exact iff_of_false (List.append_ne_nil_of_right_ne_nil _ hblank)
        (List.append_ne_nil_of_right_ne_nil _ (mt h'.blank.2 hblank))

theorem painted (styles : List Style) (h : escape ∉ text)
    (hend : skipBlanksEnd text = text) (hne : text ≠ []) :
    Shows ((Voice.codes styles).toList ++ text ++ Style.reset.code.toList)
      text := by
  have hstrip : ∀ rest, dropSequences 0
      ((Voice.codes styles).toList ++ text ++ Style.reset.code.toList ++ rest) =
        text ++ dropSequences 0 rest := by
    intro rest
    rw [List.append_assoc, List.append_assoc,
      dropSequences_codes_append, dropSequences_append_of_notMem h,
      dropSequences_append_of_isSequence (isSequence_code _)]
  have hcode : skipBlanksEnd Style.reset.code.toList =
      Style.reset.code.toList := by
    decide
  have htext : skipBlanksEnd
      ((Voice.codes styles).toList ++ text ++ Style.reset.code.toList) =
      (Voice.codes styles).toList ++ text ++ Style.reset.code.toList :=
    skipBlanksEnd_append_of_eq hcode (by decide)
  refine ⟨hstrip, ?_, ?_⟩
  · have hwhole := hstrip []
    rw [List.append_nil] at hwhole
    rw [htext, hwhole, dropSequences, List.append_nil, hend]
  · rw [htext, hend]
    exact iff_of_false (List.append_ne_nil_of_right_ne_nil _ (by decide)) hne

end Shows

namespace Cell

theorem skipBlanksEnd_of_terrain {c : Cell} (h : c.terrain ≠ .other) :
    skipBlanksEnd c.toList = c.toList ∧ c.toList ≠ [] := by
  unfold terrain at h
  split at h
  all_goals first | decide | exact absurd rfl h

theorem shows_paint {c : Cell} (h : escape ∉ c.toList) :
    Shows c.paint.toList c.toList := by
  unfold paint
  split
  · exact .plain h
  · next styles hstyles =>
    have hterrain : c.terrain ≠ .other :=
      fun hother => hstyles (by rw [Cell.styles, hother])
    obtain ⟨hend, hne⟩ := skipBlanksEnd_of_terrain hterrain
    rw [String.toList_append, String.toList_append]
    exact .painted _ h hend hne

end Cell

namespace Grid

variable {cells : List Cell}

theorem shows_cells (h : ∀ c ∈ cells, escape ∉ c.toList) :
    Shows (cells.flatMap fun c => c.paint.toList ++ [' '])
      (cells.flatMap fun c => c.toList ++ [' ']) := by
  induction cells with
  | nil => exact .plain (List.not_mem_nil)
  | cons c cells ih =>
    rw [List.flatMap_cons, List.flatMap_cons]
    have hcell := Cell.shows_paint (h c (List.mem_cons_self ..))
    exact (hcell.append (.plain (by decide))).append
      (ih fun d hd => h d (List.mem_cons_of_mem _ hd))

/-- A space after each cell is a space between the cells, and one at the end. -/
theorem flatMap_space (hne : cells ≠ []) :
    cells.flatMap (fun c => c.toList ++ [' ']) =
      (" ".intercalate cells).toList ++ [' '] := by
  induction cells with
  | nil => exact absurd rfl hne
  | cons c cells ih =>
    cases cells with
    | nil => simp
    | cons d cells =>
      rw [List.flatMap_cons, ih (List.cons_ne_nil _ _),
        String.intercalate_cons_cons]
      simp

theorem strip_rowText (h : ∀ c ∈ cells, escape ∉ c.toList) :
    Ansi.strip (rowText cells) = trimEnd (" ".intercalate cells) := by
  rw [Ansi.strip, rowText, String.toList_ofList, (shows_cells h).trim, trimEnd]
  cases cells with
  | nil => rfl
  | cons c cells =>
    rw [flatMap_space (List.cons_ne_nil _ _),
      skipBlanksEnd_append_blank (by decide)]

end Grid

/-- Showing the map clears the screen, writes the rows of the grid from top to
bottom and then the readings, up to one that cannot be shown, and leaves the
mission as it is.  The text of a row, if there are no escape characters in its
cells, is stripped to the cells with spaces between them and none at the end. -/
theorem printed_map_is_the_grid (w : World)
    (hplain : ∀ row ∈ w.mission.grid, ∀ c ∈ row, Ansi.escape ∉ c.toList) :
    ∃ lines : List String,
      (w.mission.grid.map fun row => (Event.mapRow row).written?) =
        lines.map (fun line => some (line ++ "\n")) ∧
      lines.map Ansi.strip =
        (w.mission.grid.map fun row => trimEnd (" ".intercalate row)) ∧
      let w' := w.noteAll
        (.clear w.console.platform :: w.mission.grid.map .mapRow ++
        (w.mission.readings.takeWhile Message.isShowable).map .say)
      showMap w =
        (if w.mission.isShowable then .ok () w'
            else .error (.fault .notShowable) w') ∧
      w'.mission = w.mission ∧
      w'.console = { w.console with log := w'.console.log } := by
  refine ⟨w.mission.grid.map Grid.rowText, ?_, ?_, showMap_eq w, rfl, rfl⟩
  · rw [List.map_map]
    rfl
  · rw [List.map_map]
    exact List.map_congr_left fun row hrow =>
      Grid.strip_rowText (hplain row hrow)

def marsh : World where
  mission :=
    { grid := [["[R]", "  ", "[X]", " "], [], ["mud ", "[ ]", "\t", ""]] }
  atlas := ⟨[]⟩

theorem marsh_printed_map_is_the_grid :
    (∀ row ∈ marsh.mission.grid, ∀ c ∈ row, Ansi.escape ∉ c.toList) ∧
    ∃ lines : List String,
      (marsh.mission.grid.map fun row => (Event.mapRow row).written?) =
        lines.map (fun line => some (line ++ "\n")) ∧
      lines.map Ansi.strip = ["[R]    [X]", "", "mud  [ ]"] ∧
      showMap marsh =
        .ok () (marsh.noteAll ([.clear .unix, .mapRow ["[R]", "  ", "[X]", " "],
        .mapRow [], .mapRow ["mud ", "[ ]", "\t", ""]] ++
          marsh.mission.readings.map .say)) := by
  have hplain : ∀ row ∈ marsh.mission.grid, ∀ c ∈ row,
      Ansi.escape ∉ c.toList := by
    decide
  have hshow : marsh.mission.isShowable = true := by decide +kernel
  have hreadings : marsh.mission.readings.takeWhile Message.isShowable =
      marsh.mission.readings := by
    decide +kernel
  obtain ⟨lines, hwritten, hstrip, hrun, -⟩ :=
    printed_map_is_the_grid marsh hplain
  rw [if_pos hshow, hreadings] at hrun
  exact ⟨hplain, lines, hwritten, hstrip.trans (by decide), hrun⟩

end Rover
