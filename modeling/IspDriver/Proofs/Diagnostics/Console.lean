import IspDriver.Diagnostics.Console
import IspDriver.Proofs.Simulation.Bench
import IspDriver.Proofs.Simulation.Sound
import IspDriver.Proofs.Text.Utf8

/-!
What the console shows of a text that was put into it. The lines of a text are told by how they make
it up, and there is one way to do so; a text that fits into the buffer with a zero byte after it
comes back as its lines, whatever was in the buffer before.
-/

namespace IspDriver.Diagnostics

open Routine Simulation

/-- The lines make up the text: joined by newlines they are the text, but for a newline at its end.
An empty line is a line, and an empty text has none. -/
structure LinesOf (text : String) (lines : List String) : Prop where
  unbroken : ∀ line ∈ lines, '\n' ∉ line.toList
  joined : text =
    "\n".intercalate lines ++ if text.toList.getLast? = some '\n' then "\n" else ""
  empty_iff : lines = [] ↔ text = ""

/-- The text with a newline at its end, unless there is one or nothing that it could end. -/
def closed (text : List Char) : List Char :=
  if text = [] ∨ text.getLast? = some '\n' then text else text ++ ['\n']

/-- The lines, each with a newline after it. -/
def closedLines (lines : List (List Char)) : List Char :=
  lines.flatMap (· ++ ['\n'])

section Lines

variable {text line : List Char} {all : List (List Char)}

theorem closed_cons (c : Char) (rest : List Char) (going : c = '\n' ∨ rest ≠ []) :
    closed (c :: rest) = c :: closed rest := by
  cases rest with
  | nil =>
      obtain rfl := going.resolve_right (by simp)
      rfl
  | cons next more =>
      unfold closed
      rw [List.getLast?_cons_cons]
      split <;> simp_all

theorem closed_eq_nil_iff : closed text = [] ↔ text = [] := by
  unfold closed
  split
  · rfl
  · next ends => simp [not_or.mp ends]

theorem lines_eq_nil_iff : lines text = [] ↔ text = [] := by
  cases text with
  | nil => simp [lines]
  | cons c rest =>
      unfold lines
      split
      · simp
      · split <;> simp

/-- No character is lost but a newline that ends the text. -/
theorem closedLines_lines (text : List Char) : closedLines (lines text) = closed text := by
  induction text with
  | nil => rfl
  | cons c rest ih =>
      unfold lines
      split
      · next newline =>
          subst newline
          rw [closed_cons _ _ (.inl rfl), ← ih]
          rfl
      · next other =>
          split
          · next none =>
              obtain rfl := lines_eq_nil_iff.mp none
              simp [closedLines, closed, other]
          · next line more found =>
              have going : rest ≠ [] := fun none => by
                rw [lines_eq_nil_iff.mpr none] at found
                cases found
              rw [closed_cons _ _ (.inr going), ← ih, found]
              rfl

theorem newline_not_mem_lines (member : line ∈ lines text) : '\n' ∉ line := by
  induction text generalizing line with
  | nil => cases member
  | cons c rest ih =>
      unfold lines at member
      split at member
      · rcases List.mem_cons.mp member with rfl | later
        · exact List.not_mem_nil
        · exact ih later
      · next other =>
          split at member
          · rw [List.mem_singleton.mp member, List.mem_singleton]
            exact Ne.symm other
          · next first more found =>
              rcases List.mem_cons.mp member with rfl | later
              · rw [List.mem_cons, not_or]
                exact ⟨Ne.symm other, ih (by rw [found]; exact List.mem_cons_self ..)⟩
              · exact ih (by rw [found]; exact List.mem_cons_of_mem _ later)

theorem lines_append_newline (unbroken : '\n' ∉ line) (rest : List Char) :
    lines (line ++ '\n' :: rest) = line :: lines rest := by
  induction line with
  | nil => rw [List.nil_append, lines, if_pos rfl]
  | cons c others ih =>
      rw [List.mem_cons, not_or] at unbroken
      rw [List.cons_append, lines, if_neg (Ne.symm unbroken.1), ih unbroken.2]

/-- Lines without newlines in them are found again. -/
theorem lines_closedLines (unbroken : ∀ line ∈ all, '\n' ∉ line) :
    lines (closedLines all) = all := by
  induction all with
  | nil => rfl
  | cons line rest ih =>
      obtain ⟨first, others⟩ := List.forall_mem_cons.mp unbroken
      have front : closedLines (line :: rest) = line ++ '\n' :: closedLines rest := by
        simp [closedLines]
      rw [front, lines_append_newline first, ih others]

theorem closedLines_eq_intercalate (lined : all ≠ []) :
    closedLines all = ['\n'].intercalate all ++ ['\n'] := by
  induction all with
  | nil => exact absurd rfl lined
  | cons line rest ih =>
      cases rest with
      | nil => simp [closedLines]
      | cons next more =>
          have front : closedLines (line :: next :: more) =
              line ++ ['\n'] ++ closedLines (next :: more) := rfl
          rw [front, ih (by simp), List.intercalate_cons_cons]
          simp

theorem closedLines_eq_closed_iff (lined : all ≠ []) :
    closedLines all = closed text ↔ text ≠ [] ∧
      text = ['\n'].intercalate all ++ if text.getLast? = some '\n' then ['\n'] else [] := by
  rw [closedLines_eq_intercalate lined]
  unfold closed
  by_cases empty : text = []
  · simp [empty]
  · by_cases last : text.getLast? = some '\n'
    · simp [empty, last, eq_comm]
    · simp [empty, last, eq_comm]

end Lines

section Texts

variable {text : String} {all : List String}

/-- Lines make up a text if and only if, each with a newline after it, they are the text with a
newline at its end. -/
theorem linesOf_iff_closed :
    LinesOf text all ↔ (∀ line ∈ all, '\n' ∉ line.toList) ∧
      closedLines (all.map String.toList) = closed text.toList := by
  have joined : (text = "\n".intercalate all ++
        if text.toList.getLast? = some '\n' then "\n" else "") ↔
      text.toList = ['\n'].intercalate (all.map String.toList) ++
        if text.toList.getLast? = some '\n' then ['\n'] else [] := by
    rw [← String.toList_inj, String.toList_append, String.toList_intercalate]
    split <;> rfl
  constructor
  · intro makes
    refine ⟨makes.unbroken, ?_⟩
    by_cases none : all = []
    · rw [none, makes.empty_iff.mp none]
      rfl
    · refine (closedLines_eq_closed_iff (by simpa using none)).mpr ⟨?_, joined.mp makes.joined⟩
      simpa using mt makes.empty_iff.mpr none
  · rintro ⟨unbroken, same⟩
    by_cases none : all = []
    · have empty : closed text.toList = [] := by rw [← same, none]; rfl
      rw [closed_eq_nil_iff, String.toList_eq_nil_iff] at empty
      rw [none, empty]
      exact ⟨by simp, rfl, by simp⟩
    · have parts := (closedLines_eq_closed_iff (by simpa using none)).mp same
      exact ⟨unbroken, joined.mpr parts.2, by simpa [none] using parts.1⟩

/-- The lines of a text, and no others, make it up. -/
theorem linesOf_iff : LinesOf text all ↔ all = (lines text.toList).map String.ofList := by
  rw [linesOf_iff_closed]
  constructor
  · rintro ⟨unbroken, same⟩
    have found : lines (closed text.toList) = all.map String.toList := by
      rw [← same]
      exact lines_closedLines (by simpa using unbroken)
    rw [← closedLines_lines, lines_closedLines fun _ => newline_not_mem_lines] at found
    rw [found, List.map_map]
    simp
  · rintro rfl
    refine ⟨?_, ?_⟩
    · simp only [List.forall_mem_map, String.toList_ofList]
      exact fun _ => newline_not_mem_lines
    · rw [List.map_map]
      simp [Function.comp_def, closedLines_lines]

end Texts

section Buffer

variable {chip : Chip} {text : String}

/-- A text without a zero character that leaves room for a zero byte is what the buffer shows. -/
theorem consoleLines_padded (noZero : '\x00' ∉ text.toList) {room : Nat} (zero : 0 < room) :
    consoleLines (Text.encodeUtf8 text.toList ++ List.replicate room 0) =
      (lines text.toList).map String.ofList := by
  have shown : (Text.encodeUtf8 text.toList ++ List.replicate room 0).takeWhile (· ≠ 0) =
      Text.encodeUtf8 text.toList := by
    obtain ⟨more, rfl⟩ := Nat.exists_eq_succ_of_ne_zero (Nat.ne_of_gt zero)
    rw [List.takeWhile_append_of_pos, List.replicate_succ, List.takeWhile_cons_of_neg (by simp),
      List.append_nil]
    intro byte member
    rw [decide_eq_true_eq]
    rintro rfl
    exact noZero (Text.zero_mem_encodeUtf8.mp member)
  rw [consoleLines, shown, Text.decodeLenient_encodeUtf8]

/-- Nothing is left in the buffer of what was in it. -/
theorem load_setConsole (fits : text.utf8ByteSize < Layout.consoleSize) :
    (chip.setConsole text).memory.load Layout.consoleOffset.toNat Layout.consoleSize =
      Text.encodeUtf8 text.toList ++
        List.replicate (Layout.consoleSize - text.utf8ByteSize) 0 := by
  have whole : (Text.encodeUtf8 text.toList).take (Layout.consoleSize - 1) =
      Text.encodeUtf8 text.toList := by
    refine List.take_of_length_le ?_
    rw [Text.length_encodeUtf8]
    omega
  have filled : (Text.encodeUtf8 text.toList ++
      List.replicate (Layout.consoleSize - text.utf8ByteSize) 0).length = Layout.consoleSize := by
    rw [List.length_append, List.length_replicate, Text.length_encodeUtf8]
    omega
  have stored := @Memory.load_store_same chip.memory Layout.consoleOffset.toNat
    (Text.encodeUtf8 text.toList ++ List.replicate (Layout.consoleSize - text.utf8ByteSize) 0)
  rw [filled] at stored
  unfold Chip.setConsole
  simp only [whole, Text.length_encodeUtf8]
  exact stored

theorem sound_setConsole (sound : chip.Sound) : (chip.setConsole text).Sound :=
  ⟨sound.awake, sound.reads, sound.writes, sound.runs⟩

end Buffer

/-- What is noted of the lines, the last one in front. -/
def lineNotes (all : List String) : List Note :=
  (all.map fun line => ⟨.info, "console " ++ line⟩).reverse

variable {map : RegisterMap} {bench : Bench} {text : String}

theorem ends_noteLines {all : List String} {post : Outcome Unit → RegisterMap → Bench → Prop} :
    (noteLines all).Ends Bench.host map bench post ↔
      post (.done ()) map { bench with notes := lineNotes all ++ bench.notes } := by
  induction all generalizing bench with
  | nil => exact Iff.rfl
  | cons line rest ih =>
      rw [noteLines, ends_bind, ends_note]
      simp only [followed]
      rw [ih]
      simp [Bench.host, lineNotes]

/-- The console shows the lines in the buffer, notes each of them and changes nothing else. -/
theorem readConsole_gives (sound : bench.chip.Sound) (plain : bench.faults.overrides = []) :
    readConsole.Gives Bench.host map bench fun found after left =>
      found = consoleLines
          (bench.chip.memory.load Layout.consoleOffset.toNat Layout.consoleSize) ∧
        after = map ∧ left = { bench with notes := lineNotes found ++ bench.notes } := by
  obtain ⟨bytes, read, loaded⟩ := @Chip.Sound.read bench.chip Layout.consoleOffset sound
    Layout.consoleSize (by decide) (by decide) (by decide)
  have taken : (RegisterMap.readBlock Layout.consoleOffset Layout.consoleSize).Gives Bench.host map
      bench fun found after left => found = bytes ∧ after = map ∧ left = bench := by
    refine Gives.onError ((Bench.ends_readBlock plain).mpr ?_)
    rw [read]
    exact ⟨rfl, rfl, rfl⟩
  unfold readConsole
  refine taken.bind ?_
  rintro _ _ _ ⟨rfl, rfl, rfl⟩
  rw [ends_bind, ends_noteLines, loaded]
  exact ⟨rfl, rfl, rfl⟩

/-- A text without a zero character that fits into the buffer with a zero byte after it comes back
as the lines that make it up, of which there is one choice, whatever the buffer held before. -/
theorem console_comes_back (noZero : '\x00' ∉ text.toList) (fits : text.utf8ByteSize ≤ 511)
    (sound : bench.chip.Sound) (plain : bench.faults.overrides = []) :
    readConsole.Gives Bench.host map { bench with chip := bench.chip.setConsole text }
      fun found after left =>
        (∀ all, LinesOf text all ↔ all = found) ∧ after = map ∧
          left = { bench with
            chip := bench.chip.setConsole text
            notes := lineNotes found ++ bench.notes } := by
  have inside : text.utf8ByteSize < Layout.consoleSize := Nat.lt_succ_of_le fits
  have put : (bench.chip.setConsole text).Sound := sound_setConsole sound
  have run := @readConsole_gives map { bench with chip := bench.chip.setConsole text } put plain
  refine Gives.mono run ?_
  rintro found after left ⟨shown, rfl, rfl⟩
  rw [load_setConsole inside, consoleLines_padded noZero (Nat.sub_pos_of_lt inside)] at shown
  exact ⟨fun _ => by rw [shown, linesOf_iff], rfl, rfl⟩

/-- Empty lines in front and inside are kept, and a longer text that was there before is gone. -/
theorem console_shows_empty_lines :
    readConsole.Gives Bench.host {} { Bench.fresh with
        chip := (Chip.fresh.setConsole "firmware 7 starts").setConsole "\n3 µs\n\nok\n" }
      fun found _ _ => found = ["", "3 µs", "", "ok"] := by
  have sound : (Chip.fresh.setConsole "firmware 7 starts").Sound :=
    sound_setConsole ⟨rfl, rfl, rfl, rfl⟩
  have run := @console_comes_back {}
    { Bench.fresh with chip := Chip.fresh.setConsole "firmware 7 starts" } "\n3 µs\n\nok\n"
    (by decide +kernel) (by decide +kernel) sound rfl
  refine Gives.mono run ?_
  rintro found _ _ ⟨shown, -⟩
  exact ((shown _).mp ⟨by decide +kernel, by decide +kernel, by decide +kernel⟩).symm

end IspDriver.Diagnostics
