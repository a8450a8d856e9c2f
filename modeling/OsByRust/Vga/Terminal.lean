import OsByRust.Vga.Writer
import OsByRust.Lib.Transition

/-!
# A reference text terminal

What `write_string` is for, stated without the buffer's loops: a terminal of 25 rows of 80
cells that writes on its bottom row. A character goes to the current column and moves it on.
A character that finds the bottom row full (at column 80) scrolls first, and so does a
newline. Scrolling moves every row up by one, drops the top row, blanks the new bottom row
in the terminal's colour and goes back to column 0. The column is a `Fin 81`: a terminal
cannot stand past the end of its row.

`Writer` refines `Terminal`. A terminal is shown by the writer with its screen, column and
colour (`toWriter`), and every writer whose column is at most 80 shows one (`ofWriter`). On
such writers `write_byte` does what `putByte` does (`putByte_toWriter`), and so
`write_string` returns and shows what the terminal shows after the same string.
-/

namespace OsByRust

/-- A cell of printable ASCII, or the `0xfe` that `write_string` shows for any other byte. -/
def ScreenChar.Printable (cell : ScreenChar) : Prop :=
  (0x20 ≤ cell.asciiCharacter ∧ cell.asciiCharacter ≤ 0x7e) ∨ cell.asciiCharacter = 0xfe

instance (cell : ScreenChar) : Decidable cell.Printable :=
  inferInstanceAs (Decidable (_ ∨ _))

/-- A text terminal: the cells of the screen, the column on the bottom row, the colour. -/
structure Terminal where
  screen : Fin bufferHeight → Fin bufferWidth → ScreenChar
  column : Fin (bufferWidth + 1)
  color : ColorCode

namespace Terminal

/-- A blank cell in the terminal's colour. -/
def blank (terminal : Terminal) : ScreenChar := ⟨0x20, terminal.color⟩

/-- Every row moves up by one, the top row is dropped, and the bottom row starts blank. -/
def scroll (terminal : Terminal) : Terminal where
  screen r c := if below : r.val + 1 < bufferHeight then terminal.screen ⟨r.val + 1, below⟩ c
    else terminal.blank
  column := 0
  color := terminal.color

/-- A character in column `col` of the bottom row, and the column after it. -/
def place (terminal : Terminal) (col : Fin bufferWidth) (character : UInt8) : Terminal where
  screen r c := if r.val = bufferHeight - 1 ∧ c.val = col.val then ⟨character, terminal.color⟩
    else terminal.screen r c
  column := col.succ
  color := terminal.color

/-- A character goes to the current column, after a scroll when the bottom row is full. -/
def putChar (terminal : Terminal) (character : UInt8) : Terminal :=
  if room : terminal.column.val < bufferWidth then
    terminal.place ⟨terminal.column.val, room⟩ character
  else terminal.scroll.place ⟨0, by decide⟩ character

/-- What the terminal shows for a byte: printable ASCII and the newline as they are, any
other byte as `0xfe`. -/
def shown (byte : UInt8) : UInt8 :=
  if (0x20 ≤ byte ∧ byte ≤ 0x7e) ∨ byte = 0x0a then byte else 0xfe

/-- One byte: a newline scrolls, any other byte is shown as a character. -/
def putByte (terminal : Terminal) (byte : UInt8) : Terminal :=
  if byte = 0x0a then terminal.scroll else terminal.putChar (shown byte)

/-- The bytes of the UTF-8 encoding of a string, one after another. -/
def writeString (terminal : Terminal) (s : String) : Terminal :=
  s.toUTF8.data.toList.foldl putByte terminal

/-- The writer that shows the terminal. -/
def toWriter (terminal : Terminal) : Writer :=
  ⟨terminal.column.val, terminal.color, ⟨terminal.screen⟩⟩

/-- The terminal a writer shows, when its column is at most 80. -/
def ofWriter (writer : Writer) (bounded : writer.columnPosition ≤ bufferWidth) : Terminal :=
  ⟨writer.buffer.chars, ⟨writer.columnPosition, Nat.lt_succ_of_le bounded⟩, writer.colorCode⟩

theorem toWriter_ofWriter (writer : Writer) (bounded : writer.columnPosition ≤ bufferWidth) :
    (ofWriter writer bounded).toWriter = writer :=
  rfl

theorem columnPosition_toWriter_le (terminal : Terminal) :
    terminal.toWriter.columnPosition ≤ bufferWidth :=
  Nat.le_of_lt_succ terminal.column.isLt

/-- `new_line` scrolls. -/
theorem newLine_toWriter (terminal : Terminal) :
    terminal.toWriter.newLine = .ok terminal.scroll.toWriter := by
  rw [Writer.newLine_eq]
  rfl

/-- `write_byte` of a character puts it as the terminal does: at the current column when
there is room, and at column 0 after a scroll when the row is full. -/
theorem writeByte_toWriter (terminal : Terminal) {byte : UInt8} (notNewline : byte ≠ 0x0a) :
    terminal.toWriter.writeByte byte = .ok (terminal.putChar byte).toWriter := by
  by_cases room : terminal.column.val < bufferWidth
  · rw [Writer.writeByte_of_lt _ notNewline room, putChar, dif_pos room]
    rfl
  · have full : bufferWidth ≤ terminal.toWriter.columnPosition := Nat.le_of_not_lt room
    rw [Writer.writeByte_of_full _ notNewline full, putChar, dif_neg room]
    rfl

/-- One iteration of the loop of `write_string` does what `putByte` does. -/
theorem putByte_toWriter (terminal : Terminal) (byte : UInt8) :
    (if (0x20 ≤ byte ∧ byte ≤ 0x7e) ∨ byte = 0x0a then terminal.toWriter.writeByte byte
      else terminal.toWriter.writeByte 0xfe) = .ok (terminal.putByte byte).toWriter := by
  by_cases passed : (0x20 ≤ byte ∧ byte ≤ 0x7e) ∨ byte = 0x0a
  · rw [if_pos passed]
    by_cases newline : byte = 0x0a
    · rw [newline, Writer.writeByte_newline, newLine_toWriter, putByte, if_pos rfl]
    · rw [writeByte_toWriter _ newline, putByte, if_neg newline, shown, if_pos passed]
  · have newline : byte ≠ 0x0a := fun same => passed (Or.inr same)
    rw [if_neg passed, writeByte_toWriter _ (by decide), putByte, if_neg newline, shown,
      if_neg passed]

/-- `write_string` shows what the terminal shows after the same string. -/
theorem writeString_toWriter (terminal : Terminal) (s : String) :
    terminal.toWriter.writeString s = .ok (terminal.writeString s).toWriter :=
  Transition.foldlM_eq_ok_of_step putByte_toWriter _ terminal

/-! ### A printed line -/

/-- The terminal with its bottom row showing `line` followed by blanks, and the column right
after `line`. -/
def withLine (terminal : Terminal) (line : List UInt8) (fits : line.length ≤ bufferWidth) :
    Terminal where
  screen r c := if r.val = bufferHeight - 1 then ⟨line.getD c.val 0x20, terminal.color⟩
    else terminal.screen r c
  column := ⟨line.length, Nat.lt_succ_of_le fits⟩
  color := terminal.color

theorem ne_newline_of_printable {byte : UInt8} (printable : 0x20 ≤ byte ∧ byte ≤ 0x7e) :
    byte ≠ 0x0a := by
  intro same
  rw [same] at printable
  exact absurd printable.1 (by decide)

theorem writeString_append (terminal : Terminal) (first second : String) :
    terminal.writeString (first ++ second) = (terminal.writeString first).writeString second := by
  rw [writeString, utf8Bytes_append, List.foldl_append]
  rfl

theorem writeString_newline (terminal : Terminal) : terminal.writeString "\n" = terminal.scroll :=
  rfl

theorem putByte_withLine (terminal : Terminal) {line : List UInt8} {byte : UInt8}
    (printable : 0x20 ≤ byte ∧ byte ≤ 0x7e) (room : line.length < bufferWidth) :
    (terminal.withLine line room.le).putByte byte =
      terminal.withLine (line ++ [byte]) (by rw [List.length_append]; exact room) := by
  have column : (terminal.withLine line room.le).column.val < bufferWidth := room
  rw [putByte, if_neg (ne_newline_of_printable printable), shown, if_pos (Or.inl printable),
    putChar, dif_pos column]
  simp only [place, withLine, mk.injEq, and_true]
  refine ⟨?_, Fin.ext (by simp)⟩
  funext r c
  by_cases bottom : r.val = bufferHeight - 1
  · by_cases here : c.val = line.length
    · simp [bottom, here]
    · have sides : c.val < line.length ∨ line.length < c.val := by omega
      rcases sides with before | after
      · simp [bottom, here, List.getElem?_append_left before]
      · have beyond : (line ++ [byte]).length ≤ c.val := by
          rw [List.length_append, List.length_singleton]
          omega
        simp [bottom, here, after.le, List.getElem?_eq_none beyond]
  · simp [bottom]

/-- Printable bytes that fit on the row are written one after another, with no scroll. -/
theorem foldl_putByte_withLine (terminal : Terminal) {line bytes : List UInt8}
    (printable : ∀ byte ∈ bytes, 0x20 ≤ byte ∧ byte ≤ 0x7e)
    (fits : line.length + bytes.length ≤ bufferWidth) :
    bytes.foldl putByte (terminal.withLine line (by omega)) =
      terminal.withLine (line ++ bytes) (by rw [List.length_append]; exact fits) := by
  induction bytes generalizing line with
  | nil => simp
  | cons byte rest ih =>
      have room : line.length < bufferWidth := by
        rw [List.length_cons] at fits
        omega
      have restFits : (line ++ [byte]).length + rest.length ≤ bufferWidth := by
        rw [List.length_append, List.length_singleton]
        rw [List.length_cons] at fits
        omega
      rw [List.foldl_cons, putByte_withLine _ (printable byte List.mem_cons_self) room,
        ih (fun other mem => printable other (List.mem_cons_of_mem _ mem)) restFits]
      simp

/-- A scroll leaves the bottom row blank and the column at 0. -/
theorem scroll_eq_withLine (terminal : Terminal) :
    terminal.scroll = terminal.scroll.withLine [] (Nat.zero_le _) := by
  simp only [scroll, withLine, mk.injEq, and_true]
  refine ⟨?_, rfl⟩
  funext r c
  by_cases bottom : r.val = bufferHeight - 1
  · have last : ¬ r.val + 1 < bufferHeight := by omega
    rw [dif_neg last, if_pos bottom]
    rfl
  · rw [if_neg bottom]

/-- After a newline, a line of printable bytes that fits on a row, and a newline, the line
stands on the row above the bottom one, padded with blanks. -/
theorem writeString_println (terminal : Terminal) (s : String)
    (printable : ∀ byte ∈ s.toUTF8.data.toList, 0x20 ≤ byte ∧ byte ≤ 0x7e)
    (fits : s.toUTF8.data.toList.length ≤ bufferWidth) :
    terminal.writeString ("\n" ++ s ++ "\n") =
      ⟨fun r c => if below : r.val + 2 < bufferHeight then terminal.screen ⟨r.val + 2, below⟩ c
        else if r.val + 2 = bufferHeight then ⟨s.toUTF8.data.toList.getD c.val 0x20, terminal.color⟩
        else terminal.blank, 0, terminal.color⟩ := by
  rw [writeString_append, writeString_append, writeString_newline, writeString_newline,
    writeString, scroll_eq_withLine terminal,
    foldl_putByte_withLine _ printable (by rw [List.length_nil, Nat.zero_add]; exact fits)]
  simp only [scroll, withLine, List.nil_append, mk.injEq, and_true, blank]
  funext r c
  have rowLt := r.isLt
  by_cases moved : r.val + 2 < bufferHeight
  · have notLine : r.val + 1 ≠ bufferHeight - 1 := by omega
    rw [dif_pos (by omega), if_neg notLine, dif_pos moved, dif_pos moved]
  · by_cases line : r.val + 2 = bufferHeight
    · have isLine : r.val + 1 = bufferHeight - 1 := by omega
      rw [dif_pos (by omega), if_pos isLine, dif_neg moved, if_pos line]
    · have last : ¬ r.val + 1 < bufferHeight := by omega
      rw [dif_neg last, dif_neg moved, if_neg line]

/-! ### What the terminal can put in a cell -/

theorem blank_printable (terminal : Terminal) : terminal.blank.Printable :=
  Or.inl ⟨show (0x20 : UInt8) ≤ 0x20 by decide, show (0x20 : UInt8) ≤ 0x7e by decide⟩

theorem shown_printable {byte : UInt8} (notNewline : byte ≠ 0x0a) (color : ColorCode) :
    (⟨shown byte, color⟩ : ScreenChar).Printable := by
  unfold shown
  split
  · rename_i passed
    exact Or.inl (passed.resolve_right notNewline)
  · exact Or.inr rfl

section Cells

-- a property of cells, to hold of every cell a terminal starts with, of its blank and of
-- every character it shows for a byte other than the newline
variable (good : ScreenChar → Prop)

@[simp]
theorem scroll_color (terminal : Terminal) : terminal.scroll.color = terminal.color := rfl

@[simp]
theorem place_color (terminal : Terminal) (col : Fin bufferWidth) (character : UInt8) :
    (terminal.place col character).color = terminal.color := rfl

theorem putByte_color (terminal : Terminal) (byte : UInt8) :
    (terminal.putByte byte).color = terminal.color := by
  unfold putByte putChar
  split
  · rfl
  · split <;> rfl

theorem putByte_blank (terminal : Terminal) (byte : UInt8) :
    (terminal.putByte byte).blank = terminal.blank := by
  rw [blank, blank, putByte_color]

theorem scroll_cells {terminal : Terminal} (old : ∀ r c, good (terminal.screen r c))
    (blankGood : good terminal.blank) : ∀ r c, good (terminal.scroll.screen r c) := by
  intro r c
  simp only [scroll]
  split
  · exact old _ _
  · exact blankGood

theorem place_cells {terminal : Terminal} {col : Fin bufferWidth} {character : UInt8}
    (old : ∀ r c, good (terminal.screen r c)) (placed : good ⟨character, terminal.color⟩) :
    ∀ r c, good ((terminal.place col character).screen r c) := by
  intro r c
  simp only [place]
  split
  · exact placed
  · exact old r c

/-- A byte puts in a cell only its own character or a blank, and moves the others. -/
theorem putByte_cells {terminal : Terminal} (old : ∀ r c, good (terminal.screen r c))
    (blankGood : good terminal.blank)
    (written : ∀ byte, byte ≠ 0x0a → good ⟨shown byte, terminal.color⟩) (byte : UInt8) :
    ∀ r c, good ((terminal.putByte byte).screen r c) := by
  unfold putByte
  split
  · exact scroll_cells good old blankGood
  · rename_i notNewline
    unfold putChar
    split
    · exact place_cells good old (written byte notNewline)
    · exact place_cells good (scroll_cells good old blankGood) (written byte notNewline)

/-- Along every string, by induction on its bytes; the colour, and so the blank and the
characters shown, stay the same throughout. -/
theorem writeString_cells {terminal : Terminal} (old : ∀ r c, good (terminal.screen r c))
    (blankGood : good terminal.blank)
    (written : ∀ byte, byte ≠ 0x0a → good ⟨shown byte, terminal.color⟩) (s : String) :
    ∀ r c, good ((terminal.writeString s).screen r c) := by
  rw [writeString]
  induction s.toUTF8.data.toList generalizing terminal with
  | nil => exact old
  | cons byte rest ih =>
      apply ih (putByte_cells good old blankGood written byte)
      · rw [putByte_blank]
        exact blankGood
      · intro other notNewline
        rw [putByte_color]
        exact written other notNewline

end Cells

end Terminal

/-- From every writer state whose column is at most 80, `write_string` returns, with no index
out of bounds, keeps the column at most 80, and leaves the writer showing what the reference
terminal shows after the same string; writing two strings one after the other is writing
their concatenation. -/
theorem vga_write_string_matches_terminal (writer : Writer)
    (bounded : writer.columnPosition ≤ bufferWidth) (s : String) :
    ∃ next, writer.writeString s = .ok next ∧ next.columnPosition ≤ bufferWidth ∧
      next = ((Terminal.ofWriter writer bounded).writeString s).toWriter ∧
      ∀ first second, writer.writeString (first ++ second) =
        (writer.writeString first).bind fun writer => writer.writeString second := by
  have shown := (Terminal.ofWriter writer bounded).writeString_toWriter s
  rw [Terminal.toWriter_ofWriter] at shown
  refine ⟨_, shown, Terminal.columnPosition_toWriter_le _, rfl, ?_⟩
  intro first second
  exact writer.writeString_append first second

theorem vga_write_string_matches_terminal_hello :
    (⟨0, ⟨0x0e⟩, ⟨fun _ _ => ⟨0x20, ⟨0x0e⟩⟩⟩⟩ : Writer).columnPosition ≤ bufferWidth ∧
      ∃ next, (⟨0, ⟨0x0e⟩, ⟨fun _ _ => ⟨0x20, ⟨0x0e⟩⟩⟩⟩ : Writer).writeString "Hello" = .ok next ∧
        next.columnPosition = 5 := by
  have bounded :
      (⟨0, ⟨0x0e⟩, ⟨fun _ _ => ⟨0x20, ⟨0x0e⟩⟩⟩⟩ : Writer).columnPosition ≤ bufferWidth := by
    decide
  obtain ⟨next, written, -, shown, -⟩ := vga_write_string_matches_terminal _ bounded "Hello"
  refine ⟨bounded, next, written, ?_⟩
  rw [shown]
  rfl

/-- What the println test checks, from every writer state and for every line of printable ASCII
that fits on a row: after a newline, the line and a newline, the row above the bottom one holds
the line padded with blanks, the bottom row is blank, every other row has moved up by two, and
the column is 0. -/
theorem vga_println_shows_line (writer : Writer)
    (bounded : writer.columnPosition ≤ bufferWidth) (s : String)
    (printable : ∀ byte ∈ s.toUTF8.data.toList, 0x20 ≤ byte ∧ byte ≤ 0x7e)
    (fits : s.toUTF8.data.toList.length ≤ bufferWidth) :
    writer.writeString ("\n" ++ s ++ "\n") = .ok ⟨0, writer.colorCode, ⟨fun r c =>
      if below : r.val + 2 < bufferHeight then writer.buffer.chars ⟨r.val + 2, below⟩ c
      else if r.val + 2 = bufferHeight then ⟨s.toUTF8.data.toList.getD c.val 0x20, writer.colorCode⟩
      else ⟨0x20, writer.colorCode⟩⟩⟩ := by
  have shown := (Terminal.ofWriter writer bounded).writeString_toWriter ("\n" ++ s ++ "\n")
  rw [Terminal.toWriter_ofWriter, Terminal.writeString_println _ s printable fits] at shown
  exact shown

/-- The string of `test_println_output`, on a blank screen. -/
theorem vga_println_shows_line_test :
    (⟨0, ⟨0x0e⟩, ⟨fun _ _ => ⟨0x20, ⟨0x0e⟩⟩⟩⟩ : Writer).writeString
        ("\n" ++ "Some test string that fits on a single line" ++ "\n") =
      .ok ⟨0, ⟨0x0e⟩, ⟨fun r c =>
        if r.val + 2 = bufferHeight then
          ⟨("Some test string that fits on a single line").toUTF8.data.toList.getD c.val 0x20,
            ⟨0x0e⟩⟩
        else ⟨0x20, ⟨0x0e⟩⟩⟩⟩ := by
  rw [vga_println_shows_line _ (by decide) _ (by decide +kernel) (by decide +kernel)]
  congr 3
  funext r c
  split_ifs <;> first | rfl | omega

/-- `write_string` returns from every writer state, also from one whose column is past the end
of the row: the first byte leaves the column at most 80, and from there the writer shows a
terminal. -/
theorem vga_write_string_never_panics (writer : Writer) (s : String) :
    ∃ next, writer.writeString s = .ok next := by
  rw [Writer.writeString]
  cases s.toUTF8.data.toList with
  | nil => exact ⟨writer, rfl⟩
  | cons byte rest =>
      have first : ∃ next, (if (0x20 ≤ byte ∧ byte ≤ 0x7e) ∨ byte = 0x0a then
          writer.writeByte byte else writer.writeByte 0xfe) = .ok next ∧
          next.columnPosition ≤ bufferWidth := by
        split
        · exact writer.writeByte_bounded byte
        · exact writer.writeByte_bounded 0xfe
      obtain ⟨next, written, bounded⟩ := first
      have walked : rest.foldlM (fun writer byte =>
          if (0x20 ≤ byte ∧ byte ≤ 0x7e) ∨ byte = 0x0a then writer.writeByte byte
          else writer.writeByte 0xfe) (Terminal.ofWriter next bounded).toWriter =
          .ok (rest.foldl Terminal.putByte (Terminal.ofWriter next bounded)).toWriter :=
        Transition.foldlM_eq_ok_of_step Terminal.putByte_toWriter rest _
      rw [Terminal.toWriter_ofWriter] at walked
      rw [List.foldlM_cons, written]
      exact ⟨_, walked⟩

/-- `write_string` never stores a control byte, nor a byte of a multi-byte UTF-8 character.
From every writer state whose column is at most 80 and whose screen holds only printable
ASCII and `0xfe`, every cell after `write_string` of any string still does; and when every
cell had the writer's colour, every cell still has it. -/
theorem vga_write_string_keeps_screen_printable (writer : Writer)
    (bounded : writer.columnPosition ≤ bufferWidth)
    (clean : ∀ r c, (writer.buffer.chars r c).Printable) (s : String) :
    ∃ next, writer.writeString s = .ok next ∧ (∀ r c, (next.buffer.chars r c).Printable) ∧
      ((∀ r c, (writer.buffer.chars r c).colorCode = writer.colorCode) →
        ∀ r c, (next.buffer.chars r c).colorCode = writer.colorCode) := by
  have shown := (Terminal.ofWriter writer bounded).writeString_toWriter s
  rw [Terminal.toWriter_ofWriter] at shown
  refine ⟨_, shown, ?_, ?_⟩
  · -- a blank is a space, and every other character shown is printable or `0xfe`
    exact Terminal.writeString_cells ScreenChar.Printable clean (Terminal.blank_printable _)
      (fun _ notNewline => Terminal.shown_printable notNewline _) s
  · intro sameColor
    exact Terminal.writeString_cells (fun cell => cell.colorCode = writer.colorCode) sameColor rfl
      (fun _ _ => rfl) s

/-- A blank screen in yellow on black, as on a freshly cleared VGA text buffer. -/
theorem vga_write_string_keeps_screen_printable_blank :
    (⟨0, ⟨0x0e⟩, ⟨fun _ _ => ⟨0x20, ⟨0x0e⟩⟩⟩⟩ : Writer).columnPosition ≤ bufferWidth ∧
      (∀ r c, ((⟨0, ⟨0x0e⟩, ⟨fun _ _ => ⟨0x20, ⟨0x0e⟩⟩⟩⟩ : Writer).buffer.chars r c).Printable) ∧
      ∃ next, (⟨0, ⟨0x0e⟩, ⟨fun _ _ => ⟨0x20, ⟨0x0e⟩⟩⟩⟩ : Writer).writeString "ü\n" = .ok next ∧
        ∀ r c, (next.buffer.chars r c).Printable := by
  have bounded :
      (⟨0, ⟨0x0e⟩, ⟨fun _ _ => ⟨0x20, ⟨0x0e⟩⟩⟩⟩ : Writer).columnPosition ≤ bufferWidth := by
    decide
  have clean :
      ∀ r c, ((⟨0, ⟨0x0e⟩, ⟨fun _ _ => ⟨0x20, ⟨0x0e⟩⟩⟩⟩ : Writer).buffer.chars r c).Printable :=
    fun _ _ => Terminal.blank_printable ⟨fun _ _ => ⟨0x20, ⟨0x0e⟩⟩, 0, ⟨0x0e⟩⟩
  obtain ⟨next, written, printable, -⟩ :=
    vga_write_string_keeps_screen_printable _ bounded clean "ü\n"
  exact ⟨bounded, clean, next, written, printable⟩

end OsByRust
