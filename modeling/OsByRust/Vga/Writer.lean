import OsByRust.Allocator.Basic

/-!
# The VGA text writer

`src/vga_buffer.rs`. The VGA text buffer at `0xb8000` holds 25 rows of 80 characters, each a
byte with a colour. `Writer` writes on the bottom row: `write_byte` puts a character at
`column_position` and moves one column right, and `new_line` moves every row up by one,
copying it character by character, and blanks the bottom row. A character that arrives when
the bottom row is full starts a new line first. `write_string` passes printable ASCII and
`'\n'` on, and writes every other byte of the string's UTF-8 encoding as `0xfe`.

The buffer is a function from row and column to the character there. Reading or writing it
at a row and a column checks both against the bounds of the arrays, as Rust's indexing
does, and an index past the end is a panic. The `Volatile` wrapper only keeps the compiler
from dropping the writes, and is left out.

Each loop has a lemma that says what the whole loop leaves in every cell, by induction on
the number of iterations; `newLine_eq` puts the two loops of `new_line` together.
-/

namespace OsByRust

/-- `BUFFER_HEIGHT`. -/
def bufferHeight : Nat := 25

/-- `BUFFER_WIDTH`. -/
def bufferWidth : Nat := 80

/-- `ColorCode(u8)`: the foreground in the low four bits, the background in the high four. -/
structure ColorCode where
  value : UInt8
  deriving DecidableEq, Repr

/-- `ScreenChar`. -/
structure ScreenChar where
  asciiCharacter : UInt8
  colorCode : ColorCode
  deriving DecidableEq, Repr

/-- `Buffer`: the character at `chars[row][col]`. -/
@[ext]
structure Buffer where
  chars : Fin bufferHeight → Fin bufferWidth → ScreenChar

namespace Buffer

/-- `chars[row][col].read()`. -/
def read (buffer : Buffer) (row col : Nat) : Except Panic ScreenChar :=
  if inBounds : row < bufferHeight ∧ col < bufferWidth then
    .ok (buffer.chars ⟨row, inBounds.1⟩ ⟨col, inBounds.2⟩)
  else .error .indexOutOfBounds

/-- `chars[row][col].write(character)`. -/
def write (buffer : Buffer) (row col : Nat) (character : ScreenChar) : Except Panic Buffer :=
  if row < bufferHeight ∧ col < bufferWidth then
    .ok ⟨fun r c => if r.val = row ∧ c.val = col then character else buffer.chars r c⟩
  else .error .indexOutOfBounds

/-- The inner loop of `new_line` for one row: for `col in 0..BUFFER_WIDTH`, the character at
`[row][col]` is written to `[row - 1][col]`. -/
def copyRowUp (buffer : Buffer) (row : Nat) : Except Panic Buffer :=
  (List.range bufferWidth).foldlM (fun buffer col => do
    let character ← buffer.read row col
    buffer.write (row - 1) col character) buffer

end Buffer

/-- `Writer`. -/
structure Writer where
  columnPosition : Nat
  colorCode : ColorCode
  buffer : Buffer

namespace Writer

/-- `Writer::clear_row`: a blank in the writer's colour in every column of `row`. -/
def clearRow (writer : Writer) (row : Nat) : Except Panic Writer := do
  let blank : ScreenChar := ⟨0x20, writer.colorCode⟩
  let buffer ← (List.range bufferWidth).foldlM (fun buffer col => buffer.write row col blank)
    writer.buffer
  return { writer with buffer := buffer }

/-- `Writer::new_line`: for `row in 1..BUFFER_HEIGHT` the row is copied one row up, then the
bottom row is cleared and the column goes back to 0. -/
def newLine (writer : Writer) : Except Panic Writer := do
  let buffer ← (List.range' 1 (bufferHeight - 1)).foldlM Buffer.copyRowUp writer.buffer
  let writer ← { writer with buffer := buffer }.clearRow (bufferHeight - 1)
  return { writer with columnPosition := 0 }

/-- `Writer::write_byte`. -/
def writeByte (writer : Writer) (byte : UInt8) : Except Panic Writer :=
  if byte = 0x0a then writer.newLine
  else do
    let writer ← if writer.columnPosition ≥ bufferWidth then writer.newLine else pure writer
    let row := bufferHeight - 1
    let col := writer.columnPosition
    let buffer ← writer.buffer.write row col ⟨byte, writer.colorCode⟩
    return { writer with buffer := buffer, columnPosition := col + 1 }

/-- `Writer::write_string`: the bytes of the string's UTF-8 encoding, `0x20..=0x7e` and
`b'\n'` as they are and every other byte as `0xfe`. -/
def writeString (writer : Writer) (s : String) : Except Panic Writer :=
  s.toUTF8.data.toList.foldlM (fun writer byte =>
    if (0x20 ≤ byte ∧ byte ≤ 0x7e) ∨ byte = 0x0a then writer.writeByte byte
    else writer.writeByte 0xfe) writer

end Writer

namespace Buffer

theorem read_of_lt {buffer : Buffer} {row col : Nat}
    (inBounds : row < bufferHeight ∧ col < bufferWidth) :
    buffer.read row col = .ok (buffer.chars ⟨row, inBounds.1⟩ ⟨col, inBounds.2⟩) := by
  rw [read, dif_pos inBounds]

theorem write_of_lt {buffer : Buffer} {row col : Nat} (character : ScreenChar)
    (inBounds : row < bufferHeight ∧ col < bufferWidth) :
    buffer.write row col character =
      .ok ⟨fun r c => if r.val = row ∧ c.val = col then character else buffer.chars r c⟩ := by
  rw [write, if_pos inBounds]

/-- Writing one character into the first `count` columns of a row. -/
theorem foldlM_write_range {buffer : Buffer} {row : Nat} (rowLt : row < bufferHeight)
    (character : ScreenChar) {count : Nat} (countLe : count ≤ bufferWidth) :
    (List.range count).foldlM (fun buffer col => buffer.write row col character) buffer =
      .ok ⟨fun r c => if r.val = row ∧ c.val < count then character else buffer.chars r c⟩ := by
  induction count with
  | zero =>
      simp only [List.range_zero, List.foldlM_nil, Nat.not_lt_zero, and_false, if_false]
      rfl
  | succ count ih =>
      rw [List.range_succ, List.foldlM_append, ih (by omega)]
      simp only [List.foldlM_cons, List.foldlM_nil, bind, Except.bind,
        write_of_lt character ⟨rowLt, (show count < bufferWidth by omega)⟩, pure, Except.pure,
        Except.ok.injEq, Buffer.mk.injEq]
      funext r c
      split_ifs <;> first | rfl | omega

/-- Copying the first `count` columns of a row one row up: the row read from is never written,
so every character copied is the one the loop started with. -/
theorem foldlM_copy_range {buffer : Buffer} {row : Nat} (rowPos : 0 < row)
    (rowLt : row < bufferHeight) {count : Nat} (countLe : count ≤ bufferWidth) :
    (List.range count).foldlM (fun buffer col => do
        let character ← buffer.read row col
        buffer.write (row - 1) col character) buffer =
      .ok ⟨fun r c => if r.val = row - 1 ∧ c.val < count then buffer.chars ⟨row, rowLt⟩ c
        else buffer.chars r c⟩ := by
  induction count with
  | zero =>
      simp only [List.range_zero, List.foldlM_nil, Nat.not_lt_zero, and_false, if_false]
      rfl
  | succ count ih =>
      have columnLt : count < bufferWidth := by omega
      rw [List.range_succ, List.foldlM_append, ih (by omega)]
      simp only [List.foldlM_cons, List.foldlM_nil, bind, Except.bind,
        read_of_lt ⟨rowLt, columnLt⟩, write_of_lt _ ⟨(show row - 1 < bufferHeight by omega),
          columnLt⟩, pure, Except.pure, Except.ok.injEq, Buffer.mk.injEq, Nat.lt_irrefl,
        and_false, if_false]
      funext r c
      split_ifs with copied
      · -- the column just copied: the character read is the one at `[row][count]`
        rw [show c = ⟨count, columnLt⟩ from Fin.ext copied.2]
      all_goals first | rfl | omega

theorem copyRowUp_eq {buffer : Buffer} {row : Nat} (rowPos : 0 < row)
    (rowLt : row < bufferHeight) :
    buffer.copyRowUp row =
      .ok ⟨fun r c => if r.val = row - 1 then buffer.chars ⟨row, rowLt⟩ c
        else buffer.chars r c⟩ := by
  rw [copyRowUp, foldlM_copy_range rowPos rowLt (Nat.le_refl _)]
  simp only [Fin.is_lt, and_true]

/-- The outer loop of `new_line` after its first `count` rows: each of the rows below `count`
holds the row under it, and the others are as they were. -/
theorem foldlM_copyRowUp_range' {buffer : Buffer} {count : Nat}
    (countLe : count ≤ bufferHeight - 1) :
    (List.range' 1 count).foldlM copyRowUp buffer =
      .ok ⟨fun r c => if shifted : r.val < count ∧ r.val + 1 < bufferHeight then
        buffer.chars ⟨r.val + 1, shifted.2⟩ c else buffer.chars r c⟩ := by
  induction count with
  | zero =>
      simp only [List.range'_zero, List.foldlM_nil, Nat.not_lt_zero, false_and, dite_false]
      rfl
  | succ count ih =>
      have rowLt : count + 1 < bufferHeight := by omega
      have split : List.range' 1 (count + 1) = List.range' 1 count ++ [count + 1] := by
        rw [List.range'_concat, Nat.one_mul, Nat.add_comm]
      rw [split, List.foldlM_append, ih (by omega)]
      simp only [List.foldlM_cons, List.foldlM_nil, bind, Except.bind,
        copyRowUp_eq (show 0 < count + 1 by omega) rowLt, pure, Except.pure,
        Except.ok.injEq, Buffer.mk.injEq]
      funext r c
      split_ifs <;> first | rfl | omega | (congr 1; exact Fin.ext (by simp only; omega))

end Buffer

/-- The bytes of two strings one after the other are those of their concatenation. -/
theorem utf8Bytes_append (first second : String) :
    (first ++ second).toUTF8.data.toList =
      first.toUTF8.data.toList ++ second.toUTF8.data.toList := by
  simp only [String.toUTF8_eq_toByteArray, String.toByteArray_append, ByteArray.data_append,
    Array.toList_append]

namespace Writer

theorem clearRow_eq (writer : Writer) {row : Nat} (rowLt : row < bufferHeight) :
    writer.clearRow row =
      .ok { writer with buffer := ⟨fun r c => if r.val = row then ⟨0x20, writer.colorCode⟩
        else writer.buffer.chars r c⟩ } := by
  simp only [clearRow, bind, Except.bind,
    Buffer.foldlM_write_range rowLt _ (Nat.le_refl bufferWidth), Fin.is_lt, and_true, pure,
    Except.pure]

/-- `new_line` moves every row up by one, blanks the bottom row and goes to column 0. -/
theorem newLine_eq (writer : Writer) :
    writer.newLine =
      .ok { writer with columnPosition := 0, buffer := ⟨fun r c =>
        if below : r.val + 1 < bufferHeight then writer.buffer.chars ⟨r.val + 1, below⟩ c
        else ⟨0x20, writer.colorCode⟩⟩ } := by
  simp only [newLine, bind, Except.bind, Buffer.foldlM_copyRowUp_range' (Nat.le_refl _),
    clearRow_eq _ (show bufferHeight - 1 < bufferHeight by decide), pure, Except.pure,
    Except.ok.injEq, Writer.mk.injEq, true_and, Buffer.mk.injEq]
  funext r c
  have rowLt := r.isLt
  have heightPos : 0 < bufferHeight := by decide
  split_ifs <;> first | rfl | omega

theorem writeByte_newline (writer : Writer) : writer.writeByte 0x0a = writer.newLine := by
  rw [writeByte, if_pos rfl]

/-- `write_string` of two strings one after the other is `write_string` of the first and then
of the second. -/
theorem writeString_append (writer : Writer) (first second : String) :
    writer.writeString (first ++ second) =
      (writer.writeString first).bind fun writer => writer.writeString second := by
  rw [writeString, utf8Bytes_append, List.foldlM_append]
  rfl

/-- A character in a row with room goes to the bottom row at the current column. -/
theorem writeByte_of_lt (writer : Writer) {byte : UInt8} (notNewline : byte ≠ 0x0a)
    (room : writer.columnPosition < bufferWidth) :
    writer.writeByte byte =
      .ok { writer with columnPosition := writer.columnPosition + 1, buffer := ⟨fun r c =>
        if r.val = bufferHeight - 1 ∧ c.val = writer.columnPosition then
          ⟨byte, writer.colorCode⟩ else writer.buffer.chars r c⟩ } := by
  have notFull : ¬writer.columnPosition ≥ bufferWidth := by omega
  simp only [writeByte, if_neg notNewline, if_neg notFull, bind, Except.bind, pure,
    Except.pure, Buffer.write_of_lt _ ⟨(show bufferHeight - 1 < bufferHeight by decide), room⟩]

/-- A character that finds the bottom row full starts a new line and goes to column 0. -/
theorem writeByte_of_full (writer : Writer) {byte : UInt8} (notNewline : byte ≠ 0x0a)
    (full : bufferWidth ≤ writer.columnPosition) :
    writer.writeByte byte =
      .ok { writer with columnPosition := 1, buffer := ⟨fun r c =>
        if r.val = bufferHeight - 1 ∧ c.val = 0 then ⟨byte, writer.colorCode⟩
        else if below : r.val + 1 < bufferHeight then writer.buffer.chars ⟨r.val + 1, below⟩ c
        else ⟨0x20, writer.colorCode⟩⟩ } := by
  simp only [writeByte, if_neg notNewline, ge_iff_le, if_pos full, newLine_eq, bind,
    Except.bind, pure, Except.pure,
    Buffer.write_of_lt _ ⟨(show bufferHeight - 1 < bufferHeight by decide),
      (show 0 < bufferWidth by decide)⟩]

/-- `write_byte` returns from every writer state, also from one whose column is past the end
of the row, and leaves the column at most 80. -/
theorem writeByte_bounded (writer : Writer) (byte : UInt8) :
    ∃ next, writer.writeByte byte = .ok next ∧ next.columnPosition ≤ bufferWidth := by
  by_cases newline : byte = 0x0a
  · rw [newline, writeByte_newline, newLine_eq]
    exact ⟨_, rfl, Nat.zero_le _⟩
  · by_cases room : writer.columnPosition < bufferWidth
    · rw [writeByte_of_lt _ newline room]
      exact ⟨_, rfl, room⟩
    · rw [writeByte_of_full _ newline (Nat.le_of_not_lt room)]
      exact ⟨_, rfl, Nat.one_le_of_lt (show 0 < bufferWidth by decide)⟩

end Writer

end OsByRust
