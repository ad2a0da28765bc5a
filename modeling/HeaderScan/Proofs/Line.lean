import Mathlib.Data.List.DropRight
import HeaderScan.Proofs.Cursor.Forward

namespace HeaderScan

/-!
Lines, read one after the other up to the end of the file.

What is left of a source falls into pieces between its line feeds, and each piece comes out as one
token.  The carriage returns at the end of a piece are no part of its token; all others are.

Each line is counted when its line feed is passed.  A caller may have set a line from which the
line feeds ahead cannot be counted, and then there is a line behind which nothing is seen any more.
-/

/-! ## Pieces -/

namespace Text

variable {text front : List Char}

/-- The pieces of a text between its line feeds.  Behind the last line feed there is no piece if
there is no text. -/
def pieces (text : List Char) : List (List Char) :=
  if (text.splitOn '\n').getLast? = some [] then (text.splitOn '\n').dropLast
  else text.splitOn '\n'

@[simp]
theorem pieces_nil : pieces [] = [] :=
  rfl

theorem pieces_of_not_mem (nonempty : text ≠ []) (noFeed : '\n' ∉ text) : pieces text = [text] := by
  simp [pieces, List.splitOn_eq_singleton noFeed, nonempty]

theorem pieces_append (noFeed : '\n' ∉ front) (back : List Char) :
    pieces (front ++ '\n' :: back) = front :: pieces back := by
  have nonempty := List.splitOn_ne_nil '\n' back
  unfold pieces
  rw [List.splitOn_append_cons_self_of_not_mem noFeed, List.getLast?_cons_of_ne_nil nonempty,
    List.dropLast_cons_of_ne_nil nonempty]
  split <;> rfl

theorem takeWhile_of_feed (noFeed : '\n' ∉ front) (back : List Char) :
    (front ++ '\n' :: back).takeWhile (· != '\n') = front := by
  rw [List.takeWhile_append_of_pos fun c member =>
    bne_iff_ne.mpr (ne_of_mem_of_not_mem member noFeed)]
  simp

theorem takeWhile_of_noFeed (noFeed : '\n' ∉ text) : text.takeWhile (· != '\n') = text :=
  List.takeWhile_eq_self_iff.mpr fun _ member =>
    bne_iff_ne.mpr (ne_of_mem_of_not_mem member noFeed)

/-- The line that a text begins with is its first piece. -/
theorem pieces_of_ne_nil (nonempty : text ≠ []) :
    pieces text = text.takeWhile (· != '\n') ::
      pieces (text.drop ((text.takeWhile (· != '\n')).length + 1)) := by
  by_cases feeds : '\n' ∈ text
  · rcases List.eq_append_cons_of_mem feeds with ⟨piece, back, rfl, noFeed⟩
    rw [takeWhile_of_feed noFeed, pieces_append noFeed]
    simp
  · rw [takeWhile_of_noFeed feeds, pieces_of_not_mem nonempty feeds,
      List.drop_eq_nil_of_le (Nat.le_succ _), pieces_nil]

/-- No piece holds a line feed. -/
theorem notMem_of_mem_pieces {piece : List Char} (isPiece : piece ∈ pieces text) :
    '\n' ∉ piece := by
  induction size : text.length using Nat.strong_induction_on generalizing text with
  | _ size inductionHypothesis =>
  subst size
  by_cases empty : text = []
  · rw [empty] at isPiece
    cases isPiece
  · have positive := List.length_pos_iff.mpr empty
    rw [pieces_of_ne_nil empty] at isPiece
    rcases List.mem_cons.mp isPiece with rfl | isLater
    · intro member
      have differs := List.all_eq_true.mp List.all_takeWhile '\n' member
      cases differs
    · refine inductionHypothesis _ ?_ isLater rfl
      rw [List.length_drop]
      omega

end Text

/-! ## One line -/

/-- A token is what a line comes out as: the piece that starts at an offset, without the carriage
returns at its end. -/
structure Token.IsLine (source : List Char) (offset line : Nat) (piece : List Char)
    (token : Token) : Prop where
  kind : token.kind = .line
  text : token.text.toList = piece.rdropWhile (· == '\r')
  start : token.span.start = offset
  slice : Text.slice? source token.span.start token.span.stop = some token.text.toList
  startLine : token.startLine = line
  endLine : token.endLine = line
  unget : token.unget = ⟨offset, line⟩

namespace Cursor

variable {source : List Char} {cursor : Cursor source} {piece back : List Char}

theorem readLine_of_rest_eq_nil (atEnd : cursor.rest = []) :
    cursor.readLine =
      (.atStart .endOfFile (.point cursor.offset) cursor.line cursor.line "", cursor) := by
  simp [readLine_eq, isAtEnd, atEnd]

/-- A piece in front of the end of its line, or of the source, is read as a line. -/
theorem readLine_of_rest_eq (nonempty : cursor.rest ≠ []) (noFeed : '\n' ∉ piece)
    (shape : cursor.rest = piece ++ back) (ends : back = [] ∨ back.head? = some '\n') :
    cursor.readLine.1.IsLine source cursor.offset cursor.line piece ∧
      cursor.readLine.2 = cursor.advance (piece.length + 1) := by
  have isText : cursor.rest.takeWhile (· != '\n') = piece := by
    rcases ends with rfl | ends
    · rw [shape, List.append_nil, Text.takeWhile_of_noFeed noFeed]
    · rcases List.head?_eq_some_iff.mp ends with ⟨later, rfl⟩
      rw [shape, Text.takeWhile_of_feed noFeed]
  have isIndex : cursor.rest.idxOf '\n' = piece.length := by
    rw [shape, List.idxOf_append_of_notMem noFeed]
    rcases ends with rfl | ends
    · rfl
    · rcases List.head?_eq_some_iff.mp ends with ⟨later, rfl⟩
      simp
  have isLine : cursor.lineText = piece.rdropWhile (· == '\r') := by
    rw [lineText_eq, Text.trimmedLine, isText]
    rfl
  have slice := cursor.slice?_passLine
  rw [passLine_offset, ← lineText_eq, isLine] at slice
  have unread : cursor.isAtEnd = false := by simpa [isAtEnd] using nonempty
  rw [readLine_eq, unread, if_neg Bool.false_ne_true, isLine]
  refine ⟨⟨rfl, String.toList_ofList, rfl, ?_, rfl, rfl, rfl⟩, ?_⟩
  · exact slice.trans (congrArg some String.toList_ofList.symm)
  · rw [toLineEnd, bump, advance_advance, isIndex]

theorem readLine_snd_of_rest_ne_nil (unread : cursor.rest ≠ []) :
    cursor.readLine.2 = cursor.advance ((cursor.rest.takeWhile (· != '\n')).length + 1) := by
  have noFeed : '\n' ∉ cursor.rest.takeWhile (· != '\n') :=
    Text.notMem_of_mem_pieces (by rw [Text.pieces_of_ne_nil unread]; exact List.mem_cons_self)
  refine (readLine_of_rest_eq unread noFeed List.takeWhile_append_dropWhile.symm ?_).2
  cases shape : cursor.rest.dropWhile (· != '\n') with
  | nil => exact Or.inl rfl
  | cons c back =>
    have stops := List.head?_dropWhile_not (· != '\n') cursor.rest
    rw [shape] at stops
    simpa using stops

/-- Behind a line the next one starts, or nothing is left. -/
theorem startsLine_readLine (cursor : Cursor source) :
    cursor.readLine.2.rest = [] ∨ cursor.readLine.2.passed.head? = some '\n' := by
  by_cases atEnd : cursor.rest = []
  · rw [readLine_of_rest_eq_nil atEnd]
    exact Or.inl atEnd
  rw [readLine_snd_of_rest_ne_nil atEnd]
  by_cases feeds : '\n' ∈ cursor.rest
  · rcases List.eq_append_cons_of_mem feeds with ⟨piece, back, shape, noFeed⟩
    refine Or.inr ?_
    rw [shape, Text.takeWhile_of_feed noFeed]
    simp [advance, shape, List.take_append]
  · refine Or.inl ?_
    rw [Text.takeWhile_of_noFeed feeds, rest_advance, List.drop_eq_nil_of_le (Nat.le_succ _)]

/-! ## All lines -/

/-- Tokens are the lines of what is left behind a cursor: one for each piece, in their order, each
at the offset behind the pieces before it and on a line of its own. -/
structure AreLines (cursor : Cursor source) (tokens : List Token) : Prop where
  length : tokens.length = (Text.pieces cursor.rest).length
  isLine : ∀ index piece (token : Token), (Text.pieces cursor.rest)[index]? = some piece ->
    tokens[index]? = some token ->
    token.IsLine source
      (cursor.offset + Text.byteLength
        (((Text.pieces cursor.rest).take index).flatMap fun earlier => earlier ++ ['\n']))
      (cursor.line + index) piece

theorem areLines_nil (atEnd : cursor.rest = []) : cursor.AreLines [] where
  length := by simp [atEnd]
  isLine index piece token isPiece isToken := by simp at isToken

/-- The last line has no line feed. -/
theorem areLines_singleton {token : Token} (nonempty : cursor.rest ≠ [])
    (noFeed : '\n' ∉ cursor.rest)
    (isLine : token.IsLine source cursor.offset cursor.line cursor.rest) :
    cursor.AreLines [token] := by
  have isPieces := Text.pieces_of_not_mem nonempty noFeed
  constructor
  · rw [isPieces, List.length_singleton, List.length_singleton]
  · rw [isPieces]
    intro index piece other isPiece isToken
    rcases List.getElem?_eq_some_iff.mp isPiece with ⟨inside, rfl⟩
    rcases Nat.lt_one_iff.mp inside with rfl
    rcases Option.some.inj isToken
    exact isLine

/-- A line that ends stands in front of the lines behind it. -/
theorem AreLines.cons {token : Token} {tokens : List Token} {later : List Char}
    (noFeed : '\n' ∉ piece) (shape : cursor.rest = piece ++ '\n' :: later)
    (isLine : token.IsLine source cursor.offset cursor.line piece)
    (areLines : (cursor.advance (piece.length + 1)).AreLines tokens) :
    cursor.AreLines (token :: tokens) := by
  have isPieces : Text.pieces cursor.rest = piece :: Text.pieces later := by
    rw [shape, Text.pieces_append noFeed]
  have passed : cursor.rest.take (piece.length + 1) = piece ++ ['\n'] := by
    rw [shape, List.append_cons]
    exact List.take_left' List.length_append
  have behind : (cursor.advance (piece.length + 1)).rest = later := by simp [shape]
  have offset : (cursor.advance (piece.length + 1)).offset =
      cursor.offset + Text.byteLength (piece ++ ['\n']) := by
    rw [offset_advance, passed]
  have line : (cursor.advance (piece.length + 1)).line = cursor.line + 1 := by
    rw [line_advance, passed, List.count_append, List.count_eq_zero.mpr noFeed,
      List.count_singleton_self]
  constructor
  · rw [isPieces, List.length_cons, List.length_cons, areLines.length, behind]
  · rw [isPieces]
    intro index other next isOther isNext
    cases index with
    | zero =>
      rcases Option.some.inj isOther
      rcases Option.some.inj isNext
      exact isLine
    | succ index =>
      have isLater := areLines.isLine index other next
      rw [behind, offset, line, Nat.add_assoc, Nat.add_assoc cursor.line,
        ← Text.byteLength_append] at isLater
      rw [List.take_succ_cons, List.flatMap_cons, Nat.add_comm index]
      exact isLater isOther isNext

end Cursor

namespace Scanner

variable {source : List Char}

theorem rewind_readLine (scanner : Scanner source) :
    scanner.readLine.2.rewind = scanner.rewind.withCursor scanner.rewind.cursor.readLine.2 :=
  rewind_of_lookahead_none scanner.lookahead_rewind

/-- Takes lines up to the end of the file, which comes last, if all of them can be counted. -/
def readLines (scanner : Scanner source) : Option (List Token × Scanner source) :=
  let read := scanner.readLine
  if countLimit ≤ read.2.cursor.line then none
  else if _atEnd : read.1.kind = .endOfFile then some ([read.1], read.2)
  else read.2.readLines.map fun later => (read.1 :: later.1, later.2)
termination_by scanner.rewind.cursor.rest.length
decreasing_by
  rw [rewind_readLine]
  refine Cursor.length_rest_readLine_lt (Bool.eq_false_iff.mpr fun atEnd => _atEnd ?_)
  simp [read, readLine, Cursor.readLine, atEnd, Token.atStart]

/-- At the end of the source there is no line but the end of the file. -/
theorem readLines_of_rest_eq_nil {scanner : Scanner source}
    (noLookahead : scanner.lookahead = none) (atEnd : scanner.cursor.rest = []) :
    scanner.readLines =
      if countLimit ≤ scanner.cursor.line then none
      else
        some ([.atStart .endOfFile (.point scanner.cursor.offset) scanner.cursor.line
          scanner.cursor.line ""], scanner) := by
  have read : scanner.readLine =
      (.atStart .endOfFile (.point scanner.cursor.offset) scanner.cursor.line scanner.cursor.line
        "", scanner) := by
    rw [readLine, rewind_of_lookahead_none noLookahead, Cursor.readLine_of_rest_eq_nil atEnd]
    rfl
  rw [readLines, read]
  rfl

/-- A piece comes out first, and what is behind it follows. -/
theorem readLines_of_rest_eq {scanner : Scanner source} (noLookahead : scanner.lookahead = none)
    {piece back : List Char} (nonempty : scanner.cursor.rest ≠ []) (noFeed : '\n' ∉ piece)
    (shape : scanner.cursor.rest = piece ++ back) (ends : back = [] ∨ back.head? = some '\n')
    {behind : Cursor source} (isBehind : scanner.cursor.advance (piece.length + 1) = behind) :
    ∃ token : Token, token.IsLine source scanner.cursor.offset scanner.cursor.line piece ∧
      scanner.readLines =
        if countLimit ≤ behind.line then none
        else
          (scanner.withCursor behind).readLines.map fun later => (token :: later.1, later.2) := by
  rcases Cursor.readLine_of_rest_eq nonempty noFeed shape ends with ⟨isLine, isCursor⟩
  have read : scanner.readLine = (scanner.cursor.readLine.1, scanner.withCursor behind) := by
    rw [readLine, rewind_of_lookahead_none noLookahead, ← isBehind, ← isCursor]
  refine ⟨_, isLine, ?_⟩
  have notEnd : scanner.cursor.readLine.1.kind ≠ .endOfFile := by
    rw [isLine.kind]
    exact TokenKind.noConfusion
  rw [readLines, read]
  simp only [notEnd, dif_neg, not_false_eq_true]
  rfl

/-- Without lookahead, and with room to count them, the lines of a source are the pieces of what is
left of it, and behind them comes the end of the file.  Nothing but the cursor changes. -/
theorem readLines_eq (scanner : Scanner source) (noLookahead : scanner.lookahead = none)
    (hasRoom : scanner.cursor.HasRoom) :
    let last := scanner.cursor.toEnd
    ∃ tokens, scanner.cursor.AreLines tokens ∧
      scanner.readLines = some
        (tokens ++ [.atStart .endOfFile (.point (Text.byteLength source)) last.line last.line ""],
          scanner.withCursor last) := by
  induction size : scanner.cursor.rest.length using Nat.strong_induction_on
    generalizing scanner with
  | _ size inductionHypothesis =>
  subst size
  by_cases atEnd : scanner.cursor.rest = []
  · have isEnd : scanner.cursor = scanner.cursor.toEnd := by
      rw [Cursor.toEnd, atEnd, List.length_nil, Cursor.advance_zero]
    refine ⟨[], Cursor.areLines_nil atEnd, ?_⟩
    rw [readLines_of_rest_eq_nil noLookahead atEnd, if_neg (Nat.not_le.mpr hasRoom.line_lt),
      Cursor.offset_of_rest_eq_nil atEnd, ← isEnd]
    rfl
  by_cases feeds : '\n' ∈ scanner.cursor.rest
  · rcases List.eq_append_cons_of_mem feeds with ⟨piece, later, shape, noFeed⟩
    rcases readLines_of_rest_eq noLookahead atEnd noFeed shape (Or.inr rfl) rfl with
      ⟨token, isLine, read⟩
    have behind : (scanner.cursor.advance (piece.length + 1)).rest = later := by simp [shape]
    have stillRoom : (scanner.cursor.advance (piece.length + 1)).HasRoom :=
      Cursor.hasRoom_advance_iff.mpr hasRoom
    have shorter : later.length < scanner.cursor.rest.length := by
      rw [shape, List.length_append, List.length_cons]
      omega
    rcases inductionHypothesis _ shorter
      (scanner.withCursor (scanner.cursor.advance (piece.length + 1))) noLookahead stillRoom
      (congrArg List.length behind) with ⟨tokens, areLines, others⟩
    refine ⟨token :: tokens, areLines.cons noFeed shape isLine, ?_⟩
    rw [read, if_neg (Nat.not_le.mpr stillRoom.line_lt), others, Option.map_some]
    simp only [withCursor, Cursor.toEnd_advance, List.cons_append]
  · have isEnd := Cursor.advance_of_length_le (Nat.le_succ scanner.cursor.rest.length)
    rcases readLines_of_rest_eq noLookahead atEnd feeds (List.append_nil _).symm (Or.inl rfl)
      isEnd with ⟨token, isLine, read⟩
    have behind : scanner.cursor.toEnd.rest = [] := by simp [Cursor.toEnd]
    have stillRoom : scanner.cursor.toEnd.HasRoom := Cursor.hasRoom_advance_iff.mpr hasRoom
    have counts := Nat.not_le.mpr stillRoom.line_lt
    have others := readLines_of_rest_eq_nil
      (show (scanner.withCursor scanner.cursor.toEnd).lookahead = none from noLookahead) behind
    refine ⟨[token], Cursor.areLines_singleton atEnd feeds isLine, ?_⟩
    rw [read, if_neg counts, others.trans (if_neg counts), Option.map_some]
    simp only [withCursor, Cursor.offset_of_rest_eq_nil behind, List.singleton_append]

/-- A text with carriage returns within and at the end of a line, an empty line, and a last line
without a line feed. -/
theorem readLines_eq_threeLines :
    let scanner := ofSource "a\rb\r\r\n\n\rc\r".toList
    let last := scanner.cursor.toEnd
    scanner.lookahead = none ∧ scanner.cursor.HasRoom ∧
      ∃ tokens, scanner.cursor.AreLines tokens ∧
        scanner.readLines = some
          (tokens ++ [.atStart .endOfFile
            (.point (Text.byteLength "a\rb\r\r\n\n\rc\r".toList)) last.line last.line ""],
            scanner.withCursor last) := by
  intro scanner last
  have hasRoom : scanner.cursor.HasRoom := by decide +kernel
  exact ⟨rfl, hasRoom, scanner.readLines_eq rfl hasRoom⟩

/-- Without room for all lines there is one behind which nothing is seen. -/
theorem readLines_eq_none {scanner : Scanner source} (noLookahead : scanner.lookahead = none)
    (noRoom : ¬ scanner.cursor.HasRoom) : scanner.readLines = none := by
  fun_induction readLines scanner with
  | case1 scanner read past => rfl
  | case2 scanner read counts atEnd =>
    have isRead : read = scanner.readLine := rfl
    rw [isRead, readLine, rewind_of_lookahead_none noLookahead] at counts atEnd
    by_cases nothing : scanner.cursor.rest = []
    · rw [Cursor.readLine_of_rest_eq_nil nothing] at counts
      refine absurd ?_ noRoom
      rw [Cursor.HasRoom, nothing]
      exact Nat.not_le.mp counts
    · have unread : scanner.cursor.isAtEnd = false := by simpa [Cursor.isAtEnd] using nothing
      rw [Cursor.readLine_eq, unread] at atEnd
      cases atEnd
  | case3 scanner read counts notEnd inductionHypothesis =>
    have behind : read.2.cursor = scanner.cursor.readLine.2 :=
      congrArg (·.cursor.readLine.2) (rewind_of_lookahead_none noLookahead)
    rcases scanner.cursor.precedes_readLine with ⟨count, moved⟩
    have stillNoRoom : ¬ read.2.cursor.HasRoom := by
      rw [behind, ← moved, Cursor.hasRoom_advance_iff]
      exact noRoom
    rw [inductionHypothesis scanner.lookahead_rewind stillNoRoom]
    rfl

/-- The line that is set is the last that can be counted, and a line feed is ahead. -/
theorem readLines_eq_none_behind_withLine :
    let scanner := (ofSource "a\nb".toList).withLine 4294967295
    let last := scanner.cursor.toEnd
    scanner.lookahead = none ∧
      ¬ ∃ tokens, scanner.cursor.AreLines tokens ∧
        scanner.readLines = some
          (tokens ++ [.atStart .endOfFile (.point (Text.byteLength "a\nb".toList)) last.line
            last.line ""],
            scanner.withCursor last) := by
  intro scanner last
  have noRoom : ¬ scanner.cursor.HasRoom := by decide +kernel
  refine ⟨rfl, ?_⟩
  rintro ⟨tokens, -, read⟩
  rw [readLines_eq_none rfl noRoom] at read
  cases read

end Scanner
end HeaderScan
