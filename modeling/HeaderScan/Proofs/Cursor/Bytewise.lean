import Mathlib.Order.Bounds.Image
import HeaderScan.Proofs.Text.Encoding
import HeaderScan.Trivia

namespace HeaderScan

/-!
Moving by bytes.

A cursor moves over characters.  Here the same is done by someone who has no more than an offset and
a line, and sees the bytes of the source: a character is passed by as many bytes as its first byte
announces, and to the end of a line or of a block comment leads a search among the bytes that are
left.  At the position of a cursor every such operation leads where the cursor is led, so that in
particular the searches come to the same as going on character by character:
`Cursor.passesAtOnce`.
-/

/-! ## Searches -/

/-- Ways to search among bytes: for the first place of a byte, for all of its places, and for the
first place of several bytes in a row. -/
structure ByteSearch where
  first? : UInt8 → List UInt8 → Option Nat
  all : UInt8 → List UInt8 → List Nat
  firstPiece? : List UInt8 → List UInt8 → Option Nat

/-- The searches find what they are said to find. -/
structure ByteSearch.IsRight (search : ByteSearch) : Prop where
  first? : ∀ byte bytes, search.first? byte bytes = bytes.idxOf? byte
  all : ∀ byte bytes, search.all byte bytes = bytes.idxsOf byte
  firstPiece? : ∀ piece bytes distance, search.firstPiece? piece bytes = some distance ↔
    IsLeast {distance | piece <+: bytes.drop distance} distance

/-- Looking at one place after the other. -/
def ByteSearch.linear : ByteSearch where
  first? byte bytes := bytes.idxOf? byte
  all byte bytes := bytes.idxsOf byte
  firstPiece? piece bytes :=
    (List.range (bytes.length + 1)).find? fun distance => piece.isPrefixOf (bytes.drop distance)

theorem ByteSearch.isRight_linear : linear.IsRight where
  first? _ _ := rfl
  all _ _ := rfl
  firstPiece? piece bytes distance := by
    simp only [linear, List.find?_range_eq_some, List.isPrefixOf_iff_prefix, List.mem_range,
      Bool.not_eq_true', Bool.eq_false_iff, ne_eq]
    constructor
    · rintro ⟨stands, -, first⟩
      exact ⟨stands, fun other standsThere => Nat.not_lt.mp fun isLess =>
        first other isLess standsThere⟩
    · rintro ⟨stands, least⟩
      refine ⟨stands, ?_, fun other isLess standsThere => ?_⟩
      · -- Behind the last byte stands no more than at it.
        by_contra outside
        have isEmpty : bytes.drop distance = [] := List.drop_eq_nil_of_le (by omega)
        have standsAtEnd : piece <+: bytes.drop bytes.length := by
          rw [List.drop_length, ← isEmpty]
          exact stands
        have := least standsAtEnd
        omega
      · exact Nat.not_lt.mpr (least standsThere) isLess

namespace Bytewise

/-! ## Operations on an offset and a line -/

variable (source : List Char)

/-- The byte at an offset, zero past the end. -/
def byteAt (offset : Nat) : UInt8 :=
  ((Text.bytes source)[offset]?).getD 0

def isAtEnd (position : Position) : Bool :=
  decide (Text.byteLength source ≤ position.offset)

/-- Passes as many bytes as the first one announces. -/
def bump (position : Position) : Position :=
  if isAtEnd source position then position
  else
    ⟨min (position.offset + Text.sequenceWidth (byteAt source position.offset))
        (Text.byteLength source),
      if byteAt source position.offset = 0x0A then position.line + 1 else position.line⟩

/-- The next character, NUL at the end; there is none if the source cannot be cut here. -/
def currentChar? (position : Position) : Option Char :=
  (Text.splitAt? source position.offset).map fun (_, back) => back.head?.getD '\x00'

/-- Goes back over the character that ends here, if the source can be cut here. -/
def stepBack? (position : Position) : Option Position :=
  (Text.splitAt? source position.offset).map fun (front, _) =>
    match front.getLast? with
    | none => position
    | some c =>
      ⟨position.offset - c.utf8Size,
        if c = '\n' then max (position.line - 1) 1 else position.line⟩

def eatByte (byte : UInt8) (position : Position) : Bool × Position :=
  if !isAtEnd source position && byteAt source position.offset == byte then
    (true, bump source position)
  else (false, position)

/-- Every byte announces at least one. -/
theorem sequenceWidth_pos (byte : UInt8) : 0 < Text.sequenceWidth byte := by
  unfold Text.sequenceWidth
  split_ifs <;> decide

theorem offset_lt_bump {position : Position} (unread : isAtEnd source position = false) :
    position.offset < (bump source position).offset := by
  have positive := sequenceWidth_pos (byteAt source position.offset)
  have inside : ¬ Text.byteLength source ≤ position.offset := by simpa [isAtEnd] using unread
  rw [bump, unread, if_neg Bool.false_ne_true]
  simp only [Nat.lt_min]
  omega

/-- What is left is less behind a character. -/
private theorem left_bump_lt {position : Position} (unread : ¬ isAtEnd source position = true) :
    Text.byteLength source - (bump source position).offset <
      Text.byteLength source - position.offset := by
  have moved := offset_lt_bump source (Bool.eq_false_iff.mpr unread)
  have inside : ¬ Text.byteLength source ≤ position.offset := by simpa [isAtEnd] using unread
  omega

/-- Passes characters one by one as long as they are in a class, and says how many. -/
def eatWhile? (inClass : Char → Bool) (position : Position) : Option (Nat × Position) :=
  if _atEnd : isAtEnd source position then some (0, position)
  else
    match currentChar? source position with
    | none => none
    | some c =>
      if inClass c then
        (eatWhile? inClass (bump source position)).map fun (count, last) => (count + 1, last)
      else some (0, position)
termination_by Text.byteLength source - position.offset
decreasing_by exact left_bump_lt source _atEnd

/-- Goes on to the line feed that is found first, or to the end. -/
def toLineEnd (search : ByteSearch) (position : Position) : Position :=
  match search.first? 0x0A ((Text.bytes source).drop position.offset) with
  | some distance => { position with offset := position.offset + distance }
  | none => { position with offset := Text.byteLength source }

/-- How many bytes belong to the inside of a block comment, the mark that closes it among them, and
whether there is one. -/
def blockLength (search : ByteSearch) (bytes : List UInt8) : Bool × Nat :=
  match search.firstPiece? [0x2A, 0x2F] bytes with
  | some distance => (true, distance + 2)
  | none => (false, bytes.length)

/-- Goes on behind the mark that closes a block comment, or to the end, and counts the line feeds
among all bytes that are passed. -/
def eatBlockBody (search : ByteSearch) (position : Position) : Bool × Position :=
  let left := (Text.bytes source).drop position.offset
  let (closed, passed) := blockLength search left
  (closed,
    ⟨position.offset + passed, position.line + (search.all 0x0A (left.take passed)).length⟩)

/-- Passes characters one by one until an asterisk and a slash behind it are passed, or everything
is, and says whether they were found. -/
def bumpPastMark (position : Position) : Bool × Position :=
  if _atEnd : isAtEnd source position then (false, position)
  else if byteAt source position.offset == 0x2A && byteAt source (position.offset + 1) == 0x2F then
    (true, bump source (bump source position))
  else bumpPastMark (bump source position)
termination_by Text.byteLength source - position.offset
decreasing_by exact left_bump_lt source _atEnd

end Bytewise

/-! ## The bytes around a cursor -/

namespace Cursor

variable {source : List Char} (cursor : Cursor source)

/-- The same on a cursor: passes characters one by one until the mark that closes a block comment is
passed. -/
def bumpPastMark (cursor : Cursor source) : Bool × Cursor source :=
  match _shape : cursor.rest with
  | [] => (false, cursor)
  | '*' :: '/' :: _ => (true, cursor.bump.bump)
  | _ :: _ => cursor.bump.bumpPastMark
termination_by cursor.rest.length
decreasing_by simp [bump, advance, _shape]

/-- The bytes ahead of the cursor are those of the characters ahead of it. -/
theorem drop_bytes : (Text.bytes source).drop cursor.offset = Text.bytes cursor.rest := by
  have whole : Text.bytes source = Text.bytes cursor.passed.reverse ++ Text.bytes cursor.rest := by
    rw [← Text.bytes_append, cursor.passed_append_rest]
  have isFront : (Text.bytes cursor.passed.reverse).length = cursor.offset := by
    rw [Text.length_bytes, Text.byteLength_reverse]
    exact cursor.offset_eq.symm
  rw [whole, ← isFront, List.drop_left]

theorem byteAt_offset_add (distance : Nat) :
    Bytewise.byteAt source (cursor.offset + distance) =
      ((Text.bytes cursor.rest)[distance]?).getD 0 := by
  rw [Bytewise.byteAt, ← drop_bytes, List.getElem?_drop]

/-- A byte ahead of the cursor is found among the first characters, as many as it is far. -/
theorem byteAt_offset (distance : Nat) :
    Bytewise.byteAt source (cursor.offset + distance) = cursor.byteAhead distance := by
  have enough : distance < (Text.bytes (cursor.rest.take (distance + 1))).length ∨
      cursor.rest.take (distance + 1) = cursor.rest := by
    rcases Nat.lt_or_ge distance cursor.rest.length with short | long
    · left
      rw [Text.length_bytes]
      have atLeast := Text.length_le_byteLength (cursor.rest.take (distance + 1))
      rw [List.length_take_of_le short] at atLeast
      exact atLeast
    · right
      exact List.take_of_length_le (by omega)
  rw [byteAt_offset_add, byteAhead]
  rcases enough with within | whole
  · have cut : Text.bytes cursor.rest = Text.bytes (cursor.rest.take (distance + 1)) ++
        Text.bytes (cursor.rest.drop (distance + 1)) := by
      rw [← Text.bytes_append, List.take_append_drop]
    rw [cut, List.getElem?_append_left within]
  · rw [whole]

theorem rest_toEnd : cursor.toEnd.rest = [] := by
  rw [toEnd, rest_advance]
  exact List.drop_length

theorem isAtEnd_position : Bytewise.isAtEnd source cursor.position = cursor.isAtEnd := by
  rw [Bytewise.isAtEnd, isAtEnd, position]
  by_cases atEnd : cursor.rest = []
  · simp [atEnd, offset_of_rest_eq_nil atEnd]
  · have inside := offset_lt_of_rest_ne_nil atEnd
    have unread : cursor.rest.isEmpty = false := by simpa using atEnd
    simp [inside, unread]

theorem splitAt?_position :
    Text.splitAt? source cursor.position.offset = some (cursor.passed.reverse, cursor.rest) :=
  cursor.splitAt?_offset

theorem currentChar?_position :
    Bytewise.currentChar? source cursor.position = some cursor.currentChar := by
  rw [Bytewise.currentChar?, splitAt?_position]
  rfl

/-! ## One character -/

section

variable {cursor} {c : Char} {later : List Char} {first : UInt8} {others : List UInt8}

theorem byteAt_of_isEncoded (shape : cursor.rest = c :: later)
    (encoded : Text.IsEncoded c first others) :
    Bytewise.byteAt source cursor.offset = first := by
  rw [← Nat.add_zero cursor.offset, byteAt_offset_add, shape, Text.bytes_cons encoded]
  rfl

theorem isAtEnd_of_rest_eq_nil (atEnd : cursor.rest = []) : cursor.isAtEnd = true := by
  rw [isAtEnd, atEnd]
  rfl

theorem isAtEnd_of_rest_eq_cons (shape : cursor.rest = c :: later) : cursor.isAtEnd = false := by
  rw [isAtEnd, shape]
  rfl

theorem currentChar_of_rest_eq_cons (shape : cursor.rest = c :: later) :
    cursor.currentChar = c := by
  rw [currentChar, shape]
  rfl

theorem rest_bump (shape : cursor.rest = c :: later) : cursor.bump.rest = later := by
  rw [bump, rest_advance, shape]
  rfl

theorem position_bump (shape : cursor.rest = c :: later) :
    cursor.bump.position =
      ⟨cursor.offset + c.utf8Size, if c = '\n' then cursor.line + 1 else cursor.line⟩ := by
  rw [bump, position, offset_advance, line_advance, shape]
  simp only [List.take_succ_cons, List.take_zero, Text.byteLength_cons, Text.byteLength_nil,
    Nat.add_zero, List.count_singleton, beq_iff_eq, Position.mk.injEq, true_and]
  split <;> rfl

end

theorem bump_position : Bytewise.bump source cursor.position = cursor.bump.position := by
  rw [Bytewise.bump, isAtEnd_position]
  cases shape : cursor.rest with
  | nil =>
    have stays : cursor.bump = cursor := by
      rw [bump, advance_of_length_le (by simp [shape]), toEnd, shape]
      exact cursor.advance_zero
    rw [isAtEnd_of_rest_eq_nil shape, if_pos rfl, stays]
  | cons c later =>
    rcases Text.exists_isEncoded c with ⟨first, others, encoded⟩
    have isFirst : Bytewise.byteAt source cursor.position.offset = first :=
      byteAt_of_isEncoded shape encoded
    have fits : cursor.position.offset + c.utf8Size ≤ Text.byteLength source := by
      have whole := congrArg Text.byteLength cursor.passed_append_rest
      rw [Text.byteLength_append, Text.byteLength_reverse, ← cursor.offset_eq, shape,
        Text.byteLength_cons] at whole
      change cursor.offset + _ ≤ _
      omega
    have isFeed : first = 0x0A ↔ c = '\n' := encoded.first_eq_iff rfl (by decide)
    rw [isAtEnd_of_rest_eq_cons shape, if_neg Bool.false_ne_true, isFirst, encoded.width,
      ← encoded.size, Nat.min_eq_left fits, position_bump shape]
    simp only [isFeed]
    rfl

theorem stepBack?_position :
    Bytewise.stepBack? source cursor.position = some cursor.stepBack.position := by
  rw [Bytewise.stepBack?, splitAt?_position, Option.map_some]
  simp only [List.getLast?_reverse]
  rcases cursor with ⟨passed, rest, offset, line, whole, size⟩
  cases passed <;> rfl

theorem eatByte_position (byte : UInt8) :
    Bytewise.eatByte source byte cursor.position =
      ((cursor.eatByte byte).1, (cursor.eatByte byte).2.position) := by
  have isByte : Bytewise.byteAt source cursor.position.offset = cursor.byteAhead 0 :=
    cursor.byteAt_offset 0
  rw [Bytewise.eatByte, isAtEnd_position, isByte, bump_position, eatByte]
  split <;> rfl

/-! ## Character by character -/

theorem eatWhile?_of_rest_eq_cons {cursor : Cursor source} {c : Char} {later : List Char}
    (shape : cursor.rest = c :: later) (inClass : Char → Bool) :
    Bytewise.eatWhile? source inClass cursor.position =
      if inClass c then
        (Bytewise.eatWhile? source inClass cursor.bump.position).map fun (count, last) =>
          (count + 1, last)
      else some (0, cursor.position) := by
  rw [Bytewise.eatWhile?, isAtEnd_position, isAtEnd_of_rest_eq_cons shape,
    dif_neg Bool.false_ne_true, currentChar?_position, currentChar_of_rest_eq_cons shape,
    bump_position]

theorem eatWhile?_position (inClass : Char → Bool) :
    Bytewise.eatWhile? source inClass cursor.position =
      some ((cursor.eatWhile inClass).1, (cursor.eatWhile inClass).2.position) := by
  fun_induction cursor.eatWhile inClass with
  | case1 cursor atEnd =>
    rw [Bytewise.eatWhile?, isAtEnd_position, isAtEnd_of_rest_eq_nil atEnd, dif_pos rfl]
  | case2 cursor c later shape inside count last passed inductionHypothesis =>
    rw [eatWhile?_of_rest_eq_cons shape, if_pos inside, inductionHypothesis, passed]
    rfl
  | case3 cursor c later shape outside => rw [eatWhile?_of_rest_eq_cons shape, if_neg outside]

/-- Going on character by character leads to the end of the line. -/
theorem eatWhile_eq_toLineEnd : (cursor.eatWhile (· != '\n')).2 = cursor.toLineEnd := by
  have isIndex : (cursor.rest.takeWhile (· != '\n')).length = cursor.rest.idxOf '\n' := by
    rw [List.takeWhile_eq_take_findIdx_not, List.length_take_of_le List.findIdx_le_length]
    simp only [List.idxOf, bne, Bool.not_not]
  rw [eatWhile_eq_advance, toLineEnd, isIndex]

theorem line_toLineEnd : cursor.toLineEnd.line = cursor.line := by
  have noFeed : (cursor.rest.takeWhile (· != '\n')).count '\n' = 0 := by
    rw [List.count_eq_zero]
    intro member
    cases List.all_eq_true.mp List.all_takeWhile '\n' member
  rw [← eatWhile_eq_toLineEnd, eatWhile_eq_advance, line_advance,
    ← List.prefix_iff_eq_take.mp (List.takeWhile_prefix _), noFeed, Nat.add_zero]

/-- The inside of a block comment, or everything if it is never closed. -/
theorem eatBlockBody_eq : cursor.eatBlockBody =
    ((TriviaItem.blockBody? cursor.rest).isSome,
      cursor.advance ((TriviaItem.blockBody? cursor.rest).getD cursor.rest).length) := by
  rw [eatBlockBody]
  cases TriviaItem.blockBody? cursor.rest <;> rfl

/-- Passing characters one by one until the mark is passed comes to passing the inside of a block
comment at once. -/
theorem bumpPastMark_eq_eatBlockBody : cursor.bumpPastMark = cursor.eatBlockBody := by
  fun_induction bumpPastMark cursor with
  | case1 cursor atEnd =>
    rw [eatBlockBody_eq, atEnd]
    exact congrArg _ cursor.advance_zero.symm
  | case2 cursor later shape =>
    rw [eatBlockBody_eq, shape, bump, bump, advance_advance]
    rfl
  | case3 cursor c later noMark shape inductionHypothesis =>
    rw [inductionHypothesis, eatBlockBody_eq, eatBlockBody_eq, rest_bump shape, shape,
      TriviaItem.blockBody?.eq_3 c later noMark, bump, advance_advance, Option.isSome_map]
    cases TriviaItem.blockBody? later with
    | none => simp [Nat.add_comm]
    | some body => simp [Nat.add_comm]

end Cursor

/-! ## The mark that closes a block comment -/

namespace Text

/-- The places among the bytes of a text where an asterisk and a slash stand. -/
def closings (text : List Char) : Set Nat :=
  {distance | [0x2A, 0x2F] <+: (bytes text).drop distance}

theorem zero_mem_closings_iff {text : List Char} :
    0 ∈ closings text ↔ ∃ later, text = '*' :: '/' :: later := by
  have isAsterisk : (0x2A : UInt8).toNat = '*'.toNat := rfl
  have isSlash : (0x2F : UInt8).toNat = '/'.toNat := rfl
  change [0x2A, 0x2F] <+: bytes text ↔ _
  rw [cons_isPrefix_bytes_iff isAsterisk (by decide)]
  constructor
  · rintro ⟨behind, rfl, stands⟩
    rcases (cons_isPrefix_bytes_iff isSlash (by decide)).mp stands with ⟨later, rfl, _⟩
    exact ⟨later, rfl⟩
  · rintro ⟨later, rfl⟩
    exact ⟨_, rfl, (cons_isPrefix_bytes_iff isSlash (by decide)).mpr
      ⟨later, rfl, List.nil_prefix⟩⟩

theorem zero_notMem_closings {c : Char} {later : List Char}
    (noMark : ∀ behind, c = '*' -> later = '/' :: behind -> False) :
    0 ∉ closings (c :: later) := by
  intro stands
  rcases zero_mem_closings_iff.mp stands with ⟨behind, shape⟩
  rcases List.cons.inj shape with ⟨isAsterisk, isSlash⟩
  exact noMark behind isAsterisk isSlash

/-- The bytes of the mark are low, so no place of the mark is within a character. -/
theorem closings_cons {c : Char} {later : List Char} (noMark : 0 ∉ closings (c :: later)) :
    closings (c :: later) = (c.utf8Size + ·) '' closings later := by
  rcases exists_isEncoded c with ⟨first, others, encoded⟩
  have behind : ∀ distance, (bytes (c :: later)).drop (c.utf8Size + distance) =
      (bytes later).drop distance := by
    intro distance
    have isSize : c.utf8Size = (first :: others).length := encoded.size
    rw [bytes_cons encoded, ← List.cons_append, isSize, List.drop_length_add_append]
  ext distance
  constructor
  · intro stands
    have outside : c.utf8Size ≤ distance := by
      -- A place within the character would make an asterisk of one of its other bytes.
      by_contra within
      rw [encoded.size] at within
      cases distance with
      | zero => exact noMark stands
      | succ distance =>
        have isInside : distance < others.length := by omega
        change [0x2A, 0x2F] <+: (bytes (c :: later)).drop (distance + 1) at stands
        rw [bytes_cons encoded, List.drop_succ_cons, List.drop_append_of_le_length isInside.le,
          List.drop_eq_getElem_cons isInside, List.cons_append, List.cons_prefix_cons] at stands
        exact encoded.notMem_others (by decide) (stands.1 ▸ List.getElem_mem isInside)
    refine ⟨distance - c.utf8Size, ?_, Nat.add_sub_cancel' outside⟩
    change _ <+: _
    rw [← behind, Nat.add_sub_cancel' outside]
    exact stands
  · rintro ⟨distance, stands, rfl⟩
    change _ <+: _
    rw [behind]
    exact stands

/-- The inside of a block comment ends at the first mark. -/
theorem isLeast_closings {text body : List Char} (found : TriviaItem.blockBody? text = some body) :
    ∃ distance, byteLength body = distance + 2 ∧ IsLeast (closings text) distance := by
  fun_induction TriviaItem.blockBody? text generalizing body with
  | case1 => cases found
  | case2 later =>
    rcases Option.some.inj found with rfl
    exact ⟨0, rfl, zero_mem_closings_iff.mpr ⟨later, rfl⟩, fun _ _ => Nat.zero_le _⟩
  | case3 c later noMark inductionHypothesis =>
    rcases Option.map_eq_some_iff.mp found with ⟨inner, isInner, rfl⟩
    rcases inductionHypothesis isInner with ⟨distance, size, isLeast⟩
    refine ⟨c.utf8Size + distance, ?_, ?_⟩
    · rw [byteLength_cons, size, Nat.add_assoc]
    · rw [closings_cons (zero_notMem_closings noMark)]
      exact Monotone.map_isLeast (fun _ _ ordered => Nat.add_le_add_left ordered _) isLeast

/-- If there is no inside of a block comment, there is no mark. -/
theorem closings_eq_empty {text : List Char} (absent : TriviaItem.blockBody? text = none) :
    closings text = ∅ := by
  fun_induction TriviaItem.blockBody? text with
  | case1 =>
    refine Set.eq_empty_of_forall_notMem fun distance stands => ?_
    have isEmpty : bytes [] = [] := rfl
    change _ <+: _ at stands
    rw [isEmpty, List.drop_nil, List.prefix_nil] at stands
    cases stands
  | case2 => cases absent
  | case3 c later noMark inductionHypothesis =>
    rw [closings_cons (zero_notMem_closings noMark),
      inductionHypothesis (Option.map_eq_none_iff.mp absent), Set.image_empty]

end Text

/-! ## Led by a search -/

section

variable {search : ByteSearch}

theorem Bytewise.blockLength_bytes (isRight : search.IsRight) (text : List Char) :
    Bytewise.blockLength search (Text.bytes text) =
      ((TriviaItem.blockBody? text).isSome,
        Text.byteLength ((TriviaItem.blockBody? text).getD text)) := by
  rw [Bytewise.blockLength]
  cases shape : TriviaItem.blockBody? text with
  | none =>
    have absent : search.firstPiece? [0x2A, 0x2F] (Text.bytes text) = none := by
      refine Option.eq_none_iff_forall_ne_some.mpr fun distance found => ?_
      have stands : distance ∈ Text.closings text :=
        ((isRight.firstPiece? _ _ _).mp found).1
      rw [Text.closings_eq_empty shape] at stands
      exact stands
    rw [absent]
    exact congrArg _ (Text.length_bytes text)
  | some body =>
    rcases Text.isLeast_closings shape with ⟨distance, size, isLeast⟩
    have found : search.firstPiece? [0x2A, 0x2F] (Text.bytes text) = some distance :=
      (isRight.firstPiece? _ _ _).mpr isLeast
    rw [found, Option.getD_some, size]
    rfl

namespace Cursor

variable {source : List Char}

theorem toLineEnd_position (isRight : search.IsRight) (cursor : Cursor source) :
    Bytewise.toLineEnd source search cursor.position = cursor.toLineEnd.position := by
  have sameLine : cursor.toLineEnd.position = ⟨cursor.toLineEnd.offset, cursor.line⟩ :=
    congrArg _ cursor.line_toLineEnd
  have isOffset : cursor.position.offset = cursor.offset := rfl
  have isFeed : (0x0A : UInt8).toNat = '\n'.toNat := rfl
  rw [Bytewise.toLineEnd, isRight.first?, isOffset, drop_bytes,
    Text.idxOf?_bytes isFeed (by decide), sameLine]
  have isIndex := List.idxOf_eq_getD_idxOf? '\n' cursor.rest
  cases found : cursor.rest.idxOf? '\n' with
  | none =>
    have toEnd : cursor.toLineEnd = cursor.toEnd := by
      rw [toLineEnd, isIndex, found]
      rfl
    rw [toEnd, offset_of_rest_eq_nil cursor.rest_toEnd]
    rfl
  | some index =>
    rw [toLineEnd, isIndex, found, offset_advance]
    rfl

/-- The bytes of a front of what is left are counted as its characters are. -/
theorem position_advance_of_isPrefix {cursor : Cursor source} {front : List Char}
    (isFront : front <+: cursor.rest) :
    (cursor.advance front.length).position =
      ⟨cursor.offset + Text.byteLength front, cursor.line + ((Text.bytes cursor.rest).take
        (Text.byteLength front)).count 0x0A⟩ := by
  have isText : cursor.rest.take front.length = front := (List.prefix_iff_eq_take.mp isFront).symm
  have isBytes : (Text.bytes cursor.rest).take (Text.byteLength front) = Text.bytes front := by
    rcases isFront with ⟨back, shape⟩
    rw [← shape, Text.bytes_append, ← Text.length_bytes, List.take_left]
  rw [position, offset_advance, line_advance, isText, isBytes, Text.count_bytes]

theorem eatBlockBody_position (isRight : search.IsRight) (cursor : Cursor source) :
    Bytewise.eatBlockBody source search cursor.position =
      (cursor.eatBlockBody.1, cursor.eatBlockBody.2.position) := by
  have isFront : (TriviaItem.blockBody? cursor.rest).getD cursor.rest <+: cursor.rest := by
    cases found : TriviaItem.blockBody? cursor.rest with
    | none => exact List.prefix_rfl
    | some body => exact TriviaItem.blockBody?_isPrefix found
  have isOffset : cursor.position.offset = cursor.offset := rfl
  rw [Bytewise.eatBlockBody, isOffset, drop_bytes, Bytewise.blockLength_bytes isRight,
    eatBlockBody_eq, position_advance_of_isPrefix isFront]
  simp only [isRight.all, List.length_idxsOf]
  rfl

/-- The two bytes ahead are those of the mark where the mark stands ahead. -/
theorem isMark_position (cursor : Cursor source) :
    (Bytewise.byteAt source cursor.position.offset == 0x2A &&
      Bytewise.byteAt source (cursor.position.offset + 1) == 0x2F) = true ↔
        ∃ later, cursor.rest = '*' :: '/' :: later := by
  have first := cursor.byteAt_offset_add 0
  have second := cursor.byteAt_offset_add 1
  have standsAtFront : ∀ bytes : List UInt8,
      ((bytes[0]?).getD 0 == 0x2A && (bytes[1]?).getD 0 == 0x2F) = true ↔
        [0x2A, 0x2F] <+: bytes := by
    intro bytes
    rcases bytes with _ | ⟨first, _ | ⟨second, others⟩⟩
    · simp
    · simp [List.cons_prefix_cons]
    · simp [List.cons_prefix_cons, @eq_comm _ (0x2A : UInt8), @eq_comm _ (0x2F : UInt8)]
  rw [← Text.zero_mem_closings_iff]
  change (Bytewise.byteAt source (cursor.offset + 0) == 0x2A &&
    Bytewise.byteAt source (cursor.offset + 1) == 0x2F) = true ↔ _
  rw [first, second]
  exact standsAtFront _

theorem bumpPastMark_position (cursor : Cursor source) :
    Bytewise.bumpPastMark source cursor.position =
      (cursor.bumpPastMark.1, cursor.bumpPastMark.2.position) := by
  fun_induction bumpPastMark cursor with
  | case1 cursor atEnd =>
    rw [Bytewise.bumpPastMark, isAtEnd_position, isAtEnd_of_rest_eq_nil atEnd, dif_pos rfl]
  | case2 cursor later shape =>
    rw [Bytewise.bumpPastMark, isAtEnd_position, isAtEnd_of_rest_eq_cons shape,
      dif_neg Bool.false_ne_true, if_pos (cursor.isMark_position.mpr ⟨later, shape⟩),
      bump_position, bump_position]
  | case3 cursor c later noMark shape inductionHypothesis =>
    have isNoMark : ¬ ∃ later, cursor.rest = '*' :: '/' :: later := by
      rintro ⟨behind, isMark⟩
      rcases List.cons.inj (shape.symm.trans isMark) with ⟨isAsterisk, isSlash⟩
      exact noMark behind isAsterisk isSlash
    rw [Bytewise.bumpPastMark, isAtEnd_position, isAtEnd_of_rest_eq_cons shape,
      dif_neg Bool.false_ne_true, if_neg (mt cursor.isMark_position.mp isNoMark), bump_position,
      inductionHypothesis]

/-! ## What is passed at once -/

/-- What is passed at once is what is passed character by character, on the cursor as on its offset
and its line. -/
structure PassesAtOnce (search : ByteSearch) (cursor : Cursor source) : Prop where
  line : cursor.toLineEnd = (cursor.eatWhile (· != '\n')).2
  comment : cursor.eatBlockBody = cursor.bumpPastMark
  lineBytes : some (Bytewise.toLineEnd source search cursor.position) =
    (Bytewise.eatWhile? source (· != '\n') cursor.position).map Prod.snd
  commentBytes : Bytewise.eatBlockBody source search cursor.position =
    Bytewise.bumpPastMark source cursor.position
  sameLine : Bytewise.toLineEnd source search cursor.position = cursor.toLineEnd.position
  sameComment : Bytewise.eatBlockBody source search cursor.position =
    (cursor.eatBlockBody.1, cursor.eatBlockBody.2.position)

/-- The searches for the end of a line and for the mark that closes a block comment lead from any
place between two characters, on any line, to where going on character by character leads. -/
theorem passesAtOnce (isRight : search.IsRight) (cursor : Cursor source) :
    cursor.PassesAtOnce search where
  line := cursor.eatWhile_eq_toLineEnd.symm
  comment := cursor.bumpPastMark_eq_eatBlockBody.symm
  lineBytes := by
    rw [toLineEnd_position isRight, eatWhile?_position, ← eatWhile_eq_toLineEnd]
    rfl
  commentBytes := by
    rw [eatBlockBody_position isRight, bumpPastMark_position, bumpPastMark_eq_eatBlockBody]
  sameLine := toLineEnd_position isRight cursor
  sameComment := eatBlockBody_position isRight cursor

/-- The hypothesis holds for the plain search, here behind the opening of a comment: a slash is the
first character, asterisks stand in a row, and characters of several bytes lie around the mark. -/
theorem passesAtOnce_linear_among_stars :
    let cursor := (start "/*/é\n*€**/\n𝄞*".toList).advance 2
    ByteSearch.linear.IsRight ∧ cursor.toLineEnd.position = ⟨5, 1⟩ ∧
      cursor.eatBlockBody.1 = true ∧ cursor.eatBlockBody.2.position = ⟨13, 2⟩ ∧
      cursor.eatBlockBody.2.eatBlockBody.1 = false ∧
      cursor.eatBlockBody.2.eatBlockBody.2.position = ⟨19, 3⟩ ∧
      cursor.PassesAtOnce ByteSearch.linear ∧
      cursor.eatBlockBody.2.PassesAtOnce ByteSearch.linear := by
  intro cursor
  have isRight := ByteSearch.isRight_linear
  refine ⟨isRight, ?_, ?_, ?_, ?_, ?_, passesAtOnce isRight cursor, passesAtOnce isRight _⟩
  all_goals decide +kernel

end Cursor

end

end HeaderScan
