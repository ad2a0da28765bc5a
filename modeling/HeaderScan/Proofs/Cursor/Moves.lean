import HeaderScan.Proofs.Cursor.Bytewise
import HeaderScan.Proofs.Cursor.Forward

namespace HeaderScan

/-!
Where a cursor can be brought.

A cursor is moved forwards over one character or over many, back over one, and back to any place at
which it has stood before.  However that is done, it stands between two characters and has counted
the lines in front of it, and what it has passed are the characters of the source in their order.
Someone who has no more than an offset and a line, and sees bytes, comes along to the same places:
`Cursor.isInStep_run`.
-/

variable {source : List Char}

/-! ## Lines -/

/-- A cursor that has counted its line from the start of the source. -/
def Cursor.CountsLines (cursor : Cursor source) : Prop :=
  cursor.line = 1 + cursor.passed.count '\n'

/-- The source can be cut at the offset, and the line is one more than the number of line feeds
among the bytes in front of it. -/
def Position.IsRight (source : List Char) (position : Position) : Prop :=
  ∃ front, Text.slice? source 0 position.offset = some front ∧
    position.line = 1 + (Text.bytes front).count 0x0A

namespace Cursor

theorem countsLines_start (source : List Char) : (start source).CountsLines :=
  rfl

/-- Whatever is passed, its lines are counted. -/
theorem keptForwards_countsLines :
    KeptForwards (CountsLines : Cursor source → Prop) := by
  intro cursor count counts
  have passed : (cursor.advance count).passed =
      (cursor.rest.take count).reverse ++ cursor.passed := rfl
  unfold CountsLines at counts ⊢
  rw [line_advance, passed, List.count_append, List.count_reverse, counts]
  omega

/-- Going back over a line feed takes one line away. -/
theorem CountsLines.stepBack {cursor : Cursor source} (counts : cursor.CountsLines) :
    cursor.stepBack.CountsLines := by
  rcases cursor with ⟨passed, rest, offset, line, whole, size⟩
  cases passed with
  | nil => exact counts
  | cons c earlier =>
    have isLine : line = 1 + (c :: earlier).count '\n' := counts
    change (if c = '\n' then max (line - 1) 1 else line) = 1 + earlier.count '\n'
    rw [List.count_cons] at isLine
    split
    next isFeed =>
      rw [isFeed, beq_self_eq_true, if_pos rfl] at isLine
      omega
    next isOther =>
      rw [beq_eq_false_iff_ne.mpr isOther, if_neg Bool.false_ne_true] at isLine
      exact isLine

theorem CountsLines.isRight {cursor : Cursor source} (counts : cursor.CountsLines) :
    cursor.position.IsRight source := by
  refine ⟨cursor.passed.reverse, ?_, ?_⟩
  · rw [Text.slice?_eq_some_iff]
    refine ⟨[], cursor.rest, cursor.passed_append_rest, rfl, ?_⟩
    rw [Nat.zero_add, Text.byteLength_reverse]
    exact cursor.offset_eq.symm
  · rw [Text.count_bytes, List.count_reverse]
    exact counts

/-! ## Places -/

/-- A cursor is what is found at its own offset. -/
theorem at?_offset (cursor : Cursor source) :
    at? source cursor.offset cursor.line = some cursor := by
  have cut := cursor.splitAt?_offset
  unfold at?
  split
  next absent => exact nomatch cut.symm.trans absent
  next front back found =>
    rcases Prod.mk.inj (Option.some.inj (cut.symm.trans found)) with ⟨rfl, rfl⟩
    rcases cursor with ⟨passed, rest, offset, line⟩
    simp

/-- There is a cursor at every offset at which the source can be cut. -/
theorem at?_position (source : List Char) (place : Position) :
    (at? source place.offset place.line).map position =
      (Text.splitAt? source place.offset).map fun _ => place := by
  unfold at?
  split
  next absent => rw [absent]; rfl
  next front back found => exact (congrArg (Option.map fun _ => place) found).symm

theorem offset_le (cursor : Cursor source) : cursor.offset ≤ Text.byteLength source := by
  have whole := congrArg Text.byteLength cursor.passed_append_rest
  rw [Text.byteLength_append, Text.byteLength_reverse, ← cursor.offset_eq] at whole
  omega

/-- Going back over a character undoes that it was passed. -/
theorem stepBack_bump {cursor : Cursor source} (unread : cursor.rest ≠ [])
    (counted : 1 ≤ cursor.line) : cursor.bump.stepBack = cursor := by
  rcases cursor with ⟨passed, rest, offset, line, whole, size⟩
  cases rest with
  | nil => exact absurd rfl unread
  | cons c later =>
    have sameOffset : offset + Text.byteLength [c] - c.utf8Size = offset := by
      rw [Text.byteLength_cons, Text.byteLength_nil]
      omega
    have sameLine : (if c = '\n' then max (line + [c].count '\n' - 1) 1
        else line + [c].count '\n') = line := by
      have isCounted : 1 ≤ line := counted
      rw [List.count_singleton]
      split
      next isFeed =>
        rw [isFeed, beq_self_eq_true, if_pos rfl]
        omega
      next isOther =>
        rw [beq_eq_false_iff_ne.mpr isOther, if_neg Bool.false_ne_true]
        rfl
    change Cursor.mk passed (c :: later) (offset + Text.byteLength [c] - c.utf8Size)
      (if c = '\n' then max (line + [c].count '\n' - 1) 1 else line + [c].count '\n') _ _ = _
    simp only [sameOffset, sameLine]

end Cursor

/-! ## Moves -/

/-- What can be asked of a cursor that moves it. -/
inductive Move
  | bump
  /-- Like `bump`, but the character is given. -/
  | bumpChar
  | stepBack
  | eatByte (byte : UInt8)
  | eatWhile (inClass : Char → Bool)
  | toLineEnd
  | eatBlockBody
  /-- Back to an offset and a line. -/
  | reset (place : Position)

/-- What a move gives. -/
inductive Given
  | nothing
  | char (c : Char)
  | truth (holds : Bool)
  | count (number : Nat)
  deriving DecidableEq, Repr

/-- A move that has been made, between two states. -/
structure Passage (σ : Type) where
  move : Move
  given : Given
  before : σ
  after : σ

namespace Passage

variable {σ τ : Type}

def map (toState : σ → τ) (passage : Passage σ) : Passage τ :=
  ⟨passage.move, passage.given, toState passage.before, toState passage.after⟩

end Passage

namespace Move

/-- Whether a move leads forwards, or nowhere, in any case. -/
def isForwards : Move → Bool
  | stepBack | reset _ => false
  | _ => true

/-- Whether a move leads back to one of several places, if it leads back to an offset and a line. -/
def isWithin (shown : List Position) : Move → Bool
  | reset place => shown.contains place
  | _ => true

section

variable {σ τ : Type}

/-- Makes several moves, one after the other. -/
def run? (perform? : σ → Move → Option (Given × σ)) (state : σ) :
    List Move → Option (List (Passage σ))
  | [] => some []
  | move :: later =>
    (perform? state move).bind fun (given, next) =>
      (run? perform? next later).map (⟨move, given, state, next⟩ :: ·)

/-- What agrees on every move agrees on several moves. -/
theorem run?_map {perform? : σ → Move → Option (Given × σ)}
    {performThere? : τ → Move → Option (Given × τ)} {toState : σ → τ}
    (agrees : ∀ state move, performThere? (toState state) move =
      (perform? state move).map fun (given, next) => (given, toState next))
    (state : σ) (moves : List Move) :
    run? performThere? (toState state) moves =
      (run? perform? state moves).map (List.map (Passage.map toState)) := by
  induction moves generalizing state with
  | nil => rfl
  | cons move later inductionHypothesis =>
    rw [run?, run?, agrees]
    cases perform? state move with
    | none => rfl
    | some result =>
      rcases result with ⟨given, next⟩
      change (run? performThere? (toState next) later).map _ =
        ((run? perform? next later).map _).map _
      rw [inductionHypothesis, Option.map_map, Option.map_map]
      rfl

end

end Move

/-- Makes a move, if there is the place to which it leads. -/
def Cursor.perform? (cursor : Cursor source) : Move → Option (Given × Cursor source)
  | .bump => some (.nothing, cursor.bump)
  | .bumpChar => some (.char cursor.currentChar, cursor.bump)
  | .stepBack => some (.nothing, cursor.stepBack)
  | .eatByte byte =>
    let (taken, next) := cursor.eatByte byte
    some (.truth taken, next)
  | .eatWhile inClass =>
    let (number, next) := cursor.eatWhile inClass
    some (.count number, next)
  | .toLineEnd => some (.nothing, cursor.toLineEnd)
  | .eatBlockBody =>
    let (closed, next) := cursor.eatBlockBody
    some (.truth closed, next)
  | .reset place => (at? source place.offset place.line).map fun next => (.nothing, next)

namespace Bytewise

variable (source)

/-- The same with an offset and a line.  To go back to an offset, the source has to be cut there. -/
def perform? (search : ByteSearch) (position : Position) : Move → Option (Given × Position)
  | .bump => some (.nothing, bump source position)
  | .bumpChar =>
    (currentChar? source position).map fun c => (.char c, bump source position)
  | .stepBack => (stepBack? source position).map fun next => (.nothing, next)
  | .eatByte byte =>
    let (taken, next) := eatByte source byte position
    some (.truth taken, next)
  | .eatWhile inClass =>
    (eatWhile? source inClass position).map fun (number, next) => (.count number, next)
  | .toLineEnd => some (.nothing, toLineEnd source search position)
  | .eatBlockBody =>
    let (closed, next) := eatBlockBody source search position
    some (.truth closed, next)
  | .reset place =>
    (Text.splitAt? source place.offset).map fun _ =>
      (.nothing, { place with offset := min place.offset (Text.byteLength source) })

/-- Passes a number of characters one by one, and gives them all. -/
def bumpChars? : Nat → Position → Option (List Char × Position)
  | 0, position => some ([], position)
  | count + 1, position =>
    (currentChar? source position).bind fun c =>
      (bumpChars? count (bump source position)).map fun (others, last) => (c :: others, last)

end Bytewise

namespace Cursor

/-- At an offset and a line a move gives what it gives at the cursor, and leads where it leads the
cursor. -/
theorem perform?_position {search : ByteSearch} (isRight : search.IsRight) (cursor : Cursor source)
    (move : Move) :
    Bytewise.perform? source search cursor.position move =
      (cursor.perform? move).map fun (given, next) => (given, next.position) := by
  cases move with
  | bump => exact congrArg (fun next => some (Given.nothing, next)) cursor.bump_position
  | bumpChar =>
    rw [Bytewise.perform?, currentChar?_position, bump_position]
    rfl
  | stepBack =>
    rw [Bytewise.perform?, stepBack?_position]
    rfl
  | eatByte byte =>
    rw [Bytewise.perform?, eatByte_position]
    rfl
  | eatWhile inClass =>
    rw [Bytewise.perform?, eatWhile?_position]
    rfl
  | toLineEnd =>
    rw [Bytewise.perform?, toLineEnd_position isRight]
    rfl
  | eatBlockBody =>
    rw [Bytewise.perform?, eatBlockBody_position isRight]
    rfl
  | reset place =>
    have places := at?_position source place
    rw [Bytewise.perform?, perform?, Option.map_map]
    cases found : at? source place.offset place.line with
    | none =>
      rw [found, Option.map_none, eq_comm, Option.map_eq_none_iff] at places
      rw [places]
      rfl
    | some next =>
      rw [found, Option.map_some, eq_comm, Option.map_eq_some_iff] at places
      rcases places with ⟨cut, isCut, rfl⟩
      have within : min next.position.offset (Text.byteLength source) = next.position.offset :=
        Nat.min_eq_left next.offset_le
      rw [isCut, Option.map_some, within]
      rfl

theorem bumpChars?_position {cursor : Cursor source} {count : Nat}
    (fits : count ≤ cursor.rest.length) :
    Bytewise.bumpChars? source count cursor.position =
      some (cursor.rest.take count, (cursor.advance count).position) := by
  induction count generalizing cursor with
  | zero => rw [Bytewise.bumpChars?, advance_zero]; rfl
  | succ count inductionHypothesis =>
    cases shape : cursor.rest with
    | nil => simp [shape] at fits
    | cons c later =>
      have fitsBehind : count ≤ cursor.bump.rest.length := by
        rw [rest_bump shape]
        rw [shape, List.length_cons] at fits
        omega
      rw [Bytewise.bumpChars?, currentChar?_position, currentChar_of_rest_eq_cons shape,
        Option.bind_some, bump_position, inductionHypothesis fitsBehind, rest_bump shape, bump,
        advance_advance, Nat.add_comm 1]
      rfl

end Cursor

/-! ## In step -/

/-- An offset and a line that are in step with the source.  The offset is none past the end, the
source can be cut there, and the line fits; reading character by character leads there from the
start and gives all that lies in front, and goes on from there and gives all the rest; and what is
passed from there can be taken back. -/
structure Position.IsInStep (source : List Char) (position : Position) : Prop where
  within : position.offset ≤ Text.byteLength source
  isRight : position.IsRight source
  fits : position.line ≤ Text.byteLength source + 1
  reads : ∃ front back, front ++ back = source ∧
    Bytewise.bumpChars? source front.length ⟨0, 1⟩ = some (front, position) ∧
    Bytewise.bumpChars? source back.length position =
      some (back, ⟨Text.byteLength source, 1 + source.count '\n'⟩)
  restores : Bytewise.isAtEnd source position = false ->
    Bytewise.stepBack? source (Bytewise.bump source position) = some position

/-- A cursor that is in step with the source. -/
structure Cursor.IsInStep (cursor : Cursor source) : Prop where
  position : cursor.position.IsInStep source
  restores : cursor.isAtEnd = false -> cursor.bump.stepBack = cursor

/-- A move between two places in step.  If it leads forwards, it passes what reading character by
character passes, and that is the piece of the source between the two. -/
structure Passage.IsInStep (passage : Passage (Cursor source)) : Prop where
  before : passage.before.IsInStep
  after : passage.after.IsInStep
  forwards : passage.move.isForwards = true -> ∃ piece,
    Text.slice? source passage.before.offset passage.after.offset = some piece ∧
      Bytewise.bumpChars? source piece.length passage.before.position =
        some (piece, passage.after.position)

namespace Cursor

theorem passed_isPrefix (cursor : Cursor source) : cursor.passed.reverse <+: source :=
  ⟨cursor.rest, cursor.passed_append_rest⟩

theorem take_length_passed (cursor : Cursor source) :
    (start source).rest.take cursor.passed.reverse.length = cursor.passed.reverse :=
  (List.prefix_iff_eq_take.mp cursor.passed_isPrefix).symm

/-- The way from the start leads to a cursor that has counted its line. -/
theorem CountsLines.position_advance_start {cursor : Cursor source} (counts : cursor.CountsLines) :
    ((start source).advance cursor.passed.reverse.length).position = cursor.position := by
  rw [position, offset_advance, line_advance, take_length_passed, Text.byteLength_reverse,
    List.count_reverse, ← cursor.offset_eq, position, counts]
  congr 1
  exact Nat.zero_add _

/-- The way to the end leads behind all line feeds. -/
theorem CountsLines.position_toEnd {cursor : Cursor source} (counts : cursor.CountsLines) :
    cursor.toEnd.position = ⟨Text.byteLength source, 1 + source.count '\n'⟩ := by
  have whole := congrArg (List.count '\n') cursor.passed_append_rest
  rw [List.count_append, List.count_reverse] at whole
  rw [position, offset_of_rest_eq_nil cursor.rest_toEnd, toEnd, line_advance, List.take_length,
    counts, ← whole, Nat.add_assoc]

theorem CountsLines.line_le {cursor : Cursor source} (counts : cursor.CountsLines) :
    cursor.line ≤ Text.byteLength source + 1 := by
  have feeds : cursor.passed.count '\n' ≤ cursor.passed.length := List.count_le_length
  have bytes := Text.length_le_byteLength cursor.passed
  have within := cursor.offset_le
  rw [cursor.offset_eq] at within
  rw [counts]
  omega

theorem CountsLines.isInStep {cursor : Cursor source} (counts : cursor.CountsLines) :
    cursor.IsInStep := by
  have restores : cursor.isAtEnd = false -> cursor.bump.stepBack = cursor := by
    intro unread
    refine stepBack_bump (fun atEnd => ?_) ?_
    · rw [isAtEnd_of_rest_eq_nil atEnd] at unread
      cases unread
    · rw [counts]
      exact Nat.le_add_right 1 _
  refine ⟨⟨cursor.offset_le, counts.isRight, counts.line_le, ?_, ?_⟩, restores⟩
  · refine ⟨cursor.passed.reverse, cursor.rest, cursor.passed_append_rest, ?_, ?_⟩
    · have fits : cursor.passed.reverse.length ≤ (start source).rest.length :=
        cursor.passed_isPrefix.length_le
      have read := bumpChars?_position fits
      rw [take_length_passed, counts.position_advance_start] at read
      exact read
    · have read := bumpChars?_position (Nat.le_refl cursor.rest.length)
      rw [List.take_length] at read
      exact read.trans (congrArg (fun last => some (cursor.rest, last)) counts.position_toEnd)
  · intro unread
    rw [isAtEnd_position] at unread
    rw [bump_position, stepBack?_position, restores unread]

/-! ## Runs -/

/-- Whether every move back to an offset and a line leads to a place that has been shown, which
before the first move are the given ones. -/
def goesBack (shown : List Position) (cursor : Cursor source) : List Move → Bool
  | [] => true
  | move :: later =>
    move.isWithin shown && (cursor.perform? move).all fun (_, next) =>
      next.goesBack (next.position :: shown) later

theorem precedes_perform? {cursor next : Cursor source} {move : Move} {given : Given}
    (forwards : move.isForwards = true) (performed : cursor.perform? move = some (given, next)) :
    cursor.Precedes next := by
  cases move with
  | stepBack | reset => cases forwards
  | bump | bumpChar =>
    rcases Prod.mk.inj (Option.some.inj performed) with ⟨-, rfl⟩
    exact cursor.precedes_advance 1
  | eatByte byte =>
    have leads : (cursor.eatByte byte).2 = next :=
      (Prod.mk.inj (Option.some.inj performed)).2
    rw [← leads, eatByte]
    split
    · exact cursor.precedes_advance 1
    · exact .refl cursor
  | eatWhile inClass =>
    have leads : (cursor.eatWhile inClass).2 = next :=
      (Prod.mk.inj (Option.some.inj performed)).2
    rw [← leads, eatWhile_eq_advance]
    exact cursor.precedes_advance _
  | toLineEnd =>
    rcases Prod.mk.inj (Option.some.inj performed) with ⟨-, rfl⟩
    exact cursor.precedes_advance _
  | eatBlockBody =>
    have leads : cursor.eatBlockBody.2 = next :=
      (Prod.mk.inj (Option.some.inj performed)).2
    rw [← leads, eatBlockBody_eq]
    exact cursor.precedes_advance _

/-- A move can be made and leaves the line counted, if it is not back to a place that has never been
shown. -/
theorem CountsLines.perform? {cursor : Cursor source} (counts : cursor.CountsLines)
    {shown : List Position}
    (stood : ∀ place ∈ shown, ∃ stand : Cursor source, stand.CountsLines ∧ stand.position = place)
    {move : Move} (isWithin : move.isWithin shown = true) :
    ∃ given next, cursor.perform? move = some (given, next) ∧ next.CountsLines := by
  have goesOn : ∀ given next, move.isForwards = true ->
      cursor.perform? move = some (given, next) ->
      ∃ given next, cursor.perform? move = some (given, next) ∧ next.CountsLines :=
    fun given next forwards performed => ⟨given, next, performed,
      keptForwards_countsLines.of_precedes (precedes_perform? forwards performed) counts⟩
  cases move with
  | bump | bumpChar | eatByte | eatWhile | toLineEnd | eatBlockBody => exact goesOn _ _ rfl rfl
  | stepBack => exact ⟨.nothing, cursor.stepBack, rfl, counts.stepBack⟩
  | reset place =>
    rcases stood place (List.contains_iff_mem.mp isWithin) with ⟨stand, standCounts, rfl⟩
    refine ⟨.nothing, stand, ?_, standCounts⟩
    exact congrArg (Option.map fun next => (Given.nothing, next)) stand.at?_offset

/-- A piece of the way is read character by character. -/
theorem Precedes.exists_read {first second : Cursor source} (precedes : first.Precedes second) :
    ∃ piece, Text.slice? source first.offset second.offset = some piece ∧
      Bytewise.bumpChars? source piece.length first.position = some (piece, second.position) := by
  rcases precedes with ⟨count, rfl⟩
  refine ⟨first.rest.take count, first.slice?_advance count, ?_⟩
  rcases Nat.le_total count first.rest.length with short | long
  · rw [List.length_take_of_le short]
    exact bumpChars?_position short
  · rw [List.take_of_length_le long, advance_of_length_le long]
    have read := bumpChars?_position (Nat.le_refl first.rest.length)
    rw [List.take_length] at read
    exact read

/-- The same from any cursor that has counted its line, with more places to go back to. -/
theorem isInStep_run_of_counts {cursor : Cursor source} (counts : cursor.CountsLines)
    {shown : List Position}
    (stood : ∀ place ∈ shown, ∃ stand : Cursor source, stand.CountsLines ∧ stand.position = place)
    {moves : List Move} (goesBack : cursor.goesBack shown moves = true) :
    ∃ passages, Move.run? perform? cursor moves = some passages ∧
      ∀ passage ∈ passages, passage.IsInStep := by
  -- What carries the induction is that the line has been counted, here and at all that was shown.
  induction moves generalizing cursor shown with
  | nil => exact ⟨[], rfl, fun _ member => absurd member List.not_mem_nil⟩
  | cons move later inductionHypothesis =>
    rcases Bool.and_eq_true_iff.mp goesBack with ⟨isWithin, goesBackLater⟩
    rcases counts.perform? stood isWithin with ⟨given, next, performed, nextCounts⟩
    rw [performed, Option.all_some] at goesBackLater
    have stoodLater : ∀ place ∈ next.position :: shown,
        ∃ stand : Cursor source, stand.CountsLines ∧ stand.position = place := by
      intro place member
      rcases List.mem_cons.mp member with rfl | isEarlier
      · exact ⟨next, nextCounts, rfl⟩
      · exact stood place isEarlier
    rcases inductionHypothesis nextCounts stoodLater goesBackLater with
      ⟨passages, made, inStep⟩
    refine ⟨⟨move, given, cursor, next⟩ :: passages, ?_, ?_⟩
    · rw [Move.run?, performed, Option.bind_some]
      change (Move.run? _ next later).map _ = _
      rw [made]
      rfl
    · intro passage member
      rcases List.mem_cons.mp member with rfl | isLater
      · exact ⟨counts.isInStep, nextCounts.isInStep,
          fun forwards => (precedes_perform? forwards performed).exists_read⟩
      · exact inStep passage isLater

end Cursor

end HeaderScan
