import HeaderScan.Scanner.Effort

namespace HeaderScan

/-!
Who handles directives.

The reader hands every directive to its handler, which reads the rest of it from the scanner and
says what is to become of the code behind it.  A handler is itself a value that changes with each
directive; it may take part in the reader's going back.
-/

/-- The code in which a directive stands. -/
inductive Region
  | included
  | excluded
  deriving DecidableEq, Repr

/-- What a handler says about a directive. -/
structure Outcome where
  /-- The code behind the directive is read. -/
  includes : Bool
  /-- The comments in front of the directive are dropped. -/
  clearsComments : Bool
  /-- The code behind the directive is searched for what must not hide there. -/
  checksContent : Bool
  deriving DecidableEq, Repr

namespace Outcome

/-- The code behind the directive is read, and the comments stay. -/
def including : Outcome :=
  ⟨true, false, false⟩

/-- The code behind the directive is not read. -/
def excluding (checksContent : Bool) : Outcome :=
  ⟨false, false, checksContent⟩

/-- Drops the comments in front of the directive in addition. -/
def clearingComments (outcome : Outcome) : Outcome :=
  { outcome with clearsComments := true }

end Outcome

/-- A kind of handler.  `handle` is given the scanner behind the sign of the directive, the token
of the sign, and the code in which it stands; in excluded code, an outcome that includes ends the
exclusion.

A handler may make the scanner go back, but not without end: `rewinds` bounds how often it still
can, and `handle_le` says that otherwise no more is left to read than before. -/
class DirectiveHandler (σ : Type) where
  handle : {source : List Char} → σ → Scanner source → Token → Region →
    Except Stop Outcome × σ × Scanner source
  /-- Called when the reader remembers its place. -/
  save : σ → σ
  /-- Called when the reader goes back to the place. -/
  restore : σ → σ
  rewinds : σ → Nat
  handle_le : ∀ {source : List Char} (handler : σ) (scanner : Scanner source)
    (directive : Token) (region : Region),
    (handle handler scanner directive region).2.2.effort
        (rewinds (handle handler scanner directive region).2.1) ≤
      scanner.effort (rewinds handler)

end HeaderScan
