import HeaderScan.Reader.Basic

namespace HeaderScan

/-!
Draining: taking tokens until the end of the file or an error.

Each token but the end of the file leaves less to read (`effort_next_lt`), so that a drain ends,
whatever the directives in between make their handler do.
-/

/-- A token and the comments shown after it was taken. -/
structure Taken where
  token : Token
  comments : List Comment
  deriving DecidableEq, Repr

/-- What a drain has taken, the end of the file included, and why it stopped before it. -/
structure Drained where
  taken : List Taken
  stop : Option Stop
  deriving DecidableEq, Repr

namespace Drained

/-- Adds a token in front of the others. -/
def cons (first : Taken) (drained : Drained) : Drained :=
  { drained with taken := first :: drained.taken }

/-- The tokens alone. -/
def tokens (drained : Drained) : List Token :=
  drained.taken.map Taken.token

end Drained

namespace Scanner

variable {source : List Char}

private theorem effort_consume_lt {scanner : Scanner source} {lookahead : Lookahead source}
    (cached : scanner.lookahead = some lookahead) (rewinds : Nat) :
    scanner.consume.effort rewinds < scanner.effort rewinds := by
  rw [Effort.lt_def]
  refine Or.inr ⟨rfl, ?_⟩
  simp [effort, unread, ahead, consume, cached]
  omega

private theorem effort_passed_lt {before after : Scanner source}
    (moved : after.cursor.rest.length < before.cursor.rest.length) (lookahead : Lookahead source)
    (rewinds : Nat) :
    (consume { after with lookahead := some lookahead }).effort rewinds <
      before.effort rewinds := by
  rw [Effort.lt_def]
  refine Or.inr ⟨rfl, Or.inl ?_⟩
  simp [effort, unread, consume]
  omega

theorem effort_next_lt {scanner : Scanner source} {token : Token}
    (taken : scanner.next.1 = .ok token) (notEnd : token.kind ≠ .endOfFile) (rewinds : Nat) :
    scanner.next.2.effort rewinds < scanner.effort rewinds := by
  unfold next peek at *
  split at taken
  · simp at taken
  next after peeked =>
    simp only
    split at peeked
    next lookahead cached =>
      rcases Prod.mk.inj peeked with ⟨_, rfl⟩
      exact effort_consume_lt cached rewinds
    · split at peeked
      · simp at peeked
      next other moved read =>
        rcases Prod.mk.inj peeked with ⟨same, rfl⟩
        rcases Except.ok.inj same with rfl
        rcases Except.ok.inj taken with rfl
        refine effort_passed_lt ?_ _ rewinds
        have found : scanner.cursor.readToken.1 = .ok other := congrArg Prod.fst read
        have place : moved.cursor = scanner.cursor.readToken.2 :=
          (congrArg (fun pair => pair.2.cursor) read).symm
        rw [place]
        exact Cursor.length_rest_readToken_lt found notEnd

/-- Takes tokens up to the end of the file or an error. -/
def drain (scanner : Scanner source) : Drained × Scanner source :=
  let after := scanner.next.2
  match _taken : scanner.next.1 with
  | .error error => (⟨[], some (.failure error)⟩, after)
  | .ok token =>
    let first := ⟨token, after.shownComments⟩
    if _atEnd : token.kind = .endOfFile then (⟨[first], none⟩, after)
    else
      let (later, last) := drain after
      (later.cons first, last)
termination_by scanner.weight 0
decreasing_by exact weight_lt (effort_next_lt _taken _atEnd 0)

end Scanner

namespace Reader

variable {source : List Char} {σ : Type} [DirectiveHandler σ]

/-- Reading on to a token and forgetting it leaves less, unless it is the end of the file. -/
theorem effort_readToken_lt {reader after : Reader source σ} {afterLineComment : Bool}
    {lookahead : Lookahead source}
    (read : reader.readToken afterLineComment = (.ok lookahead, after))
    (notEnd : lookahead.token.kind ≠ .endOfFile) (other : Lookahead source) :
    (after.withScanner
        (Scanner.consume { after.scanner with lookahead := some other })).effort <
      reader.effort := by
  fun_induction reader.readToken afterLineComment with
  | case1 => simp at read
  | case2 reader afterLineComment passed token found unhandled =>
    rcases Prod.mk.inj read with ⟨same, rfl⟩
    rcases Except.ok.inj same with rfl
    exact Scanner.effort_passed_lt (Cursor.length_rest_readToken_lt found notEnd) _ _
  | case3 => simp at read
  | case4 reader afterLineComment passed token found handler attached handled clears _ ih =>
    have handling := handler_of_handlerFor attached
    have moved := effort_afterToken_lt found handling.2
    apply Effort.lt_of_lt_of_le (ih read)
    rw [effort_dropPendingIf]
    refine Effort.le_trans (effort_handleDirective_le _ _ _) (Effort.le_of_lt ?_)
    simpa [effort, passed, afterToken, withScanner, handling.1] using moved

theorem effort_next_lt {reader : Reader source σ} {token : Token}
    (taken : reader.next.1 = .ok token) (notEnd : token.kind ≠ .endOfFile) :
    reader.next.2.effort < reader.effort := by
  unfold next peek at *
  split at taken
  · simp at taken
  next after peeked =>
    simp only
    split at peeked
    next lookahead cached =>
      rcases Prod.mk.inj peeked with ⟨_, rfl⟩
      exact Scanner.effort_consume_lt cached _
    · split at peeked
      · simp at peeked
      next lookahead moved read =>
        rcases Prod.mk.inj peeked with ⟨same, rfl⟩
        rcases Except.ok.inj same with rfl
        rcases Except.ok.inj taken with rfl
        exact effort_readToken_lt read notEnd lookahead

/-- Takes tokens up to the end of the file or whatever stops the reader. -/
def drain (reader : Reader source σ) : Drained × Reader source σ :=
  let after := reader.next.2
  match _taken : reader.next.1 with
  | .error stop => (⟨[], some stop⟩, after)
  | .ok token =>
    let first := ⟨token, after.scanner.shownComments⟩
    if _atEnd : token.kind = .endOfFile then (⟨[first], none⟩, after)
    else
      let (later, last) := drain after
      (later.cons first, last)
termination_by reader.weight
decreasing_by exact weight_lt (effort_next_lt _taken _atEnd)

theorem drain_of_error {reader : Reader source σ} {stop : Stop}
    (failed : reader.next.1 = .error stop) :
    reader.drain = (⟨[], some stop⟩, reader.next.2) := by
  rw [drain]
  split
  next other isOther => rw [Except.error.inj (failed.symm.trans isOther)]
  next found => exact nomatch failed.symm.trans found

theorem drain_of_endOfFile {reader : Reader source σ} {token : Token}
    (taken : reader.next.1 = .ok token) (atEnd : token.kind = .endOfFile) :
    reader.drain = (⟨[⟨token, reader.next.2.scanner.shownComments⟩], none⟩, reader.next.2) := by
  rw [drain]
  split
  next failed => exact nomatch taken.symm.trans failed
  next other isOther =>
    have same := Except.ok.inj (taken.symm.trans isOther)
    subst same
    rw [dif_pos atEnd]

theorem drain_of_token {reader : Reader source σ} {token : Token}
    (taken : reader.next.1 = .ok token) (notEnd : token.kind ≠ .endOfFile) :
    reader.drain =
      (reader.next.2.drain.1.cons ⟨token, reader.next.2.scanner.shownComments⟩,
        reader.next.2.drain.2) := by
  rw [drain]
  split
  next failed => exact nomatch taken.symm.trans failed
  next other isOther =>
    have same := Except.ok.inj (taken.symm.trans isOther)
    subst same
    rw [dif_neg notEnd]

end Reader
end HeaderScan
