import HeaderScan.Directive.Handler
import HeaderScan.HiddenContent

namespace HeaderScan

/-!
The passing of excluded code, from the directive that excludes it to the one that ends this.
-/

/-- The sign that begins a directive, where it is the first of its line. -/
def Token.beginsDirective (source : List Char) (token : Token) : Bool :=
  token.isSymbol "#" && Text.startsLine source token.span.start

theorem Token.kind_of_beginsDirective {source : List Char} {token : Token}
    (begins : token.beginsDirective source = true) : token.kind ≠ .endOfFile := by
  simp only [beginsDirective, isSymbol, Bool.and_eq_true, beq_iff_eq] at begins
  simp [begins.1.1]

/-- What has become of an exclusion: how it ended, the handler and the scanner it leaves, and what
was found in the code. -/
structure Exclusion (source : List Char) (σ : Type) where
  result : Except Stop Unit
  handler : σ
  scanner : Scanner source
  findings : List Diagnostic

namespace Exclusion

variable {source : List Char} {σ : Type} [DirectiveHandler σ]

/-- Adds a finding in front of the others. -/
def found (finding : Option Diagnostic) (exclusion : Exclusion source σ) : Exclusion source σ :=
  { exclusion with findings := finding.toList ++ exclusion.findings }

/-- Passes excluded code.  Its tokens are read without collecting comments and searched while
`checks` holds; each directive in it goes to the handler. -/
def run (handler : σ) (scanner : Scanner source) (checks : Bool)
    (progress : HiddenContent.Progress) : Exclusion source σ :=
  let after := scanner.withCursor scanner.cursor.readToken.2
  match _read : scanner.cursor.readToken.1 with
  | .error error => ⟨.error (.failure error), handler, after, []⟩
  | .ok token =>
    if _atEnd : token.kind = .endOfFile then ⟨.ok (), handler, after, []⟩
    else if token.beginsDirective source then
      let handled := DirectiveHandler.handle handler after token .excluded
      match handled.1 with
      | .error stop => ⟨.error stop, handled.2.1, handled.2.2, []⟩
      | .ok outcome =>
        if outcome.includes then ⟨.ok (), handled.2.1, handled.2.2, []⟩
        else run handled.2.1 handled.2.2 outcome.checksContent progress
    else
      let searched := progress.stepIf checks token
      found searched.1 (run handler after checks searched.2)
termination_by scanner.weight (DirectiveHandler.rewinds handler)
decreasing_by
  all_goals
    have moved := Scanner.effort_withCursor_lt
      (Cursor.length_rest_readToken_lt _read _atEnd) (DirectiveHandler.rewinds handler)
  · exact Scanner.weight_lt
      (Effort.lt_of_le_of_lt (DirectiveHandler.handle_le handler after token .excluded) moved)
  · exact Scanner.weight_lt moved

variable {handler : σ} {scanner : Scanner source} {checks : Bool}
  {progress : HiddenContent.Progress} {token : Token}

theorem run_of_error {error : ScanError} (failed : scanner.cursor.readToken.1 = .error error) :
    run handler scanner checks progress =
      ⟨.error (.failure error), handler, scanner.withCursor scanner.cursor.readToken.2, []⟩ := by
  rw [run]
  split
  next other isOther =>
    rw [failed] at isOther
    rw [Except.error.inj isOther]
  next found =>
    rw [failed] at found
    cases found

theorem run_of_endOfFile (read : scanner.cursor.readToken.1 = .ok token)
    (atEnd : token.kind = .endOfFile) :
    run handler scanner checks progress =
      ⟨.ok (), handler, scanner.withCursor scanner.cursor.readToken.2, []⟩ := by
  rw [run]
  split
  next failed =>
    rw [read] at failed
    cases failed
  next other isOther =>
    rw [read] at isOther
    rw [dif_pos (Except.ok.inj isOther ▸ atEnd)]

theorem run_of_beginsDirective (read : scanner.cursor.readToken.1 = .ok token)
    (begins : token.beginsDirective source = true) :
    run handler scanner checks progress =
      let handled := DirectiveHandler.handle handler
        (scanner.withCursor scanner.cursor.readToken.2) token .excluded
      match handled.1 with
      | .error stop => ⟨.error stop, handled.2.1, handled.2.2, []⟩
      | .ok outcome =>
        if outcome.includes then ⟨.ok (), handled.2.1, handled.2.2, []⟩
        else run handled.2.1 handled.2.2 outcome.checksContent progress := by
  rw [run]
  split
  next failed =>
    rw [read] at failed
    cases failed
  next other isOther =>
    rw [read] at isOther
    rw [← Except.ok.inj isOther, dif_neg (Token.kind_of_beginsDirective begins), if_pos begins]

theorem run_of_token (read : scanner.cursor.readToken.1 = .ok token)
    (notEnd : token.kind ≠ .endOfFile) (noDirective : token.beginsDirective source = false) :
    run handler scanner checks progress =
      found (progress.stepIf checks token).1
        (run handler (scanner.withCursor scanner.cursor.readToken.2) checks
          (progress.stepIf checks token).2) := by
  rw [run]
  split
  next failed =>
    rw [read] at failed
    cases failed
  next other isOther =>
    rw [read] at isOther
    rw [← Except.ok.inj isOther, dif_neg notEnd, noDirective, if_neg Bool.false_ne_true]

/-- Passing excluded code leaves no more than there was. -/
theorem effort_run_le (handler : σ) (scanner : Scanner source) (checks : Bool)
    (progress : HiddenContent.Progress) :
    (run handler scanner checks progress).scanner.effort
        (DirectiveHandler.rewinds (run handler scanner checks progress).handler) ≤
      scanner.effort (DirectiveHandler.rewinds handler) := by
  have passed : ∀ (handler : σ) (scanner : Scanner source),
      (scanner.withCursor scanner.cursor.readToken.2).effort (DirectiveHandler.rewinds handler) ≤
        scanner.effort (DirectiveHandler.rewinds handler) := fun handler scanner =>
    Scanner.effort_withCursor_le (Cursor.length_rest_readToken_le _) _
  have handled : ∀ (handler : σ) (scanner : Scanner source) (token : Token),
      let outcome := DirectiveHandler.handle handler
        (scanner.withCursor scanner.cursor.readToken.2) token .excluded
      outcome.2.2.effort (DirectiveHandler.rewinds outcome.2.1) ≤
        scanner.effort (DirectiveHandler.rewinds handler) := fun handler scanner token =>
    Effort.le_trans (DirectiveHandler.handle_le _ _ _ _) (passed handler scanner)
  fun_induction run handler scanner checks progress with
  | case1 handler scanner => exact passed handler scanner
  | case2 handler scanner => exact passed handler scanner
  | case3 handler scanner _ _ _ token => exact handled handler scanner token
  | case4 handler scanner _ _ _ token => exact handled handler scanner token
  | case5 handler scanner _ _ _ token _ _ _ _ _ _ _ ih =>
    exact Effort.le_trans ih (handled handler scanner token)
  | case6 handler scanner _ _ _ _ _ _ _ _ ih =>
    exact Effort.le_trans ih (passed handler scanner)

end Exclusion
end HeaderScan
