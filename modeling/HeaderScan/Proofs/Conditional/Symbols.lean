import Mathlib.Data.List.Induction
import HeaderScan.Conditional

namespace HeaderScan

open CharClass (isIdentifierStart isIdentifierContinue)

/-!
What a handler knows about the symbols, told by its history.

A history is what the handler is set up with and the directives that it is given after that, in
included and in excluded code, from one source or from several.  Some of these events write a
symbol.  `Conditional.symbols_handleAll` says that what is known about a symbol is what the last of
them wrote, in the table that is looked up as well as in the two lists that are shown.
-/

/-! ## The word that a definition writes -/

namespace Condition

/-- The first word of a text that is shaped like an identifier: of the pieces between the
characters that no identifier has, the first one that begins like an identifier. -/
def firstWord? (text : List Char) : Option (List Char) :=
  (text.splitOnP fun c => !isIdentifierContinue c).find? fun piece =>
    piece.head?.any isIdentifierStart

/-- The words behind a run of identifier characters are those pieces, the first one behind the
run, that begin like an identifier. -/
private theorem wordsFrom_eq (run text : List Char) :
    words.go run text =
      (((text.splitOnP fun c => !isIdentifierContinue c).modifyHead (run ++ ·)).filter
        fun piece => piece.head?.any isIdentifierStart).map String.ofList := by
  have finished : ∀ (run : List Char) (pieces : List (List Char)),
      ((run :: pieces).filter fun piece => piece.head?.any isIdentifierStart).map String.ofList =
        words.finish run ++
          (pieces.filter fun piece => piece.head?.any isIdentifierStart).map String.ofList := by
    intro run pieces
    rw [List.filter_cons, words.finish]
    split <;> rfl
  induction text generalizing run with
  | nil =>
    rw [words.go, List.splitOnP_nil, List.modifyHead_cons, List.append_nil, finished,
      List.filter_nil, List.map_nil, List.append_nil]
  | cons c later inductionHypothesis =>
    rw [words.go, List.splitOnP_cons_eq_if_modifyHead]
    cases goesOn : isIdentifierContinue c with
    | true =>
      have joined : (fun piece => run ++ [c] ++ piece) = (run ++ ·) ∘ List.cons c := by
        funext piece
        exact List.append_assoc run [c] piece
      rw [if_pos rfl, if_neg (by simp), List.modifyHead_modifyHead, inductionHypothesis, joined]
    | false =>
      have unchanged : (([] : List Char) ++ ·) = id := rfl
      rw [if_neg Bool.false_ne_true, if_pos (by simp), List.modifyHead_cons, List.append_nil,
        finished, inductionHypothesis, unchanged, List.modifyHead_id, id]

theorem head?_words (text : List Char) :
    (words text).head? = (firstWord? text).map String.ofList := by
  have unchanged : (([] : List Char) ++ ·) = id := rfl
  rw [words, wordsFrom_eq, unchanged, List.modifyHead_id, id, List.head?_map, List.head?_filter,
    firstWord?]

end Condition

/-! ## Tables -/

namespace SymbolTable

/-- What is asked for when a handler is set up: that a symbol be defined, or undefined. -/
def configure (table : SymbolTable) (request : String × Bool) : SymbolTable :=
  if request.2 then table.define request.1 else table.undefine request.1

theorem configure_eq (table : SymbolTable) (request : String × Bool) :
    table.configure request = table.write request.1 request.2 := by
  rcases request with ⟨name, _ | _⟩ <;> rfl

theorem mem_sortedNames {names : List String} {name : String} :
    name ∈ sortedNames names ↔ name ∈ names := by
  rw [sortedNames, List.mem_mergeSort, List.mem_eraseDups]

theorem mem_defined {table : SymbolTable} {name : String} :
    name ∈ table.defined ↔ (name, true) ∈ table.entries := by
  simp [defined, mem_sortedNames]

theorem mem_undefined {table : SymbolTable} {name : String} :
    name ∈ table.undefined ↔ (name, false) ∈ table.entries := by
  simp [undefined, mem_sortedNames]

theorem mem_entries_write {table : SymbolTable} {name other : String} {isDefined truth : Bool} :
    (other, truth) ∈ (table.write name isDefined).entries ↔
      if other = name then truth = isDefined else (other, truth) ∈ table.entries := by
  rw [write, List.mem_cons, List.mem_filter, Prod.mk.injEq]
  split
  next same => simp [same]
  next different => simp [different]

end SymbolTable

/-! ## Histories -/

namespace Conditional

/-- One directive that a handler is given, and the scanner and the code in which it stands. -/
structure Call where
  source : List Char
  scanner : Scanner source
  directive : Token
  region : Region

namespace Call

/-- The directive, read without its comments. -/
def read (call : Call) : Directive :=
  .ofText (Directive.readText call.scanner.inputCursor).1

/-- A definition, or an undefinition, in included code writes the first word of its argument. -/
structure Writes (call : Call) (name : String) (isDefined : Bool) : Prop where
  region : call.region = .included
  directive : call.read.name = if isDefined then "define" else "undef"
  word : (Condition.firstWord? call.read.argument).map String.ofList = some name

end Call

/-- The handler behind a directive, whatever comes of the directive. -/
def handleCall (conditional : Conditional) (call : Call) : Conditional :=
  (conditional.handle call.scanner call.directive call.region).2.1

/-- The handler behind several directives. -/
def handleAll (conditional : Conditional) (calls : List Call) : Conditional :=
  calls.foldl handleCall conditional

/-- What happens to a handler: it is set up with a symbol, or given a directive. -/
inductive Event
  | configured (name : String) (isDefined : Bool)
  | handled (call : Call)

/-- The setting up of a symbol writes it, and directives do what they say. -/
def Event.Writes : Event → String → Bool → Prop
  | configured name isDefined => fun other truth => name = other ∧ isDefined = truth
  | handled call => call.Writes

/-- The last event that writes a symbol writes this about it. -/
def LastWrites (events : List Event) (name : String) (isDefined : Bool) : Prop :=
  ∃ before event after, events = before ++ event :: after ∧ event.Writes name isDefined ∧
    ∀ later ∈ after, ∀ truth, ¬ later.Writes name truth

variable {events : List Event} {event : Event} {name : String} {isDefined : Bool}

/-- An event writes one thing about one symbol. -/
theorem Event.Writes.unique {other : String} {truth : Bool} (first : event.Writes name isDefined)
    (second : event.Writes other truth) : name = other ∧ isDefined = truth := by
  cases event with
  | configured => exact ⟨first.1.symm.trans second.1, first.2.symm.trans second.2⟩
  | handled call =>
    refine ⟨Option.some.inj (first.word.symm.trans second.word), ?_⟩
    have same := first.directive.symm.trans second.directive
    revert same
    cases isDefined <;> cases truth <;> decide

theorem lastWrites_nil : ¬ LastWrites [] name isDefined := by
  rintro ⟨before, event, after, shape, _⟩
  exact List.append_ne_nil_of_right_ne_nil before (List.cons_ne_nil event after) shape.symm

/-- The last event decides if it writes the symbol, and those before it decide otherwise. -/
theorem lastWrites_concat :
    LastWrites (events ++ [event]) name isDefined ↔
      event.Writes name isDefined ∨
        (∀ truth, ¬ event.Writes name truth) ∧ LastWrites events name isDefined := by
  constructor
  · rintro ⟨before, other, after, shape, writes, silent⟩
    rcases List.eq_nil_or_concat after with rfl | ⟨between, last, rfl⟩
    · rw [List.append_singleton_inj] at shape
      exact Or.inl (shape.2 ▸ writes)
    · rw [List.concat_eq_append, ← List.cons_append, ← List.append_assoc,
        List.append_singleton_inj] at shape
      rcases shape with ⟨rfl, rfl⟩
      refine Or.inr ⟨silent event (by simp), before, other, between, rfl, writes, ?_⟩
      intro later member
      exact silent later (by simp [member])
  · rintro (writes | ⟨quiet, before, other, after, rfl, writes, silent⟩)
    · exact ⟨events, event, [], rfl, writes, by simp⟩
    · refine ⟨before, other, after ++ [event], by simp, writes, ?_⟩
      intro later member
      rcases List.mem_append.mp member with isBefore | isLast
      · exact silent later isBefore
      · rw [List.mem_singleton.mp isLast]
        exact quiet

/-- A symbol that is written at all is written a last time. -/
theorem exists_lastWrites_iff :
    (∃ truth, LastWrites events name truth) ↔
      ∃ event ∈ events, ∃ truth, event.Writes name truth := by
  constructor
  · rintro ⟨truth, before, event, after, rfl, writes, _⟩
    exact ⟨event, by simp, truth, writes⟩
  · rintro ⟨event, member, truth, writes⟩
    induction events using List.reverseRecOn with
    | nil => cases member
    | append_singleton earlier last inductionHypothesis =>
      by_cases silent : ∀ truth, ¬ last.Writes name truth
      · have notLast : event ≠ last := by
          rintro rfl
          exact silent truth writes
        have isEarlier : event ∈ earlier := by simpa [notLast] using member
        rcases inductionHypothesis isEarlier with ⟨other, lastWrites⟩
        exact ⟨other, lastWrites_concat.mpr (Or.inr ⟨silent, lastWrites⟩)⟩
      · rcases not_forall_not.mp silent with ⟨other, isLast⟩
        exact ⟨other, lastWrites_concat.mpr (Or.inl isLast)⟩

/-! ## Tables that record a history -/

/-- All that a table says about symbols is what has been written last. -/
structure Records (table : SymbolTable) (events : List Event) : Prop where
  entries : ∀ name isDefined,
    (name, isDefined) ∈ table.entries ↔ LastWrites events name isDefined
  lookup : ∀ name isDefined,
    table.lookup name = some isDefined ↔ LastWrites events name isDefined

namespace Records

variable {table : SymbolTable}

theorem initial : Records .initial [] where
  entries name isDefined := iff_of_false (by rintro ⟨⟩) lastWrites_nil
  lookup name isDefined := iff_of_false (by rintro ⟨⟩) lastWrites_nil

/-- Behind an event that writes a symbol. -/
theorem write (records : Records table events) (writes : event.Writes name isDefined) :
    Records (table.write name isDefined) (events ++ [event]) := by
  have decides : ∀ other truth, LastWrites (events ++ [event]) other truth ↔
      if other = name then truth = isDefined else LastWrites events other truth := by
    intro other truth
    rw [lastWrites_concat]
    split
    next same =>
      subst same
      constructor
      · rintro (again | ⟨silent, _⟩)
        · exact (again.unique writes).2
        · exact absurd writes (silent isDefined)
      · rintro rfl
        exact Or.inl writes
    next different =>
      have silent : ∀ truth, ¬ event.Writes other truth :=
        fun truth again => different (again.unique writes).1
      constructor
      · rintro (again | ⟨_, earlier⟩)
        · exact absurd again (silent truth)
        · exact earlier
      · exact fun earlier => Or.inr ⟨silent, earlier⟩
  constructor
  · intro other truth
    rw [SymbolTable.mem_entries_write, decides, records.entries]
  · intro other truth
    rw [SymbolTable.lookup_write, decides, ← records.lookup]
    split
    · rw [Option.some.injEq, eq_comm]
    · rfl

/-- Behind an event that writes nothing. -/
theorem keep (records : Records table events) (silent : ∀ name truth, ¬ event.Writes name truth) :
    Records table (events ++ [event]) := by
  have same : ∀ name truth, LastWrites (events ++ [event]) name truth ↔
      LastWrites events name truth := by
    intro name truth
    rw [lastWrites_concat]
    exact ⟨fun either => either.resolve_left (silent name truth) |>.2,
      fun earlier => Or.inr ⟨silent name, earlier⟩⟩
  constructor
  · intro name truth
    rw [same, records.entries]
  · intro name truth
    rw [same, records.lookup]

end Records

/-! ## Directives -/

namespace State

variable {state next : State} {keyword : Keyword} {argument : List Char} {outcome : Outcome}

/-- In excluded code nothing is written. -/
theorem symbols_inExcluded (applied : state.inExcluded keyword argument = some (outcome, next)) :
    next.symbols = state.symbols := by
  rcases state with ⟨frames, depth, symbols⟩
  cases keyword with
  | ifCondition | ifSymbol | write | other =>
    cases applied
    rfl
  | endIf | elseIf | otherwise =>
    cases depth with
    | succ deeper =>
      cases applied
      rfl
    | zero =>
      cases frames with
      | nil => cases applied
      | cons frame outer =>
        simp only [inExcluded] at applied
        try split at applied
        all_goals
          cases applied
          rfl

/-- In included code nothing is written but by definitions and undefinitions of a word. -/
theorem symbols_inIncluded
    (silent : ∀ isDefined, keyword = .write isDefined -> (Condition.words argument).head? = none)
    (applied : state.inIncluded keyword argument = some (outcome, next)) :
    next.symbols = state.symbols := by
  rcases state with ⟨frames, depth, symbols⟩
  cases keyword with
  | ifCondition | ifSymbol | other =>
    cases applied
    rfl
  | elseIf | otherwise | endIf =>
    cases frames with
    | nil => cases applied
    | cons frame outer =>
      cases applied
      rfl
  | write isDefined =>
    cases applied
    simp only [writeSymbol, silent isDefined rfl]

end State

/-- The directives that write are those with these two names. -/
theorem Keyword.ofName_eq_write_iff {name : String} {isDefined : Bool} :
    Keyword.ofName name = .write isDefined ↔ name = if isDefined then "define" else "undef" := by
  constructor
  · intro isWrite
    unfold ofName at isWrite
    split_ifs at isWrite with _ _ _ _ _ _ isDefine isUndefine
    · cases isWrite
      exact isDefine
    · cases isWrite
      exact isUndefine
  · rintro rfl
    cases isDefined <;> decide

theorem state_handleCall (conditional : Conditional) (call : Call) :
    (conditional.handleCall call).state =
      ((conditional.state.apply call.read call.region).map Prod.snd).getD conditional.state := by
  unfold handleCall handle Call.read
  simp only [Scanner.cursor_rewind]
  split
  next unmatched => rw [unmatched]; rfl
  next outcome next applied => rw [applied]; rfl

/-- A directive that writes a symbol does not fail, and only its symbol is written. -/
theorem Call.Writes.symbols {call : Call} (writes : call.Writes name isDefined)
    (conditional : Conditional) :
    (conditional.handleCall call).state.symbols =
      conditional.state.symbols.write name isDefined := by
  have isKeyword := Keyword.ofName_eq_write_iff.mpr writes.directive
  have isWord : (Condition.words call.read.argument).head? = some name :=
    (Condition.head?_words _).trans writes.word
  have applied : conditional.state.apply call.read call.region =
      some (Outcome.including.clearingComments,
        conditional.state.writeSymbol isDefined call.read.argument) := by
    rw [writes.region, State.apply, isKeyword]
    rfl
  rw [state_handleCall, applied]
  simp only [Option.map_some, Option.getD_some, State.writeSymbol, isWord]

/-- All other directives, those that fail among them, write nothing. -/
theorem symbols_handleCall {call : Call} (silent : ∀ name isDefined, ¬ call.Writes name isDefined)
    (conditional : Conditional) :
    (conditional.handleCall call).state.symbols = conditional.state.symbols := by
  rw [state_handleCall]
  cases applied : conditional.state.apply call.read call.region with
  | none => rfl
  | some result =>
    rcases result with ⟨outcome, next⟩
    cases isRegion : call.region with
    | excluded =>
      rw [isRegion] at applied
      exact State.symbols_inExcluded applied
    | included =>
      rw [isRegion] at applied
      refine State.symbols_inIncluded (fun isDefined isKeyword => ?_) applied
      rw [Condition.head?_words, ← Option.not_isSome_iff_eq_none, Option.isSome_iff_exists]
      rintro ⟨name, isWord⟩
      exact silent name isDefined ⟨isRegion, Keyword.ofName_eq_write_iff.mp isKeyword, isWord⟩

namespace Records

/-- Whether a directive fails or not, what it writes is recorded. -/
theorem handleCall {conditional : Conditional}
    (records : Records conditional.state.symbols events) (call : Call) :
    Records (conditional.handleCall call).state.symbols (events ++ [.handled call]) := by
  by_cases silent : ∀ name isDefined, ¬ call.Writes name isDefined
  · rw [symbols_handleCall silent]
    exact records.keep silent
  · simp only [not_forall, not_not] at silent
    rcases silent with ⟨name, isDefined, writes⟩
    rw [writes.symbols]
    exact records.write writes

theorem handleAll {conditional : Conditional}
    (records : Records conditional.state.symbols events) (calls : List Call) :
    Records (conditional.handleAll calls).state.symbols (events ++ calls.map .handled) := by
  induction calls generalizing conditional events with
  | nil => simpa [Conditional.handleAll] using records
  | cons call later inductionHypothesis =>
    have behind := inductionHypothesis (records.handleCall call)
    rw [List.append_assoc, List.singleton_append] at behind
    exact behind

theorem configureAll {table : SymbolTable} (records : Records table events)
    (configured : List (String × Bool)) :
    Records (configured.foldl SymbolTable.configure table)
      (events ++ configured.map fun request => .configured request.1 request.2) := by
  induction configured generalizing table events with
  | nil => simpa using records
  | cons request later inductionHypothesis =>
    have written : Records (table.configure request)
        (events ++ [.configured request.1 request.2]) := by
      rw [SymbolTable.configure_eq]
      exact records.write ⟨rfl, rfl⟩
    have behind := inductionHypothesis written
    rw [List.append_assoc, List.singleton_append] at behind
    exact behind

end Records

/-- A handler is set up with symbols from a table in which nothing is known, and given directives.
Of each symbol it then knows what was written last, in the table as in the two lists, which have
none in common; nothing is known of the others.  Directives in excluded code write nothing. -/
theorem symbols_handleAll (configured : List (String × Bool)) (calls : List Call) :
    let table :=
      ((ofSymbols (configured.foldl SymbolTable.configure .initial)).handleAll calls).state.symbols
    let events := (configured.map fun request => Event.configured request.1 request.2) ++
      calls.map .handled
    (∀ name, ¬ (name ∈ table.defined ∧ name ∈ table.undefined)) ∧
      (∀ name isDefined, table.lookup name = some isDefined ↔ LastWrites events name isDefined) ∧
      (∀ name, table.lookup name = none ↔
        ¬ ∃ event ∈ events, ∃ isDefined, event.Writes name isDefined) ∧
      (∀ name, name ∈ table.defined ↔ LastWrites events name true) ∧
      (∀ name, name ∈ table.undefined ↔ LastWrites events name false) ∧
      ∀ (conditional : Conditional) (source : List Char) (scanner : Scanner source)
        (directive : Token),
        (conditional.handle scanner directive .excluded).2.1.state.symbols =
          conditional.state.symbols := by
  intro table events
  have records : Records table events :=
    (Records.initial.configureAll configured).handleAll calls
  have inDefined : ∀ name, name ∈ table.defined ↔ LastWrites events name true :=
    fun name => SymbolTable.mem_defined.trans (records.entries name true)
  have inUndefined : ∀ name, name ∈ table.undefined ↔ LastWrites events name false :=
    fun name => SymbolTable.mem_undefined.trans (records.entries name false)
  refine ⟨?_, records.lookup, ?_, inDefined, inUndefined, ?_⟩
  · rintro name ⟨isDefined, isUndefined⟩
    have known := (records.lookup name true).mpr ((inDefined name).mp isDefined)
    rw [(records.lookup name false).mpr ((inUndefined name).mp isUndefined)] at known
    cases known
  · intro name
    rw [← exists_lastWrites_iff, Option.eq_none_iff_forall_ne_some, not_exists]
    exact forall_congr' fun isDefined => not_congr (records.lookup name isDefined)
  · intro conditional source scanner directive
    have silent : ∀ name isDefined,
        ¬ Call.Writes ⟨source, scanner, directive, .excluded⟩ name isDefined :=
      fun name isDefined writes => Region.noConfusion writes.region
    exact symbols_handleCall silent conditional

end Conditional
end HeaderScan
