import HeaderScan.Conditional
import HeaderScan.Session.Script

namespace HeaderScan

/-!
A session with one reader: commands to the reader, and requests that change its handler.

A detached handler is put aside and can be attached again.  The session follows the conditional
handler that it made last, wherever it is, so as to tell the number of its open regions.
-/

namespace Session

/-- A handler of a session.  Conditional handlers are numbered in the order of their making. -/
inductive Handler
  | conditional (number : Nat) (state : Conditional)
  | script (state : Script)

namespace Handler

variable {source : List Char}

def handle (handler : Handler) (scanner : Scanner source) (directive : Token) (region : Region) :
    Except Stop Outcome × Handler × Scanner source :=
  match handler with
  | conditional number state =>
    let (result, state, after) := state.handle scanner directive region
    (result, conditional number state, after)
  | script state =>
    let (result, state, after) := state.handle scanner directive region
    (result, script state, after)

def save : Handler → Handler
  | conditional number state => conditional number state.save
  | script state => script state

def restore : Handler → Handler
  | conditional number state => conditional number state.restore
  | script state => script state

def rewinds : Handler → Nat
  | conditional _ _ => 0
  | script state => state.steps.length

theorem effort_handle_le (handler : Handler) (scanner : Scanner source) (directive : Token)
    (region : Region) :
    (handler.handle scanner directive region).2.2.effort
        (handler.handle scanner directive region).2.1.rewinds ≤
      scanner.effort handler.rewinds := by
  cases handler with
  | conditional number state => exact state.effort_handle_le scanner directive region
  | script state => exact state.effort_handle_le scanner directive region

instance : DirectiveHandler Handler where
  handle := handle
  save := save
  restore := restore
  rewinds := rewinds
  handle_le := effort_handle_le

/-- The conditional handler with a number. -/
def conditional? (number : Nat) : Handler → Option Conditional
  | conditional other state => if other = number then some state else none
  | script _ => none

/-- The calls recorded by a handler, and the handler with its record empty. -/
def takeCalls : Handler → List Script.Call × Handler
  | conditional number state => ([], conditional number state)
  | script state => (state.calls, script { state with calls := [] })

end Handler

/-- How to make a handler. -/
inductive HandlerPlan
  | conditional
  | script (steps : List Script.Step)

/-- What can be asked in a session. -/
inductive Request
  | command (command : Command)
  /-- Makes a handler and attaches it. -/
  | attach (plan : HandlerPlan)
  /-- Detaches the handler and puts it aside. -/
  | detach
  /-- Attaches the handler that was put aside. -/
  | reattach

/-- What comes of a request. -/
inductive Answer
  | reply (reply : Reply)
  /-- Whether a handler was attached before. -/
  | hadHandler (had : Bool)
  /-- No handler was put aside. -/
  | noHandler

/-- What is seen after a request. -/
structure Step where
  observation : Observation Answer
  /-- The number of findings so far. -/
  reported : Nat
  /-- The number of open regions, if a conditional handler has been made. -/
  depth : Option Nat
  calls : List Script.Call

end Session

/-- The state of a session. -/
structure Session (source : List Char) where
  reader : Reader source Session.Handler
  /-- The token returned last. -/
  last : Token
  aside : Option Session.Handler
  symbols : SymbolTable
  /-- The number of conditional handlers made so far. -/
  made : Nat
  depth : Option Nat

namespace Session

variable {source : List Char}

/-- Makes a handler. -/
def make (session : Session source) (plan : HandlerPlan) : Handler × Session source :=
  match plan with
  | .conditional =>
    (.conditional (session.made + 1) (.ofSymbols session.symbols),
      { session with made := session.made + 1, depth := some 0 })
  | .script steps => (.script (.ofSteps steps), session)

/-- Attaches a handler in the place of any other. -/
def attach (session : Session source) (handler : Handler) : Session source :=
  { session with reader := session.reader.attach handler }

/-- A session at the start of a source. -/
def start (source : List Char) (symbols : SymbolTable) (plan : Option HandlerPlan) :
    Session source :=
  let session : Session source := ⟨.ofSource source none, .absent, none, symbols, 0, none⟩
  match plan with
  | none => session
  | some plan =>
    let (handler, session) := session.make plan
    session.attach handler

/-- Answers one request. -/
def answer (session : Session source) : Request → Except Stop Answer × Session source
  | .command command =>
    let (result, reader) := session.reader.perform session.last command
    let last := (result.toOption.bind Reply.latest).getD session.last
    (result.map .reply, { session with reader := reader, last := last })
  | .attach plan =>
    let had := session.reader.handler.isSome
    let (handler, session) := session.make plan
    (.ok (.hadHandler had), session.attach handler)
  | .detach =>
    match session.reader.handler with
    | none => (.ok (.hadHandler false), session)
    | some handler =>
      (.ok (.hadHandler true),
        { session with reader := session.reader.detach, aside := some handler })
  | .reattach =>
    match session.aside with
    | none => (.ok .noHandler, session)
    | some handler =>
      (.ok (.hadHandler session.reader.handler.isSome),
        { session.attach handler with aside := none })

/-- Takes the recorded calls out of the attached handler. -/
def takeCalls (session : Session source) : List Script.Call × Session source :=
  match session.reader.handler with
  | none => ([], session)
  | some handler =>
    let (calls, handler) := handler.takeCalls
    (calls, session.attach handler)

/-- Looks up the number of open regions in the conditional handler made last, and keeps the
number known before if this handler is gone. -/
def lookUpDepth (session : Session source) : Session source :=
  let found := [session.reader.handler, session.aside].findSome? fun handler =>
    handler.bind (Handler.conditional? session.made)
  match found with
  | none => session
  | some conditional => { session with depth := some conditional.depth }

/-- Answers requests one after the other, up to a breach.  The steps are those before it; the
findings are those up to and with it. -/
def run (session : Session source) : List Request → List (Option Step) × Session source
  | [] => ([], session)
  | request :: later =>
    let (result, session) := session.answer request
    match Observation.ofScanner? result session.reader.scanner with
    | none => ([none], session)
    | some observation =>
      let (calls, session) := session.takeCalls
      let session := session.lookUpDepth
      let step := ⟨observation, session.reader.findings.length, session.depth, calls⟩
      let (steps, session) := session.run later
      (some step :: steps, session)

end Session
end HeaderScan
