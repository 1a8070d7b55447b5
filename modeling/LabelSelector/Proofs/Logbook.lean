import LabelSelector.Proofs.Reports
import LabelSelector.Session

/-! # What is seen of a call

  The log of a call of `parseTraced` tells what happened, neither more nor less, and a
  filter only chooses what is seen of it.

  - The filter of a verbosity gives each stage the level that the verbosity has for it, so
    that the events seen are those that this level lets through. Once its logger is set up,
    a process writes the lines of these events and no others.
  - A call reports what its steps have to report, and one event more at the place where it
    fails or comes to its end.
  - From both: the events of a call, counted message by message and with all their fields,
    and the same answer whatever is logged.
-/

namespace LabelSelector

open Log (Event Filter Format Level Record Report Trace Verbosity)

/-! ### Filters -/

/-- No stage reports under the name of another. -/
theorem Phase.isPrefixOf_target (p q : Phase) :
    p.target.toList.isPrefixOf q.target.toList = decide (p = q) := by
  cases p <;> cases q <;> decide

namespace Log

theorem Filter.levelFor_target (v : Verbosity) (p : Phase) :
    (Filter.ofVerbosity v).levelFor p.target = v.levelFor p := by
  cases p <;>
    simp [Filter.levelFor, Filter.ofVerbosity, List.filter, Phase.isPrefixOf_target, Filter.longer]

/-- The event that was let through, if it is one. -/
def Record.event? : Record → Option Event
  | .opened _ => none
  | .event e _ => some e

namespace Verbosity

/-- The scope of a call, if it is let through. -/
def scope (v : Verbosity) (t : Trace) : Option Scope :=
  t.scope.filter fun s => (v.levelFor s.phase).allows s.level

/-- The events of a call that are seen. -/
def seen (v : Verbosity) (t : Trace) : List Event :=
  ((Filter.ofVerbosity v).records t).filterMap Record.event?

/-- What is let through of a call: its scope and its events, each as the level of its stage
    has it. -/
theorem records_eq (v : Verbosity) (t : Trace) :
    (Filter.ofVerbosity v).records t = (v.scope t).toList.map Record.opened ++
      (t.events.filter fun e => (v.levelFor e.phase).allows e.level).map
        (Record.event · (v.scope t)) := by
  have hscope : (Filter.ofVerbosity v).enablesScope =
      fun s => (v.levelFor s.phase).allows s.level := by
    funext s
    rw [Filter.enablesScope, Filter.enables, Filter.levelFor_target]
  have hevent : (Filter.ofVerbosity v).enablesEvent =
      fun e => (v.levelFor e.phase).allows e.level := by
    funext e
    rw [Filter.enablesEvent, Filter.enables, Filter.levelFor_target]
  rw [Filter.records, hscope, hevent]
  rfl

/-- What is made of records, if a scope alone makes nothing, is made of the events that the
    levels of their stages let through. -/
theorem flatMap_records {β : Type} (v : Verbosity) (t : Trace) {f : Record → List β}
    (hopened : ∀ s, f (.opened s) = []) :
    ((Filter.ofVerbosity v).records t).flatMap f =
      (t.events.filter fun e => (v.levelFor e.phase).allows e.level).flatMap
        fun e => f (.event e (v.scope t)) := by
  have hscopes : ∀ scopes : List Scope, (scopes.map Record.opened).flatMap f = [] := by
    intro scopes
    rw [List.flatMap_map, List.flatMap_eq_nil_iff]
    intro s _
    exact hopened s
  rw [records_eq, List.flatMap_append, hscopes, List.nil_append, List.flatMap_map]

/-- An event is seen if the level of its stage lets it through. -/
theorem seen_eq (v : Verbosity) (t : Trace) :
    v.seen t = t.events.filter fun e => (v.levelFor e.phase).allows e.level := by
  rw [seen, List.filterMap_eq_flatMap_toList, flatMap_records v t fun _ => rfl]
  exact List.flatMap_singleton' _

/-- The lines of a call are those of the events seen. -/
theorem lines_records (v : Verbosity) (t : Trace) (lines : Record → List String)
    (hopened : ∀ s, lines (.opened s) = []) :
    ((Filter.ofVerbosity v).records t).flatMap lines =
      (v.seen t).flatMap fun e => lines (.event e (v.scope t)) := by
  rw [flatMap_records v t hopened, seen_eq]

end Verbosity

theorem Level.trace_allows (l : Level) : Level.trace.allows l = true := by
  cases l <;> rfl

/-- With everything let through, everything is seen. -/
theorem Verbosity.seen_of_trace {v : Verbosity} (hv : ∀ p, v.levelFor p = .trace) (t : Trace) :
    v.seen t = t.events := by
  rw [seen_eq, List.filter_eq_self]
  intro e _
  rw [hv, Level.trace_allows]

end Log

/-! ### Lines -/

namespace Session

/-- A process writes down a call: lines for the events that a verbosity lets be seen, each
    within the scope of the call, and nothing else. -/
structure WritesDown {α : Type} (σ : Session) (v : Verbosity) (format : Format) (toFile : Bool)
    (call : Traced α) : Prop where
  /-- On the console. -/
  console : (σ.run call).2.console = σ.console ++
    (v.seen call.trace).flatMap fun e =>
      Log.consoleLines format (.event e (v.scope call.trace))
  /-- In the log file, if there is one. -/
  file : toFile = true → (σ.run call).2.file = σ.file.map fun lines => lines ++
    (v.seen call.trace).flatMap fun e => Log.fileLines (.event e (v.scope call.trace))
  /-- Otherwise a file that has been made is left alone. -/
  noFile : toFile = false → (σ.run call).2.file = σ.file

/-- A logger writes what its filter lets through. -/
theorem writesDown_of_logger {α : Type} {σ : Session} {v : Verbosity} {format : Format}
    {toFile : Bool} (h : σ.logger = some ⟨format, .ofVerbosity v, toFile⟩) (call : Traced α) :
    σ.WritesDown v format toFile call := by
  -- Both forms of lines leave out scopes that stand alone.
  have hconsole := v.lines_records call.trace (Log.consoleLines format) fun _ => rfl
  have hfile := v.lines_records call.trace Log.fileLines fun _ => rfl
  refine ⟨?_, ?_, ?_⟩
  · rw [← hconsole, run, log, h]
  · rintro rfl
    rw [← hfile, run, log, h]
    rfl
  · rintro rfl
    rw [run, log, h]
    show (σ.file.map fun lines => lines ++ []) = σ.file
    simp

/-- A logger that is set up has the filter of the settings. -/
theorem logger_setLogger {σ : Session} {s : Settings} (hsettings : σ.settings = some s)
    {format : Format} {file : LogFile} (h : (σ.setLogger format file).1 = .ok ()) :
    (σ.setLogger format file).2.logger =
      some ⟨format, .ofVerbosity s.verbosity, file = .usable⟩ := by
  unfold setLogger at h ⊢
  rw [hsettings] at h ⊢
  dsimp only at h ⊢
  split at h
  · cases h
  · next husable =>
    rw [if_neg husable]
    split at h
    · cases h
    · rfl

-- Settings that have just been fixed are all that a logger without a file needs.
example (s : Settings) (format : Format) :
    ((start.fix s).2.setLogger format .absent).1 = .ok () := rfl

/-- Calls do not touch the logger. -/
theorem logger_foldl_log (σ : Session) (earlier : List Trace) :
    (earlier.foldl log σ).logger = σ.logger := by
  induction earlier generalizing σ with
  | nil => rfl
  | cons t earlier ih =>
    have hlog : (σ.log t).logger = σ.logger := by
      unfold log
      cases h : σ.logger with
      | none => exact h
      | some logger => rfl
    rw [List.foldl_cons, ih, hlog]

end Session

/-! ### The end of a call -/

variable {μ : Type}

namespace Step

/-- What is reported when the steps of a selector have come to a result. -/
def last (r : Except ParseError (List μ)) (braces : Bool) : List Event :=
  match r with
  | .ok ms => [.listRead ms.length braces]
  | .error e => [.parseFailed e]

theorem parse_eq_unreported (settings : ParserSettings) (make : Factory μ) (p : Parser) :
    Step.parse settings make p =
      ((unreported settings make p).1, (unreported settings make p).2.note
        (last (unreported settings make p).1 (unreported settings make p).2.opened)) := by
  rw [Step.parse, selector_eq_unreported]
  cases h : unreported settings make p with
  | mk r q =>
    cases r with
    | ok ms =>
      rw [bind_of_ok h]
      rfl
    | error e =>
      rw [bind_of_error h]
      rfl

end Step

/-- What is reported when a call has an answer. -/
def completed (r : Except ParseError (List μ)) : List Event :=
  match r with
  | .ok ms => [.parseCompleted ms.length]
  | .error _ => []

/-! ### The log of a call -/

/-- The parser that a call leaves behind. -/
def Parser.behind (text : String) (settings : ParserSettings) (make : Factory μ) : Parser :=
  ((Parser.ofText text).parse settings make).2

theorem parseTraced_eq (text : String) (settings : ParserSettings) (make : Factory μ) :
    (parseTraced text make settings).result = parseWith text make settings ∧
      (parseTraced text make settings).trace.events =
        (Parser.behind text settings make).events ++ completed (parseWith text make settings) := by
  unfold parseTraced parseWith Parser.behind
  cases (Parser.ofText text).parse settings make with
  | mk r p => exact ⟨rfl, rfl⟩

/-- The log of a call, stage by stage: the scanner is made, the steps of the selector report
    what they have to, and the call ends. -/
theorem exists_account (text : String) (settings : ParserSettings) (make : Factory μ) :
    ∃ es, (parseTraced text make settings).trace.events =
        [.scannerMade text.utf8ByteSize] ++ es ++
          (Step.last (parseWith text make settings) (Parser.behind text settings make).opened ++
            completed (parseWith text make settings)) ∧
      Account (Parser.ofText text) es (parseWith text make settings)
        (Parser.behind text settings make) := by
  obtain ⟨es, hevents, haccount⟩ :=
    Step.truthful_unreported settings make (Parser.ofText text) rfl
  have hparse := Step.parse_eq_unreported settings make (Parser.ofText text)
  rcases hq : Step.unreported settings make (Parser.ofText text) with ⟨r, q⟩
  rw [hq] at hevents haccount hparse
  have hresult : parseWith text make settings = r := congrArg Prod.fst hparse
  have hbehind : Parser.behind text settings make = q.note (Step.last r q.opened) :=
    congrArg Prod.snd hparse
  refine ⟨es, ?_, ?_⟩
  · rw [(parseTraced_eq text settings make).2, hbehind, hresult, Parser.events_note, hevents,
      List.append_assoc]
    rfl
  · -- A report changes nothing that an account speaks of.
    rw [hresult, hbehind]
    exact ⟨haccount.tokens, haccount.clauses, haccount.lexical, haccount.stopped,
      haccount.misfit, haccount.silent⟩

/-- A log agrees with what happened in a call: what it tells, and the reports in which it
    does so. -/
structure LogAgrees (text : String) (settings : ParserSettings) (make : Factory μ)
    (es : List Event) : Prop where
  /-- The tokens of the text are reported as far as they have been scanned. -/
  tokens : ∃ m ≤ (Token.streamOf text).1.length,
    (Parser.behind text settings make).unscanned = (Token.streamOf text).1.drop m ∧
      told "Produced token" es = ((Token.streamOf text).1.take m).map Event.tokenRead ∧
      reported "Produced token" es = ((Token.streamOf text).1.take m).map Report.token
  /-- Each clause for which a matcher was asked is reported. -/
  clauses : told "Parsed matcher" es =
      (Parser.behind text settings make).requests.map Request.event ∧
    reported "Parsed matcher" es =
      (Parser.behind text settings make).requests.map Report.clause
  /-- A lexical error is reported if the call fails with it. -/
  lexical : told "Lex error encountered" es =
      (match parseWith text make settings with
      | .error (.lexical e _) => [.scanFailed e]
      | _ => []) ∧
    reported "Lex error encountered" es =
      match parseWith text make settings with
      | .error (.lexical e _) => [.lexical e]
      | _ => []
  /-- What does not fit is reported if the call fails for that, and not where a matcher is
      refused. -/
  misfit : told "Unexpected token" es =
      (match parseWith text make settings with
      | .error (.grammar ⟨.matcher _, _⟩) => []
      | .error (.grammar ⟨x, l⟩) => [.unexpected l.describe x]
      | _ => []) ∧
    reported "Unexpected token" es =
      match parseWith text make settings with
      | .error (.grammar ⟨.matcher _, _⟩) => []
      | .error (.grammar ⟨x, l⟩) => [.misfit l x]
      | _ => []
  /-- A failure is reported. -/
  failed : told "Parse failed" es =
      (match parseWith text make settings with
      | .error e => [.parseFailed e]
      | .ok _ => []) ∧
    reported "Parse failed" es =
      match parseWith text make settings with
      | .error e => [.failure e]
      | .ok _ => []
  /-- The list is reported if it is read to its end, -/
  read : told "Parsed matcher list" es =
      (match parseWith text make settings with
      | .ok ms => [.listRead ms.length (Parser.behind text settings make).opened]
      | .error _ => []) ∧
    reported "Parsed matcher list" es =
      match parseWith text make settings with
      | .ok ms => [.list ms.length (Parser.behind text settings make).opened]
      | .error _ => []
  /-- and so is the end of the call. -/
  completed : told "parse completed" es =
      (match parseWith text make settings with
      | .ok ms => [.parseCompleted ms.length]
      | .error _ => []) ∧
    reported "parse completed" es =
      match parseWith text make settings with
      | .ok ms => [.completion ms.length]
      | .error _ => []

theorem logAgrees_parseTraced (text : String) (settings : ParserSettings) (make : Factory μ) :
    LogAgrees text settings make (parseTraced text make settings).trace.events := by
  obtain ⟨es, hlog, haccount⟩ := exists_account text settings make
  obtain ⟨ts, hts, hstream⟩ : ∃ ts, told "Produced token" es = ts.map Event.tokenRead ∧
      (Token.streamOf text).1 = ts ++ (Parser.behind text settings make).unscanned :=
    haccount.tokens
  obtain ⟨rs, hrs, hrequests⟩ : ∃ rs, told "Parsed matcher" es = rs.map Request.event ∧
      (Parser.behind text settings make).requests = rs := haccount.clauses
  obtain ⟨hfailed, hlist, hcompleted⟩ := haccount.silent
  -- Making the scanner has a message of its own, so that the steps and the end are left.
  have htold : ∀ message, told message [.scannerMade text.utf8ByteSize] = [] →
      told message (parseTraced text make settings).trace.events =
        told message es ++ told message
          (Step.last (parseWith text make settings) (Parser.behind text settings make).opened ++
            completed (parseWith text make settings)) := by
    intro message hmade
    rw [hlog, told_append, told_append, hmade, List.nil_append]
  refine ⟨⟨ts.length, ?_, ?_, ?_⟩, ?_, ?_, ?_, ?_, ?_, ?_⟩
  · rw [hstream, List.length_append]
    omega
  · rw [hstream, List.drop_left]
  · have htokens : told "Produced token" (parseTraced text make settings).trace.events =
        ((Token.streamOf text).1.take ts.length).map Event.tokenRead := by
      rw [htold _ rfl, hts, hstream, List.take_left]
      cases parseWith text make settings <;> exact List.append_nil _
    exact ⟨htokens, reported_eq_map htokens fun _ => rfl⟩
  · have hclauses : told "Parsed matcher" (parseTraced text make settings).trace.events =
        (Parser.behind text settings make).requests.map Request.event := by
      rw [htold _ rfl, hrs, hrequests]
      cases parseWith text make settings <;> exact List.append_nil _
    exact ⟨hclauses, reported_eq_map hclauses fun _ => rfl⟩
  · rw [reported, htold _ rfl, haccount.lexical]
    cases parseWith text make settings with
    | ok ms => exact ⟨rfl, rfl⟩
    | error e => cases e <;> exact ⟨rfl, rfl⟩
  · rw [reported, htold _ rfl, haccount.misfit]
    cases parseWith text make settings with
    | ok ms => exact ⟨rfl, rfl⟩
    | error e =>
      cases e with
      | lexical e expected => exact ⟨rfl, rfl⟩
      | grammar e =>
        obtain ⟨x, l⟩ := e
        cases x <;> exact ⟨rfl, rfl⟩
  · rw [reported, htold _ rfl, hfailed]
    cases parseWith text make settings <;> exact ⟨rfl, rfl⟩
  · rw [reported, htold _ rfl, hlist]
    cases parseWith text make settings <;> exact ⟨rfl, rfl⟩
  · rw [reported, htold _ rfl, hcompleted]
    cases parseWith text make settings <;> exact ⟨rfl, rfl⟩

/-- The log of a call agrees with what happened, and logging does not change what happens.

  - With everything let through, the log tells of each token that was scanned, of each
    clause that a matcher was asked for, and of how the call ended. The report of a token
    settles its kind, its text and its offsets, that of a clause its name, its operator and
    its raw value.
  - Whatever is let through, the answer is the same, and the events seen are those that
    the level of their stage lets through.
  - A process that has fixed its settings and then set up its logger writes down what is
    seen of the call under these settings, whatever it has logged before. -/
theorem log_agrees (text : String) (settings : ParserSettings) (make : Factory μ) :
    (∀ v : Verbosity, (∀ p, v.levelFor p = .trace) →
      LogAgrees text settings make (v.seen (parseTraced text make settings).trace)) ∧
    (∀ t t', Report.token t = Report.token t' → t.kind = t'.kind ∧ t.text = t'.text ∧
      t.span.offsetStart = t'.span.offsetStart ∧ t.span.offsetEnd = t'.span.offsetEnd) ∧
    Function.Injective Report.clause ∧
    (∀ v : Verbosity, v.seen (parseTraced text make settings).trace =
      (parseTraced text make settings).trace.events.filter fun e =>
        (v.levelFor e.phase).allows e.level) ∧
    (∀ σ : Session, (σ.run (parseTraced text make settings)).1 = parseWith text make settings) ∧
    ∀ (σ : Session) (s : Settings) (format : Format) (file : LogFile) (earlier : List Trace),
      σ.settings = some s → (σ.setLogger format file).1 = .ok () →
      (earlier.foldl Session.log (σ.setLogger format file).2).WritesDown s.verbosity format
        (file = .usable) (parseTraced text make settings) := by
  refine ⟨?_, ?_, Report.clause_injective, ?_, ?_, ?_⟩
  · intro v hv
    rw [Verbosity.seen_of_trace hv]
    exact logAgrees_parseTraced text settings make
  · intro t t' h
    exact Report.eq_of_token_eq h
  · intro v
    exact v.seen_eq _
  · intro σ
    exact (parseTraced_eq text settings make).1
  · intro σ s format file earlier hsettings hset
    have hlogger := Session.logger_setLogger hsettings hset
    rw [← Session.logger_foldl_log _ earlier] at hlogger
    exact Session.writesDown_of_logger hlogger _

end LabelSelector
