import TypedSql.Proofs.ResultSet
import TypedSql.Proofs.Session.Reported
import TypedSql.Proofs.Statement.Handover

namespace TypedSql

variable {σ α : Type} {layer : DataLayer σ} {s left : Session} {w : World σ} {t : Statement} {opening : Opening}
  {clauses : List Clause} {subject : Session.Subject} {command : Command}

/-- A request for rows before it is said how they are taken: a text or a call as its clauses write it, or a text
given on the spot. -/
inductive RowRequest where
  | written (opening : Opening) (clauses : List Clause)
  | called (name : String) (clauses : List Clause)
  | given (text : String) (parameters : Parameters)

namespace RowRequest

def taking (take : Session.Take α) : RowRequest → Use α
  | .written opening clauses => .write opening clauses (some (.query take))
  | .called name clauses => .write (.procedure name) clauses (some (.callQuery take))
  | .given text parameters => .query text parameters take

/-- The clauses go in, and rows can be asked for behind them. -/
def Runs (s : Session) : RowRequest → Prop
  | .written opening clauses => ∃ t left,
      (Statement.start s opening).addAll? clauses = some (.ok t, left) ∧ t.stage.endsQuery = true
  | .called name clauses => ∃ t left, (Statement.start s (.procedure name)).addAll? clauses = some (.ok t, left)
  | .given _ _ => True

/-- The outputs that a request declares: only a call does. -/
def outputs : RowRequest → List OutputParameter
  | .called _ clauses => clauses.flatMap Clause.outputs
  | _ => []

end RowRequest

namespace Session

theorem declared_of_command {timeout : Option Nat} (comes : s.command timeout subject = .ok command) :
    s.declared subject = command.outputs := by
  cases subject with
  | written =>
    cases comes
    rfl
  | given text parameters =>
    cases comes
    rfl
  | procedure =>
    simp only [Session.command] at comes
    split at comes
    next call held =>
      cases comes
      simp only [declared, held]
      rfl
    next => cases comes

/-- What is answered where rows are taken from the outcome of a command. -/
def Take.read (command : Command) (outcome : QueryOutcome) (take : Take α) : Use.Answer α :=
  (take.apply outcome.resultSet).map fun taken => some ⟨.taken taken, readOutputs command.outputs outcome.outputs⟩

/-- However rows are taken, the command is sent as it is without taking any, and they are taken from its outcome. -/
theorem fetch_read (comes : s.command (s.timeout? <|> w.timeout?) subject = .ok command) (layer : DataLayer σ)
    (take : Take α) :
    (s.fetch layer subject take w).1.map (fun r => some ⟨.taken r.value, r.outputs⟩) =
        (s.dispatch layer (.query command) w).1.bind (take.read command) ∧
      (s.fetch layer subject take w).2 = (s.dispatch layer (.query command) w).2 := by
  constructor
  · rw [s.fetch_answer comes, declared_of_command comes]
    cases (s.dispatch layer (.query command) w).1 with
    | error failure => rfl
    | ok outcome => exact map_map _ _ _
  · rw [s.fetch_world, s.queryRows_world, comes]

/-- Ways of taking that answer from the same rows and outputs. One that maps goes through the rows up to the first
that does not fit; one that takes a single row sees no row but the first. -/
structure TakenFrom (rows : List Row) (outputs : List (String × Value)) (answer : Take α → Use.Answer α) :
    Prop where
  rows_eq : answer .rows = .ok (some ⟨.taken (.rows rows), outputs⟩)
  firstRow_eq : answer .firstRow = .ok (some ⟨.taken (.row rows.head?), outputs⟩)
  mapped_ok_iff : ∀ decode values, answer (.mapped decode) = .ok (some ⟨.taken (.mapped values), outputs⟩) ↔
    List.Forall₂ (fun row value => row.deserialize decode = .ok value) rows values
  mapped_error_iff : ∀ decode failure, answer (.mapped decode) = .error failure ↔
    ∃ before row after, rows = before ++ row :: after ∧
      (∀ fitting ∈ before, ∃ value, fitting.deserialize decode = .ok value) ∧
      row.deserialize decode = .error failure
  firstMapped_nil : rows = [] →
    ∀ decode, answer (.firstMapped decode) = .ok (some ⟨.taken (.oneMapped none), outputs⟩)
  firstMapped_ok_iff : ∀ row rest, rows = row :: rest → ∀ decode value,
    answer (.firstMapped decode) = .ok (some ⟨.taken (.oneMapped (some value)), outputs⟩) ↔
      row.deserialize decode = .ok value
  firstMapped_error_iff : ∀ decode failure, answer (.firstMapped decode) = .error failure ↔
    ∃ row, rows.head? = some row ∧ row.deserialize decode = .error failure
  firstMapped_of_mapped : ∀ decode values,
    answer (.mapped decode) = .ok (some ⟨.taken (.mapped values), outputs⟩) →
      answer (.firstMapped decode) = .ok (some ⟨.taken (.oneMapped values.head?), outputs⟩)

section Reading

variable {outcome : QueryOutcome} {decode : Json → Except Mapping.Flaw α}

theorem read_mapped_ok_iff {values : List α} :
    (Take.mapped decode).read command outcome =
        .ok (some ⟨.taken (.mapped values), readOutputs command.outputs outcome.outputs⟩) ↔
      List.Forall₂ (fun row value => row.deserialize decode = .ok value) outcome.resultSet.rows values := by
  rw [← ResultSet.deserialize_eq_ok_iff]
  simp only [Take.read, Take.apply]
  cases outcome.resultSet.deserialize decode <;> simp [Except.map, eq_comm]

theorem read_mapped_error_iff {failure : Failure} :
    (Take.mapped decode).read command outcome = .error failure ↔
      ∃ before row after, outcome.resultSet.rows = before ++ row :: after ∧
        (∀ fitting ∈ before, ∃ value, fitting.deserialize decode = .ok value) ∧
        row.deserialize decode = .error failure := by
  rw [← ResultSet.deserialize_eq_error_iff]
  exact map_eq_error_iff.trans map_eq_error_iff

theorem read_firstMapped_nil (empty : outcome.resultSet.rows = []) :
    (Take.firstMapped decode).read command outcome =
      .ok (some ⟨.taken (.oneMapped none), readOutputs command.outputs outcome.outputs⟩) := by
  simp only [Take.read, Take.apply, ResultSet.first?, empty, List.head?_nil]
  rfl

theorem read_firstMapped_cons {row : Row} {rest : List Row} (first : outcome.resultSet.rows = row :: rest) :
    (Take.firstMapped decode).read command outcome = (row.deserialize decode).map fun value =>
      some ⟨.taken (.oneMapped (some value)), readOutputs command.outputs outcome.outputs⟩ := by
  simp only [Take.read, Take.apply, ResultSet.first?, first, List.head?_cons]
  exact map_map _ _ _

end Reading

theorem takenFrom_read (command : Command) (outcome : QueryOutcome) :
    TakenFrom outcome.resultSet.rows (readOutputs command.outputs outcome.outputs)
      fun take : Take α => take.read command outcome where
  rows_eq := rfl
  firstRow_eq := rfl
  mapped_ok_iff _ _ := read_mapped_ok_iff
  mapped_error_iff _ _ := read_mapped_error_iff
  firstMapped_nil empty _ := read_firstMapped_nil empty
  firstMapped_ok_iff row rest first decode value := by
    rw [read_firstMapped_cons first]
    cases row.deserialize decode <;> simp [Except.map]
  firstMapped_error_iff decode failure := by
    cases rows : outcome.resultSet.rows with
    | nil =>
      rw [read_firstMapped_nil rows]
      exact ⟨nofun, fun ⟨_, first, _⟩ => nomatch first⟩
    | cons row rest =>
      rw [read_firstMapped_cons rows, map_eq_error_iff]
      simp
  firstMapped_of_mapped decode values mapped := by
    have fitting := read_mapped_ok_iff.mp mapped
    cases rows : outcome.resultSet.rows with
    | nil =>
      rw [rows, List.forall₂_nil_left_iff] at fitting
      rw [read_firstMapped_nil rows, fitting]
      rfl
    | cons row rest =>
      rw [rows, List.forall₂_cons_left_iff] at fitting
      obtain ⟨value, _, fits, _, rfl⟩ := fitting
      rw [read_firstMapped_cons rows, fits]
      rfl

end Session

/-- A statement that asks for rows sends its command and takes them from what comes of it. -/
theorem Statement.finish_taking {terminal : Terminal α} {take : Session.Take α}
    (takes : terminal = .query take ∨ terminal = .callQuery take)
    (comes : t.session.command (t.session.timeout? <|> w.timeout?) terminal.subject = .ok command)
    (layer : DataLayer σ) :
    (t.finish layer terminal w).1.map some =
        (t.session.dispatch layer (.query command) w).1.bind (take.read command) ∧
      (t.finish layer terminal w).2 = (t.session.dispatch layer (.query command) w).2 := by
  rcases takes with rfl | rfl
  all_goals
    obtain ⟨answer, world⟩ := t.session.fetch_read comes layer take
    exact ⟨(map_map _ _ _).trans answer, world⟩

/-- What a chain that asks for rows comes to, however they are taken. -/
theorem Use.perform_taking {terminal : Statement.Terminal α} {take : Session.Take α}
    (takes : terminal = .query take ∨ terminal = .callQuery take)
    (added : (Statement.start s opening).addAll? clauses = some (.ok t, left))
    (admitted : terminal.admitted t.stage = true)
    (comes : t.session.command (t.session.timeout? <|> w.timeout?) terminal.subject = .ok command)
    (layer : DataLayer σ) :
    (write opening clauses (some terminal)).call? s w.timeout? = some (.query command) ∧
      (write opening clauses (some terminal)).perform layer s w =
        (((s.dispatch layer (.query command) w).1.bind (take.read command), t.session),
          (s.dispatch layer (.query command) w).2) := by
  have same := Statement.sameConnection_written added
  obtain ⟨answer, world⟩ := Statement.finish_taking takes comes layer
  rw [same.dispatch_eq] at answer world
  rw [perform_write added admitted, answer, world]
  refine ⟨?_, rfl⟩
  simp only [call?, added, if_pos admitted, Statement.call?_of_command comes]
  rcases takes with rfl | rfl <;> rfl

namespace RowRequest

variable {q : RowRequest}

/-- A request comes to one command, however its rows are taken: it is sent, and the rows are taken from what comes
of it. -/
theorem Runs.perform_taking (runs : q.Runs s) (layer : DataLayer σ) (w : World σ) :
    ∃ command left, command.outputs = q.outputs ∧ ∀ {α : Type} (take : Session.Take α),
      (q.taking take).call? s w.timeout? = some (.query command) ∧
        (q.taking take).perform layer s w =
          (((s.dispatch layer (.query command) w).1.bind (take.read command), left),
            (s.dispatch layer (.query command) w).2) := by
  cases q with
  | written opening clauses =>
    obtain ⟨t, left, added, ends⟩ := runs
    have admitted : ∀ {α : Type} (take : Session.Take α),
        (Statement.Terminal.query take).admitted t.stage = true := fun _ => ends
    obtain ⟨command, comes, _⟩ := (Statement.stands_written added).subject
      (admitted (.rows : Session.Take Unit)) (t.session.timeout? <|> w.timeout?)
    exact ⟨command, t.session, (Session.declared_of_command comes).symm,
      fun take => Use.perform_taking (Or.inl rfl) added (admitted take) comes layer⟩
  | called name clauses =>
    obtain ⟨t, left, added⟩ := runs
    obtain ⟨call, held, holds⟩ := Statement.calls_written added
    have procedure : t.stage.isProcedure = true := Statement.isProcedure_addAll? added
    have comes : t.session.command (t.session.timeout? <|> w.timeout?) .procedure =
        .ok (call.command (t.session.timeout? <|> w.timeout?)) := by
      simp only [Session.command, held]
    exact ⟨call.command (t.session.timeout? <|> w.timeout?), t.session, holds.outputs_eq,
      fun take => Use.perform_taking (Or.inr rfl) added procedure comes layer⟩
  | given text parameters =>
    have comes : s.command (s.timeout? <|> w.timeout?) (.given text parameters) =
        .ok (.statement text parameters (s.timeout? <|> w.timeout?)) := rfl
    refine ⟨.statement text parameters (s.timeout? <|> w.timeout?), s, rfl, fun take => ⟨rfl, ?_⟩⟩
    obtain ⟨answer, world⟩ := Session.fetch_read comes layer take
    rw [← answer, ← world]
    rfl

/-- What the ways of taking the rows of a request have in common where the request comes to a command. -/
structure Agrees (layer : DataLayer σ) (s : Session) (q : RowRequest) (w : World σ) (command : Command) :
    Prop where
  outputs_eq : command.outputs = q.outputs
  call?_eq : ∀ {α : Type} (take : Session.Take α), (q.taking take).call? s w.timeout? = some (.query command)
  sent : ∃ events, (s.dispatch layer (.query command) w).2.trace = w.trace ++ events ∧
    (handedOver events = [command] ∨ handedOver events = [] ∧ Unreached events)
  world_eq : ∀ {α : Type} (take : Session.Take α),
    ((q.taking take).perform layer s w).2 = (s.dispatch layer (.query command) w).2
  session_eq : ∃ left, ∀ {α : Type} (take : Session.Take α), ((q.taking take).perform layer s w).1.2 = left
  failed : ∀ failure, (s.dispatch layer (.query command) w).1 = .error failure →
    ∀ {α : Type} (take : Session.Take α), ((q.taking take).perform layer s w).1.1 = .error failure
  taken : ∀ outcome, (s.dispatch layer (.query command) w).1 = .ok outcome →
    ∀ {α : Type}, Session.TakenFrom outcome.resultSet.rows (readOutputs command.outputs outcome.outputs)
      fun take : Session.Take α => ((q.taking take).perform layer s w).1.1

/-- Whatever state a session is in and whatever its data layer does, the ways of taking the rows of a request send
the same events, with one and the same command in them, and leave the session alike. Where the command fails, each of
them reports its failure; where it succeeds, they answer from the same rows and the same outputs. -/
theorem takings_agree (runs : q.Runs s) (layer : DataLayer σ) (w : World σ) :
    ∃ command, q.Agrees layer s w command := by
  obtain ⟨command, left, outputs, performed⟩ := runs.perform_taking layer w
  have sent := s.dispatch_handsOver layer (rfl : (Call.query command).command? = some command) w
  refine ⟨command, outputs, fun take => (performed take).1, sent, ?_, ⟨left, ?_⟩, ?_, ?_⟩
  · intro α take
    rw [(performed take).2]
  · intro α take
    rw [(performed take).2]
  · intro failure refused α take
    rw [(performed take).2, refused]
    rfl
  · intro outcome answered α
    have read : (fun take : Session.Take α => ((q.taking take).perform layer s w).1.1) =
        fun take => take.read command outcome := by
      funext take
      rw [(performed take).2, answered]
      rfl
    rw [read]
    exact Session.takenFrom_read command outcome

/-- A call with an output, and two rows of which the second does not fit. -/
theorem takings_agree_unfit :
    let q : RowRequest := .called "dbo.Report" [.withOutputs [.new "total" .int64]]
    let set := ((ResultSet.empty.setColumns ["n"]).addRow [.int 1]).addRow [.null]
    let w : World Recorder.State := ⟨⟨{ resultSet := set, outputs := [("@total", .int 7)] }, []⟩, 0, none, []⟩
    let decode : Json → Except Mapping.Flaw Int := fun
      | .object [(_, .integer n)] => .ok n.val
      | found => .error (.wrongKind found "i64")
    let answer := fun take : Session.Take Int => ((q.taking take).perform Recorder.layer (.new "") w).1.1
    q.Runs (.new "") ∧ (∃ command, q.Agrees Recorder.layer (.new "") w command) ∧
      answer (.firstMapped decode) = .ok (some ⟨.taken (.oneMapped (some 1)), [("total", .int 7)]⟩) ∧
      ∃ message, answer (.mapped decode) = .error (.mapping message) := by
  intro q set w decode answer
  have runs : q.Runs (.new "") := ⟨_, _, rfl⟩
  exact ⟨runs, takings_agree runs Recorder.layer w, rfl, _, rfl⟩

end RowRequest

end TypedSql
