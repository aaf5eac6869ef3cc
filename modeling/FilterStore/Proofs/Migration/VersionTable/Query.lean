import FilterStore.Proofs.Engine.RowQuery
import FilterStore.Proofs.Migration.Greatest
import FilterStore.Proofs.Migration.VersionTable.Sound

/-!
# Asking for the greatest version

The query for the greatest version is read once and for all.  On a database with a sound table of
versions it is prepared without fault and answers the greatest version there is; without a table it
is refused for just that reason.  So what is recorded is known (`recorded_eq`).
-/

namespace FilterStore.VersionTable

open Engine
open Sql (Expr Select Token Parsed Projection)

/-! ## The statements as they are read -/

/-- The greatest version. -/
def maxVersion : Expr :=
  .aggregate .max { name := "MAX", offset := 7 } false
    (.column { table := none, name := "version", quoted := false, offset := 11 })

/-- Where it is looked for. -/
def maxSource : Sql.Source := { table := standardVersionTable, name := standardVersionTable }

/-- The query for the greatest version. -/
def maxQuery : Select :=
  .mk false [.value maxVersion "MAX(version)" false] (some maxSource) (.literal (.integer 1)) []
    (.literal (.integer 1)) [] maxVersion (.literal (.integer (-1))) (.literal (.integer 0))

theorem tokens_greatestSql :
    Token.ofText (greatestSql standardVersionTable) =
      [⟨.word, "", "SELECT", 0⟩, ⟨.word, " ", "MAX", 7⟩, ⟨.symbol, "", "(", 10⟩,
        ⟨.word, "", "version", 11⟩, ⟨.symbol, "", ")", 18⟩, ⟨.word, " ", "FROM", 20⟩,
        ⟨.word, " ", standardVersionTable, 25⟩, ⟨.finish, "", "", 35⟩] := by
  decide +kernel

theorem parsed_greatestSql :
    Parsed.ofText (greatestSql standardVersionTable) =
      .ok (some ⟨.change (.select maxQuery), 0, ""⟩) := by
  unfold Parsed.ofText
  rw [tokens_greatestSql]
  rfl

/-- What is known of the columns of the table of versions. -/
def ledgerColumns : List ColumnShape :=
  [⟨"version", .integer, .binary⟩, ⟨"applied", .integer, .binary⟩]

theorem checkSelect_maxQuery {w : World} {r : Relation}
    (hw : w.relation standardVersionTable = .ok r) (hr : r.columns = ledgerColumns)
    (hn : r.numbered = true) : checkSelect w [] maxQuery = .ok () := by
  have own : sourceShapes w (some maxSource) =
      [⟨standardVersionTable, ledgerColumns, false, true⟩] := by
    simp [sourceShapes, maxSource, World.relation?, hw, Except.toOption, Relation.shape, hr, hn]
  have table : checkTable w maxQuery = .ok () := by
    simp only [maxQuery, maxSource, checkTable, checkSource, hw]
    rfl
  have tables : [maxQuery].forM (checkTable w) = .ok () := by
    show (checkTable w maxQuery >>= fun _ => pure ()) = _
    rw [table]
    rfl
  unfold maxQuery at tables ⊢
  unfold checkSelect
  have queries : maxQuery.queries = [maxQuery] := rfl
  unfold maxQuery at queries
  rw [queries, tables, own]
  rfl

theorem checkSelect_maxQuery_error {w : World} {f : Sql.Fault}
    (hw : w.relation standardVersionTable = .error f) : checkSelect w [] maxQuery = .error f := by
  have table : checkTable w maxQuery = .error f := by
    simp only [maxQuery, maxSource, checkTable, checkSource, hw]
    rfl
  have tables : [maxQuery].forM (checkTable w) = .error f := by
    show (checkTable w maxQuery >>= fun _ => pure ()) = _
    rw [table]
    rfl
  have queries : maxQuery.queries = [maxQuery] := rfl
  unfold maxQuery at tables queries ⊢
  unfold checkSelect
  rw [queries, tables]
  rfl

/-- The shape of rows of the table of versions. -/
def ledgerShape : Shape := ⟨standardVersionTable, ledgerColumns, false, true⟩

/-- The rows of the table of versions as a group. -/
def ledgerGroup (rows : List Row) : List (List Frame) := rows.map fun row => [⟨ledgerShape, row⟩]

theorem mapM_version (w : World) (rows : List Row) :
    ((ledgerGroup rows).mapM fun fs => eval w .value fs []
      (.column { table := none, name := "version", quoted := false, offset := 11 })) =
      .ok (versionsIn rows) := by
  unfold ledgerGroup
  rw [List.mapM_map]
  exact mapM_of_ok fun _ _ => rfl

/-- Whatever row the guide leads to, it has the shape of the table's rows. -/
theorem exists_guided {w : World} {r : Relation} (hw : w.relation standardVersionTable = .ok r)
    (shape : r.shape standardVersionTable = ledgerShape) (rows : List Row) :
    ∃ guided, guidedBy w (ledgerGroup rows) maxVersion = .ok guided ∧
      shapesOf (guided.getD (nullFrames w []
        (some maxSource))) = [ledgerShape] := by
  have null : shapesOf (nullFrames w []
      (some maxSource)) = [ledgerShape] := by
    simp [nullFrames, maxSource, World.relation?, hw, Except.toOption, shape, shapesOf]
  unfold maxVersion guidedBy
  rw [mapM_version]
  refine ⟨_, rfl, ?_⟩
  rcases found : (ledgerGroup rows)[guideIndex _ .max (versionsIn rows)]? with _ | fs
  · exact null
  · obtain ⟨row, -, rfl⟩ := List.mem_map.mp (List.mem_of_getElem? found)
    rfl

theorem project_maxVersion (w : World) {fs : List Frame} (h : shapesOf fs = [ledgerShape])
    (rows : List Row) :
    project w fs (ledgerGroup rows) [.value maxVersion "MAX(version)" false] =
      .ok [greatest (versionsIn rows)] := by
  have value : eval w .value fs (ledgerGroup rows) maxVersion =
      .ok (greatest (versionsIn rows)) := by
    unfold maxVersion eval
    simp only [Demand.passes, mapM_version]
    show applyToGroup fs .max false _ (versionsIn rows) = _
    unfold applyToGroup
    rw [h]
    exact applyAggregate_max _
  unfold project
  rw [value]
  rfl

theorem queryRows_maxQuery {w : World} {r : Relation}
    (hw : w.relation standardVersionTable = .ok r) (hr : r.columns = ledgerColumns)
    (hn : r.numbered = true) :
    queryRows w [] false maxQuery = .ok [[greatest (versionsIn r.rows)]] := by
  have shape : r.shape standardVersionTable = ledgerShape := by
    simp [Relation.shape, ledgerShape, hr, hn]
  obtain ⟨guided, led, known⟩ := exists_guided hw shape r.rows
  have all : ((r.rows.filter fun _ => true).map fun row =>
      [(⟨r.shape maxSource.name, row⟩ : Frame)]) = ledgerGroup r.rows := by
    rw [List.filter_true, ledgerGroup, ← shape]
    rfl
  exact queryRows_group hw (picks_always ..) rfl
    ((congrArg (guidedBy w · maxVersion) all).trans led)
    ((congrArg (project w _ · _) all).trans (project_maxVersion w known r.rows))

/-! ## What is recorded -/

theorem relation_of_some {d : Database} {t : Table} (now : Calendar.Instant)
    (h : d.table? standardVersionTable = some t) (parts : t.parts = ledgerParts) :
    ∃ r, d.relation now standardVersionTable = .ok r ∧ r.columns = ledgerColumns ∧
      r.numbered = true ∧ r.rows = t.rows := by
  refine ⟨{ t.relation with
    sought := t.relation.sought ++ (d.indexesOf t.name).filterMap Index.firstColumn? },
    ?_, ?_, rfl, rfl⟩
  · unfold Database.relation Database.relationWithin Database.tableRelation?
    rw [h]
  · show t.columnShapes = _
    unfold Table.columnShapes Table.columns
    rw [parts]
    rfl

theorem relation_of_none {d : Database} (now : Calendar.Instant)
    (h : d.table? standardVersionTable = none) (view : d.view? standardVersionTable = none) :
    d.relation now standardVersionTable = .error (.noSuchTable standardVersionTable false) := by
  have plain : d.tableRelation? standardVersionTable = none := by
    unfold Database.tableRelation?
    rw [h]
    rfl
  unfold Database.relation Database.relationWithin
  rw [plain, view]

/-- Preparing the query looks up the table. -/
theorem prepare_maxQuery (c : Connection) :
    prepare c (greatestSql standardVersionTable) =
      (checkSelect (c.world [] .statement) [] maxQuery).map fun _ =>
        some ⟨.change (.select maxQuery), 0, ""⟩ := by
  have checked : c.checkChange (.select maxQuery) =
      checkSelect (c.world [] .statement) [] maxQuery := by
    have collations : checkQueryCollations maxQuery = .ok () := rfl
    have names : c.database.checkNames (c.world [] .statement) [] (.select maxQuery) =
        checkSelect (c.world [] .statement) [] maxQuery := by
      show (checkSelect (c.world [] .statement) [] maxQuery >>= fun _ =>
        checkQueryCollations maxQuery) = _
      rw [collations]
      rcases checkSelect (c.world [] .statement) [] maxQuery with fault | ⟨⟩ <;> rfl
    have whole : ∀ inner, c.database.checkWhole (c.world [] .statement) c.foreignKeys inner [] []
        (.select maxQuery) = checkSelect (c.world [] .statement) [] maxQuery := by
      intro inner
      unfold Database.checkWhole
      rw [names]
      rcases checkSelect (c.world [] .statement) [] maxQuery with fault | ⟨⟩ <;> rfl
    unfold Connection.checkChange
    rcases c.database.depth with _ | depth <;> exact whole _
  unfold prepare
  rw [parsed_greatestSql]
  show (c.checkChange (.select maxQuery) >>= fun _ => Except.ok _) = _
  rw [checked]
  rfl

theorem recorded_eq {c : Connection} (h : Sound c.database) :
    recorded standardVersionTable c = .ok (Recorded.ofCells (versionsOf c.database)) := by
  have asked : ((Work.query (.text (greatestSql standardVersionTable))) c).1 =
      ((Work.query (.text (greatestSql standardVersionTable))).run c).1 := rfl
  have world : (c.world [] .statement).relation standardVersionTable =
    c.database.relation c.now standardVersionTable := rfl
  unfold recorded versionsOf
  rw [asked, Work.run_query]
  cases found : c.database.table? standardVersionTable with
  | none =>
    have missing := checkSelect_maxQuery_error (world.trans (relation_of_none c.now found h.view))
    have prepared : Work.prepared c (greatestSql standardVersionTable) =
        .error ⟨.noSuchTable standardVersionTable false, greatestSql standardVersionTable,
          some (greatestSql standardVersionTable)⟩ := by
      unfold Work.prepared
      rw [prepare_maxQuery, missing]
      rfl
    have misses : (⟨.noSuchTable standardVersionTable false, greatestSql standardVersionTable,
        some (greatestSql standardVersionTable)⟩ : Sql.EngineError).missesTable = true := rfl
    have text : (Query.text (greatestSql standardVersionTable)).sql =
        greatestSql standardVersionTable := rfl
    rw [text, prepared]
    simp only [misses, if_true]
    rfl
  | some t =>
    obtain ⟨r, relation, columns, numbered, rows⟩ :=
      relation_of_some c.now found (h.table t found).2.1
    have prepared : Work.prepared c (greatestSql standardVersionTable) =
        .ok (some ⟨.change (.select maxQuery), 0, ""⟩) := by
      unfold Work.prepared
      rw [prepare_maxQuery, checkSelect_maxQuery (world.trans relation) columns numbered]
      rfl
    have text : (Query.text (greatestSql standardVersionTable)).sql =
        greatestSql standardVersionTable := rfl
    have queried := queryRows_maxQuery (world.trans relation) columns numbered
    have given : (Query.text (greatestSql standardVersionTable)).values.map bound = [] := rfl
    have enough : checkParameters (Query.text (greatestSql standardVersionTable)).values.length 0 =
      .ok () := rfl
    simp only [text, prepared, enough, given, Step.run_perform_select, queried, first_answer, rows]
    rfl

end FilterStore.VersionTable
