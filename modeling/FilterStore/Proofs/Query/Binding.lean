import FilterStore.Proofs.Query.Parts

/-!
# Every placeholder gets its cell

The engine binds the first cell to the first placeholder, the second to the second, and so on.  The
compiler writes the text of a statement and collects its cells in different places, so that they
belong together has to be shown.

All requests come down to one fact: the statement of a request is woven from raw clauses among the
selected columns, a placeholder for each field of the record, and the condition of each leaf of the
filter, in this order.  The placeholders are aligned by themselves, and so are the conditions as
long as no raw clause in them leaves a quote open.

## Selected columns

Raw clauses among the selected columns are not checked at all.  So there are two ways for a
statement to go wrong.  A selected raw clause may have more or fewer cells than placeholders, and
any raw clause may leave a quote open, which the check does not look at either.  There is no third
way.
-/

namespace FilterStore

open Query (Woven mark)

/-- A request for a statement, or for the condition of a filter alone. -/
inductive Request
  | select (spec : Spec)
  | count (spec : Spec)
  | delete (spec : Spec)
  | insert (record : Record)
  | update (record : Record) (spec : Spec)
  | condition (filter : List Entry) (connective : Option Connective)

namespace Request

/-- The statement of a request on a table.  An empty filter has no condition. -/
def compile (r : Registry) (table : String) : Request → Except Error (Option Query)
  | select spec => (r.compileSelect table spec).map some
  | count spec => (r.compileCount table spec).map some
  | delete spec => (r.compileDelete table spec).map some
  | insert record => (r.compileInsert table record).map some
  | update record spec => (r.compileUpdate table record spec).map some
  | condition filter connective => r.compileWhere table filter connective

/-- The columns that are selected; only a selection has any. -/
def columns : Request → List Selector
  | select spec => spec.columns
  | _ => []

/-- The fields of the record. -/
def fields : Request → List (String × Value)
  | insert record => record.fields
  | update record _ => record.fields
  | _ => []

def filter : Request → List Entry
  | select spec => spec.filter
  | count spec => spec.filter
  | delete spec => spec.filter
  | insert _ => []
  | update _ spec => spec.filter
  | condition filter _ => filter

end Request

/-! ## Every statement is woven from its parts -/

/-- The parts of the statement of a request, from left to right. -/
structure Parts (r : Registry) (t : TableDefinition) (request : Request) where
  fields : List (String × Cell)
  bodies : List Query
  fields_eq : Statement.fields r t 0 request.fields = .ok fields
  bodies_eq : Bodies r t request.filter bodies

namespace Parts

variable {r : Registry} {t : TableDefinition} {request : Request}

/-- The parts that are not selected columns: a placeholder for each field, and the conditions. -/
def checked (p : Parts r t request) : List Query := p.fields.map (fun f => mark f.2) ++ p.bodies

/-- All parts. -/
def all (p : Parts r t request) : List Query :=
  (selectedRaws request.columns).map RawClause.verbatim ++ p.checked

theorem aligned_checked (ht : t.WellNamed) (p : Parts r t request)
    (hclosed : ∀ raw ∈ writtenRaws request.filter, raw.Closed) :
    ∀ part ∈ p.checked, part.Aligned := by
  intro part hpart
  rcases List.mem_append.mp hpart with hpart | hpart
  · obtain ⟨f, -, rfl⟩ := List.mem_map.mp hpart
    exact Query.aligned_mark f.2
  · exact p.bodies_eq.aligned ht hclosed part hpart

end Parts

namespace Statement

open Placeholder (Plain)

/-- An update assigns a placeholder to each column of a record. -/
theorem woven_assignments {r : Registry} {t : TableDefinition} (ht : t.WellNamed) {index : Nat}
    {record : List (String × Value)} {cells : List (String × Cell)}
    (h : fields r t index record = .ok cells) :
    Woven (cells.map fun f => mark f.2)
      ⟨"UPDATE " ++ t.name ++ " SET " ++ ", ".intercalate (cells.map fun f => f.1 ++ " = ?"),
        cells.map (·.2)⟩ := by
  have hlead : Plain ("UPDATE " ++ t.name ++ " SET ") :=
    (Plain.append (by decide) ht.plain_name).append (by decide)
  have hnamed : ∀ f ∈ cells, Plain (f.1 ++ " = ") := fun f hf =>
    (plain_fields ht h f hf).append (by decide)
  have hassign := Woven.intercalate_marks (by decide : Plain ", ")
    (fun f : String × Cell => f.1 ++ " = ") (·.2) cells hnamed
  have htext : ∀ f : String × Cell, f.1 ++ " = " ++ "?" = f.1 ++ " = ?" := fun f =>
    String.append_assoc
  simp only [htext] at hassign
  exact hassign.prepend hlead

end Statement

namespace Registry

open Placeholder (Plain)

variable {r : Registry} {table : String} {q : Query}

theorem exists_parts_of_compileSelect (hr : r.WellNamed) {spec : Spec}
    (hq : r.compileSelect table spec = .ok q) :
    ∃ t, r.table? table = some t ∧ ∃ p : Parts r t (.select spec), Woven p.all q := by
  obtain ⟨t, ht, hq⟩ := bind_eq_ok_iff.mp hq
  rw [target_eq_ok_iff] at ht
  have hnames := hr t (mem_tables_of_table? ht)
  obtain ⟨columns, hcolumns, hq⟩ := bind_eq_ok_iff.mp hq
  obtain ⟨condition, hcondition, hq⟩ := bind_eq_ok_iff.mp hq
  obtain ⟨order, horder, hq⟩ := bind_eq_ok_iff.mp hq
  cases hq
  obtain ⟨bodies, hbodies, hwoven⟩ := exists_bodies_of_whereClause hcondition
  refine ⟨t, ht, ⟨[], bodies, rfl, hbodies⟩, ?_⟩
  have hselect := (Statement.woven_selectList hnames hcolumns).prepend
    (by decide : Plain "SELECT ")
  have hfrom := hselect.append_text (Plain.append (by decide : Plain " FROM ") hnames.plain_name)
  have htail := (Statement.plain_orderClause hnames horder).append
    (Statement.plain_limitClause spec.limit)
  exact (hfrom.append hwoven).append_text htail

theorem exists_parts_of_compileCount (hr : r.WellNamed) {spec : Spec}
    (hq : r.compileCount table spec = .ok q) :
    ∃ t, r.table? table = some t ∧ ∃ p : Parts r t (.count spec), Woven p.all q := by
  obtain ⟨t, ht, hq⟩ := bind_eq_ok_iff.mp hq
  rw [target_eq_ok_iff] at ht
  obtain ⟨condition, hcondition, hq⟩ := bind_eq_ok_iff.mp hq
  cases hq
  obtain ⟨bodies, hbodies, hwoven⟩ := exists_bodies_of_whereClause hcondition
  have hnames := hr t (mem_tables_of_table? ht)
  have hlead := Plain.append (by decide : Plain "SELECT COUNT(*) FROM ") hnames.plain_name
  exact ⟨t, ht, ⟨[], bodies, rfl, hbodies⟩, hwoven.prepend hlead⟩

theorem exists_parts_of_compileDelete (hr : r.WellNamed) {spec : Spec}
    (hq : r.compileDelete table spec = .ok q) :
    ∃ t, r.table? table = some t ∧ ∃ p : Parts r t (.delete spec), Woven p.all q := by
  obtain ⟨t, ht, hq⟩ := bind_eq_ok_iff.mp hq
  rw [target_eq_ok_iff] at ht
  obtain ⟨condition, hcondition, hq⟩ := bind_eq_ok_iff.mp hq
  cases hq
  obtain ⟨bodies, hbodies, hwoven⟩ := exists_bodies_of_whereClause hcondition
  have hnames := hr t (mem_tables_of_table? ht)
  have hlead := Plain.append (by decide : Plain "DELETE FROM ") hnames.plain_name
  exact ⟨t, ht, ⟨[], bodies, rfl, hbodies⟩, hwoven.prepend hlead⟩

theorem exists_parts_of_compileInsert (hr : r.WellNamed) {record : Record}
    (hq : r.compileInsert table record = .ok q) :
    ∃ t, r.table? table = some t ∧ ∃ p : Parts r t (.insert record), Woven p.all q := by
  obtain ⟨t, ht, hq⟩ := bind_eq_ok_iff.mp hq
  rw [target_eq_ok_iff] at ht
  have hnames := hr t (mem_tables_of_table? ht)
  have hinto : Plain ("INSERT INTO " ++ t.name) := Plain.append (by decide) hnames.plain_name
  split at hq
  · rename_i hempty
    cases hq
    rw [Record.isEmpty, List.isEmpty_iff] at hempty
    have hfields : Statement.fields r t 0 record.fields = .ok [] := by
      rw [hempty]
      rfl
    exact ⟨t, ht, ⟨[], [], hfields, .nil⟩, .plain (hinto.append (by decide))⟩
  · obtain ⟨fields, hfields, hq⟩ := bind_eq_ok_iff.mp hq
    cases hq
    refine ⟨t, ht, ⟨fields, [], hfields, .nil⟩, ?_⟩
    have hcolumns : Plain (", ".intercalate (fields.map (·.1))) := by
      refine Placeholder.Plain.intercalate (by decide) fun name hname => ?_
      obtain ⟨f, hf, rfl⟩ := List.mem_map.mp hname
      exact Statement.plain_fields hnames hfields f hf
    have hlead := ((hinto.append (by decide : Plain " (")).append hcolumns).append
      (by decide : Plain ") VALUES (")
    have hmarks := Woven.intercalate_marks (by decide : Plain ", ") (fun _ => "") (·.2) fields
      fun _ _ => by decide
    rw [List.map_const'] at hmarks
    have h := ((hmarks.prepend hlead).append_text (by decide : Plain ")")).append Woven.empty
    rw [Query.append_empty] at h
    exact h.congr rfl (List.append_nil _)

theorem exists_parts_of_compileUpdate (hr : r.WellNamed) {record : Record} {spec : Spec}
    (hq : r.compileUpdate table record spec = .ok q) :
    ∃ t, r.table? table = some t ∧ ∃ p : Parts r t (.update record spec), Woven p.all q := by
  obtain ⟨t, ht, hq⟩ := bind_eq_ok_iff.mp hq
  rw [target_eq_ok_iff] at ht
  have hnames := hr t (mem_tables_of_table? ht)
  split at hq
  · cases hq
  · obtain ⟨fields, hfields, hq⟩ := bind_eq_ok_iff.mp hq
    obtain ⟨condition, hcondition, hq⟩ := bind_eq_ok_iff.mp hq
    cases hq
    obtain ⟨bodies, hbodies, hwoven⟩ := exists_bodies_of_whereClause hcondition
    exact ⟨t, ht, ⟨fields, bodies, hfields, hbodies⟩,
      (Statement.woven_assignments hnames hfields).append hwoven⟩

/-- **The statement of a request is woven from its parts.** -/
theorem exists_parts_of_compile (hr : r.WellNamed) {request : Request}
    (hq : request.compile r table = .ok (some q)) :
    ∃ t, r.table? table = some t ∧ ∃ p : Parts r t request, Woven p.all q := by
  cases request with
  | select spec =>
    obtain ⟨_, hq, ⟨⟩⟩ := map_eq_ok_iff.mp hq
    exact exists_parts_of_compileSelect hr hq
  | count spec =>
    obtain ⟨_, hq, ⟨⟩⟩ := map_eq_ok_iff.mp hq
    exact exists_parts_of_compileCount hr hq
  | delete spec =>
    obtain ⟨_, hq, ⟨⟩⟩ := map_eq_ok_iff.mp hq
    exact exists_parts_of_compileDelete hr hq
  | insert record =>
    obtain ⟨_, hq, ⟨⟩⟩ := map_eq_ok_iff.mp hq
    exact exists_parts_of_compileInsert hr hq
  | update record spec =>
    obtain ⟨_, hq, ⟨⟩⟩ := map_eq_ok_iff.mp hq
    exact exists_parts_of_compileUpdate hr hq
  | condition filter connective =>
    have hne : filter ≠ [] := by
      rintro rfl
      obtain ⟨t, -, hq⟩ := bind_eq_ok_iff.mp hq
      cases hq
    obtain ⟨t, ht, _, hq, ⟨⟩⟩ := (compileWhere_eq_ok_iff hne).mp hq
    obtain ⟨bodies, hbodies, hwoven⟩ := exists_bodies_of_compileFrom hq
    exact ⟨t, ht, ⟨[], bodies, rfl, hbodies⟩, hwoven⟩

end Registry

/-! ## Cells and placeholders -/

namespace Registry

variable {r : Registry} {table : String} {q : Query}

/-- **Every placeholder gets its cell.**  If no raw clause is selected and those in the filter leave
no quote open, the statement of a request is woven from aligned parts: a placeholder for each field
of the record in its order, then the conditions of the filter in theirs.  So there is a cell for
each placeholder, and those before a part are as many as the cells of the parts before it. -/
theorem placeholders_of_compile (hr : r.Reachable) {request : Request}
    (hcolumns : selectedRaws request.columns = [])
    (hclosed : ∀ raw ∈ writtenRaws request.filter, raw.Closed)
    (hq : request.compile r table = .ok (some q)) :
    q.placeholders = q.values.length ∧
      ∃ t, r.table? table = some t ∧ ∃ p : Parts r t request,
        Woven p.checked q ∧ (∀ part ∈ p.checked, part.Aligned) ∧
          ∀ before part after, p.checked = before ++ part :: after →
            ∃ front back, q = front ++ part ++ back ∧ front.Aligned ∧ back.Aligned ∧
              front.values = before.flatMap Query.values := by
  obtain ⟨t, ht, p, hwoven⟩ := exists_parts_of_compile hr.wellNamed hq
  have hall : p.all = p.checked := by
    rw [Parts.all, hcolumns, List.map_nil, List.nil_append]
  rw [hall] at hwoven
  have haligned := p.aligned_checked (hr.wellNamed t (mem_tables_of_table? ht)) hclosed
  refine ⟨(hwoven.aligned haligned).arity, t, ht, p, hwoven, haligned, ?_⟩
  intro before part after hparts
  rw [hparts] at hwoven haligned
  obtain ⟨front, back, hq, hfront, hback⟩ := hwoven.exists_split
  refine ⟨front, back, hq, hfront.aligned ?_, hback.aligned ?_, hfront.values⟩
  · exact fun p hp => haligned p (List.mem_append_left _ hp)
  · exact fun p hp => haligned p (List.mem_append_right _ (List.mem_cons_of_mem part hp))

/-- Moving the users of a filter to Berlin. -/
def moving : Request :=
  .update ⟨[("city", .text "Berlin")]⟩ ⟨ageOrCity.flatten, [], none, some .xor, []⟩

theorem placeholders_of_moving :
    ofUsers.Reachable ∧ selectedRaws moving.columns = [] ∧
      (∀ raw ∈ writtenRaws moving.filter, raw.Closed) ∧
      moving.compile ofUsers "user" = .ok (some
        ⟨"UPDATE user SET city = ? WHERE (age > ?) OR ((city = ?) <> (age < ?))",
          [.text "Berlin", .integer 18, .text "Berlin", .integer 5]⟩) ∧
      Placeholder.count
        "UPDATE user SET city = ? WHERE (age > ?) OR ((city = ?) <> (age < ?))" = 4 := by
  have hcolumns : selectedRaws moving.columns = [] := rfl
  have hclosed : ∀ raw ∈ writtenRaws moving.filter, raw.Closed := by
    have hraws : writtenRaws moving.filter = [⟨" age < ? ", [.integer 5]⟩] := rfl
    rw [hraws]
    rintro raw (_ | ⟨_, ⟨⟩⟩)
    rfl
  have hq : moving.compile ofUsers "user" = .ok (some
      ⟨"UPDATE user SET city = ? WHERE (age > ?) OR ((city = ?) <> (age < ?))",
        [.text "Berlin", .integer 18, .text "Berlin", .integer 5]⟩) := rfl
  refine ⟨ofUsers_reachable, hcolumns, hclosed, hq, ?_⟩
  exact (placeholders_of_compile ofUsers_reachable hcolumns hclosed hq).1

end Registry

/-! ## Raw clauses that are not checked -/

/-- A raw clause that has been accepted and leaves no quote open is aligned as it is given. -/
theorem RawClause.aligned_verbatim {raw : RawClause} (haccepted : raw.Accepted)
    (hclosed : raw.Closed) : raw.verbatim.Aligned where
  closed := hclosed
  arity := haccepted.arity

namespace Registry

variable {r : Registry} {table : String} {q : Query}

/-- **What a selection leaves unchecked.**  All raw clauses in a selection are sound, and the parts
of the statement get their own cells, exactly if the selected ones have a cell for each placeholder
and a text, and none leaves a quote open.  The raw clauses in the filter have been counted. -/
theorem compileSelect_sound_iff (hr : r.Reachable) {spec : Spec}
    (hq : r.compileSelect table spec = .ok q) :
    ((∀ raw ∈ selectedRaws spec.columns ++ writtenRaws spec.filter, raw.Accepted ∧ raw.Closed) ∧
        q.placeholders = q.values.length ∧
        ∃ t, r.table? table = some t ∧ ∃ p : Parts r t (.select spec),
          Woven p.all q ∧ ∀ part ∈ p.all, part.Aligned) ↔
      (∀ raw ∈ selectedRaws spec.columns, raw.Accepted) ∧
        ∀ raw ∈ selectedRaws spec.columns ++ writtenRaws spec.filter, raw.Closed := by
  constructor
  · rintro ⟨hsound, -⟩
    exact ⟨fun raw hraw => (hsound raw (List.mem_append_left _ hraw)).1,
      fun raw hraw => (hsound raw hraw).2⟩
  · rintro ⟨haccepted, hclosed⟩
    obtain ⟨t, ht, p, hwoven⟩ := exists_parts_of_compileSelect hr.wellNamed hq
    have hwritten : ∀ raw ∈ writtenRaws spec.filter, raw.Closed := fun raw hraw =>
      hclosed raw (List.mem_append_right _ hraw)
    have haligned : ∀ part ∈ p.all, part.Aligned := by
      intro part hpart
      rcases List.mem_append.mp hpart with hpart | hpart
      · obtain ⟨raw, hraw, rfl⟩ := List.mem_map.mp hpart
        exact RawClause.aligned_verbatim (haccepted raw hraw)
          (hclosed raw (List.mem_append_left _ hraw))
      · exact p.aligned_checked (hr.wellNamed t (mem_tables_of_table? ht)) hwritten part hpart
    refine ⟨fun raw hraw => ⟨?_, hclosed raw hraw⟩, (hwoven.aligned haligned).arity, t, ht, p,
      hwoven, haligned⟩
    rcases List.mem_append.mp hraw with hraw | hraw
    · exact haccepted raw hraw
    · exact p.bodies_eq.accepted raw hraw

/-- A selection of next year's ages, for users who have an age. -/
def nextAges : Spec :=
  ⟨[.raw ⟨"age > ?", [.integer 0]⟩], [.raw ⟨"age + ?", [.integer 1]⟩], none, none, []⟩

theorem placeholders_of_nextAges :
    ofUsers.Reachable ∧
      ofUsers.compileSelect "user" nextAges =
        .ok ⟨"SELECT age + ? FROM user WHERE (age > ?)", [.integer 1, .integer 0]⟩ ∧
      Placeholder.count "SELECT age + ? FROM user WHERE (age > ?)" = 2 := by
  have hq : ofUsers.compileSelect "user" nextAges =
      .ok ⟨"SELECT age + ? FROM user WHERE (age > ?)", [.integer 1, .integer 0]⟩ := rfl
  have hsound : (∀ raw ∈ selectedRaws nextAges.columns, raw.Accepted) ∧
      ∀ raw ∈ selectedRaws nextAges.columns ++ writtenRaws nextAges.filter, raw.Closed := by
    refine ⟨?_, ?_⟩
    · rintro raw (_ | ⟨_, ⟨⟩⟩)
      exact ⟨by decide, by decide⟩
    · rintro raw (_ | ⟨_, _ | ⟨_, ⟨⟩⟩⟩) <;> rfl
  exact ⟨ofUsers_reachable, hq, ((compileSelect_sound_iff ofUsers_reachable hq).mpr hsound).2.1⟩

/-- Two selections that compile although their cells do not match: one whose selected column has no
cell for its placeholder, and one whose first clause opens a quote that hides the placeholder of the
second. -/
theorem compileSelect_unsound :
    ofUsers.Reachable ∧
      (ofUsers.compileSelect "user" ⟨[], [.raw ⟨"age + ?", []⟩], none, none, []⟩ =
          .ok ⟨"SELECT age + ? FROM user", []⟩ ∧
        Placeholder.count "SELECT age + ? FROM user" = 1) ∧
      ofUsers.compileSelect "user"
          ⟨[.raw ⟨"city = \x27x", []⟩, .column ⟨"age", "=", some (.value (.integer 1)), none⟩], [],
            none, none, []⟩ =
          .ok ⟨"SELECT age, city FROM user WHERE (city = \x27x) AND (age = ?)", [.integer 1]⟩ ∧
        Placeholder.count "SELECT age, city FROM user WHERE (city = \x27x) AND (age = ?)" = 0 := by
  exact ⟨ofUsers_reachable, ⟨rfl, by decide⟩, rfl, by decide⟩

end Registry

end FilterStore
