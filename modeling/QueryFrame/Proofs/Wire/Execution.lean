import QueryFrame.Proofs.Wire.Delivery

/-!
# What a statement makes the server do

A statement that is prepared is executed only if the types of all its columns are supported, and
then exactly once. What it comes to is the first thing that goes wrong: the first column of an
unsupported type, the server's own failure, or the first cell that cannot be scanned, row after row.
-/

namespace QueryFrame.Wire

/-- The server has the statement and describes its columns. -/
structure Prepared (reply : Reply) (sql : String) (c : Connection) : Prop where
  isOpen : c.isOpen = true
  sendable : isSendable sql = true
  fault : reply.fault = none ∨ reply.fault = some .execute

/-- The cells of a reply, row after row, with the shapes and the types of their columns. -/
def Reply.cells (reply : Reply) (shapes : List ScanShape) :
    List ((ScanShape × ColumnType) × Cell) :=
  reply.rows.flatMap (shapes.zip (reply.columns.map StatementColumn.type)).zip

/-- The shapes are those in which the registry has the columns scanned. -/
def Reply.ScannedIn (reply : Reply) (registry : Registry) (shapes : List ScanShape) : Prop :=
  List.Forall₂ (fun column shape => ∃ converter,
    registry.resolve column.type.typeName = .ok converter ∧ converter.shape = shape)
      reply.columns shapes

/-- One of the cells cannot be scanned, and the first of those fails with the error. -/
def FailsFirst (cells : List ((ScanShape × ColumnType) × Cell)) (e : QueryError) : Prop :=
  ∃ before cell after, cells = before ++ cell :: after ∧
    (∀ b ∈ before, ∃ value, scanEntry b = .ok value) ∧ scanEntry cell = .error e

section

variable {registry : Registry} {reply : Reply} {sql : String} {c : Connection} {e : QueryError}
  {shapes : List ScanShape}

private theorem run_of_prepared (registry : Registry) (h : Prepared reply sql c) :
    (run registry reply sql).run c =
      match reply.shapes registry with
      | .error e => (.error e, c.send (.prepare sql))
      | .ok shapes =>
        (if reply.fault = some .execute then .error (.queryFailed "the statement fails")
          else reply.scanned shapes, (c.send (.prepare sql)).send .execute) := by
  rw [run]
  simp only [StateT.run_bind, StateT.run_get, pure_bind, h.isOpen, h.sendable]
  rcases h.fault with hfault | hfault
  · rw [hfault]
    cases reply.shapes registry <;> rfl
  · rw [hfault]
    cases reply.shapes registry <;> rfl

private theorem exists_shape_iff {name : String} :
    (∃ shape, (registry.resolve name).map Converter.shape = .ok shape) ↔
      registry.resolve? name ≠ none := by
  rw [Registry.resolve]
  cases registry.resolve? name <;> simp [Except.map]

theorem exists_shapes_iff : (∃ shapes, reply.shapes registry = .ok shapes) ↔
    ∀ column ∈ reply.columns, registry.resolve? column.type.typeName ≠ none := by
  rw [Reply.shapes, Reply.resultColumns, List.mapM_map, exists_mapM_eq_ok_iff]
  simp only [Function.comp_apply, exists_shape_iff]

theorem shapes_eq_error_iff :
    reply.shapes registry = .error e ↔ ∃ before column after,
      reply.columns = before ++ column :: after ∧
        (∀ b ∈ before, registry.resolve? b.type.typeName ≠ none) ∧
        registry.resolve? column.type.typeName = none ∧
        e = .unsupportedType column.type.typeName := by
  rw [Reply.shapes, Reply.resultColumns, List.mapM_map, mapM_eq_error_iff]
  simp only [Function.comp_apply, exists_shape_iff, map_eq_error_iff,
    Registry.resolve_eq_error_iff]

private theorem mapM_scanEntry_cells
    (hwidths : ∀ row ∈ reply.rows, reply.columns.length ≤ row.length)
    (hshapes : shapes.length = reply.columns.length) :
    (reply.cells shapes).mapM scanEntry =
      (reply.rows.mapM (scanRow (shapes.zip (reply.columns.map StatementColumn.type)))).map
        List.flatten := by
  have hlayout : (shapes.zip (reply.columns.map StatementColumn.type)).length =
      reply.columns.length := by simp [hshapes]
  have hrows : ∀ row ∈ reply.rows, ((shapes.zip (reply.columns.map StatementColumn.type)).zip
      row).mapM scanEntry = scanRow (shapes.zip (reply.columns.map StatementColumn.type)) row := by
    intro row hrow
    exact (scanRow_eq_mapM (hlayout ▸ hwidths row hrow)).symm
  rw [Reply.cells, mapM_flatMap, mapM_congr hrows]

theorem scanned_eq_error_iff (hwidths : ∀ row ∈ reply.rows, reply.columns.length ≤ row.length)
    (hshapes : shapes.length = reply.columns.length) :
    reply.scanned shapes = .error e ↔ FailsFirst (reply.cells shapes) e := by
  rw [FailsFirst, ← mapM_eq_error_iff, mapM_scanEntry_cells hwidths hshapes, map_eq_error_iff,
    scanned_eq, map_eq_error_iff]

private theorem exists_scanned_iff (hwidths : ∀ row ∈ reply.rows, reply.columns.length ≤ row.length)
    (hshapes : shapes.length = reply.columns.length) :
    (∃ raw, reply.scanned shapes = .ok raw) ↔
      ∀ cell ∈ reply.cells shapes, ∃ value, scanEntry cell = .ok value := by
  rw [← exists_mapM_eq_ok_iff, mapM_scanEntry_cells hwidths hshapes, scanned_eq]
  cases reply.rows.mapM (scanRow (shapes.zip (reply.columns.map StatementColumn.type))) <;>
    simp [Except.map]

end

/-- What a prepared statement makes the server do, and what it comes to. -/
theorem run_executes (registry : Registry) (reply : Reply) (sql : String) (c : Connection)
    (h : Prepared reply sql c) :
    ((∃ column ∈ reply.columns, registry.resolve? column.type.typeName = none) →
      ∃ before column after, reply.columns = before ++ column :: after ∧
        (∀ b ∈ before, registry.resolve? b.type.typeName ≠ none) ∧
        registry.resolve? column.type.typeName = none ∧
        (run registry reply sql).run c = (.error (.unsupportedType column.type.typeName),
          { c with requests := c.requests ++ [.prepare sql] })) ∧
    ((∀ column ∈ reply.columns, registry.resolve? column.type.typeName ≠ none) →
      ∃ shapes outcome, reply.ScannedIn registry shapes ∧
        (run registry reply sql).run c =
          (outcome, { c with requests := c.requests ++ [.prepare sql, .execute] }) ∧
        (reply.fault = some .execute → ∃ reason, outcome = .error (.queryFailed reason)) ∧
        (reply.fault = none → (∀ row ∈ reply.rows, reply.columns.length ≤ row.length) →
          (∀ e, outcome = .error e ↔ FailsFirst (reply.cells shapes) e) ∧
          ((∃ raw, outcome = .ok raw) ↔
            ∀ cell ∈ reply.cells shapes, ∃ value, scanEntry cell = .ok value))) ∧
    ∀ shape : ScanShape, shape.kind ∈ [.int8, .uint8, .uint16, .uint32, .uint64] →
      ∀ type cell, scan shape type cell = .error (.queryFailed
        ("cannot scan " ++ shape.kind.name ++ " from a " ++ type.name ++ " column")) := by
  have hrun := run_of_prepared registry h
  refine ⟨?_, ?_, ?_⟩
  · rintro ⟨unsupported, hunsupported, hnone⟩
    cases hshapes : reply.shapes registry with
    | ok shapes => exact absurd hnone (exists_shapes_iff.1 ⟨shapes, hshapes⟩ _ hunsupported)
    | error e =>
      obtain ⟨before, column, after, hcolumns, hbefore, hnone, rfl⟩ := shapes_eq_error_iff.1 hshapes
      refine ⟨before, column, after, hcolumns, hbefore, hnone, ?_⟩
      rw [hrun, hshapes]
      rfl
  · intro hsupported
    obtain ⟨shapes, hshapes⟩ := exists_shapes_iff.2 hsupported
    have hscanned : reply.ScannedIn registry shapes := shapes_eq_ok_iff.1 hshapes
    have hlength : shapes.length = reply.columns.length := hscanned.length_eq.symm
    rw [hshapes] at hrun
    refine ⟨shapes, if reply.fault = some .execute then .error (.queryFailed "the statement fails")
      else reply.scanned shapes, hscanned, ?_, ?_, ?_⟩
    · rw [hrun]
      simp [Connection.send]
    · intro hfault
      exact ⟨_, if_pos hfault⟩
    · intro hfault hwidths
      rw [if_neg (by simp [hfault])]
      exact ⟨fun e => scanned_eq_error_iff hwidths hlength, exists_scanned_iff hwidths hlength⟩
  · intro shape hkind type cell
    apply scan_unscannable
    generalize shape.kind = kind at hkind ⊢
    cases kind <;> simp [scannable] at hkind ⊢

/-- Two columns of types that no converter is for, behind one of numbers. -/
def draftReply : Reply where
  columns := [⟨"n", .int4⟩, ⟨"body", .other "text"⟩, ⟨"id", .other "uuid"⟩]
  rows := [[none, none, none]]

/-- A registry that takes the numbers of the wire for unsigned ones. -/
def unsigned : Registry where
  converters := [.passing "Optional<Int32>" (.plain .uint32) ⟨.uint32, false⟩]
  nodup_names := by decide

/-- A row with a null, and one without. -/
def countReply : Reply where
  columns := [⟨"n", .int4⟩]
  rows := [[none], [some (.int4 7)]]

theorem run_executes_drafts :
    Prepared draftReply "SELECT * FROM drafts" {} ∧ Prepared countReply "SELECT n FROM drafts" {} ∧
    (run .standard draftReply "SELECT * FROM drafts").run {} =
      (.error (.unsupportedType "text"), { requests := [.prepare "SELECT * FROM drafts"] }) ∧
    (run unsigned countReply "SELECT n FROM drafts").run {} =
      (.error (.queryFailed "cannot scan u32 from a int4 column"),
        { requests := [.prepare "SELECT n FROM drafts", .execute] }) := by
  have hdraft : Prepared draftReply "SELECT * FROM drafts" {} := ⟨rfl, by decide, .inl rfl⟩
  have hcount : Prepared countReply "SELECT n FROM drafts" {} := ⟨rfl, by decide, .inl rfl⟩
  refine ⟨hdraft, hcount, ?_, ?_⟩
  · obtain ⟨before, column, after, hcolumns, hbefore, hnone, hrun⟩ :=
      (run_executes .standard draftReply _ {} hdraft).1
        ⟨⟨"body", .other "text"⟩, by decide, by decide +kernel⟩
    have hcolumn : column = ⟨"body", .other "text"⟩ := by
      rcases before with _ | ⟨_, _ | ⟨_, _⟩⟩
      · obtain ⟨rfl, -⟩ := List.cons.inj hcolumns
        exact absurd hnone (by decide +kernel)
      · simp only [draftReply, List.cons_append, List.nil_append, List.cons.injEq] at hcolumns
        exact hcolumns.2.1.symm
      · simp only [draftReply, List.cons_append, List.cons.injEq] at hcolumns
        obtain ⟨-, rfl, -⟩ := hcolumns
        exact absurd (by decide +kernel) (hbefore ⟨"body", .other "text"⟩ (by simp))
    rw [hrun, hcolumn]
    rfl
  · obtain ⟨shapes, outcome, hshapes, hrun, -, hscan⟩ :=
      (run_executes unsigned countReply _ {} hcount).2.1 (by decide +kernel)
    have hfails : FailsFirst (countReply.cells shapes)
        (.queryFailed "cannot scan u32 from a int4 column") := by
      cases hshapes with
      | cons hshape hrest =>
        obtain ⟨converter, hresolve, rfl⟩ := hshape
        obtain rfl : Converter.passing "Optional<Int32>" (.plain .uint32) ⟨.uint32, false⟩ =
            converter := Except.ok.inj hresolve
        cases hrest
        exact ⟨[], ((.plain .uint32, .int4), none), [((.plain .uint32, .int4), some (.int4 7))],
          rfl, by simp, rfl⟩
    rw [hrun, ((hscan rfl (by decide)).1 _).2 hfails]
    rfl

end QueryFrame.Wire
