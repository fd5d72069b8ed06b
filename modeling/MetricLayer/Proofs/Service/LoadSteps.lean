import MetricLayer.Proofs.Service.Frame

/-!
# Loads step by step

A load reads the records once, writes to the warehouse batch by batch, and counts its rows at the
end.  Each of these is an atomic step (`LoadPhase.step`), and between two of them other calls can
take theirs.  A load whose steps are taken one after another does what `Load.run` does
(`Load.run_by_steps`).
-/

namespace MetricLayer

open MetricLayer.Action

/-- How the rows of a load are counted once they are written. -/
inductive Tally where
  /-- The row count of a record that was found is raised. -/
  | raise (t : DataTable)
  /-- The table is new, so a record with the row count is put down. -/
  | record (schema : Schema)

namespace Tally

/-- The physical table that the rows go to. -/
def physical (l : Load) : Tally → String
  | raise t => t.physicalName
  | record _ => physicalNameFor l.sourceId l.name

/-- The schema that the rows are stored in. -/
def schema : Tally → Schema
  | raise t => t.schema
  | record schema => schema

/-- Counts the rows. -/
def run (l : Load) : Tally → Action DataTable
  | raise t => onCatalog fun c now => c.addRows now t.id l.rows.length
  | record schema => onCatalog fun c now => c.putTable now l.sourceId l.name
      (physicalNameFor l.sourceId l.name) schema l.rows.length

end Tally

/-- How far a load is. -/
inductive LoadPhase where
  /-- It has done nothing. -/
  | called
  /-- It found no table and is to create the physical one. -/
  | creating (schema : Schema)
  /-- It is to write these batches and then to count its rows. -/
  | loading (tally : Tally) (batches : List (List Row))
  /-- It is over. -/
  | returned (outcome : Outcome DataTable)

/-- The batches that a load writes, in the form in which the schema stores them. -/
def Load.stored (s : LoadSettings) (l : Load) (schema : Schema) : List (List Row) :=
  (batches s.batchSize l.rows).map (List.map (conformRow schema))

/-- The load goes on with a table that exists. -/
def Load.extending (s : LoadSettings) (l : Load) (t : DataTable) : LoadPhase :=
  if l.rows.isEmpty then .returned (.ok t) else .loading (.raise t) (l.stored s t.schema)

/-- The load reads the records and looks at its rows. -/
def Load.begin (s : LoadSettings) (l : Load) : Action LoadPhase :=
  match l with
  | .create sourceId name schema rows => do
    let existing := (← catalog).table? sourceId name
    if existing.any (·.schema ≠ schema) then throw (.schemaConflict name)
    accept (checkLoadable rows schema s.policy)
    match existing with
    | some t => do
      requireBatches s rows
      return l.extending s t
    | none => return .creating schema
  | .append sourceId name rows => do
    let t ← findTable sourceId name
    accept (checkRows rows t.schema s.policy)
    requireBatches s rows
    return l.extending s t

namespace LoadPhase

/-- What the load does next, and how far it is then. -/
def next (s : LoadSettings) (l : Load) : LoadPhase → Action LoadPhase
  | called => l.begin s
  | creating schema => do
    onWarehouse fun w => w.apply (.create (physicalNameFor l.sourceId l.name) schema.columns
      schema.primaryKeys)
    requireBatches s l.rows
    return loading (.record schema) (l.stored s schema)
  | loading tally (batch :: rest) => do
    onWarehouse fun w => w.insert (tally.physical l) tally.schema.columnNames batch
    return loading tally rest
  | loading tally [] => do
    let t ← tally.run l
    return returned (.ok t)
  | returned outcome => return returned outcome

/-- The next step of a load: a failure ends it. -/
def step (s : LoadSettings) (l : Load) (p : LoadPhase) (w : World) : LoadPhase × World :=
  match p.next s l w with
  | (.ok p', w') => (p', w')
  | (.error failure, w') => (returned (.error failure), w')

/-- All that the load still does, without a step of another call. -/
def rest (s : LoadSettings) (l : Load) : LoadPhase → Action DataTable
  | called => l.run s
  | creating schema => loadNew s l.sourceId l.name schema l.rows
  | loading tally batches => do
    writeBatches (tally.physical l) tally.schema.columnNames batches
    tally.run l
  | returned outcome => ofOutcome outcome

end LoadPhase

theorem Load.rest_extending (s : LoadSettings) (l : Load) (t : DataTable) :
    (requireBatches s l.rows >>= fun _ => (l.extending s t).rest s l) = extend s t l.rows := by
  unfold Load.extending extend
  split
  · next hrows =>
    rw [requireBatches, if_neg fun h => h.2 (List.isEmpty_iff.1 hrows), pure_bind]
    rfl
  · rw [writeRows, bind_assoc]
    rfl

/-- A load begins with a look at the records. -/
theorem Load.run_eq_begin (s : LoadSettings) (l : Load) :
    l.run s = l.begin s >>= LoadPhase.rest s l := by
  cases l with
  | create sourceId name schema rows =>
    unfold Load.run createTable Load.begin
    simp only [bind_assoc]
    refine bind_congr fun c => ?_
    split
    · rfl
    · rw [bind_assoc]
      refine bind_congr fun _ => ?_
      cases c.table? sourceId name with
      | none => rfl
      | some t =>
        simp only [bind_assoc, pure_bind]
        exact (rest_extending s (.create sourceId name schema rows) t).symm
  | append sourceId name rows =>
    unfold Load.run Action.append Load.begin
    simp only [bind_assoc]
    refine bind_congr fun t => bind_congr fun _ => ?_
    simp only [pure_bind]
    exact (rest_extending s (.append sourceId name rows) t).symm

/-- A load begins in one of three ways: it is refused, it finds its table, or it is to create it. -/
theorem Load.begin_cases (s : LoadSettings) (l : Load) (w : World) :
    (∃ failure, l.begin s w = (.error failure, w))
    ∨ (∃ t, w.catalog.table? l.sourceId l.name = some t
      ∧ l.begin s w = (.ok (l.extending s t), w))
    ∨ ∃ schema, l = .create l.sourceId l.name schema l.rows
      ∧ w.catalog.table? l.sourceId l.name = none ∧ l.begin s w = (.ok (.creating schema), w) := by
  cases l with
  | create sourceId name schema rows =>
    rw [Load.begin, bind_of_ok (rfl : catalog w = (.ok w.catalog, w))]
    dsimp only
    split
    · exact .inl ⟨_, rfl⟩
    rcases accept_cases (checkLoadable rows schema s.policy) w with ⟨-, hok⟩ | ⟨-, herror⟩
    · rw [bind_of_ok hok]
      cases hfound : w.catalog.table? sourceId name with
      | none => exact .inr (.inr ⟨schema, rfl, hfound, rfl⟩)
      | some t =>
        rcases requireBatches_cases s rows w with ⟨-, herror⟩ | ⟨-, hbatches⟩
        · exact .inl ⟨_, bind_of_error herror⟩
        · exact .inr (.inl ⟨t, hfound, bind_of_ok hbatches⟩)
    · exact .inl ⟨_, bind_of_error herror⟩
  | append sourceId name rows =>
    rw [Load.begin]
    cases hfound : w.catalog.table? sourceId name with
    | none => exact .inl ⟨_, bind_of_error (findTable_none hfound)⟩
    | some t =>
      rw [bind_of_ok (findTable_some hfound)]
      rcases accept_cases (checkRows rows t.schema s.policy) w with ⟨-, hok⟩ | ⟨-, herror⟩
      · rw [bind_of_ok hok]
        rcases requireBatches_cases s rows w with ⟨-, herror⟩ | ⟨-, hbatches⟩
        · exact .inl ⟨_, bind_of_error herror⟩
        · exact .inr (.inl ⟨t, hfound, bind_of_ok hbatches⟩)
      · exact .inl ⟨_, bind_of_error herror⟩

namespace LoadPhase

/-- What a load does is its next step and then the rest. -/
theorem rest_eq_next (s : LoadSettings) (l : Load) (p : LoadPhase) :
    p.rest s l = p.next s l >>= rest s l := by
  cases p with
  | called => exact l.run_eq_begin s
  | creating schema => simp only [rest, next, loadNew, writeRows, bind_assoc, pure_bind]; rfl
  | loading tally batches =>
    cases batches with
    | nil =>
      simp only [rest, next, writeBatches, bind_assoc, pure_bind]
      exact (bind_pure (tally.run l)).symm
    | cons batch rest => simp only [LoadPhase.rest, next, writeBatches, bind_assoc, pure_bind]
  | returned outcome => rfl

/-- A step takes nothing away from what a load does and adds nothing to it. -/
theorem rest_step (s : LoadSettings) (l : Load) (p : LoadPhase) (w : World) :
    (p.step s l w).1.rest s l (p.step s l w).2 = p.rest s l w := by
  rw [rest_eq_next s l p, step]
  rcases hnext : p.next s l w with ⟨failure | p', w'⟩
  · rw [bind_of_error hnext]
    rfl
  · rw [bind_of_ok hnext]

/-- The next step is to write a batch. -/
def writes : LoadPhase → Bool
  | loading _ (_ :: _) => true
  | _ => false

/-! ## What one step can do -/

/-- All that the next step of a load can do. -/
inductive Stepped (s : LoadSettings) (l : Load) (w : World) : LoadPhase → LoadPhase × World → Prop
  /-- The step fails. -/
  | failed {p : LoadPhase} {failure : Failure} {w' : World} :
      Stepped s l w p (returned (.error failure), w')
  /-- The load finds its table. -/
  | found {t : DataTable} (ht : w.catalog.table? l.sourceId l.name = some t) :
      Stepped s l w called (l.extending s t, w)
  /-- The load finds no table, and is one that creates it. -/
  | missing {schema : Schema} (hl : l = .create l.sourceId l.name schema l.rows)
      (hnone : w.catalog.table? l.sourceId l.name = none) :
      Stepped s l w called (creating schema, w)
  /-- The physical table is created, unless it exists. -/
  | created {schema : Schema} {w' : World} (hcatalog : w'.catalog = w.catalog)
      (hcontents : w'.contents = Function.update w.contents (physicalNameFor l.sourceId l.name)
        (some ((w.contents (physicalNameFor l.sourceId l.name)).getD []))) :
      Stepped s l w (creating schema) (loading (.record schema) (l.stored s schema), w')
  /-- A batch is added to the physical table. -/
  | written {tally : Tally} {batch : List Row} {rest : List (List Row)} {w' : World}
      (hcatalog : w'.catalog = w.catalog)
      (hcontents : w'.contents = Function.update w.contents (tally.physical l)
        ((w.contents (tally.physical l)).map (· ++ batch))) :
      Stepped s l w (loading tally (batch :: rest)) (loading tally rest, w')
  /-- The rows are counted. -/
  | counted {tally : Tally} {t : DataTable} {w' : World} (hrun : tally.run l w = (.ok t, w')) :
      Stepped s l w (loading tally []) (returned (.ok t), w')
  /-- Nothing is left to do. -/
  | finished {outcome : Outcome DataTable} : Stepped s l w (returned outcome) (returned outcome, w)

theorem step_of_ok {s : LoadSettings} {l : Load} {p p' : LoadPhase} {w w' : World}
    (h : p.next s l w = (.ok p', w')) : p.step s l w = (p', w') := by
  rw [step, h]

theorem step_of_error {s : LoadSettings} {l : Load} {p : LoadPhase} {failure : Failure}
    {w w' : World} (h : p.next s l w = (.error failure, w')) :
    p.step s l w = (returned (.error failure), w') := by
  rw [step, h]

/-- A step of a load does nothing but what is listed. -/
theorem step_stepped (s : LoadSettings) (l : Load) (p : LoadPhase) (w : World) :
    Stepped s l w p (p.step s l w) := by
  cases p with
  | called =>
    rcases l.begin_cases s w with ⟨failure, hbegin⟩ | ⟨t, ht, hbegin⟩ | ⟨schema, hl, hnone, hbegin⟩
    · exact (step_of_error hbegin : called.step s l w = _) ▸ .failed
    · exact (step_of_ok hbegin : called.step s l w = _) ▸ .found ht
    · exact (step_of_ok hbegin : called.step s l w = _) ▸ .missing hl hnone
  | creating schema =>
    rcases apply_cases (.create (physicalNameFor l.sourceId l.name) schema.columns
        schema.primaryKeys) w with
      ⟨w', hrun, hcatalog, -, hcontents⟩ | ⟨failure, w', hrun, -⟩
    · rcases requireBatches_cases s l.rows w' with ⟨-, herror⟩ | ⟨-, hok⟩
      · rw [step_of_error ((bind_of_ok hrun).trans (bind_of_error herror))]
        exact .failed
      · rw [step_of_ok ((bind_of_ok hrun).trans (bind_of_ok hok))]
        exact .created hcatalog hcontents
    · rw [step_of_error (bind_of_error hrun)]
      exact .failed
  | loading tally batches =>
    cases batches with
    | nil =>
      rcases hrun : tally.run l w with ⟨failure | t, w'⟩
      · rw [step_of_error (bind_of_error hrun)]
        exact .failed
      · rw [step_of_ok (bind_of_ok hrun)]
        exact .counted hrun
    | cons batch rest =>
      have hwrote := insert_wrote (tally.physical l) tally.schema.columnNames batch w
      generalize hrun : onWarehouse (fun w => w.insert (tally.physical l)
        tally.schema.columnNames batch) w = result at hwrote
      cases hwrote with
      | failed =>
        rw [step_of_error (bind_of_error hrun)]
        exact .failed
      | done hcatalog _ hcontents =>
        rw [step_of_ok (bind_of_ok hrun)]
        exact .written hcatalog hcontents
  | returned outcome => exact .finished

/-! ## Steps one after another -/

/-- The number of steps that are left at most. -/
def left (s : LoadSettings) (l : Load) : LoadPhase → Nat
  | called => (batches s.batchSize l.rows).length + 3
  | creating _ => (batches s.batchSize l.rows).length + 2
  | loading _ batches => batches.length + 1
  | returned _ => 0

/-- A load that is not over gets nearer to its end with each step. -/
theorem left_step (s : LoadSettings) (l : Load) (p : LoadPhase) (w : World) :
    (p.step s l w).1.left s l ≤ p.left s l - 1 := by
  have hstepped := p.step_stepped s l w
  generalize p.step s l w = result at hstepped ⊢
  cases hstepped with
  | found =>
    unfold Load.extending
    split <;> simp [left, Load.stored]
  | _ => simp [left, Load.stored]

/-- A load whose steps are taken one after another does what it does as a whole. -/
theorem exists_iterate (s : LoadSettings) (l : Load) (p : LoadPhase) (w : World) :
    ∃ n, (fun q : LoadPhase × World => q.1.step s l q.2)^[n] (p, w)
      = (returned (p.rest s l w).1, (p.rest s l w).2) := by
  generalize hleft : p.left s l = k
  induction k using Nat.strong_induction_on generalizing p w with
  | _ k ih =>
    by_cases hover : k = 0
    · cases p with
      | returned outcome => exact ⟨0, rfl⟩
      | _ => simp [left, hover] at hleft
    · have hnear := left_step s l p w
      obtain ⟨n, hn⟩ := ih _ (by omega) (p.step s l w).1 (p.step s l w).2 rfl
      rw [rest_step] at hn
      exact ⟨n + 1, hn⟩

end LoadPhase

/-- A load is made of its steps. -/
theorem Load.run_by_steps (s : LoadSettings) (l : Load) (w : World) :
    ∃ n, (fun q : LoadPhase × World => q.1.step s l q.2)^[n] (.called, w)
      = (.returned (l.run s w).1, (l.run s w).2) :=
  LoadPhase.exists_iterate s l .called w

end MetricLayer
