import MetricLayer.Proofs.Service.LoadSteps

/-!
# Loads into one table at the same time

Several loads into one table take their steps in any order (`Interleaving`).  Each one raises the row
count of the record by the number of its rows, with one exception: a load that found no table puts
down a record with the number of its own rows, and if another load has put one down in the meantime,
what that one counted is overwritten (`LoadEvent.overwritten`).

So when all loads are over the table holds all their rows, and the row count falls short of them by
what was overwritten; it is right if at most one load found no table
(`interleaved_rows_counted`).  Two loads that both found none lose rows from the count
(`twoCreations_miscounted`).
-/

namespace MetricLayer

open MetricLayer.Action

/-! ## Interleavings -/

/-- A load and how far it is. -/
structure LoadThread where
  /-- The load. -/
  load : Load
  /-- How far it is. -/
  phase : LoadPhase

/-- A step of a load and the world that it meets. -/
structure LoadEvent where
  /-- The load that takes the step. -/
  thread : LoadThread
  /-- The world before the step. -/
  before : World

/-- The steps that loads have taken so far, how far they are, and the world after the steps.  Between
two steps anything may happen that leaves the tables and their rows alone. -/
inductive Interleaving (s : LoadSettings) (start : World) (loads : List Load) :
    List LoadEvent → List LoadThread → World → Prop
  | start : Interleaving s start loads [] (loads.map (⟨·, .called⟩)) start
  | step {log : List LoadEvent} {before after : List LoadThread} {t : LoadThread} {w : World}
      (h : Interleaving s start loads log (before ++ t :: after) w) :
      Interleaving s start loads (log ++ [⟨t, w⟩])
        (before ++ ⟨t.load, (t.phase.step s t.load w).1⟩ :: after) (t.phase.step s t.load w).2
  | aside {log : List LoadEvent} {threads : List LoadThread} {w w' : World}
      (h : Interleaving s start loads log threads w)
      (htables : w'.catalog.tables = w.catalog.tables)
      (hissued : w.catalog.issued ≤ w'.catalog.issued) (hcontents : w'.contents = w.contents) :
      Interleaving s start loads log threads w'

/-- The load succeeded. -/
def LoadThread.Succeeded (t : LoadThread) : Prop := ∃ record, t.phase = .returned (.ok record)

/-- The load failed. -/
def LoadThread.Failed (t : LoadThread) : Prop := ∃ failure, t.phase = .returned (.error failure)

namespace LoadEvent

/-- The load looks for its table and finds none. -/
def findsNone (e : LoadEvent) : Bool :=
  match e.thread.phase with
  | .called => (e.before.catalog.table? e.thread.load.sourceId e.thread.load.name).isNone
  | _ => false

/-- The row count that the step overwrites: that of a record which stands where the load puts one
down. -/
def overwritten (e : LoadEvent) : Int :=
  match e.thread.phase with
  | .loading (.record _) [] =>
    ((e.before.catalog.table? e.thread.load.sourceId e.thread.load.name).map (·.rowCount)).getD 0
  | _ => 0

end LoadEvent

/-- The number of loads that found no table. -/
def newcomers (log : List LoadEvent) : Nat := log.countP LoadEvent.findsNone

/-- The sum of the row counts that were overwritten. -/
def overwrittenRows (log : List LoadEvent) : Int := (log.map LoadEvent.overwritten).sum

/-- The number of rows that the record of a table counts; zero if there is none. -/
def World.rowCount (w : World) (sourceId name : String) : Int :=
  ((w.catalog.table? sourceId name).map (·.rowCount)).getD 0

/-- The number of rows in a physical table; zero if there is none. -/
def World.rowsIn (w : World) (physical : String) : Nat :=
  ((w.contents physical).map List.length).getD 0

/-- The table counts the rows that it holds, or there is none, with and without a record. -/
structure World.Tallied (w : World) (sourceId name : String) : Prop where
  /-- The catalog keeps its promises. -/
  consistent : w.catalog.Consistent
  /-- A record counts the rows of its physical table. -/
  held : ∀ t, w.catalog.table? sourceId name = some t →
    ∃ rows, w.contents t.physicalName = some rows ∧ t.rowCount = rows.length
  /-- Without a record there is no physical table either. -/
  absent : w.catalog.table? sourceId name = none → w.contents (physicalNameFor sourceId name) = none

/-! ## What is left to do -/

namespace LoadPhase

/-- The number of rows that are still to be written. -/
def pending (l : Load) : LoadPhase → Nat
  | called => l.rows.length
  | creating _ => l.rows.length
  | loading _ batches => batches.flatten.length
  | returned _ => 0

/-- The number of rows that are still to be counted. -/
def uncounted (l : Load) : LoadPhase → Nat
  | returned _ => 0
  | _ => l.rows.length

/-- The load found no table and is to put down a record, as a number of loads. -/
def isNew : LoadPhase → Nat
  | creating _ => 1
  | loading (.record _) _ => 1
  | _ => 0

end LoadPhase

section Place

variable {s : LoadSettings} {sourceId name physical : String} {w w' : World}

/-! ## What holds between steps -/

/-- The record and the physical table of one place. -/
structure Settled (sourceId name physical : String) (w : World) : Prop where
  /-- The catalog keeps its promises. -/
  consistent : w.catalog.Consistent
  /-- The record is that of the physical table, which exists. -/
  named : ∀ t, w.catalog.table? sourceId name = some t →
    t.physicalName = physical ∧ (w.contents physical).isSome
  /-- As long as there is no record, the physical name is the one for the place. -/
  unnamed : w.catalog.table? sourceId name = none → physical = physicalNameFor sourceId name

/-- What is there stays there. -/
structure Grows (sourceId name physical : String) (w w' : World) : Prop where
  /-- The physical table stays. -/
  contents : (w.contents physical).isSome → (w'.contents physical).isSome
  /-- The record stays, under its id. -/
  record : ∀ t, w.catalog.table? sourceId name = some t →
    ∃ t', w'.catalog.table? sourceId name = some t' ∧ t'.id = t.id

/-- How far a load is agrees with the records and the rows. -/
def LoadPhase.Fits (sourceId name physical : String) (w : World) : LoadPhase → Prop
  | called => True
  | creating _ => physical = physicalNameFor sourceId name
  | loading (.raise t) _ => (w.contents physical).isSome ∧ t.physicalName = physical
    ∧ ∃ u, w.catalog.table? sourceId name = some u ∧ u.id = t.id
  | loading (.record _) _ => (w.contents physical).isSome ∧ physical = physicalNameFor sourceId name
  | returned (.ok _) => (w.catalog.table? sourceId name).isSome
  | returned (.error _) => False

theorem Grows.refl : Grows sourceId name physical w w := ⟨id, fun t ht => ⟨t, ht, rfl⟩⟩

theorem Grows.isSome (h : Grows sourceId name physical w w')
    (hsome : (w.catalog.table? sourceId name).isSome) :
    (w'.catalog.table? sourceId name).isSome := by
  obtain ⟨t, ht⟩ := Option.isSome_iff_exists.1 hsome
  obtain ⟨t', ht', -⟩ := h.record t ht
  exact Option.isSome_iff_exists.2 ⟨t', ht'⟩

theorem LoadPhase.Fits.mono {p : LoadPhase} (h : p.Fits sourceId name physical w)
    (hgrows : Grows sourceId name physical w w') : p.Fits sourceId name physical w' := by
  match p, h with
  | called, _ => trivial
  | creating _, h => exact h
  | loading (.raise t) _, ⟨hsome, hname, u, hu, hid⟩ =>
    obtain ⟨u', hu', hid'⟩ := hgrows.record u hu
    exact ⟨hgrows.contents hsome, hname, u', hu', hid'.trans hid⟩
  | loading (.record _) _, ⟨hsome, hname⟩ => exact ⟨hgrows.contents hsome, hname⟩
  | returned (.ok _), h => exact hgrows.isSome h

/-- What a step does to the record, to the rows and to the load that takes it. -/
structure Advance (sourceId name physical : String) (t : LoadThread) (w : World)
    (result : LoadPhase × World) : Prop where
  /-- The place is in order. -/
  settled : Settled sourceId name physical result.2
  /-- What was there is there. -/
  grows : Grows sourceId name physical w result.2
  /-- The load agrees with the records and the rows. -/
  fits : result.1.Fits sourceId name physical result.2
  /-- What is written is no longer pending. -/
  written : result.2.rowsIn physical + result.1.pending t.load
    = w.rowsIn physical + t.phase.pending t.load
  /-- What is counted is no longer uncounted, but it may overwrite what was counted. -/
  counted : result.2.rowCount sourceId name + LoadEvent.overwritten ⟨t, w⟩
    + result.1.uncounted t.load = w.rowCount sourceId name + t.phase.uncounted t.load
  /-- A load that is new has found no table. -/
  enters : result.1.isNew ≤ t.phase.isNew + newcomers [⟨t, w⟩]
  /-- The record was there and no load became new, or a new load put it down. -/
  leaves : (result.2.catalog.table? sourceId name).isSome →
    (w.catalog.table? sourceId name).isSome ∧ result.1.isNew ≤ t.phase.isNew
      ∨ result.1.isNew < t.phase.isNew

/-! ## One step at a time -/

/-- The physical table may get rows as long as the record stays. -/
theorem Settled.of_same (h : Settled sourceId name physical w) (hconsistent : w'.catalog.Consistent)
    (hsame : w'.catalog.table? sourceId name = w.catalog.table? sourceId name)
    (hcontents : (w.contents physical).isSome → (w'.contents physical).isSome) :
    Settled sourceId name physical w' ∧ Grows sourceId name physical w w' := by
  refine ⟨⟨hconsistent, fun t ht => ?_, fun hnone => ?_⟩, hcontents, fun t ht => ?_⟩
  · obtain ⟨hname, hsome⟩ := h.named t (hsame ▸ ht)
    exact ⟨hname, hcontents hsome⟩
  · exact h.unnamed (hsame ▸ hnone)
  · exact ⟨t, hsame.trans ht, rfl⟩

/-- A record may be put down or replaced, once the physical table exists. -/
theorem settled_of_record {c : Catalog} (hconsistent : c.Consistent)
    (hsome : (w.contents physical).isSome) {t : DataTable}
    (ht : c.table? sourceId name = some t) (hname : t.physicalName = physical)
    (hid : ∀ u, w.catalog.table? sourceId name = some u → t.id = u.id) :
    Settled sourceId name physical { w with catalog := c }
      ∧ Grows sourceId name physical w { w with catalog := c } := by
  refine ⟨⟨hconsistent, fun u hu => ?_, fun hnone => ?_⟩, id, fun u hu => ⟨t, ht, hid u hu⟩⟩
  · obtain rfl := Option.some.inj (ht.symm.trans hu)
    exact ⟨hname, hsome⟩
  · cases ht.symm.trans hnone

theorem World.rowCount_of_some {t : DataTable} (ht : w.catalog.table? sourceId name = some t) :
    w.rowCount sourceId name = t.rowCount := by
  rw [World.rowCount, ht]
  rfl

theorem World.rowCount_of_none (hnone : w.catalog.table? sourceId name = none) :
    w.rowCount sourceId name = 0 := by
  rw [World.rowCount, hnone]
  rfl

theorem Load.length_stored (hsize : 0 < s.batchSize) (l : Load) (schema : Schema) :
    (l.stored s schema).flatten.length = l.rows.length := by
  have hstored := storedRows_eq hsize schema l.rows
  rw [storedRows] at hstored
  rw [Load.stored, hstored, List.length_map]

variable {l : Load}

theorem advance_found (hsize : 0 < s.batchSize) (hw : Settled l.sourceId l.name physical w)
    {t : DataTable} (ht : w.catalog.table? l.sourceId l.name = some t) :
    Advance l.sourceId l.name physical ⟨l, .called⟩ w (l.extending s t, w) := by
  have hsome : (w.catalog.table? l.sourceId l.name).isSome := by rw [ht]; rfl
  have hnone : newcomers [⟨⟨l, .called⟩, w⟩] = 0 := by
    simp [newcomers, LoadEvent.findsNone, ht]
  unfold Load.extending
  split
  · next hrows =>
    have hlength : l.rows.length = 0 := by simpa using hrows
    refine ⟨hw, .refl, hsome, ?_, ?_, ?_, fun _ => .inl ⟨hsome, ?_⟩⟩ <;>
      simp [LoadPhase.pending, LoadPhase.uncounted, LoadPhase.isNew, LoadEvent.overwritten, hlength]
  · refine ⟨hw, .refl, ⟨(hw.named t ht).2, (hw.named t ht).1, t, ht, rfl⟩, ?_, ?_, ?_,
      fun _ => .inl ⟨hsome, ?_⟩⟩ <;>
      simp [LoadPhase.pending, LoadPhase.uncounted, LoadPhase.isNew, LoadEvent.overwritten,
        l.length_stored hsize]

theorem advance_missing (hw : Settled l.sourceId l.name physical w) {schema : Schema}
    (hnone : w.catalog.table? l.sourceId l.name = none) :
    Advance l.sourceId l.name physical ⟨l, .called⟩ w (.creating schema, w) := by
  have hnew : newcomers [⟨⟨l, .called⟩, w⟩] = 1 := by
    simp [newcomers, LoadEvent.findsNone, hnone]
  refine ⟨hw, .refl, hw.unnamed hnone, rfl, ?_, ?_, fun hsome => ?_⟩
  · simp [LoadPhase.uncounted, LoadEvent.overwritten]
  · rw [hnew]
    simp [LoadPhase.isNew]
  · rw [hnone] at hsome
    cases hsome

theorem advance_created (hsize : 0 < s.batchSize) (hw : Settled l.sourceId l.name physical w)
    {schema : Schema} (hphysical : physical = physicalNameFor l.sourceId l.name)
    (hcatalog : w'.catalog = w.catalog)
    (hcontents : w'.contents = Function.update w.contents physical
      (some ((w.contents physical).getD []))) :
    Advance l.sourceId l.name physical ⟨l, .creating schema⟩ w
      (.loading (.record schema) (l.stored s schema), w') := by
  have hnow : w'.contents physical = some ((w.contents physical).getD []) := by
    rw [hcontents, Function.update_self]
  obtain ⟨hsettled, hgrows⟩ := hw.of_same (hcatalog ▸ hw.consistent) (by rw [hcatalog]) fun _ => by
    rw [hnow]
    rfl
  refine ⟨hsettled, hgrows, ⟨by rw [hnow]; rfl, hphysical⟩, ?_, ?_, ?_, ?_⟩
  · have hrows : w'.rowsIn physical = w.rowsIn physical := by
      rw [World.rowsIn, World.rowsIn, hnow]
      cases w.contents physical <;> rfl
    simp [hrows, LoadPhase.pending, l.length_stored hsize]
  · simp [World.rowCount, hcatalog, LoadPhase.uncounted, LoadEvent.overwritten]
  · simp [LoadPhase.isNew]
  · rw [hcatalog]
    exact fun hsome => .inl ⟨hsome, Nat.le_refl _⟩

theorem advance_written (hw : Settled l.sourceId l.name physical w) {tally : Tally}
    {batch : List Row} {rest : List (List Row)}
    (hfits : (LoadPhase.loading tally rest).Fits l.sourceId l.name physical w)
    (hsome : (w.contents physical).isSome) (hcatalog : w'.catalog = w.catalog)
    (hcontents : w'.contents = Function.update w.contents physical
      ((w.contents physical).map (· ++ batch))) :
    Advance l.sourceId l.name physical ⟨l, .loading tally (batch :: rest)⟩ w
      (.loading tally rest, w') := by
  obtain ⟨rows, hrows⟩ := Option.isSome_iff_exists.1 hsome
  have hnow : w'.contents physical = some (rows ++ batch) := by
    rw [hcontents, Function.update_self, hrows]
    rfl
  obtain ⟨hsettled, hgrows⟩ := hw.of_same (hcatalog ▸ hw.consistent) (by rw [hcatalog]) fun _ => by
    rw [hnow]
    rfl
  refine ⟨hsettled, hgrows, hfits.mono hgrows, ?_, ?_, ?_, ?_⟩
  · simp only [World.rowsIn, hnow, hrows, LoadPhase.pending, List.flatten_cons, List.length_append,
      Option.map_some, Option.getD_some]
    omega
  · cases tally <;>
      simp [World.rowCount, hcatalog, LoadPhase.uncounted, LoadEvent.overwritten]
  · cases tally <;> simp [LoadPhase.isNew]
  · rw [hcatalog]
    refine fun hsome => .inl ⟨hsome, ?_⟩
    cases tally <;> simp [LoadPhase.isNew]

theorem Catalog.Consistent.table?_replaceTable {c : Catalog} (h : c.Consistent)
    {t u : DataTable} (ht : c.table? sourceId name = some t) (hsame : u.SamePlace t) :
    (c.replaceTable u).table? sourceId name = some u := by
  obtain ⟨hmem, rfl, rfl⟩ := Catalog.table?_eq_some ht
  have hnew : u ∈ (c.replaceTable u).tables :=
    List.mem_map.2 ⟨t, hmem, if_pos hsame.id.symm⟩
  rw [← hsame.sourceId, ← hsame.name]
  exact (h.replaceTable hmem hsame).table?_place hnew

/-- The record that is put down stands at its place with its row count.  It is the one that stood
there, or new. -/
theorem Catalog.Consistent.putTable_ok {c d : Catalog} (h : c.Consistent) {now : Moment}
    {schema : Schema} {count : Int} {record : DataTable}
    (hput : c.putTable now sourceId name physical schema count = (.ok record, d)) :
    d.Consistent ∧ d.table? sourceId name = some record ∧ record.rowCount = count
      ∧ (∀ u, c.table? sourceId name = some u →
        record.id = u.id ∧ record.physicalName = u.physicalName)
      ∧ (c.table? sourceId name = none → record.physicalName = physical) := by
  have hd : d.Consistent := by
    have hupdate : Catalog.Update now c (c.putTable now sourceId name physical schema count).2 :=
      .putTable sourceId name physical schema count
    rw [hput] at hupdate
    exact hupdate.consistent h
  refine ⟨hd, ?_⟩
  unfold Catalog.putTable at hput
  cases hfound : c.table? sourceId name with
  | none =>
    rw [hfound] at hput
    dsimp only at hput
    unfold Catalog.insertTable at hput
    split at hput
    · cases hput
    · cases hput
      refine ⟨hd.table?_place (List.mem_append_right _ (List.mem_singleton_self _)), rfl, ?_,
        fun _ => rfl⟩
      rintro u ⟨⟩
  | some t =>
    rw [hfound] at hput
    dsimp only at hput
    split at hput
    · next hsame =>
      cases hput
      refine ⟨hfound, hsame.2, fun u hu => ?_, fun hnone => by cases hnone⟩
      cases hu
      exact ⟨rfl, rfl⟩
    · cases hput
      refine ⟨h.table?_replaceTable hfound ⟨rfl, rfl, rfl, rfl⟩, rfl, fun u hu => ?_,
        fun hnone => by cases hnone⟩
      cases hu
      exact ⟨rfl, rfl⟩

theorem advance_counted {tally : Tally} {record : DataTable} {c : Catalog}
    (hsome : (w.contents physical).isSome)
    (hconsistent : c.Consistent) (hrecord : c.table? l.sourceId l.name = some record)
    (hname : record.physicalName = physical)
    (hid : ∀ u, w.catalog.table? l.sourceId l.name = some u → record.id = u.id)
    (hfrom : (w.catalog.table? l.sourceId l.name).isSome ∨ (LoadPhase.loading tally []).isNew = 1)
    (hcount : record.rowCount + LoadEvent.overwritten ⟨⟨l, .loading tally []⟩, w⟩
      = w.rowCount l.sourceId l.name + l.rows.length) :
    Advance l.sourceId l.name physical ⟨l, .loading tally []⟩ w
      (.returned (.ok record), { w with catalog := c }) := by
  obtain ⟨hsettled, hgrows⟩ := settled_of_record hconsistent hsome hrecord hname hid
  have hrows : World.rowCount { w with catalog := c } l.sourceId l.name = record.rowCount :=
    World.rowCount_of_some hrecord
  refine ⟨hsettled, hgrows, by simp [LoadPhase.Fits, hrecord], rfl, ?_, Nat.zero_le _, fun _ => ?_⟩
  · simpa [hrows, LoadPhase.uncounted] using hcount
  · rcases hfrom with hthere | hnew
    · exact .inl ⟨hthere, Nat.zero_le _⟩
    · exact .inr (hnew ▸ Nat.one_pos)

/-- The rows are counted in the record that was found. -/
theorem advance_raised (hw : Settled l.sourceId l.name physical w) {t record : DataTable}
    (hfits : (LoadPhase.loading (.raise t) []).Fits l.sourceId l.name physical w)
    (hrun : (Tally.raise t).run l w = (.ok record, w')) :
    Advance l.sourceId l.name physical ⟨l, .loading (.raise t) []⟩ w
      (.returned (.ok record), w') := by
  obtain ⟨hsome, -, u, hu, hid⟩ := hfits
  obtain ⟨hmem, -⟩ := Catalog.table?_eq_some hu
  have hadd : (Tally.raise t).run l w = (.ok (l.grownTable u w.now),
      { w with catalog := w.catalog.replaceTable (l.grownTable u w.now) }) := by
    rw [Tally.run, onCatalog_eq, Catalog.addRows, ← hid, hw.consistent.find?_id hmem]
    rfl
  cases hadd.symm.trans hrun
  have hsame : (l.grownTable u w.now).SamePlace u := ⟨rfl, rfl, rfl, rfl⟩
  refine advance_counted hsome (hw.consistent.replaceTable hmem hsame)
    (hw.consistent.table?_replaceTable hu hsame) (hw.named u hu).1 (fun v hv => ?_) (.inl ?_) ?_
  · cases hu.symm.trans hv
    rfl
  · rw [hu]
    rfl
  · rw [World.rowCount_of_some hu]
    exact Int.add_zero _

/-- The rows are counted in a record of their own. -/
theorem advance_recorded (hw : Settled l.sourceId l.name physical w) {schema : Schema}
    {record : DataTable}
    (hfits : (LoadPhase.loading (.record schema) []).Fits l.sourceId l.name physical w)
    (hrun : (Tally.record schema).run l w = (.ok record, w')) :
    Advance l.sourceId l.name physical ⟨l, .loading (.record schema) []⟩ w
      (.returned (.ok record), w') := by
  obtain ⟨hsome, hphysical⟩ := hfits
  rw [Tally.run, onCatalog_eq] at hrun
  obtain ⟨hok, rfl⟩ := Prod.mk.inj hrun
  obtain ⟨hconsistent, hrecord, hcount, hold, hnew⟩ :=
    hw.consistent.putTable_ok (Prod.ext hok rfl)
  refine advance_counted hsome hconsistent hrecord ?_ (fun u hu => (hold u hu).1) (.inr rfl) ?_
  · cases hfound : w.catalog.table? l.sourceId l.name with
    | none => exact (hnew hfound).trans hphysical.symm
    | some u => exact (hold u hfound).2.trans (hw.named u hfound).1
  · rw [hcount]
    exact Int.add_comm _ _

/-- A step that does not fail is an advance. -/
theorem LoadThread.advance (hsize : 0 < s.batchSize) {t : LoadThread}
    (hplace : t.load.sourceId = sourceId ∧ t.load.name = name)
    (hw : Settled sourceId name physical w) (hfits : t.phase.Fits sourceId name physical w)
    (hok : ∀ failure, (t.phase.step s t.load w).1 ≠ .returned (.error failure)) :
    Advance sourceId name physical t w (t.phase.step s t.load w) := by
  obtain ⟨l, p⟩ := t
  obtain ⟨rfl, rfl⟩ := hplace
  have hstepped := p.step_stepped s l w
  dsimp only at hfits hok ⊢
  generalize p.step s l w = result at hstepped hok ⊢
  cases hstepped with
  | failed => exact absurd rfl (hok _)
  | found ht => exact advance_found hsize hw ht
  | missing _ hnone => exact advance_missing hw hnone
  | created hcatalog hcontents =>
    obtain rfl : physical = physicalNameFor l.sourceId l.name := hfits
    exact advance_created hsize hw rfl hcatalog hcontents
  | @written tally _ _ _ hcatalog hcontents =>
    obtain ⟨hsome, rfl⟩ : (w.contents physical).isSome ∧ tally.physical l = physical := by
      cases tally with
      | raise t => exact ⟨hfits.1, hfits.2.1⟩
      | record schema => exact ⟨hfits.1, hfits.2.symm⟩
    exact advance_written hw (by cases tally <;> exact hfits) hsome hcatalog hcontents
  | @counted tally _ _ hrun =>
    cases tally with
    | raise t => exact advance_raised hw hfits hrun
    | record schema => exact advance_recorded hw hfits hrun
  | @finished outcome =>
    cases outcome with
    | error failure => exact absurd rfl (hok failure)
    | ok t =>
      exact ⟨hw, .refl, hfits, rfl, by simp [LoadEvent.overwritten], Nat.zero_le _,
        fun h => .inl ⟨h, Nat.le_refl _⟩⟩

/-- Only a new load overwrites a record. -/
theorem LoadEvent.of_overwritten {e : LoadEvent} (h : e.overwritten ≠ 0) :
    (e.before.catalog.table? e.thread.load.sourceId e.thread.load.name).isSome
      ∧ e.thread.phase.isNew = 1 := by
  obtain ⟨⟨l, p⟩, w⟩ := e
  unfold LoadEvent.overwritten at h
  split at h
  · next hphase =>
    dsimp only at hphase h ⊢
    subst hphase
    refine ⟨?_, rfl⟩
    cases hfound : w.catalog.table? l.sourceId l.name with
    | none => simp [hfound] at h
    | some t => rfl
  · exact absurd rfl h

end Place

/-! ## All steps -/

/-- What holds between the steps of loads into one table; `total` is the number of rows that it will
hold in the end. -/
structure Balanced (sourceId name physical : String) (total : Int) (log : List LoadEvent)
    (threads : List LoadThread) (w : World) : Prop where
  /-- The place is in order. -/
  settled : Settled sourceId name physical w
  /-- All loads are about this place and agree with the records and the rows. -/
  fits : ∀ t ∈ threads, (t.load.sourceId = sourceId ∧ t.load.name = name)
    ∧ t.phase.Fits sourceId name physical w
  /-- The rows that are written and those that are pending are all rows. -/
  written : w.rowsIn physical + ((threads.map fun t => t.phase.pending t.load).sum : Nat) = total
  /-- So are those that are counted, were overwritten or are uncounted. -/
  counted : w.rowCount sourceId name + overwrittenRows log
    + ((threads.map fun t => t.phase.uncounted t.load).sum : Nat) = total
  /-- New loads have found no table. -/
  entered : (threads.map fun t => t.phase.isNew).sum ≤ newcomers log
  /-- Once there is a record, one of the loads that found no table has put it down, if any did. -/
  left : (w.catalog.table? sourceId name).isSome →
    (threads.map fun t => t.phase.isNew).sum = 0
      ∨ (threads.map fun t => t.phase.isNew).sum < newcomers log
  /-- A single load that found no table overwrites nothing. -/
  exact : newcomers log ≤ 1 → overwrittenRows log = 0

namespace Balanced

variable {s : LoadSettings} {sourceId name physical : String} {total : Int} {log : List LoadEvent}
  {before after : List LoadThread} {t : LoadThread} {w w' : World}

theorem step (h : Balanced sourceId name physical total log (before ++ t :: after) w)
    (hsize : 0 < s.batchSize)
    (hok : ∀ failure, (t.phase.step s t.load w).1 ≠ .returned (.error failure)) :
    Balanced sourceId name physical total (log ++ [⟨t, w⟩])
      (before ++ ⟨t.load, (t.phase.step s t.load w).1⟩ :: after) (t.phase.step s t.load w).2 := by
  obtain ⟨hplace, hfits⟩ := h.fits t (by simp)
  have hstep := t.advance hsize hplace h.settled hfits hok
  generalize t.phase.step s t.load w = result at hstep ⊢
  have hnewcomers : newcomers (log ++ [⟨t, w⟩]) = newcomers log + newcomers [⟨t, w⟩] :=
    List.countP_append
  have hoverwritten : overwrittenRows (log ++ [⟨t, w⟩])
      = overwrittenRows log + LoadEvent.overwritten ⟨t, w⟩ := by
    simp [overwrittenRows]
  have hwritten := h.written
  have hcounted := h.counted
  have hentered := h.entered
  have hleft := h.left
  have hexact := h.exact
  have hsum : ∀ (f : LoadThread → Nat) (u : LoadThread),
      ((before ++ u :: after).map f).sum = (before.map f).sum + (f u + (after.map f).sum) := by
    intro f u
    rw [List.map_append, List.sum_append, List.map_cons, List.sum_cons]
  rw [hsum] at hwritten hcounted hentered hleft
  refine ⟨hstep.settled, fun u hu => ?_, ?_, ?_, ?_, fun hsome => ?_, fun hone => ?_⟩
  · rcases List.mem_append.1 hu with hu | hu
    · obtain ⟨huplace, hufits⟩ := h.fits u (List.mem_append_left _ hu)
      exact ⟨huplace, hufits.mono hstep.grows⟩
    · rcases List.mem_cons.1 hu with rfl | hu
      · exact ⟨hplace, hstep.fits⟩
      · obtain ⟨huplace, hufits⟩ := h.fits u (by simp [hu])
        exact ⟨huplace, hufits.mono hstep.grows⟩
  · have := hstep.written
    rw [hsum]
    dsimp only
    omega
  · have := hstep.counted
    rw [hsum, hoverwritten]
    dsimp only
    omega
  · have := hstep.enters
    rw [hsum, hnewcomers]
    dsimp only
    omega
  · rw [hsum, hnewcomers]
    dsimp only
    rcases hstep.leaves hsome with ⟨hthere, hle⟩ | hlt
    · have := hleft hthere
      omega
    · omega
  · rw [hoverwritten]
    have hnone : LoadEvent.overwritten ⟨t, w⟩ = 0 := by
      by_contra hne
      obtain ⟨hthere, hnew⟩ := LoadEvent.of_overwritten hne
      rw [hplace.1, hplace.2] at hthere
      have hfew := hleft hthere
      dsimp only at hnew
      omega
    rw [hnone, hexact (by omega)]
    rfl

theorem aside {threads : List LoadThread}
    (h : Balanced sourceId name physical total log threads w)
    (htables : w'.catalog.tables = w.catalog.tables) (hissued : w.catalog.issued ≤ w'.catalog.issued)
    (hcontents : w'.contents = w.contents) :
    Balanced sourceId name physical total log threads w' := by
  have hsame : w'.catalog.table? sourceId name = w.catalog.table? sourceId name := by
    rw [Catalog.table?, Catalog.table?, htables]
  have hconsistent : w'.catalog.Consistent :=
    h.settled.consistent.of_subset (fun t ht => htables ▸ ht) hissued
  obtain ⟨hsettled, hgrows⟩ := h.settled.of_same hconsistent hsame fun hsome => hcontents ▸ hsome
  refine ⟨hsettled, fun t ht => ⟨(h.fits t ht).1, (h.fits t ht).2.mono hgrows⟩, ?_, ?_, h.entered,
    fun hsome => h.left (hsame ▸ hsome), h.exact⟩
  · rw [World.rowsIn, hcontents]
    exact h.written
  · rw [World.rowCount, hsame]
    exact h.counted

theorem start {loads : List Load} (h : w.Tallied sourceId name)
    (hplace : ∀ l ∈ loads, l.sourceId = sourceId ∧ l.name = name) :
    ∃ physical, Balanced sourceId name physical
      (w.rowCount sourceId name + ((loads.map fun l => l.rows.length).sum : Nat)) []
      (loads.map (⟨·, .called⟩)) w := by
  have hfits : ∀ physical, ∀ t ∈ loads.map (LoadThread.mk · .called),
      (t.load.sourceId = sourceId ∧ t.load.name = name)
        ∧ t.phase.Fits sourceId name physical w := by
    intro physical t ht
    obtain ⟨l, hl, rfl⟩ := List.mem_map.1 ht
    exact ⟨hplace l hl, trivial⟩
  have hnew : ((loads.map (LoadThread.mk · .called)).map fun t => t.phase.isNew).sum = 0 := by
    simp [Function.comp_def, LoadPhase.isNew]
  have hbalanced : ∀ physical, Settled sourceId name physical w →
      (w.rowsIn physical : Int) = w.rowCount sourceId name →
      Balanced sourceId name physical
        (w.rowCount sourceId name + ((loads.map fun l => l.rows.length).sum : Nat)) []
        (loads.map (⟨·, .called⟩)) w := by
    intro physical hsettled hrows
    refine ⟨hsettled, hfits physical, ?_, ?_, hnew.le, fun _ => .inl hnew, fun _ => rfl⟩
    · rw [hrows, List.map_map]
      rfl
    · rw [List.map_map]
      simp [overwrittenRows, Function.comp_def, LoadPhase.uncounted]
  cases hfound : w.catalog.table? sourceId name with
  | none =>
    refine ⟨physicalNameFor sourceId name,
      hbalanced _ ⟨h.consistent, fun t ht => ?_, fun _ => rfl⟩ ?_⟩
    · cases hfound.symm.trans ht
    · rw [World.rowCount_of_none hfound, World.rowsIn, h.absent hfound]
      rfl
  | some t =>
    obtain ⟨rows, hrows, hcount⟩ := h.held t hfound
    refine ⟨t.physicalName, hbalanced _ ⟨h.consistent, fun u hu => ?_, fun hnone => ?_⟩ ?_⟩
    · cases hfound.symm.trans hu
      exact ⟨rfl, by rw [hrows]; rfl⟩
    · cases hfound.symm.trans hnone
    · rw [World.rowCount_of_some hfound, World.rowsIn, hrows, hcount]
      rfl

end Balanced

namespace Interleaving

variable {s : LoadSettings} {start w : World} {loads : List Load} {log : List LoadEvent}
  {threads : List LoadThread}

theorem map_load (h : Interleaving s start loads log threads w) :
    threads.map LoadThread.load = loads := by
  induction h with
  | start => simp [Function.comp_def]
  | step h ih => simpa using ih
  | aside h _ _ _ ih => exact ih

/-- What holds at the start holds throughout, as long as no load fails. -/
theorem balanced {sourceId name physical : String} {total : Int} (hsize : 0 < s.batchSize)
    (hstart : Balanced sourceId name physical total [] (loads.map (⟨·, .called⟩)) start)
    (h : Interleaving s start loads log threads w)
    (hok : ∀ t ∈ threads, ∀ failure, t.phase ≠ .returned (.error failure)) :
    Balanced sourceId name physical total log threads w := by
  induction h with
  | start => exact hstart
  | @step log before after t w h ih =>
    have hlast := hok ⟨t.load, (t.phase.step s t.load w).1⟩ (by simp)
    refine (ih fun u hu failure hfailed => ?_).step hsize hlast
    rcases List.mem_append.1 hu with hu | hu
    · exact hok u (List.mem_append_left _ hu) failure hfailed
    rcases List.mem_cons.1 hu with rfl | hu
    · -- a load that has failed stays where it is
      refine hlast failure ?_
      rw [hfailed]
      rfl
    · exact hok u (by simp [hu]) failure hfailed
  | aside h htables hissued hcontents ih => exact (ih hok).aside htables hissued hcontents

/-- A load may take any number of steps without those of others in between. -/
theorem iterate {before after : List LoadThread} {l : Load} {p : LoadPhase}
    (h : Interleaving s start loads log (before ++ ⟨l, p⟩ :: after) w) (n : Nat) :
    ∃ log', Interleaving s start loads log'
      (before ++ ⟨l, ((fun q : LoadPhase × World => q.1.step s l q.2)^[n] (p, w)).1⟩ :: after)
      ((fun q : LoadPhase × World => q.1.step s l q.2)^[n] (p, w)).2 := by
  induction n with
  | zero => exact ⟨log, h⟩
  | succ n ih =>
    obtain ⟨log', hlog⟩ := ih
    rw [Function.iterate_succ_apply']
    exact ⟨_, hlog.step⟩

/-- A load may do all that it still does without steps of others in between. -/
theorem finish (before : List LoadThread) {after : List LoadThread} {l : Load} {p : LoadPhase}
    (h : Interleaving s start loads log (before ++ ⟨l, p⟩ :: after) w) {outcome : Outcome DataTable}
    {w' : World} (hrest : p.rest s l w = (outcome, w')) :
    ∃ log', Interleaving s start loads log' (before ++ ⟨l, .returned outcome⟩ :: after) w' := by
  obtain ⟨n, hn⟩ := LoadPhase.exists_iterate s l p w
  obtain ⟨log', hlog⟩ := h.iterate n
  rw [hn, hrest] at hlog
  exact ⟨log', hlog⟩

end Interleaving

/-- When loads into one table have all succeeded, in whatever order they took their steps, the table
holds their rows.  The row count falls short of these by what was overwritten, and is right if at
most one load found no table. -/
theorem interleaved_rows_counted {s : LoadSettings} (hsize : 0 < s.batchSize)
    {sourceId name : String} {start w : World} {loads : List Load} {log : List LoadEvent}
    {threads : List LoadThread} (hstart : start.Tallied sourceId name)
    (hplace : ∀ l ∈ loads, l.sourceId = sourceId ∧ l.name = name) (hloads : loads ≠ [])
    (hrun : Interleaving s start loads log threads w) (hdone : ∀ t ∈ threads, t.Succeeded) :
    ∃ t rows, w.catalog.table? sourceId name = some t ∧ w.contents t.physicalName = some rows
      ∧ (rows.length : Int)
        = start.rowCount sourceId name + ((loads.map fun l => l.rows.length).sum : Nat)
      ∧ t.rowCount = rows.length - overwrittenRows log
      ∧ (newcomers log ≤ 1 → t.rowCount = rows.length) := by
  obtain ⟨physical, hbalanced⟩ := Balanced.start hstart hplace
  have hend := hrun.balanced hsize hbalanced fun t ht failure hfailed => by
    obtain ⟨record, hsucceeded⟩ := hdone t ht
    cases hsucceeded.symm.trans hfailed
  have hpending : (threads.map fun t => t.phase.pending t.load).sum = 0 := by
    refine List.sum_eq_zero fun n hn => ?_
    obtain ⟨t, ht, rfl⟩ := List.mem_map.1 hn
    obtain ⟨record, hsucceeded⟩ := hdone t ht
    rw [hsucceeded]
    rfl
  have huncounted : (threads.map fun t => t.phase.uncounted t.load).sum = 0 := by
    refine List.sum_eq_zero fun n hn => ?_
    obtain ⟨t, ht, rfl⟩ := List.mem_map.1 hn
    obtain ⟨record, hsucceeded⟩ := hdone t ht
    rw [hsucceeded]
    rfl
  -- the first load has left a record
  obtain ⟨t, ht⟩ : ∃ t, w.catalog.table? sourceId name = some t := by
    obtain ⟨thread, hthread⟩ : ∃ thread, thread ∈ threads := by
      refine List.exists_mem_of_ne_nil threads fun hnil => hloads ?_
      rw [← hrun.map_load, hnil]
      rfl
    obtain ⟨record, hsucceeded⟩ := hdone thread hthread
    have hfits := (hend.fits thread hthread).2
    rw [hsucceeded] at hfits
    exact Option.isSome_iff_exists.1 hfits
  obtain ⟨hname, hsome⟩ := hend.settled.named t ht
  obtain ⟨rows, hrows⟩ := Option.isSome_iff_exists.1 hsome
  have hwritten := hend.written
  have hcounted := hend.counted
  rw [hpending, World.rowsIn, hrows] at hwritten
  rw [huncounted, World.rowCount_of_some ht] at hcounted
  simp only [Option.map_some, Option.getD_some] at hwritten
  refine ⟨t, rows, ht, hname ▸ hrows, by omega, by omega, fun hone => ?_⟩
  have := hend.exact hone
  omega

/-! ## Two loads that create one table -/

/-- A load that creates the table `a` with two rows, and one that creates it with one row. -/
def twoCreations : List Load :=
  [.create "s" "a" wordSchema [wordRow, wordRow], .create "s" "a" wordSchema [wordRow]]

/-- The world after the table `a` was created with rows, by one who found no table. -/
def createdWorld (w : World) (rows : List Row) : World :=
  (onCatalog (fun c now => c.putTable now "s" "a" "ds_s_a" wordSchema rows.length)
    (onWarehouse (fun w => w.insert "ds_s_a" ["word"] (rows.map (conformRow wordSchema)))
      (onWarehouse (fun w => w.apply (.create "ds_s_a" wordSchema.columns [])) w).2).2).2

/-- The record of the table `a` after that. -/
def createdTable (count : Int) : DataTable :=
  ⟨recordId 1, "s", "a", "ds_s_a", wordSchema, count, default, default⟩

theorem freshWorld_tallied : freshWorld.Tallied "s" "a" := by
  refine ⟨Catalog.consistent_empty, fun t ht => ?_, fun _ => rfl⟩
  cases ht

theorem twoCreations_place : ∀ l ∈ twoCreations, l.sourceId = "s" ∧ l.name = "a" := by
  decide

/-- The first load finds no table; then the second one does all it does, and then the first one. -/
theorem twoCreations_run : ∃ log, Interleaving .standard freshWorld twoCreations log
    [⟨.create "s" "a" wordSchema [wordRow, wordRow], .returned (.ok (createdTable 2))⟩,
      ⟨.create "s" "a" wordSchema [wordRow], .returned (.ok (createdTable 1))⟩]
    (createdWorld (createdWorld freshWorld [wordRow]) [wordRow, wordRow]) := by
  have hstart : Interleaving .standard freshWorld twoCreations []
      ([] ++ ⟨.create "s" "a" wordSchema [wordRow, wordRow], .called⟩
        :: [⟨.create "s" "a" wordSchema [wordRow], .called⟩]) freshWorld := .start
  have hbegin : LoadPhase.called.step .standard (.create "s" "a" wordSchema [wordRow, wordRow])
      freshWorld = (.creating wordSchema, freshWorld) := rfl
  have hsecond : (Load.create "s" "a" wordSchema [wordRow]).run .standard freshWorld
      = (.ok (createdTable 1), createdWorld freshWorld [wordRow]) := by
    refine (createTable_eq_loadNew rfl (by decide)).trans ?_
    rw [loadNew_one (by decide) (by decide)]
    rfl
  have hfirst : (LoadPhase.creating wordSchema).rest .standard
      (.create "s" "a" wordSchema [wordRow, wordRow]) (createdWorld freshWorld [wordRow])
      = (.ok (createdTable 2),
        createdWorld (createdWorld freshWorld [wordRow]) [wordRow, wordRow]) := by
    rw [LoadPhase.rest, loadNew_one (by decide) (by decide)]
    rfl
  have hstep := hstart.step
  rw [hbegin] at hstep
  obtain ⟨log, hboth⟩ := Interleaving.finish
    [⟨.create "s" "a" wordSchema [wordRow, wordRow], .creating wordSchema⟩] hstep hsecond
  exact Interleaving.finish [] hboth hfirst

theorem twoCreations_succeeded : ∀ t ∈ ([
    ⟨.create "s" "a" wordSchema [wordRow, wordRow], .returned (.ok (createdTable 2))⟩,
    ⟨.create "s" "a" wordSchema [wordRow], .returned (.ok (createdTable 1))⟩] : List LoadThread),
    t.Succeeded := by
  intro t ht
  rcases List.mem_pair.1 ht with rfl | rfl
  · exact ⟨_, rfl⟩
  · exact ⟨_, rfl⟩

theorem twoCreations_counted : 0 < LoadSettings.standard.batchSize ∧ freshWorld.Tallied "s" "a"
    ∧ (∀ l ∈ twoCreations, l.sourceId = "s" ∧ l.name = "a") ∧ twoCreations ≠ []
    ∧ ∃ log threads w, Interleaving .standard freshWorld twoCreations log threads w
      ∧ (∀ t ∈ threads, t.Succeeded)
      ∧ ∃ t rows, w.catalog.table? "s" "a" = some t ∧ w.contents t.physicalName = some rows
        ∧ (rows.length : Int) = freshWorld.rowCount "s" "a"
          + ((twoCreations.map fun l => l.rows.length).sum : Nat)
        ∧ t.rowCount = rows.length - overwrittenRows log
        ∧ (newcomers log ≤ 1 → t.rowCount = rows.length) := by
  obtain ⟨log, hrun⟩ := twoCreations_run
  refine ⟨by decide, freshWorld_tallied, twoCreations_place, by decide, log, _, _, hrun,
    twoCreations_succeeded, ?_⟩
  exact interleaved_rows_counted (by decide) freshWorld_tallied twoCreations_place (by decide) hrun
    twoCreations_succeeded

/-- Both loads succeed, and the table holds three rows of which its record counts two. -/
theorem twoCreations_miscounted : freshWorld.Tallied "s" "a"
    ∧ (∀ l ∈ twoCreations, l.sourceId = "s" ∧ l.name = "a")
    ∧ ∃ log threads w, Interleaving .standard freshWorld twoCreations log threads w
      ∧ (∀ t ∈ threads, t.Succeeded)
      ∧ ∃ t rows, w.catalog.table? "s" "a" = some t ∧ w.contents t.physicalName = some rows
        ∧ t.rowCount = 2 ∧ rows.length = 3 := by
  obtain ⟨log, hrun⟩ := twoCreations_run
  exact ⟨freshWorld_tallied, twoCreations_place, log, _, _, hrun, twoCreations_succeeded,
    createdTable 2, [wordRow, wordRow, wordRow].map (conformRow wordSchema), rfl, rfl, rfl, rfl⟩

end MetricLayer
