import MetricLayer.Proofs.Service.Counts
import MetricLayer.Proofs.Service.LoadRace
import MetricLayer.Proofs.Service.LoadText

/-!
# How rows are cut into batches

With a positive batch size the `k`-th batch is the slice of the rows that starts at `k * size`
(`getElem?_chunks`), so the batches cover the rows (`Batched`).  With any other size there is no
batch at all, and nothing keeps such a size out: who sets up the loading chooses it, or else the
configuration does (`LoadSettings.configured_eq_ok_iff`).  With size zero no load of rows returns
(`Load.run_zero`), with a negative size it may.  In an environment that sets nothing, zero stands for
the default size (`LoadSettings.configured_plain`).

A load that returns has raised the row count by the number of its rows, whatever its batches held
(`Load.returned`).  So the count is right exactly if the batches cover the rows
(`configured_load_counts`, `negativeSize_miscounts`).
-/

namespace MetricLayer

/-! ## Slices -/

/-- Each batch starts where the one before it ends. -/
theorem getElem?_chunks {α : Type} {size : Nat} (hsize : 0 < size) (k : Nat) (xs : List α) :
    (chunks size xs)[k]?
      = if k * size < xs.length then some ((xs.drop (k * size)).take size) else none := by
  induction k generalizing xs with
  | zero =>
    rw [chunks, Nat.zero_mul, List.drop_zero]
    split
    · next hstop =>
      obtain rfl := hstop.resolve_left hsize.ne'
      rfl
    · next hgo => rw [if_pos (List.length_pos_of_ne_nil (not_or.1 hgo).2), List.getElem?_cons_zero]
  | succ k ih =>
    rw [chunks]
    split
    · next hstop =>
      obtain rfl := hstop.resolve_left hsize.ne'
      rfl
    · have hplace : k * size < (xs.drop size).length ↔ (k + 1) * size < xs.length := by
        rw [List.length_drop, Nat.succ_mul]
        omega
      rw [List.getElem?_cons_succ, ih, List.drop_drop, if_congr hplace rfl rfl, Nat.succ_mul,
        Nat.add_comm size]

theorem length_le_of_mem_chunks {α : Type} {size : Nat} (hsize : 0 < size) {xs chunk : List α}
    (h : chunk ∈ chunks size xs) : chunk.length ≤ size := by
  obtain ⟨k, hk⟩ := List.mem_iff_getElem?.1 h
  rw [getElem?_chunks hsize, Option.ite_none_right_eq_some] at hk
  rw [← Option.some.inj hk.2]
  exact List.length_take_le size _

/-- The batches cut `rows` into portions of at most `size`. -/
structure Batched (size : Int) (rows : List Row) (bs : List (List Row)) : Prop where
  /-- No batch is empty. -/
  nonempty : ∀ batch ∈ bs, batch ≠ []
  /-- No batch is greater than the size. -/
  bounded : ∀ batch ∈ bs, (batch.length : Int) ≤ size
  /-- Together they are the rows, in order. -/
  covers : bs.flatten = rows

/-- The rows to be stored are cut into batches exactly if the size is positive or there are none. -/
theorem batched_iff (s : LoadSettings) (schema : Schema) (rows : List Row) :
    Batched s.batchSize (rows.map (conformRow schema))
        ((batches s.batchSize rows).map (List.map (conformRow schema)))
      ↔ 0 < s.batchSize ∨ rows = [] := by
  constructor
  · intro h
    rcases Int.lt_or_le 0 s.batchSize with hsize | hsize
    · exact .inl hsize
    · have hcovers := h.covers
      rw [batches_eq_nil hsize] at hcovers
      exact .inr (List.map_eq_nil_iff.1 hcovers.symm)
  · rintro (hsize | rfl)
    · refine ⟨fun stored hstored => ?_, fun stored hstored => ?_, storedRows_eq hsize schema rows⟩
      all_goals obtain ⟨batch, hbatch, rfl⟩ := List.mem_map.1 hstored
      · exact fun hnil => ne_nil_of_mem_chunks hbatch (List.map_eq_nil_iff.1 hnil)
      · have hlength := length_le_of_mem_chunks (by omega) hbatch
        rw [List.length_map]
        omega
    · rw [batches, chunks_nil]
      exact ⟨fun _ h => absurd h List.not_mem_nil, fun _ h => absurd h List.not_mem_nil, rfl⟩

/-! ## Settings -/

/-- The configuration in an environment that sets nothing. -/
def Settings.plain : Settings where
  postgresUser := "metrics"
  postgresPassword := "metrics_pw"
  postgresDb := "analytics"
  postgresHost := "localhost"
  postgresPort := 5432
  queryTimeoutMs := 10000
  cacheTtlSeconds := 300
  cacheMaxSize := 256
  insertBatchSize := 500
  schemaSampleRows := 100
  extraColumnPolicy := "permissive"
  apiPort := 8000

theorem Settings.read_nil : Settings.read [] = .valid .plain := rfl

namespace LoadSettings

/-- Only the name of the policy decides whether the settings are accepted. -/
theorem configured_eq_ok_iff {conf : Settings} {batchSize : Option Int} {policy : Option String}
    {s : LoadSettings} : configured conf batchSize policy = .ok s
      ↔ s.batchSize = chosenSize conf batchSize
        ∧ ColumnPolicy.ofName ((policy.filter (· ≠ "")).getD conf.extraColumnPolicy)
          = .ok s.policy := by
  unfold configured
  obtain ⟨size, chosen⟩ := s
  cases ColumnPolicy.ofName ((policy.filter (· ≠ "")).getD conf.extraColumnPolicy) with
  | error failure =>
    constructor
    · intro h
      cases h
    · rintro ⟨-, h⟩
      cases h
  | ok found =>
    constructor
    · intro h
      cases h
      exact ⟨rfl, rfl⟩
    · rintro ⟨rfl, h⟩
      cases h
      rfl

/-- In an environment that sets nothing, the settings are those with the default batch size. -/
theorem configured_plain {policy : String} (hpolicy : policy ≠ "") (batchSize : Int) :
    configured .plain (some batchSize) (some policy)
      = (ColumnPolicy.ofName policy).map (of batchSize) := by
  have hchosen : chosenSize .plain (some batchSize)
      = if batchSize = 0 then defaultBatchSize else batchSize := by
    unfold chosenSize
    split
    · next h =>
      subst h
      rfl
    · next h => rw [Option.filter_some, if_pos (decide_eq_true h), Option.getD_some]
  unfold configured
  rw [hchosen, Option.filter_some, if_pos (decide_eq_true hpolicy), Option.getD_some]
  rfl

end LoadSettings

/-! ## The count of a load -/

/-- No load of rows returns when they are to be written none at a time. -/
theorem Load.run_zero {s : LoadSettings} (hsize : s.batchSize = 0) {l : Load} (hrows : l.rows ≠ [])
    (w : World) : ∃ failure w', l.run s w = (.error failure, w') := by
  have hextend : ∀ t, ∃ failure w', Action.extend s t l.rows w = (.error failure, w') := by
    intro t
    rw [Action.extend, if_neg (by simpa using hrows)]
    exact ⟨_, _, Action.bind_of_error (Action.writeRows_zero hsize hrows _ _ w)⟩
  cases l with
  | create sourceId name schema rows =>
    rw [run]
    rcases Action.createTable_cases s sourceId name schema rows w with
      ⟨-, failure, h⟩ | ⟨t, -, -, h⟩ | ⟨-, h⟩ <;> rw [h]
    · exact ⟨failure, w, rfl⟩
    · exact hextend t
    · rcases Action.apply_cases (.create (physicalNameFor sourceId name) schema.columns
          schema.primaryKeys) w with ⟨w₁, hrun, -⟩ | ⟨failure, w₁, hrun, -⟩
      · exact ⟨_, _, (Action.bind_of_ok hrun).trans
          (Action.bind_of_error (Action.writeRows_zero hsize hrows _ _ w₁))⟩
      · exact ⟨failure, w₁, Action.bind_of_error hrun⟩
  | append sourceId name rows =>
    rw [run]
    rcases Action.append_cases s sourceId name rows w with ⟨failure, h⟩ | ⟨t, -, h⟩ <;> rw [h]
    · exact ⟨failure, w, rfl⟩
    · exact hextend t

/-- A load that returns has counted its rows and added those of its batches. -/
theorem Load.returned {s : LoadSettings} {l : Load} {w w' : World} {t : DataTable}
    (hw : w.catalog.Consistent) (h : l.run s w = (.ok t, w')) :
    t.rowCount = w.rowCount l.sourceId l.name + l.rows.length
      ∧ ∀ held, w'.contents t.physicalName = some held →
        held = (w.contents t.physicalName).getD [] ++ storedRows s t.schema l.rows := by
  have hresult := l.run_result s hw
  rw [h] at hresult
  cases hresult with
  | nothing ht hrows =>
    rw [World.rowCount_of_some ht, storedRows, batches, hrows, chunks_nil]
    refine ⟨(Int.add_zero _).symm, fun held hheld => ?_⟩
    rw [hheld]
    exact (List.append_nil held).symm
  | @grown u _ ht _ hcontents =>
    refine ⟨by rw [World.rowCount_of_some ht]; rfl, fun held hheld => ?_⟩
    have hsame : (l.grownTable u w.now).physicalName = u.physicalName := rfl
    rw [hsame] at hheld ⊢
    rw [hcontents, Function.update_self] at hheld
    obtain ⟨before, hbefore, rfl⟩ := Option.map_eq_some_iff.1 hheld
    rw [hbefore]
    rfl
  | @created schema _ _ hnone _ _ hcontents =>
    refine ⟨by rw [World.rowCount_of_none hnone, Int.zero_add]; rfl, fun held hheld => ?_⟩
    have hsame : (l.newTable w.catalog w.now schema).physicalName
        = physicalNameFor l.sourceId l.name := rfl
    rw [hsame] at hheld ⊢
    rw [hcontents, Function.update_self] at hheld
    exact (Option.some.inj hheld).symm

/-- Under accepted settings the batches cover the rows exactly if the batch size that was chosen is
positive or there are no rows, and just then a load that returns counts no more rows than it added. -/
theorem configured_load_counts {conf : Settings} {batchSize : Option Int} {policy : Option String}
    {s : LoadSettings} (hs : LoadSettings.configured conf batchSize policy = .ok s) :
    (∀ schema rows, Batched s.batchSize (rows.map (conformRow schema))
          ((batches s.batchSize rows).map (List.map (conformRow schema)))
        ↔ 0 < LoadSettings.chosenSize conf batchSize ∨ rows = [])
      ∧ ∀ (l : Load) (w w' : World) (t : DataTable), w.catalog.Consistent →
        l.run s w = (.ok t, w') →
          t.rowCount = w.rowCount l.sourceId l.name + l.rows.length
          ∧ (∀ held, w'.contents t.physicalName = some held →
            held = (w.contents t.physicalName).getD [] ++ storedRows s t.schema l.rows)
          ∧ (t.rowCount ≤ w.rowCount l.sourceId l.name + (storedRows s t.schema l.rows).length
            ↔ 0 < LoadSettings.chosenSize conf batchSize ∨ l.rows = []) := by
  obtain ⟨hsize, -⟩ := LoadSettings.configured_eq_ok_iff.1 hs
  rw [← hsize]
  refine ⟨batched_iff s, fun l w w' t hw hrun => ?_⟩
  obtain ⟨hcount, hheld⟩ := Load.returned hw hrun
  refine ⟨hcount, hheld, ?_⟩
  rw [hcount]
  constructor
  · intro hle
    rcases Int.lt_or_le 0 s.batchSize with hpos | hnone
    · exact .inl hpos
    · rw [storedRows, batches_eq_nil hnone] at hle
      have hzero : l.rows.length = 0 := by
        simpa using hle
      exact .inr (List.length_eq_zero_iff.1 hzero)
  · rintro (hpos | hrows)
    · rw [storedRows_eq hpos, List.length_map]
    · rw [hrows]
      simp

theorem twoPerBatch_counts :
    LoadSettings.configured .plain (some 2) none = .ok batchesOfTwo
      ∧ Batched 2 (threeRows.map (conformRow wordSchema))
        ((batches 2 threeRows).map (List.map (conformRow wordSchema)))
      ∧ wordLoad.run batchesOfTwo freshWorld = (.ok wordTable, wordWorld)
      ∧ wordTable.rowCount ≤ freshWorld.rowCount "s" "a"
        + (storedRows batchesOfTwo wordSchema threeRows).length := by
  have hs : LoadSettings.configured .plain (some 2) none = .ok batchesOfTwo := rfl
  obtain ⟨hbatched, hcounts⟩ := configured_load_counts hs
  obtain ⟨-, -, hless⟩ := hcounts wordLoad freshWorld wordWorld wordTable
    Catalog.consistent_empty wordLoad_run
  exact ⟨hs, (hbatched wordSchema threeRows).2 (.inl (by decide)), wordLoad_run,
    hless.2 (.inl (by decide))⟩

/-- A negative batch size is accepted, and then a row is counted that was never stored. -/
theorem negativeSize_miscounts :
    let s : LoadSettings := ⟨-1, .permissive⟩
    let load : Load := .create "s" "a" wordSchema [wordRow]
    LoadSettings.configured .plain (some (-1)) none = .ok s
      ∧ ((load.run s freshWorld).1.map DataTable.rowCount) = .ok 1
      ∧ (load.run s freshWorld).2.contents "ds_s_a" = some [] := by
  intro s load
  have hrun : load.run s freshWorld = Action.loadNew s "s" "a" wordSchema [wordRow] freshWorld :=
    createTable_eq_loadNew rfl (by decide)
  rw [hrun, Action.loadNew, Action.writeRows, batches_eq_nil (by decide)]
  exact ⟨rfl, rfl, rfl⟩

end MetricLayer
