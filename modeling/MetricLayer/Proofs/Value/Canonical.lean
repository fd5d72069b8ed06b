import MetricLayer.Proofs.Sql.Spelling
import MetricLayer.Proofs.Value.JsonText

/-!
# Canonical texts are faithful

`Value.ordered` puts the fields of all objects in a value into the order of their names.  JSON values
with one canonical text are equal up to that (`Value.ordered_eq_of_canonical_eq`).  The induction
reads texts with something behind them: a value is `Determined` by any text that starts with its own
and goes on with a comma, a closing bracket or nothing.
-/

namespace MetricLayer

open Sql Text

namespace Value

/-! ## JSON values up to the order of fields -/

/-- The value is one that JSON has: a scalar, a text, or a list or an object of such values. -/
inductive IsJson : Value → Prop
  | scalar {v : Value} (h : IsScalar v) : IsJson v
  | text (s : String) : IsJson (.text s)
  | list {items : List Value} (h : ∀ v ∈ items, IsJson v) : IsJson (.list items)
  | object {fields : Fields} (h : ∀ f ∈ fields, IsJson f.2) : IsJson (.object fields)

mutual

/-- The value with the fields of its objects, at every depth, in the order of their names. -/
def ordered : Value → Value
  | list items => list (orderedItems items)
  | tuple items => tuple (orderedItems items)
  | object fields => object (sortByName (orderedFields fields))
  | v => v

/-- The items of a list, each with its fields in order. -/
def orderedItems : List Value → List Value
  | [] => []
  | v :: rest => v.ordered :: orderedItems rest

/-- The fields of an object, the value of each with its fields in order. -/
def orderedFields : Fields → Fields
  | [] => []
  | (name, v) :: rest => (name, v.ordered) :: orderedFields rest

end

theorem orderedItems_eq (items : List Value) : orderedItems items = items.map ordered := by
  induction items with
  | nil => rfl
  | cons v rest ih => rw [orderedItems, ih, List.map_cons]

theorem orderedFields_eq (fields : Fields) :
    orderedFields fields = fields.map fun f => (f.1, f.2.ordered) := by
  induction fields with
  | nil => rfl
  | cons f rest ih => rw [orderedFields, ih, List.map_cons]

theorem canonicalItems_eq (items : List Value) : canonicalItems items = items.map canonical := by
  induction items with
  | nil => rfl
  | cons v rest ih => rw [canonicalItems, ih, List.map_cons]

theorem canonicalFields_eq (fields : Fields) :
    canonicalFields fields = fields.map fun f => (f.1, f.2.canonical) := by
  induction fields with
  | nil => rfl
  | cons f rest ih => rw [canonicalFields, ih, List.map_cons]

/-- Sorting by name commutes with a change of the values. -/
theorem sortByName_map {α β : Type} (g : α → β) (fields : List (String × α)) :
    sortByName (fields.map fun f => (f.1, g f.2))
      = (sortByName fields).map fun f => (f.1, g f.2) := by
  refine Eq.symm (List.map_mergeSort ?_)
  intro _ _ _ _
  rfl

theorem sortByName_perm {α : Type} (fields : List (String × α)) : (sortByName fields).Perm fields :=
  List.mergeSort_perm _ _

theorem IsScalar.ordered_eq {v : Value} (h : IsScalar v) : v.ordered = v := by
  cases h with
  | null | bool | int | float => rfl

theorem ordered_list (items : List Value) :
    (Value.list items).ordered = .list (items.map ordered) := by
  rw [ordered, orderedItems_eq]

theorem ordered_object (fields : Fields) :
    (Value.object fields).ordered
      = .object ((sortByName fields).map fun f => (f.1, f.2.ordered)) := by
  rw [ordered, orderedFields_eq, sortByName_map]

/-- The text of a field of an object. -/
def fieldText (f : String × Value) : String := jsonString f.1 ++ ":" ++ f.2.canonical

theorem toList_list (items : List Value) :
    (Value.list items).canonical.toList
      = '[' :: ((joined "," (items.map canonical)).toList ++ [']']) := by
  rw [canonical, canonicalItems_eq, String.toList_append, String.toList_append]
  rfl

theorem toList_object (fields : Fields) :
    (Value.object fields).canonical.toList
      = '\x7b' :: ((joined "," ((sortByName fields).map fieldText)).toList ++ ['\x7d']) := by
  rw [canonical, canonicalFields_eq, sortByName_map, List.map_map, String.toList_append,
    String.toList_append]
  rfl

/-- The order in which fields with different names were given does not matter. -/
theorem sortByName_eq_of_perm {α : Type} {fields fields' : List (String × α)}
    (hperm : fields.Perm fields') (hnames : (fields.map Prod.fst).Nodup) :
    sortByName fields = sortByName fields' := by
  have hsorted : ∀ l : List (String × α), (sortByName l).Pairwise fun a b => a.1 ≤ b.1 := by
    intro l
    have hpairwise : (sortByName l).Pairwise fun a b => decide (a.1 ≤ b.1) = true := by
      refine List.pairwise_mergeSort ?_ ?_ l
      · intro a b c hab hbc
        rw [decide_eq_true_eq] at hab hbc ⊢
        exact String.le_trans hab hbc
      · intro a b
        rw [Bool.or_eq_true, decide_eq_true_eq, decide_eq_true_eq]
        exact String.le_total a.1 b.1
    exact hpairwise.imp fun h => of_decide_eq_true h
  refine List.Perm.eq_of_pairwise ?_ (hsorted _) (hsorted _)
    ((sortByName_perm fields).trans (hperm.trans (sortByName_perm fields').symm))
  intro a b ha hb hab hba
  have hmem := (sortByName_perm fields).mem_iff.1 ha
  have hmem' := hperm.mem_iff.2 ((sortByName_perm fields').mem_iff.1 hb)
  exact List.inj_on_of_nodup_map hnames hmem hmem' (String.le_antisymm hab hba)

theorem canonical_object_congr {fields fields' : Fields}
    (h : canonicalFields fields = canonicalFields fields') :
    (Value.object fields).canonical = (Value.object fields').canonical := by
  rw [canonical, canonical, h]

theorem canonical_eq_of_perm {fields fields' : Fields} (hperm : fields.Perm fields')
    (hnames : fields.names.Nodup) :
    (Value.object fields).canonical = (Value.object fields').canonical := by
  apply String.toList_inj.1
  rw [toList_object, toList_object, sortByName_eq_of_perm hperm hnames]

/-! ## Texts one after another -/

/-- What may follow a value inside a list or an object: a comma or a closing bracket. -/
def Follows (cs : List Char) : Prop := ∀ c ∈ cs.head?, c = ',' ∨ c = ']' ∨ c = '\x7d'

/-- The value is determined, up to the order of fields, by any text that starts with its own. -/
def Determined (v : Value) : Prop :=
  ∀ w, IsJson w → ∀ cs ds, Follows cs → Follows ds →
    v.canonical.toList ++ cs = w.canonical.toList ++ ds → v.ordered = w.ordered ∧ cs = ds

/-- The texts that follow the first one, a comma before each. -/
def following {α : Type} (text : α → String) (as : List α) : List Char :=
  as.flatMap fun a => ',' :: (text a).toList

theorem toList_joined {α : Type} (text : α → String) (a : α) (as : List α) :
    (joined "," ((a :: as).map text)).toList = (text a).toList ++ following text as := by
  induction as generalizing a with
  | nil => exact (List.append_nil _).symm
  | cons b bs ih =>
    rw [List.map_cons, List.map_cons, joined_cons, String.toList_append, String.toList_append,
      ← List.map_cons, ih b]
    simp [following]

section Joined

variable {α : Type} {text : α → String} {r : α → α → Prop} {close : Char} {cs ds : List Char}

theorem follows_following (hclose : close = ']' ∨ close = '\x7d') (as : List α) :
    Follows (following text as ++ close :: cs) := by
  intro c hc
  cases as with
  | nil =>
    cases hc
    exact .inr hclose
  | cons a as =>
    cases hc
    exact .inl rfl

theorem following_append_inj (hclose : close = ']' ∨ close = '\x7d') {as bs : List α}
    (hinj : ∀ a ∈ as, ∀ b ∈ bs, ∀ cs ds, Follows cs → Follows ds →
      (text a).toList ++ cs = (text b).toList ++ ds → r a b ∧ cs = ds)
    (h : following text as ++ close :: cs = following text bs ++ close :: ds) :
    List.Forall₂ r as bs ∧ cs = ds := by
  have hcomma : close ≠ ',' := by rcases hclose with rfl | rfl <;> decide
  induction as generalizing bs with
  | nil =>
    cases bs with
    | nil => exact ⟨.nil, (List.cons.inj h).2⟩
    | cons b bs => exact absurd (List.cons.inj h).1 hcomma
  | cons a as ih =>
    cases bs with
    | nil => exact absurd (List.cons.inj h).1.symm hcomma
    | cons b bs =>
      have htail : (text a).toList ++ (following text as ++ close :: cs)
          = (text b).toList ++ (following text bs ++ close :: ds) := by
        simpa [following] using h
      obtain ⟨hab, hrest⟩ := hinj a List.mem_cons_self b List.mem_cons_self _ _
        (follows_following hclose as) (follows_following hclose bs) htail
      obtain ⟨hall, hend⟩ := ih (fun a ha b hb =>
        hinj a (List.mem_cons_of_mem _ ha) b (List.mem_cons_of_mem _ hb)) hrest
      exact ⟨.cons hab hall, hend⟩

/-- Texts with commas between them, before a closing bracket that none of them starts with, can be
told apart when each of them can be told from what follows. -/
theorem joined_append_inj (hclose : close = ']' ∨ close = '\x7d') {as bs : List α}
    (hhead : ∀ a ∈ as ++ bs, ∀ cs ds, (text a).toList ++ cs ≠ close :: ds)
    (hinj : ∀ a ∈ as, ∀ b ∈ bs, ∀ cs ds, Follows cs → Follows ds →
      (text a).toList ++ cs = (text b).toList ++ ds → r a b ∧ cs = ds)
    (h : (joined "," (as.map text)).toList ++ close :: cs
      = (joined "," (bs.map text)).toList ++ close :: ds) :
    List.Forall₂ r as bs ∧ cs = ds := by
  cases as with
  | nil =>
    cases bs with
    | nil => exact ⟨.nil, (List.cons.inj h).2⟩
    | cons b bs =>
      rw [toList_joined, List.append_assoc] at h
      exact absurd h.symm (hhead b (by simp) _ _)
  | cons a as =>
    rw [toList_joined, List.append_assoc] at h
    cases bs with
    | nil => exact absurd h (hhead a (by simp) _ _)
    | cons b bs =>
      rw [toList_joined, List.append_assoc] at h
      obtain ⟨hab, hrest⟩ := hinj a List.mem_cons_self b List.mem_cons_self _ _
        (follows_following hclose as) (follows_following hclose bs) h
      obtain ⟨hall, hend⟩ := following_append_inj hclose (fun a ha b hb =>
        hinj a (List.mem_cons_of_mem _ ha) b (List.mem_cons_of_mem _ hb)) hrest
      exact ⟨.cons hab hall, hend⟩

end Joined

/-! ## Kinds of values by their first characters -/

/-- The first character of the text of a value that is no scalar. -/
def opening? : Value → Option Char
  | text _ => some '"'
  | list _ => some '['
  | object _ => some '\x7b'
  | _ => none

theorem opening?_notMem {v : Value} {c : Char} (h : v.opening? = some c) :
    c ∉ IsScalar.chars := by
  cases v with
  | text s => cases h; decide
  | list items => cases h; decide
  | object fields => cases h; decide
  | _ => cases h

/-- The first character of a text is the opening of its value, or one of a scalar's. -/
theorem IsJson.head {v : Value} (h : IsJson v) (cs : List Char) :
    ∃ c ds, v.canonical.toList ++ cs = c :: ds ∧
      (v.opening? = some c ∨ v.opening? = none ∧ c ∈ IsScalar.chars) := by
  cases h with
  | scalar h =>
    obtain ⟨c, ds, hcons⟩ := List.exists_cons_of_ne_nil h.canonical_ne_nil
    refine ⟨c, ds ++ cs, by rw [hcons, List.cons_append], .inr ⟨?_, ?_⟩⟩
    · cases h <;> rfl
    · exact h.canonical_chars c (by rw [hcons]; exact List.mem_cons_self)
  | text s => exact ⟨'"', _, by rw [canonical, jsonString, String.toList_ofList]; rfl, .inl rfl⟩
  | list h => exact ⟨'[', _, by rw [toList_list]; rfl, .inl rfl⟩
  | object h => exact ⟨'\x7b', _, by rw [toList_object]; rfl, .inl rfl⟩

theorem opening?_eq {v w : Value} (hv : IsJson v) (hw : IsJson w) {cs ds : List Char}
    (h : v.canonical.toList ++ cs = w.canonical.toList ++ ds) : v.opening? = w.opening? := by
  obtain ⟨c, vs, hvs, hc⟩ := hv.head cs
  obtain ⟨d, ws, hws, hd⟩ := hw.head ds
  rw [hvs, hws] at h
  obtain ⟨rfl, -⟩ := List.cons.inj h
  rcases hc with hc | ⟨hc, hmem⟩
  · rcases hd with hd | ⟨-, hmem⟩
    · exact hc.trans hd.symm
    · exact absurd hmem (opening?_notMem hc)
  · rcases hd with hd | ⟨hd, -⟩
    · exact absurd hmem (opening?_notMem hd)
    · exact hc.trans hd.symm

/-! ## Values are determined by their texts -/

theorem ne_closing {v : Value} (hv : IsJson v) {close : Char}
    (hclose : close = ']' ∨ close = '\x7d') (cs ds : List Char) :
    v.canonical.toList ++ cs ≠ close :: ds := by
  intro h
  obtain ⟨c, vs, hvs, hc⟩ := hv.head cs
  obtain ⟨rfl, -⟩ := List.cons.inj (hvs.symm.trans h)
  rcases hc with hc | ⟨-, hmem⟩
  · cases v <;> cases hc <;> rcases hclose with h | h <;> cases h
  · rcases hclose with rfl | rfl <;> exact absurd hmem (by decide)

/-- The characters of a scalar end where something follows it. -/
theorem append_follows_inj {as bs cs ds : List Char} (has : ∀ c ∈ as, c ∈ IsScalar.chars)
    (hbs : ∀ c ∈ bs, c ∈ IsScalar.chars) (hcs : Follows cs) (hds : Follows ds)
    (h : as ++ cs = bs ++ ds) : as = bs ∧ cs = ds := by
  have hstop : ∀ {c : Char} {rest : List Char}, Follows (c :: rest) → c ∉ IsScalar.chars := by
    intro c rest hfollows
    rcases hfollows c rfl with rfl | rfl | rfl <;> decide
  induction as generalizing bs with
  | nil =>
    cases bs with
    | nil => exact ⟨rfl, h⟩
    | cons b bs =>
      rw [List.nil_append] at h
      rw [h] at hcs
      exact absurd (hbs b List.mem_cons_self) (hstop hcs)
  | cons a as ih =>
    cases bs with
    | nil =>
      rw [List.nil_append] at h
      rw [← h] at hds
      exact absurd (has a List.mem_cons_self) (hstop hds)
    | cons b bs =>
      obtain ⟨rfl, htail⟩ := List.cons.inj h
      obtain ⟨rfl, hrest⟩ := ih (fun c hc => has c (List.mem_cons_of_mem _ hc))
        (fun c hc => hbs c (List.mem_cons_of_mem _ hc)) htail
      exact ⟨rfl, hrest⟩

theorem scalar_determined {v : Value} (hv : IsScalar v) : Determined v := by
  intro w hw cs ds hcs hds h
  have hopening := opening?_eq (.scalar hv) hw h
  cases hw with
  | scalar hw =>
    obtain ⟨htext, hrest⟩ := append_follows_inj hv.canonical_chars hw.canonical_chars hcs hds h
    rw [hv.canonical_inj hw (String.toList_inj.1 htext)]
    exact ⟨rfl, hrest⟩
  | text | list | object => cases hv <;> cases hopening

theorem text_determined (s : String) : Determined (.text s) := by
  intro w hw cs ds _ _ h
  have hopening := opening?_eq (.text s) hw h
  cases hw with
  | scalar hw => cases hw <;> cases hopening
  | text t =>
    obtain ⟨rfl, hrest⟩ := jsonString_append_inj h
    exact ⟨rfl, hrest⟩
  | list | object => cases hopening

theorem map_eq_of_forall₂ {α β : Type} {f : α → β} {as bs : List α}
    (h : List.Forall₂ (fun a b => f a = f b) as bs) : as.map f = bs.map f := by
  have hmapped := List.forall₂_map_left_iff.2 (List.forall₂_map_right_iff.2 h)
  rwa [List.forall₂_eq_eq_eq] at hmapped

theorem list_determined {items : List Value} (hitems : ∀ v ∈ items, IsJson v)
    (ih : ∀ v ∈ items, Determined v) : Determined (.list items) := by
  intro w hw cs ds _ _ h
  have hopening := opening?_eq (.list hitems) hw h
  cases hw with
  | scalar hw => cases hw <;> cases hopening
  | text | object => cases hopening
  | @list items' hitems' =>
    have hhead : ∀ v ∈ items ++ items', ∀ cs ds, v.canonical.toList ++ cs ≠ ']' :: ds := by
      intro v hv
      exact ne_closing ((List.mem_append.1 hv).elim (hitems v) (hitems' v)) (.inl rfl)
    rw [toList_list, toList_list, List.cons_append, List.cons_append, List.append_assoc,
      List.append_assoc] at h
    obtain ⟨hall, hrest⟩ := joined_append_inj (r := fun v w => v.ordered = w.ordered) (.inl rfl)
      hhead (fun v hv w hw => ih v hv w (hitems' w hw)) (List.cons.inj h).2
    refine ⟨?_, hrest⟩
    rw [ordered_list, ordered_list, map_eq_of_forall₂ hall]

/-- A field is determined when its value is. -/
theorem fieldText_append_inj {f g : String × Value} (hf : Determined f.2) (hg : IsJson g.2)
    {cs ds : List Char} (hcs : Follows cs) (hds : Follows ds)
    (h : (fieldText f).toList ++ cs = (fieldText g).toList ++ ds) :
    (f.1, f.2.ordered) = (g.1, g.2.ordered) ∧ cs = ds := by
  simp only [fieldText, String.toList_append, List.append_assoc] at h
  obtain ⟨hname, htail⟩ := jsonString_append_inj h
  obtain ⟨hvalue, hrest⟩ := hf g.2 hg cs ds hcs hds (List.cons.inj htail).2
  exact ⟨by rw [hname, hvalue], hrest⟩

theorem fieldText_ne_closing (f : String × Value) (cs ds : List Char) :
    (fieldText f).toList ++ cs ≠ '\x7d' :: ds := by
  intro h
  rw [fieldText, jsonString, String.toList_append, String.toList_append, String.toList_ofList] at h
  exact absurd (List.cons.inj h).1 (by decide)

theorem object_determined {fields : Fields} (hfields : ∀ f ∈ fields, IsJson f.2)
    (ih : ∀ f ∈ fields, Determined f.2) : Determined (.object fields) := by
  intro w hw cs ds _ _ h
  have hopening := opening?_eq (.object hfields) hw h
  cases hw with
  | scalar hw => cases hw <;> cases hopening
  | text | list => cases hopening
  | @object fields' hfields' =>
    rw [toList_object, toList_object, List.cons_append, List.cons_append, List.append_assoc,
      List.append_assoc] at h
    have hinj : ∀ f ∈ sortByName fields, ∀ g ∈ sortByName fields', ∀ cs ds, Follows cs →
        Follows ds → (fieldText f).toList ++ cs = (fieldText g).toList ++ ds →
        (f.1, f.2.ordered) = (g.1, g.2.ordered) ∧ cs = ds := by
      intro f hf g hg cs ds
      exact fieldText_append_inj (ih f ((sortByName_perm fields).mem_iff.1 hf))
        (hfields' g ((sortByName_perm fields').mem_iff.1 hg))
    obtain ⟨hall, hrest⟩ := joined_append_inj (.inr rfl)
      (fun f _ => fieldText_ne_closing f) hinj (List.cons.inj h).2
    refine ⟨?_, hrest⟩
    rw [ordered_object, ordered_object, map_eq_of_forall₂ hall]

/-- The canonical text of a JSON value determines it up to the order of fields. -/
theorem IsJson.determined {v : Value} (h : IsJson v) : Determined v := by
  induction h with
  | scalar h => exact scalar_determined h
  | text s => exact text_determined s
  | list h ih => exact list_determined h ih
  | object h ih => exact object_determined h ih

theorem ordered_eq_of_canonical_eq {v w : Value} (hv : IsJson v) (hw : IsJson w)
    (h : v.canonical = w.canonical) : v.ordered = w.ordered := by
  have hfollows : Follows [] := by
    rintro c ⟨⟩
  exact (hv.determined w hw [] [] hfollows hfollows (by rw [h])).1

end Value

end MetricLayer
