import MetricLayer.Access.Policy
import MetricLayer.Proofs.Sql.Admission
import MetricLayer.Proofs.Value.Fields

/-!
# The restrictions of several roles

The filters of a user are those of the roles, laid over each other by name, and the user's own
attributes over them (`userFilters_eq`).  A name is a column or a connective, and a connective can
stand for a tree over any columns.

* `fieldsColumns` are the columns that filters mention.
* `enforced_or_replaced` is the main result: an entry of a role whose columns nothing later mentions
  holds on every row that the filters of the user admit, unless its name is a connective and
  something later has a tree for the same connective.
* `alternatives_replaced` is such a loss: of two roles with alternatives over different columns only
  those of the later one count.
-/

namespace MetricLayer.AccessPolicy

open Sql

variable {p : AccessPolicy} {userId : Option String} {user : UserAccess} {key : String}
  {fs : Fields}

/-! ## The columns of filters -/

mutual

/-- The columns that a filter tree mentions. -/
def treeColumns : Value → List String
  | .object fields => fieldsColumns fields
  | _ => []

/-- The columns that the fields of a tree mention. -/
def fieldsColumns : List (String × Value) → List String
  | [] => []
  | (key, v) :: rest =>
    (match Connective.ofWord? key with
      | some _ => groupColumns v
      | none => [key]) ++ fieldsColumns rest

/-- The columns below a connective. -/
def groupColumns : Value → List String
  | .list trees => treesColumns trees
  | .tuple trees => treesColumns trees
  | _ => []

/-- The columns of each tree of a list. -/
def treesColumns : List Value → List String
  | [] => []
  | tree :: rest => treeColumns tree ++ treesColumns rest

end

/-- A name that is no connective is a column. -/
theorem mem_fieldsColumns (hkey : Connective.ofWord? key = none) (h : key ∈ Fields.names fs) :
    key ∈ fieldsColumns fs := by
  induction fs with
  | nil => cases h
  | cons f rest ih =>
    rw [fieldsColumns, List.mem_append]
    rcases List.mem_cons.1 h with rfl | h
    · simp [hkey]
    · exact .inr (ih h)

/-! ## The filters of a user -/

/-- The filters of a user are those of each role and the attributes, one after another. -/
theorem userFilters_eq (h : p.user? userId = some user) :
    p.userFilters userId
      = (user.roles.map p.roleFilters ++ [user.attributes]).foldl Fields.update [] := by
  rw [userFilters, h, List.foldl_append, List.foldl_map]
  rfl

/-- An entry of a role is among the filters of the user, or something later has a value for its
name that is. -/
theorem mem_userFilters_or_replaced {before after : List Value} {role : Value} {v : Value}
    (huser : p.user? userId = some user) (hroles : user.roles = before ++ role :: after)
    (hnames : (p.roleFilters role).names.Nodup) (hentry : (key, v) ∈ p.roleFilters role) :
    (key, v) ∈ p.userFilters userId
      ∨ ∃ later ∈ after.map p.roleFilters ++ [user.attributes], ∃ w, (key, w) ∈ later
        ∧ (key, w) ∈ p.userFilters userId := by
  have hfold : p.userFilters userId
      = (after.map p.roleFilters ++ [user.attributes]).foldl Fields.update
        (((before.map p.roleFilters).foldl Fields.update []).update (p.roleFilters role)) := by
    rw [userFilters_eq huser, hroles]
    simp only [List.map_append, List.map_cons, List.append_assoc, List.cons_append,
      List.foldl_append, List.foldl_cons]
  rw [hfold]
  exact Fields.mem_or_replaced _ (Fields.mem_update_of_mem hnames hentry)

/-- An entry of a role whose columns neither a later role nor the attributes mention holds on every
row that the filters of the user admit.  Otherwise its name is a connective, for which a later role
or the attributes have the tree that counts. -/
theorem enforced_or_replaced {before after : List Value} {name : String} {filters : Fields}
    {v : Value} (huser : p.user? userId = some user)
    (hroles : user.roles = before ++ .text name :: after)
    (hrole : p.roles.lookup name = some filters) (hnames : filters.names.Nodup)
    (hentry : (key, v) ∈ filters)
    (hcolumns : ∀ later ∈ after.map p.roleFilters ++ [user.attributes],
      ∀ column ∈ fieldsColumns [(key, v)], column ∉ fieldsColumns later) :
    (∀ row : Assignment, Admits (.object (p.userFilters userId)) row → Admits (.object [(key, v)]) row)
      ∨ ∃ connective : Connective, key = connective.word
        ∧ ∃ later ∈ after.map p.roleFilters ++ [user.attributes], ∃ w, (key, w) ∈ later
          ∧ (key, w) ∈ p.userFilters userId := by
  have hfilters : p.roleFilters (.text name) = filters := by rw [roleFilters, hrole, Option.getD_some]
  rw [← hfilters] at hnames hentry
  rcases mem_userFilters_or_replaced huser hroles hnames hentry with hkept | hreplaced
  · refine .inl fun row hadmits => ?_
    have hsql : Succeeds (whereClause (.object (p.userFilters userId))) := by
      obtain ⟨clause, hclause, -⟩ := hadmits
      exact ⟨clause, hclause⟩
    exact (admits_fields hsql).1 hadmits _ hkept
  · refine .inr ?_
    obtain ⟨later, hlater, w, hw, hresult⟩ := hreplaced
    cases hkey : Connective.ofWord? key with
    | some connective =>
      have hword := List.find?_some hkey
      exact ⟨connective, (of_decide_eq_true hword).symm, later, hlater, w, hw, hresult⟩
    | none =>
      have hmentions := mem_fieldsColumns hkey (Fields.name_mem hw)
      exact absurd hmentions (hcolumns later hlater key (by simp [fieldsColumns, hkey]))

/-! ## Two roles with alternatives -/

/-- Alternatives for one column. -/
def oneOf (column : String) (values : List String) : Fields :=
  [("OR", .list (values.map fun value => .object [(column, .text value)]))]

/-- A user with a role for a department, one for some regions and one for some channels. -/
def threeRoles : AccessPolicy :=
  ⟨[("retail", [("department", .text "Retail")]), ("north", oneOf "region" ["North", "East"]),
      ("stores", oneOf "channel" ["store", "online"])],
    [("dana", ⟨[.text "retail", .text "north", .text "stores"], []⟩)]⟩

/-- A row of the department from a region that the user should not see. -/
def southernStore : RowReading String :=
  .ofTexts [("department", some "Retail"), ("region", some "South"), ("channel", some "store")]

theorem department_enforced :
    threeRoles.user? (some "dana") = some ⟨[.text "retail", .text "north", .text "stores"], []⟩
      ∧ threeRoles.roles.lookup "retail" = some [("department", .text "Retail")]
      ∧ ∀ row : Assignment, Admits (.object (threeRoles.userFilters (some "dana"))) row →
        Admits (.object [("department", .text "Retail")]) row := by
  have huser : threeRoles.user? (some "dana")
      = some ⟨[.text "retail", .text "north", .text "stores"], []⟩ := rfl
  have hroles : [Value.text "retail", .text "north", .text "stores"]
      = [] ++ .text "retail" :: [.text "north", .text "stores"] := rfl
  have hrole : threeRoles.roles.lookup "retail" = some [("department", .text "Retail")] := rfl
  refine ⟨huser, hrole, ?_⟩
  rcases enforced_or_replaced huser hroles hrole (by decide) List.mem_cons_self (by decide)
    with henforced | ⟨connective, hword, -⟩
  · exact henforced
  · cases connective <;> exact absurd hword (by decide)

/-- The alternatives of the last role replace those of the one before it, over another column. -/
theorem alternatives_replaced :
    (∃ user, threeRoles.user? (some "dana") = some user
        ∧ user.roles = [.text "retail"] ++ .text "north" :: [.text "stores"]
        ∧ ∀ later ∈ [.text "stores"].map threeRoles.roleFilters ++ [user.attributes],
          ∀ column ∈ fieldsColumns (oneOf "region" ["North", "East"]),
            column ∉ fieldsColumns later)
      ∧ threeRoles.roles.lookup "north" = some (oneOf "region" ["North", "East"])
      ∧ Admits (.object (threeRoles.userFilters (some "dana"))) southernStore.truth
      ∧ ¬Admits (.object (oneOf "region" ["North", "East"])) southernStore.truth := by
  refine ⟨⟨_, rfl, rfl, by decide⟩, rfl, ?_, ?_⟩
  · rw [admits_iff ⟨_, rfl⟩]
    rintro m ⟨rfl⟩
    decide
  · rw [admits_iff ⟨_, rfl⟩]
    intro hall
    exact absurd (hall _ rfl) (by decide)

end MetricLayer.AccessPolicy
