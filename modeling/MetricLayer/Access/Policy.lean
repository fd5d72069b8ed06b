import MetricLayer.Value.Display

/-!
# Row-level access

A policy gives filters to roles, and roles and attributes to users.  The filters of a user are those
of the roles in order, a later one replacing the fields of an earlier one, and then the user's own
attributes.  They are joined with the caller's filters so that both hold.
-/

namespace MetricLayer

/-- The roles and the filters of a user's own. -/
structure UserAccess where
  /-- The names of the roles, in order. -/
  roles : List Value
  /-- The filters from the attributes of the user. -/
  attributes : Fields

/-- Who may see which rows. -/
structure AccessPolicy where
  /-- The filters of each role. -/
  roles : List (String × Fields)
  /-- The access of each user. -/
  users : List (String × UserAccess)

namespace AccessPolicy

/-- The policy that restricts nobody. -/
def unrestricted : AccessPolicy := ⟨[], []⟩

/-- The attributes of a user that restrict rows, with the columns they restrict. -/
def attributeColumns : List (String × String) :=
  [("region", "region"), ("department", "department"), ("agent_code", "agentCode")]

/-! ## Reading -/

/-- The fields of an object; nothing else has any. -/
def fieldsOf : Value → Fields
  | .object fs => fs
  | _ => []

/-- A field of an object; null when it is absent. -/
def fieldOf (v : Value) (name : String) : Value := ((fieldsOf v).get? name).getD .null

/-- The single items of a value that lists something: the characters of a text, the names of the
fields of an object. -/
def listed : Value → List Value
  | .list items => items
  | .tuple items => items
  | .text s => s.toList.map fun c => .text c.toString
  | .object fs => (Fields.names fs).map .text
  | _ => []

/-- The filters of a user with these attributes. -/
def attributeFilters (user : Value) : Fields :=
  attributeColumns.filterMap fun (name, column) =>
    let v := fieldOf user name
    if v.isNull then none else some (column, v)

/-- The policy that a value describes; whatever it leaves out is empty. -/
def ofValue (v : Value) : AccessPolicy :=
  ⟨(fieldsOf (fieldOf v "roles")).map fun (name, role) =>
      (name, fieldsOf (fieldOf role "data_filters")),
    (fieldsOf (fieldOf v "users")).map fun (id, user) =>
      (id, ⟨listed (fieldOf user "roles"), attributeFilters user⟩)⟩

/-! ## Merging -/

/-- The filters of a role; a role that does not exist has none. -/
def roleFilters (p : AccessPolicy) : Value → Fields
  | .text name => (p.roles.lookup name).getD []
  | _ => []

/-- The access of a caller; an empty id names nobody. -/
def user? (p : AccessPolicy) (userId : Option String) : Option UserAccess :=
  (userId.filter (· ≠ "")).bind fun id => p.users.lookup id

/-- The filters of a user; empty for a user that is not known. -/
def userFilters (p : AccessPolicy) (userId : Option String) : Fields :=
  match p.user? userId with
  | none => []
  | some user =>
    let fromRoles := user.roles.foldl (fun (acc : Fields) role => acc.update (p.roleFilters role)) []
    Fields.update fromRoles user.attributes

/-- Two filter trees that both hold; either may be empty. -/
def bothFilters (base extra : Fields) : Fields :=
  if extra.isEmpty then base
  else if base.isEmpty then extra
  else [("AND", .list [.object base, .object extra])]

/-- The caller's filters together with those of the user. -/
def mergedFilters (p : AccessPolicy) (userId : Option String) (base : Fields) : Fields :=
  bothFilters base (p.userFilters userId)

/-! ## The policy that comes with the program -/

/-- The policy in force when no other is given. -/
def standard : AccessPolicy :=
  ⟨[("admin", []),
      ("north_sales", [("region", .text "North")]),
      ("retail_analyst",
        [("channel", .object [("in", .list [.text "store", .text "online"])])])],
    [("admin", ⟨[.text "admin"], []⟩),
      ("alice", ⟨[.text "north_sales"], []⟩),
      ("bob", ⟨[.text "retail_analyst"], [("department", .text "Retail")]⟩),
      ("carol", ⟨[.text "retail_analyst"],
        [("region", .text "South"), ("agentCode", .text "AG-042")]⟩)]⟩

end AccessPolicy

end MetricLayer
