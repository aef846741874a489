import SheetSchema.Text.Blank

/-!
# Actions and permissions

The four actions under which a field can be exposed, and tables that hold a value for some of
them.
-/

namespace SheetSchema

/-- What can be done with a stored model. -/
inductive Action where
  | create
  | read
  | update
  | delete
deriving DecidableEq

namespace Action

/-- All actions, in their fixed order. -/
def all : List Action := [create, read, update, delete]

/-- Name in documents. -/
def name : Action → String
  | create => "create"
  | read => "read"
  | update => "update"
  | delete => "delete"

/-- The action that a column names, in any case. -/
def ofColumn? (column : String) : Option Action :=
  all.find? fun action => Text.sameIgnoringCase column action.name

end Action

/-- Whether a field must or may be supplied for an action. -/
inductive Permission where
  | required
  | optional
deriving DecidableEq

namespace Permission

/-- Name in documents. -/
def name : Permission → String
  | required => "required"
  | optional => "optional"

/-- The permission that a text names, in any case. -/
def ofText? (text : String) : Option Permission :=
  [required, optional].find? fun permission => Text.sameIgnoringCase text permission.name

/-- The permission with exactly this name. -/
def ofName? (text : String) : Option Permission :=
  [required, optional].find? fun permission => text == permission.name

end Permission

/-- A value for some of the actions. -/
structure PerAction (α : Type) where
  create : Option α := none
  read : Option α := none
  update : Option α := none
  delete : Option α := none
deriving DecidableEq

namespace PerAction

variable {α β : Type}

/-- The table without a value. -/
def empty : PerAction α := {}

instance : Inhabited (PerAction α) := ⟨empty⟩

/-- The value for an action. -/
def get (table : PerAction α) : Action → Option α
  | .create => table.create
  | .read => table.read
  | .update => table.update
  | .delete => table.delete

/-- Replace the value for an action. -/
def put (table : PerAction α) (action : Action) (value : Option α) : PerAction α :=
  match action with
  | .create => { table with create := value }
  | .read => { table with read := value }
  | .update => { table with update := value }
  | .delete => { table with delete := value }

/-- Actions that have a value. -/
def actions (table : PerAction α) : List Action :=
  Action.all.filter fun action => (table.get action).isSome

/-- Whether no action has a value. -/
def isEmpty (table : PerAction α) : Bool :=
  Action.all.all fun action => (table.get action).isNone

/-- Actions that have a value, each with it. -/
def entries (table : PerAction α) : List (Action × α) :=
  Action.all.filterMap fun action => (table.get action).map fun value => (action, value)

end PerAction

/-- Permissions of one field. -/
abbrev Permissions := PerAction Permission

/-- Names of the permitted fields of one model. -/
abbrev Routes := PerAction (List String)

/-- Set the permitted fields of an action; no field leaves the action without a list. -/
def Routes.permit (routes : Routes) (action : Action) (fields : List String) :
    Routes :=
  routes.put action (if fields.isEmpty then none else some fields)

end SheetSchema
