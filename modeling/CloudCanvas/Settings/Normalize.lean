import CloudCanvas.Settings.Schema

/-!
Settings from what a user entered. Blank values are dropped, values under older names move to the
name on the wire unless that name has a value already, objects in place of key names are reduced
to the name, and what is left is brought to the shape of its field. A field whose value is absent
or unusable takes its fallback. No detail makes normalization fail.
-/

namespace CloudCanvas.Settings

/-- The numeric reading of a value, if it has one. -/
def number? : Json → Option Number
  | .bool b => some (.int (if b then 1 else 0))
  | .num n => n.plain?
  | .str s => Number.ofText? s
  | _ => none

/-- The value in the given shape, if it can be brought to it. -/
def Shape.coerce? : Shape → Json → Option Json
  | .flag, v => some (.bool v.truthy)
  | .number, v => (number? v).map .num
  | .text, .str s => some (.str s)
  | .text, .num n => some (.str (Document.num n).display)
  | .text, _ => none
  | .mapping, .obj fields => some (.obj fields)
  | .mapping, _ => none
  | .any, v => some v

def dropBlank (details : Table Json) : Table Json :=
  details.filter fun entry => !entry.2.isBlank

/-- The value under the first older name that is present moves to the field's own name. -/
def adoptLegacy (details : Table Json) (field : Field) : Table Json :=
  if details.contains field.name then details
  else
    match field.legacy.findSome? details.get? with
    | some v => details.set field.name v
    | none => details

def reduceNamed (details : Table Json) (field : Field) : Table Json :=
  if field.named then
    match details.get? field.name with
    | some (.obj parts) =>
      let name := Document.getField parts "name"
      if name.isBlank then details.erase field.name else details.set field.name name
    | _ => details
  else
    details

def settle (details : Table Json) (field : Field) : Option Json :=
  match details.get? field.name with
  | none => field.fallback
  | some v => if v.isBlank then field.fallback else (field.shape.coerce? v).or field.fallback

def prepare (schema : Schema) (details : Json) : Table Json :=
  schema.foldl reduceNamed (schema.foldl adoptLegacy (dropBlank details.fieldsOrEmpty))

def apply (schema : Schema) (details : Json) : Table Json :=
  schema.filterMap fun field => (settle (prepare schema details) field).map (field.name, ·)

/-- The settings of a kind. A value that names no modelled kind keeps the details as they are. -/
def normalize (kind : KindRef) (details : Json) : Table Json :=
  match kind.resolve? >>= schema? with
  | some schema => apply schema details
  | none => details.fieldsOrEmpty

end CloudCanvas.Settings
