import CloudCanvas.Number.Basic
import CloudCanvas.Table
import CloudCanvas.Text.Blank
import CloudCanvas.Text.Loose

/-!
Documents. The fields of an object keep their order, and a well-formed document has no name twice
in one object. A document is false when it is null, false, zero or empty, and blank when it is
null or a blank text. The texts of a document are plain texts, or loose ones where another party
wrote it.
-/

namespace CloudCanvas

inductive Document (τ : Type)
  | null
  | bool (b : Bool)
  | num (n : Number)
  | str (s : τ)
  | arr (items : List (Document τ))
  | obj (fields : List (τ × Document τ))
deriving Inhabited

abbrev Json := Document String

namespace Document

variable {τ : Type}

def ofInt (n : Int) : Document τ :=
  .num (.int n)

def truthy [Text.Textual τ] : Document τ → Bool
  | .null => false
  | .bool b => b
  | .num n => !n.isZero
  | .str s => !(Text.points s).isEmpty
  | .arr items => !items.isEmpty
  | .obj fields => !fields.isEmpty

theorem truthy_str (s : String) : truthy (.str s) = !s.isEmpty := by
  rw [truthy, Text.isEmpty_points]

def isNull : Document τ → Bool
  | .null => true
  | _ => false

/-- Whether a value is neither a list nor an object. -/
def isScalar : Document τ → Bool
  | .arr _ | .obj _ => false
  | _ => true

def isBlank : Json → Bool
  | .null => true
  | .str s => Text.isBlankText s
  | _ => false

/-- The text of a string without the blanks around it; nothing for any other value. -/
def strippedText : Json → String
  | .str s => Text.strip s
  | _ => ""

def fields? : Document τ → Option (Table (Document τ) τ)
  | .obj fields => some fields
  | _ => none

/-- The fields of an object; none for any other value. -/
def fieldsOrEmpty (v : Document τ) : Table (Document τ) τ :=
  v.fields?.getD []

/-- The items of a list; none for any other value. -/
def itemsOrEmpty : Document τ → List (Document τ)
  | .arr items => items
  | _ => []

/-- The field of that name, null when there is none. -/
def getField [DecidableEq τ] (fields : Table (Document τ) τ) (key : τ) : Document τ :=
  (fields.get? key).getD .null

mutual

/-- One more than the greatest number of containers around a value. -/
def height : Document τ → Nat
  | .arr items => itemsHeight items + 1
  | .obj fields => fieldsHeight fields + 1
  | _ => 1

def itemsHeight : List (Document τ) → Nat
  | [] => 0
  | v :: rest => max v.height (itemsHeight rest)

def fieldsHeight : List (τ × Document τ) → Nat
  | [] => 0
  | (_, v) :: rest => max v.height (fieldsHeight rest)

end

mutual

/-- The greatest number of containers within each other. -/
def nesting : Document τ → Nat
  | .arr items => itemsNesting items + 1
  | .obj fields => fieldsNesting fields + 1
  | _ => 0

def itemsNesting : List (Document τ) → Nat
  | [] => 0
  | v :: rest => max v.nesting (itemsNesting rest)

def fieldsNesting : List (τ × Document τ) → Nat
  | [] => 0
  | (_, v) :: rest => max v.nesting (fieldsNesting rest)

end

mutual

def WellFormed : Document τ → Prop
  | .arr items => WellFormedItems items
  | .obj fields => (fields.map Prod.fst).Nodup ∧ WellFormedFields fields
  | _ => True

def WellFormedItems : List (Document τ) → Prop
  | [] => True
  | v :: rest => v.WellFormed ∧ WellFormedItems rest

def WellFormedFields : List (τ × Document τ) → Prop
  | [] => True
  | (_, v) :: rest => v.WellFormed ∧ WellFormedFields rest

end

mutual

/-- Whether every number in the document is finite. -/
def allFinite : Document τ → Bool
  | .num n => n.isFinite
  | .arr items => allFiniteItems items
  | .obj fields => allFiniteFields fields
  | _ => true

def allFiniteItems : List (Document τ) → Bool
  | [] => true
  | v :: rest => v.allFinite && allFiniteItems rest

def allFiniteFields : List (τ × Document τ) → Bool
  | [] => true
  | (_, v) :: rest => v.allFinite && allFiniteFields rest

end

mutual

/-- The document with null for every number that is not finite. -/
def finiteOrNull : Document τ → Document τ
  | .num n => if n.isFinite then .num n else .null
  | .arr items => .arr (finiteOrNullItems items)
  | .obj fields => .obj (finiteOrNullFields fields)
  | v => v

def finiteOrNullItems : List (Document τ) → List (Document τ)
  | [] => []
  | v :: rest => v.finiteOrNull :: finiteOrNullItems rest

def finiteOrNullFields : List (τ × Document τ) → List (τ × Document τ)
  | [] => []
  | (k, v) :: rest => (k, v.finiteOrNull) :: finiteOrNullFields rest

end

mutual

theorem allFinite_finiteOrNull : (v : Document τ) → v.finiteOrNull.allFinite = true
  | .num n => by
    unfold finiteOrNull
    split
    · assumption
    · rfl
  | .arr items => allFinite_finiteOrNullItems items
  | .obj fields => allFinite_finiteOrNullFields fields
  | .null | .bool _ | .str _ => rfl

theorem allFinite_finiteOrNullItems :
    (items : List (Document τ)) → allFiniteItems (finiteOrNullItems items) = true
  | [] => rfl
  | v :: rest => by
    simp [finiteOrNullItems, allFiniteItems, allFinite_finiteOrNull v,
      allFinite_finiteOrNullItems rest]

theorem allFinite_finiteOrNullFields :
    (fields : List (τ × Document τ)) → allFiniteFields (finiteOrNullFields fields) = true
  | [] => rfl
  | (_, v) :: rest => by
    simp [finiteOrNullFields, allFiniteFields, allFinite_finiteOrNull v,
      allFinite_finiteOrNullFields rest]

end

mutual

def decEq [DecidableEq τ] : (a b : Document τ) → Decidable (a = b)
  | .null, .null => isTrue rfl
  | .bool a, .bool b => decidable_of_iff (a = b) (by simp)
  | .num a, .num b => decidable_of_iff (a = b) (by simp)
  | .str a, .str b => decidable_of_iff (a = b) (by simp)
  | .arr a, .arr b => @decidable_of_iff _ (a = b) (by simp) (decEqItems a b)
  | .obj a, .obj b => @decidable_of_iff _ (a = b) (by simp) (decEqFields a b)
  | .null, .bool _ | .null, .num _ | .null, .str _ | .null, .arr _ | .null, .obj _
  | .bool _, .null | .bool _, .num _ | .bool _, .str _ | .bool _, .arr _ | .bool _, .obj _
  | .num _, .null | .num _, .bool _ | .num _, .str _ | .num _, .arr _ | .num _, .obj _
  | .str _, .null | .str _, .bool _ | .str _, .num _ | .str _, .arr _ | .str _, .obj _
  | .arr _, .null | .arr _, .bool _ | .arr _, .num _ | .arr _, .str _ | .arr _, .obj _
  | .obj _, .null | .obj _, .bool _ | .obj _, .num _ | .obj _, .str _ | .obj _, .arr _ =>
    isFalse (by simp)

def decEqItems [DecidableEq τ] : (a b : List (Document τ)) → Decidable (a = b)
  | [], [] => isTrue rfl
  | [], _ :: _ | _ :: _, [] => isFalse (by simp)
  | v :: a, w :: b =>
    @decidable_of_iff _ (v = w ∧ a = b) (by simp)
      (@instDecidableAnd _ _ (decEq v w) (decEqItems a b))

def decEqFields [DecidableEq τ] : (a b : List (τ × Document τ)) → Decidable (a = b)
  | [], [] => isTrue rfl
  | [], _ :: _ | _ :: _, [] => isFalse (by simp)
  | (j, v) :: a, (k, w) :: b =>
    @decidable_of_iff _ (j = k ∧ v = w ∧ a = b) (by simp [and_assoc])
      (@instDecidableAnd _ _ inferInstance
        (@instDecidableAnd _ _ (decEq v w) (decEqFields a b)))

end

instance [DecidableEq τ] : DecidableEq (Document τ) :=
  decEq

end Document

end CloudCanvas
