import CloudCanvas.Reading.Issue

/-!
Readings: the result of reading a document as a record. A reading either has a value or lists
everything that is wrong, the issues of earlier fields first; one faulty field does not keep the
others from being looked at.
-/

namespace CloudCanvas

inductive Reading (α : Type)
  | ok (value : α)
  | faulty (issues : List Reading.Issue)

namespace Reading

variable {α β γ : Type}

def fail (fault : Fault) (input : Json) : Reading α :=
  .faulty [⟨[], fault, input⟩]

def map (f : α → β) : Reading α → Reading β
  | .ok a => .ok (f a)
  | .faulty issues => .faulty issues

/-- Both readings; the issues of both if neither has a value. -/
def both (f : α → β → γ) : Reading α → Reading β → Reading γ
  | .ok a, .ok b => .ok (f a b)
  | .ok _, .faulty js => .faulty js
  | .faulty is, .ok _ => .faulty is
  | .faulty is, .faulty js => .faulty (is ++ js)

theorem both_eq_ok_iff {f : α → β → γ} {a : Reading α} {b : Reading β} {c : γ} :
    both f a b = .ok c ↔ ∃ x y, a = .ok x ∧ b = .ok y ∧ f x y = c := by
  cases a <;> cases b <;> simp [both]

/-- Gives the next argument of a record's constructor. -/
def andThen (f : Reading (α → β)) (a : Reading α) : Reading β :=
  both (fun f a => f a) f a

theorem map_eq_ok_iff {f : α → β} {a : Reading α} {b : β} :
    map f a = .ok b ↔ ∃ x, a = .ok x ∧ f x = b := by
  cases a <;> simp [map]

theorem andThen_eq_ok_iff {f : Reading (α → β)} {a : Reading α} {b : β} :
    andThen f a = .ok b ↔ ∃ g x, f = .ok g ∧ a = .ok x ∧ g x = b :=
  both_eq_ok_iff

def under (step : Step) : Reading α → Reading α
  | .ok a => .ok a
  | .faulty issues => .faulty (issues.map fun i => { i with path := step :: i.path })

theorem under_eq_ok_iff {step : Step} {a : Reading α} {x : α} :
    a.under step = .ok x ↔ a = .ok x := by
  cases a <;> simp [under]

def inRequest : Reading α → Reading α
  | .ok a => .ok a
  | .faulty issues => .faulty (issues.map fun i => { i with fault := i.fault.inRequest })

theorem inRequest_eq_ok_iff {a : Reading α} {x : α} : a.inRequest = .ok x ↔ a = .ok x := by
  cases a <;> simp [inRequest]

def value? : Reading α → Option α
  | .ok a => some a
  | .faulty _ => none

def toExcept : Reading α → Except (List Issue) α
  | .ok a => .ok a
  | .faulty issues => .error issues

def text : Json → Reading String
  | .str s => .ok s
  | v => fail .noText v

def mapping : Json → Reading (Table Json)
  | .obj fields => .ok fields
  | v => fail .noMapping v

/-- Null stands for an absent value. -/
def optional (read : Json → Reading α) : Json → Reading (Option α)
  | .null => .ok none
  | v => (read v).map some

def itemsFrom (read : Json → Reading α) (n : Nat) : List Json → Reading (List α)
  | [] => .ok []
  | v :: rest => both List.cons ((read v).under (.index n)) (itemsFrom read (n + 1) rest)

/-- What every written item reads as, a written list reads as item by item. -/
theorem itemsFrom_map {read : Json → Reading α} {write : β → Json} {f : β → α} (n : Nat)
    (bs : List β) (h : ∀ b ∈ bs, read (write b) = .ok (f b)) :
    itemsFrom read n (bs.map write) = .ok (bs.map f) := by
  induction bs generalizing n with
  | nil => rfl
  | cons b rest ih =>
    rw [List.map_cons, itemsFrom, h b (by simp), ih (n + 1) fun c hc => h c (by simp [hc])]
    rfl

def list (read : Json → Reading α) : Json → Reading (List α)
  | .arr items => itemsFrom read 0 items
  | v => fail .noList v

def record (model : String) (read : Table Json → Reading α) : Json → Reading α
  | .obj fields => read fields
  | v => fail (.noRecord model) v

/-- The first of the keys that is present decides, whatever its value. -/
def firstPresent? (fields : Table Json) : List String → Option (String × Json)
  | [] => none
  | key :: keys =>
    match fields.get? key with
    | some v => some (key, v)
    | none => firstPresent? fields keys

def fieldOr (fields : Table Json) (keys : List String) (absent : α) (read : Json → Reading α) :
    Reading α :=
  match firstPresent? fields keys with
  | some (key, v) => (read v).under (.key key)
  | none => .ok absent

/-- A missing field is reported by the first of its keys. -/
def field (fields : Table Json) (keys : List String) (read : Json → Reading α) : Reading α :=
  match firstPresent? fields keys with
  | some (key, v) => (read v).under (.key key)
  | none => (fail .missing (.obj fields)).under (.key (keys.headD ""))

end Reading

end CloudCanvas
