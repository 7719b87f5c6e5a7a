import CloudCanvas.Payload.Basic
import CloudCanvas.Reading.Issue

/-!
Responses of the service. Fields whose names begin with the internal mark are not published, at
any depth. A response holds finite numbers only: one that would hold any other number, and a
refusal that would quote one, cannot be written. It is a failure too when a payload cannot be
written, or when a page is asked for, which holds no document.
-/

namespace CloudCanvas.Service

structure Response where
  status : Nat
  body : Json
deriving DecidableEq

inductive Failure
  | notFinite
  | payload (cause : Payload.WireError)
  | page
deriving DecidableEq

def internalMark : List Char :=
  ['_', 's', 'a']

def isInternal (name : String) : Bool :=
  internalMark.isPrefixOf name.toList

mutual

/-- The document without the internal fields of its objects. -/
def published : Json → Json
  | .arr items => .arr (publishedItems items)
  | .obj fields => .obj (publishedFields fields)
  | v => v

def publishedItems : List Json → List Json
  | [] => []
  | v :: rest => published v :: publishedItems rest

def publishedFields : List (String × Json) → List (String × Json)
  | [] => []
  | (k, v) :: rest =>
    if isInternal k then publishedFields rest else (k, published v) :: publishedFields rest

end

mutual

theorem allFinite_published : (v : Json) → v.allFinite = true → (published v).allFinite = true
  | .arr items, h => allFinite_publishedItems items h
  | .obj fields, h => allFinite_publishedFields fields h
  | .null, h | .bool _, h | .num _, h | .str _, h => h

theorem allFinite_publishedItems : (items : List Json) → Document.allFiniteItems items = true →
    Document.allFiniteItems (publishedItems items) = true
  | [], _ => rfl
  | v :: rest, h => by
    rw [Document.allFiniteItems, Bool.and_eq_true] at h
    simp [publishedItems, Document.allFiniteItems, allFinite_published v h.1,
      allFinite_publishedItems rest h.2]

theorem allFinite_publishedFields : (fields : List (String × Json)) →
    Document.allFiniteFields fields = true →
      Document.allFiniteFields (publishedFields fields) = true
  | [], _ => rfl
  | (k, v) :: rest, h => by
    rw [Document.allFiniteFields, Bool.and_eq_true] at h
    unfold publishedFields
    split
    · exact allFinite_publishedFields rest h.2
    · simp [Document.allFiniteFields, allFinite_published v h.1, allFinite_publishedFields rest h.2]

end

def respond (status : Nat) (body : Json) : Except Failure Response :=
  if body.allFinite then .ok ⟨status, body⟩ else .error .notFinite

/-- A successful response, which publishes a document. -/
def publish (body : Json) : Except Failure Response :=
  respond 200 (published body)

def refuse (issues : List Reading.Issue) : Except Failure Response :=
  if issues.all (fun i => (published i.input).allFinite) then
    .ok ⟨422, .obj [("detail", .arr (issues.map Reading.Issue.toJson))]⟩
  else
    .error .notFinite

def detail (status : Nat) (text : String) : Except Failure Response :=
  respond status (.obj [("detail", .str text)])

end CloudCanvas.Service
