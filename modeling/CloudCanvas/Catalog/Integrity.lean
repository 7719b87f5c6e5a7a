import CloudCanvas.Catalog.ResourceKind

/-!
The integrity of a catalog. Every resource kind needs a family, every plan type but `other` a
native kind, and every kind that is not an `other` kind a plan type that has it as its native
kind. The first requirement that fails is reported, with everything that fails it.
-/

namespace CloudCanvas

structure Catalog where
  family : ResourceKind → Option Family
  native : PlanType → Option ResourceKind

inductive IntegrityError
  | kindsWithoutFamily (kinds : List ResourceKind)
  | typesWithoutKind (types : List PlanType)
  | unreachableKinds (kinds : List ResourceKind)
deriving DecidableEq

namespace IntegrityError

def nameList (names : List String) : String :=
  (Document.arr (names.map .str)).quoted

def message : IntegrityError → String
  | .kindsWithoutFamily kinds =>
    "resource kinds without a family: " ++ nameList (kinds.map ResourceKind.name)
  | .typesWithoutKind types =>
    "plan types without a resource kind: " ++ nameList (types.map PlanType.name)
  | .unreachableKinds kinds =>
    "resource kinds no plan type resolves to: " ++ nameList (kinds.map ResourceKind.name)

end IntegrityError

namespace Catalog

def standard : Catalog :=
  ⟨fun k => some k.family, PlanType.native?⟩

def dropFamily (c : Catalog) (k : ResourceKind) : Catalog :=
  { c with family := fun j => if j = k then none else c.family j }

def dropNative (c : Catalog) (t : PlanType) : Catalog :=
  { c with native := fun u => if u = t then none else c.native u }

def setNative (c : Catalog) (t : PlanType) (k : ResourceKind) : Catalog :=
  { c with native := fun u => if u = t then some k else c.native u }

def kindsWithoutFamily (c : Catalog) : List ResourceKind :=
  ResourceKind.all.filter fun k => (c.family k).isNone

def typesWithoutKind (c : Catalog) : List PlanType :=
  PlanType.all.filter fun t => t ≠ .other ∧ (c.native t).isNone

def reaches (c : Catalog) (k : ResourceKind) : Bool :=
  PlanType.all.any fun t => c.native t == some k

def unreachableKinds (c : Catalog) : List ResourceKind :=
  ResourceKind.all.filter fun k => !k.isOther && !c.reaches k

def check (c : Catalog) : Except IntegrityError Unit :=
  if c.kindsWithoutFamily ≠ [] then .error (.kindsWithoutFamily c.kindsWithoutFamily)
  else if c.typesWithoutKind ≠ [] then .error (.typesWithoutKind c.typesWithoutKind)
  else if c.unreachableKinds ≠ [] then .error (.unreachableKinds c.unreachableKinds)
  else .ok ()

/-- The family of what `r` stands for; nothing when the catalog gives its kind no family. -/
def familyOf? (c : Catalog) (r : KindRef) : Option Family :=
  match r.resolveBy? c.native with
  | some k => c.family k
  | none => some .other

def kindFor (c : Catalog) (t : PlanType) (p : Provider) : ResourceKind :=
  t.kindBy c.native p

theorem standard_check : standard.check = .ok () :=
  rfl

end Catalog

end CloudCanvas
