import GridAuthz.Der.Element

/-!
# Sets

The members of a SET OF are written in the order of their encodings, and no member twice. A
reader takes them in any order and sorts them, so a set that is read need not be written as it
was.
-/

namespace GridAuthz.Der

/-- Whether `a` stands before `b` in the order of byte strings, or is the same. -/
def bytesLE (a b : Bytes) : Bool := decide (a ≤ b)

/-- A set of values whose encodings are given by `encoding`. -/
structure SetOf (α : Type) (encoding : α → Bytes) where
  /-- The members, in order. -/
  members : List α
  /-- The encodings are strictly increasing. -/
  ordered : members.Pairwise fun a b => encoding a < encoding b

namespace SetOf

variable {α : Type} {encoding : α → Bytes}

instance [DecidableEq α] : DecidableEq (SetOf α encoding) := fun s t =>
  decidable_of_iff (s.members = t.members) (by
    constructor
    · intro h; cases s; cases t; cases h; rfl
    · intro h; rw [h])

/-- The set of the given values, in whatever order they come; none of them may be repeated. -/
def ofList? (values : List α) : Option (SetOf α encoding) :=
  let sorted := values.mergeSort fun a b => bytesLE (encoding a) (encoding b)
  if h : sorted.Pairwise fun a b => encoding a < encoding b then some ⟨sorted, h⟩ else none

/-- The set with one member. -/
def singleton (a : α) : SetOf α encoding := ⟨[a], List.pairwise_singleton _ _⟩

end SetOf

/-- The element of a set whose members are written by `encode`. -/
def SetOf.toElement {α : Type} {encode : α → Element} (s : SetOf α fun a => (encode a).encode) :
    Element :=
  ⟨.set, Element.encodeAll (s.members.map encode)⟩

/-- The set of an element whose members are read by `decode?`. -/
def SetOf.ofElement? {α : Type} {encode : α → Element} (decode? : Element → Option α)
    (e : Element) : Option (SetOf α fun a => (encode a).encode) := do
  let fields ← e.fieldsOf? .set
  SetOf.ofList? (← fields.mapM decode?)

end GridAuthz.Der
