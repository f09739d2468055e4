/-
What a settings file holds, whatever its format: scalars, lists and tables.

The fields of a table have distinct names, which `put` keeps.  `overlay` lays
one value over another: tables are joined field by field, anything else
replaces what it covers.
-/
import CertRotation.Document.Real

namespace CertRotation.Document

/-! ## Names -/

/-- Things by their names, in order. -/
abbrev Named (α : Type) := List (String × α)

namespace Named

variable {α : Type}

/-- What has a name. -/
def get? (fs : Named α) (k : String) : Option α :=
  fs.lookup k

/-- Gives a name to a thing; a new name comes last. -/
def put (fs : Named α) (k : String) (v : α) : Named α :=
  match fs with
  | [] => [(k, v)]
  | (k', v') :: r => if k = k' then (k, v) :: r else (k', v') :: put r k v

@[simp] theorem get?_nil (k : String) : get? ([] : Named α) k = none := rfl

theorem get?_cons (k k' : String) (v : α) (fs : Named α) :
    get? ((k', v) :: fs) k = if k = k' then some v else get? fs k := by
  by_cases h : k = k'
  · simp [get?, h]
  · simp [get?, List.lookup_cons, beq_false_of_ne h, h]

theorem get?_put (fs : Named α) (k k' : String) (v : α) :
    (fs.put k v).get? k' = if k' = k then some v else fs.get? k' := by
  induction fs with
  | nil => simp [put, get?_cons]
  | cons f r ih =>
    obtain ⟨j, w⟩ := f
    by_cases h : k = j
    · subst h
      by_cases h' : k' = k <;> simp [put, get?_cons, h']
    · by_cases h' : k' = j
      · subst h'
        simp [put, get?_cons, h, Ne.symm h]
      · simp [put, get?_cons, h, h', ih]

end Named

/-! ## Values -/

/-- A dynamic value. -/
inductive Value where
  | null
  | bool (b : Bool)
  | int (i : Int)
  | real (x : Real64)
  | text (s : String)
  | list (items : List Value)
  | table (fields : List (String × Value))
deriving Repr

/-- The fields of a table, in order. -/
abbrev Fields := Named Value

/-- An integer that 64 bits hold. -/
def int64? (i : Int) : Option Int :=
  if -0x8000000000000000 ≤ i ∧ i < 0x8000000000000000 then some i else none

namespace Value

/-- The fields of a table; other values have none. -/
def fields : Value → Fields
  | .table fs => fs
  | _ => []

/-- The items of a list; other values have none. -/
def items : Value → List Value
  | .list vs => vs
  | _ => []

mutual

/-- Lays a value over what stands in its place. -/
def overlay (v : Value) (under : Option Value) : Value :=
  match v with
  | .table fs => overlayFields fs (under.getD (.table []))
  | v => v

/-- Lays fields over a value, one after the other. -/
def overlayFields (fs : List (String × Value)) (under : Value) : Value :=
  match fs with
  | [] => under
  | (k, v) :: r =>
    overlayFields r (.table (under.fields.put k (overlay v (under.fields.get? k))))

end

end Value
end CertRotation.Document
