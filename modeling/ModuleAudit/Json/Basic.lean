import ModuleAudit.Decimal.Binary64
import ModuleAudit.Table
import ModuleAudit.Text.Basic

/-!
# JSON values

Module facts, settings and reports are JSON values. Integers have any size and
are told apart from floating-point numbers; an object lists its fields in the
order in which they were first written.

Equality of values is decidable, field by field.

The machine that reads values and shows them sets limits to both: to the digits of
an integer, and to how far values are nested in each other.
-/

namespace ModuleAudit

/-- What a machine puts up with: the digits of an integer that is read or shown, and
how far values may be nested while they are read, shown or searched. -/
structure Limits where
  digits : Nat := 4300
  reading : Nat := 991
  showing : Nat := 990
  searching : Nat := 986
deriving DecidableEq, Repr

inductive Json where
  | null
  | bool (value : Bool)
  | int (value : Int)
  | float (value : Binary64)
  | str (value : Text)
  | arr (items : List Json)
  | obj (fields : List (Text × Json))
deriving Repr, Inhabited

namespace Json

mutual

def same : Json → Json → Bool
  | .null, .null => true
  | .bool a, .bool b => a == b
  | .int a, .int b => a == b
  | .float a, .float b => a == b
  | .str a, .str b => a == b
  | .arr a, .arr b => sameItems a b
  | .obj a, .obj b => sameFields a b
  | _, _ => false

def sameItems : List Json → List Json → Bool
  | [], [] => true
  | a :: as, b :: bs => same a b && sameItems as bs
  | _, _ => false

def sameFields : List (Text × Json) → List (Text × Json) → Bool
  | [], [] => true
  | (k, a) :: as, (l, b) :: bs => k == l && same a b && sameFields as bs
  | _, _ => false

end

mutual

theorem same_refl : (a : Json) → same a a = true
  | .null => rfl
  | .bool _ => by simp [same]
  | .int _ => by simp [same]
  | .float _ => by simp [same]
  | .str _ => by simp [same]
  | .arr items => by simpa [same] using sameItems_refl items
  | .obj fields => by simpa [same] using sameFields_refl fields

theorem sameItems_refl : (as : List Json) → sameItems as as = true
  | [] => rfl
  | a :: as => by simp [sameItems, same_refl a, sameItems_refl as]

theorem sameFields_refl : (as : List (Text × Json)) → sameFields as as = true
  | [] => rfl
  | (_, a) :: as => by simp [sameFields, same_refl a, sameFields_refl as]

end

mutual

theorem eq_of_same : (a b : Json) → same a b = true → a = b
  | .null, .null, _ => rfl
  | .bool _, .bool _, h => by simp [same] at h; rw [h]
  | .int _, .int _, h => by simp [same] at h; rw [h]
  | .float _, .float _, h => by simp [same] at h; rw [h]
  | .str _, .str _, h => by simp [same] at h; rw [h]
  | .arr a, .arr b, h => by rw [eq_of_sameItems a b (by simpa [same] using h)]
  | .obj a, .obj b, h => by rw [eq_of_sameFields a b (by simpa [same] using h)]

theorem eq_of_sameItems : (as bs : List Json) → sameItems as bs = true → as = bs
  | [], [], _ => rfl
  | a :: as, b :: bs, h => by
    simp only [sameItems, Bool.and_eq_true] at h
    rw [eq_of_same a b h.1, eq_of_sameItems as bs h.2]

theorem eq_of_sameFields : (as bs : List (Text × Json)) → sameFields as bs = true → as = bs
  | [], [], _ => rfl
  | (k, a) :: as, (l, b) :: bs, h => by
    simp only [sameFields, Bool.and_eq_true, beq_iff_eq] at h
    rw [h.1.1, eq_of_same a b h.1.2, eq_of_sameFields as bs h.2]

end

instance : DecidableEq Json := fun a b =>
  if h : same a b = true then isTrue (eq_of_same a b h)
  else isFalse fun e => h (e ▸ same_refl a)

/-- A field of an object; other values have none. -/
def field? (value : Json) (name : Text) : Option Json :=
  match value with
  | .obj fields => Table.find name fields
  | _ => none

/-- A field of an object, null where there is none. -/
def fieldOrNull (value : Json) (name : Text) : Json := (value.field? name).getD .null

/-- Whether a value counts as given: null, false, zero, and whatever is empty do
not. -/
def isGiven : Json → Bool
  | .null => false
  | .bool b => b
  | .int i => i != 0
  | .float x => !x.isZero
  | .str s => !s.isEmpty
  | .arr items => !items.isEmpty
  | .obj fields => !fields.isEmpty

/-- Whether two values name the same entry of a map: texts by their code points,
truth values and numbers by their numerical value. -/
def sameKey : Json → Json → Bool
  | .null, .null => true
  | .str a, .str b => a == b
  | .bool a, .bool b => a == b
  | .bool a, .int b => (a.toNat : Int) == b
  | .bool a, .float b => b.equalsInt a.toNat
  | .int a, .bool b => a == (b.toNat : Int)
  | .int a, .int b => a == b
  | .int a, .float b => b.equalsInt a
  | .float a, .bool b => a.equalsInt b.toNat
  | .float a, .int b => a.equalsInt b
  | .float a, .float b => a.sameValue b
  | _, _ => false

/-- The name of a value's type in messages. -/
def typeName : Json → Text
  | .null => "NoneType"
  | .bool _ => "bool"
  | .int _ => "int"
  | .float _ => "float"
  | .str _ => "str"
  | .arr _ => "list"
  | .obj _ => "dict"

end Json

end ModuleAudit
