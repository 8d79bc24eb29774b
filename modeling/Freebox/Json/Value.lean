import Freebox.Number.Binary64
import Freebox.Text.Basic

/-!
# `Freebox.Json.Value` — JSON values

Integers and double precision numbers are told apart. An object is the list of its members in order; reading keeps
member names distinct, and setting a member again keeps its place.

## Contents
- `Json`, with decidable equality.
- `Json.Kind`: the seven kinds and the names that messages give them.
- `Members`: looking up and setting members.
- `Json.isTrue`: which values count as true in a condition.
-/

namespace Freebox

/-- A JSON value. -/
inductive Json where
  | null
  | bool (b : Bool)
  | int (n : Int)
  | real (x : Binary64)
  | str (t : Text)
  | arr (items : List Json)
  | obj (members : List (Text × Json))
  deriving Repr, Inhabited

/-- The members of an object, in order. -/
abbrev Members := List (Text × Json)

namespace Json

/-! ## Equality -/

mutual

/-- Whether two values are the same term. -/
def same : Json → Json → Bool
  | null, null => true
  | bool a, bool b => a == b
  | int a, int b => a == b
  | real a, real b => decide (a = b)
  | str a, str b => a == b
  | arr a, arr b => sameItems a b
  | obj a, obj b => sameMembers a b
  | _, _ => false

/-- Whether two lists hold the same values. -/
def sameItems : List Json → List Json → Bool
  | [], [] => true
  | a :: as, b :: bs => same a b && sameItems as bs
  | _, _ => false

/-- Whether two objects hold the same members in the same order. -/
def sameMembers : Members → Members → Bool
  | [], [] => true
  | (k, a) :: as, (l, b) :: bs => (k == l && same a b) && sameMembers as bs
  | _, _ => false

end

mutual

theorem same_iff : ∀ a b : Json, same a b = true ↔ a = b
  | null, b => by cases b <;> simp [same]
  | bool _, b => by cases b <;> simp [same]
  | int _, b => by cases b <;> simp [same]
  | real _, b => by cases b <;> simp [same]
  | str _, b => by cases b <;> simp [same]
  | arr xs, b => by
    cases b with
    | arr ys => simpa [same] using sameItems_iff xs ys
    | _ => simp [same]
  | obj xs, b => by
    cases b with
    | obj ys => simpa [same] using sameMembers_iff xs ys
    | _ => simp [same]

theorem sameItems_iff : ∀ as bs : List Json, sameItems as bs = true ↔ as = bs
  | [], bs => by cases bs <;> simp [sameItems]
  | a :: as, bs => by
    cases bs with
    | nil => simp [sameItems]
    | cons b bs => simp [sameItems, same_iff a b, sameItems_iff as bs]

theorem sameMembers_iff : ∀ as bs : Members, sameMembers as bs = true ↔ as = bs
  | [], bs => by cases bs <;> simp [sameMembers]
  | (k, a) :: as, bs => by
    cases bs with
    | nil => simp [sameMembers]
    | cons b bs =>
      obtain ⟨l, b⟩ := b
      simp [sameMembers, same_iff a b, sameMembers_iff as bs]

end

instance : DecidableEq Json := fun a b => decidable_of_iff _ (same_iff a b)

/-! ## Kinds -/

/-- The seven kinds of value. -/
inductive Kind where
  | null
  | bool
  | int
  | real
  | str
  | arr
  | obj
  deriving DecidableEq, Repr

/-- The kind of a value. -/
def kind : Json → Kind
  | null => .null
  | bool _ => .bool
  | int _ => .int
  | real _ => .real
  | str _ => .str
  | arr _ => .arr
  | obj _ => .obj

/-- The name of a kind in messages. -/
def Kind.name : Kind → String
  | .null => "NoneType"
  | .bool => "bool"
  | .int => "int"
  | .real => "float"
  | .str => "str"
  | .arr => "list"
  | .obj => "dict"

/-! ## Conditions -/

/-- Values that count as true: all but null, false, zeros, and empty texts, arrays and objects. -/
def isTrue : Json → Bool
  | null => false
  | bool b => b
  | int n => n != 0
  | real x => !x.isZero
  | str t => t != ""
  | arr xs => !xs.isEmpty
  | obj ms => !ms.isEmpty

/-- A value, or another one if it does not count as true. -/
def orElse (v other : Json) : Json := if v.isTrue then v else other

/-- Whether a value is equal to an integer as a number: truth values count as one and nought. -/
def isNumber (v : Json) (n : Int) : Bool :=
  match v with
  | bool b => (if b then 1 else 0) == n
  | int m => m == n
  | real x => x.isInteger n
  | _ => false

/-- A text or null. -/
def ofText? : Option Text → Json
  | some t => str t
  | none => null

/-- A string or null. -/
def ofString? : Option String → Json
  | some s => str s
  | none => null

/-- An array of strings. -/
def ofStrings (ss : List String) : Json := arr (ss.map (fun s : String => str s))

/-- An integer or null. -/
def ofInt? : Option Int → Json
  | some n => int n
  | none => null

end Json

namespace Members

/-! ## Members -/

/-- The value of the first member of a name. -/
def get? : Members → Text → Option Json
  | [], _ => none
  | (k, v) :: ms, key => if k = key then some v else get? ms key

/-- The value of a member, null if there is none. -/
def get (ms : Members) (key : Text) : Json := (ms.get? key).getD .null

/-- Sets a member: at its place if the name is there, at the end otherwise. -/
def set : Members → Text → Json → Members
  | [], key, value => [(key, value)]
  | (k, v) :: ms, key, value => if k = key then (k, value) :: ms else (k, v) :: set ms key value

/-- The members that are not null. -/
def withoutNulls (ms : Members) : Members := ms.filter (fun m => m.2 != .null)

theorem get?_set_self (ms : Members) (key : Text) (value : Json) :
    get? (set ms key value) key = some value := by
  induction ms with
  | nil => simp [set, get?]
  | cons m ms ih =>
    obtain ⟨k, v⟩ := m
    by_cases h : k = key <;> simp [set, get?, h, ih]

theorem get?_set_of_ne (ms : Members) {key other : Text} (value : Json) (h : other ≠ key) :
    get? (set ms key value) other = get? ms other := by
  induction ms with
  | nil => simp [set, get?, h.symm]
  | cons m ms ih =>
    obtain ⟨k, v⟩ := m
    by_cases hk : k = key
    · subst hk
      simp [set, get?, h.symm]
    · by_cases ho : k = other
      · subst ho
        simp [set, get?, hk]
      · simp [set, get?, hk, ho, ih]

end Members

end Freebox
