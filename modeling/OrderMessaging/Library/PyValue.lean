import Mathlib.Data.Rat.Defs
import Mathlib.Algebra.Order.Ring.Rat
import OrderMessaging.Library.PyException

/-!
The Python values that `json.loads` builds, `dict` converts and `json.dumps`
prints. A finite float is identified with the decimal that `str` prints for it,
which is one to one on binary64, so `Decimal(str(x))` is exact by construction.
-/

namespace OrderMessaging.PyValue

open OrderMessaging.PyText OrderMessaging.PyException

set_option autoImplicit false

inductive PyFloat where
  | finite (value : ℚ)
  | inf (negative : Bool)
  | nan
  deriving DecidableEq

/-- `x <= 0`: false for NaN, like every comparison with it. -/
def PyFloat.nonpositive : PyFloat → Bool
  | finite value => decide (value ≤ 0)
  | inf negative => negative
  | nan => false

/-- `x > 0`, which is false for NaN too. -/
def PyFloat.positive : PyFloat → Bool
  | finite value => decide (0 < value)
  | inf negative => !negative
  | nan => false

theorem PyFloat.positive_iff {value : PyFloat} :
    value.positive = true ↔ value.nonpositive = false ∧ value ≠ .nan := by
  cases value <;> simp [positive, nonpositive]

/-- A dictionary is its entries in insertion order. Its keys are values too:
`dict` makes one from any sequence of pairs with hashable first elements. -/
inductive PyVal where
  | none
  | bool (value : Bool)
  | int (value : Int)
  | float (value : PyFloat)
  | str (value : Str)
  | list (items : List PyVal)
  | dict (entries : List (PyVal × PyVal))

namespace PyVal

/-- The number a value stands for in `==` between numbers, booleans included. -/
def number : PyVal → Option PyFloat
  | bool value => some (.finite (if value then 1 else 0))
  | int value => some (.finite value)
  | float value => some value
  | _ => Option.none

/-- Key equality: `is` or `==`. The NaN that `json.loads` returns is one object. -/
def keyEq : PyVal → PyVal → Bool
  | str left, str right => left == right
  | none, none => true
  | left, right =>
      match left.number, right.number with
      | some first, some second => first == second
      | _, _ => false

def hashable : PyVal → Bool
  | list _ => false
  | dict _ => false
  | _ => true

/-- `d[key] = value`: an existing key keeps its place. -/
def insert (key value : PyVal) : List (PyVal × PyVal) → List (PyVal × PyVal)
  | [] => [(key, value)]
  | entry :: rest =>
      if entry.1.keyEq key then (entry.1, value) :: rest else entry :: insert key value rest

/-- `d.get(name)` for a text key. -/
def get (name : Str) : List (PyVal × PyVal) → Option PyVal
  | [] => Option.none
  | (str key, value) :: rest => if key = name then some value else get name rest
  | _ :: rest => get name rest

/-- What `dict` iterates over in one element of its argument: a list's items, a
text's characters, a dictionary's keys. -/
def items? : PyVal → Option (List PyVal)
  | list items => some items
  | str text => some (text.map fun point => str [point])
  | dict entries => some (entries.map Prod.fst)
  | _ => Option.none

def decimal (number : Nat) : Str := ofString (toString number)

/-- `dict` of a sequence of pairs; `index` counts the elements already taken. -/
def dictOf : Nat → List PyVal → List (PyVal × PyVal) → Except Exc (List (PyVal × PyVal))
  | _, [], entries => .ok entries
  | index, item :: rest, entries =>
      match item.items? with
      | Option.none => .error ⟨typeError,
          "cannot convert dictionary update sequence element #" ++ decimal index ++
            " to a sequence"⟩
      | some [key, value] =>
          if key.hashable then dictOf (index + 1) rest (insert key value entries)
          else .error ⟨typeError, "unhashable type"⟩
      | some other => .error ⟨valueError,
          "dictionary update sequence element #" ++ decimal index ++ " has length " ++
            decimal other.length ++ "; 2 is required"⟩

/-- `dict(value)`. -/
def toDict : PyVal → Except Exc (List (PyVal × PyVal))
  | dict entries => .ok entries
  | list items => dictOf 0 items []
  | str text => dictOf 0 (text.map fun point => str [point]) []
  | _ => .error ⟨typeError, "object is not iterable"⟩

def isDict : PyVal → Bool
  | dict _ => true
  | _ => false

/-- The digits that `int.__repr__` writes at most. -/
def maxStrDigits : Nat := 4300

mutual

/-- Every integer in the value can be written out. -/
def shortIntegers : PyVal → Bool
  | int value => decide ((Nat.toDigits 10 value.natAbs).length ≤ maxStrDigits)
  | list items => shortItems items
  | dict entries => shortEntries entries
  | _ => true

def shortItems : List PyVal → Bool
  | [] => true
  | item :: rest => shortIntegers item && shortItems rest

def shortEntries : List (PyVal × PyVal) → Bool
  | [] => true
  | (key, value) :: rest => shortIntegers key && shortIntegers value && shortEntries rest

end

/-- What `int.__repr__` raises otherwise. -/
def tooManyDigits : Exc :=
  ⟨valueError, "Exceeds the limit (" ++ decimal maxStrDigits ++
    " digits) for integer string conversion; use sys.set_int_max_str_digits() to increase " ++
    "the limit"⟩

theorem short_entries_iff {entries : List (PyVal × PyVal)} :
    shortEntries entries = true ↔
      ∀ entry ∈ entries, shortIntegers entry.1 = true ∧ shortIntegers entry.2 = true := by
  induction entries with
  | nil => simp [shortEntries]
  | cons entry rest ih => simp [shortEntries, ih]

section Equality

mutual

def same : PyVal → PyVal → Bool
  | none, none => true
  | bool left, bool right => left == right
  | int left, int right => left == right
  | float left, float right => left == right
  | str left, str right => left == right
  | list left, list right => sameItems left right
  | dict left, dict right => sameEntries left right
  | _, _ => false

def sameItems : List PyVal → List PyVal → Bool
  | [], [] => true
  | left :: lefts, right :: rights => same left right && sameItems lefts rights
  | _, _ => false

def sameEntries : List (PyVal × PyVal) → List (PyVal × PyVal) → Bool
  | [], [] => true
  | (leftKey, left) :: lefts, (rightKey, right) :: rights =>
      same leftKey rightKey && same left right && sameEntries lefts rights
  | _, _ => false

end

mutual

theorem same_self : ∀ value, same value value = true
  | none => rfl
  | bool value => by simp [same]
  | int value => by simp [same]
  | float value => by simp [same]
  | str text => by simp [same]
  | list items => same_items_self items
  | dict entries => same_entries_self entries

theorem same_items_self : ∀ items, sameItems items items = true
  | [] => rfl
  | item :: rest => by simp [sameItems, same_self item, same_items_self rest]

theorem same_entries_self : ∀ entries, sameEntries entries entries = true
  | [] => rfl
  | (key, value) :: rest => by
      simp [sameEntries, same_self key, same_self value, same_entries_self rest]

end

mutual

theorem eq_of_same : ∀ left right, same left right = true → left = right
  | none, right, equal => by cases right <;> simp_all [same]
  | bool value, right, equal => by cases right <;> simp_all [same]
  | int value, right, equal => by cases right <;> simp_all [same]
  | float value, right, equal => by cases right <;> simp_all [same]
  | str text, right, equal => by cases right <;> simp_all [same]
  | list items, list others, equal => by
      rw [eq_of_same_items items others equal]
  | dict entries, dict others, equal => by
      rw [eq_of_same_entries entries others equal]
  | list _, none, equal | list _, bool _, equal | list _, int _, equal => by simp [same] at equal
  | list _, float _, equal | list _, str _, equal | list _, dict _, equal => by
      simp [same] at equal
  | dict _, none, equal | dict _, bool _, equal | dict _, int _, equal => by simp [same] at equal
  | dict _, float _, equal | dict _, str _, equal | dict _, list _, equal => by
      simp [same] at equal

theorem eq_of_same_items : ∀ lefts rights, sameItems lefts rights = true → lefts = rights
  | [], [], _ => rfl
  | [], _ :: _, equal => by simp [sameItems] at equal
  | _ :: _, [], equal => by simp [sameItems] at equal
  | left :: lefts, right :: rights, equal => by
      obtain ⟨head, tail⟩ := Bool.and_eq_true_iff.mp equal
      rw [eq_of_same left right head, eq_of_same_items lefts rights tail]

theorem eq_of_same_entries : ∀ lefts rights, sameEntries lefts rights = true → lefts = rights
  | [], [], _ => rfl
  | [], _ :: _, equal => by simp [sameEntries] at equal
  | _ :: _, [], equal => by simp [sameEntries] at equal
  | (leftKey, left) :: lefts, (rightKey, right) :: rights, equal => by
      obtain ⟨entry, tail⟩ := Bool.and_eq_true_iff.mp equal
      obtain ⟨key, value⟩ := Bool.and_eq_true_iff.mp entry
      rw [eq_of_same leftKey rightKey key, eq_of_same left right value,
        eq_of_same_entries lefts rights tail]

end

instance : DecidableEq PyVal := fun left right =>
  decidable_of_iff (same left right = true)
    ⟨eq_of_same left right, fun equal => equal ▸ same_self left⟩

end Equality

@[simp] theorem to_dict_dict (entries : List (PyVal × PyVal)) :
    (dict entries).toDict = .ok entries := rfl

end PyVal

end OrderMessaging.PyValue
