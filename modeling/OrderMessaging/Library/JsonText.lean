import Mathlib.Data.List.Sort
import OrderMessaging.Library.PyJson

/-!
The values that have a JSON text. A dictionary is printed when all its keys are
text, at every depth; the reader builds no other dictionaries. The printer's text
is ASCII wherever the spelling of floats is, so it always has a UTF-8 form.
-/

namespace OrderMessaging.JsonText

open OrderMessaging.PyText OrderMessaging.PyValue OrderMessaging.PyJson

set_option autoImplicit false

mutual

def TextKeyed : PyVal → Prop
  | .list items => TextKeyedItems items
  | .dict entries => TextKeyedEntries entries
  | _ => True

def TextKeyedItems : List PyVal → Prop
  | [] => True
  | item :: rest => TextKeyed item ∧ TextKeyedItems rest

def TextKeyedEntries : List (PyVal × PyVal) → Prop
  | [] => True
  | (.str _, value) :: rest => TextKeyed value ∧ TextKeyedEntries rest
  | _ :: _ => False

end

section Reading

theorem text_keyed_items_append {first second : List PyVal} :
    TextKeyedItems (first ++ second) ↔ TextKeyedItems first ∧ TextKeyedItems second := by
  induction first with
  | nil => simp [TextKeyedItems]
  | cons item rest ih => simp [TextKeyedItems, ih, and_assoc]

theorem text_keyed_insert {name : Str} {value : PyVal} {entries : List (PyVal × PyVal)}
    (keyed : TextKeyedEntries entries) (printable : TextKeyed value) :
    TextKeyedEntries (PyVal.insert (.str name) value entries) := by
  induction entries with
  | nil => exact ⟨printable, trivial⟩
  | cons entry rest ih =>
      obtain ⟨key, held⟩ := entry
      cases key with
      | str key =>
          obtain ⟨own, others⟩ := keyed
          unfold PyVal.insert
          split
          · exact ⟨printable, others⟩
          · exact ⟨own, ih others⟩
      | none | bool _ | int _ | float _ | list _ | dict _ => exact keyed.elim

theorem scan_literal_text_keyed {text rest : Str} {value : PyVal}
    (read : scanLiteral text = some (value, rest)) : TextKeyed value := by
  obtain ⟨literal, member, found⟩ := List.exists_of_findSome?_eq_some read
  split at found
  · cases found
    simp only [literals, List.mem_cons, List.not_mem_nil, or_false] at member
    rcases member with rfl | rfl | rfl | rfl | rfl | rfl <;> trivial
  · cases found

theorem scan_number_text_keyed {parseFloat : ℚ → PyFloat} {text rest : Str} {value : PyVal}
    (read : scanNumber parseFloat text = some (value, rest)) : TextKeyed value := by
  unfold scanNumber at read
  dsimp only at read
  split_ifs at read <;> cases read <;> trivial

/-- What each part of the scanner reads with this fuel is keyed by text. -/
structure ScansTextKeyed (parseFloat : ℚ → PyFloat) (fuel : Nat) : Prop where
  once : ∀ text value rest, scanOnce parseFloat fuel text = some (value, rest) → TextKeyed value
  items : ∀ text items value rest, TextKeyedItems items →
    scanItems parseFloat fuel text items = some (value, rest) → TextKeyed value
  members : ∀ text entries value rest, TextKeyedEntries entries →
    scanMembers parseFloat fuel text entries = some (value, rest) → TextKeyed value

section Scanner

variable {parseFloat : ℚ → PyFloat} {fuel : Nat} {text rest : Str} {value : PyVal}

theorem scan_once_text_keyed (scans : ScansTextKeyed parseFloat fuel)
    (read : scanOnce parseFloat (fuel + 1) text = some (value, rest)) : TextKeyed value := by
  cases text with
  | nil => simp [scanOnce] at read
  | cons head tail =>
      rw [scanOnce] at read
      split at read
      · obtain ⟨scanned, _, same⟩ := Option.map_eq_some_iff.mp read
        cases same
        trivial
      · split at read
        · split at read
          · split at read
            · cases read
              trivial
            · exact scans.items _ [] _ _ trivial read
          · cases read
        · split at read
          · split at read
            · split at read
              · cases read
                trivial
              · exact scans.members _ [] _ _ trivial read
            · cases read
          · split at read
            next found literal =>
              cases read
              exact scan_literal_text_keyed literal
            next => exact scan_number_text_keyed read

theorem scan_items_text_keyed (scans : ScansTextKeyed parseFloat fuel) {items : List PyVal}
    (keyed : TextKeyedItems items)
    (read : scanItems parseFloat (fuel + 1) text items = some (value, rest)) : TextKeyed value := by
  rw [scanItems] at read
  obtain ⟨⟨item, after⟩, scanned, continued⟩ := Option.bind_eq_some_iff.mp read
  have extended : TextKeyedItems (items ++ [item]) :=
    text_keyed_items_append.mpr ⟨keyed, scans.once _ _ _ scanned, trivial⟩
  dsimp only at continued
  split at continued
  · split at continued
    · cases continued
      exact extended
    · split at continued
      · exact scans.items _ _ _ _ extended continued
      · cases continued
  · cases continued

theorem scan_members_text_keyed (scans : ScansTextKeyed parseFloat fuel)
    {entries : List (PyVal × PyVal)} (keyed : TextKeyedEntries entries)
    (read : scanMembers parseFloat (fuel + 1) text entries = some (value, rest)) :
    TextKeyed value := by
  rw [scanMembers.eq_def] at read
  dsimp only at read
  split at read
  · split at read
    · cases read
    · obtain ⟨⟨name, afterName⟩, _, continued⟩ := Option.bind_eq_some_iff.mp read
      dsimp only at continued
      split at continued
      · split at continued
        · cases continued
        · obtain ⟨⟨held, after⟩, scanned, concluded⟩ := Option.bind_eq_some_iff.mp continued
          have extended : TextKeyedEntries (PyVal.insert (.str name) held entries) :=
            text_keyed_insert keyed (scans.once _ _ _ scanned)
          dsimp only at concluded
          split at concluded
          · split at concluded
            · cases concluded
              exact extended
            · split at concluded
              · exact scans.members _ _ _ _ extended concluded
              · cases concluded
          · cases concluded
      · cases continued
  · cases read

end Scanner

/-- By induction on the fuel, which every recursive call of the scanner spends. -/
theorem scans_text_keyed (parseFloat : ℚ → PyFloat) (fuel : Nat) :
    ScansTextKeyed parseFloat fuel := by
  induction fuel with
  | zero =>
      constructor
      case once =>
        intro text value rest read
        simp [scanOnce] at read
      case items =>
        intro text items value rest _ read
        simp [scanItems] at read
      case members =>
        intro text entries value rest _ read
        simp [scanMembers] at read
  | succ fuel ih =>
      constructor
      case once => exact fun _ _ _ => scan_once_text_keyed ih
      case items => exact fun _ _ _ _ keyed => scan_items_text_keyed ih keyed
      case members => exact fun _ _ _ _ keyed => scan_members_text_keyed ih keyed

theorem loads_text_keyed {parseFloat : ℚ → PyFloat} {text : Str} {value : PyVal}
    (read : loads parseFloat text = .ok value) : TextKeyed value := by
  unfold loads at read
  split at read
  · cases read
  · split at read
    next found rest scanned =>
      split at read
      · cases read
        exact (scans_text_keyed parseFloat _).once _ _ _ scanned
      · cases read
    next => cases read

end Reading

section Printing

theorem encodable_joined : ∀ {parts : List Str}, (∀ part ∈ parts, Encodable part) →
    Encodable (joined parts)
  | [], _ => of_string_encodable ""
  | [part], encodable => by
      rw [joined, List.intercalate_singleton]
      exact encodable part List.mem_cons_self
  | part :: second :: rest, encodable => by
      rw [joined, List.intercalate_cons_cons]
      have later := encodable_joined fun other member => encodable other (List.mem_cons_of_mem _ member)
      exact encodable_append.mpr ⟨encodable_append.mpr
        ⟨encodable part List.mem_cons_self, of_string_encodable _⟩, later⟩

/-- A point that stands for a number below the surrogates is none. -/
theorem small_not_surrogate {value : Nat} (small : value < 0xD800) :
    ¬IsSurrogate (point value) := by
  intro surrogate
  have bounds : 0xD800 ≤ value % 0x110000 := surrogate.1
  omega

theorem escape_unit_encodable (value : Nat) : Encodable (escapeUnit value) := by
  intro escaped member
  simp only [escapeUnit, hexText, List.mem_cons, List.mem_map] at member
  rcases member with rfl | rfl | ⟨shift, _, rfl⟩
  · exact char_not_surrogate _
  · exact char_not_surrogate _
  · have nibble : value / 2 ^ shift % 16 < 16 := Nat.mod_lt _ (by decide)
    apply small_not_surrogate
    split <;> omega

theorem escape_point_encodable (head : CodePoint) : Encodable (escapePoint head) := by
  unfold escapePoint
  split_ifs with quote backslash back feed line carriage tab printable unit
  · exact of_string_encodable _
  · exact of_string_encodable _
  · exact of_string_encodable _
  · exact of_string_encodable _
  · exact of_string_encodable _
  · exact of_string_encodable _
  · exact of_string_encodable _
  · intro point member surrogate
    rw [List.mem_singleton.mp member] at surrogate
    have bounds : 0xD800 ≤ head.val := surrogate.1
    omega
  · exact escape_unit_encodable _
  · exact encodable_append.mpr ⟨escape_unit_encodable _, escape_unit_encodable _⟩

theorem quoted_encodable (text : Str) : Encodable (quoted text) := by
  refine encodable_append.mpr ⟨encodable_append.mpr ⟨of_string_encodable _, ?_⟩,
    of_string_encodable _⟩
  intro point member
  obtain ⟨head, _, escaped⟩ := List.mem_flatMap.mp member
  exact escape_point_encodable head point escaped

variable {floatText : PyFloat → Str}

mutual

/-- A value with text keys is printed, as text that has a UTF-8 form. -/
theorem dumps_encodable (floats : ∀ value, Encodable (floatText value)) :
    ∀ value, TextKeyed value → ∃ text, dumps floatText value = some text ∧ Encodable text
  | .none, _ => ⟨_, rfl, of_string_encodable _⟩
  | .bool true, _ => ⟨_, rfl, of_string_encodable _⟩
  | .bool false, _ => ⟨_, rfl, of_string_encodable _⟩
  | .int value, _ => ⟨_, rfl, of_string_encodable _⟩
  | .float value, _ => ⟨_, rfl, floats value⟩
  | .str text, _ => ⟨_, rfl, quoted_encodable text⟩
  | .list items, keyed => by
      obtain ⟨parts, printed, encodable⟩ := dumps_items_encodable floats items keyed
      refine ⟨"[" ++ joined parts ++ "]", by rw [dumps, printed]; rfl, ?_⟩
      exact encodable_append.mpr ⟨encodable_append.mpr
        ⟨of_string_encodable _, encodable_joined encodable⟩, of_string_encodable _⟩
  | .dict entries, keyed => by
      obtain ⟨members, printed, encodable⟩ := dumps_entries_encodable floats entries keyed
      refine ⟨_, by rw [dumps, printed]; rfl, ?_⟩
      refine encodable_append.mpr ⟨encodable_append.mpr
        ⟨of_string_encodable _, encodable_joined ?_⟩, of_string_encodable _⟩
      intro part member
      obtain ⟨own, inSorted, rfl⟩ := List.mem_map.mp member
      have inMembers := List.mem_mergeSort.mp inSorted
      exact encodable_append.mpr ⟨encodable_append.mpr
        ⟨quoted_encodable own.1, of_string_encodable _⟩, encodable own inMembers⟩

theorem dumps_items_encodable (floats : ∀ value, Encodable (floatText value)) :
    ∀ items, TextKeyedItems items →
      ∃ parts, dumpsItems floatText items = some parts ∧ ∀ part ∈ parts, Encodable part
  | [], _ => ⟨[], rfl, by simp⟩
  | item :: rest, keyed => by
      obtain ⟨head, printed, encodable⟩ := dumps_encodable floats item keyed.1
      obtain ⟨tail, others, allEncodable⟩ := dumps_items_encodable floats rest keyed.2
      refine ⟨head :: tail, by rw [dumpsItems, printed, others]; rfl, ?_⟩
      exact List.forall_mem_cons.mpr ⟨encodable, allEncodable⟩

theorem dumps_entries_encodable (floats : ∀ value, Encodable (floatText value)) :
    ∀ entries, TextKeyedEntries entries → ∃ members,
      dumpsEntries floatText entries = some members ∧ ∀ member ∈ members, Encodable member.2
  | [], _ => ⟨[], rfl, by simp⟩
  | (.str key, value) :: rest, keyed => by
      obtain ⟨head, printed, encodable⟩ := dumps_encodable floats value keyed.1
      obtain ⟨tail, others, allEncodable⟩ := dumps_entries_encodable floats rest keyed.2
      refine ⟨(key, head) :: tail, by rw [dumpsEntries, printed, others]; rfl, ?_⟩
      exact List.forall_mem_cons.mpr ⟨encodable, allEncodable⟩
  | (.none, _) :: _, keyed => keyed.elim
  | (.bool _, _) :: _, keyed => keyed.elim
  | (.int _, _) :: _, keyed => keyed.elim
  | (.float _, _) :: _, keyed => keyed.elim
  | (.list _, _) :: _, keyed => keyed.elim
  | (.dict _, _) :: _, keyed => keyed.elim

end

mutual

/-- Nothing else is printed. -/
theorem text_keyed_of_dumps : ∀ value text, dumps floatText value = some text → TextKeyed value
  | .none, _, _ => trivial
  | .bool _, _, _ => trivial
  | .int _, _, _ => trivial
  | .float _, _, _ => trivial
  | .str _, _, _ => trivial
  | .list items, _, printed => by
      rw [dumps] at printed
      obtain ⟨parts, own, _⟩ := Option.bind_eq_some_iff.mp printed
      exact text_keyed_of_dumps_items items parts own
  | .dict entries, _, printed => by
      rw [dumps] at printed
      obtain ⟨members, own, _⟩ := Option.bind_eq_some_iff.mp printed
      exact text_keyed_of_dumps_entries entries members own

theorem text_keyed_of_dumps_items :
    ∀ items parts, dumpsItems floatText items = some parts → TextKeyedItems items
  | [], _, _ => trivial
  | item :: rest, _, printed => by
      rw [dumpsItems] at printed
      obtain ⟨head, own, others⟩ := Option.bind_eq_some_iff.mp printed
      obtain ⟨tail, later, _⟩ := Option.bind_eq_some_iff.mp others
      exact ⟨text_keyed_of_dumps item head own, text_keyed_of_dumps_items rest tail later⟩

theorem text_keyed_of_dumps_entries :
    ∀ entries members, dumpsEntries floatText entries = some members → TextKeyedEntries entries
  | [], _, _ => trivial
  | (.str _, value) :: rest, _, printed => by
      rw [dumpsEntries] at printed
      obtain ⟨head, own, others⟩ := Option.bind_eq_some_iff.mp printed
      obtain ⟨tail, later, _⟩ := Option.bind_eq_some_iff.mp others
      exact ⟨text_keyed_of_dumps value head own, text_keyed_of_dumps_entries rest tail later⟩
  | (.none, _) :: _, _, printed => by simp [dumpsEntries] at printed
  | (.bool _, _) :: _, _, printed => by simp [dumpsEntries] at printed
  | (.int _, _) :: _, _, printed => by simp [dumpsEntries] at printed
  | (.float _, _) :: _, _, printed => by simp [dumpsEntries] at printed
  | (.list _, _) :: _, _, printed => by simp [dumpsEntries] at printed
  | (.dict _, _) :: _, _, printed => by simp [dumpsEntries] at printed

end

end Printing

section Sorting

def entryName : PyVal → Str
  | .str name => name
  | _ => []

/-- The order that `sort_keys=True` puts the entries of a dictionary in. -/
def entryBefore (left right : PyVal × PyVal) : Prop := entryName left.1 ≤ entryName right.1

instance : DecidableRel entryBefore := fun left right =>
  inferInstanceAs (Decidable (entryName left.1 ≤ entryName right.1))

mutual

/-- The same value with the keys of every dictionary sorted. -/
def sortKeys : PyVal → PyVal
  | .list items => .list (sortKeysItems items)
  | .dict entries => .dict ((sortKeysEntries entries).insertionSort entryBefore)
  | other => other

def sortKeysItems : List PyVal → List PyVal
  | [] => []
  | item :: rest => sortKeys item :: sortKeysItems rest

def sortKeysEntries : List (PyVal × PyVal) → List (PyVal × PyVal)
  | [] => []
  | (key, value) :: rest => (key, sortKeys value) :: sortKeysEntries rest

end

/-- A dictionary's entries as `sort_keys=True` prints them. -/
def sortEntries (entries : List (PyVal × PyVal)) : List (PyVal × PyVal) :=
  (sortKeysEntries entries).insertionSort entryBefore

theorem sort_keys_entries_keys (entries : List (PyVal × PyVal)) :
    (sortKeysEntries entries).map Prod.fst = entries.map Prod.fst := by
  induction entries with
  | nil => rfl
  | cons entry rest ih => rw [sortKeysEntries, List.map_cons, List.map_cons, ih]

theorem sort_entries_keys (entries : List (PyVal × PyVal)) :
    ((sortEntries entries).map Prod.fst).Perm (entries.map Prod.fst) := by
  rw [← sort_keys_entries_keys entries]
  exact (List.perm_insertionSort entryBefore _).map Prod.fst

theorem get_sort_keys_entries (name : Str) (entries : List (PyVal × PyVal)) :
    PyVal.get name (sortKeysEntries entries) = (PyVal.get name entries).map sortKeys := by
  induction entries with
  | nil => rfl
  | cons entry rest ih =>
      obtain ⟨key, value⟩ := entry
      cases key with
      | str key =>
          simp only [sortKeysEntries, PyVal.get]
          split
          · rfl
          · exact ih
      | none | bool _ | int _ | float _ | list _ | dict _ => exact ih

/-- Every name occurs once. -/
def DistinctNames (entries : List (PyVal × PyVal)) : Prop :=
  (entries.map fun entry => entryName entry.1).Nodup

instance (entries : List (PyVal × PyVal)) : Decidable (DistinctNames entries) :=
  inferInstanceAs (Decidable (List.Nodup _))

/-- The order of entries with distinct names does not matter to a lookup. -/
theorem get_perm {first second : List (PyVal × PyVal)} (same : first.Perm second)
    (distinct : DistinctNames first) (name : Str) : PyVal.get name first = PyVal.get name second := by
  induction same with
  | nil => rfl
  | cons entry same ih =>
      have rest : DistinctNames _ := (List.nodup_cons.mp distinct).2
      obtain ⟨key, value⟩ := entry
      cases key with
      | str key => simp only [PyVal.get, ih rest]
      | none | bool _ | int _ | float _ | list _ | dict _ => exact ih rest
  | swap left right rest =>
      have differ : entryName right.1 ≠ entryName left.1 := by
        intro equal
        refine (List.nodup_cons.mp distinct).1 ?_
        simp [equal]
      obtain ⟨first, firstValue⟩ := left
      obtain ⟨second, secondValue⟩ := right
      cases first <;> cases second <;> simp only [PyVal.get]
      rename_i first second
      simp only [entryName] at differ
      split_ifs with one other
      · exact absurd (one.trans other.symm) differ
      · rfl
      · rfl
      · rfl
  | trans early late ihEarly ihLate =>
      have middle : DistinctNames _ :=
        ((early.map fun entry : PyVal × PyVal => entryName entry.1).nodup_iff).mp distinct
      exact (ihEarly distinct).trans (ihLate middle)

theorem get_sort_entries {entries : List (PyVal × PyVal)} (distinct : DistinctNames entries)
    (name : Str) :
    PyVal.get name (sortEntries entries) = (PyVal.get name entries).map sortKeys := by
  have kept : DistinctNames (sortKeysEntries entries) := by
    have names : ∀ entries : List (PyVal × PyVal), (entries.map fun entry => entryName entry.1) =
        (entries.map Prod.fst).map entryName := fun entries => by rw [List.map_map]; rfl
    unfold DistinctNames at distinct ⊢
    rw [names, sort_keys_entries_keys, ← names]
    exact distinct
  rw [← get_sort_keys_entries]
  exact (get_perm (List.perm_insertionSort entryBefore _).symm kept name).symm

mutual

/-- Every text in the value has a UTF-8 form, the keys included. -/
def TextsEncodable : PyVal → Prop
  | .str text => Encodable text
  | .list items => TextsEncodableItems items
  | .dict entries => TextsEncodableEntries entries
  | _ => True

def TextsEncodableItems : List PyVal → Prop
  | [] => True
  | item :: rest => TextsEncodable item ∧ TextsEncodableItems rest

def TextsEncodableEntries : List (PyVal × PyVal) → Prop
  | [] => True
  | (key, value) :: rest => TextsEncodable key ∧ TextsEncodable value ∧ TextsEncodableEntries rest

end

theorem texts_encodable_entries_iff {entries : List (PyVal × PyVal)} :
    TextsEncodableEntries entries ↔
      ∀ entry ∈ entries, TextsEncodable entry.1 ∧ TextsEncodable entry.2 := by
  induction entries with
  | nil => simp [TextsEncodableEntries]
  | cons entry rest ih => simp [TextsEncodableEntries, ih, and_assoc]

mutual

/-- Sorting keys changes no text. -/
theorem sort_keys_encodable : ∀ value, TextsEncodable value → TextsEncodable (sortKeys value)
  | .none, _ | .bool _, _ | .int _, _ | .float _, _ => trivial
  | .str _, encodable => encodable
  | .list items, encodable => sort_keys_items_encodable items encodable
  | .dict entries, encodable => by
      have sorted := texts_encodable_entries_iff.mp (sort_keys_entries_encodable entries encodable)
      refine texts_encodable_entries_iff.mpr fun entry member => sorted entry ?_
      exact (List.mem_insertionSort _).mp member

theorem sort_keys_items_encodable :
    ∀ items, TextsEncodableItems items → TextsEncodableItems (sortKeysItems items)
  | [], _ => trivial
  | item :: rest, ⟨own, later⟩ =>
      ⟨sort_keys_encodable item own, sort_keys_items_encodable rest later⟩

theorem sort_keys_entries_encodable :
    ∀ entries, TextsEncodableEntries entries → TextsEncodableEntries (sortKeysEntries entries)
  | [], _ => trivial
  | (_, value) :: rest, ⟨named, own, later⟩ =>
      ⟨named, sort_keys_encodable value own, sort_keys_entries_encodable rest later⟩

end

mutual

/-- Nor does it change an integer. -/
theorem sort_keys_short :
    ∀ value : PyVal, value.shortIntegers = true → (sortKeys value).shortIntegers = true
  | .none, _ | .bool _, _ | .float _, _ | .str _, _ => rfl
  | .int _, short => short
  | .list items, short => sort_keys_items_short items short
  | .dict entries, short => by
      have sorted := PyVal.short_entries_iff.mp (sort_keys_entries_short entries short)
      refine PyVal.short_entries_iff.mpr fun entry member => sorted entry ?_
      exact (List.mem_insertionSort _).mp member

theorem sort_keys_items_short :
    ∀ items, PyVal.shortItems items = true → PyVal.shortItems (sortKeysItems items) = true
  | [], _ => rfl
  | item :: rest, short => by
      obtain ⟨own, later⟩ := Bool.and_eq_true_iff.mp short
      exact Bool.and_eq_true_iff.mpr
        ⟨sort_keys_short item own, sort_keys_items_short rest later⟩

theorem sort_keys_entries_short :
    ∀ entries, PyVal.shortEntries entries = true →
      PyVal.shortEntries (sortKeysEntries entries) = true
  | [], _ => rfl
  | (_, value) :: rest, short => by
      obtain ⟨entry, later⟩ := Bool.and_eq_true_iff.mp short
      obtain ⟨named, own⟩ := Bool.and_eq_true_iff.mp entry
      exact Bool.and_eq_true_iff.mpr ⟨Bool.and_eq_true_iff.mpr
        ⟨named, sort_keys_short value own⟩, sort_keys_entries_short rest later⟩

end

theorem sort_keys_eq_none {value : PyVal} : sortKeys value = .none ↔ value = .none := by
  cases value <;> simp [sortKeys]

theorem sort_keys_eq_str {value : PyVal} {text : Str} :
    sortKeys value = .str text ↔ value = .str text := by
  cases value <;> simp [sortKeys]

end Sorting

section Rendering

def quotedWith (escape : CodePoint → Str) (text : Str) : Str :=
  "\"" ++ text.flatMap escape ++ "\""

/-- `json.dumps` with `ensure_ascii=False` escapes what JSON requires. -/
def escapeRequired (head : CodePoint) : Str :=
  if 0x20 ≤ head.val ∧ head ≠ codePoint '"' ∧ head ≠ codePoint '\\' then [head]
  else escapePoint head

variable (escape : CodePoint → Str) (floatText : PyFloat → Str)

mutual

/-- The printer without sorting, for either setting of `ensure_ascii`. -/
def render : PyVal → Option Str
  | .none => some "null"
  | .bool value => some (if value then "true" else "false")
  | .int value => some (intText value)
  | .float value => some (floatText value)
  | .str text => some (quotedWith escape text)
  | .list items => do
      let parts ← renderItems items
      some ("[" ++ joined parts ++ "]")
  | .dict entries => do
      let members ← renderEntries entries
      some ("\x7b" ++ joined members ++ "\x7d")

def renderItems : List PyVal → Option (List Str)
  | [] => some []
  | item :: rest => do
      let head ← render item
      let tail ← renderItems rest
      some (head :: tail)

def renderEntries : List (PyVal × PyVal) → Option (List Str)
  | [] => some []
  | (.str key, value) :: rest => do
      let head ← render value
      let tail ← renderEntries rest
      some ((quotedWith escape key ++ ":" ++ head) :: tail)
  | _ :: _ => none

end

variable {escape floatText}

theorem quoted_with_encodable {text : Str}
    (escaped : ∀ head, ¬IsSurrogate head → Encodable (escape head)) (encodable : Encodable text) :
    Encodable (quotedWith escape text) := by
  refine encodable_append.mpr ⟨encodable_append.mpr ⟨of_string_encodable _, ?_⟩,
    of_string_encodable _⟩
  intro point member
  obtain ⟨head, own, inEscape⟩ := List.mem_flatMap.mp member
  exact escaped head (encodable head own) point inEscape

mutual

/-- Text is printed as text, when escapes and floats are. -/
theorem render_encodable (escaped : ∀ head, ¬IsSurrogate head → Encodable (escape head))
    (floats : ∀ value, Encodable (floatText value)) :
    ∀ value text, render escape floatText value = some text → TextsEncodable value →
      Encodable text
  | .none, _, printed, _ => by
      cases printed
      exact of_string_encodable _
  | .bool value, _, printed, _ => by
      cases printed
      cases value <;> exact of_string_encodable _
  | .int _, _, printed, _ => by
      cases printed
      exact of_string_encodable _
  | .float value, _, printed, _ => by
      cases printed
      exact floats value
  | .str _, _, printed, encodable => by
      cases printed
      exact quoted_with_encodable escaped encodable
  | .list items, _, printed, encodable => by
      rw [render] at printed
      obtain ⟨parts, own, same⟩ := Option.bind_eq_some_iff.mp printed
      cases same
      exact encodable_append.mpr ⟨encodable_append.mpr ⟨of_string_encodable _,
        encodable_joined (render_items_encodable escaped floats items parts own encodable)⟩,
        of_string_encodable _⟩
  | .dict entries, _, printed, encodable => by
      rw [render] at printed
      obtain ⟨members, own, same⟩ := Option.bind_eq_some_iff.mp printed
      cases same
      exact encodable_append.mpr ⟨encodable_append.mpr ⟨of_string_encodable _,
        encodable_joined (render_entries_encodable escaped floats entries members own encodable)⟩,
        of_string_encodable _⟩

theorem render_items_encodable (escaped : ∀ head, ¬IsSurrogate head → Encodable (escape head))
    (floats : ∀ value, Encodable (floatText value)) :
    ∀ items parts, renderItems escape floatText items = some parts →
      TextsEncodableItems items → ∀ part ∈ parts, Encodable part
  | [], _, printed, _ => by
      cases printed
      simp
  | item :: rest, _, printed, encodable => by
      rw [renderItems] at printed
      obtain ⟨head, own, further⟩ := Option.bind_eq_some_iff.mp printed
      obtain ⟨tail, others, same⟩ := Option.bind_eq_some_iff.mp further
      cases same
      exact List.forall_mem_cons.mpr ⟨render_encodable escaped floats item head own encodable.1,
        render_items_encodable escaped floats rest tail others encodable.2⟩

theorem render_entries_encodable (escaped : ∀ head, ¬IsSurrogate head → Encodable (escape head))
    (floats : ∀ value, Encodable (floatText value)) :
    ∀ entries members, renderEntries escape floatText entries = some members →
      TextsEncodableEntries entries → ∀ member ∈ members, Encodable member
  | [], _, printed, _ => by
      cases printed
      simp
  | (.str key, value) :: rest, _, printed, encodable => by
      obtain ⟨named, valued, later⟩ := encodable
      rw [renderEntries] at printed
      obtain ⟨head, own, further⟩ := Option.bind_eq_some_iff.mp printed
      obtain ⟨tail, others, same⟩ := Option.bind_eq_some_iff.mp further
      cases same
      refine List.forall_mem_cons.mpr ⟨?_,
        render_entries_encodable escaped floats rest tail others later⟩
      exact encodable_append.mpr ⟨encodable_append.mpr ⟨quoted_with_encodable escaped named,
        of_string_encodable _⟩, render_encodable escaped floats value head own valued⟩
  | (.none, _) :: _, _, printed, _ => by simp [renderEntries] at printed
  | (.bool _, _) :: _, _, printed, _ => by simp [renderEntries] at printed
  | (.int _, _) :: _, _, printed, _ => by simp [renderEntries] at printed
  | (.float _, _) :: _, _, printed, _ => by simp [renderEntries] at printed
  | (.list _, _) :: _, _, printed, _ => by simp [renderEntries] at printed
  | (.dict _, _) :: _, _, printed, _ => by simp [renderEntries] at printed

end

theorem escape_required_encodable (head : CodePoint) (scalar : ¬IsSurrogate head) :
    Encodable (escapeRequired head) := by
  unfold escapeRequired
  split
  · intro point member
    rw [List.mem_singleton.mp member]
    exact scalar
  · exact escape_point_encodable head

end Rendering

end OrderMessaging.JsonText
