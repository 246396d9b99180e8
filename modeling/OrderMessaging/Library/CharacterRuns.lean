import Mathlib.Data.List.Chain
import Mathlib.Data.List.DropRight

/-!
Runs of one character class in a text: replacing every run that is long enough,
stripping both ends, cutting to a length, and joining. A text is spaced when no
two members of the class stand side by side and none stands at an end.
-/

namespace OrderMessaging.CharacterRuns

set_option autoImplicit false

variable {Character : Type}

section Operations

variable (member : Character → Bool) (least : Nat) (replacement : List Character)

def closeRun (run : List Character) : List Character :=
  if run.length < least then run else replacement

/-- `re.sub` of `[class]{least,}` for a positive `least`: a match is greedy, so it
is a whole maximal run. `run` is the run being read. -/
def subRuns : List Character → List Character → List Character
  | run, [] => closeRun least replacement run
  | run, head :: tail =>
      if member head then subRuns (run ++ [head]) tail
      else closeRun least replacement run ++ head :: subRuns [] tail

def stripEnds (text : List Character) : List Character :=
  (text.dropWhile member).rdropWhile member

/-- The text up to a length, without the members a cut leaves at its end. -/
def truncated (length : Nat) (text : List Character) : List Character :=
  (text.take length).rdropWhile member

def Apart (first second : Character) : Prop := ¬(member first ∧ member second)

structure Spaced (text : List Character) : Prop where
  apart : text.IsChain (Apart member)
  opens : ∀ first ∈ text.head?, member first = false
  closes : ∀ last ∈ text.getLast?, member last = false

end Operations

section Replacing

variable {member : Character → Bool} {least : Nat} {replacement : List Character}

theorem mem_close_run {run : List Character} {character : Character}
    (occurs : character ∈ closeRun least replacement run) :
    character ∈ run ∨ character ∈ replacement := by
  unfold closeRun at occurs
  split_ifs at occurs
  · exact Or.inl occurs
  · exact Or.inr occurs

theorem mem_sub_runs {run text : List Character} {character : Character}
    (occurs : character ∈ subRuns member least replacement run text) :
    character ∈ run ∨ character ∈ text ∨ character ∈ replacement := by
  induction text generalizing run with
  | nil =>
      rcases mem_close_run occurs with inRun | replaced
      · exact Or.inl inRun
      · exact Or.inr (Or.inr replaced)
  | cons head tail ih =>
      simp only [subRuns] at occurs
      split_ifs at occurs with inClass
      · have found := ih occurs
        simp only [List.mem_append, List.mem_singleton] at found
        simp only [List.mem_cons]
        tauto
      · simp only [List.mem_append, List.mem_cons] at occurs ⊢
        rcases occurs with closed | isHead | later
        · have found := mem_close_run closed
          tauto
        · exact Or.inr (Or.inl (Or.inl isHead))
        · have found := ih later
          simp only [List.not_mem_nil, false_or] at found
          tauto

/-- Where single members count as runs, only the replacement brings members in. -/
theorem mem_sub_runs_one {run text : List Character} {character : Character}
    (occurs : character ∈ subRuns member 1 replacement run text) :
    member character = false ∨ character ∈ replacement := by
  have closed {ended : List Character} (inside : character ∈ closeRun 1 replacement ended) :
      character ∈ replacement := by
    unfold closeRun at inside
    split_ifs at inside with short
    · have empty : ended = [] := List.length_eq_zero_iff.mp (by omega)
      simp [empty] at inside
    · exact inside
  induction text generalizing run with
  | nil => exact Or.inr (closed occurs)
  | cons head tail ih =>
      simp only [subRuns] at occurs
      split_ifs at occurs with inClass
      · exact ih occurs
      · simp only [List.mem_append, List.mem_cons] at occurs
        rcases occurs with ended | rfl | later
        · exact Or.inr (closed ended)
        · exact Or.inl (Bool.eq_false_iff.mpr inClass)
        · exact ih later

theorem close_run_short {run : List Character} (short : replacement.length ≤ 1) :
    (closeRun 2 replacement run).length ≤ 1 := by
  unfold closeRun
  split_ifs with fewer
  · omega
  · exact short

/-- What stands before a character outside the class is one character at most. -/
theorem apart_before {front back : List Character} {head : Character}
    (short : front.length ≤ 1) (outside : member head = false)
    (rest : (head :: back).IsChain (Apart member)) :
    (front ++ head :: back).IsChain (Apart member) := by
  match front, short with
  | [], _ => exact rest
  | [only], _ =>
      refine List.IsChain.cons_cons ?_ rest
      simp [Apart, outside]

theorem apart_after {back : List Character} {head : Character}
    (outside : member head = false) (rest : back.IsChain (Apart member)) :
    (head :: back).IsChain (Apart member) := by
  refine rest.cons ?_
  intro next _
  simp [Apart, outside]

/-- Once every longer run is one character, no two members are adjacent. -/
theorem sub_runs_apart (short : replacement.length ≤ 1) (run text : List Character) :
    (subRuns member 2 replacement run text).IsChain (Apart member) := by
  induction text generalizing run with
  | nil =>
      have closed : (closeRun 2 replacement run).length ≤ 1 := close_run_short short
      simp only [subRuns]
      match closeRun 2 replacement run, closed with
      | [], _ => exact .nil
      | [only], _ => exact .singleton only
  | cons head tail ih =>
      simp only [subRuns]
      split_ifs with inClass
      · exact ih (run ++ [head])
      · have outside := Bool.eq_false_iff.mpr inClass
        exact apart_before (close_run_short short) outside (apart_after outside (ih []))

/-- A text without members has no run to replace. -/
theorem sub_runs_untouched (positive : 0 < least) {text : List Character}
    (outside : ∀ character ∈ text, member character = false) :
    subRuns member least replacement [] text = text := by
  have open_empty : closeRun least replacement [] = [] := if_pos positive
  induction text with
  | nil => exact open_empty
  | cons head tail ih =>
      have headOutside := outside head List.mem_cons_self
      have tailSame := ih fun character inside => outside character (List.mem_cons_of_mem _ inside)
      simp [subRuns, headOutside, open_empty, tailSame]

end Replacing

section Ends

variable {member : Character → Bool} {text : List Character}

theorem last_outside (last : Character) (found : last ∈ (text.rdropWhile member).getLast?) :
    member last = false := by
  obtain ⟨occupied, rfl⟩ := List.mem_getLast?_eq_getLast found
  exact Bool.eq_false_iff.mpr (List.rdropWhile_last_not member text occupied)

theorem first_outside (first : Character) (found : first ∈ (text.dropWhile member).head?) :
    member first = false := by
  have kept := List.head?_dropWhile_not member text
  rw [Option.mem_def.mp found] at kept
  simpa using kept

theorem head_of_begins {front : List Character} (begins : front <+: text) (first : Character)
    (found : first ∈ front.head?) : first ∈ text.head? := by
  obtain ⟨rest, rfl⟩ := begins
  rw [List.head?_append, Option.mem_def.mp found]
  rfl

theorem spaced_strip (apart : text.IsChain (Apart member)) : Spaced member (stripEnds member text) where
  apart := apart.infix
    ((List.rdropWhile_prefix member _).isInfix.trans (List.dropWhile_suffix member).isInfix)
  opens first found :=
    first_outside first (head_of_begins (List.rdropWhile_prefix member _) first found)
  closes := last_outside

theorem truncated_begins (length : Nat) : truncated member length text <+: text :=
  (List.rdropWhile_prefix member _).trans (List.take_prefix length text)

theorem truncated_length_le (length : Nat) : (truncated member length text).length ≤ length :=
  ((List.rdropWhile_prefix member _).length_le).trans (List.length_take_le length text)

theorem Spaced.truncated (spaced : Spaced member text) (length : Nat) :
    Spaced member (truncated member length text) where
  apart := spaced.apart.infix (truncated_begins length).isInfix
  opens first found := spaced.opens first (head_of_begins (truncated_begins length) first found)
  closes := last_outside

theorem strip_mem {character : Character} (occurs : character ∈ stripEnds member text) :
    character ∈ text :=
  (List.dropWhile_suffix member).subset ((List.rdropWhile_prefix member _).subset occurs)

theorem strip_untouched (outside : ∀ character ∈ text, member character = false) :
    stripEnds member text = text := by
  have leading : text.dropWhile member = text := by
    cases text with
    | nil => rfl
    | cons head tail => simp [outside head List.mem_cons_self]
  rw [stripEnds, leading, List.rdropWhile_eq_self_iff]
  intro occupied
  simp [outside _ (List.getLast_mem occupied)]

theorem spaced_outside (outside : ∀ character ∈ text, member character = false) :
    Spaced member text where
  apart := by
    induction text with
    | nil => exact .nil
    | cons head tail ih =>
        refine apart_after (outside head List.mem_cons_self) (ih ?_)
        exact fun character inside => outside character (List.mem_cons_of_mem _ inside)
  opens first found := outside first (List.mem_of_mem_head? found)
  closes last found := outside last (List.mem_of_getLast? found)

/-- Two spaced texts, neither empty, with one member between them. -/
theorem Spaced.join {front back : List Character} (first : Spaced member front)
    (second : Spaced member back) (frontOccupied : front ≠ []) (backOccupied : back ≠ [])
    (separator : Character) : Spaced member (front ++ separator :: back) where
  apart := by
    refine first.apart.append ?_ ?_
    · refine second.apart.cons ?_
      intro next found
      simp [Apart, second.opens next found]
    · intro last found next _
      simp [Apart, first.closes last found]
  opens initial found := by
    refine first.opens initial ?_
    rwa [List.head?_append_of_ne_nil _ frontOccupied] at found
  closes last found := by
    refine second.closes last ?_
    rwa [List.getLast?_append_of_ne_nil _ (List.cons_ne_nil _ _),
      List.getLast?_cons_of_ne_nil backOccupied] at found

end Ends

end OrderMessaging.CharacterRuns
