import OrderMessaging.Library.CharacterRuns
import OrderMessaging.Contracts.Reference
import OrderMessaging.Processing.RetryAndDeadLetter

/-!
Names of the topics and queues a test owns. `str.lower` and `hashlib.sha1` are
parameters; the values of the `uuid4` calls are arguments. Whatever lowercasing
returns, the classes of the two patterns decide what a name is made of.
-/

namespace OrderMessaging.TestHelpers.ResourceNames

open OrderMessaging.PyText OrderMessaging.PyException OrderMessaging.CharacterRuns
open OrderMessaging.Contracts.Models OrderMessaging.Contracts.Reference
open OrderMessaging.Processing.RetryAndDeadLetter

set_option autoImplicit false

def isLowerAlnum (point : CodePoint) : Bool :=
  decide (0x61 ≤ point.val ∧ point.val ≤ 0x7A) || decide (0x30 ≤ point.val ∧ point.val ≤ 0x39)

def isTopicSeparator (point : CodePoint) : Bool := decide (point ∈ ofString "-_.")
def isTopicCharacter (point : CodePoint) : Bool := isLowerAlnum point || isTopicSeparator point
def isQueueSeparator (point : CodePoint) : Bool := decide (point ∈ ofString "-_")
def isQueueCharacter (point : CodePoint) : Bool := isLowerAlnum point || isQueueSeparator point

def isHexDigit (point : CodePoint) : Bool :=
  decide (0x61 ≤ point.val ∧ point.val ≤ 0x66) || decide (0x30 ≤ point.val ∧ point.val ≤ 0x39)

def IsHex (text : Str) : Prop := ∀ point ∈ text, isHexDigit point = true

instance (text : Str) : Decidable (IsHex text) :=
  List.decidableBAll (fun point => isHexDigit point = true) text

/-- `text or fallback`. -/
def orElse (text fallback : Str) : Str := if text = [] then fallback else text

def maxTopicNameLength : Nat := 249
def defaultTopicPrefix : Str := "order-app-test"
def shortHexLength : Nat := 12

section Topics

variable (lower : Str → Str)

def normalizeTopicSegment (value : Str) : Str :=
  let normalized := subRuns (fun point => !isTopicCharacter point) 1 "-" [] (lower value)
  let normalized := subRuns isTopicSeparator 2 "-" [] normalized
  stripEnds isTopicSeparator normalized

def topicBase (topicPrefix testName : Str) : Str :=
  orElse (normalizeTopicSegment lower (topicPrefix ++ "-" ++ testName)) "order-app-test"

/-- `first` and `second` are what the two `uuid4` calls return. -/
def normalizedToken (first second : Uuid) (token : Option Str) : Str :=
  let uniqueToken := orElse (token.getD []) (first.hex.take shortHexLength)
  orElse (normalizeTopicSegment lower uniqueToken) (second.hex.take shortHexLength)

/-- The subtraction stops at zero, and a length below one raises either way. -/
def uniqueTopicName (first second : Uuid) (testName topicPrefix : Str) (token : Option Str) :
    Except Exc Str :=
  let base := topicBase lower topicPrefix testName
  let suffix := "-" ++ normalizedToken lower first second token
  let availableBaseLength := maxTopicNameLength - suffix.length
  if availableBaseLength < 1 then
    .error ⟨valueError, "The topic-name token exceeds Kafka's 249-character limit."⟩
  else
    .ok (orElse (truncated isTopicSeparator availableBaseLength base) "t" ++ suffix)

end Topics

section Queues

variable (runtime : Runtime) (lower : Str → Str) (sha1Hex : ByteArray → Str)

def queueEnding (fifo : Bool) : Str := if fifo then ".fifo" else []

def readableSeed (seed : Str) : Str :=
  orElse (stripEnds isQueueSeparator
    (subRuns (fun point => !isQueueCharacter point) 1 "-" [] (lower seed))) "queue"

def queueName (readable digest suffix ending : Str) : Str :=
  let fixed := "order-app-test--" ++ digest ++ "-" ++ suffix
  let readableLimit := 80 - ending.length - fixed.length
  let safeReadable := truncated isQueueSeparator readableLimit readable
  let base := "order-app-test-" ++ safeReadable ++ "-" ++ digest ++ "-" ++ suffix
  base ++ ending

/-- `random` is what `uuid4` returns. -/
def uniqueQueueName (random : Uuid) (seed : Str) (fifo : Bool) : Except Exc Str := do
  let readable := readableSeed lower seed
  let suffix := random.hex.take 10
  let digest := (sha1Hex (← encode runtime seed)).take 8
  .ok (queueName readable digest suffix (queueEnding fifo))

end Queues

def lowerAscii (point : CodePoint) : CodePoint :=
  if 0x41 ≤ point.val ∧ point.val ≤ 0x5A then Fin.ofNat 0x110000 (point.val + 32) else point

/-- What `str.lower` does to text without characters beyond ASCII. -/
def LowersAscii (lower : Str → Str) : Prop :=
  ∀ text : Str, (∀ point ∈ text, point.val < 0x80) → lower text = text.map lowerAscii

structure HexDigest (sha1Hex : ByteArray → Str) : Prop where
  hexadecimal : ∀ data, IsHex (sha1Hex data)
  fixedLength : ∀ data, (sha1Hex data).length = 40

section Hexadecimal

variable {point : CodePoint} {text : Str}

theorem hex_digit_bounds (digit : isHexDigit point = true) :
    (0x61 ≤ point.val ∧ point.val ≤ 0x66) ∨ (0x30 ≤ point.val ∧ point.val ≤ 0x39) := by
  simpa [isHexDigit] using digit

theorem hex_lower_alnum (digit : isHexDigit point = true) : isLowerAlnum point = true := by
  have bounds := hex_digit_bounds digit
  simp only [isLowerAlnum, Bool.or_eq_true, decide_eq_true_eq]
  omega

theorem lower_alnum_no_separator (alnum : isLowerAlnum point = true) :
    isTopicSeparator point = false := by
  have separators : (ofString "-_.").all (fun separator => !isLowerAlnum separator) := by decide
  simp only [isTopicSeparator, decide_eq_false_iff_not]
  intro separator
  have outside := List.all_eq_true.mp separators point separator
  simp [alnum] at outside

theorem hex_no_separator (digit : isHexDigit point = true) : isTopicSeparator point = false :=
  lower_alnum_no_separator (hex_lower_alnum digit)

theorem hex_lowered {lower : Str → Str} (lowers : LowersAscii lower) (hex : IsHex text) :
    lower text = text := by
  have ascii : ∀ point ∈ text, point.val < 0x80 := by
    intro point member
    have bounds := hex_digit_bounds (hex point member)
    omega
  have fixed : ∀ point ∈ text, lowerAscii point = id point := by
    intro point member
    have bounds := hex_digit_bounds (hex point member)
    unfold lowerAscii
    rw [if_neg (by omega)]
    rfl
  calc
    lower text = text.map lowerAscii := lowers text ascii
    _ = text.map id := List.map_congr_left fixed
    _ = text := List.map_id text

theorem uuid_hex (id : Uuid) : IsHex id.hex := by
  have digits : ∀ nibble < 16, isHexDigit (hexDigit nibble) = true := by decide
  intro point member
  obtain ⟨index, _, rfl⟩ := List.mem_map.mp member
  exact digits _ (Nat.mod_lt _ (by decide))

theorem uuid_hex_length (id : Uuid) : id.hex.length = 32 := by
  simp [Uuid.hex]

theorem hex_take (hex : IsHex text) (count : Nat) : IsHex (text.take count) :=
  fun point member => hex point (List.mem_of_mem_take member)

theorem short_hex_length (id : Uuid) : (id.hex.take shortHexLength).length = 12 := by
  simp [uuid_hex_length, shortHexLength]

end Hexadecimal

/-- A part of a topic name that may stand beside a separator. -/
structure TopicSegment (text : Str) : Prop where
  occupied : text ≠ []
  characters : ∀ point ∈ text, isTopicCharacter point = true
  spaced : Spaced isTopicSeparator text

/-- What Kafka accepts, and the separators the generator promises. -/
structure LegalTopicName (name : Str) : Prop where
  bounded : name.length ≤ maxTopicNameLength
  characters : ∀ point ∈ name, isTopicCharacter point = true
  spaced : Spaced isTopicSeparator name

def hyphen : CodePoint := 0x2D

theorem of_string_hyphen : ofString "-" = [hyphen] := rfl

section Segments

variable {text fallback : Str}

theorem or_else_elim {Holds : Str → Prop} (onText : text ≠ [] → Holds text)
    (onFallback : text = [] → Holds fallback) : Holds (orElse text fallback) := by
  unfold orElse
  split_ifs with empty
  · exact onFallback empty
  · exact onText empty

theorem or_else_occupied (occupied : text ≠ []) : orElse text fallback = text := if_neg occupied

theorem or_else_nil : orElse [] fallback = fallback := if_pos rfl

theorem or_else_forall {allowed : CodePoint → Prop} (onText : ∀ point ∈ text, allowed point)
    (onFallback : ∀ point ∈ fallback, allowed point) :
    ∀ point ∈ orElse text fallback, allowed point := by
  unfold orElse
  split_ifs
  · exact onFallback
  · exact onText

theorem or_else_length_le {bound : Nat} (onText : text.length ≤ bound)
    (onFallback : fallback.length ≤ bound) : (orElse text fallback).length ≤ bound := by
  unfold orElse
  split_ifs
  · exact onFallback
  · exact onText

theorem hyphen_topic : isTopicCharacter hyphen = true := by decide

theorem normalize_spaced (lower : Str → Str) (value : Str) :
    Spaced isTopicSeparator (normalizeTopicSegment lower value) :=
  spaced_strip (sub_runs_apart (by decide) [] _)

theorem normalize_characters (lower : Str → Str) (value : Str) :
    ∀ point ∈ normalizeTopicSegment lower value, isTopicCharacter point = true := by
  have replaced {point : CodePoint} (member : point ∈ ofString "-") :
      isTopicCharacter point = true := by
    rw [of_string_hyphen, List.mem_singleton] at member
    exact member ▸ hyphen_topic
  intro point member
  rcases mem_sub_runs (strip_mem member) with none | kept | hyphened
  · cases none
  · rcases mem_sub_runs_one kept with allowed | hyphened
    · simpa using allowed
    · exact replaced hyphened
  · exact replaced hyphened

theorem normalize_segment (lower : Str → Str) (value : Str)
    (occupied : normalizeTopicSegment lower value ≠ []) :
    TopicSegment (normalizeTopicSegment lower value) :=
  ⟨occupied, normalize_characters lower value, normalize_spaced lower value⟩

theorem hex_segment (hex : IsHex text) (occupied : text ≠ []) : TopicSegment text where
  occupied := occupied
  characters point member := by
    simp [isTopicCharacter, hex_lower_alnum (hex point member)]
  spaced := spaced_outside fun point member => hex_no_separator (hex point member)

/-- A fallback of the source is what normalizing it returns. -/
theorem fallback_segment {literal : Str} (same : normalizeTopicSegment id literal = literal)
    (occupied : literal ≠ []) : TopicSegment literal :=
  same ▸ normalize_segment id literal (same.symm ▸ occupied)

theorem short_hex_segment (id : Uuid) : TopicSegment (id.hex.take shortHexLength) := by
  refine hex_segment (hex_take (uuid_hex id) shortHexLength) ?_
  intro empty
  have length := short_hex_length id
  rw [empty] at length
  cases length

theorem TopicSegment.cut (segment : TopicSegment text) (length : Nat) :
    TopicSegment (orElse (truncated isTopicSeparator length text) "t") := by
  apply or_else_elim
  · intro occupied
    refine ⟨occupied, ?_, segment.spaced.truncated length⟩
    exact fun point member => segment.characters point ((truncated_begins length).subset member)
  · intro _
    exact fallback_segment (by decide +kernel) (by decide)

theorem TopicSegment.join {front back : Str} (first : TopicSegment front)
    (second : TopicSegment back) : TopicSegment (front ++ hyphen :: back) where
  occupied := by simp
  characters point member := by
    rcases List.mem_append.mp member with inFront | inBack
    · exact first.characters point inFront
    · rcases List.mem_cons.mp inBack with rfl | inBack
      · exact hyphen_topic
      · exact second.characters point inBack
  spaced := first.spaced.join second.spaced first.occupied second.occupied hyphen

end Segments

section TopicNames

variable {lower : Str → Str}

theorem normalize_hex (lowers : LowersAscii lower) {text : Str} (hex : IsHex text) :
    normalizeTopicSegment lower text = text := by
  have allowed : ∀ point ∈ text, (!isTopicCharacter point) = false := by
    intro point member
    simp [isTopicCharacter, hex_lower_alnum (hex point member)]
  have apart : ∀ point ∈ text, isTopicSeparator point = false :=
    fun point member => hex_no_separator (hex point member)
  simp only [normalizeTopicSegment, hex_lowered lowers hex]
  rw [sub_runs_untouched (by decide) allowed, sub_runs_untouched (by decide) apart,
    strip_untouched apart]

theorem topic_base_segment (topicPrefix testName : Str) :
    TopicSegment (topicBase lower topicPrefix testName) := by
  apply or_else_elim
  · exact normalize_segment lower _
  · intro _
    exact fallback_segment (by decide +kernel) (by decide)

theorem normalized_token_segment (first second : Uuid) (token : Option Str) :
    TopicSegment (normalizedToken lower first second token) := by
  apply or_else_elim
  · exact normalize_segment lower _
  · intro _
    exact short_hex_segment second

/-- The suffix of a topic name, seen from the token the caller gave. -/
inductive TokenUsed (lower : Str → Str) (first second : Uuid) (token : Option Str)
    (suffix : Str) : Prop where
  | given (text : Str) (supplied : token = some text)
      (occupied : normalizeTopicSegment lower text ≠ [])
      (same : suffix = normalizeTopicSegment lower text)
  | random (id : Uuid) (called : id = first ∨ id = second)
      (unusable : ∀ text, token = some text → normalizeTopicSegment lower text = [])
      (same : suffix = id.hex.take shortHexLength)
      (hexadecimal : IsHex suffix) (length : suffix.length = 12)

theorem normalize_nil (lowers : LowersAscii lower) : normalizeTopicSegment lower [] = [] :=
  normalize_hex lowers (by simp [IsHex])

theorem random_token (first second id : Uuid) (token : Option Str)
    (called : id = first ∨ id = second)
    (unusable : ∀ text, token = some text → normalizeTopicSegment lower text = []) :
    TokenUsed lower first second token (id.hex.take shortHexLength) :=
  .random id called unusable rfl (hex_take (uuid_hex id) _) (short_hex_length id)

theorem normalized_token_used (lowers : LowersAscii lower) (first second : Uuid)
    (token : Option Str) :
    TokenUsed lower first second token (normalizedToken lower first second token) := by
  have generated {text : Str} (empty : text = [])
      (unusable : ∀ text, token = some text → normalizeTopicSegment lower text = []) :
      TokenUsed lower first second token
        (orElse (normalizeTopicSegment lower (orElse text (first.hex.take shortHexLength)))
          (second.hex.take shortHexLength)) := by
    subst empty
    have fixed : normalizeTopicSegment lower (first.hex.take shortHexLength) =
        first.hex.take shortHexLength :=
      normalize_hex lowers (hex_take (uuid_hex first) _)
    rw [or_else_nil, fixed, or_else_occupied (short_hex_segment first).occupied]
    exact random_token first second first token (Or.inl rfl) unusable
  cases token with
  | none => exact generated rfl (by simp)
  | some text =>
      by_cases empty : text = []
      · refine generated empty ?_
        rintro _ ⟨⟩
        rw [empty, normalize_nil lowers]
      · simp only [normalizedToken, Option.getD_some, or_else_occupied empty]
        apply or_else_elim
        · intro occupied
          exact .given text rfl occupied rfl
        · intro nothing
          refine random_token first second second _ (Or.inr rfl) ?_
          rintro _ ⟨⟩
          exact nothing

theorem topic_cut_length {room : Nat} (positive : 1 ≤ room) (text : Str) :
    (orElse (truncated isTopicSeparator room text) "t").length ≤ room :=
  or_else_length_le (truncated_length_le room) positive

theorem topic_name_built {first second : Uuid} {testName topicPrefix name : Str}
    {token : Option Str}
    (built : uniqueTopicName lower first second testName topicPrefix token = .ok name) :
    ∃ base, TopicSegment base ∧
      base.length + 1 + (normalizedToken lower first second token).length ≤ maxTopicNameLength ∧
      name = base ++ hyphen :: normalizedToken lower first second token := by
  simp only [uniqueTopicName] at built
  split_ifs at built with short
  have same := (Except.ok.inj built).symm
  generalize normalizedToken lower first second token = suffix at short same
  have suffixLength : (ofString "-" ++ suffix).length = suffix.length + 1 := by
    simp [of_string_hyphen]
  refine ⟨_, (topic_base_segment topicPrefix testName).cut _, ?_, same⟩
  have roomLeft : 1 ≤ maxTopicNameLength - (ofString "-" ++ suffix).length := by omega
  have cutLength := topic_cut_length roomLeft (topicBase lower topicPrefix testName)
  omega

/-- The name is refused exactly when its token leaves no room for a base. -/
theorem topic_name_refused_iff {first second : Uuid} {testName topicPrefix : Str}
    {token : Option Str} {fault : Exc} :
    uniqueTopicName lower first second testName topicPrefix token = .error fault ↔
      maxTopicNameLength ≤ (normalizedToken lower first second token).length + 1 ∧
        fault = ⟨valueError, "The topic-name token exceeds Kafka's 249-character limit."⟩ := by
  have suffixLength : (ofString "-" ++ normalizedToken lower first second token).length =
      (normalizedToken lower first second token).length + 1 := by
    simp [of_string_hyphen]
  simp only [uniqueTopicName, suffixLength]
  split_ifs with short
  · simp only [Except.error.injEq]
    constructor
    · intro same
      exact ⟨by omega, same.symm⟩
    · rintro ⟨_, same⟩
      exact same.symm
  · simp only [false_iff, not_and]
    omega

theorem topic_name_legal {first second : Uuid} {testName topicPrefix name : Str}
    {token : Option Str}
    (built : uniqueTopicName lower first second testName topicPrefix token = .ok name) :
    LegalTopicName name ∧
      ofString "-" ++ normalizedToken lower first second token <:+ name := by
  obtain ⟨base, segment, bounded, rfl⟩ := topic_name_built built
  have tail : TopicSegment (normalizedToken lower first second token) :=
    normalized_token_segment first second token
  have whole := segment.join tail
  refine ⟨⟨?_, whole.characters, whole.spaced⟩, base, rfl⟩
  simp only [List.length_append, List.length_cons]
  omega

theorem hex_token_kept (lowers : LowersAscii lower) {text : Str} (hex : IsHex text)
    (occupied : text ≠ []) (first second : Uuid) :
    normalizedToken lower first second (some text) = text := by
  simp only [normalizedToken, Option.getD_some, or_else_occupied occupied,
    normalize_hex lowers hex]

example : uniqueTopicName (List.map lowerAscii) ⟨0⟩ ⟨0⟩
    "tests/integration/test orders.py::creates order [INR]" defaultTopicPrefix (some "abc123") =
      .ok "order-app-test-tests-integration-test-orders.py-creates-order-inr-abc123" := by
  rfl

/-- The tokens of two equal names are the same tail of one text. -/
theorem topic_tokens_of_name {first second other another : Uuid}
    {testName topicPrefix testName' topicPrefix' name : Str} {token token' : Option Str}
    (one : uniqueTopicName lower first second testName topicPrefix token = .ok name)
    (two : uniqueTopicName lower other another testName' topicPrefix' token' = .ok name)
    (lengths : (normalizedToken lower first second token).length =
      (normalizedToken lower other another token').length) :
    normalizedToken lower first second token = normalizedToken lower other another token' := by
  obtain ⟨base, _, _, same⟩ := topic_name_built one
  obtain ⟨base', _, _, same'⟩ := topic_name_built two
  have tails := List.append_inj_right' (same.symm.trans same') (by simp [lengths])
  exact (List.cons.inj tails).2

end TopicNames

structure LegalQueueName (digest random : Str) (fifo : Bool) (name : Str) : Prop where
  bounded : name.length ≤ 80
  digestWhole : digest.length = 8
  randomWhole : random.length = 10
  built : ∃ base, name = base ++ queueEnding fifo ∧
    (∀ point ∈ base, isQueueCharacter point = true) ∧
    ofString "-" ++ digest ++ ofString "-" ++ random <:+ base
  ending : ofString ".fifo" <:+ name ↔ fifo = true

section QueueNames

variable {runtime : Runtime} {lower : Str → Str} {sha1Hex : ByteArray → Str}

theorem hex_queue {point : CodePoint} (digit : isHexDigit point = true) :
    isQueueCharacter point = true := by
  simp [isQueueCharacter, hex_lower_alnum digit]

theorem literal_queue {literal : Str} (allowed : literal.all isQueueCharacter = true) :
    ∀ point ∈ literal, isQueueCharacter point = true :=
  List.all_eq_true.mp allowed

theorem hyphen_queue : ∀ point ∈ ofString "-", isQueueCharacter point = true :=
  literal_queue (by decide)

theorem readable_characters (seed : Str) :
    ∀ point ∈ readableSeed lower seed, isQueueCharacter point = true := by
  apply or_else_forall
  · intro point member
    rcases mem_sub_runs_one (strip_mem member) with allowed | hyphened
    · simpa using allowed
    · exact hyphen_queue point hyphened
  · exact literal_queue (by decide)

theorem queue_ending_length (fifo : Bool) : (queueEnding fifo).length ≤ 5 := by
  cases fifo
  · exact Nat.zero_le 5
  · exact le_refl 5

theorem queue_name_length {readable digest suffix ending : Str} (digestWhole : digest.length = 8)
    (suffixWhole : suffix.length = 10) (endingShort : ending.length ≤ 5) :
    (queueName readable digest suffix ending).length ≤ 80 := by
  have opening : (ofString "order-app-test-").length = 15 := rfl
  have fixed : (ofString "order-app-test--").length = 16 := rfl
  have dash : (ofString "-").length = 1 := rfl
  have cut (limit : Nat) : (truncated isQueueSeparator limit readable).length ≤ limit :=
    truncated_length_le limit
  simp only [queueName, List.length_append, opening, fixed, dash, digestWhole, suffixWhole]
  have cutLength := cut (80 - ending.length - (16 + 8 + 1 + 10))
  omega

/-- The part of the name before its ending, and the tail that no cut reaches. -/
theorem queue_name_base {readable digest suffix : Str} (ending : Str)
    (readableAllowed : ∀ point ∈ readable, isQueueCharacter point = true)
    (digestHex : IsHex digest) (suffixHex : IsHex suffix) :
    ∃ base, queueName readable digest suffix ending = base ++ ending ∧
      (∀ point ∈ base, isQueueCharacter point = true) ∧
      ofString "-" ++ digest ++ ofString "-" ++ suffix <:+ base := by
  refine ⟨_, rfl, ?_, ?_⟩
  · intro point member
    simp only [List.mem_append] at member
    rcases member with ((((opening | cut) | dash) | digit) | dash) | digit
    · exact literal_queue (by decide) point opening
    · exact readableAllowed point ((truncated_begins _).subset cut)
    · exact hyphen_queue point dash
    · exact hex_queue (digestHex point digit)
    · exact hyphen_queue point dash
    · exact hex_queue (suffixHex point digit)
  · simp only [List.append_assoc]
    exact (List.suffix_append _ _).trans (List.suffix_append _ _)

/-- A dot is no queue character, so only the ending can bring one in. -/
theorem fifo_ending_iff {base : Str} (allowed : ∀ point ∈ base, isQueueCharacter point = true)
    (fifo : Bool) : ofString ".fifo" <:+ base ++ queueEnding fifo ↔ fifo = true := by
  cases fifo with
  | true =>
      simp only [iff_true]
      exact List.suffix_append base _
  | false =>
      simp only [Bool.false_eq_true, iff_false]
      intro ends
      have dotted : Fin.ofNat 0x110000 0x2E ∈ base := by
        have inside := ends.subset (show Fin.ofNat 0x110000 0x2E ∈ ofString ".fifo" by decide)
        simpa [queueEnding] using inside
      have refused : isQueueCharacter (Fin.ofNat 0x110000 0x2E) = false := by decide
      rw [allowed _ dotted] at refused
      cases refused

theorem queue_name_legal (digests : HexDigest sha1Hex) (random : Uuid) {seed : Str}
    (encodable : Encodable seed) (fifo : Bool) :
    ∃ data name, encode runtime seed = .ok data ∧
      uniqueQueueName runtime lower sha1Hex random seed fifo = .ok name ∧
      LegalQueueName ((sha1Hex data).take 8) (random.hex.take 10) fifo name := by
  obtain ⟨data, encoded⟩ := encode_encodable runtime encodable
  have digestWhole : ((sha1Hex data).take 8).length = 8 := by simp [digests.fixedLength data]
  have randomWhole : (random.hex.take 10).length = 10 := by simp [uuid_hex_length]
  have readable : ∀ point ∈ readableSeed lower seed, isQueueCharacter point = true :=
    readable_characters seed
  obtain ⟨base, same, allowed, kept⟩ := queue_name_base (queueEnding fifo) readable
    (hex_take (digests.hexadecimal data) 8) (hex_take (uuid_hex random) 10)
  refine ⟨data, _, encoded, ?_, ?_, digestWhole, randomWhole, ⟨base, same, allowed, kept⟩, ?_⟩
  · simp only [uniqueQueueName, encoded]
    rfl
  · exact queue_name_length digestWhole randomWhole (queue_ending_length fifo)
  · rw [same]
    exact fifo_ending_iff allowed fifo

theorem queue_name_refused (random : Uuid) {seed : Str} (surrogate : ¬Encodable seed)
    (fifo : Bool) :
    uniqueQueueName runtime lower sha1Hex random seed fifo =
      .error ⟨unicodeEncodeError, runtime.encodeMessage seed⟩ := by
  have refused : encode runtime seed = .error ⟨unicodeEncodeError, runtime.encodeMessage seed⟩ := by
    rw [encode, encodeUtf8, if_neg surrogate]
  simp only [uniqueQueueName, refused]
  rfl

/-- Whatever else two names are made of, one name has one random suffix. -/
theorem LegalQueueName.random_unique {digest digest' random random' name : Str}
    {fifo fifo' : Bool} (first : LegalQueueName digest random fifo name)
    (second : LegalQueueName digest' random' fifo' name) : random = random' := by
  have sameEnding : fifo = fifo' :=
    Bool.eq_iff_iff.mpr (first.ending.symm.trans second.ending)
  subst sameEnding
  obtain ⟨_, same, _, front, rfl⟩ := first.built
  obtain ⟨_, same', _, front', rfl⟩ := second.built
  have bases := List.append_cancel_right (same.symm.trans same')
  simp only [← List.append_assoc] at bases
  exact List.append_inj_right' bases (first.randomWhole.trans second.randomWhole.symm)

end QueueNames

structure UniqueNames (runtime : Runtime) (lower : Str → Str) (sha1Hex : ByteArray → Str) :
    Prop where
  topics : ∀ (first second : Uuid) (testName topicPrefix : Str) (token : Option Str),
    (∃ message, uniqueTopicName lower first second testName topicPrefix token =
      .error ⟨valueError, message⟩) ∨
    ∃ name suffix, uniqueTopicName lower first second testName topicPrefix token = .ok name ∧
      LegalTopicName name ∧ TokenUsed lower first second token suffix ∧
      ofString "-" ++ suffix <:+ name
  queues : ∀ (random : Uuid) (seed : Str) (fifo : Bool), Encodable seed →
    ∃ data name, encode runtime seed = .ok data ∧
      uniqueQueueName runtime lower sha1Hex random seed fifo = .ok name ∧
      LegalQueueName ((sha1Hex data).take 8) (random.hex.take 10) fifo name
  refused : ∀ (random : Uuid) (seed : Str) (fifo : Bool), ¬Encodable seed →
    ∃ message, uniqueQueueName runtime lower sha1Hex random seed fifo =
      .error ⟨unicodeEncodeError, message⟩
  topicsDiffer : ∀ (first second first' second' : Uuid)
    (testName topicPrefix testName' topicPrefix' token token' name name' : Str),
    IsHex token → IsHex token' → token.length = token'.length → token ≠ token' →
    uniqueTopicName lower first second testName topicPrefix (some token) = .ok name →
    uniqueTopicName lower first' second' testName' topicPrefix' (some token') = .ok name' →
    name ≠ name'
  queuesDiffer : ∀ (random random' : Uuid) (seed seed' : Str) (fifo fifo' : Bool)
    (name name' : Str), random.hex.take 10 ≠ random'.hex.take 10 →
    uniqueQueueName runtime lower sha1Hex random seed fifo = .ok name →
    uniqueQueueName runtime lower sha1Hex random' seed' fifo' = .ok name' →
    name ≠ name'

section Claims

variable {runtime : Runtime} {lower : Str → Str} {sha1Hex : ByteArray → Str}

theorem hex_tokens_differ (lowers : LowersAscii lower) {first second first' second' : Uuid}
    {testName topicPrefix testName' topicPrefix' token token' name : Str}
    (hex : IsHex token) (hex' : IsHex token') (lengths : token.length = token'.length)
    (one : uniqueTopicName lower first second testName topicPrefix (some token) = .ok name)
    (two : uniqueTopicName lower first' second' testName' topicPrefix' (some token') = .ok name) :
    token = token' := by
  by_cases empty : token = []
  · rw [empty, List.length_nil] at lengths
    rw [empty, List.length_eq_zero_iff.mp lengths.symm]
  · have occupied' : token' ≠ [] := by
      intro empty'
      rw [empty', List.length_nil] at lengths
      exact empty (List.length_eq_zero_iff.mp lengths)
    have kept := hex_token_kept lowers hex empty first second
    have kept' := hex_token_kept lowers hex' occupied' first' second'
    have tails := topic_tokens_of_name one two (by rw [kept, kept', lengths])
    rwa [kept, kept'] at tails

theorem queue_random_of_name (digests : HexDigest sha1Hex) {random random' : Uuid}
    {seed seed' name : Str} {fifo fifo' : Bool}
    (one : uniqueQueueName runtime lower sha1Hex random seed fifo = .ok name)
    (two : uniqueQueueName runtime lower sha1Hex random' seed' fifo' = .ok name) :
    random.hex.take 10 = random'.hex.take 10 := by
  have legal {random : Uuid} {seed : Str} {fifo : Bool}
      (built : uniqueQueueName runtime lower sha1Hex random seed fifo = .ok name) :
      ∃ digest, LegalQueueName digest (random.hex.take 10) fifo name := by
    by_cases encodable : Encodable seed
    · obtain ⟨data, own, _, same, legal⟩ := queue_name_legal digests random encodable fifo
      obtain rfl := Except.ok.inj (same.symm.trans built)
      exact ⟨_, legal⟩
    · rw [queue_name_refused random encodable fifo] at built
      cases built
  obtain ⟨_, first⟩ := legal one
  obtain ⟨_, second⟩ := legal two
  exact first.random_unique second

theorem resource_names_legal_and_unique (lowers : LowersAscii lower)
    (digests : HexDigest sha1Hex) : UniqueNames runtime lower sha1Hex where
  topics first second testName topicPrefix token := by
    cases built : uniqueTopicName lower first second testName topicPrefix token with
    | error fault =>
        obtain ⟨_, rfl⟩ := topic_name_refused_iff.mp built
        exact Or.inl ⟨_, rfl⟩
    | ok name =>
        obtain ⟨legal, kept⟩ := topic_name_legal built
        exact Or.inr ⟨name, _, rfl, legal, normalized_token_used lowers first second token, kept⟩
  queues random seed fifo encodable := queue_name_legal digests random encodable fifo
  refused random seed fifo surrogate := ⟨_, queue_name_refused random surrogate fifo⟩
  topicsDiffer first second first' second' testName topicPrefix testName' topicPrefix' token
      token' name name' hex hex' lengths differ one two same :=
    differ (hex_tokens_differ lowers hex hex' lengths one (same ▸ two))
  queuesDiffer random random' seed seed' fifo fifo' name name' differ one two same :=
    differ (queue_random_of_name digests one (same ▸ two))

end Claims

/-- The digest of the seed `order`. -/
def orderSha1 (_ : ByteArray) : Str := "cce55e4309a753985bdd21919395fdc17daa11e4"

def lowerAsciiText (text : Str) : Str := text.map lowerAscii

theorem lower_ascii_text_lowers : LowersAscii lowerAsciiText := fun _ _ => rfl

theorem order_sha1_digest : HexDigest orderSha1 where
  hexadecimal _ := by
    change IsHex (ofString "cce55e4309a753985bdd21919395fdc17daa11e4")
    exact List.all_eq_true.mp (by decide +kernel)
  fixedLength _ := rfl

theorem order_names_legal_and_unique :
    LowersAscii lowerAsciiText ∧ HexDigest orderSha1 ∧
      UniqueNames referenceRuntime lowerAsciiText orderSha1 :=
  ⟨lower_ascii_text_lowers, order_sha1_digest,
    resource_names_legal_and_unique lower_ascii_text_lowers order_sha1_digest⟩

/-- One lone surrogate, a text without a UTF-8 form. -/
def surrogateSeed : Str := [0xD800]

theorem surrogate_seed_raises :
    (∃ message, uniqueQueueName referenceRuntime lowerAsciiText orderSha1 ⟨0⟩ surrogateSeed false =
      .error ⟨unicodeEncodeError, message⟩) ∧
    ¬ ∀ (random : Uuid) (seed : Str) (fifo : Bool), ∃ name,
      uniqueQueueName referenceRuntime lowerAsciiText orderSha1 random seed fifo = .ok name := by
  have surrogate : ¬Encodable surrogateSeed := by
    intro encodable
    exact encodable 0xD800 List.mem_cons_self ⟨by decide, by decide⟩
  refine ⟨⟨_, queue_name_refused ⟨0⟩ surrogate false⟩, ?_⟩
  intro always
  obtain ⟨name, built⟩ := always ⟨0⟩ surrogateSeed false
  rw [queue_name_refused ⟨0⟩ surrogate false] at built
  cases built

end OrderMessaging.TestHelpers.ResourceNames
