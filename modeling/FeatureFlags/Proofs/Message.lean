import FeatureFlags.Client.Answer
import FeatureFlags.Proofs.Display

namespace FeatureFlags

structure Frame where
  opening : List Char
  closing : List Char

namespace Frame

variable {f g : Frame} {xs ys : List Char}

def around (f : Frame) (cs : List Char) : List Char := f.opening ++ cs ++ f.closing

/-- Either the openings or the closings of two frames differ, and neither is a part of the other. -/
def Apart (f g : Frame) : Prop :=
  ¬ (f.opening <+: g.opening ∨ g.opening <+: f.opening) ∨
    ¬ (f.closing <:+ g.closing ∨ g.closing <:+ f.closing)

instance : DecidableRel Apart := fun _ _ => inferInstanceAs (Decidable (_ ∨ _))

theorem Apart.around_ne (h : f.Apart g) : f.around xs ≠ g.around ys := by
  intro same
  rcases h with openings | closings
  · apply openings
    rw [around, around, List.append_assoc, List.append_assoc] at same
    exact List.prefix_or_prefix_of_prefix ⟨_, same⟩ ⟨_, rfl⟩
  · apply closings
    exact List.suffix_or_suffix_of_suffix ⟨_, same⟩ ⟨_, rfl⟩

theorem around_inj : f.around xs = f.around ys ↔ xs = ys := by
  simp [around]

/-- What is framed is told by the whole, and so is the frame among others that are apart. -/
theorem eq_of_around {κ : Type} {frame : κ → Frame}
    (apart : ∀ k l, k ≠ l → (frame k).Apart (frame l)) {k l : κ}
    (same : (frame k).around xs = (frame l).around ys) : k = l ∧ xs = ys := by
  obtain rfl : k = l := by
    by_contra different
    exact (apart k l different).around_ne same
  exact ⟨rfl, around_inj.1 same⟩

end Frame

section Word

variable {xs ys xs' ys' : List Char}

theorem eq_of_lastWord (same : xs ++ ' ' :: ys = xs' ++ ' ' :: ys') (word : ' ' ∉ ys)
    (word' : ' ' ∉ ys') : xs = xs' ∧ ys = ys' := by
  -- seen from the end the last word is what comes before the first blank
  have reversed := congrArg List.reverse same
  simp only [List.reverse_append, List.reverse_cons, List.append_assoc, List.singleton_append]
    at reversed
  have letters {ys : List Char} (word : ' ' ∉ ys) : ∀ c ∈ ys.reverse, (c != ' ') = true := by
    intro c hc
    rw [bne_iff_ne]
    rintro rfl
    exact word (List.mem_reverse.1 hc)
  have stops {xs : List Char} : Stops (· != ' ') (' ' :: xs) := stops_cons (by simp)
  have last := congrArg (List.takeWhile (· != ' ')) reversed
  rw [takeWhile_append_of_stops (letters word) stops,
    takeWhile_append_of_stops (letters word') stops, List.reverse_inj] at last
  subst last
  exact ⟨by simpa using same, rfl⟩

theorem space_not_mem_toDigits (n : Nat) : ' ' ∉ Nat.toDigits 10 n :=
  fun space => absurd (isDigit_of_mem_toDigits _ space) (by decide)

theorem space_not_mem_display (d : Double) : ' ' ∉ d.display.toList :=
  fun space => absurd (d.mem_display _ space) (by decide)

theorem eq_of_toDigits {m n : Nat} (same : Nat.toDigits 10 m = Nat.toDigits 10 n) : m = n := by
  simpa using congrArg Json.Read.natOf same

theorem PropertyType.space_not_mem_name (t : PropertyType) : ' ' ∉ t.name.toList := by
  cases t <;> decide

theorem PropertyType.name_injective : Function.Injective name := by
  intro t u same
  cases t <;> cases u <;> first | rfl | exact absurd same (by decide)

theorem FlagType.space_not_mem_name (t : FlagType) : ' ' ∉ t.name.toList := by
  cases t <;> decide

theorem FlagType.name_injective : Function.Injective name := by
  intro t u same
  cases t <;> cases u <;> first | rfl | exact absurd same (by decide)

end Word

namespace Violation

inductive Kind
  | schemaVersion
  | duplicateId (declared : Declared)
  | duplicateFlagName
  | valueType (expected : FlagType)
  | rolloutPercentage
  | rolloutSum
  | unknownProperty
  | propertyType
  | unknownSegment
  | segmentCycle
  deriving DecidableEq

namespace Kind

def frame : Kind → Frame
  | .schemaVersion => ⟨"unsupported schema version ".toList, ", expected 1".toList⟩
  | .duplicateId d => ⟨("duplicate " ++ d.name ++ " id '").toList, ['\'']⟩
  | .duplicateFlagName => ⟨"duplicate feature flag name '".toList, ['\'']⟩
  | .valueType expected =>
    ⟨"feature flag '".toList, ("' has a value that is not of its type " ++ expected.name).toList⟩
  | .rolloutPercentage => ⟨"feature flag '".toList, " outside [0, 100]".toList⟩
  | .rolloutSum => ⟨"feature flag '".toList, ", not 100".toList⟩
  | .unknownProperty => ⟨"condition references unknown property '".toList, ['\'']⟩
  | .propertyType => ⟨"condition expects property '".toList, []⟩
  | .unknownSegment => ⟨"condition references unknown segment '".toList, ['\'']⟩
  | .segmentCycle => ⟨"segment '".toList, "' references itself through its conditions".toList⟩

def all : List Kind :=
  [.schemaVersion, .duplicateId .property, .duplicateId .segment, .duplicateId .featureFlag,
    .duplicateFlagName, .valueType .boolean, .valueType .number, .valueType .string,
    .rolloutPercentage, .rolloutSum, .unknownProperty, .propertyType, .unknownSegment,
    .segmentCycle]

theorem mem_all (k : Kind) : k ∈ all := by
  cases k with
  | duplicateId d => cases d <;> decide
  | valueType t => cases t <;> decide
  | _ => decide

theorem apart (k l : Kind) (different : k ≠ l) : k.frame.Apart l.frame := by
  have all : ∀ k ∈ all, ∀ l ∈ all, k ≠ l → k.frame.Apart l.frame := by decide +kernel
  exact all k k.mem_all l l.mem_all different

end Kind

def kind : Violation → Kind
  | .schemaVersion _ => .schemaVersion
  | .duplicateId d _ => .duplicateId d
  | .duplicateFlagName _ => .duplicateFlagName
  | .valueType _ expected => .valueType expected
  | .rolloutPercentage .. => .rolloutPercentage
  | .rolloutSum .. => .rolloutSum
  | .unknownProperty _ => .unknownProperty
  | .propertyType .. => .propertyType
  | .unknownSegment _ => .unknownSegment
  | .segmentCycle _ => .segmentCycle

def ruleBody (flag : String) (rule : Nat) (finding : String) (d : Double) : List Char :=
  flag.toList ++ "' rule".toList ++ ' ' :: Nat.toDigits 10 rule ++ finding.toList ++
    ' ' :: d.display.toList

def body : Violation → List Char
  | .schemaVersion v => Nat.toDigits 10 v
  | .duplicateId _ id | .duplicateFlagName id | .valueType id _ | .unknownProperty id
  | .unknownSegment id | .segmentCycle id => id.toList
  | .rolloutPercentage id i p => ruleBody id i " has rollout percentage" p
  | .rolloutSum id i sum => ruleBody id i " rollout percentages sum to" sum
  | .propertyType id expected actual =>
    id.toList ++ "' to be".toList ++ ' ' :: expected.name.toList ++
      " but it is declared".toList ++ ' ' :: actual.name.toList

theorem toList_message (v : Violation) : v.message.toList = v.kind.frame.around v.body := by
  have expected : Decimal.text supportedSchemaVersion = "1" := by decide +kernel
  unfold message kind Kind.frame body ruleBody Frame.around
  cases v <;> simp [expected]

theorem eq_of_ruleBody {f g finding : String} {i j : Nat} {d e : Double}
    (same : ruleBody f i finding d = ruleBody g j finding e) : f = g ∧ i = j ∧ d.display = e.display := by
  obtain ⟨same, display⟩ := eq_of_lastWord same (space_not_mem_display d) (space_not_mem_display e)
  obtain ⟨same, rule⟩ := eq_of_lastWord (List.append_cancel_right same)
    (space_not_mem_toDigits i) (space_not_mem_toDigits j)
  exact ⟨String.toList_inj.1 (List.append_cancel_right same), eq_of_toDigits rule,
    String.toList_inj.1 display⟩

/-- The same violation, whatever the bits of a NaN in it. -/
inductive Alike : Violation → Violation → Prop
  | refl (v : Violation) : Alike v v
  | percentage : p.isNaN → q.isNaN →
    Alike (.rolloutPercentage flag i p) (.rolloutPercentage flag i q)
  | sum : p.isNaN → q.isNaN → Alike (.rolloutSum flag i p) (.rolloutSum flag i q)

theorem alike_of_body {v w : Violation} (kind : v.kind = w.kind) (same : v.body = w.body) :
    v.Alike w := by
  cases v <;> cases w <;> cases kind
  case schemaVersion.schemaVersion.refl v w => rw [eq_of_toDigits same]; exact .refl _
  case rolloutPercentage.rolloutPercentage.refl =>
    obtain ⟨rfl, rfl, display⟩ := eq_of_ruleBody same
    rcases Double.display_eq_iff.1 display with rfl | ⟨hp, hq⟩
    · exact .refl _
    · exact .percentage hp hq
  case rolloutSum.rolloutSum.refl =>
    obtain ⟨rfl, rfl, display⟩ := eq_of_ruleBody same
    rcases Double.display_eq_iff.1 display with rfl | ⟨hp, hq⟩
    · exact .refl _
    · exact .sum hp hq
  case propertyType.propertyType.refl id t u id' t' u' =>
    obtain ⟨same, actual⟩ := eq_of_lastWord same u.space_not_mem_name u'.space_not_mem_name
    obtain ⟨same, expected⟩ := eq_of_lastWord (List.append_cancel_right same)
      t.space_not_mem_name t'.space_not_mem_name
    obtain rfl : id = id' := String.toList_inj.1 (List.append_cancel_right same)
    obtain rfl := PropertyType.name_injective (String.toList_inj.1 actual)
    obtain rfl := PropertyType.name_injective (String.toList_inj.1 expected)
    exact .refl _
  all_goals
    rw [String.toList_inj.1 same]
    exact .refl _

/-- Violations are told apart by their messages. -/
theorem message_eq_iff {v w : Violation} : v.message = w.message ↔ v.Alike w := by
  constructor
  · intro same
    have framed : v.kind.frame.around v.body = w.kind.frame.around w.body := by
      rw [← toList_message, ← toList_message, same]
    obtain ⟨kind, body⟩ := Frame.eq_of_around Kind.apart framed
    exact alike_of_body kind body
  · rintro (_ | ⟨hp, hq⟩ | ⟨hp, hq⟩)
    · rfl
    · unfold message
      simp only [Double.display_eq_iff.2 (.inr ⟨hp, hq⟩)]
    · unfold message
      simp only [Double.display_eq_iff.2 (.inr ⟨hp, hq⟩)]

end Violation

namespace Offset

def Refusal.text : Refusal → String
  | form s | hours s | minutes s | range s => s

theorem Refusal.message_injective : Function.Injective message := by
  intro r r' same
  have same := congrArg String.toList same
  unfold message at same
  cases r <;> cases r' <;> simp at same
  all_goals rw [String.toList_inj.1 same]

theorem text_of_parse_eq_error {s : String} {r : Refusal} (h : parse s = .error r) : r.text = s := by
  unfold parse at h
  split at h
  · cases h
  split at h
  · split at h
    · split at h
      · cases h; rfl
      · cases h; rfl
      · dsimp only at h
        generalize (if _ = '-' then _ else _ : Int) = seconds at h
        split at h
        · cases h
        · cases h; rfl
    · cases h; rfl
  · cases h; rfl

/-- A text that is refused is told by the message. -/
theorem eq_of_refused {s t : String} {r r' : Refusal} (hs : parse s = .error r)
    (ht : parse t = .error r') (same : r.message = r'.message) : s = t := by
  rw [← text_of_parse_eq_error hs, ← text_of_parse_eq_error ht, Refusal.message_injective same]

end Offset

theorem Rejection.message?_eq_none_iff {r : Rejection} :
    r.message? = none ↔ ∃ f, r = .fault f := by
  cases r <;> simp [message?]

namespace Client

namespace TypeMismatch

theorem toList_message (m : TypeMismatch) : m.message.toList =
    "flag '".toList ++ m.flag.toList ++ "' is a".toList ++ ' ' :: m.actual.name.toList ++
      " flag but was evaluated as".toList ++ ' ' :: m.expected.name.toList := by
  simp [message]

theorem message_injective : Function.Injective message := by
  intro m n same
  have same := congrArg String.toList same
  rw [toList_message, toList_message] at same
  obtain ⟨same, expected⟩ := eq_of_lastWord same m.expected.space_not_mem_name
    n.expected.space_not_mem_name
  obtain ⟨same, actual⟩ := eq_of_lastWord (List.append_cancel_right same) m.actual.space_not_mem_name
    n.actual.space_not_mem_name
  have flag := List.append_cancel_left (List.append_cancel_right same)
  cases m
  cases n
  simp only [mk.injEq]
  exact ⟨String.toList_inj.1 flag, FlagType.name_injective (String.toList_inj.1 expected),
    FlagType.name_injective (String.toList_inj.1 actual)⟩

end TypeMismatch

section Duration

def amount (ms : Nat) : List Char :=
  if ms = 0 then ['0', 'n']
  else if ms < 1000 then Nat.toDigits 10 ms ++ ['m']
  else ((Decimal.trim ⟨ms, -3⟩).positional "").toList

theorem toList_durationText (ms : Nat) : (durationText ms).toList = amount ms ++ ['s'] := by
  unfold durationText amount
  split
  · rfl
  split <;> simp

section Unit

variable {n m : Nat} {d : Decimal}

theorem not_mem_positional {c : Char} (digit : c.isDigit = false) (point : c ≠ '.') :
    c ∉ (d.positional "").toList := fun there =>
  (d.mem_positional c there).elim (by simp [digit]) point

theorem nanos_ne_millis : ['0', 'n'] ≠ Nat.toDigits 10 n ++ ['m'] := by
  intro same
  have last := congrArg List.getLast? same
  simp at last

theorem nanos_ne_seconds : ['0', 'n'] ≠ (d.positional "").toList := by
  intro same
  have letter : 'n' ∈ (d.positional "").toList := by simp [← same]
  exact not_mem_positional (by decide) (by decide) letter

theorem millis_ne_seconds : Nat.toDigits 10 n ++ ['m'] ≠ (d.positional "").toList := by
  intro same
  have letter : 'm' ∈ (d.positional "").toList := by simp [← same]
  exact not_mem_positional (by decide) (by decide) letter

theorem eq_of_seconds
    (same : (Decimal.trim ⟨m, -3⟩).positional "" = (Decimal.trim ⟨n, -3⟩).positional "") :
    m = n := by
  have values := Decimal.value_eq_of_positional same
  rw [Decimal.value_trim, Decimal.value_trim, Decimal.value, Decimal.value] at values
  exact_mod_cast mul_right_cancel₀ (by positivity) values

end Unit

theorem amount_cases (ms : Nat) : (ms = 0 ∧ amount ms = ['0', 'n']) ∨
    amount ms = Nat.toDigits 10 ms ++ ['m'] ∨
    amount ms = ((Decimal.trim ⟨ms, -3⟩).positional "").toList := by
  unfold amount
  split
  · next zero => exact .inl ⟨zero, rfl⟩
  split
  · exact .inr (.inl rfl)
  · exact .inr (.inr rfl)

theorem amount_injective : Function.Injective amount := by
  intro m n same
  rcases amount_cases m with ⟨none, text⟩ | text | text <;>
    rcases amount_cases n with ⟨none', text'⟩ | text' | text' <;> rw [text, text'] at same
  · rw [none, none']
  · exact absurd same nanos_ne_millis
  · exact absurd same nanos_ne_seconds
  · exact absurd same.symm nanos_ne_millis
  · exact eq_of_toDigits (List.append_cancel_right same)
  · exact absurd same millis_ne_seconds
  · exact absurd same.symm nanos_ne_seconds
  · exact absurd same.symm millis_ne_seconds
  · exact eq_of_seconds (String.toList_inj.1 same)

theorem durationText_injective : Function.Injective durationText := by
  intro m n same
  have same := congrArg String.toList same
  rw [toList_durationText, toList_durationText] at same
  exact amount_injective (List.append_cancel_right same)

end Duration

namespace LoadError

/-- The same error, whatever the bits of a NaN in it. -/
inductive Alike : LoadError → LoadError → Prop
  | refl (e : LoadError) : Alike e e
  | violation : v.Alike w → Alike (.invalid (.violation v)) (.invalid (.violation w))

theorem message?_eq_none_iff {e : LoadError} : e.message? = none ↔ ∃ f, e = .invalid (.fault f) := by
  cases e <;> simp [message?, Rejection.message?_eq_none_iff]

/-- Errors that have messages are told apart by them. -/
theorem alike_of_message? {e f : LoadError} {m : String} (he : e.message? = some m)
    (hf : f.message? = some m) : e.Alike f := by
  have same := congrArg (Option.map String.toList) (he.trans hf.symm)
  rcases e with _ | _ | _ | _ | (_ | _) <;> rcases f with _ | _ | _ | _ | (_ | _) <;>
    unfold message? Rejection.message? at he hf same <;> simp at he hf same
  case loader.loader => rw [String.toList_inj.1 same]; exact .refl _
  case panicked.panicked => exact .refl _
  case timeout.timeout =>
    rw [durationText_injective (String.toList_inj.1 same)]
    exact .refl _
  case contractViolation.contractViolation => exact .refl _
  case invalid.violation.invalid.violation =>
    exact .violation (Violation.message_eq_iff.1 (String.toList_inj.1 same))

end LoadError

namespace LoadFailure

theorem message?_eq_none_iff {f : LoadFailure} :
    f.message? = none ↔ ∃ fault, f.last = .invalid (.fault fault) := by
  simp [message?, LoadError.message?_eq_none_iff]

theorem toList_of_message? {f : LoadFailure} {m : String} (h : f.message? = some m) :
    ∃ last, f.last.message? = some last ∧
      m.toList = "failed to load a specification after ".toList ++
        (Nat.toDigits 10 f.attempts ++ (" attempt(s): ".toList ++ last.toList)) := by
  obtain ⟨last, ended, rfl⟩ := Option.map_eq_some_iff.1 h
  exact ⟨last, ended, by simp⟩

/-- Failures that have messages are told apart by them. -/
theorem alike_of_message? {f g : LoadFailure} {m : String} (hf : f.message? = some m)
    (hg : g.message? = some m) : f.attempts = g.attempts ∧ f.last.Alike g.last := by
  obtain ⟨last, ended, text⟩ := toList_of_message? hf
  obtain ⟨last', ended', text'⟩ := toList_of_message? hg
  have same := List.append_cancel_left (text.symm.trans text')
  -- a number ends where the digits do
  have stops {cs : List Char} : Stops Char.isDigit (" attempt(s): ".toList ++ cs) :=
    stops_cons (by decide)
  have attempts := congrArg (List.takeWhile Char.isDigit) same
  rw [takeWhile_append_of_stops isDigit_of_mem_toDigits stops,
    takeWhile_append_of_stops isDigit_of_mem_toDigits stops] at attempts
  rw [attempts] at same
  obtain rfl : last = last' :=
    String.toList_inj.1 (List.append_cancel_left (List.append_cancel_left same))
  exact ⟨eq_of_toDigits attempts, LoadError.alike_of_message? ended ended'⟩

end LoadFailure

end Client

end FeatureFlags
