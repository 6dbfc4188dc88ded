import FeatureFlags.Proofs.Json.Grammar

namespace FeatureFlags.Json

open Read

theorem Says.null : Says .null "null".toList :=
  of_scalar fun {rest} _ => by simp [scalar, word, after?]

theorem Says.boolean (b : Bool) : Says (.boolean b) (if b then "true" else "false").toList :=
  of_scalar fun {rest} _ => by cases b <;> simp [scalar, word, after?]

theorem Says.string (s : String) : Says (.string s) (quote s).toList :=
  of_scalar fun {rest} _ => by simp [scalar, quote, stringBody_quote]

theorem Says.number {n : Number} (h : n.isLegible) : Says (.number n) n.text.toList :=
  of_scalar (n.scalar_of_isLegible h)

theorem Says.keyed {f : Fragment} {text : String} (h : Says f text.toList) (key : String) :
    SaysMember (some key, f) (quote key ++ ":" ++ text).toList :=
  ⟨key, text.toList, rfl, h, by simp [quote]⟩

theorem Says.keyed_spaced {f : Fragment} {text : String} (h : Says f text.toList) (key : String) :
    SaysMember (some key, f) (quote key ++ ": " ++ text).toList :=
  ⟨key, ' ' :: text.toList, rfl, Says.blank h (b := [' ']) (by decide), by simp [quote]⟩

mutual

def isLegible : Json → Bool
  | .number n => n.isLegible
  | .array items => areLegible items
  | .object members => haveLegible members
  | _ => true

def areLegible : List Json → Bool
  | [] => true
  | j :: js => j.isLegible && areLegible js

def haveLegible : List (String × Json) → Bool
  | [] => true
  | (_, j) :: ms => j.isLegible && haveLegible ms

end

mutual

theorem Says.compact : (j : Json) → j.isLegible → Says j.toFragment j.compact.toList
  | .null, _ => .null
  | .boolean b, _ => .boolean b
  | .number _, h => .number h
  | .string s, _ => .string s
  | .array js, h => by
    have text := Says.array (Says.compactItems js h) blank_nil blank_nil blank_nil
    simpa [Json.compact, toFragment, String.toList_intercalate] using text
  | .object ms, h => by
    have text := Says.object (Says.compactMembers ms h) blank_nil blank_nil blank_nil
    simpa [Json.compact, toFragment, String.toList_intercalate] using text

theorem Says.compactItems : (js : List Json) → areLegible js →
    List.Forall₂ Says (itemsToFragments js) ((Json.compactItems js).map String.toList)
  | [], _ => .nil
  | j :: js, h => by
    obtain ⟨first, rest⟩ := Bool.and_eq_true_iff.1 h
    exact .cons (Says.compact j first) (Says.compactItems js rest)

theorem Says.compactMembers : (ms : List (String × Json)) → haveLegible ms →
    List.Forall₂ SaysMember (membersToFragments ms) ((Json.compactMembers ms).map String.toList)
  | [], _ => .nil
  | (k, j) :: ms, h => by
    obtain ⟨first, rest⟩ := Bool.and_eq_true_iff.1 h
    exact .cons ((Says.compact j first).keyed k) (Says.compactMembers ms rest)

end

section Block

variable {indent : String} (blank : Blank indent.toList)
include blank

theorem blank_deeper : Blank (indent ++ "    ").toList := by
  rw [String.toList_append]
  exact blank.append (by decide)

theorem blank_line : Blank ('\n' :: indent.toList) := Blank.append (b := ['\n']) (by decide) blank

theorem Says.array_block {fs : List Fragment} {parts : List String}
    (h : List.Forall₂ Says fs (parts.map String.toList)) :
    Says (.array fs true) (block indent "[" "]" parts).toList := by
  unfold block
  split
  · next empty =>
    obtain rfl := List.isEmpty_iff.1 empty
    cases h
    exact Says.empty_array blank_nil
  · have inner := blank_line (blank_deeper blank)
    have text := Says.array h inner inner (blank_line blank)
    simpa [String.toList_intercalate] using text

theorem Says.object_block {ms : List (Option String × Fragment)} {parts : List String}
    (h : List.Forall₂ SaysMember ms (parts.map String.toList)) :
    Says (.object ms true) (block indent "\x7b" "\x7d" parts).toList := by
  unfold block
  split
  · next empty =>
    obtain rfl := List.isEmpty_iff.1 empty
    cases h
    exact Says.empty_object blank_nil
  · have inner := blank_line (blank_deeper blank)
    have text := Says.object h inner inner (blank_line blank)
    simpa [String.toList_intercalate] using text

end Block

mutual

theorem Says.pretty : (j : Json) → j.isLegible → ∀ {indent}, Blank indent.toList →
    Says j.toFragment (j.pretty indent).toList
  | .null, _, _, _ => .null
  | .boolean b, _, _, _ => .boolean b
  | .number _, h, _, _ => .number h
  | .string s, _, _, _ => .string s
  | .array js, h, _, blank =>
    Says.array_block blank (Says.prettyItems js h (blank_deeper blank))
  | .object ms, h, _, blank =>
    Says.object_block blank (Says.prettyMembers ms h (blank_deeper blank))

theorem Says.prettyItems : (js : List Json) → areLegible js → ∀ {indent}, Blank indent.toList →
    List.Forall₂ Says (itemsToFragments js) ((Json.prettyItems indent js).map String.toList)
  | [], _, _, _ => .nil
  | j :: js, h, _, blank => by
    obtain ⟨first, rest⟩ := Bool.and_eq_true_iff.1 h
    exact .cons (Says.pretty j first blank) (Says.prettyItems js rest blank)

theorem Says.prettyMembers : (ms : List (String × Json)) → haveLegible ms →
    ∀ {indent}, Blank indent.toList →
    List.Forall₂ SaysMember (membersToFragments ms)
      ((Json.prettyMembers indent ms).map String.toList)
  | [], _, _, _ => .nil
  | (k, j) :: ms, h, _, blank => by
    obtain ⟨first, rest⟩ := Bool.and_eq_true_iff.1 h
    exact .cons (Says.keyed_spaced (Says.pretty j first blank) k) (Says.prettyMembers ms rest blank)

end

theorem read_eq {f : Fragment} {text : String} (h : Says f text.toList) :
    read text = (f, some []) := by
  have fuel : text.toList.length < text.length + 1 := by
    rw [String.length_toList]
    exact Nat.lt_succ_self _
  have whole := h fuel stops_nil
  rwa [List.append_nil] at whole

theorem read_compact {j : Json} (h : j.isLegible) : read j.compact = (j.toFragment, some []) :=
  read_eq (Says.compact j h)

theorem read_pretty {j : Json} (h : j.isLegible) : read (j.pretty "") = (j.toFragment, some []) :=
  read_eq (Says.pretty j h blank_nil)

end FeatureFlags.Json
