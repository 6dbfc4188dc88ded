import FeatureFlags.Proofs.Json.Numeral
import FeatureFlags.Proofs.Json.Quote

/-!
The text that a value is written as, compact or indented, is read back as its fragment. Both layouts
follow one grammar, in which blanks may stand around the parts of arrays and objects.
-/

namespace FeatureFlags.Json

open Read

def Blank (cs : List Char) : Prop := ∀ c ∈ cs, isBlank c

instance {cs : List Char} : Decidable (Blank cs) :=
  List.decidableBAll (isBlank ·) cs

section Read

variable {f : Fragment} {b cs rest : List Char} {n : Nat}

theorem eq_of_isBlank {c : Char} (h : isBlank c) : c = ' ' ∨ c = '\t' ∨ c = '\n' ∨ c = '\r' := by
  simpa [isBlank, or_assoc] using h

theorem skip_append (blank : Blank b) : skip (b ++ cs) = skip cs :=
  List.dropWhile_append_of_pos blank

theorem skip_cons {c : Char} (other : isBlank c = false) : skip (c :: cs) = c :: cs :=
  List.dropWhile_cons_of_neg (by simp [other])

theorem skip_skip (cs : List Char) : skip (skip cs) = skip cs := by
  induction cs with
  | nil => rfl
  | cons c cs ih =>
    by_cases blank : isBlank c
    · rwa [skip, skip, List.dropWhile_cons_of_pos blank]
    · rw [skip, skip, List.dropWhile_cons_of_neg blank, List.dropWhile_cons_of_neg blank]

theorem value_skip (n : Nat) (cs : List Char) : value n (skip cs) = value n cs := by
  cases n with
  | zero => rfl
  | succ n =>
    unfold value
    rw [skip_skip]

theorem items_skip (n : Nat) (cs : List Char) : items n (skip cs) = items n cs := by
  cases n with
  | zero => rfl
  | succ n =>
    unfold items
    rw [value_skip]

theorem value_append (blank : Blank b) : value n (b ++ cs) = value n cs := by
  rw [← value_skip, skip_append blank, value_skip]

theorem value_of_scalar (h : scalar cs = (f, some rest)) : value (n + 1) cs = (f, some rest) := by
  have same : skip cs = cs := by
    cases cs with
    | nil => rfl
    | cons c cs =>
      apply skip_cons
      rw [Bool.eq_false_iff]
      intro blank
      obtain rfl | rfl | rfl | rfl := eq_of_isBlank blank <;>
        simp [scalar, number?, whole?, digits?] at h
  unfold value
  rw [same]
  split
  · simp [scalar, number?, whole?, digits?] at h
  · simp [scalar, number?, whole?, digits?] at h
  · exact h

theorem skip_ne_bracket {fs : List Fragment} (h : items n cs = (fs, some rest)) (more : List Char) :
    skip cs ≠ ']' :: more := by
  intro bracket
  rw [← items_skip, bracket] at h
  cases n with
  | zero => cases h
  | succ n =>
    unfold items at h
    cases n with
    | zero => simp [value] at h
    | succ n =>
      have none : scalar (']' :: more) = (.cut, none) := by
        simp [scalar, number?, whole?, digits?]
      simp [value, skip, isBlank, none] at h

theorem items_of_bracket {cs' : List Char} (first : value n cs = (f, some cs'))
    (next : skip cs' = ']' :: rest) : items (n + 1) cs = ([f], some rest) := by
  simp [items, first, next]

theorem items_of_comma {cs' more : List Char} {fs : List Fragment}
    (first : value n cs = (f, some cs')) (next : skip cs' = ',' :: more)
    (others : items n more = (fs, some rest)) : items (n + 1) cs = (f :: fs, some rest) := by
  have other := skip_ne_bracket others
  rw [← items_skip] at others
  simp only [items, first, next, others]

theorem value_of_items {more : List Char} {fs : List Fragment} (open_ : skip cs = '[' :: more)
    (others : items n more = (fs, some rest)) : value (n + 1) cs = (.array fs true, some rest) := by
  have other := skip_ne_bracket others
  rw [← items_skip] at others
  simp only [value, open_, others]
  rfl

section Members

variable {key : Option String} {cs₁ cs₂ cs₃ cs₄ cs₅ : List Char}
  {ms : List (Option String × Fragment)} (name : stringBody cs = some (key, cs₁))
  (colon : skip cs₁ = ':' :: cs₂) (first : value n cs₂ = (f, some cs₃))
include name colon first

theorem members_of_brace (next : skip cs₃ = '}' :: rest) :
    members (n + 1) cs = ([(key, f)], some rest) := by
  simp [members, name, colon, first, next]

theorem members_of_comma (next : skip cs₃ = ',' :: cs₄) (quote : skip cs₄ = '"' :: cs₅)
    (others : members n cs₅ = (ms, some rest)) :
    members (n + 1) cs = ((key, f) :: ms, some rest) := by
  simp [members, name, colon, first, next, quote, others]

end Members

theorem value_of_members {cs₁ cs₂ : List Char} {ms : List (Option String × Fragment)}
    (brace : skip cs = '{' :: cs₁) (quote : skip cs₁ = '"' :: cs₂)
    (others : members n cs₂ = (ms, some rest)) :
    value (n + 1) cs = (.object ms true, some rest) := by
  simp [value, brace, quote, others]

end Read

/-- A text that says a fragment, whatever follows that is not part of a number. It has no more tokens
than characters. -/
def Says (f : Fragment) (cs : List Char) : Prop :=
  ∀ ⦃n rest⦄, cs.length < n → Stops isNumeral rest → value n (cs ++ rest) = (f, some rest)

def SaysItems (fs : List Fragment) (cs : List Char) : Prop :=
  ∀ ⦃n rest⦄, cs.length < n → items n (cs ++ rest) = (fs, some rest)

def SaysMembers (ms : List (Option String × Fragment)) (cs : List Char) : Prop :=
  ∀ ⦃n rest⦄, cs.length < n → members n (cs ++ rest) = (ms, some rest)

theorem blank_nil : Blank [] := by
  intro c hc
  cases hc

theorem Blank.append {b b' : List Char} (h : Blank b) (h' : Blank b') : Blank (b ++ b') := by
  intro c hc
  rcases List.mem_append.1 hc with hc | hc
  · exact h c hc
  · exact h' c hc

theorem Blank.stops {b rest : List Char} {c : Char} (blank : Blank b) (stop : isNumeral c = false) :
    Stops isNumeral (b ++ c :: rest) := by
  cases b with
  | nil => exact stops_cons stop
  | cons d b =>
    apply stops_cons
    obtain rfl | rfl | rfl | rfl := eq_of_isBlank (blank d List.mem_cons_self) <;> decide

section Says

variable {f : Fragment} {fs : List Fragment} {ms : List (Option String × Fragment)}
  {b cs cs' : List Char}

theorem Says.blank (h : Says f cs) (blank : Blank b) : Says f (b ++ cs) := by
  intro n rest fuel stops
  rw [List.length_append] at fuel
  rw [List.append_assoc, value_append blank]
  exact h (by omega) stops

theorem Says.of_scalar
    (h : ∀ {rest}, Stops isNumeral rest → scalar (cs ++ rest) = (f, some rest)) : Says f cs := by
  intro n rest fuel stops
  obtain ⟨n, rfl⟩ : ∃ k, n = k + 1 := ⟨n - 1, by omega⟩
  exact value_of_scalar (h stops)

theorem Says.last_item (h : Says f cs) (blank : Blank b) : SaysItems [f] (cs ++ (b ++ [']'])) := by
  intro n rest fuel
  obtain ⟨n, rfl⟩ : ∃ k, n = k + 1 := ⟨n - 1, by omega⟩
  simp only [List.length_append, List.length_singleton] at fuel
  rw [List.append_assoc, List.append_assoc]
  apply items_of_bracket (h (by omega) (blank.stops (by decide)))
  rw [skip_append blank]
  exact skip_cons (by decide)

theorem Says.item (h : Says f cs) (more : SaysItems fs cs') :
    SaysItems (f :: fs) (cs ++ ',' :: cs') := by
  intro n rest fuel
  obtain ⟨n, rfl⟩ : ∃ k, n = k + 1 := ⟨n - 1, by omega⟩
  simp only [List.length_append, List.length_cons] at fuel
  rw [List.append_assoc]
  exact items_of_comma (h (by omega) (stops_cons (by decide))) (skip_cons (by decide))
    (more (by omega))

theorem SaysItems.array (h : SaysItems fs cs) : Says (.array fs true) ('[' :: cs) := by
  intro n rest fuel _
  obtain ⟨n, rfl⟩ : ∃ k, n = k + 1 := ⟨n - 1, by omega⟩
  rw [List.length_cons] at fuel
  exact value_of_items (skip_cons (by decide)) (h (by omega))

theorem Says.empty_array (blank : Blank b) : Says (.array [] true) ('[' :: (b ++ [']'])) := by
  intro n rest fuel _
  obtain ⟨n, rfl⟩ : ∃ k, n = k + 1 := ⟨n - 1, by omega⟩
  have close : skip (b ++ ']' :: rest) = ']' :: rest := by
    rw [skip_append blank]
    exact skip_cons (by decide)
  simp [value, skip_cons, isBlank, close]

theorem Says.last_member {k : String} (h : Says f cs) (blank : Blank b) :
    SaysMembers [(some k, f)]
      (k.toList.flatMap escape ++ '"' :: ':' :: (cs ++ (b ++ ['}']))) := by
  intro n rest fuel
  obtain ⟨n, rfl⟩ : ∃ k, n = k + 1 := ⟨n - 1, by omega⟩
  simp only [List.length_append, List.length_cons] at fuel
  simp only [List.append_assoc, List.cons_append]
  apply members_of_brace (stringBody_quote k _) (skip_cons (by decide))
    (h (by omega) (blank.stops (by decide)))
  rw [skip_append blank]
  exact skip_cons (by decide)

theorem Says.member {k : String} (h : Says f cs) (blank : Blank b)
    (more : SaysMembers ms cs') : SaysMembers ((some k, f) :: ms)
      (k.toList.flatMap escape ++ '"' :: ':' :: (cs ++ ',' :: (b ++ '"' :: cs'))) := by
  intro n rest fuel
  obtain ⟨n, rfl⟩ : ∃ k, n = k + 1 := ⟨n - 1, by omega⟩
  simp only [List.length_append, List.length_cons] at fuel
  simp only [List.append_assoc, List.cons_append]
  have quote : skip (b ++ '"' :: (cs' ++ rest)) = '"' :: (cs' ++ rest) := by
    rw [skip_append blank]
    exact skip_cons (by decide)
  exact members_of_comma (stringBody_quote k _) (skip_cons (by decide))
    (h (by omega) (stops_cons (by decide))) (skip_cons (by decide)) quote (more (by omega))

theorem SaysMembers.object (h : SaysMembers ms cs) (blank : Blank b) :
    Says (.object ms true) ('{' :: (b ++ '"' :: cs)) := by
  intro n rest fuel _
  obtain ⟨n, rfl⟩ : ∃ k, n = k + 1 := ⟨n - 1, by omega⟩
  simp only [List.length_append, List.length_cons] at fuel
  have quote : skip (b ++ '"' :: cs ++ rest) = '"' :: (cs ++ rest) := by
    rw [List.append_assoc, skip_append blank]
    exact skip_cons (by decide)
  exact value_of_members (skip_cons (by decide)) quote (h (by omega))

theorem Says.empty_object (blank : Blank b) :
    Says (.object [] true) ('{' :: (b ++ ['}'])) := by
  intro n rest fuel _
  obtain ⟨n, rfl⟩ : ∃ k, n = k + 1 := ⟨n - 1, by omega⟩
  have close : skip (b ++ '}' :: rest) = '}' :: rest := by
    rw [skip_append blank]
    exact skip_cons (by decide)
  simp [value, skip_cons, isBlank, close]

theorem SaysItems.blank (h : SaysItems fs cs) (blank : Blank b) : SaysItems fs (b ++ cs) := by
  intro n rest fuel
  rw [List.length_append] at fuel
  rw [List.append_assoc, ← items_skip, skip_append blank, items_skip]
  exact h (by omega)

end Says

section Layout

variable {f : Fragment} {fs : List Fragment} {m : Option String × Fragment}
  {ms : List (Option String × Fragment)} {b b' b'' : List Char} {texts : List (List Char)}

def SaysMember (m : Option String × Fragment) (cs : List Char) : Prop :=
  ∃ k text, m.1 = some k ∧ Says m.2 text ∧
    cs = '"' :: (k.toList.flatMap escape ++ '"' :: ':' :: text)

theorem SaysItems.intercalate (parts : List.Forall₂ Says (f :: fs) texts) (blank : Blank b)
    (blank' : Blank b') : SaysItems (f :: fs) ((',' :: b).intercalate texts ++ (b' ++ [']'])) := by
  induction fs generalizing f texts with
  | nil =>
    obtain _ | ⟨first, ⟨⟩⟩ := parts
    rw [List.intercalate_singleton]
    exact first.last_item blank'
  | cons g fs ih =>
    obtain _ | ⟨first, _ | ⟨second, others⟩⟩ := parts
    rw [List.intercalate_cons_cons, List.append_assoc, List.append_assoc]
    exact first.item ((ih (.cons second others)).blank blank)

theorem exists_members (parts : List.Forall₂ SaysMember (m :: ms) texts) (blank : Blank b)
    (blank' : Blank b') : ∃ cs, SaysMembers (m :: ms) cs ∧
      (',' :: b).intercalate texts ++ (b' ++ ['}']) = '"' :: cs := by
  induction ms generalizing m texts with
  | nil =>
    obtain _ | ⟨⟨k, text, key, value, rfl⟩, ⟨⟩⟩ := parts
    obtain ⟨_, f⟩ := m
    cases key
    exact ⟨_, value.last_member blank', by simp⟩
  | cons m' ms ih =>
    obtain _ | ⟨⟨k, text, key, value, rfl⟩, _ | ⟨second, others⟩⟩ := parts
    obtain ⟨_, f⟩ := m
    cases key
    obtain ⟨cs, members, same⟩ := ih (.cons second others)
    refine ⟨_, value.member blank members, ?_⟩
    rw [List.intercalate_cons_cons, List.append_assoc, List.append_assoc, same]
    simp

theorem Says.array (parts : List.Forall₂ Says fs texts) (blank : Blank b) (blank' : Blank b')
    (blank'' : Blank b'') : Says (.array fs true)
      ('[' :: (b ++ ((',' :: b').intercalate texts ++ (b'' ++ [']'])))) := by
  cases fs with
  | nil =>
    cases parts
    rw [List.intercalate_nil, List.nil_append, ← List.append_assoc]
    exact Says.empty_array (blank.append blank'')
  | cons f fs => exact ((SaysItems.intercalate parts blank' blank'').blank blank).array

theorem Says.object (parts : List.Forall₂ SaysMember ms texts) (blank : Blank b)
    (blank' : Blank b') (blank'' : Blank b'') : Says (.object ms true)
      ('{' :: (b ++ ((',' :: b').intercalate texts ++ (b'' ++ ['}'])))) := by
  cases ms with
  | nil =>
    cases parts
    rw [List.intercalate_nil, List.nil_append, ← List.append_assoc]
    exact Says.empty_object (blank.append blank'')
  | cons m ms =>
    obtain ⟨cs, members, same⟩ := exists_members parts blank' blank''
    rw [same]
    exact members.object blank

end Layout

end FeatureFlags.Json
