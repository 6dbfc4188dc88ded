import FeatureFlags.Rollout

/-!
The hash of texts, over the natural numbers. Words of 32 bits compute it exactly: they wrap around in
products alone, and folding takes the remainder even where the modulus is no word. Every step can be
undone, so a single byte of an encoding that is changed always shows in the hash.
-/

namespace FeatureFlags.Hash

def bytes (s : String) : List UInt8 := s.toUTF8.data.toList

def offsetBasis : Nat := 2166136261

def prime : Nat := 16777619

def fnv1a (input : List UInt8) : Nat :=
  input.foldl (fun hash byte => (hash ^^^ byte.toNat) * prime % UInt32.size) offsetBasis

def fit? (n : Nat) : Option Nat := if n < UInt32.size then some n else none

/-- A step that may wrap around in its product alone. -/
def mix? (hash : Nat) (byte : UInt8) : Option Nat := do
  let mixed ← fit? (hash ^^^ byte.toNat)
  return mixed * prime % UInt32.size

def within? (greatest : Nat) (input : List UInt8) : Option Nat := do
  let hash ← input.foldlM mix? offsetBasis
  if greatest + 1 = UInt32.size then return hash
  let modulus ← fit? (greatest + 1)
  if modulus = 0 then none else return hash % modulus

inductive DifferAtOne : List α → List α → Prop
  | here : a ≠ b → DifferAtOne (a :: as) (b :: as)
  | later : DifferAtOne as bs → DifferAtOne (a :: as) (a :: bs)

theorem fit?_of_lt {n : Nat} (h : n < UInt32.size) : fit? n = some n := if_pos h

section Step

variable {g h : UInt32} {a b : UInt8}

theorem toNat_xor (h : UInt32) (b : UInt8) :
    (h ^^^ b.toUInt32).toNat = h.toNat ^^^ b.toNat := by
  rw [UInt32.toNat_xor, UInt8.toNat_toUInt32]

theorem toNat_mix (h : UInt32) (b : UInt8) :
    (mix h b).toNat = (h.toNat ^^^ b.toNat) * prime % UInt32.size := by
  rw [mix, UInt32.toNat_mul, toNat_xor]
  rfl

theorem mix?_toNat (h : UInt32) (b : UInt8) : mix? h.toNat b = some (mix h b).toNat := by
  have fits : h.toNat ^^^ b.toNat < UInt32.size := toNat_xor h b ▸ UInt32.toNat_lt_size _
  rw [mix?, fit?_of_lt fits, toNat_mix]
  rfl

theorem mul_prime_inj : g * 0x01000193 = h * 0x01000193 ↔ g = h := by
  refine ⟨fun same => ?_, fun same => same ▸ rfl⟩
  have inverse : (0x01000193 : UInt32) * 0x359C449B = 1 := by decide
  have undo (x : UInt32) : x * 0x01000193 * 0x359C449B = x := by
    rw [UInt32.mul_assoc, inverse, UInt32.mul_one]
  calc
    g = g * 0x01000193 * 0x359C449B := (undo g).symm
    _ = h * 0x01000193 * 0x359C449B := by rw [same]
    _ = h := undo h

theorem mix_left_inj : mix g b = mix h b ↔ g = h := by
  rw [mix, mix, mul_prime_inj, UInt32.xor_left_inj]

theorem mix_right_inj : mix h a = mix h b ↔ a = b := by
  rw [mix, mix, mul_prime_inj, UInt32.xor_right_inj, UInt8.toUInt32_inj]

end Step

section Run

variable {g h : UInt32} {as bs : List UInt8}

theorem toNat_ofText (s : String) : (ofText s).toNat = fnv1a (bytes s) := by
  rw [fnv1a, ofText, ← bytes]
  exact (List.foldl_hom UInt32.toNat fun h b => (toNat_mix h b).symm).symm

theorem foldlM_mix? (as : List UInt8) (h : UInt32) :
    as.foldlM mix? h.toNat = some (as.foldl mix h).toNat := by
  induction as generalizing h with
  | nil => rfl
  | cons a as ih =>
    rw [List.foldlM_cons, mix?_toNat, List.foldl_cons, ← ih]
    rfl

theorem foldl_mix_inj : as.foldl mix g = as.foldl mix h ↔ g = h := by
  induction as generalizing g h with
  | nil => rfl
  | cons a as ih => rw [List.foldl_cons, List.foldl_cons, ih, mix_left_inj]

theorem DifferAtOne.foldl_mix_ne (differ : DifferAtOne as bs) (h : UInt32) :
    as.foldl mix h ≠ bs.foldl mix h := by
  induction differ generalizing h with
  | here other => exact fun same => other (mix_right_inj.1 (foldl_mix_inj.1 same))
  | later _ ih => exact ih _

end Run

section Fold

variable {greatest : UInt32}

theorem add_one_eq_zero_iff : greatest + 1 = 0 ↔ greatest.toNat + 1 = UInt32.size := by
  have := greatest.toNat_lt_size
  rw [← UInt32.toNat_inj, UInt32.toNat_add]
  change (greatest.toNat + 1) % UInt32.size = 0 ↔ _
  unfold UInt32.size at *
  omega

theorem toNat_add_one (inside : greatest + 1 ≠ 0) : (greatest + 1).toNat = greatest.toNat + 1 := by
  have := greatest.toNat_lt_size
  rw [ne_eq, add_one_eq_zero_iff] at inside
  rw [UInt32.toNat_add]
  exact Nat.mod_eq_of_lt (by omega : greatest.toNat + 1 < UInt32.size)

theorem within_of_whole (whole : greatest.toNat + 1 = UInt32.size) (s : String) :
    within greatest s = ofText s := if_pos (add_one_eq_zero_iff.2 whole)

theorem toNat_within (greatest : UInt32) (s : String) :
    (within greatest s).toNat = (ofText s).toNat % (greatest.toNat + 1) := by
  by_cases whole : greatest + 1 = 0
  · have whole := add_one_eq_zero_iff.1 whole
    rw [within_of_whole whole, whole]
    exact (Nat.mod_eq_of_lt (ofText s).toNat_lt_size).symm
  · rw [within, if_neg whole, UInt32.toNat_mod, toNat_add_one whole]

theorem toNat_within_le (greatest : UInt32) (s : String) :
    (within greatest s).toNat ≤ greatest.toNat := by
  rw [toNat_within]
  exact Nat.le_of_lt_succ (Nat.mod_lt _ (Nat.succ_pos _))

theorem within?_toNat (greatest : UInt32) (s : String) :
    within? greatest.toNat (bytes s) = some (within greatest s).toNat := by
  have hash : (bytes s).foldlM mix? offsetBasis = some (ofText s).toNat :=
    foldlM_mix? (bytes s) 0x811C9DC5
  rw [within?, hash, Option.bind_eq_bind, Option.bind_some]
  split
  · next whole =>
    rw [within_of_whole whole]
    rfl
  · next inside =>
    have := greatest.toNat_lt_size
    have fits : greatest.toNat + 1 < UInt32.size := by omega
    rw [fit?_of_lt fits, Option.bind_some, if_neg (Nat.succ_ne_zero _), toNat_within]
    rfl

end Fold

structure FoldsExactly (greatest : UInt32) (s : String) : Prop where
  unfolded : (ofText s).toNat = fnv1a (bytes s)
  folded : (within greatest s).toNat = fnv1a (bytes s) % (greatest.toNat + 1)
  whole : greatest.toNat + 1 = UInt32.size → within greatest s = ofText s
  atMost : within greatest s ≤ greatest
  noOverflow : within? greatest.toNat (bytes s) = some (within greatest s).toNat

theorem foldsExactly (greatest : UInt32) (s : String) : FoldsExactly greatest s where
  unfolded := toNat_ofText s
  folded := by rw [toNat_within, toNat_ofText]
  whole h := within_of_whole h s
  atMost := UInt32.le_iff_toNat_le.2 (toNat_within_le greatest s)
  noOverflow := within?_toNat greatest s

/-- The hash of every text is exact, into whichever range it is folded, and the hashes of texts whose
encodings differ in a single byte differ. -/
theorem exact_and_separating : (∀ greatest s, FoldsExactly greatest s) ∧
    ∀ s t, DifferAtOne (bytes s) (bytes t) → ofText s ≠ ofText t :=
  ⟨foldsExactly, fun _ _ differ => differ.foldl_mix_ne _⟩

theorem separating_accents :
    DifferAtOne (bytes "née") (bytes "nèe") ∧ ofText "née" ≠ ofText "nèe" := by
  have acute : bytes "née" = [0x6E, 0xC3, 0xA9, 0x65] := by decide
  have grave : bytes "nèe" = [0x6E, 0xC3, 0xA8, 0x65] := by decide
  have differ : DifferAtOne (bytes "née") (bytes "nèe") := by
    rw [acute, grave]
    exact .later (.later (.here (by decide)))
  exact ⟨differ, exact_and_separating.2 _ _ differ⟩

example : ofText "foobar" = 0xBF9CF968 ∧ within 10000 "foobar" = 0xBF9CF968 % 10001 := by decide

end FeatureFlags.Hash
