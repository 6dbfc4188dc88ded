namespace FeatureFlags.Unicode

/-- Nothing below the first bound belongs to the set, and membership changes at each bound. -/
structure CharSet where
  bounds : List Nat
  ascending : bounds.Pairwise (· ≤ ·)

namespace CharSet

def holds (inside : Bool) : List Nat → Nat → Bool
  | [], _ => inside
  | b :: bs, n => if n < b then inside else holds (!inside) bs n

def contains (s : CharSet) (c : Char) : Bool := holds false s.bounds c.toNat

theorem holds_of_lt {bs : List Nat} (h : ∀ b ∈ bs, n < b) : holds a bs n = a := by
  cases bs with
  | nil => rfl
  | cons b bs => simp [holds, h b (by simp)]

def empty : CharSet := ⟨[], .nil⟩

def range (lo hi : Nat) : CharSet :=
  if h : lo ≤ hi then ⟨[lo, hi + 1], by simp; omega⟩ else empty

def single (c : Char) : CharSet := range c.toNat c.toNat

def isEmpty (s : CharSet) : Bool := s.bounds.isEmpty

def isSingle (s : CharSet) : Bool :=
  match s.bounds with
  | [lo, stop] => stop == lo + 1
  | _ => false

@[simp] theorem contains_empty (c : Char) : empty.contains c = false := rfl

theorem contains_range (lo hi : Nat) (c : Char) :
    (range lo hi).contains c = (decide (lo ≤ c.toNat) && decide (c.toNat ≤ hi)) := by
  unfold range
  split
  · simp only [contains, holds]; grind
  · simp only [contains_empty]; grind

def changeAt (x : Nat) (before after : Bool) (bs : List Nat) : List Nat :=
  if before == after then bs else x :: bs

theorem mem_changeAt (h : n ∈ changeAt x before after bs) : n = x ∨ n ∈ bs := by
  grind [changeAt]

theorem pairwise_changeAt (hx : ∀ b ∈ bs, x ≤ b) (h : bs.Pairwise (· ≤ ·)) :
    (changeAt x before after bs).Pairwise (· ≤ ·) := by
  unfold changeAt
  split
  · exact h
  · exact .cons hx h

theorem holds_changeAt (hx : ∀ b ∈ bs, x ≤ b) :
    holds before (changeAt x before after bs) n = if n < x then before else holds after bs n := by
  unfold changeAt
  split
  · next h =>
    obtain rfl : before = after := by simpa using h
    split
    · exact holds_of_lt fun b hb => by have := hx b hb; omega
    · rfl
  · next h =>
    obtain rfl : after = !before := by cases before <;> cases after <;> simp_all
    rfl

def sweep (op : Bool → Bool → Bool) (a b : Bool) : List Nat → List Nat → List Nat
  | [], [] => []
  | x :: xs, [] => changeAt x (op a b) (op (!a) b) (sweep op (!a) b xs [])
  | [], y :: ys => changeAt y (op a b) (op a (!b)) (sweep op a (!b) [] ys)
  | x :: xs, y :: ys =>
    if x < y then changeAt x (op a b) (op (!a) b) (sweep op (!a) b xs (y :: ys))
    else if y < x then changeAt y (op a b) (op a (!b)) (sweep op a (!b) (x :: xs) ys)
    else changeAt x (op a b) (op (!a) (!b)) (sweep op (!a) (!b) xs ys)
  termination_by xs ys => xs.length + ys.length

theorem mem_sweep (h : n ∈ sweep op a b xs ys) : n ∈ xs ∨ n ∈ ys := by
  fun_induction sweep op a b xs ys <;> grind [mem_changeAt]

theorem pairwise_sweep (hx : xs.Pairwise (· ≤ ·)) (hy : ys.Pairwise (· ≤ ·)) :
    (sweep op a b xs ys).Pairwise (· ≤ ·) := by
  fun_induction sweep op a b xs ys
  case case1 => exact .nil
  all_goals
    simp only [List.pairwise_cons] at hx hy
    refine pairwise_changeAt (fun n hn => ?_) ?_ <;> grind [→ mem_sweep, List.pairwise_cons]

theorem holds_sweep (op : Bool → Bool → Bool) (a b : Bool) (n : Nat)
    (hx : xs.Pairwise (· ≤ ·)) (hy : ys.Pairwise (· ≤ ·)) :
    holds (op a b) (sweep op a b xs ys) n = op (holds a xs n) (holds b ys n) := by
  fun_induction sweep op a b xs ys
  case case1 => rfl
  all_goals
    simp only [List.pairwise_cons] at hx hy
    rw [holds_changeAt (by grind [→ mem_sweep])]
    grind [holds, List.pairwise_cons]

def combine (op : Bool → Bool → Bool) (s t : CharSet) : CharSet :=
  ⟨sweep op false false s.bounds t.bounds, pairwise_sweep s.ascending t.ascending⟩

theorem contains_combine (h : op false false = false) (s t : CharSet) (c : Char) :
    (combine op s t).contains c = op (s.contains c) (t.contains c) := by
  have := holds_sweep op false false c.toNat s.ascending t.ascending
  rwa [h] at this

def all : CharSet := ⟨[0, 0xD800, 0xE000, 0x110000], by simp⟩

def union (s t : CharSet) : CharSet := combine (· || ·) s t

def inter (s t : CharSet) : CharSet := combine (· && ·) s t

def diff (s t : CharSet) : CharSet := combine (· && !·) s t

def symmDiff (s t : CharSet) : CharSet := combine Bool.xor s t

def compl (s : CharSet) : CharSet := all.diff s

instance : Union CharSet := ⟨union⟩

@[simp] theorem contains_union (s t : CharSet) (c : Char) :
    (s ∪ t).contains c = (s.contains c || t.contains c) :=
  contains_combine rfl s t c

@[simp] theorem contains_inter (s t : CharSet) (c : Char) :
    (s.inter t).contains c = (s.contains c && t.contains c) :=
  contains_combine rfl s t c

@[simp] theorem contains_diff (s t : CharSet) (c : Char) :
    (s.diff t).contains c = (s.contains c && !t.contains c) :=
  contains_combine rfl s t c

@[simp] theorem contains_symmDiff (s t : CharSet) (c : Char) :
    (s.symmDiff t).contains c = (s.contains c).xor (t.contains c) :=
  contains_combine rfl s t c

@[simp] theorem contains_all (c : Char) : all.contains c = true := by
  have h := c.valid
  simp only [UInt32.isValidChar, Nat.isValidChar] at h
  simp only [contains, all, holds, Char.toNat]
  grind

@[simp] theorem contains_compl (s : CharSet) (c : Char) : s.compl.contains c = !s.contains c := by
  simp [compl]

def unions (sets : List CharSet) : CharSet := sets.foldl union empty

def ofString (s : String) : CharSet := unions (s.toList.map single)

def ranges (s : CharSet) : List (Nat × Nat) := go s.bounds
where
  go : List Nat → List (Nat × Nat)
    | lo :: hi :: bs => (lo, hi - 1) :: go bs
    | _ => []

def boundsFrom (n : Nat) : List (Nat × Nat) → List Nat
  | [] => []
  | (gap, more) :: rs => (n + gap) :: (n + gap + more + 1) :: boundsFrom (n + gap + more + 1) rs

theorem le_of_mem_boundsFrom (h : b ∈ boundsFrom n rs) : n ≤ b := by
  fun_induction boundsFrom n rs <;> grind

theorem pairwise_boundsFrom (n : Nat) (rs : List (Nat × Nat)) :
    (boundsFrom n rs).Pairwise (· ≤ ·) := by
  fun_induction boundsFrom n rs with
  | case1 => exact .nil
  | case2 n gap more rs ih =>
    simp only [List.pairwise_cons, List.mem_cons]
    refine ⟨fun b hb => ?_, fun _ => le_of_mem_boundsFrom, ih⟩
    rcases hb with rfl | hb
    · omega
    · have := le_of_mem_boundsFrom hb
      omega

def ofRuns (rs : List (Nat × Nat)) : CharSet := ⟨boundsFrom 0 rs, pairwise_boundsFrom 0 rs⟩

def shift (d : Int) (s : CharSet) : CharSet :=
  ⟨s.bounds.map fun (b : Nat) => (b + d).toNat, s.ascending.map _ fun _ _ h => by omega⟩

end CharSet

end FeatureFlags.Unicode
