import FeatureFlags.Json.Read

/-!
Decoders. A decoder walks a fragment in the order of the text and stops at the first fault: the text
stops being JSON, or it is JSON of the wrong shape.
-/

namespace FeatureFlags.Json

inductive Fault
  | malformed
  | schema
  deriving DecidableEq, Repr

inductive Medium
  | text (levels : Nat)
  | value
  | held
  deriving DecidableEq

abbrev Decoder (α : Type) := Medium → Fragment → Except Fault α

namespace Medium

def isText : Medium → Bool
  | .text _ => true
  | _ => false

def enter : Medium → Except Fault Medium
  | .text 0 => .error .malformed
  | .text (n + 1) => .ok (.text n)
  | m => .ok m

/-- The fault of a form that only text distinguishes from a wrong shape. -/
def misuse (m : Medium) : Fault := if m.isText then .malformed else .schema

end Medium

namespace Fragment

/-- The fault of a fragment of the wrong shape. A scalar is read to its end before it is refused. -/
def refusal : Fragment → Fault
  | .cut => .malformed
  | .overflow => .malformed
  | .malformedString => .malformed
  | _ => .schema

end Fragment

namespace Decoder

def closing (closed : Bool) : Except Fault Unit := if closed then .ok () else .error .malformed

def boolean : Decoder Bool
  | _, .boolean b => .ok b
  | _, f => .error f.refusal

def string : Decoder String
  | _, .string s => .ok s
  | _, f => .error f.refusal

def number : Decoder Double
  | _, .number n => .ok n.toDouble
  | _, f => .error f.refusal

def integer (least greatest : Int) : Decoder Int
  | _, .number (.integer i) => if least ≤ i && i ≤ greatest then .ok i else .error .schema
  | _, f => .error f.refusal

def natural (greatest : Nat) : Decoder Nat := fun m f =>
  (integer 0 greatest m f).map Int.toNat

def int64 : Decoder Int := integer (-0x8000000000000000) 0x7FFFFFFFFFFFFFFF

def optional (d : Decoder α) : Decoder (Option α)
  | _, .null => .ok none
  | m, f => (d m f).map some

def map (g : α → β) (d : Decoder α) : Decoder β := fun m f => (d m f).map g

def filterMap (g : α → Option β) (d : Decoder α) : Decoder β := fun m f => do
  match g (← d m f) with
  | some b => .ok b
  | none => .error .schema

def items (d : Decoder α) (m : Medium) : List Fragment → Except Fault (List α)
  | [] => .ok []
  | f :: fs => do return (← d m f) :: (← items d m fs)

def list (d : Decoder α) : Decoder (List α)
  | m, .array fs closed => do
    let xs ← items d (← m.enter) fs
    closing closed
    return xs
  | _, f => .error f.refusal

def members (d : Decoder α) (m : Medium) :
    List (Option String × Fragment) → Except Fault (List (String × α))
  | [] => .ok []
  | (none, _) :: _ => .error .malformed
  | (some k, f) :: ms => do return (k, ← d m f) :: (← members d m ms)

def object (d : Decoder α) : Decoder (List (String × α))
  | m, .object ms closed => do
    let xs ← members d (← m.enter) ms
    closing closed
    return xs
  | _, .misplaced _ => .error .malformed
  | _, f => .error f.refusal

mutual

def hold : Decoder Unit
  | m, .array fs closed => do
    holdItems (← m.enter) fs
    closing closed
  | m, .object ms closed => do
    holdMembers (← m.enter) ms
    closing closed
  | _, .misplaced _ => .error .malformed
  | _, .cut => .error .malformed
  | _, .overflow => .error .malformed
  | _, .malformedString => .error .malformed
  | _, _ => .ok ()

def holdItems (m : Medium) : List Fragment → Except Fault Unit
  | [] => .ok ()
  | f :: fs => do
    hold m f
    holdItems m fs

def holdMembers (m : Medium) : List (Option String × Fragment) → Except Fault Unit
  | [] => .ok ()
  | (none, _) :: _ => .error .malformed
  | (some _, f) :: ms => do
    hold m f
    holdMembers m ms

end

def json : Decoder Json := fun m f => do
  hold m f
  match f.toJson? with
  | some j => .ok j
  | none => .error .malformed

def lookUp (names : List (String × α)) (name : String) : Except Fault α :=
  match names.lookup name with
  | some a => .ok a
  | none => .error .schema

def blankContent (lenient : Bool) : Fragment → Bool
  | .null => true
  | .object [] _ => lenient
  | _ => false

/-- One of several names, written as a string or as the key of an object whose one member is `null`.
In what was held back an empty object will do for `null`, unless `strict`. In text, all else in the
place of a name is malformed rather than of the wrong shape. -/
def oneOf (names : List (String × α)) (strict : Bool := false) : Decoder α
  | _, .string s => lookUp names s
  | _, .malformedString => .error .malformed
  | m, .object ms closed => do
    let _ ← m.enter
    match ms with
    | (none, _) :: _ => .error .malformed
    | (some k, f) :: rest => do
      let a ← if m.isText || rest.isEmpty then lookUp names k else .error .schema
      if !blankContent (m = .held && !strict) f then .error f.refusal
      if !rest.isEmpty || !closed then .error m.misuse
      return a
    | [] => .error m.misuse
  | .text levels, .misplaced f => .error (if levels = 0 then .malformed else f.refusal)
  | m, _ => .error m.misuse

end Decoder

/-- The fields of a record in declaration order: the name of each, how it is decoded, and what stands
for it when it is absent. Each field is an argument of the function that the remaining ones decode. -/
inductive Record : Type → Type 1
  | done {α : Type} (value : α) : Record α
  | field {α β : Type} (name : String) (decode : Decoder β) (absent : Option β)
    (rest : Record (β → α)) : Record α

namespace Record

def Slots : {α : Type} → Record α → Type
  | _, .done _ => Unit
  | _, .field (β := β) _ _ _ rest => Option β × rest.Slots

def empty : {α : Type} → (r : Record α) → r.Slots
  | _, .done _ => ()
  | _, .field _ _ _ rest => (none, rest.empty)

/-- Reads a member. A name that is no field is passed over if its content has the form of JSON; a
field may be given once. -/
def put (m : Medium) (key : String) (f : Fragment) :
    {α : Type} → (r : Record α) → r.Slots → Except Fault r.Slots
  | _, .done _, s => if f.isComplete then .ok s else .error .malformed
  | _, .field (β := β) name decode _ rest, s =>
    let (b, s) : Option β × rest.Slots := s
    if key = name then
      match b with
      | some _ => .error .schema
      | none => do return (some (← decode m f), s)
    else do return (b, ← rest.put m key f s)

def putAll (m : Medium) (r : Record α) : List (Option String × Fragment) → r.Slots →
    Except Fault r.Slots
  | [], s => .ok s
  | (none, _) :: _, _ => .error .malformed
  | (some k, f) :: ms, s => do r.putAll m ms (← r.put m k f s)

def finish : {α : Type} → (r : Record α) → r.Slots → Except Fault α
  | _, .done a, _ => .ok a
  | _, .field (β := β) _ _ absent rest, s => do
    let (b, s) : Option β × rest.Slots := s
    let g ← rest.finish s
    match b <|> absent with
    | some b => return g b
    | none => .error .schema

def take (m : Medium) (closed : Bool) :
    {α : Type} → (r : Record α) → List Fragment → Except Fault (α × List Fragment)
  | _, .done a, fs => .ok (a, fs)
  | _, .field _ decode _ rest, f :: fs => do
    let b ← decode m f
    let (g, fs) ← rest.take m closed fs
    return (g b, fs)
  | _, .field _ _ absent rest, [] => do
    Decoder.closing closed
    match absent with
    | some b => do
      let (g, fs) ← rest.take m closed []
      return (g b, fs)
    | none => .error .schema

def decode (r : Record α) : Decoder α
  | m, .object ms closed => do
    let s ← r.putAll (← m.enter) ms r.empty
    Decoder.closing closed
    r.finish s
  | m, .array fs closed => do
    let (a, rest) ← r.take (← m.enter) closed fs
    if !rest.isEmpty || !closed then .error m.misuse
    return a
  | _, .misplaced _ => .error .malformed
  | _, f => .error f.refusal

end Record

structure Tagged (α : Type) where
  tag : α
  content : Fragment

namespace Tagged

/-- A tag is a name; within what was held back it may be a position in the list of names. -/
def readTag (names : List (String × α)) : Decoder α
  | _, .string s => Decoder.lookUp names s
  | .held, .number (.integer i) =>
    match if i < 0 then none else names[i.toNat]? with
    | some (_, a) => .ok a
    | none => .error .schema
  | _, f => .error f.refusal

def members (names : List (String × α)) (key : String) (m : Medium) (tag : Option α) :
    List (Option String × Fragment) → Except Fault (Option α × List (Option String × Fragment))
  | [] => .ok (tag, [])
  | (none, _) :: _ => .error .malformed
  | (some k, f) :: ms =>
    if k = key then
      match tag with
      | some _ => .error .schema
      | none => do members names key m (some (← readTag names m f)) ms
    else do
      Decoder.hold m f
      let (tag, rest) ← members names key m tag ms
      return (tag, (some k, f) :: rest)

def decode (names : List (String × α)) (key : String) : Decoder (Tagged α)
  | m, .object ms closed => do
    let (tag, rest) ← members names key (← m.enter) none ms
    Decoder.closing closed
    match tag with
    | some a => return ⟨a, .object rest true⟩
    | none => .error .schema
  | m, .array fs closed => do
    let m ← m.enter
    match fs with
    | [] => do
      Decoder.closing closed
      .error .schema
    | f :: fs => do
      let a ← readTag names m f
      Decoder.holdItems m fs
      Decoder.closing closed
      return ⟨a, .array fs true⟩
  | _, .misplaced _ => .error .malformed
  | _, f => .error f.refusal

end Tagged

namespace Decoder

def textLevels : Nat := 127

def ofSaid (d : Decoder α) (said : Fragment × Option (List Char)) : Except Fault α := do
  let a ← d (.text textLevels) said.1
  match said.2 with
  | some cs => if (Read.skip cs).isEmpty then return a else .error .malformed
  | none => .error .malformed

def ofText (d : Decoder α) (text : String) : Except Fault α := d.ofSaid (read text)

def ofJson (d : Decoder α) (j : Json) : Except Fault α := d .value j.toFragment

end Decoder

end FeatureFlags.Json
