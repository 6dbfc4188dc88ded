import FeatureFlags.Specification

namespace FeatureFlags

namespace Hash

def mix (hash : UInt32) (byte : UInt8) : UInt32 := (hash ^^^ byte.toUInt32) * 0x01000193

def ofText (s : String) : UInt32 := s.toUTF8.data.toList.foldl mix 0x811C9DC5

/-- The hash folded into `0..=greatest`, which leaves it as it is if that is every hash. -/
def within (greatest : UInt32) (s : String) : UInt32 :=
  if greatest + 1 = 0 then ofText s else ofText s % (greatest + 1)

end Hash

namespace Rollout

def unknownGroup : Double := .ofInt (-1)

def precedes (p q : Property) : Bool := compare p.id q.id != .gt

/-- The rollout keys of the discriminators that have a value, in the order of property ids. It is
independent of the order in which properties are declared, of their names and of their paths. -/
def key (properties : List Property) (c : Context) : String :=
  let discriminators := (properties.filter (·.rolloutDiscriminator)).mergeSort precedes
  let keys := discriminators.filterMap fun p => ((p.resolve c).toOption).map (·.rolloutKey)
  String.join keys

def group (properties : List Property) (c : Context) : Double :=
  let k := key properties c
  if k.isEmpty then unknownGroup
  else .ofRatio false (Hash.within 10000 k).toNat 100

def entryPrecedes (a b : RolloutEntry) : Bool := a.value.totalCompare b.value != .gt

/-- The first entry at which the running total of percentages reaches the group. -/
def reach (group total : Double) : List RolloutEntry → Option RolloutEntry
  | [] => none
  | e :: es =>
    let total := total.add e.rolloutPercentage
    if group.le total then some e else reach group total es

/-- The value for a group. Totals run over the entries in the order of their values, so the order in
which entries are declared decides nothing; the last entry takes what the percentages leave over. -/
def select (entries : List RolloutEntry) (group : Double) (fallback : FlagValue) : FlagValue :=
  let sorted := entries.mergeSort entryPrecedes
  match reach group .zero sorted <|> sorted.getLast? with
  | some e => e.value
  | none => fallback

end Rollout

end FeatureFlags
