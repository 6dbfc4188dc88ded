import FeatureFlags.Client.Config
import FeatureFlags.Proofs.Client.Batch
import FeatureFlags.Proofs.Format.Restore
import FeatureFlags.Proofs.Json.Overlay
import FeatureFlags.Proofs.Json.Print

namespace FeatureFlags

open Json

theorem Json.Decoder.int64_int {i : Int} (h : -2 ^ 63 ≤ i ∧ i < 2 ^ 63) (m : Medium) :
    int64 m (int i).toFragment = .ok i := by
  have bounds : (decide (-0x8000000000000000 ≤ i) && decide (i ≤ 0x7FFFFFFFFFFFFFFF)) = true := by
    simp
    omega
  simp only [int64, int, toFragment, integer, if_pos bounds]

namespace Client

instance : LawfulNamed TypeMismatchPolicy := ⟨fun p => by cases p <;> decide⟩

instance : LawfulNamed Delivery := ⟨fun d => by cases d <;> decide⟩

section SortByName

variable {α : Type} {name : String} {a : α} {entries sorted : List (String × α)}

theorem setByName_perm (new : name ∉ entries.map (·.1)) :
    (setByName name a entries).Perm ((name, a) :: entries) := by
  induction entries with
  | nil => exact .refl _
  | cons entry rest ih =>
    obtain ⟨k, b⟩ := entry
    simp only [List.map_cons, List.mem_cons, not_or] at new
    rw [setByName, if_neg new.1]
    split
    · exact .refl _
    · exact ((ih new.2).cons (k, b)).trans (.swap ..)

theorem foldl_setByName (sorted : List (String × α))
    (ordered : (sorted.map (·.1)).Pairwise (· < ·))
    (distinct : ((sorted ++ entries).map (·.1)).Nodup) :
    let all := entries.foldl (fun sorted (k, a) => setByName k a sorted) sorted
    (all.map (·.1)).Pairwise (· < ·) ∧ all.Perm (sorted ++ entries) := by
  induction entries generalizing sorted with
  | nil => simpa using ordered
  | cons entry rest ih =>
    obtain ⟨k, b⟩ := entry
    -- an entry under a name that is there already would replace one
    have new : k ∉ sorted.map (·.1) := by
      intro h
      simp only [List.map_append, List.map_cons, List.nodup_append, List.mem_cons] at distinct
      exact distinct.2.2 k h k (.inl rfl) rfl
    have grown : (setByName k b sorted ++ rest).Perm (sorted ++ (k, b) :: rest) :=
      ((setByName_perm new).append_right rest).trans List.perm_middle.symm
    obtain ⟨ordered, perm⟩ :=
      ih _ (pairwise_setByName ordered) ((grown.map _).nodup_iff.2 distinct)
    exact ⟨ordered, perm.trans grown⟩

theorem sortByName_of_perm (ordered : (sorted.map (·.1)).Pairwise (· < ·))
    (perm : entries.Perm sorted) : sortByName entries = sorted := by
  have distinct : (entries.map (·.1)).Nodup := by
    rw [(perm.map _).nodup_iff]
    exact ordered.imp fun less => less.ne
  obtain ⟨ordered', perm'⟩ := foldl_setByName [] .nil distinct
  rw [List.pairwise_map] at ordered ordered'
  exact (perm'.trans perm).eq_of_pairwise
    (fun a b _ _ less greater => absurd less greater.asymm) ordered' ordered

end SortByName

theorem members_entries (m : Medium) (entries : List (String × FlagValue)) :
    Decoder.members FlagValue.decoder m
      (membersToFragments (entries.map fun (k, v) => (k, v.toJson))) = .ok entries := by
  induction entries with
  | nil => rfl
  | cons entry rest ih =>
    obtain ⟨k, v⟩ := entry
    simp only [List.map_cons, membersToFragments, Decoder.members, FlagValue.decoder_toJson, ih]
    rfl

namespace TypeFallbacks

def overlay (kept : String → Bool) (f : TypeFallbacks) : TypeFallbacks where
  boolean := if kept "boolean" then f.boolean else false
  number := if kept "number" then f.number else .zero
  string := if kept "string" then f.string else ""

theorem overlaid (m : Medium) (kept : String → Bool) (f : TypeFallbacks) :
    record.Overlaid m f.toJson.entries kept (f.overlay kept) :=
  .field rfl rfl <| .field rfl rfl <| .field rfl rfl <| .done _

theorem decoder_overlay {m : Medium} (room : m.Admits 1) {kept : String → Bool} {f : TypeFallbacks}
    {ls : List (String × Json)} (scattered : Scatters kept f.toJson.entries ls) :
    decoder m (object ls).toFragment = .ok (f.overlay kept) := by
  obtain ⟨inner, entered, -⟩ := room.enter
  exact (overlaid inner kept f).decode rfl (by decide) entered scattered

end TypeFallbacks

namespace Config

structure Expressible (c : Config) : Prop where
  loaderTimeout : -2 ^ 63 ≤ c.loaderTimeout ∧ c.loaderTimeout < 2 ^ 63
  maxRetries : c.maxRetries < UInt32.size
  retryDelay : c.retryDelay < UInt64.size
  cacheStaleTime : -2 ^ 63 ≤ c.cacheStaleTime ∧ c.cacheStaleTime < 2 ^ 63
  refreshWait : -2 ^ 63 ≤ c.refreshWait ∧ c.refreshWait < 2 ^ 63
  sorted : (c.fallbacksByName.map (·.1)).Pairwise (· < ·)
  byName : ∀ e ∈ c.fallbacksByName, e.2.Expressible
  byType : c.fallbacksByType.number.isFinite

def overlay (kept keptTypes : String → Bool) (c : Config) : Config where
  loaderTimeout := if kept "loaderTimeoutMs" then c.loaderTimeout else 15000
  maxRetries := if kept "maxRetries" then c.maxRetries else 5
  retryDelay := if kept "retryDelayMs" then c.retryDelay else 2500
  cacheStaleTime := if kept "cacheStaleTimeMs" then c.cacheStaleTime else 15000
  refreshWait := if kept "refreshWaitMs" then c.refreshWait else 1500
  initialLoad := if kept "initialLoad" then c.initialLoad else true
  fallbacksByName := if kept "emergencyFallbacksByName" then c.fallbacksByName else []
  fallbacksByType :=
    if kept "emergencyFallbacksByType" then c.fallbacksByType.overlay keptTypes
    else { boolean := false, number := .zero, string := "" }
  typeMismatchPolicy :=
    if kept "typeMismatchPolicy" then c.typeMismatchPolicy else .emergencyFallback
  delivery := if kept "callbackMode" then c.delivery else .nonBlocking
  skipValidation := if kept "dangerouslySkipValidation" then c.skipValidation else false

def membersWith (c : Config) (byName byType : List (String × Json)) : List (String × Json) :=
  c.toJson.entries.map fun (k, j) =>
    (k, if k = "emergencyFallbacksByName" then .object byName
      else if k = "emergencyFallbacksByType" then .object byType else j)

/-- An object is written of a configuration in part: of its members those that are kept, and within
the fallbacks by type those that are kept of them. Members stand in any order, and members under
other keys may stand among them. -/
inductive PartlyWritten (c : Config) (kept keptTypes : String → Bool) : Json → Prop
  | object (entries : List (String × FlagValue)) (byType members : List (String × Json)) :
    entries.Perm c.fallbacksByName → Scatters keptTypes c.fallbacksByType.toJson.entries byType →
    Scatters kept (c.membersWith (entries.map fun (k, v) => (k, v.toJson)) byType) members →
    PartlyWritten c kept keptTypes (.object members)

variable {c : Config} {kept keptTypes : String → Bool}

theorem overlaid (h : c.Expressible) {m : Medium} (room : m.Admits 1)
    {entries : List (String × FlagValue)} (perm : entries.Perm c.fallbacksByName)
    {byType : List (String × Json)}
    (scattered : Scatters keptTypes c.fallbacksByType.toJson.entries byType) :
    record.Overlaid m (c.membersWith (entries.map fun (k, v) => (k, v.toJson)) byType) kept
      (c.overlay kept keptTypes) := by
  have byName : ((Decoder.object FlagValue.decoder).map sortByName) m
      (Json.object (entries.map fun (k, v) => (k, v.toJson))).toFragment =
        .ok c.fallbacksByName := by
    obtain ⟨inner, entered, -⟩ := room.enter
    have decoded : Decoder.object FlagValue.decoder m
        (Json.object (entries.map fun (k, v) => (k, v.toJson))).toFragment = .ok entries := by
      simp only [toFragment, Decoder.object, entered, bind, Except.bind, members_entries]
      rfl
    rw [Decoder.map, decoded, Except.map, sortByName_of_perm h.sorted perm]
  exact .field rfl (Decoder.int64_int h.loaderTimeout m) <|
    .field rfl (Decoder.natural_nat (Nat.le_pred_of_lt h.maxRetries) m) <|
    .field rfl (Decoder.natural_nat (Nat.le_pred_of_lt h.retryDelay) m) <|
    .field rfl (Decoder.int64_int h.cacheStaleTime m) <|
    .field rfl (Decoder.int64_int h.refreshWait m) <|
    .field rfl rfl <|
    .field rfl byName <|
    .field rfl (TypeFallbacks.decoder_overlay room scattered) <|
    .field rfl (Named.decoder_toJson m _) <|
    .field rfl (Named.decoder_toJson m _) <|
    .field rfl rfl <| .done _

theorem PartlyWritten.decoder_eq (h : c.Expressible) {j : Json}
    (written : c.PartlyWritten kept keptTypes j) {m : Medium} (room : m.Admits 2) :
    decoder m j.toFragment = .ok (c.overlay kept keptTypes) := by
  obtain ⟨_, _, _, perm, byType, scattered⟩ := written
  obtain ⟨inner, entered, room, -⟩ := room.enter
  exact (overlaid h room perm byType).decode rfl (by decide) entered scattered

theorem partlyWritten_toJson (c : Config) :
    c.PartlyWritten (fun _ => true) (fun _ => true) c.toJson :=
  .object _ _ _ (.refl _) (scatters_self _) (scatters_self _)

theorem overlay_all (c : Config) : c.overlay (fun _ => true) (fun _ => true) = c := rfl

def DecodedFrom (c : Config) (j : Json) : Prop :=
  decoder.ofJson j = .ok c ∧
    ∀ t rest, read t = (j.toFragment, some rest) → Read.skip rest = [] → decoder.ofText t = .ok c

/-- Of what is written in part the settings that are written are decoded, and the others have their
defaults. So a configuration that is written whole is decoded as it was. -/
theorem decodedFrom_of_expressible (h : c.Expressible) :
    (∀ kept keptTypes j, c.PartlyWritten kept keptTypes j →
      (c.overlay kept keptTypes).DecodedFrom j) ∧ c.DecodedFrom c.toJson := by
  have partly (kept keptTypes j) (written : c.PartlyWritten kept keptTypes j) :
      (c.overlay kept keptTypes).DecodedFrom j := by
    refine ⟨written.decoder_eq h trivial, fun t rest reads blank => ?_⟩
    rw [Decoder.ofText_eq_ok_iff, reads]
    have room : 2 ≤ Decoder.textLevels := by decide
    exact ⟨written.decoder_eq h room, rest, rfl, blank⟩
  refine ⟨partly, ?_⟩
  have whole := partly _ _ _ c.partlyWritten_toJson
  rwa [overlay_all] at whole

def extreme : Config where
  loaderTimeout := -0x8000000000000000
  maxRetries := 0xFFFFFFFF
  retryDelay := 0xFFFFFFFFFFFFFFFF
  cacheStaleTime := 0x7FFFFFFFFFFFFFFF
  fallbacksByName := [("beta", .boolean true), ("limit", .number ⟨0x8000000000000000⟩),
    ("plan", .string "gold")]
  fallbacksByType := { boolean := true, string := "none" }

def excerpt : Json :=
  .object [("retryDelayMs", .nat 0xFFFFFFFFFFFFFFFF),
    ("loaderTimeoutMs", .int (-0x8000000000000000)), ("loader_timeout_ms", .array [.null]),
    ("emergencyFallbacksByName", .object [("limit", .double ⟨0x8000000000000000⟩),
      ("beta", .boolean true), ("plan", .string "gold")]),
    ("emergencyFallbacksByType", .object [("integer", .nat 0), ("string", .string "none")])]

theorem decodedFrom_excerpt :
    let kept key := decide (key ∈ ["loaderTimeoutMs", "retryDelayMs", "emergencyFallbacksByName",
      "emergencyFallbacksByType"])
    let c : Config :=
      { loaderTimeout := extreme.loaderTimeout, retryDelay := extreme.retryDelay,
        fallbacksByName := extreme.fallbacksByName, fallbacksByType := { string := "none" } }
    extreme.Expressible ∧ extreme.PartlyWritten kept (· = "string") excerpt ∧
      decoder.ofJson excerpt = .ok c ∧ decoder.ofText excerpt.compact = .ok c ∧
      extreme.DecodedFrom extreme.toJson := by
  intro kept c
  have expressible : extreme.Expressible :=
    { loaderTimeout := by decide, maxRetries := by decide, retryDelay := by decide
      cacheStaleTime := by decide, refreshWait := by decide, sorted := by decide
      byName := by decide, byType := by decide }
  have written : extreme.PartlyWritten kept (· = "string") excerpt :=
    .object [("limit", .number ⟨0x8000000000000000⟩), ("beta", .boolean true),
      ("plan", .string "gold")] [("integer", .nat 0), ("string", .string "none")] _
      (.swap ..) (.refl _) (.swap ..)
  have legible : excerpt.isLegible := by decide +kernel
  obtain ⟨partly, whole⟩ := decodedFrom_of_expressible expressible
  obtain ⟨value, text⟩ := partly kept (· = "string") excerpt written
  exact ⟨expressible, written, value, text _ _ (read_compact legible) rfl, whole⟩

end Config

end Client

end FeatureFlags
