import FeatureFlags.Proofs.Client.Calls

namespace FeatureFlags.Client

variable {c d : Client}

theorem Registered.steps (h : Registered c) (steps : Steps c d) : Registered d := by
  induction steps with
  | refl => exact h
  | tail _ step ih => exact ih.step step

theorem takeStashed_known (slot : Nat) {own : Validator} {stashed : List (Nat × Validator)}
    {P : Validator → Prop} (mine : P own) (known : ∀ v ∈ stashed, P v.2) :
    P (takeStashed slot own stashed).1 ∧ ∀ v ∈ (takeStashed slot own stashed).2, P v.2 := by
  unfold takeStashed
  cases found : stashed.lookup slot with
  | none => exact ⟨mine, known⟩
  | some v =>
    obtain ⟨before, after, parts, -⟩ := List.lookup_eq_some_iff.1 found
    exact ⟨known (slot, v) (by simp [parts]), fun w hw => known w (List.mem_of_mem_filter hw)⟩

theorem ending_of_due? {now : Nat} {k : Call} {u : Unit} (h : k.due? now = some u) :
    k.ending = none := by
  unfold Call.due? at h
  split at h
  · next due => simpa using (Bool.and_eq_true_iff.1 due).1
  · cases h

theorem steps_endCall? (h : Registered c) (ended : c.endCall? = some d) : Steps c d := by
  obtain ⟨split, found, rfl⟩ := Option.map_eq_some_iff.1 ended
  obtain ⟨parts, due⟩ := splitFirst_eq found
  have running := ending_of_due? due
  have mine := h.issued split.element (by simp [parts])
  unfold Call.carryOut
  cases split.element.deed with
  | fail m => exact .single (.finish parts running .fail h.stashed)
  | panic => exact .single (.finish parts running .panic h.stashed)
  | stash slot m =>
    refine .single (.finish parts running .fail (List.forall_mem_cons.2 ⟨mine, fun v hv => ?_⟩))
    exact h.stashed v (List.mem_of_mem_filter hv)
  | serve p => exact .single (.finish parts running (.verdict mine) h.stashed)
  | replay slot p =>
    obtain ⟨taken, rest⟩ := takeStashed_known slot mine h.stashed
    exact .single (.finish parts running (.verdict taken) rest)
  | borrow skip p =>
    let other : Client := { c with issued := c.issued + 1 }
    have grows : Grows c other := .of_calls (Nat.le_succ _) rfl
    have known : other.Issued ⟨c.issued + 1, skip⟩ := by
      refine ⟨Nat.succ_pos _, Nat.le_refl _, fun k hk same => ?_⟩
      have old := (h.issued k hk).2.1
      rw [same] at old
      exact absurd old (Nat.not_succ_le_self _)
    have kept : ∀ v ∈ c.stashed, other.Issued v.2 := fun v hv => (h.stashed v hv).grows grows
    exact .tail (.single .issue) (.finish parts running (.verdict known) kept)

theorem steps_loadStep? (h : Registered c) (step : c.loadStep? = some d) : Steps c d := by
  unfold loadStep? at step
  cases moved : c.moveSequence? with
  | none =>
    rw [moved] at step
    exact steps_endCall? h step
  | some e =>
    rw [moved] at step
    cases step
    exact .single (.move moved)

theorem steps_getD_loadStep? (h : Registered c) : Steps c (c.loadStep?.getD c) := by
  cases step : c.loadStep? with
  | none => exact .refl
  | some d => exact steps_loadStep? h step

theorem steps_loadAll (h : Registered c) : Steps c c.loadAll := by
  fun_induction loadAll c with
  | case1 => exact .refl
  | case2 c next found less ih =>
    have first := steps_loadStep? h found
    exact first.trans (ih (h.steps first))

theorem steps_turn (h : Registered c) : Steps c c.turn := by
  have delivered : Steps c c.deliver := .single .deliver
  exact (delivered.trans (steps_loadAll (h.steps delivered))).tail (.defer _)

theorem steps_settle (h : Registered c) : Steps c c.settle :=
  (steps_turn h).trans (steps_turn (h.steps (steps_turn h)))

theorem steps_turn_poll (h : Registered c) (t : Task) : Steps c (c.turn.poll t).2 :=
  (steps_turn h).tail (.poll t)

theorem steps_atInstant (h : Registered c) (t : Task) : Steps c (c.atInstant t).2 := by
  have polled : Steps c (c.poll t).2 := .single (.poll t)
  unfold atInstant
  dsimp only
  split
  · exact polled
  · exact polled.trans (steps_turn_poll (h.steps polled) _)

theorem steps_start (h : Registered c) (op : Operation) : Steps c (c.start op).2 := by
  have begun : Steps c (c.begin true op).2 := .single (.begin true op)
  unfold start
  dsimp only
  split
  · exact begun
  · exact begun.trans (steps_turn_poll (h.steps begun) _)

theorem steps_await (h : Registered c) (t : Task) : Steps c (c.await t).2 := by
  fun_induction await c t with
  | case1 => exact .refl
  | case2 c => exact steps_settle h
  | case3 c t waiting x next less settled after ih =>
    have waited := (steps_settle h).tail (.wait x)
    have instant := waited.trans (steps_atInstant (h.steps waited) t)
    exact instant.trans (ih (h.steps instant))

theorem steps_runOne (h : Registered c) (op : Operation) : Steps c (c.runOne op).2 := by
  have started := steps_start h op
  have returned := started.trans (steps_await (h.steps started) (c.start op).1)
  exact returned.trans (steps_settle (h.steps returned))

theorem steps_run (h : Registered c) (ops : List Operation) : Steps c (c.run ops).2 := by
  induction ops generalizing c with
  | nil => exact .refl
  | cons op ops ih =>
    have first := steps_runOne h op
    exact first.trans (ih (h.steps first))

theorem reachable_run (config : Config) (loader : Loader) (observer : Option Observer)
    (epoch : Instant) (inTurn : Bool) (host : Host) (ops : List Operation) :
    Reachable ((build config loader observer epoch inTurn host).run ops).2 :=
  ⟨config, loader, observer, epoch, inTurn, host, steps_run (.build ..) ops⟩

end FeatureFlags.Client
