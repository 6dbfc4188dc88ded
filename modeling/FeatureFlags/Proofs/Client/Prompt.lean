import FeatureFlags.Proofs.Client.Refresh

namespace FeatureFlags.Client

def Stale (c : Client) : Prop :=
  ∃ loadedAt, c.state.loadedAt = some loadedAt ∧
    (c.config.cacheStaleTime < 0 ∨ c.config.cacheStaleTime < (c.now : Int) - loadedAt)

structure Prompt (c : Client) (inTurn : Bool) (q : Inquiry) : Prop where
  returns : (c.begin inTurn (.evaluate q)).1.reply?.isSome
  now : (c.begin inTurn (.evaluate q)).2.now = c.now
  answers : ∃ b, Begun c b ∧
    c.begin inTurn (.evaluate q) = b.answer inTurn q c.state.specification
  loads : c.state.specification = none ∨ Stale c →
    ∃ n, Joins c n (c.begin inTurn (.evaluate q)).2
  runs : (c.runOne (.evaluate q)).1.reply = (c.begin true (.evaluate q)).1.reply? ∧
    (c.runOne (.evaluate q)).1.returnedAt = c.now

variable {c d : Client}

theorem Dated.stale_iff (h : Dated c) (served : c.state.specification.isSome) :
    Stale c ↔ ¬ c.isFresh := by
  obtain ⟨l, loaded⟩ := Option.isSome_iff_exists.1 (h.specification ▸ served)
  rw [h.isFresh_iff loaded, Stale]
  constructor
  · rintro ⟨l', loaded', old⟩ ⟨bounded, young⟩
    obtain rfl := Option.some.inj (loaded.symm.trans loaded')
    omega
  · intro old
    exact ⟨l, loaded, by omega⟩

theorem inquire_of_failed (failed : c.state.loadFailedAt.isSome) (inTurn : Bool) (q : Inquiry) :
    c.state.specification.isSome ∧ c.isFresh ∧
        c.inquire inTurn q = c.answer inTurn q c.state.specification ∨
      (c.state.specification = none ∨ ¬ c.isFresh) ∧
        c.inquire inTurn q = c.joinLoad.2.answer inTurn q c.state.specification := by
  cases served : c.state.specification with
  | none =>
    refine .inr ⟨.inl rfl, ?_⟩
    simp [inquire, served, failed]
  | some current =>
    rcases inquire_cases served inTurn q with ⟨fresh, same⟩ | ⟨stale, -, same⟩ | ⟨-, -, unfailed, -⟩
    · exact .inl ⟨rfl, fresh, same⟩
    · exact .inr ⟨.inr stale, same⟩
    · simp [unfailed] at failed

theorem prompt_of_failed (reachable : Reachable c) {n : Nat} {e : LoadFailure}
    (failed : c.result? n = some (.error e)) (steps : Steps c d) (inTurn : Bool) (q : Inquiry) :
    Prompt d inTurn q := by
  have later := reachable.steps steps
  have h := later.flight
  have dated := later.dated
  have remembered : d.state.loadFailedAt.isSome :=
    dated.loadFailedAt.2 ⟨n, e, reachable.flight.result?_steps failed steps⟩
  have done (inTurn : Bool) : (d.begin inTurn (.evaluate q)).1.reply?.isSome := by
    rw [begin]
    rcases inquire_of_failed remembered inTurn q with ⟨-, -, same⟩ | ⟨-, same⟩
    · exact same ▸ reply?_answer ..
    · exact same ▸ reply?_answer ..
  have still (inTurn : Bool) : (d.begin inTurn (.evaluate q)).2.now = d.now :=
    (begun_begin ..).now
  refine ⟨done inTurn, still inTurn, ?_, ?_, ?_⟩
  · rcases inquire_of_failed remembered inTurn q with ⟨-, -, same⟩ | ⟨-, same⟩
    · exact ⟨d, .refl, same⟩
    · exact ⟨d.joinLoad.2, .joinLoad, same⟩
  · intro lacking
    rw [begin]
    rcases inquire_of_failed remembered inTurn q with ⟨served, fresh, -⟩ | ⟨-, same⟩
    · rw [dated.stale_iff served] at lacking
      simp [fresh, Option.isSome_iff_ne_none.1 served] at lacking
    · rw [same]
      exact ⟨_, h.joins (alike_answer ..)⟩
  · obtain ⟨replied, returned⟩ := runOne_of_done (done true)
    exact ⟨replied, returned.trans (still true)⟩

def disappointed : Client :=
  let loader := Loader.ofSteps { deed := .fail "down" } [{ deed := .serve bare }]
  (build { maxRetries := 0, skipValidation := true } loader none ⟨0, 0⟩ true).loadTimes 3

theorem reachable_disappointed : Reachable disappointed := by
  unfold disappointed
  exact Reachable.loadTimes ⟨_, _, _, _, _, _, .refl⟩ 3

def recovered : Client := ((disappointed.begin true .load).2.loadTimes 3).waitFor 50000

theorem prompt_recovered : (∃ n e, disappointed.result? n = some (.error e)) ∧
    Steps disappointed recovered ∧ Prompt recovered true (.all .empty) ∧
      recovered.state.specification.isSome ∧ Stale recovered ∧
        recovered.state.inFlight = none := by
  have reachable := reachable_disappointed
  have begun : Step disappointed (disappointed.begin true .load).2 := .begin true .load
  have loaded : Steps disappointed ((disappointed.begin true .load).2.loadTimes 3) :=
    .head begun (steps_loadTimes (reachable.registered.step begun) 3)
  have waited : Steps disappointed recovered := loaded.tail (.wait 50000)
  obtain ⟨n, e, failed⟩ := reachable.dated.loadFailedAt.1 (by decide +kernel)
  exact ⟨⟨n, e, failed⟩, waited, prompt_of_failed reachable failed waited true (.all .empty),
    by decide +kernel, ⟨0, by decide +kernel, by decide +kernel⟩, by decide +kernel⟩

end FeatureFlags.Client
