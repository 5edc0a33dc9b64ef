/-
  ClassTidy.Proofs.Supersession — which table is installed, along every schedule.

  Builds end in any order while newer requests come in. A table that is installed belongs to
  the fingerprint asked for last, or the build of that one is still to end; it is what the
  last build of its own fingerprint gave (`Current`). So when no build is in flight, the
  fingerprint asked for last has its table installed unless its last build failed, and no
  other fingerprint has (`installed_latest`).

  The wishes of a schedule are the fingerprints asked for and, at a clearing, none: the last
  wish is what the cache goes by (`latest_run`). What is installed after a clearing comes from
  a build that ended after it, when its fingerprint was the last wish since the clearing
  (`installed_after_clear`). That need not be a build that started after the clearing: one
  that was in flight is joined and installed if its fingerprint is asked for again.
-/
import ClassTidy.Proofs.Flights

namespace ClassTidy.Session

variable {α : Type} {s t : Session α} {f : Fingerprint}

/-! ## Superseded tables -/

/-- The build of a fingerprint that ended last. -/
def lastEnded? (s : Session α) (f : Fingerprint) : Option (Ended α) :=
  s.ended.reverse.find? fun e => e.job.fingerprint = f

theorem lastEnded?_withEnd (s : Session α) (ws : List (Waiter α)) (e : Ended α) (f : Fingerprint) :
    (s.withEnd ws e).lastEnded? f = if e.job.fingerprint = f then some e else s.lastEnded? f := by
  simp only [lastEnded?, withEnd, List.reverse_append, List.reverse_singleton, List.singleton_append, List.find?_cons]
  by_cases hf : e.job.fingerprint = f
  · simp [hf]
  · simp [hf]

/-- The table that is installed, and the fingerprint asked for last. -/
structure Current (s : Session α) : Prop where
  followed : ∀ g, s.cache.fingerprint? = some g →
    ∃ f, s.cache.latest = some f ∧ (g = f ∨ ∃ x ∈ s.cache.flights, x.fingerprint = f)
  made : ∀ g a, s.cache.installed = some (g, a) → ∃ e, s.lastEnded? g = some e ∧ e.outcome = .ok a
  settled : ∀ f, s.cache.latest = some f → s.cache.fingerprint? = some f ∨
    (∃ x ∈ s.cache.flights, x.fingerprint = f) ∨
    ∃ e failure, s.lastEnded? f = some e ∧ e.outcome = .error failure

theorem Current.finish (h : s.Current) (ho : s.Orderly) {e : Ended α} (running : s.running? e.number = some e.job)
    (ws : List (Waiter α)) : (s.withEnd ws e).Current := by
  have hlatest : (s.withEnd ws e).cache.latest = s.cache.latest := Cache.finish_latest _ _ _
  have hpaired : (s.withEnd ws e).cache.Paired := ho.paired.finish _ _
  have hkept {g : Fingerprint} (hg : g ≠ e.job.fingerprint) :
      (∃ x ∈ s.cache.flights, x.fingerprint = g) →
        ∃ x ∈ (s.withEnd ws e).cache.flights, x.fingerprint = g := by
    rintro ⟨x, hx, rfl⟩
    refine ⟨x, ?_, rfl⟩
    rw [withEnd, Cache.finish_flights, List.mem_filter, bne_iff_ne]
    exact ⟨hx, hg⟩
  refine ⟨?_, ?_, ?_⟩
  · intro g hg
    rw [hlatest]
    obtain ⟨a, ha⟩ := hpaired.fingerprint?_eq_some.mp hg
    rcases Cache.finish_installed_eq_some.mp ha with ⟨hl, rfl, -⟩ | ⟨hl, hold⟩
    · exact ⟨e.job.fingerprint, hl, .inl rfl⟩
    · obtain ⟨f, hf, hgf⟩ := h.followed g (Cache.installed_eq_some.mp hold).1
      exact ⟨f, hf, hgf.imp_right (hkept fun hfe => hl (hfe ▸ hf))⟩
  · intro g a ha
    rw [lastEnded?_withEnd]
    rcases Cache.finish_installed_eq_some.mp ha with ⟨-, rfl, hout⟩ | ⟨-, hold⟩
    · exact ⟨e, if_pos rfl, hout⟩
    · -- the build that ends is not one of the fingerprint that is installed
      have hne : e.job.fingerprint ≠ g := by
        rintro rfl
        exact ho.apart _ (ho.mem_flights running) (Cache.installed_eq_some.mp hold).1
      rw [if_neg hne]
      exact h.made g a hold
  · intro g hg
    rw [hlatest] at hg
    rw [lastEnded?_withEnd]
    by_cases hge : e.job.fingerprint = g
    · subst hge
      cases hout : e.outcome with
      | ok a =>
        exact .inl (Cache.installed_eq_some.mp (Cache.finish_installed_eq_some.mpr (.inl ⟨hg, rfl, hout⟩))).1
      | error failure => exact .inr (.inr ⟨e, failure, if_pos rfl, hout⟩)
    · rw [if_neg hge]
      have hl : s.cache.latest ≠ some e.job.fingerprint := fun hl => hge (Option.some.inj (hl.symm.trans hg))
      rcases h.settled g hg with hold | hflight | hfailed
      · obtain ⟨a, ha⟩ := ho.paired.fingerprint?_eq_some.mp hold
        exact .inl (Cache.installed_eq_some.mp (Cache.finish_installed_eq_some.mpr (.inr ⟨hl, ha⟩))).1
      · exact .inr (.inl (hkept (Ne.symm hge) hflight))
      · exact .inr (.inr hfailed)

theorem Current.effect (h : s.Current) (ho : s.Orderly) (he : Effect s t) : t.Current := by
  cases he with
  | still ws => exact ⟨h.followed, h.made, h.settled⟩
  | met ws f known =>
    refine ⟨?_, h.made, ?_⟩
    · intro g hg
      refine ⟨f, rfl, known.imp_left fun hf => ?_⟩
      exact Option.some.inj (hg.symm.trans hf)
    · rintro g hg
      obtain rfl : f = g := Option.some.inj hg
      exact known.imp_right .inl
  | started ws q absent free =>
    have hflight : ∃ x ∈ s.cache.flights ++ [⟨q.fingerprint, s.cache.started⟩], x.fingerprint = q.fingerprint :=
      ⟨_, List.mem_append_right _ (List.mem_singleton_self _), rfl⟩
    refine ⟨?_, h.made, ?_⟩
    · intro g _
      exact ⟨q.fingerprint, rfl, .inr hflight⟩
    · intro g hg
      obtain rfl : q.fingerprint = g := Option.some.inj hg
      exact .inr (.inl hflight)
  | ended ws e running => exact h.finish ho running ws
  | cleared ws =>
    refine ⟨?_, ?_, ?_⟩
    · intro g hg
      cases hg
    · intro g a ha
      cases ha
    · intro g hg
      cases hg

theorem current_empty : ({} : Session α).Current := by
  refine ⟨?_, ?_, ?_⟩
  · intro g hg
    cases hg
  · intro g a ha
    cases ha
  · intro g hg
    cases hg

theorem current_run (ms : List (Move α)) : (({} : Session α).run ms).Current :=
  (run_keeps (P := fun s => s.Orderly ∧ s.Current)
    (fun s m h => ⟨h.1.effect (s.effect m), h.2.effect h.1 (s.effect m)⟩)
    ⟨orderly_empty, current_empty⟩ ms).2

/-- A table that is installed for another fingerprint than the last is about to be replaced. With no build in flight,
the last fingerprint has its table installed, unless there is none or its last build failed. -/
theorem installed_latest (ms : List (Move α)) :
    let s := ({} : Session α).run ms
    (s.cache.content? = none ↔ s.cache.fingerprint? = none) ∧
    (∀ g, s.cache.fingerprint? = some g → ∃ f, s.cache.latest = some f ∧ (g = f ∨ s.InFlight f)) ∧
    ((∀ f, ¬ s.InFlight f) →
      (s.cache.fingerprint? = none ∨ s.cache.fingerprint? = s.cache.latest) ∧
      (s.cache.fingerprint? = none ↔ s.cache.latest = none ∨
        ∃ f e failure, s.cache.latest = some f ∧ s.lastEnded? f = some e ∧ e.outcome = .error failure)) := by
  intro s
  have h : s.Current := current_run ms
  have hpaired : s.cache.Paired := (orderly_run ms).paired
  have hinflight {f : Fingerprint} := (orderly_run ms).inFlight_iff (f := f)
  have hfollowed : ∀ g, s.cache.fingerprint? = some g → ∃ f, s.cache.latest = some f ∧
      (g = f ∨ s.InFlight f) := by
    intro g hg
    obtain ⟨f, hf, hgf⟩ := h.followed g hg
    exact ⟨f, hf, hgf.imp_right hinflight.mpr⟩
  refine ⟨hpaired, hfollowed, fun hidle => ?_⟩
  have hlatest : ∀ g, s.cache.fingerprint? = some g → s.cache.latest = some g := by
    intro g hg
    obtain ⟨f, hf, rfl | hflight⟩ := hfollowed g hg
    · exact hf
    · exact absurd hflight (hidle f)
  constructor
  · cases hg : s.cache.fingerprint? with
    | none => exact .inl rfl
    | some g => exact .inr (hlatest g hg).symm
  constructor
  · intro hnone
    cases hl : s.cache.latest with
    | none => exact .inl rfl
    | some f =>
      rcases h.settled f hl with hf | hflight | ⟨e, failure, he, hfailed⟩
      · rw [hnone] at hf
        cases hf
      · exact absurd (hinflight.mpr hflight) (hidle f)
      · exact .inr ⟨f, e, failure, rfl, he, hfailed⟩
  · intro hlost
    cases hg : s.cache.fingerprint? with
    | none => rfl
    | some g =>
      obtain ⟨a, ha⟩ := hpaired.fingerprint?_eq_some.mp hg
      obtain ⟨d, hd, hmade⟩ := h.made g a ha
      rcases hlost with hlost | ⟨f, e, failure, hf, he, hfailed⟩
      · rw [hlatest g hg] at hlost
        cases hlost
      · obtain rfl : g = f := Option.some.inj ((hlatest g hg).symm.trans hf)
        obtain rfl : d = e := Option.some.inj (hd.symm.trans he)
        rw [hmade] at hfailed
        cases hfailed

/-! ## Clearing -/

/-- What a move wishes for: the fingerprint that a waiter asks for, or nothing when the cache is cleared. -/
def wish? (s : Session α) : Move α → Option (Option Fingerprint)
  | .begin i => (s.fresh? i).map fun w => some w.2.fingerprint
  | .clear => some none
  | _ => none

/-- The wishes along a schedule. -/
def wishes (s : Session α) : List (Move α) → List (Option Fingerprint)
  | [] => []
  | m :: ms => (s.wish? m).toList ++ (s.act m).wishes ms

theorem latest_act (s : Session α) (m : Move α) : (s.act m).cache.latest = (s.wish? m).getD s.cache.latest := by
  cases m with
  | begin i =>
    simp only [act, begin, wish?]
    cases s.fresh? i with
    | none => rfl
    | some w => exact s.cache.request_latest w.2.fingerprint
  | finish n outcome =>
    simp only [act, finish, wish?]
    cases s.running? n with
    | none => rfl
    | some job => exact Cache.finish_latest _ _ _
  | ask id q => rfl
  | hear i => rfl
  | cancel i => rfl
  | clear => rfl

/-- The cache goes by the last wish. -/
theorem latest_run (s : Session α) (ms : List (Move α)) :
    (s.run ms).cache.latest = (s.wishes ms).getLast?.getD s.cache.latest := by
  induction ms generalizing s with
  | nil => rfl
  | cons m ms ih =>
    rw [run, List.foldl_cons, ← run, ih, latest_act, wishes, List.getLast?_append, Option.getD_or]
    cases s.wish? m <;> rfl

/-- A table is installed by the end of a build whose fingerprint was asked for last, and by nothing else. -/
theorem installed_act {m : Move α} {a : α} (h : (s.act m).cache.installed = some (f, a)) :
    s.cache.installed = some (f, a) ∨
      ∃ n job, m = .finish n (.ok a) ∧ s.running? n = some job ∧ job.fingerprint = f ∧
        s.cache.latest = some f := by
  cases m with
  | begin i =>
    left
    simp only [act, begin] at h
    split at h
    · exact (Cache.request_installed _ _).symm.trans h
    · exact h
  | finish n outcome =>
    simp only [act, finish] at h
    split at h
    · rename_i job hrunning
      rcases Cache.finish_installed_eq_some.mp h with ⟨hlatest, rfl, rfl⟩ | ⟨-, hold⟩
      · exact .inr ⟨n, job, rfl, hrunning, rfl, hlatest⟩
      · exact .inl hold
    · exact .inl h
  | ask id q => exact .inl h
  | hear i => exact .inl h
  | cancel i => exact .inl h
  | clear => cases h

theorem installed_run {ms : List (Move α)} {a : α} (h : (s.run ms).cache.installed = some (f, a)) :
    s.cache.installed = some (f, a) ∨
      ∃ p q n job, ms = p ++ .finish n (.ok a) :: q ∧ (s.run p).running? n = some job ∧ job.fingerprint = f ∧
        (s.run p).cache.latest = some f := by
  induction ms generalizing s with
  | nil => exact .inl h
  | cons m ms ih =>
    rcases ih h with hnow | ⟨p, q, n, job, rfl, hlater⟩
    · rcases installed_act hnow with hold | ⟨n, job, rfl, hend⟩
      · exact .inl hold
      · exact .inr ⟨[], ms, n, job, rfl, hend⟩
    · exact .inr ⟨m :: p, q, n, job, rfl, hlater⟩

theorem jobs_run {n : Nat} {job : Request} (h : s.jobs[n]? = some job) (ms : List (Move α)) :
    (s.run ms).jobs[n]? = some job :=
  run_keeps (P := fun s => s.jobs[n]? = some job) (fun s m hs => (s.effect m).jobs hs) h ms

/-- After a clearing, a table is installed only by a build that ends later, when its fingerprint is the last wish
since; and then it is, also if the build was in flight when the cache was cleared. -/
theorem installed_after_clear (before after : List (Move α)) :
    let s := (({} : Session α).run before).act .clear
    let t := s.run after
    (∀ f a, t.cache.installed = some (f, a) →
      ∃ p q n job, after = p ++ .finish n (.ok a) :: q ∧ (s.run p).running? n = some job ∧ job.fingerprint = f ∧
        (s.wishes p).getLast? = some (some f)) ∧
    ∀ n job a, s.jobs[n]? = some job → t.outcome? n = none →
      (t.act (.finish n (.ok a))).cache.installed =
        if (s.wishes after).getLast? = some (some job.fingerprint) then some (job.fingerprint, a)
        else t.cache.installed := by
  intro s t
  -- nothing is wished for right after the clearing
  have hlast (ms : List (Move α)) (f : Fingerprint) :
      (s.run ms).cache.latest = some f ↔ (s.wishes ms).getLast? = some (some f) := by
    rw [latest_run]
    cases (s.wishes ms).getLast? with
    | none => simp [s, act, Cache.clear]
    | some w => simp
  constructor
  · intro f a hinstalled
    rcases installed_run hinstalled with hold | ⟨p, q, n, job, hsplit, hrunning, hf, hlatest⟩
    · cases hold
    · exact ⟨p, q, n, job, hsplit, hrunning, hf, (hlast p f).mp hlatest⟩
  · intro n job a hjob hopen
    have hrunning : t.running? n = some job := running?_eq_some.mpr ⟨hopen, jobs_run hjob after⟩
    simp only [act, finish, hrunning, Cache.finish_installed, t, hlast]
    rfl

/-- A build that is in flight when the cache is cleared is joined by the next request for its fingerprint, and then
installed. -/
theorem installed_after_clear_rejoined :
    let q : Request := ⟨.default, ⟨.root, []⟩, ⟨.root, []⟩⟩
    let s := (({} : Session Nat).run [.ask [] q, .begin 0]).act .clear
    let t := s.run [.ask [] q, .begin 1]
    s.running? 0 = some q ∧ s.cache.latest = none ∧
      (t.act (.finish 0 (.ok 7))).cache.installed = some (q.fingerprint, 7) := by
  intro q s t
  refine ⟨rfl, rfl, ?_⟩
  have hwish : (s.wishes [.ask [] q, .begin 1]).getLast? = some (some q.fingerprint) := rfl
  have hopen : t.outcome? 0 = none := by
    simp [t, s, run, act, begin, fresh?, Cache.request, Cache.table?, Cache.flight?, Cache.clear, outcome?]
  have hend := (installed_after_clear [.ask [] q, .begin 0] [.ask [] q, .begin 1]).2 0 q 7 rfl hopen
  simp only [t, s]
  rw [hend, if_pos hwish]

end ClassTidy.Session
