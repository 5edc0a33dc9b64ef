/-
  ClassTidy.Proofs.Waiters — what waiters get, along every schedule.

  A move leaves a waiter as it is, lets it begin, lets it hear how its build came out, or
  cancels it (`Goes`, `waiter_act`). What a waiter waits for or holds belongs to a build of the
  fingerprint it asked for (`Apt`), however the table was come by: it was installed, the waiter
  started its build, or it joined one that was in flight. A waiter on a build stays with that
  build: at every later time it waits for it, is cancelled, or holds its outcome (`Follows`).

  Cancelling is seen by nobody else. Of two sessions that differ in one waiter, the same moves
  make two such sessions, as long as that waiter does not begin (`Alike.act`); so a schedule
  with a waiter cancelled and the same schedule without differ in that waiter alone.
-/
import ClassTidy.Proofs.Supersession

namespace ClassTidy

namespace Stage

variable {α : Type}

theorem ofOutcome_ne_fresh (outcome : Except Failure α) : ofOutcome outcome ≠ .fresh := by
  cases outcome <;> simp [ofOutcome]

theorem ofOutcome_ne_waiting (outcome : Except Failure α) (n : Nat) : ofOutcome outcome ≠ .waiting n := by
  cases outcome <;> simp [ofOutcome]

theorem ofOutcome_ne_cancelled (outcome : Except Failure α) : ofOutcome outcome ≠ .cancelled := by
  cases outcome <;> simp [ofOutcome]

theorem ofOutcome_inj {o o' : Except Failure α} (h : ofOutcome o = ofOutcome o') : o = o' := by
  cases o <;> cases o' <;> cases h <;> rfl

end Stage

/-- The move in which a waiter begins. -/
def Move.begins {α : Type} (i : Nat) : Move α → Bool
  | .begin j => j = i
  | _ => false

theorem Move.begins_iff {α : Type} {i : Nat} {m : Move α} : m.begins i = true ↔ m = .begin i := by
  cases m with
  | begin j => simp [begins]
  | _ => simp [begins]

namespace Session

variable {α : Type} {s t : Session α} {i n : Nat} {w w' : Waiter α}

/-! ## What a move can do to a waiter -/

theorem fresh?_eq_some {id : Text} {q : Request} :
    s.fresh? i = some (id, q) ↔ s.waiters[i]? = some ⟨id, q, .fresh⟩ := by
  unfold fresh?
  split
  · rename_i id' q' hw
    simp [hw]
  · rename_i hw
    constructor
    · intro h
      cases h
    · intro h
      exact absurd h (hw id q)

/-- Only a waiter that has not begun is changed by a beginning, and only by its own. -/
theorem begin_other (hw : s.waiters[i]? = some w) {j : Nat} (h : j = i → w.stage ≠ .fresh) :
    (s.begin j).waiters[i]? = some w := by
  unfold begin
  split
  · rename_i id q hfresh
    have hj : j ≠ i := by
      rintro rfl
      obtain rfl := Option.some.inj (hw.symm.trans (fresh?_eq_some.mp hfresh))
      exact h rfl rfl
    rw [List.getElem?_set_ne hj]
    exact hw
  · exact hw

theorem finish_waiters (s : Session α) (n : Nat) (outcome : Except Failure α) :
    (s.finish n outcome).waiters = s.waiters := by
  unfold finish
  split <;> rfl

theorem told_cases (s : Session α) (w : Waiter α) : s.told w = w ∨
    ∃ n outcome, w.stage = .waiting n ∧ s.outcome? n = some outcome ∧
      s.told w = { w with stage := .ofOutcome outcome } := by
  unfold told
  split
  · rename_i n hn
    cases hout : s.outcome? n with
    | none => exact .inl rfl
    | some outcome => exact .inr ⟨n, outcome, hn, hout, rfl⟩
  · exact .inl rfl

theorem cancel_cases (w : Waiter α) : w.cancel = w ∨ w.cancel = { w with stage := .cancelled } := by
  unfold Waiter.cancel
  split
  · exact .inr rfl
  · exact .inr rfl
  · exact .inl rfl

/-- What a move from `s` to `t` can make of a waiter. -/
inductive Goes (s t : Session α) (w : Waiter α) : Waiter α → Prop
  | stays : Goes s t w w
  | begins (fresh : w.stage = .fresh)
      (jobs : ∀ n, (s.cache.request w.request.fingerprint).1 = .started n → t.jobs = s.jobs ++ [w.request]) :
      Goes s t w { w with stage := .ofReply (s.cache.request w.request.fingerprint).1 }
  | hears (n : Nat) (outcome : Except Failure α) (waits : w.stage = .waiting n) (ended : s.outcome? n = some outcome) :
      Goes s t w { w with stage := .ofOutcome outcome }
  | cancelled : Goes s t w { w with stage := .cancelled }

theorem waiter_act (h : s.waiters[i]? = some w) (m : Move α) :
    ∃ w', (s.act m).waiters[i]? = some w' ∧ Goes s (s.act m) w w' := by
  cases m with
  | ask id q => exact ⟨w, List.getElem?_append_left (List.getElem?_eq_some_iff.mp h).1 ▸ h, .stays⟩
  | begin j =>
    by_cases hbegins : j = i ∧ w.stage = .fresh
    · obtain ⟨rfl, hstage⟩ := hbegins
      obtain ⟨id, q, stage⟩ := w
      subst hstage
      have hfresh : s.fresh? j = some (id, q) := fresh?_eq_some.mpr h
      refine ⟨_, ?_, .begins rfl ?_⟩
      · simp only [act, begin, hfresh]
        exact List.getElem?_set_self (List.getElem?_eq_some_iff.mp h).1
      · intro n hn
        simp only [act, begin, hfresh] at hn ⊢
        rw [hn]
    · exact ⟨w, begin_other h fun hj hstage => hbegins ⟨hj, hstage⟩, .stays⟩
  | finish n outcome => exact ⟨w, by rw [act, finish_waiters, h], .stays⟩
  | hear j =>
    by_cases hj : j = i
    · refine ⟨s.told w, by simp [act, hj, h], ?_⟩
      rcases told_cases s w with htold | ⟨n, outcome, hn, hout, htold⟩
      · rw [htold]
        exact .stays
      · rw [htold]
        exact .hears n outcome hn hout
    · exact ⟨w, by simp [act, hj, h], .stays⟩
  | cancel j =>
    by_cases hj : j = i
    · refine ⟨w.cancel, by simp [act, hj, h], ?_⟩
      rcases cancel_cases w with hcancel | hcancel
      · rw [hcancel]
        exact .stays
      · rw [hcancel]
        exact .cancelled
    · exact ⟨w, by simp [act, hj, h], .stays⟩
  | clear => exact ⟨w, h, .stays⟩

theorem length_act (s : Session α) (m : Move α) :
    (s.act m).waiters.length = s.waiters.length ∨ ∃ id q, m = .ask id q := by
  cases m with
  | ask id q => exact .inr ⟨id, q, rfl⟩
  | begin j =>
    left
    simp only [act, begin]
    cases s.fresh? j with
    | none => rfl
    | some p => exact List.length_set
  | finish n outcome => exact .inl (by rw [act, finish_waiters])
  | hear j => exact .inl (List.length_modify _ _ _)
  | cancel j => exact .inl (List.length_modify _ _ _)
  | clear => exact .inl rfl

/-- A waiter was there before a move, or has just come. -/
theorem waiter_of_act {m : Move α} (h : w' ∈ (s.act m).waiters) :
    (∃ w ∈ s.waiters, Goes s (s.act m) w w') ∨ w'.stage = .fresh := by
  obtain ⟨i, hi⟩ := List.mem_iff_getElem?.mp h
  by_cases hold : i < s.waiters.length
  · obtain ⟨w, hw, hgoes⟩ := waiter_act (List.getElem?_eq_getElem hold) m
    obtain rfl : w = w' := Option.some.inj (hw.symm.trans hi)
    exact .inl ⟨_, List.getElem_mem hold, hgoes⟩
  · rcases length_act s m with hlength | ⟨id, q, rfl⟩
    · exact absurd (hlength ▸ (List.getElem?_eq_some_iff.mp hi).1) hold
    · rcases List.mem_append.mp h with hw | hw
      · exact .inl ⟨w', hw, .stays⟩
      · rw [List.mem_singleton.mp hw]
        exact .inr rfl

/-! ## The right answer -/

/-- What a waiter waits for or holds belongs to a build of the fingerprint it asked for. -/
structure Apt (s : Session α) (w : Waiter α) : Prop where
  waits : ∀ n, w.stage = .waiting n → ∃ job, s.jobs[n]? = some job ∧ job.fingerprint = w.request.fingerprint
  holds : ∀ outcome, w.stage = .ofOutcome outcome →
    ∃ n job, s.jobs[n]? = some job ∧ s.outcome? n = some outcome ∧ job.fingerprint = w.request.fingerprint

theorem apt_fresh (h : w.stage = .fresh) : s.Apt w := by
  refine ⟨fun n hn => ?_, fun outcome ho => ?_⟩
  · rw [h] at hn
    cases hn
  · rw [h] at ho
    exact absurd ho.symm (Stage.ofOutcome_ne_fresh outcome)

theorem Apt.effect (h : s.Apt w) (he : Effect s t) : t.Apt w := by
  refine ⟨fun n hn => ?_, fun outcome ho => ?_⟩
  · obtain ⟨job, hjob, hf⟩ := h.waits n hn
    exact ⟨job, he.jobs hjob, hf⟩
  · obtain ⟨n, job, hjob, hout, hf⟩ := h.holds outcome ho
    exact ⟨n, job, he.jobs hjob, he.outcome? hout, hf⟩

/-- A reply of the cache belongs to a build of the fingerprint asked for. -/
theorem apt_begins (ho : s.Orderly) (hc : s.Current) (he : Effect s t)
    (hjobs : ∀ n, (s.cache.request w.request.fingerprint).1 = .started n → t.jobs = s.jobs ++ [w.request]) :
    t.Apt { w with stage := .ofReply (s.cache.request w.request.fingerprint).1 } := by
  have hreq := s.cache.requested w.request.fingerprint
  cases hr : s.cache.request w.request.fingerprint with
  | mk reply cache =>
    rw [hr] at hreq hjobs
    cases hreq with
    | ready a installed =>
      refine ⟨fun n hn => (by cases hn), fun outcome hout => ?_⟩
      obtain rfl : .ok a = outcome := Stage.ofOutcome_inj hout
      obtain ⟨e, hlast, hmade⟩ := hc.made _ a installed
      have hmem : e ∈ s.ended := List.mem_reverse.mp (List.mem_of_find?_eq_some hlast)
      have hf : e.job.fingerprint = w.request.fingerprint := by simpa using List.find?_some hlast
      obtain ⟨hjob, hended⟩ := ho.ended e hmem
      rw [hmade] at hended
      exact ⟨e.number, e.job, he.jobs hjob, he.outcome? hended, hf⟩
    | joined x absent mem same =>
      refine ⟨fun n hn => ?_, fun outcome hout => ?_⟩
      · cases hn
        obtain ⟨job, hrunning, hf⟩ := (ho.registered x).mp mem
        exact ⟨job, he.jobs (running?_eq_some.mp hrunning).2, hf.trans same⟩
      · exact absurd hout.symm (Stage.ofOutcome_ne_waiting outcome _)
    | started absent free =>
      refine ⟨fun n hn => ?_, fun outcome hout => ?_⟩
      · cases hn
        refine ⟨w.request, ?_, rfl⟩
        rw [hjobs _ rfl, ho.started, List.getElem?_concat_length]
      · exact absurd hout.symm (Stage.ofOutcome_ne_waiting outcome _)

theorem Apt.goes (h : s.Apt w) (ho : s.Orderly) (hc : s.Current) (he : Effect s t) (hgoes : Goes s t w w') :
    t.Apt w' := by
  cases hgoes with
  | stays => exact h.effect he
  | begins fresh jobs => exact apt_begins ho hc he jobs
  | hears n outcome waits ended =>
    obtain ⟨job, hjob, hf⟩ := h.waits n waits
    refine ⟨fun m hm => ?_, fun o hout => ?_⟩
    · exact absurd hm (Stage.ofOutcome_ne_waiting outcome m)
    · obtain rfl : outcome = o := Stage.ofOutcome_inj hout
      exact ⟨n, job, he.jobs hjob, he.outcome? ended, hf⟩
  | cancelled =>
    exact ⟨fun n hn => (by cases hn), fun outcome hout => absurd hout.symm (Stage.ofOutcome_ne_cancelled outcome)⟩

theorem apt_run (ms : List (Move α)) :
    ∀ w ∈ (({} : Session α).run ms).waiters, (({} : Session α).run ms).Apt w := by
  have hstep (s : Session α) (m : Move α) (h : s.Orderly ∧ s.Current ∧ ∀ w ∈ s.waiters, s.Apt w) :
      (s.act m).Orderly ∧ (s.act m).Current ∧ ∀ w ∈ (s.act m).waiters, (s.act m).Apt w := by
    obtain ⟨ho, hc, hapt⟩ := h
    refine ⟨ho.effect (s.effect m), hc.effect ho (s.effect m), fun w' hw' => ?_⟩
    rcases waiter_of_act hw' with ⟨w, hw, hgoes⟩ | hfresh
    · exact (hapt w hw).goes ho hc (s.effect m) hgoes
    · exact apt_fresh hfresh
  exact (run_keeps hstep ⟨orderly_empty, current_empty, fun w hw => by cases hw⟩ ms).2.2

/-! ## One outcome for all who wait -/

/-- What can become of a waiter on a build. -/
def Follows (s : Session α) (n : Nat) (w : Waiter α) : Prop :=
  w.stage = .waiting n ∨ w.stage = .cancelled ∨ ∃ outcome, s.outcome? n = some outcome ∧
    w.stage = .ofOutcome outcome

theorem Follows.ne_fresh (h : s.Follows n w) : w.stage ≠ .fresh := by
  rcases h with h | h | ⟨outcome, -, h⟩
  · simp [h]
  · simp [h]
  · rw [h]
    exact Stage.ofOutcome_ne_fresh outcome

theorem Follows.goes (h : s.Follows n w) (he : Effect s t) (hgoes : Goes s t w w') :
    t.Follows n w' ∧ w'.id = w.id ∧ w'.request = w.request := by
  cases hgoes with
  | stays =>
    refine ⟨?_, rfl, rfl⟩
    rcases h with h | h | ⟨outcome, hout, h⟩
    · exact .inl h
    · exact .inr (.inl h)
    · exact .inr (.inr ⟨outcome, he.outcome? hout, h⟩)
  | begins fresh jobs => exact absurd fresh h.ne_fresh
  | hears m outcome waits ended =>
    refine ⟨?_, rfl, rfl⟩
    rcases h with h | h | ⟨o, -, h⟩
    · obtain rfl : n = m := Stage.waiting.inj (h.symm.trans waits)
      exact .inr (.inr ⟨outcome, he.outcome? ended, rfl⟩)
    · rw [h] at waits
      cases waits
    · exact absurd (h.symm.trans waits) (Stage.ofOutcome_ne_waiting o m)
  | cancelled => exact ⟨.inr (.inl rfl), rfl, rfl⟩

theorem Follows.run (h : s.Follows n w) (hw : s.waiters[i]? = some w) (ms : List (Move α)) :
    ∃ w', (s.run ms).waiters[i]? = some w' ∧ (s.run ms).Follows n w' ∧ w'.id = w.id ∧
      w'.request = w.request := by
  refine run_keeps (P := fun s => ∃ w', s.waiters[i]? = some w' ∧ s.Follows n w' ∧ w'.id = w.id ∧
    w'.request = w.request)
    ?_ ⟨w, hw, h, rfl, rfl⟩ ms
  rintro s m ⟨v, hv, hfollows, hid, hrequest⟩
  obtain ⟨v', hv', hgoes⟩ := waiter_act hv m
  obtain ⟨hfollows', hid', hrequest'⟩ := hfollows.goes (s.effect m) hgoes
  exact ⟨v', hv', hfollows', hid'.trans hid, hrequest'.trans hrequest⟩

/-- Once its build has ended, a waiter on it that is not cancelled holds the outcome as soon as it has heard. -/
theorem Follows.hear (h : s.Follows n w) (hw : s.waiters[i]? = some w) (hlive : w.stage ≠ .cancelled)
    {outcome : Except Failure α} (hout : s.outcome? n = some outcome) :
    (s.act (.hear i)).waiters[i]? = some { w with stage := .ofOutcome outcome } := by
  have htold : s.told w = { w with stage := .ofOutcome outcome } := by
    rcases h with h | h | ⟨o, ho, h⟩
    · simp only [told, h, hout]
    · exact absurd h hlive
    · obtain rfl : o = outcome := Option.some.inj (ho.symm.trans hout)
      obtain ⟨id, q, stage⟩ := w
      simp only at h
      subst h
      cases o <;> rfl
  simp [act, hw, htold]

/-! ## Letting a build go -/

theorem begin_running? {job : Request} (h : s.running? n = some job) (j : Nat) : (s.begin j).running? n = some job := by
  have hended : (s.begin j).ended = s.ended := by
    unfold begin
    split <;> rfl
  obtain ⟨hopen, hjob⟩ := running?_eq_some.mp h
  refine running?_eq_some.mpr ⟨?_, (effect_begin s j).jobs hjob⟩
  rw [outcome?, hended]
  exact hopen

/-- While others begin, a waiter on a build stays as it is, and the build goes on. -/
theorem run_begins {job : Request} (hw : s.waiters[i]? = some w) (hbegun : w.stage ≠ .fresh)
    (hrunning : s.running? n = some job) (places : List Nat) :
    (s.run (places.map .begin)).waiters[i]? = some w ∧ (s.run (places.map .begin)).running? n = some job := by
  induction places generalizing s with
  | nil => exact ⟨hw, hrunning⟩
  | cons j places ih => exact ih (begin_other hw fun _ => hbegun) (begin_running? hrunning j)

/-- Who does not wait hears nothing new. -/
theorem run_hears_done (hw : s.waiters[i]? = some w) (hdone : ∀ n, w.stage ≠ .waiting n) (places : List Nat) :
    (s.run (places.map .hear)).waiters[i]? = some w := by
  induction places generalizing s with
  | nil => exact hw
  | cons j places ih =>
    refine ih (s := s.act (.hear j)) ?_
    rcases told_cases s w with htold | ⟨n, -, hwaits, -⟩
    · simp [act, List.getElem?_modify, hw, htold]
    · exact absurd hwaits (hdone n)

/-- When all have heard, a waiter on a build that has ended holds the outcome. -/
theorem Follows.run_hears (h : s.Follows n w) (hw : s.waiters[i]? = some w) (hlive : w.stage ≠ .cancelled)
    {outcome : Except Failure α} (hout : s.outcome? n = some outcome) {places : List Nat} (hi : i ∈ places) :
    (s.run (places.map .hear)).waiters[i]? = some { w with stage := .ofOutcome outcome } := by
  induction places generalizing s with
  | nil => cases hi
  | cons j places ih =>
    by_cases hj : i = j
    · subst hj
      exact run_hears_done (h.hear hw hlive hout) (Stage.ofOutcome_ne_waiting outcome) places
    · have hkept : (s.act (.hear j)).waiters[i]? = some w := by simp [act, Ne.symm hj, hw]
      exact ih (s := s.act (.hear j)) h hkept hout ((List.mem_cons.mp hi).resolve_left hj)

/-- A build that is let go ends, and everyone on it is told how. -/
theorem release_told {job : Request} (hrunning : s.running? n = some job) (hw : s.waiters[i]? = some w)
    (hwaits : w.stage = .waiting n) (outcome : Except Failure α) :
    (s.step (.release n outcome)).waiters[i]? = some { w with stage := .ofOutcome outcome } := by
  have hbegun : w.stage ≠ .fresh := by simp [hwaits]
  obtain ⟨hwaiter, hgoes⟩ := run_begins hw hbegun hrunning (List.range s.waiters.length)
  have hplace : i ∈ List.range s.waiters.length := List.mem_range.mpr (List.getElem?_eq_some_iff.mp hw).1
  have hstep : s.step (.release n outcome) =
      (((s.run ((List.range s.waiters.length).map .begin)).finish n outcome).run
        ((List.range s.waiters.length).map .hear)) :=
    List.foldl_append
  have hopen := (running?_eq_some.mp hgoes).1
  generalize s.run ((List.range s.waiters.length).map .begin) = u at hstep hwaiter hgoes hopen
  have hfinish : u.finish n outcome = u.withEnd u.waiters ⟨n, job, outcome⟩ := by
    simp only [finish, hgoes, withEnd]
  have hout : (u.withEnd u.waiters ⟨n, job, outcome⟩).outcome? n = some outcome := by
    rw [outcome?_withEnd, hopen, if_pos rfl]
    rfl
  rw [hstep, hfinish]
  exact Follows.run_hears (s := u.withEnd u.waiters ⟨n, job, outcome⟩) (.inl hwaits) hwaiter
    (by simp [hwaits]) hout hplace

/-! ## Cancelling -/

/-- Sessions that differ in one waiter at most. -/
structure Alike (i : Nat) (s t : Session α) : Prop where
  cache : s.cache = t.cache
  jobs : s.jobs = t.jobs
  ended : s.ended = t.ended
  length : s.waiters.length = t.waiters.length
  others : ∀ j, j ≠ i → s.waiters[j]? = t.waiters[j]?

theorem Alike.outcome? (h : Alike i s t) (n : Nat) : s.outcome? n = t.outcome? n := by
  rw [Session.outcome?, Session.outcome?, h.ended]

theorem Alike.running? (h : Alike i s t) (n : Nat) : s.running? n = t.running? n := by
  rw [Session.running?, Session.running?, h.outcome?, h.jobs]

theorem Alike.modify (h : Alike i s t) (j : Nat) {f g : Waiter α → Waiter α} (hfg : ∀ w, f w = g w) :
    Alike i { s with waiters := s.waiters.modify j f } { t with waiters := t.waiters.modify j g } := by
  obtain rfl : f = g := funext hfg
  refine ⟨h.cache, h.jobs, h.ended, by simp [h.length], fun k hk => ?_⟩
  simp only [List.getElem?_modify, h.others k hk]

theorem Alike.act (h : Alike i s t) {m : Move α} (hm : m ≠ .begin i) : Alike i (s.act m) (t.act m) := by
  cases m with
  | ask id q =>
    refine ⟨h.cache, h.jobs, h.ended, by simp [Session.act, h.length], fun k hk => ?_⟩
    simp only [Session.act, List.getElem?_append, h.length, h.others k hk]
  | begin j =>
    have hj : j ≠ i := fun hji => hm (hji ▸ rfl)
    have hfresh : s.fresh? j = t.fresh? j := by rw [fresh?, fresh?, h.others j hj]
    simp only [Session.act, begin, hfresh]
    cases t.fresh? j with
    | none => exact h
    | some p =>
      refine ⟨by simp [h.cache], by simp [h.cache, h.jobs], h.ended, by simp [h.length], fun k hk => ?_⟩
      simp only [List.getElem?_set, h.cache, h.length, h.others k hk]
  | finish n outcome =>
    simp only [Session.act, finish, h.running?]
    cases t.running? n with
    | none => exact h
    | some job => exact ⟨by simp [h.cache], h.jobs, by simp [h.ended], h.length, h.others⟩
  | hear j =>
    refine h.modify j fun w => ?_
    simp only [told, h.outcome?]
  | cancel j => exact h.modify j fun _ => rfl
  | clear => exact ⟨by simp [Session.act, h.cache], h.jobs, h.ended, h.length, h.others⟩

/-- A waiter has begun. -/
def Begun (s : Session α) (i : Nat) : Prop := ∃ w, s.waiters[i]? = some w ∧ w.stage ≠ .fresh

theorem Begun.begin (h : s.Begun i) : s.act (.begin i) = s := by
  obtain ⟨w, hw, hstage⟩ := h
  have hfresh : s.fresh? i = none := by
    cases hf : s.fresh? i with
    | none => rfl
    | some p =>
      rw [fresh?_eq_some.mp hf] at hw
      obtain rfl := Option.some.inj hw
      exact absurd rfl hstage
  simp only [Session.act, Session.begin, hfresh]

theorem Begun.act (h : s.Begun i) (m : Move α) : (s.act m).Begun i := by
  obtain ⟨w, hw, hstage⟩ := h
  obtain ⟨w', hw', hgoes⟩ := waiter_act hw m
  refine ⟨w', hw', ?_⟩
  cases hgoes with
  | stays => exact hstage
  | begins fresh jobs => exact absurd fresh hstage
  | hears n outcome waits ended => exact Stage.ofOutcome_ne_fresh outcome
  | cancelled => simp

/-- A waiter that has begun on one side does not on the other: its first turn may be left out there. -/
theorem Alike.run (h : Alike i s t) (hs : s.Begun i) (ms : List (Move α)) :
    Alike i (s.run ms) (t.run (ms.filter (!·.begins i))) := by
  induction ms generalizing s t with
  | nil => exact h
  | cons m ms ih =>
    by_cases hm : m = .begin i
    · rw [List.filter_cons_of_neg (by simp [Move.begins_iff.mpr hm]), hm, run, List.foldl_cons, hs.begin]
      exact ih h hs
    · have hkept : m.begins i = false := Bool.eq_false_iff.mpr (mt Move.begins_iff.mp hm)
      rw [List.filter_cons_of_pos (by simp [hkept])]
      exact ih (h.act hm) (hs.act m)

/-- For a waiter that has begun there is no first turn to leave out. -/
theorem Begun.run_filter (h : s.Begun i) (ms : List (Move α)) : s.run (ms.filter (!·.begins i)) = s.run ms := by
  induction ms generalizing s with
  | nil => rfl
  | cons m ms ih =>
    by_cases hm : m = .begin i
    · rw [List.filter_cons_of_neg (by simp [Move.begins_iff.mpr hm]), hm, run, run, List.foldl_cons, h.begin]
      exact ih h
    · have hkept : m.begins i = false := Bool.eq_false_iff.mpr (mt Move.begins_iff.mp hm)
      rw [List.filter_cons_of_pos (by simp [hkept])]
      exact ih (h.act m)

theorem alike_cancel (h : s.waiters[i]? = some w) : Alike i (s.act (.cancel i)) s ∧ (s.act (.cancel i)).Begun i := by
  constructor
  · refine ⟨rfl, rfl, rfl, List.length_modify _ _ _, fun j hj => ?_⟩
    simp [act, Ne.symm hj]
  · refine ⟨w.cancel, by simp [act, h], ?_⟩
    unfold Waiter.cancel
    split
    · simp
    · simp
    · rename_i hfresh _
      exact hfresh

/-- What a waiter is told is the outcome of a build of the fingerprint that it asked for. A waiter on a build that is
not cancelled waits while the build runs, and holds its outcome once it has heard of the end; all hear of it when the
build is let go. Cancelling a waiter changes no other waiter and nothing of the cache, then or later; one that had not
begun is as one that never gets a turn. -/
theorem waiters_served (ms : List (Move α)) :
    let s := ({} : Session α).run ms
    (∀ w ∈ s.waiters, ∀ outcome, w.stage = .ofOutcome outcome →
      ∃ n job, s.jobs[n]? = some job ∧ s.outcome? n = some outcome ∧ job.fingerprint = w.request.fingerprint) ∧
    (∀ i w n, s.waiters[i]? = some w → w.stage = .waiting n → ∀ later,
      let t := s.run later
      ∃ w', t.waiters[i]? = some w' ∧ w'.id = w.id ∧ w'.request = w.request ∧
        (w'.stage = .cancelled ∨
        (w'.stage = .waiting n ∧ ∃ job, t.running? n = some job) ∨
        ∃ outcome, t.outcome? n = some outcome ∧ (w'.stage = .waiting n ∨ w'.stage = .ofOutcome outcome) ∧
          (t.act (.hear i)).waiters[i]? = some { w' with stage := .ofOutcome outcome })) ∧
    (∀ (i : Nat) (w : Waiter α) n job, s.waiters[i]? = some w → w.stage = .waiting n →
      s.running? n = some job →
      ∀ outcome, (s.step (.release n outcome)).waiters[i]? = some { w with stage := .ofOutcome outcome }) ∧
    ∀ i w, s.waiters[i]? = some w → ∀ later,
      (w.stage ≠ .fresh → Alike i ((s.act (.cancel i)).run later) (s.run later)) ∧
      Alike i ((s.act (.cancel i)).run later) (s.run (later.filter (!·.begins i))) := by
  intro s
  have hapt : ∀ w ∈ s.waiters, s.Apt w := apt_run ms
  refine ⟨fun w hw => (hapt w hw).holds, ?_, ?_, ?_⟩
  · intro i w n hw hwaits later t
    have hfollows : s.Follows n w := .inl hwaits
    obtain ⟨w', hw', hfollows', hid, hrequest⟩ := hfollows.run hw later
    refine ⟨w', hw', hid, hrequest, ?_⟩
    by_cases hlive : w'.stage = .cancelled
    · exact .inl hlive
    right
    cases hout : t.outcome? n with
    | none =>
      left
      obtain ⟨job, hjob, -⟩ := (hapt w (List.mem_of_getElem? hw)).waits n hwaits
      rcases hfollows' with h | h | ⟨outcome, h, -⟩
      · exact ⟨h, job, running?_eq_some.mpr ⟨hout, jobs_run hjob later⟩⟩
      · exact absurd h hlive
      · rw [show t.outcome? n = some outcome from h] at hout
        cases hout
    | some outcome =>
      refine .inr ⟨outcome, rfl, ?_, hfollows'.hear hw' hlive hout⟩
      rcases hfollows' with h | h | ⟨o, ho, h⟩
      · exact .inl h
      · exact absurd h hlive
      · obtain rfl : o = outcome := Option.some.inj (ho.symm.trans hout)
        exact .inr h
  · intro i w n job hw hwaits hrunning outcome
    exact release_told hrunning hw hwaits outcome
  · intro i w hw later
    obtain ⟨halike, hbegun⟩ := alike_cancel hw
    have hrun := halike.run hbegun later
    refine ⟨fun hstage => ?_, hrun⟩
    have hs : s.Begun i := ⟨w, hw, hstage⟩
    rwa [hs.run_filter] at hrun

end Session

end ClassTidy
