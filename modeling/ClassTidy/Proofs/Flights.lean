/-
  ClassTidy.Proofs.Flights — the builds in flight, along every schedule.

  What a request and a move can do is said once (`Cache.requested`, `Session.effect`): a move
  leaves cache and builds alone, asks for a table that is installed or on its way, starts a
  build, ends one, or clears the cache. Every invariant of a session is a case analysis on
  that and an induction over the schedule (`Session.run_keeps`).

  `Session.Orderly` ties the register of the cache to the builds themselves: it holds those
  that have started and not ended, by their numbers and fingerprints, one for a fingerprint,
  and none for the fingerprint whose table is installed; a table and its fingerprint come and
  go together (`Cache.Paired`). A build leaves the register by its fingerprint and not by its
  number, so each of these facts needs the others.
-/
import ClassTidy.Cache.Session
import Mathlib.Data.List.Nodup

namespace ClassTidy

/-! ## The cache -/

namespace Cache

variable {α ε : Type} {c : Cache α} {f : Fingerprint}

/-- The table that is installed, with its fingerprint. -/
def installed (c : Cache α) : Option (Fingerprint × α) :=
  match c.fingerprint?, c.content? with
  | some f, some a => some (f, a)
  | _, _ => none

theorem installed_eq_some {a : α} : c.installed = some (f, a) ↔ c.fingerprint? = some f ∧ c.content? = some a := by
  unfold installed
  cases c.fingerprint? <;> cases c.content? <;> simp

theorem table?_eq_some {a : α} : c.table? f = some a ↔ c.installed = some (f, a) := by
  rw [installed_eq_some]
  unfold table?
  cases c.content? with
  | none => simp
  | some b =>
    by_cases hf : c.fingerprint? = some f
    · simp [hf]
    · simp [hf]

/-- The table and its fingerprint are both there, or neither is. -/
def Paired (c : Cache α) : Prop := c.content? = none ↔ c.fingerprint? = none

theorem Paired.fingerprint?_eq_some (h : c.Paired) : c.fingerprint? = some f ↔ ∃ a, c.installed = some (f, a) := by
  simp only [installed_eq_some]
  refine ⟨fun hf => ?_, fun ⟨_, hf, _⟩ => hf⟩
  cases ha : c.content? with
  | none =>
    rw [h.mp ha] at hf
    cases hf
  | some a => exact ⟨a, hf, rfl⟩

theorem Paired.fingerprint?_ne (h : c.Paired) (hf : c.table? f = none) : c.fingerprint? ≠ some f := by
  intro hsome
  obtain ⟨a, ha⟩ := h.fingerprint?_eq_some.mp hsome
  rw [table?_eq_some.mpr ha] at hf
  cases hf

/-- What a request can come to, with the cache that it leaves. -/
inductive Requested (c : Cache α) (f : Fingerprint) : Reply α × Cache α → Prop
  | ready (a : α) (installed : c.installed = some (f, a)) : Requested c f (.ready a, { c with latest := some f })
  | joined (x : Flight) (absent : c.table? f = none) (mem : x ∈ c.flights) (same : x.fingerprint = f) :
      Requested c f (.joined x.number, { c with latest := some f })
  | started (absent : c.table? f = none) (free : ∀ x ∈ c.flights, x.fingerprint ≠ f) :
      Requested c f (.started c.started,
        { c with latest := some f, flights := c.flights ++ [⟨f, c.started⟩], started := c.started + 1 })

theorem requested (c : Cache α) (f : Fingerprint) : Requested c f (c.request f) := by
  unfold request
  cases htable : { c with latest := some f }.table? f with
  | some a =>
    simp only [htable]
    exact .ready a (table?_eq_some.mp htable)
  | none =>
    have habsent : c.table? f = none := htable
    cases hflight : { c with latest := some f }.flight? f with
    | some x =>
      simp only [htable, hflight]
      exact .joined x habsent (List.mem_of_find?_eq_some hflight) (by simpa using List.find?_some hflight)
    | none =>
      simp only [htable, hflight]
      exact .started habsent (by simpa [flight?] using hflight)

theorem request_latest (c : Cache α) (f : Fingerprint) : (c.request f).2.latest = some f := by
  have h := c.requested f
  generalize c.request f = reply at h
  cases h <;> rfl

theorem request_installed (c : Cache α) (f : Fingerprint) : (c.request f).2.installed = c.installed := by
  have h := c.requested f
  generalize c.request f = reply at h
  cases h <;> rfl

theorem finish_latest (c : Cache α) (f : Fingerprint) (outcome : Except ε α) :
    (c.finish f outcome).latest = c.latest := by
  unfold finish settle
  split <;> split <;> rfl

theorem finish_started (c : Cache α) (f : Fingerprint) (outcome : Except ε α) :
    (c.finish f outcome).started = c.started := by
  unfold finish settle
  split <;> split <;> rfl

theorem finish_flights (c : Cache α) (f : Fingerprint) (outcome : Except ε α) :
    (c.finish f outcome).flights = c.flights.filter fun x => x.fingerprint != f := by
  unfold finish settle
  split <;> split <;> rfl

/-- The end of a build decides about the table if its fingerprint was asked for last, and else leaves it. -/
theorem finish_installed (c : Cache α) (f : Fingerprint) (outcome : Except ε α) :
    (c.finish f outcome).installed =
      if c.latest = some f then outcome.toOption.map fun a => (f, a) else c.installed := by
  cases outcome with
  | ok a =>
    simp only [finish, settle]
    split <;> rfl
  | error e =>
    simp only [finish, settle]
    split <;> rfl

theorem Paired.finish (h : c.Paired) (f : Fingerprint) (outcome : Except ε α) : (c.finish f outcome).Paired := by
  unfold Cache.finish settle Paired
  split <;> split
  · simp
  · exact h
  · simp
  · exact h

theorem finish_installed_eq_some {outcome : Except ε α} {g : Fingerprint} {a : α} :
    (c.finish f outcome).installed = some (g, a) ↔
      (c.latest = some f ∧ f = g ∧ outcome = .ok a) ∨ (c.latest ≠ some f ∧ c.installed = some (g, a)) := by
  rw [finish_installed]
  by_cases h : c.latest = some f
  · cases outcome <;> simp [h, Except.toOption]
  · simp [h]

end Cache

namespace Session

variable {α : Type} {s t : Session α} {n : Nat} {job : Request} {outcome : Except Failure α}

/-! ## What a move can do -/

theorem running?_eq_some : s.running? n = some job ↔ s.outcome? n = none ∧ s.jobs[n]? = some job := by
  unfold running?
  cases s.outcome? n with
  | none => simp
  | some o => simp

/-- The session when a build for a request has started; `ws` are its waiters. -/
def withStart (s : Session α) (ws : List (Waiter α)) (q : Request) : Session α :=
  { s with
    waiters := ws
    cache := { s.cache with
      latest := some q.fingerprint
      flights := s.cache.flights ++ [⟨q.fingerprint, s.cache.started⟩]
      started := s.cache.started + 1 }
    jobs := s.jobs ++ [q] }

/-- The session when a build has ended. -/
def withEnd (s : Session α) (ws : List (Waiter α)) (e : Ended α) : Session α :=
  { s with
    waiters := ws
    cache := s.cache.finish e.job.fingerprint e.outcome
    ended := s.ended ++ [e] }

theorem outcome?_withEnd (s : Session α) (ws : List (Waiter α)) (e : Ended α) (n : Nat) :
    (s.withEnd ws e).outcome? n = (s.outcome? n).or (if e.number = n then some e.outcome else none) := by
  simp only [outcome?, withEnd, List.find?_append]
  cases s.ended.find? (fun e => e.number = n) with
  | some d => rfl
  | none =>
    by_cases hn : e.number = n
    · simp [hn]
    · simp [hn]

/-- What a move can do to the cache, to the builds and to the record of those that ended. -/
inductive Effect (s : Session α) : Session α → Prop
  | still (ws : List (Waiter α)) : Effect s { s with waiters := ws }
  | met (ws : List (Waiter α)) (f : Fingerprint)
      (known : s.cache.fingerprint? = some f ∨ ∃ x ∈ s.cache.flights, x.fingerprint = f) :
      Effect s { s with waiters := ws, cache := { s.cache with latest := some f } }
  | started (ws : List (Waiter α)) (q : Request) (absent : s.cache.table? q.fingerprint = none)
      (free : ∀ x ∈ s.cache.flights, x.fingerprint ≠ q.fingerprint) : Effect s (s.withStart ws q)
  | ended (ws : List (Waiter α)) (e : Ended α) (running : s.running? e.number = some e.job) :
      Effect s (s.withEnd ws e)
  | cleared (ws : List (Waiter α)) : Effect s { s with waiters := ws, cache := s.cache.clear }

theorem effect_begin (s : Session α) (i : Nat) : Effect s (s.begin i) := by
  unfold begin
  split
  · rename_i id q _
    have hreq := s.cache.requested q.fingerprint
    cases hr : s.cache.request q.fingerprint with
    | mk reply cache =>
      rw [hr] at hreq
      cases hreq with
      | ready a installed => exact .met _ _ (.inl (Cache.installed_eq_some.mp installed).1)
      | joined x absent mem same => exact .met _ _ (.inr ⟨x, mem, same⟩)
      | started absent free => exact .started _ q absent free
  · exact .still s.waiters

theorem effect (s : Session α) (m : Move α) : Effect s (s.act m) := by
  cases m with
  | ask id q => exact .still _
  | begin i => exact effect_begin s i
  | finish n outcome =>
    simp only [act, finish]
    split
    · rename_i job hrunning
      exact .ended s.waiters ⟨n, job, outcome⟩ hrunning
    · exact .still s.waiters
  | hear i => exact .still _
  | cancel i => exact .still _
  | clear => exact .cleared s.waiters

/-- What was started stays on record, -/
theorem Effect.jobs (h : Effect s t) (hjob : s.jobs[n]? = some job) : t.jobs[n]? = some job := by
  cases h with
  | started ws q => exact List.getElem?_append_left (List.getElem?_eq_some_iff.mp hjob).1 ▸ hjob
  | still => exact hjob
  | met => exact hjob
  | ended => exact hjob
  | cleared => exact hjob

/-- and so does how it came out. -/
theorem Effect.outcome? (h : Effect s t) (hout : s.outcome? n = some outcome) : t.outcome? n = some outcome := by
  cases h with
  | ended ws e =>
    rw [outcome?_withEnd, hout]
    rfl
  | still => exact hout
  | met => exact hout
  | started => exact hout
  | cleared => exact hout

/-! ## Schedules -/

/-- What every move keeps holds after every schedule. -/
theorem run_keeps {P : Session α → Prop} (hstep : ∀ s m, P s → P (s.act m)) (hs : P s) (ms : List (Move α)) :
    P (s.run ms) := by
  induction ms generalizing s with
  | nil => exact hs
  | cons m ms ih => exact ih (hstep s m hs)

/-! ## The register -/

/-- The register of the cache and the builds themselves. -/
structure Orderly (s : Session α) : Prop where
  started : s.cache.started = s.jobs.length
  ended : ∀ e ∈ s.ended, s.jobs[e.number]? = some e.job ∧ s.outcome? e.number = some e.outcome
  registered : ∀ x, x ∈ s.cache.flights ↔ ∃ job, s.running? x.number = some job ∧
    job.fingerprint = x.fingerprint
  single : (s.cache.flights.map (·.fingerprint)).Nodup
  paired : s.cache.Paired
  apart : ∀ x ∈ s.cache.flights, s.cache.fingerprint? ≠ some x.fingerprint

theorem Orderly.flight_eq (h : s.Orderly) {x y : Flight} (hx : x ∈ s.cache.flights) (hy : y ∈ s.cache.flights)
    (hxy : x.fingerprint = y.fingerprint) : x = y := List.inj_on_of_nodup_map h.single hx hy hxy

/-- A build of a fingerprint has started and not ended. -/
def InFlight (s : Session α) (f : Fingerprint) : Prop := ∃ n job, s.running? n = some job ∧ job.fingerprint = f

theorem Orderly.mem_flights (h : s.Orderly) (hrunning : s.running? n = some job) :
    ⟨job.fingerprint, n⟩ ∈ s.cache.flights := (h.registered _).mpr ⟨job, hrunning, rfl⟩

theorem Orderly.inFlight_iff (h : s.Orderly) {f : Fingerprint} :
    s.InFlight f ↔ ∃ x ∈ s.cache.flights, x.fingerprint = f := by
  constructor
  · rintro ⟨n, job, hrunning, hf⟩
    exact ⟨_, h.mem_flights hrunning, hf⟩
  · rintro ⟨x, hx, rfl⟩
    obtain ⟨job, hrunning, hf⟩ := (h.registered x).mp hx
    exact ⟨x.number, job, hrunning, hf⟩

/-- The number that the next build gets has not been used. -/
theorem Orderly.outcome?_next (h : s.Orderly) : s.outcome? s.jobs.length = none := by
  unfold outcome?
  rw [Option.map_eq_none_iff, List.find?_eq_none]
  intro e he hnumber
  have hlt := (List.getElem?_eq_some_iff.mp (h.ended e he).1).1
  simp only [decide_eq_true_eq] at hnumber
  omega

theorem Orderly.running?_withStart (h : s.Orderly) (ws : List (Waiter α)) (q : Request) :
    (s.withStart ws q).running? n = some job ↔ s.running? n = some job ∨ (n = s.jobs.length ∧ job = q) := by
  have hout : (s.withStart ws q).outcome? n = s.outcome? n := rfl
  have hjobs : (s.withStart ws q).jobs = s.jobs ++ [q] := rfl
  rw [running?_eq_some, running?_eq_some, hout, hjobs]
  rcases Nat.lt_trichotomy n s.jobs.length with hn | rfl | hn
  · simp [List.getElem?_append_left hn, Nat.ne_of_lt hn]
  · simp [h.outcome?_next, eq_comm]
  · simp [List.getElem?_eq_none (Nat.le_of_lt hn), List.getElem?_append_right (Nat.le_of_lt hn), Nat.ne_of_gt hn,
      Nat.sub_ne_zero_of_lt hn]

theorem running?_withEnd (s : Session α) (ws : List (Waiter α)) (e : Ended α) :
    (s.withEnd ws e).running? n = some job ↔ s.running? n = some job ∧ e.number ≠ n := by
  have hjobs : (s.withEnd ws e).jobs = s.jobs := rfl
  rw [running?_eq_some, running?_eq_some, outcome?_withEnd, hjobs, Option.or_eq_none_iff]
  by_cases hn : e.number = n
  · simp [hn]
  · simp [hn]

theorem Orderly.start (h : s.Orderly) {q : Request} (absent : s.cache.table? q.fingerprint = none)
    (free : ∀ x ∈ s.cache.flights, x.fingerprint ≠ q.fingerprint) (ws : List (Waiter α)) :
    (s.withStart ws q).Orderly := by
  refine ⟨?_, ?_, ?_, ?_, h.paired, ?_⟩
  · simp [withStart, h.started]
  · intro e he
    exact ⟨(Effect.started ws q absent free).jobs (h.ended e he).1, (h.ended e he).2⟩
  · intro x
    have hmem : x ∈ (s.withStart ws q).cache.flights ↔
        x ∈ s.cache.flights ∨ x = ⟨q.fingerprint, s.jobs.length⟩ := by
      simp [withStart, h.started]
    simp only [hmem, h.registered, h.running?_withStart]
    constructor
    · rintro (⟨j, hj, hf⟩ | rfl)
      · exact ⟨j, .inl hj, hf⟩
      · exact ⟨q, .inr ⟨rfl, rfl⟩, rfl⟩
    · rintro ⟨j, hj | ⟨hnumber, rfl⟩, hf⟩
      · exact .inl ⟨j, hj, hf⟩
      · rw [hf, ← hnumber]
        exact .inr rfl
  · rw [withStart, List.map_append, List.nodup_append]
    refine ⟨h.single, List.nodup_singleton _, ?_⟩
    intro f hf g hg
    obtain ⟨x, hx, rfl⟩ := List.mem_map.mp hf
    rw [List.map_singleton, List.mem_singleton] at hg
    exact hg ▸ free x hx
  · intro x hx
    rcases List.mem_append.mp hx with hx | hx
    · exact h.apart x hx
    · rw [List.mem_singleton.mp hx]
      exact h.paired.fingerprint?_ne absent

/-- A registered build has the fingerprint of a build that runs only if it is that one. -/
theorem Orderly.fingerprint_eq_iff (h : s.Orderly) (hrunning : s.running? n = some job) {x : Flight}
    (hx : x ∈ s.cache.flights) :
    x.fingerprint = job.fingerprint ↔ n = x.number := by
  constructor
  · intro hf
    rw [h.flight_eq hx (h.mem_flights hrunning) hf]
  · intro hnumber
    obtain ⟨j, hj, hf⟩ := (h.registered x).mp hx
    rw [← hnumber, hrunning, Option.some.injEq] at hj
    rw [← hf, hj]

theorem Orderly.finish (h : s.Orderly) {e : Ended α} (running : s.running? e.number = some e.job)
    (ws : List (Waiter α)) :
    (s.withEnd ws e).Orderly := by
  have hmem (x : Flight) :
      x ∈ (s.withEnd ws e).cache.flights ↔ x ∈ s.cache.flights ∧ x.fingerprint ≠ e.job.fingerprint := by
    simp [withEnd, Cache.finish_flights]
  have hpaired : (s.withEnd ws e).cache.Paired := h.paired.finish _ _
  refine ⟨?_, ?_, ?_, ?_, hpaired, ?_⟩
  · rw [withEnd, Cache.finish_started, h.started]
  · intro d hd
    obtain ⟨hopen, hjob⟩ := running?_eq_some.mp running
    rw [outcome?_withEnd]
    rcases List.mem_append.mp hd with hd | hd
    · rw [(h.ended d hd).2]
      exact ⟨(h.ended d hd).1, rfl⟩
    · rw [List.mem_singleton.mp hd, hopen, if_pos rfl]
      exact ⟨hjob, rfl⟩
  · intro x
    simp only [hmem, running?_withEnd]
    constructor
    · rintro ⟨hx, hf⟩
      obtain ⟨j, hj, hxf⟩ := (h.registered x).mp hx
      exact ⟨j, ⟨hj, mt (h.fingerprint_eq_iff running hx).mpr hf⟩, hxf⟩
    · rintro ⟨j, ⟨hj, hother⟩, hxf⟩
      have hx := (h.registered x).mpr ⟨j, hj, hxf⟩
      exact ⟨hx, mt (h.fingerprint_eq_iff running hx).mp hother⟩
  · rw [withEnd, Cache.finish_flights]
    exact h.single.sublist (List.filter_sublist.map _)
  · intro x hx hinstalled
    obtain ⟨hold, hother⟩ := (hmem x).mp hx
    obtain ⟨a, ha⟩ := hpaired.fingerprint?_eq_some.mp hinstalled
    rcases Cache.finish_installed_eq_some.mp ha with ⟨-, hf, -⟩ | ⟨-, hkept⟩
    · exact hother hf.symm
    · exact h.apart x hold (Cache.installed_eq_some.mp hkept).1

theorem Orderly.effect (h : s.Orderly) (he : Effect s t) : t.Orderly := by
  cases he with
  | still ws => exact ⟨h.started, h.ended, h.registered, h.single, h.paired, h.apart⟩
  | met ws f known => exact ⟨h.started, h.ended, h.registered, h.single, h.paired, h.apart⟩
  | started ws q absent free => exact h.start absent free ws
  | ended ws e running => exact h.finish running ws
  | cleared ws =>
    exact ⟨h.started, h.ended, h.registered, h.single, by simp [Cache.Paired, Cache.clear],
      fun x _ => by simp [Cache.clear]⟩

theorem orderly_empty : ({} : Session α).Orderly := by
  refine ⟨rfl, ?_, ?_, List.nodup_nil, by simp [Cache.Paired], ?_⟩
  · intro e he
    cases he
  · intro x
    simp [running?, outcome?]
  · intro x hx
    cases hx

theorem orderly_run (ms : List (Move α)) : (({} : Session α).run ms).Orderly :=
  run_keeps (fun s m h => h.effect (s.effect m)) orderly_empty ms

/-- The register holds the fingerprints of the builds that have started and not ended, each once; there is one build for
each of them, and none for the fingerprint whose table is installed. -/
theorem register_exact (ms : List (Move α)) :
    let s := ({} : Session α).run ms
    (s.cache.flights.map (·.fingerprint)).Nodup ∧
    (∀ f, f ∈ s.cache.flights.map (·.fingerprint) ↔ ∃ n job, s.running? n = some job ∧
      job.fingerprint = f) ∧
    (∀ m n job job', s.running? m = some job → s.running? n = some job' →
      job.fingerprint = job'.fingerprint → m = n) ∧
    ∀ f, s.cache.fingerprint? = some f → ¬ s.InFlight f := by
  intro s
  have h : s.Orderly := orderly_run ms
  refine ⟨h.single, ?_, ?_, ?_⟩
  · intro f
    rw [List.mem_map]
    exact h.inFlight_iff.symm
  · intro m n job job' hm hn hf
    exact congrArg Flight.number (h.flight_eq (h.mem_flights hm) (h.mem_flights hn) hf)
  · rintro f hf ⟨n, job, hrunning, rfl⟩
    exact h.apart _ (h.mem_flights hrunning) hf

end Session

end ClassTidy
