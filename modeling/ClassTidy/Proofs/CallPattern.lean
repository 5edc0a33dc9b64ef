/-
  ClassTidy.Proofs.CallPattern — calls as the matches of a pattern.

  What is read of the pattern of a call depends on the names: what they all begin with is put
  in front, and what is left of them is nothing, one character each, which makes a set, or
  more, which makes alternatives (`Fork`, `ofBranches_chars`). Whatever it is, matching tries
  the names in order, and takes the first that is followed by blanks and a parenthesis
  (`walk_fork`, `calls_found`). That is what the scan for calls does. Nor does what is known
  of the matches, their least width and the characters they can start with, keep a search
  from any of them (`width_calls`, `allows_calls`).

  Proved (`callsFrom_eq_matches`): the pattern of names as it is written can be read, and its
  matches in a text end behind the parentheses that the scan finds.
-/
import ClassTidy.Proofs.CallReading
import ClassTidy.Proofs.Callees
import ClassTidy.Proofs.Fencings

namespace ClassTidy.Pattern

/-! ## Branches -/

/-- What is put for texts that are left when their common start has been put in front: nothing if there is one, a set,
or alternatives. -/
inductive Fork : List Text → List Part → Prop
  | single : Fork [[]] []
  | set (cs : Text) : Fork (cs.map fun c => [c]) [.set false (cs.map fun c => .code c.toNat).eraseDups]
  | ways (ws : List Text) : Fork ws [.alt (ws.map chars)]

/-- What the names begin with is taken off them all. -/
theorem commonStart_chars (w : Text) (ws : List Text) : ∃ (start : Text) (rest : List Text),
    commonStart (chars w) (ws.map chars) = (chars start, rest.map chars) ∧ w :: ws = rest.map (start ++ ·) := by
  induction w generalizing ws with
  | nil => exact ⟨[], [] :: ws, rfl, by simp⟩
  | cons c w ih =>
    rw [show chars (c :: w) = .char c.toNat false :: chars w from rfl, commonStart]
    by_cases hall : (ws.map chars).all (startsWith (.char c.toNat false)) = true
    · have hhead : ∀ v ∈ ws, v = c :: v.drop 1 := by
        intro v hv
        have hstart := List.all_eq_true.mp hall _ (List.mem_map_of_mem hv)
        cases v with
        | nil => cases hstart
        | cons d v =>
          have hcd : c.toNat = d.toNat := by simpa [chars, startsWith, Part.same] using hstart
          rw [Char.toNat_inj.mp hcd]
          rfl
      obtain ⟨start, rest, hcommon, hrest⟩ := ih (ws.map (·.drop 1))
      have hdrop : (ws.map chars).map (·.drop 1) = (ws.map (·.drop 1)).map chars := by
        simp [chars]
      refine ⟨c :: start, rest, ?_, ?_⟩
      · rw [if_pos hall, hdrop, hcommon]
        rfl
      · have hcons := congrArg (List.map (c :: ·)) hrest
        rw [List.map_cons, List.map_map, List.map_map] at hcons
        have hback : ws.map ((c :: ·) ∘ (·.drop 1)) = ws :=
          (List.map_congr_left fun v hv => (hhead v hv).symm).trans (List.map_id ws)
        rw [hback] at hcons
        exact hcons
    · exact ⟨[], (c :: w) :: ws, by rw [if_neg hall]; rfl, by simp⟩

theorem singleItems_chars (ws : List Text) {items : List (List SetItem)}
    (h : (ws.map chars).mapM singleItems? = some items) :
    ∃ cs : Text, ws = cs.map (fun c => [c]) ∧ items.flatten = cs.map fun c => .code c.toNat := by
  induction ws generalizing items with
  | nil =>
    obtain rfl : [] = items := by simpa using h
    exact ⟨[], rfl, rfl⟩
  | cons w ws ih =>
    rw [List.map_cons, List.mapM_cons] at h
    obtain ⟨item, hitem, more, hmore, rfl⟩ : ∃ item, singleItems? (chars w) = some item ∧
        ∃ more, (ws.map chars).mapM singleItems? = some more ∧ item :: more = items := by
      simpa [Option.bind_eq_some_iff] using h
    obtain ⟨cs, rfl, hcs⟩ := ih hmore
    rcases w with - | ⟨c, - | ⟨d, w⟩⟩
    · cases hitem
    · obtain rfl := Option.some.inj hitem
      exact ⟨c :: cs, rfl, by rw [List.flatten_cons, hcs]; rfl⟩
    · cases hitem

theorem ofBranches_chars (w : Text) (ws : List Text) : ∃ (start : Text) (rest : List Text) (parts : List Part),
    w :: ws = rest.map (start ++ ·) ∧ Fork rest parts ∧
      ofBranches ((w :: ws).map chars) = chars start ++ parts := by
  cases ws with
  | nil => exact ⟨w, [[]], [], by simp, .single, by simp [ofBranches]⟩
  | cons v ws =>
    obtain ⟨start, rest, hcommon, hrest⟩ := commonStart_chars w (v :: ws)
    rw [List.map_cons] at hcommon
    simp only [List.map_cons, ofBranches, hcommon]
    cases hitems : (rest.map chars).mapM singleItems? with
    | none => exact ⟨start, rest, _, hrest, .ways rest, rfl⟩
    | some items =>
      obtain ⟨cs, rfl, hcs⟩ := singleItems_chars rest hitems
      exact ⟨start, _, _, hrest, .set cs, by rw [← hcs]⟩

/-! ## Walks -/

variable {t : Text} {widths : Nat → Nat × Nat} {next : Next} {g : Nat → Option Trail}

theorem walk_andThen (a b : Node) (looping : Bool) (i : Nat) (s : Trail) :
    (a.andThen b).walk t.toArray looping i s next = a.walk t.toArray looping i s
    fun j s => b.walk t.toArray looping j s next := by
  unfold Node.andThen
  split
  · rfl
  · rfl
  · rfl

theorem follower_append (f : Flags) (ps qs : List Part) (follower : Option Nat) :
    (Node.ofParts widths f follower (ps ++ qs)).2 =
      (Node.ofParts widths f (Node.ofParts widths f follower qs).2 ps).2 := by
  induction ps with
  | nil => rfl
  | cons p ps ih =>
    simp only [List.cons_append, Node.ofParts, ih]

/-- Parts are walked one after the other. -/
theorem walk_append (f : Flags) (ps qs : List Part) (follower : Option Nat) (looping : Bool) (i : Nat) (s : Trail) :
    (Node.ofParts widths f follower (ps ++ qs)).1.walk t.toArray looping i s next =
      (Node.ofParts widths f (Node.ofParts widths f follower qs).2 ps).1.walk t.toArray looping i s fun j s =>
        (Node.ofParts widths f follower qs).1.walk t.toArray looping j s next := by
  induction ps generalizing i s with
  | nil => rfl
  | cons p ps ih =>
    simp only [List.cons_append, Node.ofParts, walk_andThen, follower_append, ih]

theorem walk_chars (w : Text) (ps : List Part) (follower : Option Nat) (looping : Bool) (i : Nat) (s : Trail) :
    (Node.ofParts widths {} follower (chars w ++ ps)).1.walk t.toArray looping i s next =
      if w.isPrefixOf (t.drop i) then
        (Node.ofParts widths {} follower ps).1.walk t.toArray looping (i + w.length) s next
      else .lost s := by
  induction w generalizing i with
  | nil => simp [chars]
  | cons c w ih =>
    have hnode : (Node.ofParts widths {} follower (chars (c :: w) ++ ps)).1 =
      (Node.one (.char c.toNat false)).andThen (Node.ofParts widths {} follower (chars w ++ ps)).1 := rfl
    rw [hnode, walk_andThen, Node.walk]
    cases hd : t.drop i with
    | nil => simp [passes_nil hd]
    | cons d rest =>
      obtain rfl : t.drop (i + 1) = rest := by rw [← List.drop_drop, hd]; rfl
      rw [passes_cons hd, show (CharTest.char c.toNat false) = oneOf false [c] from rfl, oneOf_accepts, ih]
      by_cases hc : d = c
      · simp [hc, List.isPrefixOf, Nat.add_assoc, Nat.add_comm 1]
      · simp [hc, List.isPrefixOf, Ne.symm hc]

/-- While nothing has been noted, what is accepted depends on the position alone. -/
def Settles (next : Next) (g : Nat → Option Trail) : Prop :=
  ∀ i s, s.notes = [] → ∀ r, next i s = .found r ↔ g i = some r

/-- The first of some texts that stands at an offset and is followed by what `g` takes. -/
def firstTaken (t : Text) (g : Nat → Option Trail) (ws : List Text) (i : Nat) : Option Trail :=
  ws.findSome? fun w => if w.isPrefixOf (t.drop i) then g (i + w.length) else none

theorem firstTaken_cons (w : Text) (ws : List Text) (i : Nat) : firstTaken t g (w :: ws) i =
    (if w.isPrefixOf (t.drop i) then g (i + w.length) else none).or (firstTaken t g ws i) := by
  rw [firstTaken, List.findSome?_cons]
  cases (if w.isPrefixOf (t.drop i) then g (i + w.length) else none) <;> rfl

theorem prefix_of_blocked {w : Text} {i : Nat}
    (h : (Node.ofParts widths {} none (chars w)).1.blocked t.toArray i = true) :
    w.isPrefixOf (t.drop i) = false := by
  cases w with
  | nil => cases h
  | cons c w =>
    have hstart : (Node.ofParts widths {} none (chars (c :: w))).1.plainStart? = some (oneOf false [c]) := by
      rw [show (Node.ofParts widths {} none (chars (c :: w))).1 =
        (Node.one (oneOf false [c])).andThen (Node.ofParts widths {} none (chars w)).1 from rfl]
      cases (Node.ofParts widths {} none (chars w)).1 <;> rfl
    rw [Node.blocked, hstart] at h
    cases hd : t.drop i with
    | nil => rfl
    | cons d rest =>
      have hc : d ≠ c := by simpa [passes_cons hd, oneOf_accepts] using h
      simp [List.isPrefixOf, hc.symm]

theorem walk_word (w : Text) (looping : Bool) (i : Nat) (s : Trail) :
    (Node.ofParts widths {} none (chars w)).1.walk t.toArray looping i s next =
      if w.isPrefixOf (t.drop i) then next (i + w.length) s else .lost s := by
  rw [← List.append_nil (chars w), walk_chars]
  rfl

/-- A way is taken, or the others are tried, as the first of two results is taken. -/
theorem found_or {o : Outcome} {x y : Option Trail} {r : Trail} {others : Trail → Outcome}
    (ho : ∀ r, o = .found r ↔ x = some r) (hothers : ∀ s, others s = .found r ↔ y = some r) :
    (o = .found r ∨ ∃ s, o = .lost s ∧ others s = .found r) ↔ x.or y = some r := by
  cases o with
  | found r' =>
    rw [(ho r').mp rfl]
    simp
  | lost s =>
    cases x with
    | some r' => exact absurd ((ho r').mpr rfl) (by simp)
    | none => simp [hothers]

/-- Branches are tried in order. Whatever a branch that fails has noted, nothing of it is left for the next. -/
theorem walk_branches (h : Settles next g) (ws : List Text) :
    Settles (fun i s => (Node.ofBranches widths {} (ws.map chars)).walk t.toArray false i s next)
      (firstTaken t g ws) := by
  intro i s hs r
  induction ws generalizing s with
  | nil => exact ⟨fun e => (by cases e), fun e => (by cases e)⟩
  | cons w ws ih =>
    have hword : ∀ r, (Node.ofParts widths {} none (chars w)).1.walk t.toArray false i (s.goTo i) next = .found r ↔
        (if w.isPrefixOf (t.drop i) then g (i + w.length) else none) = some r := by
      intro r
      rw [walk_word]
      split
      · exact h (i + w.length) (s.goTo i) hs r
      · simp
    have hback : ∀ s' : Trail, (s'.back false s).notes = [] := fun s' => by simp [Trail.back, hs]
    rw [firstTaken_cons, List.map_cons, Node.ofBranches]
    beta_reduce
    cases hb : (Node.ofParts widths {} none (chars w)).1.blocked t.toArray i with
    | true =>
      rw [walk_choice_blocked hb, prefix_of_blocked hb, if_neg Bool.false_ne_true, Option.none_or]
      exact ih s hs
    | false =>
      rw [walk_choice_found hb]
      exact found_or hword fun s' => ih (s'.back false s) (hback s')

theorem firstTaken_singles_nil {i : Nat} (hd : t.drop i = []) (cs : Text) :
    firstTaken t g (cs.map fun c => [c]) i = none := by
  simp [firstTaken, hd, List.findSome?_map]

theorem firstTaken_singles {c : Char} {rest : Text} {i : Nat} (hd : t.drop i = c :: rest) (cs : Text) :
    firstTaken t g (cs.map fun c => [c]) i = if c ∈ cs then g (i + 1) else none := by
  induction cs with
  | nil => rfl
  | cons d cs ih =>
    rw [List.map_cons, firstTaken_cons, ih, hd]
    by_cases hdc : d = c
    · subst hdc
      cases g (i + 1) <;> simp
    · simp [hdc, Ne.symm hdc]

/-- A set of characters, however often each is named. -/
theorem set_accepts (cs : Text) (c : Char) :
    (Flags.setTest {} false (cs.map fun c => .code c.toNat).eraseDups).accepts c = decide (c ∈ cs) := by
  have hmember : ∀ items : List SetItem, (Flags.setTest {} false items).accepts c =
      items.any fun x => (x.member false).has c.toNat := by
    intro items
    simp [Flags.setTest, Flags.casing, CharTest.accepts, Casing.lower, List.any_map, Function.comp_def]
  rw [hmember, Bool.eq_iff_iff, List.any_eq_true, decide_eq_true_eq]
  simp only [List.mem_eraseDups, List.mem_map]
  constructor
  · rintro ⟨_, ⟨d, hd, rfl⟩, hc⟩
    obtain rfl : c = d := Char.toNat_inj.mp (by simpa [SetItem.member, Member.has] using hc)
    exact hd
  · exact fun hc => ⟨_, ⟨c, hc, rfl⟩, by simp [SetItem.member, Member.has]⟩

/-- Whatever is put for the texts, the first is taken that stands there and is followed by something that is
accepted. -/
theorem walk_fork {rest : List Text} {parts : List Part} (hfork : Fork rest parts) (h : Settles next g)
    (follower : Option Nat) :
    Settles (fun i s => (Node.ofParts widths {} follower parts).1.walk t.toArray false i s next)
      (firstTaken t g rest) := by
  intro i s hs r
  cases hfork with
  | single =>
    have hfirst : firstTaken t g [[]] i = g i := by
      cases hg : g i <;> simp [firstTaken, hg]
    rw [hfirst]
    exact h i s hs r
  | set cs =>
    have hnode : (Node.ofParts widths {} follower [.set false (cs.map fun c => .code c.toNat).eraseDups]).1 =
      .one (Flags.setTest {} false (cs.map fun c => .code c.toNat).eraseDups) := rfl
    simp only [hnode, Node.walk]
    cases hd : t.drop i with
    | nil => simp [passes_nil hd, firstTaken_singles_nil hd]
    | cons c rest =>
      rw [passes_cons hd, set_accepts, firstTaken_singles hd]
      by_cases hc : c ∈ cs
      · simpa [hc] using h (i + 1) s hs r
      · simp [hc]
  | ways =>
    have hnode : (Node.ofParts widths {} follower [.alt (rest.map chars)]).1 =
      (Node.ofBranches widths {} (rest.map chars)).andThen .empty := rfl
    simp only [hnode, walk_andThen]
    exact walk_branches h rest i s hs r

/-! ## Calls -/

theorem firstTaken_append (start : Text) (ws : List Text) (i : Nat) : firstTaken t g (ws.map (start ++ ·)) i =
    if start.isPrefixOf (t.drop i) then firstTaken t g ws (i + start.length) else none := by
  have hsplit : ∀ w : Text, (start ++ w).isPrefixOf (t.drop i) =
      (start.isPrefixOf (t.drop i) && w.isPrefixOf (t.drop (i + start.length))) := by
    intro w
    rw [← List.drop_drop]
    generalize t.drop i = u
    induction start generalizing u with
    | nil => simp
    | cons c start ih => cases u <;> simp [List.isPrefixOf, ih, Bool.and_assoc]
  simp only [firstTaken, List.findSome?_map, Function.comp_def, hsplit, List.length_append, ← Nat.add_assoc]
  cases start.isPrefixOf (t.drop i) with
  | false => simp
  | true => rfl

/-- Behind a name: the blanks are passed over, and a parenthesis follows. -/
def opensAt (t : Text) (i : Nat) : Option Trail :=
  let n := ((t.drop i).takeWhile Text.isBlank).length
  if ['('].isPrefixOf (t.drop (i + n)) then some ⟨[], i + n + 1⟩ else none

theorem blankTest_accepts (c : Char) : blankTest.accepts c = Text.isBlank c := by
  simp [blankTest, CharTest.accepts, Member.has, Category.has, Casing.lower, Char.ofNat_toNat]

/-- The run of blanks ends where the parenthesis has to be, as a parenthesis is no blank. -/
theorem callEnd_settles : Settles (fun i s => (Node.ofParts widths {} none callEnd).1.walk t.toArray false i s accept)
    (opensAt t) := by
  intro i s hs r
  have hnode : (Node.ofParts widths {} none callEnd).1 =
    .seq (.run .greedy 0 none blankTest (some 40)) (.one (oneOf false ['('])) := rfl
  have hfails : ∀ j, (oneOf false ['(']).passes t.toArray j = false → Fails (fun j s =>
      if (oneOf false ['(']).passes t.toArray j then accept (j + 1) s else .lost s) j := by
    intro j hj s r
    simp [hj]
  have hblank : ∀ j, blankTest.passes t.toArray j = true → (oneOf false ['(']).passes t.toArray j = false := by
    intro j hj
    cases hd : t.drop j with
    | nil => exact passes_nil hd _
    | cons c rest =>
      rw [passes_cons hd, blankTest_accepts] at hj
      rw [passes_cons hd, oneOf_accepts]
      have hc : c ≠ '(' := by rintro rfl; revert hj; decide
      simp [hc]
  simp only [hnode, Node.walk]
  rw [runFrom_found 0 (fun j hj => hfails j (hblank j hj))
    (fun j (hj : ruledOut t.toArray (some 40) j = true) => hfails j ((Bool.not_eq_true' _).mp hj))]
  have hrun : ((t.drop i).takeWhile fun c => blankTest.accepts c) = (t.drop i).takeWhile Text.isBlank := by
    simp only [blankTest_accepts]
  simp only [hrun, Nat.zero_le, true_and, opensAt]
  generalize ((t.drop i).takeWhile Text.isBlank).length = n
  cases hd : t.drop (i + n) with
  | nil => simp [passes_nil hd]
  | cons c rest =>
    rw [passes_cons hd, oneOf_accepts]
    by_cases hc : c = '('
    · have haccept : accept (i + n + 1) (s.goTo (i + n)) = .found ⟨[], i + n + 1⟩ := by
        rw [accept, Trail.goTo, Trail.goTo, hs]
      simp [hc, haccept]
    · simp [hc, Ne.symm hc]

/-- A call opens where a name stands, and blanks and a parenthesis behind it. -/
theorem opensAt_behind (w : Text) (i : Nat) : (if w.isPrefixOf (t.drop i) then opensAt t (i + w.length) else none) =
    (Span.opens? w (t.drop i)).map fun n => ⟨[], i + n⟩ := by
  unfold Span.opens? opensAt
  cases w.isPrefixOf (t.drop i) with
  | false => rfl
  | true =>
    simp only [if_true, List.drop_drop]
    generalize ((t.drop (i + w.length)).takeWhile Text.isBlank).length = n
    cases t.drop (i + w.length + n) with
    | nil => rfl
    | cons c rest =>
      by_cases hc : c = '('
      · subst hc
        simp [Nat.add_assoc]
      · simp [hc, Ne.symm hc]

theorem firstTaken_opensAt (names : List Text) (i : Nat) : firstTaken t (opensAt t) names i =
    (Span.firstOpening? names (t.drop i)).map fun n => ⟨[], i + n⟩ := by
  simp only [firstTaken, opensAt_behind]
  exact (List.map_findSome? ..).symm

/-- The parts of a call pattern match where a call opens. -/
theorem calls_found (w : Text) (ws : List Text) (i : Nat) (r : Trail) :
    (Node.ofParts widths {} none
      (ofBranches ((w :: ws).map chars) ++ callEnd)).1.walk t.toArray false i ⟨[], i⟩ accept =
        .found r ↔
      (Span.firstOpening? (w :: ws) (t.drop i)).map (fun n => (⟨[], i + n⟩ : Trail)) = some r := by
  obtain ⟨start, rest, parts, hnames, hfork, hparts⟩ := ofBranches_chars w ws
  rw [← firstTaken_opensAt, hparts, hnames, firstTaken_append, List.append_assoc, walk_chars]
  cases start.isPrefixOf (t.drop i) with
  | false => simp
  | true =>
    simp only [if_true, walk_append]
    exact walk_fork hfork callEnd_settles _ (i + start.length) ⟨[], i⟩ rfl r

/-! ## What is known of the matches -/

theorem partsFault?_chars (w : Text) (ps : List Part) :
    partsFault? widths false (chars w ++ ps) = partsFault? widths false ps := by
  induction w with
  | nil => rfl
  | cons c w ih => exact ih

theorem branchesFault?_chars (ws : List Text) : branchesFault? widths false (ws.map chars) = none := by
  induction ws with
  | nil => rfl
  | cons w ws ih =>
    have hw : partsFault? widths false (chars w ++ []) = none := partsFault?_chars w []
    rw [List.append_nil] at hw
    rw [List.map_cons, branchesFault?, hw]
    exact ih

theorem partsFault?_fork {rest : List Text} {parts : List Part} (h : Fork rest parts) :
    partsFault? widths false (parts ++ callEnd) = none := by
  cases h with
  | single => rfl
  | set cs => rfl
  | ways =>
    rw [List.singleton_append, partsFault?, Part.fault?, branchesFault?_chars]
    rfl

theorem fault_calls (w : Text) (ws : List Text) :
    partsFault? widths false (ofBranches ((w :: ws).map chars) ++ callEnd) = none := by
  obtain ⟨start, rest, parts, -, hfork, hparts⟩ := ofBranches_chars w ws
  rw [hparts, List.append_assoc, partsFault?_chars, partsFault?_fork hfork]

theorem addWidths_append (b : Nat × Nat) (ps qs : List Part) :
    addWidths widths b (ps ++ qs) = addWidths widths (addWidths widths b ps) qs := by
  induction ps generalizing b with
  | nil => rfl
  | cons p ps ih => exact ih _

theorem addWidths_chars (b : Nat × Nat) (w : Text) :
    addWidths widths b (chars w) = (b.1 + w.length, b.2 + w.length) := by
  induction w generalizing b with
  | nil => rfl
  | cons c w ih =>
    rw [show addWidths widths b (chars (c :: w)) = addWidths widths (b.1 + 1, b.2 + 1) (chars w) from rfl, ih]
    simp only [List.length_cons, Nat.add_assoc, Nat.add_comm 1]

theorem branchWidths_le {ws : List Text} {w : Text} (h : w ∈ ws) :
    (branchWidths widths (ws.map chars)).1 ≤ w.length := by
  induction ws with
  | nil => cases h
  | cons v ws ih =>
    have hv : (clampWidth (addWidths widths (0, 0) (chars v))).1 ≤ v.length := by
      rw [addWidths_chars]
      exact (Nat.min_le_left _ _).trans (by simp)
    rw [List.map_cons, branchWidths]
    rcases List.mem_cons.mp h with rfl | h
    · exact (Nat.min_le_left _ _).trans hv
    · exact (Nat.min_le_right _ _).trans (ih h)

theorem addWidths_fork {rest : List Text} {parts : List Part} (h : Fork rest parts) {w : Text} (hw : w ∈ rest)
    (b : Nat × Nat) :
    (addWidths widths b parts).1 ≤ b.1 + w.length := by
  cases h with
  | single => exact Nat.le_add_right _ _
  | set cs =>
    obtain ⟨c, -, rfl⟩ := List.mem_map.mp hw
    exact Nat.le_refl _
  | ways => exact Nat.add_le_add_left (branchWidths_le hw) b.1

/-- No match of a call pattern is shorter than its least width. -/
theorem width_calls {w v : Text} {ws : List Text} (hv : v ∈ w :: ws) :
    (widthOf widths (ofBranches ((w :: ws).map chars) ++ callEnd)).1 ≤ v.length + 1 := by
  obtain ⟨start, rest, parts, hnames, hfork, hparts⟩ := ofBranches_chars w ws
  rw [hnames] at hv
  obtain ⟨u, hu, rfl⟩ := List.mem_map.mp hv
  have hle : (addWidths widths (start.length, start.length) parts).1 ≤ start.length + u.length :=
    addWidths_fork hfork hu _
  rw [hparts, widthOf, addWidths_append, addWidths_append, addWidths_chars]
  refine (Nat.min_le_left _ _).trans ?_
  rw [show ∀ b, (addWidths widths b callEnd).1 = b.1 + 1 from fun b => rfl, List.length_append]
  simpa using hle

theorem code_passes {c : Char} {rest : Text} {i : Nat} (hd : t.drop i = c :: rest) {items : List SetItem}
    (h : .code c.toNat ∈ items) :
    (CharTest.set .exact false (items.map (·.member false))).passes t.toArray i = true := by
  rw [passes_cons hd]
  simp only [CharTest.accepts, Casing.lower, Bool.false_bne, List.any_map, List.any_eq_true, Function.comp_apply]
  exact ⟨_, h, by simp [SetItem.member, Member.has]⟩

theorem plainCode_chars {ws : List Text} {items : List SetItem}
    (h : (ws.map chars).mapM (plainCode? {}) = some items) {v : Text} (hv : v ∈ ws) :
    ∃ c rest, v = c :: rest ∧ .code c.toNat ∈ items := by
  induction ws generalizing items with
  | nil => cases hv
  | cons w ws ih =>
    rw [List.map_cons, List.mapM_cons] at h
    obtain ⟨item, hitem, more, hmore, rfl⟩ : ∃ item, plainCode? {} (chars w) = some item ∧
        ∃ more, (ws.map chars).mapM (plainCode? {}) = some more ∧ item :: more = items := by
      simpa [Option.bind_eq_some_iff] using h
    rcases List.mem_cons.mp hv with rfl | hv
    · cases v with
      | nil => cases hitem
      | cons c v =>
        obtain rfl := Option.some.inj hitem
        exact ⟨c, v, rfl, List.mem_cons_self⟩
    · obtain ⟨c, rest, rfl, hmem⟩ := ih hmore hv
      exact ⟨c, rest, rfl, List.mem_cons_of_mem _ hmem⟩

theorem firstSet_calls {w v : Text} {ws : List Text} (hv : v ∈ w :: ws) {negated : Bool} {items : List SetItem}
    (h : firstSet? {} (ofBranches ((w :: ws).map chars) ++ callEnd) = some (negated, items)) :
    negated = false ∧ ∃ c rest, v = c :: rest ∧ .code c.toNat ∈ items := by
  obtain ⟨start, rest, parts, hnames, hfork, hparts⟩ := ofBranches_chars w ws
  rw [hnames] at hv
  obtain ⟨u, hu, rfl⟩ := List.mem_map.mp hv
  rw [hparts] at h
  cases start with
  | cons c start =>
    obtain ⟨rfl, rfl⟩ := Prod.mk.inj (Option.some.inj h)
    exact ⟨rfl, c, start ++ u, rfl, List.mem_singleton.mpr rfl⟩
  | nil =>
    cases hfork with
    | single => cases h
    | set cs =>
      obtain ⟨rfl, rfl⟩ := Prod.mk.inj (Option.some.inj h)
      obtain ⟨c, hc, rfl⟩ := List.mem_map.mp hu
      exact ⟨rfl, c, [], rfl, List.mem_eraseDups.mpr (List.mem_map_of_mem hc)⟩
    | ways =>
      obtain ⟨items', hitems, e⟩ := Option.map_eq_some_iff.mp h
      obtain ⟨rfl, rfl⟩ := Prod.mk.inj e
      exact ⟨rfl, plainCode_chars hitems hu⟩

/-- A search of a call pattern passes over no place where one of the names stands. -/
theorem allows_calls {w v : Text} {ws : List Text} (hv : v ∈ w :: ws) {i : Nat} (hpre : v <+: t.drop i)
    (least : Nat) :
    (Start.ofParts {} least (ofBranches ((w :: ws).map chars) ++ callEnd)).allows t.toArray i = true := by
  unfold Start.ofParts
  split
  · rfl
  · split
    · rfl
    · split
      · rename_i negated items hset
        obtain ⟨rfl, c, rest, rfl, hmem⟩ := firstSet_calls hv hset
        obtain ⟨behind, hd⟩ := hpre
        exact code_passes hd.symm hmem
      · rfl

end ClassTidy.Pattern

namespace ClassTidy.Span

open Pattern (Node)

/-- The match of a call that was found: where its name starts, and how far the parenthesis is. -/
def toMatch (x : Nat × Nat) : Match := ⟨x.1, x.1 + x.2 + 1, []⟩

/-- The pattern of a call to one of some names. -/
def callPattern (names : List Text) : Pattern :=
  let parts := Pattern.ofBranches (names.map Pattern.chars) ++ Pattern.callEnd
  let least := (Pattern.widthOf (fun _ => (0, 0)) parts).1
  ⟨(Node.ofParts (fun _ => (0, 0)) {} none parts).1, 0, least, .ofParts {} least parts⟩

theorem call?_eq_some {names : List Text} {t : Text} {n k : Nat} (h : call? names t = some (n, k)) :
    k = n ∧ ∃ name ∈ names, ∃ gap rest, t = name ++ gap ++ '(' :: rest ∧ n = (name ++ gap).length := by
  obtain ⟨m, hm, e⟩ := Option.map_eq_some_iff.mp h
  obtain ⟨rfl, rfl⟩ := Prod.mk.inj e
  obtain ⟨name, hname, hopen⟩ := List.exists_of_findSome?_eq_some hm
  obtain ⟨gap, rest, ht, -, rfl⟩ := opens?_eq_some.mp hopen
  exact ⟨rfl, name, hname, gap, rest, ht, rfl⟩

theorem sweeps_calls (w : Text) (ws : List Text) : (callPattern (w :: ws)).Sweeps (call? (w :: ws)) toMatch where
  matchAt t i := by
    rw [Pattern.matchAt?_of (Pattern.calls_found w ws i)]
    cases hf : firstOpening? (w :: ws) (t.drop i) with
    | none => simp [call?, hf]
    | some n =>
      obtain ⟨name, hname, hopen⟩ := List.exists_of_findSome?_eq_some hf
      obtain ⟨gap, rest, ht, -, rfl⟩ := opens?_eq_some.mp hopen
      have hpre : name <+: t.drop i := ⟨gap ++ '(' :: rest, by rw [ht, List.append_assoc]⟩
      have hallows : (callPattern (w :: ws)).start.allows t.toArray i = true := Pattern.allows_calls hname hpre _
      rw [if_pos hallows, call?, hf]
      rfl
  start _ := rfl
  stop h i := by
    obtain ⟨rfl, -⟩ := call?_eq_some h
    rfl
  within h := by
    obtain ⟨-, name, hname, gap, rest, rfl, rfl⟩ := call?_eq_some h
    have hleast : (callPattern (w :: ws)).least ≤ name.length + 1 := Pattern.width_calls hname
    simp only [List.length_append, List.length_cons]
    omega

/-- The pattern of names as it is written has a match for each parenthesis that opens a call, in order, and no other. -/
theorem callsFrom_eq_matches (names : List Text) (h : names ≠ []) :
    ∃ p, Pattern.read (Pattern.callText names) = .ok p ∧
    ∀ t, callsFrom names 0 0 t = (p.allMatches t).map fun m => m.stop - 1 := by
  obtain ⟨w, ws, rfl⟩ := List.exists_cons_of_ne_nil h
  refine ⟨callPattern (w :: ws), Pattern.read_callText w ws ?_, fun t => ?_⟩
  · rw [Pattern.ofParts, Pattern.fault_calls]
    rfl
  · rw [(sweeps_calls w ws).allMatches_eq, callsFrom_eq_sweep, List.map_map]
    rfl

end ClassTidy.Span
