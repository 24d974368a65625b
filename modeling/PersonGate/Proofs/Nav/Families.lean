import PersonGate.Nav.Session
/-!
# Families of handles

A clone belongs to the family of the handle that it was cloned from; a handle made anew and a copy
each found a family of their own. What a family sees can be read off the history of a session alone:
the latest write through one of its members, or the value that it began with (`History.flag`). The
invariant `Faithful` says that the session keeps to that: every family has a flag of its own behind
its handles, and every bar reads the flag of the family that it was built over. The headline is
`sharing_exact`.
-/
namespace PersonGate
namespace NavSession

/-- What was done in a session, the latest step first. -/
abbrev History := List Step

/-- Where a bar has its flag from in the end. -/
inductive BarSource where
  /-- The family with this founder. -/
  | family (founder : Nat)
  | fixed (loggedIn : Bool)
  deriving DecidableEq, Repr

namespace History

/-- The session that a history leads to. -/
def session : History → NavSession
  | [] => {}
  | step :: earlier => (session earlier).after step

/-- For every handle the founder of its family, which is the handle itself unless it is a clone. -/
def founders : History → List Nat
  | [] => []
  | step :: earlier => founders earlier ++
    match step with
    | .newHandle _ => [(founders earlier).length]
    | .cloneHandle i => (founders earlier)[i]?.toList
    | .copyHandle i => ((founders earlier)[i]?.map fun _ => (founders earlier).length).toList
    | _ => []

/-- For every bar its source, which a clone of the bar has as well. -/
def sources : History → List BarSource
  | [] => []
  | step :: earlier => sources earlier ++
    match step with
    | .barOver i => ((founders earlier)[i]?.map .family).toList
    | .fixedBar loggedIn => [.fixed loggedIn]
    | .cloneBar i => (sources earlier)[i]?.toList
    | _ => []

/-- The value that was written last through a member of a family. -/
def latestWrite (family : Nat) : History → Option Bool
  | [] => none
  | step :: earlier =>
    match step with
    | .setHandle i loggedIn =>
      if (founders earlier)[i]? = some family then some loggedIn else latestWrite family earlier
    | _ => latestWrite family earlier

/-- The value with which a family began: that of its founder, which for a copy is what the original
saw at that time. -/
def initial : History → Nat → Bool
  | [], _ => false
  | step :: earlier, family =>
    if family = (founders earlier).length then
      match step with
      | .newHandle loggedIn => loggedIn
      | .copyHandle i =>
        match (founders earlier)[i]? with
        | some original => (latestWrite original earlier).getD (initial earlier original)
        | none => initial earlier family
      | _ => initial earlier family
    else initial earlier family

/-- What the members of a family see. -/
def flag (history : History) (family : Nat) : Bool :=
  (latestWrite family history).getD (initial history family)

/-- What a bar with a source sees. -/
def shown (history : History) : BarSource → Bool
  | .family founder => flag history founder
  | .fixed loggedIn => loggedIn

/-! ## Families that there are -/

theorem mem_founders_cons (history : History) (step : Step) {family : Nat}
    (h : family ∈ founders history) : family ∈ founders (step :: history) :=
  List.mem_append_left _ h

/-- A founder was made before the other members of its family. -/
theorem lt_of_mem_founders {history : History} {family : Nat} (h : family ∈ founders history) :
    family < (founders history).length := by
  induction history with
  | nil => cases h
  | cons step earlier ih =>
    simp only [founders, List.mem_append, List.length_append] at h ⊢
    rcases h with h | h
    · exact Nat.lt_add_right _ (ih h)
    · cases step with
      | newHandle loggedIn =>
        rw [List.mem_singleton.1 h]
        exact Nat.lt_succ_self _
      | cloneHandle i =>
        exact Nat.lt_add_right _ (ih (List.mem_of_getElem? (Option.mem_toList.1 h)))
      | copyHandle i =>
        cases hi : (founders earlier)[i]? with
        | none => simp [hi] at h
        | some original =>
          simp only [hi, Option.map_some, Option.toList_some, List.mem_singleton] at h ⊢
          rw [h]
          exact Nat.lt_succ_self _
      | _ => cases h

/-- The next handle belongs to no family yet. -/
theorem length_not_mem_founders (history : History) :
    (founders history).length ∉ founders history :=
  fun h => Nat.lt_irrefl _ (lt_of_mem_founders h)

/-- Only a family that exists is written to. -/
theorem latestWrite_eq_none {history : History} {family : Nat} (h : family ∉ founders history) :
    latestWrite family history = none := by
  induction history with
  | nil => rfl
  | cons step earlier ih =>
    have hbefore : family ∉ founders earlier := fun hmem => h (mem_founders_cons earlier step hmem)
    cases step with
    | setHandle i loggedIn =>
      simp only [latestWrite]
      rw [if_neg fun hi => hbefore (List.mem_of_getElem? hi)]
      exact ih hbefore
    | _ => exact ih hbefore

/-- No bar is over a family that does not exist. -/
theorem mem_founders_of_mem_sources {history : History} {family : Nat}
    (h : .family family ∈ sources history) : family ∈ founders history := by
  induction history with
  | nil => cases h
  | cons step earlier ih =>
    simp only [sources, List.mem_append] at h
    refine mem_founders_cons earlier step ?_
    rcases h with h | h
    · exact ih h
    · cases step with
      | barOver i =>
        simp only [Option.mem_toList, Option.map_eq_some_iff, BarSource.family.injEq,
          exists_eq_right] at h
        exact List.mem_of_getElem? h
      | cloneBar i => exact ih (List.mem_of_getElem? (Option.mem_toList.1 h))
      | fixedBar loggedIn => simp at h
      | _ => cases h

/-! ## What a step does to the flags -/

/-- Only writes and the founding of families matter to what a family sees. -/
theorem flag_cons {step : Step} (hset : ∀ i loggedIn, step ≠ .setHandle i loggedIn)
    (hnew : ∀ loggedIn, step ≠ .newHandle loggedIn) (hcopy : ∀ i, step ≠ .copyHandle i)
    (history : History) (family : Nat) : flag (step :: history) family = flag history family := by
  cases step with
  | newHandle loggedIn => exact absurd rfl (hnew loggedIn)
  | copyHandle i => exact absurd rfl (hcopy i)
  | setHandle i loggedIn => exact absurd rfl (hset i loggedIn)
  | _ => simp only [flag, latestWrite, initial, ite_self]

theorem founders_setHandle (history : History) (i : Nat) (loggedIn : Bool) :
    founders (.setHandle i loggedIn :: history) = founders history := List.append_nil _

theorem sources_setHandle (history : History) (i : Nat) (loggedIn : Bool) :
    sources (.setHandle i loggedIn :: history) = sources history := List.append_nil _

/-- A write is seen by the family that it is made through. -/
theorem flag_setHandle (history : History) (i : Nat) (loggedIn : Bool) (family : Nat) :
    flag (.setHandle i loggedIn :: history) family =
      if (founders history)[i]? = some family then loggedIn else flag history family := by
  simp only [flag, latestWrite, initial, ite_self]
  split <;> rfl

/-- A new family begins with the value of its first handle; the others see what they saw. -/
theorem flag_newHandle (history : History) (loggedIn : Bool) (family : Nat) :
    flag (.newHandle loggedIn :: history) family =
      if family = (founders history).length then loggedIn else flag history family := by
  simp only [flag, latestWrite, initial]
  split
  · rename_i h
    rw [h, latestWrite_eq_none (length_not_mem_founders history)]
    rfl
  · rfl

/-- A copy begins with what its original sees. -/
theorem flag_copyHandle {history : History} {i original : Nat}
    (h : (founders history)[i]? = some original) (family : Nat) :
    flag (.copyHandle i :: history) family =
      if family = (founders history).length then flag history original
      else flag history family := by
  simp only [flag, latestWrite, initial, h]
  split
  · rename_i h
    rw [h, latestWrite_eq_none (length_not_mem_founders history)]
    rfl
  · rfl

end History

open History

/-! ## The session and its history -/

/-- The bar with a source. -/
def BarSource.bar (cell : Nat → LoginHandle) : BarSource → NavBar
  | .family founder => .over (cell founder)
  | .fixed loggedIn => .fixed loggedIn

/-- The session keeps the flag of each family in a cell of its own. -/
structure Faithful (history : History) (s : NavSession) (cell : Nat → LoginHandle) : Prop where
  handles : s.handles = (founders history).map cell
  bars : s.bars = (sources history).map (BarSource.bar cell)
  lt_length : ∀ family ∈ founders history, (cell family).family < s.store.flags.length
  injective : ∀ family ∈ founders history, ∀ other ∈ founders history,
    (cell family).family = (cell other).family → family = other
  read : ∀ family ∈ founders history, s.store.read (cell family) = flag history family

namespace Faithful
variable {history : History} {s : NavSession} {cell : Nat → LoginHandle}

theorem start : Faithful [] {} fun _ => ⟨0⟩ where
  handles := rfl
  bars := rfl
  lt_length := by simp [founders]
  injective := by simp [founders]
  read := by simp [founders]

theorem getElem?_handles (h : Faithful history s cell) (i : Nat) :
    s.handles[i]? = (founders history)[i]?.map cell := by
  rw [h.handles, List.getElem?_map]

theorem getElem?_bars (h : Faithful history s cell) (i : Nat) :
    s.bars[i]? = (sources history)[i]?.map (BarSource.bar cell) := by
  rw [h.bars, List.getElem?_map]

/-- A step that makes handles and bars of the families that are there already, if it makes any. -/
theorem extend (h : Faithful history s cell) {step : Step} {t : NavSession} (family? : Option Nat)
    (source? : Option BarSource)
    (hfounders : founders (step :: history) = founders history ++ family?.toList)
    (hsources : sources (step :: history) = sources history ++ source?.toList)
    (hfamily : ∀ family, family? = some family → family ∈ founders history)
    (hflag : ∀ family, flag (step :: history) family = flag history family)
    (hstore : t.store = s.store) (hhandles : t.handles = s.handles ++ (family?.map cell).toList)
    (hbars : t.bars = s.bars ++ (source?.map (BarSource.bar cell)).toList) :
    Faithful (step :: history) t cell := by
  have hmem : ∀ family ∈ founders (step :: history), family ∈ founders history := by
    intro family hfam
    rw [hfounders, List.mem_append, Option.mem_toList] at hfam
    exact hfam.elim id (hfamily family)
  exact {
    handles := by rw [hhandles, h.handles, hfounders, List.map_append, Option.toList_map]
    bars := by rw [hbars, h.bars, hsources, List.map_append, Option.toList_map]
    lt_length := fun family hfam => hstore ▸ h.lt_length family (hmem family hfam)
    injective := fun family hfam other hother =>
      h.injective family (hmem family hfam) other (hmem other hother)
    read := fun family hfam =>
      hstore ▸ (h.read family (hmem family hfam)).trans (hflag family).symm }

/-- A step that founds a family gives it a cell that no other family has. -/
theorem found (h : Faithful history s cell) {step : Step} {loggedIn : Bool}
    (hfounders : founders (step :: history) = founders history ++ [(founders history).length])
    (hsources : sources (step :: history) = sources history)
    (hflag : ∀ family, flag (step :: history) family =
      if family = (founders history).length then loggedIn else flag history family) :
    ∃ cell, Faithful (step :: history) (s.addFamily loggedIn).1 cell := by
  let place := (founders history).length
  -- the other families keep their cells; the new one is the first behind them
  let fresh : LoginHandle := (s.store.new loggedIn).2
  let cell' : Nat → LoginHandle := fun family => if family = place then fresh else cell family
  have hold : ∀ family ∈ founders history, cell' family = cell family :=
    fun family hfam => if_neg (Nat.ne_of_lt (lt_of_mem_founders hfam))
  have hnew : cell' place = fresh := if_pos rfl
  have hlength : (s.addFamily loggedIn).1.store.flags.length = s.store.flags.length + 1 := by
    simp [addFamily, addHandle, LoginStore.new]
  have hfresh : fresh.family = s.store.flags.length := rfl
  refine ⟨cell', ?_, ?_, ?_, ?_, ?_⟩
  · rw [hfounders, List.map_append, List.map_congr_left hold, ← h.handles, List.map_singleton,
      hnew]
    rfl
  · rw [hsources]
    refine h.bars.trans (List.map_congr_left fun source hsource => ?_)
    cases source with
    | family founder =>
      exact congrArg NavBar.over (hold _ (mem_founders_of_mem_sources hsource)).symm
    | fixed loggedIn => rfl
  all_goals
    simp only [hfounders, List.mem_append, List.mem_singleton]
  · rintro family (hfam | rfl)
    · rw [hold _ hfam, hlength]
      exact Nat.lt_succ_of_lt (h.lt_length family hfam)
    · rw [hnew, hlength]
      exact Nat.lt_succ_self _
  · rintro family (hfam | rfl) other (hother | rfl) heq
    · rw [hold _ hfam, hold _ hother] at heq
      exact h.injective family hfam other hother heq
    · rw [hold _ hfam, hnew, hfresh] at heq
      exact absurd heq (Nat.ne_of_lt (h.lt_length family hfam))
    · rw [hold _ hother, hnew, hfresh] at heq
      exact absurd heq (Nat.ne_of_gt (h.lt_length other hother))
    · rfl
  · rintro family (hfam | rfl)
    · rw [hold _ hfam, hflag, if_neg (Nat.ne_of_lt (lt_of_mem_founders hfam)), ← h.read family hfam]
      exact LoginStore.read_new_of_lt (h.lt_length family hfam) loggedIn
    · rw [hnew, hflag, if_pos rfl]
      exact LoginStore.read_new s.store loggedIn

/-- A write goes to the cell of one family. -/
theorem write (h : Faithful history s cell) {i family : Nat}
    (hi : (founders history)[i]? = some family) (loggedIn : Bool) :
    Faithful (.setHandle i loggedIn :: history)
      { s with store := s.store.write (cell family) loggedIn } cell := by
  have hfam : family ∈ founders history := List.mem_of_getElem? hi
  refine ⟨?_, ?_, ?_, ?_, ?_⟩
  · rw [founders_setHandle]; exact h.handles
  · rw [sources_setHandle]; exact h.bars
  all_goals rw [founders_setHandle]
  · intro other hother
    simpa [LoginStore.write] using h.lt_length other hother
  · exact h.injective
  · intro other hother
    rw [LoginStore.read_write (h.lt_length family hfam), flag_setHandle, hi, h.read other hother]
    by_cases heq : other = family
    · rw [if_pos (by rw [heq]), if_pos (by rw [heq])]
    · rw [if_neg fun hc => heq (h.injective other hother family hfam hc),
        if_neg fun hc => heq (Option.some.inj hc).symm]

/-- To look at a handle or a bar changes nothing. -/
theorem after_look (s : NavSession) (i : Nat) {step : Step}
    (h : step = .getHandle i ∨ step = .html i ∨ step = .links i ∨ step = .treeLinks i) :
    s.after step = s := by
  rcases h with rfl | rfl | rfl | rfl
  · simp only [after, step?]
    cases s.handles[i]? <;> rfl
  all_goals
    simp only [after, step?]
    cases s.bars[i]? <;> rfl

/-- Whatever the step, the session goes on to keep to its history. -/
theorem step (h : Faithful history s cell) (step : Step) :
    ∃ cell, Faithful (step :: history) (s.after step) cell := by
  have hfamily : ∀ i family, (founders history)[i]? = some family → family ∈ founders history :=
    fun _ _ => List.mem_of_getElem?
  cases step with
  | newHandle loggedIn => exact h.found rfl (List.append_nil _) (flag_newHandle history loggedIn)
  | copyHandle i =>
    cases hi : (founders history)[i]? with
    | none =>
      refine ⟨cell, h.extend none none ?_ rfl (by simp) ?_ ?_ ?_ ?_⟩
      · simp [founders, hi]
      · simp [flag, latestWrite, initial, hi]
      all_goals simp [after, step?, h.getElem?_handles, hi]
    | some original =>
      have hafter : s.after (.copyHandle i) = (s.addFamily (flag history original)).1 := by
        rw [← h.read original (hfamily i original hi)]
        simp [after, step?, h.getElem?_handles, hi]
      rw [hafter]
      exact h.found (by simp [founders, hi]) (List.append_nil _) (flag_copyHandle hi)
  | setHandle i loggedIn =>
    refine ⟨cell, ?_⟩
    cases hi : (founders history)[i]? with
    | none =>
      refine h.extend none none rfl rfl (by simp) ?_ ?_ ?_ ?_
      · simp [flag_setHandle, hi]
      all_goals simp [after, step?, h.getElem?_handles, hi]
    | some family =>
      have hafter : s.after (.setHandle i loggedIn) =
          { s with store := s.store.write (cell family) loggedIn } := by
        simp [after, step?, h.getElem?_handles, hi]
      exact hafter ▸ h.write hi loggedIn
  | cloneHandle i =>
    refine ⟨cell, h.extend _ none rfl rfl (hfamily i) ?_ ?_ ?_ ?_⟩
    · exact flag_cons (by simp) (by simp) (by simp) history
    all_goals
      simp only [after, step?, h.getElem?_handles]
      cases (founders history)[i]? <;> simp [addHandle]
  | barOver i =>
    refine ⟨cell, h.extend none _ rfl rfl (by simp) ?_ ?_ ?_ ?_⟩
    · exact flag_cons (by simp) (by simp) (by simp) history
    all_goals
      simp only [after, step?, h.getElem?_handles]
      cases (founders history)[i]? <;> simp [addBar, BarSource.bar]
  | fixedBar loggedIn =>
    refine ⟨cell, h.extend none (some (.fixed loggedIn)) rfl rfl (by simp)
      ?_ rfl (List.append_nil _).symm rfl⟩
    exact flag_cons (by simp) (by simp) (by simp) history
  | cloneBar i =>
    refine ⟨cell, h.extend none _ rfl rfl (by simp) ?_ ?_ ?_ ?_⟩
    · exact flag_cons (by simp) (by simp) (by simp) history
    all_goals
      simp only [after, step?, h.getElem?_bars]
      cases (sources history)[i]? <;> simp [addBar]
  | getHandle i | html i | links i | treeLinks i =>
    rw [after_look s i (by simp)]
    refine ⟨cell, h.extend none none rfl rfl (by simp) ?_ rfl
      (List.append_nil _).symm (List.append_nil _).symm⟩
    exact flag_cons (by simp) (by simp) (by simp) history

theorem session (history : History) : ∃ cell, Faithful history history.session cell := by
  induction history with
  | nil => exact ⟨_, start⟩
  | cons step earlier ih =>
    obtain ⟨cell, h⟩ := ih
    exact h.step step

theorem states (h : Faithful history s cell) :
    s.states = (founders history).map (flag history) := by
  rw [NavSession.states, h.handles, List.map_map]
  exact List.map_congr_left h.read

theorem links (h : Faithful history s cell) :
    s.bars.map (fun bar => bar.links s.store) =
      (sources history).map fun source => NavBar.linksWhen (shown history source) := by
  rw [h.bars, List.map_map]
  refine List.map_congr_left fun source hsource => congrArg NavBar.linksWhen ?_
  cases source with
  | family founder => exact h.read founder (mem_founders_of_mem_sources hsource)
  | fixed loggedIn => rfl

end Faithful

/-- **Every handle and every bar shows what its family was told last.** After any steps each handle
sees the latest value that was written through a member of its family, or the value that the family
began with. Each bar has the links to the public and to the secured area, and then the way out or
the way in as its family's flag or its fixed flag says, and so has its tree. A write changes what
the members of one family see and what the bars over it show, and nothing else. -/
theorem sharing_exact (history : History) :
    let s := session history
    let linksFor (loggedIn : Bool) : List (Route × String) :=
      [(.publicArea, "Public"), (.securedArea, "Secured"),
        if loggedIn then (.logout, "Logout") else (.login, "Login")]
    s.states = (founders history).map (flag history) ∧
    s.bars.map (fun bar => bar.links s.store) =
      (sources history).map (fun source => linksFor (shown history source)) ∧
    s.bars.map (fun bar => (bar.tree s.store).links) =
      s.bars.map (fun bar => (bar.links s.store).map fun link => (link.1, link.2.toList)) ∧
    ∀ i loggedIn,
      let t := s.after (.setHandle i loggedIn)
      let written := (founders history)[i]?
      t.states = (founders history).map (fun family =>
        if written = some family then loggedIn else flag history family) ∧
      t.bars.map (fun bar => bar.links t.store) = (sources history).map fun source =>
        linksFor (if written.map .family = some source then loggedIn
          else shown history source) := by
  intro s linksFor
  obtain ⟨cell, h⟩ := Faithful.session history
  refine ⟨h.states, h.links, List.map_congr_left fun bar _ => bar.links_tree s.store, ?_⟩
  intro i loggedIn t written
  obtain ⟨cell', hafter⟩ := Faithful.session (.setHandle i loggedIn :: history)
  constructor
  · refine hafter.states.trans ?_
    rw [founders_setHandle]
    exact List.map_congr_left fun family _ => flag_setHandle history i loggedIn family
  · refine hafter.links.trans ?_
    rw [sources_setHandle]
    refine List.map_congr_left fun source _ => congrArg NavBar.linksWhen ?_
    cases source with
    | family founder =>
      refine (flag_setHandle history i loggedIn founder).trans ?_
      simp [written, shown]
    | fixed value => simp [shown]

-- a handle, its clone and its copy; the clone is written to after the copy
example :
    let s := session [.setHandle 1 true, .cloneBar 0, .barOver 2, .barOver 0, .copyHandle 0,
      .cloneHandle 0, .newHandle false]
    s.states = [true, true, false] ∧
      s.bars.map (fun bar => bar.loggedIn s.store) = [true, false, true] := by decide

end NavSession
end PersonGate
