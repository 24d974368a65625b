import PersonGate.Proofs.Panel.Run
/-!
# However time is divided

A span of time that passes in parts brings about the same as the whole span at once
(`after_spans`), and a wait brings about what happens while the time passes that it takes
(`settle_eq_advance`). Both rest on `runUntil_runUntil`: on its way to a limit the clock may stop at
an earlier one. So each step of a session that lets tasks run is time that passes, and something it does
at the end of that (`reply_eq`, `waitIdle_eq`).
-/
namespace PersonGate
namespace TimedPanel

/-- Is an instant not after a limit, if there is one? -/
def Within (limit : Option Nat) (t : Nat) : Prop := ∀ l, limit = some l → t ≤ l

theorem Within.of_le {limit : Option Nat} {t u : Nat} (h : Within limit u) (hle : t ≤ u) :
    Within limit t := fun l hl => Nat.le_trans hle (h l hl)

theorem within_some {l t : Nat} : Within (some l) t ↔ t ≤ l := by simp [Within]

variable {setting : PanelSetting} {limit further : Option Nat} {s : TimedPanel}

/-! ## The next instant -/

theorem next?_eq_some {t : Nat} (h : s.next? limit = some t) :
    (∃ task ∈ s.panel.tasks, task.phase.wakesAt? = some t) ∧
      (∀ task ∈ s.panel.tasks, ∀ w, task.phase.wakesAt? = some w → t ≤ w) ∧ Within limit t := by
  obtain ⟨hmin, hlimit⟩ := Option.filter_eq_some_iff.1 h
  obtain ⟨hmem, hle⟩ := List.min?_eq_some_iff.1 hmin
  refine ⟨List.mem_filterMap.1 hmem, ?_, ?_⟩
  · exact fun task htask w hw => hle w (List.mem_filterMap.2 ⟨task, htask, hw⟩)
  · rintro l rfl
    simpa using hlimit

theorem next?_eq_none (h : s.next? limit = none) {task : Task} (hmem : task ∈ s.panel.tasks)
    {w : Nat} (hw : task.phase.wakesAt? = some w) : ¬Within limit w := by
  cases hmin : (s.panel.tasks.filterMap fun task => task.phase.wakesAt?).min? with
  | none =>
    rw [List.min?_eq_none_iff, List.filterMap_eq_nil_iff] at hmin
    rw [hmin task hmem] at hw
    cases hw
  | some t =>
    have hle : t ≤ w := (List.min?_eq_some_iff.1 hmin).2 w (List.mem_filterMap.2 ⟨task, hmem, hw⟩)
    rw [next?, hmin] at h
    cases limit with
    | none => simp at h
    | some l =>
      have hlt : l < t := by simpa using h
      rw [within_some]
      omega

/-- A later limit does not change what comes next. -/
theorem next?_mono (hfurther : ∀ t, Within limit t → Within further t) {t : Nat}
    (h : s.next? limit = some t) : s.next? further = some t := by
  have hwithin := hfurther t (next?_eq_some h).2.2
  refine Option.filter_eq_some_iff.2 ⟨(Option.filter_eq_some_iff.1 h).1, ?_⟩
  cases further with
  | none => rfl
  | some l => simpa using within_some.1 hwithin

/-! ## The clock while time passes -/

/-- The clock goes on until nothing is left up to the limit. -/
theorem next?_runUntil (setting : PanelSetting) (limit : Option Nat) (s : TimedPanel) :
    (runUntil setting limit s).next? limit = none := by
  induction s using runUntil.induct setting limit with
  | case1 s hnone => rwa [runUntil_of_none hnone]
  | case2 s t hsome ih => rwa [runUntil_of_some hsome]

theorem now_runDue (setting : PanelSetting) (s : TimedPanel) : (runDue setting s).now = s.now := by
  obtain ⟨panel, h⟩ := runDue_eq setting s
  rw [h]

theorem le_now_runUntil (setting : PanelSetting) (limit : Option Nat) (s : TimedPanel) :
    s.now ≤ (runUntil setting limit s).now := by
  induction s using runUntil.induct setting limit with
  | case1 s hnone => exact Nat.le_of_eq (by rw [runUntil_of_none hnone])
  | case2 s t hsome ih =>
    rw [now_runDue] at ih
    rw [runUntil_of_some hsome]
    exact Nat.le_trans (Nat.le_max_left _ _) ih

/-- The clock stays within the limit. -/
theorem now_runUntil_within (setting : PanelSetting) (h : Within limit s.now) :
    Within limit (runUntil setting limit s).now := by
  induction s using runUntil.induct setting limit with
  | case1 s hnone => rwa [runUntil_of_none hnone]
  | case2 s t hsome ih =>
    rw [runUntil_of_some hsome]
    refine ih fun l hl => ?_
    rw [now_runDue]
    exact Nat.max_le.2 ⟨h l hl, (next?_eq_some hsome).2.2 l hl⟩

/-- On its way to a limit the clock may stop at an earlier one. -/
theorem runUntil_runUntil (setting : PanelSetting) (s : TimedPanel)
    (hfurther : ∀ t, Within limit t → Within further t) :
    runUntil setting further (runUntil setting limit s) = runUntil setting further s := by
  induction s using runUntil.induct setting limit with
  | case1 s hnone => rw [runUntil_of_none hnone]
  | case2 s t hsome ih =>
    rw [runUntil_of_some hsome, ih, runUntil_of_some (next?_mono hfurther hsome)]

/-- Nothing is due before the clock is moved to an instant up to which nothing was due. -/
theorem runUntil_now {t : Nat} (hnone : s.next? (some t) = none) (hnow : s.now ≤ t)
    (setting : PanelSetting) (l : Nat) :
    { runUntil setting (some l) { s with now := t } with now := l } =
      { runUntil setting (some l) s with now := l } := by
  cases hnext : s.next? (some l) with
  | none =>
    have hnext' : ({ s with now := t } : TimedPanel).next? (some l) = none := hnext
    rw [runUntil_of_none hnext, runUntil_of_none hnext']
  | some u =>
    have hnext' : ({ s with now := t } : TimedPanel).next? (some l) = some u := hnext
    obtain ⟨task, hmem, hw⟩ := (next?_eq_some hnext).1
    have hlt : t < u := Nat.lt_of_not_le (mt within_some.2 (next?_eq_none hnone hmem hw))
    rw [runUntil_of_some hnext, runUntil_of_some hnext']
    show ({ runUntil setting _ (runDue setting { s with now := max t u }) with
      now := l } : TimedPanel) = _
    rw [Nat.max_eq_right (Nat.le_of_lt hlt), Nat.max_eq_right (by omega)]

/-! ## Spans -/

/-- Two spans in a row are one. -/
theorem advance_advance (setting : PanelSetting) (s : TimedPanel) (first second : Nat) :
    (s.advance setting first).advance setting second = s.advance setting (first + second) := by
  have hnow : (runUntil setting (some (s.now + first)) s).now ≤ s.now + first :=
    within_some.1 (now_runUntil_within setting (within_some.2 (Nat.le_add_right _ _)))
  have hstop : runUntil setting (some (s.now + first + second))
      (runUntil setting (some (s.now + first)) s) =
      runUntil setting (some (s.now + first + second)) s :=
    runUntil_runUntil setting s fun t ht =>
      within_some.2 (Nat.le_trans (within_some.1 ht) (Nat.le_add_right _ _))
  have hclock := runUntil_now (next?_runUntil setting (some (s.now + first)) s) hnow setting
    (s.now + first + second)
  rw [hstop] at hclock
  calc (s.advance setting first).advance setting second
      = { runUntil setting (some (s.now + first + second)) s with
          now := s.now + first + second } := hclock
    _ = s.advance setting (first + second) := by rw [advance, Nat.add_assoc]

/-- A span that passes in parts brings about what the whole span does at once. -/
theorem after_spans (setting : PanelSetting) (horizon : Option Nat) (s : TimedPanel) (span : Nat)
    (spans : List Nat) :
    s.after setting horizon ((span :: spans).map .advance) =
      s.after setting horizon [.advance (spans.foldl (· + ·) span)] := by
  induction spans generalizing span with
  | nil => rfl
  | cons next rest ih =>
    calc s.after setting horizon ((span :: next :: rest).map .advance)
        = ((s.advance setting span).advance setting next).after setting horizon
            (rest.map .advance) := rfl
      _ = s.after setting horizon (((span + next) :: rest).map .advance) := by
          rw [advance_advance]
          rfl
      _ = s.after setting horizon [.advance (rest.foldl (· + ·) (span + next))] := ih (span + next)

/-- A wait takes some time, and brings about what happens while that passes. -/
theorem settle_eq_advance (setting : PanelSetting) (s : TimedPanel) (horizon : Option Nat) :
    s.settle setting horizon =
      s.advance setting ((s.settle setting horizon).now - s.now) := by
  generalize hlimit : (horizon.map fun limit => max s.now limit) = limit
  have hsettle : s.settle setting horizon = runUntil setting limit s := by rw [settle, hlimit]
  have hstart : Within limit s.now := by
    rintro l rfl
    obtain ⟨k, -, rfl⟩ := Option.map_eq_some_iff.1 hlimit
    exact Nat.le_max_left _ _
  have hend := now_runUntil_within setting hstart
  have hpassed := le_now_runUntil setting limit s
  rw [hsettle, advance, Nat.add_sub_cancel' hpassed]
  generalize hlast : runUntil setting limit s = last at hend hpassed ⊢
  have hrest : runUntil setting limit (runUntil setting (some last.now) s) = last :=
    (runUntil_runUntil setting s fun t ht => hend.of_le (within_some.1 ht)).trans hlast
  -- what would still come up to the limit would come after the clock has stopped
  have hnone : (runUntil setting (some last.now) s).next? limit = none := by
    cases hnext : (runUntil setting (some last.now) s).next? limit with
    | none => rfl
    | some t =>
      obtain ⟨task, hmem, hw⟩ := (next?_eq_some hnext).1
      have hlater := next?_eq_none (next?_runUntil setting (some last.now) s) hmem hw
      rw [runUntil_of_some hnext] at hrest
      have hreached := le_now_runUntil setting limit (runDue setting
        { runUntil setting (some last.now) s with
          now := max (runUntil setting (some last.now) s).now t })
      rw [hrest, now_runDue] at hreached
      exact absurd (within_some.2 (Nat.le_trans (Nat.le_max_right _ _) hreached)) hlater
  rw [runUntil_of_none hnone] at hrest
  rw [hrest]

/-- A wait is the passing of time, but for tasks that are over and then forgotten; so is the wait of
a session, which may leave those tasks in place. -/
theorem waitIdle_eq (setting : PanelSetting) (s : TimedPanel) (horizon : Option Nat) :
    ∃ span, let reaped : TimedPanel :=
        { s.advance setting span with panel := (s.advance setting span).panel.reap }
      (s.waitIdle setting horizon).1 = reaped ∧
      (s.live = true → (s.step setting horizon .waitIdle).1 = s.advance setting span ∨
        (s.step setting horizon .waitIdle).1 = reaped) := by
  refine ⟨(s.settle setting horizon).now - s.now, ?_⟩
  rw [← settle_eq_advance]
  refine ⟨rfl, fun hlive => ?_⟩
  simp only [TimedPanel.step, hlive, if_true]
  split
  · exact .inr rfl
  · exact .inl rfl

/-- A reply is the passing of no time, and then the end of a request if one is held. -/
theorem reply_eq (setting : PanelSetting) (s : TimedPanel) (action : PersonAction) (reply : Reply) :
    (s.reply setting action reply).1 = match (s.advance setting 0).held? action.method with
      | none => s.advance setting 0
      | some task => { s.advance setting 0 with
          panel := (s.advance setting 0).panel.resolve s.now task.id reply.result } := by
  unfold TimedPanel.reply
  simp only
  split <;> rename_i h <;> rw [h]
  rfl

/-! ## The clock in a session -/

/-- No step turns the clock back. -/
theorem le_now_step (setting : PanelSetting) (horizon : Option Nat) (s : TimedPanel) (step : Step) :
    s.now ≤ (s.step setting horizon step).1.now := by
  cases step with
  | advance span => exact Nat.le_add_right _ _
  | reply action reply =>
    simp only [TimedPanel.step, reply_eq]
    split <;> exact Nat.le_add_right _ _
  | waitIdle =>
    have hsettled : s.now ≤ (s.settle setting horizon).now := le_now_runUntil setting _ s
    rcases step_waitIdle setting horizon s with hstep | hstep | hstep
    · rw [hstep]
      exact hsettled
    · rw [hstep]
      exact hsettled
    · exact Nat.le_of_eq (congrArg TimedPanel.now hstep.symm)
  | setVariable | unsetVariable => exact Nat.le_refl _
  | trigger | render | teardown | drop =>
    simp only [TimedPanel.step]
    split <;> exact Nat.le_refl _

theorem le_now_after (setting : PanelSetting) (horizon : Option Nat) (s : TimedPanel)
    (steps : List Step) : s.now ≤ (s.after setting horizon steps).now := by
  induction steps generalizing s with
  | nil => exact Nat.le_refl _
  | cons step rest ih => exact Nat.le_trans (le_now_step setting horizon s step) (ih _)

end TimedPanel
end PersonGate
