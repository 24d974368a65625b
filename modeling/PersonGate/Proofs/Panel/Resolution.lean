import PersonGate.Proofs.Config.Building
import PersonGate.Proofs.Panel.Fate
/-!
# A request that is held is resolved once

A request that the other side holds comes to its end by the first reply to it, or at its time limit,
and in no other way (`ResolvedBy`). The limit is counted from the sending of the request, and a
limit of zero is none (`TimesOut`). What has ended a request is the end of it: no reply finds it any
more and no limit tells of it again (`ResolvedBy.final`). While the panel is there a request is not
held beyond its limit (`Orderly.ahead_after`). The headline is `resolved_once`.
-/
namespace PersonGate
open ActionPanel

/-- A request that is sent at an instant with this time limit is given up at another. -/
def TimesOut (timeout : Option Duration) (e d : Nat) : Prop :=
  ∃ limit, timeout = some limit ∧ limit.nanoseconds ≠ 0 ∧ d = e + limit.nanoseconds

theorem deadline_eq_some_iff {base : ClientConfig} {timeout : Option Duration} {e d : Nat} :
    deadline (base.withRequestTimeout timeout) e = some d ↔ TimesOut timeout e d := by
  simp only [deadline, TimesOut, Option.map_eq_some_iff,
    ClientConfig.requestTimeout_withRequestTimeout]
  constructor
  · rintro ⟨limit, ⟨htimeout, hne⟩, rfl⟩
    exact ⟨limit, htimeout, hne, rfl⟩
  · rintro ⟨limit, htimeout, hne, rfl⟩
    exact ⟨limit, ⟨htimeout, hne⟩, rfl⟩

namespace ActionPanel

/-- The end of a request: it is noted, shown, and told to the user once. -/
def ending (u : Nat) (result : Except TransportError Http.Status) (outcome : Outcome) : History :=
  [(u, .ended result), (u, .finished (.ofOutcome outcome)), (u, .notified outcome)]

/-- What happens to a request after it was sent at an instant with this time limit and held: nothing
so far; or a reply before the limit ends it, with success just if its status is one of success; or
without a reply it fails at the limit. -/
inductive ResolvedBy (timeout : Option Duration) (e : Nat) : List (Nat × Reply) → History → Prop
  | held : ResolvedBy timeout e [] []
  | replied {u : Nat} {reply : Reply} {outcome : Outcome} (hle : e ≤ u)
    (hin : ∀ d, TimesOut timeout e d → u < d)
    (houtcome : outcome = .succeeded ↔ ∃ code, reply = .status code ∧ 200 ≤ code ∧ code ≤ 299) :
    ResolvedBy timeout e [(u, reply)] (ending u reply.result outcome)
  | givenUp {d : Nat} (h : TimesOut timeout e d) :
    ResolvedBy timeout e [] (ending d (.error .timedOut) .failed)

/-- What a trigger has told the user, and when. -/
def told (history : History) : List (Nat × Outcome) :=
  history.filterMap fun entry => entry.2.notice?.map fun outcome => (entry.1, outcome)

theorem outcome_reply (reply : Reply) :
    Outcome.ofResult reply.result = .succeeded ↔
      ∃ code, reply = .status code ∧ 200 ≤ code ∧ code ≤ 299 := by
  rw [Outcome.ofResult_eq_succeeded_iff]
  cases reply with
  | status code => simp [Reply.result, Http.isSuccess_iff]
  | broken => simp [Reply.result]

namespace ResolvedBy
variable {timeout : Option Duration} {e : Nat} {replies more : List (Nat × Reply)}
  {history rest : History}

/-- A request that has ended was told of once. -/
theorem told_eq (h : ResolvedBy timeout e replies history) (hne : history ≠ []) :
    ∃ u outcome, told history = [(u, outcome)] := by
  cases h with
  | held => exact absurd rfl hne
  | replied hle hin houtcome => exact ⟨_, _, rfl⟩
  | givenUp h => exact ⟨_, _, rfl⟩

/-- Nothing happens to a request that has ended. -/
theorem final (h : ResolvedBy timeout e replies history) (hne : history ≠ [])
    (hnext : ResolvedBy timeout e (replies ++ more) (history ++ rest)) : rest = [] ∧ more = [] := by
  generalize hreplies : replies ++ more = replies' at hnext
  generalize hhistory : history ++ rest = history' at hnext
  cases h with
  | held => exact absurd rfl hne
  | replied hle hin houtcome =>
    cases hnext with
    | held => cases hhistory
    | replied => exact ⟨by simp_all [ending], by simpa using (List.cons.inj hreplies).2⟩
    | givenUp => cases hreplies
  | @givenUp d htimes =>
    cases hnext with
    | held => cases hhistory
    | givenUp => exact ⟨by simp_all [ending], hreplies⟩
    | @replied u reply outcome =>
      -- no reply is a timeout
      have hended : TaskEvent.ended (.error .timedOut) = .ended reply.result :=
        (Prod.mk.inj (List.cons.inj hhistory).1).2
      cases reply <;> cases hended

end ResolvedBy

/-- What is sent and held has the fate of a request that is held. -/
theorem Fate.of_attempt {setting : PanelSetting} {t : Nat} {action : PersonAction}
    {asked : Option Environment} {replies : List (Nat × Reply)} {track : Track}
    (h : Fate setting t action asked replies track) {instant : Nat} {request : SentRequest}
    (hmem : (instant, .attempt request true) ∈ track.history)
    (hheld : setting.endpoint.receive instant request = .held) :
    instant = setting.config.sendsAt t ∧ ∃ token, request = setting.config.request token action ∧
      Resolves (deadline setting.config (setting.config.sendsAt t)) (setting.config.sendsAt t)
        (Track.sent setting.config t action token) .held replies track := by
  cases h with
  | waiting => simp [Track.triggered] at hmem
  | abandoned => simp [Track.abandoned] at hmem
  | @sent _ _ token reception _ _ _ hreception hresolves =>
    obtain ⟨rest, hhistory, hrest⟩ := hresolves.history
    have hsent : instant = setting.config.sendsAt t ∧
        request = setting.config.request token action ∧ true = reception.arrives := by
      rw [hhistory] at hmem
      rcases List.mem_append.1 hmem with hmem | hmem
      · simpa [Track.sent] using hmem
      · exact absurd (hrest _ hmem) Bool.false_ne_true
    obtain ⟨rfl, rfl, -⟩ := hsent
    obtain rfl := hreception.symm.trans hheld
    exact ⟨rfl, token, rfl, hresolves⟩

/-- A trigger whose request was sent, up to that. -/
def sentHistory (config : ClientConfig) (t : Nat) (action : PersonAction) (token : BearerToken)
    (request : SentRequest) : History :=
  [(t, .scheduled action), (config.sendsAt t, .sending),
    (config.sendsAt t, .tokenCall (.ok token)), (config.sendsAt t, .attempt request true)]

theorem Resolves.resolvedBy {base : ClientConfig} {timeout : Option Duration} {t : Nat}
    {action : PersonAction} {token : BearerToken} {replies : List (Nat × Reply)} {track : Track} :
    let config := base.withRequestTimeout timeout
    let e := config.sendsAt t
    Resolves (deadline config e) e (Track.sent config t action token) .held replies track →
    ∃ rest, track.history = sentHistory config t action token (config.request token action) ++ rest ∧
      ResolvedBy timeout e replies rest ∧ (rest = [] → track.wakesAt? = deadline config e) := by
  intro config e h
  cases h with
  | held => exact ⟨[], rfl, .held, fun _ => rfl⟩
  | @replied u reply hle hin =>
    have hlimit : ∀ d, TimesOut timeout e d → u < d := fun d hd => hin d (deadline_eq_some_iff.2 hd)
    exact ⟨_, rfl, .replied hle hlimit (outcome_reply reply), by simp⟩
  | givenUp h => exact ⟨_, rfl, .givenUp (deadline_eq_some_iff.1 h), by simp⟩

end ActionPanel

/-! ## In a session -/

namespace TimedPanel

variable {base : ClientConfig} {timeout : Option Duration} {s : TimedPanel}
  {made : List (Nat × PersonAction)}

/-- A request of a trigger that is held is resolved by a reply to it or by its time limit. -/
theorem resolvedBy_trigger (hs : Orderly (base.withRequestTimeout timeout) made s)
    (hlive : s.live = true) (source : TokenSource) (endpoint : Endpoint) (horizon : Option Nat)
    (action : PersonAction) (later : List Step) :
    let setting : PanelSetting := ⟨base.withRequestTimeout timeout, source, endpoint⟩
    let e := setting.config.sendsAt s.now
    let steps := .trigger action :: later
    let final := s.after setting horizon steps
    let history := historyOf final.panel.log s.panel.triggers
    ∀ instant request, (instant, .attempt request true) ∈ history →
      endpoint.receive instant request = .held →
      instant = e ∧ ∃ token rest,
        history = sentHistory setting.config s.now action token request ++ rest ∧
        ResolvedBy timeout e (repliesTo setting horizon s.panel.triggers s steps) rest ∧
        (rest = [] → final.live = true →
          (final.panel.track s.panel.triggers).wakesAt? = deadline setting.config e) := by
  intro setting e steps final history instant request hmem hheld
  obtain ⟨track, hhistory, hthere, hfate⟩ :
    ∃ track, history = track.history ∧ _ ∧ Fate setting s.now action _ _ track :=
    fate_trigger hs hlive horizon action later
  obtain ⟨hinstant, token, rfl, hresolves⟩ := hfate.of_attempt (hhistory ▸ hmem) hheld
  obtain ⟨rest, hrest, hresolved, hopen⟩ := hresolves.resolvedBy
  refine ⟨hinstant, token, rest, hhistory.trans hrest, hresolved, fun hnone hlast => ?_⟩
  rw [hthere hlast]
  exact hopen hnone

/-- **A request that is held is resolved exactly once.** Take any trigger of any session. If its
request is sent and held, it was sent when the wait of the trigger was over. After that nothing
happens to it until it ends: by a reply to it that comes before its time limit, with that reply's
outcome, or without one at the very instant of its limit, as a failure. The limit is counted from the
sending, and with no limit, or a limit of zero, only a reply ends it. While the panel is there, a
request is not held when the clock is past its limit, nor when it stands there and tasks were let
run. What has ended stays as it is, whatever is done then: it was told of once, and no reply that
comes later is for it. -/
theorem resolved_once (base : ClientConfig) (timeout : Option Duration) (source : TokenSource)
    (endpoint : Endpoint) (horizon : Option Nat) (environment : Environment) (before : List Step)
    (action : PersonAction) (later : List Step) :
    let setting : PanelSetting := ⟨base.withRequestTimeout timeout, source, endpoint⟩
    let s := ({ environment } : TimedPanel).after setting horizon before
    let e := setting.config.sendsAt s.now
    let steps := .trigger action :: later
    let final := s.after setting horizon steps
    let history := historyOf final.panel.log s.panel.triggers
    let replies := repliesTo setting horizon s.panel.triggers s steps
    s.live = true → ∀ instant request, (instant, .attempt request true) ∈ history →
      endpoint.receive instant request = .held →
      instant = e ∧ ∃ token rest,
        history = [(s.now, .scheduled action), (e, .sending), (e, .tokenCall (.ok token)),
          (e, .attempt request true)] ++ rest ∧
        ResolvedBy timeout e replies rest ∧
        (rest = [] → final.live = true → ∀ d, TimesOut timeout e d →
          final.now ≤ d ∧
            ∀ first step, steps = first ++ [step] → step.runs = true → final.now < d) ∧
        (rest ≠ [] → (∃ u outcome, told history = [(u, outcome)]) ∧
          ∀ more,
            historyOf (final.after setting horizon more).panel.log s.panel.triggers = history ∧
              repliesTo setting horizon s.panel.triggers s (steps ++ more) = replies) := by
  intro setting s e steps final history replies hlive instant request hmem hheld
  obtain ⟨made, hs⟩ := (Orderly.start setting.config environment).after horizon before
  obtain ⟨hinstant, token, rest, hhistory, hresolved, hopen⟩ :=
    resolvedBy_trigger hs hlive source endpoint horizon action later instant request hmem hheld
  refine ⟨hinstant, token, rest, hhistory, hresolved, ?_, fun hne => ⟨?_, fun more => ?_⟩⟩
  · intro hnone hthere d hd
    have hw := hopen hnone hthere
    rw [deadline_eq_some_iff.2 hd] at hw
    exact hs.ahead_after hthere hw
  · obtain ⟨u, outcome, htold⟩ := hresolved.told_eq hne
    refine ⟨u, outcome, ?_⟩
    show told (historyOf final.panel.log s.panel.triggers) = _
    rw [hhistory, told, List.filterMap_append]
    exact htold
  · have hafter : final.after setting horizon more =
        s.after setting horizon (.trigger action :: (later ++ more)) :=
      (after_append setting horizon s steps more).symm
    obtain ⟨news, hnews⟩ := history_prefix_after setting horizon final s.panel.triggers more
    have hmore : replies ++ repliesTo setting horizon s.panel.triggers final more =
        repliesTo setting horizon s.panel.triggers s (.trigger action :: (later ++ more)) :=
      (repliesTo_append setting horizon s.panel.triggers s steps more).symm
    obtain ⟨-, token', rest', hhistory', hresolved', -⟩ :=
      resolvedBy_trigger hs hlive source endpoint horizon action (later ++ more) instant request
        (by rw [← hafter, hnews]; exact List.mem_append_left _ hmem) hheld
    rw [← hafter, hnews, hhistory, List.append_assoc] at hhistory'
    obtain rfl : rest ++ news = rest' := (List.append_inj hhistory' rfl).2
    rw [← hmore] at hresolved'
    obtain ⟨rfl, hnone⟩ := hresolved.final hne hresolved'
    refine ⟨hnews.trans (List.append_nil _), ?_⟩
    show repliesTo setting horizon s.panel.triggers s (.trigger action :: (later ++ more)) = replies
    rw [← hmore, hnone, List.append_nil]

/-- A request is sent after three nanoseconds and given up two later, and the reply that comes then
is not for it. -/
theorem resolved_once_given_up :
    let timeout : Option Duration := some ⟨2⟩
    let base := ClientConfig.standard.withActionDelay ⟨3⟩
    let setting : PanelSetting := ⟨base.withRequestTimeout timeout, .fixed ⟨['t']⟩, .holding⟩
    let start : TimedPanel := {}
    let steps := [Step.trigger .create, .advance 5]
    let final := start.after setting none steps
    let request := setting.config.request ⟨['t']⟩ .create
    let late := [Step.reply .create (.status 200)]
    (3, .attempt request true) ∈ historyOf final.panel.log 0 ∧
    setting.endpoint.receive 3 request = .held ∧
    told (historyOf (final.after setting none late).panel.log 0) = [(5, .failed)] ∧
    repliesTo setting none 0 start (steps ++ late) = [] := by
  intro timeout base setting start steps final request late
  have hstart : Orderly setting.config [] start := .start setting.config {}
  have hheld : setting.endpoint.receive 3 request = .held := by decide
  have hmem : (3, .attempt request true) ∈ historyOf final.panel.log 0 := by
    have hasked : start.environmentAt? setting none 3 steps = some {} := rfl
    obtain ⟨track, hhistory, -, hfate⟩ := fate_trigger hstart rfl none .create [.advance 5]
    rw [show setting.config.sendsAt start.now = 3 from rfl, hasked] at hfate
    rw [show historyOf final.panel.log 0 = track.history from hhistory]
    cases hfate with
    | abandoned hsource => cases hsource
    | sent hsource hreception hresolves =>
      cases hsource
      obtain rfl := hreception.symm.trans hheld
      obtain ⟨rest, hrest, -⟩ := hresolves.history
      rw [hrest]
      exact List.mem_append_left _ (by
        simp only [Track.sent, List.mem_cons, Prod.mk.injEq, reduceCtorEq, and_false, false_or]
        exact .inl ⟨rfl, rfl⟩)
  have hlimit : TimesOut timeout 3 5 := ⟨_, rfl, by decide, rfl⟩
  have hthere : final.live = true := live_advance setting (start.trigger setting .create) 5
  obtain ⟨-, token, rest, hhistory, hresolved, hopen, hends⟩ :=
    resolved_once base timeout (.fixed ⟨['t']⟩) .holding none {} [] .create [.advance 5] rfl 3
      request hmem hheld
  have hne : rest ≠ [] := fun hrest =>
    absurd ((hopen hrest hthere 5 hlimit).2 [.trigger .create] _ rfl rfl) (Nat.lt_irrefl 5)
  obtain ⟨hsame, hreplies⟩ := (hends hne).2 late
  have htold : told (historyOf final.panel.log 0) = [(5, .failed)] := by
    refine (congrArg told hhistory).trans ?_
    cases hresolved with
    | held => exact absurd rfl hne
    | givenUp h =>
      obtain ⟨limit, htimeout, -, rfl⟩ := h
      obtain rfl := Option.some.inj htimeout
      rfl
  exact ⟨hmem, hheld, (congrArg told hsame).trans htold, hreplies⟩

end TimedPanel
end PersonGate
