import Mathlib.Data.List.Nodup
import PersonGate.Cli.Words
import PersonGate.Proofs.Config.Building
/-!
# Where the value of an option comes from

Options that are written on a command line, each once and in any order, are read back as they were
written, whatever is in their values (`read_settings`). What is not written comes from the
environment, if the option has a variable and the variable is set, and else it has its default. A
variable whose option is written is not looked at, so it may hold anything (`fillAll_eq`). The
whole, up to the client that the invocation describes, is `parse_exact`.
-/
namespace PersonGate

/-- The number in a variable that is set to one. -/
def Environment.word? (env : Environment) (name : Text) : Option Cli.Word :=
  env.var? name >>= Text.unsigned? Cli.wordBound

namespace Cli

/-- An option with its value. -/
inductive Setting where
  | baseUrl (value : Text)
  | token (value : Text)
  | tokenEnv (value : Text)
  | delayMs (n : Word)
  | timeoutSecs (n : Word)
  deriving DecidableEq, Repr

namespace Setting

def opt : Setting → Opt
  | .baseUrl _ => .baseUrl
  | .token _ => .token
  | .tokenEnv _ => .tokenEnv
  | .delayMs _ => .delayMs
  | .timeoutSecs _ => .timeoutSecs

/-- The value as it is written. -/
def text : Setting → Text
  | .baseUrl value | .token value | .tokenEnv value => value
  | .delayMs n | .timeoutSecs n => Nat.toDigits 10 n

/-- The word `--name=value`. -/
def word (setting : Setting) : Text :=
  "--".toList ++ setting.opt.name.toList ++ '=' :: setting.text

/-- The value as the only one that is known. -/
def given : Setting → Given
  | .baseUrl value => { baseUrl := some value }
  | .token value => { token := some value }
  | .tokenEnv value => { tokenEnv := some value }
  | .delayMs n => { delayMs := some n }
  | .timeoutSecs n => { timeoutSecs := some n }

end Setting

namespace Given

/-- The values of options that are known, as settings. -/
def settings (given : Given) : List Setting :=
  given.baseUrl.toList.map .baseUrl ++ given.token.toList.map .token ++
    given.tokenEnv.toList.map .tokenEnv ++ given.delayMs.toList.map .delayMs ++
    given.timeoutSecs.toList.map .timeoutSecs

/-- The values that are known, and behind them others. -/
def or (given others : Given) : Given where
  baseUrl := given.baseUrl.or others.baseUrl
  token := given.token.or others.token
  tokenEnv := given.tokenEnv.or others.tokenEnv
  delayMs := given.delayMs.or others.delayMs
  timeoutSecs := given.timeoutSecs.or others.timeoutSecs

/-- The values of some settings, the first of an option before the others. -/
def ofSettings (settings : List Setting) : Given :=
  settings.foldr (fun setting given => setting.given.or given) {}

/-- The values of variables that can be read. -/
def ofEnvironment (env : Environment) : Given where
  baseUrl := env.var? "AAS_BASE_URL".toList
  delayMs := env.word? "AAS_ACTION_DELAY_MS".toList
  timeoutSecs := env.word? "AAS_REQUEST_TIMEOUT_SECS".toList

end Given

/-- The words that ask for a command. -/
inductive Asks : List Text → Command → Prop
  | nav : Asks ["nav".toList] (.nav none)
  | navBare : Asks ["nav".toList, "--authenticated".toList] (.nav (some true))
  | navTrue : Asks ["nav".toList, "--authenticated=true".toList] (.nav (some true))
  | navFalse : Asks ["nav".toList, "--authenticated=false".toList] (.nav (some false))
  | panel : Asks ["panel".toList] .panel
  | act (action : PersonAction) : Asks [action.key.toList] (.act action)
  | serve : Asks ["serve".toList] .serve

/-- Can a value from outside be that of the option? -/
def Opt.Accepts : Opt → OsText → Prop
  | .baseUrl, raw | .token, raw | .tokenEnv, raw => ∃ t, raw.text? = some t
  | .delayMs, raw | .timeoutSecs, raw =>
    ∃ t n, raw.text? = some t ∧ Text.unsigned? wordBound t = some n

/-! ## Options as words -/

theorem WordShape.ofWord_long {rest : OsText} (h : rest ≠ []) :
    ofWord (.char '-' :: .char '-' :: rest) = .long (cutValue rest).1 (cutValue rest).2 := by
  cases rest with
  | nil => exact absurd rfl h
  | cons _ _ => rfl

/-- A word is cut at its first equals sign, so the value may have others. -/
theorem WordShape.cutValue_append {name : OsText} (h : .char '=' ∉ name) (value : OsText) :
    cutValue (name ++ .char '=' :: value) = (name, some value) := by
  have hname : ∀ unit ∈ name, decide (unit ≠ .char '=') = true := by
    intro unit hunit
    exact decide_eq_true fun heq => h (heq ▸ hunit)
  rw [cutValue, List.takeWhile_append_of_pos hname, List.dropWhile_append_of_pos hname]
  simp

theorem Opt.equals_not_mem_name (opt : Opt) : .char '=' ∉ OsText.ofText opt.name.toList := by
  cases opt <;> decide

theorem Opt.option?_name (opt : Opt) :
    OptionScan.option? (OsText.ofText opt.name.toList) = some opt := by
  cases opt <;> rfl

namespace Setting

theorem ofText_word (setting : Setting) :
    OsText.ofText setting.word = .char '-' :: .char '-' ::
      (OsText.ofText setting.opt.name.toList ++ .char '=' :: OsText.ofText setting.text) := by
  simp [word, OsText.ofText]

theorem ofWord_word (setting : Setting) :
    WordShape.ofWord (OsText.ofText setting.word) =
      .long (OsText.ofText setting.opt.name.toList) (some (OsText.ofText setting.text)) := by
  rw [ofText_word, WordShape.ofWord_long (by simp),
    WordShape.cutValue_append setting.opt.equals_not_mem_name]

theorem subcommand?_word (setting : Setting) :
    Subcommand.ofWord? (OsText.ofText setting.word) = none := by
  rw [ofText_word]
  rfl

end Setting

/-! ## Values behind others -/

namespace Given

theorem or_assoc (a b c : Given) : (a.or b).or c = a.or (b.or c) := by
  simp [or, Option.or_assoc]

theorem or_empty (given : Given) : given.or {} = given := by simp [or]

theorem empty_or (given : Given) : or {} given = given := by simp [or]

theorem has_or (a b : Given) (opt : Opt) : (a.or b).has opt = (a.has opt || b.has opt) := by
  cases opt <;> simp [or, has, Option.isSome_or]

theorem has_given (setting : Setting) (opt : Opt) :
    setting.given.has opt = decide (setting.opt = opt) := by
  cases setting <;> cases opt <;> rfl

/-- The order of two settings does not matter if they are of two options. -/
theorem or_left_comm {a b : Setting} (h : a.opt ≠ b.opt) (given : Given) :
    a.given.or (b.given.or given) = b.given.or (a.given.or given) := by
  cases a <;> cases b <;> first | rfl | exact absurd rfl h

theorem nodup_settings (given : Given) : (given.settings.map Setting.opt).Nodup := by
  obtain ⟨_ | _, _ | _, _ | _, _ | _, _ | _⟩ := given <;> simp [settings, Setting.opt]

theorem ofSettings_settings (given : Given) : ofSettings given.settings = given := by
  obtain ⟨_ | _, _ | _, _ | _, _ | _, _ | _⟩ := given <;> rfl

/-- Settings in any order have the same values. -/
theorem ofSettings_perm {given : Given} {settings : List Setting}
    (h : settings.Perm given.settings) : ofSettings settings = given := by
  have hopt : ∀ a ∈ settings, ∀ b ∈ settings, a.opt = b.opt → a = b :=
    List.inj_on_of_nodup_map ((h.map Setting.opt).nodup_iff.2 given.nodup_settings)
  rw [ofSettings, h.foldr_eq' fun a ha b hb others => ?_]
  · exact given.ofSettings_settings
  · by_cases hab : a.opt = b.opt
    · rw [hopt a ha b hb hab]
    · exact or_left_comm (Ne.symm hab) others

/-- An option that is not there yet gets its value. -/
theorem set_eq {given : Given} {setting : Setting} (h : given.has setting.opt = false) :
    given.set setting.opt (OsText.ofText setting.text) = .ok (given.or setting.given) := by
  cases setting <;>
    simp_all [Setting.opt, Setting.text, Setting.given, has, set, readText, readWord, or,
      OsText.text?_ofText, Text.unsigned?_toDigits, Except.map]

end Given

/-! ## Reading them back -/

namespace OptionScan

theorem read_setting {given : Given} {setting : Setting} (h : given.has setting.opt = false)
    (words : List OsText) :
    read ⟨given, none⟩ (OsText.ofText setting.word :: words) =
      read ⟨given.or setting.given, none⟩ words := by
  have hword : subcommand? ⟨given, none⟩ (OsText.ofText setting.word) = none :=
    setting.subcommand?_word
  have hlong : long ⟨given, none⟩ (OsText.ofText setting.opt.name.toList)
      (some (OsText.ofText setting.text)) = .ok ⟨given.or setting.given, none⟩ := by
    simp only [long, setting.opt.option?_name, begin, settle, take, h, Given.set_eq h]
    rfl
  simp only [read, hword, setting.ofWord_word, hlong]

/-- Options that are written each once are read as they were written, whatever stands behind. -/
theorem read_settings (settings : List Setting) (given : Given) (rest : List OsText)
    (honce : (settings.map Setting.opt).Nodup)
    (hnew : ∀ setting ∈ settings, given.has setting.opt = false) :
    read ⟨given, none⟩ (settings.map (fun setting => OsText.ofText setting.word) ++ rest) =
      read ⟨given.or (.ofSettings settings), none⟩ rest := by
  induction settings generalizing given with
  | nil => exact congrArg (fun given => read ⟨given, none⟩ rest) given.or_empty.symm
  | cons setting settings ih =>
    rw [List.map_cons, List.nodup_cons] at honce
    rw [List.map_cons, List.cons_append, read_setting (hnew setting List.mem_cons_self),
      ih _ honce.2, Given.or_assoc]
    · rfl
    · intro other hother
      have hne : setting.opt ≠ other.opt := fun heq =>
        honce.1 (heq ▸ List.mem_map_of_mem hother)
      rw [Given.has_or, hnew other (List.mem_cons_of_mem _ hother), Given.has_given]
      simpa using hne

/-- The words of a command are read as that command. -/
theorem read_tail {tail : List Text} {command : Command} (h : Asks tail command) (given : Given) :
    read ⟨given, none⟩ (tail.map OsText.ofText) = .ok (⟨given, none⟩, some command) := by
  cases h with
  | act action => cases action <;> rfl
  | _ => rfl

end OptionScan

/-! ## The environment behind them -/

namespace Given

/-- The values with that of one option from others, where it is not there yet. -/
def orOne (given others : Given) : Opt → Given
  | .baseUrl => { given with baseUrl := given.baseUrl.or others.baseUrl }
  | .token => given
  | .tokenEnv => given
  | .delayMs => { given with delayMs := given.delayMs.or others.delayMs }
  | .timeoutSecs => { given with timeoutSecs := given.timeoutSecs.or others.timeoutSecs }

/-- Every variable whose option is not given is unset or can be read. -/
def Fits (given : Given) (env : Environment) : Prop :=
  ∀ opt, given.has opt = false → ∀ name raw, Opt.fallback? opt = some name →
    env.get? name.toList = some raw → opt.Accepts raw

theorem Fits.orOne {given : Given} {env : Environment} (h : given.Fits env) (others : Given)
    (opt : Opt) : (given.orOne others opt).Fits env := by
  intro other hother
  refine h other ?_
  cases opt <;> cases other <;> simp_all [Given.orOne, has]

theorem orOne_of_has {given : Given} {opt : Opt} (h : given.has opt = true) (others : Given) :
    given.orOne others opt = given := by
  cases opt <;> simp_all [has, orOne, Option.or_of_isSome]

/-- What is given shadows its variable, whatever that holds; else the variable counts. -/
theorem fill_eq {given : Given} {env : Environment} (h : given.Fits env) (opt : Opt) :
    given.fill env opt = .ok (given.orOne (ofEnvironment env) opt) := by
  cases hhas : given.has opt with
  | true =>
    rw [orOne_of_has hhas, fill]
    split <;> simp [hhas]
  | false =>
    have hreads := h opt hhas
    obtain ⟨baseUrl, token, tokenEnv, delayMs, timeoutSecs⟩ := given
    cases opt with
    | token | tokenEnv => rfl
    | baseUrl =>
      obtain rfl : baseUrl = none := by simpa [has] using hhas
      simp only [fill, Opt.fallback?, has, orOne, ofEnvironment, Environment.var?, Option.none_or]
      generalize hget : env.get? _ = found
      cases found with
      | none => rfl
      | some raw =>
        obtain ⟨t, ht⟩ := hreads _ raw rfl hget
        simp [set, readText, ht, Except.map]
    | delayMs | timeoutSecs =>
      rw [has, Option.isSome_eq_false_iff, Option.isNone_iff_eq_none] at hhas
      subst hhas
      simp only [fill, Opt.fallback?, has, orOne, ofEnvironment, Environment.word?,
        Environment.var?, Option.none_or]
      generalize hget : env.get? _ = found
      cases found with
      | none => rfl
      | some raw =>
        obtain ⟨t, n, ht, hn⟩ := hreads _ raw rfl hget
        simp [set, readWord, ht, hn, Except.map]

theorem fillAll_eq {given : Given} {env : Environment} (h : given.Fits env) :
    given.fillAll env = .ok (given.or (ofEnvironment env)) := by
  have hfold : ∀ (opts : List Opt) (given : Given), given.Fits env →
      opts.foldlM (fill env) given = .ok (opts.foldl (orOne · (ofEnvironment env)) given) := by
    intro opts
    induction opts with
    | nil => exact fun _ _ => rfl
    | cons opt opts ih =>
      intro given h
      rw [List.foldlM_cons, fill_eq h opt]
      exact ih _ (h.orOne _ opt)
  rw [fillAll, hfold _ _ h]
  simp [Opt.all, orOne, or, ofEnvironment]

end Given

/-! ## The client -/

theorem Invocation.baseUrl_clientConfig (invocation : Invocation) :
    ∃ n, invocation.baseUrl = invocation.clientConfig.baseUrl ++ List.replicate n '/' :=
  ClientConfig.exists_slashes invocation.baseUrl

theorem Invocation.requestTimeout_clientConfig (invocation : Invocation) (limit : Duration) :
    invocation.clientConfig.requestTimeout = some limit ↔
      ∃ n, invocation.timeoutSecs = some n ∧ n.val ≠ 0 ∧ limit = .ofSeconds n := by
  have hzero : ∀ n : Word, (Duration.ofSeconds n).nanoseconds ≠ 0 ↔ n.val ≠ 0 := by
    intro n
    simp only [Duration.ofSeconds, Duration.second]
    omega
  have hclient : invocation.clientConfig =
      ((ClientConfig.new invocation.baseUrl).withActionDelay
        (.ofMilliseconds invocation.delayMs)).withRequestTimeout
          (invocation.timeoutSecs.map fun n => .ofSeconds n.val) := by
    unfold clientConfig
    cases invocation.timeoutSecs <;> rfl
  rw [hclient, ClientConfig.requestTimeout_withRequestTimeout, Option.map_eq_some_iff]
  constructor
  · rintro ⟨⟨n, hn, rfl⟩, hne⟩
    exact ⟨n, hn, (hzero n).1 hne, rfl⟩
  · rintro ⟨n, hn, hne, rfl⟩
    exact ⟨⟨n, hn, rfl⟩, (hzero n).2 hne⟩

/-- **Where values come from.** Take the values of any options, written as `--name=value` each and
in any order, and the words of any command behind them, in an environment whose variables are unset
or can be read, but for those whose options are written. The words are understood: the command is
that one; the address, the wait and the time limit are as written, else as in the environment, else
the defaults; the token and the name of its variable are as written and never from the environment.
The client that is made of them has the address without the slashes at its end, the wait in
milliseconds, and the limit in seconds if there is one and it is not zero. -/
theorem parse_exact {flags : Given} {settings : List Setting} {tail : List Text} {command : Command}
    {env : Environment} (horder : settings.Perm flags.settings) (hasks : Asks tail command)
    (hfits : flags.Fits env) :
    ∃ invocation, parse env ((settings.map Setting.word ++ tail).map OsText.ofText) =
        .ok invocation ∧
      invocation.baseUrl = (flags.baseUrl.or (env.var? "AAS_BASE_URL".toList)).getD
        "http://localhost:9003".toList ∧
      invocation.token = flags.token ∧
      invocation.tokenEnv = flags.tokenEnv.getD "AAS_TOKEN".toList ∧
      invocation.delayMs = (flags.delayMs.or (env.word? "AAS_ACTION_DELAY_MS".toList)).getD
        ⟨3000, by decide⟩ ∧
      invocation.timeoutSecs =
        flags.timeoutSecs.or (env.word? "AAS_REQUEST_TIMEOUT_SECS".toList) ∧
      invocation.command = command ∧
      let config := invocation.clientConfig
      (∃ n, invocation.baseUrl = config.baseUrl ++ List.replicate n '/') ∧
      config.baseUrl.getLast? ≠ some '/' ∧
      config.actionDelay.nanoseconds = invocation.delayMs * 1000000 ∧
      ∀ limit, config.requestTimeout = some limit ↔
        ∃ n, invocation.timeoutSecs = some n ∧ n.val ≠ 0 ∧ limit = .ofSeconds n := by
  have hread : OptionScan.read {} ((settings.map Setting.word ++ tail).map OsText.ofText) =
      .ok (⟨flags, none⟩, some command) := by
    have honce : (settings.map Setting.opt).Nodup :=
      (horder.map Setting.opt).nodup_iff.2 flags.nodup_settings
    have hnew : ∀ setting ∈ settings, ({} : Given).has setting.opt = false :=
      fun setting _ => by cases setting <;> rfl
    have hscan := OptionScan.read_settings settings {} (tail.map OsText.ofText) honce hnew
    rw [Given.ofSettings_perm horder, Given.empty_or, OptionScan.read_tail hasks] at hscan
    rwa [List.map_append, List.map_map]
  have hparse : parse env ((settings.map Setting.word ++ tail).map OsText.ofText) =
      .ok (.ofGiven (flags.or (.ofEnvironment env)) command) := by
    simp only [parse, hread, OptionScan.settle, Given.fillAll_eq hfits]
  let invocation := Invocation.ofGiven (flags.or (.ofEnvironment env)) command
  exact ⟨invocation, hparse, rfl, Option.or_none, congrArg (Option.getD · _) Option.or_none, rfl,
    rfl, rfl, invocation.baseUrl_clientConfig,
    fun hlast => absurd (Text.getLast_dropEnd _ _ hlast) (by decide), rfl,
    invocation.requestTimeout_clientConfig⟩

/-- A wait and an address are written, the variable of the wait is no number, and the time limit
comes from the environment. -/
theorem parse_exact_shadowed :
    let env : Environment := ⟨[("AAS_ACTION_DELAY_MS".toList, OsText.ofText "soon".toList),
      ("AAS_REQUEST_TIMEOUT_SECS".toList, OsText.ofText ['7']),
      ("AAS_TOKEN".toList, OsText.ofText ['t'])]⟩
    let words := ["--delay-ms=0", "--base-url=http://a/?b=c/", "nav", "--authenticated=false"]
    ∃ invocation, parse env (words.map fun word => OsText.ofText word.toList) = .ok invocation ∧
      invocation.baseUrl = "http://a/?b=c/".toList ∧ invocation.token = none ∧
      invocation.delayMs.val = 0 ∧ invocation.timeoutSecs = some ⟨7, by decide⟩ ∧
      invocation.command = .nav (some false) := by
  intro env words
  let flags : Given := { baseUrl := some "http://a/?b=c/".toList, delayMs := some ⟨0, by decide⟩ }
  let settings : List Setting := [.delayMs ⟨0, by decide⟩, .baseUrl "http://a/?b=c/".toList]
  have horder : settings.Perm flags.settings := .swap _ _ []
  have hfits : flags.Fits env := by
    intro opt hopt name raw hname hget
    cases opt with
    | baseUrl | delayMs => cases hopt
    | token | tokenEnv => cases hname
    | timeoutSecs =>
      cases hname
      obtain rfl : OsText.ofText ['7'] = raw := Option.some.inj hget
      exact ⟨['7'], ⟨7, by decide⟩, rfl, rfl⟩
  obtain ⟨invocation, hparse, hbase, htoken, -, hdelay, htimeout, hcommand, -⟩ :=
    parse_exact horder .navFalse hfits
  exact ⟨invocation, hparse, hbase, htoken, congrArg Fin.val hdelay, htimeout, hcommand⟩

end Cli
end PersonGate
