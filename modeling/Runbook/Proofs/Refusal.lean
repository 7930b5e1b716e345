import Runbook.Proofs.Remainder

/-!
# Refusals before the start

A run that is given as values is refused before its start exactly when its state is no object, its options have not the
shape of settings, their mode is unknown or a limit is zero. It then leaves no trace, and the state as it was given.
Otherwise it is the run of the state and the options that the values stand for.

* `Settings.given`, `Settings.Means` : the settings of a value, and the options they mean, field by field;
* `Settings.options_eq_ok`, `Options.ofJson_eq_ok` : the options of settings and of a value;
* `Unfit` : the values that no run can start from; `not_unfit_iff` : all others stand for a state and options;
* `Report.Refused` : what is told of a refused run;
* `executeJson_of_unfit` : a run from unfit values is refused; `execute_of_valid` : a run with valid options is made;
* `executeJson_of_fit` : a run from other values is that of the state and the options that they stand for;
* `execute_renamed` : two runs that differ in their identifiers report the same but for these; `Ticks.executes` : on a clock
  that always moves on, they report an outcome;
* `refused_or_executed` : both together, with what no executed run reports.
-/

namespace Runbook

variable {ω : Type}

/-! ## What options mean -/

/-- A text names a mode if it is the word for it, in any ASCII case and with any blanks around it. -/
theorem Mode.ofText_eq_ok {text : String} {mode : Mode} :
    ofText text = .ok mode ↔ mode.word = Text.lowerAscii (Text.trimString text) := by
  unfold ofText
  generalize Text.lowerAscii (Text.trimString text) = word
  by_cases hs : word = "strict"
  · subst hs
    cases mode <;> decide
  by_cases ha : word = "adaptive"
  · subst ha
    cases mode <;> decide
  have hnone : all.lookup word = none := by
    rw [List.lookup_eq_none_iff]
    simp [all, hs, ha]
  simp only [hnone, reduceCtorEq, false_iff]
  cases mode with
  | strict => exact fun h => hs h.symm
  | adaptive => exact fun h => ha h.symm

theorem Options.validate_eq_ok {o o' : Options} :
    o.validate = .ok o' ↔ o = o' ∧ 0 < o.maxIterations ∧ 0 < o.maxCheckpoints := by
  unfold validate
  split
  · simp_all
  · split
    · simp_all
    · rw [Except.ok.injEq]
      exact ⟨fun h => ⟨h, by omega, by omega⟩, fun h => h.1⟩

namespace Settings

/-- The settings that a value gives; null gives those that leave every choice to its default. -/
def given : Json → Except Json.Mismatch Settings
  | .null => .ok standard
  | v => ofJson v

/-- The word for a mode that settings give: without blanks around it, in small ASCII letters. -/
def modeWord (s : Settings) : String := Text.lowerAscii (Text.trimString s.mode)

/-- The options that settings mean, field by field. -/
structure Means (s : Settings) (o : Options) : Prop where
  mode : o.mode.word = s.modeWord
  timeout : o.timeout = Duration.ofMillis s.timeoutMs
  checkpoint : o.checkpoint = s.checkpoint
  resumeFrom : o.resumeFrom = s.resumeFrom
  maxIterations : o.maxIterations = s.maxIterations
  maxCheckpoints : o.maxCheckpoints = s.maxCheckpoints

variable {s : Settings} {o : Options}

theorem options_eq_ok : s.options = .ok o ↔ s.Means o ∧ 0 < o.maxIterations ∧ 0 < o.maxCheckpoints := by
  unfold options
  cases hm : Mode.ofText s.mode with
  | error e =>
    refine ⟨nofun, fun h => ?_⟩
    have hmode := Mode.ofText_eq_ok.mpr h.1.mode
    rw [hm] at hmode
    cases hmode
  | ok mode =>
    have hword := Mode.ofText_eq_ok.mp hm
    show Options.validate _ = .ok o ↔ _
    rw [Options.validate_eq_ok]
    constructor
    · rintro ⟨rfl, hiterations, hcheckpoints⟩
      exact ⟨⟨hword, rfl, rfl, rfl, rfl, rfl⟩, hiterations, hcheckpoints⟩
    · rintro ⟨h, hiterations, hcheckpoints⟩
      have hmode : mode = o.mode := by
        have hnamed := Mode.ofText_eq_ok.mpr h.mode
        rw [hm] at hnamed
        exact Except.ok.inj hnamed
      obtain ⟨-, ht, hc, hr, hi, hk⟩ := h
      rw [hi] at hiterations
      rw [hk] at hcheckpoints
      refine ⟨?_, hiterations, hcheckpoints⟩
      rw [hmode, ← ht, ← hc, ← hr, ← hi, ← hk]

/-- Settings mean options that are valid exactly if their mode is known and their limits are not zero. -/
theorem exists_options : (∃ o, s.options = .ok o) ↔
    (s.modeWord = "strict" ∨ s.modeWord = "adaptive") ∧ 0 < s.maxIterations ∧ 0 < s.maxCheckpoints := by
  constructor
  · rintro ⟨o, ho⟩
    obtain ⟨hmeans, hiterations, hcheckpoints⟩ := options_eq_ok.mp ho
    rw [← hmeans.mode, ← hmeans.maxIterations, ← hmeans.maxCheckpoints]
    refine ⟨?_, hiterations, hcheckpoints⟩
    cases o.mode with
    | strict => exact Or.inl rfl
    | adaptive => exact Or.inr rfl
  · rintro ⟨hmode, hlimits⟩
    obtain ⟨mode, hword⟩ : ∃ mode : Mode, mode.word = s.modeWord := by
      rcases hmode with h | h
      · exact ⟨.strict, h.symm⟩
      · exact ⟨.adaptive, h.symm⟩
    exact ⟨⟨mode, .ofMillis s.timeoutMs, s.checkpoint, s.resumeFrom, s.maxIterations, s.maxCheckpoints⟩,
      options_eq_ok.mpr ⟨⟨hword, rfl, rfl, rfl, rfl, rfl⟩, hlimits⟩⟩

end Settings

theorem Options.ofJson_eq_ok {v : Json} {o : Options} :
    Options.ofJson v = .ok o ↔ ∃ s, Settings.given v = .ok s ∧ s.options = .ok o := by
  have hof : Options.ofJson v = ((Settings.given v).mapError .shape).bind Settings.options := by
    cases v <;> rfl
  rw [hof]
  cases Settings.given v with
  | error m => simp [Except.mapError, Except.bind]
  | ok s => simp [Except.mapError, Except.bind]

theorem State.ofJson_eq_ok {v : Json} {s : State} : State.ofJson v = .ok s ↔ v = s.toJson := by
  constructor
  · intro h
    cases v with
    | obj fields =>
      obtain rfl := Except.ok.inj h
      rfl
    | _ => cases h
  · rintro rfl
    rfl

/-! ## Values that no run can start from -/

/-- The state is no object, the options have not the shape of settings, their mode is unknown, or a limit of theirs is
zero. -/
inductive Unfit (state options : Json) : Prop
  | state (h : ∀ fields, state ≠ .obj fields)
  | shape {m} (hn : options ≠ .null) (h : Settings.ofJson options = .error m)
  | mode {s} (h : Settings.given options = .ok s) (hs : s.modeWord ≠ "strict") (ha : s.modeWord ≠ "adaptive")
  | limit {s} (h : Settings.given options = .ok s) (hz : s.maxIterations = 0 ∨ s.maxCheckpoints = 0)

/-- Where a value gives no settings, it is not null and has not their shape. -/
theorem Settings.given_eq_error {v : Json} {m : Json.Mismatch} :
    given v = .error m ↔ v ≠ .null ∧ ofJson v = .error m := by
  cases v <;> simp [given]

/-- The values that a run can start from are those that stand for a state and for options. -/
theorem not_unfit_iff {state options : Json} : ¬ Unfit state options ↔
    (∃ s, State.ofJson state = .ok s) ∧ ∃ o, Options.ofJson options = .ok o := by
  constructor
  · intro h
    constructor
    · cases state with
      | obj fields => exact ⟨⟨fields⟩, rfl⟩
      | _ => exact absurd (.state (by simp)) h
    · cases hg : Settings.given options with
      | error m =>
        obtain ⟨hn, hm⟩ := Settings.given_eq_error.mp hg
        exact absurd (.shape hn hm) h
      | ok s =>
        have hmode : s.modeWord = "strict" ∨ s.modeWord = "adaptive" := by
          by_contra hnot
          rw [not_or] at hnot
          exact h (.mode hg hnot.1 hnot.2)
        have hlimits : ¬ (s.maxIterations = 0 ∨ s.maxCheckpoints = 0) := fun hz => h (.limit hg hz)
        obtain ⟨o, ho⟩ := Settings.exists_options.mpr ⟨hmode, by omega, by omega⟩
        exact ⟨o, Options.ofJson_eq_ok.mpr ⟨s, hg, ho⟩⟩
  · rintro ⟨⟨s, hs⟩, o, ho⟩ h
    obtain ⟨t, ht, ho⟩ := Options.ofJson_eq_ok.mp ho
    obtain ⟨hmode, hlimits⟩ := Settings.exists_options.mp ⟨o, ho⟩
    cases h with
    | state h => exact h s.fields (State.ofJson_eq_ok.mp hs)
    | shape hn h =>
      rw [Settings.given_eq_error.mpr ⟨hn, h⟩] at ht
      cases ht
    | mode h hstrict hadaptive =>
      obtain rfl := Except.ok.inj (h.symm.trans ht)
      exact hmode.elim hstrict hadaptive
    | limit h hz =>
      obtain rfl := Except.ok.inj (h.symm.trans ht)
      omega

/-! ## Refused runs and executed ones -/

/-- The state that a value gives: without fields if the value is no object. -/
def State.orEmpty : Json → State
  | .obj fields => ⟨fields⟩
  | _ => .empty

/-- The report of a run that was refused before it started, in a state: nothing is counted, and the one error is
ascribed to the initialization. -/
structure Report.Refused (r : Report) (state : State) : Prop where
  outcome : r.outcome = none
  success : r.success = false
  trace : r.trace = []
  statistics : r.statistics = ⟨0, 0, 0, 0, 0, 0, 0⟩
  finalState : r.finalState = state
  errors : ∃ e, r.errors = [e] ∧ e.kind = .system ∧ e.step = some "initialization"

theorem Report.rejected_refused (runId : String) (now : Instant) (e : Rejection) (state : State) :
    (rejected runId now e state).Refused state :=
  ⟨rfl, rfl, rfl, rfl, rfl, _, rfl, rfl, rfl⟩

namespace Executor

variable (origin : Origin) (text : String) {state options : Json}

/-- Values that no run can start from are refused by every executor in the same way, and nothing is asked of it. -/
theorem executeJson_of_unfit (h : Unfit state options) : ∃ r : Report, r.Refused (.orEmpty state) ∧
    ∀ {ω : Type} (x : Executor ω) (w : ω), x.executeJson origin text state options w = some (r, w) := by
  cases hs : State.ofJson state with
  | error e =>
    refine ⟨.rejected origin.runId origin.now (.state e) .empty, ?_, fun x w => ?_⟩
    · have hempty : State.orEmpty state = .empty := by
        cases state with
        | obj fields => cases hs
        | _ => rfl
      rw [hempty]
      exact Report.rejected_refused ..
    · rw [executeJson, hs]
  | ok s =>
    cases ho : Options.ofJson options with
    | error e =>
      refine ⟨.rejected origin.runId origin.now e s, ?_, fun x w => ?_⟩
      · obtain rfl := State.ofJson_eq_ok.mp hs
        exact Report.rejected_refused ..
      · rw [executeJson, hs, ho]
    | ok o => exact absurd h (not_unfit_iff.mpr ⟨⟨s, hs⟩, o, ho⟩)

section Executed
variable {x : Executor ω} {s : State} {o : Options}

/-- With valid options a program text is run from its start. -/
theorem execute_of_valid (hv : o.validate = .ok o) (w : ω) : x.execute origin text s o w =
    (x.run (.start origin.runId (Program.parse text) s o) w).map fun r => (r.2.1.report, r.2.2) := by
  have hprepared : Session.prepare origin.runId text s o = .ok (.start origin.runId (Program.parse text) s o) := by
    rw [Session.prepare, hv]
    rfl
  rw [execute, hprepared]

/-- The report of a fresh session that has run tells an outcome, and no error from before the start. -/
theorem Ran.reports {p : Program} {runId : String} {s' : Session} {w w' : ω} {turns : List (Turn ω)} {oc : Outcome}
    (h : x.Ran (.start runId p s o) w turns oc s' w') :
    s'.report.outcome = some oc ∧ ∀ e ∈ s'.report.errors, e.kind ≠ .system := by
  refine ⟨h.outcome_eq, fun e he => ?_⟩
  rcases h.kind_of_mem he with hfresh | hk | hk | hk
  · cases hfresh
  all_goals
    rw [hk]
    exact nofun

/-- Two runs of a program text in the same state and world, under the same valid options, break off both, or report the
same but for the identifiers they were given: an outcome, and no error from before the start. -/
theorem execute_renamed (origin' : Origin) (hv : o.validate = .ok o) (w : ω) :
    (x.BreaksOff (.start origin.runId (Program.parse text) s o) w ∧ x.execute origin text s o w = none ∧
      x.execute origin' text s o w = none) ∨
    ∃ r w', x.execute origin text s o w = some (r, w') ∧
      x.execute origin' text s o w = some ({ r with runId := origin'.runId }, w') ∧ r.outcome.isSome = true ∧
      ∀ e ∈ r.errors, e.kind ≠ .system := by
  rw [execute_of_valid origin text hv, execute_of_valid origin' text hv]
  have halike : (Session.start origin.runId (Program.parse text) s o).Alike (.same : Likeness ω)
      (.start origin'.runId (Program.parse text) s o) :=
    .of_eq (fun _ => trivial) (fun _ => rfl) rfl rfl rfl rfl rfl rfl
  rcases run_same (x := x) (w := w) halike rfl rfl rfl rfl rfl rfl rfl with
    ⟨hbreaks, hbreaks'⟩ | ⟨oc, s', w', hrun, hrun'⟩
  · exact Or.inl ⟨hbreaks, by rw [hbreaks.1, Option.map_none], by rw [hbreaks'.1, Option.map_none]⟩
  · obtain ⟨turns, hran⟩ := x.run_ran hrun
    obtain ⟨houtcome, herrors⟩ := hran.reports
    have hprogram : Program.parse text = s'.program := hran.program.symm
    refine Or.inr ⟨s'.report, w', by rw [hrun, Option.map_some], ?_, by rw [houtcome, Option.isSome_some], herrors⟩
    rw [hrun', Option.map_some]
    simp only [Session.start, hprogram]
    rfl

end Executed

/-- Values that a run can start from stand for a state and for valid options, and are executed as these. -/
theorem executeJson_of_fit (h : ¬ Unfit state options) : ∃ (s : State) (settings : Settings) (o : Options),
    state = s.toJson ∧ Settings.given options = .ok settings ∧ settings.Means o ∧ o.validate = .ok o ∧
      ∀ {ω : Type} (x : Executor ω) (w : ω),
        x.executeJson origin text state options w = x.execute origin text s o w := by
  obtain ⟨⟨s, hs⟩, o, ho⟩ := not_unfit_iff.mp h
  obtain ⟨settings, hgiven, hoptions⟩ := Options.ofJson_eq_ok.mp ho
  obtain ⟨hmeans, hlimits⟩ := Settings.options_eq_ok.mp hoptions
  refine ⟨s, settings, o, State.ofJson_eq_ok.mp hs, hgiven, hmeans, Options.validate_eq_ok.mpr ⟨rfl, hlimits⟩,
    fun x w => ?_⟩
  rw [executeJson, hs, ho]

/-- On a clock that always moves on, values that a run can start from lead to an outcome, and to no error from before the
start. -/
theorem Ticks.executes {ω : Type} {x : Executor ω} (hx : x.Ticks) (h : ¬ Unfit state options) (w : ω) :
    ∃ r w', x.executeJson origin text state options w = some (r, w') ∧ r.outcome.isSome = true ∧
      ∀ e ∈ r.errors, e.kind ≠ .system := by
  obtain ⟨s, settings, o, -, -, -, hv, hexecuted⟩ := executeJson_of_fit origin text h
  rcases execute_renamed (x := x) origin text origin hv w with ⟨hbreak, -⟩ | ⟨r, w', hrun, -, houtcome, herrors⟩
  · exact absurd hbreak (hx.not_breaksOff _ w)
  · exact ⟨r, w', (hexecuted x w).trans hrun, houtcome, herrors⟩

/-- **Refused before the start, or executed.** Whatever the program text and the values given for state and options,
either no run can start from these: then every executor gives the same report of a refusal, in the state as it was
given, or without fields if it is no object, and asks nothing of its strategies. Or the values stand for a state and
for options, and every executor gives what it gives for these, but for the identifier of the run: it breaks off in both,
or reports an outcome and no error from before the start. -/
theorem refused_or_executed (state options : Json) :
    (Unfit state options ∧ ∃ r : Report, r.Refused (.orEmpty state) ∧ ∀ (ω : Type) (x : Executor ω) (w : ω),
      x.executeJson origin text state options w = some (r, w) ∧
      x.observed.executeJson origin text state options (w, []) = some (r, w, [])) ∨
    (¬ Unfit state options ∧ ∃ (s : State) (settings : Settings) (o : Options), state = s.toJson ∧
      Settings.given options = .ok settings ∧ settings.Means o ∧
      ∀ (ω : Type) (x : Executor ω) (w : ω) (origin' : Origin),
        (x.BreaksOff (.start origin.runId (Program.parse text) s o) w ∧
          x.executeJson origin text state options w = none ∧ x.execute origin' text s o w = none) ∨
        ∃ r w', x.executeJson origin text state options w = some (r, w') ∧
          x.execute origin' text s o w = some ({ r with runId := origin'.runId }, w') ∧ r.outcome.isSome = true ∧
          ∀ e ∈ r.errors, e.kind ≠ .system) := by
  by_cases h : Unfit state options
  · obtain ⟨r, hr, hrefused⟩ := executeJson_of_unfit origin text h
    exact Or.inl ⟨h, r, hr, fun ω x w => ⟨hrefused x w, hrefused x.observed (w, [])⟩⟩
  · obtain ⟨s, settings, o, hstate, hgiven, hmeans, hv, hexecuted⟩ := executeJson_of_fit origin text h
    refine Or.inr ⟨h, s, settings, o, hstate, hgiven, hmeans, fun ω x w origin' => ?_⟩
    rw [hexecuted]
    exact execute_renamed origin text origin' hv w

end Executor

end Runbook
