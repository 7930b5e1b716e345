import Runbook.Proofs.Configured
import Runbook.Proofs.Overrun
import Runbook.Proofs.Refusal

/-!
# Command lines that run a program

What the flags of a command line say comes before what the file says that they name, and that before the defaults. Only
the whole is judged: a run is refused for it, with an exit code of its own, or is made.

* `Settings.Unusable` : settings that no run can have; `unusable_iff` : they stand for no options;
* `RunFlags.Merged` : the options of flags and a file together, field by field;
* `Command.report_eq` : the report of a run once its program, its state and its file have been read;
* `flags_before_file_before_verdict` : the end of a command line that runs a program.
-/

namespace Runbook

variable {ω : Type}

/-! ## Settings put together -/

/-- Settings that no run can have: their mode is unknown, or a limit of theirs is zero. -/
def Settings.Unusable (s : Settings) : Prop :=
  (s.modeWord ≠ "strict" ∧ s.modeWord ≠ "adaptive") ∨ s.maxIterations = 0 ∨ s.maxCheckpoints = 0

instance (s : Settings) : Decidable s.Unusable := inferInstanceAs (Decidable (_ ∨ _ ∨ _))

theorem Settings.unusable_iff {s : Settings} : s.Unusable ↔ ∃ e, s.options = .error e := by
  have hvalid : ¬ s.Unusable ↔ ∃ o, s.options = .ok o := by
    rw [exists_options, Unusable, not_or, not_or, Decidable.not_and_iff_not_or_not, Decidable.not_not, Decidable.not_not,
      Nat.pos_iff_ne_zero, Nat.pos_iff_ne_zero]
  rw [← Decidable.not_not (p := s.Unusable), hvalid]
  cases s.options <;> simp

/-- The options that flags and settings of a file make together: of each field what the flag gives, if it is given, and
else what the file gives; checkpoints are captured if either asks for them. -/
structure RunFlags.Merged (f : RunFlags) (config : Settings) (o : Options) : Prop where
  mode : o.mode.word = Text.lowerAscii (Text.trimString (f.mode.getD config.mode))
  timeout : o.timeout = Duration.ofMillis (f.timeoutMs.getD config.timeoutMs)
  checkpoint : o.checkpoint = true ↔ f.checkpoint = true ∨ config.checkpoint = true
  resumeFrom : o.resumeFrom = f.resumeFrom.or config.resumeFrom
  maxIterations : o.maxIterations = f.maxIterations.getD config.maxIterations
  maxCheckpoints : o.maxCheckpoints = config.maxCheckpoints

theorem RunFlags.merged_iff {f : RunFlags} {config : Settings} {o : Options} :
    f.Merged config o ↔ (f.override config).Means o := by
  have hresume : (f.override config).resumeFrom = f.resumeFrom.or config.resumeFrom := Option.or_eq_orElse.symm
  have hcheckpoint : o.checkpoint = (f.override config).checkpoint ↔
      (o.checkpoint = true ↔ f.checkpoint = true ∨ config.checkpoint = true) := by
    rw [override, Bool.eq_iff_iff, Bool.or_eq_true]
  constructor
  · intro h
    exact ⟨h.mode, h.timeout, hcheckpoint.mpr h.checkpoint, h.resumeFrom.trans hresume.symm, h.maxIterations,
      h.maxCheckpoints⟩
  · intro h
    exact ⟨h.mode, h.timeout, hcheckpoint.mp h.checkpoint, h.resumeFrom.trans hresume, h.maxIterations,
      h.maxCheckpoints⟩

/-! ## Command lines -/

namespace Command

section Read
variable {files : Files} {arguments : List String} {path text : String} {f : RunFlags} {state : State}
  {config : Settings} {executor : RunFlags → Executor ω} {w : ω} {o : Origin}

/-- Once program, state and file have been read, the settings are judged as a whole, and the run is made if they mean
options. -/
theorem report_eq (htext : files.text path = .ok text) (hstate : f.initialState files = .ok state)
    (hconfig : f.fileSettings files = .ok config) : report executor w files o path f =
      match (f.override config).options with
      | .error e => .error e.message
      | .ok options => match (executor f).execute o text state options w with
        | none => .error "the clock has come to its end"
        | some (r, _) => .ok r := by
  have hoptions : f.options files = (f.override config).options.mapError Rejection.message := by
    simp only [RunFlags.options, hconfig, Except.mapError, bind, Except.bind]
  simp only [report, htext, hstate, hoptions, Except.mapError, bind, Except.bind]
  cases (f.override config).options <;> rfl

theorem exitBy_run (hread : Command.read arguments = .ok (.run path f)) : exitBy executor w files o arguments =
    match report executor w files o path f with
    | .ok r => ⟨if r.success then 0 else 1, if f.json then line r.toJson.pretty
        else line ("Running program: " ++ path ++ "\n") ++ r.text, none⟩
    | .error reason => ⟨2, "", some reason⟩ := by
  simp only [exitBy, hread, answer, answerRun]
  cases report executor w files o path f <;> rfl

/-- Settings that no run can have are refused before any executor is asked. -/
theorem exitBy_of_unusable (hread : Command.read arguments = .ok (.run path f)) (htext : files.text path = .ok text)
    (hstate : f.initialState files = .ok state) (hconfig : f.fileSettings files = .ok config)
    (hunusable : (f.override config).Unusable) (o : Origin) :
    ∃ reason, ∀ {υ : Type} (executor : RunFlags → Executor υ) (v : υ),
      exitBy executor v files o arguments = ⟨2, "", some reason⟩ := by
  obtain ⟨e, he⟩ := Settings.unusable_iff.mp hunusable
  refine ⟨e.message, fun executor v => ?_⟩
  rw [exitBy_run hread, report_eq htext hstate hconfig, he]

/-- With other settings the run is made and reported. -/
theorem report_of_usable (htext : files.text path = .ok text) (hstate : f.initialState files = .ok state)
    (hconfig : f.fileSettings files = .ok config) (husable : ¬ (f.override config).Unusable) (now : ω → Instant × ω)
    (w : ω) (o : Origin) : ∃ options turns outcome s' w', f.Merged config options ∧
      (RunFlags.executor now f).Ran (.start o.runId (Program.parse text) state options) w turns outcome s' w' ∧
      report (RunFlags.executor now) w files o path f = .ok s'.report := by
  cases hoptions : (f.override config).options with
  | error e => exact absurd (Settings.unusable_iff.mpr ⟨e, hoptions⟩) husable
  | ok options =>
    obtain ⟨hmeans, hlimits⟩ := Settings.options_eq_ok.mp hoptions
    have hvalid : options.validate = .ok options := Options.validate_eq_ok.mpr ⟨rfl, hlimits⟩
    obtain ⟨turns, outcome, s', w', hran⟩ := Executor.Ticks.ran (x := RunFlags.executor now f)
      (fun _ => rfl) (.start o.runId (Program.parse text) state options) w
    refine ⟨options, turns, outcome, s', w', RunFlags.merged_iff.mpr hmeans, hran, ?_⟩
    rw [report_eq htext hstate hconfig, hoptions]
    simp only [Executor.execute_of_valid o text hvalid, hran.ends, Option.map_some]

/-- **Flags come before the file, and both before the verdict.** Where program, state and file of a command line that runs
a program can be read, its exit code is 2 if and only if the settings of the file, with what the flags give in their place,
have an unknown mode or a limit that is zero; what the file does not give has its default. That end is the same whatever
executor there is, so nothing is asked of one. Otherwise the program is run, on whatever clock, with the options that flags
and file make together field by field; the exit code is 0 if the run has noted no error and 1 if it has noted one, and none
of its errors is from before the start. -/
theorem flags_before_file_before_verdict (hread : Command.read arguments = .ok (.run path f))
    (htext : files.text path = .ok text) (hstate : f.initialState files = .ok state)
    (hconfig : f.fileSettings files = .ok config) (now : ω → Instant × ω) (w : ω) (o : Origin) :
    (∀ name, config.get name = ((f.given files).find? (·.name = name)).getD (Settings.standard.get name)) ∧
    ((exitBy (RunFlags.executor now) w files o arguments).code = 2 ↔ (f.override config).Unusable) ∧
    ((f.override config).Unusable → ∃ reason, ∀ {υ : Type} (executor : RunFlags → Executor υ) (v : υ),
      exitBy executor v files o arguments = ⟨2, "", some reason⟩) ∧
    (¬ (f.override config).Unusable → ∃ options turns outcome s' w', f.Merged config options ∧
      (RunFlags.executor now f).Ran (.start o.runId (Program.parse text) state options) w turns outcome s' w' ∧
      report (RunFlags.executor now) w files o path f = .ok s'.report ∧
      ((exitBy (RunFlags.executor now) w files o arguments).code = 0 ↔ s'.errors = []) ∧
      ((exitBy (RunFlags.executor now) w files o arguments).code = 1 ↔ s'.errors ≠ []) ∧
      ∀ e ∈ s'.errors, e.kind ≠ .system) := by
  refine ⟨RunFlags.fileSettings_get hconfig, ?_⟩
  by_cases hunusable : (f.override config).Unusable
  · obtain ⟨reason, hexit⟩ := exitBy_of_unusable hread htext hstate hconfig hunusable o
    exact ⟨by simp [hexit, hunusable], fun _ => ⟨reason, hexit⟩, fun h => absurd hunusable h⟩
  · obtain ⟨options, turns, outcome, s', w', hmerged, hran, hreport⟩ :=
      report_of_usable htext hstate hconfig hunusable now w o
    have hcode : (exitBy (RunFlags.executor now) w files o arguments).code = if s'.errors.isEmpty then 0 else 1 := by
      rw [exitBy_run hread, hreport]
      rfl
    refine ⟨?_, fun h => absurd h hunusable, fun _ => ⟨options, turns, outcome, s', w', hmerged, hran, hreport, ?_, ?_,
      hran.reports.2⟩⟩
    · rw [hcode]
      exact iff_of_false (by split <;> decide) hunusable
    · rw [hcode]
      cases s'.errors <;> simp
    · rw [hcode]
      cases s'.errors <;> simp

end Read

/-! ## Flags in place of a mode that is unknown and a ceiling that is zero -/

theorem textOf_toUTF8 (s : String) : textOf s.toUTF8 = .ok s := by
  have hvalid : String.fromUTF8? s.toUTF8 = some s := dif_pos s.isValidUTF8
  rw [textOf, hvalid]

/-- A program of two steps of which the second fails. -/
def failingText : String := "PROGRAM: p\nSTEPS:\nSTEP a:\nACTION: set a = true\nSTEP b:\nACTION: fail: no\n"

/-- Settings with an unknown mode and without any iteration. -/
def maskedText : String := "\x7b\"mode\": \"lenient\", \"max_iterations\": 0, \"timeout\": 500\x7d"

/-- A folder with both. -/
def maskedFiles : Files
  | "p.prog" => .ok (.file failingText.toUTF8)
  | "c.json" => .ok (.file maskedText.toUTF8)
  | _ => .error .missing

/-- What the flags say about a run. -/
def maskingFlags : RunFlags :=
  { config := some "c.json", mode := some " Adaptive", maxIterations := some 2, checkpoint := true }

theorem maskingFlags_settings : maskingFlags.fileSettings maskedFiles =
    .ok { mode := "lenient", timeoutMs := 500, maxIterations := 0 } := by
  have htext : maskedFiles.text "c.json" = .ok maskedText := textOf_toUTF8 maskedText
  have hending : (FilePath.ending? "c.json" == some "json") = true := by decide
  have hread : Settings.ofJsonText maskedText = .ok { mode := "lenient", timeoutMs := 500, maxIterations := 0 } := by
    decide
  show maskedFiles.settings "c.json" = _
  simp only [Files.settings, htext, hread, Except.mapError, bind, Except.bind, if_pos hending]

/-- The file alone would be refused; with the flags the run is made, on a clock that moves on at every look. -/
theorem flags_before_file_before_verdict_masked :
    let arguments := ["run", "p.prog", "-cc.json", "--mode", " Adaptive", "--max-iterations=2", "--checkpoint"]
    let config : Settings := { mode := "lenient", timeoutMs := 500, maxIterations := 0 }
    let now : Instant → Instant × Instant := fun t => (t, t + (1 : Duration))
    Command.read arguments = .ok (.run "p.prog" maskingFlags) ∧ maskedFiles.text "p.prog" = .ok failingText ∧
      maskingFlags.initialState maskedFiles = .ok .empty ∧ maskingFlags.fileSettings maskedFiles = .ok config ∧
      config.Unusable ∧ ¬ (maskingFlags.override config).Unusable ∧
      ∃ options turns outcome s' w', maskingFlags.Merged config options ∧
        (RunFlags.executor now maskingFlags).Ran (.start "run" (Program.parse failingText) .empty options) 0 turns outcome
          s' w' ∧
        ((exitBy (RunFlags.executor now) 0 maskedFiles ⟨"run", 0⟩ arguments).code = 1 ↔ s'.errors ≠ []) := by
  intro arguments config now
  have hread : Command.read arguments = .ok (.run "p.prog" maskingFlags) := by decide +kernel
  have htext : maskedFiles.text "p.prog" = .ok failingText := textOf_toUTF8 failingText
  have husable : ¬ (maskingFlags.override config).Unusable := by decide
  obtain ⟨-, -, -, hruns⟩ := flags_before_file_before_verdict hread htext rfl maskingFlags_settings now 0 ⟨"run", 0⟩
  obtain ⟨options, turns, outcome, s', w', hmerged, hran, -, -, hcode, -⟩ := hruns husable
  exact ⟨hread, htext, rfl, maskingFlags_settings, by decide, husable, options, turns, outcome, s', w', hmerged,
    hran, hcode⟩

end Command

end Runbook
