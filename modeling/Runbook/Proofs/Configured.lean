import Runbook.Command.Answer
import Runbook.Proofs.Skipped

/-!
# Settings that a file gives

Settings are read one after the other into a draft. What comes out is what the file gives, each setting by itself, over the
defaults.

* `Settings.get`, `get_foldl_write` : a setting by its name, after settings of different names have been written;
* `Draft.Gains` : settings that have been read into a draft;
* `Settings.fieldsFrom`, `itemsFrom` : the values of a JSON text, found by skipping those before them;
* `Settings.inJson`, `inYaml`, `Files.given` : the settings that a text or a file gives, each by itself;
* `RunFlags.fileSettings_get` : the settings of a file are those, and for the rest the defaults.
-/

namespace Runbook

open Json (Fault afterBracket callsFor nextItem nextKey readColon readEnd readScalar readString skipGap skipValue)

/-! ## Settings by name -/

/-- The name of a setting. -/
def Setting.name : Setting → SettingName
  | mode _ => .mode
  | timeout _ => .timeout
  | checkpoint _ => .checkpoint
  | resumeFrom _ => .resumeFrom
  | maxIterations _ => .maxIterations
  | maxCheckpoints _ => .maxCheckpoints

namespace Settings

/-- The setting of a name. -/
def get (s : Settings) : SettingName → Setting
  | .mode => .mode s.mode
  | .timeout => .timeout s.timeoutMs
  | .checkpoint => .checkpoint s.checkpoint
  | .resumeFrom => .resumeFrom s.resumeFrom
  | .maxIterations => .maxIterations s.maxIterations
  | .maxCheckpoints => .maxCheckpoints s.maxCheckpoints

theorem get_write_self (s : Settings) (v : Setting) : (s.write v).get v.name = v := by cases v <;> rfl

theorem get_write_ne (s : Settings) {v : Setting} {name : SettingName} (h : v.name ≠ name) :
    (s.write v).get name = s.get name := by
  cases v <;> cases name <;> first | rfl | exact absurd rfl h

/-- Of settings that are written once each, the one of a name is found among them, or stands as before. -/
theorem get_foldl_write {vs : List Setting} (h : (vs.map Setting.name).Nodup) (s : Settings) (name : SettingName) :
    (vs.foldl write s).get name = (vs.find? (·.name = name)).getD (s.get name) := by
  induction vs generalizing s with
  | nil => rfl
  | cons v vs ih =>
    obtain ⟨hv, hvs⟩ := List.nodup_cons.mp h
    rw [List.foldl_cons, ih hvs, List.find?_cons]
    by_cases hname : v.name = name
    · have hnone : vs.find? (·.name = name) = none := by
        refine List.find?_eq_none.mpr fun u hu heq => hv ?_
        rw [hname, ← of_decide_eq_true heq]
        exact List.mem_map_of_mem hu
      rw [hnone, decide_eq_true hname, ← hname]
      exact s.get_write_self v
    · rw [decide_eq_false hname, s.get_write_ne hname]

namespace Draft

/-- Settings that have been read into a draft: each once, and none that had been given before. -/
structure Gains (d : Draft) (vs : List Setting) (config : Settings) : Prop where
  written : config = vs.foldl Settings.write d.settings
  fresh : ∀ v ∈ vs, v.name ∉ d.given
  once : (vs.map Setting.name).Nodup

theorem Gains.nil (d : Draft) : d.Gains [] d.settings := ⟨rfl, by simp, .nil⟩

theorem Gains.cons {d : Draft} {vs : List Setting} {config : Settings} {v : Setting} (hv : v.name ∉ d.given)
    (h : (d.write v.name v).Gains vs config) : d.Gains (v :: vs) config where
  written := h.written
  fresh := List.forall_mem_cons.mpr ⟨hv, fun u hu hgiven => h.fresh u hu (List.mem_cons_of_mem _ hgiven)⟩
  once := by
    refine List.nodup_cons.mpr ⟨fun hmem => ?_, h.once⟩
    obtain ⟨u, hu, hname⟩ := List.mem_map.mp hmem
    exact h.fresh u hu (by rw [hname]; exact List.mem_cons_self)

theorem check_eq_ok {d : Draft} {name : SettingName} {u : Unit} (h : d.check name = .ok u) : name ∉ d.given := by
  unfold check at h
  split at h
  · nomatch h
  · assumption

end Draft

end Settings

/-! ## What a text gives -/

theorem SettingName.name_of_ofJson {v : Json} {name : SettingName} {u : Setting} (h : name.ofJson v = .ok u) :
    u.name = name := by
  cases name <;>
    · rw [ofJson] at h
      obtain ⟨_, -, rfl⟩ := Json.map_eq_ok.mp h
      rfl

theorem SettingName.name_of_ofYaml {v : Yaml.Scalar} {name : SettingName} {u : Setting} (h : name.ofYaml v = some u) :
    u.name = name := by
  cases name with
  | mode =>
    cases h
    rfl
  | timeout | checkpoint | resumeFrom | maxIterations | maxCheckpoints =>
    rw [ofYaml] at h
    obtain ⟨_, -, rfl⟩ := Option.map_eq_some_iff.mp h
    rfl

/-- A setting takes a value that is neither a list nor an object. -/
theorem SettingName.ofJson_ne_ok {name : SettingName} {u : Setting} :
    name.ofJson (.arr []) ≠ .ok u ∧ name.ofJson (.obj []) ≠ .ok u := by
  cases name <;> exact ⟨nofun, nofun⟩

namespace Settings

variable {s rest : List Char} {config : Settings} {d : Draft}

/-- A setting that is read is named as asked for, and its value is skipped up to where it ends. -/
theorem skip_of_readSetting {name : SettingName} {v : Setting} (h : readSetting name s = .ok (v, rest)) :
    v.name = name ∧ skipValue (callsFor s) s = .ok rest := by
  obtain ⟨⟨u, s'⟩, hshallow, h⟩ := Json.bind_eq_ok.mp h
  obtain ⟨v', hv', h⟩ := Json.bind_eq_ok.mp h
  cases h
  have hofJson := Json.mapError_eq_ok.mp hv'
  have hread := Json.mapError_eq_ok.mp hshallow
  refine ⟨SettingName.name_of_ofJson hofJson, ?_⟩
  unfold readShallow at hread
  split at hread
  · cases hread
    exact absurd hofJson SettingName.ofJson_ne_ok.1
  · cases hread
    exact absurd hofJson SettingName.ofJson_ne_ok.2
  · next hlist hobject =>
    rw [callsFor, Json.skipValue_of_scalar _ hlist hobject]
    exact (Json.skipScalar_of_readScalar hread).1

/-- The fields of an object, each as its key and the text from where its value starts. At most `fuel` fields are taken. -/
def fieldsFrom : (fuel : Nat) → (first : Bool) → List Char → Except Fault (List (String × List Char))
  | 0, _, _ => .error .objectEnds
  | fuel + 1, first, s => do
    match ← nextKey first s with
    | none => .ok []
    | some s =>
      let (key, s) ← readString s
      let s ← readColon s
      let rest ← skipValue (callsFor s) s
      (fieldsFrom fuel false rest).map ((key, s) :: ·)

/-- The items of a list, each as the text from where it starts. At most `fuel` items are taken. -/
def itemsFrom : (fuel : Nat) → (first : Bool) → List Char → Except Fault (List (List Char))
  | 0, _, _ => .error .listEnds
  | fuel + 1, first, s => do
    match ← nextItem first s with
    | none => .ok []
    | some s =>
      let rest ← skipValue (callsFor s) s
      (itemsFrom fuel false rest).map (s :: ·)

/-- The setting that a value gives for a name. -/
def setting? (item : SettingName × List Char) : Option Setting := (readSetting item.1 item.2).toOption.map (·.1)

/-- The setting that a field gives. -/
def fieldSetting? (field : String × List Char) : Option Setting :=
  (SettingName.ofKey? field.1).bind fun name => setting? (name, field.2)

theorem setting?_eq {name : SettingName} {v : Setting} (h : readSetting name s = .ok (v, rest)) :
    setting? (name, s) = some v := by
  rw [setting?, h]
  rfl

/-- The settings of an object are those of its fields, over those of the draft. -/
theorem gains_of_readFields {fuel : Nat} {first : Bool} (h : readFields fuel first d s = .ok (config, rest)) :
    ∃ fields, fieldsFrom fuel first s = .ok fields ∧ d.Gains (fields.filterMap fieldSetting?) config := by
  induction fuel generalizing first d s with
  | zero => nomatch h
  | succ fuel ih =>
    rw [readFields] at h
    rw [fieldsFrom]
    obtain ⟨next, hnext, h⟩ := Json.bind_eq_ok.mp h
    rw [Json.mapError_eq_ok.mp hnext]
    cases next with
    | none =>
      cases h
      exact ⟨[], rfl, .nil d⟩
    | some s₁ =>
      obtain ⟨⟨key, s₂⟩, hkey, h⟩ := Json.bind_eq_ok.mp h
      have hkey := Json.mapError_eq_ok.mp hkey
      dsimp only at h
      split at h
      · next hunknown =>
        obtain ⟨s₃, hcolon, h⟩ := Json.bind_eq_ok.mp h
        obtain ⟨s₄, hskip, h⟩ := Json.bind_eq_ok.mp h
        obtain ⟨fields, hfields, hgains⟩ := ih h
        refine ⟨(key, s₃) :: fields, ?_, ?_⟩
        · simp only [hkey, Json.mapError_eq_ok.mp hcolon, Json.mapError_eq_ok.mp hskip, hfields, bind, Except.bind,
            Except.map]
        · rwa [List.filterMap_cons_none]
          rw [fieldSetting?, hunknown, Option.bind_none]
      · next name hknown =>
        obtain ⟨u, hcheck, h⟩ := Json.bind_eq_ok.mp h
        obtain ⟨s₃, hcolon, h⟩ := Json.bind_eq_ok.mp h
        obtain ⟨⟨v, s₄⟩, hsetting, h⟩ := Json.bind_eq_ok.mp h
        obtain ⟨hname, hskip⟩ := skip_of_readSetting hsetting
        subst hname
        obtain ⟨fields, hfields, hgains⟩ := ih h
        refine ⟨(key, s₃) :: fields, ?_, ?_⟩
        · simp only [hkey, Json.mapError_eq_ok.mp hcolon, hskip, hfields, bind, Except.bind, Except.map]
        · rw [List.filterMap_cons_some (by rw [fieldSetting?, hknown, Option.bind_some, setting?_eq hsetting])]
          exact hgains.cons (Draft.check_eq_ok (Json.mapError_eq_ok.mp hcheck))

/-- The settings of a list are those of its items, each for the name at its place. -/
theorem gains_of_readItems {names : List SettingName} {first : Bool} (hnames : names.Nodup)
    (hfresh : ∀ name ∈ names, name ∉ d.given) (h : readItems d.settings first names s = .ok (config, rest)) :
    ∃ items, itemsFrom (names.length + 1) first s = .ok items ∧
      d.Gains ((names.zip items).filterMap setting?) config := by
  induction names generalizing first d s with
  | nil =>
    rw [readItems] at h
    rw [itemsFrom, nextItem]
    generalize skipGap s = t at h
    split at h
    · nomatch h
    · cases h
      exact ⟨[], rfl, .nil d⟩
    · split at h <;> nomatch h
    · nomatch h
  | cons name names ih =>
    obtain ⟨hname, hnames⟩ := List.nodup_cons.mp hnames
    rw [readItems] at h
    rw [itemsFrom]
    obtain ⟨next, hnext, h⟩ := Json.bind_eq_ok.mp h
    rw [Json.mapError_eq_ok.mp hnext]
    cases next with
    | none =>
      cases h
      exact ⟨[], rfl, .nil d⟩
    | some s₁ =>
      obtain ⟨⟨v, s₂⟩, hsetting, h⟩ := Json.bind_eq_ok.mp h
      obtain ⟨hv, hskip⟩ := skip_of_readSetting hsetting
      have hlater : ∀ n ∈ names, n ∉ (d.write v.name v).given := by
        intro n hn hgiven
        rcases List.mem_cons.mp hgiven with rfl | hgiven
        · exact hname (hv ▸ hn)
        · exact hfresh n (List.mem_cons_of_mem _ hn) hgiven
      obtain ⟨items, hitems, hgains⟩ := ih (d := d.write v.name v) hnames hlater h
      refine ⟨s₁ :: items, ?_, ?_⟩
      · simp only [List.length_cons, hskip, hitems, bind, Except.bind, Except.map]
      · rw [List.zip_cons_cons, List.filterMap_cons_some (setting?_eq hsetting)]
        exact hgains.cons (hv ▸ hfresh name List.mem_cons_self)

/-- The settings that a JSON text gives: those of the fields of an object, or of the items of a list. -/
def inJson (text : String) : List Setting :=
  match skipGap text.toList with
  | '[' :: s =>
    (SettingName.all.zip ((itemsFrom (SettingName.all.length + 1) true s).toOption.getD [])).filterMap setting?
  | '\x7b' :: s => ((fieldsFrom (s.length + 1) true s).toOption.getD []).filterMap fieldSetting?
  | _ => []

theorem gains_of_ofJsonText {text : String} (h : ofJsonText text = .ok config) :
    Draft.start.Gains (inJson text) config := by
  unfold ofJsonText at h
  unfold inJson
  dsimp only at h
  generalize skipGap text.toList = t at h
  split at h
  · obtain ⟨⟨settings, s'⟩, hsettings, h⟩ := Json.bind_eq_ok.mp h
    obtain ⟨_, -, h⟩ := Json.bind_eq_ok.mp h
    cases h
    obtain ⟨items, hitems, hgains⟩ := gains_of_readItems (d := .start) (by decide) (by simp [Draft.start]) hsettings
    show Draft.start.Gains ((SettingName.all.zip ((itemsFrom _ true _).toOption.getD [])).filterMap setting?) settings
    rw [hitems]
    exact hgains
  · obtain ⟨⟨settings, s'⟩, hsettings, h⟩ := Json.bind_eq_ok.mp h
    obtain ⟨_, -, h⟩ := Json.bind_eq_ok.mp h
    cases h
    obtain ⟨fields, hfields, hgains⟩ := gains_of_readFields hsettings
    show Draft.start.Gains (((fieldsFrom _ true _).toOption.getD []).filterMap fieldSetting?) settings
    rw [hfields]
    exact hgains
  · -- a scalar gives no settings
    obtain ⟨⟨v, _⟩, hv, h⟩ := Json.bind_eq_ok.mp h
    obtain ⟨⟨settings, _⟩, hsettings, -⟩ := Json.bind_eq_ok.mp h
    obtain ⟨settings, hof, -⟩ := Json.map_eq_ok.mp hsettings
    obtain ⟨-, hlist, hobject⟩ := Json.skipScalar_of_readScalar (Json.mapError_eq_ok.mp hv)
    have hof := Json.mapError_eq_ok.mp hof
    cases v with
    | arr items => exact absurd rfl (hlist items)
    | obj fields => exact absurd rfl (hobject fields)
    | null | bool b | num n | str t => nomatch hof

/-- Only the fields of the object itself count, whatever stands below others. -/
example : inJson "\x7b\"note\": [\x7b\"timeout\": 7\x7d], \"mode\": \"strict\"\x7d" = [.mode "strict"] := by
  decide +kernel

/-- The setting that an entry of a YAML map gives. -/
def entrySetting? (doc : Yaml.Document) (entry : Yaml.Node × Yaml.Node) : Option Setting := do
  let name ← SettingName.ofKey? (← doc.scalar? entry.1).asText
  name.ofYaml (← doc.scalar? entry.2)

/-- The settings of a YAML map are those of its entries, over those of the draft. -/
theorem gains_of_readYaml {doc : Yaml.Document} {entries : List (Yaml.Node × Yaml.Node)} {d' : Draft}
    (h : entries.foldlM (Draft.readYaml doc) d = some d') :
    d.Gains (entries.filterMap (entrySetting? doc)) d'.settings := by
  induction entries generalizing d with
  | nil =>
    cases h
    exact .nil d'
  | cons entry entries ih =>
    rw [List.foldlM_cons] at h
    obtain ⟨d₁, hentry, h⟩ := Option.bind_eq_some_iff.mp h
    obtain ⟨key, hkey, hentry⟩ := Option.bind_eq_some_iff.mp hentry
    split at hentry
    · next hunknown =>
      cases hentry
      rw [List.filterMap_cons_none]
      · exact ih h
      · simp [entrySetting?, hkey, hunknown]
    · next name hknown =>
      obtain ⟨_, hcheck, hentry⟩ := Option.bind_eq_some_iff.mp hentry
      obtain ⟨scalar, hscalar, hentry⟩ := Option.bind_eq_some_iff.mp hentry
      obtain ⟨v, hv, hentry⟩ := Option.bind_eq_some_iff.mp hentry
      cases hentry
      obtain rfl := SettingName.name_of_ofYaml hv
      rw [List.filterMap_cons_some (b := v)]
      · refine (ih h).cons (Draft.check_eq_ok (u := ()) ?_)
        cases hchecked : d.check v.name with
        | error e =>
          rw [hchecked] at hcheck
          nomatch hcheck
        | ok u => rfl
      · simp [entrySetting?, hkey, hknown, hscalar, hv]

/-- The settings that a YAML text gives: those of the entries of its map. -/
def inYaml (text : String) : List Setting :=
  match Yaml.read text with
  | some (some doc) => match doc.root with
    | .map entries => entries.filterMap (entrySetting? doc)
    | _ => []
  | _ => []

theorem gains_of_ofYaml {text : String} (h : ofYaml text = some config) : Draft.start.Gains (inYaml text) config := by
  obtain ⟨document, hread, h⟩ := Option.bind_eq_some_iff.mp h
  unfold inYaml
  rw [hread]
  cases document with
  | none =>
    cases h
    exact .nil .start
  | some doc =>
    have h : ofDocument doc = some config := h
    unfold ofDocument at h
    dsimp only
    split at h
    · next entries hroot =>
      obtain ⟨d', hd', rfl⟩ := Option.map_eq_some_iff.mp h
      rw [hroot]
      exact gains_of_readYaml hd'
    · next hroot =>
      split at h
      · cases h
        rw [hroot]
        exact .nil .start
      · nomatch h
    · nomatch h

end Settings

/-! ## What a file gives -/

/-- The settings that a file gives, in JSON or YAML as its name tells. -/
def Files.given (files : Files) (path : String) : List Setting :=
  match files.text path with
  | .error _ => []
  | .ok text => if FilePath.ending? path == some "json" then Settings.inJson text else Settings.inYaml text

theorem Files.gains_of_settings {files : Files} {path : String} {config : Settings}
    (h : files.settings path = .ok config) : Settings.Draft.start.Gains (files.given path) config := by
  obtain ⟨text, htext, h⟩ := Json.bind_eq_ok.mp h
  unfold given
  rw [Json.mapError_eq_ok.mp htext]
  dsimp only
  split at h
  · next hjson =>
    rw [if_pos hjson]
    exact Settings.gains_of_ofJsonText (Json.mapError_eq_ok.mp h)
  · next hjson =>
    rw [if_neg hjson]
    split at h
    · next s hyaml =>
      cases h
      exact Settings.gains_of_ofYaml hyaml
    · nomatch h

/-- The settings that the file of a command line gives, none if it names no file. -/
def RunFlags.given (f : RunFlags) (files : Files) : List Setting := f.config.elim [] files.given

/-- The settings of a file are those that it gives, each by its name, and for the rest the defaults. -/
theorem RunFlags.fileSettings_get {f : RunFlags} {files : Files} {config : Settings}
    (h : f.fileSettings files = .ok config) (name : SettingName) :
    config.get name = ((f.given files).find? (·.name = name)).getD (Settings.standard.get name) := by
  have hgains : Settings.Draft.start.Gains (f.given files) config := by
    unfold fileSettings at h
    unfold given
    cases hconfig : f.config with
    | none =>
      rw [hconfig] at h
      cases h
      exact .nil .start
    | some path =>
      rw [hconfig] at h
      exact Files.gains_of_settings h
  rw [hgains.written, Settings.get_foldl_write hgains.once]
  rfl

end Runbook
