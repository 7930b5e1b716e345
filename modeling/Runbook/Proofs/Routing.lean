import Mathlib.Data.List.Induction
import Mathlib.Data.List.Nodup
import Runbook.Proofs.SmallLetters
import Runbook.Run.Strategy

/-!
# Which handler takes an action

* `Registry.registered` : the registry of a list of registrations; `LastUnder calls f h` : the last of them under the
  phrase `f` gives the handler `h`;
* `mem_entries_registered`, `nodup_phrases_registered` : the registry keeps just these, each phrase once;
* `Opens f text` : the phrase starts the text, and ends there, before a blank or before a colon; `startsWith_iff` : that
  is the test that is made;
* `Registry.Longest` : the longest of the phrases that open a text; of two that do one starts with the other, so there
  is only one;
* `choice_eq_some_iff`, `choice_congr` : the entry that is chosen, whatever the order of the entries;
* `routed_to_longest` : what follows for all registrations and actions.
-/

namespace Runbook

open Text

namespace Registry

variable {α : Type} {r : Registry α} {calls : List (String × α)} {f g phrase : String} {h handler : α}
  {text : List Char}

/-! ## What a list of registrations leaves -/

/-- The registry of a list of registrations, the first one first. -/
def registered (calls : List (String × α)) : Registry α := calls.foldl (fun r c => r.register c.1 c.2) empty

/-- The last registration under a phrase, as the phrase is kept, gives a handler. -/
def LastUnder (calls : List (String × α)) (f : String) (h : α) : Prop :=
  ∃ before phrase after, calls = before ++ (phrase, h) :: after ∧ normalize phrase = f ∧
    ∀ c ∈ after, normalize c.1 ≠ f

theorem registered_concat (calls : List (String × α)) (phrase : String) (handler : α) :
    registered (calls ++ [(phrase, handler)]) = (registered calls).register phrase handler := by
  simp [registered, List.foldl_append]

theorem mem_entries_register : (f, h) ∈ (r.register phrase handler).entries ↔
    if f = normalize phrase then h = handler else (f, h) ∈ r.entries := by
  by_cases hf : f = normalize phrase <;> simp [register, hf]

theorem nodup_phrases_register (hnodup : r.phrases.Nodup) : (r.register phrase handler).phrases.Nodup := by
  have hkept : ((r.entries.filter (·.1 != normalize phrase)).map (·.1)).Nodup :=
    hnodup.sublist (List.filter_sublist.map _)
  have hnew : normalize phrase ∉ (r.entries.filter (·.1 != normalize phrase)).map (·.1) := by simp
  rw [phrases, register, List.map_append, List.map_singleton]
  exact List.nodup_append.mpr ⟨hkept, by simp, by simp⟩

theorem lastUnder_concat : LastUnder (calls ++ [(phrase, handler)]) f h ↔
    if f = normalize phrase then h = handler else LastUnder calls f h := by
  constructor
  · rintro ⟨before, p, after, hcalls, hp, hafter⟩
    rcases List.eq_nil_or_concat after with rfl | ⟨rest, c, rfl⟩
    · obtain ⟨-, hlast⟩ := List.append_inj' hcalls rfl
      obtain ⟨rfl, rfl⟩ := Prod.mk.inj (List.singleton_inj.mp hlast)
      rw [if_pos hp.symm]
    · have hsplit : calls ++ [(phrase, handler)] = (before ++ (p, h) :: rest) ++ [c] := by simpa using hcalls
      obtain ⟨rfl, hlast⟩ := List.append_inj' hsplit rfl
      obtain rfl := List.singleton_inj.mp hlast
      have hlater : normalize phrase ≠ f := hafter (phrase, handler) (by simp)
      rw [if_neg hlater.symm]
      exact ⟨before, p, rest, rfl, hp, fun c hc => hafter c (by simp [hc])⟩
  · split
    · rintro rfl
      exact ⟨calls, phrase, [], rfl, by simp [*], fun c hc => nomatch hc⟩
    · next hf =>
      rintro ⟨before, p, after, rfl, hp, hafter⟩
      refine ⟨before, p, after ++ [(phrase, handler)], by simp, hp, fun c hc => ?_⟩
      rcases List.mem_append.mp hc with hc | hc
      · exact hafter c hc
      · obtain rfl := List.mem_singleton.mp hc
        exact Ne.symm hf

/-- The registry keeps the handler that was registered last under a phrase, and no other. -/
theorem mem_entries_registered : (f, h) ∈ (registered calls).entries ↔ LastUnder calls f h := by
  induction calls using List.reverseRecOn with
  | nil =>
    refine iff_of_false (fun hmem => nomatch hmem) ?_
    rintro ⟨before, p, after, hcalls, -⟩
    simp at hcalls
  | append_singleton calls c ih =>
    obtain ⟨phrase, handler⟩ := c
    rw [registered_concat, mem_entries_register, lastUnder_concat, ih]

theorem nodup_phrases_registered (calls : List (String × α)) : (registered calls).phrases.Nodup := by
  induction calls using List.reverseRecOn with
  | nil => exact List.nodup_nil
  | append_singleton calls c ih =>
    rw [registered_concat]
    exact nodup_phrases_register ih

/-- A phrase that is registered again moves to the end, also where it is spelt in another way. -/
example : (registered [("notify", 0), ("notify team", 1), (" NOTIFY ", 2)]).entries =
    [("notify team", 1), ("notify", 2)] := by decide

/-! ## Phrases that open a text -/

/-- The text starts with the phrase, which ends there, before a blank or before a colon. -/
def Opens (phrase : String) (text : List Char) : Prop :=
  ∃ rest, text = phrase.toList ++ rest ∧ ∀ c ∈ rest.head?, Separates c

theorem dropStart?_eq_some {start s rest : List Char} : dropStart? start s = some rest ↔ s = start ++ rest := by
  induction start generalizing s with
  | nil => simp [dropStart?, eq_comm]
  | cons a start ih =>
    cases s with
    | nil => simp [dropStart?]
    | cons c s =>
      by_cases hc : a = c
      · simp [dropStart?, hc, ih]
      · simp [dropStart?, hc, Ne.symm hc]

theorem startsWith_iff : startsWith text phrase = true ↔ Opens phrase text := by
  unfold startsWith Opens
  simp only [← dropStart?_eq_some]
  cases dropStart? phrase.toList text with
  | none => simp
  | some rest => cases rest <;> simp [Separates]

/-- Of two phrases that open a text the one with fewer bytes starts the other. -/
theorem Opens.prefix_of_size (hf : Opens f text) (hg : Opens g text) (hsize : g.utf8ByteSize ≤ f.utf8ByteSize) :
    g.toList <+: f.toList := by
  obtain ⟨restf, htextf, -⟩ := hf
  obtain ⟨restg, htextg, -⟩ := hg
  rcases List.prefix_or_prefix_of_prefix ⟨restg, htextg.symm⟩ ⟨restf, htextf.symm⟩ with hpre | ⟨more, hmore⟩
  · exact hpre
  · have hg : g = f ++ String.ofList more := by
      rw [← String.toList_inj, String.toList_append, String.toList_ofList, hmore]
    have hmore : String.ofList more = "" := by
      rw [← String.utf8ByteSize_eq_zero_iff]
      rw [hg, String.utf8ByteSize_append] at hsize
      omega
    have heq : g = f := by rw [hg, hmore, String.append_empty]
    exact heq ▸ List.prefix_refl _

theorem length_lt_of_prefix (hpre : g.toList <+: f.toList) (hne : g ≠ f) : g.length < f.length := by
  have hlen := hpre.length_le
  rw [String.length_toList, String.length_toList] at hlen
  refine Nat.lt_of_le_of_ne hlen fun heq => hne ?_
  exact String.toList_inj.mp (hpre.eq_of_length (by rw [String.length_toList, String.length_toList, heq]))

/-! ## The choice -/

/-- The phrase is the longest of those that open a text. -/
structure Longest (phrases : List String) (text : List Char) (f : String) : Prop where
  mem : f ∈ phrases
  opens : Opens f text
  longest : ∀ g ∈ phrases, Opens g text → g ≠ f → g.length < f.length

theorem Longest.unique {phrases : List String} (hf : Longest phrases text f) (hg : Longest phrases text g) : f = g := by
  by_contra hne
  have hfg := hf.longest g hg.mem hg.opens (Ne.symm hne)
  have hgf := hg.longest f hf.mem hf.opens hne
  omega

/-- Which phrase is the longest does not depend on the order of the phrases. -/
theorem Longest.of_mem_iff {phrases phrases' : List String} (hmem : ∀ f, f ∈ phrases ↔ f ∈ phrases')
    (hf : Longest phrases text f) : Longest phrases' text f :=
  ⟨(hmem f).mp hf.mem, hf.opens, fun g hg => hf.longest g ((hmem g).mpr hg)⟩

/-- The entry that takes an action. -/
def choice (r : Registry α) (action : List Char) : Option (String × α) :=
  (r.entries.filter fun e => startsWith (lower action) e.1).foldl longer none

theorem route_eq (r : Registry α) (action : List Char) :
    r.route action = (r.choice action).map fun e => (e.2, arguments action e.1) := rfl

/-- One of two entries is kept, and none has more bytes. -/
theorem exists_longer (best : Option (String × α)) (e : String × α) : ∃ b, longer best e = some b ∧
    (b = e ∨ best = some b) ∧ e.1.utf8ByteSize ≤ b.1.utf8ByteSize ∧
      ∀ a, best = some a → a.1.utf8ByteSize ≤ b.1.utf8ByteSize := by
  cases best with
  | none => exact ⟨e, rfl, .inl rfl, Nat.le_refl _, fun a ha => nomatch ha⟩
  | some a =>
    by_cases hsize : a.1.utf8ByteSize ≤ e.1.utf8ByteSize
    · exact ⟨e, by simp [longer, hsize], .inl rfl, Nat.le_refl _, fun a' ha => Option.some.inj ha ▸ hsize⟩
    · exact ⟨a, by simp [longer, hsize], .inr rfl, by omega, fun a' ha => Option.some.inj ha ▸ Nat.le_refl _⟩

theorem foldl_longer {l : List (String × α)} {best : Option (String × α)} {b : String × α}
    (hb : l.foldl longer best = some b) : (b ∈ l ∨ best = some b) ∧
      (∀ e ∈ l, e.1.utf8ByteSize ≤ b.1.utf8ByteSize) ∧ ∀ a, best = some a → a.1.utf8ByteSize ≤ b.1.utf8ByteSize := by
  induction l generalizing best with
  | nil =>
    refine ⟨.inr hb, fun e he => (nomatch he), fun a ha => ?_⟩
    exact Option.some.inj (ha.symm.trans hb) ▸ Nat.le_refl _
  | cons e l ih =>
    obtain ⟨b', hb', hfrom, he, hbest⟩ := exists_longer best e
    rw [List.foldl_cons, hb'] at hb
    obtain ⟨hmem, hall, hsize⟩ := ih hb
    have hle := hsize b' rfl
    refine ⟨?_, List.forall_mem_cons.mpr ⟨Nat.le_trans he hle, hall⟩, fun a ha => Nat.le_trans (hbest a ha) hle⟩
    rcases hmem with hmem | hmem
    · exact .inl (List.mem_cons_of_mem e hmem)
    · obtain rfl := Option.some.inj hmem
      rcases hfrom with rfl | hfrom
      · exact .inl List.mem_cons_self
      · exact .inr hfrom

theorem foldl_longer_ne_none {l : List (String × α)} {best : Option (String × α)} (h : l ≠ [] ∨ best ≠ none) :
    l.foldl longer best ≠ none := by
  induction l generalizing best with
  | nil => simpa using h
  | cons e l ih =>
    obtain ⟨b, hb, -⟩ := exists_longer best e
    exact ih (.inr (by simp [hb]))

theorem choice_eq_none : r.choice text = none ↔ ∀ f ∈ r.phrases, ¬ Opens f (lower text) := by
  have hfilter : (r.entries.filter fun e => startsWith (lower text) e.1) = [] ↔
      ∀ f ∈ r.phrases, ¬ Opens f (lower text) := by
    simp [List.filter_eq_nil_iff, startsWith_iff, phrases]
  rw [← hfilter]
  constructor
  · intro hnone
    by_contra hne
    exact foldl_longer_ne_none (.inl hne) hnone
  · intro hnil
    rw [choice, hnil]
    rfl

theorem mem_phrases (hmem : (f, h) ∈ r.entries) : f ∈ r.phrases := List.mem_map_of_mem hmem

theorem longest_of_choice (hchoice : r.choice text = some (f, h)) :
    (f, h) ∈ r.entries ∧ Longest r.phrases (lower text) f := by
  obtain ⟨hmem, hall, -⟩ := foldl_longer hchoice
  rcases hmem with hmem | hmem
  · obtain ⟨hentry, hopens⟩ := List.mem_filter.mp hmem
    have hopens := startsWith_iff.mp hopens
    refine ⟨hentry, ⟨mem_phrases hentry, hopens, fun g hg hgopens hne => ?_⟩⟩
    obtain ⟨e, he, rfl⟩ := List.mem_map.mp hg
    have hsize := hall e (List.mem_filter.mpr ⟨he, startsWith_iff.mpr hgopens⟩)
    exact length_lt_of_prefix (hopens.prefix_of_size hgopens hsize) hne
  · nomatch hmem

/-- Where no phrase is kept twice, the entry with the longest phrase is chosen. -/
theorem choice_eq_some_iff (hnodup : r.phrases.Nodup) :
    r.choice text = some (f, h) ↔ (f, h) ∈ r.entries ∧ Longest r.phrases (lower text) f := by
  refine ⟨longest_of_choice, fun ⟨hmem, hlongest⟩ => ?_⟩
  cases hchoice : r.choice text with
  | none => exact absurd hlongest.opens (choice_eq_none.mp hchoice f hlongest.mem)
  | some e =>
    obtain ⟨hmem', hlongest'⟩ := longest_of_choice hchoice
    have hkey : e.1 = f := hlongest'.unique hlongest
    obtain rfl : e = (f, h) := List.inj_on_of_nodup_map hnodup hmem' hmem hkey
    rfl

/-- Registries of the same entries, each phrase kept once, choose the same entry. -/
theorem choice_congr {r r' : Registry α} (hnodup : r.phrases.Nodup) (hnodup' : r'.phrases.Nodup)
    (hentries : ∀ e, e ∈ r.entries ↔ e ∈ r'.entries) : r.choice text = r'.choice text := by
  have hphrases (f : String) : f ∈ r.phrases ↔ f ∈ r'.phrases := by
    simp only [phrases, List.mem_map, hentries]
  have hlongest (f : String) : Longest r.phrases (lower text) f ↔ Longest r'.phrases (lower text) f :=
    ⟨Longest.of_mem_iff hphrases, Longest.of_mem_iff fun g => (hphrases g).symm⟩
  refine Option.ext fun e => ?_
  obtain ⟨f, h⟩ := e
  rw [choice_eq_some_iff hnodup, choice_eq_some_iff hnodup', hentries, hlongest]

/-! ## Actions -/

variable {ω : Type}

/-- What an action without a handler comes to. -/
def unrouted (fallback : Option (Dispatcher ω)) (text : String) : State → ω → Reply Unit × State × ω :=
  match fallback with
  | some dispatcher => dispatcher text
  | none => fun s w => (.failed (.unknownAction text), s, w)

theorem dispatcher_eq (r : Registry (Dispatcher ω)) (fallback : Option (Dispatcher ω)) (action : String) (s : State)
    (w : ω) : r.dispatcher fallback action s w = match r.choice (trim action.toList) with
      | some e => e.2 (arguments (trim action.toList) e.1) s w
      | none => unrouted fallback (String.ofList (trim action.toList)) s w := by
  unfold dispatcher unrouted
  dsimp only
  rw [route_eq]
  cases r.choice (trim action.toList) <;> cases fallback <;> rfl

/-- **An action goes to the handler of the longest phrase that opens it.** After any registrations each phrase is kept
once, with the handler registered last under it. An action goes to one handler, that of the longest phrase that opens
it, and an action that none opens goes on to the fallback or is unknown, with nothing changed. Registrations that give
the same phrases the same handlers route all actions alike. -/
theorem routed_to_longest (calls : List (String × Dispatcher ω)) :
    (registered calls).phrases.Nodup ∧
      (∀ f h, (f, h) ∈ (registered calls).entries ↔ LastUnder calls f h) ∧
      (∀ fallback action s w,
        (∃ f h, LastUnder calls f h ∧ Longest (registered calls).phrases (lower (trim action.toList)) f ∧
          (registered calls).dispatcher fallback action s w = h (arguments (trim action.toList) f) s w) ∨
        (∀ f ∈ (registered calls).phrases, ¬ Opens f (lower (trim action.toList))) ∧
          (registered calls).dispatcher fallback action s w =
            unrouted fallback (String.ofList (trim action.toList)) s w) ∧
      ∀ calls', (∀ f h, LastUnder calls f h ↔ LastUnder calls' f h) →
        (registered calls).dispatcher = (registered calls').dispatcher := by
  refine ⟨nodup_phrases_registered calls, fun f h => mem_entries_registered, fun fallback action s w => ?_,
    fun calls' hsame => ?_⟩
  · rw [dispatcher_eq]
    cases hchoice : (registered calls).choice (trim action.toList) with
    | some e =>
      obtain ⟨hmem, hlongest⟩ := longest_of_choice hchoice
      exact .inl ⟨e.1, e.2, mem_entries_registered.mp hmem, hlongest, rfl⟩
    | none => exact .inr ⟨choice_eq_none.mp hchoice, rfl⟩
  · have hentries (e : String × Dispatcher ω) : e ∈ (registered calls).entries ↔ e ∈ (registered calls').entries :=
      mem_entries_registered.trans ((hsame e.1 e.2).trans mem_entries_registered.symm)
    funext fallback action s w
    rw [dispatcher_eq, dispatcher_eq,
      choice_congr (nodup_phrases_registered calls) (nodup_phrases_registered calls') hentries]

end Registry

end Runbook
