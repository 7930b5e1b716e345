import Mathlib.Data.String.Basic
import Runbook.Proofs.Routing

/-!
# What a handler is given

A handler is given the action after its phrase, without what separates the two. The phrase is found in the action made
small, but the action is cut as it is written, after as many bytes as the phrase has. Where letters have as many bytes
as their small forms, that is just behind the phrase; where they have not, the cut is off by the difference.

* `StandsFor f a rest` : in the action `a ++ rest`, the part `a` made small is the phrase `f`; `exists_standsFor`,
  `StandsFor.unique` : every phrase that opens an action has such a part, and only one;
* `dropBytes?_append` : a cut in one of two parts of a text;
* `separated` : a text without what separates it from a phrase;
* `handlers_get_what_follows` : what a handler is given, by the bytes of the phrase and of the part that stands for it;
* `grown_phrase_cuts_text` : a phrase with more bytes than its part of the action takes text away.
-/

namespace Runbook

open Text
open String (utf8Len)

namespace Registry

variable {f phrase : String} {a rest action : List Char}

/-! ## The part of an action that stands for a phrase -/

/-- The first part of an action, made small where it stands, is the phrase. -/
def StandsFor (phrase : String) (a rest : List Char) : Prop :=
  lower (a ++ rest) = phrase.toList ++ lowerFrom a.reverse rest

theorem exists_standsFor (h : Opens phrase (lower action)) :
    ∃ a rest, action = a ++ rest ∧ StandsFor phrase a rest ∧ ∀ c ∈ rest.head?, Separates c := by
  obtain ⟨small, hsmall, hhead⟩ := h
  obtain ⟨a, rest, rfl, rfl, hrest⟩ := exists_split_of_lowerFrom hsmall hhead
  rw [List.append_nil] at hsmall
  exact ⟨a, rest, rfl, hsmall, hrest⟩

theorem StandsFor.length_lower (h : StandsFor phrase a rest) : (lower a).length = phrase.toList.length := by
  obtain ⟨w, hlen, heq⟩ := lowerFrom_append [] a rest
  have hlengths := congrArg List.length h
  rw [lower, heq, List.append_nil, List.length_append, List.length_append, hlen] at hlengths
  exact Nat.add_right_cancel hlengths

/-- A part of the action that is the phrase when made small on its own is the part that stands for it. -/
theorem StandsFor.unique {a' rest' : List Char} (h : StandsFor phrase a rest) (hsplit : a' ++ rest' = a ++ rest)
    (hlower : lower a' = phrase.toList) : a' = a ∧ rest' = rest :=
  eq_of_length_lower hsplit (by rw [hlower, h.length_lower])

/-! ## Bytes -/

theorem lowerFrom_ascii {before b : List Char} (h : ∀ c ∈ a, c.toNat < 128) :
    lowerFrom before (a ++ b) = a.map Char.toLower ++ lowerFrom (a.reverse ++ before) b := by
  induction a generalizing before with
  | nil => rfl
  | cons c a ih =>
    obtain ⟨hc, ha⟩ := List.forall_mem_cons.mp h
    have hsigma : c ≠ 'Σ' := by
      rintro rfl
      exact absurd hc (by decide)
    have hsmall : smallAt before c (a ++ b) = [c.toLower] := by
      rw [smallAt, if_neg (by simpa using hsigma), smallLetters, if_pos hc]
    rw [List.cons_append, lowerFrom_cons, hsmall, ih ha]
    simp

theorem utf8Size_ascii : ∀ c : Char, c.toNat < 128 → c.utf8Size = 1 ∧ c.toLower.utf8Size = 1 :=
  forall_ascii (by decide)

theorem utf8Len_map_toLower (h : ∀ c ∈ a, c.toNat < 128) : utf8Len (a.map Char.toLower) = utf8Len a := by
  induction a with
  | nil => rfl
  | cons c a ih =>
    obtain ⟨hc, ha⟩ := List.forall_mem_cons.mp h
    obtain ⟨hbytes, hsmall⟩ := utf8Size_ascii c hc
    rw [List.map_cons, String.utf8Len_cons, String.utf8Len_cons, ih ha, hbytes, hsmall]

/-- A phrase has as many bytes as the part that stands for it, if that has ASCII characters only. -/
theorem StandsFor.utf8Len_ascii (h : StandsFor phrase a rest) (hascii : ∀ c ∈ a, c.toNat < 128) :
    utf8Len a = phrase.utf8ByteSize := by
  have hphrase : phrase.toList = a.map Char.toLower := by
    rw [StandsFor, lower, lowerFrom_ascii hascii, List.append_nil] at h
    exact (List.append_cancel_right h).symm
  rw [← String.utf8Len_toList, hphrase, utf8Len_map_toLower hascii]

@[simp]
theorem dropBytes?_zero (s : List Char) : dropBytes? 0 s = some s := by
  cases s <;> rfl

/-- A cut falls into the second part of a text if the first has no more bytes than are cut off. -/
theorem dropBytes?_append (n : Nat) (a rest : List Char) : dropBytes? n (a ++ rest) =
    if utf8Len a ≤ n then dropBytes? (n - utf8Len a) rest else (dropBytes? n a).map (· ++ rest) := by
  induction a generalizing n with
  | nil => simp
  | cons c a ih =>
    have hpos := c.utf8Size_pos
    cases n with
    | zero =>
      have hmore : ¬ utf8Len (c :: a) ≤ 0 := by
        rw [String.utf8Len_cons]
        omega
      rw [if_neg hmore]
      rfl
    | succ n =>
      rw [List.cons_append, dropBytes?, dropBytes?, String.utf8Len_cons]
      by_cases hc : c.utf8Size ≤ n + 1
      · rw [if_pos hc, if_pos hc, ih]
        have hle : utf8Len a ≤ n + 1 - c.utf8Size ↔ utf8Len a + c.utf8Size ≤ n + 1 := by omega
        have hsub : n + 1 - c.utf8Size - utf8Len a = n + 1 - (utf8Len a + c.utf8Size) := by omega
        simp only [hle, hsub]
      · rw [if_neg hc, if_neg hc, if_neg (by omega)]
        rfl

/-! ## What a handler is given -/

/-- A text without the blanks and then the colons before it, and without the blanks around the rest. -/
def separated (s : List Char) : String := String.ofList (trim ((trimStart s).dropWhile (· == ':')))

theorem arguments_eq (action : List Char) (phrase : String) :
    arguments action phrase = separated ((dropBytes? phrase.utf8ByteSize action).getD []) := rfl

variable {ω : Type}

/-- **A handler is given what follows its phrase, if the phrase has as many bytes as its part of the action.** That
part is the one that is the phrase when made small, up to a blank, a colon or the end. If making it small makes it
longer, so many bytes of what follows are lost; if shorter, so many bytes of its end are taken along; and if the cut
goes through a character, nothing is left. Phrases are as long as their parts at least where these are ASCII. -/
theorem handlers_get_what_follows {r : Registry (Dispatcher ω)} {action : String} {handler : Dispatcher ω}
    (h : r.choice (trim action.toList) = some (f, handler)) :
    ∃ a rest, trim action.toList = a ++ rest ∧ StandsFor f a rest ∧ (∀ c ∈ rest.head?, Separates c) ∧
      (∀ a' rest', trim action.toList = a' ++ rest' → lower a' = f.toList → a' = a ∧ rest' = rest) ∧
      ((∀ c ∈ a, c.toNat < 128) → utf8Len a = f.utf8ByteSize) ∧
      ∃ args, (∀ fallback s w, r.dispatcher fallback action s w = handler args s w) ∧
        (utf8Len a = f.utf8ByteSize → args = separated rest) ∧
        (utf8Len a < f.utf8ByteSize →
          args = separated ((dropBytes? (f.utf8ByteSize - utf8Len a) rest).getD [])) ∧
        (f.utf8ByteSize < utf8Len a →
          args = separated (((dropBytes? f.utf8ByteSize a).map (· ++ rest)).getD [])) := by
  obtain ⟨-, hlongest⟩ := longest_of_choice h
  obtain ⟨a, rest, haction, hstands, hrest⟩ := exists_standsFor hlongest.opens
  refine ⟨a, rest, haction, hstands, hrest, fun a' rest' hsplit hlower => ?_, hstands.utf8Len_ascii,
    arguments (trim action.toList) f, fun fallback s w => ?_, fun heq => ?_, fun hlt => ?_, fun hlt => ?_⟩
  · exact hstands.unique (hsplit.symm.trans haction) hlower
  · rw [dispatcher_eq, h]
  · rw [haction, arguments_eq, dropBytes?_append, if_pos heq.le, heq, Nat.sub_self, dropBytes?_zero, Option.getD_some]
  · rw [haction, arguments_eq, dropBytes?_append, if_pos hlt.le]
  · rw [haction, arguments_eq, dropBytes?_append, if_neg hlt.not_ge]

/-- A handler that notes what it is given. -/
def noting : Dispatcher String := fun args s _ => (.done (), s, args)

/-- The handler that notes, under one phrase with dotted capitals. -/
def dotted : Registry (Dispatcher String) := empty.register "İLETİ" noting

/-- Dots become characters of their own when a phrase is made small. -/
theorem choice_dotted : dotted.choice (trim "İLETİ ekip".toList) = some ("i\u0307leti\u0307", noting) := by
  have hphrase : normalize "İLETİ" = "i\u0307leti\u0307" := by decide
  have hopens : startsWith (lower (trim "İLETİ ekip".toList)) "i\u0307leti\u0307" = true := by decide
  have hentries : dotted.entries = [("i\u0307leti\u0307", noting)] := by
    simp [dotted, register, empty, hphrase]
  rw [choice, hentries, List.filter_cons, if_pos hopens]
  rfl

theorem handlers_get_what_follows_dotted : dotted.choice (trim "İLETİ ekip".toList) =
      some ("i\u0307leti\u0307", noting) ∧
    ∀ fallback s w, dotted.dispatcher fallback "İLETİ ekip" s w = (.done (), s, "kip") := by
  refine ⟨choice_dotted, fun fallback s w => ?_⟩
  obtain ⟨a, rest, -, -, -, hunique, -, args, hruns, -, hless, -⟩ := handlers_get_what_follows choice_dotted
  obtain ⟨rfl, rfl⟩ := hunique "İLETİ".toList (' ' :: "ekip".toList) (by decide) (by decide)
  have hargs : args = "kip" := (hless (by decide)).trans (by decide)
  rw [hruns, hargs]
  rfl

/-- **A phrase that grows takes text away.** Not every handler is given what follows the part of the action that is its
phrase when made small: with the dots of its capitals a phrase has two bytes more, which are lost behind it. -/
theorem grown_phrase_cuts_text : ¬ ∀ (r : Registry (Dispatcher String)) (action f : String) (handler : Dispatcher String)
    (a rest : List Char), r.choice (trim action.toList) = some (f, handler) → trim action.toList = a ++ rest →
    lower a = f.toList → (∀ c ∈ rest.head?, Separates c) →
    ∀ fallback s w, r.dispatcher fallback action s w = handler (separated rest) s w := by
  intro hall
  have hblank : ∀ c ∈ (' ' :: "ekip".toList).head?, Separates c := by
    intro c hc
    obtain rfl := Option.some.inj hc
    exact .inl (by decide)
  have hrun := hall dotted "İLETİ ekip" "i\u0307leti\u0307" noting "İLETİ".toList (' ' :: "ekip".toList) choice_dotted
    (by decide) (by decide) hblank none State.empty ""
  rw [dispatcher_eq, choice_dotted] at hrun
  have hnotes : arguments (trim "İLETİ ekip".toList) "i\u0307leti\u0307" = separated (' ' :: "ekip".toList) :=
    congrArg (·.2.2) hrun
  exact absurd hnotes (by decide)

end Registry

end Runbook
