import Runbook.Action.Instruction
import Runbook.Proofs.Dotted

/-!
# What an action says

The grammar of actions, apart from the way they are read. The shapes of actions overlap: the text of a failure may
speak of a store, and a target may be the word of a completion. An action says the first of the shapes that it fits.

* `Text.Boundary`, `Text.SpellsOne` : a word boundary between two parts of a text, one of several words in some case;
* `Declares`, `Assigns`, `SaysComplete`, `StartsWord` : the shapes, each by itself; `failure?_eq_some`,
  `assignment?_eq_some`, `saysComplete_iff`, `hasWordStart_iff` : these are what is read;
* `Instruction.Fits`, `Instruction.IsFirst` : an action fits the shape of an instruction, and none that comes before it;
* `isFirst_iff` : that is the instruction that the action is read as.
-/

namespace Runbook

/-! ## Words in a text -/

namespace Text

variable {words : List String} {s : List Char}

/-- Between two parts of a text is a word boundary. -/
def Boundary (a b : List Char) : Prop := atBoundary a.getLast? b.head? = true

/-- A text is one of some words, in some case. -/
def SpellsOne (words : List String) (w : List Char) : Prop := ∃ p ∈ words, Spells p.toList w

/-- One of some words starts at a word boundary somewhere in a text. -/
def StartsWord (words : List String) (s : List Char) : Prop :=
  ∃ before w after, SpellsOne words w ∧ s = before ++ (w ++ after) ∧ Boundary before (w ++ after)

theorem getLast?_cons_or (c : Char) (a : List Char) (before : Option Char) :
    (c :: a).getLast?.or before = a.getLast?.or (some c) := by
  rw [List.getLast?_cons]
  cases a.getLast? <;> rfl

/-- The character before a position is the last one of the part before it, or else the one before the text. -/
theorem findFrom_iff {test : Option Char → List Char → Bool} {before : Option Char} :
    findFrom test before s = true ↔ ∃ a b, s = a ++ b ∧ test (a.getLast?.or before) b = true := by
  induction s generalizing before with
  | nil => simp [findFrom]
  | cons c s ih =>
    rw [findFrom, Bool.or_eq_true, ih]
    constructor
    · rintro (h | ⟨a, b, rfl, h⟩)
      · exact ⟨[], c :: s, rfl, h⟩
      · exact ⟨c :: a, b, rfl, by rwa [getLast?_cons_or]⟩
    · rintro ⟨a, b, hs, h⟩
      cases a with
      | nil =>
        obtain rfl : c :: s = b := hs
        exact .inl h
      | cons d a =>
        obtain ⟨rfl, rfl⟩ := List.cons.inj hs
        rw [getLast?_cons_or] at h
        exact .inr ⟨a, b, rfl, h⟩

theorem dropOneOf?_isSome : (dropOneOf? words s).isSome = true ↔ ∃ w rest, SpellsOne words w ∧ s = w ++ rest := by
  have hdrop (p : String) : (dropPhrase? p.toList s).isSome = true ↔ ∃ w rest, Spells p.toList w ∧ s = w ++ rest := by
    simp only [Option.isSome_iff_exists, dropPhrase?_eq_some]
    exact exists_comm
  simp only [dropOneOf?, List.isSome_findSome?, List.any_eq_true, Option.isSome_map, hdrop, SpellsOne]
  constructor
  · rintro ⟨p, hp, w, rest, hw, hs⟩
    exact ⟨w, rest, ⟨p, hp, hw⟩, hs⟩
  · rintro ⟨w, rest, ⟨p, hp, hw⟩, hs⟩
    exact ⟨p, hp, w, rest, hw, hs⟩

theorem dropOneOf?_singleton {p : String} {last : Option Char} {rest : List Char} :
    dropOneOf? [p] s = some (last, rest) ↔ ∃ w, Spells p.toList w ∧ s = w ++ rest ∧ last = w.getLast? := by
  have htake {w : List Char} (hw : Spells p.toList w) : (w ++ rest).take p.length = w := by
    rw [← String.length_toList, hw.length_eq, List.take_left]
  simp only [dropOneOf?, List.findSome?_singleton, Option.map_eq_some_iff, dropPhrase?_eq_some, Prod.mk.injEq]
  constructor
  · rintro ⟨_, ⟨w, hw, rfl⟩, rfl, rfl⟩
    exact ⟨w, hw, rfl, by rw [htake hw]⟩
  · rintro ⟨w, hw, rfl, rfl⟩
    exact ⟨rest, ⟨w, hw, rfl⟩, by rw [htake hw], rfl⟩

/-- One of some words starts a text, and what follows it passes a test. -/
theorem any_dropOneOf?_iff (test : Option Char → List Char → Bool) :
    (words.any fun p => match dropOneOf? [p] s with
      | some (last, rest) => test last rest
      | none => false) = true ↔ ∃ w rest, SpellsOne words w ∧ s = w ++ rest ∧ test w.getLast? rest = true := by
  rw [List.any_eq_true]
  constructor
  · rintro ⟨p, hp, h⟩
    split at h
    · next last rest hdrop =>
      obtain ⟨w, hw, hs, rfl⟩ := dropOneOf?_singleton.mp hdrop
      exact ⟨w, rest, ⟨p, hp, hw⟩, hs, h⟩
    · nomatch h
  · rintro ⟨w, rest, ⟨p, hp, hw⟩, hs, h⟩
    refine ⟨p, hp, ?_⟩
    rw [dropOneOf?_singleton.mpr ⟨w, hw, hs, rfl⟩]
    exact h

theorem hasWordStart_iff : hasWordStart words s = true ↔ StartsWord words s := by
  simp only [hasWordStart, findFrom_iff, Option.or_none, Bool.and_eq_true, dropOneOf?_isSome]
  constructor
  · rintro ⟨before, b, rfl, hbound, w, after, hw, rfl⟩
    exact ⟨before, w, after, hw, rfl, hbound⟩
  · rintro ⟨before, w, after, hw, rfl, hbound⟩
    exact ⟨before, w ++ after, rfl, hbound, w, after, hw, rfl⟩

end Text

open Text

namespace Instruction

variable {s rest operand : List Char}

/-! ## Failures -/

/-- An action starts with the word of failure, which ends there, and `rest` follows. -/
def Declares (s rest : List Char) : Prop :=
  ∃ w, Spells "fail".toList w ∧ s = w ++ rest ∧ ∀ c ∈ rest.head?, isWord c = false

/-- What is told after a word: a text without the blanks, one colon and the blanks after it. -/
def told (rest : List Char) : List Char :=
  match trimStart rest with
  | ':' :: r => trimStart r
  | r => r

/-- The message of a failure that tells something, and of one that tells nothing. -/
def messageOf (told : List Char) : String :=
  if (trim told).isEmpty then "declared failure" else String.ofList (trim told)

theorem declares_iff : Declares s rest ↔
    dropPhrase? "fail".toList s = some rest ∧ ∀ c ∈ rest.head?, isWord c = false := by
  simp only [Declares, dropPhrase?_eq_some]
  constructor
  · rintro ⟨w, hw, hs, hend⟩
    exact ⟨⟨w, hw, hs⟩, hend⟩
  · rintro ⟨⟨w, hw, hs⟩, hend⟩
    exact ⟨w, hw, hs, hend⟩

theorem failure?_eq (s : List Char) : failure? s = (dropPhrase? "fail".toList s).bind fun rest =>
    if !atBoundary (some 'l') rest.head? then none
    else if (told rest).contains '\n' then none else some (messageOf (told rest)) := rfl

theorem not_atBoundary_letter {after : Option Char} :
    (!atBoundary (some 'l') after) = true ↔ ¬ ∀ c ∈ after, isWord c = false := by
  have hl : isWord 'l' = true := by decide
  cases after <;> simp [atBoundary, hl]

/-- A failure is read if what it tells stays on one line. -/
theorem failure?_eq_some {message : String} : failure? s = some message ↔
    ∃ rest, Declares s rest ∧ '\n' ∉ told rest ∧ messageOf (told rest) = message := by
  rw [failure?_eq, Option.bind_eq_some_iff]
  constructor
  · rintro ⟨rest, hrest, h⟩
    split at h
    · nomatch h
    · next hend =>
      rw [not_atBoundary_letter, not_not] at hend
      split at h
      · nomatch h
      · next hline => exact ⟨rest, declares_iff.mpr ⟨hrest, hend⟩, by simpa using hline, Option.some.inj h⟩
  · rintro ⟨rest, h, hline, rfl⟩
    obtain ⟨hrest, hend⟩ := declares_iff.mp h
    refine ⟨rest, hrest, ?_⟩
    rw [if_neg (by rwa [not_atBoundary_letter, not_not]), if_neg (by simpa using hline)]

/-! ## Assignments -/

/-- A text gives an operand: a sign, blanks around it, and the operand up to the end, on one line. -/
def Gives (s operand : List Char) : Prop :=
  ∃ gap gap' t, AllBlank gap ∧ AllBlank gap' ∧ s = gap ++ '=' :: (gap' ++ t) ∧ '\n' ∉ t ∧
    (∃ c ∈ t.head?, isBlank c = false) ∧ trim t = operand

/-- A text is the shortest one without blanks before an operand. -/
structure IsTarget (target rest operand : List Char) : Prop where
  ne_nil : target ≠ []
  not_isBlank : ∀ c ∈ target, isBlank c = false
  gives : Gives rest operand
  shortest : ∀ a b, target = a ++ b → a ≠ [] → b ≠ [] → ∀ o, ¬ Gives (b ++ rest) o

/-- An action starts with the word of assignment, blanks after it, a target and an operand. -/
def Assigns (s target operand : List Char) : Prop :=
  ∃ w gap rest, Spells "set".toList w ∧ AllBlank gap ∧ gap ≠ [] ∧ s = w ++ (gap ++ (target ++ rest)) ∧
    IsTarget target rest operand

theorem assigned?_eq_some : assigned? s = some operand ↔ Gives s operand := by
  constructor
  · intro h
    unfold assigned? at h
    split at h
    · next r hsign =>
      obtain ⟨gap, hgap, hs⟩ := exists_trimStart s
      obtain ⟨gap', hgap', hr⟩ := exists_trimStart r
      dsimp only at h
      split at h
      · nomatch h
      · next hend =>
        simp only [Bool.or_eq_true, List.isEmpty_iff, List.contains_iff_mem, not_or] at hend
        obtain ⟨c, t, ht⟩ := List.exists_cons_of_ne_nil hend.1
        refine ⟨gap, gap', trimStart r, hgap, hgap', ?_, hend.2, ⟨c, by simp [ht], isBlank_head_trimStart ht⟩,
          Option.some.inj h⟩
        rw [← hr, ← hsign, ← hs]
    · nomatch h
  · rintro ⟨gap, gap', t, hgap, hgap', rfl, hline, ⟨c, hc, hblank⟩, rfl⟩
    obtain ⟨t, rfl⟩ : ∃ t', t = c :: t' := ⟨t.tail, (List.cons_head?_tail hc).symm⟩
    have hoperand : trimStart (gap' ++ c :: t) = c :: t := by rw [trimStart_append hgap', trimStart_cons hblank]
    unfold assigned?
    rw [trimStart_append hgap, trimStart_cons (by decide)]
    show (if (trimStart (gap' ++ c :: t)).isEmpty || (trimStart (gap' ++ c :: t)).contains '\n' then none
      else some (trim (trimStart (gap' ++ c :: t)))) = _
    rw [hoperand, if_neg (by simpa using hline)]

theorem isTarget_singleton {c : Char} (hc : isBlank c = false) (h : Gives rest operand) :
    IsTarget [c] rest operand := by
  refine ⟨List.cons_ne_nil c [], by simpa using hc, h, fun a b hab ha hb => ?_⟩
  have hlen := congrArg List.length hab
  rw [List.length_append] at hlen
  have ha := List.length_pos_iff.mpr ha
  have hb := List.length_pos_iff.mpr hb
  simp only [List.length_singleton] at hlen
  omega

/-- One character more makes a target of what is one, unless an operand follows that character at once. -/
theorem isTarget_cons {c : Char} {target : List Char} (hc : isBlank c = false)
    (hnext : ∀ o, ¬ Gives (target ++ rest) o) :
    IsTarget (c :: target) rest operand ↔ IsTarget target rest operand := by
  constructor
  · intro h
    have hne : target ≠ [] := by
      rintro rfl
      exact hnext operand h.gives
    refine ⟨hne, fun d hd => h.not_isBlank d (List.mem_cons_of_mem c hd), h.gives, fun a b hab ha hb => ?_⟩
    exact h.shortest (c :: a) b (by rw [hab, List.cons_append]) (List.cons_ne_nil c a) hb
  · intro h
    refine ⟨List.cons_ne_nil c target, List.forall_mem_cons.mpr ⟨hc, h.not_isBlank⟩, h.gives,
      fun a b hab ha hb => ?_⟩
    obtain ⟨d, a, rfl⟩ := List.exists_cons_of_ne_nil ha
    obtain ⟨-, rfl⟩ := List.cons.inj hab
    cases a with
    | nil => exact hnext
    | cons e a => exact h.shortest (e :: a) b rfl (List.cons_ne_nil e a) hb

theorem target?_eq_some {taken found : List Char} : target? taken s = some (found, operand) ↔
    ∃ target rest, found = taken.reverse ++ target ∧ s = target ++ rest ∧ IsTarget target rest operand := by
  induction s generalizing taken with
  | nil =>
    refine iff_of_false (fun h => nomatch h) ?_
    rintro ⟨target, rest, -, hs, h⟩
    exact h.ne_nil (List.append_eq_nil_iff.mp hs.symm).1
  | cons c s ih =>
    rw [target?]
    cases hc : isBlank c with
    | true =>
      refine iff_of_false (fun h => nomatch h) ?_
      rintro ⟨target, rest, -, hs, h⟩
      obtain ⟨d, target, rfl⟩ := List.exists_cons_of_ne_nil h.ne_nil
      obtain ⟨rfl, -⟩ := List.cons.inj hs
      exact Bool.false_ne_true ((h.not_isBlank c List.mem_cons_self).symm.trans hc)
    | false =>
      rw [if_neg Bool.false_ne_true]
      cases hassigned : assigned? s with
      | some o =>
        have hgives := assigned?_eq_some.mp hassigned
        simp only [Option.some.injEq, Prod.mk.injEq]
        constructor
        · rintro ⟨rfl, rfl⟩
          exact ⟨[c], s, by simp, rfl, isTarget_singleton hc hgives⟩
        · rintro ⟨target, rest, rfl, hs, h⟩
          obtain ⟨d, target, rfl⟩ := List.exists_cons_of_ne_nil h.ne_nil
          obtain ⟨rfl, rfl⟩ := List.cons.inj hs
          cases target with
          | nil =>
            have hsame := assigned?_eq_some.mpr h.gives
            exact ⟨by simp, Option.some.inj (hassigned.symm.trans hsame)⟩
          | cons e target =>
            exact absurd hgives (h.shortest [c] (e :: target) rfl (List.cons_ne_nil c []) (List.cons_ne_nil e target) o)
      | none =>
        have hnext (o : List Char) : ¬ Gives s o := by
          rw [← assigned?_eq_some, hassigned]
          exact Option.some_ne_none o ∘ Eq.symm
        dsimp only
        rw [ih]
        constructor
        · rintro ⟨target, rest, rfl, rfl, h⟩
          exact ⟨c :: target, rest, by simp, rfl, (isTarget_cons hc hnext).mpr h⟩
        · rintro ⟨target, rest, rfl, hs, h⟩
          obtain ⟨d, target, rfl⟩ := List.exists_cons_of_ne_nil h.ne_nil
          obtain ⟨rfl, rfl⟩ := List.cons.inj hs
          exact ⟨target, rest, by simp, rfl, (isTarget_cons hc hnext).mp h⟩

theorem assignment?_eq_some {target : List Char} :
    assignment? s = some (target, operand) ↔ Assigns s target operand := by
  unfold assignment?
  rw [Option.bind_eq_some_iff]
  constructor
  · rintro ⟨r, hr, h⟩
    obtain ⟨w, hw, rfl⟩ := dropPhrase?_eq_some.mp hr
    split at h
    · next hblank =>
      obtain ⟨target, rest, rfl, htrim, htarget⟩ := target?_eq_some.mp h
      obtain ⟨gap, hgap, hsplit⟩ := exists_trimStart r
      have hne : gap ≠ [] := by
        rintro rfl
        obtain ⟨c, t, hc⟩ := List.exists_cons_of_ne_nil htarget.ne_nil
        have hhead : isBlank c = true := by
          rw [hsplit, List.nil_append, htrim, hc] at hblank
          exact hblank
        exact Bool.false_ne_true ((htarget.not_isBlank c (by simp [hc])).symm.trans hhead)
      exact ⟨w, gap, rest, hw, hgap, hne, by rw [hsplit, htrim], htarget⟩
    · nomatch h
  · rintro ⟨w, gap, rest, hw, hgap, hne, rfl, htarget⟩
    obtain ⟨b, gap, rfl⟩ := List.exists_cons_of_ne_nil hne
    obtain ⟨c, t, rfl⟩ := List.exists_cons_of_ne_nil htarget.ne_nil
    have hblank : ((b :: gap) ++ (c :: t ++ rest)).head?.any isBlank = true := (allBlank_cons.mp hgap).1
    have hstart : trimStart ((b :: gap) ++ (c :: t ++ rest)) = c :: t ++ rest := by
      rw [trimStart_append hgap, List.cons_append, trimStart_cons (htarget.not_isBlank c List.mem_cons_self)]
    refine ⟨(b :: gap) ++ (c :: t ++ rest), dropPhrase?_eq_some.mpr ⟨w, hw, rfl⟩, ?_⟩
    rw [if_pos hblank, hstart, target?_eq_some]
    exact ⟨c :: t, rest, rfl, rfl, htarget⟩

/-! ## Completions -/

/-- An action starts with a word of completion's verbs, and has a form of the word itself on its first line. -/
def SaysComplete (s : List Char) : Prop :=
  ∃ w mid u after, SpellsOne ["set", "mark"] w ∧ SpellsOne completionWords u ∧ '\n' ∉ mid ∧
    s = w ++ (mid ++ (u ++ after)) ∧ Boundary w (mid ++ (u ++ after)) ∧ Boundary (w ++ mid) (u ++ after) ∧
    Boundary u after

theorem isCompletionWord_iff {before : Option Char} {here : List Char} : isCompletionWord before here = true ↔
    atBoundary before here.head? = true ∧ ∃ u after, SpellsOne completionWords u ∧ here = u ++ after ∧
      Boundary u after := by
  rw [isCompletionWord, Bool.and_eq_true]
  exact and_congr_right fun _ => any_dropOneOf?_iff fun last rest => atBoundary last rest.head?

theorem findOnLine_iff {before : Option Char} : saysComplete.findOnLine before s = true ↔
    ∃ mid here, s = mid ++ here ∧ '\n' ∉ mid ∧ isCompletionWord (mid.getLast?.or before) here = true := by
  induction s generalizing before with
  | nil => simp [saysComplete.findOnLine]
  | cons c s ih =>
    rw [saysComplete.findOnLine, Bool.or_eq_true, Bool.and_eq_true, bne_iff_ne, ih]
    constructor
    · rintro (h | ⟨hc, mid, here, rfl, hmid, h⟩)
      · exact ⟨[], c :: s, rfl, List.not_mem_nil, h⟩
      · exact ⟨c :: mid, here, rfl, by simp [Ne.symm hc, hmid], by rwa [getLast?_cons_or]⟩
    · rintro ⟨mid, here, hs, hmid, h⟩
      cases mid with
      | nil =>
        obtain rfl : c :: s = here := hs
        exact .inl h
      | cons d mid =>
        obtain ⟨rfl, rfl⟩ := List.cons.inj hs
        obtain ⟨hc, hmid⟩ := List.ne_and_not_mem_of_not_mem_cons hmid
        rw [getLast?_cons_or] at h
        exact .inr ⟨hc.symm, mid, here, rfl, hmid, h⟩

theorem saysComplete_iff : saysComplete s = true ↔ SaysComplete s := by
  have hverb : saysComplete s = true ↔ ∃ w rest, SpellsOne ["set", "mark"] w ∧ s = w ++ rest ∧
      (atBoundary w.getLast? rest.head? && saysComplete.findOnLine w.getLast? rest) = true :=
    any_dropOneOf?_iff fun last rest => atBoundary last rest.head? && saysComplete.findOnLine last rest
  simp only [hverb, Bool.and_eq_true, findOnLine_iff, isCompletionWord_iff]
  constructor
  · rintro ⟨w, _, hw, rfl, hbound, mid, _, rfl, hmid, hbefore, u, after, hu, rfl, hafter⟩
    exact ⟨w, mid, u, after, hw, hu, hmid, rfl, hbound, by rwa [Boundary, List.getLast?_append], hafter⟩
  · rintro ⟨w, mid, u, after, hw, hu, hmid, rfl, hbound, hbefore, hafter⟩
    rw [Boundary, List.getLast?_append] at hbefore
    exact ⟨w, _, hw, rfl, hbound, mid, _, rfl, hmid, hbefore, u, after, hu, rfl, hafter⟩

/-! ## The first shape -/

/-- An action fits the shape of an instruction, whatever other shapes it fits. -/
def Fits (s : List Char) : Instruction → Prop
  | fail message => ∃ rest, Declares s rest ∧ '\n' ∉ told rest ∧ messageOf (told rest) = message
  | assign path operand => ∃ target, Assigns s target operand ∧ Path.IsDotted target ∧ String.ofList target = path
  | badPath path => ∃ target operand, Assigns s target operand ∧ ¬ Path.IsDotted target ∧ String.ofList target = path
  | complete => SaysComplete s
  | compute => StartsWord ["compute", "calculate"] s
  | persist => StartsWord ["save", "persist", "store"] s
  | nothing => True

/-- The place of a shape in the order in which shapes are tried. -/
def rank : Instruction → Nat
  | fail _ => 0
  | assign _ _ => 1
  | badPath _ => 1
  | complete => 2
  | compute => 3
  | persist => 4
  | nothing => 5

/-- An action fits the shape of an instruction, and none that comes before it. -/
structure IsFirst (s : List Char) (i : Instruction) : Prop where
  fits : i.Fits s
  least : ∀ j : Instruction, j.Fits s → i.rank ≤ j.rank

/-- Shapes of one place fit with one instruction only. -/
theorem Fits.unique {i j : Instruction} (hi : i.Fits s) (hj : j.Fits s) (hrank : i.rank = j.rank) : i = j := by
  have hsame {t t' o o' : List Char} (h : Assigns s t o) (h' : Assigns s t' o') : t = t' ∧ o = o' := by
    rw [← assignment?_eq_some] at h h'
    exact Prod.mk.inj (Option.some.inj (h.symm.trans h'))
  cases i <;> cases j <;> simp only [rank, reduceCtorEq, Nat.reduceEqDiff] at hrank <;> try rfl
  case fail.fail =>
    rw [Fits, ← failure?_eq_some] at hi hj
    exact congrArg fail (Option.some.inj (hi.symm.trans hj))
  case assign.assign =>
    obtain ⟨t, h, -, rfl⟩ := hi
    obtain ⟨t', h', -, rfl⟩ := hj
    obtain ⟨rfl, rfl⟩ := hsame h h'
    rfl
  case badPath.badPath =>
    obtain ⟨t, o, h, -, rfl⟩ := hi
    obtain ⟨t', o', h', -, rfl⟩ := hj
    obtain ⟨rfl, -⟩ := hsame h h'
    rfl
  case assign.badPath =>
    obtain ⟨t, h, hpath, -⟩ := hi
    obtain ⟨t', o', h', hbad, -⟩ := hj
    exact absurd ((hsame h h').1 ▸ hpath) hbad
  case badPath.assign =>
    obtain ⟨t, o, h, hbad, -⟩ := hi
    obtain ⟨t', h', hpath, -⟩ := hj
    exact absurd ((hsame h h').1 ▸ hpath) hbad

theorem fits_fail_iff {message : String} : (fail message).Fits s ↔ failure? s = some message :=
  failure?_eq_some.symm

theorem fits_assign_iff {path : String} : (assign path operand).Fits s ↔
    ∃ target, assignment? s = some (target, operand) ∧ Path.isWellFormed target = true ∧ String.ofList target = path := by
  simp only [Fits, assignment?_eq_some, Path.isWellFormed_iff]

theorem fits_badPath_iff {path : String} : (badPath path).Fits s ↔ ∃ target operand,
    assignment? s = some (target, operand) ∧ ¬ Path.isWellFormed target = true ∧ String.ofList target = path := by
  simp only [Fits, assignment?_eq_some, Path.isWellFormed_iff]

theorem ofChars_of_failure {message : String} (h : failure? s = some message) : ofChars s = fail message := by
  rw [ofChars, h]

theorem ofChars_of_assignment {target : List Char} (hfail : failure? s = none)
    (h : assignment? s = some (target, operand)) : ofChars s =
      if Path.isWellFormed target then assign (String.ofList target) operand else badPath (String.ofList target) := by
  rw [ofChars, hfail, h]

theorem ofChars_of_neither (hfail : failure? s = none) (hassign : assignment? s = none) : ofChars s =
    if saysComplete s then complete
    else if hasWordStart ["compute", "calculate"] s then compute
    else if hasWordStart ["save", "persist", "store"] s then persist
    else nothing := by
  rw [ofChars, hfail, hassign]

/-- What an action fits at each place of the order is what is tried there. -/
theorem Fits.tried {j : Instruction} (h : j.Fits s) : (j.rank = 0 → failure? s ≠ none) ∧
    (j.rank = 1 → assignment? s ≠ none) ∧ (j.rank = 2 → saysComplete s = true) ∧
    (j.rank = 3 → hasWordStart ["compute", "calculate"] s = true) ∧
    (j.rank = 4 → hasWordStart ["save", "persist", "store"] s = true) := by
  cases j with
  | fail message => simp [rank, fits_fail_iff.mp h]
  | assign path operand =>
    obtain ⟨target, hassign, -⟩ := fits_assign_iff.mp h
    simp [rank, hassign]
  | badPath path =>
    obtain ⟨target, operand, hassign, -⟩ := fits_badPath_iff.mp h
    simp [rank, hassign]
  | complete => simpa [rank] using saysComplete_iff.mpr h
  | compute => simpa [rank] using hasWordStart_iff.mpr h
  | persist => simpa [rank] using hasWordStart_iff.mpr h
  | nothing => simp [rank]

/-- An action is read as the first of the shapes that it fits. -/
theorem isFirst_ofChars (s : List Char) : IsFirst s (ofChars s) := by
  cases hfail : failure? s with
  | some message =>
    rw [ofChars_of_failure hfail]
    exact ⟨fits_fail_iff.mpr hfail, fun j _ => Nat.zero_le _⟩
  | none =>
    have hone {j : Instruction} (hj : j.Fits s) : 1 ≤ j.rank := Nat.pos_of_ne_zero fun h => hj.tried.1 h hfail
    cases hassign : assignment? s with
    | some found =>
      obtain ⟨target, operand⟩ := found
      rw [ofChars_of_assignment hfail hassign]
      split
      · next hpath => exact ⟨fits_assign_iff.mpr ⟨target, hassign, hpath, rfl⟩, fun j hj => hone hj⟩
      · next hpath => exact ⟨fits_badPath_iff.mpr ⟨target, operand, hassign, hpath, rfl⟩, fun j hj => hone hj⟩
    | none =>
      have htwo {j : Instruction} (hj : j.Fits s) : 2 ≤ j.rank :=
        Nat.lt_of_le_of_ne (hone hj) fun h => hj.tried.2.1 h.symm hassign
      rw [ofChars_of_neither hfail hassign]
      split
      · next hcomplete => exact ⟨saysComplete_iff.mp hcomplete, fun j hj => htwo hj⟩
      · next hcomplete =>
        have hthree {j : Instruction} (hj : j.Fits s) : 3 ≤ j.rank :=
          Nat.lt_of_le_of_ne (htwo hj) fun h => hcomplete (hj.tried.2.2.1 h.symm)
        split
        · next hcompute => exact ⟨hasWordStart_iff.mp hcompute, fun j hj => hthree hj⟩
        · next hcompute =>
          have hfour {j : Instruction} (hj : j.Fits s) : 4 ≤ j.rank :=
            Nat.lt_of_le_of_ne (hthree hj) fun h => hcompute (hj.tried.2.2.2.1 h.symm)
          split
          · next hpersist => exact ⟨hasWordStart_iff.mp hpersist, fun j hj => hfour hj⟩
          · next hpersist =>
            refine ⟨trivial, fun j hj => Nat.lt_of_le_of_ne (hfour hj) fun h => ?_⟩
            exact hpersist (hj.tried.2.2.2.2 h.symm)

theorem isFirst_iff {i : Instruction} : IsFirst s i ↔ ofChars s = i := by
  constructor
  · intro h
    have hread := isFirst_ofChars s
    exact hread.fits.unique h.fits (Nat.le_antisymm (hread.least i h.fits) (h.least _ hread.fits))
  · rintro rfl
    exact isFirst_ofChars s

end Instruction

end Runbook
