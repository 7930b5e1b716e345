import Mathlib.Data.List.Forall2
import Mathlib.Data.List.Sort

/-!
# What places tell

Lists that are made in one pass over other lists, told by the places that they come from.

* `Tells P R as` : `as` tells what the places in `P` bear by `R`, in order and each once; `Tells.unique`;
* `TellsLast` : what the last of them bears; `Tells.last`;
* `Since a b i` : some `a` stands before place `i`, with no `b` in between; `since_succ` goes one place on;
* `scan` : one pass with a memory; `tells_scan`, `tells_scan_of_iff` : it tells the places at which it finds something.
-/

namespace Runbook

/-! ## Telling places -/

section Places

variable {α : Type} {P : Nat → Prop} {R : Nat → α → Prop} {as bs : List α} {d a b : α}

/-- A list tells what the places in `P` bear by `R`, in order and each once. -/
def Tells (P : Nat → Prop) (R : Nat → α → Prop) (as : List α) : Prop :=
  ∃ places : List Nat, places.Pairwise (· < ·) ∧ (∀ i, i ∈ places ↔ P i) ∧ List.Forall₂ R places as

/-- What the last place in `P` bears by `R`, and `d` if there is none. -/
def TellsLast (P : Nat → Prop) (R : Nat → α → Prop) (d a : α) : Prop :=
  (∃ i, P i ∧ R i a ∧ ∀ k, P k → k ≤ i) ∨ ((∀ i, ¬ P i) ∧ a = d)

/-- Some `a` stands before place `i`, and no `b` between that and `i`. -/
def Since (a b : Nat → Prop) (i : Nat) : Prop := ∃ j < i, a j ∧ ∀ k, j < k → k < i → ¬ b k

theorem not_since_zero {a b : Nat → Prop} : ¬ Since a b 0 := by
  rintro ⟨j, hj, -⟩
  exact Nat.not_lt_zero j hj

theorem since_succ {a b : Nat → Prop} {i : Nat} : Since a b (i + 1) ↔ a i ∨ (Since a b i ∧ ¬ b i) := by
  constructor
  · rintro ⟨j, hj, ha, hb⟩
    rcases Nat.lt_succ_iff_lt_or_eq.mp hj with hlt | rfl
    · exact .inr ⟨⟨j, hlt, ha, fun k hjk hki => hb k hjk (by omega)⟩, hb i hlt (Nat.lt_succ_self i)⟩
    · exact .inl ha
  · rintro (ha | ⟨⟨j, hj, ha, hb⟩, hi⟩)
    · exact ⟨i, Nat.lt_succ_self i, ha, fun k hik hki => by omega⟩
    · refine ⟨j, by omega, ha, fun k hjk hki => ?_⟩
      rcases Nat.lt_succ_iff_lt_or_eq.mp hki with hlt | rfl
      · exact hb k hjk hlt
      · exact hi

/-- What places bear is told in one way. -/
theorem Tells.unique (hR : ∀ i a b, R i a → R i b → a = b) (has : Tells P R as) (hbs : Tells P R bs) : as = bs := by
  obtain ⟨ps, hps, hmem, hall⟩ := has
  obtain ⟨qs, hqs, hmem', hall'⟩ := hbs
  obtain rfl : ps = qs := hps.eq_of_mem_iff hqs fun i => (hmem i).trans (hmem' i).symm
  clear hps hmem hqs hmem'
  induction hall generalizing bs with
  | nil =>
    cases hall'
    rfl
  | cons ha _ ih =>
    cases hall' with
    | cons hb hrest => rw [hR _ _ _ ha hb, ih hrest]

theorem TellsLast.unique (hR : ∀ i a b, R i a → R i b → a = b) (ha : TellsLast P R d a) (hb : TellsLast P R d b) :
    a = b := by
  rcases ha with ⟨i, hi, ha, hlast⟩ | ⟨hnone, rfl⟩ <;> rcases hb with ⟨j, hj, hb, hlast'⟩ | ⟨hnone', rfl⟩
  · obtain rfl : i = j := by
      have := hlast j hj
      have := hlast' i hi
      omega
    exact hR i a b ha hb
  · exact absurd hi (hnone' i)
  · exact absurd hj (hnone j)
  · rfl

theorem Tells.last (d : α) (h : Tells P R as) : TellsLast P R d (as.getLast?.getD d) := by
  obtain ⟨places, hsorted, hmem, hall⟩ := h
  rcases List.eq_nil_or_concat as with rfl | ⟨init, a, rfl⟩
  · cases hall
    exact .inr ⟨fun i hi => List.not_mem_nil ((hmem i).mpr hi), rfl⟩
  · rw [List.concat_eq_append] at hall ⊢
    have hback := List.forall₂_reverse_iff.mpr hall
    rw [List.reverse_concat] at hback
    obtain ⟨i, ps, ha, -, hps⟩ := List.forall₂_cons_right_iff.mp hback
    obtain rfl : places = ps.reverse ++ [i] := by rw [← List.reverse_cons, ← hps, List.reverse_reverse]
    refine .inl ⟨i, (hmem i).mp (by simp), by simpa using ha, fun k hk => ?_⟩
    rcases List.mem_append.mp ((hmem k).mpr hk) with hk | hk
    · exact Nat.le_of_lt ((List.pairwise_append.mp hsorted).2.2 k hk i (List.mem_singleton_self i))
    · exact Nat.le_of_eq (List.mem_singleton.mp hk)

theorem exists_of_forall₂ {β γ : Type} {S : β → γ → Prop} {bs : List β} {cs : List γ} {c : γ}
    (hall : List.Forall₂ S bs cs) (hc : c ∈ cs) : ∃ b ∈ bs, S b c := by
  induction hall with
  | nil => nomatch hc
  | cons h _ ih =>
    rcases List.mem_cons.mp hc with rfl | hc
    · exact ⟨_, List.mem_cons_self, h⟩
    · obtain ⟨b, hb, hS⟩ := ih hc
      exact ⟨b, List.mem_cons_of_mem _ hb, hS⟩

/-- What is told is borne by a place. -/
theorem Tells.exists_place (h : Tells P R as) (ha : a ∈ as) : ∃ i, P i ∧ R i a := by
  obtain ⟨places, -, hmem, hall⟩ := h
  obtain ⟨i, hi, hR⟩ := exists_of_forall₂ hall ha
  exact ⟨i, (hmem i).mp hi, hR⟩

/-- What a place bears is told. -/
theorem Tells.exists_told {i : Nat} (h : Tells P R as) (hi : P i) : ∃ a ∈ as, R i a := by
  obtain ⟨places, -, hmem, hall⟩ := h
  exact exists_of_forall₂ hall.flip ((hmem i).mpr hi)

/-- Places are told alike from any other first place. -/
theorem Tells.shift (n : Nat) (hP : ∀ k, P k → n ≤ k) (h : Tells (fun k => P (n + k)) (fun k => R (n + k)) as) :
    Tells P R as := by
  obtain ⟨places, hsorted, hmem, hall⟩ := h
  refine ⟨places.map (n + ·), ?_, fun i => ?_, List.forall₂_map_left_iff.mpr hall⟩
  · rw [List.pairwise_map]
    exact hsorted.imp fun hlt => Nat.add_lt_add_left hlt n
  · rw [List.mem_map]
    constructor
    · rintro ⟨k, hk, rfl⟩
      exact (hmem k).mp hk
    · intro hi
      obtain ⟨k, rfl⟩ := Nat.exists_eq_add_of_le (hP i hi)
      exact ⟨k, (hmem k).mpr hi, rfl⟩

theorem Tells.congr {P' : Nat → Prop} {R' : Nat → α → Prop} (hP : ∀ i, P i ↔ P' i) (hR : ∀ i a, R i a → R' i a)
    (h : Tells P R as) : Tells P' R' as := by
  obtain ⟨places, hsorted, hmem, hall⟩ := h
  exact ⟨places, hsorted, fun i => (hmem i).trans (hP i), hall.imp hR⟩

/-- A function that bears something at some of the first `n` places tells these. -/
theorem tells_range (f : Nat → Option α) (n : Nat) :
    Tells (fun i => i < n ∧ (f i).isSome = true) (fun i a => f i = some a) ((List.range n).filterMap f) := by
  refine ⟨(List.range n).filter fun i => (f i).isSome, List.pairwise_lt_range.filter _, fun i => by simp, ?_⟩
  generalize List.range n = places
  induction places with
  | nil => exact .nil
  | cons i places ih =>
    cases hi : f i with
    | none => rwa [List.filter_cons_of_neg (by simp [hi]), List.filterMap_cons_none hi]
    | some a =>
      rw [List.filter_cons_of_pos (by simp [hi]), List.filterMap_cons_some hi]
      exact .cons hi ih

end Places

/-! ## One pass with a memory -/

section Scan

variable {σ β α : Type} (next : σ → β → σ) (f : σ → β → List β → Option α)

/-- One pass over a list: what `f` makes of the memory, an item and the items after it. -/
def scan : σ → List β → List α
  | _, [] => []
  | s, b :: bs => (f s b bs).toList ++ scan (next s b) bs

/-- What the place `i` of a list bears in a pass that starts with the memory `s`. -/
def scanAt (s : σ) (bs : List β) (i : Nat) : Option α :=
  bs[i]?.bind fun b => f ((bs.take i).foldl next s) b (bs.drop (i + 1))

theorem scan_eq (s : σ) (bs : List β) : scan next f s bs = (List.range bs.length).filterMap (scanAt next f s bs) := by
  induction bs generalizing s with
  | nil => rfl
  | cons b bs ih =>
    rw [scan, ih, List.length_cons, List.range_succ_eq_map, List.filterMap_cons, List.filterMap_map]
    have htail : scanAt next f s (b :: bs) ∘ Nat.succ = scanAt next f (next s b) bs := rfl
    have hhead : scanAt next f s (b :: bs) 0 = f s b bs := rfl
    rw [htail, hhead]
    cases f s b bs <;> rfl

/-- A pass tells the places of the list. -/
theorem tells_scan (s : σ) (bs : List β) :
    Tells (fun i => (scanAt next f s bs i).isSome = true) (fun i a => scanAt next f s bs i = some a)
      (scan next f s bs) := by
  rw [scan_eq]
  refine (tells_range _ _).congr (fun i => and_iff_right_of_imp fun h => ?_) fun _ _ h => h
  by_contra hi
  rw [scanAt, List.getElem?_eq_none (by omega)] at h
  nomatch h

/-- What a pass finds is told by the places at which it is found. -/
theorem tells_scan_of_iff {P : Nat → Prop} {R : Nat → α → Prop} {s : σ} {bs : List β}
    (h : ∀ i a, scanAt next f s bs i = some a ↔ P i ∧ R i a) :
    Tells (fun i => P i ∧ ∃ a, R i a) R (scan next f s bs) := by
  refine (tells_scan next f s bs).congr (fun i => ?_) fun i a ha => ((h i a).mp ha).2
  rw [Option.isSome_iff_exists]
  simp only [h, exists_and_left]

end Scan

end Runbook
