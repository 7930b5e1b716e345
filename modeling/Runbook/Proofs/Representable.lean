import Runbook.Json.Reader
import Runbook.Proofs.Reordered
import Runbook.Proofs.Rounding

/-!
# Values of 64-bit floats

A 64-bit float counts up to `2 ^ 53` steps of one size, so rounding leaves it as it is. All floats that are read from a
text are rounded, so values that are read hold 64-bit floats only.

* `Binary64.Representable`, `representable_nearestUnits` : 64-bit floats, and that rounding gives them;
* `Number.Representable`, `Numeral.representable` : numerals stand for integers and such floats;
* `Json.Representable`, `representable_of_readChars`, `representable_ofLiteral` : texts stand for values of such numbers.
-/

namespace Runbook

/-! ## Rounded floats -/

namespace Binary64

/-- A float that a 64-bit float can be: its magnitude keeps all its bits. -/
def Representable (x : Binary64) : Prop := nearestUnits x.units 1 = x.units

theorem exists_steps (num den : Nat) : ∃ n k, n ≤ 2 ^ 53 ∧ nearestUnits num den = n * 2 ^ k := by
  rw [nearestUnits_eq]
  split
  · next hsmall =>
    have hbound := (roundDiv_bounds num den).2
    exact ⟨roundDiv num den, 0, by omega, by rw [Nat.pow_zero, Nat.mul_one]⟩
  · next hlarge =>
    generalize hq : num / den = q at hlarge
    have hlog := le_log2 (Nat.not_lt.mp hlarge)
    have hquotient : num / (den * 2 ^ (q.log2 - 52)) < 2 ^ 53 := by
      rw [← Nat.div_div_eq_div_mul, hq]
      refine Nat.div_lt_of_lt_mul ?_
      have hbits : q.log2 - 52 + 53 = q.log2 + 1 := by omega
      rw [← Nat.pow_add, hbits]
      exact Nat.lt_log2_self
    have hbound := (roundDiv_bounds num (den * 2 ^ (q.log2 - 52))).2
    exact ⟨_, _, by omega, rfl⟩

/-- Rounding gives 64-bit floats. -/
theorem representable_nearestUnits (negative : Bool) (num den : Nat) :
    Representable ⟨negative, nearestUnits num den⟩ := by
  obtain ⟨n, k, hn, heq⟩ := exists_steps num den
  unfold Representable
  rw [heq, nearestUnits_of_steps hn]

theorem representable_zero (negative : Bool) : Representable ⟨negative, 0⟩ := nearestUnits_of_small (Nat.two_pow_pos 53)

end Binary64

/-- The number is an integer, or a 64-bit float. -/
def Number.Representable : Number → Prop
  | int _ => True
  | float x => x.Representable

namespace Json

/-! ## Numerals -/

open Binary64 (representable_nearestUnits representable_zero)

theorem representable_scaleDown (negative : Bool) (units n : Nat) :
    Binary64.Representable ⟨negative, scaleDown units n⟩ := by
  fun_induction scaleDown units n with
  | case1 => exact representable_nearestUnits negative _ _
  | case2 => exact representable_zero negative
  | case3 _ _ _ _ ih => exact ih

theorem representable_of_scaleUp? {negative : Bool} {units n u : Nat} (h : scaleUp? units n = some u) :
    Binary64.Representable ⟨negative, u⟩ := by
  unfold scaleUp? at h
  split at h
  · unfold Binary64.times? Binary64.finite? at h
    split at h
    · obtain rfl := Option.some.inj h
      exact representable_nearestUnits negative _ _
    · nomatch h
  · split at h
    · obtain rfl := Option.some.inj h
      exact representable_zero negative
    · nomatch h

/-- Numerals stand for integers and 64-bit floats. -/
theorem Numeral.representable {n : Numeral} {m : Number} (h : n.number? = some m) : m.Representable := by
  unfold number? at h
  dsimp only at h
  split at h
  · split at h
    · obtain rfl := Option.some.inj h
      trivial
    · split at h
      · obtain rfl := Option.some.inj h
        exact representable_nearestUnits true _ 1
      · obtain rfl := Option.some.inj h
        trivial
  · obtain ⟨units, hunits, rfl⟩ := Option.map_eq_some_iff.mp h
    unfold scale? at hunits
    dsimp only at hunits
    split at hunits
    · exact representable_of_scaleUp? hunits
    · obtain rfl := Option.some.inj hunits
      exact representable_scaleDown n.negative _ _

/-! ## Texts -/

/-- The numbers in a value are integers and 64-bit floats. -/
def Representable : Json → Prop := Numbers Number.Representable

theorem bind_eq_ok {ε α β : Type} {x : Except ε α} {f : α → Except ε β} {b : β} :
    (x >>= f) = .ok b ↔ ∃ a, x = .ok a ∧ f a = .ok b := by
  cases x with
  | error e => exact ⟨nofun, fun ⟨_, h, _⟩ => nomatch h⟩
  | ok a => exact ⟨fun h => ⟨a, rfl, h⟩, fun ⟨_, h, hf⟩ => by cases h; exact hf⟩

theorem map_eq_ok {ε α β : Type} {x : Except ε α} {f : α → β} {b : β} :
    x.map f = .ok b ↔ ∃ a, x = .ok a ∧ f a = b := by
  cases x with
  | error e => exact ⟨nofun, fun ⟨_, h, _⟩ => nomatch h⟩
  | ok a => simp [Except.map]

theorem mapError_eq_ok {ε δ α : Type} {x : Except ε α} {f : ε → δ} {a : α} : x.mapError f = .ok a ↔ x = .ok a := by
  cases x <;> simp [Except.mapError]

theorem representable_of_readNumber {s rest : List Char} {n : Number} (h : readNumber s = .ok (n, rest)) :
    n.Representable := by
  unfold readNumber at h
  obtain ⟨⟨numeral, s'⟩, -, h⟩ := bind_eq_ok.mp h
  dsimp only at h
  split at h
  · next hnumber =>
    cases h
    exact Numeral.representable hnumber
  · nomatch h

theorem representable_of_readScalar {s rest : List Char} {v : Json} (h : readScalar s = .ok (v, rest)) :
    v.Representable := by
  unfold readScalar at h
  split at h
  · nomatch h
  · obtain ⟨_, -, heq⟩ := map_eq_ok.mp h
    cases heq
    exact .null
  · obtain ⟨_, -, heq⟩ := map_eq_ok.mp h
    cases heq
    exact .bool true
  · obtain ⟨_, -, heq⟩ := map_eq_ok.mp h
    cases heq
    exact .bool false
  · obtain ⟨⟨t, _⟩, -, heq⟩ := map_eq_ok.mp h
    cases heq
    exact .str t
  · split at h
    · obtain ⟨⟨n, _⟩, hn, heq⟩ := map_eq_ok.mp h
      cases heq
      exact .num (representable_of_readNumber hn)
    · nomatch h

theorem mem_of_mem_set {k : String} {v : Json} {fs : Fields} {f : String × Json} (h : f ∈ fs.set k v) :
    f ∈ fs ∨ f = (k, v) := by
  induction fs with
  | nil => exact .inr (List.mem_singleton.mp h)
  | cons g fs ih =>
    obtain ⟨n, u⟩ := g
    rw [Fields.set] at h
    split at h
    · next hn =>
      rcases List.mem_cons.mp h with heq | h
      · exact .inr (hn ▸ heq)
      · exact .inl (List.mem_cons_of_mem _ h)
    · rcases List.mem_cons.mp h with heq | h
      · exact .inl (heq ▸ List.mem_cons_self)
      · exact (ih h).imp_left (List.mem_cons_of_mem _)

/-- What a call of the reader with this much fuel leaves holds integers and 64-bit floats. -/
structure Reads (fuel : Nat) : Prop where
  value : ∀ {depth s v rest}, readValue fuel depth s = .ok (v, rest) → v.Representable
  items : ∀ {depth first taken s items rest}, (∀ v ∈ taken, v.Representable) →
    readItems fuel depth first taken s = .ok (items, rest) → ∀ v ∈ items, v.Representable
  fields : ∀ {depth first taken s fields rest}, (∀ f ∈ taken, f.2.Representable) →
    readFields fuel depth first taken s = .ok (fields, rest) → ∀ f ∈ fields, f.2.Representable

theorem reads (fuel : Nat) : Reads fuel := by
  induction fuel with
  | zero => exact ⟨nofun, fun _ => nofun, fun _ => nofun⟩
  | succ fuel ih =>
    constructor
    · intro depth s v rest h
      unfold readValue at h
      split at h
      · split at h
        · nomatch h
        · obtain ⟨⟨items, _⟩, hitems, heq⟩ := map_eq_ok.mp h
          cases heq
          exact .arr (ih.items (List.forall_mem_nil _) hitems)
      · split at h
        · nomatch h
        · obtain ⟨⟨fields, _⟩, hfields, heq⟩ := map_eq_ok.mp h
          cases heq
          exact .obj (ih.fields (List.forall_mem_nil _) hfields)
      · exact representable_of_readScalar h
    · intro depth first taken s items rest htaken h
      rw [readItems] at h
      obtain ⟨next, -, h⟩ := bind_eq_ok.mp h
      cases next with
      | none =>
        cases h
        exact fun v hv => htaken v (List.mem_reverse.mp hv)
      | some t =>
        obtain ⟨⟨v, _⟩, hv, h⟩ := bind_eq_ok.mp h
        exact ih.items (List.forall_mem_cons.mpr ⟨ih.value hv, htaken⟩) h
    · intro depth first taken s fields rest htaken h
      rw [readFields] at h
      obtain ⟨next, -, h⟩ := bind_eq_ok.mp h
      cases next with
      | none =>
        cases h
        exact htaken
      | some t =>
        obtain ⟨⟨k, _⟩, -, h⟩ := bind_eq_ok.mp h
        obtain ⟨_, -, h⟩ := bind_eq_ok.mp h
        obtain ⟨⟨v, _⟩, hv, h⟩ := bind_eq_ok.mp h
        refine ih.fields (fun f hf => ?_) h
        rcases mem_of_mem_set hf with hf | rfl
        · exact htaken f hf
        · exact ih.value hv

/-- Texts that are read stand for values of integers and 64-bit floats. -/
theorem representable_of_readChars {s : List Char} {v : Json} (h : readChars s = .ok v) : v.Representable := by
  unfold readChars at h
  obtain ⟨⟨w, rest⟩, hw, h⟩ := bind_eq_ok.mp h
  obtain ⟨_, -, h⟩ := bind_eq_ok.mp h
  cases h
  exact (reads _).value hw

/-- So do operands, which may be bare texts. -/
theorem representable_ofLiteral (s : List Char) : (ofLiteral s).Representable := by
  unfold ofLiteral
  split
  · next h => exact representable_of_readChars h
  · exact .str _

end Json

end Runbook
