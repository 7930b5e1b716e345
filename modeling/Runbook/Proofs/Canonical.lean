import Mathlib.Data.List.Sort
import Mathlib.Data.String.Basic
import Runbook.Digest.Canonical
import Runbook.Proofs.Decimals
import Runbook.Proofs.Quotes
import Runbook.Proofs.Reordered

/-!
# Canonical texts

The canonical text of a value shows all of it but the order of fields: texts of values end where the value does, so lists
and objects can be taken apart at their commas.

* `commas_append_inj` : texts with commas between them can be taken apart, if each of them ends by itself;
* `ordered_eq_iff` : the fields in the order of their names tell which text each name has;
* `endsItself` : the canonical text of a value ends by itself;
* `canonical_eq_iff` : values have one canonical text just if they agree but for the order of fields.
-/

namespace Runbook.Json

/-! ## Fields in the order of their names -/

section Ordered

variable {fs gs : Fields} {seen : List String}

theorem orderFields_eq (fs : List (String × List Char)) :
    orderFields fs = fs.insertionSort fun f g => f.1 ≤ g.1 := by
  have hinsert (f : String × List Char) (gs : List (String × List Char)) :
      insertField f gs = gs.orderedInsert (fun f g => f.1 ≤ g.1) f := by
    induction gs with
    | nil => rfl
    | cons g gs ih => rw [insertField, List.orderedInsert_cons, ih]
  induction fs with
  | nil => rfl
  | cons f fs ih => rw [orderFields, List.foldr_cons, ← orderFields, ih, hinsert, List.insertionSort_cons]

/-- The texts of the fields of an object in the order of their names. -/
def ordered (fs : Fields) : List (String × List Char) := orderFields (canonicalFields [] fs)

theorem mem_canonicalFields {f : String × List Char} :
    f ∈ canonicalFields seen fs ↔ f.1 ∉ seen ∧ (fs.get? f.1).map canonical = some f.2 := by
  induction fs generalizing seen with
  | nil => simp [canonicalFields, Fields.get?]
  | cons g fs ih =>
    obtain ⟨n, v⟩ := g
    obtain ⟨k, t⟩ := f
    rw [canonicalFields, Fields.get?]
    by_cases hn : n ∈ seen
    · have hne (hk : k ∉ seen) : n ≠ k := fun h => hk (h ▸ hn)
      rw [if_pos hn, ih]
      exact and_congr_right fun hk => by rw [if_neg (hne hk)]
    · rw [if_neg hn, List.mem_cons, ih, Prod.mk.injEq]
      by_cases hk : n = k
      · subst hk
        simp [hn, eq_comm]
      · simp [hk, Ne.symm hk]

/-- No name occurs twice. -/
theorem pairwise_canonicalFields (seen : List String) (fs : Fields) :
    (canonicalFields seen fs).Pairwise fun f g => f.1 ≠ g.1 := by
  induction fs generalizing seen with
  | nil => exact .nil
  | cons f fs ih =>
    obtain ⟨n, v⟩ := f
    rw [canonicalFields]
    split
    · exact ih seen
    · refine List.pairwise_cons.mpr ⟨fun g hg => ?_, ih (n :: seen)⟩
      exact (List.ne_of_not_mem_cons (mem_canonicalFields.mp hg).1).symm

theorem mem_ordered {f : String × List Char} : f ∈ ordered fs ↔ (fs.get? f.1).map canonical = some f.2 := by
  rw [ordered, orderFields_eq, List.mem_insertionSort, mem_canonicalFields, and_iff_right List.not_mem_nil]

theorem pairwise_ordered (fs : Fields) : (ordered fs).Pairwise fun f g => f.1 < g.1 := by
  have hsorted : (ordered fs).Pairwise fun f g => f.1 ≤ g.1 := by
    rw [ordered, orderFields_eq]
    have : Std.Total fun f g : String × List Char => f.1 ≤ g.1 := ⟨fun f g => le_total f.1 g.1⟩
    have : IsTrans (String × List Char) fun f g => f.1 ≤ g.1 := ⟨fun f g h => le_trans⟩
    exact List.pairwise_insertionSort _ _
  have hnames : (ordered fs).Pairwise fun f g => f.1 ≠ g.1 := by
    rw [ordered, orderFields_eq]
    exact ((List.perm_insertionSort _ _).pairwise_iff fun h => h.symm).mpr (pairwise_canonicalFields [] fs)
  exact (hsorted.and hnames).imp fun h => lt_of_le_of_ne h.1 h.2

/-- The ordered fields tell which text each name has, and nothing else. -/
theorem ordered_eq_iff : ordered fs = ordered gs ↔
    ∀ k, Option.Rel (fun v w => v.canonical = w.canonical) (fs.get? k) (gs.get? k) := by
  have hrel (k : String) : Option.Rel (fun v w => v.canonical = w.canonical) (fs.get? k) (gs.get? k) ↔
      (fs.get? k).map canonical = (gs.get? k).map canonical := by
    cases fs.get? k <;> cases gs.get? k <;> simp
  simp only [hrel]
  constructor
  · intro h k
    refine Option.ext fun t => ?_
    rw [← mem_ordered (f := (k, t)), h, mem_ordered]
  · intro h
    have : Std.Antisymm fun f g : String × List Char => f.1 < g.1 := ⟨fun f g hlt hgt => absurd hgt hlt.asymm⟩
    have : Std.Irrefl fun f g : String × List Char => f.1 < g.1 := ⟨fun f => lt_irrefl f.1⟩
    exact (pairwise_ordered fs).eq_of_mem_iff (pairwise_ordered gs) fun f => by rw [mem_ordered, mem_ordered, h]

end Ordered

/-! ## Texts that end by themselves -/

/-- A text does not go on with the value before it. -/
def EndsValue (rest : List Char) : Prop := ∀ c ∈ rest.head?, c = ',' ∨ c = ']' ∨ c = '\x7d'

/-- A text starts as an item or a field, and not as the end of a list or an object. -/
def StartsItem (t : List Char) : Prop := ∃ c s, t = c :: s ∧ c ≠ ']' ∧ c ≠ '\x7d'

/-- Texts of two lists are told apart, or are one text, by what they start. -/
def Splits (ts us : List (List Char)) : Prop :=
  ∀ t ∈ ts, ∀ u ∈ us, ∀ r r', EndsValue r → EndsValue r' → t ++ r = u ++ r' → t = u ∧ r = r'

section Commas

variable {ts us : List (List Char)} {closing : Char} {r r' : List Char}

/-- What follows an item of a list that is closed by a bracket. -/
def afterItem (closing : Char) (r : List Char) : List (List Char) → List Char
  | [] => closing :: r
  | ts => ',' :: commas ts ++ closing :: r

theorem commas_cons (t : List Char) (ts : List (List Char)) :
    commas (t :: ts) ++ closing :: r = t ++ afterItem closing r ts := by
  cases ts with
  | nil => rfl
  | cons u us => simp [commas, afterItem]

theorem endsValue_afterItem (hclosing : closing = ']' ∨ closing = '\x7d') : EndsValue (afterItem closing r ts) := by
  intro c hc
  cases ts with
  | nil =>
    obtain rfl := Option.some.inj hc
    exact .inr hclosing
  | cons t ts =>
    obtain rfl := Option.some.inj hc
    exact .inl rfl

theorem StartsItem.append_ne {t : List Char} (h : StartsItem t) (hclosing : closing = ']' ∨ closing = '\x7d') :
    closing :: r ≠ t ++ r' := by
  obtain ⟨c, s, rfl, hlist, hobject⟩ := h
  intro heq
  have hc : closing = c := (List.cons.inj heq).1
  rcases hclosing with rfl | rfl
  · exact hlist hc.symm
  · exact hobject hc.symm

/-- Texts with commas between them are taken apart from the first on. -/
theorem commas_append_inj (hclosing : closing = ']' ∨ closing = '\x7d') (hsplit : Splits ts us)
    (hts : ∀ t ∈ ts, StartsItem t) (hus : ∀ u ∈ us, StartsItem u)
    (h : commas ts ++ closing :: r = commas us ++ closing :: r') : ts = us ∧ r = r' := by
  have hcomma : closing ≠ ',' := by rcases hclosing with rfl | rfl <;> decide
  induction ts generalizing us with
  | nil =>
    cases us with
    | nil => exact ⟨rfl, (List.cons.inj h).2⟩
    | cons u us =>
      rw [commas_cons] at h
      exact absurd h ((hus u List.mem_cons_self).append_ne hclosing)
  | cons t ts ih =>
    rw [commas_cons] at h
    cases us with
    | nil => exact absurd h.symm ((hts t List.mem_cons_self).append_ne hclosing)
    | cons u us =>
      rw [commas_cons] at h
      obtain ⟨rfl, hrest⟩ := hsplit t List.mem_cons_self u List.mem_cons_self _ _ (endsValue_afterItem hclosing)
        (endsValue_afterItem hclosing) h
      cases ts <;> cases us
      · exact ⟨rfl, (List.cons.inj hrest).2⟩
      · exact absurd (List.cons.inj hrest).1 hcomma
      · exact absurd (List.cons.inj hrest).1.symm hcomma
      · obtain ⟨heq, hr⟩ := ih (fun t ht u hu => hsplit t (List.mem_cons_of_mem _ ht) u (List.mem_cons_of_mem _ hu))
          (fun t ht => hts t (List.mem_cons_of_mem _ ht)) (fun u hu => hus u (List.mem_cons_of_mem _ hu))
          (List.cons.inj hrest).2
        exact ⟨by rw [heq], hr⟩

end Commas

/-! ## The first character -/

/-- The kind of the values whose text starts with a character. -/
def kindOf (c : Char) : String :=
  match c with
  | 'n' => "null"
  | 't' | 'f' => "boolean"
  | '"' => "string"
  | '[' => "array"
  | '\x7b' => "object"
  | _ => "number"

theorem StartsNumber.kindOf {c : Char} (h : StartsNumber c) : kindOf c = "number" := by
  unfold Json.kindOf
  split
  · exact absurd rfl (h.ne (by decide))
  · exact absurd rfl (h.ne (by decide))
  · exact absurd rfl (h.ne (by decide))
  · exact absurd rfl (h.ne (by decide))
  · exact absurd rfl (h.ne (by decide))
  · exact absurd rfl (h.ne (by decide))
  · rfl

theorem Numeral.exists_start {n : Numeral} (h : n.IsWritten) : ∃ c s, n.chars = c :: s ∧ StartsNumber c := by
  obtain ⟨negative, whole, fraction, power⟩ := n
  obtain ⟨c, ds, hcons⟩ := List.exists_cons_of_ne_nil h.whole.1.1
  have hdigit : c.isDigit = true := h.whole.1.2 c (by rw [hcons]; exact List.mem_cons_self)
  dsimp only at hcons
  subst hcons
  cases negative with
  | true => exact ⟨'-', _, rfl, .inl rfl⟩
  | false => exact ⟨c, _, rfl, .inr hdigit⟩

theorem exists_opening {v : Json} (hv : v.Representable) :
    ∃ c s, v.canonical = c :: s ∧ kindOf c = v.kindName ∧ c ≠ ']' ∧ c ≠ '\x7d' := by
  cases v with
  | null => exact ⟨'n', _, rfl, rfl, by decide, by decide⟩
  | bool b =>
    cases b with
    | true => exact ⟨'t', _, rfl, rfl, by decide, by decide⟩
    | false => exact ⟨'f', _, rfl, rfl, by decide, by decide⟩
  | num n =>
    cases hv with
    | num hn =>
      obtain ⟨c, s, hcons, hc⟩ := Numeral.exists_start (Number.isWritten_numeral hn)
      exact ⟨c, s, n.chars_eq.trans hcons, hc.kindOf, hc.ne (by decide), hc.ne (by decide)⟩
  | str s => exact ⟨'"', _, rfl, rfl, by decide, by decide⟩
  | arr items => exact ⟨'[', _, rfl, rfl, by decide, by decide⟩
  | obj fields => exact ⟨'\x7b', _, rfl, rfl, by decide, by decide⟩

theorem startsItem_canonical {v : Json} (hv : v.Representable) : StartsItem v.canonical := by
  obtain ⟨c, s, hcons, -, hlist, hobject⟩ := exists_opening hv
  exact ⟨c, s, hcons, hlist, hobject⟩

theorem startsItem_fieldText (f : String × List Char) : StartsItem (fieldText f) :=
  ⟨'"', _, rfl, by decide, by decide⟩

/-- Two values of one kind. -/
inductive SameKind : Json → Json → Prop where
  | null : SameKind .null .null
  | bool (b c : Bool) : SameKind (.bool b) (.bool c)
  | num (m n : Number) : SameKind (.num m) (.num n)
  | str (s t : String) : SameKind (.str s) (.str t)
  | arr (xs ys : List Json) : SameKind (.arr xs) (.arr ys)
  | obj (fs gs : Fields) : SameKind (.obj fs) (.obj gs)

theorem sameKind_of_kindName {v w : Json} (h : v.kindName = w.kindName) : SameKind v w := by
  cases v <;> cases w <;> first | constructor | simp [kindName] at h

/-- Texts that start alike are those of values of one kind. -/
theorem sameKind_of_append {v w : Json} (hv : v.Representable) (hw : w.Representable) {r r' : List Char}
    (h : v.canonical ++ r = w.canonical ++ r') : SameKind v w := by
  obtain ⟨c, s, hc, hkind, -⟩ := exists_opening hv
  obtain ⟨d, t, hd, hkind', -⟩ := exists_opening hw
  rw [hc, hd] at h
  exact sameKind_of_kindName (by rw [← hkind, ← hkind', (List.cons.inj h).1])

/-! ## Values -/

/-- The canonical text of a value ends by itself: where another value is written as its text goes on, it has that text. -/
def EndsItself (v : Json) : Prop :=
  ∀ w : Json, w.Representable → ∀ r r', EndsValue r → EndsValue r' → v.canonical ++ r = w.canonical ++ r' →
    v.canonical = w.canonical ∧ r = r'

theorem EndsValue.endsNumeral {r : List Char} (h : EndsValue r) : EndsNumeral r := by
  intro c hc
  rcases h c hc with rfl | rfl | rfl <;> decide

theorem canonicalItems_eq (items : List Json) : canonicalItems items = items.map canonical := by
  induction items with
  | nil => rfl
  | cons v items ih => rw [canonicalItems, ih, List.map_cons]

theorem fieldText_append_inj {f g : String × List Char} {r r' : List Char} (h : fieldText f ++ r = fieldText g ++ r') :
    f.1 = g.1 ∧ f.2 ++ r = g.2 ++ r' := by
  rw [fieldText, fieldText, List.append_assoc, List.append_assoc] at h
  obtain ⟨hname, hrest⟩ := stringChars_append_inj h
  exact ⟨hname, (List.cons.inj hrest).2⟩

theorem fieldText_injective : Function.Injective fieldText := by
  intro f g h
  obtain ⟨hname, htext⟩ := fieldText_append_inj (congrArg (· ++ []) h)
  exact Prod.ext hname (List.append_cancel_right htext)

section Brackets

variable {xs ys : List Json} {fs gs : Fields} {r r' : List Char}

/-- A list can be taken apart, if its items end by themselves. -/
theorem arr_append_inj (h : ∀ v ∈ xs, EndsItself v) (hxs : (arr xs).Representable) (hys : (arr ys).Representable)
    (heq : (arr xs).canonical ++ r = (arr ys).canonical ++ r') : xs.map canonical = ys.map canonical ∧ r = r' := by
  cases hxs with | arr hxs =>
  cases hys with | arr hys =>
  rw [canonical, canonical, canonicalItems_eq, canonicalItems_eq] at heq
  have hcommas : commas (xs.map canonical) ++ ']' :: r = commas (ys.map canonical) ++ ']' :: r' := by simpa using heq
  refine commas_append_inj (.inl rfl) (fun t ht u hu r r' hr hr' heq => ?_) (fun t ht => ?_) (fun u hu => ?_) hcommas
  · obtain ⟨v, hv, rfl⟩ := List.mem_map.mp ht
    obtain ⟨w, hw, rfl⟩ := List.mem_map.mp hu
    exact h v hv w (hys w hw) r r' hr hr' heq
  · obtain ⟨v, hv, rfl⟩ := List.mem_map.mp ht
    exact startsItem_canonical (hxs v hv)
  · obtain ⟨w, hw, rfl⟩ := List.mem_map.mp hu
    exact startsItem_canonical (hys w hw)

/-- The texts of ordered fields are those of fields. -/
theorem exists_field {f : String × List Char} (h : f ∈ ordered fs) : ∃ g ∈ fs, g.2.canonical = f.2 := by
  obtain ⟨v, hv, htext⟩ := Option.map_eq_some_iff.mp (mem_ordered.mp h)
  exact ⟨(f.1, v), Fields.mem_of_get? hv, htext⟩

/-- An object can be taken apart, if the values of its fields end by themselves. -/
theorem obj_append_inj (h : ∀ f ∈ fs, EndsItself f.2) (hgs : (obj gs).Representable)
    (heq : (obj fs).canonical ++ r = (obj gs).canonical ++ r') : ordered fs = ordered gs ∧ r = r' := by
  cases hgs with | obj hgs =>
  rw [canonical, canonical, ← ordered, ← ordered] at heq
  have hcommas : commas ((ordered fs).map fieldText) ++ '\x7d' :: r =
      commas ((ordered gs).map fieldText) ++ '\x7d' :: r' := by simpa using heq
  have hinj := commas_append_inj (.inr rfl) (fun t ht u hu r r' hr hr' heq => ?_) (fun t ht => ?_) (fun u hu => ?_) hcommas
  · exact ⟨List.map_injective_iff.mpr fieldText_injective hinj.1, hinj.2⟩
  · obtain ⟨f, hf, rfl⟩ := List.mem_map.mp ht
    obtain ⟨g, hg, rfl⟩ := List.mem_map.mp hu
    obtain ⟨hname, htext⟩ := fieldText_append_inj heq
    obtain ⟨f', hf', hcanonical⟩ := exists_field hf
    obtain ⟨g', hg', hcanonical'⟩ := exists_field hg
    rw [← hcanonical, ← hcanonical'] at htext
    obtain ⟨hvalue, hrest⟩ := h f' hf' g'.2 (hgs g' hg') r r' hr hr' htext
    exact ⟨congrArg fieldText (Prod.ext hname (by rw [← hcanonical, ← hcanonical', hvalue])), hrest⟩
  · obtain ⟨f, -, rfl⟩ := List.mem_map.mp ht
    exact startsItem_fieldText f
  · obtain ⟨g, -, rfl⟩ := List.mem_map.mp hu
    exact startsItem_fieldText g

end Brackets

/-- The canonical text of every value ends by itself. -/
theorem endsItself {v : Json} (hv : v.Representable) : v.EndsItself := by
  induction v using induct with
  | null =>
    intro w hw r r' _ _ h
    cases sameKind_of_append hv hw h
    exact ⟨rfl, List.append_cancel_left h⟩
  | bool b =>
    intro w hw r r' _ _ h
    cases sameKind_of_append hv hw h with | bool b c =>
    cases b <;> cases c
    · exact ⟨rfl, List.append_cancel_left h⟩
    · exact absurd (List.cons.inj h).1 (by decide)
    · exact absurd (List.cons.inj h).1 (by decide)
    · exact ⟨rfl, List.append_cancel_left h⟩
  | num m =>
    intro w hw r r' hr hr' h
    cases sameKind_of_append hv hw h with | num m n =>
    cases hv with | num hm =>
    cases hw with | num hn =>
    obtain ⟨rfl, hrest⟩ := Number.chars_append_inj hm hn hr.endsNumeral hr'.endsNumeral h
    exact ⟨rfl, hrest⟩
  | str s =>
    intro w hw r r' _ _ h
    cases sameKind_of_append hv hw h with | str s t =>
    obtain ⟨rfl, hrest⟩ := stringChars_append_inj h
    exact ⟨rfl, hrest⟩
  | arr xs ih =>
    intro w hw r r' _ _ h
    cases sameKind_of_append hv hw h with | arr xs ys =>
    have hxs : ∀ v ∈ xs, v.Representable := by cases hv with | arr h => exact h
    obtain ⟨hitems, hrest⟩ := arr_append_inj (fun v hmem => ih v hmem (hxs v hmem)) hv hw h
    rw [canonical, canonical, canonicalItems_eq, canonicalItems_eq, hitems]
    exact ⟨rfl, hrest⟩
  | obj fs ih =>
    intro w hw r r' _ _ h
    cases sameKind_of_append hv hw h with | obj fs gs =>
    have hfs : ∀ f ∈ fs, f.2.Representable := by cases hv with | obj h => exact h
    obtain ⟨hfields, hrest⟩ := obj_append_inj (fun f hmem => ih f hmem (hfs f hmem)) hw h
    rw [canonical, canonical, ← ordered, ← ordered, hfields]
    exact ⟨rfl, hrest⟩

/-! ## Values up to the order of fields -/

theorem map_canonical_eq_iff {xs ys : List Json} :
    xs.map canonical = ys.map canonical ↔ List.Forall₂ (fun v w => v.canonical = w.canonical) xs ys := by
  have heq : List.Forall₂ Eq (xs.map canonical) (ys.map canonical) = (xs.map canonical = ys.map canonical) :=
    congrFun (congrFun List.forall₂_eq_eq_eq _) _
  rw [← heq, List.forall₂_map_left_iff, List.forall₂_map_right_iff]

variable {a b : Json}

/-- The order of fields does not show in the canonical text. -/
theorem Reordered.canonical_eq (h : a.Reordered b) : a.canonical = b.canonical := by
  induction a using induct generalizing b with
  | null =>
    cases h
    rfl
  | bool x =>
    cases h
    rfl
  | num m =>
    cases h with | num h =>
    rw [h]
  | str s =>
    cases h
    rfl
  | arr xs ih =>
    cases h with | arr h =>
    rw [canonical, canonical, canonicalItems_eq, canonicalItems_eq,
      map_canonical_eq_iff.mpr (forall₂_imp (fun v hv w _ => ih v hv) h)]
  | obj fs ih =>
    cases h with | obj h =>
    rw [canonical, canonical, ← ordered, ← ordered, ordered_eq_iff.mpr fun k => rel_imp (fun v hv w _ heq => ?_) (h k)]
    obtain ⟨f, hf, rfl⟩ := mem_fields hv
    exact ih f hf heq

/-- All but the order of fields shows in the canonical text. -/
theorem reordered_of_canonical_eq (ha : a.Representable) (hb : b.Representable) (h : a.canonical = b.canonical) :
    a.Reordered b := by
  have hends : EndsNumeral [] := nofun
  induction a using induct generalizing b with
  | null =>
    cases sameKind_of_append ha hb (congrArg (· ++ []) h)
    exact .null
  | bool x =>
    cases sameKind_of_append ha hb (congrArg (· ++ []) h) with | bool x y =>
    cases x <;> cases y
    · exact .bool false
    · exact absurd (List.cons.inj h).1 (by decide)
    · exact absurd (List.cons.inj h).1 (by decide)
    · exact .bool true
  | num m =>
    cases sameKind_of_append ha hb (congrArg (· ++ []) h) with | num m n =>
    cases ha with | num hm =>
    cases hb with | num hn =>
    exact .num (Number.chars_append_inj hm hn hends hends (congrArg (· ++ []) h)).1
  | str s =>
    cases sameKind_of_append ha hb (congrArg (· ++ []) h) with | str s t =>
    obtain ⟨rfl, -⟩ := stringChars_append_inj (congrArg (· ++ []) h)
    exact .str s
  | arr xs ih =>
    cases sameKind_of_append ha hb (congrArg (· ++ []) h) with | arr xs ys =>
    have hxs : ∀ v ∈ xs, v.Representable := by cases ha with | arr h => exact h
    have hys : ∀ w ∈ ys, w.Representable := by cases hb with | arr h => exact h
    obtain ⟨hitems, -⟩ := arr_append_inj (fun v hv => endsItself (hxs v hv)) ha hb (congrArg (· ++ []) h)
    exact .arr (forall₂_imp (fun v hv w hw => ih v hv (hxs v hv) (hys w hw)) (map_canonical_eq_iff.mp hitems))
  | obj fs ih =>
    cases sameKind_of_append ha hb (congrArg (· ++ []) h) with | obj fs gs =>
    have hfs : ∀ f ∈ fs, f.2.Representable := by cases ha with | obj h => exact h
    have hgs : ∀ g ∈ gs, g.2.Representable := by cases hb with | obj h => exact h
    obtain ⟨hfields, -⟩ := obj_append_inj (fun f hf => endsItself (hfs f hf)) hb (congrArg (· ++ []) h)
    refine .obj fun k => rel_imp (fun v hv w hw heq => ?_) (ordered_eq_iff.mp hfields k)
    obtain ⟨f, hf, rfl⟩ := mem_fields hv
    obtain ⟨g, hg, rfl⟩ := mem_fields hw
    exact ih f hf (hfs f hf) (hgs g hg) heq

/-- **Canonical texts are unambiguous.** Two values have one canonical text just if they agree but for the order of the
fields in their objects. -/
theorem canonical_eq_iff (ha : a.Representable) (hb : b.Representable) : a.canonical = b.canonical ↔ a.Reordered b :=
  ⟨reordered_of_canonical_eq ha hb, Reordered.canonical_eq⟩

/-- The second value has the fields in another order, at two depths; the third has a zero with another sign. Names and
strings hold what stands between fields and items. -/
theorem canonical_eq_swapped :
    let inner (first second : String × Json) : Json := .obj [first, second]
    let item (negative : Bool) : Json := .arr [.str "],\"", .num (.float ⟨negative, 0⟩)]
    let a : Json := .obj [("k\"", item true), ("a", inner ("y", .num (.int 0)) ("x", .null))]
    let b : Json := .obj [("a", inner ("x", .null) ("y", .num (.int 0))), ("k\"", item true)]
    let c : Json := .obj [("k\"", item false), ("a", inner ("y", .num (.int 0)) ("x", .null))]
    a.Representable ∧ b.Representable ∧ c.Representable ∧ a.canonical = b.canonical ∧ a.Reordered b ∧
      a.canonical ≠ c.canonical ∧ ¬ a.Reordered c := by
  intro inner item a b c
  have hint : (num (.int 0)).Representable := .num trivial
  have hitem (negative : Bool) : (item negative).Representable :=
    .arr (List.forall_mem_cons.mpr
      ⟨.str _, List.forall_mem_singleton.mpr (.num (Binary64.representable_zero negative))⟩)
  have hpair {f g : String × Json} (hf : f.2.Representable) (hg : g.2.Representable) : (inner f g).Representable :=
    .obj (List.forall_mem_cons.mpr ⟨hf, List.forall_mem_singleton.mpr hg⟩)
  have ha : a.Representable := hpair (hitem true) (hpair hint .null)
  have hb : b.Representable := hpair (hpair .null hint) (hitem true)
  have hc : c.Representable := hpair (hitem false) (hpair hint .null)
  have hab : a.canonical = b.canonical := by decide
  have hac : a.canonical ≠ c.canonical := by decide
  exact ⟨ha, hb, hc, hab, (canonical_eq_iff ha hb).mp hab, hac, fun h => hac ((canonical_eq_iff ha hc).mpr h)⟩

end Runbook.Json
