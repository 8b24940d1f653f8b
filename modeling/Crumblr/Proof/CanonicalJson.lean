import Crumblr.Domain.Hashing
import Crumblr.Proof.IsoText
import Crumblr.Proof.JsonText

/-!
# When two values have one encoding

The encoding of a value is a JSON text, and a text determines the JSON value it is of; so two
values have one encoding when they are reduced to one JSON value. Where both are of one shape that
means: they agree at every leaf, and a decimal counts as what the working precision makes of it,
with its sign.
-/

namespace Crumblr.Hashing

open Json

/-! ## Shapes -/

/--
The two have the same type wherever both have a value. The keys of a dictionary are distinct, and
a datetime is one at UTC.
-/
inductive SameShape : Value → Value → Prop
  | noneLeft (v : Value) : SameShape .none v
  | noneRight (v : Value) : SameShape v .none
  | str (s s' : String) : SameShape (.str s) (.str s')
  | int (n n' : Int) : SameShape (.int n) (.int n')
  | bool (b b' : Bool) : SameShape (.bool b) (.bool b')
  | decimal (d d' : SignedDecimal) : SameShape (.decimal d) (.decimal d')
  | enum (name value value' : String) : SameShape (.enum name value) (.enum name value')
  | datetime {d d' : PyDatetime} : d.IsUtc → PyDatetime.Representable d.wall → d'.IsUtc →
      PyDatetime.Representable d'.wall → SameShape (.datetime d) (.datetime d')
  | uuid (u u' : Uuid) : SameShape (.uuid u) (.uuid u')
  | seq {items items' : List Value} :
      (∀ (i : Nat) v v', items[i]? = some v → items'[i]? = some v' → SameShape v v') →
      SameShape (.seq items) (.seq items')
  | dict {fields fields' : List (String × Value)} : (fields.map Prod.fst).Nodup →
      (fields'.map Prod.fst).Nodup →
      (∀ key v v', (key, v) ∈ fields → (key, v') ∈ fields' → SameShape v v') →
      SameShape (.dict fields) (.dict fields')

/-- Equal but for the decimals, which are related; the order of a dictionary's keys does not
count. -/
inductive Agree (R : SignedDecimal → SignedDecimal → Prop) : Value → Value → Prop
  | none : Agree R .none .none
  | str (s : String) : Agree R (.str s) (.str s)
  | int (n : Int) : Agree R (.int n) (.int n)
  | bool (b : Bool) : Agree R (.bool b) (.bool b)
  | decimal {d d' : SignedDecimal} : R d d' → Agree R (.decimal d) (.decimal d')
  | enum (name value : String) : Agree R (.enum name value) (.enum name value)
  | datetime (d : PyDatetime) : Agree R (.datetime d) (.datetime d)
  | uuid (u : Uuid) : Agree R (.uuid u) (.uuid u)
  | seq {items items' : List Value} : items.length = items'.length →
      (∀ (i : Nat) v v', items[i]? = some v → items'[i]? = some v' → Agree R v v') →
      Agree R (.seq items) (.seq items')
  | dict {fields fields' : List (String × Value)} :
      (∀ key, key ∈ fields.map Prod.fst ↔ key ∈ fields'.map Prod.fst) →
      (∀ key v v', (key, v) ∈ fields → (key, v') ∈ fields' → Agree R v v') →
      Agree R (.dict fields) (.dict fields')

/-- The values are equal: decimals as numbers, whatever their scale or the sign of a zero. -/
def Equal : Value → Value → Prop := Agree fun d d' => d.value.compare d'.value = .eq

/-- One text for both. -/
def EncodedAlike (v v' : Value) : Prop :=
  ∃ text, canonicalJson v = .ok text ∧ canonicalJson v' = .ok text

/-! ## The JSON value that is written -/

/-- The JSON value of an encoding, its keys in order. -/
def form (v : Value) : Except PyError Json := (canonical v).map sortKeys

theorem canonicalItems_eq_map (items : List Value) : canonicalItems items = items.map canonical := by
  induction items with
  | nil => rfl
  | cons v items ih => rw [canonicalItems, ih, List.map_cons]

theorem canonicalFields_eq_map (fields : List (String × Value)) :
    canonicalFields fields = fields.map fun f => (f.1, canonical f.2) := by
  induction fields with
  | nil => rfl
  | cons f fields ih =>
      obtain ⟨key, v⟩ := f
      rw [canonicalFields, ih, List.map_cons]

theorem sortKeysItems_eq_map (js : List Json) : sortKeysItems js = js.map sortKeys := by
  induction js with
  | nil => rfl
  | cons j js ih => rw [sortKeysItems, ih, List.map_cons]

theorem sortKeysFields_eq_map (fields : List (String × Json)) :
    sortKeysFields fields = fields.map fun f => (f.1, sortKeys f.2) := by
  induction fields with
  | nil => rfl
  | cons f fields ih =>
      obtain ⟨key, j⟩ := f
      rw [sortKeysFields, ih, List.map_cons]

theorem map_eq_ok {α β : Type} {x : Except PyError α} {f : α → β} {b : β} :
    x.map f = .ok b ↔ ∃ a, x = .ok a ∧ f a = b := by
  cases x with
  | error e => simp [Except.map]
  | ok a => simp [Except.map]

theorem collect_eq_ok {α : Type} {xs : List (Except PyError α)} {l : List α} :
    collect xs = .ok l ↔ List.Forall₂ (fun x a => x = .ok a) xs l := by
  induction xs generalizing l with
  | nil =>
      rw [List.forall₂_nil_left_iff]
      exact ⟨fun h => (Except.ok.inj h).symm, fun h => congrArg Except.ok h.symm⟩
  | cons x xs ih =>
      rw [List.forall₂_cons_left_iff]
      constructor
      · intro h
        obtain ⟨a, ha, h⟩ := bind_ok h
        obtain ⟨rest, hrest, h⟩ := bind_ok h
        exact ⟨a, rest, ha, ih.mp hrest, (Except.ok.inj h).symm⟩
      · rintro ⟨a, rest, ha, hrest, rfl⟩
        rw [collect, ha, ih.mpr hrest]
        rfl

/-- The fields of a dictionary in the order of their keys. -/
def sortFields {α : Type} (fields : List (String × α)) : List (String × α) :=
  fields.insertionSort fun f g => f.1 ≤ g.1

theorem sortFields_map {α β : Type} (fields : List (String × α)) (f : α → β) :
    sortFields (fields.map fun g => (g.1, f g.2)) = (sortFields fields).map fun g => (g.1, f g.2) :=
  (List.map_insertionSort (r := fun f g : String × α => f.1 ≤ g.1)
    (s := fun f g : String × β => f.1 ≤ g.1) (fun g => (g.1, f g.2)) fields
    fun _ _ _ _ => Iff.rfl).symm

/-- Related through a function is related to what the function is applied to. -/
theorem forall₂_through {α β γ : Type} {P : α → β → Prop} {f : β → γ} {l : List α} {l' : List γ} :
    List.Forall₂ (fun a c => ∃ b, P a b ∧ f b = c) l l' ↔ ∃ m, List.Forall₂ P l m ∧ m.map f = l' := by
  constructor
  · intro h
    induction h with
    | nil => exact ⟨[], .nil, rfl⟩
    | cons h _ ih =>
        obtain ⟨b, hb, rfl⟩ := h
        obtain ⟨m, hm, rfl⟩ := ih
        exact ⟨b :: m, .cons hb hm, rfl⟩
  · rintro ⟨m, hm, rfl⟩
    rw [List.forall₂_map_right_iff]
    exact hm.imp fun a b h => ⟨b, h, rfl⟩

/-- The form of a sequence is a list of the forms of its items. -/
theorem form_seq_eq_ok {items : List Value} {j : Json} : form (.seq items) = .ok j
    ↔ ∃ js, j = .list js ∧ List.Forall₂ (fun v a => form v = .ok a) items js := by
  have hcanonical : canonical (.seq items) = (collect (items.map canonical)).map Json.list := by
    rw [canonical, canonicalItems_eq_map]
    cases collect (items.map canonical) with
    | error e => rfl
    | ok js => rfl
  have hforms : ∀ js, List.Forall₂ (fun v a => form v = .ok a) items js
      ↔ ∃ raw, collect (items.map canonical) = .ok raw ∧ raw.map sortKeys = js := by
    intro js
    simp only [form, map_eq_ok, collect_eq_ok, List.forall₂_map_left_iff]
    exact forall₂_through
  unfold form at hforms ⊢
  rw [hcanonical, map_eq_ok]
  constructor
  · rintro ⟨a, ha, rfl⟩
    obtain ⟨raw, hraw, rfl⟩ := map_eq_ok.mp ha
    exact ⟨raw.map sortKeys, by rw [sortKeys, sortKeysItems_eq_map],
      (hforms _).mpr ⟨raw, hraw, rfl⟩⟩
  · rintro ⟨js, rfl, hall⟩
    obtain ⟨raw, hraw, rfl⟩ := (hforms _).mp hall
    exact ⟨.list raw, map_eq_ok.mpr ⟨raw, hraw, rfl⟩, by rw [sortKeys, sortKeysItems_eq_map]⟩

theorem field_eq_ok {key : String} {x : Except PyError Json} {g : String × Json} :
    field (key, x) = .ok g ↔ key = g.1 ∧ x = .ok g.2 := by
  obtain ⟨key', j⟩ := g
  cases x with
  | error e => simp [field, bind, Except.bind]
  | ok a => simp [field, bind, Except.bind]

theorem sortFields_sorted {α : Type} (fields : List (String × α)) :
    (sortFields fields).Pairwise fun f g => f.1 ≤ g.1 := by
  have htotal : Std.Total (fun f g : String × α => f.1 ≤ g.1) := ⟨fun f g => String.le_total f.1 g.1⟩
  have htrans : IsTrans (String × α) fun f g => f.1 ≤ g.1 := ⟨fun f g h => String.le_trans⟩
  exact List.pairwise_insertionSort _ _

/-- Fields under the same keys are in the same order. -/
theorem sorted_of_forall₂ {α β : Type} {P : String × α → String × β → Prop}
    (hkey : ∀ f g, P f g → f.1 = g.1) {l : List (String × α)} {l' : List (String × β)}
    (h : List.Forall₂ P l l') (hsorted : l.Pairwise fun f g => f.1 ≤ g.1) :
    l'.Pairwise fun f g => f.1 ≤ g.1 := by
  have hkeys : l.map Prod.fst = l'.map Prod.fst := by
    rw [← List.forall₂_eq_eq_eq, List.forall₂_map_left_iff, List.forall₂_map_right_iff]
    exact h.imp hkey
  have hpairwise : (l.map Prod.fst).Pairwise (· ≤ ·) := List.pairwise_map.mpr hsorted
  rw [hkeys] at hpairwise
  exact List.pairwise_map.mp hpairwise

/-- That of a dictionary is its fields in the order of their keys, each with its form. -/
theorem form_dict_eq_ok {fields : List (String × Value)} {j : Json} : form (.dict fields) = .ok j
    ↔ ∃ js, j = .obj js ∧ List.Forall₂ (fun f g => f.1 = g.1 ∧ form f.2 = .ok g.2)
      (sortFields fields) js := by
  have hcanonical : canonical (.dict fields) = (collect ((sortFields fields).map fun f =>
      field (f.1, canonical f.2))).map Json.obj := by
    have hsorted : (canonicalFields fields).insertionSort (fun f g => f.1 ≤ g.1)
        = (sortFields fields).map fun f => (f.1, canonical f.2) := by
      rw [canonicalFields_eq_map]
      exact sortFields_map fields canonical
    rw [canonical, hsorted, List.map_map]
    unfold Function.comp
    cases collect ((sortFields fields).map fun f => field (f.1, canonical f.2)) with
    | error e => rfl
    | ok js => rfl
  have hforms : ∀ js, List.Forall₂ (fun f g => f.1 = g.1 ∧ form f.2 = .ok g.2) (sortFields fields) js
      ↔ ∃ raw, collect ((sortFields fields).map fun f => field (f.1, canonical f.2)) = .ok raw
        ∧ (raw.map fun g => (g.1, sortKeys g.2)) = js := by
    intro js
    have hfield : ∀ (f : String × Value) (g : String × Json), (f.1 = g.1 ∧ form f.2 = .ok g.2)
        ↔ ∃ b, field (f.1, canonical f.2) = .ok b ∧ (b.1, sortKeys b.2) = g := by
      intro f g
      simp only [field_eq_ok, form, map_eq_ok]
      constructor
      · rintro ⟨hkey, a, ha, hsorted⟩
        exact ⟨(f.1, a), ⟨rfl, ha⟩, Prod.ext hkey hsorted⟩
      · rintro ⟨b, ⟨hkey, hb⟩, rfl⟩
        exact ⟨hkey, b.2, hb, rfl⟩
    simp only [hfield, collect_eq_ok, List.forall₂_map_left_iff]
    exact forall₂_through
  -- the keys are in order already
  have hsort : ∀ raw, collect ((sortFields fields).map fun f => field (f.1, canonical f.2)) = .ok raw →
      sortKeys (.obj raw) = .obj (raw.map fun g => (g.1, sortKeys g.2)) := by
    intro raw hraw
    rw [collect_eq_ok, List.forall₂_map_left_iff] at hraw
    have hsorted : raw.Pairwise fun f g => f.1 ≤ g.1 :=
      sorted_of_forall₂ (fun f g h => (field_eq_ok.mp h).1) hraw (sortFields_sorted fields)
    rw [sortKeys, sortKeysFields_eq_map, List.Pairwise.insertionSort_eq]
    exact List.pairwise_map.mpr hsorted
  unfold form at hforms ⊢
  rw [hcanonical, map_eq_ok]
  constructor
  · rintro ⟨a, ha, rfl⟩
    obtain ⟨raw, hraw, rfl⟩ := map_eq_ok.mp ha
    exact ⟨_, hsort raw hraw, (hforms _).mpr ⟨raw, hraw, rfl⟩⟩
  · rintro ⟨js, rfl, hall⟩
    obtain ⟨raw, hraw, rfl⟩ := (hforms _).mp hall
    exact ⟨.obj raw, map_eq_ok.mpr ⟨raw, hraw, rfl⟩, hsort raw hraw⟩

/-! ## One text, one form -/

theorem plain_of_collect {xs : List (Except PyError Json)} {js : List Json}
    (h : collect xs = .ok js) (hplain : ∀ x ∈ xs, ∀ j, x = .ok j → plain j = true) :
    plainItems js = true := by
  rw [collect_eq_ok] at h
  induction h with
  | nil => rfl
  | cons hx _ ih =>
      refine Bool.and_eq_true_iff.mpr ⟨hplain _ List.mem_cons_self _ hx, ?_⟩
      exact ih fun x hmem => hplain x (List.mem_cons_of_mem _ hmem)

theorem plain_of_collect_fields {xs : List (String × Except PyError Json)}
    {js : List (String × Json)} (h : collect (xs.map field) = .ok js)
    (hplain : ∀ x ∈ xs, ∀ j, x.2 = .ok j → plain j = true) : plainFields js = true := by
  rw [collect_eq_ok, List.forall₂_map_left_iff] at h
  induction h with
  | nil => rfl
  | cons hx _ ih =>
      refine Bool.and_eq_true_iff.mpr ⟨hplain _ List.mem_cons_self _ (field_eq_ok.mp hx).2, ?_⟩
      exact ih fun x hmem => hplain x (List.mem_cons_of_mem _ hmem)

theorem plain_canonicalDecimal {d : SignedDecimal} {j : Json} (h : canonicalDecimal d = .ok j) :
    plain j = true := by
  unfold canonicalDecimal at h
  split at h
  · cases h
    rfl
  · cases h

theorem plain_canonicalDatetime {d : PyDatetime} {j : Json} (h : canonicalDatetime d = .ok j) :
    plain j = true := by
  unfold canonicalDatetime at h
  split at h
  · cases h
  · split at h
    · cases h
      rfl
    · cases h
      rfl

mutual

/-- Every leaf of what a value is reduced to is written as what it is. -/
theorem plain_canonical : ∀ (v : Value) (j : Json), canonical v = .ok j → plain j = true
  | .none, _, h | .str _, _, h | .int _, _, h | .bool _, _, h | .enum _ _, _, h | .uuid _, _, h => by
      cases h
      rfl
  | .decimal d, j, h => plain_canonicalDecimal h
  | .datetime d, j, h => plain_canonicalDatetime h
  | .float _, _, h | .other _, _, h => by cases h
  | .seq items, j, h => by
      obtain ⟨js, hjs, h⟩ := bind_ok h
      cases h
      exact plain_of_collect hjs (plain_canonicalItems items)
  | .dict fields, j, h => by
      obtain ⟨js, hjs, h⟩ := bind_ok h
      cases h
      refine plain_of_collect_fields hjs fun x hx => plain_canonicalFields fields x ?_
      exact (List.perm_insertionSort _ _).mem_iff.mp hx

theorem plain_canonicalItems : ∀ (items : List Value), ∀ x ∈ canonicalItems items, ∀ j, x = .ok j →
    plain j = true
  | [], _, hx, _, _ => absurd hx List.not_mem_nil
  | v :: items, x, hx, j, h => by
      rcases List.mem_cons.mp hx with rfl | hx
      · exact plain_canonical v j h
      · exact plain_canonicalItems items x hx j h

theorem plain_canonicalFields : ∀ (fields : List (String × Value)), ∀ x ∈ canonicalFields fields,
    ∀ j, x.2 = .ok j → plain j = true
  | [], _, hx, _, _ => absurd hx List.not_mem_nil
  | (key, v) :: fields, x, hx, j, h => by
      rcases List.mem_cons.mp hx with rfl | hx
      · exact plain_canonical v j h
      · exact plain_canonicalFields fields x hx j h

end

/-- **Two have one text when they have one form.** -/
theorem encodedAlike_iff {v v' : Value} :
    EncodedAlike v v' ↔ ∃ j, form v = .ok j ∧ form v' = .ok j := by
  have htext : ∀ (v : Value) (text : List Char), canonicalJson v = .ok text
      ↔ ∃ j, canonical v = .ok j ∧ j.sortKeys.dumps false = text := by
    intro v text
    rw [← map_eq_ok]
    unfold canonicalJson
    cases canonical v with
    | error e => exact Iff.rfl
    | ok j => exact Iff.rfl
  unfold EncodedAlike form
  simp only [htext, map_eq_ok]
  constructor
  · rintro ⟨text, ⟨j, hj, rfl⟩, ⟨j', hj', heq⟩⟩
    have hplain := fun v j h => (plain_sortKeys j).trans (plain_canonical v j h)
    exact ⟨_, ⟨j, hj, rfl⟩, ⟨j', hj', eq_of_dumps_eq (hplain v' j' hj') (hplain v j hj) heq⟩⟩
  · rintro ⟨_, ⟨j, hj, rfl⟩, ⟨j', hj', heq⟩⟩
    exact ⟨_, ⟨j, hj, rfl⟩, ⟨j', hj', congrArg (dumps false) heq⟩⟩

/-! ## One form, the same values -/

theorem form_decimal_eq_ok {d : SignedDecimal} {j : Json} : form (.decimal d) = .ok j
    ↔ ∃ normal, d.normalize = some normal ∧ j = .str (String.ofList normal.format) := by
  unfold form
  rw [canonical, canonicalDecimal]
  cases d.normalize with
  | none => simp [Except.map]
  | some normal =>
      simp only [Except.map, sortKeys, Option.some.injEq, exists_eq_left', Except.ok.injEq]
      exact eq_comm

/-- **Decimals have one form when they round alike.** -/
theorem form_decimal_iff {d d' : SignedDecimal} :
    (∃ j, form (.decimal d) = .ok j ∧ form (.decimal d') = .ok j) ↔ d.RoundsAlike d' := by
  rw [← SignedDecimal.normalize_eq_iff]
  simp only [form_decimal_eq_ok]
  constructor
  · rintro ⟨j, ⟨normal, hnormal, rfl⟩, ⟨normal', hnormal', heq⟩⟩
    have htext : normal.format = normal'.format := String.ofList_inj.mp (Json.str.inj heq)
    obtain rfl := SignedDecimal.format_inj (SignedDecimal.normal_of_normalize hnormal)
      (SignedDecimal.normal_of_normalize hnormal') htext
    exact ⟨normal, hnormal, hnormal'⟩
  · rintro ⟨normal, hnormal, hnormal'⟩
    exact ⟨_, ⟨normal, hnormal, rfl⟩, ⟨normal, hnormal', rfl⟩⟩

theorem form_datetime {d : PyDatetime} (h : d.IsUtc) :
    form (.datetime d) = .ok (.str (isoTime d.wall)) := by
  have hoffset : d.offset = some 0 := h
  unfold form
  rw [canonical, canonicalDatetime, hoffset]
  rfl

/-- Only nothing is written as nothing. -/
theorem form_eq_null {v : Value} (h : form v = .ok .null) : v = .none := by
  cases v with
  | none => rfl
  | decimal d =>
      obtain ⟨normal, -, hnull⟩ := form_decimal_eq_ok.mp h
      cases hnull
  | datetime d =>
      unfold form at h
      rw [canonical, canonicalDatetime] at h
      split at h
      · cases h
      · split at h
        · cases h
        · cases h
  | seq items =>
      obtain ⟨js, hnull, -⟩ := form_seq_eq_ok.mp h
      cases hnull
  | dict fields =>
      obtain ⟨js, hnull, -⟩ := form_dict_eq_ok.mp h
      cases hnull
  | _ => cases h

/-- Two lists of one length that share what they are related to. -/
theorem forall₂_shared {α β γ : Type} {P : α → γ → Prop} {Q : β → γ → Prop} {l : List α}
    {l' : List β} (h : List.Forall₂ (fun a b => ∃ c, P a c ∧ Q b c) l l') :
    ∃ m, List.Forall₂ P l m ∧ List.Forall₂ Q l' m := by
  induction h with
  | nil => exact ⟨[], .nil, .nil⟩
  | cons h _ ih =>
      obtain ⟨c, hP, hQ⟩ := h
      obtain ⟨m, hm, hm'⟩ := ih
      exact ⟨c :: m, .cons hP hm, .cons hQ hm'⟩

theorem forall₂_getElem? {α β : Type} {P : α → β → Prop} {l : List α} {l' : List β}
    (h : List.Forall₂ P l l') {i : Nat} {a : α} (ha : l[i]? = some a) :
    ∃ b, l'[i]? = some b ∧ P a b := by
  induction h generalizing i with
  | nil => cases ha
  | cons h _ ih =>
      cases i with
      | zero =>
          cases ha
          exact ⟨_, rfl, h⟩
      | succ i => exact ih ha

theorem forall₂_of_getElem? {α β : Type} {P : α → β → Prop} {l : List α} {l' : List β}
    (hlength : l.length = l'.length)
    (h : ∀ (i : Nat) a b, l[i]? = some a → l'[i]? = some b → P a b) : List.Forall₂ P l l' := by
  rw [List.forall₂_iff_get]
  refine ⟨hlength, fun i hi hi' => ?_⟩
  exact h i _ _ (List.getElem?_eq_getElem hi) (List.getElem?_eq_getElem hi')

theorem form_seq_iff {R : SignedDecimal → SignedDecimal → Prop} {items items' : List Value}
    (ih : ∀ (i : Nat) v v', items[i]? = some v → items'[i]? = some v' →
      ((∃ j, form v = .ok j ∧ form v' = .ok j) ↔ Agree R v v')) :
    (∃ j, form (.seq items) = .ok j ∧ form (.seq items') = .ok j)
      ↔ Agree R (.seq items) (.seq items') := by
  simp only [form_seq_eq_ok]
  constructor
  · rintro ⟨j, ⟨js, rfl, hall⟩, ⟨js', heq, hall'⟩⟩
    obtain rfl := Json.list.inj heq
    refine .seq (hall.length_eq.trans hall'.length_eq.symm) fun i v v' hv hv' => ?_
    obtain ⟨j, hj, hform⟩ := forall₂_getElem? hall hv
    obtain ⟨j', hj', hform'⟩ := forall₂_getElem? hall' hv'
    rw [hj] at hj'
    cases hj'
    exact (ih i v v' hv hv').mp ⟨j, hform, hform'⟩
  · intro h
    cases h with
    | seq hlength hagree =>
        have hshared := forall₂_of_getElem? hlength fun i v v' hv hv' =>
          (ih i v v' hv hv').mpr (hagree i v v' hv hv')
        obtain ⟨js, hall, hall'⟩ := forall₂_shared hshared
        exact ⟨_, ⟨js, rfl, hall⟩, ⟨js, rfl, hall'⟩⟩

theorem mem_sortFields {α : Type} {fields : List (String × α)} {f : String × α} :
    f ∈ sortFields fields ↔ f ∈ fields := (List.perm_insertionSort _ _).mem_iff

theorem keys_sortFields {α : Type} (fields : List (String × α)) :
    ((sortFields fields).map Prod.fst).Perm (fields.map Prod.fst) :=
  (List.perm_insertionSort _ _).map _

/-- Of dictionaries with the same keys the keys are in the same order. -/
theorem keys_sortFields_eq {α β : Type} {fields : List (String × α)} {fields' : List (String × β)}
    (hnodup : (fields.map Prod.fst).Nodup) (hnodup' : (fields'.map Prod.fst).Nodup)
    (hkeys : ∀ key, key ∈ fields.map Prod.fst ↔ key ∈ fields'.map Prod.fst) :
    (sortFields fields).map Prod.fst = (sortFields fields').map Prod.fst := by
  have hperm : ((sortFields fields).map Prod.fst).Perm ((sortFields fields').map Prod.fst) :=
    ((keys_sortFields fields).trans
      ((List.perm_ext_iff_of_nodup hnodup hnodup').mpr hkeys)).trans (keys_sortFields fields').symm
  refine hperm.eq_of_pairwise (fun a b _ _ hab hba => String.le_antisymm hab hba)
    (List.pairwise_map.mpr (sortFields_sorted fields))
    (List.pairwise_map.mpr (sortFields_sorted fields'))

theorem form_dict_iff {R : SignedDecimal → SignedDecimal → Prop}
    {fields fields' : List (String × Value)} (hnodup : (fields.map Prod.fst).Nodup)
    (hnodup' : (fields'.map Prod.fst).Nodup)
    (ih : ∀ key v v', (key, v) ∈ fields → (key, v') ∈ fields' →
      ((∃ j, form v = .ok j ∧ form v' = .ok j) ↔ Agree R v v')) :
    (∃ j, form (.dict fields) = .ok j ∧ form (.dict fields') = .ok j)
      ↔ Agree R (.dict fields) (.dict fields') := by
  simp only [form_dict_eq_ok]
  constructor
  · rintro ⟨j, ⟨js, rfl, hall⟩, ⟨js', heq, hall'⟩⟩
    obtain rfl := Json.obj.inj heq
    have hkeysOf : ∀ {l : List (String × Value)}, List.Forall₂ (fun f g => f.1 = g.1
        ∧ form f.2 = .ok g.2) l js → l.map Prod.fst = js.map Prod.fst := by
      intro l h
      rw [← List.forall₂_eq_eq_eq, List.forall₂_map_left_iff, List.forall₂_map_right_iff]
      exact h.imp fun f g h => h.1
    have hkeys := hkeysOf hall
    have hkeys' := hkeysOf hall'
    have hunique : (js.map Prod.fst).Nodup := by
      rw [← hkeys]
      exact (keys_sortFields fields).nodup_iff.mpr hnodup
    refine .dict (fun key => ?_) fun key v v' hv hv' => ?_
    · rw [← (keys_sortFields fields).mem_iff, ← (keys_sortFields fields').mem_iff, hkeys, hkeys']
    · -- both are written as the field of their key
      obtain ⟨i, hi⟩ := List.mem_iff_getElem?.mp (mem_sortFields.mpr hv)
      obtain ⟨i', hi'⟩ := List.mem_iff_getElem?.mp (mem_sortFields.mpr hv')
      obtain ⟨g, hg, hkey, hform⟩ := forall₂_getElem? hall hi
      obtain ⟨g', hg', hkey', hform'⟩ := forall₂_getElem? hall' hi'
      have hsame : g = g' := List.inj_on_of_nodup_map hunique (List.mem_iff_getElem?.mpr ⟨i, hg⟩)
        (List.mem_iff_getElem?.mpr ⟨i', hg'⟩) (hkey.symm.trans hkey')
      subst hsame
      exact (ih key v v' hv hv').mp ⟨_, hform, hform'⟩
  · intro h
    cases h with
    | dict hkeys hagree =>
        have horder := keys_sortFields_eq hnodup hnodup' hkeys
        have hlength : (sortFields fields).length = (sortFields fields').length := by
          simpa using congrArg List.length horder
        have hshared : List.Forall₂ (fun f f' => ∃ g : String × Json,
            (f.1 = g.1 ∧ form f.2 = .ok g.2) ∧ f'.1 = g.1 ∧ form f'.2 = .ok g.2)
            (sortFields fields) (sortFields fields') := by
          refine forall₂_of_getElem? hlength fun i f f' hf hf' => ?_
          have hkey : f.1 = f'.1 := by
            have hat := congrArg (·[i]?) horder
            simpa [hf, hf'] using hat
          have hmem := mem_sortFields.mp (List.mem_iff_getElem?.mpr ⟨i, hf⟩)
          have hmem' := mem_sortFields.mp (List.mem_iff_getElem?.mpr ⟨i, hf'⟩)
          obtain ⟨key, v⟩ := f
          obtain ⟨key', v'⟩ := f'
          obtain rfl : key = key' := hkey
          obtain ⟨j, hj, hj'⟩ := (ih key v v' hmem hmem').mpr (hagree key v v' hmem hmem')
          exact ⟨(key, j), ⟨rfl, hj⟩, rfl, hj'⟩
        obtain ⟨js, hall, hall'⟩ := forall₂_shared hshared
        exact ⟨_, ⟨js, rfl, hall⟩, ⟨js, rfl, hall'⟩⟩

/-- **Values of one shape have one form when they agree and their decimals round alike.** -/
theorem form_iff {v v' : Value} (h : SameShape v v') :
    (∃ j, form v = .ok j ∧ form v' = .ok j) ↔ Agree SignedDecimal.RoundsAlike v v' := by
  have hleaf : ∀ {v v' : Value} {j j' : Json}, form v = .ok j → form v' = .ok j' →
      (j = j' ↔ Agree SignedDecimal.RoundsAlike v v') →
      ((∃ j, form v = .ok j ∧ form v' = .ok j) ↔ Agree SignedDecimal.RoundsAlike v v') := by
    intro v v' j j' hj hj' hiff
    rw [← hiff, hj, hj']
    constructor
    · rintro ⟨a, ha, ha'⟩
      exact (Except.ok.inj ha).trans (Except.ok.inj ha').symm
    · rintro rfl
      exact ⟨_, rfl, rfl⟩
  induction h with
  | noneLeft v =>
      constructor
      · rintro ⟨j, hj, hv⟩
        cases hj
        rw [form_eq_null hv]
        exact .none
      · intro hagree
        cases hagree
        exact ⟨_, rfl, rfl⟩
  | noneRight v =>
      constructor
      · rintro ⟨j, hv, hj⟩
        cases hj
        rw [form_eq_null hv]
        exact .none
      · intro hagree
        cases hagree
        exact ⟨_, rfl, rfl⟩
  | str s s' =>
      refine hleaf rfl rfl ⟨fun heq => ?_, fun hagree => ?_⟩
      · cases heq
        exact .str s
      · cases hagree
        rfl
  | int n n' =>
      refine hleaf rfl rfl ⟨fun heq => ?_, fun hagree => ?_⟩
      · cases heq
        exact .int n
      · cases hagree
        rfl
  | bool b b' =>
      refine hleaf rfl rfl ⟨fun heq => ?_, fun hagree => ?_⟩
      · cases heq
        exact .bool b
      · cases hagree
        rfl
  | decimal d d' =>
      rw [form_decimal_iff]
      refine ⟨fun halike => .decimal halike, fun hagree => ?_⟩
      cases hagree with
      | decimal halike => exact halike
  | enum name value value' =>
      refine hleaf rfl rfl ⟨fun heq => ?_, fun hagree => ?_⟩
      · cases heq
        exact .enum name value
      · cases hagree
        rfl
  | datetime hutc hyears hutc' hyears' =>
      rename_i d d'
      refine hleaf (form_datetime hutc) (form_datetime hutc') ⟨fun heq => ?_, fun hagree => ?_⟩
      · have hwall := isoTime_inj hyears hyears' (congrArg String.toList (Json.str.inj heq))
        obtain ⟨wall, offset⟩ := d
        obtain ⟨wall', offset'⟩ := d'
        obtain rfl : wall = wall' := hwall
        obtain rfl : offset = offset' := Eq.trans hutc (Eq.symm hutc')
        exact .datetime _
      · cases hagree
        rfl
  | uuid u u' =>
      refine hleaf rfl rfl ⟨fun heq => ?_, fun hagree => ?_⟩
      · obtain ⟨text⟩ := u
        obtain ⟨text'⟩ := u'
        obtain rfl : text = text' := Json.str.inj heq
        exact .uuid _
      · cases hagree
        rfl
  | seq _ ih => exact form_seq_iff ih
  | dict hnodup hnodup' _ ih => exact form_dict_iff hnodup hnodup' ih

/-! ## When encodings are equal exactly for equal values -/

theorem Agree.imp {R S : SignedDecimal → SignedDecimal → Prop} (h : ∀ d d', R d d' → S d d')
    {v v' : Value} (hagree : Agree R v v') : Agree S v v' := by
  induction hagree with
  | none => exact .none
  | str s => exact .str s
  | int n => exact .int n
  | bool b => exact .bool b
  | decimal hR => exact .decimal (h _ _ hR)
  | enum name value => exact .enum name value
  | datetime d => exact .datetime d
  | uuid u => exact .uuid u
  | seq hlength _ ih => exact .seq hlength ih
  | dict hkeys _ ih => exact .dict hkeys ih

theorem Agree.and {R S : SignedDecimal → SignedDecimal → Prop} {v v' : Value}
    (h : Agree R v v') (h' : Agree S v v') : Agree (fun d d' => R d d' ∧ S d d') v v' := by
  induction h with
  | none => exact .none
  | str s => exact .str s
  | int n => exact .int n
  | bool b => exact .bool b
  | decimal hR =>
      cases h' with
      | decimal hS => exact .decimal ⟨hR, hS⟩
  | enum name value => exact .enum name value
  | datetime d => exact .datetime d
  | uuid u => exact .uuid u
  | seq hlength _ ih =>
      cases h' with
      | seq _ hS => exact .seq hlength fun i v v' hv hv' => ih i v v' hv hv' (hS i v v' hv hv')
  | dict hkeys _ ih =>
      cases h' with
      | dict _ hS =>
          exact .dict hkeys fun key v v' hv hv' => ih key v v' hv hv' (hS key v v' hv hv')

/-- Equal numbers, none of them too great, and no two zeros of different sign. -/
def KeptEqual (d d' : SignedDecimal) : Prop :=
  d.value.compare d'.value = .eq ∧ (d.coefficient = 0 → d.negative = d'.negative)
    ∧ ¬ SignedDecimal.Overflows (SignedDecimal.round d.coefficient d.exp)

theorem keptEqual_iff {d d' : SignedDecimal} :
    KeptEqual d d' ↔ d.value.compare d'.value = .eq ∧ d.RoundsAlike d' := by
  unfold KeptEqual SignedDecimal.RoundsAlike
  constructor
  · rintro ⟨heq, hzero, hfits⟩
    obtain ⟨hmagnitude, hsign⟩ := SignedDecimal.value_eq_iff.mp heq
    refine ⟨heq, ?_, SignedDecimal.round_congr hmagnitude, hfits⟩
    rcases hsign with h0 | hsame
    · exact hzero h0
    · exact hsame
  · rintro ⟨heq, hsame, -, hfits⟩
    exact ⟨heq, fun _ => hsame, hfits⟩

/--
**Encodings are equal exactly for equal values, but for the decimals**: where equal values have
zeros of different sign, or a number too great, at one place; and where values that are not equal
differ only in decimals that are one number when they are rounded to the working precision.
-/
theorem canonical_json_injective_iff {v v' : Value} (h : SameShape v v') :
    (EncodedAlike v v' ↔ Equal v v')
      ↔ (Equal v v' → Agree KeptEqual v v')
        ∧ (Agree SignedDecimal.RoundsAlike v v' → Equal v v') := by
  rw [encodedAlike_iff, form_iff h]
  constructor
  · intro hiff
    refine ⟨fun hequal => ?_, hiff.mp⟩
    exact (hequal.and (hiff.mpr hequal)).imp fun d d' hd => keptEqual_iff.mpr hd
  · rintro ⟨hkept, hblurred⟩
    exact ⟨hblurred, fun hequal => (hkept hequal).imp fun d d' hd => (keptEqual_iff.mp hd).2⟩

namespace Sample

/-- A dictionary with the number 1.10. -/
def order : Value :=
  .dict [("price", .decimal ⟨false, 110, -2⟩), ("side", .enum "Side" "BUY")]

/-- The same with 1.1, and its keys the other way. -/
def sameOrder : Value :=
  .dict [("side", .enum "Side" "BUY"), ("price", .decimal ⟨false, 11, -1⟩)]

theorem order_sameShape : SameShape order sameOrder := by
  refine .dict (by decide) (by decide) fun key v v' hv hv' => ?_
  simp only [List.mem_cons, List.not_mem_nil, or_false, Prod.mk.injEq] at hv hv'
  rcases hv with ⟨rfl, rfl⟩ | ⟨rfl, rfl⟩
  · rcases hv' with ⟨hkey, -⟩ | ⟨-, rfl⟩
    · exact absurd hkey (by decide)
    · exact .decimal _ _
  · rcases hv' with ⟨-, rfl⟩ | ⟨hkey, -⟩
    · exact .enum _ _ _
    · exact absurd hkey (by decide)

theorem order_agree : Agree KeptEqual order sameOrder := by
  refine .dict (fun key => by simp [or_comm]) fun key v v' hv hv' => ?_
  simp only [List.mem_cons, List.not_mem_nil, or_false, Prod.mk.injEq] at hv hv'
  rcases hv with ⟨rfl, rfl⟩ | ⟨rfl, rfl⟩
  · rcases hv' with ⟨hkey, -⟩ | ⟨-, rfl⟩
    · exact absurd hkey (by decide)
    · exact .decimal ⟨by decide, fun h => absurd h (by decide), by decide +kernel⟩
  · rcases hv' with ⟨-, rfl⟩ | ⟨hkey, -⟩
    · exact .enum _ _
    · exact absurd hkey (by decide)

end Sample

open Hashing.Sample in
theorem canonical_json_injective_iff_sample : EncodedAlike order sameOrder := by
  have hequal : Equal order sameOrder := order_agree.imp fun d d' hd => hd.1
  exact ((canonical_json_injective_iff order_sameShape).mpr
    ⟨fun _ => order_agree, fun _ => hequal⟩).mpr hequal

/-- The two zeros are equal and have two encodings; 1 and a number that differs from it in the
thirtieth digit are not and have one. -/
theorem canonical_json_not_injective :
    (Equal (.decimal ⟨true, 0, 0⟩) (.decimal ⟨false, 0, 0⟩)
        ∧ ¬ EncodedAlike (.decimal ⟨true, 0, 0⟩) (.decimal ⟨false, 0, 0⟩))
      ∧ EncodedAlike (.decimal ⟨false, 10 ^ 29 + 1, -29⟩) (.decimal ⟨false, 1, 0⟩)
        ∧ ¬ Equal (.decimal ⟨false, 10 ^ 29 + 1, -29⟩) (.decimal ⟨false, 1, 0⟩) := by
  have halike : ∀ d d' : SignedDecimal, EncodedAlike (.decimal d) (.decimal d') ↔ d.RoundsAlike d' :=
    fun d d' => encodedAlike_iff.trans form_decimal_iff
  refine ⟨⟨.decimal (by decide), fun hsame => ?_⟩, ?_, fun hequal => ?_⟩
  · exact absurd ((halike _ _).mp hsame).1 (by decide)
  · exact (halike _ _).mpr ⟨rfl, by decide +kernel, by decide +kernel⟩
  · cases hequal with
    | decimal heq => exact absurd heq (by decide +kernel)

end Crumblr.Hashing
