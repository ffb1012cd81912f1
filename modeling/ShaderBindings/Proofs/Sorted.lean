import Mathlib.Data.List.Induction
import ShaderBindings.Ascending
import ShaderBindings.Table
/-!
# Values without repetition

What is left of a list when repeated values are dropped from it, which of these values are
neighbours, and what a table holds.

## Main definitions

* `Table.Extends` - a table has all that another one has.

## Main results

* `Ascending.pairwise_ofList` - the values ascend.
* `Ascending.nodup_ofList` - every value stands once in the ascending list.
* `Ascending.exists_neighbours` - a number between two values lies between two neighbours.
* `Table.get?_ofList_eq_some_iff` - a table holds the pairs it is made of, if keys have one value.
* `Table.get?_ofList` - of the values given for a key a table holds the last one.
* `Table.length_le_sum_values` - a list in which no key stands too often is not too long.
* `Table.get?_eq_some_iff`, `Table.find?_values` - what is found under a key.
* `Table.ext_get?` - tables are told apart by what is found in them.
* `Table.mem_keys_insert`, `Table.nodup_keys` - the keys of a table.
* `ShaderBindings.filter_eq_singleton` - one value of a list has a key that is not repeated.
* `ShaderBindings.pair_sublist_trans` - standing before one another in a list without repetition.
-/

set_option autoImplicit false

namespace ShaderBindings

/-- Of values with different keys only one has its key.

**Proof sketch.** Induction on the list. If the value comes first, no other one has its key, and the
filter drops all others. If it comes later, the first one has another key. -/
theorem filter_eq_singleton {α β : Type} [DecidableEq β] {f : α → β} {l : List α}
    (h : (l.map f).Nodup) {a : α} (ha : a ∈ l) : l.filter (f · == f a) = [a] := by
  induction l with
  | nil => cases ha
  | cons b l ih =>
    obtain ⟨hb, hl⟩ := List.nodup_cons.1 h
    rcases List.mem_cons.1 ha with rfl | ha
    · have hnil : l.filter (f · == f a) = [] := by
        refine List.filter_eq_nil_iff.2 fun c hc heq => hb ?_
        rw [← beq_iff_eq.1 heq]
        exact List.mem_map_of_mem hc
      rw [List.filter_cons_of_pos (by simp), hnil]
    · have hne : f b ≠ f a := fun heq => hb (heq ▸ List.mem_map_of_mem ha)
      rw [List.filter_cons_of_neg (by simpa using hne), ih hl ha]

/-- In a list without repetition, what stands before a value stands before what it stands before.

**Proof sketch.** Induction on the list. The value in the middle does not come first, as another one
stands before it; so the second pair lies behind the first value, and with it the third one. -/
theorem pair_sublist_trans {α : Type} {l : List α} (h : l.Nodup) {a b c : α}
    (hab : [a, b].Sublist l) (hbc : [b, c].Sublist l) : [a, c].Sublist l := by
  induction l with
  | nil => cases hab
  | cons x l ih =>
    obtain ⟨hx, hl⟩ := List.nodup_cons.1 h
    have hb : b ∈ l := by
      cases hab with
      | cons _ hab => exact hab.subset (List.mem_cons_of_mem _ List.mem_cons_self)
      | cons_cons _ hb => exact hb.subset List.mem_cons_self
    have htail : [b, c].Sublist l := by
      cases hbc with
      | cons _ hbc => exact hbc
      | cons_cons _ _ => exact absurd hb hx
    cases hab with
    | cons _ hab => exact (ih hl hab htail).cons x
    | cons_cons _ _ =>
      have hc : c ∈ l := htail.subset (List.mem_cons_of_mem _ List.mem_cons_self)
      exact (List.singleton_sublist.2 hc).cons_cons a

namespace Ascending

variable {α : Type} [LT α] [LE α] [DecidableLT α] [DecidableEq α] [Std.IsLinearOrder α]
  [Std.LawfulOrderLT α]

/-- Inserting keeps ascending values in ascending order.

**Proof sketch.** Induction on the values. The value comes in front of the first one that is larger,
which is smaller than all behind it. Otherwise the first value stays in front, and what comes behind
it are the old values and the new one (`mem_insert`). -/
theorem pairwise_insert {a : α} {l : List α} (h : l.Pairwise (· < ·)) :
    (insert a l).Pairwise (· < ·) := by
  induction l with
  | nil => exact List.pairwise_singleton _ _
  | cons b l ih =>
    obtain ⟨hb, hl⟩ := List.pairwise_cons.1 h
    simp only [insert]
    split
    · next hlt =>
      refine List.pairwise_cons.2 ⟨List.forall_mem_cons.2 ⟨hlt, fun c hc => ?_⟩, h⟩
      exact Std.lt_trans hlt (hb c hc)
    · next hge =>
      split
      · exact h
      · next hne =>
        refine List.pairwise_cons.2 ⟨fun c hc => ?_, ih hl⟩
        rcases mem_insert.1 hc with rfl | hc
        · exact Std.lt_of_le_of_ne (Std.not_lt.1 hge) (Ne.symm hne)
        · exact hb c hc

/-- The values ascend. -/
theorem pairwise_ofList (l : List α) : (ofList l).Pairwise (· < ·) := by
  induction l with
  | nil => exact .nil
  | cons a l ih => exact pairwise_insert ih

/-- Every value stands once in the ascending list. -/
theorem nodup_ofList (l : List α) : (ofList l).Nodup := by
  refine (pairwise_ofList l).imp ?_
  rintro a _ hlt rfl
  exact Std.lt_irrefl hlt

/-! ### Neighbours -/

variable {points : List Nat} {pair : Nat × Nat} {n : Nat}

/-- Of two neighbours the first one is smaller, where the values ascend. -/
theorem lt_of_mem_zip_tail (h : points.Pairwise (· < ·)) (hpair : pair ∈ points.zip points.tail) :
    pair.1 < pair.2 := by
  induction points with
  | nil => cases hpair
  | cons a rest ih =>
    obtain ⟨ha, hrest⟩ := List.pairwise_cons.1 h
    cases rest with
    | nil => cases hpair
    | cons b rest =>
      rcases List.mem_cons.1 hpair with rfl | hpair
      · exact ha b List.mem_cons_self
      · exact ih hrest hpair

/-- Two neighbours come before the next two, which may begin with the second of them.

**Proof sketch.** Induction on the values. The first pair ends in the second value, and the first
values of all later pairs are this one or come behind it. -/
theorem pairwise_zip_tail (h : points.Pairwise (· < ·)) :
    (points.zip points.tail).Pairwise fun x y => x.2 ≤ y.1 := by
  induction points with
  | nil => exact .nil
  | cons a rest ih =>
    obtain ⟨-, hrest⟩ := List.pairwise_cons.1 h
    cases rest with
    | nil => exact .nil
    | cons b rest =>
      refine List.pairwise_cons.2 ⟨fun y hy => ?_, ih hrest⟩
      rcases List.mem_cons.1 (List.of_mem_zip hy).1 with hb | hmem
      · exact Nat.le_of_eq hb.symm
      · exact Nat.le_of_lt ((List.pairwise_cons.1 hrest).1 _ hmem)

/-- A number with values on both sides lies between two neighbours, and no value is closer to it.

**Proof sketch.** Induction on the values. If the second one is not above the number either, the two
neighbours stand behind the first one. Otherwise they are the first two values, and all others are
at least as large as the second of them. -/
theorem exists_neighbours (h : points.Pairwise (· < ·)) (hlow : ∃ a ∈ points, a ≤ n)
    (hhigh : ∃ b ∈ points, n < b) :
    ∃ pair ∈ points.zip points.tail, pair.1 ≤ n ∧ n < pair.2 ∧
      ∀ p ∈ points, (p ≤ n → p ≤ pair.1) ∧ (n < p → pair.2 ≤ p) := by
  induction points with
  | nil => simp at hlow
  | cons a rest ih =>
    obtain ⟨ha, hrest⟩ := List.pairwise_cons.1 h
    obtain ⟨low, hlow, hlown⟩ := hlow
    obtain ⟨high, hhigh, hhighn⟩ := hhigh
    have han : a ≤ n := by
      rcases List.mem_cons.1 hlow with rfl | hmem
      · exact hlown
      · exact Nat.le_trans (Nat.le_of_lt (ha low hmem)) hlown
    have hmem : high ∈ rest := by
      rcases List.mem_cons.1 hhigh with rfl | hmem
      · omega
      · exact hmem
    cases rest with
    | nil => cases hmem
    | cons b rest =>
      have hfirst : ∀ p ∈ b :: rest, b ≤ p :=
        List.forall_mem_cons.2
          ⟨Nat.le_refl b, fun p hp => Nat.le_of_lt ((List.pairwise_cons.1 hrest).1 p hp)⟩
      by_cases hb : b ≤ n
      · -- both neighbours stand behind `a`
        obtain ⟨pair, hpair, hle, hlt, hclosest⟩ :=
          ih hrest ⟨b, List.mem_cons_self, hb⟩ ⟨high, hmem, hhighn⟩
        refine ⟨pair, List.mem_cons_of_mem _ hpair, hle, hlt, ?_⟩
        refine List.forall_mem_cons.2 ⟨⟨fun _ => ?_, fun hna => ?_⟩, hclosest⟩
        · have hafter := ha b List.mem_cons_self
          have hbefore := (hclosest b List.mem_cons_self).1 hb
          omega
        · omega
      · refine ⟨(a, b), List.mem_cons_self, han, by omega, ?_⟩
        refine List.forall_mem_cons.2 ⟨⟨fun _ => Nat.le_refl a, fun hna => by omega⟩, ?_⟩
        intro p hp
        have hbp := hfirst p hp
        exact ⟨fun hpn => by omega, fun _ => hbp⟩

end Ascending

namespace Table

variable {α : Type}

/-- The last pair is stored last. -/
theorem ofList_append (pairs : List (Nat × α)) (e : Nat × α) :
    ofList (pairs ++ [e]) = (ofList pairs).insert e.1 e.2 := by
  simp only [ofList, List.foldl_append, List.foldl_cons, List.foldl_nil]

/-- A table holds the pairs that it is made of, if no key has two values.

**Proof sketch.** Induction on the pairs from the back: the last pair of a key decides, and any
other one agrees with it. -/
theorem get?_ofList_eq_some_iff {pairs : List (Nat × α)} {key : Nat} {value : α}
    (hone : ∀ v v', (key, v) ∈ pairs → (key, v') ∈ pairs → v = v') :
    (ofList pairs).get? key = some value ↔ (key, value) ∈ pairs := by
  induction pairs using List.reverseRecOn with
  | nil => simp [ofList]
  | append_singleton pairs e ih =>
    have hfront (v : α) (hv : (key, v) ∈ pairs) : (key, v) ∈ pairs ++ [e] :=
      List.mem_append_left _ hv
    rw [ofList_append, get?_insert]
    split
    · next heq =>
      have hlast : (key, e.2) ∈ pairs ++ [e] := by simp [heq]
      constructor
      · intro h
        cases h
        exact hlast
      · intro h
        rw [hone value e.2 h hlast]
    · next hne =>
      rw [ih fun v v' hv hv' => hone v v' (hfront v hv) (hfront v' hv')]
      constructor
      · exact hfront value
      · intro h
        rcases List.mem_append.1 h with h | h
        · exact h
        · cases List.mem_singleton.1 h
          exact absurd rfl hne

/-- Of the values given for a key a table holds the last one.

**Proof sketch.** Induction on the pairs from their end. The last pair changes the value of its own
key and of no other one (`get?_insert`), and so does filtering with it. -/
theorem get?_ofList (pairs : List (Nat × α)) (key : Nat) :
    (ofList pairs).get? key = (pairs.filter (·.1 == key)).getLast?.map (·.2) := by
  induction pairs using List.reverseRecOn with
  | nil => rfl
  | append_singleton pairs e ih =>
    rw [ofList_append, get?_insert, ih, List.filter_append]
    by_cases heq : e.1 = key
    · simp [heq]
    · simp [heq, Ne.symm heq]

/-- Of ascending entries a key finds the one that it stands in.

**Proof sketch.** Induction on the entries. A key that is that of the first entry is in no later
one, since keys ascend. -/
theorem look_eq_some_iff {key : Nat} {value : α} {es : List (Nat × α)}
    (h : es.Pairwise fun a b => a.1 < b.1) : look key es = some value ↔ (key, value) ∈ es := by
  induction es with
  | nil => simp [look]
  | cons e es ih =>
    obtain ⟨he, hes⟩ := List.pairwise_cons.1 h
    simp only [look]
    split
    · next heq =>
      subst heq
      have hlater : (e.1, value) ∉ es := fun hmem => Nat.lt_irrefl _ (he (e.1, value) hmem)
      simp [hlater, Prod.ext_iff, eq_comm]
    · next hne =>
      rw [ih hes, List.mem_cons, or_iff_right]
      rintro rfl
      exact hne rfl

/-- A table holds a value for a key exactly if the two are one of its entries. -/
theorem get?_eq_some_iff {t : Table α} {key : Nat} {value : α} :
    t.get? key = some value ↔ (key, value) ∈ t.entries :=
  look_eq_some_iff t.ascending

/-- Tables that find the same under each key are the same.

**Proof sketch.** They have the same entries (`get?_eq_some_iff`), each of them once, so their
entries are in some order the same. As both ascend the order is the same, too. -/
theorem ext_get? {t t' : Table α} (h : ∀ key, t.get? key = t'.get? key) : t = t' := by
  have hmem : ∀ e, e ∈ t.entries ↔ e ∈ t'.entries := by
    rintro ⟨key, value⟩
    rw [← get?_eq_some_iff, ← get?_eq_some_iff, h]
  have hnodup (t : Table α) : t.entries.Nodup := by
    refine t.ascending.imp ?_
    rintro a _ hlt rfl
    exact Nat.lt_irrefl _ hlt
  have hperm : t.entries.Perm t'.entries :=
    (List.perm_ext_iff_of_nodup (hnodup t) (hnodup t')).2 hmem
  have hentries : t.entries = t'.entries := by
    refine hperm.eq_of_pairwise (fun a b _ _ hab hba => ?_) t.ascending t'.ascending
    exact absurd hab (Nat.lt_asymm hba)
  obtain ⟨entries, hascending⟩ := t
  obtain ⟨entries', hascending'⟩ := t'
  obtain rfl : entries = entries' := hentries
  rfl

/-- The values of a table are those that are found under its keys. -/
theorem mem_values_iff {t : Table α} {value : α} :
    value ∈ t.values ↔ ∃ key, t.get? key = some value := by
  simp [values, get?_eq_some_iff]

/-- If no key stands more often in a list than its value says, the values add up to at least the
length of the list.

**Proof sketch.** Induction on the entries, for all lists: the places of the first key are at most
its value, and the list without them is left to the other entries. -/
theorem length_le_sum_values {t : Table Nat} {keys : List Nat}
    (h : ∀ key, keys.count key ≤ (t.get? key).getD 0) : keys.length ≤ t.values.foldr (· + ·) 0 := by
  unfold get? at h
  unfold values
  generalize t.entries = es at h
  induction es generalizing keys with
  | nil =>
    have hnil : keys = [] := List.eq_nil_iff_forall_not_mem.2 fun key hkey => by
      have hcount := List.count_pos_iff.2 hkey
      have hle := h key
      simp only [look, Option.getD_none] at hle
      omega
    simp [hnil]
  | cons e es ih =>
    have hfirst : keys.count e.1 ≤ e.2 := by
      simpa [look] using h e.1
    have hrest : (keys.filter (· != e.1)).length ≤ (es.map (·.2)).foldr (· + ·) 0 := by
      refine ih fun key => ?_
      by_cases heq : key = e.1
      · have hnone : (keys.filter (· != e.1)).count key = 0 := by
          simp [List.count_eq_zero, heq]
        omega
      · rw [List.count_filter (by simpa using heq)]
        simpa [look, heq] using h key
    have hsplit : keys.length = keys.count e.1 + (keys.filter (· != e.1)).length := by
      rw [List.length_eq_countP_add_countP (· == e.1), List.count]
      simp only [List.countP_eq_length_filter, bne, decide_not, Bool.decide_eq_true]
    rw [List.map_cons, List.foldr_cons]
    omega

/-- Values that know their keys are found by them, among the values as under the keys.

**Proof sketch.** Induction on the entries: the search through the values and that through the keys
compare the same numbers. -/
theorem find?_values {t : Table α} {f : α → Nat} (h : ∀ key value, t.get? key = some value →
    f value = key) (key : Nat) : t.values.find? (f · == key) = t.get? key := by
  have hkey : ∀ e ∈ t.entries, f e.2 = e.1 := fun e he => h e.1 e.2 (get?_eq_some_iff.2 he)
  unfold values get?
  generalize t.entries = es at hkey
  induction es with
  | nil => rfl
  | cons e es ih =>
    obtain ⟨he, hes⟩ := List.forall_mem_cons.1 hkey
    rw [List.map_cons, List.find?_cons, he, look, ih hes]
    by_cases heq : key = e.1
    · simp [heq]
    · rw [if_neg heq, beq_false_of_ne (Ne.symm heq)]

/-- The keys of a table are those under which a value is found. -/
theorem mem_keys_iff {t : Table α} {key : Nat} :
    key ∈ t.keys ↔ ∃ value, t.get? key = some value := by
  simp only [keys, List.mem_map, get?_eq_some_iff]
  constructor
  · rintro ⟨e, he, rfl⟩
    exact ⟨e.2, he⟩
  · rintro ⟨value, h⟩
    exact ⟨(key, value), h, rfl⟩

/-- Inserting adds its own key. -/
theorem mem_keys_insert {t : Table α} {key k : Nat} {value : α} :
    k ∈ (t.insert key value).keys ↔ k = key ∨ k ∈ t.keys := by
  simp only [mem_keys_iff, get?_insert]
  by_cases hk : k = key
  · simp [hk]
  · simp [hk]

/-- No key is repeated. -/
theorem nodup_keys (t : Table α) : t.keys.Nodup :=
  List.pairwise_map.2 (t.ascending.imp Nat.ne_of_lt)

/-- The table has all that the other one has. It can have values at further keys. -/
def Extends (t t' : Table α) : Prop := ∀ key value, t'.get? key = some value →
  t.get? key = some value

/-- A table extends itself. -/
theorem Extends.refl (t : Table α) : t.Extends t := fun _ _ h => h

/-- What extends an extension extends the table. -/
theorem Extends.trans {t t' t'' : Table α} (h : t.Extends t') (h' : t'.Extends t'') :
    t.Extends t'' :=
  fun key value hvalue => h key value (h' key value hvalue)

end Table

end ShaderBindings
