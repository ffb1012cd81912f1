import Mathlib.Data.List.Nodup
import Mathlib.Data.List.Perm.Basic
import ShaderBindings.Proofs.Sorted
import ShaderBindings.Proofs.Text.Scan
import ShaderBindings.Struct.Naming
/-!
# Groups of structs and their names

Structs that share a declared name and a signature make up one group, every group is asked a name
for once, and the names given differ from one another and from those that are reserved.

## Main definitions

* `StructGroup.all` - the groups of all occurrences.
* `ShaderBindings.wantedNames`, `givenNames` - all groups with the names wanted for them, and with
  those given.

## Main results

* `StructGroup.mem_all_iff` - a group holds the occurrences of one name and signature.
* `StructGroup.exists_mem_all`, `StructGroup.eq_of_mem_members` - every occurrence is in one group.
* `ShaderBindings.wantedNames_perm` - every group is asked a name for once.
* `ShaderBindings.nodup_assignNames`, `notMem_of_mem_assignNames` - the names given are fresh.
* `ShaderBindings.eq_iff_of_mem_givenNames` - names are the same for the same group only.
-/

set_option autoImplicit false

namespace ShaderBindings

namespace StructGroup

variable {occs : List Occurrence} {g : StructGroup}

/-! ## Groups -/

/-- The occurrences of a name and a signature. -/
def ofKey (occs : List Occurrence) (name signature : String) : List Occurrence :=
  occs.filter fun o => o.name == name && o.signature == signature

/-- The occurrences of a name and a signature. -/
theorem mem_ofKey_iff {name signature : String} {o : Occurrence} :
    o ∈ ofKey occs name signature ↔ o ∈ occs ∧ o.name = name ∧ o.signature = signature := by
  simp [ofKey]

/-- The group of a name and a signature holds all of their occurrences, in order. -/
theorem members_of_find? {name signature : String} (h : find? occs name signature = some g) :
    g.members = ofKey occs name signature := by
  unfold find? at h
  split at h
  · cases h
  · next first others heq =>
    cases h
    exact heq.symm

/-- A group is found for the name and the signature of its first occurrence only. -/
theorem first_of_find? {name signature : String} (h : find? occs name signature = some g) :
    g.first ∈ occs ∧ g.first.name = name ∧ g.first.signature = signature := by
  have hmem : g.first ∈ g.members := List.mem_cons_self
  rw [members_of_find? h] at hmem
  exact mem_ofKey_iff.1 hmem

/-- A group is found exactly if its members are those occurrences. -/
theorem find?_eq_some_iff {name signature : String} :
    find? occs name signature = some g ↔ g.members = ofKey occs name signature := by
  constructor
  · exact members_of_find?
  · intro h
    have hkey : (occs.filter fun o => o.name == name && o.signature == signature) = g.members :=
      h.symm
    rw [find?, hkey]
    rfl

/-- All groups of the occurrences. -/
def all (occs : List Occurrence) : List StructGroup :=
  (Ascending.ofList (occs.map (·.name))).flatMap (ofName occs)

/-- The groups of a name are those that are found for it with some signature. -/
theorem mem_ofName_iff {name : String} :
    g ∈ ofName occs name ↔ ∃ signature, find? occs name signature = some g := by
  simp only [ofName, List.mem_filterMap, Ascending.mem_ofList]
  constructor
  · rintro ⟨signature, -, h⟩
    exact ⟨signature, h⟩
  · rintro ⟨signature, h⟩
    obtain ⟨hmem, hname, hsignature⟩ := first_of_find? h
    refine ⟨signature, List.mem_map.2 ⟨g.first, ?_, hsignature⟩, h⟩
    exact List.mem_filter.2 ⟨hmem, by simpa using hname⟩

/-- A group holds all occurrences of the name and the signature of its first one.

**Proof sketch.** A group is listed under the name of its first occurrence, which is the name it was
found by (`first_of_find?`). -/
theorem mem_all_iff : g ∈ all occs ↔ g.members = ofKey occs g.first.name g.first.signature := by
  simp only [all, List.mem_flatMap, mem_ofName_iff, Ascending.mem_ofList]
  constructor
  · rintro ⟨name, -, signature, h⟩
    obtain ⟨-, rfl, rfl⟩ := first_of_find? h
    exact members_of_find? h
  · intro h
    have hfind := find?_eq_some_iff.2 h
    exact ⟨g.first.name, List.mem_map_of_mem (first_of_find? hfind).1, _, hfind⟩

/-- What is in a group. -/
theorem mem_members_iff (hg : g ∈ all occs) {o : Occurrence} :
    o ∈ g.members ↔ o ∈ occs ∧ o.name = g.first.name ∧ o.signature = g.first.signature := by
  rw [mem_all_iff.1 hg, mem_ofKey_iff]

/-- Every occurrence is in a group.

**Proof sketch.** The occurrences of its name and its signature are not empty, and they make up a
group. -/
theorem exists_mem_all {o : Occurrence} (ho : o ∈ occs) : ∃ g ∈ all occs, o ∈ g.members := by
  have hmem : o ∈ ofKey occs o.name o.signature := mem_ofKey_iff.2 ⟨ho, rfl, rfl⟩
  obtain ⟨first, others, heq⟩ := List.exists_cons_of_ne_nil (List.ne_nil_of_mem hmem)
  have hfirst : first ∈ ofKey occs o.name o.signature := heq ▸ List.mem_cons_self
  obtain ⟨-, hname, hsignature⟩ := mem_ofKey_iff.1 hfirst
  refine ⟨{ first, others }, mem_all_iff.2 ?_, ?_⟩
  · change first :: others = ofKey occs first.name first.signature
    rw [hname, hsignature, heq]
  · rw [heq] at hmem
    exact hmem

/-- Groups with occurrences of one name and signature are the same.

**Proof sketch.** Both have the occurrences of this name and this signature for their members. -/
theorem eq_of_mem_members {g' : StructGroup} {o o' : Occurrence} (hg : g ∈ all occs)
    (hg' : g' ∈ all occs) (ho : o ∈ g.members) (ho' : o' ∈ g'.members) (hname : o.name = o'.name)
    (hsignature : o.signature = o'.signature) : g = g' := by
  obtain ⟨-, hn, hs⟩ := (mem_members_iff hg).1 ho
  obtain ⟨-, hn', hs'⟩ := (mem_members_iff hg').1 ho'
  have hmembers : g.members = g'.members := by
    rw [mem_all_iff.1 hg, mem_all_iff.1 hg', ← hn, ← hs, ← hn', ← hs', hname, hsignature]
  obtain ⟨first, others⟩ := g
  obtain ⟨first', others'⟩ := g'
  obtain ⟨rfl, rfl⟩ := List.cons.inj hmembers
  rfl

/-- No group stands twice among all groups.

**Proof sketch.** Groups of different names differ in the name of their first occurrence, and groups
of one name in its signature (`first_of_find?`). -/
theorem nodup_all (occs : List Occurrence) : (all occs).Nodup := by
  refine List.nodup_flatMap.2 ⟨fun name _ => ?_, ?_⟩
  · refine List.Nodup.filterMap (fun s s' g hg hg' => ?_) (Ascending.nodup_ofList _)
    rw [← (first_of_find? hg).2.2, (first_of_find? hg').2.2]
  · refine (Ascending.nodup_ofList _).imp fun hne g hg hg' => hne ?_
    obtain ⟨s, hs⟩ := mem_ofName_iff.1 hg
    obtain ⟨s', hs'⟩ := mem_ofName_iff.1 hg'
    rw [← (first_of_find? hs).2.1, (first_of_find? hs').2.1]

/-! ## Names wanted -/

/-- Numbering keeps the groups in their order. -/
theorem numbered_map_snd (base : String) (groups : List StructGroup) :
    (numbered base groups).map (·.2) = groups := by
  unfold numbered
  split
  · rw [List.map_map]
    exact List.zipIdx_map_fst 0 groups
  · rw [List.map_map]
    exact List.map_id groups

/-- Sorting values by a key that all of them have among different keys leaves none out.

**Proof sketch.** Induction on the keys: the values of the first key, and those of the others. -/
theorem flatMap_filter_perm {α : Type} {f : α → Nat} {keys : List Nat} {l : List α}
    (hkeys : keys.Nodup) (hl : ∀ a ∈ l, f a ∈ keys) :
    (keys.flatMap fun key => l.filter (f · == key)).Perm l := by
  induction keys generalizing l with
  | nil =>
    have hnil : l = [] := List.eq_nil_iff_forall_not_mem.2 fun a ha => by simpa using hl a ha
    rw [hnil]
    exact .nil
  | cons key keys ih =>
    obtain ⟨hkey, hkeys⟩ := List.nodup_cons.1 hkeys
    have hothers : ∀ a ∈ l.filter (fun a => !(f a == key)), f a ∈ keys := by
      intro a ha
      obtain ⟨ha, hne⟩ := List.mem_filter.1 ha
      rcases List.mem_cons.1 (hl a ha) with heq | hmem
      · simp [heq] at hne
      · exact hmem
    have hsame : (keys.flatMap fun k => l.filter (f · == k)) =
        keys.flatMap fun k => (l.filter fun a => !(f a == key)).filter (f · == k) := by
      refine List.flatMap_congr fun k hk => ?_
      rw [List.filter_filter]
      refine List.filter_congr fun a _ => ?_
      by_cases ha : f a = k
      · have hne : k ≠ key := fun h => hkey (h ▸ hk)
        simp [ha, hne]
      · simp [ha]
    rw [List.flatMap_cons, hsame]
    exact ((ih hkeys hothers).append_left _).trans (List.filter_append_perm _ l)

/-- Every group of a declared name is asked a name for once. -/
theorem proposals_perm (idents : List String) (name : String) (groups : List StructGroup) :
    ((proposals idents name groups).map (·.2)).Perm groups := by
  simp only [proposals, List.map_append, List.map_flatMap, numbered_map_snd]
  refine ((flatMap_filter_perm (Ascending.nodup_ofList _) fun g hg => ?_).append_left _).trans
    (List.filter_append_perm _ groups)
  rw [Ascending.mem_ofList]
  exact List.mem_map_of_mem hg

end StructGroup

/-- All groups with the names wanted for them, in the order in which they are named. Groups of the
same declared name stand together, and the declared names ascend. -/
def wantedNames (idents : List String) (occs : List Occurrence) : List (String × StructGroup) :=
  (Ascending.ofList (occs.map (·.name))).flatMap fun name =>
    StructGroup.proposals idents name (StructGroup.ofName occs name)

/-- Every group is asked a name for once. -/
theorem wantedNames_perm (idents : List String) (occs : List Occurrence) :
    ((wantedNames idents occs).map (·.2)).Perm (StructGroup.all occs) := by
  rw [wantedNames, List.map_flatMap]
  exact .flatMap_left _ fun name _ => StructGroup.proposals_perm idents name _

/-! ## Names given -/

/-- The names tried for a group differ from one another.

**Proof sketch.** All but the first end in an underscore and a number, which can be read back
(`Text.toDigits_inj`), and the first one is shorter. -/
theorem candidate_injective {base : String} {i j : Nat} (h : candidate base i = candidate base j) :
    i = j := by
  have hnumbered (n : Nat) : (candidate base (n + 1)).toList =
      base.toList ++ '_' :: Nat.toDigits 10 (n + 1) := by
    change (base ++ "_" ++ toString (n + 1)).toList = _
    simp [Nat.toString_eq_repr]
  have htexts := congrArg String.toList h
  cases i with
  | zero =>
    cases j with
    | zero => rfl
    | succ j =>
      rw [hnumbered] at htexts
      simp [candidate] at htexts
  | succ i =>
    cases j with
    | zero =>
      rw [hnumbered] at htexts
      simp [candidate] at htexts
    | succ j =>
      rw [hnumbered, hnumbered] at htexts
      exact Text.toDigits_inj (List.cons.inj (List.append_cancel_left htexts)).2

section

variable {taken : List String} {wanted : List (String × StructGroup)}

/-- Every group gets a name. -/
theorem assignNames_map_snd : (assignNames taken wanted).map (·.2) = wanted.map (·.2) := by
  induction wanted generalizing taken with
  | nil => rfl
  | cons w wanted ih => rw [assignNames, List.map_cons, List.map_cons, ih]

/-- No name that is taken is given to a group.

**Proof sketch.** Induction on the wanted names. The first candidate that is free is taken, there is
one as candidates differ (`candidate_injective`), and then it counts as taken itself. -/
theorem notMem_of_mem_assignNames {name : String} {g : StructGroup}
    (h : (name, g) ∈ assignNames taken wanted) : name ∉ taken := by
  induction wanted generalizing taken with
  | nil => cases h
  | cons w wanted ih =>
    rw [assignNames] at h
    rcases List.mem_cons.1 h with heq | h
    · cases heq
      exact Text.firstFree_notMem (fun _ _ => candidate_injective) taken 0
    · exact fun hmem => ih h (List.mem_cons_of_mem _ hmem)

/-- No name is given twice.

**Proof sketch.** Induction on the wanted names. Once given, a name is taken for the others
(`notMem_of_mem_assignNames`). -/
theorem nodup_assignNames : ((assignNames taken wanted).map (·.1)).Nodup := by
  induction wanted generalizing taken with
  | nil => exact List.nodup_nil
  | cons w wanted ih =>
    rw [assignNames, List.map_cons, List.nodup_cons]
    refine ⟨fun hmem => ?_, ih⟩
    obtain ⟨⟨name, g⟩, hg, heq⟩ := List.mem_map.1 hmem
    refine notMem_of_mem_assignNames hg ?_
    rw [show name = _ from heq]
    exact List.mem_cons_self

end

/-- All groups with the names given to them. -/
def givenNames (reserved idents : List String) (occs : List Occurrence) :
    List (String × StructGroup) :=
  assignNames reserved (wantedNames idents occs)

section

variable {reserved idents : List String} {occs : List Occurrence} {name : String} {g : StructGroup}

/-- Names are given to all groups and to nothing else. -/
theorem exists_mem_givenNames_iff :
    (∃ name, (name, g) ∈ givenNames reserved idents occs) ↔ g ∈ StructGroup.all occs := by
  have hgroups : g ∈ (givenNames reserved idents occs).map (·.2) ↔ g ∈ StructGroup.all occs := by
    rw [givenNames, assignNames_map_snd]
    exact (wantedNames_perm idents occs).mem_iff
  rw [← hgroups]
  simp

/-- Different groups have different names, and a group has one name.

**Proof sketch.** No name is given twice (`nodup_assignNames`), and no group is asked a name for
twice (`wantedNames_perm`, `StructGroup.nodup_all`). -/
theorem eq_iff_of_mem_givenNames {name' : String} {g' : StructGroup}
    (h : (name, g) ∈ givenNames reserved idents occs)
    (h' : (name', g') ∈ givenNames reserved idents occs) : name = name' ↔ g = g' := by
  have hgroups : ((givenNames reserved idents occs).map (·.2)).Nodup := by
    rw [givenNames, assignNames_map_snd]
    exact (wantedNames_perm idents occs).nodup_iff.2 (StructGroup.nodup_all occs)
  constructor
  · rintro rfl
    exact congrArg (·.2) (List.inj_on_of_nodup_map nodup_assignNames h h' rfl)
  · rintro rfl
    exact congrArg (·.1) (List.inj_on_of_nodup_map hgroups h h' rfl)

end

end ShaderBindings
