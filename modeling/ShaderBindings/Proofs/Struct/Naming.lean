import ShaderBindings.Proofs.Struct.Groups
import ShaderBindings.Proofs.Struct.Outline
import ShaderBindings.Proofs.Struct.Reachable
/-!
# The final names of structs

Naming gives every reachable struct of every module a final name. Structs have the same final name
exactly if they have the same declared name and the same signature, and of these the one that is met
first is declared.

## Main definitions

* `Occurrence.IsIn`, `Occurrence.Before` - reachable structs of modules, and the order they are met.
* `ShaderBindings.finalName`, `ShaderBindings.Declares` - what a naming says of a struct.
* `ShaderBindings.Naming` - what a naming has to satisfy.
* `ShaderBindings.Declared` - the structs that are declared, in order.

## Main results

* `ShaderBindings.naming_of_nameStructs` - the names given make up a naming.
* `ShaderBindings.nameStructs_spec` - names are given whenever no reachable struct is missing.
-/

set_option autoImplicit false

namespace ShaderBindings

variable {modules : List (String × ShaderModule)} {reserved : List String}

/-! ## Occurrences -/

namespace Occurrence

/-- A reachable struct of one of the modules. Name and signature are those that this module gives
it. -/
def IsIn (modules : List (String × ShaderModule)) (o : Occurrence) : Prop :=
  ∃ p st, modules[o.module]? = some p ∧ p.2.IsReachable o.id ∧ p.2.struct? o.id = some st ∧
    o.name = st.name ∧ p.2.signature st = .ok o.signature

/-- The one is met before the other: in an earlier module, or earlier in the list of the module.
This is the order in which declarations are printed. -/
def Before (modules : List (String × ShaderModule)) (o o' : Occurrence) : Prop :=
  o.module < o'.module ∨ o.module = o'.module ∧ ∃ p order, modules[o.module]? = some p ∧
    p.2.reachable = .ok order ∧ [o.id, o'.id].Sublist order

/-- The declared names and the signatures are the same. -/
def Alike (o o' : Occurrence) : Prop := o.name = o'.name ∧ o.signature = o'.signature

/-- The module and the id determine the rest.

**Proof sketch.** The module finds one struct under the id, with one name and one signature. -/
theorem IsIn.eq {o o' : Occurrence} (h : o.IsIn modules) (h' : o'.IsIn modules)
    (hmodule : o.module = o'.module) (hid : o.id = o'.id) : o = o' := by
  obtain ⟨module, id, name, signature⟩ := o
  obtain ⟨module', id', name', signature'⟩ := o'
  obtain ⟨p, st, hp, -, hst, hname, hsignature⟩ := h
  obtain ⟨p', st', hp', -, hst', hname', hsignature'⟩ := h'
  simp only at hmodule hid hp hp' hst hst' hname hname' hsignature hsignature'
  subst hmodule hid
  cases hp.symm.trans hp'
  cases hst.symm.trans hst'
  cases hsignature.symm.trans hsignature'
  rw [hname, hname']

/-- Nothing is met before itself. -/
theorem not_before_self (o : Occurrence) : ¬ o.Before modules o := by
  rintro (hlt | ⟨-, p, order, -, horder, hsub⟩)
  · exact Nat.lt_irrefl _ hlt
  · have hnodup := (ShaderModule.nodup_of_reachable horder).sublist hsub
    simp at hnodup

/-- Being met before goes on.

**Proof sketch.** Modules are met in order, and within a module the structs are listed once, so
pairs in order can be put together (`pair_sublist_trans`). -/
theorem Before.trans {o o' o'' : Occurrence} (h : o.Before modules o')
    (h' : o'.Before modules o'') : o.Before modules o'' := by
  rcases h with hlt | ⟨heq, p, order, hp, horder, hsub⟩
  · rcases h' with hlt' | ⟨heq', -⟩
    · exact .inl (Nat.lt_trans hlt hlt')
    · exact .inl (heq' ▸ hlt)
  · rcases h' with hlt' | ⟨heq', p', order', hp', horder', hsub'⟩
    · exact .inl (heq ▸ hlt')
    · rw [← heq] at hp'
      cases hp.symm.trans hp'
      cases horder.symm.trans horder'
      have hnodup := ShaderModule.nodup_of_reachable horder
      exact .inr ⟨heq.trans heq', p, order, hp, horder, pair_sublist_trans hnodup hsub hsub'⟩

end Occurrence

/-- The occurrences found in the modules, a list for each. It holds for the lists that `nameStructs`
forms first, from which all groups are made. -/
structure Found (modules : List (String × ShaderModule)) (found : List (List Occurrence)) :
    Prop where
  length : found.length = modules.length
  reachable : ∀ (i : Nat) (p : String × ShaderModule) (os : List Occurrence),
    modules[i]? = some p → found[i]? = some os → p.2.reachable = .ok (os.map (·.id))
  isIn : ∀ (i : Nat) (os : List Occurrence), found[i]? = some os →
    ∀ o ∈ os, o.module = i ∧ o.IsIn modules

/-- What the occurrences of a module are.

**Proof sketch.** Each reachable struct gives one occurrence, with the name and the signature that
its module has for it. -/
theorem occurrences_eq_ok_iff {i : Nat} {m : ShaderModule} {os : List Occurrence} :
    occurrences i m = .ok os ↔ m.reachable = .ok (os.map (·.id)) ∧
      ∀ o ∈ os, o.module = i ∧ ∃ st, m.struct? o.id = some st ∧ o.name = st.name ∧
        m.signature st = .ok o.signature := by
  have hstep (id : Nat) (o : Occurrence) :
      (do
        let st ← m.struct id
        let signature ← m.signature st
        return { module := i, id, name := st.name, signature } : Result Occurrence) = .ok o ↔
      id = o.id ∧ o.module = i ∧ ∃ st, m.struct? o.id = some st ∧ o.name = st.name ∧
        m.signature st = .ok o.signature := by
    simp only [Result.bind_eq_ok_iff, ShaderModule.struct_eq_ok_iff]
    constructor
    · rintro ⟨st, hst, text, htext, h⟩
      cases h
      exact ⟨rfl, rfl, st, hst, rfl, htext⟩
    · rintro ⟨rfl, rfl, st, hst, hname, htext⟩
      refine ⟨st, hst, o.signature, htext, ?_⟩
      rw [← hname]
      rfl
  simp only [occurrences, Result.bind_eq_ok_iff, Result.mapM_eq_ok_iff, hstep,
    Result.forall₂_eq_map_iff]
  constructor
  · rintro ⟨order, horder, rfl, hos⟩
    exact ⟨horder, hos⟩
  · rintro ⟨horder, hos⟩
    exact ⟨_, horder, rfl, hos⟩

/-- What is found in the modules if they can be walked.

**Proof sketch.** What was found for a place comes from the module at this place
(`occurrences_eq_ok_iff`), and what was listed there is reachable
(`ShaderModule.mem_of_reachable`). -/
theorem found_of_mapM {found : List (List Occurrence)}
    (h : (modules.zipIdx.mapM fun ((_, m), i) => occurrences i m) = .ok found) :
    Found modules found := by
  have hlength : found.length = modules.length := by
    rw [Result.length_of_mapM h, List.length_zipIdx]
  have hget {i : Nat} {p : String × ShaderModule} {os : List Occurrence}
      (hp : modules[i]? = some p) (hos : found[i]? = some os) : occurrences i p.2 = .ok os := by
    have hzip : modules.zipIdx[i]? = some (p, i) := by simp [List.getElem?_zipIdx, hp]
    exact Result.eq_ok_of_mapM h hzip hos
  refine ⟨hlength, fun i p os hp hos => (occurrences_eq_ok_iff.1 (hget hp hos)).1, ?_⟩
  intro i os hos o ho
  obtain ⟨hi, -⟩ := List.getElem?_eq_some_iff.1 hos
  obtain ⟨p, hp⟩ : ∃ p, modules[i]? = some p := ⟨_, List.getElem?_eq_getElem (hlength ▸ hi)⟩
  obtain ⟨horder, hall⟩ := occurrences_eq_ok_iff.1 (hget hp hos)
  obtain ⟨rfl, st, hst, hname, hsignature⟩ := hall o ho
  have hreachable := (ShaderModule.mem_of_reachable horder o.id).1 (List.mem_map_of_mem ho)
  exact ⟨rfl, p, st, hp, hreachable, hst, hname, hsignature⟩

namespace Found

variable {found : List (List Occurrence)}

/-- For every module something was found, if only an empty list. -/
theorem exists_get {i : Nat} {p : String × ShaderModule} (hf : Found modules found)
    (hp : modules[i]? = some p) : ∃ os, found[i]? = some os := by
  obtain ⟨hi, -⟩ := List.getElem?_eq_some_iff.1 hp
  exact ⟨_, List.getElem?_eq_getElem (hf.length ▸ hi)⟩

/-- Every reachable struct is found.

**Proof sketch.** The list of its module holds the ids of all reachable structs. -/
theorem exists_isIn (hf : Found modules found) {i : Nat} {p : String × ShaderModule}
    (hp : modules[i]? = some p) {id : Nat} (hid : p.2.IsReachable id) :
    ∃ o : Occurrence, o.IsIn modules ∧ o.module = i ∧ o.id = id := by
  obtain ⟨os, hos⟩ := hf.exists_get hp
  have hmem := (ShaderModule.mem_of_reachable (hf.reachable i p os hp hos) id).2 hid
  obtain ⟨o, ho, rfl⟩ := List.mem_map.1 hmem
  obtain ⟨hmodule, hin⟩ := hf.isIn i os hos o ho
  exact ⟨o, hin, hmodule, rfl⟩

/-- All reachable structs are found, and nothing else.

**Proof sketch.** What was found is in its module. The other way round, an occurrence with the same
id was found, and the module and the id determine the rest (`IsIn.eq`). -/
theorem mem_flatten_iff (hf : Found modules found) {o : Occurrence} :
    o ∈ found.flatten ↔ o.IsIn modules := by
  constructor
  · intro h
    obtain ⟨os, hos, ho⟩ := List.mem_flatten.1 h
    obtain ⟨i, hi⟩ := List.mem_iff_getElem?.1 hos
    exact (hf.isIn i os hi o ho).2
  · intro h
    obtain ⟨p, st, hp, hreachable, -⟩ := id h
    obtain ⟨os, hos⟩ := hf.exists_get hp
    have hmem := (ShaderModule.mem_of_reachable (hf.reachable _ p os hp hos) o.id).2 hreachable
    obtain ⟨o', ho', hid⟩ := List.mem_map.1 hmem
    obtain ⟨hmodule, hin⟩ := hf.isIn _ os hos o' ho'
    rw [← hin.eq h hmodule hid]
    exact List.mem_flatten_of_mem (List.mem_of_getElem? hos) ho'

/-- The structs are found in the order in which they are met.

**Proof sketch.** Within a module this is the order of the list, and occurrences of different
modules are in the order of the modules. -/
theorem pairwise_before (hf : Found modules found) :
    found.flatten.Pairwise (Occurrence.Before modules) := by
  refine List.pairwise_flatten.2 ⟨fun os hos => ?_, ?_⟩
  · obtain ⟨i, hi⟩ := List.mem_iff_getElem?.1 hos
    obtain ⟨hlt, -⟩ := List.getElem?_eq_some_iff.1 hi
    obtain ⟨p, hp⟩ : ∃ p, modules[i]? = some p :=
      ⟨_, List.getElem?_eq_getElem (hf.length ▸ hlt)⟩
    refine List.pairwise_iff_forall_sublist.2 fun {o o'} hsub => .inr ?_
    obtain ⟨rfl, -⟩ := hf.isIn i os hi o (hsub.subset (by simp))
    obtain ⟨hmodule, -⟩ := hf.isIn _ os hi o' (hsub.subset (by simp))
    exact ⟨hmodule.symm, p, _, hp, hf.reachable _ p os hp hi, hsub.map Occurrence.id⟩
  · refine List.pairwise_iff_getElem.2 fun i j hi hj hlt o ho o' ho' => .inl ?_
    obtain ⟨hmodule, -⟩ := hf.isIn i _ (List.getElem?_eq_getElem hi) o ho
    obtain ⟨hmodule', -⟩ := hf.isIn j _ (List.getElem?_eq_getElem hj) o' ho'
    omega

/-- The first of a group is met before the others. -/
theorem first_before (hf : Found modules found) {g : StructGroup}
    (hg : g ∈ StructGroup.all found.flatten) : ∀ o ∈ g.others, g.first.Before modules o := by
  have hsub : g.members.Sublist found.flatten := by
    rw [StructGroup.mem_all_iff.1 hg]
    exact List.filter_sublist
  exact (List.pairwise_cons.1 (hf.pairwise_before.sublist hsub)).1

end Found

/-! ## Namings -/

/-- The final name of a struct. -/
def finalName (out : List ModuleStructs) (module id : Nat) : Option String :=
  out[module]?.bind (·.names.get? id)

/-- The struct is declared by its own module. -/
def Declares (out : List ModuleStructs) (module id : Nat) : Prop :=
  ∃ s, out[module]? = some s ∧ id ∈ s.emit

/-- What a naming of the structs of modules has to satisfy. -/
structure Naming (modules : List (String × ShaderModule)) (reserved : List String)
    (out : List ModuleStructs) : Prop where
  /-- There is an answer for each module. -/
  length : out.length = modules.length
  /-- Every reachable struct has a declared name and a signature. -/
  occurs : ∀ (i : Nat) (p : String × ShaderModule), modules[i]? = some p →
    ∀ id, p.2.IsReachable id → ∃ o : Occurrence, o.IsIn modules ∧ o.module = i ∧ o.id = id
  /-- The structs with a final name are the reachable ones. -/
  domain : ∀ i id, (∃ name, finalName out i id = some name) ↔
    ∃ p, modules[i]? = some p ∧ p.2.IsReachable id
  /-- Structs are called the same exactly if their declared names and signatures are the same. -/
  same_iff : ∀ o o' : Occurrence, o.IsIn modules → o'.IsIn modules →
    (finalName out o.module o.id = finalName out o'.module o'.id ↔ o.Alike o')
  /-- No struct gets a reserved name. -/
  notMem : ∀ i id name, finalName out i id = some name → name ∉ reserved
  /-- Of the structs that are called the same only one is declared: the one met first. -/
  first : ∀ o : Occurrence, o.IsIn modules → ∃ f : Occurrence, f.IsIn modules ∧ f.Alike o ∧
    ∀ o' : Occurrence, o'.IsIn modules → o'.Alike o →
      (Declares out o'.module o'.id ↔ o' = f) ∧ (o' = f ∨ f.Before modules o')
  /-- A module declares its structs in the order of the walk, those left out that it does not. -/
  emit : ∀ (i : Nat) (p : String × ShaderModule) (s : ModuleStructs), modules[i]? = some p →
    out[i]? = some s → ∃ order, p.2.reachable = .ok order ∧
      s.emit = order.filter fun id => decide (id ∈ s.emit)

/-- The occurrences that the modules declare, a list for each, in the order of the declarations. Put
together, the lists are in the order of `Before`, each occurrence once. -/
structure Declared (modules : List (String × ShaderModule)) (out : List ModuleStructs)
    (ds : List (List Occurrence)) : Prop where
  emit : out.map (·.emit) = ds.map fun os => os.map (·.id)
  module : ∀ (i : Nat) (os : List Occurrence), ds[i]? = some os → ∀ o ∈ os, o.module = i
  mem_iff : ∀ o, o ∈ ds.flatten ↔ o.IsIn modules ∧ Declares out o.module o.id
  pairwise : ds.flatten.Pairwise (Occurrence.Before modules)

/-- What the names of a module are made of: a pair for each of its structs in a group.

**Proof sketch.** The table is made of these pairs, and the look-up finds the only name that stands
with the id. -/
theorem get?_names_of_eq_some_iff {i id : Nat} {order : List Nat}
    {named : List (String × StructGroup)} {name : String}
    (hone : ∀ n g n' g', (n, g) ∈ named → (n', g') ∈ named → ∀ o ∈ g.members, ∀ o' ∈ g'.members,
      o.module = o'.module → o.id = o'.id → n = n') :
    (ModuleStructs.of i order named).names.get? id = some name ↔
      ∃ g o, (name, g) ∈ named ∧ o ∈ g.members ∧ o.module = i ∧ o.id = id := by
  have hmem (n : String) : (id, n) ∈ (named.flatMap fun e =>
      (e.2.members.filter (·.module == i)).map fun o => (o.id, e.1)) ↔
      ∃ g o, (n, g) ∈ named ∧ o ∈ g.members ∧ o.module = i ∧ o.id = id := by
    simp only [List.mem_flatMap, List.mem_map, List.mem_filter, beq_iff_eq, Prod.exists,
      Prod.mk.injEq]
    constructor
    · rintro ⟨n', g, hg, o, ⟨ho, hi⟩, hid, rfl⟩
      exact ⟨g, o, hg, ho, hi, hid⟩
    · rintro ⟨g, o, hg, ho, hi, hid⟩
      exact ⟨n, g, hg, o, ⟨ho, hi⟩, hid, rfl⟩
  rw [← hmem]
  refine Table.get?_ofList_eq_some_iff fun n n' hn hn' => ?_
  obtain ⟨g, o, hg, ho, rfl, rfl⟩ := (hmem n).1 hn
  obtain ⟨g', o', hg', ho', hi, hid⟩ := (hmem n').1 hn'
  exact hone n g n' g' hg hg' o ho o' ho' hi.symm hid.symm

/-- A module declares the structs that are no others of a group. -/
theorem mem_emit_of_iff {i id : Nat} {order : List Nat} {named : List (String × StructGroup)} :
    id ∈ (ModuleStructs.of i order named).emit ↔
      id ∈ order ∧ ∀ n g, (n, g) ∈ named → ∀ o ∈ g.others, o.module = i → o.id ≠ id := by
  simp [ModuleStructs.of, List.mem_filter]

/-- What a filter takes out of a list is what is in the result. -/
theorem filter_eq_filter_mem (q : Nat → Bool) (l : List Nat) :
    l.filter q = l.filter fun a => decide (a ∈ l.filter q) := by
  refine List.filter_congr fun a ha => ?_
  simp [List.mem_filter, ha]

/-- What naming comes to once the modules are walked.

Only finding the occurrences can fail. -/
theorem nameStructs_eq_ok_iff {out : List ModuleStructs} :
    nameStructs modules reserved = .ok out ↔
      ∃ found, (modules.zipIdx.mapM fun ((_, m), i) => occurrences i m) = .ok found ∧
        out = found.zipIdx.map fun (os, i) => .of i (os.map (·.id))
          (givenNames reserved (modules.map (·.1)) found.flatten) := by
  simp only [nameStructs, Result.bind_eq_ok_iff]
  constructor
  · rintro ⟨found, hfound, h⟩
    cases h
    exact ⟨found, hfound, rfl⟩
  · rintro ⟨found, hfound, rfl⟩
    exact ⟨found, hfound, rfl⟩

section

variable {found : List (List Occurrence)} {idents : List String} {out : List ModuleStructs}

/-- Two names given to one struct are the same.

**Proof sketch.** The two occurrences are equal, as the module and the id determine the rest
(`IsIn.eq`), so the groups are (`StructGroup.eq_of_mem_members`), and a group has one name. -/
theorem eq_of_mem_givenNames (hf : Found modules found) {n n' : String} {g g' : StructGroup}
    (h : (n, g) ∈ givenNames reserved idents found.flatten)
    (h' : (n', g') ∈ givenNames reserved idents found.flatten) {o o' : Occurrence}
    (ho : o ∈ g.members) (ho' : o' ∈ g'.members) (hmodule : o.module = o'.module)
    (hid : o.id = o'.id) : o = o' ∧ g = g' ∧ n = n' := by
  have hg := exists_mem_givenNames_iff.1 ⟨n, h⟩
  have hg' := exists_mem_givenNames_iff.1 ⟨n', h'⟩
  have hin := hf.mem_flatten_iff.1 ((StructGroup.mem_members_iff hg).1 ho).1
  have hin' := hf.mem_flatten_iff.1 ((StructGroup.mem_members_iff hg').1 ho').1
  obtain rfl := hin.eq hin' hmodule hid
  obtain rfl := StructGroup.eq_of_mem_members hg hg' ho ho' rfl rfl
  exact ⟨rfl, rfl, (eq_iff_of_mem_givenNames h h').2 rfl⟩

/-- The structs of a module are made from what was found in it, place by place. -/
theorem getElem?_out_eq_some_iff {i : Nat} {s : ModuleStructs}
    {named : List (String × StructGroup)} :
    (found.zipIdx.map fun (os, i) => ModuleStructs.of i (os.map (·.id)) named)[i]? = some s ↔
      ∃ os, found[i]? = some os ∧ s = .of i (os.map (·.id)) named := by
  simp only [List.getElem?_map, List.getElem?_zipIdx, Nat.zero_add, Option.map_map,
    Option.map_eq_some_iff, Function.comp]
  constructor
  · rintro ⟨os, hos, rfl⟩
    exact ⟨os, hos, rfl⟩
  · rintro ⟨os, hos, rfl⟩
    exact ⟨os, hos, rfl⟩

variable (hf : Found modules found)
  (hout : out = found.zipIdx.map fun (os, i) => .of i (os.map (·.id))
    (givenNames reserved idents found.flatten))

include hf hout

/-- The final name of a struct is that of a group it is in.

**Proof sketch.** The names of a module are made of pairs (`get?_names_of_eq_some_iff`), and there
are no two of them for one struct (`eq_of_mem_givenNames`). -/
theorem finalName_eq_some_iff {i id : Nat} {name : String} :
    finalName out i id = some name ↔ ∃ g o, (name, g) ∈ givenNames reserved idents found.flatten ∧
      o ∈ g.members ∧ o.module = i ∧ o.id = id := by
  have hone : ∀ n g n' g', (n, g) ∈ givenNames reserved idents found.flatten →
      (n', g') ∈ givenNames reserved idents found.flatten → ∀ o ∈ g.members, ∀ o' ∈ g'.members,
        o.module = o'.module → o.id = o'.id → n = n' :=
    fun n g n' g' h h' o ho o' ho' hmodule hid =>
      (eq_of_mem_givenNames hf h h' ho ho' hmodule hid).2.2
  rw [finalName, Option.bind_eq_some_iff]
  constructor
  · rintro ⟨s, hs, hname⟩
    rw [hout, getElem?_out_eq_some_iff] at hs
    obtain ⟨os, -, rfl⟩ := hs
    exact (get?_names_of_eq_some_iff hone).1 hname
  · rintro ⟨g, o, hg, ho, rfl, rfl⟩
    have hall := exists_mem_givenNames_iff.1 ⟨name, hg⟩
    obtain ⟨p, -, hp, -⟩ := hf.mem_flatten_iff.1 ((StructGroup.mem_members_iff hall).1 ho).1
    obtain ⟨os, hos⟩ := hf.exists_get hp
    refine ⟨_, by rw [hout, getElem?_out_eq_some_iff]; exact ⟨os, hos, rfl⟩, ?_⟩
    exact (get?_names_of_eq_some_iff hone).2 ⟨g, o, hg, ho, rfl, rfl⟩

/-- The final name of a struct that was found.

**Proof sketch.** The occurrence in the group has the module and the id of this one, so it is this
one. -/
theorem finalName_eq_some_iff_of_isIn {o : Occurrence} (ho : o.IsIn modules) {name : String} :
    finalName out o.module o.id = some name ↔
      ∃ g, (name, g) ∈ givenNames reserved idents found.flatten ∧ o ∈ g.members := by
  rw [finalName_eq_some_iff hf hout]
  constructor
  · rintro ⟨g, o', hg, ho', hmodule, hid⟩
    have hall := exists_mem_givenNames_iff.1 ⟨name, hg⟩
    have hin := hf.mem_flatten_iff.1 ((StructGroup.mem_members_iff hall).1 ho').1
    exact ⟨g, hg, hin.eq ho hmodule hid ▸ ho'⟩
  · rintro ⟨g, hg, hmem⟩
    exact ⟨g, o, hg, hmem, rfl, rfl⟩

/-- A struct is declared by its own module if it is the first of its group.

**Proof sketch.** A module declares a struct if it is no other one of a group (`mem_emit_of_iff`).
The first of a group is not among the others, since it is met before them and nothing is met before
itself. -/
theorem declares_iff {g : StructGroup} (hg : g ∈ StructGroup.all found.flatten) {o : Occurrence}
    (ho : o ∈ g.members) : Declares out o.module o.id ↔ o = g.first := by
  have hin := hf.mem_flatten_iff.1 ((StructGroup.mem_members_iff hg).1 ho).1
  obtain ⟨p, st, hp, hreachable, -⟩ := id hin
  obtain ⟨os, hos⟩ := hf.exists_get hp
  obtain ⟨name, hname⟩ := exists_mem_givenNames_iff.2 hg
  have hnot : g.first ∉ g.others := fun hmem =>
    g.first.not_before_self (hf.first_before hg _ hmem)
  have hdeclares : Declares out o.module o.id ↔
      ∀ n g', (n, g') ∈ givenNames reserved idents found.flatten → ∀ o' ∈ g'.others,
        o'.module = o.module → o'.id ≠ o.id := by
    constructor
    · rintro ⟨s, hs, hmem⟩
      rw [hout, getElem?_out_eq_some_iff] at hs
      obtain ⟨os', -, rfl⟩ := hs
      exact (mem_emit_of_iff.1 hmem).2
    · intro h
      have hmem := (ShaderModule.mem_of_reachable (hf.reachable _ p os hp hos) o.id).2 hreachable
      refine ⟨_, ?_, mem_emit_of_iff.2 ⟨hmem, h⟩⟩
      rw [hout, getElem?_out_eq_some_iff]
      exact ⟨os, hos, rfl⟩
  rw [hdeclares]
  constructor
  · intro h
    rcases List.mem_cons.1 ho with heq | hmem
    · exact heq
    · exact absurd rfl (h name g hname o hmem rfl)
  · rintro rfl n g' hg' o' ho' hmodule hid
    obtain ⟨rfl, rfl, -⟩ := eq_of_mem_givenNames hf hg' hname (List.mem_cons_of_mem _ ho') ho
      hmodule hid
    exact hnot ho'

/-- Every struct that was found is in a group, the name of which is its final name.

**Proof sketch.** Every occurrence is in a group (`StructGroup.exists_mem_all`), and every group is
given a name (`exists_mem_givenNames_iff`). -/
theorem exists_group {o : Occurrence} (ho : o.IsIn modules) :
    ∃ g ∈ StructGroup.all found.flatten, o ∈ g.members ∧ ∃ name,
      (name, g) ∈ givenNames reserved idents found.flatten ∧
        finalName out o.module o.id = some name := by
  obtain ⟨g, hg, hmem⟩ := StructGroup.exists_mem_all (hf.mem_flatten_iff.2 ho)
  obtain ⟨name, hname⟩ := exists_mem_givenNames_iff.2 hg
  exact ⟨g, hg, hmem, name, hname,
    (finalName_eq_some_iff_of_isIn hf hout ho).2 ⟨g, hname, hmem⟩⟩

/-- The structs with a final name are the reachable ones.

**Proof sketch.** Groups hold what was found (`mem_flatten_iff`), and what is reachable was found
(`Found.exists_isIn`). -/
theorem exists_finalName_iff {i id : Nat} :
    (∃ name, finalName out i id = some name) ↔
      ∃ p, modules[i]? = some p ∧ p.2.IsReachable id := by
  constructor
  · rintro ⟨name, hname⟩
    obtain ⟨g, o, hg, ho, rfl, rfl⟩ := (finalName_eq_some_iff hf hout).1 hname
    have hall := exists_mem_givenNames_iff.1 ⟨name, hg⟩
    obtain ⟨p, -, hp, hreachable, -⟩ :=
      hf.mem_flatten_iff.1 ((StructGroup.mem_members_iff hall).1 ho).1
    exact ⟨p, hp, hreachable⟩
  · rintro ⟨p, hp, hid⟩
    obtain ⟨o, ho, rfl, rfl⟩ := hf.exists_isIn hp hid
    obtain ⟨-, -, -, name, -, hname⟩ := exists_group hf hout ho
    exact ⟨name, hname⟩

/-- Structs are called the same if they are in one group.

**Proof sketch.** The names are equal exactly if the groups are (`eq_iff_of_mem_givenNames`), and a
group is what has one name and one signature. -/
theorem finalName_eq_iff {o o' : Occurrence} (ho : o.IsIn modules) (ho' : o'.IsIn modules) :
    finalName out o.module o.id = finalName out o'.module o'.id ↔ o.Alike o' := by
  obtain ⟨g, hg, hmem, name, hname, hfinal⟩ := exists_group hf hout ho
  obtain ⟨g', hg', hmem', name', hname', hfinal'⟩ := exists_group hf hout ho'
  rw [hfinal, hfinal', Option.some.injEq, eq_iff_of_mem_givenNames hname hname']
  constructor
  · rintro rfl
    obtain ⟨-, hn, hs⟩ := (StructGroup.mem_members_iff hg).1 hmem
    obtain ⟨-, hn', hs'⟩ := (StructGroup.mem_members_iff hg).1 hmem'
    exact ⟨hn.trans hn'.symm, hs.trans hs'.symm⟩
  · rintro ⟨hn, hs⟩
    exact StructGroup.eq_of_mem_members hg hg' hmem hmem' hn hs

/-- The first of a group is the one that is declared, and is met before the others.

**Proof sketch.** It is the first of the group of this struct: all that are alike are in it
(`StructGroup.mem_members_iff`), and `declares_iff` says which one is declared. -/
theorem exists_first {o : Occurrence} (ho : o.IsIn modules) :
    ∃ f : Occurrence, f.IsIn modules ∧ f.Alike o ∧
      ∀ o' : Occurrence, o'.IsIn modules → o'.Alike o →
        (Declares out o'.module o'.id ↔ o' = f) ∧ (o' = f ∨ f.Before modules o') := by
  obtain ⟨g, hg, hmem, -⟩ := exists_group hf hout ho
  obtain ⟨-, hn, hs⟩ := (StructGroup.mem_members_iff hg).1 hmem
  have hself : g.first ∈ g.members := List.mem_cons_self
  obtain ⟨hfirst, -⟩ := (StructGroup.mem_members_iff hg).1 hself
  refine ⟨g.first, hf.mem_flatten_iff.1 hfirst, ⟨hn.symm, hs.symm⟩, fun o' ho' halike => ?_⟩
  have hmem' : o' ∈ g.members := (StructGroup.mem_members_iff hg).2
    ⟨hf.mem_flatten_iff.2 ho', halike.1.trans hn, halike.2.trans hs⟩
  refine ⟨declares_iff hf hout hg hmem', ?_⟩
  rcases List.mem_cons.1 hmem' with heq | hother
  · exact .inl heq
  · exact .inr (hf.first_before hg o' hother)

/-- What the names given make of the modules is a naming.

**Proof sketch.** An occurrence is in one group, so its final name is the name of that group. Names
of groups differ, which gives the names of structs, and the first of a group is met first. -/
theorem naming_of_found : Naming modules reserved out where
  length := by rw [hout, List.length_map, List.length_zipIdx, hf.length]
  occurs _ _ hp _ hid := hf.exists_isIn hp hid
  domain _ _ := exists_finalName_iff hf hout
  same_iff _ _ ho ho' := finalName_eq_iff hf hout ho ho'
  notMem i id name hname := by
    obtain ⟨g, -, hg, -⟩ := (finalName_eq_some_iff hf hout).1 hname
    exact notMem_of_mem_assignNames hg
  first _ ho := exists_first hf hout ho
  emit i p s hp hs := by
    rw [hout, getElem?_out_eq_some_iff] at hs
    obtain ⟨os, hos, rfl⟩ := hs
    exact ⟨_, hf.reachable i p os hp hos, filter_eq_filter_mem _ _⟩

open scoped Classical in
/-- The declared occurrences are those found that their modules declare.

**Proof sketch.** From what was found in each module, those that it declares are kept. Their ids are
the ids that the module emits, and they stay in the order in which they were met
(`Found.pairwise_before`). -/
theorem exists_declared : ∃ ds, Declared modules out ds := by
  have hemit (i : Nat) (os : List Occurrence) (s : ModuleStructs) (hos : found[i]? = some os)
      (hs : out[i]? = some s) :
      (os.filter fun o => decide (Declares out o.module o.id)).map (·.id) = s.emit := by
    have hsame : os.filter (fun o => decide (Declares out o.module o.id)) =
        os.filter ((fun id => decide (id ∈ s.emit)) ∘ (·.id)) := by
      refine List.filter_congr fun o ho => decide_eq_decide.2 ?_
      obtain ⟨rfl, -⟩ := hf.isIn i os hos o ho
      constructor
      · rintro ⟨s', hs', hmem⟩
        cases hs.symm.trans hs'
        exact hmem
      · exact fun hmem => ⟨s, hs, hmem⟩
    rw [hsame, ← List.filter_map]
    rw [hout, getElem?_out_eq_some_iff] at hs
    obtain ⟨os', hos', rfl⟩ := hs
    cases hos.symm.trans hos'
    exact (filter_eq_filter_mem _ _).symm
  refine ⟨found.map fun os => os.filter fun o => decide (Declares out o.module o.id),
    ?_, ?_, ?_, ?_⟩
  · refine List.ext_getElem? fun i => ?_
    rw [List.map_map, List.getElem?_map, List.getElem?_map]
    cases hos : found[i]? with
    | none =>
      have hnone : out[i]? = none := by
        rw [hout, List.getElem?_map, List.getElem?_zipIdx, hos]
        rfl
      rw [hnone]
      rfl
    | some os =>
      obtain ⟨s, hs⟩ : ∃ s, out[i]? = some s := by
        rw [hout]
        exact ⟨_, getElem?_out_eq_some_iff.2 ⟨os, hos, rfl⟩⟩
      rw [hs]
      exact congrArg some (hemit i os s hos hs).symm
  · intro i os hos o ho
    rw [List.getElem?_map, Option.map_eq_some_iff] at hos
    obtain ⟨os', hos', rfl⟩ := hos
    exact (hf.isIn i os' hos' o (List.mem_filter.1 ho).1).1
  · intro o
    rw [← List.filter_flatten, List.mem_filter, hf.mem_flatten_iff, decide_eq_true_iff]
  · rw [← List.filter_flatten]
    exact hf.pairwise_before.sublist List.filter_sublist

end

/-- **Names are a naming.** Whenever names are given they satisfy all of it. -/
theorem naming_of_nameStructs {out : List ModuleStructs}
    (h : nameStructs modules reserved = .ok out) : Naming modules reserved out := by
  obtain ⟨found, hfound, hout⟩ := nameStructs_eq_ok_iff.1 h
  exact naming_of_found (found_of_mapM hfound) hout

/-- The declared occurrences of a naming. -/
theorem exists_declared_of_nameStructs {out : List ModuleStructs}
    (h : nameStructs modules reserved = .ok out) : ∃ ds, Declared modules out ds := by
  obtain ⟨found, hfound, hout⟩ := nameStructs_eq_ok_iff.1 h
  exact exists_declared (found_of_mapM hfound) hout

/-- Modules in which no reachable struct is missing have occurrences.

**Proof sketch.** A closed module can be walked (`ShaderModule.exists_reachable_iff`). Every struct
that is listed has an outline, as all inside it is there, and so a signature
(`ShaderModule.exists_signature_of_hasOutline`). -/
theorem exists_occurrences {i : Nat} {m : ShaderModule} (h : m.IsClosed) :
    ∃ os, occurrences i m = .ok os := by
  obtain ⟨order, horder⟩ := ShaderModule.exists_reachable_iff.2 h
  have hstep : ∀ id ∈ order, ∃ o, (do
      let st ← m.struct id
      let signature ← m.signature st
      return { module := i, id, name := st.name, signature } : Result Occurrence) = .ok o := by
    intro id hid
    have hreachable := (ShaderModule.mem_of_reachable horder id).1 hid
    obtain ⟨st, hst⟩ := Option.isSome_iff_exists.1 (h.2 id hreachable)
    obtain ⟨o, ho⟩ : ∃ o, m.HasOutline [st.id] st.members o := by
      refine ShaderModule.exists_hasOutline fun mem hmem child hbase x hx => h.2 x ?_
      exact (hreachable.within (ShaderModule.Within.refl.child hst
        (StructType.mem_children_iff.2 ⟨mem, hmem, hbase⟩))).within hx
    obtain ⟨text, htext, -⟩ := ShaderModule.exists_signature_of_hasOutline rfl rfl ho ho
    refine ⟨{ module := i, id, name := st.name, signature := text }, ?_⟩
    simp only [Result.bind_eq_ok_iff, ShaderModule.struct_eq_ok_iff]
    exact ⟨st, hst, text, htext, rfl⟩
  obtain ⟨os, hos⟩ := Result.exists_mapM hstep
  exact ⟨os, Result.bind_eq_ok_iff.2 ⟨order, horder, hos⟩⟩

/-- **Naming the structs of modules.** If the buffer blocks of all modules are structs with nothing
missing inside, names are given and make up a naming; otherwise the failure is reported.

**Proof sketch.** If all modules are closed, all of them have occurrences (`exists_occurrences`),
and nothing else can fail (`nameStructs_eq_ok_iff`). What is given is a naming by
`naming_of_nameStructs`. If names are given, all modules have been walked, so they are closed. -/
theorem nameStructs_spec (modules : List (String × ShaderModule)) (reserved : List String) :
    ((∀ p ∈ modules, p.2.IsClosed) ∧
        ∃ out, nameStructs modules reserved = .ok out ∧ Naming modules reserved out) ∨
      (¬ ∀ p ∈ modules, p.2.IsClosed) ∧ ∃ e, nameStructs modules reserved = .error e := by
  by_cases hclosed : ∀ p ∈ modules, p.2.IsClosed
  · left
    have hstep : ∀ x ∈ modules.zipIdx, ∃ os, occurrences x.2 x.1.2 = .ok os :=
      fun x hx => exists_occurrences (hclosed x.1 (List.fst_mem_of_mem_zipIdx hx))
    obtain ⟨found, hfound⟩ := Result.exists_mapM hstep
    obtain ⟨out, hout⟩ : ∃ out, nameStructs modules reserved = .ok out :=
      ⟨_, nameStructs_eq_ok_iff.2 ⟨found, hfound, rfl⟩⟩
    exact ⟨hclosed, out, hout, naming_of_nameStructs hout⟩
  · right
    refine ⟨hclosed, ?_⟩
    cases h : nameStructs modules reserved with
    | error e => exact ⟨e, rfl⟩
    | ok out =>
      obtain ⟨found, hfound, -⟩ := nameStructs_eq_ok_iff.1 h
      have hf := found_of_mapM hfound
      refine absurd (fun p hp => ?_) hclosed
      obtain ⟨i, hi⟩ := List.mem_iff_getElem?.1 hp
      obtain ⟨os, hos⟩ := hf.exists_get hi
      exact ShaderModule.exists_reachable_iff.1 ⟨_, hf.reachable i p os hi hos⟩

end ShaderBindings
