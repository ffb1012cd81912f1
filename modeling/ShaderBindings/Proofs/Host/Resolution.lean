import ShaderBindings.Proofs.Host.Declaration
/-!
# Names in declarations

A declaration refers to others by name. Taken one after the other, the declarations of a list give
each name the footprint of the struct declared under it, provided that no name is declared twice and
none is used before it is declared.

## Main definitions

* `HostType.names`, `StructDecl.names` - the names a type or a declaration refers to.
* `ShaderBindings.resolve` - the footprints of the names that a list of declarations declares.
* `ShaderBindings.RefersBack` - declarations that use no name before it is declared.

## Main results

* `Layout.names_of_memberField`, `Layout.names_of_declaration` - the names in a declaration are
  those of the structs of its members.
* `ShaderBindings.resolve_name` - a name has the footprint of the declaration under it, the names in
  which are resolved in the whole list.
-/

set_option autoImplicit false

namespace ShaderBindings

/-- The names in a type. There is at most one, since a type has elements of one kind only. -/
def HostType.names : HostType → List String
  | scalar _ => []
  | named name => [name]
  | array elem _ => elem.names
  | padded elem _ => elem.names

/-- The names in the types of the fields. -/
def StructDecl.names (decl : StructDecl) : List String := decl.fields.flatMap (·.type.names)

/-! ## Names of members -/

/-- Array dimensions add no names to a type. -/
theorem HostType.names_wrapArrays (t : HostType) (counts : List Nat) :
    (t.wrapArrays counts).names = t.names := by
  induction counts with
  | nil => rfl
  | cons n counts ih => exact ih

namespace Part

variable {p q : Part} {context : String} {mem : Member}

/-- Padding a part adds no names to its type. -/
theorem names_of_padTo {stride : Nat} (h : p.padTo context stride = .ok q) :
    q.type.names = p.type.names := by
  obtain ⟨-, -, ⟨-, rfl⟩ | ⟨-, rfl⟩⟩ := padTo_eq_ok h
  · rfl
  · rfl

/-- A matrix has the names of its column. -/
theorem names_of_columns (h : p.columns context mem = .ok q) : q.type.names = p.type.names := by
  unfold Part.columns at h
  split at h
  · rw [Result.ite_error_eq_ok_iff] at h
    obtain ⟨-, h⟩ := h
    split at h
    · cases h
    · simp only [Result.bind_eq_ok_iff] at h
      obtain ⟨column, hcolumn, size, -, h⟩ := h
      cases h
      change column.type.names = _
      exact names_of_padTo hcolumn
  · cases h
    rfl

/-- An array has the names of its element. -/
theorem names_of_elements (h : p.elements context mem = .ok q) : q.type.names = p.type.names := by
  unfold Part.elements at h
  split at h
  · split at h
    · cases h
    · simp only [Result.bind_eq_ok_iff, Result.ite_error_eq_ok_iff] at h
      obtain ⟨inner, -, -, elem, helem, size, -, h⟩ := h
      cases h
      rw [HostType.names_wrapArrays]
      exact names_of_padTo helem
  · cases h
    rfl

end Part

namespace Layout

variable {l : Layout} {owner : StructType} {mem : Member}

/-- A name in the field of a member is that of its struct.

**Proof sketch.** The names are those of the column, through the matrix and the array
(`Part.names_of_columns`, `Part.names_of_elements`). A column of numbers has none, and that of a
struct has the name of the struct. -/
theorem names_of_memberField {field : Field} {align : Nat}
    (h : l.memberField owner mem = .ok (field, align)) {name : String}
    (hname : name ∈ field.type.names) :
    ∃ id, mem.ty.base = .struct id ∧ l.names.get? id = some name := by
  simp only [memberField, Result.bind_eq_ok_iff] at h
  obtain ⟨column, hcolumn, matrix, hmatrix, whole, hwhole, h⟩ := h
  cases h
  rw [Part.names_of_elements hwhole, Part.names_of_columns hmatrix] at hname
  cases hbase : mem.ty.base.structId? with
  | none =>
    obtain ⟨s, -, -, -, -, htype⟩ := (column_plain hbase).1 hcolumn
    rw [htype] at hname
    split at hname
    · cases hname
    · cases hname
  | some id =>
    rw [BaseType.structId?_eq_some_iff] at hbase
    obtain ⟨n, hget, -, -, htype⟩ := (column_struct hbase).1 hcolumn
    rw [htype] at hname
    obtain rfl := List.mem_singleton.1 hname
    exact ⟨id, hbase, hget⟩

/-- The names in placed fields are those of the structs of the members.

**Proof sketch.** Induction on the placing. Fillers have no names, and the field of a member has
that of its struct (`names_of_memberField`). -/
theorem Placed.names {named : Member → String → Option Footprint} {bound start stop : Nat}
    {members : List Member} {fields : List Field}
    (h : Placed l owner named bound start members fields stop) {field : Field}
    (hfield : field ∈ fields) {name : String} (hname : name ∈ field.type.names) :
    ∃ mem ∈ members, ∃ id, mem.ty.base = .struct id ∧ l.names.get? id = some name := by
  induction h with
  | done => cases hfield
  | filler _ _ ih =>
    rcases List.mem_cons.1 hfield with rfl | hfield
    · cases hname
    · exact ih hfield
  | member hplace _ _ _ _ _ ih =>
    rcases List.mem_cons.1 hfield with rfl | hfield
    · exact ⟨_, List.mem_cons_self, names_of_memberField hplace hname⟩
    · obtain ⟨mem, hmem, hid⟩ := ih hfield
      exact ⟨mem, List.mem_cons_of_mem _ hmem, hid⟩

/-- Where names mean the same for all members, the fields are taken one by one.

**Proof sketch.** Induction on the placing. Each field is taken with the names of its own member,
and here these are the same for all. -/
theorem Placed.fieldFootprints?_eq {named : String → Option Footprint} {bound start stop : Nat}
    {members : List Member} {fields : List Field}
    (h : Placed l owner (fun _ => named) bound start members fields stop) :
    fieldFootprints? (fun _ => named) members fields =
      fields.mapM fun (f : Field) => f.type.footprint? named := by
  induction h with
  | done => rfl
  | filler _ _ ih =>
    rw [List.mapM_cons, ← ih]
    rfl
  | member hplace _ _ _ _ _ ih =>
    obtain ⟨-, -, hplain⟩ := memberField_place hplace
    rw [List.mapM_cons, ← ih]
    simp only [fieldFootprints?, hplain, Bool.false_eq_true, if_false]
    rfl

/-- The names in a declaration are those of the structs of its members.

**Proof sketch.** The fields of a declaration are placed (`declaration_placed`), and the names in
placed fields are those of the structs of members (`Placed.names`). -/
theorem names_of_declaration {st : StructType} {decl : StructDecl}
    (hst : l.module.struct? st.id = some st) (hsized : ∀ mem ∈ st.members, mem.IsSized)
    (h : l.declaration st = .ok decl) {name : String} (hname : name ∈ decl.names) :
    ∃ id ∈ st.children, l.names.get? id = some name := by
  obtain ⟨align, -, -, -, -, hplaced⟩ :=
    declaration_placed hst h (fun mem _ => knows_namedIn mem) hsized
  obtain ⟨field, hfield, hname⟩ := List.mem_flatMap.1 hname
  obtain ⟨mem, hmem, id, hbase, hget⟩ := hplaced.names hfield hname
  exact ⟨id, StructType.mem_children_iff.2 ⟨mem, hmem, hbase⟩, hget⟩

end Layout

/-! ## Resolving names -/

/-- What a type takes depends on the names in it.

**Proof sketch.** Induction on the type. A name is only looked up where it stands. -/
theorem HostType.footprint?_congr {named named' : String → Option Footprint} {t : HostType}
    (h : ∀ name ∈ t.names, named name = named' name) :
    t.footprint? named = t.footprint? named' := by
  induction t with
  | scalar s => rfl
  | named name => exact h name List.mem_cons_self
  | array elem count ih => rw [footprint?, footprint?, ih h]
  | padded elem words ih => rw [footprint?, footprint?, ih h]

/-- The footprint of a declared struct, placed by the rules of C. It comes from the printed types
alone: the offsets and sizes kept in the fields play no part. -/
def StructDecl.footprint? (named : String → Option Footprint) (decl : StructDecl) :
    Option Footprint :=
  (decl.fields.mapM fun (f : Field) => f.type.footprint? named).map Footprint.struct

/-- What a declaration takes depends on the names in it. -/
theorem StructDecl.footprint?_congr {named named' : String → Option Footprint} {decl : StructDecl}
    (h : ∀ name ∈ decl.names, named name = named' name) :
    decl.footprint? named = decl.footprint? named' := by
  have hfields (fields : List Field) (hsub : fields ⊆ decl.fields) :
      fields.mapM (fun (f : Field) => f.type.footprint? named) =
        fields.mapM fun (f : Field) => f.type.footprint? named' := by
    induction fields with
    | nil => rfl
    | cons f fields ih =>
      obtain ⟨hf, hfields⟩ := List.cons_subset.1 hsub
      have hsame : f.type.footprint? named = f.type.footprint? named' :=
        HostType.footprint?_congr fun name hname => h name (List.mem_flatMap.2 ⟨f, hf, hname⟩)
      rw [List.mapM_cons, List.mapM_cons, hsame, ih hfields]
  rw [footprint?, footprint?, hfields _ (List.Subset.refl _)]

/-- The footprints of names, declaration by declaration: each is taken with those of the names in
front of it. -/
def resolveFrom (named : String → Option Footprint) : List StructDecl → String → Option Footprint
  | [] => named
  | decl :: decls =>
    resolveFrom (fun name => if name = decl.name then decl.footprint? named else named name) decls

/-- The footprints of the names that declarations declare. A declaration is resolved with the names
of those in front of it. -/
def resolve (decls : List StructDecl) : String → Option Footprint :=
  resolveFrom (fun _ => none) decls

/-- Declarations are resolved one after the other, so those in front can be resolved first. -/
theorem resolveFrom_append (named : String → Option Footprint) (decls decls' : List StructDecl) :
    resolveFrom named (decls ++ decls') = resolveFrom (resolveFrom named decls) decls' := by
  induction decls generalizing named with
  | nil => rfl
  | cons decl decls ih => exact ih _

/-- Declarations under other names make no difference to a name.

**Proof sketch.** Induction on the declarations. Each of them changes what its own name stands
for. -/
theorem resolveFrom_of_notMem {named : String → Option Footprint} {decls : List StructDecl}
    {name : String} (h : name ∉ decls.map (·.name)) :
    resolveFrom named decls name = named name := by
  induction decls generalizing named with
  | nil => rfl
  | cons decl decls ih =>
    rw [List.map_cons, List.mem_cons, not_or] at h
    rw [resolveFrom, ih h.2, if_neg h.1]

/-- Every name in a declaration is that of an earlier declaration. So the declarations can be
resolved one after the other. -/
def RefersBack (decls : List StructDecl) : Prop :=
  ∀ (k : Nat) (decl : StructDecl), decls[k]? = some decl → ∀ name ∈ decl.names,
    ∃ j < k, ∃ d, decls[j]? = some d ∧ d.name = name

/-- The names in a declaration are among those in front of it. -/
theorem RefersBack.mem_front {front back : List StructDecl} {decl : StructDecl}
    (h : RefersBack (front ++ decl :: back)) {name : String} (hname : name ∈ decl.names) :
    name ∈ front.map (·.name) := by
  have hdecl : (front ++ decl :: back)[front.length]? = some decl := by simp
  obtain ⟨j, hj, d, hd, rfl⟩ := h _ decl hdecl name hname
  rw [List.getElem?_append_left hj] at hd
  exact List.mem_map_of_mem (List.mem_of_getElem? hd)

/-- **Names are resolved.** Where no name is declared twice and none is used before it is declared,
a name has the footprint of the declaration under it, all names in which are resolved alike.

**Proof sketch.** The declaration was taken with the names in front of it. Those are the names in
it, and no later declaration makes a difference to them. -/
theorem resolve_name {decls : List StructDecl} (hnodup : (decls.map (·.name)).Nodup)
    (hback : RefersBack decls) {decl : StructDecl} (hdecl : decl ∈ decls) :
    resolve decls decl.name = decl.footprint? (resolve decls) := by
  obtain ⟨front, back, rfl⟩ := List.append_of_mem hdecl
  have hresolve (name : String) : resolve (front ++ decl :: back) name =
      resolveFrom (fun name => if name = decl.name then decl.footprint? (resolve front)
        else resolve front name) back name := by
    rw [resolve, resolveFrom_append]
    rfl
  rw [List.map_append, List.map_cons, List.nodup_append, List.nodup_cons] at hnodup
  obtain ⟨-, ⟨hlast, -⟩, hapart⟩ := hnodup
  rw [hresolve, resolveFrom_of_notMem hlast, if_pos rfl]
  refine StructDecl.footprint?_congr fun name hname => ?_
  have hfront := hback.mem_front hname
  have hother : name ≠ decl.name := hapart name hfront _ List.mem_cons_self
  have hlater : name ∉ back.map (·.name) :=
    fun hmem => hapart name hfront _ (List.mem_cons_of_mem _ hmem) rfl
  rw [hresolve, resolveFrom_of_notMem hlater, if_neg hother]

end ShaderBindings
