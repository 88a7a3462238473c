import ScriptLex.Proofs.TomlDocument
import Mathlib.Data.List.Induction
import Mathlib.Data.List.Perm.Basic

/-! Tables that documents make up, whatever the order and the form they are written in.

A document writes values under keys of their own and, perhaps, values in a table under one name: by
dotted keys, in braces or below a header. A table is described by what it holds, in no order. -/

set_option autoImplicit false

namespace ScriptLex.Toml

open ScriptLex.Text

/-! ### What a table holds -/

namespace Table

variable {table : Table} {pairs pairs' : List (String × Value)} {key : String} {value : Value}

/-- The values of a table under their keys, and no others. -/
def Holds (table : Table) (pairs : List (String × Value)) : Prop :=
  ∀ key value, table.get? key = some value ↔ (key, value) ∈ pairs

def keys (pairs : List (String × Value)) : List String := pairs.map Prod.fst

theorem get?_cons (entry : String × Value) (table : Table) (key : String) :
    get? (entry :: table) key = if key = entry.1 then some entry.2 else get? table key := by
  by_cases same : key = entry.1
  · rw [get?, List.lookup_cons, if_pos same, same, beq_self_eq_true]
  · rw [get?, List.lookup_cons, if_neg same, beq_eq_false_iff_ne.2 same]
    rfl

theorem get?_set (table : Table) (key : String) (value : Value) (key' : String) :
    (table.set key value).get? key' = if key' = key then some value else table.get? key' := by
  induction table with
  | nil => exact get?_cons (key, value) [] key'
  | cons entry table ih =>
    rw [set]
    by_cases here : entry.1 = key
    · rw [if_pos here, get?_cons, get?_cons, here]
      by_cases same : key' = key <;> simp [same]
    · rw [if_neg here, get?_cons, get?_cons, ih]
      by_cases same : key' = key
      · subst same
        simp [Ne.symm here]
      · simp [same]

theorem holds_nil : Holds [] [] := fun _ _ => by simp [get?]

theorem Holds.congr (holds : Holds table pairs) (same : ∀ pair, pair ∈ pairs ↔ pair ∈ pairs') :
    Holds table pairs' := fun key value => (holds key value).trans (same _)

theorem Holds.get?_eq_none (holds : Holds table pairs) (fresh : key ∉ keys pairs) :
    table.get? key = none := by
  rw [Option.eq_none_iff_forall_ne_some]
  intro value found
  exact fresh (List.mem_map_of_mem ((holds key value).1 found))

theorem Holds.get?_last (holds : Holds table (pairs ++ [(key, value)])) :
    table.get? key = some value :=
  (holds key value).2 (List.mem_append_right _ List.mem_cons_self)

/-- A value is set under a key: nothing is said of what stood there before. -/
theorem holds_set (others : ∀ key' ≠ key, ∀ value', table.get? key' = some value' ↔
    (key', value') ∈ pairs) (fresh : key ∉ keys pairs) :
    Holds (table.set key value) (pairs ++ [(key, value)]) := by
  intro key' value'
  by_cases same : key' = key
  · subst same
    have absent : (key', value') ∉ pairs := fun member => fresh (List.mem_map_of_mem member)
    simp [get?_set, absent, eq_comm]
  · rw [get?_set, if_neg same, others key' same value']
    simp [same]

theorem Holds.set (holds : Holds table pairs) (fresh : key ∉ keys pairs) :
    Holds (table.set key value) (pairs ++ [(key, value)]) :=
  holds_set (fun key' _ value' => holds key' value') fresh

theorem Holds.replace {before : Value} (holds : Holds table (pairs ++ [(key, before)]))
    (fresh : key ∉ keys pairs) : Holds (table.set key value) (pairs ++ [(key, value)]) :=
  holds_set (fun key' other value' => by rw [holds key' value']; simp [other]) fresh

end Table

/-! ### Entries -/

namespace Entry

/-- An entry under a key of its own. -/
def plain (pair : String × Value) : Entry := ⟨[], pair.1, pair.2⟩

/-- An entry under a key of two names. -/
def under (name : String) (pair : String × Value) : Entry := ⟨[name], pair.1, pair.2⟩

theorem exists_spelled_plain {name : String} {value : Value} (bare : Bare name)
    (scalar : ∃ text, SpellsScalar value text) :
    ∃ text, SpellsStatement (.entry (plain (name, value))) text := by
  obtain ⟨text, scalar⟩ := scalar
  obtain ⟨front, keys⟩ := bare.spellsKey
  refine ⟨_, .entry (.mk keys Blank.nil (.scalar scalar)) ?_⟩
  exact front.of_ne_nil bare.nonempty _

end Entry

namespace Table

variable {table inner : Table} {name key : String} {value : Value}

theorem insert_plain (fresh : table.get? key = none) :
    table.insert (.plain (key, value)) = some (table.set key value) := by
  simp [insert, Entry.plain, modify, fresh]

theorem insert_under_new (fresh : table.get? name = none) :
    table.insert (.under name (key, value)) =
      some (table.set name (.table .dotted [(key, value)])) := by
  have empty : get? [] key = none := rfl
  simp [insert, Entry.under, modify, fresh, empty, set]

theorem insert_under (found : table.get? name = some (.table .dotted inner))
    (fresh : inner.get? key = none) :
    table.insert (.under name (key, value)) =
      some (table.set name (.table .dotted (inner.set key value))) := by
  simp [insert, Entry.under, modify, found, fresh]

/-- `Assembled name own grouped table`: the table holds some values under keys of their own, and
others in a table that dotted keys made, which is there only if it holds something. -/
inductive Assembled (name : String) (own : List (String × Value)) :
    List (String × Value) → Table → Prop where
  | plain {table : Table} (holds : Holds table own) : Assembled name own [] table
  | grouped {grouped : List (String × Value)} {table inner : Table} (nonempty : grouped ≠ [])
      (apart : name ∉ keys own) (holds : Holds table (own ++ [(name, .table .dotted inner)]))
      (holds' : Holds inner grouped) : Assembled name own grouped table

variable {own grouped : List (String × Value)}

theorem Assembled.exists_insert_plain (assembled : Assembled name own grouped table)
    (fresh : key ∉ keys own) (other : grouped ≠ [] → key ≠ name) :
    ∃ table', table.insert (.plain (key, value)) = some table' ∧
      Assembled name (own ++ [(key, value)]) grouped table' := by
  cases assembled with
  | plain holds =>
    exact ⟨_, insert_plain (holds.get?_eq_none fresh), .plain (holds.set fresh)⟩
  | @grouped _ _ inner nonempty apart holds holds' =>
    -- The name of the group is taken as well.
    have fresh' : key ∉ keys (own ++ [(name, .table .dotted inner)]) := by
      simpa [keys] using ⟨by simpa [keys] using fresh, other nonempty⟩
    refine ⟨_, insert_plain (holds.get?_eq_none fresh'), .grouped nonempty ?_ ?_ holds'⟩
    · simpa [keys] using ⟨by simpa [keys] using apart, (other nonempty).symm⟩
    · exact (holds.set fresh').congr fun pair => by simp [or_comm]

theorem Assembled.exists_insert_under (assembled : Assembled name own grouped table)
    (apart : name ∉ keys own) (fresh : key ∉ keys grouped) :
    ∃ table', table.insert (.under name (key, value)) = some table' ∧
      Assembled name own (grouped ++ [(key, value)]) table' := by
  cases assembled with
  | plain holds =>
    refine ⟨_, insert_under_new (holds.get?_eq_none apart), ?_⟩
    exact .grouped (by simp) apart (holds.set apart) (holds_nil.set fresh)
  | grouped nonempty _ holds holds' =>
    refine ⟨_, insert_under holds.get?_last (holds'.get?_eq_none fresh), ?_⟩
    exact .grouped (by simp) apart (holds.replace apart) (holds'.set fresh)

/-- The values under keys of their own, in the order of writing. -/
def ownOf (entries : List Entry) : List (String × Value) :=
  entries.filterMap fun entry => if entry.path = [] then some (entry.key, entry.value) else none

/-- The values under dotted keys that begin with a name. -/
def groupedOf (name : String) (entries : List Entry) : List (String × Value) :=
  entries.filterMap fun entry => if entry.path = [name] then some (entry.key, entry.value) else none

/-- No key is given twice. -/
structure Distinct (name : String) (own grouped : List (String × Value)) : Prop where
  once : (keys own).Nodup
  groupedOnce : (keys grouped).Nodup
  apart : grouped ≠ [] → name ∉ keys own

theorem insertAll_append (table : Table) (entries entries' : List Entry) :
    table.insertAll (entries ++ entries') =
      (table.insertAll entries).bind (insertAll · entries') := List.foldlM_append

theorem insertAll_singleton (table : Table) (entry : Entry) :
    table.insertAll [entry] = table.insert entry := by
  simp [insertAll]

theorem nodup_keys_append (pairs : List (String × Value)) (key : String) (value : Value) :
    (keys (pairs ++ [(key, value)])).Nodup ↔ (keys pairs).Nodup ∧ key ∉ keys pairs := by
  rw [keys, List.map_append, List.map_singleton, (List.perm_append_singleton _ _).nodup_iff,
    List.nodup_cons, and_comm]
  rfl

theorem Distinct.plain (distinct : Distinct name (own ++ [(key, value)]) grouped) :
    Distinct name own grouped ∧ key ∉ keys own ∧ (grouped ≠ [] → key ≠ name) := by
  obtain ⟨once, fresh⟩ := (nodup_keys_append own key value).1 distinct.once
  have apart : grouped ≠ [] → name ∉ keys own ∧ key ≠ name := fun nonempty => by
    have apart := distinct.apart nonempty
    rw [keys, List.map_append, List.mem_append, not_or] at apart
    exact ⟨apart.1, fun same => apart.2 (by simp [same])⟩
  exact ⟨⟨once, distinct.groupedOnce, fun nonempty => (apart nonempty).1⟩, fresh,
    fun nonempty => (apart nonempty).2⟩

theorem Distinct.under (distinct : Distinct name own (grouped ++ [(key, value)])) :
    Distinct name own grouped ∧ key ∉ keys grouped ∧ name ∉ keys own := by
  obtain ⟨once, fresh⟩ := (nodup_keys_append grouped key value).1 distinct.groupedOnce
  have apart : name ∉ keys own := distinct.apart (by simp)
  exact ⟨⟨distinct.once, once, fun _ => apart⟩, fresh, apart⟩

theorem Distinct.perm {own' grouped' : List (String × Value)} (distinct : Distinct name own grouped)
    (ownPerm : own.Perm own') (groupedPerm : grouped.Perm grouped') :
    Distinct name own' grouped' where
  once := (ownPerm.map Prod.fst).nodup_iff.1 distinct.once
  groupedOnce := (groupedPerm.map Prod.fst).nodup_iff.1 distinct.groupedOnce
  apart nonempty member := by
    have nonempty : grouped ≠ [] := by
      rintro rfl
      exact nonempty groupedPerm.nil_eq.symm
    exact distinct.apart nonempty ((ownPerm.map Prod.fst).mem_iff.2 member)

/-- Entries with distinct keys make up a table that holds their values. -/
theorem exists_insertAll {entries : List Entry}
    (paths : ∀ entry ∈ entries, entry.path = [] ∨ entry.path = [name])
    (distinct : Distinct name (ownOf entries) (groupedOf name entries)) :
    ∃ table, insertAll [] entries = some table ∧
      Assembled name (ownOf entries) (groupedOf name entries) table := by
  -- On the last entry, which finds the table that those in front of it made.
  induction entries using List.reverseRecOn with
  | nil => exact ⟨[], rfl, .plain holds_nil⟩
  | append_singleton entries entry ih =>
    have earlier := ih fun entry member => paths entry (List.mem_append_left _ member)
    obtain ⟨path, key, value⟩ := entry
    obtain rfl | rfl := paths _ (List.mem_append_right _ List.mem_cons_self)
    · have own : ownOf (entries ++ [⟨[], key, value⟩]) = ownOf entries ++ [(key, value)] := by
        simp [ownOf]
      have grouped : groupedOf name (entries ++ [⟨[], key, value⟩]) = groupedOf name entries := by
        simp [groupedOf]
      rw [own, grouped] at distinct ⊢
      obtain ⟨distinct, fresh, other⟩ := distinct.plain
      obtain ⟨table, made, assembled⟩ := earlier distinct
      rw [insertAll_append, made, Option.bind_some, insertAll_singleton]
      exact assembled.exists_insert_plain fresh other
    · have own : ownOf (entries ++ [⟨[name], key, value⟩]) = ownOf entries := by
        simp [ownOf]
      have grouped : groupedOf name (entries ++ [⟨[name], key, value⟩]) =
          groupedOf name entries ++ [(key, value)] := by
        simp [groupedOf]
      rw [own, grouped] at distinct ⊢
      obtain ⟨distinct, fresh, apart⟩ := distinct.under
      obtain ⟨table, made, assembled⟩ := earlier distinct
      rw [insertAll_append, made, Option.bind_some, insertAll_singleton]
      exact assembled.exists_insert_under apart fresh

/-! ### Documents -/

/-- `Lays name own grouped? statements`: the statements give the values `own` under keys of their own
and the values `grouped?` in a table under the name, in some order and one of the forms that there
are. -/
inductive Lays (name : String) (own : List (String × Value)) :
    Option (List (String × Value)) → List Statement → Prop where
  | absent {entries : List Entry} (order : entries.Perm (own.map Entry.plain)) :
      Lays name own none (entries.map .entry)
  | dotted {grouped : List (String × Value)} {entries : List Entry} (nonempty : grouped ≠ [])
      (order : entries.Perm (own.map Entry.plain ++ grouped.map (Entry.under name))) :
      Lays name own (some grouped) (entries.map .entry)
  | inline {grouped : List (String × Value)} {inner : Table} {entries : List Entry}
      (holds : Holds inner grouped)
      (order : entries.Perm ((own ++ [(name, Value.table .inline inner)]).map Entry.plain)) :
      Lays name own (some grouped) (entries.map .entry)
  | header {grouped : List (String × Value)} {entries entries' : List Entry}
      (order : entries.Perm (own.map Entry.plain))
      (order' : entries'.Perm (grouped.map Entry.plain)) :
      Lays name own (some grouped)
        (entries.map .entry ++ .header [] name :: entries'.map .entry)

/-- `Gives name own grouped? table`: the table holds just what is given. -/
inductive Gives (name : String) (own : List (String × Value)) :
    Option (List (String × Value)) → Table → Prop where
  | absent {table : Table} (holds : Holds table own) : Gives name own none table
  | present {form : Form} {grouped : List (String × Value)} {table inner : Table}
      (holds : Holds table (own ++ [(name, .table form inner)])) (holds' : Holds inner grouped) :
      Gives name own (some grouped) table

theorem Gives.get?_eq_some_iff {grouped? : Option (List (String × Value))}
    (gives : Gives name own grouped? table) (other : key ≠ name) :
    table.get? key = some value ↔ (key, value) ∈ own := by
  cases gives with
  | absent holds => exact holds key value
  | present holds =>
    rw [holds key value]
    simp [other]

theorem Gives.get?_eq_none (gives : Gives name own none table) (apart : name ∉ keys own) :
    table.get? name = none := by
  cases gives with
  | absent holds => exact holds.get?_eq_none apart

theorem Gives.exists_inner (gives : Gives name own (some grouped) table) :
    ∃ form inner, table.get? name = some (.table form inner) ∧ Holds inner grouped := by
  cases gives with
  | present holds holds' => exact ⟨_, _, holds.get?_last, holds'⟩

theorem ownOf_append (entries entries' : List Entry) :
    ownOf (entries ++ entries') = ownOf entries ++ ownOf entries' := List.filterMap_append

theorem groupedOf_append (name : String) (entries entries' : List Entry) :
    groupedOf name (entries ++ entries') = groupedOf name entries ++ groupedOf name entries' :=
  List.filterMap_append

theorem ownOf_plain (pairs : List (String × Value)) : ownOf (pairs.map Entry.plain) = pairs := by
  induction pairs with
  | nil => rfl
  | cons pair pairs ih => exact congrArg (pair :: ·) ih

theorem ownOf_under (name : String) (pairs : List (String × Value)) :
    ownOf (pairs.map (Entry.under name)) = [] := by
  induction pairs with
  | nil => rfl
  | cons pair pairs ih => exact ih

theorem groupedOf_plain (name : String) (pairs : List (String × Value)) :
    groupedOf name (pairs.map Entry.plain) = [] := by
  induction pairs with
  | nil => rfl
  | cons pair pairs ih => exact ih

theorem groupedOf_under (name : String) (pairs : List (String × Value)) :
    groupedOf name (pairs.map (Entry.under name)) = pairs := by
  induction pairs with
  | nil => rfl
  | cons pair pairs ih =>
    rw [List.map_cons, groupedOf, List.filterMap_cons, Entry.under, if_pos rfl]
    exact congrArg (pair :: ·) ih

/-- The order of entries makes no difference to what the table holds. -/
theorem exists_insertAll_perm {entries : List Entry} (distinct : Distinct name own grouped)
    (order : entries.Perm (own.map Entry.plain ++ grouped.map (Entry.under name))) :
    ∃ table own' grouped', insertAll [] entries = some table ∧ own'.Perm own ∧
      grouped'.Perm grouped ∧ Assembled name own' grouped' table := by
  have ownPerm : (ownOf entries).Perm own := by
    have perm : (ownOf entries).Perm (ownOf _) := order.filterMap _
    rwa [ownOf_append, ownOf_plain, ownOf_under, List.append_nil] at perm
  have groupedPerm : (groupedOf name entries).Perm grouped := by
    have perm : (groupedOf name entries).Perm (groupedOf name _) := order.filterMap _
    rwa [groupedOf_append, groupedOf_plain, groupedOf_under, List.nil_append] at perm
  have distinct' : Distinct name (ownOf entries) (groupedOf name entries) :=
    distinct.perm ownPerm.symm groupedPerm.symm
  have paths : ∀ entry ∈ entries, entry.path = [] ∨ entry.path = [name] := by
    intro entry member
    rcases List.mem_append.1 (order.mem_iff.1 member) with plain | under
    · obtain ⟨pair, -, rfl⟩ := List.mem_map.1 plain
      exact .inl rfl
    · obtain ⟨pair, -, rfl⟩ := List.mem_map.1 under
      exact .inr rfl
  obtain ⟨table, made, assembled⟩ := exists_insertAll paths distinct'
  exact ⟨table, _, _, made, ownPerm, groupedPerm, assembled⟩

theorem exists_insertAll_plain {entries : List Entry} (once : (keys own).Nodup)
    (order : entries.Perm (own.map Entry.plain)) :
    ∃ table, insertAll [] entries = some table ∧ Holds table own := by
  -- With nothing grouped the name is of no account.
  have distinct : Distinct "" own [] := ⟨once, List.nodup_nil, fun nonempty => absurd rfl nonempty⟩
  obtain ⟨table, own', grouped', made, ownPerm, groupedPerm, assembled⟩ :=
    exists_insertAll_perm distinct (by simpa using order)
  obtain rfl := groupedPerm.eq_nil
  cases assembled with
  | plain holds => exact ⟨table, made, holds.congr fun _ => ownPerm.mem_iff⟩
  | grouped nonempty => exact absurd rfl nonempty

theorem addSection_new {entries : List Entry} (fresh : table.get? name = none)
    (made : insertAll [] entries = some inner) :
    table.addSection ⟨false, [], name, entries⟩ = some (table.set name (.table .header inner)) := by
  simp [addSection, modify, fresh, made]

theorem sections_entries (entries : List Entry) :
    sections (entries.map .entry) = (entries, []) := by
  induction entries with
  | nil => rfl
  | cons entry entries ih => simp [sections, ih]

theorem sections_header (entries entries' : List Entry) (path : List String) (key : String) :
    sections (entries.map .entry ++ .header path key :: entries'.map .entry) =
      (entries, [⟨false, path, key, entries'⟩]) := by
  induction entries with
  | nil => simp [sections, sections_entries]
  | cons entry entries ih => simp [sections, ih]

/-- What a document denotes is what it gives, in whichever form and order. -/
theorem Lays.exists_table {statements : List Statement}
    {grouped? : Option (List (String × Value))} (lays : Lays name own grouped? statements)
    (once : (keys own).Nodup) (apart : name ∉ keys own)
    (once' : ∀ grouped, grouped? = some grouped → (keys grouped).Nodup) :
    ∃ table, tableOf? statements = some table ∧ Gives name own grouped? table := by
  cases lays with
  | absent order =>
    obtain ⟨table, made, holds⟩ := exists_insertAll_plain once order
    exact ⟨table, by simp [tableOf?, sections_entries, made], .absent holds⟩
  | @dotted grouped entries nonempty order =>
    have distinct : Distinct name own grouped := ⟨once, once' grouped rfl, fun _ => apart⟩
    obtain ⟨table, own', grouped', made, ownPerm, groupedPerm, assembled⟩ :=
      exists_insertAll_perm distinct order
    refine ⟨table, by simp [tableOf?, sections_entries, made], ?_⟩
    cases assembled with
    | plain => exact absurd groupedPerm.nil_eq.symm nonempty
    | @grouped _ _ inner _ _ holds holds' =>
      have holds : Holds table (own ++ [(name, .table .dotted inner)]) := holds.congr fun pair => by
        rw [List.mem_append, List.mem_append, ownPerm.mem_iff]
      exact .present holds (holds'.congr fun _ => groupedPerm.mem_iff)
  | @inline grouped inner entries holds order =>
    have once : (keys (own ++ [(name, Value.table .inline inner)])).Nodup :=
      (nodup_keys_append own name _).2 ⟨once, apart⟩
    obtain ⟨table, made, holds'⟩ := exists_insertAll_plain once order
    exact ⟨table, by simp [tableOf?, sections_entries, made], .present holds' holds⟩
  | @header grouped entries entries' order order' =>
    obtain ⟨table, made, holds⟩ := exists_insertAll_plain once order
    obtain ⟨inner, made', holds'⟩ := exists_insertAll_plain (once' grouped rfl) order'
    have added := addSection_new (holds.get?_eq_none apart) made'
    refine ⟨table.set name (.table .header inner), ?_, .present (holds.set apart) holds'⟩
    simp [tableOf?, sections_header, made, added]

end Table

end ScriptLex.Toml
