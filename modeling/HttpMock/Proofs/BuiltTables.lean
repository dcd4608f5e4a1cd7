/-
# Tables from keys of one part

A table may come about in many ways, from dotted keys and from headers that lead through others.  In
the plainest way every key has one part and is given once, and a header opens a table under a key
that is new.  Then nothing can go wrong, and the table that is put together has the keys with their
values, in the order in which they are given, and after them the tables of the headers.

The main result is `Toml.build?_plainLines`.
-/
import Mathlib.Tactic.Common
import HttpMock.Toml.Document

namespace HttpMock
namespace Toml

/-- Keys of one part with their values, as they are read. -/
def plainPairs (entries : Table) : List (List String × Value) :=
  entries.map fun entry => ([entry.1], entry.2)

/-- Entries that no header and no dotted key leads through. -/
def leaves (entries : Table) : Entries := entries.map fun entry => (entry.1, .leaf entry.2)

/-- Entries that a header has opened. -/
def branches (tables : List (String × Table)) : Entries :=
  tables.map fun table => (table.1, .branch .header (leaves table.2))

/-- Tables with their keys, as entries. -/
def tableEntries (tables : List (String × Table)) : Table :=
  tables.map fun table => (table.1, .table table.2)

/-- The header of a table under a key of one part. -/
def plainHeader (key : String) : Header := ⟨false, [], key⟩

@[simp] lemma map_fst_leaves (entries : Table) :
    (leaves entries).map Prod.fst = entries.map Prod.fst := by
  simp [leaves]

@[simp] lemma map_fst_tableEntries (tables : List (String × Table)) :
    (tableEntries tables).map Prod.fst = tables.map Prod.fst := by
  simp [tableEntries]

/-! ### Entries under new keys -/

/-- Under a new key nothing stands, and what is put there comes last. -/
lemma alter?_of_not_mem {key : String} {entries : Entries} (hkey : key ∉ entries.map Prod.fst)
    (change : Option Node → Option Node) :
    alter? key change entries = (change none).map fun node => entries ++ [(key, node)] := by
  induction entries with
  | nil => rfl
  | cons entry entries ih =>
    obtain ⟨hne, hkey⟩ := not_or.1 (mt List.mem_cons.2 hkey)
    rw [alter?, if_neg (Ne.symm hne), ih hkey, Option.map_map]
    rfl

lemma assign?_of_not_mem {key : String} {entries : Entries} (hkey : key ∉ entries.map Prod.fst)
    (v : Value) : assign? v true [key] entries = some (entries ++ [(key, .leaf v)]) := by
  rw [assign?.eq_2, alter?_of_not_mem hkey]
  rfl

/-- Distinct new keys are given one after another. -/
lemma assignAll?_plainPairs {entries : Table} {root : Entries}
    (hnodup : (root.map Prod.fst ++ entries.map Prod.fst).Nodup) :
    assignAll? (plainPairs entries) root = some (root ++ leaves entries) := by
  -- over the entries, for every table that they are put into, as it grows with each of them
  induction entries generalizing root with
  | nil => simp [assignAll?, plainPairs, leaves]
  | cons entry entries ih =>
    have hkey : entry.1 ∉ root.map Prod.fst := by
      intro hmem
      exact (List.nodup_append.1 hnodup).2.2 _ hmem _ List.mem_cons_self rfl
    have hrest : ((root ++ [(entry.1, Node.leaf entry.2)]).map Prod.fst
        ++ entries.map Prod.fst).Nodup := by
      simpa using hnodup
    have hstep : assignAll? (plainPairs (entry :: entries)) root
        = (assign? entry.2 true [entry.1] root).bind (assignAll? (plainPairs entries)) := rfl
    rw [hstep, assign?_of_not_mem hkey, Option.bind_some, ih hrest]
    simp [leaves]

/-- A header opens a table under a new key, with the values that follow. -/
lemma addTable?_plainHeader {key : String} {root : Entries} (hkey : key ∉ root.map Prod.fst)
    {entries : Table} (hnodup : (entries.map Prod.fst).Nodup) :
    addTable? (plainHeader key) (plainPairs entries) root
      = some (root ++ [(key, .branch .header (leaves entries))]) := by
  have htable : assignAll? (plainPairs entries) [] = some (leaves entries) :=
    assignAll?_plainPairs (by simpa using hnodup)
  rw [addTable?, plainHeader, within?, alter?_of_not_mem hkey]
  dsimp only
  rw [htable]
  rfl

/-! ### Finished tables -/

lemma toTable_append (entries more : Entries) :
    toTable (entries ++ more) = toTable entries ++ toTable more := by
  induction entries with
  | nil => rfl
  | cons entry entries ih => rw [List.cons_append, toTable, ih]; rfl

lemma toTable_leaves (entries : Table) : toTable (leaves entries) = entries := by
  induction entries with
  | nil => rfl
  | cons entry entries ih =>
    have hstep : toTable (leaves (entry :: entries))
        = (entry.1, (Node.leaf entry.2).toValue) :: toTable (leaves entries) := rfl
    rw [hstep, ih]
    rfl

lemma toTable_branches (tables : List (String × Table)) :
    toTable (branches tables) = tableEntries tables := by
  induction tables with
  | nil => rfl
  | cons table tables ih =>
    have hstep : toTable (branches (table :: tables))
        = (table.1, .table (toTable (leaves table.2))) :: toTable (branches tables) := rfl
    rw [hstep, toTable_leaves, ih]
    rfl

/-! ### Lines -/

/-- The lines that give values under keys of one part. -/
def plainLines (entries : Table) : List Line := entries.map fun entry => .pair [entry.1] entry.2

/-- The lines of tables under keys of one part. -/
def tableLines (tables : List (String × Table)) : List Line :=
  tables.flatMap fun table => .header (plainHeader table.1) :: plainLines table.2

lemma sections_plainLines (entries : Table) (lines : List Line) :
    sections (plainLines entries ++ lines)
      = (plainPairs entries ++ (sections lines).1, (sections lines).2) := by
  induction entries with
  | nil => rfl
  | cons entry entries ih =>
    have hstep : plainLines (entry :: entries) ++ lines
        = .pair [entry.1] entry.2 :: (plainLines entries ++ lines) := rfl
    rw [hstep, sections, ih]
    rfl

lemma sections_tableLines (tables : List (String × Table)) :
    sections (tableLines tables)
      = ([], tables.map fun table => (plainHeader table.1, plainPairs table.2)) := by
  induction tables with
  | nil => rfl
  | cons table tables ih =>
    have hstep : tableLines (table :: tables)
        = .header (plainHeader table.1) :: (plainLines table.2 ++ tableLines tables) := rfl
    rw [hstep, sections, sections_plainLines, ih]
    simp

/-- Tables under distinct new keys are opened one after another. -/
lemma foldlM_addTable?_plain {tables : List (String × Table)} {root : Entries}
    (hnodup : (root.map Prod.fst ++ tables.map Prod.fst).Nodup)
    (hentries : ∀ table ∈ tables, (table.2.map Prod.fst).Nodup) :
    (tables.map fun table => (plainHeader table.1, plainPairs table.2)).foldlM
        (fun root (h, pairs) => addTable? h pairs root) root
      = some (root ++ branches tables) := by
  induction tables generalizing root with
  | nil => simp [branches]
  | cons table tables ih =>
    obtain ⟨htable, hentries⟩ := List.forall_mem_cons.1 hentries
    have hkey : table.1 ∉ root.map Prod.fst := by
      intro hmem
      exact (List.nodup_append.1 hnodup).2.2 _ hmem _ List.mem_cons_self rfl
    have hrest : ((root ++ [(table.1, Node.branch .header (leaves table.2))]).map Prod.fst
        ++ tables.map Prod.fst).Nodup := by
      simpa using hnodup
    rw [List.map_cons, List.foldlM_cons]
    dsimp only
    rw [addTable?_plainHeader hkey htable, Option.bind_eq_bind, Option.bind_some, ih hrest hentries]
    simp [branches]

/-- **Keys of one part make the table that has them**, with the tables of the headers at the end. -/
theorem build?_plainLines {entries : Table} {tables : List (String × Table)}
    (hnodup : (entries.map Prod.fst ++ tables.map Prod.fst).Nodup)
    (hentries : ∀ table ∈ tables, (table.2.map Prod.fst).Nodup) :
    build? (plainLines entries ++ tableLines tables)
      = some (entries ++ tableEntries tables) := by
  have hroot : assignAll? (plainPairs entries) [] = some (leaves entries) :=
    assignAll?_plainPairs (by simpa using (List.nodup_append.1 hnodup).1)
  have hkeys : ((leaves entries).map Prod.fst ++ tables.map Prod.fst).Nodup := by
    simpa using hnodup
  have htables := foldlM_addTable?_plain hkeys hentries
  rw [build?, sections_plainLines, sections_tableLines]
  simp only [List.append_nil, hroot, Option.bind_eq_bind, Option.bind_some, htables]
  rw [toTable_append, toTable_leaves, toTable_branches]

end Toml
end HttpMock
