/-
# Documents as they are written

A row of a document gives a value under a key, or opens a table.  Here a key stands without quotes,
with one blank on either side of the sign of equality, and a table that is given in one row has its
entries between braces, parted by commas.  A page is made of such rows: first those that give a
value, in any order, then those of the tables that have a header.  Every page whose keys differ is
read as the table that it writes.

* `Toml.key?_append`: a key is read up to the first character that cannot be part of it;
* `Toml.Item.value?_spelling`: a scalar or a table in braces is read back;
* `Toml.lines?_rowsSpelling`: rows that end with their lines are read back;
* `Toml.Page.read?_text`: a page is read back.
-/
import HttpMock.Proofs.BuiltTables
import HttpMock.Proofs.WrittenScalars

namespace HttpMock
namespace Toml

/-! ### Keys -/

/-- A key that can stand without quotes. -/
structure IsBareKey (key : String) : Prop where
  ne_nil : key.toList ≠ []
  isBareKeyChar : ∀ c ∈ key.toList, isBareKeyChar c = true

/-- Keys that can stand without quotes and differ from each other. -/
structure AreBareKeys (keys : List String) : Prop where
  isBareKey : ∀ key ∈ keys, IsBareKey key
  nodup : keys.Nodup

lemma isBareKey_iff {key : String} :
    IsBareKey key ↔ key.toList ≠ [] ∧ key.toList.all isBareKeyChar = true := by
  rw [List.all_eq_true]
  exact ⟨fun h => ⟨h.ne_nil, h.isBareKeyChar⟩, fun h => ⟨h.1, h.2⟩⟩

lemma areBareKeys_iff {keys : List String} :
    AreBareKeys keys ↔ (∀ key ∈ keys, IsBareKey key) ∧ keys.Nodup :=
  ⟨fun h => ⟨h.isBareKey, h.nodup⟩, fun h => ⟨h.1, h.2⟩⟩

instance {key : String} : Decidable (IsBareKey key) := decidable_of_iff _ isBareKey_iff.symm

instance {keys : List String} : Decidable (AreBareKeys keys) :=
  decidable_of_iff _ areBareKeys_iff.symm

lemma AreBareKeys.sublist {keys fewer : List String} (hkeys : AreBareKeys keys)
    (hfewer : fewer.Sublist keys) : AreBareKeys fewer where
  isBareKey key hkey := hkeys.isBareKey key (hfewer.subset hkey)
  nodup := hkeys.nodup.sublist hfewer

lemma AreBareKeys.perm {keys order : List String} (hkeys : AreBareKeys keys)
    (horder : order.Perm keys) : AreBareKeys order where
  isBareKey key hkey := hkeys.isBareKey key (horder.mem_iff.1 hkey)
  nodup := horder.nodup_iff.2 hkeys.nodup

lemma ne_of_isBareKeyChar {c d : Char} (hc : isBareKeyChar c = true)
    (hd : isBareKeyChar d = false) : c ≠ d := by
  rintro rfl
  rw [hc] at hd
  exact absurd hd (by decide)

lemma IsBareKey.exists_eq_cons {key : String} (hkey : IsBareKey key) :
    ∃ c s, key.toList = c :: s ∧ Toml.isBareKeyChar c = true := by
  obtain ⟨c, s, hs⟩ := List.exists_cons_of_ne_nil hkey.ne_nil
  exact ⟨c, s, hs, hkey.isBareKeyChar c (by rw [hs]; exact List.mem_cons_self)⟩

variable {key : String}

/-- Nothing that begins with a key begins with a mark. -/
lemma IsBareKey.append_ne_cons (hkey : IsBareKey key) {mark : Char}
    (hmark : Toml.isBareKeyChar mark = false) (rest r : List Char) :
    key.toList ++ rest ≠ mark :: r := by
  obtain ⟨c, s, hs, hc⟩ := hkey.exists_eq_cons
  rw [hs, List.cons_append]
  intro h
  exact ne_of_isBareKeyChar hc hmark (List.cons.inj h).1

lemma simpleKey?_append (hkey : IsBareKey key) {c : Char} (hc : isBareKeyChar c = false)
    (rest : List Char) : simpleKey? (key.toList ++ c :: rest) = some (key, c :: rest) := by
  have htake : (key.toList ++ c :: rest).takeWhile isBareKeyChar = key.toList := by
    rw [List.takeWhile_append_of_pos hkey.isBareKeyChar,
      List.takeWhile_cons_of_neg (by simp [hc]), List.append_nil]
  have hdrop : (key.toList ++ c :: rest).dropWhile isBareKeyChar = c :: rest := by
    rw [List.dropWhile_append_of_pos hkey.isBareKeyChar, List.dropWhile_cons_of_neg (by simp [hc])]
  rw [simpleKey?.eq_3 _ (hkey.append_ne_cons (by decide) _) (hkey.append_ne_cons (by decide) _),
    htake, hdrop, if_neg (by simpa using hkey.ne_nil), String.ofList_toList]

/-- A key of one part ends where no point follows. -/
lemma key?_append (hkey : IsBareKey key) {c : Char} (hc : isBareKeyChar c = false)
    {rest : List Char} (hpoint : ∀ r, skipBlanks (c :: rest) ≠ '.' :: r) :
    key? (key.toList ++ c :: rest) = some ([key], skipBlanks (c :: rest)) := by
  rw [key?, show maxKeyParts = 79 + 1 from rfl, keyParts?.eq_2, simpleKey?_append hkey hc]
  dsimp only
  split
  · next r heq => exact absurd heq (hpoint r)
  · rfl

/-! ### Keys with values -/

/-- The characters over which a reader may go before something begins. -/
def layoutMarks : List Char := [' ', '\t', '\n', '\r', '#']

/-- A reader that goes over blanks and stops at what is no layout. -/
structure Skips (skip? : List Char → Option (List Char)) : Prop where
  blank : ∀ s, skip? (' ' :: s) = skip? s
  stop : ∀ c ∉ layoutMarks, ∀ s, skip? (c :: s) = some (c :: s)

lemma skips_skipBlanks : Skips fun s => some (skipBlanks s) where
  blank s := rfl
  stop c hc s := by
    simp only [layoutMarks, List.mem_cons, List.not_mem_nil, not_or, or_false] at hc
    rw [skipBlanks, List.dropWhile_cons_of_neg (by simp [hc])]

lemma skips_skipLines : Skips (skipLines? false) where
  blank s := by
    rw [skipLines?.eq_4 _ _ _ (by decide) (by simp)]
    rfl
  stop c hc s := by
    simp only [layoutMarks, List.mem_cons, List.not_mem_nil, not_or, or_false] at hc
    rw [skipLines?.eq_4 _ _ _ hc.2.2.1 (fun _ h => absurd h hc.2.2.2.1)]
    simp [hc]

/-- A key with a value, as they are written. -/
def pairSpelling (key : String) (value : List Char) : List Char :=
  key.toList ++ ' ' :: '=' :: ' ' :: value

/-- A key with a value is read back where the value is. -/
lemma pair?_append {skip? : List Char → Option (List Char)} (hskip : Skips skip?)
    {read? : List Char → Option (Value × List Char)} (hkey : IsBareKey key) {c : Char}
    (hc : c ∉ layoutMarks) {s rest : List Char} {v : Value}
    (hvalue : read? (c :: s ++ rest) = some (v, rest)) :
    pair? skip? read? (pairSpelling key (c :: s) ++ rest) = some (([key], v), rest) := by
  have hpath : key? (pairSpelling key (c :: s) ++ rest)
      = some ([key], '=' :: ' ' :: (c :: s ++ rest)) := by
    rw [pairSpelling, List.append_assoc]
    exact key?_append hkey (by decide) (by
      intro r h
      exact absurd (List.cons.inj h).1 (by decide))
  have hsign : skip? ('=' :: ' ' :: (c :: s ++ rest)) = some ('=' :: ' ' :: (c :: s ++ rest)) :=
    hskip.stop _ (by decide) _
  have hstart : skip? (' ' :: (c :: s ++ rest)) = some (c :: s ++ rest) := by
    rw [hskip.blank]
    exact hskip.stop c hc _
  rw [pair?, hpath]
  simp only [Option.bind_eq_bind, Option.bind_some, hsign, hstart, hvalue, Option.map_some]

/-- Nothing that is written for a value begins like layout. -/
lemma Scalar.exists_spelling_eq_cons (x : Scalar) :
    ∃ c s, x.spelling = c :: s ∧ c ∉ layoutMarks := by
  cases x with
  | string text => exact ⟨'"', _, rfl, by decide⟩
  | integer n =>
    obtain ⟨d, hd, s, hs, -⟩ := exists_decimalChars_eq_cons n.toNat
    have hdigit : ∀ d < 10, Text.digitChar d ∉ layoutMarks := by decide
    exact ⟨_, s, hs, hdigit d hd⟩
  | boolean b =>
    cases b with
    | true => exact ⟨'t', _, rfl, by decide⟩
    | false => exact ⟨'f', _, rfl, by decide⟩

/-- A scalar is read back with its key. -/
lemma pair?_scalar {skip? : List Char → Option (List Char)} (hskip : Skips skip?)
    (hkey : IsBareKey key) (x : Scalar) (depth : ℕ) {c : Char} (hc : c ∈ valueEnds)
    (rest : List Char) : pair? skip? (value? depth) (pairSpelling key x.spelling ++ c :: rest)
      = some (([key], x.toValue), c :: rest) := by
  obtain ⟨d, s, hs, hd⟩ := x.exists_spelling_eq_cons
  have hvalue := x.value?_spelling depth hc rest
  rw [hs] at hvalue ⊢
  exact pair?_append hskip hkey hd hvalue

/-! ### Tables in braces -/

/-- Keys with scalars, as the entries of a table. -/
def scalarEntries (entries : List (String × Scalar)) : Table :=
  entries.map fun entry => (entry.1, entry.2.toValue)

@[simp] lemma map_fst_scalarEntries (entries : List (String × Scalar)) :
    (scalarEntries entries).map Prod.fst = entries.map Prod.fst := by
  simp [scalarEntries]

/-- Keys with scalars as they are written between braces. -/
def entriesSpelling (entries : List (String × Scalar)) : List Char :=
  [',', ' '].intercalate (entries.map fun entry => pairSpelling entry.1 entry.2.spelling)

lemma entriesSpelling_singleton (entry : String × Scalar) :
    entriesSpelling [entry] = pairSpelling entry.1 entry.2.spelling := by
  simp [entriesSpelling]

lemma entriesSpelling_cons_cons (entry next : String × Scalar) (entries : List (String × Scalar)) :
    entriesSpelling (entry :: next :: entries)
      = pairSpelling entry.1 entry.2.spelling ++ ',' :: ' ' :: entriesSpelling (next :: entries) := by
  simp [entriesSpelling]

lemma itemsUpTo?_blank {α : Type} (close : Char) (item? : List Char → Option (α × List Char))
    (bound : ℕ) (s : List Char) :
    itemsUpTo? close item? bound (' ' :: s) = itemsUpTo? close item? bound s := by
  cases bound with
  | zero => rfl
  | succ bound => rw [itemsUpTo?.eq_2, itemsUpTo?.eq_2, skips_skipLines.blank]

/-- The first item is read, and the others after the comma. -/
lemma itemsUpTo?_cons {α : Type} {close : Char} {item? : List Char → Option (α × List Char)}
    {c d : Char} (hc : c ∉ layoutMarks) (hclose : c ≠ close) (hd : d ∉ layoutMarks)
    {s r : List Char} {a : α} (hitem : item? (c :: s) = some (a, d :: r)) (bound : ℕ) :
    itemsUpTo? close item? (bound + 1) (c :: s)
      = if d = close then some ([a], r)
        else if d = ',' then (itemsUpTo? close item? bound r).map fun (as, r) => (a :: as, r)
        else none := by
  rw [itemsUpTo?.eq_2, skips_skipLines.stop c hc]
  dsimp only
  rw [if_neg hclose, hitem]
  dsimp only
  rw [skips_skipLines.stop d hd]

lemma exists_pairSpelling_eq_cons (hkey : IsBareKey key) (value : List Char) :
    ∃ c s, pairSpelling key value = c :: s ∧ isBareKeyChar c = true := by
  obtain ⟨c, s, hs, hc⟩ := hkey.exists_eq_cons
  exact ⟨c, s ++ ' ' :: '=' :: ' ' :: value, by rw [pairSpelling, hs]; rfl, hc⟩

lemma not_mem_layoutMarks {c : Char} (hc : isBareKeyChar c = true) : c ∉ layoutMarks := by
  have hmarks : layoutMarks.all (fun mark => !isBareKeyChar mark) = true := by decide
  intro hmem
  exact ne_of_isBareKeyChar hc (by simpa using List.all_eq_true.1 hmarks c hmem) rfl

/-- The entries between braces are read back. -/
lemma itemsUpTo?_entries {entries : List (String × Scalar)} (depth : ℕ)
    (hkeys : ∀ entry ∈ entries, IsBareKey entry.1) (rest : List Char) {bound : ℕ}
    (hbound : entries.length < bound) :
    itemsUpTo? '\x7d' (pair? (skipLines? false) (value? depth)) bound
        (entriesSpelling entries ++ '\x7d' :: rest)
      = some (plainPairs (scalarEntries entries), rest) := by
  induction entries generalizing bound with
  | nil =>
    obtain ⟨bound, rfl⟩ := Nat.exists_eq_succ_of_ne_zero (by omega : bound ≠ 0)
    rfl
  | cons entry entries ih =>
    obtain ⟨bound, rfl⟩ := Nat.exists_eq_succ_of_ne_zero (by omega : bound ≠ 0)
    obtain ⟨hkey, hkeys⟩ := List.forall_mem_cons.1 hkeys
    obtain ⟨c, s, hs, hc⟩ := exists_pairSpelling_eq_cons hkey entry.2.spelling
    have hclose : c ≠ '\x7d' := ne_of_isBareKeyChar hc (by decide)
    cases entries with
    | nil =>
      have hitem := pair?_scalar skips_skipLines hkey entry.2 depth (c := '\x7d') (by decide) rest
      rw [hs, List.cons_append] at hitem
      rw [entriesSpelling_singleton, hs, List.cons_append,
        itemsUpTo?_cons (not_mem_layoutMarks hc) hclose (by decide) hitem, if_pos rfl]
      rfl
    | cons next entries =>
      have hitem := pair?_scalar skips_skipLines hkey entry.2 depth (c := ',') (by decide)
        (' ' :: (entriesSpelling (next :: entries) ++ '\x7d' :: rest))
      rw [hs, List.cons_append] at hitem
      rw [entriesSpelling_cons_cons, List.append_assoc, hs, List.cons_append, List.cons_append,
        List.cons_append, itemsUpTo?_cons (not_mem_layoutMarks hc) hclose (by decide) hitem,
        if_neg (by decide), if_pos rfl, itemsUpTo?_blank, ih hkeys (by simpa using hbound)]
      rfl

lemma length_le_entriesSpelling (entries : List (String × Scalar)) :
    entries.length ≤ (entriesSpelling entries).length := by
  induction entries with
  | nil => exact Nat.zero_le _
  | cons entry entries ih =>
    cases entries with
    | nil => simp [entriesSpelling_singleton, pairSpelling]; omega
    | cons next entries =>
      rw [entriesSpelling_cons_cons]
      simp only [List.length_append, List.length_cons] at ih ⊢
      omega

/-! ### What stands under a key -/

/-- What is written under a key: a scalar, or a table in braces. -/
inductive Item
  | scalar (x : Scalar)
  | table (entries : List (String × Scalar))

namespace Item

/-- The value that is read. -/
def toValue : Item → Value
  | scalar x => x.toValue
  | table entries => .table (scalarEntries entries)

/-- The value as it is written. -/
def spelling : Item → List Char
  | scalar x => x.spelling
  | table entries => '\x7b' :: entriesSpelling entries ++ ['\x7d']

/-- The keys of a table in braces can stand without quotes and differ from each other. -/
def HasBareKeys : Item → Prop
  | scalar _ => True
  | table entries => AreBareKeys (entries.map Prod.fst)

@[simp] lemma hasBareKeys_scalar (x : Scalar) : (scalar x).HasBareKeys := trivial

@[simp] lemma hasBareKeys_table {entries : List (String × Scalar)} :
    (table entries).HasBareKeys ↔ AreBareKeys (entries.map Prod.fst) := Iff.rfl

lemma exists_spelling_eq_cons (item : Item) : ∃ c s, item.spelling = c :: s ∧ c ∉ layoutMarks := by
  cases item with
  | scalar x => exact x.exists_spelling_eq_cons
  | table entries => exact ⟨'\x7b', _, rfl, by decide⟩

/-- **What is written under a key is read back.** -/
theorem value?_spelling {item : Item} (hitem : item.HasBareKeys) (depth : ℕ) {c : Char}
    (hc : c ∈ valueEnds) (rest : List Char) :
    value? (depth + 1) (item.spelling ++ c :: rest) = some (item.toValue, c :: rest) := by
  cases item with
  | scalar x => exact x.value?_spelling (depth + 1) hc rest
  | table entries =>
    have hkeys : ∀ entry ∈ entries, IsBareKey entry.1 := by
      intro entry hentry
      exact hitem.isBareKey _ (List.mem_map_of_mem hentry)
    have hspelling : (table entries).spelling ++ c :: rest
        = '\x7b' :: (entriesSpelling entries ++ '\x7d' :: c :: rest) := by
      simp [spelling]
    have hbound : entries.length < (entriesSpelling entries ++ '\x7d' :: c :: rest).length := by
      have := length_le_entriesSpelling entries
      rw [List.length_append, List.length_cons]
      omega
    have hitems : items? '\x7d' (pair? (skipLines? false) (value? depth))
        (entriesSpelling entries ++ '\x7d' :: c :: rest)
          = some (plainPairs (scalarEntries entries), c :: rest) :=
      itemsUpTo?_entries depth hkeys (c :: rest) hbound
    have htable : assignAll? (plainPairs (scalarEntries entries)) []
        = some (leaves (scalarEntries entries)) :=
      assignAll?_plainPairs (by simpa using hitem.nodup)
    rw [hspelling, value?.eq_6, hitems]
    dsimp only
    rw [htable, Option.map_some, toTable_leaves]
    rfl

end Item

/-- Keys with what is written under them, as the entries of a table. -/
def itemEntries (items : List (String × Item)) : Table :=
  items.map fun item => (item.1, item.2.toValue)

@[simp] lemma map_fst_itemEntries (items : List (String × Item)) :
    (itemEntries items).map Prod.fst = items.map Prod.fst := by
  simp [itemEntries]

@[simp] lemma itemEntries_append (items more : List (String × Item)) :
    itemEntries (items ++ more) = itemEntries items ++ itemEntries more := List.map_append

/-! ### Rows -/

/-- A row of a document. -/
inductive Row
  /-- A value is given under a key. -/
  | pair (key : String) (item : Item)
  /-- A table is opened under a key. -/
  | header (key : String)

namespace Row

/-- What the row says. -/
def toLine : Row → Line
  | pair key item => .pair [key] item.toValue
  | header key => .header (plainHeader key)

/-- The row as it is written, without the end of its line. -/
def spelling : Row → List Char
  | pair key item => pairSpelling key item.spelling
  | header key => '[' :: key.toList ++ [']']

/-- All keys in the row can stand without quotes. -/
def HasBareKeys : Row → Prop
  | pair key item => IsBareKey key ∧ item.HasBareKeys
  | header key => IsBareKey key

/-- A row begins with a key or with a bracket. -/
lemma exists_spelling_eq_cons {row : Row} (hrow : row.HasBareKeys) :
    ∃ c s, row.spelling = c :: s ∧ c ∉ layoutMarks ∧ c ≠ '\uFEFF' := by
  cases row with
  | pair key item =>
    obtain ⟨c, s, hs, hc⟩ := exists_pairSpelling_eq_cons hrow.1 item.spelling
    exact ⟨c, s, hs, not_mem_layoutMarks hc, ne_of_isBareKeyChar hc (by decide)⟩
  | header key => exact ⟨'[', _, rfl, by decide, by decide⟩

/-- A row is read back up to the end of its line. -/
lemma line?_spelling {row : Row} (hrow : row.HasBareKeys) (rest : List Char) :
    line? (row.spelling ++ '\n' :: rest) = some (row.toLine, '\n' :: rest) := by
  cases row with
  | pair key item =>
    obtain ⟨hkey, hitem⟩ := hrow
    have hbracket (r : List Char) : pairSpelling key item.spelling ++ '\n' :: rest ≠ '[' :: r := by
      rw [pairSpelling, List.append_assoc]
      exact hkey.append_ne_cons (by decide) _ r
    obtain ⟨d, t, ht, hd⟩ := item.exists_spelling_eq_cons
    have hvalue : value? maxDepth (item.spelling ++ '\n' :: rest)
        = some (item.toValue, '\n' :: rest) :=
      Item.value?_spelling hitem 79 (by decide) rest
    rw [ht] at hvalue
    have hpair := pair?_append skips_skipBlanks hkey hd hvalue
    rw [← ht] at hpair
    rw [spelling, line?.eq_3 _ (fun r => hbracket _) hbracket, hpair]
    rfl
  | header key =>
    obtain ⟨c, s, hs, hc⟩ := IsBareKey.exists_eq_cons hrow
    have hspelling : (header key).spelling ++ '\n' :: rest
        = '[' :: (key.toList ++ ']' :: '\n' :: rest) := by
      simp [spelling]
    have hbracket (r : List Char) : key.toList ++ ']' :: '\n' :: rest ≠ '[' :: r :=
      IsBareKey.append_ne_cons hrow (by decide) _ r
    have hstart : skipBlanks (key.toList ++ ']' :: '\n' :: rest)
        = key.toList ++ ']' :: '\n' :: rest := by
      rw [hs]
      exact Option.some.inj (skips_skipBlanks.stop c (not_mem_layoutMarks hc) _)
    have hpath : key? (key.toList ++ ']' :: '\n' :: rest) = some ([key], ']' :: '\n' :: rest) :=
      key?_append hrow (by decide) fun r h => absurd (List.cons.inj h).1 (by decide)
    rw [hspelling, line?.eq_2 _ hbracket, header?, hstart, hpath]
    rfl

end Row

/-- Rows as they are written, each with the end of its line. -/
def rowsSpelling (rows : List Row) : List Char := rows.flatMap fun row => row.spelling ++ ['\n']

lemma linesUpTo?_rowsSpelling {rows : List Row} (hrows : ∀ row ∈ rows, row.HasBareKeys) {bound : ℕ}
    (hbound : rows.length < bound) :
    linesUpTo? bound (rowsSpelling rows) = some (rows.map Row.toLine) := by
  induction rows generalizing bound with
  | nil =>
    obtain ⟨bound, rfl⟩ := Nat.exists_eq_succ_of_ne_zero (by omega : bound ≠ 0)
    rfl
  | cons row rows ih =>
    obtain ⟨bound, rfl⟩ := Nat.exists_eq_succ_of_ne_zero (by omega : bound ≠ 0)
    obtain ⟨hrow, hrows⟩ := List.forall_mem_cons.1 hrows
    obtain ⟨c, s, hs, hc, -⟩ := Row.exists_spelling_eq_cons hrow
    have hspelling : rowsSpelling (row :: rows) = row.spelling ++ '\n' :: rowsSpelling rows := by
      simp [rowsSpelling]
    have hline := Row.line?_spelling hrow (rowsSpelling rows)
    have hend : endLine? ('\n' :: rowsSpelling rows) = some (rowsSpelling rows) := rfl
    rw [hs, List.cons_append] at hline
    rw [hspelling, hs, List.cons_append, linesUpTo?.eq_2, skips_skipLines.stop c hc]
    dsimp only
    rw [hline]
    dsimp only
    rw [hend]
    dsimp only
    rw [ih hrows (by simpa using hbound)]
    rfl

lemma length_le_rowsSpelling (rows : List Row) : rows.length ≤ (rowsSpelling rows).length := by
  induction rows with
  | nil => exact Nat.le_refl 0
  | cons row rows ih =>
    rw [rowsSpelling] at ih ⊢
    simp only [List.flatMap_cons, List.length_append, List.length_cons]
    omega

/-- **Rows that end with their lines are read back.** -/
theorem lines?_rowsSpelling {rows : List Row} (hrows : ∀ row ∈ rows, row.HasBareKeys) :
    lines? (rowsSpelling rows) = some (rows.map Row.toLine) :=
  linesUpTo?_rowsSpelling hrows (Nat.lt_succ_of_le (length_le_rowsSpelling rows))

/-! ### Pages -/

/-- A document as it is written. -/
structure Page where
  /-- The keys that are given before the first header, with what is written under them. -/
  entries : List (String × Item)
  /-- The tables that have a header. -/
  tables : List (String × List (String × Scalar))

/-- A table, and the tables in it, have keys that can stand without quotes and differ from each
other. -/
structure HasBareKeys (table : Table) : Prop where
  keys : AreBareKeys (table.map Prod.fst)
  inner : ∀ key entries, (key, Value.table entries) ∈ table → AreBareKeys (entries.map Prod.fst)

namespace Page

/-- The rows of a page. -/
def rows (page : Page) : List Row :=
  page.entries.map (fun entry => .pair entry.1 entry.2)
    ++ page.tables.flatMap fun table =>
      .header table.1 :: table.2.map fun entry => .pair entry.1 (.scalar entry.2)

/-- The text of a page. -/
def text (page : Page) : String := String.ofList (rowsSpelling page.rows)

/-- The values that stand in a page before the first header. -/
def values (page : Page) : Table := itemEntries page.entries

/-- The tables of a page that have a header. -/
def openTables (page : Page) : List (String × Table) :=
  page.tables.map fun table => (table.1, scalarEntries table.2)

/-- The table that a page writes. -/
def table (page : Page) : Table := page.values ++ tableEntries page.openTables

/-- A page may have no headers. -/
@[simp] lemma table_mk_nil (entries : List (String × Item)) :
    table ⟨entries, []⟩ = itemEntries entries := List.append_nil _

variable {page : Page}

lemma map_toLine_rows (page : Page) :
    page.rows.map Row.toLine = plainLines page.values ++ tableLines page.openTables := by
  simp [rows, values, itemEntries, openTables, plainLines, tableLines, scalarEntries,
    List.map_flatMap, List.flatMap_map, Row.toLine, Item.toValue, Function.comp_def]

lemma mem_table_of_mem_entries {entry : String × Item} (hentry : entry ∈ page.entries) :
    (entry.1, entry.2.toValue) ∈ page.table :=
  List.mem_append_left _ (List.mem_map_of_mem hentry)

lemma mem_table_of_mem_tables {table : String × List (String × Scalar)}
    (htable : table ∈ page.tables) :
    (table.1, Value.table (scalarEntries table.2)) ∈ page.table :=
  List.mem_append_right _ (List.mem_map_of_mem (List.mem_map_of_mem htable))

lemma rows_hasBareKeys (hkeys : HasBareKeys page.table) : ∀ row ∈ page.rows, row.HasBareKeys := by
  have hkey {entry : String × Value} (hentry : entry ∈ page.table) : IsBareKey entry.1 :=
    hkeys.keys.isBareKey _ (List.mem_map_of_mem hentry)
  have hinner {key : String} {entries : List (String × Scalar)}
      (hentry : (key, Value.table (scalarEntries entries)) ∈ page.table) :
      AreBareKeys (entries.map Prod.fst) := by
    simpa using hkeys.inner _ _ hentry
  intro row hrow
  rcases List.mem_append.1 hrow with hrow | hrow
  · obtain ⟨⟨key, item⟩, hentry, rfl⟩ := List.mem_map.1 hrow
    have hmem := mem_table_of_mem_entries hentry
    refine ⟨hkey hmem, ?_⟩
    cases item with
    | scalar x => trivial
    | table entries => exact hinner hmem
  · obtain ⟨⟨key, entries⟩, htable, hrow⟩ := List.mem_flatMap.1 hrow
    have hmem := mem_table_of_mem_tables htable
    rcases List.mem_cons.1 hrow with rfl | hrow
    · exact hkey hmem
    · obtain ⟨⟨inner, x⟩, hentry, rfl⟩ := List.mem_map.1 hrow
      exact ⟨(hinner hmem).isBareKey _ (List.mem_map_of_mem hentry), trivial⟩

/-- No page begins with a byte-order mark. -/
lemma literal?_text (hkeys : HasBareKeys page.table) :
    Text.literal? ['\uFEFF'] page.text.toList = none := by
  have hrows := rows_hasBareKeys hkeys
  rw [text, String.toList_ofList]
  cases hpage : page.rows with
  | nil => rfl
  | cons row rows =>
    rw [hpage] at hrows
    obtain ⟨c, s, hs, -, hc⟩ := Row.exists_spelling_eq_cons (hrows row List.mem_cons_self)
    rw [rowsSpelling, List.flatMap_cons, hs, List.cons_append, List.cons_append, Text.literal?,
      if_neg (Ne.symm hc)]

/-- **A page is read as the table that it writes.** -/
theorem read?_text (hkeys : HasBareKeys page.table) : read? page.text = some page.table := by
  have hlines : lines? page.text.toList
      = some (plainLines page.values ++ tableLines page.openTables) := by
    rw [text, String.toList_ofList, lines?_rowsSpelling (rows_hasBareKeys hkeys), map_toLine_rows]
  have hnodup : (page.values.map Prod.fst ++ page.openTables.map Prod.fst).Nodup := by
    simpa [table] using hkeys.keys.nodup
  have htables : ∀ table ∈ page.openTables, (table.2.map Prod.fst).Nodup := by
    intro table htable
    exact (hkeys.inner _ _ (List.mem_append_right _ (List.mem_map_of_mem htable))).nodup
  rw [read?, literal?_text hkeys]
  dsimp only [Option.getD_none]
  rw [hlines]
  exact build?_plainLines hnodup htables

end Page
end Toml
end HttpMock
