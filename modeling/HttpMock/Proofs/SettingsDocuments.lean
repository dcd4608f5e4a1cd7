/-
# Settings that a document gives key by key

What a document may say about settings is a choice of keys, each with a value of its kind: `Given`.
The settings that it makes are those values, and the default where a key is not given.  They do not
depend on the way in which the document is written: only on the table that is read, and there not on
the order of the keys, since the keys of a table are put in order before they are taken.

A key that means nothing stops the reading, in the table of the log as well, and a document that has
one makes no settings, whatever it says under the other keys.  A file that makes no settings leaves
all of the defaults in place.

* `Settings.sorted_eq_of_perm`: the order in which the keys of a table are given plays no part;
* `Settings.ofTable_of_perm`: each key that is given has its value, and the others their default;
* `Settings.exists_ofTable_eq_error`: a key that means nothing is an error;
* `Settings.ofDocument_overrides`: all of it for documents and files.
-/
import Mathlib.Data.List.Nodup
import Mathlib.Data.Set.List
import HttpMock.Proofs.WrittenDocuments
import HttpMock.Settings.Document

namespace HttpMock
namespace Settings

/-! ### What is given -/

/-- What a document says about settings: for each key the value that is given, if one is. -/
structure Given where
  defaultHost : Option String
  serverName : Option String
  /-- A count that fits in 64 bits. -/
  maxBodySize : Option UInt64
  conditionalRequests : Option Bool
  /-- The table of the log, with or without a level. -/
  logger : Option (Option LogLevel)

/-- A key with what is written under it, if that is given. -/
def given {α : Type} (key : String) (write : α → Toml.Item) (a : Option α) :
    List (String × Toml.Item) :=
  (a.map fun a => (key, write a)).toList

/-- The entries of the table of the log. -/
def levelEntries (level : Option LogLevel) : List (String × Toml.Scalar) :=
  (level.map fun level => ("level", Toml.Scalar.string level.name)).toList

namespace Given

/-- The keys that are given, with what is written under them, in the order of the keys. -/
def items (g : Given) : List (String × Toml.Item) :=
  given "conditional_requests" (fun b => .scalar (.boolean b)) g.conditionalRequests ++
  given "default_host" (fun host => .scalar (.string host)) g.defaultHost ++
  given "logger" (fun level => .table (levelEntries level)) g.logger ++
  given "max_body_size" (fun size => .scalar (.integer size)) g.maxBodySize ++
  given "server_name" (fun name => .scalar (.string name)) g.serverName

/-- The keys that are given, with their values. -/
def entries (g : Given) : Toml.Table := Toml.itemEntries g.items

/-- The values that are given, and the defaults of the keys that are not. -/
def settings (g : Given) : Settings where
  defaultHost := g.defaultHost.getD default.defaultHost
  serverName := g.serverName.or default.serverName
  maxBodySize := (g.maxBodySize.map UInt64.toNat).getD default.maxBodySize
  conditionalRequests := g.conditionalRequests.getD default.conditionalRequests
  logLevel := (g.logger.getD none).getD default.logLevel

end Given

/-! ### The order of the keys -/

lemma pairwise_sorted (table : Toml.Table) : (sorted table).Pairwise fun a b => a.1 ≤ b.1 := by
  have htrans (a b c : String × Toml.Value) (hab : decide (a.1 ≤ b.1) = true)
      (hbc : decide (b.1 ≤ c.1) = true) : decide (a.1 ≤ c.1) = true :=
    decide_eq_true (String.le_trans (of_decide_eq_true hab) (of_decide_eq_true hbc))
  have htotal (a b : String × Toml.Value) : (decide (a.1 ≤ b.1) || decide (b.1 ≤ a.1)) = true := by
    simpa using String.le_total a.1 b.1
  exact (List.pairwise_mergeSort htrans htotal table).imp of_decide_eq_true

lemma sorted_perm (table : Toml.Table) : (sorted table).Perm table :=
  List.mergeSort_perm table _

/-- Tables with the same entries under distinct keys are put in the same order. -/
theorem sorted_eq_of_perm {table other : Toml.Table} (hperm : table.Perm other)
    (hnodup : (other.map Prod.fst).Nodup) : sorted table = sorted other := by
  have hsame : (sorted table).Perm (sorted other) :=
    ((sorted_perm table).trans hperm).trans (sorted_perm other).symm
  refine hsame.eq_of_pairwise ?_ (pairwise_sorted table) (pairwise_sorted other)
  intro a b ha hb hab hba
  have ha : a ∈ other := hperm.mem_iff.1 ((sorted_perm table).mem_iff.1 ha)
  have hb : b ∈ other := (sorted_perm other).mem_iff.1 hb
  exact List.inj_on_of_nodup_map hnodup ha hb (String.le_antisymm hab hba)

/-- The keys of settings in their order. -/
def orderedKeys : List String :=
  ["conditional_requests", "default_host", "logger", "max_body_size", "server_name"]

lemma map_fst_given_sublist {α : Type} (key : String) (write : α → Toml.Item) (a : Option α) :
    ((given key write a).map Prod.fst).Sublist [key] := by
  cases a with
  | none => exact List.nil_sublist _
  | some a => exact List.Sublist.refl _

namespace Given

lemma map_fst_entries_sublist (g : Given) : (g.entries.map Prod.fst).Sublist orderedKeys := by
  rw [entries, Toml.map_fst_itemEntries, items]
  simp only [List.map_append]
  exact ((((map_fst_given_sublist _ _ _).append (map_fst_given_sublist _ _ _)).append
    (map_fst_given_sublist _ _ _)).append (map_fst_given_sublist _ _ _)).append
    (map_fst_given_sublist _ _ _)

lemma areBareKeys_entries (g : Given) : Toml.AreBareKeys (g.entries.map Prod.fst) :=
  have hkeys : Toml.AreBareKeys orderedKeys := by decide
  hkeys.sublist g.map_fst_entries_sublist

lemma sorted_entries (g : Given) : sorted g.entries = g.entries := by
  have hkeys : (g.entries.map Prod.fst).Pairwise (· ≤ ·) :=
    List.Pairwise.sublist g.map_fst_entries_sublist (by decide)
  exact List.mergeSort_of_pairwise (by simpa [List.pairwise_map] using hkeys)

end Given

/-! ### The settings that are given -/

lemma loggerOf_levelEntries (level : Option LogLevel) :
    loggerOf (.table (Toml.scalarEntries (levelEntries level)))
      = .ok (level.getD default.logLevel) := by
  cases level with
  | none => simp [levelEntries, Toml.scalarEntries, loggerOf, sorted, pure, Except.pure]
  | some level =>
    have hlevel : LogLevel.ofValue (.string level.name) = .ok level := by
      rw [LogLevel.ofValue, LogLevel.parse, LogLevel.ofName?_name]
    simp [levelEntries, Toml.scalarEntries, loggerOf, sorted, setLevel, Toml.Scalar.toValue, hlevel]

/-- A key that is given sets its field. -/
lemma foldlM_setEntry_given {α : Type} {key : String} {write : α → Toml.Item}
    {set : Settings → α → Settings}
    (hset : ∀ s a, setEntry s (key, (write a).toValue) = .ok (set s a)) (a : Option α)
    (s : Settings) :
    (Toml.itemEntries (given key write a)).foldlM setEntry s = .ok (a.elim s (set s)) := by
  cases a with
  | none => rfl
  | some a => simp [Toml.itemEntries, given, hset]

lemma sizeOf_natCast (n : ℕ) : sizeOf (.integer n) = .ok n := by
  rw [sizeOf, if_neg (by omega), Int.toNat_natCast]

namespace Given

/-- The entries that are given set their fields, one after another. -/
lemma foldlM_setEntry_entries (g : Given) : g.entries.foldlM setEntry default = .ok g.settings := by
  have hconditional (s : Settings) (b : Bool) :
      setEntry s ("conditional_requests", (Toml.Item.scalar (.boolean b)).toValue)
        = .ok { s with conditionalRequests := b } := rfl
  have hhost (s : Settings) (host : String) :
      setEntry s ("default_host", (Toml.Item.scalar (.string host)).toValue)
        = .ok { s with defaultHost := host } := rfl
  have hlogger (s : Settings) (level : Option LogLevel) :
      setEntry s ("logger", (Toml.Item.table (levelEntries level)).toValue)
        = .ok { s with logLevel := level.getD default.logLevel } :=
    congrArg (Except.map _) (loggerOf_levelEntries level)
  have hsize (s : Settings) (size : UInt64) :
      setEntry s ("max_body_size", (Toml.Item.scalar (.integer size)).toValue)
        = .ok { s with maxBodySize := size.toNat } := by
    simp [setEntry, Toml.Item.toValue, Toml.Scalar.toValue, sizeOf_natCast, Except.map]
  have hname (s : Settings) (name : String) :
      setEntry s ("server_name", (Toml.Item.scalar (.string name)).toValue)
        = .ok { s with serverName := some name } := rfl
  simp only [entries, items, Toml.itemEntries_append, List.foldlM_append, Except.bind, bind,
    foldlM_setEntry_given hconditional, foldlM_setEntry_given hhost, foldlM_setEntry_given hlogger,
    foldlM_setEntry_given hsize, foldlM_setEntry_given hname]
  rcases g with ⟨_ | host, _ | name, _ | size, _ | conditional, _ | level⟩ <;> rfl

end Given

/-- **A table sets the keys that are given**, whatever their order, and leaves the others at their
default. -/
theorem ofTable_of_perm {table : Toml.Table} {g : Given} (hperm : table.Perm g.entries) :
    ofTable table = .ok g.settings := by
  rw [ofTable, sorted_eq_of_perm hperm g.areBareKeys_entries.nodup, g.sorted_entries,
    g.foldlM_setEntry_entries]

/-! ### Keys that mean nothing -/

/-- A table has a key that means nothing, or the table of the log in it has one. -/
def HasOtherKey (table : Toml.Table) : Prop :=
  (∃ entry ∈ table, entry.1 ∉ keys) ∨
    ∃ entries, ("logger", Toml.Value.table entries) ∈ table ∧
      ∃ entry ∈ entries, entry.1 ∉ loggerKeys

lemma mem_keys_of_setEntry {s t : Settings} {entry : String × Toml.Value}
    (h : setEntry s entry = .ok t) : entry.1 ∈ keys := by
  obtain ⟨key, v⟩ := entry
  rw [setEntry.eq_def] at h
  dsimp only at h ⊢
  split at h
  all_goals first | decide | cases h

lemma mem_loggerKeys_of_setLevel {level new : LogLevel} {entry : String × Toml.Value}
    (h : setLevel level entry = .ok new) : entry.1 ∈ loggerKeys := by
  rw [setLevel] at h
  split at h
  · next hkey => exact List.mem_singleton.2 hkey
  · cases h

/-- Where all steps succeed, so does the step of each member. -/
lemma exists_of_foldlM_eq_ok {α σ ε : Type} {f : σ → α → Except ε σ} {l : List α} {s t : σ}
    (h : l.foldlM f s = .ok t) : ∀ a ∈ l, ∃ u v, f u a = .ok v := by
  induction l generalizing s with
  | nil => simp
  | cons b l ih =>
    rw [List.foldlM_cons] at h
    cases hstep : f s b with
    | error e => rw [hstep] at h; cases h
    | ok u =>
      rw [hstep] at h
      exact List.forall_mem_cons.2 ⟨⟨s, u, hstep⟩, ih h⟩

lemma mem_loggerKeys_of_loggerOf {entries : Toml.Table} {level : LogLevel}
    (h : loggerOf (.table entries) = .ok level) : ∀ entry ∈ entries, entry.1 ∈ loggerKeys := by
  intro entry hentry
  obtain ⟨_, _, hstep⟩ := exists_of_foldlM_eq_ok h entry ((sorted_perm entries).mem_iff.2 hentry)
  exact mem_loggerKeys_of_setLevel hstep

/-- **A key that means nothing is an error**, in the table of the log too. -/
theorem exists_ofTable_eq_error {table : Toml.Table} (hkey : HasOtherKey table) :
    ∃ m, ofTable table = .error m := by
  cases hread : ofTable table with
  | error m => exact ⟨m, rfl⟩
  | ok s =>
    exfalso
    have hsteps {entry : String × Toml.Value} (hentry : entry ∈ table) :
        ∃ u v, setEntry u entry = .ok v :=
      exists_of_foldlM_eq_ok hread entry ((sorted_perm table).mem_iff.2 hentry)
    rcases hkey with ⟨entry, hentry, hother⟩ | ⟨entries, hentry, inner, hinner, hother⟩
    · obtain ⟨_, _, hstep⟩ := hsteps hentry
      exact hother (mem_keys_of_setEntry hstep)
    · obtain ⟨u, v, hstep⟩ := hsteps hentry
      cases hlogger : loggerOf (.table entries) with
      | error m => simp [setEntry, hlogger, Except.map] at hstep
      | ok level => exact hother (mem_loggerKeys_of_loggerOf hlogger inner hinner)

/-! ### Documents and files -/

variable {text : String} {table : Toml.Table}

lemma ofDocument_of_perm {g : Given} (hread : Toml.read? text = some table)
    (hperm : table.Perm g.entries) : ofDocument text = .ok g.settings := by
  rw [ofDocument, hread]
  dsimp only
  rw [ofTable_of_perm hperm]

lemma exists_ofDocument_eq_error (hread : Toml.read? text = some table) (hkey : HasOtherKey table) :
    ∃ e, ofDocument text = .error e := by
  obtain ⟨m, hm⟩ := exists_ofTable_eq_error hkey
  rw [ofDocument, hread]
  dsimp only
  rw [hm]
  exact ⟨_, rfl⟩

/-- A file that holds a text is read as that text. -/
lemma ofFile_toUTF8 (path text : String) : ofFile path (some text.toUTF8) = ofDocument text := by
  have hvalid : text.toUTF8.IsValidUTF8 := text.isValidUTF8
  have htext : String.fromUTF8? text.toUTF8 = some text := by
    rw [String.fromUTF8?, dif_pos hvalid]
    rfl
  simp only [ofFile, htext]

/-- A file makes settings only if it holds a text, and then those of the text. -/
lemma exists_text_of_ofFile {path : String} {content : Option ByteArray} {s : Settings}
    (h : ofFile path content = .ok s) :
    ∃ text : String, content = some text.toUTF8 ∧ ofDocument text = .ok s := by
  unfold ofFile at h
  split at h
  · exact absurd h (by simp)
  next bytes =>
  split at h
  · exact absurd h (by simp)
  · next text htext =>
    obtain ⟨hvalid, hbytes⟩ := Option.dite_none_right_eq_some.1 htext
    obtain rfl := Option.some.inj hbytes
    exact ⟨_, rfl, h⟩

/-! ### Pages of settings -/

lemma areBareKeys_levelEntries (level : Option LogLevel) :
    Toml.AreBareKeys ((levelEntries level).map Prod.fst) := by
  have hkeys : Toml.AreBareKeys loggerKeys := by decide
  cases level with
  | none => exact hkeys.sublist (List.nil_sublist _)
  | some level => exact hkeys

lemma forall_mem_given_iff {α : Type} {key : String} {write : α → Toml.Item} {a : Option α}
    {P : String × Toml.Item → Prop} :
    (∀ item ∈ given key write a, P item) ↔ ∀ b, a = some b → P (key, write b) := by
  cases a <;> simp [given]

lemma Given.hasBareKeys_of_mem_items (g : Given) : ∀ item ∈ g.items, item.2.HasBareKeys := by
  simp only [items, List.forall_mem_append, forall_mem_given_iff]
  simp [areBareKeys_levelEntries]

/-- Pages of the entries that are given can be read. -/
lemma hasBareKeys_of_perm {g : Given} (hperm : table.Perm g.entries) : Toml.HasBareKeys table where
  keys := g.areBareKeys_entries.perm (hperm.map Prod.fst)
  inner := by
    intro key entries hentry
    obtain ⟨⟨_, item⟩, hitem, heq⟩ := List.mem_map.1 (hperm.mem_iff.1 hentry)
    have hkeys := g.hasBareKeys_of_mem_items _ hitem
    cases item with
    | scalar x => cases x <;> cases heq
    | table inner =>
      cases heq
      simpa using hkeys

/-- The entries that are given can be written in every order. -/
lemma exists_page_of_perm {g : Given} {order : Toml.Table} (hperm : order.Perm g.entries) :
    ∃ page : Toml.Page, page.table = order := by
  have hrange : order ∈ Set.range Toml.itemEntries := by
    rw [show Toml.itemEntries = List.map fun item => (item.1, item.2.toValue) from rfl,
      Set.range_list_map]
    intro entry hentry
    obtain ⟨item, -, hitem⟩ := List.mem_map.1 (hperm.mem_iff.1 hentry)
    exact ⟨item, hitem⟩
  obtain ⟨items, hitems⟩ := hrange
  exact ⟨⟨items, []⟩, by rw [Toml.Page.table_mk_nil, hitems]⟩

/-! ### The whole -/

/-- **Documents set what they give, key by key.**  Any choice of the keys, with any values of their
kinds, can be written in every order.  A page of them makes the settings that it gives, and so does
every text that is read as the same entries in some order.  A document with a key that means nothing
makes none, whatever else it says.  The settings of a file are those of its text, and a file that is
not there or holds no text has none; where there are none, the file leaves the defaults. -/
theorem ofDocument_overrides :
    (∀ (g : Given) (order : Toml.Table), order.Perm g.entries →
      ∃ page : Toml.Page, page.table = order) ∧
    (∀ (g : Given) (page : Toml.Page), page.table.Perm g.entries →
      ofDocument page.text = .ok g.settings) ∧
    (∀ (g : Given) (text : String) (table : Toml.Table), Toml.read? text = some table →
      table.Perm g.entries → ofDocument text = .ok g.settings) ∧
    (∀ (text : String) (table : Toml.Table), Toml.read? text = some table → HasOtherKey table →
      ∃ e, ofDocument text = .error e) ∧
    (∀ path text, ofFile path (some text.toUTF8) = ofDocument text) ∧
    (∀ path content s, ofFile path content = .ok s →
      ∃ text : String, content = some text.toUTF8 ∧ ofDocument text = .ok s) ∧
    (∀ path content s, ofFile path content = .ok s → ofFileOrDefault path content = s) ∧
    ∀ path content e, ofFile path content = .error e → ofFileOrDefault path content = default := by
  refine ⟨fun g order => exists_page_of_perm, ?_, fun g text table => ofDocument_of_perm,
    fun text table => exists_ofDocument_eq_error, ofFile_toUTF8,
    fun path content s => exists_text_of_ofFile, ?_, ?_⟩
  · intro g page hperm
    exact ofDocument_of_perm (Toml.Page.read?_text (hasBareKeys_of_perm hperm)) hperm
  · intro path content s hs
    rw [ofFileOrDefault, hs]
  · intro path content e he
    rw [ofFileOrDefault, he]

/-- A page with keys out of order and a table with a header. -/
def debugPage : Toml.Page where
  entries := [("server_name", .scalar (.string "mock")), ("max_body_size", .scalar (.integer 0))]
  tables := [("logger", [("level", .string "debug")])]

lemma text_debugPage : debugPage.text
    = "server_name = \"mock\"\nmax_body_size = 0\n[logger]\nlevel = \"debug\"\n" := by
  refine String.toList_inj.1 ?_
  rw [Toml.Page.text, String.toList_ofList]
  decide +kernel

/-- A page with a key that means nothing, in the table of the log. -/
def colorPage : Toml.Page where
  entries := [("default_host", .scalar (.string "mock"))]
  tables := [("logger", [("color", .boolean true)])]

lemma text_colorPage : colorPage.text = "default_host = \"mock\"\n[logger]\ncolor = true\n" := by
  refine String.toList_inj.1 ?_
  rw [Toml.Page.text, String.toList_ofList]
  decide +kernel

lemma table_colorPage : colorPage.table
    = [("default_host", .string "mock"), ("logger", .table [("color", .boolean true)])] := rfl

lemma read?_colorPage : Toml.read? colorPage.text = some colorPage.table := by
  refine Toml.Page.read?_text ⟨by decide, ?_⟩
  intro key entries hentry
  obtain ⟨rfl, rfl⟩ : key = "logger" ∧ entries = [("color", .boolean true)] := by
    simpa [table_colorPage] using hentry
  show Toml.AreBareKeys ["color"]
  decide

/-- A document may give nothing; a header may come last, whatever the order of the keys; and a key
that means nothing under it undoes the host that is given before it. -/
theorem ofDocument_overrides_logger :
    ofDocument "" = .ok ⟨"localhost", none, 1048576, true, .info⟩ ∧
    ofDocument "server_name = \"mock\"\nmax_body_size = 0\n[logger]\nlevel = \"debug\"\n"
      = .ok ⟨"localhost", some "mock", 0, true, .debug⟩ ∧
    (∃ e, ofDocument "default_host = \"mock\"\n[logger]\ncolor = true\n" = .error e) ∧
    ofFileOrDefault "mock.toml"
      (some "default_host = \"mock\"\n[logger]\ncolor = true\n".toUTF8) = default := by
  obtain ⟨-, hpage, -, hother, hfile, -, -, hdefault⟩ := ofDocument_overrides
  have hempty : ofDocument (Toml.Page.text ⟨[], []⟩)
      = .ok ⟨"localhost", none, 1048576, true, .info⟩ :=
    hpage ⟨none, none, none, none, none⟩ ⟨[], []⟩ (List.Perm.refl _)
  have hgiven : ofDocument debugPage.text = .ok ⟨"localhost", some "mock", 0, true, .debug⟩ :=
    hpage ⟨none, some "mock", some 0, none, some (some .debug)⟩ debugPage
      (List.reverse_perm debugPage.table).symm
  have hkey : HasOtherKey colorPage.table := .inr ⟨_, .tail _ (.head _), _, .head _, by decide⟩
  obtain ⟨e, he⟩ := hother colorPage.text colorPage.table read?_colorPage hkey
  rw [text_debugPage] at hgiven
  rw [text_colorPage] at he
  exact ⟨hempty, hgiven, ⟨e, he⟩, hdefault _ _ e (by rw [hfile, he])⟩

end Settings
end HttpMock
