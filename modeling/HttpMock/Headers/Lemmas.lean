/-
# Looking up in an edited header map

What a lookup answers after each of the operations on a header map, in terms of what it answered
before: the header that was edited shows the edit under all spellings of its name, and every other
header is as it was.  Nothing is assumed of the map.

Main statements: `getAll_set`, `getAll_append` and `getAll_erase` for the values of a header,
`contains_set`, `contains_append` and `contains_erase` for its presence, and
`fields_set_of_contains_eq_false` for the place of a header that is new.
-/
import HttpMock.Headers.Basic

namespace HttpMock

/-- A header as it is first stored under a name. -/
def Field.new (name : String) (values : List String) : Field := ⟨Headers.key name, name, values⟩

namespace Headers

theorem get?_eq_head?_getAll (h : Headers) (name : String) :
    h.get? name = (h.getAll name).head? := by
  unfold get? getAll
  cases h.find? name <;> rfl

theorem map_fst_toList (h : Headers) : h.toList.map Prod.fst = h.fields.map Field.name := by
  simp [toList]

/-- Spellings of one name are looked up alike. -/
theorem find?_congr (h : Headers) {name other : String} (hkey : key name = key other) :
    h.find? name = h.find? other := by
  rw [find?, find?, hkey]

theorem contains_eq_false_iff {h : Headers} {name : String} :
    h.contains name = false ↔ ∀ f ∈ h.fields, f.key ≠ key name := by
  rw [contains, Option.isSome_eq_false_iff, Option.isNone_iff_eq_none, find?, List.find?_eq_none]
  simp

theorem getAll_of_contains_eq_false {h : Headers} {name : String}
    (hnone : h.contains name = false) : h.getAll name = [] := by
  rw [contains, Option.isSome_eq_false_iff, Option.isNone_iff_eq_none] at hnone
  rw [getAll, hnone]

@[simp] theorem getAll_empty (name : String) : empty.getAll name = [] := rfl

/-- The rewritten header is found under every spelling of its name. -/
theorem find?_updateFields_of_eq {name other : String} (hkey : key other = key name)
    (rewrite : List String → List String) (fields : List Field) :
    (updateFields name rewrite fields).find? (fun f => f.key == key other)
      = some (match fields.find? (fun f => f.key == key other) with
        | some f => { f with values := rewrite f.values }
        | none => ⟨key name, name, rewrite []⟩) := by
  induction fields with
  | nil => simp [updateFields, hkey]
  | cons f fields ih =>
    by_cases hf : f.key = key name
    · simp [updateFields, hf, hkey]
    · have hne : (f.key == key other) = false := by simpa [hkey] using hf
      simp only [updateFields, if_neg hf, List.find?_cons, hne]
      exact ih

/-- Rewriting the values of a header leaves the others alone. -/
theorem find?_updateFields_of_ne {name other : String} (hkey : key other ≠ key name)
    (rewrite : List String → List String) (fields : List Field) :
    (updateFields name rewrite fields).find? (fun f => f.key == key other)
      = fields.find? fun f => f.key == key other := by
  induction fields with
  | nil => simp [updateFields, Ne.symm hkey]
  | cons f fields ih =>
    by_cases hf : f.key = key name
    · simp [updateFields, hf, Ne.symm hkey]
    · simp only [updateFields, if_neg hf, List.find?_cons, ih]

theorem getAll_updateFields (h : Headers) (name other : String)
    (rewrite : List String → List String) :
    (Headers.mk (updateFields name rewrite h.fields)).getAll other
      = if key other = key name then rewrite (h.getAll other) else h.getAll other := by
  split
  · next hkey =>
    simp only [getAll, find?, find?_updateFields_of_eq hkey]
    cases h.fields.find? (fun f => f.key == key other) <;> rfl
  · next hkey => simp only [getAll, find?, find?_updateFields_of_ne hkey]

theorem contains_updateFields (h : Headers) (name other : String)
    (rewrite : List String → List String) :
    (Headers.mk (updateFields name rewrite h.fields)).contains other
      = (key other == key name || h.contains other) := by
  by_cases hkey : key other = key name
  · simp only [contains, find?, find?_updateFields_of_eq hkey]
    simp [hkey]
  · simp only [contains, find?, find?_updateFields_of_ne hkey]
    simp [hkey]

/-- A header that is set has one value. -/
theorem getAll_set (h : Headers) (name value other : String) :
    (h.set name value).getAll other = if key other = key name then [value] else h.getAll other :=
  getAll_updateFields h name other _

/-- An appended value comes last. -/
theorem getAll_append (h : Headers) (name value other : String) :
    (h.append name value).getAll other
      = if key other = key name then h.getAll other ++ [value] else h.getAll other :=
  getAll_updateFields h name other _

theorem find?_erase (h : Headers) (name other : String) :
    (h.erase name).find? other = if key other = key name then none else h.find? other := by
  simp only [erase, find?, List.find?_filter]
  split
  · next hkey => simp [hkey]
  · next hkey =>
    congr 1
    funext f
    by_cases hf : f.key = key other <;> simp [hf, hkey]

/-- A header that is removed has no values. -/
theorem getAll_erase (h : Headers) (name other : String) :
    (h.erase name).getAll other = if key other = key name then [] else h.getAll other := by
  simp only [getAll, find?_erase]
  by_cases hkey : key other = key name <;> simp [hkey]

theorem contains_set (h : Headers) (name value other : String) :
    (h.set name value).contains other = (key other == key name || h.contains other) :=
  contains_updateFields h name other _

theorem contains_append (h : Headers) (name value other : String) :
    (h.append name value).contains other = (key other == key name || h.contains other) :=
  contains_updateFields h name other _

theorem contains_erase (h : Headers) (name other : String) :
    (h.erase name).contains other = (key other != key name && h.contains other) := by
  simp only [contains, find?_erase]
  by_cases hkey : key other = key name <;> simp [hkey]

/-- A header that is not there is rewritten at the end. -/
theorem updateFields_of_forall_ne {name : String} {fields : List Field}
    (hnone : ∀ f ∈ fields, f.key ≠ key name) (rewrite : List String → List String) :
    updateFields name rewrite fields = fields ++ [.new name (rewrite [])] := by
  induction fields with
  | nil => rfl
  | cons f fields ih =>
    obtain ⟨hf, hnone⟩ := List.forall_mem_cons.1 hnone
    rw [updateFields, if_neg hf, ih hnone, List.cons_append]

/-- A header that is not there is set at the end, as it is spelled. -/
theorem fields_set_of_contains_eq_false {h : Headers} {name : String}
    (hnone : h.contains name = false) (value : String) :
    (h.set name value).fields = h.fields ++ [.new name [value]] :=
  updateFields_of_forall_ne (contains_eq_false_iff.1 hnone) _

/-- A value is appended to a header that is not there as if it were set. -/
theorem fields_append_of_contains_eq_false {h : Headers} {name : String}
    (hnone : h.contains name = false) (value : String) :
    (h.append name value).fields = h.fields ++ [.new name [value]] :=
  updateFields_of_forall_ne (contains_eq_false_iff.1 hnone) _

/-- A date that can be written is set. -/
theorem setDate_of_write {millis : Nat} {text : String} (hwrite : HttpDate.write millis = .ok text)
    (h : Headers) (name : String) : h.setDate name millis = (.ok (), h.set name text) := by
  rw [setDate, hwrite]

/-- A date that cannot be written is not set. -/
theorem setDate_of_write_eq_error {millis : Nat} {e : DateError}
    (hwrite : HttpDate.write millis = .error e) (h : Headers) (name : String) :
    h.setDate name millis = (.error e, h) := by
  rw [setDate, hwrite]

end Headers
end HttpMock
