/-
# Reading a text from the left

A reader takes what is left of a text and answers what it has read together with what is left
after it, or nothing if the text does not start as it wants.  Three readers are enough for formats
of fixed width: a literal text, a number of a fixed count of digits, and one of a list of names.

Main statements: a literal text and a number are read from exactly the texts that start with a
written form of them, and a name only from a text that starts with it; what is left is exactly the
rest.
-/
import HttpMock.Text.Numeral

namespace HttpMock
namespace Text

/-- What is left of a text after the literal `l`. -/
def literal? : List Char → List Char → Option (List Char)
  | [], s => some s
  | _ :: _, [] => none
  | c :: l, d :: s => if c = d then literal? l s else none

/-- The number in the first `width` digits of a text, and what is left. -/
def number? (width : Nat) (s : List Char) : Option (Nat × List Char) :=
  if s.length < width then none
  else (digitsValue? 0 (s.take width)).map fun n => (n, s.drop width)

/-- The first of `values` whose name a text starts with, and what is left after that name. -/
def named? (name : α → String) : List α → List Char → Option (α × List Char)
  | [], _ => none
  | a :: values, s =>
    match literal? (name a).toList s with
    | some r => some (a, r)
    | none => named? name values s

@[simp] theorem literal?_append (l s : List Char) : literal? l (l ++ s) = some s := by
  induction l with
  | nil => rfl
  | cons c l ih => simp [literal?, ih]

theorem literal?_eq_some_iff {l s r : List Char} : literal? l s = some r ↔ s = l ++ r := by
  constructor
  · intro h
    induction l generalizing s with
    | nil => simpa [literal?] using h
    | cons c l ih =>
      cases s with
      | nil => simp [literal?] at h
      | cons d s =>
        simp only [literal?] at h
        split at h
        · next hcd => subst hcd; rw [ih h]; rfl
        · simp at h
  · rintro rfl
    exact literal?_append l r

theorem number?_eq_some_iff {width n : Nat} {s r : List Char} :
    number? width s = some (n, r) ↔ n < tens width ∧ s = padded width n ++ r := by
  constructor
  · intro h
    unfold number? at h
    split at h
    · simp at h
    · next hlen =>
      obtain ⟨m, hm, h⟩ := Option.map_eq_some_iff.1 h
      obtain ⟨rfl, rfl⟩ := Prod.mk.inj h
      have hw : (s.take width).length = width := by simp; omega
      obtain ⟨k, hk, rfl, hs⟩ := eq_padded_of_digitsValue? hm
      rw [hw] at hk hs
      rw [Nat.zero_mul, Nat.zero_add]
      exact ⟨hk, by rw [← hs, List.take_append_drop]⟩
  · rintro ⟨hn, rfl⟩
    have hlen : ¬ (padded width n ++ r).length < width := by simp
    rw [number?, if_neg hlen, List.take_left' (by simp), List.drop_left' (by simp),
      digitsValue?_padded]
    simp [Nat.mod_eq_of_lt hn]

theorem number?_append {width n : Nat} (h : n < tens width) (r : List Char) :
    number? width (padded width n ++ r) = some (n, r) :=
  number?_eq_some_iff.2 ⟨h, rfl⟩

theorem eq_append_of_named? {name : α → String} {values : List α} {a : α} {s r : List Char}
    (h : named? name values s = some (a, r)) : a ∈ values ∧ s = (name a).toList ++ r := by
  induction values with
  | nil => simp [named?] at h
  | cons b values ih =>
    unfold named? at h
    split at h
    · next hb =>
      obtain ⟨rfl, rfl⟩ := Prod.mk.inj (Option.some.inj h)
      exact ⟨by simp, literal?_eq_some_iff.1 hb⟩
    · obtain ⟨ha, hs⟩ := ih h
      exact ⟨by simp [ha], hs⟩

end Text
end HttpMock
