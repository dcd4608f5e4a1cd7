/-
# Blank characters and trimming

A blank is a character with the White_Space property of Unicode: the ASCII blanks, the next-line
control, and the spaces and separators of the general punctuation block.  Characters that only
look empty, such as the zero-width space or the byte-order mark, are not blanks.  Trimming removes
the blanks at both ends of a text and none inside it.

Main statements: blanks around a text do not change what trimming leaves, and trimming a trimmed
text changes nothing.
-/

namespace HttpMock
namespace Text

/-- A character with Unicode's White_Space property. -/
def isBlank (c : Char) : Bool :=
  let n := c.toNat
  (9 ≤ n && n ≤ 13) || n == 0x20 || n == 0x85 || n == 0xA0 || n == 0x1680
    || (0x2000 ≤ n && n ≤ 0x200A) || n == 0x2028 || n == 0x2029 || n == 0x202F
    || n == 0x205F || n == 0x3000

/-- What is left of `s` without its leading and its trailing blanks. -/
def trimChars (s : List Char) : List Char :=
  ((s.dropWhile isBlank).reverse.dropWhile isBlank).reverse

/-- The text without the blanks at its two ends. -/
def trim (s : String) : String := String.ofList (trimChars s.toList)

@[simp] theorem toList_trim (s : String) : (trim s).toList = trimChars s.toList := by
  simp [trim]

theorem dropWhile_append_of_blank {p s : List Char} (hp : ∀ c ∈ p, isBlank c = true) :
    (p ++ s).dropWhile isBlank = s.dropWhile isBlank := by
  induction p with
  | nil => rfl
  | cons c p ih =>
    have hc : isBlank c = true := hp c (by simp)
    simp [hc, ih fun d hd => hp d (by simp [hd])]

theorem dropWhile_eq_nil_of_blank {s : List Char} (hs : ∀ c ∈ s, isBlank c = true) :
    s.dropWhile isBlank = [] := by
  simpa using dropWhile_append_of_blank (s := []) hs

theorem blank_of_dropWhile_eq_nil {s : List Char} (h : s.dropWhile isBlank = []) :
    ∀ c ∈ s, isBlank c = true := by
  intro c hc
  rw [← List.takeWhile_append_dropWhile (p := isBlank) (l := s), h, List.append_nil] at hc
  exact List.all_eq_true.1 (List.all_takeWhile (l := s)) c hc

/-- Blanks on both sides of a text are removed by trimming. -/
theorem trimChars_append_append {p s q : List Char} (hp : ∀ c ∈ p, isBlank c = true)
    (hq : ∀ c ∈ q, isBlank c = true) : trimChars (p ++ s ++ q) = trimChars s := by
  unfold trimChars
  rw [List.append_assoc, dropWhile_append_of_blank hp]
  congr 1
  by_cases h : s.dropWhile isBlank = []
  · have hall : ∀ c ∈ s ++ q, isBlank c = true := fun c hc =>
      (List.mem_append.1 hc).elim (blank_of_dropWhile_eq_nil h c) (hq c)
    rw [h, dropWhile_eq_nil_of_blank hall]
  · rw [List.dropWhile_append, if_neg (by simpa using h), List.reverse_append,
      dropWhile_append_of_blank fun c hc => hq c (by simpa using hc)]

/-- A text that neither starts nor ends with a blank is its own trimming. -/
theorem trimChars_eq_self {s : List Char} (hfirst : ∀ c ∈ s.head?, isBlank c = false)
    (hlast : ∀ c ∈ s.getLast?, isBlank c = false) : trimChars s = s := by
  unfold trimChars
  have h1 : s.dropWhile isBlank = s := by
    cases s with
    | nil => rfl
    | cons c s => simp [hfirst c (by simp)]
  have h2 : s.reverse.dropWhile isBlank = s.reverse := by
    cases hs : s.reverse with
    | nil => rfl
    | cons c r =>
      have : s.getLast? = some c := by rw [← List.head?_reverse, hs]; rfl
      simp [hlast c (by simp [this])]
  rw [h1, h2, List.reverse_reverse]

/-- Trimming leaves no blank at the start. -/
theorem head?_trimChars {s : List Char} {c : Char} (h : c ∈ (trimChars s).head?) :
    isBlank c = false := by
  unfold trimChars at h
  rw [List.head?_reverse] at h
  generalize hd : s.dropWhile isBlank = t at h
  have hsuf : (t.reverse.dropWhile isBlank) <:+ t.reverse := List.dropWhile_suffix _
  obtain ⟨u, hu⟩ := hsuf
  have ht : t = (t.reverse.dropWhile isBlank).reverse ++ u.reverse := by
    rw [← List.reverse_append, hu, List.reverse_reverse]
  cases hw : t.reverse.dropWhile isBlank with
  | nil => simp [hw] at h
  | cons d r =>
    rw [hw] at h ht
    have hhead : t.head? = some c := by
      rw [ht]
      have : ((d :: r).reverse).head? = some c := by rw [List.head?_reverse]; simpa using h
      cases hr : (d :: r).reverse with
      | nil => rw [hr] at this; simp at this
      | cons x y => rw [hr] at this; simpa using this
    have := List.head?_dropWhile_not isBlank s
    rw [hd, hhead] at this
    simpa using this

/-- Trimming leaves no blank at the end. -/
theorem getLast?_trimChars {s : List Char} {c : Char} (h : c ∈ (trimChars s).getLast?) :
    isBlank c = false := by
  unfold trimChars at h
  rw [List.getLast?_reverse] at h
  have := List.head?_dropWhile_not isBlank (s.dropWhile isBlank).reverse
  rw [Option.mem_def.1 h] at this
  simpa using this

/-- Trimming twice is trimming once. -/
theorem trimChars_trimChars (s : List Char) : trimChars (trimChars s) = trimChars s :=
  trimChars_eq_self (fun _ h => head?_trimChars h) (fun _ h => getLast?_trimChars h)

end Text
end HttpMock
