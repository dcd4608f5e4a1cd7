/-
# Texts, counts and flags as they are written

A document can say one thing in many ways.  This file fixes one of them for each of the values that
settings are made of: a text stands between double quotes, with escapes for quotes, backslashes and
control characters; a count is its plain decimal numeral; a flag is one of two words.  Each of them
is read back as the value that it writes, whatever comes after it on the line.

* `Toml.stringBody?_escaped`: the characters of a text, written one after another, up to the quote
  that closes it;
* `Toml.ofWord?_decimalChars`: the numeral of a count is the word of an integer;
* `Toml.Scalar.value?_spelling`: what is written is read back.
-/
import Mathlib.Tactic.Common
import HttpMock.Proofs.Numerals
import HttpMock.Toml.Document

namespace HttpMock
namespace Toml
open Text

/-- A value without parts. -/
inductive Scalar
  /-- Any text. -/
  | string (text : String)
  /-- A count that fits in 64 bits. -/
  | integer (n : UInt64)
  /-- A truth value. -/
  | boolean (b : Bool)

/-- A hexadecimal digit. -/
def hexChar (n : ℕ) : Char := if n < 10 then Char.ofNat (48 + n) else Char.ofNat (87 + n)

/-- A character as it is written between double quotes: quotes and backslashes behind a backslash,
and control characters by their code point. -/
def escaped (c : Char) : List Char :=
  if c = '"' ∨ c = '\\' then ['\\', c]
  else if isLineChar c then [c]
  else ['\\', 'u', '0', '0', hexChar (c.toNat / 16), hexChar (c.toNat % 16)]

namespace Scalar

/-- The value that is read. -/
def toValue : Scalar → Value
  | string text => .string text
  | integer n => .integer n.toNat
  | boolean b => .boolean b

/-- The value as it is written. -/
def spelling : Scalar → List Char
  | string text => '"' :: text.toList.flatMap escaped ++ ['"']
  | integer n => decimalChars n.toNat
  | boolean true => ['t', 'r', 'u', 'e']
  | boolean false => ['f', 'a', 'l', 's', 'e']

end Scalar

/-! ### Texts -/

/-- Control characters are told from the others by their code point. -/
lemma toNat_lt_of_not_isLineChar {c : Char} (hc : isLineChar c = false) : c.toNat < 128 := by
  simp only [isLineChar, Bool.or_eq_false_iff, Bool.and_eq_false_iff, decide_eq_false_iff_not,
    bne_eq_false_iff_eq] at hc
  omega

/-- The code point of a control character is read back. -/
lemma codePoint?_of_lt {n : ℕ} (hn : n < 128) (s : List Char) :
    codePoint? 4 ('0' :: '0' :: hexChar (n / 16) :: hexChar (n % 16) :: s)
      = some (Char.ofNat n, s) := by
  have hdigits : ∀ n < 128, ['0', '0', hexChar (n / 16), hexChar (n % 16)].mapM hexDigit?
      = some [0, 0, n / 16, n % 16] := by
    decide +kernel
  have hvalue : [0, 0, n / 16, n % 16].foldl (fun n d => 16 * n + d) 0 = n := by
    simp only [List.foldl_cons, List.foldl_nil]
    omega
  have htake : ('0' :: '0' :: hexChar (n / 16) :: hexChar (n % 16) :: s).take 4
      = ['0', '0', hexChar (n / 16), hexChar (n % 16)] := by simp
  have hrange : n < 0xD800 ∨ (0xE000 ≤ n ∧ n < 0x110000) := .inl (by omega)
  rw [codePoint?]
  simp only [htake, hdigits n hn, hvalue, if_pos hrange]
  simp

/-- A written character is read as one piece of a text. -/
lemma escaped?_escaped (c : Char) (s : List Char) :
    escaped? plain? (escaped c ++ s) = some ([c], s) := by
  rw [escaped]
  split
  · next hc =>
    rcases hc with rfl | rfl <;> rfl
  · next hc =>
    obtain ⟨-, hbackslash⟩ := not_or.1 hc
    split
    · next hline =>
      rw [List.singleton_append, escaped?.eq_2 _ _ (by simpa using hbackslash), plain?,
        if_pos hline]
    · next hline =>
      have hlt := toNat_lt_of_not_isLineChar (Bool.eq_false_iff.2 hline)
      change (codePoint? 4
        ('0' :: '0' :: hexChar (c.toNat / 16) :: hexChar (c.toNat % 16) :: s)).map
          (fun read => ([read.1], read.2)) = _
      rw [codePoint?_of_lt hlt, Char.ofNat_toNat]
      rfl

/-- No written character begins like the end of the text. -/
lemma exists_escaped_eq_cons (c : Char) : ∃ d s, escaped c = d :: s ∧ d ≠ '"' := by
  rw [escaped]
  split
  · exact ⟨'\\', [c], rfl, by decide⟩
  · next hc =>
    split
    · exact ⟨c, [], rfl, (not_or.1 hc).1⟩
    · exact ⟨'\\', _, rfl, by decide⟩

lemma untilClose?_escaped (text rest : List Char) {bound : ℕ} (hbound : text.length < bound) :
    untilClose? (closeLine? '"') (escaped? plain?) bound (text.flatMap escaped ++ '"' :: rest)
      = some (text, rest) := by
  induction text generalizing bound with
  | nil =>
    obtain ⟨bound, rfl⟩ := Nat.exists_eq_succ_of_ne_zero (by omega : bound ≠ 0)
    rfl
  | cons c text ih =>
    obtain ⟨bound, rfl⟩ := Nat.exists_eq_succ_of_ne_zero (by omega : bound ≠ 0)
    have hopen (s : List Char) : closeLine? '"' (escaped c ++ s) = none := by
      obtain ⟨d, t, hescaped, hd⟩ := exists_escaped_eq_cons c
      rw [hescaped, List.cons_append, closeLine?, if_neg hd]
    have hbound : text.length < bound := by simpa using hbound
    rw [List.flatMap_cons, List.append_assoc, untilClose?, hopen, escaped?_escaped]
    dsimp only
    rw [ih hbound]
    rfl

lemma length_le_flatMap_escaped (text : List Char) :
    text.length ≤ (text.flatMap escaped).length := by
  induction text with
  | nil => exact Nat.le_refl 0
  | cons c text ih =>
    obtain ⟨d, s, hescaped, -⟩ := exists_escaped_eq_cons c
    rw [List.flatMap_cons, hescaped, List.length_append, List.length_cons, List.length_cons]
    omega

/-- A written text is read up to the quote that closes it. -/
lemma stringBody?_escaped (text : String) (rest : List Char) :
    stringBody? (closeLine? '"') (escaped? plain?) (text.toList.flatMap escaped ++ '"' :: rest)
      = some (text, rest) := by
  have hbound : text.toList.length < (text.toList.flatMap escaped ++ '"' :: rest).length := by
    have := length_le_flatMap_escaped text.toList
    rw [List.length_append, List.length_cons]
    omega
  rw [stringBody?, untilClose?_escaped text.toList rest hbound]
  simp

/-- No more than two quotes follow each other, so the text is one of a single line. -/
lemma string?_escaped (text : String) {rest : List Char} (hrest : '"' ∉ rest.head?) :
    string? ('"' :: (text.toList.flatMap escaped ++ '"' :: rest)) = some (text, rest) := by
  have hquotes : ∀ s,
      '"' :: (text.toList.flatMap escaped ++ '"' :: rest) ≠ '"' :: '"' :: '"' :: s := by
    intro s heq
    cases htext : text.toList with
    | nil =>
      rw [htext] at heq
      obtain rfl : rest = '"' :: s := by simpa using heq
      exact hrest (by simp)
    | cons c text =>
      obtain ⟨d, t, hescaped, hd⟩ := exists_escaped_eq_cons c
      rw [htext, List.flatMap_cons, hescaped] at heq
      exact hd (by simpa using (List.cons.inj (List.cons.inj heq).2).1)
  rw [string?.eq_3 _ hquotes (by simp), lineString?, stringBody?_escaped]

/-! ### Words -/

/-- What comes right after a value: the end of its line, or a mark that parts it from the next value
or closes the table in which it stands. -/
def valueEnds : List Char := ['\n', ',', '\x7d']

/-- A word goes as far as the mark after it. -/
lemma word_append {w : List Char} (hw : ∀ c ∈ w, isWordChar c = true) {c : Char}
    (hc : c ∈ valueEnds) (rest : List Char) : word (w ++ c :: rest) = (w, c :: rest) := by
  have hend : isWordChar c = false := by
    have hends : valueEnds.all (fun c => !isWordChar c) = true := by decide
    simpa using List.all_eq_true.1 hends c hc
  have hblank : c ≠ ' ' := by
    rintro rfl
    exact absurd hc (by decide)
  rw [word]
  simp only [List.takeWhile_append_of_pos hw, List.dropWhile_append_of_pos hw,
    List.takeWhile_cons, List.dropWhile_cons, hend, Bool.false_eq_true, if_false, List.append_nil]
  split
  · next heq => exact absurd (List.cons.inj heq).1 hblank
  · rfl

/-! ### Counts -/

lemma literal?_of_not_mem {c : Char} {s : List Char} (hc : c ∉ s) : literal? [c] s = none := by
  cases s with
  | nil => rfl
  | cons d s => rw [literal?, if_neg (List.ne_of_not_mem_cons hc)]

lemma not_mem_of_number? {c : Char} {width n : ℕ} {s rest : List Char} (hc : c ∉ s)
    (hnumber : number? width s = some (n, rest)) : c ∉ rest := by
  rw [(number?_eq_some_iff.1 hnumber).2, List.mem_append, not_or] at hc
  exact hc.2

/-- A time of day has a colon in it. -/
lemma skipTime?_eq_none {s : List Char} (hcolon : ':' ∉ s) : skipTime? s = none := by
  rw [skipTime?]
  cases hhour : number? 2 s with
  | none => rfl
  | some p =>
    obtain ⟨hour, rest⟩ := p
    have hrest := literal?_of_not_mem (not_mem_of_number? hcolon hhour)
    simp only [Option.bind_eq_bind, Option.bind_some, hrest, Option.bind_none]

/-- A date has a hyphen in it. -/
lemma skipDate?_eq_none {s : List Char} (hhyphen : '-' ∉ s) : skipDate? s = none := by
  rw [skipDate?]
  cases hyear : number? 4 s with
  | none => rfl
  | some p =>
    obtain ⟨year, rest⟩ := p
    have hrest := literal?_of_not_mem (not_mem_of_number? hhyphen hyear)
    simp only [Option.bind_eq_bind, Option.bind_some, hrest, Option.bind_none]

lemma opensString_eq_false {s : List Char} (hpoint : '.' ∉ s) : opensString s = false := by
  induction s with
  | nil => rfl
  | cons c s ih =>
    obtain ⟨hc, hs⟩ := not_or.1 (mt List.mem_cons.2 hpoint)
    rw [opensString.eq_2 _ _ (by rintro d t rfl; exact absurd rfl hc)]
    exact ih hs

/-- What holds of the ten digits holds of every character of a numeral. -/
lemma forall_mem_decimalChars {P : Char → Prop} (h : ∀ d < 10, P (digitChar d)) (n : ℕ) :
    ∀ c ∈ decimalChars n, P c := by
  intro c hc
  have hdigit := digit?_eq_some_iff.2 ⟨(isNumeral_decimalChars n).isDigit c hc, rfl⟩
  obtain ⟨hlt, hchar⟩ := digit?_eq_some hdigit
  rw [hchar]
  exact h _ hlt

lemma not_mem_decimalChars {c : Char} (h : ∀ d < 10, digitChar d ≠ c) (n : ℕ) :
    c ∉ decimalChars n :=
  fun hc => forall_mem_decimalChars (P := (· ≠ c)) h n c hc rfl

/-- No numeral but that of zero begins with a zero. -/
lemma exists_decimalChars_eq_cons (n : ℕ) :
    ∃ d < 10, ∃ s, decimalChars n = digitChar d :: s ∧ (d = 0 → n = 0) := by
  induction n using decimalChars.induct with
  | case1 n hn => exact ⟨n, hn, [], by rw [decimalChars, if_pos hn], id⟩
  | case2 n hn ih =>
    obtain ⟨d, hd, s, hs, hzero⟩ := ih
    refine ⟨d, hd, s ++ [digitChar (n % 10)], ?_, ?_⟩
    · rw [decimalChars, if_neg hn, hs, List.cons_append]
    · intro h
      have := hzero h
      omega

lemma rowValue_decimalChars (n : ℕ) : rowValue 10 (decimalChars n) = n := by
  have hdigit : ∀ d < 10, (hexDigit? (digitChar d)).getD 0 = d := by decide
  induction n using decimalChars.induct with
  | case1 n hn =>
    rw [decimalChars, if_pos hn, rowValue, List.foldl_cons, List.foldl_nil, hdigit n hn]
    omega
  | case2 n hn ih =>
    rw [rowValue] at ih
    rw [decimalChars, if_neg hn, rowValue, List.foldl_append, ih, List.foldl_cons, List.foldl_nil,
      hdigit _ (Nat.mod_lt n (by decide))]
    omega

lemma splitSign_decimalChars (n : ℕ) : splitSign (decimalChars n) = (none, decimalChars n) := by
  rw [splitSign.eq_3]
  · rintro s hs
    exact not_mem_decimalChars (c := '-') (by decide) n (by rw [hs]; exact List.mem_cons_self)
  · rintro s hs
    exact not_mem_decimalChars (c := '+') (by decide) n (by rw [hs]; exact List.mem_cons_self)

/-- No underscore parts the digits, so a numeral is one part of digits, which begins with a zero only
if it is zero. -/
lemma isDecimal_decimalChars (n : ℕ) : IntegerWord.isDecimal (decimalChars n) = true := by
  have hsplit : (decimalChars n).splitOn '_' = [decimalChars n] :=
    List.splitOn_eq_singleton (not_mem_decimalChars (by decide) n)
  have hall : (decimalChars n).all Char.isDigit = true :=
    List.all_eq_true.2 (forall_mem_decimalChars (by decide) n)
  have hfirst : decimalChars n = ['0'] ∨ (decimalChars n).head?.any (· != '0') = true := by
    obtain ⟨d, hd, s, hs, hzero⟩ := exists_decimalChars_eq_cons n
    have hdigit : ∀ d < 10, digitChar d = '0' → d = 0 := by decide
    by_cases hd0 : digitChar d = '0'
    · left
      rw [hzero (hdigit d hd hd0), decimalChars, if_pos (by decide)]
      rfl
    · right
      rw [hs]
      simpa using hd0
  rw [IntegerWord.isDecimal, hsplit]
  dsimp only
  rw [splitSign_decimalChars, hall]
  simpa [IntegerWord.arePartedAtDigits] using hfirst

/-- A numeral has the shape of an integer to the base ten. -/
lemma ofWord?_decimalChars (n : ℕ) :
    IntegerWord.ofWord? (decimalChars n) = some ⟨10, decimalChars n⟩ := by
  have hfilter : (decimalChars n).filter (· != '_') = decimalChars n := by
    rw [List.filter_eq_self]
    simpa using forall_mem_decimalChars (P := (· ≠ '_')) (by decide) n
  have hbase (mark : Char) (hmark : ∀ d < 10, digitChar d ≠ mark) (s : List Char) :
      decimalChars n ≠ '0' :: mark :: s := by
    intro hs
    apply not_mem_decimalChars hmark n
    rw [hs]
    exact List.mem_cons_of_mem _ List.mem_cons_self
  rw [IntegerWord.ofWord?.eq_4 _ (hbase 'x' (by decide)) (hbase 'o' (by decide))
    (hbase 'b' (by decide)), if_pos (isDecimal_decimalChars n), hfilter]

lemma toInt?_decimalChars {n : ℕ} (hn : n < 2 ^ 64) :
    IntegerWord.toInt? ⟨10, decimalChars n⟩ = some (n : ℤ) := by
  have hdigits : (!(decimalChars n).isEmpty && (decimalChars n).all (isDigitOf 10)) = true := by
    rw [List.all_eq_true.2 (forall_mem_decimalChars (by decide) n)]
    simp [decimalChars_ne_nil]
  have hfits : (-9223372036854775808 ≤ (n : ℤ) && (n : ℤ) < 18446744073709551616) = true := by
    rw [Bool.and_eq_true, decide_eq_true_eq, decide_eq_true_eq]
    omega
  rw [IntegerWord.toInt?, splitSign_decimalChars]
  dsimp only
  rw [if_pos hdigits, rowValue_decimalChars, signed, if_neg (by decide), Option.filter_some,
    if_pos hfits]

/-- The word of a count is neither a flag nor a date, and is no decimal fraction. -/
lemma valueOfWord?_decimalChars {n : ℕ} (hn : n < 2 ^ 64) :
    Value.ofWord? (decimalChars n) = some (.integer n) := by
  have hdatetime : isDatetime (decimalChars n) = false := by
    rw [isDatetime, skipTime?_eq_none (not_mem_decimalChars (by decide) n),
      skipDate?_eq_none (not_mem_decimalChars (by decide) n)]
    rfl
  have htrue : decimalChars n ≠ ['t', 'r', 'u', 'e'] := by
    intro h
    exact not_mem_decimalChars (c := 't') (by decide) n (by rw [h]; decide)
  have hfalse : decimalChars n ≠ ['f', 'a', 'l', 's', 'e'] := by
    intro h
    exact not_mem_decimalChars (c := 'f') (by decide) n (by rw [h]; decide)
  rw [Value.ofWord?, if_neg htrue, if_neg hfalse, hdatetime,
    opensString_eq_false (not_mem_decimalChars (by decide) n)]
  simp [Value.ofNumber?, ofWord?_decimalChars, toInt?_decimalChars hn]

/-! ### Scalars -/

/-- The characters with which a string, a list or a table begins. -/
def valueMarks : List Char := ['"', '\'', '[', '\x7b']

/-- What begins otherwise is a word. -/
lemma value?_of_word {c : Char} (hc : c ∉ valueMarks) (depth : ℕ) (s : List Char) :
    value? depth (c :: s)
      = (Value.ofWord? (word (c :: s)).1).map fun v => (v, (word (c :: s)).2) := by
  have hne (mark : Char) (hmark : mark ∈ valueMarks) (r : List Char) : c :: s ≠ mark :: r := by
    intro h
    exact hc ((List.cons.inj h).1 ▸ hmark)
  rw [value?.eq_7 _ _ (hne '"' (by decide)) (hne '\'' (by decide))
    (fun r h _ => hne '[' (by decide) r h) (fun r h _ => hne '\x7b' (by decide) r h)
    (fun r _ h _ => hne '[' (by decide) r h) (fun r _ h _ => hne '\x7b' (by decide) r h)]

/-- A word that is a value is read up to the mark after it. -/
lemma value?_word_append {w : List Char} {v : Value} (hvalue : Value.ofWord? w = some v)
    (hw : ∀ c ∈ w, isWordChar c = true) (hmark : ∀ c ∈ w.head?, c ∉ valueMarks) (hne : w ≠ [])
    (depth : ℕ) {c : Char} (hc : c ∈ valueEnds) (rest : List Char) :
    value? depth (w ++ c :: rest) = some (v, c :: rest) := by
  obtain ⟨d, s, rfl⟩ := List.exists_cons_of_ne_nil hne
  rw [List.cons_append, value?_of_word (hmark d rfl), ← List.cons_append, word_append hw hc, hvalue]
  rfl

namespace Scalar

/-- **What is written is read back.** -/
theorem value?_spelling (x : Scalar) (depth : ℕ) {c : Char} (hc : c ∈ valueEnds)
    (rest : List Char) : value? depth (x.spelling ++ c :: rest) = some (x.toValue, c :: rest) := by
  cases x with
  | string text =>
    have hquote : '"' ∉ (c :: rest).head? := by
      intro h
      obtain rfl : c = '"' := by simpa using h
      exact absurd hc (by decide)
    have hspelling : (string text).spelling ++ c :: rest
        = '"' :: (text.toList.flatMap escaped ++ '"' :: c :: rest) := by
      simp [spelling]
    rw [hspelling, value?.eq_1, string?_escaped text hquote]
    rfl
  | integer n =>
    refine value?_word_append (valueOfWord?_decimalChars n.toNat_lt)
      (forall_mem_decimalChars (by decide) _) ?_ (decimalChars_ne_nil _) depth hc rest
    intro d hd
    exact forall_mem_decimalChars (P := (· ∉ valueMarks)) (by decide) _ d (List.mem_of_mem_head? hd)
  | boolean b =>
    cases b with
    | true =>
      refine value?_word_append rfl (List.all_eq_true.1 (by decide)) ?_ (by decide) depth hc rest
      rintro d ⟨⟩
      decide
    | false =>
      refine value?_word_append rfl (List.all_eq_true.1 (by decide)) ?_ (by decide) depth hc rest
      rintro d ⟨⟩
      decide

end Scalar
end Toml
end HttpMock
