/-
# Dates are written and read back

Writing drops the milliseconds of an instant and nothing else, so reading gives the start of its
second.  Reading takes more texts than are written: blanks around a date, and two older forms.  What
is read from any of them is an instant that can be written, and a text of the written length is the
written text.

The main result is `HttpDate.write_read_inverse`.
-/
import HttpMock.HttpDate.Basic
import HttpMock.Proofs.DateForms

namespace HttpMock

/-- A text of ASCII characters takes one byte for each. -/
lemma Text.utf8ByteSize_ofList {s : List Char} (hs : ∀ c ∈ s, c.toNat < 128) :
    (String.ofList s).utf8ByteSize = s.length := by
  induction s with
  | nil => rfl
  | cons c s ih =>
    have hc : c.toNat < 128 := hs c List.mem_cons_self
    have hsize : c.utf8Size = 1 := Char.utf8Size_eq_one_iff.2 (Nat.le_of_lt_succ hc)
    rw [String.ofList_cons, String.utf8ByteSize_append, String.utf8ByteSize_singleton, hsize,
      ih fun d hd => hs d (List.mem_cons_of_mem c hd), List.length_cons, Nat.add_comm]

namespace HttpDate

lemma write_of_lt {millis : Nat} (hlt : millis < limit) :
    write millis = .ok (String.ofList (Stamp.ofSeconds (millis / 1000)).fixdate) :=
  if_neg (Nat.not_le.2 hlt)

lemma utf8ByteSize_fixdate (t : Stamp) : (String.ofList t.fixdate).utf8ByteSize = 29 := by
  rw [Text.utf8ByteSize_ofList (fixdate_ascii t), t.length_fixdate]

lemma ofText?_of_stamp? {text : String} {t : Stamp} (h : stamp? text = some t) :
    (∀ c ∈ Text.trimChars text.toList, c.toNat < 128)
      ∧ Stamp.ofText? (Text.trimChars text.toList) = some t := by
  simp only [stamp?] at h
  split at h
  · next hascii => exact ⟨isAscii_iff.1 hascii, (Option.filter_eq_some_iff.1 h).1⟩
  · exact absurd h (by simp)

/-- What is read can be written, as the fixed-width form of the stamp that was read. -/
lemma write_of_read {text : String} {millis : Nat} (h : read text = .ok millis) :
    ∃ t, stamp? text = some t ∧ millis = t.toSeconds * 1000 ∧ millis < limit
      ∧ write millis = .ok (String.ofList t.fixdate) := by
  obtain ⟨t, hstamp, hgenuine, rfl, hlt⟩ := exists_of_read h
  refine ⟨t, hstamp, rfl, hlt, ?_⟩
  rw [write_of_lt hlt, Nat.mul_div_cancel _ (by decide), Stamp.ofSeconds_toSeconds hgenuine]

/-- A text of the written length is the written text. -/
lemma fixdate_eq_trim {text : String} {t : Stamp} (h : stamp? text = some t)
    (hsize : (Text.trim text).utf8ByteSize = 29) : String.ofList t.fixdate = Text.trim text := by
  obtain ⟨hascii, htext⟩ := ofText?_of_stamp? h
  rw [Text.trim, Text.utf8ByteSize_ofList hascii] at hsize
  rw [Text.trim, Stamp.eq_fixdate_of_ofText? htext hsize]

/-- **Writing and reading dates are inverse to each other** up to parts of a second, to blanks and
to the older forms.  Writing fails for the instants after the year 9999 and for no other; what is
written has 29 bytes of ASCII and is read back as the start of the second, whatever blanks stand
around it; and what is read from any text can be written, as that text without its blanks if it has
the written length. -/
theorem write_read_inverse :
    (∀ millis e, write millis = .error e ↔ limit ≤ millis ∧ e = .outOfRange millis)
      ∧ (∀ millis < limit, ∃ text, write millis = .ok text ∧ text.utf8ByteSize = 29
        ∧ (∀ c ∈ text.toList, c.toNat < 128)
        ∧ ∀ p q : String, (∀ c ∈ p.toList, Text.isBlank c = true) →
          (∀ c ∈ q.toList, Text.isBlank c = true) →
          read (p ++ text ++ q) = .ok (truncate millis))
      ∧ ∀ text millis, read text = .ok millis → millis % 1000 = 0 ∧ millis < limit
        ∧ ∃ written, write millis = .ok written ∧ read written = .ok millis
          ∧ ((Text.trim text).utf8ByteSize = 29 → written = Text.trim text) := by
  refine ⟨fun millis e => write_eq_error_iff, ?_, ?_⟩
  · intro millis hlt
    have hwrite := write_of_lt hlt
    refine ⟨_, hwrite, utf8ByteSize_fixdate _, ?_, ?_⟩
    · rw [String.toList_ofList]
      exact fixdate_ascii _
    · intro p q hp hq
      have hread := read_of_write hwrite hp hq
      rwa [String.ofList_append, String.ofList_append, String.ofList_toList, String.ofList_toList,
        String.ofList_toList] at hread
  · intro text millis hread
    obtain ⟨t, hstamp, hmillis, hlt, hwrite⟩ := write_of_read hread
    have hwhole : millis % 1000 = 0 := by omega
    refine ⟨hwhole, hlt, _, hwrite, ?_, fixdate_eq_trim hstamp⟩
    have hback := read_of_write hwrite (List.forall_mem_nil _) (List.forall_mem_nil _)
    have htruncate : truncate millis = millis := by simp only [truncate, hwhole, Nat.sub_zero]
    rw [htruncate] at hback
    simpa using hback

/-- The blanks around a date are lost when it is read and written again, and nothing else is. -/
theorem write_read_inverse_sunday :
    read " Sun, 06 Nov 1994 08:49:37 GMT\t" = .ok 784111777000
      ∧ write 784111777000 = .ok "Sun, 06 Nov 1994 08:49:37 GMT" := by
  obtain ⟨-, -, hinverse⟩ := write_read_inverse
  have hread : read " Sun, 06 Nov 1994 08:49:37 GMT\t" = .ok 784111777000 := by decide +kernel
  obtain ⟨-, -, written, hwrite, -, hwritten⟩ := hinverse _ _ hread
  refine ⟨hread, ?_⟩
  rw [hwrite, hwritten (by decide +kernel)]
  decide +kernel

end HttpDate
end HttpMock
