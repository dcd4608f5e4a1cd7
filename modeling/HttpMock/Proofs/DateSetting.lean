/-
# Setting a date is all or nothing

A header is given the date of an instant, unless the instant has no HTTP-date.  Then nothing happens
at all: the map is as it was, with whatever values the header had.  Otherwise the header has the
date as its only value, under all spellings of its name, and is read back as the second of the
instant; it stands where it stood, or comes last if it is new, and no other header is touched.

* `Headers.setDate_eq_error_iff` and `Headers.snd_setDate_of_error`: when a date is not set, and
  what that leaves;
* `Headers.isDatedAs_of_setDate`: what a map is like after a date was set;
* `Headers.setDate_all_or_nothing`: what a failure and a success leave behind, also in a response
  that is made by steps.
-/
import HttpMock.Proofs.DateValues
import HttpMock.Proofs.FinishFrame

namespace HttpMock
namespace Headers

variable {h : Headers} {name : String} {millis : ℕ} {text : String} {e : DateError}

/-- A map differs from another by the date of one header. -/
structure IsDatedAs (k h : Headers) (name : String) (millis : ℕ) : Prop where
  /-- The date is the one value of the header, however its name is spelled. -/
  values : ∃ text, HttpDate.write millis = .ok text
    ∧ ∀ other, key other = key name → k.getAll other = [text]
  /-- It is read back as the second of the instant. -/
  date : ∀ other, key other = key name → k.getDate? other = some (.ok (HttpDate.truncate millis))
  /-- The headers are listed in the same order and spelling, and the header comes last if it is
  new. -/
  names : k.toList.map Prod.fst
    = h.toList.map Prod.fst ++ if h.contains name then [] else [name]
  /-- All other headers are as they were. -/
  others : AgreesBut name h k

/-! ### Failure and success -/

/-- A date is not set exactly if it cannot be written. -/
lemma setDate_eq_error_iff :
    (h.setDate name millis).1 = .error e ↔ HttpDate.limit ≤ millis ∧ e = .outOfRange millis := by
  rw [← HttpDate.write_eq_error_iff, setDate]
  cases HttpDate.write millis <;> simp

/-- A failure leaves the map that it is given. -/
lemma snd_setDate_of_error (hfail : (h.setDate name millis).1 = .error e) :
    (h.setDate name millis).2 = h := by
  have hwrite := HttpDate.write_eq_error_iff.2 (setDate_eq_error_iff.1 hfail)
  rw [setDate_of_write_eq_error hwrite]

/-- A date that is set is the one that is written. -/
lemma exists_of_setDate (hset : (h.setDate name millis).1 = .ok ()) :
    ∃ text, HttpDate.write millis = .ok text ∧ (h.setDate name millis).2 = h.set name text := by
  cases hwrite : HttpDate.write millis with
  | ok text => exact ⟨text, rfl, by rw [setDate_of_write hwrite]⟩
  | error e =>
    rw [setDate_of_write_eq_error hwrite] at hset
    exact absurd hset (by simp)

/-- A header that was given a date has that date, and nothing else has changed. -/
lemma isDatedAs_of_setDate (hwf : h.IsWellFormed) (hset : (h.setDate name millis).1 = .ok ()) :
    (h.setDate name millis).2.IsDatedAs h name millis := by
  have hothers : AgreesBut name h (h.setDate name millis).2 :=
    agreesBut_edit hwf (.setDate name millis)
  obtain ⟨text, hwrite, hmap⟩ := exists_of_setDate hset
  rw [hmap] at hothers ⊢
  have hvalues (other : String) (hkey : key other = key name) :
      (h.set name text).getAll other = [text] := by
    rw [getAll_set, if_pos hkey]
  refine ⟨⟨text, hwrite, hvalues⟩, ?_, ?_, hothers⟩
  · intro other hkey
    rw [getDate?, get?_eq_head?_getAll, hvalues other hkey, List.head?_cons, Option.map_some,
      HttpDate.read_write hwrite]
  · rw [map_fst_toList, map_fst_toList, map_name_set]

end Headers

/-! ### Responses that are made by steps -/

namespace Response

variable {millis : ℕ}

lemma withLastModified_of_le (r : Response) (hle : HttpDate.limit ≤ millis) :
    r.withLastModified millis = r := by
  rw [withLastModified, Headers.setDate_of_write_eq_error (HttpDate.write_eq_error hle)]

lemma getDate?_withLastModified (r : Response) (hlt : millis < HttpDate.limit) :
    (r.withLastModified millis).headers.getDate? ResponseHeader.lastModified.name
      = some (.ok (HttpDate.truncate millis)) := by
  obtain ⟨text, hwrite⟩ := HttpDate.exists_write hlt
  rw [withLastModified, Headers.setDate_of_write hwrite, Headers.getDate?,
    Headers.get?_eq_head?_getAll, Headers.getAll_set, if_pos rfl, List.head?_cons, Option.map_some,
    HttpDate.read_write hwrite]

lemma ofSteps_concat (status : Status) (steps : List Step) (s : Step) :
    ofSteps status (steps ++ [s]) = (ofSteps status steps).step s := by
  rw [ofSteps, List.foldl_append]
  rfl

/-- A date that cannot be written might as well not have been told. -/
lemma ofSteps_withLastModified_of_le (status : Status) (before after : List Step)
    (hle : HttpDate.limit ≤ millis) :
    ofSteps status (before ++ .withLastModified millis :: after)
      = ofSteps status (before ++ after) := by
  rw [ofSteps, ofSteps, List.foldl_append, List.foldl_append, List.foldl_cons, step,
    withLastModified_of_le _ hle]

end Response

/-- **Setting a date is all or nothing.**  It fails exactly for the instants that have no HTTP-date,
and then the map that it leaves is the one that it was given; otherwise the header has the date, as
its only value and to the second, and all else is as it was.  So in a response that is made by
steps, a last modification that has no HTTP-date leaves no trace, and any other is there right after
its step. -/
theorem Headers.setDate_all_or_nothing :
    (∀ (h : Headers) (name : String) (millis : ℕ), h.IsReachable →
        h.edit (.setDate name millis) = (h.setDate name millis).2
        ∧ (∀ e, (h.setDate name millis).1 = .error e
          ↔ HttpDate.limit ≤ millis ∧ e = .outOfRange millis)
        ∧ (∀ e, (h.setDate name millis).1 = .error e → (h.setDate name millis).2 = h)
        ∧ (millis < HttpDate.limit → (h.setDate name millis).1 = .ok ())
        ∧ ((h.setDate name millis).1 = .ok () →
          (h.setDate name millis).2.IsDatedAs h name millis))
      ∧ (∀ (status : Status) (before after : List Response.Step) (millis : ℕ),
        HttpDate.limit ≤ millis →
        Response.ofSteps status (before ++ .withLastModified millis :: after)
          = Response.ofSteps status (before ++ after))
      ∧ ∀ (status : Status) (steps : List Response.Step) (millis : ℕ), millis < HttpDate.limit →
        (Response.ofSteps status (steps ++ [.withLastModified millis])).headers.getDate?
            ResponseHeader.lastModified.name
          = some (.ok (HttpDate.truncate millis)) := by
  refine ⟨?_, ?_, ?_⟩
  · intro h name millis hreach
    refine ⟨rfl, fun e => setDate_eq_error_iff, fun e => snd_setDate_of_error, ?_,
      isDatedAs_of_setDate hreach.isWellFormed⟩
    intro hlt
    obtain ⟨text, hwrite⟩ := HttpDate.exists_write hlt
    rw [setDate_of_write hwrite]
  · intro status before after millis hle
    exact Response.ofSteps_withLastModified_of_le status before after hle
  · intro status steps millis hlt
    rw [Response.ofSteps_concat]
    exact Response.getDate?_withLastModified _ hlt

/-- A header with two values gets a date under another spelling, and keeps its values where the date
comes too late to be written; and a page is told as modified only at a time that can be written. -/
theorem Headers.setDate_all_or_nothing_twice :
    let h := ((empty.append "Date" "never").append "Date" "once").append "Vary" "a"
    ((h.setDate "DATE" 784111777999).1 = .ok ()
        ∧ (h.setDate "DATE" 784111777999).2.getDate? "date" = some (.ok 784111777000)
        ∧ (h.setDate "DATE" 784111777999).2.getAll "Vary" = ["a"])
      ∧ (h.setDate "Date" 253402300800000).2 = h
      ∧ Response.ofSteps .ok [.withEtag "\"v1\"", .withLastModified 253402300800000]
        = Response.ofSteps .ok [.withEtag "\"v1\""]
      ∧ (Response.ofSteps .ok [.withEtag "\"v1\"", .withLastModified 784111777999]).headers.getDate?
          "Last-Modified" = some (.ok 784111777000) := by
  intro h
  have hreach : h.IsReachable :=
    ((IsReachable.empty.append "Date" "never").append "Date" "once").append "Vary" "a"
  obtain ⟨hmaps, hlate, hsoon⟩ := setDate_all_or_nothing
  have htruncate : HttpDate.truncate 784111777999 = 784111777000 := by decide
  refine ⟨?_, ?_, ?_, ?_⟩
  · -- through the folded names, so that two spellings are not compared by evaluation
    obtain ⟨hupper, hlower, hvary⟩ : key "DATE" = "date" ∧ key "date" = "date"
        ∧ key "Vary" = "vary" := by decide +kernel
    have hother : key "Vary" ≠ key "DATE" := by
      rw [hvary, hupper]
      decide
    obtain ⟨-, -, -, hset, hdated⟩ := hmaps h "DATE" 784111777999 hreach
    have hdone := hset (by decide)
    refine ⟨hdone, ?_, ?_⟩
    · rw [(hdated hdone).date "date" (hlower.trans hupper.symm), htruncate]
    · rw [(hdated hdone).others.values "Vary" hother, getAll_append, if_pos rfl]
      decide +kernel
  · obtain ⟨-, hfails, hkept, -⟩ := hmaps h "Date" 253402300800000 hreach
    exact hkept _ ((hfails (.outOfRange 253402300800000)).2 ⟨by decide, rfl⟩)
  · exact hlate .ok [.withEtag "\"v1\""] [] 253402300800000 (by decide)
  · rw [← htruncate]
    exact hsoon .ok [.withEtag "\"v1\""] 784111777999 (by decide)

end HttpMock
