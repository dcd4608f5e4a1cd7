/-
# Described requests tell their length

A request is described in steps, in any order, and a later body takes the place of an earlier one.
Only when the description is finished is the length of the body told, so that no length of an
earlier body is left over.  This file follows a description that does not name the length itself,
from its steps to the answer of a harness.

* `Draft.body_ofSteps` and `Draft.hasHeader_ofSteps`: what the steps leave behind;
* `Draft.tellsBody_finish`: a finished request tells the length of its body, after all else;
* `Harness.perform_of_tellsBody`: such a request is refused for its body or it is handled, and
  nothing else can be wrong with it;
* `Draft.finish_consistent`: the same from the steps of a description.
-/
import HttpMock.Proofs.Admission
import HttpMock.Proofs.HeaderInvariant

namespace HttpMock

/-- A request tells the length of its body, in one plain numeral and after all other headers, if it
has a body, and no length otherwise. -/
structure Request.TellsBody (r : Request) : Prop where
  present : r.hasHeader .contentLength = true ↔ r.body ≠ .empty
  values : r.body ≠ .empty →
    r.headers.getAll RequestHeader.contentLength.name = [Text.decimal r.body.size]
  last : r.body ≠ .empty → ∃ others : List (String × List String),
    r.headers.toList
        = others ++ [(RequestHeader.contentLength.name, [Text.decimal r.body.size])]
      ∧ ∀ entry ∈ others, Headers.key entry.1 ≠ Headers.key RequestHeader.contentLength.name

/-! ### Headers that are new -/

namespace Headers

variable {h : Headers} {name : String}

/-- A header that is not there is listed at the end once it is set. -/
lemma toList_set_of_contains_eq_false (hnone : h.contains name = false) (value : String) :
    (h.set name value).toList = h.toList ++ [(name, [value])] := by
  rw [toList, fields_set_of_contains_eq_false hnone, List.map_append]
  rfl

end Headers

/-! ### What steps leave behind -/

namespace Draft

/-- The body that a step gives, if it gives one. -/
def Step.body? : Step → Option ByteArray
  | .body bytes => some bytes
  | _ => none

/-- A step names the header of the length itself, in whatever spelling. -/
def Step.NamesLength : Step → Prop
  | .header name _ => Headers.key name = Headers.key RequestHeader.contentLength.name
  | _ => False

/-- The body that some steps give: the last one counts. -/
def bodyOf (steps : List Step) : ByteArray := (steps.filterMap Step.body?).getLast?.getD .empty

variable (d : Draft) (s : Step)

@[simp] lemma step_method : (d.step s).request.method = d.request.method := by
  cases s <;> rfl

@[simp] lemma step_version : (d.step s).request.version = d.request.version := by
  cases s <;> rfl

lemma step_body : (d.step s).request.body = s.body?.getD d.request.body := by
  cases s <;> rfl

/-- A step that does not name the length does not touch it. -/
lemma step_hasHeader {s : Step} (hs : ¬ s.NamesLength) :
    (d.step s).request.hasHeader .contentLength = d.request.hasHeader .contentLength := by
  cases s with
  | header name value =>
    have hne : Headers.key RequestHeader.contentLength.name ≠ Headers.key name := Ne.symm hs
    simp [step, header, Request.hasHeader, Headers.contains_append, hne]
  | contentType value => simp [step, contentType]
  | ifModifiedSince date => simp [step, ifModifiedSince]
  | ifNoneMatch tags => simp [step, ifNoneMatch]
  | body bytes => rfl

variable {method : Method} {uri : String} {steps : List Step}

lemma ofSteps_concat : ofSteps method uri (steps ++ [s]) = (ofSteps method uri steps).step s := by
  simp [ofSteps]

lemma method_ofSteps : (ofSteps method uri steps).request.method = method := by
  induction steps using List.reverseRecOn with
  | nil => rfl
  | append_singleton steps s ih => rw [ofSteps_concat, step_method, ih]

lemma version_ofSteps : (ofSteps method uri steps).request.version = ⟨1, 1⟩ := by
  induction steps using List.reverseRecOn with
  | nil => rfl
  | append_singleton steps s ih => rw [ofSteps_concat, step_version, ih]

/-- The last body that is given is the body. -/
theorem body_ofSteps : (ofSteps method uri steps).request.body = bodyOf steps := by
  induction steps using List.reverseRecOn with
  | nil => rfl
  | append_singleton steps s ih =>
    rw [ofSteps_concat, step_body, ih, bodyOf, bodyOf, List.filterMap_append]
    cases hbody : s.body? <;> simp [hbody]

/-- As long as no step names the length, none is told. -/
theorem hasHeader_ofSteps (hsteps : ∀ s ∈ steps, ¬ s.NamesLength) :
    (ofSteps method uri steps).request.hasHeader .contentLength = false := by
  induction steps using List.reverseRecOn with
  | nil => rfl
  | append_singleton steps s ih =>
    rw [List.forall_mem_append] at hsteps
    obtain ⟨hsteps, hs⟩ := hsteps
    rw [ofSteps_concat, step_hasHeader _ (hs s List.mem_cons_self)]
    exact ih hsteps

/-! ### The finished request -/

@[simp] lemma finish_method : d.finish.method = d.request.method := by
  rw [finish]
  split <;> rfl

@[simp] lemma finish_version : d.finish.version = d.request.version := by
  rw [finish]
  split <;> rfl

@[simp] lemma finish_body : d.finish.body = d.request.body := by
  rw [finish]
  split <;> rfl

variable {d}

lemma finish_of_empty (hempty : d.request.body = .empty) : d.finish = d.request := by
  rw [finish, Request.hasBody_eq_false_iff.2 hempty, Bool.false_and, if_neg Bool.false_ne_true]

lemma finish_of_body (hbody : d.request.body ≠ .empty)
    (hnone : d.request.hasHeader .contentLength = false) :
    d.finish = d.request.setHeader .contentLength (Text.decimal d.request.body.size) := by
  have hhas : d.request.hasBody = true :=
    Bool.eq_true_of_not_eq_false fun h => hbody (Request.hasBody_eq_false_iff.1 h)
  rw [finish, hhas, hnone]
  rfl

/-- **A finished request tells the length of its body** if no length was described. -/
theorem tellsBody_finish (hreach : d.request.headers.IsReachable)
    (hnone : d.request.hasHeader .contentLength = false) : d.finish.TellsBody := by
  by_cases hempty : d.request.body = .empty
  · rw [finish_of_empty hempty]
    exact ⟨by simp [hnone, hempty], absurd hempty, absurd hempty⟩
  · rw [finish_of_body hempty hnone]
    refine ⟨iff_of_true (by simp) hempty, ?_, ?_⟩
    · intro _
      exact (Headers.getAll_set ..).trans (if_pos rfl)
    · intro _
      -- an entry shows the name of its field, which has the key under which the field is found
      refine ⟨d.request.headers.toList, Headers.toList_set_of_contains_eq_false hnone _, ?_⟩
      intro entry hentry
      obtain ⟨f, hf, rfl⟩ := List.mem_map.1 hentry
      rw [← hreach.isWellFormed.key_eq f hf]
      exact Headers.contains_eq_false_iff.1 hnone f hf

end Draft

/-! ### The answer -/

/-- The length that a request tells of its body is found true. -/
lemma Request.TellsBody.statesTrueLength {r : Request} (htells : r.TellsBody)
    (hsize : r.body.size < 2 ^ 64) : r.StatesTrueLength := by
  intro value hvalue
  by_cases hempty : r.body = .empty
  · have hnone : r.hasHeader .contentLength = false :=
      Bool.eq_false_iff.2 fun hlength => htells.present.1 hlength hempty
    rw [Headers.getAll_of_contains_eq_false hnone] at hvalue
    exact absurd hvalue (by simp)
  · rw [htells.values hempty] at hvalue
    obtain rfl := Option.mem_some_iff.1 hvalue
    exact Text.isCount_decimal hsize

/-- A request that tells the length of its body can be refused for the body only. -/
theorem Harness.perform_of_tellsBody (h : Harness) {bare : Request} (hversion : bare.SpeaksVersion)
    (htells : bare.TellsBody) (hsize : bare.body.size < 2 ^ 64) :
    ∃ r : Request, r.IsHosted bare h.settings.defaultHost
      ∧ if (bare.method = .get ∨ bare.method = .head) ∧ 0 < bare.body.size then
          (h.perform bare).IsPageOf h.settings bare.method .badRequest
        else if h.settings.maxBodySize < bare.body.size then
          (h.perform bare).IsPageOf h.settings bare.method .payloadTooLarge
        else h.perform bare = (h.handle r).response := by
  have hhosted := isHosted_hosted h.settings bare
  have hspeaks := hhosted.speaksVersion_iff.2 hversion
  have hlength := hhosted.statesTrueLength_iff.2 (htells.statesTrueLength hsize)
  refine ⟨hosted h.settings bare, hhosted, ?_⟩
  split
  · next hforbidden =>
    obtain ⟨hread, hbody⟩ := hforbidden
    have hnot : ¬ (hosted h.settings bare).KeepsToMethod := by
      rw [hhosted.keepsToMethod_iff]
      intro hkeeps
      have hempty : bare.body.size = 0 := ByteArray.size_eq_zero_iff.2 (hkeeps hread)
      omega
    obtain ⟨status, sent, hstatus, hpage, hsent⟩ := exists_isPageOf fun hall => hnot hall.method
    obtain rfl := Option.some.inj (hstatus.body hspeaks fun hboth => hnot hboth.2)
    rw [← hsent h.router] at hpage
    exact hpage
  next hallowed =>
  have hkeeps : (hosted h.settings bare).KeepsToMethod := by
    rw [hhosted.keepsToMethod_iff]
    intro hread
    have hempty : bare.body.size = 0 := Nat.eq_zero_of_not_pos fun hbody => hallowed ⟨hread, hbody⟩
    exact ByteArray.size_eq_zero_iff.1 hempty
  split
  · next hlarge =>
    have hnot : ¬ (hosted h.settings bare).IsAdmissible h.settings := by
      intro hall
      have hfits := hall.size
      rw [hhosted.body_eq] at hfits
      omega
    obtain ⟨status, sent, hstatus, hpage, hsent⟩ := exists_isPageOf hnot
    obtain rfl := Option.some.inj (hstatus.size hspeaks hlength hkeeps)
    rw [← hsent h.router] at hpage
    exact hpage
  · next hfits =>
    have hadmissible : (hosted h.settings bare).IsAdmissible h.settings :=
      ⟨hspeaks, hlength, hkeeps, by rw [hhosted.body_eq]; omega⟩
    exact perform_of_isAdmissible hadmissible h.router

namespace Draft

/-- **A described request is self-consistent** if its description does not name the length.  A
harness shows a page of refusal for its body or handles it, completed with the host of the settings.
The size of a body is a number of 64 bits. -/
theorem finish_consistent (method : Method) (uri : String) (steps : List Step)
    (hsteps : ∀ s ∈ steps, ¬ s.NamesLength) :
    (ofSteps method uri steps).finish.body = bodyOf steps
      ∧ (ofSteps method uri steps).finish.TellsBody
      ∧ ∀ h : Harness, (bodyOf steps).size < 2 ^ 64 → ∃ r : Request,
        r.IsHosted (ofSteps method uri steps).finish h.settings.defaultHost
          ∧ if (method = .get ∨ method = .head) ∧ 0 < (bodyOf steps).size then
              (h.perform (ofSteps method uri steps).finish).IsPageOf h.settings method .badRequest
            else if h.settings.maxBodySize < (bodyOf steps).size then
              (h.perform (ofSteps method uri steps).finish).IsPageOf h.settings method
                .payloadTooLarge
            else h.perform (ofSteps method uri steps).finish = (h.handle r).response := by
  have hbody : (ofSteps method uri steps).finish.body = bodyOf steps := by
    rw [finish_body, body_ofSteps]
  have hmethod : (ofSteps method uri steps).finish.method = method := by
    rw [finish_method, method_ofSteps]
  have hversion : (ofSteps method uri steps).finish.SpeaksVersion := by
    rw [Request.SpeaksVersion, finish_version, version_ofSteps]
    exact .inr rfl
  have htells : (ofSteps method uri steps).finish.TellsBody :=
    tellsBody_finish (isReachable_ofSteps method uri steps) (hasHeader_ofSteps hsteps)
  refine ⟨hbody, htells, ?_⟩
  intro h hsize
  have hperform := h.perform_of_tellsBody hversion htells (by rwa [hbody])
  rw [hbody, hmethod] at hperform
  exact hperform

/-- A description that takes its body back leaves no length behind, and one that replaces its body
by a larger one is refused for the size of the latter. -/
theorem finish_consistent_replaced :
    let emptied := (ofSteps .post "/" [.body "Jason".toUTF8, .ifNoneMatch "*", .body .empty]).finish
    let enlarged := (ofSteps .put "/" [.body "J".toUTF8, .contentType "text/plain",
      .body "Jason".toUTF8]).finish
    let h : Harness := ⟨.empty, { Settings.default with maxBodySize := 4 }⟩
    emptied.hasHeader .contentLength = false
      ∧ enlarged.headers.getAll RequestHeader.contentLength.name = ["5"]
      ∧ (h.perform enlarged).IsPageOf h.settings .put .payloadTooLarge := by
  intro emptied enlarged h
  obtain ⟨hempty, htells, -⟩ := finish_consistent .post "/"
    [.body "Jason".toUTF8, .ifNoneMatch "*", .body .empty] (by simp [Step.NamesLength])
  obtain ⟨hbody, htellsFive, hanswer⟩ := finish_consistent .put "/"
    [.body "J".toUTF8, .contentType "text/plain", .body "Jason".toUTF8] (by simp [Step.NamesLength])
  have hlast : enlarged.body = "Jason".toUTF8 := hbody
  have hfull : enlarged.body ≠ .empty := by
    rw [hlast]
    decide +kernel
  obtain ⟨r, -, hanswer⟩ := hanswer h (by decide +kernel)
  rw [if_neg (by simp), if_pos (by decide +kernel)] at hanswer
  refine ⟨Bool.eq_false_iff.2 fun hlength => htells.present.1 hlength hempty, ?_, hanswer⟩
  rw [htellsFive.values hfull, hlast]
  decide +kernel

end Draft
end HttpMock
