/-
# What expectations can observe

An expectation about a header asks for the first value of the header, for all its values, or for
whether it is there.  On maps that edits made all three are told by the list of values; so two
responses that have the same values under every name are one to all expectations, and any other two
are told apart already by an expectation that spells the values out.  In particular nothing can be
learned of the order in which headers were first stored, nor of the spelling under which a header is
kept.

* `Headers.agrees_iff_perm`: two maps agree if they hold the same headers in some order;
* `Headers.getAll_ofEdits_congr`: the spellings of the names in a history do not show in the values;
* `HeaderExpectation.check_congr`: a check looks at nothing but the values of its header;
* `StatusExpectation.forall_check_eq_iff`: expectations about the status observe the status;
* `HeaderExpectation.check_observes`: what can be observed of a response.
-/
import HttpMock.Expect.Expectation
import HttpMock.Proofs.HeaderInvariant

namespace HttpMock
namespace Headers

variable {h k : Headers}

/-! ### Lookups and values -/

/-- All ways to look up a header are told by the list of its values. -/
lemma lookups_congr (hh : h.IsWellFormed) (hk : k.IsWellFormed) (name : String)
    (hvalues : h.getAll name = k.getAll name) :
    h.get? name = k.get? name ∧ h.contains name = k.contains name := by
  have hpresent : h.contains name = true ↔ k.contains name = true := by
    have hh : h.contains name = true ↔ h.getAll name ≠ [] := (hh.answersAlike.present name).out 0 2
    have hk : k.contains name = true ↔ k.getAll name ≠ [] := (hk.answersAlike.present name).out 0 2
    rw [hh, hk, hvalues]
  refine ⟨?_, Bool.eq_iff_iff.2 hpresent⟩
  rw [get?_eq_head?_getAll, get?_eq_head?_getAll, hvalues]

/-! ### The order of the headers -/

namespace IsWellFormed

lemma nodup_keys (hh : h.IsWellFormed) : (h.fields.map Field.key).Nodup := by
  rw [List.map_congr_left hh.key_eq]
  exact hh.nodup

/-- A header is found under its own key, and no other. -/
lemma find?_key_eq_some_iff (hh : h.IsWellFormed) {f : Field} {key : String} :
    h.fields.find? (fun g => g.key == key) = some f ↔ f ∈ h.fields ∧ f.key = key := by
  constructor
  · intro hfind
    exact ⟨List.mem_of_find?_eq_some hfind, by simpa using List.find?_some hfind⟩
  · rintro ⟨hf, rfl⟩
    have hsome : (h.fields.find? fun g => g.key == f.key).isSome = true := by
      rw [List.find?_isSome]
      exact ⟨f, hf, beq_self_eq_true _⟩
    obtain ⟨g, hfind⟩ := Option.isSome_iff_exists.1 hsome
    have hkey : g.key = f.key := by simpa using List.find?_some hfind
    rw [hfind, List.inj_on_of_nodup_map hh.nodup_keys (List.mem_of_find?_eq_some hfind) hf hkey]

end IsWellFormed

/-- Two maps agree if they hold the same headers in some order. -/
theorem agrees_iff_perm (hh : h.IsWellFormed) (hk : k.IsWellFormed) :
    h.agrees k = true ↔ h.fields.Perm k.fields := by
  simp only [agrees, size, Bool.and_eq_true, beq_iff_eq, List.all_eq_true,
    hk.find?_key_eq_some_iff, and_true]
  constructor
  · -- there is no room for a header of `k` that is not in `h`
    rintro ⟨hsize, hsubset⟩
    have hsub : h.fields.Subperm k.fields :=
      List.subperm_of_subset (List.Nodup.of_map _ hh.nodup_keys) hsubset
    exact hsub.perm_of_length_le hsize.ge
  · intro hperm
    exact ⟨hperm.length_eq, fun f hf => hperm.subset hf⟩

lemma getAll_eq_of_perm (hh : h.IsWellFormed) (hk : k.IsWellFormed)
    (hperm : h.fields.Perm k.fields) (name : String) : h.getAll name = k.getAll name := by
  have hfind : h.find? name = k.find? name := by
    apply Option.ext
    intro f
    rw [find?, find?, hh.find?_key_eq_some_iff, hk.find?_key_eq_some_iff, hperm.mem_iff]
  rw [getAll, getAll, hfind]

/-! ### The spelling of the names -/

/-- Two edits differ at most in how they spell the name. -/
inductive Edit.Respells : Edit → Edit → Prop
  | set {name other : String} (hkey : key name = key other) (value : String) :
    Respells (.set name value) (.set other value)
  | append {name other : String} (hkey : key name = key other) (value : String) :
    Respells (.append name value) (.append other value)
  | remove {name other : String} (hkey : key name = key other) :
    Respells (.remove name) (.remove other)
  | setDate {name other : String} (hkey : key name = key other) (millis : ℕ) :
    Respells (.setDate name millis) (.setDate other millis)

/-- Whatever the spelling, an edit does the same to the values. -/
lemma getAll_edit_congr (hvalues : ∀ name, h.getAll name = k.getAll name) {d e : Edit}
    (hspelling : d.Respells e) (name : String) :
    (h.edit d).getAll name = (k.edit e).getAll name := by
  cases hspelling with
  | set hkey value => simp only [edit, getAll_set, hkey, hvalues]
  | append hkey value => simp only [edit, getAll_append, hkey, hvalues]
  | remove hkey => simp only [edit, getAll_erase, hkey, hvalues]
  | setDate hkey millis =>
    simp only [edit, setDate]
    cases HttpDate.write millis with
    | ok text => simp only [getAll_set, hkey, hvalues]
    | error e => exact hvalues name

/-- Histories that differ at most in the spellings of the names leave the same values. -/
theorem getAll_ofEdits_congr {edits others : List Edit}
    (hspelling : List.Forall₂ Edit.Respells edits others) (name : String) :
    (ofEdits edits).getAll name = (ofEdits others).getAll name := by
  -- over the two histories, for any two maps with the same values to start from
  have hrun (h k : Headers) (hvalues : ∀ name, h.getAll name = k.getAll name) :
      ∀ name, (edits.foldl edit h).getAll name = (others.foldl edit k).getAll name := by
    induction hspelling generalizing h k with
    | nil => exact hvalues
    | cons hfirst _ ih => exact ih _ _ (getAll_edit_congr hvalues hfirst)
  exact hrun empty empty (fun _ => rfl) name

end Headers

/-! ### What a check looks at -/

/-- Two bodies are compared byte by byte. -/
lemma Response.beq_body_iff {body other : ByteArray} : (body == other) = true ↔ body = other := by
  change (body.data == other.data) = true ↔ body = other
  rw [beq_iff_eq, ByteArray.ext_iff]

namespace StatusExpectation

variable {r s : Response}

lemma check_eq_ok_iff {e : StatusExpectation} : e.check r = .ok () ↔ r.status.code = e.code := by
  simp [check]

/-- Expectations about the status observe the status, and nothing else. -/
theorem forall_check_eq_iff :
    (∀ e : StatusExpectation, e.check r = e.check s) ↔ r.status = s.status := by
  constructor
  · -- the status of one response is expected of the other
    intro hsame
    have hown : (ofStatus r.status).check r = .ok () := check_eq_ok_iff.2 rfl
    rw [hsame, check_eq_ok_iff] at hown
    exact (Status.code_injective hown).symm
  · intro hstatus e
    rw [check, check, hstatus]

end StatusExpectation

namespace HeaderExpectation

variable {r s : Response}

lemma required_congr (hr : r.headers.IsWellFormed) (hs : s.headers.IsWellFormed) (name : String)
    (hvalues : r.headers.getAll name = s.headers.getAll name) :
    required r name = required s name := by
  rw [required, required, (Headers.lookups_congr hr hs name hvalues).1]

/-- A check looks at nothing but the values of its header. -/
theorem check_congr (hr : r.headers.IsWellFormed) (hs : s.headers.IsWellFormed)
    (e : HeaderExpectation) (hvalues : r.headers.getAll e.name = s.headers.getAll e.name) :
    e.check r = e.check s := by
  cases e with
  | value name expected =>
    simp only [check, (Headers.lookups_congr hr hs name hvalues).1]
  | values name expected =>
    simp only [check, HeaderExpectation.name] at hvalues ⊢
    rw [hvalues]
  | date name millis => rw [check, check, required_congr hr hs name hvalues]
  | integer name expected => rw [check, check, required_congr hr hs name hvalues]
  | isPresent name => rw [check, check, required_congr hr hs name hvalues]
  | isAbsent name =>
    simp only [check, (Headers.lookups_congr hr hs name hvalues).2]

/-- A list of values that is spelled out is expected of the header that has these values. -/
lemma check_values_eq_ok_iff {name : String} {list : List String} :
    (values name (.values list)).check r = .ok () ↔ list = r.headers.getAll name := by
  simp [check, ExpectedValues.accepts]

/-- **Expectations about headers observe the values under every name**, and nothing else: two
responses are told apart if and only if some header has other values, and then they are told apart
by values that are spelled out.  Responses that agree are one to all expectations, since they differ
in the order of the headers only; and so are responses whose headers were stored alike up to the
spelling of the names. -/
theorem check_observes (r s : Response) (hr : r.headers.IsReachable) (hs : s.headers.IsReachable) :
    [∀ e : HeaderExpectation, e.check r = e.check s,
        ∀ name list, (values name (.values list)).check r = (values name (.values list)).check s,
        ∀ name, r.headers.getAll name = s.headers.getAll name].TFAE
      ∧ (r.agrees s = true
        ↔ r.status = s.status ∧ r.headers.fields.Perm s.headers.fields ∧ r.body = s.body)
      ∧ (r.agrees s = true → (∀ e : HeaderExpectation, e.check r = e.check s)
        ∧ ∀ e : StatusExpectation, e.check r = e.check s)
      ∧ ∀ edits others, r.headers = .ofEdits edits → s.headers = .ofEdits others →
        List.Forall₂ Headers.Edit.Respells edits others →
        ∀ e : HeaderExpectation, e.check r = e.check s := by
  have hcongr (hvalues : ∀ name, r.headers.getAll name = s.headers.getAll name)
      (e : HeaderExpectation) : e.check r = e.check s :=
    check_congr hr.isWellFormed hs.isWellFormed e (hvalues e.name)
  have hagrees : r.agrees s = true
      ↔ r.status = s.status ∧ r.headers.fields.Perm s.headers.fields ∧ r.body = s.body := by
    rw [Response.agrees, Bool.and_eq_true, Bool.and_eq_true, beq_iff_eq, Response.beq_body_iff,
      Headers.agrees_iff_perm hr.isWellFormed hs.isWellFormed, and_assoc]
  refine ⟨?_, hagrees, ?_, ?_⟩
  · tfae_have 1 → 2 := fun hsame name list => hsame _
    tfae_have 2 → 3 := by
      intro hsame name
      rw [← check_values_eq_ok_iff, ← hsame, check_values_eq_ok_iff]
    tfae_have 3 → 1 := hcongr
    tfae_finish
  · intro hsame
    obtain ⟨hstatus, hperm, -⟩ := hagrees.1 hsame
    exact ⟨hcongr (Headers.getAll_eq_of_perm hr.isWellFormed hs.isWellFormed hperm),
      StatusExpectation.forall_check_eq_iff.2 hstatus⟩
  · intro edits others hedits hothers hspelling
    apply hcongr
    rw [hedits, hothers]
    exact Headers.getAll_ofEdits_congr hspelling

/-- Neither the order of two headers nor their spelling can be observed, though a response with
other spellings does not agree; a value that is cut in two can. -/
theorem check_observes_reordered :
    let r := (Response.ok.withHeader "Vary" "a, b").withHeader "Age" "7"
    let reordered := (Response.ok.withHeader "Age" "7").withHeader "Vary" "a, b"
    let respelled := (Response.ok.withHeader "vary" "a, b").withHeader "AGE" "7"
    let cut := (Response.ok.withHeaderValues "Vary" ["a", "b"]).withHeader "Age" "7"
    (∀ e : HeaderExpectation, e.check r = e.check reordered)
      ∧ ¬ r.agrees respelled = true ∧ (∀ e : HeaderExpectation, e.check r = e.check respelled)
      ∧ ¬ ∀ e : HeaderExpectation, e.check r = e.check cut := by
  intro r reordered respelled cut
  have hempty := Headers.IsReachable.empty
  have hr : r.headers.IsReachable := (hempty.append "Vary" "a, b").append "Age" "7"
  have hreordered : reordered.headers.IsReachable := (hempty.append "Age" "7").append "Vary" "a, b"
  have hrespelled : respelled.headers.IsReachable := (hempty.append "vary" "a, b").append "AGE" "7"
  have hcut : cut.headers.IsReachable := (hempty.appendAll "Vary" ["a", "b"]).append "Age" "7"
  have hfields : r.headers.fields = [⟨"vary", "Vary", ["a, b"]⟩, ⟨"age", "Age", ["7"]⟩] := by
    decide +kernel
  refine ⟨?_, ?_, ?_, ?_⟩
  · obtain ⟨-, hagrees, hone, -⟩ := check_observes r reordered hr hreordered
    have hfields' : reordered.headers.fields
        = [⟨"age", "Age", ["7"]⟩, ⟨"vary", "Vary", ["a, b"]⟩] := by
      decide +kernel
    have hperm : r.headers.fields.Perm reordered.headers.fields := by
      rw [hfields, hfields']
      exact List.Perm.swap _ _ _
    -- each through its value, so that the two maps are not compared by evaluation
    have hstatus : r.status = .ok ∧ reordered.status = .ok := ⟨rfl, rfl⟩
    have hbody : r.body = .empty ∧ reordered.body = .empty := ⟨rfl, rfl⟩
    have hsame := hagrees.2
      ⟨hstatus.1.trans hstatus.2.symm, hperm, hbody.1.trans hbody.2.symm⟩
    exact (hone hsame).1
  · intro hsame
    obtain ⟨-, hperm, -⟩ := (check_observes r respelled hr hrespelled).2.1.1 hsame
    have hnames : respelled.headers.fields.map Field.name = ["vary", "AGE"] := by decide +kernel
    have hvary : "Vary" ∈ respelled.headers.fields.map Field.name :=
      (hperm.map Field.name).subset (by rw [hfields]; exact List.mem_cons_self)
    rw [hnames] at hvary
    exact absurd hvary (by decide)
  · -- through the folded names, so that two spellings are not compared by evaluation
    have hvary : Headers.key "Vary" = Headers.key "vary" := by
      have hmixed : Headers.key "Vary" = "vary" := by decide +kernel
      have hlower : Headers.key "vary" = "vary" := by decide +kernel
      rw [hmixed, hlower]
    have hage : Headers.key "Age" = Headers.key "AGE" := by
      have hmixed : Headers.key "Age" = "age" := by decide +kernel
      have hupper : Headers.key "AGE" = "age" := by decide +kernel
      rw [hmixed, hupper]
    exact (check_observes r respelled hr hrespelled).2.2.2
      [.append "Vary" "a, b", .append "Age" "7"] [.append "vary" "a, b", .append "AGE" "7"] rfl rfl
      (.cons (.append hvary _) (.cons (.append hage _) .nil))
  · intro hsame
    have hvalues : ∀ name, r.headers.getAll name = cut.headers.getAll name :=
      ((check_observes r cut hr hcut).1.out 0 2).1 hsame
    exact absurd (hvalues "Vary") (by decide +kernel)

end HeaderExpectation
end HttpMock
