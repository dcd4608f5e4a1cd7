/-
# What holds of every header map

A header map is a list of headers, and a list can hold one header twice, or a header without values,
or a header under the wrong key.  No such list ever comes about.  Every map is made by edits, and
each edit keeps what `Headers.IsWellFormed` says; so do the descriptions of requests and responses,
and so does a harness, whose handlers can do nothing to a map but edit it.

The main results are

* `Headers.updateFields_cases`: setting or appending rewrites one header where it stands, or adds
  one at the end;
* `Headers.IsReachable.isWellFormed`: every map that edits make is well formed;
* `Headers.isWellFormed_of_made`: what this means for the questions that can be asked of a map, and
  where such maps are met.
-/
import Mathlib.Data.Finset.Card
import Mathlib.Tactic.TFAE
import HttpMock.Headers.Edit
import HttpMock.Proofs.HeadRequest
import HttpMock.Request.Draft

namespace HttpMock

/-! ### Well-formed maps -/

namespace Headers

/-- A history of edits makes the map. -/
def IsReachable (h : Headers) : Prop := ∃ edits, h = ofEdits edits

/-- What every map has that can be made. -/
structure IsWellFormed (h : Headers) : Prop where
  /-- A header is looked up under the lower-case form of the name that was kept. -/
  key_eq : ∀ f ∈ h.fields, f.key = key f.name
  /-- No two headers have names that differ in case only. -/
  nodup : (h.fields.map fun f => key f.name).Nodup
  /-- Every header has a value. -/
  values_ne_nil : ∀ f ∈ h.fields, f.values ≠ []

/-- All ways to ask whether a header is there agree, and the size counts the names. -/
structure AnswersAlike (h : Headers) : Prop where
  /-- A header is there if it is found, if it has a first value, if it has values at all, and if
  there is something to remove. -/
  present : ∀ name, [h.contains name = true, (h.get? name).isSome = true, h.getAll name ≠ [],
    (h.remove name).1.isSome = true].TFAE
  /-- The first value is the first of all values. -/
  first : ∀ name, h.get? name = (h.getAll name).head?
  /-- The size is the count of different names, up to case, in the list of headers. -/
  size_eq : h.size = (h.toList.map fun entry => key entry.1).toFinset.card

/-- Rewriting the values of a header leaves every header where it stands, or adds one at the end if
the header was not there. -/
theorem updateFields_cases (name : String) (rewrite : List String → List String)
    (fields : List Field) :
    (∃ before f after, fields = before ++ f :: after ∧ f.key = key name
        ∧ updateFields name rewrite fields
          = before ++ { f with values := rewrite f.values } :: after)
      ∨ ((∀ f ∈ fields, f.key ≠ key name)
        ∧ updateFields name rewrite fields = fields ++ [⟨key name, name, rewrite []⟩]) := by
  induction fields with
  | nil => exact .inr ⟨List.forall_mem_nil _, rfl⟩
  | cons g fields ih =>
    by_cases hg : g.key = key name
    · exact .inl ⟨[], g, fields, rfl, hg, if_pos hg⟩
    · have hstep : updateFields name rewrite (g :: fields)
          = g :: updateFields name rewrite fields := if_neg hg
      rcases ih with ⟨before, f, after, rfl, hf, hupdate⟩ | ⟨hnone, hupdate⟩
      · exact .inl ⟨g :: before, f, after, rfl, hf, by rw [hstep, hupdate]; rfl⟩
      · refine .inr ⟨?_, by rw [hstep, hupdate]; rfl⟩
        intro f hf
        rcases List.mem_cons.1 hf with rfl | hf
        · exact hg
        · exact hnone f hf

/-- What holds of the headers of a map, also when their values are rewritten, and of the header that
may be added, holds of all headers in the end. -/
lemma forall_mem_updateFields {P : Field → Prop} {name : String}
    {rewrite : List String → List String} {fields : List Field} (hfields : ∀ f ∈ fields, P f)
    (hrewrite : ∀ f, P f → P { f with values := rewrite f.values })
    (hnew : P ⟨key name, name, rewrite []⟩) : ∀ f ∈ updateFields name rewrite fields, P f := by
  intro f hf
  rcases updateFields_cases name rewrite fields with
    ⟨before, g, after, rfl, -, hupdate⟩ | ⟨-, hupdate⟩
  · rw [hupdate] at hf
    rcases List.mem_append.1 hf with hf | hf
    · exact hfields f (List.mem_append_left _ hf)
    · rcases List.mem_cons.1 hf with rfl | hf
      · exact hrewrite g (hfields g (List.mem_append_right before List.mem_cons_self))
      · exact hfields f (List.mem_append_right before (List.mem_cons_of_mem g hf))
  · rw [hupdate] at hf
    rcases List.mem_append.1 hf with hf | hf
    · exact hfields f hf
    · obtain rfl := List.mem_singleton.1 hf
      exact hnew

/-- Whatever is asked of the keys, rewriting a header of which it does not hold keeps the headers of
which it holds, as they are and in order. -/
lemma filter_updateFields_key {name : String} (p : String → Bool) (hp : p (key name) = false)
    (rewrite : List String → List String) (fields : List Field) :
    ((updateFields name rewrite fields).filter fun f => p f.key)
      = fields.filter fun f => p f.key := by
  rcases updateFields_cases name rewrite fields with
    ⟨before, f, after, rfl, hf, hupdate⟩ | ⟨-, hupdate⟩
  · rw [hupdate]
    simp [hf, hp]
  · rw [hupdate]
    simp [hp]

lemma filter_erase_key {name : String} (p : String → Bool) (hp : p (key name) = false)
    (h : Headers) :
    ((h.erase name).fields.filter fun f => p f.key) = h.fields.filter fun f => p f.key := by
  rw [erase, List.filter_filter]
  refine List.filter_congr fun f _ => ?_
  by_cases hf : f.key = key name
  · simp [hf, hp]
  · simp [hf]

namespace IsWellFormed

lemma empty : empty.IsWellFormed := ⟨List.forall_mem_nil _, List.nodup_nil, List.forall_mem_nil _⟩

/-- A header that is rewritten keeps its name, and one that is added has a new name. -/
lemma update {h : Headers} (hwf : h.IsWellFormed) (name : String)
    {rewrite : List String → List String} (hrewrite : ∀ values, rewrite values ≠ []) :
    (Headers.mk (updateFields name rewrite h.fields)).IsWellFormed where
  key_eq := forall_mem_updateFields hwf.key_eq (fun _ hf => hf) rfl
  nodup := by
    have hnodup := hwf.nodup
    rcases updateFields_cases name rewrite h.fields with
      ⟨before, f, after, hfields, -, hupdate⟩ | ⟨hnone, hupdate⟩
    · rw [hfields] at hnodup
      rw [hupdate]
      simpa using hnodup
    · -- the update compares keys, and they are those of the names by `key_eq`
      have hnew : key name ∉ h.fields.map fun f => key f.name := by
        intro hmem
        obtain ⟨f, hf, hname⟩ := List.mem_map.1 hmem
        exact hnone f hf ((hwf.key_eq f hf).trans hname)
      have hconcat := hnodup.concat hnew
      rw [List.concat_eq_append] at hconcat
      rw [hupdate, List.map_append]
      exact hconcat
  values_ne_nil := forall_mem_updateFields hwf.values_ne_nil (fun f _ => hrewrite f.values)
    (hrewrite [])

lemma set {h : Headers} (hwf : h.IsWellFormed) (name value : String) :
    (h.set name value).IsWellFormed :=
  hwf.update name fun _ => List.cons_ne_nil value []

lemma append {h : Headers} (hwf : h.IsWellFormed) (name value : String) :
    (h.append name value).IsWellFormed :=
  hwf.update name fun values => List.append_ne_nil_of_right_ne_nil values (List.cons_ne_nil value [])

lemma erase {h : Headers} (hwf : h.IsWellFormed) (name : String) : (h.erase name).IsWellFormed where
  key_eq f hf := hwf.key_eq f (List.mem_of_mem_filter hf)
  nodup := hwf.nodup.sublist (List.filter_sublist.map _)
  values_ne_nil f hf := hwf.values_ne_nil f (List.mem_of_mem_filter hf)

lemma edit {h : Headers} (hwf : h.IsWellFormed) (e : Edit) : (h.edit e).IsWellFormed := by
  cases e with
  | set name value => exact hwf.set name value
  | append name value => exact hwf.append name value
  | remove name => exact hwf.erase name
  | setDate name millis =>
    rw [Headers.edit, setDate]
    cases HttpDate.write millis with
    | ok text => exact hwf.set name text
    | error e => exact hwf

variable {h : Headers} (hwf : h.IsWellFormed)

include hwf

lemma values_ne_nil_of_find? {name : String} {f : Field} (hf : h.find? name = some f) :
    f.values ≠ [] :=
  hwf.values_ne_nil f (List.mem_of_find?_eq_some hf)

/-- A header that is found has values, and so every way to ask for it finds it. -/
lemma answersAlike : h.AnswersAlike where
  present name := by
    simp only [contains, get?, getAll, remove]
    cases hf : h.find? name with
    | none => simp
    | some f =>
      obtain ⟨value, values, hvalues⟩ :=
        List.exists_cons_of_ne_nil (hwf.values_ne_nil_of_find? hf)
      simp [hvalues]
  first name := h.get?_eq_head?_getAll name
  size_eq := by
    have hnames : (h.toList.map fun entry => key entry.1) = h.fields.map fun f => key f.name := by
      simp [toList, Function.comp_def]
    rw [hnames, List.toFinset_card_of_nodup hwf.nodup, List.length_map, size]

end IsWellFormed

/-! ### Maps that edits make -/

namespace IsReachable

/-- Every map that edits make is well formed. -/
theorem isWellFormed {h : Headers} (hreach : h.IsReachable) : h.IsWellFormed := by
  obtain ⟨edits, rfl⟩ := hreach
  induction edits using List.reverseRecOn with
  | nil => exact IsWellFormed.empty
  | append_singleton edits e ih =>
    rw [ofEdits_append]
    exact ih.edit e

lemma empty : empty.IsReachable := ⟨[], rfl⟩

lemma edit {h : Headers} (hreach : h.IsReachable) (e : Edit) : (h.edit e).IsReachable := by
  obtain ⟨edits, rfl⟩ := hreach
  exact ⟨edits ++ [e], by simp⟩

lemma set {h : Headers} (hreach : h.IsReachable) (name value : String) :
    (h.set name value).IsReachable :=
  hreach.edit (.set name value)

lemma append {h : Headers} (hreach : h.IsReachable) (name value : String) :
    (h.append name value).IsReachable :=
  hreach.edit (.append name value)

lemma erase {h : Headers} (hreach : h.IsReachable) (name : String) : (h.erase name).IsReachable :=
  hreach.edit (.remove name)

lemma appendAll {h : Headers} (hreach : h.IsReachable) (name : String) (values : List String) :
    (h.appendAll name values).IsReachable := by
  rw [Headers.appendAll]
  induction values generalizing h with
  | nil => exact hreach
  | cons value values ih => exact ih (hreach.append name value)

end IsReachable
end Headers

/-! ### Requests -/

namespace Draft

lemma isReachable_step {d : Draft} (hreach : d.request.headers.IsReachable) (s : Step) :
    (d.step s).request.headers.IsReachable := by
  cases s with
  | header name value => exact hreach.append name value
  | contentType value => exact hreach.set _ value
  | ifModifiedSince date => exact hreach.set _ date
  | ifNoneMatch tags => exact hreach.set _ tags
  | body bytes => exact hreach

lemma isReachable_finish {d : Draft} (hreach : d.request.headers.IsReachable) :
    d.finish.headers.IsReachable := by
  rw [finish]
  split
  · exact hreach.set _ _
  · exact hreach

lemma isReachable_ofSteps (method : Method) (uri : String) (steps : List Step) :
    (ofSteps method uri steps).request.headers.IsReachable := by
  rw [ofSteps]
  induction steps using List.reverseRecOn with
  | nil => exact Headers.IsReachable.empty
  | append_singleton steps s ih =>
    rw [List.foldl_append]
    exact isReachable_step ih s

end Draft

/-! ### Responses -/

namespace Response

lemma isReachable_step {r : Response} (hreach : r.headers.IsReachable) (s : Step) :
    (r.step s).headers.IsReachable := by
  cases s with
  | setHeader header value => exact hreach.set _ value
  | withHeader name value => exact hreach.append name value
  | withHeaderValues name values => exact hreach.appendAll name values
  | withLastModified millis =>
    exact hreach.edit (.setDate ResponseHeader.lastModified.name millis)
  | withEtag tag => exact hreach.set _ tag
  | withBody contentType bytes => exact hreach.set _ contentType

lemma isReachable_ofSteps (status : Status) (steps : List Step) :
    (ofSteps status steps).headers.IsReachable := by
  rw [ofSteps]
  induction steps using List.reverseRecOn with
  | nil => exact Headers.IsReachable.empty
  | append_singleton steps s ih =>
    rw [List.foldl_append]
    exact isReachable_step ih s

lemma isReachable_page (status : Status) : (page status).headers.IsReachable :=
  Headers.IsReachable.empty.set _ _

lemma isReachable_ofError (status : Status) : (ofError status).headers.IsReachable := by
  rw [ofError]
  split
  · exact isReachable_page status
  · exact Headers.IsReachable.empty

lemma isReachable_framed {r : Response} (hreach : r.headers.IsReachable) :
    r.framed.headers.IsReachable := by
  rw [framed]
  split
  · rw [withLength]
    split
    · exact hreach
    · exact hreach.set _ _
  · exact (hreach.erase _).erase _

lemma isReachable_finish {r : Response} (hreach : r.headers.IsReachable) (settings : Settings)
    (req : Request) : (r.finish settings req).headers.IsReachable := by
  have hframed : (r.conditional settings req).framed.headers.IsReachable :=
    isReachable_framed (by rwa [conditional_headers])
  rw [finish_headers]
  split
  · exact hframed.set _ _
  · exact hframed

end Response

/-! ### Answers -/

/-- A handler that can do nothing to a header map but edit it. -/
def Handler.KeepsReachable (handler : Handler) : Prop :=
  ∀ req : Request, req.headers.IsReachable → (handler req).headers.IsReachable

namespace Router

lemma isReachable_dispatch {r : Router} {req : Request} (hreq : req.headers.IsReachable)
    (hhandlers : ∀ route ∈ r.routes, route.handler.KeepsReachable) :
    (r.dispatch req).response.headers.IsReachable := by
  rw [dispatch]
  split
  · next route params hroute => exact hhandlers route (mem_of_findRoute? hroute) _ hreq
  · split
    · exact Response.isReachable_page .notFound
    · exact (Response.isReachable_page .methodNotAllowed).append _ _

end Router

namespace Harness

/-- A harness does nothing to a header map but edit it. -/
lemma isReachable_perform {h : Harness} {req : Request} (hreq : req.headers.IsReachable)
    (hhandlers : ∀ route ∈ h.router.routes, route.handler.KeepsReachable) :
    (h.perform req).headers.IsReachable := by
  have hhosted : (hosted h.settings req).headers.IsReachable := by
    rw [hosted]
    split
    · exact hreq
    · exact hreq.set _ _
  rw [perform_eq_finish]
  apply Response.isReachable_finish
  rw [unfinished]
  cases (hosted h.settings req).check h.settings with
  | ok => exact Router.isReachable_dispatch hhosted hhandlers
  | error fault => exact Response.isReachable_ofError fault.status

end Harness

/-- **Every header map is well formed**, and answers all questions about a header alike: a map that
edits make, and so the map of a described request, of a response that is made by steps, and of every
answer of a harness whose handlers do nothing to a map but edit it. -/
theorem Headers.isWellFormed_of_made :
    (∀ h : Headers, h.IsReachable → h.IsWellFormed ∧ h.AnswersAlike)
      ∧ (∀ method uri steps, (Draft.ofSteps method uri steps).finish.headers.IsReachable)
      ∧ (∀ status steps, (Response.ofSteps status steps).headers.IsReachable)
      ∧ ∀ (harness : Harness) (req : Request), req.headers.IsReachable →
        (∀ route ∈ harness.router.routes, route.handler.KeepsReachable) →
        (harness.perform req).headers.IsReachable := by
  refine ⟨?_, ?_, Response.isReachable_ofSteps, ?_⟩
  · intro h hreach
    exact ⟨hreach.isWellFormed, hreach.isWellFormed.answersAlike⟩
  · intro method uri steps
    exact Draft.isReachable_finish (Draft.isReachable_ofSteps method uri steps)
  · intro harness req hreq hhandlers
    exact Harness.isReachable_perform hreq hhandlers

/-- The harness of a page that repeats what the request accepts. -/
def Harness.accepting : Harness :=
  ofRouter (Router.empty.get "/" fun req =>
    Response.ok.withHeaderValues "X-Accepted" (req.headers.getAll "ACCEPT"))

/-- A request that names a header twice, in two spellings, is answered with a well-formed map. -/
theorem Headers.isWellFormed_of_made_accepting :
    let req := (Draft.ofSteps .get "/"
      [.header "accept" "text/plain", .header "Accept" "text/html"]).finish
    (Harness.accepting.perform req).headers.IsWellFormed
      ∧ (Harness.accepting.perform req).headers.AnswersAlike := by
  intro req
  obtain ⟨hmaps, hdrafts, -, hanswers⟩ := isWellFormed_of_made
  have hreq : req.headers.IsReachable := hdrafts .get "/" _
  have hhandlers : ∀ route ∈ Harness.accepting.router.routes, route.handler.KeepsReachable := by
    intro route hroute
    obtain rfl := List.mem_singleton.1 hroute
    intro other _
    exact IsReachable.empty.appendAll "X-Accepted" (other.headers.getAll "ACCEPT")
  exact hmaps _ (hanswers Harness.accepting req hreq hhandlers)

end HttpMock
