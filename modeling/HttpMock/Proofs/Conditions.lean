/-
# Conditions choose between two answers

A request can carry conditions: a list of the tags or the date of what the client holds.  Whatever
the conditions say, there are only two answers they can choose from.  One is the response finished
as if there were no conditions; the other is the same response, finished in the same way, after its
status was replaced by the news that nothing was modified.

`Request.IsSpared` says when the second one is chosen, in terms of the values that the headers
hold: a list of tags decides alone, also where it names no tag of the response, and a date decides
only where there is no list.  What a list names is said by `EntityTag.isListed`.  The main results
are

* `Response.finish_eq_finish_unconditional`: the conditions are looked at once, before anything
  else is done;
* `Response.finish_one_of_two`: which of the two answers is given, and which headers of the request
  have no say in it.
-/
import HttpMock.Proofs.Revalidation

namespace HttpMock

/-- The settings under which conditions are not looked at. -/
def Settings.unconditional (settings : Settings) : Settings :=
  { settings with conditionalRequests := false }

namespace Response

/-- The response as it is sent to a client that is taken to hold nothing. -/
def sentInFull (settings : Settings) (req : Request) (res : Response) : Response :=
  res.finish settings.unconditional req

/-- The response as it is sent to a client that is taken to hold its content. -/
def sentAsUnmodified (settings : Settings) (req : Request) (res : Response) : Response :=
  { res with status := .notModified }.finish settings.unconditional req

end Response

/-! ### What the conditions ask -/

/-- The first value of a header is the text of a date, which denotes an instant. -/
def Headers.HasFirstDate (h : Headers) (name : String) (millis : Nat) : Prop :=
  ∃ text, (h.getAll name).head? = some text ∧ HttpDate.read text = .ok millis

namespace Request

/-- The first list of tags of the request names the first tag of the response. -/
def ListsTag (req : Request) (res : Response) : Prop :=
  ∃ list tag, (req.headers.getAll RequestHeader.ifNoneMatch.name).head? = some list
    ∧ (res.headers.getAll ResponseHeader.etag.name).head? = some tag
    ∧ EntityTag.isListed list tag = true

/-- The request has no list of tags, and names a date after which the response was not modified. -/
def HasLaterDate (req : Request) (res : Response) : Prop :=
  req.headers.getAll RequestHeader.ifNoneMatch.name = [] ∧ ∃ since modified,
    req.headers.HasFirstDate RequestHeader.ifModifiedSince.name since
      ∧ res.headers.HasFirstDate ResponseHeader.lastModified.name modified ∧ modified ≤ since

/-- A response need not be sent in full in answer to a request. -/
@[mk_iff isSpared_iff_and]
structure IsSpared (settings : Settings) (req : Request) (res : Response) : Prop where
  /-- Conditions are looked at. -/
  looked : settings.conditionalRequests = true
  /-- The request only reads. -/
  reads : req.method = .get ∨ req.method = .head
  /-- The response is a plain success. -/
  served : res.status = .ok
  /-- The request says that the client holds what the response sends. -/
  held : req.ListsTag res ∨ req.HasLaterDate res

end Request

/-! ### The conditions as the program looks at them -/

lemma Method.isSafeRead_iff {m : Method} : m.isSafeRead = true ↔ m = .get ∨ m = .head := by
  cases m <;> decide

namespace Headers

lemma readDate?_eq_some_iff {h : Headers} {name : String} {millis : Nat} :
    h.readDate? name = some millis ↔ h.HasFirstDate name millis := by
  rw [readDate?_eq, get?_eq_head?_getAll, Option.bind_eq_some_iff]
  constructor
  · rintro ⟨text, htext, hread⟩
    refine ⟨text, htext, ?_⟩
    cases hresult : HttpDate.read text with
    | ok second =>
      rw [hresult] at hread
      exact congrArg Except.ok (Option.some.inj hread)
    | error e =>
      rw [hresult] at hread
      exact absurd hread (by simp [Except.toOption])
  · rintro ⟨text, htext, hread⟩
    exact ⟨text, htext, by rw [hread]; rfl⟩

lemma get?_eq_none_iff {h : Headers} {name : String} : h.get? name = none ↔ h.getAll name = [] := by
  rw [get?_eq_head?_getAll, List.head?_eq_none_iff]

end Headers

namespace Request

/-- A list of tags decides where there is one, and the dates decide elsewhere. -/
lemma conditionHolds_iff {req : Request} {res : Response} :
    req.conditionHolds res = true ↔ req.ListsTag res ∨ req.HasLaterDate res := by
  -- each side of the alternative is ruled out by whether there is a list
  cases hlist : req.header? .ifNoneMatch with
  | some list =>
    have hhead : (req.headers.getAll RequestHeader.ifNoneMatch.name).head? = some list := by
      rw [← Headers.get?_eq_head?_getAll]
      exact hlist
    have hdate : ¬ req.HasLaterDate res := by
      rintro ⟨hnone, -⟩
      rw [hnone] at hhead
      simp at hhead
    simp only [conditionHolds, hlist, hdate, or_false, ListsTag, hhead, Option.some.injEq,
      Response.header?, Headers.get?_eq_head?_getAll]
    cases (res.headers.getAll ResponseHeader.etag.name).head? <;> simp
  | none =>
    have hnone : req.headers.getAll RequestHeader.ifNoneMatch.name = [] :=
      Headers.get?_eq_none_iff.1 hlist
    have htag : ¬ req.ListsTag res := by
      rintro ⟨list, tag, hhead, -⟩
      rw [hnone] at hhead
      simp at hhead
    simp only [conditionHolds, hlist, htag, false_or, HasLaterDate, hnone, true_and,
      ← Headers.readDate?_eq_some_iff]
    cases req.headers.readDate? RequestHeader.ifModifiedSince.name <;>
      cases res.headers.readDate? ResponseHeader.lastModified.name <;> simp

lemma isSpared_iff {settings : Settings} {req : Request} {res : Response} :
    req.IsSpared settings res
      ↔ (settings.conditionalRequests && req.holdsFresh res) = true := by
  simp only [isSpared_iff_and, Bool.and_eq_true, holdsFresh, beq_iff_eq, Method.isSafeRead_iff,
    conditionHolds_iff, and_assoc]

end Request

/-! ### The two answers -/

namespace Response

variable (settings : Settings) (req : Request) (res : Response)

@[simp] lemma conditional_unconditional : res.conditional settings.unconditional req = res := rfl

@[simp] lemma introduced_unconditional :
    res.introduced settings.unconditional = res.introduced settings := rfl

/-- The conditions are looked at once, and all that is done afterwards is done without them. -/
theorem finish_eq_finish_unconditional :
    res.finish settings req = (res.conditional settings req).finish settings.unconditional req := by
  simp [finish]

lemma finish_of_isSpared (hspared : req.IsSpared settings res) :
    res.finish settings req = res.sentAsUnmodified settings req := by
  have hcond : res.conditional settings req = { res with status := .notModified } :=
    if_pos (Request.isSpared_iff.1 hspared)
  rw [finish_eq_finish_unconditional, hcond, sentAsUnmodified]

lemma finish_of_not_isSpared (hspared : ¬ req.IsSpared settings res) :
    res.finish settings req = res.sentInFull settings req := by
  have hcond : res.conditional settings req = res :=
    if_neg fun h => hspared (Request.isSpared_iff.2 h)
  rw [finish_eq_finish_unconditional, hcond, sentInFull]

/-- Beyond its conditions, finishing looks at nothing of a request but the method. -/
lemma finish_congr {settings : Settings} {req other : Request} {res : Response}
    (hmethod : other.method = req.method)
    (hspared : other.IsSpared settings res ↔ req.IsSpared settings res) :
    res.finish settings other = res.finish settings req := by
  have hcond : res.conditional settings other = res.conditional settings req := by
    rw [Request.isSpared_iff, Request.isSpared_iff, ← Bool.eq_iff_iff] at hspared
    rw [conditional, conditional, hspared]
  rw [finish, finish, hcond, hmethod]

/-- **The conditions of a request choose between two answers.**  Of two requests of one method, the
dates make no difference where both have the same list of tags, and no condition makes a difference
where conditions are not looked at, or for a request that does more than read, or for a response
that is no plain success. -/
theorem finish_one_of_two :
    (req.IsSpared settings res → res.finish settings req = res.sentAsUnmodified settings req)
      ∧ (¬ req.IsSpared settings res → res.finish settings req = res.sentInFull settings req)
      ∧ ∀ other : Request, other.method = req.method →
        (req.headers.getAll RequestHeader.ifNoneMatch.name ≠ [] →
          other.headers.getAll RequestHeader.ifNoneMatch.name
            = req.headers.getAll RequestHeader.ifNoneMatch.name →
          res.finish settings other = res.finish settings req)
        ∧ (settings.conditionalRequests = false ∨ (req.method ≠ .get ∧ req.method ≠ .head)
            ∨ res.status ≠ .ok →
          res.finish settings other = res.finish settings req) := by
  refine ⟨finish_of_isSpared settings req res, finish_of_not_isSpared settings req res, ?_⟩
  intro other hmethod
  constructor
  · intro hlist hsame
    -- with a list of tags there, neither request is spared for its date
    have htag : other.ListsTag res ↔ req.ListsTag res := by
      rw [Request.ListsTag, Request.ListsTag, hsame]
    have hdate : ¬ req.HasLaterDate res := fun h => hlist h.1
    have hother : ¬ other.HasLaterDate res := fun h => hlist (hsame ▸ h.1)
    apply finish_congr hmethod
    simp only [Request.isSpared_iff_and, hmethod, htag, hdate, hother]
  · intro hunlooked
    have hnot (r : Request) (hr : r.method = req.method) : ¬ r.IsSpared settings res := by
      rintro ⟨hlooked, hreads, hserved, -⟩
      rw [hr] at hreads
      rcases hunlooked with hoff | ⟨hget, hhead⟩ | hstatus
      · simp [hoff] at hlooked
      · exact hreads.elim hget hhead
      · exact hstatus hserved
    exact finish_congr hmethod (iff_of_false (hnot other hmethod) (hnot req rfl))

/-- A client that lists an old tag gets the same answer whether or not it also names the date of
the content, and gets it in full. -/
theorem finish_old_tag :
    let page := (Response.ok.withLastModified 1577836800000).withEtag "\"v1\""
    let listing := (Request.new .get "/").setHeader .ifNoneMatch "\"v0\""
    page.finish .default (listing.setHeader .ifModifiedSince "Wed, 01 Jan 2020 00:00:00 GMT")
        = page.finish .default listing
      ∧ page.finish .default listing = page.sentInFull .default listing := by
  intro page listing
  obtain ⟨-, hfull, hother⟩ := finish_one_of_two .default listing page
  refine ⟨(hother (listing.setHeader .ifModifiedSince _) rfl).1 (by decide +kernel)
    (by decide +kernel), hfull ?_⟩
  rw [Request.isSpared_iff]
  decide +kernel

end Response
end HttpMock
