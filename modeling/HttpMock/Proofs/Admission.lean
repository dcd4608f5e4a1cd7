/-
# Which requests reach a handler

Before a request is routed it is given a host and checked.  A request that passes the check is
handled; any other is answered with the page of a status, and then it makes no difference which
routes there are.  This file says what the check asks of a request without going through its tests:
`Request.IsAdmissible` lists what must hold, and `Request.IsRefusedWith` says which status counts
where several things are wrong at once.  Nor does it go through the code that adds the host:
`Request.IsHosted` says which request that is.

* `Request.check_eq_ok_iff_isAdmissible` and `Request.isRefusedWith_of_check`: for a request that
  names a host, this is what the check does;
* `Harness.isHosted_hosted`: which request is checked, and routed if it passes;
* `Harness.isPageOf_refuse`: what a refused request is answered with;
* `Harness.perform_gate`: the check is a gate before all handlers.
-/
import HttpMock.Proofs.Answer
import HttpMock.Proofs.Numerals

namespace HttpMock

/-- The headers of a request that have a meaning of their own are different headers. -/
@[simp] lemma RequestHeader.key_name_inj {h k : RequestHeader} :
    Headers.key h.name = Headers.key k.name ↔ h = k := by
  constructor
  · cases h <;> cases k <;> decide +kernel
  · rintro rfl
    rfl

/-! ### What is asked of a request -/

namespace Request

@[simp] lemma hasHeader_setHeader (r : Request) (header other : RequestHeader) (value : String) :
    (r.setHeader header value).hasHeader other
      = (decide (other = header) || r.hasHeader other) := by
  rw [hasHeader, setHeader, Headers.contains_set]
  by_cases hsame : other = header <;> simp [hsame, hasHeader]

/-- The version is one of the two that are spoken here. -/
def SpeaksVersion (r : Request) : Prop := r.version = ⟨1, 0⟩ ∨ r.version = ⟨1, 1⟩

/-- The first length that is stated, if there is one, is that of the body. -/
def StatesTrueLength (r : Request) : Prop :=
  ∀ value ∈ (r.headers.getAll RequestHeader.contentLength.name).head?,
    Text.IsCount (Text.trimChars value.toList) r.body.size

/-- A request that only reads carries no body. -/
def KeepsToMethod (r : Request) : Prop := r.method = .get ∨ r.method = .head → r.body = .empty

/-- A request is another one completed with a host.  One that names its host is complete; any other
gets the host that is given, as the one value of a header that comes after all others. -/
structure IsHosted (r bare : Request) (host : String) : Prop where
  /-- Nothing but the headers can differ. -/
  frame : r = { bare with headers := r.headers }
  /-- A host that is named stays. -/
  kept : bare.hasHeader .host = true → r.headers = bare.headers
  /-- The host that is added is found under every spelling of its name, and all other headers have
  the values that they had. -/
  values : bare.hasHeader .host = false → ∀ name, r.headers.getAll name
    = if Headers.key name = Headers.key RequestHeader.host.name then [host]
      else bare.headers.getAll name
  /-- It comes last, and all other headers are listed as before. -/
  listed : bare.hasHeader .host = false →
    r.headers.fields = bare.headers.fields ++ [.new RequestHeader.host.name [host]]

/-- The server understands the request and takes its body. -/
structure IsAdmissible (settings : Settings) (r : Request) : Prop where
  version : r.SpeaksVersion
  length : r.StatesTrueLength
  method : r.KeepsToMethod
  size : r.body.size ≤ settings.maxBodySize

/-- The status with which a request is refused that is not admissible: an unknown version counts
before anything that is wrong about the body, and the size of the body counts last. -/
structure IsRefusedWith (r : Request) (status : Status) : Prop where
  version : ¬ r.SpeaksVersion → Status.ofCode? 505 = some status
  body : r.SpeaksVersion → ¬ (r.StatesTrueLength ∧ r.KeepsToMethod) →
    Status.ofCode? 400 = some status
  size : r.SpeaksVersion → r.StatesTrueLength → r.KeepsToMethod → Status.ofCode? 413 = some status

/-! ### The host that is added -/

namespace IsHosted

variable {settings : Settings} {r bare : Request} {host : String}

lemma method_eq (h : r.IsHosted bare host) : r.method = bare.method := by rw [h.frame]

lemma version_eq (h : r.IsHosted bare host) : r.version = bare.version := by rw [h.frame]

lemma body_eq (h : r.IsHosted bare host) : r.body = bare.body := by rw [h.frame]

/-- Only the values of the host can be new. -/
lemma getAll_of_ne (h : r.IsHosted bare host) {name : String}
    (hne : Headers.key name ≠ Headers.key RequestHeader.host.name) :
    r.headers.getAll name = bare.headers.getAll name := by
  cases hhost : bare.hasHeader .host with
  | false => rw [h.values hhost, if_neg hne]
  | true => rw [h.kept hhost]

lemma speaksVersion_iff (h : r.IsHosted bare host) : r.SpeaksVersion ↔ bare.SpeaksVersion := by
  rw [SpeaksVersion, SpeaksVersion, h.version_eq]

lemma statesTrueLength_iff (h : r.IsHosted bare host) :
    r.StatesTrueLength ↔ bare.StatesTrueLength := by
  rw [StatesTrueLength, StatesTrueLength, h.body_eq, h.getAll_of_ne (by simp)]

lemma keepsToMethod_iff (h : r.IsHosted bare host) : r.KeepsToMethod ↔ bare.KeepsToMethod := by
  rw [KeepsToMethod, KeepsToMethod, h.method_eq, h.body_eq]

/-- The host is nothing that is asked of the rest of a request. -/
lemma isAdmissible_iff (h : r.IsHosted bare host) :
    r.IsAdmissible settings ↔ bare.IsAdmissible settings := by
  have hsize : r.body.size ≤ settings.maxBodySize ↔ bare.body.size ≤ settings.maxBodySize := by
    rw [h.body_eq]
  constructor
  · rintro ⟨hversion, hlength, hmethod, hfits⟩
    exact ⟨h.speaksVersion_iff.1 hversion, h.statesTrueLength_iff.1 hlength,
      h.keepsToMethod_iff.1 hmethod, hsize.1 hfits⟩
  · rintro ⟨hversion, hlength, hmethod, hfits⟩
    exact ⟨h.speaksVersion_iff.2 hversion, h.statesTrueLength_iff.2 hlength,
      h.keepsToMethod_iff.2 hmethod, hsize.2 hfits⟩

end IsHosted

/-! ### What the check asks -/

variable {settings : Settings} {r : Request}

lemma isSupported_iff : r.version.isSupported = true ↔ r.SpeaksVersion := by
  rw [SpeaksVersion]
  obtain ⟨major, minor⟩ := r.version
  simp [Version.isSupported, and_or_left]

lemma hasBody_eq_false_iff : r.hasBody = false ↔ r.body = .empty := by
  simp [hasBody]

lemma forbidden_body_iff :
    (r.method.isSafeRead = true ∧ r.hasBody = true) ↔ ¬ r.KeepsToMethod := by
  rw [KeepsToMethod, ← hasBody_eq_false_iff]
  cases r.method <;> simp [Method.isSafeRead]

lemma checkLength_eq_ok_iff_states : r.checkLength = .ok () ↔ r.StatesTrueLength := by
  rw [checkLength_eq_ok_iff, statedLength?, header?, Headers.get?_eq_head?_getAll,
    StatesTrueLength]
  cases (r.headers.getAll RequestHeader.contentLength.name).head? with
  | none => simp
  | some value => simp [Text.unsigned64?_eq_some_iff]

lemma fault_of_checkLength {fault : Fault} (h : r.checkLength = .error fault) :
    fault = .malformedHeader .contentLength ∨ fault = .contentLengthMismatch := by
  rw [checkLength] at h
  split at h
  · exact absurd h (by simp)
  · exact .inl (Except.error.inj h).symm
  · split at h
    · exact absurd h (by simp)
    · exact .inr (Except.error.inj h).symm

/-- **A request that names a host passes the check** exactly if it is admissible. -/
theorem check_eq_ok_iff_isAdmissible (hhost : r.hasHeader .host = true) :
    r.check settings = .ok () ↔ r.IsAdmissible settings := by
  rw [check_eq_ok_iff, isSupported_iff, ← checkLength_eq_ok_iff, checkLength_eq_ok_iff_states]
  constructor
  · rintro ⟨hversion, -, hlength, hmethod, hsize⟩
    have hkeeps : r.KeepsToMethod := by
      by_contra hnot
      obtain ⟨hread, hbody⟩ := forbidden_body_iff.2 hnot
      rw [hmethod hread] at hbody
      exact absurd hbody Bool.false_ne_true
    exact ⟨hversion, hlength, hkeeps, hsize⟩
  · rintro ⟨hversion, hlength, hmethod, hsize⟩
    refine ⟨hversion, hhost, hlength, ?_, hsize⟩
    intro hread
    by_contra hbody
    exact forbidden_body_iff.1 ⟨hread, Bool.eq_true_of_not_eq_false hbody⟩ hmethod

/-- What the check can find wrong, and what it has found in order by then. -/
lemma fault_cases {fault : Fault} (h : r.check settings = .error fault) :
    (¬ r.SpeaksVersion ∧ fault = .versionNotSupported r.version)
      ∨ (r.SpeaksVersion ∧ r.hasHeader .host = false ∧ fault = .missingHost)
      ∨ (r.SpeaksVersion ∧ ¬ r.StatesTrueLength
        ∧ (fault = .malformedHeader .contentLength ∨ fault = .contentLengthMismatch))
      ∨ (r.SpeaksVersion ∧ ¬ r.KeepsToMethod ∧ fault = .bodyNotAllowed r.method)
      ∨ (r.SpeaksVersion ∧ r.StatesTrueLength ∧ r.KeepsToMethod
        ∧ fault = .payloadTooLarge r.body.size) := by
  -- one split for each test, in their order; what a passed test says is kept for the later ones
  rw [check_eq] at h
  split at h
  · next hversion =>
    have hnot : ¬ r.SpeaksVersion := by simp [← isSupported_iff, hversion]
    exact .inl ⟨hnot, (Except.error.inj h).symm⟩
  next hversion =>
  have hspeaks : r.SpeaksVersion := isSupported_iff.1 (Bool.eq_true_of_not_eq_false hversion)
  refine .inr ?_
  split at h
  · next hhost => exact .inl ⟨hspeaks, hhost, (Except.error.inj h).symm⟩
  refine .inr ?_
  split at h
  · next other hlength =>
    obtain rfl := Except.error.inj h
    have hnot : ¬ r.StatesTrueLength := by simp [← checkLength_eq_ok_iff_states, hlength]
    exact .inl ⟨hspeaks, hnot, fault_of_checkLength hlength⟩
  next hlength =>
  have hstates : r.StatesTrueLength := checkLength_eq_ok_iff_states.1 hlength
  refine .inr ?_
  split at h
  · next hbody => exact .inl ⟨hspeaks, forbidden_body_iff.1 hbody, (Except.error.inj h).symm⟩
  next hbody =>
  have hkeeps : r.KeepsToMethod := not_not.1 (mt forbidden_body_iff.2 hbody)
  split at h
  · exact .inr ⟨hspeaks, hstates, hkeeps, (Except.error.inj h).symm⟩
  · exact absurd h (by simp)

/-- **The fault that the check finds** has the status with which the request is to be refused. -/
theorem isRefusedWith_of_check (hhost : r.hasHeader .host = true) {fault : Fault}
    (h : r.check settings = .error fault) : r.IsRefusedWith fault.status := by
  rcases fault_cases h with ⟨hversion, rfl⟩ | ⟨-, hnone, -⟩ | ⟨hversion, hlength, hfault⟩
    | ⟨hversion, hmethod, rfl⟩ | ⟨hversion, hlength, hmethod, rfl⟩
  · exact ⟨fun _ => rfl, fun h => absurd h hversion, fun h => absurd h hversion⟩
  · rw [hhost] at hnone
    exact absurd hnone (by simp)
  · have hstatus : Status.ofCode? 400 = some fault.status := by
      rcases hfault with rfl | rfl <;> rfl
    exact ⟨absurd hversion, fun _ _ => hstatus, fun _ h => absurd h hlength⟩
  · exact ⟨absurd hversion, fun _ _ => rfl, fun _ _ h => absurd h hmethod⟩
  · exact ⟨absurd hversion, fun _ h => absurd ⟨hlength, hmethod⟩ h, fun _ _ _ => rfl⟩

/-- A host that is there is not found missing. -/
lemma check_ne_missingHost (hhost : r.hasHeader .host = true) :
    r.check settings ≠ .error .missingHost := by
  intro hcheck
  rcases fault_cases hcheck with ⟨-, hfault⟩ | ⟨-, hnone, -⟩ | ⟨-, -, hfault | hfault⟩
    | ⟨-, -, hfault⟩ | ⟨-, -, -, hfault⟩
  · exact Fault.noConfusion hfault
  · rw [hhost] at hnone
    exact absurd hnone (by simp)
  all_goals exact Fault.noConfusion hfault

/-- A request is refused with one of three statuses. -/
lemma IsRefusedWith.status_cases {status : Status} (h : r.IsRefusedWith status) :
    status = .versionNotSupported ∨ status = .badRequest ∨ status = .payloadTooLarge := by
  by_cases hversion : r.SpeaksVersion
  · by_cases hbody : r.StatesTrueLength ∧ r.KeepsToMethod
    · exact .inr (.inr (Option.some.inj (h.size hversion hbody.1 hbody.2)).symm)
    · exact .inr (.inl (Option.some.inj (h.body hversion hbody)).symm)
  · exact .inl (Option.some.inj (h.version hversion)).symm

end Request

/-! ### The page of a refusal -/

/-- What the page of a status says. -/
def Response.pageText (status : Status) : String := Text.decimal status.code ++ " " ++ status.reason

/-- The answer to a request of a method shows the page of a status: its text with its kind and its
length, and to a HEAD request no text. -/
structure Response.IsPageOf (settings : Settings) (method : Method) (status : Status)
    (sent : Response) : Prop where
  status_eq : sent.status = status
  contentType : sent.headers.getAll ResponseHeader.contentType.name = ["text/plain"]
  contentLength : sent.headers.getAll ResponseHeader.contentLength.name
    = [Text.decimal (pageText status).toUTF8.size]
  body : sent.body = if method = .head then .empty else (pageText status).toUTF8
  /-- There are no other headers, but for the name of the server if it has one. -/
  listed : sent.headers.fields
    = [.new ResponseHeader.contentType.name ["text/plain"],
        .new ResponseHeader.contentLength.name [Text.decimal (pageText status).toUTF8.size]]
      ++ (settings.serverName.map fun name => .new ResponseHeader.server.name [name]).toList

namespace Response

/-- A framed page tells its length as well. -/
lemma framed_page_fields {status : Status} (hbody : status.allowsBody = true) :
    (page status).framed.headers.fields
      = [.new ResponseHeader.contentType.name ["text/plain"],
          .new ResponseHeader.contentLength.name [Text.decimal (pageText status).toUTF8.size]] := by
  have hnone : (page status).hasHeader .contentLength = false := by
    rw [hasHeader, page_contains]
    simp
  have hallowed : (page status).status.allowsBody = true := hbody
  rw [framed, if_pos hallowed, withLength, hnone, if_neg Bool.false_ne_true, setHeader,
    Headers.fields_set_of_contains_eq_false hnone, page_fields]
  rfl

/-- Conditions are for a plain success only. -/
lemma conditional_of_status_ne_ok {res : Response} (hstatus : res.status ≠ .ok)
    (settings : Settings) (req : Request) : res.conditional settings req = res := by
  have hfresh : req.holdsFresh res = false := by simp [Request.holdsFresh, hstatus]
  rw [conditional, hfresh, Bool.and_false, if_neg Bool.false_ne_true]

end Response

namespace Harness

/-- A request that is refused is shown a page, which says nothing about its conditions. -/
theorem isPageOf_refuse {status : Status} (hbody : status.allowsBody = true)
    (hstatus : status ≠ .ok) (settings : Settings) (req : Request) :
    (refuse settings status req).IsPageOf settings req.method status := by
  have hpage : Response.ofError status = .page status := if_pos hbody
  have hcond : (Response.page status).conditional settings req = .page status :=
    Response.conditional_of_status_ne_ok hstatus settings req
  have hallowed : (Response.page status).status.allowsBody = true := hbody
  rw [refuse, hpage]
  refine ⟨?_, ?_, ?_, ?_, ?_⟩
  · rw [Response.finish_status, hcond]
    rfl
  · rw [Response.finish_getAll_of_ne _ _ _ (by simp), hcond, Response.framed_getAll,
      if_pos hallowed, Response.page_getAll]
    simp
  · -- the page tells no length of its own
    have hnone : (Response.page status).hasHeader .contentLength = false := by
      rw [Response.hasHeader, Response.page_contains]
      simp
    rw [Response.finish_getAll_of_ne _ _ _ (by simp), hcond, Response.framed_getAll,
      if_pos hallowed, if_pos ⟨rfl, hnone⟩]
    rfl
  · rw [Response.finish_body, hcond, hallowed]
    simp [Response.page, Response.setHeader, Response.pageText, Status.render]
  · have hfields := Response.framed_page_fields hbody
    rw [Response.finish_headers, hcond]
    cases settings.serverName with
    | none => rw [hfields, Option.map_none, Option.toList_none, List.append_nil]
    | some name =>
      have hnone : (Response.page status).framed.headers.contains ResponseHeader.server.name
          = false := by
        rw [Response.framed_contains, if_pos hallowed, Response.page_contains]
        simp
      dsimp only
      rw [Headers.fields_set_of_contains_eq_false hnone, hfields]
      rfl

/-! ### The gate -/

lemma hosted_hasHeader (settings : Settings) (req : Request) :
    (hosted settings req).hasHeader .host = true := by
  rw [hosted]
  split
  · next hhost => exact hhost
  · simp

/-- **The request that is checked** is the one that came in, completed with the host of the
settings. -/
theorem isHosted_hosted (settings : Settings) (req : Request) :
    (hosted settings req).IsHosted req settings.defaultHost := by
  rw [hosted]
  split
  · next hhost =>
    have hnot : ¬ req.hasHeader .host = false := by simp [hhost]
    exact ⟨rfl, fun _ => rfl, fun hnone => absurd hnone hnot, fun hnone => absurd hnone hnot⟩
  · next hhost =>
    have hnone : req.hasHeader .host = false := Bool.eq_false_iff.2 hhost
    refine ⟨rfl, fun h => absurd h hhost, ?_, ?_⟩
    · intro _ name
      exact Headers.getAll_set ..
    · intro _
      exact Headers.fields_set_of_contains_eq_false hnone _

variable {settings : Settings} {req : Request}

lemma perform_of_isAdmissible (hadmissible : (hosted settings req).IsAdmissible settings)
    (router : Router) :
    perform ⟨router, settings⟩ req
      = (handle ⟨router, settings⟩ (hosted settings req)).response := by
  have hhost := hosted_hasHeader settings req
  have hcheck := (Request.check_eq_ok_iff_isAdmissible hhost).2 hadmissible
  simp only [perform, hcheck]

/-- A request that is not admissible is answered with the page of the status that is due, whatever
the router. -/
lemma exists_isPageOf (hnot : ¬ (hosted settings req).IsAdmissible settings) :
    ∃ status sent, (hosted settings req).IsRefusedWith status
      ∧ sent.IsPageOf settings req.method status
      ∧ ∀ router, perform ⟨router, settings⟩ req = sent := by
  have hhost := hosted_hasHeader settings req
  cases hcheck : (hosted settings req).check settings with
  | ok => exact absurd ((Request.check_eq_ok_iff_isAdmissible hhost).1 hcheck) hnot
  | error fault =>
    have hstatus := Request.isRefusedWith_of_check hhost hcheck
    have hshown : fault.status.allowsBody = true ∧ fault.status ≠ .ok := by
      rcases hstatus.status_cases with h | h | h <;> rw [h] <;> decide
    have hpage := isPageOf_refuse hshown.1 hshown.2 settings (hosted settings req)
    rw [hosted_method] at hpage
    refine ⟨fault.status, _, hstatus, hpage, ?_⟩
    intro router
    simp only [perform, hcheck]

/-- **The check is a gate before the handlers.**  A request is completed with the host of the
settings.  If it is admissible then, it is handled; otherwise it is answered with the page of the
status that is due, the same for all routers.  No request is found to lack a host. -/
theorem perform_gate (settings : Settings) (req : Request) :
    ∃ r : Request, r.IsHosted req settings.defaultHost
      ∧ (r.IsAdmissible settings → ∀ router,
        perform ⟨router, settings⟩ req = (handle ⟨router, settings⟩ r).response)
      ∧ (¬ r.IsAdmissible settings → ∃ status sent,
        r.IsRefusedWith status ∧ sent.IsPageOf settings req.method status
          ∧ ∀ router, perform ⟨router, settings⟩ req = sent)
      ∧ r.check settings ≠ .error .missingHost :=
  ⟨hosted settings req, isHosted_hosted settings req, perform_of_isAdmissible, exists_isPageOf,
    Request.check_ne_missingHost (hosted_hasHeader settings req)⟩

/-- A length may be written with blanks and a sign, and passes the gate, where the request is given
a host; a HEAD request with a body does not pass, and is told the length of a page that it is not
sent. -/
theorem perform_gate_head :
    let plain := (Request.new .get "/").setHeader .contentLength " +0\t"
    let loaded := { Request.new .head "/" with body := "x".toUTF8 }
    (∃ r : Request, r.headers.toList = [("Content-Length", [" +0\t"]), ("Host", ["localhost"])]
        ∧ ∀ router, perform ⟨router, .default⟩ plain = (handle ⟨router, .default⟩ r).response)
      ∧ ∃ sent, (∀ router, perform ⟨router, .default⟩ loaded = sent) ∧ sent.status = .badRequest
        ∧ sent.headers.getAll ResponseHeader.contentLength.name = ["15"] ∧ sent.body = .empty := by
  intro plain loaded
  obtain ⟨r, hr, hhandled, -⟩ := perform_gate .default plain
  obtain ⟨s, hs, -, hrefused, -⟩ := perform_gate .default loaded
  have hplain : plain.IsAdmissible .default :=
    ⟨.inr rfl, Request.checkLength_eq_ok_iff_states.1 (by decide +kernel), fun _ => rfl, by decide⟩
  have hlisted : r.headers.toList = [("Content-Length", [" +0\t"]), ("Host", ["localhost"])] := by
    rw [Headers.toList, hr.listed (by decide +kernel)]
    rfl
  have hkeeps : ¬ s.KeepsToMethod := by
    intro hkeeps
    have hbody : "x".toUTF8 = .empty := hs.keepsToMethod_iff.1 hkeeps (.inr rfl)
    exact absurd (congrArg ByteArray.size hbody) (by decide +kernel)
  refine ⟨⟨r, hlisted, hhandled (hr.isAdmissible_iff.2 hplain)⟩, ?_⟩
  obtain ⟨status, sent, hstatus, hpage, hsame⟩ := hrefused fun h => hkeeps h.method
  obtain rfl := Option.some.inj
    (hstatus.body (hs.speaksVersion_iff.2 (.inr rfl)) fun h => hkeeps h.2)
  exact ⟨sent, hsame, hpage.status_eq, hpage.contentLength.trans (by decide +kernel), hpage.body⟩

end Harness

/-! ### Lengths that are not looked at -/

namespace Request

/-- The request with a further value for its length. -/
def alsoStating (r : Request) (value : String) : Request :=
  { r with headers := r.headers.append RequestHeader.contentLength.name value }

variable {settings : Settings} {r : Request}

/-- A further length comes after the first one. -/
lemma statesTrueLength_alsoStating
    (hstated : r.headers.getAll RequestHeader.contentLength.name ≠ []) (value : String) :
    (r.alsoStating value).StatesTrueLength ↔ r.StatesTrueLength := by
  obtain ⟨first, rest, hlengths⟩ := List.exists_cons_of_ne_nil hstated
  have hmore : (r.alsoStating value).headers.getAll RequestHeader.contentLength.name
      = first :: (rest ++ [value]) := by
    rw [alsoStating, Headers.getAll_append, if_pos rfl, hlengths, List.cons_append]
  rw [StatesTrueLength, StatesTrueLength, hmore, hlengths]
  rfl

lemma hasHeader_alsoStating {header : RequestHeader} (hheader : r.hasHeader header = true)
    (value : String) : (r.alsoStating value).hasHeader header = true := by
  rw [hasHeader] at hheader ⊢
  rw [alsoStating, Headers.contains_append, hheader, Bool.or_true]

/-- **What a request that passes the check states of its length.**  The first length that is stated
is true, but for a plus sign that may stand before it; all stated lengths are plain and true exactly
if there is no such sign and the later ones are plain and true; and a later length that is none of
this is let through as well. -/
theorem lengths_of_check (settings : Settings) (r : Request) (hok : r.check settings = .ok ()) :
    (∀ value ∈ (r.headers.getAll RequestHeader.contentLength.name).head?,
        Text.IsCount (Text.trimChars value.toList) r.body.size)
      ∧ ((∀ value ∈ r.headers.getAll RequestHeader.contentLength.name,
          Text.IsNumeral (Text.trimChars value.toList) r.body.size)
        ↔ (∀ value ∈ (r.headers.getAll RequestHeader.contentLength.name).head?,
            (Text.trimChars value.toList).head? ≠ some '+')
          ∧ ∀ value ∈ (r.headers.getAll RequestHeader.contentLength.name).tail,
            Text.IsNumeral (Text.trimChars value.toList) r.body.size)
      ∧ (r.headers.getAll RequestHeader.contentLength.name ≠ [] →
        ∀ value, (r.alsoStating value).check settings = .ok ()) := by
  have hhost : r.hasHeader .host = true := ((check_eq_ok_iff settings r).1 hok).2.1
  have hadmissible := (check_eq_ok_iff_isAdmissible hhost).1 hok
  have hfirst := hadmissible.length
  refine ⟨hfirst, ?_, ?_⟩
  · rw [StatesTrueLength] at hfirst
    cases hlengths : r.headers.getAll RequestHeader.contentLength.name with
    | nil => simp
    | cons first rest =>
      rw [hlengths] at hfirst
      have hplain := (hfirst first rfl).isNumeral_iff
      simp [hplain]
  · intro hstated value
    rw [check_eq_ok_iff_isAdmissible (hasHeader_alsoStating hhost value)]
    exact ⟨hadmissible.version, (statesTrueLength_alsoStating hstated value).2 hfirst,
      hadmissible.method, hadmissible.size⟩

/-- Of two lengths that contradict each other the false one is let through behind the true one, and
so is a true one with a sign. -/
theorem lengths_of_check_contradictory :
    let stating (value : String) := ({ new .post "/" with body := "abc".toUTF8 }.setHeader .host
      "localhost").setHeader .contentLength value
    (((stating "3").alsoStating "4").check .default = .ok ()
        ∧ ¬ ∀ value ∈ ((stating "3").alsoStating "4").headers.getAll
            RequestHeader.contentLength.name,
          Text.IsNumeral (Text.trimChars value.toList) ((stating "3").alsoStating "4").body.size)
      ∧ (stating "+3").check .default = .ok ()
        ∧ ¬ ∀ value ∈ (stating "+3").headers.getAll RequestHeader.contentLength.name,
          Text.IsNumeral (Text.trimChars value.toList) (stating "+3").body.size := by
  intro stating
  have hplain : (stating "3").check .default = .ok () := by decide +kernel
  have hsigned : (stating "+3").check .default = .ok () := by decide +kernel
  have hdoubled : ((stating "3").alsoStating "4").check .default = .ok () :=
    (lengths_of_check .default _ hplain).2.2 (by decide +kernel) "4"
  refine ⟨⟨hdoubled, ?_⟩, hsigned, ?_⟩
  · rw [(lengths_of_check .default _ hdoubled).2.1]
    rintro ⟨-, hlater⟩
    have hfour := Text.readDigits?_eq_some_iff.2 (hlater "4" (by decide +kernel))
    exact absurd hfour (by decide +kernel)
  · rw [(lengths_of_check .default _ hsigned).2.1]
    rintro ⟨hfirst, -⟩
    exact hfirst "+3" (by decide +kernel) (by decide +kernel)

end Request
end HttpMock
