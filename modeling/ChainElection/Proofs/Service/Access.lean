import Mathlib.Tactic
import ChainElection.Service.Layers
import ChainElection.Service.Run
import ChainElection.Proofs.Service.Answer
import ChainElection.Proofs.Submission.Record
import ChainElection.Proofs.Text.Utf8

/-!
Who changes the index: only who shows the token.

* `ServiceRequest.isUpload`, `ServiceRequest.shows`: the request is one to store
  records, and its first authorization header is the token behind its mark.
  `authorize_eq_ok_iff` says when the service finds that it is, `stores_upload`
  that a well-formed upload is stored then.
* `SubmissionService.layered_eq_answer`: the check in front of the router misses
  no request that the router would store.
* `SubmissionService.answer_of_not_shows`: without the token an upload is
  refused before anything else of it is looked at;
  `answer_of_not_isUpload`: everything else is answered whatever its headers.
* `SubmissionService.run_filter`: uploads without the token can be left out of
  any sequence of requests.
-/

namespace ChainElection

/-! ### Headers that are visible -/

namespace ServiceRequest

lemma lt_of_isVisible {b : UInt8} (h : isVisible b = true) : b.toNat < 0x80 := by
  have hhigh : (0x7f : UInt8).toNat = 0x7f := rfl
  have htab : (0x09 : UInt8).toNat = 0x09 := rfl
  simp only [isVisible, Bool.or_eq_true, Bool.and_eq_true, decide_eq_true_eq, beq_iff_eq,
    UInt8.lt_iff_toNat_lt] at h
  rcases h with ⟨-, h⟩ | rfl <;> omega

/-- Visible bytes are those of their text. -/
lemma visibleText_eq_some_iff {bs : List UInt8} {s : List Char} :
    visibleText bs = some s ↔ bs.all isVisible = true ∧ bs = Utf8.encode s := by
  have hencode : bs.all isVisible = true → bs = Utf8.encode (bs.map fun b => Char.ofNat b.toNat) := by
    intro hall
    have hchar : ∀ b ∈ bs, (Char.ofNat b.toNat).toNat = b.toNat := fun b hb =>
      Utf8.toNat_ofNat_of_lt (lt_of_isVisible (List.all_eq_true.mp hall b hb))
    rw [Utf8.encode_of_ascii, List.map_map]
    · conv_lhs => rw [← List.map_id bs]
      refine List.map_congr_left fun b hb => ?_
      show b = UInt8.ofNat (Char.ofNat b.toNat).toNat
      rw [hchar b hb, UInt8.ofNat_toNat]
    · intro c hc
      obtain ⟨b, hb, rfl⟩ := List.mem_map.mp hc
      rw [hchar b hb]
      exact lt_of_isVisible (List.all_eq_true.mp hall b hb)
  rw [visibleText]
  constructor
  · intro h
    split at h
    · rename_i hall
      cases h
      exact ⟨hall, hencode hall⟩
    · cases h
  · rintro ⟨hall, hbs⟩
    rw [if_pos hall, Utf8.encode_injective (hbs.symm.trans (hencode hall))]

lemma afterMark_eq_some_iff {m s t : List Char} : afterMark m s = some t ↔ s = m ++ t := by
  induction m generalizing s with
  | nil => simp [afterMark]
  | cons c m ih =>
      cases s with
      | nil => simp [afterMark]
      | cons d s =>
          by_cases h : c = d
          · simp [afterMark, h, ih]
          · simp [afterMark, h, Ne.symm h]

/-- The token of a request is what its visible header has behind the mark. -/
lemma bearerToken_eq_ok_iff {r : ServiceRequest} {t : List Char} : r.bearerToken = .ok t ↔
    ∃ bs, r.header? "authorization" = some bs ∧ bs.all isVisible = true ∧
      bs = Utf8.encode (tokenMark ++ t) := by
  constructor
  · intro h
    rw [bearerToken] at h
    split at h
    · cases h
    · rename_i bs hheader
      split at h
      · cases h
      · rename_i s hvisible
        split at h
        · cases h
        · rename_i u hafter
          cases h
          obtain ⟨hall, hbs⟩ := visibleText_eq_some_iff.mp hvisible
          exact ⟨bs, hheader, hall, afterMark_eq_some_iff.mp hafter ▸ hbs⟩
  · rintro ⟨bs, hheader, hvisible⟩
    rw [bearerToken, hheader]
    simp only [visibleText_eq_some_iff.mpr hvisible, afterMark_eq_some_iff.mpr rfl]

/-! ### Uploads and the token -/

/-- Is the request one to store records? -/
def isUpload (r : ServiceRequest) : Bool := r.method == "POST" && r.path == Route.ingestPath

/-- Is the first authorization header of the request the token behind its mark? There has to be a token. -/
def shows (r : ServiceRequest) (token : Option String) : Bool :=
  token.any fun t => r.header? "authorization" == some (Utf8.ofString ("Bearer " ++ t))

lemma isUpload_eq_true_iff {r : ServiceRequest} :
    r.isUpload = true ↔ r.method = "POST" ∧ r.path = Route.ingestPath := by
  rw [isUpload, Bool.and_eq_true, beq_iff_eq, beq_iff_eq]

lemma shows_eq_true_iff {r : ServiceRequest} {token : Option String} : r.shows token = true ↔
    ∃ t, token = some t ∧ r.header? "authorization" = some (Utf8.ofString ("Bearer " ++ t)) := by
  cases token <;> simp [shows]

/-- The request has the right to store records if its header shows the token and is visible. -/
theorem authorize_eq_ok_iff {r : ServiceRequest} {token : Option String} : r.authorize token = .ok () ↔
    r.shows token = true ∧ ∀ bs, r.header? "authorization" = some bs → bs.all isVisible = true := by
  have hmark : ∀ t : String, Utf8.ofString ("Bearer " ++ t) = Utf8.encode (tokenMark ++ t.toList) := by
    intro t
    rw [Utf8.ofString, String.toList_append]
    rfl
  cases token with
  | none => simp [authorize, shows]
  | some t =>
      have hright : r.authorize (some t) = .ok () ↔ r.bearerToken = .ok t.toList := by
        rw [authorize]
        cases r.bearerToken <;> simp
      rw [hright, bearerToken_eq_ok_iff, shows_eq_true_iff]
      constructor
      · rintro ⟨bs, hheader, hall, hbs⟩
        refine ⟨⟨t, rfl, by rw [hheader, hbs, hmark]⟩, fun bs' hbs' => ?_⟩
        rw [hheader, Option.some.injEq] at hbs'
        exact hbs' ▸ hall
      · rintro ⟨⟨t', ht, hheader⟩, hall⟩
        cases ht
        exact ⟨_, hheader, hall _ hheader, hmark t⟩

/-- An upload of records that shows a token. -/
def upload (token : String) (rs : List SubmissionRecord) : ServiceRequest :=
  ⟨"POST", Route.ingestPath, [("Content-Type", Utf8.ofString "application/json"),
      ("Authorization", Utf8.ofString ("Bearer " ++ token))],
    (Json.array (rs.map SubmissionRecord.toJson)).render⟩

lemma header?_contentType_upload (token : String) (rs : List SubmissionRecord) :
    (upload token rs).header? "content-type" = some (Utf8.ofString "application/json") := by
  have hkey : (headerKey "Content-Type" == "content-type") = true := by decide +kernel
  simp only [header?, upload, List.find?_cons, hkey, Option.map_some]

lemma header?_authorization_upload (token : String) (rs : List SubmissionRecord) :
    (upload token rs).header? "authorization" = some (Utf8.ofString ("Bearer " ++ token)) := by
  have hother : (headerKey "Content-Type" == "authorization") = false := by decide +kernel
  have hkey : (headerKey "Authorization" == "authorization") = true := by decide +kernel
  simp only [header?, upload, List.find?_cons, hother, hkey, Option.map_some]

/-- An upload of records with regular times is stored by whoever's token it shows, if the token is visible and
the body not too long. -/
theorem stores_upload {token : String} {rs : List SubmissionRecord} (hrs : ∀ r ∈ rs, r.time.IsRegular)
    (hvisible : (Utf8.ofString ("Bearer " ++ token)).all isVisible = true)
    (hlength : (upload token rs).body.length ≤ SubmissionService.maxBody) :
    (upload token rs).Stores (some token) rs where
  method := rfl
  path := rfl
  authorized := by
    have hheader := header?_authorization_upload token rs
    refine authorize_eq_ok_iff.mpr ⟨shows_eq_true_iff.mpr ⟨token, rfl, hheader⟩, fun bs hbs => ?_⟩
    rw [hheader] at hbs
    exact Option.some.inj hbs ▸ hvisible
  records := by
    have htype : (some (Utf8.ofString "application/json")).bind visibleText =
        some "application/json".toList := by decide +kernel
    have hjson : MediaType.isJson "application/json".toList = true := by decide +kernel
    have hdecode : Json.decode (Json.asList SubmissionRecord.ofJson) (upload token rs).body = .ok rs := by
      have hread := SubmissionRecord.readsAs.list.render rs
      rwa [SubmissionRecord.map_settled hrs] at hread
    rw [SubmissionService.recordsOf, header?_contentType_upload, htype]
    simp only [hjson, if_true, if_neg (Nat.not_lt.mpr hlength), hdecode]

/-- What a request without the right to store records is told. The header is only found fault with if it is
not visible. -/
inductive Refused (r : ServiceRequest) : ServiceFault → Prop where
  | unauthorized : Refused r .unauthorized
  | unreadable {bs : List UInt8} {b : UInt8} (hbs : r.header? "authorization" = some bs) (hb : b ∈ bs)
      (hnot : isVisible b = false) :
      Refused r (.malformed "authorization header" "not visible ASCII")

lemma refused_of_authorize {r : ServiceRequest} {token : Option String} {f : ServiceFault}
    (h : r.authorize token = .error f) : r.Refused f := by
  have hvisible : ∀ bs, visibleText bs = none → ∃ b ∈ bs, isVisible b = false := by
    intro bs hbs
    rw [visibleText] at hbs
    split at hbs
    · cases hbs
    · rename_i hall
      simpa using hall
  cases token with
  | none =>
      cases h
      exact .unauthorized
  | some t =>
      rw [authorize] at h
      split at h
      · rename_i hbearer
        cases h
        rw [bearerToken] at hbearer
        split at hbearer
        · cases hbearer
          exact .unauthorized
        · rename_i bs hheader
          split at hbearer
          · rename_i hnone
            cases hbearer
            obtain ⟨b, hb, hnot⟩ := hvisible bs hnone
            exact .unreadable hheader hb hnot
          · split at hbearer
            · cases hbearer
              exact .unauthorized
            · cases hbearer
      · split at h
        · cases h
        · cases h
          exact .unauthorized

end ServiceRequest

/-! ### What the service does -/

namespace SubmissionService

variable {s : SubmissionService} {r : ServiceRequest}

lemma answer_of_isUpload (h : r.isUpload = true) : s.answer r = s.ingest r := by
  obtain ⟨hmethod, hpath⟩ := ServiceRequest.isUpload_eq_true_iff.mp h
  have hoptions : ¬ r.method = "OPTIONS" := by
    rw [hmethod]
    decide
  rw [answer, if_neg hoptions, hpath, ofPath_ingestPath]
  simp only [if_pos hmethod]

/-- Layer by layer, the service does what it does at once: the check and the router agree on which requests
are uploads. -/
theorem layered_eq_answer (s : SubmissionService) (r : ServiceRequest) : s.layered r = s.answer r := by
  rw [layered, answer]
  by_cases hoptions : r.method = "OPTIONS"
  · rw [if_pos hoptions, if_pos hoptions]
  rw [if_neg hoptions, if_neg hoptions, checked]
  by_cases hpath : r.path = "/submissions"
  · have hroute : Route.ofPath r.path = some .ingest := by
      rw [hpath]
      exact ofPath_ingestPath
    by_cases hmethod : r.method = "POST"
    · rw [if_neg (by simp [hmethod, hpath]), hroute]
      cases hauthorized : r.authorize s.token with
      | error f => simp only [if_pos hmethod, ingest, hauthorized]
      | ok u =>
          cases hrecords : recordsOf r <;>
            simp only [if_pos hmethod, ingest, hauthorized, routed, hroute, storeBody, hrecords]
    · rw [if_pos (.inl hmethod), routed, hroute]
      simp only [if_neg hmethod]
  · have hroute : Route.ofPath r.path ≠ some .ingest := fun h => hpath (Route.path_of_ingest h)
    rw [if_pos (.inr hpath), routed]
    cases hfound : Route.ofPath r.path with
    | none => rfl
    | some route =>
        rw [hfound] at hroute
        cases route <;> first | rfl | exact absurd rfl hroute

/-- An upload that does not show the token is refused, whatever else it is made of. -/
lemma answer_of_not_shows (h : r.isUpload = true) (hnot : r.shows s.token = false) :
    ∃ f, r.Refused f ∧ (s.token = none → f = .unauthorized) ∧
      ∀ body, s.answer { r with body := body } = (.ofFault f, s) := by
  have hupload : ∀ body, ({ r with body := body } : ServiceRequest).isUpload = true := fun _ => h
  cases hauthorize : r.authorize s.token with
  | ok u =>
      have hshows := (ServiceRequest.authorize_eq_ok_iff.mp hauthorize).1
      rw [hnot] at hshows
      cases hshows
  | error f =>
      refine ⟨f, ServiceRequest.refused_of_authorize hauthorize, fun hnone => ?_, fun body => ?_⟩
      · rw [hnone] at hauthorize
        cases hauthorize
        rfl
      · have hsame : ({ r with body := body } : ServiceRequest).authorize s.token = .error f := hauthorize
        rw [answer_of_isUpload (hupload body), ingest, hsame]

/-- A request that is no upload is answered by its method and its path alone, and leaves the service as it
is. -/
lemma answer_of_not_isUpload (h : r.isUpload = false) :
    ∃ reply, ∀ headers body, s.answer { r with headers := headers, body := body } = (reply, s) := by
  have hnot : Route.ofPath r.path = some .ingest → r.method ≠ "POST" := by
    intro hpath hmethod
    rw [ServiceRequest.isUpload_eq_true_iff.mpr ⟨hmethod, Route.path_of_ingest hpath⟩] at h
    cases h
  by_cases hoptions : r.method = "OPTIONS"
  · exact ⟨_, fun headers body => by rw [answer, if_pos hoptions]⟩
  cases hroute : Route.ofPath r.path with
  | none => exact ⟨_, fun headers body => by rw [answer, if_neg hoptions, hroute]⟩
  | some route =>
      by_cases hingest : route = .ingest
      · subst hingest
        refine ⟨.blank 405, fun headers body => ?_⟩
        rw [answer, if_neg hoptions, hroute]
        simp only [if_neg (hnot hroute)]
      · have hquestion : ∀ headers body, s.answer { r with headers := headers, body := body } =
            if r.method = "GET" then (s.question route, s)
            else if r.method = "HEAD" then (.blank (s.question route).status, s)
            else (.blank 405, s) := by
          intro headers body
          rw [answer, if_neg hoptions, hroute]
          cases route <;> first | rfl | exact absurd rfl hingest
        by_cases hget : r.method = "GET"
        · exact ⟨_, fun headers body => by rw [hquestion, if_pos hget]⟩
        by_cases hhead : r.method = "HEAD"
        · exact ⟨_, fun headers body => by rw [hquestion, if_neg hget, if_pos hhead]⟩
        · exact ⟨_, fun headers body => by rw [hquestion, if_neg hget, if_neg hhead]⟩

/-- What the service was built from, and its token, stay. -/
lemma answer_token (s : SubmissionService) (r : ServiceRequest) : (s.answer r).2.token = s.token := by
  by_cases hstores : ∃ rs, r.Stores s.token rs
  · obtain ⟨rs, hrs⟩ := hstores
    rw [answer_of_stores hrs, store]
    split <;> rfl
  · push Not at hstores
    rw [answer_of_not_stores hstores]

/-! ### Sequences of requests -/

/-- The request may be left out: it is an upload that does not show the token. -/
def isIdle (token : Option String) (r : ServiceRequest) : Bool := r.isUpload && !r.shows token

lemma answer_of_isIdle (h : isIdle s.token r = true) : (s.answer r).2 = s := by
  rw [isIdle, Bool.and_eq_true, Bool.not_eq_true'] at h
  obtain ⟨f, -, -, hanswer⟩ := answer_of_not_shows h.1 h.2
  rw [hanswer r.body]

lemma length_run (s : SubmissionService) (rs : List ServiceRequest) : (s.run rs).1.length = rs.length := by
  induction rs generalizing s with
  | nil => rfl
  | cons r rs ih => simp only [run, List.length_cons, ih]

/-- Uploads that do not show the token can be left out of a sequence of requests: the service ends up the
same, and all other requests get the same answers. -/
theorem run_filter (s : SubmissionService) (rs : List ServiceRequest) :
    s.run (rs.filter fun r => !isIdle s.token r) =
      ((((rs.zip (s.run rs).1).filter fun x => !isIdle s.token x.1).map Prod.snd), (s.run rs).2) := by
  induction rs generalizing s with
  | nil => rfl
  | cons r rs ih =>
      have hrest := ih (s.answer r).2
      rw [answer_token] at hrest
      by_cases hidle : isIdle s.token r = true
      · rw [answer_of_isIdle hidle] at hrest
        rw [List.filter_cons_of_neg (by simp [hidle]), hrest]
        simp only [run, answer_of_isIdle hidle, List.zip_cons_cons]
        rw [List.filter_cons_of_neg (by simp [hidle])]
      · rw [List.filter_cons_of_pos (by simp [hidle])]
        simp only [run, List.zip_cons_cons, hrest]
        rw [List.filter_cons_of_pos (by simp [hidle]), List.map_cons]

/-- Only who shows the token changes the index. The check in front of the router misses nothing that the
router would store: the index is only changed by a request with the one method, for the one path, whose
first authorization header is the mark and the token. With them, and if the header is visible, the records of
an upload are stored. Without them it is refused whatever its body is, and if there is no token, all uploads
are. All other answers do not depend on headers. So in any sequence of requests the uploads without the
token can be left out, and neither the service nor the other answers change. -/
theorem only_the_token_writes (s : SubmissionService) :
    (∀ r : ServiceRequest, s.layered r = s.answer r) ∧
    (∀ r : ServiceRequest, (s.answer r).2.database ≠ s.database →
      r.method = "POST" ∧ r.path = "/submissions" ∧
      ∃ t, s.token = some t ∧ r.header? "authorization" = some (Utf8.ofString ("Bearer " ++ t))) ∧
    (∀ (r : ServiceRequest) rs, r.isUpload = true → r.shows s.token = true →
      (∀ bs, r.header? "authorization" = some bs → bs.all ServiceRequest.isVisible = true) →
      recordsOf r = .ok rs → s.answer r = (.ofResult (s.store rs).1, (s.store rs).2)) ∧
    (∀ r : ServiceRequest, r.isUpload = true → r.shows s.token = false →
      ∃ f, r.Refused f ∧ ∀ body, s.answer { r with body := body } = (.ofFault f, s)) ∧
    (s.token = none → ∀ r : ServiceRequest, r.isUpload = true →
      s.answer r = (.ofFault .unauthorized, s)) ∧
    (∀ (r : ServiceRequest) headers, r.isUpload = false →
      s.answer { r with headers := headers } = s.answer r) ∧
    ∀ rs : List ServiceRequest, (s.run rs).1.length = rs.length ∧
      s.run (rs.filter fun r => !isIdle s.token r) =
        (((rs.zip (s.run rs).1).filter fun x => !isIdle s.token x.1).map Prod.snd, (s.run rs).2) := by
  refine ⟨layered_eq_answer s, fun r hchange => ?_, fun r rs hupload hshows hvisible hrecords => ?_,
    fun r hupload hnot => ?_, fun hnone r hupload => ?_, fun r headers hupload => ?_,
    fun rs => ⟨length_run s rs, run_filter s rs⟩⟩
  · have hupload : r.isUpload = true := by
      by_contra hnot
      obtain ⟨reply, hanswer⟩ := answer_of_not_isUpload (s := s) (Bool.eq_false_iff.mpr hnot)
      exact hchange (by rw [hanswer r.headers r.body])
    have hshows : r.shows s.token = true := by
      by_contra hnot
      obtain ⟨f, -, -, hanswer⟩ := answer_of_not_shows hupload (Bool.eq_false_iff.mpr hnot)
      exact hchange (by rw [hanswer r.body])
    obtain ⟨hmethod, hpath⟩ := ServiceRequest.isUpload_eq_true_iff.mp hupload
    exact ⟨hmethod, hpath, ServiceRequest.shows_eq_true_iff.mp hshows⟩
  · have hauthorized : r.authorize s.token = .ok () :=
      ServiceRequest.authorize_eq_ok_iff.mpr ⟨hshows, hvisible⟩
    simp only [answer_of_isUpload hupload, ingest, hauthorized, hrecords]
  · obtain ⟨f, hrefused, -, hanswer⟩ := answer_of_not_shows hupload hnot
    exact ⟨f, hrefused, hanswer⟩
  · have hnot : r.shows s.token = false := by
      rw [hnone]
      rfl
    obtain ⟨f, -, hf, hanswer⟩ := answer_of_not_shows hupload hnot
    rw [← hf hnone]
    exact hanswer r.body
  · obtain ⟨reply, hanswer⟩ := answer_of_not_isUpload (s := s) hupload
    rw [hanswer headers r.body]
    exact (hanswer r.headers r.body).symm

/-- Somebody with the token stores a record, and somebody else tries to with another token. -/
theorem only_the_token_writes_of_wrong_token :
    ∃ (s : SubmissionService) (right wrong ask : ServiceRequest),
      (s.answer right).2.database ≠ s.database ∧
      (∃ t, s.token = some t ∧
        right.header? "authorization" = some (Utf8.ofString ("Bearer " ++ t))) ∧
      wrong.isUpload = true ∧ wrong.shows s.token = false ∧ wrong.body = right.body ∧
      (∃ f, wrong.Refused f ∧ s.answer wrong = (.ofFault f, s)) ∧
      (s.run [wrong, right, wrong, ask]).2 = (s.run [right, ask]).2 := by
  let s : SubmissionService := ⟨IndexDatabase.blank.migrate.2, some "secret", ⟨"", ""⟩⟩
  let right : ServiceRequest := .upload "secret" [default]
  let wrong : ServiceRequest := .upload "secrets" [default]
  let ask : ServiceRequest := ⟨"GET", "/healthz", [], []⟩
  have hstores : right.Stores s.token [default] :=
    ServiceRequest.stores_upload (by decide) (by decide +kernel) (by decide +kernel)
  have hchange : (s.answer right).2.database ≠ s.database := by
    rw [answer_of_stores hstores]
    decide +kernel
  have hupload : wrong.isUpload = true := by decide +kernel
  have hnot : wrong.shows s.token = false := by decide +kernel
  obtain ⟨-, hwrites, -, hrefuses, -, -, hruns⟩ := only_the_token_writes s
  obtain ⟨f, hf, hanswer⟩ := hrefuses wrong hupload hnot
  refine ⟨s, right, wrong, ask, hchange, (hwrites right hchange).2.2, hupload, hnot, rfl,
    ⟨f, hf, hanswer _⟩, ?_⟩
  have hwrong : isIdle s.token wrong = true := by decide +kernel
  have hright : isIdle s.token right = false := by decide +kernel
  have hask : isIdle s.token ask = false := by decide +kernel
  have hkept : [wrong, right, wrong, ask].filter (fun r => !isIdle s.token r) = [right, ask] := by
    simp [hwrong, hright, hask]
  have hrun := (hruns [wrong, right, wrong, ask]).2
  rw [hkept] at hrun
  rw [hrun]

end SubmissionService

end ChainElection
