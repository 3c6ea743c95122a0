import Discography.Api.Sample
import Discography.Proofs.ErrorReports

/-!
# What replies disclose

A failure of the service is answered with a message alone. Apart from two kinds the message is the
same for every failure, so that nothing of it is disclosed: not its text, not its details, not even
which failure it was. Errors of the catalog that come with a message and a status of their own show
that message whatever the status, and so do responses that the framework makes up with their detail.

* `Failure.disclosed` — the body for a failure of the service.
* `Failure.outline` — a failure without its texts and details.
* `reply_discloses` — a reply to a failure of the service shows that body and nothing else.
* `custom_error_discloses` — an error of the catalog that is answered as an internal error with the
  text that it was given.
-/

set_option autoImplicit false

namespace Discography

namespace Failure

/-- The body that tells nothing of a failure. -/
def concealed : Json.Value := .object [("message", .text internalMessage)]

/-- The body that a failure of the service is answered with. -/
def disclosed : Failure → Json.Value
  | .custom message .. => .object [("message", .text message)]
  | .http _ detail => .object [("detail", .text detail)]
  | _ => concealed

/-- A failure without its texts and details. -/
def outline : Failure → Failure
  | .notFound => .notFound
  | .malformed _ => .malformed ""
  | .invalid _ => .invalid []
  | .internal _ => .internal ""
  | .database _ _ => .database "" ""
  | .custom _ code category severity status => .custom "" code category severity status
  | .http status _ => .http status ""
  | .unreadable _ => .unreadable ""
  | .sql kind _ => .sql kind ""
  | .fault kind _ => .fault kind ""

end Failure

namespace Api

open Discography.Store Discography.Http

variable {r : Request} {f : Failure}

/-- A response for a failure of the service may have a body. -/
theorem frameworkReply_of_le {status : Int} (h : 500 ≤ status) (detail : String) :
    frameworkReply status detail = (.detail status detail, []) := by
  have hallowed : allowsBody status = true := by
    simp only [allowsBody, List.mem_cons, List.not_mem_nil, or_false, Bool.and_eq_true,
      decide_eq_true_eq]
    omega
  rw [frameworkReply, if_pos hallowed]

/-- The status of a reply has nothing to do with texts and details. -/
theorem status_reply_outline (r : Request) (f : Failure) :
    (reply r f.outline).1.status = (reply r f).1.status := by
  have hanswered (f : Failure) : (reply r f).1.status = statusOf f := status_answered r f
  rw [hanswered, hanswered]
  cases f <;> rfl

/-- A failure of the service is answered with one body. -/
theorem reply_eq_json (h : 500 ≤ (reply r f).1.status) :
    (reply r f).1 = .json (reply r f).1.status f.disclosed := by
  cases f with
  | notFound => exact absurd h (show ¬ (500 : Int) ≤ 404 by decide)
  | malformed message => exact absurd h (show ¬ (500 : Int) ≤ 400 by decide)
  | invalid problems => exact absurd h (show ¬ (500 : Int) ≤ 400 by decide)
  | unreadable text => exact absurd h (show ¬ (500 : Int) ≤ 400 by decide)
  | http status detail =>
    have hstatus : (reply r (.http status detail)).1.status = status := status_answered r _
    rw [hstatus] at h ⊢
    exact congrArg Prod.fst (frameworkReply_of_le h detail)
  | internal operation => rfl
  | database detail operation => rfl
  | custom message code category severity status => rfl
  | sql kind text => rfl
  | fault kind message => rfl

theorem json_inj {status : Int} {a b : Json.Value}
    (h : Response.json status a = Response.json status b) : a = b := by
  simpa [Response.json] using h

/-- **A reply to a failure of the service discloses one body.** It is the same body for all failures
but two kinds: the errors of the catalog with a message of their own, and the responses that the
framework makes up. Two failures that differ in texts and details alone are answered alike exactly if
these bodies are the same. Neither kind leaves an endpoint of the catalog, which never shows anything
of a failure. -/
theorem reply_discloses (r : Request) (f : Failure) (h : 500 ≤ (reply r f).1.status) :
    (reply r f).1 = .json (reply r f).1.status f.disclosed ∧
      (f.disclosed ≠ Failure.concealed →
        (∃ message code category severity status,
          f = .custom message code category severity status) ∨
        ∃ status detail, f = .http status detail) ∧
      (∀ g, g.outline = f.outline →
        ((reply r g).1 = (reply r f).1 ↔ g.disclosed = f.disclosed)) ∧
      ∀ (σ : Type) (b : Backend σ) (s : Supply) (ctx : Context) (w : World σ) (q : Request),
        ¬ AsksReadiness q → 500 ≤ (serve b s ctx q w).value.status →
          (serve b s ctx q w).value = .json 500 Failure.concealed := by
  refine ⟨reply_eq_json h, ?_, ?_, ?_⟩
  · intro hne
    cases f with
    | custom message code category severity status =>
      exact .inl ⟨message, code, category, severity, status, rfl⟩
    | http status detail => exact .inr ⟨status, detail, rfl⟩
    | _ => exact absurd rfl hne
  · intro g hg
    have hstatus : (reply r g).1.status = (reply r f).1.status := by
      rw [← status_reply_outline, hg, status_reply_outline]
    rw [reply_eq_json h, reply_eq_json (hstatus ▸ h), hstatus]
    constructor
    · exact json_inj
    · intro hd
      rw [hd]
  · intro σ b s ctx w q hq hs
    have htells := (returns_respond ctx hq).run b s w
    exact htells.hidden hs

/-- A failure of the database layer, and the same failure with another text. -/
theorem reply_discloses_sql :
    let r : Request := ⟨"GET", "/raise", "", .empty⟩
    500 ≤ (reply r (.sql .operational "no such host")).1.status ∧
      (reply r (.sql .operational "no such host")).1 = .message 500 "internal error" ∧
      (reply r (.sql .operational "wrong password")).1 =
        (reply r (.sql .operational "no such host")).1 := by
  intro r
  have h : (500 : Int) ≤ (reply r (.sql .operational "no such host")).1.status :=
    show (500 : Int) ≤ 500 by decide
  obtain ⟨hbody, -, hsame, -⟩ := reply_discloses r _ h
  exact ⟨h, hbody, (hsame (.sql .operational "wrong password") rfl).2 rfl⟩

/-- An error of the catalog with the status that such errors have by default shows its text. -/
theorem custom_error_discloses :
    let f : Failure := .custom "secret connection string" "C" .internal .error 500
    let response := (sampleResponse ⟨"GET", "/raise", "", .empty⟩ f).1
    response.status = 500 ∧ response = .message 500 "secret connection string" ∧
      response ≠ .message 500 Failure.internalMessage := by
  intro f response
  have hresponse : response = .message 500 "secret connection string" :=
    congrArg Prod.fst (sampleResponse_raise (.inl rfl) rfl f)
  refine ⟨by rw [hresponse]; rfl, hresponse, ?_⟩
  intro h
  have hbodies := json_inj (hresponse.symm.trans h)
  simp [Failure.internalMessage] at hbodies

end Api

end Discography
